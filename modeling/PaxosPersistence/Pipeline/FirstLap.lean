import PaxosPersistence.Pipeline.Workers

/-!
# The first lap of the read ring

Requests go into the slots one after the other.  Until the ring has come round
each of them has a slot of its own, and then nothing is borrowed and nothing is
lost in it: a worker finds an answer in its slot exactly if its own request has
been answered with one.
-/

namespace PaxosPersistence.FirstLap

open PaxosPersistence.ByteBlock
open PaxosPersistence.KernelDevice
open PaxosPersistence.LmdbOperations
open PaxosPersistence.Machine
open PaxosPersistence.Memory
open PaxosPersistence.PaxosTypes
open PaxosPersistence.ReadPersistence
open PaxosPersistence.ReadPipeline
open PaxosPersistence.ReadSide
open PaxosPersistence.ReadTest
open PaxosPersistence.RingWindow
open PaxosPersistence.StorageThread
open PaxosPersistence.UserStorage
open PaxosPersistence.WorkerPool
open PaxosPersistence.WorkerVerdicts
open PaxosPersistence.Workers

/-! ## Where the requests go -/

/-- The read thread never moves the current slot. -/
theorem currentBuf_of_thread {side next : Side} {database after : Database}
    {codes : MdbCodes} {pointer : Addr} {events : List Event}
    (hstep : genericStorageThread true side database codes pointer =
      .ok (next, after, events)) :
    next.device.currentBuf = side.device.currentBuf := by
  by_cases hstage : ∃ msg count, side.thread.stage = .answering msg count
  · obtain ⟨msg, count, hstage⟩ := hstage
    simp only [genericStorageThread, hstage] at hstep
    obtain ⟨⟨device, ret⟩, hwrite, hreturned⟩ := bind_eq_ok.mp hstep
    cases hreturned
    rcases readPersistenceWrite_cases hwrite with
      rfl | ⟨slot, accepted, value, rfl | rfl⟩ <;> rfl
  · have hsame := device_eq_of_not_answering
      (fun msg count hanswering => hstage ⟨msg, count, hanswering⟩) hstep
    rw [hsame]

def IsRequest : WorkersAction → Prop
  | .readTestWrite .. => True
  | _ => False

/-- What a step other than a request may show; a verdict is on the slot of its
request. -/
inductive Shows (state : ReadTest) (history : List Event) : List Event → Prop
  | nothing : Shows state history []
  | looked : Shows state history [.looked state.database.entries]
  | answered (before after : PaxosKernelDevice) :
      Shows state history [.answered before after]
  | elapsed (work : ℕ) : Shows state history [.elapsed work]
  | decided {work : ℕ} {slot : SlotId} {msg : List Byte} (found : Bool)
      (hrequest : (requestsOf history)[work]? = some (slot, msg)) :
      Shows state history [.decided work slot found]

theorem Shows.requestsOf_eq {state : ReadTest} {history events : List Event}
    (hshows : Shows state history events) : requestsOf events = [] := by
  cases hshows <;> rfl

section Steps

variable {memory : DeviceMemory} {state next : ReadTest}
variable {history events : List Event}

/-- A request that is accepted goes into the current slot. -/
theorem readTestWrite_shows (htrack : WorkersTrack memory state history)
    {msg : List Byte} (hreadable : Readable msg) {allocated : Bool}
    (hstep : workers state (.readTestWrite msg allocated) =
      .ok (next, events)) :
    (events = [] ∧
        next.side.device.currentBuf = state.side.device.currentBuf) ∨
      ∃ device, events = [.requested state.side.device.currentBuf msg
          state.side.device device] ∧
        next.side.device.currentBuf =
          advance state.side.device.currentBuf 1 := by
  obtain ⟨device, callback, hadd, -⟩ := htrack.read.addMessage hreadable
  have hwrite := readTestWrite_eq htrack.working_eq hadd allocated
  simp only [workers, hwrite, bind, Except.bind, pure, Except.pure] at hstep
  cases hstep
  rcases readPersistenceAddMessage_cases hreadable.fits hadd with
    ⟨rfl, rfl⟩ | ⟨rfl, block, -, rfl⟩
  · exact Or.inl ⟨rfl, rfl⟩
  · exact Or.inr ⟨_, rfl, rfl⟩

theorem workers_shows (htrack : WorkersTrack memory state history)
    {action : WorkersAction} (haction : ¬ IsRequest action)
    (hstep : workers state action = .ok (next, events)) :
    Shows state history events ∧
      next.side.device.currentBuf = state.side.device.currentBuf := by
  cases action with
  | readTestWrite msg allocated => exact absurd trivial haction
  | thread pointer =>
      obtain ⟨⟨side, database, later⟩, hthread, hreturned⟩ :=
        bind_eq_ok.mp hstep
      cases hreturned
      obtain ⟨served, after, shown, hserved, -, -, hevents, -⟩ :=
        htrack.read.threadStep htrack.settled htrack.storable pointer
      cases hthread.symm.trans hserved
      refine ⟨?_, currentBuf_of_thread hthread⟩
      rcases hevents with ⟨-, rfl | rfl⟩ | ⟨answer, rfl, -⟩
      · exact Shows.nothing
      · exact Shows.looked
      · exact Shows.answered _ _
  | replace entries =>
      cases hstep
      exact ⟨Shows.nothing, rfl⟩
  | wait work =>
      simp only [workers] at hstep
      split at hstep <;> cases hstep <;> exact ⟨Shows.nothing, rfl⟩
  | elapse work =>
      simp only [workers] at hstep
      split at hstep
      · cases hstep
        exact ⟨Shows.elapsed work, rfl⟩
      · cases hstep
        exact ⟨Shows.nothing, rfl⟩
  | decide work =>
      simp only [workers] at hstep
      split at hstep
      · next persistence elapsed hwork =>
        obtain ⟨msg, hrequest, -⟩ := htrack.works.request _ persistence _ hwork
        split at hstep
        · cases hstep
          exact ⟨Shows.decided _ hrequest, rfl⟩
        · cases hstep
          exact ⟨Shows.nothing, rfl⟩
      · cases hstep
        exact ⟨Shows.nothing, rfl⟩

end Steps

/-- A verdict is on the slot of its request. -/
def OnOwnSlot (before : List Event) : Event → Prop
  | .decided work slot _ =>
      ∃ msg, (requestsOf before)[work]? = some (slot, msg)
  | _ => True

/-- The k-th request is in the k-th slot, counted around the ring. -/
structure LapTrack (memory : DeviceMemory) (state : ReadTest)
    (history : List Event) : Prop where
  tracks : WorkersTrack memory state history
  current : state.side.device.currentBuf =
    advance 0 (requestsOf history).length
  slots : ∀ (work : ℕ) slot msg,
    (requestsOf history)[work]? = some (slot, msg) → slot = advance 0 work
  decided : Historically OnOwnSlot history

namespace LapTrack

variable {memory : DeviceMemory} {state next : ReadTest}
variable {history events : List Event}

theorem start (testMemory memory : DeviceMemory) (recv : Block slotSize)
    {entries : List Byte → Option (List Byte)} (hentries : Storable entries) :
    LapTrack memory (ReadTest.start testMemory memory recv entries) [] where
  tracks := WorkersTrack.start testMemory memory recv hentries
  current := rfl
  slots _ _ _ hrequest := by simp [requestsOf] at hrequest
  decided := historically_nil

theorem requested (htrack : LapTrack memory state history)
    (hnext : WorkersTrack memory next (history ++ events)) {msg : List Byte}
    {device : PaxosKernelDevice}
    (hevents : events = [.requested state.side.device.currentBuf msg
      state.side.device device])
    (hcurrent : next.side.device.currentBuf =
      advance state.side.device.currentBuf 1) :
    LapTrack memory next (history ++ events) := by
  subst hevents
  have hrequests : requestsOf (history ++
      [.requested state.side.device.currentBuf msg state.side.device device]) =
      requestsOf history ++ [(state.side.device.currentBuf, msg)] :=
    requestsOf_append _ _
  have hlength := congrArg List.length hrequests
  rw [List.length_append, List.length_singleton] at hlength
  refine ⟨hnext, ?_, ?_, ?_⟩
  · rw [hcurrent, hlength, htrack.current, advance_advance]
  · intro work slot sent hrequest
    rw [hrequests] at hrequest
    rcases lt_or_ge work (requestsOf history).length with hbefore | hlast
    · rw [List.getElem?_append_left hbefore] at hrequest
      exact htrack.slots work slot sent hrequest
    · have hbound := (List.getElem?_eq_some_iff.mp hrequest).1
      rw [List.length_append, List.length_singleton] at hbound
      obtain rfl : work = (requestsOf history).length := by omega
      rw [List.getElem?_concat_length] at hrequest
      cases hrequest
      exact htrack.current
  · exact htrack.decided.concat trivial

theorem shown (htrack : LapTrack memory state history)
    (hnext : WorkersTrack memory next (history ++ events))
    (hshows : Shows state history events)
    (hcurrent : next.side.device.currentBuf = state.side.device.currentBuf) :
    LapTrack memory next (history ++ events) := by
  have hrequests : requestsOf (history ++ events) = requestsOf history := by
    rw [requestsOf_append, hshows.requestsOf_eq, List.append_nil]
  refine ⟨hnext, ?_, ?_, ?_⟩
  · rw [hcurrent, hrequests]
    exact htrack.current
  · rw [hrequests]
    exact htrack.slots
  · cases hshows with
    | nothing =>
        rw [List.append_nil]
        exact htrack.decided
    | decided found hrequest => exact htrack.decided.concat ⟨_, hrequest⟩
    | _ => exact htrack.decided.concat trivial

theorem of_step (htrack : LapTrack memory state history)
    {action : WorkersAction} (hmeets : action.Meets)
    (hstep : workers state action = .ok (next, events))
    (hnext : WorkersTrack memory next (history ++ events)) :
    LapTrack memory next (history ++ events) := by
  by_cases haction : IsRequest action
  · cases action with
    | readTestWrite msg allocated =>
        rcases readTestWrite_shows htrack.tracks hmeets hstep with
          ⟨hnone, hcurrent⟩ | ⟨device, hevents, hcurrent⟩
        · exact htrack.shown hnext (hnone ▸ Shows.nothing) hcurrent
        · exact htrack.requested hnext hevents hcurrent
    | _ => exact absurd haction id
  · obtain ⟨hshows, hcurrent⟩ := workers_shows htrack.tracks haction hstep
    exact htrack.shown hnext hshows hcurrent

theorem step (htrack : LapTrack memory state history) {action : WorkersAction}
    (hmeets : action.Meets) :
    ∃ next events, workers state action = .ok (next, events) ∧
      LapTrack memory next (history ++ events) := by
  obtain ⟨next, events, hstep, hnext⟩ :=
    workers_step state history action htrack.tracks hmeets
  exact ⟨next, events, hstep, htrack.of_step hmeets hstep hnext⟩

end LapTrack

/-! ## Exact verdicts -/

/-- As long as the ring has not come round, a verdict says just whether the
request has been answered with a record of its number and some value. -/
def ExactAtFirst (before : List Event) : Event → Prop
  | .decided work _ found => (requestsOf before).length ≤ bufferSize →
      (found = true ↔ OwnAnswered before work)
  | _ => True

/-- A mark is left by a verdict. -/
theorem exists_decided_of_marked {history : List Event} {slot : SlotId}
    (hmarked : marked history slot = true) :
    ∃ work found, .decided work slot found ∈ history := by
  induction history using List.reverseRecOn with
  | nil => cases hmarked
  | append_singleton history event ih =>
      have hearlier (hbefore : marked history slot = true) :
          ∃ work found, .decided work slot found ∈ history ++ [event] := by
        obtain ⟨work, found, hmem⟩ := ih hbefore
        exact ⟨work, found, List.mem_append_left _ hmem⟩
      rw [marked_concat] at hmarked
      cases event with
      | requested other msg before after =>
          simp only [mark] at hmarked
          split at hmarked
          · cases hmarked
          · exact hearlier hmarked
      | decided work other found =>
          simp only [mark] at hmarked
          split at hmarked
          · next hsame =>
            exact ⟨work, found, by simp [hsame]⟩
          · exact hearlier hmarked
      | _ => exact hearlier hmarked

section Exact

variable {memory : DeviceMemory} {state : ReadTest}
variable {before after : List Event}

/-- Different requests of the first lap are in different slots. -/
theorem work_eq_of_slot_eq
    (htrack : LapTrack memory state (before ++ after))
    (hfew : (requestsOf before).length ≤ bufferSize) {left right : ℕ}
    {slot : SlotId} {msg other : List Byte}
    (hleft : (requestsOf before)[left]? = some (slot, msg))
    (hright : (requestsOf before)[right]? = some (slot, other)) :
    left = right := by
  have hlater {work : ℕ} {request : Request}
      (hrequest : (requestsOf before)[work]? = some request) :
      (requestsOf (before ++ after))[work]? = some request := by
    rw [requestsOf_append, List.getElem?_append_left
      (List.getElem?_eq_some_iff.mp hrequest).1]
    exact hrequest
  have hslots := (htrack.slots left slot msg (hlater hleft)).symm.trans
    (htrack.slots right slot other (hlater hright))
  have hleft := (List.getElem?_eq_some_iff.mp hleft).1
  have hright := (List.getElem?_eq_some_iff.mp hright).1
  exact advance_injective (hleft.trans_le hfew) (hright.trans_le hfew) hslots

theorem ownAnswered_at_first
    (htrack : LapTrack memory state (before ++ after))
    (hfew : (requestsOf before).length ≤ bufferSize) {work : ℕ}
    (hvisible : Visible before work) : OwnAnswered before work := by
  apply ownAnswered_of_visible hvisible
  rintro slot msg place answer hrequest hplace rfl -
  obtain ⟨sent, hsent, -⟩ := request_of_answer hplace
  exact work_eq_of_slot_eq htrack hfew hsent hrequest

/-- No other answer and no mark has come into the slot. -/
theorem visible_at_first
    (htrack : LapTrack memory state (before ++ after))
    (hfew : (requestsOf before).length ≤ bufferSize) {work : ℕ}
    (hpending : ∀ slot found, .decided work slot found ∉ before)
    (hown : OwnAnswered before work) : Visible before work := by
  obtain ⟨answer, hanswer, hanswers⟩ := hown
  obtain ⟨msg, hrequest, hiid⟩ := request_of_answer hanswer
  refine ⟨answer.slot, msg, hrequest, ?_, answer, ?_, hiid ▸ hanswers⟩
  · by_contra hmarked
    obtain ⟨other, found, hmem⟩ :=
      exists_decided_of_marked (Bool.eq_true_of_not_eq_false hmarked)
    obtain ⟨first, second, rfl⟩ := List.append_of_mem hmem
    obtain ⟨sent, hsent⟩ := htrack.decided first
      (.decided other answer.slot found) (second ++ after) (by simp)
    have hother : (requestsOf (first ++
        .decided other answer.slot found :: second))[other]? =
        some (answer.slot, sent) := by
      rw [requestsOf_append, List.getElem?_append_left
        (List.getElem?_eq_some_iff.mp hsent).1]
      exact hsent
    obtain rfl := work_eq_of_slot_eq htrack hfew hother hrequest
    exact hpending answer.slot found hmem
  · have hsome : (lastAnswer before answer.slot).isSome = true := by
      rw [lastAnswer, List.find?_isSome]
      exact ⟨answer, List.mem_reverse.mpr (List.mem_of_getElem? hanswer),
        by simp⟩
    obtain ⟨last, hlast⟩ := Option.isSome_iff_exists.mp hsome
    have hslot : last.slot = answer.slot := by
      simpa using List.find?_some hlast
    obtain ⟨place, hplace⟩ := List.getElem?_of_mem
      (List.mem_reverse.mp (List.mem_of_find?_eq_some hlast))
    obtain ⟨sent, hsent, -⟩ := request_of_answer hplace
    obtain rfl : place = work :=
      work_eq_of_slot_eq htrack hfew (hslot ▸ hsent) hrequest
    rw [hlast, ← hplace, hanswer]

/-- On the first lap every verdict is exact. -/
theorem LapTrack.exact {history : List Event}
    (htrack : LapTrack memory state history) :
    Historically ExactAtFirst history := by
  intro before event after hsplit
  subst hsplit
  cases event with
  | decided work slot found =>
      intro hfew
      obtain ⟨hverdict, hpending⟩ := htrack.tracks.lawful before _ after rfl
      rw [hverdict]
      exact ⟨ownAnswered_at_first htrack hfew,
        visible_at_first htrack hfew hpending⟩
  | _ => trivial

end Exact

end PaxosPersistence.FirstLap
