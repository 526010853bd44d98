import PaxosPersistence.Pipeline.Presence

/-!
# The requests of the test program

`readProcess` of the test program asks for one number after the other through
the read test device.  A worker takes whatever answer its slot shows for its
number, whichever request that was the answer to.  When no number is asked for
twice, it is the answer to its own request, and what is counted was stored when
that request was looked up.
-/

namespace PaxosPersistence.TestRequests

open PaxosPersistence.ByteBlock
open PaxosPersistence.KernelDevice
open PaxosPersistence.LmdbOperations
open PaxosPersistence.Machine
open PaxosPersistence.Memory
open PaxosPersistence.PaxosTypes
open PaxosPersistence.Presence
open PaxosPersistence.ReadPersistence
open PaxosPersistence.ReadPipeline
open PaxosPersistence.ReadSide
open PaxosPersistence.ReadTest
open PaxosPersistence.StorageThread
open PaxosPersistence.UserStorage
open PaxosPersistence.WorkerPool
open PaxosPersistence.WorkerVerdicts
open PaxosPersistence.Workers

/-! ## Numbers that are asked for once -/

def iidOf (request : Request) : Word32 :=
  (requestHeader request.2).iid

/-- A record with a value was stored under the number of the request when it
was looked up. -/
def StoredWhenLooked (history : List Event) (work : ℕ) : Prop :=
  ∃ request entries, (requestsOf history)[work]? = some request ∧
    (lookupsOf history)[work]? = some entries ∧
    (entries (keyOf (iidOf request))).isSome = true ∧
    ¬ StoredEmpty entries (iidOf request)

/-- A record with a value has the number under which it is stored. -/
theorem iid_eq_of_answers {entries : List Byte → Option (List Byte)}
    (hentries : Storable entries) {iid asked : Word32}
    (hanswers : Answers iid (storedRecord entries asked)) : asked = iid := by
  obtain ⟨records, hrepresents, -⟩ := hentries
  rw [storedRecord_of_represents hrepresents] at hanswers
  cases hstored : records asked with
  | none =>
      rw [hstored] at hanswers
      exact absurd rfl hanswers.2
  | some accepted =>
      rw [hstored] at hanswers
      rw [← hrepresents.iid_eq asked accepted hstored]
      exact hanswers.1

section Distinct

variable {memory : DeviceMemory} {state : ReadTest} {history : List Event}

/-- An answer is the record that was stored when its request was looked up. -/
theorem exists_lookup (htrack : PresenceTrack memory state history) {work : ℕ}
    {answer : Answer} (hanswer : (answersFor history)[work]? = some answer) :
    ∃ request entries, (requestsOf history)[work]? = some request ∧
      (lookupsOf history)[work]? = some entries ∧ Storable entries ∧
      answer.iid = iidOf request ∧
      answer.record = storedRecord entries (iidOf request) := by
  obtain ⟨exchanges, queue, found, inHand, -, hmatched, -⟩ :=
    htrack.tracks.read.serves
  rw [answersFor_eq hmatched.requests_eq hmatched.answers_eq,
    List.getElem?_map, Option.map_eq_some_iff] at hanswer
  obtain ⟨exchange, hexchange, rfl⟩ := hanswer
  have hbound := (List.getElem?_eq_some_iff.mp hexchange).1
  have hlooked : (lookupsOf history)[work]? = some exchange.entries := by
    rw [hmatched.lookups_eq, List.getElem?_append_left
      (by rwa [List.length_map]), List.getElem?_map, hexchange]
    rfl
  have hstorable : Storable exchange.entries := by
    obtain ⟨event, hevent, hselect⟩ :=
      List.mem_filterMap.mp (List.mem_of_getElem? hlooked)
    cases event with
    | looked same =>
        cases hselect
        exact htrack.storable _ hevent
    | _ => cases hselect
  refine ⟨(exchange.slot, exchange.msg), exchange.entries, ?_, hlooked,
    hstorable, rfl, ?_⟩
  · rw [hmatched.requests_eq, List.getElem?_append_left
      (by rwa [List.length_map]), List.getElem?_map, hexchange]
    rfl
  · exact (hmatched.correct exchange (List.mem_of_getElem? hexchange)).filled

/-- Where every number is asked for once, nothing is borrowed. -/
theorem ownAnswered_of_distinct {before after : List Event}
    (htrack : PresenceTrack memory state (before ++ after))
    (hdistinct : ((requestsOf (before ++ after)).map iidOf).Nodup) {work : ℕ}
    (hvisible : Visible before work) : OwnAnswered before work := by
  apply ownAnswered_of_visible hvisible
  intro slot msg place answer hrequest hplace hslot hanswers
  obtain ⟨request, entries, hasked, -, hstorable, -, hrecord⟩ :=
    exists_lookup htrack (@getElem?_answersFor_append before after _ _ hplace)
  have hsame : iidOf request = iidOf (slot, msg) :=
    iid_eq_of_answers hstorable (hrecord ▸ hanswers)
  have hlater : (requestsOf (before ++ after))[work]? = some (slot, msg) := by
    rw [requestsOf_append, List.getElem?_append_left
      (List.getElem?_eq_some_iff.mp hrequest).1]
    exact hrequest
  have hnumbers : ((requestsOf (before ++ after)).map iidOf)[place]? =
      ((requestsOf (before ++ after)).map iidOf)[work]? := by
    rw [List.getElem?_map, List.getElem?_map, hasked, hlater]
    exact congrArg some hsame
  have hbound : place < ((requestsOf (before ++ after)).map iidOf).length := by
    rw [List.length_map]
    exact (List.getElem?_eq_some_iff.mp hasked).1
  exact (List.getElem?_inj hbound hdistinct).mp hnumbers

theorem fresh_of_distinct (htrack : PresenceTrack memory state history)
    (hdistinct : ((requestsOf history).map iidOf).Nodup) :
    Historically Fresh history := by
  intro before event after hsplit
  subst hsplit
  cases event with
  | decided work slot found =>
      intro hfound
      have hlaw := htrack.tracks.lawful before _ after rfl
      exact ownAnswered_of_distinct htrack hdistinct (hlaw.1.mp hfound)
  | _ => trivial

theorem storedWhenLooked_of_found (htrack : PresenceTrack memory state history)
    (hfresh : Historically Fresh history) {work : ℕ}
    (hfound : work ∈ foundOf history) : StoredWhenLooked history work := by
  obtain ⟨slot, hmem⟩ := mem_foundOf.mp hfound
  obtain ⟨before, after, hsplit⟩ := List.append_of_mem hmem
  have hown := hfresh before _ after hsplit rfl
  obtain ⟨answer, hanswer, hanswers⟩ := hsplit ▸ hown.append _
  obtain ⟨request, entries, hasked, hlooked, hstorable, hiid, hrecord⟩ :=
    exists_lookup htrack hanswer
  rw [hiid, hrecord, answers_storedRecord_iff hstorable] at hanswers
  exact ⟨request, entries, hasked, hlooked, hanswers⟩

end Distinct

/-! ## The loop -/

/-- The structure of one round of the loop, zeros but for the number. -/
def requestAccepted (i : ℕ) : UserAccepted where
  header := { UserAccepted.zeroed.header with iid := BitVec.ofNat 32 i }
  value := []
  length_eq := UserAccepted.zeroed.length_eq

/-- The loop of `readProcess` beside the storage thread and the workers. -/
structure ReadProcess where
  readTest : ReadTest
  i : ℕ
  /-- A write has failed, and the loop is left. -/
  returned : Bool

def ReadProcess.start (testMemory memory : DeviceMemory)
    (recv : Block slotSize) (entries : List Byte → Option (List Byte)) :
    ReadProcess where
  readTest := ReadTest.start testMemory memory recv entries
  i := 1
  returned := false

inductive ReadProcessAction where
  | iterate (allocated : Bool)
  | system (action : WorkersAction)

/-- The write of one round, with what `write` returns. -/
def iterate (state : ReadProcess) (allocated : Bool) :
    Except Halt (ReadProcess × List Event) := do
  let stringToSend ← paxosAcceptedToBuffer (requestAccepted state.i)
  let msg ← checked stringToSend
  let (_, _, _, ret) ← readTestWrite state.readTest.readTestDevice
    state.readTest.side.device msg allocated
  let (readTest, events) ←
    workers state.readTest (.readTestWrite msg allocated)
  return ({
      readTest
      i := if ret < 0 then state.i else state.i + 1
      returned := decide (ret < 0) }, events)

def readProcess (totalMessages : ℕ) :
    Step ReadProcess ReadProcessAction Event Halt
  | state, .iterate allocated =>
      if state.returned ∨ totalMessages ≤ state.i then .ok (state, [])
      else iterate state allocated
  | state, .system action => do
      let (readTest, events) ← workers state.readTest action
      return ({ state with readTest }, events)

/-- Only the program has the read test device open. -/
def ReadProcessAction.Meets : ReadProcessAction → Prop
  | .iterate _ => True
  | .system action => action.Meets ∧ ¬ FirstLap.IsRequest action

def ReadProcessAction.isRound : ReadProcessAction → Bool
  | .iterate _ => true
  | .system _ => false

/-! ## Steps -/

theorem length_encode_requestAccepted (i : ℕ) :
    (requestAccepted i).encode.length = sizeofPaxosAccepted := by
  rw [UserAccepted.length_encode]
  rfl

theorem requestHeader_requestAccepted (i : ℕ) :
    requestHeader (requestAccepted i).encode = (requestAccepted i).header := by
  rw [requestHeader, requestImage]
  exact (congrArg PaxosAccepted.ofImage (List.append_assoc _ _ _)).trans
    (PaxosAccepted.ofImage_toImage_append _ _)

theorem readable_requestAccepted (i : ℕ) :
    Readable (requestAccepted i).encode where
  fits := by
    rw [length_encode_requestAccepted]
    decide
  len_ge := by
    rw [requestHeader_requestAccepted]
    change (-12 : ℤ) ≤ (0 : Word32).toInt
    decide
  len_le := by
    rw [requestHeader_requestAccepted]
    change (0 : Word32).toInt ≤ (maxPaxosValueSize : ℤ)
    decide

theorem paxosAcceptedToBuffer_requestAccepted (i : ℕ) :
    paxosAcceptedToBuffer (requestAccepted i) =
      .ok (some (requestAccepted i).encode) :=
  paxosAcceptedToBuffer_eq le_rfl

/-- The numbers of the rounds before this one. -/
def numbersBefore (i : ℕ) : List Word32 :=
  (List.range' 1 (i - 1)).map (BitVec.ofNat 32)

theorem numbersBefore_succ {i : ℕ} (hi : 1 ≤ i) :
    numbersBefore (i + 1) = numbersBefore i ++ [BitVec.ofNat 32 i] := by
  obtain ⟨rounds, rfl⟩ := Nat.exists_eq_add_of_le hi
  rw [numbersBefore, numbersBefore, Nat.add_sub_cancel, Nat.add_sub_cancel_left,
    Nat.add_comm 1 rounds, List.range'_1_concat, List.map_append,
    List.map_singleton, Nat.add_comm 1 rounds]

theorem nodup_numbersBefore {i : ℕ} (hi : i ≤ 2 ^ 32) :
    (numbersBefore i).Nodup := by
  apply List.Nodup.map_on _ (List.nodup_range' 1)
  intro left hleft right hright heq
  have hleft := List.mem_range'_1.mp hleft
  have hright := List.mem_range'_1.mp hright
  have hnat := congrArg BitVec.toNat heq
  simp only [BitVec.toNat_ofNat] at hnat
  omega

/-- What the program has asked for so far are numbers of its rounds, each at
most once and in order. -/
structure ReadProcessTrack (totalMessages : ℕ) (memory : DeviceMemory)
    (state : ReadProcess) (history : List Event) : Prop where
  presence : PresenceTrack memory state.readTest history
  lap : FirstLap.LapTrack memory state.readTest history
  asked : ((requestsOf history).map iidOf).Sublist (numbersBefore state.i)
  i_pos : 1 ≤ state.i
  i_le : state.i ≤ max 1 totalMessages
  returned_eq : state.returned = false

namespace ReadProcessTrack

variable {totalMessages : ℕ} {memory : DeviceMemory} {state : ReadProcess}
variable {history : List Event}

theorem start (testMemory memory : DeviceMemory) (recv : Block slotSize)
    {entries : List Byte → Option (List Byte)} (hentries : Storable entries) :
    ReadProcessTrack totalMessages memory
      (ReadProcess.start testMemory memory recv entries) [] where
  presence := presenceTrack_start testMemory memory recv hentries
  lap := FirstLap.LapTrack.start testMemory memory recv hentries
  asked := List.Sublist.refl []
  i_pos := le_rfl
  i_le := le_max_left 1 totalMessages
  returned_eq := rfl

theorem iterate
    (htrack : ReadProcessTrack totalMessages memory state history)
    (hi : state.i < totalMessages) (allocated : Bool) :
    ∃ next events, TestRequests.iterate state allocated =
        .ok (next, events) ∧
      ReadProcessTrack totalMessages memory next (history ++ events) ∧
      next.i = state.i + 1 := by
  have htracks := htrack.presence.tracks
  have hreadable := readable_requestAccepted state.i
  have hmeets : WorkersAction.Meets
      (.readTestWrite (requestAccepted state.i).encode allocated) := hreadable
  obtain ⟨device, callback, hadd, -⟩ := htracks.read.addMessage hreadable
  have hret := readTestWrite_eq htracks.working_eq hadd allocated
  obtain ⟨next, events, hstep, hnext⟩ := presenceTrack_step state.readTest
    history (.readTestWrite (requestAccepted state.i).encode allocated)
    htrack.presence hmeets
  refine ⟨⟨next, state.i + 1, false⟩, events, ?_,
    ⟨hnext, htrack.lap.of_step hmeets hstep hnext.tracks, ?_,
      Nat.le_add_left 1 _, ?_, rfl⟩, rfl⟩
  · simp only [TestRequests.iterate, paxosAcceptedToBuffer_requestAccepted,
      checked_some, hret, hstep, bind, Except.bind, pure, Except.pure]
    rw [if_neg (by omega), decide_eq_false (by omega)]
  · rw [requestsOf_append, List.map_append, numbersBefore_succ htrack.i_pos]
    apply htrack.asked.append
    rcases FirstLap.readTestWrite_shows htracks hreadable hstep with
      ⟨rfl, -⟩ | ⟨device, rfl, -⟩
    · exact List.nil_sublist _
    · change List.Sublist
        [(requestHeader (requestAccepted state.i).encode).iid] _
      rw [requestHeader_requestAccepted]
      exact List.Sublist.refl _
  · exact (Nat.succ_le_of_lt hi).trans (le_max_right 1 totalMessages)

theorem system
    (htrack : ReadProcessTrack totalMessages memory state history)
    {action : WorkersAction} (hmeets : action.Meets)
    (haction : ¬ FirstLap.IsRequest action) :
    ∃ next events, readProcess totalMessages state (.system action) =
        .ok (next, events) ∧
      ReadProcessTrack totalMessages memory next (history ++ events) ∧
      next.i = state.i := by
  obtain ⟨readTest, events, hstep, hnext⟩ :=
    presenceTrack_step state.readTest history action htrack.presence hmeets
  obtain ⟨hshows, -⟩ :=
    FirstLap.workers_shows htrack.presence.tracks haction hstep
  refine ⟨{ state with readTest }, events, ?_,
    ⟨hnext, htrack.lap.of_step hmeets hstep hnext.tracks, ?_, htrack.i_pos,
      htrack.i_le, htrack.returned_eq⟩, rfl⟩
  · simp only [readProcess, hstep, bind, Except.bind, pure, Except.pure]
  · rw [requestsOf_append, hshows.requestsOf_eq, List.append_nil]
    exact htrack.asked

theorem step (htrack : ReadProcessTrack totalMessages memory state history)
    {action : ReadProcessAction} (haction : action.Meets) :
    ∃ next events, readProcess totalMessages state action =
        .ok (next, events) ∧
      ReadProcessTrack totalMessages memory next (history ++ events) ∧
      next.i = if action.isRound then min (max 1 totalMessages) (state.i + 1)
        else state.i := by
  have hle := htrack.i_le
  have hpos := htrack.i_pos
  cases action with
  | iterate allocated =>
      rw [readProcess]
      split
      · next hleft =>
        have hdone : totalMessages ≤ state.i := by
          rw [htrack.returned_eq] at hleft
          exact hleft.resolve_left Bool.false_ne_true
        refine ⟨state, [], rfl, by rw [List.append_nil]; exact htrack, ?_⟩
        change state.i = min (max 1 totalMessages) (state.i + 1)
        omega
      · next hloops =>
        have hi := not_le.mp (not_or.mp hloops).2
        obtain ⟨next, events, hstep, hnext, hround⟩ :=
          htrack.iterate hi allocated
        refine ⟨next, events, hstep, hnext, ?_⟩
        change next.i = min (max 1 totalMessages) (state.i + 1)
        omega
  | system action => exact htrack.system haction.1 haction.2

end ReadProcessTrack

/-! ## What is counted -/

/-- No number found is counted twice, and there is one for each request at
most. -/
theorem length_foundOf_le {history : List Event}
    (hnodup : (foundOf history).Nodup)
    (hstored : ∀ work ∈ foundOf history, StoredWhenLooked history work) :
    (foundOf history).length ≤ (requestsOf history).length := by
  have hrange : foundOf history ⊆ List.range (requestsOf history).length := by
    intro work hwork
    obtain ⟨request, entries, hasked, -⟩ := hstored work hwork
    exact List.mem_range.mpr (List.getElem?_eq_some_iff.mp hasked).1
  have hlength := (hnodup.subperm hrange).length_le
  rwa [List.length_range] at hlength

/-- However the rounds of the program, the steps of the storage thread and of
the workers and the stores of others are interleaved: the requests that get
into the ring are for the numbers of the rounds, none of them twice; each is
counted on its own answer only, and once at most; until the ring has come round
it is counted exactly if that answer is there; and `messagesFound` is just the
number of those counted, each of which had a record with a value stored under
its number when it was looked up. -/
theorem readProcess_counts {totalMessages : ℕ} (htotal : totalMessages ≤ 2 ^ 32)
    (testMemory memory : DeviceMemory) (recv : Block slotSize)
    {entries : List Byte → Option (List Byte)} (hentries : Storable entries)
    {actions : List ReadProcessAction}
    (hactions : ∀ action ∈ actions, action.Meets) :
    ∃ last events,
      run (readProcess totalMessages)
        (ReadProcess.start testMemory memory recv entries) actions =
          .ok (last, events) ∧
      last.i = min (max 1 totalMessages)
        (1 + actions.countP ReadProcessAction.isRound) ∧
      ((requestsOf events).map iidOf).Sublist (numbersBefore last.i) ∧
      Historically Fresh events ∧
      Historically FirstLap.ExactAtFirst events ∧ (foundOf events).Nodup ∧
      last.readTest.messagesFound.toNat = (foundOf events).length ∧
      ∀ work ∈ foundOf events, StoredWhenLooked events work := by
  obtain ⟨last, events, hrun, htrack, hrounds⟩ :=
    @run_of_rounds _ _ _ _ (readProcess totalMessages)
      (ReadProcessTrack totalMessages memory) ReadProcessAction.Meets
      ReadProcessAction.isRound ReadProcess.i (max 1 totalMessages)
      (fun _ _ htrack => htrack.i_le)
      (fun _ _ _ htrack haction => htrack.step haction)
      (ReadProcess.start testMemory memory recv entries) [] actions
      (ReadProcessTrack.start testMemory memory recv hentries) hactions
  rw [List.nil_append] at htrack
  have hi : last.i ≤ 2 ^ 32 :=
    htrack.i_le.trans (max_le Nat.one_le_two_pow htotal)
  have hdistinct := htrack.asked.nodup (nodup_numbersBefore hi)
  have hfresh := fresh_of_distinct htrack.presence hdistinct
  have hnodup : (foundOf events).Nodup := List.nodup_iff_count_le_one.mpr
    (count_foundOf_le_one htrack.presence.tracks.lawful)
  have hstored : ∀ work ∈ foundOf events, StoredWhenLooked events work :=
    fun _ => storedWhenLooked_of_found htrack.presence hfresh
  refine ⟨last, events, hrun, hrounds, htrack.asked, hfresh, htrack.lap.exact,
    hnodup, ?_, hstored⟩
  have hfound := length_foundOf_le hnodup hstored
  have hasked := htrack.asked.length_le
  have hpos := htrack.i_pos
  rw [List.length_map, numbersBefore, List.length_map,
    List.length_range'] at hasked
  rw [htrack.presence.tracks.found_eq, BitVec.toNat_ofNat, Nat.mod_eq_of_lt]
  omega

/-- Number one is asked for, answered and looked for. -/
def askedOnce : List ReadProcessAction :=
  .iterate true :: List.replicate 5 (.system (.thread 4096)) ++
    [.system (.wait 0), .system (.decide 0)]

theorem readProcess_counts_askedOnce :
    ∃ last events,
      run (readProcess 100)
        (ReadProcess.start zeroMemory zeroMemory (Block.zero slotSize)
          storedEntries) askedOnce = .ok (last, events) ∧
      last.i = min (max 1 100)
        (1 + askedOnce.countP ReadProcessAction.isRound) ∧
      ((requestsOf events).map iidOf).Sublist (numbersBefore last.i) ∧
      Historically Fresh events ∧
      Historically FirstLap.ExactAtFirst events ∧ (foundOf events).Nodup ∧
      last.readTest.messagesFound.toNat = (foundOf events).length ∧
      ∀ work ∈ foundOf events, StoredWhenLooked events work := by
  have hactions : ∀ action ∈ askedOnce, action.Meets := by
    simp [askedOnce, ReadProcessAction.Meets, FirstLap.IsRequest,
      WorkersAction.Meets]
  exact readProcess_counts (by decide) zeroMemory zeroMemory
    (Block.zero slotSize) storable_storedEntries hactions

end PaxosPersistence.TestRequests
