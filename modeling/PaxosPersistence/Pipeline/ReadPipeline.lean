import PaxosPersistence.Core.Machine
import PaxosPersistence.Pipeline.ReadSide

/-!
# The read pipeline

Requests are added to the read ring while the thread of the storage process
answers them and others change the database.  Whatever the interleaving, the
lookups and the answers belong to the requests in order, each answer reaches
the callback of its own request, and no request disturbs a pending one.
-/

namespace PaxosPersistence.ReadPipeline

open PaxosPersistence.ByteBlock
open PaxosPersistence.KernelDevice
open PaxosPersistence.LmdbOperations
open PaxosPersistence.Machine
open PaxosPersistence.Memory
open PaxosPersistence.PaxosTypes
open PaxosPersistence.ReadPersistence
open PaxosPersistence.ReadSide
open PaxosPersistence.StorageThread
open PaxosPersistence.TransactionalMap
open PaxosPersistence.UserStorage

structure Pipeline where
  side : Side
  database : Database

def Pipeline.start (memory : DeviceMemory) (recv : Block slotSize)
    (entries : List Byte → Option (List Byte)) : Pipeline where
  side := ⟨kdevcharInit memory, Thread.start recv⟩
  database := Store.ofEntries entries

inductive ReadAction where
  | addMessage (msg : List Byte)
  | thread (codes : MdbCodes) (pointer : Addr)
  /-- Others store records between two steps. -/
  | replace (entries : List Byte → Option (List Byte))

/-- What an addition to the read ring looks like to an observer. -/
def request (device next : PaxosKernelDevice) (msg : List Byte) :
    Option SlotId → List Event
  | none => []
  | some slot => [.requested slot msg device next]

def readPipeline : Step Pipeline ReadAction Event Halt
  | state, .addMessage msg => do
      let (device, callback) ← readPersistenceAddMessage state.side.device msg
      return ({ state with side := { state.side with device } },
        request state.side.device device msg callback)
  | state, .thread codes pointer => do
      let (side, database, events) ←
        genericStorageThread true state.side state.database codes pointer
      return ({ side, database }, events)
  | state, .replace entries =>
      .ok ({ state with database := { state.database with entries } }, [])

/-! ## Requests and answers -/

/-- A request with the database as it was when its number was looked up, and
the device before and after its answer. -/
structure Exchange where
  slot : SlotId
  msg : List Byte
  entries : List Byte → Option (List Byte)
  before : PaxosKernelDevice
  after : PaxosKernelDevice

/-- The answer fills the callback of the request, no other, with the record
that was stored under the number of the request. -/
def Exchange.Correct (exchange : Exchange) : Prop :=
  FillsOnly exchange.before exchange.after exchange.slot
    (storedRecord exchange.entries (requestHeader exchange.msg).iid)

/-- The slots of the requests that have not been answered. -/
def pendingSlots (history : List Event) : List SlotId :=
  ((requestsOf history).drop (answersOf history).length).map Prod.fst

/-- A new request leaves the slots of the pending ones alone, and what their
callbacks hold. -/
def SparesPending (history : List Event) : Event → Prop
  | .requested slot _ before after => ∀ pending ∈ pendingSlots history,
      pending ≠ slot ∧ after.msgBuf pending = before.msgBuf pending ∧
        after.callbackBuf pending = before.callbackBuf pending ∧
        after.responseRecord pending = before.responseRecord pending
  | _ => True

/-- The requests, the lookups and the answers match one to one and in order;
at most one lookup is waiting for its answer to be written. -/
structure Matched (history : List Event) (exchanges : List Exchange)
    (pending : List Request)
    (inHand : List (List Byte → Option (List Byte))) : Prop where
  requests_eq : requestsOf history =
    (exchanges.map fun exchange => (exchange.slot, exchange.msg)) ++ pending
  lookups_eq : lookupsOf history = exchanges.map Exchange.entries ++ inHand
  answers_eq : answersOf history =
    exchanges.map fun exchange => (exchange.before, exchange.after)
  correct : ∀ exchange ∈ exchanges, exchange.Correct
  inHand_le : inHand.length ≤ 1

theorem Matched.pendingSlots_eq {history : List Event}
    {exchanges : List Exchange} {pending : List Request}
    {inHand : List (List Byte → Option (List Byte))}
    (hmatched : Matched history exchanges pending inHand) :
    pendingSlots history = pending.map Prod.fst := by
  rw [pendingSlots, hmatched.answers_eq, List.length_map, hmatched.requests_eq]
  congr 1
  exact List.drop_left' (List.length_map _)

/-- A request with the record that its answer put into its callback. -/
structure Answer where
  slot : SlotId
  iid : Word32
  record : PaxosRecord
  deriving DecidableEq

/-- The answers so far; the k-th of them is the answer to the k-th request. -/
def answersFor (history : List Event) : List Answer :=
  ((requestsOf history).zip (answersOf history)).map fun exchange =>
    { slot := exchange.1.1
      iid := (requestHeader exchange.1.2).iid
      record := exchange.2.2.responseRecord exchange.1.1 }

def Exchange.answer (exchange : Exchange) : Answer where
  slot := exchange.slot
  iid := (requestHeader exchange.msg).iid
  record := exchange.after.responseRecord exchange.slot

theorem answersFor_eq {history : List Event} {exchanges : List Exchange}
    {pending : List Request}
    (hrequests : requestsOf history =
      (exchanges.map fun exchange => (exchange.slot, exchange.msg)) ++ pending)
    (hanswers : answersOf history =
      exchanges.map fun exchange => (exchange.before, exchange.after)) :
    answersFor history = exchanges.map Exchange.answer := by
  have happend := @List.zip_append _ _
    (exchanges.map fun exchange => (exchange.slot, exchange.msg)) pending
    (exchanges.map fun exchange => (exchange.before, exchange.after)) []
    (by rw [List.length_map, List.length_map])
  rw [List.append_nil, List.zip_nil_right, List.append_nil,
    List.zip_map'] at happend
  rw [answersFor, hrequests, hanswers, happend, List.map_map]
  rfl

/-- The record looked up for the oldest request, if any. -/
def LookedUp (queue : List Request) (found : Option PaxosRecord)
    (inHand : List (List Byte → Option (List Byte))) : Prop :=
  (found = none ∧ inHand = []) ∨
    ∃ slot msg rest entries, queue = (slot, msg) :: rest ∧
      found = some (storedRecord entries (requestHeader msg).iid) ∧
      inHand = [entries]

/-- The read side agrees with the history. -/
structure ReadTrack (memory : DeviceMemory) (side : Side)
    (history : List Event) : Prop where
  serves : ∃ exchanges queue found inHand,
    ReadSideServes memory side queue found ∧
      Matched history exchanges queue inHand ∧ LookedUp queue found inHand
  spares : Historically SparesPending history

/-- Events that do not concern the read side. -/
def Unrelated : Event → Prop
  | .requested .. | .looked _ | .answered .. => False
  | _ => True

namespace ReadTrack

variable {memory : DeviceMemory} {side : Side} {history : List Event}

theorem start (memory : DeviceMemory) (recv : Block slotSize) :
    ReadTrack memory ⟨kdevcharInit memory, Thread.start recv⟩ [] where
  serves := ⟨[], [], none, [], readSideServes_start memory recv,
    ⟨rfl, rfl, rfl, by simp, by simp⟩, Or.inl ⟨rfl, rfl⟩⟩
  spares := historically_nil

/-- An event elsewhere changes nothing. -/
theorem unrelated (htrack : ReadTrack memory side history) {event : Event}
    (hevent : Unrelated event) : ReadTrack memory side (history ++ [event]) := by
  obtain ⟨exchanges, queue, found, inHand, hside, hmatched, hlooked⟩ :=
    htrack.serves
  have hrequests : requestsOf [event] = [] := by
    cases event <;> first | rfl | exact hevent.elim
  have hlookups : lookupsOf [event] = [] := by
    cases event <;> first | rfl | exact hevent.elim
  have hanswers : answersOf [event] = [] := by
    cases event <;> first | rfl | exact hevent.elim
  refine ⟨⟨exchanges, queue, found, inHand, hside, ?_, hlooked⟩,
    htrack.spares.concat ?_⟩
  · exact
      { requests_eq := by
          rw [requestsOf_append, hrequests, List.append_nil,
            hmatched.requests_eq]
        lookups_eq := by
          rw [lookupsOf_append, hlookups, List.append_nil, hmatched.lookups_eq]
        answers_eq := by
          rw [answersOf_append, hanswers, List.append_nil, hmatched.answers_eq]
        correct := hmatched.correct
        inHand_le := hmatched.inHand_le }
  · cases event <;> trivial

theorem unrelated_all (htrack : ReadTrack memory side history)
    {events : List Event} (hevents : ∀ event ∈ events, Unrelated event) :
    ReadTrack memory side (history ++ events) := by
  induction events generalizing history with
  | nil => simpa using htrack
  | cons event events ih =>
      rw [List.append_cons]
      exact ih (htrack.unrelated (hevents event List.mem_cons_self))
        fun other hother => hevents other (List.mem_cons_of_mem event hother)

/-- Events without answers leave the answers as they are. -/
theorem answersFor_append (htrack : ReadTrack memory side history)
    {events : List Event} (hevents : answersOf events = []) :
    answersFor (history ++ events) = answersFor history := by
  obtain ⟨exchanges, queue, found, inHand, -, hmatched, -⟩ := htrack.serves
  rw [answersFor_eq hmatched.requests_eq hmatched.answers_eq]
  apply @answersFor_eq _ _ (queue ++ requestsOf events)
  · rw [requestsOf_append, hmatched.requests_eq, List.append_assoc]
  · rw [answersOf_append, hevents, List.append_nil, hmatched.answers_eq]

/-- A readable request is accepted by a ring with room and refused by a full
one. -/
theorem addMessage (htrack : ReadTrack memory side history) {msg : List Byte}
    (hreadable : Readable msg) :
    ∃ device callback,
      readPersistenceAddMessage side.device msg = .ok (device, callback) ∧
      ReadTrack memory { side with device }
        (history ++ request side.device device msg callback) := by
  obtain ⟨exchanges, queue, found, inHand, hside, hmatched, hlooked⟩ :=
    htrack.serves
  by_cases hfree : queue.length < bufferSize
  · obtain ⟨device, hadd, hnext, hspared⟩ := hside.addMessage hfree hreadable
    refine ⟨device, some side.device.currentBuf, hadd, ⟨exchanges, _, found,
      inHand, hnext, ?_, ?_⟩, htrack.spares.concat ?_⟩
    · exact
        { requests_eq := by
            rw [requestsOf_append, hmatched.requests_eq, List.append_assoc]
            rfl
          lookups_eq := by
            rw [lookupsOf_append, hmatched.lookups_eq]
            exact List.append_nil _
          answers_eq := by
            rw [answersOf_append, hmatched.answers_eq]
            exact List.append_nil _
          correct := hmatched.correct
          inHand_le := hmatched.inHand_le }
    · rcases hlooked with hnone | ⟨slot, head, rest, entries, rfl, hfound⟩
      · exact Or.inl hnone
      · exact Or.inr ⟨slot, head, _, entries, rfl, hfound⟩
    · intro slot hslot
      rw [hmatched.pendingSlots_eq] at hslot
      exact hspared slot hslot
  · refine ⟨side.device, none, hside.addMessage_full (not_lt.mp hfree) msg, ?_⟩
    rw [request, List.append_nil]
    exact htrack

/-- What a step of the thread on a settled database does: it leaves the device
alone, or it answers the oldest request. -/
def ThreadStep (memory : DeviceMemory) (side : Side) (database : Database)
    (history : List Event) (pointer : Addr) : Prop :=
  ∃ next after events,
    genericStorageThread true side database MdbCodes.success pointer =
      .ok (next, after, events) ∧
    after.Settled ∧ after.entries = database.entries ∧
    ((next.device = side.device ∧
        (events = [] ∨ events = [.looked database.entries])) ∨
      ∃ answer, events = [.answered side.device next.device] ∧
        answersFor (history ++ events) = answersFor history ++ [answer] ∧
        FillsOnly side.device next.device answer.slot answer.record) ∧
    ReadTrack memory next (history ++ events)

variable {database : Database}

theorem process (htrack : ReadTrack memory side history)
    {message : ClientValue} (hstage : side.thread.stage = .processing message)
    (hsettled : database.Settled) (hstorable : Storable database.entries)
    (pointer : Addr) : ThreadStep memory side database history pointer := by
  obtain ⟨exchanges, queue, found, inHand, hside, hmatched, hlooked⟩ :=
    htrack.serves
  obtain ⟨next, after, slot, msg, rest, rfl, rfl, hstep, hafter, hentries,
    hnext⟩ := hside.process hstage hsettled hstorable pointer
  obtain ⟨-, rfl⟩ | ⟨_, _, _, _, _, hfound, -⟩ := hlooked
  · have hdevice : next.device = side.device :=
      device_eq_of_not_answering (by simp [hstage]) hstep
    refine ⟨next, after, _, hstep, hafter, hentries,
      Or.inl ⟨hdevice, Or.inr rfl⟩,
      ⟨exchanges, _, _, [database.entries], hnext, ?_,
        Or.inr ⟨slot, msg, rest, database.entries, rfl, rfl, rfl⟩⟩,
      htrack.spares.concat trivial⟩
    exact
      { requests_eq := by
          rw [requestsOf_append, hmatched.requests_eq]
          exact List.append_nil _
        lookups_eq := by
          rw [lookupsOf_append, hmatched.lookups_eq, List.append_nil]
          rfl
        answers_eq := by
          rw [answersOf_append, hmatched.answers_eq]
          exact List.append_nil _
        correct := hmatched.correct
        inHand_le := le_rfl }
  · exact nomatch hfound

theorem answer (htrack : ReadTrack memory side history) {frame : List Byte}
    {count : ℕ} (hstage : side.thread.stage = .answering frame count)
    (hsettled : database.Settled) (pointer : Addr) :
    ThreadStep memory side database history pointer := by
  obtain ⟨exchanges, queue, found, inHand, hside, hmatched, hlooked⟩ :=
    htrack.serves
  obtain ⟨next, slot, msg, rest, record, rfl, rfl, hstep, hnext, hfills⟩ :=
    hside.answer hstage database MdbCodes.success pointer
  obtain ⟨hfound, -⟩ | ⟨_, _, _, entries, hqueue, hfound, rfl⟩ := hlooked
  · exact nomatch hfound
  · obtain ⟨hhead, rfl⟩ := List.cons.inj hqueue
    cases hhead
    cases hfound
    have hnextMatched : Matched (history ++ [.answered side.device next.device])
        (exchanges ++ [⟨slot, msg, entries, side.device, next.device⟩]) rest [] :=
      { requests_eq := by
          rw [requestsOf_append, hmatched.requests_eq, List.map_append,
            List.append_assoc, List.append_assoc]
          exact congrArg _ (List.append_nil _)
        lookups_eq := by
          rw [lookupsOf_append, hmatched.lookups_eq, List.map_append,
            List.append_nil]
          exact List.append_nil _
        answers_eq := by
          rw [answersOf_append, hmatched.answers_eq, List.map_append]
          rfl
        correct := by
          intro exchange hexchange
          rcases List.mem_append.mp hexchange with hold | hnew
          · exact hmatched.correct exchange hold
          · cases List.mem_singleton.mp hnew
            exact hfills
        inHand_le := Nat.zero_le 1 }
    have hanswers : answersFor (history ++ [.answered side.device next.device]) =
        answersFor history ++ [⟨slot, (requestHeader msg).iid,
          next.device.responseRecord slot⟩] := by
      rw [answersFor_eq hnextMatched.requests_eq hnextMatched.answers_eq,
        answersFor_eq hmatched.requests_eq hmatched.answers_eq, List.map_append]
      rfl
    refine ⟨next, database, _, hstep, hsettled, rfl,
      Or.inr ⟨_, rfl, hanswers, rfl, hfills.others, hfills.callbackBuf_eq⟩,
      ⟨_, rest, none, [], hnext, hnextMatched, Or.inl ⟨rfl, rfl⟩⟩,
      htrack.spares.concat trivial⟩

/-- A step that only moves the thread on. -/
theorem silent (htrack : ReadTrack memory side history) {next : Side}
    {pointer : Addr} (hsettled : database.Settled)
    (hstage : ∀ msg count, side.thread.stage ≠ .answering msg count)
    (hstep : genericStorageThread true side database MdbCodes.success pointer =
      .ok (next, database, []))
    (hnext : ∀ queue found, ReadSideServes memory side queue found →
      ReadSideServes memory next queue found) :
    ThreadStep memory side database history pointer := by
  obtain ⟨exchanges, queue, found, inHand, hside, hrest⟩ := htrack.serves
  refine ⟨next, database, [], hstep, hsettled, rfl,
    Or.inl ⟨device_eq_of_not_answering hstage hstep, Or.inl rfl⟩, ?_⟩
  rw [List.append_nil]
  exact ⟨⟨exchanges, queue, found, inHand, hnext queue found hside, hrest⟩,
    htrack.spares⟩

theorem threadStep (htrack : ReadTrack memory side history)
    (hsettled : database.Settled) (hstorable : Storable database.entries)
    (pointer : Addr) : ThreadStep memory side database history pointer := by
  obtain ⟨-, queue, found, -, hside, -⟩ := htrack.serves
  cases hstage : side.thread.stage with
  | polling =>
      obtain ⟨next, hstep, -⟩ :=
        hside.poll hstage database MdbCodes.success pointer
      apply htrack.silent hsettled (by simp [hstage]) hstep
      intro queue found hside
      obtain ⟨other, hother, hserves, -⟩ :=
        hside.poll hstage database MdbCodes.success pointer
      cases hstep.symm.trans hother
      exact hserves
  | reading =>
      obtain ⟨next, hstep, -⟩ :=
        hside.read hstage database MdbCodes.success pointer
      apply htrack.silent hsettled (by simp [hstage]) hstep
      intro queue found hside
      obtain ⟨other, hother, hserves, -⟩ :=
        hside.read hstage database MdbCodes.success pointer
      cases hstep.symm.trans hother
      exact hserves
  | decoding =>
      obtain ⟨next, message, hstep, -⟩ :=
        hside.decode hstage database MdbCodes.success pointer
      apply htrack.silent hsettled (by simp [hstage]) hstep
      intro queue found hside
      obtain ⟨other, message, hother, hserves, -⟩ :=
        hside.decode hstage database MdbCodes.success pointer
      cases hstep.symm.trans hother
      exact hserves
  | processing message =>
      exact htrack.process hstage hsettled hstorable pointer
  | answering frame count => exact htrack.answer hstage hsettled pointer
  | aborted =>
      have hserves := hside.stage
      rw [hstage] at hserves
      exact hserves.elim

end ReadTrack

/-! ## Runs of the pipeline -/

/-- The header claims no more than what follows it, and all of it fits into a
slot. -/
structure WellFormed (msg : List Byte) : Prop where
  len_nonneg : 0 ≤ (PaxosAccepted.ofImage msg).value.paxosValueLen.toInt
  len_le : (PaxosAccepted.ofImage msg).value.paxosValueLen.toInt ≤
    (msg.length : ℤ) - sizeofPaxosAccepted
  fits : msg.length ≤ slotSize

theorem requestHeader_eq {msg : List Byte}
    (hheader : sizeofPaxosAccepted ≤ msg.length) :
    requestHeader msg = PaxosAccepted.ofImage msg :=
  PaxosAccepted.ofImage_append hheader _

theorem WellFormed.readable {msg : List Byte} (hmsg : WellFormed msg) :
    Readable msg := by
  have hnonneg := hmsg.len_nonneg
  have hle := hmsg.len_le
  have hfits := hmsg.fits
  have hheader := requestHeader_eq
    (show sizeofPaxosAccepted ≤ msg.length by omega)
  refine ⟨hfits, ?_, ?_⟩
  · rw [hheader]
    omega
  · rw [hheader]
    simp only [sizeofPaxosAccepted, slotSize, maxPaxosValueSize] at *
    omega

/-- Requests are well formed, the database does not fail, and what others store
are records with values that fit. -/
def ReadAction.Faultless : ReadAction → Prop
  | .addMessage msg => WellFormed msg
  | .thread codes _ => codes = MdbCodes.success
  | .replace entries => Storable entries

/-- What holds between two steps of the pipeline. -/
structure PipelineTrack (memory : DeviceMemory) (state : Pipeline)
    (history : List Event) : Prop where
  settled : state.database.Settled
  storable : Storable state.database.entries
  track : ReadTrack memory state.side history

theorem readPipeline_step {memory : DeviceMemory} (state : Pipeline)
    (history : List Event) (action : ReadAction)
    (htrack : PipelineTrack memory state history)
    (haction : action.Faultless) :
    ∃ next events, readPipeline state action = .ok (next, events) ∧
      PipelineTrack memory next (history ++ events) := by
  cases action with
  | addMessage msg =>
      obtain ⟨device, callback, hadd, hnext⟩ :=
        htrack.track.addMessage (WellFormed.readable haction)
      refine ⟨{ state with side := { state.side with device } },
        request state.side.device device msg callback, ?_,
        htrack.settled, htrack.storable, hnext⟩
      simp only [readPipeline, hadd, bind, Except.bind, pure, Except.pure]
  | thread codes pointer =>
      cases haction
      obtain ⟨side, after, events, hstep, hsettled, hentries, -, hnext⟩ :=
        htrack.track.threadStep htrack.settled htrack.storable pointer
      refine ⟨⟨side, after⟩, events, ?_, hsettled, ?_, hnext⟩
      · simp only [readPipeline, hstep, bind, Except.bind, pure, Except.pure]
      · rw [hentries]
        exact htrack.storable
  | replace entries =>
      refine ⟨{ state with database := { state.database with entries } }, [],
        rfl, ⟨htrack.settled.pending_eq, htrack.settled.closed_eq⟩, haction, ?_⟩
      rw [List.append_nil]
      exact htrack.track

/-- For every interleaving of well-formed requests, steps of the thread and
stores of others: the k-th answer reaches the callback of the k-th request, and
no other, with the record stored at the k-th lookup; the requests not answered
yet are the last ones, and no request disturbs one of them. -/
theorem readPipeline_matched (memory : DeviceMemory) (recv : Block slotSize)
    {entries : List Byte → Option (List Byte)} (hentries : Storable entries)
    {actions : List ReadAction}
    (hactions : ∀ action ∈ actions, action.Faultless) :
    ∃ last events,
      run readPipeline (Pipeline.start memory recv entries) actions =
        .ok (last, events) ∧
      (∃ exchanges pending inHand, Matched events exchanges pending inHand) ∧
      Historically SparesPending events := by
  obtain ⟨last, events, hrun, htrack⟩ := run_of_invariant
    (PipelineTrack memory) ReadAction.Faultless
    (fun state history action => readPipeline_step state history action)
    (show PipelineTrack memory (Pipeline.start memory recv entries) [] from
      ⟨Store.settled_ofEntries entries, hentries, ReadTrack.start memory recv⟩)
    hactions
  rw [List.nil_append] at htrack
  obtain ⟨exchanges, queue, found, inHand, -, hmatched, -⟩ :=
    htrack.track.serves
  exact ⟨last, events, hrun, ⟨exchanges, queue, inHand, hmatched⟩,
    htrack.track.spares⟩

/-- A request, four steps of the thread, another request in between, and the
answer. -/
def sampleActions : List ReadAction :=
  [.addMessage (List.replicate sizeofPaxosAccepted 0),
    .thread MdbCodes.success 4096, .thread MdbCodes.success 4096,
    .thread MdbCodes.success 4096,
    .addMessage (List.replicate sizeofPaxosAccepted 0),
    .replace fun _ => none, .thread MdbCodes.success 4096,
    .thread MdbCodes.success 4096]

theorem readPipeline_matched_sample :
    Storable (fun _ => none) ∧
    (∀ action ∈ sampleActions, action.Faultless) ∧
    ∃ last events,
      run readPipeline (Pipeline.start zeroMemory (Block.zero slotSize)
        fun _ => none) sampleActions = .ok (last, events) ∧
      (∃ exchanges pending inHand, Matched events exchanges pending inHand) ∧
      Historically SparesPending events := by
  have hmsg : WellFormed (List.replicate sizeofPaxosAccepted 0) := by
    constructor <;> decide +kernel
  have hactions : ∀ action ∈ sampleActions, action.Faultless := by
    intro action haction
    simp only [sampleActions, List.mem_cons, List.not_mem_nil, or_false]
      at haction
    rcases haction with rfl | rfl | rfl | rfl | rfl | rfl | rfl | rfl
    · exact hmsg
    · rfl
    · rfl
    · rfl
    · exact hmsg
    · exact storable_empty
    · rfl
    · rfl
  exact ⟨storable_empty, hactions, readPipeline_matched zeroMemory
    (Block.zero slotSize) storable_empty hactions⟩

end PaxosPersistence.ReadPipeline
