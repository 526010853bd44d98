import PaxosPersistence.Kernel.AddStatements

/-!
# When a message is published

A consumer learns from the count alone whether there is a message to take, and
both add handlers count a message before they write it.  This module lets the
consumer run between any two statements of an addition and determines when a
poll reports only complete messages.
-/

namespace PaxosPersistence.Publication

open PaxosPersistence.AddStatements
open PaxosPersistence.AddStatements.AddStatement
open PaxosPersistence.ByteBlock
open PaxosPersistence.DeviceRing
open PaxosPersistence.KernelDevice
open PaxosPersistence.Machine
open PaxosPersistence.Memory
open PaxosPersistence.PaxosTypes
open PaxosPersistence.ReadPersistence
open PaxosPersistence.RingWindow
open PaxosPersistence.WriteAccounting
open PaxosPersistence.WritePersistence

/-- An addition past its admission test: the message, the local variables, and
the statements still to be executed. -/
structure RunningAdd where
  msg : List Byte
  locals : Locals
  rest : List AddStatement

inductive ConsumerPhase where
  | idle
  /-- The last poll reported `POLLIN`. -/
  | polled
  /-- A request has been read and not yet answered. -/
  | serving
  deriving DecidableEq

/-- The device, its one producer and its consumer.  `complete` holds the
messages that are completely written and not yet delivered, oldest first, and
`stranded` counts the failed reads; the code has neither. -/
structure Ring where
  device : PaxosKernelDevice
  adding : Option RunningAdd
  consumer : ConsumerPhase
  complete : List (List Byte)
  stranded : ℕ

/-- No call is running, and the ring holds the messages of a queue. -/
def Ring.start (device : PaxosKernelDevice) (queue : List (List Byte)) :
    Ring where
  device := device
  adding := none
  consumer := .idle
  complete := queue
  stranded := 0

/-- After a call of the consumer, a message behind the first index counts as
delivered. -/
def Ring.passed (state : Ring) (device : PaxosKernelDevice) : Ring :=
  { state with
    device := device
    complete :=
      if device.firstBuf = state.device.firstBuf then state.complete
      else state.complete.tail }

/-- A read of the write device takes the oldest message off the ring, one of
the read device leaves it there to be answered. -/
def Ring.read (state : Ring) (buffer : List Byte) (faults : ReadFaults) :
    DeviceKind → Except Halt Ring
  | .write => do
      let (device, _, len) ← writePersistenceRead state.device buffer faults
      return { state.passed device with
        consumer := .idle
        stranded := if len = -1 then state.stranded + 1 else state.stranded }
  | .read => do
      let _ ← readPersistenceRead state.device buffer faults
      return { state with consumer := .serving }

/-- With this statement the slot is completely written. -/
def completes (statement : AddStatement) (rest : List AddStatement) : Bool :=
  statement.writesSlot && !rest.any writesSlot

inductive PublishAction where
  /-- A call of the add handler up to its admission test. -/
  | enter (msg : List Byte)
  /-- The next statement of the running addition, or its return. -/
  | statement
  | poll
  | read (buffer : List Byte) (faults : ReadFaults)
  /-- The write handler of the read device. -/
  | answer (buffer : List Byte) (len : ℕ) (faults : WriteFaults)

/-- One step.  There is one producer, and the consumer reads only after a poll
reported `POLLIN`, and answers only what it has read. -/
def publish (kind : DeviceKind) : Step Ring PublishAction Empty Halt
  | state, .enter msg =>
      match state.adding with
      | some _ => .ok (state, [])
      | none =>
          if bufferSize ≤ state.device.usedBuf then .ok (state, [])
          else
            .ok ({ state with
              adding := some ⟨msg, .start msg.length, kind.statements⟩ }, [])
  | state, .statement =>
      match state.adding with
      | none => .ok (state, [])
      | some ⟨_, _, []⟩ => .ok ({ state with adding := none }, [])
      | some ⟨msg, locals, statement :: rest⟩ => do
          let (device, locals) ← execute state.device msg locals statement
          return ({ state with
            device := device
            adding := some ⟨msg, locals, rest⟩
            complete :=
              if completes statement rest then state.complete ++ [msg]
              else state.complete }, [])
  | state, .poll =>
      .ok ({ state with
        consumer := if state.device.devicePoll then .polled else .idle }, [])
  | state, .read buffer faults =>
      if state.consumer ≠ .polled then .ok (state, [])
      else do
        let next ← state.read buffer faults kind
        return (next, [])
  | state, .answer buffer len faults =>
      if kind = .write ∨ state.consumer ≠ .serving then .ok (state, [])
      else do
        let (device, _) ← readPersistenceWrite state.device buffer len faults
        return ({ state.passed device with consumer := .idle }, [])

/-! ## How far an addition is -/

inductive AddPhase where
  | idle
  /-- Admitted and not yet counted. -/
  | admitted
  /-- Counted and not yet completely written. -/
  | writing
  /-- Completely written, the current index not yet moved on. -/
  | written
  deriving DecidableEq

def phaseOf (rest : List AddStatement) : AddPhase :=
  if .countMessage ∈ rest then .admitted
  else if rest.any writesSlot then .writing
  else if .moveCurrent ∈ rest then .written
  else .idle

def Ring.phase (state : Ring) : AddPhase :=
  match state.adding with
  | none => .idle
  | some add => phaseOf add.rest

/-- Whether the count includes the message being written. -/
def AddPhase.counted (phase : AddPhase) : ℕ :=
  if phase = .writing then 1 else 0

/-- Whether the message just written lies in the current slot. -/
def AddPhase.unmoved (phase : AddPhase) : ℕ :=
  if phase = .written then 1 else 0

/-- If a poll reports `POLLIN`, the first slot holds all bytes of the oldest
message that is completely written and not delivered. -/
def FirstComplete (kind : DeviceKind) (state : Ring) : Prop :=
  state.device.devicePoll = true →
    ∃ msg rest, state.complete = msg :: rest ∧
      kind.Holds (state.device.msgBuf state.device.firstBuf) msg

/-- The count does not exceed the number of such messages. -/
def CountCovered (state : Ring) : Prop :=
  state.device.usedBuf ≤ state.complete.length

/-- While a message is counted and not complete there is a complete one, or
the count lacks one that a failed read has left behind. -/
def Backed (state : Ring) : Prop :=
  state.phase = .writing → state.complete ≠ [] ∨ 0 < state.stranded

/-- No message is counted before it is complete, but in place of one that a
failed read has left behind. -/
def NeverAhead (state : Ring) : Prop :=
  state.phase = .writing → 0 < state.stranded

/-- An addition is admitted only while some slot holds no message that is
complete and not delivered. -/
def FindsFreeSlot (state : Ring) (_history : List Empty) :
    PublishAction → Prop
  | .enter _ => state.device.usedBuf < bufferSize →
      state.complete.length < bufferSize
  | _ => True

/-- Each statement takes an addition from one phase to the next or leaves it
where it is. -/
theorem phases_of_suffix {kind : DeviceKind} {statement : AddStatement}
    {rest : List AddStatement}
    (hsuffix : statement :: rest <:+ kind.statements) :
    (statement = .countMessage ∧ completes statement rest = false ∧
        phaseOf (statement :: rest) = .admitted ∧ phaseOf rest = .writing) ∨
      (statement ≠ .countMessage ∧ statement ≠ .moveCurrent ∧
        completes statement rest = false ∧
        phaseOf (statement :: rest) = .writing ∧ phaseOf rest = .writing) ∨
      (statement ≠ .countMessage ∧ statement ≠ .moveCurrent ∧
        completes statement rest = true ∧
        phaseOf (statement :: rest) = .writing ∧ phaseOf rest = .written) ∨
      (statement ≠ .countMessage ∧ statement ≠ .moveCurrent ∧
        statement.writesSlot = false ∧
        phaseOf (statement :: rest) = .written ∧ phaseOf rest = .written) ∨
      (statement = .moveCurrent ∧ rest = []) := by
  cases kind with
  | write =>
      simp only [DeviceKind.statements, List.suffix_cons_iff, List.cons.injEq,
        List.suffix_nil, List.cons_ne_nil, or_false] at hsuffix
      rcases hsuffix with h | h | h | h | h | h | h | h | h | h <;>
        obtain ⟨rfl, rfl⟩ := h <;> decide
  | read =>
      simp only [DeviceKind.statements, List.suffix_cons_iff, List.cons.injEq,
        List.suffix_nil, List.cons_ne_nil, or_false] at hsuffix
      rcases hsuffix with h | h | h | h | h | h | h | h <;>
        obtain ⟨rfl, rfl⟩ := h <;> decide

/-! ## The invariant -/

/-- The complete messages lie from the first slot on, the current index points
behind them, and the count is theirs but for the message being written and
those left behind by failed reads. -/
structure Publishing (kind : DeviceKind) (state : Ring) : Prop where
  working_eq : state.device.working = true
  slots : List.Forall₂ kind.Holds
    (contents state.device.msgBuf state.device.firstBuf state.complete.length)
    state.complete
  placed : advance state.device.currentBuf state.phase.unmoved =
    advance state.device.firstBuf state.complete.length
  length_le : state.complete.length ≤ bufferSize
  free : state.phase = .admitted ∨ state.phase = .writing →
    state.complete.length < bufferSize
  usedBuf_eq : state.device.usedBuf + state.stranded =
    state.complete.length + state.phase.counted
  nonneg : 0 ≤ state.device.usedBuf
  reads : state.consumer ≠ .idle →
    0 < state.device.usedBuf ∧ state.complete ≠ []
  progress : ∀ add, state.adding = some add → add.rest ≠ [] →
    ∃ done block, kind.statements = done ++ add.rest ∧
      writeSlots add.msg add.msg.length block done =
        .ok (add.locals.size,
          state.device.msgBuf state.device.currentBuf)

theorem publishing_start {kind : DeviceKind} {device : PaxosKernelDevice}
    {queue : List (List Byte)} (hring : RingHolds kind.Holds device queue) :
    Publishing kind (Ring.start device queue) where
  working_eq := hring.working_eq
  slots := hring.slots
  placed := (advance_zero _).trans hring.occupies.current_eq
  length_le := hring.length_le
  free := fun hphase => nomatch hphase
  usedBuf_eq := congrArg (· + (0 : ℤ)) hring.usedBuf_eq
  nonneg := hring.usedBuf_eq ▸ Int.natCast_nonneg _
  reads := fun hconsumer => absurd rfl hconsumer
  progress := fun _ hadding => nomatch hadding

namespace Publishing

variable {kind : DeviceKind} {state : Ring}

theorem counted_le (hpub : Publishing kind state) :
    state.device.usedBuf ≤ bufferSize := by
  have hused := hpub.usedBuf_eq
  have hlength := hpub.length_le
  by_cases hwriting : state.phase = .writing
  · have hfree := hpub.free (Or.inr hwriting)
    rw [AddPhase.counted, if_pos hwriting] at hused
    omega
  · rw [AddPhase.counted, if_neg hwriting] at hused
    omega

/-- The oldest complete message lies in the first slot. -/
theorem head {msg : List Byte} {rest : List (List Byte)}
    (hpub : Publishing kind state) (hcomplete : state.complete = msg :: rest) :
    kind.Holds (state.device.msgBuf state.device.firstBuf) msg := by
  have hslots := hpub.slots
  rw [hcomplete, List.length_cons, contents_pop] at hslots
  exact (List.forall₂_cons.mp hslots).1

/-- Under the invariant a poll is right exactly in the states that are
backed. -/
theorem firstComplete_iff (hpub : Publishing kind state) :
    FirstComplete kind state ↔ Backed state := by
  have hused := hpub.usedBuf_eq
  have hpoll : state.device.devicePoll = true ↔ 0 < state.device.usedBuf := by
    rw [PaxosKernelDevice.devicePoll, decide_eq_true_iff]
  constructor
  · intro hfirst hwriting
    by_cases hstranded : 0 < state.stranded
    · exact Or.inr hstranded
    · rw [AddPhase.counted, if_pos hwriting] at hused
      obtain ⟨msg, rest, hcomplete, -⟩ := hfirst (hpoll.mpr (by omega))
      rw [hcomplete]
      exact Or.inl (List.cons_ne_nil msg rest)
  · intro hbacked hpositive
    rw [hpoll] at hpositive
    cases hcomplete : state.complete with
    | cons msg rest => exact ⟨msg, rest, rfl, hpub.head hcomplete⟩
    | nil =>
        rw [hcomplete, List.length_nil] at hused
        by_cases hwriting : state.phase = .writing
        · have hstranded := (hbacked hwriting).resolve_left
            (not_not.mpr hcomplete)
          rw [AddPhase.counted, if_pos hwriting] at hused
          omega
        · rw [AddPhase.counted, if_neg hwriting] at hused
          omega

theorem countCovered_iff (hpub : Publishing kind state) :
    CountCovered state ↔ NeverAhead state := by
  have hused := hpub.usedBuf_eq
  rw [CountCovered, NeverAhead]
  by_cases hwriting : state.phase = .writing
  · rw [AddPhase.counted, if_pos hwriting] at hused
    constructor
    · intro hcovered _
      omega
    · intro hahead
      have hstranded := hahead hwriting
      omega
  · rw [AddPhase.counted, if_neg hwriting] at hused
    constructor
    · intro _ hphase
      exact absurd hphase hwriting
    · intro _
      omega

/-- A count that is not ahead is one that a poll may trust. -/
theorem firstComplete_of_countCovered (hpub : Publishing kind state)
    (hcovered : CountCovered state) : FirstComplete kind state :=
  hpub.firstComplete_iff.mpr fun hwriting =>
    Or.inr (hpub.countCovered_iff.mp hcovered hwriting)

/-! ## The producer's steps -/

theorem enter (hpub : Publishing kind state) (hidle : state.adding = none)
    (hfree : state.complete.length < bufferSize) (msg : List Byte) :
    Publishing kind
      { state with
        adding := some ⟨msg, .start msg.length, kind.statements⟩ } := by
  have hbefore : state.phase = .idle := by rw [Ring.phase, hidle]
  have hafter : phaseOf kind.statements = .admitted := by
    cases kind <;> decide
  have hplaced := hpub.placed
  have hused := hpub.usedBuf_eq
  rw [hbefore] at hplaced hused
  exact
    { working_eq := hpub.working_eq
      slots := hpub.slots
      placed := by
        simp only [Ring.phase, hafter]
        exact hplaced
      length_le := hpub.length_le
      free := fun _ => hfree
      usedBuf_eq := by
        simp only [Ring.phase, hafter]
        exact hused
      nonneg := hpub.nonneg
      reads := hpub.reads
      progress := by
        rintro add hadd -
        obtain rfl := Option.some.inj hadd
        exact ⟨[], state.device.msgBuf state.device.currentBuf, rfl, rfl⟩ }

theorem leave (hpub : Publishing kind state) {msg : List Byte}
    {locals : Locals} (hadding : state.adding = some ⟨msg, locals, []⟩) :
    Publishing kind { state with adding := none } := by
  have hbefore : state.phase = .idle := by
    rw [Ring.phase, hadding]
    rfl
  have hplaced := hpub.placed
  have hused := hpub.usedBuf_eq
  rw [hbefore] at hplaced hused
  exact
    { working_eq := hpub.working_eq
      slots := hpub.slots
      placed := hplaced
      length_le := hpub.length_le
      free := fun hphase => nomatch hphase
      usedBuf_eq := hused
      nonneg := hpub.nonneg
      reads := hpub.reads
      progress := fun _ hadd => nomatch hadd }

/-- What is written so far, with one more statement. -/
theorem progress_concat (hpub : Publishing kind state) {msg : List Byte}
    {locals after : Locals} {statement : AddStatement}
    {rest : List AddStatement}
    {block : Block slotSize}
    (hadding : state.adding = some ⟨msg, locals, statement :: rest⟩)
    (hwrite : writeSlot msg locals.size
      (state.device.msgBuf state.device.currentBuf) statement =
        .ok (after.size, block)) :
    ∃ done start, kind.statements = done ++ rest ∧
      writeSlots msg msg.length start done = .ok (after.size, block) := by
  obtain ⟨done, start, hsplit, hdone⟩ :=
    hpub.progress _ hadding (List.cons_ne_nil statement rest)
  refine ⟨done ++ [statement], start, by rw [hsplit]; simp, ?_⟩
  rw [writeSlots_append, hdone]
  simp only [Except.bind, writeSlots, hwrite, bind]

section Statements

variable {msg : List Byte} {locals after : Locals} {callback : SlotId}
variable {rest : List AddStatement}

/-- The first statement counts the message. -/
theorem countMessage (hpub : Publishing kind state)
    (hadding : state.adding = some ⟨msg, locals, .countMessage :: rest⟩)
    (hsize : after.size = locals.size)
    (hbefore : state.phase = .admitted) (hafter : phaseOf rest = .writing) :
    Publishing kind { state with
      device := { state.device with usedBuf := atomicInc state.device.usedBuf }
      adding := some ⟨msg, after, rest⟩ } := by
  have hfree := hpub.free (Or.inl hbefore)
  have hplaced := hpub.placed
  have hused := hpub.usedBuf_eq
  have hnonneg := hpub.nonneg
  rw [hbefore] at hplaced hused
  simp only [AddPhase.counted, reduceCtorEq, if_false] at hused
  have hinc : atomicInc state.device.usedBuf = state.device.usedBuf + 1 :=
    atomicInc_of_lt hnonneg (by omega)
  exact
    { working_eq := hpub.working_eq
      slots := hpub.slots
      placed := by
        simp only [Ring.phase, hafter]
        exact hplaced
      length_le := hpub.length_le
      free := fun _ => hfree
      usedBuf_eq := by
        simp only [Ring.phase, hafter, AddPhase.counted, if_true, hinc]
        omega
      nonneg := by
        simp only [hinc]
        omega
      reads := fun hconsumer => by
        obtain ⟨hpositive, hcomplete⟩ := hpub.reads hconsumer
        simp only [hinc]
        exact ⟨by omega, hcomplete⟩
      progress := by
        rintro add hadd -
        obtain rfl := Option.some.inj hadd
        exact hpub.progress_concat hadding (by rw [hsize]; rfl) }

/-- The current slot is none of the complete ones while it is being
written. -/
theorem currentBuf_notMem (hpub : Publishing kind state)
    (hwriting : state.phase = .writing) :
    state.device.currentBuf ∉
      window state.device.firstBuf state.complete.length := by
  have hplaced := hpub.placed
  rw [hwriting, AddPhase.unmoved, if_neg (by decide), advance_zero] at hplaced
  rw [hplaced]
  exact advance_notMem_window _ (hpub.free (Or.inr hwriting))

/-- A statement in the middle changes at most the current slot. -/
theorem fill (hpub : Publishing kind state)
    {statement : AddStatement} {block : Block slotSize}
    {device : PaxosKernelDevice}
    (hadding : state.adding = some ⟨msg, locals, statement :: rest⟩)
    (hwrite : writeSlot msg locals.size
      (state.device.msgBuf state.device.currentBuf) statement =
        .ok (after.size, block))
    (hdevice : device = setFields (putCurrent state.device block) callback
      statement)
    (hcount : statement ≠ .countMessage) (hmove : statement ≠ .moveCurrent)
    (hbefore : state.phase = .writing) (hafter : phaseOf rest = .writing) :
    Publishing kind { state with
      device := device
      adding := some ⟨msg, after, rest⟩ } := by
  have hslots := contents_update_of_notMem state.device.msgBuf
    (hpub.currentBuf_notMem hbefore) block
  have hplaced := hpub.placed
  have hused := hpub.usedBuf_eq
  have hcurrent := setFields_currentBuf (putCurrent state.device block) callback
    hmove
  have hsame := setFields_usedBuf (putCurrent state.device block) callback
    hcount
  rw [hbefore] at hplaced hused
  subst hdevice
  exact
    { working_eq := by
        rw [setFields_working]
        exact hpub.working_eq
      slots := by
        rw [setFields_msgBuf, setFields_firstBuf]
        exact hslots.symm ▸ hpub.slots
      placed := by
        simp only [Ring.phase, hafter, hcurrent, setFields_firstBuf]
        exact hplaced
      length_le := hpub.length_le
      free := fun _ => hpub.free (Or.inr hbefore)
      usedBuf_eq := by
        simp only [Ring.phase, hafter, hsame]
        exact hused
      nonneg := hsame.symm ▸ hpub.nonneg
      reads := hsame.symm ▸ hpub.reads
      progress := by
        rintro add hadd -
        obtain rfl := Option.some.inj hadd
        obtain ⟨done, start, hsplit, hdone⟩ :=
          hpub.progress_concat hadding hwrite
        exact ⟨done, start, hsplit,
          (setFields_current state.device callback hmove block).symm ▸ hdone⟩ }

/-- The statement that ends the writing adds the message to the complete
ones. -/
theorem complete (hpub : Publishing kind state)
    {statement : AddStatement} {block : Block slotSize}
    {device : PaxosKernelDevice}
    (hadding : state.adding = some ⟨msg, locals, statement :: rest⟩)
    (hwrite : writeSlot msg locals.size
      (state.device.msgBuf state.device.currentBuf) statement =
        .ok (after.size, block))
    (hdevice : device = setFields (putCurrent state.device block) callback
      statement)
    (hcount : statement ≠ .countMessage) (hmove : statement ≠ .moveCurrent)
    (hlast : completes statement rest = true)
    (hbefore : state.phase = .writing) (hafter : phaseOf rest = .written) :
    Publishing kind { state with
      device := device
      adding := some ⟨msg, after, rest⟩
      complete := state.complete ++ [msg] } := by
  have hfree := hpub.free (Or.inr hbefore)
  have hplaced := hpub.placed
  have hused := hpub.usedBuf_eq
  have hcurrent := setFields_currentBuf (putCurrent state.device block) callback
    hmove
  have hsame := setFields_usedBuf (putCurrent state.device block) callback
    hcount
  obtain ⟨done, start, hsplit, hdone⟩ := hpub.progress_concat hadding hwrite
  have hleaves : rest.any writesSlot = false := by
    rw [completes, Bool.and_eq_true, Bool.not_eq_true'] at hlast
    exact hlast.2
  have hholds : kind.Holds block msg := by
    obtain ⟨last, hrest⟩ := writeSlots_of_not_writesSlot msg after.size block
      hleaves
    apply @holds_of_writeSlots kind msg start block last
    rw [hsplit, writeSlots_append, hdone]
    exact hrest
  rw [hbefore, AddPhase.unmoved, if_neg (by decide), advance_zero] at hplaced
  rw [hbefore, AddPhase.counted, if_pos rfl] at hused
  have hslots : List.Forall₂ kind.Holds
      (contents (Function.update state.device.msgBuf state.device.currentBuf
        block) state.device.firstBuf (state.complete.length + 1))
      (state.complete ++ [msg]) := by
    rw [hplaced, contents_push _ _ hfree]
    exact List.rel_append hpub.slots (.cons hholds .nil)
  subst hdevice
  exact
    { working_eq := by
        rw [setFields_working]
        exact hpub.working_eq
      slots := by
        rw [setFields_msgBuf, setFields_firstBuf, List.length_append]
        exact hslots
      placed := by
        simp only [Ring.phase, hafter, hcurrent, setFields_firstBuf,
          List.length_append, List.length_singleton, AddPhase.unmoved, if_true]
        rw [← advance_advance]
        exact congrArg (advance · 1) hplaced
      length_le := by
        rw [List.length_append]
        exact hfree
      free := by
        simp only [Ring.phase, hafter]
        exact fun hphase => nomatch hphase
      usedBuf_eq := by
        simp only [Ring.phase, hafter, hsame, List.length_append,
          List.length_singleton]
        exact hused
      nonneg := hsame.symm ▸ hpub.nonneg
      reads := fun hconsumer =>
        ⟨hsame.symm ▸ (hpub.reads hconsumer).1, by simp⟩
      progress := by
        rintro add hadd -
        obtain rfl := Option.some.inj hadd
        exact ⟨done, start, hsplit,
          (setFields_current state.device callback hmove block).symm ▸ hdone⟩ }

/-- Resetting the callback leaves the ring. -/
theorem reset (hpub : Publishing kind state)
    {statement : AddStatement} {block : Block slotSize}
    {device : PaxosKernelDevice}
    (hadding : state.adding = some ⟨msg, locals, statement :: rest⟩)
    (hwrite : writeSlot msg locals.size
      (state.device.msgBuf state.device.currentBuf) statement =
        .ok (after.size, block))
    (hdevice : device = setFields (putCurrent state.device block) callback
      statement)
    (hcount : statement ≠ .countMessage) (hmove : statement ≠ .moveCurrent)
    (hleaves : statement.writesSlot = false)
    (hbefore : state.phase = .written) (hafter : phaseOf rest = .written) :
    Publishing kind { state with
      device := device
      adding := some ⟨msg, after, rest⟩ } := by
  have hblock : block = state.device.msgBuf state.device.currentBuf := by
    obtain ⟨last, hsame⟩ := writeSlot_of_not_writesSlot msg locals.size
      (state.device.msgBuf state.device.currentBuf) hleaves
    rw [hwrite] at hsame
    exact (Prod.mk.inj (Except.ok.inj hsame)).2
  have hprogress := hpub.progress_concat hadding hwrite
  have hplaced := hpub.placed
  have hused := hpub.usedBuf_eq
  rw [hblock, putCurrent_self] at hdevice
  rw [hbefore] at hplaced hused
  have hcurrent := setFields_currentBuf state.device callback hmove
  have hsame := setFields_usedBuf state.device callback hcount
  subst hdevice
  exact
    { working_eq := by
        rw [setFields_working]
        exact hpub.working_eq
      slots := by
        rw [setFields_msgBuf, setFields_firstBuf]
        exact hpub.slots
      placed := by
        simp only [Ring.phase, hafter, hcurrent, setFields_firstBuf]
        exact hplaced
      length_le := hpub.length_le
      free := by
        simp only [Ring.phase, hafter]
        exact fun hphase => nomatch hphase
      usedBuf_eq := by
        simp only [Ring.phase, hafter, hsame]
        exact hused
      nonneg := hsame.symm ▸ hpub.nonneg
      reads := hsame.symm ▸ hpub.reads
      progress := by
        rintro add hadd -
        obtain rfl := Option.some.inj hadd
        rw [hblock] at hprogress
        simpa only [setFields_msgBuf, hcurrent] using hprogress }

/-- The last statement moves the current index behind the message. -/
theorem moveCurrent (hpub : Publishing kind state)
    (hadding : state.adding = some ⟨msg, locals, [.moveCurrent]⟩) :
    Publishing kind { state with
      device := { state.device with
        currentBuf := advance state.device.currentBuf 1 }
      adding := some ⟨msg, after, []⟩ } := by
  have hbefore : state.phase = .written := by
    rw [Ring.phase, hadding]
    change phaseOf [.moveCurrent] = .written
    decide
  have hplaced := hpub.placed
  have hused := hpub.usedBuf_eq
  rw [hbefore] at hplaced hused
  exact
    { working_eq := hpub.working_eq
      slots := hpub.slots
      placed := (advance_zero _).trans hplaced
      length_le := hpub.length_le
      free := fun hphase => nomatch hphase
      usedBuf_eq := hused
      nonneg := hpub.nonneg
      reads := hpub.reads
      progress := by
        rintro add hadd hrest
        obtain rfl := Option.some.inj hadd
        exact absurd rfl hrest }

theorem statement (hpub : Publishing kind state)
    {statement : AddStatement} {device : PaxosKernelDevice}
    (hadding : state.adding = some ⟨msg, locals, statement :: rest⟩)
    (hexecute : execute state.device msg locals statement =
      .ok (device, after)) :
    Publishing kind { state with
      device := device
      adding := some ⟨msg, after, rest⟩
      complete :=
        if completes statement rest then state.complete ++ [msg]
        else state.complete } := by
  obtain ⟨block, hwrite, hdevice⟩ := execute_eq_ok hexecute
  obtain ⟨done, -, hsplit, -⟩ :=
    hpub.progress _ hadding (List.cons_ne_nil statement rest)
  have hphase : state.phase = phaseOf (statement :: rest) := by
    rw [Ring.phase, hadding]
  rcases phases_of_suffix ⟨done, hsplit.symm⟩ with
    ⟨rfl, hlast, hbefore, hafter⟩ | ⟨hcount, hmove, hlast, hbefore, hafter⟩ |
    ⟨hcount, hmove, hlast, hbefore, hafter⟩ |
    ⟨hcount, hmove, hleaves, hbefore, hafter⟩ | ⟨rfl, rfl⟩
  · obtain ⟨hsize, rfl⟩ := Prod.mk.inj (Except.ok.inj hwrite)
    rw [putCurrent_self] at hdevice
    rw [hdevice, hlast]
    exact hpub.countMessage hadding hsize.symm (hphase.trans hbefore) hafter
  · rw [hlast]
    exact hpub.fill hadding hwrite hdevice hcount hmove (hphase.trans hbefore)
      hafter
  · rw [hlast]
    exact hpub.complete hadding hwrite hdevice hcount hmove hlast
      (hphase.trans hbefore) hafter
  · rw [completes, hleaves]
    exact hpub.reset hadding hwrite hdevice hcount hmove hleaves
      (hphase.trans hbefore) hafter
  · obtain ⟨-, rfl⟩ := Prod.mk.inj (Except.ok.inj hwrite)
    rw [putCurrent_self] at hdevice
    rw [hdevice]
    exact hpub.moveCurrent hadding

end Statements

/-! ## The consumer's steps -/

theorem poll (hpub : Publishing kind state)
    (hfirst : FirstComplete kind state) :
    Publishing kind { state with
      consumer := if state.device.devicePoll then .polled else .idle } where
  working_eq := hpub.working_eq
  slots := hpub.slots
  placed := hpub.placed
  length_le := hpub.length_le
  free := hpub.free
  usedBuf_eq := hpub.usedBuf_eq
  nonneg := hpub.nonneg
  reads hconsumer := by
    have hpoll : state.device.devicePoll = true := by
      by_contra hempty
      exact hconsumer (if_neg hempty)
    obtain ⟨msg, rest, hcomplete, -⟩ := hfirst hpoll
    refine ⟨of_decide_eq_true hpoll, ?_⟩
    rw [hcomplete]
    exact List.cons_ne_nil msg rest
  progress := hpub.progress

/-- A consumer between two calls knows nothing. -/
theorem idle (hpub : Publishing kind state) :
    Publishing kind { state with consumer := .idle } where
  working_eq := hpub.working_eq
  slots := hpub.slots
  placed := hpub.placed
  length_le := hpub.length_le
  free := hpub.free
  usedBuf_eq := hpub.usedBuf_eq
  nonneg := hpub.nonneg
  reads := fun hconsumer => absurd rfl hconsumer
  progress := hpub.progress

/-- A request that was read is still there to be answered. -/
theorem serve (hpub : Publishing kind state) (hpolled : state.consumer ≠ .idle) :
    Publishing kind { state with consumer := .serving } where
  working_eq := hpub.working_eq
  slots := hpub.slots
  placed := hpub.placed
  length_le := hpub.length_le
  free := hpub.free
  usedBuf_eq := hpub.usedBuf_eq
  nonneg := hpub.nonneg
  reads := fun _ => hpub.reads hpolled
  progress := hpub.progress

/-- A failed read of the write device leaves a message behind. -/
theorem strand (hpub : Publishing kind state)
    (hpositive : 0 < state.device.usedBuf) :
    Publishing kind { state with
      device := { state.device with usedBuf := atomicDec state.device.usedBuf }
      consumer := .idle
      stranded := state.stranded + 1 } := by
  have hdec : atomicDec state.device.usedBuf = state.device.usedBuf - 1 :=
    atomicDec_of_le hpositive.le hpub.counted_le
  have hused := hpub.usedBuf_eq
  exact
    { working_eq := hpub.working_eq
      slots := hpub.slots
      placed := hpub.placed
      length_le := hpub.length_le
      free := hpub.free
      usedBuf_eq := by
        change atomicDec state.device.usedBuf + ((state.stranded + 1 : ℕ) : ℤ) =
          state.complete.length + state.phase.counted
        rw [hdec]
        omega
      nonneg := by
        change 0 ≤ atomicDec state.device.usedBuf
        omega
      reads := fun hconsumer => absurd rfl hconsumer
      progress := hpub.progress }

/-- Taking the oldest message off the ring. -/
theorem take (hpub : Publishing kind state)
    (hpositive : 0 < state.device.usedBuf) (hcomplete : state.complete ≠ []) :
    Publishing kind { state with
      device := state.device.dequeue
      consumer := .idle
      complete := state.complete.tail } := by
  have hdec : atomicDec state.device.usedBuf = state.device.usedBuf - 1 :=
    atomicDec_of_le hpositive.le hpub.counted_le
  obtain ⟨msg, rest, hqueue⟩ := List.exists_cons_of_ne_nil hcomplete
  have hslots := hpub.slots
  have hplaced := hpub.placed
  have hlength := hpub.length_le
  have hused := hpub.usedBuf_eq
  rw [hqueue, List.length_cons, contents_pop] at hslots
  rw [hqueue, List.length_cons] at hplaced hlength hused
  exact
    { working_eq := hpub.working_eq
      slots := by
        simp only [hqueue, List.tail_cons]
        exact (List.forall₂_cons.mp hslots).2
      placed := by
        simp only [hqueue, List.tail_cons]
        change advance state.device.currentBuf state.phase.unmoved =
          advance (advance state.device.firstBuf 1) rest.length
        rw [hplaced, advance_advance, Nat.add_comm]
      length_le := by
        simp only [hqueue, List.tail_cons]
        omega
      free := fun hphase => by
        have hfree := hpub.free hphase
        rw [hqueue, List.length_cons] at hfree
        simp only [hqueue, List.tail_cons]
        omega
      usedBuf_eq := by
        simp only [hqueue, List.tail_cons]
        change atomicDec state.device.usedBuf + (state.stranded : ℤ) =
          rest.length + state.phase.counted
        rw [hdec]
        omega
      nonneg := by
        change 0 ≤ atomicDec state.device.usedBuf
        omega
      reads := fun hconsumer => absurd rfl hconsumer
      progress := hpub.progress }

end Publishing

/-! ## Whole runs -/

/-- Moving the first index on is seen. -/
theorem passed_of_advance (state : Ring) {device : PaxosKernelDevice}
    (hfirst : device.firstBuf = advance state.device.firstBuf 1) :
    state.passed device = { state with
      device := device
      complete := state.complete.tail } := by
  have hmoved : device.firstBuf ≠ state.device.firstBuf := by
    intro hsame
    exact absurd (advance_injective (by decide) (by decide)
      (hfirst.symm.trans (hsame.trans (advance_zero _).symm))) (by decide)
  rw [Ring.passed, if_neg hmoved]

/-- A call that leaves the first index passes nothing. -/
theorem passed_of_firstBuf_eq (state : Ring) {device : PaxosKernelDevice}
    (hsame : device.firstBuf = state.device.firstBuf) :
    state.passed device = { state with device := device } := by
  rw [Ring.passed, if_pos hsame]

/-- Filling a response is no matter of the ring. -/
theorem Publishing.fillResponse {kind : DeviceKind} {state : Ring}
    (hpub : Publishing kind state) (slot : SlotId) (accepted : PaxosAccepted)
    (value : Block maxPaxosValueSize) :
    Publishing kind { state with
      device := fillResponse state.device slot accepted value } where
  working_eq := hpub.working_eq
  slots := hpub.slots
  placed := hpub.placed
  length_le := hpub.length_le
  free := hpub.free
  usedBuf_eq := hpub.usedBuf_eq
  nonneg := hpub.nonneg
  reads := hpub.reads
  progress := hpub.progress

theorem Publishing.read {kind : DeviceKind} {state next : Ring}
    {buffer : List Byte} {faults : ReadFaults} (hpub : Publishing kind state)
    (hpolled : state.consumer ≠ .idle)
    (hread : state.read buffer faults kind = .ok next) :
    Publishing kind next := by
  obtain ⟨hpositive, hcomplete⟩ := hpub.reads hpolled
  cases kind with
  | write =>
      obtain ⟨⟨device, received, len⟩, hcall, hreturned⟩ :=
        bind_eq_ok.mp hread
      cases hreturned
      rcases writePersistenceRead_cases hpub.working_eq hcall with
        ⟨rfl, rfl⟩ | ⟨hlen, rfl⟩
      · simp only [if_true, @passed_of_firstBuf_eq state
          { state.device with usedBuf := atomicDec state.device.usedBuf } rfl]
        exact hpub.strand hpositive
      · simp only [if_neg (show len ≠ -1 by omega),
          @passed_of_advance state state.device.dequeue rfl]
        exact hpub.take hpositive hcomplete
  | read =>
      obtain ⟨result, -, hreturned⟩ := bind_eq_ok.mp hread
      cases hreturned
      exact hpub.serve hpolled

/-- Whatever an answer brings, it takes the oldest request off the ring or
leaves the ring as it is. -/
theorem Publishing.answer {kind : DeviceKind} {state : Ring}
    {device : PaxosKernelDevice} {buffer : List Byte} {len : ℕ}
    {faults : WriteFaults} {ret : ℤ} (hpub : Publishing kind state)
    (hserving : state.consumer ≠ .idle)
    (hwrite : readPersistenceWrite state.device buffer len faults =
      .ok (device, ret)) :
    Publishing kind { state.passed device with consumer := .idle } := by
  obtain ⟨hpositive, hcomplete⟩ := hpub.reads hserving
  rcases readPersistenceWrite_cases hwrite with
    rfl | ⟨slot, accepted, value, rfl | rfl⟩
  · rw [passed_of_firstBuf_eq state rfl]
    exact hpub.idle
  · rw [@passed_of_firstBuf_eq state
      (ReadPersistence.fillResponse state.device slot accepted value) rfl]
    exact (hpub.fillResponse slot accepted value).idle
  · rw [@passed_of_advance state
      (ReadPersistence.fillResponse state.device slot accepted value).dequeue
      rfl]
    exact (hpub.fillResponse slot accepted value).take hpositive hcomplete

theorem publish_publishing {kind : DeviceKind} {state next : Ring}
    {history events : List Empty} {action : PublishAction}
    (hpub : Publishing kind state) (hfirst : FirstComplete kind state)
    (hfree : FindsFreeSlot state history action)
    (hstep : publish kind state action = .ok (next, events)) :
    Publishing kind next := by
  cases action with
  | enter msg =>
      cases hadding : state.adding with
      | some add =>
          simp only [publish, hadding] at hstep
          exact (Prod.mk.inj (Except.ok.inj hstep)).1 ▸ hpub
      | none =>
          simp only [publish, hadding] at hstep
          split at hstep
          · exact (Prod.mk.inj (Except.ok.inj hstep)).1 ▸ hpub
          · rename_i hroom
            rw [← (Prod.mk.inj (Except.ok.inj hstep)).1]
            exact hpub.enter hadding (hfree (not_le.mp hroom)) msg
  | statement =>
      cases hadding : state.adding with
      | none =>
          simp only [publish, hadding] at hstep
          exact (Prod.mk.inj (Except.ok.inj hstep)).1 ▸ hpub
      | some add =>
          obtain ⟨msg, size, rest⟩ := add
          cases rest with
          | nil =>
              simp only [publish, hadding] at hstep
              rw [← (Prod.mk.inj (Except.ok.inj hstep)).1]
              exact hpub.leave hadding
          | cons statement rest =>
              simp only [publish, hadding] at hstep
              obtain ⟨⟨device, after⟩, hexecute, hreturned⟩ :=
                bind_eq_ok.mp hstep
              cases hreturned
              exact hpub.statement hadding hexecute
  | poll =>
      rw [← (Prod.mk.inj (Except.ok.inj hstep)).1]
      exact hpub.poll hfirst
  | read buffer faults =>
      rw [publish] at hstep
      split at hstep
      · exact (Prod.mk.inj (Except.ok.inj hstep)).1 ▸ hpub
      · rename_i hpolled
        obtain ⟨after, hread, hreturned⟩ := bind_eq_ok.mp hstep
        cases hreturned
        exact hpub.read (by rw [not_not.mp hpolled]; decide) hread
  | answer buffer len faults =>
      rw [publish] at hstep
      split at hstep
      · exact (Prod.mk.inj (Except.ok.inj hstep)).1 ▸ hpub
      · rename_i hserving
        rw [not_or, not_not] at hserving
        obtain ⟨⟨device, ret⟩, hwrite, hreturned⟩ := bind_eq_ok.mp hstep
        cases hreturned
        exact hpub.answer (by rw [hserving.2]; decide) hwrite

/-- In a run whose additions find a free slot, every poll is right exactly if
a message is written only behind a complete one, and the count is covered
exactly if no message is counted before it is complete; either way up to the
messages that failed reads have left behind. -/
theorem published_iff {kind : DeviceKind} {device : PaxosKernelDevice}
    {queue : List (List Byte)} (hring : RingHolds kind.Holds device queue)
    {actions : List PublishAction}
    (hfree : Guarded (publish kind) FindsFreeSlot (Ring.start device queue) []
      actions) :
    (Throughout (publish kind) (FirstComplete kind) (Ring.start device queue)
        actions ↔
      Throughout (publish kind) Backed (Ring.start device queue) actions) ∧
    (Throughout (publish kind) CountCovered (Ring.start device queue) actions ↔
      Throughout (publish kind) NeverAhead (Ring.start device queue)
        actions) := by
  have hstart := publishing_start hring
  have hcomplete : ∀ state (history : List Empty) action next events,
      Publishing kind state → FirstComplete kind state →
        FindsFreeSlot state history action →
          publish kind state action = .ok (next, events) →
            Publishing kind next :=
    fun _ _ _ _ _ => publish_publishing
  have hcovered : ∀ state (history : List Empty) action next events,
      Publishing kind state → CountCovered state →
        FindsFreeSlot state history action →
          publish kind state action = .ok (next, events) →
            Publishing kind next :=
    fun _ _ _ _ _ hpub hcovered =>
      publish_publishing hpub (hpub.firstComplete_of_countCovered hcovered)
  exact ⟨throughout_iff hcomplete (fun _ hpub => hpub.firstComplete_iff) hstart
      hfree,
    throughout_iff hcovered (fun _ hpub => hpub.countCovered_iff) hstart hfree⟩

def countedMessage : List Byte := List.replicate sizeofPaxosAccepted 1

/-- An addition to an empty ring, up to its first statement. -/
def countedRun : List PublishAction :=
  [.enter countedMessage, .statement]

theorem countedRun_findsFreeSlot :
    Guarded (publish .write) FindsFreeSlot
      (Ring.start (kdevcharInit zeroMemory) []) [] countedRun := by
  intro before action after state events hsplit hrun
  cases before with
  | nil =>
      simp only [run_nil, Except.ok.injEq, Prod.mk.injEq] at hrun
      obtain ⟨rfl, -⟩ := hrun
      obtain ⟨rfl, -⟩ := List.cons.inj hsplit
      exact fun _ => show (0 : ℕ) < bufferSize by decide
  | cons head before =>
      obtain ⟨-, hrest⟩ := List.cons.inj hsplit
      cases before with
      | nil =>
          obtain ⟨rfl, -⟩ := List.cons.inj hrest
          trivial
      | cons second before =>
          exact absurd (List.cons.inj hrest).2 (by simp)

/-- The case of one addition to an empty ring. -/
theorem published_iff_countedRun :
    (Throughout (publish .write) (FirstComplete .write)
        (Ring.start (kdevcharInit zeroMemory) []) countedRun ↔
      Throughout (publish .write) Backed
        (Ring.start (kdevcharInit zeroMemory) []) countedRun) ∧
    (Throughout (publish .write) CountCovered
        (Ring.start (kdevcharInit zeroMemory) []) countedRun ↔
      Throughout (publish .write) NeverAhead
        (Ring.start (kdevcharInit zeroMemory) []) countedRun) :=
  @published_iff .write (kdevcharInit zeroMemory) []
    (RingHolds.kdevcharInit zeroMemory) countedRun countedRun_findsFreeSlot

/-- What a poll and the first slot say after that statement. -/
def observedRing (kind : DeviceKind) :
    Option (Bool × ℤ × List (List Byte) × Bool) :=
  match run (publish kind) (Ring.start (kdevcharInit zeroMemory) [])
      countedRun with
  | .ok (state, _) =>
      some (state.device.devicePoll, state.device.usedBuf, state.complete,
        decide (kind.Holds (state.device.msgBuf state.device.firstBuf)
          countedMessage))
  | .error _ => none

/-- A poll reports a message that is not there. -/
def ReportsUnwritten (kind : DeviceKind) : Prop :=
  ∃ state,
    run (publish kind) (Ring.start (kdevcharInit zeroMemory) []) countedRun =
      .ok (state, []) ∧
    state.device.devicePoll = true ∧ state.device.usedBuf = 1 ∧
    state.complete = [] ∧
    ¬ kind.Holds (state.device.msgBuf state.device.firstBuf) countedMessage ∧
    ¬ Throughout (publish kind) (FirstComplete kind)
      (Ring.start (kdevcharInit zeroMemory) []) countedRun ∧
    ¬ Throughout (publish kind) CountCovered
      (Ring.start (kdevcharInit zeroMemory) []) countedRun

theorem reportsUnwritten_of_observed {kind : DeviceKind}
    (hobserved : observedRing kind = some (true, 1, [], false)) :
    ReportsUnwritten kind := by
  rw [observedRing] at hobserved
  split at hobserved
  · rename_i state events hrun
    obtain ⟨hpoll, hrest⟩ := Prod.mk.inj (Option.some.inj hobserved)
    obtain ⟨hused, hrest⟩ := Prod.mk.inj hrest
    obtain ⟨hcomplete, hholds⟩ := Prod.mk.inj hrest
    obtain rfl : events = [] := List.eq_nil_of_length_eq_zero (by
      cases events with
      | nil => rfl
      | cons event events => exact event.elim)
    refine ⟨state, hrun, hpoll, hused, hcomplete, of_decide_eq_false hholds,
      fun hfirst => ?_, fun hcovered => ?_⟩
    · obtain ⟨msg, rest, hqueue, -⟩ :=
        hfirst countedRun [] state [] (List.append_nil _).symm hrun hpoll
      rw [hcomplete] at hqueue
      cases hqueue
    · have hle := hcovered countedRun [] state [] (List.append_nil _).symm hrun
      rw [CountCovered, hused, hcomplete] at hle
      exact absurd hle (by decide)
  · cases hobserved

/-- Both devices count the first message before they write any of it. -/
theorem countedRun_reportsUnwritten :
    ReportsUnwritten .write ∧ ReportsUnwritten .read :=
  ⟨reportsUnwritten_of_observed (by decide +kernel),
    reportsUnwritten_of_observed (by decide +kernel)⟩

end PaxosPersistence.Publication
