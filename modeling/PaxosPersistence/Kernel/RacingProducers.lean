import PaxosPersistence.Core.LostUpdates
import PaxosPersistence.Kernel.Publication

/-!
# Additions that race

Neither add handler takes a lock.  When several of its calls run at once, each
tests the count before it raises it, and each moves the current index on by a
read and a write.  The count, which is atomic, can then pass the size of the
ring, but not by more than there are other producers; and the indices agree
with the count again when all calls have returned, unless a move was lost.
-/

namespace PaxosPersistence.RacingProducers

open Function
open PaxosPersistence.AddStatements
open PaxosPersistence.AddStatements.AddStatement
open PaxosPersistence.ByteBlock
open PaxosPersistence.DeviceRing
open PaxosPersistence.KernelDevice
open PaxosPersistence.LostUpdates
open PaxosPersistence.Machine
open PaxosPersistence.Memory
open PaxosPersistence.PaxosTypes
open PaxosPersistence.Publication
open PaxosPersistence.ReadPersistence
open PaxosPersistence.RingWindow
open PaxosPersistence.WriteAccounting
open PaxosPersistence.WritePersistence

inductive Producer where
  | idle
  | adding (add : RunningAdd)
  /-- The current index has been read, and its successor is written next. -/
  | moving (loaded : SlotId)

namespace Producer

/-- Admitted and not yet counted. -/
def admitted : Producer → ℕ
  | .adding add => if .countMessage ∈ add.rest then 1 else 0
  | _ => 0

/-- Counted, and the current index not yet moved on. -/
def unmoved : Producer → ℕ
  | .idle => 0
  | .adding add => if .countMessage ∈ add.rest then 0 else 1
  | .moving _ => 1

theorem admitted_le (producer : Producer) : producer.admitted ≤ 1 := by
  cases producer with
  | adding add =>
      rw [admitted]
      split <;> decide
  | _ => exact Nat.zero_le 1

end Producer

/-- The device, its producers and its consumer.  `tally` follows the moves of
the current index and `stranded` counts the failed reads; the code has
neither. -/
structure Race (threads : ℕ) where
  device : PaxosKernelDevice
  producers : Fin threads → Producer
  consumer : ConsumerPhase
  tally : Tally (Fin threads)
  stranded : ℕ

def Race.start (threads : ℕ) (device : PaxosKernelDevice) :
    Race threads where
  device := device
  producers := fun _ => .idle
  consumer := .idle
  tally := Tally.start (Fin threads)
  stranded := 0

inductive RaceAction (threads : ℕ) where
  /-- A call of the add handler up to its admission test. -/
  | enter (producer : Fin threads) (msg : List Byte)
  | statement (producer : Fin threads)
  | poll
  | read (buffer : List Byte) (faults : ReadFaults)
  | answer (buffer : List Byte) (len : ℕ) (faults : WriteFaults)

namespace Race

variable {threads : ℕ} (state : Race threads)

def setProducer (producer : Fin threads) (next : Producer) : Race threads :=
  { state with producers := update state.producers producer next }

def enter (kind : DeviceKind) (producer : Fin threads) (msg : List Byte) :
    Race threads :=
  match state.producers producer with
  | .idle =>
      if bufferSize ≤ state.device.usedBuf then state
      else
        state.setProducer producer
          (.adding ⟨msg, .start msg.length, kind.statements⟩)
  | _ => state

/-- The next statement of a producer; the last one takes two steps. -/
def statement (producer : Fin threads) : Except Halt (Race threads) :=
  match state.producers producer with
  | .idle => .ok state
  | .adding ⟨_, _, []⟩ => .ok (state.setProducer producer .idle)
  | .adding ⟨msg, locals, statement :: rest⟩ =>
      if statement = .moveCurrent then
        .ok { state.setProducer producer (.moving state.device.currentBuf) with
          tally := state.tally.load producer }
      else do
        let (device, locals) ← execute state.device msg locals statement
        return { state.setProducer producer (.adding ⟨msg, locals, rest⟩) with
          device := device }
  | .moving loaded =>
      .ok { state.setProducer producer .idle with
        device := { state.device with currentBuf := advance loaded 1 }
        tally := state.tally.store producer }

def read (kind : DeviceKind) (buffer : List Byte) (faults : ReadFaults) :
    Except Halt (Race threads) :=
  match kind with
  | .write => do
      let (device, _, len) ← writePersistenceRead state.device buffer faults
      return { state with
        device := device
        consumer := .idle
        stranded := if len = -1 then state.stranded + 1 else state.stranded }
  | .read => do
      let _ ← readPersistenceRead state.device buffer faults
      return { state with consumer := .serving }

end Race

/-- One step.  There is one consumer, as in a run with one producer. -/
def race (kind : DeviceKind) (threads : ℕ) :
    Step (Race threads) (RaceAction threads) Empty Halt
  | state, .enter producer msg => .ok (state.enter kind producer msg, [])
  | state, .statement producer => do
      let next ← state.statement producer
      return (next, [])
  | state, .poll =>
      .ok ({ state with
        consumer := if state.device.devicePoll then .polled else .idle }, [])
  | state, .read buffer faults =>
      if state.consumer ≠ .polled then .ok (state, [])
      else do
        let next ← state.read kind buffer faults
        return (next, [])
  | state, .answer buffer len faults =>
      if kind = .write ∨ state.consumer ≠ .serving then .ok (state, [])
      else do
        let (device, _) ← readPersistenceWrite state.device buffer len faults
        return ({ state with device := device, consumer := .idle }, [])

/-! ## The invariant -/

/-- How many producers there are of some kind. -/
def Race.total {threads : ℕ} (state : Race threads)
    (weight : Producer → ℕ) : ℕ :=
  ∑ producer, weight (state.producers producer)

/-- `origin` is the current index at the start. -/
structure Racing (kind : DeviceKind) {threads : ℕ} (origin : SlotId)
    (state : Race threads) : Prop where
  working_eq : state.device.working = true
  suffix : ∀ producer add, state.producers producer = .adding add →
    add.rest <:+ kind.statements ∧ add.rest ≠ []
  moving : ∀ producer loaded, state.producers producer = .moving loaded →
    ∃ version count, state.tally.seen producer = some (version, count) ∧
      loaded = advance origin count
  nonneg : 0 ≤ state.device.usedBuf
  reads : state.consumer ≠ .idle → 0 < state.device.usedBuf
  bounded : state.device.usedBuf + state.total Producer.admitted ≤
    bufferSize + (threads - 1 : ℕ)
  current : state.device.currentBuf = advance origin state.tally.count
  placed : advance origin
      (state.tally.due + state.total Producer.unmoved) =
    advance state.device.firstBuf
      (state.device.usedBuf.toNat + state.stranded)
  exact : state.tally.Exact
  short : state.tally.Short

theorem sum_update {Agent A : Type*} [Fintype Agent] [DecidableEq Agent]
    (weight : A → ℕ) (values : Agent → A) (agent : Agent) (next : A) :
    (∑ other, weight (update values agent next other)) +
        weight (values agent) =
      (∑ other, weight (values other)) + weight next := by
  have hweights : (fun other => weight (update values agent next other)) =
      update (fun other => weight (values other)) agent (weight next) := by
    funext other
    exact apply_update (fun _ => weight) values agent next other
  rw [hweights, Finset.sum_update_of_mem (Finset.mem_univ agent),
    ← Finset.sum_sdiff (Finset.subset_univ {agent}), Finset.sum_singleton]
  omega

section Totals

variable {threads : ℕ} (state : Race threads)

theorem total_setProducer (weight : Producer → ℕ) (producer : Fin threads)
    (next : Producer) :
    (state.setProducer producer next).total weight +
        weight (state.producers producer) =
      state.total weight + weight next :=
  sum_update weight state.producers producer next

variable {state} in
/-- A producer is the one that was set, or as it was. -/
theorem eq_of_setProducer {producer other : Fin threads}
    {next found : Producer}
    (hfound : (state.setProducer producer next).producers other = found) :
    (other = producer ∧ next = found) ∨
      (other ≠ producer ∧ state.producers other = found) := by
  change update state.producers producer next other = found at hfound
  by_cases hother : other = producer
  · rw [hother, update_self] at hfound
    exact Or.inl ⟨hother, hfound⟩
  · rw [update_of_ne hother] at hfound
    exact Or.inr ⟨hother, hfound⟩

theorem total_admitted_le : state.total Producer.admitted ≤ threads := by
  have hle := Finset.sum_le_card_nsmul Finset.univ
    (fun producer => (state.producers producer).admitted) 1
    (fun producer _ => Producer.admitted_le _)
  rw [Finset.card_univ, Fintype.card_fin, smul_eq_mul, Nat.mul_one] at hle
  exact hle

theorem total_eq_zero {weight : Producer → ℕ} (hzero : weight .idle = 0)
    (hidle : ∀ producer, state.producers producer = .idle) :
    state.total weight = 0 := by
  apply Finset.sum_eq_zero
  intro producer _
  rw [hidle producer, hzero]

end Totals

theorem racing_start (kind : DeviceKind) (threads : ℕ)
    {device : PaxosKernelDevice} {queue : List (List Byte)}
    (hring : RingHolds kind.Holds device queue) :
    Racing kind device.currentBuf (Race.start threads device) where
  working_eq := hring.working_eq
  suffix producer add hadd := by cases hadd
  moving producer loaded hloaded := by cases hloaded
  nonneg := by
    change 0 ≤ device.usedBuf
    rw [hring.usedBuf_eq]
    exact Int.natCast_nonneg _
  reads hconsumer := absurd rfl hconsumer
  bounded := by
    have hlength := hring.occupies.count_le
    rw [total_eq_zero _ rfl fun _ => rfl]
    change device.usedBuf + _ ≤ _
    rw [hring.usedBuf_eq]
    omega
  current := (advance_zero device.currentBuf).symm
  placed := by
    rw [total_eq_zero _ rfl fun _ => rfl]
    change advance device.currentBuf 0 =
      advance device.firstBuf (device.usedBuf.toNat + 0)
    rw [advance_zero, hring.usedBuf_eq]
    exact hring.occupies.current_eq
  exact := Tally.exact_start
  short := Tally.short_start

/-! ## Steps -/

theorem atomicInc_of_nonneg {counter : ℤ} (hlow : 0 ≤ counter)
    (hhigh : counter + 1 < 2 ^ 31) : atomicInc counter = counter + 1 := by
  apply Int.bmod_eq_of_le <;> norm_num <;> omega

theorem atomicDec_of_pos {counter : ℤ} (hlow : 0 < counter)
    (hhigh : counter < 2 ^ 31) : atomicDec counter = counter - 1 := by
  apply Int.bmod_eq_of_le <;> norm_num <;> omega

theorem nodup_statements (kind : DeviceKind) : kind.statements.Nodup := by
  cases kind <;> decide

theorem countMessage_mem (kind : DeviceKind) :
    .countMessage ∈ kind.statements := by
  cases kind <;> decide

/-- The last statement is the move. -/
theorem ne_nil_of_suffix {kind : DeviceKind} {statement : AddStatement}
    {rest : List AddStatement}
    (hsuffix : statement :: rest <:+ kind.statements)
    (hmove : statement ≠ .moveCurrent) : rest ≠ [] := by
  rintro rfl
  obtain ⟨before, hsplit⟩ := hsuffix
  have hlast := congrArg List.getLast? hsplit
  rw [List.getLast?_concat] at hlast
  cases kind <;> exact hmove (Option.some.inj hlast)

namespace Racing

variable {kind : DeviceKind} {threads : ℕ} {origin : SlotId}
variable {state : Race threads}

theorem used_lt (hracing : Racing kind origin state)
    (hthreads : bufferSize + threads < 2 ^ 31) :
    state.device.usedBuf + 1 < 2 ^ 31 := by
  have hbounded := hracing.bounded
  simp only [bufferSize] at hbounded hthreads
  omega

theorem suffix_setProducer (hracing : Racing kind origin state)
    {producer : Fin threads} {next : Producer}
    (hnext : ∀ add, next = .adding add →
      add.rest <:+ kind.statements ∧ add.rest ≠ []) :
    ∀ other add, (state.setProducer producer next).producers other =
      .adding add → add.rest <:+ kind.statements ∧ add.rest ≠ [] := by
  intro other add hadd
  rcases eq_of_setProducer hadd with ⟨-, hset⟩ | ⟨-, hbefore⟩
  · exact hnext add hset
  · exact hracing.suffix other add hbefore

theorem moving_setProducer (hracing : Racing kind origin state)
    {producer : Fin threads} {next : Producer}
    (hnext : ∀ loaded, next ≠ .moving loaded) :
    ∀ other loaded, (state.setProducer producer next).producers other =
      .moving loaded → ∃ version count,
        state.tally.seen other = some (version, count) ∧
          loaded = advance origin count := by
  intro other loaded hloaded
  rcases eq_of_setProducer hloaded with ⟨-, hset⟩ | ⟨-, hbefore⟩
  · exact absurd hset (hnext loaded)
  · exact hracing.moving other loaded hbefore

/-- An admission test that succeeds leaves room for every other one. -/
theorem enter (hracing : Racing kind origin state) {producer : Fin threads}
    {msg : List Byte} (hidle : state.producers producer = .idle)
    (hroom : state.device.usedBuf < bufferSize) :
    Racing kind origin (state.setProducer producer
      (.adding ⟨msg, .start msg.length, kind.statements⟩)) := by
  have hunmoved := total_setProducer state Producer.unmoved producer
    (.adding ⟨msg, .start msg.length, kind.statements⟩)
  rw [hidle, Producer.unmoved, Producer.unmoved,
    if_pos (countMessage_mem kind)] at hunmoved
  have hadmitted := total_admitted_le (state.setProducer producer
    (.adding ⟨msg, .start msg.length, kind.statements⟩))
  have hsome : 0 < threads := Fin.pos producer
  exact
    { working_eq := hracing.working_eq
      suffix := hracing.suffix_setProducer fun add hadd => by
        cases hadd
        exact ⟨List.suffix_rfl, List.ne_nil_of_mem (countMessage_mem kind)⟩
      moving := hracing.moving_setProducer fun _ => Producer.noConfusion
      nonneg := hracing.nonneg
      reads := hracing.reads
      bounded := by
        change state.device.usedBuf + _ ≤ _
        omega
      current := hracing.current
      placed := by
        rw [Nat.add_right_cancel hunmoved]
        exact hracing.placed
      exact := hracing.exact
      short := hracing.short }

/-- A statement before the move counts the message, or leaves the count and
both indices. -/
theorem execute (hracing : Racing kind origin state)
    (hthreads : bufferSize + threads < 2 ^ 31) {producer : Fin threads}
    {msg : List Byte} {locals after : Locals} {statement : AddStatement}
    {rest : List AddStatement} {device : PaxosKernelDevice}
    (hadding : state.producers producer =
      .adding ⟨msg, locals, statement :: rest⟩)
    (hmove : statement ≠ .moveCurrent)
    (hexecute : AddStatement.execute state.device msg locals statement =
      .ok (device, after)) :
    Racing kind origin
      { state.setProducer producer (.adding ⟨msg, after, rest⟩) with
        device := device } := by
  obtain ⟨block, -, rfl⟩ := execute_eq_ok hexecute
  have hsuffix := (hracing.suffix producer _ hadding).1
  have hnodup : (statement :: rest).Nodup :=
    (nodup_statements kind).sublist hsuffix.sublist
  have hadmitted := total_setProducer state Producer.admitted producer
    (.adding ⟨msg, after, rest⟩)
  have hunmoved := total_setProducer state Producer.unmoved producer
    (.adding ⟨msg, after, rest⟩)
  have hbounded := hracing.bounded
  have hplaced := hracing.placed
  have hnonneg := hracing.nonneg
  rw [hadding] at hadmitted hunmoved
  simp only [Producer.admitted, Producer.unmoved] at hadmitted hunmoved
  have hused : (setFields (putCurrent state.device block) locals.callback
      statement).usedBuf = state.device.usedBuf +
        (if statement = .countMessage then 1 else 0 : ℕ) := by
    by_cases hcount : statement = .countMessage
    · rw [if_pos hcount, hcount]
      exact atomicInc_of_nonneg hnonneg (hracing.used_lt hthreads)
    · rw [if_neg hcount, setFields_usedBuf _ _ hcount, Nat.cast_zero, add_zero]
      rfl
  have htotals :
      (state.setProducer producer (.adding ⟨msg, after, rest⟩)).total
          Producer.admitted + (if statement = .countMessage then 1 else 0) =
        state.total Producer.admitted ∧
      (state.setProducer producer (.adding ⟨msg, after, rest⟩)).total
          Producer.unmoved =
        state.total Producer.unmoved +
          (if statement = .countMessage then 1 else 0) := by
    by_cases hcount : statement = .countMessage
    · subst hcount
      rw [if_pos List.mem_cons_self, if_neg (List.nodup_cons.mp hnodup).1]
        at hadmitted hunmoved
      rw [if_pos rfl]
      omega
    · have hmem : .countMessage ∈ statement :: rest ↔ .countMessage ∈ rest := by
        rw [List.mem_cons, or_iff_right (Ne.symm hcount)]
      simp only [hmem] at hadmitted hunmoved
      rw [if_neg hcount]
      omega
  generalize hone : (if statement = .countMessage then 1 else 0 : ℕ) = one
    at hused htotals
  exact
    { working_eq := (setFields_working _ _ _).trans hracing.working_eq
      suffix := hracing.suffix_setProducer fun add hadd => by
        cases hadd
        exact ⟨(List.suffix_cons _ _).trans hsuffix,
          ne_nil_of_suffix hsuffix hmove⟩
      moving := hracing.moving_setProducer fun _ => Producer.noConfusion
      nonneg := by
        change 0 ≤ (setFields _ _ statement).usedBuf
        omega
      reads := fun hconsumer => by
        have hbefore := hracing.reads hconsumer
        change 0 < (setFields _ _ statement).usedBuf
        omega
      bounded := by
        change (setFields _ _ statement).usedBuf +
          (state.setProducer producer _).total Producer.admitted ≤ _
        omega
      current := (setFields_currentBuf _ _ hmove).trans hracing.current
      placed := by
        change advance origin (state.tally.due +
            (state.setProducer producer _).total Producer.unmoved) =
          advance (setFields _ _ statement).firstBuf
            ((setFields _ _ statement).usedBuf.toNat + state.stranded)
        rw [htotals.2, ← Nat.add_assoc, ← advance_advance, hplaced,
          advance_advance, setFields_firstBuf, hused]
        congr 1
        omega
      exact := hracing.exact
      short := hracing.short }

/-- A producer reads the current index. -/
theorem load (hracing : Racing kind origin state) {producer : Fin threads}
    {msg : List Byte} {locals : Locals} {rest : List AddStatement}
    (hadding : state.producers producer =
      .adding ⟨msg, locals, .moveCurrent :: rest⟩) :
    Racing kind origin
      { state.setProducer producer (.moving state.device.currentBuf) with
        tally := state.tally.load producer } := by
  have hcount : AddStatement.countMessage ∉ AddStatement.moveCurrent :: rest := by
    have hsuffix := (hracing.suffix producer _ hadding).1
    rcases phases_of_suffix hsuffix with h | h | h | h | ⟨-, rfl⟩
    · exact absurd h.1 AddStatement.noConfusion
    · exact absurd rfl h.2.1
    · exact absurd rfl h.2.1
    · exact absurd rfl h.2.1
    · decide
  have hadmitted := total_setProducer state Producer.admitted producer
    (.moving state.device.currentBuf)
  have hunmoved := total_setProducer state Producer.unmoved producer
    (.moving state.device.currentBuf)
  have hbounded := hracing.bounded
  rw [hadding] at hadmitted hunmoved
  simp only [Producer.admitted, Producer.unmoved, if_neg hcount]
    at hadmitted hunmoved
  exact
    { working_eq := hracing.working_eq
      suffix := hracing.suffix_setProducer fun _ => Producer.noConfusion
      moving := fun other loaded hloaded => by
        change ∃ version count, update state.tally.seen producer _ other =
          some (version, count) ∧ _
        rcases eq_of_setProducer hloaded with ⟨rfl, hset⟩ | ⟨hother, hbefore⟩
        · cases hset
          rw [update_self]
          exact ⟨_, _, rfl, hracing.current⟩
        · rw [update_of_ne hother]
          exact hracing.moving other loaded hbefore
      nonneg := hracing.nonneg
      reads := hracing.reads
      bounded := by
        change state.device.usedBuf +
          (state.setProducer producer _).total Producer.admitted ≤ _
        omega
      current := hracing.current
      placed := by
        change advance origin (state.tally.due +
          (state.setProducer producer _).total Producer.unmoved) = _
        rw [Nat.add_right_cancel hunmoved]
        exact hracing.placed
      exact := hracing.exact.load producer
      short := hracing.short.load producer }

/-- A producer writes the current index and returns. -/
theorem store (hracing : Racing kind origin state) {producer : Fin threads}
    {loaded : SlotId} (hmoving : state.producers producer = .moving loaded) :
    Racing kind origin
      { state.setProducer producer .idle with
        device := { state.device with currentBuf := advance loaded 1 }
        tally := state.tally.store producer } := by
  obtain ⟨version, count, hseen, rfl⟩ := hracing.moving producer loaded hmoving
  have hadmitted := total_setProducer state Producer.admitted producer .idle
  have hunmoved := total_setProducer state Producer.unmoved producer .idle
  have hbounded := hracing.bounded
  have hstore : state.tally.store producer =
      { due := state.tally.due + 1
        count := count + 1
        stale :=
          if version = state.tally.version then state.tally.stale
          else state.tally.stale + 1
        version := state.tally.version + 1
        seen := update state.tally.seen producer none } := by
    simp only [Tally.store, hseen]
  rw [hmoving] at hadmitted hunmoved
  simp only [Producer.admitted, Producer.unmoved] at hadmitted hunmoved
  exact
    { working_eq := hracing.working_eq
      suffix := hracing.suffix_setProducer fun _ => Producer.noConfusion
      moving := fun other found hfound => by
        rcases eq_of_setProducer hfound with ⟨-, hset⟩ | ⟨hother, hbefore⟩
        · cases hset
        · rw [hstore]
          change ∃ version count, update state.tally.seen producer none other =
            some (version, count) ∧ _
          rw [update_of_ne hother]
          exact hracing.moving other found hbefore
      nonneg := hracing.nonneg
      reads := hracing.reads
      bounded := by
        change state.device.usedBuf +
          (state.setProducer producer .idle).total Producer.admitted ≤ _
        omega
      current := by
        rw [hstore]
        exact advance_advance origin count 1
      placed := by
        rw [hstore]
        change advance origin (state.tally.due + 1 +
          (state.setProducer producer .idle).total Producer.unmoved) = _
        rw [Nat.add_assoc, Nat.add_comm 1, hunmoved]
        exact hracing.placed
      exact := hracing.exact.store producer
      short := hracing.short.store hracing.exact producer }

theorem consume (hracing : Racing kind origin state) {consumer : ConsumerPhase}
    (hconsumer : consumer ≠ .idle → 0 < state.device.usedBuf) :
    Racing kind origin { state with consumer := consumer } where
  working_eq := hracing.working_eq
  suffix := hracing.suffix
  moving := hracing.moving
  nonneg := hracing.nonneg
  reads := hconsumer
  bounded := hracing.bounded
  current := hracing.current
  placed := hracing.placed
  exact := hracing.exact
  short := hracing.short

/-- Filling a response is no matter of the count or the indices. -/
theorem fillResponse (hracing : Racing kind origin state) (slot : SlotId)
    (accepted : PaxosAccepted) (value : Block maxPaxosValueSize) :
    Racing kind origin
      { state with
        device := fillResponse state.device slot accepted value } where
  working_eq := hracing.working_eq
  suffix := hracing.suffix
  moving := hracing.moving
  nonneg := hracing.nonneg
  reads := hracing.reads
  bounded := hracing.bounded
  current := hracing.current
  placed := hracing.placed
  exact := hracing.exact
  short := hracing.short

/-- A failed read of the write device lowers the count alone. -/
theorem strand (hracing : Racing kind origin state)
    (hthreads : bufferSize + threads < 2 ^ 31)
    (hpositive : 0 < state.device.usedBuf) :
    Racing kind origin
      { state with
        device := { state.device with
          usedBuf := atomicDec state.device.usedBuf }
        consumer := .idle
        stranded := state.stranded + 1 } := by
  have hused := hracing.used_lt hthreads
  have hbounded := hracing.bounded
  have hdec := atomicDec_of_pos hpositive (by omega)
  exact
    { working_eq := hracing.working_eq
      suffix := hracing.suffix
      moving := hracing.moving
      nonneg := by
        change 0 ≤ atomicDec state.device.usedBuf
        omega
      reads := fun hconsumer => absurd rfl hconsumer
      bounded := by
        change atomicDec state.device.usedBuf +
          state.total Producer.admitted ≤ _
        omega
      current := hracing.current
      placed := by
        change _ = advance state.device.firstBuf
          ((atomicDec state.device.usedBuf).toNat + (state.stranded + 1))
        have hsum : (atomicDec state.device.usedBuf).toNat +
            (state.stranded + 1) =
              state.device.usedBuf.toNat + state.stranded := by
          omega
        rw [hsum]
        exact hracing.placed
      exact := hracing.exact
      short := hracing.short }

theorem take (hracing : Racing kind origin state)
    (hthreads : bufferSize + threads < 2 ^ 31)
    (hpositive : 0 < state.device.usedBuf) :
    Racing kind origin
      { state with
        device := state.device.dequeue
        consumer := .idle } := by
  have hused := hracing.used_lt hthreads
  have hbounded := hracing.bounded
  have hdec := atomicDec_of_pos hpositive (by omega)
  exact
    { working_eq := hracing.working_eq
      suffix := hracing.suffix
      moving := hracing.moving
      nonneg := by
        change 0 ≤ atomicDec state.device.usedBuf
        omega
      reads := fun hconsumer => absurd rfl hconsumer
      bounded := by
        change atomicDec state.device.usedBuf +
          state.total Producer.admitted ≤ _
        omega
      current := hracing.current
      placed := by
        change _ = advance (advance state.device.firstBuf 1)
          ((atomicDec state.device.usedBuf).toNat + state.stranded)
        have hsum : 1 + ((atomicDec state.device.usedBuf).toNat +
            state.stranded) =
              state.device.usedBuf.toNat + state.stranded := by
          omega
        rw [advance_advance, hsum]
        exact hracing.placed
      exact := hracing.exact
      short := hracing.short }

section Steps

variable {next : Race threads} {events : List Empty}

theorem statement (hracing : Racing kind origin state)
    (hthreads : bufferSize + threads < 2 ^ 31) {producer : Fin threads}
    (hstep : state.statement producer = .ok next) :
    Racing kind origin next := by
  rw [Race.statement] at hstep
  split at hstep
  · cases hstep
    exact hracing
  · next hadding =>
    exact absurd rfl (hracing.suffix producer _ hadding).2
  · next msg locals statement rest hadding =>
    split at hstep
    · next hmove =>
      cases hstep
      subst hmove
      exact hracing.load hadding
    · next hmove =>
      obtain ⟨⟨device, after⟩, hexecute, hreturned⟩ := bind_eq_ok.mp hstep
      cases hreturned
      exact hracing.execute hthreads hadding hmove hexecute
  · next loaded hmoving =>
    cases hstep
    exact hracing.store hmoving

theorem read (hracing : Racing kind origin state)
    (hthreads : bufferSize + threads < 2 ^ 31) {buffer : List Byte}
    {faults : ReadFaults} (hpolled : state.consumer = .polled)
    (hread : state.read kind buffer faults = .ok next) :
    Racing kind origin next := by
  have hpositive := hracing.reads
    (by rw [hpolled]; exact ConsumerPhase.noConfusion)
  cases kind with
  | write =>
      obtain ⟨⟨device, received, len⟩, hcall, hreturned⟩ :=
        bind_eq_ok.mp hread
      cases hreturned
      rcases writePersistenceRead_cases hracing.working_eq hcall with
        ⟨rfl, rfl⟩ | ⟨hlen, rfl⟩
      · exact hracing.strand hthreads hpositive
      · simp only [if_neg (show len ≠ -1 by omega)]
        exact hracing.take hthreads hpositive
  | read =>
      obtain ⟨result, -, hreturned⟩ := bind_eq_ok.mp hread
      cases hreturned
      exact hracing.consume fun _ => hpositive

theorem answer (hracing : Racing kind origin state)
    (hthreads : bufferSize + threads < 2 ^ 31) {buffer : List Byte} {len : ℕ}
    {faults : WriteFaults} {device : PaxosKernelDevice} {ret : ℤ}
    (hserving : state.consumer = .serving)
    (hwrite : readPersistenceWrite state.device buffer len faults =
      .ok (device, ret)) :
    Racing kind origin { state with device := device, consumer := .idle } := by
  have hpositive := hracing.reads
    (by rw [hserving]; exact ConsumerPhase.noConfusion)
  have hidle : ConsumerPhase.idle ≠ .idle → 0 < state.device.usedBuf :=
    fun hconsumer => absurd rfl hconsumer
  rcases readPersistenceWrite_cases hwrite with
    rfl | ⟨slot, accepted, value, rfl | rfl⟩
  · exact hracing.consume hidle
  · exact (hracing.fillResponse slot accepted value).consume hidle
  · exact (hracing.fillResponse slot accepted value).take hthreads hpositive

theorem step (hracing : Racing kind origin state)
    (hthreads : bufferSize + threads < 2 ^ 31) {action : RaceAction threads}
    (hstep : race kind threads state action = .ok (next, events)) :
    Racing kind origin next := by
  cases action with
  | enter producer msg =>
      cases hstep
      rw [Race.enter]
      split
      · next hidle =>
        split
        · exact hracing
        · next hroom => exact hracing.enter hidle (not_le.mp hroom)
      · exact hracing
  | statement producer =>
      obtain ⟨stepped, hstatement, hreturned⟩ := bind_eq_ok.mp hstep
      cases hreturned
      exact hracing.statement hthreads hstatement
  | poll =>
      cases hstep
      apply hracing.consume
      split
      · next hpoll => exact fun _ => of_decide_eq_true hpoll
      · exact fun hconsumer => absurd rfl hconsumer
  | read buffer faults =>
      rw [race] at hstep
      split at hstep
      · cases hstep
        exact hracing
      · next hpolled =>
        obtain ⟨served, hread, hreturned⟩ := bind_eq_ok.mp hstep
        cases hreturned
        exact hracing.read hthreads (not_not.mp hpolled) hread
  | answer buffer len faults =>
      rw [race] at hstep
      split at hstep
      · cases hstep
        exact hracing
      · next hserving =>
        obtain ⟨⟨device, ret⟩, hwrite, hreturned⟩ := bind_eq_ok.mp hstep
        cases hreturned
        exact hracing.answer hthreads (not_not.mp (not_or.mp hserving).2)
          hwrite

end Steps

end Racing

/-- However the statements of any number of additions interleave, with each
other and with the consumer: the count never passes the size of the ring by
more than the number of other producers.  Whenever no call is running, the
current index lacks as many steps as moves were lost, and none was lost exactly
if none was stale. -/
theorem racing_indices {kind : DeviceKind} {threads : ℕ}
    (hthreads : bufferSize + threads < 2 ^ 31) {device : PaxosKernelDevice}
    {queue : List (List Byte)} (hring : RingHolds kind.Holds device queue)
    {actions : List (RaceAction threads)} {state : Race threads}
    {events : List Empty}
    (hrun : run (race kind threads) (Race.start threads device) actions =
      .ok (state, events)) :
    state.device.usedBuf ≤ bufferSize + (threads - 1 : ℕ) ∧
      ((∀ producer, state.producers producer = .idle) →
        advance state.device.currentBuf
            (state.tally.due - state.tally.count) =
          advance state.device.firstBuf
            (state.device.usedBuf.toNat + state.stranded) ∧
        (state.tally.due - state.tally.count = 0 ↔ state.tally.stale = 0)) := by
  have hracing : Racing kind device.currentBuf state :=
    state_invariant_of_run_eq_ok (Racing kind device.currentBuf)
      (fun _ _ _ _ hbefore hstep => hbefore.step hthreads hstep)
      (racing_start kind threads hring) hrun
  have hbounded := hracing.bounded
  refine ⟨by omega, fun hidle => ?_⟩
  have hplaced := hracing.placed
  have hcount := hracing.short.count_le
  rw [total_eq_zero state rfl hidle, Nat.add_zero] at hplaced
  constructor
  · rw [hracing.current, advance_advance, Nat.add_sub_cancel' hcount]
    exact hplaced
  · rw [← Tally.count_eq_due_iff hracing.exact hracing.short]
    omega

/-- Two additions, of which each reads the current index before the other
writes it. -/
def lostMoveRun : List (RaceAction 2) :=
  [.enter 0 countedMessage, .enter 1 countedMessage] ++
    List.replicate 10 (.statement 0) ++ List.replicate 10 (.statement 1) ++
    [.statement 0, .statement 1]

/-- Both messages are counted, and the current index has moved by one. -/
theorem racing_indices_lostMoveRun : ∃ state : Race 2,
    state.device.usedBuf = 2 ∧ state.device.currentBuf = 1 ∧
      (state.device.usedBuf ≤ bufferSize + (2 - 1 : ℕ) ∧
        ((∀ producer, state.producers producer = .idle) →
          advance state.device.currentBuf
              (state.tally.due - state.tally.count) =
            advance state.device.firstBuf
              (state.device.usedBuf.toNat + state.stranded) ∧
          (state.tally.due - state.tally.count = 0 ↔
            state.tally.stale = 0))) := by
  have hobserved : observeRun (race .write 2)
      (fun state _ => (state.device.usedBuf, state.device.currentBuf))
      (Race.start 2 (kdevcharInit zeroMemory)) lostMoveRun = some (2, 1) := by
    decide +kernel
  obtain ⟨state, events, hrun, hview⟩ := run_of_observeRun hobserved
  obtain ⟨hused, hcurrent⟩ := Prod.mk.inj hview
  exact ⟨state, hused, hcurrent,
    racing_indices (show bufferSize + 2 < 2 ^ 31 by decide)
      (RingHolds.kdevcharInit zeroMemory) hrun⟩

end PaxosPersistence.RacingProducers
