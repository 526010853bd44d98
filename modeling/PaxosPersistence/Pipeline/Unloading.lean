import PaxosPersistence.Core.Machine
import PaxosPersistence.Kernel.KernelDevice

/-!
# Works at the time the module is unloaded

A work of the read test device uses the callback of its request, which belongs
to the read persistence device, until it frees itself.  The exit function stops
and joins the threads of the pool, frees the pool, and only later frees the
callbacks.  Here the threads take their steps between any two statements of the
exit function.  Statements that touch nothing a work uses are left out; no
handler runs any more, since an open file keeps the module loaded.
-/

namespace PaxosPersistence.Unloading

open Function
open PaxosPersistence.KernelDevice
open PaxosPersistence.Machine
open PaxosPersistence.Memory
open PaxosPersistence.PaxosTypes

/-! ## Objects and statements -/

inductive Object where
  | work (w : ℕ)
  | worker (i : ℕ)
  | thread (i : ℕ)
  | threadArray
  | workerArray
  | pool
  | value (slot : SlotId)
  | response (slot : SlotId)
  | callback (slot : SlotId)
  deriving DecidableEq

/-- `kthread_stop` first asks the thread to stop, and then waits for it. -/
inductive ExitStatement where
  | stop (i : ℕ)
  | join (i : ℕ)
  | release (object : Object)
  deriving DecidableEq

/-- `free_workers_threads` -/
def freeWorkersThreads (numWorkers : ℕ) : List ExitStatement :=
  (List.range numWorkers).flatMap (fun i => [.stop i, .join i]) ++
    [.release .threadArray]

/-- `free_workers` -/
def freeWorkers (numWorkers : ℕ) : List ExitStatement :=
  (List.range numWorkers).flatMap (fun i => [.release (.worker i)]) ++
    [.release .workerArray]

def freePool (numWorkers : ℕ) : List ExitStatement :=
  freeWorkersThreads numWorkers ++ freeWorkers numWorkers ++ [.release .pool]

/-- What `kdevchar_exit` frees of the callbacks. -/
def freeCallbacks : List ExitStatement :=
  (List.finRange bufferSize).flatMap fun slot =>
    [.release (.value slot), .release (.response slot),
      .release (.callback slot)]

/-- `paxos_persistence_exit`, from `persistence_device_destroy` of the read test
device on. -/
def exitStatements (numWorkers : ℕ) : List ExitStatement :=
  freePool numWorkers ++ freeCallbacks

/-- What a statement reads besides what it frees. -/
def ExitStatement.uses : ExitStatement → List Object
  | .stop i => [.pool, .threadArray, .thread i]
  | .join i => [.pool, .threadArray, .thread i]
  | .release (.worker _) => [.pool, .workerArray]
  | .release .threadArray | .release .workerArray => [.pool]
  | .release (.value slot) => [.callback slot, .response slot]
  | .release (.response slot) => [.callback slot]
  | .release _ => []

/-! ## The threads -/

/-- Where `kthread_worker_fn` stands, and in it `wait_response`. -/
inductive Stage where
  | idle
  | started (w : ℕ)
  | waiting (w : ℕ)
  | judging (w : ℕ)
  | marking (w : ℕ)
  | freeing (w : ℕ)
  | exited
  deriving DecidableEq

/-- The work a thread has taken from its list. -/
def Stage.works : Stage → List ℕ
  | .started w | .waiting w | .judging w | .marking w | .freeing w => [w]
  | .idle | .exited => []

/-! ## The kernel's side -/

/-- What a thread of the pool does between two works. -/
inductive Turn where
  | ends
  | waits
  | takes (w : ℕ) (rest : List ℕ)

structure KthreadApi where
  /-- Asked to stop or not, with this list. -/
  kthreadWorkerFn : Bool → List ℕ → Turn
  /-- Whether `kthread_stop` returns, with the thread at this stage. -/
  kthreadStop : Stage → Bool

/-- A thread that has been asked to stop ends between two works, whatever is in
its list, and any other takes the first work of its list or waits for one.
`kthread_stop` waits until the thread has ended. -/
structure KthreadApi.Documented (kthread : KthreadApi) : Prop where
  ends : ∀ works, kthread.kthreadWorkerFn true works = .ends
  waits : kthread.kthreadWorkerFn false [] = .waits
  takes : ∀ w rest, kthread.kthreadWorkerFn false (w :: rest) = .takes w rest
  joins : ∀ stage, kthread.kthreadStop stage = true ↔ stage = .exited

def workerThreads : KthreadApi where
  kthreadWorkerFn
    | true, _ => .ends
    | false, [] => .waits
    | false, w :: rest => .takes w rest
  kthreadStop stage := decide (stage = .exited)

theorem documented_workerThreads : workerThreads.Documented where
  ends _ := rfl
  waits := rfl
  takes _ _ := rfl
  joins _ := decide_eq_true_iff

/-! ## Steps -/

/-- The works are numbered in the order in which they are created; `slotOf` is
the callback of each. -/
structure Unload where
  live : Object → Bool
  lists : ℕ → List ℕ
  stage : ℕ → Stage
  stopping : ℕ → Bool
  slotOf : ℕ → SlotId
  created : ℕ
  currentWorker : ℕ
  /-- What is left of the exit function, once it has been called. -/
  remaining : Option (List ExitStatement)

/-- The pool and the callbacks, without the works. -/
def Object.structural (numWorkers : ℕ) : Object → Bool
  | .work _ => false
  | .worker i | .thread i => i < numWorkers
  | _ => true

/-- The module as it has been loaded. -/
def Unload.start (numWorkers : ℕ) : Unload where
  live := Object.structural numWorkers
  lists := fun _ => []
  stage := fun _ => .idle
  stopping := fun _ => false
  slotOf := fun _ => 0
  created := 0
  currentWorker := 0
  remaining := none

inductive Event where
  | queued (i w : ℕ)
  /-- A work has come to its end and is freed. -/
  | finished (w : ℕ)
  deriving DecidableEq

namespace Unload

variable (state : Unload)

def use (objects : List Object) : Except Halt Unit :=
  checked (if objects.all state.live then some () else none)

/-- The state without this object. -/
def drop (object : Object) : Unload :=
  { state with live := update state.live object false }

/-- `vfree` -/
def free (object : Object) : Except Halt Unload := do
  state.use [object]
  return state.drop object

def goto (i : ℕ) (stage : Stage) : Unload :=
  { state with stage := update state.stage i stage }

@[simp]
theorem live_drop_self (object : Object) :
    (state.drop object).live object = false := by
  simp [drop]

theorem live_drop_of_ne {object other : Object} (hne : other ≠ object) :
    (state.drop object).live other = state.live other := by
  simp [drop, hne]

@[simp]
theorem stage_goto_self (i : ℕ) (stage : Stage) :
    (state.goto i stage).stage i = stage := by
  simp [goto]

theorem stage_goto_of_ne {i j : ℕ} (hne : j ≠ i) (stage : Stage) :
    (state.goto i stage).stage j = state.stage j := by
  simp [goto, hne]

/-- The state with a new work at the end of the list of the next worker. -/
def queueWork (numWorkers : ℕ) (slot : SlotId) : Unload :=
  let w := state.created
  let i := state.currentWorker
  { state with
    live := update state.live (.work w) true
    lists := update state.lists i (state.lists i ++ [w])
    slotOf := update state.slotOf w slot
    created := w + 1
    currentWorker := (i + 1) % numWorkers }

/-- The rest of `read_test_write` once the request has its slot. -/
def addWork (numWorkers : ℕ) (slot : SlotId) :
    Except Halt (Unload × List Event) := do
  let i := state.currentWorker
  state.use [.callback slot, .pool, .workerArray, .worker i]
  return (state.queueWork numWorkers slot, [.queued i state.created])

/-- One step of a thread of the pool. -/
def runThread (kthread : KthreadApi) (i : ℕ) :
    Except Halt (Unload × List Event) :=
  match state.stage i with
  | .idle => do
      state.use [.thread i, .worker i]
      match kthread.kthreadWorkerFn (state.stopping i) (state.lists i) with
      | .ends => return (state.goto i .exited, [])
      | .waits => return (state, [])
      | .takes w rest => do
          state.use [.work w]
          return ({ state.goto i (.started w) with
              lists := update state.lists i rest }, [])
  | .started w => do
      -- the name of the thread is reached through the worker of the work
      state.use [.work w, .worker i, .thread i]
      return (state.goto i (.waiting w), [])
  | .waiting w => do
      state.use [.callback (state.slotOf w), .worker i, .thread i]
      return (state.goto i (.judging w), [])
  | .judging w => do
      state.use [.callback (state.slotOf w), .response (state.slotOf w),
        .work w]
      return (state.goto i (.marking w), [])
  | .marking w => do
      state.use [.callback (state.slotOf w)]
      return (state.goto i (.freeing w), [])
  | .freeing w => do
      let freed ← state.free (.work w)
      return (freed.goto i .idle, [.finished w])
  | .exited => .ok (state, [])

/-- One statement of the exit function. -/
def runStatement (kthread : KthreadApi) (statement : ExitStatement)
    (rest : List ExitStatement) : Except Halt Unload := do
  state.use statement.uses
  let next := { state with remaining := some rest }
  match statement with
  | .stop i => return { next with stopping := update state.stopping i true }
  | .join i =>
      if kthread.kthreadStop (state.stage i) then next.free (.thread i)
      else return state
  | .release object => next.free object

end Unload

inductive Action where
  /-- A request has been put into a slot, and gets a work. -/
  | addWork (slot : SlotId)
  | runThread (i : ℕ)
  /-- The exit function is called. -/
  | unload
  | exit
  deriving DecidableEq

def unloading (kthread : KthreadApi) (numWorkers : ℕ) :
    Step Unload Action Event Halt
  | state, .addWork slot =>
      match state.remaining with
      | none => state.addWork numWorkers slot
      | some _ => .ok (state, [])
  | state, .runThread i =>
      if i < numWorkers then state.runThread kthread i else .ok (state, [])
  | state, .unload =>
      match state.remaining with
      | none =>
          .ok ({ state with remaining := some (exitStatements numWorkers) }, [])
      | some _ => .ok (state, [])
  | state, .exit =>
      match state.remaining with
      | some (statement :: rest) => do
          let next ← state.runStatement kthread statement rest
          return (next, [])
      | _ => .ok (state, [])

/-- The works that were freed. -/
def finishedOf (history : List Event) : List ℕ :=
  history.filterMap fun
    | .finished w => some w
    | .queued _ _ => none

@[simp]
theorem finishedOf_append (first second : List Event) :
    finishedOf (first ++ second) = finishedOf first ++ finishedOf second :=
  List.filterMap_append

/-! ## The order of the exit function -/

/-- The statement that frees an object. -/
def Object.freed : Object → ExitStatement
  | .thread i => .join i
  | object => .release object

theorem freed_injective : Injective Object.freed := by
  intro left right hfreed
  cases left <;> cases right <;> simp_all [Object.freed]

/-- The statements of the exit function. -/
def ExitStatement.belongs (numWorkers : ℕ) : ExitStatement → Bool
  | .stop i | .join i => i < numWorkers
  | .release (.thread _) => false
  | .release object => object.structural numWorkers

theorem mem_exitStatements {numWorkers : ℕ} {statement : ExitStatement} :
    statement ∈ exitStatements numWorkers ↔
      statement.belongs numWorkers = true := by
  simp only [exitStatements, freePool, freeWorkersThreads, freeWorkers,
    freeCallbacks, List.mem_append, List.mem_flatMap, List.mem_range,
    List.mem_finRange, List.mem_cons, List.not_mem_nil, or_false]
  cases statement with
  | stop i => simp [ExitStatement.belongs]
  | join i => simp [ExitStatement.belongs]
  | release object =>
      cases object <;> simp [ExitStatement.belongs, Object.structural]

/-- The place of a statement in the exit function. -/
def ExitStatement.rank (numWorkers : ℕ) : ExitStatement → ℕ
  | .stop i => 2 * i
  | .join i => 2 * i + 1
  | .release .threadArray => 2 * numWorkers
  | .release (.worker i) => 2 * numWorkers + 1 + i
  | .release .workerArray => 3 * numWorkers + 1
  | .release .pool => 3 * numWorkers + 2
  | .release (.value slot) => 3 * numWorkers + 3 + 3 * slot
  | .release (.response slot) => 3 * numWorkers + 4 + 3 * slot
  | .release (.callback slot) => 3 * numWorkers + 5 + 3 * slot
  | .release (.thread _) | .release (.work _) => 0

/-- Statements in order, between two places. -/
structure Ordered (numWorkers low high : ℕ) (statements : List ExitStatement) :
    Prop where
  sorted : statements.Pairwise (·.rank numWorkers < ·.rank numWorkers)
  bounds : ∀ statement ∈ statements, low ≤ statement.rank numWorkers ∧
    statement.rank numWorkers < high

section Order

variable {numWorkers low middle high : ℕ}
variable {first second : List ExitStatement}

theorem Ordered.append (hfirst : Ordered numWorkers low middle first)
    (hsecond : Ordered numWorkers middle high second) (hlow : low ≤ middle)
    (hhigh : middle ≤ high) : Ordered numWorkers low high (first ++ second) where
  sorted := by
    refine List.pairwise_append.mpr ⟨hfirst.sorted, hsecond.sorted, ?_⟩
    intro left hleft right hright
    exact (hfirst.bounds left hleft).2.trans_le (hsecond.bounds right hright).1
  bounds := by
    intro statement hmem
    rcases List.mem_append.mp hmem with hmem | hmem
    · exact ⟨(hfirst.bounds statement hmem).1,
        (hfirst.bounds statement hmem).2.trans_le hhigh⟩
    · exact ⟨hlow.trans (hsecond.bounds statement hmem).1,
        (hsecond.bounds statement hmem).2⟩

theorem ordered_singleton {statement : ExitStatement}
    (hrank : statement.rank numWorkers = low) :
    Ordered numWorkers low (low + 1) [statement] where
  sorted := List.pairwise_singleton _ _
  bounds := by
    intro other hmem
    rw [List.mem_singleton.mp hmem, hrank]
    exact ⟨le_rfl, Nat.lt_succ_self low⟩

/-- A loop whose rounds take the same number of places. -/
theorem Ordered.flatMap {I : Type} {indices : List I} (place : I → ℕ)
    {rounds length : ℕ} {statements : I → List ExitStatement}
    (hsorted : indices.Pairwise (place · < place ·))
    (hplace : ∀ i ∈ indices, place i < rounds)
    (hround : ∀ i ∈ indices, Ordered numWorkers (low + length * place i)
      (low + length * (place i + 1)) (statements i)) :
    Ordered numWorkers low (low + length * rounds)
      (indices.flatMap statements) where
  sorted := by
    refine List.pairwise_flatMap.mpr
      ⟨fun i hmem => (hround i hmem).sorted, ?_⟩
    refine hsorted.imp_of_mem ?_
    intro i j hi hj hlt left hleft right hright
    have hnext : length * (place i + 1) ≤ length * place j :=
      Nat.mul_le_mul_left length hlt
    have hleft := ((hround i hi).bounds left hleft).2
    have hright := ((hround j hj).bounds right hright).1
    omega
  bounds := by
    intro statement hmem
    obtain ⟨i, hi, hmem⟩ := List.mem_flatMap.mp hmem
    have hlast : length * (place i + 1) ≤ length * rounds :=
      Nat.mul_le_mul_left length (hplace i hi)
    have hbounds := (hround i hi).bounds statement hmem
    omega

theorem ordered_freeWorkersThreads (numWorkers : ℕ) :
    Ordered numWorkers 0 (2 * numWorkers + 1)
      (freeWorkersThreads numWorkers) := by
  have hloop : Ordered numWorkers 0 (0 + 2 * numWorkers)
      ((List.range numWorkers).flatMap fun i =>
        [ExitStatement.stop i, .join i]) := by
    apply Ordered.flatMap id List.pairwise_lt_range
      (fun i hi => List.mem_range.mp hi)
    intro i _
    exact (ordered_singleton (by simp [ExitStatement.rank])).append
      (ordered_singleton (by simp [ExitStatement.rank])) (by omega) (by omega)
  rw [Nat.zero_add] at hloop
  exact hloop.append (ordered_singleton rfl) (Nat.zero_le _)
    (Nat.le_succ _)

theorem ordered_freeWorkers (numWorkers : ℕ) :
    Ordered numWorkers (2 * numWorkers + 1) (3 * numWorkers + 2)
      (freeWorkers numWorkers) := by
  have hloop : Ordered numWorkers (2 * numWorkers + 1)
      (2 * numWorkers + 1 + 1 * numWorkers)
      ((List.range numWorkers).flatMap fun i =>
        [ExitStatement.release (.worker i)]) := by
    apply Ordered.flatMap id List.pairwise_lt_range
      (fun i hi => List.mem_range.mp hi)
    intro i _
    exact ordered_singleton (by simp [ExitStatement.rank])
  have hend : 2 * numWorkers + 1 + 1 * numWorkers = 3 * numWorkers + 1 := by
    omega
  rw [hend] at hloop
  exact hloop.append (ordered_singleton rfl) (by omega) (Nat.le_succ _)

theorem ordered_freeCallbacks (numWorkers : ℕ) :
    Ordered numWorkers (3 * numWorkers + 3)
      (3 * numWorkers + 3 + 3 * bufferSize) freeCallbacks := by
  apply Ordered.flatMap Fin.val
    (List.pairwise_lt_finRange bufferSize) (fun slot _ => slot.isLt)
  intro slot _
  have hvalue : ExitStatement.rank numWorkers (.release (.value slot)) =
      3 * numWorkers + 3 + 3 * slot := rfl
  have hresponse : ExitStatement.rank numWorkers (.release (.response slot)) =
      3 * numWorkers + 3 + 3 * slot + 1 := by
    simp only [ExitStatement.rank]
    omega
  have hcallback : ExitStatement.rank numWorkers (.release (.callback slot)) =
      3 * numWorkers + 3 + 3 * slot + 1 + 1 := by
    simp only [ExitStatement.rank]
    omega
  exact (ordered_singleton hvalue).append
    ((ordered_singleton hresponse).append (ordered_singleton hcallback)
      (Nat.le_succ _) (Nat.le_succ _)) (Nat.le_succ _) (by omega)

theorem sorted_exitStatements (numWorkers : ℕ) :
    (exitStatements numWorkers).Pairwise
      (·.rank numWorkers < ·.rank numWorkers) := by
  have hpool : Ordered numWorkers 0 (3 * numWorkers + 3)
      (freePool numWorkers) :=
    ((ordered_freeWorkersThreads numWorkers).append
      (ordered_freeWorkers numWorkers) (Nat.zero_le _) (by omega)).append
        (ordered_singleton rfl) (Nat.zero_le _) (Nat.le_succ _)
  exact (hpool.append (ordered_freeCallbacks numWorkers) (Nat.zero_le _)
    (Nat.le_add_right _ _)).sorted

/-- What comes at or after the next statement has not been executed. -/
theorem notMem_of_rank_le {done rest : List ExitStatement}
    {next later : ExitStatement}
    (hsplit : exitStatements numWorkers = done ++ next :: rest)
    (hrank : next.rank numWorkers ≤ later.rank numWorkers) : later ∉ done := by
  intro hmem
  have hsorted := sorted_exitStatements numWorkers
  rw [hsplit] at hsorted
  have hlt := (List.pairwise_append.mp hsorted).2.2 later hmem next
    List.mem_cons_self
  omega

/-- What comes before a statement that has been executed has been executed. -/
theorem mem_of_rank_le {done rest : List ExitStatement}
    {earlier later : ExitStatement}
    (hsplit : exitStatements numWorkers = done ++ rest)
    (hearlier : earlier ∈ exitStatements numWorkers) (hlater : later ∈ done)
    (hrank : earlier.rank numWorkers ≤ later.rank numWorkers) :
    earlier ∈ done := by
  rw [hsplit] at hearlier
  rcases List.mem_append.mp hearlier with hmem | hmem
  · exact hmem
  · have hsorted := sorted_exitStatements numWorkers
    rw [hsplit] at hsorted
    have hlt := (List.pairwise_append.mp hsorted).2.2 later hlater earlier hmem
    omega

end Order

/-! ## What holds throughout -/

/-- The works that belong to a thread: the one it runs and those in its list. -/
def Unload.carried (state : Unload) (i : ℕ) : List ℕ :=
  (state.stage i).works ++ state.lists i

/-- These statements of the exit function have been executed. -/
structure Passed (numWorkers : ℕ) (state : Unload)
    (done : List ExitStatement) : Prop where
  split : match state.remaining with
    | none => done = []
    | some rest => exitStatements numWorkers = done ++ rest
  structural : ∀ object, object.structural numWorkers = true →
    (state.live object = true ↔ object.freed ∉ done)
  foreign : ∀ object, (∀ w, object ≠ .work w) → state.live object = true →
    object.structural numWorkers = true
  stopped : ∀ i, .stop i ∈ done → state.stopping i = true
  joined : ∀ i, .join i ∈ done → state.stage i = .exited

structure Sound (numWorkers : ℕ) (state : Unload) (history : List Event) :
    Prop where
  works : ∀ w, state.live (.work w) = true ↔ ∃ i, w ∈ state.carried i
  nodup : ∀ i, (state.carried i).Nodup
  apart : ∀ i j w, w ∈ state.carried i → w ∈ state.carried j → i = j
  known : ∀ i, ∀ w ∈ state.carried i, i < numWorkers ∧ w < state.created
  finished_nodup : (finishedOf history).Nodup
  finished : ∀ w, w ∈ finishedOf history ↔
    w < state.created ∧ state.live (.work w) = false
  currentWorker : state.currentWorker < numWorkers
  passed : ∃ done, Passed numWorkers state done

section Steps

variable {kthread : KthreadApi}
variable {numWorkers : ℕ} {state next : Unload} {history : List Event}
variable {done rest : List ExitStatement}

theorem sound_start (hpositive : 0 < numWorkers) :
    Sound numWorkers (Unload.start numWorkers) [] where
  works w := by simp [Unload.start, Object.structural, Unload.carried,
    Stage.works]
  nodup i := List.nodup_nil
  apart i j w hmem := by cases hmem
  known i w hmem := by cases hmem
  finished_nodup := List.nodup_nil
  finished w := by simp [Unload.start, finishedOf]
  currentWorker := hpositive
  passed := ⟨[], {
    split := rfl
    structural := fun object hobject => by simp [Unload.start, hobject]
    foreign := fun _ _ hlive => hlive
    stopped := fun i hmem => by cases hmem
    joined := fun i hmem => by cases hmem }⟩

theorem use_eq_ok {objects : List Object}
    (hlive : ∀ object ∈ objects, state.live object = true) :
    state.use objects = .ok () := by
  rw [Unload.use, if_pos (List.all_eq_true.mpr hlive), checked_some]

theorem free_eq_ok {object : Object} (hlive : state.live object = true) :
    state.free object = .ok (state.drop object) := by
  have huse : state.use [object] = .ok () :=
    use_eq_ok (by simpa using hlive)
  simp only [Unload.free, huse, bind, Except.bind, pure, Except.pure]

/-- A thread that still runs finds what is only freed after it has been
joined. -/
theorem Passed.live_of_running (hpassed : Passed numWorkers state done) {i : ℕ}
    (hi : i < numWorkers) (hrunning : state.stage i ≠ .exited)
    {object : Object} (hobject : object.structural numWorkers = true)
    (hrank : (ExitStatement.join i).rank numWorkers ≤
      object.freed.rank numWorkers) : state.live object = true := by
  refine (hpassed.structural object hobject).mpr fun hfreed => ?_
  have hsplit := hpassed.split
  split at hsplit
  · rw [hsplit] at hfreed
    cases hfreed
  · have hjoin : ExitStatement.join i ∈ done :=
      mem_of_rank_le hsplit (mem_exitStatements.mpr (decide_eq_true hi)) hfreed
        hrank
    exact hrunning (hpassed.joined i hjoin)

/-- What happens to the works is all that has to be looked at. -/
theorem Sound.keepWorks (hsound : Sound numWorkers state history)
    (hcarried : next.carried = state.carried)
    (hlive : ∀ w, next.live (.work w) = state.live (.work w))
    (hcreated : next.created = state.created)
    (hcurrent : next.currentWorker = state.currentWorker)
    (hpassed : ∃ done, Passed numWorkers next done) :
    Sound numWorkers next history where
  works w := by rw [hlive, hcarried, hsound.works]
  nodup i := by rw [hcarried]; exact hsound.nodup i
  apart i j w := by rw [hcarried]; exact hsound.apart i j w
  known i := by rw [hcarried, hcreated]; exact hsound.known i
  finished_nodup := hsound.finished_nodup
  finished w := by rw [hlive, hcreated, hsound.finished]
  currentWorker := by rw [hcurrent]; exact hsound.currentWorker
  passed := hpassed

/-- A thread goes on with the works it has. -/
theorem Sound.moved (hsound : Sound numWorkers state history) {i : ℕ}
    (hrunning : state.stage i ≠ .exited)
    (hstage : ∀ j ≠ i, next.stage j = state.stage j)
    (hcarried : next.carried = state.carried)
    (hlive : next.live = state.live) (hstopping : next.stopping = state.stopping)
    (hcreated : next.created = state.created)
    (hcurrent : next.currentWorker = state.currentWorker)
    (hremaining : next.remaining = state.remaining) :
    Sound numWorkers next history := by
  obtain ⟨done, hpassed⟩ := hsound.passed
  refine hsound.keepWorks hcarried (fun w => by rw [hlive]) hcreated hcurrent
    ⟨done, ?_, ?_, ?_, ?_, ?_⟩
  · rw [hremaining]
    exact hpassed.split
  · rw [hlive]
    exact hpassed.structural
  · rw [hlive]
    exact hpassed.foreign
  · rw [hstopping]
    exact hpassed.stopped
  · intro j hjoin
    have hne : j ≠ i := by
      rintro rfl
      exact hrunning (hpassed.joined j hjoin)
    rw [hstage j hne]
    exact hpassed.joined j hjoin

/-- A thread keeps its works as it moves through `wait_response`. -/
theorem Sound.goto (hsound : Sound numWorkers state history) {i : ℕ}
    (hrunning : state.stage i ≠ .exited) {stage : Stage}
    (hworks : stage.works = (state.stage i).works) :
    Sound numWorkers (state.goto i stage) history := by
  refine hsound.moved hrunning (fun j hne => update_of_ne hne _ _) ?_ rfl rfl
    rfl rfl rfl
  funext j
  by_cases hsame : j = i
  · rw [hsame, Unload.carried, Unload.stage_goto_self, hworks]
    rfl
  · rw [Unload.carried, Unload.stage_goto_of_ne _ hsame]
    rfl

/-- A thread takes the first work of its list. -/
theorem Sound.take (hsound : Sound numWorkers state history) {i w : ℕ}
    (hidle : state.stage i = .idle) {rest : List ℕ}
    (hlist : state.lists i = w :: rest) :
    Sound numWorkers
      { state.goto i (.started w) with
        lists := update state.lists i rest } history := by
  have hrunning : state.stage i ≠ .exited := by
    rw [hidle]
    exact Stage.noConfusion
  refine hsound.moved hrunning (fun j hne => update_of_ne hne _ _) ?_ rfl rfl
    rfl rfl rfl
  funext j
  by_cases hsame : j = i
  · subst hsame
    simp only [Unload.carried, Unload.goto, update_self, hidle, hlist,
      Stage.works, List.nil_append, List.singleton_append]
  · simp only [Unload.carried, Unload.goto, update_of_ne hsame]

theorem Sound.live_of_carried (hsound : Sound numWorkers state history)
    {i w : ℕ} (hmem : w ∈ state.carried i) : state.live (.work w) = true :=
  (hsound.works w).mpr ⟨i, hmem⟩

theorem Sound.live_of_running (hsound : Sound numWorkers state history) {i : ℕ}
    (hi : i < numWorkers) (hrunning : state.stage i ≠ .exited) :
    state.live (.worker i) = true ∧ state.live (.thread i) = true ∧
      ∀ slot, state.live (.callback slot) = true ∧
        state.live (.response slot) = true := by
  obtain ⟨done, hpassed⟩ := hsound.passed
  have hlive := @hpassed.live_of_running _ _ _ i hi hrunning
  refine ⟨hlive (decide_eq_true hi) ?_, hlive (decide_eq_true hi) le_rfl,
    fun slot => ⟨hlive rfl ?_, hlive rfl ?_⟩⟩ <;>
    simp only [Object.freed, ExitStatement.rank] <;> omega

/-- A work that is freed belongs to nobody any more. -/
theorem Sound.finish (hsound : Sound numWorkers state history) {i w : ℕ}
    (hfreeing : state.stage i = .freeing w)
    (hnext : next = (state.drop (.work w)).goto i .idle) :
    Sound numWorkers next (history ++ [.finished w]) := by
  have hself : state.carried i = w :: state.lists i := by
    rw [Unload.carried, hfreeing]
    rfl
  have hnextSelf : next.carried i = state.lists i := by
    rw [hnext, Unload.carried, Unload.stage_goto_self]
    rfl
  have hnextOther : ∀ j, j ≠ i → next.carried j = state.carried j := by
    intro j hne
    rw [hnext, Unload.carried, Unload.stage_goto_of_ne _ hne]
    rfl
  have hmem : w ∈ state.carried i := hself ▸ List.mem_cons_self
  obtain ⟨hnotMem, htail⟩ := List.nodup_cons.mp (hself ▸ hsound.nodup i)
  have hcarried : ∀ j v, v ∈ next.carried j ↔ v ∈ state.carried j ∧ v ≠ w := by
    intro j v
    by_cases hsame : j = i
    · rw [hsame, hnextSelf, hself]
      constructor
      · exact fun hv => ⟨List.mem_cons_of_mem w hv,
          fun heq => hnotMem (heq ▸ hv)⟩
      · exact fun hv => (List.mem_cons.mp hv.1).resolve_left hv.2
    · rw [hnextOther j hsame]
      exact ⟨fun hv => ⟨hv, fun heq =>
        hsame (hsound.apart j i w (heq ▸ hv) hmem)⟩, And.left⟩
  have hlive : ∀ v, next.live (.work v) = true ↔
      state.live (.work v) = true ∧ v ≠ w := by
    intro v
    rw [hnext]
    by_cases hsame : v = w
    · rw [hsame]
      exact iff_of_false (by simp [Unload.goto]) (fun hlive => hlive.2 rfl)
    · have hne : Object.work v ≠ .work w := fun heq =>
        hsame (Object.work.inj heq)
      exact (Bool.eq_iff_iff.mp (state.live_drop_of_ne hne)).trans
        (and_iff_left hsame).symm
  have hcreated : next.created = state.created := by rw [hnext]; rfl
  exact {
    works := by
      intro v
      simp only [hlive, hcarried, hsound.works, exists_and_right]
    nodup := by
      intro j
      by_cases hsame : j = i
      · rw [hsame, hnextSelf]
        exact htail
      · rw [hnextOther j hsame]
        exact hsound.nodup j
    apart := fun j k v hj hk => hsound.apart j k v ((hcarried j v).mp hj).1
      ((hcarried k v).mp hk).1
    known := by
      intro j v hv
      rw [hcreated]
      exact hsound.known j v ((hcarried j v).mp hv).1
    finished_nodup := by
      rw [finishedOf_append]
      refine List.nodup_append'.mpr ⟨hsound.finished_nodup,
        List.nodup_singleton w, ?_⟩
      intro v hold hnew
      rw [List.mem_singleton.mp hnew] at hold
      have hdead := ((hsound.finished w).mp hold).2
      rw [hsound.live_of_carried hmem] at hdead
      cases hdead
    finished := by
      intro v
      rw [finishedOf_append, List.mem_append, hsound.finished, hcreated,
        ← Bool.not_eq_true, ← Bool.not_eq_true, hlive]
      have hknown := (hsound.known i w hmem).2
      by_cases hsame : v = w
      · simp [finishedOf, hsame, hknown]
      · simp [finishedOf, hsame]
    currentWorker := by rw [hnext]; exact hsound.currentWorker
    passed := by
      obtain ⟨done, hpassed⟩ := hsound.passed
      refine ⟨done, ?_, ?_, ?_, ?_, ?_⟩
      · rw [hnext]
        exact hpassed.split
      · intro object hobject
        have hne : object ≠ .work w := by
          rintro rfl
          cases hobject
        rw [hnext]
        exact (Bool.eq_iff_iff.mp (state.live_drop_of_ne hne)).trans
          (hpassed.structural object hobject)
      · intro object hobject hlive
        rw [hnext] at hlive
        exact hpassed.foreign object hobject
          (state.live_drop_of_ne (hobject w) ▸ hlive)
      · rw [hnext]
        exact hpassed.stopped
      · intro j hjoin
        have hexited := hpassed.joined j hjoin
        have hne : j ≠ i := by
          rintro rfl
          rw [hfreeing] at hexited
          cases hexited
        rw [hnext, Unload.stage_goto_of_ne _ hne]
        exact hexited }

theorem Sound.runThread (hsound : Sound numWorkers state history)
    (hkthread : kthread.Documented) {i : ℕ} (hi : i < numWorkers) :
    ∃ next events, state.runThread kthread i = .ok (next, events) ∧
      Sound numWorkers next (history ++ events) := by
  by_cases hexited : state.stage i = .exited
  · refine ⟨state, [], by simp only [Unload.runThread, hexited], ?_⟩
    rwa [List.append_nil]
  obtain ⟨hworker, hthread, hslots⟩ := hsound.live_of_running hi hexited
  have hkept : ∀ {stage : Stage}, stage.works = (state.stage i).works →
      Sound numWorkers (state.goto i stage) (history ++ []) := by
    intro stage hworks
    rw [List.append_nil]
    exact hsound.goto hexited hworks
  have hlive : ∀ w, (state.stage i).works = [w] →
      state.live (.work w) = true := by
    intro w hworks
    apply hsound.live_of_carried
    rw [Unload.carried, hworks]
    exact List.mem_cons_self
  cases hstage : state.stage i with
  | exited => exact absurd hstage hexited
  | idle =>
      have huse : state.use [.thread i, .worker i] = .ok () :=
        use_eq_ok (by simp [hworker, hthread])
      by_cases hstopping : state.stopping i = true
      · refine ⟨state.goto i .exited, [], ?_, hkept (by rw [hstage]; rfl)⟩
        simp only [Unload.runThread, hstage, huse, hstopping, hkthread.ends,
          bind, Except.bind, pure, Except.pure]
      · rw [Bool.not_eq_true] at hstopping
        cases hlist : state.lists i with
        | nil =>
            refine ⟨state, [], ?_, by rwa [List.append_nil]⟩
            simp only [Unload.runThread, hstage, huse, hstopping, hlist,
              hkthread.waits, bind, Except.bind, pure, Except.pure]
        | cons w rest =>
            have hmem : w ∈ state.carried i := by
              rw [Unload.carried, hlist]
              exact List.mem_append_right _ List.mem_cons_self
            have hnode : state.use [.work w] = .ok () :=
              use_eq_ok (by simp [hsound.live_of_carried hmem])
            refine ⟨{ state.goto i (.started w) with
              lists := update state.lists i rest }, [], ?_, ?_⟩
            · simp only [Unload.runThread, hstage, huse, hstopping, hlist,
                hkthread.takes, hnode, bind, Except.bind, pure, Except.pure]
            · rw [List.append_nil]
              exact hsound.take hstage hlist
  | started w =>
      have huse : state.use [.work w, .worker i, .thread i] = .ok () :=
        use_eq_ok (by simp [hlive w (by rw [hstage]; rfl), hworker, hthread])
      refine ⟨state.goto i (.waiting w), [], ?_, hkept (by rw [hstage]; rfl)⟩
      simp only [Unload.runThread, hstage, huse, bind, Except.bind, pure,
        Except.pure]
  | waiting w =>
      have huse : state.use [.callback (state.slotOf w), .worker i,
          .thread i] = .ok () :=
        use_eq_ok (by simp [hslots (state.slotOf w), hworker, hthread])
      refine ⟨state.goto i (.judging w), [], ?_, hkept (by rw [hstage]; rfl)⟩
      simp only [Unload.runThread, hstage, huse, bind, Except.bind, pure,
        Except.pure]
  | judging w =>
      have huse : state.use [.callback (state.slotOf w),
          .response (state.slotOf w), .work w] = .ok () :=
        use_eq_ok (by simp [hslots (state.slotOf w),
          hlive w (by rw [hstage]; rfl)])
      refine ⟨state.goto i (.marking w), [], ?_, hkept (by rw [hstage]; rfl)⟩
      simp only [Unload.runThread, hstage, huse, bind, Except.bind, pure,
        Except.pure]
  | marking w =>
      have huse : state.use [.callback (state.slotOf w)] = .ok () :=
        use_eq_ok (by simp [hslots (state.slotOf w)])
      refine ⟨state.goto i (.freeing w), [], ?_, hkept (by rw [hstage]; rfl)⟩
      simp only [Unload.runThread, hstage, huse, bind, Except.bind, pure,
        Except.pure]
  | freeing w =>
      refine ⟨_, [.finished w], ?_, hsound.finish hstage rfl⟩
      simp only [Unload.runThread, hstage,
        free_eq_ok (hlive w (by rw [hstage]; rfl)), bind, Except.bind, pure,
        Except.pure]

theorem carried_queueWork_self (state : Unload) (slot : SlotId) :
    (state.queueWork numWorkers slot).carried state.currentWorker =
      state.carried state.currentWorker ++ [state.created] := by
  simp [Unload.queueWork, Unload.carried]

theorem carried_queueWork_of_ne (slot : SlotId) {i : ℕ}
    (hne : i ≠ state.currentWorker) :
    (state.queueWork numWorkers slot).carried i = state.carried i := by
  simp [Unload.queueWork, Unload.carried, hne]

theorem mem_carried_queueWork {slot : SlotId} {i w : ℕ} :
    w ∈ (state.queueWork numWorkers slot).carried i ↔
      w ∈ state.carried i ∨ (i = state.currentWorker ∧ w = state.created) := by
  by_cases hsame : i = state.currentWorker
  · simp [hsame, carried_queueWork_self]
  · simp [carried_queueWork_of_ne slot hsame, hsame]

theorem live_work_queueWork {slot : SlotId} {w : ℕ} :
    (state.queueWork numWorkers slot).live (.work w) = true ↔
      state.live (.work w) = true ∨ w = state.created := by
  by_cases hsame : w = state.created
  · simp [Unload.queueWork, hsame]
  · simp [Unload.queueWork, hsame]

theorem live_queueWork_of_ne (slot : SlotId) {object : Object}
    (hobject : ∀ w, object ≠ .work w) :
    (state.queueWork numWorkers slot).live object = state.live object := by
  simp [Unload.queueWork, hobject]

theorem not_work {object : Object}
    (hobject : object.structural numWorkers = true) (w : ℕ) :
    object ≠ .work w := by
  rintro rfl
  cases hobject

/-- A new work belongs to the worker it is queued on. -/
theorem Sound.queueWork (hsound : Sound numWorkers state history)
    (slot : SlotId) :
    Sound numWorkers (state.queueWork numWorkers slot)
      (history ++ [.queued state.currentWorker state.created]) := by
  have hfresh : ∀ i, state.created ∉ state.carried i := fun i hmem =>
    (hsound.known i _ hmem).2.false
  have hdead : state.live (.work state.created) = false := by
    rw [← Bool.not_eq_true, hsound.works]
    rintro ⟨i, hmem⟩
    exact hfresh i hmem
  have hfinished : finishedOf (history ++
      [.queued state.currentWorker state.created]) = finishedOf history := by
    simp [finishedOf]
  exact {
    works := by
      intro w
      simp only [live_work_queueWork, mem_carried_queueWork, hsound.works,
        exists_or, exists_and_right, exists_eq, true_and]
    nodup := by
      intro i
      by_cases hsame : i = state.currentWorker
      · rw [hsame, carried_queueWork_self]
        exact List.nodup_append'.mpr ⟨hsound.nodup _, List.nodup_singleton _,
          by simpa using hfresh state.currentWorker⟩
      · rw [carried_queueWork_of_ne slot hsame]
        exact hsound.nodup i
    apart := by
      intro i j w hi hj
      rcases mem_carried_queueWork.mp hi with hi | ⟨rfl, rfl⟩
      · rcases mem_carried_queueWork.mp hj with hj | ⟨rfl, rfl⟩
        · exact hsound.apart i j w hi hj
        · exact absurd hi (hfresh i)
      · rcases mem_carried_queueWork.mp hj with hj | ⟨rfl, -⟩
        · exact absurd hj (hfresh j)
        · rfl
    known := by
      intro i w hmem
      rcases mem_carried_queueWork.mp hmem with hmem | ⟨rfl, rfl⟩
      · exact ⟨(hsound.known i w hmem).1,
          (hsound.known i w hmem).2.trans (Nat.lt_succ_self _)⟩
      · exact ⟨hsound.currentWorker, Nat.lt_succ_self _⟩
    finished_nodup := hfinished ▸ hsound.finished_nodup
    finished := by
      intro w
      rw [hfinished, hsound.finished, ← Bool.not_eq_true, ← Bool.not_eq_true,
        live_work_queueWork, not_or]
      constructor
      · exact fun hold => ⟨hold.1.trans (Nat.lt_succ_self _), hold.2,
          hold.1.ne⟩
      · exact fun hnew => ⟨lt_of_le_of_ne (Nat.le_of_lt_succ hnew.1) hnew.2.2,
          hnew.2.1⟩
    currentWorker := Nat.mod_lt _ (Nat.zero_lt_of_lt hsound.currentWorker)
    passed := by
      obtain ⟨done, hpassed⟩ := hsound.passed
      refine ⟨done, hpassed.split, ?_, ?_, hpassed.stopped, hpassed.joined⟩
      · intro object hobject
        rw [live_queueWork_of_ne slot (not_work hobject)]
        exact hpassed.structural object hobject
      · intro object hobject hlive
        rw [live_queueWork_of_ne slot hobject] at hlive
        exact hpassed.foreign object hobject hlive }

theorem Passed.done_eq_nil (hpassed : Passed numWorkers state done)
    (hloaded : state.remaining = none) : done = [] := by
  have hsplit := hpassed.split
  rwa [hloaded] at hsplit

theorem Sound.addWork (hsound : Sound numWorkers state history)
    (hloaded : state.remaining = none) (slot : SlotId) :
    ∃ next events, state.addWork numWorkers slot = .ok (next, events) ∧
      Sound numWorkers next (history ++ events) := by
  obtain ⟨done, hpassed⟩ := hsound.passed
  have hbuilt : ∀ object, object.structural numWorkers = true →
      state.live object = true := by
    intro object hobject
    rw [hpassed.structural object hobject, hpassed.done_eq_nil hloaded]
    exact List.not_mem_nil
  have huse : state.use [.callback slot, .pool, .workerArray,
      .worker state.currentWorker] = .ok () := by
    apply use_eq_ok
    intro object hmem
    apply hbuilt
    simp only [List.mem_cons, List.not_mem_nil, or_false] at hmem
    rcases hmem with rfl | rfl | rfl | rfl
    · rfl
    · rfl
    · rfl
    · exact decide_eq_true hsound.currentWorker
  refine ⟨_, _, ?_, hsound.queueWork slot⟩
  simp only [Unload.addWork, huse, bind, Except.bind, pure, Except.pure]

/-- The exit function is called. -/
theorem Sound.unload (hsound : Sound numWorkers state history)
    (hloaded : state.remaining = none) :
    Sound numWorkers
      { state with remaining := some (exitStatements numWorkers) } history :=
  { hsound with
    passed := by
      obtain ⟨done, hpassed⟩ := hsound.passed
      have hdone := hpassed.done_eq_nil hloaded
      exact ⟨done, by rw [hdone]; rfl, hpassed.structural, hpassed.foreign,
        hpassed.stopped, hpassed.joined⟩ }

/-- A statement reads nothing that an earlier one has freed. -/
theorem uses_spec {statement : ExitStatement}
    (hbelongs : statement.belongs numWorkers = true) {object : Object}
    (hmem : object ∈ statement.uses) :
    object.structural numWorkers = true ∧
      statement.rank numWorkers ≤ object.freed.rank numWorkers := by
  cases statement with
  | stop i =>
      have hi : i < numWorkers := of_decide_eq_true hbelongs
      simp only [ExitStatement.uses, List.mem_cons, List.not_mem_nil,
        or_false] at hmem
      rcases hmem with rfl | rfl | rfl <;>
        simp [Object.structural, Object.freed, ExitStatement.rank, hi]
      · omega
      · omega
  | join i =>
      have hi : i < numWorkers := of_decide_eq_true hbelongs
      simp only [ExitStatement.uses, List.mem_cons, List.not_mem_nil,
        or_false] at hmem
      rcases hmem with rfl | rfl | rfl <;>
        simp [Object.structural, Object.freed, ExitStatement.rank, hi]
      · omega
  | release released =>
      cases released with
      | worker i =>
          have hi : i < numWorkers := of_decide_eq_true hbelongs
          simp only [ExitStatement.uses, List.mem_cons, List.not_mem_nil,
            or_false] at hmem
          rcases hmem with rfl | rfl <;>
            simp only [Object.structural, Object.freed, ExitStatement.rank,
              true_and] <;> omega
      | threadArray | workerArray | response slot =>
          rw [List.mem_singleton.mp hmem]
          refine ⟨rfl, ?_⟩
          simp only [Object.freed, ExitStatement.rank]
          omega
      | value slot =>
          simp only [ExitStatement.uses, List.mem_cons, List.not_mem_nil,
            or_false] at hmem
          rcases hmem with rfl | rfl
          · exact ⟨rfl, by simp only [Object.freed, ExitStatement.rank]; omega⟩
          · exact ⟨rfl, by simp only [Object.freed, ExitStatement.rank]; omega⟩
      | _ => cases hmem

/-- The object of a statement is gone, and no other. -/
theorem Passed.drop (hpassed : Passed numWorkers state done)
    {object : Object}
    (hsplit : exitStatements numWorkers = done ++ object.freed :: rest)
    (hstop : ∀ i, object.freed ≠ .stop i)
    (hjoin : ∀ i, object.freed = .join i → state.stage i = .exited) :
    Passed numWorkers
      (({ state with remaining := some rest } : Unload).drop object)
      (done ++ [object.freed]) where
  split := hsplit.trans (List.append_cons _ _ _)
  structural := by
    intro other hother
    by_cases hsame : other = object
    · rw [hsame]
      simp
    · have hne : other.freed ≠ object.freed := freed_injective.ne hsame
      rw [Unload.live_drop_of_ne _ hsame, List.mem_append, List.mem_singleton]
      exact (hpassed.structural other hother).trans (by simp [hne])
  foreign := by
    intro other hother hlive
    by_cases hsame : other = object
    · rw [hsame, Unload.live_drop_self] at hlive
      cases hlive
    · rw [Unload.live_drop_of_ne _ hsame] at hlive
      exact hpassed.foreign other hother hlive
  stopped := by
    intro i hmem
    rcases List.mem_append.mp hmem with hold | hnew
    · exact hpassed.stopped i hold
    · exact absurd (List.mem_singleton.mp hnew).symm (hstop i)
  joined := by
    intro i hmem
    rcases List.mem_append.mp hmem with hold | hnew
    · exact hpassed.joined i hold
    · exact hjoin i (List.mem_singleton.mp hnew).symm

/-- A statement of the exit function reads and frees only what is there; to
wait for a thread is to do nothing until it has ended. -/
theorem Sound.runStatement (hsound : Sound numWorkers state history)
    (hkthread : kthread.Documented) {statement : ExitStatement}
    (hremaining : state.remaining = some (statement :: rest)) :
    ∃ next, state.runStatement kthread statement rest = .ok next ∧
      Sound numWorkers next history := by
  obtain ⟨done, hpassed⟩ := hsound.passed
  have hsplit := hpassed.split
  rw [hremaining] at hsplit
  have hbelongs : statement.belongs numWorkers = true := by
    rw [← mem_exitStatements, hsplit]
    exact List.mem_append_right _ List.mem_cons_self
  have hthere : ∀ object, object.structural numWorkers = true →
      statement.rank numWorkers ≤ object.freed.rank numWorkers →
        state.live object = true := fun object hobject hrank =>
    (hpassed.structural object hobject).mpr (notMem_of_rank_le hsplit hrank)
  have huse : state.use statement.uses = .ok () :=
    use_eq_ok fun object hmem =>
      hthere object (uses_spec hbelongs hmem).1 (uses_spec hbelongs hmem).2
  cases statement with
  | stop i =>
      refine ⟨{ state with
        remaining := some rest
        stopping := update state.stopping i true }, ?_, ?_⟩
      · simp only [Unload.runStatement, huse, bind, Except.bind, pure,
          Except.pure]
      · refine hsound.keepWorks rfl (fun w => rfl) rfl rfl
          ⟨done ++ [.stop i], hsplit.trans (List.append_cons _ _ _), ?_,
            hpassed.foreign, ?_, ?_⟩
        · intro object hobject
          have hne : object.freed ≠ .stop i := by
            cases object <;> exact ExitStatement.noConfusion
          rw [hpassed.structural object hobject]
          simp [hne]
        · intro j hmem
          by_cases hsame : j = i
          · simp [hsame]
          · have hold : ExitStatement.stop j ∈ done := by
              simpa [hsame] using hmem
            simpa [hsame] using hpassed.stopped j hold
        · intro j hmem
          exact hpassed.joined j (by simpa using hmem)
  | join i =>
      by_cases hexited : state.stage i = .exited
      · have hlive := hthere (.thread i) hbelongs le_rfl
        have hfreed : exitStatements numWorkers =
            done ++ (Object.thread i).freed :: rest := hsplit
        refine ⟨({ state with remaining := some rest } : Unload).drop
          (.thread i), ?_, ?_⟩
        · have hfree : ({ state with remaining := some rest } : Unload).free
              (.thread i) = .ok _ := free_eq_ok hlive
          simp only [Unload.runStatement, huse,
            (hkthread.joins _).mpr hexited, hfree, bind, Except.bind, if_true]
        · refine hsound.keepWorks rfl
            (fun w => Unload.live_drop_of_ne _ Object.noConfusion) rfl rfl
            ⟨_, hpassed.drop hfreed ?_ ?_⟩
          · exact fun j => ExitStatement.noConfusion
          · intro j hsame
            rwa [← ExitStatement.join.inj hsame]
      · refine ⟨state, ?_, hsound⟩
        have hrunning : ¬ kthread.kthreadStop (state.stage i) = true :=
          fun hjoined => hexited ((hkthread.joins _).mp hjoined)
        simp only [Unload.runStatement, huse, if_neg hrunning, bind,
          Except.bind, pure, Except.pure]
  | release object =>
      have hfreed : object.freed = .release object := by
        cases object <;> first | rfl | cases hbelongs
      have hstructural : object.structural numWorkers = true := by
        cases object <;> first | exact hbelongs | cases hbelongs
      have hlive := hthere object hstructural (by rw [hfreed])
      refine ⟨({ state with remaining := some rest } : Unload).drop object,
        ?_, ?_⟩
      · have hfree : ({ state with remaining := some rest } : Unload).free
            object = .ok _ := free_eq_ok hlive
        simp only [Unload.runStatement, huse, hfree, bind, Except.bind]
      · refine hsound.keepWorks rfl (fun w => ?_) rfl rfl
          ⟨_, hpassed.drop (hfreed ▸ hsplit) ?_ ?_⟩
        · apply Unload.live_drop_of_ne
          rintro rfl
          cases hstructural
        · intro i
          rw [hfreed]
          exact ExitStatement.noConfusion
        · intro i hjoin
          rw [hfreed] at hjoin
          cases hjoin

theorem Sound.step (hsound : Sound numWorkers state history)
    (hkthread : kthread.Documented) (action : Action) :
    ∃ next events,
      unloading kthread numWorkers state action = .ok (next, events) ∧
      Sound numWorkers next (history ++ events) := by
  have hidle : Sound numWorkers state (history ++ []) := by
    rwa [List.append_nil]
  cases action with
  | addWork slot =>
      cases hremaining : state.remaining with
      | none =>
          obtain ⟨next, events, hadd, hnext⟩ := hsound.addWork hremaining slot
          exact ⟨next, events, by simp only [unloading, hremaining, hadd], hnext⟩
      | some rest =>
          exact ⟨state, [], by simp only [unloading, hremaining], hidle⟩
  | runThread i =>
      by_cases hi : i < numWorkers
      · obtain ⟨next, events, hthread, hnext⟩ := hsound.runThread hkthread hi
        exact ⟨next, events, (if_pos hi).trans hthread, hnext⟩
      · exact ⟨state, [], if_neg hi, hidle⟩
  | unload =>
      cases hremaining : state.remaining with
      | none =>
          refine ⟨_, [], by simp only [unloading, hremaining]; rfl, ?_⟩
          rw [List.append_nil]
          exact hsound.unload hremaining
      | some rest =>
          exact ⟨state, [], by simp only [unloading, hremaining], hidle⟩
  | exit =>
      cases hremaining : state.remaining with
      | none => exact ⟨state, [], by simp only [unloading, hremaining], hidle⟩
      | some rest =>
          cases rest with
          | nil => exact ⟨state, [], by simp only [unloading, hremaining], hidle⟩
          | cons statement rest =>
              obtain ⟨next, hstatement, hnext⟩ :=
                hsound.runStatement hkthread hremaining
              refine ⟨next, [], ?_, by rwa [List.append_nil]⟩
              simp only [unloading, hremaining, hstatement, bind, Except.bind,
                pure, Except.pure]

theorem Sound.exists_run (hsound : Sound numWorkers state history)
    (hkthread : kthread.Documented) (actions : List Action) :
    ∃ last events, run (unloading kthread numWorkers) state actions =
        .ok (last, events) ∧
      Sound numWorkers last (history ++ events) :=
  run_of_total (Sound numWorkers)
    (fun _ _ action hsound => hsound.step hkthread action) hsound actions

theorem sound_of_run (hkthread : kthread.Documented)
    (hpositive : 0 < numWorkers) {actions : List Action}
    (hrun : run (unloading kthread numWorkers) (Unload.start numWorkers)
      actions = .ok (state, history)) : Sound numWorkers state history := by
  obtain ⟨_, _, hsame, hsound⟩ :=
    (sound_start hpositive).exists_run hkthread actions
  rw [hrun, Except.ok.injEq, Prod.mk.injEq] at hsame
  obtain ⟨rfl, rfl⟩ := hsame
  exact hsound

/-- At the end of the exit function what is left are the works that no thread
has taken. -/
theorem Sound.left_over (hsound : Sound numWorkers state history)
    (hended : state.remaining = some []) (object : Object) :
    state.live object = true ↔ ∃ i w, object = .work w ∧ w ∈ state.lists i := by
  obtain ⟨done, hpassed⟩ := hsound.passed
  have hdone : done = exitStatements numWorkers := by
    have hsplit := hpassed.split
    rw [hended] at hsplit
    exact (hsplit.trans (List.append_nil done)).symm
  have hcarried : ∀ i, state.carried i = state.lists i := by
    intro i
    by_cases hi : i < numWorkers
    · have hexited := hpassed.joined i (hdone ▸ mem_exitStatements.mpr
        (decide_eq_true hi))
      rw [Unload.carried, hexited]
      rfl
    · have hnone : state.carried i = [] :=
        List.eq_nil_iff_forall_not_mem.mpr fun w hmem =>
          hi (hsound.known i w hmem).1
      exact hnone.trans (List.append_eq_nil_iff.mp hnone).2.symm
  constructor
  · intro hlive
    by_cases hwork : ∃ w, object = .work w
    · obtain ⟨w, rfl⟩ := hwork
      obtain ⟨i, hmem⟩ := (hsound.works w).mp hlive
      exact ⟨i, w, rfl, hcarried i ▸ hmem⟩
    · have hobject := hpassed.foreign object (not_exists.mp hwork) hlive
      refine absurd ?_ ((hpassed.structural object hobject).mp hlive)
      rw [hdone, mem_exitStatements]
      cases object with
      | work w => exact absurd ⟨w, rfl⟩ hwork
      | _ => exact hobject
  · rintro ⟨i, w, rfl, hmem⟩
    exact (hsound.works w).mpr ⟨i, (hcarried i).symm ▸ hmem⟩

end Steps

/-! ## Coming to the end -/

/-- The steps a thread takes until it has ended, if it is to stop. -/
def Stage.stepsLeft : Stage → ℕ
  | .started _ => 6
  | .waiting _ => 5
  | .judging _ => 4
  | .marking _ => 3
  | .freeing _ => 2
  | .idle => 1
  | .exited => 0

section Completion

variable {kthread : KthreadApi}
variable {numWorkers : ℕ} {state next : Unload} {history events : List Event}
variable {rest : List ExitStatement}

/-- A step of a thread moves no other thread, and brings it closer to its end if
it is to stop. -/
theorem runThread_eq_ok (hkthread : kthread.Documented) {i : ℕ}
    (hrun : state.runThread kthread i = .ok (next, events)) :
    ∃ stage, next.stage = update state.stage i stage ∧
      next.stopping = state.stopping ∧ next.remaining = state.remaining ∧
      (state.stopping i = true →
        stage.stepsLeft = (state.stage i).stepsLeft - 1) := by
  -- the steps inside `wait_response` look at something and go on
  have hmoved {objects : List Object} {stage : Stage}
      (hless : stage.stepsLeft = (state.stage i).stepsLeft - 1)
      (hstep : (state.use objects).bind (fun _ =>
        .ok (state.goto i stage, [])) = .ok (next, events)) :
      ∃ stage, next.stage = update state.stage i stage ∧
        next.stopping = state.stopping ∧ next.remaining = state.remaining ∧
        (state.stopping i = true →
          stage.stepsLeft = (state.stage i).stepsLeft - 1) := by
    obtain ⟨_, -, hstep⟩ := bind_eq_ok.mp hstep
    cases hstep
    exact ⟨stage, rfl, rfl, rfl, fun _ => hless⟩
  rw [Unload.runThread] at hrun
  split at hrun
  · next hstage =>
    obtain ⟨_, -, hrun⟩ := bind_eq_ok.mp hrun
    split at hrun
    · cases hrun
      exact ⟨.exited, rfl, rfl, rfl, fun _ => by rw [hstage]; rfl⟩
    · next hturn =>
      cases hrun
      refine ⟨state.stage i, (update_eq_self i _).symm, rfl, rfl, ?_⟩
      intro hstopping
      rw [hstopping, hkthread.ends] at hturn
      cases hturn
    · next hturn =>
      obtain ⟨_, -, hrun⟩ := bind_eq_ok.mp hrun
      cases hrun
      refine ⟨_, rfl, rfl, rfl, ?_⟩
      intro hstopping
      rw [hstopping, hkthread.ends] at hturn
      cases hturn
  · next hstage => exact hmoved (by rw [hstage]; rfl) hrun
  · next hstage => exact hmoved (by rw [hstage]; rfl) hrun
  · next hstage => exact hmoved (by rw [hstage]; rfl) hrun
  · next hstage => exact hmoved (by rw [hstage]; rfl) hrun
  · next hstage =>
    obtain ⟨freed, hfree, hrun⟩ := bind_eq_ok.mp hrun
    obtain ⟨_, -, hfree⟩ := bind_eq_ok.mp hfree
    cases hfree
    cases hrun
    exact ⟨_, rfl, rfl, rfl, fun _ => by rw [hstage]; rfl⟩
  · next hstage =>
    cases hrun
    exact ⟨state.stage i, (update_eq_self i _).symm, rfl, rfl,
      fun _ => by rw [hstage]; rfl⟩

theorem exited_of_stepsLeft {stage : Stage} (hsteps : stage.stepsLeft = 0) :
    stage = .exited := by
  cases stage with
  | exited => rfl
  | _ => cases hsteps

theorem Stage.stepsLeft_le (stage : Stage) : stage.stepsLeft ≤ 6 := by
  cases stage <;> simp [Stage.stepsLeft]

/-- No statement of the exit function moves a thread, or takes back that one is
to stop. -/
theorem runStatement_eq_ok {statement : ExitStatement}
    (hrun : state.runStatement kthread statement rest = .ok next) :
    next.stage = state.stage ∧
      ∀ i, state.stopping i = true → next.stopping i = true := by
  obtain ⟨_, -, hrun⟩ := bind_eq_ok.mp hrun
  cases statement with
  | stop j =>
      cases hrun
      refine ⟨rfl, fun i hstopping => ?_⟩
      by_cases hsame : i = j
      · rw [hsame]
        exact update_self _ _ _
      · exact (update_of_ne hsame _ _).trans hstopping
  | join j =>
      dsimp only at hrun
      split at hrun
      · obtain ⟨_, -, hrun⟩ := bind_eq_ok.mp hrun
        cases hrun
        exact ⟨rfl, fun _ hstopping => hstopping⟩
      · cases hrun
        exact ⟨rfl, fun _ hstopping => hstopping⟩
  | release object =>
      obtain ⟨_, -, hrun⟩ := bind_eq_ok.mp hrun
      cases hrun
      exact ⟨rfl, fun _ hstopping => hstopping⟩

/-- Only its own steps bring a thread that is to stop closer to its end, and
nothing takes it back. -/
theorem stepsLeft_step (hkthread : kthread.Documented) {i : ℕ}
    (hi : i < numWorkers) (hstopping : state.stopping i = true)
    {action : Action}
    (hstep : unloading kthread numWorkers state action = .ok (next, events)) :
    next.stopping i = true ∧ (next.stage i).stepsLeft =
      (state.stage i).stepsLeft - [action].count (.runThread i) := by
  cases action with
  | addWork slot =>
      rw [unloading] at hstep
      split at hstep
      · obtain ⟨_, -, hstep⟩ := bind_eq_ok.mp hstep
        cases hstep
        exact ⟨hstopping, rfl⟩
      · cases hstep
        exact ⟨hstopping, rfl⟩
  | runThread j =>
      rw [unloading] at hstep
      split at hstep
      · obtain ⟨stage, hstage, hstill, -, hless⟩ :=
          runThread_eq_ok hkthread hstep
        rw [hstill, hstage]
        refine ⟨hstopping, ?_⟩
        by_cases hsame : j = i
        · subst hsame
          rw [update_self, List.count_singleton_self]
          exact hless hstopping
        · have hother : Action.runThread j ≠ .runThread i := fun heq =>
            hsame (Action.runThread.inj heq)
          rw [update_of_ne (Ne.symm hsame), List.count_cons_of_ne hother]
          rfl
      · next hout =>
        cases hstep
        have hother : Action.runThread j ≠ .runThread i := by
          intro heq
          exact hout (Action.runThread.inj heq ▸ hi)
        rw [List.count_cons_of_ne hother]
        exact ⟨hstopping, rfl⟩
  | unload =>
      rw [unloading] at hstep
      split at hstep <;> cases hstep <;> exact ⟨hstopping, rfl⟩
  | exit =>
      rw [unloading] at hstep
      split at hstep
      · obtain ⟨_, hstatement, hstep⟩ := bind_eq_ok.mp hstep
        cases hstep
        obtain ⟨hstage, hstill⟩ := runStatement_eq_ok hstatement
        rw [hstage]
        exact ⟨hstill i hstopping, rfl⟩
      · cases hstep
        exact ⟨hstopping, rfl⟩

theorem stepsLeft_run (hkthread : kthread.Documented) {i : ℕ}
    (hi : i < numWorkers) {actions : List Action}
    (hstopping : state.stopping i = true)
    (hrun : run (unloading kthread numWorkers) state actions =
      .ok (next, events)) :
    (next.stage i).stepsLeft =
      (state.stage i).stepsLeft - actions.count (.runThread i) := by
  induction actions generalizing state events with
  | nil =>
      cases hrun
      rfl
  | cons action actions ih =>
      obtain ⟨middle, first, later, hstep, hrest, -⟩ := run_cons_eq_ok.mp hrun
      obtain ⟨hstill, hless⟩ := stepsLeft_step hkthread hi hstopping hstep
      rw [ih hstill hrest, hless, Nat.sub_sub, ← List.count_append]
      rfl

/-- Left to itself, a thread that is to stop ends. -/
theorem Sound.exists_exited (hsound : Sound numWorkers state history)
    (hkthread : kthread.Documented) {i : ℕ} (hi : i < numWorkers)
    (hstopping : state.stopping i = true) :
    ∃ count last events, run (unloading kthread numWorkers) state
        (List.replicate count (.runThread i)) = .ok (last, events) ∧
      Sound numWorkers last (history ++ events) ∧
      last.stage i = .exited ∧ last.remaining = state.remaining := by
  generalize hsteps : (state.stage i).stepsLeft = steps
  induction steps generalizing state history with
  | zero =>
      exact ⟨0, state, [], rfl, by rwa [List.append_nil],
        exited_of_stepsLeft hsteps, rfl⟩
  | succ steps ih =>
      obtain ⟨next, first, hthread, hnext⟩ := hsound.runThread hkthread hi
      obtain ⟨stage, hstage, hstill, hsame, hless⟩ :=
        runThread_eq_ok hkthread hthread
      have hnextSteps : (next.stage i).stepsLeft = steps := by
        rw [hstage, update_self, hless hstopping, hsteps]
        rfl
      obtain ⟨count, last, later, hrun, hlast, hexited, hremaining⟩ :=
        ih hnext (by rw [hstill, hstopping]) hnextSteps
      refine ⟨count + 1, last, first ++ later, ?_, ?_, hexited,
        hremaining.trans hsame⟩
      · exact run_cons_eq_ok.mpr ⟨next, first, later,
          (if_pos hi).trans hthread, hrun, rfl⟩
      · rwa [← List.append_assoc]

/-- A statement is over unless it waits for a thread. -/
theorem remaining_runStatement (hkthread : kthread.Documented)
    {statement : ExitStatement}
    (hready : ∀ i, statement = .join i → state.stage i = .exited)
    (hrun : state.runStatement kthread statement rest = .ok next) :
    next.remaining = some rest := by
  obtain ⟨_, -, hrun⟩ := bind_eq_ok.mp hrun
  cases statement with
  | stop i =>
      cases hrun
      rfl
  | join i =>
      dsimp only at hrun
      rw [if_pos ((hkthread.joins _).mpr (hready i rfl))] at hrun
      obtain ⟨_, -, hrun⟩ := bind_eq_ok.mp hrun
      cases hrun
      rfl
  | release object =>
      obtain ⟨_, -, hrun⟩ := bind_eq_ok.mp hrun
      cases hrun
      rfl

/-- The thread that the next statement waits for has been asked to stop. -/
theorem Sound.stopping_of_join (hsound : Sound numWorkers state history)
    {i : ℕ} (hremaining : state.remaining = some (.join i :: rest)) :
    i < numWorkers ∧ state.stopping i = true := by
  obtain ⟨done, hpassed⟩ := hsound.passed
  have hsplit := hpassed.split
  rw [hremaining] at hsplit
  have hjoin : ExitStatement.join i ∈ exitStatements numWorkers := by
    rw [hsplit]
    exact List.mem_append_right _ List.mem_cons_self
  have hi : i < numWorkers :=
    of_decide_eq_true (mem_exitStatements.mp hjoin)
  have hstop : ExitStatement.stop i ∈ done ++ .join i :: rest := by
    rw [← hsplit, mem_exitStatements]
    exact decide_eq_true hi
  refine ⟨hi, hpassed.stopped i ?_⟩
  have hsorted := sorted_exitStatements numWorkers
  rw [hsplit] at hsorted
  rcases List.mem_append.mp hstop with hdone | hlater
  · exact hdone
  · rcases List.mem_cons.mp hlater with hsame | hlater
    · cases hsame
    · have hlt := List.rel_of_pairwise_cons
        (List.pairwise_append.mp hsorted).2.1 hlater
      simp only [ExitStatement.rank] at hlt
      omega

/-- One more statement of the exit function can be brought to its end. -/
theorem Sound.exists_executed (hsound : Sound numWorkers state history)
    (hkthread : kthread.Documented) {statement : ExitStatement}
    (hremaining : state.remaining = some (statement :: rest)) :
    ∃ actions last events, run (unloading kthread numWorkers) state actions =
        .ok (last, events) ∧
      Sound numWorkers last (history ++ events) ∧
      last.remaining = some rest := by
  have hready : ∃ actions middle events,
      run (unloading kthread numWorkers) state actions = .ok (middle, events) ∧
        Sound numWorkers middle (history ++ events) ∧
        middle.remaining = some (statement :: rest) ∧
        ∀ i, statement = .join i → middle.stage i = .exited := by
    by_cases hjoin : ∃ i, statement = .join i
    · obtain ⟨i, rfl⟩ := hjoin
      obtain ⟨hi, hstopping⟩ := hsound.stopping_of_join hremaining
      obtain ⟨count, middle, events, hrun, hmiddle, hexited, hsame⟩ :=
        hsound.exists_exited hkthread hi hstopping
      exact ⟨_, middle, events, hrun, hmiddle, hsame.trans hremaining,
        fun j heq => ExitStatement.join.inj heq ▸ hexited⟩
    · exact ⟨[], state, [], rfl, by rwa [List.append_nil], hremaining,
        fun i heq => absurd ⟨i, heq⟩ hjoin⟩
  obtain ⟨actions, middle, events, hrun, hmiddle, hnext, hexited⟩ := hready
  obtain ⟨last, hstatement, hlast⟩ := hmiddle.runStatement hkthread hnext
  refine ⟨actions ++ [.exit], last, events ++ [], ?_, ?_,
    remaining_runStatement hkthread hexited hstatement⟩
  · refine run_concat_eq_ok.mpr ⟨middle, events, [], hrun, ?_, rfl⟩
    simp only [unloading, hnext, hstatement, bind, Except.bind, pure,
      Except.pure]
  · rwa [List.append_nil]

theorem Sound.exists_ended (hsound : Sound numWorkers state history)
    (hkthread : kthread.Documented) (hremaining : state.remaining = some rest) :
    ∃ actions last events, run (unloading kthread numWorkers) state actions =
        .ok (last, events) ∧ last.remaining = some [] := by
  induction rest generalizing state history with
  | nil => exact ⟨[], state, [], rfl, hremaining⟩
  | cons statement rest ih =>
      obtain ⟨actions, middle, events, hrun, hmiddle, hnext⟩ :=
        hsound.exists_executed hkthread hremaining
      obtain ⟨more, last, later, hmore, hended⟩ := ih hmiddle hnext
      exact ⟨actions ++ more, last, events ++ later,
        run_append_eq_ok.mpr ⟨middle, events, later, hrun, hmore, rfl⟩, hended⟩

end Completion

/-! ## The exit function -/

/-- A work is finished before the exit function is called. -/
def finishedRun : List Action :=
  .addWork 0 :: List.replicate 6 (.runThread 0) ++ [.unload]

theorem exists_finishedRun : ∃ state history,
    run (unloading workerThreads 10) (Unload.start 10) finishedRun =
        .ok (state, history) ∧
      finishedOf history = [0] ∧
      state.remaining = some (exitStatements 10) := by
  have hobserved : observeRun (unloading workerThreads 10)
      (fun state history => (finishedOf history, state.remaining))
      (Unload.start 10) finishedRun =
        some ([0], some (exitStatements 10)) := by
    decide +kernel
  obtain ⟨state, history, hrun, hview⟩ := run_of_observeRun hobserved
  obtain ⟨hfinished, hremaining⟩ := Prod.mk.inj hview
  exact ⟨state, history, hrun, hfinished, hremaining⟩

/-- Two threads have begun with their works, a third work is queued, and the
first thread is asked to stop. -/
def stoppingRun : List Action :=
  [.addWork 0, .addWork 1, .addWork 2, .runThread 0, .runThread 1,
    .runThread 0, .unload, .exit]

theorem exists_stoppingRun : ∃ state history,
    run (unloading workerThreads 10) (Unload.start 10) stoppingRun =
        .ok (state, history) ∧
      state.stage 0 = .waiting 0 ∧ state.stage 1 = .started 1 ∧
      state.stopping 0 = true := by
  have hobserved : observeRun (unloading workerThreads 10)
      (fun state _ => (state.stage 0, state.stage 1, state.stopping 0))
      (Unload.start 10) stoppingRun =
        some (.waiting 0, .started 1, true) := by
    decide +kernel
  obtain ⟨state, history, hrun, hview⟩ := run_of_observeRun hobserved
  obtain ⟨hfirst, hview⟩ := Prod.mk.inj hview
  obtain ⟨hsecond, hstopping⟩ := Prod.mk.inj hview
  exact ⟨state, history, hrun, hfirst, hsecond, hstopping⟩

/-- However the threads of the pool and the exit function are interleaved,
neither reads nor frees what is gone, and no work is freed twice.  When the
exit function has ended, everything else has been freed, and the works that no
thread has taken have not. -/
theorem unloading_releases {kthread : KthreadApi}
    (hkthread : kthread.Documented) {numWorkers : ℕ}
    (hpositive : 0 < numWorkers) (actions : List Action) :
    ∃ state history,
      run (unloading kthread numWorkers) (Unload.start numWorkers) actions =
        .ok (state, history) ∧
      (finishedOf history).Nodup ∧
      (state.remaining = some [] → ∀ object, state.live object = true ↔
        ∃ i w, object = .work w ∧ w ∈ state.lists i) := by
  obtain ⟨state, history, hrun, hsound⟩ :=
    (sound_start hpositive).exists_run hkthread actions
  exact ⟨state, history, hrun, hsound.finished_nodup, hsound.left_over⟩

/-- Ten workers: a work is finished, the exit function is called, and thread and
function go on until the latter has ended. -/
theorem unloading_releases_sample : ∃ actions state history,
    run (unloading workerThreads 10) (Unload.start 10) actions =
        .ok (state, history) ∧
      0 ∈ finishedOf history ∧ (finishedOf history).Nodup ∧
      state.remaining = some [] ∧
      ∀ object, state.live object = true ↔
        ∃ i w, object = .work w ∧ w ∈ state.lists i := by
  obtain ⟨middle, first, hfirst, hfinished, hremaining⟩ :=
    exists_finishedRun
  have hsound := sound_of_run documented_workerThreads (by decide) hfirst
  obtain ⟨more, last, later, hmore, hended⟩ := hsound.exists_ended
    documented_workerThreads hremaining
  have hrun := run_append_eq_ok.mpr
    ⟨middle, first, later, hfirst, hmore, rfl⟩
  obtain ⟨state, history, hwhole, hnodup, hleft⟩ := unloading_releases
    documented_workerThreads (show 0 < 10 by decide) (finishedRun ++ more)
  rw [hrun, Except.ok.injEq, Prod.mk.injEq] at hwhole
  obtain ⟨rfl, rfl⟩ := hwhole
  refine ⟨_, last, first ++ later, hrun, ?_, hnodup, hended, hleft hended⟩
  rw [finishedOf_append, hfinished]
  exact List.mem_append_left _ List.mem_cons_self

/-- The exit function is never stuck: whatever has been queued and begun, and
wherever it stands, the threads can let it come to its end.  And whatever else
happens, a thread that has been asked to stop has ended after six steps of its
own. -/
theorem unloading_completes {kthread : KthreadApi}
    (hkthread : kthread.Documented) {numWorkers : ℕ}
    (hpositive : 0 < numWorkers) {actions : List Action} {state : Unload}
    {history : List Event}
    (hrun : run (unloading kthread numWorkers) (Unload.start numWorkers)
      actions = .ok (state, history)) :
    (∃ more last events, run (unloading kthread numWorkers) state more =
      .ok (last, events) ∧ last.remaining = some []) ∧
    ∀ i < numWorkers, state.stopping i = true →
      ∀ more last events, run (unloading kthread numWorkers) state more =
        .ok (last, events) → 6 ≤ more.count (.runThread i) →
          last.stage i = .exited := by
  have hsound := sound_of_run hkthread hpositive hrun
  constructor
  · cases hremaining : state.remaining with
    | some rest => exact hsound.exists_ended hkthread hremaining
    | none =>
        obtain ⟨more, last, events, hmore, hended⟩ :=
          (hsound.unload hremaining).exists_ended hkthread rfl
        refine ⟨.unload :: more, last, events, ?_, hended⟩
        refine run_cons_eq_ok.mpr ⟨_, [], events, ?_, hmore, rfl⟩
        simp only [unloading, hremaining]
  · intro i hi hstopping more last events hmore hcount
    apply exited_of_stepsLeft
    rw [stepsLeft_run hkthread hi hstopping hmore]
    exact Nat.sub_eq_zero_of_le ((Stage.stepsLeft_le _).trans hcount)

/-- Two works have begun and a third is queued when the first thread is asked to
stop.  The exit function can come to its end, and the first thread has ended
after six of its steps, though the other one runs in between. -/
theorem unloading_completes_sample : ∃ state history,
    run (unloading workerThreads 10) (Unload.start 10) stoppingRun =
        .ok (state, history) ∧
      state.stage 0 = .waiting 0 ∧ state.stage 1 = .started 1 ∧
      (∃ more last events, run (unloading workerThreads 10) state more =
        .ok (last, events) ∧ last.remaining = some []) ∧
      ∃ last events, run (unloading workerThreads 10) state
          ((List.replicate 6 [Action.runThread 1, .runThread 0]).flatten) =
        .ok (last, events) ∧ last.stage 0 = .exited := by
  obtain ⟨state, history, hrun, hfirst, hsecond, hstopping⟩ :=
    exists_stoppingRun
  obtain ⟨hends, hexits⟩ :=
    unloading_completes documented_workerThreads (show 0 < 10 by decide) hrun
  have hsound := sound_of_run documented_workerThreads (by decide) hrun
  obtain ⟨last, events, hmore, -⟩ := hsound.exists_run documented_workerThreads
    ((List.replicate 6 [Action.runThread 1, .runThread 0]).flatten)
  exact ⟨state, history, hrun, hfirst, hsecond, hends, last, events, hmore,
    hexits 0 (by decide) hstopping _ last events hmore (by decide)⟩

end PaxosPersistence.Unloading
