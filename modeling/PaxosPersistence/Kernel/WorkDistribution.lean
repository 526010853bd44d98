import PaxosPersistence.Core.FifoQueue
import PaxosPersistence.Core.Machine
import PaxosPersistence.Core.RoundRobin
import PaxosPersistence.Kernel.PaxosTypes
import PaxosPersistence.Kernel.PoolConstruction

/-!
# Handing the works to the workers

`add_work` queues a work on the worker `current_worker` points to and moves
`current_worker` on to the next one, after the last to the first.  The lists of
the workers belong to the kernel: `queue_kthread_work` appends to one of them,
and the thread of the worker takes from its front.  Whatever the threads do in
between, the works go to the workers in turn.
-/

namespace PaxosPersistence.WorkDistribution

open PaxosPersistence.FifoQueue
open PaxosPersistence.Machine
open PaxosPersistence.Memory
open PaxosPersistence.PaxosTypes
open PaxosPersistence.PoolConstruction
open PaxosPersistence.RoundRobin

/-! ## The kernel's side -/

/-- The works are numbered in the order in which they are created. -/
structure KthreadApi (Kthreads : Type) where
  /-- After `init_kthread_worker` on every worker. -/
  initial : Kthreads
  workList : Kthreads → PoolObject → List ℕ
  /-- Returns whether the work was queued. -/
  queueKthreadWork : Kthreads → PoolObject → ℕ → Kthreads × Bool
  /-- What `kthread_worker_fn` does before it runs a work. -/
  takeWork : Kthreads → PoolObject → Option (ℕ × Kthreads)

/-- A work that is in no list goes to the end of the list of its worker, one
that is in a list stays where it is, and a worker takes the first work. -/
structure KthreadApi.Documented {Kthreads : Type}
    (kthread : KthreadApi Kthreads) : Prop where
  workList_initial : ∀ worker, kthread.workList kthread.initial worker = []
  queue_new : ∀ kthreads worker work,
    (∀ other, work ∉ kthread.workList kthreads other) →
    ∃ next, kthread.queueKthreadWork kthreads worker work = (next, true) ∧
      kthread.workList next = Function.update (kthread.workList kthreads)
        worker (kthread.workList kthreads worker ++ [work])
  queue_pending : ∀ kthreads worker work other,
    work ∈ kthread.workList kthreads other →
    kthread.queueKthreadWork kthreads worker work = (kthreads, false)
  take_nil : ∀ kthreads worker, kthread.workList kthreads worker = [] →
    kthread.takeWork kthreads worker = none
  take_cons : ∀ kthreads worker work rest,
    kthread.workList kthreads worker = work :: rest →
    ∃ next, kthread.takeWork kthreads worker = some (work, next) ∧
      kthread.workList next =
        Function.update (kthread.workList kthreads) worker rest

/-- The lists of all workers as one, with the worker of each work. -/
def linkedWorks : KthreadApi (List (PoolObject × ℕ)) where
  initial := []
  workList kthreads worker := givenTo worker kthreads
  queueKthreadWork kthreads worker work :=
    if work ∈ kthreads.map Prod.snd then (kthreads, false)
    else (kthreads ++ [(worker, work)], true)
  takeWork kthreads worker :=
    match givenTo worker kthreads with
    | [] => none
    | work :: _ => some (work, kthreads.erase (worker, work))

theorem documented_linkedWorks : linkedWorks.Documented where
  workList_initial _ := rfl
  queue_new kthreads worker work hnew := by
    have hnotMem : work ∉ kthreads.map Prod.snd := by
      intro hmem
      obtain ⟨⟨holder, held⟩, hheld, rfl⟩ := List.mem_map.mp hmem
      exact hnew holder (mem_givenTo.mpr hheld)
    refine ⟨kthreads ++ [(worker, work)], if_neg hnotMem, ?_⟩
    funext other
    by_cases hother : other = worker
    · subst hother
      simp [linkedWorks, givenTo]
    · simp [linkedWorks, givenTo, hother, Ne.symm hother]
  queue_pending kthreads worker work other hmem :=
    if_pos (List.mem_map.mpr ⟨(other, work), mem_givenTo.mp hmem, rfl⟩)
  take_nil kthreads worker hnil := by
    change givenTo worker kthreads = [] at hnil
    simp only [linkedWorks, hnil]
  take_cons kthreads worker work rest hcons := by
    change givenTo worker kthreads = work :: rest at hcons
    refine ⟨kthreads.erase (worker, work), ?_, ?_⟩
    · simp only [linkedWorks, hcons]
    · funext other
      by_cases hother : other = worker
      · subst hother
        rw [Function.update_self]
        exact givenTo_erase_self hcons
      · rw [Function.update_of_ne hother]
        exact givenTo_erase_of_ne (Ne.symm hother) kthreads

/-! ## Adding works -/

def loadCurrentWorker (heap : Heap) (pool : Pointer) : Except Halt ℕ := do
  discard (heap.deref pool)
  checked heap.currentWorker

def storeCurrentWorker (heap : Heap) (pool : Pointer) (currentWorker : ℕ) :
    Except Halt Heap := do
  discard (heap.deref pool)
  return { heap with currentWorker := some currentWorker }

/-- `(current_worker + 1) % num_workers`, where C defines it. -/
def nextWorker (currentWorker numWorkers : ℕ) : Option ℕ :=
  if currentWorker + 1 < 2 ^ 31 ∧ numWorkers ≠ 0 then
    some ((currentWorker + 1) % numWorkers)
  else none

inductive PoolEvent where
  | queued (worker : PoolObject) (work : ℕ)
  | taken (worker : PoolObject) (work : ℕ)
  deriving DecidableEq

section Distribution

variable {Kthreads : Type} (kthread : KthreadApi Kthreads)

def addWork (pool : Pointer) (heap : Heap) (kthreads : Kthreads) (work : ℕ) :
    Except Halt (Heap × Kthreads × List PoolEvent) :=
  if pool = .null then .ok (heap, kthreads, [])
  else do
    let workers ← heap.load pool .worker
    let current ← loadCurrentWorker heap pool
    let worker ← heap.load workers (.index current)
    if worker = .null then
      return (heap, kthreads, [])
    else do
      let target ← heap.deref worker
      let added := kthread.queueKthreadWork kthreads target work
      let numWorkers ← heap.loadNumWorkers pool
      let next ← checked (nextWorker current numWorkers)
      let heap ← storeCurrentWorker heap pool next
      return (heap, added.1, if added.2 then [.queued target work] else [])

/-- The next work to be created gets the number `created`. -/
structure Distribution (Kthreads : Type) where
  heap : Heap
  kthreads : Kthreads
  created : ℕ

/-- The pool as `create_pool` has left it. -/
def Distribution.start (heap : Heap) : Distribution Kthreads where
  heap := heap
  kthreads := kthread.initial
  created := 0

inductive PoolAction where
  /-- `add_work` with a work from `createPersistenceWork`, as in
  `read_test_write`. -/
  | addWork
  /-- The thread of a worker takes up a work, if there is one. -/
  | takeWork (i : ℕ)
  deriving DecidableEq

def distribution (pool : Pointer) :
    Step (Distribution Kthreads) PoolAction PoolEvent Halt
  | state, .addWork => do
      let (heap, kthreads, events) ←
        addWork kthread pool state.heap state.kthreads state.created
      return ({ heap, kthreads, created := state.created + 1 }, events)
  | state, .takeWork i =>
      match kthread.takeWork state.kthreads (.worker i) with
      | some (work, kthreads) =>
          .ok ({ state with kthreads }, [.taken (.worker i) work])
      | none => .ok (state, [])

end Distribution

/-! ## Histories of a pool -/

/-- The works that were queued, each with its worker. -/
def queuedWorks (history : List PoolEvent) : List (PoolObject × ℕ) :=
  history.filterMap fun
    | .queued worker work => some (worker, work)
    | .taken _ _ => none

/-- What has been done to the list of one worker. -/
def workHistory (worker : PoolObject) (history : List PoolEvent) :
    List (QueueEvent ℕ) :=
  history.filterMap fun
    | .queued other work => if other = worker then some (.push work) else none
    | .taken other work => if other = worker then some (.pop work) else none

def received (worker : PoolObject) (history : List PoolEvent) : List ℕ :=
  pushed (workHistory worker history)

def taken (worker : PoolObject) (history : List PoolEvent) : List ℕ :=
  popped (workHistory worker history)

theorem received_eq_givenTo (worker : PoolObject) (history : List PoolEvent) :
    received worker history = givenTo worker (queuedWorks history) := by
  rw [received, pushed, workHistory, givenTo, queuedWorks,
    List.filterMap_filterMap, List.filterMap_filterMap]
  apply congrArg (List.filterMap · history)
  funext event
  cases event with
  | queued other work => by_cases hworker : other = worker <;> simp [hworker]
  | taken other work => by_cases hworker : other = worker <;> simp [hworker]

theorem clear_notMem_workHistory (worker : PoolObject)
    (history : List PoolEvent) : .clear ∉ workHistory worker history := by
  intro hmem
  obtain ⟨event, -, hclear⟩ := List.mem_filterMap.mp hmem
  cases event with
  | queued other work => by_cases hworker : other = worker <;>
      simp [hworker] at hclear
  | taken other work => by_cases hworker : other = worker <;>
      simp [hworker] at hclear

/-- The next event of a history appends to the list of its worker, or takes
from it. -/
theorem replay_concat {worker : PoolObject} {history : List PoolEvent}
    {list : List ℕ} (hreplay : replay [] (workHistory worker history) = some list)
    (event : PoolEvent) :
    replay [] (workHistory worker (history ++ [event])) =
      replay list (workHistory worker [event]) := by
  rw [workHistory, List.filterMap_append]
  exact (replay_append _ _ _).trans (congrArg (Option.bind · _) hreplay)

/-! ## The works go round -/

/-- What `add_work` relies on. -/
structure Serving (numWorkers : ℕ) (heap : Heap) : Prop where
  numWorkers_eq : heap.numWorkers = some numWorkers
  workers : Stocked workerEntries (List.range numWorkers) heap

section Run

variable {Kthreads : Type} {kthread : KthreadApi Kthreads} {numWorkers : ℕ}
  {heap : Heap} {state : Distribution Kthreads} {history : List PoolEvent}

theorem nextWorker_eq {current : ℕ} (hcurrent : current < numWorkers)
    (hbound : numWorkers < 2 ^ 31) :
    nextWorker current numWorkers = some ((current + 1) % numWorkers) :=
  if_pos ⟨Nat.lt_of_le_of_lt hcurrent hbound, Nat.ne_zero_of_lt hcurrent⟩

/-- With `current_worker` in range nothing `add_work` does is undefined. -/
theorem addWork_eq (hserving : Serving numWorkers heap) {current : ℕ}
    (hcurrent : heap.currentWorker = some current) (hlt : current < numWorkers)
    (hbound : numWorkers < 2 ^ 31) {kthreads next : Kthreads} {work : ℕ}
    (hqueue : kthread.queueKthreadWork kthreads (.worker current) work =
      (next, true)) :
    addWork kthread (.object .pool) heap kthreads work =
      .ok ({ heap with currentWorker := some ((current + 1) % numWorkers) },
        next, [.queued (.worker current) work]) := by
  have hmem : current ∈ List.range numWorkers := List.mem_range.mpr hlt
  have hpool : heap.deref (.object .pool) = .ok .pool :=
    deref_of_holds hserving.workers.pool_held
  have hworkers : heap.load (.object .pool) .worker =
      .ok (.object .workerArray) :=
    load_of_holds hserving.workers.pool_held hserving.workers.field_eq
  have hload : loadCurrentWorker heap (.object .pool) = .ok current := by
    rw [loadCurrentWorker, hpool, hcurrent]
    rfl
  have hworker : heap.load (.object .workerArray) (.index current) =
      .ok (.object (.worker current)) :=
    load_of_holds hserving.workers.array_held
      (hserving.workers.entry_eq current hmem)
  have htarget : heap.deref (.object (.worker current)) =
      .ok (.worker current) :=
    deref_of_holds (hserving.workers.element_held current hmem)
  have hcount : heap.loadNumWorkers (.object .pool) = .ok numWorkers :=
    loadNumWorkers_of_holds hserving.workers.pool_held hserving.numWorkers_eq
  rw [addWork, if_neg (by simp), hworkers]
  dsimp only [bind, Except.bind]
  rw [hload]
  dsimp only
  rw [hworker]
  dsimp only
  rw [if_neg (by simp), htarget]
  dsimp only
  rw [hqueue, hcount]
  dsimp only
  rw [nextWorker_eq hlt hbound, checked_some]
  dsimp only
  rw [storeCurrentWorker, hpool]
  rfl

/-- `current_worker` points to the worker whose turn it is, and the lists hold
what their histories leave in them. -/
structure Tracks (kthread : KthreadApi Kthreads) (numWorkers : ℕ)
    (state : Distribution Kthreads) (history : List PoolEvent) : Prop where
  serving : Serving numWorkers state.heap
  currentWorker_eq :
    state.heap.currentWorker = some (state.created % numWorkers)
  queued_eq : queuedWorks history = deal .worker numWorkers state.created
  replay_eq : ∀ worker, replay [] (workHistory worker history) =
    some (kthread.workList state.kthreads worker)

theorem Tracks.taken_append (htracks : Tracks kthread numWorkers state history)
    (worker : PoolObject) :
    taken worker history ++ kthread.workList state.kthreads worker =
      received worker history :=
  popped_append_of_replay (clear_notMem_workHistory worker history)
    (htracks.replay_eq worker)

/-- A work that is about to be created is in no list. -/
theorem Tracks.created_notMem
    (htracks : Tracks kthread numWorkers state history)
    (worker : PoolObject) :
    state.created ∉ kthread.workList state.kthreads worker := by
  intro hmem
  have hreceived : state.created ∈ received worker history := by
    rw [← htracks.taken_append worker]
    exact List.mem_append_right _ hmem
  rw [received_eq_givenTo, htracks.queued_eq] at hreceived
  exact Nat.lt_irrefl _ (lt_of_mem_givenTo_deal hreceived)

theorem Tracks.addWork (htracks : Tracks kthread numWorkers state history)
    (hkthread : kthread.Documented) (hpositive : 0 < numWorkers)
    (hbound : numWorkers < 2 ^ 31) :
    ∃ next events,
      distribution kthread (.object .pool) state .addWork =
        .ok (next, events) ∧
      Tracks kthread numWorkers next (history ++ events) := by
  obtain ⟨next, hqueue, hlist⟩ := hkthread.queue_new state.kthreads
    (.worker (state.created % numWorkers)) state.created
    htracks.created_notMem
  have hadd := addWork_eq htracks.serving htracks.currentWorker_eq
    (Nat.mod_lt _ hpositive) hbound hqueue
  let turned : Heap := { state.heap with
    currentWorker := some ((state.created % numWorkers + 1) % numWorkers) }
  refine ⟨⟨turned, next, state.created + 1⟩,
    [.queued (.worker (state.created % numWorkers)) state.created], ?_, ?_⟩
  · rw [distribution, hadd]
    rfl
  · exact
      { serving := ⟨htracks.serving.numWorkers_eq,
          { htracks.serving.workers with }⟩
        currentWorker_eq := congrArg some (Nat.mod_add_mod _ _ _)
        queued_eq := by
          rw [deal_succ, ← htracks.queued_eq]
          exact List.filterMap_append
        replay_eq := by
          intro worker
          rw [replay_concat (htracks.replay_eq worker), hlist]
          by_cases hworker :
              PoolObject.worker (state.created % numWorkers) = worker
          · subst hworker
            simp [workHistory]
          · simp [workHistory, hworker, Ne.symm hworker] }

theorem Tracks.takeWork (htracks : Tracks kthread numWorkers state history)
    (hkthread : kthread.Documented) (pool : Pointer) (i : ℕ) :
    ∃ next events,
      distribution kthread pool state (.takeWork i) = .ok (next, events) ∧
      Tracks kthread numWorkers next (history ++ events) := by
  cases hlist : kthread.workList state.kthreads (.worker i) with
  | nil =>
      refine ⟨state, [], ?_, by rwa [List.append_nil]⟩
      rw [distribution, hkthread.take_nil _ _ hlist]
  | cons work rest =>
      obtain ⟨next, htake, hnext⟩ := hkthread.take_cons _ _ _ _ hlist
      refine ⟨{ state with kthreads := next }, [.taken (.worker i) work],
        ?_, ?_⟩
      · rw [distribution, htake]
      · exact
          { serving := htracks.serving
            currentWorker_eq := htracks.currentWorker_eq
            queued_eq := by
              rw [queuedWorks, List.filterMap_append, ← htracks.queued_eq]
              exact List.append_nil _
            replay_eq := by
              intro worker
              rw [replay_concat (htracks.replay_eq worker), hnext]
              by_cases hworker : PoolObject.worker i = worker
              · subst hworker
                simp [workHistory, hlist]
              · simp [workHistory, hworker, Ne.symm hworker] }

/-- A pool that `create_pool` returns is complete and begins with the first
worker. -/
theorem tracks_createPool (hkthread : kthread.Documented) {grants : Grants}
    {pool : Pointer} (hcreate : createPool numWorkers grants = .ok (heap, pool))
    (hbuilt : pool ≠ .null) :
    pool = .object .pool ∧
      Tracks kthread numWorkers (.start kthread heap) [] := by
  rcases allGranted_of_createPool hcreate with hrefused | hgranted
  · rw [createPool_refused hrefused] at hcreate
    cases hcreate
    exact absurd rfl hbuilt
  · obtain ⟨built, hsame, hcomplete, hcurrent, -⟩ := exists_createPool hgranted
    rw [hsame] at hcreate
    cases hcreate
    exact ⟨rfl,
      { serving := ⟨hcomplete.numWorkers_eq, hcomplete.workers⟩
        currentWorker_eq :=
          hcurrent.trans (congrArg some (Nat.zero_mod _).symm)
        queued_eq := rfl
        replay_eq := fun worker =>
          congrArg some (hkthread.workList_initial worker).symm }⟩

/-- Nothing stops the pool, and it goes on tracking its history. -/
theorem exists_run (hkthread : kthread.Documented)
    (hpositive : 0 < numWorkers) (hbound : numWorkers < 2 ^ 31)
    (hstart : Tracks kthread numWorkers state history)
    (actions : List PoolAction) :
    ∃ last events,
      run (distribution kthread (.object .pool)) state actions =
        .ok (last, events) ∧
      Tracks kthread numWorkers last (history ++ events) := by
  apply run_of_total (Tracks kthread numWorkers) ?_ hstart actions
  intro state history action htracks
  cases action with
  | addWork => exact htracks.addWork hkthread hpositive hbound
  | takeWork i => exact htracks.takeWork hkthread _ i

theorem created_of_step {pool : Pointer} {action : PoolAction}
    {next : Distribution Kthreads} {events : List PoolEvent}
    (hstep : distribution kthread pool state action = .ok (next, events)) :
    next.created = state.created + [action].count .addWork := by
  cases action with
  | addWork =>
      obtain ⟨⟨heap, kthreads, added⟩, -, hreturned⟩ := bind_eq_ok.mp hstep
      cases hreturned
      rfl
  | takeWork i =>
      rw [distribution] at hstep
      split at hstep
      · cases hstep
        rfl
      · cases hstep
        rfl

/-- The works are created by the calls of `add_work`. -/
theorem created_of_run {pool : Pointer} {actions : List PoolAction}
    {last : Distribution Kthreads} {events : List PoolEvent}
    (hrun : run (distribution kthread pool) state actions =
      .ok (last, events)) :
    last.created = state.created + actions.count .addWork := by
  induction actions generalizing state events with
  | nil =>
      obtain ⟨rfl, -⟩ := run_nil_eq_ok.mp hrun
      rfl
  | cons action actions ih =>
      obtain ⟨next, first, later, hstep, hrest, -⟩ := run_cons_eq_ok.mp hrun
      calc last.created
          = next.created + actions.count .addWork := ih hrest
        _ = state.created + [action].count .addWork +
            actions.count .addWork := by rw [created_of_step hstep]
        _ = state.created + (action :: actions).count .addWork := by
            rw [Nat.add_assoc, ← List.count_append, List.singleton_append]

/-- `current_worker` is set and is the index of a worker. -/
def PointsToWorker (numWorkers : ℕ) (state : Distribution Kthreads) : Prop :=
  ∃ current < numWorkers, state.heap.currentWorker = some current

/-- `calls` works have gone to the workers in turn: work `k` to worker
`k % numWorkers` and to no other.  A worker has received the works of its turn
in the order of the calls; it has taken the first of them, and has the others
in its list. -/
structure DealtInTurn (kthread : KthreadApi Kthreads) (numWorkers calls : ℕ)
    (state : Distribution Kthreads) (history : List PoolEvent) : Prop where
  queued_eq : queuedWorks history = deal .worker numWorkers calls
  received_eq : ∀ i < numWorkers,
    received (.worker i) history = dealt numWorkers i calls
  taken_append : ∀ i < numWorkers,
    taken (.worker i) history ++ kthread.workList state.kthreads (.worker i) =
      received (.worker i) history
  fair : ∀ i < numWorkers, ∀ j < numWorkers,
    (received (.worker i) history).length ≤
      (received (.worker j) history).length + 1

theorem Tracks.dealtInTurn
    (htracks : Tracks kthread numWorkers state history) :
    DealtInTurn kthread numWorkers state.created state history := by
  have hreceived : ∀ i, received (.worker i) history =
      dealt numWorkers i state.created := by
    intro i
    rw [received_eq_givenTo, htracks.queued_eq]
    exact givenTo_deal (fun _ _ => PoolObject.worker.inj) _ _ _
  exact
    { queued_eq := htracks.queued_eq
      received_eq := fun i _ => hreceived i
      taken_append := fun i _ => htracks.taken_append _
      fair := by
        intro i hi j hj
        rw [hreceived, hreceived]
        exact length_dealt_le hi hj _ }

/-- A pool that `create_pool` returns deals the works in turn, however its
threads take them up.  `current_worker` never leaves the pool, so that no call
of `add_work` reads or computes anything undefined. -/
theorem dealtInTurn_of_createPool (hkthread : kthread.Documented)
    (numWorkers : Word32) (hpositive : 0 < numWorkers.toInt) {grants : Grants}
    {pool : Pointer}
    (hcreate : createPool numWorkers.toInt.toNat grants = .ok (heap, pool))
    (hbuilt : pool ≠ .null) (actions : List PoolAction) :
    Throughout (distribution kthread pool)
        (PointsToWorker numWorkers.toInt.toNat) (.start kthread heap) actions ∧
      ∃ last history,
        run (distribution kthread pool) (.start kthread heap) actions =
          .ok (last, history) ∧
        DealtInTurn kthread numWorkers.toInt.toNat (actions.count .addWork)
          last history := by
  have hworkers : 0 < numWorkers.toInt.toNat := by omega
  have hbound : numWorkers.toInt.toNat < 2 ^ 31 := by
    have hrange := @BitVec.toInt_lt 32 numWorkers
    omega
  obtain ⟨rfl, hstart⟩ := tracks_createPool hkthread hcreate hbuilt
  constructor
  · intro before after state events _ hrun
    obtain ⟨same, history, hsame, htracks⟩ :=
      exists_run hkthread hworkers hbound hstart before
    rw [hsame] at hrun
    cases hrun
    exact ⟨_, Nat.mod_lt _ hworkers, htracks.currentWorker_eq⟩
  · obtain ⟨last, history, hrun, htracks⟩ :=
      exists_run hkthread hworkers hbound hstart actions
    have hcalls : last.created = actions.count .addWork :=
      (created_of_run hrun).trans (Nat.zero_add _)
    exact ⟨last, history, hrun, hcalls ▸ htracks.dealtInTurn⟩

/-- Two workers and three works, the first of which is taken up before the
third comes. -/
theorem dealtInTurn_two_workers :
    ∃ heap last history,
      createPool 2 (fun _ => true) = .ok (heap, .object .pool) ∧
      run (distribution linkedWorks (.object .pool)) (.start linkedWorks heap)
        [.addWork, .addWork, .takeWork 0, .addWork] = .ok (last, history) ∧
      DealtInTurn linkedWorks 2 3 last history := by
  obtain ⟨heap, hcreate, -, -⟩ := @exists_createPool (fun _ => true) 2
    ⟨rfl, rfl, fun _ _ => rfl, rfl, fun _ _ => rfl⟩
  obtain ⟨-, last, history, hrun, hdealt⟩ :=
    dealtInTurn_of_createPool documented_linkedWorks 2 (by decide) hcreate
      (by simp) [.addWork, .addWork, .takeWork 0, .addWork]
  exact ⟨heap, last, history, hcreate, hrun, hdealt⟩

end Run

end PaxosPersistence.WorkDistribution
