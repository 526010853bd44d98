import PaxosPersistence.Core.ResourceLedger
import PaxosPersistence.Kernel.Memory

/-!
# Building and freeing the pool of workers

`create_pool` obtains a pool, an array of workers, the workers, an array of
threads and the threads.  Each of these can fail, and the clean-up is
`free_pool`, which tells from NULL tests on the fields what there is to free.
Memory from `vmalloc` is not cleared, and `kthread_run` reports a failure by an
error pointer, so those tests look at fields nobody has written and take an
error pointer for a thread; a failure in `init_workers_threads` frees the pool
in two places.  The construction therefore unwinds only when nothing but the
pool itself could not be obtained.
-/

namespace PaxosPersistence.PoolConstruction

open PaxosPersistence.Memory
open PaxosPersistence.ResourceLedger

/-! ## The objects of a pool -/

inductive PoolObject where
  | pool
  | workerArray
  | worker (i : ℕ)
  | threadArray
  | thread (i : ℕ)
  deriving DecidableEq

inductive Pointer where
  | null
  | object (target : PoolObject)
  | error
  deriving DecidableEq

/-- Where an object holds a pointer. -/
inductive Offset where
  | worker
  | workerThread
  | index (i : ℕ)
  deriving DecidableEq

/-- The objects and their contents; what has not been written since its
allocation has no value. -/
structure Heap where
  ledger : Ledger PoolObject
  currentWorker : Option ℕ
  numWorkers : Option ℕ
  cell : PoolObject → Offset → Option Pointer

namespace Heap

def initial : Heap where
  ledger := .empty PoolObject
  currentWorker := none
  numWorkers := none
  cell := fun _ _ => none

/-- The live object behind a pointer. -/
def deref (heap : Heap) : Pointer → Except Halt PoolObject
  | .object object => do
      checked (heap.ledger.use object)
      return object
  | _ => .error .memory

def load (heap : Heap) (pointer : Pointer) (offset : Offset) :
    Except Halt Pointer := do
  let object ← heap.deref pointer
  checked (heap.cell object offset)

def loadNumWorkers (heap : Heap) (pool : Pointer) : Except Halt ℕ := do
  discard (heap.deref pool)
  checked heap.numWorkers

def store (heap : Heap) (pointer : Pointer) (offset : Offset)
    (value : Pointer) : Except Halt Heap := do
  let object ← heap.deref pointer
  return { heap with
    cell := Function.update heap.cell object
      (Function.update (heap.cell object) offset (some value)) }

def storeCounts (heap : Heap) (pool : Pointer) (numWorkers : ℕ) :
    Except Halt Heap := do
  discard (heap.deref pool)
  return { heap with currentWorker := some 0, numWorkers := some numWorkers }

/-- An attempt to obtain an object, and what it returns instead of one. -/
def attempt (heap : Heap) (object : PoolObject) (failure : Pointer)
    (granted : Bool) : Except Halt (Heap × Pointer) :=
  if granted then do
    let ledger ← checked (heap.ledger.acquire object)
    return ({ heap with ledger := ledger }, .object object)
  else .ok (heap, failure)

def release (heap : Heap) (object : PoolObject) : Except Halt Heap := do
  let ledger ← checked (heap.ledger.release object)
  return { heap with ledger := ledger }

def vfree (heap : Heap) : Pointer → Except Halt Heap
  | .null => .ok heap
  | .object object => heap.release object
  | .error => .error .memory

def kthreadStop (heap : Heap) : Pointer → Except Halt Heap
  | .object object => heap.release object
  | _ => .error .memory

end Heap

/-! ## Construction and clean-up -/

/-- What tells the array of workers from the array of threads. -/
structure Entries where
  field : Offset
  array : PoolObject
  element : ℕ → PoolObject
  failure : Pointer
  before : Heap → Pointer → ℕ → Except Halt Unit
  after : Heap → Pointer → Except Halt Unit
  dispose : Heap → Pointer → Except Halt Heap

/-- A worker comes from `vmalloc`, goes through `init_kthread_worker`, and is
given back by `vfree`. -/
def workerEntries : Entries where
  field := .worker
  array := .workerArray
  element := .worker
  failure := .null
  before := fun _ _ _ => .ok ()
  after := fun heap worker => discard (heap.deref worker)
  dispose := Heap.vfree

/-- A thread comes from `kthread_run`, to which the worker is passed, and ends
with `kthread_stop`. -/
def threadEntries : Entries where
  field := .workerThread
  array := .threadArray
  element := .thread
  failure := .error
  before := fun heap pool i => do
    let worker ← heap.load pool .worker
    discard (heap.load worker (.index i))
  after := fun _ _ => .ok ()
  dispose := Heap.kthreadStop

/-- Which attempts to obtain an object succeed. -/
abbrev Grants := PoolObject → Bool

/-- The loop over the entries of an array, up to the first failure. -/
def fill (entries : Entries) (grants : Grants) (pool : Pointer) :
    Heap → List ℕ → Except Halt (Heap × Bool)
  | heap, [] => .ok (heap, true)
  | heap, i :: rest => do
      entries.before heap pool i
      let (heap, element) ← heap.attempt (entries.element i) entries.failure
        (grants (entries.element i))
      let array ← heap.load pool entries.field
      let heap ← heap.store array (.index i) element
      if element = entries.failure then
        return (heap, false)
      else do
        entries.after heap element
        fill entries grants pool heap rest

/-- The array and its entries; the code is that of `init_workers` and
`init_workers_threads`. -/
def initEntries (entries : Entries) (grants : Grants) (heap : Heap)
    (pool : Pointer) : Except Halt (Heap × ℕ) := do
  let numWorkers ← heap.loadNumWorkers pool
  let (heap, array) ← heap.attempt entries.array .null (grants entries.array)
  let heap ← heap.store pool entries.field array
  if array = .null then
    return (heap, 1)
  else do
    let (heap, complete) ← fill entries grants pool heap
      (List.range numWorkers)
    return (heap, if complete then 0 else 2)

/-- The loop that disposes of every entry that is not NULL. -/
def freeElements (entries : Entries) (pool : Pointer) :
    Heap → List ℕ → Except Halt Heap
  | heap, [] => .ok heap
  | heap, i :: rest => do
      let array ← heap.load pool entries.field
      let element ← heap.load array (.index i)
      if element = .null then
        freeElements entries pool heap rest
      else do
        let heap ← entries.dispose heap element
        freeElements entries pool heap rest

def freeEntries (entries : Entries) (heap : Heap) (pool : Pointer) :
    Except Halt Heap := do
  let array ← heap.load pool entries.field
  if array = .null then
    return heap
  else do
    let numWorkers ← heap.loadNumWorkers pool
    let heap ← freeElements entries pool heap (List.range numWorkers)
    heap.vfree array

def freeWorkersThreads : Heap → Pointer → Except Halt Heap :=
  freeEntries threadEntries

def freeWorkers : Heap → Pointer → Except Halt Heap :=
  freeEntries workerEntries

def freePool (heap : Heap) (pool : Pointer) : Except Halt Heap :=
  if pool = .null then .ok heap
  else do
    let heap ← freeWorkersThreads heap pool
    let heap ← freeWorkers heap pool
    heap.vfree pool

def initWorkers (grants : Grants) (heap : Heap) (pool : Pointer) :
    Except Halt (Heap × ℕ) :=
  initEntries workerEntries grants heap pool

/-- The only one that frees the pool itself when it fails. -/
def initWorkersThreads (grants : Grants) (heap : Heap) (pool : Pointer) :
    Except Halt (Heap × ℕ) := do
  let (heap, code) ← initEntries threadEntries grants heap pool
  if code = 0 then
    return (heap, 0)
  else do
    let heap ← freePool heap pool
    return (heap, code)

def poolErrorExit (heap : Heap) (pool : Pointer) :
    Except Halt (Heap × Pointer) := do
  let heap ← freePool heap pool
  return (heap, .null)

def createPool (numWorkers : ℕ) (grants : Grants) :
    Except Halt (Heap × Pointer) := do
  let (heap, pool) ← Heap.initial.attempt .pool .null (grants .pool)
  if pool = .null then
    poolErrorExit heap pool
  else do
    let heap ← heap.storeCounts pool numWorkers
    let (heap, error) ← initWorkers grants heap pool
    if error ≠ 0 then
      poolErrorExit heap pool
    else do
      let (heap, error) ← initWorkersThreads grants heap pool
      if error ≠ 0 then
        poolErrorExit heap pool
      else
        return (heap, pool)

/-! ## Unwinding -/

/-- Everything a pool needs can be obtained. -/
structure AllGranted (numWorkers : ℕ) (grants : Grants) : Prop where
  pool : grants .pool = true
  workerArray : grants .workerArray = true
  worker : ∀ i < numWorkers, grants (.worker i) = true
  threadArray : grants .threadArray = true
  thread : ∀ i < numWorkers, grants (.thread i) = true

/-- The pool is built and `free_pool` gives back every part of it once, or NULL
is returned and what had been obtained has been given back once.  Neither
touches what is unset or gone. -/
def Unwinds (numWorkers : ℕ) (grants : Grants) : Prop :=
  ∃ heap pointer, createPool numWorkers grants = .ok (heap, pointer) ∧
    (AllGranted numWorkers grants → pointer = .object .pool ∧
      ∃ last, freePool heap pointer = .ok last ∧ last.ledger.Balanced ∧
        ∀ i < numWorkers, last.ledger.released.count (.thread i) = 1 ∧
          last.ledger.released.count (.worker i) = 1) ∧
    (¬ AllGranted numWorkers grants →
      pointer = .null ∧ heap.ledger.Balanced)

/-- The second thread cannot be started: its error pointer is handed to
`kthread_stop`. -/
theorem not_unwinds_thread_failure :
    ¬ Unwinds 2 fun object => decide (object ≠ .thread 1) := by
  rintro ⟨heap, pointer, hcreate, -⟩
  have hhalt : createPool 2 (fun object => decide (object ≠ .thread 1)) =
      .error .memory := rfl
  rw [hhalt] at hcreate
  cases hcreate

/-! ## What a failure leaves behind -/

variable {entries : Entries} {grants : Grants} {pool : Pointer}
  {heap next : Heap} {numWorkers code : ℕ}

theorem worker_ne_index (i : ℕ) : Offset.worker ≠ .index i :=
  Offset.noConfusion

theorem workerThread_ne_index (i : ℕ) : Offset.workerThread ≠ .index i :=
  Offset.noConfusion

/-- Two heaps that agree on the count and on a field of every object. -/
structure KeepsField (offset : Offset) (heap next : Heap) : Prop where
  numWorkers_eq : next.numWorkers = heap.numWorkers
  cell_eq : ∀ object, next.cell object offset = heap.cell object offset

theorem KeepsField.refl (offset : Offset) (heap : Heap) :
    KeepsField offset heap heap :=
  ⟨rfl, fun _ => rfl⟩

theorem KeepsField.trans {offset : Offset} {heap middle next : Heap}
    (hfirst : KeepsField offset heap middle)
    (hsecond : KeepsField offset middle next) : KeepsField offset heap next where
  numWorkers_eq := hsecond.numWorkers_eq.trans hfirst.numWorkers_eq
  cell_eq object := (hsecond.cell_eq object).trans (hfirst.cell_eq object)

theorem keepsField_attempt {offset : Offset} {object : PoolObject}
    {failure pointer : Pointer} {granted : Bool}
    (hattempt : heap.attempt object failure granted = .ok (next, pointer)) :
    KeepsField offset heap next := by
  cases granted with
  | false =>
      cases hattempt
      exact KeepsField.refl offset _
  | true =>
      obtain ⟨ledger, -, hreturned⟩ := bind_eq_ok.mp hattempt
      cases hreturned
      exact ⟨rfl, fun _ => rfl⟩

theorem keepsField_store {offset other : Offset} {pointer value : Pointer}
    (hne : offset ≠ other)
    (hstore : heap.store pointer other value = .ok next) :
    KeepsField offset heap next := by
  obtain ⟨object, -, hreturned⟩ := bind_eq_ok.mp hstore
  cases hreturned
  refine ⟨rfl, fun holder => ?_⟩
  by_cases hholder : holder = object
  · subst hholder
    simp [hne]
  · simp [hholder]

/-- An attempt returns the object or what stands for a failure. -/
theorem pointer_of_attempt {object : PoolObject} {failure pointer : Pointer}
    {granted : Bool}
    (hattempt : heap.attempt object failure granted = .ok (next, pointer)) :
    pointer = if granted then .object object else failure := by
  cases granted with
  | false =>
      cases hattempt
      rfl
  | true =>
      obtain ⟨ledger, -, hreturned⟩ := bind_eq_ok.mp hattempt
      cases hreturned
      rfl

/-- A relation between a heap and a later one that neither an attempt nor a
write to `field` or to an entry breaks. -/
structure Framed (field : Offset) (Kept : Heap → Heap → Prop) : Prop where
  refl : ∀ heap, Kept heap heap
  trans : ∀ {heap middle next}, Kept heap middle → Kept middle next →
    Kept heap next
  attempt : ∀ {heap next : Heap} {object : PoolObject}
    {failure pointer : Pointer} {granted : Bool},
    heap.attempt object failure granted = .ok (next, pointer) →
      Kept heap next
  store : ∀ {heap next : Heap} {offset : Offset} {pointer value : Pointer},
    (offset = field ∨ ∃ i, offset = .index i) →
      heap.store pointer offset value = .ok next → Kept heap next

theorem framed_keepsField {offset field : Offset}
    (hindex : ∀ i, offset ≠ .index i) (hfield : offset ≠ field) :
    Framed field (KeepsField offset) where
  refl := KeepsField.refl offset
  trans := KeepsField.trans
  attempt := keepsField_attempt
  store := by
    rintro heap next other pointer value (rfl | ⟨i, rfl⟩) hstore
    · exact keepsField_store hfield hstore
    · exact keepsField_store (hindex i) hstore

/-- Two heaps with the same counts. -/
structure KeepsCounts (heap next : Heap) : Prop where
  currentWorker_eq : next.currentWorker = heap.currentWorker
  numWorkers_eq : next.numWorkers = heap.numWorkers

/-- The counts are written by `create_pool` itself. -/
theorem framed_keepsCounts (field : Offset) : Framed field KeepsCounts where
  refl _ := ⟨rfl, rfl⟩
  trans hfirst hsecond :=
    ⟨hsecond.currentWorker_eq.trans hfirst.currentWorker_eq,
      hsecond.numWorkers_eq.trans hfirst.numWorkers_eq⟩
  attempt := by
    intro heap next object failure pointer granted hattempt
    cases granted with
    | false =>
        cases hattempt
        exact ⟨rfl, rfl⟩
    | true =>
        obtain ⟨ledger, -, hreturned⟩ := bind_eq_ok.mp hattempt
        cases hreturned
        exact ⟨rfl, rfl⟩
  store := by
    intro heap next offset pointer value _ hstore
    obtain ⟨object, -, hreturned⟩ := bind_eq_ok.mp hstore
    cases hreturned
    exact ⟨rfl, rfl⟩

section Framed

variable {Kept : Heap → Heap → Prop}

theorem fill_eq_ok (hframed : Framed entries.field Kept)
    {indices : List ℕ} {complete : Bool}
    (hfill : fill entries grants pool heap indices = .ok (next, complete)) :
    Kept heap next ∧
      (complete = true →
        ∀ i ∈ indices, grants (entries.element i) = true) := by
  induction indices generalizing heap with
  | nil =>
      cases hfill
      exact ⟨hframed.refl _, fun _ i hmem => absurd hmem List.not_mem_nil⟩
  | cons i rest ih =>
      obtain ⟨-, -, hattempted⟩ := bind_eq_ok.mp hfill
      obtain ⟨⟨obtained, element⟩, hattempt, hloaded⟩ :=
        bind_eq_ok.mp hattempted
      obtain ⟨array, -, hstored⟩ := bind_eq_ok.mp hloaded
      obtain ⟨stored, hstore, hrest⟩ := bind_eq_ok.mp hstored
      have hkept : Kept heap stored :=
        hframed.trans (hframed.attempt hattempt)
          (hframed.store (Or.inr ⟨i, rfl⟩) hstore)
      have helement := pointer_of_attempt hattempt
      split at hrest
      · cases hrest
        exact ⟨hkept, fun hcomplete => absurd hcomplete (by decide)⟩
      · rename_i hne
        obtain ⟨-, -, hcontinued⟩ := bind_eq_ok.mp hrest
        obtain ⟨hkeptRest, hgranted⟩ := ih hcontinued
        refine ⟨hframed.trans hkept hkeptRest, fun hcomplete j hmem => ?_⟩
        rcases List.mem_cons.mp hmem with rfl | hmem
        · by_contra hdenied
          exact hne (helement.trans (if_neg hdenied))
        · exact hgranted hcomplete j hmem

/-- Both `init` functions write to their own field only, and return 0 only
when they obtained everything. -/
theorem initEntries_eq_ok (hframed : Framed entries.field Kept)
    (hcount : heap.numWorkers = some numWorkers)
    (hinit : initEntries entries grants heap pool = .ok (next, code)) :
    Kept heap next ∧
      (code = 0 → grants entries.array = true ∧
        ∀ i < numWorkers, grants (entries.element i) = true) := by
  obtain ⟨count, hload, hattempted⟩ := bind_eq_ok.mp hinit
  obtain ⟨-, -, hnumWorkers⟩ := bind_eq_ok.mp hload
  rw [hcount] at hnumWorkers
  cases hnumWorkers
  obtain ⟨⟨obtained, array⟩, hattempt, hstored⟩ := bind_eq_ok.mp hattempted
  obtain ⟨stored, hstore, hrest⟩ := bind_eq_ok.mp hstored
  have hkept : Kept heap stored :=
    hframed.trans (hframed.attempt hattempt)
      (hframed.store (Or.inl rfl) hstore)
  have harray := pointer_of_attempt hattempt
  split at hrest
  · cases hrest
    exact ⟨hkept, fun hcode => absurd hcode (by decide)⟩
  · rename_i hne
    obtain ⟨⟨filled, complete⟩, hfill, hreturned⟩ := bind_eq_ok.mp hrest
    obtain ⟨hkeptFill, hgranted⟩ := fill_eq_ok hframed hfill
    cases hreturned
    refine ⟨hframed.trans hkept hkeptFill, fun hcode => ⟨?_, fun i hi => ?_⟩⟩
    · by_contra hdenied
      exact hne (harray.trans (if_neg hdenied))
    · have hcomplete : complete = true := by
        by_contra hstopped
        rw [if_neg hstopped] at hcode
        cases hcode
      exact hgranted hcomplete i (List.mem_range.mpr hi)

end Framed

/-- `free_pool` looks at the array of threads before anything else. -/
theorem freePool_of_load (hne : pool ≠ .null)
    (hload : heap.load pool .workerThread = .error .memory) :
    freePool heap pool = .error .memory := by
  have hthreads : freeWorkersThreads heap pool = .error .memory := by
    rw [freeWorkersThreads, freeEntries, threadEntries, hload]
    rfl
  rw [freePool, if_neg hne, hthreads]
  rfl

/-- Nobody has set the array of threads. -/
theorem freePool_of_unset {object : PoolObject}
    (hunset : heap.cell object .workerThread = none) :
    freePool heap (.object object) = .error .memory := by
  apply freePool_of_load (by simp)
  by_cases hheld : heap.ledger.Holds object
  · simp [Heap.load, Heap.deref, Ledger.use_eq_some hheld, hunset, bind,
      Except.bind, pure, Except.pure]
  · simp [Heap.load, Heap.deref, Ledger.use_eq_none hheld, bind, Except.bind]

/-- A second `free_pool` of the same pool. -/
theorem freePool_freePool {object : PoolObject}
    (hfree : freePool heap (.object object) = .ok next) :
    freePool next (.object object) = .error .memory := by
  rw [freePool, if_neg (by simp)] at hfree
  obtain ⟨threadless, -, hfree⟩ := bind_eq_ok.mp hfree
  obtain ⟨workerless, -, hvfree⟩ := bind_eq_ok.mp hfree
  obtain ⟨ledger, hrelease, hreturned⟩ := bind_eq_ok.mp hvfree
  cases hreturned
  have hgone : ¬ ledger.Holds object :=
    Ledger.not_holds_of_release (checked_eq_ok.mp hrelease)
  apply freePool_of_load (by simp)
  simp [Heap.load, Heap.deref, Ledger.use_eq_none hgone, bind, Except.bind]

/-- Where `create_pool` comes to an end, the pool itself was refused or
everything was granted. -/
theorem allGranted_of_createPool {result : Heap × Pointer}
    (hcreate : createPool numWorkers grants = .ok result) :
    grants .pool = false ∨ AllGranted numWorkers grants := by
  cases hpool : grants .pool with
  | false => exact Or.inl rfl
  | true =>
      right
      obtain ⟨⟨allocated, pointer⟩, hattempt, hcreate⟩ :=
        bind_eq_ok.mp hcreate
      have hpointer := pointer_of_attempt hattempt
      rw [hpool, if_pos rfl] at hpointer
      subst hpointer
      have hunset : ∀ object, allocated.cell object .workerThread = none :=
        (keepsField_attempt hattempt).cell_eq
      dsimp only at hcreate
      rw [if_neg (by simp)] at hcreate
      obtain ⟨counted, hstore, hcreate⟩ := bind_eq_ok.mp hcreate
      obtain ⟨-, -, hreturned⟩ := bind_eq_ok.mp hstore
      cases hreturned
      obtain ⟨⟨withWorkers, error⟩, hworkers, hcreate⟩ :=
        bind_eq_ok.mp hcreate
      obtain ⟨hkept, hworkersGranted⟩ := initEntries_eq_ok
        (framed_keepsField workerThread_ne_index (by simp [workerEntries]))
        rfl hworkers
      -- a failure here makes the clean-up read the array of threads, unset
      have herror : error = 0 := by
        by_contra hfailed
        rw [if_pos hfailed] at hcreate
        obtain ⟨freed, hfree, -⟩ := bind_eq_ok.mp hcreate
        rw [freePool_of_unset ((hkept.cell_eq _).trans (hunset _))] at hfree
        cases hfree
      rw [if_neg (not_not.mpr herror)] at hcreate
      obtain ⟨⟨withThreads, threadError⟩, hthreads, hcreate⟩ :=
        bind_eq_ok.mp hcreate
      obtain ⟨⟨threaded, threadCode⟩, hinit, hthreads⟩ :=
        bind_eq_ok.mp hthreads
      obtain ⟨-, hthreadsGranted⟩ := initEntries_eq_ok
        (framed_keepsCounts _) hkept.numWorkers_eq hinit
      -- and one here frees the pool, which the caller does again
      have hthreadCode : threadCode = 0 := by
        by_contra hfailed
        dsimp only at hthreads
        rw [if_neg hfailed] at hthreads
        obtain ⟨freed, hfree, hreturned⟩ := bind_eq_ok.mp hthreads
        cases hreturned
        rw [if_pos hfailed] at hcreate
        obtain ⟨freedAgain, hagain, -⟩ := bind_eq_ok.mp hcreate
        rw [freePool_freePool hfree] at hagain
        cases hagain
      obtain ⟨hworkerArray, hworker⟩ := hworkersGranted herror
      obtain ⟨hthreadArray, hthread⟩ := hthreadsGranted hthreadCode
      exact ⟨hpool, hworkerArray, hworker, hthreadArray, hthread⟩

/-! ## Objects that are held -/

theorem deref_of_holds {object : PoolObject}
    (hheld : heap.ledger.Holds object) :
    heap.deref (.object object) = .ok object := by
  rw [Heap.deref, Ledger.use_eq_some hheld]
  rfl

theorem load_of_holds {object : PoolObject} {offset : Offset}
    {value : Pointer} (hheld : heap.ledger.Holds object)
    (hcell : heap.cell object offset = some value) :
    heap.load (.object object) offset = .ok value := by
  rw [Heap.load, deref_of_holds hheld]
  exact congrArg checked hcell

theorem loadNumWorkers_of_holds {object : PoolObject}
    (hheld : heap.ledger.Holds object)
    (hcount : heap.numWorkers = some numWorkers) :
    heap.loadNumWorkers (.object object) = .ok numWorkers := by
  rw [Heap.loadNumWorkers, deref_of_holds hheld]
  exact congrArg checked hcount

theorem storeCounts_of_holds {object : PoolObject}
    (hheld : heap.ledger.Holds object) (numWorkers : ℕ) :
    heap.storeCounts (.object object) numWorkers =
      .ok { heap with
        currentWorker := some 0, numWorkers := some numWorkers } := by
  rw [Heap.storeCounts, deref_of_holds hheld]
  rfl

/-- The heap with an object more. -/
def Heap.enter (heap : Heap) (object : PoolObject)
    (hfresh : object ∉ heap.ledger.acquired) : Heap :=
  { heap with ledger := heap.ledger.enter object hfresh }

def Heap.write (heap : Heap) (object : PoolObject) (offset : Offset)
    (value : Pointer) : Heap :=
  { heap with
    cell := Function.update heap.cell object
      (Function.update (heap.cell object) offset (some value)) }

theorem attempt_granted {object : PoolObject} (failure : Pointer)
    (hfresh : object ∉ heap.ledger.acquired) :
    heap.attempt object failure true =
      .ok (heap.enter object hfresh, .object object) := by
  rw [Heap.attempt, if_pos rfl, Ledger.acquire_eq_some hfresh]
  rfl

theorem store_of_holds {object : PoolObject} (hheld : heap.ledger.Holds object)
    (offset : Offset) (value : Pointer) :
    heap.store (.object object) offset value =
      .ok (heap.write object offset value) := by
  rw [Heap.store, deref_of_holds hheld]
  rfl

theorem Heap.write_cell_self (heap : Heap) (object : PoolObject)
    (offset : Offset) (value : Pointer) :
    (heap.write object offset value).cell object offset = some value := by
  simp [Heap.write]

theorem Heap.write_cell_of_ne {object other : PoolObject}
    {offset otherOffset : Offset} (value : Pointer)
    (hne : other ≠ object ∨ otherOffset ≠ offset) :
    (heap.write object offset value).cell other otherOffset =
      heap.cell other otherOffset := by
  rcases hne with hother | hoffset
  · simp [Heap.write, hother]
  · by_cases hother : other = object
    · subst hother
      simp [Heap.write, hoffset]
    · simp [Heap.write, hother]

theorem holds_enter_self {object : PoolObject}
    (hfresh : object ∉ heap.ledger.acquired) :
    (heap.enter object hfresh).ledger.Holds object :=
  ⟨List.mem_append_right _ List.mem_cons_self,
    fun hmem => hfresh (heap.ledger.released_subset hmem)⟩

/-- `next` has `objects` in addition to what `heap` has, and the cells outside
`array` as they are there. -/
structure Extends (array : PoolObject) (objects : List PoolObject)
    (heap next : Heap) : Prop where
  numWorkers_eq : next.numWorkers = heap.numWorkers
  acquired_eq : next.ledger.acquired = heap.ledger.acquired ++ objects
  released_eq : next.ledger.released = heap.ledger.released
  cell_eq : ∀ object ≠ array, ∀ offset,
    next.cell object offset = heap.cell object offset

section Extends

variable {array object : PoolObject} {objects later : List PoolObject}
  {middle : Heap}

theorem Extends.trans (hfirst : Extends array objects heap middle)
    (hsecond : Extends array later middle next) :
    Extends array (objects ++ later) heap next where
  numWorkers_eq := hsecond.numWorkers_eq.trans hfirst.numWorkers_eq
  acquired_eq := by
    rw [hsecond.acquired_eq, hfirst.acquired_eq, List.append_assoc]
  released_eq := hsecond.released_eq.trans hfirst.released_eq
  cell_eq other hne offset :=
    (hsecond.cell_eq other hne offset).trans (hfirst.cell_eq other hne offset)

theorem Extends.holds (hextends : Extends array objects heap next)
    (hheld : heap.ledger.Holds object) : next.ledger.Holds object := by
  rw [Ledger.Holds, hextends.acquired_eq, hextends.released_eq]
  exact ⟨List.mem_append_left _ hheld.1, hheld.2⟩

theorem extends_entered (hfresh : object ∉ heap.ledger.acquired)
    (offset : Offset) (value : Pointer) :
    Extends array [object] heap
      ((heap.enter object hfresh).write array offset value) where
  numWorkers_eq := rfl
  acquired_eq := rfl
  released_eq := rfl
  cell_eq _ hne _ := Heap.write_cell_of_ne value (Or.inl hne)

end Extends

/-! ## Two arrays that can be built -/

/-- What the loops rely on.  `Prior` is what an entry needs of the rest of the
pool. -/
structure Lawful (entries : Entries) (Prior : Heap → ℕ → Prop) : Prop where
  array_ne : entries.array ≠ .pool
  element_ne_pool : ∀ i, entries.element i ≠ .pool
  element_ne_array : ∀ i, entries.element i ≠ entries.array
  element_injective : Function.Injective entries.element
  field_ne : ∀ i, entries.field ≠ .index i
  failure_ne : ∀ object, entries.failure ≠ .object object
  before_eq : ∀ heap i, heap.ledger.Holds .pool → Prior heap i →
    entries.before heap (.object .pool) i = .ok ()
  after_eq : ∀ heap object, heap.ledger.Holds object →
    entries.after heap (.object object) = .ok ()
  dispose_eq : ∀ heap object,
    entries.dispose heap (.object object) = heap.release object
  prior_of_extends : ∀ heap next objects i,
    Extends entries.array objects heap next → Prior heap i → Prior next i

theorem lawful_workerEntries : Lawful workerEntries fun _ _ => True where
  array_ne := by simp [workerEntries]
  element_ne_pool i := by simp [workerEntries]
  element_ne_array i := by simp [workerEntries]
  element_injective _ _ hequal := PoolObject.worker.inj hequal
  field_ne := worker_ne_index
  failure_ne object := by simp [workerEntries]
  before_eq _ _ _ _ := rfl
  after_eq heap object hheld := by
    change discard (heap.deref (.object object)) = .ok ()
    rw [deref_of_holds hheld]
    rfl
  dispose_eq _ _ := rfl
  prior_of_extends _ _ _ _ _ hprior := hprior

/-- A thread needs its worker. -/
structure HasWorker (heap : Heap) (i : ℕ) : Prop where
  field_eq : heap.cell .pool .worker = some (.object .workerArray)
  array_held : heap.ledger.Holds .workerArray
  entry_eq : heap.cell .workerArray (.index i) = some (.object (.worker i))

theorem lawful_threadEntries : Lawful threadEntries HasWorker where
  array_ne := by simp [threadEntries]
  element_ne_pool i := by simp [threadEntries]
  element_ne_array i := by simp [threadEntries]
  element_injective _ _ hequal := PoolObject.thread.inj hequal
  field_ne := workerThread_ne_index
  failure_ne object := by simp [threadEntries]
  before_eq heap i hpool hprior := by
    simp only [threadEntries]
    rw [load_of_holds hpool hprior.field_eq]
    change discard (heap.load (.object .workerArray) (.index i)) = .ok ()
    rw [load_of_holds hprior.array_held hprior.entry_eq]
    rfl
  after_eq _ _ _ := rfl
  dispose_eq _ _ := rfl
  prior_of_extends heap next objects i hextends hprior :=
    { field_eq := (hextends.cell_eq _ (by simp [threadEntries]) _).trans
        hprior.field_eq
      array_held := hextends.holds hprior.array_held
      entry_eq := (hextends.cell_eq _ (by simp [threadEntries]) _).trans
        hprior.entry_eq }

/-- The state in which the loop over `indices` starts. -/
structure Ready (entries : Entries) (Prior : Heap → ℕ → Prop)
    (indices : List ℕ) (heap : Heap) : Prop where
  pool_held : heap.ledger.Holds .pool
  array_held : heap.ledger.Holds entries.array
  field_eq : heap.cell .pool entries.field = some (.object entries.array)
  fresh : ∀ i ∈ indices, entries.element i ∉ heap.ledger.acquired
  prior : ∀ i ∈ indices, Prior heap i

section Lawful

variable {Prior : Heap → ℕ → Prop} {indices rest : List ℕ} {i : ℕ}

/-- One turn of the loop. -/
theorem fill_cons (hlawful : Lawful entries Prior)
    (hready : Ready entries Prior (i :: rest) heap)
    (hgranted : grants (entries.element i) = true) :
    fill entries grants (.object .pool) heap (i :: rest) =
      fill entries grants (.object .pool)
        ((heap.enter (entries.element i)
          (hready.fresh i List.mem_cons_self)).write entries.array (.index i)
            (.object (entries.element i))) rest := by
  have hfresh := hready.fresh i List.mem_cons_self
  have hextends : Extends entries.array [entries.element i] heap
      (heap.enter (entries.element i) hfresh) :=
    ⟨rfl, rfl, rfl, fun _ _ _ => rfl⟩
  rw [fill, hlawful.before_eq heap i hready.pool_held
    (hready.prior i List.mem_cons_self), hgranted,
    attempt_granted entries.failure hfresh]
  dsimp only [bind, Except.bind]
  rw [load_of_holds (hextends.holds hready.pool_held) hready.field_eq]
  dsimp only
  rw [store_of_holds (hextends.holds hready.array_held)]
  dsimp only
  rw [if_neg (hlawful.failure_ne _).symm,
    hlawful.after_eq ((heap.enter (entries.element i) hfresh).write
      entries.array (.index i) (.object (entries.element i))) _
      (holds_enter_self hfresh)]

theorem Ready.tail (hlawful : Lawful entries Prior)
    (hready : Ready entries Prior (i :: rest) heap) (hnotMem : i ∉ rest) :
    Ready entries Prior rest
      ((heap.enter (entries.element i)
        (hready.fresh i List.mem_cons_self)).write entries.array (.index i)
          (.object (entries.element i))) := by
  have hextends := @extends_entered heap entries.array _
    (hready.fresh i List.mem_cons_self) (.index i)
    (.object (entries.element i))
  exact
    { pool_held := hextends.holds hready.pool_held
      array_held := hextends.holds hready.array_held
      field_eq := (hextends.cell_eq _ hlawful.array_ne.symm _).trans
        hready.field_eq
      fresh := by
        intro j hj hmem
        rcases List.mem_append.mp hmem with hold | hnew
        · exact hready.fresh j (List.mem_cons_of_mem _ hj) hold
        · exact hnotMem (hlawful.element_injective
            (List.mem_singleton.mp hnew) ▸ hj)
      prior := fun j hj => hlawful.prior_of_extends _ _ _ j hextends
        (hready.prior j (List.mem_cons_of_mem _ hj)) }

/-- With every entry granted the loop goes to the end. -/
theorem fill_granted (hlawful : Lawful entries Prior)
    (hnodup : indices.Nodup) (hready : Ready entries Prior indices heap)
    (hgranted : ∀ i ∈ indices, grants (entries.element i) = true) :
    ∃ next, fill entries grants (.object .pool) heap indices =
        .ok (next, true) ∧
      Extends entries.array (indices.map entries.element) heap next ∧
      (∀ i ∈ indices, next.cell entries.array (.index i) =
        some (.object (entries.element i))) ∧
      ∀ i ∉ indices, next.cell entries.array (.index i) =
        heap.cell entries.array (.index i) := by
  induction indices generalizing heap with
  | nil =>
      exact ⟨heap, rfl, ⟨rfl, (List.append_nil _).symm, rfl, fun _ _ _ => rfl⟩,
        fun i hmem => absurd hmem List.not_mem_nil, fun _ _ => rfl⟩
  | cons i rest ih =>
      obtain ⟨hnotMem, hrest⟩ := List.nodup_cons.mp hnodup
      obtain ⟨next, hfill, hextends, hentries, hothers⟩ :=
        ih hrest (hready.tail hlawful hnotMem)
          (fun j hj => hgranted j (List.mem_cons_of_mem _ hj))
      refine ⟨next, ?_, ?_, fun j hj => ?_, fun j hj => ?_⟩
      · rw [fill_cons hlawful hready (hgranted i List.mem_cons_self)]
        exact hfill
      · exact (extends_entered (hready.fresh i List.mem_cons_self) _ _).trans
          hextends
      · rcases List.mem_cons.mp hj with rfl | hmem
        · rw [hothers _ hnotMem, Heap.write_cell_self]
        · exact hentries j hmem
      · obtain ⟨hne, hnotMem'⟩ := not_or.mp (mt List.mem_cons.mpr hj)
        rw [hothers j hnotMem']
        exact Heap.write_cell_of_ne _ (Or.inr (by simpa using hne))

/-- An array and its entries in place. -/
structure Built (entries : Entries) (numWorkers : ℕ) (heap next : Heap) :
    Prop where
  numWorkers_eq : next.numWorkers = heap.numWorkers
  acquired_eq : next.ledger.acquired = heap.ledger.acquired ++
    entries.array :: (List.range numWorkers).map entries.element
  released_eq : next.ledger.released = heap.ledger.released
  field_eq : next.cell .pool entries.field = some (.object entries.array)
  entry_eq : ∀ i < numWorkers, next.cell entries.array (.index i) =
    some (.object (entries.element i))
  cell_eq : ∀ object ≠ entries.array, ∀ offset ≠ entries.field,
    next.cell object offset = heap.cell object offset

theorem Built.holds (hbuilt : Built entries numWorkers heap next)
    {object : PoolObject} (hheld : heap.ledger.Holds object) :
    next.ledger.Holds object := by
  rw [Ledger.Holds, hbuilt.acquired_eq, hbuilt.released_eq]
  exact ⟨List.mem_append_left _ hheld.1, hheld.2⟩

theorem initEntries_granted (hlawful : Lawful entries Prior)
    (hpool : heap.ledger.Holds .pool)
    (hcount : heap.numWorkers = some numWorkers)
    (hfresh : entries.array ∉ heap.ledger.acquired)
    (hfreshElement : ∀ i, entries.element i ∉ heap.ledger.acquired)
    (hprior : ∀ i < numWorkers, Prior ((heap.enter entries.array hfresh).write
      .pool entries.field (.object entries.array)) i)
    (hgranted : grants entries.array = true)
    (hgrantedElement : ∀ i < numWorkers,
      grants (entries.element i) = true) :
    ∃ next, initEntries entries grants heap (.object .pool) = .ok (next, 0) ∧
      Built entries numWorkers heap next := by
  have hentered : (heap.enter entries.array hfresh).ledger.Holds .pool :=
    ⟨List.mem_append_left _ hpool.1, hpool.2⟩
  have hready : Ready entries Prior (List.range numWorkers)
      ((heap.enter entries.array hfresh).write .pool entries.field
        (.object entries.array)) :=
    { pool_held := hentered
      array_held := holds_enter_self hfresh
      field_eq := Heap.write_cell_self _ _ _ _
      fresh := by
        intro i _ hmem
        rcases List.mem_append.mp hmem with hold | hnew
        · exact hfreshElement i hold
        · exact hlawful.element_ne_array i (List.mem_singleton.mp hnew)
      prior := fun i hi => hprior i (List.mem_range.mp hi) }
  obtain ⟨next, hfill, hextends, hentries, -⟩ :=
    fill_granted hlawful List.nodup_range hready
      (fun i hi => hgrantedElement i (List.mem_range.mp hi))
  refine ⟨next, ?_, ?_⟩
  · rw [initEntries, loadNumWorkers_of_holds hpool hcount, hgranted,
      attempt_granted .null hfresh]
    dsimp only [bind, Except.bind]
    rw [store_of_holds hentered]
    dsimp only
    rw [if_neg (by simp), hfill]
    rfl
  · exact
      { numWorkers_eq := hextends.numWorkers_eq
        acquired_eq := hextends.acquired_eq.trans (List.append_cons _ _ _).symm
        released_eq := hextends.released_eq
        field_eq := (hextends.cell_eq _ hlawful.array_ne.symm _).trans
          hready.field_eq
        entry_eq := fun i hi => hentries i (List.mem_range.mpr hi)
        cell_eq := fun object hobject offset hoffset =>
          (hextends.cell_eq object hobject offset).trans
            (Heap.write_cell_of_ne _ (Or.inr hoffset)) }

end Lawful

/-! ## Giving everything back -/

/-- `next` has given back `objects`, in this order, and nothing else. -/
structure Freed (objects : List PoolObject) (heap next : Heap) : Prop where
  numWorkers_eq : next.numWorkers = heap.numWorkers
  acquired_eq : next.ledger.acquired = heap.ledger.acquired
  released_eq : next.ledger.released = heap.ledger.released ++ objects
  cell_eq : next.cell = heap.cell

theorem Freed.refl (heap : Heap) : Freed [] heap heap :=
  ⟨rfl, rfl, (List.append_nil _).symm, rfl⟩

theorem Freed.trans {middle : Heap} {objects later : List PoolObject}
    (hfirst : Freed objects heap middle) (hsecond : Freed later middle next) :
    Freed (objects ++ later) heap next where
  numWorkers_eq := hsecond.numWorkers_eq.trans hfirst.numWorkers_eq
  acquired_eq := hsecond.acquired_eq.trans hfirst.acquired_eq
  released_eq := by
    rw [hsecond.released_eq, hfirst.released_eq, List.append_assoc]
  cell_eq := hsecond.cell_eq.trans hfirst.cell_eq

theorem Freed.holds {objects : List PoolObject} {object : PoolObject}
    (hfreed : Freed objects heap next) (hnotMem : object ∉ objects)
    (hheld : heap.ledger.Holds object) : next.ledger.Holds object := by
  rw [Ledger.Holds, hfreed.acquired_eq, hfreed.released_eq]
  exact ⟨hheld.1, fun hmem =>
    (List.mem_append.mp hmem).elim hheld.2 hnotMem⟩

theorem exists_release {object : PoolObject}
    (hheld : heap.ledger.Holds object) :
    ∃ next, heap.release object = .ok next ∧ Freed [object] heap next := by
  refine ⟨{ heap with ledger := heap.ledger.strike object hheld }, ?_,
    ⟨rfl, rfl, rfl, rfl⟩⟩
  rw [Heap.release, Ledger.release_eq_some hheld]
  rfl

/-- An array with all its entries, ready to be given back. -/
structure Stocked (entries : Entries) (indices : List ℕ) (heap : Heap) :
    Prop where
  pool_held : heap.ledger.Holds .pool
  array_held : heap.ledger.Holds entries.array
  field_eq : heap.cell .pool entries.field = some (.object entries.array)
  entry_eq : ∀ i ∈ indices, heap.cell entries.array (.index i) =
    some (.object (entries.element i))
  element_held : ∀ i ∈ indices, heap.ledger.Holds (entries.element i)

section Stocked

variable {Prior : Heap → ℕ → Prop} {indices : List ℕ}

theorem Stocked.of_freed {objects : List PoolObject}
    (hstocked : Stocked entries indices heap)
    (hfreed : Freed objects heap next) (hpool : .pool ∉ objects)
    (harray : entries.array ∉ objects)
    (helement : ∀ i ∈ indices, entries.element i ∉ objects) :
    Stocked entries indices next where
  pool_held := hfreed.holds hpool hstocked.pool_held
  array_held := hfreed.holds harray hstocked.array_held
  field_eq := hfreed.cell_eq ▸ hstocked.field_eq
  entry_eq := hfreed.cell_eq ▸ hstocked.entry_eq
  element_held i hi :=
    hfreed.holds (helement i hi) (hstocked.element_held i hi)

theorem exists_freeElements (hlawful : Lawful entries Prior)
    (hnodup : indices.Nodup) (hstocked : Stocked entries indices heap) :
    ∃ next, freeElements entries (.object .pool) heap indices = .ok next ∧
      Freed (indices.map entries.element) heap next := by
  induction indices generalizing heap with
  | nil => exact ⟨heap, rfl, .refl heap⟩
  | cons i rest ih =>
      obtain ⟨hnotMem, hrest⟩ := List.nodup_cons.mp hnodup
      obtain ⟨released, hrelease, hfreed⟩ :=
        exists_release (hstocked.element_held i List.mem_cons_self)
      have htail : Stocked entries rest heap :=
        { hstocked with
          entry_eq := fun j hj =>
            hstocked.entry_eq j (List.mem_cons_of_mem _ hj)
          element_held := fun j hj =>
            hstocked.element_held j (List.mem_cons_of_mem _ hj) }
      obtain ⟨next, hfree, hfreedRest⟩ := ih hrest (htail.of_freed hfreed
        (by simpa using (hlawful.element_ne_pool i).symm)
        (by simpa using (hlawful.element_ne_array i).symm)
        (fun j hj hmem => hnotMem (hlawful.element_injective
          (List.mem_singleton.mp hmem) ▸ hj)))
      refine ⟨next, ?_, hfreed.trans hfreedRest⟩
      rw [freeElements, load_of_holds hstocked.pool_held hstocked.field_eq]
      dsimp only [bind, Except.bind]
      rw [load_of_holds hstocked.array_held
        (hstocked.entry_eq i List.mem_cons_self)]
      dsimp only
      rw [if_neg (by simp), hlawful.dispose_eq, hrelease]
      exact hfree

/-- `free_workers` or `free_workers_threads` on a complete array. -/
theorem exists_freeEntries (hlawful : Lawful entries Prior)
    (hcount : heap.numWorkers = some numWorkers)
    (hstocked : Stocked entries (List.range numWorkers) heap) :
    ∃ next, freeEntries entries heap (.object .pool) = .ok next ∧
      Freed ((List.range numWorkers).map entries.element ++ [entries.array])
        heap next := by
  obtain ⟨emptied, hfree, hfreed⟩ :=
    exists_freeElements hlawful List.nodup_range hstocked
  have harray : entries.array ∉
      (List.range numWorkers).map entries.element := by
    intro hmem
    obtain ⟨i, -, hequal⟩ := List.mem_map.mp hmem
    exact hlawful.element_ne_array i hequal
  obtain ⟨next, hrelease, hfreedArray⟩ :=
    exists_release (hfreed.holds harray hstocked.array_held)
  refine ⟨next, ?_, hfreed.trans hfreedArray⟩
  rw [freeEntries, load_of_holds hstocked.pool_held hstocked.field_eq]
  dsimp only [bind, Except.bind]
  rw [if_neg (by simp), loadNumWorkers_of_holds hstocked.pool_held hcount]
  dsimp only
  rw [hfree]
  exact hrelease

end Stocked

/-! ## A complete pool -/

/-- The pool, the workers and the threads, each in place. -/
structure Complete (numWorkers : ℕ) (heap : Heap) : Prop where
  numWorkers_eq : heap.numWorkers = some numWorkers
  acquired_eq : heap.ledger.acquired =
    [.pool] ++ .workerArray :: (List.range numWorkers).map .worker ++
      .threadArray :: (List.range numWorkers).map .thread
  workers : Stocked workerEntries (List.range numWorkers) heap
  threads : Stocked threadEntries (List.range numWorkers) heap

theorem Built.stocked
    (hbuilt : Built entries numWorkers heap next)
    (hpool : heap.ledger.Holds .pool)
    (hfresh : entries.array ∉ heap.ledger.acquired)
    (hfreshElement : ∀ i, entries.element i ∉ heap.ledger.acquired) :
    Stocked entries (List.range numWorkers) next where
  pool_held := hbuilt.holds hpool
  array_held := by
    rw [Ledger.Holds, hbuilt.acquired_eq, hbuilt.released_eq]
    exact ⟨List.mem_append_right _ List.mem_cons_self,
      fun hmem => hfresh (heap.ledger.released_subset hmem)⟩
  field_eq := hbuilt.field_eq
  entry_eq i hi := hbuilt.entry_eq i (List.mem_range.mp hi)
  element_held i hi := by
    rw [Ledger.Holds, hbuilt.acquired_eq, hbuilt.released_eq]
    exact ⟨List.mem_append_right _
        (List.mem_cons_of_mem _ (List.mem_map_of_mem hi)),
      fun hmem => hfreshElement i (heap.ledger.released_subset hmem)⟩

/-- The second array leaves the first as it is. -/
theorem Stocked.of_built
    (hstocked : Stocked workerEntries (List.range numWorkers) heap)
    (hbuilt : Built threadEntries numWorkers heap next) :
    Stocked workerEntries (List.range numWorkers) next where
  pool_held := hbuilt.holds hstocked.pool_held
  array_held := hbuilt.holds hstocked.array_held
  field_eq := (hbuilt.cell_eq .pool (by simp [threadEntries]) .worker
    (by simp [threadEntries])).trans hstocked.field_eq
  entry_eq i hi := (hbuilt.cell_eq .workerArray (by simp [threadEntries])
    (.index i) (by simp [threadEntries])).trans (hstocked.entry_eq i hi)
  element_held i hi := hbuilt.holds (hstocked.element_held i hi)

/-- With nothing refused `create_pool` returns a complete pool. -/
theorem exists_createPool (hgranted : AllGranted numWorkers grants) :
    ∃ heap, createPool numWorkers grants = .ok (heap, .object .pool) ∧
      Complete numWorkers heap ∧ heap.currentWorker = some 0 ∧
      heap.ledger.released = [] := by
  have hnone : PoolObject.pool ∉ Heap.initial.ledger.acquired :=
    List.not_mem_nil
  let counted : Heap := { Heap.initial.enter .pool hnone with
    currentWorker := some 0, numWorkers := some numWorkers }
  have hacquired : counted.ledger.acquired = [.pool] := rfl
  have hpool : counted.ledger.Holds .pool := holds_enter_self hnone
  have hfreshArray : PoolObject.workerArray ∉ counted.ledger.acquired := by
    simp [hacquired]
  have hfreshWorker : ∀ i, PoolObject.worker i ∉ counted.ledger.acquired := by
    simp [hacquired]
  obtain ⟨withWorkers, hworkers, hbuiltWorkers⟩ :=
    initEntries_granted lawful_workerEntries hpool rfl hfreshArray
      hfreshWorker (fun _ _ => trivial) hgranted.workerArray hgranted.worker
  have hstocked : Stocked workerEntries (List.range numWorkers) withWorkers :=
    hbuiltWorkers.stocked hpool hfreshArray hfreshWorker
  have hacquiredWorkers : withWorkers.ledger.acquired = [.pool] ++
      .workerArray :: (List.range numWorkers).map .worker :=
    hbuiltWorkers.acquired_eq
  have hfreshThreads : PoolObject.threadArray ∉
      withWorkers.ledger.acquired := by
    simp [hacquiredWorkers]
  have hfreshThread : ∀ i, PoolObject.thread i ∉
      withWorkers.ledger.acquired := by
    simp [hacquiredWorkers]
  obtain ⟨complete, hthreads, hbuiltThreads⟩ :=
    initEntries_granted lawful_threadEntries hstocked.pool_held
      hbuiltWorkers.numWorkers_eq hfreshThreads hfreshThread
      (fun i hi =>
        { field_eq := (Heap.write_cell_of_ne _ (Or.inr (by
              simp [threadEntries]))).trans hstocked.field_eq
          array_held := ⟨List.mem_append_left _ hstocked.array_held.1,
            hstocked.array_held.2⟩
          entry_eq := (Heap.write_cell_of_ne _ (Or.inl (by simp))).trans
            (hstocked.entry_eq i (List.mem_range.mpr hi)) })
      hgranted.threadArray hgranted.thread
  obtain ⟨hkeptWorkers, -⟩ :=
    initEntries_eq_ok (framed_keepsCounts _) rfl hworkers
  obtain ⟨hkeptThreads, -⟩ := initEntries_eq_ok (framed_keepsCounts _)
    hbuiltWorkers.numWorkers_eq hthreads
  refine ⟨complete, ?_, ?_, ?_, ?_⟩
  · rw [createPool, hgranted.pool, attempt_granted .null hnone]
    dsimp only [bind, Except.bind]
    rw [if_neg (by simp), storeCounts_of_holds (holds_enter_self hnone)]
    dsimp only
    rw [initWorkers, hworkers]
    dsimp only
    rw [if_neg (by simp), initWorkersThreads, hthreads]
    rfl
  · exact
      { numWorkers_eq := hbuiltThreads.numWorkers_eq.trans
          hbuiltWorkers.numWorkers_eq
        acquired_eq := hbuiltThreads.acquired_eq.trans
          (congrArg (· ++ _) hacquiredWorkers)
        workers := hstocked.of_built hbuiltThreads
        threads := hbuiltThreads.stocked hstocked.pool_held hfreshThreads
          hfreshThread }
  · exact hkeptThreads.currentWorker_eq.trans hkeptWorkers.currentWorker_eq
  · exact hbuiltThreads.released_eq.trans hbuiltWorkers.released_eq

/-- `free_pool` gives back a complete pool, each part once. -/
theorem exists_freePool (hcomplete : Complete numWorkers heap)
    (hnone : heap.ledger.released = []) :
    ∃ last, freePool heap (.object .pool) = .ok last ∧
      last.ledger.acquired = heap.ledger.acquired ∧
      last.ledger.Balanced := by
  obtain ⟨threadless, hthreads, hfreedThreads⟩ := exists_freeEntries
    lawful_threadEntries hcomplete.numWorkers_eq hcomplete.threads
  have hworkers : Stocked workerEntries (List.range numWorkers) threadless :=
    hcomplete.workers.of_freed hfreedThreads (by simp [threadEntries])
      (by simp [threadEntries, workerEntries])
      (by simp [threadEntries, workerEntries])
  obtain ⟨workerless, hfreeWorkers, hfreedWorkers⟩ := exists_freeEntries
    lawful_workerEntries
    (hfreedThreads.numWorkers_eq.trans hcomplete.numWorkers_eq) hworkers
  obtain ⟨last, hrelease, hfreedPool⟩ := exists_release
    (hfreedWorkers.holds (by simp [workerEntries]) hworkers.pool_held)
  have hfreed := (hfreedThreads.trans hfreedWorkers).trans hfreedPool
  refine ⟨last, ?_, hfreed.acquired_eq, ?_⟩
  · rw [freePool, if_neg (by simp), freeWorkersThreads, hthreads]
    dsimp only [bind, Except.bind]
    rw [freeWorkers, hfreeWorkers]
    exact hrelease
  · rw [Ledger.balanced_iff]
    rintro resource ⟨hmem, hkept⟩
    rw [hfreed.acquired_eq, hcomplete.acquired_eq] at hmem
    rw [hfreed.released_eq, hnone] at hkept
    simp only [threadEntries, workerEntries, List.mem_append, List.mem_cons]
      at hmem hkept
    tauto

/-- Without the pool there is nothing to clean up. -/
theorem createPool_refused (hrefused : grants .pool = false) :
    createPool numWorkers grants = .ok (Heap.initial, .null) := by
  rw [createPool, hrefused]
  rfl

/-- `create_pool` unwinds from a failure, and `free_pool` from its success,
exactly when what failed, if anything did, was the pool itself. -/
theorem unwinds_iff (numWorkers : ℕ) (grants : Grants) :
    Unwinds numWorkers grants ↔
      grants .pool = false ∨ AllGranted numWorkers grants := by
  constructor
  · rintro ⟨heap, pointer, hcreate, -⟩
    exact allGranted_of_createPool hcreate
  · rintro (hrefused | hgranted)
    · refine ⟨Heap.initial, .null, createPool_refused hrefused,
        fun hgranted => ?_, fun _ => ⟨rfl, Ledger.balanced_empty⟩⟩
      exact absurd hgranted.pool (by simp [hrefused])
    · obtain ⟨heap, hcreate, hcomplete, -, hnone⟩ :=
        exists_createPool hgranted
      obtain ⟨last, hfree, hacquired, hbalanced⟩ :=
        exists_freePool hcomplete hnone
      refine ⟨heap, .object .pool, hcreate, fun _ => ⟨rfl, last, hfree,
        hbalanced, fun i hi => ?_⟩, fun hdenied => absurd hgranted hdenied⟩
      constructor
      · apply hbalanced.count_released
        rw [hacquired, hcomplete.acquired_eq]
        simp [hi]
      · apply hbalanced.count_released
        rw [hacquired, hcomplete.acquired_eq]
        simp [hi]

end PaxosPersistence.PoolConstruction
