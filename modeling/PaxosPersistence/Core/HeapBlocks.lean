import Mathlib

/-!
# Programs with malloc and free

A program allocates blocks, accesses them and frees them.  A block that has
been freed is not handed out again, so that a pointer to it remains
recognisable: to access or to free what is not allocated is dangling, and so is
an access through NULL.  A program may also halt for reasons of its own.

`Refines` compares such a program with one that computes the same without a
heap.  Its rules follow the program, and keep the books of the blocks.
-/

namespace PaxosPersistence.HeapBlocks

abbrev BlockId := ℕ

/-- NULL, or the address of a block. -/
abbrev Pointer := Option BlockId

/-- The blocks that are allocated, and the next one to be. -/
structure Heap where
  live : Multiset BlockId
  next : BlockId
  nodup : live.Nodup
  bounded : ∀ block ∈ live, block < next

inductive Fault (Reason : Type) where
  | dangling
  | halt (reason : Reason)

abbrev Program (Reason A : Type) := StateT Heap (Except (Fault Reason)) A

def Heap.empty : Heap where
  live := 0
  next := 0
  nodup := Multiset.nodup_zero
  bounded := by simp

/-- The heap with one block more. -/
def Heap.alloc (heap : Heap) : Heap where
  live := {heap.next} + heap.live
  next := heap.next + 1
  nodup := Multiset.nodup_cons.mpr
    ⟨fun hmem => (heap.bounded _ hmem).false, heap.nodup⟩
  bounded := by
    intro block hmem
    rcases Multiset.mem_add.mp hmem with hnew | hold
    · rw [Multiset.mem_singleton.mp hnew]
      exact Nat.lt_succ_self _
    · exact (heap.bounded block hold).trans (Nat.lt_succ_self _)

/-- The heap without this block. -/
def Heap.dealloc (heap : Heap) (block : BlockId) : Heap where
  live := heap.live.erase block
  next := heap.next
  nodup := heap.nodup.erase block
  bounded other hmem := heap.bounded other (Multiset.mem_of_mem_erase hmem)

theorem live_alloc (heap : Heap) :
    heap.alloc.live = {heap.next} + heap.live := rfl

theorem live_dealloc (heap : Heap) (block : BlockId) :
    (heap.dealloc block).live = heap.live.erase block := rfl

variable {Reason : Type}

def malloc : Program Reason Pointer := fun heap =>
  .ok (some heap.next, heap.alloc)

/-- Read or write the block behind a pointer. -/
def access : Pointer → Program Reason Unit
  | none => fun _ => .error .dangling
  | some block => fun heap =>
      if block ∈ heap.live then .ok ((), heap) else .error .dangling

/-- NULL may be freed, to no effect. -/
def free : Pointer → Program Reason Unit
  | none => fun heap => .ok ((), heap)
  | some block => fun heap =>
      if block ∈ heap.live then .ok ((), heap.dealloc block)
      else .error .dangling

/-- A computation that leaves the heap alone. -/
def perform {A : Type} (result : Except Reason A) : Program Reason A :=
  fun heap =>
    match result with
    | .ok value => .ok (value, heap)
    | .error reason => .error (.halt reason)

/-- The block behind a pointer, if there is one. -/
def blocks : Pointer → Multiset BlockId
  | none => 0
  | some block => {block}

@[simp]
theorem blocks_none : blocks none = 0 := rfl

@[simp]
theorem blocks_some (block : BlockId) : blocks (some block) = {block} := rfl

/-- The pointer leads to a block that is allocated. -/
def Heap.Valid (heap : Heap) (pointer : Pointer) : Prop :=
  ∃ block ∈ heap.live, pointer = some block

theorem Heap.Valid.grow {heap next : Heap} {pointer : Pointer}
    {fresh : Multiset BlockId} (hvalid : heap.Valid pointer)
    (hlive : next.live = fresh + heap.live) : next.Valid pointer := by
  obtain ⟨block, hmem, rfl⟩ := hvalid
  refine ⟨block, ?_, rfl⟩
  rw [hlive]
  exact Multiset.mem_add.mpr (Or.inr hmem)

theorem valid_of_live_eq {heap : Heap} {block : BlockId}
    {others : Multiset BlockId} (hlive : heap.live = {block} + others) :
    heap.Valid (some block) := by
  refine ⟨block, ?_, rfl⟩
  rw [hlive]
  exact Multiset.mem_add.mpr (Or.inl (Multiset.mem_singleton_self block))

/-! ## Refinement -/

/-- From this heap the program has no dangling access and ends as the pure
computation does: with results that are related, or halting for the same
reason. -/
def Refines {A B : Type} (program : Program Reason A) (heap : Heap)
    (expected : Except Reason B) (post : A → B → Heap → Prop) : Prop :=
  match expected with
  | .ok value => ∃ result next, program heap = .ok (result, next) ∧
      post result value next
  | .error reason => program heap = .error (.halt reason)

section Rules

variable {A B C D : Type} {heap : Heap} {expected : Except Reason B}
variable {post : A → B → Heap → Prop}

theorem refines_of_ok {program : Program Reason A} {result : A} {next : Heap}
    {value : B} (hprogram : program heap = .ok (result, next))
    (hpost : post result value next) :
    Refines program heap (.ok value) post :=
  ⟨result, next, hprogram, hpost⟩

theorem Refines.pure {result : A} {value : B} (hpost : post result value heap) :
    Refines (pure result : Program Reason A) heap (.ok value) post :=
  refines_of_ok rfl hpost

theorem Refines.weaken {program : Program Reason A}
    {wider : A → B → Heap → Prop} (hrefines : Refines program heap expected post)
    (hwider : ∀ result value next, expected = .ok value →
      post result value next → wider result value next) :
    Refines program heap expected wider := by
  cases expected with
  | error reason => exact hrefines
  | ok value =>
      obtain ⟨result, next, hprogram, hpost⟩ := hrefines
      exact refines_of_ok hprogram (hwider result value next rfl hpost)

theorem bind_of_ok {first : Program Reason A} {second : A → Program Reason C}
    {result : A} {next : Heap} (hfirst : first heap = .ok (result, next)) :
    (first >>= second) heap = second result next := by
  simp only [bind, StateT.bind, hfirst, Except.bind]

theorem bind_of_error {first : Program Reason A} {second : A → Program Reason C}
    {fault : Fault Reason} (hfirst : first heap = .error fault) :
    (first >>= second) heap = .error fault := by
  simp only [bind, StateT.bind, hfirst, Except.bind]

/-- What follows a program is compared in the heap it leaves. -/
theorem refines_of_bind {first : Program Reason A}
    {second : A → Program Reason C} {result : A} {next : Heap}
    {expected : Except Reason D} {post : C → D → Heap → Prop}
    (hfirst : first heap = .ok (result, next))
    (hsecond : Refines (second result) next expected post) :
    Refines (first >>= second) heap expected post := by
  have hbind : (first >>= second) heap = second result next :=
    bind_of_ok hfirst
  cases expected with
  | error reason => exact hbind.trans hsecond
  | ok value =>
      obtain ⟨last, final, hlast, hpost⟩ := hsecond
      exact refines_of_ok (hbind.trans hlast) hpost

/-- Two programs in sequence refine two computations in sequence. -/
theorem Refines.bind {first : Program Reason A} {second : A → Program Reason C}
    {rest : B → Except Reason D} {wider : C → D → Heap → Prop}
    (hfirst : Refines first heap expected post)
    (hsecond : ∀ result value next, expected = .ok value →
      post result value next →
        Refines (second result) next (rest value) wider) :
    Refines (first >>= second) heap (expected >>= rest) wider := by
  cases expected with
  | error reason => exact bind_of_error hfirst
  | ok value =>
      obtain ⟨result, next, hprogram, hpost⟩ := hfirst
      exact refines_of_bind hprogram
        (hsecond result value next rfl hpost)

section Sequence

variable {second : Unit → Program Reason C} {expected : Except Reason D}
variable {post : C → D → Heap → Prop}

theorem Refines.malloc {second : Pointer → Program Reason C}
    (hsecond : ∀ block next, next.live = {block} + heap.live →
      Refines (second (some block)) next expected post) :
    Refines (HeapBlocks.malloc >>= second) heap expected post :=
  refines_of_bind rfl (hsecond heap.next heap.alloc rfl)

theorem Refines.access {pointer : Pointer} (hvalid : heap.Valid pointer)
    (hsecond : Refines (second ()) heap expected post) :
    Refines (HeapBlocks.access pointer >>= second) heap expected post := by
  obtain ⟨block, hmem, rfl⟩ := hvalid
  exact refines_of_bind (if_pos hmem) hsecond

theorem exists_free {pointer : Pointer} {others : Multiset BlockId}
    (hlive : heap.live = blocks pointer + others) :
    ∃ next, (free pointer : Program Reason Unit) heap = .ok ((), next) ∧
      next.live = others := by
  cases pointer with
  | none =>
      refine ⟨heap, rfl, ?_⟩
      rw [hlive, blocks_none, zero_add]
  | some block =>
      obtain ⟨_, hmem, hblock⟩ := valid_of_live_eq hlive
      cases hblock
      refine ⟨heap.dealloc block, if_pos hmem, ?_⟩
      rw [live_dealloc, hlive, blocks_some, Multiset.singleton_add,
        Multiset.erase_cons_head]

theorem Refines.free {pointer : Pointer} {others : Multiset BlockId}
    (hlive : heap.live = blocks pointer + others)
    (hsecond : ∀ next, next.live = others →
      Refines (second ()) next expected post) :
    Refines (HeapBlocks.free pointer >>= second) heap expected post := by
  obtain ⟨next, hfree, hnext⟩ := exists_free hlive
  exact refines_of_bind hfree (hsecond next hnext)

end Sequence

theorem refines_perform (result : Except Reason A) :
    Refines (perform result) heap result
      fun value other next => value = other ∧ next = heap := by
  cases result with
  | error reason => rfl
  | ok value => exact refines_of_ok rfl ⟨rfl, rfl⟩

/-- A computation is compared with itself. -/
theorem Refines.perform {result : Except Reason A}
    {second : A → Program Reason C} {rest : A → Except Reason D}
    {post : C → D → Heap → Prop}
    (hsecond : ∀ value, result = .ok value →
      Refines (second value) heap (rest value) post) :
    Refines (HeapBlocks.perform result >>= second) heap (result >>= rest)
      post := by
  apply (refines_perform result).bind
  rintro value _ _ hvalue ⟨rfl, rfl⟩
  exact hsecond value hvalue

end Rules

end PaxosPersistence.HeapBlocks
