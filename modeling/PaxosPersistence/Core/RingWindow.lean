import Mathlib

/-!
# Windows of a circular array

A circular array of `size` slots with a first index and a count holds the
`count` slots met when walking from the first index and wrapping at the end.
The full and the empty array have the same two indices; only the count tells
them apart.  This module relates the indices, the count and the list of slots.
-/

namespace PaxosPersistence.RingWindow

variable {size : ℕ} {A : Type*}

/-- The index `count` steps after `index`, wrapping at the end. -/
def advance (index : Fin size) (count : ℕ) : Fin size :=
  ⟨(index.val + count) % size, Nat.mod_lt _ (Nat.zero_lt_of_lt index.isLt)⟩

@[simp]
theorem advance_zero (index : Fin size) : advance index 0 = index := by
  apply Fin.ext
  exact Nat.mod_eq_of_lt index.isLt

@[simp]
theorem advance_advance (index : Fin size) (left right : ℕ) :
    advance (advance index left) right = advance index (left + right) := by
  apply Fin.ext
  simp only [advance, Nat.mod_add_mod, Nat.add_assoc]

theorem advance_injective {index : Fin size} {left right : ℕ}
    (hleft : left < size) (hright : right < size)
    (heq : advance index left = advance index right) : left = right := by
  have hval : (index.val + left) % size = (index.val + right) % size :=
    congrArg Fin.val heq
  have hmod : left % size = right % size := Nat.ModEq.add_left_cancel' _ hval
  rwa [Nat.mod_eq_of_lt hleft, Nat.mod_eq_of_lt hright] at hmod

/-- The `count` consecutive indices starting at `first`. -/
def window (first : Fin size) (count : ℕ) : List (Fin size) :=
  (List.range count).map (advance first)

@[simp]
theorem window_zero (first : Fin size) : window first 0 = [] := rfl

@[simp]
theorem length_window (first : Fin size) (count : ℕ) :
    (window first count).length = count := by
  simp [window]

theorem window_concat (first : Fin size) (count : ℕ) :
    window first (count + 1) = window first count ++ [advance first count] := by
  simp [window, List.range_succ]

theorem window_cons (first : Fin size) (count : ℕ) :
    window first (count + 1) = first :: window (advance first 1) count := by
  simp only [window, List.range_succ_eq_map, List.map_cons, List.map_map,
    advance_zero]
  congr 1
  apply List.map_congr_left
  intro index _
  simp [Nat.add_comm]

theorem mem_window {first index : Fin size} {count : ℕ} :
    index ∈ window first count ↔ ∃ offset < count, advance first offset = index := by
  simp [window]

/-- As long as the array is not full, the slot behind the window is free. -/
theorem advance_notMem_window (first : Fin size) {count : ℕ}
    (hcount : count < size) : advance first count ∉ window first count := by
  intro hmem
  obtain ⟨offset, hoffset, heq⟩ := mem_window.mp hmem
  have := advance_injective (by omega) hcount heq
  omega

/-! ## What the window holds -/

/-- The contents of the window, oldest first. -/
def contents (slots : Fin size → A) (first : Fin size) (count : ℕ) : List A :=
  (window first count).map slots

@[simp]
theorem contents_zero (slots : Fin size → A) (first : Fin size) :
    contents slots first 0 = [] := rfl

@[simp]
theorem length_contents (slots : Fin size → A) (first : Fin size) (count : ℕ) :
    (contents slots first count).length = count := by
  simp [contents]

/-- Writing outside the window does not change what it holds. -/
theorem contents_update_of_notMem (slots : Fin size → A) {first index : Fin size}
    {count : ℕ} (hindex : index ∉ window first count) (value : A) :
    contents (Function.update slots index value) first count =
      contents slots first count := by
  apply List.map_congr_left
  intro other hother
  rw [Function.update_of_ne]
  rintro rfl
  exact hindex hother

/-- Filling the free slot behind the window appends to what it holds. -/
theorem contents_push (slots : Fin size → A) (first : Fin size) {count : ℕ}
    (hcount : count < size) (value : A) :
    contents (Function.update slots (advance first count) value) first
        (count + 1) =
      contents slots first count ++ [value] := by
  have hkeep := contents_update_of_notMem slots
    (advance_notMem_window first hcount) value
  rw [contents] at hkeep
  rw [contents, window_concat, List.map_append, hkeep]
  simp

/-- Moving the first index on removes the oldest element. -/
theorem contents_pop (slots : Fin size → A) (first : Fin size) (count : ℕ) :
    contents slots first (count + 1) =
      slots first :: contents slots (advance first 1) count := by
  rw [contents, window_cons, List.map_cons, contents]

/-! ## The two indices and the count -/

/-- The next free index lies `count` slots behind the first one. -/
structure Occupies (first current : Fin size) (count : ℕ) : Prop where
  count_le : count ≤ size
  current_eq : current = advance first count

namespace Occupies

theorem empty (index : Fin size) : Occupies index index 0 :=
  ⟨Nat.zero_le size, (advance_zero index).symm⟩

theorem push {first current : Fin size} {count : ℕ}
    (hring : Occupies first current count) (hcount : count < size) :
    Occupies first (advance current 1) (count + 1) :=
  ⟨hcount, by rw [hring.current_eq, advance_advance]⟩

theorem pop {first current : Fin size} {count : ℕ}
    (hring : Occupies first current (count + 1)) :
    Occupies (advance first 1) current count :=
  ⟨by have := hring.count_le; omega, by
    rw [hring.current_eq, advance_advance, Nat.add_comm]⟩

/-- A non-full array accepts an element without touching a slot in use. -/
theorem current_notMem_window {first current : Fin size} {count : ℕ}
    (hring : Occupies first current count) (hcount : count < size) :
    current ∉ window first count := by
  rw [hring.current_eq]
  exact advance_notMem_window first hcount

end Occupies

end PaxosPersistence.RingWindow
