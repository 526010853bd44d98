import Mathlib

/-!
# Dealing in turn

Items are dealt one after the other to `size` places, each to the place after
that of the item before it, and to the first place again after the last.  A
place gets the items of its turn in the order in which they were dealt, and at
no time has one place been given two items more than another.
-/

namespace PaxosPersistence.RoundRobin

variable {P : Type*}

/-- The first `count` items, each with the place it is dealt to. -/
def deal (place : ℕ → P) (size count : ℕ) : List (P × ℕ) :=
  (List.range count).map fun item => (place (item % size), item)

/-- Those of the first `count` items that turn `i` gets. -/
def dealt (size i count : ℕ) : List ℕ :=
  (List.range count).filter fun item => item % size = i

/-- The items given to one place, in order. -/
def givenTo [DecidableEq P] (target : P) (given : List (P × ℕ)) : List ℕ :=
  given.filterMap fun (place, item) =>
    if place = target then some item else none

theorem deal_succ (place : ℕ → P) (size count : ℕ) :
    deal place size (count + 1) =
      deal place size count ++ [(place (count % size), count)] := by
  rw [deal, List.range_succ, List.map_append]
  rfl

/-- Distinct places get exactly the items of their turns. -/
theorem givenTo_deal [DecidableEq P] {place : ℕ → P}
    (hinjective : Function.Injective place) (size i count : ℕ) :
    givenTo (place i) (deal place size count) = dealt size i count := by
  rw [givenTo, deal, List.filterMap_map, dealt, ← List.filterMap_eq_filter]
  apply congrArg (List.filterMap · (List.range count))
  funext item
  by_cases hturn : item % size = i
  · simp [hturn, Option.guard]
  · simp [hturn, Option.guard, hinjective.eq_iff]

section GivenTo

variable [DecidableEq P] {target other : P} {item : ℕ} {rest : List ℕ}
  {given : List (P × ℕ)}

theorem givenTo_cons (target : P) (pair : P × ℕ) (given : List (P × ℕ)) :
    givenTo target (pair :: given) =
      if pair.1 = target then pair.2 :: givenTo target given
      else givenTo target given := by
  by_cases htarget : pair.1 = target <;> simp [givenTo, htarget]

theorem mem_givenTo : item ∈ givenTo target given ↔ (target, item) ∈ given := by
  constructor
  · intro hmem
    obtain ⟨⟨holder, held⟩, hheld, hgiven⟩ := List.mem_filterMap.mp hmem
    dsimp only at hgiven
    split at hgiven
    · rename_i hholder
      cases hgiven
      exact hholder ▸ hheld
    · cases hgiven
  · intro hmem
    exact List.mem_filterMap.mpr ⟨(target, item), hmem, if_pos rfl⟩

/-- A place gives up the first of its items. -/
theorem givenTo_erase_self (hcons : givenTo target given = item :: rest) :
    givenTo target (given.erase (target, item)) = rest := by
  induction given with
  | nil => cases hcons
  | cons pair given ih =>
      rw [givenTo_cons] at hcons
      split at hcons
      · rename_i hplace
        cases hcons
        rw [← hplace, List.erase_cons_head]
      · rename_i hplace
        have hne : pair ≠ (target, item) := by
          rintro rfl
          exact hplace rfl
        rw [List.erase_cons_tail (by simpa using hne), givenTo_cons,
          if_neg hplace]
        exact ih hcons

theorem givenTo_erase_of_ne (hne : target ≠ other) (given : List (P × ℕ)) :
    givenTo other (given.erase (target, item)) = givenTo other given := by
  induction given with
  | nil => rfl
  | cons pair given ih =>
      by_cases hpair : pair = (target, item)
      · subst hpair
        rw [List.erase_cons_head, givenTo_cons, if_neg hne]
      · rw [List.erase_cons_tail (by simpa using hpair), givenTo_cons,
          givenTo_cons, ih]

end GivenTo

/-- Nothing is given away before its turn. -/
theorem lt_of_mem_givenTo_deal [DecidableEq P] {place : ℕ → P} {target : P}
    {size count item : ℕ}
    (hmem : item ∈ givenTo target (deal place size count)) : item < count := by
  obtain ⟨other, hother, hpair⟩ := List.mem_map.mp (mem_givenTo.mp hmem)
  cases hpair
  exact List.mem_range.mp hother

variable {size i j : ℕ}

/-- Every round gives a place one item, and the last round may not have come
to it yet. -/
theorem length_dealt (hi : i < size) (count : ℕ) :
    (dealt size i count).length =
      count / size + if i < count % size then 1 else 0 := by
  have hcount : (dealt size i count).length =
      count.count (· ≡ i [MOD size]) := by
    rw [dealt, ← List.countP_eq_length_filter, Nat.count]
    apply List.countP_congr
    intro item _
    simp [Nat.ModEq, Nat.mod_eq_of_lt hi]
  rw [hcount, Nat.count_modEq_card count (Nat.zero_lt_of_lt hi),
    Nat.mod_eq_of_lt hi]

/-- No place is more than one item ahead of another. -/
theorem length_dealt_le (hi : i < size) (hj : j < size) (count : ℕ) :
    (dealt size i count).length ≤ (dealt size j count).length + 1 := by
  rw [length_dealt hi, length_dealt hj]
  split <;> split <;> omega

end PaxosPersistence.RoundRobin
