import Mathlib

/-!
# A ledger of resources

A program acquires resources, uses them and releases them.  The ledger lists
what it has acquired and what of that it has released, each in order.  Nothing
is acquired twice; what is used or released must be held at that time, so that
no use follows a release and no release another.  A program has cleaned up when
what it has released is what it has acquired.
-/

namespace PaxosPersistence.ResourceLedger

@[ext]
structure Ledger (R : Type*) where
  acquired : List R
  released : List R
  acquired_nodup : acquired.Nodup
  released_nodup : released.Nodup
  released_subset : released ⊆ acquired

namespace Ledger

variable {R : Type*}

def empty (R : Type*) : Ledger R where
  acquired := []
  released := []
  acquired_nodup := List.nodup_nil
  released_nodup := List.nodup_nil
  released_subset := List.Subset.refl []

/-- Acquired and not yet released. -/
def Holds (ledger : Ledger R) (resource : R) : Prop :=
  resource ∈ ledger.acquired ∧ resource ∉ ledger.released

/-- What was acquired has been released, each resource once. -/
def Balanced (ledger : Ledger R) : Prop :=
  ledger.released.Perm ledger.acquired

theorem balanced_empty : (empty R).Balanced := List.Perm.refl []

section Enter

variable (ledger : Ledger R) (resource : R)

/-- The ledger with a new resource. -/
def enter (hfresh : resource ∉ ledger.acquired) : Ledger R where
  acquired := ledger.acquired ++ [resource]
  released := ledger.released
  acquired_nodup := List.nodup_append'.mpr ⟨ledger.acquired_nodup,
    List.nodup_singleton resource, by simpa using hfresh⟩
  released_nodup := ledger.released_nodup
  released_subset := List.subset_append_of_subset_left _ ledger.released_subset

/-- The ledger without a resource that was held. -/
def strike (hheld : ledger.Holds resource) : Ledger R where
  acquired := ledger.acquired
  released := ledger.released ++ [resource]
  acquired_nodup := ledger.acquired_nodup
  released_nodup := List.nodup_append'.mpr ⟨ledger.released_nodup,
    List.nodup_singleton resource, by simpa using hheld.2⟩
  released_subset := List.append_subset.mpr ⟨ledger.released_subset,
    List.cons_subset.mpr ⟨hheld.1, List.nil_subset _⟩⟩

end Enter

variable [DecidableEq R]

instance decidableHolds (ledger : Ledger R) (resource : R) :
    Decidable (ledger.Holds resource) :=
  inferInstanceAs (Decidable (_ ∧ _))

/-- Acquire a resource that is not there yet. -/
def acquire (ledger : Ledger R) (resource : R) : Option (Ledger R) :=
  if hfresh : resource ∉ ledger.acquired then
    some (ledger.enter resource hfresh)
  else none

/-- Use a resource that is held. -/
def use (ledger : Ledger R) (resource : R) : Option Unit :=
  if ledger.Holds resource then some () else none

/-- Release a resource that is held. -/
def release (ledger : Ledger R) (resource : R) : Option (Ledger R) :=
  if hheld : ledger.Holds resource then some (ledger.strike resource hheld)
  else none

/-- Release one resource after the other. -/
def releaseAll (ledger : Ledger R) (resources : List R) : Option (Ledger R) :=
  resources.foldlM release ledger

/-- Acquire one resource after the other. -/
def acquireAll (ledger : Ledger R) (resources : List R) : Option (Ledger R) :=
  resources.foldlM acquire ledger

variable {ledger next : Ledger R} {resource other : R} {resources : List R}

theorem acquire_eq_some (hfresh : resource ∉ ledger.acquired) :
    ledger.acquire resource = some (ledger.enter resource hfresh) :=
  dif_pos hfresh

theorem release_eq_some (hheld : ledger.Holds resource) :
    ledger.release resource = some (ledger.strike resource hheld) :=
  dif_pos hheld

theorem use_eq_some (hheld : ledger.Holds resource) :
    ledger.use resource = some () :=
  if_pos hheld

theorem use_eq_none (hheld : ¬ ledger.Holds resource) :
    ledger.use resource = none :=
  if_neg hheld

theorem release_eq_none (hheld : ¬ ledger.Holds resource) :
    ledger.release resource = none :=
  dif_neg hheld

/-- What was held still is when something else has been acquired. -/
theorem Holds.of_acquire (hheld : ledger.Holds other)
    (hacquire : ledger.acquire resource = some next) : next.Holds other := by
  rw [acquire] at hacquire
  split at hacquire
  · cases hacquire
    exact ⟨List.mem_append_left _ hheld.1, hheld.2⟩
  · cases hacquire

theorem holds_of_acquire (hacquire : ledger.acquire resource = some next) :
    next.Holds resource := by
  rw [acquire] at hacquire
  split at hacquire
  · rename_i hfresh
    cases hacquire
    exact ⟨List.mem_append_right _ List.mem_cons_self,
      fun hmem => hfresh (ledger.released_subset hmem)⟩
  · cases hacquire

/-- And when something else has been released. -/
theorem Holds.of_release (hheld : ledger.Holds other)
    (hrelease : ledger.release resource = some next) (hne : other ≠ resource) :
    next.Holds other := by
  rw [release] at hrelease
  split at hrelease
  · cases hrelease
    refine ⟨hheld.1, fun hmem => ?_⟩
    rcases List.mem_append.mp hmem with hold | hnew
    · exact hheld.2 hold
    · exact hne (List.mem_singleton.mp hnew)
  · cases hrelease

/-- What has been released is not held. -/
theorem not_holds_of_release (hrelease : ledger.release resource = some next) :
    ¬ next.Holds resource := by
  rw [release] at hrelease
  split at hrelease
  · cases hrelease
    exact fun hheld => hheld.2 (List.mem_append_right _ List.mem_cons_self)
  · cases hrelease

/-- A second release has no result. -/
theorem release_release (hrelease : ledger.release resource = some next) :
    next.release resource = none :=
  release_eq_none (not_holds_of_release hrelease)

@[simp]
theorem acquireAll_nil : ledger.acquireAll [] = some ledger := rfl

@[simp]
theorem releaseAll_nil : ledger.releaseAll [] = some ledger := rfl

theorem acquireAll_cons :
    ledger.acquireAll (resource :: resources) =
      (ledger.acquire resource).bind (·.acquireAll resources) := rfl

theorem releaseAll_cons :
    ledger.releaseAll (resource :: resources) =
      (ledger.release resource).bind (·.releaseAll resources) := rfl

theorem acquireAll_cons_eq_some {last : Ledger R} :
    ledger.acquireAll (resource :: resources) = some last ↔
      ∃ next, ledger.acquire resource = some next ∧
        next.acquireAll resources = some last :=
  Option.bind_eq_some_iff

theorem releaseAll_cons_eq_some {last : Ledger R} :
    ledger.releaseAll (resource :: resources) = some last ↔
      ∃ next, ledger.release resource = some next ∧
        next.releaseAll resources = some last :=
  Option.bind_eq_some_iff

theorem acquireAll_append {later : List R} :
    ledger.acquireAll (resources ++ later) =
      (ledger.acquireAll resources).bind (·.acquireAll later) :=
  List.foldlM_append

theorem releaseAll_append {later : List R} :
    ledger.releaseAll (resources ++ later) =
      (ledger.releaseAll resources).bind (·.releaseAll later) :=
  List.foldlM_append

theorem Holds.of_acquireAll (hheld : ledger.Holds other)
    (hall : ledger.acquireAll resources = some next) : next.Holds other := by
  induction resources generalizing ledger with
  | nil => exact Option.some.inj hall ▸ hheld
  | cons resource resources ih =>
      obtain ⟨middle, hacquire, hrest⟩ := acquireAll_cons_eq_some.mp hall
      exact ih (hheld.of_acquire hacquire) hrest

theorem Holds.of_releaseAll (hheld : ledger.Holds other)
    (hall : ledger.releaseAll resources = some next)
    (hnotMem : other ∉ resources) : next.Holds other := by
  induction resources generalizing ledger with
  | nil => exact Option.some.inj hall ▸ hheld
  | cons resource resources ih =>
      obtain ⟨middle, hrelease, hrest⟩ := releaseAll_cons_eq_some.mp hall
      obtain ⟨hne, hlater⟩ := not_or.mp (mt List.mem_cons.mpr hnotMem)
      exact ih (hheld.of_release hrelease hne) hrest hlater

theorem exists_acquireAll (hnodup : resources.Nodup)
    (hfresh : ∀ resource ∈ resources, resource ∉ ledger.acquired) :
    ∃ next, ledger.acquireAll resources = some next ∧
      next.acquired = ledger.acquired ++ resources ∧
      next.released = ledger.released := by
  induction resources generalizing ledger with
  | nil => exact ⟨ledger, rfl, (List.append_nil _).symm, rfl⟩
  | cons resource resources ih =>
      obtain ⟨hnotMem, hrest⟩ := List.nodup_cons.mp hnodup
      have hhead := hfresh resource List.mem_cons_self
      have hlater : ∀ other ∈ resources,
          other ∉ (ledger.enter resource hhead).acquired := by
        intro other hother hmem
        rcases List.mem_append.mp hmem with hold | hnew
        · exact hfresh other (List.mem_cons_of_mem _ hother) hold
        · exact hnotMem (List.mem_singleton.mp hnew ▸ hother)
      obtain ⟨next, hall, hacquired, hreleased⟩ := ih hrest hlater
      refine ⟨next, ?_, ?_, hreleased⟩
      · rw [acquireAll_cons, acquire_eq_some hhead]
        exact hall
      · rw [hacquired, enter, List.append_assoc, List.singleton_append]

theorem exists_releaseAll (hnodup : resources.Nodup)
    (hheld : ∀ resource ∈ resources, ledger.Holds resource) :
    ∃ next, ledger.releaseAll resources = some next ∧
      next.acquired = ledger.acquired ∧
      next.released = ledger.released ++ resources := by
  induction resources generalizing ledger with
  | nil => exact ⟨ledger, rfl, rfl, (List.append_nil _).symm⟩
  | cons resource resources ih =>
      obtain ⟨hnotMem, hrest⟩ := List.nodup_cons.mp hnodup
      have hhead := hheld resource List.mem_cons_self
      have hlater : ∀ other ∈ resources,
          (ledger.strike resource hhead).Holds other := by
        intro other hother
        have hbefore := hheld other (List.mem_cons_of_mem _ hother)
        refine ⟨hbefore.1, ?_⟩
        intro hmem
        rcases List.mem_append.mp hmem with hold | hnew
        · exact hbefore.2 hold
        · exact hnotMem (List.mem_singleton.mp hnew ▸ hother)
      obtain ⟨next, hall, hacquired, hreleased⟩ := ih hrest hlater
      refine ⟨next, ?_, hacquired, ?_⟩
      · rw [releaseAll_cons, release_eq_some hhead]
        exact hall
      · rw [hreleased, strike, List.append_assoc, List.singleton_append]

/-! ## Balance -/

omit [DecidableEq R] in
/-- A ledger is balanced when nothing is held any more. -/
theorem balanced_iff : ledger.Balanced ↔ ∀ resource, ¬ ledger.Holds resource := by
  rw [Balanced, List.perm_ext_iff_of_nodup ledger.released_nodup
    ledger.acquired_nodup]
  constructor
  · intro hsame resource hheld
    exact hheld.2 ((hsame resource).mpr hheld.1)
  · intro hnone resource
    constructor
    · exact fun hmem => ledger.released_subset hmem
    · intro hmem
      by_contra hkept
      exact hnone resource ⟨hmem, hkept⟩

/-- Whatever was acquired has been released exactly once. -/
theorem Balanced.count_released (hbalanced : ledger.Balanced)
    (hacquired : resource ∈ ledger.acquired) :
    ledger.released.count resource = 1 :=
  List.count_eq_one_of_mem ledger.released_nodup
    (hbalanced.mem_iff.mpr hacquired)

end Ledger

end PaxosPersistence.ResourceLedger
