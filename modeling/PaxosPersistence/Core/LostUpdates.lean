import Mathlib

/-!
# Updates that get lost

Several agents update one variable, each by a read and a later write of the
successor of what was read.  An update whose variable was written in between is
stale, and with it every update made in between is lost.  A tally follows how
many updates there have been and how many of them the variable shows.
-/

namespace PaxosPersistence.LostUpdates

open Function

/-- `version` counts the writes to the variable; an agent that has read it
remembers the version and the number of updates it saw. -/
structure Tally (Agent : Type*) where
  due : ℕ
  count : ℕ
  stale : ℕ
  version : ℕ
  seen : Agent → Option (ℕ × ℕ)

namespace Tally

variable {Agent : Type*}

def start (Agent : Type*) : Tally Agent where
  due := 0
  count := 0
  stale := 0
  version := 0
  seen := fun _ => none

def load [DecidableEq Agent] (tally : Tally Agent) (agent : Agent) :
    Tally Agent :=
  { tally with
    seen := update tally.seen agent (some (tally.version, tally.count)) }

def store [DecidableEq Agent] (tally : Tally Agent) (agent : Agent) :
    Tally Agent :=
  match tally.seen agent with
  | none => tally
  | some (version, count) =>
      { due := tally.due + 1
        count := count + 1
        stale :=
          if version = tally.version then tally.stale else tally.stale + 1
        version := tally.version + 1
        seen := update tally.seen agent none }

/-- The variable is set back. -/
def reset (tally : Tally Agent) : Tally Agent :=
  { tally with
    due := 0
    count := 0
    version := tally.version + 1 }

/-- Without stale updates the variable shows all of them. -/
structure Exact (tally : Tally Agent) : Prop where
  count_eq : tally.stale = 0 → tally.count = tally.due
  version_le : ∀ agent version count,
    tally.seen agent = some (version, count) → version ≤ tally.version
  fresh : ∀ agent count,
    tally.seen agent = some (tally.version, count) → count = tally.count

/-- As long as the variable is not set back, each stale update leaves it short
of the updates for good. -/
structure Short (tally : Tally Agent) : Prop where
  count_le : tally.count ≤ tally.due
  count_lt : 0 < tally.stale → tally.count < tally.due
  outdated : ∀ agent version count,
    tally.seen agent = some (version, count) → version ≠ tally.version →
      count < tally.due

theorem exact_start : Exact (start Agent) where
  count_eq _ := rfl
  version_le agent version count hseen := by cases hseen
  fresh agent count hseen := by cases hseen

theorem short_start : Short (start Agent) where
  count_le := le_rfl
  count_lt hstale := absurd hstale (lt_irrefl 0)
  outdated agent version count hseen := by cases hseen

variable {tally : Tally Agent}

theorem Exact.reset (hexact : Exact tally) : Exact tally.reset where
  count_eq _ := rfl
  version_le agent version count hseen :=
    (hexact.version_le agent version count hseen).trans (Nat.le_succ _)
  fresh agent count hseen :=
    absurd (hexact.version_le agent _ count hseen) (Nat.not_succ_le_self _)

/-- An update is lost exactly if one is stale. -/
theorem count_eq_due_iff (hexact : Exact tally) (hshort : Short tally) :
    tally.count = tally.due ↔ tally.stale = 0 := by
  constructor
  · intro hcount
    by_contra hstale
    exact (hshort.count_lt (Nat.pos_of_ne_zero hstale)).ne hcount
  · exact hexact.count_eq

section Steps

variable [DecidableEq Agent]

/-- What an agent has seen after another's read, or its own. -/
theorem seen_load {agent other : Agent} {version count : ℕ}
    (hseen : (tally.load agent).seen other = some (version, count)) :
    (version = tally.version ∧ count = tally.count) ∨
      tally.seen other = some (version, count) := by
  change update tally.seen agent _ other = _ at hseen
  by_cases hother : other = agent
  · rw [hother, update_self] at hseen
    cases hseen
    exact Or.inl ⟨rfl, rfl⟩
  · rw [update_of_ne hother] at hseen
    exact Or.inr hseen

theorem seen_of_update_none {agent other : Agent} {seen : ℕ × ℕ}
    (hseen : update tally.seen agent none other = some seen) :
    tally.seen other = some seen := by
  by_cases hother : other = agent
  · rw [hother, update_self] at hseen
    cases hseen
  · rw [update_of_ne hother] at hseen
    exact hseen

theorem Exact.load (hexact : Exact tally) (agent : Agent) :
    Exact (tally.load agent) where
  count_eq := hexact.count_eq
  version_le other version count hseen := by
    rcases seen_load hseen with ⟨rfl, -⟩ | hbefore
    · exact le_rfl
    · exact hexact.version_le other version count hbefore
  fresh other count hseen := by
    rcases seen_load hseen with ⟨-, rfl⟩ | hbefore
    · rfl
    · exact hexact.fresh other count hbefore

theorem Exact.store (hexact : Exact tally) (agent : Agent) :
    Exact (tally.store agent) := by
  rw [Tally.store]
  split
  · exact hexact
  · next version count hseen =>
    have hle := hexact.version_le agent version count hseen
    exact
      { count_eq := fun hstale => by
          by_cases hversion : version = tally.version
          · subst hversion
            have hbefore : tally.stale = 0 := by simpa using hstale
            change count + 1 = tally.due + 1
            rw [hexact.fresh agent count hseen, hexact.count_eq hbefore]
          · simp [hversion] at hstale
        version_le := fun other later shown hother =>
          (hexact.version_le other later shown
            (seen_of_update_none hother)).trans (Nat.le_succ _)
        fresh := fun other shown hother => by
          have hbefore := hexact.version_le other _ shown
            (seen_of_update_none hother)
          exact absurd hbefore (Nat.not_succ_le_self _) }

theorem Short.load (hshort : Short tally) (agent : Agent) :
    Short (tally.load agent) where
  count_le := hshort.count_le
  count_lt := hshort.count_lt
  outdated other version count hseen hversion := by
    rcases seen_load hseen with ⟨hsame, -⟩ | hbefore
    · exact absurd hsame hversion
    · exact hshort.outdated other version count hbefore hversion

theorem Short.store (hshort : Short tally) (hexact : Exact tally)
    (agent : Agent) : Short (tally.store agent) := by
  rw [Tally.store]
  split
  · exact hshort
  · next version count hseen =>
    -- Whatever another agent has seen is outdated by this write.
    have houtdated (other : Agent) (later shown : ℕ)
        (hother : tally.seen other = some (later, shown)) :
        shown < tally.due + 1 := by
      by_cases hlater : later = tally.version
      · subst hlater
        rw [hexact.fresh other shown hother]
        exact Nat.lt_succ_of_le hshort.count_le
      · exact Nat.lt_succ_of_lt
          (hshort.outdated other later shown hother hlater)
    exact
      { count_le := houtdated agent version count hseen
        count_lt := fun hstale => Nat.succ_lt_succ (by
          by_cases hversion : version = tally.version
          · subst hversion
            rw [hexact.fresh agent count hseen]
            exact hshort.count_lt (by simpa using hstale)
          · exact hshort.outdated agent version count hseen hversion)
        outdated := fun other later shown hother _ =>
          houtdated other later shown (seen_of_update_none hother) }

end Steps

end Tally

end PaxosPersistence.LostUpdates
