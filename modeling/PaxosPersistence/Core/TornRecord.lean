import Mathlib

/-!
# Records that are rewritten word by word

The words of a record are read and written one at a time.  A writer who
replaces one version by another first blanks all words and then stores those of
the new version.  At any moment the record is one version with some words
blanked, and the version changes only while every word is blank.  A history
that says when it changes then determines every word a reader finds.
-/

namespace PaxosPersistence.TornRecord

open Function

section Words

variable {Word Value : Type*} {blank version next words : Word → Value}

/-- The words of a version, some of them blanked. -/
def Blanked (blank version words : Word → Value) : Prop :=
  ∀ word, words word = version word ∨ words word = blank word

theorem blanked_self (blank version : Word → Value) :
    Blanked blank version version :=
  fun _ => Or.inl rfl

/-- The version may change while every word is blank. -/
theorem blanked_of_eq_blank (hblank : words = blank)
    (version : Word → Value) : Blanked blank version words :=
  fun word => Or.inr (congrFun hblank word)

theorem Blanked.clear [DecidableEq Word] (hblanked : Blanked blank version words)
    (word : Word) : Blanked blank version (update words word (blank word)) := by
  intro other
  by_cases hother : other = word
  · subst hother
    exact Or.inr (update_self _ _ _)
  · rw [update_of_ne hother]
    exact hblanked other

theorem Blanked.store [DecidableEq Word] (hblanked : Blanked blank version words)
    (word : Word) :
    Blanked blank version (update words word (version word)) := by
  intro other
  by_cases hother : other = word
  · subst hother
    exact Or.inl (update_self _ _ _)
  · rw [update_of_ne hother]
    exact hblanked other

/-- What is not blank belongs to the version. -/
theorem Blanked.eq_of_ne_blank (hblanked : Blanked blank version words)
    {word : Word} (hword : words word ≠ blank word) :
    words word = version word :=
  (hblanked word).resolve_right hword

end Words

/-! ## The version in effect -/

section Latest

variable {Event Version : Type*}

/-- The version that has come into effect last. -/
def latest (select : Event → Option Version) (start : Version)
    (history : List Event) : Version :=
  (history.filterMap select).getLast?.getD start

variable {select : Event → Option Version} {start : Version}

@[simp]
theorem latest_nil : latest select start [] = start := rfl

theorem latest_append_of_none {events : List Event} (history : List Event)
    (hnone : ∀ event ∈ events, select event = none) :
    latest select start (history ++ events) =
      latest select start history := by
  have hevents : events.filterMap select = [] :=
    List.filterMap_eq_nil_iff.mpr hnone
  rw [latest, latest, List.filterMap_append, hevents, List.append_nil]

theorem latest_concat_of_some {event : Event} {version : Version}
    (history : List Event) (hselect : select event = some version) :
    latest select start (history ++ [event]) = version := by
  have hevent : [event].filterMap select = [version] := by
    rw [List.filterMap_cons_some hselect, List.filterMap_nil]
  rw [latest, List.filterMap_append, hevent, List.getLast?_concat,
    Option.getD_some]

end Latest

end PaxosPersistence.TornRecord
