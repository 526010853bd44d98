import Mathlib

/-!
# Reads of a growing log

A log grows while it is read.  Reads are consistent with it when each is
explained by some beginning of the log, and no read is explained by a shorter
beginning than the read before it.
-/

namespace PaxosPersistence.GrowingLog

variable {Entry Entry' Read Item : Type*}
variable {Explains : Read → List Entry → Prop}
variable {log : List Entry} {reads : List Read}

/-- The read is explained by this many entries of the log. -/
def ExplainedBy (Explains : Read → List Entry → Prop) (log : List Entry)
    (read : Read) (count : ℕ) : Prop :=
  count ≤ log.length ∧ Explains read (log.take count)

/-- Successive reads are explained by beginnings that never shrink. -/
def PrefixReads (Explains : Read → List Entry → Prop) (log : List Entry)
    (reads : List Read) : Prop :=
  ∃ counts : List ℕ, counts.Pairwise (· ≤ ·) ∧
    List.Forall₂ (ExplainedBy Explains log) reads counts

theorem prefixReads_nil (Explains : Read → List Entry → Prop)
    (log : List Entry) : PrefixReads Explains log [] :=
  ⟨[], List.Pairwise.nil, List.Forall₂.nil⟩

/-- What has been read stays explained when the log grows. -/
theorem PrefixReads.append_log (hreads : PrefixReads Explains log reads)
    (more : List Entry) : PrefixReads Explains (log ++ more) reads := by
  obtain ⟨counts, hsorted, hexplained⟩ := hreads
  refine ⟨counts, hsorted, hexplained.imp ?_⟩
  intro read count hread
  constructor
  · rw [List.length_append]
    exact Nat.le_add_right_of_le hread.1
  · rw [List.take_append_of_le_length hread.1]
    exact hread.2

theorem count_le_of_forall₂ {counts : List ℕ}
    (hexplained : List.Forall₂ (ExplainedBy Explains log) reads counts) :
    ∀ count ∈ counts, count ≤ log.length := by
  induction hexplained with
  | nil => exact fun _ hcount => absurd hcount List.not_mem_nil
  | cons hread _ ih =>
      intro count hcount
      rcases List.mem_cons.mp hcount with rfl | hrest
      · exact hread.1
      · exact ih count hrest

/-- A read of the whole log comes after all others. -/
theorem PrefixReads.concat (hreads : PrefixReads Explains log reads)
    {read : Read} (hread : Explains read log) :
    PrefixReads Explains log (reads ++ [read]) := by
  obtain ⟨counts, hsorted, hexplained⟩ := hreads
  refine ⟨counts ++ [log.length], ?_, ?_⟩
  · apply List.pairwise_append.mpr
    refine ⟨hsorted, List.pairwise_singleton _ _, ?_⟩
    intro count hcount last hlast
    rw [List.mem_singleton.mp hlast]
    exact count_le_of_forall₂ hexplained count hcount
  · apply List.rel_append hexplained
    apply List.Forall₂.cons _ List.Forall₂.nil
    constructor
    · exact le_rfl
    · rwa [List.take_length]

/-- The first reads of a list of reads. -/
theorem PrefixReads.of_append {more : List Read}
    (hreads : PrefixReads Explains log (reads ++ more)) :
    PrefixReads Explains log reads := by
  obtain ⟨counts, hsorted, hexplained⟩ := hreads
  refine ⟨counts.take reads.length, hsorted.take, ?_⟩
  have htaken := List.forall₂_take reads.length hexplained
  rwa [List.take_left] at htaken

/-- Other reads of another log are explained alike when every beginning of the
first log explains the one as it explains the other. -/
theorem PrefixReads.transfer {Read' : Type*}
    {Explains' : Read' → List Entry' → Prop} {log' : List Entry'}
    {items : List Item} {first : Item → Read} {second : Item → Read'}
    (hreads : PrefixReads Explains log (items.map first))
    (hlength : log.length ≤ log'.length)
    (hexplains : ∀ item ∈ items, ∀ count, count ≤ log.length →
      Explains (first item) (log.take count) →
        Explains' (second item) (log'.take count)) :
    PrefixReads Explains' log' (items.map second) := by
  obtain ⟨counts, hsorted, hexplained⟩ := hreads
  refine ⟨counts, hsorted, List.forall₂_map_left_iff.mpr ?_⟩
  have hitems := (List.forall₂_and_left _ _).mpr
    ⟨hexplains, List.forall₂_map_left_iff.mp hexplained⟩
  apply hitems.imp
  intro item count hitem
  obtain ⟨hexplains, hcount, hread⟩ := hitem
  exact ⟨hcount.trans hlength, hexplains count hcount hread⟩

end PaxosPersistence.GrowingLog
