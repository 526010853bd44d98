import PaxosPersistence.Core.Machine

/-!
# Progress of a machine

Some actions of a machine help it towards a goal; the others must not set it
back.  A rank bounds how many helpful actions are still needed.  Whatever else
happens in between, and however the actions are interleaved, the goal is
reached once as many helpful actions have been taken as the rank says.
-/

namespace PaxosPersistence.Progress

open PaxosPersistence.Machine

variable {State Action Event Error : Type*}
variable {step : Step State Action Event Error}

/-- One step under the invariant succeeds and keeps it; a helpful one lowers
the rank, and no other raises it. -/
def Descends (step : Step State Action Event Error)
    (Inv : State → List Event → Prop) (rank : State → List Event → ℕ)
    (helps : Action → Bool) (state : State) (history : List Event)
    (action : Action) : Prop :=
  ∃ next events, step state action = .ok (next, events) ∧
    Inv next (history ++ events) ∧
    rank next (history ++ events) ≤
      rank state history - if helps action then 1 else 0

/-- Every helpful action of a run is a step down. -/
theorem run_of_descends {Inv : State → List Event → Prop}
    {rank : State → List Event → ℕ} {helps : Action → Bool}
    {Allowed : Action → Prop}
    (hstep : ∀ state history action, Inv state history → Allowed action →
      Descends step Inv rank helps state history action)
    {state : State} {history : List Event} {actions : List Action}
    (hinv : Inv state history) (hallowed : ∀ action ∈ actions, Allowed action) :
    ∃ last events, run step state actions = .ok (last, events) ∧
      Inv last (history ++ events) ∧
      rank last (history ++ events) ≤
        rank state history - actions.countP helps := by
  induction actions generalizing state history with
  | nil => exact ⟨state, [], rfl, by simpa using hinv, by simp⟩
  | cons action actions ih =>
      obtain ⟨next, first, hnext, hkept, hdown⟩ := hstep state history action
        hinv (hallowed action List.mem_cons_self)
      obtain ⟨last, later, hlater, hlast, hrank⟩ := ih hkept fun other hother =>
        hallowed other (List.mem_cons_of_mem _ hother)
      refine ⟨last, first ++ later,
        run_cons_eq_ok.mpr ⟨next, first, later, hnext, hlater, rfl⟩, ?_, ?_⟩
      · rwa [← List.append_assoc]
      · rw [← List.append_assoc, List.countP_cons]
        omega

/-- Enough helpful actions bring the rank to zero. -/
theorem run_reaches {Inv : State → List Event → Prop}
    {rank : State → List Event → ℕ} {helps : Action → Bool}
    {Allowed : Action → Prop}
    (hstep : ∀ state history action, Inv state history → Allowed action →
      Descends step Inv rank helps state history action)
    {state : State} {history : List Event} {actions : List Action}
    (hinv : Inv state history) (hallowed : ∀ action ∈ actions, Allowed action)
    (henough : rank state history ≤ actions.countP helps) :
    ∃ last events, run step state actions = .ok (last, events) ∧
      Inv last (history ++ events) ∧ rank last (history ++ events) = 0 := by
  obtain ⟨last, events, hrun, hlast, hrank⟩ :=
    run_of_descends hstep hinv hallowed
  exact ⟨last, events, hrun, hlast, by omega⟩

/-! ## Work in rounds of equal length -/

/-- The helpful actions still needed when each of `total` items takes a round of
`length` of them, `done` items are finished, and `offset` actions of the next
round have been taken. -/
def remaining (length total done offset : ℕ) : ℕ :=
  length * (total - done) - offset

section Remaining

variable {length total done offset : ℕ}

theorem remaining_of_done (hdone : total ≤ done) :
    remaining length total done offset = 0 := by
  rw [remaining, Nat.sub_eq_zero_of_le hdone, Nat.mul_zero, Nat.zero_sub]

/-- As long as a round is not over, something remains of it. -/
theorem le_of_remaining_eq_zero (hoffset : offset < length)
    (hzero : remaining length total done offset = 0) : total ≤ done := by
  by_contra hopen
  have hone : length * 1 ≤ length * (total - done) :=
    Nat.mul_le_mul_left length (by omega)
  rw [remaining] at hzero
  omega

theorem remaining_advance :
    remaining length total done (offset + 1) =
      remaining length total done offset - 1 := by
  rw [remaining, remaining, Nat.sub_add_eq]

/-- The last action of a round finishes an item. -/
theorem remaining_finish (hround : offset + 1 = length) :
    remaining length total (done + 1) 0 ≤
      remaining length total done offset - 1 := by
  rcases Nat.lt_or_ge done total with hopen | hdone
  · have hsplit : total - done = total - (done + 1) + 1 := by omega
    rw [remaining, remaining, hsplit, Nat.mul_add, Nat.mul_one]
    omega
  · rw [remaining_of_done (Nat.le_succ_of_le hdone)]
    exact Nat.zero_le _

end Remaining

end PaxosPersistence.Progress
