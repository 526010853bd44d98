import Mathlib

/-!
# Sleeping until a condition holds

A process that waits enters a queue, tests its condition, and if the condition
does not hold prepares to sleep.  Whoever makes it hold wakes the queue
afterwards.  A wake-up leaves a mark on everyone in the queue, and nobody who is
marked goes to sleep or sleeps on: he tests again.  A sleep may also expire, and
then the test is the last.  This much is assumed of whoever keeps the queue.

The condition belongs to a state that others change at will, so that the rules
below are about the waiter, the condition, and whether a wake-up is still to
come.
-/

namespace PaxosPersistence.WaitQueue

inductive WaitPhase where
  | outside
  | testing
  /-- The condition did not hold when it was tested. -/
  | deciding
  | asleep
  /-- The sleep has expired. -/
  | expired
  deriving DecidableEq

structure Waiter where
  phase : WaitPhase
  triggered : Bool
  deriving DecidableEq

def Waiter.outside : Waiter := ⟨.outside, false⟩

/-! ## The keeper of the queue -/

structure WaitApi where
  enter : Waiter → Waiter
  /-- A step of the waiter himself, with his condition, and whether he has found
  that it holds. -/
  advance : Waiter → Bool → Waiter × Bool
  /-- The queue is woken. -/
  wake : Waiter → Waiter
  /-- The time of the waiter has elapsed. -/
  expire : Waiter → Waiter

/-- Whoever enters tests his condition, and leaves if it holds.  Else he goes to
sleep, unless he has been marked since; then he tests again, and so does a
sleeper who is marked.  A wake-up marks everyone in the queue, and only a
sleeper runs out of time. -/
structure WaitApi.Documented (queue : WaitApi) : Prop where
  enter_outside : ∀ waiter, waiter.phase = .outside →
    queue.enter waiter = ⟨.testing, false⟩
  enter_inside : ∀ waiter, waiter.phase ≠ .outside →
    queue.enter waiter = waiter
  advance_outside : ∀ waiter ready, waiter.phase = .outside →
    queue.advance waiter ready = (waiter, false)
  advance_holds : ∀ waiter, waiter.phase = .testing →
    queue.advance waiter true = (.outside, true)
  advance_fails : ∀ waiter, waiter.phase = .testing →
    queue.advance waiter false = ({ waiter with phase := .deciding }, false)
  advance_marked : ∀ waiter ready,
    waiter.phase = .deciding ∨ waiter.phase = .asleep →
    waiter.triggered = true →
    queue.advance waiter ready = (⟨.testing, false⟩, false)
  advance_unmarked : ∀ waiter ready,
    waiter.phase = .deciding ∨ waiter.phase = .asleep →
    waiter.triggered = false →
    queue.advance waiter ready = ({ waiter with phase := .asleep }, false)
  advance_expired : ∀ waiter ready, waiter.phase = .expired →
    queue.advance waiter ready = (.outside, ready)
  wake_outside : ∀ waiter, waiter.phase = .outside → queue.wake waiter = waiter
  wake_inside : ∀ waiter, waiter.phase ≠ .outside →
    queue.wake waiter = { waiter with triggered := true }
  expire_asleep : ∀ waiter, waiter.phase = .asleep →
    queue.expire waiter = { waiter with phase := .expired }
  expire_awake : ∀ waiter, waiter.phase ≠ .asleep →
    queue.expire waiter = waiter

def markedSleepers : WaitApi where
  enter waiter :=
    if waiter.phase = .outside then ⟨.testing, false⟩ else waiter
  advance waiter ready :=
    match waiter.phase with
    | .outside => (waiter, false)
    | .testing =>
        if ready then (.outside, true)
        else ({ waiter with phase := .deciding }, false)
    | .deciding | .asleep =>
        if waiter.triggered then (⟨.testing, false⟩, false)
        else ({ waiter with phase := .asleep }, false)
    | .expired => (.outside, ready)
  wake waiter :=
    if waiter.phase = .outside then waiter
    else { waiter with triggered := true }
  expire waiter :=
    if waiter.phase = .asleep then { waiter with phase := .expired }
    else waiter

theorem documented_markedSleepers : markedSleepers.Documented where
  enter_outside _ houtside := if_pos houtside
  enter_inside _ hinside := if_neg hinside
  advance_outside waiter ready houtside := by
    simp only [markedSleepers, houtside]
  advance_holds waiter htesting := by
    simp only [markedSleepers, htesting, if_true]
  advance_fails waiter htesting := by
    simp only [markedSleepers, htesting]
    rfl
  advance_marked waiter ready hphase hmarked := by
    rcases hphase with hphase | hphase <;>
      simp only [markedSleepers, hphase, hmarked, if_true]
  advance_unmarked waiter ready hphase hunmarked := by
    rcases hphase with hphase | hphase <;>
      simp [markedSleepers, hphase, hunmarked]
  advance_expired waiter ready hexpired := by
    simp only [markedSleepers, hexpired]
  wake_outside _ houtside := if_pos houtside
  wake_inside _ hinside := if_neg hinside
  expire_asleep _ hasleep := if_pos hasleep
  expire_awake _ hawake := if_neg hawake

/-! ## Wake-ups -/

namespace Waiter

/-- Whoever sleeps, or is about to, although the condition holds, is marked or
will be. -/
def Watched (ready pending : Bool) (waiter : Waiter) : Prop :=
  waiter.phase = .deciding ∨ waiter.phase = .asleep → ready = true →
    waiter.triggered = true ∨ pending = true

variable {queue : WaitApi} {ready pending later : Bool} {waiter : Waiter}

/-- Whoever finds that the condition holds has left the queue. -/
theorem outside_of_advance (hqueue : queue.Documented)
    (hfound : (queue.advance waiter ready).2 = true) :
    ready = true ∧ (queue.advance waiter ready).1 = outside := by
  by_cases hsleepy : waiter.phase = .deciding ∨ waiter.phase = .asleep
  · cases hmark : waiter.triggered with
    | true =>
        rw [hqueue.advance_marked _ _ hsleepy hmark] at hfound
        cases hfound
    | false =>
        rw [hqueue.advance_unmarked _ _ hsleepy hmark] at hfound
        cases hfound
  · cases hphase : waiter.phase with
    | outside =>
        rw [hqueue.advance_outside _ _ hphase] at hfound
        cases hfound
    | testing =>
        cases ready with
        | true => exact ⟨rfl, by rw [hqueue.advance_holds _ hphase]⟩
        | false =>
            rw [hqueue.advance_fails _ hphase] at hfound
            cases hfound
    | expired =>
        rw [hqueue.advance_expired _ _ hphase] at hfound ⊢
        exact ⟨hfound, rfl⟩
    | deciding => exact absurd (Or.inl hphase) hsleepy
    | asleep => exact absurd (Or.inr hphase) hsleepy

theorem expire_of_outside (hqueue : queue.Documented)
    (houtside : waiter.phase = .outside) : queue.expire waiter = waiter :=
  hqueue.expire_awake _ (by rw [houtside]; exact WaitPhase.noConfusion)

/-- Nothing is asked of a waiter who does not sleep. -/
theorem watched_of_awake (hdeciding : waiter.phase ≠ .deciding)
    (hasleep : waiter.phase ≠ .asleep) : Watched ready pending waiter :=
  fun hphase => (hphase.elim hdeciding hasleep).elim

theorem watched_outside : Watched ready pending outside :=
  watched_of_awake (by decide) (by decide)

theorem watched_testing (triggered : Bool) :
    Watched ready pending ⟨.testing, triggered⟩ :=
  watched_of_awake WaitPhase.noConfusion WaitPhase.noConfusion

theorem Watched.enter (hwatched : Watched ready pending waiter)
    (hqueue : queue.Documented) :
    Watched ready pending (queue.enter waiter) := by
  by_cases houtside : waiter.phase = .outside
  · rw [hqueue.enter_outside _ houtside]
    exact watched_testing false
  · rwa [hqueue.enter_inside _ houtside]

/-- A waiter on his own sleeps only if the condition did not hold. -/
theorem Watched.advance (hwatched : Watched ready pending waiter)
    (hqueue : queue.Documented) :
    Watched ready pending (queue.advance waiter ready).1 := by
  by_cases hsleepy : waiter.phase = .deciding ∨ waiter.phase = .asleep
  · cases hmark : waiter.triggered with
    | true =>
        rw [hqueue.advance_marked _ _ hsleepy hmark]
        exact watched_testing false
    | false =>
        rw [hqueue.advance_unmarked _ _ hsleepy hmark]
        exact fun _ hready => hwatched hsleepy hready
  · cases hphase : waiter.phase with
    | outside =>
        rw [hqueue.advance_outside _ _ hphase]
        exact hwatched
    | testing =>
        cases ready with
        | true =>
            rw [hqueue.advance_holds _ hphase]
            exact watched_outside
        | false =>
            rw [hqueue.advance_fails _ hphase]
            exact fun _ hready => Bool.noConfusion hready
    | expired =>
        rw [hqueue.advance_expired _ _ hphase]
        exact watched_outside
    | deciding => exact absurd (Or.inl hphase) hsleepy
    | asleep => exact absurd (Or.inr hphase) hsleepy

/-- A wake-up marks everyone there. -/
theorem watched_wake (hqueue : queue.Documented) (ready pending : Bool)
    (waiter : Waiter) : Watched ready pending (queue.wake waiter) := by
  by_cases houtside : waiter.phase = .outside
  · rw [hqueue.wake_outside _ houtside]
    apply watched_of_awake <;> rw [houtside] <;> exact WaitPhase.noConfusion
  · rw [hqueue.wake_inside _ houtside]
    exact fun _ _ => Or.inl rfl

theorem Watched.expire (hwatched : Watched ready pending waiter)
    (hqueue : queue.Documented) :
    Watched ready pending (queue.expire waiter) := by
  by_cases hasleep : waiter.phase = .asleep
  · rw [hqueue.expire_asleep _ hasleep]
    exact watched_of_awake WaitPhase.noConfusion WaitPhase.noConfusion
  · rwa [hqueue.expire_awake _ hasleep]

/-- Others may make the condition hold if they then still have to wake the
queue. -/
theorem Watched.change {ready' pending' : Bool}
    (hwatched : Watched ready pending waiter)
    (hready : ready' = true → ready = true ∨ pending' = true)
    (hpending : pending = true → pending' = true) :
    Watched ready' pending' waiter := by
  intro hphase hholds
  rcases hready hholds with hbefore | hlater
  · exact (hwatched hphase hbefore).imp id hpending
  · exact Or.inr hlater

/-- When the condition holds and no wake-up is to come, whoever is in the queue
finds out by himself. -/
theorem Watched.finds (hwatched : Watched true false waiter)
    (hqueue : queue.Documented) (hinside : waiter.phase ≠ .outside) :
    (queue.advance waiter true).2 = true ∨
      (queue.advance (queue.advance waiter true).1 true).2 = true := by
  by_cases hsleepy : waiter.phase = .deciding ∨ waiter.phase = .asleep
  · have hmarked : waiter.triggered = true :=
      (hwatched hsleepy rfl).resolve_right Bool.noConfusion
    rw [hqueue.advance_marked _ _ hsleepy hmarked]
    exact Or.inr (by rw [hqueue.advance_holds _ rfl])
  · cases hphase : waiter.phase with
    | outside => exact absurd hphase hinside
    | testing => exact Or.inl (by rw [hqueue.advance_holds _ hphase])
    | expired => exact Or.inl (by rw [hqueue.advance_expired _ _ hphase])
    | deciding => exact absurd (Or.inl hphase) hsleepy
    | asleep => exact absurd (Or.inr hphase) hsleepy

end Waiter

end PaxosPersistence.WaitQueue
