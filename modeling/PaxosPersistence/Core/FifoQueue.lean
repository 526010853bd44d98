import Mathlib

/-!
# Histories of a first-in first-out queue

The observable history of a queue is a list of insertions, removals and
clearings.  Replaying it against a list decides whether every removal took the
oldest element then present; in a history that replays, nothing is removed
that was not inserted, nothing is removed twice and nothing is overtaken.
-/

namespace PaxosPersistence.FifoQueue

variable {A : Type*} [DecidableEq A]

inductive QueueEvent (A : Type*) where
  | push (value : A)
  | pop (value : A)
  | clear
  deriving DecidableEq

/-- The elements left after a history, if every removal was of the oldest. -/
def replay : List A → List (QueueEvent A) → Option (List A)
  | queue, [] => some queue
  | queue, .push value :: events => replay (queue ++ [value]) events
  | [], .pop _ :: _ => none
  | head :: queue, .pop value :: events =>
      if value = head then replay queue events else none
  | _, .clear :: events => replay [] events

@[simp]
theorem replay_nil (queue : List A) : replay queue [] = some queue := by
  cases queue <;> rfl

@[simp]
theorem replay_push (queue : List A) (value : A)
    (events : List (QueueEvent A)) :
    replay queue (.push value :: events) = replay (queue ++ [value]) events := by
  cases queue <;> rfl

@[simp]
theorem replay_pop_nil (value : A) (events : List (QueueEvent A)) :
    replay [] (.pop value :: events) = none := rfl

@[simp]
theorem replay_pop_cons (head : A) (queue : List A) (value : A)
    (events : List (QueueEvent A)) :
    replay (head :: queue) (.pop value :: events) =
      if value = head then replay queue events else none := rfl

@[simp]
theorem replay_clear (queue : List A) (events : List (QueueEvent A)) :
    replay queue (.clear :: events) = replay [] events := by
  cases queue <;> rfl

/-- A history replays in two parts. -/
theorem replay_append (queue : List A) (first second : List (QueueEvent A)) :
    replay queue (first ++ second) =
      (replay queue first).bind fun middle => replay middle second := by
  induction first generalizing queue with
  | nil => simp
  | cons event first ih =>
      cases event with
      | push value => simp [ih]
      | clear => simp [ih]
      | pop value =>
          cases queue with
          | nil => simp
          | cons head queue =>
              by_cases hvalue : value = head
              · simp [hvalue, ih]
              · simp [hvalue]

/-- The values inserted by a history. -/
def pushed (events : List (QueueEvent A)) : List A :=
  events.filterMap fun
    | .push value => some value
    | _ => none

/-- The values removed by a history. -/
def popped (events : List (QueueEvent A)) : List A :=
  events.filterMap fun
    | .pop value => some value
    | _ => none

/-- Without clearings, what was removed followed by what is left is what was
there followed by what was inserted. -/
theorem popped_append_of_replay {queue rest : List A}
    {events : List (QueueEvent A)} (hclear : .clear ∉ events)
    (hreplay : replay queue events = some rest) :
    popped events ++ rest = queue ++ pushed events := by
  induction events generalizing queue with
  | nil => simpa [popped, pushed] using hreplay.symm
  | cons event events ih =>
      rw [List.mem_cons, not_or] at hclear
      cases event with
      | clear => exact absurd rfl hclear.1
      | push value =>
          rw [replay_push] at hreplay
          simpa [popped, pushed] using ih hclear.2 hreplay
      | pop value =>
          cases queue with
          | nil => simp at hreplay
          | cons head queue =>
              rw [replay_pop_cons] at hreplay
              split at hreplay
              · rename_i hvalue
                subst hvalue
                simpa [popped, pushed] using ih hclear.2 hreplay
              · exact nomatch hreplay

end PaxosPersistence.FifoQueue
