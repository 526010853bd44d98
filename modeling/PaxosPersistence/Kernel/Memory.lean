import PaxosPersistence.Core.ByteBlock

/-!
# Faults and copies between user and kernel memory

An execution of C code may come to an end that no return value describes: an
access outside its object, a failed assertion, a call on a dead transaction.
The two copy routines of the kernel do not end an execution; they report how
many bytes they could not copy.
-/

namespace PaxosPersistence.Memory

open PaxosPersistence.ByteBlock

/-- The ways an execution breaks off. -/
inductive Halt where
  | memory
  | assertion
  | transaction
  deriving DecidableEq

/-- An access that must lie inside its object. -/
def checked {A : Type*} : Option A → Except Halt A
  | some value => .ok value
  | none => .error .memory

@[simp]
theorem checked_some {A : Type*} (value : A) :
    checked (some value) = .ok value := rfl

@[simp]
theorem checked_none {A : Type*} :
    checked (none : Option A) = .error .memory := rfl

theorem checked_eq_ok {A : Type*} {result : Option A} {value : A} :
    checked result = .ok value ↔ result = some value := by
  cases result with
  | none => exact iff_of_false (fun herror => nomatch herror) (by simp)
  | some other => simp

/-- Two executions in sequence come to an end if each of them does. -/
theorem bind_eq_ok {A B : Type} {first : Except Halt A}
    {second : A → Except Halt B} {result : B} :
    first >>= second = .ok result ↔
      ∃ value, first = .ok value ∧ second value = .ok result := by
  cases first with
  | error halt => exact iff_of_false (fun herror => nomatch herror) (by simp)
  | ok value => simp [bind, Except.bind]

/-- `copy_to_user`: all but the last `uncopied` bytes of `source` arrive at
`offset`, and the number of missing bytes is returned.  The destination is the
memory of the process from its buffer on, so that a copy may run past it. -/
def copyToUser (buffer : List Byte) (offset : ℕ) (source : List Byte)
    (uncopied : ℕ) : List Byte × ℕ :=
  (overwrite offset (source.take (source.length - uncopied)) buffer,
    min uncopied source.length)

/-- `copy_from_user`: the bytes that end up in the destination, the missing
ones padded with zeros, and the number of missing bytes.  What the process has
not mapped is missing too. -/
def copyFromUser (buffer : List Byte) (offset count uncopied : ℕ) :
    List Byte × ℕ :=
  let copied := (slice offset count buffer).take (count - uncopied)
  (copied ++ List.replicate (count - copied.length) 0, count - copied.length)

theorem copyToUser_zero (buffer : List Byte) (offset : ℕ)
    (source : List Byte) :
    copyToUser buffer offset source 0 = (overwrite offset source buffer, 0) := by
  simp [copyToUser]

/-- A copy reported as complete is one without faults. -/
theorem copyToUser_of_complete {buffer : List Byte} {offset : ℕ}
    {source : List Byte} {uncopied : ℕ}
    (hcomplete : (copyToUser buffer offset source uncopied).2 = 0) :
    (copyToUser buffer offset source uncopied).1 =
      overwrite offset source buffer := by
  simp only [copyToUser] at hcomplete ⊢
  rw [List.take_of_length_le (by omega)]

@[simp]
theorem length_copyFromUser (buffer : List Byte)
    (offset count uncopied : ℕ) :
    (copyFromUser buffer offset count uncopied).1.length = count := by
  simp only [copyFromUser, List.length_append, List.length_take,
    length_slice, List.length_replicate]
  omega

theorem copyFromUser_zero {buffer : List Byte} {offset count : ℕ}
    (hmapped : offset + count ≤ buffer.length) :
    copyFromUser buffer offset count 0 = (slice offset count buffer, 0) := by
  have hlength : (slice offset count buffer).length = count :=
    length_slice_of_le hmapped
  simp [copyFromUser, List.take_of_length_le hlength.le, hlength]

/-- A copy reported as complete delivered the bytes asked for. -/
theorem copyFromUser_of_complete {buffer : List Byte}
    {offset count uncopied : ℕ}
    (hcomplete : (copyFromUser buffer offset count uncopied).2 = 0) :
    (copyFromUser buffer offset count uncopied).1 =
      slice offset count buffer := by
  simp only [copyFromUser] at hcomplete ⊢
  have hlength : (slice offset count buffer).length ≤ count := by
    rw [length_slice]
    exact Nat.min_le_left _ _
  have htake : (slice offset count buffer).take (count - uncopied) =
      slice offset count buffer := by
    apply List.take_of_length_le
    rw [List.length_take] at hcomplete
    omega
  rw [htake] at hcomplete ⊢
  rw [hcomplete, List.replicate_zero, List.append_nil]

end PaxosPersistence.Memory
