import PaxosPersistence.Core.LostUpdates
import PaxosPersistence.Core.Machine
import PaxosPersistence.Kernel.KernelDevice

/-!
# The counters of the read test device

`messagesReceived++` in `read_test_write` and `messagesFound++` in
`wait_response` are plain increments of two `int`s, the second by all workers
of the pool, and `read_test_open` sets both back without waiting for anyone.
What `read_test_release` prints is right as long as no increment is stale.
-/

namespace PaxosPersistence.TestCounters

open Function
open PaxosPersistence.KernelDevice
open PaxosPersistence.LostUpdates
open PaxosPersistence.Machine
open PaxosPersistence.Memory
open PaxosPersistence.PaxosTypes

/-- An `int` that several threads increment, and what each of them has read of
it.  The code has no `tally`. -/
structure SharedInt where
  value : Word32
  loaded : ℕ → Option Word32
  tally : Tally ℕ

namespace SharedInt

def start : SharedInt where
  value := 0
  loaded := fun _ => none
  tally := Tally.start ℕ

variable (counter : SharedInt) (thread : ℕ)

def load : SharedInt :=
  { counter with
    loaded := update counter.loaded thread (some counter.value)
    tally := counter.tally.load thread }

def store : SharedInt :=
  match counter.loaded thread with
  | none => counter
  | some value =>
      { value := value + 1
        loaded := update counter.loaded thread none
        tally := counter.tally.store thread }

def clear : SharedInt :=
  { counter with
    value := 0
    tally := counter.tally.reset }

/-- The `int` after some increments that were not lost. -/
def shown (count : ℕ) : Word32 := BitVec.ofNat 32 count

/-- The `int` shows what the tally counts, and so does what threads have
read. -/
structure Counts : Prop where
  value_eq : counter.value = shown counter.tally.count
  loaded_eq : ∀ thread, counter.loaded thread =
    (counter.tally.seen thread).map fun seen => shown seen.2
  exact : counter.tally.Exact

theorem counts_start : Counts start where
  value_eq := rfl
  loaded_eq _ := rfl
  exact := Tally.exact_start

variable {counter}

theorem Counts.load (hcounts : Counts counter) :
    Counts (counter.load thread) where
  value_eq := hcounts.value_eq
  loaded_eq other := by
    change update counter.loaded thread _ other =
      (update counter.tally.seen thread _ other).map _
    by_cases hother : other = thread
    · rw [hother, update_self, update_self, hcounts.value_eq]
      rfl
    · rw [update_of_ne hother, update_of_ne hother]
      exact hcounts.loaded_eq other
  exact := hcounts.exact.load thread

theorem Counts.store (hcounts : Counts counter) :
    Counts (counter.store thread) := by
  have hloaded := hcounts.loaded_eq thread
  rw [SharedInt.store]
  split
  · exact hcounts
  · next value hvalue =>
    rw [hvalue] at hloaded
    obtain ⟨⟨version, count⟩, hseen, rfl⟩ :=
      Option.map_eq_some_iff.mp hloaded.symm
    have hstore : counter.tally.store thread =
        { due := counter.tally.due + 1
          count := count + 1
          stale :=
            if version = counter.tally.version then counter.tally.stale
            else counter.tally.stale + 1
          version := counter.tally.version + 1
          seen := update counter.tally.seen thread none } := by
      simp only [Tally.store, hseen]
    exact
      { value_eq := by
          rw [hstore]
          exact (BitVec.ofNat_add count 1).symm
        loaded_eq := fun other => by
          rw [hstore]
          change update counter.loaded thread none other =
            (update counter.tally.seen thread none other).map _
          by_cases hother : other = thread
          · rw [hother, update_self, update_self]
            rfl
          · rw [update_of_ne hother, update_of_ne hother]
            exact hcounts.loaded_eq other
        exact := hcounts.exact.store thread }

theorem Counts.clear (hcounts : Counts counter) : Counts counter.clear where
  value_eq := rfl
  loaded_eq := hcounts.loaded_eq
  exact := hcounts.exact.reset

end SharedInt

/-- The read test device and its two counters. -/
structure Counters where
  readTestDevice : PaxosKernelDevice
  messagesReceived : SharedInt
  messagesFound : SharedInt

/-- The state after a first `read_test_open`. -/
def Counters.start (readTestDevice : PaxosKernelDevice) : Counters where
  readTestDevice := { readTestDevice with charMutex := true }
  messagesReceived := SharedInt.start
  messagesFound := SharedInt.start

inductive CounterAction where
  | tryOpen
  | release
  /-- `messagesReceived` is read for an increment, and then written. -/
  | beginReceived (thread : ℕ)
  | endReceived (thread : ℕ)
  /-- `messagesFound` likewise. -/
  | beginFound (worker : ℕ)
  | endFound (worker : ℕ)
  deriving DecidableEq

/-- What `read_test_release` prints. -/
structure Printed where
  messagesReceived : Word32
  messagesFound : Word32
  deriving DecidableEq

/-- `read_test_open` -/
def readTestOpen (state : Counters) : Counters :=
  let opened := state.readTestDevice.deviceOpen
  if opened.2 ≠ 0 then { state with readTestDevice := opened.1 }
  else
    { readTestDevice := opened.1
      messagesReceived := state.messagesReceived.clear
      messagesFound := state.messagesFound.clear }

/-- `read_test_release` -/
def readTestRelease (state : Counters) : Counters × Printed :=
  ({ state with
      readTestDevice := { state.readTestDevice with charMutex := false } },
    { messagesReceived := state.messagesReceived.value
      messagesFound := state.messagesFound.value })

def counters : Step Counters CounterAction Printed Halt
  | state, .tryOpen => .ok (readTestOpen state, [])
  | state, .release =>
      let (next, printed) := readTestRelease state
      .ok (next, [printed])
  | state, .beginReceived thread =>
      .ok ({ state with
        messagesReceived := state.messagesReceived.load thread }, [])
  | state, .endReceived thread =>
      .ok ({ state with
        messagesReceived := state.messagesReceived.store thread }, [])
  | state, .beginFound worker =>
      .ok ({ state with messagesFound := state.messagesFound.load worker }, [])
  | state, .endFound worker =>
      .ok ({ state with
        messagesFound := state.messagesFound.store worker }, [])

/-! ## What is printed -/

/-- Both counters have some property. -/
structure Counters.Both (state : Counters) (holds : SharedInt → Prop) :
    Prop where
  received : holds state.messagesReceived
  found : holds state.messagesFound

/-- Each step does to a counter one of three things. -/
theorem both_step {state next : Counters} {action : CounterAction}
    {events : List Printed} {holds : SharedInt → Prop}
    (hload : ∀ counter thread, holds counter → holds (counter.load thread))
    (hstore : ∀ counter thread, holds counter → holds (counter.store thread))
    (hclear : action = .tryOpen → state.readTestDevice.charMutex = false →
      ∀ counter, holds counter → holds counter.clear)
    (hboth : state.Both holds)
    (hstep : counters state action = .ok (next, events)) : next.Both holds := by
  cases action with
  | tryOpen =>
      cases hstep
      rw [readTestOpen]
      split
      · exact ⟨hboth.received, hboth.found⟩
      · next hopened =>
        have hfree : state.readTestDevice.charMutex = false := by
          by_contra hheld
          rw [Bool.not_eq_false] at hheld
          rw [PaxosKernelDevice.deviceOpen, if_pos hheld] at hopened
          exact hopened (show -PaxosKernelDevice.ebusy ≠ 0 by decide)
        exact ⟨hclear rfl hfree _ hboth.received, hclear rfl hfree _ hboth.found⟩
  | release =>
      cases hstep
      exact ⟨hboth.received, hboth.found⟩
  | beginReceived thread =>
      cases hstep
      exact ⟨hload _ thread hboth.received, hboth.found⟩
  | endReceived thread =>
      cases hstep
      exact ⟨hstore _ thread hboth.received, hboth.found⟩
  | beginFound worker =>
      cases hstep
      exact ⟨hboth.received, hload _ worker hboth.found⟩
  | endFound worker =>
      cases hstep
      exact ⟨hboth.received, hstore _ worker hboth.found⟩

theorem counters_ok (state : Counters) (action : CounterAction) :
    ∃ next events, counters state action = .ok (next, events) := by
  cases action with
  | _ => exact ⟨_, _, rfl⟩

/-- While the device is held, nobody sets the counters back. -/
structure Held (state : Counters) : Prop where
  charMutex_eq : state.readTestDevice.charMutex = true
  both : state.Both fun counter => counter.tally.Exact ∧ counter.tally.Short

theorem Held.step {state next : Counters} {action : CounterAction}
    {events : List Printed} (hheld : Held state) (haction : action ≠ .release)
    (hstep : counters state action = .ok (next, events)) : Held next where
  charMutex_eq := by
    cases action with
    | release => exact absurd rfl haction
    | tryOpen =>
        cases hstep
        rw [readTestOpen, PaxosKernelDevice.deviceOpen,
          if_pos hheld.charMutex_eq]
        exact hheld.charMutex_eq
    | _ =>
        cases hstep
        exact hheld.charMutex_eq
  both := by
    apply both_step _ _ _ hheld.both hstep
    · exact fun counter thread hcounter =>
        ⟨hcounter.1.load thread, hcounter.2.load thread⟩
    · intro counter thread hcounter
      rw [SharedInt.store]
      split
      · exact hcounter
      · exact ⟨hcounter.1.store thread,
          hcounter.2.store hcounter.1 thread⟩
    · intro _ hfree
      rw [hheld.charMutex_eq] at hfree
      exact Bool.noConfusion hfree

theorem both_counts_step {state : Counters} (action : CounterAction)
    (hboth : state.Both SharedInt.Counts) :
    ∃ next events, counters state action = .ok (next, events) ∧
      next.Both SharedInt.Counts := by
  obtain ⟨next, events, hstep⟩ := counters_ok state action
  refine ⟨next, events, hstep, both_step ?_ ?_ ?_ hboth hstep⟩
  · exact fun _ thread hcounter => hcounter.load thread
  · exact fun _ thread hcounter => hcounter.store thread
  · exact fun _ _ _ hcounter => hcounter.clear

theorem held_of_run {readTestDevice : PaxosKernelDevice}
    {actions : List CounterAction} {state : Counters} {events : List Printed}
    (hrun : run counters (Counters.start readTestDevice) actions =
      .ok (state, events)) (hactions : .release ∉ actions) : Held state := by
  have hstart : Held (Counters.start readTestDevice) :=
    { charMutex_eq := rfl
      both := ⟨⟨Tally.exact_start, Tally.short_start⟩,
        ⟨Tally.exact_start, Tally.short_start⟩⟩ }
  exact @invariant_of_run_eq_ok _ _ _ _ counters (fun state _ => Held state)
    (fun action => action ≠ .release)
    (fun _ _ _ _ _ hheld haction hstep => hheld.step haction hstep) _ _ [] _ _
    hstart (fun _ haction => ne_of_mem_of_not_mem haction hactions) hrun

/-- Whatever threads and sessions do, each counter shows all increments since
the last opening if none was stale.  As long as the device has never been
released, it falls short of them exactly if one was stale, and for good.  After
a release this is no longer so: an increment begun before the next opening
brings back what the opening has cleared. -/
theorem counters_show (readTestDevice : PaxosKernelDevice)
    (actions : List CounterAction) :
    ∃ state events,
      run counters (Counters.start readTestDevice) actions =
        .ok (state, events) ∧
      state.Both fun counter =>
        counter.value = SharedInt.shown counter.tally.count ∧
        (counter.tally.stale = 0 → counter.tally.count = counter.tally.due) ∧
        (.release ∉ actions →
          counter.tally.count ≤ counter.tally.due ∧
          (counter.tally.count = counter.tally.due ↔
            counter.tally.stale = 0)) := by
  obtain ⟨state, events, hrun, hcounts⟩ :=
    @run_of_total _ _ _ _ counters
      (fun state _ => state.Both SharedInt.Counts)
      (fun _ _ action hboth => both_counts_step action hboth)
      (Counters.start readTestDevice) []
      ⟨SharedInt.counts_start, SharedInt.counts_start⟩ actions
  have hshort (counter : SharedInt)
      (hheld : .release ∉ actions →
        counter.tally.Exact ∧ counter.tally.Short) :
      .release ∉ actions → counter.tally.count ≤ counter.tally.due ∧
        (counter.tally.count = counter.tally.due ↔
          counter.tally.stale = 0) := by
    intro hactions
    obtain ⟨hexact, hshort⟩ := hheld hactions
    exact ⟨hshort.count_le, Tally.count_eq_due_iff hexact hshort⟩
  refine ⟨state, events, hrun, ⟨?_, ?_⟩⟩
  · exact ⟨hcounts.received.value_eq, hcounts.received.exact.count_eq,
      hshort _ fun hactions => (held_of_run hrun hactions).both.received⟩
  · exact ⟨hcounts.found.value_eq, hcounts.found.exact.count_eq,
      hshort _ fun hactions => (held_of_run hrun hactions).both.found⟩

end PaxosPersistence.TestCounters
