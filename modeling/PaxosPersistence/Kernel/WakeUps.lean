import PaxosPersistence.Core.WaitQueue
import PaxosPersistence.Kernel.Publication

/-!
# Waiting for a message

The storage thread waits in `poll`, which enters the queue of the device, tests
`used_buf`, and sleeps if there is nothing.  Both add handlers count the message
first and wake the queue last.  Here the statements of a poll fall between those
of an addition.  No wake-up is lost: once an addition has returned, its message
is found by whoever waits, without the help of the timeout.
-/

namespace PaxosPersistence.WakeUps

open PaxosPersistence.AddStatements
open PaxosPersistence.AddStatements.AddStatement
open PaxosPersistence.ByteBlock
open PaxosPersistence.KernelDevice
open PaxosPersistence.Machine
open PaxosPersistence.Memory
open PaxosPersistence.PaxosTypes
open PaxosPersistence.Publication
open PaxosPersistence.ReadPersistence
open PaxosPersistence.WaitQueue
open PaxosPersistence.WritePersistence

/-- The ring and the queue of the device, in which its one consumer waits. -/
structure Polling where
  ring : Ring
  waiter : Waiter

def Polling.start (device : PaxosKernelDevice) (queue : List (List Byte)) :
    Polling where
  ring := Ring.start device queue
  waiter := Waiter.outside

inductive PollAction where
  | enter (msg : List Byte)
  /-- The next statement of the running addition; the last one is the
  wake-up. -/
  | statement
  /-- The consumer calls `poll`. -/
  | poll
  /-- The next step inside `poll`. -/
  | advance
  /-- The timeout of `poll` has elapsed. -/
  | expire
  | read (buffer : List Byte) (faults : ReadFaults)
  | answer (buffer : List Byte) (len : ℕ) (faults : WriteFaults)

/-- All statements of the addition but the wake-up have been executed. -/
def wakes (ring : Ring) : Bool :=
  match ring.adding with
  | some ⟨_, _, []⟩ => true
  | _ => false

/-- A step of the ring alone. -/
def Polling.publish (kind : DeviceKind) (state : Polling)
    (action : PublishAction) : Except Halt (Polling × List Empty) := do
  let (ring, events) ← Publication.publish kind state.ring action
  return ({ state with ring }, events)

/-- `waiting` is the kernel's part in a poll and in a wake-up. -/
def wakeUps (waiting : WaitApi) (kind : DeviceKind) :
    Step Polling PollAction Empty Halt
  | state, .enter msg => state.publish kind (.enter msg)
  | state, .statement => do
      let (next, events) ← state.publish kind .statement
      return ({ next with
        waiter :=
          if wakes state.ring then waiting.wake state.waiter
          else state.waiter },
        events)
  | state, .poll =>
      if state.ring.consumer = .idle then
        .ok ({ state with waiter := waiting.enter state.waiter }, [])
      else .ok (state, [])
  | state, .advance =>
      let (waiter, reported) :=
        waiting.advance state.waiter state.ring.device.devicePoll
      let next := { state with waiter }
      -- `POLLIN` is reported on the test of this very step
      if reported then next.publish kind .poll else .ok (next, [])
  | state, .expire =>
      .ok ({ state with waiter := waiting.expire state.waiter }, [])
  | state, .read buffer faults => state.publish kind (.read buffer faults)
  | state, .answer buffer len faults =>
      state.publish kind (.answer buffer len faults)

/-! ## No wake-up is lost -/

/-- An addition has counted its message and will wake the queue. -/
def pending (ring : Ring) : Bool :=
  match ring.adding with
  | some add => decide (.countMessage ∉ add.rest)
  | none => false

structure Awaited (kind : DeviceKind) (state : Polling) : Prop where
  /-- What is left of an addition is an end of its statements. -/
  adding : ∀ add, state.ring.adding = some add →
    add.rest <:+ kind.statements
  /-- The consumer is in one place at a time. -/
  consumer : state.ring.consumer ≠ .idle → state.waiter.phase = .outside
  watched : state.waiter.Watched state.ring.device.devicePoll
    (pending state.ring)

theorem awaited_start (kind : DeviceKind) (device : PaxosKernelDevice)
    (queue : List (List Byte)) : Awaited kind (Polling.start device queue) where
  adding add hadding := by cases hadding
  consumer hconsumer := absurd rfl hconsumer
  watched := Waiter.watched_outside

theorem nodup_statements (kind : DeviceKind) : kind.statements.Nodup := by
  cases kind <;> decide

section Steps

variable {waiting : WaitApi} {kind : DeviceKind} {state next : Polling}
variable {events : List Empty}

theorem publish_eq_ok {action : PublishAction}
    (hpublish : state.publish kind action = .ok (next, events)) :
    ∃ ring, Publication.publish kind state.ring action = .ok (ring, events) ∧
      next = { state with ring } := by
  obtain ⟨⟨ring, later⟩, hring, hreturned⟩ := bind_eq_ok.mp hpublish
  cases hreturned
  exact ⟨ring, hring, rfl⟩

/-- What happens to the device is no matter of a consumer that has left the
queue. -/
theorem Awaited.serve {ring : Ring} (hawaited : Awaited kind state)
    (houtside : state.waiter.phase = .outside)
    (hadding : ring.adding = state.ring.adding) :
    Awaited kind { state with ring } where
  adding add hadd := hawaited.adding add (hadding.symm.trans hadd)
  consumer _ := houtside
  watched := Waiter.watched_of_awake
    (by rw [houtside]; exact WaitPhase.noConfusion)
    (by rw [houtside]; exact WaitPhase.noConfusion)

theorem Awaited.enter {msg : List Byte} (hawaited : Awaited kind state)
    (hstep : state.publish kind (.enter msg) = .ok (next, events)) :
    Awaited kind next := by
  obtain ⟨ring, hring, rfl⟩ := publish_eq_ok hstep
  rw [publish] at hring
  split at hring
  · cases hring
    exact hawaited
  · next hidle =>
    split at hring
    · cases hring
      exact hawaited
    · cases hring
      exact
        { adding := fun add hadd => by
            cases hadd
            exact List.suffix_rfl
          consumer := hawaited.consumer
          watched := hawaited.watched.change Or.inl fun hpending => by
            rw [pending, hidle] at hpending
            exact Bool.noConfusion hpending }

/-- The count is what a poll tests. -/
theorem devicePoll_congr {device device' : PaxosKernelDevice}
    (hused : device'.usedBuf = device.usedBuf) :
    device'.devicePoll = device.devicePoll := by
  rw [PaxosKernelDevice.devicePoll, PaxosKernelDevice.devicePoll, hused]

/-- Counting a message announces a wake-up, and every other statement leaves
both the count and the announcement. -/
theorem watched_statement {device : PaxosKernelDevice} {msg : List Byte}
    {locals after : Locals} {statement : AddStatement}
    {rest : List AddStatement}
    (hawaited : Awaited kind state)
    (hadding : state.ring.adding = some ⟨msg, locals, statement :: rest⟩)
    (hexecute : execute state.ring.device msg locals statement =
      .ok (device, after)) :
    state.waiter.Watched device.devicePoll
      (decide (.countMessage ∉ rest)) := by
  obtain ⟨block, -, rfl⟩ := execute_eq_ok hexecute
  have hnodup : (statement :: rest).Nodup :=
    (nodup_statements kind).sublist (hawaited.adding _ hadding).sublist
  have hwatched := hawaited.watched
  rw [pending, hadding] at hwatched
  by_cases hcount : statement = .countMessage
  · subst hcount
    exact hwatched.change
      (fun _ => Or.inr (decide_eq_true (List.nodup_cons.mp hnodup).1))
      (fun _ => decide_eq_true (List.nodup_cons.mp hnodup).1)
  · rw [devicePoll_congr (setFields_usedBuf _ _ hcount)]
    refine hwatched.change Or.inl fun hannounced => decide_eq_true ?_
    exact fun hrest =>
      of_decide_eq_true hannounced (List.mem_cons_of_mem _ hrest)

theorem Awaited.statement (hawaited : Awaited kind state)
    (hwaiting : waiting.Documented)
    (hstep : wakeUps waiting kind state .statement = .ok (next, events)) :
    Awaited kind next := by
  obtain ⟨⟨published, later⟩, hpublish, hreturned⟩ := bind_eq_ok.mp hstep
  obtain ⟨ring, hring, rfl⟩ := publish_eq_ok hpublish
  cases hreturned
  rw [publish] at hring
  split at hring
  · next hidle =>
    cases hring
    rw [wakes, hidle]
    exact hawaited
  · next hadding =>
    cases hring
    rw [wakes, hadding]
    exact
      { adding := fun add hadd => by cases hadd
        consumer := fun hconsumer => by
          rw [if_pos rfl, hwaiting.wake_outside _ (hawaited.consumer hconsumer)]
          exact hawaited.consumer hconsumer
        watched := Waiter.watched_wake hwaiting _ _ _ }
  · next msg locals statement rest hadding =>
    obtain ⟨⟨device, after⟩, hexecute, hreturned⟩ := bind_eq_ok.mp hring
    cases hreturned
    have hwatched := watched_statement hawaited hadding hexecute
    rw [wakes, hadding]
    exact
      { adding := fun add hadd => by
          cases hadd
          exact (List.suffix_cons _ _).trans (hawaited.adding _ hadding)
        consumer := hawaited.consumer
        watched := hwatched }

theorem Awaited.advance (hawaited : Awaited kind state)
    (hwaiting : waiting.Documented)
    (hstep : wakeUps waiting kind state .advance = .ok (next, events)) :
    Awaited kind next := by
  rw [wakeUps] at hstep
  dsimp only at hstep
  split at hstep
  · next hfound =>
    obtain ⟨ring, hring, rfl⟩ := publish_eq_ok hstep
    cases hring
    obtain ⟨-, houtside⟩ := Waiter.outside_of_advance hwaiting hfound
    rw [houtside]
    exact
      { adding := hawaited.adding
        consumer := fun _ => rfl
        watched := Waiter.watched_outside }
  · cases hstep
    exact
      { adding := hawaited.adding
        consumer := fun hconsumer => by
          change (waiting.advance state.waiter _).1.phase = .outside
          rw [hwaiting.advance_outside _ _ (hawaited.consumer hconsumer)]
          exact hawaited.consumer hconsumer
        watched := hawaited.watched.advance hwaiting }

theorem Awaited.poll (hawaited : Awaited kind state)
    (hwaiting : waiting.Documented)
    (hstep : wakeUps waiting kind state .poll = .ok (next, events)) :
    Awaited kind next := by
  rw [wakeUps] at hstep
  split at hstep
  · next hidle =>
    cases hstep
    exact
      { adding := hawaited.adding
        consumer := fun hconsumer => absurd hidle hconsumer
        watched := hawaited.watched.enter hwaiting }
  · cases hstep
    exact hawaited

theorem Awaited.expire (hawaited : Awaited kind state)
    (hwaiting : waiting.Documented) :
    Awaited kind { state with waiter := waiting.expire state.waiter } where
  adding := hawaited.adding
  consumer hconsumer := by
    rw [Waiter.expire_of_outside hwaiting (hawaited.consumer hconsumer)]
    exact hawaited.consumer hconsumer
  watched := hawaited.watched.expire hwaiting

theorem Awaited.read {buffer : List Byte} {faults : ReadFaults}
    (hawaited : Awaited kind state)
    (hstep : state.publish kind (.read buffer faults) = .ok (next, events)) :
    Awaited kind next := by
  obtain ⟨ring, hring, rfl⟩ := publish_eq_ok hstep
  rw [publish] at hring
  split at hring
  · cases hring
    exact hawaited
  · next hpolled =>
    have houtside := hawaited.consumer
      (by rw [not_not.mp hpolled]; exact ConsumerPhase.noConfusion)
    obtain ⟨served, hread, hreturned⟩ := bind_eq_ok.mp hring
    cases hreturned
    cases kind with
    | write =>
        obtain ⟨device, -, hreturned⟩ := bind_eq_ok.mp hread
        cases hreturned
        exact hawaited.serve houtside rfl
    | read =>
        obtain ⟨device, -, hreturned⟩ := bind_eq_ok.mp hread
        cases hreturned
        exact hawaited.serve houtside rfl

theorem Awaited.answer {buffer : List Byte} {len : ℕ} {faults : WriteFaults}
    (hawaited : Awaited kind state)
    (hstep : state.publish kind (.answer buffer len faults) =
      .ok (next, events)) :
    Awaited kind next := by
  obtain ⟨ring, hring, rfl⟩ := publish_eq_ok hstep
  rw [publish] at hring
  split at hring
  · cases hring
    exact hawaited
  · next hserving =>
    have houtside := hawaited.consumer (by
      rw [not_not.mp (not_or.mp hserving).2]
      exact ConsumerPhase.noConfusion)
    obtain ⟨device, -, hreturned⟩ := bind_eq_ok.mp hring
    cases hreturned
    exact hawaited.serve houtside rfl

theorem Awaited.step {action : PollAction} (hawaited : Awaited kind state)
    (hwaiting : waiting.Documented)
    (hstep : wakeUps waiting kind state action = .ok (next, events)) :
    Awaited kind next := by
  cases action with
  | enter msg => exact hawaited.enter hstep
  | statement => exact hawaited.statement hwaiting hstep
  | poll => exact hawaited.poll hwaiting hstep
  | advance => exact hawaited.advance hwaiting hstep
  | expire =>
      cases hstep
      exact hawaited.expire hwaiting
  | read buffer faults => exact hawaited.read hstep
  | answer buffer len faults => exact hawaited.answer hstep

end Steps

theorem advance_of_found {waiting : WaitApi} (hwaiting : waiting.Documented)
    {kind : DeviceKind} {state : Polling}
    (hfound : (waiting.advance state.waiter
      state.ring.device.devicePoll).2 = true) :
    wakeUps waiting kind state .advance =
      .ok (⟨{ state.ring with consumer := .polled }, Waiter.outside⟩, []) := by
  obtain ⟨hready, houtside⟩ := Waiter.outside_of_advance hwaiting hfound
  rw [wakeUps]
  dsimp only
  rw [if_pos hfound, houtside, Polling.publish, publish]
  simp [hready]

theorem advance_of_not_found {waiting : WaitApi} {kind : DeviceKind}
    {state : Polling} (hfound : (waiting.advance state.waiter
      state.ring.device.devicePoll).2 = false) :
    wakeUps waiting kind state .advance =
      .ok ({ state with
        waiter := (waiting.advance state.waiter
          state.ring.device.devicePoll).1 }, []) := by
  rw [wakeUps]
  dsimp only
  rw [if_neg (by rw [hfound]; exact Bool.noConfusion)]

/-- Whatever has been interleaved, once every addition that has counted its
message has returned, a consumer inside `poll` reports `POLLIN` within two
steps of its own, though the timeout never elapses. -/
theorem no_lost_wake_up {waiting : WaitApi} (hwaiting : waiting.Documented)
    {kind : DeviceKind} {device : PaxosKernelDevice}
    {queue : List (List Byte)} {actions : List PollAction} {state : Polling}
    {events : List Empty}
    (hrun : run (wakeUps waiting kind) (Polling.start device queue) actions =
      .ok (state, events))
    (hinside : state.waiter.phase ≠ .outside)
    (hmessage : 0 < state.ring.device.usedBuf)
    (hreturned : pending state.ring = false) :
    ∃ count, count ≤ 2 ∧
      run (wakeUps waiting kind) state (List.replicate count .advance) =
        .ok (⟨{ state.ring with consumer := .polled }, Waiter.outside⟩, []) := by
  have hawaited : Awaited kind state :=
    state_invariant_of_run_eq_ok (Awaited kind)
      (fun _ _ _ _ hbefore hstep => hbefore.step hwaiting hstep)
      (awaited_start kind device queue) hrun
  have hready : state.ring.device.devicePoll = true := decide_eq_true hmessage
  have hwatched := hawaited.watched
  rw [hready, hreturned] at hwatched
  cases hfound : (waiting.advance state.waiter true).2 with
  | true =>
      refine ⟨1, by decide, ?_⟩
      have hfirst := @advance_of_found waiting hwaiting kind state
        (by rw [hready, hfound])
      exact run_cons_eq_ok.mpr ⟨_, _, _, hfirst, rfl, rfl⟩
  | false =>
      refine ⟨2, le_rfl, ?_⟩
      have hsecond := (hwatched.finds hwaiting hinside).resolve_left
        (by rw [hfound]; exact Bool.noConfusion)
      have hfirst := @advance_of_not_found waiting kind state
        (by rw [hready, hfound])
      rw [hready] at hfirst
      have hlast := @advance_of_found waiting hwaiting kind
        { state with waiter := (waiting.advance state.waiter true).1 }
        (by rw [hready, hsecond])
      exact run_cons_eq_ok.mpr ⟨_, _, _, hfirst,
        run_cons_eq_ok.mpr ⟨_, _, _, hlast, rfl, rfl⟩, rfl⟩

/-- The consumer tests an empty ring, a message is counted, and the consumer
goes to sleep before the addition returns. -/
def sleepingRun : List PollAction :=
  [.poll, .advance, .enter countedMessage, .statement, .advance] ++
    List.replicate 10 .statement

theorem no_lost_wake_up_sleepingRun : ∃ state : Polling,
    state.waiter.phase = .asleep ∧ ∃ count, count ≤ 2 ∧
      run (wakeUps markedSleepers .write) state (List.replicate count .advance) =
        .ok (⟨{ state.ring with consumer := .polled }, Waiter.outside⟩, []) := by
  have hobserved : observeRun (wakeUps markedSleepers .write)
      (fun state _ =>
        (state.waiter.phase, state.ring.device.usedBuf, pending state.ring))
      (Polling.start (kdevcharInit zeroMemory) []) sleepingRun =
        some (.asleep, 1, false) := by
    decide +kernel
  obtain ⟨state, events, hrun, hview⟩ := run_of_observeRun hobserved
  obtain ⟨hphase, hview⟩ := Prod.mk.inj hview
  obtain ⟨hused, hpending⟩ := Prod.mk.inj hview
  exact ⟨state, hphase, no_lost_wake_up documented_markedSleepers hrun
    (by rw [hphase]; exact WaitPhase.noConfusion) (by rw [hused]; decide)
    hpending⟩

end PaxosPersistence.WakeUps
