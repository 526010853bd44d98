import PaxosPersistence.Core.FifoQueue
import PaxosPersistence.Core.Machine
import PaxosPersistence.Kernel.DeviceRing
import PaxosPersistence.Kernel.WritePersistence

/-!
# The accounting of the write ring

Any holder of the write persistence device may call its handlers in any order.
The admission test keeps the count below the size of the ring, but the read
handler decrements it without a test.  This module determines the call
sequences in which the count, the two indices and the delivered messages stay
in step: exactly those that never read the empty ring.
-/

namespace PaxosPersistence.WriteAccounting

open PaxosPersistence.ByteBlock
open PaxosPersistence.DeviceRing
open PaxosPersistence.FifoQueue
open PaxosPersistence.KernelDevice
open PaxosPersistence.Machine
open PaxosPersistence.Memory
open PaxosPersistence.PaxosTypes
open PaxosPersistence.RingWindow
open PaxosPersistence.WritePersistence

/-- A call of one of the handlers, with successful copies. -/
inductive WriteCall where
  | addMessage (msg : List Byte)
  | read (buffer : List Byte)
  | poll
  | release

/-- What the callers see happen to messages. -/
inductive WriteObservation where
  | accepted (msg : List Byte)
  | delivered (bytes : List Byte)
  | released

/-- One call.  The bytes delivered are those behind the slot index in the
caller's buffer, as many as the return value says. -/
def writeCall (device : PaxosKernelDevice) :
    WriteCall → Except Halt (PaxosKernelDevice × List WriteObservation)
  | .addMessage msg => do
      let (next, callback) ← writePersistenceAddMessage device msg
      return (next, if callback.isSome then [.accepted msg] else [])
  | .read buffer => do
      let (next, received, len) ←
        writePersistenceRead device buffer ReadFaults.none
      return (next,
        if device.working && 0 ≤ len then
          [.delivered ((received.drop sizeofInt).take len.toNat)]
        else [])
  | .poll => .ok (device, [])
  | .release => .ok (device.deviceRelease, [.released])

/-- The observations as the history of a queue of deliveries. -/
def WriteObservation.toQueueEvent : WriteObservation → QueueEvent (List Byte)
  | .accepted msg => .push (deliveredBytes msg)
  | .delivered bytes => .pop bytes
  | .released => .clear

/-- The counters of the device agree with the messages accepted and not yet
delivered since the last release, and every delivery so far was of the oldest
of them. -/
structure Accounted (device : PaxosKernelDevice)
    (history : List WriteObservation) : Prop where
  usedBuf_nonneg : 0 ≤ device.usedBuf
  usedBuf_le : device.usedBuf ≤ bufferSize
  currentBuf_eq : (device.currentBuf.val : ℤ) =
    (device.firstBuf.val + device.usedBuf) % bufferSize
  undelivered : ∃ queue,
    replay [] (history.map WriteObservation.toQueueEvent) = some queue ∧
      device.usedBuf = queue.length ∧
      (device.devicePoll = true ↔ queue ≠ [])

/-- A slot of the write ring represents a message as the add handler left
it. -/
def HoldsWrite (block : Block slotSize) (msg : List Byte) : Prop :=
  block = writeMessage msg

theorem currentBuf_of_ringHolds {device : PaxosKernelDevice}
    {queue : List (List Byte)} (hring : RingHolds HoldsWrite device queue) :
    (device.currentBuf.val : ℤ) =
      (device.firstBuf.val + device.usedBuf) % bufferSize := by
  rw [hring.usedBuf_eq, hring.occupies.current_eq]
  simp [advance]

theorem Accounted.of_ringHolds {device : PaxosKernelDevice}
    {queue : List (List Byte)} {history : List WriteObservation}
    (hring : RingHolds HoldsWrite device queue)
    (hreplay : replay [] (history.map WriteObservation.toQueueEvent) =
      some (queue.map deliveredBytes)) : Accounted device history where
  usedBuf_nonneg := by
    rw [hring.usedBuf_eq]
    exact Int.natCast_nonneg _
  usedBuf_le := by
    rw [hring.usedBuf_eq]
    exact Int.ofNat_le.mpr hring.length_le
  currentBuf_eq := currentBuf_of_ringHolds hring
  undelivered := ⟨queue.map deliveredBytes, hreplay,
    by rw [hring.usedBuf_eq, List.length_map],
    by rw [hring.devicePoll_iff, ne_eq, ne_eq, List.map_eq_nil_iff]⟩

/-- The invariant behind the accounting. -/
def Tracks (device : PaxosKernelDevice) (history : List WriteObservation) :
    Prop :=
  ∃ queue, RingHolds HoldsWrite device queue ∧
    replay [] (history.map WriteObservation.toQueueEvent) =
      some (queue.map deliveredBytes)

theorem replay_snoc {history : List WriteObservation}
    {queue : List (List Byte)} {observation : WriteObservation}
    (hreplay : replay [] (history.map WriteObservation.toQueueEvent) =
      some queue) :
    replay [] ((history ++ [observation]).map WriteObservation.toQueueEvent) =
      replay queue [observation.toQueueEvent] := by
  rw [List.map_append, replay_append, hreplay]
  rfl

theorem writeCall_addMessage {device : PaxosKernelDevice}
    {history : List WriteObservation} (htracks : Tracks device history)
    (msg : List Byte) :
    ∃ next events, writeCall device (.addMessage msg) = .ok (next, events) ∧
      Tracks next (history ++ events) := by
  obtain ⟨queue, hring, hreplay⟩ := htracks
  by_cases hfree : queue.length < bufferSize
  · have hadd := writePersistenceAddMessage_eq
      (hring.usedBuf_lt_iff.mpr hfree) msg
    refine ⟨device.enqueue (writeMessage msg), [.accepted msg], ?_,
      queue ++ [msg], hring.enqueue hfree rfl, ?_⟩
    · rw [writeCall, hadd]
      rfl
    · rw [replay_snoc hreplay]
      simp [WriteObservation.toQueueEvent]
  · have hfull := writePersistenceAddMessage_full
      (not_lt.mp (mt hring.usedBuf_lt_iff.mp hfree)) msg
    refine ⟨device, [], ?_, queue, hring, by simpa using hreplay⟩
    rw [writeCall, hfull]
    rfl

/-- Reading a ring that holds a message delivers the oldest one. -/
theorem writeCall_read {device : PaxosKernelDevice}
    {history : List WriteObservation} (htracks : Tracks device history)
    (hpending : 0 < device.usedBuf) (buffer : List Byte) :
    ∃ next events, writeCall device (.read buffer) = .ok (next, events) ∧
      Tracks next (history ++ events) := by
  obtain ⟨queue, hring, hreplay⟩ := htracks
  cases queue with
  | nil =>
      rw [hring.usedBuf_eq] at hpending
      exact absurd hpending (lt_irrefl 0)
  | cons msg queue =>
      have hread := writePersistenceRead_eq hring.working_eq hring.head buffer
      have hreceived := take_drop_received device.firstBuf msg buffer
      refine ⟨device.dequeue, [.delivered (deliveredBytes msg)], ?_,
        queue, hring.dequeue, ?_⟩
      · rw [writeCall, hread]
        simp [bind, Except.bind, pure, Except.pure, hring.working_eq,
          hreceived]
      · rw [replay_snoc hreplay]
        simp [WriteObservation.toQueueEvent]

/-- A read call finds a message to deliver. -/
def ReadsPending (device : PaxosKernelDevice)
    (_history : List WriteObservation) : WriteCall → Prop
  | .read _ => 0 < device.usedBuf
  | _ => True

theorem writeCall_tracks (device : PaxosKernelDevice)
    (history : List WriteObservation) (call : WriteCall)
    (htracks : Tracks device history)
    (hguard : ReadsPending device history call) :
    ∃ next events, writeCall device call = .ok (next, events) ∧
      Tracks next (history ++ events) := by
  cases call with
  | addMessage msg => exact writeCall_addMessage htracks msg
  | read buffer => exact writeCall_read htracks hguard buffer
  | poll => exact ⟨device, [], rfl, by simpa using htracks⟩
  | release =>
      obtain ⟨queue, hring, hreplay⟩ := htracks
      refine ⟨device.deviceRelease, [.released], rfl, [],
        hring.deviceRelease, ?_⟩
      rw [replay_snoc hreplay]
      rfl

theorem tracks_kdevcharInit (memory : DeviceMemory) :
    Tracks (kdevcharInit memory) [] :=
  ⟨[], RingHolds.kdevcharInit memory, rfl⟩

/-- A read call seen from the handler it calls. -/
theorem writeCall_read_eq_ok {device next : PaxosKernelDevice}
    {buffer : List Byte} {events : List WriteObservation}
    (hcall : writeCall device (.read buffer) = .ok (next, events)) :
    ∃ received len, writePersistenceRead device buffer ReadFaults.none =
      .ok (next, received, len) := by
  rw [writeCall] at hcall
  obtain ⟨⟨after, received, len⟩, hread, hreturned⟩ := bind_eq_ok.mp hcall
  cases hreturned
  exact ⟨received, len, hread⟩

theorem writeCall_working {device next : PaxosKernelDevice}
    {call : WriteCall} {events : List WriteObservation}
    (hworking : device.working = true)
    (hcall : writeCall device call = .ok (next, events)) :
    next.working = true := by
  cases call with
  | addMessage msg =>
      rw [writeCall] at hcall
      obtain ⟨⟨after, callback⟩, hadd, hreturned⟩ := bind_eq_ok.mp hcall
      cases hreturned
      obtain ⟨-, rfl⟩ | ⟨-, rfl⟩ := writePersistenceAddMessage_cases hadd
      · exact hworking
      · exact hworking
  | read buffer =>
      obtain ⟨received, len, hread⟩ := writeCall_read_eq_ok hcall
      rcases writePersistenceRead_cases hworking hread with
        ⟨-, rfl⟩ | ⟨-, rfl⟩ <;> exact hworking
  | poll =>
      obtain ⟨rfl, -⟩ := Prod.mk.inj (Except.ok.inj hcall)
      exact hworking
  | release =>
      obtain ⟨rfl, -⟩ := Prod.mk.inj (Except.ok.inj hcall)
      exact hworking

/-- A read of the empty ring leaves a negative count. -/
theorem usedBuf_of_read_empty {device next : PaxosKernelDevice}
    {buffer : List Byte} {events : List WriteObservation}
    (hworking : device.working = true) (hempty : device.usedBuf = 0)
    (hcall : writeCall device (.read buffer) = .ok (next, events)) :
    next.usedBuf = -1 := by
  obtain ⟨received, len, hread⟩ := writeCall_read_eq_ok hcall
  have hcount : atomicDec device.usedBuf = -1 := by
    rw [hempty]
    decide
  rcases writePersistenceRead_cases hworking hread with
    ⟨-, rfl⟩ | ⟨-, rfl⟩ <;> exact hcount

/-- The counters stay in step at every point of a sequence of calls. -/
def RunAccounted (memory : DeviceMemory) (calls : List WriteCall) : Prop :=
  ∀ before after, calls = before ++ after →
    ∃ device history, run writeCall (kdevcharInit memory) before =
      .ok (device, history) ∧ Accounted device history

theorem guarded_of_runAccounted {memory : DeviceMemory}
    {calls : List WriteCall} (haccounted : RunAccounted memory calls) :
    Guarded writeCall ReadsPending (kdevcharInit memory) [] calls := by
  intro before call after device history hsplit hrun
  cases call with
  | addMessage msg => trivial
  | poll => trivial
  | release => trivial
  | read buffer =>
      by_contra hempty
      obtain ⟨same, sameHistory, hsame, hbefore⟩ :=
        haccounted before (.read buffer :: after) hsplit
      obtain ⟨rfl, rfl⟩ := Prod.mk.inj (Except.ok.inj (hrun.symm.trans hsame))
      obtain ⟨next, nextHistory, hnext, hafter⟩ :=
        haccounted (before ++ [.read buffer]) after (by simpa using hsplit)
      obtain ⟨middle, first, second, hfirst, hstep, -⟩ :=
        run_concat_eq_ok.mp hnext
      obtain ⟨rfl, rfl⟩ := Prod.mk.inj (Except.ok.inj (hrun.symm.trans hfirst))
      have hworking := state_invariant_of_run_eq_ok
        (fun state => state.working = true)
        (fun _ _ _ _ => writeCall_working) (kdevcharInit_working memory) hrun
      have hnegative := usedBuf_of_read_empty hworking
        (le_antisymm (not_lt.mp hempty) hbefore.usedBuf_nonneg) hstep
      have hnonneg := hafter.usedBuf_nonneg
      omega

/-- The count, the indices and the deliveries stay in step along a sequence of
calls exactly when every read call of it finds a pending message. -/
theorem runAccounted_iff_guarded (memory : DeviceMemory)
    (calls : List WriteCall) :
    RunAccounted memory calls ↔
      Guarded writeCall ReadsPending (kdevcharInit memory) [] calls := by
  constructor
  · exact guarded_of_runAccounted
  · rintro hguarded before after rfl
    obtain ⟨device, history, hrun, queue, hring, hreplay⟩ := run_of_guarded
      writeCall_tracks (tracks_kdevcharInit memory) hguarded.of_append
    exact ⟨device, history, hrun, Accounted.of_ringHolds hring hreplay⟩

/-- One read call on the fresh device succeeds and puts the counters out of
step. -/
theorem read_fresh_not_accounted :
    ∃ device history,
      run writeCall (kdevcharInit zeroMemory) [.read (List.replicate 44 0)] =
        .ok (device, history) ∧
      device.usedBuf = -1 ∧ device.firstBuf = 1 ∧ device.currentBuf = 0 ∧
      ¬ RunAccounted zeroMemory [.read (List.replicate 44 0)] := by
  have hmessage : (kdevcharInit zeroMemory).msgBuf
      (kdevcharInit zeroMemory).firstBuf = Block.zero slotSize :=
    (kdevcharInit_ready zeroMemory _).message_eq
  have hllen : sizeOfLen (PaxosAccepted.ofImage ((kdevcharInit
      zeroMemory).msgBuf (kdevcharInit
        zeroMemory).firstBuf).toList).value.paxosValueLen = 40 := by
    rw [hmessage]
    decide +kernel
  have hread := writePersistenceRead_of_le (kdevcharInit_working zeroMemory)
    hllen (by simp [slotSize]) (List.replicate 44 0)
  have hrun : ∃ history, run writeCall (kdevcharInit zeroMemory)
      [.read (List.replicate 44 0)] =
        .ok ((kdevcharInit zeroMemory).dequeue, history) := by
    simp only [run, writeCall, hread, bind, Except.bind, pure, Except.pure]
    exact ⟨_, rfl⟩
  obtain ⟨history, hrun⟩ := hrun
  have hcount : (kdevcharInit zeroMemory).dequeue.usedBuf = -1 := by
    change atomicDec 0 = -1
    decide
  refine ⟨_, history, hrun, hcount, rfl, rfl, fun haccounted => ?_⟩
  obtain ⟨device, sameHistory, hsame, hafter⟩ :=
    haccounted [.read (List.replicate 44 0)] [] rfl
  obtain ⟨rfl, rfl⟩ := Prod.mk.inj (Except.ok.inj (hrun.symm.trans hsame))
  have hnonneg := hafter.usedBuf_nonneg
  omega

end PaxosPersistence.WriteAccounting
