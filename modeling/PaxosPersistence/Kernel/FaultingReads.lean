import PaxosPersistence.Kernel.WriteAccounting

/-!
# Faulting reads of the write device

A careful consumer reads only when a poll has told it that there is something
to read.  Its copies may fault all the same.  The read handler counts the
message down before it looks at the copies, so that a faulting read strands a
message: the count no longer covers it.  This module determines the runs in
which nothing is lost or stranded: those in which no copy of a read fails.
-/

namespace PaxosPersistence.FaultingReads

open PaxosPersistence.ByteBlock
open PaxosPersistence.DeviceRing
open PaxosPersistence.KernelDevice
open PaxosPersistence.Machine
open PaxosPersistence.Memory
open PaxosPersistence.PaxosTypes
open PaxosPersistence.WriteAccounting
open PaxosPersistence.WritePersistence

/-- The device and what its consumer knows: whether the last poll reported
`POLLIN` and nothing has been read since. -/
structure Consumer where
  device : PaxosKernelDevice
  polled : Bool

def Consumer.start (memory : DeviceMemory) : Consumer where
  device := kdevcharInit memory
  polled := false

inductive ConsumerAction where
  | addMessage (msg : List Byte)
  | poll
  | read (buffer : List Byte) (faults : ReadFaults)

inductive ConsumerEvent where
  | accepted (msg : List Byte)
  | delivered (bytes : List Byte)
  /-- A read returned -1; the device around it. -/
  | failed (before after : PaxosKernelDevice)

/-- One call.  Without a `POLLIN` the consumer does not read. -/
def consumer : Step Consumer ConsumerAction ConsumerEvent Halt
  | state, .addMessage msg => do
      let (device, callback) ← writePersistenceAddMessage state.device msg
      return ({ state with device },
        if callback.isSome then [.accepted msg] else [])
  | state, .poll =>
      .ok ({ state with polled := state.device.devicePoll }, [])
  | state, .read buffer faults =>
      if !state.polled then .ok (state, [])
      else do
        let (device, received, len) ←
          writePersistenceRead state.device buffer faults
        return ({ device := device, polled := false },
          if len = -1 then [.failed state.device device]
          else [.delivered ((received.drop sizeofInt).take len.toNat)])

/-- The messages the ring has accepted. -/
def acceptedOf (history : List ConsumerEvent) : List (List Byte) :=
  history.filterMap fun
    | .accepted msg => some msg
    | _ => none

/-- What the successful reads have delivered. -/
def deliveredOf (history : List ConsumerEvent) : List (List Byte) :=
  history.filterMap fun
    | .delivered bytes => some bytes
    | _ => none

/-- The indices, the count and the slots are as before. -/
structure Unmoved (before after : PaxosKernelDevice) : Prop where
  firstBuf_eq : after.firstBuf = before.firstBuf
  currentBuf_eq : after.currentBuf = before.currentBuf
  usedBuf_eq : after.usedBuf = before.usedBuf
  msgBuf_eq : after.msgBuf = before.msgBuf

/-- No failed read has moved anything, the deliveries are the accepted
messages in order, and what is not delivered yet is reported by a poll. -/
structure NothingLost (state : Consumer) (history : List ConsumerEvent) :
    Prop where
  failed : ∀ before after, .failed before after ∈ history →
    Unmoved before after
  delivered : ∃ queue,
    deliveredOf history ++ queue.map deliveredBytes =
      (acceptedOf history).map deliveredBytes ∧
    (state.device.devicePoll = false → queue = [])

/-- Nothing is lost at any point of a run. -/
def RunKeepsMessages (memory : DeviceMemory)
    (actions : List ConsumerAction) : Prop :=
  ∀ before after, actions = before ++ after →
    ∃ state history,
      run consumer (Consumer.start memory) before = .ok (state, history) ∧
        NothingLost state history

/-- The bytes of the oldest slot that a read copies out. -/
def readLength (device : PaxosKernelDevice) : ℕ :=
  sizeOfLen (PaxosAccepted.ofImage
    (device.msgBuf device.firstBuf).toList).value.paxosValueLen

/-- Neither copy of a read fails; a copy of nothing cannot. -/
def CopiesComplete (device : PaxosKernelDevice) (faults : ReadFaults) : Prop :=
  faults.bufferId = 0 ∧ (faults.accepted = 0 ∨ readLength device = 0)

/-- A read that is made succeeds. -/
def ReadsComplete (state : Consumer) (_history : List ConsumerEvent) :
    ConsumerAction → Prop
  | .read _ faults => state.polled = true → CopiesComplete state.device faults
  | _ => True

/-! ## One read -/

/-- Faults that spare both copies make no difference. -/
theorem writePersistenceRead_of_complete {device : PaxosKernelDevice}
    {faults : ReadFaults} (hcomplete : CopiesComplete device faults)
    (buffer : List Byte) :
    writePersistenceRead device buffer faults =
      writePersistenceRead device buffer ReadFaults.none := by
  obtain ⟨hid, haccepted | hlength⟩ := hcomplete
  · have hfaults : faults = ReadFaults.none := by
      cases faults
      simp only at hid haccepted
      rw [hid, haccepted]
      rfl
    rw [hfaults]
  · have hload : (device.msgBuf device.firstBuf).load 0 0 = some [] :=
      Block.load_eq_some (Nat.zero_le _)
    rw [readLength] at hlength
    simp only [writePersistenceRead, hlength, hload, checked_some, hid,
      ReadFaults.none, copyToUser, List.take_nil, List.length_nil,
      Nat.min_zero, bind, Except.bind]

/-- Any other faults make a read fail. -/
theorem len_eq_of_not_complete {device next : PaxosKernelDevice}
    {buffer received : List Byte} {faults : ReadFaults} {len : ℤ}
    (hworking : device.working = true)
    (hincomplete : ¬ CopiesComplete device faults)
    (hread : writePersistenceRead device buffer faults =
      .ok (next, received, len)) : len = -1 := by
  rw [writePersistenceRead, if_neg (by simp [hworking])] at hread
  obtain ⟨source, hsource, hcopied⟩ := bind_eq_ok.mp hread
  have hlength : source.length = readLength device :=
    Block.length_of_load (checked_eq_ok.mp hsource)
  have hfails : min faults.accepted source.length ≠ 0 ∨
      min faults.bufferId sizeofInt ≠ 0 := by
    rw [hlength]
    by_contra hzero
    apply hincomplete
    rw [CopiesComplete]
    simp only [sizeofInt] at hzero
    omega
  simp only [copyToUser, length_wordBytes, if_pos hfails] at hcopied
  cases hcopied
  rfl

/-- Counting down changes every count. -/
theorem atomicDec_ne (counter : ℤ) : atomicDec counter ≠ counter := by
  intro hsame
  have hmod := @Int.bmod_emod (counter - 1) (2 ^ 32)
  rw [atomicDec] at hsame
  rw [hsame] at hmod
  omega

/-! ## Runs in which every read succeeds -/

/-- The invariant behind them: the ring holds the messages not delivered yet,
and the consumer reads only when there are some. -/
structure Serves (state : Consumer) (history : List ConsumerEvent)
    (queue : List (List Byte)) : Prop where
  ring : RingHolds HoldsWrite state.device queue
  polled : state.polled = true → queue ≠ []
  delivered : deliveredOf history ++ queue.map deliveredBytes =
    (acceptedOf history).map deliveredBytes
  failed : ∀ before after, .failed before after ∉ history

theorem Serves.nothingLost {state : Consumer} {history : List ConsumerEvent}
    {queue : List (List Byte)} (hserves : Serves state history queue) :
    NothingLost state history where
  failed before after hmem := absurd hmem (hserves.failed before after)
  delivered := by
    refine ⟨queue, hserves.delivered, fun hpoll => ?_⟩
    by_contra hqueue
    rw [hserves.ring.devicePoll_iff.mpr hqueue] at hpoll
    cases hpoll

theorem serves_start (memory : DeviceMemory) :
    Serves (Consumer.start memory) [] [] where
  ring := RingHolds.kdevcharInit memory
  polled := fun hpolled => nomatch hpolled
  delivered := rfl
  failed := fun _ _ => List.not_mem_nil

section Steps

variable {state : Consumer} {history : List ConsumerEvent}
variable {queue : List (List Byte)}

theorem Serves.addMessage (hserves : Serves state history queue)
    (msg : List Byte) :
    ∃ next events after, consumer state (.addMessage msg) = .ok (next, events) ∧
      Serves next (history ++ events) after := by
  by_cases hfree : queue.length < bufferSize
  · have hadd := writePersistenceAddMessage_eq
      (hserves.ring.usedBuf_lt_iff.mpr hfree) msg
    refine ⟨{ state with device := state.device.enqueue (writeMessage msg) },
      [.accepted msg], queue ++ [msg], ?_, hserves.ring.enqueue hfree rfl,
      fun _ => by simp, ?_, ?_⟩
    · simp only [consumer, hadd, bind, Except.bind, pure, Except.pure]
      rfl
    · calc
        deliveredOf (history ++ [.accepted msg]) ++
            (queue ++ [msg]).map deliveredBytes =
          deliveredOf history ++ queue.map deliveredBytes ++
            [deliveredBytes msg] := by simp [deliveredOf]
        _ = (acceptedOf history).map deliveredBytes ++ [deliveredBytes msg] := by
            rw [hserves.delivered]
        _ = (acceptedOf (history ++ [.accepted msg])).map deliveredBytes := by
            simp [acceptedOf]
    · intro before after hmem
      exact hserves.failed before after (by simpa using hmem)
  · have hfull := writePersistenceAddMessage_full
      (not_lt.mp (mt hserves.ring.usedBuf_lt_iff.mp hfree)) msg
    refine ⟨state, [], queue, ?_, by rwa [List.append_nil]⟩
    simp only [consumer, hfull, bind, Except.bind, pure, Except.pure]
    rfl

theorem Serves.poll (hserves : Serves state history queue) :
    Serves { state with polled := state.device.devicePoll } history queue where
  ring := hserves.ring
  polled := hserves.ring.devicePoll_iff.mp
  delivered := hserves.delivered
  failed := hserves.failed

/-- A read that succeeds delivers the oldest message. -/
theorem Serves.read (hserves : Serves state history queue)
    (hpolled : state.polled = true) {faults : ReadFaults}
    (hcomplete : CopiesComplete state.device faults) (buffer : List Byte) :
    ∃ next events after, consumer state (.read buffer faults) =
        .ok (next, events) ∧
      Serves next (history ++ events) after := by
  obtain ⟨msg, rest, rfl⟩ :=
    List.exists_cons_of_ne_nil (hserves.polled hpolled)
  have hread := (writePersistenceRead_of_complete hcomplete buffer).trans
    (writePersistenceRead_eq hserves.ring.working_eq hserves.ring.head buffer)
  have hreceived := take_drop_received state.device.firstBuf msg buffer
  have hlen : ((effectiveSize msg.length : ℕ) : ℤ) ≠ -1 := by omega
  refine ⟨{ device := state.device.dequeue, polled := false },
    [.delivered (deliveredBytes msg)], rest, ?_, hserves.ring.dequeue, ?_, ?_,
    ?_⟩
  · simp only [consumer, hpolled, hread, hreceived, if_neg hlen, bind,
      Except.bind, pure, Except.pure, Int.toNat_natCast]
    rfl
  · intro hpending
    cases hpending
  · have hdelivered := hserves.delivered
    rw [List.map_cons] at hdelivered
    simpa [deliveredOf, acceptedOf] using hdelivered
  · intro before after hmem
    exact hserves.failed before after (by simpa using hmem)

end Steps

theorem consumer_serves (state : Consumer) (history : List ConsumerEvent)
    (action : ConsumerAction) (hserves : ∃ queue, Serves state history queue)
    (hguard : ReadsComplete state history action) :
    ∃ next events, consumer state action = .ok (next, events) ∧
      ∃ queue, Serves next (history ++ events) queue := by
  obtain ⟨queue, hserves⟩ := hserves
  cases action with
  | addMessage msg =>
      obtain ⟨next, events, after, hstep, hnext⟩ := hserves.addMessage msg
      exact ⟨next, events, hstep, after, hnext⟩
  | poll =>
      refine ⟨_, [], rfl, queue, ?_⟩
      rw [List.append_nil]
      exact hserves.poll
  | read buffer faults =>
      by_cases hpolled : state.polled = true
      · obtain ⟨next, events, after, hstep, hnext⟩ :=
          hserves.read hpolled (hguard hpolled) buffer
        exact ⟨next, events, hstep, after, hnext⟩
      · refine ⟨state, [], ?_, queue, by rwa [List.append_nil]⟩
        exact if_pos (by simpa using hpolled)

/-! ## Runs in which a read fails -/

theorem consumer_working {state next : Consumer} {action : ConsumerAction}
    {events : List ConsumerEvent} (hworking : state.device.working = true)
    (hstep : consumer state action = .ok (next, events)) :
    next.device.working = true := by
  cases action with
  | addMessage msg =>
      rw [consumer] at hstep
      obtain ⟨⟨device, callback⟩, hadd, hreturned⟩ := bind_eq_ok.mp hstep
      cases hreturned
      obtain ⟨-, rfl⟩ | ⟨-, rfl⟩ := writePersistenceAddMessage_cases hadd
      · exact hworking
      · exact hworking
  | poll =>
      rw [← (Prod.mk.inj (Except.ok.inj hstep)).1]
      exact hworking
  | read buffer faults =>
      rw [consumer] at hstep
      split at hstep
      · rw [← (Prod.mk.inj (Except.ok.inj hstep)).1]
        exact hworking
      · obtain ⟨⟨device, received, len⟩, hread, hreturned⟩ :=
          bind_eq_ok.mp hstep
        cases hreturned
        rcases writePersistenceRead_cases hworking hread with
          ⟨-, rfl⟩ | ⟨-, rfl⟩
        · exact hworking
        · exact hworking

/-- A read whose copies do not both succeed has moved the count. -/
theorem failed_of_not_complete {state next : Consumer} {buffer : List Byte}
    {faults : ReadFaults} {events : List ConsumerEvent}
    (hworking : state.device.working = true) (hpolled : state.polled = true)
    (hincomplete : ¬ CopiesComplete state.device faults)
    (hstep : consumer state (.read buffer faults) = .ok (next, events)) :
    ∃ after, events = [.failed state.device after] ∧
      ¬ Unmoved state.device after := by
  rw [consumer, if_neg (by simp [hpolled])] at hstep
  obtain ⟨⟨device, received, len⟩, hread, hreturned⟩ := bind_eq_ok.mp hstep
  obtain rfl := len_eq_of_not_complete hworking hincomplete hread
  cases hreturned
  refine ⟨device, rfl, ?_⟩
  intro hunmoved
  have hused := hunmoved.usedBuf_eq
  rcases writePersistenceRead_cases hworking hread with
    ⟨-, rfl⟩ | ⟨hnonneg, -⟩
  · exact atomicDec_ne state.device.usedBuf hused
  · omega

theorem guarded_of_runKeepsMessages {memory : DeviceMemory}
    {actions : List ConsumerAction} (hkeeps : RunKeepsMessages memory actions) :
    Guarded consumer ReadsComplete (Consumer.start memory) [] actions := by
  intro before action after state history hsplit hrun
  cases action with
  | addMessage msg => trivial
  | poll => trivial
  | read buffer faults =>
      intro hpolled
      by_contra hincomplete
      obtain ⟨next, nextHistory, hnext, hlost⟩ :=
        hkeeps (before ++ [.read buffer faults]) after (by simpa using hsplit)
      obtain ⟨middle, first, second, hfirst, hstep, rfl⟩ :=
        run_concat_eq_ok.mp hnext
      obtain ⟨rfl, rfl⟩ := Prod.mk.inj (Except.ok.inj (hrun.symm.trans hfirst))
      have hworking := state_invariant_of_run_eq_ok
        (fun state => state.device.working = true)
        (fun _ _ _ _ => consumer_working)
        (show (Consumer.start memory).device.working = true from
          kdevcharInit_working memory) hrun
      obtain ⟨moved, rfl, hmoved⟩ :=
        failed_of_not_complete hworking hpolled hincomplete hstep
      exact hmoved (hlost.failed state.device moved (by simp))

/-- Nothing is lost or stranded along a run exactly when no copy of a read in
it fails. -/
theorem runKeepsMessages_iff (memory : DeviceMemory)
    (actions : List ConsumerAction) :
    RunKeepsMessages memory actions ↔
      Guarded consumer ReadsComplete (Consumer.start memory) [] actions := by
  constructor
  · exact guarded_of_runKeepsMessages
  · rintro hguarded before after rfl
    obtain ⟨state, history, hrun, queue, hserves⟩ := run_of_guarded
      consumer_serves ⟨[], serves_start memory⟩ hguarded.of_append
    exact ⟨state, history, hrun, hserves.nothingLost⟩

/-- A message is added, polled for, and read without its slot index. -/
def strandingRun : List ConsumerAction :=
  [.addMessage (List.replicate sizeofPaxosAccepted 0), .poll,
    .read (List.replicate 44 0) ⟨4, 0⟩]

/-- What a run accepts, delivers and leaves for a poll to report, and whether
the first index has moved. -/
def observedRun (actions : List ConsumerAction) :
    Option (List (List Byte) × List (List Byte) × Bool × SlotId) :=
  match run consumer (Consumer.start zeroMemory) actions with
  | .ok (state, history) =>
      some (acceptedOf history, deliveredOf history, state.device.devicePoll,
        state.device.firstBuf)
  | .error _ => none

/-- After one faulting read the only message is still in the first slot, and
no poll will report it. -/
theorem faultingRead_strands_message :
    ∃ state history,
      run consumer (Consumer.start zeroMemory) strandingRun =
        .ok (state, history) ∧
      acceptedOf history = [List.replicate sizeofPaxosAccepted 0] ∧
      deliveredOf history = [] ∧ state.device.devicePoll = false ∧
      state.device.firstBuf = 0 ∧ ¬ RunKeepsMessages zeroMemory strandingRun := by
  have hobserved : observedRun strandingRun =
      some ([List.replicate sizeofPaxosAccepted 0], [], false, 0) := by
    decide +kernel
  rw [observedRun] at hobserved
  split at hobserved
  · rename_i state history hrun
    obtain ⟨haccepted, hrest⟩ := Prod.mk.inj (Option.some.inj hobserved)
    obtain ⟨hdelivered, hrest⟩ := Prod.mk.inj hrest
    obtain ⟨hpoll, hfirst⟩ := Prod.mk.inj hrest
    refine ⟨state, history, hrun, haccepted, hdelivered, hpoll, hfirst, ?_⟩
    intro hkeeps
    obtain ⟨same, sameHistory, hsame, hlost⟩ :=
      hkeeps strandingRun [] (List.append_nil _).symm
    obtain ⟨rfl, rfl⟩ := Prod.mk.inj (Except.ok.inj (hrun.symm.trans hsame))
    obtain ⟨queue, hmessages, hempty⟩ := hlost.delivered
    rw [hempty hpoll, hdelivered, haccepted] at hmessages
    cases hmessages
  · cases hobserved

end PaxosPersistence.FaultingReads
