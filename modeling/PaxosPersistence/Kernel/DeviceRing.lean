import PaxosPersistence.Kernel.KernelDevice

/-!
# The ring of a device as a queue

Both persistence devices keep their pending messages in the same ring of slots
and differ only in how a slot represents a message.  The relation below says
that the counter and the two indices of a device agree, and that the slots from
the first one on represent the messages of a queue.  The two ends of the ring
keep it, in every fill level and across the wrap.
-/

namespace PaxosPersistence.DeviceRing

open PaxosPersistence.ByteBlock
open PaxosPersistence.KernelDevice
open PaxosPersistence.PaxosTypes
open PaxosPersistence.RingWindow

variable {Message : Type*} {holds : Block slotSize → Message → Prop}

/-- The device is running and its ring represents `queue`, oldest first. -/
structure RingHolds (holds : Block slotSize → Message → Prop)
    (device : PaxosKernelDevice) (queue : List Message) : Prop where
  working_eq : device.working = true
  usedBuf_eq : device.usedBuf = queue.length
  occupies : Occupies device.firstBuf device.currentBuf queue.length
  slots : List.Forall₂ holds
    (contents device.msgBuf device.firstBuf queue.length) queue

namespace RingHolds

theorem kdevcharInit (memory : DeviceMemory) :
    RingHolds holds (kdevcharInit memory) [] where
  working_eq := kdevcharInit_working memory
  usedBuf_eq := rfl
  occupies := Occupies.empty 0
  slots := List.Forall₂.nil

theorem length_le {device : PaxosKernelDevice} {queue : List Message}
    (hring : RingHolds holds device queue) : queue.length ≤ bufferSize :=
  hring.occupies.count_le

/-- The admission test of the add handlers. -/
theorem usedBuf_lt_iff {device : PaxosKernelDevice} {queue : List Message}
    (hring : RingHolds holds device queue) :
    device.usedBuf < bufferSize ↔ queue.length < bufferSize := by
  rw [hring.usedBuf_eq]
  exact Int.ofNat_lt

theorem devicePoll_iff {device : PaxosKernelDevice} {queue : List Message}
    (hring : RingHolds holds device queue) :
    device.devicePoll = true ↔ queue ≠ [] := by
  rw [PaxosKernelDevice.devicePoll, decide_eq_true_iff, hring.usedBuf_eq,
    ← List.length_pos_iff]
  exact Int.natCast_pos

/-- The current slot is not one of the slots in use. -/
theorem currentBuf_notMem {device : PaxosKernelDevice} {queue : List Message}
    (hring : RingHolds holds device queue)
    (hfree : queue.length < bufferSize) :
    device.currentBuf ∉ window device.firstBuf queue.length :=
  hring.occupies.current_notMem_window hfree

theorem enqueue {device : PaxosKernelDevice} {queue : List Message}
    (hring : RingHolds holds device queue)
    (hfree : queue.length < bufferSize) {block : Block slotSize}
    {message : Message} (hmessage : holds block message) :
    RingHolds holds (device.enqueue block) (queue ++ [message]) where
  working_eq := hring.working_eq
  usedBuf_eq := by
    change atomicInc device.usedBuf = _
    rw [hring.usedBuf_eq, atomicInc_of_lt (by omega) (by omega)]
    simp
  occupies := by
    rw [List.length_append, List.length_singleton]
    exact hring.occupies.push hfree
  slots := by
    rw [List.length_append, List.length_singleton]
    change List.Forall₂ holds (contents
      (Function.update device.msgBuf device.currentBuf block) device.firstBuf
        (queue.length + 1)) (queue ++ [message])
    rw [hring.occupies.current_eq, contents_push _ _ hfree]
    exact List.rel_append hring.slots (List.Forall₂.cons hmessage .nil)

/-- Every slot in use represents a message of the queue. -/
theorem exists_of_mem {device : PaxosKernelDevice} {queue : List Message}
    (hring : RingHolds holds device queue) {block : Block slotSize}
    (hblock : block ∈ contents device.msgBuf device.firstBuf queue.length) :
    ∃ message ∈ queue, holds block message := by
  have hslots := hring.slots
  generalize contents device.msgBuf device.firstBuf queue.length = blocks
    at hslots hblock
  clear hring
  induction hslots with
  | nil => exact absurd hblock List.not_mem_nil
  | cons hholds _ ih =>
      rcases List.mem_cons.mp hblock with rfl | htail
      · exact ⟨_, List.mem_cons_self, hholds⟩
      · obtain ⟨message, hmem, hlater⟩ := ih htail
        exact ⟨message, List.mem_cons_of_mem _ hmem, hlater⟩

/-- The oldest message lies in the first slot. -/
theorem head {device : PaxosKernelDevice} {message : Message}
    {queue : List Message} (hring : RingHolds holds device (message :: queue)) :
    holds (device.msgBuf device.firstBuf) message := by
  have hslots := hring.slots
  rw [List.length_cons, contents_pop] at hslots
  exact (List.forall₂_cons.mp hslots).1

theorem dequeue {device : PaxosKernelDevice} {message : Message}
    {queue : List Message} (hring : RingHolds holds device (message :: queue)) :
    RingHolds holds device.dequeue queue where
  working_eq := hring.working_eq
  usedBuf_eq := by
    have hlength := hring.length_le
    change atomicDec device.usedBuf = _
    rw [hring.usedBuf_eq, atomicDec_of_le (by omega) (by omega)]
    simp
  occupies := hring.occupies.pop
  slots := by
    have hslots := hring.slots
    rw [List.length_cons, contents_pop] at hslots
    exact (List.forall₂_cons.mp hslots).2

/-- A release forgets whatever is pending. -/
theorem deviceRelease {device : PaxosKernelDevice} {queue : List Message}
    (hring : RingHolds holds device queue) :
    RingHolds holds device.deviceRelease [] where
  working_eq := hring.working_eq
  usedBuf_eq := rfl
  occupies := Occupies.empty 0
  slots := List.Forall₂.nil

end RingHolds

end PaxosPersistence.DeviceRing
