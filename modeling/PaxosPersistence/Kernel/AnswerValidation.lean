import PaxosPersistence.Kernel.ReadTest

/-!
# Which answers the answer handler handles correctly

A process that holds the read persistence device may write any frame to it.
The handler checks nothing of what it copies in: neither that a request is
pending, nor that the frame names the oldest one, nor that the claimed length
fits.  This module determines the frames that are nevertheless handled as they
should be.
-/

namespace PaxosPersistence.AnswerValidation

open PaxosPersistence.ByteBlock
open PaxosPersistence.KernelDevice
open PaxosPersistence.Memory
open PaxosPersistence.PaxosTypes
open PaxosPersistence.ReadPersistence
open PaxosPersistence.ReadTest
open PaxosPersistence.RingWindow

/-- The states of the read persistence device after any calls of its handlers
and of the add function, with any arguments and any copy faults, and any marks
that works leave on callbacks.  Reading and polling change nothing. -/
inductive Reachable (memory : DeviceMemory) : PaxosKernelDevice → Prop where
  | init : Reachable memory (kdevcharInit memory)
  | opened {device : PaxosKernelDevice} (hdevice : Reachable memory device) :
      Reachable memory device.deviceOpen.1
  | added {device next : PaxosKernelDevice} {msg : List Byte}
      {callback : Option SlotId} (hdevice : Reachable memory device)
      (hcall : readPersistenceAddMessage device msg = .ok (next, callback)) :
      Reachable memory next
  | answered {device next : PaxosKernelDevice} {frame : List Byte} {len : ℕ}
      {faults : WriteFaults} {ret : ℤ} (hdevice : Reachable memory device)
      (hcall : readPersistenceWrite device frame len faults = .ok (next, ret)) :
      Reachable memory next
  | marked {device : PaxosKernelDevice} (hdevice : Reachable memory device)
      (slot : SlotId) : Reachable memory (markDone device slot)
  | released {device : PaxosKernelDevice} (hdevice : Reachable memory device) :
      Reachable memory device.deviceRelease

/-- The ring and all callbacks are as before. -/
structure Untouched (device next : PaxosKernelDevice) : Prop where
  firstBuf_eq : next.firstBuf = device.firstBuf
  usedBuf_eq : next.usedBuf = device.usedBuf
  callbackBuf_eq : next.callbackBuf = device.callbackBuf
  accepted_eq : next.accepted = device.accepted
  values_eq : next.values = device.values

/-- The frame is a well-formed answer to the oldest pending request; that
request is removed, and its callback, no other, is filled. -/
structure AnswersOldest (device next : PaxosKernelDevice)
    (frame : List Byte) : Prop where
  pending : 1 ≤ device.usedBuf
  bufferId_eq : (frameBufferId frame).toInt = device.firstBuf.val
  len_nonneg : 0 ≤ (frameAccepted frame).value.paxosValueLen.toInt
  len_le : (frameAccepted frame).value.paxosValueLen.toInt ≤ maxPaxosValueSize
  firstBuf_eq : next.firstBuf = advance device.firstBuf 1
  usedBuf_eq : next.usedBuf = atomicDec device.usedBuf
  filled : next.responseRecord device.firstBuf = frameRecord frame
  others : ∀ slot, slot ≠ device.firstBuf →
    next.responseRecord slot = device.responseRecord slot

/-- The handler either refuses the frame and changes nothing, or the frame
answers the oldest pending request. -/
def HandlesFrame (device : PaxosKernelDevice) (frame : List Byte)
    (len : ℕ) : Prop :=
  ∃ next ret, readPersistenceWrite device frame len WriteFaults.none =
    .ok (next, ret) ∧
      (ret = -1 ∧ Untouched device next ∨ AnswersOldest device next frame)

/-- The frame names the oldest pending request and claims a length that fits. -/
structure NamesOldest (device : PaxosKernelDevice) (frame : List Byte) :
    Prop where
  pending : 1 ≤ device.usedBuf
  bufferId_eq : (frameBufferId frame).toInt = device.firstBuf.val
  len_nonneg : 0 ≤ (frameAccepted frame).value.paxosValueLen.toInt
  len_le : (frameAccepted frame).value.paxosValueLen.toInt ≤ maxPaxosValueSize

/-! ## What every reachable state keeps -/

/-- The device runs, and its pointers are those of its initialisation. -/
structure Sound (memory : DeviceMemory) (device : PaxosKernelDevice) :
    Prop where
  working_eq : device.working = true
  owned : Owned memory device

theorem sound_addMessage {memory : DeviceMemory}
    {device next : PaxosKernelDevice} {msg : List Byte}
    {callback : Option SlotId} (hsound : Sound memory device)
    (hcall : readPersistenceAddMessage device msg = .ok (next, callback)) :
    Sound memory next := by
  by_cases hfree : device.usedBuf < bufferSize
  · by_cases hsize : msg.length ≤ slotSize
    · obtain ⟨block, -, hadd⟩ := readPersistenceAddMessage_eq hfree hsize
      rw [hadd] at hcall
      obtain ⟨rfl, -⟩ := Prod.mk.inj (Except.ok.inj hcall)
      exact ⟨hsound.working_eq, owned_enqueue hsound.owned block⟩
    · rw [readPersistenceAddMessage_overrun hfree (not_le.mp hsize)] at hcall
      exact nomatch hcall
  · rw [readPersistenceAddMessage_full (not_lt.mp hfree)] at hcall
    obtain ⟨rfl, -⟩ := Prod.mk.inj (Except.ok.inj hcall)
    exact hsound

theorem sound_write {memory : DeviceMemory}
    {device next : PaxosKernelDevice} {frame : List Byte} {len : ℕ}
    {faults : WriteFaults} {ret : ℤ} (hsound : Sound memory device)
    (hcall : readPersistenceWrite device frame len faults = .ok (next, ret)) :
    Sound memory next := by
  rw [readPersistenceWrite, if_neg (by simp [hsound.working_eq])] at hcall
  by_cases hincomplete : (copyFromUser frame 0 sizeofInt faults.bufferId).2 ≠ 0
  · rw [if_pos hincomplete] at hcall
    obtain ⟨rfl, -⟩ := Prod.mk.inj (Except.ok.inj hcall)
    exact hsound
  · rw [if_neg hincomplete] at hcall
    cases hslot : slotAt (readWord 32
      (copyFromUser frame 0 sizeofInt faults.bufferId).1) with
    | error halt =>
        rw [hslot] at hcall
        cases hcall
    | ok slot =>
        rw [hslot] at hcall
        obtain ⟨accepted, value, ⟨-, rfl⟩ | rfl⟩ := answerCallback_cases hcall
        · exact ⟨hsound.working_eq, owned_fillResponse hsound.owned slot value⟩
        · exact ⟨hsound.working_eq,
            owned_dequeue (owned_fillResponse hsound.owned slot value)⟩

theorem Reachable.sound {memory : DeviceMemory} {device : PaxosKernelDevice}
    (hreachable : Reachable memory device) : Sound memory device := by
  induction hreachable with
  | init => exact ⟨kdevcharInit_working memory, kdevcharInit_owned memory⟩
  | opened _ ih =>
      rw [PaxosKernelDevice.deviceOpen]
      split
      · exact ih
      · exact ⟨ih.working_eq, ih.owned.response_eq, ih.owned.value_eq⟩
  | added _ hcall ih => exact sound_addMessage ih hcall
  | answered _ hcall ih => exact sound_write ih hcall
  | marked _ slot ih =>
      exact ⟨ih.working_eq, owned_markDone _ slot ih.owned⟩
  | released _ ih =>
      exact ⟨ih.working_eq, ih.owned.response_eq, ih.owned.value_eq⟩

/-! ## The frames handled correctly -/

theorem NamesOldest.length_frameValue_le {device : PaxosKernelDevice}
    {frame : List Byte} (hnames : NamesOldest device frame)
    (hmapped : Mapped frame) : (frameValue frame).length ≤ maxPaxosValueSize := by
  have hle := hnames.len_le
  rw [hmapped.length_frameValue]
  omega

/-- A frame that names the oldest request is its answer. -/
theorem handlesFrame_of_namesOldest {memory : DeviceMemory}
    {device : PaxosKernelDevice} {frame : List Byte}
    (hsound : Sound memory device) (hmapped : Mapped frame)
    (hnames : NamesOldest device frame) (len : ℕ) :
    HandlesFrame device frame len := by
  have hslot : slotAt (frameBufferId frame) = .ok device.firstBuf :=
    slotAt_eq_ok.mpr (eq_slotWord_iff.mpr hnames.bufferId_eq)
  have hvalue := hnames.length_frameValue_le hmapped
  refine ⟨(fillResponse device device.firstBuf (frameAccepted frame)
    (valueBlock (frameValue frame) hvalue)).dequeue, len, ?_, Or.inr ?_⟩
  · rw [readPersistenceWrite_eq_bind hsound.working_eq hmapped, hslot]
    exact answerCallback_eq hmapped hvalue device device.firstBuf len
  · exact
      { pending := hnames.pending
        bufferId_eq := hnames.bufferId_eq
        len_nonneg := hnames.len_nonneg
        len_le := hnames.len_le
        firstBuf_eq := rfl
        usedBuf_eq := rfl
        filled := responseRecord_fillResponse_self device.firstBuf hvalue
          hmapped.length_frameValue.symm
        others := fun slot hne =>
          responseRecord_fillResponse_of_ne hsound.owned hne _ }

/-- The handler refuses no frame whose copies succeed. -/
theorem return_ne_neg_one {device next : PaxosKernelDevice}
    {frame : List Byte} {len : ℕ} {ret : ℤ}
    (hworking : device.working = true) (hmapped : Mapped frame)
    (hcall : readPersistenceWrite device frame len WriteFaults.none =
      .ok (next, ret)) : ret ≠ -1 := by
  rw [readPersistenceWrite_eq_bind hworking hmapped] at hcall
  cases hslot : slotAt (frameBufferId frame) with
  | error halt =>
      rw [hslot] at hcall
      exact nomatch hcall
  | ok slot =>
      rw [hslot, Except.bind] at hcall
      by_cases hvalue : (frameValue frame).length ≤ maxPaxosValueSize
      · rw [answerCallback_eq hmapped hvalue] at hcall
        have hlen := (Prod.mk.inj (Except.ok.inj hcall)).2
        omega
      · rw [answerCallback_overrun hmapped (not_le.mp hvalue)] at hcall
        exact nomatch hcall

/-- In every reachable state the frames handled correctly are those that name
the oldest pending request and claim a length that fits. -/
theorem handlesFrame_iff_namesOldest {memory : DeviceMemory}
    {device : PaxosKernelDevice} {frame : List Byte}
    (hreachable : Reachable memory device) (hmapped : Mapped frame) (len : ℕ) :
    HandlesFrame device frame len ↔ NamesOldest device frame := by
  have hsound := hreachable.sound
  constructor
  · rintro ⟨next, ret, hcall, ⟨hrefused, -⟩ | hanswers⟩
    · exact absurd hrefused
        (return_ne_neg_one hsound.working_eq hmapped hcall)
    · exact ⟨hanswers.pending, hanswers.bufferId_eq, hanswers.len_nonneg,
        hanswers.len_le⟩
  · intro hnames
    exact handlesFrame_of_namesOldest hsound hmapped hnames len

/-- A frame of zeros: an empty answer for slot 0. -/
def emptyFrame : List Byte :=
  List.replicate (sizeofInt + sizeofPaxosAccepted) 0

theorem mapped_emptyFrame : Mapped emptyFrame where
  header := by decide
  value := by decide +kernel

/-- With one request pending, the frame of zeros answers it. -/
theorem handlesFrame_emptyFrame :
    ∃ device, Reachable zeroMemory device ∧ device.usedBuf = 1 ∧
      Mapped emptyFrame ∧ HandlesFrame device emptyFrame 44 := by
  obtain ⟨block, hadd, hone, hfirst⟩ := exists_firstRequest zeroMemory
  have hreachable := Reachable.added Reachable.init hadd
  refine ⟨_, hreachable, hone, mapped_emptyFrame,
    (handlesFrame_iff_namesOldest hreachable mapped_emptyFrame 44).mpr ?_⟩
  exact
    { pending := hone.ge
      bufferId_eq := by
        rw [hfirst]
        decide +kernel
      len_nonneg := by decide +kernel
      len_le := by decide +kernel }

/-- With no request pending, the frame of zeros is accepted, and the count
drops below zero. -/
theorem answer_fresh_accepted :
    ∃ next, Reachable zeroMemory (kdevcharInit zeroMemory) ∧
      Mapped emptyFrame ∧
      readPersistenceWrite (kdevcharInit zeroMemory) emptyFrame 44
        WriteFaults.none = .ok (next, 44) ∧
      next.usedBuf = -1 ∧ next.firstBuf = 1 ∧
      ¬ HandlesFrame (kdevcharInit zeroMemory) emptyFrame 44 := by
  have hslot : slotAt (frameBufferId emptyFrame) = .ok 0 := by
    decide +kernel
  have hvalue : (frameValue emptyFrame).length ≤ maxPaxosValueSize := by
    decide +kernel
  have hcall : readPersistenceWrite (kdevcharInit zeroMemory) emptyFrame 44
      WriteFaults.none = .ok ((fillResponse (kdevcharInit zeroMemory) 0
        (frameAccepted emptyFrame)
        (valueBlock (frameValue emptyFrame) hvalue)).dequeue, 44) := by
    rw [readPersistenceWrite_eq_bind (kdevcharInit_working zeroMemory)
      mapped_emptyFrame, hslot, Except.bind,
      answerCallback_eq mapped_emptyFrame hvalue, Nat.cast_ofNat]
  have hcount : (fillResponse (kdevcharInit zeroMemory) 0
      (frameAccepted emptyFrame)
      (valueBlock (frameValue emptyFrame) hvalue)).dequeue.usedBuf = -1 := by
    change atomicDec 0 = -1
    decide
  refine ⟨_, Reachable.init, mapped_emptyFrame, hcall, hcount, rfl, ?_⟩
  rintro ⟨next, ret, hsame, ⟨hrefused, -⟩ | hanswers⟩
  · exact absurd hrefused (return_ne_neg_one (kdevcharInit_working zeroMemory)
      mapped_emptyFrame hsame)
  · exact absurd hanswers.pending (by simp)

end PaxosPersistence.AnswerValidation
