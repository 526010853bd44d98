import PaxosPersistence.Kernel.AnswerValidation
import PaxosPersistence.Kernel.ReadTest

/-!
# Failed answers

Each of the three copies of the answer handler may fault.  A fault of the first
one comes before anything is changed; a fault of the second leaves a partly
copied response with an empty value; a fault of the third comes when the
request has already been removed.  This module determines the faults after
which a failed call has changed nothing.
-/

namespace PaxosPersistence.AnswerFaults

open PaxosPersistence.AnswerValidation
open PaxosPersistence.ByteBlock
open PaxosPersistence.KernelDevice
open PaxosPersistence.Memory
open PaxosPersistence.PaxosTypes
open PaxosPersistence.ReadPersistence
open PaxosPersistence.ReadTest
open PaxosPersistence.RingWindow

/-- The fields of a response and its whole value buffer. -/
structure ResponseContents where
  aid : Word32
  iid : Word32
  promiseIid : Word32
  ballot : Word32
  valueBallot : Word32
  paxosValueLen : Word32
  paxosValueVal : Block maxPaxosValueSize
  deriving DecidableEq

/-- A response structure with the buffer its pointer leads to. -/
def contentsOf (accepted : PaxosAccepted)
    (paxosValueVal : Block maxPaxosValueSize) : ResponseContents where
  aid := accepted.aid
  iid := accepted.iid
  promiseIid := accepted.promiseIid
  ballot := accepted.ballot
  valueBallot := accepted.valueBallot
  paxosValueLen := accepted.value.paxosValueLen
  paxosValueVal := paxosValueVal

/-- What lies behind the callback of a slot. -/
def responseContents (device : PaxosKernelDevice) (slot : SlotId) :
    ResponseContents :=
  let accepted := device.accepted (device.callbackBuf slot).response
  contentsOf accepted (device.values accepted.value.paxosValueVal)

/-- The oldest request is still pending, its callback still holds the same
response, and a work that waits there comes to the same verdict. -/
structure Kept (device next : PaxosKernelDevice) : Prop where
  firstBuf_eq : next.firstBuf = device.firstBuf
  usedBuf_eq : next.usedBuf = device.usedBuf
  message_eq : next.msgBuf device.firstBuf = device.msgBuf device.firstBuf
  response_eq : responseContents next device.firstBuf =
    responseContents device device.firstBuf
  found_eq : ∀ work : PersistenceWork, work.param = device.firstBuf →
    responseFound next work = responseFound device work

/-- The call comes to an end, and if it fails it has changed nothing. -/
def KeepsOnFailure (device : PaxosKernelDevice) (frame : List Byte) (len : ℕ)
    (faults : WriteFaults) : Prop :=
  ∃ next ret, readPersistenceWrite device frame len faults = .ok (next, ret) ∧
    (ret = -1 → Kept device next)

/-! ## The three copies -/

/-- The copy of the slot index. -/
def bufferIdCopy (frame : List Byte) (faults : WriteFaults) : List Byte × ℕ :=
  copyFromUser frame 0 sizeofInt faults.bufferId

/-- The copy of the structure. -/
def acceptedCopy (frame : List Byte) (faults : WriteFaults) : List Byte × ℕ :=
  copyFromUser frame sizeofInt sizeofPaxosAccepted faults.accepted

/-- The copy of the value, which is left out if there is none. -/
def valueCopy (frame : List Byte) (faults : WriteFaults) : List Byte × ℕ :=
  if 0 < (frameAccepted frame).value.paxosValueLen.toInt then
    copyFromUser frame (sizeofInt + sizeofPaxosAccepted)
      (frameAccepted frame).value.paxosValueLen.toInt.toNat faults.value
  else ([], 0)

/-- The faults that change nothing: one of the index; one of the structure,
when the response already holds just what arrived of it, with zeros for the
rest and for the value; none at all. -/
def ChangesNothing (device : PaxosKernelDevice) (frame : List Byte)
    (faults : WriteFaults) : Prop :=
  (bufferIdCopy frame faults).2 ≠ 0 ∨
  ((acceptedCopy frame faults).2 ≠ 0 ∧
    responseContents device device.firstBuf =
      contentsOf (PaxosAccepted.ofImage (acceptedCopy frame faults).1)
        (Block.zero maxPaxosValueSize)) ∨
  ((acceptedCopy frame faults).2 = 0 ∧ (valueCopy frame faults).2 = 0)

/-! ## What each fault leaves behind -/

theorem length_valueCopy_le {frame : List Byte} (faults : WriteFaults)
    (hlen : (frameAccepted frame).value.paxosValueLen.toInt ≤
      maxPaxosValueSize) :
    (valueCopy frame faults).1.length ≤ maxPaxosValueSize := by
  rw [valueCopy]
  split
  · rw [length_copyFromUser]
    omega
  · exact Nat.zero_le _

section Call

variable {device : PaxosKernelDevice} {frame : List Byte}
variable {faults : WriteFaults}

theorem readPersistenceWrite_bufferId_fault
    (hworking : device.working = true)
    (hfault : (bufferIdCopy frame faults).2 ≠ 0) (len : ℕ) :
    readPersistenceWrite device frame len faults = .ok (device, -1) := by
  rw [readPersistenceWrite, if_neg (by simp [hworking])]
  exact if_pos hfault

/-- A frame whose index has arrived reaches the callback it names. -/
theorem readPersistenceWrite_of_bufferId (hworking : device.working = true)
    (hcomplete : (bufferIdCopy frame faults).2 = 0) {slot : SlotId}
    (hslot : frameBufferId frame = slotWord slot) (len : ℕ) :
    readPersistenceWrite device frame len faults =
      answerCallback device slot frame len faults := by
  have hcopied : (copyFromUser frame 0 sizeofInt faults.bufferId).1 =
      slice 0 sizeofInt frame := copyFromUser_of_complete hcomplete
  have hnamed : slotAt (readWord 32
      (copyFromUser frame 0 sizeofInt faults.bufferId).1) = .ok slot := by
    rw [hcopied]
    exact slotAt_eq_ok.mpr hslot
  rw [readPersistenceWrite, if_neg (by simp [hworking])]
  simp only [bufferIdCopy] at hcomplete
  simp only [hcomplete, hnamed, ne_eq, not_true_eq_false, if_false, bind,
    Except.bind]

/-- A fault of the second copy leaves what arrived, and an empty value. -/
theorem answerCallback_accepted_fault
    (hfault : (acceptedCopy frame faults).2 ≠ 0) (slot : SlotId) (len : ℕ) :
    answerCallback device slot frame len faults =
      .ok (fillResponse device slot
        (PaxosAccepted.ofImage (acceptedCopy frame faults).1)
        (Block.zero maxPaxosValueSize), -1) := by
  simp only [acceptedCopy] at hfault ⊢
  simp only [answerCallback, PaxosKernelDevice.setAccepted_accepted,
    PaxosKernelDevice.setAccepted_setAccepted,
    PaxosKernelDevice.clearPaxosAccepted_paxosValueVal, if_pos hfault]
  exact congrArg (fun next => Except.ok (next, (-1 : ℤ)))
    (PaxosKernelDevice.clearPaxosAccepted_setAccepted ..)

/-- Once the structure has arrived the request is removed, whatever becomes of
the value. -/
theorem answerCallback_of_accepted
    (hcomplete : (acceptedCopy frame faults).2 = 0)
    (hlen : (frameAccepted frame).value.paxosValueLen.toInt ≤
      maxPaxosValueSize) (slot : SlotId) (len : ℕ) :
    answerCallback device slot frame len faults =
      .ok ((fillResponse device slot (frameAccepted frame)
        (valueBlock (valueCopy frame faults).1
          (length_valueCopy_le faults hlen))).dequeue,
        if (valueCopy frame faults).2 ≠ 0 then -1 else (len : ℤ)) := by
  have hcopied : PaxosAccepted.ofImage
      (copyFromUser frame sizeofInt sizeofPaxosAccepted faults.accepted).1 =
        frameAccepted frame :=
    congrArg PaxosAccepted.ofImage (copyFromUser_of_complete hcomplete)
  have hbound := length_valueCopy_le faults hlen
  have hstore (block : Block maxPaxosValueSize) :
      block.store 0 (valueCopy frame faults).1 =
        some (block.write 0 (valueCopy frame faults).1 (by omega)) :=
    Block.store_eq_some (by omega)
  have hvalue : (if 0 < (frameAccepted frame).value.paxosValueLen.toInt then
        copyFromUser frame (sizeofInt + sizeofPaxosAccepted)
          (frameAccepted frame).value.paxosValueLen.toInt.toNat faults.value
      else ([], 0)) = valueCopy frame faults := rfl
  simp only [acceptedCopy] at hcomplete
  simp only [answerCallback, hcomplete, hcopied,
    PaxosKernelDevice.setAccepted_accepted,
    PaxosKernelDevice.setAccepted_setAccepted,
    PaxosKernelDevice.setAccepted_values,
    PaxosKernelDevice.clearPaxosAccepted_paxosValueVal,
    PaxosKernelDevice.clearPaxosAccepted_values,
    PaxosKernelDevice.clearPaxosAccepted_fill, hvalue, hstore, checked_some,
    bind, Except.bind, pure, Except.pure, ne_eq, not_true_eq_false, if_false]
  split
  · rfl
  · split
    · rfl
    · exact congrArg (fun next => Except.ok (next, (len : ℤ)))
        (PaxosKernelDevice.setCallback_self _ slot)

end Call

/-! ## What is kept -/

theorem responseContents_fillResponse (device : PaxosKernelDevice)
    (slot : SlotId) (accepted : PaxosAccepted)
    (value : Block maxPaxosValueSize) :
    responseContents (fillResponse device slot accepted value) slot =
      contentsOf accepted value := by
  simp [responseContents, contentsOf, fillResponse,
    PaxosKernelDevice.setAccepted, PaxosKernelDevice.setValue]

/-- The verdict of a work depends on the mark of its callback and on the
response there. -/
theorem responseFound_eq (device : PaxosKernelDevice)
    (work : PersistenceWork) :
    responseFound device work =
      (!(device.callbackBuf work.param).isDone &&
        (responseContents device work.param).iid == work.iid &&
        decide (0 <
          (responseContents device work.param).paxosValueLen.toInt)) := rfl

theorem kept_refl (device : PaxosKernelDevice) : Kept device device :=
  ⟨rfl, rfl, rfl, rfl, fun _ _ => rfl⟩

/-- A response replaced by an equal one is kept. -/
theorem kept_fillResponse {device : PaxosKernelDevice}
    {accepted : PaxosAccepted} {value : Block maxPaxosValueSize}
    (hsame : responseContents device device.firstBuf =
      contentsOf accepted value) :
    Kept device (fillResponse device device.firstBuf accepted value) where
  firstBuf_eq := rfl
  usedBuf_eq := rfl
  message_eq := rfl
  response_eq := by rw [responseContents_fillResponse, hsame]
  found_eq work hwork := by
    have hcallback : (fillResponse device device.firstBuf accepted
        value).callbackBuf = device.callbackBuf := rfl
    rw [responseFound_eq, responseFound_eq, hcallback, hwork,
      responseContents_fillResponse, hsame]

/-- A removed request is not kept. -/
theorem Kept.firstBuf_ne {device next : PaxosKernelDevice}
    (hkept : Kept device next.dequeue) : next.firstBuf ≠ device.firstBuf := by
  intro hfirst
  have hadvanced : advance device.firstBuf 1 = advance device.firstBuf 0 := by
    rw [advance_zero, ← hfirst]
    exact hkept.firstBuf_eq.trans hfirst.symm
  have hone : 1 = 0 :=
    advance_injective (by decide) (by decide) hadvanced
  exact absurd hone one_ne_zero

/-- In every reachable state, and for every answer that names the oldest
pending request and claims a length that fits: a failed call changes nothing
exactly when its faults are among those that change nothing. -/
theorem keepsOnFailure_iff {memory : DeviceMemory}
    {device : PaxosKernelDevice} {frame : List Byte}
    (hreachable : Reachable memory device) (hnames : NamesOldest device frame)
    (len : ℕ) (faults : WriteFaults) :
    KeepsOnFailure device frame len faults ↔
      ChangesNothing device frame faults := by
  have hworking := hreachable.sound.working_eq
  have hslot : frameBufferId frame = slotWord device.firstBuf :=
    eq_slotWord_iff.mpr hnames.bufferId_eq
  by_cases hid : (bufferIdCopy frame faults).2 = 0
  · have hreaches :=
      readPersistenceWrite_of_bufferId hworking hid hslot len
    by_cases hheader : (acceptedCopy frame faults).2 = 0
    · have hcall := hreaches.trans (answerCallback_of_accepted hheader
        hnames.len_le device.firstBuf len)
      by_cases hvalue : (valueCopy frame faults).2 = 0
      · -- no copy faults, and the call does not fail
        rw [if_neg (not_not.mpr hvalue)] at hcall
        refine iff_of_true ⟨_, _, hcall, fun hfailed => ?_⟩
          (Or.inr (Or.inr ⟨hheader, hvalue⟩))
        omega
      · -- the request is gone
        rw [if_pos hvalue] at hcall
        apply iff_of_false
        · rintro ⟨next, ret, hsame, hkept⟩
          obtain ⟨rfl, rfl⟩ :=
            Prod.mk.inj (Except.ok.inj (hcall.symm.trans hsame))
          exact (hkept rfl).firstBuf_ne rfl
        · rintro (hfault | ⟨hfault, -⟩ | ⟨-, hcomplete⟩)
          · exact hfault hid
          · exact hfault hheader
          · exact hvalue hcomplete
    · have hcall := hreaches.trans
        (answerCallback_accepted_fault hheader device.firstBuf len)
      constructor
      · rintro ⟨next, ret, hsame, hkept⟩
        obtain ⟨rfl, rfl⟩ :=
          Prod.mk.inj (Except.ok.inj (hcall.symm.trans hsame))
        have hresponse := (hkept rfl).response_eq
        rw [responseContents_fillResponse] at hresponse
        exact Or.inr (Or.inl ⟨hheader, hresponse.symm⟩)
      · rintro (hfault | ⟨-, hresponse⟩ | ⟨hcomplete, -⟩)
        · exact absurd hid hfault
        · exact ⟨_, _, hcall, fun _ => kept_fillResponse hresponse⟩
        · exact absurd hcomplete hheader
  · exact iff_of_true
      ⟨device, -1, readPersistenceWrite_bufferId_fault hworking hid len,
        fun _ => kept_refl device⟩ (Or.inl hid)

/-- An answer for slot 0: record number 7 with one byte of value. -/
def answerFrame : List Byte :=
  wordBytes sizeofInt (0 : Word32) ++
    PaxosAccepted.toImage ⟨0, 7, 0, 0, 0, 0, ⟨1, 0, 0⟩⟩ ++ [171]

/-- A device on which that frame names the oldest request. -/
theorem exists_namesOldest_answerFrame :
    ∃ device, Reachable zeroMemory device ∧ NamesOldest device answerFrame ∧
      device.firstBuf = 0 ∧ device.usedBuf = 1 ∧
      (device.callbackBuf 0).isDone = false := by
  obtain ⟨block, hadd, hone, hfirst⟩ := exists_firstRequest zeroMemory
  refine ⟨_, Reachable.added Reachable.init hadd, ?_, hfirst, hone, ?_⟩
  · exact
      { pending := hone.ge
        bufferId_eq := by
          rw [hfirst]
          decide +kernel
        len_nonneg := by decide +kernel
        len_le := by decide +kernel }
  · rw [PaxosKernelDevice.isDone_enqueue, kdevcharInit_currentBuf, if_pos rfl]

theorem keepsOnFailure_answerFrame :
    ∃ device, Reachable zeroMemory device ∧ NamesOldest device answerFrame ∧
      (KeepsOnFailure device answerFrame 45 ⟨4, 0, 0⟩ ↔
        ChangesNothing device answerFrame ⟨4, 0, 0⟩) := by
  obtain ⟨device, hreachable, hnames, -⟩ := exists_namesOldest_answerFrame
  exact ⟨device, hreachable, hnames,
    keepsOnFailure_iff hreachable hnames 45 ⟨4, 0, 0⟩⟩

/-- When the value cannot be copied the call fails, yet the request is gone,
and the work that waits for it counts an answer whose value never arrived. -/
theorem valueFault_removes_request :
    ∃ device next, Reachable zeroMemory device ∧
      NamesOldest device answerFrame ∧
      readPersistenceWrite device answerFrame 45 ⟨0, 0, 1⟩ = .ok (next, -1) ∧
      device.usedBuf = 1 ∧ next.usedBuf = 0 ∧
      device.firstBuf = 0 ∧ next.firstBuf = 1 ∧
      responseFound next ⟨0, 7⟩ = true ∧
      (responseContents next 0).paxosValueVal =
        Block.zero maxPaxosValueSize ∧
      ¬ KeepsOnFailure device answerFrame 45 ⟨0, 0, 1⟩ := by
  obtain ⟨device, hreachable, hnames, hfirst, hused, hdone⟩ :=
    exists_namesOldest_answerFrame
  have hslot : frameBufferId answerFrame = slotWord device.firstBuf :=
    eq_slotWord_iff.mpr hnames.bufferId_eq
  have hcall := (readPersistenceWrite_of_bufferId hreachable.sound.working_eq
    (show (bufferIdCopy answerFrame ⟨0, 0, 1⟩).2 = 0 by decide +kernel) hslot
    45).trans (answerCallback_of_accepted
      (show (acceptedCopy answerFrame ⟨0, 0, 1⟩).2 = 0 by decide +kernel)
      hnames.len_le device.firstBuf 45)
  have hfault : (valueCopy answerFrame ⟨0, 0, 1⟩).2 ≠ 0 := by decide +kernel
  rw [if_pos hfault, hfirst] at hcall
  have hresponse := responseContents_fillResponse device 0
    (frameAccepted answerFrame) (valueBlock (valueCopy answerFrame
      ⟨0, 0, 1⟩).1 (length_valueCopy_le _ hnames.len_le))
  have hblock {value : List Byte} (hvalue : value.length ≤ maxPaxosValueSize)
      (hzero : value = [0]) :
      valueBlock value hvalue = Block.zero maxPaxosValueSize := by
    subst hzero
    exact (by decide +kernel : valueBlock [0] (Nat.le_of_ble_eq_true rfl) =
      Block.zero maxPaxosValueSize)
  refine ⟨device, _, hreachable, hnames, hcall, hused, ?_, hfirst, ?_, ?_, ?_,
    ?_⟩
  · change atomicDec device.usedBuf = 0
    rw [hused]
    decide
  · change advance device.firstBuf 1 = 1
    rw [hfirst]
    rfl
  · rw [responseFound_eq]
    change (!(device.callbackBuf 0).isDone && (responseContents
      (fillResponse device 0 _ _) 0).iid == (7 : Word32) && decide (0 <
        (responseContents (fillResponse device 0 _ _) 0).paxosValueLen.toInt)) =
          true
    rw [hresponse, hdone]
    change (!false && (frameAccepted answerFrame).iid == (7 : Word32) &&
      decide (0 < (frameAccepted answerFrame).value.paxosValueLen.toInt)) = true
    decide +kernel
  · change (responseContents (fillResponse device 0 _ _) 0).paxosValueVal = _
    rw [hresponse]
    exact hblock (length_valueCopy_le _ hnames.len_le) (by decide +kernel)
  · rintro ⟨next, ret, hsame, hkept⟩
    obtain ⟨rfl, rfl⟩ := Prod.mk.inj (Except.ok.inj (hcall.symm.trans hsame))
    exact (hkept rfl).firstBuf_ne rfl

end PaxosPersistence.AnswerFaults
