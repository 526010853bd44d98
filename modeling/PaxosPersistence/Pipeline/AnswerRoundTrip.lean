import PaxosPersistence.Kernel.CallbackIdentity
import PaxosPersistence.Pipeline.ReadSide

/-!
# From the encoder of the process to the callback

The process serialises a record in two steps, its own value pointer included;
the handler clears the response, copies the structure over it, repairs the
pointer and copies the value.  For every length and whatever an earlier answer
has left behind, the callback ends up with the record that was encoded, and
nothing else has changed.
-/

namespace PaxosPersistence.AnswerRoundTrip

open PaxosPersistence.AnswerFaults
open PaxosPersistence.ByteBlock
open PaxosPersistence.CallbackIdentity
open PaxosPersistence.KernelDevice
open PaxosPersistence.LmdbOperations
open PaxosPersistence.Machine
open PaxosPersistence.PaxosTypes
open PaxosPersistence.ReadPersistence
open PaxosPersistence.ReadSide
open PaxosPersistence.RingWindow
open PaxosPersistence.UserStorage

/-- The oldest request has been answered with the record, and that is all. -/
structure AnsweredWith (device next : PaxosKernelDevice)
    (accepted : UserAccepted) : Prop where
  response_eq : ∃ content : Block maxPaxosValueSize,
    content.toList = accepted.value ++
      List.replicate (maxPaxosValueSize - accepted.value.length) 0 ∧
    responseContents next device.firstBuf = contentsOf accepted.header content
  firstBuf_eq : next.firstBuf = advance device.firstBuf 1
  usedBuf_eq : next.usedBuf = device.usedBuf - 1
  currentBuf_eq : next.currentBuf = device.currentBuf
  msgBuf_eq : next.msgBuf = device.msgBuf
  callbackBuf_eq : next.callbackBuf = device.callbackBuf
  pointer_eq : valuePointer next device.firstBuf =
    valuePointer device device.firstBuf
  others : ∀ slot, slot ≠ device.firstBuf →
    responseContents next slot = responseContents device slot
  accepted_eq : ∀ pointer, pointer ≠ responsePointer device device.firstBuf →
    next.accepted pointer = device.accepted pointer
  values_eq : ∀ pointer, pointer ≠ valuePointer device device.firstBuf →
    next.values pointer = device.values pointer

/-! ## Frames with something behind them -/

section Append

variable {frame : List Byte}

theorem frameAccepted_append
    (hheader : sizeofInt + sizeofPaxosAccepted ≤ frame.length)
    (rest : List Byte) :
    frameAccepted (frame ++ rest) = frameAccepted frame := by
  rw [frameAccepted, slice_append_left hheader]
  rfl

theorem mapped_append (hmapped : Mapped frame) (rest : List Byte) :
    Mapped (frame ++ rest) := by
  have hlength : (frame ++ rest).length = frame.length + rest.length :=
    List.length_append
  constructor
  · have hheader := hmapped.header
    omega
  · intro hpositive
    rw [frameAccepted_append hmapped.header] at hpositive ⊢
    have hvalue := hmapped.value hpositive
    omega

theorem frameBufferId_append (hmapped : Mapped frame) (rest : List Byte) :
    frameBufferId (frame ++ rest) = frameBufferId frame := by
  have hheader := hmapped.header
  rw [frameBufferId, slice_append_left (by omega)]
  rfl

theorem frameValue_append (hmapped : Mapped frame) (rest : List Byte) :
    frameValue (frame ++ rest) = frameValue frame := by
  rw [frameValue, frameAccepted_append hmapped.header]
  apply slice_append_left
  by_cases hpositive : 0 < (frameAccepted frame).value.paxosValueLen.toInt
  · exact hmapped.value hpositive
  · rw [Int.toNat_of_nonpos (not_lt.mp hpositive), Nat.add_zero]
    exact hmapped.header

end Append

/-! ## The round trip -/

/-- The value buffer of an answered callback: nothing of an earlier answer is
left in it. -/
theorem toList_valueBlock {value : List Byte}
    (hvalue : value.length ≤ maxPaxosValueSize) :
    (valueBlock value hvalue).toList =
      value ++ List.replicate (maxPaxosValueSize - value.length) 0 := by
  rw [valueBlock, Block.toList_write, overwrite_zero, Block.toList_zero,
    List.drop_replicate]

theorem clientValueToBuffer_eq {accepted : UserAccepted}
    (hlen : 0 ≤ accepted.header.value.paxosValueLen.toInt)
    (bufferId : Word32) :
    clientValueToBuffer ⟨bufferId, accepted⟩ =
      .ok (wordBytes sizeofInt bufferId ++ accepted.encode) := by
  simp only [clientValueToBuffer, paxosAcceptedToBuffer_eq hlen, bind,
    Except.bind, pure, Except.pure, Option.getD_some]

variable {memory : DeviceMemory} {device : PaxosKernelDevice}

theorem answeredWith_fillResponse (hintact : Intact memory device)
    (hpending : 1 ≤ device.usedBuf) {accepted : UserAccepted}
    (hvalue : accepted.value.length ≤ maxPaxosValueSize) :
    AnsweredWith device ((fillResponse device device.firstBuf accepted.header
      (valueBlock accepted.value hvalue)).dequeue) accepted := by
  have howned := hintact.sound.owned
  constructor
  · exact ⟨valueBlock accepted.value hvalue, toList_valueBlock hvalue,
      responseContents_fillResponse device device.firstBuf accepted.header _⟩
  · rfl
  · have hhigh := hintact.counts.2
    norm_num at hhigh
    change atomicDec device.usedBuf = device.usedBuf - 1
    apply Int.bmod_eq_of_le <;> norm_num <;> omega
  · rfl
  · rfl
  · rfl
  · simp [valuePointer, responsePointer, fillResponse,
      PaxosKernelDevice.setAccepted, PaxosKernelDevice.setValue,
      PaxosKernelDevice.dequeue]
  · intro slot hslot
    have hresponse : memory.response slot ≠ memory.response device.firstBuf :=
      memory.response_injective.ne hslot
    have hvalues : memory.value slot ≠ memory.value device.firstBuf :=
      memory.value_injective.ne hslot
    simp only [responseContents, contentsOf, fillResponse,
      PaxosKernelDevice.setAccepted, PaxosKernelDevice.setValue,
      PaxosKernelDevice.dequeue, howned.response_eq, howned.value_eq,
      Function.update_of_ne hresponse, Function.update_of_ne hvalues]
  · intro pointer hpointer
    exact Function.update_of_ne hpointer _ _
  · intro pointer hpointer
    exact Function.update_of_ne hpointer _ _

/-- Whatever was called before, the frame that the process encodes for the
oldest pending request leaves the record in the callback of that request, with
zeros behind the value, removes the request and changes nothing else. -/
theorem readPersistenceWrite_clientValueToBuffer
    {actions : List CallbackAction} {events : List Empty}
    (hrun : run callbacks (kdevcharInit memory) actions = .ok (device, events))
    (hpending : 1 ≤ device.usedBuf) {accepted : UserAccepted}
    (hsized : Sized accepted) (rest : List Byte) (len : ℕ) :
    ∃ frame next,
      clientValueToBuffer ⟨slotWord device.firstBuf, accepted⟩ = .ok frame ∧
      readPersistenceWrite device (frame ++ rest) len WriteFaults.none =
        .ok (next, len) ∧
      AnsweredWith device next accepted := by
  have hintact := run_callbacks_intact hrun
  have hlength := accepted.length_eq
  have hvalue : accepted.value.length ≤ maxPaxosValueSize := by
    have hle := hsized.len_le
    omega
  refine ⟨_, _, clientValueToBuffer_eq hsized.len_nonneg _, ?_,
    answeredWith_fillResponse hintact hpending hvalue⟩
  have hmapped := mapped_encode (slotWord device.firstBuf) accepted
  have hheader := frameAccepted_append hmapped.header rest
  have hcontent := frameValue_append hmapped rest
  rw [frameAccepted_encode] at hheader
  rw [frameValue_encode] at hcontent
  have hanswer := answerCallback_eq (mapped_append hmapped rest)
    (hcontent.symm ▸ hvalue) device device.firstBuf len
  simp only [hheader, hcontent] at hanswer
  rw [readPersistenceWrite_eq_bind hintact.sound.working_eq (mapped_append hmapped rest),
    frameBufferId_append hmapped, frameBufferId_encode, slotAt_slotWord,
    Except.bind, hanswer]

/-- A record with one byte of value answers a request of zeros. -/
theorem exists_answeredWith :
    ∃ device next : PaxosKernelDevice, ∃ frame : List Byte,
      device.usedBuf = 1 ∧
      clientValueToBuffer ⟨slotWord device.firstBuf,
        ⟨⟨0, 7, 0, 0, 0, 0, ⟨1, 0, 0⟩⟩, [5], rfl⟩⟩ = .ok frame ∧
      readPersistenceWrite device (frame ++ []) 45 WriteFaults.none =
        .ok (next, 45) := by
  obtain ⟨block, hadd, hone, -⟩ := exists_firstRequest zeroMemory
  have hrun : run callbacks (kdevcharInit zeroMemory) [.addMessage []] =
      .ok ((kdevcharInit zeroMemory).enqueue block, []) := by
    apply run_cons_eq_ok.mpr
    exact ⟨_, [], [], by simp only [callbacks, hadd]; rfl, rfl, rfl⟩
  obtain ⟨frame, next, hframe, hwrite, -⟩ :=
    @readPersistenceWrite_clientValueToBuffer zeroMemory _ _ _ hrun hone.ge
      ⟨⟨0, 7, 0, 0, 0, 0, ⟨1, 0, 0⟩⟩, [5], rfl⟩ ⟨by decide, by decide⟩ [] 45
  exact ⟨_, next, frame, hone, hframe, hwrite⟩

end PaxosPersistence.AnswerRoundTrip
