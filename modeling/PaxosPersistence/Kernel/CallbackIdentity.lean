import PaxosPersistence.Core.Machine
import PaxosPersistence.Kernel.AnswerFaults

/-!
# The identity of the callbacks

The answer handler copies a structure that the process controls over the
response of a callback, pointer included, and puts the live pointer back
before it looks at the outcome of the copy.  Whatever is called in whatever
order, and whatever the copies miss, every callback therefore keeps the
response and the value buffer that were allocated for it, and these are what
`kdevchar_exit` frees.
-/

namespace PaxosPersistence.CallbackIdentity

open PaxosPersistence.AnswerFaults
open PaxosPersistence.AnswerValidation
open PaxosPersistence.ByteBlock
open PaxosPersistence.KernelDevice
open PaxosPersistence.Machine
open PaxosPersistence.Memory
open PaxosPersistence.PaxosTypes
open PaxosPersistence.ReadPersistence
open PaxosPersistence.ReadTest

/-! ## Calls of the read persistence device -/

inductive CallbackAction where
  | addMessage (msg : List Byte)
  | write (frame : List Byte) (len : ℕ) (faults : WriteFaults)
  | release
  | waitResponse (work : PersistenceWork)

def callbacks : Step PaxosKernelDevice CallbackAction Empty Halt
  | device, .addMessage msg => do
      let (next, _) ← readPersistenceAddMessage device msg
      return (next, [])
  | device, .write frame len faults => do
      let (next, _) ← readPersistenceWrite device frame len faults
      return (next, [])
  | device, .release => .ok (device.deviceRelease, [])
  | device, .waitResponse work => .ok ((waitResponse device work).1, [])

/-- A request fits into a slot; a frame names a slot and claims a value that
fits.  Nothing is asked of its pointer or of the faults. -/
def CallbackAction.Fits : CallbackAction → Prop
  | .addMessage msg => msg.length ≤ slotSize
  | .write frame _ _ => (frameBufferId frame).toNat < bufferSize ∧
      0 ≤ (frameAccepted frame).value.paxosValueLen.toInt ∧
      (frameAccepted frame).value.paxosValueLen.toInt ≤ maxPaxosValueSize
  | _ => True

/-! ## The pointers of a callback -/

/-- `callback_buf[slot]->response` -/
def responsePointer (device : PaxosKernelDevice) (slot : SlotId) : Addr :=
  (device.callbackBuf slot).response

/-- `callback_buf[slot]->response->value.paxos_value_val` -/
def valuePointer (device : PaxosKernelDevice) (slot : SlotId) : Addr :=
  (device.accepted (responsePointer device slot)).value.paxosValueVal

/-- The value buffers and responses that `kdevchar_exit` frees, in order. -/
def exitFrees (device : PaxosKernelDevice) : List (Addr × Addr) :=
  (List.finRange bufferSize).map fun slot =>
    (valuePointer device slot, responsePointer device slot)

/-- Those that `kdevchar_init` has allocated. -/
def initAllocates (memory : DeviceMemory) : List (Addr × Addr) :=
  (List.finRange bufferSize).map fun slot =>
    (memory.value slot, memory.response slot)

/-- Every callback leads to its own two objects, no two of them share one, and
what will be freed is what was allocated. -/
structure KeepsPointers (memory : DeviceMemory) (device : PaxosKernelDevice) :
    Prop where
  response_eq : ∀ slot, responsePointer device slot = memory.response slot
  value_eq : ∀ slot, valuePointer device slot = memory.value slot
  response_injective : Function.Injective (responsePointer device)
  value_injective : Function.Injective (valuePointer device)
  frees_eq : exitFrees device = initAllocates memory

theorem keepsPointers_of_owned {memory : DeviceMemory}
    {device : PaxosKernelDevice} (howned : Owned memory device) :
    KeepsPointers memory device := by
  have hresponse : responsePointer device = memory.response :=
    funext howned.response_eq
  have hvalue : valuePointer device = memory.value := by
    funext slot
    rw [valuePointer, hresponse, howned.value_eq]
  exact
    { response_eq := congrFun hresponse
      value_eq := congrFun hvalue
      response_injective := hresponse.symm ▸ memory.response_injective
      value_injective := hvalue.symm ▸ memory.value_injective
      frees_eq := by rw [exitFrees, hresponse, hvalue]; rfl }

/-! ## What every call keeps -/

/-- The range of an `atomic_t`. -/
def Counts (counter : ℤ) : Prop :=
  -2 ^ 31 ≤ counter ∧ counter < 2 ^ 31

theorem counts_bmod (counter : ℤ) : Counts (counter.bmod (2 ^ 32)) := by
  have hlow := @Int.le_bmod counter (2 ^ 32) (by decide)
  have hhigh := @Int.bmod_lt counter (2 ^ 32) (by decide)
  norm_num at hlow hhigh
  constructor <;> norm_num <;> omega

/-- The device runs, its pointers are those of its initialisation, and its
count is one that an `atomic_t` can hold. -/
structure Intact (memory : DeviceMemory) (device : PaxosKernelDevice) :
    Prop where
  sound : Sound memory device
  counts : Counts device.usedBuf

variable {memory : DeviceMemory} {device : PaxosKernelDevice}

theorem intact_kdevcharInit (memory : DeviceMemory) :
    Intact memory (kdevcharInit memory) where
  sound := ⟨kdevcharInit_working memory, kdevcharInit_owned memory⟩
  counts := by
    rw [kdevcharInit_usedBuf]
    constructor <;> norm_num

theorem Intact.addMessage (hintact : Intact memory device)
    {next : PaxosKernelDevice} {msg : List Byte} {callback : Option SlotId}
    (hcall : readPersistenceAddMessage device msg = .ok (next, callback)) :
    Intact memory next := by
  refine ⟨sound_addMessage hintact.sound hcall, ?_⟩
  by_cases hfull : bufferSize ≤ device.usedBuf
  · rw [readPersistenceAddMessage_full hfull] at hcall
    cases hcall
    exact hintact.counts
  · rw [readPersistenceAddMessage, if_neg hfull] at hcall
    obtain ⟨cleared, -, hcopied⟩ := bind_eq_ok.mp hcall
    obtain ⟨message, -, hreturned⟩ := bind_eq_ok.mp hcopied
    cases hreturned
    exact counts_bmod _

theorem Intact.write (hintact : Intact memory device) {next : PaxosKernelDevice}
    {frame : List Byte} {len : ℕ} {faults : WriteFaults} {ret : ℤ}
    (hcall : readPersistenceWrite device frame len faults = .ok (next, ret)) :
    Intact memory next := by
  refine ⟨sound_write hintact.sound hcall, ?_⟩
  obtain rfl | ⟨slot, accepted, value, rfl | rfl⟩ :=
    readPersistenceWrite_cases hcall
  · exact hintact.counts
  · exact hintact.counts
  · exact counts_bmod _

theorem callbacks_intact (device : PaxosKernelDevice) (action : CallbackAction)
    (next : PaxosKernelDevice) (events : List Empty)
    (hintact : Intact memory device)
    (hstep : callbacks device action = .ok (next, events)) :
    Intact memory next := by
  cases action with
  | addMessage msg =>
      obtain ⟨⟨added, callback⟩, hadd, hreturned⟩ := bind_eq_ok.mp hstep
      cases hreturned
      exact hintact.addMessage hadd
  | write frame len faults =>
      obtain ⟨⟨answered, ret⟩, hwrite, hreturned⟩ := bind_eq_ok.mp hstep
      cases hreturned
      exact hintact.write hwrite
  | release =>
      cases hstep
      refine ⟨⟨hintact.sound.working_eq, hintact.sound.owned.response_eq,
        hintact.sound.owned.value_eq⟩, ?_⟩
      constructor <;> norm_num [PaxosKernelDevice.deviceRelease]
  | waitResponse work =>
      cases hstep
      exact ⟨⟨hintact.sound.working_eq,
        owned_markDone device work.param hintact.sound.owned⟩, hintact.counts⟩

/-- The states that calls can lead to. -/
theorem run_callbacks_intact {actions : List CallbackAction}
    {last : PaxosKernelDevice} {events : List Empty}
    (hrun : run callbacks (kdevcharInit memory) actions = .ok (last, events)) :
    Intact memory last :=
  state_invariant_of_run_eq_ok (Intact memory) callbacks_intact
    (intact_kdevcharInit memory) hrun

/-! ## Calls that come to an end -/

/-- A frame that names a slot and claims a value that fits is handled to the
end, whatever the copies miss. -/
theorem readPersistenceWrite_ends (hworking : device.working = true)
    {frame : List Byte} {slot : SlotId}
    (hslot : frameBufferId frame = slotWord slot)
    (hlen : (frameAccepted frame).value.paxosValueLen.toInt ≤
      maxPaxosValueSize) (len : ℕ) (faults : WriteFaults) :
    ∃ next ret, readPersistenceWrite device frame len faults =
      .ok (next, ret) := by
  by_cases hid : (bufferIdCopy frame faults).2 = 0
  · have hreaches := readPersistenceWrite_of_bufferId hworking hid hslot len
    by_cases hheader : (acceptedCopy frame faults).2 = 0
    · exact ⟨_, _, hreaches.trans
        (answerCallback_of_accepted hheader hlen slot len)⟩
    · exact ⟨_, _, hreaches.trans
        (answerCallback_accepted_fault hheader slot len)⟩
  · exact ⟨_, _, readPersistenceWrite_bufferId_fault hworking hid len⟩

theorem callbacks_ends (device : PaxosKernelDevice) (action : CallbackAction)
    (hintact : Intact memory device) (hfits : action.Fits) :
    ∃ next events, callbacks device action = .ok (next, events) ∧
      Intact memory next := by
  suffices hends : ∃ next events, callbacks device action =
      .ok (next, events) by
    obtain ⟨next, events, hstep⟩ := hends
    exact ⟨next, events, hstep,
      callbacks_intact device action next events hintact hstep⟩
  cases action with
  | addMessage msg =>
      by_cases hfree : device.usedBuf < bufferSize
      · obtain ⟨block, -, hadd⟩ := readPersistenceAddMessage_eq hfree hfits
        exact ⟨_, _, bind_eq_ok.mpr ⟨_, hadd, rfl⟩⟩
      · exact ⟨_, _, bind_eq_ok.mpr
          ⟨_, readPersistenceAddMessage_full (not_lt.mp hfree) msg, rfl⟩⟩
  | write frame len faults =>
      obtain ⟨hnamed, -, hlen⟩ := hfits
      have hslot : frameBufferId frame =
          slotWord ⟨(frameBufferId frame).toNat, hnamed⟩ := by
        apply BitVec.eq_of_toNat_eq
        rw [toNat_slotWord]
      obtain ⟨next, ret, hwrite⟩ := readPersistenceWrite_ends
        hintact.sound.working_eq hslot hlen len faults
      exact ⟨_, _, bind_eq_ok.mpr ⟨_, hwrite, rfl⟩⟩
  | release => exact ⟨_, _, rfl⟩
  | waitResponse work => exact ⟨_, _, rfl⟩

/-- In every state of every sequence of calls after `kdevchar_init` the
callbacks have the pointers allocated for them, whatever the frames carry and
the copies miss; and calls with arguments that fit all come to an end. -/
theorem callbacks_keepPointers (memory : DeviceMemory)
    (actions : List CallbackAction) :
    Throughout callbacks (KeepsPointers memory) (kdevcharInit memory) actions ∧
      ((∀ action ∈ actions, action.Fits) →
        ∃ last events, run callbacks (kdevcharInit memory) actions =
          .ok (last, events)) := by
  constructor
  · intro before after state events _ hrun
    exact keepsPointers_of_owned (run_callbacks_intact hrun).sound.owned
  · intro hfits
    obtain ⟨last, events, hrun, -⟩ := run_of_state_invariant (Intact memory)
      CallbackAction.Fits callbacks_ends (intact_kdevcharInit memory) hfits
    exact ⟨last, events, hrun⟩

end PaxosPersistence.CallbackIdentity
