import PaxosPersistence.Core.Machine
import PaxosPersistence.Kernel.AnswerValidation

/-!
# What a request frame may contain

The read ring copies a request into its slot at the size it is given and out of
it at the length the request's own header claims; only the header of the slot
is cleared in between.  A slot is used again and again, by requests of
different processes.  When nothing is pending, a read delivers what is left in
the slot.  This module determines the sequences of calls in which no copy
passes the end of a slot and no frame says anything about earlier requests.
-/

namespace PaxosPersistence.RequestBounds

open PaxosPersistence.AnswerValidation (emptyFrame mapped_emptyFrame)
open PaxosPersistence.ByteBlock
open PaxosPersistence.DeviceRing
open PaxosPersistence.KernelDevice
open PaxosPersistence.Machine
open PaxosPersistence.Memory
open PaxosPersistence.PaxosTypes
open PaxosPersistence.ReadPersistence
open PaxosPersistence.RingWindow
open PaxosPersistence.WritePersistence

/-- An answer whose copies can be complete. -/
structure Answer where
  frame : List Byte
  len : ℕ
  mapped : Mapped frame

/-- The device, and the requests that are pending in it, oldest first. -/
structure Requests where
  device : PaxosKernelDevice
  pending : List (List Byte)

/-- A device that has just been initialised. -/
def Requests.start (memory : DeviceMemory) : Requests :=
  ⟨kdevcharInit memory, []⟩

inductive RequestCall where
  | add (msg : List Byte)
  | read (buffer : List Byte)
  | answer (answer : Answer)
  | release

/-- A call of the device, with what a read delivers as its event.  The reader
answers only what it has been asked, so that slots come to be used again. -/
def requestCall : Step Requests RequestCall (List Byte × ℤ) Halt
  | state, .add msg => do
      let (device, callback) ← readPersistenceAddMessage state.device msg
      match callback with
      | none => return (⟨device, state.pending⟩, [])
      | some _ => return (⟨device, state.pending ++ [msg]⟩, [])
  | state, .read buffer => do
      let delivered ← readPersistenceRead state.device buffer ReadFaults.none
      return (state, [delivered])
  | state, .answer answer =>
      match state.pending with
      | [] => .ok (state, [])
      | _ :: pending => do
          let (device, _) ← readPersistenceWrite state.device answer.frame
            answer.len WriteFaults.none
          return (⟨device, pending⟩, [])
  | state, .release => .ok (⟨state.device.deviceRelease, []⟩, [])

/-- Wherever this request is the oldest one in this slot, whatever memory the
device was given and whatever calls came before, a read delivers the same. -/
def DeliveredAlike (device : PaxosKernelDevice) (msg buffer : List Byte) :
    Prop :=
  ∀ memory calls other events pending,
    run requestCall (.start memory) calls = .ok (other, events) →
    other.pending = msg :: pending → other.device.firstBuf = device.firstBuf →
      readPersistenceRead other.device buffer ReadFaults.none =
        readPersistenceRead device buffer ReadFaults.none

/-- No copy of an addition or a read passes the end of its slot, and what is
delivered depends on the slot index and the pending request alone. -/
def IsolatedCall (state : Requests) (_history : List (List Byte × ℤ)) :
    RequestCall → Prop
  | .add msg => readPersistenceAddMessage state.device msg ≠ .error .memory
  | .read buffer =>
      readPersistenceRead state.device buffer ReadFaults.none ≠
          .error .memory ∧
        ∀ msg pending, state.pending = msg :: pending →
          DeliveredAlike state.device msg buffer
  | .answer _ => True
  | .release => True

/-- A request that is added fits into a slot.  A request that is read claims,
with zeros in place of missing header bytes, no more than it and the cleared
header bring.  When nothing is pending, what has been left in the slot claims
no more than the slot. -/
def ContainedCall (state : Requests) (_history : List (List Byte × ℤ)) :
    RequestCall → Prop
  | .add msg => state.device.usedBuf < bufferSize → msg.length ≤ slotSize
  | .read _ =>
      match state.pending with
      | [] =>
          sizeOfLen (PaxosAccepted.ofImage (state.device.msgBuf
            state.device.firstBuf).toList).value.paxosValueLen ≤ slotSize
      | msg :: _ =>
          sizeOfLen (requestHeader msg).value.paxosValueLen ≤
            max sizeofPaxosAccepted msg.length
  | .answer _ => True
  | .release => True

/-- Each addition and each read that the sequence comes to is isolated. -/
def RunIsolated (memory : DeviceMemory) (calls : List RequestCall) : Prop :=
  Guarded requestCall IsolatedCall (.start memory) [] calls

/-! ## What a request leaves of its slot -/

/-- A request that fits is laid over what the slot held before. -/
theorem readPersistenceAddMessage_overlay {device : PaxosKernelDevice}
    (hfree : device.usedBuf < bufferSize) {msg : List Byte}
    (hsize : msg.length ≤ slotSize) :
    ∃ block, block.toList = overwrite 0 (requestImage msg)
        (device.msgBuf device.currentBuf).toList ∧
      readPersistenceAddMessage device msg =
        .ok (device.enqueue block, some device.currentBuf) := by
  have hclear : 0 + (List.replicate sizeofPaxosAccepted (0 : Byte)).length ≤
      slotSize := by
    simp [sizeofPaxosAccepted, slotSize]
  have hcopy : 0 + msg.length ≤ slotSize := by omega
  refine ⟨((device.msgBuf device.currentBuf).write 0 _ hclear).write 0 _ hcopy,
    ?_, ?_⟩
  · have htail : sizeofPaxosAccepted + (msg.length - sizeofPaxosAccepted) =
        (requestImage msg).length := by
      rw [length_requestImage]
      omega
    rw [Block.toList_write, Block.toList_write, overwrite_zero, overwrite_zero,
      overwrite_zero, List.drop_append, List.drop_replicate, List.drop_drop,
      List.length_replicate, htail, requestImage, List.append_assoc]
  · rw [readPersistenceAddMessage, if_neg (by omega)]
    simp only [Block.store_eq_some hclear, Block.store_eq_some hcopy,
      checked_some, bind, Except.bind, pure, Except.pure]

theorem holdsRequest_of_overlay {block old : Block slotSize} {msg : List Byte}
    (hblock : block.toList = overwrite 0 (requestImage msg) old.toList) :
    HoldsRequest block msg := by
  rw [HoldsRequest, hblock]
  exact slice_overwrite_self _ (Nat.zero_le _)

/-- A slot holds a request that fits into it. -/
def HoldsFitting (block : Block slotSize) (msg : List Byte) : Prop :=
  HoldsRequest block msg ∧ msg.length ≤ slotSize

/-- An answer removes the oldest request. -/
theorem ringHolds_answered {device next : PaxosKernelDevice}
    {queue : List (List Byte)} {msg frame : List Byte} {len : ℕ} {ret : ℤ}
    (hring : RingHolds HoldsFitting device (msg :: queue))
    (hmapped : Mapped frame)
    (hcall : readPersistenceWrite device frame len WriteFaults.none =
      .ok (next, ret)) : RingHolds HoldsFitting next queue := by
  rw [readPersistenceWrite_eq_bind hring.working_eq hmapped] at hcall
  cases hslot : slotAt (frameBufferId frame) with
  | error halt =>
      rw [hslot] at hcall
      cases hcall
  | ok slot =>
      rw [hslot, Except.bind] at hcall
      by_cases hvalue : (frameValue frame).length ≤ maxPaxosValueSize
      · rw [answerCallback_eq hmapped hvalue] at hcall
        obtain ⟨rfl, -⟩ := Prod.mk.inj (Except.ok.inj hcall)
        have hdequeued := hring.dequeue
        exact ⟨hdequeued.working_eq, hdequeued.usedBuf_eq,
          hdequeued.occupies, hdequeued.slots⟩
      · rw [answerCallback_overrun hmapped (not_le.mp hvalue)] at hcall
        cases hcall

/-- The ring holds the pending requests. -/
def Sound (state : Requests) : Prop :=
  RingHolds HoldsFitting state.device state.pending

theorem sound_start (memory : DeviceMemory) : Sound (.start memory) :=
  RingHolds.kdevcharInit memory

section Calls

variable {state next : Requests}

/-- An addition that comes to an end was refused, or has put a request that
fits into a free slot. -/
theorem Sound.add (hsound : Sound state) {msg : List Byte}
    {events : List (List Byte × ℤ)}
    (hcall : requestCall state (.add msg) = .ok (next, events)) :
    Sound next := by
  by_cases hfree : state.device.usedBuf < bufferSize
  · by_cases hsize : msg.length ≤ slotSize
    · obtain ⟨block, hblock, hadd⟩ :=
        readPersistenceAddMessage_overlay hfree hsize
      simp only [requestCall, hadd, bind, Except.bind, pure, Except.pure,
        Except.ok.injEq, Prod.mk.injEq] at hcall
      rw [← hcall.1]
      exact hsound.enqueue (hsound.usedBuf_lt_iff.mp hfree)
        ⟨holdsRequest_of_overlay hblock, hsize⟩
    · simp only [requestCall, readPersistenceAddMessage_overrun hfree
        (not_le.mp hsize), bind, Except.bind] at hcall
      cases hcall
  · simp only [requestCall, readPersistenceAddMessage_full (not_lt.mp hfree),
      bind, Except.bind, pure, Except.pure, Except.ok.injEq,
      Prod.mk.injEq] at hcall
    rw [← hcall.1]
    exact hsound

theorem Sound.answer (hsound : Sound state) {answer : Answer}
    {events : List (List Byte × ℤ)}
    (hcall : requestCall state (.answer answer) = .ok (next, events)) :
    Sound next := by
  rw [requestCall] at hcall
  cases hpending : state.pending with
  | nil =>
      rw [hpending] at hcall
      cases hcall
      exact hsound
  | cons msg pending =>
      rw [hpending] at hcall
      obtain ⟨⟨device, ret⟩, hwrite, hnext⟩ := bind_eq_ok.mp hcall
      cases hnext
      have hring := hsound
      rw [Sound, hpending] at hring
      exact ringHolds_answered hring answer.mapped hwrite

/-- Every call that comes to an end keeps the ring. -/
theorem sound_of_requestCall (state : Requests) (call : RequestCall)
    (next : Requests) (events : List (List Byte × ℤ)) (hsound : Sound state)
    (hcall : requestCall state call = .ok (next, events)) : Sound next := by
  cases call with
  | add msg => exact hsound.add hcall
  | read buffer =>
      obtain ⟨delivered, -, hnext⟩ := bind_eq_ok.mp hcall
      cases hnext
      exact hsound
  | answer answer => exact hsound.answer hcall
  | release =>
      cases hcall
      exact hsound.deviceRelease

/-- Only a request that does not fit is copied past its slot. -/
theorem isolated_add_iff (state : Requests) (history : List (List Byte × ℤ))
    (msg : List Byte) :
    IsolatedCall state history (.add msg) ↔
      ContainedCall state history (.add msg) := by
  constructor
  · intro hisolated hfree
    by_contra hsize
    exact hisolated
      (readPersistenceAddMessage_overrun hfree (not_le.mp hsize))
  · intro hcontained
    by_cases hfree : state.device.usedBuf < bufferSize
    · obtain ⟨block, -, hadd⟩ :=
        readPersistenceAddMessage_overlay hfree (hcontained hfree)
      intro hoverrun
      cases hadd.symm.trans hoverrun
    · intro hoverrun
      cases (readPersistenceAddMessage_full (not_lt.mp hfree) msg).symm.trans
        hoverrun

end Calls

/-! ## Reads -/

section Reads

variable {device : PaxosKernelDevice} {llen : ℕ}

/-- A claim beyond the slot is copied out of its bounds. -/
theorem readPersistenceRead_overrun (hworking : device.working = true)
    (hllen : sizeOfLen (PaxosAccepted.ofImage
      (device.msgBuf device.firstBuf).toList).value.paxosValueLen = llen)
    (hbound : slotSize < llen) (buffer : List Byte) (faults : ReadFaults) :
    readPersistenceRead device buffer faults = .error .memory := by
  have hload : (device.msgBuf device.firstBuf).load 0 llen = none :=
    Block.load_eq_none (by omega)
  rw [readPersistenceRead, if_neg (by simp [hworking])]
  simp only [hllen, hload, checked_none, bind, Except.bind]

theorem readPersistenceRead_ne_memory_iff (hworking : device.working = true)
    (hllen : sizeOfLen (PaxosAccepted.ofImage
      (device.msgBuf device.firstBuf).toList).value.paxosValueLen = llen)
    (buffer : List Byte) :
    readPersistenceRead device buffer ReadFaults.none ≠ .error .memory ↔
      llen ≤ slotSize := by
  constructor
  · intro hbounds
    by_contra hbound
    exact hbounds (readPersistenceRead_overrun hworking hllen
      (not_le.mp hbound) buffer ReadFaults.none)
  · intro hbound hoverrun
    cases (readPersistenceRead_eq hworking hllen hbound buffer).symm.trans
      hoverrun

end Reads

/-- What a contained request is delivered as. -/
def requestFrame (msg : List Byte) (slot : SlotId) : List Byte :=
  wordBytes sizeofInt (slotWord slot) ++
    (requestImage msg).take (sizeOfLen (requestHeader msg).value.paxosValueLen)

/-- The oldest request, if it claims no more than it brings, is delivered
without anything else. -/
theorem Sound.read_contained {state : Requests} (hsound : Sound state)
    {msg : List Byte} {pending : List (List Byte)}
    (hpending : state.pending = msg :: pending)
    (hclaimed : sizeOfLen (requestHeader msg).value.paxosValueLen ≤
      max sizeofPaxosAccepted msg.length) (buffer : List Byte) :
    readPersistenceRead state.device buffer ReadFaults.none =
      .ok (overwrite 0 (requestFrame msg state.device.firstBuf) buffer,
        (requestFrame msg state.device.firstBuf).length) := by
  have hring := hsound
  rw [Sound, hpending] at hring
  obtain ⟨hholds, hfits⟩ := hring.head
  have hlength := length_requestImage msg
  have hbound : sizeOfLen (requestHeader msg).value.paxosValueLen ≤
      slotSize := by
    simp only [slotSize, sizeofPaxosAccepted] at *
    omega
  have htake : slice 0 (sizeOfLen (requestHeader msg).value.paxosValueLen)
      (state.device.msgBuf state.device.firstBuf).toList =
        (requestImage msg).take
          (sizeOfLen (requestHeader msg).value.paxosValueLen) := by
    rw [← congrArg (List.take _) hholds, slice_zero, slice_zero,
      List.take_take, Nat.min_eq_left (by omega)]
  have hframe : (requestFrame msg state.device.firstBuf).length =
      sizeOfLen (requestHeader msg).value.paxosValueLen + sizeofInt := by
    rw [requestFrame, List.length_append, length_wordBytes,
      List.length_take_of_le (by omega), Nat.add_comm]
  rw [readPersistenceRead_eq hring.working_eq (by rw [hholds.ofImage_eq])
    hbound buffer, readFrame, htake, hframe, Nat.cast_add]
  rfl

/-! ## The same request over other bytes -/

/-- The answer of zeros, which slot 0 gets. -/
def emptyAnswer : Answer := ⟨emptyFrame, 44, mapped_emptyFrame⟩

/-- So many empty requests, each answered before the next. -/
def rounds (count : ℕ) : List RequestCall :=
  (List.replicate count [.add [], .answer emptyAnswer]).flatten

/-- Nothing is pending. -/
structure EmptyAt (state : Requests) (slot : SlotId) : Prop where
  sound : Sound state
  pending_eq : state.pending = []
  firstBuf_eq : state.device.firstBuf = slot

section Rounds

variable {state : Requests} {slot : SlotId}

theorem EmptyAt.currentBuf_eq (hempty : EmptyAt state slot) :
    state.device.currentBuf = slot := by
  have hcurrent := hempty.sound.occupies.current_eq
  rw [hempty.pending_eq, hempty.firstBuf_eq] at hcurrent
  exact hcurrent.trans (advance_zero slot)

/-- A request that fits is laid over what its slot held. -/
theorem EmptyAt.add (hempty : EmptyAt state slot) {msg : List Byte}
    (hsize : msg.length ≤ slotSize) :
    ∃ next, requestCall state (.add msg) = .ok (next, []) ∧ Sound next ∧
      next.pending = [msg] ∧ next.device.firstBuf = slot ∧
      (next.device.msgBuf slot).toList =
        overwrite 0 (requestImage msg) (state.device.msgBuf slot).toList ∧
      ∀ other ≠ slot, next.device.msgBuf other = state.device.msgBuf other := by
  have hfree : state.device.usedBuf < bufferSize := by
    rw [hempty.sound.usedBuf_lt_iff, hempty.pending_eq]
    decide
  obtain ⟨block, hblock, hadd⟩ := readPersistenceAddMessage_overlay hfree hsize
  rw [hempty.currentBuf_eq] at hblock
  have hcall : requestCall state (.add msg) =
      .ok (⟨state.device.enqueue block, [msg]⟩, []) := by
    simp only [requestCall, hadd, hempty.pending_eq, List.nil_append, bind,
      Except.bind, pure, Except.pure]
  have hslot : (state.device.enqueue block).msgBuf =
      Function.update state.device.msgBuf slot block := by
    rw [← hempty.currentBuf_eq]
    rfl
  refine ⟨_, hcall, hempty.sound.add hcall, rfl, hempty.firstBuf_eq, ?_, ?_⟩
  · dsimp only
    rw [hslot, Function.update_self, hblock]
  · intro other hother
    dsimp only
    rw [hslot, Function.update_of_ne hother]

/-- The answer of zeros removes the request it finds and touches no slot. -/
theorem exists_answered (hsound : Sound state) {msg : List Byte}
    (hpending : state.pending = [msg])
    (hfirst : state.device.firstBuf = slot) :
    ∃ next, requestCall state (.answer emptyAnswer) = .ok (next, []) ∧
      EmptyAt next (advance slot 1) ∧
      next.device.msgBuf = state.device.msgBuf := by
  have hslot : slotAt (frameBufferId emptyFrame) = .ok 0 := by
    decide +kernel
  have hvalue : (frameValue emptyFrame).length ≤ maxPaxosValueSize := by
    decide +kernel
  have hwrite : readPersistenceWrite state.device emptyFrame 44
      WriteFaults.none = .ok ((fillResponse state.device 0
        (frameAccepted emptyFrame)
        (valueBlock (frameValue emptyFrame) hvalue)).dequeue, 44) := by
    rw [readPersistenceWrite_eq_bind hsound.working_eq mapped_emptyFrame,
      hslot, Except.bind, answerCallback_eq mapped_emptyFrame hvalue,
      Nat.cast_ofNat]
  have hcall : requestCall state (.answer emptyAnswer) =
      .ok (⟨(fillResponse state.device 0 (frameAccepted emptyFrame)
        (valueBlock (frameValue emptyFrame) hvalue)).dequeue, []⟩, []) := by
    simp only [requestCall, hpending, emptyAnswer, hwrite, bind, Except.bind,
      pure, Except.pure]
  exact ⟨_, hcall, ⟨hsound.answer hcall, rfl, congrArg (advance · 1) hfirst⟩,
    rfl⟩

/-- A round leaves every slot alone but the one it comes through. -/
theorem EmptyAt.round (hempty : EmptyAt state slot) :
    ∃ next, run requestCall state [.add [], .answer emptyAnswer] =
        .ok (next, []) ∧ EmptyAt next (advance slot 1) ∧
      ∀ other ≠ slot, next.device.msgBuf other = state.device.msgBuf other := by
  obtain ⟨middle, hadd, hsound, hpending, hfirst, -, hothers⟩ :=
    @EmptyAt.add _ _ hempty [] (Nat.zero_le slotSize)
  obtain ⟨next, hanswer, hnext, hslots⟩ :=
    exists_answered hsound hpending hfirst
  refine ⟨next, run_cons_eq_ok.mpr ⟨middle, [], [], hadd, run_cons_eq_ok.mpr
    ⟨next, [], [], hanswer, rfl, rfl⟩, rfl⟩, hnext, ?_⟩
  rw [hslots]
  exact hothers

theorem EmptyAt.rounds (hempty : EmptyAt state slot) (count : ℕ) :
    ∃ next, run requestCall state (rounds count) = .ok (next, []) ∧
      EmptyAt next (advance slot count) ∧
      ∀ other ∉ window slot count,
        next.device.msgBuf other = state.device.msgBuf other := by
  induction count with
  | zero =>
      refine ⟨state, rfl, ?_, fun _ _ => rfl⟩
      rwa [advance_zero]
  | succ count ih =>
      obtain ⟨middle, hrun, hmiddle, hkept⟩ := ih
      obtain ⟨next, hround, hnext, hothers⟩ := hmiddle.round
      refine ⟨next, ?_, by rwa [advance_advance] at hnext, ?_⟩
      · rw [RequestBounds.rounds, List.replicate_succ', List.flatten_concat]
        exact run_append_eq_ok.mpr ⟨middle, [], [], hrun, hround, rfl⟩
      · intro other hother
        rw [window_concat, List.mem_append, not_or, List.mem_singleton]
          at hother
        rw [hothers other hother.2, hkept other hother.1]

end Rounds

/-- Any request that fits can come to be the oldest one in any slot, over any
240 bytes that an earlier request has left there. -/
theorem exists_run_over (memory : DeviceMemory) (slot : SlotId)
    {msg earlier : List Byte} (hsize : msg.length ≤ slotSize)
    (hearlier : earlier.length = slotSize) :
    ∃ calls state, run requestCall (.start memory) calls = .ok (state, []) ∧
      state.pending = [msg] ∧ state.device.firstBuf = slot ∧
      (state.device.msgBuf slot).toList =
        overwrite 0 (requestImage msg) earlier := by
  have hadvance : advance (0 : SlotId) slot.val = slot := by
    apply Fin.ext
    exact (congrArg (· % bufferSize) (Nat.zero_add slot.val)).trans
      (Nat.mod_eq_of_lt slot.isLt)
  have houtside : slot ∉ window (0 : SlotId) slot.val := by
    have hfree := advance_notMem_window (0 : SlotId) slot.isLt
    rwa [hadvance] at hfree
  -- up to the slot, and the earlier request into it
  have hstart : EmptyAt (.start memory) 0 := ⟨sound_start memory, rfl, rfl⟩
  obtain ⟨before, hbefore, hempty, -⟩ := hstart.rounds slot.val
  rw [hadvance] at hempty
  obtain ⟨filled, hfill, hfilled, -, -, hleft, -⟩ := hempty.add hearlier.le
  have himage : requestImage earlier = earlier := by
    rw [requestImage, hearlier]
    exact List.append_nil earlier
  rw [himage, overwrite_all (by rw [List.Vector.toList_length, hearlier])]
    at hleft
  -- a release, and up to the slot once more
  have hreleased : EmptyAt ⟨filled.device.deviceRelease, []⟩ 0 :=
    ⟨hfilled.deviceRelease, rfl, rfl⟩
  obtain ⟨again, hagain, hempty, hkept⟩ := hreleased.rounds slot.val
  rw [hadvance] at hempty
  obtain ⟨last, hlast, -, hpending, hfirst, hslot, -⟩ := hempty.add hsize
  refine ⟨rounds slot.val ++ [.add earlier, .release] ++ rounds slot.val ++
    [.add msg], last, ?_, hpending, hfirst, ?_⟩
  · have hrelease : run requestCall before [.add earlier, .release] =
        .ok (⟨filled.device.deviceRelease, []⟩, []) :=
      run_cons_eq_ok.mpr ⟨filled, [], [], hfill, rfl, rfl⟩
    apply run_concat_eq_ok.mpr
    refine ⟨again, [], [], ?_, hlast, rfl⟩
    apply run_append_eq_ok.mpr
    refine ⟨_, [], [], ?_, hagain, rfl⟩
    exact run_append_eq_ok.mpr ⟨before, [], [], hbefore, hrelease, rfl⟩
  · rw [hslot, hkept slot houtside]
    exact congrArg _ hleft

/-- One byte behind a request, from what an earlier request has left. -/
theorem slice_overlay {msg : List Byte} {offset : ℕ}
    (hoffset : (requestImage msg).length ≤ offset) (hslot : offset < slotSize)
    (byte : Byte) :
    slice offset 1 (overwrite 0 (requestImage msg)
      (List.replicate slotSize byte)) = [byte] := by
  have hone : min 1 (slotSize - offset) = 1 := by omega
  rw [slice_overwrite_after (Nat.zero_le _) (by omega), slice,
    List.drop_replicate, List.take_replicate, hone, List.replicate_one]

/-- Two reads that deliver the same have found the same in the slot, as far as
the claim goes. -/
theorem slice_of_read_eq {device other : PaxosKernelDevice} {llen : ℕ}
    {buffer : List Byte} (hworking : device.working = true)
    (hotherWorking : other.working = true)
    (hllen : sizeOfLen (PaxosAccepted.ofImage
      (device.msgBuf device.firstBuf).toList).value.paxosValueLen = llen)
    (hotherLlen : sizeOfLen (PaxosAccepted.ofImage
      (other.msgBuf other.firstBuf).toList).value.paxosValueLen = llen)
    (hbound : llen ≤ slotSize)
    (hread : readPersistenceRead other buffer ReadFaults.none =
      readPersistenceRead device buffer ReadFaults.none) :
    slice 0 llen (other.msgBuf other.firstBuf).toList =
      slice 0 llen (device.msgBuf device.firstBuf).toList := by
  rw [readPersistenceRead_eq hworking hllen hbound,
    readPersistenceRead_eq hotherWorking hotherLlen hbound, Except.ok.injEq,
    Prod.mk.injEq, overwrite_zero, overwrite_zero] at hread
  have hlength (block : Block slotSize) (slot : SlotId) :
      (readFrame slot block llen).length = sizeofInt + llen := by
    rw [readFrame, List.length_append, length_wordBytes, length_slice_of_le]
    rwa [Nat.zero_add, List.Vector.toList_length]
  have hframe := (List.append_inj hread.1 (by rw [hlength, hlength])).1
  exact (List.append_inj hframe (by
    rw [length_wordBytes, length_wordBytes])).2

/-- A pending request is delivered within bounds and alike everywhere exactly
if it claims no more than it brings. -/
theorem isolated_read_iff {state : Requests} (hsound : Sound state)
    {msg : List Byte} {pending : List (List Byte)}
    (hpending : state.pending = msg :: pending) (buffer : List Byte) :
    (readPersistenceRead state.device buffer ReadFaults.none ≠
        .error .memory ∧ DeliveredAlike state.device msg buffer) ↔
      sizeOfLen (requestHeader msg).value.paxosValueLen ≤
        max sizeofPaxosAccepted msg.length := by
  constructor
  · rintro ⟨hbounds, halike⟩
    by_contra hclaim
    have hring := hsound
    rw [Sound, hpending] at hring
    obtain ⟨hholds, hfits⟩ := hring.head
    have hllen : sizeOfLen (PaxosAccepted.ofImage (state.device.msgBuf
        state.device.firstBuf).toList).value.paxosValueLen =
          sizeOfLen (requestHeader msg).value.paxosValueLen := by
      rw [hholds.ofImage_eq]
    have hbound :=
      (readPersistenceRead_ne_memory_iff hring.working_eq hllen buffer).mp
        hbounds
    have hlength := length_requestImage msg
    -- over another byte than the one behind the request here
    obtain ⟨byte, hbyte⟩ : ∃ byte : Byte, [byte] ≠ slice
        (requestImage msg).length 1
        (state.device.msgBuf state.device.firstBuf).toList := by
      by_cases hzero : [0] = slice (requestImage msg).length 1
          (state.device.msgBuf state.device.firstBuf).toList
      · refine ⟨1, fun hone => ?_⟩
        exact absurd (hone.trans hzero.symm) (by decide)
      · exact ⟨0, hzero⟩
    obtain ⟨calls, other, hrun, hother, hfirst, hslot⟩ := exists_run_over
      zeroMemory state.device.firstBuf hfits
      (List.length_replicate : (List.replicate slotSize byte).length = _)
    have hotherRing : RingHolds HoldsFitting other.device other.pending :=
      state_invariant_of_run_eq_ok Sound sound_of_requestCall
        (sound_start zeroMemory) hrun
    rw [hother] at hotherRing
    have hsame := slice_of_read_eq hring.working_eq hotherRing.working_eq hllen
      (by rw [hotherRing.head.1.ofImage_eq]) hbound
      (halike zeroMemory calls other [] [] hrun hother hfirst)
    rw [hfirst, hslot] at hsame
    have hpart := congrArg (slice (requestImage msg).length 1) hsame
    rw [slice_slice (by omega), slice_slice (by omega), Nat.zero_add,
      slice_overlay le_rfl (by omega)] at hpart
    exact hbyte hpart
  · intro hclaimed
    have hread := hsound.read_contained hpending hclaimed buffer
    refine ⟨fun hoverrun => ?_, ?_⟩
    · cases hread.symm.trans hoverrun
    · intro memory calls other events rest hrun hother hfirst
      have hotherSound := state_invariant_of_run_eq_ok Sound
        sound_of_requestCall (sound_start memory) hrun
      rw [hotherSound.read_contained hother hclaimed buffer, hfirst, hread]

/-- In every state that keeps the ring a call is isolated exactly if it is
contained. -/
theorem isolatedCall_iff (state : Requests) (history : List (List Byte × ℤ))
    (call : RequestCall) (hsound : Sound state) :
    IsolatedCall state history call ↔ ContainedCall state history call := by
  cases call with
  | add msg => exact isolated_add_iff state history msg
  | read buffer =>
      cases hpending : state.pending with
      | nil =>
          simp only [IsolatedCall, ContainedCall, hpending]
          rw [readPersistenceRead_ne_memory_iff hsound.working_eq rfl]
          exact and_iff_left fun _ _ hnone => by cases hnone
      | cons msg pending =>
          simp only [IsolatedCall, ContainedCall, hpending]
          rw [← isolated_read_iff hsound hpending buffer]
          constructor
          · intro hisolated
            exact ⟨hisolated.1, hisolated.2 msg pending rfl⟩
          · rintro ⟨hbounds, halike⟩
            refine ⟨hbounds, fun _ _ hsame => ?_⟩
            cases hsame
            exact halike
  | answer answer => exact Iff.rfl
  | release => exact Iff.rfl

/-- A sequence of calls is bounded and leaks nothing exactly if each of its
additions and reads is contained. -/
theorem runIsolated_iff_contained (memory : DeviceMemory)
    (calls : List RequestCall) :
    RunIsolated memory calls ↔
      Guarded requestCall ContainedCall (.start memory) [] calls :=
  guarded_congr sound_of_requestCall
    (fun state history call hsound =>
      isolatedCall_iff state history call hsound)
    (sound_start memory)

/-- The header of a request for number 7 that claims four bytes of value it
does not bring. -/
def leakingRequest : List Byte :=
  PaxosAccepted.toImage ⟨0, 7, 0, 0, 0, 0, ⟨4, 0, 0⟩⟩

/-- That request, read from the slot where an earlier one of 240 bytes was. -/
def leakingCalls (byte : Byte) : List RequestCall :=
  [.add (List.replicate slotSize byte), .release, .add leakingRequest,
    .read []]

/-- What the reads of a run deliver. -/
def observedReads (memory : DeviceMemory) (calls : List RequestCall) :
    Option (List (List Byte × ℤ)) :=
  observeRun requestCall (fun _ events => events) (.start memory) calls

/-- Memory that happens to hold ones. -/
def onesMemory : DeviceMemory :=
  { zeroMemory with message := fun _ => List.Vector.replicate slotSize 1 }

theorem run_leakingCalls (byte : Byte) :
    ∃ state, run requestCall (.start zeroMemory)
        [.add (List.replicate slotSize byte), .release, .add leakingRequest] =
          .ok (state, []) ∧ state.pending = [leakingRequest] := by
  have hsize : (List.replicate slotSize byte).length ≤ slotSize :=
    List.length_replicate.le
  have hstart : EmptyAt (.start zeroMemory) 0 :=
    ⟨sound_start zeroMemory, rfl, rfl⟩
  obtain ⟨filled, hfill, hfilled, -⟩ := hstart.add hsize
  have hreleased : EmptyAt ⟨filled.device.deviceRelease, []⟩ 0 :=
    ⟨hfilled.deviceRelease, rfl, rfl⟩
  obtain ⟨last, hlast, -, hpending, -⟩ :=
    hreleased.add (show leakingRequest.length ≤ slotSize by decide +kernel)
  exact ⟨last, run_cons_eq_ok.mpr ⟨filled, [], [], hfill, run_cons_eq_ok.mpr
    ⟨_, [], [], rfl, run_cons_eq_ok.mpr ⟨last, [], [], hlast, rfl, rfl⟩,
      rfl⟩, rfl⟩, hpending⟩

/-- Two sequences that differ in the earlier request only deliver the same
request from the same slot in two different frames.  And where nothing is
pending, a read passes the end of a slot that has never been written. -/
theorem leakingRequest_not_isolated :
    observedReads zeroMemory (leakingCalls 0) =
        some [(wordBytes sizeofInt (slotWord 0) ++ leakingRequest ++
          [0, 0, 0, 0], 48)] ∧
      observedReads zeroMemory (leakingCalls 1) =
        some [(wordBytes sizeofInt (slotWord 0) ++ leakingRequest ++
          [1, 1, 1, 1], 48)] ∧
      ¬ RunIsolated zeroMemory (leakingCalls 0) ∧
      readPersistenceRead (kdevcharInit onesMemory) [] ReadFaults.none =
        .error .memory ∧
      ¬ RunIsolated onesMemory [.read []] := by
  have hclaim : ¬ sizeOfLen (requestHeader leakingRequest).value.paxosValueLen ≤
      max sizeofPaxosAccepted leakingRequest.length := by decide +kernel
  have hoverrun : readPersistenceRead (kdevcharInit onesMemory) []
      ReadFaults.none = .error .memory :=
    readPersistenceRead_overrun (kdevcharInit_working onesMemory) rfl
      (by decide +kernel) [] ReadFaults.none
  refine ⟨by decide +kernel, by decide +kernel, ?_, hoverrun, ?_⟩
  · intro hisolated
    obtain ⟨state, hrun, hpending⟩ := run_leakingCalls 0
    have hcall := hisolated _ (.read []) [] state [] rfl hrun
    have hsound := state_invariant_of_run_eq_ok Sound sound_of_requestCall
      (sound_start zeroMemory) hrun
    exact hclaim ((isolated_read_iff hsound hpending []).mp
      ⟨hcall.1, hcall.2 leakingRequest [] hpending⟩)
  · intro hisolated
    have hcall := hisolated [] (.read []) [] (.start onesMemory) [] rfl rfl
    exact hcall.1 hoverrun

end PaxosPersistence.RequestBounds
