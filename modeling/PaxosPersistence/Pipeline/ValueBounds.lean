import PaxosPersistence.Pipeline.SharedDatabase

/-!
# The length of a value on its way

The write ring cuts every message to the size of a slot and computes the length
of its value from what is left.  Everything behind relies on that one place: the
decoder of the database layer copies as many bytes as a stored header claims,
and the answer handler as many as an answer claims.  This module carries the
bound through ring, thread, database and answers, whatever the headers of the
messages claim and whatever is requested.
-/

namespace PaxosPersistence.ValueBounds

open PaxosPersistence.ByteBlock
open PaxosPersistence.KernelDevice
open PaxosPersistence.LmdbOperations
open PaxosPersistence.Machine
open PaxosPersistence.Memory
open PaxosPersistence.PaxosTypes
open PaxosPersistence.ReadPersistence
open PaxosPersistence.ReadPipeline
open PaxosPersistence.ReadSide
open PaxosPersistence.RingWindow
open PaxosPersistence.SharedDatabase
open PaxosPersistence.StorageThread
open PaxosPersistence.TransactionalMap
open PaxosPersistence.UserStorage
open PaxosPersistence.WritePersistence
open PaxosPersistence.WritePipeline
open PaxosPersistence.WriteSide

/-- A length between 0 and `MAX_PAXOS_VALUE_SIZE`. -/
structure InBounds (len : Word32) : Prop where
  nonneg : 0 ≤ len.toInt
  le : len.toInt ≤ maxPaxosValueSize

/-- An entry is as long as its own header says, and decoding it reads nothing
behind it. -/
structure EntryBounded (data : List Byte) : Prop where
  len : InBounds (PaxosAccepted.ofImage data).value.paxosValueLen
  length_eq : data.length = sizeofPaxosAccepted +
    (PaxosAccepted.ofImage data).value.paxosValueLen.toInt.toNat
  decodes : ∀ pointer, ∃ accepted,
    bufferToPaxosAccepted data pointer = .ok accepted

/-- An answer copies no more into a response than fits there. -/
structure AnswerBounded (frame : List Byte) : Prop where
  len : InBounds (frameAccepted frame).value.paxosValueLen
  fits : ∀ device slot len, ∃ next ret,
    answerCallback device slot frame len WriteFaults.none = .ok (next, ret)

/-- Every value on its way through the system has a length in bounds: in the
slots of the write ring, in the hands of the write thread, in the database, and
in the answer the read thread is about to send. -/
structure ValuesBounded (state : System) : Prop where
  slots : ∀ block ∈ contents state.write.device.msgBuf
      state.write.device.firstBuf state.write.device.usedBuf.toNat,
    InBounds (PaxosAccepted.ofImage block.toList).value.paxosValueLen
  decodes : state.write.thread.stage = .decoding → ∀ pointer, ∃ message,
    decodeMessage state.write.thread.recv pointer = .ok message ∧
      InBounds message.value.header.value.paxosValueLen
  decoded : ∀ message, state.write.thread.stage = .processing message →
    InBounds message.value.header.value.paxosValueLen
  entries : ∀ key data, state.database.entries key = some data →
    EntryBounded data
  answers : ∀ frame count,
    state.read.thread.stage = .answering frame count → AnswerBounded frame

/-! ## Records that fit -/

theorem inBounds_of_sized {accepted : UserAccepted} (hsized : Sized accepted) :
    InBounds accepted.header.value.paxosValueLen :=
  ⟨hsized.len_nonneg, hsized.len_le⟩

/-- A stored record that fits. -/
theorem entryBounded_encode {accepted : UserAccepted}
    (hsized : Sized accepted) : EntryBounded accepted.encode where
  len := by
    rw [UserAccepted.encode, PaxosAccepted.ofImage_toImage_append]
    exact inBounds_of_sized hsized
  length_eq := by
    rw [accepted.length_encode, UserAccepted.encode,
      PaxosAccepted.ofImage_toImage_append]
  decodes pointer := by
    have hdecode := bufferToPaxosAccepted_encode accepted [] pointer
    rw [List.append_nil] at hdecode
    exact ⟨accepted.relocate pointer, hdecode⟩

/-- And the answer made of one. -/
theorem answerBounded_encode (bufferId : Word32) {accepted : UserAccepted}
    (hsized : Sized accepted) :
    AnswerBounded (wordBytes sizeofInt bufferId ++ accepted.encode) where
  len := by
    rw [frameAccepted_encode]
    exact inBounds_of_sized hsized
  fits device slot len := by
    have hlength := accepted.length_eq
    have hle := hsized.len_le
    have hvalue : (frameValue (wordBytes sizeofInt bufferId ++
        accepted.encode)).length ≤ maxPaxosValueSize := by
      rw [frameValue_encode, hlength]
      omega
    exact ⟨_, _, answerCallback_eq (mapped_encode bufferId accepted) hvalue
      device slot len⟩

/-- A slot of the write ring holds what the truncation left. -/
theorem inBounds_writeMessage {msg : List Byte}
    (hheader : sizeofPaxosAccepted ≤ msg.length) :
    InBounds (PaxosAccepted.ofImage
      (writeMessage msg).toList).value.paxosValueLen := by
  have hsize : sizeofPaxosAccepted ≤ effectiveSize msg.length :=
    le_effectiveSize (by simp [sizeofPaxosAccepted, slotSize]) hheader
  have hle := effectiveSize_le msg.length
  rw [paxosValueLen_writeMessage]
  constructor
  · rw [toInt_lenOfSize hle]
    omega
  · rw [toInt_lenOfSize hle]
    simp only [slotSize, sizeofPaxosAccepted, maxPaxosValueSize] at *
    omega

/-! ## The invariant -/

/-- The write side agrees with the history, and whatever was requested, the
read thread has no transaction and sends only answers that fit. -/
structure BoundsTrack (state : System) (history : List Event) : Prop where
  write : WriteTrack (fun codes => codes = MdbCodes.success) (fun _ => none)
    state.write state.database history
  txn_eq : state.read.thread.lmdbStorage.txn = none
  answer : ∀ frame count,
    state.read.thread.stage = .answering frame count → AnswerBounded frame

theorem boundsTrack_start (writeMemory readMemory : DeviceMemory)
    (writeRecv readRecv : Block slotSize) :
    BoundsTrack (System.start writeMemory readMemory writeRecv readRecv) [] where
  write := WriteTrack.start writeMemory writeRecv fun _ => none
  txn_eq := rfl
  answer := fun _ _ hstage => nomatch hstage

namespace BoundsTrack

variable {state : System} {history : List Event}

theorem storable (htrack : BoundsTrack state history) :
    Storable state.database.entries := by
  rw [htrack.write.entries_eq]
  exact storable_entries htrack.write.sized

theorem slots (htrack : BoundsTrack state history) :
    ∀ block ∈ contents state.write.device.msgBuf state.write.device.firstBuf
        state.write.device.usedBuf.toNat,
      InBounds (PaxosAccepted.ofImage block.toList).value.paxosValueLen := by
  obtain ⟨queue, held, hside, -⟩ := htrack.write.holds
  rw [hside.ring.usedBuf_eq, Int.toNat_natCast]
  intro block hblock
  obtain ⟨msg, -, rfl, hheader⟩ := hside.ring.exists_of_mem hblock
  exact inBounds_writeMessage hheader

/-- What is stored are the records committed. -/
theorem entries (htrack : BoundsTrack state history) {key data : List Byte}
    (hfound : state.database.entries key = some data) : EntryBounded data := by
  rw [htrack.write.entries_eq] at hfound
  rcases applyWrites_eq_some hfound with hnone | hwritten
  · cases hnone
  · obtain ⟨accepted, hcommitted, hentry⟩ := List.mem_map.mp hwritten
    rw [← (Prod.mk.inj hentry).2]
    exact entryBounded_encode (htrack.write.sized accepted hcommitted)

theorem valuesBounded (htrack : BoundsTrack state history) :
    ValuesBounded state where
  slots := htrack.slots
  decodes hstage pointer := by
    obtain ⟨queue, held, hside, -⟩ := htrack.write.holds
    obtain ⟨msg, message, -, hdecode, -, hsized⟩ :=
      hside.decodeMessage_eq hstage pointer
    exact ⟨message, hdecode, inBounds_of_sized hsized⟩
  decoded message hstage := by
    obtain ⟨queue, held, hside, -⟩ := htrack.write.holds
    have hholds := hside.stage
    rw [hstage] at hholds
    obtain ⟨msg, -, -, hsized⟩ := hholds
    exact inBounds_of_sized hsized
  entries _ _ hfound := htrack.entries hfound
  answers := htrack.answer

end BoundsTrack

/-! ## The read thread -/

/-- The answer made of what a lookup finds fits. -/
theorem processReadMessage_bounded {side : Side} {database : Database}
    (htxn : side.thread.lmdbStorage.txn = none) (hsettled : database.Settled)
    (hstorable : Storable database.entries) (message : ClientValue)
    (pointer : Addr) :
    ∃ frame count after,
      processReadMessage side database message MdbCodes.success pointer =
        (side.goto (.answering frame count), after,
          [.looked database.entries]) ∧
      AnswerBounded frame ∧ after.Settled ∧
      after.entries = database.entries := by
  obtain ⟨after, found, hget, hafter, hentries, -, hsized⟩ :=
    storageGet_storable htxn hsettled hstorable message.value.header.iid pointer
  have hframe : clientValueToBuffer
      ⟨message.bufferId, found.getD UserAccepted.zeroed⟩ =
        .ok (wordBytes sizeofInt message.bufferId ++
          (found.getD UserAccepted.zeroed).encode) := by
    simp only [clientValueToBuffer, paxosAcceptedToBuffer_eq hsized.len_nonneg,
      bind, Except.bind, pure, Except.pure, Option.getD_some]
  refine ⟨wordBytes sizeofInt message.bufferId ++
      (found.getD UserAccepted.zeroed).encode,
    sizeofInt + sizeOfLen
      (found.getD UserAccepted.zeroed).header.value.paxosValueLen,
    after, ?_, answerBounded_encode message.bufferId hsized, hafter, hentries⟩
  simp only [processReadMessage, hget, hframe]

/-- What a step of the read thread leaves. -/
structure ReadStep (next : Side) (database after : Database)
    (events : List Event) : Prop where
  txn_eq : next.thread.lmdbStorage.txn = none
  settled : after.Settled
  entries_eq : after.entries = database.entries
  foreign : ∀ event ∈ events, Foreign event
  answer : ∀ frame count, next.thread.stage = .answering frame count →
    AnswerBounded frame

/-- Going on without a lookup. -/
theorem readStep_goto {side : Side} {database : Database} {stage : Stage}
    (htxn : side.thread.lmdbStorage.txn = none) (hsettled : database.Settled)
    (hstage : ∀ frame count, stage ≠ .answering frame count) :
    ReadStep (side.goto stage) database database [] where
  txn_eq := htxn
  settled := hsettled
  entries_eq := rfl
  foreign := fun _ hevent => absurd hevent List.not_mem_nil
  answer := fun frame count hanswering => absurd hanswering (hstage frame count)

theorem readStep_of_step {side next : Side} {database after : Database}
    {events : List Event} {pointer : Addr}
    (htxn : side.thread.lmdbStorage.txn = none) (hsettled : database.Settled)
    (hstorable : Storable database.entries)
    (hanswer : ∀ frame count, side.thread.stage = .answering frame count →
      AnswerBounded frame)
    (hstep : genericStorageThread true side database MdbCodes.success pointer =
      .ok (next, after, events)) : ReadStep next database after events := by
  cases hstage : side.thread.stage with
  | polling =>
      simp only [genericStorageThread, hstage] at hstep
      cases hstep
      apply readStep_goto htxn hsettled
      intro frame count
      split
      · simp
      · simp
  | aborted =>
      simp only [genericStorageThread, hstage] at hstep
      cases hstep
      exact ⟨htxn, hsettled, rfl, fun _ hevent => absurd hevent List.not_mem_nil,
        hanswer⟩
  | reading =>
      simp only [genericStorageThread, hstage, deviceRead, if_true] at hstep
      obtain ⟨⟨device, recv, len⟩, -, hreturned⟩ := bind_eq_ok.mp hstep
      cases hreturned
      refine ⟨htxn, hsettled, rfl,
        fun _ hevent => absurd hevent List.not_mem_nil, ?_⟩
      intro frame count hanswering
      dsimp only at hanswering
      split at hanswering
      · cases hanswering
      · cases hanswering
  | decoding =>
      simp only [genericStorageThread, hstage] at hstep
      cases hdecode : decodeMessage side.thread.recv pointer with
      | error halt =>
          simp only [hdecode] at hstep
          cases hstep
          exact readStep_goto htxn hsettled (by simp)
      | ok message =>
          simp only [hdecode] at hstep
          cases hstep
          exact readStep_goto htxn hsettled (by simp)
  | processing message =>
      obtain ⟨frame, count, found, hprocess, hbounded, hfound, hentries⟩ :=
        processReadMessage_bounded htxn hsettled hstorable message pointer
      simp only [genericStorageThread, hstage, hprocess, if_true] at hstep
      cases hstep
      refine ⟨htxn, hfound, hentries, ?_, ?_⟩
      · intro event hevent
        cases List.mem_singleton.mp hevent
        trivial
      · intro other otherCount hanswering
        cases hanswering
        exact hbounded
  | answering frame count =>
      simp only [genericStorageThread, hstage] at hstep
      obtain ⟨⟨device, ret⟩, -, hreturned⟩ := bind_eq_ok.mp hstep
      cases hreturned
      refine ⟨htxn, hsettled, rfl, ?_, ?_⟩
      · intro event hevent
        cases List.mem_singleton.mp hevent
        trivial
      · intro other otherCount hanswering
        cases hanswering

/-! ## Runs of the system -/

/-- A message to be stored has a header; its bytes, its size and the requests
are arbitrary. -/
def HasHeader : SystemAction → Prop
  | .writeMessage msg => sizeofPaxosAccepted ≤ msg.length
  | _ => True

theorem sharedDatabase_bounded (state : System) (history : List Event)
    (action : SystemAction) (next : System) (events : List Event)
    (htrack : BoundsTrack state history) (haction : HasHeader action)
    (hstep : sharedDatabase state action = .ok (next, events)) :
    BoundsTrack next (history ++ events) := by
  cases action with
  | writeMessage msg =>
      obtain ⟨device, callback, hadd, -, hwrite⟩ :=
        htrack.write.addMessage haction
      simp only [sharedDatabase, hadd, bind, Except.bind, pure,
        Except.pure] at hstep
      cases hstep
      exact ⟨hwrite, htrack.txn_eq, htrack.answer⟩
  | readRequest msg =>
      obtain ⟨⟨device, callback⟩, -, hreturned⟩ := bind_eq_ok.mp hstep
      cases hreturned
      refine ⟨htrack.write.foreign _ ?_ htrack.write.settled rfl,
        htrack.txn_eq, htrack.answer⟩
      intro event hevent
      cases callback with
      | none => exact absurd hevent List.not_mem_nil
      | some slot =>
          cases List.mem_singleton.mp hevent
          trivial
  | writeThread pointer =>
      obtain ⟨write, database, stored, hthread, -, hwrite⟩ :=
        htrack.write.threadStep rfl pointer
      simp only [sharedDatabase, hthread, bind, Except.bind, pure,
        Except.pure] at hstep
      cases hstep
      exact ⟨hwrite, htrack.txn_eq, htrack.answer⟩
  | readThread pointer =>
      obtain ⟨⟨read, database, shown⟩, hthread, hreturned⟩ :=
        bind_eq_ok.mp hstep
      cases hreturned
      have hread := readStep_of_step htrack.txn_eq htrack.write.settled
        htrack.storable htrack.answer hthread
      exact ⟨htrack.write.foreign _ hread.foreign hread.settled
        hread.entries_eq, hread.txn_eq, hread.answer⟩

/-- In every state of every run that starts on an empty database, whatever the
sizes and the headers of the messages and whatever is requested, all lengths
are in bounds and all copies of values stay within their objects. -/
theorem sharedDatabase_valuesBounded (writeMemory readMemory : DeviceMemory)
    (writeRecv readRecv : Block slotSize) {actions : List SystemAction}
    (hactions : ∀ action ∈ actions, HasHeader action) :
    Throughout sharedDatabase ValuesBounded
      (System.start writeMemory readMemory writeRecv readRecv) actions := by
  rintro before after state events rfl hrun
  have htrack := invariant_of_run_eq_ok BoundsTrack HasHeader
    sharedDatabase_bounded
    (boundsTrack_start writeMemory readMemory writeRecv readRecv)
    (fun action haction => hactions action (List.mem_append_left after haction))
    hrun
  exact htrack.valuesBounded

/-- A message of 300 bytes whose header claims a length of -1 is stored, and
its number is looked up. -/
def oversizedRun : List SystemAction :=
  [.writeMessage (List.replicate 300 255)] ++
    List.replicate 4 (.writeThread 4096) ++
    [.readRequest (headerBytes (-1) 0)] ++
    List.replicate 4 (.readThread 4096)

/-- The size of the answer that is ready after a run. -/
def observedAnswer (actions : List SystemAction) : Option ℕ :=
  match run sharedDatabase (System.start zeroMemory zeroMemory
    (Block.zero slotSize) (Block.zero slotSize)) actions with
  | .ok (state, _) =>
      match state.read.thread.stage with
      | .answering frame _ => some frame.length
      | _ => none
  | .error _ => none

/-- The answer to it has 200 bytes of value behind its header. -/
theorem sharedDatabase_valuesBounded_oversized :
    observedAnswer oversizedRun =
        some (sizeofInt + sizeofPaxosAccepted + maxPaxosValueSize) ∧
      (∀ action ∈ oversizedRun, HasHeader action) ∧
      Throughout sharedDatabase ValuesBounded
        (System.start zeroMemory zeroMemory (Block.zero slotSize)
          (Block.zero slotSize)) oversizedRun := by
  have hactions : ∀ action ∈ oversizedRun, HasHeader action := by
    intro action haction
    simp only [oversizedRun, List.mem_append, List.mem_singleton,
      List.mem_replicate] at haction
    rcases haction with ((rfl | ⟨-, rfl⟩) | rfl) | ⟨-, rfl⟩
    · change sizeofPaxosAccepted ≤ (List.replicate 300 (255 : Byte)).length
      rw [List.length_replicate]
      decide
    · trivial
    · trivial
    · trivial
  exact ⟨by decide +kernel, hactions, sharedDatabase_valuesBounded zeroMemory
    zeroMemory (Block.zero slotSize) (Block.zero slotSize) hactions⟩

end PaxosPersistence.ValueBounds
