import PaxosPersistence.Storage.UserStorage

/-!
# Running out of memory

Six functions of the storage process allocate.  Two of them look at the result:
`paxos_accepted_to_buffer` and `client_value_to_buffer` return NULL without a
buffer.  Their callers do not look.  A record without a buffer is handed to
`mdb_put` as it is, an answer whose record could not be encoded is sent with
whatever its buffer contained, and everywhere else NULL is written to.
-/

namespace PaxosPersistence.AllocationFailures

open PaxosPersistence.ByteBlock
open PaxosPersistence.LmdbOperations
open PaxosPersistence.Memory
open PaxosPersistence.PaxosTypes
open PaxosPersistence.TransactionalMap
open PaxosPersistence.UserStorage

/-- Which calls of `malloc` return a buffer: for the value in
`buffer_to_paxos_accepted`, in `paxos_accepted_to_buffer`, for the frame in
`client_value_to_buffer`, in `storage_get`, and for the record of zeros in
`process_read_message`. -/
structure Mallocs where
  value : Bool
  accepted : Bool
  frame : Bool
  out : Bool
  notFound : Bool

def Mallocs.granted : Mallocs := ⟨true, true, true, true, true⟩

/-- Bytes of a buffer; those that have not been written have no value. -/
abbrev Buffer := List (Option Byte)

/-- `sizeof(client_value)` -/
def sizeofClientValue : ℕ := 16

/-- `MAXDATASIZE` of the database library. -/
def maxDataSize : ℕ := 2 ^ 32 - 1

/-! ## The functions -/

section Functions

variable (mallocs : Mallocs)

/-- Without a buffer the value is copied to NULL. -/
def bufferToPaxosAccepted (buffer : List Byte) (pointer : Addr) :
    Except Halt UserAccepted :=
  if mallocs.value = false ∧
      0 < (PaxosAccepted.ofImage buffer).value.paxosValueLen.toInt then
    .error .memory
  else LmdbOperations.bufferToPaxosAccepted buffer pointer

def paxosAcceptedToBuffer (accepted : UserAccepted) :
    Except Halt (Option (List Byte)) :=
  if mallocs.accepted then LmdbOperations.paxosAcceptedToBuffer accepted
  else .ok none

/-- The index is copied whether or not there is a record to copy behind it. -/
def clientValueToBuffer (client : ClientValue) :
    Except Halt (Option Buffer) :=
  let acceptedLen := sizeOfLen client.value.header.value.paxosValueLen
  let size := (sizeofClientValue + acceptedLen) % 2 ^ 64
  if mallocs.frame = false ∨ mallocFails size = true then .ok none
  else if size < sizeofInt then .error .memory
  else do
    let accepted ← paxosAcceptedToBuffer mallocs client.value
    let buffer := overwrite 0 ((wordBytes sizeofInt client.bufferId).map some)
      (List.replicate size none)
    match accepted with
    | none => return some buffer
    | some bytes => return some (overwrite sizeofInt (bytes.map some) buffer)

/-- A call that succeeds has read the data, unless it is too large to be
looked at. -/
def lmdbStoragePut (s : LmdbStorage) (database : Database)
    (accepted : UserAccepted) (code : ℤ) : Except Halt (Database × ℤ) := do
  let buffer ← paxosAcceptedToBuffer mallocs accepted
  match s.txn, buffer with
  | none, _ => return (database, mdbEinval)
  | some _, none =>
      if code ≠ 0 then return (database, code)
      else if maxDataSize < sizeOfLen accepted.header.value.paxosValueLen then
        return (database, mdbBadValsize)
      else .error .memory
  | some txn, some data =>
      let written ← live
        (database.put txn (keyOf accepted.header.iid) data (code == 0))
      return (written, code)

def lmdbStorageGet (s : LmdbStorage) (database : Database) (iid : Word32)
    (out : UserAccepted) (code : ℤ) (pointer : Addr) :
    Except Halt (ℤ × UserAccepted) :=
  lmdbStorageGetBy (bufferToPaxosAccepted mallocs · pointer) s database iid out
    code

/-- `out` is cleared before anything is looked up. -/
def storageGet (lmdbStorage : LmdbStorage) (database : Database)
    (id : Word32) (codes : MdbCodes) (pointer : Addr) :
    Except Halt (Database × Option UserAccepted) :=
  storageGetBy
    (if mallocs.out = false then .error .memory else .ok UserAccepted.zeroed)
    (bufferToPaxosAccepted mallocs · pointer) lmdbStorage database id codes

def storagePut (lmdbStorage : LmdbStorage) (database : Database)
    (accepted : UserAccepted) (codes : MdbCodes) :
    Except Halt (Database × ℤ) := do
  let (s, begun, failed) ←
    lmdbStorageTxBegin lmdbStorage database codes.txnBegin
  if failed ≠ 0 then return (begun, 1)
  else
    let (written, result) ←
      lmdbStoragePut mallocs s begun accepted codes.access
    let (s, written) ←
      if result ≠ 0 then lmdbStorageTxAbort s written
      else .ok (s, written)
    let (_, committed, failed) ←
      lmdbStorageTxCommit s written codes.txnCommit
    if failed ≠ 0 then return (committed, 1) else return (committed, 0)

/-- `write` of the encoded answer.  From NULL the handler of the device copies
nothing, so nothing is sent. -/
def writeAnswer (bufferId : Word32) (out : UserAccepted) :
    Except Halt (Option Buffer) := do
  let msg ← clientValueToBuffer mallocs ⟨bufferId, out⟩
  let count := sizeofInt + sizeOfLen out.header.value.paxosValueLen
  match msg with
  | none => return none
  | some msg =>
      if msg.length < count then .error .memory
      else return some (msg.take count)

def processReadMessage (lmdbStorage : LmdbStorage) (database : Database)
    (message : ClientValue) (codes : MdbCodes) (pointer : Addr) :
    Except Halt (Database × Option Buffer) := do
  let (next, found) ← storageGet mallocs lmdbStorage database
    message.value.header.iid codes pointer
  match found with
  | some out =>
      let sent ← writeAnswer mallocs message.bufferId out
      return (next, sent)
  | none =>
      if mallocs.notFound = false then .error .memory
      else do
        let sent ← writeAnswer mallocs message.bufferId UserAccepted.zeroed
        return (next, sent)

end Functions

/-! ## What must not happen -/

/-- A record arrives in the buffer of a thread, is stored, or is looked up. -/
inductive Call where
  | receive (accepted : UserAccepted) (rest : List Byte) (pointer : Addr)
  | put (accepted : UserAccepted) (codes : MdbCodes)
  | read (message : ClientValue) (codes : MdbCodes) (pointer : Addr)

/-- The database afterwards and what was written to the device. -/
def Call.perform (mallocs : Mallocs) (lmdbStorage : LmdbStorage)
    (database : Database) : Call → Except Halt (Database × Option Buffer)
  | .receive accepted rest pointer => do
      discard (bufferToPaxosAccepted mallocs (accepted.encode ++ rest) pointer)
      return (database, none)
  | .put accepted codes => do
      let (next, _) ← storagePut mallocs lmdbStorage database accepted codes
      return (next, none)
  | .read message codes pointer =>
      processReadMessage mallocs lmdbStorage database message codes pointer

/-- What a call may store. -/
def Call.entries : Call → List (List Byte × List Byte)
  | .put accepted _ => [accepted.entry]
  | _ => []

/-- The record that a lookup comes to, if the database returns one. -/
def foundRecord (records : Word32 → Option UserAccepted)
    (message : ClientValue) (codes : MdbCodes) : Option UserAccepted :=
  if codes.txnBegin = 0 ∧ codes.access = 0 then
    records message.value.header.iid
  else none

/-- What a call may send. -/
def Call.frame (records : Word32 → Option UserAccepted) :
    Call → Option (List Byte)
  | .read message codes pointer =>
      some (wordBytes sizeofInt message.bufferId ++
        (((foundRecord records message codes).map
          (UserAccepted.relocate · pointer)).getD UserAccepted.zeroed).encode)
  | _ => none

/-- Every access goes to a buffer, what is stored is all of the record, and
what is sent is all of the answer; or nothing is. -/
structure Uncorrupted (mallocs : Mallocs) (lmdbStorage : LmdbStorage)
    (database : Database) (records : Word32 → Option UserAccepted)
    (call : Call) : Prop where
  in_bounds : call.perform mallocs lmdbStorage database ≠ .error .memory
  stored : ∀ next sent,
    call.perform mallocs lmdbStorage database = .ok (next, sent) →
      next.entries = database.entries ∨
        next.entries = applyWrites database.entries call.entries
  sent : ∀ next buffer,
    call.perform mallocs lmdbStorage database = .ok (next, some buffer) →
      ∃ frame, call.frame records = some frame ∧ buffer = frame.map some

/-- The buffers that a call cannot do without. -/
def Suffices (mallocs : Mallocs) (records : Word32 → Option UserAccepted) :
    Call → Prop
  | .receive accepted _ _ =>
      mallocs.value = true ∨ accepted.header.value.paxosValueLen.toInt ≤ 0
  | .put accepted codes =>
      codes.txnBegin ≠ 0 ∨
        mallocFails (sizeOfLen accepted.header.value.paxosValueLen) = true ∨
        (mallocs.accepted = true ∧
          0 ≤ accepted.header.value.paxosValueLen.toInt) ∨
        (mallocs.accepted = false ∧ codes.access ≠ 0)
  | .read message codes _ =>
      mallocs.out = true ∧ (mallocs.frame = true → mallocs.accepted = true) ∧
        match foundRecord records message codes with
        | none => mallocs.notFound = true
        | some accepted => mallocs.value = true ∨
            accepted.header.value.paxosValueLen.toInt ≤ 0

/-! ## Decoding and encoding -/

variable {mallocs : Mallocs} {accepted : UserAccepted}

theorem bufferToPaxosAccepted_encode (mallocs : Mallocs)
    (accepted : UserAccepted) (rest : List Byte) (pointer : Addr) :
    bufferToPaxosAccepted mallocs (accepted.encode ++ rest) pointer =
      if mallocs.value = false ∧
          0 < accepted.header.value.paxosValueLen.toInt then .error .memory
      else .ok (accepted.relocate pointer) := by
  have himage : PaxosAccepted.ofImage (accepted.encode ++ rest) =
      accepted.header := by
    rw [UserAccepted.encode, List.append_assoc,
      PaxosAccepted.ofImage_toImage_append]
  rw [bufferToPaxosAccepted, himage,
    LmdbOperations.bufferToPaxosAccepted_encode]

/-- With its buffer a function is the one whose allocations succeed. -/
theorem paxosAcceptedToBuffer_granted (hgranted : mallocs.accepted = true)
    (accepted : UserAccepted) :
    paxosAcceptedToBuffer mallocs accepted =
      LmdbOperations.paxosAcceptedToBuffer accepted :=
  if_pos hgranted

theorem paxosAcceptedToBuffer_refused (hrefused : mallocs.accepted = false)
    (accepted : UserAccepted) :
    paxosAcceptedToBuffer mallocs accepted = .ok none :=
  if_neg (by simp [hrefused])

/-- A record has a size at which an allocation can be refused only for want of
memory, or its length is negative and its size absurd. -/
theorem sizeOfLen_le_of_not_mallocFails {len : Word32}
    (hsize : mallocFails (sizeOfLen len) = false) :
    sizeOfLen len ≤ maxDataSize := by
  rw [mallocFails, decide_eq_false_iff_not, not_le] at hsize
  have hbound := len.toInt_lt
  by_cases hsmall : sizeOfLen len < sizeofPaxosAccepted
  · simp only [sizeofPaxosAccepted] at hsmall
    simp only [maxDataSize]
    omega
  · by_cases hlen : 0 ≤ len.toInt
    · have hsum := sizeOfLen_eq len (by
        simp only [sizeofPaxosAccepted]
        omega)
      simp only [sizeofPaxosAccepted] at hsum
      simp only [maxDataSize]
      norm_num at hbound ⊢
      omega
    · have habsurd := le_sizeOfLen_of_neg (not_le.mp hlen) (not_lt.mp hsmall)
      omega

theorem lt_maxDataSize_of_mallocFails {size : ℕ}
    (hsize : mallocFails size = true) : maxDataSize < size := by
  rw [mallocFails, decide_eq_true_iff] at hsize
  simp only [maxDataSize]
  omega

theorem length_encode_of_nonneg
    (hlen : 0 ≤ accepted.header.value.paxosValueLen.toInt) :
    accepted.encode.length =
      sizeOfLen accepted.header.value.paxosValueLen := by
  have hsum := sizeOfLen_eq accepted.header.value.paxosValueLen (by
    simp only [sizeofPaxosAccepted]
    omega)
  rw [accepted.length_encode]
  omega

theorem length_encode_lt
    (hlen : 0 ≤ accepted.header.value.paxosValueLen.toInt) :
    accepted.encode.length < 2 ^ 32 := by
  have hbound := accepted.header.value.paxosValueLen.toInt_lt
  rw [accepted.length_encode, sizeofPaxosAccepted]
  norm_num at hbound ⊢
  omega

/-- The buffer as it leaves `client_value_to_buffer`: twelve bytes larger than
the frame, and filled as far as there was something to copy. -/
theorem clientValueToBuffer_eq
    (hlen : 0 ≤ accepted.header.value.paxosValueLen.toInt)
    (mallocs : Mallocs) (bufferId : Word32) :
    clientValueToBuffer mallocs ⟨bufferId, accepted⟩ =
      .ok (if mallocs.frame = false then none
        else some (if mallocs.accepted = true then
            (wordBytes sizeofInt bufferId ++ accepted.encode).map some ++
              List.replicate 12 none
          else (wordBytes sizeofInt bufferId).map some ++
            List.replicate (accepted.encode.length + 12) none)) := by
  have hlength := length_encode_of_nonneg hlen
  have hbound := length_encode_lt hlen
  have hid : ((wordBytes sizeofInt bufferId).map some).length = sizeofInt := by
    rw [List.length_map, length_wordBytes]
  have hsize : (sizeofClientValue +
      sizeOfLen accepted.header.value.paxosValueLen) % 2 ^ 64 =
        accepted.encode.length + 16 := by
    rw [← hlength, sizeofClientValue]
    omega
  have hgranted : ¬ mallocFails (accepted.encode.length + 16) = true := by
    rw [mallocFails, decide_eq_true_iff]
    omega
  have hrest : accepted.encode.length + 16 -
      (sizeofInt + accepted.encode.length) = 12 := by
    simp only [sizeofInt]
    omega
  simp only [clientValueToBuffer, hsize]
  by_cases hframe : mallocs.frame = false
  · rw [if_pos (Or.inl hframe), if_pos hframe]
  rw [if_neg (not_or.mpr ⟨hframe, hgranted⟩), if_neg (by
    simp only [sizeofInt]
    omega), if_neg hframe]
  by_cases haccepted : mallocs.accepted = true
  · rw [paxosAcceptedToBuffer_granted haccepted, paxosAcceptedToBuffer_eq hlen,
      if_pos haccepted]
    dsimp only [bind, Except.bind, pure, Except.pure]
    have hwhole := overwrite_overwrite_zero
      ((wordBytes sizeofInt bufferId).map some) (accepted.encode.map some)
      (List.replicate (accepted.encode.length + 16) none)
    rw [hid] at hwhole
    rw [hwhole, ← List.map_append, overwrite_zero, List.drop_replicate,
      List.length_map, List.length_append, length_wordBytes, hrest]
  · rw [paxosAcceptedToBuffer_refused (Bool.not_eq_true _ ▸ haccepted),
      if_neg haccepted]
    dsimp only [bind, Except.bind, pure, Except.pure]
    rw [overwrite_zero, List.drop_replicate, hid]
    rfl

/-- What is sent: all of the frame; or its index and then what was never
written; or nothing. -/
def answerBuffer (mallocs : Mallocs) (bufferId : Word32)
    (accepted : UserAccepted) : Option Buffer :=
  if mallocs.frame = false then none
  else some (if mallocs.accepted = true then
      (wordBytes sizeofInt bufferId ++ accepted.encode).map some
    else (wordBytes sizeofInt bufferId).map some ++
      List.replicate accepted.encode.length none)

theorem writeAnswer_eq (hlen : 0 ≤ accepted.header.value.paxosValueLen.toInt)
    (mallocs : Mallocs) (bufferId : Word32) :
    writeAnswer mallocs bufferId accepted =
      .ok (answerBuffer mallocs bufferId accepted) := by
  have hlength := length_encode_of_nonneg hlen
  have hid := length_wordBytes sizeofInt bufferId
  simp only [writeAnswer, answerBuffer, clientValueToBuffer_eq hlen, ← hlength,
    bind, Except.bind, pure, Except.pure]
  by_cases hframe : mallocs.frame = false
  · simp only [if_pos hframe]
  simp only [if_neg hframe]
  by_cases haccepted : mallocs.accepted = true
  · have hcount : sizeofInt + accepted.encode.length =
        ((wordBytes sizeofInt bufferId ++ accepted.encode).map
          some).length := by
      rw [List.length_map, List.length_append, hid]
    simp only [if_pos haccepted]
    rw [if_neg (by rw [List.length_append, hcount]; omega), hcount,
      List.take_left]
  · have hcount : sizeofInt + accepted.encode.length =
        ((wordBytes sizeofInt bufferId).map some ++ List.replicate
          accepted.encode.length (none : Option Byte)).length := by
      rw [List.length_append, List.length_map, hid, List.length_replicate]
    simp only [if_neg haccepted]
    rw [List.replicate_add, ← List.append_assoc, if_neg (by
      rw [List.length_append, hcount]; omega), hcount, List.take_left]

/-- Only a frame with its record in it is complete. -/
theorem answerBuffer_complete (mallocs : Mallocs) (bufferId : Word32)
    (accepted : UserAccepted) :
    (∀ buffer, answerBuffer mallocs bufferId accepted = some buffer →
      buffer = (wordBytes sizeofInt bufferId ++ accepted.encode).map some) ↔
      (mallocs.frame = true → mallocs.accepted = true) := by
  constructor
  · intro hcomplete hframe
    by_contra hrefused
    have hbuffer := hcomplete _ (by
      rw [answerBuffer, if_neg (by simp [hframe]), if_neg hrefused])
    rw [List.map_append] at hbuffer
    have hrecord := List.append_cancel_left hbuffer
    have hunwritten : (none : Option Byte) ∈ accepted.encode.map some := by
      rw [← hrecord, List.mem_replicate]
      have hlength := accepted.length_encode
      exact ⟨by
        simp only [sizeofPaxosAccepted] at hlength
        omega, rfl⟩
    simp at hunwritten
  · intro hgranted buffer hbuffer
    rw [answerBuffer] at hbuffer
    split at hbuffer
    · cases hbuffer
    · rename_i hframe
      rw [if_pos (hgranted (Bool.not_eq_false _ ▸ hframe))] at hbuffer
      exact (Option.some.inj hbuffer).symm

/-! ## A lookup -/

section Operations

variable {lmdbStorage : LmdbStorage} {database : Database}
  {records : Word32 → Option UserAccepted}

/-- Without a transaction nothing is found. -/
theorem storageGet_of_begin_ne_zero (hhandle : lmdbStorage.txn = none)
    (hout : mallocs.out = true) (database : Database) (id : Word32)
    {codes : MdbCodes} (hbegin : codes.txnBegin ≠ 0) (pointer : Addr) :
    storageGet mallocs lmdbStorage database id codes pointer =
      .ok (database, none) := by
  rw [storageGet, hout, if_neg Bool.true_eq_false.mp]
  exact storageGetBy_of_begin_ne_zero hhandle _ database hbegin id _

theorem storageGet_eq (hhandle : lmdbStorage.txn = none)
    (hsettled : database.Settled)
    (hrepresents : Represents database.entries records)
    (hout : mallocs.out = true) (message : ClientValue) (codes : MdbCodes)
    (pointer : Addr) :
    ∃ next : Database, next.entries = database.entries ∧
      storageGet mallocs lmdbStorage database message.value.header.iid codes
          pointer =
        match foundRecord records message codes with
        | none => .ok (next, none)
        | some accepted =>
            if mallocs.value = false ∧
                0 < accepted.header.value.paxosValueLen.toInt then
              .error .memory
            else .ok (next, some (accepted.relocate pointer)) := by
  by_cases hbegin : codes.txnBegin = 0
  swap
  · refine ⟨database, rfl, ?_⟩
    rw [storageGet_of_begin_ne_zero hhandle hout database _ hbegin,
      foundRecord, if_neg fun hfound => hbegin hfound.1]
  have hdecode (accepted : UserAccepted) :
      bufferToPaxosAccepted mallocs accepted.encode pointer =
        if mallocs.value = false ∧
            0 < accepted.header.value.paxosValueLen.toInt then .error .memory
        else .ok (accepted.relocate pointer) := by
    have hencode := bufferToPaxosAccepted_encode mallocs accepted [] pointer
    rwa [List.append_nil] at hencode
  have hkeeps : KeepsIid (bufferToPaxosAccepted mallocs · pointer) := by
    intro accepted decoded hdecoded
    have hok := (hdecode accepted).symm.trans hdecoded
    split at hok
    · cases hok
    · rw [← Except.ok.inj hok]
      rfl
  obtain ⟨next, -, hentries, hget⟩ := storageGetBy_eq hkeeps hhandle hsettled
    hrepresents message.value.header.iid hbegin UserAccepted.zeroed
  refine ⟨next, hentries, ?_⟩
  rw [storageGet, hout, if_neg Bool.true_eq_false.mp, hget]
  simp only [foundRecord, hbegin, true_and]
  cases if codes.access = 0 then records message.value.header.iid
    else none with
  | none => rfl
  | some accepted =>
      simp only [hdecode]
      split <;> rfl

theorem processReadMessage_eq (hhandle : lmdbStorage.txn = none)
    (hsettled : database.Settled)
    (hrepresents : Represents database.entries records)
    (hlen : ∀ iid accepted, records iid = some accepted →
      0 ≤ accepted.header.value.paxosValueLen.toInt)
    (hout : mallocs.out = true) (message : ClientValue) (codes : MdbCodes)
    (pointer : Addr) :
    ∃ next : Database, next.entries = database.entries ∧
      processReadMessage mallocs lmdbStorage database message codes pointer =
        match foundRecord records message codes with
        | none =>
            if mallocs.notFound = false then .error .memory
            else .ok (next, answerBuffer mallocs message.bufferId
              UserAccepted.zeroed)
        | some accepted =>
            if mallocs.value = false ∧
                0 < accepted.header.value.paxosValueLen.toInt then
              .error .memory
            else .ok (next, answerBuffer mallocs message.bufferId
              (accepted.relocate pointer)) := by
  obtain ⟨next, hentries, hget⟩ := storageGet_eq hhandle hsettled hrepresents
    hout message codes pointer
  refine ⟨next, hentries, ?_⟩
  rw [processReadMessage, hget]
  cases hfound : foundRecord records message codes with
  | none =>
      have hzero : (0 : ℤ) ≤
          UserAccepted.zeroed.header.value.paxosValueLen.toInt := by decide
      simp only [writeAnswer_eq hzero, bind, Except.bind, pure, Except.pure]
  | some accepted =>
      have hrecord : records message.value.header.iid = some accepted := by
        rw [foundRecord] at hfound
        split at hfound
        · exact hfound
        · cases hfound
      have hrelocated :
          0 ≤ (accepted.relocate pointer).header.value.paxosValueLen.toInt :=
        hlen _ accepted hrecord
      dsimp only
      by_cases hrefused : mallocs.value = false ∧
          0 < accepted.header.value.paxosValueLen.toInt
      · simp only [if_pos hrefused]
        rfl
      · simp only [if_neg hrefused, writeAnswer_eq hrelocated, bind,
          Except.bind, pure, Except.pure]

/-- With its buffers a lookup is the one whose allocations succeed. -/
theorem storageGet_granted (hvalue : mallocs.value = true)
    (hout : mallocs.out = true) (lmdbStorage : LmdbStorage)
    (database : Database) (id : Word32) (codes : MdbCodes) (pointer : Addr) :
    storageGet mallocs lmdbStorage database id codes pointer =
      UserStorage.storageGet lmdbStorage database id codes pointer := by
  simp only [storageGet, bufferToPaxosAccepted, hvalue, hout,
    Bool.true_eq_false, false_and, if_false]
  rfl

/-- `out` is cleared before it is looked at. -/
theorem processReadMessage_out (hhandle : lmdbStorage.txn = none)
    (hout : mallocs.out = false) (message : ClientValue) (codes : MdbCodes)
    (pointer : Addr) :
    processReadMessage mallocs lmdbStorage database message codes pointer =
      .error .memory := by
  by_cases hbegin : codes.txnBegin = 0
  · simp only [processReadMessage, storageGet, storageGetBy, hbegin,
      lmdbStorageTxBegin_zero hhandle, hout, bind, Except.bind, if_true]
  · simp only [processReadMessage, storageGet, storageGetBy,
      lmdbStorageTxBegin_ne_zero hhandle hbegin, hout, bind, Except.bind,
      if_true]

/-! ## A write -/

/-- Data of an absurd size is refused without being looked at. -/
theorem lmdbStoragePut_too_large (hsize : mallocFails
      (sizeOfLen accepted.header.value.paxosValueLen) = true)
    (mallocs : Mallocs) (txn : ℕ) (database : Database) (code : ℤ) :
    ∃ result ≠ 0, lmdbStoragePut mallocs ⟨some txn⟩ database accepted code =
      .ok (database, result) := by
  have hnull : paxosAcceptedToBuffer mallocs accepted = .ok none := by
    by_cases hgranted : mallocs.accepted = true
    · rw [paxosAcceptedToBuffer_granted hgranted]
      exact if_pos hsize
    · exact if_neg hgranted
  by_cases hcode : code ≠ 0
  · refine ⟨code, hcode, ?_⟩
    simp only [lmdbStoragePut, hnull, if_pos hcode, bind, Except.bind, pure,
      Except.pure]
  · refine ⟨mdbBadValsize, by decide, ?_⟩
    simp only [lmdbStoragePut, hnull, if_neg hcode,
      if_pos (lt_maxDataSize_of_mallocFails hsize), bind, Except.bind, pure,
      Except.pure]

/-- Other data has to be read, and without a buffer cannot be. -/
theorem lmdbStoragePut_null (hrefused : mallocs.accepted = false)
    (hsize : mallocFails
      (sizeOfLen accepted.header.value.paxosValueLen) = false)
    (txn : ℕ) (database : Database) :
    lmdbStoragePut mallocs ⟨some txn⟩ database accepted 0 =
      .error .memory := by
  simp only [lmdbStoragePut, paxosAcceptedToBuffer_refused hrefused, ne_eq,
    not_true_eq_false, if_false,
    if_neg (not_lt.mpr (sizeOfLen_le_of_not_mallocFails hsize)), bind,
    Except.bind]

theorem lmdbStoragePut_refused (hrefused : mallocs.accepted = false)
    (accepted : UserAccepted) (txn : ℕ) (database : Database) {code : ℤ}
    (hcode : code ≠ 0) :
    lmdbStoragePut mallocs ⟨some txn⟩ database accepted code =
      .ok (database, code) := by
  simp only [lmdbStoragePut, paxosAcceptedToBuffer_refused hrefused,
    if_pos hcode, bind, Except.bind, pure, Except.pure]

/-- A negative length makes the buffer too small for the structure. -/
theorem lmdbStoragePut_overrun (hgranted : mallocs.accepted = true)
    (hlen : accepted.header.value.paxosValueLen.toInt < 0)
    (hsize : mallocFails
      (sizeOfLen accepted.header.value.paxosValueLen) = false)
    (s : LmdbStorage) (database : Database) (code : ℤ) :
    lmdbStoragePut mallocs s database accepted code = .error .memory := by
  have hsmall : sizeOfLen accepted.header.value.paxosValueLen <
      sizeofPaxosAccepted := by
    by_contra hlarge
    have habsurd := le_sizeOfLen_of_neg hlen (not_lt.mp hlarge)
    rw [mallocFails, decide_eq_false_iff_not] at hsize
    exact hsize habsurd
  simp only [lmdbStoragePut, paxosAcceptedToBuffer_granted hgranted,
    LmdbOperations.paxosAcceptedToBuffer, hsize, Bool.false_eq_true, if_false,
    if_pos hsmall, bind, Except.bind]

theorem lmdbStoragePut_granted (hgranted : mallocs.accepted = true)
    (hlen : 0 ≤ accepted.header.value.paxosValueLen.toInt)
    (txn : ℕ) (database : Database) (code : ℤ) :
    lmdbStoragePut mallocs ⟨some txn⟩ database accepted code =
      LmdbOperations.lmdbStoragePut ⟨some txn⟩ database accepted code := by
  simp only [lmdbStoragePut, LmdbOperations.lmdbStoragePut,
    paxosAcceptedToBuffer_granted hgranted, paxosAcceptedToBuffer_eq hlen]
  rfl

section Put

variable (hhandle : lmdbStorage.txn = none) {codes : MdbCodes}
  (hbegin : codes.txnBegin = 0)

include hhandle hbegin

theorem storagePut_of_put_halts {halt : Halt}
    (hput : lmdbStoragePut mallocs ⟨some database.begun⟩
      (database.txnBegin true).1 accepted codes.access = .error halt) :
    storagePut mallocs lmdbStorage database accepted codes = .error halt := by
  simp only [storagePut, hbegin, lmdbStorageTxBegin_zero hhandle, hput, bind,
    Except.bind, ne_eq, not_true_eq_false, if_false]

/-- After a failed write comes an abort, and the assertion of the commit. -/
theorem storagePut_of_put_fails (hsettled : database.Settled) {result : ℤ}
    (hresult : result ≠ 0)
    (hput : lmdbStoragePut mallocs ⟨some database.begun⟩
      (database.txnBegin true).1 accepted codes.access =
        .ok ((database.txnBegin true).1, result)) :
    storagePut mallocs lmdbStorage database accepted codes =
      .error .assertion := by
  simp only [storagePut, hbegin, lmdbStorageTxBegin_zero hhandle, hput,
    lmdbStorageTxAbort_eq hsettled.openAt_txnBegin, lmdbStorageTxCommit, bind,
    Except.bind, ne_eq, hresult, not_true_eq_false, not_false_eq_true, if_false,
    if_true]

theorem storagePut_granted (hgranted : mallocs.accepted = true)
    (hlen : 0 ≤ accepted.header.value.paxosValueLen.toInt) :
    storagePut mallocs lmdbStorage database accepted codes =
      UserStorage.storagePut lmdbStorage database accepted codes := by
  simp only [storagePut, UserStorage.storagePut, hbegin,
    lmdbStorageTxBegin_zero hhandle, lmdbStoragePut_granted hgranted hlen,
    bind, Except.bind]

end Put

end Operations

/-! ## Exactly these buffers are needed -/

section Uncorrupted

variable {lmdbStorage : LmdbStorage} {database : Database}
  {records : Word32 → Option UserAccepted} {call : Call}

/-- A call that breaks off otherwise than at an access. -/
theorem uncorrupted_of_halt (halt : Halt)
    (hperform : call.perform mallocs lmdbStorage database = .error halt)
    (hhalt : halt ≠ .memory) :
    Uncorrupted mallocs lmdbStorage database records call where
  in_bounds hmemory :=
    hhalt (Except.error.inj (hperform.symm.trans hmemory))
  stored next sent hok := by
    rw [hperform] at hok
    cases hok
  sent next buffer hok := by
    rw [hperform] at hok
    cases hok

/-- A call that comes to an end is to be judged by this end alone. -/
theorem uncorrupted_of_ok (next : Database) (sent : Option Buffer)
    (hperform : call.perform mallocs lmdbStorage database = .ok (next, sent)) :
    Uncorrupted mallocs lmdbStorage database records call ↔
      (next.entries = database.entries ∨
        next.entries = applyWrites database.entries call.entries) ∧
      ∀ buffer, sent = some buffer →
        ∃ frame, call.frame records = some frame ∧ buffer = frame.map some := by
  constructor
  · intro huncorrupted
    refine ⟨huncorrupted.stored next sent hperform, ?_⟩
    rintro buffer rfl
    exact huncorrupted.sent next buffer hperform
  · rintro ⟨hstored, hsent⟩
    exact
      { in_bounds := by
          intro hmemory
          rw [hperform] at hmemory
          cases hmemory
        stored := by
          intro other result hok
          rw [hperform] at hok
          cases hok
          exact hstored
        sent := by
          intro other buffer hok
          rw [hperform] at hok
          cases hok
          exact hsent buffer rfl }

theorem not_uncorrupted_of_memory
    (hperform : call.perform mallocs lmdbStorage database = .error .memory) :
    ¬ Uncorrupted mallocs lmdbStorage database records call :=
  fun huncorrupted => huncorrupted.in_bounds hperform

theorem uncorrupted_receive_iff (mallocs : Mallocs) (lmdbStorage : LmdbStorage)
    (database : Database) (accepted : UserAccepted) (rest : List Byte)
    (pointer : Addr) :
    Uncorrupted mallocs lmdbStorage database records
        (.receive accepted rest pointer) ↔
      Suffices mallocs records (.receive accepted rest pointer) := by
  have hdecode := bufferToPaxosAccepted_encode mallocs accepted rest pointer
  by_cases hrefused : mallocs.value = false ∧
      0 < accepted.header.value.paxosValueLen.toInt
  · rw [if_pos hrefused] at hdecode
    refine iff_of_false (not_uncorrupted_of_memory ?_) ?_
    · rw [Call.perform, hdecode]
      rfl
    · rintro (hvalue | hempty)
      · rw [hrefused.1] at hvalue
        cases hvalue
      · exact absurd hrefused.2 (not_lt.mpr hempty)
  · rw [if_neg hrefused] at hdecode
    refine iff_of_true ((uncorrupted_of_ok database none
      ?_).mpr ⟨Or.inl rfl, by simp⟩) ?_
    · rw [Call.perform, hdecode]
      rfl
    · rcases not_and_or.mp hrefused with hvalue | hempty
      · exact Or.inl (Bool.not_eq_false _ ▸ hvalue)
      · exact Or.inr (not_lt.mp hempty)

theorem perform_put {codes : MdbCodes} :
    Call.perform mallocs lmdbStorage database (.put accepted codes) = (do
      let (next, _) ← storagePut mallocs lmdbStorage database accepted codes
      return (next, none)) := rfl

/-- The abort that follows a failed put fails its assertion. -/
theorem uncorrupted_of_put_fails (hhandle : lmdbStorage.txn = none)
    (hsettled : database.Settled) {codes : MdbCodes}
    (hbegin : codes.txnBegin = 0) {result : ℤ} (hresult : result ≠ 0)
    (hput : lmdbStoragePut mallocs ⟨some database.begun⟩
      (database.txnBegin true).1 accepted codes.access =
        .ok ((database.txnBegin true).1, result)) :
    Uncorrupted mallocs lmdbStorage database records
      (.put accepted codes) := by
  refine uncorrupted_of_halt .assertion ?_ (by decide)
  rw [perform_put, storagePut_of_put_fails hhandle hbegin hsettled hresult hput]
  rfl

theorem not_uncorrupted_of_put_halts (hhandle : lmdbStorage.txn = none)
    {codes : MdbCodes} (hbegin : codes.txnBegin = 0)
    (hput : lmdbStoragePut mallocs ⟨some database.begun⟩
      (database.txnBegin true).1 accepted codes.access = .error .memory) :
    ¬ Uncorrupted mallocs lmdbStorage database records
      (.put accepted codes) := by
  refine not_uncorrupted_of_memory ?_
  rw [perform_put, storagePut_of_put_halts hhandle hbegin hput]
  rfl

/-- With its buffer a record of some length is stored or not. -/
theorem uncorrupted_put_granted (hhandle : lmdbStorage.txn = none)
    (hsettled : database.Settled) {codes : MdbCodes}
    (hbegin : codes.txnBegin = 0) (hgranted : mallocs.accepted = true)
    (hlen : 0 ≤ accepted.header.value.paxosValueLen.toInt) :
    Uncorrupted mallocs lmdbStorage database records
      (.put accepted codes) := by
  by_cases haccess : codes.access = 0
  · obtain ⟨next, hput, -, hentries, -⟩ :=
      storagePut_eq hhandle hsettled hlen hbegin haccess
    refine (uncorrupted_of_ok next none ?_).mpr ⟨?_, by simp⟩
    · rw [perform_put, storagePut_granted hhandle hbegin hgranted hlen, hput]
      rfl
    · rw [hentries]
      split
      · exact Or.inr rfl
      · exact Or.inl (applyWrites_nil _)
  · have hfailed : (codes.access == 0) = false := by
      simpa using haccess
    apply uncorrupted_of_put_fails hhandle hsettled hbegin haccess
    rw [lmdbStoragePut_granted hgranted hlen]
    simp only [LmdbOperations.lmdbStoragePut,
      LmdbOperations.paxosAcceptedToBuffer_eq hlen, hfailed,
      hsettled.openAt_txnBegin.put_false, live_some, bind, Except.bind, pure,
      Except.pure]

theorem uncorrupted_put_iff (hhandle : lmdbStorage.txn = none)
    (hsettled : database.Settled) (mallocs : Mallocs)
    (accepted : UserAccepted) (codes : MdbCodes) :
    Uncorrupted mallocs lmdbStorage database records (.put accepted codes) ↔
      Suffices mallocs records (.put accepted codes) := by
  by_cases hbegin : codes.txnBegin = 0
  swap
  · refine iff_of_true ((uncorrupted_of_ok database none
      ?_).mpr ⟨Or.inl rfl, by simp⟩) (Or.inl hbegin)
    simp only [perform_put, storagePut,
      lmdbStorageTxBegin_ne_zero hhandle hbegin, if_pos hbegin, bind,
      Except.bind, pure, Except.pure]
  by_cases hsize : mallocFails
      (sizeOfLen accepted.header.value.paxosValueLen) = true
  · obtain ⟨result, hresult, hput⟩ := lmdbStoragePut_too_large hsize mallocs
      database.begun (database.txnBegin true).1 codes.access
    exact iff_of_true
      (uncorrupted_of_put_fails hhandle hsettled hbegin hresult hput)
      (Or.inr (Or.inl hsize))
  have hfits := Bool.not_eq_true _ ▸ hsize
  by_cases hgranted : mallocs.accepted = true
  · by_cases hlen : 0 ≤ accepted.header.value.paxosValueLen.toInt
    · exact iff_of_true
        (uncorrupted_put_granted hhandle hsettled hbegin hgranted hlen)
        (Or.inr (Or.inr (Or.inl ⟨hgranted, hlen⟩)))
    · refine iff_of_false (not_uncorrupted_of_put_halts hhandle hbegin
        (lmdbStoragePut_overrun hgranted (not_le.mp hlen) hfits _ _ _)) ?_
      rintro (hfailed | hhuge | ⟨-, hnonneg⟩ | ⟨hrefused, -⟩)
      · exact hfailed hbegin
      · exact hsize hhuge
      · exact hlen hnonneg
      · rw [hgranted] at hrefused
        cases hrefused
  · have hrefused := Bool.not_eq_true _ ▸ hgranted
    by_cases haccess : codes.access = 0
    · refine iff_of_false (not_uncorrupted_of_put_halts hhandle hbegin ?_) ?_
      · rw [haccess]
        exact lmdbStoragePut_null hrefused hfits _ _
      · rintro (hfailed | hhuge | ⟨hbuffer, -⟩ | ⟨-, hcode⟩)
        · exact hfailed hbegin
        · exact hsize hhuge
        · exact hgranted hbuffer
        · exact hcode haccess
    · exact iff_of_true (uncorrupted_of_put_fails hhandle hsettled hbegin haccess
        (lmdbStoragePut_refused hrefused accepted _ _ haccess))
        (Or.inr (Or.inr (Or.inr ⟨hrefused, haccess⟩)))

/-- An answer that is sent must have its record in its frame. -/
theorem uncorrupted_answer_iff {message : ClientValue} {codes : MdbCodes}
    {pointer : Addr} {next : Database} {answer : UserAccepted}
    (hentries : next.entries = database.entries)
    (hanswer : ((foundRecord records message codes).map
      (UserAccepted.relocate · pointer)).getD UserAccepted.zeroed = answer)
    (hperform : processReadMessage mallocs lmdbStorage database message codes
      pointer = .ok (next, answerBuffer mallocs message.bufferId answer)) :
    Uncorrupted mallocs lmdbStorage database records
        (.read message codes pointer) ↔
      (mallocs.frame = true → mallocs.accepted = true) := by
  have hcall : Call.perform mallocs lmdbStorage database
      (.read message codes pointer) =
        .ok (next, answerBuffer mallocs message.bufferId answer) := hperform
  rw [uncorrupted_of_ok next _ hcall,
    ← answerBuffer_complete mallocs message.bufferId answer]
  constructor
  · rintro ⟨-, hsent⟩ buffer hbuffer
    obtain ⟨frame, hframe, rfl⟩ := hsent buffer hbuffer
    rw [← Option.some.inj hframe, hanswer]
  · intro hcomplete
    refine ⟨Or.inl hentries, fun buffer hbuffer => ⟨_, rfl, ?_⟩⟩
    rw [hanswer]
    exact hcomplete buffer hbuffer

theorem uncorrupted_read_iff (hhandle : lmdbStorage.txn = none)
    (hsettled : database.Settled)
    (hrepresents : Represents database.entries records)
    (hlen : ∀ iid accepted, records iid = some accepted →
      0 ≤ accepted.header.value.paxosValueLen.toInt)
    (mallocs : Mallocs) (message : ClientValue) (codes : MdbCodes)
    (pointer : Addr) :
    Uncorrupted mallocs lmdbStorage database records
        (.read message codes pointer) ↔
      Suffices mallocs records (.read message codes pointer) := by
  by_cases hout : mallocs.out = true
  swap
  · refine iff_of_false (not_uncorrupted_of_memory
      (processReadMessage_out hhandle (Bool.not_eq_true _ ▸ hout) message codes
        pointer)) fun hsuffices => hout hsuffices.1
  obtain ⟨next, hentries, hread⟩ := processReadMessage_eq hhandle hsettled
    hrepresents hlen hout message codes pointer
  simp only [Suffices, hout, true_and]
  cases hfound : foundRecord records message codes with
  | none =>
      rw [hfound] at hread
      by_cases hnotFound : mallocs.notFound = true
      · rw [uncorrupted_answer_iff hentries (by rw [hfound]; rfl)
          (hread.trans (if_neg (by simp [hnotFound])))]
        exact (and_iff_left hnotFound).symm
      · exact iff_of_false (not_uncorrupted_of_memory
          (hread.trans (if_pos (Bool.not_eq_true _ ▸ hnotFound))))
          fun hsuffices => hnotFound hsuffices.2
  | some accepted =>
      rw [hfound] at hread
      by_cases hrefused : mallocs.value = false ∧
          0 < accepted.header.value.paxosValueLen.toInt
      · refine iff_of_false (not_uncorrupted_of_memory
          (hread.trans (if_pos hrefused))) ?_
        rintro ⟨-, hvalue | hempty⟩
        · rw [hrefused.1] at hvalue
          cases hvalue
        · exact absurd hrefused.2 (not_lt.mpr hempty)
      · have hvalue : mallocs.value = true ∨
            accepted.header.value.paxosValueLen.toInt ≤ 0 := by
          rcases not_and_or.mp hrefused with hvalue | hempty
          · exact Or.inl (Bool.not_eq_false _ ▸ hvalue)
          · exact Or.inr (not_lt.mp hempty)
        rw [uncorrupted_answer_iff hentries (by rw [hfound]; rfl)
          (hread.trans (if_neg hrefused))]
        exact (and_iff_left hvalue).symm

/-- On a database of records each call corrupts nothing exactly if the buffers
it cannot do without are granted. -/
theorem uncorrupted_iff (hhandle : lmdbStorage.txn = none)
    (hsettled : database.Settled)
    (hrepresents : Represents database.entries records)
    (hlen : ∀ iid accepted, records iid = some accepted →
      0 ≤ accepted.header.value.paxosValueLen.toInt)
    (mallocs : Mallocs) (call : Call) :
    Uncorrupted mallocs lmdbStorage database records call ↔
      Suffices mallocs records call := by
  cases call with
  | receive accepted rest pointer =>
      exact uncorrupted_receive_iff mallocs lmdbStorage database accepted rest
        pointer
  | put accepted codes =>
      exact uncorrupted_put_iff hhandle hsettled mallocs accepted codes
  | read message codes pointer =>
      exact uncorrupted_read_iff hhandle hsettled hrepresents hlen mallocs
        message codes pointer

end Uncorrupted

/-- A request for the number seven. -/
def requestSeven : ClientValue :=
  ⟨0, { UserAccepted.zeroed with
    header := { UserAccepted.zeroed.header with iid := 7 } }⟩

/-- On an empty database, with every allocation granted, it is answered. -/
theorem uncorrupted_requestSeven :
    Uncorrupted .granted ⟨none⟩ (Store.ofEntries fun _ => none) (fun _ => none)
      (.read requestSeven .success 0) :=
  (uncorrupted_iff rfl (Store.settled_ofEntries _) represents_empty
    (fun _ _ hnone => by cases hnone) .granted _).mpr
      ⟨rfl, fun _ => rfl, rfl⟩

/-- The one for the record in the frame is refused. -/
theorem not_uncorrupted_requestSeven :
    ¬ Uncorrupted { Mallocs.granted with accepted := false } ⟨none⟩
      (Store.ofEntries fun _ => none) (fun _ => none)
      (.read requestSeven .success 0) := by
  intro huncorrupted
  have hsuffices := (uncorrupted_read_iff rfl (Store.settled_ofEntries _)
    represents_empty (fun _ _ hnone => by cases hnone) _ _ _ _).mp huncorrupted
  exact absurd (hsuffices.2.1 rfl) (by decide)

end PaxosPersistence.AllocationFailures
