import PaxosPersistence.Storage.LmdbOperations

/-!
# The storage operations

`storage_get` and `storage_put` run one transaction each.  Both receive the
handle by value, so that whatever they do to its transaction is gone when they
return.  Between calls the database represents a map from instance numbers to
records; the two specification lemmas below say what a call does to that map
and what it returns.
-/

namespace PaxosPersistence.UserStorage

open PaxosPersistence.ByteBlock
open PaxosPersistence.LmdbOperations
open PaxosPersistence.Memory
open PaxosPersistence.PaxosTypes
open PaxosPersistence.TransactionalMap

/-- The codes that the database calls of one storage operation return. -/
structure MdbCodes where
  txnBegin : ℤ
  access : ℤ
  txnCommit : ℤ
  deriving DecidableEq

/-- Every call succeeds. -/
def MdbCodes.success : MdbCodes := ⟨0, 0, 0⟩

/-- `storage_get`, given the cleared `out` and how it is filled.  A failed
begin is reported, and the lookup goes on without a transaction. -/
def storageGetBy (cleared : Except Halt UserAccepted)
    (decode : List Byte → Except Halt UserAccepted)
    (lmdbStorage : LmdbStorage) (database : Database) (id : Word32)
    (codes : MdbCodes) : Except Halt (Database × Option UserAccepted) := do
  let (s, begun, _) ← lmdbStorageTxBegin lmdbStorage database codes.txnBegin
  let out ← cleared
  let (found, out) ← lmdbStorageGetBy decode s begun id out codes.access
  if found ≠ 1 then
    let (_, aborted) ← lmdbStorageTxAbort s begun
    return (aborted, none)
  else
    let (_, committed, _) ← lmdbStorageTxCommit s begun codes.txnCommit
    return (committed, some out)

/-- `storage_get`; `pointer` is what `malloc` returns for the value. -/
def storageGet (lmdbStorage : LmdbStorage) (database : Database)
    (id : Word32) (codes : MdbCodes) (pointer : Addr) :
    Except Halt (Database × Option UserAccepted) :=
  storageGetBy (.ok UserAccepted.zeroed) (bufferToPaxosAccepted · pointer)
    lmdbStorage database id codes

/-- `storage_put`; after a failed write the transaction is aborted, and then
committed like any other. -/
def storagePut (lmdbStorage : LmdbStorage) (database : Database)
    (accepted : UserAccepted) (codes : MdbCodes) :
    Except Halt (Database × ℤ) := do
  let (s, begun, failed) ←
    lmdbStorageTxBegin lmdbStorage database codes.txnBegin
  if failed ≠ 0 then return (begun, 1)
  else
    let (written, result) ← lmdbStoragePut s begun accepted codes.access
    let (s, written) ←
      if result ≠ 0 then lmdbStorageTxAbort s written
      else .ok (s, written)
    let (_, committed, failed) ←
      lmdbStorageTxCommit s written codes.txnCommit
    if failed ≠ 0 then return (committed, 1) else return (committed, 0)

/-! ## The map behind the database -/

/-- The database stores exactly these records, each under its own number. -/
structure Represents (entries : List Byte → Option (List Byte))
    (records : Word32 → Option UserAccepted) : Prop where
  lookup_eq : ∀ iid,
    entries (keyOf iid) = (records iid).map UserAccepted.encode
  iid_eq : ∀ iid accepted, records iid = some accepted →
    accepted.header.iid = iid

theorem represents_empty : Represents (fun _ => none) fun _ => none where
  lookup_eq := fun _ => rfl
  iid_eq := fun _ _ hnone => nomatch hnone

/-- Storing a record replaces the one under the same number. -/
theorem Represents.put {entries : List Byte → Option (List Byte)}
    {records : Word32 → Option UserAccepted} (hrepresents : Represents entries records)
    (accepted : UserAccepted) :
    Represents (applyWrites entries [accepted.entry])
      (applyWrites records [(accepted.header.iid, accepted)]) where
  lookup_eq iid := by
    rw [applyWrites_singleton, applyWrites_singleton, UserAccepted.entry]
    by_cases hiid : iid = accepted.header.iid
    · rw [hiid, Function.update_self, Function.update_self]
      rfl
    · have hkey : keyOf iid ≠ keyOf accepted.header.iid :=
        keyOf_injective.ne hiid
      rw [Function.update_of_ne hkey, Function.update_of_ne hiid,
        hrepresents.lookup_eq]
  iid_eq iid other hother := by
    rw [applyWrites_singleton] at hother
    by_cases hiid : iid = accepted.header.iid
    · rw [hiid, Function.update_self] at hother
      rw [← Option.some.inj hother, hiid]
    · rw [Function.update_of_ne hiid] at hother
      exact hrepresents.iid_eq iid other hother

/-- The database after storing records in order represents their map. -/
theorem represents_entries (stored : List UserAccepted) :
    Represents (applyWrites (fun _ => none) (stored.map UserAccepted.entry))
      (applyWrites (fun _ => none)
        (stored.map fun accepted => (accepted.header.iid, accepted))) := by
  induction stored using List.reverseRecOn with
  | nil => exact represents_empty
  | append_singleton stored accepted ih =>
      rw [List.map_append, List.map_append, applyWrites_append,
        applyWrites_append]
      exact ih.put accepted

/-- A value with a length that is not negative and fits into a slot. -/
structure Sized (accepted : UserAccepted) : Prop where
  len_nonneg : 0 ≤ accepted.header.value.paxosValueLen.toInt
  len_le : accepted.header.value.paxosValueLen.toInt ≤ maxPaxosValueSize

/-- Every stored record has its own number and a value that fits. -/
def Storable (entries : List Byte → Option (List Byte)) : Prop :=
  ∃ records, Represents entries records ∧
    ∀ iid accepted, records iid = some accepted → Sized accepted

theorem storable_empty : Storable fun _ => none :=
  ⟨fun _ => none, represents_empty, fun _ _ hnone => nomatch hnone⟩

theorem storable_entries {stored : List UserAccepted}
    (hsized : ∀ accepted ∈ stored, Sized accepted) :
    Storable (applyWrites (fun _ => none) (stored.map UserAccepted.entry)) := by
  refine ⟨_, represents_entries stored, ?_⟩
  intro iid accepted hrecord
  rw [applyWrites_map_eq_find?
    (fun accepted : UserAccepted => accepted.header.iid)] at hrecord
  exact hsized accepted (List.mem_reverse.mp (List.mem_of_find?_eq_some hrecord))

/-- The record stored under a number, or the record of zeros. -/
def storedRecord (entries : List Byte → Option (List Byte)) (iid : Word32) :
    PaxosRecord :=
  ((entries (keyOf iid)).map imageRecord).getD PaxosRecord.zeroed

theorem storedRecord_of_represents
    {entries : List Byte → Option (List Byte)}
    {records : Word32 → Option UserAccepted}
    (hrepresents : Represents entries records) (iid : Word32) :
    storedRecord entries iid =
      ((records iid).getD UserAccepted.zeroed).record := by
  rw [storedRecord, hrepresents.lookup_eq]
  cases records iid with
  | none => rfl
  | some accepted => exact imageRecord_encode accepted

/-- The last record stored under each number. -/
theorem storedRecord_entries (stored : List UserAccepted) (iid : Word32) :
    storedRecord (applyWrites (fun _ => none)
        (stored.map UserAccepted.entry)) iid =
      (applyWrites (fun _ => none) ((stored.map UserAccepted.record).map
        fun record => (record.iid, record)) iid).getD PaxosRecord.zeroed := by
  rw [storedRecord_of_represents (represents_entries stored),
    applyWrites_map_eq_find?
      (fun accepted : UserAccepted => accepted.header.iid),
    applyWrites_map_eq_find? (fun record : PaxosRecord => record.iid),
    ← List.map_reverse]
  change _ = ((stored.reverse.map UserAccepted.record).find? fun record =>
    record.iid = iid).getD PaxosRecord.zeroed
  rw [List.find?_map]
  change ((stored.reverse.find? fun accepted =>
      accepted.header.iid = iid).getD UserAccepted.zeroed).record =
    ((stored.reverse.find? fun accepted =>
      accepted.header.iid = iid).map UserAccepted.record).getD PaxosRecord.zeroed
  cases stored.reverse.find? fun accepted => accepted.header.iid = iid with
  | none => rfl
  | some accepted => rfl

/-! ## What the operations do -/

section Operations

variable {lmdbStorage : LmdbStorage} {database : Database}

/-- A begun transaction is the only one that is live. -/
theorem lmdbStorageTxBegin_zero (hhandle : lmdbStorage.txn = none) :
    lmdbStorageTxBegin lmdbStorage database 0 =
      .ok (⟨some database.begun⟩, (database.txnBegin true).1, 0) := by
  rw [lmdbStorageTxBegin, if_neg (by simp [hhandle])]
  rfl

theorem lmdbStorageTxBegin_ne_zero (hhandle : lmdbStorage.txn = none)
    {code : ℤ} (hcode : code ≠ 0) :
    lmdbStorageTxBegin lmdbStorage database code =
      .ok (⟨none⟩, database, code) := by
  have hfailed : (code == 0) = false := by
    simpa using hcode
  rw [lmdbStorageTxBegin, if_neg (by simp [hhandle]), hfailed]
  rfl

variable {txn : ℕ} {writes : List (List Byte × List Byte)}

theorem lmdbStorageTxCommit_eq (hopen : database.OpenAt txn writes)
    (code : ℤ) :
    lmdbStorageTxCommit ⟨some txn⟩ database code =
      .ok (⟨none⟩, database.close txn (if code = 0 then writes else []),
        code) := by
  simp only [lmdbStorageTxCommit, hopen.commit_eq_some, live_some, beq_iff_eq,
    bind, Except.bind, pure, Except.pure]

theorem lmdbStorageTxAbort_eq (hopen : database.OpenAt txn writes) :
    lmdbStorageTxAbort ⟨some txn⟩ database =
      .ok (⟨none⟩, database.close txn []) := by
  simp only [lmdbStorageTxAbort, hopen.abort_eq_some, live_some, bind,
    Except.bind, pure, Except.pure]

section Lookup

/-- A record is decoded to one of its number. -/
def KeepsIid (decode : List Byte → Except Halt UserAccepted) : Prop :=
  ∀ accepted decoded : UserAccepted, decode accepted.encode = .ok decoded →
    decoded.header.iid = accepted.header.iid

variable {decode : List Byte → Except Halt UserAccepted}

/-- A lookup in a fresh transaction finds the record stored under the number,
and its assertion holds. -/
theorem lmdbStorageGetBy_eq {records : Word32 → Option UserAccepted}
    (hdecode : KeepsIid decode) (hopen : database.OpenAt txn [])
    (hrepresents : Represents database.entries records) (iid : Word32)
    (out : UserAccepted) (code : ℤ) :
    lmdbStorageGetBy decode ⟨some txn⟩ database iid out code =
      match if code = 0 then records iid else none with
      | none => .ok (0, out)
      | some accepted => (decode accepted.encode).map (1, ·) := by
  by_cases hcode : code = 0
  · have hget := hopen.get_true (keyOf iid)
    rw [applyWrites_nil, hrepresents.lookup_eq] at hget
    simp only [lmdbStorageGetBy, mdbGet, hcode, BEq.rfl, hget, live_some, bind,
      Except.bind, if_true]
    cases hrecord : records iid with
    | none => rfl
    | some accepted =>
        simp only [Option.map_some]
        cases hdecoded : decode accepted.encode with
        | error halt => rfl
        | ok decoded =>
            have hiid : iid = decoded.header.iid :=
              ((hdecode accepted decoded hdecoded).trans
                (hrepresents.iid_eq iid accepted hrecord)).symm
            simp only [if_neg (not_not.mpr hiid)]
            rfl
  · have hfailed : (code == 0) = false := by
      simpa using hcode
    simp only [lmdbStorageGetBy, mdbGet, hfailed, hopen.get_false, live_some,
      bind, Except.bind, if_neg hcode]
    rfl

/-- A lookup leaves the map as it is, and returns what the record of its number
is decoded to. -/
theorem storageGetBy_eq {records : Word32 → Option UserAccepted}
    (hdecode : KeepsIid decode) (hhandle : lmdbStorage.txn = none)
    (hsettled : database.Settled)
    (hrepresents : Represents database.entries records) (id : Word32)
    {codes : MdbCodes} (hbegin : codes.txnBegin = 0) (out : UserAccepted) :
    ∃ next : Database, next.Settled ∧ next.entries = database.entries ∧
      storageGetBy (.ok out) decode lmdbStorage database id codes =
        match if codes.access = 0 then records id else none with
        | none => .ok (next, none)
        | some accepted =>
            (decode accepted.encode).map fun decoded =>
              (next, some decoded) := by
  have hopen := hsettled.openAt_txnBegin
  have hget := lmdbStorageGetBy_eq hdecode hopen
    (show Represents (database.txnBegin true).1.entries records from
      hrepresents) id out codes.access
  refine ⟨(database.txnBegin true).1.close database.begun [],
    hopen.settled_close [], rfl, ?_⟩
  simp only [storageGetBy, hbegin, lmdbStorageTxBegin_zero hhandle, hget, bind,
    Except.bind, pure, Except.pure]
  cases if codes.access = 0 then records id else none with
  | none => simp [lmdbStorageTxAbort_eq hopen]
  | some accepted =>
      cases hdecoded : decode accepted.encode with
      | error halt => simp [Except.map, hdecoded]
      | ok decoded =>
          simp [Except.map, hdecoded, lmdbStorageTxCommit_eq hopen]

/-- Without a transaction the lookup is attempted all the same, and finds
nothing. -/
theorem storageGetBy_of_begin_ne_zero (hhandle : lmdbStorage.txn = none)
    (decode : List Byte → Except Halt UserAccepted) (database : Database)
    {codes : MdbCodes} (hbegin : codes.txnBegin ≠ 0) (id : Word32)
    (out : UserAccepted) :
    storageGetBy (.ok out) decode lmdbStorage database id codes =
      .ok (database, none) := by
  simp only [storageGetBy, lmdbStorageGetBy, mdbGet,
    lmdbStorageTxBegin_ne_zero hhandle hbegin, lmdbStorageTxAbort, bind,
    Except.bind, pure, Except.pure]
  rfl

end Lookup

/-- The record that is found has a pointer of its own. -/
theorem storageGet_eq {records : Word32 → Option UserAccepted}
    (hhandle : lmdbStorage.txn = none) (hsettled : database.Settled)
    (hrepresents : Represents database.entries records) (id : Word32)
    {codes : MdbCodes} (hbegin : codes.txnBegin = 0) (pointer : Addr) :
    ∃ next, storageGet lmdbStorage database id codes pointer =
        .ok (next, (if codes.access = 0 then records id else none).map
          (UserAccepted.relocate · pointer)) ∧
      next.Settled ∧ next.entries = database.entries := by
  have hdecode (accepted : UserAccepted) :
      bufferToPaxosAccepted accepted.encode pointer =
        .ok (accepted.relocate pointer) := by
    have hencode := bufferToPaxosAccepted_encode accepted [] pointer
    rwa [List.append_nil] at hencode
  have hkeeps : KeepsIid (bufferToPaxosAccepted · pointer) := by
    intro accepted decoded hdecoded
    rw [← Except.ok.inj ((hdecode accepted).symm.trans hdecoded)]
    rfl
  obtain ⟨next, hnext, hentries, hget⟩ := storageGetBy_eq hkeeps hhandle
    hsettled hrepresents id hbegin UserAccepted.zeroed
  refine ⟨next, hget.trans ?_, hnext, hentries⟩
  cases if codes.access = 0 then records id else none with
  | none => rfl
  | some accepted =>
      simp only [hdecode]
      rfl

theorem storageGet_of_begin_ne_zero (hhandle : lmdbStorage.txn = none)
    (database : Database) {codes : MdbCodes} (hbegin : codes.txnBegin ≠ 0)
    (id : Word32) (pointer : Addr) :
    storageGet lmdbStorage database id codes pointer = .ok (database, none) :=
  storageGetBy_of_begin_ne_zero hhandle _ database hbegin id _

theorem storagePut_of_begin_ne_zero (hhandle : lmdbStorage.txn = none)
    {codes : MdbCodes} (hbegin : codes.txnBegin ≠ 0)
    (accepted : UserAccepted) :
    storagePut lmdbStorage database accepted codes = .ok (database, 1) := by
  simp only [storagePut, lmdbStorageTxBegin_ne_zero hhandle hbegin, bind,
    Except.bind, pure, Except.pure, ne_eq, hbegin, not_false_eq_true, if_true]

/-- Once the write has succeeded, the commit alone decides. -/
theorem storagePut_eq (hhandle : lmdbStorage.txn = none)
    (hsettled : database.Settled) {accepted : UserAccepted}
    (hlen : 0 ≤ accepted.header.value.paxosValueLen.toInt) {codes : MdbCodes}
    (hbegin : codes.txnBegin = 0) (haccess : codes.access = 0) :
    ∃ next, storagePut lmdbStorage database accepted codes =
        .ok (next, if codes.txnCommit = 0 then 0 else 1) ∧
      next.Settled ∧
      next.entries = applyWrites database.entries
        (if codes.txnCommit = 0 then [accepted.entry] else []) ∧
      next.closed = database.closed ++ [(database.begun,
        if codes.txnCommit = 0 then [accepted.entry] else [])] := by
  have hopen := hsettled.openAt_txnBegin
  obtain ⟨written, hput, hwritten, hentries, hclosed⟩ :=
    hopen.put_eq_some (keyOf accepted.header.iid) accepted.encode
  refine ⟨written.close database.begun
    (if codes.txnCommit = 0 then [accepted.entry] else []), ?_,
    hwritten.settled_close _, ?_, ?_⟩
  · simp only [storagePut, hbegin, haccess, lmdbStorageTxBegin_zero hhandle,
      lmdbStoragePut, paxosAcceptedToBuffer_eq hlen, BEq.rfl, hput, live_some,
      lmdbStorageTxCommit_eq hwritten, bind, Except.bind, pure, Except.pure,
      ne_eq, not_true_eq_false, if_false]
    by_cases hcommit : codes.txnCommit = 0
    · simp [hcommit, UserAccepted.entry]
    · simp [hcommit]
  · rw [Store.close_entries, hentries]
    rfl
  · rw [Store.close_closed, hclosed]
    rfl

/-- With every database call succeeding, a lookup returns the record. -/
theorem storageGet_success {records : Word32 → Option UserAccepted}
    (hhandle : lmdbStorage.txn = none) (hsettled : database.Settled)
    (hrepresents : Represents database.entries records) (id : Word32)
    (pointer : Addr) :
    ∃ next, storageGet lmdbStorage database id MdbCodes.success pointer =
        .ok (next, (records id).map (UserAccepted.relocate · pointer)) ∧
      next.Settled ∧ next.entries = database.entries :=
  storageGet_eq hhandle hsettled hrepresents id
    (show MdbCodes.success.txnBegin = 0 from rfl) pointer

/-- The record of zeros fits. -/
theorem sized_zeroed : Sized UserAccepted.zeroed :=
  ⟨(show (0 : Word32).toInt = 0 from rfl).ge, by decide⟩

/-- Whatever its calls return, a lookup among storable records comes to one
that fits. -/
theorem storageGet_sized (hhandle : lmdbStorage.txn = none)
    (hsettled : database.Settled) (hstorable : Storable database.entries)
    (id : Word32) (codes : MdbCodes) (pointer : Addr) :
    ∃ next found, storageGet lmdbStorage database id codes pointer =
        .ok (next, found) ∧
      next.Settled ∧ next.entries = database.entries ∧
      (codes.txnBegin = 0 → codes.access = 0 →
        (found.getD UserAccepted.zeroed).record =
          storedRecord database.entries id) ∧
      Sized (found.getD UserAccepted.zeroed) := by
  by_cases hbegin : codes.txnBegin = 0
  · obtain ⟨records, hrepresents, hsized⟩ := hstorable
    obtain ⟨next, hget, hnext, hentries⟩ :=
      storageGet_eq hhandle hsettled hrepresents id hbegin pointer
    refine ⟨next, _, hget, hnext, hentries, ?_, ?_⟩
    · intro _ haccess
      rw [if_pos haccess, storedRecord_of_represents hrepresents]
      cases records id with
      | none => rfl
      | some accepted => rfl
    · split
      · cases hrecord : records id with
        | none => exact sized_zeroed
        | some accepted =>
            have hsame := hsized id accepted hrecord
            exact ⟨hsame.len_nonneg, hsame.len_le⟩
      · exact sized_zeroed
  · exact ⟨database, none,
      storageGet_of_begin_ne_zero hhandle database hbegin id pointer, hsettled,
      rfl, fun hzero => absurd hzero hbegin, sized_zeroed⟩

/-- With every call succeeding, it is the one stored under the number. -/
theorem storageGet_storable (hhandle : lmdbStorage.txn = none)
    (hsettled : database.Settled) (hstorable : Storable database.entries)
    (id : Word32) (pointer : Addr) :
    ∃ next found, storageGet lmdbStorage database id MdbCodes.success pointer =
        .ok (next, found) ∧
      next.Settled ∧ next.entries = database.entries ∧
      (found.getD UserAccepted.zeroed).record =
        storedRecord database.entries id ∧
      Sized (found.getD UserAccepted.zeroed) := by
  obtain ⟨next, found, hget, hnext, hentries, hrecord, hsized⟩ :=
    storageGet_sized hhandle hsettled hstorable id MdbCodes.success pointer
  exact ⟨next, found, hget, hnext, hentries, hrecord rfl rfl, hsized⟩

/-- With every database call succeeding, a record is committed. -/
theorem storagePut_success (hhandle : lmdbStorage.txn = none)
    (hsettled : database.Settled) {accepted : UserAccepted}
    (hlen : 0 ≤ accepted.header.value.paxosValueLen.toInt) :
    ∃ next, storagePut lmdbStorage database accepted MdbCodes.success =
        .ok (next, 0) ∧
      next.Settled ∧
      next.entries = applyWrites database.entries [accepted.entry] := by
  obtain ⟨next, hput, hnext, hentries, -⟩ := storagePut_eq hhandle hsettled
    hlen (show MdbCodes.success.txnBegin = 0 from rfl) rfl
  exact ⟨next, hput, hnext, hentries⟩

/-- A negative length either overruns the buffer or exhausts the memory. -/
theorem paxosAcceptedToBuffer_of_neg {accepted : UserAccepted}
    (hlen : accepted.header.value.paxosValueLen.toInt < 0) :
    paxosAcceptedToBuffer accepted = .ok none ∨
      paxosAcceptedToBuffer accepted = .error .memory := by
  by_cases hsmall : sizeOfLen accepted.header.value.paxosValueLen <
      sizeofPaxosAccepted
  · by_cases hmalloc : mallocFails
        (sizeOfLen accepted.header.value.paxosValueLen)
    · exact Or.inl (if_pos hmalloc)
    · right
      rw [paxosAcceptedToBuffer, if_neg hmalloc, if_pos hsmall]
  · left
    apply if_pos
    rw [mallocFails, decide_eq_true_iff]
    exact le_sizeOfLen_of_neg hlen (not_lt.mp hsmall)

/-- After a failed write the transaction is gone, and the commit that follows
asserts that it is not. -/
theorem storagePut_of_write_fails (hhandle : lmdbStorage.txn = none)
    (hsettled : database.Settled) {accepted : UserAccepted}
    {codes : MdbCodes} (hbegin : codes.txnBegin = 0)
    (hwrite : ¬ (0 ≤ accepted.header.value.paxosValueLen.toInt ∧
      codes.access = 0)) :
    ∃ halt, storagePut lmdbStorage database accepted codes = .error halt := by
  have hopen := hsettled.openAt_txnBegin
  have hcommit {result : ℤ} (hresult : result ≠ 0)
      (hput : lmdbStoragePut ⟨some database.begun⟩
        (database.txnBegin true).1 accepted codes.access =
          .ok ((database.txnBegin true).1, result)) :
      storagePut lmdbStorage database accepted codes = .error .assertion := by
    simp only [storagePut, hbegin, lmdbStorageTxBegin_zero hhandle, hput,
      lmdbStorageTxAbort_eq hopen, lmdbStorageTxCommit, bind, Except.bind,
      ne_eq, hresult, not_true_eq_false, not_false_eq_true, if_false, if_true]
  by_cases hlen : 0 ≤ accepted.header.value.paxosValueLen.toInt
  · have hcode : codes.access ≠ 0 := fun hzero => hwrite ⟨hlen, hzero⟩
    have hfailed : (codes.access == 0) = false := by
      simpa using hcode
    refine ⟨.assertion, hcommit hcode ?_⟩
    simp only [lmdbStoragePut, paxosAcceptedToBuffer_eq hlen, hfailed,
      hopen.put_false, live_some, bind, Except.bind, pure, Except.pure]
  · obtain hnull | hoverrun := paxosAcceptedToBuffer_of_neg (not_le.mp hlen)
    · have hresult : (if codes.access = 0 then mdbBadValsize
          else codes.access) ≠ 0 := by
        split
        · decide
        · assumption
      refine ⟨.assertion, hcommit hresult ?_⟩
      simp only [lmdbStoragePut, hnull, bind, Except.bind, pure, Except.pure]
    · refine ⟨.memory, ?_⟩
      simp only [storagePut, hbegin, lmdbStorageTxBegin_zero hhandle,
        lmdbStoragePut, hoverrun, bind, Except.bind, ne_eq, not_true_eq_false,
        if_false]

end Operations

end PaxosPersistence.UserStorage
