import PaxosPersistence.Core.Machine
import PaxosPersistence.Storage.UserStorage

/-!
# Histories of storage operations

A session is the handle of one storage thread together with the database.  Its
calls are arbitrary lookups and stores, with arbitrary codes returned by the
database underneath.  When every code is zero the session implements a map of
records; in general the calls keep to the rules of transactions exactly as long
as two of the failures do not occur.
-/

namespace PaxosPersistence.StorageHistory

open PaxosPersistence.LmdbOperations
open PaxosPersistence.Machine
open PaxosPersistence.Memory
open PaxosPersistence.PaxosTypes
open PaxosPersistence.TransactionalMap
open PaxosPersistence.UserStorage

/-- A call with the codes of its database calls; a lookup also needs the
address that `malloc` returns for the value. -/
inductive StorageCall where
  | put (accepted : UserAccepted) (codes : MdbCodes)
  | get (iid : Word32) (codes : MdbCodes) (pointer : Addr)

inductive StorageEvent where
  | put (accepted : UserAccepted) (ret : ℤ)
  | got (iid : Word32) (out : Option UserAccepted)

structure Session where
  lmdbStorage : LmdbStorage
  database : Database

/-- The empty database and a handle without a transaction. -/
def Session.fresh : Session where
  lmdbStorage := ⟨none⟩
  database := Store.ofEntries fun _ => none

/-- The handle is passed by value. -/
def storageCall : Step Session StorageCall StorageEvent Halt
  | session, .put accepted codes => do
      let (database, ret) ←
        storagePut session.lmdbStorage session.database accepted codes
      return ({ session with database }, [.put accepted ret])
  | session, .get iid codes pointer => do
      let (database, out) ←
        storageGet session.lmdbStorage session.database iid codes pointer
      return ({ session with database }, [.got iid out])

/-! ## Between two calls -/

/-- No transaction is open anywhere, and the database represents some map. -/
structure Idle (session : Session) (records : Word32 → Option UserAccepted) :
    Prop where
  txn_eq : session.lmdbStorage.txn = none
  settled : session.database.Settled
  represents : Represents session.database.entries records

theorem idle_fresh : Idle Session.fresh fun _ => none :=
  ⟨rfl, Store.settled_ofEntries _, represents_empty⟩

/-- The records put by the calls, oldest first. -/
def putsOf (calls : List StorageCall) : List UserAccepted :=
  calls.filterMap fun
    | .put accepted _ => some accepted
    | .get .. => none

/-- The last record put under a number. -/
def lastPut (calls : List StorageCall) (iid : Word32) : Option UserAccepted :=
  (putsOf calls).reverse.find? fun accepted => accepted.header.iid = iid

/-- A call with a record that is well formed and codes that are all zero. -/
def StorageCall.Succeeds : StorageCall → Prop
  | .put accepted codes =>
      0 ≤ accepted.header.value.paxosValueLen.toInt ∧ codes = MdbCodes.success
  | .get _ codes _ => codes = MdbCodes.success

/-- The records behind the database after the calls. -/
def recordsAfter (records : Word32 → Option UserAccepted)
    (calls : List StorageCall) : Word32 → Option UserAccepted :=
  applyWrites records
    ((putsOf calls).map fun accepted => (accepted.header.iid, accepted))

theorem recordsAfter_cons (records : Word32 → Option UserAccepted)
    (call : StorageCall) (calls : List StorageCall) :
    recordsAfter records (call :: calls) =
      recordsAfter (recordsAfter records [call]) calls := by
  cases call with
  | put accepted codes => rfl
  | get iid codes pointer => rfl

theorem recordsAfter_empty (calls : List StorageCall) :
    recordsAfter (fun _ => none) calls = lastPut calls :=
  applyWrites_map_eq_find?
    (fun accepted : UserAccepted => accepted.header.iid) (putsOf calls)

/-! ## The session as a map -/

/-- A successful call does to the records what its name says. -/
theorem storageCall_idle {session : Session}
    {records : Word32 → Option UserAccepted} (hidle : Idle session records)
    {call : StorageCall} (hcall : call.Succeeds) :
    ∃ next events, storageCall session call = .ok (next, events) ∧
      Idle next (recordsAfter records [call]) := by
  cases call with
  | put accepted codes =>
      obtain ⟨hlen, rfl⟩ := hcall
      obtain ⟨database, hput, hsettled, hentries⟩ :=
        storagePut_success hidle.txn_eq hidle.settled hlen
      refine ⟨{ session with database }, [.put accepted 0], ?_,
        hidle.txn_eq, hsettled, ?_⟩
      · simp only [storageCall, hput, bind, Except.bind, pure, Except.pure]
      · change Represents database.entries _
        rw [hentries]
        exact hidle.represents.put accepted
  | get iid codes pointer =>
      cases hcall
      obtain ⟨database, hget, hsettled, hentries⟩ :=
        storageGet_success hidle.txn_eq hidle.settled hidle.represents iid
          pointer
      refine ⟨{ session with database },
        [.got iid ((records iid).map (UserAccepted.relocate · pointer))], ?_,
        hidle.txn_eq, hsettled, ?_⟩
      · simp only [storageCall, hget, bind, Except.bind, pure, Except.pure]
      · change Represents database.entries _
        rw [hentries]
        exact hidle.represents

/-- So does a whole sequence of successful calls. -/
theorem run_storageCall_idle {session : Session}
    {records : Word32 → Option UserAccepted} (hidle : Idle session records)
    {calls : List StorageCall} (hcalls : ∀ call ∈ calls, call.Succeeds) :
    ∃ last events, run storageCall session calls = .ok (last, events) ∧
      Idle last (recordsAfter records calls) := by
  induction calls generalizing session records with
  | nil => exact ⟨session, [], rfl, hidle⟩
  | cons call calls ih =>
      obtain ⟨next, first, hcall, hnext⟩ :=
        storageCall_idle hidle (hcalls call List.mem_cons_self)
      obtain ⟨last, later, hrest, hlast⟩ := ih hnext fun other hother =>
        hcalls other (List.mem_cons_of_mem call hother)
      refine ⟨last, first ++ later,
        run_cons_eq_ok.mpr ⟨next, first, later, hcall, hrest, rfl⟩, ?_⟩
      rw [recordsAfter_cons]
      exact hlast

/-- The record returned for one that was put: equal in every field, in the
length and in the value, which is reached through a new pointer. -/
structure Returns (pointer : Addr) (put out : UserAccepted) : Prop where
  aid_eq : out.header.aid = put.header.aid
  iid_eq : out.header.iid = put.header.iid
  promiseIid_eq : out.header.promiseIid = put.header.promiseIid
  ballot_eq : out.header.ballot = put.header.ballot
  valueBallot_eq : out.header.valueBallot = put.header.valueBallot
  len_eq : out.header.value.paxosValueLen = put.header.value.paxosValueLen
  value_eq : out.value = put.value
  pointer_eq : out.header.value.paxosValueVal =
    if 0 < put.header.value.paxosValueLen.toInt then pointer else 0

theorem returns_relocate (pointer : Addr) (accepted : UserAccepted) :
    Returns pointer accepted (accepted.relocate pointer) :=
  ⟨rfl, rfl, rfl, rfl, rfl, rfl, rfl, rfl⟩

/-- After any sequence of successful calls on the empty database, a lookup
returns the last record put under its number, and nothing when there is none;
no transaction is left open, and no assertion fails. -/
theorem storageGet_returns_lastPut {calls : List StorageCall}
    (hcalls : ∀ call ∈ calls, call.Succeeds) :
    ∃ session events,
      run storageCall Session.fresh calls = .ok (session, events) ∧
      session.lmdbStorage.txn = none ∧ session.database.Settled ∧
      ∀ iid pointer, ∃ next out,
        storageGet session.lmdbStorage session.database iid MdbCodes.success
          pointer = .ok (next, out) ∧
        Option.Rel (Returns pointer) (lastPut calls iid) out := by
  obtain ⟨session, events, hrun, hidle⟩ :=
    run_storageCall_idle idle_fresh hcalls
  rw [recordsAfter_empty] at hidle
  refine ⟨session, events, hrun, hidle.txn_eq, hidle.settled, ?_⟩
  intro iid pointer
  obtain ⟨next, hget, -, -⟩ :=
    storageGet_success hidle.txn_eq hidle.settled hidle.represents iid pointer
  refine ⟨next, _, hget, ?_⟩
  cases lastPut calls iid with
  | none => exact Option.Rel.none
  | some accepted => exact Option.Rel.some (returns_relocate pointer accepted)

/-- A record of two value bytes under number 7, put over a longer one, and a
lookup in between. -/
def sampleCalls : List StorageCall :=
  [.put ⟨⟨1, 7, 2, 3, 4, 0, ⟨3, 0, 0⟩⟩, [1, 2, 3], rfl⟩ MdbCodes.success,
    .get 7 MdbCodes.success 4096,
    .put ⟨⟨1, 7, 2, 3, 4, 0, ⟨2, 0, 0⟩⟩, [4, 5], rfl⟩ MdbCodes.success]

theorem storageGet_returns_lastPut_sample :
    (∀ call ∈ sampleCalls, call.Succeeds) ∧
      ∃ session events,
        run storageCall Session.fresh sampleCalls = .ok (session, events) ∧
        session.lmdbStorage.txn = none ∧ session.database.Settled ∧
        ∀ iid pointer, ∃ next out,
          storageGet session.lmdbStorage session.database iid MdbCodes.success
            pointer = .ok (next, out) ∧
          Option.Rel (Returns pointer) (lastPut sampleCalls iid) out := by
  have hcalls : ∀ call ∈ sampleCalls, call.Succeeds := by
    simp [sampleCalls, StorageCall.Succeeds]
  exact ⟨hcalls, storageGet_returns_lastPut hcalls⟩

/-! ## The rules of transactions -/

/-- The transaction of the call has been committed with exactly this record. -/
def Committed (before after : Database) (accepted : UserAccepted) : Prop :=
  after.entries = applyWrites before.entries [accepted.entry] ∧
    ∃ txn, after.closed = before.closed ++ [(txn, [accepted.entry])]

/-- A store reports success exactly when its record was committed, and leaves
the database alone when it reports failure. -/
def Truthful (before after : Database) : StorageEvent → Prop
  | .put accepted ret =>
      (ret = 0 ↔ Committed before after accepted) ∧
        (ret ≠ 0 → after.entries = before.entries)
  | .got .. => True

/-- The codes of the database calls. -/
def StorageCall.codes : StorageCall → MdbCodes
  | .put _ codes => codes
  | .get _ codes _ => codes

/-- Whether the call goes on to `mdb_put` or `mdb_get` after this result of
`lmdb_storage_tx_begin`. -/
def StorageCall.GoesOn : StorageCall → ℤ → Prop
  | .put .., result => result = 0
  | .get .., _ => True

/-- If `mdb_put` or `mdb_get` is called, it is called on a live transaction. -/
def AccessLive (session : Session) (call : StorageCall) : Prop :=
  ∀ s database result, lmdbStorageTxBegin session.lmdbStorage session.database
      call.codes.txnBegin = .ok (s, database, result) → call.GoesOn result →
    ∃ txn writes, s.txn = some txn ∧ database.pending txn = some writes

/-- The call returns, with the transactions begun so far all ended once and
nothing done without one; a dead transaction is never committed, since that
would halt. -/
structure CallDisciplined (session : Session) (call : StorageCall)
    (next : Session) (event : StorageEvent) : Prop where
  returns : storageCall session call = .ok (next, [event])
  accessLive : AccessLive session call
  txn_eq : next.lmdbStorage.txn = none
  settled : next.database.Settled
  truthful : Truthful session.database next.database event

/-- Every call of the sequence is reached and keeps to the rules. -/
def Disciplined (start : Session) (calls : List StorageCall) : Prop :=
  ∀ before call after, calls = before ++ call :: after →
    ∃ session events next event,
      run storageCall start before = .ok (session, events) ∧
      CallDisciplined session call next event

/-- A transaction that was begun finds its write succeed, and a lookup finds
its transaction begun. -/
def StorageCall.Clean : StorageCall → Prop
  | .put accepted codes => codes.txnBegin = 0 →
      0 ≤ accepted.header.value.paxosValueLen.toInt ∧ codes.access = 0
  | .get _ codes _ => codes.txnBegin = 0

theorem not_committed_of_closed_eq {before after : Database}
    {accepted : UserAccepted} (hclosed : after.closed = before.closed) :
    ¬ Committed before after accepted := by
  rintro ⟨-, txn, hcommitted⟩
  have hlength := congrArg List.length (hclosed.symm.trans hcommitted)
  simp at hlength

theorem not_committed_of_dropped {before after : Database}
    {accepted : UserAccepted} {txn : ℕ}
    (hclosed : after.closed = before.closed ++ [(txn, [])]) :
    ¬ Committed before after accepted := by
  rintro ⟨-, other, hcommitted⟩
  have htails := List.append_cancel_left (hclosed.symm.trans hcommitted)
  simp at htails

/-- A call that has begun its transaction works in that transaction. -/
theorem accessLive_of_begin {session : Session}
    {records : Word32 → Option UserAccepted} (hidle : Idle session records)
    {call : StorageCall} (hbegin : call.codes.txnBegin = 0) :
    AccessLive session call := by
  intro s database result hbegun _
  rw [hbegin, lmdbStorageTxBegin_zero hidle.txn_eq] at hbegun
  cases hbegun
  exact ⟨_, [], rfl, hidle.settled.openAt_txnBegin.pending_self⟩

/-- A store that could not begin one does not go on. -/
theorem accessLive_put_of_begin_ne_zero {session : Session}
    {records : Word32 → Option UserAccepted} (hidle : Idle session records)
    {codes : MdbCodes} (hbegin : codes.txnBegin ≠ 0)
    (accepted : UserAccepted) : AccessLive session (.put accepted codes) := by
  intro s database result hbegun hgoes
  change lmdbStorageTxBegin _ _ codes.txnBegin = _ at hbegun
  rw [lmdbStorageTxBegin_ne_zero hidle.txn_eq hbegin] at hbegun
  cases hbegun
  exact absurd hgoes hbegin

/-- A lookup that could not goes on without. -/
theorem not_accessLive_get_of_begin_ne_zero {session : Session}
    {records : Word32 → Option UserAccepted} (hidle : Idle session records)
    {codes : MdbCodes} (hbegin : codes.txnBegin ≠ 0) (iid : Word32)
    (pointer : Addr) : ¬ AccessLive session (.get iid codes pointer) := by
  intro hlive
  obtain ⟨txn, writes, htxn, -⟩ := hlive _ _ _
    (lmdbStorageTxBegin_ne_zero hidle.txn_eq hbegin) trivial
  cases htxn

/-- A store whose write does not fail after its begin is truthful. -/
theorem put_disciplined {session : Session}
    {records : Word32 → Option UserAccepted} (hidle : Idle session records)
    {accepted : UserAccepted} {codes : MdbCodes}
    (hclean : (StorageCall.put accepted codes).Clean) :
    ∃ next event, CallDisciplined session (.put accepted codes) next event ∧
      ∃ later, Idle next later := by
  by_cases hbegin : codes.txnBegin = 0
  · obtain ⟨hlen, haccess⟩ := hclean hbegin
    obtain ⟨database, hput, hsettled, hentries, hclosed⟩ :=
      storagePut_eq hidle.txn_eq hidle.settled hlen hbegin haccess
    refine ⟨{ session with database },
      .put accepted (if codes.txnCommit = 0 then 0 else 1), ?_, ?_⟩
    · refine ⟨?_, accessLive_of_begin hidle hbegin, hidle.txn_eq, hsettled, ?_⟩
      · simp only [storageCall, hput, bind, Except.bind, pure, Except.pure]
      · by_cases hcommit : codes.txnCommit = 0
        · rw [if_pos hcommit] at hentries hclosed ⊢
          exact ⟨⟨fun _ => ⟨hentries, _, hclosed⟩, fun _ => rfl⟩,
            fun hfailed => absurd rfl hfailed⟩
        · rw [if_neg hcommit] at hentries hclosed ⊢
          exact ⟨⟨fun hfailed => absurd hfailed one_ne_zero,
            fun hcommitted => absurd hcommitted
              (not_committed_of_dropped hclosed)⟩, fun _ => hentries⟩
    · by_cases hcommit : codes.txnCommit = 0
      · rw [if_pos hcommit] at hentries
        exact ⟨_, hidle.txn_eq, hsettled, by
          change Represents database.entries _
          rw [hentries]
          exact hidle.represents.put accepted⟩
      · rw [if_neg hcommit] at hentries
        exact ⟨records, hidle.txn_eq, hsettled, by
          change Represents database.entries _
          rw [hentries]
          exact hidle.represents⟩
  · refine ⟨session, .put accepted 1, ?_, records, hidle⟩
    refine ⟨?_, accessLive_put_of_begin_ne_zero hidle hbegin accepted,
      hidle.txn_eq, hidle.settled, ?_⟩
    · simp only [storageCall, storagePut_of_begin_ne_zero hidle.txn_eq hbegin,
        bind, Except.bind, pure, Except.pure]
    · exact ⟨⟨fun hfailed => absurd hfailed one_ne_zero,
        fun hcommitted => absurd hcommitted
          (not_committed_of_closed_eq rfl)⟩, fun _ => rfl⟩

theorem get_disciplined {session : Session}
    {records : Word32 → Option UserAccepted} (hidle : Idle session records)
    {codes : MdbCodes} (hbegin : codes.txnBegin = 0) (iid : Word32)
    (pointer : Addr) :
    ∃ next event, CallDisciplined session (.get iid codes pointer) next event ∧
      ∃ later, Idle next later := by
  obtain ⟨database, hget, hsettled, hentries⟩ :=
    storageGet_eq hidle.txn_eq hidle.settled hidle.represents iid hbegin pointer
  refine ⟨{ session with database },
    .got iid ((if codes.access = 0 then records iid else none).map
      (UserAccepted.relocate · pointer)),
    ⟨?_, accessLive_of_begin hidle hbegin, hidle.txn_eq, hsettled, trivial⟩,
    records, hidle.txn_eq, hsettled, ?_⟩
  · simp only [storageCall, hget, bind, Except.bind, pure, Except.pure]
  · change Represents database.entries records
    rw [hentries]
    exact hidle.represents

theorem call_disciplined {session : Session}
    {records : Word32 → Option UserAccepted} (hidle : Idle session records)
    {call : StorageCall} (hclean : call.Clean) :
    ∃ next event, CallDisciplined session call next event ∧
      ∃ later, Idle next later := by
  cases call with
  | put accepted codes => exact put_disciplined hidle hclean
  | get iid codes pointer => exact get_disciplined hidle hclean iid pointer

/-- A store that fails to write in its transaction does not return. -/
theorem storageCall_put_of_not_clean {session : Session}
    {records : Word32 → Option UserAccepted} (hidle : Idle session records)
    {accepted : UserAccepted} {codes : MdbCodes}
    (hclean : ¬ (StorageCall.put accepted codes).Clean) :
    ∃ halt, storageCall session (.put accepted codes) = .error halt := by
  obtain ⟨hbegin, hwrite⟩ := Classical.not_imp.mp hclean
  obtain ⟨halt, hput⟩ := storagePut_of_write_fails hidle.txn_eq
    hidle.settled hbegin hwrite
  exact ⟨halt, by simp only [storageCall, hput, bind, Except.bind]⟩

/-- A lookup without a transaction changes nothing. -/
theorem storageCall_get_of_not_clean {session : Session}
    {records : Word32 → Option UserAccepted} (hidle : Idle session records)
    {iid : Word32} {codes : MdbCodes} {pointer : Addr}
    (hclean : ¬ (StorageCall.get iid codes pointer).Clean) :
    storageCall session (.get iid codes pointer) =
      .ok (session, [.got iid none]) := by
  have hget := storageGet_of_begin_ne_zero hidle.txn_eq session.database
    hclean iid pointer
  simp only [storageCall, hget, bind, Except.bind, pure, Except.pure]

/-- A call that is not clean breaks the rules. -/
theorem not_disciplined_of_not_clean {session : Session}
    {records : Word32 → Option UserAccepted} (hidle : Idle session records)
    {call : StorageCall} (hclean : ¬ call.Clean) (next : Session)
    (event : StorageEvent) : ¬ CallDisciplined session call next event := by
  intro hdisciplined
  cases call with
  | put accepted codes =>
      obtain ⟨halt, hhalt⟩ := storageCall_put_of_not_clean hidle hclean
      cases hhalt.symm.trans hdisciplined.returns
  | get iid codes pointer =>
      exact not_accessLive_get_of_begin_ne_zero hidle hclean iid pointer
        hdisciplined.accessLive

/-- A call that returned leaves the session idle. -/
theorem idle_of_storageCall_eq_ok (session : Session) (call : StorageCall)
    (next : Session) (events : List StorageEvent)
    (hidle : ∃ records, Idle session records)
    (hcall : storageCall session call = .ok (next, events)) :
    ∃ records, Idle next records := by
  obtain ⟨records, hidle⟩ := hidle
  by_cases hclean : call.Clean
  · obtain ⟨other, event, hdisciplined, hother⟩ :=
      call_disciplined hidle hclean
    obtain ⟨rfl, -⟩ := Prod.mk.inj
      (Except.ok.inj (hcall.symm.trans hdisciplined.returns))
    exact hother
  · cases call with
    | put accepted codes =>
        obtain ⟨halt, hhalt⟩ := storageCall_put_of_not_clean hidle hclean
        cases hhalt.symm.trans hcall
    | get iid codes pointer =>
        cases (storageCall_get_of_not_clean hidle hclean).symm.trans hcall
        exact ⟨records, hidle⟩

/-- Clean calls run to their end. -/
theorem run_of_clean {session : Session} {calls : List StorageCall}
    (hidle : ∃ records, Idle session records)
    (hclean : ∀ call ∈ calls, call.Clean) :
    ∃ last events, run storageCall session calls = .ok (last, events) ∧
      ∃ records, Idle last records := by
  refine run_of_state_invariant (fun session => ∃ records, Idle session records)
    StorageCall.Clean ?_ hidle hclean
  intro session call hidle hcall
  obtain ⟨records, hidle⟩ := hidle
  obtain ⟨next, event, hdisciplined, hnext⟩ := call_disciplined hidle hcall
  exact ⟨next, [event], hdisciplined.returns, hnext⟩

/-- A sequence of calls keeps to the rules of transactions exactly when none
of its stores fails to write in the transaction it began and none of its
lookups fails to begin one. -/
theorem disciplined_iff_clean {start : Session}
    {records : Word32 → Option UserAccepted} (hstart : Idle start records)
    (calls : List StorageCall) :
    Disciplined start calls ↔ ∀ call ∈ calls, call.Clean := by
  constructor
  · intro hdisciplined call hcall
    obtain ⟨before, after, hsplit⟩ := List.append_of_mem hcall
    obtain ⟨session, events, next, event, hrun, hnext⟩ :=
      hdisciplined before call after hsplit
    obtain ⟨later, hidle⟩ := state_invariant_of_run_eq_ok
      (fun session => ∃ records, Idle session records)
      idle_of_storageCall_eq_ok ⟨records, hstart⟩ hrun
    by_contra hclean
    exact not_disciplined_of_not_clean hidle hclean next event hnext
  · rintro hclean before call after rfl
    obtain ⟨session, events, hrun, later, hidle⟩ := run_of_clean
      ⟨records, hstart⟩ fun other hother =>
        hclean other (List.mem_append_left _ hother)
    obtain ⟨next, event, hdisciplined, -⟩ := call_disciplined hidle
      (hclean call (by simp))
    exact ⟨session, events, next, event, hrun, hdisciplined⟩

/-- An empty record. -/
def emptyAccepted : UserAccepted :=
  ⟨⟨1, 7, 2, 3, 4, 0, ⟨0, 0, 0⟩⟩, [], UserAccepted.length_nil⟩

/-- A store whose transaction cannot be begun, one whose commit fails, and a
lookup that fails keep to the rules. -/
def cleanCalls : List StorageCall :=
  [.put emptyAccepted ⟨12, 0, 0⟩, .put emptyAccepted ⟨0, 0, 5⟩,
    .get 7 ⟨0, 5, 0⟩ 4096]

theorem disciplined_cleanCalls : Disciplined Session.fresh cleanCalls := by
  apply (disciplined_iff_clean idle_fresh cleanCalls).mpr
  simp [cleanCalls, StorageCall.Clean, emptyAccepted]

/-- `MDB_MAP_FULL` -/
def mdbMapFull : ℤ := -30792

/-- When the map is full, the store aborts its transaction and then fails the
assertion of the commit. -/
theorem put_mapFull_not_disciplined :
    storageCall Session.fresh (.put emptyAccepted ⟨0, mdbMapFull, 0⟩) =
        .error .assertion ∧
      ¬ Disciplined Session.fresh
        [.put emptyAccepted ⟨0, mdbMapFull, 0⟩] := by
  have hcall : storageCall Session.fresh
      (.put emptyAccepted ⟨0, mdbMapFull, 0⟩) = .error .assertion := by
    rfl
  refine ⟨hcall, ?_⟩
  intro hdisciplined
  obtain ⟨session, events, next, event, hrun, hnext⟩ :=
    hdisciplined [] (.put emptyAccepted ⟨0, mdbMapFull, 0⟩) [] rfl
  obtain ⟨rfl, -⟩ := Prod.mk.inj (Except.ok.inj hrun)
  exact nomatch hcall.symm.trans hnext.returns

end PaxosPersistence.StorageHistory
