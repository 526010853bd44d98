import PaxosPersistence.Core.ResourceLedger
import PaxosPersistence.Kernel.PaxosTypes

/-!
# Opening and closing the storage

`lmdb_storage_open` makes the directory of the database, creates and opens an
environment, and opens the database in a first transaction.  One label cleans
up after every step of this, guarded by the local pointers.  A commit ends its
transaction whatever it returns, and the pointer to it stays: when nothing but
the commit fails, the label aborts a transaction that is gone.
-/

namespace PaxosPersistence.StorageOpening

open PaxosPersistence.ByteBlock
open PaxosPersistence.PaxosTypes
open PaxosPersistence.ResourceLedger

/-! ## Handles -/

/-- A pointer of the database library: to the object of this opening, or an
address that the library has not returned. -/
inductive MdbPointer where
  | null
  | opened
  | wild (address : Addr)
  deriving DecidableEq

/-- `struct lmdb_storage` -/
structure LmdbHandle where
  env : MdbPointer
  txn : MdbPointer
  dbi : Word32
  acceptorId : Word32
  deriving DecidableEq

/-- A handle of zeros but for the number of its acceptor. -/
def LmdbHandle.zeroed (acceptorId : Word32) : LmdbHandle :=
  ⟨.null, .null, 0, acceptorId⟩

/-- What `lmdb_storage_open` acquires. -/
inductive OpenResource where
  | path
  | env
  | txn
  deriving DecidableEq

/-- A call on something that is not there, and what it was called on. -/
inductive BadCall where
  | txnAbort (txn : MdbPointer)
  | dbiClose (env : MdbPointer) (dbi : Word32)
  | envClose (env : MdbPointer)
  | ended (resource : OpenResource)
  deriving DecidableEq

/-- The result of a call that must find its object. -/
def orBad {A : Type} (result : Option A) (call : BadCall) :
    Except BadCall A :=
  match result with
  | some value => .ok value
  | none => .error call

abbrev OpenLedger := Ledger OpenResource

/-- A call that needs an object. -/
def needs (ledger : OpenLedger) (resource : OpenResource) :
    Except BadCall Unit :=
  orBad (ledger.use resource) (.ended resource)

def mdbTxnAbort (ledger : OpenLedger) : MdbPointer → Except BadCall OpenLedger
  | .opened => orBad (ledger.release .txn) (.txnAbort .opened)
  | txn => .error (.txnAbort txn)

def mdbClose (ledger : OpenLedger) (env : MdbPointer) (dbi : Word32) :
    Except BadCall Unit :=
  if env = .opened then orBad (ledger.use .env) (.dbiClose env dbi)
  else .error (.dbiClose env dbi)

def mdbEnvClose (ledger : OpenLedger) : MdbPointer → Except BadCall OpenLedger
  | .opened => orBad (ledger.release .env) (.envClose .opened)
  | env => .error (.envClose env)

/-- End what is not zero: a transaction, a database, an environment. -/
def closeHandles (ledger : OpenLedger) (env txn : MdbPointer) (dbi : Word32) :
    Except BadCall OpenLedger := do
  let ledger ← if txn ≠ .null then mdbTxnAbort ledger txn else .ok ledger
  if dbi ≠ 0 then mdbClose ledger env dbi else .ok ()
  if env ≠ .null then mdbEnvClose ledger env else .ok ledger

def lmdbStorageClose (s : LmdbHandle) (ledger : OpenLedger) :
    Except BadCall OpenLedger :=
  closeHandles ledger s.env s.txn s.dbi

/-! ## Opening -/

/-- What the calls of `lmdb_storage_init` return; `dbi` is what `mdb_open`
stores. -/
structure InitOutcomes where
  dirExists : Bool
  mkdir : ℤ
  envCreate : ℤ
  setMapsize : ℤ
  envOpen : ℤ
  txnBegin : ℤ
  dbiOpen : ℤ
  dbi : Word32
  setCompare : ℤ
  txnCommit : ℤ

/-- And those of `lmdb_storage_open`. -/
structure OpenOutcomes where
  dirExists : Bool
  mkdir : ℤ
  init : InitOutcomes

/-- The label `error` of `lmdb_storage_init`. -/
def initError (s : LmdbHandle) (ledger : OpenLedger) (env txn : MdbPointer)
    (dbi : Word32) : Except BadCall (OpenLedger × LmdbHandle × ℤ) := do
  let ledger ← closeHandles ledger env txn dbi
  return (ledger, s, -1)

def lmdbStorageInit (s : LmdbHandle) (ledger : OpenLedger)
    (outcomes : InitOutcomes) :
    Except BadCall (OpenLedger × LmdbHandle × ℤ) :=
  if outcomes.dirExists = false ∧ outcomes.mkdir ≠ 0 then
    initError s ledger .null .null 0
  else if outcomes.envCreate ≠ 0 then
    initError s ledger .null .null 0
  else do
    let ledger ← orBad (ledger.acquire .env) (.ended .env)
    needs ledger .env
    if outcomes.setMapsize ≠ 0 then
      initError s ledger .opened .null 0
    else do
      needs ledger .env
      if outcomes.envOpen ≠ 0 then
        initError s ledger .opened .null 0
      else do
        needs ledger .env
        if outcomes.txnBegin ≠ 0 then
          initError s ledger .opened .null 0
        else do
          let ledger ← orBad (ledger.acquire .txn) (.ended .txn)
          needs ledger .txn
          if outcomes.dbiOpen ≠ 0 then
            initError s ledger .opened .opened 0
          else do
            needs ledger .txn
            if outcomes.setCompare ≠ 0 then
              initError s ledger .opened .opened outcomes.dbi
            else do
              -- the transaction ends here, the pointer to it does not
              let ledger ← orBad (ledger.release .txn) (.ended .txn)
              if outcomes.txnCommit ≠ 0 then
                initError s ledger .opened .opened outcomes.dbi
              else
                return (ledger,
                  { s with env := .opened, dbi := outcomes.dbi }, 0)

/-- The label `cleanup_exit`. -/
def cleanupExit (s : LmdbHandle) (ledger : OpenLedger) (result : ℤ) :
    Except BadCall (OpenLedger × LmdbHandle × ℤ) := do
  let ledger ← orBad (ledger.release .path) (.ended .path)
  return (ledger, s, result)

/-- The label `error` of `lmdb_storage_open`. -/
def openError (s : LmdbHandle) (ledger : OpenLedger) (result : ℤ) :
    Except BadCall (OpenLedger × LmdbHandle × ℤ) := do
  let ledger ← lmdbStorageClose s ledger
  cleanupExit s ledger result

/-- `result` is not what `lmdb_storage_init` returns but whether that is
nonzero. -/
def lmdbStorageOpen (s : LmdbHandle) (outcomes : OpenOutcomes) :
    Except BadCall (OpenLedger × LmdbHandle × ℤ) := do
  let ledger ← orBad ((Ledger.empty OpenResource).acquire .path)
    (.ended .path)
  if outcomes.dirExists = false ∧ outcomes.mkdir ≠ 0 then
    openError s ledger (-1)
  else do
    let (ledger, s, failed) ← lmdbStorageInit s ledger outcomes.init
    if failed ≠ 0 then
      openError s ledger 1
    else
      cleanupExit s ledger 0

/-! ## Unwinding -/

/-- Every step before the commit succeeds. -/
structure InitOutcomes.Commits (outcomes : InitOutcomes) : Prop where
  directory : outcomes.dirExists = true ∨ outcomes.mkdir = 0
  envCreate : outcomes.envCreate = 0
  setMapsize : outcomes.setMapsize = 0
  envOpen : outcomes.envOpen = 0
  txnBegin : outcomes.txnBegin = 0
  dbiOpen : outcomes.dbiOpen = 0
  setCompare : outcomes.setCompare = 0

structure OpenOutcomes.Commits (outcomes : OpenOutcomes) : Prop where
  directory : outcomes.dirExists = true ∨ outcomes.mkdir = 0
  init : outcomes.init.Commits

/-- Every needed step succeeds. -/
structure OpenOutcomes.Succeed (outcomes : OpenOutcomes) : Prop where
  commits : outcomes.Commits
  txnCommit : outcomes.init.txnCommit = 0

/-- The handle holds the opened environment and database, or everything
acquired was ended once and the handle is as it was. -/
def OpensCleanly (acceptorId : Word32) (outcomes : OpenOutcomes) : Prop :=
  ∃ ledger s result,
    lmdbStorageOpen (.zeroed acceptorId) outcomes = .ok (ledger, s, result) ∧
    (result = 0 ↔ outcomes.Succeed) ∧
    (outcomes.Succeed →
      s = ⟨.opened, .null, outcomes.init.dbi, acceptorId⟩ ∧
        ledger.Holds .env ∧ ¬ ledger.Holds .txn ∧ ¬ ledger.Holds .path) ∧
    (¬ outcomes.Succeed → s = .zeroed acceptorId ∧ ledger.Balanced)

/-- Everything goes well until the disk is full. -/
def commitFails : OpenOutcomes where
  dirExists := true
  mkdir := 0
  init := ⟨true, 0, 0, 0, 0, 0, 0, 1, 0, 28⟩

theorem not_opensCleanly_commitFails : ¬ OpensCleanly 0 commitFails := by
  rintro ⟨ledger, s, result, hopen, -⟩
  have hbad : lmdbStorageOpen (.zeroed 0) commitFails =
      .error (.txnAbort .opened) := rfl
  rw [hbad] at hopen
  cases hopen

/-! ## The label that cleans up -/

/-- The ledger while only the path is held. -/
def opening : OpenLedger :=
  (Ledger.empty OpenResource).enter .path List.not_mem_nil

def withEnv : OpenLedger :=
  opening.enter .env (by decide)

def withTxn : OpenLedger :=
  withEnv.enter .txn (by decide)

/-- The transaction has been committed. -/
def committed : OpenLedger :=
  withTxn.strike .txn (by decide)

/-- Of all that was acquired the path is left. -/
structure OnlyPath (ledger : OpenLedger) : Prop where
  path_held : ledger.Holds .path
  env_ended : ¬ ledger.Holds .env
  txn_ended : ¬ ledger.Holds .txn

instance decidableOnlyPath (ledger : OpenLedger) :
    Decidable (OnlyPath ledger) :=
  decidable_of_iff (ledger.Holds .path ∧ ¬ ledger.Holds .env ∧
    ¬ ledger.Holds .txn)
    ⟨fun ⟨hpath, henv, htxn⟩ => ⟨hpath, henv, htxn⟩,
      fun honly => ⟨honly.path_held, honly.env_ended, honly.txn_ended⟩⟩

theorem onlyPath_opening : OnlyPath opening := by decide

variable {outcomes : InitOutcomes}

theorem initError_opening (s : LmdbHandle) :
    initError s opening .null .null 0 = .ok (opening, s, -1) := rfl

theorem initError_withEnv (s : LmdbHandle) :
    ∃ ledger, initError s withEnv .opened .null 0 = .ok (ledger, s, -1) ∧
      OnlyPath ledger :=
  ⟨withEnv.strike .env (by decide), rfl, by decide⟩

/-- Whether or not the database has been opened. -/
theorem initError_withTxn (s : LmdbHandle) (dbi : Word32) :
    ∃ ledger, initError s withTxn .opened .opened dbi =
        .ok (ledger, s, -1) ∧ OnlyPath ledger := by
  refine ⟨committed.strike .env (by decide), ?_, by decide⟩
  by_cases hdbi : dbi ≠ 0
  · simp only [initError, closeHandles, if_pos hdbi]
    rfl
  · simp only [initError, closeHandles, if_neg hdbi]
    rfl

/-- The transaction is gone, and its pointer says otherwise. -/
theorem initError_committed (s : LmdbHandle) (dbi : Word32) :
    initError s committed .opened .opened dbi =
      .error (.txnAbort .opened) := rfl

/-! ## The steps of `lmdb_storage_init` -/

/-- The directory is there, or could be made. -/
theorem directory_iff {dirExists : Bool} {mkdir : ℤ} :
    ¬ (dirExists = false ∧ mkdir ≠ 0) ↔ dirExists = true ∨ mkdir = 0 := by
  rw [not_and_or, Bool.not_eq_false, not_not]

/-- A failure before the commit is cleaned up. -/
theorem lmdbStorageInit_unwinds (s : LmdbHandle)
    (hfails : ¬ outcomes.Commits) :
    ∃ ledger, lmdbStorageInit s opening outcomes = .ok (ledger, s, -1) ∧
      OnlyPath ledger := by
  by_cases hdirectory : outcomes.dirExists = false ∧ outcomes.mkdir ≠ 0
  · refine ⟨opening, ?_, onlyPath_opening⟩
    rw [lmdbStorageInit, if_pos hdirectory, initError_opening]
  by_cases henvCreate : outcomes.envCreate ≠ 0
  · refine ⟨opening, ?_, onlyPath_opening⟩
    rw [lmdbStorageInit, if_neg hdirectory, if_pos henvCreate,
      initError_opening]
  by_cases hsetMapsize : outcomes.setMapsize ≠ 0
  · simp only [lmdbStorageInit, if_neg hdirectory, if_neg henvCreate,
      if_pos hsetMapsize]
    exact initError_withEnv s
  by_cases henvOpen : outcomes.envOpen ≠ 0
  · simp only [lmdbStorageInit, if_neg hdirectory, if_neg henvCreate,
      if_neg hsetMapsize, if_pos henvOpen]
    exact initError_withEnv s
  by_cases htxnBegin : outcomes.txnBegin ≠ 0
  · simp only [lmdbStorageInit, if_neg hdirectory, if_neg henvCreate,
      if_neg hsetMapsize, if_neg henvOpen, if_pos htxnBegin]
    exact initError_withEnv s
  by_cases hdbiOpen : outcomes.dbiOpen ≠ 0
  · simp only [lmdbStorageInit, if_neg hdirectory, if_neg henvCreate,
      if_neg hsetMapsize, if_neg henvOpen, if_neg htxnBegin, if_pos hdbiOpen]
    exact initError_withTxn s 0
  by_cases hsetCompare : outcomes.setCompare ≠ 0
  · simp only [lmdbStorageInit, if_neg hdirectory, if_neg henvCreate,
      if_neg hsetMapsize, if_neg henvOpen, if_neg htxnBegin, if_neg hdbiOpen,
      if_pos hsetCompare]
    exact initError_withTxn s outcomes.dbi
  · refine absurd ?_ hfails
    exact
      { directory := directory_iff.mp hdirectory
        envCreate := not_not.mp henvCreate
        setMapsize := not_not.mp hsetMapsize
        envOpen := not_not.mp henvOpen
        txnBegin := not_not.mp htxnBegin
        dbiOpen := not_not.mp hdbiOpen
        setCompare := not_not.mp hsetCompare }

/-- With every step before it the commit decides. -/
theorem lmdbStorageInit_of_commits (s : LmdbHandle)
    (hcommits : outcomes.Commits) :
    lmdbStorageInit s opening outcomes =
      if outcomes.txnCommit ≠ 0 then .error (.txnAbort .opened)
      else .ok (committed, { s with env := .opened, dbi := outcomes.dbi }, 0) := by
  have hdirectory := directory_iff.mpr hcommits.directory
  simp only [lmdbStorageInit, if_neg hdirectory, hcommits.envCreate,
    hcommits.setMapsize, hcommits.envOpen, hcommits.txnBegin,
    hcommits.dbiOpen, hcommits.setCompare, ne_eq, not_true_eq_false, if_false]
  by_cases hcommit : outcomes.txnCommit = 0
  · simp only [hcommit, not_true_eq_false, if_false]
    rfl
  · simp only [hcommit, not_false_eq_true, if_true]
    exact initError_committed s outcomes.dbi

/-! ## The whole of `lmdb_storage_open` -/

/-- Closing a handle of zeros ends nothing. -/
theorem lmdbStorageClose_zeroed (acceptorId : Word32) (ledger : OpenLedger) :
    lmdbStorageClose (.zeroed acceptorId) ledger = .ok ledger := rfl

theorem openError_zeroed (acceptorId : Word32) {ledger : OpenLedger}
    (honly : OnlyPath ledger) (result : ℤ) :
    ∃ next, openError (.zeroed acceptorId) ledger result =
        .ok (next, .zeroed acceptorId, result) ∧ next.Balanced := by
  refine ⟨ledger.strike .path honly.path_held, ?_, ?_⟩
  · rw [openError, lmdbStorageClose_zeroed]
    change cleanupExit _ ledger result = _
    rw [cleanupExit, Ledger.release_eq_some honly.path_held]
    rfl
  · rw [Ledger.balanced_iff]
    rintro resource ⟨hmem, hkept⟩
    have hheld : ledger.Holds resource :=
      ⟨hmem, fun hreleased => hkept (List.mem_append_left _ hreleased)⟩
    cases resource with
    | path => exact hkept (List.mem_append_right _ List.mem_cons_self)
    | env => exact honly.env_ended hheld
    | txn => exact honly.txn_ended hheld

/-- Where a step before the commit fails, the handle is closed as it came. -/
theorem lmdbStorageOpen_fails (s : LmdbHandle) {outcomes : OpenOutcomes}
    (hfails : ¬ outcomes.Commits) :
    ∃ ledger result, lmdbStorageOpen s outcomes = openError s ledger result ∧
      OnlyPath ledger ∧ result ≠ 0 := by
  by_cases hdirectory : outcomes.dirExists = false ∧ outcomes.mkdir ≠ 0
  · refine ⟨opening, -1, ?_, onlyPath_opening, by decide⟩
    rw [lmdbStorageOpen]
    simp only [if_pos hdirectory]
    rfl
  · have hinit : ¬ outcomes.init.Commits := fun hinit =>
      hfails ⟨directory_iff.mp hdirectory, hinit⟩
    obtain ⟨ledger, hleft, honly⟩ := lmdbStorageInit_unwinds s hinit
    refine ⟨ledger, 1, ?_, honly, by decide⟩
    calc lmdbStorageOpen s outcomes
        = (do
            let (ledger, s, failed) ← lmdbStorageInit s opening outcomes.init
            if failed ≠ 0 then openError s ledger 1
            else cleanupExit s ledger 0) := by
          rw [lmdbStorageOpen]
          simp only [if_neg hdirectory]
          rfl
      _ = openError s ledger 1 := by
          rw [hleft]
          rfl

/-- Where the commit is reached, it decides. -/
theorem lmdbStorageOpen_of_commits (s : LmdbHandle) {outcomes : OpenOutcomes}
    (hcommits : outcomes.Commits) :
    lmdbStorageOpen s outcomes =
      if outcomes.init.txnCommit ≠ 0 then .error (.txnAbort .opened)
      else .ok (committed.strike .path (by decide),
        { s with env := .opened, dbi := outcomes.init.dbi }, 0) := by
  have hdirectory := directory_iff.mpr hcommits.directory
  have hinit := lmdbStorageInit_of_commits s hcommits.init
  rw [lmdbStorageOpen]
  simp only [if_neg hdirectory]
  change (lmdbStorageInit s opening _ >>= _) = _
  rw [hinit]
  by_cases hcommit : outcomes.init.txnCommit ≠ 0
  · rw [if_pos hcommit, if_pos hcommit]
    rfl
  · rw [if_neg hcommit, if_neg hcommit]
    rfl

/-- The storage opens cleanly unless its very first commit is what fails. -/
theorem opensCleanly_iff (acceptorId : Word32) (outcomes : OpenOutcomes) :
    OpensCleanly acceptorId outcomes ↔
      ¬ (outcomes.Commits ∧ outcomes.init.txnCommit ≠ 0) := by
  constructor
  · rintro ⟨ledger, s, result, hopen, -⟩ ⟨hcommits, hcommit⟩
    rw [lmdbStorageOpen_of_commits _ hcommits, if_pos hcommit] at hopen
    cases hopen
  · intro hfine
    by_cases hcommits : outcomes.Commits
    · have hcommit : ¬ outcomes.init.txnCommit ≠ 0 :=
        fun hfailed => hfine ⟨hcommits, hfailed⟩
      have hsucceed : outcomes.Succeed := ⟨hcommits, not_not.mp hcommit⟩
      refine ⟨_, _, 0, (lmdbStorageOpen_of_commits _ hcommits).trans
        (if_neg hcommit), ?_, fun _ => ⟨rfl, ?_⟩,
        fun hfails => absurd hsucceed hfails⟩
      · exact iff_of_true rfl hsucceed
      · decide
    · obtain ⟨left, result, hopen, honly, hresult⟩ :=
        lmdbStorageOpen_fails (.zeroed acceptorId) hcommits
      obtain ⟨ledger, herror, hbalanced⟩ :=
        openError_zeroed acceptorId honly result
      have hfails : ¬ outcomes.Succeed := fun hsucceed =>
        hcommits hsucceed.commits
      exact ⟨ledger, .zeroed acceptorId, result, hopen.trans herror,
        iff_of_false hresult hfails, fun hsucceed => absurd hsucceed hfails,
        fun _ => ⟨rfl, hbalanced⟩⟩

end PaxosPersistence.StorageOpening
