import PaxosPersistence.Core.Machine
import PaxosPersistence.Storage.StorageOpening
import PaxosPersistence.Storage.UserStorage

/-!
# What the threads find in their handles

Each storage thread has its `struct lmdb_storage` on the stack and hands it to
`lmdb_storage_open` as it is.  Opening reads the number of the acceptor, which
nobody has set, for the path; on success it sets the environment and the
database and leaves the transaction; on failure it closes whatever the handle
seems to hold.  What the process does is therefore a function of the messages
only if the two threads start with the same number and with nothing, or the
same thing, to be closed.
-/

namespace PaxosPersistence.IndeterminateHandles

open PaxosPersistence.ByteBlock
open PaxosPersistence.LmdbOperations
open PaxosPersistence.Machine
open PaxosPersistence.Memory
open PaxosPersistence.PaxosTypes
open PaxosPersistence.StorageOpening
open PaxosPersistence.UserStorage

/-! ## Handles on the stack -/

/-- What the memory of a handle holds before anything is written to it. -/
structure Contents where
  env : Addr
  txn : Addr
  dbi : Word32
  acceptorId : Word32
  deriving DecidableEq

/-- The pointer that these bytes are taken for. -/
def strayPointer (address : Addr) : MdbPointer :=
  if address = 0 then .null else .wild address

def Contents.handle (contents : Contents) : LmdbHandle where
  env := strayPointer contents.env
  txn := strayPointer contents.txn
  dbi := contents.dbi
  acceptorId := contents.acceptorId

/-- `db_env_path` with the number of the acceptor. -/
def lmdbEnvPath (acceptorId : Word32) : String :=
  "/tmp/paxos_" ++ acceptorId.toInt.repr

/-- The part of the handle that a storage operation looks at before it begins
its own transaction: whether there is one. -/
def storageOf (s : LmdbHandle) : LmdbStorage where
  txn := if s.txn = .null then none else some 0

/-! ## The two threads -/

inductive Stage where
  | starting
  | serving (ledger : OpenLedger)
  | ended

structure StorageThread where
  handle : LmdbHandle
  stage : Stage

/-- The process; `aborted` is set when a thread has brought it down. -/
structure Process where
  thread : Bool → StorageThread
  databases : String → Database
  aborted : Bool

def Process.start (contents : Bool → Contents)
    (databases : String → Database) : Process where
  thread := fun isRead => ⟨(contents isRead).handle, .starting⟩
  databases := databases
  aborted := false

def Process.goto (process : Process) (isRead : Bool) (handle : LmdbHandle)
    (stage : Stage) : Process :=
  { process with
    thread := Function.update process.thread isRead ⟨handle, stage⟩ }

def Process.abort (process : Process) : Process :=
  { process with aborted := true }

def Process.store (process : Process) (path : String) (database : Database) :
    Process :=
  { process with
    databases := Function.update process.databases path database }

inductive ThreadAction where
  | openStorage (outcomes : OpenOutcomes)
  | message (message : ClientValue) (codes : MdbCodes) (pointer : Addr)
  | close

/-- What comes out of the process.  A call on an object that is not there shows
what it was called on, since what happens then depends on it. -/
inductive StorageEvent where
  | opened (isRead : Bool) (path : String)
  | stored (path : String) (accepted : UserAccepted)
  | answered (msg : List Byte) (count : ℕ)
  | halted (isRead : Bool) (halt : Halt)
  | badCall (isRead : Bool) (call : BadCall)

/-- `process_read_message` or `process_write_message`, with `path` for the
database that the handle stands for. -/
def processMessage (isRead : Bool) (s : LmdbHandle) (path : String)
    (database : Database) (message : ClientValue) (codes : MdbCodes)
    (pointer : Addr) : Except Halt (Database × List StorageEvent) :=
  if isRead then do
    let (next, found) ← storageGet (storageOf s) database
      message.value.header.iid codes pointer
    let out := found.getD UserAccepted.zeroed
    let msg ← clientValueToBuffer ⟨message.bufferId, out⟩
    return (next, [.answered msg
      (sizeofInt + sizeOfLen out.header.value.paxosValueLen)])
  else do
    let (next, ret) ← storagePut (storageOf s) database message.value codes
    return (next, if ret = 0 then [.stored path message.value] else [])

/-- A step of `generic_storage_thread` on the side `isRead`. -/
def userStorage : Step Process (Bool × ThreadAction) StorageEvent Empty
  | process, (isRead, action) =>
      let s := (process.thread isRead).handle
      let path := lmdbEnvPath s.acceptorId
      if process.aborted then .ok (process, [])
      else match (process.thread isRead).stage, action with
      | .starting, .openStorage outcomes =>
          match lmdbStorageOpen s outcomes with
          | .error call =>
              .ok (process.abort, [.badCall isRead call])
          | .ok (ledger, s, result) =>
              if result ≠ 0 then .ok (process.goto isRead s .ended, [])
              else .ok (process.goto isRead s (.serving ledger),
                [.opened isRead path])
      | .serving _, .message message codes pointer =>
          match processMessage isRead s path (process.databases path) message
              codes pointer with
          | .error halt =>
              .ok (process.abort, [.halted isRead halt])
          | .ok (next, events) => .ok (process.store path next, events)
      | .serving ledger, .close =>
          match lmdbStorageClose s ledger with
          | .error call =>
              .ok (process.abort, [.badCall isRead call])
          | .ok _ => .ok (process.goto isRead s .ended, [])
      | _, _ => .ok (process, [])

/-! ## Two runs -/

def observed (contents : Bool → Contents) (databases : String → Database)
    (actions : List (Bool × ThreadAction)) : List StorageEvent :=
  match run userStorage (.start contents databases) actions with
  | .ok (_, events) => events
  | .error halt => halt.elim

/-- The reader and the writer open the same path. -/
def SamePath (events : List StorageEvent) : Prop :=
  ∀ path other, .opened true path ∈ events → .opened false other ∈ events →
    path = other

/-- Whatever the threads go through, nothing of it depends on which of the two
contents their handles had, and they share a path. -/
def Insensitive (first second : Bool → Contents) : Prop :=
  ∀ databases actions,
    observed first databases actions = observed second databases actions ∧
      SamePath (observed first databases actions) ∧
      SamePath (observed second databases actions)

/-- Every handle has the same number in it; where there is no transaction to
abort, the rest is the same as well. -/
structure Determined (first second : Bool → Contents) : Prop where
  acceptorId_eq : ∃ acceptorId, ∀ isRead,
    (first isRead).acceptorId = acceptorId ∧
      (second isRead).acceptorId = acceptorId
  txn_eq : ∀ isRead, (first isRead).txn = (second isRead).txn
  rest_eq : ∀ isRead, (first isRead).txn = 0 →
    (first isRead).env = (second isRead).env ∧
      (first isRead).dbi = (second isRead).dbi

/-! ## Closing what a handle seems to hold -/

/-- The call that closing a handle nobody has opened breaks down in. -/
def strayCall (contents : Contents) : Option BadCall :=
  if contents.txn ≠ 0 then some (.txnAbort (.wild contents.txn))
  else if contents.dbi ≠ 0 then
    some (.dbiClose (strayPointer contents.env) contents.dbi)
  else if contents.env ≠ 0 then some (.envClose (.wild contents.env))
  else none

theorem strayPointer_injective : Function.Injective strayPointer := by
  intro address other hsame
  rw [strayPointer, strayPointer] at hsame
  split at hsame
  · split at hsame
    · simp_all
    · cases hsame
  · split at hsame
    · cases hsame
    · exact MdbPointer.wild.inj hsame

theorem strayPointer_zero : strayPointer 0 = .null := rfl

theorem strayPointer_of_ne {address : Addr} (hne : address ≠ 0) :
    strayPointer address = .wild address :=
  if_neg hne

theorem strayPointer_ne_opened (address : Addr) :
    strayPointer address ≠ .opened := by
  by_cases hzero : address = 0
  · rw [hzero, strayPointer_zero]
    exact MdbPointer.noConfusion
  · rw [strayPointer_of_ne hzero]
    exact MdbPointer.noConfusion

theorem lmdbStorageClose_handle (contents : Contents) (ledger : OpenLedger) :
    lmdbStorageClose contents.handle ledger =
      match strayCall contents with
      | some call => .error call
      | none => .ok ledger := by
  by_cases htxn : contents.txn ≠ 0
  · rw [strayCall, if_pos htxn]
    simp only [lmdbStorageClose, Contents.handle, closeHandles,
      strayPointer_of_ne htxn]
    rfl
  rw [strayCall, if_neg htxn]
  by_cases hdbi : contents.dbi ≠ 0
  · rw [if_pos hdbi]
    simp only [lmdbStorageClose, Contents.handle, closeHandles,
      not_not.mp htxn, strayPointer_zero, if_pos hdbi, mdbClose,
      if_neg (strayPointer_ne_opened contents.env)]
    rfl
  rw [if_neg hdbi]
  by_cases henv : contents.env ≠ 0
  · rw [if_pos henv]
    simp only [lmdbStorageClose, Contents.handle, closeHandles,
      not_not.mp htxn, strayPointer_zero, if_neg hdbi, strayPointer_of_ne henv]
    rfl
  · rw [if_neg henv]
    simp only [lmdbStorageClose, Contents.handle, closeHandles,
      not_not.mp htxn, strayPointer_zero, if_neg hdbi, not_not.mp henv]
    rfl

theorem strayCall_eq_iff {first second : Contents} :
    strayCall first = strayCall second ↔
      first.txn = second.txn ∧ (first.txn = 0 →
        first.env = second.env ∧ first.dbi = second.dbi) := by
  constructor
  · intro hsame
    have hpointer := @strayPointer_injective first.env second.env
    grind [strayCall]
  · rintro ⟨htxn, hrest⟩
    by_cases hzero : first.txn = 0
    · obtain ⟨henv, hdbi⟩ := hrest hzero
      rw [strayCall, strayCall, htxn, henv, hdbi]
    · rw [strayCall, strayCall, if_pos hzero, if_pos (htxn ▸ hzero), htxn]

/-! ## Contents that are not looked at -/

/-- A handle with a stray transaction breaks down in the abort of it, whatever
else it holds. -/
theorem openError_of_wild {s : LmdbHandle} {address : Addr}
    (hwild : s.txn = .wild address) (ledger : OpenLedger) (result : ℤ) :
    openError s ledger result = .error (.txnAbort (.wild address)) := by
  rw [openError, lmdbStorageClose, closeHandles, hwild]
  rfl

/-- Opening does not look at the environment and the database. -/
theorem lmdbStorageOpen_of_wild {s other : LmdbHandle} {address : Addr}
    (hs : s.txn = .wild address) (hother : other.txn = .wild address)
    (hid : s.acceptorId = other.acceptorId) (outcomes : OpenOutcomes) :
    lmdbStorageOpen s outcomes = lmdbStorageOpen other outcomes := by
  by_cases hcommits : outcomes.Commits
  · rw [lmdbStorageOpen_of_commits s hcommits,
      lmdbStorageOpen_of_commits other hcommits, hs, hother, hid]
  · obtain ⟨ledger, result, hopen, -⟩ := lmdbStorageOpen_fails s hcommits
    obtain ⟨left, code, hopenOther, -⟩ := lmdbStorageOpen_fails other hcommits
    rw [hopen, hopenOther, openError_of_wild hs, openError_of_wild hother]

/-- Two threads that have not opened their storage and differ in nothing that
opening looks at. -/
structure Stray (left right : StorageThread) : Prop where
  left_starting : left.stage = .starting
  right_starting : right.stage = .starting
  acceptorId_eq : left.handle.acceptorId = right.handle.acceptorId
  txn_wild : ∃ address, left.handle.txn = .wild address ∧
    right.handle.txn = .wild address

/-- Two processes of which an observer sees the same from here on. -/
structure Alike (left right : Process) : Prop where
  databases_eq : left.databases = right.databases
  aborted_eq : left.aborted = right.aborted
  thread : ∀ isRead, left.thread isRead = right.thread isRead ∨
    Stray (left.thread isRead) (right.thread isRead)

section Alike

variable {left right : Process} {isRead : Bool}

theorem Alike.acceptorId_eq (halike : Alike left right) (isRead : Bool) :
    (left.thread isRead).handle.acceptorId =
      (right.thread isRead).handle.acceptorId := by
  rcases halike.thread isRead with hsame | hstray
  · rw [hsame]
  · exact hstray.acceptorId_eq

theorem Alike.stage_eq (halike : Alike left right) (isRead : Bool) :
    (left.thread isRead).stage = (right.thread isRead).stage := by
  rcases halike.thread isRead with hsame | hstray
  · rw [hsame]
  · rw [hstray.left_starting, hstray.right_starting]

theorem Alike.lmdbStorageOpen_eq (halike : Alike left right) (isRead : Bool)
    (outcomes : OpenOutcomes) :
    lmdbStorageOpen (left.thread isRead).handle outcomes =
      lmdbStorageOpen (right.thread isRead).handle outcomes := by
  rcases halike.thread isRead with hsame | hstray
  · rw [hsame]
  · obtain ⟨address, hleft, hright⟩ := hstray.txn_wild
    exact lmdbStorageOpen_of_wild hleft hright hstray.acceptorId_eq outcomes

/-- Once a thread serves, the two have the same handle. -/
theorem Alike.handle_eq (halike : Alike left right) {ledger : OpenLedger}
    (hserving : (right.thread isRead).stage = .serving ledger) :
    (left.thread isRead).handle = (right.thread isRead).handle := by
  rcases halike.thread isRead with hsame | hstray
  · rw [hsame]
  · rw [hstray.right_starting] at hserving
    cases hserving

theorem Alike.goto (halike : Alike left right) (isRead : Bool)
    (handle : LmdbHandle) (stage : Stage) :
    Alike (left.goto isRead handle stage) (right.goto isRead handle stage) where
  databases_eq := halike.databases_eq
  aborted_eq := halike.aborted_eq
  thread other := by
    by_cases hother : other = isRead
    · subst hother
      left
      simp [Process.goto]
    · simpa [Process.goto, hother] using halike.thread other

theorem Alike.abort (halike : Alike left right) :
    Alike left.abort right.abort :=
  ⟨halike.databases_eq, rfl, halike.thread⟩

theorem Alike.store (halike : Alike left right) (path : String)
    (database : Database) :
    Alike (left.store path database) (right.store path database) where
  databases_eq := by
    rw [Process.store, Process.store, halike.databases_eq]
  aborted_eq := halike.aborted_eq
  thread := halike.thread

/-- Matching steps, one case for each thing a thread can do. -/
theorem Alike.step (halike : Alike left right)
    (action : Bool × ThreadAction) :
    ∃ next following events, userStorage left action = .ok (next, events) ∧
      userStorage right action = .ok (following, events) ∧
      Alike next following := by
  obtain ⟨isRead, action⟩ := action
  have hstage := halike.stage_eq isRead
  have hpath := halike.acceptorId_eq isRead
  simp only [userStorage, halike.aborted_eq, halike.databases_eq, hstage, hpath]
  by_cases haborted : right.aborted = true
  · simp only [if_pos haborted]
    exact ⟨left, right, [], rfl, rfl, halike⟩
  simp only [if_neg haborted]
  have hidle : ∃ next following events,
      (.ok (left, []) : Except Empty (Process × List StorageEvent)) =
        .ok (next, events) ∧
      (.ok (right, []) : Except Empty (Process × List StorageEvent)) =
        .ok (following, events) ∧ Alike next following :=
    ⟨left, right, [], rfl, rfl, halike⟩
  cases hserving : (right.thread isRead).stage with
  | ended => exact hidle
  | starting =>
      cases action with
      | message message codes pointer => exact hidle
      | close => exact hidle
      | openStorage outcomes =>
          dsimp only
          rw [halike.lmdbStorageOpen_eq isRead outcomes]
          split
          · exact ⟨_, _, _, rfl, rfl, halike.abort⟩
          · split
            · exact ⟨_, _, _, rfl, rfl, halike.goto isRead _ _⟩
            · exact ⟨_, _, _, rfl, rfl, halike.goto isRead _ _⟩
  | serving ledger =>
      have hhandle := halike.handle_eq hserving
      cases action with
      | openStorage outcomes => exact hidle
      | message message codes pointer =>
          dsimp only
          rw [hhandle]
          split
          · exact ⟨_, _, _, rfl, rfl, halike.abort⟩
          · exact ⟨_, _, _, rfl, rfl, halike.store _ _⟩
      | close =>
          dsimp only
          rw [hhandle]
          split
          · exact ⟨_, _, _, rfl, rfl, halike.abort⟩
          · exact ⟨_, _, _, rfl, rfl, halike.goto isRead _ _⟩

end Alike

/-! ## The paths of a run -/

variable {contents first second : Bool → Contents}
  {databases : String → Database} {actions : List (Bool × ThreadAction)}

/-- No step of the threads is without a result. -/
theorem exists_run (process : Process) (actions : List (Bool × ThreadAction)) :
    ∃ last events, run userStorage process actions = .ok (last, events) := by
  cases hrun : run userStorage process actions with
  | error halt => exact halt.elim
  | ok result => exact ⟨result.1, result.2, rfl⟩

theorem observed_of_run {last : Process} {events : List StorageEvent}
    (hrun : run userStorage (.start contents databases) actions =
      .ok (last, events)) :
    observed contents databases actions = events := by
  rw [observed, hrun]

/-- Opening leaves the number of the acceptor as it was. -/
theorem acceptorId_of_lmdbStorageOpen {s next : LmdbHandle}
    {outcomes : OpenOutcomes} {ledger : OpenLedger} {result : ℤ}
    (hopen : lmdbStorageOpen s outcomes = .ok (ledger, next, result)) :
    next.acceptorId = s.acceptorId := by
  by_cases hcommits : outcomes.Commits
  · rw [lmdbStorageOpen_of_commits s hcommits] at hopen
    split at hopen
    · cases hopen
    · cases hopen
      rfl
  · obtain ⟨left, code, hfails, -⟩ := lmdbStorageOpen_fails s hcommits
    rw [hfails, openError] at hopen
    cases hclose : lmdbStorageClose s left with
    | error call =>
        rw [hclose] at hopen
        cases hopen
    | ok closed =>
        rw [hclose] at hopen
        change cleanupExit s closed code = _ at hopen
        rw [cleanupExit] at hopen
        cases hrelease : closed.release .path with
        | none =>
            rw [hrelease] at hopen
            cases hopen
        | some released =>
            rw [hrelease] at hopen
            cases hopen
            rfl

/-- The threads have the numbers they started with, and what was opened lies
under the path that belongs to each. -/
structure OpensOwn (contents : Bool → Contents) (process : Process)
    (history : List StorageEvent) : Prop where
  acceptorId_eq : ∀ isRead, (process.thread isRead).handle.acceptorId =
    (contents isRead).acceptorId
  path_eq : ∀ isRead path, .opened isRead path ∈ history →
    path = lmdbEnvPath (contents isRead).acceptorId

section OpensOwn

variable {process : Process} {history : List StorageEvent}

theorem OpensOwn.silent (howns : OpensOwn contents process history)
    (next : Process) (hthread : next.thread = process.thread)
    {events : List StorageEvent}
    (hsilent : ∀ isRead path, .opened isRead path ∉ events) :
    OpensOwn contents next (history ++ events) where
  acceptorId_eq := hthread ▸ howns.acceptorId_eq
  path_eq isRead path hmem :=
    (List.mem_append.mp hmem).elim (howns.path_eq isRead path)
      fun hevent => absurd hevent (hsilent isRead path)

theorem OpensOwn.goto (howns : OpensOwn contents process history)
    {isRead : Bool} {handle : LmdbHandle}
    (hid : handle.acceptorId = (process.thread isRead).handle.acceptorId)
    (stage : Stage) {events : List StorageEvent}
    (hopened : ∀ other path, .opened other path ∈ events →
      path = lmdbEnvPath (contents other).acceptorId) :
    OpensOwn contents (process.goto isRead handle stage)
      (history ++ events) where
  acceptorId_eq other := by
    by_cases hother : other = isRead
    · subst hother
      simpa only [Process.goto, Function.update_self] using
        hid.trans (howns.acceptorId_eq other)
    · simpa only [Process.goto, Function.update_of_ne hother] using
        howns.acceptorId_eq other
  path_eq other path hmem :=
    (List.mem_append.mp hmem).elim (howns.path_eq other path)
      (hopened other path)

/-- A message opens nothing. -/
theorem not_opened_of_processMessage {isRead : Bool} {s : LmdbHandle}
    {path : String} {database next : Database} {message : ClientValue}
    {codes : MdbCodes} {pointer : Addr} {events : List StorageEvent}
    (hprocess : processMessage isRead s path database message codes pointer =
      .ok (next, events)) (other : Bool) (opened : String) :
    .opened other opened ∉ events := by
  cases isRead with
  | true =>
      obtain ⟨found, -, hencoded⟩ := bind_eq_ok.mp hprocess
      obtain ⟨msg, -, hreturned⟩ := bind_eq_ok.mp hencoded
      cases hreturned
      simp
  | false =>
      obtain ⟨result, -, hreturned⟩ := bind_eq_ok.mp hprocess
      cases hreturned
      split <;> simp

theorem OpensOwn.step (howns : OpensOwn contents process history)
    {action : Bool × ThreadAction} {next : Process}
    {events : List StorageEvent}
    (hstep : userStorage process action = .ok (next, events)) :
    OpensOwn contents next (history ++ events) := by
  obtain ⟨isRead, action⟩ := action
  have hidle : OpensOwn contents process (history ++ []) :=
    howns.silent process rfl (by simp)
  simp only [userStorage] at hstep
  by_cases haborted : process.aborted = true
  · rw [if_pos haborted] at hstep
    cases hstep
    exact hidle
  rw [if_neg haborted] at hstep
  split at hstep
  · -- the storage is opened
    split at hstep
    · cases hstep
      exact howns.silent process.abort rfl (by simp)
    · rename_i ledger s result hopen
      have hid := acceptorId_of_lmdbStorageOpen hopen
      split at hstep
      · cases hstep
        exact howns.goto hid _ (by simp)
      · cases hstep
        refine howns.goto hid _ fun other path hmem => ?_
        obtain ⟨rfl, rfl⟩ := StorageEvent.opened.inj (List.mem_singleton.mp hmem)
        rw [howns.acceptorId_eq]
  · -- a message is processed
    split at hstep
    · cases hstep
      exact howns.silent process.abort rfl (by simp)
    · rename_i hprocess
      cases hstep
      exact howns.silent (process.store _ _) rfl
        (not_opened_of_processMessage hprocess)
  · -- the storage is closed
    split at hstep
    · cases hstep
      exact howns.silent process.abort rfl (by simp)
    · cases hstep
      exact howns.goto rfl _ (by simp)
  · cases hstep
    exact hidle

end OpensOwn

/-- In every run what a thread opens lies under its own path. -/
theorem path_of_opened {isRead : Bool} {path : String}
    (hopened : .opened isRead path ∈ observed contents databases actions) :
    path = lmdbEnvPath (contents isRead).acceptorId := by
  obtain ⟨last, events, hrun⟩ :=
    exists_run (.start contents databases) actions
  rw [observed_of_run hrun] at hopened
  have howns : OpensOwn contents last ([] ++ events) :=
    invariant_of_run_eq_ok (OpensOwn contents) (fun _ => True)
      (fun _ _ _ _ _ howns _ hstep => howns.step hstep)
      ⟨fun _ => rfl, by simp⟩ (fun _ _ => trivial) hrun
  exact howns.path_eq isRead path hopened

/-! ## Exactly the determined contents are not seen -/

theorem lmdbEnvPath_injective : Function.Injective lmdbEnvPath := by
  intro left right hpath
  have hrepr : left.toInt.repr = right.toInt.repr := by
    simpa [lmdbEnvPath] using hpath
  exact BitVec.eq_of_toInt_eq (Int.repr_injective hrepr)

theorem alike_start (hdetermined : Determined first second)
    (databases : String → Database) :
    Alike (.start first databases) (.start second databases) where
  databases_eq := rfl
  aborted_eq := rfl
  thread isRead := by
    obtain ⟨acceptorId, hids⟩ := hdetermined.acceptorId_eq
    have hid : (first isRead).acceptorId = (second isRead).acceptorId :=
      (hids isRead).1.trans (hids isRead).2.symm
    have htxn := hdetermined.txn_eq isRead
    by_cases hzero : (first isRead).txn = 0
    · left
      obtain ⟨henv, hdbi⟩ := hdetermined.rest_eq isRead hzero
      simp only [Process.start, Contents.handle, hid, htxn, henv, hdbi]
    · right
      exact
        { left_starting := rfl
          right_starting := rfl
          acceptorId_eq := hid
          txn_wild := ⟨(first isRead).txn, strayPointer_of_ne hzero,
            (congrArg strayPointer htxn).symm.trans
              (strayPointer_of_ne hzero)⟩ }

/-- Everything succeeds. -/
def allSucceed : OpenOutcomes where
  dirExists := true
  mkdir := 0
  init := ⟨true, 0, 0, 0, 0, 0, 0, 1, 0, 0⟩

/-- The directory cannot be made. -/
def noDirectory : OpenOutcomes where
  dirExists := false
  mkdir := -1
  init := allSucceed.init

/-- Both threads open their storage. -/
theorem observed_open (contents : Bool → Contents)
    (databases : String → Database) :
    observed contents databases
        [(true, .openStorage allSucceed), (false, .openStorage allSucceed)] =
      [.opened true (lmdbEnvPath (contents true).acceptorId),
        .opened false (lmdbEnvPath (contents false).acceptorId)] := rfl

/-- A thread that cannot open its storage closes it. -/
theorem observed_noDirectory (contents : Bool → Contents)
    (databases : String → Database) (isRead : Bool) :
    observed contents databases [(isRead, .openStorage noDirectory)] =
      (strayCall (contents isRead)).toList.map (.badCall isRead) := by
  have hclose := lmdbStorageClose_handle (contents isRead) opening
  have hopen : lmdbStorageOpen (contents isRead).handle noDirectory =
      lmdbStorageClose (contents isRead).handle opening >>=
        fun ledger => cleanupExit (contents isRead).handle ledger (-1) := rfl
  rw [hclose] at hopen
  cases hstray : strayCall (contents isRead) with
  | none =>
      rw [hstray] at hopen
      have hrun : run userStorage (.start contents databases)
          [(isRead, .openStorage noDirectory)] =
            .ok ((Process.start contents databases).goto isRead
              (contents isRead).handle .ended, []) := by
        simp only [run, userStorage, Process.start, hopen]
        rfl
      exact observed_of_run hrun
  | some call =>
      rw [hstray] at hopen
      have hrun : run userStorage (.start contents databases)
          [(isRead, .openStorage noDirectory)] =
            .ok ((Process.start contents databases).abort,
              [.badCall isRead call]) := by
        simp only [run, userStorage, Process.start, hopen]
        rfl
      exact observed_of_run hrun

/-- Two runs that differ in nothing but the memory the handles started with
agree, and open one path, exactly if that memory is determined. -/
theorem insensitive_iff (first second : Bool → Contents) :
    Insensitive first second ↔ Determined first second := by
  constructor
  · intro hinsensitive
    have hstray (isRead : Bool) : strayCall (first isRead) =
        strayCall (second isRead) := by
      obtain ⟨hsame, -⟩ := hinsensitive
        (fun _ => TransactionalMap.Store.ofEntries fun _ => none)
        [(isRead, .openStorage noDirectory)]
      rw [observed_noDirectory, observed_noDirectory] at hsame
      have hlists := List.map_injective_iff.mpr
        (fun _ _ hcall => (StorageEvent.badCall.inj hcall).2) hsame
      have hheads := congrArg List.head? hlists
      rwa [Option.head?_toList, Option.head?_toList] at hheads
    obtain ⟨hsame, hfirst, hsecond⟩ := hinsensitive
      (fun _ => TransactionalMap.Store.ofEntries fun _ => none)
      [(true, .openStorage allSucceed), (false, .openStorage allSucceed)]
    rw [observed_open] at hsame hfirst
    rw [observed_open] at hsame hsecond
    have hpaths := hfirst _ _ List.mem_cons_self
      (List.mem_cons_of_mem _ List.mem_cons_self)
    obtain ⟨hreader, hrest⟩ := List.cons.inj hsame
    obtain ⟨hwriter, -⟩ := List.cons.inj hrest
    have hreaderId := lmdbEnvPath_injective
      (StorageEvent.opened.inj hreader).2
    have hwriterId := lmdbEnvPath_injective
      (StorageEvent.opened.inj hwriter).2
    have hfirstId := lmdbEnvPath_injective hpaths
    refine ⟨⟨(first true).acceptorId, ?_⟩,
      fun isRead => (strayCall_eq_iff.mp (hstray isRead)).1,
      fun isRead => (strayCall_eq_iff.mp (hstray isRead)).2⟩
    rintro (_ | _)
    · exact ⟨hfirstId.symm, hwriterId.symm.trans hfirstId.symm⟩
    · exact ⟨rfl, hreaderId.symm⟩
  · intro hdetermined databases actions
    obtain ⟨acceptorId, hids⟩ := hdetermined.acceptorId_eq
    refine ⟨?_, fun path other hread hwrite => ?_,
      fun path other hread hwrite => ?_⟩
    · obtain ⟨last, final, events, hfirst, hsecond, -⟩ :=
        run_of_related Alike (fun _ _ action halike => halike.step action)
          (alike_start hdetermined databases) actions
      rw [observed_of_run hfirst, observed_of_run hsecond]
    · rw [path_of_opened hread, path_of_opened hwrite, (hids true).1,
        (hids false).1]
    · rw [path_of_opened hread, path_of_opened hwrite, (hids true).2,
        (hids false).2]

/-- A handle of zeros. -/
def zeros : Contents := ⟨0, 0, 0, 0⟩

/-- The writer happens to find a one where the number should be. -/
theorem not_insensitive_strayAcceptor :
    ¬ Insensitive (fun _ => zeros) fun isRead =>
      if isRead then zeros else { zeros with acceptorId := 1 } := by
  intro hinsensitive
  obtain ⟨-, -, hsame⟩ := hinsensitive
    (fun _ => TransactionalMap.Store.ofEntries fun _ => none)
    [(true, .openStorage allSucceed), (false, .openStorage allSucceed)]
  rw [observed_open] at hsame
  have hpaths := lmdbEnvPath_injective (hsame _ _ List.mem_cons_self
    (List.mem_cons_of_mem _ List.mem_cons_self))
  exact absurd hpaths (by decide)

end PaxosPersistence.IndeterminateHandles
