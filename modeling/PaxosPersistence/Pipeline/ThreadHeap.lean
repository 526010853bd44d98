import PaxosPersistence.Core.HeapBlocks
import PaxosPersistence.Pipeline.FailedReads
import PaxosPersistence.Storage.AllocationFailures

/-!
# The memory of the storage threads

A storage thread allocates two buffers, and for every message a value, the
message itself and what storing or answering it takes.  Here its functions are
written with the pointers they keep and the calls of `malloc` and `free` they
make, and compared with those that have no heap.  The polls and the results of
the reads again come from the environment.  Every `malloc` of less than 2^63
bytes is granted, and what the decoder reads on behind its buffer is no use of
a block here.
-/

namespace PaxosPersistence.ThreadHeap

open PaxosPersistence.AllocationFailures (sizeofClientValue)
open PaxosPersistence.ByteBlock
open PaxosPersistence.FailedReads
open PaxosPersistence.HeapBlocks
open PaxosPersistence.KernelDevice
open PaxosPersistence.LmdbOperations
open PaxosPersistence.Machine
open PaxosPersistence.Memory
open PaxosPersistence.PaxosTypes
open PaxosPersistence.StorageThread
open PaxosPersistence.UserStorage

/-- A `paxos_accepted` with the blocks of the structure and of its value. -/
structure Allocated where
  accepted : UserAccepted
  block : Pointer
  value : Pointer

/-- The length of the value, as the source compares it. -/
def Allocated.len (out : Allocated) : ℤ :=
  out.accepted.header.value.paxosValueLen.toInt

/-- `malloc`, which returns NULL for a size that it refuses. -/
def mallocSize (size : ℕ) : Program Halt Pointer :=
  if mallocFails size then pure none else malloc

/-- `memset(out, 0, sizeof(paxos_accepted))` -/
def clear (out : Pointer) : Program Halt Allocated := do
  access out
  return ⟨UserAccepted.zeroed, out, none⟩

def bufferToPaxosAccepted (buffer : List Byte) (out : Pointer)
    (pointer : Addr) : Program Halt Allocated := do
  access out
  let accepted ← perform (LmdbOperations.bufferToPaxosAccepted buffer pointer)
  if 0 < accepted.header.value.paxosValueLen.toInt then
    let value ← mallocSize accepted.header.value.paxosValueLen.toInt.toNat
    access value
    return ⟨accepted, out, value⟩
  else return ⟨accepted, out, none⟩

/-- A buffer that could not be allocated has no bytes. -/
def paxosAcceptedToBuffer (acc : Allocated) :
    Program Halt (Pointer × List Byte) := do
  access acc.block
  let size := sizeOfLen acc.accepted.header.value.paxosValueLen
  let buffer ← mallocSize size
  if buffer = none then return (none, [])
  else if size < sizeofPaxosAccepted then perform (.error .memory)
  else
    access buffer
    if acc.len ≠ 0 then
      access acc.value
      return (buffer, acc.accepted.encode)
    else return (buffer, acc.accepted.encode)

def clientValueToBuffer (bufferId : Word32) (client : Allocated) :
    Program Halt (Pointer × List Byte) := do
  access client.block
  let acceptedLen := sizeOfLen client.accepted.header.value.paxosValueLen
  let buffer ← mallocSize ((sizeofClientValue + acceptedLen) % 2 ^ 64)
  if buffer = none then return (none, [])
  else
    let (accepted, bytes) ← paxosAcceptedToBuffer client
    access buffer
    if accepted ≠ none then
      access accepted
      free accepted
      return (buffer, wordBytes sizeofInt bufferId ++ bytes)
    else return (buffer, wordBytes sizeofInt bufferId ++ bytes)

def lmdbStoragePut (s : LmdbStorage) (database : Database) (acc : Allocated)
    (code : ℤ) : Program Halt (Database × ℤ) := do
  let (buffer, data) ← paxosAcceptedToBuffer acc
  match s.txn, buffer with
  | none, _ =>
      free buffer
      return (database, mdbEinval)
  | some _, none =>
      free buffer
      return (database, if code = 0 then mdbBadValsize else code)
  | some txn, some _ =>
      access acc.block
      access buffer
      let written ← perform (live (database.put txn
        (keyOf acc.accepted.header.iid) data (code == 0)))
      free buffer
      return (written, code)

def lmdbStorageGet (s : LmdbStorage) (database : Database) (iid : Word32)
    (out : Allocated) (code : ℤ) (pointer : Addr) :
    Program Halt (ℤ × Allocated) := do
  let data ← perform (mdbGet s database iid code)
  match data with
  | none => return (0, out)
  | some data =>
      let decoded ← bufferToPaxosAccepted data out.block pointer
      access decoded.block
      if iid ≠ decoded.accepted.header.iid then perform (.error .assertion)
      else return (1, decoded)

/-- When nothing is found, `out` is not freed. -/
def storageGet (lmdbStorage : LmdbStorage) (database : Database)
    (id : Word32) (codes : MdbCodes) (pointer : Addr) :
    Program Halt (Database × Option Allocated) := do
  let (s, begun, _) ←
    perform (lmdbStorageTxBegin lmdbStorage database codes.txnBegin)
  let out ← mallocSize sizeofPaxosAccepted
  let zeroed ← clear out
  let (found, filled) ←
    lmdbStorageGet s begun id zeroed codes.access pointer
  if found ≠ 1 then
    let (_, aborted) ← perform (lmdbStorageTxAbort s begun)
    return (aborted, none)
  else
    let (_, committed, _) ←
      perform (lmdbStorageTxCommit s begun codes.txnCommit)
    return (committed, some filled)

def storagePut (lmdbStorage : LmdbStorage) (database : Database)
    (accepted : Allocated) (codes : MdbCodes) :
    Program Halt (Database × ℤ) := do
  let (s, begun, failed) ←
    perform (lmdbStorageTxBegin lmdbStorage database codes.txnBegin)
  if failed ≠ 0 then return (begun, 1)
  else
    let (written, result) ← lmdbStoragePut s begun accepted codes.access
    let (s, written) ← perform
      (if result ≠ 0 then lmdbStorageTxAbort s written
        else .ok (s, written))
    let (_, committed, failed) ←
      perform (lmdbStorageTxCommit s written codes.txnCommit)
    if failed ≠ 0 then return (committed, 1) else return (committed, 0)

/-- `client_value_to_buffer`, `write` and `free`; NULL is refused by the
kernel. -/
def sendAnswer (bufferId : Word32) (out : Allocated) :
    Program Halt (List Byte) := do
  let (msg, frame) ← clientValueToBuffer bufferId out
  if msg ≠ none then
    access msg
    free msg
    return frame
  else
    free msg
    return frame

/-- The value, unless there is none, and the structure. -/
def freeAccepted (out : Allocated) : Program Halt Unit := do
  access out.block
  free out.value
  free out.block

def processReadMessage (lmdbStorage : LmdbStorage) (database : Database)
    (bufferId : Word32) (message : Allocated) (codes : MdbCodes)
    (pointer : Addr) : Program Halt (List Byte) := do
  access message.block
  let (_, found) ← storageGet lmdbStorage database
    message.accepted.header.iid codes pointer
  match found with
  | some out =>
      let frame ← sendAnswer bufferId out
      freeAccepted out
      return frame
  | none =>
      let out ← mallocSize sizeofPaxosAccepted
      let zeroed ← clear out
      let frame ← sendAnswer bufferId zeroed
      freeAccepted zeroed
      return frame

def processWriteMessage (lmdbStorage : LmdbStorage) (database : Database)
    (message : Allocated) (codes : MdbCodes) : Program Halt Unit := do
  access message.block
  let _ ← storagePut lmdbStorage database message codes
  return ()

/-- A call of `storage_get` that has returned. -/
structure Lookup where
  iid : Word32
  entries : List Byte → Option (List Byte)
  codes : MdbCodes

/-- The database had a record of that number, and gave it out. -/
def Lookup.finds (lookup : Lookup) : Bool :=
  lookup.codes.txnBegin == 0 && lookup.codes.access == 0 &&
    (lookup.entries (keyOf lookup.iid)).isSome

/-- A thread with its heap and the two buffers it keeps. -/
structure ThreadState where
  side : Side
  heap : Heap
  recv : Pointer
  accepted : Pointer

/-- A thread that has allocated its buffers. -/
def ThreadState.start (device : PaxosKernelDevice) (recv : Block slotSize) :
    ThreadState where
  side := ⟨device, Thread.start recv⟩
  heap := Heap.empty.alloc.alloc
  recv := some Heap.empty.next
  accepted := some Heap.empty.alloc.next

/-- `process_read_message` or `process_write_message`. -/
def process (isRead : Bool) (lmdbStorage : LmdbStorage) (bufferId : Word32)
    (message : Allocated) (iteration : Iteration) :
    Program Halt (List Lookup) :=
  if isRead then do
    let _ ← processReadMessage lmdbStorage iteration.view.database bufferId
      message iteration.codes iteration.pointer
    return [⟨message.accepted.header.iid, iteration.view.database.entries,
      iteration.codes⟩]
  else do
    processWriteMessage lmdbStorage iteration.view.database message
      iteration.codes
    return []

/-- What the thread does when `if (len)` is true. -/
def handleMessage (isRead : Bool) (state : ThreadState)
    (iteration : Iteration) : Program Halt (List Lookup) := do
  access state.recv
  let buffer := state.side.thread.recv ++ iteration.behind
  let value ← bufferToPaxosAccepted (buffer.drop sizeofInt) state.accepted
    iteration.pointer
  let message ← mallocSize sizeofClientValue
  access message
  let lookups ← process isRead state.side.thread.lmdbStorage
    (readWord 32 (slice 0 sizeofInt buffer)) value iteration
  access message
  access value.block
  free value.value
  free message
  return lookups

/-- The thread after a message; one that halts is aborted, and its heap is
gone. -/
def ThreadState.settle (state : ThreadState) :
    Except (Fault Halt) (List Lookup × Heap) →
      Except (Fault Halt) (ThreadState × List Lookup)
  | .ok (lookups, heap) =>
      .ok ({ state with
        side := state.side.goto .polling
        heap := heap }, lookups)
  | .error (.halt _) =>
      .ok ({ state with side := state.side.goto .aborted }, [])
  | .error .dangling => .error .dangling

/-- One iteration of `while (!stop)`. -/
def heapLoop (isRead : Bool) :
    Step ThreadState Iteration Lookup (Fault Halt)
  | state, iteration =>
      match state.side.thread.stage with
      | .aborted => .ok (state, [])
      | _ =>
          if !iteration.readable then .ok (state, [])
          else
            let received := { state with
              side := receive state.side
                (iteration.result.recv state.side.thread.recv) }
            if iteration.result.len isRead = 0 then .ok (received, [])
            else
              received.settle
                (handleMessage isRead received iteration received.heap)

/-- The end of the thread. -/
def freeBuffers (state : ThreadState) : Program Halt Unit := do
  free state.recv
  free state.accepted

/-! ## The functions and their blocks -/

/-- The blocks of a record are there: that of the structure, and that of the
value if there is one. -/
structure Owned (heap : Heap) (out : Allocated) : Prop where
  block : heap.Valid out.block
  value : 0 < out.len → heap.Valid out.value

theorem Owned.grow {heap next : Heap} {out : Allocated}
    {fresh : Multiset BlockId} (howned : Owned heap out)
    (hlive : next.live = fresh + heap.live) : Owned next out where
  block := howned.block.grow hlive
  value hlen := (howned.value hlen).grow hlive

section Functions

variable {heap : Heap} {out : Allocated} {A B : Type}

theorem refines_mallocSize {second : Pointer → Program Halt A}
    {expected : Except Halt B} {post : A → B → Heap → Prop} {size : ℕ}
    (hsize : size < 2 ^ 63)
    (hsecond : ∀ block next, next.live = {block} + heap.live →
      Refines (second (some block)) next expected post) :
    Refines (mallocSize size >>= second) heap expected post := by
  have hgranted : mallocSize size = malloc := by
    rw [mallocSize, mallocFails, decide_eq_false (not_le.mpr hsize)]
    rfl
  rw [hgranted]
  exact Refines.malloc hsecond

/-- A record that is decoded has its value in a block of its own. -/
theorem refines_bufferToPaxosAccepted {pointer : Pointer}
    (hvalid : heap.Valid pointer) (buffer : List Byte) (addr : Addr) :
    Refines (bufferToPaxosAccepted buffer pointer addr) heap
      (LmdbOperations.bufferToPaxosAccepted buffer addr)
      fun out accepted next => out.accepted = accepted ∧
        out.block = pointer ∧ Owned next out ∧
        next.live = blocks out.value + heap.live := by
  have hexpected : LmdbOperations.bufferToPaxosAccepted buffer addr =
      LmdbOperations.bufferToPaxosAccepted buffer addr >>= pure :=
    (bind_pure _).symm
  rw [hexpected]
  apply Refines.access hvalid
  apply Refines.perform
  intro accepted haccepted
  have hlen := accepted.header.value.paxosValueLen.toInt_lt
  split
  · rename_i hpositive
    apply refines_mallocSize (by omega)
    intro block next hlive
    apply Refines.access (valid_of_live_eq hlive)
    exact Refines.pure ⟨rfl, rfl,
      ⟨hvalid.grow hlive, fun _ => valid_of_live_eq hlive⟩, hlive⟩
  · rename_i hpositive
    exact Refines.pure ⟨rfl, rfl, ⟨hvalid, fun hlen => absurd hlen hpositive⟩,
      (zero_add _).symm⟩

theorem refines_paxosAcceptedToBuffer (howned : Owned heap out) :
    Refines (paxosAcceptedToBuffer out) heap
      (LmdbOperations.paxosAcceptedToBuffer out.accepted)
      fun result data next =>
        next.live = blocks result.1 + heap.live ∧
          result.2 = data.getD [] ∧ (result.1 = none ↔ data = none) := by
  apply Refines.access howned.block
  rw [LmdbOperations.paxosAcceptedToBuffer]
  by_cases hsize : mallocFails
      (sizeOfLen out.accepted.header.value.paxosValueLen) = true
  · simp only [mallocSize, hsize, if_true]
    exact Refines.pure ⟨(zero_add _).symm, rfl, iff_of_true rfl rfl⟩
  · rw [if_neg hsize]
    apply refines_mallocSize (by simpa [mallocFails] using hsize)
    intro block next hlive
    rw [if_neg (Option.some_ne_none block)]
    split
    · exact rfl
    · rename_i hfits
      have hnonneg : 0 ≤ out.len := by
        by_contra hneg
        have hhuge := le_sizeOfLen_of_neg (not_le.mp hneg) (not_lt.mp hfits)
        rw [mallocFails, decide_eq_true_iff] at hsize
        exact hsize hhuge
      apply Refines.access (valid_of_live_eq hlive)
      split
      · rename_i hlen
        apply Refines.access
          ((howned.grow hlive).value (lt_of_le_of_ne hnonneg hlen.symm))
        exact Refines.pure ⟨hlive, rfl, by simp⟩
      · exact Refines.pure ⟨hlive, rfl, by simp⟩

/-- The buffer of the record is freed, that of the frame handed out. -/
theorem refines_clientValueToBuffer (howned : Owned heap out)
    (hnonneg : 0 ≤ out.len) (bufferId : Word32) :
    Refines (clientValueToBuffer bufferId out) heap
      (LmdbOperations.clientValueToBuffer ⟨bufferId, out.accepted⟩)
      fun result frame next => result.2 = frame ∧ ∃ msg,
        result.1 = some msg ∧ next.live = {msg} + heap.live := by
  have hsize := sizeOfLen_eq out.accepted.header.value.paxosValueLen
    (le_trans (by decide) hnonneg)
  have hbound := out.accepted.header.value.paxosValueLen.toInt_lt
  simp only [sizeofPaxosAccepted] at hsize
  apply Refines.access howned.block
  apply refines_mallocSize (by simp only [sizeofClientValue]; omega)
  intro msg next hlive
  rw [if_neg (Option.some_ne_none msg)]
  apply (refines_paxosAcceptedToBuffer (howned.grow hlive)).bind
  rintro ⟨accepted, bytes⟩ data later - ⟨hlater, rfl, -⟩
  have hmsg : later.live = {msg} + (blocks accepted + heap.live) := by
    rw [hlater, hlive, add_left_comm]
  apply Refines.access (valid_of_live_eq hmsg)
  split
  · rename_i haccepted
    obtain ⟨block, rfl⟩ := Option.ne_none_iff_exists'.mp haccepted
    apply Refines.access (valid_of_live_eq hlater)
    apply Refines.free hlater
    intro last hlast
    exact Refines.pure ⟨rfl, msg, rfl, hlast.trans hlive⟩
  · rename_i haccepted
    rw [not_not] at haccepted
    subst haccepted
    exact Refines.pure ⟨rfl, msg, rfl, by rw [hmsg, blocks_none, zero_add]⟩

/-- A new structure is cleared. -/
theorem refines_clear {block : BlockId} {others : Multiset BlockId}
    {second : Allocated → Program Halt A} {expected : Except Halt B}
    {post : A → B → Heap → Prop} (hlive : heap.live = {block} + others)
    (hsecond : ∀ zeroed, zeroed = ⟨UserAccepted.zeroed, some block, none⟩ →
      Owned heap zeroed → Refines (second zeroed) heap expected post) :
    Refines (clear (some block) >>= second) heap expected post := by
  rw [clear, bind_assoc]
  apply Refines.access (valid_of_live_eq hlive)
  rw [pure_bind]
  exact hsecond _ rfl
    ⟨valid_of_live_eq hlive, fun hlen => (lt_irrefl 0 hlen).elim⟩

/-- What `lmdb_storage_get` returns, and the blocks it has allocated. -/
theorem refines_lmdbStorageGet {s : LmdbStorage} {database : Database}
    (howned : Owned heap out) (hnull : out.value = none) (iid : Word32)
    (code : ℤ) (pointer : Addr) :
    Refines (lmdbStorageGet s database iid out code pointer) heap
      (LmdbOperations.lmdbStorageGet s database iid out.accepted code pointer)
      fun result expected next => result.1 = expected.1 ∧
        result.2.accepted = expected.2 ∧ result.2.block = out.block ∧
        Owned next result.2 ∧
        next.live = blocks result.2.value + heap.live ∧
        (result.1 ≠ 1 → result.2.value = none) := by
  apply Refines.perform
  rintro (_ | data) _
  · refine Refines.pure ⟨rfl, rfl, rfl, howned, ?_, fun _ => hnull⟩
    rw [hnull, blocks_none, zero_add]
  · apply (refines_bufferToPaxosAccepted howned.block _ pointer).bind
    rintro decoded _ next - ⟨rfl, hblock, hdecoded, hlive⟩
    apply Refines.access hdecoded.block
    split
    · exact rfl
    · exact Refines.pure ⟨rfl, rfl, hblock, hdecoded, hlive,
        fun hfound => absurd rfl hfound⟩

/-- What `storage_get` leaves: the blocks of the record it has found, or one
that nobody knows of. -/
def GivenOut (heap next : Heap) : Option Allocated → Option UserAccepted → Prop
  | some out, some accepted =>
      out.accepted = accepted ∧ Owned next out ∧
        next.live = blocks out.value + (blocks out.block + heap.live)
  | none, none => ∃ leaked, next.live = {leaked} + heap.live
  | _, _ => False

theorem refines_storageGet (lmdbStorage : LmdbStorage) (database : Database)
    (id : Word32) (codes : MdbCodes) (pointer : Addr) :
    Refines (storageGet lmdbStorage database id codes pointer) heap
      (UserStorage.storageGet lmdbStorage database id codes pointer)
      fun result expected next => GivenOut heap next result.2 expected.2 := by
  apply Refines.perform
  rintro ⟨s, begun, failed⟩ _
  apply refines_mallocSize (by decide)
  intro block next hlive
  apply refines_clear hlive
  rintro zeroed rfl hzeroed
  apply (refines_lmdbStorageGet hzeroed rfl id codes.access pointer).bind
  rintro ⟨found, filled⟩ ⟨_, accepted⟩ later - ⟨rfl, rfl, hblock, howned,
    hlater, hnull⟩
  rw [hlive] at hlater
  dsimp only at hnull ⊢
  split
  · rename_i hfound
    rw [hnull hfound, blocks_none, zero_add] at hlater
    apply Refines.perform
    rintro ⟨_, aborted⟩ _
    exact Refines.pure ⟨block, hlater⟩
  · apply Refines.perform
    rintro ⟨_, committed, _⟩ _
    refine Refines.pure ⟨rfl, howned, ?_⟩
    rw [hlater, hblock, blocks_some]

theorem refines_lmdbStoragePut {s : LmdbStorage} {database : Database}
    (howned : Owned heap out) (code : ℤ) :
    Refines (lmdbStoragePut s database out code) heap
      (LmdbOperations.lmdbStoragePut s database out.accepted code)
      fun result expected next => result = expected ∧
        next.live = heap.live := by
  apply (refines_paxosAcceptedToBuffer howned).bind
  rintro ⟨buffer, bytes⟩ data next - ⟨hlive, hbytes, hnone⟩
  dsimp only at hlive hbytes hnone ⊢
  obtain ⟨_ | txn⟩ := s
  · apply Refines.free hlive
    intro last hlast
    exact Refines.pure ⟨rfl, hlast⟩
  · cases data with
    | none =>
        rw [hnone.mpr rfl] at hlive ⊢
        apply Refines.free hlive
        intro last hlast
        exact Refines.pure ⟨rfl, hlast⟩
    | some data =>
        obtain ⟨block, rfl⟩ := Option.ne_none_iff_exists'.mp
          (mt hnone.mp (Option.some_ne_none data))
        apply Refines.access (howned.grow hlive).block
        apply Refines.access (valid_of_live_eq hlive)
        rw [hbytes, Option.getD_some]
        apply Refines.perform
        intro written _
        apply Refines.free hlive
        intro last hlast
        exact Refines.pure ⟨rfl, hlast⟩

theorem refines_storagePut (howned : Owned heap out)
    (lmdbStorage : LmdbStorage) (database : Database) (codes : MdbCodes) :
    Refines (storagePut lmdbStorage database out codes) heap
      (UserStorage.storagePut lmdbStorage database out.accepted codes)
      fun result expected next => result = expected ∧
        next.live = heap.live := by
  apply Refines.perform
  rintro ⟨s, begun, failed⟩ _
  dsimp only
  split
  · exact Refines.pure ⟨rfl, rfl⟩
  · apply (refines_lmdbStoragePut howned codes.access).bind
    rintro ⟨written, result⟩ _ next - ⟨rfl, hlive⟩
    have hcommit : ∀ s written,
        Refines (do
            let (_, committed, failed) ←
              perform (lmdbStorageTxCommit s written codes.txnCommit)
            if failed ≠ 0 then return (committed, (1 : ℤ))
            else return (committed, (0 : ℤ))) next
          (do
            let (_, committed, failed) ←
              lmdbStorageTxCommit s written codes.txnCommit
            if failed ≠ 0 then return (committed, (1 : ℤ))
            else return (committed, (0 : ℤ)))
          fun left right last => left = right ∧ last.live = heap.live := by
      intro s written
      apply Refines.perform
      rintro ⟨_, committed, failed⟩ _
      dsimp only
      split
      · exact Refines.pure ⟨rfl, hlive⟩
      · exact Refines.pure ⟨rfl, hlive⟩
    by_cases hresult : result ≠ 0
    · simp only [if_pos hresult]
      apply Refines.perform
      rintro ⟨s, written⟩ _
      exact hcommit s written
    · simp only [if_neg hresult]
      apply Refines.perform
      rintro ⟨s, written⟩ _
      exact hcommit s written

theorem refines_sendAnswer (howned : Owned heap out) (hnonneg : 0 ≤ out.len)
    (bufferId : Word32) :
    Refines (sendAnswer bufferId out) heap
      (LmdbOperations.clientValueToBuffer ⟨bufferId, out.accepted⟩)
      fun result frame next => result = frame ∧ next.live = heap.live := by
  have hexpected : LmdbOperations.clientValueToBuffer
      ⟨bufferId, out.accepted⟩ = LmdbOperations.clientValueToBuffer
        ⟨bufferId, out.accepted⟩ >>= pure := (bind_pure _).symm
  rw [hexpected]
  apply (refines_clientValueToBuffer howned hnonneg bufferId).bind
  rintro ⟨_, _⟩ frame next - ⟨rfl, msg, rfl, hlive⟩
  dsimp only
  rw [if_pos (Option.some_ne_none msg)]
  apply Refines.access (valid_of_live_eq hlive)
  apply Refines.free hlive
  intro last hlast
  exact Refines.pure ⟨rfl, hlast⟩

/-- Both blocks of a record are freed. -/
theorem exists_freeAccepted {others : Multiset BlockId}
    (howned : Owned heap out)
    (hlive : heap.live = blocks out.value + (blocks out.block + others)) :
    ∃ next, freeAccepted out heap = .ok ((), next) ∧ next.live = others := by
  obtain ⟨middle, hvalue, hmiddle⟩ := exists_free hlive
  obtain ⟨last, hblock, hlast⟩ := exists_free hmiddle
  obtain ⟨block, hmem, hpointer⟩ := howned.block
  refine ⟨last, ?_, hlast⟩
  have haccess : (access out.block : Program Halt Unit) heap =
      .ok ((), heap) := by
    rw [hpointer]
    exact if_pos hmem
  rw [freeAccepted, bind_of_ok haccess, bind_of_ok hvalue, hblock]


/-- Sending a record and freeing it leaves the heap as it was before the
record. -/
theorem refines_answer {others : Multiset BlockId} (howned : Owned heap out)
    (hnonneg : 0 ≤ out.len) (bufferId : Word32)
    (hlive : heap.live = blocks out.value + (blocks out.block + others)) :
    Refines (do
        let frame ← sendAnswer bufferId out
        freeAccepted out
        return frame) heap
      (do
        let frame ←
          LmdbOperations.clientValueToBuffer ⟨bufferId, out.accepted⟩
        return some frame)
      fun result sent next => sent = some result ∧ next.live = others := by
  apply (refines_sendAnswer howned hnonneg bufferId).bind
  rintro frame _ next - ⟨rfl, hnext⟩
  have hsame : next.live = 0 + heap.live := by rw [hnext, zero_add]
  have hstill : Owned next out := howned.grow hsame
  obtain ⟨last, hfree, hlast⟩ :=
    exists_freeAccepted hstill (hnext.trans hlive)
  exact refines_of_bind hfree (Refines.pure ⟨rfl, hlast⟩)

end Functions

/-! ## Lookups that find nothing -/

theorem storageGet_finds {lmdbStorage : LmdbStorage}
    (hhandle : lmdbStorage.txn = none) (view : DatabaseView) (id : Word32)
    (codes : MdbCodes) (pointer : Addr) {next : Database}
    {found : Option UserAccepted}
    (hget : UserStorage.storageGet lmdbStorage view.database id codes pointer =
      .ok (next, found)) :
    found.isSome = Lookup.finds ⟨id, view.database.entries, codes⟩ ∧
      Sized (found.getD UserAccepted.zeroed) := by
  obtain ⟨after, other, hother, -, -, -, hsized⟩ := storageGet_sized hhandle
    view.settled view.storable id codes pointer
  rw [hget, Except.ok.injEq, Prod.mk.injEq] at hother
  refine ⟨?_, hother.2 ▸ hsized⟩
  by_cases hbegin : codes.txnBegin = 0
  · obtain ⟨records, hrepresents, -⟩ := view.storable
    obtain ⟨_, hrecord, -⟩ := storageGet_eq hhandle view.settled hrepresents id
      hbegin pointer
    rw [hget, Except.ok.injEq, Prod.mk.injEq] at hrecord
    simp only [hrecord.2, Lookup.finds, hrepresents.lookup_eq, hbegin,
      Option.isSome_map]
    by_cases haccess : codes.access = 0
    · rw [if_pos haccess, haccess]
      rfl
    · rw [if_neg haccess, beq_false_of_ne haccess]
      rfl
  · rw [storageGet_of_begin_ne_zero hhandle _ hbegin] at hget
    cases hget
    rw [Lookup.finds, beq_false_of_ne hbegin]
    rfl

/-- The lookups that found nothing. -/
def missed (lookups : List Lookup) : ℕ :=
  lookups.countP fun lookup => !lookup.finds

@[simp]
theorem missed_append (first second : List Lookup) :
    missed (first ++ second) = missed first + missed second :=
  List.countP_append

/-! ## Messages -/

/-- Processing without a heap: what is written back, if anything. -/
def processed (isRead : Bool) (lmdbStorage : LmdbStorage)
    (message : ClientValue) (iteration : Iteration) :
    Except Halt (Option (List Byte)) :=
  if isRead then do
    let (_, found) ← UserStorage.storageGet lmdbStorage iteration.view.database
      message.value.header.iid iteration.codes iteration.pointer
    let frame ← LmdbOperations.clientValueToBuffer
      ⟨message.bufferId, found.getD UserAccepted.zeroed⟩
    return some frame
  else do
    let _ ← UserStorage.storagePut lmdbStorage iteration.view.database
      message.value iteration.codes
    return none

/-- What the loop without a heap does with a message. -/
theorem process_eq (isRead : Bool) (side : Side) (message : ClientValue)
    (iteration : Iteration) :
    match processed isRead side.thread.lmdbStorage message iteration with
    | .ok sent =>
        (FailedReads.process isRead side message iteration).1 =
            side.goto .polling ∧
          answeredOf (FailedReads.process isRead side message iteration).2 =
            sent.toList
    | .error _ =>
        (FailedReads.process isRead side message iteration).1 =
            side.goto .aborted ∧
          answeredOf (FailedReads.process isRead side message iteration).2 =
            [] := by
  cases isRead with
  | true =>
      cases hget : UserStorage.storageGet side.thread.lmdbStorage
          iteration.view.database message.value.header.iid iteration.codes
          iteration.pointer with
      | error halt =>
          simp only [processed, FailedReads.process,
            StorageThread.processReadMessage, hget, if_true, bind, Except.bind]
          exact ⟨rfl, rfl⟩
      | ok result =>
          obtain ⟨next, found⟩ := result
          cases hframe : LmdbOperations.clientValueToBuffer
              ⟨message.bufferId, found.getD UserAccepted.zeroed⟩ with
          | error halt =>
              simp only [processed, FailedReads.process,
                StorageThread.processReadMessage, hget, hframe, if_true, bind,
                Except.bind]
              exact ⟨rfl, rfl⟩
          | ok frame =>
              simp only [processed, FailedReads.process,
                StorageThread.processReadMessage, hget, hframe, if_true, bind,
                Except.bind, pure, Except.pure]
              exact ⟨rfl, rfl⟩
  | false =>
      cases hput : UserStorage.storagePut side.thread.lmdbStorage
          iteration.view.database message.value iteration.codes with
      | error halt =>
          simp only [processed, FailedReads.process,
            StorageThread.processWriteMessage, hput, bind, Except.bind]
          exact ⟨rfl, rfl⟩
      | ok result =>
          simp only [processed, FailedReads.process,
            StorageThread.processWriteMessage, hput, bind, Except.bind, pure,
            Except.pure]
          exact ⟨rfl, rfl⟩

section Messages

variable {heap : Heap} {out : Allocated} {iteration : Iteration}
variable {lmdbStorage : LmdbStorage}

theorem refines_processReadMessage (hhandle : lmdbStorage.txn = none)
    (howned : Owned heap out) (bufferId : Word32) :
    Refines (processReadMessage lmdbStorage iteration.view.database bufferId
        out iteration.codes iteration.pointer) heap
      (processed true lmdbStorage ⟨bufferId, out.accepted⟩ iteration)
      fun frame sent next => sent = some frame ∧
        ∃ leaked, next.live = leaked + heap.live ∧
        leaked.card = missed [⟨out.accepted.header.iid,
          iteration.view.database.entries, iteration.codes⟩] := by
  apply Refines.access howned.block
  apply (refines_storageGet _ _ _ _ _).bind
  rintro ⟨_, result⟩ ⟨next, found⟩ later hget hgiven
  obtain ⟨hfinds, hsized⟩ := storageGet_finds hhandle iteration.view _ _ _ hget
  have hmissed : missed [⟨out.accepted.header.iid,
      iteration.view.database.entries, iteration.codes⟩] =
        if found.isSome then 0 else 1 := by
    rw [hfinds, missed, List.countP_singleton]
    cases Lookup.finds _ <;> rfl
  rw [hmissed]
  cases result with
  | some record =>
      cases found with
      | none => exact hgiven.elim
      | some accepted =>
          obtain ⟨rfl, hrecord, hlive⟩ := hgiven
          apply (refines_answer hrecord hsized.len_nonneg bufferId hlive).weaken
          rintro _ _ last - ⟨hsent, hlast⟩
          exact ⟨hsent, 0, by rw [hlast, zero_add], rfl⟩
  | none =>
      cases found with
      | some accepted => exact hgiven.elim
      | none =>
          obtain ⟨leaked, hlive⟩ := hgiven
          apply refines_mallocSize (by decide)
          intro block cleared hcleared
          apply refines_clear hcleared
          rintro zeroed rfl hzeroed
          have hstart : cleared.live = blocks none +
              (blocks (some block) + later.live) := by
            rw [hcleared, blocks_none, blocks_some, zero_add]
          apply (refines_answer hzeroed le_rfl bufferId hstart).weaken
          rintro _ _ last - ⟨hsent, hlast⟩
          exact ⟨hsent, {leaked}, hlast.trans hlive, rfl⟩

theorem refines_processWriteMessage (howned : Owned heap out)
    (bufferId : Word32) :
    Refines (processWriteMessage lmdbStorage iteration.view.database out
        iteration.codes) heap
      (processed false lmdbStorage ⟨bufferId, out.accepted⟩ iteration)
      fun _ sent next => sent = none ∧ next.live = heap.live := by
  apply Refines.access howned.block
  apply (refines_storagePut howned _ _ _).bind
  rintro result _ next - ⟨-, hlive⟩
  exact Refines.pure ⟨rfl, hlive⟩

/-- The calls of `storage_get` behind an answer, and the blocks they have
left behind. -/
structure Leaves (heap next : Heap) (lookups : List Lookup)
    (sent : Option (List Byte)) : Prop where
  answered : lookups.length = sent.toList.length
  live : ∃ leaked, next.live = leaked + heap.live ∧
    leaked.card = missed lookups

theorem refines_process (isRead : Bool) (hhandle : lmdbStorage.txn = none)
    (howned : Owned heap out) (bufferId : Word32) :
    Refines (process isRead lmdbStorage bufferId out iteration) heap
      (processed isRead lmdbStorage ⟨bufferId, out.accepted⟩ iteration)
      fun lookups sent next => Leaves heap next lookups sent ∧
        (isRead = false → lookups = []) := by
  cases isRead with
  | true =>
      have hexpected := (bind_pure
        (processed true lmdbStorage ⟨bufferId, out.accepted⟩ iteration)).symm
      rw [hexpected]
      apply (refines_processReadMessage hhandle howned bufferId).bind
      rintro frame _ next - ⟨rfl, hlive⟩
      exact Refines.pure ⟨⟨rfl, hlive⟩, fun hwrite => nomatch hwrite⟩
  | false =>
      have hexpected := (bind_pure
        (processed false lmdbStorage ⟨bufferId, out.accepted⟩ iteration)).symm
      rw [hexpected]
      apply (refines_processWriteMessage howned bufferId).bind
      rintro _ _ next - ⟨rfl, hlive⟩
      exact Refines.pure ⟨⟨rfl, 0, by rw [hlive, zero_add], rfl⟩,
        fun _ => rfl⟩

/-- Decoding and processing without a heap. -/
def handled (isRead : Bool) (side : Side) (iteration : Iteration) :
    Except Halt (Option (List Byte)) := do
  let buffer := side.thread.recv ++ iteration.behind
  let accepted ← LmdbOperations.bufferToPaxosAccepted (buffer.drop sizeofInt)
    iteration.pointer
  processed isRead side.thread.lmdbStorage
    ⟨readWord 32 (slice 0 sizeofInt buffer), accepted⟩ iteration

/-- A message leaves behind what its lookup does, and nothing of its own. -/
theorem refines_handleMessage (isRead : Bool) {state : ThreadState}
    (hhandle : state.side.thread.lmdbStorage.txn = none)
    (hrecv : state.heap.Valid state.recv)
    (haccepted : state.heap.Valid state.accepted) (iteration : Iteration) :
    Refines (handleMessage isRead state iteration) state.heap
      (handled isRead state.side iteration)
      fun lookups sent next => Leaves state.heap next lookups sent ∧
        (isRead = false → lookups = []) := by
  apply Refines.access hrecv
  apply (refines_bufferToPaxosAccepted haccepted _ _).bind
  rintro value _ decoded - ⟨rfl, -, hvalue, hdecoded⟩
  apply refines_mallocSize (by decide)
  intro message allocated hallocated
  apply Refines.access (valid_of_live_eq hallocated)
  have hexpected := (bind_pure (processed isRead
    state.side.thread.lmdbStorage ⟨readWord 32 (slice 0 sizeofInt
      (state.side.thread.recv ++ iteration.behind)), value.accepted⟩
      iteration)).symm
  rw [hexpected]
  apply (refines_process isRead hhandle (hvalue.grow hallocated) _).bind
  rintro lookups sent next - ⟨⟨hanswered, leaked, hlive, hcard⟩, hwrites⟩
  apply Refines.access ((valid_of_live_eq hallocated).grow hlive)
  apply Refines.access ((hvalue.grow hallocated).block.grow hlive)
  have hfreeValue : next.live = blocks value.value +
      (blocks (some message) + (leaked + state.heap.live)) := by
    rw [hlive, hallocated, hdecoded, blocks_some]
    abel
  apply Refines.free hfreeValue
  intro middle hmiddle
  apply Refines.free hmiddle
  intro last hlast
  exact Refines.pure ⟨⟨hanswered, leaked, hlast, hcard⟩, hwrites⟩

end Messages

/-- What the loop without a heap makes of a buffer. -/
theorem handleMessage_eq (isRead : Bool) (side : Side)
    (iteration : Iteration) :
    match handled isRead side iteration with
    | .ok sent =>
        (FailedReads.handleMessage isRead side iteration).1 =
            side.goto .polling ∧
          answeredOf (FailedReads.handleMessage isRead side iteration).2 =
            sent.toList
    | .error _ =>
        (FailedReads.handleMessage isRead side iteration).1 =
            side.goto .aborted ∧
          answeredOf (FailedReads.handleMessage isRead side iteration).2 =
            [] := by
  cases hdecode : LmdbOperations.bufferToPaxosAccepted
      ((side.thread.recv ++ iteration.behind).drop sizeofInt)
      iteration.pointer with
  | error halt =>
      simp only [handled, FailedReads.handleMessage, decodeMessage, hdecode,
        bind, Except.bind]
      exact ⟨trivial, rfl⟩
  | ok accepted =>
      simp only [handled, FailedReads.handleMessage, decodeMessage, hdecode,
        bind, Except.bind, pure, Except.pure]
      exact process_eq isRead side _ iteration

/-! ## Runs -/

/-- The books of a thread: unless it was aborted, its two buffers are there,
and besides them one block for each lookup that found nothing. -/
structure Kept (isRead : Bool) (state : ThreadState) (lookups : List Lookup)
    (side : Side) (history : List LoopEvent) : Prop where
  side_eq : side = state.side
  txn_eq : state.side.thread.lmdbStorage.txn = none
  recv : state.recv ≠ none
  accepted : state.accepted ≠ none
  stage : state.side.thread.stage = .polling ∨
    state.side.thread.stage = .aborted
  live : state.side.thread.stage ≠ .aborted → ∃ leaked,
    state.heap.live = leaked + (blocks state.recv + blocks state.accepted) ∧
      leaked.card = missed lookups
  answered : (answeredOf history).length = lookups.length
  writes : isRead = false → lookups = []

theorem kept_start (isRead : Bool) (device : PaxosKernelDevice)
    (recv : Block slotSize) :
    Kept isRead (ThreadState.start device recv) []
      ⟨device, Thread.start recv⟩ [] where
  side_eq := rfl
  txn_eq := rfl
  recv := Option.some_ne_none _
  accepted := Option.some_ne_none _
  stage := Or.inl rfl
  live _ := ⟨0, show Heap.empty.alloc.alloc.live = 0 + ({0} + {1}) by decide,
    rfl⟩
  answered := rfl
  writes _ := rfl

section Steps

variable {isRead : Bool} {state : ThreadState} {lookups : List Lookup}
variable {side : Side} {history : List LoopEvent}

/-- Nothing but the buffer has changed. -/
theorem Kept.receive (hkept : Kept isRead state lookups side history)
    (recv : List Byte) :
    Kept isRead { state with side := receive state.side recv } lookups
      (receive state.side recv) history where
  side_eq := rfl
  txn_eq := hkept.txn_eq
  recv := hkept.recv
  accepted := hkept.accepted
  stage := hkept.stage
  live := hkept.live
  answered := hkept.answered
  writes := hkept.writes

theorem answeredOf_events (isRead : Bool) (result : ReadResult) :
    answeredOf (result.events isRead) = [] := by
  cases result with
  | failed copied => rfl
  | stopped => rfl
  | delivered bufferId bytes =>
      rw [ReadResult.events]
      split
      · rfl
      · rfl

theorem Kept.append_nil (hkept : Kept isRead state lookups side history) :
    Kept isRead state (lookups ++ []) side (history ++ []) := by
  rwa [List.append_nil, List.append_nil]

/-- A message that has been handled, with and without the heap. -/
theorem Kept.handled (hkept : Kept isRead state lookups side history)
    (hpolling : state.side.thread.stage = .polling) (iteration : Iteration)
    {received : List LoopEvent} (hreceived : answeredOf received = []) :
    ∃ next more,
      state.settle (handleMessage isRead state iteration state.heap) =
        .ok (next, more) ∧
      Kept isRead next (lookups ++ more)
        (FailedReads.handleMessage isRead state.side iteration).1
        (history ++ (received ++
          (FailedReads.handleMessage isRead state.side iteration).2)) := by
  obtain ⟨recv, hrecv⟩ := Option.ne_none_iff_exists'.mp hkept.recv
  obtain ⟨accepted, haccepted⟩ := Option.ne_none_iff_exists'.mp hkept.accepted
  obtain ⟨leaked, hlive, hcard⟩ := hkept.live (by rw [hpolling]; nofun)
  have hrecvLive : state.heap.live =
      {recv} + (leaked + blocks state.accepted) := by
    rw [hlive, hrecv, blocks_some]
    abel
  have hacceptedLive : state.heap.live =
      {accepted} + (leaked + blocks state.recv) := by
    rw [hlive, haccepted, blocks_some]
    abel
  have hrefines := refines_handleMessage isRead hkept.txn_eq
    (hrecv ▸ valid_of_live_eq hrecvLive)
    (haccepted ▸ valid_of_live_eq hacceptedLive) iteration
  have hloop := handleMessage_eq isRead state.side iteration
  cases hexpected : ThreadHeap.handled isRead state.side iteration with
  | error halt =>
      rw [hexpected] at hrefines hloop
      have hprogram : handleMessage isRead state iteration state.heap =
          .error (.halt halt) := hrefines
      refine ⟨{ state with side := state.side.goto .aborted }, [], ?_, ?_⟩
      · rw [hprogram]
        rfl
      · exact {
          side_eq := hloop.1
          txn_eq := hkept.txn_eq
          recv := hkept.recv
          accepted := hkept.accepted
          stage := Or.inr rfl
          live := fun hstage => absurd rfl hstage
          answered := by
            rw [answeredOf_append, answeredOf_append, hreceived, hloop.2,
              List.append_nil, List.append_nil, List.append_nil]
            exact hkept.answered
          writes := fun hwrite => by rw [hkept.writes hwrite, List.append_nil] }
  | ok sent =>
      rw [hexpected] at hrefines hloop
      obtain ⟨more, heap, hprogram, ⟨hanswered, grown, hgrown, hmissed⟩,
        hwrites⟩ := hrefines
      refine ⟨{ state with side := state.side.goto .polling, heap := heap },
        more, ?_, ?_⟩
      · rw [hprogram]
        rfl
      · exact {
          side_eq := hloop.1
          txn_eq := hkept.txn_eq
          recv := hkept.recv
          accepted := hkept.accepted
          stage := Or.inl rfl
          live := fun _ => ⟨grown + leaked,
            by rw [hgrown, hlive, add_assoc],
            by rw [Multiset.card_add, hmissed, hcard, missed_append, add_comm]⟩
          answered := by
            rw [answeredOf_append, answeredOf_append, hreceived, hloop.2,
              List.nil_append, List.length_append, List.length_append,
              hkept.answered, hanswered]
          writes := fun hwrite => by
            rw [hkept.writes hwrite, hwrites hwrite, List.append_nil] }

/-- An iteration with and without the heap. -/
theorem heapLoop_step (hkept : Kept isRead state lookups side history)
    (iteration : Iteration) :
    ∃ next more following events,
      heapLoop isRead state iteration = .ok (next, more) ∧
      storageLoop isRead side iteration = .ok (following, events) ∧
      Kept isRead next (lookups ++ more) following (history ++ events) := by
  obtain rfl := hkept.side_eq
  obtain hpolling | haborted := hkept.stage
  · by_cases hreadable : iteration.readable = true
    · have hreceive := hkept.receive (iteration.result.recv
        state.side.thread.recv)
      by_cases hlen : iteration.result.len isRead = 0
      · refine ⟨_, [], _, [], ?_, ?_, hreceive.append_nil⟩
        · simp only [heapLoop, hpolling, hreadable, hlen]
          rfl
        · simp only [storageLoop, hpolling, hreadable, hlen]
          rfl
      · obtain ⟨next, more, hhandled, hnext⟩ := hreceive.handled hpolling
          iteration (answeredOf_events isRead iteration.result)
        refine ⟨next, more, _, _, ?_, ?_, hnext⟩
        · simp only [heapLoop, hpolling, hreadable, hlen]
          exact hhandled
        · simp only [storageLoop, hpolling, hreadable, hlen]
          rfl
    · refine ⟨state, [], state.side, [], ?_, ?_, hkept.append_nil⟩
      · simp only [heapLoop, hpolling, hreadable]
        rfl
      · simp only [storageLoop, hpolling, hreadable]
        rfl
  · refine ⟨state, [], state.side, [], ?_, ?_, hkept.append_nil⟩
    · simp only [heapLoop, haborted]
    · simp only [storageLoop, haborted]

end Steps

theorem run_kept (isRead : Bool) (device : PaxosKernelDevice)
    (recv : Block slotSize) (iterations : List Iteration) :
    ∃ state lookups side history,
      run (heapLoop isRead) (ThreadState.start device recv) iterations =
        .ok (state, lookups) ∧
      run (storageLoop isRead) ⟨device, Thread.start recv⟩ iterations =
        .ok (side, history) ∧
      Kept isRead state lookups side history := by
  obtain ⟨state, lookups, side, history, hrun, hloop, hkept⟩ :=
    run_of_paired (Kept isRead)
      (fun _ _ _ _ iteration hkept => heapLoop_step hkept iteration)
      (kept_start isRead device recv) iterations
  exact ⟨state, lookups, side, history, hrun, hloop, hkept⟩

/-- A thread that is stopped and frees its buffers has leaked one block for
each lookup that found nothing, and nothing else; the writer leaks nothing. -/
theorem leaked_eq_missed {isRead : Bool} {device : PaxosKernelDevice}
    {recv : Block slotSize} {iterations : List Iteration} {state : ThreadState}
    {lookups : List Lookup}
    (hrun : run (heapLoop isRead) (ThreadState.start device recv) iterations =
      .ok (state, lookups))
    (halive : state.side.thread.stage ≠ .aborted) :
    ∃ heap, freeBuffers state state.heap = .ok ((), heap) ∧
      heap.live.card = missed lookups ∧ (isRead = false → heap.live = 0) := by
  obtain ⟨_, _, _, _, hsame, -, hkept⟩ :=
    run_kept isRead device recv iterations
  rw [hrun, Except.ok.injEq, Prod.mk.injEq] at hsame
  obtain ⟨rfl, rfl⟩ := hsame
  obtain ⟨leaked, hlive, hcard⟩ := hkept.live halive
  have hrecv : state.heap.live =
      blocks state.recv + (blocks state.accepted + leaked) := by
    rw [hlive]
    abel
  obtain ⟨middle, hfirst, hmiddle⟩ := exists_free hrecv
  obtain ⟨last, hsecond, hlast⟩ := exists_free hmiddle
  refine ⟨last, ?_, hlast ▸ hcard, fun hwrite => ?_⟩
  · rw [freeBuffers, bind_of_ok hfirst, hsecond]
  · rw [hkept.writes hwrite] at hcard
    exact hlast.trans (Multiset.card_eq_zero.mp hcard)

/-- Whether a thread is still polling, and its lookups that found nothing. -/
def observedLookups (state : ThreadState) (lookups : List Lookup) :
    Bool × ℕ :=
  (match state.side.thread.stage with
    | .polling => true
    | _ => false, missed lookups)

theorem not_aborted_of_observedLookups {state : ThreadState}
    {lookups : List Lookup} {count : ℕ}
    (hobserved : observedLookups state lookups = (true, count)) :
    state.side.thread.stage ≠ .aborted := by
  intro haborted
  rw [observedLookups, haborted] at hobserved
  cases hobserved

/-- A request that is processed twice, its number being stored nowhere, has
leaked two blocks. -/
theorem leaked_eq_missed_sample :
    ∃ (state : ThreadState) (heap : Heap),
      freeBuffers state state.heap = .ok ((), heap) ∧ heap.live.card = 2 := by
  have hobserved : observeRun (heapLoop true) observedLookups
      (ThreadState.start (kdevcharInit zeroMemory) (Block.zero slotSize))
      failedAfterDelivery = some (true, 2) := by
    decide +kernel
  obtain ⟨state, lookups, hrun, hview⟩ := run_of_observeRun hobserved
  obtain ⟨heap, hfree, hcard, -⟩ :=
    leaked_eq_missed hrun (not_aborted_of_observedLookups hview)
  exact ⟨state, heap, hfree, hcard.trans (congrArg Prod.snd hview)⟩

end PaxosPersistence.ThreadHeap
