import PaxosPersistence.Core.TransactionalMap
import PaxosPersistence.Kernel.Memory
import PaxosPersistence.Kernel.PaxosTypes

/-!
# The database layer

A record is stored as the image of its structure followed by its value bytes,
under the four bytes of its instance number.  The image includes whatever the
value pointer happened to be; decoding replaces it.  The database itself is a
transactional map of byte strings whose calls return the code given with each
of them, zero for success.
-/

namespace PaxosPersistence.LmdbOperations

open PaxosPersistence.ByteBlock
open PaxosPersistence.Memory
open PaxosPersistence.PaxosTypes
open PaxosPersistence.TransactionalMap

abbrev Database := Store (List Byte) (List Byte)

/-- `struct lmdb_storage`, without the environment and the database handle,
which are fixed once the storage is open. -/
structure LmdbStorage where
  txn : Option ℕ
  deriving DecidableEq

/-- A `paxos_accepted` of the storage process, with the bytes that its value
pointer leads to. -/
structure UserAccepted where
  header : PaxosAccepted
  value : List Byte
  length_eq : value.length = header.value.paxosValueLen.toInt.toNat
  deriving DecidableEq

/-- A call on a transaction that was begun must find it live. -/
def live {A : Type*} : Option A → Except Halt A
  | some value => .ok value
  | none => .error .transaction

@[simp]
theorem live_some {A : Type*} (value : A) : live (some value) = .ok value := rfl

/-- `malloc` refuses what exceeds `PTRDIFF_MAX`; anything less is granted. -/
def mallocFails (size : ℕ) : Bool :=
  2 ^ 63 ≤ size

/-- `MDB_BAD_VALSIZE`, the code for data of an unsupported size. -/
def mdbBadValsize : ℤ := -30781

/-- `EINVAL`, the code of `mdb_put` and `mdb_get` without a transaction. -/
def mdbEinval : ℤ := 22

theorem UserAccepted.length_nil :
    ([] : List Byte).length = (0 : Word32).toInt.toNat := rfl

/-- `memset(out, 0, sizeof(paxos_accepted))` -/
def UserAccepted.zeroed : UserAccepted where
  header := ⟨0, 0, 0, 0, 0, 0, ⟨0, 0, 0⟩⟩
  value := []
  length_eq := UserAccepted.length_nil

/-! ## Records and bytes -/

/-- `buffer_to_paxos_accepted`; `pointer` is what `malloc` returns. -/
def bufferToPaxosAccepted (buffer : List Byte) (pointer : Addr) :
    Except Halt UserAccepted :=
  let out := PaxosAccepted.ofImage buffer
  let len := out.value.paxosValueLen.toInt
  if buffer.length < sizeofPaxosAccepted then .error .memory
  else if hpositive : 0 < len then
    if hvalue : sizeofPaxosAccepted + len.toNat ≤ buffer.length then
      .ok
        { header :=
            { out with value := { out.value with paxosValueVal := pointer } }
          value := slice sizeofPaxosAccepted len.toNat buffer
          length_eq := length_slice_of_le hvalue }
    else .error .memory
  else
    .ok
      { header := { out with value := { out.value with paxosValueVal := 0 } }
        value := []
        length_eq := (Int.toNat_of_nonpos (not_lt.mp hpositive)).symm }

/-- `paxos_accepted_to_buffer`.  A negative length becomes a huge `size_t`:
either the sum wraps and the buffer is too small for the structure, or it does
not and the allocation fails. -/
def paxosAcceptedToBuffer (accepted : UserAccepted) :
    Except Halt (Option (List Byte)) :=
  let size := sizeOfLen accepted.header.value.paxosValueLen
  if mallocFails size then .ok none
  else if size < sizeofPaxosAccepted then .error .memory
  else .ok (some (accepted.header.toImage ++ accepted.value))

/-- `struct client_value` -/
structure ClientValue where
  bufferId : Word32
  value : UserAccepted
  deriving DecidableEq

/-- `client_value_to_buffer`, up to the end of the record; the buffer is
larger, and nothing of the rest is set. -/
def clientValueToBuffer (client : ClientValue) :
    Except Halt (List Byte) := do
  let accepted ← paxosAcceptedToBuffer client.value
  return wordBytes sizeofInt client.bufferId ++ accepted.getD []

/-! ## Transactions -/

/-- The key of an instance number. -/
def keyOf (iid : Word32) : List Byte :=
  wordBytes 4 iid

/-- `lmdb_storage_tx_begin` -/
def lmdbStorageTxBegin (s : LmdbStorage) (database : Database) (code : ℤ) :
    Except Halt (LmdbStorage × Database × ℤ) :=
  if s.txn ≠ none then .error .assertion
  else
    let begun := database.txnBegin (code == 0)
    .ok ({ s with txn := begun.2 }, begun.1, code)

/-- `lmdb_storage_tx_commit` -/
def lmdbStorageTxCommit (s : LmdbStorage) (database : Database) (code : ℤ) :
    Except Halt (LmdbStorage × Database × ℤ) :=
  match s.txn with
  | none => .error .assertion
  | some txn => do
      let committed ← live (database.commit txn (code == 0))
      return ({ s with txn := none }, committed, code)

/-- `lmdb_storage_tx_abort` -/
def lmdbStorageTxAbort (s : LmdbStorage) (database : Database) :
    Except Halt (LmdbStorage × Database) :=
  match s.txn with
  | none => .ok (s, database)
  | some txn => do
      let aborted ← live (database.abort txn)
      return ({ s with txn := none }, aborted)

/-- `lmdb_storage_put` -/
def lmdbStoragePut (s : LmdbStorage) (database : Database)
    (accepted : UserAccepted) (code : ℤ) : Except Halt (Database × ℤ) := do
  let buffer ← paxosAcceptedToBuffer accepted
  match s.txn, buffer with
  | none, _ => return (database, mdbEinval)
  | some _, none => return (database, if code = 0 then mdbBadValsize else code)
  | some txn, some data =>
      let written ← live
        (database.put txn (keyOf accepted.header.iid) data (code == 0))
      return (written, code)

/-- The data that `mdb_get` finds under a number.  Without a transaction it
returns `EINVAL`, which is a failure like any other. -/
def mdbGet (s : LmdbStorage) (database : Database) (iid : Word32)
    (code : ℤ) : Except Halt (Option (List Byte)) :=
  match s.txn with
  | none => .ok none
  | some txn => live (database.get txn (keyOf iid) (code == 0))

/-- `lmdb_storage_get` over any decoder: the return value and the output
structure. -/
def lmdbStorageGetBy (decode : List Byte → Except Halt UserAccepted)
    (s : LmdbStorage) (database : Database) (iid : Word32)
    (out : UserAccepted) (code : ℤ) : Except Halt (ℤ × UserAccepted) := do
  let data ← mdbGet s database iid code
  match data with
  | none => return (0, out)
  | some data =>
      let decoded ← decode data
      if iid ≠ decoded.header.iid then .error .assertion
      else return (1, decoded)

/-- `lmdb_storage_get`; `pointer` is what `malloc` returns for the value. -/
def lmdbStorageGet (s : LmdbStorage) (database : Database) (iid : Word32)
    (out : UserAccepted) (code : ℤ) (pointer : Addr) :
    Except Halt (ℤ × UserAccepted) :=
  lmdbStorageGetBy (bufferToPaxosAccepted · pointer) s database iid out code

/-! ## Encoding and decoding -/

/-- The bytes a record is stored as. -/
def UserAccepted.encode (accepted : UserAccepted) : List Byte :=
  accepted.header.toImage ++ accepted.value

/-- What a record says, whatever its pointer is. -/
def UserAccepted.record (accepted : UserAccepted) : PaxosRecord :=
  accepted.header.record accepted.value

/-- The write by which a record is stored. -/
def UserAccepted.entry (accepted : UserAccepted) : List Byte × List Byte :=
  (keyOf accepted.header.iid, accepted.encode)

/-- The record with the pointer that decoding gives it. -/
def UserAccepted.relocate (accepted : UserAccepted) (pointer : Addr) :
    UserAccepted where
  header :=
    { accepted.header with
      value :=
        { accepted.header.value with
          paxosValueVal :=
            if 0 < accepted.header.value.paxosValueLen.toInt then pointer
            else 0 } }
  value := accepted.value
  length_eq := accepted.length_eq

@[simp]
theorem UserAccepted.record_relocate (accepted : UserAccepted)
    (pointer : Addr) : (accepted.relocate pointer).record = accepted.record :=
  rfl

@[simp]
theorem UserAccepted.length_encode (accepted : UserAccepted) :
    accepted.encode.length =
      sizeofPaxosAccepted + accepted.header.value.paxosValueLen.toInt.toNat := by
  rw [encode, List.length_append, PaxosAccepted.length_toImage,
    accepted.length_eq]

theorem keyOf_injective : Function.Injective keyOf := by
  intro left right hkey
  exact wordBytes_injective PaxosAccepted.word32_width hkey

theorem ext_userAccepted {left right : UserAccepted}
    (hheader : left.header = right.header) (hvalue : left.value = right.value) :
    left = right := by
  cases left
  cases right
  cases hheader
  cases hvalue
  rfl

/-- Decoding undoes encoding, for every length and whatever follows. -/
theorem bufferToPaxosAccepted_encode (accepted : UserAccepted)
    (rest : List Byte) (pointer : Addr) :
    bufferToPaxosAccepted (accepted.encode ++ rest) pointer =
      .ok (accepted.relocate pointer) := by
  have himage : PaxosAccepted.ofImage (accepted.encode ++ rest) =
      accepted.header := by
    rw [UserAccepted.encode, List.append_assoc,
      PaxosAccepted.ofImage_toImage_append]
  have hlength := accepted.length_encode
  have hlong : ¬ (accepted.encode ++ rest).length < sizeofPaxosAccepted := by
    rw [List.length_append, hlength]
    omega
  simp only [bufferToPaxosAccepted, himage]
  rw [if_neg hlong]
  by_cases hpositive : 0 < accepted.header.value.paxosValueLen.toInt
  · have hvalue : slice sizeofPaxosAccepted
        accepted.header.value.paxosValueLen.toInt.toNat
        (accepted.encode ++ rest) = accepted.value := by
      have himageLength := accepted.header.length_toImage
      rw [UserAccepted.encode, List.append_assoc,
        slice_append_right himageLength.le, himageLength, Nat.sub_self,
        ← accepted.length_eq, slice_append_left (Nat.zero_add _).le, slice_zero,
        List.take_length]
    have hroom : sizeofPaxosAccepted +
        accepted.header.value.paxosValueLen.toInt.toNat ≤
          (accepted.encode ++ rest).length := by
      rw [List.length_append, hlength]
      omega
    rw [dif_pos hpositive, dif_pos hroom]
    refine congrArg Except.ok (ext_userAccepted ?_ hvalue)
    simp only [UserAccepted.relocate, if_pos hpositive]
  · have hempty : accepted.value = [] := by
      apply List.eq_nil_of_length_eq_zero
      rw [accepted.length_eq, Int.toNat_of_nonpos (not_lt.mp hpositive)]
    rw [dif_neg hpositive]
    refine congrArg Except.ok (ext_userAccepted ?_ hempty.symm)
    simp only [UserAccepted.relocate, if_neg hpositive]

/-- A structure with as much behind it as it claims is decoded to the record
it is the image of. -/
theorem bufferToPaxosAccepted_of_fits {buffer : List Byte}
    (hheader : sizeofPaxosAccepted ≤ buffer.length)
    (hvalue : sizeofPaxosAccepted +
      (PaxosAccepted.ofImage buffer).value.paxosValueLen.toInt.toNat ≤
        buffer.length) (pointer : Addr) :
    ∃ accepted, bufferToPaxosAccepted buffer pointer = .ok accepted ∧
      accepted.record = imageRecord buffer ∧
      accepted.header.value.paxosValueLen =
        (PaxosAccepted.ofImage buffer).value.paxosValueLen := by
  by_cases hpositive :
      0 < (PaxosAccepted.ofImage buffer).value.paxosValueLen.toInt
  · rw [bufferToPaxosAccepted, if_neg (not_lt.mpr hheader), dif_pos hpositive,
      dif_pos hvalue]
    refine ⟨_, rfl, ?_, rfl⟩
    simp only [UserAccepted.record, PaxosAccepted.record, imageRecord, slice,
      List.take_take, Nat.min_self]
  · rw [bufferToPaxosAccepted, if_neg (not_lt.mpr hheader), dif_neg hpositive]
    refine ⟨_, rfl, ?_, rfl⟩
    simp only [UserAccepted.record, PaxosAccepted.record, imageRecord,
      Int.toNat_of_nonpos (not_lt.mp hpositive), List.take_zero]

/-- The image of a record that was encoded. -/
theorem imageRecord_encode (accepted : UserAccepted) :
    imageRecord accepted.encode = accepted.record := by
  have hdrop : accepted.encode.drop sizeofPaxosAccepted = accepted.value := by
    rw [UserAccepted.encode, ← accepted.header.length_toImage, List.drop_left]
  rw [imageRecord, hdrop, UserAccepted.encode,
    PaxosAccepted.ofImage_toImage_append]
  rfl

/-- A record with a length that is not negative can be encoded. -/
theorem paxosAcceptedToBuffer_eq {accepted : UserAccepted}
    (hlen : 0 ≤ accepted.header.value.paxosValueLen.toInt) :
    paxosAcceptedToBuffer accepted = .ok (some accepted.encode) := by
  have hsize := sizeOfLen_eq accepted.header.value.paxosValueLen (by
    simp only [sizeofPaxosAccepted]
    omega)
  have hbound := accepted.header.value.paxosValueLen.toInt_lt
  simp only [sizeofPaxosAccepted] at hsize
  have hgranted : mallocFails
      (sizeOfLen accepted.header.value.paxosValueLen) = false := by
    rw [mallocFails, decide_eq_false_iff_not]
    norm_num at hbound ⊢
    omega
  have hfits : ¬ sizeOfLen accepted.header.value.paxosValueLen <
      sizeofPaxosAccepted := by
    simp only [sizeofPaxosAccepted]
    omega
  simp only [paxosAcceptedToBuffer, hgranted, if_neg hfits]
  rfl

end PaxosPersistence.LmdbOperations
