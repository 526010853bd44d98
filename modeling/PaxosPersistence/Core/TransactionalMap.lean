import Mathlib

/-!
# A transactional map

A store maps keys to values.  A transaction collects writes; committing makes
them durable in order, aborting drops them, and either one ends it.  Every call
may fail: a failed begin opens nothing, a failed write adds nothing, and a
failed commit drops the writes but still ends the transaction.  A call on a
transaction that is not live has no result.
-/

namespace PaxosPersistence.TransactionalMap

variable {Key Value : Type*} [DecidableEq Key]

/-- Apply writes in order; a later write to a key hides an earlier one. -/
def applyWrites (entries : Key → Option Value) (writes : List (Key × Value)) :
    Key → Option Value :=
  writes.foldl (fun current write => Function.update current write.1 (some write.2))
    entries

@[simp]
theorem applyWrites_nil (entries : Key → Option Value) :
    applyWrites entries [] = entries := rfl

theorem applyWrites_append (entries : Key → Option Value)
    (first second : List (Key × Value)) :
    applyWrites entries (first ++ second) =
      applyWrites (applyWrites entries first) second :=
  List.foldl_append

@[simp]
theorem applyWrites_singleton (entries : Key → Option Value)
    (write : Key × Value) :
    applyWrites entries [write] =
      Function.update entries write.1 (some write.2) := rfl

/-- What is found was there before or has been written. -/
theorem applyWrites_eq_some {entries : Key → Option Value}
    {writes : List (Key × Value)} {key : Key} {value : Value}
    (hfound : applyWrites entries writes key = some value) :
    entries key = some value ∨ (key, value) ∈ writes := by
  induction writes using List.reverseRecOn with
  | nil => exact Or.inl hfound
  | append_singleton writes write ih =>
      rw [applyWrites_append, applyWrites_singleton] at hfound
      by_cases hkey : key = write.1
      · rw [hkey, Function.update_self] at hfound
        rw [hkey, ← Option.some.inj hfound]
        exact Or.inr (List.mem_append_right writes List.mem_cons_self)
      · rw [Function.update_of_ne hkey] at hfound
        exact (ih hfound).imp_right (List.mem_append_left [write])

/-- What is written once under a key is found there. -/
theorem applyWrites_of_mem {entries : Key → Option Value}
    {writes : List (Key × Value)} (hnodup : (writes.map Prod.fst).Nodup)
    {key : Key} {value : Value} (hmem : (key, value) ∈ writes) :
    applyWrites entries writes key = some value := by
  induction writes using List.reverseRecOn with
  | nil => cases hmem
  | append_singleton writes write ih =>
      rw [List.map_append, List.map_singleton, ← List.concat_eq_append,
        List.nodup_concat] at hnodup
      rw [applyWrites_append, applyWrites_singleton]
      rcases List.mem_append.mp hmem with hbefore | hlast
      · have hkey : key ≠ write.1 := fun hsame =>
          hnodup.1 (hsame ▸ List.mem_map_of_mem hbefore)
        rw [Function.update_of_ne hkey]
        exact ih hnodup.2 hbefore
      · rw [← List.mem_singleton.mp hlast, Function.update_self]

/-- When every value carries its own key, the map holds the last value written
under each key. -/
theorem applyWrites_map_eq_find? (keyOf : Value → Key) (values : List Value) :
    applyWrites (fun _ => none) (values.map fun value => (keyOf value, value)) =
      fun key => values.reverse.find? fun value => keyOf value = key := by
  induction values using List.reverseRecOn with
  | nil => rfl
  | append_singleton values value ih =>
      funext key
      rw [List.map_append, applyWrites_append, ih, List.map_singleton,
        applyWrites_singleton, List.reverse_append, List.reverse_singleton,
        List.singleton_append, List.find?_cons]
      by_cases hkey : keyOf value = key
      · subst hkey
        simp
      · simp [Function.update_of_ne (Ne.symm hkey), hkey]

/-- The durable map, the writes of every live transaction, the number of
transactions begun so far, and the ended ones with what they made durable. -/
structure Store (Key Value : Type*) where
  entries : Key → Option Value
  pending : ℕ → Option (List (Key × Value))
  begun : ℕ
  closed : List (ℕ × List (Key × Value))

namespace Store

/-- A store with the given entries that has never seen a transaction. -/
def ofEntries (entries : Key → Option Value) : Store Key Value :=
  { entries := entries
    pending := fun _ => none
    begun := 0
    closed := [] }

/-- Begin a transaction; the handle is set only on success. -/
def txnBegin (store : Store Key Value) (succeeds : Bool) :
    Store Key Value × Option ℕ :=
  if succeeds then
    ({ store with
        pending := Function.update store.pending store.begun (some [])
        begun := store.begun + 1 }, some store.begun)
  else (store, none)

/-- Replace the writes of a transaction. -/
def setWrites (store : Store Key Value) (txn : ℕ)
    (writes : List (Key × Value)) : Store Key Value :=
  { store with pending := Function.update store.pending txn (some writes) }

/-- Write in a live transaction. -/
def put (store : Store Key Value) (txn : ℕ) (key : Key) (value : Value)
    (succeeds : Bool) : Option (Store Key Value) :=
  (store.pending txn).map fun writes =>
    if succeeds then store.setWrites txn (writes ++ [(key, value)]) else store

/-- Read in a live transaction, through its own writes. -/
def get (store : Store Key Value) (txn : ℕ) (key : Key) (succeeds : Bool) :
    Option (Option Value) :=
  (store.pending txn).map fun writes =>
    if succeeds then applyWrites store.entries writes key else none

/-- End a live transaction, making `durable` of its writes durable. -/
def close (store : Store Key Value) (txn : ℕ)
    (durable : List (Key × Value)) : Store Key Value :=
  { store with
    entries := applyWrites store.entries durable
    pending := Function.update store.pending txn none
    closed := store.closed ++ [(txn, durable)] }

/-- Commit a live transaction; a failed commit ends it as well. -/
def commit (store : Store Key Value) (txn : ℕ) (succeeds : Bool) :
    Option (Store Key Value) :=
  (store.pending txn).map fun writes =>
    store.close txn (if succeeds then writes else [])

def abort (store : Store Key Value) (txn : ℕ) : Option (Store Key Value) :=
  (store.pending txn).map fun _ => store.close txn []

/-! ## Stores between transactions -/

/-- No transaction is live, and those begun were ended once each, in order. -/
structure Settled (store : Store Key Value) : Prop where
  pending_eq : ∀ txn, store.pending txn = none
  closed_eq : store.closed.map Prod.fst = List.range store.begun

/-- Exactly the last transaction begun is live, with these writes. -/
structure OpenAt (store : Store Key Value) (txn : ℕ)
    (writes : List (Key × Value)) : Prop where
  begun_eq : store.begun = txn + 1
  pending_self : store.pending txn = some writes
  pending_other : ∀ other, other ≠ txn → store.pending other = none
  closed_eq : store.closed.map Prod.fst = List.range txn

omit [DecidableEq Key] in
theorem settled_ofEntries (entries : Key → Option Value) :
    (ofEntries entries : Store Key Value).Settled :=
  ⟨fun _ => rfl, rfl⟩

omit [DecidableEq Key] in
@[simp]
theorem txnBegin_false (store : Store Key Value) :
    store.txnBegin false = (store, none) := rfl

omit [DecidableEq Key] in
@[simp]
theorem txnBegin_true_snd (store : Store Key Value) :
    (store.txnBegin true).2 = some store.begun := rfl

omit [DecidableEq Key] in
@[simp]
theorem txnBegin_true_entries (store : Store Key Value) :
    (store.txnBegin true).1.entries = store.entries := rfl

omit [DecidableEq Key] in
@[simp]
theorem txnBegin_true_closed (store : Store Key Value) :
    (store.txnBegin true).1.closed = store.closed := rfl

omit [DecidableEq Key] in
theorem Settled.openAt_txnBegin {store : Store Key Value}
    (hsettled : store.Settled) :
    (store.txnBegin true).1.OpenAt store.begun [] where
  begun_eq := rfl
  pending_self := Function.update_self _ _ _
  pending_other other hother := by
    change Function.update store.pending store.begun (some []) other = none
    rw [Function.update_of_ne hother, hsettled.pending_eq]
  closed_eq := hsettled.closed_eq

section Open

variable {store : Store Key Value} {txn : ℕ} {writes : List (Key × Value)}

omit [DecidableEq Key] in
theorem OpenAt.put_eq_some (hopen : store.OpenAt txn writes) (key : Key)
    (value : Value) :
    ∃ next, store.put txn key value true = some next ∧
      next.OpenAt txn (writes ++ [(key, value)]) ∧
      next.entries = store.entries ∧ next.closed = store.closed := by
  refine ⟨store.setWrites txn (writes ++ [(key, value)]), ?_, ?_, rfl, rfl⟩
  · rw [put, hopen.pending_self, Option.map_some, if_pos rfl]
  refine ⟨hopen.begun_eq, Function.update_self _ _ _, ?_, hopen.closed_eq⟩
  intro other hother
  change Function.update store.pending txn _ other = none
  rw [Function.update_of_ne hother, hopen.pending_other other hother]

omit [DecidableEq Key] in
/-- A failed write changes nothing. -/
theorem OpenAt.put_false (hopen : store.OpenAt txn writes) (key : Key)
    (value : Value) : store.put txn key value false = some store := by
  rw [put, hopen.pending_self]
  rfl

theorem OpenAt.get_true (hopen : store.OpenAt txn writes) (key : Key) :
    store.get txn key true = some (applyWrites store.entries writes key) := by
  rw [get, hopen.pending_self]
  rfl

theorem OpenAt.get_false (hopen : store.OpenAt txn writes) (key : Key) :
    store.get txn key false = some none := by
  rw [get, hopen.pending_self]
  rfl

theorem OpenAt.settled_close (hopen : store.OpenAt txn writes)
    (durable : List (Key × Value)) : (store.close txn durable).Settled where
  pending_eq other := by
    change Function.update store.pending txn none other = none
    by_cases hother : other = txn
    · rw [hother, Function.update_self]
    · rw [Function.update_of_ne hother, hopen.pending_other other hother]
  closed_eq := by
    change (store.closed ++ [(txn, durable)]).map Prod.fst =
      List.range store.begun
    rw [List.map_append, hopen.closed_eq, hopen.begun_eq, List.range_succ]
    rfl

theorem OpenAt.commit_eq_some (hopen : store.OpenAt txn writes)
    (succeeds : Bool) :
    store.commit txn succeeds =
      some (store.close txn (if succeeds then writes else [])) := by
  rw [commit, hopen.pending_self, Option.map_some]

theorem OpenAt.abort_eq_some (hopen : store.OpenAt txn writes) :
    store.abort txn = some (store.close txn []) := by
  rw [abort, hopen.pending_self, Option.map_some]

end Open

@[simp]
theorem close_entries (store : Store Key Value) (txn : ℕ)
    (durable : List (Key × Value)) :
    (store.close txn durable).entries = applyWrites store.entries durable := rfl

@[simp]
theorem close_closed (store : Store Key Value) (txn : ℕ)
    (durable : List (Key × Value)) :
    (store.close txn durable).closed = store.closed ++ [(txn, durable)] := rfl

end Store

end PaxosPersistence.TransactionalMap
