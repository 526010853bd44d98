import PaxosPersistence.Core.ResourceLedger
import PaxosPersistence.Kernel.KernelDevice

/-!
# Setting a device up and tearing it down

`kdevchar_init` takes two names, a major number, a class, a device and four
thousand buffers, in four functions; `kdevchar_exit` gives them back.  The
buffers go back as they came.  The names do not: no failure frees them, the exit
frees one of them before it is needed, and the class is unregistered and then
destroyed, which unregisters it again.
-/

namespace PaxosPersistence.DeviceSetup

open PaxosPersistence.KernelDevice
open PaxosPersistence.Memory
open PaxosPersistence.ResourceLedger

/-! ## What a device is made of -/

inductive DeviceResource where
  | deName
  | clasName
  | majorNumber
  | charClass
  | charDevice
  | msgBuf
  | callbackBuf
  | message (i : ℕ)
  | callback (i : ℕ)
  | response (i : ℕ)
  | value (i : ℕ)
  deriving DecidableEq

abbrev DeviceLedger := Ledger DeviceResource

/-- Which of the steps succeed; a field is NULL if its allocation does not. -/
abbrev Outcomes := DeviceResource → Bool

def acquire (ledger : DeviceLedger) (resource : DeviceResource) :
    Except Halt DeviceLedger :=
  checked (ledger.acquire resource)

def release (ledger : DeviceLedger) (resource : DeviceResource) :
    Except Halt DeviceLedger :=
  checked (ledger.release resource)

/-- An access, which must not be to NULL or to what is gone. -/
def deref (ledger : DeviceLedger) (resource : DeviceResource) :
    Except Halt Unit :=
  checked (ledger.use resource)

/-- `pmalloc` or `vmalloc` -/
def allocate (outcomes : Outcomes) (ledger : DeviceLedger)
    (resource : DeviceResource) : Except Halt DeviceLedger :=
  if outcomes resource then acquire ledger resource else .ok ledger

/-- `pfree` or `vfree`; of NULL it is nothing. -/
def free (outcomes : Outcomes) (ledger : DeviceLedger)
    (resource : DeviceResource) : Except Halt DeviceLedger :=
  if outcomes resource then release ledger resource else .ok ledger

/-! ## `kdevchar_init` -/

section Init

variable (outcomes : Outcomes) (ledger : DeviceLedger)

/-- `allocate_name` and `allocate_name_folder`; the result of the allocation
is written to at once. -/
def allocateName (name : DeviceResource) : Except Halt DeviceLedger := do
  let ledger ← allocate outcomes ledger name
  deref ledger name
  return ledger

/-- The number is looked up under the name. -/
def unregisterChrdev : Except Halt DeviceLedger := do
  deref ledger .deName
  release ledger .majorNumber

def majorNumber : Except Halt (DeviceLedger × ℤ) := do
  let ledger ← allocateName outcomes ledger .deName
  deref ledger .deName
  if outcomes .majorNumber then do
    let ledger ← acquire ledger .majorNumber
    return (ledger, 0)
  else
    return (ledger, -1)

def regDevClass : Except Halt (DeviceLedger × ℤ) := do
  let ledger ← allocateName outcomes ledger .clasName
  deref ledger .clasName
  if outcomes .charClass then do
    let ledger ← acquire ledger .charClass
    return (ledger, 0)
  else do
    let ledger ← unregisterChrdev ledger
    return (ledger, -1)

def regCharClass : Except Halt (DeviceLedger × ℤ) := do
  deref ledger .charClass
  deref ledger .deName
  if outcomes .charDevice then do
    let ledger ← acquire ledger .charDevice
    return (ledger, 0)
  else do
    let ledger ← release ledger .charClass
    let ledger ← unregisterChrdev ledger
    return (ledger, -1)

/-- One slot; the callback, its response and the value of that are written to,
the message is not. -/
def initSlot (i : ℕ) : Except Halt DeviceLedger := do
  let ledger ← allocate outcomes ledger (.message i)
  deref ledger .msgBuf
  let ledger ← allocate outcomes ledger (.callback i)
  deref ledger .callbackBuf
  deref ledger (.callback i)
  let ledger ← allocate outcomes ledger (.response i)
  let ledger ← allocate outcomes ledger (.value i)
  deref ledger (.response i)
  deref ledger (.value i)
  return ledger

def initBuffers : Except Halt DeviceLedger := do
  let ledger ← allocate outcomes ledger .msgBuf
  let ledger ← allocate outcomes ledger .callbackBuf
  (List.range bufferSize).foldlM (initSlot outcomes) ledger

end Init

/-- For a name and a device that are not NULL. -/
def kdevcharInit (outcomes : Outcomes) : Except Halt (DeviceLedger × ℤ) := do
  let (ledger, failed) ← majorNumber outcomes (.empty DeviceResource)
  if failed < 0 then
    return (ledger, -1)
  else do
    let (ledger, failed) ← regDevClass outcomes ledger
    if failed < 0 then
      return (ledger, -1)
    else do
      let (ledger, failed) ← regCharClass outcomes ledger
      if failed < 0 then
        return (ledger, -1)
      else do
        let ledger ← initBuffers outcomes ledger
        return (ledger, 0)

/-! ## `kdevchar_exit` -/

section Exit

variable (outcomes : Outcomes) (ledger : DeviceLedger)

def freeSlot (i : ℕ) : Except Halt DeviceLedger := do
  deref ledger .msgBuf
  let ledger ← free outcomes ledger (.message i)
  deref ledger .callbackBuf
  deref ledger (.callback i)
  deref ledger (.response i)
  let ledger ← free outcomes ledger (.value i)
  let ledger ← free outcomes ledger (.response i)
  free outcomes ledger (.callback i)

def freeBuffers : Except Halt DeviceLedger :=
  if outcomes .msgBuf && outcomes .callbackBuf then do
    let ledger ← (List.range bufferSize).foldlM (freeSlot outcomes) ledger
    let ledger ← free outcomes ledger .msgBuf
    free outcomes ledger .callbackBuf
  else .ok ledger

def kdevcharExit : Except Halt DeviceLedger := do
  deref ledger .charClass
  let ledger ← release ledger .charDevice
  -- `class_unregister`, and `class_destroy`, which does the same
  let ledger ← release ledger .charClass
  let ledger ← release ledger .charClass
  let ledger ← freeBuffers outcomes ledger
  let ledger ← free outcomes ledger .deName
  let ledger ← free outcomes ledger .clasName
  unregisterChrdev ledger

end Exit

/-! ## Balance -/

/-- The four allocations of a slot, in the order in which they are made. -/
def slotResources (i : ℕ) : List DeviceResource :=
  [.message i, .callback i, .response i, .value i]

/-- And in the order in which they are freed. -/
def slotReleases (i : ℕ) : List DeviceResource :=
  [.message i, .value i, .response i, .callback i]

/-- Everything that a device needs. -/
def needed : List DeviceResource :=
  [.deName, .majorNumber, .clasName, .charClass, .charDevice, .msgBuf,
    .callbackBuf] ++ (List.range bufferSize).flatMap slotResources

/-- What the exit frees between the class and the names. -/
def buffers : List DeviceResource :=
  (List.range bufferSize).flatMap slotReleases ++ [.msgBuf, .callbackBuf]

def AllGranted (outcomes : Outcomes) : Prop :=
  ∀ resource ∈ needed, outcomes resource = true

/-- A failure is reported and leaves nothing behind; a success is undone by the
exit. -/
structure Balances (outcomes : Outcomes) : Prop where
  failure : ¬ AllGranted outcomes →
    ∃ ledger code, kdevcharInit outcomes = .ok (ledger, code) ∧ code < 0 ∧
      ledger.Balanced
  success : AllGranted outcomes →
    ∃ ledger, kdevcharInit outcomes = .ok (ledger, 0) ∧
      ∃ last, kdevcharExit outcomes ledger = .ok last ∧ last.Balanced

/-! ## What goes wrong -/

variable {outcomes : Outcomes} {ledger next : DeviceLedger}

theorem holds_of_deref {resource : DeviceResource}
    (hderef : deref ledger resource = .ok ()) : ledger.Holds resource := by
  by_contra hgone
  rw [deref, Ledger.use_eq_none hgone] at hderef
  cases hderef

/-- Giving the number back leaves the name. -/
theorem holds_deName_of_unregisterChrdev
    (hunregister : unregisterChrdev ledger = .ok next) :
    next.Holds .deName := by
  obtain ⟨⟨⟩, hderef, hrelease⟩ := bind_eq_ok.mp hunregister
  exact (holds_of_deref hderef).of_release (checked_eq_ok.mp hrelease)
    (by simp)

/-- Where `kdevchar_init` reports a failure, the name is still there. -/
theorem holds_deName_of_failure {code : ℤ}
    (hinit : kdevcharInit outcomes = .ok (ledger, code)) (hcode : code < 0) :
    ledger.Holds .deName := by
  obtain ⟨⟨registered, registerCode⟩, hregister, hinit⟩ :=
    bind_eq_ok.mp hinit
  dsimp only at hinit
  split at hinit
  · cases hinit
    obtain ⟨named, -, hregister⟩ := bind_eq_ok.mp hregister
    obtain ⟨⟨⟩, hderef, hregister⟩ := bind_eq_ok.mp hregister
    have hheld := holds_of_deref hderef
    split at hregister
    · obtain ⟨numbered, hacquire, hreturned⟩ := bind_eq_ok.mp hregister
      cases hreturned
      exact hheld.of_acquire (checked_eq_ok.mp hacquire)
    · cases hregister
      exact hheld
  obtain ⟨⟨classed, classCode⟩, hclass, hinit⟩ := bind_eq_ok.mp hinit
  dsimp only at hinit
  split at hinit
  · rename_i hfailed
    cases hinit
    obtain ⟨named, -, hclass⟩ := bind_eq_ok.mp hclass
    obtain ⟨⟨⟩, -, hclass⟩ := bind_eq_ok.mp hclass
    split at hclass
    · obtain ⟨created, -, hreturned⟩ := bind_eq_ok.mp hclass
      cases hreturned
      exact absurd hfailed (by decide)
    · obtain ⟨unregistered, hunregister, hreturned⟩ := bind_eq_ok.mp hclass
      cases hreturned
      exact holds_deName_of_unregisterChrdev hunregister
  obtain ⟨⟨deviced, deviceCode⟩, hdevice, hinit⟩ := bind_eq_ok.mp hinit
  dsimp only at hinit
  split at hinit
  · rename_i hfailed
    cases hinit
    obtain ⟨⟨⟩, -, hdevice⟩ := bind_eq_ok.mp hdevice
    obtain ⟨⟨⟩, -, hdevice⟩ := bind_eq_ok.mp hdevice
    split at hdevice
    · obtain ⟨created, -, hreturned⟩ := bind_eq_ok.mp hdevice
      cases hreturned
      exact absurd hfailed (by decide)
    · obtain ⟨destroyed, -, hdevice⟩ := bind_eq_ok.mp hdevice
      obtain ⟨unregistered, hunregister, hreturned⟩ := bind_eq_ok.mp hdevice
      cases hreturned
      exact holds_deName_of_unregisterChrdev hunregister
  · -- past the device there is no failure
    obtain ⟨filled, -, hreturned⟩ := bind_eq_ok.mp hinit
    cases hreturned
    exact absurd hcode (by decide)

/-- The exit gives the class back twice, whatever it starts from. -/
theorem kdevcharExit_ne_ok (outcomes : Outcomes) (ledger last : DeviceLedger) :
    kdevcharExit outcomes ledger ≠ .ok last := by
  intro hexit
  obtain ⟨⟨⟩, -, hexit⟩ := bind_eq_ok.mp hexit
  obtain ⟨deviceless, -, hexit⟩ := bind_eq_ok.mp hexit
  obtain ⟨classless, hunregister, hexit⟩ := bind_eq_ok.mp hexit
  obtain ⟨destroyed, hdestroy, -⟩ := bind_eq_ok.mp hexit
  have hagain := checked_eq_ok.mp hdestroy
  rw [Ledger.release_release (checked_eq_ok.mp hunregister)] at hagain
  cases hagain

/-! ## What is mirrored -/

theorem deref_of_holds {resource : DeviceResource}
    (hheld : ledger.Holds resource) : deref ledger resource = .ok () := by
  rw [deref, Ledger.use_eq_some hheld]
  rfl

theorem acquire_of_some {resource : DeviceResource}
    (hacquire : ledger.acquire resource = some next) :
    acquire ledger resource = .ok next :=
  checked_eq_ok.mpr hacquire

theorem allocate_granted {resource : DeviceResource}
    (hgranted : outcomes resource = true)
    (hacquire : ledger.acquire resource = some next) :
    allocate outcomes ledger resource = .ok next :=
  (if_pos hgranted).trans (acquire_of_some hacquire)

theorem free_granted {resource : DeviceResource}
    (hgranted : outcomes resource = true)
    (hrelease : ledger.release resource = some next) :
    free outcomes ledger resource = .ok next :=
  (if_pos hgranted).trans (checked_eq_ok.mpr hrelease)

theorem mem_needed {resource : DeviceResource}
    (hmem : resource ∈ [.deName, .majorNumber, .clasName, .charClass,
      .charDevice, .msgBuf, .callbackBuf]) : resource ∈ needed :=
  List.mem_append_left _ hmem

theorem mem_needed_slot {i : ℕ} (hi : i < bufferSize)
    {resource : DeviceResource} (hmem : resource ∈ slotResources i) :
    resource ∈ needed :=
  List.mem_append_right _
    (List.mem_flatMap.mpr ⟨i, List.mem_range.mpr hi, hmem⟩)

theorem initSlot_granted {i : ℕ}
    (hgranted : ∀ resource ∈ slotResources i, outcomes resource = true)
    (hmsgBuf : ledger.Holds .msgBuf) (hcallbackBuf : ledger.Holds .callbackBuf)
    (hall : ledger.acquireAll (slotResources i) = some next) :
    initSlot outcomes ledger i = .ok next := by
  obtain ⟨first, hmessage, hall⟩ := Ledger.acquireAll_cons_eq_some.mp hall
  obtain ⟨second, hcallback, hall⟩ := Ledger.acquireAll_cons_eq_some.mp hall
  obtain ⟨third, hresponse, hall⟩ := Ledger.acquireAll_cons_eq_some.mp hall
  obtain ⟨fourth, hvalue, hall⟩ := Ledger.acquireAll_cons_eq_some.mp hall
  obtain rfl : fourth = next := Option.some.inj hall
  have hmsgBuf := hmsgBuf.of_acquire hmessage
  have hcallbackBuf :=
    (hcallbackBuf.of_acquire hmessage).of_acquire hcallback
  have hheldResponse :=
    (Ledger.holds_of_acquire hresponse).of_acquire hvalue
  simp only [initSlot, bind, Except.bind, pure, Except.pure,
    allocate_granted (hgranted _ (by simp [slotResources])) hmessage,
    allocate_granted (hgranted _ (by simp [slotResources])) hcallback,
    allocate_granted (hgranted _ (by simp [slotResources])) hresponse,
    allocate_granted (hgranted _ (by simp [slotResources])) hvalue,
    deref_of_holds hmsgBuf, deref_of_holds hcallbackBuf,
    deref_of_holds (Ledger.holds_of_acquire hcallback),
    deref_of_holds hheldResponse,
    deref_of_holds (Ledger.holds_of_acquire hvalue)]

theorem initSlots_granted {indices : List ℕ}
    (hgranted : ∀ i ∈ indices, ∀ resource ∈ slotResources i,
      outcomes resource = true)
    (hmsgBuf : ledger.Holds .msgBuf) (hcallbackBuf : ledger.Holds .callbackBuf)
    (hall : ledger.acquireAll (indices.flatMap slotResources) = some next) :
    indices.foldlM (initSlot outcomes) ledger = .ok next := by
  induction indices generalizing ledger with
  | nil => exact congrArg Except.ok (Option.some.inj hall)
  | cons i indices ih =>
      rw [List.flatMap_cons, Ledger.acquireAll_append] at hall
      obtain ⟨middle, hslot, hrest⟩ := Option.bind_eq_some_iff.mp hall
      rw [List.foldlM_cons, initSlot_granted (hgranted i List.mem_cons_self)
        hmsgBuf hcallbackBuf hslot]
      exact ih (fun j hj => hgranted j (List.mem_cons_of_mem _ hj))
        (hmsgBuf.of_acquireAll hslot) (hcallbackBuf.of_acquireAll hslot) hrest

theorem majorNumber_granted (hgranted : AllGranted outcomes)
    {named : DeviceLedger} (hname : ledger.acquire .deName = some named)
    (hnumber : named.acquire .majorNumber = some next) :
    majorNumber outcomes ledger = .ok (next, 0) := by
  simp only [majorNumber, allocateName, bind, Except.bind, pure, Except.pure,
    allocate_granted (hgranted .deName (mem_needed (by simp))) hname,
    deref_of_holds (Ledger.holds_of_acquire hname),
    hgranted .majorNumber (mem_needed (by simp)), acquire_of_some hnumber, if_true]

theorem regDevClass_granted (hgranted : AllGranted outcomes)
    {named : DeviceLedger} (hname : ledger.acquire .clasName = some named)
    (hclass : named.acquire .charClass = some next) :
    regDevClass outcomes ledger = .ok (next, 0) := by
  simp only [regDevClass, allocateName, bind, Except.bind, pure, Except.pure,
    allocate_granted (hgranted .clasName (mem_needed (by simp))) hname,
    deref_of_holds (Ledger.holds_of_acquire hname),
    hgranted .charClass (mem_needed (by simp)), acquire_of_some hclass, if_true]

theorem regCharClass_granted (hgranted : AllGranted outcomes)
    (hclass : ledger.Holds .charClass) (hname : ledger.Holds .deName)
    (hdevice : ledger.acquire .charDevice = some next) :
    regCharClass outcomes ledger = .ok (next, 0) := by
  simp only [regCharClass, bind, Except.bind, pure, Except.pure,
    deref_of_holds hclass, deref_of_holds hname,
    hgranted .charDevice (mem_needed (by simp)), acquire_of_some hdevice, if_true]

/-- No two slots share an allocation. -/
theorem eq_of_mem_slotResources {i j : ℕ} {resource : DeviceResource}
    (hleft : resource ∈ slotResources i) (hright : resource ∈ slotResources j) :
    i = j := by
  simp only [slotResources, List.mem_cons, List.not_mem_nil, or_false]
    at hleft hright
  rcases hleft with rfl | rfl | rfl | rfl <;> simpa using hright

theorem mem_slotReleases {i : ℕ} {resource : DeviceResource} :
    resource ∈ slotReleases i ↔ resource ∈ slotResources i := by
  simp only [slotReleases, slotResources, List.mem_cons]
  tauto

theorem nodup_slots (resources : ℕ → List DeviceResource)
    (hnodup : ∀ i, (resources i).Nodup)
    (hslot : ∀ i, resources i ⊆ slotResources i) :
    ((List.range bufferSize).flatMap resources).Nodup := by
  rw [List.nodup_flatMap]
  refine ⟨fun i _ => hnodup i, List.nodup_range.imp ?_⟩
  intro i j hne resource hleft hright
  exact hne (eq_of_mem_slotResources (hslot i hleft) (hslot j hright))

theorem nodup_needed : needed.Nodup := by
  rw [needed, List.nodup_append']
  refine ⟨by decide, nodup_slots slotResources
    (fun i => by simp [slotResources]) fun i => List.Subset.refl _, ?_⟩
  intro resource hhead hslot
  obtain ⟨i, -, hmem⟩ := List.mem_flatMap.mp hslot
  simp only [slotResources, List.mem_cons, List.not_mem_nil, or_false] at hmem
  rcases hmem with rfl | rfl | rfl | rfl <;> simp at hhead

theorem acquireAll_needed :
    ∃ last, (Ledger.empty DeviceResource).acquireAll needed = some last ∧
      last.acquired = needed ∧ last.released = [] :=
  Ledger.exists_acquireAll nodup_needed fun _ _ => List.not_mem_nil

/-- With every step granted `kdevchar_init` returns 0 and has acquired all that
a device needs. -/
theorem exists_kdevcharInit (hgranted : AllGranted outcomes) :
    ∃ ledger, kdevcharInit outcomes = .ok (ledger, 0) ∧
      ledger.acquired = needed ∧ ledger.released = [] := by
  obtain ⟨last, hall, hacquired, hreleased⟩ :=
    acquireAll_needed
  refine ⟨last, ?_, hacquired, hreleased⟩
  rw [needed, Ledger.acquireAll_append] at hall
  obtain ⟨buffered, hhead, hslots⟩ := Option.bind_eq_some_iff.mp hall
  obtain ⟨named, hdeName, hhead⟩ := Ledger.acquireAll_cons_eq_some.mp hhead
  obtain ⟨numbered, hnumber, hhead⟩ := Ledger.acquireAll_cons_eq_some.mp hhead
  obtain ⟨twice, hclasName, hhead⟩ := Ledger.acquireAll_cons_eq_some.mp hhead
  obtain ⟨classed, hclass, hhead⟩ := Ledger.acquireAll_cons_eq_some.mp hhead
  obtain ⟨deviced, hdevice, hhead⟩ := Ledger.acquireAll_cons_eq_some.mp hhead
  obtain ⟨messages, hmsgBuf, hhead⟩ := Ledger.acquireAll_cons_eq_some.mp hhead
  obtain ⟨callbacks, hcallbackBuf, hhead⟩ := Ledger.acquireAll_cons_eq_some.mp hhead
  obtain rfl : callbacks = buffered := Option.some.inj hhead
  have hname : classed.Holds .deName :=
    (((Ledger.holds_of_acquire hdeName).of_acquire hnumber).of_acquire
      hclasName).of_acquire hclass
  have hbuffers : initBuffers outcomes deviced = .ok last := by
    simp only [initBuffers, bind, Except.bind,
      allocate_granted (hgranted .msgBuf (mem_needed (by simp))) hmsgBuf,
      allocate_granted (hgranted .callbackBuf (mem_needed (by simp)))
        hcallbackBuf]
    exact initSlots_granted
      (fun i hi resource hmem =>
        hgranted resource (mem_needed_slot (List.mem_range.mp hi) hmem))
      ((Ledger.holds_of_acquire hmsgBuf).of_acquire hcallbackBuf)
      (Ledger.holds_of_acquire hcallbackBuf) hslots
  simp only [kdevcharInit, bind, Except.bind, pure, Except.pure,
    majorNumber_granted hgranted hdeName hnumber,
    regDevClass_granted hgranted hclasName hclass,
    regCharClass_granted hgranted (Ledger.holds_of_acquire hclass) hname
      hdevice, hbuffers, lt_self_iff_false, if_false]

theorem freeSlot_granted {i : ℕ}
    (hgranted : ∀ resource ∈ slotResources i, outcomes resource = true)
    (hmsgBuf : ledger.Holds .msgBuf) (hcallbackBuf : ledger.Holds .callbackBuf)
    (hheld : ∀ resource ∈ slotResources i, ledger.Holds resource)
    (hall : ledger.releaseAll (slotReleases i) = some next) :
    freeSlot outcomes ledger i = .ok next := by
  obtain ⟨first, hmessage, hall⟩ := Ledger.releaseAll_cons_eq_some.mp hall
  obtain ⟨second, hvalue, hall⟩ := Ledger.releaseAll_cons_eq_some.mp hall
  obtain ⟨third, hresponse, hall⟩ := Ledger.releaseAll_cons_eq_some.mp hall
  obtain ⟨fourth, hcallback, hall⟩ := Ledger.releaseAll_cons_eq_some.mp hall
  obtain rfl : fourth = next := Option.some.inj hall
  have hheldCallback := (hheld (.callback i) (by
    simp [slotResources])).of_release hmessage (by simp)
  have hheldResponse := (hheld (.response i) (by
    simp [slotResources])).of_release hmessage (by simp)
  simp only [freeSlot, bind, Except.bind, deref_of_holds hmsgBuf,
    deref_of_holds (hcallbackBuf.of_release hmessage (by simp)),
    deref_of_holds hheldCallback, deref_of_holds hheldResponse,
    free_granted (hgranted _ (by simp [slotResources])) hmessage,
    free_granted (hgranted _ (by simp [slotResources])) hvalue,
    free_granted (hgranted _ (by simp [slotResources])) hresponse,
    free_granted (hgranted _ (by simp [slotResources])) hcallback]

theorem freeSlots_granted {indices : List ℕ} (hnodup : indices.Nodup)
    (hgranted : ∀ i ∈ indices, ∀ resource ∈ slotResources i,
      outcomes resource = true)
    (hmsgBuf : ledger.Holds .msgBuf) (hcallbackBuf : ledger.Holds .callbackBuf)
    (hheld : ∀ i ∈ indices, ∀ resource ∈ slotResources i,
      ledger.Holds resource)
    (hall : ledger.releaseAll (indices.flatMap slotReleases) = some next) :
    indices.foldlM (freeSlot outcomes) ledger = .ok next := by
  induction indices generalizing ledger with
  | nil => exact congrArg Except.ok (Option.some.inj hall)
  | cons i indices ih =>
      obtain ⟨hnotMem, hrest⟩ := List.nodup_cons.mp hnodup
      rw [List.flatMap_cons, Ledger.releaseAll_append] at hall
      obtain ⟨middle, hslot, hlater⟩ := Option.bind_eq_some_iff.mp hall
      rw [List.foldlM_cons, freeSlot_granted (hgranted i List.mem_cons_self)
        hmsgBuf hcallbackBuf (hheld i List.mem_cons_self) hslot]
      refine ih hrest (fun j hj => hgranted j (List.mem_cons_of_mem _ hj))
        (hmsgBuf.of_releaseAll hslot (by simp [slotReleases]))
        (hcallbackBuf.of_releaseAll hslot (by simp [slotReleases]))
        (fun j hj resource hmem => (hheld j (List.mem_cons_of_mem _ hj)
          resource hmem).of_releaseAll hslot fun hsame => ?_) hlater
      exact hnotMem (eq_of_mem_slotResources (mem_slotReleases.mp hsame) hmem ▸ hj)

theorem mem_buffers_slot {i : ℕ} (hi : i < bufferSize)
    {resource : DeviceResource} (hmem : resource ∈ slotResources i) :
    resource ∈ buffers :=
  List.mem_append_left _ (List.mem_flatMap.mpr
    ⟨i, List.mem_range.mpr hi, mem_slotReleases.mpr hmem⟩)

theorem buffers_subset_needed : buffers ⊆ needed := by
  intro resource hmem
  rcases List.mem_append.mp hmem with hslot | htail
  · obtain ⟨i, hi, hslot⟩ := List.mem_flatMap.mp hslot
    exact mem_needed_slot (List.mem_range.mp hi) (mem_slotReleases.mp hslot)
  · simp only [List.mem_cons, List.not_mem_nil, or_false] at htail
    rcases htail with rfl | rfl
    · exact mem_needed (by simp)
    · exact mem_needed (by simp)

theorem nodup_buffers : buffers.Nodup := by
  rw [buffers, List.nodup_append']
  refine ⟨nodup_slots slotReleases (fun i => by simp [slotReleases])
    fun i _ => mem_slotReleases.mp, by decide, ?_⟩
  intro resource hslot htail
  obtain ⟨i, -, hmem⟩ := List.mem_flatMap.mp hslot
  simp only [slotReleases, List.mem_cons, List.not_mem_nil, or_false] at hmem
  rcases hmem with rfl | rfl | rfl | rfl <;> simp at htail

/-- The exit frees the two arrays, and of each slot its four allocations, once
and in an order in which none is used after. -/
theorem exists_freeBuffers (hgranted : AllGranted outcomes)
    (hheld : ∀ resource ∈ buffers, ledger.Holds resource) :
    ∃ last, freeBuffers outcomes ledger = .ok last ∧
      last.released = ledger.released ++ buffers := by
  obtain ⟨last, hall, -, hreleased⟩ :=
    Ledger.exists_releaseAll nodup_buffers hheld
  refine ⟨last, ?_, hreleased⟩
  rw [buffers, Ledger.releaseAll_append] at hall
  obtain ⟨emptied, hslots, htail⟩ := Option.bind_eq_some_iff.mp hall
  obtain ⟨messages, hmsgBuf, htail⟩ := Ledger.releaseAll_cons_eq_some.mp htail
  obtain ⟨callbacks, hcallbackBuf, htail⟩ :=
    Ledger.releaseAll_cons_eq_some.mp htail
  obtain rfl : callbacks = last := Option.some.inj htail
  have hloop : (List.range bufferSize).foldlM (freeSlot outcomes) ledger =
      .ok emptied :=
    freeSlots_granted List.nodup_range
      (fun i hi resource hmem =>
        hgranted resource (mem_needed_slot (List.mem_range.mp hi) hmem))
      (hheld _ (List.mem_append_right _ List.mem_cons_self))
      (hheld _ (List.mem_append_right _
        (List.mem_cons_of_mem _ List.mem_cons_self)))
      (fun i hi resource hmem =>
        hheld resource (mem_buffers_slot (List.mem_range.mp hi) hmem)) hslots
  have hmsgGranted := hgranted .msgBuf (mem_needed (by simp))
  have hcallbackGranted := hgranted .callbackBuf (mem_needed (by simp))
  simp only [freeBuffers, hmsgGranted, hcallbackGranted, Bool.and_self,
    if_true, hloop, free_granted hmsgGranted hmsgBuf,
    free_granted hcallbackGranted hcallbackBuf, bind, Except.bind]

/-- The buffers that `kdevchar_init` allocates are those that the exit frees,
each once. -/
theorem count_freeBuffers (hgranted : AllGranted outcomes) :
    ∃ ledger last, kdevcharInit outcomes = .ok (ledger, 0) ∧
      freeBuffers outcomes ledger = .ok last ∧
      ∀ resource ∈ buffers, last.released.count resource = 1 := by
  obtain ⟨ledger, hinit, hacquired, hreleased⟩ := exists_kdevcharInit hgranted
  have hheld : ∀ resource ∈ buffers, ledger.Holds resource := by
    intro resource hmem
    refine ⟨hacquired ▸ ?_, hreleased ▸ List.not_mem_nil⟩
    exact buffers_subset_needed hmem
  obtain ⟨last, hfree, hlast⟩ := exists_freeBuffers hgranted hheld
  refine ⟨ledger, last, hinit, hfree, fun resource hmem => ?_⟩
  rw [hlast, hreleased, List.nil_append]
  exact List.count_eq_one_of_mem nodup_buffers hmem

/-- No outcome of the steps leaves a device balanced. -/
theorem not_balances (outcomes : Outcomes) : ¬ Balances outcomes := by
  intro hbalances
  by_cases hgranted : AllGranted outcomes
  · obtain ⟨ledger, -, last, hexit, -⟩ := hbalances.success hgranted
    exact kdevcharExit_ne_ok outcomes ledger last hexit
  · obtain ⟨ledger, code, hinit, hcode, hbalanced⟩ :=
      hbalances.failure hgranted
    exact Ledger.balanced_iff.mp hbalanced .deName
      (holds_deName_of_failure hinit hcode)

/-- Every step succeeds, and the module is unloaded. -/
theorem not_balances_granted : ¬ Balances fun _ => true := by
  intro hbalances
  obtain ⟨ledger, -, last, hexit, -⟩ := hbalances.success fun _ _ => rfl
  exact kdevcharExit_ne_ok _ ledger last hexit

end PaxosPersistence.DeviceSetup
