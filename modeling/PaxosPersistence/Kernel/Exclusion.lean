import PaxosPersistence.Core.Machine
import PaxosPersistence.Kernel.AddStatements

/-!
# One holder at a time

Opening a persistence device takes its mutex, releasing it gives the mutex back
and resets the count and the indices.  The write device resets first and
unlocks last; the read device unlocks first, so that the next holder may be
inside before the resets are done.  This module lets the statements of a
release interleave with everything else and determines when a holder is left
alone.
-/

namespace PaxosPersistence.Exclusion

open PaxosPersistence.AddStatements
open PaxosPersistence.ByteBlock
open PaxosPersistence.KernelDevice
open PaxosPersistence.Machine
open PaxosPersistence.Memory
open PaxosPersistence.PaxosTypes
open PaxosPersistence.ReadPersistence
open PaxosPersistence.WritePersistence

inductive ReleaseStatement where
  /-- `mutex_unlock(&char_mutex)` -/
  | unlock
  /-- `atomic_set(&used_buf, 0)` -/
  | clearUsed
  | clearCurrent
  | clearFirst
  deriving DecidableEq

namespace ReleaseStatement

def execute (device : PaxosKernelDevice) :
    ReleaseStatement → PaxosKernelDevice
  | .unlock => { device with charMutex := false }
  | .clearUsed => { device with usedBuf := 0 }
  | .clearCurrent => { device with currentBuf := 0 }
  | .clearFirst => { device with firstBuf := 0 }

/-- The field a statement resets is zero as it is. -/
def FindsZero (device : PaxosKernelDevice) : ReleaseStatement → Prop
  | .unlock => True
  | .clearUsed => device.usedBuf = 0
  | .clearCurrent => device.currentBuf = 0
  | .clearFirst => device.firstBuf = 0

end ReleaseStatement

/-- The statements of a release handler in program order. -/
def releaseStatements : DeviceKind → List ReleaseStatement
  | .write => [.clearUsed, .clearCurrent, .clearFirst, .unlock]
  | .read => [.unlock, .clearUsed, .clearCurrent, .clearFirst]

/-- The read handler of a device, as far as the device is concerned. -/
def holderRead (device : PaxosKernelDevice) (buffer : List Byte)
    (faults : ReadFaults) : DeviceKind → Except Halt PaxosKernelDevice
  | .write => do
      let (device, _, _) ← writePersistenceRead device buffer faults
      return device
  | .read => do
      let _ ← readPersistenceRead device buffer faults
      return device

/-- The write handler likewise. -/
def holderWrite (device : PaxosKernelDevice) (buffer : List Byte) (len : ℕ)
    (faults : WriteFaults) : DeviceKind → Except Halt PaxosKernelDevice
  | .write =>
      let _ := writePersistenceWrite device len
      .ok device
  | .read => do
      let (device, _) ← readPersistenceWrite device buffer len faults
      return device

/-- What a process has to do with the device. -/
inductive Mode where
  | closed
  | holding
  /-- Inside the release handler, with these statements to go. -/
  | releasing (rest : List ReleaseStatement)
  deriving DecidableEq

/-- Any number of processes share one device. -/
structure Shared (P : Type) where
  device : PaxosKernelDevice
  mode : P → Mode

def Shared.start (P : Type) (memory : DeviceMemory) : Shared P where
  device := kdevcharInit memory
  mode := fun _ => .closed

inductive HolderAction (P : Type) where
  | openDevice (p : P)
  | read (p : P) (buffer : List Byte) (faults : ReadFaults)
  | write (p : P) (buffer : List Byte) (len : ℕ) (faults : WriteFaults)
  | poll (p : P)
  /-- The release handler of this process is entered, executes its next
  statement, or returns. -/
  | release (p : P)
  | addMessage (msg : List Byte)

variable {P : Type} [DecidableEq P]

/-- One step.  Only a holder calls the read, write and poll handlers. -/
def share (kind : DeviceKind) : Step (Shared P) (HolderAction P) Empty Halt
  | state, .openDevice p =>
      if state.mode p = .closed ∧ state.device.deviceOpen.2 = 0 then
        .ok ({
          device := state.device.deviceOpen.1
          mode := Function.update state.mode p .holding }, [])
      else .ok (state, [])
  | state, .read p buffer faults =>
      if state.mode p = .holding then do
        let device ← holderRead state.device buffer faults kind
        return ({ state with device }, [])
      else .ok (state, [])
  | state, .write p buffer len faults =>
      if state.mode p = .holding then do
        let device ← holderWrite state.device buffer len faults kind
        return ({ state with device }, [])
      else .ok (state, [])
  | state, .poll _ => .ok (state, [])
  | state, .release p =>
      match state.mode p with
      | .closed => .ok (state, [])
      | .holding =>
          .ok ({ state with
            mode := Function.update state.mode p
              (.releasing (releaseStatements kind)) }, [])
      | .releasing [] =>
          .ok ({ state with
            mode := Function.update state.mode p .closed }, [])
      | .releasing (statement :: rest) =>
          .ok ({
            device := statement.execute state.device
            mode := Function.update state.mode p (.releasing rest) }, [])
  | state, .addMessage msg => do
      let (device, _) ← kind.addMessage state.device msg
      return ({ state with device }, [])

/-- The count and the two indices are as before. -/
structure SameIndices (before after : PaxosKernelDevice) : Prop where
  firstBuf_eq : after.firstBuf = before.firstBuf
  currentBuf_eq : after.currentBuf = before.currentBuf
  usedBuf_eq : after.usedBuf = before.usedBuf

theorem SameIndices.rfl {device : PaxosKernelDevice} :
    SameIndices device device :=
  ⟨Eq.refl _, Eq.refl _, Eq.refl _⟩

/-- The actions that may move the ring under a holder. -/
def HolderAction.MayMove (p : P) : HolderAction P → Prop
  | .addMessage _ => True
  | .read q _ _ | .write q _ _ _ => q = p
  | _ => False

/-- The handler calls of a process, but for polls. -/
def HolderAction.OwnCall (p : P) : HolderAction P → Prop
  | .read q _ _ | .write q _ _ _ | .release q => q = p
  | _ => False

/-- A step leaves every holder alone whose own call it is not. -/
def SparesHolders (kind : DeviceKind) (state : Shared P)
    (_history : List Empty) (action : HolderAction P) : Prop :=
  ∀ p next events, state.mode p = .holding → ¬ action.MayMove p →
    share kind state action = .ok (next, events) →
      SameIndices state.device next.device

/-- No holder is disturbed in a run. -/
def Undisturbed (kind : DeviceKind) (start : Shared P)
    (actions : List (HolderAction P)) : Prop :=
  Guarded (share kind) (SparesHolders kind) start [] actions

/-- The request a holder of the read device has read is still the oldest one
when its answer comes. -/
def AnswersOldest (start : Shared P) (actions : List (HolderAction P)) :
    Prop :=
  ∀ before buffer faults middle answer len losses after p asked answering
      events later,
    actions = before ++ .read p buffer faults ::
      (middle ++ .write p answer len losses :: after) →
    run (share .read) start (before ++ [.read p buffer faults]) =
      .ok (asked, events) →
    asked.mode p = .holding → (∀ action ∈ middle, ¬ action.OwnCall p) →
    run (share .read) asked middle = .ok (answering, later) →
      answering.device.firstBuf = asked.device.firstBuf

/-- While another process holds the device, a release resets nothing that is
not zero already. -/
def ResetsNothing (state : Shared P) (_history : List Empty) :
    HolderAction P → Prop
  | .release q => ∀ p statement rest,
      state.mode q = .releasing (statement :: rest) → p ≠ q →
        state.mode p = .holding → statement.FindsZero state.device
  | _ => True

/-! ## The statements of a release -/

/-- All statements of either release are the whole call. -/
theorem foldl_releaseStatements (kind : DeviceKind)
    (device : PaxosKernelDevice) :
    (releaseStatements kind).foldl ReleaseStatement.execute device =
      device.deviceRelease := by
  cases kind <;> rfl

theorem sameIndices_execute_iff {device : PaxosKernelDevice}
    {statement : ReleaseStatement} :
    SameIndices device (statement.execute device) ↔
      statement.FindsZero device := by
  constructor
  · intro hsame
    cases statement with
    | unlock => trivial
    | clearUsed => exact hsame.usedBuf_eq.symm
    | clearCurrent => exact hsame.currentBuf_eq.symm
    | clearFirst => exact hsame.firstBuf_eq.symm
  · intro hzero
    cases statement with
    | unlock => exact ⟨rfl, rfl, rfl⟩
    | clearUsed => exact ⟨rfl, rfl, hzero.symm⟩
    | clearCurrent => exact ⟨rfl, hzero.symm, rfl⟩
    | clearFirst => exact ⟨hzero.symm, rfl, rfl⟩

/-- There is one unlock, so none behind it. -/
theorem unlock_notMem_of_suffix {kind : DeviceKind}
    {rest : List ReleaseStatement}
    (hsuffix : .unlock :: rest <:+ releaseStatements kind) :
    .unlock ∉ rest := by
  have hnodup : (releaseStatements kind).Nodup := by
    cases kind <;> decide
  exact (List.nodup_cons.mp (hnodup.sublist hsuffix.sublist)).1

/-- The write device unlocks last. -/
theorem unlock_mem_of_suffix_write {statement : ReleaseStatement}
    {rest : List ReleaseStatement}
    (hsuffix : statement :: rest <:+ releaseStatements .write) :
    .unlock ∈ statement :: rest := by
  simp only [releaseStatements, List.suffix_cons_iff, List.cons.injEq,
    List.suffix_nil, List.cons_ne_nil, or_false] at hsuffix
  rcases hsuffix with h | h | h | h <;> obtain ⟨rfl, rfl⟩ := h <;> decide

/-! ## The handlers and the mutex -/

theorem holderRead_charMutex {kind : DeviceKind}
    {device next : PaxosKernelDevice} {buffer : List Byte}
    {faults : ReadFaults}
    (hread : holderRead device buffer faults kind = .ok next) :
    next.charMutex = device.charMutex := by
  cases kind with
  | write =>
      obtain ⟨⟨after, received, len⟩, hcall, hreturned⟩ := bind_eq_ok.mp hread
      cases hreturned
      obtain rfl | rfl | rfl := writePersistenceRead_effect hcall
      · rfl
      · rfl
      · rfl
  | read =>
      obtain ⟨result, -, hreturned⟩ := bind_eq_ok.mp hread
      cases hreturned
      rfl

theorem holderWrite_charMutex {kind : DeviceKind}
    {device next : PaxosKernelDevice} {buffer : List Byte} {len : ℕ}
    {faults : WriteFaults}
    (hwrite : holderWrite device buffer len faults kind = .ok next) :
    next.charMutex = device.charMutex := by
  cases kind with
  | write => rw [← Except.ok.inj hwrite]
  | read =>
      obtain ⟨⟨after, ret⟩, hcall, hreturned⟩ := bind_eq_ok.mp hwrite
      cases hreturned
      rcases readPersistenceWrite_cases hcall with
        rfl | ⟨slot, accepted, value, rfl | rfl⟩
      · rfl
      · rfl
      · rfl

theorem addMessage_charMutex {kind : DeviceKind}
    {device next : PaxosKernelDevice} {msg : List Byte}
    {callback : Option SlotId}
    (hadd : kind.addMessage device msg = .ok (next, callback)) :
    next.charMutex = device.charMutex := by
  rcases addMessage_cases hadd with rfl | ⟨block, rfl⟩
  · rfl
  · rfl

theorem addMessage_firstBuf {kind : DeviceKind}
    {device next : PaxosKernelDevice} {msg : List Byte}
    {callback : Option SlotId}
    (hadd : kind.addMessage device msg = .ok (next, callback)) :
    next.firstBuf = device.firstBuf := by
  rcases addMessage_cases hadd with rfl | ⟨block, rfl⟩
  · rfl
  · rfl

/-! ## One owner of the mutex -/

/-- Whether a process is to unlock the mutex. -/
def Mode.owns : Mode → Bool
  | .closed => false
  | .holding => true
  | .releasing rest => .unlock ∈ rest

/-- The mutex is taken while it is owned, by one process alone, and a release
is somewhere in its statements. -/
structure Exclusive (kind : DeviceKind) (state : Shared P) : Prop where
  taken : ∀ p, (state.mode p).owns = true → state.device.charMutex = true
  alone : ∀ p q, (state.mode p).owns = true → (state.mode q).owns = true →
    p = q
  suffix : ∀ p rest, state.mode p = .releasing rest →
    rest <:+ releaseStatements kind

omit [DecidableEq P] in
theorem exclusive_start (kind : DeviceKind) (memory : DeviceMemory) :
    Exclusive kind (Shared.start P memory) where
  taken := fun _ howns => nomatch howns
  alone := fun _ _ howns => nomatch howns
  suffix := fun _ _ hmode => nomatch hmode

namespace Exclusive

variable {kind : DeviceKind} {state : Shared P}

omit [DecidableEq P] in
/-- A step of the device alone. -/
theorem setDevice (hexclusive : Exclusive kind state)
    {device : PaxosKernelDevice}
    (hmutex : device.charMutex = state.device.charMutex) :
    Exclusive kind { state with device := device } where
  taken := fun p howns => hmutex.trans (hexclusive.taken p howns)
  alone := hexclusive.alone
  suffix := hexclusive.suffix

/-- A process comes to a mode in which its statements are some of a release. -/
theorem suffix_update (hexclusive : Exclusive kind state) {p : P} {mode : Mode}
    (hsuffix : ∀ rest, mode = .releasing rest →
      rest <:+ releaseStatements kind) (q : P) (rest : List ReleaseStatement)
    (hmode : Function.update state.mode p mode q = .releasing rest) :
    rest <:+ releaseStatements kind := by
  by_cases hqp : q = p
  · subst hqp
    rw [Function.update_self] at hmode
    exact hsuffix rest hmode
  · rw [Function.update_of_ne hqp] at hmode
    exact hexclusive.suffix q rest hmode

/-- A step of one process that keeps the mutex and takes nothing. -/
theorem setMode (hexclusive : Exclusive kind state) {p : P} {mode : Mode}
    (howns : mode.owns = true → (state.mode p).owns = true)
    (hsuffix : ∀ rest, mode = .releasing rest →
      rest <:+ releaseStatements kind) :
    Exclusive kind
      { state with mode := Function.update state.mode p mode } := by
  have hbefore (q : P)
      (hq : (Function.update state.mode p mode q).owns = true) :
      (state.mode q).owns = true := by
    by_cases hqp : q = p
    · subst hqp
      rw [Function.update_self] at hq
      exact howns hq
    · rwa [Function.update_of_ne hqp] at hq
  exact
    { taken := fun q hq => hexclusive.taken q (hbefore q hq)
      alone := fun q r hq hr =>
        hexclusive.alone q r (hbefore q hq) (hbefore r hr)
      suffix := hexclusive.suffix_update hsuffix }

/-- A process takes the mutex when nobody owns it. -/
theorem take (hexclusive : Exclusive kind state) (p : P)
    (hfree : state.device.charMutex = false) :
    Exclusive kind {
      device := { state.device with charMutex := true }
      mode := Function.update state.mode p .holding } := by
  have hnobody (q : P) : (state.mode q).owns ≠ true := by
    intro howns
    rw [hexclusive.taken q howns] at hfree
    cases hfree
  have hself (q : P)
      (hq : (Function.update state.mode p Mode.holding q).owns = true) :
      q = p := by
    by_contra hqp
    rw [Function.update_of_ne hqp] at hq
    exact hnobody q hq
  exact
    { taken := fun _ _ => rfl
      alone := fun q r hq hr => (hself q hq).trans (hself r hr).symm
      suffix := by
        apply hexclusive.suffix_update
        intro rest hmode
        cases hmode }

/-- The owner gives the mutex back. -/
theorem unlock (hexclusive : Exclusive kind state) {p : P}
    {rest : List ReleaseStatement}
    (hmode : state.mode p = .releasing (.unlock :: rest)) :
    Exclusive kind {
      device := { state.device with charMutex := false }
      mode := Function.update state.mode p (.releasing rest) } := by
  have hsuffix := hexclusive.suffix p _ hmode
  have howner : (state.mode p).owns = true := by
    rw [hmode]
    simp [Mode.owns]
  have hnobody (q : P) :
      (Function.update state.mode p (.releasing rest) q).owns ≠ true := by
    intro howns
    by_cases hqp : q = p
    · subst hqp
      rw [Function.update_self] at howns
      exact unlock_notMem_of_suffix hsuffix (of_decide_eq_true howns)
    · rw [Function.update_of_ne hqp] at howns
      exact hqp (hexclusive.alone q p howns howner)
  exact
    { taken := fun q hq => absurd hq (hnobody q)
      alone := fun q _ hq => absurd hq (hnobody q)
      suffix := by
        apply hexclusive.suffix_update
        intro other hother
        cases hother
        exact (List.suffix_cons _ _).trans hsuffix }

omit [DecidableEq P] in
/-- Behind the unlock of its release a process owns nothing, so while another
one holds the device every release is there. -/
theorem unlock_notMem (hexclusive : Exclusive kind state) {p q : P}
    {rest : List ReleaseStatement} (hne : p ≠ q)
    (hholding : state.mode p = .holding)
    (hreleasing : state.mode q = .releasing rest) : .unlock ∉ rest := by
  intro hunlock
  apply hne
  apply hexclusive.alone
  · rw [hholding]
    rfl
  · rw [hreleasing]
    exact decide_eq_true hunlock

end Exclusive

theorem deviceOpen_of_free {device : PaxosKernelDevice}
    (hopen : device.deviceOpen.2 = 0) :
    device.charMutex = false ∧
      device.deviceOpen.1 = { device with charMutex := true } := by
  by_cases hmutex : device.charMutex = true
  · rw [PaxosKernelDevice.deviceOpen, if_pos hmutex] at hopen
    exact absurd hopen (show -PaxosKernelDevice.ebusy ≠ 0 by decide)
  · refine ⟨by simpa using hmutex, ?_⟩
    rw [PaxosKernelDevice.deviceOpen, if_neg hmutex]

/-- What a step can do. -/
inductive ShareStep (kind : DeviceKind) (state : Shared P) :
    HolderAction P → Shared P → Prop
  | idle (action : HolderAction P) : ShareStep kind state action state
  | opened (p : P) (hclosed : state.mode p = .closed)
      (hfree : state.device.charMutex = false) :
      ShareStep kind state (.openDevice p) {
        device := { state.device with charMutex := true }
        mode := Function.update state.mode p .holding }
  | called (p : P) (action : HolderAction P) (device : PaxosKernelDevice)
      (hholding : state.mode p = .holding) (hown : action.MayMove p)
      (hmutex : device.charMutex = state.device.charMutex) :
      ShareStep kind state action { state with device := device }
  | added (msg : List Byte) (device : PaxosKernelDevice)
      (hmutex : device.charMutex = state.device.charMutex)
      (hfirst : device.firstBuf = state.device.firstBuf) :
      ShareStep kind state (.addMessage msg) { state with device := device }
  | entered (p : P) (hholding : state.mode p = .holding) :
      ShareStep kind state (.release p) {
        device := state.device
        mode := Function.update state.mode p
          (.releasing (releaseStatements kind)) }
  | left (p : P) (hmode : state.mode p = .releasing []) :
      ShareStep kind state (.release p) {
        device := state.device
        mode := Function.update state.mode p .closed }
  | executed (p : P) (statement : ReleaseStatement)
      (rest : List ReleaseStatement)
      (hmode : state.mode p = .releasing (statement :: rest)) :
      ShareStep kind state (.release p) {
        device := statement.execute state.device
        mode := Function.update state.mode p (.releasing rest) }

theorem share_shareStep {kind : DeviceKind} {state next : Shared P}
    {action : HolderAction P} {events : List Empty}
    (hstep : share kind state action = .ok (next, events)) :
    ShareStep kind state action next := by
  cases action with
  | openDevice p =>
      rw [share] at hstep
      split at hstep
      · rename_i hopen
        obtain ⟨hfree, hdevice⟩ := deviceOpen_of_free hopen.2
        rw [hdevice] at hstep
        cases hstep
        exact .opened p hopen.1 hfree
      · cases hstep
        exact .idle _
  | read p buffer faults =>
      rw [share] at hstep
      split at hstep
      · rename_i hholding
        obtain ⟨device, hread, hreturned⟩ := bind_eq_ok.mp hstep
        cases hreturned
        exact .called p _ device hholding rfl (holderRead_charMutex hread)
      · cases hstep
        exact .idle _
  | write p buffer len faults =>
      rw [share] at hstep
      split at hstep
      · rename_i hholding
        obtain ⟨device, hwrite, hreturned⟩ := bind_eq_ok.mp hstep
        cases hreturned
        exact .called p _ device hholding rfl (holderWrite_charMutex hwrite)
      · cases hstep
        exact .idle _
  | poll p =>
      cases hstep
      exact .idle _
  | addMessage msg =>
      rw [share] at hstep
      obtain ⟨⟨device, callback⟩, hadd, hreturned⟩ := bind_eq_ok.mp hstep
      cases hreturned
      exact .added msg device (addMessage_charMutex hadd)
        (addMessage_firstBuf hadd)
  | release p =>
      cases hmode : state.mode p with
      | closed =>
          simp only [share, hmode] at hstep
          cases hstep
          exact .idle _
      | holding =>
          simp only [share, hmode] at hstep
          cases hstep
          exact .entered p hmode
      | releasing rest =>
          cases rest with
          | nil =>
              simp only [share, hmode] at hstep
              cases hstep
              exact .left p hmode
          | cons statement rest =>
              simp only [share, hmode] at hstep
              cases hstep
              exact .executed p statement rest hmode

theorem share_exclusive {kind : DeviceKind} (state : Shared P)
    (action : HolderAction P) (next : Shared P) (events : List Empty)
    (hexclusive : Exclusive kind state)
    (hstep : share kind state action = .ok (next, events)) :
    Exclusive kind next := by
  cases share_shareStep hstep with
  | idle => exact hexclusive
  | opened p hclosed hfree => exact hexclusive.take p hfree
  | called p _ device hholding hown hmutex => exact hexclusive.setDevice hmutex
  | added msg device hmutex hfirst => exact hexclusive.setDevice hmutex
  | entered p hholding =>
      apply hexclusive.setMode
      · rw [hholding]
        exact fun _ => rfl
      · intro rest hrest
        cases hrest
        exact List.suffix_rfl
  | left p hmode =>
      exact hexclusive.setMode (fun howns => nomatch howns)
        (fun _ hrest => nomatch hrest)
  | executed p statement rest hmode =>
      by_cases hunlock : statement = .unlock
      · subst hunlock
        exact hexclusive.unlock hmode
      · have hkept : (statement.execute state.device).charMutex =
            state.device.charMutex := by
          cases statement with
          | unlock => exact absurd rfl hunlock
          | clearUsed => rfl
          | clearCurrent => rfl
          | clearFirst => rfl
        apply (hexclusive.setDevice hkept).setMode
        · intro howns
          simp only [hmode]
          exact decide_eq_true (List.mem_cons_of_mem statement
            (of_decide_eq_true howns))
        · intro other hother
          cases hother
          exact (List.suffix_cons statement rest).trans
            (hexclusive.suffix p _ hmode)

/-! ## Who disturbs a holder -/

/-- Nobody but a release that has given the mutex back can disturb a holder,
and it does so exactly by resetting what is not zero. -/
theorem sparesHolders_iff {kind : DeviceKind} (state : Shared P)
    (history : List Empty) (action : HolderAction P)
    (hexclusive : Exclusive kind state) :
    SparesHolders kind state history action ↔
      ResetsNothing state history action := by
  constructor
  · intro hspares
    cases action with
    | release q =>
        intro p statement rest hmode _ hholding
        have hstep : share kind state (.release q) = .ok ({
            device := statement.execute state.device
            mode := Function.update state.mode q (.releasing rest) }, []) := by
          simp only [share, hmode]
        exact sameIndices_execute_iff.mp (hspares p _ [] hholding id hstep)
    | openDevice q => trivial
    | read q buffer faults => trivial
    | write q buffer len faults => trivial
    | poll q => trivial
    | addMessage msg => trivial
  · intro hresets p next events hholding hmove hstep
    cases share_shareStep hstep with
    | idle => exact .rfl
    | opened q hclosed hfree => exact ⟨rfl, rfl, rfl⟩
    | called q _ device hcaller hown hmutex =>
        have hsame : q = p := hexclusive.alone q p (by rw [hcaller]; rfl)
          (by rw [hholding]; rfl)
        exact absurd (hsame ▸ hown) hmove
    | added msg device hmutex hfirst => exact absurd trivial hmove
    | entered q hholder => exact .rfl
    | left q hmode => exact .rfl
    | executed q statement rest hmode =>
        have hne : p ≠ q := by
          rintro rfl
          rw [hholding] at hmode
          cases hmode
        exact sameIndices_execute_iff.mpr
          (hresets p statement rest hmode hne hholding)

omit [DecidableEq P] in
/-- On the write device such a release has nothing left to do. -/
theorem resetsNothing_write (state : Shared P) (history : List Empty)
    (action : HolderAction P) (hexclusive : Exclusive .write state) :
    ResetsNothing state history action := by
  cases action with
  | release q =>
      intro p statement rest hmode hne hholding
      exact absurd (unlock_mem_of_suffix_write (hexclusive.suffix q _ hmode))
        (hexclusive.unlock_notMem hne hholding hmode)
  | openDevice q => trivial
  | read q buffer faults => trivial
  | write q buffer len faults => trivial
  | poll q => trivial
  | addMessage msg => trivial

theorem undisturbed_iff_guarded (kind : DeviceKind) (memory : DeviceMemory)
    (actions : List (HolderAction P)) :
    Undisturbed kind (Shared.start P memory) actions ↔
      Guarded (share kind) ResetsNothing (Shared.start P memory) []
        actions :=
  guarded_congr share_exclusive sparesHolders_iff (exclusive_start kind memory)

/-! ## A request and its answer -/

/-- A holder stays one until its own release starts. -/
theorem holding_of_not_ownCall {kind : DeviceKind} {state next : Shared P}
    {action : HolderAction P} {events : List Empty} {p : P}
    (hholding : state.mode p = .holding) (hother : ¬ action.OwnCall p)
    (hstep : share kind state action = .ok (next, events)) :
    next.mode p = .holding := by
  have hupdate {q : P} {mode : Mode} (hq : q ≠ p) :
      Function.update state.mode q mode p = .holding := by
    rw [Function.update_of_ne hq.symm, hholding]
  cases share_shareStep hstep with
  | idle => exact hholding
  | opened q hclosed hfree =>
      apply hupdate
      rintro rfl
      rw [hholding] at hclosed
      cases hclosed
  | called q _ device hcaller hown hmutex => exact hholding
  | added msg device hmutex hfirst => exact hholding
  | entered q hholder => exact hupdate hother
  | left q hmode => exact hupdate hother
  | executed q statement rest hmode => exact hupdate hother

/-- Additions leave the first index, and so does all else that spares the
holder. -/
theorem firstBuf_of_not_ownCall {kind : DeviceKind} {state next : Shared P}
    {history events : List Empty} {action : HolderAction P} {p : P}
    (hholding : state.mode p = .holding) (hother : ¬ action.OwnCall p)
    (hspares : SparesHolders kind state history action)
    (hstep : share kind state action = .ok (next, events)) :
    next.device.firstBuf = state.device.firstBuf := by
  have hspared (hmove : ¬ action.MayMove p) :
      next.device.firstBuf = state.device.firstBuf :=
    (hspares p next events hholding hmove hstep).firstBuf_eq
  cases action with
  | addMessage msg =>
      rw [share] at hstep
      obtain ⟨⟨device, callback⟩, hadd, hreturned⟩ := bind_eq_ok.mp hstep
      cases hreturned
      exact addMessage_firstBuf hadd
  | openDevice q => exact hspared id
  | read q buffer faults => exact hspared hother
  | write q buffer len faults => exact hspared hother
  | poll q => exact hspared id
  | release q => exact hspared id

theorem firstBuf_of_run {kind : DeviceKind} {state last : Shared P}
    {history events : List Empty} {actions : List (HolderAction P)} {p : P}
    (hguarded : Guarded (share kind) (SparesHolders kind) state history actions)
    (hholding : state.mode p = .holding)
    (hother : ∀ action ∈ actions, ¬ action.OwnCall p)
    (hrun : run (share kind) state actions = .ok (last, events)) :
    last.device.firstBuf = state.device.firstBuf := by
  induction actions generalizing state history events with
  | nil =>
      simp only [run_nil, Except.ok.injEq, Prod.mk.injEq] at hrun
      rw [hrun.1]
  | cons action actions ih =>
      obtain ⟨next, first, later, hstep, hrest, -⟩ := run_cons_eq_ok.mp hrun
      have haction := hother action List.mem_cons_self
      calc
        last.device.firstBuf = next.device.firstBuf :=
          ih (hguarded.tail hstep)
            (holding_of_not_ownCall hholding haction hstep)
            (fun later hlater => hother later (List.mem_cons_of_mem _ hlater))
            hrest
        _ = state.device.firstBuf :=
          firstBuf_of_not_ownCall hholding haction hguarded.head hstep

theorem answersOldest_of_undisturbed {start : Shared P}
    {actions : List (HolderAction P)}
    (hundisturbed : Undisturbed .read start actions) :
    AnswersOldest start actions := by
  intro before buffer faults middle answer len losses after p asked answering
    events later hsplit hread hholding hother hmiddle
  have hwhole : actions = (before ++ [.read p buffer faults]) ++
      (middle ++ .write p answer len losses :: after) := by
    rw [hsplit]
    simp
  rw [Undisturbed, hwhole] at hundisturbed
  exact firstBuf_of_run (hundisturbed.drop hread).of_append hholding hother
    hmiddle

/-- No holder of the write device is ever disturbed.  No holder of the read
device is, and every request is answered as the oldest one, exactly when no
release that has already given the mutex back resets anything but zeros while
another process holds the device. -/
theorem undisturbed_iff (memory : DeviceMemory)
    (actions : List (HolderAction P)) :
    Undisturbed .write (Shared.start P memory) actions ∧
      (Undisturbed .read (Shared.start P memory) actions ∧
          AnswersOldest (Shared.start P memory) actions ↔
        Guarded (share .read) ResetsNothing (Shared.start P memory) []
          actions) := by
  constructor
  · rw [undisturbed_iff_guarded]
    intro before action after state events _ hrun
    exact resetsNothing_write state _ action (state_invariant_of_run_eq_ok
      (Exclusive .write) share_exclusive (exclusive_start .write memory) hrun)
  · constructor
    · intro hundisturbed
      exact (undisturbed_iff_guarded .read memory actions).mp hundisturbed.1
    · intro hguarded
      have hundisturbed :=
        (undisturbed_iff_guarded .read memory actions).mpr hguarded
      exact ⟨hundisturbed, answersOldest_of_undisturbed hundisturbed⟩

def plainRequest : List Byte := List.replicate sizeofPaxosAccepted 0

def plainAnswer : List Byte := List.replicate (sizeofInt + sizeofPaxosAccepted) 0

/-- A process releases the read device up to its last statement.  Another one
opens it and answers one request; a second one comes in. -/
def openingRun : List (HolderAction ℕ) :=
  [.openDevice 0, .release 0, .release 0, .release 0, .release 0,
    .openDevice 1, .addMessage plainRequest,
    .write 1 plainAnswer 44 WriteFaults.none, .addMessage plainRequest]

def asking : HolderAction ℕ := .read 1 plainAnswer ReadFaults.none

def answering : HolderAction ℕ := .write 1 plainAnswer 44 WriteFaults.none

/-- The last statement of the release comes between the second request and its
answer. -/
def strayRun : List (HolderAction ℕ) :=
  openingRun ++ asking :: ([.release 0] ++ answering :: [])

/-- Whether the second process holds the device, and the first index, after a
run. -/
def observedHolder (actions : List (HolderAction ℕ)) :
    Option (Bool × SlotId) :=
  match run (share .read) (Shared.start ℕ zeroMemory) actions with
  | .ok (state, _) =>
      some (decide (state.mode 1 = .holding), state.device.firstBuf)
  | .error _ => none

theorem run_of_observedHolder {actions : List (HolderAction ℕ)}
    {first : SlotId}
    (hobserved : observedHolder actions = some (true, first)) :
    ∃ state events,
      run (share .read) (Shared.start ℕ zeroMemory) actions =
        .ok (state, events) ∧
      state.mode 1 = .holding ∧ state.device.firstBuf = first := by
  rw [observedHolder] at hobserved
  split at hobserved
  · rename_i state events hrun
    obtain ⟨hholding, hfirst⟩ := Prod.mk.inj (Option.some.inj hobserved)
    exact ⟨state, events, hrun, of_decide_eq_true hholding, hfirst⟩
  · cases hobserved

/-- The request was read from slot 1; when its answer comes, slot 0 passes for
the oldest. -/
theorem strayRun_disturbs :
    ¬ Undisturbed .read (Shared.start ℕ zeroMemory) strayRun ∧
      ¬ AnswersOldest (Shared.start ℕ zeroMemory) strayRun := by
  obtain ⟨asked, events, hasked, hholding, hfirst⟩ := run_of_observedHolder
    (show observedHolder (openingRun ++ [asking]) = some (true, 1) by
      decide +kernel)
  obtain ⟨answered, later, hanswered, -, hmoved⟩ := run_of_observedHolder
    (show observedHolder ((openingRun ++ [asking]) ++ [.release 0]) =
        some (true, 0) by
      decide +kernel)
  obtain ⟨middle, first, second, hmiddle, hstray, -⟩ :=
    run_append_eq_ok.mp hanswered
  obtain ⟨rfl, rfl⟩ := Prod.mk.inj (Except.ok.inj (hasked.symm.trans hmiddle))
  have hnot : ¬ AnswersOldest (Shared.start ℕ zeroMemory) strayRun := by
    intro hanswers
    have hsame := hanswers openingRun plainAnswer ReadFaults.none [.release 0]
      plainAnswer 44 WriteFaults.none [] 1 asked answered events second rfl
      hasked hholding (by simp [HolderAction.OwnCall]) hstray
    rw [hfirst, hmoved] at hsame
    exact absurd hsame (by decide)
  exact ⟨fun hundisturbed => hnot (answersOldest_of_undisturbed hundisturbed),
    hnot⟩

end PaxosPersistence.Exclusion
