import PaxosPersistence.Core.Machine
import PaxosPersistence.Core.TornRecord
import PaxosPersistence.Kernel.ReadTest

/-!
# Answers compared while they are written

`read_persistence_write` clears a response structure and copies the header of
the answer over it, and nothing keeps a worker from comparing the response
meanwhile.  `wait_response` reads the words it compares one after the other,
too.  Here every store of the clearing, every word of the copy, in any order,
and every read of a comparison is a step of its own.

An answer comes into effect between its clearing and its copy.  What a worker
that finds a request has seen are words of answers in effect, but not always of
the same one.
-/

namespace PaxosPersistence.TornAnswers

open Function
open PaxosPersistence.ByteBlock
open PaxosPersistence.KernelDevice
open PaxosPersistence.Machine
open PaxosPersistence.Memory
open PaxosPersistence.PaxosTypes
open PaxosPersistence.ReadPersistence
open PaxosPersistence.ReadTest
open PaxosPersistence.TornRecord

/-! ## The words of a response -/

/-- The words that `clearPaxosAccepted` sets to zero. -/
inductive ClearedWord where
  | iid
  | promiseIid
  | ballot
  | paxosValueLen
  deriving DecidableEq

namespace ClearedWord

def get (accepted : PaxosAccepted) : ClearedWord → Word32
  | .iid => accepted.iid
  | .promiseIid => accepted.promiseIid
  | .ballot => accepted.ballot
  | .paxosValueLen => accepted.value.paxosValueLen

def set (accepted : PaxosAccepted) (word : Word32) :
    ClearedWord → PaxosAccepted
  | .iid => { accepted with iid := word }
  | .promiseIid => { accepted with promiseIid := word }
  | .ballot => { accepted with ballot := word }
  | .paxosValueLen =>
      { accepted with value := { accepted.value with paxosValueLen := word } }

/-- In the order of `clearPaxosAccepted`. -/
def all : List ClearedWord := [.iid, .promiseIid, .ballot, .paxosValueLen]

theorem mem_all (word : ClearedWord) : word ∈ all := by
  cases word <;> decide

theorem get_set (accepted : PaxosAccepted) (word : Word32)
    (cleared : ClearedWord) :
    get (set accepted word cleared) = update (get accepted) cleared word := by
  funext other
  by_cases hother : other = cleared
  · subst hother
    rw [update_self]
    cases other <;> rfl
  · rw [update_of_ne hother]
    cases cleared <;> cases other <;> first | rfl | exact absurd rfl hother

end ClearedWord

/-- All words of the structure, its padding included. -/
inductive HeaderWord where
  | cleared (word : ClearedWord)
  | aid
  | valueBallot
  | padding
  | valuePadding
  | paxosValueVal
  deriving DecidableEq

namespace HeaderWord

/-- One word of a copy. -/
def copy (source target : PaxosAccepted) : HeaderWord → PaxosAccepted
  | .cleared word => ClearedWord.set target (ClearedWord.get source word) word
  | .aid => { target with aid := source.aid }
  | .valueBallot => { target with valueBallot := source.valueBallot }
  | .padding => { target with padding := source.padding }
  | .valuePadding =>
      { target with
        value := { target.value with padding := source.value.padding } }
  | .paxosValueVal =>
      { target with
        value :=
          { target.value with paxosValueVal := source.value.paxosValueVal } }

def all : List HeaderWord :=
  ClearedWord.all.map .cleared ++
    [.aid, .valueBallot, .padding, .valuePadding, .paxosValueVal]

/-- A copied word is the only one that a copy changes. -/
theorem get_copy (source target : PaxosAccepted) (header : HeaderWord) :
    ClearedWord.get (copy source target header) =
      match header with
      | .cleared word =>
          update (ClearedWord.get target) word (ClearedWord.get source word)
      | _ => ClearedWord.get target := by
  cases header with
  | cleared word => exact ClearedWord.get_set _ _ _
  | _ =>
      funext other
      cases other <;> rfl

theorem copy_comm (source target : PaxosAccepted) (first second : HeaderWord) :
    copy source (copy source target first) second =
      copy source (copy source target second) first := by
  cases first with
  | cleared first =>
      cases second with
      | cleared second => cases first <;> cases second <;> rfl
      | _ => cases first <;> rfl
  | _ =>
      cases second with
      | cleared second => cases second <;> rfl
      | _ => rfl

/-- In whatever order the words come, in the end the source is there. -/
theorem foldl_copy (source target : PaxosAccepted) {order : List HeaderWord}
    (horder : order.Perm all) : order.foldl (copy source) target = source := by
  rw [horder.foldl_eq' (fun first _ second _ accepted =>
    copy_comm source accepted first second) target]
  simp only [all, ClearedWord.all, List.map_cons, List.map_nil,
    List.cons_append, List.nil_append, List.foldl_cons, List.foldl_nil, copy,
    ClearedWord.set, ClearedWord.get]

end HeaderWord

/-! ## Answers and comparisons in steps -/

inductive AnswerStage where
  /-- These words are still to be cleared, and then the value. -/
  | clearing (rest : List ClearedWord)
  /-- The value pointer has been saved, and these words are still to be
  copied. -/
  | copying (paxosVal : Addr) (left : List HeaderWord)

/-- A call of `read_persistence_write` that has found its callback. -/
structure RunningAnswer where
  slot : SlotId
  pointer : Addr
  buffer : List Byte
  len : ℕ
  faults : WriteFaults
  stage : AnswerStage

namespace RunningAnswer

variable (answer : RunningAnswer)

/-- The copy of the structure: its bytes and the number of missing ones. -/
def acceptedCopy : List Byte × ℕ :=
  copyFromUser answer.buffer sizeofInt sizeofPaxosAccepted
    answer.faults.accepted

def source : PaxosAccepted := PaxosAccepted.ofImage answer.acceptedCopy.1

/-- The copy of the value, if the structure just copied has one. -/
def valueCopy (accepted : PaxosAccepted) : List Byte × ℕ :=
  let paxosValueLen := accepted.value.paxosValueLen.toInt
  if 0 < paxosValueLen then
    copyFromUser answer.buffer (sizeofInt + sizeofPaxosAccepted)
      paxosValueLen.toNat answer.faults.value
  else ([], 0)

/-- What the call does once the structure is copied. -/
def finish (device : PaxosKernelDevice) (paxosVal : Addr) :
    Except Halt (PaxosKernelDevice × ℤ) :=
  let accepted := device.accepted answer.pointer
  let repaired := device.setAccepted answer.pointer
    { accepted with
      value := { accepted.value with paxosValueVal := paxosVal } }
  if answer.acceptedCopy.2 ≠ 0 then .ok (repaired, -1)
  else do
    let valueCopy := answer.valueCopy accepted
    let value ← checked ((repaired.values paxosVal).store 0 valueCopy.1)
    let removed := (repaired.setValue paxosVal value).dequeue
    let callback := removed.callbackBuf answer.slot
    if valueCopy.2 ≠ 0 then return (removed, -1)
    else if callback.isDone then return (removed, answer.len)
    else
      return (removed.setCallback answer.slot
        { callback with response := answer.pointer }, answer.len)

end RunningAnswer

deriving instance DecidableEq for PersistenceWork

/-- Where `wait_response` is in its condition. -/
inductive Comparison where
  | idle
  /-- `is_done` is read next. -/
  | testing (work : PersistenceWork)
  /-- `iid` is read next. -/
  | numbering (work : PersistenceWork)
  /-- `paxos_value_len` is read next. -/
  | measuring (work : PersistenceWork)
  /-- The verdict is counted and `is_done` is set next. -/
  | marking (work : PersistenceWork) (found : Bool)

/-- One read of the condition. -/
def Comparison.read (device : PaxosKernelDevice) : Comparison → Comparison
  | .testing work =>
      if (device.callbackBuf work.param).isDone then .marking work false
      else .numbering work
  | .numbering work =>
      if (device.accepted (device.callbackBuf work.param).response).iid =
          work.iid then
        .measuring work
      else .marking work false
  | .measuring work =>
      .marking work (decide (0 <
        (device.accepted
          (device.callbackBuf work.param).response).value.paxosValueLen.toInt))
  | comparison => comparison

/-- The read persistence device, its one writer, and the workers. -/
structure Answering where
  device : PaxosKernelDevice
  answer : Option RunningAnswer
  comparisons : ℕ → Comparison

def Answering.start (device : PaxosKernelDevice) : Answering where
  device := device
  answer := none
  comparisons := fun _ => .idle

inductive Event where
  | started (worker : ℕ) (work : PersistenceWork)
  /-- The response of the slot is cleared, and the copy begins. -/
  | tookEffect (slot : SlotId) (source : PaxosAccepted)
  | decided (worker : ℕ) (work : PersistenceWork) (found : Bool)
  deriving DecidableEq

inductive Action where
  | add (msg : List Byte)
  /-- A call of `read_persistence_write` up to its callback. -/
  | answer (buffer : List Byte) (len : ℕ) (faults : WriteFaults)
  /-- The next statement of `clearPaxosAccepted`. -/
  | clear
  | copy (word : HeaderWord)
  /-- The rest of the call. -/
  | finish
  | compare (worker : ℕ) (work : PersistenceWork)
  /-- The next read of a worker, or its mark. -/
  | read (worker : ℕ)

namespace Answering

variable (state : Answering)

def beginAnswer (buffer : List Byte) (len : ℕ) (faults : WriteFaults) :
    Except Halt Answering :=
  let idCopy := copyFromUser buffer 0 sizeofInt faults.bufferId
  if state.device.working = false ∨ idCopy.2 ≠ 0 then .ok state
  else do
    let slot ← slotAt (readWord 32 idCopy.1)
    return { state with
      answer := some
        { slot := slot
          pointer := (state.device.callbackBuf slot).response
          buffer := buffer
          len := len
          faults := faults
          stage := .clearing ClearedWord.all } }

/-- The response of an answer is changed. -/
def putResponse (answer : RunningAnswer) (accepted : PaxosAccepted)
    (stage : AnswerStage) : Answering :=
  { state with
    device := state.device.setAccepted answer.pointer accepted
    answer := some { answer with stage } }

def clear (answer : RunningAnswer) : Answering × List Event :=
  let accepted := state.device.accepted answer.pointer
  match answer.stage with
  | .clearing (word :: rest) =>
      (state.putResponse answer (ClearedWord.set accepted 0 word)
        (.clearing rest), [])
  | .clearing [] =>
      let paxosVal := accepted.value.paxosValueVal
      ({ state with
        device := state.device.setValue paxosVal (Block.zero maxPaxosValueSize)
        answer := some { answer with
          stage := .copying paxosVal HeaderWord.all } },
        [.tookEffect answer.slot answer.source])
  | .copying _ _ => (state, [])

def copy (answer : RunningAnswer) (word : HeaderWord) : Answering :=
  match answer.stage with
  | .copying paxosVal left =>
      if word ∈ left then
        state.putResponse answer
          (word.copy answer.source (state.device.accepted answer.pointer))
          (.copying paxosVal (left.erase word))
      else state
  | .clearing _ => state

def finish (answer : RunningAnswer) : Except Halt Answering :=
  match answer.stage with
  | .copying paxosVal [] => do
      let (device, _) ← answer.finish state.device paxosVal
      return { state with device, answer := none }
  | _ => .ok state

def setComparison (worker : ℕ) (comparison : Comparison) : Answering :=
  { state with comparisons := update state.comparisons worker comparison }

end Answering

/-- One step; there is one writer. -/
def answering : Step Answering Action Event Halt
  | state, .add msg => do
      let (device, _) ← readPersistenceAddMessage state.device msg
      return ({ state with device }, [])
  | state, .answer buffer len faults =>
      match state.answer with
      | some _ => .ok (state, [])
      | none => do
          let next ← state.beginAnswer buffer len faults
          return (next, [])
  | state, .clear =>
      match state.answer with
      | some answer => .ok (state.clear answer)
      | none => .ok (state, [])
  | state, .copy word =>
      match state.answer with
      | some answer => .ok (state.copy answer word, [])
      | none => .ok (state, [])
  | state, .finish =>
      match state.answer with
      | some answer => do
          let next ← state.finish answer
          return (next, [])
      | none => .ok (state, [])
  | state, .compare worker work =>
      match state.comparisons worker with
      | .idle =>
          .ok (state.setComparison worker (.testing work),
            [.started worker work])
      | _ => .ok (state, [])
  | state, .read worker =>
      match state.comparisons worker with
      | .marking work found =>
          .ok ({ state.setComparison worker .idle with
            device := markDone state.device work.param },
            [.decided worker work found])
      | comparison =>
          .ok (state.setComparison worker (comparison.read state.device), [])

/-! ## The whole call -/

section WholeAnswer

variable {state : Answering} {answer : RunningAnswer}

theorem run_clear (hanswer : state.answer = some answer)
    (hstage : answer.stage = .clearing ClearedWord.all) :
    run answering state (List.replicate 5 .clear) =
      .ok ({ state with
        device := state.device.clearPaxosAccepted answer.pointer
        answer := some { answer with
          stage := .copying
            (state.device.accepted answer.pointer).value.paxosValueVal
            HeaderWord.all } },
        [.tookEffect answer.slot answer.source]) := by
  obtain ⟨device, running, comparisons⟩ := state
  obtain ⟨slot, pointer, buffer, len, faults, stage⟩ := answer
  subst hanswer hstage
  simp [run, answering, Answering.clear, Answering.putResponse,
    ClearedWord.all, ClearedWord.set, RunningAnswer.source,
    RunningAnswer.acceptedCopy, PaxosKernelDevice.clearPaxosAccepted,
    PaxosKernelDevice.setAccepted, PaxosKernelDevice.setValue]

theorem run_copy {paxosVal : Addr} {order left : List HeaderWord}
    (horder : order.Perm left) (hanswer : state.answer = some answer)
    (hstage : answer.stage = .copying paxosVal left) :
    run answering state (order.map .copy) =
      .ok ({ state with
        device := state.device.setAccepted answer.pointer
          (order.foldl (HeaderWord.copy answer.source)
            (state.device.accepted answer.pointer))
        answer := some { answer with stage := .copying paxosVal [] } },
        []) := by
  induction order generalizing state answer left with
  | nil =>
      obtain rfl := List.nil_perm.mp horder
      obtain ⟨device, running, comparisons⟩ := state
      obtain ⟨slot, pointer, buffer, len, faults, stage⟩ := answer
      subst hanswer hstage
      simp [PaxosKernelDevice.setAccepted]
  | cons word order ih =>
      have hword : word ∈ left := horder.subset List.mem_cons_self
      have hrest : order.Perm (left.erase word) :=
        List.cons_perm_iff_perm_erase.mp horder |>.2
      have hfirst : answering state (.copy word) =
          .ok (state.putResponse answer
            (word.copy answer.source (state.device.accepted answer.pointer))
            (.copying paxosVal (left.erase word)), []) := by
        simp only [answering, hanswer, Answering.copy, hstage]
        rw [if_pos hword]
      refine run_cons_eq_ok.mpr ⟨_, [], [], hfirst, ?_, rfl⟩
      rw [ih hrest rfl rfl]
      simp [Answering.putResponse, PaxosKernelDevice.setAccepted,
        RunningAnswer.source, RunningAnswer.acceptedCopy]

/-- Behind the copy the call does what it does in one step. -/
theorem finish_eq (device : PaxosKernelDevice)
    (hpointer : answer.pointer = (device.callbackBuf answer.slot).response) :
    answer.finish
        ((device.clearPaxosAccepted answer.pointer).setAccepted answer.pointer
          answer.source)
        (device.accepted answer.pointer).value.paxosValueVal =
      answerCallback device answer.slot answer.buffer answer.len
        answer.faults := by
  rw [answerCallback, ← hpointer,
    PaxosKernelDevice.clearPaxosAccepted_paxosValueVal]
  rfl

/-- The steps of a call, with the words of its copy in any order, are the
call. -/
theorem run_answer {buffer : List Byte} {len : ℕ} {faults : WriteFaults}
    {slot : SlotId} {next : PaxosKernelDevice} {ret : ℤ}
    {order : List HeaderWord} (hidle : state.answer = none)
    (hworking : state.device.working = true)
    (hid : (copyFromUser buffer 0 sizeofInt faults.bufferId).2 = 0)
    (hslot : slotAt (readWord 32
      (copyFromUser buffer 0 sizeofInt faults.bufferId).1) = .ok slot)
    (hwrite : readPersistenceWrite state.device buffer len faults =
      .ok (next, ret)) (horder : order.Perm HeaderWord.all) :
    run answering state (.answer buffer len faults ::
        (List.replicate 5 .clear ++ (order.map .copy ++ [.finish]))) =
      .ok ({ state with device := next },
        [.tookEffect slot (PaxosAccepted.ofImage (copyFromUser buffer sizeofInt
          sizeofPaxosAccepted faults.accepted).1)]) := by
  obtain ⟨device, running, comparisons⟩ := state
  subst hidle
  change device.working = true at hworking
  let answer : RunningAnswer :=
    ⟨slot, (device.callbackBuf slot).response, buffer, len, faults,
      .clearing ClearedWord.all⟩
  have hbegin : answering ⟨device, none, comparisons⟩
      (.answer buffer len faults) =
        .ok (⟨device, some answer, comparisons⟩, []) := by
    simp [answering, Answering.beginAnswer, hworking, hid, hslot, bind,
      Except.bind, pure, Except.pure, answer]
  have hcallback : answerCallback device slot buffer len faults =
      .ok (next, ret) := by
    simpa [readPersistenceWrite, hworking, hid, hslot, bind, Except.bind]
      using hwrite
  refine run_cons_eq_ok.mpr ⟨_, [], _, hbegin, ?_, rfl⟩
  refine run_append_eq_ok.mpr ⟨_, _, [], run_clear rfl rfl, ?_, rfl⟩
  refine run_append_eq_ok.mpr ⟨_, [], [], run_copy horder rfl rfl, ?_, rfl⟩
  rw [HeaderWord.foldl_copy _ _ horder]
  have hfinish := (@finish_eq answer device rfl).trans hcallback
  refine run_cons_eq_ok.mpr ⟨_, [], [], ?_, rfl, rfl⟩
  exact bind_eq_ok.mpr
    ⟨_, bind_eq_ok.mpr ⟨(next, ret), hfinish, rfl⟩, rfl⟩

end WholeAnswer

/-! ## What a worker has seen -/

def Event.effectOn (slot : SlotId) : Event → Option PaxosAccepted
  | .tookEffect other source => if other = slot then some source else none
  | _ => none

/-- The response of a slot that is in effect: that of the answer which took
effect there last, or the one before any answer. -/
def inEffect (device : PaxosKernelDevice) (slot : SlotId)
    (history : List Event) : PaxosAccepted :=
  latest (Event.effectOn slot)
    (device.accepted (device.callbackBuf slot).response) history

/-- What a worker has seen that finds a request: first its number, in a
response that was in effect after the worker started, and then the length of a
value, in a response that was in effect later. -/
structure Justified (device : PaxosKernelDevice) (worker : ℕ)
    (work : PersistenceWork) (history earlier first second : List Event) :
    Prop where
  started : earlier ++ [.started worker work] <+: first
  numbered : first <+: second
  measured : second <+: history
  iid_eq : work.iid ≠ 0 →
    (inEffect device work.param first).iid = work.iid
  value : 0 < (inEffect device work.param second).value.paxosValueLen.toInt

/-- What a comparison has seen so far. -/
def Seen (device : PaxosKernelDevice) (history : List Event) (worker : ℕ) :
    Comparison → Prop
  | .idle => True
  | .testing work | .numbering work =>
      ∃ earlier, earlier ++ [.started worker work] <+: history
  | .measuring work =>
      ∃ earlier first, earlier ++ [.started worker work] <+: first ∧
        first <+: history ∧
        (work.iid ≠ 0 → (inEffect device work.param first).iid = work.iid)
  | .marking work found => found = true →
      ∃ earlier first second,
        Justified device worker work history earlier first second

/-- A verdict is justified when it comes. -/
def Justifies (device : PaxosKernelDevice) (before : List Event) :
    Event → Prop
  | .decided worker work true => ∃ earlier first second,
      Justified device worker work before earlier first second
  | _ => True

theorem Seen.append {device : PaxosKernelDevice} {history : List Event}
    {worker : ℕ} {comparison : Comparison}
    (hseen : Seen device history worker comparison) (events : List Event) :
    Seen device (history ++ events) worker comparison := by
  have hprefix : history <+: history ++ events := List.prefix_append _ _
  cases comparison with
  | idle => trivial
  | testing work =>
      obtain ⟨earlier, hstarted⟩ := hseen
      exact ⟨earlier, hstarted.trans hprefix⟩
  | numbering work =>
      obtain ⟨earlier, hstarted⟩ := hseen
      exact ⟨earlier, hstarted.trans hprefix⟩
  | measuring work =>
      obtain ⟨earlier, first, hstarted, hfirst, hiid⟩ := hseen
      exact ⟨earlier, first, hstarted, hfirst.trans hprefix, hiid⟩
  | marking work found =>
      intro hfound
      obtain ⟨earlier, first, second, hjustified⟩ := hseen hfound
      exact ⟨earlier, first, second,
        { hjustified with measured := hjustified.measured.trans hprefix }⟩

/-- The responses are those in effect with some words cleared, whoever is at
work on them. -/
structure Torn (memory : DeviceMemory) (device : PaxosKernelDevice)
    (state : Answering) (history : List Event) : Prop where
  response_eq : ∀ slot,
    (state.device.callbackBuf slot).response = memory.response slot
  pointer_eq : ∀ answer, state.answer = some answer →
    answer.pointer = memory.response answer.slot
  blanked : ∀ slot,
    Blanked 0 (ClearedWord.get (inEffect device slot history))
      (ClearedWord.get (state.device.accepted (memory.response slot)))
  clearing : ∀ answer rest, state.answer = some answer →
    answer.stage = .clearing rest → ∀ word ∉ rest,
      ClearedWord.get (state.device.accepted answer.pointer) word = 0
  copying : ∀ answer paxosVal left, state.answer = some answer →
    answer.stage = .copying paxosVal left →
      inEffect device answer.slot history = answer.source
  seen : ∀ worker, Seen device history worker (state.comparisons worker)
  justified : Historically (Justifies device) history

/-- Two devices with the same responses, as far as their cleared words go. -/
structure SameWords (first second : PaxosKernelDevice) : Prop where
  response_eq : ∀ slot, (second.callbackBuf slot).response =
    (first.callbackBuf slot).response
  get_eq : ∀ pointer, ClearedWord.get (second.accepted pointer) =
    ClearedWord.get (first.accepted pointer)

theorem sameWords_enqueue (device : PaxosKernelDevice)
    (message : Block slotSize) : SameWords device (device.enqueue message) where
  response_eq slot := by
    by_cases hslot : slot = device.currentBuf
    · rw [hslot]
      simp [PaxosKernelDevice.enqueue]
    · simp [PaxosKernelDevice.enqueue, hslot]
  get_eq _ := rfl

theorem sameWords_addMessage {device next : PaxosKernelDevice}
    {msg : List Byte} {callback : Option SlotId}
    (hadd : readPersistenceAddMessage device msg = .ok (next, callback)) :
    SameWords device next := by
  rw [readPersistenceAddMessage] at hadd
  split at hadd
  · cases hadd
    exact ⟨fun _ => rfl, fun _ => rfl⟩
  · obtain ⟨cleared, -, hadd⟩ := bind_eq_ok.mp hadd
    obtain ⟨message, -, hadd⟩ := bind_eq_ok.mp hadd
    cases hadd
    exact sameWords_enqueue device message

theorem sameWords_markDone (device : PaxosKernelDevice) (slot : SlotId) :
    SameWords device (markDone device slot) where
  response_eq := response_markDone device slot
  get_eq _ := rfl

theorem accepted_setAccepted_of_ne {device : PaxosKernelDevice}
    {pointer other : Addr} (hother : other ≠ pointer)
    (accepted : PaxosAccepted) :
    (device.setAccepted pointer accepted).accepted other =
      device.accepted other :=
  update_of_ne hother _ _

/-- Putting the value pointer back is no matter of the cleared words. -/
theorem sameWords_repair (device : PaxosKernelDevice) (pointer paxosVal : Addr) :
    SameWords device (device.setAccepted pointer
      { device.accepted pointer with
        value :=
          { (device.accepted pointer).value with paxosValueVal := paxosVal } })
    where
  response_eq _ := rfl
  get_eq other := by
    funext word
    by_cases hother : other = pointer
    · rw [hother, PaxosKernelDevice.setAccepted_accepted]
      cases word <;> rfl
    · rw [accepted_setAccepted_of_ne hother]

theorem SameWords.trans {first second third : PaxosKernelDevice}
    (hfirst : SameWords first second) (hsecond : SameWords second third) :
    SameWords first third where
  response_eq slot := (hsecond.response_eq slot).trans (hfirst.response_eq slot)
  get_eq pointer := (hsecond.get_eq pointer).trans (hfirst.get_eq pointer)

/-- So is an assignment of the pointer that is there already. -/
theorem sameWords_setCallback {device : PaxosKernelDevice} {slot : SlotId}
    {pointer : Addr}
    (hpointer : (device.callbackBuf slot).response = pointer) :
    SameWords device (device.setCallback slot
      { device.callbackBuf slot with response := pointer }) where
  response_eq other := by
    change (update device.callbackBuf slot _ other).response = _
    by_cases hother : other = slot
    · rw [hother, update_self]
      exact hpointer.symm
    · rw [update_of_ne hother]
  get_eq _ := rfl

/-- So is the rest of the call. -/
theorem sameWords_finish {answer : RunningAnswer}
    {device next : PaxosKernelDevice} {paxosVal : Addr} {ret : ℤ}
    (hpointer : (device.callbackBuf answer.slot).response = answer.pointer)
    (hfinish : answer.finish device paxosVal = .ok (next, ret)) :
    SameWords device next := by
  have hrepair := sameWords_repair device answer.pointer paxosVal
  rw [RunningAnswer.finish] at hfinish
  dsimp only at hfinish
  split at hfinish
  · cases hfinish
    exact hrepair
  · obtain ⟨value, -, hfinish⟩ := bind_eq_ok.mp hfinish
    split at hfinish
    · cases hfinish
      exact hrepair.trans ⟨fun _ => rfl, fun _ => rfl⟩
    · split at hfinish
      · cases hfinish
        exact hrepair.trans ⟨fun _ => rfl, fun _ => rfl⟩
      · cases hfinish
        refine hrepair.trans (SameWords.trans ?_ (sameWords_setCallback ?_))
        · exact ⟨fun _ => rfl, fun _ => rfl⟩
        · exact hpointer

namespace Torn

variable {memory : DeviceMemory} {device : PaxosKernelDevice}
variable {state : Answering} {history : List Event}

theorem start (howned : Owned memory device) :
    Torn memory device (Answering.start device) [] where
  response_eq := howned.response_eq
  pointer_eq answer hanswer := by cases hanswer
  blanked slot := by
    rw [← howned.response_eq]
    exact blanked_self 0 _
  clearing answer rest hanswer := by cases hanswer
  copying answer paxosVal left hanswer := by cases hanswer
  seen _ := trivial
  justified := historically_nil

theorem replaceDevice (htorn : Torn memory device state history)
    {next : PaxosKernelDevice} (hsame : SameWords state.device next) :
    Torn memory device { state with device := next } history where
  response_eq slot := (hsame.response_eq slot).trans (htorn.response_eq slot)
  pointer_eq := htorn.pointer_eq
  blanked slot := by
    rw [hsame.get_eq]
    exact htorn.blanked slot
  clearing answer rest hanswer hstage word hword := by
    rw [hsame.get_eq]
    exact htorn.clearing answer rest hanswer hstage word hword
  copying := htorn.copying
  seen := htorn.seen
  justified := htorn.justified

theorem setComparison (htorn : Torn memory device state history)
    {worker : ℕ} {comparison : Comparison}
    (hseen : Seen device history worker comparison) :
    Torn memory device (state.setComparison worker comparison) history where
  response_eq := htorn.response_eq
  pointer_eq := htorn.pointer_eq
  blanked := htorn.blanked
  clearing := htorn.clearing
  copying := htorn.copying
  seen other := by
    change Seen device history other
      (update state.comparisons worker comparison other)
    by_cases hother : other = worker
    · rw [hother, update_self]
      exact hseen
    · rw [update_of_ne hother]
      exact htorn.seen other
  justified := htorn.justified

/-- An event of a worker brings no response into effect. -/
theorem append (htorn : Torn memory device state history) {event : Event}
    (hnone : ∀ slot, event.effectOn slot = none)
    (hjustifies : Justifies device history event) :
    Torn memory device state (history ++ [event]) := by
  have heffect (slot : SlotId) :
      inEffect device slot (history ++ [event]) =
        inEffect device slot history := by
    apply latest_append_of_none
    intro other hother
    rw [List.mem_singleton.mp hother]
    exact hnone slot
  exact
    { response_eq := htorn.response_eq
      pointer_eq := htorn.pointer_eq
      blanked := fun slot => by
        rw [heffect]
        exact htorn.blanked slot
      clearing := htorn.clearing
      copying := fun answer paxosVal left hanswer hstage => by
        rw [heffect]
        exact htorn.copying answer paxosVal left hanswer hstage
      seen := fun worker => (htorn.seen worker).append [event]
      justified := htorn.justified.concat hjustifies }

/-- The response of the running answer is changed, and no other. -/
theorem blanked_setAccepted (htorn : Torn memory device state history)
    {answer : RunningAnswer} (hanswer : state.answer = some answer)
    {accepted : PaxosAccepted}
    (hblanked : Blanked 0
      (ClearedWord.get (inEffect device answer.slot history))
      (ClearedWord.get accepted)) (slot : SlotId) :
    Blanked 0 (ClearedWord.get (inEffect device slot history))
      (ClearedWord.get ((state.device.setAccepted answer.pointer
        accepted).accepted (memory.response slot))) := by
  have hpointer := htorn.pointer_eq answer hanswer
  by_cases hslot : slot = answer.slot
  · rw [hslot, hpointer, PaxosKernelDevice.setAccepted_accepted]
    exact hblanked
  · rw [accepted_setAccepted_of_ne]
    · exact htorn.blanked slot
    · rw [hpointer]
      exact fun hsame => hslot (memory.response_injective hsame)

theorem response (htorn : Torn memory device state history)
    {answer : RunningAnswer} (hanswer : state.answer = some answer) :
    Blanked 0 (ClearedWord.get (inEffect device answer.slot history))
      (ClearedWord.get (state.device.accepted answer.pointer)) := by
  rw [htorn.pointer_eq answer hanswer]
  exact htorn.blanked answer.slot

theorem clearWord (htorn : Torn memory device state history)
    {answer : RunningAnswer} (hanswer : state.answer = some answer)
    {word : ClearedWord} {rest : List ClearedWord}
    (hstage : answer.stage = .clearing (word :: rest)) :
    Torn memory device
      (state.putResponse answer
        (ClearedWord.set (state.device.accepted answer.pointer) 0 word)
        (.clearing rest)) history where
  response_eq := htorn.response_eq
  pointer_eq other hother := by
    cases hother
    exact htorn.pointer_eq answer hanswer
  blanked := by
    apply htorn.blanked_setAccepted hanswer
    rw [ClearedWord.get_set]
    exact (htorn.response hanswer).clear word
  clearing other left hother hleft cleared hcleared := by
    cases hother
    cases hleft
    change ClearedWord.get ((state.device.setAccepted answer.pointer
      _).accepted answer.pointer) cleared = 0
    rw [PaxosKernelDevice.setAccepted_accepted, ClearedWord.get_set]
    by_cases hword : cleared = word
    · rw [hword, update_self]
    · rw [update_of_ne hword]
      apply htorn.clearing answer _ hanswer hstage
      exact fun hmem => (List.mem_cons.mp hmem).elim hword hcleared
  copying other paxosVal left hother hleft := by
    cases hother
    cases hleft
  seen := htorn.seen
  justified := htorn.justified

/-- With every word cleared the new answer comes into effect. -/
theorem takeEffect (htorn : Torn memory device state history)
    {answer : RunningAnswer} (hanswer : state.answer = some answer)
    (hstage : answer.stage = .clearing []) (paxosVal : Addr)
    (value : Block maxPaxosValueSize) :
    Torn memory device
      { state with
        device := state.device.setValue paxosVal value
        answer := some { answer with
          stage := .copying paxosVal HeaderWord.all } }
      (history ++ [.tookEffect answer.slot answer.source]) where
  response_eq := htorn.response_eq
  pointer_eq other hother := by
    cases hother
    exact htorn.pointer_eq answer hanswer
  blanked slot := by
    by_cases hslot : slot = answer.slot
    · apply blanked_of_eq_blank
      funext word
      rw [hslot, ← htorn.pointer_eq answer hanswer]
      exact htorn.clearing answer [] hanswer hstage word List.not_mem_nil
    · have heffect : inEffect device slot
          (history ++ [.tookEffect answer.slot answer.source]) =
            inEffect device slot history := by
        apply latest_append_of_none
        intro event hevent
        rw [List.mem_singleton.mp hevent]
        exact if_neg (Ne.symm hslot)
      rw [heffect]
      exact htorn.blanked slot
  clearing other rest hother hrest := by
    cases hother
    cases hrest
  copying other saved left hother hleft := by
    cases hother
    exact latest_concat_of_some history (if_pos rfl)
  seen worker := (htorn.seen worker).append _
  justified := htorn.justified.concat trivial

theorem copyWord (htorn : Torn memory device state history)
    {answer : RunningAnswer} (hanswer : state.answer = some answer)
    {paxosVal : Addr} {left : List HeaderWord}
    (hstage : answer.stage = .copying paxosVal left) (word : HeaderWord)
    (rest : List HeaderWord) :
    Torn memory device
      (state.putResponse answer
        (word.copy answer.source (state.device.accepted answer.pointer))
        (.copying paxosVal rest)) history where
  response_eq := htorn.response_eq
  pointer_eq other hother := by
    cases hother
    exact htorn.pointer_eq answer hanswer
  blanked := by
    apply htorn.blanked_setAccepted hanswer
    have hsource := htorn.copying answer paxosVal left hanswer hstage
    have hresponse := htorn.response hanswer
    rw [HeaderWord.get_copy]
    cases word with
    | cleared word =>
        rw [hsource] at hresponse ⊢
        exact hresponse.store word
    | _ => exact hresponse
  clearing other left hother hleft := by
    cases hother
    cases hleft
  copying other saved remaining hother hremaining := by
    cases hother
    exact htorn.copying answer paxosVal left hanswer hstage
  seen := htorn.seen
  justified := htorn.justified

/-- Between two calls nothing is being written. -/
theorem endAnswer (htorn : Torn memory device state history) :
    Torn memory device { state with answer := none } history where
  response_eq := htorn.response_eq
  pointer_eq answer hanswer := by cases hanswer
  blanked := htorn.blanked
  clearing answer rest hanswer := by cases hanswer
  copying answer paxosVal left hanswer := by cases hanswer
  seen := htorn.seen
  justified := htorn.justified

theorem beginAnswer (htorn : Torn memory device state history)
    {answer : RunningAnswer} (hstage : answer.stage = .clearing ClearedWord.all)
    (hpointer : answer.pointer =
      (state.device.callbackBuf answer.slot).response) :
    Torn memory device { state with answer := some answer } history where
  response_eq := htorn.response_eq
  pointer_eq other hother := by
    cases hother
    exact hpointer.trans (htorn.response_eq answer.slot)
  blanked := htorn.blanked
  clearing other rest hother hrest word hword := by
    cases hother
    rw [hstage] at hrest
    cases hrest
    exact absurd (ClearedWord.mem_all word) hword
  copying other paxosVal left hother hleft := by
    cases hother
    rw [hstage] at hleft
    cases hleft
  seen := htorn.seen
  justified := htorn.justified

/-- What a worker reads, if it is not zero, is in effect. -/
theorem readWord (htorn : Torn memory device state history) (slot : SlotId)
    (word : ClearedWord)
    (hword : ClearedWord.get (state.device.accepted
      (state.device.callbackBuf slot).response) word ≠ 0) :
    ClearedWord.get (inEffect device slot history) word =
      ClearedWord.get (state.device.accepted
        (state.device.callbackBuf slot).response) word := by
  rw [htorn.response_eq] at hword ⊢
  exact ((htorn.blanked slot).eq_of_ne_blank hword).symm

/-- Each read of a comparison sees what is in effect at that moment. -/
theorem seen_read (htorn : Torn memory device state history) {worker : ℕ}
    {comparison : Comparison} (hseen : Seen device history worker comparison) :
    Seen device history worker (comparison.read state.device) := by
  cases comparison with
  | idle => trivial
  | testing work =>
      rw [Comparison.read]
      split
      · exact fun hfound => Bool.noConfusion hfound
      · exact hseen
  | numbering work =>
      rw [Comparison.read]
      split
      · next hiid =>
        obtain ⟨earlier, hstarted⟩ := hseen
        refine ⟨earlier, history, hstarted, List.prefix_rfl, fun hwork => ?_⟩
        exact (htorn.readWord work.param .iid
          (fun hzero => hwork (hiid.symm.trans hzero))).trans hiid
      · exact fun hfound => Bool.noConfusion hfound
  | measuring work =>
      obtain ⟨earlier, first, hstarted, hfirst, hiid⟩ := hseen
      intro hfound
      have hpositive := of_decide_eq_true hfound
      have hlen := htorn.readWord work.param .paxosValueLen fun hzero => by
        change (_ : Word32) = 0 at hzero
        rw [ClearedWord.get] at hzero
        rw [hzero] at hpositive
        exact absurd hpositive (by decide)
      exact ⟨earlier, first, history,
        { started := hstarted
          numbered := hfirst
          measured := List.prefix_rfl
          iid_eq := hiid
          value := by
            rw [ClearedWord.get, ClearedWord.get] at hlen
            rw [hlen]
            exact hpositive }⟩
  | marking work found => exact hseen

/-! ### Steps -/

section Steps

variable {next : Answering} {events : List Event}

theorem add {msg : List Byte} (htorn : Torn memory device state history)
    (hstep : answering state (.add msg) = .ok (next, events)) :
    Torn memory device next (history ++ events) := by
  obtain ⟨⟨added, callback⟩, hadd, hreturned⟩ := bind_eq_ok.mp hstep
  cases hreturned
  rw [List.append_nil]
  exact htorn.replaceDevice (sameWords_addMessage hadd)

theorem answer {buffer : List Byte} {len : ℕ} {faults : WriteFaults}
    (htorn : Torn memory device state history)
    (hstep : answering state (.answer buffer len faults) =
      .ok (next, events)) :
    Torn memory device next (history ++ events) := by
  rw [answering] at hstep
  split at hstep
  · cases hstep
    rw [List.append_nil]
    exact htorn
  · obtain ⟨begun, hbegin, hreturned⟩ := bind_eq_ok.mp hstep
    cases hreturned
    rw [List.append_nil]
    rw [Answering.beginAnswer] at hbegin
    split at hbegin
    · cases hbegin
      exact htorn
    · obtain ⟨slot, -, hreturned⟩ := bind_eq_ok.mp hbegin
      cases hreturned
      exact htorn.beginAnswer rfl rfl

theorem clear (htorn : Torn memory device state history)
    (hstep : answering state .clear = .ok (next, events)) :
    Torn memory device next (history ++ events) := by
  rw [answering] at hstep
  split at hstep
  · next answer hanswer =>
    have hcleared := Except.ok.inj hstep
    rw [Answering.clear] at hcleared
    dsimp only at hcleared
    split at hcleared
    · next word rest hstage =>
      cases hcleared
      rw [List.append_nil]
      exact htorn.clearWord hanswer hstage
    · next hstage =>
      cases hcleared
      exact htorn.takeEffect hanswer hstage _ _
    · cases hcleared
      rw [List.append_nil]
      exact htorn
  · cases hstep
    rw [List.append_nil]
    exact htorn

theorem copy {word : HeaderWord} (htorn : Torn memory device state history)
    (hstep : answering state (.copy word) = .ok (next, events)) :
    Torn memory device next (history ++ events) := by
  rw [answering] at hstep
  split at hstep
  · next answer hanswer =>
    cases hstep
    rw [List.append_nil, Answering.copy]
    split
    · next paxosVal left hstage =>
      split
      · exact htorn.copyWord hanswer hstage word _
      · exact htorn
    · exact htorn
  · cases hstep
    rw [List.append_nil]
    exact htorn

theorem finish (htorn : Torn memory device state history)
    (hstep : answering state .finish = .ok (next, events)) :
    Torn memory device next (history ++ events) := by
  rw [answering] at hstep
  split at hstep
  · next answer hanswer =>
    obtain ⟨finished, hfinish, hreturned⟩ := bind_eq_ok.mp hstep
    cases hreturned
    rw [List.append_nil]
    rw [Answering.finish] at hfinish
    split at hfinish
    · obtain ⟨⟨written, ret⟩, hwritten, hreturned⟩ := bind_eq_ok.mp hfinish
      cases hreturned
      have hpointer : (state.device.callbackBuf answer.slot).response =
          answer.pointer :=
        (htorn.response_eq answer.slot).trans
          (htorn.pointer_eq answer hanswer).symm
      exact (htorn.replaceDevice (sameWords_finish hpointer hwritten)).endAnswer
    · cases hfinish
      exact htorn
  · cases hstep
    rw [List.append_nil]
    exact htorn

theorem compare {worker : ℕ} {work : PersistenceWork}
    (htorn : Torn memory device state history)
    (hstep : answering state (.compare worker work) = .ok (next, events)) :
    Torn memory device next (history ++ events) := by
  rw [answering] at hstep
  split at hstep
  · cases hstep
    have hstarted : Justifies device history (.started worker work) := trivial
    exact (htorn.append (fun _ => rfl) hstarted).setComparison
      ⟨history, List.prefix_rfl⟩
  · cases hstep
    rw [List.append_nil]
    exact htorn

theorem read {worker : ℕ} (htorn : Torn memory device state history)
    (hstep : answering state (.read worker) = .ok (next, events)) :
    Torn memory device next (history ++ events) := by
  rw [answering] at hstep
  have hseen := htorn.seen worker
  split at hstep
  · next work found hcomparison =>
    cases hstep
    rw [hcomparison] at hseen
    have hjustifies : Justifies device history (.decided worker work found) := by
      cases found with
      | true => exact hseen rfl
      | false => trivial
    have hdecided := htorn.append (fun _ => rfl) hjustifies
    exact (hdecided.setComparison
      (show Seen device _ worker .idle from trivial)).replaceDevice
        (sameWords_markDone state.device work.param)
  · cases hstep
    rw [List.append_nil]
    exact htorn.setComparison (htorn.seen_read hseen)

theorem step {action : Action} (htorn : Torn memory device state history)
    (hstep : answering state action = .ok (next, events)) :
    Torn memory device next (history ++ events) := by
  cases action with
  | add msg => exact htorn.add hstep
  | answer buffer len faults => exact htorn.answer hstep
  | clear => exact htorn.clear hstep
  | copy word => exact htorn.copy hstep
  | finish => exact htorn.finish hstep
  | compare worker work => exact htorn.compare hstep
  | read worker => exact htorn.read hstep

end Steps

end Torn

end PaxosPersistence.TornAnswers
