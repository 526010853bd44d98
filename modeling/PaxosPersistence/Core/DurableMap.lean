import PaxosPersistence.Core.Machine
import PaxosPersistence.Core.TransactionalMap

/-!
# A durable map behind two queues

Writes are accepted first and made durable later, in order.  Reads are
requested first; later the oldest of them is looked up in what is durable then,
and answered.  Whatever waits may be dropped.  A history is explained when each
of its events does one of these things.  Every answer in such a history agrees
with a single moment between its own request and itself, and no write is lost
except where the history says so.
-/

namespace PaxosPersistence.DurableMap

open PaxosPersistence.Machine
open PaxosPersistence.TransactionalMap

variable {E Key Value Reply : Type*}

/-- What an event does. -/
inductive Label (Key Value Reply : Type*) where
  | silent
  | write (key : Key) (value : Value)
  | commit (key : Key) (value : Value)
  /-- The oldest write is given up. -/
  | discard (key : Key) (value : Value)
  | dropWrites
  | request (key : Key)
  | lookup
  | answer (reply : Reply)
  | dropLookup
  | dropReads

/-- The writes accepted but not durable, the durable ones, the reads not
answered, and what was durable when the oldest of them was looked up. -/
structure State (Key Value : Type*) where
  waiting : List (Key × Value)
  log : List (Key × Value)
  reads : List Key
  seen : Option (List (Key × Value))

def State.empty (Key Value : Type*) : State Key Value where
  waiting := []
  log := []
  reads := []
  seen := none

/-! ## What is kept of the writes -/

section Writes

variable (label : E → Label Key Value Reply)

/-- The writes accepted in a history. -/
def writtenIn (history : List E) : List (Key × Value) :=
  history.filterMap fun event =>
    match label event with
    | .write key value => some (key, value)
    | _ => none

/-- The writes made durable. -/
def committedIn (history : List E) : List (Key × Value) :=
  history.filterMap fun event =>
    match label event with
    | .commit key value => some (key, value)
    | _ => none

/-- The writes made durable or given up, one by one. -/
def endedIn (history : List E) : List (Key × Value) :=
  history.filterMap fun event =>
    match label event with
    | .commit key value => some (key, value)
    | .discard key value => some (key, value)
    | _ => none

/-- Where the writes have just been dropped, or have yet to come. -/
def Fresh (history : List E) : Prop :=
  history = [] ∨ ∃ before event, history = before ++ [event] ∧
    label event = .dropWrites

end Writes

section Concat

variable {label : E → Label Key Value Reply} {history : List E} {event : E}

theorem committedIn_append_of_ne {more : List E}
    (hmore : ∀ event ∈ more, ∀ key value, label event ≠ .commit key value) :
    committedIn label (history ++ more) = committedIn label history := by
  unfold committedIn
  rw [List.filterMap_append, List.append_right_eq_self]
  apply List.filterMap_eq_nil_iff.mpr
  intro event hevent
  have hnot := hmore event hevent
  split
  · rename_i key value hlabel
    exact absurd hlabel (hnot key value)
  · rfl

theorem committedIn_concat_of_ne
    (hlabel : ∀ key value, label event ≠ .commit key value) :
    committedIn label (history ++ [event]) = committedIn label history :=
  committedIn_append_of_ne fun other hother => by
    rw [List.mem_singleton.mp hother]
    exact hlabel

theorem committedIn_concat_commit {key : Key} {value : Value}
    (hlabel : label event = .commit key value) :
    committedIn label (history ++ [event]) =
      committedIn label history ++ [(key, value)] := by
  unfold committedIn
  rw [List.filterMap_append]
  simp [hlabel]

end Concat

/-! ## Atomic answers -/

def Label.isRequest : Label Key Value Reply → Bool
  | .request _ => true
  | _ => false

def Label.isAnswer : Label Key Value Reply → Bool
  | .answer _ => true
  | _ => false

def Label.isDropReads : Label Key Value Reply → Bool
  | .dropReads => true
  | _ => false

section Since

variable (label : E → Label Key Value Reply)
variable (counts : Label Key Value Reply → Bool)

/-- The number of such events since the reads were last dropped. -/
def countSince (history : List E) : ℕ :=
  history.foldl (fun count event =>
    if (label event).isDropReads then 0
    else if counts (label event) then count + 1 else count) 0

theorem countSince_concat (history : List E) (event : E) :
    countSince label counts (history ++ [event]) =
      if (label event).isDropReads then 0
      else if counts (label event) then countSince label counts history + 1
      else countSince label counts history := by
  simp [countSince]

/-- Without such an event in between the numbers add up. -/
theorem countSince_append {more : List E}
    (hkept : ∀ event ∈ more, (label event).isDropReads = false)
    (history : List E) :
    countSince label counts (history ++ more) =
      countSince label counts history +
        more.countP fun event => counts (label event) := by
  induction more using List.reverseRecOn with
  | nil => simp
  | append_singleton more event ih =>
      have hmore := ih fun other hother =>
        hkept other (List.mem_append_left _ hother)
      rw [← List.append_assoc, countSince_concat, hkept event (by simp), hmore,
        List.countP_append, List.countP_singleton, if_neg Bool.false_ne_true]
      by_cases hcounts : counts (label event) = true
      · rw [if_pos hcounts, if_pos hcounts, Nat.add_assoc]
      · rw [if_neg hcounts, if_neg hcounts, Nat.add_zero]

end Since

/-- The read requested there is still to be answered: it has this number, and
reads have not been dropped since. -/
structure PendingSince (label : E → Label Key Value Reply)
    (history before : List E) (request : E) (key : Key) (number : ℕ)
    (after : List E) : Prop where
  history_eq : history = before ++ request :: after
  request_eq : label request = .request key
  kept : ∀ event ∈ after, (label event).isDropReads = false
  number_eq : countSince label Label.isRequest before = number

/-- Where the reads of a state were requested and looked up. -/
structure Located (label : E → Label Key Value Reply) (history : List E)
    (state : State Key Value) : Prop where
  log_eq : state.log = committedIn label history
  count_eq : countSince label Label.isRequest history =
    countSince label Label.isAnswer history + state.reads.length
  pending : ∀ index key, state.reads[index]? = some key →
    ∃ before request after, PendingSince label history before request key
      (countSince label Label.isAnswer history + index) after
  looked : ∀ log, state.seen = some log → ∃ before request key between lookup
    after rest, state.reads = key :: rest ∧
      PendingSince label history before request key
        (countSince label Label.isAnswer history) (between ++ lookup :: after) ∧
      label lookup = .lookup ∧
      log = committedIn label (before ++ request :: between)

section Located

variable {label : E → Label Key Value Reply} {history : List E}
variable {state next : State Key Value} {event : E}

/-- Later events leave a pending read where it was requested. -/
theorem PendingSince.concat {before after : List E} {request : E} {key : Key}
    {number : ℕ}
    (hpending : PendingSince label history before request key number after)
    (hkept : (label event).isDropReads = false) :
    PendingSince label (history ++ [event]) before request key number
      (after ++ [event]) where
  history_eq := by rw [hpending.history_eq]; simp
  request_eq := hpending.request_eq
  kept := by
    intro other hother
    rcases List.mem_append.mp hother with hafter | hlast
    · exact hpending.kept other hafter
    · rwa [List.mem_singleton.mp hlast]
  number_eq := hpending.number_eq

/-- A number names one request. -/
theorem PendingSince.before_eq {before after other later : List E}
    {request second : E} {key key' : Key} {number : ℕ}
    (hpending : PendingSince label history before request key number after)
    (hother : PendingSince label history other second key' number later) :
    before = other := by
  wlog hlength : before.length ≤ other.length generalizing before after other
    later request second key key'
  · exact (this hother hpending (Nat.le_of_not_le hlength)).symm
  have hsame := hpending.history_eq.symm.trans hother.history_eq
  obtain ⟨between, hbetween, hrest⟩ | ⟨between, hbetween, hrest⟩ :=
    List.append_eq_append_iff.mp hsame
  · cases between with
    | nil => rw [hbetween, List.append_nil]
    | cons first between =>
        -- the first request would be counted before the second
        obtain ⟨rfl, hafter⟩ := List.cons.inj hrest
        have hkept : ∀ event ∈ request :: between,
            (label event).isDropReads = false := by
          intro event hevent
          rcases List.mem_cons.mp hevent with rfl | htail
          · rw [hpending.request_eq]
            rfl
          · apply hpending.kept
            rw [hafter]
            exact List.mem_append_left _ htail
        have hnumber := hother.number_eq
        rw [hbetween, countSince_append label Label.isRequest hkept,
          hpending.number_eq, List.countP_cons, hpending.request_eq] at hnumber
        simp [Label.isRequest] at hnumber
  · rw [hbetween, List.length_append] at hlength
    have hnil : between = [] := List.eq_nil_of_length_eq_zero (by omega)
    rw [hbetween, hnil, List.append_nil]

theorem located_empty :
    Located label [] (State.empty Key Value) where
  log_eq := rfl
  count_eq := rfl
  pending index key hread := by simp [State.empty] at hread
  looked log hseen := by simp [State.empty] at hseen

/-- An event that neither requests, answers nor drops a read. -/
theorem Located.keep (hlocated : Located label history state)
    (hrequest : (label event).isRequest = false)
    (hanswer : (label event).isAnswer = false)
    (hdrop : (label event).isDropReads = false)
    (hreads : next.reads = state.reads)
    (hseen : ∀ log, next.seen = some log → state.seen = some log)
    (hlog : next.log = committedIn label (history ++ [event])) :
    Located label (history ++ [event]) next := by
  have hrequests : countSince label Label.isRequest (history ++ [event]) =
      countSince label Label.isRequest history := by
    simp [countSince_concat, hdrop, hrequest]
  have hanswers : countSince label Label.isAnswer (history ++ [event]) =
      countSince label Label.isAnswer history := by
    simp [countSince_concat, hdrop, hanswer]
  constructor
  · exact hlog
  · rw [hrequests, hanswers, hreads]
    exact hlocated.count_eq
  · intro index key hread
    rw [hreads] at hread
    obtain ⟨before, request, after, hpending⟩ :=
      hlocated.pending index key hread
    rw [hanswers]
    exact ⟨before, request, after ++ [event], hpending.concat hdrop⟩
  · intro log hlooked
    obtain ⟨before, request, key, between, lookup, after, rest, hkey, hpending,
      hlookup, hvalue⟩ := hlocated.looked log (hseen log hlooked)
    have hlater := hpending.concat hdrop
    rw [List.append_assoc, List.cons_append] at hlater
    rw [hanswers, hreads]
    exact ⟨before, request, key, between, lookup, after ++ [event], rest, hkey,
      hlater, hlookup, hvalue⟩

theorem Located.request {key : Key} (hlocated : Located label history state)
    (hlabel : label event = .request key) :
    Located label (history ++ [event])
      { state with reads := state.reads ++ [key] } := by
  have hdrop : (label event).isDropReads = false := by rw [hlabel]; rfl
  have hrequests : countSince label Label.isRequest (history ++ [event]) =
      countSince label Label.isRequest history + 1 := by
    simp [countSince_concat, hlabel, Label.isRequest, Label.isDropReads]
  have hanswers : countSince label Label.isAnswer (history ++ [event]) =
      countSince label Label.isAnswer history := by
    simp [countSince_concat, hlabel, Label.isAnswer, Label.isDropReads]
  constructor
  · rw [committedIn_concat_of_ne (by simp [hlabel])]
    exact hlocated.log_eq
  · rw [hrequests, hanswers, hlocated.count_eq, List.length_append,
      List.length_singleton, Nat.add_assoc]
  · intro index other hread
    rw [hanswers]
    rcases Nat.lt_or_ge index state.reads.length with hold | hnew
    · rw [List.getElem?_append_left hold] at hread
      obtain ⟨before, request, after, hpending⟩ :=
        hlocated.pending index other hread
      exact ⟨before, request, after ++ [event], hpending.concat hdrop⟩
    · rw [List.getElem?_append_right hnew, List.getElem?_singleton] at hread
      split at hread
      · rename_i hzero
        have hindex : index = state.reads.length := by omega
        refine ⟨history, event, [], rfl, ?_, by simp, ?_⟩
        · rw [hlabel, Option.some.inj hread]
        · rw [hlocated.count_eq, hindex]
      · cases hread
  · intro log hseen
    obtain ⟨before, request, first, between, lookup, after, rest, hkey, hpending,
      hlookup, hvalue⟩ := hlocated.looked log hseen
    have hlater := hpending.concat hdrop
    rw [List.append_assoc, List.cons_append] at hlater
    rw [hanswers]
    refine ⟨before, request, first, between, lookup, after ++ [event],
      rest ++ [key], ?_, hlater, hlookup, hvalue⟩
    rw [hkey, List.cons_append]

theorem Located.lookup (hlocated : Located label history state)
    (hlabel : label event = .lookup) (hreads : state.reads ≠ []) :
    Located label (history ++ [event]) { state with seen := some state.log } := by
  have hdrop : (label event).isDropReads = false := by rw [hlabel]; rfl
  have hlog : state.log = committedIn label (history ++ [event]) := by
    rw [committedIn_concat_of_ne (by simp [hlabel])]
    exact hlocated.log_eq
  have hkept : Located label (history ++ [event]) { state with seen := none } :=
    hlocated.keep (by rw [hlabel]; rfl) (by rw [hlabel]; rfl) hdrop rfl
      (by simp) hlog
  refine ⟨hkept.log_eq, hkept.count_eq, hkept.pending, ?_⟩
  intro log hseen
  obtain ⟨key, rest, hkey⟩ := List.exists_cons_of_ne_nil hreads
  obtain ⟨before, request, after, hpending⟩ :=
    hlocated.pending 0 key (by rw [hkey]; rfl)
  have hlater := hpending.concat hdrop
  have hanswers : countSince label Label.isAnswer (history ++ [event]) =
      countSince label Label.isAnswer history := by
    simp [countSince_concat, hlabel, Label.isAnswer, Label.isDropReads]
  refine ⟨before, request, key, after, event, [], rest, hkey, ?_, hlabel, ?_⟩
  · rw [hanswers]
    exact hlater
  · rw [← Option.some.inj hseen, hlocated.log_eq, hpending.history_eq]

theorem Located.answer {key : Key} {rest : List Key} {reply : Reply}
    (hlocated : Located label history state)
    (hlabel : label event = .answer reply) (hreads : state.reads = key :: rest) :
    Located label (history ++ [event])
      { state with reads := rest, seen := none } := by
  have hdrop : (label event).isDropReads = false := by rw [hlabel]; rfl
  have hrequests : countSince label Label.isRequest (history ++ [event]) =
      countSince label Label.isRequest history := by
    simp [countSince_concat, hlabel, Label.isRequest, Label.isDropReads]
  have hanswers : countSince label Label.isAnswer (history ++ [event]) =
      countSince label Label.isAnswer history + 1 := by
    simp [countSince_concat, hlabel, Label.isAnswer, Label.isDropReads]
  constructor
  · rw [committedIn_concat_of_ne (by simp [hlabel])]
    exact hlocated.log_eq
  · rw [hrequests, hanswers, hlocated.count_eq, hreads, List.length_cons,
      Nat.add_assoc, Nat.add_comm 1]
  · intro index other hread
    obtain ⟨before, request, after, hpending⟩ :=
      hlocated.pending (index + 1) other (by rw [hreads]; exact hread)
    refine ⟨before, request, after ++ [event], ?_⟩
    rw [hanswers, Nat.add_assoc, Nat.add_comm 1]
    exact hpending.concat hdrop
  · intro log hseen
    cases hseen

theorem Located.dropReads (hlocated : Located label history state)
    (hlabel : label event = .dropReads) :
    Located label (history ++ [event])
      { state with reads := [], seen := none } := by
  constructor
  · rw [committedIn_concat_of_ne (by simp [hlabel])]
    exact hlocated.log_eq
  · simp [countSince_concat, hlabel, Label.isDropReads]
  · intro index key hread
    simp at hread
  · intro log hseen
    cases hseen

end Located

/-! ## Explained histories -/

section Explained

variable [DecidableEq Key]

/-- The value of a key after these writes. -/
def lookUp (log : List (Key × Value)) (key : Key) : Option Value :=
  applyWrites (fun _ => none) log key

inductive Step (respond : Option Value → Reply) :
    State Key Value → Label Key Value Reply → State Key Value → Prop where
  | silent (state : State Key Value) : Step respond state .silent state
  | write (state : State Key Value) (key : Key) (value : Value) :
      Step respond state (.write key value)
        { state with waiting := state.waiting ++ [(key, value)] }
  | commit {state : State Key Value} {key : Key} {value : Value}
      {rest : List (Key × Value)} (hwaiting : state.waiting = (key, value) :: rest) :
      Step respond state (.commit key value)
        { state with waiting := rest, log := state.log ++ [(key, value)] }
  | discard {state : State Key Value} {key : Key} {value : Value}
      {rest : List (Key × Value)} (hwaiting : state.waiting = (key, value) :: rest) :
      Step respond state (.discard key value) { state with waiting := rest }
  | dropWrites (state : State Key Value) :
      Step respond state .dropWrites { state with waiting := [] }
  | request (state : State Key Value) (key : Key) :
      Step respond state (.request key)
        { state with reads := state.reads ++ [key] }
  | lookup {state : State Key Value} (hreads : state.reads ≠ [])
      (hseen : state.seen = none) :
      Step respond state .lookup { state with seen := some state.log }
  | answer {state : State Key Value} {key : Key} {rest : List Key}
      {log : List (Key × Value)} (hreads : state.reads = key :: rest)
      (hseen : state.seen = some log) :
      Step respond state (.answer (respond (lookUp log key)))
        { state with reads := rest, seen := none }
  | dropLookup (state : State Key Value) :
      Step respond state .dropLookup { state with seen := none }
  | dropReads (state : State Key Value) :
      Step respond state .dropReads { state with reads := [], seen := none }

/-- The events of a history take one state to the other. -/
inductive Explains (respond : Option Value → Reply)
    (label : E → Label Key Value Reply) (start : State Key Value) :
    List E → State Key Value → Prop where
  | nil : Explains respond label start [] start
  | concat {state next : State Key Value} {history : List E} {event : E}
      (hhistory : Explains respond label start history state)
      (hstep : Step respond state (label event) next) :
      Explains respond label start (history ++ [event]) next

/-- An answer agrees with the durable writes at a lookup that was made between
itself and the request with its own number. -/
def AnswersAtomically (respond : Option Value → Reply)
    (label : E → Label Key Value Reply) (history : List E) (event : E) : Prop :=
  ∀ reply, label event = .answer reply →
    ∃ before request key between lookup after,
      PendingSince label history before request key
        (countSince label Label.isAnswer history) (between ++ lookup :: after) ∧
      label lookup = .lookup ∧
      reply = respond
        (lookUp (committedIn label (before ++ request :: between)) key)

/-- The read requested there is answered by the answer with its own number,
from the writes that are durable at a lookup in between. -/
def AnsweredFrom (respond : Option Value → Reply)
    (label : E → Label Key Value Reply) (before : List E) (request : E)
    (key : Key) (log : List (Key × Value)) (after : List E) : Prop :=
  ∃ between lookup middle answer rest,
    after = between ++ lookup :: middle ++ answer :: rest ∧
    PendingSince label (before ++ request :: (between ++ lookup :: middle))
      before request key (countSince label Label.isAnswer
        (before ++ request :: (between ++ lookup :: middle)))
      (between ++ lookup :: middle) ∧
    label lookup = .lookup ∧
    log = committedIn label (before ++ request :: between) ∧
    label answer = .answer (respond (lookUp log key))

variable {respond : Option Value → Reply} {label : E → Label Key Value Reply}
variable {history : List E} {state next : State Key Value} {event : E}

/-- It does not miss what was durable when it was requested. -/
theorem AnsweredFrom.committedIn_prefix {before after : List E} {request : E}
    {key : Key} {log : List (Key × Value)}
    (hanswered : AnsweredFrom respond label before request key log after) :
    committedIn label before <+: log := by
  obtain ⟨between, lookup, middle, answer, rest, -, -, -, rfl, -⟩ := hanswered
  unfold committedIn
  rw [List.filterMap_append]
  exact List.prefix_append _ _

namespace Explains

variable {start last : State Key Value}

theorem append {more : List E} {middle : State Key Value}
    (hfirst : Explains respond label start history middle)
    (hsecond : Explains respond label middle more last) :
    Explains respond label start (history ++ more) last := by
  induction hsecond with
  | nil => rwa [List.append_nil]
  | concat _ hstep ih =>
      rw [← List.append_assoc]
      exact ih.concat hstep

theorem singleton {event : E}
    (hstep : Step respond start (label event) last) :
    Explains respond label start [event] last := by
  rw [← List.nil_append [event]]
  exact Explains.nil.concat hstep

/-- A history explained as a whole is explained up to every moment. -/
theorem of_append {before after : List E}
    (hexplains : Explains respond label start (before ++ after) last) :
    ∃ middle, Explains respond label start before middle ∧
      Explains respond label middle after last := by
  generalize hall : before ++ after = all at hexplains
  induction hexplains generalizing after with
  | nil =>
      obtain ⟨rfl, rfl⟩ := List.append_eq_nil_iff.mp hall
      exact ⟨start, .nil, .nil⟩
  | @concat state next history event hhistory hstep ih =>
      rcases List.eq_nil_or_concat' after with rfl | ⟨rest, final, rfl⟩
      · rw [List.append_nil] at hall
        subst hall
        exact ⟨next, hhistory.concat hstep, .nil⟩
      · rw [← List.append_assoc] at hall
        obtain ⟨hinit, hlast⟩ := List.append_inj' hall rfl
        obtain ⟨middle, hbefore, hafter⟩ := ih hinit
        refine ⟨middle, hbefore, hafter.concat ?_⟩
        rw [List.singleton_inj.mp hlast]
        exact hstep

theorem eq_of_nil (hexplains : Explains respond label start [] last) :
    last = start := by
  generalize hhistory : ([] : List E) = history at hexplains
  cases hexplains with
  | nil => rfl
  | concat _ _ => exact absurd hhistory.symm (List.append_ne_nil_of_right_ne_nil _
      (List.cons_ne_nil _ _))

theorem of_concat (hexplains : Explains respond label start
      (history ++ [event]) last) :
    ∃ middle, Explains respond label start history middle ∧
      Step respond middle (label event) last := by
  obtain ⟨middle, hbefore, hlast⟩ := hexplains.of_append
  generalize hone : [event] = one at hlast
  cases hlast with
  | nil => cases hone
  | @concat state next before final hinit hstep =>
      obtain ⟨rfl, rfl⟩ : before = [] ∧ final = event := by
        cases before with
        | nil => simpa using hone.symm
        | cons => simp at hone
      rw [hinit.eq_of_nil] at hstep
      exact ⟨middle, hbefore, hstep⟩

/-- The durable writes are those committed, in order. -/
theorem log_eq (hexplains : Explains respond label start history last) :
    last.log = start.log ++ committedIn label history := by
  induction hexplains with
  | nil => simp [committedIn]
  | @concat state next history event hhistory hstep ih =>
      generalize hlabel : label event = does at hstep
      cases hstep with
      | commit hwaiting =>
          rw [committedIn_concat_commit hlabel, ← List.append_assoc, ← ih]
      | _ =>
          rw [committedIn_concat_of_ne (by simp [hlabel])]
          exact ih

/-- As long as the writes are not dropped as a whole, those ended and those
still waiting are the ones that waited before and those accepted since. -/
theorem ended_append_waiting
    (hexplains : Explains respond label start history last)
    (hdrop : ∀ event ∈ history, label event ≠ .dropWrites) :
    endedIn label history ++ last.waiting =
      start.waiting ++ writtenIn label history := by
  induction hexplains with
  | nil => simp [endedIn, writtenIn]
  | @concat state next history event hhistory hstep ih =>
      have hbefore := ih fun event hevent =>
        hdrop event (List.mem_append_left _ hevent)
      have hnot := hdrop event (by simp)
      generalize hlabel : label event = does at hstep hnot
      unfold endedIn writtenIn at *
      rw [List.filterMap_append, List.filterMap_append]
      cases hstep with
      | dropWrites => exact absurd rfl hnot
      | write key value =>
          simpa [hlabel] using congrArg (· ++ [(key, value)]) hbefore
      | commit hwaiting =>
          rw [hwaiting] at hbefore
          simpa [hlabel] using hbefore
      | discard hwaiting =>
          rw [hwaiting] at hbefore
          simpa [hlabel] using hbefore
      | _ => simpa [hlabel] using hbefore

/-- Between two drops the writes are ended in the order in which they were
accepted, and those not ended are the last ones. -/
theorem epoch {before middle after : List E}
    (hexplains : Explains respond label (State.empty Key Value)
      (before ++ middle ++ after) last) (hfresh : Fresh label before)
    (hdrop : ∀ event ∈ middle, label event ≠ .dropWrites) :
    ∃ waiting, endedIn label middle ++ waiting = writtenIn label middle ∧
      (after = [] → waiting = last.waiting) := by
  obtain ⟨second, hfirst, hafter⟩ := hexplains.of_append
  obtain ⟨first, hbefore, hmiddle⟩ := hfirst.of_append
  have hnone : first.waiting = [] := by
    rcases hfresh with rfl | ⟨earlier, event, rfl, hlabel⟩
    · rw [hbefore.eq_of_nil]
      rfl
    · obtain ⟨state, -, hstep⟩ := hbefore.of_concat
      rw [hlabel] at hstep
      cases hstep
      rfl
  have hended := hmiddle.ended_append_waiting hdrop
  rw [hnone, List.nil_append] at hended
  refine ⟨second.waiting, hended, ?_⟩
  rintro rfl
  rw [hafter.eq_of_nil]

/-- As long as the reads are not dropped, those requested are pending or have
been answered. -/
theorem length_reads (hexplains : Explains respond label start history last)
    (hkept : ∀ event ∈ history, (label event).isDropReads = false) :
    last.reads.length + history.countP (fun event => (label event).isAnswer) =
      start.reads.length +
        history.countP fun event => (label event).isRequest := by
  induction hexplains with
  | nil => simp
  | @concat state next history event hhistory hstep ih =>
      have hbefore := ih fun other hother =>
        hkept other (List.mem_append_left _ hother)
      have hnot := hkept event (by simp)
      generalize hlabel : label event = does at hstep hnot
      rw [List.countP_append, List.countP_append, List.countP_singleton,
        List.countP_singleton, hlabel]
      cases hstep with
      | dropReads => cases hnot
      | request key =>
          rw [if_pos (show (Label.request key).isRequest = true from rfl),
            if_neg (show ¬ (Label.request key).isAnswer = true from
              Bool.false_ne_true), List.length_append, List.length_singleton]
          omega
      | answer hreads =>
          rw [hreads, List.length_cons] at hbefore
          rw [if_pos (show (Label.answer _).isAnswer = true from rfl),
            if_neg (show ¬ (Label.answer _).isRequest = true from
              Bool.false_ne_true)]
          dsimp only
          omega
      | _ => simpa [Label.isRequest, Label.isAnswer] using hbefore

end Explains

omit [DecidableEq Key] in
theorem endedIn_eq_committedIn {label : E → Label Key Value Reply}
    {history : List E}
    (hkept : ∀ event ∈ history, ∀ key value, label event ≠ .discard key value) :
    endedIn label history = committedIn label history := by
  apply List.filterMap_congr
  intro event hevent
  have hnot := hkept event hevent
  cases hlabel : label event with
  | discard key value => exact absurd hlabel (hnot key value)
  | _ => rfl

theorem Located.step (hlocated : Located label history state)
    (hstep : Step respond state (label event) next) :
    Located label (history ++ [event]) next := by
  generalize hlabel : label event = does at hstep
  have hkeep (hnot : ∀ key value, label event ≠ .commit key value) :
      state.log = committedIn label (history ++ [event]) := by
    rw [committedIn_concat_of_ne hnot]
    exact hlocated.log_eq
  cases hstep with
  | request key => exact hlocated.request hlabel
  | lookup hreads hseen => exact hlocated.lookup hlabel hreads
  | answer hreads hseen => exact hlocated.answer hlabel hreads
  | dropReads => exact hlocated.dropReads hlabel
  | commit hwaiting =>
      refine hlocated.keep (by rw [hlabel]; rfl) (by rw [hlabel]; rfl)
        (by rw [hlabel]; rfl) rfl (fun _ => id) ?_
      rw [committedIn_concat_commit hlabel, ← hlocated.log_eq]
  | dropLookup =>
      exact hlocated.keep (by rw [hlabel]; rfl) (by rw [hlabel]; rfl)
        (by rw [hlabel]; rfl) rfl (by simp) (hkeep (by simp [hlabel]))
  | _ =>
      exact hlocated.keep (by rw [hlabel]; rfl) (by rw [hlabel]; rfl)
        (by rw [hlabel]; rfl) rfl (fun _ => id) (hkeep (by simp [hlabel]))

/-- Every answer in an explained history is atomic. -/
theorem Explains.atomic
    (hexplains : Explains respond label (State.empty Key Value) history state) :
    Located label history state ∧
      Historically (AnswersAtomically respond label) history := by
  induction hexplains with
  | nil => exact ⟨located_empty, historically_nil⟩
  | @concat state next history event _ hstep ih =>
      obtain ⟨hlocated, hatomic⟩ := ih
      refine ⟨hlocated.step hstep, hatomic.concat ?_⟩
      intro reply hreply
      rw [hreply] at hstep
      cases hstep with
      | answer hreads hseen =>
          obtain ⟨before, request, key, between, lookup, after, rest, hkey,
            hpending, hlookup, hvalue⟩ := hlocated.looked _ hseen
          rw [hreads] at hkey
          obtain ⟨rfl, rfl⟩ := List.cons.inj hkey
          refine ⟨before, request, _, between, lookup, after, hpending, hlookup,
            ?_⟩
          rw [hvalue]

/-- Of more than `count` such elements there is one with `count` before it. -/
theorem exists_split_of_lt_countP {A : Type*} {counts : A → Bool} {list : List A}
    {count : ℕ} (hcount : count < list.countP counts) :
    ∃ before element after, list = before ++ element :: after ∧
      counts element = true ∧ before.countP counts = count := by
  induction list generalizing count with
  | nil => simp at hcount
  | cons head list ih =>
      by_cases hhead : counts head = true
      · cases count with
        | zero => exact ⟨[], head, list, rfl, hhead, rfl⟩
        | succ count =>
            rw [List.countP_cons_of_pos hhead] at hcount
            obtain ⟨before, element, after, rfl, helement, hbefore⟩ :=
              ih (Nat.lt_of_succ_lt_succ hcount)
            refine ⟨head :: before, element, after, rfl, helement, ?_⟩
            rw [List.countP_cons_of_pos hhead, hbefore]
      · rw [List.countP_cons_of_neg hhead] at hcount
        obtain ⟨before, element, after, rfl, helement, hbefore⟩ := ih hcount
        refine ⟨head :: before, element, after, rfl, helement, ?_⟩
        rw [List.countP_cons_of_neg hhead, hbefore]

/-- When more answers follow a request than there were pending reads before it,
one of them is its own. -/
theorem Explains.answered {before after : List E} {request : E} {key : Key}
    {first : State Key Value}
    (hbefore : Explains respond label (State.empty Key Value) before first)
    (hexplains : Explains respond label (State.empty Key Value)
      (before ++ request :: after) state)
    (hrequest : label request = .request key)
    (hkept : ∀ event ∈ after, (label event).isDropReads = false)
    (hcount : first.reads.length <
      after.countP fun event => (label event).isAnswer) :
    ∃ log, AnsweredFrom respond label before request key log after := by
  obtain ⟨upTo, answer, rest, rfl, hanswer, hupTo⟩ :=
    exists_split_of_lt_countP hcount
  obtain ⟨reply, hreply⟩ : ∃ reply, label answer = .answer reply := by
    cases hlabel : label answer with
    | answer reply => exact ⟨reply, rfl⟩
    | _ => simp [hlabel, Label.isAnswer] at hanswer
  have hkept' : ∀ event ∈ request :: upTo,
      (label event).isDropReads = false := by
    intro event hevent
    rcases List.mem_cons.mp hevent with rfl | htail
    · rw [hrequest]
      rfl
    · exact hkept event (List.mem_append_left _ htail)
  have hnumber : countSince label Label.isAnswer (before ++ request :: upTo) =
      countSince label Label.isRequest before := by
    rw [countSince_append label Label.isAnswer hkept',
      hbefore.atomic.1.count_eq, List.countP_cons, hupTo, hrequest]
    simp [Label.isAnswer]
  have hown : PendingSince label (before ++ request :: upTo) before request key
      (countSince label Label.isAnswer (before ++ request :: upTo)) upTo :=
    ⟨rfl, hrequest, fun event hevent =>
      hkept event (List.mem_append_left _ hevent), hnumber.symm⟩
  obtain ⟨before', request', key', between, lookup, middle, hpending, hlookup,
    hvalue⟩ := hexplains.atomic.2 (before ++ request :: upTo) answer rest
      (by simp) reply hreply
  obtain rfl := hown.before_eq hpending
  obtain ⟨rfl, rfl⟩ := List.cons.inj
    (List.append_cancel_left hpending.history_eq)
  have hkey : key' = key := by
    have hsame := hpending.request_eq.symm.trans hrequest
    cases hsame
    rfl
  refine ⟨_, between, lookup, middle, answer, rest, by simp, hown, hlookup, rfl,
    ?_⟩
  rw [hreply, hvalue, hkey]

end Explained

end PaxosPersistence.DurableMap
