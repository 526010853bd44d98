import PaxosPersistence.Core.Machine
import PaxosPersistence.Kernel.ReadTest
import PaxosPersistence.Pipeline.ReadPipeline

/-!
# The verdicts of the workers

What a history should say about the verdicts of the workers, and what it does
say.  A worker looks at the callback of a slot, so its verdict depends on the
answer that was put there last, whichever request that was the answer to, and
on the marks that the workers of other requests have left there.
-/

namespace PaxosPersistence.WorkerVerdicts

open PaxosPersistence.KernelDevice
open PaxosPersistence.Machine
open PaxosPersistence.PaxosTypes
open PaxosPersistence.ReadPersistence
open PaxosPersistence.ReadPipeline
open PaxosPersistence.ReadTest
open PaxosPersistence.StorageThread

/-! ## What a history says about a request -/

/-- The own answer of the request has its number and some value. -/
def OwnAnswered (history : List Event) (work : ℕ) : Prop :=
  ∃ answer, (answersFor history)[work]? = some answer ∧
    Answers answer.iid answer.record

/-- That answer was there before the timeout of its worker had elapsed. -/
def InTime (history : List Event) (work : ℕ) : Prop :=
  ∃ before after, history = before ++ after ∧ .elapsed work ∉ before ∧
    OwnAnswered before work

/-- The answer that was put into a slot last. -/
def lastAnswer (history : List Event) (slot : SlotId) : Option Answer :=
  (answersFor history).reverse.find? fun answer => answer.slot = slot

/-- What an event does to the mark of a slot. -/
def mark (slot : SlotId) (marked : Bool) : Event → Bool
  | .requested other _ _ _ => if other = slot then false else marked
  | .decided _ other _ => if other = slot then true else marked
  | _ => marked

/-- A worker has marked the slot since the last request was put there. -/
def marked (history : List Event) (slot : SlotId) : Bool :=
  history.foldl (mark slot) false

/-- The slot is not marked, and the answer in it is one for this number. -/
def VisibleIn (history : List Event) (slot : SlotId) (iid : Word32) : Prop :=
  marked history slot = false ∧
    ∃ answer, lastAnswer history slot = some answer ∧ Answers iid answer.record

/-- The slot of the request shows an answer for the number of the request. -/
def Visible (history : List Event) (work : ℕ) : Prop :=
  ∃ slot msg, (requestsOf history)[work]? = some (slot, msg) ∧
    VisibleIn history slot (requestHeader msg).iid

theorem marked_concat (history : List Event) (event : Event) (slot : SlotId) :
    marked (history ++ [event]) slot = mark slot (marked history slot) event := by
  rw [marked, marked, List.foldl_append, List.foldl_cons, List.foldl_nil]

/-- A new answer is the last one in its slot. -/
theorem lastAnswer_concat {history : List Event} {event : Event}
    {answer : Answer}
    (hanswers : answersFor (history ++ [event]) = answersFor history ++ [answer])
    (slot : SlotId) :
    lastAnswer (history ++ [event]) slot =
      if answer.slot = slot then some answer else lastAnswer history slot := by
  rw [lastAnswer, hanswers, List.reverse_append, List.reverse_singleton,
    List.singleton_append, List.find?_cons]
  by_cases hslot : answer.slot = slot
  · simp [hslot]
  · simp [hslot, lastAnswer]

/-- Later events leave the answers given. -/
theorem getElem?_answersFor_append {first second : List Event} {work : ℕ}
    {answer : Answer} (hanswer : (answersFor first)[work]? = some answer) :
    (answersFor (first ++ second))[work]? = some answer := by
  rw [answersFor, List.getElem?_map, Option.map_eq_some_iff] at hanswer ⊢
  obtain ⟨exchange, hexchange, hequal⟩ := hanswer
  refine ⟨exchange, ?_, hequal⟩
  rw [List.getElem?_zip_eq_some] at hexchange ⊢
  rw [requestsOf_append, answersOf_append]
  constructor
  · exact List.getElem?_append_left
      (List.getElem?_eq_some_iff.mp hexchange.1).1 ▸ hexchange.1
  · exact List.getElem?_append_left
      (List.getElem?_eq_some_iff.mp hexchange.2).1 ▸ hexchange.2

theorem OwnAnswered.append {first : List Event} {work : ℕ}
    (hown : OwnAnswered first work) (second : List Event) :
    OwnAnswered (first ++ second) work := by
  obtain ⟨answer, hanswer, hpositive⟩ := hown
  exact ⟨answer, getElem?_answersFor_append hanswer, hpositive⟩

theorem InTime.append {first : List Event} {work : ℕ}
    (htime : InTime first work) (second : List Event) :
    InTime (first ++ second) work := by
  obtain ⟨before, after, rfl, hrest⟩ := htime
  exact ⟨before, after ++ second, List.append_assoc _ _ _, hrest⟩

theorem request_of_answer {history : List Event} {work : ℕ} {answer : Answer}
    (hanswer : (answersFor history)[work]? = some answer) :
    ∃ msg, (requestsOf history)[work]? = some (answer.slot, msg) ∧
      answer.iid = (requestHeader msg).iid := by
  rw [answersFor, List.getElem?_map, Option.map_eq_some_iff] at hanswer
  obtain ⟨exchange, hexchange, rfl⟩ := hanswer
  rw [List.getElem?_zip_eq_some] at hexchange
  exact ⟨exchange.1.2, hexchange.1, rfl⟩

/-- What a slot shows was put there for some request.  Where that can only have
been the request of the work, it is its own answer. -/
theorem ownAnswered_of_visible {history : List Event} {work : ℕ}
    (hvisible : Visible history work)
    (hunique : ∀ slot msg place answer,
      (requestsOf history)[work]? = some (slot, msg) →
        (answersFor history)[place]? = some answer → answer.slot = slot →
          Answers (requestHeader msg).iid answer.record → place = work) :
    OwnAnswered history work := by
  obtain ⟨slot, msg, hrequest, -, answer, hlast, hanswers⟩ := hvisible
  have hslot : answer.slot = slot := by simpa using List.find?_some hlast
  have hmem : answer ∈ answersFor history :=
    List.mem_reverse.mp (List.mem_of_find?_eq_some hlast)
  obtain ⟨place, hplace⟩ := List.getElem?_of_mem hmem
  obtain rfl := hunique slot msg place answer hrequest hplace hslot hanswers
  obtain ⟨sent, hsent, hiid⟩ := request_of_answer hplace
  obtain rfl : sent = msg := by
    rw [hrequest] at hsent
    cases hsent
    rfl
  exact ⟨answer, hplace, hiid ▸ hanswers⟩

/-! ## The law of verdicts -/

/-- A worker finds just what its slot shows, and comes to one verdict. -/
def Lawful (before : List Event) : Event → Prop
  | .decided work _ found => (found = true ↔ Visible before work) ∧
      ∀ slot found, .decided work slot found ∉ before
  | _ => True

theorem mem_foundOf {history : List Event} {work : ℕ} :
    work ∈ foundOf history ↔ ∃ slot, .decided work slot true ∈ history := by
  constructor
  · intro hmem
    obtain ⟨event, hevent, hselect⟩ := List.mem_filterMap.mp hmem
    cases event with
    | decided other slot found =>
        cases found with
        | false => exact nomatch hselect
        | true =>
            cases hselect
            exact ⟨slot, hevent⟩
    | _ => exact nomatch hselect
  · rintro ⟨slot, hmem⟩
    exact List.mem_filterMap.mpr ⟨_, hmem, rfl⟩

/-- No request is counted twice. -/
theorem count_foundOf_le_one {history : List Event}
    (hlawful : Historically Lawful history) (work : ℕ) :
    (foundOf history).count work ≤ 1 := by
  induction history using List.reverseRecOn with
  | nil => exact Nat.zero_le 1
  | append_singleton history event ih =>
      have hearlier := ih hlawful.of_append
      rw [foundOf_append, List.count_append]
      by_cases hevent : foundOf [event] = []
      · rw [hevent, List.count_nil, Nat.add_zero]
        exact hearlier
      · cases event with
        | decided other slot found =>
            cases found with
            | false => exact absurd rfl hevent
            | true =>
                change _ + List.count work [other] ≤ 1
                by_cases hother : other = work
                · have honce := (hlawful history _ [] rfl).2
                  have hzero : (foundOf history).count work = 0 := by
                    apply List.count_eq_zero_of_not_mem
                    intro hmem
                    obtain ⟨place, hmem⟩ := mem_foundOf.mp hmem
                    rw [hother] at honce
                    exact honce place true hmem
                  rw [hzero, Nat.zero_add]
                  exact List.count_le_length
                · rw [List.count_singleton, if_neg (by simpa using hother)]
                  exact hearlier
        | _ => exact absurd rfl hevent

/-- A work comes to one verdict. -/
theorem found_eq_of_lawful {before after : List Event} {work : ℕ}
    {slot other : SlotId} {found again : Bool}
    (hlawful : Historically Lawful
      (before ++ .decided work slot found :: after))
    (hagain : .decided work other again ∈
      before ++ .decided work slot found :: after) : again = found := by
  rcases List.mem_append.mp hagain with hbefore | hrest
  · exact absurd hbefore ((hlawful before _ after rfl).2 other again)
  · rcases List.mem_cons.mp hrest with hsame | hafter
    · cases hsame
      rfl
    · obtain ⟨first, second, rfl⟩ := List.append_of_mem hafter
      have honce := (hlawful (before ++ .decided work slot found :: first)
        (.decided work other again) second (by simp)).2
      exact absurd (by simp) (honce slot found)

/-! ## Fresh verdicts -/

/-- A request is counted on its own answer only. -/
def Fresh (before : List Event) : Event → Prop
  | .decided work _ found => found = true → OwnAnswered before work
  | _ => True

/-- What the slot of the request shows is not borrowed from another request:
when it shows an answer for its number, its own answer is one, too. -/
def NotBorrowed (before : List Event) : Event → Prop
  | .decided work _ _ => Visible before work → OwnAnswered before work
  | _ => True

theorem fresh_iff_notBorrowed {history : List Event}
    (hlawful : Historically Lawful history) :
    Historically Fresh history ↔ Historically NotBorrowed history := by
  apply hlawful.congr
  intro before event hlaw
  cases event with
  | decided work slot found =>
      change (found = true → _) ↔ (Visible before work → _)
      rw [hlaw.1]
  | _ => exact Iff.rfl

/-! ## Kept answers -/

/-- The worker comes to its verdict after the answer or after its timeout. -/
def Waits (before : List Event) : Event → Prop
  | .decided work _ _ =>
      work < (answersFor before).length ∨ .elapsed work ∈ before
  | _ => True

/-- No worker decides too early, and a request answered in time is counted
once. -/
structure NoAnswerLost (history : List Event) : Prop where
  waits : Historically Waits history
  counted : ∀ work slot found, .decided work slot found ∈ history →
    InTime history work → (foundOf history).count work = 1
  once : ∀ work, (foundOf history).count work ≤ 1

/-- The worker is late enough, and if its request was answered in time, then
its slot still shows an answer for the number of the request. -/
def StillVisible (before : List Event) : Event → Prop
  | .decided work slot found => Waits before (.decided work slot found) ∧
      (InTime before work → Visible before work)
  | _ => True

/-- The own answer of a request, once given, does not change. -/
theorem ownAnswered_of_append {first second : List Event} {work : ℕ}
    (hlength : work < (answersFor first).length)
    (hown : OwnAnswered (first ++ second) work) : OwnAnswered first work := by
  obtain ⟨answer, hanswer, hpositive⟩ := hown
  have hfirst := List.getElem?_eq_getElem hlength
  have hsame := @getElem?_answersFor_append first second work _ hfirst
  rw [hanswer] at hsame
  exact ⟨_, hfirst, Option.some.inj hsame ▸ hpositive⟩

/-- A verdict that waited came after an answer in time. -/
theorem InTime.before_verdict {before after : List Event} {work : ℕ}
    {slot : SlotId} {found : Bool}
    (hwaits : Waits before (.decided work slot found))
    (htime : InTime (before ++ .decided work slot found :: after) work) :
    InTime before work := by
  obtain ⟨first, second, hsplit, helapsed, hown⟩ := htime
  rcases List.append_eq_append_iff.mp hsplit with
    ⟨rest, rfl, -⟩ | ⟨rest, rfl, -⟩
  · rcases hwaits with hanswered | hmem
    · refine ⟨before, [], (List.append_nil _).symm, ?_,
        ownAnswered_of_append hanswered hown⟩
      intro hmem
      exact helapsed (List.mem_append_left rest hmem)
    · exact absurd (List.mem_append_left rest hmem) helapsed
  · exact ⟨first, rest, rfl, helapsed, hown⟩

theorem noAnswerLost_iff_stillVisible {history : List Event}
    (hlawful : Historically Lawful history) :
    NoAnswerLost history ↔ Historically StillVisible history := by
  constructor
  · rintro ⟨hwaits, hcounted, -⟩ before event after rfl
    cases event with
    | decided work slot found =>
        refine ⟨hwaits before _ after rfl, ?_⟩
        intro htime
        have hcount := hcounted work slot found (by simp) (htime.append _)
        have hmem : work ∈ foundOf
            (before ++ .decided work slot found :: after) := by
          apply List.count_pos_iff.mp
          rw [hcount]
          exact Nat.one_pos
        obtain ⟨other, hother⟩ := mem_foundOf.mp hmem
        exact (hlawful before _ after rfl).1.mp
          (found_eq_of_lawful hlawful hother).symm
    | _ => trivial
  · intro hvisible
    refine ⟨?_, ?_, count_foundOf_le_one hlawful⟩
    · intro before event after hsplit
      have hbefore := hvisible before event after hsplit
      cases event with
      | decided work slot found => exact hbefore.1
      | _ => trivial
    · intro work slot found hmem htime
      obtain ⟨before, after, rfl⟩ := List.append_of_mem hmem
      obtain ⟨hwaits, hshows⟩ := hvisible before _ after rfl
      have hfound : found = true := (hlawful before _ after rfl).1.mpr
        (hshows (htime.before_verdict hwaits))
      apply le_antisymm (count_foundOf_le_one hlawful work)
      apply List.count_pos_iff.mpr
      rw [hfound]
      exact mem_foundOf.mpr ⟨slot, by simp⟩

end PaxosPersistence.WorkerVerdicts
