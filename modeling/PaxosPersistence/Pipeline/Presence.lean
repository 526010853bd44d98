import PaxosPersistence.Pipeline.FirstLap

/-!
# Present and absent records

The answer to a request for a record that is not stored is a record of zeros,
and `wait_response` takes an answer for a record when its number is the one
asked for and its value has a length.  Zero is a number and a length like any
other: a request for number zero gets a record of that number either way, and a
stored record may have an empty value.
-/

namespace PaxosPersistence.Presence

open PaxosPersistence.ByteBlock
open PaxosPersistence.DeviceRing
open PaxosPersistence.KernelDevice
open PaxosPersistence.LmdbOperations
open PaxosPersistence.Machine
open PaxosPersistence.Memory
open PaxosPersistence.PaxosTypes
open PaxosPersistence.ReadPersistence
open PaxosPersistence.ReadPipeline
open PaxosPersistence.ReadSide
open PaxosPersistence.ReadTest
open PaxosPersistence.StorageThread
open PaxosPersistence.TransactionalMap
open PaxosPersistence.UserStorage
open PaxosPersistence.WorkerPool
open PaxosPersistence.WorkerVerdicts
open PaxosPersistence.Workers

/-! ## Requests that were served undisturbed -/

/-- Another request is put into the slot, or a worker marks it. -/
def OnSlot (slot : SlotId) : Event → Prop
  | .requested other _ _ _ => other = slot
  | .decided _ other _ => other = slot
  | _ => False

/-- The request of the work went into the slot, was looked up among the entries
and answered, and nothing else has happened to the slot since. -/
structure Served (history : List Event) (work : ℕ) (slot : SlotId)
    (msg : List Byte) (entries : List Byte → Option (List Byte)) : Prop where
  requested : ∃ first before after rest,
    history = first ++ .requested slot msg before after :: rest ∧
      (requestsOf first).length = work ∧ ∀ event ∈ rest, ¬ OnSlot slot event
  looked : (lookupsOf history)[work]? = some entries
  answered : work < (answersOf history).length

theorem foldl_mark_of_not_onSlot {slot : SlotId} {events : List Event}
    (hevents : ∀ event ∈ events, ¬ OnSlot slot event) (marked : Bool) :
    events.foldl (mark slot) marked = marked := by
  induction events with
  | nil => rfl
  | cons event events ih =>
      have hhead := hevents event List.mem_cons_self
      have hsame : mark slot marked event = marked := by
        cases event with
        | requested other msg before after => exact if_neg hhead
        | decided work other found => exact if_neg hhead
        | _ => rfl
      rw [List.foldl_cons, hsame]
      exact ih fun other hother => hevents other (List.mem_cons_of_mem event hother)

theorem not_mem_requestsOf {slot : SlotId} {events : List Event}
    (hevents : ∀ event ∈ events, ¬ OnSlot slot event) :
    ∀ request ∈ requestsOf events, request.1 ≠ slot := by
  intro request hrequest
  obtain ⟨event, hevent, hselect⟩ := List.mem_filterMap.mp hrequest
  cases event with
  | requested other msg before after =>
      cases hselect
      exact hevents _ hevent
  | _ => cases hselect

/-- The last of the answers for a slot is the one that no other follows. -/
theorem lastAnswer_eq_of_split {history : List Event} {first rest : List Answer}
    {answer : Answer} (hanswers : answersFor history = first ++ answer :: rest)
    (hrest : ∀ other ∈ rest, other.slot ≠ answer.slot) :
    lastAnswer history answer.slot = some answer := by
  have hnone : (rest.reverse.find? fun other => other.slot = answer.slot) =
      none := by
    rw [List.find?_eq_none]
    intro other hother
    simpa using hrest other (List.mem_reverse.mp hother)
  rw [lastAnswer, hanswers, List.reverse_append, List.reverse_cons,
    List.append_assoc, List.find?_append, hnone, Option.none_or]
  exact List.find?_cons_of_pos (by simp)

namespace Served

variable {history : List Event} {work : ℕ} {slot : SlotId} {msg : List Byte}
  {entries : List Byte → Option (List Byte)}

/-- No worker has been there before. -/
theorem marked_eq (hserved : Served history work slot msg entries) :
    marked history slot = false := by
  obtain ⟨first, before, after, rest, rfl, -, hrest⟩ := hserved.requested
  rw [marked, List.foldl_append, List.foldl_cons,
    foldl_mark_of_not_onSlot hrest]
  exact if_pos rfl

/-- The exchange of the request, and that none after it is for the slot. -/
theorem exists_exchange (hserved : Served history work slot msg entries)
    {exchanges : List Exchange} {pending : List Request}
    {inHand : List (List Byte → Option (List Byte))}
    (hmatched : Matched history exchanges pending inHand) :
    ∃ earlier exchange later, exchanges = earlier ++ exchange :: later ∧
      exchange.slot = slot ∧ exchange.msg = msg ∧ exchange.entries = entries ∧
      ∀ other ∈ later, other.slot ≠ slot := by
  have hbound : work < exchanges.length := by
    have hanswered := hserved.answered
    rwa [hmatched.answers_eq, List.length_map] at hanswered
  have hsplit : exchanges =
      exchanges.take work ++ exchanges[work] :: exchanges.drop (work + 1) := by
    rw [List.getElem_cons_drop, List.take_append_drop]
  obtain ⟨first, before, after, rest, hhistory, hwork, hrest⟩ := hserved.requested
  have hrequests : requestsOf first ++ (slot, msg) :: requestsOf rest =
      ((exchanges.take work).map fun exchange => (exchange.slot, exchange.msg)) ++
        (exchanges[work].slot, exchanges[work].msg) ::
          (((exchanges.drop (work + 1)).map fun exchange =>
            (exchange.slot, exchange.msg)) ++ pending) := by
    calc requestsOf first ++ (slot, msg) :: requestsOf rest
        = requestsOf history := by
          rw [hhistory, requestsOf_append]
          rfl
      _ = _ := by
          rw [hmatched.requests_eq]
          nth_rewrite 1 [hsplit]
          rw [List.map_append, List.map_cons, List.append_assoc,
            List.cons_append]
  have hlength : (requestsOf first).length =
      ((exchanges.take work).map fun exchange =>
        (exchange.slot, exchange.msg)).length := by
    rw [hwork, List.length_map, List.length_take]
    omega
  obtain ⟨-, htail⟩ := List.append_inj hrequests hlength
  obtain ⟨hhead, hlater⟩ := List.cons.inj htail
  refine ⟨_, exchanges[work], _, hsplit, ?_, ?_, ?_, ?_⟩
  · exact (congrArg Prod.fst hhead).symm
  · exact (congrArg Prod.snd hhead).symm
  · have hlooked := hserved.looked
    rw [hmatched.lookups_eq, List.getElem?_append_left
      (by rwa [List.length_map]), List.getElem?_map,
      List.getElem?_eq_getElem hbound] at hlooked
    exact Option.some.inj hlooked
  · intro other hother
    apply not_mem_requestsOf hrest (other.slot, other.msg)
    rw [hlater]
    exact List.mem_append_left _ (List.mem_map_of_mem hother)

/-- The slot shows the record that was stored when the request was looked up. -/
theorem lastAnswer_eq (hserved : Served history work slot msg entries)
    {exchanges : List Exchange} {pending : List Request}
    {inHand : List (List Byte → Option (List Byte))}
    (hmatched : Matched history exchanges pending inHand) :
    lastAnswer history slot = some
      { slot := slot
        iid := (requestHeader msg).iid
        record := storedRecord entries (requestHeader msg).iid } := by
  obtain ⟨earlier, exchange, later, rfl, rfl, rfl, rfl, hlater⟩ :=
    hserved.exists_exchange hmatched
  have hanswers : answersFor history = earlier.map Exchange.answer ++
      exchange.answer :: later.map Exchange.answer := by
    rw [answersFor_eq hmatched.requests_eq hmatched.answers_eq, List.map_append,
      List.map_cons]
  have hcorrect := hmatched.correct exchange (by simp)
  have hlast : lastAnswer history exchange.answer.slot = some exchange.answer := by
    apply lastAnswer_eq_of_split hanswers
    intro answer hanswer
    obtain ⟨other, hother, rfl⟩ := List.mem_map.mp hanswer
    exact hlater other hother
  rw [← hcorrect.filled]
  exact hlast

end Served

/-! ## What the worker makes of the answer -/

/-- A record that is stored, with a value of no bytes. -/
def StoredEmpty (entries : List Byte → Option (List Byte)) (iid : Word32) :
    Prop :=
  (entries (keyOf iid)).isSome = true ∧ (storedRecord entries iid).value = []

/-- Among storable records an answer is taken for a record exactly if there is
one and its value is not empty. -/
theorem answers_storedRecord_iff {entries : List Byte → Option (List Byte)}
    (hentries : Storable entries) (iid : Word32) :
    Answers iid (storedRecord entries iid) ↔
      (entries (keyOf iid)).isSome = true ∧ ¬ StoredEmpty entries iid := by
  obtain ⟨records, hrepresents, -⟩ := hentries
  have hrecord := storedRecord_of_represents hrepresents iid
  have hentry := hrepresents.lookup_eq iid
  rw [Answers, StoredEmpty]
  cases hstored : records iid with
  | none =>
      rw [hstored] at hrecord hentry
      rw [hrecord, hentry]
      constructor
      · exact fun hanswers => absurd rfl hanswers.2
      · exact fun hpresent => absurd hpresent.1 (by simp)
  | some accepted =>
      rw [hstored] at hrecord hentry
      have hpresent : (entries (keyOf iid)).isSome = true := by
        rw [hentry]
        rfl
      have hiid : (storedRecord entries iid).iid = iid := by
        rw [hrecord]
        exact hrepresents.iid_eq iid accepted hstored
      constructor
      · exact fun hanswers => ⟨hpresent, fun hempty => hanswers.2 hempty.2⟩
      · exact fun hfound => ⟨hiid, fun hempty => hfound.2 ⟨hpresent, hempty⟩⟩

/-! ## What was looked up -/

section Looked

variable {memory : DeviceMemory} {state next : ReadTest} {history events : List Event}
variable {entries : List Byte → Option (List Byte)}

/-- The thread looks requests up in the database as it is, and no other step
looks anything up. -/
theorem looked_of_workers (htrack : WorkersTrack memory state history)
    {action : WorkersAction}
    (hstep : workers state action = .ok (next, events))
    (hmem : .looked entries ∈ events) : entries = state.database.entries := by
  by_cases haction : FirstLap.IsRequest action
  · cases action with
    | readTestWrite msg allocated =>
        obtain ⟨⟨device, callback, work, ret⟩, -, hreturned⟩ :=
          bind_eq_ok.mp hstep
        cases hreturned
        cases callback with
        | none => exact absurd hmem List.not_mem_nil
        | some slot => cases List.mem_singleton.mp hmem
    | _ => exact absurd haction id
  · obtain ⟨hshows, -⟩ := FirstLap.workers_shows htrack haction hstep
    cases hshows with
    | nothing => exact absurd hmem List.not_mem_nil
    | looked =>
        cases List.mem_singleton.mp hmem
        rfl
    | _ => cases List.mem_singleton.mp hmem

end Looked

/-- The state agrees with the history, and every lookup was among storable
records. -/
structure PresenceTrack (memory : DeviceMemory) (state : ReadTest)
    (history : List Event) : Prop where
  tracks : WorkersTrack memory state history
  storable : ∀ entries, .looked entries ∈ history → Storable entries

theorem presenceTrack_start (testMemory memory : DeviceMemory)
    (recv : Block slotSize) {entries : List Byte → Option (List Byte)}
    (hentries : Storable entries) :
    PresenceTrack memory (ReadTest.start testMemory memory recv entries) [] where
  tracks := WorkersTrack.start testMemory memory recv hentries
  storable _ hmem := absurd hmem List.not_mem_nil

theorem presenceTrack_step {memory : DeviceMemory} (state : ReadTest)
    (history : List Event) (action : WorkersAction)
    (htrack : PresenceTrack memory state history) (haction : action.Meets) :
    ∃ next events, workers state action = .ok (next, events) ∧
      PresenceTrack memory next (history ++ events) := by
  obtain ⟨next, events, hstep, hnext⟩ :=
    workers_step state history action htrack.tracks haction
  refine ⟨next, events, hstep, hnext, ?_⟩
  intro entries hmem
  rcases List.mem_append.mp hmem with hbefore | hevents
  · exact htrack.storable entries hbefore
  · rw [looked_of_workers htrack.tracks hstep hevents]
    exact htrack.tracks.storable

theorem run_presence {memory : DeviceMemory} {state : ReadTest}
    {history : List Event} {actions : List WorkersAction}
    (htrack : PresenceTrack memory state history)
    (hactions : ∀ action ∈ actions, action.Meets) :
    ∃ last events, run workers state actions = .ok (last, events) ∧
      PresenceTrack memory last (history ++ events) :=
  run_of_invariant (PresenceTrack memory) WorkersAction.Meets
    (fun state history action => presenceTrack_step state history action) htrack
    hactions

/-! ## Told apart -/

/-- The work waits for the answer to its request, which has been served. -/
structure Judged (state : ReadTest) (history : List Event) (work : ℕ)
    (iid : Word32) (entries : List Byte → Option (List Byte)) : Prop where
  waiting : ∃ persistence elapsed,
    state.works[work]? = some (some ⟨persistence, .waiting elapsed⟩)
  served : ∃ slot msg, Served history work slot msg entries ∧
    (requestHeader msg).iid = iid

/-- `messagesFound` goes up exactly if a record is stored under the number. -/
def CountsPresent (state next : ReadTest)
    (entries : List Byte → Option (List Byte)) (iid : Word32) : Prop :=
  next.messagesFound =
    countIf state.messagesFound (entries (keyOf iid)).isSome

theorem countIf_inj (counter : Word32) {first second : Bool} :
    countIf counter first = countIf counter second ↔ first = second := by
  cases first with
  | false =>
      cases second with
      | false => simp
      | true => simp [countIf]
  | true =>
      cases second with
      | false => simp [countIf]
      | true => simp

/-- The verdict on a served request. -/
theorem PresenceTrack.decide {memory : DeviceMemory} {state : ReadTest}
    {history : List Event} (htrack : PresenceTrack memory state history)
    {work : ℕ} {iid : Word32} {entries : List Byte → Option (List Byte)}
    (hjudged : Judged state history work iid entries) :
    ∃ next events, workers state (.decide work) = .ok (next, events) ∧
      (CountsPresent state next entries iid ↔ ¬ StoredEmpty entries iid) := by
  obtain ⟨persistence, elapsed, hwork⟩ := hjudged.waiting
  obtain ⟨slot, msg, hserved, hiid⟩ := hjudged.served
  refine ⟨_, _, htrack.tracks.workers_decide hwork, ?_⟩
  obtain ⟨exchanges, queue, found, inHand, -, hmatched, -⟩ :=
    htrack.tracks.read.serves
  have hlast := hserved.lastAnswer_eq hmatched
  have hstorable := htrack.storable entries <| by
    obtain ⟨event, hevent, hselect⟩ := List.mem_filterMap.mp
      (List.mem_of_getElem? hserved.looked)
    cases event with
    | looked same =>
        cases hselect
        exact hevent
    | _ => cases hselect
  -- the work is the one of the served request
  obtain ⟨same, hsame, hworkIid⟩ :=
    htrack.tracks.works.request work persistence _ hwork
  have hrequest : (requestsOf history)[work]? = some (slot, msg) := by
    obtain ⟨first, before, after, rest, rfl, rfl, -⟩ := hserved.requested
    rw [requestsOf_append, List.getElem?_append_right le_rfl, Nat.sub_self]
    rfl
  obtain ⟨hslot, rfl⟩ : persistence.param = slot ∧ same = msg := by
    rw [hrequest] at hsame
    cases hsame
    exact ⟨rfl, rfl⟩
  have hfound : responseFound state.side.device persistence = true ↔
      (entries (keyOf iid)).isSome = true ∧ ¬ StoredEmpty entries iid := by
    rw [htrack.tracks.callbacks.responseFound_iff, VisibleIn, hslot, hworkIid,
      hlast, ← answers_storedRecord_iff hstorable, hiid]
    constructor
    · rintro ⟨-, answer, hanswer, hanswers⟩
      cases hanswer
      exact hanswers
    · exact fun hanswers => ⟨hserved.marked_eq, _, rfl, hanswers⟩
  rw [CountsPresent]
  dsimp only
  rw [countIf_inj, Bool.eq_iff_iff, hfound]
  constructor
  · exact fun hiff hempty => (hiff.mpr hempty.1).2 hempty
  · exact fun hfull => ⟨And.left, fun hpresent => ⟨hpresent, hfull⟩⟩

/-! ## One request for number seven -/

/-- A record of number 7 with an empty value. -/
def emptyAccepted : UserAccepted where
  header := ⟨0, 7, 0, 0, 0, 0, ⟨0, 0, 0⟩⟩
  value := []
  length_eq := rfl

/-- A database with this record. -/
def emptyEntries : List Byte → Option (List Byte) :=
  applyWrites (fun _ => none) [emptyAccepted.entry]

theorem storable_emptyEntries : Storable emptyEntries := by
  apply @storable_entries [emptyAccepted]
  intro accepted haccepted
  cases List.mem_singleton.mp haccepted
  constructor <;> decide

def startWith (entries : List Byte → Option (List Byte)) : ReadTest :=
  ReadTest.start zeroMemory zeroMemory (Block.zero slotSize) entries

/-- A request for number 7 is made and answered, and its work taken up. -/
def answeredRequest : List WorkersAction :=
  WorkersAction.readTestWrite (headerBytes 7 0) true ::
    List.replicate 5 (WorkersAction.thread 4096) ++ [WorkersAction.wait 0]

theorem meets_answeredRequest : ∀ action ∈ answeredRequest, action.Meets := by
  intro action haction
  simp only [answeredRequest, List.mem_append, List.mem_cons,
    List.mem_replicate, List.not_mem_nil, or_false] at haction
  rcases haction with (rfl | ⟨-, rfl⟩) | rfl
  · exact readable_headerBytes_seven
  · trivial
  · trivial

/-- What is compared after the run. -/
structure Glance where
  requests : List Request
  workEvents : List (ℕ × Option (SlotId × Bool))
  stored : List (Option (List Byte))
  answers : ℕ
  stages : List (Option WorkStage)
  deriving DecidableEq

def glance (state : ReadTest) (history : List Event) : Glance where
  requests := requestsOf history
  workEvents := workEventsOf history
  stored := (lookupsOf history).map fun entries => entries (keyOf 7)
  answers := (answersOf history).length
  stages := state.works.map fun work => work.map Work.stage

/-- The only request there is has been served. -/
theorem served_of_only {history : List Event} {slot : SlotId} {msg : List Byte}
    {entries : List Byte → Option (List Byte)}
    (hrequests : requestsOf history = [(slot, msg)])
    (hverdicts : workEventsOf history = [])
    (hlooked : (lookupsOf history)[0]? = some entries)
    (hanswered : 0 < (answersOf history).length) :
    Served history 0 slot msg entries := by
  refine ⟨?_, hlooked, hanswered⟩
  have hmem : (slot, msg) ∈ requestsOf history := by
    rw [hrequests]
    exact List.mem_singleton_self _
  obtain ⟨event, hevent, hselect⟩ := List.mem_filterMap.mp hmem
  cases event with
  | requested place sent before after =>
      cases hselect
      obtain ⟨first, rest, rfl⟩ := List.append_of_mem hevent
      have hsplit : requestsOf first ++ (slot, msg) :: requestsOf rest =
          [] ++ (slot, msg) :: [] := by
        rw [requestsOf_append] at hrequests
        exact hrequests
      have hlength := congrArg List.length hsplit
      simp only [List.length_append, List.length_cons, List.length_nil] at hlength
      have hfirst : (requestsOf first).length = 0 := by omega
      have hrest : requestsOf rest = [] :=
        List.eq_nil_of_length_eq_zero (by omega)
      refine ⟨first, before, after, rest, rfl, hfirst, ?_⟩
      intro other hother honslot
      cases other with
      | requested again text earlier later =>
          have hagain : (again, text) ∈ requestsOf rest :=
            List.mem_filterMap.mpr ⟨_, hother, rfl⟩
          rw [hrest] at hagain
          exact absurd hagain List.not_mem_nil
      | decided work place found =>
          have hdecided := decided_mem_iff.mp (List.mem_append_right first
            (List.mem_cons_of_mem (.requested slot msg before after) hother))
          rw [hverdicts] at hdecided
          exact absurd hdecided List.not_mem_nil
      | _ => exact honslot
  | _ => cases hselect

theorem requestHeader_seven_iid : (requestHeader (headerBytes 7 0)).iid = 7 := by
  decide +kernel

/-- After the run the work is about to judge its request. -/
theorem judged_of_glanced {entries : List Byte → Option (List Byte)}
    {stored : Option (List Byte)}
    (hglanced : observeRun workers glance (startWith entries) answeredRequest =
      some
      { requests := [(0, headerBytes 7 0)]
        workEvents := []
        stored := [stored]
        answers := 1
        stages := [some (.waiting false)] }) :
    ∃ state history looked,
      run workers (startWith entries) answeredRequest = .ok (state, history) ∧
      looked (keyOf 7) = stored ∧ Judged state history 0 7 looked := by
  obtain ⟨state, history, hrun, hglance⟩ := run_of_observeRun hglanced
  have hrequests : requestsOf history = [(0, headerBytes 7 0)] :=
    congrArg Glance.requests hglance
  have hverdicts : workEventsOf history = [] :=
    congrArg Glance.workEvents hglance
  have hanswers : (answersOf history).length = 1 :=
    congrArg Glance.answers hglance
  have hstored : (lookupsOf history).map (fun looked => looked (keyOf 7)) =
      [stored] := congrArg Glance.stored hglance
  have hstages : state.works.map (fun work => work.map Work.stage) =
      [some (.waiting false)] := congrArg Glance.stages hglance
  obtain ⟨looked, hlookups, hlooked⟩ := List.map_eq_singleton_iff.mp hstored
  obtain ⟨work, hworks, hstage⟩ := List.map_eq_singleton_iff.mp hstages
  obtain ⟨⟨persistence, stage⟩, rfl, rfl⟩ := Option.map_eq_some_iff.mp hstage
  have hlookup : (lookupsOf history)[0]? = some looked := by
    rw [hlookups]
    rfl
  have hwork : state.works[0]? = some (some ⟨persistence, .waiting false⟩) := by
    rw [hworks]
    rfl
  exact ⟨state, history, looked, hrun, hlooked, ⟨persistence, false, hwork⟩,
    0, headerBytes 7 0, served_of_only hrequests hverdicts hlookup (by omega),
    requestHeader_seven_iid⟩

/-! ## Counting what is present -/

/-- For every interleaving of requests, steps of the thread, stores of others
and steps of the workers, and for every work that then comes to its verdict on
a request served undisturbed: the request is counted as found exactly if a
record was stored under its number, unless that record has an empty value. -/
theorem countsPresent_iff (testMemory memory : DeviceMemory)
    (recv : Block slotSize) {entries : List Byte → Option (List Byte)}
    (hentries : Storable entries) {actions : List WorkersAction}
    (hactions : ∀ action ∈ actions, action.Meets) :
    ∃ state history,
      run workers (ReadTest.start testMemory memory recv entries) actions =
        .ok (state, history) ∧
      ∀ work iid looked, Judged state history work iid looked →
        ∃ next events, workers state (.decide work) = .ok (next, events) ∧
          (CountsPresent state next looked iid ↔ ¬ StoredEmpty looked iid) := by
  obtain ⟨state, history, hrun, htrack⟩ := run_presence
    (presenceTrack_start testMemory memory recv hentries) hactions
  exact ⟨state, history, hrun, fun work iid looked hjudged =>
    htrack.decide hjudged⟩

theorem countsPresent_iff_stored :
    Storable storedEntries ∧ (∀ action ∈ answeredRequest, action.Meets) ∧
    ∃ state history looked next events,
      run workers (startWith storedEntries) answeredRequest =
        .ok (state, history) ∧
      Judged state history 0 7 looked ∧
      workers state (.decide 0) = .ok (next, events) ∧
      CountsPresent state next looked 7 := by
  refine ⟨storable_storedEntries, meets_answeredRequest, ?_⟩
  obtain ⟨state, history, looked, hrun, hlooked, hjudged⟩ :=
    @judged_of_glanced storedEntries (some storedAccepted.encode)
      (by decide +kernel)
  obtain ⟨same, others, hsame, hall⟩ := countsPresent_iff zeroMemory zeroMemory
    (Block.zero slotSize) storable_storedEntries meets_answeredRequest
  obtain ⟨rfl, rfl⟩ := Prod.mk.inj (Except.ok.inj (hrun.symm.trans hsame))
  obtain ⟨next, events, hdecide, hiff⟩ := hall 0 7 looked hjudged
  refine ⟨state, history, looked, next, events, hrun, hjudged, hdecide,
    hiff.mpr ?_⟩
  rw [StoredEmpty, storedRecord, hlooked]
  decide +kernel

/-- A record with an empty value is stored, looked up and answered, and is not
counted. -/
theorem emptyValue_not_countsPresent :
    Storable emptyEntries ∧ (∀ action ∈ answeredRequest, action.Meets) ∧
    ∃ state history looked next events,
      run workers (startWith emptyEntries) answeredRequest =
        .ok (state, history) ∧
      Judged state history 0 7 looked ∧
      workers state (.decide 0) = .ok (next, events) ∧
      ¬ CountsPresent state next looked 7 := by
  refine ⟨storable_emptyEntries, meets_answeredRequest, ?_⟩
  obtain ⟨state, history, looked, hrun, hlooked, hjudged⟩ :=
    @judged_of_glanced emptyEntries (some emptyAccepted.encode)
      (by decide +kernel)
  obtain ⟨same, others, hsame, htrack⟩ := run_presence
    (presenceTrack_start zeroMemory zeroMemory (Block.zero slotSize)
      storable_emptyEntries) meets_answeredRequest
  obtain ⟨rfl, rfl⟩ := Prod.mk.inj (Except.ok.inj (hrun.symm.trans hsame))
  obtain ⟨next, events, hdecide, hiff⟩ := htrack.decide hjudged
  refine ⟨state, history, looked, next, events, hrun, hjudged, hdecide,
    fun hcounts => hiff.mp hcounts ?_⟩
  rw [StoredEmpty, storedRecord, hlooked]
  decide +kernel

end PaxosPersistence.Presence
