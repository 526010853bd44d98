import Mathlib

/-!
# Machines with observable events

A machine takes one step at a time.  A step consumes an action, may fail, and
otherwise yields the next state and the events an observer sees.  A run
consumes a list of actions and collects the events in order.  The rules below
carry an invariant of the state and the history so far along whole runs.
-/

namespace PaxosPersistence.Machine

variable {State Action Event Error : Type*}

/-- The transition function of a machine. -/
abbrev Step (State Action Event Error : Type*) :=
  State → Action → Except Error (State × List Event)

/-- Consume the actions in order; the first failing step ends the run. -/
def run (step : Step State Action Event Error) :
    State → List Action → Except Error (State × List Event)
  | state, [] => .ok (state, [])
  | state, action :: actions =>
      match step state action with
      | .error error => .error error
      | .ok (next, events) =>
          match run step next actions with
          | .error error => .error error
          | .ok (last, later) => .ok (last, events ++ later)

variable {step : Step State Action Event Error}

@[simp]
theorem run_nil (state : State) : run step state [] = .ok (state, []) := rfl

theorem run_nil_eq_ok {state last : State} {events : List Event} :
    run step state [] = .ok (last, events) ↔ state = last ∧ [] = events := by
  rw [run_nil, Except.ok.injEq, Prod.mk.injEq]

theorem run_cons_eq_ok {state last : State} {action : Action}
    {actions : List Action} {events : List Event} :
    run step state (action :: actions) = .ok (last, events) ↔
      ∃ next first later, step state action = .ok (next, first) ∧
        run step next actions = .ok (last, later) ∧ events = first ++ later := by
  constructor
  · intro hrun
    rw [run] at hrun
    cases hstep : step state action with
    | error error => simp [hstep] at hrun
    | ok result =>
        obtain ⟨next, first⟩ := result
        simp only [hstep] at hrun
        cases hrest : run step next actions with
        | error error => simp [hrest] at hrun
        | ok rest =>
            obtain ⟨final, later⟩ := rest
            simp only [hrest, Except.ok.injEq, Prod.mk.injEq] at hrun
            obtain ⟨rfl, rfl⟩ := hrun
            exact ⟨next, first, later, rfl, hrest, rfl⟩
  · rintro ⟨next, first, later, hstep, hrest, rfl⟩
    rw [run, hstep]
    simp only [hrest]

/-- A run over two action lists is a run over the first followed by one over
the second. -/
theorem run_append_eq_ok {state last : State} {before after : List Action}
    {events : List Event} :
    run step state (before ++ after) = .ok (last, events) ↔
      ∃ middle first later, run step state before = .ok (middle, first) ∧
        run step middle after = .ok (last, later) ∧ events = first ++ later := by
  induction before generalizing state events with
  | nil =>
      constructor
      · intro hrun
        exact ⟨state, [], events, rfl, hrun, rfl⟩
      · rintro ⟨middle, first, later, hfirst, hlater, rfl⟩
        obtain ⟨rfl, rfl⟩ := run_nil_eq_ok.mp hfirst
        exact hlater
  | cons action before ih =>
      rw [List.cons_append]
      constructor
      · intro hrun
        obtain ⟨next, first, later, hstep, hrest, rfl⟩ := run_cons_eq_ok.mp hrun
        obtain ⟨middle, second, third, hbefore, hafter, rfl⟩ := ih.mp hrest
        exact ⟨middle, first ++ second, third,
          run_cons_eq_ok.mpr ⟨next, first, second, hstep, hbefore, rfl⟩,
          hafter, (List.append_assoc _ _ _).symm⟩
      · rintro ⟨middle, first, later, hbefore, hafter, rfl⟩
        obtain ⟨next, second, third, hstep, hrest, rfl⟩ :=
          run_cons_eq_ok.mp hbefore
        exact run_cons_eq_ok.mpr ⟨next, second, third ++ later, hstep,
          ih.mpr ⟨middle, third, later, hrest, hafter, rfl⟩,
          List.append_assoc _ _ _⟩

/-- The last step of a run starts where the run before it ended. -/
theorem run_concat_eq_ok {state last : State} {before : List Action}
    {action : Action} {events : List Event} :
    run step state (before ++ [action]) = .ok (last, events) ↔
      ∃ middle first second, run step state before = .ok (middle, first) ∧
        step middle action = .ok (last, second) ∧ events = first ++ second := by
  rw [run_append_eq_ok]
  constructor
  · rintro ⟨middle, first, later, hbefore, hlater, rfl⟩
    obtain ⟨next, second, rest, hstep, hrest, rfl⟩ := run_cons_eq_ok.mp hlater
    obtain ⟨rfl, rfl⟩ := run_nil_eq_ok.mp hrest
    exact ⟨middle, first, second, hbefore, hstep, by rw [List.append_nil]⟩
  · rintro ⟨middle, first, second, hbefore, hstep, rfl⟩
    exact ⟨middle, first, second, hbefore,
      run_cons_eq_ok.mpr ⟨last, second, [], hstep, rfl, by simp⟩, rfl⟩

/-! ## What is observed of a run -/

/-- What is observed of the state and the events of a run that succeeds. -/
def observeRun {View : Type*} (step : Step State Action Event Error)
    (observe : State → List Event → View) (start : State)
    (actions : List Action) : Option View :=
  match run step start actions with
  | .ok (last, events) => some (observe last events)
  | .error _ => none

theorem run_of_observeRun {View : Type*} {observe : State → List Event → View}
    {start : State} {actions : List Action} {view : View}
    (hobserved : observeRun step observe start actions = some view) :
    ∃ last events, run step start actions = .ok (last, events) ∧
      observe last events = view := by
  rw [observeRun] at hobserved
  split at hobserved
  · rename_i last events hrun
    exact ⟨last, events, hrun, Option.some.inj hobserved⟩
  · cases hobserved

/-! ## Invariants of the state and the history -/

/-- A property that every allowed successful step preserves holds after every
successful run of allowed actions. -/
theorem invariant_of_run_eq_ok (Inv : State → List Event → Prop)
    (Allowed : Action → Prop)
    (hstep : ∀ state history action next events, Inv state history →
      Allowed action → step state action = .ok (next, events) →
        Inv next (history ++ events))
    {state last : State} {history events : List Event} {actions : List Action}
    (hinv : Inv state history) (hallowed : ∀ action ∈ actions, Allowed action)
    (hrun : run step state actions = .ok (last, events)) :
    Inv last (history ++ events) := by
  induction actions generalizing state history events with
  | nil =>
      obtain ⟨rfl, rfl⟩ := run_nil_eq_ok.mp hrun
      simpa using hinv
  | cons action actions ih =>
      obtain ⟨next, first, later, hfirst, hrest, rfl⟩ := run_cons_eq_ok.mp hrun
      have hnext := hstep state history action next first hinv
        (hallowed action List.mem_cons_self) hfirst
      rw [← List.append_assoc]
      exact ih hnext (fun other hother =>
        hallowed other (List.mem_cons_of_mem _ hother)) hrest

/-- An invariant of the state alone. -/
theorem state_invariant_of_run_eq_ok (Inv : State → Prop)
    (hstep : ∀ state action next events, Inv state →
      step state action = .ok (next, events) → Inv next)
    {state last : State} {events : List Event} {actions : List Action}
    (hinv : Inv state) (hrun : run step state actions = .ok (last, events)) :
    Inv last := by
  induction actions generalizing state events with
  | nil =>
      obtain ⟨rfl, -⟩ := run_nil_eq_ok.mp hrun
      exact hinv
  | cons action actions ih =>
      obtain ⟨next, first, later, hfirst, hrest, rfl⟩ := run_cons_eq_ok.mp hrun
      exact ih (hstep state action next first hinv hfirst) hrest

/-- When moreover no allowed step fails under the invariant, every run of
allowed actions succeeds. -/
theorem run_of_invariant (Inv : State → List Event → Prop)
    (Allowed : Action → Prop)
    (hstep : ∀ state history action, Inv state history → Allowed action →
      ∃ next events, step state action = .ok (next, events) ∧
        Inv next (history ++ events))
    {state : State} {history : List Event} {actions : List Action}
    (hinv : Inv state history) (hallowed : ∀ action ∈ actions, Allowed action) :
    ∃ last events, run step state actions = .ok (last, events) ∧
      Inv last (history ++ events) := by
  induction actions generalizing state history with
  | nil => exact ⟨state, [], rfl, by simpa using hinv⟩
  | cons action actions ih =>
      obtain ⟨next, first, hfirst, hnext⟩ := hstep state history action hinv
        (hallowed action List.mem_cons_self)
      obtain ⟨last, later, hrest, hlast⟩ := ih hnext (fun other hother =>
        hallowed other (List.mem_cons_of_mem _ hother))
      exact ⟨last, first ++ later,
        run_cons_eq_ok.mpr ⟨next, first, later, hfirst, hrest, rfl⟩,
        by rwa [← List.append_assoc]⟩

/-- A machine in which no step fails under the invariant never stops. -/
theorem run_of_total (Inv : State → List Event → Prop)
    (hstep : ∀ state history action, Inv state history →
      ∃ next events, step state action = .ok (next, events) ∧
        Inv next (history ++ events))
    {state : State} {history : List Event} (hinv : Inv state history)
    (actions : List Action) :
    ∃ last events, run step state actions = .ok (last, events) ∧
      Inv last (history ++ events) :=
  run_of_invariant Inv (fun _ => True)
    (fun state history action hinv _ => hstep state history action hinv) hinv
    fun _ _ => trivial

/-- The same for an invariant of the state alone. -/
theorem run_of_state_invariant (Inv : State → Prop) (Allowed : Action → Prop)
    (hstep : ∀ state action, Inv state → Allowed action →
      ∃ next events, step state action = .ok (next, events) ∧ Inv next)
    {state : State} {actions : List Action} (hinv : Inv state)
    (hallowed : ∀ action ∈ actions, Allowed action) :
    ∃ last events, run step state actions = .ok (last, events) ∧ Inv last :=
  @run_of_invariant _ _ _ _ step (fun state _ => Inv state) Allowed
    (fun state _ action => hstep state action) state [] actions hinv hallowed

/-- A loop that counts its rounds up to a bound, beside other actions. -/
theorem run_of_rounds (Inv : State → List Event → Prop)
    (Allowed : Action → Prop) (isRound : Action → Bool) (index : State → ℕ)
    (bound : ℕ)
    (hbound : ∀ state history, Inv state history → index state ≤ bound)
    (hstep : ∀ state history action, Inv state history → Allowed action →
      ∃ next events, step state action = .ok (next, events) ∧
        Inv next (history ++ events) ∧
        index next = if isRound action then min bound (index state + 1)
          else index state)
    {state : State} {history : List Event} {actions : List Action}
    (hinv : Inv state history) (hallowed : ∀ action ∈ actions, Allowed action) :
    ∃ last events, run step state actions = .ok (last, events) ∧
      Inv last (history ++ events) ∧
      index last = min bound (index state + actions.countP isRound) := by
  induction actions generalizing state history with
  | nil =>
      refine ⟨state, [], rfl, by rwa [List.append_nil], ?_⟩
      exact (Nat.min_eq_right (hbound state history hinv)).symm
  | cons action actions ih =>
      obtain ⟨next, first, hfirst, hnext, hround⟩ :=
        hstep state history action hinv (hallowed action List.mem_cons_self)
      obtain ⟨last, later, hrun, hlast, hrounds⟩ := ih hnext fun other hother =>
        hallowed other (List.mem_cons_of_mem action hother)
      refine ⟨last, first ++ later,
        run_cons_eq_ok.mpr ⟨next, first, later, hfirst, hrun, rfl⟩, ?_, ?_⟩
      · rwa [← List.append_assoc]
      · have hle := hbound state history hinv
        rw [hrounds, hround, List.countP_cons]
        split <;> omega

/-! ## Two runs side by side -/

/-- Machines that take matching steps from related states show the same events
in runs of any length. -/
theorem run_of_related {Peer : Type*} {other : Step Peer Action Event Error}
    (Related : State → Peer → Prop)
    (hstep : ∀ state peer action, Related state peer →
      ∃ next following events, step state action = .ok (next, events) ∧
        other peer action = .ok (following, events) ∧ Related next following)
    {state : State} {peer : Peer} (hrelated : Related state peer)
    (actions : List Action) :
    ∃ last final events, run step state actions = .ok (last, events) ∧
      run other peer actions = .ok (final, events) ∧ Related last final := by
  induction actions generalizing state peer with
  | nil => exact ⟨state, peer, [], rfl, rfl, hrelated⟩
  | cons action actions ih =>
      obtain ⟨next, following, first, hfirst, hother, hnext⟩ :=
        hstep state peer action hrelated
      obtain ⟨last, final, later, hrest, hpeer, hlast⟩ := ih hnext
      exact ⟨last, final, first ++ later,
        run_cons_eq_ok.mpr ⟨next, first, later, hfirst, hrest, rfl⟩,
        run_cons_eq_ok.mpr ⟨following, first, later, hother, hpeer, rfl⟩,
        hlast⟩

/-- Machines that take steps together, each with events and errors of its own,
keep what relates their states and histories. -/
theorem run_of_paired {Peer PeerEvent PeerError : Type*}
    {other : Step Peer Action PeerEvent PeerError}
    (Related : State → List Event → Peer → List PeerEvent → Prop)
    (hstep : ∀ state history peer past action,
      Related state history peer past →
        ∃ next events following later, step state action = .ok (next, events) ∧
          other peer action = .ok (following, later) ∧
          Related next (history ++ events) following (past ++ later))
    {state : State} {history : List Event} {peer : Peer}
    {past : List PeerEvent} (hrelated : Related state history peer past)
    (actions : List Action) :
    ∃ last events final later, run step state actions = .ok (last, events) ∧
      run other peer actions = .ok (final, later) ∧
      Related last (history ++ events) final (past ++ later) := by
  induction actions generalizing state history peer past with
  | nil => exact ⟨state, [], peer, [], rfl, rfl, by simpa using hrelated⟩
  | cons action actions ih =>
      obtain ⟨next, first, following, second, hfirst, hsecond, hnext⟩ :=
        hstep state history peer past action hrelated
      obtain ⟨last, events, final, later, hrun, hpeer, hlast⟩ := ih hnext
      refine ⟨last, first ++ events, final, second ++ later,
        run_cons_eq_ok.mpr ⟨next, first, events, hfirst, hrun, rfl⟩,
        run_cons_eq_ok.mpr ⟨following, second, later, hsecond, hpeer, rfl⟩, ?_⟩
      rwa [← List.append_assoc, ← List.append_assoc]

/-! ## Properties of every event of a history -/

/-- Every event stands in this relation to the history before it. -/
def Historically (Relates : List Event → Event → Prop)
    (history : List Event) : Prop :=
  ∀ before event after, history = before ++ event :: after →
    Relates before event

theorem historically_nil {Relates : List Event → Event → Prop} :
    Historically Relates [] := by
  intro before event after hsplit
  exact absurd hsplit (by simp)

theorem Historically.concat {Relates : List Event → Event → Prop}
    {history : List Event} {event : Event}
    (hhistory : Historically Relates history)
    (hevent : Relates history event) :
    Historically Relates (history ++ [event]) := by
  intro before other after hsplit
  rcases List.eq_nil_or_concat after with rfl | ⟨rest, last, rfl⟩
  · obtain ⟨rfl, hlast⟩ := List.append_inj' hsplit rfl
    cases hlast
    exact hevent
  · have hconcat : history ++ [event] = (before ++ other :: rest) ++ [last] := by
      simpa using hsplit
    exact hhistory before other rest (List.append_inj' hconcat rfl).1

theorem Historically.of_append {Relates : List Event → Event → Prop}
    {first second : List Event}
    (hhistory : Historically Relates (first ++ second)) :
    Historically Relates first := by
  rintro before event after rfl
  apply hhistory before event (after ++ second)
  rw [List.append_assoc, List.cons_append]

/-- Two relations that agree under a law hold of the same lawful histories. -/
theorem Historically.congr {Law First Second : List Event → Event → Prop}
    {history : List Event} (hlaw : Historically Law history)
    (hagree : ∀ before event, Law before event →
      (First before event ↔ Second before event)) :
    Historically First history ↔ Historically Second history := by
  constructor
  · intro hfirst before event after hsplit
    exact (hagree before event (hlaw before event after hsplit)).mp
      (hfirst before event after hsplit)
  · intro hsecond before event after hsplit
    exact (hagree before event (hlaw before event after hsplit)).mpr
      (hsecond before event after hsplit)

/-! ## Guards on the state before a step -/

/-- Whenever the run comes to one of its actions, the state and the history
there meet the guard. -/
def Guarded (step : Step State Action Event Error)
    (Guard : State → List Event → Action → Prop) (start : State)
    (history : List Event) (actions : List Action) : Prop :=
  ∀ before action after state events, actions = before ++ action :: after →
    run step start before = .ok (state, events) →
      Guard state (history ++ events) action

theorem Guarded.head {Guard : State → List Event → Action → Prop}
    {start : State} {history : List Event} {action : Action}
    {actions : List Action}
    (hguarded : Guarded step Guard start history (action :: actions)) :
    Guard start history action := by
  simpa using hguarded [] action actions start [] rfl rfl

theorem Guarded.tail {Guard : State → List Event → Action → Prop}
    {start next : State} {history first : List Event} {action : Action}
    {actions : List Action}
    (hguarded : Guarded step Guard start history (action :: actions))
    (hstep : step start action = .ok (next, first)) :
    Guarded step Guard next (history ++ first) actions := by
  rintro before later after state events rfl hrun
  have hguard := hguarded (action :: before) later after state (first ++ events)
    rfl (run_cons_eq_ok.mpr ⟨next, first, events, hstep, hrun, rfl⟩)
  rwa [← List.append_assoc] at hguard

theorem guarded_nil {Guard : State → List Event → Action → Prop}
    {start : State} {history : List Event} :
    Guarded step Guard start history [] := by
  intro before action after state events hsplit
  exact absurd hsplit (by simp)

theorem Guarded.cons {Guard : State → List Event → Action → Prop}
    {start : State} {history : List Event} {action : Action}
    {actions : List Action} (hguard : Guard start history action)
    (htail : ∀ next first, step start action = .ok (next, first) →
      Guarded step Guard next (history ++ first) actions) :
    Guarded step Guard start history (action :: actions) := by
  intro before other after state events hsplit hrun
  cases before with
  | nil =>
      obtain ⟨rfl, rfl⟩ := run_nil_eq_ok.mp hrun
      obtain ⟨rfl, -⟩ := List.cons.inj hsplit
      rwa [List.append_nil]
  | cons head before =>
      obtain ⟨rfl, hrest⟩ := List.cons.inj hsplit
      obtain ⟨next, first, later, hstep, hlater, rfl⟩ :=
        run_cons_eq_ok.mp hrun
      rw [← List.append_assoc]
      exact htail next first hstep before other after state later hrest hlater

/-- A guard met by a whole run is met from every state it comes to. -/
theorem Guarded.drop {Guard : State → List Event → Action → Prop}
    {start middle : State} {history events : List Event}
    {first second : List Action}
    (hguarded : Guarded step Guard start history (first ++ second))
    (hrun : run step start first = .ok (middle, events)) :
    Guarded step Guard middle (history ++ events) second := by
  rintro before action after state later rfl hlater
  rw [List.append_assoc]
  exact hguarded (first ++ before) action after state (events ++ later)
    (List.append_assoc _ _ _).symm
    (run_append_eq_ok.mpr ⟨middle, events, later, hrun, hlater, rfl⟩)

/-- Two guards that agree under an invariant are met by the same runs. -/
theorem guarded_congr {Inv : State → Prop}
    {First Second : State → List Event → Action → Prop}
    (hstep : ∀ state action next events, Inv state →
      step state action = .ok (next, events) → Inv next)
    (hagree : ∀ state history action, Inv state →
      (First state history action ↔ Second state history action))
    {start : State} {history : List Event} {actions : List Action}
    (hinv : Inv start) :
    Guarded step First start history actions ↔
      Guarded step Second start history actions := by
  constructor
  · intro hfirst before action after state events hsplit hrun
    exact (hagree state (history ++ events) action
      (state_invariant_of_run_eq_ok Inv hstep hinv hrun)).mp
        (hfirst before action after state events hsplit hrun)
  · intro hsecond before action after state events hsplit hrun
    exact (hagree state (history ++ events) action
      (state_invariant_of_run_eq_ok Inv hstep hinv hrun)).mpr
        (hsecond before action after state events hsplit hrun)

/-- A guard met by a whole run is met by each of its beginnings. -/
theorem Guarded.of_append {Guard : State → List Event → Action → Prop}
    {start : State} {history : List Event} {first second : List Action}
    (hguarded : Guarded step Guard start history (first ++ second)) :
    Guarded step Guard start history first := by
  rintro before action after state events rfl hrun
  exact hguarded before action (after ++ second) state events (by simp) hrun

/-- A property that every guarded step establishes again holds after every
guarded run, which moreover succeeds. -/
theorem run_of_guarded {Inv : State → List Event → Prop}
    {Guard : State → List Event → Action → Prop}
    (hstep : ∀ state history action, Inv state history →
      Guard state history action →
        ∃ next events, step state action = .ok (next, events) ∧
          Inv next (history ++ events))
    {state : State} {history : List Event} {actions : List Action}
    (hinv : Inv state history)
    (hguarded : Guarded step Guard state history actions) :
    ∃ last events, run step state actions = .ok (last, events) ∧
      Inv last (history ++ events) := by
  induction actions generalizing state history with
  | nil => exact ⟨state, [], rfl, by simpa using hinv⟩
  | cons action actions ih =>
      obtain ⟨next, first, hfirst, hnext⟩ :=
        hstep state history action hinv hguarded.head
      obtain ⟨last, later, hrest, hlast⟩ := ih hnext (hguarded.tail hfirst)
      exact ⟨last, first ++ later,
        run_cons_eq_ok.mpr ⟨next, first, later, hfirst, hrest, rfl⟩,
        by rwa [← List.append_assoc]⟩

/-! ## Predicates of every state of a run -/

/-- Every state the run comes to, the first one included, and the history up to
it. -/
def Always (step : Step State Action Event Error)
    (Holds : State → List Event → Prop) (start : State) (history : List Event)
    (actions : List Action) : Prop :=
  ∀ before after state events, actions = before ++ after →
    run step start before = .ok (state, events) → Holds state (history ++ events)

section Always

variable {Holds : State → List Event → Prop} {start next : State}
  {history first : List Event} {action : Action} {actions : List Action}

theorem Always.head (halways : Always step Holds start history actions) :
    Holds start history := by
  simpa using halways [] actions start [] rfl rfl

theorem always_nil :
    Always step Holds start history [] ↔ Holds start history := by
  constructor
  · exact Always.head
  · intro hstart before after state events hsplit hrun
    obtain ⟨rfl, rfl⟩ := List.append_eq_nil_iff.mp hsplit.symm
    obtain ⟨rfl, rfl⟩ := run_nil_eq_ok.mp hrun
    rwa [List.append_nil]

theorem Always.tail
    (halways : Always step Holds start history (action :: actions))
    (hstep : step start action = .ok (next, first)) :
    Always step Holds next (history ++ first) actions := by
  rintro before after state later rfl hrun
  rw [List.append_assoc]
  exact halways (action :: before) after state (first ++ later) rfl
    (run_cons_eq_ok.mpr ⟨next, first, later, hstep, hrun, rfl⟩)

theorem Always.cons (hstart : Holds start history)
    (htail : ∀ next first, step start action = .ok (next, first) →
      Always step Holds next (history ++ first) actions) :
    Always step Holds start history (action :: actions) := by
  intro before after state events hsplit hrun
  cases before with
  | nil =>
      obtain ⟨rfl, rfl⟩ := run_nil_eq_ok.mp hrun
      rwa [List.append_nil]
  | cons head before =>
      obtain ⟨rfl, rfl⟩ := List.cons.inj hsplit
      obtain ⟨next, first, later, hstep, hrest, rfl⟩ := run_cons_eq_ok.mp hrun
      rw [← List.append_assoc]
      exact htail next first hstep before after state later rfl hrest

end Always

/-- Every state the run comes to, the first one included. -/
def Throughout (step : Step State Action Event Error) (Holds : State → Prop)
    (start : State) (actions : List Action) : Prop :=
  ∀ before after state events, actions = before ++ after →
    run step start before = .ok (state, events) → Holds state

/-- The history does not matter. -/
theorem throughout_iff_always {Holds : State → Prop} {start : State}
    {history : List Event} {actions : List Action} :
    Throughout step Holds start actions ↔
      Always step (fun state _ => Holds state) start history actions :=
  Iff.rfl

/-- Two predicates that agree under an invariant hold of the same guarded runs
if the invariant survives every step from a state where the first holds. -/
theorem throughout_iff {Inv First Second : State → Prop}
    {Guard : State → List Event → Action → Prop}
    (hstep : ∀ state history action next events, Inv state → First state →
      Guard state history action → step state action = .ok (next, events) →
        Inv next)
    (hagree : ∀ state, Inv state → (First state ↔ Second state))
    {start : State} {history : List Event} {actions : List Action}
    (hinv : Inv start) (hguarded : Guarded step Guard start history actions) :
    Throughout step First start actions ↔
      Throughout step Second start actions := by
  rw [@throughout_iff_always _ _ _ _ step First _ history,
    @throughout_iff_always _ _ _ _ step Second _ history]
  induction actions generalizing start history with
  | nil =>
      rw [always_nil, always_nil]
      exact hagree start hinv
  | cons action actions ih =>
      constructor
      · intro hfirst
        apply Always.cons
        · exact (hagree start hinv).mp hfirst.head
        · intro next events hnext
          exact (ih (hstep start history action next events hinv hfirst.head
            hguarded.head hnext) (hguarded.tail hnext)).mp (hfirst.tail hnext)
      · intro hsecond
        have hstart : First start := (hagree start hinv).mpr hsecond.head
        apply Always.cons
        · exact hstart
        · intro next events hnext
          exact (ih (hstep start history action next events hinv hstart
            hguarded.head hnext) (hguarded.tail hnext)).mpr
              (hsecond.tail hnext)

/-- A property of the state and the history holds all along a run exactly if
the run meets a guard, provided the guard says of each step, taken while the
property holds, whether it holds afterwards.  The invariant may depend on the
guard, and a step that fails meets it. -/
theorem always_iff_guarded_of_ok {Inv : State → Prop}
    {Holds : State → List Event → Prop}
    {Guard : State → List Event → Action → Prop}
    (hok : ∀ state history action next events, Inv state →
      Holds state history → step state action = .ok (next, events) →
        (Guard state history action → Inv next) ∧
          (Holds next (history ++ events) ↔ Guard state history action))
    (herror : ∀ state history action error, Inv state → Holds state history →
      step state action = .error error → Guard state history action)
    {start : State} {history : List Event} {actions : List Action}
    (hinv : Inv start) (hholds : Holds start history) :
    (∀ before after state events, actions = before ++ after →
        run step start before = .ok (state, events) →
          Holds state (history ++ events)) ↔
      Guarded step Guard start history actions := by
  change Always step Holds start history actions ↔ _
  induction actions generalizing start history with
  | nil => exact ⟨fun _ => guarded_nil, fun _ => always_nil.mpr hholds⟩
  | cons action actions ih =>
      constructor
      · intro halways
        apply Guarded.cons
        · cases hstep : step start action with
          | error error =>
              exact herror start history action error hinv hholds hstep
          | ok result =>
              obtain ⟨next, first⟩ := result
              exact (hok start history action next first hinv hholds hstep).2.mp
                (halways.tail hstep).head
        · intro next first hstep
          obtain ⟨hkeeps, hguard⟩ :=
            hok start history action next first hinv hholds hstep
          have hafter := halways.tail hstep
          exact (ih (hkeeps (hguard.mp hafter.head)) hafter.head).mp hafter
      · intro hguarded
        apply Always.cons hholds
        intro next first hstep
        obtain ⟨hkeeps, hguard⟩ :=
          hok start history action next first hinv hholds hstep
        exact (ih (hkeeps hguarded.head) (hguard.mpr hguarded.head)).mpr
          (hguarded.tail hstep)

end PaxosPersistence.Machine
