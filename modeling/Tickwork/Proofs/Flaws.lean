import Tickwork.Proofs.Rules

/-!
# Flaws of a graph

One constructor for each way in which a part of a graph can fail the rules, with the violation that it
is reported as. What the rules find is exactly the flaws of the graph.
-/

set_option autoImplicit false

namespace Tickwork

variable {F : Type}

namespace Value

/-- A whole number that is not negative; a truth value is no number here. -/
def IsCount (v : Value) : Prop :=
  ∃ n : Int, v = .int n ∧ 0 ≤ n

/-- The two values can be compared, and the first one is less than the second one. -/
def IsLess (a b : Value) : Prop :=
  a.isLess b = .ok true

end Value

/-- A target that is given and in the graph. -/
def Graph.Has (g : Graph F) (target : Target) : Prop :=
  ∃ id, target = some id ∧ id ∈ names g.states

/-! ## Flaws -/

/-- What is wrong with routes. -/
inductive RouteFlaw (g : Graph F) (path : String) (routes : Routes) : Violation → Prop where
  | none : routes = [] → RouteFlaw g path routes ⟨path ++ ".routes", "must define transitions"⟩
  | event {target : Target} : ("", target) ∈ routes →
      RouteFlaw g path routes ⟨path ++ ".routes", "event name must not be empty"⟩
  | target {event : String} {target : Target} : (event, target) ∈ routes → target.getD "" = "" →
      RouteFlaw g path routes ⟨s!"{path}.routes.{event}", "transition target must not be empty"⟩
  | lost {event id : String} : (event, some id) ∈ routes → id ≠ "" → id ∉ names g.states →
      RouteFlaw g path routes
        ⟨s!"{path}.routes.{event}", s!"transition target `{id}` does not exist"⟩

/-- What is wrong with what stands where a callable is expected. -/
inductive SlotFlaw (g : Graph F) (path : String) : Slot F → Violation → Prop where
  | unknown {name : String} : name ∉ names g.handlers →
      SlotFlaw g path (.named name) ⟨path, s!"unknown handler `{name}`"⟩
  | absent : SlotFlaw g path .absent ⟨path, "must be callable or a registered name"⟩
  | inert (v : Value) : SlotFlaw g path (.inert v) ⟨path, "must be callable or a registered name"⟩

/-- What is wrong with a retry policy. -/
inductive RetryFlaw (path : String) (p : RetryPolicy) : Violation → Prop where
  | choice : (p.max = .null ↔ p.maxRetries = .null) →
      RetryFlaw path p ⟨path, "retry must define exactly one of `max` or `max_retries`"⟩
  | max : p.max ≠ .null → ¬ p.max.IsCount →
      RetryFlaw path p ⟨path ++ ".max", "must be a non-negative integer"⟩
  | maxRetries : p.maxRetries ≠ .null → ¬ p.maxRetries.IsCount →
      RetryFlaw path p ⟨path ++ ".max_retries", "must be a non-negative integer"⟩
  | base {b : Backoff} : p.backoff = some b → b.baseMs.IsLess (.int 0) →
      RetryFlaw path p ⟨path ++ ".backoff.base_ms", "must be >= 0"⟩
  | cap {b : Backoff} : p.backoff = some b → b.capMs ≠ .null → b.capMs.IsLess b.baseMs →
      RetryFlaw path p ⟨path ++ ".backoff.cap_ms", "must be >= base_ms"⟩

/-- What is wrong with the two references of an orchestrate state. -/
inductive OrchestrateFlaw (g : Graph F) (path : String) (handler : Handler F)
    (selector : Selector F) : Violation → Prop where
  | choice : (handler = .slot .absent ↔ selector = .slot .absent) →
      OrchestrateFlaw g path handler selector
        ⟨path, "orchestrate must define exactly one of handler or selector"⟩
  | handler {ref : Slot F} {v : Violation} : handler = .slot ref → ref ≠ .absent →
      SlotFlaw g (path ++ ".handler") ref v → OrchestrateFlaw g path handler selector v
  | selector {ref : Slot F} {v : Violation} : selector = .slot ref → ref ≠ .absent →
      SlotFlaw g (path ++ ".selector") ref v → OrchestrateFlaw g path handler selector v

/-- What is wrong with a loop beside its routes. -/
inductive LoopFlaw (g : Graph F) (path : String) (body : Target) (bound : Value) (again : Target)
    (stop : Slot F) : Violation → Prop where
  | body : ¬ g.Has body → LoopFlaw g path body bound again stop
      ⟨path ++ ".body", s!"loop body `{shownOption body}` does not exist"⟩
  | again : again ≠ body → LoopFlaw g path body bound again stop
      ⟨path ++ ".routes.continue",
        s!"loop continue transition must target body `{shownOption body}`"⟩
  | whole : (∀ n, bound ≠ .int n) → LoopFlaw g path body bound again stop
      ⟨path ++ ".max_iterations", "must be an integer"⟩
  | negative {n : Int} : bound = .int n → n < 0 → LoopFlaw g path body bound again stop
      ⟨path ++ ".max_iterations", "must be >= 0"⟩
  | guard {name : String} : stop = .named name → name ∉ names g.guards →
      LoopFlaw g path body bound again stop ⟨path ++ ".until", s!"unknown guard `{name}`"⟩

/-- What is wrong with a pause. -/
inductive PauseFlaw (g : Graph F) (id resume : String) : Violation → Prop where
  | start : resume = previousState → id = g.start → PauseFlaw g id resume
      ⟨s!"states.{id}.resume", "start state cannot resume to the previous state"⟩
  | lost : resume ≠ previousState → g.state? resume = none → PauseFlaw g id resume
      ⟨s!"states.{id}.resume", s!"resume target `{resume}` does not exist"⟩
  | pause {node : State F} : resume ≠ previousState → g.state? resume = some node →
      node.isFeedback = true → PauseFlaw g id resume
        ⟨s!"states.{id}.resume", s!"resume target `{resume}` is a feedback state"⟩

/-- What is wrong with a state. -/
inductive StateFlaw (g : Graph F) (id : String) : State F → Violation → Prop where
  | actionRoutes {handler : Handler F} {routes : ActionRoutes} {retry : Option RetryPolicy}
      {v : Violation} : RouteFlaw g s!"states.{id}" routes.toRoutes v →
      StateFlaw g id (.action handler routes retry) v
  | handler {ref : Slot F} {routes : ActionRoutes} {retry : Option RetryPolicy} {v : Violation} :
      SlotFlaw g (s!"states.{id}" ++ ".handler") ref v →
      StateFlaw g id (.action (.slot ref) routes retry) v
  | retry {handler : Handler F} {routes : ActionRoutes} {p : RetryPolicy} {v : Violation} :
      RetryFlaw (s!"states.{id}" ++ ".retry") p v →
      StateFlaw g id (.action handler routes (some p)) v
  | orchestrateRoutes {routes : Routes} {handler : Handler F} {selector : Selector F}
      {v : Violation} : RouteFlaw g s!"states.{id}" routes v →
      StateFlaw g id (.orchestrate routes handler selector) v
  | orchestrate {routes : Routes} {handler : Handler F} {selector : Selector F} {v : Violation} :
      OrchestrateFlaw g s!"states.{id}" handler selector v →
      StateFlaw g id (.orchestrate routes handler selector) v
  | loopRoutes {body : Target} {bound : Value} {routes : LoopRoutes} {stop : Slot F}
      {v : Violation} : RouteFlaw g s!"states.{id}" routes.toRoutes v →
      StateFlaw g id (.loop body bound routes stop) v
  | loop {body : Target} {bound : Value} {routes : LoopRoutes} {stop : Slot F} {v : Violation} :
      LoopFlaw g s!"states.{id}" body bound routes.again stop v →
      StateFlaw g id (.loop body bound routes stop) v
  | pause {resume : String} {v : Violation} : PauseFlaw g id resume v →
      StateFlaw g id (.feedback resume) v
  | kind (value : Value) : StateFlaw g id (.unsupported value)
      ⟨s!"states.{id}", s!"unsupported state type {value.typeName}"⟩

/-- What is wrong with a graph. -/
inductive Flaw (g : Graph F) : Violation → Prop where
  | empty : g.states = [] → Flaw g ⟨"states", "factory must define at least one state"⟩
  | start : g.start ∉ names g.states →
      Flaw g ⟨"start", s!"start state `{g.start}` does not exist"⟩
  | state {id : String} {node : State F} {v : Violation} : (id, node) ∈ g.states →
      StateFlaw g id node v → Flaw g v

/-! ## The violations of a graph are its flaws -/

namespace Graph

variable {g : Graph F} {path id : String} {v : Violation}

theorem hasState_iff : g.hasState id = true ↔ id ∈ names g.states :=
  lookup_isSome_iff

theorem mem_routeViolations {event : String} {target : Target} :
    v ∈ g.routeViolations path event target ↔
      (event = "" ∧ v = ⟨path ++ ".routes", "event name must not be empty"⟩) ∨
      (target.getD "" = "" ∧
        v = ⟨s!"{path}.routes.{event}", "transition target must not be empty"⟩) ∨
      ∃ id, target = some id ∧ id ≠ "" ∧ id ∉ names g.states ∧
        v = ⟨s!"{path}.routes.{event}", s!"transition target `{id}` does not exist"⟩ := by
  unfold routeViolations
  rw [List.mem_append]
  refine or_congr (by split <;> simp_all) ?_
  cases target with
  | none => simp
  | some id =>
      by_cases empty : id = ""
      · simp [empty]
      · by_cases has : g.hasState id = true
        · simp [empty, has, hasState_iff.mp has]
        · simp [empty, has, mt hasState_iff.mpr has]

theorem mem_routesViolations {routes : Routes} :
    v ∈ g.routesViolations path routes ↔ RouteFlaw g path routes v := by
  unfold routesViolations
  constructor
  · intro inside
    by_cases empty : routes = []
    · subst empty
      simp only [List.isEmpty_nil, if_true, List.mem_singleton] at inside
      subst inside
      exact .none rfl
    · rw [if_neg (by simpa using empty), List.mem_flatMap] at inside
      obtain ⟨⟨event, target⟩, entry, inside⟩ := inside
      rcases mem_routeViolations.mp inside with
        ⟨rfl, rfl⟩ | ⟨unset, rfl⟩ | ⟨id, rfl, named, absent, rfl⟩
      · exact .event entry
      · exact .target entry unset
      · exact .lost entry named absent
  · intro flaw
    cases flaw with
    | none empty => simp [empty]
    | event entry =>
        rw [if_neg (by simpa using List.ne_nil_of_mem entry), List.mem_flatMap]
        exact ⟨_, entry, mem_routeViolations.mpr (.inl ⟨rfl, rfl⟩)⟩
    | target entry unset =>
        rw [if_neg (by simpa using List.ne_nil_of_mem entry), List.mem_flatMap]
        exact ⟨_, entry, mem_routeViolations.mpr (.inr (.inl ⟨unset, rfl⟩))⟩
    | lost entry named absent =>
        rw [if_neg (by simpa using List.ne_nil_of_mem entry), List.mem_flatMap]
        exact ⟨_, entry, mem_routeViolations.mpr (.inr (.inr ⟨_, rfl, named, absent, rfl⟩))⟩

theorem mem_slotViolations {ref : Slot F} :
    v ∈ g.slotViolations path ref ↔ SlotFlaw g path ref v := by
  cases ref with
  | absent =>
      simp only [slotViolations, List.mem_singleton]
      exact ⟨fun here => here ▸ .absent, fun flaw => by cases flaw; rfl⟩
  | inert value =>
      simp only [slotViolations, List.mem_singleton]
      exact ⟨fun here => here ▸ .inert value, fun flaw => by cases flaw; rfl⟩
  | code f scope =>
      simp only [slotViolations, List.not_mem_nil, false_iff]
      exact nofun
  | named name =>
      simp only [slotViolations, lookup_isSome_iff]
      by_cases known : name ∈ names g.handlers
      · simp only [known, if_true, List.not_mem_nil, false_iff]
        rintro ⟨unknown⟩
        exact unknown known
      · simp only [known, if_false, List.mem_singleton]
        exact ⟨fun here => here ▸ .unknown known, fun flaw => by cases flaw; rfl⟩

end Graph

theorem mem_limitViolations {path : String} {limit : Value} {v : Violation} :
    v ∈ Graph.limitViolations path limit ↔
      limit ≠ .null ∧ ¬ limit.IsCount ∧ v = ⟨path, "must be a non-negative integer"⟩ := by
  cases limit with
  | int n =>
      by_cases negative : n < 0
      · simp [Graph.limitViolations, Value.IsCount, negative]
      · simp [Graph.limitViolations, Value.IsCount, negative, Int.not_lt.mp negative]
  | _ => simp [Graph.limitViolations, Value.IsCount]

theorem mem_backoffViolations {path : String} {b : Backoff} {v : Violation} :
    v ∈ Graph.backoffViolations path b ↔
      (b.baseMs.IsLess (.int 0) ∧ v = ⟨path ++ ".backoff.base_ms", "must be >= 0"⟩) ∨
      (b.capMs ≠ .null ∧ b.capMs.IsLess b.baseMs ∧
        v = ⟨path ++ ".backoff.cap_ms", "must be >= base_ms"⟩) := by
  have below : ∀ left right : Value,
      (left.isLess right).toOption.getD false = true ↔ left.IsLess right := by
    intro left right
    unfold Value.IsLess
    cases left.isLess right <;> simp [Except.toOption]
  unfold Graph.backoffViolations
  simp only [below, List.mem_append]
  refine or_congr ?_ ?_
  · split <;> simp_all
  · split <;> simp_all

theorem mem_retryViolations {path : String} {p : RetryPolicy} {v : Violation} :
    v ∈ Graph.retryViolations path p ↔ RetryFlaw path p v := by
  unfold Graph.retryViolations
  simp only [List.mem_append, mem_limitViolations, decide_eq_decide]
  constructor
  · rintro (((choice | ⟨set, fails, rfl⟩) | ⟨set, fails, rfl⟩) | backoff)
    · split at choice
      · rename_i both
        simp only [List.mem_singleton] at choice
        subst choice
        exact .choice both
      · cases choice
    · exact .max set fails
    · exact .maxRetries set fails
    · split at backoff
      · rename_i b given
        rcases mem_backoffViolations.mp backoff with ⟨less, rfl⟩ | ⟨capped, less, rfl⟩
        · exact .base given less
        · exact .cap given capped less
      · cases backoff
  · intro flaw
    cases flaw with
    | choice both => simp [both]
    | max set fails => exact .inl (.inl (.inr ⟨set, fails, rfl⟩))
    | maxRetries set fails => exact .inl (.inr ⟨set, fails, rfl⟩)
    | base given less =>
        right
        rw [given]
        exact mem_backoffViolations.mpr (.inl ⟨less, rfl⟩)
    | cap given capped less =>
        right
        rw [given]
        exact mem_backoffViolations.mpr (.inr ⟨capped, less, rfl⟩)

namespace Graph

variable {g : Graph F} {path id : String} {v : Violation}

theorem mem_handlerViolations {handler : Handler F} :
    v ∈ g.handlerViolations path handler ↔
      ∃ ref, handler = .slot ref ∧ SlotFlaw g path ref v := by
  cases handler with
  | slot ref => simp [handlerViolations, mem_slotViolations]
  | _ => simp [handlerViolations]

theorem mem_selectorViolations {selector : Selector F} :
    v ∈ g.selectorViolations path selector ↔
      ∃ ref, selector = .slot ref ∧ SlotFlaw g path ref v := by
  cases selector with
  | slot ref => simp [selectorViolations, mem_slotViolations]
  | route select known => simp [selectorViolations]

theorem hasHandler_iff {handler : Handler F} : hasHandler handler = true ↔ handler ≠ .slot .absent := by
  unfold hasHandler
  split <;> simp_all

theorem hasSelector_iff {selector : Selector F} :
    hasSelector selector = true ↔ selector ≠ .slot .absent := by
  unfold hasSelector
  split <;> simp_all

theorem mem_orchestrateViolations {handler : Handler F} {selector : Selector F} :
    v ∈ g.orchestrateViolations path handler selector ↔
      OrchestrateFlaw g path handler selector v := by
  unfold orchestrateViolations
  simp only [List.mem_append]
  constructor
  · rintro ((choice | first) | second)
    · split at choice
      · rename_i both
        simp only [List.mem_singleton] at choice
        subst choice
        have given : handler ≠ .slot .absent ↔ selector ≠ .slot .absent :=
          hasHandler_iff.symm.trans ((Bool.eq_iff_iff.mp both).trans hasSelector_iff)
        exact .choice ⟨fun none => Classical.byContradiction fun some => given.mpr some none,
          fun none => Classical.byContradiction fun some => given.mp some none⟩
      · cases choice
    · split at first
      · rename_i given
        obtain ⟨ref, rfl, flaw⟩ := mem_handlerViolations.mp first
        exact .handler rfl (fun absent => hasHandler_iff.mp given (absent ▸ rfl)) flaw
      · cases first
    · split at second
      · rename_i given
        obtain ⟨ref, rfl, flaw⟩ := mem_selectorViolations.mp second
        exact .selector rfl (fun absent => hasSelector_iff.mp given (absent ▸ rfl)) flaw
      · cases second
  · intro flaw
    cases flaw with
    | choice both =>
        have same : hasHandler handler = hasSelector selector := by
          rw [Bool.eq_iff_iff, hasHandler_iff, hasSelector_iff]
          exact not_congr both
        simp [same]
    | handler is given flaw =>
        subst is
        have has := hasHandler_iff.mpr fun absent => given (Handler.slot.inj absent)
        refine .inl (.inr ?_)
        rw [if_pos has]
        exact mem_handlerViolations.mpr ⟨_, rfl, flaw⟩
    | selector is given flaw =>
        subst is
        have has := hasSelector_iff.mpr fun absent => given (Selector.slot.inj absent)
        refine .inr ?_
        rw [if_pos has]
        exact mem_selectorViolations.mpr ⟨_, rfl, flaw⟩

theorem has_iff {target : Target} : (target.map g.hasState).getD false = true ↔ g.Has target := by
  cases target with
  | none => simp [Has]
  | some id => simp [Has, hasState_iff]

theorem mem_boundViolations {bound : Value} :
    v ∈ boundViolations path bound ↔
      ((∀ n, bound ≠ .int n) ∧ v = ⟨path ++ ".max_iterations", "must be an integer"⟩) ∨
      ∃ n, bound = .int n ∧ n < 0 ∧ v = ⟨path ++ ".max_iterations", "must be >= 0"⟩ := by
  cases bound with
  | int n =>
      by_cases negative : n < 0 <;> simp [boundViolations, negative]
  | _ => simp [boundViolations]

theorem mem_loopViolations {body again : Target} {bound : Value} {stop : Slot F} :
    v ∈ g.loopViolations path body bound again stop ↔ LoopFlaw g path body bound again stop v := by
  unfold loopViolations
  simp only [List.mem_append, mem_boundViolations]
  constructor
  · rintro (((lost | apart) | ⟨whole, rfl⟩ | ⟨n, given, negative, rfl⟩) | guard)
    · split at lost
      · cases lost
      · simp only [List.mem_singleton] at lost
        subst lost
        exact .body (mt has_iff.mpr ‹_›)
    · split at apart
      · cases apart
      · simp only [List.mem_singleton] at apart
        subst apart
        exact .again ‹_›
    · exact .whole whole
    · exact .negative given negative
    · split at guard
      · rename_i name
        split at guard
        · cases guard
        · rename_i unknown
          simp only [List.mem_singleton] at guard
          subst guard
          exact .guard rfl (mt lookup_isSome_iff.mpr unknown)
      · cases guard
  · intro flaw
    cases flaw with
    | body lost => simp [mt has_iff.mp lost]
    | again apart => simp [apart]
    | whole not => exact .inl (.inr (.inl ⟨not, rfl⟩))
    | negative given below => exact .inl (.inr (.inr ⟨_, given, below, rfl⟩))
    | guard given unknown =>
        subst given
        right
        simp only [lookup_isSome_iff, unknown, if_false, List.mem_singleton]

theorem mem_feedbackViolations {resume : String} :
    v ∈ g.feedbackViolations id resume ↔ PauseFlaw g id resume v := by
  unfold feedbackViolations
  constructor
  · intro inside
    split at inside
    · rename_i back
      split at inside
      · rename_i atStart
        simp only [List.mem_singleton] at inside
        subst inside
        exact .start back atStart
      · cases inside
    · rename_i named
      split at inside
      · rename_i lost
        simp only [List.mem_singleton] at inside
        subst inside
        exact .lost named lost
      · rename_i node found
        split at inside
        · rename_i pause
          simp only [List.mem_singleton] at inside
          subst inside
          exact .pause named found pause
        · cases inside
  · intro flaw
    cases flaw with
    | start back atStart => simp [back, atStart]
    | lost named lost => simp [named, lost]
    | pause named found pause => simp [named, found, pause]

theorem mem_stateViolations {node : State F} :
    v ∈ g.stateViolations id node ↔ StateFlaw g id node v := by
  unfold stateViolations
  cases node with
  | action handler routes retry =>
      simp only [List.mem_append, mem_routesViolations, mem_handlerViolations]
      constructor
      · rintro ((flaw | ⟨ref, rfl, flaw⟩) | policy)
        · exact .actionRoutes flaw
        · exact .handler flaw
        · cases retry with
          | none => cases policy
          | some p => exact .retry (mem_retryViolations.mp policy)
      · intro flaw
        cases flaw with
        | actionRoutes flaw => exact .inl (.inl flaw)
        | handler flaw => exact .inl (.inr ⟨_, rfl, flaw⟩)
        | retry flaw => exact .inr (mem_retryViolations.mpr flaw)
  | orchestrate routes handler selector =>
      simp only [List.mem_append, mem_routesViolations, mem_orchestrateViolations]
      constructor
      · rintro (flaw | flaw)
        · exact .orchestrateRoutes flaw
        · exact .orchestrate flaw
      · intro flaw
        cases flaw with
        | orchestrateRoutes flaw => exact .inl flaw
        | orchestrate flaw => exact .inr flaw
  | loop body bound routes stop =>
      simp only [List.mem_append, mem_routesViolations, mem_loopViolations]
      constructor
      · rintro (flaw | flaw)
        · exact .loopRoutes flaw
        · exact .loop flaw
      · intro flaw
        cases flaw with
        | loopRoutes flaw => exact .inl flaw
        | loop flaw => exact .inr flaw
  | feedback resume =>
      rw [mem_feedbackViolations]
      exact ⟨.pause, fun flaw => by cases flaw; assumption⟩
  | terminal status message =>
      simp only [List.not_mem_nil, false_iff]
      exact nofun
  | unsupported value =>
      simp only [List.mem_singleton]
      exact ⟨fun here => here ▸ .kind value, fun flaw => by cases flaw; rfl⟩

theorem mem_violations : v ∈ g.violations ↔ Flaw g v := by
  unfold violations
  simp only [List.mem_append, List.mem_flatMap, mem_stateViolations]
  constructor
  · rintro ((empty | start) | ⟨⟨id, node⟩, entry, flaw⟩)
    · split at empty
      · rename_i nothing
        simp only [List.mem_singleton] at empty
        subst empty
        exact .empty (by simpa using nothing)
      · cases empty
    · split at start
      · cases start
      · rename_i lost
        simp only [List.mem_singleton] at start
        subst start
        exact .start (mt hasState_iff.mpr lost)
    · exact .state entry flaw
  · intro flaw
    cases flaw with
    | empty nothing => simp [nothing]
    | start lost => simp [mt hasState_iff.mp lost]
    | state entry flaw => exact .inr ⟨_, entry, flaw⟩

end Graph

end Tickwork
