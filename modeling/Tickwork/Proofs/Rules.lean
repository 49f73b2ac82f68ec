import Tickwork.Definition.Compile
import Tickwork.Proofs.Running

/-!
# Graphs that break no rule

What the rules of a graph give to whoever runs it: every route leads to a state, limits and bounds are
whole numbers, and a pause goes on at a state that is no pause itself. A definition that compiles gives
such a graph, with each id once.
-/

set_option autoImplicit false

namespace Tickwork

variable {F : Type}

namespace Graph

variable {g : Graph F} {id : String} {node : State F}

theorem mem_of_lookup {α : Type} {entries : List (String × α)} {name : String} {a : α}
    (found : entries.lookup name = some a) : (name, a) ∈ entries := by
  induction entries with
  | nil => cases found
  | cons head rest ih =>
      obtain ⟨k, v⟩ := head
      rw [List.lookup_cons] at found
      by_cases same : name = k
      · subst same
        simp only [beq_self_eq_true] at found
        cases found
        exact List.mem_cons_self
      · have differs : (name == k) = false := by simpa using same
        rw [differs] at found
        exact List.mem_cons_of_mem _ (ih found)

theorem mem_of_state? (found : g.state? id = some node) : (id, node) ∈ g.states :=
  mem_of_lookup (Engine.lookup_of_state? found)

theorem stateViolations_nil (valid : g.violations = []) (entry : (id, node) ∈ g.states) :
    g.stateViolations id node = [] := by
  unfold violations at valid
  have states := (List.append_eq_nil_iff.mp valid).2
  rw [List.flatMap_eq_nil_iff] at states
  exact states (id, node) entry

theorem hasState_start (valid : g.violations = []) : g.hasState g.start = true := by
  unfold violations at valid
  have start := (List.append_eq_nil_iff.mp (List.append_eq_nil_iff.mp valid).1).2
  by_cases has : g.hasState g.start = true
  · exact has
  · rw [if_neg has] at start
    cases start

theorem state?_of_hasState (valid : g.violations = []) (has : g.hasState id = true) :
    ∃ node, g.state? id = some node := by
  unfold hasState at has
  obtain ⟨node, found⟩ := Option.isSome_iff_exists.mp has
  have sound := stateViolations_nil valid (mem_of_lookup found)
  unfold state?
  rw [found]
  split
  · rename_i null
    cases null
    cases sound
  · exact ⟨node, rfl⟩

/-! ## Routes -/

theorem routeViolations_nil {path event : String} {target : Target}
    (fine : g.routeViolations path event target = []) :
    ∃ id, target = some id ∧ id ≠ "" ∧ g.hasState id = true := by
  unfold routeViolations at fine
  have leads := (List.append_eq_nil_iff.mp fine).2
  split at leads
  · cases leads
  · rename_i id named
    cases target with
    | none => exact absurd rfl named
    | some id' =>
        refine ⟨id', rfl, fun empty => named empty, ?_⟩
        by_cases has : g.hasState ((some id').getD "") = true
        · exact has
        · rw [if_neg has] at leads
          cases leads

theorem routesViolations_nil {path : String} {routes : Routes} {event id : String}
    (fine : g.routesViolations path routes = []) (leads : (routes.lookup event).join = some id) :
    id ≠ "" ∧ g.hasState id = true := by
  unfold routesViolations at fine
  cases found : routes.lookup event with
  | none => simp [found] at leads
  | some target =>
      have entry := mem_of_lookup found
      by_cases empty : routes.isEmpty = true
      · rw [if_pos empty] at fine
        cases fine
      · rw [if_neg empty, List.flatMap_eq_nil_iff] at fine
        obtain ⟨id', rfl, named, has⟩ := routeViolations_nil (fine (event, target) entry)
        rw [found] at leads
        cases leads
        exact ⟨named, has⟩

/-- A route of a graph without violations leads to a state of the graph. -/
theorem target_sound (valid : g.violations = []) (found : g.state? id = some node)
    {event target : String} (leads : node.target? event = some target) :
    target ≠ "" ∧ ∃ targetNode, g.state? target = some targetNode := by
  have sound := stateViolations_nil valid (mem_of_state? found)
  have route : target ≠ "" ∧ g.hasState target = true := by
    unfold State.target? State.routes at leads
    unfold stateViolations at sound
    cases node with
    | action handler routes retry =>
        exact routesViolations_nil (List.append_eq_nil_iff.mp (List.append_eq_nil_iff.mp sound).1).1
          leads
    | orchestrate routes handler selector =>
        exact routesViolations_nil (List.append_eq_nil_iff.mp sound).1 leads
    | loop body bound routes stop =>
        exact routesViolations_nil (List.append_eq_nil_iff.mp sound).1 leads
    | feedback resume => cases leads
    | terminal status message => cases leads
    | unsupported v => cases leads
  exact ⟨route.1, state?_of_hasState valid route.2⟩

/-! ## Limits and bounds -/

theorem limitViolations_nil {path : String} {v : Value} (fine : limitViolations path v = []) :
    v = .null ∨ ∃ n, v = .int n ∧ 0 ≤ n := by
  unfold limitViolations at fine
  split at fine
  · exact .inl rfl
  · rename_i n
    by_cases negative : n < 0
    · rw [if_pos negative] at fine
      cases fine
    · exact .inr ⟨n, rfl, by omega⟩
  · cases fine

theorem limit_of_fine {path : String} {policy : RetryPolicy}
    (fine : retryViolations path policy = []) : ∃ n, policy.limit = .int n ∧ 0 ≤ n := by
  unfold retryViolations at fine
  have parts := List.append_eq_nil_iff.mp (List.append_eq_nil_iff.mp fine).1
  have first := limitViolations_nil (List.append_eq_nil_iff.mp parts.1).2
  have second := limitViolations_nil parts.2
  unfold RetryPolicy.limit
  rcases first with null | ⟨n, max, nonneg⟩
  · rw [if_neg (by simp [null])]
    rcases second with null' | ⟨n, max, nonneg⟩
    · exact ⟨0, by simp [null', Value.truthy], Int.le_refl 0⟩
    · rw [max]
      by_cases truthy : (Value.int n).truthy = true
      · exact ⟨n, if_pos truthy, nonneg⟩
      · exact ⟨0, if_neg truthy, Int.le_refl 0⟩
  · exact ⟨n, by rw [max, if_pos (by simp)], nonneg⟩

theorem attemptLimit_sound (valid : g.violations = []) {handler : Handler F}
    {routes : ActionRoutes} {retry : Option RetryPolicy}
    (found : g.state? id = some (.action handler routes retry)) :
    ∃ n, Engine.attemptLimit retry = .int n ∧ 0 ≤ n := by
  cases retry with
  | none => exact ⟨0, rfl, Int.le_refl 0⟩
  | some policy =>
      have sound := stateViolations_nil valid (mem_of_state? found)
      exact limit_of_fine (List.append_eq_nil_iff.mp sound).2

theorem bound_sound (valid : g.violations = []) {body : Target} {bound : Value}
    {routes : LoopRoutes} {stop : Slot F}
    (found : g.state? id = some (.loop body bound routes stop)) :
    ∃ n, bound = .int n ∧ 0 ≤ n := by
  have sound := stateViolations_nil valid (mem_of_state? found)
  have fine := (List.append_eq_nil_iff.mp
    (List.append_eq_nil_iff.mp (List.append_eq_nil_iff.mp sound).2).1).2
  unfold boundViolations at fine
  split at fine
  · rename_i n
    by_cases negative : n < 0
    · rw [if_pos negative] at fine
      cases fine
    · exact ⟨n, rfl, by omega⟩
  · cases fine

/-- Graphs that break no rule are fit to be run. -/
theorem fit_of_valid (valid : g.violations = []) : g.Fit where
  wholeLimits id handler routes retry found := by
    obtain ⟨n, limit, -⟩ := attemptLimit_sound valid found
    exact ⟨n, limit⟩
  named id node event target found leads := (target_sound valid found leads).1

/-! ## Pauses -/

/-- A pause either goes on where the task came from, and is then not the start, or at a state that is
no pause. -/
theorem pause_sound (valid : g.violations = []) {resume : String}
    (found : g.state? id = some (.feedback resume)) :
    (resume = previousState ∧ id ≠ g.start) ∨
      ∃ target, resume ≠ previousState ∧ g.state? resume = some target ∧
        target.isFeedback = false := by
  have sound : g.feedbackViolations id resume = [] :=
    stateViolations_nil valid (mem_of_state? found)
  unfold feedbackViolations at sound
  by_cases back : resume = previousState
  · simp only [back, if_true] at sound
    refine .inl ⟨back, ?_⟩
    intro atStart
    rw [if_pos atStart] at sound
    cases sound
  · simp only [back, if_false] at sound
    cases target : g.state? resume with
    | none =>
        rw [target] at sound
        cases sound
    | some node =>
        rw [target] at sound
        simp only at sound
        by_cases pause : node.isFeedback = true
        · rw [if_pos pause] at sound
          cases sound
        · exact .inr ⟨node, back, rfl, by simpa using pause⟩

theorem lookup_of_mem {α : Type} {entries : List (String × α)} {name : String} {a : α}
    (distinct : (names entries).Nodup) (inside : (name, a) ∈ entries) :
    entries.lookup name = some a := by
  induction entries with
  | nil => cases inside
  | cons head rest ih =>
      obtain ⟨k, v⟩ := head
      simp only [names, List.map_cons, List.nodup_cons] at distinct
      rw [List.lookup_cons]
      rcases List.mem_cons.mp inside with same | later
      · cases same
        simp
      · have differs : (name == k) = false := by
          have apart : name ≠ k := by
            rintro rfl
            exact distinct.1 (List.mem_map_of_mem later)
          simpa using apart
        rw [differs]
        exact ih distinct.2 later

theorem mem_feedbackIds (distinct : (names g.states).Nodup) :
    id ∈ g.feedbackIds ↔ ∃ resume, g.state? id = some (.feedback resume) := by
  unfold feedbackIds
  constructor
  · intro inside
    obtain ⟨⟨id', s⟩, entry, rfl⟩ := List.mem_map.mp inside
    obtain ⟨entry, pause⟩ := List.mem_filter.mp entry
    have found := lookup_of_mem distinct entry
    cases s with
    | feedback resume => exact ⟨resume, by simp [state?, found]⟩
    | _ => cases pause
  · rintro ⟨resume, found⟩
    exact List.mem_map.mpr ⟨(id, .feedback resume), List.mem_filter.mpr
      ⟨mem_of_state? found, rfl⟩, rfl⟩

end Graph

/-! ## Compiled graphs -/

/-- A graph that breaks no rule and has each id once, none of them empty. -/
structure Graph.Sound (g : Graph F) : Prop where
  valid : g.violations = []
  distinct : (names g.states).Nodup
  named : ∀ id ∈ names g.states, id ≠ ""

theorem names_append {α : Type} (first second : List (String × α)) :
    names (first ++ second) = names first ++ names second :=
  List.map_append

theorem lookup_isSome_iff {α : Type} {entries : List (String × α)} {name : String} :
    (entries.lookup name).isSome = true ↔ name ∈ names entries := by
  induction entries with
  | nil => simp [names]
  | cons head rest ih =>
      obtain ⟨k, v⟩ := head
      rw [List.lookup_cons]
      by_cases same : name = k
      · simp [same, names]
      · have differs : (name == k) = false := by simpa using same
        rw [differs]
        simp only [ih, names, List.map_cons, List.mem_cons, same, false_or]

theorem addStates_ok {id : String} {states added result : List (String × State F)}
    (fresh : addStates id states added = .ok result) (distinct : (names states).Nodup) :
    result = states ++ added ∧ (names result).Nodup := by
  induction added generalizing states with
  | nil =>
      cases fresh
      exact ⟨(List.append_nil _).symm, distinct⟩
  | cons head rest ih =>
      obtain ⟨emitted, s⟩ := head
      unfold addStates at fresh
      by_cases taken : (states.lookup emitted).isSome = true
      · rw [if_pos taken] at fresh
        cases fresh
      · rw [if_neg taken] at fresh
        have absent : emitted ∉ names states := fun inside => taken (lookup_isSome_iff.mpr inside)
        have distinct' : (names (states ++ [(emitted, s)])).Nodup := by
          rw [names_append, List.nodup_append]
          refine ⟨distinct, by simp [names], ?_⟩
          rintro a inside b single rfl
          simp only [names, List.map_cons, List.map_nil, List.mem_singleton] at single
          exact absent (single ▸ inside)
        obtain ⟨rfl, nodup⟩ := ih fresh distinct'
        exact ⟨by simp, nodup⟩

theorem lowerItem_named (handlers : List (String × F)) {id : String} (item : Item F)
    (named : id ≠ "") (emitted : String)
    (inside : emitted ∈ names (lowerItem handlers id item).states) : emitted ≠ "" := by
  have longer : ∀ suffix : String, suffix ≠ "" → id ++ suffix ≠ "" := by
    intro suffix word empty
    exact word (by simpa using (String.append_eq_empty_iff.mp empty).2)
  have own : emitted = id ∨ emitted = feedbackId id ∨ emitted = routeFailedId id := by
    cases item with
    | state s => cases s <;> simp_all [lowerItem, names]
    | primitive p =>
        cases p with
        | route select on =>
            unfold lowerItem lowerRoute at inside
            simp only [names, List.map_cons, List.mem_cons] at inside
            rcases inside with own | ending
            · exact .inl own
            · split at ending
              · cases ending
              · exact .inr (.inr (by simpa using ending))
        | ask prompt reader on resume =>
            simp only [lowerItem, names, List.map_cons, List.map_nil, List.mem_cons,
              List.not_mem_nil, or_false] at inside
            exact inside.imp_right .inl
        | step run on retry => exact .inl (by simpa [lowerItem, names] using inside)
        | loop body bound on stop => exact .inl (by simpa [lowerItem, names] using inside)
        | publish render on => exact .inl (by simpa [lowerItem, names] using inside)
        | finish status message => exact .inl (by simpa [lowerItem, names] using inside)
  rcases own with rfl | rfl | rfl
  · exact named
  · exact longer _ (by decide)
  · exact longer _ (by decide)

/-- The states of the items come one after the other, and no id comes twice. -/
theorem lowerItems_ok {handlers : List (String × F)} {items : List (String × Item F)}
    {done result : Lowered F} (lowered : lowerItems handlers done items = .ok result)
    (distinct : (names done.states).Nodup) :
    (names result.states).Nodup ∧
      result.states = done.states ++ items.flatMap fun item => (lowerItem handlers item.1 item.2).states := by
  induction items generalizing done with
  | nil =>
      cases lowered
      exact ⟨distinct, (List.append_nil _).symm⟩
  | cons head rest ih =>
      obtain ⟨id, item⟩ := head
      unfold lowerItems at lowered
      simp only [bind, Except.bind] at lowered
      cases fresh : addStates id done.states (lowerItem handlers id item).states with
      | error fault =>
          rw [fresh] at lowered
          cases lowered
      | ok states =>
          rw [fresh] at lowered
          obtain ⟨rfl, nodup⟩ := addStates_ok fresh distinct
          obtain ⟨nodup, states⟩ := ih lowered nodup
          exact ⟨nodup, by rw [states, List.append_assoc, List.flatMap_cons]⟩

/-- A definition that compiles gives a graph of its lowered states that breaks no rule. -/
theorem Definition.compile_ok {d : Definition F} {g : Graph F} (compiled : d.compile = .ok g) :
    g.violations = [] ∧ (names g.states).Nodup ∧
      g.states = d.items.flatMap fun item => (lowerItem d.handlers item.1 item.2).states := by
  unfold Definition.compile at compiled
  simp only [bind, Except.bind] at compiled
  cases lowered : lowerItems d.handlers ⟨[], []⟩ d.items with
  | error fault =>
      rw [lowered] at compiled
      cases compiled
  | ok result =>
      rw [lowered] at compiled
      obtain ⟨distinct, states⟩ := lowerItems_ok lowered (by simp [names])
      simp only [Graph.examined, bind, Except.bind] at compiled
      cases ordered : (d.graphOf result.states).ensureOrdered with
      | error fault =>
          rw [ordered] at compiled
          cases compiled
      | ok _ =>
          rw [ordered] at compiled
          simp only at compiled
          split at compiled
          · rename_i nothing
            cases compiled
            obtain ⟨missing, fine⟩ := List.append_eq_nil_iff.mp nothing
            refine ⟨?_, distinct, states⟩
            rw [missing, List.filter_eq_self.mpr (by simp)] at fine
            exact fine
          · cases compiled

/-- A definition with named items that compiles gives a sound graph. -/
theorem Definition.sound_of_compile {d : Definition F} {g : Graph F} (compiled : d.compile = .ok g)
    (ids : ∀ item ∈ d.items, item.1 ≠ "") : g.Sound := by
  obtain ⟨valid, distinct, states⟩ := d.compile_ok compiled
  refine ⟨valid, distinct, fun id inside => ?_⟩
  obtain ⟨entry, there, rfl⟩ := List.mem_map.mp inside
  rw [states] at there
  obtain ⟨item, here, lowers⟩ := List.mem_flatMap.mp there
  exact lowerItem_named d.handlers item.2 (ids item here) entry.1 (List.mem_map_of_mem lowers)

/-- What an item is lowered to stands in the compiled graph. -/
theorem Definition.state?_of_compile {d : Definition F} {g : Graph F} (compiled : d.compile = .ok g)
    {item : String × Item F} (inside : item ∈ d.items) {id : String} {node : State F}
    (work : node ≠ .unsupported .null)
    (lowers : (id, node) ∈ (lowerItem d.handlers item.1 item.2).states) : g.state? id = some node := by
  obtain ⟨-, distinct, states⟩ := d.compile_ok compiled
  have there : (id, node) ∈ g.states := by
    rw [states]
    exact List.mem_flatMap.mpr ⟨item, inside, lowers⟩
  have found := Graph.lookup_of_mem distinct there
  unfold Graph.state?
  rw [found]
  split
  · rename_i null
    exact absurd (Option.some.inj null) work
  · rfl

end Tickwork
