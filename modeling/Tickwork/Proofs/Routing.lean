import Mathlib.Data.List.DropRight
import Tickwork.Proofs.Departures

/-!
# Routes

A route asks a selector for a word and goes where the word is routed. `RoutesTo` says where that is: a text
that is a declared event without the blanks around it goes to the target of the event, everything else goes
to the target of the unmapped event or, when there is none, to the failed end of the route. Main statement:
`routes_are_total`, for whatever the selector returns.
-/

set_option autoImplicit false

namespace Tickwork

variable {F W : Type}

/-! ## Blanks at the ends of a text -/

namespace Text

theorem trimChars_eq (kind : Char → Bool) (cs : List Char) :
    trimChars kind cs = (cs.dropWhile kind).rdropWhile kind := rfl

theorem trimChars_trimChars (kind : Char → Bool) (cs : List Char) :
    trimChars kind (trimChars kind cs) = trimChars kind cs := by
  -- what is dropped at the end leaves the first character in its place
  have front : (trimChars kind cs).dropWhile kind = trimChars kind cs := by
    rw [List.dropWhile_eq_self_iff]
    intro some_chars
    obtain ⟨tail, whole⟩ : trimChars kind cs <+: cs.dropWhile kind := List.rdropWhile_prefix kind _
    have more : 0 < (cs.dropWhile kind).length := by
      rw [← whole, List.length_append]
      omega
    have first : (trimChars kind cs)[0] = (cs.dropWhile kind)[0] := by
      simp only [← whole, List.getElem_append_left some_chars]
    rw [first]
    exact List.dropWhile_get_zero_not _ cs _
  rw [trimChars_eq kind (trimChars kind cs), front, trimChars_eq, List.rdropWhile_idempotent]

theorem trimChars_of_all {kind : Char → Bool} {cs : List Char} (all : cs.all kind = true) :
    trimChars kind cs = [] := by
  rw [trimChars_eq, List.dropWhile_eq_nil_iff.mpr (List.all_eq_true.mp all)]
  rfl

theorem strip_strip (s : String) : strip (strip s) = strip s := by
  unfold strip
  rw [String.toList_ofList, trimChars_trimChars]

/-- What is left of a text without the blanks around it is empty or no blank text. -/
theorem strip_eq_empty (s : String) (blank : isBlankText (strip s) = true) : strip s = "" := by
  rw [← strip_strip]
  unfold strip isBlankText at *
  rw [String.toList_ofList] at *
  rw [trimChars_of_all blank]

end Text

/-! ## Where a route leads -/

/-- Where a route with the id `id` leads for a word, and by which event. -/
inductive RoutesTo (id : String) (on : Routes) : Value → String → String → Prop
  | declared {s target : String} (leads : on.lookup (Text.strip s) = some (some target)) :
      RoutesTo id on (.str s) (Text.strip s) target
  | unmapped {v : Value} {target : String} (strange : ∀ s, v = .str s → Text.strip s ∉ names on)
      (leads : on.lookup unmappedEvent = some (some target)) : RoutesTo id on v unmappedEvent target
  | failed {v : Value} (strange : ∀ s, v = .str s → Text.strip s ∉ names on)
      (unrouted : on.lookup unmappedEvent = none) : RoutesTo id on v unmappedEvent (routeFailedId id)

/-- A word has one way out of a route. -/
theorem RoutesTo.unique {id event event' target target' : String} {on : Routes} {v : Value}
    (routes : RoutesTo id on v event target) (routes' : RoutesTo id on v event' target') :
    event' = event ∧ target' = target := by
  have known : ∀ {name target : String}, on.lookup name = some (some target) → name ∈ names on := by
    intro name target leads
    exact lookup_isSome_iff.mp (by rw [leads]; rfl)
  cases routes with
  | declared leads =>
      cases routes' with
      | declared leads' =>
          cases leads.symm.trans leads'
          exact ⟨rfl, rfl⟩
      | unmapped strange | failed strange => exact absurd (known leads) (strange _ rfl)
  | unmapped strange leads =>
      cases routes' with
      | declared leads' => exact absurd (known leads') (strange _ rfl)
      | unmapped _ leads' =>
          cases leads.symm.trans leads'
          exact ⟨rfl, rfl⟩
      | failed _ unrouted => cases leads.symm.trans unrouted
  | failed strange unrouted =>
      cases routes' with
      | declared leads' => exact absurd (known leads') (strange _ rfl)
      | unmapped _ leads' => cases unrouted.symm.trans leads'
      | failed => exact ⟨rfl, rfl⟩

/-! ## What a route is compiled to -/

/-- The callable that stands in a slot, where a name is that of a registered handler. -/
def Slot.among (handlers : List (String × F)) : Slot F → Slot F
  | .named name =>
    match handlers.lookup name with
    | some f => .code f .whole
    | none => .named name
  | ref => ref

/-- The routes of a compiled route: its own, and the failed end for other words unless it routes them. -/
def routeTable (id : String) (on : Routes) : Routes :=
  if (on.lookup unmappedEvent).isSome then on else on ++ [(unmappedEvent, some (routeFailedId id))]

/-- The state that a route becomes. -/
def routeState (handlers : List (String × F)) (id : String) (select : Slot F) (on : Routes) : State F :=
  .orchestrate (routeTable id on) (.slot .absent)
    (.route (select.among handlers) (names (routeTable id on)))

theorem lowerRoute_states (handlers : List (String × F)) (id : String) (select : Slot F) (on : Routes) :
    (lowerRoute handlers id select on).states =
      (id, routeState handlers id select on) ::
        (if (on.lookup unmappedEvent).isSome then []
          else [(routeFailedId id, State.terminal .failed none)]) := by
  unfold lowerRoute routeState routeTable Slot.among
  cases select with
  | named name => cases registered : handlers.lookup name <;> simp only [registered]
  | _ => rfl

/-- What compiling a definition makes of a route: its state, and the failed end of a route without an
unmapped event. -/
theorem state?_of_route {d : Definition F} {g : Graph F} (compiled : d.compile = .ok g) {id : String}
    {select : Slot F} {on : Routes} (item : (id, .primitive (.route select on)) ∈ d.items) :
    g.state? id = some (routeState d.handlers id select on) ∧
      (on.lookup unmappedEvent = none →
        g.state? (routeFailedId id) = some (.terminal .failed none)) := by
  have lowered : (lowerItem d.handlers id (.primitive (.route select on))).states = _ :=
    lowerRoute_states d.handlers id select on
  constructor
  · refine d.state?_of_compile compiled item nofun ?_
    rw [lowered]
    exact List.mem_cons_self
  · intro unmapped
    refine d.state?_of_compile compiled item nofun ?_
    rw [lowered, unmapped]
    exact List.mem_cons_of_mem _ List.mem_cons_self

/-- An event that an orchestrate state of a graph without violations routes has a name and a target. -/
theorem routed_of_valid {g : Graph F} (valid : g.violations = []) {id event : String} {routes : Routes}
    {handler : Handler F} {selector : Selector F}
    (found : g.state? id = some (.orchestrate routes handler selector)) (inside : event ∈ names routes) :
    event ≠ "" ∧ ∃ target, routes.lookup event = some (some target) := by
  have sound := g.stateViolations_nil valid (Graph.mem_of_state? found)
  have fine : g.routesViolations s!"states.{id}" routes = [] := (List.append_eq_nil_iff.mp sound).1
  obtain ⟨target, leads⟩ := Option.isSome_iff_exists.mp (lookup_isSome_iff.mpr inside)
  have entry := Graph.mem_of_lookup leads
  unfold Graph.routesViolations at fine
  by_cases empty : routes.isEmpty = true
  · rw [List.isEmpty_iff.mp empty] at entry
    cases entry
  · rw [if_neg empty, List.flatMap_eq_nil_iff] at fine
    have one := fine (event, target) entry
    obtain ⟨target', rfl, -⟩ := Graph.routeViolations_nil one
    refine ⟨fun nameless => ?_, target', leads⟩
    unfold Graph.routeViolations at one
    rw [if_pos nameless] at one
    cases one

/-! ## The table leads where the route does -/

section

variable {id : String} {on : Routes}

theorem names_routeTable {event : String} :
    event ∈ names (routeTable id on) ↔ event ∈ names on ∨ event = unmappedEvent := by
  unfold routeTable
  by_cases mapped : (on.lookup unmappedEvent).isSome = true
  · rw [if_pos mapped]
    exact ⟨.inl, fun | .inl inside => inside | .inr same => same ▸ lookup_isSome_iff.mp mapped⟩
  · rw [if_neg mapped, names_append, List.mem_append]
    exact or_congr_right List.mem_singleton

theorem lookup_routeTable {event : String} (inside : event ∈ names on) :
    (routeTable id on).lookup event = on.lookup event := by
  obtain ⟨target, leads⟩ := Option.isSome_iff_exists.mp (lookup_isSome_iff.mpr inside)
  unfold routeTable
  split
  · rfl
  · rw [List.lookup_append, leads]
    rfl

theorem lookup_routeTable_unmapped (unrouted : on.lookup unmappedEvent = none) :
    (routeTable id on).lookup unmappedEvent = some (some (routeFailedId id)) := by
  unfold routeTable
  rw [unrouted]
  simp only [Option.isSome_none, Bool.false_eq_true, if_false]
  rw [List.lookup_append, unrouted]
  rfl

/-- A word that is no declared event stands for the unmapped event. -/
theorem routedEvent_strange {v : Value} (strange : ∀ s, v = .str s → Text.strip s ∉ names on) :
    routedEvent (names (routeTable id on)) v = unmappedEvent := by
  cases v with
  | str s =>
      unfold routedEvent
      simp only
      split
      · rename_i known
        have inside : Text.strip s ∈ names (routeTable id on) := by
          simpa using (Bool.and_eq_true_iff.mp known).1
        exact (names_routeTable.mp inside).resolve_left (strange s rfl)
      · rfl
  | _ => rfl

theorem routedEvent_declared {s : String} (inside : Text.strip s ∈ names on) (named : Text.strip s ≠ "") :
    routedEvent (names (routeTable id on)) (.str s) = Text.strip s := by
  have known : Text.strip s ∈ names (routeTable id on) := names_routeTable.mpr (.inl inside)
  unfold routedEvent
  simp [known, named]

/-- Whatever the word, its event has a target in the table, and it is where the route is meant to lead. -/
theorem routed_of_word {g : Graph F} (valid : g.violations = []) {handler : Handler F}
    {selector : Selector F} (found : g.state? id = some (.orchestrate (routeTable id on) handler selector))
    (v : Value) :
    ∃ target, RoutesTo id on v (routedEvent (names (routeTable id on)) v) target ∧
      (routeTable id on).lookup (routedEvent (names (routeTable id on)) v) = some (some target) := by
  by_cases declared : ∃ s, v = .str s ∧ Text.strip s ∈ names on
  · obtain ⟨s, rfl, inside⟩ := declared
    obtain ⟨named, target, leads⟩ := routed_of_valid valid found (names_routeTable.mpr (.inl inside))
    rw [routedEvent_declared inside named]
    exact ⟨target, .declared ((lookup_routeTable inside).symm.trans leads), leads⟩
  · have strange : ∀ s, v = .str s → Text.strip s ∉ names on :=
      fun s same inside => declared ⟨s, same, inside⟩
    rw [routedEvent_strange strange]
    cases mapped : on.lookup unmappedEvent with
    | none => exact ⟨_, .failed strange mapped, lookup_routeTable_unmapped mapped⟩
    | some _ =>
        have inside : unmappedEvent ∈ names on := lookup_isSome_iff.mp (by rw [mapped]; rfl)
        obtain ⟨-, target, leads⟩ := routed_of_valid valid found (names_routeTable.mpr (.inl inside))
        exact ⟨target, .unmapped strange ((lookup_routeTable inside).symm.trans leads), leads⟩

/-- The event of a word reaches the engine as it is: it is not blank, and there is nothing around it to drop. -/
theorem routedEvent_plain (known : List String) (v : Value) :
    Text.isBlankText (routedEvent known v) = false ∧ Text.strip (routedEvent known v) = routedEvent known v := by
  have unmapped : Text.isBlankText unmappedEvent = false ∧ Text.strip unmappedEvent = unmappedEvent := by
    decide
  cases v with
  | str s =>
      unfold routedEvent
      simp only
      split
      · rename_i both
        have named : Text.strip s ≠ "" := of_decide_eq_true (Bool.and_eq_true_iff.mp both).2
        exact ⟨Bool.eq_false_iff.mpr fun blank => named (Text.strip_eq_empty s blank), Text.strip_strip s⟩
      · exact unmapped
  | _ => exact unmapped

end

/-! ## Routes are total -/

section

open Engine

variable {h : Host F W} {fr : Frame F} {budget : Budget} {left : Nat} {live begun : Live W}

/-- What a route's selector answers for a word. -/
theorem route_answers {known : List String} {select : Slot F} {input : SelectorInput} {v : Value}
    {seen : Fields} {w w' : W} (returned : select.call h.behaviour (.selector input) w = (⟨.ok v, seen⟩, w')) :
    (Question.selector (.route select known) input).ask h.behaviour w =
      (.ok (.str (routedEvent known v)), w') := by
  have both : (Question.selector (.route select known) input).ask h.behaviour w =
      (((select.call h.behaviour (.selector input) w).1.value.map fun v => .str (routedEvent known v)),
        (select.call h.behaviour (.selector input) w).2) := rfl
  rw [both, returned]
  rfl

/-- A visit of a route decides on the event that the word stands for. -/
theorem route_visited {handlers : List (String × F)} {id : String} {select : Slot F} {on : Routes} {v : Value}
    {seen : Fields} {w : W}
    (returned : (select.among handlers).call h.behaviour
      (.selector (begun.tick.stance.selectorInput fr id)) begun.world = (⟨.ok v, seen⟩, w)) :
    (runState h fr id (routeState handlers id select on)).exec begun =
      (.ok (selectedStep (routedEvent (names (routeTable id on)) v)), ⟨begun.tick, w⟩) := by
  obtain ⟨plain, -⟩ := routedEvent_plain (names (routeTable id on)) v
  have visited : (runState h fr id (routeState handlers id select on)).exec begun =
      (.ok (selectedStep (routedEvent (names (routeTable id on)) v)),
        ⟨begun.tick.taken begun.tick.stance [], w⟩) :=
    visited_of_leave rfl (route_answers returned) (by
      simp only [reacted, Graph.hasHandler, Bool.false_eq_true, if_false, selectorReacted, plain])
  rwa [Tick.taken_self] at visited

/-- A route always leads somewhere. Whatever word its selector returns, there is one event and one target
for it, and the run departs there: the context stays as it was and nothing but the write of the row can
fail. A route without a name of its own is the exception, since the ledger takes no row from it. -/
theorem routes_are_total {d : Definition F} {g : Graph F} (compiled : d.compile = .ok g) {id : String}
    {select : Slot F} {on : Routes} (item : (id, .primitive (.route select on)) ∈ d.items)
    (runs : fr.graph = g) (here : position g live.tick.progress = id)
    (room : live.tick.transitions < budget.perRun) (marked : (markRunning h).exec live = (.ok (), begun))
    {v : Value} {seen : Fields} {w : W}
    (returned : (select.among d.handlers).call h.behaviour
      (.selector (begun.tick.stance.selectorInput fr id)) begun.world = (⟨.ok v, seen⟩, w))
    (previous : Option String) :
    ∃ event target, RoutesTo id on v event target ∧
      (∀ event' target', RoutesTo id on v event' target' → event' = event ∧ target' = target) ∧
      (on.lookup unmappedEvent = none → g.state? (routeFailedId id) = some (.terminal .failed none)) ∧
      Departs h fr budget left id (selectedStep event) target ⟨begun.tick, w⟩
        ((run h fr budget (left + 1) previous).exec live) ∧
      ∀ node row after,
        Departure g id (selectedStep event) target node begun.tick.progress row after →
        row.shape = ⟨id, target, event, .known .orchestrateSelect, 1, 0⟩ ∧
        after.context = live.tick.progress.context ∧
        row.check = if id = "" then .error (.transition (.emptyState row.eventId)) else .ok () := by
  subst runs
  obtain ⟨valid, -, -⟩ := d.compile_ok compiled
  obtain ⟨found, failedEnd⟩ := state?_of_route compiled item
  obtain ⟨target, routes, leads⟩ := routed_of_word valid found v
  obtain ⟨-, plain⟩ := routedEvent_plain (names (routeTable id on)) v
  have taken : (routeState d.handlers id select on).target?
      (selectedStep (routedEvent (names (routeTable id on)) v)).event = some target := by
    have step : (selectedStep (routedEvent (names (routeTable id on)) v)).event = _ := plain
    rw [step]
    exact congrArg Option.join leads
  obtain ⟨named, node, there⟩ := Graph.target_sound valid found taken
  refine ⟨_, target, routes, fun _ _ => routes.unique, failedEnd, ?_, ?_⟩
  · exact run_departs ⟨here, found⟩ rfl room marked (route_visited returned) taken there
  · intro node row after departure
    refine ⟨?_, ?_, departure.check named rfl rfl ⟨Int.one_nonneg, Int.le_refl 0⟩⟩
    · rw [departure.told]
      exact congrArg (fun event => Shape.mk id target event (.known .orchestrateSelect) 1 0) plain
    · exact departure.context.trans (marked_context marked)

end

/-! ## A route with the empty id -/

/-- A route at a start with the empty id. -/
def namelessRoute : Definition Unit where
  id := "demo"
  start := ""
  items := [("", .primitive (.route (.code () .whole) [("go", some "finish")])),
    ("finish", .primitive (.finish .done none))]
  context := [(.text "n", .int 1)]
  guards := []
  handlers := []

def namelessRouteGraph : Graph Unit :=
  namelessRoute.graphOf
    [("", routeState [] "" (.code () .whole) [("go", some "finish")]),
      (routeFailedId "", .terminal .failed none), ("finish", .terminal .done none)]

/-- A host whose callable says the word of the route, with blanks around it. -/
def wordyHost : Host Unit Unit where
  behaviour _ call := pure ⟨.ok (.str " go "), call.context⟩
  now := pure ⟨0⟩
  freshEventId := pure "row"
  freshTickId := pure "tick"
  sleep _ := pure ()
  checkpoint _ := pure ()
  record _ _ := pure ()

def namelessFrame : Frame Unit := ⟨namelessRouteGraph, ⟨"t1", none, none, none⟩, "run", "tick"⟩

def namelessStart : Live (Unit × MemoryStore) :=
  ⟨Engine.firstTick namelessRouteGraph (.newTask "t1" "demo" []) none, ((), .empty)⟩

def namelessBegun : Live (Unit × MemoryStore) :=
  (Engine.markRunning wordyHost.overMemory).exec namelessStart |>.2

/-- The word leads to the end of the task, but the row of the step is refused, and the run breaks off. -/
theorem routes_are_total_nameless :
    namelessRoute.compile = .ok namelessRouteGraph ∧
    (∃ row : Transition, row.shape = ⟨"", "finish", "go", .known .orchestrateSelect, 1, 0⟩ ∧
      row.check = .error (.transition (.emptyState row.eventId))) ∧
    (Engine.advance wordyHost.overMemory ⟨25, 200⟩ namelessRouteGraph ⟨"t1", none, none, none⟩ "run" none none
      (.newTask "t1" "demo" []) ((), .empty)).1.1.toOption = none := by
  have compiled : namelessRoute.compile = .ok namelessRouteGraph := by decide +kernel
  refine ⟨compiled, ?_, by decide +kernel⟩
  obtain ⟨event, target, -, unique, -, departs, rows⟩ :=
    @routes_are_total _ _ wordyHost.overMemory namelessFrame ⟨25, 200⟩ 24 namelessStart namelessBegun _ _
      compiled _ _ _ List.mem_cons_self rfl (by decide +kernel) (by decide) rfl _ _ _ rfl none
  have word : Text.strip " go " = "go" := by decide +kernel
  have leads : RoutesTo "" [("go", some "finish")] (.str " go ") (Text.strip " go ") "finish" :=
    .declared (by rw [word]; rfl)
  rw [word] at leads
  obtain ⟨rfl, rfl⟩ := unique _ _ leads
  obtain ⟨node, row, after, departure⟩ := departs.departure
  obtain ⟨shape, -, check⟩ := rows node row after departure
  exact ⟨row, shape, check⟩

end Tickwork
