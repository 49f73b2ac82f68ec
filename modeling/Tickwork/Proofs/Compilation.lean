import Tickwork.Proofs.Validity

/-!
# What compiling a definition gives

The ids that a definition announces are those of its items, with one more for the pause of each ask and
for the failed end of each route that leaves some words unmapped. An id announced twice is a collision,
whatever else is wrong. Otherwise the two stages report together, and a definition without a report gives
a graph with exactly the announced ids, which stands for itself as a definition.
-/

set_option autoImplicit false

namespace Tickwork

variable {F : Type}

/-- The ids under which an item puts states into the graph. -/
def Item.announced (id : String) : Item F → List String
  | .primitive (.ask _ _ _ _) => [id, feedbackId id]
  | .primitive (.route _ on) =>
    if unmappedEvent ∈ names on then [id] else [id, routeFailedId id]
  | .state (.unsupported _) => []
  | _ => [id]

namespace Definition

variable (d : Definition F)

/-- The ids that the items announce, in order. -/
def announced : List String :=
  d.items.flatMap fun item => item.2.announced item.1

/-- What lowering the items finds missing. -/
def missing : List Violation :=
  d.items.flatMap fun item => (lowerItem d.handlers item.1 item.2).missing

/-- The graph of all that the items are lowered to. -/
def lowered : Graph F :=
  d.graphOf (d.items.flatMap fun item => (lowerItem d.handlers item.1 item.2).states)

end Definition

/-! ## The announced ids -/

theorem names_lowerItem (handlers : List (String × F)) (id : String) (item : Item F) :
    names (lowerItem handlers id item).states = item.announced id := by
  cases item with
  | state s => cases s <;> rfl
  | primitive p =>
      cases p with
      | route select on =>
          simp only [lowerItem, lowerRoute, lookup_isSome_iff, Item.announced]
          by_cases mapped : unmappedEvent ∈ names on
          · simp only [mapped, if_true]
            rfl
          · simp only [mapped, if_false]
            rfl
      | _ => rfl

theorem names_flatMap {α β : Type} (entries : List α) (emit : α → List (String × β)) :
    names (entries.flatMap emit) = entries.flatMap fun entry => names (emit entry) :=
  List.map_flatMap

theorem Definition.names_lowered (d : Definition F) : names d.lowered.states = d.announced := by
  unfold Definition.lowered Definition.graphOf Definition.announced
  simp only [names_flatMap, names_lowerItem]

/-! ## Collisions -/

/-- Adding states stops at a collision only, and only if some id would come up twice. -/
theorem addStates_error {id : String} {states added : List (String × State F)} {fault : Fault}
    (refused : addStates id states added = .error fault) :
    (∃ emitted, fault = .collision id emitted) ∧ ¬ (names (states ++ added)).Nodup := by
  induction added generalizing states with
  | nil => cases refused
  | cons head rest ih =>
      obtain ⟨emitted, s⟩ := head
      unfold addStates at refused
      by_cases taken : (states.lookup emitted).isSome = true
      · rw [if_pos taken] at refused
        cases refused
        refine ⟨⟨emitted, rfl⟩, fun distinct => ?_⟩
        rw [names_append] at distinct
        exact (List.nodup_append.mp distinct).2.2 emitted (lookup_isSome_iff.mp taken) emitted
          List.mem_cons_self rfl
      · rw [if_neg taken] at refused
        obtain ⟨collides, twice⟩ := ih refused
        refine ⟨collides, ?_⟩
        rwa [List.append_assoc] at twice

section Items

variable {handlers : List (String × F)} {items : List (String × Item F)} {done : Lowered F}

theorem lowerItems_error {fault : Fault} (refused : lowerItems handlers done items = .error fault)
    (distinct : (names done.states).Nodup) :
    (∃ id emitted, fault = .collision id emitted) ∧
      ¬ (names (done.states ++
        items.flatMap fun item => (lowerItem handlers item.1 item.2).states)).Nodup := by
  induction items generalizing done with
  | nil => cases refused
  | cons head rest ih =>
      obtain ⟨id, item⟩ := head
      unfold lowerItems at refused
      simp only [bind, Except.bind] at refused
      rw [List.flatMap_cons, ← List.append_assoc]
      cases fresh : addStates id done.states (lowerItem handlers id item).states with
      | error fault' =>
          rw [fresh] at refused
          cases refused
          obtain ⟨⟨emitted, collides⟩, twice⟩ := addStates_error fresh
          refine ⟨⟨id, emitted, collides⟩, fun all => twice ?_⟩
          rw [names_append] at all
          exact (List.nodup_append.mp all).1
      | ok states =>
          rw [fresh] at refused
          obtain ⟨rfl, nodup⟩ := addStates_ok fresh distinct
          exact ih refused nodup

theorem lowerItems_missing {result : Lowered F} (lowered : lowerItems handlers done items = .ok result) :
    result.missing =
      done.missing ++ items.flatMap fun item => (lowerItem handlers item.1 item.2).missing := by
  induction items generalizing done with
  | nil =>
      cases lowered
      exact (List.append_nil _).symm
  | cons head rest ih =>
      obtain ⟨id, item⟩ := head
      unfold lowerItems at lowered
      simp only [bind, Except.bind] at lowered
      cases fresh : addStates id done.states (lowerItem handlers id item).states with
      | error fault =>
          rw [fresh] at lowered
          cases lowered
      | ok states =>
          rw [fresh] at lowered
          rw [ih lowered, List.append_assoc, List.flatMap_cons]

end Items

namespace Definition

variable {d : Definition F}

/-- Lowering all items stops at a collision exactly if an id is announced twice, and otherwise gives
what each item is lowered to. -/
theorem lowerItems_exactly (d : Definition F) :
    (d.announced.Nodup ∧
        lowerItems d.handlers ⟨[], []⟩ d.items = .ok ⟨d.missing, d.lowered.states⟩) ∨
      (¬ d.announced.Nodup ∧
        ∃ id emitted, lowerItems d.handlers ⟨[], []⟩ d.items = .error (.collision id emitted)) := by
  rw [← d.names_lowered]
  cases lowered : lowerItems d.handlers ⟨[], []⟩ d.items with
  | error fault =>
      obtain ⟨⟨id, emitted, rfl⟩, twice⟩ := lowerItems_error lowered (by simp [names])
      exact .inr ⟨twice, id, emitted, rfl⟩
  | ok result =>
      obtain ⟨distinct, states⟩ := lowerItems_ok lowered (by simp [names])
      have missing := lowerItems_missing lowered
      obtain ⟨missing', states'⟩ := result
      simp only [List.nil_append] at states missing
      subst states missing
      exact .inl ⟨distinct, rfl⟩

/-! ## Reports -/

/-- What both stages report: what lowering found missing, and each violation of the graph at a path
that lowering did not report. -/
def report (d : Definition F) (broken : List Violation) : List Violation :=
  d.missing ++ broken.filter fun v => !(d.missing.map Violation.path).contains v.path

theorem report_paths (broken : List Violation) (path : String) :
    path ∈ (d.report broken).map Violation.path ↔
      path ∈ d.missing.map Violation.path ∨ path ∈ broken.map Violation.path := by
  unfold report
  rw [List.map_append, List.mem_append]
  constructor
  · refine Or.imp_right fun later => ?_
    obtain ⟨v, inside, rfl⟩ := List.mem_map.mp later
    exact List.mem_map_of_mem (List.mem_filter.mp inside).1
  · rintro (first | second)
    · exact .inl first
    · by_cases reported : path ∈ d.missing.map Violation.path
      · exact .inl reported
      · obtain ⟨v, inside, rfl⟩ := List.mem_map.mp second
        exact .inr (List.mem_map_of_mem (List.mem_filter.mpr ⟨inside, by simpa using reported⟩))

theorem report_eq_nil {broken : List Violation} :
    d.report broken = [] ↔ d.missing = [] ∧ broken = [] := by
  unfold report
  rw [List.append_eq_nil_iff]
  refine and_congr_right fun nothing => ?_
  have all : broken.filter (fun v => !(d.missing.map Violation.path).contains v.path) = broken :=
    List.filter_eq_self.mpr fun v _ => by simp [nothing]
  rw [all]

theorem compile_of_twice (twice : ¬ d.announced.Nodup) :
    ∃ id emitted, d.compile = .error (.collision id emitted) := by
  rcases d.lowerItems_exactly with ⟨distinct, -⟩ | ⟨-, id, emitted, stops⟩
  · exact absurd distinct twice
  · refine ⟨id, emitted, ?_⟩
    unfold compile
    rw [stops]
    rfl

theorem judged_report (id : String) (g : Graph F) (found : List Violation) :
    (match found with
      | [] => (.ok g : Except Fault (Graph F))
      | found => .error (.invalidGraph id found)) =
      if found = [] then .ok g else .error (.invalidGraph id found) := by
  cases found with
  | nil => rfl
  | cons first rest => rfl

/-- Without a collision compiling examines the graph of the lowered states. -/
theorem compile_of_distinct (distinct : d.announced.Nodup) :
    d.compile = d.lowered.examined.bind fun broken =>
      if d.report broken = [] then .ok d.lowered
      else .error (.invalidGraph d.id (d.report broken)) := by
  rcases d.lowerItems_exactly with ⟨-, lowered⟩ | ⟨twice, -⟩
  · unfold compile
    rw [lowered]
    refine congrArg d.lowered.examined.bind (funext fun broken => ?_)
    exact judged_report d.id d.lowered (d.report broken)
  · exact absurd distinct twice

end Definition

/-! ## Compiling a graph once more -/

namespace Graph

variable {g : Graph F}

theorem supported_of_valid (valid : g.violations = []) {id : String} {v : Value} :
    (id, State.unsupported v) ∉ g.states :=
  fun inside => nomatch stateViolations_nil valid inside

theorem lowerItem_state (handlers : List (String × F)) {id : String} {s : State F}
    (supported : ∀ v, s ≠ .unsupported v) : lowerItem handlers id (.state s) = ⟨[], [(id, s)]⟩ := by
  cases s with
  | unsupported v => exact absurd rfl (supported v)
  | _ => rfl

theorem toDefinition_lowers (valid : g.violations = []) :
    g.toDefinition.lowered = g ∧ g.toDefinition.missing = [] := by
  have each : ∀ entry ∈ g.states,
      lowerItem g.handlers entry.1 (.state entry.2) = ⟨[], [entry]⟩ := by
    rintro ⟨id, s⟩ inside
    refine lowerItem_state g.handlers ?_
    rintro v rfl
    exact supported_of_valid valid inside
  constructor
  · have states : (g.toDefinition.items.flatMap
        fun item => (lowerItem g.handlers item.1 item.2).states) = g.states := by
      unfold toDefinition
      rw [List.flatMap_map]
      calc g.states.flatMap (fun entry => (lowerItem g.handlers entry.1 (.state entry.2)).states)
          = g.states.flatMap (fun entry => [entry]) := by
            simp only [List.flatMap_def]
            exact congrArg List.flatten
              (List.map_congr_left fun entry inside => congrArg Lowered.states (each entry inside))
        _ = g.states := List.flatMap_singleton' g.states
    exact congrArg g.toDefinition.graphOf states
  · unfold Definition.missing toDefinition
    rw [List.flatMap_map, List.flatMap_eq_nil_iff]
    intro entry inside
    rw [each entry inside]

theorem compile_toDefinition (accepted : g.examined = .ok []) (distinct : (names g.states).Nodup) :
    g.toDefinition.compile = .ok g := by
  obtain ⟨-, valid⟩ := examined_eq_ok.mp accepted
  obtain ⟨lowered, missing⟩ := toDefinition_lowers valid.symm
  have announced : g.toDefinition.announced.Nodup := by
    rw [← Definition.names_lowered, lowered]
    exact distinct
  rw [Definition.compile_of_distinct announced, lowered, accepted]
  exact if_pos (Definition.report_eq_nil.mpr ⟨missing, rfl⟩)

end Graph

/-- A definition fails to compile for a collision exactly if an id is announced twice. Otherwise it is
refused exactly if one of the two stages finds something, and what either finds is reported at its path;
if none does, it compiles into a graph with the announced ids that breaks no rule and compiles into
itself. A graph with backoffs that cannot be compared is not examined, and compiling fails as that does. -/
theorem Definition.compile_exactly (d : Definition F) :
    ((∃ id emitted, d.compile = .error (.collision id emitted)) ↔ ¬ d.announced.Nodup) ∧
      (d.announced.Nodup → ∀ broken, d.lowered.examined = .ok broken →
        ((∃ found, d.compile = .error (.invalidGraph d.id found)) ↔
          d.missing ≠ [] ∨ broken ≠ []) ∧
        (∀ found, d.compile = .error (.invalidGraph d.id found) → ∀ path,
          path ∈ found.map Violation.path ↔
            path ∈ d.missing.map Violation.path ∨ path ∈ broken.map Violation.path) ∧
        (d.missing = [] → broken = [] → ∃ g, d.compile = .ok g ∧ names g.states = d.announced ∧
          g.examined = .ok [] ∧ g.toDefinition.compile = .ok g)) ∧
      ∀ fault, d.announced.Nodup → d.lowered.examined = .error fault → d.compile = .error fault := by
  refine ⟨⟨?_, compile_of_twice⟩, ?_, ?_⟩
  · rintro ⟨id, emitted, collides⟩ distinct
    rw [compile_of_distinct distinct] at collides
    cases examined : d.lowered.examined with
    | error fault =>
        rw [examined] at collides
        cases collides
        obtain ⟨left, right, other⟩ := Graph.examined_error examined
        cases other
    | ok broken =>
        rw [examined] at collides
        simp only [Except.bind] at collides
        split at collides <;> cases collides
  · intro distinct broken examined
    have compiled : d.compile = if d.report broken = [] then .ok d.lowered
        else .error (.invalidGraph d.id (d.report broken)) := by
      rw [compile_of_distinct distinct, examined]
      rfl
    by_cases nothing : d.report broken = []
    · rw [if_pos nothing] at compiled
      obtain ⟨missing, sound⟩ := report_eq_nil.mp nothing
      subst sound
      refine ⟨⟨?_, ?_⟩, ?_, fun _ _ => ⟨d.lowered, compiled, d.names_lowered, examined, ?_⟩⟩
      · rintro ⟨found, refused⟩
        exact nomatch compiled.symm.trans refused
      · rintro (something | something)
        · exact absurd missing something
        · exact absurd rfl something
      · intro found refused
        exact nomatch compiled.symm.trans refused
      · exact Graph.compile_toDefinition examined (d.names_lowered ▸ distinct)
    · rw [if_neg nothing] at compiled
      refine ⟨⟨fun _ => ?_, fun _ => ⟨_, compiled⟩⟩, ?_, ?_⟩
      · by_cases missing : d.missing = []
        · exact .inr fun sound => nothing (report_eq_nil.mpr ⟨missing, sound⟩)
        · exact .inl missing
      · intro found refused path
        cases compiled.symm.trans refused
        exact report_paths broken path
      · exact fun missing sound => absurd (report_eq_nil.mpr ⟨missing, sound⟩) nothing
  · intro fault distinct failed
    rw [compile_of_distinct distinct, failed]
    rfl

end Tickwork
