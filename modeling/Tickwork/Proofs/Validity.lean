import Tickwork.Proofs.Failures.Escapes
import Tickwork.Proofs.Flaws

/-!
# Well-formed graphs

What the rules of a graph ask for, as one condition on each of its parts. A graph is examined without a
violation exactly if it is well-formed: each part of the condition is the absence of certain flaws.
-/

set_option autoImplicit false

namespace Tickwork

variable {F : Type}

/-! ## Limits and delays -/

namespace Value

/-- The two values can be compared, and the first one is not less than the second one: of whole
numbers, that it is as large or larger. -/
def AtLeast (a b : Value) : Prop :=
  a.isLess b = .ok false

theorem atLeast_int (m n : Int) : AtLeast (.int m) (.int n) ↔ n ≤ m := by
  simp [AtLeast, isLess, quantity?, Quantity.below, Quantity.place?, Quantity.Place.below]

end Value

/-- A base that is not negative, and a cap, if there is one, that is not less than the base. -/
structure Backoff.Ascending (b : Backoff) : Prop where
  base : b.baseMs.AtLeast (.int 0)
  cap : b.capMs ≠ .null → b.capMs.AtLeast b.baseMs

/-- Exactly one of the two limits is set, to a count. -/
structure RetryPolicy.WellFormed (p : RetryPolicy) : Prop where
  limit : (p.max.IsCount ∧ p.maxRetries = .null) ∨ (p.max = .null ∧ p.maxRetries.IsCount)
  backoff : ∀ b, p.backoff = some b → b.Ascending

/-! ## Well-formed graphs -/

namespace Graph

variable (g : Graph F)

/-- Some routes, each of them with an event and a target that is named and in the graph. -/
structure Routed (routes : Routes) : Prop where
  routed : routes ≠ []
  events : ∀ route ∈ routes, route.1 ≠ ""
  targets : ∀ route ∈ routes, route.2.getD "" ≠ "" ∧ g.Has route.2

/-- A registered name, or something that can be called. -/
def Resolves : Slot F → Prop
  | .named name => name ∈ names g.handlers
  | .code _ _ => True
  | .absent | .inert _ => False

def HandlerResolves : Handler F → Prop
  | .slot ref => g.Resolves ref
  | .ask _ _ | .publish _ | .merge _ | .decide _ _ _ => True

def SelectorResolves : Selector F → Prop
  | .slot ref => g.Resolves ref
  | .route _ _ => True

/-- What each kind of state has to be. The resume target `previous` is a word of its own: a pause that
gives it never goes on at a state of that name. -/
def StateWellFormed (id : String) : State F → Prop
  | .action handler routes retry =>
    g.Routed routes.toRoutes ∧ g.HandlerResolves handler ∧ ∀ p, retry = some p → p.WellFormed
  | .orchestrate routes handler selector =>
    g.Routed routes ∧
      ((g.HandlerResolves handler ∧ selector = .slot .absent) ∨
        (handler = .slot .absent ∧ g.SelectorResolves selector))
  | .loop body bound routes stop =>
    g.Routed routes.toRoutes ∧ g.Has body ∧ routes.again = body ∧ bound.IsCount ∧
      ∀ name, stop = .named name → name ∈ names g.guards
  | .feedback resume =>
    (resume = previousState ∧ id ≠ g.start) ∨
      (resume ≠ previousState ∧ ∃ node, g.state? resume = some node ∧ node.isFeedback = false)
  | .terminal _ _ => True
  | .unsupported _ => False

structure WellFormed : Prop where
  inhabited : g.states ≠ []
  start : g.start ∈ names g.states
  states : ∀ entry ∈ g.states, g.StateWellFormed entry.1 entry.2

end Graph

/-! ## Well-formed is without flaws -/

theorem Value.atLeast_iff {a b : Value} :
    a.AtLeast b ↔ (∃ lower, a.isLess b = .ok lower) ∧ ¬ a.IsLess b := by
  unfold Value.AtLeast Value.IsLess
  constructor
  · intro apart
    exact ⟨⟨false, apart⟩, by simp [apart]⟩
  · rintro ⟨⟨lower, compared⟩, apart⟩
    cases lower with
    | false => exact compared
    | true => exact absurd compared apart

/-- What cannot be compared with a number is refused as such. -/
theorem Value.isLess_error {a b : Value} {q : Quantity} {fault : Fault}
    (right : b.quantity? = some q) (failed : a.isLess b = .error fault) :
    ∃ left right, fault = .incomparable "<" left right := by
  rcases Value.cases_of_quantity right with ⟨x, rfl⟩ | ⟨n, rfl⟩ | ⟨x, rfl⟩
  all_goals
    cases left : a.quantity? with
    | some p => simp [Value.isLess_of_quantity left right] at failed
    | none =>
        simp only [Value.isLess, left, Except.error.injEq] at failed
        exact ⟨_, _, failed.symm⟩

namespace Backoff

/-- Base and cap can be compared as the rules ask for. -/
structure Comparable (b : Backoff) : Prop where
  base : ∃ lower, b.baseMs.isLess (.int 0) = .ok lower
  cap : b.capMs ≠ .null → ∃ lower, b.capMs.isLess b.baseMs = .ok lower

theorem ensureOrdered_iff {b : Backoff} : b.ensureOrdered = .ok () ↔ b.Comparable := by
  unfold ensureOrdered
  constructor
  · intro ordered
    cases base : b.baseMs.isLess (.int 0) with
    | error fault =>
        rw [base] at ordered
        cases ordered
    | ok lower =>
        refine ⟨⟨lower, base⟩, fun given => ?_⟩
        simp only [base, bind, Except.bind, ne_eq, given, not_false_eq_true, if_true] at ordered
        cases cap : b.capMs.isLess b.baseMs with
        | error fault =>
            rw [cap] at ordered
            cases ordered
        | ok lower => exact ⟨lower, rfl⟩
  · rintro ⟨⟨lower, base⟩, cap⟩
    by_cases given : b.capMs = .null
    · simp [base, bind, Except.bind, given, pure, Except.pure]
    · obtain ⟨lower', compared⟩ := cap given
      simp [base, bind, Except.bind, given, compared, pure, Except.pure]

theorem ensureOrdered_error {b : Backoff} {fault : Fault} (failed : b.ensureOrdered = .error fault) :
    ∃ left right, fault = .incomparable "<" left right := by
  unfold ensureOrdered at failed
  cases base : b.baseMs.isLess (.int 0) with
  | error fault' =>
      rw [base] at failed
      cases failed
      exact Value.isLess_error rfl base
  | ok lower =>
      obtain ⟨q, number⟩ := Value.quantity_of_isLess rfl base
      by_cases given : b.capMs = .null
      · simp [base, bind, Except.bind, given, pure, Except.pure] at failed
      · cases cap : b.capMs.isLess b.baseMs with
        | ok lower' => simp [base, bind, Except.bind, given, cap, pure, Except.pure] at failed
        | error fault' =>
            simp only [base, bind, Except.bind, ne_eq, given, not_false_eq_true, if_true, cap,
              Except.error.injEq] at failed
            subst failed
            exact Value.isLess_error number cap

theorem ascending_iff {b : Backoff} :
    b.Ascending ↔ b.Comparable ∧ ¬ b.baseMs.IsLess (.int 0) ∧
      (b.capMs ≠ .null → ¬ b.capMs.IsLess b.baseMs) := by
  constructor
  · rintro ⟨base, cap⟩
    have base := Value.atLeast_iff.mp base
    exact ⟨⟨base.1, fun given => (Value.atLeast_iff.mp (cap given)).1⟩, base.2,
      fun given => (Value.atLeast_iff.mp (cap given)).2⟩
  · rintro ⟨comparable, base, cap⟩
    exact ⟨Value.atLeast_iff.mpr ⟨comparable.base, base⟩,
      fun given => Value.atLeast_iff.mpr ⟨comparable.cap given, cap given⟩⟩

/-- Whole numbers can always be compared, and are asked for what the usual order says. -/
theorem ascending_int (base cap : Int) (strategy : Strategy) :
    Ascending ⟨.int base, strategy, .int cap⟩ ↔ 0 ≤ base ∧ base ≤ cap := by
  constructor
  · rintro ⟨above, capped⟩
    exact ⟨(Value.atLeast_int base 0).mp above, (Value.atLeast_int cap base).mp (capped nofun)⟩
  · rintro ⟨above, capped⟩
    exact ⟨(Value.atLeast_int base 0).mpr above, fun _ => (Value.atLeast_int cap base).mpr capped⟩

end Backoff

theorem RetryPolicy.wellFormed_iff {p : RetryPolicy} (path : String) :
    p.WellFormed ↔ (∀ b, p.backoff = some b → b.Comparable) ∧ ∀ v, ¬ RetryFlaw path p v := by
  constructor
  · rintro ⟨limit, backoff⟩
    refine ⟨fun b given => (Backoff.ascending_iff.mp (backoff b given)).1, fun v flaw => ?_⟩
    cases flaw with
    | choice both =>
        rcases limit with ⟨⟨n, given, -⟩, unset⟩ | ⟨unset, ⟨n, given, -⟩⟩
        · exact nomatch given.symm.trans (both.mpr unset)
        · exact nomatch given.symm.trans (both.mp unset)
    | max set fails =>
        rcases limit with ⟨count, -⟩ | ⟨unset, -⟩
        · exact fails count
        · exact set unset
    | maxRetries set fails =>
        rcases limit with ⟨-, unset⟩ | ⟨-, count⟩
        · exact set unset
        · exact fails count
    | base given less => exact (Backoff.ascending_iff.mp (backoff _ given)).2.1 less
    | cap given capped less => exact (Backoff.ascending_iff.mp (backoff _ given)).2.2 capped less
  · rintro ⟨comparable, sound⟩
    constructor
    · have max : p.max ≠ .null → p.max.IsCount := fun set =>
        Classical.byContradiction fun fails => sound _ (.max set fails)
      have maxRetries : p.maxRetries ≠ .null → p.maxRetries.IsCount := fun set =>
        Classical.byContradiction fun fails => sound _ (.maxRetries set fails)
      by_cases first : p.max = .null
      · exact .inr ⟨first, maxRetries fun second => sound _ (.choice (by simp [first, second]))⟩
      · refine .inl ⟨max first, Classical.byContradiction fun second => ?_⟩
        exact sound _ (.choice (by simp [first, second]))
    · intro b given
      exact Backoff.ascending_iff.mpr ⟨comparable b given, fun less => sound _ (.base given less),
        fun capped less => sound _ (.cap given capped less)⟩

namespace Graph

variable {g : Graph F} {id : String}

theorem routed_iff {routes : Routes} (path : String) :
    g.Routed routes ↔ ∀ v, ¬ RouteFlaw g path routes v := by
  constructor
  · rintro ⟨routed, events, targets⟩ v flaw
    cases flaw with
    | none empty => exact routed empty
    | event entry => exact events _ entry rfl
    | target entry unset => exact (targets _ entry).1 unset
    | lost entry named absent =>
        obtain ⟨id, given, there⟩ := (targets _ entry).2
        cases given
        exact absent there
  · intro sound
    refine ⟨fun empty => sound _ (.none empty), ?_, ?_⟩
    · rintro ⟨event, target⟩ entry rfl
      exact sound _ (.event entry)
    · rintro ⟨event, target⟩ entry
      have set : target.getD "" ≠ "" := fun unset => sound _ (.target entry unset)
      refine ⟨set, ?_⟩
      cases target with
      | none => exact absurd rfl set
      | some id =>
          exact ⟨id, rfl, Classical.byContradiction fun absent => sound _ (.lost entry set absent)⟩

theorem resolves_iff {ref : Slot F} (path : String) :
    g.Resolves ref ↔ ∀ v, ¬ SlotFlaw g path ref v := by
  cases ref with
  | absent => exact ⟨nofun, fun sound => sound _ .absent⟩
  | inert value => exact ⟨nofun, fun sound => sound _ (.inert value)⟩
  | code f scope => exact ⟨fun _ => nofun, fun _ => trivial⟩
  | named name =>
      constructor
      · rintro known v ⟨unknown⟩
        exact unknown known
      · exact fun sound => Classical.byContradiction fun unknown => sound _ (.unknown unknown)

theorem handlerResolves_iff {handler : Handler F} (path : String) :
    g.HandlerResolves handler ↔ ∀ v ref, handler = .slot ref → ¬ SlotFlaw g path ref v := by
  cases handler with
  | slot ref =>
      refine (resolves_iff path).trans ⟨?_, fun sound v => sound v ref rfl⟩
      rintro sound v _ ⟨rfl⟩
      exact sound v
  | _ => exact ⟨fun _ => nofun, fun _ => trivial⟩

theorem selectorResolves_iff {selector : Selector F} (path : String) :
    g.SelectorResolves selector ↔ ∀ v ref, selector = .slot ref → ¬ SlotFlaw g path ref v := by
  cases selector with
  | slot ref =>
      refine (resolves_iff path).trans ⟨?_, fun sound v => sound v ref rfl⟩
      rintro sound v _ ⟨rfl⟩
      exact sound v
  | route select known => exact ⟨fun _ => nofun, fun _ => trivial⟩

theorem orchestrate_iff {handler : Handler F} {selector : Selector F} (path : String) :
    (g.HandlerResolves handler ∧ selector = .slot .absent) ∨
        (handler = .slot .absent ∧ g.SelectorResolves selector) ↔
      ∀ v, ¬ OrchestrateFlaw g path handler selector v := by
  constructor
  · intro either v flaw
    cases flaw with
    | choice both =>
        rcases either with ⟨resolves, unset⟩ | ⟨unset, resolves⟩
        · rw [both.mpr unset] at resolves
          exact resolves
        · rw [both.mp unset] at resolves
          exact resolves
    | handler is given flaw =>
        rcases either with ⟨resolves, -⟩ | ⟨unset, -⟩
        · exact (handlerResolves_iff _).mp resolves v _ is flaw
        · exact given (Handler.slot.inj (is.symm.trans unset))
    | selector is given flaw =>
        rcases either with ⟨-, unset⟩ | ⟨-, resolves⟩
        · exact given (Selector.slot.inj (is.symm.trans unset))
        · exact (selectorResolves_iff _).mp resolves v _ is flaw
  · intro sound
    by_cases first : handler = .slot .absent
    · refine .inr ⟨first, (selectorResolves_iff (path ++ ".selector")).mpr ?_⟩
      intro v ref is flaw
      refine sound v (.selector is ?_ flaw)
      rintro rfl
      exact sound _ (.choice (by simp [first, is]))
    · have second : selector = .slot .absent := Classical.byContradiction fun second =>
        sound _ (.choice (by simp [first, second]))
      refine .inl ⟨(handlerResolves_iff (path ++ ".handler")).mpr ?_, second⟩
      intro v ref is flaw
      exact sound v (.handler is (fun absent => first (absent ▸ is)) flaw)

theorem loop_iff {body again : Target} {bound : Value} {stop : Slot F} (path : String) :
    g.Has body ∧ again = body ∧ bound.IsCount ∧
        (∀ name, stop = .named name → name ∈ names g.guards) ↔
      ∀ v, ¬ LoopFlaw g path body bound again stop v := by
  constructor
  · rintro ⟨has, same, ⟨n, whole, count⟩, known⟩ v flaw
    cases flaw with
    | body lost => exact lost has
    | again apart => exact apart same
    | whole not => exact not n whole
    | negative given below =>
        cases whole.symm.trans given
        omega
    | guard given unknown => exact unknown (known _ given)
  · intro sound
    refine ⟨Classical.byContradiction fun lost => sound _ (.body lost),
      Classical.byContradiction fun apart => sound _ (.again apart), ?_, ?_⟩
    · have whole : ∃ n, bound = .int n := Classical.byContradiction fun not =>
        sound _ (.whole fun n given => not ⟨n, given⟩)
      obtain ⟨n, given⟩ := whole
      exact ⟨n, given, Int.not_lt.mp fun below => sound _ (.negative given below)⟩
    · exact fun name given => Classical.byContradiction fun unknown => sound _ (.guard given unknown)

theorem pause_iff {resume : String} :
    (resume = previousState ∧ id ≠ g.start) ∨
        (resume ≠ previousState ∧ ∃ node, g.state? resume = some node ∧ node.isFeedback = false) ↔
      ∀ v, ¬ PauseFlaw g id resume v := by
  constructor
  · intro either v flaw
    rcases either with ⟨back, apart⟩ | ⟨named, node, found, work⟩
    · cases flaw with
      | start _ atStart => exact apart atStart
      | lost named => exact named back
      | pause named => exact named back
    · cases flaw with
      | start back => exact named back
      | lost _ lost => exact nomatch lost.symm.trans found
      | pause _ found' pause =>
          cases found.symm.trans found'
          exact nomatch work.symm.trans pause
  · intro sound
    by_cases back : resume = previousState
    · exact .inl ⟨back, fun atStart => sound _ (.start back atStart)⟩
    · refine .inr ⟨back, ?_⟩
      cases found : g.state? resume with
      | none => exact absurd (.lost back found) (sound _)
      | some node => exact ⟨node, rfl, by simpa using fun pause => sound _ (.pause back found pause)⟩

/-- The backoff of a state, if it has one, can be examined. -/
def StateComparable : State F → Prop
  | .action _ _ (some p) => ∀ b, p.backoff = some b → b.Comparable
  | _ => True

theorem stateWellFormed_iff {node : State F} :
    g.StateWellFormed id node ↔ StateComparable node ∧ ∀ v, ¬ StateFlaw g id node v := by
  cases node with
  | action handler routes retry =>
      have policies : (∀ p, retry = some p → p.WellFormed) ↔
          StateComparable (.action handler routes retry) ∧
            ∀ p v, retry = some p → ¬ RetryFlaw (s!"states.{id}" ++ ".retry") p v := by
        cases retry with
        | none => exact ⟨fun _ => ⟨trivial, nofun⟩, fun _ => nofun⟩
        | some p =>
            simp only [Option.some.injEq, forall_eq', StateComparable, forall_comm (α := RetryPolicy),
              RetryPolicy.wellFormed_iff (s!"states.{id}" ++ ".retry")]
      simp only [StateWellFormed, routed_iff s!"states.{id}",
        handlerResolves_iff (s!"states.{id}" ++ ".handler"), policies]
      constructor
      · rintro ⟨routes, handler, comparable, retry⟩
        refine ⟨comparable, fun v flaw => ?_⟩
        cases flaw with
        | actionRoutes flaw => exact routes v flaw
        | handler flaw => exact handler v _ rfl flaw
        | retry flaw => exact retry _ v rfl flaw
      · rintro ⟨comparable, sound⟩
        refine ⟨fun v flaw => sound v (.actionRoutes flaw), ?_, comparable, ?_⟩
        · rintro v ref rfl flaw
          exact sound v (.handler flaw)
        · rintro p v rfl flaw
          exact sound v (.retry flaw)
  | orchestrate routes handler selector =>
      simp only [StateWellFormed, routed_iff s!"states.{id}", orchestrate_iff s!"states.{id}",
        StateComparable, true_and]
      constructor
      · rintro ⟨routes, refs⟩ v flaw
        cases flaw with
        | orchestrateRoutes flaw => exact routes v flaw
        | orchestrate flaw => exact refs v flaw
      · exact fun sound => ⟨fun v flaw => sound v (.orchestrateRoutes flaw),
          fun v flaw => sound v (.orchestrate flaw)⟩
  | loop body bound routes stop =>
      simp only [StateWellFormed, routed_iff s!"states.{id}", loop_iff s!"states.{id}",
        StateComparable, true_and]
      constructor
      · rintro ⟨routes, parts⟩ v flaw
        cases flaw with
        | loopRoutes flaw => exact routes v flaw
        | loop flaw => exact parts v flaw
      · exact fun sound => ⟨fun v flaw => sound v (.loopRoutes flaw),
          fun v flaw => sound v (.loop flaw)⟩
  | feedback resume =>
      simp only [StateWellFormed, pause_iff, StateComparable, true_and]
      exact ⟨fun sound v flaw => by cases flaw; exact sound v ‹_›, fun sound v flaw => sound v (.pause flaw)⟩
  | terminal status message => exact ⟨fun _ => ⟨trivial, nofun⟩, fun _ => trivial⟩
  | unsupported value => exact ⟨nofun, fun sound => sound.2 _ (.kind value)⟩

/-- All backoffs of a graph can be examined. -/
def Comparable (g : Graph F) : Prop :=
  ∀ entry ∈ g.states, StateComparable entry.2

theorem wellFormed_iff : g.WellFormed ↔ g.Comparable ∧ ∀ v, ¬ Flaw g v := by
  constructor
  · rintro ⟨inhabited, start, states⟩
    refine ⟨fun entry inside => (stateWellFormed_iff.mp (states entry inside)).1, fun v flaw => ?_⟩
    cases flaw with
    | empty nothing => exact inhabited nothing
    | start lost => exact lost start
    | state entry flaw => exact (stateWellFormed_iff.mp (states _ entry)).2 v flaw
  · rintro ⟨comparable, sound⟩
    refine ⟨fun nothing => sound _ (.empty nothing),
      Classical.byContradiction fun lost => sound _ (.start lost), fun entry inside => ?_⟩
    exact stateWellFormed_iff.mpr ⟨comparable entry inside, fun v flaw => sound v (.state inside flaw)⟩

/-! ## Examining a graph -/

theorem forM_iff {α : Type} {check : α → Except Fault Unit} {items : List α} :
    items.forM check = .ok () ↔ ∀ item ∈ items, check item = .ok () := by
  refine ⟨fun all item inside => forM_ok all inside, fun each => ?_⟩
  induction items with
  | nil => rfl
  | cons head rest ih =>
      obtain ⟨first, later⟩ := List.forall_mem_cons.mp each
      change (do check head; rest.forM check) = .ok ()
      rw [first]
      exact ih later

theorem ensureOrdered_iff : g.ensureOrdered = .ok () ↔ g.Comparable := by
  unfold ensureOrdered
  rw [forM_iff]
  refine forall_congr' fun entry => imp_congr_right fun _ => ?_
  obtain ⟨id, node⟩ := entry
  cases node with
  | action handler routes retry =>
      cases retry with
      | none => exact ⟨fun _ => trivial, fun _ => rfl⟩
      | some p =>
          obtain ⟨max, maxRetries, backoff⟩ := p
          cases backoff with
          | none => exact ⟨fun _ => nofun, fun _ => rfl⟩
          | some b => simp [StateComparable, Backoff.ensureOrdered_iff]
  | _ => exact ⟨fun _ => trivial, fun _ => rfl⟩

/-- Examining a graph comes to an end exactly if all its backoffs can be compared, and then reports
all its violations. -/
theorem examined_eq_ok {found : List Violation} :
    g.examined = .ok found ↔ g.Comparable ∧ found = g.violations := by
  unfold examined
  rw [← ensureOrdered_iff]
  cases g.ensureOrdered with
  | error fault => exact ⟨nofun, nofun⟩
  | ok _ => exact ⟨fun same => ⟨rfl, (Except.ok.inj same).symm⟩, fun both => by rw [both.2]; rfl⟩

theorem forM_error {α : Type} {check : α → Except Fault Unit} {items : List α} {fault : Fault}
    (failed : items.forM check = .error fault) : ∃ item ∈ items, check item = .error fault := by
  induction items with
  | nil => cases failed
  | cons head rest ih =>
      change (do check head; rest.forM check) = .error fault at failed
      cases first : check head with
      | error fault' =>
          rw [first] at failed
          cases failed
          exact ⟨head, List.mem_cons_self, first⟩
      | ok _ =>
          rw [first] at failed
          obtain ⟨item, inside, fails⟩ := ih failed
          exact ⟨item, List.mem_cons_of_mem _ inside, fails⟩

/-- All that can go wrong when a graph is examined is that two values cannot be compared. -/
theorem examined_error {fault : Fault} (failed : g.examined = .error fault) :
    ∃ left right, fault = .incomparable "<" left right := by
  have unordered : g.ensureOrdered = .error fault := by
    unfold examined at failed
    cases ordered : g.ensureOrdered with
    | error fault' =>
        rw [ordered] at failed
        cases failed
        rfl
    | ok _ =>
        rw [ordered] at failed
        cases failed
  obtain ⟨⟨id, node⟩, -, fails⟩ := forM_error unordered
  split at fails
  · exact Backoff.ensureOrdered_error fails
  · cases fails

theorem wellFormed_of_accepted (accepted : g.ensureValid = .ok g) : g.WellFormed := by
  refine wellFormed_iff.mpr ⟨ensureOrdered_iff.mp (ordered_of_accepted accepted), fun v flaw => ?_⟩
  have inside := mem_violations.mpr flaw
  rw [violations_of_accepted accepted] at inside
  cases inside

/-- All of the flaws are reported, not only the first one. -/
example : (⟨"demo", "begin", [], [], [], []⟩ : Graph F).violations =
    [⟨"states", "factory must define at least one state"⟩,
      ⟨"start", "start state `begin` does not exist"⟩] := rfl

end Graph

end Tickwork
