import Tickwork.Proofs.Likeness
import Tickwork.Proofs.Rules

/-!
# Callables in step

Two behaviours are in step if calls that are alike get answers that are alike, in worlds that stay near
each other. Only the callables that a graph names matter. Main statement: a handler or a selector then
reports alike too.
-/

set_option autoImplicit false

namespace Tickwork

variable {F V W α β γ δ : Type}

/-! ## Callables that a graph names -/

/-- Every callable that a slot names is of some kind. -/
def Slot.Every (kind : F → Prop) : Slot F → Prop
  | .code f _ => kind f
  | _ => True

def Handler.Every (kind : F → Prop) : Handler F → Prop
  | .slot ref => ref.Every kind
  | .ask prompt reader => prompt.Every kind ∧ match reader with
      | none => True
      | some (.report parse) | some (.changes parse) => parse.Every kind
  | .publish render => render.Every kind
  | .merge run => kind run
  | .decide select _ _ => kind select

def Selector.Every (kind : F → Prop) : Selector F → Prop
  | .slot ref => ref.Every kind
  | .route select _ => select.Every kind

def State.Every (kind : F → Prop) : State F → Prop
  | .action handler _ _ => handler.Every kind
  | .orchestrate _ handler selector => handler.Every kind ∧ selector.Every kind
  | .loop _ _ _ stop => stop.Every kind
  | _ => True

/-- Every callable that a graph names is of some kind. -/
structure Graph.Every (kind : F → Prop) (g : Graph F) : Prop where
  states : ∀ entry ∈ g.states, entry.2.Every kind
  guards : ∀ entry ∈ g.guards, kind entry.2
  handlers : ∀ entry ∈ g.handlers, kind entry.2

namespace Graph.Every

variable {kind : F → Prop} {g : Graph F}

theorem state (every : g.Every kind) {id : String} {node : State F} (found : g.state? id = some node) :
    node.Every kind :=
  every.states _ (Graph.mem_of_state? found)

theorem handler (every : g.Every kind) {id : String} {handler callable : Handler F}
    (named : handler.Every kind) (found : Engine.resolveHandler g id handler = .ok callable) :
    callable.Every kind := by
  unfold Engine.resolveHandler at found
  split at found
  · split at found
    · cases found
      exact every.handlers _ (Graph.mem_of_lookup ‹_›)
    · cases found
  · cases found
  · cases found
  · cases found
    exact named

theorem selector (every : g.Every kind) {id : String} {selector callable : Selector F}
    (named : selector.Every kind) (found : Engine.resolveSelector g id selector = .ok callable) :
    callable.Every kind := by
  unfold Engine.resolveSelector at found
  split at found
  · split at found
    · cases found
      exact every.handlers _ (Graph.mem_of_lookup ‹_›)
    · cases found
  · cases found
  · cases found
  · cases found
    exact named

theorem guard (every : g.Every kind) {id : String} {stop callable : Slot F} (named : stop.Every kind)
    (found : Engine.resolveGuard g id stop = .ok (some callable)) : callable.Every kind := by
  unfold Engine.resolveGuard at found
  split at found
  · cases found
  · split at found
    · cases found
      exact every.guards _ (Graph.mem_of_lookup ‹_›)
    · cases found
  · cases found
  · cases found
    exact named

end Graph.Every

/-! ## Operations in step -/

/-- From worlds near each other two operations come to results that go together, and leave the worlds
near each other. -/
def InStep (near : V → W → Prop) (R : α → β → Prop) (act : StateM V α) (act' : StateM W β) : Prop :=
  ∀ v w, near v w → R (act v).1 (act' w).1 ∧ near (act v).2 (act' w).2

namespace InStep

variable {near : V → W → Prop} {R : α → β → Prop} {S : γ → δ → Prop}

theorem pure {a : α} {b : β} (here : R a b) :
    InStep near R (Pure.pure a : StateM V α) (Pure.pure b : StateM W β) := fun _ _ beside => ⟨here, beside⟩

theorem bind {act : StateM V α} {act' : StateM W β} {next : α → StateM V γ} {next' : β → StateM W δ}
    (first : InStep near R act act') (later : ∀ a b, R a b → InStep near S (next a) (next' b)) :
    InStep near S (act >>= next) (act' >>= next') := by
  intro v w beside
  obtain ⟨here, still⟩ := first v w beside
  exact later _ _ here _ _ still

theorem map {act : StateM V α} {act' : StateM W β} {f : α → γ} {f' : β → δ} (first : InStep near R act act')
    (made : ∀ a b, R a b → S (f a) (f' b)) :
    InStep near S (act >>= fun a => Pure.pure (f a)) (act' >>= fun b => Pure.pure (f' b)) :=
  first.bind fun a b here => .pure (made a b here)

end InStep

/-! ## Calls and answers -/

structure HandlerInput.Like (like : Likeness) (i i' : HandlerInput) : Prop where
  context : like.fields i.context i'.context
  task : i.task = i'.task
  stateId : i.stateId = i'.stateId
  attempt : i.attempt = i'.attempt
  feedback : i.feedback = i'.feedback

structure SelectorInput.Like (like : Likeness) (i i' : SelectorInput) : Prop where
  context : like.fields i.context i'.context
  task : i.task = i'.task
  stateId : i.stateId = i'.stateId

structure GuardInput.Like (like : Likeness) (i i' : GuardInput) : Prop where
  context : like.fields i.context i'.context
  iteration : i.iteration = i'.iteration
  task : i.task = i'.task
  stateId : i.stateId = i'.stateId

/-- Two calls that show the same, names of run and tick apart, over contexts that are alike. -/
inductive Call.Like (like : Likeness) : Call → Call → Prop
  | handler {i i' : HandlerInput} (alike : i.Like like i') : Call.Like like (.handler i) (.handler i')
  | reply {i i' : HandlerInput} (alike : i.Like like i') (text : String) :
      Call.Like like (.reply i text) (.reply i' text)
  | selector {i i' : SelectorInput} (alike : i.Like like i') : Call.Like like (.selector i) (.selector i')
  | guard {i i' : GuardInput} (alike : i.Like like i') : Call.Like like (.guard i) (.guard i')
  | node {f f' : Fields} (alike : like.fields f f') : Call.Like like (.node f) (.node f')
  | nodeReply {f f' : Fields} (alike : like.fields f f') (text : String) :
      Call.Like like (.nodeReply f text) (.nodeReply f' text)

namespace Call.Like

variable {like : Likeness} {call call' : Call}

theorem context (alike : call.Like like call') : like.fields call.context call'.context := by
  cases alike with
  | handler alike => exact alike.context
  | reply alike => exact alike.context
  | selector alike => exact alike.context
  | guard alike => exact alike.context
  | node alike => exact alike
  | nodeReply alike => exact alike

theorem inScope (alike : call.Like like call') (scope : Scope) :
    (call.inScope scope).Like like (call'.inScope scope) := by
  cases scope with
  | whole => exact alike
  | context =>
      cases alike with
      | handler alike => exact .node alike.context
      | reply alike text => exact .nodeReply alike.context text
      | selector alike => exact .node alike.context
      | guard alike => exact .node alike.context
      | node alike => exact .node alike
      | nodeReply alike text => exact .nodeReply alike text

end Call.Like

structure Answer.Like (like : Likeness) (a a' : Answer) : Prop where
  value : Both like.Tells a.value a'.value
  context : like.fields a.context a'.context

/-- Two behaviours of which the callables of some kind answer calls that are alike alike. -/
def Behaviour.InStep (like : Likeness) (kind : F → Prop) (near : V → W → Prop) (b : Behaviour F V)
    (b' : Behaviour F W) : Prop :=
  ∀ f, kind f → ∀ call call', call.Like like call' →
    Tickwork.InStep near (Answer.Like like) (b f call) (b' f call')

/-! ## Handlers and selectors -/

/-- Two reports that are read alike for every state. -/
def Reported (like : Likeness) (v v' : Value) : Prop :=
  ∀ id, Both (Outcome.Like like) (Outcome.read id v) (Outcome.read id v')

section Reports

variable {like : Likeness} {v v' : Value}

theorem Likeness.Tells.spoken (tells : like.Tells v v') : Spoken v v' := by
  cases tells with
  | same => exact .same _
  | _ => exact .mute ⟨rfl, nofun⟩ ⟨rfl, nofun⟩

theorem Likeness.Tells.asString? (tells : like.Tells v v') : v.asString? = v'.asString? := by
  cases tells <;> rfl

theorem Likeness.Tells.truthy (tells : like.Tells v v') : v.truthy = v'.truthy := by
  cases tells with
  | dict alike => exact congrArg not (like.isEmpty alike)
  | view alike => exact congrArg not (like.isEmpty alike)
  | _ => rfl

theorem Likeness.Tells.toFields (tells : like.Tells v v') : Both like.fields v.toFields v'.toFields := by
  cases tells with
  | same _ own =>
      cases made : v.toFields with
      | ok f => exact .ok (own.pairs f made)
      | error e => exact .error e
  | dict alike => exact .ok alike
  | view alike => exact .ok alike
  | result => exact .error _
  | again => exact .error _

/-- A mapping to lay over the context is reported as done. -/
theorem reported_done {f f' : Fields} (alike : like.fields f f') :
    Reported like (.result (.str "done") (.dict f) .null .null)
      (.result (.str "done") (.dict f') .null .null) := fun id =>
  Outcome.read_result_alike (.same _) (.dict alike) (.same _) id _ _

theorem readChanges_alike (tells : like.Tells v v') :
    Both (Reported like) (readChanges v) (readChanges v') := by
  by_cases asks : ∃ message context, v = .again message context
  · obtain ⟨message, context, rfl⟩ := asks
    have repeated : ∀ context', like.fields context context' →
        Reported like (.result (.str "feedback") (.dict context) message .null)
          (.result (.str "feedback") (.dict context') message .null) := fun context' alike id =>
      Outcome.read_result_alike (.same _) (.dict alike) (.same _) id _ _
    cases tells with
    | same _ own => exact .ok (repeated _ (own.asks _ _ rfl))
    | again _ alike => exact .ok (repeated _ alike)
  · have changes : ∀ v : Value, (¬ ∃ message context, v = .again message context) →
        readChanges v = v.toFields.bind fun f =>
          .ok (.result (.str "done") (.dict f) .null .null) := by
      intro v plain
      unfold readChanges
      split
      · exact absurd ⟨_, _, rfl⟩ plain
      · rfl
    have asks' : ¬ ∃ message context, v' = .again message context := by
      rintro ⟨message, context, rfl⟩
      cases tells with
      | same _ own => exact asks ⟨_, _, rfl⟩
      | again message alike => exact asks ⟨_, _, rfl⟩
    rw [changes v asks, changes v' asks']
    exact tells.toFields.bind fun f f' alike => .ok (reported_done alike)

/-- A report without data is like itself. -/
theorem reported_plain (status message : Value) :
    Reported like (.result status .null message .null) (.result status .null message .null) := fun id =>
  Outcome.read_result_alike (.same _) (.same .null rfl) (.same _) id _ _

theorem decisionReport_same (v : Value) (branches : List String) (hasOtherwise : Bool) :
    Both (Reported like) (decisionReport branches hasOtherwise v)
      (decisionReport branches hasOtherwise v) := by
  unfold decisionReport
  cases v.toKey with
  | error e => exact .error e
  | ok key =>
      simp only [bind, Except.bind]
      split
      · exact .ok (reported_plain _ _)
      · split
        · exact .ok (reported_plain _ _)
        · cases v.sentence with
          | error e => exact .error e
          | ok words => exact .ok (reported_plain _ _)

/-- A wish to ask again is a key like any other, but the name of no branch. -/
theorem decisionReport_again (message : Value) (context : Fields) (branches : List String)
    (hasOtherwise : Bool) :
    decisionReport branches hasOtherwise (.again message context) =
      if hasOtherwise then .ok (plainReport otherwiseEvent)
      else if (Value.again message context).isSpellable then
        .ok (.result (.str unknownBranchEvent) .null
          (.str ("Unknown branch selected: " ++ "<AwaitFeedback>")) .null)
      else .error .unspellable := by
  cases hasOtherwise with
  | true => rfl
  | false =>
      have unknown : decisionReport branches false (.again message context) =
          (Value.again message context).sentence.bind fun words =>
            .ok (.result (.str unknownBranchEvent) .null
              (.str ("Unknown branch selected: " ++ words)) .null) := rfl
      rw [unknown, Value.sentence]
      cases (Value.again message context).isSpellable <;> rfl

theorem decisionReport_alike (tells : like.Tells v v') (branches : List String) (hasOtherwise : Bool) :
    Both (Reported like) (decisionReport branches hasOtherwise v)
      (decisionReport branches hasOtherwise v') := by
  cases tells with
  | same => exact decisionReport_same v branches hasOtherwise
  | dict => exact .error _
  | view => exact .error _
  | result => exact .error _
  | again message alike spelled =>
      rw [decisionReport_again, decisionReport_again, ← spelled, ← decisionReport_again]
      exact decisionReport_same _ branches hasOtherwise

theorem readPage_tells (tells : like.Tells v v') : Both (fun _ _ => True) (readPage v) (readPage v') := by
  cases tells with
  | same _ own => exact readPage_alike (.same v own.plain : Kin like.fields v v)
  | dict alike => exact readPage_alike (.dict alike)
  | view alike => exact readPage_alike (.view alike)
  | result => exact .error _
  | again => exact .error _

/-- The event of a route does not depend on how mappings are laid out. -/
theorem routedEvent_alike (tells : like.Tells v v') (known : List String) :
    routedEvent known v = routedEvent known v' := by
  cases tells <;> rfl

theorem answeredReport_alike {prompt prompt' : Value} {o o' : Outcome} (spoken : Spoken prompt prompt')
    (alike : o.Like like o') : Reported like (answeredReport prompt o) (answeredReport prompt' o') := by
  intro id
  unfold answeredReport
  rw [← alike.status, ← alike.message]
  refine Outcome.read_result_alike (.same _) (.dict (Likeness.used_reply alike.laid)) ?_ id _ _
  split
  · exact spoken
  · exact .same _

theorem waitingReport_alike {prompt prompt' : Value} (spoken : Spoken prompt prompt') :
    Reported like (waitingReport prompt) (waitingReport prompt') := fun id =>
  Outcome.read_result_alike (.same _) (.dict like.used) spoken id _ _

theorem readReply_alike {f f' : Fields} (alike : like.fields f f') (feedback : Option String) :
    readReply feedback f = readReply feedback f' := by
  unfold readReply
  rw [(Likeness.field alike replyKey).asString?]

end Reports

section Asking

variable {like : Likeness} {kind : F → Prop} {near : V → W → Prop}
variable {b : Behaviour F V} {b' : Behaviour F W} (pace : b.InStep like kind near b')

include pace

theorem InStep.slot {slot : Slot F} (every : slot.Every kind) {call call' : Call}
    (alike : call.Like like call') :
    InStep near (Answer.Like like) (slot.call b call) (slot.call b' call') := by
  cases slot with
  | code f scope => exact pace f every _ _ (alike.inScope scope)
  | absent => exact .pure ⟨.error _, alike.context⟩
  | named name => exact .pure ⟨.error _, alike.context⟩
  | inert v => exact .pure ⟨.error _, alike.context⟩

/-- Two prompts that were rendered alike, with the contexts that they were rendered in. -/
structure Prompted (like : Likeness) (a a' : Answer) : Prop where
  value : Both Spoken a.value a'.value
  context : like.fields a.context a'.context

theorem InStep.renderPrompt {prompt : Slot F} (every : prompt.Every kind) {i i' : HandlerInput}
    (alike : i.Like like i') :
    InStep near (Prompted like) (renderPrompt b i prompt) (renderPrompt b' i' prompt) := by
  cases prompt with
  | code f scope =>
      intro v w beside
      obtain ⟨answered, still⟩ := pace f every _ _ (Call.Like.inScope (.handler alike) scope) v w beside
      exact ⟨⟨answered.value.imp fun _ _ tells => tells.spoken, answered.context⟩, still⟩
  | absent => exact .pure ⟨.ok (.same _), alike.context⟩
  | named name => exact .pure ⟨.ok (.same _), alike.context⟩
  | inert v => exact .pure ⟨.ok (.same _), alike.context⟩

theorem InStep.parseReply {reader : Option (ReplyReader F)} (every : match reader with
      | none => True
      | some (.report parse) | some (.changes parse) => parse.Every kind)
    {i i' : HandlerInput} (alike : i.Like like i') (reply : String) :
    InStep near (Both (Outcome.Like like)) (parseReply b i reply reader)
      (parseReply b' i' reply reader) := by
  match reader with
  | none => exact .pure (.ok ⟨rfl, rfl, .none⟩)
  | some (.report parse) =>
      refine .map (.slot pace every (.reply alike reply)) fun a a' answered => ?_
      refine answered.value.bind fun v v' tells => ?_
      rw [alike.stateId]
      exact (Outcome.read_alike tells _).mapError _
  | some (.changes parse) =>
      refine .map (.slot pace every (.reply alike reply)) fun a a' answered => ?_
      refine answered.value.bind fun v v' tells => (readChanges_alike tells).bind fun r r' reported => ?_
      rw [alike.stateId]
      exact (reported _).mapError _

theorem InStep.runAsk {prompt : Slot F} {reader : Option (ReplyReader F)}
    (every : (Handler.ask prompt reader).Every kind) {i i' : HandlerInput} (alike : i.Like like i') :
    InStep near (Both (Reported like)) (runAsk b prompt reader i) (runAsk b' prompt reader i') := by
  refine .bind (.renderPrompt pace every.1 alike) fun asked asked' prompted => ?_
  have value := prompted.value
  generalize asked.value = r at value ⊢
  generalize asked'.value = r' at value ⊢
  cases value with
  | error e => exact .pure (.error e)
  | ok spoken =>
      simp only
      rw [alike.feedback, readReply_alike prompted.context]
      cases readReply i'.feedback asked'.context with
      | none => exact .pure (.ok (waitingReport_alike spoken))
      | some reply =>
          have alike' : HandlerInput.Like like
              { i with context := asked.context, feedback := i'.feedback }
              { i' with context := asked'.context } :=
            ⟨prompted.context, alike.task, alike.stateId, alike.attempt, rfl⟩
          refine .map (.parseReply pace every.2 alike' reply) fun o o' both => ?_
          exact both.map fun o o' like => answeredReport_alike spoken like

/-- A handler reports alike where its callables answer alike. -/
theorem InStep.handler {handler : Handler F} (every : handler.Every kind) {i i' : HandlerInput}
    (alike : i.Like like i') :
    InStep near (Both (Reported like)) (handler.run b i) (handler.run b' i') := by
  cases handler with
  | slot ref =>
      refine .map (.slot pace every (.handler alike)) fun a a' answered => ?_
      exact answered.value.imp fun v v' tells => Outcome.read_alike tells
  | ask prompt reader => exact .runAsk pace every alike
  | publish render =>
      refine .map (.slot pace every (.handler alike)) fun a a' answered => ?_
      refine answered.value.bind fun v v' tells => ?_
      refine ((readPage_tells tells).mapError _).map fun page page' _ id => ?_
      exact Outcome.read_result_alike (.same _) (.same .null rfl) (.same _) id page page'
  | merge run =>
      refine .map (pace run every _ _ (.node alike.context)) fun a a' answered => ?_
      exact answered.value.bind fun v v' tells => tells.toFields.map fun f f' => reported_done
  | decide select branches hasOtherwise =>
      refine .map (pace select every _ _ (.node alike.context)) fun a a' answered => ?_
      exact answered.value.bind fun v v' tells => decisionReport_alike tells branches hasOtherwise

/-- Two words of a selector: one event, or none. -/
def Worded (v v' : Value) : Prop := v.asString? = v'.asString?

theorem InStep.selector {selector : Selector F} (every : selector.Every kind) {i i' : SelectorInput}
    (alike : i.Like like i') :
    InStep near (Both Worded) (selector.run b i) (selector.run b' i') := by
  cases selector with
  | slot ref =>
      refine .map (.slot pace every (.selector alike)) fun a a' answered => ?_
      exact answered.value.imp fun v v' tells => tells.asString?
  | route select known =>
      refine .map (.slot pace every (.selector alike)) fun a a' answered => ?_
      exact answered.value.map fun v v' tells => congrArg some (routedEvent_alike tells known)

end Asking

end Tickwork
