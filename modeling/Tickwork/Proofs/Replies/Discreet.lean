import Tickwork.Proofs.Replies.Key
import Tickwork.Proofs.Turn

/-!
# Callables that do not look at replies

A reply may be handed over or kept in the context. Callables that look at neither, except where they are
called to parse a reply, answer two questions alike that differ in nothing but how the reply comes with
them, since a question reads the same reply either way. Such callables may have a state of their own: two
worlds are `near` if the callables cannot tell them apart.
-/

set_option autoImplicit false

namespace Tickwork

variable {F W : Type}

namespace Fields

variable {name : String} {changes : Fields}

theorem erase_overlay (name : String) (fields changes : Fields) :
    erase name (overlay fields changes) = overlay (erase name fields) (erase name changes) := by
  induction changes generalizing fields with
  | nil => rfl
  | cons change rest ih =>
      obtain ⟨key, value⟩ := change
      have onward := ih (put key value fields)
      by_cases hidden : key = .text name
      · subst hidden
        rw [erase_put_self] at onward
        have dropped : erase name ((.text name, value) :: rest) = erase name rest := by simp [erase]
        rw [dropped]
        exact onward
      · rw [erase_put_other hidden] at onward
        have kept : erase name ((key, value) :: rest) = (key, value) :: erase name rest := by
          simp [erase, hidden]
        rw [kept]
        exact onward

/-- Changes that name a key settle its entry, whatever it was before. -/
theorem overlay_named (named : (get? name changes).isSome) (fields fields' : Fields) :
    get? name (overlay fields changes) = get? name (overlay fields' changes) := by
  induction changes generalizing fields fields' with
  | nil => cases named
  | cons change rest ih =>
      obtain ⟨key, value⟩ := change
      cases later : get? name rest with
      | some last =>
          have still : (get? name rest).isSome := by rw [later]; rfl
          exact ih still (put key value fields) (put key value fields')
      | none =>
          have here : key = .text name := by
            by_cases hidden : key = .text name
            · exact hidden
            · rw [get?_cons, if_neg hidden, later] at named
              cases named
          subst here
          have first := (overlay_silent (put (.text name) value fields) later).2
          have second := (overlay_silent (put (.text name) value fields') later).2
          rw [get?_put_self] at first second
          exact first.trans second.symm

theorem overlay_same {fields fields' : Fields} (same : get? name fields = get? name fields')
    (changes : Fields) : get? name (overlay fields changes) = get? name (overlay fields' changes) := by
  cases silent : get? name changes with
  | some value => exact overlay_named (by rw [silent]; rfl) fields fields'
  | none =>
      rw [(overlay_silent fields silent).2, (overlay_silent fields' silent).2]
      exact same

end Fields

/-! ## Where a reply is -/

/-- A reply that comes with one call and is kept in the context of another one, or two contexts that have
the same in its place. -/
inductive Held (reply : Option String) : Option String → Fields → Fields → Prop
  | handed {text : String} {context context' : Fields} (given : reply = some text)
      (kept : Fields.get? replyKey context' = some (.str text)) :
      Held reply (some text) context context'
  | level {context context' : Fields}
      (same : Fields.get? replyKey context = Fields.get? replyKey context') :
      Held reply none context context'

namespace Held

variable {reply feedback : Option String} {context context' : Fields}

theorem read (held : Held reply feedback context context')
    (words : ∀ text ∈ reply, Text.isBlankText text = false) :
    readReply feedback context = readReply none context' := by
  cases held with
  | @handed text _ _ given kept =>
      have said := words text given
      have there : readReply none context' = replyIn? text := by
        simp [readReply, field, kept, Value.asString?]
      rw [readReply_given said, there]
      simp [replyIn?, said]
  | level same => exact readReply_congr same none

/-- Changes that name the reply key use the reply up, all others leave it where it is. -/
theorem told (held : Held reply feedback context context') (data : Option Fields) :
    Held reply (if (data.bind (Fields.get? replyKey)).isSome then none else feedback)
      (Fields.overlay context (data.getD [])) (Fields.overlay context' (data.getD [])) := by
  cases data with
  | none => exact held
  | some changes =>
      simp only [Option.bind_some, Option.getD_some]
      by_cases named : (Fields.get? replyKey changes).isSome
      · rw [if_pos named]
        exact .level (Fields.overlay_named named context context')
      · rw [if_neg named]
        have silent : Fields.get? replyKey changes = none := by simpa using named
        cases held with
        | handed given kept =>
            exact .handed given ((Fields.overlay_silent context' silent).2.trans kept)
        | level same => exact .level (Fields.overlay_same same changes)

/-- A context that keeps no such reply has the same in its place as the other one. -/
theorem same (held : Held none feedback context context') :
    Fields.get? replyKey context = Fields.get? replyKey context' := by
  cases held with
  | handed given kept => cases given
  | level same => exact same

end Held

/-! ## Calls without a reply -/

/-- What a handler is shown, without names and without a reply. -/
def HandlerInput.bare (input : HandlerInput) : HandlerInput :=
  { input with
    context := Fields.erase replyKey input.context, runId := "", tickId := "", feedback := none }

/-- What a selector is shown, without names and without a reply. -/
def SelectorInput.bare (input : SelectorInput) : SelectorInput :=
  { input with context := Fields.erase replyKey input.context, runId := "", tickId := "" }

/-- What a guard is shown, without names and without a reply. -/
def GuardInput.bare (input : GuardInput) : GuardInput :=
  { input with context := Fields.erase replyKey input.context, runId := "", tickId := "" }

/-- A call without the names of its run and its tick and without the reply that is handed over or kept in
the context. A parser still has the reply that it is called for. -/
def Call.bare : Call → Call
  | .handler input => .handler input.bare
  | .reply input text => .reply input.bare text
  | .selector input => .selector input.bare
  | .guard input => .guard input.bare
  | .node context => .node (Fields.erase replyKey context)
  | .nodeReply context text => .nodeReply (Fields.erase replyKey context) text

theorem Call.bare_context (call : Call) :
    call.bare.context = Fields.erase replyKey call.context := by
  cases call <;> rfl

theorem Call.bare_reply? (call : Call) : call.bare.reply? = call.reply? := by
  cases call <;> rfl

theorem Call.bare_inScope {call call' : Call} (same : call.bare = call'.bare) (scope : Scope) :
    (call.inScope scope).bare = (call'.inScope scope).bare := by
  cases scope with
  | whole => exact same
  | context =>
      have narrows : ∀ c : Call, (c.inScope .context).bare = (c.bare.inScope .context) := by
        intro c
        cases c <;> rfl
      rw [narrows, narrows, same]

/-- Callables that look at a reply only where they are called to parse it, and that leave it in the
context which they are shown. -/
structure Behaviour.Discreet (b : Behaviour F W) (near : W → W → Prop) : Prop where
  value : ∀ f call call' w w', call.bare = call'.bare → near w w' →
    (b f call w).1.value = (b f call' w').1.value
  others : ∀ f call call' w w', call.bare = call'.bare → near w w' →
    Fields.erase replyKey (b f call w).1.context = Fields.erase replyKey (b f call' w').1.context
  reply : ∀ f call w,
    Fields.get? replyKey (b f call w).1.context = Fields.get? replyKey call.context
  world : ∀ f call call' w w', call.bare = call'.bare → near w w' →
    near (b f call w).2 (b f call' w').2

/-! ## Questions -/

/-- Two inputs of one handler that differ in how a reply comes with them. -/
structure HandlerInput.Beside (reply : Option String) (input input' : HandlerInput) : Prop where
  bare : input.bare = input'.bare
  silent : input'.feedback = none
  held : Held reply input.feedback input.context input'.context

namespace Engine

/-- Two questions that differ in how a reply comes with them. -/
inductive Question.Beside (reply : Option String) : Question F → Question F → Prop
  | handler (h : Handler F) {input input' : HandlerInput} (beside : input.Beside reply input') :
      Question.Beside reply (.handler h input) (.handler h input')
  | selector (s : Selector F) {input input' : SelectorInput} (same : input.bare = input'.bare) :
      Question.Beside reply (.selector s input) (.selector s input')
  | guard (g : Slot F) {input input' : GuardInput} (same : input.bare = input'.bare) :
      Question.Beside reply (.guard g input) (.guard g input')
  | nothing : Question.Beside reply .nothing .nothing

end Engine

/-- Two parts of a run that answer alike and leave their worlds near each other. -/
structure Agree {α : Type} (near : W → W → Prop) (r r' : α × W) : Prop where
  answer : r.1 = r'.1
  world : near r.2 r'.2

theorem Agree.map {α β : Type} {near : W → W → Prop} {r r' : α × W} (agree : Agree near r r')
    (f : α → β) : Agree near (f r.1, r.2) (f r'.1, r'.2) :=
  ⟨congrArg f agree.answer, agree.world⟩

namespace Behaviour.Discreet

variable {b : Behaviour F W} {near : W → W → Prop} {reply : Option String} {w w' : W}

theorem slot (discreet : b.Discreet near) (slot : Slot F) {call call' : Call}
    (same : call.bare = call'.bare) (worlds : near w w') :
    Agree near ((slot.call b call w).1.value, (slot.call b call w).2)
      ((slot.call b call' w').1.value, (slot.call b call' w').2) := by
  cases slot with
  | code f scope =>
      have narrowed := Call.bare_inScope same scope
      exact ⟨discreet.value f _ _ w w' narrowed worlds, discreet.world f _ _ w w' narrowed worlds⟩
  | absent => exact ⟨rfl, worlds⟩
  | named name => exact ⟨rfl, worlds⟩
  | inert v => exact ⟨rfl, worlds⟩

variable {input input' : HandlerInput}

theorem prompt (discreet : b.Discreet near) (prompt : Slot F) (beside : input.Beside reply input')
    (worlds : near w w') :
    Agree near ((renderPrompt b input prompt w).1.value, (renderPrompt b input prompt w).2)
        ((renderPrompt b input' prompt w').1.value, (renderPrompt b input' prompt w').2) ∧
      ({ input with context := (renderPrompt b input prompt w).1.context } :
        HandlerInput).Beside reply
          { input' with context := (renderPrompt b input' prompt w').1.context } := by
  cases prompt with
  | code f scope =>
      have same : (Call.handler input).bare = (Call.handler input').bare :=
        congrArg Call.handler beside.bare
      have narrowed := Call.bare_inScope same scope
      have shown : ∀ i : HandlerInput, ((Call.handler i).inScope scope).context = i.context := by
        intro i
        cases scope <;> rfl
      have left := discreet.reply f ((Call.handler input).inScope scope) w
      have left' := discreet.reply f ((Call.handler input').inScope scope) w'
      rw [shown] at left left'
      refine ⟨⟨discreet.value f _ _ w w' narrowed worlds,
        discreet.world f _ _ w w' narrowed worlds⟩, ?_, beside.silent, ?_⟩
      · have others := discreet.others f _ _ w w' narrowed worlds
        have bare := beside.bare
        simp only [HandlerInput.bare, HandlerInput.mk.injEq] at bare ⊢
        exact ⟨others, bare.2⟩
      · have held := beside.held
        generalize input.feedback = feedback at held ⊢
        cases held with
        | handed given kept => exact .handed given (left'.trans kept)
        | level same => exact .level (left.trans (same.trans left'.symm))
  | absent => exact ⟨⟨rfl, worlds⟩, beside⟩
  | named name => exact ⟨⟨rfl, worlds⟩, beside⟩
  | inert v => exact ⟨⟨rfl, worlds⟩, beside⟩

theorem parser (discreet : b.Discreet near) (text : String) (reader : Option (ReplyReader F))
    (same : input.bare = input'.bare) (worlds : near w w') :
    Agree near (parseReply b input text reader w) (parseReply b input' text reader w') := by
  have stateId : input.stateId = input'.stateId := (congrArg HandlerInput.stateId same :)
  have shown : (Call.reply input text).bare = (Call.reply input' text).bare :=
    congrArg (Call.reply · text) same
  match reader with
  | none => exact ⟨rfl, worlds⟩
  | some (.report parse) =>
      have called := (discreet.slot parse shown worlds).map fun value => value.bind fun v =>
        (Outcome.read input.stateId v).mapError (Raised.fatal · none)
      simp only [parseReply]
      rw [← stateId]
      exact called
  | some (.changes parse) =>
      have called := (discreet.slot parse shown worlds).map fun value => value.bind fun v =>
        (readChanges v).bind fun report =>
          (Outcome.read input.stateId report).mapError (Raised.fatal · none)
      simp only [parseReply]
      rw [← stateId]
      exact called

theorem runAsk (discreet : b.Discreet near)
    (words : ∀ text ∈ reply, Text.isBlankText text = false) (prompt : Slot F)
    (reader : Option (ReplyReader F)) (beside : input.Beside reply input') (worlds : near w w') :
    Agree near (runAsk b prompt reader input w) (runAsk b prompt reader input' w') := by
  obtain ⟨asked, beside⟩ := discreet.prompt prompt beside worlds
  simp only [Tickwork.runAsk, bind, StateT.bind]
  generalize renderPrompt b input prompt w = first at asked beside ⊢
  generalize renderPrompt b input' prompt w' = second at asked beside ⊢
  obtain ⟨⟨value, context⟩, world⟩ := first
  obtain ⟨⟨value', context'⟩, world'⟩ := second
  obtain ⟨same, near'⟩ := asked
  simp only at same near' beside ⊢
  subst same
  cases value with
  | error e => exact ⟨rfl, near'⟩
  | ok shown =>
      have reads : readReply input.feedback context = readReply input'.feedback context' := by
        have silent : input'.feedback = none := beside.silent
        rw [silent]
        exact beside.held.read words
      simp only [reads]
      cases readReply input'.feedback context' with
      | none => exact ⟨rfl, near'⟩
      | some text =>
          have bare := beside.bare
          exact (discreet.parser text reader bare near').map (Except.map (answeredReport shown))

theorem node (discreet : b.Discreet near) (f : F) {context context' : Fields}
    (same : Fields.erase replyKey context = Fields.erase replyKey context') (worlds : near w w') :
    Agree near ((b f (.node context) w).1.value, (b f (.node context) w).2)
      ((b f (.node context') w').1.value, (b f (.node context') w').2) := by
  have shown : (Call.node context).bare = (Call.node context').bare := congrArg Call.node same
  exact ⟨discreet.value f _ _ w w' shown worlds, discreet.world f _ _ w w' shown worlds⟩

theorem handler (discreet : b.Discreet near)
    (words : ∀ text ∈ reply, Text.isBlankText text = false) (handler : Handler F)
    (beside : input.Beside reply input') (worlds : near w w') :
    Agree near (handler.run b input w) (handler.run b input' w') := by
  have same : (Call.handler input).bare = (Call.handler input').bare :=
    congrArg Call.handler beside.bare
  have context : Fields.erase replyKey input.context = Fields.erase replyKey input'.context :=
    congrArg HandlerInput.context beside.bare
  cases handler with
  | slot ref => exact discreet.slot ref same worlds
  | ask prompt reader => exact discreet.runAsk words prompt reader beside worlds
  | publish render =>
      exact (discreet.slot render same worlds).map fun value => value.bind fun v =>
        ((readPage v).mapError (Raised.fatal · none)).map fun page =>
          Value.result (.str "done") .null .null page
  | merge run =>
      exact (discreet.node run context worlds).map fun value => value.bind fun v =>
        v.toFields.map fun fields => Value.result (.str "done") (.dict fields) .null .null
  | decide select branches hasOtherwise =>
      exact (discreet.node select context worlds).map fun value =>
        value.bind (decisionReport branches hasOtherwise)

theorem selector (discreet : b.Discreet near) (selector : Selector F)
    {input input' : SelectorInput} (same : input.bare = input'.bare) (worlds : near w w') :
    Agree near (selector.run b input w) (selector.run b input' w') := by
  have shown : (Call.selector input).bare = (Call.selector input').bare :=
    congrArg Call.selector same
  cases selector with
  | slot ref => exact discreet.slot ref shown worlds
  | route select known =>
      exact (discreet.slot select shown worlds).map fun value =>
        value.map fun v => Value.str (routedEvent known v)

/-- Two questions that differ in how a reply comes with them get one answer. -/
theorem ask (discreet : b.Discreet near)
    (words : ∀ text ∈ reply, Text.isBlankText text = false) {q q' : Engine.Question F}
    (beside : q.Beside reply q') (worlds : near w w') : Agree near (q.ask b w) (q'.ask b w') := by
  cases beside with
  | handler handler beside => exact discreet.handler words handler beside worlds
  | selector selector same => exact discreet.selector selector same worlds
  | guard slot same => exact discreet.slot slot (congrArg Call.guard same) worlds
  | nothing => exact ⟨rfl, worlds⟩

end Behaviour.Discreet

end Tickwork
