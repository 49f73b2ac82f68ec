import Tickwork.Proofs.Replies.Deliveries
import Tickwork.Proofs.Turn

/-!
# Questions that read replies

A tick can read a reply from itself and from the context of its task. What a handler's question does to
the replies that wait there: a parser is called for one of them only, and the report of one that came
to an end says that the reply is used up.
-/

set_option autoImplicit false

namespace Tickwork

variable {F W : Type}

namespace Engine

/-! ## Where replies wait -/

/-- Every reply that a tick could still read, in itself or in the context of its task, is fresh. -/
structure Awaits (s : Stance) (log : List (Deed W)) : Prop where
  handed : ∀ text reply, s.feedback = some text → replyIn? text = some reply → Fresh log reply
  kept : ∀ reply, keptReply s.progress.context = some reply → Fresh log reply

variable {h : Host F W} {fr : Frame F} {s : Stance} {log : List (Deed W)}

theorem Awaits.snoc (awaits : Awaits s log) {deed : Deed W} (unfinished : ¬ deed.Finished) :
    Awaits s (log ++ [deed]) where
  handed text reply here spoken := (awaits.handed text reply here spoken).append fun _ inside =>
    List.mem_singleton.mp inside ▸ unfinished
  kept reply here := (awaits.kept reply here).append fun _ inside =>
    List.mem_singleton.mp inside ▸ unfinished

theorem Awaits.congr {s' : Stance} (awaits : Awaits s log) (replies : s'.feedback = s.feedback)
    (contexts : s'.progress.context = s.progress.context) : Awaits s' log where
  handed text reply here spoken := awaits.handed text reply (replies ▸ here) spoken
  kept reply here := awaits.kept reply (contexts ▸ here)

/-- A reply that a question reads is fresh if the one that the prompt left in the context is. -/
theorem Awaits.fresh_of_reads (awaits : Awaits s log) {context : Fields} {reply : String}
    (shown : keptReply context = some reply → Fresh log reply)
    (reads : readReply s.feedback context = some reply) : Fresh log reply := by
  rcases readReply_cases reads with ⟨text, handed, spoken⟩ | kept
  · exact awaits.handed text reply handed spoken
  · exact shown kept

/-! ## Questions -/

/-- What an answer to a handler's question means for the replies that wait. Unless the task is given up,
either no reply was read to the end and what the report brings along is fresh, or the report says that
the reply is used up. -/
inductive Told (s : Stance) (log : List (Deed W)) : Except Raised Value → Prop
  | gaveUp (cause : FatalCause) (taskId : Option String) : Told s log (.error (.fatal cause taskId))
  | kept {answer : Except Raised Value} (awaits : Awaits s log)
      (brings : ∀ v id o data reply, answer = .ok v → Outcome.read id v = .ok o →
        o.data = some data → data.Bears reply → Fresh log reply) :
      Told s log answer
  | used {v : Value} (uses : ∀ id o, Outcome.read id v = .ok o → ∃ data, o.data = some data ∧
      (Fields.get? replyKey data).isSome = true ∧ ∀ reply, data.Bears reply → Fresh log reply) :
      Told s log (.ok v)

theorem slot_noted (h : Host F W) (slot : Slot F) (call : Call) (world : Noted W) :
    (∃ scope answer w, slot.call h.noting.behaviour call world =
      (answer, (w, world.2 ++ [.said (call.inScope scope) answer w]))) ∨
    ∃ type, slot.call h.noting.behaviour call world =
      (⟨.error (.notCallable type), call.context⟩, world) := by
  cases slot with
  | code f scope => exact .inl ⟨scope, _, _, rfl⟩
  | absent => exact .inr ⟨_, rfl⟩
  | named name => exact .inr ⟨_, rfl⟩
  | inert v => exact .inr ⟨_, rfl⟩

/-- The report of a handler whose callable was shown no reply: it is told if its data is that of the
callable's report. -/
theorem told_of_slot (awaits : Awaits s log) (once : ReadOnce log) (slot : Slot F) (call : Call)
    (unread : call.reply? = none) (report : Except Raised Value → Except Raised Value)
    (sound : ∀ answer : Answer, ∀ v id o data, report answer.value = .ok v →
      Outcome.read id v = .ok o → o.data = some data → answer.Reports data)
    (unable : ∀ type, ∃ kind text, report (.error (.notCallable type)) = .error (.error kind text))
    (w : W) :
    ReadOnce (slot.call h.noting.behaviour call (w, log)).2.2 ∧
      Awaits s (slot.call h.noting.behaviour call (w, log)).2.2 ∧
      Told s (slot.call h.noting.behaviour call (w, log)).2.2
        (report (slot.call h.noting.behaviour call (w, log)).1.value) := by
  rcases slot_noted h slot call (w, log) with ⟨scope, answer, w', came⟩ | ⟨type, came⟩
  · rw [came]
    have silent : (Deed.said (call.inScope scope) answer w').reads = none :=
      (Call.reply?_inScope call scope).trans unread
    have awaits' := awaits.snoc (Deed.not_finished silent)
    refine ⟨once.snoc ?_, awaits', .kept awaits' ?_⟩
    · intro reply reads
      rw [silent] at reads
      cases reads
    · intro v id o data reply reported read has bears
      refine .of_delivery (.inr ⟨data, sound answer v id o data reported read has, ?_⟩)
      have untouched : (call.inScope scope).laid data = data := by
        unfold Call.laid
        rw [Call.reply?_inScope, unread]
        rfl
      rw [untouched]
      exact bears
  · rw [came]
    refine ⟨once, awaits, .kept awaits ?_⟩
    intro v id o data reply reported
    obtain ⟨kind, text, refused⟩ := unable type
    rw [refused] at reported
    cases reported

theorem readData_of_ofParts {id : String} {status data message page : Value} {o : Outcome}
    (read : Outcome.ofParts id status data message page = .ok o) :
    Outcome.readData id data = .ok o.data := by
  simp only [Outcome.ofParts, bind, Except.bind] at read
  cases status with
  | str text =>
      by_cases blank : Text.isBlankText text = true
      · simp only [blank, if_true] at read
        cases read
      · simp only [blank, Bool.false_eq_true, if_false] at read
        cases given : Outcome.readData id data with
        | error cause =>
            rw [given] at read
            cases read
        | ok kept =>
            rw [given] at read
            simp only at read
            cases worded : Outcome.readMessage id message with
            | error cause =>
                rw [worded] at read
                cases read
            | ok words =>
                rw [worded] at read
                cases read
                rfl
  | _ => cases read

theorem data_of_null {id : String} {status message page : Value} {o : Outcome}
    (read : Outcome.read id (.result status .null message page) = .ok o) : o.data = none :=
  (Except.ok.inj (readData_of_ofParts read)).symm

theorem data_of_dict {id : String} {status message page : Value} {fields : Fields} {o : Outcome}
    (read : Outcome.read id (.result status (.dict fields) message page) = .ok o) :
    o.data = some fields :=
  (Except.ok.inj (readData_of_ofParts read)).symm

theorem decisionReport_ok {branches : List String} {hasOtherwise : Bool} {key v : Value}
    (reports : decisionReport branches hasOtherwise key = .ok v) :
    ∃ status message, v = .result status .null message .null := by
  unfold decisionReport at reports
  simp only [bind, Except.bind] at reports
  repeat' split at reports
  all_goals cases reports
  all_goals exact ⟨_, _, rfl⟩

theorem prompt_noted (h : Host F W) (prompt : Slot F) (input : HandlerInput) (world : Noted W) :
    (∃ scope answer w, renderPrompt h.noting.behaviour input prompt world =
      (answer, (w, world.2 ++ [.said ((Call.handler input).inScope scope) answer w]))) ∨
    ∃ v, renderPrompt h.noting.behaviour input prompt world = (⟨.ok v, input.context⟩, world) := by
  cases prompt with
  | code f scope => exact .inl ⟨scope, _, _, rfl⟩
  | absent => exact .inr ⟨_, rfl⟩
  | named name => exact .inr ⟨_, rfl⟩
  | inert v => exact .inr ⟨_, rfl⟩

def parsed (id : String) : ReplyReader F → Value → Except Raised Outcome
  | .report _, v => (Outcome.read id v).mapError (.fatal · none)
  | .changes _, v => (readChanges v).bind fun report =>
    (Outcome.read id report).mapError (.fatal · none)

theorem read_fatal {id text : String} {v : Value} {kind : ErrorKind} :
    (Outcome.read id v).mapError (Raised.fatal · none) ≠ .error (.error kind text) := by
  cases Outcome.read id v <;> exact nofun

theorem read_ok {id : String} {v : Value} {o : Outcome}
    (reads : (Outcome.read id v).mapError (Raised.fatal · none) = .ok o) :
    Outcome.read id v = .ok o := by
  cases read : Outcome.read id v with
  | error cause =>
      rw [read] at reads
      cases reads
  | ok o' =>
      rw [read] at reads
      cases reads
      rfl

/-- Where a report is read, only a parser that raised an error left the reply unread. -/
theorem unread_report {id : String} {parse : Slot F} {value : Except Raised Value} {kind : ErrorKind}
    {text : String} (call : Call)
    (broken : value.bind (parsed id (.report parse)) = .error (.error kind text)) :
    call.readAs value = .error (.error kind text) := by
  cases value with
  | error e =>
      cases broken
      exact Call.readAs_error _ _
  | ok v => exact (read_fatal broken).elim

/-- Where changes are read, only a parser that raised an error or answered with something else left the
reply unread. -/
theorem unread_changes {id reply : String} {context : Fields} {parse : Slot F}
    {value : Except Raised Value} {kind : ErrorKind} {text : String}
    (broken : value.bind (parsed id (.changes parse)) = .error (.error kind text)) :
    (Call.nodeReply context reply).readAs value = .error (.error kind text) := by
  cases value with
  | error e =>
      cases broken
      rfl
  | ok v =>
      have parse : (readChanges v).bind (fun report =>
          (Outcome.read id report).mapError (Raised.fatal · none)) = .error (.error kind text) :=
        broken
      show readChanges v = _
      cases changed : readChanges v with
      | error e =>
          rw [changed] at parse
          cases parse
          rfl
      | ok report =>
          rw [changed] at parse
          exact (read_fatal parse).elim

theorem parse_noted (h : Host F W) {prompt : Slot F} {reader : ReplyReader F}
    (narrow : Handler.Narrow (.ask prompt (some reader))) (input : HandlerInput) (reply : String)
    (world : Noted W) :
    (∃ scope answer w, parseReply h.noting.behaviour input reply (some reader) world =
      (answer.value.bind (parsed input.stateId reader),
        (w, world.2 ++ [.said ((Call.reply input reply).inScope scope) answer w])) ∧
      ∀ kind text, answer.value.bind (parsed input.stateId reader) = .error (.error kind text) →
        ((Call.reply input reply).inScope scope).readAs answer.value = .error (.error kind text)) ∨
    ∃ kind text, parseReply h.noting.behaviour input reply (some reader) world =
      (.error (.error kind text), world) := by
  cases reader with
  | report parse =>
      cases parse with
      | code f scope => exact .inl ⟨scope, _, _, rfl, fun _ _ broken => unread_report _ broken⟩
      | absent => exact .inr ⟨_, _, rfl⟩
      | named name => exact .inr ⟨_, _, rfl⟩
      | inert v => exact .inr ⟨_, _, rfl⟩
  | changes parse =>
      cases parse with
      | code f scope =>
          cases scope with
          | whole => exact narrow.elim
          | context => exact .inl ⟨.context, _, _, rfl, fun _ _ broken => unread_changes broken⟩
      | absent => exact .inr ⟨_, _, rfl⟩
      | named name => exact .inr ⟨_, _, rfl⟩
      | inert v => exact .inr ⟨_, _, rfl⟩

theorem readChanges_ok {v report : Value} (changed : readChanges v = .ok report) :
    (∃ message context, v = .again message context ∧
      report = .result (.str "feedback") (.dict context) message .null) ∨
    ∃ fields, v.toFields = .ok fields ∧
      report = .result (.str "done") (.dict fields) .null .null := by
  unfold readChanges at changed
  split at changed
  · cases changed
    exact .inl ⟨_, _, rfl, rfl⟩
  · refine .inr ?_
    cases laid : v.toFields with
    | error e =>
        rw [laid] at changed
        cases changed
    | ok fields =>
        rw [laid] at changed
        cases changed
        exact ⟨fields, rfl, rfl⟩

/-- What a parser's answer is read as has the data that the answer reports. -/
theorem reports_of_parsed {id : String} {reader : ReplyReader F} {answer : Answer} {o : Outcome}
    {data : Fields} (reads : answer.value.bind (parsed id reader) = .ok o)
    (has : o.data = some data) : answer.Reports data := by
  cases said : answer.value with
  | error e =>
      rw [said] at reads
      cases reads
  | ok v =>
      rw [said] at reads
      refine ⟨v, said, ?_⟩
      cases reader with
      | report parse => exact .inl ⟨id, o, read_ok reads, has⟩
      | changes parse =>
          have parse : (readChanges v).bind (fun report =>
              (Outcome.read id report).mapError (Raised.fatal · none)) = .ok o := reads
          cases changed : readChanges v with
          | error e =>
              rw [changed] at parse
              cases parse
          | ok report =>
              rw [changed] at parse
              have read : Outcome.read id report = .ok o := read_ok parse
              rcases readChanges_ok changed with ⟨message, context, rfl, rfl⟩ | ⟨fields, laid, rfl⟩
              · rw [data_of_dict read] at has
                cases has
                exact .inr (.inr ⟨message, rfl⟩)
              · rw [data_of_dict read] at has
                cases has
                exact .inr (.inl laid)

theorem used_of_answered {prompt : Value} {o : Outcome}
    (brings : ∀ reply, (Fields.put replyKey .null (o.data.getD [])).Bears reply → Fresh log reply) :
    Told s log (.ok (answeredReport prompt o)) := by
  refine .used fun id o' read => ⟨_, data_of_dict read, ?_, brings⟩
  rw [Fields.get?_put_self]
  rfl

/-- A reply that is there is read by the parser, if there is one. -/
theorem told_of_parse (awaits : Awaits s log) (once : ReadOnce log) {slot : Slot F}
    {reader : Option (ReplyReader F)} (narrow : Handler.Narrow (.ask slot reader))
    {input : HandlerInput} {reply : String} (fresh : Fresh log reply) (prompt : Value) (w : W) :
    ReadOnce (parseReply h.noting.behaviour input reply reader (w, log)).2.2 ∧
      Told s (parseReply h.noting.behaviour input reply reader (w, log)).2.2
        ((parseReply h.noting.behaviour input reply reader (w, log)).1.map
          (answeredReport prompt)) := by
  cases reader with
  | none =>
      refine ⟨once, used_of_answered ?_⟩
      rintro reply' ⟨text, inside, -⟩
      cases List.mem_singleton.mp inside
  | some reader =>
      rcases parse_noted h narrow input reply (w, log) with
        ⟨scope, answer, w', came, unread⟩ | ⟨kind, text, came⟩
      · rw [came]
        simp only
        have reads : ((Call.reply input reply).inScope scope).reply? = some reply :=
          Call.reply?_inScope _ scope
        refine ⟨once.snoc fun reply' same => ?_, ?_⟩
        · have same' : some reply = some reply' := reads.symm.trans same
          cases same'
          exact fresh
        · cases result : answer.value.bind (parsed input.stateId reader) with
          | error e =>
              cases e with
              | fatal cause taskId => exact .gaveUp cause taskId
              | error kind text =>
                  refine .kept (awaits.snoc ?_) (by rintro _ _ _ _ _ ⟨⟩)
                  rintro ⟨-, ended⟩
                  exact ended kind text (unread kind text result)
          | ok o =>
              refine used_of_answered fun reply' bears => .of_delivery (.inr ?_)
              have asks : ((Call.reply input reply).inScope scope).reply?.isSome = true := by
                rw [reads]
                rfl
              cases has : o.data with
              | none =>
                  obtain ⟨text, inside, -⟩ := bears
                  rw [has] at inside
                  cases List.mem_singleton.mp inside
              | some data =>
                  rw [has] at bears
                  refine ⟨data, reports_of_parsed result has, ?_⟩
                  unfold Call.laid
                  rw [if_pos asks]
                  exact bears
      · rw [came]
        exact ⟨once, .kept awaits (by rintro _ _ _ _ _ ⟨⟩)⟩

/-- What a question asks in the end: the prompt was shown, and the reply that is there is read. -/
theorem told_of_ask (awaits : Awaits s log) (once : ReadOnce log) {prompt : Slot F}
    {reader : Option (ReplyReader F)} (narrow : Handler.Narrow (.ask prompt reader))
    {input : HandlerInput} (replies : input.feedback = s.feedback)
    (contexts : input.context = s.progress.context) (w : W) :
    ReadOnce (runAsk h.noting.behaviour prompt reader input (w, log)).2.2 ∧
      Told s (runAsk h.noting.behaviour prompt reader input (w, log)).2.2
        (runAsk h.noting.behaviour prompt reader input (w, log)).1 := by
  have after : ∀ (asked : Answer) (w' : W) (log' : List (Deed W)),
      renderPrompt h.noting.behaviour input prompt (w, log) = (asked, (w', log')) →
      ReadOnce log' → Awaits s log' →
      (∀ reply, keptReply asked.context = some reply → Fresh log' reply) →
      ReadOnce (runAsk h.noting.behaviour prompt reader input (w, log)).2.2 ∧
        Told s (runAsk h.noting.behaviour prompt reader input (w, log)).2.2
          (runAsk h.noting.behaviour prompt reader input (w, log)).1 := by
    intro asked w' log' came once' awaits' shown
    obtain ⟨value, context⟩ := asked
    simp only [runAsk, bind, StateT.bind, came]
    cases value with
    | error e => exact ⟨once', .kept awaits' (by rintro _ _ _ _ _ ⟨⟩)⟩
    | ok words =>
        simp only
        cases reads : readReply input.feedback context with
        | none =>
            refine ⟨once', .used fun id o read => ⟨_, data_of_dict read, rfl, ?_⟩⟩
            rintro reply ⟨text, inside, -⟩
            cases List.mem_singleton.mp inside
        | some reply =>
            rw [replies] at reads
            exact told_of_parse awaits' once' narrow (awaits'.fresh_of_reads (shown reply) reads)
              words w'
  rcases prompt_noted h prompt input (w, log) with ⟨scope, answer, w', came⟩ | ⟨v, came⟩
  · have unread : (Deed.said ((Call.handler input).inScope scope) answer w').reads = none :=
      Call.reply?_inScope _ scope
    refine after answer w' _ came (once.snoc fun reply reads => ?_)
      (awaits.snoc (Deed.not_finished unread)) fun reply kept => ?_
    · rw [unread] at reads
      cases reads
    · by_cases there : keptReply input.context = some reply
      · rw [contexts] at there
        exact (awaits.snoc (Deed.not_finished unread)).kept reply there
      · refine .of_delivery (.inl ⟨kept, ?_⟩)
        rw [Call.context_inScope]
        exact there
  · refine after _ w log came once awaits fun reply kept => ?_
    exact awaits.kept reply (contexts ▸ kept)

theorem told_of_handler (awaits : Awaits s log) (once : ReadOnce log) {handler : Handler F}
    (narrow : handler.Narrow) (input : HandlerInput) (replies : input.feedback = s.feedback)
    (contexts : input.context = s.progress.context) (w : W) :
    ReadOnce (handler.run h.noting.behaviour input (w, log)).2.2 ∧
      Told s (handler.run h.noting.behaviour input (w, log)).2.2
        (handler.run h.noting.behaviour input (w, log)).1 := by
  cases handler with
  | slot ref =>
      have told := told_of_slot (h := h) awaits once ref (.handler input) rfl id
        (fun answer v id o data came read has => ⟨v, came, .inl ⟨id, o, read, has⟩⟩)
        (fun type => ⟨_, _, rfl⟩) w
      exact ⟨told.1, told.2.2⟩
  | ask prompt reader => exact told_of_ask awaits once narrow replies contexts w
  | publish render =>
      have told := told_of_slot (h := h) awaits once render (.handler input) rfl
        (fun value => value.bind fun v =>
          ((readPage v).mapError (.fatal · none)).map fun page =>
            .result (.str "done") .null .null page) ?_ (fun type => ⟨_, _, rfl⟩) w
      · exact ⟨told.1, told.2.2⟩
      · intro answer v id o data came read has
        cases shown : answer.value with
        | error e =>
            rw [shown] at came
            cases came
        | ok page =>
            rw [shown] at came
            simp only [Except.bind] at came
            cases paged : readPage page with
            | error cause =>
                rw [paged] at came
                cases came
            | ok page =>
                rw [paged] at came
                cases came
                rw [data_of_null read] at has
                cases has
  | merge run =>
      have told := told_of_slot (h := h) awaits once (.code run .context) (.handler input) rfl
        (fun value => value.bind fun v => v.toFields.map fun fields =>
          .result (.str "done") (.dict fields) .null .null) ?_ (fun type => ⟨_, _, rfl⟩) w
      · exact ⟨told.1, told.2.2⟩
      · intro answer v id o data came read has
        cases shown : answer.value with
        | error e =>
            rw [shown] at came
            cases came
        | ok v' =>
            rw [shown] at came
            simp only [Except.bind] at came
            cases laid : v'.toFields with
            | error e =>
                rw [laid] at came
                cases came
            | ok fields =>
                rw [laid] at came
                cases came
                have same := data_of_dict read
                rw [has] at same
                cases same
                exact ⟨v', shown, .inr (.inl laid)⟩
  | decide select branches hasOtherwise =>
      have told := told_of_slot (h := h) awaits once (.code select .context) (.handler input)
        rfl (fun value => value.bind (decisionReport branches hasOtherwise)) ?_
        (fun type => ⟨_, _, rfl⟩) w
      · exact ⟨told.1, told.2.2⟩
      · intro answer v id o data came read has
        cases shown : answer.value with
        | error e =>
            rw [shown] at came
            cases came
        | ok key =>
            rw [shown] at came
            obtain ⟨status, message, rfl⟩ := decisionReport_ok came
            rw [data_of_null read] at has
            cases has

theorem told_of_call (awaits : Awaits s log) (once : ReadOnce log) (slot : Slot F) (call : Call)
    (unread : call.reply? = none) (w : W) :
    ReadOnce (slot.call h.noting.behaviour call (w, log)).2.2 ∧
      Awaits s (slot.call h.noting.behaviour call (w, log)).2.2 := by
  rcases slot_noted h slot call (w, log) with ⟨scope, answer, w', came⟩ | ⟨type, came⟩
  · rw [came]
    have silent : (Deed.said (call.inScope scope) answer w').reads = none :=
      (Call.reply?_inScope call scope).trans unread
    refine ⟨once.snoc fun reply reads => ?_, awaits.snoc (Deed.not_finished silent)⟩
    rw [silent] at reads
    cases reads
  · rw [came]
    exact ⟨once, awaits⟩

theorem told_of_selector (awaits : Awaits s log) (once : ReadOnce log) (selector : Selector F)
    (input : SelectorInput) (w : W) :
    ReadOnce (selector.run h.noting.behaviour input (w, log)).2.2 ∧
      Awaits s (selector.run h.noting.behaviour input (w, log)).2.2 := by
  cases selector with
  | slot ref => exact told_of_call awaits once ref _ rfl w
  | route select known => exact told_of_call awaits once select _ rfl w
end Engine

end Tickwork
