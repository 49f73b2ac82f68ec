import Tickwork.Proofs.Replies.Readings
import Tickwork.Proofs.Returns

/-!
# Where a context comes from

Between two writes a tick asks one state at most, and the result of a handler may bring data. `Accounted` is
a log in which every context that was written is the one written before it, overlaid by the data of the one
result that came in between. Main statement: the log of every advance is accounted for, up to the write that
gives a task up; and what callables do to the contexts that they are shown goes no further, except that a
question reads its reply where its prompt has been.
-/

set_option autoImplicit false

namespace Tickwork

variable {F W : Type}

/-! ## What a result lays over the context -/

/-- The data of what a handler returned, if it can be read. -/
def reportedData (id : String) (v : Value) : Fields :=
  match Outcome.read id v with
  | .ok o => o.data.getD []
  | .error _ => []

/-- What the answer of a state lays over the context: the data of what an action's handler returned, whatever
its status, and that of an orchestrate state's handler without the event. A callable that raised lays
nothing, and neither does a selector or a guard. -/
def State.lays (id : String) : State F → Except Raised Value → Fields
  | .action _ _ _, .ok v => reportedData id v
  | .orchestrate _ handler _, .ok v =>
    if Graph.hasHandler handler then Fields.erase "event" (reportedData id v) else []
  | _, _ => []

namespace Engine

variable {fr : Frame F} {s : Stance} {id : String} {node : State F} {answer : Except Raised Value}
variable {verdict : Verdict}

theorem actionReacted_context {handler : Handler F} {routes : ActionRoutes} {retry : Option RetryPolicy}
    (decided : (actionReacted id retry s answer).result = .ok verdict) :
    (Progress.merge (actionReacted id retry s answer).after.progress verdict.data).context =
      Fields.overlay s.progress.context ((State.action handler routes retry).lays id answer) := by
  unfold actionReacted at decided ⊢
  simp only at decided ⊢
  cases answer with
  | error e =>
      cases e with
      | fatal cause taskId => cases decided
      | error kind text => exact (concluded_failed decided).1
  | ok v =>
      simp only [attempted, State.lays, reportedData] at decided ⊢
      cases read : Outcome.read id v with
      | error cause =>
          rw [read] at decided
          cases decided
      | ok o =>
          simp only [read, judged] at decided ⊢
          by_cases known : actionEvents.contains o.status = true
          · by_cases again : o.status = "failed"
            · -- The data of a failed attempt is laid at once, and its verdict brings none.
              simp only [again, if_false, ne_eq, not_true_eq_false] at decided ⊢
              exact (concluded_failed decided).1
            · simp only [known, again, Bool.not_true, Bool.false_eq_true, if_false, ne_eq,
                not_false_eq_true, if_true, concluded] at decided ⊢
              cases decided
              have kept : (Progress.settled s.progress id o).context = s.progress.context := by
                unfold Progress.settled
                simp only
                split <;> rfl
              exact congrArg (Fields.overlay · (o.data.getD [])) kept
          · simp only [known, Bool.not_false, if_true] at decided
            cases decided

theorem handlerReacted_context {routes : Routes} {handler : Handler F} {selector : Selector F}
    (has : Graph.hasHandler handler = true)
    (decided : (handlerReacted id s answer).result = .ok verdict) :
    (Progress.merge (handlerReacted id s answer).after.progress verdict.data).context =
      Fields.overlay s.progress.context ((State.orchestrate routes handler selector).lays id answer) := by
  unfold handlerReacted at decided ⊢
  cases answer with
  | error e => cases e <;> cases decided
  | ok v =>
      simp only [State.lays, has, if_true, reportedData] at decided ⊢
      cases read : Outcome.read id v with
      | error cause =>
          rw [read] at decided
          cases decided
      | ok o =>
          simp only [read] at decided ⊢
          cases decided
          rfl

/-- What follows from an answer lays over the context what the state lays for it, and nothing else. -/
theorem reacted_context (decided : (reacted id s node answer).result = .ok verdict) :
    (Progress.merge (reacted id s node answer).after.progress verdict.data).context =
      Fields.overlay s.progress.context (node.lays id answer) := by
  cases node with
  | action handler routes retry => exact actionReacted_context decided
  | orchestrate routes handler selector =>
      unfold reacted at decided ⊢
      simp only at decided ⊢
      by_cases has : Graph.hasHandler handler = true
      · rw [if_pos has] at decided ⊢
        exact handlerReacted_context has decided
      · rw [if_neg has] at decided ⊢
        obtain ⟨stays, bare⟩ := selectorReacted_bare decided
        have nothing : (State.orchestrate routes handler selector).lays id answer = [] := by
          cases answer with
          | error e => rfl
          | ok v => exact if_neg has
        rw [stays, bare, nothing]
        rfl
  | loop body bound routes stop =>
      obtain ⟨-, contexts, bare⟩ := loopReacted_bare decided
      rw [bare]
      exact contexts
  | feedback resume => cases decided
  | terminal status message => cases decided
  | unsupported v => cases decided

/-! ## Logs that are accounted for -/

/-- A state is visited over a context: its question is asked in the world `w`, the calls that it takes leave
the world as `w'`, and this is the answer. -/
structure Consulted (h : Host F W) (fr : Frame F) (context : Fields) (id : String) (node : State F) (w : W)
    (answer : Except Raised Value) (calls : List (Deed W)) (w' : W) : Prop where
  found : fr.graph.state? id = some node
  asked : ∃ (s : Stance) (q : Question F), s.progress.context = context ∧ question fr id s node = .ok q ∧
    q.ask h.noting.behaviour (w, []) = (answer, (w', calls))

/-- A log of which every write is accounted for, from the context and the world that a tick starts with to
the context that was written last and the world as it then is. A progress without a row has the context of
the write before it; a row comes after one visit of the state that it leads from, and its context is that of
the write before it, overlaid by what the answer lays. -/
inductive Accounted (h : Host F W) (fr : Frame F) (start : Fields) (begun : W) :
    List (Deed W) → Fields → W → Prop
  | start : Accounted h fr start begun [] start begun
  | idled {log : List (Deed W)} {context : Fields} {w w' : W}
      (before : Accounted h fr start begun log context w) (idles : Idles h w w') :
      Accounted h fr start begun log context w'
  | unasked {log : List (Deed W)} {context : Fields} {w w' : W}
      (before : Accounted h fr start begun log context w) {p : Progress} (result : Except Fault Unit)
      (kept : p.context = context) :
      Accounted h fr start begun (log ++ [.wrote none p w result w']) p.context w'
  | visited {log calls : List (Deed W)} {context : Fields} {w asked written w' : W}
      (before : Accounted h fr start begun log context w) {row : Transition} {p : Progress} {node : State F}
      {answer : Except Raised Value} (result : Except Fault Unit)
      (consulted : Consulted h fr context row.fromId node w answer calls asked) (idles : Idles h asked written)
      (lays : p.context = Fields.overlay context (node.lays row.fromId answer)) :
      Accounted h fr start begun (log ++ calls ++ [.wrote (some row) p written result w']) p.context w'

/-- A write that gives a task up: it keeps the task as failed, and the advance ends with the fatal error, or
with the fault of the store that refused this write. -/
def GivesUp (result : Except Fault Finish) (deed : Deed W) : Prop :=
  ∃ cause p before written after, deed = .wrote none p before written after ∧ p.lifecycle = .failed ∧
    p.lastError = some (FatalCause.message cause) ∧
    ((∃ named, result = .error (.fatal cause (some named))) ∨
      ∃ fault, written = .error fault ∧ result = .error fault)

/-- The log of an advance: every write is accounted for but one that gives the task up. Before that one, and
where a fault breaks off the advance, a state may have been asked in vain; an advance that reports has
written all that came of what it asked. -/
def Provenance (h : Host F W) (fr : Frame F) (start : Fields) (begun : W) (log : List (Deed W))
    (result : Except Fault Finish) : Prop :=
  ∃ written context w calls last, log = written ++ calls ++ last ∧
    Accounted h fr start begun written context w ∧ (∀ deed ∈ calls, deed.IsCall) ∧
    (last = [] ∨ ∃ deed, last = [deed] ∧ GivesUp result deed) ∧
    ∀ finish, result = .ok finish → calls = [] ∧ last = []

/-! ## Every advance is accounted for -/

variable {h : Host F W} {start : Fields} {begun : W}

/-- What was noted before a question is asked does not matter to it. -/
theorem Question.ask_noted (h : Host F W) (q : Question F) (w : W) (log : List (Deed W)) :
    q.ask h.noting.behaviour (w, log) =
      ((q.ask h.noting.behaviour (w, [])).1, ((q.ask h.noting.behaviour (w, [])).2.1,
        log ++ (q.ask h.noting.behaviour (w, [])).2.2)) := by
  have sees : ∀ f call, Sees (fun noted : Noted W => (noted.1, log ++ noted.2)) (h.noting.behaviour f call)
      (h.noting.behaviour f call) := by
    intro f call noted
    show _ = (_, (_, log ++ (noted.2 ++ [_])))
    rw [← List.append_assoc]
    rfl
  have shifted := Sees.question sees q (w, [])
  simp only [List.append_nil] at shifted
  exact shifted

theorem Question.ask_calls (h : Host F W) (q : Question F) (w : W) :
    ∀ deed ∈ (q.ask h.noting.behaviour (w, [])).2.2, deed.IsCall := by
  have consults := q.ask_consults h.noting.behaviour (w, [])
  generalize (q.ask h.noting.behaviour (w, [])).2 = noted at consults ⊢
  induction consults with
  | still => exact fun _ inside => absurd inside List.not_mem_nil
  | called before f call ih =>
      intro deed inside
      rcases List.mem_append.mp inside with earlier | now
      · exact ih deed earlier
      · rw [List.mem_singleton.mp now]
        trivial

/-- A log with a spot of the tick beside it: the writes so far, and the context and the world as they are. -/
abbrev AccountedAt (h : Host F W) (fr : Frame F) (start : Fields) (begun : W) (a : Spot (Noted W)) : Prop :=
  Accounted h fr start begun a.world.2 a.stance.progress.context a.world.1

variable {a b : Spot (Noted W)}

theorem Unasked.idles {h : Host F W} {a : Spot W} {p : Progress} {w : W} (plain : Unasked h fr a p w) :
    Idles h a.world w := by
  cases plain with
  | begin | halt => exact .still
  | rest => exact .now .still

theorem Asked.consulted {q : Question F} {j : Judgement Verdict} {w : Noted W}
    (asked : Asked h.noting fr a id node q j w) :
    ∃ answer calls, Consulted h fr a.stance.progress.context id node a.world.1 answer calls w.1 ∧
      w.2 = a.world.2 ++ calls ∧ (∀ deed ∈ calls, deed.IsCall) ∧ j = reacted id a.stance node answer := by
  have noted := Question.ask_noted h q a.world.1 a.world.2
  have calls := Question.ask_calls h q a.world.1
  have judged := asked.judged
  have leaves := asked.leaves
  rw [noted] at judged leaves
  subst leaves
  exact ⟨_, _, ⟨asked.stands.2, a.stance, q, rfl, asked.asks, rfl⟩, rfl, calls, judged.symm⟩

/-- A progress that is written without a question, whether the store takes it or not. -/
theorem Unasked.accounted {p : Progress} {w w' : Noted W} {result : Except Fault Unit}
    (accounted : AccountedAt h fr start begun a) (plain : Unasked h.noting fr a p w)
    (wrote : (h.noting.checkpoint p).run w = (result, w')) :
    Accounted h fr start begun w'.2 p.context w'.1 := by
  obtain ⟨same, unnoted⟩ := plain.keeps
  rw [(noted_of_write wrote).2, unnoted]
  exact (accounted.idled plain.idles.world).unasked result same

/-- A row that is due after an answer, whether the store takes it or not. -/
theorem Due.accounted {row : Transition} {s : Stance} {w w' : Noted W} {result : Except Fault Unit}
    (accounted : AccountedAt h fr start begun a) (due : Due h.noting fr a row s w)
    (wrote : (h.noting.record row s.progress).run w = (result, w')) :
    Accounted h fr start begun w'.2 s.progress.context w'.1 := by
  obtain ⟨id, node, q, j, verdict, now, world, asked, decided, -, lands, idles⟩ := due.asked
  obtain ⟨answer, calls, consulted, noted, -, rfl⟩ := asked.consulted
  have landing := landing_of_landed lands
  obtain rfl : row.fromId = id := landing.source
  rw [(noted_of_write wrote).2, idles.log, noted]
  exact .visited accounted result consulted idles.world (landing.context.trans (reacted_context decided))

theorem Pass.accounted (accounted : AccountedAt h fr start begun a) (pass : Pass h.noting fr a b) :
    AccountedAt h fr start begun b := by
  cases pass with
  | unasked plain wrote => exact plain.accounted accounted wrote
  | visit due wrote waits =>
      have written := (due.accounted accounted wrote).idled waits.world
      rw [← waits.log] at written
      exact written

theorem Accounted.provenance {log : List (Deed W)} {context : Fields} {w : W}
    (accounted : Accounted h fr start begun log context w) (result : Except Fault Finish) :
    Provenance h fr start begun log result :=
  ⟨log, context, w, [], [], by simp, accounted, fun _ inside => absurd inside List.not_mem_nil, .inl rfl,
    fun _ _ => ⟨rfl, rfl⟩⟩

/-- Where a turn is broken off, at most a question was asked in vain. -/
theorem Cut.accounted {fault : Fault} (accounted : AccountedAt h fr start begun a)
    (cut : Cut h.noting fr a fault b) :
    ∃ written context w calls, b.world.2 = written ++ calls ∧
      Accounted h fr start begun written context w ∧ ∀ deed ∈ calls, deed.IsCall := by
  have whole : ∀ {log : List (Deed W)} {context : Fields} {w : W},
      Accounted h fr start begun log context w → ∃ written context w calls, log = written ++ calls ∧
        Accounted h fr start begun written context w ∧ ∀ deed ∈ calls, deed.IsCall := fun accounted =>
    ⟨_, _, _, [], by simp, accounted, fun _ inside => absurd inside List.not_mem_nil⟩
  cases cut with
  | stuck | overlong => exact whole accounted
  | judged asked | unrouted asked =>
      obtain ⟨answer, calls, -, noted, said, -⟩ := asked.consulted
      exact ⟨_, _, _, calls, noted, accounted, said⟩
  | unwritten plain broke => exact whole (plain.accounted accounted broke)
  | unrecorded due broke => exact whole (due.accounted accounted broke)

/-- Where a turn was broken off for good, the task is given up with one more write. -/
theorem Cut.provenance {cause : FatalCause} {taskId : Option String} {result : Except Fault Finish}
    {refused : Except Fault Unit} {w : Noted W} (accounted : AccountedAt h fr start begun a)
    (cut : Cut h.noting fr a (.fatal cause taskId) b)
    (wrote : (h.noting.checkpoint (Progress.failedWith b.stance.progress cause.message)).run b.world =
      (refused, w))
    (told : (∃ named, result = .error (.fatal cause (some named))) ∨
      ∃ fault, refused = .error fault ∧ result = .error fault) :
    Provenance h fr start begun w.2 result := by
  obtain ⟨written, context, world, calls, same, accounted, said⟩ := cut.accounted accounted
  refine ⟨written, context, world, calls, _, ?_, accounted, said, .inr ⟨_, rfl, cause,
    Progress.failedWith b.stance.progress cause.message, b.world.1, refused, w.1, rfl, rfl, rfl, told⟩, ?_⟩
  · rw [(noted_of_write wrote).2, same]
  · rintro finish rfl
    rcases told with ⟨named, ended⟩ | ⟨fault, -, ended⟩ <;> cases ended

/-- However an advance ends. -/
theorem Ended.provenance (accounted : AccountedAt h fr start begun a) {result : Except Fault Finish}
    {p : Progress} {w : Noted W} (ended : Ended h.noting fr a result p w) :
    Provenance h fr start begun w.2 result := by
  have reached : ∀ {b : Spot (Noted W)}, Reaches h.noting fr a b → AccountedAt h fr start begun b :=
    fun reaches => reaches.keeps (P := AccountedAt h fr start begun) Pass.accounted accounted
  cases ended with
  | reports reaches finish => exact (reached reaches).provenance _
  | gaveUp named passes cut wrote =>
      exact cut.provenance (reached (.alive passes)) wrote (.inl ⟨named, rfl⟩)
  | @unkept _ _ _ _ _ fault passes cut broke =>
      exact cut.provenance (reached (.alive passes)) broke (.inr ⟨fault, rfl, rfl⟩)
  | escaped passes cut calm =>
      obtain ⟨written, context, world, calls, same, accounted, said⟩ := cut.accounted (reached (.alive passes))
      exact ⟨written, context, world, calls, [], by simp [same], accounted, said, .inl rfl, nofun⟩

theorem advance_provenance (h : Host F W) {g : Graph F} (whole : g.WholeLimits) (budget : Budget)
    (task : TaskInfo) (runId : String) (tickId feedback : Option String) (p : Progress) (w : W) :
    Provenance h ⟨g, task, runId, (tickIdFor h tickId w).1⟩ (Fields.overlay g.context p.context)
      (tickIdFor h tickId w).2 (advance h.noting budget g task runId tickId feedback p (w, [])).2.2
      (advance h.noting budget g task runId tickId feedback p (w, [])).1.1 := by
  cases active : p.lifecycle.isTerminal with
  | true =>
      rw [advance_ended _ _ _ _ _ _ _ _ active]
      exact Accounted.start.provenance _
  | false =>
      have ended := advance_ends h.noting whole budget task runId tickId feedback p (w, []) active
      have named : tickIdFor h tickId w = _ := tickIdFor_sees h.noting_projects tickId (w, [])
      have unnoted := tickIdFor_log (h := h) tickId (w, [])
      rw [named]
      refine ended.provenance ?_
      simp only [AccountedAt, unnoted]
      exact .start

end Engine

/-! ## Contexts as callables leave them -/

/-- A host with other callables. -/
def Host.answering (h : Host F W) (b : Behaviour F W) : Host F W := { h with behaviour := b }

/-- A callable writes the prompt of a question that a graph asks, and this reads its reply. -/
def Graph.Prompts (g : Graph F) (f : F) (scope : Scope) (reader : Option (ReplyReader F)) : Prop :=
  ∃ id node, g.state? id = some node ∧ node.handler? = some (.ask (.code f scope) reader)

/-- Two behaviours that differ in nothing but how callables leave the contexts that they are shown. A prompt
of a graph leaves the same reply to be read, and the same context to a parser of it. -/
structure Graph.Indistinct (g : Graph F) (b b' : Behaviour F W) : Prop where
  value : ∀ f call w, (b f call w).1.value = (b' f call w).1.value
  world : ∀ f call w, (b f call w).2 = (b' f call w).2
  reply : ∀ f scope reader, g.Prompts f scope reader → ∀ (input : HandlerInput) w,
    readReply input.feedback (b f ((Call.handler input).inScope scope) w).1.context =
      readReply input.feedback (b' f ((Call.handler input).inScope scope) w).1.context
  parsed : ∀ f scope reader, g.Prompts f scope reader → reader.isSome → ∀ (input : HandlerInput) w,
    (b f ((Call.handler input).inScope scope) w).1.context =
      (b' f ((Call.handler input).inScope scope) w).1.context

section Contexts

variable {g : Graph F} {b b' : Behaviour F W}

/-- A call of whose answer nothing but the value is used. -/
theorem Graph.Indistinct.call {α : Type} {use : Answer → α} (same : g.Indistinct b b') (f : F) (call : Call)
    (only : ∀ a a' : Answer, a.value = a'.value → use a = use a') :
    (b f call >>= fun answer => pure (use answer)) = b' f call >>= fun answer => pure (use answer) := by
  funext w
  exact Prod.ext (only _ _ (same.value f call w)) (same.world f call w)

theorem Graph.Indistinct.slot {α : Type} {use : Answer → α} (same : g.Indistinct b b') (slot : Slot F)
    (call : Call) (only : ∀ a a' : Answer, a.value = a'.value → use a = use a') :
    (slot.call b call >>= fun answer => pure (use answer)) =
      slot.call b' call >>= fun answer => pure (use answer) := by
  cases slot with
  | code f scope => exact same.call f _ only
  | absent => rfl
  | named name => rfl
  | inert v => rfl

theorem Graph.Indistinct.parser (same : g.Indistinct b b') (input : HandlerInput) (reply : String)
    (reader : Option (ReplyReader F)) : parseReply b input reply reader = parseReply b' input reply reader := by
  match reader with
  | none => rfl
  | some (.report parse) => exact same.slot parse _ fun a a' alike => by rw [alike]
  | some (.changes parse) => exact same.slot parse _ fun a a' alike => by rw [alike]

/-- A question sees what its prompt did to the context in the reply that it reads, and where it has it
parsed. -/
theorem Graph.Indistinct.ask (same : g.Indistinct b b') {prompt : Slot F} {reader : Option (ReplyReader F)}
    (prompts : ∀ f scope, prompt = .code f scope → g.Prompts f scope reader) (input : HandlerInput) :
    runAsk b prompt reader input = runAsk b' prompt reader input := by
  have parsers : ∀ input reply, parseReply b input reply reader = parseReply b' input reply reader :=
    fun input reply => same.parser input reply reader
  cases prompt with
  | code f scope =>
      funext w
      have asks := prompts f scope rfl
      have value := same.value f ((Call.handler input).inScope scope) w
      have world := same.world f ((Call.handler input).inScope scope) w
      have reads := same.reply f scope reader asks input w
      have parsed := fun here => same.parsed f scope reader asks here input w
      simp only [runAsk, renderPrompt, bind, StateT.bind]
      generalize b f ((Call.handler input).inScope scope) w = left at value world reads parsed ⊢
      generalize b' f ((Call.handler input).inScope scope) w = right at value world reads parsed ⊢
      obtain ⟨⟨shown, context⟩, w'⟩ := left
      obtain ⟨⟨shown', context'⟩, w''⟩ := right
      simp only at value world reads parsed ⊢
      subst value world
      cases shown with
      | error e => rfl
      | ok words =>
          simp only [reads]
          cases readReply input.feedback context' with
          | none => rfl
          | some reply =>
              cases reader with
              | none => rfl
              | some r =>
                  rw [parsed rfl]
                  simp only [parsers]
  | absent => simp only [runAsk, renderPrompt, parsers]
  | named name => simp only [runAsk, renderPrompt, parsers]
  | inert v => simp only [runAsk, renderPrompt, parsers]

/-- A handler reports the same, however its callables leave the contexts that they are shown. -/
theorem Graph.Indistinct.handler (same : g.Indistinct b b') {handler : Handler F}
    (prompts : ∀ f scope reader, handler = .ask (.code f scope) reader → g.Prompts f scope reader)
    (input : HandlerInput) : handler.run b input = handler.run b' input := by
  cases handler with
  | slot ref => exact same.slot ref _ fun a a' alike => alike
  | ask prompt reader => exact same.ask (fun f scope code => prompts f scope reader (by rw [code])) input
  | publish render => exact same.slot render _ fun a a' alike => by rw [alike]
  | merge run => exact same.call run _ fun a a' alike => by rw [alike]
  | decide select branches hasOtherwise => exact same.call select _ fun a a' alike => by rw [alike]

theorem Graph.Indistinct.selector (same : g.Indistinct b b') (selector : Selector F) (input : SelectorInput) :
    selector.run b input = selector.run b' input := by
  cases selector with
  | slot ref => exact same.slot ref _ fun a a' alike => alike
  | route select known => exact same.slot select _ fun a a' alike => by rw [alike]

namespace Engine

variable {fr : Frame F} {id : String}

/-- Only a question that is written in its state has a prompt. -/
theorem resolveHandler_ask {g : Graph F} {handler : Handler F} {prompt : Slot F}
    {reader : Option (ReplyReader F)} (resolved : resolveHandler g id handler = .ok (.ask prompt reader)) :
    handler = .ask prompt reader := by
  unfold resolveHandler at resolved
  repeat' split at resolved
  all_goals cases resolved
  rfl

/-- A handler that a visit resolved reports the same. -/
theorem resolved_same (same : fr.graph.Indistinct b b') {node : State F} {handler callable : Handler F}
    (found : fr.graph.state? id = some node) (handled : node.handler? = some handler)
    (resolved : resolveHandler fr.graph id handler = .ok callable) : callable.run b = callable.run b' := by
  funext input
  refine same.handler (fun f scope reader asks => ?_) input
  subst asks
  exact ⟨id, node, found, handled.trans (congrArg some (resolveHandler_ask resolved))⟩

open Tickwork.Action

/-- After a check it is enough to look at what passed it. -/
theorem orFail_congr {α β : Type} {r : Except FatalCause α} {next next' : α → Action W β}
    (alike : ∀ a, r = .ok a → next a = next' a) : orFail r >>= next = orFail r >>= next' := by
  funext live
  cases r with
  | error cause => rfl
  | ok a =>
      have left := exec_bind_of_ok (exec_orFail_ok a live) next
      have right := exec_bind_of_ok (exec_orFail_ok a live) next'
      exact left.trans ((congrArg (fun act => exec act live) (alike a rfl)).trans right.symm)

/-- Where only the value of an answer counts, operations that give the same values are the same. -/
theorem onWorld_congr {β : Type} {act act' : StateM W Answer} {next : Answer → Action W β}
    (alike : (act >>= fun answer => pure answer.value) = act' >>= fun answer => pure answer.value)
    (only : ∀ a a' : Answer, a.value = a'.value → next a = next a') :
    onWorld act >>= next = onWorld act' >>= next := by
  funext live
  obtain ⟨value, world⟩ := Prod.ext_iff.mp (congrFun alike live.world)
  have world : (act live.world).2 = (act' live.world).2 := world
  have left := exec_bind_of_ok (exec_onWorld act live) next
  have right := exec_bind_of_ok (exec_onWorld act' live) next
  rw [only _ _ value, world] at left
  exact left.trans right.symm

variable {h : Host F W}

theorem attemptOnce_answering {callable : Handler F} (reports : callable.run h.behaviour = callable.run b')
    (attempt : Int) :
    attemptOnce h fr id callable attempt = attemptOnce (h.answering b') fr id callable attempt := by
  unfold attemptOnce
  simp only [reports]
  rfl

theorem tryAttempts_answering {callable : Handler F} (reports : callable.run h.behaviour = callable.run b')
    (retry : Option RetryPolicy) (limit : Value) (room : Nat) (attempt : Int) :
    tryAttempts h fr id callable retry limit room attempt =
      tryAttempts (h.answering b') fr id callable retry limit room attempt := by
  induction room generalizing attempt with
  | zero =>
      unfold tryAttempts
      rw [attemptOnce_answering reports]
  | succ room ih =>
      unfold tryAttempts
      simp only [attemptOnce_answering reports, ih]
      rfl

/-- A visit goes the same, however callables leave the contexts that they are shown. -/
theorem runState_answering (same : fr.graph.Indistinct h.behaviour b') {node : State F}
    (found : fr.graph.state? id = some node) :
    runState h fr id node = runState (h.answering b') fr id node := by
  cases node with
  | action handler routes retry =>
      refine orFail_congr fun callable resolved => ?_
      have reports := resolved_same same found rfl resolved
      simp only [tryAttempts_answering reports]
  | orchestrate routes handler selector =>
      simp only [runState, runOrchestrate]
      by_cases has : Graph.hasHandler handler = true
      · rw [if_pos has, if_pos has]
        refine orFail_congr fun callable resolved => ?_
        simp only [resolved_same same found (if_pos has) resolved]
        rfl
      · rw [if_neg has, if_neg has]
        have reports : ∀ callable : Selector F, callable.run h.behaviour = callable.run b' :=
          fun callable => funext fun input => same.selector callable input
        unfold runSelector
        simp only [reports]
        rfl
  | loop body bound routes stop =>
      have passes : ∀ iteration, guardPasses h fr id stop iteration =
          guardPasses (h.answering b') fr id stop iteration := by
        intro iteration
        refine orFail_congr fun found _ => ?_
        cases found with
        | none => rfl
        | some guard =>
            exact congrArg (Action.progress >>= ·) (funext fun p =>
              onWorld_congr (same.slot guard _ fun _ _ alike => alike) fun a a' alike => by rw [alike])
      simp only [runState, runLoop, passes]
  | feedback resume => rfl
  | terminal status message => rfl
  | unsupported v => rfl

theorem takeTransition_answering (same : fr.graph.Indistinct h.behaviour b') {node : State F}
    (found : fr.graph.state? id = some node) (budget : Budget) :
    takeTransition h fr budget id node = takeTransition (h.answering b') fr budget id node := by
  unfold takeTransition
  rw [runState_answering same found]
  rfl

theorem run_answering (fr : Frame F) (same : fr.graph.Indistinct h.behaviour b') (budget : Budget) (left : Nat)
    (previous : Option String) (live : Live W) :
    (run h fr budget left previous).exec live = (run (h.answering b') fr budget left previous).exec live := by
  induction left generalizing previous live with
  | zero =>
      unfold run
      rfl
  | succ left ih =>
      unfold run
      have arrives : arrive (h.answering b') fr previous = arrive h fr previous := rfl
      rw [arrives]
      rcases arrive_goes h fr previous live with ⟨id, node, stands, -, came⟩ | ⟨r, live', came, -⟩
      · rw [exec_bind_of_ok came, exec_bind_of_ok came]
        simp only
        rw [takeTransition_answering same stands.2, exec_bind, exec_bind]
        generalize (takeTransition (h.answering b') fr budget id node).exec live = took
        obtain ⟨result, after⟩ := took
        match result with
        | .error fault => rfl
        | .ok (some finish) => rfl
        | .ok none => exact ih (some id) after
      · rw [exec_bind, exec_bind, came]
        cases r <;> rfl

theorem advance_answering {g : Graph F} (same : g.Indistinct h.behaviour b') (budget : Budget)
    (task : TaskInfo) (runId : String) (tickId feedback : Option String) (p : Progress) (w : W) :
    advance (h.answering b') budget g task runId tickId feedback p w =
      advance h budget g task runId tickId feedback p w := by
  cases active : p.lifecycle.isTerminal with
  | true => rw [advance_ended _ _ _ _ _ _ _ _ active, advance_ended _ _ _ _ _ _ _ _ active]
  | false =>
      rw [advance_active _ _ _ _ _ _ _ _ _ active, advance_active _ _ _ _ _ _ _ _ _ active]
      have named : tickIdFor (h.answering b') tickId w = tickIdFor h tickId w := rfl
      simp only [named, orPersistFailure, exec_tryCatch]
      rw [run_answering ⟨g, task, runId, (tickIdFor h tickId w).1⟩ same]
      rfl

end Engine

end Contexts

/-- Work that is tried twice, and a choice that names its event in its data. -/
def retriedWork : Graph Unit where
  id := "demo"
  start := "work"
  context := [(.text "plan", .str "a")]
  states :=
    [("work", .action (.slot (.code () .whole)) ⟨some "choose", some "finish", none⟩
        (some ⟨.int 1, .null, none⟩)),
      ("choose", .orchestrate [("on", some "finish")] (.slot (.code () .whole)) (.slot .absent)),
      ("finish", .terminal .done none)]
  guards := []
  handlers := []

/-- What is reported for a call, by the state and the attempt that it is made for. -/
def retriedReport : Call → Value
  | .handler input =>
    if input.stateId = "choose" then
      .result (.str "done") (.dict [(.text "event", .str "on"), (.text "plan", .str "b")]) .null .null
    else if input.attempt = 1 then .result (.str "failed") (.dict [(.text "log", .str "late")]) .null .null
    else .result (.str "done") (.dict [(.text "made", .bool true)]) .null .null
  | _ => .null

/-- A host whose callables leave the contexts that they are shown to `leave`. -/
def leavingHost (leave : Fields → Fields) : Host Unit Unit where
  behaviour _ call := pure ⟨.ok (retriedReport call), leave call.context⟩
  now := pure ⟨0⟩
  freshEventId := pure "row"
  freshTickId := pure "tick"
  sleep _ := pure ()
  checkpoint _ := pure ()
  record _ _ := pure ()

/-- The context of a write. -/
def Deed.context? : Deed W → Option Fields
  | .wrote _ p _ _ _ => some p.context
  | _ => none

/-- An advance over that work. -/
def retriedRun (h : Host Unit W) (w : W) : (Except Fault Finish × Progress) × W :=
  Engine.advance h (.clamped 25 200) retriedWork ⟨"t1", none, none, none⟩ "run" none none
    (.newTask "t1" "demo" []) w

end Tickwork
