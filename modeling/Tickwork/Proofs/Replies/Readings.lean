import Tickwork.Proofs.Replies.Laid
import Tickwork.Proofs.Replies.Questions
import Tickwork.Proofs.Sessions

/-!
# A reply is read once

A reply waits in the tick it was handed to and under a key of the context, and a parser may be called
for it wherever a question is reached. Main statement: between the delivery of a reply and a call of a
parser for it no other call of a parser came to an end. So a reply that a parser has read is not read
again, and it is read more than once only where the parsers before raised an error.
-/

set_option autoImplicit false

namespace Tickwork

variable {F W : Type}

namespace Engine

variable {h : Host F W} {fr : Frame F} {s : Stance} {log : List (Deed W)}

/-! ## Turns -/

/-- What follows from an answer for the replies that wait: once the data of the verdict is laid over the
context, they are fresh. -/
def Settled (j : Judgement Verdict) (log : List (Deed W)) : Prop :=
  ∀ verdict, j.result = .ok verdict →
    Awaits ⟨Progress.merge j.after.progress verdict.data, j.after.feedback⟩ log

/-- A report whose reply is used up, or that nothing but fresh replies come with, is laid over the
context. What is laid may leave out data that is no reply. -/
theorem Told.laid {id : String} {o : Outcome} {v : Value} (told : Told s log (.ok v))
    (read : Outcome.read id v = .ok o) {p : Progress} (contexts : p.context = s.progress.context)
    {data : Fields} (within : ∀ reply, data.Bears reply → (o.data.getD []).Bears reply)
    (same : Fields.get? replyKey data = Fields.get? replyKey (o.data.getD [])) :
    Awaits ⟨Progress.merge p (some data), (s.observe o).feedback⟩ log := by
  generalize answered : (Except.ok v : Except Raised Value) = answer at told
  cases told with
  | gaveUp cause taskId => cases answered
  | kept awaits brings =>
      refine ⟨fun text reply here spoken => ?_, fun reply kept => ?_⟩
      · simp only [Stance.observe] at here
        split at here
        · cases here
        · exact awaits.handed text reply here spoken
      · simp only [Progress.merge, contexts] at kept
        rcases keptReply_overlay kept with bears | ⟨-, before⟩
        · have bears := within reply bears
          cases has : o.data with
          | none =>
              rw [has] at bears
              obtain ⟨text, inside, -⟩ := bears
              exact absurd inside List.not_mem_nil
          | some data =>
              rw [has] at bears
              exact brings v id o data reply answered.symm read has bears
        · exact awaits.kept reply before
  | used uses =>
      cases answered
      obtain ⟨whole, has, there, fresh⟩ := uses id o read
      rw [has] at within same
      refine ⟨fun text reply here spoken => ?_, fun reply kept => ?_⟩
      · simp only [Stance.observe, has, Option.bind_some, there, if_true] at here
        cases here
      · rcases keptReply_overlay kept with bears | ⟨absent, -⟩
        · exact fresh reply (within reply bears)
        · have gone : Fields.get? replyKey whole = none := same.symm.trans absent
          rw [gone] at there
          cases there

theorem Told.awaits {kind : ErrorKind} {text : String}
    (told : Told s log (.error (.error kind text))) : Awaits s log := by
  cases told with
  | kept awaits brings => exact awaits

/-- What is laid over the context leaves only fresh replies there if the answer was told. -/
theorem Lays.awaits {id : String} {answer : Except Raised Value} {node : State F} {verdict : Verdict}
    {feedback : Option String} {p : Progress} (lays : Lays id s answer node verdict feedback p.context)
    (told : ∀ handler, node.handler? = some handler → Told s log answer)
    (unhandled : node.handler? = none → Awaits s log) : Awaits ⟨p, feedback⟩ log := by
  cases lays with
  | nothing plain replies contexts undone =>
      have awaits : Awaits s log := by
        cases handled : node.handler? with
        | none => exact unhandled handled
        | some handler =>
            obtain unasked | ⟨kind, text, rfl⟩ := plain
            · rw [handled] at unasked
              cases unasked
            · exact (told handler handled).awaits
      exact awaits.congr replies contexts
  | @report handler v o data handled answered read replies contexts same within done =>
      subst answered
      exact ((told handler handled).laid read rfl within same).congr replies contexts

/-- Where the answer to a handler's question was told, and fresh replies wait if there was none, the
replies are settled. -/
theorem settled_of_reacted {id : String} {answer : Except Raised Value} {node : State F}
    (told : ∀ handler, node.handler? = some handler → Told s log answer)
    (unhandled : node.handler? = none → Awaits s log) : Settled (reacted id s node answer) log :=
  fun _ decided => (reacted_lays decided).awaits told unhandled

theorem narrow_of_resolved {g : Graph F} {id : String} {handler callable : Handler F}
    (narrow : handler.Narrow) (resolved : resolveHandler g id handler = .ok callable) :
    callable.Narrow := by
  unfold resolveHandler at resolved
  repeat' split at resolved
  all_goals cases resolved
  · trivial
  · exact narrow

theorem narrow_of_handled {g : Graph F} {id : String} {node : State F} {handler : Handler F}
    (narrow : g.Narrow) (found : g.state? id = some node) (handled : node.handler? = some handler) :
    handler.Narrow := by
  have narrow' : node.Narrow := narrow _ (Graph.mem_of_state? found)
  cases node with
  | action handler' routes retry =>
      cases handled
      exact narrow'
  | orchestrate routes handler' selector =>
      unfold State.handler? at handled
      simp only at handled
      split at handled <;> cases handled
      exact narrow'
  | _ => cases handled

/-- After a question was asked, every reply that was read was fresh, and so are those that still wait once
the verdict is laid over the context. -/
theorem settled_of_asked (narrow : fr.graph.Narrow) {w : W} {left : Noted W} {id : String}
    {node : State F} {q : Question F} {j : Judgement Verdict}
    (awaits : Awaits s log) (once : ReadOnce log)
    (asked : Asked h.noting fr ⟨s, (w, log)⟩ id node q j left) :
    ReadOnce left.2 ∧ Settled j left.2 := by
  obtain ⟨w', log'⟩ := left
  obtain ⟨⟨-, found⟩, work, -, asks, rfl, leaves⟩ := asked
  obtain rfl : _ = log' := congrArg Prod.snd leaves
  simp only at found asks ⊢
  cases handled : node.handler? with
  | some handler =>
      obtain ⟨callable, attempt, resolved, rfl⟩ := question_of_handler handled asks
      have narrow' := narrow_of_resolved (narrow_of_handled narrow found handled) resolved
      have told := told_of_handler (h := h) awaits once narrow' (s.handlerInput fr id attempt) rfl rfl w
      refine ⟨told.1, settled_of_reacted (fun _ _ => told.2) fun unhandled => ?_⟩
      rw [handled] at unhandled
      cases unhandled
  | none =>
      -- A selector or a guard is asked, if anything is.
      have settled : ∀ {answer : Except Raised Value} {log : List (Deed W)}, Awaits s log →
          Settled (reacted id s node answer) log := fun awaits =>
        settled_of_reacted (fun _ other => by rw [handled] at other; cases other) fun _ => awaits
      cases node with
      | action handler routes retry => cases handled
      | orchestrate routes handler selector =>
          have bare : Graph.hasHandler handler = false := by
            cases has : Graph.hasHandler handler with
            | false => rfl
            | true => cases (if_pos has).symm.trans handled
          simp only [question, bare, Bool.false_eq_true, if_false, bind, Except.bind] at asks
          by_cases selects : Graph.hasSelector selector = true
          · simp only [selects, if_true] at asks
            cases resolved : resolveSelector fr.graph id selector with
            | error cause =>
                rw [resolved] at asks
                cases asks
            | ok callable =>
                rw [resolved] at asks
                cases asks
                have told := told_of_selector (h := h) awaits once callable (s.selectorInput fr id) w
                exact ⟨told.1, settled told.2⟩
          · simp only [selects, Bool.false_eq_true, if_false] at asks
            cases asks
      | loop body bound routes stop =>
          simp only [question, bind, Except.bind] at asks
          cases resolved : resolveGuard fr.graph id stop with
          | error cause =>
              rw [resolved] at asks
              cases asks
          | ok found =>
              rw [resolved] at asks
              cases found with
              | none =>
                  cases asks
                  exact ⟨once, settled awaits⟩
              | some guard =>
                  cases asks
                  have told := told_of_call (h := h) awaits once guard (.guard (s.guardInput fr id)) rfl w
                  exact ⟨told.1, settled told.2⟩
      | unsupported v => cases asks
      | feedback resume => cases asks
      | terminal status message => cases asks

/-! ## Passes -/

/-- What holds between two writes: every reply that was read was fresh, and so is every reply that waits;
the context of the task lies over the defaults of the graph. -/
structure Heeds (g : Graph F) (a : Spot (Noted W)) : Prop where
  once : ReadOnce a.world.2
  awaits : Awaits a.stance a.world.2
  based : Fields.Over g.context a.stance.progress.context

variable {a b : Spot (Noted W)}

theorem ReadOnce.after_write {row : Option Transition} {p : Progress}
    {write : ExceptT Fault (StateM W) Unit} {r : Except Fault Unit} {w w' : Noted W}
    (once : ReadOnce w.2) (wrote : (notedWrite row p write).run w = (r, w')) : ReadOnce w'.2 := by
  rw [(noted_of_write wrote).2]
  exact once.snoc nofun

theorem Awaits.after_write {row : Option Transition} {p : Progress}
    {write : ExceptT Fault (StateM W) Unit} {r : Except Fault Unit} {w w' : Noted W}
    (awaits : Awaits s w.2) (wrote : (notedWrite row p write).run w = (r, w')) : Awaits s w'.2 := by
  rw [(noted_of_write wrote).2]
  exact awaits.snoc id

theorem Landing.context {g : Graph F} {id : String} {node : State F} {now : Instant} {p q : Progress}
    {verdict : Verdict} {shape : Shape} (lands : Landing g id node now p verdict shape q) :
    q.context = (Progress.merge p verdict.data).context := by
  cases lands with
  | again reason attempt => rfl
  | left leads found arrives => exact arrives.context

/-- A row that is due after an answer: every reply that was read was fresh, and so is every reply that
waits once the row is written. -/
theorem Due.heeds (narrow : fr.graph.Narrow) (heeds : Heeds fr.graph a) {row : Transition} {s : Stance}
    {w : Noted W} (due : Due h.noting fr a row s w) : Heeds fr.graph ⟨s, w⟩ := by
  obtain ⟨id, node, q, j, verdict, now, ⟨w₁, log₁⟩, asked, decided, replies, lands, idles⟩ := due.asked
  obtain ⟨once, settled⟩ := settled_of_asked narrow heeds.awaits heeds.once asked
  have landing := landing_of_landed lands
  refine ⟨idles.log ▸ once, idles.log ▸ ?_, landing.over ?_⟩
  · exact (settled verdict decided).congr replies landing.context
  · rw [← asked.judged]
    exact reacted_over heeds.based

theorem Pass.heeds (narrow : fr.graph.Narrow) (heeds : Heeds fr.graph a)
    (pass : Pass h.noting fr a b) : Heeds fr.graph b := by
  cases pass with
  | unasked plain wrote =>
      obtain ⟨same, unnoted⟩ := plain.keeps
      exact ⟨ReadOnce.after_write (unnoted ▸ heeds.once) wrote,
        Awaits.after_write (unnoted ▸ heeds.awaits.congr rfl same) wrote, same ▸ heeds.based⟩
  | visit due wrote waits =>
      have here := due.heeds narrow heeds
      exact ⟨waits.log ▸ ReadOnce.after_write here.once wrote,
        waits.log ▸ Awaits.after_write here.awaits wrote, here.based⟩

/-- However a turn is broken off, every reply that was read was fresh. -/
theorem Cut.once (narrow : fr.graph.Narrow) (heeds : Heeds fr.graph a) {fault : Fault}
    (cut : Cut h.noting fr a fault b) : ReadOnce b.world.2 := by
  cases cut with
  | stuck cause => exact heeds.once
  | overlong calm => exact heeds.once
  | judged asked refused => exact (settled_of_asked narrow heeds.awaits heeds.once asked).1
  | unrouted asked decided => exact (settled_of_asked narrow heeds.awaits heeds.once asked).1
  | unwritten plain broke =>
      exact ReadOnce.after_write (plain.keeps.2 ▸ heeds.once) broke
  | unrecorded due broke => exact ReadOnce.after_write (due.heeds narrow heeds).once broke

/-- However an advance ends, every reply that was read was fresh. If it reports, so is every reply that
waits; if the task was given up, it has ended. -/
theorem Ended.heeds (narrow : fr.graph.Narrow) (heeds : Heeds fr.graph a)
    {r : Except Fault Finish} {p : Progress} {w : Noted W} (ended : Ended h.noting fr a r p w) :
    ReadOnce w.2 ∧ ((∀ fault, r = .error fault → fault.isFatal = true) →
      p.lifecycle.isTerminal = true ∨
        Awaits ⟨p, none⟩ w.2 ∧ Fields.Over fr.graph.context p.context) := by
  have reached : ∀ {b : Spot (Noted W)}, Reaches h.noting fr a b → Heeds fr.graph b :=
    fun reaches => reaches.keeps (P := Heeds fr.graph) (Pass.heeds narrow) heeds
  cases ended with
  | reports reaches finish =>
      have heeds := reached reaches
      exact ⟨heeds.once, fun _ => .inr ⟨⟨nofun, heeds.awaits.kept⟩, heeds.based⟩⟩
  | gaveUp named passes cut wrote =>
      exact ⟨ReadOnce.after_write (cut.once narrow (reached (.alive passes))) wrote, fun _ => .inl rfl⟩
  | unkept passes cut broke =>
      exact ⟨ReadOnce.after_write (cut.once narrow (reached (.alive passes))) broke, fun _ => .inl rfl⟩
  | escaped passes cut calm =>
      refine ⟨cut.once narrow (reached (.alive passes)), fun closed => ?_⟩
      have fatal := closed _ rfl
      rw [calm] at fatal
      cases fatal

end Engine

/-! ## Exchanges -/

/-- A task of a graph that is advanced again and again and given replies: what was done so far, and where
the task stands. A reply is handed to an advance, which takes it only from a paused task, or it is kept
for a paused task. What happens to the rest of the world in between is left open. -/
inductive Exchange (h : Host F W) (g : Graph F) : List (Deed W) → Progress → Prop
  | new (taskId workflowId : String) (context : Fields) :
      Exchange h g ((keptText (Fields.overlay g.context context)).toList.map .given)
        (.newTask taskId workflowId context)
  | advance {log log' : List (Deed W)} {p q : Progress} {w w' : W} {result : Except Fault Finish}
      (before : Exchange h g log p) (budget : Budget) (task : TaskInfo) (runId : String)
      (tickId feedback : Option String)
      (advanced : Engine.advance h.noting budget g task runId tickId feedback p
        (w, log ++ (Engine.acceptedReply p feedback).toList.map .given) = ((result, q), (w', log')))
      (closed : ∀ fault, result = .error fault → fault.isFatal = true) :
      Exchange h g log' q
  | reply {log : List (Deed W)} {p : Progress} (before : Exchange h g log p)
      (paused : p.lifecycle = .feedback) (text : String) :
      Exchange h g (log ++ [.given text]) (p.replied text)

namespace Exchange

open Engine

variable {h : Host F W} {g : Graph F} {log : List (Deed W)} {p : Progress}

/-- What an exchange keeps. -/
structure Kept (g : Graph F) (log : List (Deed W)) (p : Progress) : Prop where
  once : ReadOnce log
  awaits : p.lifecycle.isTerminal = false → Awaits ⟨prepare g p, none⟩ log
  based : p.lifecycle = .feedback → Fields.Over g.context p.context

/-- The tick that an advance starts with heeds the replies, if the task that it prepares does. -/
theorem heeds_start (distinct : g.context.Distinct) (kept : Kept g log p)
    (active : p.lifecycle.isTerminal = false) (feedback : Option String) {world : Noted W}
    (noted : world.2 = log ++ (acceptedReply p feedback).toList.map .given) :
    Heeds g ⟨⟨prepare g p, acceptedReply p feedback⟩, world⟩ := by
  refine ⟨noted ▸ kept.once.given _, ?_, prepare_over distinct p⟩
  rw [noted]
  cases handed : acceptedReply p feedback with
  | none => simpa using (kept.awaits active).congr rfl rfl
  | some text =>
      refine ⟨fun text' reply here spoken => ?_, fun reply here => ?_⟩
      · cases here
        exact .of_delivery spoken
      · exact ((kept.awaits active).snoc id).kept reply here

theorem kept_of_advance (distinct : g.context.Distinct) (valid : g.violations = [])
    (narrow : g.Narrow) (kept : Kept g log p) (budget : Budget) (task : TaskInfo) (runId : String)
    (tickId feedback : Option String) {w w' : W} {log' : List (Deed W)}
    {result : Except Fault Finish} {q : Progress}
    (advanced : Engine.advance h.noting budget g task runId tickId feedback p
      (w, log ++ (acceptedReply p feedback).toList.map .given) = ((result, q), (w', log'))) :
    ReadOnce log' ∧ ((∀ fault, result = .error fault → fault.isFatal = true) → Kept g log' q) := by
  cases active : p.lifecycle.isTerminal with
  | true =>
      have none' : acceptedReply p feedback = none := by
        unfold acceptedReply
        rw [if_neg]
        intro paused
        rw [paused] at active
        cases active
      rw [none', advance_ended _ _ _ _ _ _ _ _ active] at advanced
      cases advanced
      simp only [Option.toList_none, List.map_nil, List.append_nil]
      exact ⟨kept.once, fun _ => kept⟩
  | false =>
      have ended := advance_ends h.noting (Graph.fit_of_valid valid).wholeLimits budget task runId
        tickId feedback p (w, log ++ (acceptedReply p feedback).toList.map .given) active
      rw [advanced] at ended
      have start := heeds_start distinct kept active feedback
        (tickIdFor_log (h := h) tickId (w, log ++ (acceptedReply p feedback).toList.map .given))
      obtain ⟨once, closes⟩ := ended.heeds narrow start
      refine ⟨once, fun closed => ⟨once, fun alive => ?_, fun paused => ?_⟩⟩
      · obtain ⟨awaits, based⟩ := (closes closed).resolve_left (by simp [alive])
        exact awaits.congr rfl based.overlay_self
      · exact ((closes closed).resolve_left (by simp [paused, Lifecycle.isTerminal])).2

theorem kept (distinct : g.context.Distinct) (valid : g.violations = []) (narrow : g.Narrow)
    (exchange : Exchange h g log p) : Kept g log p := by
  induction exchange with
  | new taskId workflowId context =>
      refine ⟨ReadOnce.nil.given _, fun _ => ⟨nofun, fun reply here => ?_⟩, nofun⟩
      obtain ⟨text, found, spoken⟩ := keptReply_eq_some.mp here
      have stored : keptText (Fields.overlay g.context context) = some text := by
        unfold keptText field
        have found' : Fields.get? replyKey (Fields.overlay g.context context) = some (.str text) :=
          found
        rw [found']
        rfl
      have brings : (Deed.given text : Deed W).Brings reply := spoken
      rw [stored]
      exact ⟨[], .given text, [], rfl, brings, fun _ inside => absurd inside List.not_mem_nil⟩
  | advance before budget task runId tickId feedback advanced closed ih =>
      exact (kept_of_advance distinct valid narrow ih budget task runId tickId feedback advanced).2
        closed
  | @reply log p before paused text ih =>
      have based := ih.based paused
      refine ⟨ih.once.given [text], fun _ => ⟨nofun, fun reply here => .of_delivery ?_⟩, nofun⟩
      have same : (prepare g (p.replied text)).context =
          Fields.put (.text replyKey) (.str text) p.context :=
        (based.put (.text replyKey) (.str text)).overlay_self
      obtain ⟨text', found, spoken⟩ := keptReply_eq_some.mp here
      rw [same, Fields.get?_put_self] at found
      cases found
      exact spoken

end Exchange

/-- Whatever callables do, an advance of a task that has been advanced and given replies before is, apart
from what is noted, the advance itself, and whenever a parser was called for a reply, that reply had been
delivered after the last call of a parser that came to an end. -/
theorem reply_read_once {g : Graph F} (valid : g.violations = []) (distinct : g.context.Distinct)
    (narrow : g.Narrow) (h : Host F W) {log log' : List (Deed W)} {p q : Progress}
    (exchange : Exchange h g log p) (budget : Budget) (task : TaskInfo) (runId : String)
    (tickId feedback : Option String) {w w' : W} {result : Except Fault Finish}
    (advanced : Engine.advance h.noting budget g task runId tickId feedback p
      (w, log ++ (Engine.acceptedReply p feedback).toList.map .given) = ((result, q), (w', log'))) :
    Engine.advance h budget g task runId tickId feedback p w = ((result, q), w') ∧
      ReadOnce log' := by
  refine ⟨?_, (Exchange.kept_of_advance distinct valid narrow
    (exchange.kept distinct valid narrow) budget task runId tickId feedback advanced).1⟩
  have same := Engine.advance_noting h budget g task runId tickId feedback p
    (w, log ++ (Engine.acceptedReply p feedback).toList.map .given)
  rw [advanced] at same
  exact same

/-! ## A parser that raises an error -/

/-- A graph that asks for a reply, and asks again where the parser fails. -/
def askAgain : Graph Unit where
  id := "demo"
  start := "confirm"
  context := []
  states :=
    [("confirm", .action (.ask (.named "Continue?") (some (.report (.code () .whole))))
        ⟨some "finish", some "confirm", some "wait"⟩ none),
      ("wait", .feedback "confirm"), ("finish", .terminal .done none)]
  guards := []
  handlers := []

/-- A host whose parser raises an error the first time that it is called. Its world counts the calls. -/
def stumblingHost : Host Unit Nat where
  behaviour _ call := fun calls =>
    (⟨if calls = 0 then .error (.error .runtime "bad") else .ok (plainReport "done"), call.context⟩,
      calls + 1)
  now := pure ⟨0⟩
  freshEventId := pure "row"
  freshTickId := pure "tick"
  sleep _ := pure ()
  checkpoint _ := pure ()
  record _ _ := pure ()

def askingAdvance : (Except Fault Finish × Progress) × Noted Nat :=
  Engine.advance stumblingHost.noting (.clamped 25 200) askAgain ⟨"t1", none, none, none⟩ "run" none
    none (.newTask "t1" "demo" []) (0, [])

def answeredAdvance : (Except Fault Finish × Progress) × Noted Nat :=
  Engine.advance stumblingHost.noting (.clamped 25 200) askAgain ⟨"t1", none, none, none⟩ "run" none
    (some "yes") askingAdvance.1.2
    (0, askingAdvance.2.2 ++ (Engine.acceptedReply askingAdvance.1.2 (some "yes")).toList.map .given)

/-- The reply that the parser stumbled over is read again: it had been delivered after the last call of
the parser that came to an end, since none had. -/
theorem reply_read_once_stumbling :
    ReadOnce answeredAdvance.2.2 ∧
      answeredAdvance.2.2.filterMap Deed.reads = ["yes", "yes"] := by
  have asked : Exchange stumblingHost askAgain askingAdvance.2.2 askingAdvance.1.2 :=
    .advance (.new "t1" "demo" []) (.clamped 25 200) ⟨"t1", none, none, none⟩ "run" none none
      (show _ = ((askingAdvance.1.1, askingAdvance.1.2), askingAdvance.2) from rfl)
      (fatal_of_isClosed (by decide +kernel))
  have narrow : askAgain.Narrow := by
    simp [Graph.Narrow, askAgain, State.Narrow, Handler.Narrow]
  have read := reply_read_once (g := askAgain) (by decide) .nil narrow stumblingHost asked
    (.clamped 25 200) ⟨"t1", none, none, none⟩ "run" none (some "yes")
    (show _ = ((answeredAdvance.1.1, answeredAdvance.1.2), answeredAdvance.2) from rfl)
  exact ⟨read.2, by decide +kernel⟩

end Tickwork
