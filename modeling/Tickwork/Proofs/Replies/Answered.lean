import Tickwork.Proofs.Documents
import Tickwork.Proofs.Edges
import Tickwork.Proofs.Replies.Readings

/-!
# A question is done only for a reply

A reply waits in the tick that it was handed to, or in the context of its task. Where no callable reports
anything under the reply key and no prompt leaves a reply behind, only a reply that was accepted can wait,
and a question that is done uses up whatever waits. Main statement: at no write does the ledger tell of more
questions that were done than replies were accepted.
-/

set_option autoImplicit false

namespace Tickwork

variable {F W : Type}

/-! ## Replies that wait -/

/-- How many replies come with a text: none if it is missing or blank. -/
def repliesIn (reply : Option String) : Nat := (reply.bind replyIn?).isSome.toNat

def repliesKept (context : Fields) : Nat := (keptReply context).isSome.toNat

/-- How many replies a question could read: the one that a tick was handed, and the one in a context. -/
def repliesWaiting (feedback : Option String) (context : Fields) : Nat :=
  repliesIn feedback + repliesKept context

/-- How many replies the next tick of a task finds in its context. -/
def Progress.replies (p : Progress) : Nat :=
  if p.lifecycle.isTerminal then 0 else repliesKept p.context

/-- How many replies a tick can still read. -/
def Stance.replies (s : Stance) : Nat :=
  if s.progress.lifecycle.isTerminal then 0 else repliesWaiting s.feedback s.progress.context

theorem Stance.replies_of_alive {s : Stance} (alive : s.progress.lifecycle.isTerminal = false) :
    s.replies = repliesWaiting s.feedback s.progress.context := by
  unfold replies
  rw [alive]
  rfl

theorem Stance.replies_le (s : Stance) : s.replies ≤ repliesWaiting s.feedback s.progress.context := by
  unfold replies
  split
  · exact Nat.zero_le _
  · exact Nat.le_refl _

theorem Progress.replies_le (p : Progress) : p.replies ≤ repliesKept p.context := by
  unfold replies
  split
  · exact Nat.zero_le _
  · exact Nat.le_refl _

theorem Stance.kept_le (s : Stance) : s.progress.replies ≤ s.replies := by
  unfold replies Progress.replies
  split
  · exact Nat.le_refl _
  · exact Nat.le_add_left _ _

theorem repliesKept_congr {context context' : Fields}
    (same : Fields.get? replyKey context = Fields.get? replyKey context') :
    repliesKept context = repliesKept context' := by
  unfold repliesKept keptReply
  rw [readReply_congr same]

theorem repliesKept_of_none {context : Fields} (absent : keptReply context = none) :
    repliesKept context = 0 := by
  unfold repliesKept
  rw [absent]
  rfl

theorem keptReply_silent {context : Fields} (silent : Fields.get? replyKey context = none) :
    keptReply context = none := by
  cases kept : keptReply context with
  | none => rfl
  | some reply =>
      obtain ⟨text, found, -⟩ := keptReply_eq_some.mp kept
      rw [silent] at found
      cases found

/-- A reply is read only if one waits, where the context that is shown has none but the one that is
kept. -/
theorem repliesWaiting_of_read {feedback : Option String} {context shown : Fields} {reply : String}
    (unprompted : keptReply context = none → keptReply shown = none)
    (reads : readReply feedback shown = some reply) : 0 < repliesWaiting feedback context := by
  unfold repliesWaiting
  rcases readReply_cases reads with ⟨text, rfl, spoken⟩ | kept
  · have handed : repliesIn (some text) = 1 := by simp [repliesIn, spoken]
    omega
  · cases before : keptReply context with
    | none =>
        rw [unprompted before] at kept
        cases kept
    | some earlier =>
        have there : repliesKept context = 1 := by simp [repliesKept, before]
        omega

/-- A mapping that bears a reply keeps it: no other entry is under the same key. -/
theorem keptReply_of_bears {context : Fields} (distinct : context.Distinct) {reply : String}
    (bears : context.Bears reply) : keptReply context = some reply := by
  obtain ⟨text, inside, spoken⟩ := bears
  refine keptReply_eq_some.mpr ⟨text, ?_, spoken⟩
  induction context with
  | nil => cases inside
  | cons head rest ih =>
      obtain ⟨apart, later⟩ := List.pairwise_cons.mp distinct
      rw [Fields.get?_cons]
      rcases List.mem_cons.mp inside with same | there
      · cases same
        exact if_pos rfl
      · rw [if_neg, ih later there]
        intro own
        have differs := apart _ there
        rw [own, Key.same_self] at differs
        cases differs

/-- A context laid over a base without a reply keeps the replies that it kept. -/
theorem repliesKept_overlay {base context : Fields} (silent : Fields.get? replyKey base = none)
    (distinct : context.Distinct) : repliesKept (Fields.overlay base context) ≤ repliesKept context := by
  cases kept : keptReply (Fields.overlay base context) with
  | none =>
      rw [repliesKept_of_none kept]
      exact Nat.zero_le _
  | some reply =>
      rcases keptReply_overlay kept with bears | ⟨-, before⟩
      · refine Nat.le_of_eq ?_
        unfold repliesKept
        rw [kept, keptReply_of_bears distinct bears]
      · rw [keptReply_silent silent] at before
        cases before

theorem repliesKept_put (text : String) (context : Fields) :
    repliesKept (Fields.put (.text replyKey) (.str text) context) = repliesIn (some text) := by
  have read : keptReply (Fields.put (.text replyKey) (.str text) context) = replyIn? text := by
    have stored : field replyKey (Fields.put (.text replyKey) (.str text) context) = .str text := by
      unfold field
      rw [Fields.get?_put_self]
      rfl
    have reduced : keptReply (Fields.put (.text replyKey) (.str text) context) =
        ((field replyKey (Fields.put (.text replyKey) (.str text) context)).asString?).bind replyIn? := rfl
    rw [reduced, stored]
    rfl
  unfold repliesKept repliesIn
  rw [read]
  rfl

/-! ## Questions that are done -/

/-- A state whose handler asks for a reply stands under an id. -/
def Graph.asksAt (g : Graph F) (id : String) : Bool := (g.state? id).any State.isAsk

/-- A handler that the states of a graph run when they are visited. -/
def Graph.Runs (g : Graph F) (id : String) (callable : Handler F) : Prop :=
  ∃ node handler, g.state? id = some node ∧ node.handler? = some handler ∧
    Engine.resolveHandler g id handler = .ok callable

def Item.isAsk : Item F → Bool
  | .primitive (.ask _ _ _ _) => true
  | _ => false

/-- A question is defined under an id. -/
def Definition.asksAt (d : Definition F) (id : String) : Bool :=
  d.items.any fun item => item.1 == id && item.2.isAsk

/-- How many rows tell that a state of some kind was left because it was done. -/
def doneAt (kind : String → Bool) (rows : List Transition) : Nat :=
  rows.countP fun row => row.event == "done" && kind row.fromId

theorem doneAt_append (kind : String → Bool) (first second : List Transition) :
    doneAt kind (first ++ second) = doneAt kind first + doneAt kind second :=
  List.countP_append

/-- What a definition asks, its compiled graph asks. -/
theorem Definition.asksAt_of_compile {d : Definition F} {g : Graph F} (compiled : d.compile = .ok g)
    {id : String} (asks : d.asksAt id = true) : g.asksAt id = true := by
  obtain ⟨⟨id', item⟩, inside, same⟩ := List.any_eq_true.mp asks
  obtain ⟨named, isAsk⟩ := Bool.and_eq_true_iff.mp same
  obtain rfl : id' = id := eq_of_beq named
  cases item with
  | state s => cases isAsk
  | primitive p =>
      cases p with
      | ask prompt reader on resume =>
          have lowers : (id', State.action (.ask prompt reader) (actionRoutes id'
              (Ordered.put "feedback" (some (feedbackId id')) on)).2 none) ∈
              (lowerItem d.handlers id' (.primitive (.ask prompt reader on resume))).states :=
            List.mem_cons_self
          have found := d.state?_of_compile compiled inside (by intro same; cases same) lowers
          simp [Graph.asksAt, found, State.isAsk, Handler.isAsk]
      | _ => cases isAsk

theorem Definition.doneAt_le {d : Definition F} {g : Graph F} (compiled : d.compile = .ok g)
    (rows : List Transition) : doneAt d.asksAt rows ≤ doneAt g.asksAt rows := by
  refine List.countP_mono_left fun row _ done => ?_
  obtain ⟨event, asks⟩ := Bool.and_eq_true_iff.mp done
  exact Bool.and_eq_true_iff.mpr ⟨event, d.asksAt_of_compile compiled asks⟩

/-- The callables of a graph leave replies to its questions: no handler but a question reports anything
under the reply key, no prompt leaves a reply in a context that had none, and what a parser reports is a
mapping. -/
structure Graph.LeavesReplies (g : Graph F) (b : Behaviour F W) : Prop where
  reports : ∀ id handler, g.Runs id handler → handler.isAsk = false → ∀ input world v o,
    (handler.run b input world).1 = .ok v → Outcome.read id v = .ok o →
    Fields.get? replyKey (o.data.getD []) = none
  prompts : ∀ id prompt reader, g.Runs id (.ask prompt reader) → ∀ input world,
    keptReply input.context = none → keptReply (renderPrompt b input prompt world).1.context = none
  parsers : ∀ id prompt reader, g.Runs id (.ask prompt reader) → ∀ input reply world o,
    (parseReply b input reply reader world).1 = .ok o → (o.data.getD []).Distinct

namespace Engine

variable {h : Host F W} {fr : Frame F} {s after : Stance} {id : String} {node : State F} {capped : Prop}

/-! ## What a report says of the replies -/

/-- What a report means for the replies that wait. Either it does not speak of them, and then it is not that
of a question, or it says that none is left, and then it is done only if there was one. -/
inductive Speaks (s : Stance) : Bool → Outcome → Prop
  | silent {o : Outcome} (silent : Fields.get? replyKey (o.data.getD []) = none) : Speaks s false o
  | uses {asks : Bool} {o : Outcome} {data : Fields} (has : o.data = some data)
      (there : (Fields.get? replyKey data).isSome = true) (clear : ∀ reply, ¬ data.Bears reply)
      (needed : o.status = "done" → 0 < repliesWaiting s.feedback s.progress.context) : Speaks s asks o

theorem status_of_text {id status : String} {data message page : Value} {o : Outcome}
    (read : Outcome.read id (.result (.str status) data message page) = .ok o) : o.status = status := by
  have parts : Outcome.ofParts id (.str status) data message page = .ok o := read
  simp only [Outcome.ofParts, bind, Except.bind] at parts
  repeat' split at parts
  all_goals cases parts
  rfl

/-- The report of a question says that no reply is left, and it is done only if there was one: a prompt
leaves none behind. -/
theorem speaks_of_ask {prompt : Slot F} {reader : Option (ReplyReader F)} {input : HandlerInput}
    (leaves : fr.graph.LeavesReplies h.behaviour) (runs : fr.graph.Runs id (.ask prompt reader))
    (replies : input.feedback = s.feedback) (contexts : input.context = s.progress.context) {w : W}
    {v : Value} {o : Outcome} (answered : (runAsk h.behaviour prompt reader input w).1 = .ok v)
    (read : Outcome.read id v = .ok o) : Speaks s true o := by
  have unprompted := leaves.prompts id prompt reader runs input w
  simp only [runAsk, bind, StateT.bind] at answered
  generalize renderPrompt h.behaviour input prompt w = asked at unprompted answered
  obtain ⟨⟨value, context⟩, w'⟩ := asked
  cases value with
  | error e => cases answered
  | ok words =>
      simp only at unprompted answered
      cases reads : readReply input.feedback context with
      | none =>
          simp only [reads] at answered
          cases answered
          refine .uses (data_of_dict read) rfl ?_ fun done => ?_
          · rintro reply ⟨text, inside, -⟩
            cases List.mem_singleton.mp inside
          · rw [status_of_text read] at done
            exact absurd done (by decide)
      | some reply =>
          simp only [reads, StateT.bind] at answered
          have mapping := leaves.parsers id prompt reader runs { input with context } reply w'
          generalize parseReply h.behaviour { input with context } reply reader w' = parsed at mapping answered
          obtain ⟨result, w''⟩ := parsed
          cases result with
          | error e => cases answered
          | ok o' =>
              cases answered
              have settled : Tickwork.Settled (.text replyKey) .null
                  (Fields.put (.text replyKey) .null (o'.data.getD [])) :=
                Fields.settled_put (mapping o' rfl)
              refine .uses (data_of_dict read) ?_ ?_ fun done => ?_
              · rw [settled.get?]
                rfl
              · rintro reply' ⟨text, inside, -⟩
                cases settled.2 _ inside rfl
              · rw [← contexts, ← replies]
                exact repliesWaiting_of_read unprompted reads

theorem isAsk_of_resolved {g : Graph F} {handler callable : Handler F}
    (resolved : resolveHandler g id handler = .ok callable) : callable.isAsk = handler.isAsk := by
  unfold resolveHandler at resolved
  repeat' split at resolved
  all_goals cases resolved
  all_goals rfl

theorem speaks_of_answered (leaves : fr.graph.LeavesReplies h.behaviour)
    (found : fr.graph.state? id = some node) {handler : Handler F}
    (handled : node.handler? = some handler) {q : Question F} (asks : question fr id s node = .ok q)
    {v : Value} (answered : Answers h q (.ok v)) {o : Outcome} (read : Outcome.read id v = .ok o) :
    Speaks s handler.isAsk o := by
  obtain ⟨callable, attempt, resolved, rfl⟩ := question_of_handler handled asks
  obtain ⟨w, answered⟩ := answered
  have runs : fr.graph.Runs id callable := ⟨node, handler, found, handled, resolved⟩
  rw [← isAsk_of_resolved resolved]
  cases isAsk : callable.isAsk with
  | false => exact .silent (leaves.reports id callable runs isAsk _ w v o answered read)
  | true =>
      cases callable with
      | ask prompt reader => exact speaks_of_ask leaves runs rfl rfl answered read
      | _ => cases isAsk

/-! ## What is left of the replies -/

/-- Where a report that speaks of the replies is laid over the context, no more of them wait than before, and
one less after a question that is done. -/
theorem Speaks.laid {asks : Bool} {o : Outcome} (speaks : Speaks s asks o) {data : Fields}
    (same : Fields.get? replyKey data = Fields.get? replyKey (o.data.getD []))
    (within : ∀ reply, data.Bears reply → (o.data.getD []).Bears reply) :
    repliesWaiting (s.observe o).feedback (Fields.overlay s.progress.context data) +
        (asks && o.status == "done").toNat ≤
      repliesWaiting s.feedback s.progress.context := by
  cases speaks with
  | silent silent =>
      have unnamed : (o.data.bind (Fields.get? replyKey)).isSome = false := by
        cases has : o.data with
        | none => rfl
        | some data =>
            rw [has] at silent
            exact Option.isSome_eq_false_iff.mpr (Option.isNone_iff_eq_none.mpr silent)
      have stays : (s.observe o).feedback = s.feedback := by
        simp [Stance.observe, unnamed]
      have kept := repliesKept_congr
        (Fields.overlay_silent s.progress.context (same.trans silent)).2
      unfold repliesWaiting
      rw [stays, kept]
      exact Nat.le_refl _
  | @uses _ _ whole has there clear needed =>
      rw [has] at same within
      have gone : (s.observe o).feedback = none := by
        simp [Stance.observe, has, there]
      have unkept : keptReply (Fields.overlay s.progress.context data) = none := by
        cases kept : keptReply (Fields.overlay s.progress.context data) with
        | none => rfl
        | some reply =>
            rcases keptReply_overlay kept with bears | ⟨absent, -⟩
            · exact absurd (within reply bears) (clear reply)
            · rw [absent] at same
              rw [show Fields.get? replyKey whole = none from same.symm] at there
              cases there
      have spent : repliesWaiting (s.observe o).feedback (Fields.overlay s.progress.context data) = 0 := by
        unfold repliesWaiting
        rw [gone, repliesKept_of_none unkept]
        rfl
      rw [spent, Nat.zero_add]
      cases done : o.status == "done" with
      | true => exact Nat.le_trans (Bool.toNat_le _) (needed (eq_of_beq done))
      | false => simp

/-- After a visit no more replies wait than before, and one less if its row tells of a question that is
done. -/
theorem Visit.spends (leaves : fr.graph.LeavesReplies h.behaviour) {j : Judgement Verdict}
    {verdict : Verdict} {now : Instant} {shape : Shape} {q : Progress}
    (visit : Visit (Answers h) fr s id node j) (decided : j.result = .ok verdict)
    (lands : Landing fr.graph id node now j.after.progress verdict shape q) :
    repliesWaiting j.after.feedback q.context + (shape.event == "done" && node.isAsk).toNat ≤
      repliesWaiting s.feedback s.progress.context := by
  obtain ⟨q', answer, asks, answered, rfl⟩ := visit.answered
  have event : (shape.event == "done" && node.isAsk) = true →
      ∃ step, verdict = .leave step ∧ step.event = "done" ∧ node.isAsk = true := by
    intro tells
    obtain ⟨done, isAsk⟩ := Bool.and_eq_true_iff.mp tells
    cases lands with
    | again reason attempt => exact absurd (eq_of_beq done) (by decide : "failed" ≠ "done")
    | left leads found arrives => exact ⟨_, rfl, eq_of_beq done, isAsk⟩
  rw [lands.context]
  cases reacted_lays decided with
  | nothing plain replies contexts undone =>
      have quiet : (shape.event == "done" && node.isAsk) = false := by
        cases tells : shape.event == "done" && node.isAsk with
        | false => rfl
        | true =>
            obtain ⟨step, left, done, isAsk⟩ := event tells
            exact absurd done (undone step left isAsk)
      rw [replies, contexts, quiet]
      exact Nat.le_refl _
  | @report handler v o data handled came read replies contexts same within done =>
      subst came
      have speaks := speaks_of_answered leaves visit.stands.2 handled asks answered read
      rw [replies, contexts]
      refine Nat.le_trans (Nat.add_le_add_left ?_ _) (speaks.laid same within)
      cases tells : shape.event == "done" && node.isAsk with
      | false => exact Nat.zero_le _
      | true =>
          obtain ⟨step, left, isDone, isAsk⟩ := event tells
          obtain ⟨asks, status⟩ := done step left isDone isAsk
          simp [asks, status]

/-- A turn leaves no more replies than it finds, and one less if its row tells of a question that is
done. -/
theorem Turn.spends (leaves : fr.graph.LeavesReplies h.behaviour) {e : Entry}
    (turn : Turn (Answers h) capped fr s e after) (alive : s.progress.lifecycle.isTerminal = false) :
    doneAt fr.graph.asksAt e.row.toList + after.replies ≤ s.replies := by
  rw [Stance.replies_of_alive alive]
  cases turn with
  | begin stands work idle => exact Nat.le_trans (Nat.le_of_eq (Nat.zero_add _)) (Stance.replies_le _)
  | halt stands => exact Nat.le_trans (Nat.le_of_eq (Nat.zero_add _)) (Stance.replies_le _)
  | rest stands resumes => exact Nat.le_trans (Nat.le_of_eq (Nat.zero_add _)) (Stance.replies_le _)
  | fail doomed => exact Nat.zero_le _
  | @visit id node j verdict now row p visit decided lands owner fits =>
      have fromId : row.fromId = id := (landing_of_landed lands).source
      have asks : fr.graph.asksAt row.fromId = node.isAsk := by
        unfold Graph.asksAt
        rw [fromId, visit.stands.2]
        rfl
      have counted : doneAt fr.graph.asksAt [row] = (row.event == "done" && node.isAsk).toNat := by
        unfold doneAt
        rw [List.countP_singleton, asks]
        cases row.event == "done" && node.isAsk <;> rfl
      have spent := visit.spends leaves decided (landing_of_landed lands)
      refine Nat.le_trans ?_ spent
      rw [Option.toList_some, counted, Nat.add_comm]
      exact Nat.add_le_add_right (Stance.replies_le _) _

/-- Over a walk every question that is done takes one of the replies that could be read. -/
theorem Walk.spends (leaves : fr.graph.LeavesReplies h.behaviour) {entries : List Entry}
    (walk : Walk (Answers h) capped fr s entries after)
    (alive : s.progress.lifecycle.isTerminal = false) :
    doneAt fr.graph.asksAt (rowsOf entries) + after.replies ≤ s.replies := by
  induction walk with
  | refl s => exact Nat.le_of_eq (Nat.zero_add _)
  | last turn =>
      have spent := turn.spends leaves alive
      rwa [rowsOf_cons, show rowsOf [] = [] from rfl, List.append_nil]
  | step turn running rest ih =>
      have first := turn.spends leaves alive
      have later := ih (alive_of_running running)
      rw [rowsOf_cons, doneAt_append]
      omega

end Engine

open Engine

/-! ## Conversations -/

/-- The stores and the progresses at hand that a new task comes to whose callables leave replies to its
questions, and how many replies were accepted for it: those that were handed to an advance while the task
was paused, and those that were kept for it then. Blank ones do not count. -/
inductive Conversation (g : Graph F) : MemoryStore → Progress → Nat → Prop
  | new {m : MemoryStore} (taskId workflowId : String) {context : Fields} (mapping : context.Distinct)
      (silent : Fields.get? replyKey context = none)
      (untouched : ∀ q, m.load? taskId = some q → q = .newTask taskId workflowId context)
      (unwritten : m.rowsFor taskId = []) : Conversation g m (.newTask taskId workflowId context) 0
  | advanced {W : Type} {m : MemoryStore} {p : Progress} {n : Nat} (before : Conversation g m p n)
      (h : Host F W) (leaves : g.LeavesReplies h.behaviour) (w : W) (budget : Budget) (task : TaskInfo)
      (runId : String) (tickId feedback : Option String) :
      Conversation g (Engine.advance h.overMemory budget g task runId tickId feedback p (w, m)).2.2
        (Engine.advance h.overMemory budget g task runId tickId feedback p (w, m)).1.2
        (n + repliesIn (acceptedReply p feedback))
  | replied {m : MemoryStore} {p : Progress} {n : Nat} (before : Conversation g m p n)
      (paused : p.lifecycle = .feedback) (text : String) :
      Conversation g (m.checkpoint (p.replied text)) (p.replied text) (n + repliesIn (some text))
  | loaded {m : MemoryStore} {p q : Progress} {n : Nat} (before : Conversation g m p n)
      (kept : m.load? p.taskId = some q) : Conversation g m q n
  | elsewhere {m m' : MemoryStore} {p : Progress} {n : Nat} (before : Conversation g m p n)
      (same : m'.load? p.taskId = m.load? p.taskId) (rows : m'.rowsFor p.taskId = m.rowsFor p.taskId) :
      Conversation g m' p n

namespace Conversation

/-- The questions that were done and the reply that is kept are no more than the replies that were
accepted. -/
structure Paid (g : Graph F) (accepted : Nat) (rows : List Transition) (p : Progress) : Prop where
  mapping : p.context.Distinct
  paid : doneAt g.asksAt rows + p.replies ≤ accepted

section Advances

variable {h : Host F W} {capped : Prop} {fr : Frame F} {s : Stance} {rows : List Transition}
variable {entries : List Entry} {p : Progress} {reply : Option String} {n : Nat}

/-- Where a tick starts, the replies that it can read are the one handed to it and the one that was
kept. -/
theorem Paid.start {g : Graph F} (paid : Paid g n rows p) (silent : Fields.get? replyKey g.context = none)
    (active : p.lifecycle.isTerminal = false) :
    doneAt g.asksAt rows + Stance.replies ⟨prepare g p, reply⟩ ≤ n + repliesIn reply := by
  have own : p.replies = repliesKept p.context := by
    unfold Progress.replies
    rw [active]
    rfl
  have before := paid.paid
  have kept := repliesKept_overlay silent paid.mapping
  have handed : Stance.replies ⟨prepare g p, reply⟩ =
      repliesIn reply + repliesKept (Fields.overlay g.context p.context) :=
    Stance.replies_of_alive active
  omega

theorem Paid.walk (paid : Paid fr.graph n rows p) (silent : Fields.get? replyKey fr.graph.context = none)
    (mapping : fr.graph.context.Distinct) (leaves : fr.graph.LeavesReplies h.behaviour)
    (active : p.lifecycle.isTerminal = false)
    (walk : Walk (Answers h) capped fr ⟨prepare fr.graph p, reply⟩ entries s) :
    s.progress.context.Distinct ∧
      doneAt fr.graph.asksAt (rows ++ rowsOf entries) + s.replies ≤ n + repliesIn reply := by
  refine ⟨(walk.over (prepare_over mapping p)).distinct, ?_⟩
  have start : doneAt fr.graph.asksAt rows + Stance.replies ⟨prepare fr.graph p, reply⟩ ≤
      n + repliesIn reply := paid.start silent active
  have spent := walk.spends leaves active
  rw [doneAt_append]
  omega

/-- What escapes from a tick leaves the task as it was written, or as it was to be written with a row that
was refused. -/
theorem Paid.slip {fault : Fault} {q : Progress} (leaves : fr.graph.LeavesReplies h.behaviour)
    (mapping : s.progress.context.Distinct) (paid : doneAt fr.graph.asksAt rows + s.replies ≤ n)
    (slip : Slip (Answers h) fr entries s fault q) :
    q.taskId = s.progress.taskId ∧ Paid fr.graph n rows q := by
  cases slip with
  | overlong wrote found counted within tooLong =>
      exact ⟨rfl, mapping, Nat.le_trans (Nat.add_le_add_left s.kept_le _) paid⟩
  | refused visit decided lands unfit =>
      have landing := landing_of_landed lands
      have spent := visit.spends leaves decided landing
      have alive := Stance.replies_of_alive (alive_of_running visit.running)
      have kept := q.replies_le
      have based : Fields.Over [] s.progress.context := ⟨mapping, List.nil_prefix⟩
      refine ⟨landing.taskId.trans visit.samePlace.taskId, (landing.over (visit.over based)).distinct, ?_⟩
      unfold repliesWaiting at spent alive
      omega

end Advances

theorem paid {g : Graph F} (valid : g.violations = []) (silent : Fields.get? replyKey g.context = none)
    (mapping : g.context.Distinct) {m : MemoryStore} {p : Progress} {n : Nat}
    (conversation : Conversation g m p n) : Accords (Paid g n) m p := by
  induction conversation with
  | new taskId workflowId distinct quiet untouched unwritten =>
      refine .new untouched unwritten ⟨distinct, ?_⟩
      have unkept := repliesKept_of_none (keptReply_silent quiet)
      exact Nat.le_of_eq ((Nat.zero_add _).trans unkept)
  | @advanced W m p n before h leaves w budget task runId tickId feedback ih =>
      have more : ∀ rows q, Paid g n rows q → Paid g (n + repliesIn (acceptedReply p feedback)) rows q :=
        fun rows q paid => ⟨paid.mapping, Nat.le_trans paid.paid (Nat.le_add_right _ _)⟩
      cases active : p.lifecycle.isTerminal with
      | true =>
          rw [advance_ended _ _ _ _ _ _ _ _ active]
          exact ih.mono more
      | false =>
          have serves : Serves h.overMemory (Answers h) Prod.snd MemoryStore.keep :=
            ⟨h.overMemory_keeps, h.overMemory_answers⟩
          have cap : budget.perTick ≤ budget.perRun ∨ True := .inr trivial
          obtain ⟨tick, entries, s, walk, seen, ending⟩ := advance_walks serves
            (Graph.fit_of_valid valid) budget task runId tickId feedback p (w, m) active cap
          rw [seen]
          obtain ⟨distinct, paid⟩ := ih.here.walk silent mapping leaves active walk
          have kept : Paid g (n + repliesIn (acceptedReply p feedback))
              (m.rowsFor p.taskId ++ rowsOf entries) s.progress :=
            ⟨distinct, Nat.le_trans (Nat.add_le_add_left s.kept_le _) paid⟩
          have accords := (ih.mono more).walk walk kept
          generalize (Engine.advance h.overMemory budget g task runId tickId feedback p (w, m)).1 = r
            at ending ⊢
          cases ending with
          | stopped wrote halted ending events pages => exact accords
          | spent more count ahead work ending events pages => exact accords
          | failed wrote lifecycle error placed => exact accords
          | escaped calm escape =>
              have rows := Accords.rowsFor_of_walk walk m
              obtain ⟨owner, there⟩ := Paid.slip leaves distinct paid
                (escape.slip valid h.overMemory_sturdy calm)
              rw [walk.owner.1] at owner
              refine accords.at_hand (owner.trans walk.owner.1.symm) ?_
              rw [walk.owner.1]
              exact rows ▸ there
  | @replied m p n before paused text ih =>
      have based : Fields.Over [] p.context := ⟨ih.here.mapping, List.nil_prefix⟩
      refine .checkpoint ⟨(based.put (.text replyKey) (.str text)).distinct, ?_⟩
      have kept : (p.replied text).replies = repliesIn (some text) := repliesKept_put text p.context
      have before := ih.here.paid
      have rows : m.rowsFor (p.replied text).taskId = m.rowsFor p.taskId := rfl
      rw [rows, kept]
      omega
  | loaded before kept ih => exact ih.loaded kept
  | elsewhere before same rows ih => exact ih.elsewhere same rows

end Conversation

/-- A factory that asks with a prompt of its own making. -/
def promptedQuestion : Graph Unit where
  id := "demo"
  start := "confirm"
  context := []
  states :=
    [("confirm", .action (.ask (.code () .whole) none)
        ⟨some "finish", some "finish", some "confirm__feedback"⟩ none),
      ("confirm__feedback", .feedback "previous"), ("finish", .terminal .done none)]
  guards := []
  handlers := []

/-- A host whose prompts leave a reply in the context that they are shown. -/
def promptingHost : Host Unit Unit where
  behaviour _ call := pure ⟨.ok (.str "Continue?"), Fields.put (.text replyKey) (.str "yes") call.context⟩
  now := pure ⟨0⟩
  freshEventId := pure "row"
  freshTickId := pure "tick"
  sleep _ := pure ()
  checkpoint _ := pure ()
  record _ _ := pure ()

-- The reply is read from the context as the prompt has left it, so the question is done with none accepted.
example : doneAt promptedQuestion.asksAt
    (Engine.advance promptingHost.overMemory (.clamped 25 200) promptedQuestion ⟨"t1", none, none, none⟩
      "run" none none (.newTask "t1" "demo" []) ((), .empty)).2.2.rows = 1 := by
  decide +kernel

/-! ## Two questions in a row -/

/-- A factory that asks twice. -/
def twoQuestions : Definition Unit where
  id := "demo"
  start := "first"
  items :=
    [("first", .primitive (.ask (.named "First?") none [("done", some "second"), ("failed", some "finish")]
        none)),
      ("second", .primitive (.ask (.named "Second?") none [("done", some "finish"), ("failed", some "finish")]
        none)),
      ("finish", .primitive (.finish .done none))]
  context := []
  guards := []
  handlers := []

def twoQuestionsGraph : Graph Unit :=
  twoQuestions.graphOf
    [("first", .action (.ask (.named "First?") none)
        ⟨some "second", some "finish", some "first__feedback"⟩ none),
      ("first__feedback", .feedback "previous"),
      ("second", .action (.ask (.named "Second?") none)
        ⟨some "finish", some "finish", some "second__feedback"⟩ none),
      ("second__feedback", .feedback "previous"), ("finish", .terminal .done none)]

def askedFirst : (Except Fault Finish × Progress) × (Unit × MemoryStore) :=
  Engine.advance askingHost.overMemory (.clamped 25 200) twoQuestionsGraph ⟨"t1", none, none, none⟩ "run"
    none none (.newTask "t1" "demo" []) ((), .empty)

def answeredFirst : (Except Fault Finish × Progress) × (Unit × MemoryStore) :=
  Engine.advance askingHost.overMemory (.clamped 25 200) twoQuestionsGraph ⟨"t1", none, none, none⟩ "run"
    none (some "yes") askedFirst.1.2 askedFirst.2

end Tickwork
