import Tickwork.Proofs.Noting
import Tickwork.Proofs.Replies.Key

/-!
# Replies that are delivered and read

A reply reaches a task from outside, or a callable writes it into the context or reports it. It is read
when a parser is called for it. `ReadOnce` says of a log of deeds that between the delivery of a reply
and a call of a parser for it no other call of a parser came to an end.
-/

set_option autoImplicit false

namespace Tickwork

variable {F W : Type}

/-! ## Replies in a context -/

/-- The text that is kept under the reply key of a context. -/
def keptText (context : Fields) : Option String := (field replyKey context).asString?

def keptReply (context : Fields) : Option String := readReply none context

/-- A reply stands under the reply key of a mapping. -/
def Fields.Bears (fields : Fields) (reply : String) : Prop :=
  ∃ text, (.text replyKey, .str text) ∈ fields ∧ replyIn? text = some reply

theorem keptReply_eq_some {context : Fields} {reply : String} :
    keptReply context = some reply ↔
      ∃ text, Fields.get? replyKey context = some (.str text) ∧ replyIn? text = some reply := by
  have reduced : keptReply context = ((field replyKey context).asString?).bind replyIn? := rfl
  rw [reduced, field]
  cases found : Fields.get? replyKey context with
  | none => simp [Value.asString?]
  | some v => cases v <;> simp [Value.asString?]

namespace Fields

variable {name : String} {v : Value}

/-- What stands under a name after changes: what one of them put there, or what stood there before. -/
theorem get?_overlay {context changes : Fields} (found : get? name (overlay context changes) = some v) :
    (.text name, v) ∈ changes ∨ get? name changes = none ∧ get? name context = some v := by
  induction changes generalizing context with
  | nil => exact .inr ⟨rfl, found⟩
  | cons change rest ih =>
      obtain ⟨k, w⟩ := change
      rcases ih found with later | ⟨absent, before⟩
      · exact .inl (List.mem_cons_of_mem _ later)
      · by_cases here : k = .text name
        · subst here
          rw [get?_put_self] at before
          cases before
          exact .inl List.mem_cons_self
        · rw [get?_put_other here] at before
          exact .inr ⟨by rw [get?_cons, if_neg here, absent], before⟩

end Fields

theorem keptReply_overlay {context changes : Fields} {reply : String}
    (kept : keptReply (Fields.overlay context changes) = some reply) :
    changes.Bears reply ∨ Fields.get? replyKey changes = none ∧ keptReply context = some reply := by
  obtain ⟨text, found, spoken⟩ := keptReply_eq_some.mp kept
  rcases Fields.get?_overlay found with brought | ⟨absent, before⟩
  · exact .inl ⟨text, brought, spoken⟩
  · exact .inr ⟨absent, keptReply_eq_some.mpr ⟨text, before, spoken⟩⟩

theorem readReply_cases {feedback : Option String} {context : Fields} {reply : String}
    (reads : readReply feedback context = some reply) :
    (∃ text, feedback = some text ∧ replyIn? text = some reply) ∨ keptReply context = some reply := by
  have split : readReply feedback context = (feedback.bind replyIn?).or (keptReply context) := by
    unfold keptReply readReply
    cases feedback.bind replyIn? <;> rfl
  rw [split] at reads
  cases handed : feedback.bind replyIn? with
  | none =>
      rw [handed] at reads
      exact .inr reads
  | some given =>
      rw [handed] at reads
      cases reads
      cases feedback with
      | none => cases handed
      | some text => exact .inl ⟨text, rfl, handed⟩

/-! ## Deliveries and readings -/

namespace Call

theorem reply?_inScope (call : Call) (scope : Scope) : (call.inScope scope).reply? = call.reply? := by
  cases scope <;> cases call <;> rfl

theorem context_inScope (call : Call) (scope : Scope) :
    (call.inScope scope).context = call.context := by
  cases scope <;> cases call <;> rfl

/-- The data of a report as it reaches the task: that of a parser says that the reply is used up. -/
def laid (call : Call) (data : Fields) : Fields :=
  if call.reply?.isSome then Fields.put replyKey .null data else data

/-- What the answer of a callable is read as. A parser that is shown the context only has to answer with
changes to it. -/
def readAs : Call → Except Raised Value → Except Raised Value
  | .nodeReply _ _, value => value.bind readChanges
  | _, value => value

theorem readAs_error (call : Call) (e : Raised) : call.readAs (.error e) = .error e := by
  cases call <;> rfl

end Call

/-- No parser whose answer stands for changes is shown more than the context. -/
def Handler.Narrow : Handler F → Prop
  | .ask _ (some (.changes (.code _ .whole))) => False
  | _ => True

/-- No parser of a state whose answer stands for changes is shown more than the context. -/
def State.Narrow : State F → Prop
  | .action handler _ _ => handler.Narrow
  | .orchestrate _ handler _ => handler.Narrow
  | _ => True

/-- No parser of a graph whose answer stands for changes is shown more than the context: the questions
of a pipe are the only ones with such parsers, and theirs are not. -/
def Graph.Narrow (g : Graph F) : Prop := ∀ entry ∈ g.states, entry.2.Narrow

/-- An answer that is, or can be taken for, a report with some data. -/
def Answer.Reports (answer : Answer) (data : Fields) : Prop :=
  ∃ v, answer.value = .ok v ∧
    ((∃ id o, Outcome.read id v = .ok o ∧ o.data = some data) ∨ v.toFields = .ok data ∨
      ∃ message, v = .again message data)

namespace Deed

/-- The reply that is read in a deed. -/
def reads : Deed W → Option String
  | .said call _ _ => call.reply?
  | _ => none

/-- A parser read a reply and came to an end: neither did it raise an error that the engine recovers
from, nor can its answer not be read. -/
def Finished : Deed W → Prop
  | .said call answer _ =>
    call.reply?.isSome = true ∧ ∀ kind text, call.readAs answer.value ≠ .error (.error kind text)
  | _ => False

/-- A deed delivers a reply: the task was given it, or a callable wrote it into the context that it was
shown or into the data that it reported. -/
def Brings (reply : String) : Deed W → Prop
  | .given text => replyIn? text = some reply
  | .said call answer _ =>
    (keptReply answer.context = some reply ∧ keptReply call.context ≠ some reply) ∨
      ∃ data, answer.Reports data ∧ (call.laid data).Bears reply
  | .wrote .. => False

theorem not_finished {deed : Deed W} (unread : deed.reads = none) : ¬ deed.Finished := by
  cases deed with
  | said call answer after =>
      rintro ⟨reads, -⟩
      have none' : call.reply? = none := unread
      rw [none'] at reads
      cases reads
  | given text => exact id
  | wrote row p before result after => exact id

end Deed

/-- A reply was delivered, and since then no parser that was called came to an end. -/
def Fresh (log : List (Deed W)) (reply : String) : Prop :=
  ∃ before delivery since, log = before ++ delivery :: since ∧ delivery.Brings reply ∧
    ∀ deed ∈ since, ¬ deed.Finished

/-- Whenever a parser was called, the reply that it was called for was fresh. -/
def ReadOnce (log : List (Deed W)) : Prop :=
  ∀ before reading after reply, log = before ++ reading :: after → reading.reads = some reply →
    Fresh before reply

namespace Fresh

variable {log more : List (Deed W)} {reply : String}

theorem append (fresh : Fresh log reply) (unfinished : ∀ deed ∈ more, ¬ deed.Finished) :
    Fresh (log ++ more) reply := by
  obtain ⟨before, delivery, since, rfl, brings, quiet⟩ := fresh
  refine ⟨before, delivery, since ++ more, by simp, brings, ?_⟩
  intro deed inside
  rcases List.mem_append.mp inside with early | late
  · exact quiet deed early
  · exact unfinished deed late

theorem of_delivery {deed : Deed W} (brings : deed.Brings reply) : Fresh (log ++ [deed]) reply :=
  ⟨log, deed, [], rfl, brings, fun _ inside => absurd inside List.not_mem_nil⟩

end Fresh

namespace ReadOnce

variable {log more : List (Deed W)}

theorem snoc {deed : Deed W} (once : ReadOnce log)
    (fresh : ∀ reply, deed.reads = some reply → Fresh log reply) : ReadOnce (log ++ [deed]) := by
  intro before reading after reply same reads
  rcases List.eq_nil_or_concat after with rfl | ⟨front, last, rfl⟩
  · obtain ⟨rfl, rfl⟩ := List.append_singleton_inj.mp same
    exact fresh reply reads
  · have same' : log ++ [deed] = (before ++ reading :: front) ++ [last] := by
      rw [same]
      simp
    obtain ⟨rfl, -⟩ := List.append_singleton_inj.mp same'
    exact once before reading front reply rfl reads

theorem append (once : ReadOnce log) (unread : ∀ deed ∈ more, deed.reads = none) :
    ReadOnce (log ++ more) := by
  induction more generalizing log with
  | nil => simpa using once
  | cons deed rest ih =>
      have first : ReadOnce (log ++ [deed]) := once.snoc fun reply reads => by
        rw [unread deed List.mem_cons_self] at reads
        cases reads
      have whole := ih first fun later inside => unread later (List.mem_cons_of_mem _ inside)
      simpa using whole

theorem given (once : ReadOnce log) (texts : List String) : ReadOnce (log ++ texts.map .given) := by
  refine once.append fun deed inside => ?_
  obtain ⟨text, -, rfl⟩ := List.mem_map.mp inside
  rfl

theorem nil : ReadOnce ([] : List (Deed W)) := by
  intro before reading after reply same
  simp at same

end ReadOnce

end Tickwork
