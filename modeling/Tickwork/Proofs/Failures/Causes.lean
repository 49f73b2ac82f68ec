import Tickwork.Proofs.Turn

/-!
# Where causes come from

A task is given up for a cause. Either a callable raised it, or what a callable gave back cannot be read
or gone by, or the engine found a defect of the graph. Main statement: whatever a question is answered
with, a cause in the answer was raised by a callable or tells of an unreadable report.
-/

set_option autoImplicit false

namespace Tickwork

variable {F W : Type}

namespace FatalCause

/-- Whether a cause says that a report cannot be read. -/
def isReport : FatalCause → Bool
  | .notAnObject _ _ | .noStatus _ | .dataNotObject _ | .messageNotText _ | .unsupportedPage _ => true
  | _ => false

/-- Whether a cause says that a callable raised an error, or gave back what cannot be read or gone
by. -/
def isJudgement : FatalCause → Bool
  | .unsupportedStatus _ _ | .orchestrateRaised _ _ | .selectorRaised _ _ | .guardRaised _ _
  | .noEventName _ => true
  | cause => cause.isReport

/-- Whether a cause says that there is no state to visit, or none that can be visited. -/
def isPosition : FatalCause → Bool
  | .missingState _ | .unsupportedState _ _ | .nothingToRun _ => true
  | _ => false

/-- Whether a cause says that a reference leads to nothing, or to what cannot be called. -/
def isReference : FatalCause → Bool
  | .unknownHandler _ _ | .handlerNotCallable _ | .unknownGuard _ _ | .guardNotCallable _ => true
  | _ => false

variable {cause : FatalCause}

theorem isJudgement_of_isReport (report : cause.isReport = true) : cause.isJudgement = true := by
  cases cause <;> first | rfl | cases report

theorem not_isPosition_of_isJudgement (judged : cause.isJudgement = true) :
    cause.isPosition = false := by
  cases cause <;> first | rfl | cases judged

theorem not_isReference_of_isJudgement (judged : cause.isJudgement = true) :
    cause.isReference = false := by
  cases cause <;> first | rfl | cases judged

end FatalCause

/-! ## Reports that cannot be read -/

/-- A check that fails only with a cause that says that a report cannot be read. -/
def Reports {α : Type} (check : Except FatalCause α) : Prop :=
  ∀ cause, check = .error cause → cause.isReport = true

theorem Reports.ok {α : Type} (a : α) : Reports (.ok a) := nofun

theorem Reports.bind {α β : Type} {check : Except FatalCause α}
    {next : α → Except FatalCause β} (first : Reports check) (rest : ∀ a, Reports (next a)) :
    Reports (check >>= next) := by
  intro cause refused
  cases found : check with
  | error cause' =>
      rw [found] at refused
      cases refused
      exact first _ found
  | ok a =>
      rw [found] at refused
      exact rest a cause refused

theorem reports_readPage (v : Value) : Reports (readPage v) := by
  intro cause refused
  unfold readPage at refused
  repeat' split at refused
  all_goals cases refused
  all_goals rfl

namespace Outcome

theorem reports_readData (id : String) (v : Value) : Reports (readData id v) := by
  intro cause refused
  unfold readData at refused
  repeat' split at refused
  all_goals cases refused
  all_goals rfl

theorem reports_readMessage (id : String) (v : Value) : Reports (readMessage id v) := by
  intro cause refused
  unfold readMessage at refused
  repeat' split at refused
  all_goals cases refused
  all_goals rfl

theorem reports_ofParts (id : String) (status data message page : Value) :
    Reports (ofParts id status data message page) := by
  have unnamed : Reports (.error (.noStatus id) : Except FatalCause String) := by
    intro cause refused
    cases refused
    rfl
  have rest : ∀ status : String, Reports (do
      let data ← readData id data
      let message ← readMessage id message
      .ok ⟨status, data, message, optional page⟩ : Except FatalCause Outcome) :=
    fun status => (reports_readData id data).bind fun _ =>
      (reports_readMessage id message).bind fun _ => .ok _
  unfold ofParts
  cases status with
  | str s =>
      simp only
      split
      · exact unnamed.bind rest
      · exact rest s
  | _ => exact unnamed.bind rest

theorem reports_read (id : String) (v : Value) : Reports (Outcome.read id v) := by
  unfold Outcome.read
  split
  · exact reports_ofParts id _ _ _ _
  · split
    · intro cause refused
      cases refused
      rfl
    · rename_i fields _
      simp only
      split
      · exact reports_ofParts id _ _ _ _
      · exact (reports_readPage _).bind fun page => reports_ofParts id _ _ _ page

end Outcome

/-! ## Answers -/

/-- Some call of a callable ends its task for good, with this cause. -/
def Behaviour.Raises (b : Behaviour F W) (cause : FatalCause) : Prop :=
  ∃ f call w taskId, (b f call w).1.value = .error (.fatal cause taskId)

/-- A cause in this result was raised by a callable, or says that a report cannot be read. -/
def Behaviour.Accounts {α : Type} (b : Behaviour F W) (r : Except Raised α) : Prop :=
  ∀ cause taskId, r = .error (.fatal cause taskId) → b.Raises cause ∨ cause.isReport = true

namespace Behaviour.Accounts

variable {α β : Type} {b : Behaviour F W}

theorem ok (a : α) : b.Accounts (.ok a) := nofun

theorem error (kind : ErrorKind) (text : String) :
    b.Accounts (α := α) (.error (.error kind text)) := nofun

theorem bind {r : Except Raised α} {next : α → Except Raised β} (first : b.Accounts r)
    (rest : ∀ a, b.Accounts (next a)) : b.Accounts (r.bind next) := by
  intro cause taskId refused
  cases found : r with
  | error e =>
      rw [found] at refused
      cases refused
      exact first _ _ found
  | ok a =>
      rw [found] at refused
      exact rest a _ _ refused

theorem map {r : Except Raised α} (first : b.Accounts r) (f : α → β) : b.Accounts (r.map f) := by
  intro cause taskId refused
  cases found : r with
  | error e =>
      rw [found] at refused
      cases refused
      exact first _ _ found
  | ok a =>
      rw [found] at refused
      cases refused

theorem called (b : Behaviour F W) (f : F) (call : Call) (w : W) :
    b.Accounts (b f call w).1.value :=
  fun _ taskId refused => .inl ⟨f, call, w, taskId, refused⟩

theorem slot (b : Behaviour F W) (slot : Slot F) (call : Call) (w : W) :
    b.Accounts (slot.call b call w).1.value := by
  cases slot with
  | code f scope => exact called b f _ w
  | _ => exact .error _ _

theorem prompt (b : Behaviour F W) (input : HandlerInput) (prompt : Slot F) (w : W) :
    b.Accounts (renderPrompt b input prompt w).1.value := by
  cases prompt with
  | code f scope => exact called b f _ w
  | _ => exact .ok _

theorem checked {r : Except FatalCause α} (reports : Reports r) :
    b.Accounts (r.mapError (Raised.fatal · none)) := by
  intro cause taskId refused
  cases found : r with
  | error cause' =>
      rw [found] at refused
      cases refused
      exact .inr (reports cause found)
  | ok a =>
      rw [found] at refused
      cases refused

theorem toKey (v : Value) : b.Accounts v.toKey := by
  unfold Value.toKey
  split
  · exact .ok _
  · exact .error _ _

theorem sentence (v : Value) : b.Accounts v.sentence := by
  unfold Value.sentence
  split
  · exact .ok _
  · exact .error _ _

theorem pairAt (index : Nat) (v : Value) : b.Accounts (Value.pairAt index v) := by
  unfold Value.pairAt
  split
  · exact .error _ _
  · exact (toKey _).bind fun _ => .ok _
  · exact .error _ _

theorem pairsFrom (index : Nat) (items : List Value) : b.Accounts (Value.pairsFrom index items) := by
  induction items generalizing index with
  | nil => exact .ok _
  | cons v rest ih => exact (pairAt index v).bind fun _ => (ih (index + 1)).bind fun _ => .ok _

theorem toFields (v : Value) : b.Accounts v.toFields := by
  unfold Value.toFields
  split
  · exact .ok _
  · split
    · exact (pairsFrom 0 _).bind fun _ => .ok _
    · exact .error _ _

theorem readChanges (v : Value) : b.Accounts (readChanges v) := by
  unfold Tickwork.readChanges
  split
  · exact .ok _
  · exact (toFields _).bind fun _ => .ok _

theorem decisionReport (branches : List String) (hasOtherwise : Bool) (key : Value) :
    b.Accounts (decisionReport branches hasOtherwise key) := by
  refine (toKey key).bind fun found => ?_
  simp only
  split
  · exact .ok _
  · split
    · exact .ok _
    · exact (sentence key).bind fun _ => .ok _

theorem parseReply (b : Behaviour F W) (input : HandlerInput) (reply : String)
    (reader : Option (ReplyReader F)) (w : W) :
    b.Accounts (parseReply b input reply reader w).1 := by
  match reader with
  | none => exact .ok _
  | some (.report parse) =>
      exact (slot b parse _ w).bind fun v => checked (Outcome.reports_read _ _)
  | some (.changes parse) =>
      exact (slot b parse _ w).bind fun v => (readChanges v).bind fun report =>
        checked (Outcome.reports_read _ _)

theorem runAsk (b : Behaviour F W) (prompt : Slot F) (reader : Option (ReplyReader F))
    (input : HandlerInput) (w : W) : b.Accounts (runAsk b prompt reader input w).1 := by
  have asked := Accounts.prompt b input prompt w
  simp only [Tickwork.runAsk, Bind.bind, StateT.bind]
  cases rendered : renderPrompt b input prompt w with
  | mk answer world =>
      obtain ⟨value, context⟩ := answer
      rw [rendered] at asked
      cases value with
      | error e => exact fun cause taskId refused => by cases refused; exact asked _ _ rfl
      | ok prompt =>
          simp only
          cases readReply input.feedback context with
          | none => exact .ok _
          | some reply => exact (parseReply b _ reply reader world).map _

theorem handler (b : Behaviour F W) (handler : Handler F) (input : HandlerInput) (w : W) :
    b.Accounts (handler.run b input w).1 := by
  cases handler with
  | slot ref => exact slot b ref _ w
  | ask prompt reader => exact runAsk b prompt reader input w
  | publish render =>
      exact (slot b render _ w).bind fun v => (checked (reports_readPage v)).map _
  | merge run => exact (called b run _ w).bind fun v => (toFields v).map _
  | decide select branches hasOtherwise =>
      exact (called b select _ w).bind (decisionReport branches hasOtherwise)

theorem selector (b : Behaviour F W) (selector : Selector F) (input : SelectorInput) (w : W) :
    b.Accounts (selector.run b input w).1 := by
  cases selector with
  | slot ref => exact slot b ref _ w
  | route select known => exact (slot b select _ w).map _

end Behaviour.Accounts

namespace Engine

/-- A cause in the answer to a question was raised by a callable, or says that a report cannot be
read. -/
theorem Question.ask_accounts (b : Behaviour F W) (q : Question F) (w : W) :
    b.Accounts (q.ask b w).1 := by
  cases q with
  | handler handler input => exact .handler b handler input w
  | selector selector input => exact .selector b selector input w
  | guard slot input => exact .slot b slot _ w
  | nothing => exact .ok _

/-- The question can be answered in this way, in some world. -/
def Answers (h : Host F W) (q : Question F) (answer : Except Raised Value) : Prop :=
  ∃ w, (q.ask h.behaviour w).1 = answer

end Engine

end Tickwork
