import Tickwork.Proofs.Talks.ReviewDraft

/-!
# Dialogues with review-draft

A dialogue waits at the question until a reply decides, however many clarifying replies came before; then
it is done, with one page. Main statement: `review_draft_settles`.
-/

set_option autoImplicit false

namespace Tickwork

variable {S : Type}

open Engine

namespace ReviewDraft

/-! ## Dialogues -/

/-- The rows among some that leave a state. -/
def leaving (id : String) (shapes : List Shape) : List Shape :=
  shapes.filter fun shape => shape.fromId = id

/-- The edges that the route takes on replies that do not decide. -/
def unmapped (replies : List String) : List Shape :=
  (replies.filter fun said => !Text.isBlankText said).map fun _ =>
    routed unmappedEvent "collect_decision"

/-- What a decision has led to: an approved draft was not revised, the other one once, at the second
attempt. -/
def Decision.Carried (talk : Talk) : Decision → Prop
  | .approve =>
    leaving "decision_route" (talk.rows.map Transition.shape) =
        unmapped talk.replies.dropLast ++ [routed "publish" "publish_result"] ∧
      leaving "revision_loop" (talk.rows.map Transition.shape) = [] ∧
      leaving "apply_revision" (talk.rows.map Transition.shape) = [] ∧
      field "revisions" talk.progress.context = .int 0
  | .revise =>
    leaving "decision_route" (talk.rows.map Transition.shape) =
        unmapped talk.replies.dropLast ++ [routed "revise" "revision_loop"] ∧
      leaving "revision_loop" (talk.rows.map Transition.shape) =
        [⟨"revision_loop", "apply_revision", "continue", .known .loopContinue, 1, 1⟩,
          ⟨"revision_loop", "publish_result", "done", .known .loopDone, 1, 1⟩] ∧
      leaving "apply_revision" (talk.rows.map Transition.shape) =
        [⟨"apply_revision", "apply_revision", "failed", .known .attemptFailed, 1, 0⟩,
          ⟨"apply_revision", "revision_loop", "done", .known .actionDone, 2, 0⟩] ∧
      field "revisions" talk.progress.context = .int 1 ∧
      field "retry_attempts" talk.progress.context = .int 2

/-- Where a dialogue has come. -/
inductive Stage (task : TaskInfo) (talk : Talk) : Prop
  | underway (underway : talk.Underway) (few : talk.ticks ≤ 7)
  | waits (undecided : ∀ said ∈ talk.replies, decisionOf? said = none)
      (paused : talk.progress.lifecycle = .feedback)
      (here : talk.progress.currentStateId = some "collect_decision")
      (routed : leaving "decision_route" (talk.rows.map Transition.shape) = unmapped talk.replies)
      (unpublished : talk.pages = [])
  | ends {last : String} {decision : Decision} (replied : talk.replies.getLast? = some last)
      (decided : decisionOf? last = some decision) (done : talk.progress.lifecycle = .done)
      (there : talk.progress.terminalStateId = some "done") (carried : decision.Carried talk)
      (published : talk.pages = [page task decision])

/-- What a dialogue with review-draft has come to. -/
structure Reviewed (task : TaskInfo) (talk : Talk) : Prop where
  returned : ∀ result ∈ talk.results, ∃ finish, result = .ok finish
  unfailed : talk.progress.lifecycle ≠ .failed ∧ ∀ row ∈ talk.rows, row.toId ≠ "failed"
  undecided : ∀ said ∈ talk.replies.dropLast, decisionOf? said = none
  stage : Stage task talk

section Replies

variable {heard : List String} {said id : String}

theorem leaving_ledger (away : id ≠ "start_draft") (away' : id ≠ "collect_decision") :
    leaving id (ledger heard) = heard.flatMap fun said => leaving id (told said) := by
  simp [leaving, ledger, asked, List.filter_flatMap, away.symm, away'.symm]

theorem told_of_none (undecided : decisionOf? said = none) : told said =
    if Text.isBlankText said then [asked]
    else [answered, routed unmappedEvent "collect_decision", asked] := by
  simp [told, undecided]

theorem told_of_some {decision : Decision} (decided : decisionOf? said = some decision) :
    told said = answered :: decision.rows := by
  have words : ¬ Text.isBlankText said = true := by
    intro blank
    rw [decisionOf?_of_blank blank] at decided
    cases decided
  simp [told, decided, words]

theorem leaving_route (undecided : ∀ said ∈ heard, decisionOf? said = none) :
    (heard.flatMap fun said => leaving "decision_route" (told said)) = unmapped heard := by
  induction heard with
  | nil => rfl
  | cons said rest ih =>
      have first := told_of_none (undecided said (List.mem_cons_self ..))
      rw [List.flatMap_cons, ih fun before inside => undecided before (List.mem_cons_of_mem _ inside),
        first]
      by_cases blank : Text.isBlankText said = true
      · simp [blank, leaving, asked, unmapped]
      · simp [blank, leaving, asked, answered, routed, unmapped]

theorem leaving_revision (undecided : ∀ said ∈ heard, decisionOf? said = none)
    (revision : id = "revision_loop" ∨ id = "apply_revision") :
    (heard.flatMap fun said => leaving id (told said)) = [] := by
  refine List.flatMap_eq_nil_iff.mpr fun said inside => ?_
  rw [told_of_none (undecided said inside)]
  rcases revision with rfl | rfl <;> split <;> decide

theorem told_unfailed (said : String) : ∀ shape ∈ told said, shape.toId ≠ "failed" := by
  unfold told
  split
  · decide
  · split
    · decide
    · rename_i decision _
      cases decision <;> decide

theorem ledger_unfailed : ∀ shape ∈ ledger heard, shape.toId ≠ "failed" := by
  intro shape inside
  rcases List.mem_append.mp inside with opening | later
  · have fine : ∀ shape ∈ ledger [], shape.toId ≠ "failed" := by decide
    exact fine shape (List.mem_append_left _ opening)
  · obtain ⟨said, -, there⟩ := List.mem_flatMap.mp later
    exact told_unfailed said shape there

end Replies

section Settles

variable {task : TaskInfo} {talk : Talk} {heard : List String} {p : Progress}

theorem Rests.undecided (rests : Rests task heard p) :
    ∀ said ∈ heard.dropLast, decisionOf? said = none := by
  cases rests with
  | waits undecided here =>
      exact fun said inside => undecided said ((List.dropLast_sublist heard).subset inside)
  | ends replies undecided decided here =>
      rw [replies, List.dropLast_concat]
      exact undecided

theorem leaving_ends {earlier : List String} {last id : String} {decision : Decision}
    (decided : decisionOf? last = some decision) (away : id ≠ "start_draft")
    (away' : id ≠ "collect_decision") :
    leaving id (ledger (earlier ++ [last])) =
      (earlier.flatMap fun said => leaving id (told said)) ++ leaving id decision.rows := by
  have answers : leaving id (answered :: decision.rows) = leaving id decision.rows := by
    simp [leaving, answered, away'.symm]
  rw [leaving_ledger away away', List.flatMap_append, List.flatMap_singleton, told_of_some decided,
    answers]

/-- At rest a dialogue waits for a decision or has carried it out. -/
theorem Rests.stage (rests : Rests task talk.replies talk.progress.unwaited)
    (wrote : talk.rows.map Transition.shape = ledger talk.replies)
    (showed : talk.pages = talk.replies.flatMap (shown task)) : Stage task talk := by
  cases rests with
  | waits undecided here =>
      refine .waits undecided here.lifecycle here.here ?_ ?_
      · rw [wrote, leaving_ledger (by decide) (by decide), leaving_route undecided]
      · rw [showed]
        exact List.flatMap_eq_nil_iff.mpr fun said inside => by rw [shown, undecided said inside]; rfl
  | @ends earlier last decision replies undecided decided here =>
      have context : talk.progress.context = final task decision := here.context
      refine .ends ?_ decided here.lifecycle here.ended ?_ ?_
      · rw [replies, List.getLast?_concat]
      · have loops := leaving_revision undecided (.inl rfl)
        have tries := leaving_revision undecided (.inr rfl)
        rw [replies] at wrote
        cases decision with
        | approve =>
            unfold Decision.Carried
            rw [wrote, leaving_ends decided (by decide) (by decide),
              leaving_ends decided (by decide) (by decide),
              leaving_ends decided (by decide) (by decide), leaving_route undecided, loops, tries,
              context, replies, List.dropLast_concat]
            exact ⟨rfl, rfl, rfl, rfl⟩
        | revise =>
            unfold Decision.Carried
            rw [wrote, leaving_ends decided (by decide) (by decide),
              leaving_ends decided (by decide) (by decide),
              leaving_ends decided (by decide) (by decide), leaving_route undecided, loops, tries,
              context, replies, List.dropLast_concat]
            exact ⟨rfl, rfl, rfl, rfl, rfl⟩
      · rw [showed, replies, List.flatMap_append, List.flatMap_singleton, shown, decided]
        have nothing : earlier.flatMap (shown task) = [] :=
          List.flatMap_eq_nil_iff.mpr fun said inside => by rw [shown, undecided said inside]; rfl
        rw [nothing]
        rfl

/-- Every dialogue with review-draft waits until a reply decides, then publishes once, after a revision
if one was asked for. -/
theorem review_draft_settles {g : Graph (Routine S)}
    (bundled : bundled? ReviewDraft.id = some (.ok g)) (dialogue : Dialogue g task talk) :
    Reviewed task talk := by
  obtain rfl : graph = g := Except.ok.inj (Option.some.inj (bundles.symm.trans bundled))
  have distinct : Fields.Distinct (draft "" false 0 0 "") := by
    unfold Fields.Distinct
    decide
  have keeps := dialogue.keeps (plan task) sound waitable distinct (fun _ => recites) trivial
  obtain ⟨p, planned⟩ := keeps.planned
  have undecided := Rests.undecided planned
  refine ⟨keeps.returned, ⟨keeps.unfailed, fun row inside => ?_⟩, undecided, ?_⟩
  · exact ledger_unfailed _ (keeps.row_planned inside)
  · rcases keeps.comes with ⟨underway, few⟩ | ⟨here, wrote, showed⟩
    · exact .underway underway few
    · exact Rests.stage here wrote showed

end Settles

/-- A task whose draft is written. -/
def newReview : Talk :=
  Talk.advanced stillHost () graph ⟨"t1", none, none, none⟩ unhurried none
    ⟨.empty, .newTask "t1" ReviewDraft.id [], [], [], 0⟩

/-- It gets a reply that does not decide. -/
def stillAsked : Talk :=
  (newReview.noted "Why?").advanced stillHost () graph ⟨"t1", none, none, none⟩ unhurried (some "Why?")

/-- It gets one that does, kept for a tick that takes one transition. -/
def underReview : Talk :=
  Talk.advanced stillHost () graph ⟨"t1", none, none, none⟩ hurried none (stillAsked.kept " Revise ")

def revisedOnce : Talk :=
  underReview.advanced stillHost () graph ⟨"t1", none, none, none⟩ unhurried none

/-- A doubtful reply is asked about again, and the one after it has the draft revised. -/
theorem review_draft_settles_revised :
    revisedOnce.progress.lifecycle = .done ∧ revisedOnce.replies = ["Why?", " Revise "] ∧
      Reviewed ⟨"t1", none, none, none⟩ revisedOnce := by
  have first : Dialogue (graph (S := Unit)) ⟨"t1", none, none, none⟩ newReview :=
    .tick (.new "t1" ReviewDraft.id rfl) (by decide) stillHost stillHost_plays () _ unhurried_paced
  have second : Dialogue (graph (S := Unit)) ⟨"t1", none, none, none⟩ stillAsked :=
    .handed first (by decide +kernel) "Why?" stillHost stillHost_plays () _ unhurried_paced
  have third : Dialogue (graph (S := Unit)) ⟨"t1", none, none, none⟩ underReview :=
    .tick (.kept second (by decide +kernel) " Revise ") (by decide) stillHost stillHost_plays () _
      hurried_paced
  have last : Dialogue (graph (S := Unit)) ⟨"t1", none, none, none⟩ revisedOnce :=
    .tick third (by decide +kernel) stillHost stillHost_plays () _ unhurried_paced
  exact ⟨by decide +kernel, rfl, review_draft_settles bundles last⟩

end ReviewDraft

end Tickwork
