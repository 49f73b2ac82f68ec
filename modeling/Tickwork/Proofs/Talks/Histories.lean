import Tickwork.Proofs.Talks.MagicEight

/-!
# Dialogues with magic-8

A dialogue keeps every question with its answer, in order, for as long as it goes on, and publishes them when
a reply declines another round. Main statement: `conversations_keep_their_history`.
-/

set_option autoImplicit false

namespace Tickwork

variable {S : Type}

open Engine

namespace MagicEight

/-! ## Dialogues -/

/-- Where a dialogue has come: it is under way, it waits and has asked once for every reply and once more,
or a reply declined another round. The context is a matter of the rounds alone. -/
inductive Stage (talk : Talk) : Prop
  | underway (underway : talk.Underway) (few : talk.ticks ≤ 3)
  | waits (going : (played talk.replies).phase ≠ .complete)
      (paused : talk.progress.lifecycle = .feedback)
      (here : talk.progress.currentStateId = some "conversation_1")
      (wrote : talk.rows.map Transition.shape = List.replicate (talk.replies.length + 1) asked)
      (context : talk.progress.context = (played talk.replies).context .null)
      (history : field "history" talk.progress.context =
        .list (entries 1 (played talk.replies).questions))
      (round : field "round" talk.progress.context =
        .int (entries 1 (played talk.replies).questions).length)
      (unpublished : talk.pages = [])
  | ends {last : String} (replied : talk.replies.getLast? = some last)
      (replay : (played talk.replies.dropLast).phase = .replay)
      (declined : (Text.lowered (Text.strip last)).startsWith "n" = true)
      (done : talk.progress.lifecycle = .done)
      (there : talk.progress.terminalStateId = some "end_done_4")
      (wrote : talk.rows.map Transition.shape = List.replicate talk.replies.length asked ++ closing)
      (published : talk.pages = [page (played talk.replies).questions])

/-- What a dialogue with magic-8 has come to. -/
structure Conversed (talk : Talk) : Prop where
  returned : ∀ result ∈ talk.results, ∃ finish, result = .ok finish
  unfailed : talk.progress.lifecycle ≠ .failed ∧
    ∀ row ∈ talk.rows, row.toId ≠ "failed" ∧ row.toId ≠ "mark_incomplete_5"
  going : (played talk.replies.dropLast).phase ≠ .complete
  stage : Stage talk

section Conversed

variable {task : TaskInfo} {talk : Talk} {heard : List String}

theorem length_entries (n : Nat) (questions : List String) :
    (entries n questions).length = questions.length := by
  simp [entries]

theorem ledger_unfailed : ∀ shape ∈ ledger heard,
    shape.toId ≠ "failed" ∧ shape.toId ≠ "mark_incomplete_5" := by
  have fine : asked.toId ≠ "failed" ∧ asked.toId ≠ "mark_incomplete_5" := by decide
  have fine' : ∀ shape ∈ closing, shape.toId ≠ "failed" ∧ shape.toId ≠ "mark_incomplete_5" := by
    decide
  intro shape inside
  unfold ledger at inside
  split at inside
  · rcases List.mem_append.mp inside with before | last
    · exact (List.eq_of_mem_replicate before) ▸ fine
    · exact fine' shape last
  · exact (List.eq_of_mem_replicate inside) ▸ fine

/-- At rest a conversation waits for a reply or has come to its end. -/
theorem stage_of_rests (going : (played talk.replies.dropLast).phase ≠ .complete)
    (rests : (played talk.replies).Rests talk.progress.unwaited)
    (wrote : talk.rows.map Transition.shape = ledger talk.replies)
    (showed : talk.pages = pages talk.replies) : Stage talk := by
  by_cases complete : (played talk.replies).phase = .complete
  · have here := (Game.rests_of_complete complete).mp rests
    cases last : talk.replies.getLast? with
    | none =>
        rw [List.getLast?_eq_none_iff.mp last] at complete
        cases complete
    | some said =>
        have split := List.dropLast_append_getLast? said last
        have complete' := complete
        rw [← split, played_concat] at complete'
        obtain ⟨replay, declined, -⟩ := Game.declined_of_complete going complete'
        rw [ledger, if_pos complete] at wrote
        refine .ends last replay declined here.lifecycle here.ended wrote ?_
        rw [showed, pages, if_pos complete]
  · have here := (Game.rests_of_going complete).mp rests
    have context : talk.progress.context = (played talk.replies).context .null := here.context
    rw [ledger, if_neg complete] at wrote
    refine .waits complete here.lifecycle here.here wrote context ?_ ?_ ?_
    · rw [context]
      rfl
    · rw [context, length_entries]
      rfl
    · rw [showed, pages, if_neg complete]

/-- Every dialogue with magic-8 keeps the questions that were asked, with their answers, until a reply
declines another one; then they are published. The number of the next round has to be one that can be
written out, with at most 4300 digits: far more rounds than any memory holds. -/
theorem conversations_keep_their_history {g : Graph (Routine S)}
    (bundled : bundled? MagicEight.id = some (.ok g)) (dialogue : Dialogue g task talk)
    (few : (played talk.replies).questions.length + 1 < Numeral.digitBound) : Conversed talk := by
  obtain rfl : graph = g := Except.ok.inj (Option.some.inj (bundles.symm.trans bundled))
  have distinct : Fields.Distinct initial := by
    unfold Fields.Distinct
    decide
  have keeps := dialogue.keeps (plan task) sound waitable distinct (fun _ => recites) few
  obtain ⟨p, going, -⟩ := keeps.planned
  refine ⟨keeps.returned, ⟨keeps.unfailed, fun row inside => ?_⟩, going, ?_⟩
  · exact ledger_unfailed _ (keeps.row_planned inside)
  · rcases keeps.comes with ⟨underway, few⟩ | ⟨here, wrote, showed⟩
    · exact .underway underway few
    · exact stage_of_rests going here.2 wrote showed

end Conversed

def newGame : Talk :=
  Talk.advanced stillHost () graph ⟨"t1", none, none, none⟩ unhurried none
    ⟨.empty, .newTask "t1" MagicEight.id [], [], [], 0⟩

/-- A question, asked with blanks around it. -/
def firstRound : Talk :=
  (newGame.noted " Rain? ").advanced stillHost () graph ⟨"t1", none, none, none⟩ unhurried
    (some " Rain? ")

/-- A reply that says neither yes nor no. -/
def stillPlaying : Talk :=
  Talk.advanced stillHost () graph ⟨"t1", none, none, none⟩ unhurried none (firstRound.kept "Hm")

/-- The end, under way for a tick that takes one transition. -/
def windingUp : Talk :=
  Talk.advanced stillHost () graph ⟨"t1", none, none, none⟩ hurried none
    (stillPlaying.kept "Nope")

def gameOver : Talk :=
  Talk.advanced stillHost () graph ⟨"t1", none, none, none⟩ unhurried none windingUp

/-- One question, and no other one. -/
theorem conversations_keep_their_history_once :
    gameOver.progress.lifecycle = .done ∧
      gameOver.pages = [.page (.str "# Magic 8-Ball\n1. Q: Rain?\n   A: Outlook not so good.") .null] ∧
      Conversed gameOver := by
  have begins : Dialogue (graph (S := Unit)) ⟨"t1", none, none, none⟩ newGame :=
    .tick (.new "t1" MagicEight.id rfl) (by decide) stillHost stillHost_plays () _ unhurried_paced
  have first : Dialogue (graph (S := Unit)) ⟨"t1", none, none, none⟩ firstRound :=
    .handed begins (by decide +kernel) " Rain? " stillHost stillHost_plays () _ unhurried_paced
  have second : Dialogue (graph (S := Unit)) ⟨"t1", none, none, none⟩ stillPlaying :=
    .tick (.kept first (by decide +kernel) "Hm") (by decide) stillHost stillHost_plays () _
      unhurried_paced
  have third : Dialogue (graph (S := Unit)) ⟨"t1", none, none, none⟩ windingUp :=
    .tick (.kept second (by decide +kernel) "Nope") (by decide) stillHost stillHost_plays () _
      hurried_paced
  have last : Dialogue (graph (S := Unit)) ⟨"t1", none, none, none⟩ gameOver :=
    .tick third (by decide +kernel) stillHost stillHost_plays () _ unhurried_paced
  have few : (played gameOver.replies).questions.length + 1 < 10 := by decide +kernel
  exact ⟨by decide +kernel, by decide +kernel,
    conversations_keep_their_history bundles last (one_digit few)⟩

end MagicEight

end Tickwork
