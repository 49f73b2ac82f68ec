import Tickwork.Proofs.Pipe.Courses

/-!
# Walks follow their course

The turns of a tick are the foreseen ones, so that a walk from a stance with a course goes along it: it is
still on the way, it has closed as the course says, or it has paused and the course goes on with the next
reply.
-/

set_option autoImplicit false

namespace Tickwork

variable {F : Type}

namespace Pipe

open Engine

section

variable {fn : Functions F} {fr : Frame F} {close : Close} {s after : Stance} {e : Entry}
variable {entries : List Entry} {k : Nat} {pages : List Value} {script : List String}

theorem Closed.of_unwaited {p : Progress} (closed : Closed p.unwaited pages script close) :
    Closed p pages script close :=
  ⟨closed.lifecycle, closed.lastError, closed.context, closed.pages, closed.halted, closed.left⟩

/-- Where a walk has come to along a course of at most `k` turns. The reply that it started with is still
there only if the task has not moved. -/
inductive Along (fn : Functions F) (fr : Frame F) (close : Close) (k : Nat) (reply : Option String)
    (pages : List Value) (script : List String) (entries : List Entry) (after : Stance) : Prop
  | goes {left : Nat} (turns : left + entries.length ≤ k) (more : Open entries after)
      (since : after.progress.lifecycle = .running → after.progress.waitingSince = none)
      (silent : after.feedback = none ∨
        entries.countP Entry.moves = 0 ∧ after.feedback = reply)
      (rest : Course fn fr close left ⟨after.progress.unwaited, after.feedback⟩
        (pages ++ pagesOf entries) script)
  | closed (closed : Closed after.progress (pages ++ pagesOf entries) script close)
  | paused {left : Nat} {next : String} {later : List String} (turns : left < k)
      (isLeft : script = next :: later) (paused : after.progress.lifecycle = .feedback)
      (rest : Course fn fr close left ⟨after.progress.unwaited, some next⟩
        (pages ++ pagesOf entries) later)

theorem Closed.halted_ne {p : Progress} (closed : Closed p pages script close) :
    p.lifecycle ≠ .running := by
  intro running
  rcases closed.halted with isOver | ⟨paused, -⟩
  · rw [running] at isOver
    cases isOver
  · rw [running] at paused
    cases paused

theorem Turn.along (turn : Turn (answersBy (computed fn)) False fr s e after)
    (since : s.progress.lifecycle = .running → s.progress.waitingSince = none)
    (course : Course fn fr close k ⟨s.progress.unwaited, s.feedback⟩ pages script) :
    Along fn fr close k s.feedback pages script [e] after := by
  have seen := turn.foreseen
  have kept := turn.progress
  have traced : e.trace.progress = after.progress.unwaited := congrArg Progress.unwaited kept
  have since' : after.progress.lifecycle = .running → after.progress.waitingSince = none := by
    intro running
    rw [turn.waitingSince running]
    by_cases under : s.progress.lifecycle = .running
    · rw [if_pos under]
      exact since under
    · rw [if_neg under]
  rw [← foreseen_unwaited since] at seen
  cases course with
  | closes next closed =>
      rw [seen] at next
      cases next
      rw [traced] at closed
      refine .closed ?_
      rw [pagesOf_one]
      exact closed.of_unwaited
  | @begins left _ _ _ id node stands work idle rest =>
      rw [foreseen_of_work stands work, if_neg idle] at seen
      have same := Option.some.inj seen
      have begun : (Progress.begun s.progress.unwaited).unwaited = after.progress.unwaited :=
        (congrArg (fun pair => pair.1.progress) same).trans traced
      have reply : s.feedback = after.feedback := congrArg Prod.snd same
      have none_shown : [] = e.pages := congrArg (fun pair => pair.1.pages) same
      have unwritten : none = e.row.map Transition.shape :=
        congrArg (fun pair => pair.1.row) same
      have running : after.progress.lifecycle = .running :=
        (congrArg Progress.lifecycle begun).symm
      have still : [e].countP Entry.moves = 0 := by
        have no_row : e.row = none := Option.map_eq_none_iff.mp unwritten.symm
        simp [Entry.moves, no_row]
      refine .goes (Nat.le_refl (left + 1)) (.inl running) since' (.inr ⟨still, reply.symm⟩) ?_
      rw [pagesOf_one, ← none_shown, List.append_nil, ← begun, ← reply]
      exact rest
  | @goes left _ _ _ trace next running rest =>
      rw [seen] at next
      have same := Option.some.inj next
      have shown : e.trace = trace := congrArg Prod.fst same
      have silent : after.feedback = none := congrArg Prod.snd same
      subst shown
      have under : after.progress.lifecycle = .running :=
        (congrArg Progress.lifecycle traced).symm.trans running
      refine .goes (Nat.le_refl (left + 1)) (.inl under) since' (.inl silent) ?_
      rw [pagesOf_one, silent, ← traced]
      exact rest
  | @resumes left _ _ reply later trace kept' next paused rest =>
      rw [seen] at next
      have shown : e.trace = trace := congrArg Prod.fst (Option.some.inj next)
      subst shown
      have waits : after.progress.lifecycle = .feedback :=
        (congrArg Progress.lifecycle traced).symm.trans paused
      refine .paused (Nat.lt_succ_self left) rfl waits ?_
      rw [pagesOf_one, ← traced]
      exact rest

/-- A walk goes along its course. -/
theorem Walk.along (walk : Walk (answersBy (computed fn)) False fr s entries after)
    (since : s.progress.lifecycle = .running → s.progress.waitingSince = none)
    (course : Course fn fr close k ⟨s.progress.unwaited, s.feedback⟩ pages script) :
    Along fn fr close k s.feedback pages script entries after := by
  induction walk generalizing k pages with
  | refl s =>
      refine .goes (Nat.le_refl k) (.inr rfl) since (.inr ⟨rfl, rfl⟩) ?_
      simpa [pagesOf] using course
  | last turn => exact Turn.along turn since course
  | @step s middle after e entries turn running rest ih =>
      have first := Turn.along turn since course
      cases first with
      | @goes left turns more since' silent course' =>
          have split : pages ++ pagesOf [e] ++ pagesOf entries = pages ++ pagesOf (e :: entries) := by
            rw [pagesOf_one, pagesOf_cons, List.append_assoc]
          have one : (e :: entries).countP Entry.moves =
              [e].countP Entry.moves + entries.countP Entry.moves := by
            rw [← List.countP_append]
            rfl
          have next := ih since' course'
          rw [List.length_singleton] at turns
          cases next with
          | @goes left' turns' more' since'' silent' course'' =>
              rw [split] at course''
              have fewer : left' + (e :: entries).length ≤ k := by
                rw [List.length_cons]
                omega
              refine .goes fewer (.inl ?_) since'' ?_
                course''
              · rcases more' with under | rfl
                · exact under
                · cases rest
                  exact running
              · rcases silent' with none_left | ⟨still', same'⟩
                · exact .inl none_left
                · rcases silent with none_left | ⟨still, same⟩
                  · exact .inl (same'.trans none_left)
                  · exact .inr ⟨by omega, same'.trans same⟩
          | closed closed =>
              rw [split] at closed
              exact .closed closed
          | @paused left' reply later turns' isLeft paused course'' =>
              rw [split] at course''
              have fewer : left' < k := by omega
              exact .paused fewer isLeft paused course''
      | closed closed => exact absurd running closed.halted_ne
      | paused turns isLeft paused course' =>
          rw [running] at paused
          cases paused

end

end Pipe

end Tickwork
