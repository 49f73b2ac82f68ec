import Tickwork.Script.Routine

/-!
# What scripts do to the world

A script acts on the world only by its requests, and its calls are counted. Main statement: a property of
the world that the count and the requests preserve is preserved by every callable; so what neither the
count nor a request changes, no callable changes.
-/

set_option autoImplicit false

namespace Tickwork

variable {S V W α β : Type}

/-- What an operation does to a world with a property leaves a world with it. -/
def Preserves (P : W → Prop) (act : StateM W α) : Prop := ∀ w, P w → P (act w).2

/-- Requests leave what `view` shows of the world as it is. -/
def Spares (view : W → V) (perform : S → StateM W Unit) : Prop :=
  ∀ request w, view (perform request w).2 = view w

namespace Evaluation

/-- What an evaluation does to a world with a property leaves a world with it. -/
def Preserves (P : W → Prop) (act : Evaluation W α) : Prop :=
  ∀ state, P state.2 → P (act.run.run state).2.2

namespace Preserves

variable {P : W → Prop}

theorem pure (a : α) : Preserves P (Pure.pure a : Evaluation W α) := fun _ here => here

theorem throw (raised : Raised) : Preserves P (throw raised : Evaluation W α) := fun _ here => here

theorem ofExcept (r : Except Raised α) : Preserves P (Evaluation.ofExcept r : Evaluation W α) :=
  fun _ here => here

theorem context : Preserves P (Evaluation.context : Evaluation W Fields) := fun _ here => here

theorem setEntry (key : String) (v : Value) :
    Preserves P (Evaluation.setEntry key v : Evaluation W Unit) := fun _ here => here

theorem onWorld {act : StateM W α} (preserves : Tickwork.Preserves P act) :
    Preserves P (Evaluation.onWorld act) := fun state here => preserves state.2 here

theorem bind {act : Evaluation W α} {next : α → Evaluation W β} (first : Preserves P act)
    (later : ∀ a, Preserves P (next a)) : Preserves P (act >>= next) := by
  intro state here
  have between := first state here
  cases ran : act.run.run state with
  | mk result after =>
      rw [ran] at between
      have ran' : act state = (result, after) := ran
      cases result with
      | error raised =>
          simp only [ExceptT.run, StateT.run, Bind.bind, ExceptT.bind, ExceptT.mk, StateT.bind, ran',
            ExceptT.bindCont]
          exact between
      | ok a =>
          simp only [ExceptT.run, StateT.run, Bind.bind, ExceptT.bind, ExceptT.mk, StateT.bind, ran',
            ExceptT.bindCont]
          exact later a after between

end Preserves

end Evaluation

namespace Expr

open Evaluation

variable {P : W → Prop} {inputs : Inputs} {perform : S → StateM W Unit}

mutual

/-- What requests preserve, evaluating an expression preserves. -/
theorem eval_preserves (kept : ∀ request, Tickwork.Preserves P (perform request)) (e : Expr S) :
    Evaluation.Preserves P (e.eval inputs perform) := by
  cases e with
  | literal v => exact .pure v
  | items parts => exact .bind (evalItems_preserves kept parts) fun _ => .pure _
  | fields parts => exact .bind (evalFields_preserves kept parts) fun _ => .pure _
  | input name => exact .pure _
  | entry key =>
      refine .bind .context fun context => ?_
      cases Fields.get? key context with
      | some v => exact .pure v
      | none => exact .throw _
  | entryOr key fallback =>
      refine .bind .context fun context => ?_
      cases Fields.get? key context with
      | some v => exact .pure v
      | none => exact eval_preserves kept fallback
  | wholeContext => exact .bind .context fun _ => .pure _
  | add a b =>
      exact .bind (eval_preserves kept a) fun _ => .bind (eval_preserves kept b) fun _ =>
        .bind (.ofExcept _) fun _ => .bind (.ofExcept _) fun _ => .pure _
  | less a b =>
      exact .bind (eval_preserves kept a) fun _ => .bind (eval_preserves kept b) fun _ =>
        .bind (.ofExcept _) fun _ => .bind (.ofExcept _) fun _ => .pure _
  | equal a b =>
      exact .bind (eval_preserves kept a) fun _ => .bind (eval_preserves kept b) fun _ =>
        .bind (.ofExcept _) fun _ => .bind (.ofExcept _) fun _ => .pure _
  | join parts =>
      exact .bind (evalItems_preserves kept parts) fun _ => .bind (.ofExcept _) fun _ => .pure _
  | choose test yes no =>
      refine .bind (eval_preserves kept test) fun v => ?_
      split
      · exact eval_preserves kept yes
      · exact eval_preserves kept no
  | pick position options =>
      exact .bind (eval_preserves kept position) fun _ => .bind (.ofExcept _) fun _ =>
        evalAt_preserves kept _ options
  | assign key value rest =>
      exact .bind (eval_preserves kept value) fun _ => .bind (.setEntry _ _) fun _ =>
        eval_preserves kept rest
  | raise raised => exact .throw raised
  | record kind parts =>
      exact .bind (evalFields_preserves kept parts) fun _ => .ofExcept _
  | aside request rest =>
      exact .bind (.onWorld (kept request)) fun _ => eval_preserves kept rest

theorem evalItems_preserves (kept : ∀ request, Tickwork.Preserves P (perform request))
    (parts : List (Expr S)) :
    Evaluation.Preserves P (evalItems inputs perform parts) := by
  cases parts with
  | nil => exact .pure _
  | cons e rest =>
      exact .bind (eval_preserves kept e) fun _ => .bind (evalItems_preserves kept rest) fun _ => .pure _

theorem evalFields_preserves (kept : ∀ request, Tickwork.Preserves P (perform request))
    (parts : List (Key × Expr S)) :
    Evaluation.Preserves P (evalFields inputs perform parts) := by
  cases parts with
  | nil => exact .pure _
  | cons head rest =>
      obtain ⟨key, e⟩ := head
      exact .bind (eval_preserves kept e) fun _ => .bind (evalFields_preserves kept rest) fun _ => .pure _

theorem evalAt_preserves (kept : ∀ request, Tickwork.Preserves P (perform request))
    (index : Nat) (options : List (Expr S)) :
    Evaluation.Preserves P (evalAt inputs perform index options) := by
  cases options with
  | nil =>
      cases index <;> exact .pure _
  | cons e rest =>
      cases index with
      | zero => exact eval_preserves kept e
      | succ index => exact evalAt_preserves kept index rest

end

end Expr

namespace Routine

variable {around : Surroundings S W}

/-- What the count of calls and the requests preserve, every callable preserves. -/
theorem behaviour_preserves {P : W → Prop} (counted : ∀ site, Preserves P (around.count site))
    (preserves : ∀ request, Preserves P (around.perform request)) (f : Routine S) (call : Call) :
    Preserves P (behaviour around f call) := by
  intro w here
  cases f with
  | script site body =>
      have kept : Evaluation.Preserves P
          (body.eval (("calls", .int (around.count site w).1) :: call.inputs) around.perform) :=
        Expr.eval_preserves preserves body
      exact kept (call.context, (around.count site w).2) (counted site w here)
  | reviewDraft part => exact here
  | magicEight part => exact here

/-- What neither the count of calls nor a request changes, no callable changes. -/
theorem behaviour_leaves {view : W → V} (counted : ∀ site w, view (around.count site w).2 = view w)
    (spares : Spares view around.perform) (f : Routine S) (call : Call) (w : W) :
    view (behaviour around f call w).2 = view w :=
  behaviour_preserves (P := fun w' => view w' = view w) (fun site w' here => (counted site w').trans here)
    (fun request w' here => (spares request w').trans here) f call w rfl

end Routine

end Tickwork
