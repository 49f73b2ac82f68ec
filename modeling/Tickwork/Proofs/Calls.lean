import Tickwork.Proofs.Turn

/-!
# Calls that a question makes

A question may call several callables, one after the other, and nothing else touches the world meanwhile:
`Consults` is what becomes of the world. A fact about single calls carries over to questions by
induction on it.
-/

set_option autoImplicit false

namespace Tickwork

variable {F W : Type}

/-- The world goes on while callables are called, one after the other. -/
inductive Consults (b : Behaviour F W) (w : W) : W → Prop
  | still : Consults b w w
  | called {w' : W} (before : Consults b w w') (f : F) (call : Call) : Consults b w (b f call w').2

namespace Consults

variable {b : Behaviour F W} {w : W}

theorem view {S : Type} {view : W → S} (same : ∀ f call w, view (b f call w).2 = view w) {w' : W}
    (consults : Consults b w w') : view w' = view w := by
  induction consults with
  | still => rfl
  | called before f call ih => exact (same f call _).trans ih

theorem slot {w' : W} (before : Consults b w w') (slot : Slot F) (call : Call) :
    Consults b w (slot.call b call w').2 := by
  cases slot with
  | code f scope => exact before.called f _
  | absent => exact before
  | named name => exact before
  | inert v => exact before

theorem prompt {w' : W} (before : Consults b w w') (input : HandlerInput) (prompt : Slot F) :
    Consults b w (renderPrompt b input prompt w').2 := by
  cases prompt with
  | code f scope => exact before.called f _
  | absent => exact before
  | named name => exact before
  | inert v => exact before

theorem parser {w' : W} (before : Consults b w w') (input : HandlerInput) (reply : String)
    (reader : Option (ReplyReader F)) : Consults b w (parseReply b input reply reader w').2 := by
  match reader with
  | none => exact before
  | some (.report parse) => exact before.slot parse _
  | some (.changes parse) => exact before.slot parse _

theorem runAsk (prompt : Slot F) (reader : Option (ReplyReader F)) (input : HandlerInput) :
    Consults b w (runAsk b prompt reader input w).2 := by
  have asked := (Consults.still (b := b) (w := w)).prompt input prompt
  simp only [Tickwork.runAsk, bind, StateT.bind]
  cases rendered : renderPrompt b input prompt w with
  | mk answer world =>
      obtain ⟨value, context⟩ := answer
      rw [rendered] at asked
      cases value with
      | error e => exact asked
      | ok prompt =>
          simp only
          cases readReply input.feedback context with
          | none => exact asked
          | some reply => exact asked.parser _ reply reader

theorem handler (handler : Handler F) (input : HandlerInput) :
    Consults b w (handler.run b input w).2 := by
  cases handler with
  | slot ref => exact still.slot ref _
  | ask prompt reader => exact runAsk prompt reader input
  | publish render => exact still.slot render _
  | merge run => exact still.called run _
  | decide select branches hasOtherwise => exact still.called select _

theorem selector (selector : Selector F) (input : SelectorInput) :
    Consults b w (selector.run b input w).2 := by
  cases selector with
  | slot ref => exact still.slot ref _
  | route select known => exact still.slot select _

end Consults

/-- All that a question does to the world is to call callables. -/
theorem Engine.Question.ask_consults (b : Behaviour F W) (q : Question F) (w : W) :
    Consults b w (q.ask b w).2 := by
  cases q with
  | handler handler input => exact .handler handler input
  | selector selector input => exact .selector selector input
  | guard slot input => exact Consults.still.slot slot _
  | nothing => exact .still

end Tickwork
