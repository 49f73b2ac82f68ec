import Tickwork.Engine.Memory
import Tickwork.Proofs.Action
import Tickwork.Proofs.Calm
import Tickwork.Proofs.Calls

/-!
# Hosts that keep what is written

`Host.Keeps` says that the writes of a host reach a view of its world, that nothing else does, and that
a row which fails its check is refused. The store may still break down right after a write. The world
of a memory store is one such view; the ledger of writes is another one.
-/

set_option autoImplicit false

namespace Tickwork

variable {F W S : Type}

/-- A host whose writes are kept in a view of its world. A write that is kept may still break down, with
a fault that does not end the task. -/
structure Host.Keeps (h : Host F W) (view : W → S)
    (keep : S → Option Transition → Progress → S) : Prop where
  behaviour : ∀ f call w, view (h.behaviour f call w).2 = view w
  now : ∀ w, view (h.now w).2 = view w
  freshEventId : ∀ w, view (h.freshEventId w).2 = view w
  freshTickId : ∀ w, view (h.freshTickId w).2 = view w
  sleep : ∀ delay w, view (h.sleep delay w).2 = view w
  checkpoint : ∀ p w, view ((h.checkpoint p).run w).2 = keep (view w) none p
  checkpoint_calm : ∀ p w fault, ((h.checkpoint p).run w).1 = .error fault → fault.isFatal = false
  record : ∀ t p w, t.check = .ok () → view ((h.record t p).run w).2 = keep (view w) (some t) p
  record_calm : ∀ t p w fault, t.check = .ok () → ((h.record t p).run w).1 = .error fault →
    fault.isFatal = false
  refuse : ∀ t p w fault, t.check = .error fault →
    ((h.record t p).run w).1 = .error fault ∧ view ((h.record t p).run w).2 = view w

/-- A host whose store never breaks down. -/
structure Host.Sturdy (h : Host F W) : Prop where
  checkpoint : ∀ p w, ((h.checkpoint p).run w).1 = .ok ()
  record : ∀ t p w, t.check = .ok () → ((h.record t p).run w).1 = .ok ()

/-- A view after some entries were kept in it. -/
def keepAll (keep : S → Option Transition → Progress → S) (s : S) (entries : List Entry) : S :=
  entries.foldl (fun s e => keep s e.row e.progress) s

theorem keepAll_append (keep : S → Option Transition → Progress → S) (s : S)
    (first second : List Entry) :
    keepAll keep s (first ++ second) = keepAll keep (keepAll keep s first) second :=
  List.foldl_append

/-- Whether a row passes its check does not depend on its names and its time. -/
theorem Transition.check_of_shape {t u : Transition} (same : t.shape = u.shape)
    (fits : u.check = .ok ()) : t.check = .ok () := by
  have fromId : t.fromId = u.fromId := congrArg Shape.fromId same
  have toId : t.toId = u.toId := congrArg Shape.toId same
  have event : t.event = u.event := congrArg Shape.event same
  have reason : t.reason = u.reason := congrArg Shape.reason same
  have attempt : t.attempt = u.attempt := congrArg Shape.attempt same
  have rounds : t.loopIteration = u.loopIteration := congrArg Shape.loopIteration same
  unfold Transition.check Transition.checkReason at fits ⊢
  rw [fromId, toId, event, reason, attempt, rounds]
  by_cases unnamed : u.fromId = "" ∨ u.toId = ""
  · rw [if_pos unnamed] at fits
    cases fits
  · rw [if_neg unnamed] at fits ⊢
    cases known : u.reason with
    | unknown shown =>
        rw [known] at fits
        cases fits
    | known reason =>
        simp only [known] at fits ⊢
        by_cases wrong : (reason.requiredEvent?.getD u.event) ≠ u.event
        · rw [if_pos wrong] at fits
          cases fits
        · rw [if_neg wrong] at fits ⊢
          by_cases moved : reason.isAttempt ∧ u.fromId ≠ u.toId
          · rw [if_pos moved] at fits
            cases fits
          · rw [if_neg moved] at fits ⊢
            by_cases negative : u.attempt < 0 ∨ u.loopIteration < 0
            · rw [if_pos negative] at fits
              cases fits
            · rw [if_neg negative]

/-- Keeps a write in memory: the row if there is one, and the progress. -/
def MemoryStore.keep (m : MemoryStore) : Option Transition → Progress → MemoryStore
  | none, p => m.checkpoint p
  | some t, p => MemoryStore.checkpoint { m with rows := m.rows ++ [t] } p

theorem MemoryStore.record_eq_keep {m : MemoryStore} {t : Transition} (p : Progress)
    (fits : t.check = .ok ()) : m.record t p = .ok (m.keep (some t) p) := by
  simp only [MemoryStore.record, fits]
  rfl

/-! ## The store in memory -/

def besideMemory {α : Type} (act : StateM W α) : StateM (W × MemoryStore) α := fun world =>
  ((act world.1).1, ((act world.1).2, world.2))

/-- A host that writes to a store in memory and has everything else from another host. -/
def Host.overMemory (h : Host F W) : Host F (W × MemoryStore) where
  behaviour f call := besideMemory (h.behaviour f call)
  now := besideMemory h.now
  freshEventId := besideMemory h.freshEventId
  freshTickId := besideMemory h.freshTickId
  sleep delay := besideMemory (h.sleep delay)
  checkpoint p := ExceptT.mk fun world => (.ok (), (world.1, world.2.checkpoint p))
  record t p := ExceptT.mk fun world =>
    match world.2.record t p with
    | .ok m => (.ok (), (world.1, m))
    | .error fault => (.error fault, world)

theorem MemoryStore.record_refused {m : MemoryStore} {t : Transition} {fault : Fault}
    (p : Progress) (refused : t.check = .error fault) : m.record t p = .error fault := by
  simp only [MemoryStore.record, refused]
  rfl

theorem Host.overMemory_record (h : Host F W) (t : Transition) (p : Progress)
    (world : W × MemoryStore) :
    (h.overMemory.record t p).run world =
      match world.2.record t p with
      | .ok m => (.ok (), (world.1, m))
      | .error fault => (.error fault, world) := rfl

theorem Host.overMemory_keeps (h : Host F W) : h.overMemory.Keeps Prod.snd MemoryStore.keep where
  behaviour _ _ _ := rfl
  now _ := rfl
  freshEventId _ := rfl
  freshTickId _ := rfl
  sleep _ _ := rfl
  checkpoint _ _ := rfl
  checkpoint_calm _ _ _ broken := by cases broken
  record t p world fits := by
    rw [overMemory_record, MemoryStore.record_eq_keep p fits]
  record_calm t p world fault fits broken := by
    rw [overMemory_record, MemoryStore.record_eq_keep p fits] at broken
    cases broken
  refuse t p world fault unfit := by
    rw [overMemory_record, MemoryStore.record_refused p unfit]
    exact ⟨rfl, rfl⟩

theorem Host.overMemory_sturdy (h : Host F W) : h.overMemory.Sturdy where
  checkpoint _ _ := rfl
  record t p world fits := by
    rw [overMemory_record, MemoryStore.record_eq_keep p fits]

/-! ## Questions leave the view as it is -/

theorem Host.Keeps.ask {h : Host F W} {view : W → S} {keep : S → Option Transition → Progress → S}
    (keeps : h.Keeps view keep) (q : Engine.Question F) (w : W) :
    view (q.ask h.behaviour w).2 = view w :=
  (q.ask_consults h.behaviour w).view keeps.behaviour

end Tickwork
