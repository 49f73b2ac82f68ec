import Tickwork.Proofs.Landings

/-!
# Contexts over their defaults

A tick lays the context of its task over the defaults of the graph. Once that is done the keys of the
defaults stay in front, in their order, whatever is merged later; so laying the context over the defaults
once more changes nothing, and a task can be picked up from what was written last.
-/

set_option autoImplicit false

namespace Tickwork

variable {F : Type}

namespace Key

theorem same_self (key : Key) : key.same key = true := by
  have reflexive : ∀ q : Quantity, q.same q = true := by
    intro q
    unfold Quantity.same Quantity.atMost
    cases placed : q.place? with
    | none => rfl
    | some place =>
        cases place with
        | fraction num den => simp [Quantity.Place.below]
        | bottom => rfl
        | top => rfl
  unfold same
  cases counted : key.quantity? with
  | none => simp
  | some q => exact reflexive q

end Key

namespace Fields

/-- No key comes twice, as in every mapping. -/
def Distinct (fields : Fields) : Prop :=
  fields.Pairwise fun first second => first.1.same second.1 = false

/-- A mapping whose keys begin with those of a base. -/
structure Over (base fields : Fields) : Prop where
  distinct : fields.Distinct
  front : base.map Prod.fst <+: fields.map Prod.fst

theorem put_append {key : Key} {value : Value} {front : Fields} (rest : Fields)
    (fresh : ∀ entry ∈ front, entry.1.same key = false) :
    put key value (front ++ rest) = front ++ put key value rest := by
  induction front with
  | nil => rfl
  | cons head front ih =>
      obtain ⟨k, v⟩ := head
      have apart : k.same key = false := fresh (k, v) List.mem_cons_self
      have later := ih fun entry inside => fresh entry (List.mem_cons_of_mem _ inside)
      simp only [List.cons_append, put, apart, Bool.false_eq_true, if_false, later]

theorem put_new {key : Key} {value : Value} {fields : Fields}
    (fresh : ∀ entry ∈ fields, entry.1.same key = false) :
    put key value fields = fields ++ [(key, value)] := by
  have appended : put key value (fields ++ []) = fields ++ put key value [] :=
    put_append [] fresh
  rw [List.append_nil] at appended
  exact appended

/-- A key is either there, in which case the keys stay as they are, or it comes last. -/
theorem put_cases (key : Key) (value : Value) (fields : Fields) :
    (put key value fields).map Prod.fst = fields.map Prod.fst ∨
      ∀ entry ∈ fields, entry.1.same key = false := by
  induction fields with
  | nil => exact .inr fun entry inside => absurd inside List.not_mem_nil
  | cons head rest ih =>
      obtain ⟨k, v⟩ := head
      by_cases same : k.same key = true
      · refine .inl ?_
        simp only [put, same, if_true, List.map_cons]
      · have apart : k.same key = false := by simpa using same
        rcases ih with kept | fresh
        · refine .inl ?_
          simp only [put, apart, Bool.false_eq_true, if_false, List.map_cons, kept]
        · refine .inr ?_
          intro entry inside
          rcases List.mem_cons.mp inside with rfl | later
          · exact apart
          · exact fresh entry later

theorem distinct_iff_keys (fields : Fields) :
    fields.Distinct ↔
      (fields.map Prod.fst).Pairwise fun first second => first.same second = false := by
  unfold Distinct
  rw [List.pairwise_map]

namespace Over

variable {base fields : Fields}

theorem refl (distinct : base.Distinct) : Over base base :=
  ⟨distinct, List.prefix_rfl⟩

theorem put (based : Over base fields) (key : Key) (value : Value) :
    Over base (Fields.put key value fields) := by
  rcases put_cases key value fields with kept | fresh
  · refine ⟨?_, ?_⟩
    · rw [distinct_iff_keys, kept, ← distinct_iff_keys]
      exact based.distinct
    · rw [kept]
      exact based.front
  · rw [put_new fresh]
    refine ⟨?_, ?_⟩
    · refine List.pairwise_append.mpr ⟨based.distinct, List.pairwise_singleton _ _, ?_⟩
      intro entry inside last atEnd
      rw [List.mem_singleton.mp atEnd]
      exact fresh entry inside
    · rw [List.map_append]
      exact based.front.trans (List.prefix_append _ _)

theorem overlay (based : Over base fields) (changes : Fields) :
    Over base (Fields.overlay fields changes) := by
  induction changes generalizing fields with
  | nil => exact based
  | cons change rest ih => exact ih (based.put change.1 change.2)

end Over

/-- Entries laid over a base whose keys come first among theirs take its place. The part `front` is
there already. -/
theorem overlay_append {front base fields : Fields} (distinct : (front ++ fields).Distinct)
    (keys : base.map Prod.fst <+: fields.map Prod.fst) :
    overlay (front ++ base) fields = front ++ fields := by
  induction fields generalizing front base with
  | nil =>
      have none_left : base = [] := by simpa using keys
      rw [none_left]
      rfl
  | cons head rest ih =>
      obtain ⟨k, v⟩ := head
      have fresh : ∀ entry ∈ front, entry.1.same k = false := by
        intro entry inside
        have apart := (List.pairwise_append.mp distinct).2.2 entry inside (k, v)
          List.mem_cons_self
        exact apart
      have step : overlay (front ++ base) ((k, v) :: rest) =
          overlay (front ++ put k v base) rest := by
        rw [← put_append base fresh]
        rfl
      have shifted : front ++ (k, v) :: rest = (front ++ [(k, v)]) ++ rest := by simp
      rw [shifted] at distinct ⊢
      rw [step]
      cases base with
      | nil =>
          have one : front ++ put k v [] = (front ++ [(k, v)]) ++ [] := by simp [put]
          rw [one]
          exact ih distinct List.nil_prefix
      | cons first base =>
          obtain ⟨k', v'⟩ := first
          obtain ⟨same, later⟩ := List.cons_prefix_cons.mp keys
          simp only at same
          subst same
          have one : front ++ put k' v ((k', v') :: base) = (front ++ [(k', v)]) ++ base := by
            simp [put, Key.same_self]
          rw [one]
          exact ih distinct later

theorem Over.overlay_self {base fields : Fields} (based : Over base fields) :
    Fields.overlay base fields = fields := by
  have alone : ([] ++ fields : Fields).Distinct := based.distinct
  exact overlay_append alone based.front

end Fields

/-! ## Turns keep the defaults in front -/

namespace Engine

variable {answers : Question F → Except Raised Value → Prop} {capped : Prop} {fr : Frame F}
variable {base : Fields}

theorem Progress.merge_over {base : Fields} {p : Progress} (based : Fields.Over base p.context)
    (data : Option Fields) : Fields.Over base (Progress.merge p data).context := by
  cases data with
  | none => exact based
  | some changes => exact based.overlay changes

theorem reacted_over {id : String} {s : Stance} {node : State F} {answer : Except Raised Value}
    (based : Fields.Over base s.progress.context) :
    Fields.Over base (reacted id s node answer).after.progress.context := by
  cases node with
  | action handler routes retry =>
      unfold reacted actionReacted attempted judged concluded Progress.settled
      simp only
      repeat' split
      all_goals first | exact based | exact Progress.merge_over based _
  | orchestrate routes handler selector =>
      unfold reacted handlerReacted selectorReacted
      simp only
      repeat' split
      all_goals exact based
  | loop body bound routes stop =>
      unfold reacted loopReacted
      simp only
      repeat' split
      all_goals exact based
  | feedback resume => exact based
  | terminal status message => exact based
  | unsupported v => exact based

theorem Landing.over {g : Graph F} {id : String} {node : State F} {now : Instant} {p q : Progress}
    {verdict : Verdict} {shape : Shape} (lands : Landing g id node now p verdict shape q)
    (based : Fields.Over base p.context) : Fields.Over base q.context := by
  cases lands with
  | again reason attempt => exact based
  | @left step target targetNode q leads found arrives =>
      rw [arrives.context]
      exact Progress.merge_over based step.data

theorem Visit.over {s : Stance} {id : String} {node : State F} {j : Judgement Verdict}
    (visit : Visit answers fr s id node j) (based : Fields.Over base s.progress.context) :
    Fields.Over base j.after.progress.context := by
  obtain ⟨q, answer, -, -, rfl⟩ := visit.answered
  exact reacted_over based

theorem Doomed.over {s after : Stance} {cause : FatalCause} {taskId : Option String}
    (doomed : Doomed answers capped fr s cause taskId after)
    (based : Fields.Over base s.progress.context) :
    Fields.Over base after.progress.context := by
  cases doomed with
  | missing absent => exact based
  | spent transitions stands work cap => exact based
  | unasked stands work running unresolved => exact based
  | judged visit refused => exact visit.over based
  | unrouted visit decided astray => exact visit.over based

theorem Turn.over {s after : Stance} {e : Entry} (turn : Turn answers capped fr s e after)
    (based : Fields.Over base s.progress.context) :
    Fields.Over base after.progress.context := by
  cases turn with
  | begin stands work idle => exact based
  | halt stands => exact based
  | rest stands resumes => exact based
  | visit visit decided lands owner fits =>
      exact (landing_of_landed lands).over (visit.over based)
  | fail doomed => exact doomed.over based

theorem Walk.over {s after : Stance} {entries : List Entry}
    (walk : Walk answers capped fr s entries after)
    (based : Fields.Over base s.progress.context) :
    Fields.Over base after.progress.context := by
  induction walk with
  | refl s => exact based
  | last turn => exact turn.over based
  | step turn running rest ih => exact ih (turn.over based)

/-! ## A task that a tick has prepared -/

theorem prepare_over {g : Graph F} (distinct : g.context.Distinct) (p : Progress) :
    Fields.Over g.context (prepare g p).context :=
  (Fields.Over.refl distinct).overlay p.context

/-- A tick that starts where another one stood finds the task as that one left it. -/
theorem prepare_of_over {g : Graph F} {p : Progress} {id : String}
    (based : Fields.Over g.context p.context) (current : p.currentStateId = some id) :
    prepare g p = p := by
  unfold prepare
  rw [based.overlay_self, current]
  cases p
  simp only at current
  rw [current]
  rfl

end Engine

end Tickwork
