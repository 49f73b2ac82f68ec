import Tickwork.Proofs.CutRuns

/-!
# Stretches

A stretch is what is ahead of a task until it rests: the foreseen turns, with the rows and pages that they
write and the progress that they end with. Main statement: an advance goes along the stretch ahead. It
reports no fault; it writes all that is left, or at least one row of it, and then the rest is ahead.
-/

set_option autoImplicit false

namespace Tickwork

variable {F W : Type}

open Engine

/-! ## Answers by a function -/

/-- Whatever a graph asks, callables answer by a function. Callables that the graph does not name may do as
they like. -/
def Behaviour.Recites (b : Behaviour F W) (reply : F → Call → Answer) (g : Graph F) : Prop :=
  ∀ (fr : Frame F) (id : String) (node : State F) (s : Stance) (q : Question F) (w : W),
    fr.graph = g → g.state? id = some node → question fr id s node = .ok q →
      (q.ask b w).1 = recite reply q

/-- The answers that callables may give to a question. -/
def Behaviour.Gives (b : Behaviour F W) (q : Question F) (answer : Except Raised Value) : Prop :=
  ∃ w, (q.ask b w).1 = answer

namespace Engine

variable {b : Behaviour F W} {reply : F → Call → Answer} {capped : Prop} {fr : Frame F}
variable {s after : Stance} {e : Entry} {entries : List Entry}

section Recited

variable (recites : b.Recites reply fr.graph)

include recites

theorem Visit.recited {id : String} {node : State F} {j : Judgement Verdict}
    (visit : Visit b.Gives fr s id node j) : Visit (answersBy reply) fr s id node j := by
  obtain ⟨q, answer, asked, ⟨w, given⟩, reaction⟩ := visit.answered
  have recited : answer = recite reply q := by
    rw [← given]
    exact recites fr id node s q w rfl visit.stands.2 asked
  exact ⟨visit.stands, visit.work, visit.running, q, answer, asked, recited, reaction⟩

theorem Doomed.recited {cause : FatalCause} {taskId : Option String}
    (doomed : Doomed b.Gives capped fr s cause taskId after) :
    Doomed (answersBy reply) capped fr s cause taskId after := by
  cases doomed with
  | missing absent => exact .missing absent
  | spent transitions stands work cap => exact .spent transitions stands work cap
  | unasked stands work running unresolved => exact .unasked stands work running unresolved
  | judged visit refused => exact .judged (visit.recited recites) refused
  | unrouted visit decided astray => exact .unrouted (visit.recited recites) decided astray

theorem Turn.recited (turn : Turn b.Gives capped fr s e after) :
    Turn (answersBy reply) capped fr s e after := by
  cases turn with
  | begin stands work idle => exact .begin stands work idle
  | halt stands => exact .halt stands
  | rest stands resumes => exact .rest stands resumes
  | visit visit decided lands owner fits =>
      exact .visit (visit.recited recites) decided lands owner fits
  | fail doomed => exact .fail (doomed.recited recites)

theorem Walk.recited (walk : Walk b.Gives capped fr s entries after) :
    Walk (answersBy reply) capped fr s entries after := by
  induction walk with
  | refl s => exact .refl s
  | last turn => exact .last (turn.recited recites)
  | step turn running rest ih => exact .step (turn.recited recites) running ih

end Recited

/-! ## Stretches -/

/-- What is ahead from a stance: the rows and pages of the foreseen turns, until the task is left as `final`.
Once a row is written no reply is left to hand out. -/
inductive Stretch (reply : F → Call → Answer) (g : Graph F) (task : TaskInfo) (final : Progress) :
    Stance → List Shape → List Value → Prop
  | rests {s : Stance} {row : Option Shape} {pages : List Value} {kept : Option String}
      (next : foreseen reply ⟨g, task, "", ""⟩ s = some (⟨row, final, pages⟩, kept))
      (halted : final.lifecycle ≠ .running) : Stretch reply g task final s row.toList pages
  | goes {s : Stance} {row : Option Shape} {p : Progress} {pages : List Value} {kept : Option String}
      {shapes : List Shape} {later : List Value}
      (next : foreseen reply ⟨g, task, "", ""⟩ s = some (⟨row, p, pages⟩, kept))
      (running : p.lifecycle = .running) (silent : kept = none ∨ row = none)
      (rest : Stretch reply g task final ⟨p, kept⟩ shapes later) :
      Stretch reply g task final s (row.toList ++ shapes) (pages ++ later)

section Along

variable {g : Graph F} {task : TaskInfo} {final : Progress} {shapes : List Shape} {pages : List Value}

/-- How far a walk has come along a stretch: all the way, or a stretch is left. -/
inductive Along (reply : F → Call → Answer) (g : Graph F) (task : TaskInfo) (final : Progress)
    (shapes : List Shape) (pages : List Value) (entries : List Entry) (after : Stance) : Prop
  | rested (rows : (rowsOf entries).map Transition.shape = shapes) (shown : pagesOf entries = pages)
      (halted : final.lifecycle ≠ .running) (here : after.progress.unwaited = final)
  | goes {left : List Shape} {later : List Value}
      (rows : (rowsOf entries).map Transition.shape ++ left = shapes)
      (shown : pagesOf entries ++ later = pages) (more : Open entries after)
      (since : after.progress.lifecycle = .running → after.progress.waitingSince = none)
      (silent : after.feedback = none ∨ rowsOf entries = [])
      (rest : Stretch reply g task final ⟨after.progress.unwaited, after.feedback⟩ left later)

theorem rowsOf_one (e : Entry) : rowsOf [e] = e.row.toList := by
  rw [rowsOf_cons]
  exact List.append_nil _

theorem map_toList_shape (row : Option Transition) :
    row.toList.map Transition.shape = (row.map Transition.shape).toList := by
  cases row <;> rfl

theorem Turn.along_stretch (turn : Turn (answersBy reply) False ⟨g, task, "", ""⟩ s e after)
    (since : s.progress.lifecycle = .running → s.progress.waitingSince = none)
    (stretch : Stretch reply g task final ⟨s.progress.unwaited, s.feedback⟩ shapes pages) :
    Along reply g task final shapes pages [e] after := by
  have seen := turn.foreseen
  rw [← foreseen_unwaited since] at seen
  have traced : e.trace.progress = after.progress.unwaited := congrArg Progress.unwaited turn.progress
  cases stretch with
  | rests next halted =>
      rw [seen] at next
      have same : e.trace = _ := congrArg Prod.fst (Option.some.inj next)
      refine .rested ?_ ?_ halted (traced.symm.trans (congrArg Trace.progress same))
      · rw [rowsOf_one, map_toList_shape]
        exact congrArg (fun trace => trace.row.toList) same
      · rw [pagesOf_one]
        exact congrArg Trace.pages same
  | @goes _ row p shown kept left later next running silent rest =>
      rw [seen] at next
      have same : e.trace = _ := congrArg Prod.fst (Option.some.inj next)
      have given : after.feedback = kept := congrArg Prod.snd (Option.some.inj next)
      have here : after.progress.unwaited = p := traced.symm.trans (congrArg Trace.progress same)
      have row_eq : e.row.map Transition.shape = row := congrArg Trace.row same
      have under : after.progress.lifecycle = .running :=
        (congrArg Progress.lifecycle here).trans running
      have wrote : (rowsOf [e]).map Transition.shape ++ left = row.toList ++ left := by
        rw [rowsOf_one, map_toList_shape, row_eq]
      have showed : pagesOf [e] ++ later = shown ++ later := by
        rw [pagesOf_one]
        exact congrArg (· ++ later) (congrArg Trace.pages same)
      refine .goes wrote showed (.inl under) ?_ ?_ ?_
      · intro _
        rw [turn.waitingSince under]
        by_cases before : s.progress.lifecycle = .running
        · rw [if_pos before]
          exact since before
        · rw [if_neg before]
      · rcases silent with none_left | unwritten
        · exact .inl (given.trans none_left)
        · right
          rw [unwritten] at row_eq
          rw [rowsOf_one, Option.map_eq_none_iff.mp row_eq]
          rfl
      · rw [here, given]
        exact rest

/-- A walk goes along the stretch ahead. -/
theorem Walk.along_stretch (walk : Walk (answersBy reply) False ⟨g, task, "", ""⟩ s entries after)
    (since : s.progress.lifecycle = .running → s.progress.waitingSince = none)
    (stretch : Stretch reply g task final ⟨s.progress.unwaited, s.feedback⟩ shapes pages) :
    Along reply g task final shapes pages entries after := by
  induction walk generalizing shapes pages with
  | refl s => exact .goes rfl rfl (.inr rfl) since (.inr rfl) stretch
  | last turn => exact turn.along_stretch since stretch
  | @step s middle after e entries turn running rest ih =>
      cases turn.along_stretch since stretch with
      | rested rows shown halted here =>
          exact absurd ((congrArg Progress.lifecycle here).symm.trans running) halted
      | goes rows shown more since' silent stretch' =>
          have split := rowsOf_append [e] entries
          have split' : pagesOf ([e] ++ entries) = pagesOf [e] ++ pagesOf entries := by
            rw [pagesOf_one]
            rfl
          rw [List.singleton_append] at split split'
          cases ih since' stretch' with
          | rested rows' shown' halted here =>
              refine .rested ?_ ?_ halted here
              · rw [split, List.map_append, rows', rows]
              · rw [split', shown', shown]
          | goes rows' shown' more' since'' silent' stretch'' =>
              refine .goes ?_ ?_ ?_ since'' ?_ stretch''
              · rw [split, List.map_append, List.append_assoc, rows', rows]
              · rw [split', List.append_assoc, shown', shown]
              · rcases more' with under | rfl
                · exact .inl under
                · cases rest
                  exact .inl running
              · rcases silent with none_left | unwritten
                · exact .inl (rest.silent none_left)
                · refine silent'.imp_right fun unwritten' => ?_
                  rw [split, unwritten, unwritten', List.append_nil]

end Along

end Engine

/-! ## Advances -/

/-- A task whose context lies over the defaults of its graph and that stands somewhere. -/
structure Progress.Settled (g : Graph F) (p : Progress) : Prop where
  based : Fields.Over g.context p.context
  placed : ∃ id, p.currentStateId = some id

theorem Progress.Settled.prepare {g : Graph F} {p : Progress} (settled : p.Settled g) :
    prepare g p = p := by
  obtain ⟨based, id, current⟩ := settled
  exact prepare_of_over based current

/-- A task under way whose next advance, with a reply or without, has a stretch ahead. -/
structure OnStretch (reply : F → Call → Answer) (g : Graph F) (task : TaskInfo) (final p : Progress)
    (given : Option String) (shapes : List Shape) (pages : List Value) : Prop where
  active : p.lifecycle.isTerminal = false
  counted : p.Counted
  since : p.lifecycle = .running → p.waitingSince = none
  stretch : Stretch reply g task final ⟨(prepare g p).unwaited, acceptedReply p given⟩ shapes pages

/-- What is left of the stretch ahead once some rows are written and some pages shown. -/
inductive Strode (reply : F → Call → Answer) (g : Graph F) (task : TaskInfo) (final : Progress)
    (shapes : List Shape) (pages : List Value) (rows : List Transition) (shown : List Value)
    (p : Progress) : Prop
  | rested (wrote : rows.map Transition.shape = shapes) (showed : shown = pages)
      (here : p.unwaited = final)
  | goes {left : List Shape} {later : List Value} (wrote : rows.map Transition.shape ++ left = shapes)
      (moved : rows ≠ []) (showed : shown ++ later = pages) (running : p.lifecycle = .running)
      (ahead : OnStretch reply g task final p none left later)

/-- What an advance over a store in memory comes to that goes along a stretch. -/
structure Strides (reply : F → Call → Answer) (g : Graph F) (task : TaskInfo) (final : Progress)
    (shapes : List Shape) (pages : List Value) (p : Progress) (m : MemoryStore)
    (came : (Except Fault Finish × Progress) × (W × MemoryStore)) : Prop where
  returned : ∃ finish rows, came.1.1 = .ok finish ∧
    came.2.2.rowsFor p.taskId = m.rowsFor p.taskId ++ rows ∧
    Strode reply g task final shapes pages rows finish.pages came.1.2
  owner : came.1.2.taskId = p.taskId
  counted : came.1.2.Counted
  settled : came.1.2.lifecycle.isTerminal = false → came.1.2.Settled g

section Advances

variable {h : Host F W} {reply : F → Call → Answer} {g : Graph F} {task : TaskInfo}
variable {final p : Progress} {given : Option String} {shapes : List Shape} {pages : List Value}

/-- Among writes that moved the task there is a row. -/
theorem rowsOf_ne_nil {entries : List Entry} (moved : 1 ≤ entries.countP Entry.moves) :
    rowsOf entries ≠ [] := by
  obtain ⟨e, inside, moves⟩ := List.countP_pos_iff.mp moved
  intro unwritten
  obtain ⟨row, written, -⟩ := (Option.any_eq_true _ _).mp moves
  have there : row ∈ rowsOf entries := List.mem_filterMap.mpr ⟨e, inside, written⟩
  rw [unwritten] at there
  cases there

/-- A walk that stopped the task or moved it has come along the stretch. -/
theorem strode_of_along {entries : List Entry} {s : Stance}
    (along : Along reply g task final shapes pages entries s) (counted : s.progress.Counted)
    (settled : s.progress.lifecycle.isTerminal = false → s.progress.Settled g)
    (left : entries ≠ [] ∧ s.progress.lifecycle ≠ .running ∨ 1 ≤ entries.countP Entry.moves) :
    Strode reply g task final shapes pages (rowsOf entries) (pagesOf entries) s.progress := by
  cases along with
  | rested rows shown halted here => exact .rested rows shown here
  | goes rows shown more since silent rest =>
      rcases left with ⟨wrote, halted⟩ | some_moved
      · exact absurd (more.resolve_right wrote) halted
      · have moved := rowsOf_ne_nil some_moved
        have running : s.progress.lifecycle = .running := by
          refine more.resolve_right ?_
          rintro rfl
          exact moved rfl
        have active := alive_of_running running
        have unanswered : acceptedReply s.progress none = none := by simp [acceptedReply]
        refine .goes rows moved shown running ⟨active, counted, since, ?_⟩
        rw [(settled active).prepare, unanswered]
        rw [silent.resolve_right moved] at rest
        exact rest

/-- An advance goes along the stretch ahead. -/
theorem OnStretch.advance (ahead : OnStretch reply g task final p given shapes pages) (sound : g.Sound)
    (waitable : g.Waitable) (distinct : g.context.Distinct)
    (recites : h.overMemory.behaviour.Recites reply g) (mild : final.lifecycle ≠ .failed)
    {budget : Budget} (paced : budget.Paced) (runId : String) (tickId : Option String)
    (world : W × MemoryStore) :
    Strides reply g task final shapes pages p world.2
      (Engine.advance h.overMemory budget g task runId tickId given p world) := by
  have serves : Serves h.overMemory h.overMemory.behaviour.Gives Prod.snd MemoryStore.keep :=
    ⟨h.overMemory_keeps, fun _ w => ⟨w, rfl⟩⟩
  obtain ⟨tick, entries, s, walk, seen, ending⟩ := advance_walks serves
    (Graph.fit_of_valid sound.valid) budget task runId tickId given p world ahead.active
    (.inl paced.within : _ ∨ False)
  have counted := walk.counted (prepare_counted ahead.counted)
  have settled : s.progress.lifecycle.isTerminal = false → s.progress.Settled g := fun active =>
    ⟨walk.over (prepare_over distinct p), walk.placed_of_alive ⟨_, rfl⟩ active⟩
  obtain ⟨owner, owners, -⟩ := walk.owner
  have same : s.progress.taskId = p.taskId := owner
  have rows : (keepAll MemoryStore.keep world.2 entries).rowsFor p.taskId =
      world.2.rowsFor p.taskId ++ rowsOf entries := by
    rw [MemoryStore.rowsFor_keepAll]
    congr 1
    exact List.filter_eq_self.mpr fun row inside => beq_iff_eq.mpr (owners row inside)
  have recited : Walk (answersBy reply) False ⟨g, task, runId, tick⟩
      ⟨prepare g p, acceptedReply p given⟩ entries s := walk.recited recites
  have along := (recited.rename "" "").along_stretch ahead.since ahead.stretch
  generalize Engine.advance h.overMemory budget g task runId tickId given p world = came
    at seen ending ⊢
  obtain ⟨⟨result, q⟩, after⟩ := came
  simp only at seen ending
  rw [← seen] at rows
  cases ending with
  | stopped wrote halted ending events shown =>
      refine ⟨⟨_, _, rfl, rows, ?_⟩, same, counted, settled⟩
      rw [shown]
      exact strode_of_along along counted settled (.inl ⟨wrote, halted⟩)
  | spent more count ahead' work ending events shown =>
      refine ⟨⟨_, _, rfl, rows, ?_⟩, same, counted, settled⟩
      rw [shown]
      exact strode_of_along along counted settled (.inr (count ▸ paced.moves))
  | failed wrote lifecycle error placed =>
      cases along with
      | rested rows shown halted here =>
          exact absurd ((congrArg Progress.lifecycle here).symm.trans lifecycle) mild
      | goes rows shown more since silent rest =>
          have running := more.resolve_right wrote
          rw [lifecycle] at running
          cases running
  | escaped calm escape =>
      exact (escape.impossible sound h.overMemory_sturdy waitable counted calm).elim

end Advances

end Tickwork
