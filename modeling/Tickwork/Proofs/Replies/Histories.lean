import Tickwork.Proofs.Replies.Scenes
import Tickwork.Proofs.Replies.Stored

/-!
# Histories of a tick among others

A history tells what was done to the tables while a worker ticks and others give replies to its task. A
reply that was accepted is kept until the worker, having loaded it, writes; unless it came at a heedless
moment, in which the worker has loaded the paused task and has not written yet. `Ahead` holds of a history
before the worker loads the task, `Under` while the worker may write, `Sound` always; main statements
are what a moment of each kind makes of them.
-/

set_option autoImplicit false

namespace Tickwork

/-- The tables after some moments. -/
def tablesAfter (t : Tables) (moments : List Moment) : Tables :=
  (moments.getLast?.map Moment.tables).getD t

/-- The worker has loaded a paused task and has not written yet. -/
def Heedless (moments : List Moment) : Prop :=
  (∃ p t, ⟨.loaded p, t⟩ ∈ moments ∧ p.lifecycle = .feedback) ∧ ∀ p t, ⟨.wrote p, t⟩ ∉ moments

/-- The worker has loaded a progress that a reply is in. -/
def Noticed (text : String) (moments : List Moment) : Prop :=
  ∃ p t, ⟨.loaded p, t⟩ ∈ moments ∧ Fields.get? replyKey p.context = some (.str text)

/-- The worker has loaded a progress that a reply is in, and has written afterwards. -/
def Heeded (text : String) (moments : List Moment) : Prop :=
  ∃ p t q t', List.Sublist [⟨.loaded p, t⟩, ⟨.wrote q, t'⟩] moments ∧
    Fields.get? replyKey p.context = some (.str text)

theorem Heeded.noticed {text : String} {moments : List Moment} (heeded : Heeded text moments) :
    Noticed text moments := by
  obtain ⟨p, t, q, t', inside, seen⟩ := heeded
  exact ⟨p, t, inside.subset List.mem_cons_self, seen⟩

/-- Something holds of every reply that was accepted, but at a heedless moment, and of what was done
since. -/
def EveryReply (history : List Moment) (P : String → List Moment → Prop) : Prop :=
  ∀ earlier text t since, history = earlier ++ ⟨.replied text true, t⟩ :: since →
    ¬ Heedless earlier → P text since

/-- A reply is kept, and the task is not paused any more. -/
def Waiting (text : String) (kept : Option Columns) : Prop :=
  ∃ c, kept = some c ∧ c.lifecycle = .running ∧ c.Keeps text

/-- As far as a history goes, every reply was kept until the worker heeded it. -/
def Faithful (taskId : String) (history : List Moment) : Prop :=
  ∀ earlier text t since, history = earlier ++ ⟨.replied text true, t⟩ :: since →
    ¬ Heedless earlier →
    Heeded text since ∨ ∃ c, (tablesAfter t since).columns? taskId = some c ∧ c.Keeps text

/-- What always holds of a history and of what is kept of the task after it. -/
structure Sound (taskId : String) (history : List Moment) (kept : Option Columns) : Prop where
  written : ∀ c, kept = some c → c.Written
  past : ∀ front, front <+: history → Faithful taskId front
  present : EveryReply history fun text since => Heeded text since ∨ Waiting text kept

/-- The worker has not written yet. -/
structure Ahead (taskId : String) (history : List Moment) (kept : Option Columns) : Prop extends
    Sound taskId history kept where
  unwritten : ∀ p t, ⟨.wrote p, t⟩ ∉ history

/-- The worker has loaded the task and may write: it has noticed every reply, and none is accepted now, but
at a heedless moment. -/
structure Under (taskId : String) (history : List Moment) (kept : Option Columns) : Prop extends
    Sound taskId history kept where
  noticed : EveryReply history Noticed
  closed : Heedless history ∨ ∀ c, kept = some c → c.lifecycle ≠ .feedback

/-! ## One moment more -/

section Moments

variable {taskId text : String} {history since : List Moment} {kept after : Option Columns} {m : Moment}
variable {P Q : String → List Moment → Prop}

theorem Noticed.snoc (noticed : Noticed text since) (m : Moment) : Noticed text (since ++ [m]) := by
  obtain ⟨p, t, inside, seen⟩ := noticed
  exact ⟨p, t, List.mem_append_left _ inside, seen⟩

theorem Heeded.snoc (heeded : Heeded text since) (m : Moment) : Heeded text (since ++ [m]) := by
  obtain ⟨p, t, q, t', inside, seen⟩ := heeded
  exact ⟨p, t, q, t', inside.trans (List.sublist_append_left _ _), seen⟩

theorem Noticed.wrote (noticed : Noticed text since) (q : Progress) (t : Tables) :
    Heeded text (since ++ [⟨.wrote q, t⟩]) := by
  obtain ⟨p, t', inside, seen⟩ := noticed
  exact ⟨p, t', q, t, (List.singleton_sublist.mpr inside).append (.refl _), seen⟩

theorem EveryReply.snoc (every : EveryReply history P)
    (later : ∀ text since, P text since → Q text (since ++ [m]))
    (now : ∀ text, m.what = .replied text true → ¬ Heedless history → Q text []) :
    EveryReply (history ++ [m]) Q := by
  intro earlier text t since same heedful
  rcases List.eq_nil_or_concat since with rfl | ⟨front, last, rfl⟩
  · obtain ⟨rfl, alone⟩ := List.append_inj' same rfl
    cases alone
    exact now text rfl heedful
  · rw [List.concat_eq_append] at same ⊢
    have split : history ++ [m] = (earlier ++ ⟨.replied text true, t⟩ :: front) ++ [last] := by
      simpa using same
    obtain ⟨before, alone⟩ := List.append_inj' split rfl
    cases alone
    exact later text front (every earlier text t front before heedful)

/-- With one moment more, what is kept is what the tables of that moment have. -/
theorem faithful_of_present (there : m.tables.columns? taskId = kept)
    (present : EveryReply (history ++ [m]) fun text since => Heeded text since ∨ Waiting text kept) :
    Faithful taskId (history ++ [m]) := by
  intro earlier text t since same heedful
  refine (present earlier text t since same heedful).imp_right ?_
  rintro ⟨c, here, -, keeps⟩
  refine ⟨c, ?_, keeps⟩
  have last : tablesAfter t since = m.tables := by
    rcases List.eq_nil_or_concat since with rfl | ⟨front, last, rfl⟩
    · cases (List.append_inj' same rfl).2
      rfl
    · have split : history ++ [m] = (earlier ++ ⟨.replied text true, t⟩ :: front) ++ [last] := by
        simpa using same
      cases (List.append_inj' split rfl).2
      simp [tablesAfter]
  rw [last, there, here]

theorem Sound.snoc (sound : Sound taskId history kept) (there : m.tables.columns? taskId = after)
    (written : ∀ c, after = some c → c.Written)
    (present : EveryReply (history ++ [m]) fun text since => Heeded text since ∨ Waiting text after) :
    Sound taskId (history ++ [m]) after where
  written := written
  past front begins := by
    rcases List.prefix_concat_iff.mp begins with rfl | earlier
    · exact faithful_of_present there present
    · exact sound.past front earlier
  present := present

/-- A moment at which neither a reply is accepted nor the worker loads or writes. -/
def Moment.Quiet (m : Moment) : Prop := m.what = .worked ∨ ∃ text, m.what = .replied text false

theorem Moment.Quiet.not_wrote (quiet : m.Quiet) (p : Progress) (t : Tables) : ⟨.wrote p, t⟩ ≠ m := by
  rintro rfl
  rcases quiet with worked | ⟨text, refused⟩
  · cases worked
  · cases refused

theorem Moment.Quiet.not_accepted (quiet : m.Quiet) (text : String) : m.what ≠ .replied text true := by
  intro accepted
  rcases quiet with worked | ⟨text', refused⟩
  · rw [accepted] at worked
    cases worked
  · rw [accepted] at refused
    cases refused

theorem not_mem_snoc {what : Happening} {t : Tables} (absent : ⟨what, t⟩ ∉ history)
    (other : ⟨what, t⟩ ≠ m) : ⟨what, t⟩ ∉ history ++ [m] := fun inside =>
  (List.mem_append.mp inside).elim absent fun last => other (List.mem_singleton.mp last)

theorem Heedless.snoc (heedless : Heedless history) (unwritten : ∀ p t, ⟨.wrote p, t⟩ ≠ m) :
    Heedless (history ++ [m]) := by
  obtain ⟨⟨p, t, inside, paused⟩, none'⟩ := heedless
  exact ⟨⟨p, t, List.mem_append_left _ inside, paused⟩,
    fun q t' => not_mem_snoc (none' q t') (unwritten q t')⟩

/-! ## What keeps the three properties -/

/-- What becomes of the kept progress when a reply is accepted. -/
structure Accepted (text : String) (kept after : Option Columns) : Prop where
  paused : ∃ c, kept = some c ∧ c.lifecycle = .feedback
  waiting : Waiting text after
  written : ∀ c, after = some c → c.Written

/-- A property that is kept at quiet moments and whenever a reply is accepted. -/
structure Steady (taskId : String) (P : List Moment → Option Columns → Prop) : Prop where
  sound : ∀ {history kept}, P history kept → Sound taskId history kept
  quiet : ∀ {history kept m}, P history kept → m.Quiet → m.tables.columns? taskId = kept →
    P (history ++ [m]) kept
  accepted : ∀ {history kept after text t}, P history kept → Accepted text kept after →
    t.columns? taskId = after → P (history ++ [⟨.replied text true, t⟩]) after

theorem Sound.quiet (sound : Sound taskId history kept) (quiet : m.Quiet)
    (there : m.tables.columns? taskId = kept) : Sound taskId (history ++ [m]) kept :=
  sound.snoc there sound.written <| sound.present.snoc
    (fun _ _ known => known.imp_left (Heeded.snoc · m))
    fun text accepted => absurd accepted (quiet.not_accepted text)

theorem Sound.accepted {t : Tables} (sound : Sound taskId history kept)
    (accepted : Accepted text kept after) (there : t.columns? taskId = after) :
    Sound taskId (history ++ [⟨.replied text true, t⟩]) after := by
  refine sound.snoc there accepted.written (sound.present.snoc (fun _ _ known => ?_) fun _ same _ => ?_)
  · refine .inl ((known.resolve_right ?_).snoc _)
    rintro ⟨c, here, running, -⟩
    obtain ⟨c', here', paused⟩ := accepted.paused
    rw [here] at here'
    cases here'
    rw [running] at paused
    cases paused
  · cases same
    exact .inr accepted.waiting

theorem steady_sound : Steady taskId (Sound taskId) where
  sound := id
  quiet := Sound.quiet
  accepted := Sound.accepted

theorem steady_ahead : Steady taskId (Ahead taskId) where
  sound := Ahead.toSound
  quiet ahead quiet there :=
    { ahead.toSound.quiet quiet there with
      unwritten := fun p t => not_mem_snoc (ahead.unwritten p t) (quiet.not_wrote p t) }
  accepted ahead accepted there :=
    { ahead.toSound.accepted accepted there with
      unwritten := fun p t => not_mem_snoc (ahead.unwritten p t) nofun }

theorem steady_under : Steady taskId (Under taskId) where
  sound := Under.toSound
  quiet under quiet there :=
    { under.toSound.quiet quiet there with
      noticed := under.noticed.snoc (fun _ _ known => known.snoc _)
        fun text accepted => absurd accepted (quiet.not_accepted text)
      closed := under.closed.imp_left (Heedless.snoc · quiet.not_wrote) }
  accepted := by
    intro history kept after text t under accepted there
    have heedless : Heedless history := under.closed.resolve_right fun shut => by
      obtain ⟨c, here, paused⟩ := accepted.paused
      exact shut c here paused
    exact
      { under.toSound.accepted accepted there with
        noticed := under.noticed.snoc (fun _ _ known => known.snoc _) fun _ _ heedful =>
          absurd heedless heedful
        closed := .inl (heedless.snoc nofun) }

theorem Ahead.loaded {t : Tables} {p : Progress} {c : Columns} (ahead : Ahead taskId history kept)
    (here : kept = some c) (context : c.context = .dict p.context) (stage : c.lifecycle = p.lifecycle)
    (there : t.columns? taskId = kept) : Under taskId (history ++ [⟨.loaded p, t⟩]) kept where
  toSound := ahead.toSound.snoc there ahead.written <| ahead.present.snoc
    (fun _ _ known => known.imp_left (Heeded.snoc · _)) nofun
  noticed := by
    refine ahead.present.snoc (fun text since known => ?_) nofun
    rcases known with heeded | ⟨c', here', -, fields, same, seen⟩
    · exact heeded.noticed.snoc _
    · rw [here] at here'
      cases here'
      rw [context] at same
      cases same
      exact ⟨p, t, List.mem_append_right _ (List.mem_singleton.mpr rfl), seen⟩
  closed := by
    by_cases paused : p.lifecycle = .feedback
    · refine .inl ⟨⟨p, t, List.mem_append_right _ (List.mem_singleton.mpr rfl), paused⟩, fun q t' => ?_⟩
      exact not_mem_snoc (ahead.unwritten q t') nofun
    · refine .inr fun c' here' => ?_
      rw [here] at here'
      cases here'
      rw [stage]
      exact paused

theorem Under.wrote {t : Tables} {q : Progress} {c : Columns} (under : Under taskId history kept)
    (there : t.columns? taskId = some c) (written : c.Written) (stage : c.lifecycle = q.lifecycle) :
    Sound taskId (history ++ [⟨.wrote q, t⟩]) (some c) ∧
      (q.lifecycle ≠ .feedback → Under taskId (history ++ [⟨.wrote q, t⟩]) (some c)) := by
  have sound : Sound taskId (history ++ [⟨.wrote q, t⟩]) (some c) := by
    refine under.toSound.snoc there ?_ (under.noticed.snoc (fun _ _ known => .inl (known.wrote q t)) nofun)
    rintro _ ⟨⟩
    exact written
  refine ⟨sound, fun busy => { sound with noticed := ?_, closed := .inr ?_ }⟩
  · exact under.noticed.snoc (fun _ _ known => known.snoc _) nofun
  · rintro _ ⟨⟩
    rw [stage]
    exact busy

end Moments

end Tickwork
