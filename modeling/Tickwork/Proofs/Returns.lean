import Tickwork.Proofs.Calls
import Tickwork.Proofs.Noting
import Tickwork.Proofs.Sessions

/-!
# After a callable returned

What the deeds of an advance look like, whatever host it runs on. Main statement: once the callables of a
question have returned, the engine does nothing before it writes, and a write that fails without a fatal
fault is the last thing that it does.
-/

set_option autoImplicit false

namespace Tickwork

variable {F W : Type}

def Deed.IsCall : Deed W → Prop
  | .said .. => True
  | _ => False

/-- The callables of a question returned, the last of them left the world as it is here, and then came
other deeds. -/
def Returned (log : List (Deed W)) (world : W) (since : List (Deed W)) : Prop :=
  ∃ before call answer, log = before ++ .said call answer world :: since ∧
    ∀ deed ∈ since.head?, ¬ deed.IsCall

/-- A write of a host: of a row with the progress that goes with it, or of the progress alone. -/
def Host.write (h : Host F W) (row : Option Transition) (p : Progress) :
    ExceptT Fault (StateM W) Unit :=
  match row with
  | none => h.checkpoint p
  | some row => h.record row p

/-- With one deed more, either that deed is the return, or it comes after what was done before. -/
theorem Returned.of_snoc {log since : List (Deed W)} {world : W} {deed : Deed W}
    (returned : Returned (log ++ [deed]) world since) :
    (since = [] ∧ ∃ call answer, deed = .said call answer world) ∨
      ∃ since', since = since' ++ [deed] ∧ Returned log world since' ∧
        (since' = [] → ¬ deed.IsCall) := by
  obtain ⟨before, call, answer, same, apart⟩ := returned
  rcases List.eq_nil_or_concat since with rfl | ⟨front, last, rfl⟩
  · obtain ⟨-, rfl⟩ := List.append_singleton_inj.mp same
    exact .inl ⟨rfl, call, answer, rfl⟩
  · have same' : log ++ [deed] = (before ++ .said call answer world :: front) ++ [last] := by
      rw [same]
      simp
    obtain ⟨rfl, rfl⟩ := List.append_singleton_inj.mp same'
    refine .inr ⟨front, by simp, ⟨before, call, answer, rfl, ?_⟩, ?_⟩
    · cases front with
      | nil => exact fun deed inside => nomatch inside
      | cons first rest => simpa using apart
    · rintro rfl
      exact apart deed (by simp)

namespace Engine

/-! ## Between two writes -/

/-- What was done since a return begins with a write, in the world that the callables left. -/
def WritesNext (h : Host F W) (world : W) (since : List (Deed W)) : Prop :=
  ∃ row p before result after rest, since = .wrote row p before result after :: rest ∧
    Idles h world before

theorem WritesNext.append {h : Host F W} {world : W} {since more : List (Deed W)}
    (next : WritesNext h world since) : WritesNext h world (since ++ more) := by
  obtain ⟨row, p, before, result, after, rest, rfl, idles⟩ := next
  exact ⟨row, p, before, result, after, rest ++ more, rfl, idles⟩

/-- A log so far: its writes were made, and after every return comes a write, unless the return is the
last deed and `late` holds of the world. -/
structure Orderly (h : Host F W) (log : List (Deed W)) (late : W → Prop) : Prop where
  made : ∀ row p before result after, .wrote row p before result after ∈ log →
    (h.write row p).run before = (result, after)
  next : ∀ world since, Returned log world since →
    WritesNext h world since ∨ since = [] ∧ late world

/-- A log in which a write came after every return. -/
abbrev Tidy (h : Host F W) (log : List (Deed W)) : Prop := Orderly h log fun _ => False

variable {h : Host F W} {fr : Frame F} {log : List (Deed W)} {late : W → Prop}

theorem Orderly.nil : Orderly h [] late where
  made _ _ _ _ _ inside := absurd inside List.not_mem_nil
  next := by
    rintro world since ⟨before, call, answer, same, -⟩
    simp at same

theorem Tidy.orderly (tidy : Tidy h log) : Orderly h log late where
  made := tidy.made
  next world since returned := .inl ((tidy.next world since returned).resolve_right fun open' => open'.2)

/-- One call more. Before it no return is the last deed, or the call belongs to the same question. -/
theorem Orderly.said (orderly : Orderly h log late) (call : Call) (answer : Answer) (w : W) :
    Orderly h (log ++ [.said call answer w]) (· = w) where
  made row p before result after inside :=
    orderly.made row p before result after (by simpa using inside)
  next world since returned := by
    rcases returned.of_snoc with ⟨rfl, call', answer', same⟩ | ⟨since', rfl, earlier, apart⟩
    · cases same
      exact .inr ⟨rfl, rfl⟩
    · rcases orderly.next world since' earlier with next | ⟨rfl, -⟩
      · exact .inl next.append
      · exact absurd trivial (apart rfl)

theorem Orderly.wrote {late' : W → Prop} (orderly : Orderly h log late) (row : Option Transition)
    {p : Progress} {before after : W} {result : Except Fault Unit}
    (made : (h.write row p).run before = (result, after))
    (idles : ∀ world, late world → Idles h world before) :
    Orderly h (log ++ [.wrote row p before result after]) late' where
  made row' p' before' result' after' inside := by
    rcases List.mem_append.mp inside with earlier | now
    · exact orderly.made row' p' before' result' after' earlier
    · cases List.mem_singleton.mp now
      exact made
  next world since returned := by
    rcases returned.of_snoc with ⟨-, call, answer, same⟩ | ⟨since', rfl, earlier, -⟩
    · cases same
    · rcases orderly.next world since' earlier with next | ⟨rfl, open'⟩
      · exact .inl next.append
      · exact .inl ⟨row, p, before, result, after, [], rfl, idles world open'⟩

theorem Tidy.consults {w w' : Noted W} (tidy : Tidy h w.2)
    (consults : Consults h.noting.behaviour w w') : Orderly h w'.2 (· = w'.1) := by
  induction consults with
  | still => exact tidy.orderly
  | called before f call ih => exact ih.said call _ _

variable {a b : Spot (Noted W)}

theorem Tidy.asked {id : String} {node : State F} {q : Question F} {j : Judgement Verdict}
    {w : Noted W} (tidy : Tidy h a.world.2) (asked : Asked h.noting fr a id node q j w) :
    Orderly h w.2 (· = w.1) := by
  have consults := q.ask_consults h.noting.behaviour a.world
  rw [asked.leaves] at consults
  exact tidy.consults consults

theorem Tidy.unasked {p : Progress} {w w' : Noted W} {result : Except Fault Unit}
    (tidy : Tidy h a.world.2) (plain : Unasked h.noting fr a p w)
    (wrote : (h.noting.checkpoint p).run w = (result, w')) : Tidy h w'.2 := by
  obtain ⟨made, noted⟩ := noted_of_write wrote
  rw [noted, plain.keeps.2]
  exact tidy.wrote none made fun _ => False.elim

theorem Tidy.due {row : Transition} {s : Stance} {w w' : Noted W} {result : Except Fault Unit}
    (tidy : Tidy h a.world.2) (due : Due h.noting fr a row s w)
    (wrote : (h.noting.record row s.progress).run w = (result, w')) : Tidy h w'.2 := by
  obtain ⟨id, node, q, j, verdict, now, world, asked, -, -, -, idles⟩ := due.asked
  obtain ⟨made, noted⟩ := noted_of_write wrote
  rw [noted, idles.log]
  refine (tidy.asked asked).wrote (some row) made ?_
  rintro _ rfl
  exact idles.world

theorem Pass.tidy (tidy : Tidy h a.world.2) (pass : Pass h.noting fr a b) : Tidy h b.world.2 := by
  cases pass with
  | unasked plain wrote => exact tidy.unasked plain wrote
  | visit due wrote waits => exact waits.log ▸ tidy.due due wrote

/-! ## The end of an advance -/

/-- The writes of a log that failed did so for good. -/
def Grave (log : List (Deed W)) : Prop :=
  ∀ row p before fault after, .wrote row p before (.error fault) after ∈ log → fault.isFatal = true

theorem Grave.append {log more : List (Deed W)} (grave : Grave log) (grave' : Grave more) :
    Grave (log ++ more) := fun row p before fault after inside =>
  (List.mem_append.mp inside).elim (grave row p before fault after) (grave' row p before fault after)

theorem Grave.consults {w w' : Noted W} (grave : Grave w.2)
    (consults : Consults h.noting.behaviour w w') : Grave w'.2 := by
  induction consults with
  | still => exact grave
  | called before f call ih => exact ih.append fun _ _ _ _ _ inside => by simp at inside

theorem Grave.asked {id : String} {node : State F} {q : Question F} {j : Judgement Verdict}
    {w : Noted W} (grave : Grave a.world.2) (asked : Asked h.noting fr a id node q j w) :
    Grave w.2 := by
  have consults := q.ask_consults h.noting.behaviour a.world
  rw [asked.leaves] at consults
  exact grave.consults consults

theorem Grave.wrote {log : List (Deed W)} (grave : Grave log) {row : Option Transition} {p : Progress}
    {before after : W} {result : Except Fault Unit}
    (fatal : ∀ fault, result = .error fault → fault.isFatal = true) :
    Grave (log ++ [.wrote row p before result after]) :=
  grave.append fun _ _ _ fault _ inside => by
    cases List.mem_singleton.mp inside
    exact fatal fault rfl

theorem Grave.due {row : Transition} {s : Stance} {w : Noted W} (grave : Grave a.world.2)
    (due : Due h.noting fr a row s w) : Grave w.2 := by
  obtain ⟨id, node, q, j, verdict, now, world, asked, -, -, -, idles⟩ := due.asked
  exact idles.log ▸ grave.asked asked

theorem Pass.grave (grave : Grave a.world.2) (pass : Pass h.noting fr a b) : Grave b.world.2 := by
  cases pass with
  | unasked plain wrote =>
      rw [(noted_of_write wrote).2, plain.keeps.2]
      exact grave.wrote nofun
  | visit due wrote waits =>
      rw [waits.log, (noted_of_write wrote).2]
      exact (grave.due due).wrote nofun

/-- The log of an advance that came to an end: its writes were made, after every return came a write, and
a write that failed, but not for good, ended the advance. -/
structure Conducted (h : Host F W) (log : List (Deed W)) (result : Except Fault Finish) (w : W) :
    Prop where
  made : ∀ row p before result after, .wrote row p before result after ∈ log →
    (h.write row p).run before = (result, after)
  next : ∀ world since, Returned log world since → WritesNext h world since
  last : ∀ earlier row p before fault after rest,
    log = earlier ++ .wrote row p before (.error fault) after :: rest → fault.isFatal = false →
    rest = [] ∧ result = .error fault ∧ w = after

/-- Where every write that failed did so for good. -/
theorem Conducted.of_grave {result : Except Fault Finish} {w : Noted W} (tidy : Tidy h w.2)
    (grave : Grave w.2) : Conducted h w.2 result w.1 where
  made := tidy.made
  next world since returned := (tidy.next world since returned).resolve_right fun open' => open'.2
  last earlier row p before fault after rest same calm := by
    have fatal := grave row p before fault after (by simp [same])
    rw [calm] at fatal
    cases fatal

/-- Where the last write failed. -/
theorem Conducted.of_broken {w w' : Noted W} {row : Option Transition} {p : Progress} {fault : Fault}
    (tidy : Tidy h w'.2) (grave : Grave w.2)
    (noted : w'.2 = w.2 ++ [.wrote row p w.1 (.error fault) w'.1]) :
    Conducted h w'.2 (.error fault) w'.1 where
  made := tidy.made
  next world since returned := (tidy.next world since returned).resolve_right fun open' => open'.2
  last earlier row' p' before fault' after rest same calm := by
    rcases List.eq_nil_or_concat rest with rfl | ⟨front, last, rfl⟩
    · obtain ⟨-, same'⟩ := List.append_singleton_inj.mp (noted.symm.trans same)
      cases same'
      exact ⟨rfl, rfl, rfl⟩
    · have inside : .wrote row' p' before (.error fault') after ∈ w.2 := by
        have same' : w.2 ++ [.wrote row p w.1 (.error fault) w'.1] =
            (earlier ++ .wrote row' p' before (.error fault') after :: front) ++ [last] := by
          rw [← noted, same]
          simp
        rw [(List.append_singleton_inj.mp same').1]
        simp
      have fatal := grave row' p' before fault' after inside
      rw [calm] at fatal
      cases fatal

/-- Where a turn was broken off for good, every return is followed by a write or is the last deed. -/
theorem Cut.orderly {fault : Fault} (tidy : Tidy h a.world.2) (grave : Grave a.world.2)
    (cut : Cut h.noting fr a fault b) (fatal : fault.isFatal = true) :
    Orderly h b.world.2 (· = b.world.1) ∧ Grave b.world.2 := by
  cases cut with
  | stuck cause => exact ⟨tidy.orderly, grave⟩
  | overlong calm =>
      rw [calm] at fatal
      cases fatal
  | judged asked refused => exact ⟨tidy.asked asked, grave.asked asked⟩
  | unrouted asked decided => exact ⟨tidy.asked asked, grave.asked asked⟩
  | unwritten plain broke =>
      refine ⟨(tidy.unasked plain broke).orderly, ?_⟩
      rw [(noted_of_write broke).2, plain.keeps.2]
      refine grave.wrote ?_
      rintro _ ⟨⟩
      exact fatal
  | unrecorded due broke =>
      refine ⟨(tidy.due due broke).orderly, ?_⟩
      rw [(noted_of_write broke).2]
      refine (grave.due due).wrote ?_
      rintro _ ⟨⟩
      exact fatal

/-- However an advance of a graph without violations ends. -/
theorem Ended.conducted (valid : fr.graph.violations = []) (tidy : Tidy h a.world.2)
    (grave : Grave a.world.2) {result : Except Fault Finish} {p : Progress} {w : Noted W}
    (ended : Ended h.noting fr a result p w) : Conducted h w.2 result w.1 := by
  have reached : ∀ {b : Spot (Noted W)}, Reaches h.noting fr a b → Tidy h b.world.2 ∧ Grave b.world.2 :=
    fun reaches => ⟨reaches.keeps (P := fun s => Tidy h s.world.2) Pass.tidy tidy,
      reaches.keeps (P := fun s => Grave s.world.2) Pass.grave grave⟩
  cases ended with
  | reports reaches finish => exact .of_grave (reached reaches).1 (reached reaches).2
  | gaveUp named passes cut wrote =>
      obtain ⟨tidy, grave⟩ := reached (.alive passes)
      obtain ⟨orderly, grave⟩ := cut.orderly tidy grave rfl
      obtain ⟨made, noted⟩ := noted_of_write wrote
      refine .of_grave ?_ ?_
      · rw [noted]
        exact orderly.wrote none made fun _ here => here ▸ .still
      · rw [noted]
        exact grave.wrote nofun
  | unkept passes cut broke =>
      obtain ⟨tidy, grave⟩ := reached (.alive passes)
      obtain ⟨orderly, grave⟩ := cut.orderly tidy grave rfl
      obtain ⟨made, noted⟩ := noted_of_write broke
      refine .of_broken ?_ grave noted
      rw [noted]
      exact orderly.wrote none made fun _ here => here ▸ .still
  | escaped passes cut calm =>
      obtain ⟨tidy, grave⟩ := reached (.alive passes)
      cases cut with
      | stuck cause => cases calm
      | overlong calm => exact .of_grave tidy grave
      | judged asked refused =>
          have fatal := reacted_error valid asked.stands.2 (asked.judged.symm ▸ refused)
          rw [calm] at fatal
          cases fatal
      | unrouted asked decided => cases calm
      | unwritten plain broke =>
          exact .of_broken (tidy.unasked plain broke) (plain.keeps.2.symm ▸ grave)
            (noted_of_write broke).2
      | unrecorded due broke =>
          exact .of_broken (tidy.due due broke) (grave.due due) (noted_of_write broke).2

/-- Whatever host an advance runs on: once the callables of a question have returned, the engine does
nothing before it writes, and a write that fails without a fatal fault is the last thing that it does. -/
theorem advance_conducted (h : Host F W) {g : Graph F} (valid : g.violations = []) (budget : Budget)
    (task : TaskInfo) (runId : String) (tickId feedback : Option String) (p : Progress) (w : W) :
    Conducted h (advance h.noting budget g task runId tickId feedback p (w, [])).2.2
      (advance h budget g task runId tickId feedback p w).1.1
      (advance h budget g task runId tickId feedback p w).2 := by
  rw [advance_noting h budget g task runId tickId feedback p (w, [])]
  cases active : p.lifecycle.isTerminal with
  | true =>
      rw [advance_ended _ _ _ _ _ _ _ _ active]
      exact .of_grave (w := (w, [])) .nil fun _ _ _ _ _ inside => absurd inside List.not_mem_nil
  | false =>
      have ended := advance_ends h.noting (Graph.fit_of_valid valid).wholeLimits budget task runId
        tickId feedback p (w, []) active
      have unnoted := tickIdFor_log (h := h) tickId (w, [])
      refine ended.conducted valid ?_ ?_
      · exact unnoted ▸ .nil
      · exact unnoted ▸ fun _ _ _ _ _ inside => absurd inside List.not_mem_nil

end Engine

end Tickwork
