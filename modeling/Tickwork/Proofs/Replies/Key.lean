import Tickwork.Engine.Callable
import Tickwork.Proofs.Overlays

/-!
# The reply in a context

A call may come with a reply. The reply key of a context belongs to the engine. Changes that do not name it commute with dropping it and
leave the reply that can be read as it is; an answered question leaves none.
-/

set_option autoImplicit false

namespace Tickwork

def Call.reply? : Call → Option String
  | .reply _ text | .nodeReply _ text => some text
  | _ => none

namespace Key

theorem same_text (key : Key) (name : String) : key.same (.text name) = decide (key = .text name) := by
  cases key <;> rfl

theorem text_same (name : String) (key : Key) : (Key.text name).same key = decide (.text name = key) := by
  rfl

end Key

namespace Fields

variable {name : String} {key : Key} {value : Value} {fields changes : Fields}

theorem erase_put_other (other : key ≠ .text name) :
    erase name (put key value fields) = put key value (erase name fields) := by
  induction fields with
  | nil => simp [put, erase, other]
  | cons head rest ih =>
      obtain ⟨k, v⟩ := head
      by_cases hidden : k = .text name
      · subst hidden
        have apart : (Key.text name).same key = false := by
          rw [Key.text_same]
          simpa using Ne.symm other
        simp only [put, apart, Bool.false_eq_true, if_false]
        simpa [erase] using ih
      · by_cases same : k.same key = true
        · simp [put, erase, same, hidden]
        · have kept : erase name ((k, v) :: rest) = (k, v) :: erase name rest := by
            simp [erase, hidden]
          have apart : put key value ((k, v) :: rest) = (k, v) :: put key value rest := by
            simp [put, same]
          have later : erase name ((k, v) :: put key value rest) =
              (k, v) :: erase name (put key value rest) := by
            simp [erase, hidden]
          rw [kept, apart, later, ih]
          simp [put, same]

theorem erase_put_self : erase name (put (.text name) value fields) = erase name fields := by
  induction fields with
  | nil => simp [put, erase]
  | cons head rest ih =>
      obtain ⟨k, v⟩ := head
      by_cases hidden : k = .text name
      · subst hidden
        simp [put, erase, Key.same_text]
      · have apart : k.same (.text name) = false := by
          rw [Key.same_text]
          simpa using hidden
        simp only [put, apart, Bool.false_eq_true, if_false]
        simp only [erase, List.filter_cons] at ih ⊢
        rw [ih]

theorem get?_cons (k : Key) (v : Value) (rest : Fields) :
    get? name ((k, v) :: rest) = if k = .text name then some v else get? name rest := by
  unfold get?
  rw [List.lookup_cons]
  by_cases hidden : k = .text name
  · simp [hidden]
  · have apart : (Key.text name == k) = false := by simpa using Ne.symm hidden
    rw [apart, if_neg hidden]

theorem get?_erase_other {other : String} (apart : other ≠ name) :
    get? other (erase name fields) = get? other fields := by
  induction fields with
  | nil => rfl
  | cons head rest ih =>
      obtain ⟨k, v⟩ := head
      by_cases hidden : k = .text name
      · subst hidden
        have gone : erase name ((.text name, v) :: rest) = erase name rest := by simp [erase]
        have seen : Key.text name ≠ .text other := by simpa using apart.symm
        rw [gone, ih, get?_cons, if_neg seen]
      · have kept : erase name ((k, v) :: rest) = (k, v) :: erase name rest := by
          simp [erase, hidden]
        rw [kept, get?_cons, get?_cons, ih]

theorem get?_put_other (other : key ≠ .text name) :
    get? name (put key value fields) = get? name fields := by
  induction fields with
  | nil => simp [put, get?_cons, other]
  | cons head rest ih =>
      obtain ⟨k, v⟩ := head
      by_cases same : k.same key = true
      · have seen : k ≠ .text name := by
          rintro rfl
          rw [Key.text_same] at same
          exact other (of_decide_eq_true same).symm
        simp [put, same, get?_cons, seen]
      · simp [put, same, get?_cons, ih]

theorem get?_put_self : get? name (put (.text name) value fields) = some value := by
  induction fields with
  | nil => simp [put, get?_cons]
  | cons head rest ih =>
      obtain ⟨k, v⟩ := head
      by_cases hidden : k = .text name
      · simp [put, get?_cons, hidden, Key.same_text]
      · simp [put, get?_cons, hidden, Key.same_text, ih]

theorem not_hidden (silent : get? name changes = none) : ∀ entry ∈ changes, entry.1 ≠ .text name := by
  induction changes with
  | nil => exact fun _ inside => absurd inside List.not_mem_nil
  | cons head rest ih =>
      obtain ⟨k, v⟩ := head
      rw [get?_cons] at silent
      by_cases hidden : k = .text name
      · rw [if_pos hidden] at silent
        cases silent
      · rw [if_neg hidden] at silent
        intro entry inside
        rcases List.mem_cons.mp inside with rfl | later
        · exact hidden
        · exact ih silent entry later

theorem overlay_silent (fields : Fields) (silent : get? name changes = none) :
    erase name (overlay fields changes) = overlay (erase name fields) changes ∧
      get? name (overlay fields changes) = get? name fields := by
  have seen := not_hidden silent
  clear silent
  induction changes generalizing fields with
  | nil => exact ⟨rfl, rfl⟩
  | cons change rest ih =>
      have first := seen change List.mem_cons_self
      obtain ⟨erased, kept⟩ := ih (put change.1 change.2 fields)
        fun entry inside => seen entry (List.mem_cons_of_mem _ inside)
      rw [erase_put_other first] at erased
      rw [get?_put_other first] at kept
      exact ⟨erased, kept⟩

theorem overlay_put (silent : get? name changes = none) :
    overlay fields (put (.text name) value changes) =
      put (.text name) value (overlay fields changes) := by
  have fresh : ∀ entry ∈ changes, entry.1.same (.text name) = false := by
    intro entry inside
    rw [Key.same_text]
    simpa using not_hidden silent entry inside
  rw [put_new fresh]
  unfold overlay
  rw [List.foldl_append]
  rfl

end Fields

theorem readReply_congr {context context' : Fields}
    (same : Fields.get? replyKey context = Fields.get? replyKey context') (reply : Option String) :
    readReply reply context = readReply reply context' := by
  unfold readReply field
  rw [same]

/-- A context whose reply was used up has none to read. -/
theorem readReply_used {context : Fields} (used : Fields.get? replyKey context = some .null) :
    readReply none context = none := by
  unfold readReply field
  rw [used]
  rfl

theorem readReply_given {reply : String} (words : Text.isBlankText reply = false)
    (context : Fields) : readReply (some reply) context = some (Text.strip reply) := by
  simp [readReply, replyIn?, words]

end Tickwork
