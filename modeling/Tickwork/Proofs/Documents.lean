import Mathlib.Data.List.Induction
import Tickwork.Proofs.Replays
import Tickwork.Proofs.Replies.Key
import Tickwork.Tables.Row

/-!
# Mappings in columns

A column keeps a mapping as a document and gives back what is read from that. Main statements: what is
given back has texts for keys, none of them twice; and an entry of which key and value are texts is
given back as it is.
-/

set_option autoImplicit false

namespace Tickwork

variable {α β κ : Type}

/-! ## Entries under a key -/

/-- There is an entry under a key, and every entry under that key has one and the same value. -/
def Settled (key : κ) (value : α) (entries : List (κ × α)) : Prop :=
  (key, value) ∈ entries ∧ ∀ entry ∈ entries, entry.1 = key → entry.2 = value

namespace Settled

variable {key : κ} {value : α} {entries : List (κ × α)}

theorem map (f : α → β) (settled : Settled key value entries) :
    Settled key (f value) (entries.map fun entry => (entry.1, f entry.2)) := by
  refine ⟨List.mem_map.mpr ⟨_, settled.1, rfl⟩, fun entry inside own => ?_⟩
  obtain ⟨old, was, rfl⟩ := List.mem_map.mp inside
  exact congrArg f (settled.2 old was own)

theorem text_iff {name : String} {entries : List (String × α)} :
    Settled (Key.text name) value (entries.map fun entry => (Key.text entry.1, entry.2)) ↔
      Settled name value entries := by
  constructor
  · rintro ⟨inside, agree⟩
    obtain ⟨entry, here, same⟩ := List.mem_map.mp inside
    cases same
    exact ⟨here, fun entry inside own =>
      agree _ (List.mem_map.mpr ⟨entry, inside, rfl⟩) (congrArg Key.text own)⟩
  · rintro ⟨inside, agree⟩
    refine ⟨List.mem_map.mpr ⟨_, inside, rfl⟩, fun entry inside own => ?_⟩
    obtain ⟨old, was, rfl⟩ := List.mem_map.mp inside
    exact agree old was (Key.text.inj own)

theorem get? {name : String} {value : Value} {fields : Fields}
    (settled : Settled (Key.text name) value fields) : Fields.get? name fields = some value := by
  obtain ⟨inside, agree⟩ := settled
  induction fields with
  | nil => cases inside
  | cons head rest ih =>
      obtain ⟨k, v⟩ := head
      rw [Fields.get?_cons]
      by_cases own : k = .text name
      · rw [if_pos own]
        exact congrArg some (agree (k, v) List.mem_cons_self own)
      · rw [if_neg own]
        rcases List.mem_cons.mp inside with same | later
        · cases same
          exact absurd rfl own
        · exact ih later fun entry inside => agree entry (List.mem_cons_of_mem _ inside)

end Settled

/-! ## Setting entries -/

/-- What an operation does that sets an entry under a key of some kind: the entry is there, those under
other keys stay, and nothing else comes. -/
structure Sets (kind : κ → Prop) (put : κ → α → List (κ × α) → List (κ × α)) : Prop where
  self : ∀ key value entries, kind key → (key, value) ∈ put key value entries
  others : ∀ key value entries entry, kind key → entry ∈ entries → entry.1 ≠ key →
    entry ∈ put key value entries
  only : ∀ key value entries entry, kind key → entry ∈ put key value entries →
    entry = (key, value) ∨ entry ∈ entries

namespace Sets

variable {kind : κ → Prop} {put : κ → α → List (κ × α) → List (κ × α)} {pairs : List (κ × α)}

theorem mem_of_mem_foldl (sets : Sets kind put) (fit : ∀ pair ∈ pairs, kind pair.1) :
    ∀ entry ∈ pairs.foldl (fun entries pair => put pair.1 pair.2 entries) [], entry ∈ pairs := by
  induction pairs using List.reverseRecOn with
  | nil => exact fun _ inside => inside
  | append_singleton pairs last ih =>
      intro entry inside
      rw [List.foldl_append] at inside
      have own := fit last (List.mem_append_right _ (List.mem_singleton.mpr rfl))
      rcases sets.only _ _ _ _ own inside with rfl | earlier
      · exact List.mem_append_right _ (List.mem_singleton.mpr rfl)
      · exact List.mem_append_left _
          (ih (fun pair inside => fit pair (List.mem_append_left _ inside)) entry earlier)

/-- Where pairs that are set one after the other agree on a key, so does the outcome. -/
theorem settled (sets : Sets kind put) (fit : ∀ pair ∈ pairs, kind pair.1) {key : κ} {value : α}
    (settled : Settled key value pairs) :
    Settled key value (pairs.foldl (fun entries pair => put pair.1 pair.2 entries) []) := by
  refine ⟨?_, fun entry inside => settled.2 entry (sets.mem_of_mem_foldl fit entry inside)⟩
  obtain ⟨inside, agree⟩ := settled
  induction pairs using List.reverseRecOn with
  | nil => cases inside
  | append_singleton pairs last ih =>
      rw [List.foldl_append]
      have own := fit last (List.mem_append_right _ (List.mem_singleton.mpr rfl))
      by_cases here : last.1 = key
      · have same : last = (key, value) :=
          Prod.ext here (agree last (List.mem_append_right _ (List.mem_singleton.mpr rfl)) here)
        rw [same] at own ⊢
        exact sets.self _ _ _ own
      · have earlier : (key, value) ∈ pairs := by
          refine (List.mem_append.mp inside).resolve_right fun last' => here ?_
          rw [← List.mem_singleton.mp last']
        refine sets.others _ _ _ _ own (ih ?_ earlier ?_) (Ne.symm here)
        · exact fun pair inside => fit pair (List.mem_append_left _ inside)
        · exact fun entry inside => agree entry (List.mem_append_left _ inside)

end Sets

theorem Sorted.put_sets : Sets (fun _ => True) (Sorted.put (α := α)) where
  self name value entries _ := by
    induction entries with
    | nil => exact List.mem_singleton.mpr rfl
    | cons head rest ih =>
        obtain ⟨k, v⟩ := head
        unfold put
        split
        · exact List.mem_cons_self
        · split
          · exact List.mem_cons_self
          · exact List.mem_cons_of_mem _ ih
  others name value entries entry _ inside other := by
    induction entries with
    | nil => cases inside
    | cons head rest ih =>
        obtain ⟨k, v⟩ := head
        unfold put
        rcases List.mem_cons.mp inside with rfl | later
        · rw [if_neg other]
          split
          · exact List.mem_cons_of_mem _ List.mem_cons_self
          · exact List.mem_cons_self
        · split
          · exact List.mem_cons_of_mem _ later
          · split
            · exact List.mem_cons_of_mem _ inside
            · exact List.mem_cons_of_mem _ (ih later)
  only _ _ _ _ _ inside := mem_put inside

namespace Fields

/-- Every key is a text. -/
def Texts (fields : Fields) : Prop := ∀ entry ∈ fields, ∃ name, entry.1 = .text name

theorem put_sets : Sets (fun key => ∃ name, key = .text name) Fields.put where
  self key value fields named := by
    obtain ⟨name, rfl⟩ := named
    induction fields with
    | nil => exact List.mem_singleton.mpr rfl
    | cons head rest ih =>
        obtain ⟨k, v⟩ := head
        unfold put
        rw [Key.same_text]
        by_cases own : k = .text name
        · simp [own]
        · simp [own, ih]
  others key value fields entry named inside other := by
    obtain ⟨name, rfl⟩ := named
    induction fields with
    | nil => cases inside
    | cons head rest ih =>
        obtain ⟨k, v⟩ := head
        unfold put
        rw [Key.same_text]
        rcases List.mem_cons.mp inside with rfl | later
        · simp [other]
        · by_cases own : k = .text name
          · simp [own, later]
          · simp [own, ih later]
  only key value fields entry named inside := by
    obtain ⟨name, rfl⟩ := named
    induction fields with
    | nil => exact .inl (List.mem_singleton.mp inside)
    | cons head rest ih =>
        obtain ⟨k, v⟩ := head
        unfold put at inside
        rw [Key.same_text] at inside
        by_cases own : k = .text name
        · simp only [own, decide_true, if_true] at inside
          exact (List.mem_cons.mp inside).imp_right (List.mem_cons_of_mem _)
        · simp only [own, decide_false, Bool.false_eq_true, if_false] at inside
          rcases List.mem_cons.mp inside with rfl | later
          · exact .inr List.mem_cons_self
          · exact (ih later).imp_right (List.mem_cons_of_mem _)

theorem settled_put {name : String} {value : Value} {fields : Fields} (distinct : fields.Distinct) :
    Settled (.text name) value (put (.text name) value fields) := by
  induction fields with
  | nil => exact ⟨List.mem_singleton.mpr rfl, fun entry inside _ => by cases List.mem_singleton.mp inside; rfl⟩
  | cons head rest ih =>
      obtain ⟨k, v⟩ := head
      obtain ⟨apart, later⟩ := List.pairwise_cons.mp distinct
      unfold put
      rw [Key.same_text]
      by_cases own : k = .text name
      · subst own
        simp only [decide_true, if_true]
        refine ⟨List.mem_cons_self, fun entry inside own => ?_⟩
        rcases List.mem_cons.mp inside with rfl | later
        · rfl
        · have differs := apart entry later
          rw [Key.text_same, own] at differs
          simp at differs
      · simp only [own, decide_false, Bool.false_eq_true, if_false]
        obtain ⟨inside, agree⟩ := ih later
        refine ⟨List.mem_cons_of_mem _ inside, fun entry inside own' => ?_⟩
        rcases List.mem_cons.mp inside with rfl | later
        · exact absurd own' own
        · exact agree entry later own'

theorem Texts.put {fields : Fields} (texts : fields.Texts) (name : String) (value : Value) :
    (Fields.put (.text name) value fields).Texts := fun entry inside => by
  rcases put_sets.only _ _ _ _ ⟨name, rfl⟩ inside with rfl | old
  · exact ⟨name, rfl⟩
  · exact texts entry old

end Fields

/-! ## Documents -/

theorem mem_of_mapM {ε : Type} {f : α → Except ε β} {items : List α} {made : List β}
    (ok : items.mapM f = .ok made) :
    (∀ b ∈ made, ∃ a ∈ items, f a = .ok b) ∧ ∀ a ∈ items, ∃ b ∈ made, f a = .ok b := by
  induction items generalizing made with
  | nil =>
      cases ok
      exact ⟨fun _ inside => absurd inside List.not_mem_nil,
        fun _ inside => absurd inside List.not_mem_nil⟩
  | cons item rest ih =>
      rw [List.mapM_cons] at ok
      cases first : f item with
      | error problem =>
          rw [first] at ok
          cases ok
      | ok b =>
          rw [first] at ok
          cases later : rest.mapM f with
          | error problem =>
              simp only [bind, Except.bind, later] at ok
              cases ok
          | ok bs =>
              simp only [bind, Except.bind, later] at ok
              cases ok
              obtain ⟨back, forth⟩ := ih later
              refine ⟨fun b' inside => ?_, fun a inside => ?_⟩
              · rcases List.mem_cons.mp inside with rfl | inside
                · exact ⟨item, List.mem_cons_self, first⟩
                · obtain ⟨a, here, made⟩ := back b' inside
                  exact ⟨a, List.mem_cons_of_mem _ here, made⟩
              · rcases List.mem_cons.mp inside with rfl | inside
                · exact ⟨b, List.mem_cons_self, first⟩
                · obtain ⟨b', here, made⟩ := forth a inside
                  exact ⟨b', List.mem_cons_of_mem _ here, made⟩

namespace Value

theorem entryDocuments_eq (fields : Fields) :
    entryDocuments fields = fields.map fun entry => (entry.1, entry.2.toDocument) := by
  induction fields with
  | nil => rfl
  | cons head rest ih =>
      obtain ⟨k, x⟩ := head
      rw [entryDocuments, ih]
      rfl

theorem entriesBack_eq (fields : Fields) :
    entriesBack fields = fields.map fun entry => (entry.1, entry.2.readBack) := by
  induction fields with
  | nil => rfl
  | cons head rest ih =>
      obtain ⟨k, x⟩ := head
      rw [entriesBack, ih]
      rfl

theorem texts?_of_texts {entries : List (Key × α)}
    (texts : ∀ entry ∈ entries, ∃ name, entry.1 = .text name) :
    ∃ named : List (String × α), texts? entries = some named ∧
      entries = named.map fun entry => (.text entry.1, entry.2) := by
  induction entries with
  | nil => exact ⟨[], rfl, rfl⟩
  | cons head rest ih =>
      obtain ⟨k, x⟩ := head
      obtain ⟨name, rfl⟩ : ∃ name, k = .text name := texts (k, x) List.mem_cons_self
      obtain ⟨named, read, rfl⟩ := ih fun entry inside => texts entry (List.mem_cons_of_mem _ inside)
      refine ⟨(name, x) :: named, ?_, rfl⟩
      unfold texts? at read ⊢
      rw [List.mapM_cons, read]
      rfl

theorem documentKey_ok {key named : Key} (made : documentKey key = .ok named) :
    ∃ name, named = .text name := by
  unfold documentKey at made
  split at made
  · cases made
  · split at made <;> cases made
    exact ⟨_, rfl⟩
  · cases made
    exact ⟨_, rfl⟩

def documentEntry (entry : Key × Except Unwritable Value) : Except Unwritable (Key × Value) := do
  let key ← documentKey entry.1
  let value ← entry.2
  pure (key, value)

theorem documentEntry_ok {entry : Key × Except Unwritable Value} {made : Key × Value}
    (ok : documentEntry entry = .ok made) :
    documentKey entry.1 = .ok made.1 ∧ entry.2 = .ok made.2 := by
  obtain ⟨key, value⟩ := entry
  unfold documentEntry at ok
  cases named : documentKey key with
  | error problem =>
      rw [named] at ok
      cases ok
  | ok name =>
      rw [named] at ok
      cases value with
      | error problem => cases ok
      | ok v =>
          cases ok
          exact ⟨rfl, rfl⟩

theorem documentFields_ok {entries : List (Key × Except Unwritable Value)} {fields : Fields}
    (ok : documentFields entries = .ok fields) :
    fields.Texts ∧ ∀ name value, (∀ entry ∈ entries, ∃ name, entry.1 = .text name) →
      Settled (.text name) (.ok value) entries → Settled (.text name) value fields := by
  unfold documentFields at ok
  cases ordered : inOrder entries with
  | error problem =>
      rw [ordered] at ok
      cases ok
  | ok sorted =>
      rw [ordered] at ok
      obtain ⟨back, forth⟩ := mem_of_mapM (f := documentEntry) ok
      refine ⟨fun entry inside => ?_, fun name value texts settled => ?_⟩
      · obtain ⟨old, -, made⟩ := back entry inside
        exact documentKey_ok (documentEntry_ok made).1
      · obtain ⟨named, read, rfl⟩ := texts?_of_texts texts
        simp only [inOrder, read] at ordered
        cases ordered
        have sets := Sorted.put_sets.settled (fun _ _ => trivial) (Settled.text_iff.mp settled)
        obtain ⟨inside, agree⟩ := Settled.text_iff.mpr sets
        refine ⟨?_, fun entry here own => ?_⟩
        · obtain ⟨made, here, ok⟩ := forth _ inside
          obtain ⟨key, same⟩ := documentEntry_ok ok
          have entire : made = (.text name, value) :=
            Prod.ext (Except.ok.inj key).symm (Except.ok.inj same).symm
          exact entire ▸ here
        · obtain ⟨old, was, ok⟩ := back entry here
          obtain ⟨key, same⟩ := documentEntry_ok ok
          obtain ⟨entry', was', rfl⟩ := List.mem_map.mp was
          have own' : Key.text entry'.1 = .text name := by
            rw [← own]
            exact Except.ok.inj key
          rw [agree _ was own'] at same
          exact (Except.ok.inj same).symm

end Value

namespace Columns

/-- What a column gives back of a mapping: a mapping whose keys are texts, none of them twice. -/
theorem document_dict {fields : Fields} {v : Value} (kept : document (.dict fields) = .ok v) :
    ∃ fields' : Fields, v = .dict fields' ∧ fields'.Texts ∧ fields'.Distinct ∧
      ∀ name text, fields.Texts → Settled (.text name) (.str text) fields →
        Fields.get? name fields' = some (.str text) := by
  unfold document Value.toDocument at kept
  cases made : Value.documentFields (Value.entryDocuments fields) with
  | error problem =>
      rw [made] at kept
      cases kept
  | ok documents =>
      rw [made] at kept
      cases kept
      obtain ⟨texts, settles⟩ := Value.documentFields_ok made
      have back : Value.readBack (.dict documents) =
          .dict (Fields.ofPairs (documents.map fun entry => (entry.1, entry.2.readBack))) := by
        rw [Value.readBack, Value.entriesBack_eq]
      have named : ∀ entry ∈ documents.map fun entry => (entry.1, entry.2.readBack),
          ∃ name, entry.1 = .text name := by
        intro entry inside
        obtain ⟨old, was, rfl⟩ := List.mem_map.mp inside
        exact texts old was
      refine ⟨_, back, ?_, ?_, fun name text given settled => ?_⟩
      · exact fun entry inside => named entry (Fields.put_sets.mem_of_mem_foldl named entry inside)
      · exact ((Fields.Over.refl (List.Pairwise.nil : Fields.Distinct [])).overlay _).distinct
      · rw [Value.entryDocuments_eq] at settles
        refine (Fields.put_sets.settled named ((settles name (.str text) ?_ ?_).map Value.readBack)).get?
        · intro entry inside
          obtain ⟨old, was, rfl⟩ := List.mem_map.mp inside
          exact given old was
        · exact settled.map Value.toDocument

end Columns

end Tickwork
