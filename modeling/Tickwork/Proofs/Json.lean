import Tickwork.Arrangement.Entries
import Tickwork.Proofs.Data

/-!
# JSON in columns

A column is given a value and keeps what is read back of its document. Main statements: whatever a column
keeps is data, and of JSON it keeps the same data.
-/

set_option autoImplicit false

namespace Tickwork

variable {α : Type}

namespace Value

/-! ## What is read back -/

theorem mem_texts? {entries : List (Key × α)} {named : List (String × α)} (read : texts? entries = some named) :
    ∀ pair ∈ named, ∃ entry ∈ entries, entry.2 = pair.2 := by
  induction entries generalizing named with
  | nil =>
      cases read
      exact fun _ inside => absurd inside List.not_mem_nil
  | cons head rest ih =>
      unfold texts? at read ih
      rw [List.mapM_cons] at read
      obtain ⟨first, own, more⟩ := Option.bind_eq_some_iff.mp read
      obtain ⟨others, later, whole⟩ := Option.bind_eq_some_iff.mp more
      cases whole
      obtain ⟨name, -, rfl⟩ := Option.map_eq_some_iff.mp own
      intro pair inside
      rcases List.mem_cons.mp inside with rfl | there
      · exact ⟨head, List.mem_cons_self, rfl⟩
      · obtain ⟨entry, here, same⟩ := ih later pair there
        exact ⟨entry, List.mem_cons_of_mem _ here, same⟩

/-- In order stands nothing but what was given. -/
theorem mem_inOrder {entries ordered : List (Key × α)} (made : inOrder entries = .ok ordered) :
    ∀ entry ∈ ordered, ∃ old ∈ entries, old.2 = entry.2 := by
  unfold inOrder at made
  split at made
  · rename_i named read
    cases made
    intro entry inside
    obtain ⟨pair, there, rfl⟩ := List.mem_map.mp inside
    exact mem_texts? read pair (Sorted.put_sets.mem_of_mem_foldl (fun _ _ => trivial) _ there)
  · intro entry inside
    exact ⟨entry, (perm_of_arranged made).mem_iff.mp inside, rfl⟩

/-- The document of a mapping has texts for keys and documents of its values under them. -/
theorem documentFields_entries {entries : List (Key × Except Unwritable Value)} {fields : Fields}
    (ok : documentFields entries = .ok fields) :
    fields.Texts ∧ ∀ entry ∈ fields, ∃ old ∈ entries, old.2 = .ok entry.2 := by
  refine ⟨(documentFields_ok ok).1, fun entry inside => ?_⟩
  unfold documentFields at ok
  cases ordered : inOrder entries with
  | error problem =>
      rw [ordered] at ok
      cases ok
  | ok sorted =>
      rw [ordered] at ok
      obtain ⟨back, -⟩ := mem_of_mapM (f := documentEntry) ok
      obtain ⟨old, was, made⟩ := back entry inside
      obtain ⟨source, there, same⟩ := mem_inOrder ordered old was
      exact ⟨source, there, same.trans (documentEntry_ok made).2⟩

theorem isData_list {items : List Value} (each : ∀ v ∈ items, IsData v) : IsData (.list items) := by
  refine .list rfl fun pair inside => ?_
  have paired : items.zip items = items.map fun v => (v, v) := by
    simpa using List.zip_map' (f := fun v : Value => v) (g := fun v => v) (l := items)
  rw [paired] at inside
  obtain ⟨v, there, rfl⟩ := List.mem_map.mp inside
  exact each v there

theorem toDocument_int (n : Int) :
    toDocument (.int n) = if Numeral.isSpellable n then .ok (.int n) else .error .tooLong := by
  rw [toDocument]

theorem isData_of_int {n : Int} {document : Value} (made : toDocument (.int n) = .ok document) :
    IsData document.readBack := by
  rw [toDocument_int] at made
  by_cases short : Numeral.isSpellable n = true
  · rw [if_pos short] at made
    cases made
    exact .int n short
  · rw [if_neg short] at made
    cases made

theorem isData_of_fields {entries : List (Key × Except Unwritable Value)} {fields : Fields}
    (each : ∀ entry ∈ entries, ∀ document, entry.2 = .ok document → IsData document.readBack)
    (ok : documentFields entries = .ok fields) : IsData (readBack (.dict fields)) := by
  obtain ⟨texts, sources⟩ := documentFields_entries ok
  have back : ∀ entry ∈ fields.map fun entry => (entry.1, entry.2.readBack),
      (∃ name, entry.1 = .text name) ∧ IsData entry.2 := by
    intro entry inside
    obtain ⟨old, was, rfl⟩ := List.mem_map.mp inside
    obtain ⟨source, there, same⟩ := sources old was
    exact ⟨texts old was, each source there old.2 same⟩
  have from' := Fields.put_sets.mem_of_mem_foldl fun entry inside => (back entry inside).1
  have plain : (Fields.ofPairs (fields.map fun entry => (entry.1, entry.2.readBack))).Plain :=
    ⟨fun entry inside => (back entry (from' entry inside)).1,
      ((Fields.Over.refl (List.Pairwise.nil : Fields.Distinct [])).overlay _).distinct⟩
  rw [readBack, entriesBack_eq]
  refine .of_found plain plain fun name => ?_
  cases found : Fields.get? name (Fields.ofPairs (fields.map fun entry => (entry.1, entry.2.readBack))) with
  | none => exact .none
  | some v => exact .some (back _ (from' _ (Fields.mem_of_get? found))).2

mutual

/-- What is read back of a document is data. -/
theorem isData_of_toDocument : ∀ v : Value, ∀ document, v.toDocument = .ok document → IsData document.readBack
  | .null => fun _ made => by
      cases made
      exact .null
  | .bool b => fun _ made => by
      cases made
      exact .bool b
  | .float x => fun _ made => by
      cases made
      exact .float x
  | .str s => fun _ made => by
      cases made
      exact .str s
  | .int _ => fun _ made => isData_of_int made
  | .record _ _ => fun _ made => by cases made
  | .list items => fun _ made => by
      rw [toDocument] at made
      obtain ⟨documents, each, whole⟩ := Arrangement.bind_eq_ok.mp made
      cases whole
      rw [readBack]
      exact isData_list (isData_of_toDocuments items _ each)
  | .dict fields => fun _ made => by
      rw [toDocument] at made
      obtain ⟨documents, each, whole⟩ := Arrangement.bind_eq_ok.mp made
      cases whole
      exact isData_of_fields (isData_of_entryDocuments fields) each

theorem isData_of_toDocuments : ∀ items : List Value, ∀ documents, toDocuments items = .ok documents →
    ∀ v ∈ itemsBack documents, IsData v
  | [] => fun _ made => by
      cases made
      exact fun _ inside => absurd inside List.not_mem_nil
  | x :: rest => fun _ made => by
      rw [toDocuments] at made
      obtain ⟨document, first, more⟩ := Arrangement.bind_eq_ok.mp made
      obtain ⟨documents, later, whole⟩ := Arrangement.bind_eq_ok.mp more
      cases whole
      rw [itemsBack]
      exact List.forall_mem_cons.mpr ⟨isData_of_toDocument x _ first, isData_of_toDocuments rest _ later⟩

theorem isData_of_entryDocuments : ∀ (fields : Fields), ∀ entry ∈ entryDocuments fields,
    ∀ document, entry.2 = .ok document → IsData document.readBack
  | [] => fun _ inside => absurd inside List.not_mem_nil
  | (k, x) :: rest => by
      rw [entryDocuments]
      exact List.forall_mem_cons.mpr ⟨isData_of_toDocument x, isData_of_entryDocuments rest⟩

end

end Value

/-- Whatever a column keeps is data. -/
theorem Columns.document_isData {v kept : Value} (made : Columns.document v = .ok kept) : kept.IsData := by
  unfold Columns.document at made
  cases written : v.toDocument with
  | error problem =>
      rw [written] at made
      cases made
  | ok document =>
      rw [written] at made
      cases made
      exact Value.isData_of_toDocument v document written

/-! ## JSON -/

/-- A value is JSON: its mappings have texts for keys, none of them twice, and there are no records. Its
numbers may be too long to be written. -/
inductive Value.IsJson : Value → Prop
  | null : IsJson .null
  | bool (b : Bool) : IsJson (.bool b)
  | int (n : Int) : IsJson (.int n)
  | float (x : Binary64) : IsJson (.float x)
  | str (s : String) : IsJson (.str s)
  | list {items : List Value} (each : ∀ v ∈ items, IsJson v) : IsJson (.list items)
  | dict {fields : Fields} (plain : fields.Plain)
      (each : ∀ name v, Fields.get? name fields = some v → IsJson v) : IsJson (.dict fields)

namespace Value

theorem toDocument_of_toDocuments {items documents : List Value} (made : toDocuments items = .ok documents) :
    ∀ v ∈ items, ∃ document, v.toDocument = .ok document := by
  induction items generalizing documents with
  | nil => exact fun _ inside => absurd inside List.not_mem_nil
  | cons item rest ih =>
      rw [toDocuments] at made
      obtain ⟨document, first, more⟩ := Arrangement.bind_eq_ok.mp made
      obtain ⟨others, later, -⟩ := Arrangement.bind_eq_ok.mp more
      exact List.forall_mem_cons.mpr ⟨⟨document, first⟩, ih later⟩

theorem toDocument_of_documentFields {fields documents : Fields} (plain : fields.Plain)
    (made : documentFields (entryDocuments fields) = .ok documents) {name : String} {v : Value}
    (found : Fields.get? name fields = some v) : ∃ document, v.toDocument = .ok document := by
  obtain ⟨sorted, -, ordered, entries⟩ := inOrder_entryDocuments plain
  unfold documentFields at made
  rw [ordered] at made
  have there : (name, v.toDocument) ∈ sorted := (entries (name, v.toDocument)).mpr (by rw [found]; rfl)
  obtain ⟨entry, -, ok⟩ := (mem_of_mapM (f := documentEntry) made).2 _ (List.mem_map_of_mem there)
  exact ⟨entry.2, (documentEntry_ok ok).2⟩

theorem IsJson.of_mem {fields : Fields} (plain : fields.Plain) (each : ∀ entry ∈ fields, IsJson entry.2) :
    IsJson (.dict fields) :=
  .dict plain fun _ _ found => each _ (Fields.mem_of_get? found)

/-- JSON that has a document is data. -/
theorem IsJson.isData {v : Value} (json : IsJson v) : ∀ document, v.toDocument = .ok document → IsData v := by
  induction json with
  | null => exact fun _ _ => .null
  | bool b => exact fun _ _ => .bool b
  | float x => exact fun _ _ => .float x
  | str s => exact fun _ _ => .str s
  | int n =>
      intro document made
      rw [toDocument_int] at made
      by_cases short : Numeral.isSpellable n = true
      · exact .int n short
      · rw [if_neg short] at made
        cases made
  | @list items each ih =>
      intro document made
      rw [toDocument] at made
      obtain ⟨documents, all, -⟩ := Arrangement.bind_eq_ok.mp made
      refine isData_list fun v inside => ?_
      obtain ⟨document, own⟩ := toDocument_of_toDocuments all v inside
      exact ih v inside document own
  | @dict fields plain each ih =>
      intro document made
      rw [toDocument] at made
      obtain ⟨documents, all, -⟩ := Arrangement.bind_eq_ok.mp made
      refine .of_found plain plain fun name => ?_
      cases found : Fields.get? name fields with
      | none => exact .none
      | some v =>
          obtain ⟨document, own⟩ := toDocument_of_documentFields plain all found
          exact .some (ih name v found document own)

end Value

/-- What a column keeps of JSON is the same data. -/
theorem Columns.document_alike_of_isJson {v kept : Value} (json : v.IsJson) (made : Columns.document v = .ok kept) :
    kept.Alike v := by
  have data : v.IsData := by
    unfold Columns.document at made
    cases written : v.toDocument with
    | error problem =>
        rw [written] at made
        cases made
    | ok document => exact json.isData document written
  obtain ⟨kept', made', -, alike⟩ := document_alike data
  rw [made] at made'
  cases made'
  exact alike

end Tickwork
