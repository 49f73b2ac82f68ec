import Mathlib.Data.List.Sort
import Tickwork.Proofs.Documents
import Tickwork.Proofs.Likeness

/-!
# Data up to order

JSON does not tell in which order a mapping has its entries, and a column gives them back in the order of
their names. `Value.Alike` says that two values are the same data. Main statements: the engine cannot tell
such data apart, a column takes it for one document, and what the column gives back is the same data again.
-/

set_option autoImplicit false

namespace Tickwork

variable {α β : Type}

/-! ## Entries in the order of their names -/

namespace Sorted

/-- Entries in the order of their names, none of them twice. -/
def Strict (entries : List (String × α)) : Prop := entries.Pairwise fun a b => a.1 < b.1

variable {name : String} {value : α} {entries entries' : List (String × α)}

theorem Strict.put (strict : Strict entries) (name : String) (value : α) :
    Strict (Sorted.put name value entries) := by
  induction entries with
  | nil => exact List.pairwise_singleton _ _
  | cons head rest ih =>
      obtain ⟨k, v⟩ := head
      obtain ⟨front, later⟩ := List.pairwise_cons.mp strict
      unfold Sorted.put
      by_cases same : k = name
      · rw [if_pos same]
        exact List.pairwise_cons.mpr ⟨same ▸ front, later⟩
      · rw [if_neg same]
        by_cases before : name < k
        · rw [if_pos before]
          refine List.pairwise_cons.mpr ⟨fun entry inside => ?_, strict⟩
          rcases List.mem_cons.mp inside with rfl | inside
          · exact before
          · exact String.lt_trans before (front entry inside)
        · rw [if_neg before]
          refine List.pairwise_cons.mpr ⟨fun entry inside => ?_, ih later⟩
          rcases put_sets.only _ _ _ _ trivial inside with rfl | old
          · by_contra late
            exact same (String.le_antisymm (String.not_lt.mp before) (String.not_lt.mp late))
          · exact front entry old

theorem Strict.erase (strict : Strict entries) (name : String) : Strict (Sorted.erase name entries) :=
  List.Pairwise.filter _ strict

theorem strict_ofPairs (pairs : List (String × α)) : Strict (ofPairs pairs) := by
  have laid : ∀ (pairs base : List (String × α)), Strict base → Strict (overlay base pairs) := by
    intro pairs
    induction pairs with
    | nil => exact fun base strict => strict
    | cons pair rest ih => exact fun base strict => ih _ (strict.put pair.1 pair.2)
  exact laid pairs [] List.Pairwise.nil

/-- In this order entries are given by what there is to find among them. -/
theorem Strict.ext (strict : Strict entries) (strict' : Strict entries')
    (same : ∀ entry, entry ∈ entries ↔ entry ∈ entries') : entries = entries' := by
  have irrefl : Std.Irrefl fun a b : String × α => a.1 < b.1 := ⟨fun a => String.lt_irrefl a.1⟩
  have antisymm : Std.Antisymm fun a b : String × α => a.1 < b.1 :=
    ⟨fun _ _ before after => absurd after (String.lt_asymm before)⟩
  exact List.Pairwise.eq_of_mem_iff strict strict' same

theorem put_last (late : ∀ entry ∈ entries, entry.1 < name) :
    Sorted.put name value entries = entries ++ [(name, value)] := by
  induction entries with
  | nil => rfl
  | cons head rest ih =>
      obtain ⟨k, v⟩ := head
      have before : k < name := late (k, v) List.mem_cons_self
      have apart : k ≠ name := fun same => String.lt_irrefl _ (same ▸ before)
      rw [Sorted.put, if_neg apart, if_neg (String.lt_asymm before),
        ih fun entry inside => late entry (List.mem_cons_of_mem _ inside)]
      rfl

/-- Entries that are in this order are left in it. -/
theorem Strict.ofPairs_eq (strict : Strict entries) : ofPairs entries = entries := by
  induction entries using List.reverseRecOn with
  | nil => rfl
  | append_singleton front last ih =>
      obtain ⟨early, -, late⟩ := List.pairwise_append.mp strict
      have laid : ofPairs (front ++ [last]) = Sorted.put last.1 last.2 (ofPairs front) := List.foldl_append
      rw [laid, ih early]
      exact put_last fun entry inside => late entry inside last (List.mem_singleton.mpr rfl)

theorem put_perm (fresh : name ∉ names entries) :
    (Sorted.put name value entries).Perm (entries ++ [(name, value)]) := by
  induction entries with
  | nil => exact .refl _
  | cons head rest ih =>
      obtain ⟨k, v⟩ := head
      obtain ⟨apart, later⟩ := not_or.mp (mt List.mem_cons.mpr fresh)
      unfold Sorted.put
      rw [if_neg (Ne.symm apart)]
      by_cases before : name < k
      · rw [if_pos before]
        exact (List.perm_append_singleton _ _).symm
      · rw [if_neg before]
        exact (ih later).cons _

/-- Entries of which none has the name of another one are the same in the order of their names. -/
theorem ofPairs_perm (apart : (names entries).Nodup) : (ofPairs entries).Perm entries := by
  induction entries using List.reverseRecOn with
  | nil => exact .refl _
  | append_singleton front last ih =>
      rw [names, List.map_append] at apart
      obtain ⟨early, -, disjoint⟩ := List.nodup_append.mp apart
      have laid : ofPairs (front ++ [last]) = Sorted.put last.1 last.2 (ofPairs front) := List.foldl_append
      have sorted := ih early
      have fresh : last.1 ∉ names (ofPairs front) := fun inside =>
        disjoint _ ((sorted.map Prod.fst).mem_iff.mp inside) _ (List.mem_singleton.mpr rfl) rfl
      rw [laid]
      exact (put_perm fresh).trans (sorted.append_right _)

theorem put_map (f : α → β) (name : String) (value : α) (entries : List (String × α)) :
    Sorted.put name (f value) (entries.map fun entry => (entry.1, f entry.2)) =
      (Sorted.put name value entries).map fun entry => (entry.1, f entry.2) := by
  induction entries with
  | nil => rfl
  | cons head rest ih =>
      obtain ⟨k, v⟩ := head
      simp only [List.map_cons, Sorted.put, ih]
      split
      · rfl
      · split <;> rfl

theorem ofPairs_map (f : α → β) (pairs : List (String × α)) :
    ofPairs (pairs.map fun entry => (entry.1, f entry.2)) =
      (ofPairs pairs).map fun entry => (entry.1, f entry.2) := by
  have laid : ∀ (pairs base : List (String × α)),
      overlay (base.map fun entry => (entry.1, f entry.2)) (pairs.map fun entry => (entry.1, f entry.2)) =
        (overlay base pairs).map fun entry => (entry.1, f entry.2) := by
    intro pairs
    induction pairs with
    | nil => exact fun _ => rfl
    | cons pair rest ih =>
        intro base
        show overlay (Sorted.put pair.1 (f pair.2) _) _ = _
        rw [put_map]
        exact ih _
  exact laid pairs []

end Sorted

/-! ## Plain mappings -/

/-- A mapping as JSON has it: its keys are texts, none of them twice. -/
structure Fields.Plain (fields : Fields) : Prop where
  texts : fields.Texts
  distinct : fields.Distinct

namespace Fields

variable {name : String} {value : Value} {fields changes : Fields}

theorem plain_nil : Plain [] := ⟨fun _ inside => absurd inside List.not_mem_nil, List.Pairwise.nil⟩

theorem mem_of_get? (found : get? name fields = some value) : (.text name, value) ∈ fields := by
  induction fields with
  | nil => cases found
  | cons head rest ih =>
      obtain ⟨k, v⟩ := head
      rw [get?_cons] at found
      by_cases own : k = .text name
      · rw [if_pos own] at found
        cases found
        exact own ▸ List.mem_cons_self
      · rw [if_neg own] at found
        exact List.mem_cons_of_mem _ (ih found)

theorem get?_of_mem (distinct : fields.Distinct) (inside : (.text name, value) ∈ fields) :
    get? name fields = some value := by
  induction fields with
  | nil => cases inside
  | cons head rest ih =>
      obtain ⟨k, v⟩ := head
      obtain ⟨apart, later⟩ := List.pairwise_cons.mp distinct
      rw [get?_cons]
      rcases List.mem_cons.mp inside with same | there
      · cases same
        rw [if_pos rfl]
      · have other : k ≠ .text name := by
          rintro rfl
          have differs := apart _ there
          rw [Key.same_self] at differs
          cases differs
        rw [if_neg other]
        exact ih later there

theorem Plain.settled (plain : fields.Plain) (found : get? name fields = some value) :
    Settled (.text name) value fields := by
  refine ⟨mem_of_get? found, fun entry inside own => ?_⟩
  obtain ⟨key, v⟩ := entry
  cases own
  exact Option.some.inj ((get?_of_mem plain.distinct inside).symm.trans found)

theorem Plain.put (plain : fields.Plain) (name : String) (value : Value) :
    (Fields.put (.text name) value fields).Plain :=
  ⟨plain.texts.put name value, ((Over.refl plain.distinct).put _ _).distinct⟩

theorem Plain.erase (plain : fields.Plain) (name : String) : (Fields.erase name fields).Plain :=
  ⟨fun entry inside => plain.texts entry (List.mem_filter.mp inside).1, plain.distinct.filter _⟩

theorem Plain.overlay (plain : fields.Plain) (plain' : changes.Plain) : (Fields.overlay fields changes).Plain := by
  have texts := plain'.texts
  clear plain'
  induction changes generalizing fields with
  | nil => exact plain
  | cons change rest ih =>
      obtain ⟨name, named⟩ := texts change List.mem_cons_self
      refine ih ?_ fun entry inside => texts entry (List.mem_cons_of_mem _ inside)
      simp only [named]
      exact plain.put name change.2

/-- What is to be found in a mapping with changes laid over it. -/
theorem Plain.get?_overlay (plain : changes.Plain) (fields : Fields) (name : String) :
    get? name (Fields.overlay fields changes) = (get? name changes).or (get? name fields) := by
  induction changes generalizing fields with
  | nil => rfl
  | cons change rest ih =>
      obtain ⟨k, v⟩ := change
      obtain ⟨apart, later⟩ := List.pairwise_cons.mp plain.distinct
      have rest' : Plain rest := ⟨fun entry inside => plain.texts entry (List.mem_cons_of_mem _ inside), later⟩
      obtain ⟨key, rfl⟩ : ∃ key, k = .text key := plain.texts _ List.mem_cons_self
      show get? name (Fields.overlay (Fields.put (.text key) v fields) rest) = _
      rw [ih rest', get?_cons]
      by_cases own : key = name
      · subst own
        have absent : get? key rest = none := by
          cases found : get? key rest with
          | none => rfl
          | some v' =>
              have differs := apart _ (mem_of_get? found)
              rw [Key.same_self] at differs
              cases differs
        rw [absent, if_pos rfl, get?_put_self]
        rfl
      · have other : Key.text key ≠ .text name := fun same => own (Key.text.inj same)
        rw [if_neg other, get?_put_other other]

theorem get?_erase_self (fields : Fields) (name : String) : get? name (erase name fields) = none := by
  cases found : get? name (erase name fields) with
  | none => rfl
  | some v => simpa using (List.mem_filter.mp (mem_of_get? found)).2

end Fields

/-! ## Data -/

namespace Value

/-- Two values are the same data: JSON that is the same but for the order in which mappings have their
entries. -/
inductive Alike : Value → Value → Prop
  | null : Alike .null .null
  | bool (b : Bool) : Alike (.bool b) (.bool b)
  | int (n : Int) (short : Numeral.isSpellable n = true) : Alike (.int n) (.int n)
  | float (x : Binary64) : Alike (.float x) (.float x)
  | str (s : String) : Alike (.str s) (.str s)
  | list {items items' : List Value} (length : items.length = items'.length)
      (each : ∀ pair ∈ items.zip items', Alike pair.1 pair.2) : Alike (.list items) (.list items')
  | dict {fields fields' : Fields} (plain : fields.Plain) (plain' : fields'.Plain)
      (names : ∀ name, (Fields.get? name fields).isSome = (Fields.get? name fields').isSome)
      (each : ∀ name v v', Fields.get? name fields = some v → Fields.get? name fields' = some v' → Alike v v') :
      Alike (.dict fields) (.dict fields')

/-- A value is data: JSON, with no number in it that is too long to be written. -/
abbrev IsData (v : Value) : Prop := Alike v v

namespace Alike

variable {f f' c c' : Fields} {v v' : Value}

/-- What is found under a name in two mappings that are the same data: nothing, or the same data. -/
theorem found (alike : Alike (.dict f) (.dict f')) (name : String) :
    Option.Rel Alike (Fields.get? name f) (Fields.get? name f') := by
  cases alike with
  | dict plain plain' names each =>
      have there := names name
      have same := each name
      generalize Fields.get? name f = entry at there same ⊢
      generalize Fields.get? name f' = entry' at there same ⊢
      cases entry with
      | none =>
          cases entry' with
          | none => exact .none
          | some v' => cases there
      | some v =>
          cases entry' with
          | none => cases there
          | some v' => exact .some (same v v' rfl rfl)

theorem plain (alike : Alike (.dict f) (.dict f')) : f.Plain ∧ f'.Plain := by
  cases alike with
  | dict plain plain' names each => exact ⟨plain, plain'⟩

theorem of_found (plain : f.Plain) (plain' : f'.Plain)
    (found : ∀ name, Option.Rel Alike (Fields.get? name f) (Fields.get? name f')) :
    Alike (.dict f) (.dict f') := by
  refine .dict plain plain' (fun name => ?_) fun name v v' here here' => ?_
  · have rel := found name
    generalize Fields.get? name f = entry at rel ⊢
    generalize Fields.get? name f' = entry' at rel ⊢
    cases rel <;> rfl
  · have rel := found name
    rw [here, here'] at rel
    cases rel with
    | some same => exact same

theorem kin (alike : Alike v v') : Kin (fun f f' => Alike (.dict f) (.dict f')) v v' := by
  cases alike with
  | list length each => exact .list _ _
  | dict plain plain' names each => exact .dict (.dict plain plain' names each)
  | _ => exact .same _ rfl

theorem nothing : Alike (.dict []) (.dict []) := .of_found Fields.plain_nil Fields.plain_nil fun _ => .none

theorem put (alike : Alike (.dict f) (.dict f')) (name : String) (here : Alike v v') :
    Alike (.dict (Fields.put (.text name) v f)) (.dict (Fields.put (.text name) v' f')) := by
  refine .of_found (alike.plain.1.put name v) (alike.plain.2.put name v') fun other => ?_
  by_cases own : name = other
  · subst own
    rw [Fields.get?_put_self, Fields.get?_put_self]
    exact .some here
  · have apart : Key.text name ≠ .text other := fun same => own (Key.text.inj same)
    rw [Fields.get?_put_other apart, Fields.get?_put_other apart]
    exact alike.found other

theorem erase (alike : Alike (.dict f) (.dict f')) (name : String) :
    Alike (.dict (Fields.erase name f)) (.dict (Fields.erase name f')) := by
  refine .of_found (alike.plain.1.erase name) (alike.plain.2.erase name) fun other => ?_
  by_cases own : other = name
  · rw [own, Fields.get?_erase_self, Fields.get?_erase_self]
    exact .none
  · rw [Fields.get?_erase_other own, Fields.get?_erase_other own]
    exact alike.found other

theorem overlay (alike : Alike (.dict f) (.dict f')) (changes : Alike (.dict c) (.dict c')) :
    Alike (.dict (Fields.overlay f c)) (.dict (Fields.overlay f' c')) := by
  refine .of_found (alike.plain.1.overlay changes.plain.1) (alike.plain.2.overlay changes.plain.2) fun name => ?_
  rw [changes.plain.1.get?_overlay, changes.plain.2.get?_overlay]
  have laid := changes.found name
  generalize Fields.get? name c = entry at laid ⊢
  generalize Fields.get? name c' = entry' at laid ⊢
  cases laid with
  | none => exact alike.found name
  | some same => exact .some same

theorem isEmpty (alike : Alike (.dict f) (.dict f')) : f.isEmpty = f'.isEmpty := by
  have filled : ∀ {name : String} {v : Value} {rest : Fields},
      Fields.get? name ((.text name, v) :: rest) = some v := by
    intro name v rest
    rw [Fields.get?_cons, if_pos rfl]
  cases f with
  | nil =>
      cases f' with
      | nil => rfl
      | cons head rest =>
          obtain ⟨k, v⟩ := head
          obtain ⟨name, rfl⟩ : ∃ name, k = .text name := alike.plain.2.texts _ List.mem_cons_self
          have rel := alike.found name
          rw [filled] at rel
          cases rel
  | cons head rest =>
      cases f' with
      | cons head' rest' => rfl
      | nil =>
          obtain ⟨k, v⟩ := head
          obtain ⟨name, rfl⟩ : ∃ name, k = .text name := alike.plain.1.texts _ List.mem_cons_self
          have rel := alike.found name
          rw [filled] at rel
          cases rel

end Alike

end Value

/-- Data up to the order of entries. -/
def Likeness.data : Likeness where
  fields f f' := Value.Alike (.dict f) (.dict f')
  nothing := .nothing
  used := Value.Alike.nothing.put replyKey .null
  isEmpty alike := alike.isEmpty
  get? alike name := by
    have rel := alike.found name
    generalize Fields.get? name _ = entry at rel ⊢
    generalize Fields.get? name _ = entry' at rel ⊢
    cases rel with
    | none => exact .none
    | some same => exact .some same.kin
  erase alike name := alike.erase name
  overlay alike changes := alike.overlay changes

/-! ## Documents -/

namespace Value

/-- What stands under a name in the document of a mapping is the document of what stands there. -/
theorem documentFields_from {entries : List (Key × Except Unwritable Value)} {fields : Fields}
    (texts : ∀ entry ∈ entries, ∃ name, entry.1 = .text name) (ok : documentFields entries = .ok fields) :
    ∀ entry ∈ fields, (entry.1, .ok entry.2) ∈ entries := by
  obtain ⟨named, read, rfl⟩ := texts?_of_texts texts
  unfold documentFields inOrder at ok
  rw [read] at ok
  obtain ⟨back, -⟩ := mem_of_mapM (f := documentEntry) ok
  intro entry inside
  obtain ⟨old, was, made⟩ := back entry inside
  obtain ⟨⟨name, document⟩, there, rfl⟩ := List.mem_map.mp was
  obtain ⟨key, same⟩ := documentEntry_ok made
  have here := Sorted.put_sets.mem_of_mem_foldl (fun _ _ => trivial) _ there
  have own : Key.text name = entry.1 := Except.ok.inj key
  refine List.mem_map.mpr ⟨(name, document), here, ?_⟩
  exact Prod.ext own same

theorem texts?_named (pairs : List (String × α)) :
    texts? (pairs.map fun pair => (Key.text pair.1, pair.2)) = some pairs := by
  induction pairs with
  | nil => rfl
  | cons pair rest ih =>
      unfold texts? at ih ⊢
      rw [List.map_cons, List.mapM_cons, ih]
      rfl

/-- The document of a mapping of named values has them in the order of their names. -/
theorem documentFields_named (pairs : List (String × Value)) :
    documentFields (entryDocuments (Fields.ofNamed pairs)) =
      ((Sorted.ofPairs pairs).map fun pair => (Key.text pair.1, pair.2.toDocument)).mapM documentEntry := by
  have listed : entryDocuments (Fields.ofNamed pairs) =
      (pairs.map fun pair => (pair.1, pair.2.toDocument)).map fun pair => (Key.text pair.1, pair.2) := by
    rw [entryDocuments_eq, Fields.ofNamed, List.map_map, List.map_map]
    rfl
  unfold documentFields inOrder
  rw [listed, texts?_named]
  simp only [Sorted.ofPairs_map toDocument pairs, List.map_map]
  rfl

theorem mapM_ok {ε : Type} {f : α → Except ε β} {items : List α} (all : ∀ a ∈ items, ∃ b, f a = .ok b) :
    ∃ made, items.mapM f = .ok made := by
  induction items with
  | nil => exact ⟨[], rfl⟩
  | cons item rest ih =>
      obtain ⟨b, first⟩ := all item List.mem_cons_self
      obtain ⟨bs, later⟩ := ih fun a inside => all a (List.mem_cons_of_mem _ inside)
      exact ⟨b :: bs, by rw [List.mapM_cons, first, later]; rfl⟩

section Plain

variable {fields fields' : Fields} {name : String}

theorem settled_entryDocuments (plain : fields.Plain) {v : Value} (found : Fields.get? name fields = some v) :
    Settled (.text name) v.toDocument (entryDocuments fields) := by
  rw [entryDocuments_eq]
  exact (plain.settled found).map toDocument

theorem texts_entryDocuments (plain : fields.Plain) :
    ∀ entry ∈ entryDocuments fields, ∃ name, entry.1 = .text name := by
  intro entry inside
  rw [entryDocuments_eq] at inside
  obtain ⟨old, was, rfl⟩ := List.mem_map.mp inside
  exact plain.texts old was

theorem mem_entryDocuments (plain : fields.Plain) (document : Except Unwritable Value) :
    (.text name, document) ∈ entryDocuments fields ↔
      (Fields.get? name fields).map toDocument = some document := by
  constructor
  · intro inside
    rw [entryDocuments_eq] at inside
    obtain ⟨⟨key, v⟩, was, same⟩ := List.mem_map.mp inside
    cases same
    rw [Fields.get?_of_mem plain.distinct was]
    rfl
  · intro same
    obtain ⟨v, found, rfl⟩ := Option.map_eq_some_iff.mp same
    exact (settled_entryDocuments plain found).1

/-- The entries of a plain mapping in the order of their names. -/
theorem inOrder_entryDocuments (plain : fields.Plain) :
    ∃ sorted : List (String × Except Unwritable Value), Sorted.Strict sorted ∧
      inOrder (entryDocuments fields) = .ok (sorted.map fun entry => (.text entry.1, entry.2)) ∧
      ∀ entry, entry ∈ sorted ↔ (Fields.get? entry.1 fields).map toDocument = some entry.2 := by
  obtain ⟨named, read, same⟩ := texts?_of_texts (texts_entryDocuments plain)
  refine ⟨Sorted.ofPairs named, Sorted.strict_ofPairs named, ?_, fun entry => ?_⟩
  · unfold inOrder
    rw [read]
  · obtain ⟨name, document⟩ := entry
    rw [← mem_entryDocuments plain, same]
    constructor
    · intro inside
      have here := Sorted.put_sets.mem_of_mem_foldl (fun _ _ => trivial) _ inside
      exact List.mem_map.mpr ⟨(name, document), here, rfl⟩
    · intro inside
      rw [← same] at inside
      obtain ⟨v, found, rfl⟩ := Option.map_eq_some_iff.mp ((mem_entryDocuments plain document).mp inside)
      have settled := settled_entryDocuments plain found
      rw [same] at settled
      exact (Sorted.put_sets.settled (fun _ _ => trivial) (Settled.text_iff.mp settled)).1

/-- Plain mappings that have the same documents under the same names have one document. -/
theorem documentFields_congr (plain : fields.Plain) (plain' : fields'.Plain)
    (same : ∀ name, (Fields.get? name fields).map toDocument = (Fields.get? name fields').map toDocument) :
    documentFields (entryDocuments fields) = documentFields (entryDocuments fields') := by
  obtain ⟨sorted, strict, ordered, inside⟩ := inOrder_entryDocuments plain
  obtain ⟨sorted', strict', ordered', inside'⟩ := inOrder_entryDocuments plain'
  have one : sorted = sorted' := strict.ext strict' fun entry => by rw [inside, inside', same]
  unfold documentFields
  rw [ordered, ordered', one]

theorem documentFields_made (plain : fields.Plain)
    (each : ∀ name v, Fields.get? name fields = some v → ∃ document, v.toDocument = .ok document) :
    ∃ made, documentFields (entryDocuments fields) = .ok made := by
  obtain ⟨sorted, -, ordered, inside⟩ := inOrder_entryDocuments plain
  unfold documentFields
  rw [ordered]
  refine mapM_ok (f := documentEntry) fun entry there => ?_
  obtain ⟨⟨name, document⟩, here, rfl⟩ := List.mem_map.mp there
  obtain ⟨v, found, same⟩ := Option.map_eq_some_iff.mp ((inside _).mp here)
  obtain ⟨made, ok⟩ := each name v found
  have its : document = .ok made := same.symm.trans ok
  refine ⟨(.text name, made), ?_⟩
  rw [its]
  rfl

/-- What is read back of the document of a plain mapping: under every name what is read back of the document
of what stood there. -/
theorem readBack_documentFields (plain : fields.Plain)
    (each : ∀ name v, Fields.get? name fields = some v → ∃ document, v.toDocument = .ok document) {made : Fields}
    (ok : documentFields (entryDocuments fields) = .ok made) :
    ∃ back : Fields, readBack (.dict made) = .dict back ∧ back.Plain ∧
      ∀ name, Option.Rel (fun v w => ∃ document, toDocument v = .ok document ∧ readBack document = w)
        (Fields.get? name fields) (Fields.get? name back) := by
  have texts := texts_entryDocuments plain
  obtain ⟨named, settles⟩ := documentFields_ok ok
  have sources := documentFields_from texts ok
  have texts' : ∀ entry ∈ made.map fun entry => (entry.1, entry.2.readBack), ∃ name, entry.1 = .text name := by
    intro entry inside
    obtain ⟨old, was, rfl⟩ := List.mem_map.mp inside
    exact named old was
  have from' := Fields.put_sets.mem_of_mem_foldl texts'
  refine ⟨Fields.ofPairs (made.map fun entry => (entry.1, entry.2.readBack)), ?_, ⟨?_, ?_⟩, fun name => ?_⟩
  · rw [readBack, entriesBack_eq]
  · exact fun entry inside => texts' entry (from' entry inside)
  · exact ((Fields.Over.refl (List.Pairwise.nil : Fields.Distinct [])).overlay _).distinct
  · cases found : Fields.get? name fields with
    | none =>
        cases found' : Fields.get? name (Fields.ofPairs (made.map fun entry => (entry.1, entry.2.readBack))) with
        | none => exact .none
        | some w =>
            obtain ⟨old, was, same⟩ := List.mem_map.mp (from' _ (Fields.mem_of_get? found'))
            have source := sources old was
            rw [show old.1 = .text name from congrArg Prod.fst same, mem_entryDocuments plain, found] at source
            cases source
    | some v =>
        obtain ⟨document, doc⟩ := each name v found
        have settled := settled_entryDocuments plain found
        rw [doc] at settled
        have back := Fields.put_sets.settled texts' ((settles name document texts settled).map readBack)
        rw [Fields.ofPairs, Fields.overlay, back.get?]
        exact .some ⟨document, doc, rfl⟩

end Plain

/-- Two values have one document, and what is read back of it is the same data as the second one. -/
def Shared (v v' : Value) : Prop :=
  ∃ document, v.toDocument = .ok document ∧ v'.toDocument = .ok document ∧ Alike document.readBack v'

namespace Shared

theorem list {items items' : List Value} (length : items.length = items'.length)
    (each : ∀ pair ∈ items.zip items', Shared pair.1 pair.2) : Shared (.list items) (.list items') := by
  obtain ⟨documents, made, made', back, same⟩ : ∃ documents, toDocuments items = .ok documents ∧
      toDocuments items' = .ok documents ∧ (itemsBack documents).length = items'.length ∧
      ∀ pair ∈ (itemsBack documents).zip items', Alike pair.1 pair.2 := by
    induction items generalizing items' with
    | nil =>
        cases items' with
        | nil => exact ⟨[], rfl, rfl, rfl, fun _ inside => absurd inside List.not_mem_nil⟩
        | cons head rest => cases length
    | cons item rest ih =>
        cases items' with
        | nil => cases length
        | cons item' rest' =>
            obtain ⟨document, here, here', alike⟩ := each (item, item') List.mem_cons_self
            obtain ⟨documents, made, made', back, same⟩ := ih (Nat.succ.inj length)
              fun pair inside => each pair (List.mem_cons_of_mem _ inside)
            refine ⟨document :: documents, ?_, ?_, congrArg (· + 1) back, fun pair inside => ?_⟩
            · rw [toDocuments, here, made]
              rfl
            · rw [toDocuments, here', made']
              rfl
            · rw [itemsBack, List.zip_cons_cons] at inside
              rcases List.mem_cons.mp inside with rfl | inside
              · exact alike
              · exact same pair inside
  refine ⟨.list documents, ?_, ?_, ?_⟩
  · rw [toDocument, made]
    rfl
  · rw [toDocument, made']
    rfl
  · rw [readBack]
    exact .list back same

theorem dict {fields fields' : Fields} (plain : fields.Plain) (plain' : fields'.Plain)
    (each : ∀ name, Option.Rel Shared (Fields.get? name fields) (Fields.get? name fields')) :
    Shared (.dict fields) (.dict fields') := by
  have same : ∀ name, (Fields.get? name fields).map toDocument = (Fields.get? name fields').map toDocument ∧
      ∀ v, Fields.get? name fields = some v → ∃ document, v.toDocument = .ok document := by
    intro name
    have rel := each name
    generalize Fields.get? name fields = entry at rel ⊢
    generalize Fields.get? name fields' = entry' at rel ⊢
    cases rel with
    | none => exact ⟨rfl, nofun⟩
    | some here =>
        obtain ⟨document, made, made', -⟩ := here
        refine ⟨congrArg some (made.trans made'.symm), ?_⟩
        rintro _ ⟨⟩
        exact ⟨document, made⟩
  have written := fun name => (same name).2
  obtain ⟨made, ok⟩ := documentFields_made plain written
  obtain ⟨back, read, tidy, entries⟩ := readBack_documentFields plain written ok
  have ok' := (documentFields_congr plain plain' fun name => (same name).1).symm.trans ok
  refine ⟨.dict made, ?_, ?_, ?_⟩
  · rw [toDocument, ok]
    rfl
  · rw [toDocument, ok']
    rfl
  · rw [read]
    refine .of_found tidy plain' fun name => ?_
    have rel := each name
    have entry := entries name
    generalize Fields.get? name fields = found at rel entry
    generalize Fields.get? name fields' = found' at rel ⊢
    generalize Fields.get? name back = kept at entry ⊢
    cases rel with
    | none =>
        cases entry with
        | none => exact .none
    | some here =>
        cases entry with
        | some here' =>
            obtain ⟨document, made, -, alike⟩ := here
            obtain ⟨document', made', rfl⟩ := here'
            cases made.symm.trans made'
            exact .some alike

end Shared

/-- Values that are the same data have one document, and what is read back of it is the same data again. -/
theorem Alike.shared {v v' : Value} (alike : Alike v v') : Shared v v' := by
  induction alike with
  | null => exact ⟨.null, rfl, rfl, .null⟩
  | bool b => exact ⟨.bool b, rfl, rfl, .bool b⟩
  | float x => exact ⟨.float x, rfl, rfl, .float x⟩
  | str s => exact ⟨.str s, rfl, rfl, .str s⟩
  | int n short =>
      have made : (Value.int n).toDocument = .ok (.int n) := by rw [toDocument, if_pos short]
      exact ⟨.int n, made, made, .int n short⟩
  | list length each ih => exact .list length ih
  | @dict fields fields' plain plain' names each ih =>
      refine .dict plain plain' fun name => ?_
      have there := names name
      have together := ih name
      generalize Fields.get? name fields = entry at there together ⊢
      generalize Fields.get? name fields' = entry' at there together ⊢
      cases entry <;> cases entry' <;> cases there
      · exact .none
      · exact .some (together _ _ rfl rfl)

end Value

/-- A column takes values that are the same data for one, and gives the same data back. -/
theorem Columns.document_alike {v v' : Value} (alike : v.Alike v') :
    ∃ kept, Columns.document v = .ok kept ∧ Columns.document v' = .ok kept ∧ kept.Alike v' := by
  obtain ⟨document, made, made', back⟩ := alike.shared
  refine ⟨document.readBack, ?_, ?_, back⟩
  · rw [Columns.document, made]
    rfl
  · rw [Columns.document, made']
    rfl

end Tickwork
