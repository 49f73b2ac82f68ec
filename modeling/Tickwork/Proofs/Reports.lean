import Tickwork.Proofs.Likeness

/-!
# Reports

A handler reports a status, data, a message and a page, as a record or as a mapping with these entries.
`Outcome.Conveys` says what an outcome takes from the first three, `Value.Renders` which page a value
stands for. Main statement: `reports_read_alike`, which says exactly which outcome is read from either
form. The two agree unless the page still has to be made: of a mapping it is made or refused, of a record
it is taken over as it came.
-/

set_option autoImplicit false

namespace Tickwork

namespace Value

/-- The value is a rendered page. -/
inductive IsPage : Value → Prop
  | page (fields : Fields) : IsPage (.record .page fields)

/-- The page that a value stands for. -/
inductive Renders : Value → Value → Prop
  | page (fields : Fields) : Renders (.record .page fields) (.record .page fields)
  | text (s : String) : Renders (.str s) (.page (.str s) .null)
  | titled {v : Value} {fields : Fields} {markdown title : String}
      (mapping : v.asMapping? = some fields) (body : field "markdown" fields = .str markdown)
      (head : field "title" fields = .str title) : Renders v (.page (.str markdown) (.str title))
  | untitled {v : Value} {fields : Fields} {markdown : String}
      (mapping : v.asMapping? = some fields) (body : field "markdown" fields = .str markdown)
      (bare : (field "title" fields).asString? = none) : Renders v (.page (.str markdown) .null)

theorem Renders.isPage {v p : Value} (renders : v.Renders p) : p.IsPage := by
  cases renders <;> exact .page _

theorem Renders.ne_null {v p : Value} (renders : v.Renders p) : v ≠ .null := by
  rintro rfl
  cases renders with
  | titled mapping => cases mapping
  | untitled mapping => cases mapping

/-- A page stands for itself only. -/
theorem Renders.eq_of_isPage {v p : Value} (renders : v.Renders p) (page : v.IsPage) : p = v := by
  cases page
  cases renders with
  | page => rfl
  | titled mapping => cases mapping
  | untitled mapping => cases mapping

theorem IsPage.renders {v : Value} (page : v.IsPage) : v.Renders v := by
  cases page
  exact .page _

/-- A mapping with these four entries, among whichever others. -/
inductive Reports (status data message page : Value) : Value → Prop
  | mapping {v : Value} {fields : Fields} (mapping : v.asMapping? = some fields)
      (named : field "status" fields = status) (laid : field "data" fields = data)
      (said : field "message" fields = message) (shown : field "page" fields = page) :
      Reports status data message page v

end Value

/-! ## Pages -/

theorem pageIn_iff {type : String} {fields : Fields} {v p : Value} (mapping : v.asMapping? = some fields) :
    pageIn type fields = .ok p ↔ v.Renders p := by
  constructor
  · intro made
    unfold pageIn at made
    cases body : field "markdown" fields with
    | str markdown =>
        cases head : field "title" fields with
        | str title =>
            simp only [body, head] at made
            cases made
            exact .titled mapping body head
        | _ =>
            simp only [body, head] at made
            cases made
            exact .untitled mapping body (by rw [head]; rfl)
    | _ =>
        simp only [body] at made
        cases made
  · intro renders
    cases renders with
    | page | text => cases mapping
    | titled mapping' body head =>
        cases mapping.symm.trans mapping'
        simp only [pageIn, body, head]
    | untitled mapping' body bare =>
        cases mapping.symm.trans mapping'
        unfold pageIn
        rw [body]
        cases head : field "title" fields with
        | str title =>
            rw [head] at bare
            cases bare
        | _ => rfl

/-- A page is read from the values that stand for one, and from no others. -/
theorem readPage_iff {v p : Value} : readPage v = .ok p ↔ v.Renders p := by
  cases mapping : v.asMapping? with
  | some fields => rw [readPage_mapping mapping, pageIn_iff mapping]
  | none =>
      constructor
      · intro made
        cases v with
        | str s =>
            cases made
            exact .text s
        | dict fields => cases mapping
        | record kind fields =>
            cases kind with
            | page =>
                cases made
                exact .page fields
            | view => cases mapping
            | result | again => cases made
        | _ => cases made
      · intro renders
        cases renders with
        | page | text => rfl
        | titled mapping' | untitled mapping' => cases mapping.symm.trans mapping'

namespace Outcome

/-! ## Status, data and message -/

/-- What an outcome takes over from the status, the data and the message of a report. -/
structure Conveys (o : Outcome) (status data message : Value) : Prop where
  status : status = .str o.status
  named : Text.isBlankText o.status = false
  data : (data = .null ∧ o.data = none) ∨ ∃ fields, data.asMapping? = some fields ∧ o.data = some fields
  message : message = .ofOption o.message

theorem readStatus_iff {id : String} {v : Value} {s : String} :
    readStatus id v = .ok s ↔ v = .str s ∧ Text.isBlankText s = false := by
  cases v with
  | str text =>
      have read : readStatus id (.str text) =
          if Text.isBlankText text then .error (.noStatus id) else .ok text := rfl
      rw [read]
      cases blank : Text.isBlankText text with
      | true =>
          refine ⟨nofun, ?_⟩
          rintro ⟨same, spoken⟩
          cases same
          cases blank.symm.trans spoken
      | false =>
          constructor
          · intro same
            cases same
            exact ⟨rfl, blank⟩
          · rintro ⟨same, -⟩
            cases same
            rfl
  | _ => exact ⟨nofun, fun ⟨same, _⟩ => nomatch same⟩

theorem readData_iff {id : String} {v : Value} {d : Option Fields} :
    readData id v = .ok d ↔
      (v = .null ∧ d = none) ∨ ∃ fields, v.asMapping? = some fields ∧ d = some fields := by
  constructor
  · intro read
    cases v with
    | null =>
        cases read
        exact .inl ⟨rfl, rfl⟩
    | dict fields =>
        cases read
        exact .inr ⟨fields, rfl, rfl⟩
    | record kind fields =>
        cases kind with
        | view =>
            cases read
            exact .inr ⟨fields, rfl, rfl⟩
        | _ => cases read
    | _ => cases read
  · rintro (⟨rfl, rfl⟩ | ⟨fields, mapping, rfl⟩)
    · rfl
    · cases v with
      | dict =>
          cases mapping
          rfl
      | record kind =>
          cases kind with
          | view =>
              cases mapping
              rfl
          | _ => cases mapping
      | _ => cases mapping

theorem readMessage_iff {id : String} {v : Value} {m : Option String} :
    readMessage id v = .ok m ↔ v = .ofOption m := by
  constructor
  · intro read
    cases v <;> cases read <;> rfl
  · rintro rfl
    cases m <;> rfl

theorem ofParts_iff {id : String} {status data message page : Value} {o : Outcome} :
    ofParts id status data message page = .ok o ↔
      o.Conveys status data message ∧ o.page = optional page := by
  rw [ofParts_eq]
  constructor
  · intro read
    cases named : readStatus id status with
    | error cause => simp only [named, Except.bind] at read; cases read
    | ok s =>
        cases laid : readData id data with
        | error cause => simp only [named, laid, Except.bind] at read; cases read
        | ok d =>
            cases said : readMessage id message with
            | error cause => simp only [named, laid, said, Except.bind] at read; cases read
            | ok m =>
                simp only [named, laid, said, Except.bind] at read
                cases read
                obtain ⟨text, spoken⟩ := readStatus_iff.mp named
                exact ⟨⟨text, spoken, readData_iff.mp laid, readMessage_iff.mp said⟩, rfl⟩
  · rintro ⟨conveys, shown⟩
    have named : readStatus id status = .ok o.status := readStatus_iff.mpr ⟨conveys.status, conveys.named⟩
    have laid : readData id data = .ok o.data := readData_iff.mpr conveys.data
    have said : readMessage id message = .ok o.message := readMessage_iff.mpr conveys.message
    rw [named, laid, said, ← shown]
    rfl

/-- The page that an outcome read from a mapping has: none, or one that the entry stands for. -/
def Shows (o : Outcome) (page : Value) : Prop :=
  (page = .null ∧ o.page = none) ∨ ∃ p, page.Renders p ∧ o.page = some p

theorem optional_of_ne_null {v : Value} (there : v ≠ .null) : optional v = some v := by
  cases v with
  | null => exact absurd rfl there
  | _ => rfl

theorem optional_eq_some {v p : Value} (shown : optional v = some p) : p = v ∧ v ≠ .null := by
  cases v <;> cases shown <;> exact ⟨rfl, nofun⟩

/-! ## The two forms -/

theorem read_record_iff {id : String} {status data message page : Value} {o : Outcome} :
    read id (.result status data message page) = .ok o ↔
      o.Conveys status data message ∧ o.page = optional page :=
  ofParts_iff

theorem pagePart_iff {page p : Value} :
    pagePart page = .ok p ↔ (page = .null ∧ p = .null) ∨ page.Renders p := by
  by_cases absent : page = .null
  · subst absent
    constructor
    · intro made
      cases made
      exact .inl ⟨rfl, rfl⟩
    · rintro (⟨-, rfl⟩ | renders)
      · rfl
      · exact absurd rfl renders.ne_null
  · have part : pagePart page = readPage page := by
      cases page with
      | null => exact absurd rfl absent
      | _ => rfl
    rw [part, readPage_iff]
    exact ⟨.inr, fun | .inl ⟨null, _⟩ => absurd null absent | .inr renders => renders⟩

theorem read_mapping {id : String} {v : Value} {fields : Fields} (mapping : v.asMapping? = some fields) :
    read id v = (pagePart (field "page" fields)).bind
      (ofParts id (field "status" fields) (field "data" fields) (field "message" fields)) := by
  cases v with
  | dict =>
      cases mapping
      exact read_dict id fields
  | record kind =>
      cases kind with
      | view =>
          cases mapping
          exact read_dict id fields
      | _ => cases mapping
  | _ => cases mapping

theorem read_mapping_iff {id : String} {status data message page v : Value}
    (reports : Value.Reports status data message page v) {o : Outcome} :
    read id v = .ok o ↔ o.Conveys status data message ∧ o.Shows page := by
  obtain ⟨mapping, rfl, rfl, rfl, rfl⟩ := reports
  rename_i fields
  rw [read_mapping mapping]
  constructor
  · intro read
    cases made : pagePart (field "page" fields) with
    | error cause => simp only [made, Except.bind] at read; cases read
    | ok p =>
        simp only [made, Except.bind] at read
        obtain ⟨conveys, shown⟩ := ofParts_iff.mp read
        refine ⟨conveys, ?_⟩
        rcases pagePart_iff.mp made with ⟨absent, rfl⟩ | renders
        · exact .inl ⟨absent, shown⟩
        · have page := renders.isPage
          exact .inr ⟨p, renders, shown.trans (by cases page; rfl)⟩
  · rintro ⟨conveys, ⟨absent, shown⟩ | ⟨p, renders, shown⟩⟩
    · rw [pagePart_iff.mpr (.inl ⟨absent, rfl⟩)]
      exact ofParts_iff.mpr ⟨conveys, shown⟩
    · rw [pagePart_iff.mpr (.inr renders)]
      have page := renders.isPage
      exact ofParts_iff.mpr ⟨conveys, shown.trans (by cases page; rfl)⟩

/-- What is read at all was a record or a mapping. -/
theorem reported_of_read {id : String} {v : Value} {o : Outcome} (read : read id v = .ok o) :
    ∃ status data message page, v = .result status data message page ∨
      Value.Reports status data message page v := by
  unfold Outcome.read at read
  split at read
  · exact ⟨_, _, _, _, .inl rfl⟩
  · split at read
    · cases read
    · rename_i fields mapping
      exact ⟨_, _, _, _, .inr (.mapping mapping rfl rfl rfl rfl)⟩

/-- An outcome that was read has a status to route by. Its page is a page, or the page of a record as it
came. -/
theorem named_of_read {id : String} {v : Value} {o : Outcome} (read : read id v = .ok o) :
    Text.isBlankText o.status = false ∧ ((∀ p, o.page = some p → p.IsPage) ∨
      ∃ status data message page, v = .result status data message page ∧ o.page = some page ∧
        ¬ page.IsPage) := by
  obtain ⟨status, data, message, page, rfl | reports⟩ := reported_of_read read
  · obtain ⟨conveys, shown⟩ := read_record_iff.mp read
    refine ⟨conveys.named, ?_⟩
    by_cases made : ∀ p, o.page = some p → p.IsPage
    · exact .inl made
    · obtain ⟨p, unmade⟩ := Classical.not_forall.mp made
      obtain ⟨there, raw⟩ := Classical.not_imp.mp unmade
      obtain ⟨rfl, -⟩ := optional_eq_some (shown.symm.trans there)
      exact .inr ⟨status, data, message, p, rfl, there, raw⟩
  · obtain ⟨conveys, ⟨-, bare⟩ | ⟨p, renders, shown⟩⟩ := (read_mapping_iff reports).mp read
    · exact ⟨conveys.named, .inl fun p there => nomatch bare.symm.trans there⟩
    · refine ⟨conveys.named, .inl fun p' there => ?_⟩
      cases shown.symm.trans there
      exact renders.isPage

/-- What an outcome says, read once more, says the same. -/
theorem read_toValue {o : Outcome} (named : Text.isBlankText o.status = false)
    (paged : o.page ≠ some .null) (again : String) : read again o.toValue = .ok o := by
  refine read_record_iff.mpr ⟨⟨rfl, named, ?_, rfl⟩, ?_⟩
  · cases o.data with
    | none => exact .inl ⟨rfl, rfl⟩
    | some fields => exact .inr ⟨fields, rfl, rfl⟩
  · cases shown : o.page with
    | none => rfl
    | some p => exact (optional_of_ne_null fun null => paged (shown.trans (congrArg some null))).symm

theorem page_ne_null {id : String} {v : Value} {o : Outcome} (read : read id v = .ok o) :
    o.page ≠ some .null := by
  intro null
  obtain ⟨status, data, message, page, rfl | reports⟩ := reported_of_read read
  · obtain ⟨-, shown⟩ := read_record_iff.mp read
    obtain ⟨rfl, there⟩ := optional_eq_some (shown.symm.trans null)
    exact there rfl
  · obtain ⟨-, ⟨-, bare⟩ | ⟨p, renders, shown⟩⟩ := (read_mapping_iff reports).mp read
    · cases bare.symm.trans null
    · cases shown.symm.trans null
      cases renders.isPage

/-- The two forms agree on all outcomes but the one whose page still has to be made. -/
theorem forms_agree_iff {id : String} {status data message page v : Value}
    (reports : Value.Reports status data message page v) :
    (read id (.result status data message page)).toOption = (read id v).toOption ↔
      page = .null ∨ page.IsPage ∨ ∀ o : Outcome, ¬ o.Conveys status data message := by
  constructor
  · intro agree
    cases record : read id (.result status data message page) with
    | error cause =>
        refine .inr (.inr fun o conveys => ?_)
        have accepted : read id (.result status data message page) = .ok { o with page := optional page } :=
          read_record_iff.mpr ⟨⟨conveys.status, conveys.named, conveys.data, conveys.message⟩, rfl⟩
        cases record.symm.trans accepted
    | ok o =>
        have mapping : read id v = .ok o := by
          rw [record] at agree
          cases read : read id v with
          | error cause => rw [read] at agree; cases agree
          | ok o' => rw [read] at agree; cases agree; rfl
        obtain ⟨-, taken⟩ := read_record_iff.mp record
        obtain ⟨-, ⟨absent, -⟩ | ⟨p, renders, shown⟩⟩ := (read_mapping_iff reports).mp mapping
        · exact .inl absent
        · obtain ⟨rfl, -⟩ := optional_eq_some (taken.symm.trans shown)
          exact .inr (.inl renders.isPage)
  · intro ready
    have alike : ∀ o, read id (.result status data message page) = .ok o ↔ read id v = .ok o := by
      intro o
      rw [read_record_iff, read_mapping_iff reports]
      refine and_congr_right fun conveys => ?_
      rcases ready with rfl | made | refused
      · constructor
        · exact fun shown => .inl ⟨rfl, shown⟩
        · rintro (⟨-, shown⟩ | ⟨p, renders, -⟩)
          · exact shown
          · exact absurd rfl renders.ne_null
      · have whole : optional page = some page := optional_of_ne_null made.renders.ne_null
        constructor
        · exact fun shown => .inr ⟨page, made.renders, shown.trans whole⟩
        · rintro (⟨rfl, -⟩ | ⟨p, renders, shown⟩)
          · cases made
          · rw [renders.eq_of_isPage made] at shown
            exact shown.trans whole.symm
      · exact absurd conveys (refused o)
    cases record : read id (.result status data message page) with
    | ok o => rw [(alike o).mp record]
    | error cause =>
        cases mapping : read id v with
        | ok o => cases record.symm.trans ((alike o).mpr mapping)
        | error cause' => rfl

end Outcome

/-- A report reads the same as a record and as a mapping with the same entries, unless its page still has
to be made: the page of a mapping is made or the report is refused, the page of a record is taken over as
it came. Whatever was read has a status to route by, and reads back as itself. -/
theorem reports_read_alike (id : String) {status data message page v : Value}
    (reports : Value.Reports status data message page v) :
    ((Outcome.read id (.result status data message page)).toOption = (Outcome.read id v).toOption ↔
      page = .null ∨ page.IsPage ∨ ∀ o : Outcome, ¬ o.Conveys status data message) ∧
    (∀ o, Outcome.read id v = .ok o ↔ o.Conveys status data message ∧ o.Shows page) ∧
    (∀ o, Outcome.read id (.result status data message page) = .ok o ↔
      o.Conveys status data message ∧ o.page = Outcome.optional page) ∧
    (∀ w o, Outcome.read id w = .ok o → (∀ again, Outcome.read again o.toValue = .ok o) ∧
      Text.isBlankText o.status = false ∧ ((∀ p, o.page = some p → p.IsPage) ∨
        ∃ status data message page, w = .result status data message page ∧ o.page = some page ∧
          ¬ page.IsPage)) := by
  refine ⟨Outcome.forms_agree_iff reports, fun o => Outcome.read_mapping_iff reports,
    fun o => Outcome.read_record_iff, ?_⟩
  intro w o read
  obtain ⟨named, paged⟩ := Outcome.named_of_read read
  exact ⟨Outcome.read_toValue named (Outcome.page_ne_null read), named, paged⟩

/-- Of a record that brings a text as its page the text is kept; of the mapping it is made a page. -/
theorem reports_read_alike_rendered :
    Value.Reports (.str "done") .null .null (.str "Hello")
      (.dict [(.text "status", .str "done"), (.text "page", .str "Hello")]) ∧
    (Outcome.read "work" (.result (.str "done") .null .null (.str "Hello"))).toOption ≠
      (Outcome.read "work" (.dict [(.text "status", .str "done"), (.text "page", .str "Hello")])).toOption := by
  have reports : Value.Reports (.str "done") .null .null (.str "Hello")
      (.dict [(.text "status", .str "done"), (.text "page", .str "Hello")]) :=
    .mapping rfl (by decide) (by decide) (by decide) (by decide)
  refine ⟨reports, fun agree => ?_⟩
  rcases (reports_read_alike "work" reports).1.mp agree with absent | made | refused
  · cases absent
  · cases made
  · exact refused ⟨"done", none, none, none⟩ ⟨rfl, by decide, .inl ⟨rfl, rfl⟩, rfl⟩

end Tickwork
