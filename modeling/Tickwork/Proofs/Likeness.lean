import Tickwork.Engine.Advance
import Tickwork.Proofs.Replies.Key

/-!
# Data that the engine cannot tell apart

Two mappings may differ in a way that the engine does not look at. A `Likeness` is a relation between
mappings that reading an entry, laying changes over them and taking an entry out respect. Main
statements: from answers that are alike the library reads outcomes that are alike, whatever handler or
selector it reads them for.
-/

set_option autoImplicit false

namespace Tickwork

variable {α β ε : Type}

/-! ## Results side by side -/

/-- Two results that go together, or one error. -/
inductive Both (R : α → β → Prop) : Except ε α → Except ε β → Prop
  | ok {a : α} {b : β} (here : R a b) : Both R (.ok a) (.ok b)
  | error (e : ε) : Both R (.error e) (.error e)

namespace Both

variable {γ δ ε' : Type} {R R' : α → β → Prop} {S : γ → δ → Prop} {r : Except ε α} {r' : Except ε β}

theorem imp (both : Both R r r') (weaker : ∀ a b, R a b → R' a b) : Both R' r r' := by
  cases both with
  | ok here => exact .ok (weaker _ _ here)
  | error e => exact .error e

theorem bind {next : α → Except ε γ} {next' : β → Except ε δ} (both : Both R r r')
    (later : ∀ a b, R a b → Both S (next a) (next' b)) : Both S (r.bind next) (r'.bind next') := by
  cases both with
  | ok here => exact later _ _ here
  | error e => exact .error e

theorem map {f : α → γ} {f' : β → δ} (both : Both R r r') (made : ∀ a b, R a b → S (f a) (f' b)) :
    Both S (r.map f) (r'.map f') := by
  cases both with
  | ok here => exact .ok (made _ _ here)
  | error e => exact .error e

theorem mapError (both : Both R r r') (f : ε → ε') : Both R (r.mapError f) (r'.mapError f) := by
  cases both with
  | ok here => exact .ok here
  | error e => exact .error (f e)

end Both

/-! ## Values -/

/-- Two values in mappings that are alike. Lists are not looked into. -/
inductive Kin (fields : Fields → Fields → Prop) : Value → Value → Prop
  | same (v : Value) (plain : v.asMapping? = none) : Kin fields v v
  | list (items items' : List Value) : Kin fields (.list items) (.list items')
  | dict {f f' : Fields} (alike : fields f f') : Kin fields (.dict f) (.dict f')
  | view {f f' : Fields} (alike : fields f f') : Kin fields (.record .view f) (.record .view f')

/-- A relation between mappings that the engine cannot tell apart. -/
structure Likeness where
  fields : Fields → Fields → Prop
  nothing : fields [] []
  used : fields [(replyKey, .null)] [(replyKey, .null)]
  isEmpty : ∀ {f f'}, fields f f' → f.isEmpty = f'.isEmpty
  get? : ∀ {f f'}, fields f f' → ∀ name, Option.Rel (Kin fields) (Fields.get? name f) (Fields.get? name f')
  erase : ∀ {f f'}, fields f f' → ∀ name, fields (Fields.erase name f) (Fields.erase name f')
  overlay : ∀ {f f' c c'}, fields f f' → fields c c' → fields (Fields.overlay f c) (Fields.overlay f' c')

namespace Likeness

variable {like : Likeness} {f f' : Fields} {v v' : Value}

theorem field (alike : like.fields f f') (name : String) :
    Kin like.fields (Tickwork.field name f) (Tickwork.field name f') := by
  unfold Tickwork.field
  have found := like.get? alike name
  generalize Fields.get? name f = entry at found ⊢
  generalize Fields.get? name f' = entry' at found ⊢
  cases found with
  | some kin => exact kin
  | none => exact .same .null rfl

theorem used_reply (alike : like.fields f f') :
    like.fields (Fields.put replyKey .null f) (Fields.put replyKey .null f') :=
  like.overlay alike like.used

/-- A value that is no mapping, and what the library reads from it is like itself. -/
structure Own (like : Likeness) (v : Value) : Prop where
  plain : v.asMapping? = none
  pairs : ∀ f, v.toFields = .ok f → like.fields f f
  reports : ∀ status data message page, v = .result status data message page → Kin like.fields data data
  asks : ∀ message context, v = .again message context → like.fields context context

/-- Two answers of a callable that are alike. -/
inductive Tells (like : Likeness) : Value → Value → Prop
  | same (v : Value) (own : like.Own v) : Tells like v v
  | dict {f f' : Fields} (alike : like.fields f f') : Tells like (.dict f) (.dict f')
  | view {f f' : Fields} (alike : like.fields f f') : Tells like (.record .view f) (.record .view f')
  | result {data data' : Value} (status message page page' : Value) (kin : Kin like.fields data data') :
      Tells like (.result status data message page) (.result status data' message page')
  | again {context context' : Fields} (message : Value) (alike : like.fields context context')
      (spelled : (Value.again message context).isSpellable = (Value.again message context').isSpellable) :
      Tells like (.again message context) (.again message context')

end Likeness

/-- Two values that say the same as words, or are no words at all. -/
inductive Spoken : Value → Value → Prop
  | same (v : Value) : Spoken v v
  | mute {v v' : Value} (quiet : v.asString? = none ∧ v ≠ .null) (quiet' : v'.asString? = none ∧ v' ≠ .null) :
      Spoken v v'

theorem Kin.spoken {fields : Fields → Fields → Prop} {v v' : Value} (kin : Kin fields v v') :
    Spoken v v' := by
  cases kin with
  | same => exact .same _
  | _ => exact .mute ⟨rfl, nofun⟩ ⟨rfl, nofun⟩

theorem Kin.asString? {fields : Fields → Fields → Prop} {v v' : Value} (kin : Kin fields v v') :
    v.asString? = v'.asString? := by
  cases kin <;> rfl

/-! ## Outcomes -/

/-- Two outcomes that are alike; their pages may differ. -/
structure Outcome.Like (like : Likeness) (o o' : Outcome) : Prop where
  status : o.status = o'.status
  message : o.message = o'.message
  data : Option.Rel like.fields o.data o'.data

namespace Outcome

variable {like : Likeness}

theorem Like.laid {o o' : Outcome} (alike : o.Like like o') :
    like.fields (o.data.getD []) (o'.data.getD []) := by
  have data := alike.data
  generalize o.data = d at data ⊢
  generalize o'.data = d' at data ⊢
  cases data with
  | some alike => exact alike
  | none => exact like.nothing

/-- Whether an outcome speaks of the reply is seen in all that are alike. -/
theorem Like.heard {o o' : Outcome} (alike : o.Like like o') :
    (o.data.bind (Fields.get? replyKey)).isSome = (o'.data.bind (Fields.get? replyKey)).isSome := by
  have data := alike.data
  generalize o.data = d at data ⊢
  generalize o'.data = d' at data ⊢
  cases data with
  | none => rfl
  | some alike =>
      have found := like.get? alike replyKey
      simp only [Option.bind_some]
      generalize Fields.get? replyKey _ = entry at found ⊢
      generalize Fields.get? replyKey _ = entry' at found ⊢
      cases found <;> rfl

theorem readData_alike {data data' : Value} (kin : Kin like.fields data data') (id : String) :
    Both (Option.Rel like.fields) (readData id data) (readData id data') := by
  cases kin with
  | dict alike => exact .ok (.some alike)
  | view alike => exact .ok (.some alike)
  | list items items' => exact .error _
  | same _ plain =>
      cases data with
      | null => exact .ok .none
      | dict f => cases plain
      | record kind f =>
          cases kind with
          | view => cases plain
          | _ => exact .error _
      | _ => exact .error _

theorem readMessage_alike {message message' : Value} (spoken : Spoken message message') (id : String) :
    Both (· = ·) (readMessage id message) (readMessage id message') := by
  cases spoken with
  | same =>
      cases readMessage id message with
      | ok words => exact .ok rfl
      | error cause => exact .error cause
  | mute quiet quiet' =>
      have unread : ∀ v : Value, v.asString? = none ∧ v ≠ .null →
          readMessage id v = .error (.messageNotText id) := by
        intro v ⟨silent, there⟩
        cases v with
        | null => exact absurd rfl there
        | str s => cases silent
        | _ => rfl
      rw [unread _ quiet, unread _ quiet']
      exact .error _

/-- The status of a report. -/
def readStatus (id : String) : Value → Except FatalCause String
  | .str s => if Text.isBlankText s then .error (.noStatus id) else .ok s
  | _ => .error (.noStatus id)

theorem ofParts_eq (id : String) (status data message page : Value) :
    ofParts id status data message page =
      (readStatus id status).bind fun s => (readData id data).bind fun d =>
        (readMessage id message).bind fun m => .ok ⟨s, d, m, optional page⟩ := by
  cases status with
  | str s =>
      unfold ofParts readStatus
      simp only
      split <;> rfl
  | _ => rfl

theorem readStatus_alike {status status' : Value} (named : Spoken status status') (id : String) :
    Both (· = ·) (readStatus id status) (readStatus id status') := by
  cases named with
  | same =>
      cases readStatus id status with
      | ok s => exact .ok rfl
      | error cause => exact .error cause
  | mute quiet quiet' =>
      have unread : ∀ v : Value, v.asString? = none → readStatus id v = .error (.noStatus id) := by
        intro v silent
        cases v with
        | str s => cases silent
        | _ => rfl
      rw [unread _ quiet.1, unread _ quiet'.1]
      exact .error _

theorem ofParts_alike {status status' data data' message message' : Value} (named : Spoken status status')
    (kin : Kin like.fields data data') (spoken : Spoken message message') (id : String)
    (page page' : Value) :
    Both (Outcome.Like like) (ofParts id status data message page)
      (ofParts id status' data' message' page') := by
  rw [ofParts_eq, ofParts_eq]
  refine (readStatus_alike named id).bind fun s s' same => (readData_alike kin id).bind fun d d' alike => ?_
  exact (readMessage_alike spoken id).bind fun m m' words => .ok ⟨same, words, alike⟩

/-- A report of the library's own making, of which status and message are read alike. -/
theorem read_result_alike {status status' data data' message message' : Value} (named : Spoken status status')
    (kin : Kin like.fields data data') (spoken : Spoken message message') (id : String) (page page' : Value) :
    Both (Outcome.Like like) (read id (.result status data message page))
      (read id (.result status' data' message' page')) :=
  ofParts_alike named kin spoken id page page'

end Outcome

/-- The page that stands in a mapping. -/
def pageIn (type : String) (fields : Fields) : Except FatalCause Value :=
  match field "markdown" fields, field "title" fields with
  | .str markdown, .str title => .ok (.page (.str markdown) (.str title))
  | .str markdown, _ => .ok (.page (.str markdown) .null)
  | _, _ => .error (.unsupportedPage type)

theorem pageIn_looked_up (type : String) (f : Fields) :
    (match some (field "markdown" f, field "title" f) with
      | some (.str markdown, .str title) => .ok (.page (.str markdown) (.str title))
      | some (.str markdown, _) => .ok (.page (.str markdown) .null)
      | _ => .error (.unsupportedPage type)) = pageIn type f := by
  unfold pageIn
  cases field "markdown" f with
  | str markdown => cases field "title" f <;> rfl
  | _ => rfl

theorem readPage_mapping {v : Value} {f : Fields} (mapping : v.asMapping? = some f) :
    readPage v = pageIn v.typeName f := by
  cases v with
  | dict =>
      cases mapping
      exact pageIn_looked_up _ f
  | record kind =>
      cases kind with
      | view =>
          cases mapping
          exact pageIn_looked_up _ f
      | _ => cases mapping
  | _ => cases mapping

theorem pageIn_alike {like : Likeness} {f f' : Fields} (alike : like.fields f f') (type : String) :
    Both (fun _ _ => True) (pageIn type f) (pageIn type f') := by
  have words := (Likeness.field alike "markdown").asString?
  unfold pageIn
  generalize field "markdown" f = m at words ⊢
  generalize field "markdown" f' = m' at words ⊢
  generalize field "title" f = t
  generalize field "title" f' = t'
  have written : ∀ (s : String) (t : Value), ∃ page, (match Value.str s, t with
      | .str markdown, .str title => .ok (.page (.str markdown) (.str title))
      | .str markdown, _ => .ok (.page (.str markdown) .null)
      | _, _ => .error (.unsupportedPage type) : Except FatalCause Value) = .ok page := by
    intro s t
    cases t <;> exact ⟨_, rfl⟩
  cases m with
  | str s =>
      cases m' with
      | str s' =>
          obtain ⟨page, made⟩ := written s t
          obtain ⟨page', made'⟩ := written s' t'
          rw [made, made']
          exact .ok trivial
      | _ => cases words
  | _ =>
      cases m' with
      | str s' => cases words
      | _ => exact .error _

/-- A value that is kin to a page makes a page, or is refused for its type. -/
theorem readPage_alike {like : Likeness} {v v' : Value} (kin : Kin like.fields v v') :
    Both (fun _ _ => True) (readPage v) (readPage v') := by
  cases kin with
  | dict alike =>
      rw [readPage_mapping rfl, readPage_mapping rfl]
      exact pageIn_alike alike _
  | view alike =>
      rw [readPage_mapping rfl, readPage_mapping rfl]
      exact pageIn_alike alike _
  | list items items' => exact .error _
  | same =>
      cases readPage v with
      | ok page => exact .ok trivial
      | error cause => exact .error cause

namespace Outcome

variable {like : Likeness}

/-- The page of a report that is a mapping. -/
def pagePart : Value → Except FatalCause Value
  | .null => .ok .null
  | page => readPage page

theorem pagePart_alike {v v' : Value} (kin : Kin like.fields v v') :
    Both (fun _ _ => True) (pagePart v) (pagePart v') := by
  cases kin with
  | same _ plain =>
      have read := readPage_alike (.same v plain : Kin like.fields v v)
      cases v with
      | null => exact .ok trivial
      | _ => exact read
  | list items items' => exact readPage_alike (.list items items' : Kin like.fields _ _)
  | dict inner => exact readPage_alike (.dict inner)
  | view inner => exact readPage_alike (.view inner)

theorem read_dict (id : String) (f : Fields) :
    read id (.dict f) = (pagePart (field "page" f)).bind
      (ofParts id (field "status" f) (field "data" f) (field "message" f)) := by
  unfold read
  simp only [Value.asMapping?]
  cases field "page" f <;> rfl

theorem read_view (id : String) (f : Fields) : read id (.record .view f) = read id (.dict f) := rfl

theorem read_dict_alike {f f' : Fields} (alike : like.fields f f') (id : String) :
    Both (Outcome.Like like) (read id (.dict f)) (read id (.dict f')) := by
  rw [read_dict, read_dict]
  exact (pagePart_alike (Likeness.field alike "page")).bind fun page page' _ =>
    ofParts_alike (Likeness.field alike "status").spoken (Likeness.field alike "data")
      (Likeness.field alike "message").spoken id page page'

/-- From answers that are alike, outcomes are read that are alike. -/
theorem read_alike {v v' : Value} (tells : like.Tells v v') (id : String) :
    Both (Outcome.Like like) (read id v) (read id v') := by
  cases tells with
  | dict alike => exact read_dict_alike alike id
  | view alike => exact read_dict_alike alike id
  | result status message page page' kin => exact read_result_alike (.same _) kin (.same _) id page page'
  | again => exact .error _
  | same _ own =>
      by_cases reports : ∃ status data message page, v = .result status data message page
      · obtain ⟨status, data, message, page, rfl⟩ := reports
        exact read_result_alike (.same _) (own.reports _ _ _ _ rfl) (.same _) id page page
      · have refused : read id v = .error (.notAnObject id v.typeName) := by
          unfold read
          split
          · exact absurd ⟨_, _, _, _, rfl⟩ reports
          · simp only [own.plain]
        rw [refused]
        exact .error _

end Outcome

end Tickwork
