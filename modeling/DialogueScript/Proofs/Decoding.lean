import DialogueScript.Proofs.Json.RoundTrip
import DialogueScript.Proofs.Json.Unambiguous

/-! # Which documents are decoded

Those that hold an object or an array of the fields, and whose fields build a value. The other
members of an object, and the order of all, have no part in it. -/
namespace DialogueScript

namespace Json

variable {type : RecordType} {record : Record} {members others : List (String × List Char)}
  {name : String} {absent : Prop} {isWritten : List Char → Prop}

/-! ### What members give -/

/-- There is no member of the name, which is to say something too, or one with a value as it is to
be written. -/
def Gives (members : List (String × List Char)) (name : String) (absent : Prop)
    (isWritten : List Char → Prop) : Prop :=
  given name members = [] ∧ absent ∨ ∃ written, given name members = [written] ∧ isWritten written

theorem Gives.imp (h : Gives members name absent isWritten) {found : Prop}
    {isFound : List Char → Prop} (habsent : absent → found)
    (hwritten : ∀ written, isWritten written → isFound written) :
    Gives members name found isFound := by
  rcases h with ⟨hnone, h⟩ | ⟨written, hgiven, h⟩
  · exact Or.inl ⟨hnone, habsent h⟩
  · exact Or.inr ⟨written, hgiven, hwritten written h⟩

theorem lookup_gives (hcollects : Collects type [] members record) {field : FieldType}
    (hknown : type.fields.lookup name = some field) :
    Gives members name (record.lookup name = none)
      fun written => ∃ read, IsField field written read ∧ record.lookup name = some read := by
  rcases lookup_of_collects hcollects hknown with ⟨hnone, hlookup⟩ |
    ⟨written, read, hgiven, hfield, -, hlookup⟩
  · exact Or.inl ⟨hnone, hlookup⟩
  · exact Or.inr ⟨written, hgiven, read, hfield, hlookup⟩

theorem text?_of_collects (hcollects : Collects type [] members record)
    (hknown : type.fields.lookup name = some .text) :
    Gives members name (record.text? name = none) (IsText (record.text? name)) := by
  refine (lookup_gives hcollects hknown).imp (fun hlookup => ?_) ?_
  · rw [Record.text?, hlookup]
  · rintro written ⟨_, hfield, hlookup⟩
    cases hfield with
    | text htext =>
    rw [Record.text?, hlookup]
    exact htext

theorem flag_of_collects (hcollects : Collects type [] members record)
    (hknown : type.fields.lookup name = some .flag) :
    Gives members name (record.flag name = false) (IsFlag (record.flag name)) := by
  refine (lookup_gives hcollects hknown).imp (fun hlookup => ?_) ?_
  · rw [Record.flag, hlookup]
  · rintro written ⟨_, hfield, hlookup⟩
    cases hfield with
    | flag hflag =>
    rw [Record.flag, hlookup]
    exact hflag

theorem column_of_collects (hcollects : Collects type [] members record)
    (hcomplete : IsComplete type record) (hknown : type.fields.lookup name = some .column)
    (hmem : (name, .column) ∈ type.fields) :
    Gives members name False (IsColumn ((record.column? name).getD 0)) := by
  refine (lookup_gives hcollects hknown).imp (fun hlookup => ?_) ?_
  · have hread := hcomplete _ hmem rfl
    rw [hlookup] at hread
    cases hread
  · rintro written ⟨_, hfield, hlookup⟩
    cases hfield with
    | column hcolumn =>
    rw [Record.column?, hlookup]
    exact hcolumn

theorem isSome_lookup_of_gives (h : Gives members name False isWritten)
    (hcollects : Collects type [] members record) {field : FieldType}
    (hknown : type.fields.lookup name = some field) : (record.lookup name).isSome = true := by
  rcases h with ⟨-, ⟨⟩⟩ | ⟨written, hgiven, -⟩
  rcases lookup_of_collects hcollects hknown with ⟨hnone, -⟩ | ⟨_, read, -, -, -, hlookup⟩
  · rw [hgiven] at hnone
    cases hnone
  · rw [hlookup, Option.isSome_some]

/-- A field that is given once, and rightly, can be read. -/
theorem Gives.isGiven (h : Gives members name absent isWritten) {field : FieldType}
    (hfield : ∀ written, isWritten written → ∃ read, IsField field written read) :
    given name members = [] ∨ List.lookup name ([] : Record) = none ∧
      ∃ written read, given name members = [written] ∧ IsField field written read := by
  rcases h with ⟨hnone, -⟩ | ⟨written, hgiven, hwritten⟩
  · exact Or.inl hnone
  · obtain ⟨read, hread⟩ := hfield written hwritten
    exact Or.inr ⟨rfl, written, read, hgiven, hread⟩

/-- What is given has one meaning only. -/
theorem Gives.unique {found : Prop} {isFound : List Char → Prop}
    (h : Gives members name absent isWritten) (hother : Gives members name found isFound) :
    absent ∧ found ∨ ∃ written, isWritten written ∧ isFound written := by
  rcases h with ⟨hnone, habsent⟩ | ⟨written, hgiven, hwritten⟩
  · rcases hother with ⟨-, hfound⟩ | ⟨_, hgiven, -⟩
    · exact Or.inl ⟨habsent, hfound⟩
    · rw [hnone] at hgiven
      cases hgiven
  · rcases hother with ⟨hnone, -⟩ | ⟨found, hagain, hfound⟩
    · rw [hgiven] at hnone
      cases hnone
    · rw [hgiven, List.cons.injEq] at hagain
      obtain ⟨rfl, -⟩ := hagain
      exact Or.inr ⟨written, hwritten, hfound⟩

theorem Gives.text_unique {a b : Option String} (ha : Gives members name (a = none) (IsText a))
    (hb : Gives members name (b = none) (IsText b)) : a = b := by
  rcases ha.unique hb with ⟨rfl, rfl⟩ | ⟨written, ha, hb⟩
  · rfl
  · cases (IsField.text ha).unique (.text hb)
    rfl

theorem Gives.flag_unique {a b : Bool} (ha : Gives members name (a = false) (IsFlag a))
    (hb : Gives members name (b = false) (IsFlag b)) : a = b := by
  rcases ha.unique hb with ⟨rfl, rfl⟩ | ⟨written, ha, hb⟩
  · rfl
  · cases (IsField.flag ha).unique (.flag hb)
    rfl

theorem Gives.column_unique {a b : Nat} (ha : Gives members name False (IsColumn a))
    (hb : Gives members name False (IsColumn b)) : a = b := by
  rcases ha.unique hb with ⟨⟨⟩, -⟩ | ⟨written, ha, hb⟩
  cases (IsField.column ha).unique (.column hb)
  rfl

/-! ### Members in another order -/

def known (type : RecordType) (members : List (String × List Char)) : List (String × List Char) :=
  members.filter fun member => (type.fields.lookup member.1).isSome

theorem given_known (hknown : (type.fields.lookup name).isSome = true)
    (members : List (String × List Char)) :
    given name (known type members) = given name members := by
  rw [given, given, known, List.filterMap_filter]
  refine List.filterMap_congr fun member _ => ?_
  by_cases hname : member.1 = name
  · simp [hname, hknown]
  · simp [hname]

theorem Gives.of_perm (h : Gives members name absent isWritten)
    (hperm : (known type members).Perm (known type others))
    (hknown : (type.fields.lookup name).isSome = true) : Gives others name absent isWritten := by
  have hgiven := hperm.filterMap fun member : String × List Char =>
    if member.1 = name then some member.2 else none
  have hsame : (given name members).Perm (given name others) := by
    rw [← given_known hknown members, ← given_known hknown others]
    exact hgiven
  rcases h with ⟨hnone, habsent⟩ | ⟨written, hone, hwritten⟩
  · rw [hnone] at hsame
    exact Or.inl ⟨hsame.nil_eq.symm, habsent⟩
  · rw [hone] at hsame
    exact Or.inr ⟨written, (List.singleton_perm.mp hsame).symm, hwritten⟩

/-! ### Drafts -/

inductive Holds (areMembers : List (String × List Char) → Prop)
    (areValues : List (List Char) → Prop) : List Char → Prop
  | object {members : List (String × List Char)} {text : List Char} (hobject : IsObject members text)
      (hmembers : areMembers members) : Holds areMembers areValues text
  | array {values : List (List Char)} {text : List Char} (harray : IsArray values text)
      (hvalues : areValues values) : Holds areMembers areValues text

structure Describes {δ : Type} (type : RecordType) (draftOf : Record → δ)
    (areMembers : δ → List (String × List Char) → Prop)
    (areValues : δ → List (List Char) → Prop) : Prop where
  fields_ne : type.fields ≠ []
  of_collects : ∀ {members record}, Collects type [] members record → IsComplete type record →
    areMembers (draftOf record) members
  areGiven : ∀ {draft members}, areMembers draft members → AreGiven type [] members
  isComplete : ∀ {draft members record}, areMembers draft members →
    Collects type [] members record → IsComplete type record
  unique : ∀ {draft other members}, areMembers draft members → areMembers other members →
    draft = other
  of_perm : ∀ {draft members others}, areMembers draft members →
    (known type members).Perm (known type others) → areMembers draft others
  values_iff : ∀ {draft values}, areValues draft values ↔
    ∃ record, Fills type.fields values record ∧ draftOf record = draft

namespace Describes

variable {δ α : Type} {draftOf : Record → δ} {areMembers : δ → List (String × List Char) → Prop}
  {areValues : δ → List (List Char) → Prop} {build : δ → Except Rejection α} {value : α}
  {document : String}

theorem holds_iff (h : Describes type draftOf areMembers areValues) {draft : δ} {text : List Char} :
    Holds (areMembers draft) (areValues draft) text ↔
      ∃ record, IsRecord type record text ∧ draftOf record = draft := by
  constructor
  · intro hholds
    cases hholds with
    | object hobject hmembers =>
      obtain ⟨record, hcollects⟩ := exists_collects (h.areGiven hmembers)
      have hcomplete := h.isComplete hmembers hcollects
      exact ⟨record, .object hobject hcollects hcomplete,
        h.unique (h.of_collects hcollects hcomplete) hmembers⟩
    | array harray hvalues =>
      obtain ⟨record, hfills, hdraft⟩ := h.values_iff.mp hvalues
      exact ⟨record, .array harray hfills, hdraft⟩
  · rintro ⟨record, hrecord, rfl⟩
    cases hrecord with
    | object hobject hcollects hcomplete =>
      exact .object hobject (h.of_collects hcollects hcomplete)
    | array harray hfills => exact .array harray (h.values_iff.mpr ⟨record, hfills, rfl⟩)

theorem decode_eq_ok_iff (h : Describes type draftOf areMembers areValues) :
    decode type (fun record => build (draftOf record)) document = .ok value ↔
      ∃ draft, IsDocument (Holds (areMembers draft) (areValues draft)) document ∧
        build draft = .ok value := by
  rw [Json.decode_eq_ok_iff h.fields_ne]
  constructor
  · rintro ⟨record, ⟨before, text, after, hbefore, hrecord, hafter, hdocument⟩, hbuild⟩
    exact ⟨draftOf record, ⟨before, text, after, hbefore, h.holds_iff.mpr ⟨record, hrecord, rfl⟩,
      hafter, hdocument⟩, hbuild⟩
  · rintro ⟨draft, ⟨before, text, after, hbefore, hholds, hafter, hdocument⟩, hbuild⟩
    obtain ⟨record, hrecord, rfl⟩ := h.holds_iff.mp hholds
    exact ⟨record, ⟨before, text, after, hbefore, hrecord, hafter, hdocument⟩, hbuild⟩

/-- Only the fields among the members count, in any order. -/
theorem decode_of_perm (h : Describes type draftOf areMembers areValues) {reordered : String}
    (hdocument : IsDocument (IsObject members) document)
    (hreordered : IsDocument (IsObject others) reordered)
    (hperm : (known type members).Perm (known type others))
    (hdecode : decode type (fun record => build (draftOf record)) document = .ok value) :
    decode type (fun record => build (draftOf record)) reordered = .ok value := by
  rw [h.decode_eq_ok_iff] at hdecode ⊢
  obtain ⟨draft, ⟨before, text, after, hbefore, hholds, hafter, heq⟩, hbuild⟩ := hdecode
  cases hholds with
  | array harray _ =>
    exact absurd ⟨before, text, after, hbefore, harray, hafter, heq⟩ hdocument.not_array
  | @object found _ hobject hfound =>
    have hsame : members = found :=
      hdocument.members_unique ⟨before, text, after, hbefore, hobject, hafter, heq⟩
    subst hsame
    obtain ⟨space, object, gap, hspace, hother, hgap, hshape⟩ := hreordered
    exact ⟨draft, ⟨space, object, gap, hspace, .object hother (h.of_perm hfound hperm), hgap,
      hshape⟩, hbuild⟩

end Describes

end Json

open Json (Gives IsText IsFlag IsColumn)

namespace Identifier

structure Draft.IsGivenBy (draft : Draft) (members : List (String × List Char)) : Prop where
  verbatim : Gives members "verbatim" (draft.verbatim = none) (IsText draft.verbatim)
  fromColumn : Gives members "from_column" False (IsColumn draft.fromColumn)

inductive Draft.IsListedAs (draft : Draft) : List (List Char) → Prop
  | fields {verbatim fromColumn : List Char} (hverbatim : IsText draft.verbatim verbatim)
      (hfromColumn : IsColumn draft.fromColumn fromColumn) :
      IsListedAs draft [verbatim, fromColumn]

theorem describes :
    Json.Describes recordType draftOf Draft.IsGivenBy Draft.IsListedAs where
  fields_ne := by simp [recordType]
  of_collects hcollects hcomplete :=
    ⟨Json.text?_of_collects hcollects rfl,
      Json.column_of_collects hcollects hcomplete rfl (by simp [recordType])⟩
  areGiven h := by
    intro name field hfield
    have hmem := mem_of_lookup_eq_some hfield
    simp only [recordType, List.mem_cons, Prod.mk.injEq, List.not_mem_nil, or_false] at hmem
    rcases hmem with ⟨rfl, rfl⟩ | ⟨rfl, rfl⟩
    · exact h.verbatim.isGiven fun written htext => ⟨_, .text htext⟩
    · exact h.fromColumn.isGiven fun written hcolumn => ⟨_, .column hcolumn⟩
  isComplete h hcollects := Json.isComplete_of_lookup (by simp [recordType])
    (Json.isSome_lookup_of_gives h.fromColumn hcollects rfl)
  unique h hother := by
    have hverbatim := h.verbatim.text_unique hother.verbatim
    have hfromColumn := h.fromColumn.column_unique hother.fromColumn
    rename_i draft other _
    cases draft
    cases other
    simp_all
  of_perm h hperm := ⟨h.verbatim.of_perm hperm rfl, h.fromColumn.of_perm hperm rfl⟩
  values_iff := by
    intro draft values
    constructor
    · rintro ⟨hverbatim, hfromColumn⟩
      exact ⟨_, .cons (.text hverbatim) (.cons (.column hfromColumn) .nil), rfl⟩
    · rintro ⟨record, hfills, rfl⟩
      cases hfills with | cons hverbatim hfills =>
      cases hfills with | cons hfromColumn hfills =>
      cases hfills
      cases hverbatim with | text hverbatim =>
      cases hfromColumn with | column hfromColumn =>
      exact .fields hverbatim hfromColumn

end Identifier

namespace Run

structure Draft.IsGivenBy (draft : Draft) (members : List (String × List Char)) : Prop where
  bold : Gives members "bold" (draft.bold = false) (IsFlag draft.bold)
  italic : Gives members "italic" (draft.italic = false) (IsFlag draft.italic)
  code : Gives members "code" (draft.code = false) (IsFlag draft.code)
  verbatim : Gives members "verbatim" (draft.verbatim = none) (IsText draft.verbatim)
  plainText : Gives members "plain_text" (draft.plainText = none) (IsText draft.plainText)
  fromColumn : Gives members "from_column" False (IsColumn draft.fromColumn)

inductive Draft.IsListedAs (draft : Draft) : List (List Char) → Prop
  | fields {bold italic code verbatim plainText fromColumn : List Char}
      (hbold : IsFlag draft.bold bold) (hitalic : IsFlag draft.italic italic)
      (hcode : IsFlag draft.code code) (hverbatim : IsText draft.verbatim verbatim)
      (hplainText : IsText draft.plainText plainText)
      (hfromColumn : IsColumn draft.fromColumn fromColumn) :
      IsListedAs draft [bold, italic, code, verbatim, plainText, fromColumn]

theorem describes : Json.Describes recordType draftOf Draft.IsGivenBy Draft.IsListedAs where
  fields_ne := by simp [recordType]
  of_collects hcollects hcomplete :=
    ⟨Json.flag_of_collects hcollects rfl, Json.flag_of_collects hcollects rfl,
      Json.flag_of_collects hcollects rfl, Json.text?_of_collects hcollects rfl,
      Json.text?_of_collects hcollects rfl,
      Json.column_of_collects hcollects hcomplete rfl (by simp [recordType])⟩
  areGiven h := by
    intro name field hfield
    have hmem := mem_of_lookup_eq_some hfield
    simp only [recordType, List.mem_cons, Prod.mk.injEq, List.not_mem_nil, or_false] at hmem
    rcases hmem with ⟨rfl, rfl⟩ | ⟨rfl, rfl⟩ | ⟨rfl, rfl⟩ | ⟨rfl, rfl⟩ | ⟨rfl, rfl⟩ | ⟨rfl, rfl⟩
    · exact h.bold.isGiven fun written hflag => ⟨_, .flag hflag⟩
    · exact h.italic.isGiven fun written hflag => ⟨_, .flag hflag⟩
    · exact h.code.isGiven fun written hflag => ⟨_, .flag hflag⟩
    · exact h.verbatim.isGiven fun written htext => ⟨_, .text htext⟩
    · exact h.plainText.isGiven fun written htext => ⟨_, .text htext⟩
    · exact h.fromColumn.isGiven fun written hcolumn => ⟨_, .column hcolumn⟩
  isComplete h hcollects := Json.isComplete_of_lookup (by simp [recordType])
    (Json.isSome_lookup_of_gives h.fromColumn hcollects rfl)
  unique h hother := by
    have hbold := h.bold.flag_unique hother.bold
    have hitalic := h.italic.flag_unique hother.italic
    have hcode := h.code.flag_unique hother.code
    have hverbatim := h.verbatim.text_unique hother.verbatim
    have hplainText := h.plainText.text_unique hother.plainText
    have hfromColumn := h.fromColumn.column_unique hother.fromColumn
    rename_i draft other _
    cases draft
    cases other
    simp_all
  of_perm h hperm :=
    ⟨h.bold.of_perm hperm rfl, h.italic.of_perm hperm rfl, h.code.of_perm hperm rfl,
      h.verbatim.of_perm hperm rfl, h.plainText.of_perm hperm rfl, h.fromColumn.of_perm hperm rfl⟩
  values_iff := by
    intro draft values
    constructor
    · rintro ⟨hbold, hitalic, hcode, hverbatim, hplainText, hfromColumn⟩
      exact ⟨_, .cons (.flag hbold) (.cons (.flag hitalic) (.cons (.flag hcode)
        (.cons (.text hverbatim) (.cons (.text hplainText) (.cons (.column hfromColumn) .nil))))),
        rfl⟩
    · rintro ⟨record, hfills, rfl⟩
      cases hfills with | cons hbold hfills =>
      cases hfills with | cons hitalic hfills =>
      cases hfills with | cons hcode hfills =>
      cases hfills with | cons hverbatim hfills =>
      cases hfills with | cons hplainText hfills =>
      cases hfills with | cons hfromColumn hfills =>
      cases hfills
      cases hbold with | flag hbold =>
      cases hitalic with | flag hitalic =>
      cases hcode with | flag hcode =>
      cases hverbatim with | text hverbatim =>
      cases hplainText with | text hplainText =>
      cases hfromColumn with | column hfromColumn =>
      exact .fields hbold hitalic hcode hverbatim hplainText hfromColumn

end Run

open Json (IsDocument IsObject Holds known)

/-- A document is decoded exactly if it says a draft of which a value is built. Of an object only the
members count that are fields, in any order. -/
theorem decode_iff_isDocument :
    (∀ document identifier, Identifier.decode document = .ok identifier ↔
      ∃ draft : Identifier.Draft, IsDocument (Holds draft.IsGivenBy draft.IsListedAs) document ∧
        Identifier.ofDraft draft = .ok identifier) ∧
    (∀ document run, Run.decode document = .ok run ↔
      ∃ draft : Run.Draft, IsDocument (Holds draft.IsGivenBy draft.IsListedAs) document ∧
        Run.ofDraft draft = .ok run) ∧
    ∀ a b members others, IsDocument (IsObject members) a → IsDocument (IsObject others) b →
      ((known Identifier.recordType members).Perm (known Identifier.recordType others) →
        ∀ identifier, Identifier.decode a = .ok identifier ↔ Identifier.decode b = .ok identifier) ∧
      ((known Run.recordType members).Perm (known Run.recordType others) →
        ∀ run, Run.decode a = .ok run ↔ Run.decode b = .ok run) := by
  refine ⟨?_, ?_, ?_⟩
  · intro document identifier
    exact Identifier.describes.decode_eq_ok_iff
  · intro document run
    exact Run.describes.decode_eq_ok_iff
  · intro a b members others ha hb
    constructor
    · intro hperm identifier
      exact ⟨Identifier.describes.decode_of_perm ha hb hperm,
        Identifier.describes.decode_of_perm hb ha hperm.symm⟩
    · intro hperm run
      exact ⟨Run.describes.decode_of_perm ha hb hperm,
        Run.describes.decode_of_perm hb ha hperm.symm⟩

theorem Json.spells_self {text : List Char}
    (h : ∀ c ∈ text, c ≠ '"' ∧ c ≠ '\\' ∧ 0x20 ≤ c.toNat) : Json.Spells text text := by
  induction text with
  | nil => exact .nil
  | cons c text ih =>
    obtain ⟨hquote, hbackslash, hcontrol⟩ := h c (by simp)
    exact .cons (.itself hquote hbackslash hcontrol) (ih fun d hd => h d (by simp [hd]))

theorem Json.Spells.append {body others spelled text : List Char} (h : Json.Spells body spelled)
    (hothers : Json.Spells others text) : Json.Spells (body ++ others) (spelled ++ text) := by
  induction h with
  | nil => exact hothers
  | cons hfirst _ ih =>
    rw [List.append_assoc]
    exact .cons hfirst ih

/-- An escape in a name, a member that is no field, and the fields in another order. -/
theorem decode_iff_isDocument_escape :
    IsDocument (IsObject [("verbatim", ['"', 'a', '"']), ("from_column", ['1'])])
      "\x7b\"verbatim\":\"a\",\"from_column\":1\x7d" ∧
    Identifier.decode "\x7b\"verbatim\":\"a\",\"from_column\":1\x7d" = .ok ⟨"a", "a", ⟨1, 1⟩⟩ ∧
    IsDocument (IsObject [("from_column", ['1']), ("kind", ['n', 'u', 'l', 'l']),
        ("verbatim", ['"', 'a', '"'])])
      " \x7b\"from\\u005fcolumn\":1,\"kind\":null,\"verbatim\":\"a\"\x7d" ∧
    Identifier.decode " \x7b\"from\\u005fcolumn\":1,\"kind\":null,\"verbatim\":\"a\"\x7d" =
      .ok ⟨"a", "a", ⟨1, 1⟩⟩ := by
  have hgap : Json.IsGap [] := by simp [Json.IsGap]
  have hmember : ∀ name value, Json.IsBody name → Json.IsJson .value value →
      Json.IsJson (.member (name, value))
        ([] ++ '"' :: (name ++ '"' :: ([] ++ ':' :: ([] ++ (value ++ []))))) :=
    fun name value hname hvalue => .member hgap hname hgap (.element hgap hvalue hgap)
  have hverbatim : Json.Spells ['v', 'e', 'r', 'b', 'a', 't', 'i', 'm'] "verbatim".toList :=
    Json.spells_self (by simp)
  have hkind : Json.Spells ['k', 'i', 'n', 'd'] "kind".toList := Json.spells_self (by simp)
  have hfrom : Json.Spells ['f', 'r', 'o', 'm'] ['f', 'r', 'o', 'm'] := Json.spells_self (by simp)
  have hcolumn : Json.Spells ['c', 'o', 'l', 'u', 'm', 'n'] ['c', 'o', 'l', 'u', 'm', 'n'] :=
    Json.spells_self (by simp)
  have hunder : Json.SpellsCharacter ['\\', 'u', '0', '0', '5', 'f'] '_' :=
    @Json.SpellsCharacter.unit _ 0x5f ⟨rfl, rfl⟩ (by decide)
  have hplain := hfrom.append (.cons (.itself (c := '_') (by simp) (by simp) (by simp)) hcolumn)
  have hescaped := hfrom.append (.cons hunder hcolumn)
  have htext : IsText (some "a") ['"', 'a', '"'] := .string (Json.spells_self (by simp))
  have hone : IsColumn 1 ['1'] := ⟨by decide, rfl⟩
  have htextJson := (Json.IsField.text htext).isJson
  have honeJson := (Json.IsField.column hone).isJson
  have ha : IsDocument (IsObject [("verbatim", ['"', 'a', '"']), ("from_column", ['1'])])
      "\x7b\"verbatim\":\"a\",\"from_column\":1\x7d" :=
    ⟨[], _, [], hgap, ⟨_, _, .nextMember (hmember _ _ hverbatim.isBody htextJson)
      (.lastMember (hmember _ _ hplain.isBody honeJson)),
      .cons ⟨hverbatim, rfl⟩ (.cons ⟨hplain, rfl⟩ .nil), rfl⟩, hgap, rfl⟩
  have hb : IsDocument (IsObject [("from_column", ['1']), ("kind", ['n', 'u', 'l', 'l']),
        ("verbatim", ['"', 'a', '"'])])
      " \x7b\"from\\u005fcolumn\":1,\"kind\":null,\"verbatim\":\"a\"\x7d" :=
    ⟨[' '], _, [], by simp [Json.IsGap, Json.isSpacing],
      ⟨_, _, .nextMember (hmember _ _ hescaped.isBody honeJson)
        (.nextMember (hmember _ _ hkind.isBody (.word (by simp)))
          (.lastMember (hmember _ _ hverbatim.isBody htextJson))),
      .cons ⟨hescaped, rfl⟩ (.cons ⟨hkind, rfl⟩ (.cons ⟨hverbatim, rfl⟩ .nil)), rfl⟩, hgap, rfl⟩
  obtain ⟨hidentifiers, -, hordered⟩ := decode_iff_isDocument
  have hdecode : Identifier.decode "\x7b\"verbatim\":\"a\",\"from_column\":1\x7d" =
      .ok ⟨"a", "a", ⟨1, 1⟩⟩ := by
    obtain ⟨before, text, after, hbefore, hobject, hafter, hdocument⟩ := ha
    refine (hidentifiers _ _).mpr ⟨⟨some "a", 1⟩, ⟨before, text, after, hbefore,
      .object hobject ⟨Or.inr ⟨_, rfl, htext⟩, Or.inr ⟨_, rfl, hone⟩⟩, hafter, hdocument⟩, ?_⟩
    decide +kernel
  exact ⟨ha, hdecode, hb, ((hordered _ _ _ _ ha hb).1 (by decide) _).mp hdecode⟩

end DialogueScript
