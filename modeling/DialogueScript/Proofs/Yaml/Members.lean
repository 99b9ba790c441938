import DialogueScript.Proofs.Yaml.Escapes
import DialogueScript.Proofs.Yaml.Lines
import DialogueScript.Render

/-! # What a mapping keeps

The first character of a value shows its style, and every style shows where its text ends and which
text it is. So a mapping determines its values, and no two lexemes have the same document. -/
namespace DialogueScript.Yaml

/-! ### Styles -/

def shownStyle (written : List Char) : Style :=
  if written.head? = some '\x27' then .singleQuoted
  else if written.head? = some '"' then .doubleQuoted
  else if written.head? = some '|' then .literal
  else .plain

theorem quotedStyle_ne_plain (text : List Char) : quotedStyle text ≠ .plain := by
  unfold quotedStyle
  split_ifs <;> decide

theorem plain_conditions {text : List Char} (h : style text = .plain) :
    isAmbiguous text = false ∧ allowsPlain text = true := by
  cases hasked : askedStyle text with
  | plain =>
    constructor
    · unfold askedStyle at hasked
      split_ifs at hasked with hnewline hambiguous
      exact Bool.eq_false_iff.mpr hambiguous
    · simp only [style, hasked] at h
      split_ifs at h with hallows
      · exact hallows
      · exact absurd h (quotedStyle_ne_plain text)
  | literal =>
    simp only [style, hasked] at h
    split_ifs at h
  | singleQuoted =>
    simp only [style, hasked] at h
    exact absurd h (quotedStyle_ne_plain text)
  | doubleQuoted =>
    simp only [style, hasked] at h
    exact absurd h (quotedStyle_ne_plain text)

/-- A plain text is one line and starts with no mark of another style. -/
theorem plain_of_style {text : List Char} (h : style text = .plain) :
    (∃ c rest, text = c :: rest ∧ c ∉ leadingIndicators) ∧ ∀ c ∈ text, isBreak c = false := by
  obtain ⟨hambiguous, hplain⟩ := plain_conditions h
  simp only [allowsPlain, hasIndicator, Bool.not_eq_true', Bool.or_eq_false_iff] at hplain
  obtain ⟨⟨⟨⟨hleading, -⟩, hbreaks⟩, -⟩, -⟩ := hplain
  refine ⟨?_, by simpa using hbreaks⟩
  cases text with
  | nil => exact absurd hambiguous (by decide)
  | cons c rest =>
    simp only [hasLeadingIndicator, Bool.or_eq_false_iff] at hleading
    exact ⟨c, rest, rfl, by simpa using hleading.1.1.1⟩

theorem ne_nil_of_style {text : List Char} (h : style text = .literal) : text ≠ [] := by
  rintro rfl
  exact absurd h (by decide)

theorem shownStyle_writtenText (text rest : List Char) :
    shownStyle (writtenText text ++ rest) = style text := by
  unfold writtenText
  cases hstyle : style text with
  | plain =>
    obtain ⟨⟨c, tail, rfl, hc⟩, -⟩ := plain_of_style hstyle
    have hmarks : c ≠ '\x27' ∧ c ≠ '"' ∧ c ≠ '|' := by
      refine ⟨?_, ?_, ?_⟩ <;> rintro rfl <;> exact hc (by decide)
    simp [shownStyle, hmarks]
  | singleQuoted => rfl
  | doubleQuoted => rfl
  | literal => rfl

/-! ### Lines -/

def line (value : List Char) : List Char := value ++ lineEnd value

theorem lineEnd_eq_newline {text : List Char} (h : ∀ c ∈ text, isBreak c = false) :
    lineEnd text = ['\n'] := by
  have hends : endsWithBreak text = false := by
    unfold endsWithBreak
    cases hlast : text.getLast? with
    | none => rfl
    | some c => exact h c (List.mem_of_getLast? hlast)
  rw [lineEnd, hends]
  rfl

theorem line_append_singleton (text : List Char) {c : Char} (h : isBreak c = false) :
    line (text ++ [c]) = text ++ [c, '\n'] := by
  simp [line, lineEnd, endsWithBreak, h]

theorem getLast?_literalBody (text : List Char) :
    (literalBody true text).getLast? = text.getLast? := by
  rcases List.eq_nil_or_concat' text with rfl | ⟨before, c, rfl⟩
  · rfl
  · rw [literalBody_eq, Text.codedFrom_append_singleton]
    unfold linePiece
    split_ifs <;> simp [List.getLast?_append]

theorem line_of_plain {text : List Char} (h : style text = .plain) :
    line (writtenText text) = text ++ ['\n'] := by
  obtain ⟨-, hbreaks⟩ := plain_of_style h
  rw [writtenText, h, line, lineEnd_eq_newline hbreaks]

theorem line_of_singleQuoted {text : List Char} (h : style text = .singleQuoted) :
    line (writtenText text) = '\x27' :: (singleBody false text ++ ['\x27', '\n']) := by
  rw [writtenText, h]
  exact line_append_singleton _ (by decide)

theorem line_of_doubleQuoted {text : List Char} (h : style text = .doubleQuoted) :
    line (writtenText text) = '"' :: (text.flatMap doubleCharacter ++ ['"', '\n']) := by
  rw [writtenText, h]
  exact line_append_singleton _ (by decide)

theorem line_of_literal {text : List Char} (h : style text = .literal) :
    line (writtenText text) = '|' :: (indentHint text ++ breakHint text ++
      '\n' :: (literalBody true text ++ lineEnd text)) := by
  have hlast : lineEnd (writtenText text) = lineEnd text := by
    have hc := List.getLast?_eq_some_getLast (ne_nil_of_style h)
    have hbody := (getLast?_literalBody text).trans hc
    rw [writtenText, h]
    simp [lineEnd, endsWithBreak, hbody, hc, List.getLast?_append, List.getLast?_cons]
  rw [line, hlast, writtenText, h]
  simp

/-- A text is told from what follows its last line, whichever style it has. -/
theorem textLine_append_inj {text other rest rest' : List Char} (hrest : startsMember rest = true)
    (hrest' : startsMember rest' = true)
    (h : line (writtenText text) ++ rest = line (writtenText other) ++ rest') :
    text = other ∧ rest = rest' := by
  have hsame : style text = style other := by
    have hshown := congrArg shownStyle h
    rwa [line, line, List.append_assoc, List.append_assoc, shownStyle_writtenText,
      shownStyle_writtenText] at hshown
  cases htext : style text with
  | plain =>
    have hother := hsame.symm.trans htext
    rw [line_of_plain htext, line_of_plain hother, List.append_assoc, List.append_assoc] at h
    obtain ⟨rfl, hrest⟩ := @Text.append_inj_of_run (fun c => !isBreak c) _ _ _ _
      (by simpa using (plain_of_style htext).2) (by simpa using (plain_of_style hother).2) rfl rfl h
    exact ⟨rfl, List.tail_eq_of_cons_eq hrest⟩
  | singleQuoted =>
    have hother := hsame.symm.trans htext
    rw [line_of_singleQuoted htext, line_of_singleQuoted hother] at h
    simp only [List.cons_append, List.append_assoc, List.cons.injEq, true_and] at h
    obtain ⟨rfl, hrest⟩ := singleQuoted_append_inj (by simp) (by simp) h
    exact ⟨rfl, List.tail_eq_of_cons_eq hrest⟩
  | doubleQuoted =>
    have hother := hsame.symm.trans htext
    rw [line_of_doubleQuoted htext, line_of_doubleQuoted hother] at h
    simp only [List.cons_append, List.append_assoc, List.cons.injEq, true_and] at h
    obtain ⟨rfl, hrest⟩ := doubleQuoted_append_inj h
    exact ⟨rfl, List.tail_eq_of_cons_eq hrest⟩
  | literal =>
    have hother := hsame.symm.trans htext
    rw [line_of_literal htext, line_of_literal hother] at h
    refine literal_append_inj hrest hrest' ?_
    simpa using h

/-! ### Members -/

/-- Values that a document need not tell apart: their member says of which kind they are. -/
inductive SameKind : Scalar → Scalar → Prop
  | text (value other : String) : SameKind (.text value) (.text other)
  | flag (value other : Bool) : SameKind (.flag value) (.flag other)
  | number (value other : Nat) : SameKind (.number value) (.number other)

theorem isBreak_of_mem_toDigits {n : Nat} {c : Char} (h : c ∈ Nat.toDigits 10 n) :
    isBreak c = false := by
  obtain ⟨digit, hdigit, rfl⟩ := Text.exists_digitChar_of_mem_toDigits (by decide) h
  interval_cases digit <;> rfl

theorem line_number (n : Nat) :
    line (writtenScalar (.number n)) = Nat.toDigits 10 n ++ ['\n'] := by
  rw [writtenScalar, line, lineEnd_eq_newline fun _ hc => isBreak_of_mem_toDigits hc]

theorem line_append_inj {value other : Scalar} (hkind : SameKind value other)
    {rest rest' : List Char} (hrest : startsMember rest = true) (hrest' : startsMember rest' = true)
    (h : line (writtenScalar value) ++ rest = line (writtenScalar other) ++ rest') :
    value = other ∧ rest = rest' := by
  cases hkind with
  | text value other =>
    obtain ⟨hsame, hrest⟩ := textLine_append_inj hrest hrest' h
    exact ⟨congrArg Scalar.text (String.toList_inj.mp hsame), hrest⟩
  | flag value other =>
    have hline : ∀ value,
        line (writtenScalar (.flag value)) = (flagText value).toList ++ ['\n'] := by decide
    rw [hline, hline] at h
    cases value <;> cases other <;> simp_all [flagText]
  | number value other =>
    rw [line_number, line_number, List.append_assoc, List.append_assoc] at h
    obtain ⟨rfl, hrest⟩ := Text.toDigits_append_inj rfl rfl h
    exact ⟨rfl, List.tail_eq_of_cons_eq hrest⟩

theorem member_eq (name : String) (value : Scalar) :
    member (name, value) = name.toList ++ ':' :: ' ' :: line (writtenScalar value) := by
  rw [member, List.append_assoc, List.append_assoc]
  rfl

def SameShape (field other : Field) : Prop := field.1 = other.1 ∧ SameKind field.2 other.2

theorem member_append_inj {field other : Field} (hshape : SameShape field other)
    {rest rest' : List Char} (hrest : startsMember rest = true) (hrest' : startsMember rest' = true)
    (h : member field ++ rest = member other ++ rest') : field = other ∧ rest = rest' := by
  obtain ⟨name, value⟩ := field
  obtain ⟨name', value'⟩ := other
  obtain ⟨rfl, hkind⟩ : name = name' ∧ SameKind value value' := hshape
  rw [member_eq, member_eq, List.append_assoc, List.append_assoc] at h
  have hvalues := List.append_cancel_left h
  simp only [List.cons_append, List.cons.injEq, true_and] at hvalues
  obtain ⟨rfl, hrest⟩ := line_append_inj hkind hrest hrest' hvalues
  exact ⟨rfl, hrest⟩

def NamesStart (fields : List Field) : Prop := ∀ field ∈ fields, startsMember field.1.toList = true

theorem startsMember_members {fields : List Field} (hnames : NamesStart fields) :
    startsMember (fields.flatMap member) = true := by
  cases fields with
  | nil => rfl
  | cons field fields =>
    obtain ⟨name, value⟩ := field
    have hname : startsMember name.toList = true := hnames _ List.mem_cons_self
    rw [List.flatMap_cons, member_eq]
    cases hlist : name.toList with
    | nil => rfl
    | cons c more => rwa [hlist] at hname

/-- A mapping determines the values of its members. -/
theorem members_inj {fields others : List Field} (hshape : List.Forall₂ SameShape fields others)
    (hnames : NamesStart fields) (hothers : NamesStart others)
    (h : fields.flatMap member = others.flatMap member) : fields = others := by
  induction hshape with
  | nil => rfl
  | cons hfield _ ih =>
    have hrest : NamesStart _ := fun field hmem => hnames field (List.mem_cons_of_mem _ hmem)
    have hrest' : NamesStart _ := fun field hmem => hothers field (List.mem_cons_of_mem _ hmem)
    obtain ⟨rfl, htail⟩ := member_append_inj hfield (startsMember_members hrest)
      (startsMember_members hrest') h
    rw [ih hrest hrest' htail]

end DialogueScript.Yaml

/-! ### Lexemes -/

namespace DialogueScript.Lexeme
open Yaml (SameKind SameShape NamesStart)

theorem namesStart_fields (lexeme : Lexeme) : NamesStart lexeme.fields := by
  cases lexeme <;> simp [NamesStart, fields] <;> decide

theorem sameShape_identifier (a b : Identifier) :
    List.Forall₂ SameShape (identifier a).fields (identifier b).fields := by
  repeat' constructor

theorem sameShape_run (a b : Run) : List.Forall₂ SameShape (run a).fields (run b).fields := by
  repeat' constructor

theorem fields_identifier_inj {a b : Identifier}
    (h : (identifier a).fields = (identifier b).fields) : a = b := by
  obtain ⟨verbatim, key, first, last⟩ := a
  obtain ⟨verbatim', key', first', last'⟩ := b
  simpa [fields] using h

theorem fields_run_inj {a b : Run} (h : (run a).fields = (run b).fields) : a = b := by
  obtain ⟨bold, italic, code, verbatim, plainText, first, last⟩ := a
  obtain ⟨bold', italic', code', verbatim', plainText', first', last'⟩ := b
  simpa [fields] using h

/-- The first member of a document is its kind. -/
theorem members_identifier_ne_run (a : Identifier) (b : Run) :
    (identifier a).fields.flatMap Yaml.member ≠ (run b).fields.flatMap Yaml.member := by
  intro h
  have hnames : NamesStart (identifier a).fields.tail := fun field hmem =>
    namesStart_fields _ field (List.mem_of_mem_tail hmem)
  have hnames' : NamesStart (run b).fields.tail := fun field hmem =>
    namesStart_fields _ field (List.mem_of_mem_tail hmem)
  have hshape : SameShape ("kind", .text "identifier") ("kind", .text "run") := ⟨rfl, .text _ _⟩
  obtain ⟨hkind, -⟩ := Yaml.member_append_inj hshape
    (Yaml.startsMember_members hnames) (Yaml.startsMember_members hnames') h
  exact absurd hkind (by decide)

/-- Lexemes of one YAML document are one lexeme: whatever its texts hold, none of them can be taken
for another text or for the members that follow. -/
theorem render_yaml_inj (x y : Lexeme) (pretty pretty' : Bool) :
    x.render pretty .yaml = y.render pretty' .yaml ↔ x = y := by
  constructor
  · intro h
    have hmembers : x.fields.flatMap Yaml.member = y.fields.flatMap Yaml.member :=
      String.ofList_injective h
    have hfields := fun hshape =>
      Yaml.members_inj hshape (namesStart_fields x) (namesStart_fields y) hmembers
    cases x with
    | identifier a =>
      cases y with
      | identifier b => rw [fields_identifier_inj (hfields (sameShape_identifier a b))]
      | run b => exact absurd hmembers (members_identifier_ne_run a b)
    | run a =>
      cases y with
      | identifier b => exact absurd hmembers.symm (members_identifier_ne_run b a)
      | run b => rw [fields_run_inj (hfields (sameShape_run a b))]
  · rintro rfl
    rfl

end DialogueScript.Lexeme
