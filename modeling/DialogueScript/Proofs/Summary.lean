import DialogueScript.Proofs.Name.Key
import DialogueScript.Proofs.Representation
import DialogueScript.Proofs.Text.Quoted
import DialogueScript.Render

/-! # What a summary keeps

A summary is one line, whatever the texts of the lexeme hold, and no two lexemes have the same. -/
namespace DialogueScript
open Text (isBlank IsOneLine)

/-! ### Columns and styles -/

namespace Columns

theorem toList_text (columns : Columns) : columns.text.toList =
    Nat.toDigits 10 columns.first ++ '.' :: '.' :: Nat.toDigits 10 columns.last := by
  simp [text, Nat.repr]

theorem text_append_inj {a b : Columns} {rest rest' : List Char}
    (h : a.text.toList ++ ' ' :: rest = b.text.toList ++ ' ' :: rest') : a = b ∧ rest = rest' := by
  rw [toList_text, toList_text, List.append_assoc, List.append_assoc] at h
  obtain ⟨hfirst, hlast⟩ := Text.toDigits_append_inj rfl rfl h
  simp only [List.cons_append, List.cons.injEq, true_and] at hlast
  obtain ⟨hlast, hrest⟩ := Text.toDigits_append_inj rfl rfl hlast
  cases a
  cases b
  simp_all

theorem isOneLine_text (columns : Columns) : IsOneLine columns.text.toList := by
  have hdigits : ∀ n, IsOneLine (Nat.toDigits 10 n) := fun n =>
    Text.isOneLine_of_isBlank_eq_false fun _ hc =>
      Text.isBlank_of_mem_toDigits (by decide) (by decide) hc
  rw [toList_text, Text.isOneLine_append, Text.isOneLine_cons, Text.isOneLine_cons]
  exact ⟨hdigits _, by decide, by decide, hdigits _⟩

end Columns

namespace Run

def styleOf (bold italic code : Bool) : String := style ⟨bold, italic, code, "", "", ⟨0, 0⟩⟩

theorem styleOf_inj : ∀ bold italic code bold' italic' code',
    styleOf bold italic code = styleOf bold' italic' code' →
      bold = bold' ∧ italic = italic' ∧ code = code' := by
  decide +kernel

theorem styleOf_plain : ∀ bold italic code,
    (styleOf bold italic code).toList.all (fun c => c != ']' && !isBlank c) = true := by
  decide +kernel

theorem plain_of_mem_style {run : Run} {c : Char} (h : c ∈ run.style.toList) :
    (c != ']') = true ∧ isBlank c = false := by
  have hc := List.all_eq_true.mp (styleOf_plain run.bold run.italic run.code) c h
  simpa only [Bool.and_eq_true, Bool.not_eq_true'] using hc

theorem isOneLine_style (run : Run) : IsOneLine run.style.toList :=
  Text.isOneLine_of_isBlank_eq_false fun _ hc => (plain_of_mem_style hc).2

theorem style_append_inj {a b : Run} {rest rest' : List Char}
    (h : a.style.toList ++ ']' :: rest = b.style.toList ++ ']' :: rest') :
    (a.bold = b.bold ∧ a.italic = b.italic ∧ a.code = b.code) ∧ rest = rest' := by
  obtain ⟨hstyle, hrest⟩ := Text.append_inj_of_run (fun _ hc => (plain_of_mem_style hc).1)
    (fun _ hc => (plain_of_mem_style hc).1) rfl rfl h
  exact ⟨styleOf_inj _ _ _ _ _ _ (String.toList_inj.mp hstyle), List.tail_eq_of_cons_eq hrest⟩

end Run

/-! ### Texts and keys -/

theorem quoted_append_inj {a b : String} {rest rest' : List Char}
    (h : (Text.quoted a).toList ++ rest = (Text.quoted b).toList ++ rest') :
    a = b ∧ rest = rest' := by
  rw [Text.toList_quoted, Text.toList_quoted] at h
  obtain ⟨htext, hrest⟩ := Text.isPrefixFree_quotedIn (by decide) h
  exact ⟨String.toList_inj.mp htext, hrest⟩

theorem isOneLine_quoted (text : String) : IsOneLine (Text.quoted text).toList := by
  rw [Text.toList_quoted]
  exact Text.isOneLine_quotedIn (by decide) text.toList

/-- A key needs no quotes: all blank characters are excluded from it. -/
theorem Identifier.isOneLine_key {verbatim : String} {column : Nat} {identifier : Identifier}
    (h : ofText verbatim column = .ok identifier) : IsOneLine identifier.key.toList := by
  obtain ⟨-, rfl⟩ := ofText_eq_ok_iff.mp h
  rw [written, String.toList_ofList]
  exact Text.isOneLine_of_isBlank_eq_false fun _ hc => Name.isBlank_of_mem_key hc

/-! ### Summaries -/

namespace Lexeme

theorem exists_ofText_of_ofDraft {draft : Draft} {value : Identifier}
    (h : ofDraft draft = .ok (identifier value)) :
    ∃ verbatim column, Identifier.ofText verbatim column = .ok value := by
  cases draft with
  | run draft =>
    rw [ofDraft] at h
    cases hrun : Run.ofDraft draft <;> simp [hrun, Except.map] at h
  | identifier draft =>
    rw [ofDraft] at h
    cases hidentifier : Identifier.ofDraft draft with
    | error rejection => simp [hidentifier, Except.map] at h
    | ok built =>
      simp only [hidentifier, Except.map, Except.ok.injEq, identifier.injEq] at h
      subst h
      obtain ⟨verbatim, -, htext⟩ := Identifier.exists_ofText_of_ofDraft hidentifier
      exact ⟨verbatim, _, htext⟩

theorem toList_summary_identifier (value : Identifier) : (identifier value).summary.toList =
    "identifier ".toList ++ (value.columns.text.toList ++ ' ' ::
      ((Text.quoted value.verbatim).toList ++ (" -> ".toList ++ value.key.toList))) := by
  simp [summary]

theorem toList_summary_run (value : Run) : (run value).summary.toList =
    "run ".toList ++ (value.columns.text.toList ++ ' ' :: '[' :: (value.style.toList ++
      ']' :: ' ' :: ((Text.quoted value.verbatim).toList ++ (" -> ".toList ++
        (Text.quoted value.plainText).toList)))) := by
  simp [summary]

theorem summary_identifier_inj {a b : Identifier}
    (h : (identifier a).summary = (identifier b).summary) : a = b := by
  rw [← String.toList_inj, toList_summary_identifier, toList_summary_identifier] at h
  obtain ⟨hcolumns, h⟩ := Columns.text_append_inj (List.append_cancel_left h)
  obtain ⟨hverbatim, h⟩ := quoted_append_inj h
  have hkey := String.toList_inj.mp (List.append_cancel_left h)
  cases a
  cases b
  simp_all

theorem summary_run_inj {a b : Run} (h : (run a).summary = (run b).summary) : a = b := by
  rw [← String.toList_inj, toList_summary_run, toList_summary_run] at h
  obtain ⟨hcolumns, h⟩ := Columns.text_append_inj (List.append_cancel_left h)
  obtain ⟨hflags, h⟩ := Run.style_append_inj (List.tail_eq_of_cons_eq h)
  obtain ⟨hverbatim, h⟩ := quoted_append_inj (List.tail_eq_of_cons_eq h)
  have hplain := List.append_cancel_left h
  rw [← List.append_nil (Text.quoted a.plainText).toList,
    ← List.append_nil (Text.quoted b.plainText).toList] at hplain
  obtain ⟨hplain, -⟩ := quoted_append_inj hplain
  cases a
  cases b
  simp_all

theorem summary_ne {a : Identifier} {b : Run} : (identifier a).summary ≠ (run b).summary := by
  intro h
  rw [← String.toList_inj, toList_summary_identifier, toList_summary_run] at h
  simp at h

/-- Lexemes of one summary are one lexeme: the kind, the columns, the flags, the texts and the key
can all be told from it. -/
theorem render_text_inj (x y : Lexeme) (pretty pretty' : Bool) :
    x.render pretty .text = y.render pretty' .text ↔ x = y := by
  constructor
  · intro h
    cases x with
    | identifier a =>
      cases y with
      | identifier b => rw [summary_identifier_inj h]
      | run b => exact absurd h summary_ne
    | run a =>
      cases y with
      | identifier b => exact absurd h.symm summary_ne
      | run b => rw [summary_run_inj h]
  · rintro rfl
    rfl

theorem isOneLine_summary_identifier {value : Identifier} (h : IsOneLine value.key.toList) :
    IsOneLine (identifier value).summary.toList := by
  rw [toList_summary_identifier]
  simp only [Text.isOneLine_append, Text.isOneLine_cons]
  exact ⟨Text.isOneLine_of_all rfl, value.columns.isOneLine_text, fun _ => trivial,
    isOneLine_quoted _, Text.isOneLine_of_all rfl, h⟩

theorem isOneLine_summary_run (value : Run) : IsOneLine (run value).summary.toList := by
  rw [toList_summary_run]
  simp only [Text.isOneLine_append, Text.isOneLine_cons]
  exact ⟨Text.isOneLine_of_all rfl, value.columns.isOneLine_text, fun _ => trivial, by decide,
    value.isOneLine_style, by decide, fun _ => trivial, isOneLine_quoted _,
    Text.isOneLine_of_all rfl, isOneLine_quoted _⟩

theorem isOneLine_summary {draft : Draft} {lexeme : Lexeme} (h : ofDraft draft = .ok lexeme) :
    IsOneLine lexeme.summary.toList := by
  cases lexeme with
  | run value => exact isOneLine_summary_run value
  | identifier value =>
    obtain ⟨verbatim, column, hbuilt⟩ := exists_ofText_of_ofDraft h
    exact isOneLine_summary_identifier (Identifier.isOneLine_key hbuilt)

theorem space_mem_summary (lexeme : Lexeme) : ' ' ∈ lexeme.summary.toList := by
  cases lexeme with
  | identifier value =>
    rw [toList_summary_identifier]
    exact List.mem_append_left _ (by decide)
  | run value =>
    rw [toList_summary_run]
    exact List.mem_append_left _ (by decide)

/-- The space is the only blank character of a summary, whatever the texts hold. -/
theorem render_text_oneLine {draft : Draft} {lexeme : Lexeme} (h : ofDraft draft = .ok lexeme)
    (pretty : Bool) :
    (∀ c, c ∈ (lexeme.render pretty .text).toList ∧ isBlank c = true ↔ c = ' ') ∧
      ∀ c ∈ ['\n', '\r', '\x0b', '\x0c', '\u0085', '\u2028', '\u2029'],
        c ∉ (lexeme.render pretty .text).toList := by
  have hline : IsOneLine (lexeme.render pretty .text).toList := isOneLine_summary h
  refine ⟨fun c => ⟨fun hc => hline c hc.1 hc.2, ?_⟩, fun c hbreak hc => ?_⟩
  · rintro rfl
    exact ⟨space_mem_summary lexeme, rfl⟩
  · have hbreaks : ['\n', '\r', '\x0b', '\x0c', '\u0085', '\u2028', '\u2029'].all
        (fun c => isBlank c && c != ' ') = true := by decide
    have := List.all_eq_true.mp hbreaks c hbreak
    simp only [Bool.and_eq_true, bne_iff_ne] at this
    exact this.2 (hline c hc this.1)

theorem render_text_oneLine_breaks :
    ofDraft (.identifier ⟨some "A\n\u2028b", 3⟩) =
        .ok (identifier ⟨"A\n\u2028b", "a-b", ⟨3, 6⟩⟩) ∧
      ((∀ c, c ∈ ((identifier ⟨"A\n\u2028b", "a-b", ⟨3, 6⟩⟩).render true .text).toList ∧
          isBlank c = true ↔ c = ' ') ∧
        ∀ c ∈ ['\n', '\r', '\x0b', '\x0c', '\u0085', '\u2028', '\u2029'],
          c ∉ ((identifier ⟨"A\n\u2028b", "a-b", ⟨3, 6⟩⟩).render true .text).toList) ∧
      (identifier ⟨"A\n\u2028b", "a-b", ⟨3, 6⟩⟩).render true .text =
        "identifier 3..6 \"A\\n\\u\x7b2028\x7db\" -> a-b" := by
  have hbuilt : ofDraft (.identifier ⟨some "A\n\u2028b", 3⟩) =
      .ok (identifier ⟨"A\n\u2028b", "a-b", ⟨3, 6⟩⟩) := by decide +kernel
  exact ⟨hbuilt, render_text_oneLine hbuilt true, by decide +kernel⟩

end Lexeme

end DialogueScript
