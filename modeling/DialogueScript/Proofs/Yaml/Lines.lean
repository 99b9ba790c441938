import DialogueScript.Proofs.Text.Coding
import DialogueScript.Yaml.Printer

/-! # Texts of several lines

Single quotes and the literal style write a text line by line and indent what follows a break.
Whether a character is indented is thus a state, left by the character before it. -/
namespace DialogueScript.Yaml
open Text (IsPrefixFree codedFrom stateAfter)

def margin (atStart : Bool) : List Char := if atStart then indent else []

/-- A character in its line. Breaks are never indented. -/
def linePiece (write : Char → List Char) (atStart : Bool) (c : Char) : List Char :=
  if isBreak c then [c] else margin atStart ++ write c

theorem linePiece_break {write : Char → List Char} {c : Char} (h : isBreak c = true)
    (atStart : Bool) : linePiece write atStart c = [c] := if_pos h

theorem linePiece_other {write : Char → List Char} {c : Char} (h : isBreak c = false)
    (atStart : Bool) : linePiece write atStart c = margin atStart ++ write c :=
  if_neg (Bool.eq_false_iff.mp h)

theorem cons_ne_margin {c d : Char} (hc : isBreak c = true) (hd : isBreak d = false)
    (atStart : Bool) (rest tail : List Char) : c :: rest ≠ margin atStart ++ d :: tail := by
  cases atStart with
  | false =>
    intro h
    obtain ⟨rfl, -⟩ := List.cons.inj h
    rw [hc] at hd
    cases hd
  | true =>
    intro h
    obtain ⟨rfl, -⟩ := List.cons.inj h
    exact absurd hc (by decide)

/-- The first character that is written for a character tells which it is. -/
theorem isPrefixFree_linePiece {write : Char → List Char}
    (hwrite : ∀ c, ∃ more, write c = c :: more) (atStart : Bool) :
    IsPrefixFree (linePiece write atStart) := by
  intro c d rest rest' h
  obtain ⟨more, hmore⟩ := hwrite c
  obtain ⟨more', hmore'⟩ := hwrite d
  unfold linePiece at h
  split_ifs at h with hc hd hd
  · exact List.cons.inj h
  · rw [hmore', List.append_assoc] at h
    exact absurd h (cons_ne_margin hc (Bool.eq_false_iff.mpr hd) atStart _ _)
  · rw [hmore, List.append_assoc] at h
    exact absurd h.symm (cons_ne_margin hd (Bool.eq_false_iff.mpr hc) atStart _ _)
  · rw [List.append_assoc, List.append_assoc] at h
    have hwritten := List.append_cancel_left h
    have hsame : c = d := by
      rw [hmore, hmore'] at hwritten
      exact (List.cons.inj hwritten).1
    subst hsame
    exact ⟨rfl, List.append_cancel_left hwritten⟩

/-! ### Single quotes -/

def doubled (c : Char) : List Char := if c = '\x27' then ['\x27', '\x27'] else [c]

theorem exists_doubled_eq (c : Char) : ∃ more, doubled c = c :: more := by
  unfold doubled
  split_ifs with h
  · exact ⟨['\x27'], by rw [h]⟩
  · exact ⟨[], rfl⟩

theorem singleBody_eq (afterBreak : Bool) (text : List Char) : singleBody afterBreak text =
    codedFrom (linePiece doubled) isBreak afterBreak text ++
      margin (stateAfter isBreak afterBreak text) := by
  induction text generalizing afterBreak with
  | nil => rfl
  | cons c text ih =>
    rw [singleBody, codedFrom, stateAfter]
    cases hc : isBreak c with
    | true =>
      rw [if_pos rfl, ih, linePiece_break hc]
      rfl
    | false =>
      rw [if_neg Bool.false_ne_true, ih, linePiece_other hc, doubled]
      simp only [margin, List.append_assoc]

/-- A quote that no other follows, after the margin if it starts a line. -/
def Closes (atStart : Bool) (rest : List Char) : Prop :=
  ∃ tail, rest = margin atStart ++ '\x27' :: tail ∧ tail.head? ≠ some '\x27'

theorem not_closes_linePiece (atStart : Bool) (c : Char) (rest : List Char) :
    ¬Closes atStart (linePiece doubled atStart c ++ rest) := by
  rintro ⟨tail, h, htail⟩
  unfold linePiece at h
  split_ifs at h with hc
  · exact cons_ne_margin hc (by decide) atStart _ _ h
  · rw [List.append_assoc] at h
    have hquote := List.append_cancel_left h
    unfold doubled at hquote
    split_ifs at hquote with hself
    · obtain ⟨-, rfl⟩ := List.cons.inj hquote
      exact htail rfl
    · exact hself (List.cons.inj hquote).1

/-- A text in single quotes is told from what follows its closing quote. -/
theorem singleQuoted_append_inj {text other rest rest' : List Char}
    (hrest : rest.head? ≠ some '\x27') (hrest' : rest'.head? ≠ some '\x27')
    (h : singleBody false text ++ '\x27' :: rest = singleBody false other ++ '\x27' :: rest') :
    text = other ∧ rest = rest' := by
  rw [singleBody_eq, singleBody_eq, List.append_assoc, List.append_assoc] at h
  obtain ⟨rfl, hclose⟩ := Text.codedFrom_append_inj Closes
    (isPrefixFree_linePiece exists_doubled_eq) not_closes_linePiece
    ⟨rest, rfl, hrest⟩ ⟨rest', rfl, hrest'⟩ h
  exact ⟨rfl, List.tail_eq_of_cons_eq (List.append_cancel_left hclose)⟩

/-! ### The literal style -/

def endsWithBreak (text : List Char) : Bool := text.getLast?.any isBreak

/-- What ends the last line of a text that does not end it itself. -/
def lineEnd (text : List Char) : List Char := if endsWithBreak text then [] else ['\n']

theorem literalBody_eq (atStart : Bool) (text : List Char) : literalBody atStart text =
    codedFrom (linePiece fun c => [c]) isBreak atStart text := by
  induction text generalizing atStart with
  | nil => rfl
  | cons c text ih =>
    rw [literalBody, codedFrom]
    cases hc : isBreak c with
    | true =>
      rw [if_pos rfl, ih, linePiece_break hc]
      rfl
    | false =>
      rw [if_neg Bool.false_ne_true, ih, linePiece_other hc, margin, List.append_assoc]
      rfl

theorem literalBody_append_lineEnd (text : List Char) : literalBody true text ++ lineEnd text =
    codedFrom (linePiece fun c => [c]) isBreak true (text ++ lineEnd text) := by
  unfold lineEnd
  split_ifs
  · rw [List.append_nil, List.append_nil, literalBody_eq]
  · rw [Text.codedFrom_append_singleton, literalBody_eq]
    rfl

theorem stateAfter_append_lineEnd (text : List Char) :
    stateAfter isBreak true (text ++ lineEnd text) = true := by
  unfold lineEnd
  split_ifs with h
  · obtain ⟨c, hlast, hc⟩ := (Option.any_eq_true _ _).mp h
    obtain ⟨before, rfl⟩ := List.getLast?_eq_some_iff.mp hlast
    rw [List.append_nil, Text.stateAfter_append_singleton, hc]
  · rw [Text.stateAfter_append_singleton]
    rfl

/-- Whether a text starts in the first column of a line, as names do. -/
def startsMember (rest : List Char) : Bool := rest.head?.all fun c => !(isBreak c || isSpace c)

/-- Behind the last line, what follows is not indented. -/
def Resumes (atStart : Bool) (rest : List Char) : Prop :=
  atStart = true ∧ startsMember rest = true

theorem not_resumes_linePiece (atStart : Bool) (c : Char) (rest : List Char) :
    ¬Resumes atStart (linePiece (fun c => [c]) atStart c ++ rest) := by
  rintro ⟨rfl, h⟩
  cases hc : isBreak c with
  | true =>
    rw [linePiece_break hc] at h
    simp [startsMember, hc] at h
  | false =>
    rw [linePiece_other hc] at h
    cases h

theorem hyphen_mem_breakHint_iff (text : List Char) :
    '-' ∈ breakHint text ↔ endsWithBreak text = false := by
  unfold breakHint endsWithBreak
  rw [List.getLast?_eq_head?_reverse]
  generalize text.reverse = backwards
  split
  · simp
  · split_ifs <;> simp_all
  · split_ifs <;> simp_all

theorem eq_of_mem_indentHint {text : List Char} {c : Char} (h : c ∈ indentHint text) : c = '2' := by
  unfold indentHint at h
  split_ifs at h
  · exact List.mem_singleton.mp h
  · cases h

theorem newline_notMem_breakHint (text : List Char) : '\n' ∉ breakHint text := by
  unfold breakHint
  split
  · decide
  · split_ifs <;> decide
  · split_ifs <;> decide

/-- The hints say whether a text ends its last line itself. -/
theorem hyphen_mem_hints_iff (text : List Char) :
    '-' ∈ indentHint text ++ breakHint text ↔ endsWithBreak text = false := by
  have hindent : '-' ∉ indentHint text := fun h => absurd (eq_of_mem_indentHint h) (by decide)
  rw [List.mem_append, or_iff_right hindent, hyphen_mem_breakHint_iff]

theorem ne_newline_of_mem_hints {text : List Char} {c : Char}
    (h : c ∈ indentHint text ++ breakHint text) : (c != '\n') = true := by
  rw [bne_iff_ne]
  rintro rfl
  rcases List.mem_append.mp h with h | h
  · exact absurd (eq_of_mem_indentHint h) (by decide)
  · exact newline_notMem_breakHint text h

theorem lineEnd_eq_of_hints {text other : List Char}
    (h : indentHint text ++ breakHint text = indentHint other ++ breakHint other) :
    lineEnd text = lineEnd other := by
  have hsame : endsWithBreak text = endsWithBreak other := by
    rw [Bool.eq_iff_iff, ← not_iff_not, Bool.not_eq_true, Bool.not_eq_true,
      ← hyphen_mem_hints_iff, h, hyphen_mem_hints_iff]
  rw [lineEnd, lineEnd, hsame]

/-- A literal text is told from what follows it, if that is not indented. The hints say whether the
last break is a part of the text. -/
theorem literal_append_inj {text other rest rest' : List Char} (hrest : startsMember rest = true)
    (hrest' : startsMember rest' = true)
    (h : indentHint text ++ breakHint text ++
        '\n' :: (literalBody true text ++ lineEnd text ++ rest) =
      indentHint other ++ breakHint other ++
        '\n' :: (literalBody true other ++ lineEnd other ++ rest')) :
    text = other ∧ rest = rest' := by
  obtain ⟨hhints, hlines⟩ :=
    Text.append_inj_of_run (fun _ => ne_newline_of_mem_hints) (fun _ => ne_newline_of_mem_hints)
      rfl rfl h
  have hbody := List.tail_eq_of_cons_eq hlines
  rw [literalBody_append_lineEnd, literalBody_append_lineEnd] at hbody
  obtain ⟨hsame, rfl⟩ := Text.codedFrom_append_inj Resumes
    (isPrefixFree_linePiece fun c => ⟨[], rfl⟩) not_resumes_linePiece
    ⟨stateAfter_append_lineEnd text, hrest⟩ ⟨stateAfter_append_lineEnd other, hrest'⟩ hbody
  rw [lineEnd_eq_of_hints hhints] at hsame
  exact ⟨List.append_cancel_right hsame, rfl⟩

end DialogueScript.Yaml
