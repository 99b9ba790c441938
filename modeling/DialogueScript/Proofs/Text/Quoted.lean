import DialogueScript.Proofs.Text.Coding
import DialogueScript.Proofs.Text.Digits
import DialogueScript.Proofs.Text.Tables
import DialogueScript.Text.Quoted

/-! # What quotes keep and what they hold off

A quoted text says where it ends and which text it quotes, whatever follows it. It is one line: the
space is the only blank character that shows in it. -/
namespace DialogueScript.Text

def delimiters : List Char := ['"', '\x27']

def unescaped (mark : Char) : Char :=
  if mark = 't' then '\t'
  else if mark = 'r' then '\r'
  else if mark = 'n' then '\n'
  else if mark = '0' then '\x00'
  else mark

def readQuotedCharacter : List Char → Option (Char × List Char)
  | '\\' :: 'u' :: '{' :: rest =>
    ((rest.takeWhile (· != '}')).foldlM (pushDigit? 16) 0).map fun code =>
      (Char.ofNat code, (rest.dropWhile (· != '}')).drop 1)
  | '\\' :: mark :: rest => some (unescaped mark, rest)
  | c :: rest => some (c, rest)
  | [] => none

variable {delimiter : Char}

/-- A character is escaped by one letter or by its code, or else it shows as itself. -/
theorem quotedCharacter_cases (hdelimiter : delimiter ∈ delimiters) (c : Char) :
    (∃ mark ∈ ['t', 'r', 'n', '0', '\\', '"', '\x27'],
        quotedCharacter delimiter c = ['\\', mark] ∧ unescaped mark = c) ∨
      quotedCharacter delimiter c = hexEscape c ∨
      quotedCharacter delimiter c = [c] ∧ c ≠ '\\' ∧ c ≠ delimiter ∧
        isEscapedCharacter c = false := by
  unfold quotedCharacter
  split_ifs with ht hr hn h0 hself hescaped
  · exact Or.inl ⟨'t', by simp, rfl, ht.symm⟩
  · exact Or.inl ⟨'r', by simp, rfl, hr.symm⟩
  · exact Or.inl ⟨'n', by simp, rfl, hn.symm⟩
  · exact Or.inl ⟨'0', by simp, rfl, h0.symm⟩
  · have hmark : c ∈ ['\\', '"', '\x27'] := by
      simp only [Bool.or_eq_true, decide_eq_true_eq] at hself
      rcases hself with rfl | rfl
      · simp
      · exact List.mem_cons_of_mem _ hdelimiter
    refine Or.inl ⟨c, ?_, rfl, ?_⟩
    · simp only [List.mem_cons] at hmark ⊢
      tauto
    · have hall : ['\\', '"', '\x27'].all (fun mark => unescaped mark = mark) = true := by decide
      simpa using List.all_eq_true.mp hall c hmark
  · exact Or.inr (Or.inl rfl)
  · simp only [Bool.or_eq_true, decide_eq_true_eq, not_or] at hself
    exact Or.inr (Or.inr ⟨rfl, hself.1, hself.2, by simpa using hescaped⟩)

theorem digitChar_ne_brace {digit : Nat} (h : digit < 16) :
    (Nat.digitChar digit != '}') = true := by
  interval_cases digit <;> rfl

theorem readQuotedCharacter_hexEscape (c : Char) (rest : List Char) :
    readQuotedCharacter (hexEscape c ++ rest) = some (c, rest) := by
  have hdigits : ∀ d ∈ Nat.toDigits 16 c.toNat, (d != '}') = true := by
    intro d hd
    obtain ⟨digit, hdigit, rfl⟩ := exists_digitChar_of_mem_toDigits (by decide) hd
    exact digitChar_ne_brace hdigit
  have hvalue : (Nat.toDigits 16 c.toNat).foldlM (pushDigit? 16) 0 = some c.toNat := by
    have hread := foldlM_toDigits_map id (by decide) (fun _ h => digitValue?_digitChar h) c.toNat
    rwa [List.map_id] at hread
  have htext : hexEscape c ++ rest =
      '\\' :: 'u' :: '{' :: (Nat.toDigits 16 c.toNat ++ '}' :: rest) := by
    simp [hexEscape]
  rw [htext, readQuotedCharacter, List.takeWhile_append_of_pos hdigits,
    List.dropWhile_append_of_pos hdigits]
  simp [hvalue, Char.ofNat_toNat]

theorem readQuotedCharacter_quotedCharacter (hdelimiter : delimiter ∈ delimiters) (c : Char)
    (rest : List Char) :
    readQuotedCharacter (quotedCharacter delimiter c ++ rest) = some (c, rest) := by
  rcases quotedCharacter_cases hdelimiter c with
    ⟨mark, hmark, hletter, hread⟩ | hcode | ⟨hself, hbackslash, -, -⟩
  · have hcodeless : mark ≠ 'u' := by
      rintro rfl
      exact absurd hmark (by decide)
    rw [hletter, List.cons_append, List.singleton_append, readQuotedCharacter, hread]
    intro after hmarked
    exact absurd hmarked hcodeless
  · rw [hcode, readQuotedCharacter_hexEscape]
  · rw [hself, List.singleton_append, readQuotedCharacter]
    · intro after hescaped
      exact absurd hescaped hbackslash
    · intro mark after hescaped
      exact absurd hescaped hbackslash

/-- No character of a text looks like the delimiter that ends it. -/
theorem head?_quotedCharacter_ne (hdelimiter : delimiter ∈ delimiters) (c : Char)
    (tail : List Char) : (quotedCharacter delimiter c ++ tail).head? ≠ some delimiter := by
  have hbackslash : '\\' ≠ delimiter := by
    rintro rfl
    exact absurd hdelimiter (by decide)
  rcases quotedCharacter_cases hdelimiter c with ⟨mark, -, h, -⟩ | h | ⟨h, -, hne, -⟩
  · simp [h, hbackslash]
  · simp [h, hexEscape, hbackslash]
  · simp [h, hne]

theorem isPrefixFree_quotedCharacter (hdelimiter : delimiter ∈ delimiters) :
    IsPrefixFree (quotedCharacter delimiter) :=
  isPrefixFree_of_read readQuotedCharacter (readQuotedCharacter_quotedCharacter hdelimiter)

/-- A quoted text says where it ends and what it quotes. -/
theorem isPrefixFree_quotedIn (hdelimiter : delimiter ∈ delimiters) :
    IsPrefixFree (quotedIn delimiter) := by
  intro text other rest rest' h
  simp only [quotedIn, List.cons_append, List.append_assoc, List.nil_append, List.cons.injEq,
    true_and] at h
  exact flatMap_append_inj (isPrefixFree_quotedCharacter hdelimiter)
    (head?_quotedCharacter_ne hdelimiter) h

theorem toList_quoted (text : String) : (quoted text).toList = quotedIn '"' text.toList :=
  String.toList_ofList

/-! ### One line -/

/-- A text that holds no blank character but the space, so that nothing in it breaks a line. -/
def IsOneLine (text : List Char) : Prop := ∀ c ∈ text, isBlank c = true → c = ' '

theorem isOneLine_of_all {text : List Char}
    (h : text.all (fun c => !isBlank c || c == ' ') = true) : IsOneLine text := by
  intro c hc hblank
  have := List.all_eq_true.mp h c hc
  simpa [hblank] using this

theorem isOneLine_of_isBlank_eq_false {text : List Char} (h : ∀ c ∈ text, isBlank c = false) :
    IsOneLine text := by
  intro c hc hblank
  rw [h c hc] at hblank
  cases hblank

@[simp] theorem isOneLine_append {text rest : List Char} :
    IsOneLine (text ++ rest) ↔ IsOneLine text ∧ IsOneLine rest := by
  simp only [IsOneLine, List.mem_append, or_imp, forall_and]

@[simp] theorem isOneLine_cons {c : Char} {rest : List Char} :
    IsOneLine (c :: rest) ↔ (isBlank c = true → c = ' ') ∧ IsOneLine rest := by
  simp only [IsOneLine, List.mem_cons, forall_eq_or_imp]

theorem IsOneLine.flatMap {code : Char → List Char} (h : ∀ c, IsOneLine (code c))
    (text : List Char) : IsOneLine (text.flatMap code) := by
  intro d hd
  obtain ⟨c, -, hd⟩ := List.mem_flatMap.mp hd
  exact h c d hd

theorem blanks_agree :
    isWithin (tableBits blankRanges) (tableBits ((0x20, 0x20) :: escapedRanges)) = true := by
  decide +kernel

/-- The space is the only blank character that shows as itself. -/
theorem eq_space_of_isBlank {c : Char} (h : isBlank c = true)
    (hshown : isEscapedCharacter c = false) : c = ' ' := by
  have hranges := inRanges_of_isWithin blanks_agree h
  rw [inRanges, List.any_cons, Bool.or_eq_true] at hranges
  rcases hranges with hcode | hescaped
  · simp only [Bool.and_eq_true, decide_eq_true_eq] at hcode
    exact Char.toNat_inj.mp (le_antisymm hcode.2 hcode.1)
  · rw [isEscapedCharacter, inRanges, hescaped] at hshown
    cases hshown

theorem isBlank_of_mem_toDigits {base n : Nat} (hbase : 1 < base) (hsixteen : base ≤ 16) {c : Char}
    (h : c ∈ Nat.toDigits base n) : isBlank c = false := by
  obtain ⟨digit, hdigit, rfl⟩ := exists_digitChar_of_mem_toDigits hbase h
  have hall : (List.range 16).all (fun digit => !isBlank (Nat.digitChar digit)) = true := by
    decide
  simpa using List.all_eq_true.mp hall digit (List.mem_range.mpr (by omega))

theorem isOneLine_quotedCharacter (hdelimiter : delimiter ∈ delimiters) (c : Char) :
    IsOneLine (quotedCharacter delimiter c) := by
  rcases quotedCharacter_cases hdelimiter c with ⟨mark, hmark, h, -⟩ | h | ⟨h, -, -, hshown⟩
  · have hmarks : ∀ mark ∈ ['t', 'r', 'n', '0', '\\', '"', '\x27'], IsOneLine ['\\', mark] := by
      intro mark hmark
      fin_cases hmark <;> exact isOneLine_of_all rfl
    rw [h]
    exact hmarks mark hmark
  · rw [h, hexEscape, isOneLine_append, isOneLine_append]
    refine ⟨⟨isOneLine_of_all rfl, ?_⟩, isOneLine_of_all rfl⟩
    exact isOneLine_of_isBlank_eq_false fun _ hd =>
      isBlank_of_mem_toDigits (by decide) (by decide) hd
  · rw [h]
    intro d hd hblank
    rw [List.mem_singleton.mp hd] at hblank ⊢
    exact eq_space_of_isBlank hblank hshown

/-- Whatever a text holds, a quotation of it is one line. -/
theorem isOneLine_quotedIn (hdelimiter : delimiter ∈ delimiters) (text : List Char) :
    IsOneLine (quotedIn delimiter text) := by
  have hmark : IsOneLine [delimiter] := by
    simp only [delimiters, List.mem_pair] at hdelimiter
    rcases hdelimiter with rfl | rfl <;> exact isOneLine_of_all rfl
  have hinside := IsOneLine.flatMap (isOneLine_quotedCharacter hdelimiter) text
  rw [quotedIn, ← List.singleton_append, isOneLine_append, isOneLine_append]
  exact ⟨⟨hmark, hinside⟩, hmark⟩

end DialogueScript.Text
