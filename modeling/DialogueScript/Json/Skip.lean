import DialogueScript.Json.Number

/-! # Values that are not wanted

They have to be well formed all the same. Arrays and objects may be nested to any depth. -/
namespace DialogueScript.Json

/-- What is left of a text of which something was read. -/
abbrev Shorter (text : List Char) := { rest : List Char // rest.length < text.length }

theorem dropSpacing_length_le (text : List Char) : (dropSpacing text).length ≤ text.length :=
  dropWhile_length_le _ text

def Shorter.widen {text longer : List Char} (h : text.length ≤ longer.length)
    (rest : Shorter text) : Shorter longer :=
  ⟨rest.1, Nat.lt_of_lt_of_le rest.2 h⟩

theorem expectWord_length_le {word text rest : List Char} (h : expectWord word text = .ok rest) :
    rest.length ≤ text.length := by
  induction word generalizing text with
  | nil => simp_all [expectWord]
  | cons c word ih =>
    simp only [expectWord, bind, Except.bind] at h
    split at h
    · simp at h
    · rename_i next hnext
      have := expect_length hnext
      have := ih h
      omega

theorem skipString_length {text rest : List Char} (h : skipString text = .ok rest) :
    rest.length < text.length := by
  fun_induction skipString text with
  | case1 => simp at h
  | case2 => simp_all
  | case3 => simp at h
  | case4 rest' _ after hafter hlt ih =>
    have := ih h
    simp only [List.length_cons]
    omega
  | case5 => simp at h
  | case6 c rest' _ _ _ ih =>
    have := ih h
    simp only [List.length_cons]
    omega

theorem skipExponent_length_le {text rest : List Char} (h : skipExponent text = .ok rest) :
    rest.length ≤ text.length := by
  unfold skipExponent at h
  split at h
  · simp_all
  · have hsign := dropSign_length_le (text.drop 1)
    simp only [List.length_drop] at hsign
    dsimp only at h
    split at h
    · cases h
      have := dropWhile_length_le Char.isDigit (Text.dropSign (text.drop 1))
      simp only [dropDigits]
      omega
    · simp at h

theorem dropDigits_length_lt {text : List Char} (h : Text.startsWithDigit text) :
    (dropDigits text).length < text.length := by
  cases text with
  | nil => simp [Text.startsWithDigit] at h
  | cons c rest =>
    have hc : c.isDigit = true := by simpa [Text.startsWithDigit] using h
    simp only [dropDigits, List.dropWhile_cons, hc, if_true, List.length_cons]
    have := dropWhile_length_le Char.isDigit rest
    omega

theorem skipNumber_length {text rest : List Char} (h : skipNumber text = .ok rest) :
    rest.length < text.length := by
  unfold skipNumber at h
  split at h
  · simp at h
  · rename_i hd
    have hlt := dropDigits_length_lt (show Text.startsWithDigit text = true by simpa using hd)
    split at h
    · simp at h
    · dsimp only at h
      split at h
      · split at h
        · have := skipExponent_length_le h
          have := dropWhile_length_le Char.isDigit ((dropDigits text).drop 1)
          simp only [dropDigits, List.length_drop] at *
          omega
        · simp at h
      · have := skipExponent_length_le h
        omega

def skipPlain (c : Char) (rest : List Char) : Except DecodeError (List Char) :=
  if c = '"' then skipString rest
  else if c = 'n' then expectWord ['u', 'l', 'l'] rest
  else if c = 't' then expectWord ['r', 'u', 'e'] rest
  else if c = 'f' then expectWord ['a', 'l', 's', 'e'] rest
  else if c = '-' then skipNumber rest
  else if c.isDigit then skipNumber (c :: rest)
  else .error .malformed

theorem skipPlain_length {c : Char} {rest after : List Char} (h : skipPlain c rest = .ok after) :
    after.length < (c :: rest).length := by
  simp only [List.length_cons]
  unfold skipPlain at h
  split at h
  · have := skipString_length h; omega
  · split at h
    · have := expectWord_length_le h; omega
    · split at h
      · have := expectWord_length_le h; omega
      · split at h
        · have := expectWord_length_le h; omega
        · split at h
          · have := skipNumber_length h; omega
          · split at h
            · have := skipNumber_length h; simp only [List.length_cons] at this; omega
            · simp at h

theorem length_lt_of_dropSpacing {text rest : List Char} {c : Char}
    (h : dropSpacing text = c :: rest) : rest.length < text.length := by
  have := dropSpacing_length_le text
  rw [h, List.length_cons] at this
  omega

theorem lt_of_dropSpacing {text rest after : List Char} {c : Char}
    (hrest : rest.length < text.length) (h : dropSpacing rest = c :: after) :
    after.length < text.length :=
  Nat.lt_trans (length_lt_of_dropSpacing h) hrest

theorem lt_of_skipPlain {text rest after : List Char} {c : Char}
    (hrest : rest.length < text.length) (h : skipPlain c rest = .ok after) :
    after.length < text.length :=
  Nat.lt_of_le_of_lt (Nat.le_of_lt_succ (skipPlain_length h)) hrest

/-- A member's value is behind its name and a colon. -/
theorem value_length_lt {text rest named value : List Char} {c : Char}
    (h : dropSpacing text = c :: rest) (hname : skipString rest = .ok named)
    (hcolon : expect ':' (dropSpacing named) = .ok value) : value.length < text.length := by
  have := length_lt_of_dropSpacing h
  have := skipString_length hname
  have := expect_length hcolon
  have := dropSpacing_length_le named
  omega

mutual

def skipValue (text : List Char) : Except DecodeError (Shorter text) :=
  match h : dropSpacing text with
  | [] => .error .truncated
  | c :: rest =>
    have hrest := length_lt_of_dropSpacing h
    if c = '[' then
      match h₁ : dropSpacing rest with
      | [] => .error .truncated
      | d :: after =>
        if d = ']' then .ok ⟨after, lt_of_dropSpacing hrest h₁⟩
        else (skipElements rest).map (Shorter.widen (Nat.le_of_lt hrest))
    else if c = '{' then
      match h₁ : dropSpacing rest with
      | [] => .error .truncated
      | d :: after =>
        if d = '}' then .ok ⟨after, lt_of_dropSpacing hrest h₁⟩
        else (skipMembers rest).map (Shorter.widen (Nat.le_of_lt hrest))
    else
      match h₁ : skipPlain c rest with
      | .error e => .error e
      | .ok after => .ok ⟨after, lt_of_skipPlain hrest h₁⟩
termination_by (text.length, 0)

/-- Skips the elements of an array, of which there is one at least, and its closing bracket. -/
def skipElements (text : List Char) : Except DecodeError (Shorter text) := do
  let ⟨rest, hrest⟩ ← skipValue text
  match h : dropSpacing rest with
  | [] => .error .truncated
  | c :: after =>
    have hafter := lt_of_dropSpacing hrest h
    if c = ']' then .ok ⟨after, hafter⟩
    else if c = ',' then (skipElements after).map (Shorter.widen (Nat.le_of_lt hafter))
    else .error .malformed
termination_by (text.length, 1)

/-- Skips the members of an object, of which there is one at least, and its closing brace. -/
def skipMembers (text : List Char) : Except DecodeError (Shorter text) :=
  match h : dropSpacing text with
  | [] => .error .truncated
  | c :: rest =>
    if c = '"' then
      match hname : skipString rest with
      | .error e => .error e
      | .ok named =>
        match hcolon : expect ':' (dropSpacing named) with
        | .error e => .error e
        | .ok value =>
          have hvalue := value_length_lt h hname hcolon
          match skipValue value with
          | .error e => .error e
          | .ok ⟨rest, hrest⟩ =>
            match h₁ : dropSpacing rest with
            | [] => .error .truncated
            | d :: after =>
              have hafter := lt_of_dropSpacing (Nat.lt_trans hrest hvalue) h₁
              if d = '}' then .ok ⟨after, hafter⟩
              else if d = ',' then (skipMembers after).map (Shorter.widen (Nat.le_of_lt hafter))
              else .error .malformed
    else .error .malformed
termination_by (text.length, 1)

end

end DialogueScript.Json
