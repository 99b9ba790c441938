import DialogueScript.Json.Error
import DialogueScript.Text.Digits

/-! # The tokens of JSON

Readers of strings and words, each given the text after the character that announces it. A reader
returns what it read and the rest of the text. -/
namespace DialogueScript.Json

def isSpacing (c : Char) : Bool := c = ' ' || c = '\t' || c = '\n' || c = '\r'

def dropSpacing (text : List Char) : List Char := text.dropWhile isSpacing

def expect (c : Char) : List Char → Except DecodeError (List Char)
  | [] => .error .truncated
  | d :: rest => if d = c then .ok rest else .error .malformed

def expectWord : List Char → List Char → Except DecodeError (List Char)
  | [], text => .ok text
  | c :: word, text => do expectWord word (← expect c text)

/-- Four hexadecimal digits. Text that is too short to hold four bytes is truncated. -/
def readHexFour : List Char → Except DecodeError (Nat × List Char)
  | a :: b :: c :: d :: rest =>
    match Text.digitsValue? 16 [a, b, c, d] with
    | some n => .ok (n, rest)
    | none => .error .malformed
  | text => .error (if (String.ofList text).utf8ByteSize < 4 then .truncated else .malformed)

def isLeadingSurrogate (n : Nat) : Bool := 0xd800 ≤ n && n ≤ 0xdbff

def isTrailingSurrogate (n : Nat) : Bool := 0xdc00 ≤ n && n ≤ 0xdfff

def readTrailing (leading : Nat) (text : List Char) : Except DecodeError (Char × List Char) := do
  let text ← expect '\\' text
  let text ← expect 'u' text
  let (trailing, rest) ← readHexFour text
  if isTrailingSurrogate trailing then
    .ok (Char.ofNat (0x10000 + (leading - 0xd800) * 0x400 + (trailing - 0xdc00)), rest)
  else .error .malformed

/-- A character by its code units. Surrogates come in pairs. -/
def readCode (text : List Char) : Except DecodeError (Char × List Char) := do
  let (n, rest) ← readHexFour text
  if isTrailingSurrogate n then .error .malformed
  else if isLeadingSurrogate n then readTrailing n rest
  else .ok (Char.ofNat n, rest)

def letterEscapes : List (Char × Char) :=
  [('"', '"'), ('\\', '\\'), ('/', '/'), ('b', '\x08'), ('f', '\x0c'), ('n', '\n'), ('r', '\r'),
    ('t', '\t')]

def readEscape : List Char → Except DecodeError (Char × List Char)
  | [] => .error .truncated
  | c :: rest =>
    if c = 'u' then readCode rest
    else match letterEscapes.lookup c with
      | some meant => .ok (meant, rest)
      | none => .error .malformed

/-- As `readEscape`, for a string whose value is not wanted: surrogates need no partner. -/
def skipEscape : List Char → Except DecodeError (List Char)
  | [] => .error .truncated
  | c :: rest =>
    if c = 'u' then (readHexFour rest).map Prod.snd
    else if (letterEscapes.lookup c).isSome then .ok rest
    else .error .malformed

theorem map_ok {ε α β : Type} {f : α → β} {x : Except ε α} {b : β} (h : x.map f = .ok b) :
    ∃ a, x = .ok a ∧ f a = b := by
  cases x with
  | error e => simp [Except.map] at h
  | ok a => exact ⟨a, rfl, by simpa [Except.map] using h⟩

theorem expect_length {c : Char} {text rest : List Char} (h : expect c text = .ok rest) :
    rest.length < text.length := by
  cases text with
  | nil => simp [expect] at h
  | cons d text =>
    simp only [expect] at h
    split at h <;> simp_all

theorem readHexFour_length {text : List Char} {read : Nat × List Char}
    (h : readHexFour text = .ok read) : read.2.length < text.length := by
  unfold readHexFour at h
  split at h
  · split at h
    · cases h
      simp only [List.length_cons]
      omega
    · simp at h
  · simp at h

theorem readTrailing_length {leading : Nat} {text rest : List Char} {c : Char}
    (h : readTrailing leading text = .ok (c, rest)) : rest.length < text.length := by
  simp only [readTrailing, bind, Except.bind] at h
  split at h
  · simp at h
  · rename_i first hfirst
    split at h
    · simp at h
    · rename_i second hsecond
      split at h
      · simp at h
      · rename_i read hread
        have := expect_length hfirst
        have := expect_length hsecond
        have := readHexFour_length hread
        split at h <;> simp_all
        omega

theorem readEscape_length {text rest : List Char} {c : Char} (h : readEscape text = .ok (c, rest)) :
    rest.length < text.length := by
  cases text with
  | nil => simp [readEscape] at h
  | cons d text =>
    simp only [readEscape] at h
    split at h
    · simp only [readCode, bind, Except.bind] at h
      split at h
      · simp at h
      · rename_i read hread
        have := readHexFour_length hread
        split at h
        · simp at h
        · split at h
          · have := readTrailing_length h
            simp_all; omega
          · simp_all; omega
    · split at h <;> simp_all

theorem skipEscape_length {text rest : List Char} (h : skipEscape text = .ok rest) :
    rest.length < text.length := by
  cases text with
  | nil => simp [skipEscape] at h
  | cons d text =>
    simp only [skipEscape] at h
    split at h
    · obtain ⟨read, hread, rfl⟩ := map_ok h
      have := readHexFour_length hread
      simp only [List.length_cons]
      omega
    · split at h <;> simp_all

def readString (text : List Char) : Except DecodeError (List Char × List Char) :=
  match text with
  | [] => .error .truncated
  | c :: rest =>
    if c = '"' then .ok ([], rest)
    else if c = '\\' then
      match h : readEscape rest with
      | .error e => .error e
      | .ok (meant, after) =>
        have : after.length < rest.length := readEscape_length h
        (readString after).map fun read => (meant :: read.1, read.2)
    else if c.toNat < 0x20 then .error .malformed
    else (readString rest).map fun read => (c :: read.1, read.2)
termination_by text.length

def skipString (text : List Char) : Except DecodeError (List Char) :=
  match text with
  | [] => .error .truncated
  | c :: rest =>
    if c = '"' then .ok rest
    else if c = '\\' then
      match h : skipEscape rest with
      | .error e => .error e
      | .ok after =>
        have : after.length < rest.length := skipEscape_length h
        skipString after
    else if c.toNat < 0x20 then .error .malformed
    else skipString rest
termination_by text.length

end DialogueScript.Json
