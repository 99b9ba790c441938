import DialogueScript.Json.Skip

/-! # Records of plain fields

A record is written as an object, with members in any order and others among them, or as an array
of its fields in order. -/
namespace DialogueScript.Json

/-- What a field holds. Columns are required; flags and texts can be left out. -/
inductive FieldType
  | flag
  | text
  | column
  deriving DecidableEq, Repr

def FieldType.wanted : FieldType → String
  | flag => "a boolean"
  | text => "a string"
  | column => "usize"

inductive FieldValue
  | flag (value : Bool)
  | text (value : Option String)
  | column (value : Nat)
  deriving DecidableEq, Repr

/-- The fields of a record, in order, the last one required. -/
structure RecordType where
  name : String
  fields : List (String × FieldType)
  deriving DecidableEq, Repr

abbrev Record := List (String × FieldValue)

namespace Record

/-- A flag that is left out is false. -/
def flag (record : Record) (name : String) : Bool :=
  match record.lookup name with
  | some (.flag value) => value
  | _ => false

def text? (record : Record) (name : String) : Option String :=
  match record.lookup name with
  | some (.text value) => value
  | _ => none

def column? (record : Record) (name : String) : Option Nat :=
  match record.lookup name with
  | some (.column value) => some value
  | _ => none

end Record

/-- What a value is that is not wanted. Arrays and objects are known by their bracket, all others
are read first. -/
def readFound (c : Char) (rest : List Char) : Except DecodeError Found :=
  if c = '"' then (readString rest).map fun read => .string (String.ofList read.1)
  else if c = 'n' then (expectWord ['u', 'l', 'l'] rest).map fun _ => .null
  else if c = 't' then (expectWord ['r', 'u', 'e'] rest).map fun _ => .boolean true
  else if c = 'f' then (expectWord ['a', 'l', 's', 'e'] rest).map fun _ => .boolean false
  else if c = '-' then (readNumber true rest).map fun read => read.1.found
  else if c.isDigit then (readNumber false (c :: rest)).map fun read => read.1.found
  else if c = '[' then .ok .sequence
  else if c = '{' then .ok .map
  else .error .malformed

def refuse {α : Type} (wanted : String) (c : Char) (rest : List Char) : Except DecodeError α := do
  .error (.misfit (.wrongType (← readFound c rest) wanted))

def readFlag (c : Char) (rest : List Char) : Except DecodeError (FieldValue × List Char) :=
  if c = 't' then (expectWord ['r', 'u', 'e'] rest).map fun after => (.flag true, after)
  else if c = 'f' then (expectWord ['a', 'l', 's', 'e'] rest).map fun after => (.flag false, after)
  else refuse FieldType.flag.wanted c rest

def readText (c : Char) (rest : List Char) : Except DecodeError (FieldValue × List Char) :=
  if c = 'n' then (expectWord ['u', 'l', 'l'] rest).map fun after => (.text none, after)
  else if c = '"' then
    (readString rest).map fun read => (.text (some (String.ofList read.1)), read.2)
  else refuse FieldType.text.wanted c rest

def columnOf : Number → Except DecodeError Nat
  | .integer (.ofNat value) => .ok value
  | .integer value => .error (.misfit (.negative value))
  | number => .error (.misfit (.wrongType number.found FieldType.column.wanted))

def readColumn (c : Char) (rest : List Char) : Except DecodeError (FieldValue × List Char) :=
  if c = '-' || c.isDigit then do
    let (number, after) ← readNumber (c = '-') (if c = '-' then rest else c :: rest)
    return (.column (← columnOf number), after)
  else refuse FieldType.column.wanted c rest

def readField (type : FieldType) (text : List Char) :
    Except DecodeError (FieldValue × List Char) :=
  match dropSpacing text with
  | [] => .error .truncated
  | c :: rest =>
    match type with
    | .flag => readFlag c rest
    | .text => readText c rest
    | .column => readColumn c rest

theorem refuse_ne_ok {α : Type} {wanted : String} {c : Char} {rest : List Char} {read : α} :
    refuse wanted c rest ≠ .ok read := by
  simp only [refuse, bind, Except.bind]
  split <;> simp

theorem readString_length {text : List Char} {read : List Char × List Char}
    (h : readString text = .ok read) : read.2.length < text.length := by
  fun_induction readString text generalizing read with
  | case1 => simp at h
  | case2 => cases h; simp
  | case3 => simp at h
  | case4 rest _ meant after _ hlt ih =>
    obtain ⟨tail, htail, rfl⟩ := map_ok h
    have := ih htail
    simp only [List.length_cons]
    omega
  | case5 => simp at h
  | case6 c rest _ _ _ ih =>
    obtain ⟨tail, htail, rfl⟩ := map_ok h
    have := ih htail
    simp only [List.length_cons]
    omega

theorem readFlag_length_le {c : Char} {rest : List Char} {read : FieldValue × List Char}
    (h : readFlag c rest = .ok read) : read.2.length ≤ rest.length := by
  unfold readFlag at h
  split at h
  · obtain ⟨after, hword, rfl⟩ := map_ok h
    exact expectWord_length_le hword
  · split at h
    · obtain ⟨after, hword, rfl⟩ := map_ok h
      exact expectWord_length_le hword
    · exact absurd h refuse_ne_ok

theorem readText_length_le {c : Char} {rest : List Char} {read : FieldValue × List Char}
    (h : readText c rest = .ok read) : read.2.length ≤ rest.length := by
  unfold readText at h
  split at h
  · obtain ⟨after, hword, rfl⟩ := map_ok h
    exact expectWord_length_le hword
  · split at h
    · obtain ⟨tail, htail, rfl⟩ := map_ok h
      exact Nat.le_of_lt (readString_length htail)
    · exact absurd h refuse_ne_ok

theorem readColumn_length_le {c : Char} {rest : List Char} {read : FieldValue × List Char}
    (h : readColumn c rest = .ok read) : read.2.length ≤ rest.length + 1 := by
  unfold readColumn at h
  split at h
  · simp only [bind, Except.bind] at h
    split at h
    · simp at h
    · rename_i number hnumber
      have := readNumber_length_le hnumber
      split at h
      · simp at h
      · cases h
        split at this
        · exact Nat.le_succ_of_le this
        · exact this
  · exact absurd h refuse_ne_ok

theorem readField_length_le {type : FieldType} {text : List Char} {read : FieldValue × List Char}
    (h : readField type text = .ok read) : read.2.length ≤ text.length := by
  have hspace := dropSpacing_length_le text
  unfold readField at h
  split at h
  · simp at h
  · rename_i c rest htext
    rw [htext, List.length_cons] at hspace
    split at h
    · have := readFlag_length_le h; omega
    · have := readText_length_le h; omega
    · have := readColumn_length_le h; omega

/-- A member, after the opening quote of its name. A member of the record must not come twice; one
that is none is passed over. -/
def readMember (type : RecordType) (seen : Record) (text : List Char) :
    Except DecodeError (Record × List Char) := do
  let (name, rest) ← readString text
  match type.fields.lookup (String.ofList name) with
  | none =>
    let rest ← skipValue (← expect ':' (dropSpacing rest))
    return (seen, rest.1)
  | some field =>
    if (seen.lookup (String.ofList name)).isSome then
      .error (.misfit (.repeatedField (String.ofList name)))
    else
      let (value, rest) ← readField field (← expect ':' (dropSpacing rest))
      return ((String.ofList name, value) :: seen, rest)

theorem readMember_length {type : RecordType} {seen : Record} {text : List Char}
    {read : Record × List Char} (h : readMember type seen text = .ok read) :
    read.2.length < text.length := by
  simp only [readMember, bind, Except.bind] at h
  split at h
  · simp at h
  · rename_i name hname
    have := readString_length hname
    have := dropSpacing_length_le name.2
    split at h
    · split at h
      · simp at h
      · rename_i value hvalue
        have := expect_length hvalue
        split at h
        · simp at h
        · rename_i rest _
          have := rest.2
          cases h
          dsimp only
          omega
    · split at h
      · simp at h
      · split at h
        · simp at h
        · rename_i value hvalue
          have := expect_length hvalue
          split at h
          · simp at h
          · rename_i field hfield
            have := readField_length_le hfield
            cases h
            dsimp only
            omega

/-- The members of an object from the name of one on, after its opening quote, to the closing
brace. -/
def readMembers (type : RecordType) (seen : Record) (text : List Char) :
    Except DecodeError (Record × List Char) :=
  match h : readMember type seen text with
  | .error e => .error e
  | .ok (seen, rest) =>
    match hrest : dropSpacing rest with
    | [] => .error .truncated
    | c :: after =>
      if c = '}' then .ok (seen, after)
      else if c = ',' then
        match hafter : dropSpacing after with
        | [] => .error .truncated
        | d :: name =>
          if d = '"' then
            have : name.length < text.length := by
              have := readMember_length h
              have := dropSpacing_length_le rest
              rw [hrest, List.length_cons] at this
              have := dropSpacing_length_le after
              rw [hafter, List.length_cons] at this
              dsimp only at *
              omega
            readMembers type seen name
          else .error .malformed
      else .error .malformed
termination_by text.length

def readObject (type : RecordType) (text : List Char) :
    Except DecodeError (Record × List Char) := do
  let (record, rest) ← match dropSpacing text with
    | [] => .error .truncated
    | c :: after =>
      if c = '}' then .ok ([], after)
      else if c = '"' then readMembers type [] after
      else .error .malformed
  match type.fields.find? fun field => field.2 = .column && (record.lookup field.1).isNone with
  | some field => .error (.misfit (.missingField field.1))
  | none => return (record, rest)

def nextElement? (isFirst : Bool) (text : List Char) : Except DecodeError (Option (List Char)) :=
  match dropSpacing text with
  | [] => .error .truncated
  | c :: rest =>
    if c = ']' then .ok none
    else if isFirst then .ok (some (c :: rest))
    else if c = ',' then
      match dropSpacing rest with
      | [] => .error .truncated
      | d :: after => if d = ']' then .error .malformed else .ok (some (d :: after))
    else .error .malformed

/-- The elements of an array, one for each of `fields`, and its closing bracket. -/
def readElements (type : RecordType) (isFirst : Bool) :
    List (String × FieldType) → List Char → Except DecodeError (Record × List Char)
  | [], text => do return ([], ← expect ']' (dropSpacing text))
  | field :: fields, text => do
    match ← nextElement? isFirst text with
    | none =>
      .error (.misfit (.tooShort (type.fields.findIdx fun f => f.2 = .column) type.name
        type.fields.length))
    | some element =>
      let (value, rest) ← readField field.2 element
      let (record, rest) ← readElements type false fields rest
      return ((field.1, value) :: record, rest)

def readRecord (type : RecordType) (text : List Char) : Except DecodeError (Record × List Char) :=
  match dropSpacing text with
  | [] => .error .truncated
  | c :: rest =>
    if c = '{' then readObject type rest
    else if c = '[' then readElements type true type.fields rest
    else refuse ("struct " ++ type.name) c rest

end DialogueScript.Json
