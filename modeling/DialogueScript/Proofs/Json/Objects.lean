import DialogueScript.Json.Record
import DialogueScript.Proofs.Json.Tokens

/-! # Reading back what was written: records

A written object is read back as a record of those of its members that are fields of the record.
The others may hold any plain value. -/
namespace DialogueScript.Json

/-! ### Space -/

theorem dropSpacing_append {gap : List Char} (hgap : ∀ c ∈ gap, isSpacing c = true) {c : Char}
    (hc : isSpacing c = false) (rest : List Char) : dropSpacing (gap ++ c :: rest) = c :: rest := by
  rw [dropSpacing, List.dropWhile_append_of_pos hgap, List.dropWhile_cons, hc]
  rfl

theorem isSpacing_of_isDigit {c : Char} (h : c.isDigit = true) : isSpacing c = false := by
  rw [Bool.eq_false_iff]
  intro hspacing
  simp only [isSpacing, Bool.or_eq_true, decide_eq_true_eq] at hspacing
  rcases hspacing with ((rfl | rfl) | rfl) | rfl <;> revert h <;> decide

/-! ### Values -/

/-- A plain value is what a field of a type wants, and is read as a value of it. -/
inductive ReadsAs : Scalar → FieldType → FieldValue → Prop
  | text (value : String) : ReadsAs (.text value) .text (.text (some value))
  | flag (value : Bool) : ReadsAs (.flag value) .flag (.flag value)
  | number {value : Nat} (h : value < 2 ^ 64) : ReadsAs (.number value) .column (.column value)

theorem exists_digit (n : Nat) : ∃ c digits, Nat.toDigits 10 n = c :: digits ∧ c.isDigit = true := by
  obtain ⟨c, digits, hdigits⟩ := List.exists_cons_of_ne_nil (Nat.toDigits_ne_nil (n := n) (b := 10))
  exact ⟨c, digits, hdigits, isDigit_of_mem_toDigits n c (by simp [hdigits])⟩

theorem ne_of_isDigit {c d : Char} (hc : c.isDigit = true) (hd : d.isDigit = false) : c ≠ d := by
  rintro rfl
  rw [hc] at hd
  cases hd

theorem exists_word (value : Bool) (rest : List Char) :
    ∃ c word, writtenScalar (.flag value) = c :: word ∧ isSpacing c = false ∧ c ≠ '[' ∧ c ≠ '{' ∧
      readFlag c (word ++ rest) = .ok (.flag value, rest) ∧ skipPlain c (word ++ rest) = .ok rest := by
  cases value with
  | true =>
    have hword := expectWord_append ['r', 'u', 'e'] rest
    refine ⟨'t', ['r', 'u', 'e'], rfl, by decide, by decide, by decide, ?_, hword⟩
    rw [readFlag, if_pos rfl, hword]
    rfl
  | false =>
    have hword := expectWord_append ['a', 'l', 's', 'e'] rest
    refine ⟨'f', ['a', 'l', 's', 'e'], rfl, by decide, by decide, by decide, ?_, hword⟩
    rw [readFlag, if_neg (by decide), if_pos rfl, hword]
    rfl

variable {gap rest : List Char}

theorem readField_written (hgap : ∀ c ∈ gap, isSpacing c = true) (hrest : EndsNumber rest)
    {scalar : Scalar} {type : FieldType} {value : FieldValue} (h : ReadsAs scalar type value) :
    readField type (gap ++ (writtenScalar scalar ++ rest)) = .ok (value, rest) := by
  cases h with
  | text value =>
    rw [writtenScalar, writtenString, List.cons_append, List.cons_append, List.append_assoc,
      List.singleton_append, readField, dropSpacing_append hgap (by decide)]
    simp [readText, Except.map]
  | flag value =>
    obtain ⟨c, word, hword, hspacing, -, -, hread, -⟩ := exists_word value rest
    rw [hword, List.cons_append, readField, dropSpacing_append hgap hspacing]
    exact hread
  | @number n hn =>
    obtain ⟨c, digits, hdigits, hc⟩ := exists_digit n
    have hread := readNumber_toDigits hn hrest
    rw [hdigits, List.cons_append] at hread
    rw [writtenScalar, hdigits, List.cons_append, readField,
      dropSpacing_append hgap (isSpacing_of_isDigit hc)]
    simp [readColumn, hc, ne_of_isDigit hc (show '-'.isDigit = false by decide), hread, columnOf,
      bind, Except.bind, pure, Except.pure]

theorem skipValue_of_skipPlain {text after : List Char} {c : Char}
    (htext : dropSpacing text = c :: rest) (hbracket : c ≠ '[') (hbrace : c ≠ '{')
    (h : skipPlain c rest = .ok after) : ∃ left, skipValue text = .ok left ∧ left.1 = after := by
  rw [skipValue]
  split
  · rename_i hnil
    rw [htext] at hnil
    cases hnil
  · rename_i hcons
    rw [htext] at hcons
    cases hcons
    rw [if_neg hbracket, if_neg hbrace]
    split
    · rename_i hskip
      rw [h] at hskip
      cases hskip
    · rename_i hskip
      rw [h] at hskip
      cases hskip
      exact ⟨_, rfl, rfl⟩

theorem skipValue_written (hgap : ∀ c ∈ gap, isSpacing c = true) (hrest : EndsNumber rest)
    (scalar : Scalar) :
    ∃ left, skipValue (gap ++ (writtenScalar scalar ++ rest)) = .ok left ∧ left.1 = rest := by
  cases scalar with
  | text value =>
    rw [writtenScalar, writtenString, List.cons_append, List.cons_append, List.append_assoc,
      List.singleton_append]
    refine skipValue_of_skipPlain (dropSpacing_append hgap (by decide) _) (by decide) (by decide) ?_
    rw [skipPlain, if_pos rfl, skipString_flatMap]
  | flag value =>
    obtain ⟨c, word, hword, hspacing, hbracket, hbrace, -, hskip⟩ := exists_word value rest
    rw [hword, List.cons_append]
    exact skipValue_of_skipPlain (dropSpacing_append hgap hspacing _) hbracket hbrace hskip
  | number n =>
    obtain ⟨c, digits, hdigits, hc⟩ := exists_digit n
    have hskip := skipNumber_toDigits n hrest
    have hne : ∀ d : Char, d.isDigit = false → c ≠ d := fun _ hd => ne_of_isDigit hc hd
    rw [hdigits, List.cons_append] at hskip
    rw [writtenScalar, hdigits, List.cons_append]
    refine skipValue_of_skipPlain (dropSpacing_append hgap (isSpacing_of_isDigit hc) _)
      (hne '[' (by decide)) (hne '{' (by decide)) ?_
    rw [skipPlain, if_neg (hne '"' (by decide)), if_neg (hne 'n' (by decide)),
      if_neg (hne 't' (by decide)), if_neg (hne 'f' (by decide)), if_neg (hne '-' (by decide)),
      if_pos hc, hskip]

/-! ### Members -/

/-- The fields that an object's members are read as, for a record of a type, after those that were
`seen` before. -/
inductive ReadsMembers (type : RecordType) : Record → List Field → Record → Prop
  | nil {seen : Record} : ReadsMembers type seen [] seen
  | skip {seen record : Record} {name : String} {scalar : Scalar} {fields : List Field}
      (unknown : type.fields.lookup name = none) (others : ReadsMembers type seen fields record) :
      ReadsMembers type seen ((name, scalar) :: fields) record
  | keep {seen record : Record} {name : String} {scalar : Scalar} {fields : List Field}
      {field : FieldType} {value : FieldValue} (known : type.fields.lookup name = some field)
      (fresh : seen.lookup name = none) (reads : ReadsAs scalar field value)
      (others : ReadsMembers type ((name, value) :: seen) fields record) :
      ReadsMembers type seen ((name, scalar) :: fields) record

/-- A member after the opening quote of its name, with `gap` behind its colon. -/
def memberText (gap : List Char) (field : Field) : List Char :=
  field.1.toList.flatMap writtenCharacter ++ '"' :: ':' :: (gap ++ writtenScalar field.2)

/-- The members of an object, the first one after the opening quote of its name, and the closing
brace: `indent` stands before each name and `close` before the brace. -/
def membersText (indent gap close : List Char) : Field → List Field → List Char
  | field, [] => memberText gap field ++ (close ++ ['}'])
  | field, next :: fields =>
    memberText gap field ++ ',' :: (indent ++ '"' :: membersText indent gap close next fields)

variable {type : RecordType} {seen record : Record} {name : String} {scalar : Scalar}

theorem expect_colon (rest : List Char) : expect ':' (dropSpacing (':' :: rest)) = .ok rest := rfl

theorem readMember_skip (hgap : ∀ c ∈ gap, isSpacing c = true) (hrest : EndsNumber rest)
    (hunknown : type.fields.lookup name = none) :
    readMember type seen (memberText gap (name, scalar) ++ rest) = .ok (seen, rest) := by
  obtain ⟨left, hskip, hleft⟩ := skipValue_written hgap hrest scalar
  simp only [readMember, memberText, List.append_assoc, List.cons_append, readString_flatMap,
    String.ofList_toList, hunknown, expect_colon, hskip, hleft, bind, Except.bind, pure, Except.pure]

theorem readMember_keep (hgap : ∀ c ∈ gap, isSpacing c = true) (hrest : EndsNumber rest)
    {field : FieldType} {value : FieldValue} (hknown : type.fields.lookup name = some field)
    (hfresh : seen.lookup name = none) (hreads : ReadsAs scalar field value) :
    readMember type seen (memberText gap (name, scalar) ++ rest) =
      .ok ((name, value) :: seen, rest) := by
  simp only [readMember, memberText, List.append_assoc, List.cons_append, readString_flatMap,
    String.ofList_toList, hknown, hfresh, expect_colon, readField_written hgap hrest hreads, bind,
    Except.bind, pure, Except.pure]
  rfl

/-- What follows a member: the closing brace, or a comma and the quote of the next name. -/
theorem readMembers_eq_bind (text : List Char) : readMembers type seen text =
    readMember type seen text >>= fun read =>
      match dropSpacing read.2 with
      | [] => .error .truncated
      | c :: after =>
        if c = '}' then .ok (read.1, after)
        else if c = ',' then
          match dropSpacing after with
          | [] => .error .truncated
          | d :: name => if d = '"' then readMembers type read.1 name else .error .malformed
        else .error .malformed := by
  rw [readMembers]
  split
  · rename_i hmember
    simp only [hmember, bind, Except.bind]
  · rename_i hmember
    simp only [hmember, bind, Except.bind]
    split
    · rename_i hend
      simp only [hend]
    · rename_i hmore
      simp only [hmore]
      split_ifs
      · rfl
      · split
        · rename_i hend
          simp only [hend]
        · rename_i hname
          simp only [hname]
      · rfl

theorem readMembers_last {text after : List Char}
    (hmember : readMember type seen text = .ok (record, rest))
    (hclose : dropSpacing rest = '}' :: after) : readMembers type seen text = .ok (record, after) := by
  rw [readMembers_eq_bind, hmember]
  simp only [bind, Except.bind, hclose, if_true]

theorem readMembers_next {text more after : List Char}
    (hmember : readMember type seen text = .ok (record, rest))
    (hcomma : dropSpacing rest = ',' :: more) (hquote : dropSpacing more = '"' :: after) :
    readMembers type seen text = readMembers type record after := by
  rw [readMembers_eq_bind, hmember]
  simp only [bind, Except.bind, hcomma, hquote, if_neg (show ',' ≠ '}' by decide), if_true]

variable {indent close : List Char}

theorem endsNumber_nil : EndsNumber [] := ⟨rfl, by simp, rfl⟩

theorem endsNumber_cons {c : Char} (h : c ∈ [',', '}', ' ', '\t', '\n', '\r'])
    (rest : List Char) : EndsNumber (c :: rest) := by
  simp only [List.mem_cons, List.not_mem_nil, or_false] at h
  rcases h with rfl | rfl | rfl | rfl | rfl | rfl <;> exact ⟨rfl, by simp, rfl⟩

theorem endsNumber_space {c : Char} (h : isSpacing c = true) (rest : List Char) :
    EndsNumber (c :: rest) := by
  simp only [isSpacing, Bool.or_eq_true, decide_eq_true_eq] at h
  refine endsNumber_cons ?_ rest
  rcases h with ((rfl | rfl) | rfl) | rfl <;> simp

theorem endsNumber_brace (hclose : ∀ c ∈ close, isSpacing c = true) (rest : List Char) :
    EndsNumber (close ++ '}' :: rest) := by
  cases close with
  | nil => exact endsNumber_cons (by simp) rest
  | cons c close => exact endsNumber_space (hclose c (by simp)) _

/-- The members of a written object are read back, those that are fields of the record. -/
theorem readMembers_membersText (hindent : ∀ c ∈ indent, isSpacing c = true)
    (hgap : ∀ c ∈ gap, isSpacing c = true) (hclose : ∀ c ∈ close, isSpacing c = true)
    {field : Field} {fields : List Field} (h : ReadsMembers type seen (field :: fields) record) :
    readMembers type seen (membersText indent gap close field fields ++ rest) =
      .ok (record, rest) := by
  -- What was seen grows with each member, so the induction is on the members behind the first.
  induction fields generalizing field seen with
  | nil =>
    rw [membersText, List.append_assoc, List.append_assoc, List.singleton_append]
    have hends := endsNumber_brace hclose rest
    have hbrace := dropSpacing_append hclose (show isSpacing '}' = false by decide) rest
    cases h with
    | skip unknown others =>
      cases others
      exact readMembers_last (readMember_skip hgap hends unknown) hbrace
    | keep known fresh reads others =>
      cases others
      exact readMembers_last (readMember_keep hgap hends known fresh reads) hbrace
  | cons next fields ih =>
    rw [membersText, List.append_assoc, List.cons_append, List.append_assoc, List.cons_append]
    have hends := endsNumber_cons (show ',' ∈ [',', '}', ' ', '\t', '\n', '\r'] by simp)
      (indent ++ '"' :: (membersText indent gap close next fields ++ rest))
    have hquote := dropSpacing_append hindent (show isSpacing '"' = false by decide)
      (membersText indent gap close next fields ++ rest)
    cases h with
    | skip unknown others =>
      rw [readMembers_next (readMember_skip hgap hends unknown) rfl hquote, ih others]
    | keep known fresh reads others =>
      rw [readMembers_next (readMember_keep hgap hends known fresh reads) rfl hquote, ih others]

/-! ### Objects -/

theorem intercalate_members (indent gap close : List Char) (field : Field) (fields : List Field) :
    [','].intercalate ((field :: fields).map fun field =>
      indent ++ writtenString field.1.toList ++ [':'] ++ gap ++ writtenScalar field.2) ++
        close ++ ['}'] = indent ++ '"' :: membersText indent gap close field fields := by
  induction fields generalizing field with
  | nil => simp [List.intercalate, membersText, memberText, writtenString]
  | cons next fields ih =>
    rw [membersText, ← ih next]
    simp [List.intercalate, memberText, writtenString]

theorem compact_cons (field : Field) (fields : List Field) :
    compact (field :: fields) = '{' :: ([] ++ '"' :: membersText [] [] [] field fields) := by
  rw [compact, ← intercalate_members]
  simp

theorem pretty_cons (field : Field) (fields : List Field) :
    pretty (field :: fields) = '{' :: (['\n', ' ', ' '] ++
      '"' :: membersText ['\n', ' ', ' '] [' '] ['\n'] field fields) := by
  rw [pretty, ← intercalate_members]
  simp

def IsComplete (type : RecordType) (record : Record) : Prop :=
  ∀ field ∈ type.fields, field.2 = .column → (record.lookup field.1).isSome = true

theorem readObject_membersText (hindent : ∀ c ∈ indent, isSpacing c = true)
    (hgap : ∀ c ∈ gap, isSpacing c = true) (hclose : ∀ c ∈ close, isSpacing c = true)
    {field : Field} {fields : List Field} (h : ReadsMembers type [] (field :: fields) record)
    (hcomplete : IsComplete type record) :
    readObject type (indent ++ '"' :: (membersText indent gap close field fields ++ rest)) =
      .ok (record, rest) := by
  have hmissing : (type.fields.find? fun field =>
      field.2 = .column && (record.lookup field.1).isNone) = none := by
    rw [List.find?_eq_none]
    intro field hfield hnone
    rw [Bool.and_eq_true, decide_eq_true_eq] at hnone
    have hread := hcomplete field hfield hnone.1
    rw [Option.isNone_iff_eq_none.mp hnone.2] at hread
    cases hread
  rw [readObject, dropSpacing_append hindent (by decide)]
  simp only [if_false, if_true, Char.reduceEq,
    readMembers_membersText hindent hgap hclose h, hmissing, bind, Except.bind, pure, Except.pure]

/-- A written object has its members between gaps, whichever way it is laid out. -/
theorem exists_layout (isPretty : Bool) : ∃ indent gap close : List Char,
    (∀ c ∈ indent, isSpacing c = true) ∧ (∀ c ∈ gap, isSpacing c = true) ∧
      (∀ c ∈ close, isSpacing c = true) ∧ ∀ field fields,
        (written isPretty (field :: fields)).toList =
          '{' :: (indent ++ '"' :: membersText indent gap close field fields) := by
  cases isPretty with
  | false =>
    refine ⟨[], [], [], by simp, by simp, by simp, fun field fields => ?_⟩
    rw [written, String.toList_ofList, if_neg (by decide), compact_cons]
  | true =>
    refine ⟨['\n', ' ', ' '], [' '], ['\n'], by simp [isSpacing], by simp [isSpacing],
      by simp [isSpacing], fun field fields => ?_⟩
    rw [written, String.toList_ofList, if_pos rfl, pretty_cons]

/-- A written object is read back as a record. -/
theorem readRecord_written (isPretty : Bool) {fields : List Field} (hne : fields ≠ [])
    (h : ReadsMembers type [] fields record) (hcomplete : IsComplete type record)
    (rest : List Char) :
    readRecord type ((written isPretty fields).toList ++ rest) = .ok (record, rest) := by
  obtain ⟨field, fields, rfl⟩ := List.exists_cons_of_ne_nil hne
  obtain ⟨indent, gap, close, hindent, hgap, hclose, hwritten⟩ := exists_layout isPretty
  have hobject : ∀ text : List Char, readRecord type ('{' :: text) = readObject type text := fun _ => rfl
  rw [hwritten, List.cons_append, List.append_assoc, List.cons_append, hobject]
  exact readObject_membersText hindent hgap hclose h hcomplete

end DialogueScript.Json
