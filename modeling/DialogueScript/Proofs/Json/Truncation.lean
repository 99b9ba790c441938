import DialogueScript.Proofs.Json.Documents
import DialogueScript.Proofs.Representation

/-! # Documents that end too early

Wherever the JSON of a value is cut off, even inside an escape or a number, decoding notices that
the document ends too early. -/
namespace DialogueScript

namespace Json

/-- A text is the beginning of another one, which goes on. -/
def IsCut (cut text : List Char) : Prop := cut <+: text ∧ cut ≠ text

variable {cut text rest before after : List Char}

/-! ### Where a text can be cut -/

theorem not_isCut_nil : ¬IsCut cut [] := fun h => h.2 (List.prefix_nil.mp h.1)

theorem isCut_cons_iff {c : Char} :
    IsCut cut (c :: text) ↔ cut = [] ∨ ∃ more, IsCut more text ∧ cut = c :: more := by
  rw [IsCut, List.prefix_cons_iff]
  constructor
  · rintro ⟨rfl | ⟨more, rfl, hmore⟩, hne⟩
    · exact Or.inl rfl
    · exact Or.inr ⟨more, ⟨hmore, fun h => hne (h ▸ rfl)⟩, rfl⟩
  · rintro (rfl | ⟨more, ⟨hmore, hne⟩, rfl⟩)
    · exact ⟨Or.inl rfl, by simp⟩
    · exact ⟨Or.inr ⟨more, rfl, hmore⟩, fun h => hne (List.cons.inj h).2⟩

theorem isCut_append_iff : IsCut cut (before ++ after) ↔
    IsCut cut before ∨ ∃ more, IsCut more after ∧ cut = before ++ more := by
  induction before generalizing cut with
  | nil => simp [not_isCut_nil]
  | cons c before ih =>
    rw [List.cons_append, isCut_cons_iff, isCut_cons_iff, or_assoc]
    refine or_congr_right ⟨?_, ?_⟩
    · rintro ⟨more, hmore, rfl⟩
      rcases ih.mp hmore with hbefore | ⟨last, hlast, rfl⟩
      · exact Or.inl ⟨more, hbefore, rfl⟩
      · exact Or.inr ⟨last, hlast, rfl⟩
    · rintro (⟨more, hmore, rfl⟩ | ⟨last, hlast, rfl⟩)
      · exact ⟨more, ih.mpr (Or.inl hmore), rfl⟩
      · exact ⟨before ++ last, ih.mpr (Or.inr ⟨last, hlast, rfl⟩), rfl⟩

theorem isCut_singleton_iff {c : Char} : IsCut cut [c] ↔ cut = [] := by
  rw [isCut_cons_iff]
  exact or_iff_left fun ⟨_, hmore, _⟩ => not_isCut_nil hmore

theorem IsCut.length_lt (h : IsCut cut text) : cut.length < text.length :=
  lt_of_le_of_ne h.1.length_le fun hlength => h.2 (h.1.eq_of_length hlength)

theorem IsGap.of_isCut {gap : List Char} (hgap : IsGap gap) (h : IsCut cut gap) : IsGap cut :=
  fun c hc => hgap c (h.1.subset hc)

/-- Before the character behind a gap there is only gap. -/
theorem isGap_of_isCut {gap : List Char} (hgap : IsGap gap) {c : Char} (h : IsCut cut (gap ++ [c])) :
    IsGap cut := by
  rcases isCut_append_iff.mp h with hbefore | ⟨more, hmore, rfl⟩
  · exact hgap.of_isCut hbefore
  · rwa [isCut_singleton_iff.mp hmore, List.append_nil]

/-- Behind a gap a text ends in the gap, or goes on with what comes next. -/
theorem dropSpacing_cut {gap : List Char} (hgap : IsGap gap) {c : Char} (hc : isSpacing c = false)
    (h : IsCut cut (gap ++ c :: rest)) :
    dropSpacing cut = [] ∨ ∃ more, IsCut more rest ∧ dropSpacing cut = c :: more := by
  rcases isCut_append_iff.mp h with hbefore | ⟨after, hafter, rfl⟩
  · exact Or.inl (dropSpacing_eq_nil_iff.mpr (hgap.of_isCut hbefore))
  · rcases isCut_cons_iff.mp hafter with rfl | ⟨more, hmore, rfl⟩
    · rw [List.append_nil]
      exact Or.inl (dropSpacing_eq_nil_iff.mpr hgap)
    · exact Or.inr ⟨more, hmore, dropSpacing_append hgap hc more⟩

/-! ### Tokens -/

theorem expectWord_cut {word : List Char} (h : IsCut cut word) :
    expectWord word cut = .error .truncated := by
  induction word generalizing cut with
  | nil => exact absurd h not_isCut_nil
  | cons c word ih =>
    rcases isCut_cons_iff.mp h with rfl | ⟨more, hmore, rfl⟩
    · rfl
    · rw [expectWord, expect, if_pos rfl]
      exact ih hmore

theorem utf8ByteSize_of_ascii (h : ∀ c ∈ text, c.utf8Size = 1) :
    (String.ofList text).utf8ByteSize = text.length := by
  induction text with
  | nil => rfl
  | cons c text ih =>
    rw [String.ofList_cons, String.utf8ByteSize_append, String.utf8ByteSize_singleton,
      h c (by simp), ih fun d hd => h d (by simp [hd]), List.length_cons, Nat.add_comm]

theorem utf8Size_hexFour {n : Nat} : ∀ c ∈ hexFour n, c.utf8Size = 1 := by
  have hdigit : ∀ m, (Nat.digitChar (m % 16)).utf8Size = 1 := by
    intro m
    have hsmall := Nat.mod_lt m (show 0 < 16 by decide)
    interval_cases m % 16 <;> rfl
  simp [hexFour, hdigit]

theorem readHexFour_cut {n : Nat} (h : IsCut cut (hexFour n)) :
    readHexFour cut = .error .truncated := by
  have hlength : cut.length < 4 := h.length_lt
  have hsize := utf8ByteSize_of_ascii fun c hc => utf8Size_hexFour c (h.1.subset hc)
  unfold readHexFour
  split
  · simp only [List.length_cons] at hlength
    omega
  · rw [if_pos (by rwa [hsize])]

/-- An escape is a letter or a code unit. -/
theorem escape_cases {c : Char} {escape : List Char} (h : writtenCharacter c = '\\' :: escape) :
    (∃ letter, escape = [letter]) ∨ escape = 'u' :: hexFour c.toNat := by
  unfold writtenCharacter at h
  split_ifs at h with hquote hbackslash hb hf hn hr ht hcontrol
  · exact Or.inl ⟨'"', (List.cons.inj h).2.symm⟩
  · exact Or.inl ⟨'\\', (List.cons.inj h).2.symm⟩
  · exact Or.inl ⟨'b', (List.cons.inj h).2.symm⟩
  · exact Or.inl ⟨'f', (List.cons.inj h).2.symm⟩
  · exact Or.inl ⟨'n', (List.cons.inj h).2.symm⟩
  · exact Or.inl ⟨'r', (List.cons.inj h).2.symm⟩
  · exact Or.inl ⟨'t', (List.cons.inj h).2.symm⟩
  · exact Or.inr (List.cons.inj h).2.symm
  · exact absurd (List.cons.inj h).1 hbackslash

/-- An escape that is cut off is too short, whether its character is wanted or not. -/
theorem readEscape_cut {c : Char} {escape : List Char} (hwritten : writtenCharacter c = '\\' :: escape)
    (h : IsCut cut escape) :
    readEscape cut = .error .truncated ∧ skipEscape cut = .error .truncated := by
  rcases escape_cases hwritten with ⟨letter, rfl⟩ | rfl
  · rw [isCut_singleton_iff.mp h]
    exact ⟨rfl, rfl⟩
  · rcases isCut_cons_iff.mp h with rfl | ⟨digits, hdigits, rfl⟩
    · exact ⟨rfl, rfl⟩
    · rw [readEscape, skipEscape, if_pos rfl, if_pos rfl, readCode, readHexFour_cut hdigits]
      exact ⟨rfl, rfl⟩

theorem readString_cutCharacter {c : Char} (h : IsCut cut (writtenCharacter c)) :
    readString cut = .error .truncated ∧ skipString cut = .error .truncated := by
  rcases writtenCharacter_cases c with ⟨hself, -⟩ | ⟨escape, hescape, -⟩
  · rw [hself, isCut_singleton_iff] at h
    rw [h]
    exact ⟨by rw [readString], by rw [skipString]⟩
  · rw [hescape] at h
    rcases isCut_cons_iff.mp h with rfl | ⟨more, hmore, rfl⟩
    · exact ⟨by rw [readString], by rw [skipString]⟩
    · obtain ⟨hread, hskip⟩ := readEscape_cut hescape hmore
      rw [readString_escape, skipString_escape, hread, hskip]
      exact ⟨rfl, rfl⟩

/-- A string that is cut off, given the text after its opening quote. -/
theorem readString_cut {value : List Char}
    (h : IsCut cut (value.flatMap writtenCharacter ++ ['"'])) :
    readString cut = .error .truncated ∧ skipString cut = .error .truncated := by
  induction value generalizing cut with
  | nil =>
    rw [isCut_singleton_iff.mp h]
    exact ⟨by rw [readString], by rw [skipString]⟩
  | cons c value ih =>
    rw [List.flatMap_cons, List.append_assoc] at h
    rcases isCut_append_iff.mp h with hfirst | ⟨more, hmore, rfl⟩
    · exact readString_cutCharacter hfirst
    · rw [readString_writtenCharacter, skipString_writtenCharacter, (ih hmore).1]
      exact ⟨rfl, (ih hmore).2⟩

/-- What is left of a written number is a smaller one, or nothing. -/
theorem eq_toDigits_of_isCut {n : Nat} (h : IsCut cut (Nat.toDigits 10 n)) :
    cut = [] ∨ ∃ m ≤ n, cut = Nat.toDigits 10 m := by
  induction n using Nat.strong_induction_on with
  | _ n ih =>
    rw [Nat.toDigits_eq_if (by decide)] at h
    split_ifs at h with hsmall
    · exact Or.inl (isCut_singleton_iff.mp h)
    · have hless : n / 10 < n := Nat.div_lt_self (by omega) (by decide)
      rcases isCut_append_iff.mp h with hfirst | ⟨more, hmore, rfl⟩
      · exact (ih (n / 10) hless hfirst).imp_right fun ⟨m, hm, hcut⟩ => ⟨m, by omega, hcut⟩
      · rw [isCut_singleton_iff.mp hmore, List.append_nil]
        exact Or.inr ⟨n / 10, hless.le, rfl⟩

/-! ### Values -/

variable {gap : List Char}

/-- What is left of a written value, behind a gap, when it is cut off. -/
inductive Remains (gap : List Char) : Scalar → List Char → Prop
  | nothing {scalar : Scalar} {cut : List Char} (h : dropSpacing cut = []) : Remains gap scalar cut
  | text {value : String} {cut more : List Char} (h : dropSpacing cut = '"' :: more)
      (hmore : IsCut more (value.toList.flatMap writtenCharacter ++ ['"'])) :
      Remains gap (.text value) cut
  | yes {cut more : List Char} (h : dropSpacing cut = 't' :: more)
      (hmore : IsCut more ['r', 'u', 'e']) : Remains gap (.flag true) cut
  | no {cut more : List Char} (h : dropSpacing cut = 'f' :: more)
      (hmore : IsCut more ['a', 'l', 's', 'e']) : Remains gap (.flag false) cut
  | number {n m : Nat} (h : m ≤ n) : Remains gap (.number n) (gap ++ Nat.toDigits 10 m)

theorem remains_of_isCut (hgap : IsGap gap) {scalar : Scalar}
    (h : IsCut cut (gap ++ writtenScalar scalar)) : Remains gap scalar cut := by
  cases scalar with
  | text value =>
    rcases dropSpacing_cut hgap (show isSpacing '"' = false from rfl) h with hnil | ⟨more, hmore, hcut⟩
    · exact .nothing hnil
    · exact .text hcut hmore
  | flag value =>
    cases value with
    | true =>
      rcases dropSpacing_cut hgap (show isSpacing 't' = false from rfl) h with
        hnil | ⟨more, hmore, hcut⟩
      · exact .nothing hnil
      · exact .yes hcut hmore
    | false =>
      rcases dropSpacing_cut hgap (show isSpacing 'f' = false from rfl) h with
        hnil | ⟨more, hmore, hcut⟩
      · exact .nothing hnil
      · exact .no hcut hmore
  | number n =>
    rcases isCut_append_iff.mp h with hbefore | ⟨more, hmore, rfl⟩
    · exact .nothing (dropSpacing_eq_nil_iff.mpr (hgap.of_isCut hbefore))
    · rcases eq_toDigits_of_isCut hmore with rfl | ⟨m, hm, rfl⟩
      · rw [List.append_nil]
        exact .nothing (dropSpacing_eq_nil_iff.mpr hgap)
      · exact .number hm

theorem endsNumber_of_isGap (h : IsGap text) : EndsNumber text := by
  cases text with
  | nil => exact endsNumber_nil
  | cons c text => exact endsNumber_space (h c (by simp)) text

/-- A number that is cut off may be read as a shorter one, but nothing follows it. -/
theorem readField_of_remains (hgap : IsGap gap) {scalar : Scalar} (h : Remains gap scalar cut)
    {type : FieldType} {value : FieldValue} (hreads : ReadsAs scalar type value) :
    readField type cut = .error .truncated ∨ ∃ shorter, readField type cut = .ok (shorter, []) := by
  cases h with
  | nothing h =>
    rw [readField, h]
    exact Or.inl rfl
  | text h hmore =>
    cases hreads
    simp only [readField, h, readText, (readString_cut hmore).1]
    exact Or.inl rfl
  | yes h hmore =>
    cases hreads
    simp only [readField, h, readFlag, expectWord_cut hmore]
    exact Or.inl rfl
  | no h hmore =>
    cases hreads
    simp only [readField, h, readFlag, expectWord_cut hmore]
    exact Or.inl rfl
  | number h =>
    cases hreads with
    | number hbound =>
    have hread := readField_written hgap endsNumber_nil (.number (lt_of_le_of_lt h hbound))
    rw [List.append_nil] at hread
    exact Or.inr ⟨_, hread⟩

theorem restOf_skipValue_of_remains (hgap : IsGap gap) {scalar : Scalar}
    (h : Remains gap scalar cut) :
    restOf (skipValue cut) = .error .truncated ∨ restOf (skipValue cut) = .ok [] := by
  cases h with
  | nothing h =>
    rw [restOf_skipValue, h]
    exact Or.inl rfl
  | text h hmore =>
    simp only [restOf_skipValue, h, skipPlain, (readString_cut hmore).2]
    exact Or.inl rfl
  | yes h hmore =>
    simp only [restOf_skipValue, h, skipPlain, expectWord_cut hmore]
    exact Or.inl rfl
  | no h hmore =>
    simp only [restOf_skipValue, h, skipPlain, expectWord_cut hmore]
    exact Or.inl rfl
  | @number n m h =>
    obtain ⟨left, hskip, hleft⟩ := skipValue_written hgap endsNumber_nil (.number m)
    have hrest : restOf (skipValue (gap ++ (Nat.toDigits 10 m ++ []))) = .ok [] :=
      (congrArg restOf hskip).trans (congrArg Except.ok hleft)
    rw [List.append_nil] at hrest
    exact Or.inr hrest

/-! ### Members -/

variable {type : RecordType} {seen record : Record}

/-- Behind its name a member ends before its colon, or it goes on with its value. -/
theorem expect_colon_cut (hgap : IsGap gap) {scalar : Scalar}
    (h : IsCut cut (':' :: (gap ++ writtenScalar scalar))) :
    expect ':' (dropSpacing cut) = .error .truncated ∨
      ∃ value, expect ':' (dropSpacing cut) = .ok value ∧ Remains gap scalar value := by
  rcases isCut_cons_iff.mp h with rfl | ⟨value, hvalue, rfl⟩
  · exact Or.inl rfl
  · exact Or.inr ⟨value, rfl, remains_of_isCut hgap hvalue⟩

/-- A member that is cut off in its value may be read, but then nothing follows it. -/
theorem readMember_cut (hgap : IsGap gap) {field : Field} {fields : List Field}
    (h : ReadsMembers type seen (field :: fields) record)
    (hcut : IsCut cut (memberText gap field)) :
    readMember type seen cut = .error .truncated ∨
      ∃ next, readMember type seen cut = .ok (next, []) := by
  have hshape : memberText gap field = field.1.toList.flatMap writtenCharacter ++ ['"'] ++
      ':' :: (gap ++ writtenScalar field.2) := by
    simp [memberText]
  rw [hshape] at hcut
  rcases isCut_append_iff.mp hcut with hname | ⟨more, hmore, rfl⟩
  · rw [readMember, (readString_cut hname).1]
    exact Or.inl rfl
  have hname : readString (field.1.toList.flatMap writtenCharacter ++ ['"'] ++ more) =
      .ok (field.1.toList, more) := by
    rw [List.append_assoc, List.singleton_append, readString_flatMap]
  have hcolon := expect_colon_cut hgap hmore
  cases h with
  | skip unknown others =>
    simp only [readMember, hname, bind, Except.bind, String.ofList_toList, unknown]
    rcases hcolon with hend | ⟨value, hvalue, hremains⟩
    · rw [hend]
      exact Or.inl rfl
    simp only [hvalue]
    rcases restOf_skipValue_of_remains hgap hremains with hend | hrest
    · rw [map_eq_error_iff.mp hend]
      exact Or.inl rfl
    · obtain ⟨left, hskip, hleft⟩ := map_ok hrest
      rw [hskip]
      exact Or.inr ⟨seen, congrArg (fun rest => Except.ok (seen, rest)) hleft⟩
  | keep known fresh reads others =>
    simp only [readMember, hname, bind, Except.bind, String.ofList_toList, known, fresh]
    rcases hcolon with hend | ⟨value, hvalue, hremains⟩
    · rw [hend]
      exact Or.inl rfl
    simp only [hvalue]
    rcases readField_of_remains hgap hremains reads with hend | ⟨shorter, hread⟩
    · rw [hend]
      exact Or.inl rfl
    · rw [hread]
      exact Or.inr ⟨_, rfl⟩

theorem readMembers_of_end (h : readMember type seen text = .error .truncated ∨
    ∃ next, readMember type seen text = .ok (next, rest)) (hrest : dropSpacing rest = []) :
    readMembers type seen text = .error .truncated := by
  rw [readMembers_eq_bind]
  rcases h with h | ⟨next, h⟩
  · rw [h]
    rfl
  · rw [h]
    simp only [bind, Except.bind, hrest]

variable {indent close : List Char}

theorem readMember_append (hgap : IsGap gap) (hrest : EndsNumber rest) {field : Field}
    {fields : List Field} (h : ReadsMembers type seen (field :: fields) record) :
    ∃ next, readMember type seen (memberText gap field ++ rest) = .ok (next, rest) ∧
      ReadsMembers type next fields record := by
  cases h with
  | skip unknown others => exact ⟨_, readMember_skip hgap hrest unknown, others⟩
  | keep known fresh reads others =>
    exact ⟨_, readMember_keep hgap hrest known fresh reads, others⟩

/-- Members that are cut off before the end of their closing brace. -/
theorem readMembers_cut (hindent : IsGap indent) (hgap : IsGap gap) (hclose : IsGap close)
    {field : Field} {fields : List Field} (h : ReadsMembers type seen (field :: fields) record)
    (hcut : IsCut cut (membersText indent gap close field fields)) :
    readMembers type seen cut = .error .truncated := by
  induction fields generalizing field seen cut with
  | nil =>
    rw [membersText] at hcut
    rcases isCut_append_iff.mp hcut with hmember | ⟨more, hmore, rfl⟩
    · exact readMembers_of_end (readMember_cut hgap h hmember) rfl
    · have hspace : IsGap more := isGap_of_isCut hclose hmore
      obtain ⟨next, hread, -⟩ := readMember_append hgap (endsNumber_of_isGap hspace) h
      exact readMembers_of_end (Or.inr ⟨next, hread⟩) (dropSpacing_eq_nil_iff.mpr hspace)
  | cons next fields ih =>
    rw [membersText] at hcut
    rcases isCut_append_iff.mp hcut with hmember | ⟨more, hmore, rfl⟩
    · exact readMembers_of_end (readMember_cut hgap h hmember) rfl
    rcases isCut_cons_iff.mp hmore with rfl | ⟨others, hothers, rfl⟩
    · obtain ⟨read, hread, -⟩ := readMember_append hgap endsNumber_nil h
      exact readMembers_of_end (Or.inr ⟨read, hread⟩) rfl
    · obtain ⟨read, hread, hreads⟩ :=
        readMember_append hgap (endsNumber_cons (c := ',') (by simp) others) h
      rcases dropSpacing_cut hindent (show isSpacing '"' = false from rfl) hothers with
        hend | ⟨name, hname, hquote⟩
      · rw [readMembers_eq_bind, hread]
        simp only [bind, Except.bind, show dropSpacing (',' :: others) = ',' :: others from rfl,
          if_neg (show ',' ≠ '}' by decide), if_true, hend]
      · rw [readMembers_next hread rfl hquote]
        exact ih hreads hname

/-! ### Documents -/

theorem readObject_cut (hindent : IsGap indent) (hgap : IsGap gap) (hclose : IsGap close)
    {field : Field} {fields : List Field} (h : ReadsMembers type [] (field :: fields) record)
    (hcut : IsCut cut (indent ++ '"' :: membersText indent gap close field fields)) :
    readObject type cut = .error .truncated := by
  rw [readObject_eq_bind, readBody]
  rcases dropSpacing_cut hindent (show isSpacing '"' = false from rfl) hcut with
    hend | ⟨name, hname, hquote⟩
  · rw [hend]
    rfl
  · simp only [hquote, if_neg (show '"' ≠ '}' by decide), if_true,
      readMembers_cut hindent hgap hclose h hname]
    rfl

/-- A written object that is cut off, of members of which a record could be read. -/
theorem decode_cut {α : Type} {build : Record → Except Rejection α} {fields : List Field}
    (isPretty : Bool) (hne : fields ≠ []) (h : ReadsMembers type [] fields record)
    {document : String} (hcut : IsCut document.toList (written isPretty fields).toList) :
    decode type build document = .error .truncated := by
  obtain ⟨field, fields, rfl⟩ := List.exists_cons_of_ne_nil hne
  obtain ⟨indent, gap, close, hindent, hgap, hclose, hwritten⟩ := exists_layout isPretty
  rw [hwritten] at hcut
  have hread : readRecord type document.toList = .error .truncated := by
    rcases isCut_cons_iff.mp hcut with hnil | ⟨object, hobject, hdocument⟩
    · rw [hnil]
      rfl
    · rw [hdocument]
      exact readObject_cut hindent hgap hclose h hobject
  rw [decode, hread]
  rfl

theorem isCut_of_append_eq {document rest whole : String} (h : document ++ rest = whole)
    (hne : rest ≠ "") : IsCut document.toList whole.toList := by
  have hwhole : document.toList ++ rest.toList = whole.toList := by
    rw [← h, String.toList_append]
  refine ⟨⟨rest.toList, hwhole⟩, fun hsame => hne ?_⟩
  rw [← hwhole, List.self_eq_append_right] at hsame
  exact String.toList_eq_nil_iff.mp hsame

end Json

/-- A written object is decoded only as a whole. -/
theorem Json.decode_written_eq_truncated_iff {α : Type} {type : RecordType}
    {build : Record → Except Rejection α} {fields : List Field} {record : Record} {value : α}
    (isPretty : Bool) (hne : fields ≠ []) (h : ReadsMembers type [] fields record)
    (hcomplete : IsComplete type record) (hbuild : build record = .ok value)
    {document rest : String} (hdocument : document ++ rest = written isPretty fields) :
    decode type build document = .error .truncated ↔ rest ≠ "" := by
  constructor
  · rintro htruncated rfl
    rw [String.append_empty] at hdocument
    rw [hdocument, decode_written isPretty hne h hcomplete hbuild] at htruncated
    cases htruncated
  · intro hrest
    exact decode_cut isPretty hne h (isCut_of_append_eq hdocument hrest)

/-- The JSON of a value is decoded only as a whole: of a document that lacks its end, wherever that
begins, nothing else is said than that it ends too early. -/
theorem decode_eq_truncated_iff (isPretty : Bool) :
    (∀ identifier, Identifier.Obtained identifier → ∀ document rest,
      document ++ rest = (Lexeme.identifier identifier).render isPretty .json →
        (Identifier.decode document = .error .truncated ↔ rest ≠ "")) ∧
    ∀ run, Run.Obtained run → ∀ document rest,
      document ++ rest = (Lexeme.run run).render isPretty .json →
        (Run.decode document = .error .truncated ↔ rest ≠ "") := by
  constructor
  · intro identifier hobtained document rest hdocument
    obtain ⟨verbatim, column, htext⟩ := Identifier.exists_ofText_of_obtained hobtained
    exact Json.decode_written_eq_truncated_iff isPretty (by simp [Lexeme.fields])
      (identifier.readsMembers_fields (Identifier.first_lt htext))
      (Json.isComplete_of_lookup (by simp [Identifier.recordType]) rfl)
      (Identifier.ofDraft_draft htext) hdocument
  · intro run hobtained document rest hdocument
    obtain ⟨draft, hdraft⟩ := Run.exists_ofDraft_of_obtained hobtained
    exact Json.decode_written_eq_truncated_iff isPretty (by simp [Lexeme.fields])
      (run.readsMembers_fields (Run.first_lt hdraft))
      (Json.isComplete_of_lookup (by simp [Run.recordType]) rfl) (Run.ofDraft_draft hdraft)
      hdocument

/-- Cut off inside an escape of a member that is passed over, and inside a number. -/
theorem decode_eq_truncated_iff_escape :
    Identifier.ofText "a\x01" 12 = .ok ⟨"a\x01", "a\x01", ⟨12, 13⟩⟩ ∧
    "\x7b\"kind\":\"identifier\",\"verbatim\":\"a\\u0001\",\"normalized\":\"a\\u00" ++
        "01\",\"from_column\":12,\"to_column\":13\x7d" =
      (Lexeme.identifier ⟨"a\x01", "a\x01", ⟨12, 13⟩⟩).render false .json ∧
    Identifier.decode
        "\x7b\"kind\":\"identifier\",\"verbatim\":\"a\\u0001\",\"normalized\":\"a\\u00" =
      .error .truncated ∧
    Run.ofDraft ⟨true, false, true, some "ab", some " ", 12⟩ =
      .ok ⟨true, false, true, "ab", " ", ⟨12, 13⟩⟩ ∧
    "\x7b\"kind\":\"run\",\"bold\":true,\"italic\":false,\"code\":true," ++
        "\"verbatim\":\"ab\",\"plain_text\":\" \",\"from_column\":1" ++ "2,\"to_column\":13\x7d" =
      (Lexeme.run ⟨true, false, true, "ab", " ", ⟨12, 13⟩⟩).render false .json ∧
    Run.decode ("\x7b\"kind\":\"run\",\"bold\":true,\"italic\":false,\"code\":true," ++
        "\"verbatim\":\"ab\",\"plain_text\":\" \",\"from_column\":1") =
      .error .truncated := by
  have hidentifier : Identifier.ofText "a\x01" 12 = .ok ⟨"a\x01", "a\x01", ⟨12, 13⟩⟩ := by
    decide +kernel
  have hescape : "\x7b\"kind\":\"identifier\",\"verbatim\":\"a\\u0001\",\"normalized\":\"a\\u00" ++
        "01\",\"from_column\":12,\"to_column\":13\x7d" =
      (Lexeme.identifier ⟨"a\x01", "a\x01", ⟨12, 13⟩⟩).render false .json := by
    decide +kernel
  have hrun : Run.ofDraft ⟨true, false, true, some "ab", some " ", 12⟩ =
      .ok ⟨true, false, true, "ab", " ", ⟨12, 13⟩⟩ := by
    decide +kernel
  have hnumber : "\x7b\"kind\":\"run\",\"bold\":true,\"italic\":false,\"code\":true," ++
        "\"verbatim\":\"ab\",\"plain_text\":\" \",\"from_column\":1" ++ "2,\"to_column\":13\x7d" =
      (Lexeme.run ⟨true, false, true, "ab", " ", ⟨12, 13⟩⟩).render false .json := by
    decide +kernel
  obtain ⟨hidentifiers, hruns⟩ := decode_eq_truncated_iff false
  exact ⟨hidentifier, hescape, (hidentifiers _ (.text hidentifier) _ _ hescape).mpr (by decide),
    hrun, hnumber, (hruns _ (.draft hrun) _ _ hnumber).mpr (by decide)⟩

end DialogueScript
