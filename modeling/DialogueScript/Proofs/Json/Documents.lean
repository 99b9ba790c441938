import DialogueScript.Decoding
import DialogueScript.Proofs.Entries
import DialogueScript.Proofs.Json.Fields

/-! # Documents that hold a record

A record is read from exactly those objects whose members give each of its fields at most once, and
from the arrays of its fields. -/
namespace DialogueScript.Json

/-! ### Objects and arrays -/

def AreNamed (written : List (List Char × List Char)) (members : List (String × List Char)) : Prop :=
  List.Forall₂ (fun raw member => Spells raw.1 member.1.toList ∧ raw.2 = member.2)
    written members

/-- An object of these members, in this order: of a name and of what its value is written as. -/
def IsObject (members : List (String × List Char)) (text : List Char) : Prop :=
  ∃ written body, IsJson (.members written) body ∧ AreNamed written members ∧
    text = '{' :: (body ++ ['}'])

def IsArray (values : List (List Char)) (text : List Char) : Prop :=
  ∃ body, IsJson (.elements values) body ∧ text = '[' :: (body ++ [']'])

/-- There is nothing but space around such a text. -/
def IsDocument (isValue : List Char → Prop) (document : String) : Prop :=
  ∃ before text after, IsGap before ∧ isValue text ∧ IsGap after ∧
    document.toList = before ++ (text ++ after)

variable {type : RecordType} {seen record : Record} {text rest : List Char}

theorem IsGap.append {before after : List Char} (hbefore : IsGap before) (hafter : IsGap after) :
    IsGap (before ++ after) := by
  intro c hc
  rcases List.mem_append.mp hc with hc | hc
  · exact hbefore c hc
  · exact hafter c hc

/-! ### Members -/

inductive Takes (type : RecordType) (seen : Record) : String × List Char → Record → Prop
  | skip {name : String} {value : List Char} (hunknown : type.fields.lookup name = none) :
      Takes type seen (name, value) seen
  | keep {name : String} {value : List Char} {field : FieldType} {read : FieldValue}
      (hknown : type.fields.lookup name = some field) (hfresh : seen.lookup name = none)
      (hfield : IsField field value read) : Takes type seen (name, value) ((name, read) :: seen)

inductive Collects (type : RecordType) : Record → List (String × List Char) → Record → Prop
  | nil {seen : Record} : Collects type seen [] seen
  | cons {seen next record : Record} {member : String × List Char}
      {members : List (String × List Char)} (hfirst : Takes type seen member next)
      (hothers : Collects type next members record) : Collects type seen (member :: members) record

/-- A member starts with the quote of its name, behind any gap, and goes on with any gap. -/
theorem exists_member_of_readMember (h : readMember type seen text = .ok (record, rest)) :
    ∃ raw member body, Spells raw.1 (Prod.fst member).toList ∧ raw.2 = member.2 ∧
      Takes type seen member record ∧ text = body ++ rest ∧ ∀ before after, IsGap before →
        IsGap after → IsJson (.member raw) (before ++ '"' :: (body ++ after)) := by
  obtain ⟨⟨spelled, named⟩, hname, hread⟩ := bind_eq_ok_iff.mp h
  obtain ⟨name, hspells, rfl⟩ := readString_eq_ok_iff.mp hname
  -- Known or not, the name is followed by a colon and by a value behind a gap.
  have hmember : ∀ between space value : List Char, IsGap between → IsGap space →
      IsJson .value value → ∀ before after, IsGap before → IsGap after →
        IsJson (.member (name, value)) (before ++ '"' ::
          (name ++ '"' :: (between ++ ':' :: (space ++ value)) ++ after)) := by
    intro between space value hbetween hspace hvalue before after hbefore hafter
    simpa using IsJson.member hbefore hspells.isBody hbetween (.element hspace hvalue hafter)
  have hspelled : Spells name (String.ofList spelled).toList := by rwa [String.toList_ofList]
  dsimp only at hread
  split at hread
  · rename_i hunknown
    obtain ⟨valued, hcolon, hvalued⟩ := bind_eq_ok_iff.mp hread
    obtain ⟨⟨left, hleft⟩, hskip, hend⟩ := bind_eq_ok_iff.mp hvalued
    cases hend
    obtain ⟨between, hbetween, -, rfl⟩ := dropSpacing_eq_cons_iff.mp (expect_eq_ok_iff.mp hcolon)
    have hrest : restOf (skipValue valued) = .ok left := by
      rw [hskip]
      rfl
    obtain ⟨space, value, hspace, hvalue, rfl⟩ := (startsWith_of_skip valued left).1 hrest
    exact ⟨(name, value), (String.ofList spelled, value), _, hspelled, rfl, .skip hunknown,
      by simp, hmember between space value hbetween hspace hvalue⟩
  · rename_i field hknown
    split_ifs at hread with hseen
    obtain ⟨valued, hcolon, hvalued⟩ := bind_eq_ok_iff.mp hread
    obtain ⟨⟨read, left⟩, hfield, hend⟩ := bind_eq_ok_iff.mp hvalued
    cases hend
    obtain ⟨between, hbetween, -, rfl⟩ := dropSpacing_eq_cons_iff.mp (expect_eq_ok_iff.mp hcolon)
    obtain ⟨space, value, hspace, hvalue, rfl⟩ := isField_of_readField hfield
    exact ⟨(name, value), (String.ofList spelled, value), _, hspelled, rfl,
      .keep hknown (Option.not_isSome_iff_eq_none.mp hseen) hvalue, by simp,
      hmember between space value hbetween hspace hvalue.isJson⟩

/-- A member is read, given what follows it. -/
theorem readMember_of_takes {raw : List Char × List Char} {member : String × List Char}
    (hjson : IsJson (.member raw) text) (hname : Spells raw.1 member.1.toList)
    (hvalue : raw.2 = member.2) (htakes : Takes type seen member record) :
    ∃ before body, IsGap before ∧ text = before ++ '"' :: body ∧ ∀ c ∈ [',', ']', '}'], ∀ rest,
      ∃ left, readMember type seen (body ++ c :: rest) = .ok (record, left) ∧
        dropSpacing left = c :: rest := by
  obtain ⟨memberName, value⟩ := member
  cases hjson with
  | @member before name between _ element hbefore hbody hbetween helement =>
  cases hvalue
  cases helement with
  | @element space _ after hspace hjson hafter =>
  refine ⟨before, name ++ '"' :: (between ++ ':' :: (space ++ (value ++ after))), hbefore, rfl,
    fun c hc rest => ⟨after ++ c :: rest, ?_, dropSpacing_append hafter (isSpacing_closer hc) rest⟩⟩
  have hread : ∀ named, readString (name ++ '"' :: named) = .ok (memberName.toList, named) :=
    fun named => readString_eq_ok_iff.mpr ⟨name, hname, rfl⟩
  have hcolon : ∀ valued, expect ':' (dropSpacing (between ++ ':' :: valued)) = .ok valued := by
    intro valued
    rw [dropSpacing_append hbetween rfl]
    rfl
  have hends := endsNumber_gap hafter hc rest
  have hshape : name ++ '"' :: (between ++ ':' :: (space ++ (value ++ after))) ++ c :: rest =
      name ++ '"' :: (between ++ ':' :: (space ++ (value ++ (after ++ c :: rest)))) := by simp
  rw [hshape, readMember, hread]
  cases htakes with
  | skip hunknown =>
    obtain ⟨⟨left, hleft⟩, hskip, hrest⟩ := map_ok (hjson.isSkipped space _ hspace hends)
    simp only [bind, Except.bind, String.ofList_toList, hunknown, hcolon, hskip]
    exact congrArg (fun left => Except.ok (seen, left)) hrest
  | keep hknown hfresh hfield =>
    have hfield := readField_append hfield hspace hends
    simp only [bind, Except.bind, String.ofList_toList, hknown, hfresh, hcolon, hfield]
    rfl

theorem exists_members_of_readMembers (h : readMembers type seen text = .ok (record, rest)) :
    ∃ raw written members body, AreNamed (raw :: written) members ∧
      Collects type seen members record ∧ text = body ++ '}' :: rest ∧
      ∀ before, IsGap before → IsJson (.members (raw :: written)) (before ++ '"' :: body) := by
  fun_induction readMembers type seen text with
  | case1 => cases h
  | case2 => cases h
  | case3 =>
    rename_i hmember after hclose
    obtain ⟨raw, member, body, hname, hvalue, htakes, rfl, hjson⟩ :=
      exists_member_of_readMember hmember
    obtain ⟨gap, hgap, -, rfl⟩ := dropSpacing_eq_cons_iff.mp hclose
    cases h
    refine ⟨raw, [], [member], body ++ gap, .cons ⟨hname, hvalue⟩ .nil, .cons htakes .nil, by simp,
      fun before hbefore => ?_⟩
    exact .lastMember (hjson before gap hbefore hgap)
  | case4 => cases h
  | case5 =>
    rename_i hmember more after hcomma _ hquote _ ih
    obtain ⟨raw, member, body, hname, hvalue, htakes, rfl, hjson⟩ :=
      exists_member_of_readMember hmember
    obtain ⟨gap, hgap, -, rfl⟩ := dropSpacing_eq_cons_iff.mp hcomma
    obtain ⟨space, hspace, -, rfl⟩ := dropSpacing_eq_cons_iff.mp hquote
    obtain ⟨next, written, members, others, hnamed, hcollects, rfl, hothers⟩ := ih h
    refine ⟨raw, next :: written, member :: members,
      body ++ (gap ++ ',' :: (space ++ '"' :: others)), .cons ⟨hname, hvalue⟩ hnamed,
      .cons htakes hcollects, by simp, fun before hbefore => ?_⟩
    have hjoined := IsJson.nextMember (hjson before gap hbefore hgap) (hothers space hspace)
    simpa using hjoined
  | case6 => cases h
  | case7 => cases h

theorem readMembers_of_collects {written : List (List Char × List Char)}
    {members : List (String × List Char)} (hne : written ≠ [])
    (hjson : IsJson (.members written) text) (hnamed : AreNamed written members)
    (hcollects : Collects type seen members record) :
    ∃ before body, IsGap before ∧ text = before ++ '"' :: body ∧
      ∀ rest, readMembers type seen (body ++ '}' :: rest) = .ok (record, rest) := by
  induction hcollects generalizing written text with
  | nil =>
    cases hnamed
    exact absurd rfl hne
  | cons hfirst hothers ih =>
    cases hnamed with
    | cons hname hnamed =>
    cases hjson with
    | lastMember hmember =>
      cases hnamed
      cases hothers
      obtain ⟨before, body, hbefore, rfl, hread⟩ :=
        readMember_of_takes hmember hname.1 hname.2 hfirst
      refine ⟨before, body, hbefore, rfl, fun rest => ?_⟩
      obtain ⟨left, hleft, hclose⟩ := hread '}' (by simp) rest
      exact readMembers_last hleft hclose
    | @nextMember _ _ text others _ hmember hjson =>
      obtain ⟨before, body, hbefore, rfl, hread⟩ :=
        readMember_of_takes hmember hname.1 hname.2 hfirst
      obtain ⟨gap, more, hgap, rfl, hmore⟩ := ih (by simp) hjson hnamed
      refine ⟨before, body ++ ',' :: (gap ++ '"' :: more), hbefore, by simp, fun rest => ?_⟩
      obtain ⟨left, hleft, hcomma⟩ := hread ',' (by simp) (gap ++ '"' :: (more ++ '}' :: rest))
      have hquote := dropSpacing_append hgap (show isSpacing '"' = false from rfl)
        (more ++ '}' :: rest)
      have hshape : body ++ ',' :: (gap ++ '"' :: more) ++ '}' :: rest =
          body ++ ',' :: (gap ++ '"' :: (more ++ '}' :: rest)) := by simp
      rw [hshape, readMembers_next hleft hcomma hquote]
      exact hmore rest

/-! ### Objects -/

theorem isComplete_iff : IsComplete type record ↔ (type.fields.find? fun field =>
    field.2 = .column && (record.lookup field.1).isNone) = none := by
  simp only [IsComplete, List.find?_eq_none, Bool.and_eq_true, decide_eq_true_eq, not_and,
    Option.isNone_iff_eq_none, Option.isSome_iff_ne_none, ne_eq]

def readBody (type : RecordType) (text : List Char) : Except DecodeError (Record × List Char) :=
  match dropSpacing text with
  | [] => .error .truncated
  | c :: after =>
    if c = '}' then .ok ([], after)
    else if c = '"' then readMembers type [] after
    else .error .malformed

def requireComplete (type : RecordType) (read : Record × List Char) :
    Except DecodeError (Record × List Char) :=
  match type.fields.find? fun field => field.2 = .column && (read.1.lookup field.1).isNone with
  | some field => .error (.misfit (.missingField field.1))
  | none => .ok read

theorem requireComplete_eq_ok_iff {read found : Record × List Char} :
    requireComplete type read = .ok found ↔ IsComplete type read.1 ∧ read = found := by
  rw [isComplete_iff]
  unfold requireComplete
  split
  · simp [*]
  · simp [*]

theorem readObject_eq_bind :
    readObject type text = readBody type text >>= requireComplete type := by
  rw [readObject, readBody]
  cases dropSpacing text with
  | nil => rfl
  | cons c after => dsimp only; split_ifs <;> rfl

theorem readObject_eq_ok_iff_readBody : readObject type text = .ok (record, rest) ↔
    readBody type text = .ok (record, rest) ∧ IsComplete type record := by
  rw [readObject_eq_bind, bind_eq_ok_iff]
  constructor
  · rintro ⟨read, hread, hrequired⟩
    obtain ⟨hcomplete, rfl⟩ := requireComplete_eq_ok_iff.mp hrequired
    exact ⟨hread, hcomplete⟩
  · rintro ⟨hread, hcomplete⟩
    exact ⟨(record, rest), hread, requireComplete_eq_ok_iff.mpr ⟨hcomplete, rfl⟩⟩

theorem readBody_eq_ok_iff : readBody type text = .ok (record, rest) ↔
    ∃ members body, IsObject members ('{' :: body) ∧ Collects type [] members record ∧
      text = body ++ rest := by
  constructor
  · intro h
    rw [readBody] at h
    split at h
    · cases h
    · rename_i c after hstart
      obtain ⟨gap, hgap, -, rfl⟩ := dropSpacing_eq_cons_iff.mp hstart
      split_ifs at h with hbrace hquote
      · cases h
        exact ⟨[], gap ++ ['}'], ⟨[], gap, .noMembers hgap, .nil, rfl⟩, .nil, by simp [hbrace]⟩
      · obtain ⟨raw, written, members, body, hnamed, hcollects, rfl, hjson⟩ :=
          exists_members_of_readMembers h
        exact ⟨members, _, ⟨raw :: written, _, hjson gap hgap, hnamed, rfl⟩, hcollects,
          by simp [hquote]⟩
  · rintro ⟨members, body, ⟨written, inner, hjson, hnamed, hbody⟩, hcollects, rfl⟩
    rw [List.cons.injEq] at hbody
    obtain ⟨-, rfl⟩ := hbody
    rw [List.append_assoc, List.singleton_append, readBody]
    by_cases hne : written = []
    · subst hne
      cases hnamed
      cases hcollects
      cases hjson with
      | noMembers hgap =>
        simp only [dropSpacing_append hgap (show isSpacing '}' = false from rfl) rest, if_true]
    · obtain ⟨before, body, hbefore, rfl, hread⟩ :=
        readMembers_of_collects hne hjson hnamed hcollects
      have hquote := dropSpacing_append hbefore (show isSpacing '"' = false from rfl)
        (body ++ '}' :: rest)
      rw [List.append_assoc, List.cons_append, hquote]
      exact hread rest

/-! ### Arrays -/

inductive Fills : List (String × FieldType) → List (List Char) → Record → Prop
  | nil : Fills [] [] []
  | cons {name : String} {type : FieldType} {written : List Char} {value : FieldValue}
      {fields : List (String × FieldType)} {values : List (List Char)} {record : Record}
      (hfirst : IsField type written value) (hothers : Fills fields values record) :
      Fills ((name, type) :: fields) (written :: values) ((name, value) :: record)

inductive Leads : Bool → List Char → Prop
  | first : Leads true []
  | comma {gap : List Char} (hgap : IsGap gap) : Leads false (gap ++ [','])

variable {isFirst : Bool} {lead : List Char} {fields : List (String × FieldType)}
  {values : List (List Char)}

theorem exists_lead_of_nextElement? {element : List Char}
    (h : nextElement? isFirst text = .ok (some element)) :
    ∃ lead gap, Leads isFirst lead ∧ IsGap gap ∧ text = lead ++ (gap ++ element) := by
  rw [nextElement?] at h
  split at h
  · cases h
  rename_i c after hstart
  obtain ⟨gap, hgap, -, rfl⟩ := dropSpacing_eq_cons_iff.mp hstart
  split_ifs at h with hbracket hfirst hcomma
  · cases h
  · cases h
    rw [hfirst]
    exact ⟨[], gap, .first, hgap, rfl⟩
  · split at h
    · cases h
    rename_i d more hmore
    obtain ⟨space, hspace, -, rfl⟩ := dropSpacing_eq_cons_iff.mp hmore
    split_ifs at h with hclose
    cases h
    rw [Bool.not_eq_true] at hfirst
    rw [hfirst]
    exact ⟨_, space, .comma hgap, hspace, by simp [hcomma]⟩

theorem nextElement?_of_leads (h : Leads isFirst lead) {c : Char} {after : List Char}
    (hstart : dropSpacing text = c :: after) (hc : c ≠ ']') :
    nextElement? isFirst (lead ++ text) = .ok (some (dropSpacing text)) := by
  cases h with
  | first =>
    rw [List.nil_append, nextElement?, hstart]
    simp only [if_neg hc, if_true]
  | comma hgap =>
    rw [List.append_assoc, List.singleton_append, nextElement?, dropSpacing_append hgap rfl]
    simp only [if_neg (show ',' ≠ ']' by decide), if_true, hstart, if_neg hc]
    rfl

theorem readField_dropSpacing (type : FieldType) (text : List Char) :
    readField type (dropSpacing text) = readField type text := by
  have hagain : dropSpacing (dropSpacing text) = dropSpacing text := by
    cases hstart : dropSpacing text with
    | nil => rfl
    | cons c after =>
      obtain ⟨gap, -, hc, -⟩ := dropSpacing_eq_cons_iff.mp hstart
      exact dropSpacing_append (show ∀ d ∈ [], isSpacing d = true by simp) hc after
  rw [readField, hagain, readField]

theorem exists_elements_of_readElements (hne : fields ≠ [])
    (h : readElements type isFirst fields text = .ok (record, rest)) :
    ∃ lead values body, Leads isFirst lead ∧ Fills fields values record ∧
      IsJson (.elements values) body ∧ text = lead ++ (body ++ ']' :: rest) := by
  induction fields generalizing isFirst text record with
  | nil => exact absurd rfl hne
  | cons field fields ih =>
    obtain ⟨name, field⟩ := field
    rw [readElements] at h
    obtain ⟨element?, hnext, hrest⟩ := bind_eq_ok_iff.mp h
    cases element? with
    | none => cases hrest
    | some element =>
      obtain ⟨lead, space, hlead, hspace, rfl⟩ := exists_lead_of_nextElement? hnext
      obtain ⟨⟨value, left⟩, hread, hmore⟩ := bind_eq_ok_iff.mp hrest
      obtain ⟨⟨others, final⟩, hothers, hend⟩ := bind_eq_ok_iff.mp hmore
      cases hend
      obtain ⟨gap, written, hgap, hfield, rfl⟩ := isField_of_readField hread
      have helement : ∀ after, IsGap after →
          IsJson (.element written) (space ++ gap ++ (written ++ after)) :=
        fun after hafter => .element (hspace.append hgap) hfield.isJson hafter
      cases fields with
      | nil =>
        rw [readElements] at hothers
        obtain ⟨closed, hclose, hend⟩ := bind_eq_ok_iff.mp hothers
        cases hend
        obtain ⟨after, hafter, -, rfl⟩ := dropSpacing_eq_cons_iff.mp (expect_eq_ok_iff.mp hclose)
        exact ⟨lead, _, _, hlead, .cons hfield .nil, .lastElement (helement after hafter), by simp⟩
      | cons next fields =>
        obtain ⟨comma, values, body, hcomma, hfills, hjson, rfl⟩ := ih (by simp) hothers
        cases hcomma with
        | comma hafter =>
        cases hfills with
        | cons hfirst hfills =>
        exact ⟨lead, _, _, hlead, .cons hfield (.cons hfirst hfills),
          .nextElement (helement _ hafter) hjson, by simp⟩

/-- The first of some elements is read, and what follows it begins behind a gap. -/
theorem readElements_cons {field : FieldType} {value : FieldValue} {written element : List Char}
    (hlead : Leads isFirst lead) (hfield : IsField field written value)
    (helement : IsJson (.element written) element) {c : Char} (hc : c ∈ [',', ']', '}']) :
    ∃ after, IsGap after ∧ ∀ (type : RecordType) name fields more,
      readElements type isFirst ((name, field) :: fields) (lead ++ (element ++ c :: more)) =
        (readElements type false fields (after ++ c :: more)).map fun read =>
          ((name, value) :: read.1, read.2) := by
  cases helement with
  | @element before _ after hbefore hvalue hafter =>
  refine ⟨after, hafter, fun type name fields more => ?_⟩
  have hends := endsNumber_gap hafter hc more
  obtain ⟨d, rest, hstart, hd⟩ := exists_start_of_skipValue (hvalue.isSkipped before _ hbefore hends)
  have hshape : before ++ (written ++ after) ++ c :: more =
      before ++ (written ++ (after ++ c :: more)) := by simp
  rw [hshape, readElements, nextElement?_of_leads hlead hstart hd]
  simp only [bind, Except.bind, readField_dropSpacing, readField_append hfield hbefore hends]
  cases readElements type false fields (after ++ c :: more) <;> rfl

theorem readElements_of_fills (hne : fields ≠ []) {body : List Char} (hlead : Leads isFirst lead)
    (hfills : Fills fields values record) (hjson : IsJson (.elements values) body)
    (rest : List Char) : readElements type isFirst fields (lead ++ (body ++ ']' :: rest)) =
      .ok (record, rest) := by
  induction hfills generalizing isFirst lead body with
  | nil => exact absurd rfl hne
  | cons hfirst hothers ih =>
    cases hjson with
    | lastElement helement =>
      cases hothers
      obtain ⟨after, hafter, hread⟩ := readElements_cons hlead hfirst helement (show ']' ∈ _ by simp)
      rw [hread, readElements, dropSpacing_append hafter rfl]
      rfl
    | nextElement helement hjson =>
      obtain ⟨after, hafter, hread⟩ := readElements_cons hlead hfirst helement (show ',' ∈ _ by simp)
      cases hothers with
      | cons hnext hothers =>
      have hrest := ih (by simp) (.comma hafter) hjson
      rw [List.append_assoc, List.singleton_append] at hrest
      rw [List.append_assoc, List.cons_append, hread, hrest]
      rfl

/-! ### Records -/

inductive IsRecord (type : RecordType) (record : Record) : List Char → Prop
  | object {members : List (String × List Char)} {text : List Char} (hobject : IsObject members text)
      (hcollects : Collects type [] members record) (hcomplete : IsComplete type record) :
      IsRecord type record text
  | array {values : List (List Char)} {text : List Char} (harray : IsArray values text)
      (hfills : Fills type.fields values record) : IsRecord type record text

theorem readRecord_eq_ok_iff (hne : type.fields ≠ []) : readRecord type text = .ok (record, rest) ↔
    ∃ gap body, IsGap gap ∧ IsRecord type record body ∧ text = gap ++ (body ++ rest) := by
  constructor
  · intro h
    rw [readRecord] at h
    split at h
    · cases h
    rename_i c after hstart
    obtain ⟨gap, hgap, -, rfl⟩ := dropSpacing_eq_cons_iff.mp hstart
    split_ifs at h with hbrace hbracket
    · obtain ⟨hbody, hcomplete⟩ := readObject_eq_ok_iff_readBody.mp h
      obtain ⟨members, body, hobject, hcollects, rfl⟩ := readBody_eq_ok_iff.mp hbody
      exact ⟨gap, _, hgap, .object hobject hcollects hcomplete, by simp [hbrace]⟩
    · obtain ⟨lead, values, body, hlead, hfills, hjson, rfl⟩ := exists_elements_of_readElements hne h
      cases hlead
      exact ⟨gap, _, hgap, .array ⟨body, hjson, rfl⟩ hfills, by simp [hbracket]⟩
    · exact absurd h refuse_ne_ok
  · rintro ⟨gap, body, hgap, hrecord, rfl⟩
    cases hrecord with
    | object hobject hcollects hcomplete =>
      obtain ⟨written, inner, hjson, hnamed, rfl⟩ := hobject
      rw [readRecord, List.cons_append, dropSpacing_append hgap rfl]
      exact readObject_eq_ok_iff_readBody.mpr ⟨readBody_eq_ok_iff.mpr
        ⟨_, inner ++ ['}'], ⟨written, inner, hjson, hnamed, rfl⟩, hcollects, rfl⟩, hcomplete⟩
    | array harray hfills =>
      obtain ⟨inner, hjson, rfl⟩ := harray
      rw [readRecord, List.cons_append, List.append_assoc, List.singleton_append,
        dropSpacing_append hgap rfl]
      exact readElements_of_fills hne .first hfills hjson rest

theorem isEmpty_dropSpacing_iff : (dropSpacing text).isEmpty = true ↔ IsGap text := by
  rw [List.isEmpty_iff, dropSpacing_eq_nil_iff]

/-- A document is decoded exactly if it holds a record and nothing else, and the record builds the
value. -/
theorem decode_eq_ok_iff {α : Type} (hne : type.fields ≠ []) {build : Record → Except Rejection α}
    {document : String} {value : α} : decode type build document = .ok value ↔
      ∃ record, IsDocument (IsRecord type record) document ∧ build record = .ok value := by
  rw [decode, bind_eq_ok_iff]
  constructor
  · rintro ⟨⟨record, after⟩, hread, h⟩
    obtain ⟨built, hbuilt, h⟩ := bind_eq_ok_iff.mp h
    obtain ⟨before, body, hbefore, hrecord, hdocument⟩ := (readRecord_eq_ok_iff hne).mp hread
    split_ifs at h with hafter
    cases h
    exact ⟨record, ⟨before, body, after, hbefore, hrecord, isEmpty_dropSpacing_iff.mp hafter,
      hdocument⟩, mapError_eq_ok_iff.mp hbuilt⟩
  · rintro ⟨record, ⟨before, body, after, hbefore, hrecord, hafter, hdocument⟩, hbuild⟩
    refine ⟨(record, after), (readRecord_eq_ok_iff hne).mpr ⟨before, body, hbefore, hrecord,
      hdocument⟩, ?_⟩
    exact bind_eq_ok_iff.mpr ⟨value, mapError_eq_ok_iff.mpr hbuild,
      if_pos (isEmpty_dropSpacing_iff.mpr hafter)⟩

/-! ### Members by their names -/

def given (name : String) (members : List (String × List Char)) : List (List Char) :=
  members.filterMap fun member => if member.1 = name then some member.2 else none

variable {members : List (String × List Char)}

theorem given_cons_self (name : String) (value : List Char) :
    given name ((name, value) :: members) = value :: given name members := by
  simp [given]

theorem given_cons_of_ne {name other : String} (hne : other ≠ name) (value : List Char) :
    given name ((other, value) :: members) = given name members := by
  simp [given, hne]

theorem lookup_of_collects (hcollects : Collects type seen members record) {name : String}
    {field : FieldType} (hknown : type.fields.lookup name = some field) :
    given name members = [] ∧ record.lookup name = seen.lookup name ∨
      ∃ value read, given name members = [value] ∧ IsField field value read ∧
        seen.lookup name = none ∧ record.lookup name = some read := by
  induction hcollects with
  | nil => exact Or.inl ⟨rfl, rfl⟩
  | cons hfirst _ ih =>
    cases hfirst with
    | @skip other value hunknown =>
      have hne : other ≠ name := by
        rintro rfl
        rw [hunknown] at hknown
        cases hknown
      rw [given_cons_of_ne hne]
      exact ih
    | @keep other value wanted read hwanted hfresh hfield =>
      by_cases hsame : other = name
      · subst hsame
        rw [hwanted, Option.some.injEq] at hknown
        subst hknown
        rw [List.lookup_cons_self] at ih
        rcases ih with ⟨hnone, hread⟩ | ⟨_, _, _, _, hnever, _⟩
        · rw [given_cons_self, hnone]
          exact Or.inr ⟨value, read, rfl, hfield, hfresh, hread⟩
        · cases hnever
      · rw [given_cons_of_ne hsame]
        rw [lookup_cons_of_ne hsame] at ih
        exact ih

/-- Each field that was not seen yet is given at most once, and in the way it wants. The others are
not given. -/
def AreGiven (type : RecordType) (seen : Record) (members : List (String × List Char)) : Prop :=
  ∀ name field, type.fields.lookup name = some field →
    given name members = [] ∨ seen.lookup name = none ∧
      ∃ value read, given name members = [value] ∧ IsField field value read

theorem AreGiven.tail {name : String} {value : List Char}
    (h : AreGiven type seen ((name, value) :: members)) {next : Record}
    (hnext : ∀ other, other ≠ name → next.lookup other = seen.lookup other)
    (hname : ∀ field, type.fields.lookup name = some field → given name members = []) :
    AreGiven type next members := by
  intro other wanted hwanted
  by_cases hsame : name = other
  · subst hsame
    exact Or.inl (hname wanted hwanted)
  · have hother := h other wanted hwanted
    rwa [given_cons_of_ne hsame, ← hnext other (Ne.symm hsame)] at hother

theorem exists_collects (h : AreGiven type seen members) :
    ∃ record, Collects type seen members record := by
  induction members generalizing seen with
  | nil => exact ⟨seen, .nil⟩
  | cons member members ih =>
    obtain ⟨name, value⟩ := member
    cases hlookup : type.fields.lookup name with
    | none =>
      have hothers : AreGiven type seen members :=
        h.tail (fun _ _ => rfl) (fun field hfield => by rw [hlookup] at hfield; cases hfield)
      obtain ⟨record, hrecord⟩ := ih hothers
      exact ⟨record, .cons (.skip hlookup) hrecord⟩
    | some field =>
      have hname := h name field hlookup
      rw [given_cons_self] at hname
      rcases hname with hnone | ⟨hfresh, written, read, hgiven, hfield⟩
      · cases hnone
      rw [List.cons.injEq] at hgiven
      obtain ⟨rfl, hlast⟩ := hgiven
      have hothers : AreGiven type ((name, read) :: seen) members :=
        h.tail (fun other hne => lookup_cons_of_ne hne.symm read seen) (fun _ _ => hlast)
      obtain ⟨record, hrecord⟩ := ih hothers
      exact ⟨record, .cons (.keep hlookup hfresh hfield) hrecord⟩

end DialogueScript.Json
