import DialogueScript.Proofs.Logging
import DialogueScript.Proofs.Text.Quoted

/-! # What the message of a rejection tells

A message names its input, opens with the rule that is broken, and ends with what it reports, if
that is anything. No opening begins another one, and what is reported can be told from the rest, so
a message is about one rejection only. -/
namespace DialogueScript.Rejection

/-! ### Openings and reports -/

def said : Option Fault → String
  | none => "was not provided"
  | some fault => fault.message

/-- The words that come first, whatever there is to report. -/
def opening : Option Fault → String
  | some (.reservedWord _) => "must not contain reserved word '"
  | some (.disallowedCharacter _) => "must not contain disallowed character "
  | fault? => said fault?

/-- What is reported, up to the end of the message. -/
def report : Option Fault → String
  | some (.reservedWord word) => word ++ "'"
  | some (.disallowedCharacter c) => Text.quotedChar c
  | _ => ""

/-- The same fault with nothing in its report. -/
def shape : Option Fault → Option Fault
  | some (.reservedWord _) => some (.reservedWord "")
  | some (.disallowedCharacter _) => some (.disallowedCharacter ' ')
  | fault? => fault?

def shapes : List (Option Fault) :=
  [none, some .empty, some .surroundingBlank, some (.reservedWord ""),
    some (.disallowedCharacter ' '), some .nothingSignificant, some .columnBelowOne,
    some .columnOutOfRange]

theorem message_eq (rejection : Rejection) :
    rejection.message = rejection.input.name ++ " " ++ said rejection.fault? := by
  cases rejection with
  | missing missed =>
    rw [String.append_assoc]
    rfl
  | invalid broken fault => rfl

theorem said_eq (fault? : Option Fault) : said fault? = opening fault? ++ report fault? := by
  rcases fault? with _ | fault
  · rfl
  · cases fault with
    | reservedWord word => exact String.append_assoc
    | disallowedCharacter c => rfl
    | _ => simp [opening, report]

theorem opening_shape (fault? : Option Fault) : opening (shape fault?) = opening fault? := by
  rcases fault? with _ | fault
  · rfl
  · cases fault <;> rfl

theorem shape_mem (fault? : Option Fault) : shape fault? ∈ shapes := by
  rcases fault? with _ | fault
  · decide
  · cases fault <;> simp [shape, shapes]

/-- No opening begins that of another rule. -/
theorem openings_apart : ∀ a ∈ shapes, ∀ b ∈ shapes,
    (opening a).toList <+: (opening b).toList → a = b := by
  decide +kernel

/-! ### What is said of an input -/

theorem opening_prefix (fault? : Option Fault) :
    (opening (shape fault?)).toList <+: (said fault?).toList := by
  rw [said_eq, opening_shape, String.toList_append]
  exact List.prefix_append _ _

theorem shape_eq_of_said_eq {a b : Option Fault} (h : said a = said b) : shape a = shape b := by
  -- Both openings begin one text, so the shorter of them begins the other.
  have ha := opening_prefix a
  have hb := opening_prefix b
  rw [h] at ha
  rcases List.prefix_or_prefix_of_prefix ha hb with hprefix | hprefix
  · exact openings_apart _ (shape_mem a) _ (shape_mem b) hprefix
  · exact (openings_apart _ (shape_mem b) _ (shape_mem a) hprefix).symm

theorem shape_eq_iff {a b : Option Fault} : shape a = shape b ↔
    a = b ∨ (∃ word word', a = some (.reservedWord word) ∧ b = some (.reservedWord word')) ∨
      ∃ c d, a = some (.disallowedCharacter c) ∧ b = some (.disallowedCharacter d) := by
  rcases a with _ | fault <;> rcases b with _ | fault'
  · simp
  · cases fault' <;> simp [shape]
  · cases fault <;> simp [shape]
  · cases fault <;> cases fault' <;> simp [shape]

theorem quotedChar_inj {c d : Char} (h : Text.quotedChar c = Text.quotedChar d) : c = d := by
  have hlist : Text.quotedIn '\x27' [c] ++ [] = Text.quotedIn '\x27' [d] ++ [] := by
    rw [List.append_nil, List.append_nil]
    exact String.ofList_injective h
  obtain ⟨hsame, -⟩ := Text.isPrefixFree_quotedIn (by decide) hlist
  exact List.singleton_inj.mp hsame

theorem said_inj {a b : Option Fault} (h : said a = said b) : a = b := by
  have hshape := shape_eq_of_said_eq h
  have hopening : opening a = opening b := by rw [← opening_shape a, hshape, opening_shape]
  have hreport : (report a).toList = (report b).toList := by
    rw [said_eq, said_eq, hopening, ← String.toList_inj, String.toList_append,
      String.toList_append] at h
    exact List.append_cancel_left h
  rcases shape_eq_iff.mp hshape with
    hsame | ⟨word, word', rfl, rfl⟩ | ⟨c, d, rfl, rfl⟩
  · exact hsame
  · rw [report, report, String.toList_append, String.toList_append] at hreport
    rw [String.toList_inj.mp (List.append_cancel_right hreport)]
  · rw [quotedChar_inj (String.toList_inj.mp hreport)]

theorem name_inj {a b : Input} (h : a.name = b.name) : a = b := by
  cases a <;> cases b <;> first | rfl | exact absurd h (by decide)

theorem toList_message (rejection : Rejection) : rejection.message.toList =
    rejection.input.name.toList ++ ' ' :: (said rejection.fault?).toList := by
  rw [message_eq, String.toList_append, String.toList_append, List.append_assoc]
  rfl

/-- The name of an input ends where the first space of a message is. -/
theorem message_inj {a b : Rejection} (h : a.message = b.message) : a = b := by
  have hnames : ∀ input : Input, ∀ c ∈ input.name.toList, (c != ' ') = true := by
    intro input
    cases input <;> exact List.all_eq_true.mp (by decide)
  rw [← String.toList_inj, toList_message, toList_message] at h
  obtain ⟨hname, hsaid⟩ := Text.append_inj_of_run (hnames a.input) (hnames b.input) rfl rfl h
  have hinput : a.input = b.input := name_inj (String.toList_inj.mp hname)
  have hfault : a.fault? = b.fault? :=
    said_inj (String.toList_inj.mp (List.tail_eq_of_cons_eq hsaid))
  cases a <;> cases b <;> simp_all [input, fault?]

/-! ### Rejections that are passed on as texts -/

/-- A text is all that is left of a rejection where a document is refused for it, and where it is
logged. -/
inductive IsToldAs : Rejection → String → Prop
  | identifierDocument {document : String} {record : Json.Record} {rest : List Char}
      {rejection : Rejection} {cause : Json.Misfit}
      (read : Json.readRecord Identifier.recordType document.toList = .ok (record, rest))
      (rejected : Identifier.ofDraft (Identifier.draftOf record) = .error rejection)
      (answer : Identifier.decode document = .error (.misfit cause)) :
      IsToldAs rejection cause.message
  | runDocument {document : String} {record : Json.Record} {rest : List Char}
      {rejection : Rejection} {cause : Json.Misfit}
      (read : Json.readRecord Run.recordType document.toList = .ok (record, rest))
      (rejected : Run.ofDraft (Run.draftOf record) = .error rejection)
      (answer : Run.decode document = .error (.misfit cause)) : IsToldAs rejection cause.message
  | identifierEvent {draft : Identifier.Draft} {rejection : Rejection} {event : Event}
      {text : String} (rejected : Identifier.ofDraft draft = .error rejection)
      (logged : event ∈ Identifier.events draft) (told : ("error", .text text) ∈ event.fields) :
      IsToldAs rejection text
  | runEvent {draft : Run.Draft} {rejection : Rejection} {event : Event} {text : String}
      (rejected : Run.ofDraft draft = .error rejection) (logged : event ∈ Run.events draft)
      (told : ("error", .text text) ∈ event.fields) : IsToldAs rejection text

variable {rejection : Rejection} {event : Event} {events : List Event} {text : String}

theorem message_of_decode {α : Type} {type : Json.RecordType} {document : String}
    {record : Json.Record} {rest : List Char} {cause : Json.Misfit}
    {build : Json.Record → Except Rejection α}
    (hread : Json.readRecord type document.toList = .ok (record, rest))
    (hrejected : build record = .error rejection)
    (hanswer : Json.decode type build document = .error (.misfit cause)) :
    cause.message = rejection.message := by
  rw [Json.decode, hread, ok_bind] at hanswer
  simp only [hrejected] at hanswer
  cases hanswer
  rfl

theorem text_of_identifierReports {verbatim : String} {fromColumn : Nat}
    (h : Identifier.Reports verbatim fromColumn (.error rejection) events)
    (hlogged : event ∈ events) (htold : ("error", .text text) ∈ event.fields) :
    text = rejection.message := by
  cases h
  rw [List.mem_singleton.mp hlogged] at htold
  simpa using htold

theorem text_of_runReports {draft : Run.Draft} (h : Run.Reports draft (.error rejection) events)
    (hlogged : event ∈ events) (htold : ("error", .text text) ∈ event.fields) :
    text = rejection.message := by
  cases h <;> rw [List.mem_singleton.mp hlogged] at htold <;> simpa using htold

theorem IsToldAs.eq_message (h : rejection.IsToldAs text) : text = rejection.message := by
  cases h with
  | identifierDocument read rejected answer => exact message_of_decode read rejected answer
  | runDocument read rejected answer => exact message_of_decode read rejected answer
  | @identifierEvent draft _ _ _ rejected logged told =>
    obtain ⟨_ | verbatim, fromColumn⟩ := draft
    · cases logged
    · have hreports := (Identifier.logs_build verbatim fromColumn).2
      rw [show Identifier.ofText verbatim fromColumn = .error rejection from rejected] at hreports
      exact text_of_identifierReports hreports logged told
  | @runEvent draft _ _ _ rejected logged told =>
    have hreports := (Run.logs_build draft).2
    rw [rejected] at hreports
    exact text_of_runReports hreports logged told

/-- A message is about one rejection only. So is each text that is left of a rejection: it tells the
input, the fault with what is reported, and the kind. -/
theorem message_tells (a b : Rejection) :
    (a.message = b.message ↔ a = b) ∧
      ∀ text, a.IsToldAs text → b.IsToldAs text →
        a.input = b.input ∧ a.fault? = b.fault? ∧ a.kind = b.kind := by
  constructor
  · constructor
    · exact message_inj
    · rintro rfl
      rfl
  · intro text ha hb
    obtain rfl := message_inj (ha.eq_message.symm.trans hb.eq_message)
    exact ⟨rfl, rfl, rfl⟩

/-- A document and a draft are refused for one word. The quote behind a word is not taken for a
quote in it. -/
theorem message_tells_or :
    IsToldAs (.invalid .verbatim (.reservedWord "or"))
        "verbatim must not contain reserved word 'or'" ∧
      (Rejection.input (.invalid .verbatim (.reservedWord "or")) = .verbatim ∧
        Rejection.fault? (.invalid .verbatim (.reservedWord "or")) = some (.reservedWord "or") ∧
        Rejection.kind (.invalid .verbatim (.reservedWord "or")) = .forbiddenContent) ∧
      (Rejection.invalid .verbatim (.reservedWord "or")).message ≠
        (Rejection.invalid .verbatim (.reservedWord "or'")).message := by
  have hread : Json.readRecord Identifier.recordType "[\"this or that\",0]".toList =
      .ok ([("verbatim", .text (some "this or that")), ("from_column", .column 0)], []) := by
    decide +kernel
  have hanswer : Identifier.decode "[\"this or that\",0]" =
      .error (.misfit (.rejected (.invalid .verbatim (.reservedWord "or")))) := by
    decide +kernel
  have hdocument : IsToldAs (.invalid .verbatim (.reservedWord "or"))
      "verbatim must not contain reserved word 'or'" :=
    .identifierDocument hread
      (show Identifier.ofDraft ⟨some "this or that", 0⟩ = _ by decide +kernel) hanswer
  have hrejected : Identifier.ofDraft ⟨some "x or", 7⟩ =
      .error (.invalid .verbatim (.reservedWord "or")) := by
    decide +kernel
  have hevents : Identifier.events ⟨some "x or", 7⟩ =
      [⟨.debug, Identifier.logTarget, "rejected identifier", [("verbatim", .text "x or"),
        ("from_column", .number 7),
        ("error", .text "verbatim must not contain reserved word 'or'")]⟩] := by
    decide +kernel
  have hevent : IsToldAs (.invalid .verbatim (.reservedWord "or"))
      "verbatim must not contain reserved word 'or'" :=
    .identifierEvent hrejected (hevents ▸ List.mem_singleton_self _) (by simp)
  exact ⟨hdocument, (message_tells _ _).2 _ hdocument hevent,
    mt (message_tells _ _).1.mp (by decide)⟩

end DialogueScript.Rejection
