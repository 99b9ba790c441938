import DialogueScript.CommandLine.Outcome
import DialogueScript.Proofs.CommandLine.Spelling
import DialogueScript.Proofs.Endings
import DialogueScript.Proofs.Identifier.Rules
import DialogueScript.Proofs.Run.Rules
import DialogueScript.Proofs.Settings.Failures
import DialogueScript.Proofs.Text.Digits

/-! # What the program does with a command line

Whoever writes a line wants a lexeme checked and printed. How the line is spelled has no part in how
the run ends: the format, the settings and the lexeme are tried in this order. -/
namespace DialogueScript.CommandLine

/-! ### What is asked for -/

inductive Wanted
  | identifier (verbatim : String)
  | run (bold italic code : Bool) (verbatim plainText : String)
  deriving DecidableEq, Repr

namespace Wanted

def command : Wanted → Command
  | identifier _ => .identifier
  | run .. => .run

def texts : Wanted → List String
  | identifier verbatim => [verbatim]
  | run _ _ _ verbatim plainText => [verbatim, plainText]

def isOn : Wanted → Switch → Bool
  | run bold _ _ _ _, .bold => bold
  | run _ italic _ _ _, .italic => italic
  | run _ _ code _ _, .code => code
  | _, _ => false

def draft (column : Nat) : Wanted → Lexeme.Draft
  | identifier verbatim => .identifier ⟨some verbatim, column⟩
  | run bold italic code verbatim plainText =>
    .run ⟨bold, italic, code, some verbatim, some plainText, column⟩

end Wanted

structure Asked where
  wanted : Wanted
  column : Option Nat
  format : Option String
  config : Option String
  deriving DecidableEq, Repr

namespace Asked

def fromColumn (asked : Asked) : Nat := asked.column.getD 1

def loader (asked : Asked) (format : Option Format) : Settings.Loader :=
  let configured := asked.config.elim .defaults fun path => Settings.Loader.defaults.withFile path
  format.elim configured fun format => configured.withFormat format

end Asked

/-! ### Lines that ask for something -/

def Command.name : Command → String
  | .identifier => "identifier"
  | .run => "run"

/-- Digits that write a column, after a plus sign or without one. -/
def IsColumn (text : String) (column : Nat) : Prop :=
  ∃ digits, digits ≠ [] ∧ (∀ c ∈ digits, c.isDigit = true) ∧
    (text.toList = digits ∨ text.toList = '+' :: digits) ∧
    Nat.ofDigitChars 10 digits 0 = column ∧ column ≤ lastColumn

/-- Items before a command, items behind it and texts at the end say what is asked for. What is said
behind the command counts more. -/
structure Asked.IsSaidBy (asked : Asked) (before behind : List Item) (last : List String) :
    Prop where
  before_of : ∀ item ∈ before, item.IsOf none
  behind_of : ∀ item ∈ behind, item.IsOf (some asked.wanted.command)
  before_once : ∀ setting, (valuesOf setting before).length ≤ 1
  behind_once : ∀ setting, (valuesOf setting behind).length ≤ 1
  format_eq : asked.format = ((valuesOf .format behind).head? <|> (valuesOf .format before).head?)
  config_eq : asked.config = ((valuesOf .config behind).head? <|> (valuesOf .config before).head?)
  column : List.Forall₂ IsColumn (valuesOf .column behind) asked.column.toList
  switches : ∀ switch, behind.count (.switch switch) = (asked.wanted.isOn switch).toNat
  texts_eq : textsOf behind ++ last = asked.wanted.texts

/-- The last texts, which may be anything behind two dashes. -/
inductive AreLast : List String → List String → Prop
  | nothing : AreLast [] []
  | terminated (texts : List String) : AreLast texts ("--" :: texts)

inductive Asked.IsSpelledBy (asked : Asked) : List String → Prop
  | line {before behind : List Item} {last options arguments final : List String}
      (said : asked.IsSaidBy before behind last) (before_spelled : AreSpelled before options)
      (behind_spelled : AreSpelled behind arguments) (last_spelled : AreLast last final) :
      IsSpelledBy asked (options ++ asked.wanted.command.name :: (arguments ++ final))

/-! ### Reading such a line -/

theorem pushDigit?_of_isDigit (value : Nat) {c : Char} (hc : c.isDigit = true) :
    Text.pushDigit? 10 value c = some (10 * value + (c.toNat - '0'.toNat)) := by
  simp only [Char.isDigit, ge_iff_le, Bool.and_eq_true, decide_eq_true_eq] at hc
  have hnine : c.toNat ≤ '9'.toNat := hc.2
  have hsmall : c.toNat - '0'.toNat < 10 := by
    simp only [Char.reduceToNat] at hnine ⊢
    omega
  have hdigit : Text.digitValue? c = some (c.toNat - '0'.toNat) := if_pos hc
  rw [Text.pushDigit?_eq hdigit hsmall, mul_comm value 10]

theorem foldlM_pushDigit? (value : Nat) {digits : List Char}
    (hdigits : ∀ c ∈ digits, c.isDigit = true) :
    digits.foldlM (Text.pushDigit? 10) value = some (Nat.ofDigitChars 10 digits value) := by
  induction digits generalizing value with
  | nil => rfl
  | cons c digits ih =>
    rw [List.foldlM_cons, pushDigit?_of_isDigit value (hdigits c (by simp)),
      Nat.ofDigitChars_cons]
    exact ih _ (fun d hd => hdigits d (by simp [hd]))

theorem column?_of_isColumn {text : String} {column : Nat} (h : IsColumn text column) :
    Given.column? text = some column := by
  obtain ⟨digits, hne, hdigits, htext, hvalue, hlast⟩ := h
  have hread : Text.digitsValue? 10 digits = some column := by
    rw [Text.digitsValue?, if_neg (by simpa using hne), foldlM_pushDigit? 0 hdigits, hvalue]
  have hunsigned : Text.unsigned? text.toList = some column := by
    rcases htext with htext | htext
    · rw [htext, Text.unsigned?]
      · exact hread
      · rintro rest rfl
        exact absurd (hdigits '+' (by simp)) (by decide)
    · rw [htext]
      exact hread
  simp [Given.column?, hunsigned, hlast, guard]

theorem toList_head? {α : Type} {values : List α} (h : values.length ≤ 1) :
    values.head?.toList = values := by
  cases values with
  | nil => rfl
  | cons value others => simpa using h

theorem map_column? {texts : List String} {columns : List Nat}
    (h : List.Forall₂ IsColumn texts columns) : texts.map Given.column? = columns.map some := by
  induction h with
  | nil => rfl
  | cons hcolumn _ ih => rw [List.map_cons, List.map_cons, ih, column?_of_isColumn hcolumn]

section

variable {asked : Asked} {before behind : List Item} {last : List String}

theorem count_switch_eq_zero {items : List Item} (h : ∀ item ∈ items, item.IsOf none)
    (switch : Switch) : items.count (.switch switch) = 0 := by
  rw [List.count_eq_zero]
  intro hmem
  cases (h _ hmem).1

theorem valuesOf_column_eq_nil {items : List Item} (h : ∀ item ∈ items, item.IsOf none) :
    valuesOf .column items = [] := by
  rw [valuesOf, List.filterMap_eq_nil_iff]
  intro item hitem
  have hof := h item hitem
  rcases item with ⟨_ | _ | _, value⟩ | switch | text
  · rfl
  · rfl
  · exact absurd rfl hof
  · rfl
  · rfl

theorem textsOf_eq_nil {items : List Item} (h : ∀ item ∈ items, item.IsOf none) :
    textsOf items = [] := by
  rw [textsOf, List.filterMap_eq_nil_iff]
  intro item hitem
  have hof := h item hitem
  rcases item with ⟨setting, value⟩ | switch | text
  · rfl
  · rfl
  · exact absurd rfl hof

def givenBefore (items : List Item) : Given :=
  { Given.nothing with
    format := (valuesOf .format items).head?, config := (valuesOf .config items).head? }

def givenBehind (asked : Asked) (items : List Item) : Given where
  format := (valuesOf .format items).head?
  config := (valuesOf .config items).head?
  column := asked.column
  bold := asked.wanted.isOn .bold
  italic := asked.wanted.isOn .italic
  code := asked.wanted.isOn .code
  texts := textsOf items

theorem takes_before (h : asked.IsSaidBy before behind last) :
    Given.Takes none .nothing (givenBefore before) before where
  format_eq := (toList_head? (h.before_once .format)).symm
  config_eq := (toList_head? (h.before_once .config)).symm
  column_eq := by
    rw [valuesOf_column_eq_nil h.before_of]
    rfl
  bold_eq := by
    rw [count_switch_eq_zero h.before_of]
    rfl
  italic_eq := by
    rw [count_switch_eq_zero h.before_of]
    rfl
  code_eq := by
    rw [count_switch_eq_zero h.before_of]
    rfl
  texts_eq := textsOf_eq_nil h.before_of
  room := by simp

theorem length_texts (wanted : Wanted) : wanted.texts.length = wanted.command.textCount := by
  cases wanted <;> rfl

theorem takes_behind (h : asked.IsSaidBy before behind last) :
    Given.Takes (some asked.wanted.command) .nothing (givenBehind asked behind) behind where
  format_eq := (toList_head? (h.behind_once .format)).symm
  config_eq := (toList_head? (h.behind_once .config)).symm
  column_eq := map_column? h.column
  bold_eq := by
    rw [h.switches]
    exact Nat.zero_add _
  italic_eq := by
    rw [h.switches]
    exact Nat.zero_add _
  code_eq := by
    rw [h.switches]
    exact Nat.zero_add _
  texts_eq := rfl
  room := by
    rintro command ⟨⟩
    have hlength := congrArg List.length h.texts_eq
    rw [List.length_append, length_texts] at hlength
    simp only [givenBehind]
    omega

/-- The texts at the end are taken as they are. -/
theorem readArguments_last {command : Command} {given : Given} {final : List String}
    (h : AreLast last final) (hroom : given.texts.length + last.length ≤ command.textCount) :
    readArguments (some command) given final =
      .ok ({ given with texts := given.texts ++ last }, []) := by
  cases h with
  | nothing => simp [readArguments]
  | terminated =>
    rw [readArguments]
    simp [show Token.ofArgument "--" = .terminator from rfl, Given.addTexts?, hroom, orUsage, bind,
      Except.bind, pure, Except.pure]

theorem isHelp_name (command : Command) (arguments : List String) :
    Request.isHelp (command.name :: arguments) = false := by
  cases command <;> rcases arguments with _ | ⟨topic, _ | _⟩ <;> rfl

theorem readArguments_name (command : Command) (given : Given) (arguments : List String) :
    readArguments none given (command.name :: arguments) =
      .ok (given, command.name :: arguments) := by
  have htoken : Token.ofArgument command.name = .text command.name := by cases command <;> rfl
  rw [readArguments, htoken]

/-- What a line asks for does not depend on how it is spelled. -/
theorem ofArguments_of_isSpelledBy {arguments : List String} (h : asked.IsSpelledBy arguments) :
    Request.ofArguments arguments =
      .ok ⟨asked.wanted.draft asked.fromColumn, asked.format, asked.config⟩ := by
  obtain ⟨said, hbefore, hbehind, hlast⟩ := h
  rename_i before behind last options arguments final
  have houter : readArguments none .nothing
      (options ++ asked.wanted.command.name :: (arguments ++ final)) =
        .ok (givenBefore before, asked.wanted.command.name :: (arguments ++ final)) := by
    rw [readArguments_spelled hbefore said.before_of (takes_before said), readArguments_name]
  have hname : Command.ofName? asked.wanted.command.name = some asked.wanted.command := by
    cases asked.wanted <;> rfl
  have hroom : (givenBehind asked behind).texts.length + last.length ≤
      asked.wanted.command.textCount := by
    rw [← length_texts, ← said.texts_eq, List.length_append]
    rfl
  have hinner : readArguments (some asked.wanted.command) .nothing (arguments ++ final) =
      .ok ({ givenBehind asked behind with texts := asked.wanted.texts }, []) := by
    rw [readArguments_spelled hbehind said.behind_of (takes_behind said),
      readArguments_last hlast hroom, ← said.texts_eq]
    rfl
  have hdraft : Given.draft? { givenBehind asked behind with texts := asked.wanted.texts }
      asked.wanted.command = some (asked.wanted.draft asked.fromColumn) := by
    simp only [givenBehind]
    cases asked.wanted <;> rfl
  simp only [Request.ofArguments, houter, isHelp_name, Request.ofCommand, hname, hinner, hdraft,
    orUsage, bind, Except.bind, pure, Except.pure, Bool.false_eq_true, if_false]
  rw [said.format_eq, said.config_eq]
  rfl

end

/-! ### How a run ends -/

/-- The format comes first, then the settings, then the lexeme. What is printed of the lexeme is
what its rendering shows, and one line end. -/
inductive Asked.Ends (world : Settings.World) (asked : Asked) : Outcome → Prop
  | unknownFormat {name : String} (given : asked.format = some name)
      (unknown : ∀ format : Format, format.name ≠ name) :
      Ends world asked
        ⟨1, "", "Error loading configuration: " ++ Format.unknownMessage name ++ "\n"⟩
  | badSettings {format : Option Format} {cause : Settings.Error}
      (known : asked.format = format.map Format.name)
      (bad : (asked.loader format).build world = .error cause) :
      Ends world asked ⟨1, "", "Error loading configuration: " ++ cause.message ++ "\n"⟩
  | rejected {format : Option Format} {settings : Settings} {rejection : Rejection}
      (known : asked.format = format.map Format.name)
      (built : (asked.loader format).build world = .ok settings)
      (bad : Lexeme.ofDraft (asked.wanted.draft asked.fromColumn) = .error rejection) :
      Ends world asked ⟨1, "", "error at column " ++ Nat.repr asked.fromColumn ++ ": " ++
        rejection.message ++ "\n"⟩
  | printed {format : Option Format} {settings : Settings} {lexeme : Lexeme} {shown : String}
      (known : asked.format = format.map Format.name)
      (built : (asked.loader format).build world = .ok settings)
      (good : Lexeme.ofDraft (asked.wanted.draft asked.fromColumn) = .ok lexeme)
      (shows : settings.format.Shows shown (lexeme.render settings.pretty settings.format)) :
      Ends world asked ⟨0, shown ++ "\n", ""⟩

variable {asked : Asked} {world : Settings.World}

/-- The texts of a lexeme that is asked for are there, so none of them is missing. -/
theorem isPrecondition_eq_false {wanted : Wanted} {column : Nat} {rejection : Rejection}
    (h : Lexeme.ofDraft (wanted.draft column) = .error rejection) :
    rejection.isPrecondition = false := by
  cases wanted with
  | identifier verbatim =>
    obtain ⟨rule, hbreaks, -⟩ := Identifier.ofText_eq_error_iff.mp (map_eq_error_iff.mp h)
    cases hbreaks <;> rfl
  | run bold italic code verbatim plainText =>
    obtain ⟨rule, hbreaks, -⟩ := Run.ofDraft_eq_error_iff.mp (map_eq_error_iff.mp h)
    cases hbreaks with
    | verbatim lacks => cases lacks; rfl
    | plainText lacks => cases lacks; rfl
    | columnBelowOne _ => rfl
    | columnOutOfRange _ _ => rfl

theorem message_rejected (column : Nat) {rejection : Rejection}
    (h : rejection.isPrecondition = false) : (Failure.rejected column rejection).message =
      "error at column " ++ Nat.repr column ++ ": " ++ rejection.message := by
  cases rejection with
  | missing input => cases h
  | invalid input fault => rfl

theorem ofName?_eq_none_iff {name : String} :
    Format.ofName? name = none ↔ ∀ format : Format, format.name ≠ name := by
  simp only [Format.ofName?, List.find?_eq_none, decide_eq_true_eq]
  constructor
  · intro h format
    exact h format (by cases format <;> decide)
  · intro h format _
    exact h format

def Asked.request (asked : Asked) : Request :=
  ⟨asked.wanted.draft asked.fromColumn, asked.format, asked.config⟩

theorem settings_eq_build (world : Settings.World) {request : Request} {format : Option Format}
    (h : request.format = format.map Format.name) : request.settings world =
      (Settings.Loader.build world ⟨request.config.toList, format⟩).mapError .badSettings := by
  rw [Request.settings, h]
  -- Each step is applied as it stands: comparing by computation would build the settings.
  cases format with
  | none =>
    rw [Option.map_none, Option.mapM_none]
    exact ok_bind none _
  | some format =>
    rw [Option.map_some, Option.mapM_some, Settings.Loader.ofName?_name]
    exact ok_bind (some format) _

/-- Without a file the defaults count, in every world. -/
theorem settings_withoutFiles (world : Settings.World) {request : Request}
    {format : Option Format} (hformat : request.format = format.map Format.name)
    (hconfig : request.config = none) :
    request.settings world = .ok ⟨format.getD .text, true⟩ := by
  rw [settings_eq_build world hformat, hconfig, Option.toList_none,
    Settings.Loader.build_withoutFiles]
  rfl

theorem settings_of_known (world : Settings.World) {format : Option Format}
    (hformat : asked.format = format.map Format.name) : asked.request.settings world =
      ((asked.loader format).build world).mapError .badSettings := by
  have hloader : asked.loader format = ⟨asked.config.toList, format⟩ := by
    rcases asked with ⟨wanted, column, name, _ | path⟩ <;> cases format <;> rfl
  rw [hloader]
  exact settings_eq_build world hformat

/-- The run of a program that logs nothing. -/
theorem run_of_isSpelledBy {arguments : List String} (h : asked.IsSpelledBy arguments) :
    run world none arguments = asked.request.outcome world none := by
  simp only [run, ofArguments_of_isSpelledBy h, Asked.request, Option.map_none, Option.elim_none]
  rw [String.empty_append]

theorem fromColumn_draft (wanted : Wanted) (column : Nat) :
    (wanted.draft column).fromColumn = column := by
  cases wanted <;> rfl

theorem outcome_of_error {request : Request} {failure : Failure}
    (h : request.answer world = .error failure) :
    request.outcome world none = ⟨1, "", failure.message ++ "\n"⟩ := by
  simp only [Request.outcome, h, Option.elim_none]
  rw [String.empty_append]

theorem printed_of_shows {format : Format} {shown rendering : String}
    (h : format.Shows shown rendering) : printed rendering = shown ++ "\n" := by
  rw [printed, h.rendering_eq, String.toList_append,
    Text.dropFinalBlank_append h.visible fun _ hc => format.isBlank_of_mem_ending hc,
    String.ofList_toList]

theorem outcome_of_ok {request : Request} {text : String} (h : request.answer world = .ok text) :
    request.outcome world none = ⟨0, printed text, ""⟩ := by
  simp only [Request.outcome, h, Option.elim_none]

theorem answer_of_settings {request : Request} {settings : Settings}
    (h : request.settings world = .ok settings) : request.answer world =
      ((Lexeme.ofDraft request.draft).mapError (.rejected request.draft.fromColumn)).map
        fun lexeme => lexeme.render settings.pretty settings.format := by
  simp only [Request.answer, h]
  cases Lexeme.ofDraft request.draft <;> rfl

theorem outcome_of_ends {outcome : Outcome} (h : asked.Ends world outcome) :
    Request.outcome world none asked.request = outcome := by
  cases h with
  | @unknownFormat name given unknown =>
    have hname := ofName?_eq_none_iff.mpr unknown
    refine outcome_of_error (show Request.answer world _ = .error (.unknownFormat name) from ?_)
    simp only [Request.answer, Request.settings, Asked.request, given, Option.mapM_some, hname]
    rfl
  | @badSettings format cause known bad =>
    have hsettings := settings_of_known world known
    rw [bad] at hsettings
    refine outcome_of_error (show Request.answer world _ = .error (.badSettings cause) from ?_)
    simp only [Request.answer, hsettings]
    rfl
  | @rejected format settings rejection known built bad =>
    have hsettings := settings_of_known world known
    rw [built] at hsettings
    have hanswer := answer_of_settings hsettings
    rw [Asked.request, bad, fromColumn_draft] at hanswer
    rw [← message_rejected asked.fromColumn (isPrecondition_eq_false bad)]
    exact outcome_of_error hanswer
  | @printed format settings lexeme shown known built good shows =>
    have hsettings := settings_of_known world known
    rw [built] at hsettings
    have hanswer := answer_of_settings hsettings
    rw [Asked.request, good] at hanswer
    rw [← printed_of_shows shows]
    exact outcome_of_ok hanswer

/-- Every run ends in one of the four ways. -/
theorem exists_ends (world : Settings.World) (asked : Asked) :
    ∃ outcome, asked.Ends world outcome := by
  have hknown : ∀ format : Option Format, asked.format = format.map Format.name →
      ∃ outcome, asked.Ends world outcome := by
    intro format hformat
    cases hbuild : (asked.loader format).build world with
    | error cause => exact ⟨_, .badSettings hformat hbuild⟩
    | ok settings =>
      cases hdraft : Lexeme.ofDraft (asked.wanted.draft asked.fromColumn) with
      | error rejection => exact ⟨_, .rejected hformat hbuild hdraft⟩
      | ok lexeme =>
        obtain ⟨shown, hshows⟩ := Lexeme.exists_shows hdraft settings.pretty settings.format
        exact ⟨_, .printed hformat hbuild hdraft hshows⟩
  cases hformat : asked.format with
  | none => exact hknown none hformat
  | some name =>
    by_cases hname : ∃ format : Format, format.name = name
    · obtain ⟨format, rfl⟩ := hname
      exact hknown (some format) hformat
    · exact ⟨_, .unknownFormat hformat (not_exists.mp hname)⟩

/-- Whatever line asks for something, the run ends as what is asked for has to. -/
theorem run_eq_iff_ends {arguments : List String} (h : asked.IsSpelledBy arguments)
    (outcome : Outcome) : run world none arguments = outcome ↔ asked.Ends world outcome := by
  rw [run_of_isSpelledBy h]
  constructor
  · rintro rfl
    obtain ⟨outcome, hends⟩ := exists_ends world asked
    rw [outcome_of_ends hends]
    exact hends
  · exact outcome_of_ends

/-- All options of an identifier may stand before the command. -/
theorem isSpelledBy_identifier {before : List Item} {options : List String} {verbatim : String}
    (hspelled : AreSpelled before options) (hbefore : ∀ item ∈ before, item.IsOf none)
    (honce : ∀ setting, (valuesOf setting before).length ≤ 1) (hplain : IsPlain verbatim) :
    Asked.IsSpelledBy ⟨.identifier verbatim, none, (valuesOf .format before).head?,
      (valuesOf .config before).head?⟩ (options ++ ["identifier", verbatim]) := by
  have hbehind : AreSpelled [.text verbatim] [verbatim] := .cons (.text hplain) .nil
  refine .line ⟨hbefore, ?_, honce, ?_, rfl, rfl, .nil, ?_, rfl⟩ hspelled hbehind .nothing
  · simp [Item.IsOf, Wanted.command]
  · intro setting
    exact Nat.zero_le 1
  · rintro (_ | _ | _ | _ | _) <;> rfl

open Settings.Loader (mixedFiles unquotedReport build_withoutFiles build_of_first isBroken_bad)

theorem isSpelledBy_run :
    Asked.IsSpelledBy ⟨.run true false false "**a**" "--a", some 7, some "json", none⟩
      ["-fyaml", "run", "**a**", "-n=+7", "--format", "json", "--bold", "--", "--a"] := by
  have hbefore : AreSpelled [.setting .format "yaml"] ["-fyaml"] :=
    .cons (.shortJoined .format (by decide) (by decide)) .nil
  have hbehind : AreSpelled
      [.text "**a**", .setting .column "+7", .setting .format "json", .switch .bold]
      ["**a**", "-n=+7", "--format", "json", "--bold"] :=
    .cons (.text (Or.inr (by decide))) (.cons (.shortEquals .column "+7")
      (.cons (.longApart .format (Or.inr (by decide))) (.cons (.switch .bold) .nil)))
  refine .line ⟨?_, ?_, ?_, ?_, rfl, rfl, ?_, ?_, rfl⟩ hbefore hbehind (.terminated ["--a"])
  · simp [Item.IsOf]
  · simp [Item.IsOf, Wanted.command]
  · rintro (_ | _ | _) <;> decide
  · rintro (_ | _ | _) <;> decide
  · exact .cons ⟨['7'], by simp, by simp, Or.inr rfl, by decide, by decide⟩ .nil
  · rintro (_ | _ | _ | _ | _) <;> decide

/-- All four ends: a format behind the command, a text that starts with a dash and a column with a
sign; a format that is none, before a file that is not there; a file that is no TOML, for a name
that is none; and that name alone. -/
theorem run_eq_iff_ends_mixedFiles :
    Asked.IsSpelledBy ⟨.run true false false "**a**" "--a", some 7, some "json", none⟩
      ["-fyaml", "run", "**a**", "-n=+7", "--format", "json", "--bold", "--", "--a"] ∧
    run mixedFiles none
      ["-fyaml", "run", "**a**", "-n=+7", "--format", "json", "--bold", "--", "--a"] =
        ⟨0, "\n".intercalate ["\x7b", "  \"kind\": \"run\",", "  \"bold\": true,",
          "  \"italic\": false,", "  \"code\": false,", "  \"verbatim\": \"**a**\",",
          "  \"plain_text\": \"--a\",", "  \"from_column\": 7,", "  \"to_column\": 11", "\x7d", ""],
          ""⟩ ∧
    Asked.IsSpelledBy ⟨.identifier "Mr. And", none, some "xml", some "a.toml"⟩
      ["--config=a.toml", "-f", "xml", "identifier", "Mr. And"] ∧
    run mixedFiles none ["--config=a.toml", "-f", "xml", "identifier", "Mr. And"] =
      ⟨1, "", "Error loading configuration: unknown format 'xml' (available: text, json, yaml)\n"⟩ ∧
    Asked.IsSpelledBy ⟨.identifier "Mr. And", none, none, some "/etc/bad"⟩
      ["-c/etc/bad", "identifier", "Mr. And"] ∧
    run mixedFiles none ["-c/etc/bad", "identifier", "Mr. And"] =
      ⟨1, "", "\n".intercalate [
        "Error loading configuration: TOML parse error at line 1, column 10", "  |",
        "1 | output = json", "  |          ^", "invalid string",
        "expected \x60\"\x60, \x60'\x60", " in ../etc/bad.toml", ""]⟩ ∧
    Asked.IsSpelledBy ⟨.identifier "Mr. And", none, none, none⟩ ["identifier", "Mr. And"] ∧
    run mixedFiles none ["identifier", "Mr. And"] =
      ⟨1, "", "error at column 1: verbatim must not contain reserved word 'And'\n"⟩ := by
  have hunknown : Asked.IsSpelledBy ⟨.identifier "Mr. And", none, some "xml", some "a.toml"⟩
      ["--config=a.toml", "-f", "xml", "identifier", "Mr. And"] :=
    isSpelledBy_identifier
      (.cons (.longJoined .config "a.toml") (.cons (.shortApart .format (Or.inr (by decide))) .nil))
      (by simp [Item.IsOf]) (by rintro (_ | _ | _) <;> decide) (Or.inr (by decide))
  have hbad : Asked.IsSpelledBy ⟨.identifier "Mr. And", none, none, some "/etc/bad"⟩
      ["-c/etc/bad", "identifier", "Mr. And"] :=
    isSpelledBy_identifier (.cons (.shortJoined .config (by decide) (by decide)) .nil)
      (by simp [Item.IsOf]) (by rintro (_ | _ | _) <;> decide) (Or.inr (by decide))
  have hreserved : Asked.IsSpelledBy ⟨.identifier "Mr. And", none, none, none⟩
      ["identifier", "Mr. And"] :=
    isSpelledBy_identifier .nil (by simp) (by rintro (_ | _ | _) <;> decide) (Or.inr (by decide))
  refine ⟨isSpelledBy_run, (run_eq_iff_ends isSpelledBy_run _).mpr ?_,
    hunknown, (run_eq_iff_ends hunknown _).mpr ?_, hbad, (run_eq_iff_ends hbad _).mpr ?_,
    hreserved, (run_eq_iff_ends hreserved _).mpr ?_⟩
  · have hbuilt := build_withoutFiles mixedFiles (some .json)
    have hlexeme : Lexeme.ofDraft (.run ⟨true, false, false, some "**a**", some "--a", 7⟩) =
        .ok (.run ⟨true, false, false, "**a**", "--a", ⟨7, 11⟩⟩) := by
      decide +kernel
    have hprinted :
        (Lexeme.run ⟨true, false, false, "**a**", "--a", ⟨7, 11⟩⟩).render true .json ++ "\n" =
          "\n".intercalate ["\x7b", "  \"kind\": \"run\",", "  \"bold\": true,",
            "  \"italic\": false,", "  \"code\": false,", "  \"verbatim\": \"**a**\",",
            "  \"plain_text\": \"--a\",", "  \"from_column\": 7,", "  \"to_column\": 11", "\x7d",
            ""] := by
      decide +kernel
    rw [← hprinted]
    exact @Asked.Ends.printed _ _ (some .json) ⟨.json, true⟩ _ _ rfl hbuilt hlexeme
      ⟨Json.endsVisibly_written true _, String.append_empty.symm⟩
  · have hmessage : "Error loading configuration: " ++ Format.unknownMessage "xml" ++ "\n" =
        "Error loading configuration: unknown format 'xml' (available: text, json, yaml)\n" := by
      decide +kernel
    rw [← hmessage]
    exact .unknownFormat rfl (fun format => by cases format <;> decide)
  · have hbuilt : (Settings.Loader.ofSteps ([] ++ .withFile "/etc/bad" :: [])).build mixedFiles =
        .error (.notToml (unquotedReport "output = json") (some "../etc/bad.toml")) :=
      build_of_first (by simp) isBroken_bad []
    have hmessage : "Error loading configuration: " ++ (Settings.Error.notToml
        (unquotedReport "output = json") (some "../etc/bad.toml")).message ++ "\n" =
        "\n".intercalate [
          "Error loading configuration: TOML parse error at line 1, column 10", "  |",
          "1 | output = json", "  |          ^", "invalid string",
          "expected \x60\"\x60, \x60'\x60", " in ../etc/bad.toml", ""] := by
      decide +kernel
    rw [← hmessage]
    exact @Asked.Ends.badSettings _ _ none _ rfl hbuilt
  · have hbuilt := build_withoutFiles mixedFiles none
    have hdraft : Lexeme.ofDraft (.identifier ⟨some "Mr. And", 1⟩) =
        .error (.invalid .verbatim (.reservedWord "And")) := by
      decide +kernel
    have hmessage : "error at column " ++ Nat.repr 1 ++ ": " ++
        (Rejection.invalid .verbatim (.reservedWord "And")).message ++ "\n" =
        "error at column 1: verbatim must not contain reserved word 'And'\n" := by
      decide +kernel
    rw [← hmessage]
    exact @Asked.Ends.rejected _ _ none _ _ rfl hbuilt hdraft

end DialogueScript.CommandLine
