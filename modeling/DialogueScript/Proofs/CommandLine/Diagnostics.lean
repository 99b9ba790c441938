import DialogueScript.Proofs.CommandLine.Refinement
import DialogueScript.Proofs.Messages

/-! # What diagnostics show of a text

A rejection reports a word as it was written, without escapes. Still a diagnostic is one line of
printable ASCII, whatever the texts hold: what is reported of them is a reserved word but for the
case of ASCII letters, or one of three separators. -/
namespace DialogueScript

namespace Text

def IsPrintable (text : List Char) : Prop := ∀ c ∈ text, 0x20 ≤ c.toNat ∧ c.toNat ≤ 0x7e

theorem isPrintable_of_all {text : List Char}
    (h : text.all (fun c => 0x20 ≤ c.toNat && c.toNat ≤ 0x7e) = true) : IsPrintable text := by
  intro c hc
  simpa using List.all_eq_true.mp h c hc

@[simp] theorem isPrintable_append {text rest : List Char} :
    IsPrintable (text ++ rest) ↔ IsPrintable text ∧ IsPrintable rest :=
  List.forall_mem_append

theorem isPrintable_repr (n : Nat) : IsPrintable (Nat.repr n).toList := by
  intro c hc
  rw [Nat.toList_repr] at hc
  have hdigit := Nat.isDigit_of_mem_toDigits (by decide) (by decide) hc
  obtain ⟨hzero, hnine⟩ := Char.isDigit_iff_toNat.mp hdigit
  simp only [Char.reduceToNat] at hzero hnine
  omega

end Text
open Text (IsPrintable isPrintable_append isPrintable_of_all)

/-- The letters of a reserved word are ASCII in whatever case they are written: no other letter is
one of them in another case. -/
theorem Name.isPrintable_of_sameLetters {word : List Char} {reserved : String}
    (hreserved : reserved ∈ reservedWords) (h : SameLetters word reserved.toList) :
    IsPrintable word := by
  intro c hc
  have hspelling : isReserved word = true := isReserved_iff.mpr ⟨reserved, hreserved, h⟩
  have hplain := reservedWords_isPlainWord _ (List.contains_iff_mem.mp hspelling)
  have hletter := isLower_of_isPlainWord hplain (List.mem_map_of_mem hc)
  rw [Char.isLower_toLower_eq_isAlpha, Text.isAlpha_iff] at hletter
  omega

/-! ### Rejections -/

namespace Rejection

/-- What a rejection shows of the text that was written, if one was. -/
structure IsHarmless (verbatim : Option String) (rejection : Rejection) : Prop where
  printable : IsPrintable rejection.message.toList
  word : ∀ word, rejection.fault? = some (.reservedWord word) →
    (∃ reserved ∈ Name.reservedWords, Name.SameLetters word.toList reserved.toList) ∧
      ∃ text, verbatim = some text ∧ word.toList <:+: text.toList
  character : ∀ c, rejection.fault? = some (.disallowedCharacter c) → c ∈ [',', '(', ')']

theorem isPrintable_opening (fault? : Option Fault) : IsPrintable (opening fault?).toList := by
  have hshapes : ∀ fault? ∈ shapes, (opening fault?).toList.all
      (fun c => 0x20 ≤ c.toNat && c.toNat ≤ 0x7e) = true := by
    decide +kernel
  rw [← opening_shape]
  exact isPrintable_of_all (hshapes _ (shape_mem fault?))

/-- Only what a message reports could be anything else. -/
theorem isPrintable_message {rejection : Rejection}
    (h : IsPrintable (report rejection.fault?).toList) : IsPrintable rejection.message.toList := by
  have hname : IsPrintable rejection.input.name.toList := by
    cases rejection.input <;> exact isPrintable_of_all (by decide)
  rw [message_eq, said_eq]
  simp only [String.toList_append, isPrintable_append]
  exact ⟨⟨hname, isPrintable_of_all (by decide)⟩, isPrintable_opening _, h⟩

variable {verbatim : Option String} {rejection : Rejection}

theorem isHarmless_of_report_eq_empty (h : report rejection.fault? = "") :
    rejection.IsHarmless verbatim := by
  refine ⟨isPrintable_message ?_, ?_, ?_⟩
  · rw [h]
    exact isPrintable_of_all rfl
  · intro word hword
    simp [hword, report] at h
  · intro c hc
    simp [hc, report, Text.quotedChar, Text.quotedIn] at h

theorem isHarmless_reservedWord {input : Input} {word text reserved : String}
    (hreserved : reserved ∈ Name.reservedWords)
    (hsame : Name.SameLetters word.toList reserved.toList) (hplace : word.toList <:+: text.toList) :
    IsHarmless (some text) (.invalid input (.reservedWord word)) := by
  refine ⟨isPrintable_message ?_, ?_, ?_⟩
  · rw [fault?, report, String.toList_append, isPrintable_append]
    exact ⟨Name.isPrintable_of_sameLetters hreserved hsame, isPrintable_of_all rfl⟩
  · rintro word ⟨⟩
    exact ⟨⟨reserved, hreserved, hsame⟩, text, rfl, hplace⟩
  · rintro c ⟨⟩

theorem isHarmless_disallowedCharacter {input : Input} {c : Char} (h : c ∈ [',', '(', ')']) :
    IsHarmless verbatim (.invalid input (.disallowedCharacter c)) := by
  refine ⟨isPrintable_message ?_, ?_, ?_⟩
  · have hquoted : [',', '(', ')'].all (fun c => (Text.quotedChar c).toList.all
        (fun d => 0x20 ≤ d.toNat && d.toNat ≤ 0x7e)) = true := by
      decide +kernel
    rw [fault?, report]
    exact isPrintable_of_all (List.all_eq_true.mp hquoted c h)
  · rintro word ⟨⟩
  · rintro d ⟨⟩
    exact h

end Rejection

open Rejection (isHarmless_of_report_eq_empty isHarmless_reservedWord
  isHarmless_disallowedCharacter)

theorem Identifier.isHarmless_of_ofText {verbatim : String} {column : Nat} {rejection : Rejection}
    (h : ofText verbatim column = .error rejection) : rejection.IsHarmless (some verbatim) := by
  obtain ⟨rule, hbreaks, -⟩ := ofText_eq_error_iff.mp h
  cases hbreaks with
  | outerBlank blank => exact isHarmless_of_report_eq_empty rfl
  | @reservedWord before word after place stands reserved leftmost =>
    obtain ⟨written, hreserved, hsame⟩ := reserved
    rw [← String.toList_ofList (l := word)] at hsame place
    exact isHarmless_reservedWord hreserved hsame ⟨before, after, place.symm⟩
  | disallowed place disallowed leftmost => exact isHarmless_disallowedCharacter disallowed
  | nothingSignificant excluded => exact isHarmless_of_report_eq_empty rfl
  | columnBelowOne below => exact isHarmless_of_report_eq_empty rfl
  | columnOutOfRange beyond => exact isHarmless_of_report_eq_empty rfl

theorem Identifier.isHarmless_of_ofDraft {draft : Draft} {rejection : Rejection}
    (h : ofDraft draft = .error rejection) : rejection.IsHarmless draft.verbatim := by
  obtain ⟨_ | verbatim, fromColumn⟩ := draft
  · cases h
    exact isHarmless_of_report_eq_empty rfl
  · exact isHarmless_of_ofText h

theorem Run.isHarmless_of_lacks {input : Input} {text? verbatim : Option String}
    {rejection : Rejection} (h : Lacks input text? rejection) : rejection.IsHarmless verbatim := by
  cases h <;> exact isHarmless_of_report_eq_empty rfl

/-- Nothing of a run's texts is reported. -/
theorem Run.isHarmless_of_ofDraft {draft : Draft} {rejection : Rejection}
    (h : ofDraft draft = .error rejection) : rejection.IsHarmless draft.verbatim := by
  obtain ⟨rule, hbreaks, -⟩ := ofDraft_eq_error_iff.mp h
  cases hbreaks with
  | verbatim lacks => exact isHarmless_of_lacks lacks
  | plainText lacks => exact isHarmless_of_lacks lacks
  | columnBelowOne below => exact isHarmless_of_report_eq_empty rfl
  | columnOutOfRange given beyond => exact isHarmless_of_report_eq_empty rfl

/-! ### What the program writes -/

def Text.EndsLine (text : String) : Prop := text = "" ∨ ∃ before, text = before ++ "\n"

theorem Text.EndsLine.append {text rest : String} (h : EndsLine text) (hrest : EndsLine rest) :
    EndsLine (text ++ rest) := by
  rcases hrest with rfl | ⟨before, rfl⟩
  · rwa [String.append_empty]
  · exact Or.inr ⟨text ++ before, String.append_assoc.symm⟩

theorem Text.endsLine_join {lines : List String} (h : ∀ line ∈ lines, EndsLine line) :
    EndsLine (String.join lines) := by
  induction lines with
  | nil => exact Or.inl rfl
  | cons line lines ih =>
    rw [String.join_cons]
    exact (h line (by simp)).append (ih fun other hother => h other (by simp [hother]))

namespace LogFilter

theorem endsLine_complaints (text : String) : Text.EndsLine (complaints text) := by
  refine Text.endsLine_join fun line hline => ?_
  obtain ⟨part, -, hcomplaint⟩ := List.mem_filterMap.mp hline
  rw [complaint?] at hcomplaint
  split at hcomplaint
  · cases hcomplaint
  · exact Or.inr ⟨_, (Option.some.inj hcomplaint).symm⟩

theorem endsLine_lines (filter : LogFilter) (events : List Event) :
    Text.EndsLine (filter.lines events) := by
  refine Text.endsLine_join fun line hline => ?_
  obtain ⟨event, -, rfl⟩ := List.mem_map.mp hline
  exact Or.inr ⟨event.line, rfl⟩

end LogFilter

namespace CommandLine

variable {world : Settings.World} {request : Request} {arguments : List String}
  {column : Nat} {rejection : Rejection}

theorem settings_ne_rejected :
    request.settings world ≠ .error (.rejected column rejection) := by
  intro h
  simp only [Request.settings, bind_eq_error_iff, mapError_eq_error_iff] at h
  rcases h with hformat | ⟨format, -, cause, -, hcause⟩
  · cases hname : request.format with
    | none => simp [hname, pure, Except.pure] at hformat
    | some name =>
      rw [hname, Option.mapM_some] at hformat
      cases hknown : Format.ofName? name <;>
        simp [hknown, Functor.map, Except.map] at hformat
  · cases hcause

/-- A rejection comes from the lexeme and from nothing else. -/
theorem ofDraft_of_answer (h : request.answer world = .error (.rejected column rejection)) :
    Lexeme.ofDraft request.draft = .error rejection := by
  simp only [Request.answer, bind_eq_error_iff, mapError_eq_error_iff] at h
  rcases h with hsettings | ⟨settings, -, ⟨found, hdraft, hfound⟩ | ⟨lexeme, -, hrendered⟩⟩
  · exact absurd hsettings settings_ne_rejected
  · cases hfound
    exact hdraft
  · cases hrendered

theorem exists_wanted_of_draft? {given : Given} {command : Command} {draft : Lexeme.Draft}
    (h : given.draft? command = some draft) :
    ∃ wanted column, draft = Wanted.draft column wanted := by
  unfold Given.draft? at h
  split at h
  · exact ⟨.identifier _, _, (Option.some.inj h).symm⟩
  · exact ⟨.run _ _ _ _ _, _, (Option.some.inj h).symm⟩
  · cases h

/-- No request is made before its texts are there. -/
theorem exists_wanted (h : Request.ofArguments arguments = .ok request) :
    ∃ wanted column, request.draft = Wanted.draft column wanted := by
  rw [Request.ofArguments, bind_eq_ok_iff] at h
  obtain ⟨⟨outer, _ | ⟨name, rest⟩⟩, -, hrest⟩ := h
  · cases hrest
  · dsimp only at hrest
    split_ifs at hrest
    simp only [Request.ofCommand, bind_eq_ok_iff] at hrest
    obtain ⟨command, -, ⟨inner, unread⟩, -, draft, hdraft, hrequest⟩ := hrest
    cases hrequest
    cases hgiven : inner.draft? command with
    | none => simp [hgiven, orUsage] at hdraft
    | some given =>
      simp only [hgiven, orUsage, Except.ok.injEq] at hdraft
      subst hdraft
      exact exists_wanted_of_draft? hgiven

/-- What a run writes before its diagnostic: what is wrong with the log filter, then what passes it.
Without a filter that is nothing. -/
def logOutput (world : Settings.World) (request : Request) (log : Option String) : String :=
  log.elim "" fun text => LogFilter.complaints text ++
    (LogFilter.ofText text).lines (request.events world)

theorem endsLine_logOutput (world : Settings.World) (request : Request) (log : Option String) :
    Text.EndsLine (logOutput world request log) := by
  cases log with
  | none => exact Or.inl rfl
  | some text => exact (LogFilter.endsLine_complaints text).append (LogFilter.endsLine_lines _ _)

theorem diagnostics_of_error {failure : Failure}
    (hrequest : Request.ofArguments arguments = .ok request)
    (hanswer : request.answer world = .error failure) (log : Option String) :
    (run world log arguments).diagnostics =
      logOutput world request log ++ failure.message ++ "\n" := by
  simp only [run, hrequest, Request.outcome, hanswer]
  cases log with
  | none => simp [logOutput]
  | some text => simp [logOutput, String.append_assoc]

/-- What a diagnostic of a rejection says. -/
theorem message_of_answer (hrequest : Request.ofArguments arguments = .ok request)
    (hanswer : request.answer world = .error (.rejected column rejection)) :
    (Failure.rejected column rejection).message =
      "error at column " ++ Nat.repr column ++ ": " ++ rejection.message := by
  obtain ⟨wanted, asked, hwanted⟩ := exists_wanted hrequest
  have hdraft := ofDraft_of_answer hanswer
  rw [hwanted] at hdraft
  exact message_rejected column (isPrecondition_eq_false hdraft)

theorem isPrintable_of_ofDraft {draft : Lexeme.Draft}
    (h : Lexeme.ofDraft draft = .error rejection) : IsPrintable rejection.message.toList := by
  cases draft with
  | identifier draft => exact (Identifier.isHarmless_of_ofDraft (map_eq_error_iff.mp h)).printable
  | run draft => exact (Run.isHarmless_of_ofDraft (map_eq_error_iff.mp h)).printable

/-- Whatever the texts of a draft hold, its rejection shows nothing of them but a reserved word or a
separator. The diagnostic is one line: all that is written if nothing is logged, and otherwise the
last line. -/
theorem diagnostics_harmless :
    (∀ draft rejection, Identifier.ofDraft draft = .error rejection →
      rejection.IsHarmless draft.verbatim) ∧
    (∀ draft rejection, Run.ofDraft draft = .error rejection →
      rejection.IsHarmless draft.verbatim) ∧
    ∀ world arguments request column rejection, Request.ofArguments arguments = .ok request →
      request.answer world = .error (.rejected column rejection) →
      ∃ line, line = "error at column " ++ Nat.repr column ++ ": " ++ rejection.message ∧
        IsPrintable line.toList ∧ (run world none arguments).diagnostics = line ++ "\n" ∧
        ∀ log, Text.EndsLine (logOutput world request log) ∧
          (run world log arguments).diagnostics = logOutput world request log ++ line ++ "\n" := by
  refine ⟨fun _ _ => Identifier.isHarmless_of_ofDraft, fun _ _ => Run.isHarmless_of_ofDraft, ?_⟩
  intro world arguments request column rejection hrequest hanswer
  have hdiagnostics := diagnostics_of_error hrequest hanswer
  have hmessage := isPrintable_of_ofDraft (ofDraft_of_answer hanswer)
  rw [message_of_answer hrequest hanswer] at hdiagnostics
  refine ⟨_, rfl, ?_, ?_, fun log => ⟨endsLine_logOutput world request log, hdiagnostics log⟩⟩
  · simp only [String.toList_append, isPrintable_append]
    exact ⟨⟨⟨isPrintable_of_all (by decide), Text.isPrintable_repr column⟩,
      isPrintable_of_all (by decide)⟩, hmessage⟩
  · rw [hdiagnostics, logOutput, Option.elim_none, String.empty_append]

/-- Line ends around a word end no line of the diagnostic. -/
theorem diagnostics_harmless_lineEnds :
    Identifier.ofDraft ⟨some "x\n(AnD)\u2028y", 7⟩ =
        .error (.invalid .verbatim (.reservedWord "AnD")) ∧
      (Rejection.invalid .verbatim (.reservedWord "AnD")).IsHarmless (some "x\n(AnD)\u2028y") ∧
      Run.ofDraft ⟨true, false, false, some "\n", some "", 0⟩ =
        .error (.invalid .plainText .empty) ∧
      (Rejection.invalid .plainText .empty).IsHarmless (some "\n") ∧
      (run .empty none ["identifier", "x\n(AnD)\u2028y", "-n7"]).diagnostics =
        "error at column 7: verbatim must not contain reserved word 'AnD'" ++ "\n" := by
  have hidentifier : Identifier.ofDraft ⟨some "x\n(AnD)\u2028y", 7⟩ =
      .error (.invalid .verbatim (.reservedWord "AnD")) := by
    decide +kernel
  have hrun : Run.ofDraft ⟨true, false, false, some "\n", some "", 0⟩ =
      .error (.invalid .plainText .empty) := by
    decide +kernel
  have hrequest : Request.ofArguments ["identifier", "x\n(AnD)\u2028y", "-n7"] =
      .ok ⟨.identifier ⟨some "x\n(AnD)\u2028y", 7⟩, none, none⟩ := by
    decide +kernel
  have hsettings : Request.settings .empty
      ⟨.identifier ⟨some "x\n(AnD)\u2028y", 7⟩, none, none⟩ = .ok ⟨.text, true⟩ :=
    @settings_withoutFiles .empty _ none rfl rfl
  have hanswer : Request.answer .empty
      ⟨.identifier ⟨some "x\n(AnD)\u2028y", 7⟩, none, none⟩ =
        .error (.rejected 7 (.invalid .verbatim (.reservedWord "AnD"))) := by
    rw [answer_of_settings hsettings, Lexeme.ofDraft, hidentifier]
    rfl
  obtain ⟨line, rfl, -, hdiagnostics, -⟩ := diagnostics_harmless.2.2 _ _ _ _ _ hrequest hanswer
  refine ⟨hidentifier, diagnostics_harmless.1 _ _ hidentifier, hrun,
    diagnostics_harmless.2.1 _ _ hrun, ?_⟩
  rw [hdiagnostics]
  decide +kernel

end CommandLine

end DialogueScript
