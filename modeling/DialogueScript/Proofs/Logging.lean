import DialogueScript.Proofs.Run.Rules
import DialogueScript.Proofs.Trailing

/-! # What is logged

Each attempt to build a value logs one event, which agrees with the answer. A document logs what its
record does, and only if it has one. -/
namespace DialogueScript

namespace Logged

variable {ε ε' α β : Type}

/-- Whatever was logged before, a computation has this result and logs these events. -/
def Logs (action : Logged ε α) (result : Except ε α) (events : List Event) : Prop :=
  ∀ log, action.run.run log = (result, log ++ events)

variable {action : Logged ε α} {next : α → Logged ε β} {value : α} {cause : ε}
  {result : Except ε β} {events more : List Event}

theorem logs_lift (check : Except ε α) : Logs (liftM check : Logged ε α) check [] := by
  intro log
  rw [List.append_nil]
  rfl

theorem logs_pure (value : α) : Logs (pure value : Logged ε α) (.ok value) [] :=
  logs_lift (.ok value)

theorem logs_throw (cause : ε) : Logs (throw cause : Logged ε α) (.error cause) [] :=
  logs_lift (.error cause)

theorem logs_emit (event : Event) : Logs (emit event : Logged ε Unit) (.ok ()) [event] :=
  fun _ => rfl

namespace Logs

theorem bind (h : Logs action (.ok value) events) (hnext : Logs (next value) result more) :
    Logs (action >>= next) result (events ++ more) := by
  intro log
  rw [← List.append_assoc, ← hnext, ExceptT.run_bind, StateT.run_bind, h]
  rfl

theorem bind_error (h : Logs action (.error cause) events) :
    Logs (action >>= next) (.error cause) events := by
  intro log
  rw [ExceptT.run_bind, StateT.run_bind, h]
  rfl

theorem adapt {outcome : Except ε α} (h : Logs action outcome events) (f : ε → ε') :
    Logs (action.adapt f) (outcome.mapError f) events := by
  intro log
  have hrun : (action.adapt f).run.run log =
      ((action.run.run log).1.mapError f, (action.run.run log).2) := rfl
  rw [hrun, h]

theorem events_eq {outcome : Except ε α} (h : Logs action outcome events) :
    Logged.events action = events := by
  rw [Logged.events, h, List.nil_append]

/-- Events that a computation logs are its events. -/
theorem of_exists {outcome : Except ε α} {property : List Event → Prop}
    (h : ∃ found, Logs action outcome found ∧ property found) :
    Logs action outcome (Logged.events action) ∧ property (Logged.events action) := by
  obtain ⟨found, hlogs, hproperty⟩ := h
  rw [hlogs.events_eq]
  exact ⟨hlogs, hproperty⟩

end Logs

theorem checked_ok_bind (value : α) (event : ε → Event) (next : α → Logged ε β) :
    (checked (.ok value) event >>= next) = next value := rfl

theorem logs_checked_error (cause : ε) (event : ε → Event) :
    Logs (checked (.error cause) event : Logged ε α) (.error cause) [event cause] :=
  (logs_emit (event cause)).bind (logs_throw cause)

end Logged

open Logged (Logs logs_pure logs_throw logs_lift logs_emit logs_checked_error)

/-! ### Identifiers -/

namespace Identifier

inductive Reports (verbatim : String) (fromColumn : Nat) :
    Except Rejection Identifier → List Event → Prop
  | accepted {identifier : Identifier} : Reports verbatim fromColumn (.ok identifier)
      [⟨.trace, logTarget, "identifier",
        [("verbatim", .text identifier.verbatim), ("normalized", .text identifier.key),
          ("columns", .text identifier.columns.text)]⟩]
  | rejected {rejection : Rejection} : Reports verbatim fromColumn (.error rejection)
      [⟨.debug, logTarget, "rejected identifier",
        [("verbatim", .text verbatim), ("from_column", .number fromColumn),
          ("error", .text rejection.message)]⟩]

theorem ofText_eq_map (verbatim : String) (fromColumn : Nat) :
    ofText verbatim fromColumn = (validate verbatim fromColumn).map fun columns =>
      ⟨verbatim, String.ofList (Name.key verbatim.toList), columns⟩ := by
  unfold ofText validate
  cases (checkName verbatim.toList).mapError (Rejection.invalid .verbatim) with
  | error rejection => rfl
  | ok _ =>
    change (Columns.require fromColumn verbatim >>= fun columns => _) = _
    cases Columns.require fromColumn verbatim <;> rfl

theorem exists_logs_build (verbatim : String) (fromColumn : Nat) :
    ∃ found, Logs (build verbatim fromColumn) (ofText verbatim fromColumn) found ∧
      Reports verbatim fromColumn (ofText verbatim fromColumn) found := by
  rw [ofText_eq_map, build]
  cases validate verbatim fromColumn with
  | error rejection => exact ⟨_, (logs_checked_error rejection _).bind_error, .rejected⟩
  | ok columns =>
    rw [Logged.checked_ok_bind]
    exact ⟨_, (logs_emit _).bind (logs_pure _), .accepted⟩

theorem logs_build (verbatim : String) (fromColumn : Nat) :
    Logs (build verbatim fromColumn) (ofText verbatim fromColumn)
        (events ⟨some verbatim, fromColumn⟩) ∧
      Reports verbatim fromColumn (ofText verbatim fromColumn)
        (events ⟨some verbatim, fromColumn⟩) :=
  Logs.of_exists (exists_logs_build verbatim fromColumn)

theorem logs_buildDraft (draft : Draft) : Logs (buildDraft draft) (ofDraft draft) (events draft) := by
  obtain ⟨_ | verbatim, fromColumn⟩ := draft
  · exact logs_throw _
  · exact (logs_build verbatim fromColumn).1

end Identifier

/-! ### Runs -/

theorem Columns.input_of_require {first : Nat} {text : String} {rejection : Rejection}
    (hne : text.toList ≠ []) (h : require first text = .error rejection) :
    rejection.input = .fromColumn := by
  rcases (require_eq_error_iff hne).mp h with ⟨-, rfl⟩ | ⟨-, -, rfl⟩ <;> rfl

namespace Run

/-- What an answer to a draft is reported as. Only a column at fault has the place shown. -/
inductive Reports (draft : Draft) : Except Rejection Run → List Event → Prop
  | accepted {run : Run} : Reports draft (.ok run)
      [⟨.trace, logTarget, "run",
        [("bold", .flag run.bold), ("italic", .flag run.italic), ("code", .flag run.code),
          ("verbatim", .text run.verbatim), ("plain_text", .text run.plainText),
          ("columns", .text run.columns.text)]⟩]
  | textRejected {rejection : Rejection} (htext : rejection.input ≠ .fromColumn) :
      Reports draft (.error rejection)
        [⟨.debug, logTarget, "rejected run", [("error", .text rejection.message)]⟩]
  | columnRejected {rejection : Rejection} {verbatim : String}
      (hcolumn : rejection.input = .fromColumn) (hverbatim : draft.verbatim = some verbatim) :
      Reports draft (.error rejection)
        [⟨.debug, logTarget, "rejected run",
          [("verbatim", .text verbatim), ("from_column", .number draft.fromColumn),
            ("error", .text rejection.message)]⟩]

theorem input_of_requireText {input : Input} {text? : Option String} {rejection : Rejection}
    (h : requireText input text? = .error rejection) : rejection.input = input := by
  cases requireText_eq_error_iff.mp h <;> rfl

theorem exists_logs_build (draft : Draft) : ∃ found, Logs (build draft) (ofDraft draft) found ∧
    Reports draft (ofDraft draft) found := by
  unfold build ofDraft buildText
  cases hverbatim : requireText .verbatim draft.verbatim with
  | error rejection =>
    have hinput := input_of_requireText hverbatim
    exact ⟨_, (logs_checked_error rejection _).bind_error, .textRejected (by simp [hinput])⟩
  | ok verbatim =>
  obtain ⟨hgiven, hne⟩ := requireText_eq_ok_iff.mp hverbatim
  rw [Logged.checked_ok_bind, ok_bind]
  cases hplain : requireText .plainText draft.plainText with
  | error rejection =>
    have hinput := input_of_requireText hplain
    exact ⟨_, (logs_checked_error rejection _).bind_error, .textRejected (by simp [hinput])⟩
  | ok plainText =>
  rw [Logged.checked_ok_bind, ok_bind]
  cases hcolumns : Columns.require draft.fromColumn verbatim with
  | error rejection =>
    have hinput := Columns.input_of_require hne hcolumns
    exact ⟨_, (logs_checked_error rejection _).bind_error, .columnRejected hinput hgiven⟩
  | ok columns =>
    rw [Logged.checked_ok_bind, ok_bind]
    exact ⟨_, (logs_emit _).bind (logs_pure _), .accepted⟩

theorem logs_build (draft : Draft) : Logs (build draft) (ofDraft draft) (events draft) ∧
    Reports draft (ofDraft draft) (events draft) :=
  Logs.of_exists (exists_logs_build draft)

end Run

/-! ### Documents -/

namespace Json

variable {α δ : Type} {type : RecordType} {record : Record} {rest : List Char} {document : String}

theorem logs_decodeLogged {logged : Record → Logged Rejection α}
    {build : Record → Except Rejection α} {events : List Event}
    (hread : readRecord type document.toList = .ok (record, rest))
    (hlogs : Logs (logged record) (build record) events) :
    Logs (decodeLogged type logged document) (decode type build document) events := by
  have hbuilt := hlogs.adapt fun rejection => DecodeError.misfit (.rejected rejection)
  rw [decodeLogged, decode, hread]
  change Logs (ExceptT.adapt _ (logged record) >>= _)
    (Except.mapError _ (build record) >>= _) events
  cases hbuild : build record with
  | error rejection =>
    rw [hbuild] at hbuilt
    exact hbuilt.bind_error
  | ok value =>
    rw [hbuild] at hbuilt
    have hend : Logs
        (if (dropSpacing rest).isEmpty then pure value else throw DecodeError.malformed)
        (if (dropSpacing rest).isEmpty then .ok value else .error DecodeError.malformed) [] := by
      split_ifs
      · exact logs_pure value
      · exact logs_throw _
    rw [← List.append_nil events]
    exact hbuilt.bind hend

/-- What an answer to a document is reported as: nothing if no record stands at its start, otherwise
what building the value of that record is reported as, whatever follows it. -/
inductive Reports (isSaidBy : δ → String → Prop) (build : δ → Except Rejection α)
    (events : δ → List Event) : String → Except DecodeError α → List Event → Prop
  | unread {document : String} {cause : DecodeError}
      (hunread : ∀ draft head rest, document = head ++ rest → ¬isSaidBy draft head) :
      Reports isSaidBy build events document (.error cause) []
  | read {draft : δ} {head rest : String} {answer : Except DecodeError α}
      (hhead : isSaidBy draft head) (hjudged : Judged rest (build draft) answer) :
      Reports isSaidBy build events (head ++ rest) answer (events draft)

namespace Describes

variable {draftOf : Record → δ} {areMembers : δ → List (String × List Char) → Prop}
  {areValues : δ → List (List Char) → Prop}

theorem exists_head (h : Describes type draftOf areMembers areValues)
    (hread : readRecord type document.toList = .ok (record, rest)) :
    ∃ head, IsHead (Holds (areMembers (draftOf record)) (areValues (draftOf record))) head ∧
      document = head ++ String.ofList rest := by
  obtain ⟨gap, text, hgap, hrecord, hdocument⟩ := (readRecord_eq_ok_iff h.fields_ne).mp hread
  refine ⟨String.ofList (gap ++ text),
    ⟨gap, text, hgap, h.holds_iff.mpr ⟨record, hrecord, rfl⟩, ?_⟩, ?_⟩
  · rw [String.toList_ofList]
  · rw [← String.ofList_append, List.append_assoc, ← hdocument, String.ofList_toList]

theorem exists_logs_decodeLogged (h : Describes type draftOf areMembers areValues)
    {logged : δ → Logged Rejection α} {build : δ → Except Rejection α} {events : δ → List Event}
    (hlogs : ∀ draft, Logs (logged draft) (build draft) (events draft)) (document : String) :
    ∃ found, Logs (decodeLogged type (fun record => logged (draftOf record)) document)
        (decode type (fun record => build (draftOf record)) document) found ∧
      Reports (fun draft => IsHead (Holds (areMembers draft) (areValues draft))) build events
        document (decode type (fun record => build (draftOf record)) document) found := by
  cases hread : readRecord type document.toList with
  | error cause =>
    have hdecode : decode type (fun record => build (draftOf record)) document = .error cause := by
      rw [decode, hread]
      rfl
    rw [hdecode, decodeLogged, hread]
    refine ⟨[], (logs_lift (.error cause)).bind_error, .unread ?_⟩
    rintro draft head rest rfl hhead
    obtain ⟨record, hrecord, -⟩ := h.readRecord_append hhead rest
    rw [hread] at hrecord
    cases hrecord
  | ok read =>
    obtain ⟨record, rest⟩ := read
    refine ⟨_, logs_decodeLogged hread (hlogs (draftOf record)), ?_⟩
    obtain ⟨head, hhead, rfl⟩ := h.exists_head hread
    exact .read hhead (h.decode_append build hhead (String.ofList rest))

end Describes

end Json

theorem Identifier.logs_decodeLogged (document : String) :
    Logs (decodeLogged document) (decode document) (decodeEvents document) ∧
      Json.Reports Draft.IsSaidBy ofDraft events document (decode document)
        (decodeEvents document) :=
  Logs.of_exists (describes.exists_logs_decodeLogged logs_buildDraft document)

theorem Run.logs_decodeLogged (document : String) :
    Logs (decodeLogged document) (decode document) (decodeEvents document) ∧
      Json.Reports Draft.IsSaidBy ofDraft events document (decode document)
        (decodeEvents document) :=
  Logs.of_exists (describes.exists_logs_decodeLogged (fun draft => (logs_build draft).1) document)

/-! ### Calls in a row -/

inductive Call
  | identifier (verbatim : String) (fromColumn : Nat)
  | identifierDraft (draft : Identifier.Draft)
  | run (draft : Run.Draft)
  | identifierDocument (document : String)
  | runDocument (document : String)

inductive Answer
  | identifier (result : Except Rejection Identifier)
  | run (result : Except Rejection Run)
  | decodedIdentifier (result : Except Json.DecodeError Identifier)
  | decodedRun (result : Except Json.DecodeError Run)

namespace Call

def answer : Call → Answer
  | identifier verbatim fromColumn => .identifier (Identifier.ofText verbatim fromColumn)
  | identifierDraft draft => .identifier (Identifier.ofDraft draft)
  | run draft => .run (Run.ofDraft draft)
  | identifierDocument document => .decodedIdentifier (Identifier.decode document)
  | runDocument document => .decodedRun (Run.decode document)

def events : Call → List Event
  | identifier verbatim fromColumn => Identifier.events ⟨some verbatim, fromColumn⟩
  | identifierDraft draft => Identifier.events draft
  | run draft => Run.events draft
  | identifierDocument document => Identifier.decodeEvents document
  | runDocument document => Run.decodeEvents document

/-- Answers a call. Its events are added to those of the calls before. -/
def perform : Call → StateM (List Event) Answer
  | identifier verbatim fromColumn =>
    return .identifier (← (Identifier.build verbatim fromColumn).run)
  | identifierDraft draft => return .identifier (← (Identifier.buildDraft draft).run)
  | run draft => return .run (← (Run.build draft).run)
  | identifierDocument document =>
    return .decodedIdentifier (← (Identifier.decodeLogged document).run)
  | runDocument document => return .decodedRun (← (Run.decodeLogged document).run)

inductive Reports : Call → Answer → List Event → Prop
  | identifier {verbatim : String} {fromColumn : Nat} {result : Except Rejection Identifier}
      {events : List Event} (hreports : Identifier.Reports verbatim fromColumn result events) :
      Reports (.identifier verbatim fromColumn) (.identifier result) events
  | absent {fromColumn : Nat} :
      Reports (.identifierDraft ⟨none, fromColumn⟩) (.identifier (.error (.missing .verbatim))) []
  | given {verbatim : String} {fromColumn : Nat} {result : Except Rejection Identifier}
      {events : List Event} (hreports : Identifier.Reports verbatim fromColumn result events) :
      Reports (.identifierDraft ⟨some verbatim, fromColumn⟩) (.identifier result) events
  | run {draft : Run.Draft} {result : Except Rejection Run} {events : List Event}
      (hreports : Run.Reports draft result events) : Reports (.run draft) (.run result) events
  | identifierDocument {document : String} {result : Except Json.DecodeError Identifier}
      {events : List Event}
      (hreports : Json.Reports Identifier.Draft.IsSaidBy Identifier.ofDraft Identifier.events document
        result events) :
      Reports (.identifierDocument document) (.decodedIdentifier result) events
  | runDocument {document : String} {result : Except Json.DecodeError Run} {events : List Event}
      (hreports : Json.Reports Run.Draft.IsSaidBy Run.ofDraft Run.events document result events) :
      Reports (.runDocument document) (.decodedRun result) events

theorem reports (call : Call) : call.Reports call.answer call.events := by
  cases call with
  | identifier verbatim fromColumn =>
    exact .identifier (Identifier.logs_build verbatim fromColumn).2
  | identifierDraft draft =>
    obtain ⟨_ | verbatim, fromColumn⟩ := draft
    · exact .absent
    · exact .given (Identifier.logs_build verbatim fromColumn).2
  | run draft => exact .run (Run.logs_build draft).2
  | identifierDocument document =>
    exact .identifierDocument (Identifier.logs_decodeLogged document).2
  | runDocument document => exact .runDocument (Run.logs_decodeLogged document).2

theorem run_perform (call : Call) (log : List Event) :
    call.perform.run log = (call.answer, log ++ call.events) := by
  cases call with
  | identifier verbatim fromColumn =>
    rw [perform, StateT.run_bind, (Identifier.logs_build verbatim fromColumn).1]
    rfl
  | identifierDraft draft =>
    rw [perform, StateT.run_bind, Identifier.logs_buildDraft draft]
    rfl
  | run draft =>
    rw [perform, StateT.run_bind, (Run.logs_build draft).1]
    rfl
  | identifierDocument document =>
    rw [perform, StateT.run_bind, (Identifier.logs_decodeLogged document).1]
    rfl
  | runDocument document =>
    rw [perform, StateT.run_bind, (Run.logs_decodeLogged document).1]
    rfl

def session (calls : List Call) : StateM (List Event) (List Answer) := calls.mapM perform

theorem run_session (calls : List Call) (log : List Event) :
    (session calls).run log = (calls.map answer, log ++ calls.flatMap events) := by
  induction calls generalizing log with
  | nil =>
    rw [List.map_nil, List.flatMap_nil, List.append_nil]
    rfl
  | cons call calls ih =>
    rw [session, List.mapM_cons, StateT.run_bind, run_perform]
    change ((session calls >>= fun answers => pure (call.answer :: answers)).run _ : _ × _) = _
    rw [StateT.run_bind, ih, List.map_cons, List.flatMap_cons, List.append_assoc]
    rfl

end Call

/-- Whatever calls come before it, a call adds its own events to the log. They report its answer. -/
theorem session_reports :
    (∀ call : Call, call.Reports call.answer call.events) ∧
    ∀ (calls : List Call) (log : List Event), (Call.session calls).run log =
      (calls.map Call.answer, log ++ calls.flatMap Call.events) :=
  ⟨Call.reports, Call.run_session⟩

/-- An identifier that was built is logged, even if the document is refused for what follows it. -/
example : Identifier.decode "[\"a b\",2]]" = .error .malformed ∧
    Identifier.decodeEvents "[\"a b\",2]]" = [⟨.trace, "skitscript::skit::lexical::identifier",
      "identifier", [("verbatim", .text "a b"), ("normalized", .text "a-b"),
        ("columns", .text "2..4")]⟩] := by
  decide +kernel

end DialogueScript
