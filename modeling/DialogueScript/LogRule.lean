import DialogueScript.Event
import DialogueScript.Text.Alphanumeric
import DialogueScript.Text.Blank
import DialogueScript.Text.Digits

/-! # Rules of a log filter

A rule is a level for all events, or the start of a target, then perhaps a demand in brackets,
then perhaps an equals sign and a level. -/
namespace DialogueScript

/-- What a rule asks of an event besides its target. No event is sent within a span of work, so what
is said of spans is never met. -/
inductive LogDemand
  | nothing
  | field (name : String)
  | span
  deriving DecidableEq, Repr

namespace LogDemand

def isMetBy (event : Event) : LogDemand → Bool
  | nothing => true
  | field name => event.hasField name
  | span => false

/-- Asking for a field is more than asking for nothing, and of two fields the later name is more. -/
def atMost : LogDemand → LogDemand → Bool
  | field a, field b => a ≤ b
  | field _, nothing => false
  | _, _ => true

/-- A field is asked for by its name. Where a value is written too, the field of a span is meant. -/
def ofField (text : List Char) : LogDemand :=
  if text.contains '=' then span else field (String.ofList text)

end LogDemand

/-- The most detailed level that is written, if any is, for the events that meet a demand and whose
targets start with `target`. -/
structure LogRule where
  target : String
  demand : LogDemand
  limit : Option Level
  deriving DecidableEq, Repr

inductive LogRuleError
  | malformed
  | unknownLevel
  deriving DecidableEq, Repr

def LogRuleError.message : LogRuleError → String
  | malformed => "invalid filter directive"
  | unknownLevel =>
    "error parsing level filter: expected one of \"off\", \"error\", \"warn\", \"info\", " ++
      "\"debug\", \"trace\", or a number 0-5"

namespace LogRule

def limit? (text : List Char) : Option (Option Level) :=
  match Text.unsigned? text with
  | some 0 => some none
  | some detail => (Level.all.find? fun level => level.detail = detail).map some
  | none =>
    let name := (String.ofList text).toUpper
    if name = "OFF" then some none
    else (Level.all.find? fun level => level.name = name).map some

/-- The limit of a rule that ends with an equals sign and a text. No text leaves out no event. -/
def limitAfter (text : List Char) : Except LogRuleError (Option Level) :=
  if text.isEmpty then .ok (some .trace)
  else
    match limit? text with
    | some limit => .ok limit
    | none => .error .unknownLevel

/-- The rule of a single word. What is no level is a target that has all its events written. -/
def ofWord (text : List Char) : LogRule :=
  match limit? text with
  | some limit => ⟨"", .nothing, limit⟩
  | none => ⟨String.ofList text, .nothing, some .trace⟩

def startsWell : List Char → Bool
  | [] => false
  | c :: _ => c = '[' || c = '-' || c = ':' || c = '_' || Text.isAlphanumeric c

/-- Reads a demand up to its closing bracket. The number of characters read comes with it. The name
of a field is taken from `written`, at the same place as in `text`. -/
def readDemand (written text : List Char) : Except LogRuleError (LogDemand × Nat) :=
  let span := text.takeWhile fun c => c ≠ ']' && c ≠ '\x7b'
  match text.drop span.length with
  | ']' :: _ => .ok (.span, span.length + 1)
  | '\x7b' :: inner =>
    let field := inner.takeWhile fun c => c ≠ '\x7d'
    let name := (written.drop (span.length + 1)).take field.length
    match field.isEmpty, inner.drop field.length with
    | false, '\x7d' :: ']' :: _ =>
      .ok (if span.isEmpty then .ofField name else .span, span.length + field.length + 3)
    | _, _ => .error .malformed
  | _ => .error .malformed

/-- Reads a rule. Its parts are looked for in the rule without the blanks around it, and taken from
the same places of the rule as written. A rule written after a blank has all its parts shifted. -/
def read (written : List Char) : Except LogRuleError LogRule :=
  let text := Text.dropOuterBlank written
  let target := text.takeWhile fun c => c ≠ '=' && c ≠ '['
  let start := String.ofList (written.take target.length)
  let after := written.drop (target.length + 1)
  if !startsWell text then .error .malformed
  else
    match text.drop target.length with
    | '[' :: inner => do
      let (demand, length) ← readDemand after inner
      match inner.drop length with
      | [] => return ⟨start, demand, some .trace⟩
      | '=' :: _ => return ⟨start, demand, ← limitAfter (after.drop (length + 1))⟩
      | _ => throw .malformed
    | _ :: _ => return ⟨start, .nothing, ← limitAfter after⟩
    | [] => return ofWord written

def concerns (rule : LogRule) (event : Event) : Bool :=
  rule.target.toList.isPrefixOf event.target.toList && rule.demand.isMetBy event

def allows (rule : LogRule) (level : Level) : Bool :=
  rule.limit.any fun limit => level.detail ≤ limit.detail

/-- The rule with the longer target, or with the same and a greater demand; of equal ones the
second. -/
def moreSpecific (a b : LogRule) : LogRule :=
  if a.target.length < b.target.length then b
  else if a.target.length = b.target.length && a.demand.atMost b.demand then b
  else a

end LogRule

end DialogueScript
