import DialogueScript.CommandLine.Arguments
import DialogueScript.Proofs.Checks

/-! # Spelling command lines

What arguments say is a list of items: options with their values, switches and texts. Each item has
several spellings, and reading takes one spelled item after the other. -/
namespace DialogueScript.CommandLine

/-! ### Spelled items -/

def Setting.name : Setting → String
  | .format => "format"
  | .config => "config"
  | .column => "column"

def Setting.letter : Setting → Char
  | .format => 'f'
  | .config => 'c'
  | .column => 'n'

def Switch.name : Switch → String
  | .bold => "bold"
  | .italic => "italic"
  | .code => "code"
  | .help => "help"
  | .version => "version"

/-- An argument that is no option: a lone dash, or what does not start with one. -/
def IsPlain (argument : String) : Prop := argument = "-" ∨ argument.toList.head? ≠ some '-'

inductive Item
  | setting (setting : Setting) (value : String)
  | switch (switch : Switch)
  | text (text : String)
  deriving DecidableEq, Repr

/-- The arguments that say an item. A value may stand in an argument of its own if that is plain, and
right behind a letter if it does not begin as one behind an equals sign. -/
inductive Item.IsSpelled : Item → List String → Prop
  | longApart (setting : Setting) {value : String} (plain : IsPlain value) :
      IsSpelled (.setting setting value) ["--" ++ setting.name, value]
  | longJoined (setting : Setting) (value : String) :
      IsSpelled (.setting setting value) ["--" ++ setting.name ++ "=" ++ value]
  | shortApart (setting : Setting) {value : String} (plain : IsPlain value) :
      IsSpelled (.setting setting value) ["-" ++ String.singleton setting.letter, value]
  | shortJoined (setting : Setting) {value : String} (nonempty : value ≠ "")
      (start : value.toList.head? ≠ some '=') :
      IsSpelled (.setting setting value) ["-" ++ String.singleton setting.letter ++ value]
  | shortEquals (setting : Setting) (value : String) :
      IsSpelled (.setting setting value) ["-" ++ String.singleton setting.letter ++ "=" ++ value]
  | switch (switch : Switch) : IsSpelled (.switch switch) ["--" ++ switch.name]
  | text {text : String} (plain : IsPlain text) : IsSpelled (.text text) [text]

inductive AreSpelled : List Item → List String → Prop
  | nil : AreSpelled [] []
  | cons {item : Item} {items : List Item} {piece arguments : List String}
      (first : item.IsSpelled piece) (others : AreSpelled items arguments) :
      AreSpelled (item :: items) (piece ++ arguments)

def valuesOf (setting : Setting) (items : List Item) : List String :=
  items.filterMap fun item => match item with
    | .setting other value => if other = setting then some value else none
    | _ => none

def textsOf (items : List Item) : List String :=
  items.filterMap fun item => match item with
    | .text text => some text
    | _ => none

def Item.IsOf (command : Option Command) : Item → Prop
  | .setting .column _ => command ≠ none
  | .setting _ _ => True
  | .switch option => command = some .run ∧ option ∈ [.bold, .italic, .code]
  | .text _ => command ≠ none

/-! ### Arguments as tokens -/

theorem ofArgument_plain {argument : String} (h : IsPlain argument) :
    Token.ofArgument argument = .text argument := by
  rcases h with rfl | h
  · rfl
  · unfold Token.ofArgument
    split <;> simp_all

theorem ofArgument_short {argument : String} {letter : Char} {rest : List Char}
    (hletter : letter ≠ '-') (hargument : argument.toList = '-' :: letter :: rest) :
    Token.ofArgument argument = .short letter rest := by
  unfold Token.ofArgument
  rw [hargument]
  split <;> simp_all

theorem ofArgument_long {argument : String} {c : Char} {body : List Char}
    (hargument : argument.toList = '-' :: '-' :: c :: body) :
    Token.ofArgument argument = .long (String.ofList ((c :: body).takeWhile (· ≠ '=')))
      (match (c :: body).drop ((c :: body).takeWhile (· ≠ '=')).length with
      | [] => none
      | _ :: value => some (String.ofList value)) := by
  unfold Token.ofArgument
  rw [hargument]
  rfl

/-- The name of an option, with a value behind an equals sign or without one. -/
theorem ofArgument_named {name : String} (hne : name ≠ "") (hequals : '=' ∉ name.toList) :
    Token.ofArgument ("--" ++ name) = .long name none ∧
    ∀ value, Token.ofArgument ("--" ++ name ++ "=" ++ value) = .long name (some value) := by
  have hlist : name.toList ≠ [] := by simpa using hne
  obtain ⟨c, rest, hname⟩ := List.exists_cons_of_ne_nil hlist
  have hkept : ∀ d ∈ name.toList, (decide (d ≠ '=')) = true := by
    intro d hd
    rw [decide_eq_true_eq]
    rintro rfl
    exact hequals hd
  have hsame : String.ofList (c :: rest) = name := by rw [← hname, String.ofList_toList]
  rw [hname] at hkept
  constructor
  · have htake : (c :: rest).takeWhile (· ≠ '=') = c :: rest := by
      rw [List.takeWhile_eq_self_iff]
      exact hkept
    rw [ofArgument_long (show _ = '-' :: '-' :: c :: rest by simp [hname]), htake,
      List.drop_length, hsame]
  · intro value
    have htake : (c :: (rest ++ '=' :: value.toList)).takeWhile (· ≠ '=') = c :: rest := by
      rw [← List.cons_append, List.takeWhile_append_of_pos hkept]
      simp
    rw [ofArgument_long (show _ = '-' :: '-' :: c :: (rest ++ '=' :: value.toList) by simp [hname]),
      htake, hsame]
    simp

theorem ofArgument_lettered (setting : Setting) (value : String) :
    Token.ofArgument ("-" ++ String.singleton setting.letter ++ value) =
      .short setting.letter value.toList := by
  have hletter : setting.letter ≠ '-' := by cases setting <;> decide
  exact ofArgument_short hletter (by simp)

/-! ### Reading spelled items -/

def Given.add? (given : Given) (command : Option Command) : Item → Option Given
  | .setting option value => given.set? option value
  | .switch option => given.turnOn? option
  | .text text => command.bind fun command => given.addTexts? command [text]

variable {command : Option Command} {given next : Given} {item : Item}

theorem options_setting {option : Setting} {value : String}
    (h : Item.IsOf command (.setting option value)) :
    longOption? command option.name = some (.setting option) ∧
      shortOption? command option.letter = some (.setting option) := by
  cases option with
  | format => exact ⟨rfl, rfl⟩
  | config => exact ⟨rfl, rfl⟩
  | column =>
    cases command with
    | none => exact absurd rfl h
    | some command => exact ⟨rfl, rfl⟩

theorem longOption?_switch {option : Switch} (h : Item.IsOf command (.switch option)) :
    longOption? command option.name = some (.switch option) := by
  obtain ⟨rfl, hoption⟩ := h
  simp only [List.mem_cons, List.not_mem_nil, or_false] at hoption
  rcases hoption with rfl | rfl | rfl <;> rfl

theorem setting_name (option : Setting) : option.name ≠ "" ∧ '=' ∉ option.name.toList := by
  cases option <;> decide

theorem switch_name (option : Switch) : option.name ≠ "" ∧ '=' ∉ option.name.toList := by
  cases option <;> decide

theorem readArguments_piece {piece : List String} (hpiece : item.IsSpelled piece)
    (hitem : item.IsOf command) (hadd : given.add? command item = some next) (rest : List String) :
    readArguments command given (piece ++ rest) = readArguments command next rest := by
  cases hpiece with
  | longApart option plain =>
    obtain ⟨hoption, -⟩ := options_setting hitem
    obtain ⟨htoken, -⟩ := ofArgument_named (setting_name option).1 (setting_name option).2
    rw [List.cons_append, List.singleton_append, readArguments.eq_def]
    simp_all [Given.add?, ofArgument_plain plain, orUsage, bind, Except.bind]
  | longJoined option value =>
    obtain ⟨hoption, -⟩ := options_setting hitem
    obtain ⟨-, htoken⟩ := ofArgument_named (setting_name option).1 (setting_name option).2
    rw [List.singleton_append, readArguments.eq_def]
    simp_all [Given.add?, orUsage, bind, Except.bind]
  | shortApart option plain =>
    obtain ⟨-, hoption⟩ := options_setting hitem
    have htoken := ofArgument_lettered option ""
    rw [String.append_empty] at htoken
    rw [List.cons_append, List.singleton_append, readArguments.eq_def]
    simp_all [Given.add?, ofArgument_plain plain, orUsage, bind, Except.bind]
  | @shortJoined option value nonempty start =>
    obtain ⟨-, hoption⟩ := options_setting hitem
    have htoken := ofArgument_lettered option value
    have hlist : value.toList ≠ [] := by simpa using nonempty
    obtain ⟨c, more, hvalue⟩ := List.exists_cons_of_ne_nil hlist
    have hsame : String.ofList (c :: more) = value := by rw [← hvalue, String.ofList_toList]
    have hc : c ≠ '=' := by simpa [hvalue] using start
    rw [List.singleton_append, readArguments.eq_def]
    simp_all [Given.add?, orUsage, bind, Except.bind]
  | shortEquals option value =>
    obtain ⟨-, hoption⟩ := options_setting hitem
    have htoken := ofArgument_lettered option ("=" ++ value)
    rw [← String.append_assoc] at htoken
    rw [List.singleton_append, readArguments.eq_def]
    simp_all [Given.add?, orUsage, bind, Except.bind]
  | switch option =>
    have hoption := longOption?_switch hitem
    obtain ⟨htoken, -⟩ := ofArgument_named (switch_name option).1 (switch_name option).2
    have hnote : given.note option = .ok next := by
      obtain ⟨-, hswitch⟩ := hitem
      simp only [List.mem_cons, List.not_mem_nil, or_false] at hswitch
      rcases hswitch with rfl | rfl | rfl <;> simp_all [Given.note, Given.add?, orUsage]
    rw [List.singleton_append, readArguments.eq_def]
    simp_all [bind, Except.bind]
  | text plain =>
    cases command with
    | none => exact absurd rfl hitem
    | some command =>
      rw [List.singleton_append, readArguments.eq_def]
      simp_all [Given.add?, ofArgument_plain plain, orUsage, bind, Except.bind]

/-! ### Reading spelled lines -/

/-- What was given before and what items say make up what is given in the end, which is no more than
there may be. -/
structure Given.Takes (command : Option Command) (given final : Given) (items : List Item) :
    Prop where
  format_eq : given.format.toList ++ valuesOf .format items = final.format.toList
  config_eq : given.config.toList ++ valuesOf .config items = final.config.toList
  column_eq : given.column.toList.map some ++ (valuesOf .column items).map Given.column? =
    final.column.toList.map some
  bold_eq : given.bold.toNat + items.count (.switch .bold) = final.bold.toNat
  italic_eq : given.italic.toNat + items.count (.switch .italic) = final.italic.toNat
  code_eq : given.code.toNat + items.count (.switch .code) = final.code.toNat
  texts_eq : given.texts ++ textsOf items = final.texts
  room : ∀ named ∈ command, final.texts.length ≤ named.textCount

theorem eq_of_toList_eq {α : Type} {a b : Option α} (h : a.toList = b.toList) : a = b := by
  cases a <;> cases b <;> simp_all

theorem eq_of_toNat_eq {a b : Bool} (h : a.toNat = b.toNat) : a = b := by
  cases a <;> cases b <;> simp_all

/-- An option that is given once more was not given before. -/
theorem eq_none_of_toList {α : Type} {a b : Option α} {x : α} {xs : List α}
    (h : a.toList ++ x :: xs = b.toList) : a = none := by
  cases a with
  | none => rfl
  | some value => cases b <;> simp at h

/-- A switch that is turned on once more was off before. -/
theorem eq_false_of_toNat {a b : Bool} {n : Nat} (h : a.toNat + (n + 1) = b.toNat) :
    a = false ∧ true.toNat + n = b.toNat := by
  have hle := b.toNat_le
  cases a with
  | false => exact ⟨rfl, by simpa [Nat.add_comm] using h⟩
  | true =>
    simp only [Bool.toNat_true] at h
    omega

namespace Given.Takes

variable {final : Given} {items : List Item}

theorem eq_of_nil (h : Given.Takes command given final []) : given = final := by
  obtain ⟨format, config, column, bold, italic, code, texts⟩ := given
  obtain ⟨hformat, hconfig, hcolumn, hbold, hitalic, hcode, htexts, -⟩ := h
  simp only [valuesOf, textsOf, List.filterMap_nil, List.append_nil, List.map_nil,
    List.count_nil, Nat.add_zero] at *
  have hsome := List.map_injective_iff.mpr (Option.some_injective Nat) hcolumn
  rw [eq_of_toList_eq hformat, eq_of_toList_eq hconfig, eq_of_toList_eq hsome,
    eq_of_toNat_eq hbold, eq_of_toNat_eq hitalic, eq_of_toNat_eq hcode, htexts]

theorem step_setting {option : Setting} {value : String}
    (h : Given.Takes command given final (.setting option value :: items)) :
    ∃ next, given.add? command (.setting option value) = some next ∧
      Given.Takes command next final items := by
  obtain ⟨hformat, hconfig, hcolumn, hbold, hitalic, hcode, htexts, hroom⟩ := h
  cases option with
  | format =>
    have hnone : given.format = none := eq_none_of_toList hformat
    rw [hnone] at hformat
    exact ⟨{ given with format := some value }, by simp [Given.add?, Given.set?, hnone],
      ⟨hformat, hconfig, hcolumn, hbold, hitalic, hcode, htexts, hroom⟩⟩
  | config =>
    have hnone : given.config = none := eq_none_of_toList hconfig
    rw [hnone] at hconfig
    exact ⟨{ given with config := some value }, by simp [Given.add?, Given.set?, hnone],
      ⟨hformat, hconfig, hcolumn, hbold, hitalic, hcode, htexts, hroom⟩⟩
  | column =>
    have hvalues : valuesOf .column (.setting .column value :: items) =
        value :: valuesOf .column items := rfl
    rw [hvalues, List.map_cons] at hcolumn
    obtain ⟨hnone, column, hvalue⟩ :
        given.column = none ∧ ∃ column, Given.column? value = some column := by
      cases hgiven : given.column <;> cases hend : final.column <;>
        simp only [hgiven, hend, Option.toList_none, Option.toList_some, List.map_nil,
          List.map_cons, List.nil_append, List.cons_append, List.cons.injEq, reduceCtorEq,
          and_false] at hcolumn
      exact ⟨rfl, _, hcolumn.1⟩
    rw [hnone, hvalue] at hcolumn
    exact ⟨{ given with column := some column }, by
      simp [Given.add?, Given.set?, hnone, hvalue, guard],
      ⟨hformat, hconfig, hcolumn, hbold, hitalic, hcode, htexts, hroom⟩⟩

theorem step_switch {option : Switch} (hitem : Item.IsOf command (.switch option))
    (h : Given.Takes command given final (.switch option :: items)) :
    ∃ next, given.add? command (.switch option) = some next ∧
      Given.Takes command next final items := by
  obtain ⟨hformat, hconfig, hcolumn, hbold, hitalic, hcode, htexts, hroom⟩ := h
  obtain ⟨-, hoption⟩ := hitem
  simp only [List.mem_cons, List.not_mem_nil, or_false] at hoption
  rcases hoption with rfl | rfl | rfl
  · rw [List.count_cons_self] at hbold
    obtain ⟨hoff, hon⟩ := eq_false_of_toNat hbold
    exact ⟨{ given with bold := true }, by simp [Given.add?, Given.turnOn?, hoff],
      ⟨hformat, hconfig, hcolumn, hon, hitalic, hcode, htexts, hroom⟩⟩
  · rw [List.count_cons_self] at hitalic
    obtain ⟨hoff, hon⟩ := eq_false_of_toNat hitalic
    exact ⟨{ given with italic := true }, by simp [Given.add?, Given.turnOn?, hoff],
      ⟨hformat, hconfig, hcolumn, hbold, hon, hcode, htexts, hroom⟩⟩
  · rw [List.count_cons_self] at hcode
    obtain ⟨hoff, hon⟩ := eq_false_of_toNat hcode
    exact ⟨{ given with code := true }, by simp [Given.add?, Given.turnOn?, hoff],
      ⟨hformat, hconfig, hcolumn, hbold, hitalic, hon, htexts, hroom⟩⟩

theorem step_text {command : Command} {text : String}
    (h : Given.Takes (some command) given final (.text text :: items)) :
    ∃ next, given.add? (some command) (.text text) = some next ∧
      Given.Takes (some command) next final items := by
  obtain ⟨hformat, hconfig, hcolumn, hbold, hitalic, hcode, htexts, hroom⟩ := h
  have hall : textsOf (.text text :: items) = text :: textsOf items := rfl
  rw [hall] at htexts
  have hfits : given.texts.length + 1 ≤ command.textCount := by
    have hlength := hroom command rfl
    rw [← htexts, List.length_append, List.length_cons] at hlength
    omega
  rw [← List.singleton_append, ← List.append_assoc] at htexts
  exact ⟨{ given with texts := given.texts ++ [text] }, by
    simp [Given.add?, Given.addTexts?, Nat.lt_of_succ_le hfits],
    ⟨hformat, hconfig, hcolumn, hbold, hitalic, hcode, htexts, hroom⟩⟩

/-- One more item is taken, and all that it does not say is left as it is. -/
theorem step (h : Given.Takes command given final (item :: items)) (hitem : item.IsOf command) :
    ∃ next, given.add? command item = some next ∧ Given.Takes command next final items := by
  cases item with
  | setting option value => exact h.step_setting
  | switch option => exact h.step_switch hitem
  | text text =>
    cases command with
    | none => exact absurd rfl hitem
    | some command => exact h.step_text

end Given.Takes

/-- Spelled items are read one after the other, and what follows them is read with all that they
said. -/
theorem readArguments_spelled {final : Given} {items : List Item} {arguments : List String}
    (hspelled : AreSpelled items arguments) (hitems : ∀ item ∈ items, item.IsOf command)
    (htakes : Given.Takes command given final items) (rest : List String) :
    readArguments command given (arguments ++ rest) = readArguments command final rest := by
  induction hspelled generalizing given with
  | nil => rw [htakes.eq_of_nil, List.nil_append]
  | @cons item items piece arguments hfirst hothers ih =>
    obtain ⟨next, hadd, hnext⟩ := htakes.step (hitems item (by simp))
    rw [List.append_assoc, readArguments_piece hfirst (hitems item (by simp)) hadd]
    exact ih (fun other hother => hitems other (by simp [hother])) hnext

end DialogueScript.CommandLine
