import DialogueScript.Proofs.Checks
import DialogueScript.Proofs.Settings.Trees
import DialogueScript.Proofs.Toml.Distinct
import DialogueScript.Settings.Loader

/-! # Layers of settings

Files are laid over the defaults one by one. Of each entry the last file that gives it counts,
except that a format which was asked for wins over all files, before and after. -/
namespace DialogueScript.Settings

/-- What a file says of the output. Its format may be any value. -/
structure Layer where
  format : Option Toml.Value
  pretty : Option Bool

/-- A document that says this of the output, and nothing else. -/
structure Layer.IsWrittenAs (layer : Layer) (document output : Toml.Entries) : Prop where
  document_eq : document = [] ∧ output = [] ∨ ∃ origin, document = [("output", .table origin output)]
  names : ∀ entry ∈ output, entry.1 = "format" ∨ entry.1 = "pretty"
  format_eq : output.lookup "format" = layer.format
  pretty_eq : output.lookup "pretty" = layer.pretty.map .boolean

/-- There is a file at a path that can be read, and it says this. -/
def Layer.IsAt (layer : Layer) (world : World) (path : String) : Prop :=
  ∃ place text document output, world.find? path = some (place, .text text) ∧
    Toml.read? (String.ofList (Toml.dropMark text.toList)) = some document ∧
    layer.IsWrittenAs document output

/-! ### What a tree says of the output -/

def Holds (tree format : Tree) (pretty : Bool) : Prop :=
  ∃ output origin, tree.entry? "output" = some output ∧ output.names.Nodup ∧
    output.entry? "format" = some format ∧
    output.entry? "pretty" = some (.leaf origin (.boolean pretty))

/-- The node for the format shows the value that was given for it, if that is a string. -/
def Shows (format : Tree) (value : Toml.Value) : Prop :=
  ∀ name, value = .string name → ∃ origin, format = .leaf origin (.string name)

theorem lowerName_output : Tree.lowerName "output" = "output" := by decide +kernel

theorem lowerName_format : Tree.lowerName "format" = "format" := by decide +kernel

theorem lowerName_pretty : Tree.lowerName "pretty" = "pretty" := by decide +kernel

theorem parse?_output : Path.parse? "output" = some (.ofName "output") := by decide +kernel

variable {tree format : Tree} {pretty : Bool}

/-! ### Reading the output -/

namespace Partial

variable (read : Partial) (value : Tree)

theorem readEntry_format : read.readEntry ("format", value) =
    (formatOf value).map fun format => { read with format := some format } := by
  simp only [readEntry, if_pos]
  cases formatOf value <;> rfl

theorem readEntry_pretty (h : flagOf "output.pretty" value = .ok pretty) :
    read.readEntry ("pretty", value) = .ok { read with pretty := some pretty } := by
  have hne : ("pretty" : String) ≠ "format" := by decide
  simp only [readEntry, if_neg hne, if_pos, h]
  rfl

theorem readEntry_other {name : String} (hformat : name ≠ "format") (hpretty : name ≠ "pretty") :
    read.readEntry (name, value) = .ok read := by
  simp only [readEntry, if_neg hformat, if_neg hpretty]
  rfl

end Partial

/-- Where the flag is good, the format decides, in whatever order the two come. -/
theorem foldlM_readEntry {entries : Entries} (hnames : (entries.map Prod.fst).Nodup)
    (hpretty : ∀ value, entries.lookup "pretty" = some value →
      flagOf "output.pretty" value = .ok pretty) (read : Partial) :
    entries.foldlM Partial.readEntry read =
      ((entries.lookup "format").mapM formatOf).map fun format =>
        ⟨format.or read.format, ((entries.lookup "pretty").map fun _ => pretty).or read.pretty⟩ := by
  induction entries generalizing read with
  | nil => rfl
  | cons entry rest ih =>
    obtain ⟨name, value⟩ := entry
    rw [List.map_cons, List.nodup_cons] at hnames
    rw [List.foldlM_cons]
    by_cases hformat : name = "format"
    · subst hformat
      have hnone : rest.lookup "format" = none := lookup_eq_none_iff_notMem.mpr hnames.1
      have hskip : ∀ old : Tree, (("format", old) :: rest).lookup "pretty" = rest.lookup "pretty" :=
        fun old => lookup_cons_of_ne (by decide) old rest
      rw [hskip] at hpretty ⊢
      rw [Partial.readEntry_format, lookup_cons_eq_ite, if_pos rfl, Option.mapM_some]
      cases formatOf value with
      | error cause => rfl
      | ok format =>
        refine (ih hnames.2 hpretty _).trans ?_
        rw [hnone]
        rfl
    · have hskip : ((name, value) :: rest).lookup "format" = rest.lookup "format" :=
        lookup_cons_of_ne hformat value rest
      rw [hskip]
      by_cases hname : name = "pretty"
      · subst hname
        have hnone : rest.lookup "pretty" = none := lookup_eq_none_iff_notMem.mpr hnames.1
        have hgood := hpretty value (by rw [lookup_cons_eq_ite, if_pos rfl])
        rw [Partial.readEntry_pretty read value hgood]
        refine (ih hnames.2 (by simp [hnone]) _).trans ?_
        rw [hnone, lookup_cons_eq_ite, if_pos rfl]
        rfl
      · rw [lookup_cons_of_ne hname] at hpretty ⊢
        rw [Partial.readEntry_other read value hformat hname]
        exact ih hnames.2 hpretty read

theorem ofTree_of_holds (order : Order) (h : Holds tree format pretty) :
    ofTree order tree = (formatOf format).map fun format => ⟨format, pretty⟩ := by
  obtain ⟨output, origin, houtput, hnames, hformat, hpretty⟩ := h
  cases output with
  | leaf origin value => cases hformat
  | array origin items => cases hformat
  | table origin entries =>
    rw [Tree.entry?, ← order.lookup_arrange .read hnames] at hformat hpretty
    have hflag : ∀ value, (order.arrange .read entries).lookup "pretty" = some value →
        flagOf "output.pretty" value = .ok pretty := by
      intro value hvalue
      rw [hpretty] at hvalue
      cases hvalue
      rfl
    simp only [ofTree, houtput, ofEntries,
      foldlM_readEntry (order.nodup_arrange .read hnames) hflag, hformat, hpretty, Option.mapM_some]
    cases formatOf format <;> rfl

/-! ### Changing what a tree says -/

theorem holds_addFormat (h : Holds tree format pretty) (asked : Format) :
    Holds (Loader.addFormat tree (some asked)) (.leaf none (.string asked.name)) pretty := by
  obtain ⟨output, origin, houtput, hnames, -, hpretty⟩ := h
  refine ⟨output.set "format" (.leaf none (.string asked.name)), origin, ?_, ?_, ?_, ?_⟩
  · simp [Loader.addFormat, Tree.setPath, Tree.alter, lowerName_output, houtput]
  · rw [Tree.set_eq]
    exact Tree.nodup_putEntry hnames _ _
  · simp [Tree.entry?_set, lowerName_format, Tree.laidOver]
  · simp [Tree.entry?_set, lowerName_format, hpretty]

/-- What a table says goes over what the tree said of the output before. -/
theorem entry?_setEntry_output (tree : Tree) (origin : Option String) (entries : Entries) :
    Tree.entry? "output" (Loader.setEntry tree ("output", .table origin entries)) =
      some (((tree.entry? "output").getD .empty).setAll entries) := by
  simp [Loader.setEntry, parse?_output, Path.ofName, Tree.setPath, Tree.alter, Tree.entry?_set,
    lowerName_output, Tree.laidOver]

section

variable (order : Order) (source : Nat) (origin : Option String) {output : Toml.Entries}

/-- What a document says of the output, as it comes. -/
def comingOutput (output : Toml.Entries) : Entries :=
  order.arrange (.laid source ["output"])
    (order.arrangedValues source ["output"] (Tree.ofTomlEntries origin output))

/-- Of the format and the flag, each one is laid over the one that the tree had. -/
theorem entry?_setAll_comingOutput (tree : Tree) (hnames : (output.map Prod.fst).Nodup)
    (hknown : ∀ entry ∈ output, entry.1 = "format" ∨ entry.1 = "pretty") (name : String) :
    Tree.entry? name (tree.setAll (comingOutput order source origin output)) =
      match output.lookup name with
      | some value => some ((order.arranged source ["output", name]
          (Tree.ofToml origin value)).laidOver (tree.entry? name))
      | none => tree.entry? name := by
  have hsame : ((order.arrangedValues source ["output"]
      (Tree.ofTomlEntries origin output)).map Prod.fst) = output.map Prod.fst := by simp
  have hcoming : ((order.arrangedValues source ["output"]
      (Tree.ofTomlEntries origin output)).map Prod.fst).Nodup := by rwa [hsame]
  have hlower : ∀ entry ∈ comingOutput order source origin output,
      Tree.lowerName entry.1 = entry.1 := by
    intro entry hentry
    have hmem : entry.1 ∈ output.map Prod.fst := by
      rw [← hsame]
      exact List.mem_map_of_mem ((order.perm _ _).mem_iff.mp hentry)
    obtain ⟨written, hwritten, hname⟩ := List.mem_map.mp hmem
    rcases hknown written hwritten with hknown | hknown
    · rw [← hname, hknown, lowerName_format]
    · rw [← hname, hknown, lowerName_pretty]
  have hset := Tree.entry?_setAll tree (order.nodup_arrange _ hcoming) hlower name
  rw [order.lookup_arrange _ hcoming, Order.lookup_arrangedValues,
    Tree.lookup_ofTomlEntries] at hset
  rw [comingOutput, hset]
  cases output.lookup name <;> rfl

theorem entries_output (kind : Toml.TableOrigin) :
    order.entries source (Tree.ofTomlEntries origin [("output", .table kind output)]) =
      [("output", .table origin (comingOutput order source origin output))] := by
  simp [Order.entries, Order.arrangedValues, Order.arranged, Tree.ofTomlEntries, Tree.ofToml,
    comingOutput]

theorem holds_setEntry (h : Holds tree format pretty) {layer : Layer}
    (hnames : (output.map Prod.fst).Nodup)
    (hknown : ∀ entry ∈ output, entry.1 = "format" ∨ entry.1 = "pretty")
    (hformat : output.lookup "format" = layer.format)
    (hpretty : output.lookup "pretty" = layer.pretty.map .boolean) :
    Holds (Loader.setEntry tree ("output", .table origin (comingOutput order source origin output)))
      (match layer.format with
      | some value => (order.arranged source ["output", "format"]
          (Tree.ofToml origin value)).laidOver (some format)
      | none => format)
      (layer.pretty.getD pretty) := by
  obtain ⟨old, place, hold, holdNames, holdFormat, holdPretty⟩ := h
  have hset := entry?_setAll_comingOutput order source origin old hnames hknown
  refine ⟨old.setAll (comingOutput order source origin output),
    if layer.pretty.isSome then origin else place, ?_, Tree.nodup_setAll holdNames _, ?_, ?_⟩
  · rw [entry?_setEntry_output, hold]
    rfl
  · rw [hset, hformat, holdFormat]
    cases layer.format <;> rfl
  · rw [hset, hpretty, holdPretty]
    cases layer.pretty <;> rfl

end

/-! ### Laying texts over a tree -/

variable {world : World}

theorem addText_of_read (source : Nat) (origin : Option String) (tree : Tree) {text : String}
    {document : Toml.Entries} (hread : Toml.read? text = some document) :
    Loader.addText world source origin tree text =
      .ok ((world.order.entries source (Tree.ofTomlEntries origin document)).foldl
        Loader.setEntry tree) := by
  rw [Loader.addText, hread]

theorem addText_output (source : Nat) (origin : Option String) (tree : Tree) {text : String}
    {kind : Toml.TableOrigin} {output : Toml.Entries}
    (hread : Toml.read? text = some [("output", .table kind output)]) :
    Loader.addText world source origin tree text = .ok (Loader.setEntry tree
      ("output", .table origin (comingOutput world.order source origin output))) := by
  rw [addText_of_read source origin tree hread, entries_output]
  rfl

/-- A text that can be read and says something of the output is laid over what was said before. -/
theorem addText_of_isWrittenAs (source : Nat) (origin : Option String) {text : String}
    {document output : Toml.Entries} {layer : Layer} (hread : Toml.read? text = some document)
    (hwritten : layer.IsWrittenAs document output) (h : Holds tree format pretty)
    {given : Toml.Value} (hshows : Shows format given) :
    ∃ changed shown, Loader.addText world source origin tree text = .ok changed ∧
      Holds changed shown (layer.pretty.getD pretty) ∧ Shows shown (layer.format.getD given) := by
  have hdistinct := Toml.areDistinct_of_read hread
  rcases hwritten.document_eq with ⟨rfl, rfl⟩ | ⟨kind, rfl⟩
  · -- A text without entries changes nothing, and its layer says nothing.
    have hformat : layer.format = none := hwritten.format_eq.symm
    have hpretty : layer.pretty = none := by simpa using hwritten.pretty_eq.symm
    refine ⟨tree, format, ?_, by rwa [hpretty], by rwa [hformat]⟩
    rw [addText_of_read source origin tree hread]
    simp [Tree.ofTomlEntries, Order.entries, Order.arrangedValues]
  · have hnames := (hdistinct.values ("output", .table kind output) (by simp)).entries.names
    have hholds := holds_setEntry world.order source origin h hnames hwritten.names
      hwritten.format_eq hwritten.pretty_eq
    refine ⟨_, _, addText_output source origin tree hread, hholds, ?_⟩
    cases layer.format with
    | none => exact hshows
    | some value =>
      rintro name rfl
      exact ⟨origin, rfl⟩

/-! ### The defaults -/

def defaultDocument : Toml.Entries :=
  [("output", .table .headed [("format", .string "text"), ("pretty", .boolean true)])]

def isDefaultDocument : Option Toml.Entries → Bool
  | some [("output", .table .headed [("format", .string "text"), ("pretty", .boolean true)])] =>
    true
  | _ => false

theorem eq_of_isDefaultDocument {document : Option Toml.Entries}
    (h : isDefaultDocument document = true) : document = some defaultDocument := by
  unfold isDefaultDocument at h
  split at h
  · rfl
  · cases h

theorem read?_defaultText : Toml.read? Loader.defaultText = some defaultDocument :=
  eq_of_isDefaultDocument (by decide +kernel)

theorem exists_defaults (world : World) : ∃ tree,
    Loader.addText world 0 none .empty Loader.defaultText = .ok tree ∧
      Holds tree (.leaf none (.string "text")) true := by
  have hnames : ([("format", .string "text"), ("pretty", .boolean true)].map
      (Prod.fst : String × Toml.Value → String)).Nodup := by decide
  have hset := entry?_setAll_comingOutput world.order 0 none .empty hnames (by simp)
  have hempty : Tree.empty.names.Nodup := List.nodup_nil
  exact ⟨_, addText_output 0 none .empty read?_defaultText, _, none,
    entry?_setEntry_output .empty none _, Tree.nodup_setAll hempty _, hset "format", hset "pretty"⟩

theorem shows_default : Shows (.leaf none (.string "text")) (.string "text") := by
  rintro name hname
  cases hname
  exact ⟨none, rfl⟩

theorem addFile_of_isAt {layer : Layer} {path : String} (hlayer : layer.IsAt world path)
    (source : Nat) (h : Holds tree format pretty) {given : Toml.Value}
    (hshows : Shows format given) :
    ∃ changed shown, Loader.addFile world tree (path, source) = .ok changed ∧
      Holds changed shown (layer.pretty.getD pretty) ∧ Shows shown (layer.format.getD given) := by
  obtain ⟨place, text, document, output, hfind, hread, hwritten⟩ := hlayer
  simp only [Loader.addFile, hfind]
  exact addText_of_isWrittenAs source _ hread hwritten h hshows

theorem getLast?_filterMap_cons {α β : Type} (f : α → Option β) (x : α) (xs : List α)
    (initial : β) : (((x :: xs).filterMap f).getLast?).getD initial =
      ((xs.filterMap f).getLast?).getD ((f x).getD initial) := by
  cases h : f x with
  | none => simp [h]
  | some value => cases hlast : (xs.filterMap f).getLast? <;> simp [h, List.getLast?_cons, hlast]

theorem foldlM_addFile (layer : String → Layer) {paths : List String}
    (hlayers : ∀ path ∈ paths, (layer path).IsAt world path) (source : Nat)
    (h : Holds tree format pretty) {given : Toml.Value} (hshows : Shows format given) :
    ∃ changed shown, (paths.zipIdx source).foldlM (Loader.addFile world) tree = .ok changed ∧
      Holds changed shown
        (((paths.filterMap fun path => (layer path).pretty).getLast?).getD pretty) ∧
      Shows shown (((paths.filterMap fun path => (layer path).format).getLast?).getD given) := by
  induction paths generalizing source tree format pretty given with
  | nil => exact ⟨tree, format, rfl, h, hshows⟩
  | cons path paths ih =>
    obtain ⟨next, shown, hadd, hnext, hshown⟩ :=
      addFile_of_isAt (hlayers path (by simp)) source h hshows
    obtain ⟨changed, final, hfold, hholds, hfinal⟩ :=
      ih (fun other hother => hlayers other (by simp [hother])) (source + 1) hnext hshown
    refine ⟨changed, final, ?_, ?_, ?_⟩
    · rw [List.zipIdx_cons, List.foldlM_cons, hadd]
      exact hfold
    · rw [getLast?_filterMap_cons]
      exact hholds
    · rw [getLast?_filterMap_cons]
      exact hfinal

/-! ### Steps of a loader -/

namespace Loader

inductive Step
  | withFile (path : String)
  | withFormat (format : Format)
  deriving DecidableEq, Repr

def Step.path? : Step → Option String
  | .withFile path => some path
  | .withFormat _ => none

def Step.format? : Step → Option Format
  | .withFile _ => none
  | .withFormat format => some format

def extend (loader : Loader) : Step → Loader
  | .withFile path => loader.withFile path
  | .withFormat format => loader.withFormat format

def ofSteps (steps : List Step) : Loader := steps.foldl extend defaults

theorem foldl_extend (loader : Loader) (steps : List Step) :
    steps.foldl extend loader = ⟨loader.paths ++ steps.filterMap Step.path?,
      (steps.filterMap Step.format?).getLast?.or loader.format⟩ := by
  induction steps generalizing loader with
  | nil => simp
  | cons step steps ih =>
    rw [List.foldl_cons, ih]
    cases step with
    | withFile path =>
      simp only [extend, withFile, List.filterMap_cons, Step.path?, Step.format?,
        List.append_assoc, List.singleton_append]
    | withFormat format =>
      simp only [extend, withFormat, List.filterMap_cons, Step.path?, Step.format?,
        List.getLast?_cons]
      cases (steps.filterMap Step.format?).getLast? <;> rfl

def named? : Toml.Value → Option Format
  | .string name => Format.ofName? name
  | _ => none

/-- The format that was asked for last, or else that of the last file that gives one. -/
def lastFormat (layer : String → Layer) (steps : List Step) : Format :=
  match (steps.filterMap Step.format?).getLast? with
  | some format => format
  | none =>
    let given := (steps.filterMap Step.path?).filterMap fun path => (layer path).format
    (given.getLast?.bind named?).getD .text

/-- What the last file that says so wants. -/
def lastPretty (layer : String → Layer) (steps : List Step) : Bool :=
  let given := (steps.filterMap Step.path?).filterMap fun path => (layer path).pretty
  given.getLast?.getD true

theorem formatNamed_name (format : Format) : formatNamed format.name = .ok format := by
  cases format <;> decide +kernel

theorem ofName?_name (format : Format) : Format.ofName? format.name = some format := by
  cases format <;> rfl

theorem mem_paths_iff {steps : List Step} {path : String} :
    path ∈ steps.filterMap Step.path? ↔ .withFile path ∈ steps := by
  rw [List.mem_filterMap]
  constructor
  · rintro ⟨step, hstep, hpath⟩
    cases step with
    | withFile other =>
      cases hpath
      exact hstep
    | withFormat format => cases hpath
  · intro h
    exact ⟨_, h, rfl⟩

/-- Without files the defaults count, but for the format that is asked for. -/
theorem build_withoutFiles (world : World) (asked : Option Format) :
    build world ⟨[], asked⟩ = .ok ⟨asked.getD .text, true⟩ := by
  obtain ⟨initial, hdefaults, hinitial⟩ := exists_defaults world
  have hbuild : build world ⟨[], asked⟩ = ofTree world.order (addFormat initial asked) := by
    rw [build, tree, hdefaults]
    rfl
  rw [hbuild]
  cases asked with
  | none =>
    rw [addFormat, ofTree_of_holds _ hinitial]
    rfl
  | some format =>
    rw [ofTree_of_holds _ (holds_addFormat hinitial format), formatOf, formatNamed_name]
    rfl

/-- Without a format that was asked for, the last value that a file gives is the one shown. -/
theorem exists_name_eq_given (layer : String → Layer) {steps : List Step}
    (hasked : (steps.filterMap Step.format?).getLast? = none)
    (hformats : ∀ path value, .withFile path ∈ steps → (layer path).format = some value →
      ∃ format : Format, value = .string format.name) :
    (((steps.filterMap Step.path?).filterMap fun path => (layer path).format).getLast?).getD
      (.string "text") = .string (lastFormat layer steps).name := by
  simp only [lastFormat, hasked]
  cases hlast : ((steps.filterMap Step.path?).filterMap fun path => (layer path).format).getLast? with
  | none => rfl
  | some value =>
    obtain ⟨path, hpath, hvalue⟩ := List.mem_filterMap.mp (List.mem_of_getLast? hlast)
    obtain ⟨format, rfl⟩ := hformats path value (mem_paths_iff.mp hpath) hvalue
    simp [named?, ofName?_name]

/-- After every prefix of some steps the settings can be built, and each of them is what was said
last: by a file, or for the format by an earlier or later step that asks for one. -/
theorem build_ofSteps (layer : String → Layer) {steps prior : List Step}
    (hfiles : ∀ path, .withFile path ∈ steps → (layer path).IsAt world path)
    (hprior : prior <+: steps)
    (hformats : (∃ format, .withFormat format ∈ prior) ∨
      ∀ path value, .withFile path ∈ prior → (layer path).format = some value →
        ∃ format : Format, value = .string format.name) :
    (ofSteps prior).build world = .ok ⟨lastFormat layer prior, lastPretty layer prior⟩ := by
  have hlayers : ∀ path ∈ prior.filterMap Step.path?, (layer path).IsAt world path := by
    intro path hpath
    exact hfiles path (hprior.subset (mem_paths_iff.mp hpath))
  obtain ⟨initial, hdefaults, hinitial⟩ := exists_defaults world
  obtain ⟨changed, shown, hfold, hholds, hshows⟩ :=
    foldlM_addFile layer hlayers 1 hinitial shows_default
  have hsteps : ofSteps prior =
      ⟨prior.filterMap Step.path?, (prior.filterMap Step.format?).getLast?⟩ := by
    simp only [ofSteps, foldl_extend, defaults, List.nil_append, Option.or_none]
  have hbuild : (ofSteps prior).build world =
      ofTree world.order (addFormat changed (prior.filterMap Step.format?).getLast?) := by
    rw [hsteps, build, tree, hdefaults, ok_bind, hfold]
    rfl
  rw [hbuild]
  cases hasked : (prior.filterMap Step.format?).getLast? with
  | some format =>
    rw [ofTree_of_holds _ (holds_addFormat hholds format), formatOf, formatNamed_name]
    simp only [lastFormat, hasked]
    rfl
  | none =>
    have hnone : ¬∃ format, .withFormat format ∈ prior := by
      rintro ⟨format, hformat⟩
      have hmem : format ∈ prior.filterMap Step.format? :=
        List.mem_filterMap.mpr ⟨_, hformat, rfl⟩
      rw [List.getLast?_eq_none_iff.mp hasked] at hmem
      cases hmem
    have hgiven := exists_name_eq_given layer hasked (hformats.resolve_left hnone)
    obtain ⟨origin, rfl⟩ := hshows _ hgiven
    rw [addFormat, ofTree_of_holds _ hholds, formatOf, formatNamed_name]
    rfl

/-- Two files: a table of a name that is no format, and a dotted key. -/
def twoFiles : World where
  files := fun path =>
    if path = "/work/a.toml" then some (.text "[output]\nformat = \x7bxml = 1\x7d\npretty = false\n")
    else if path = "/work/b.toml" then some (.text "output.format = 'text'")
    else none
  directory := "/work"
  order := ⟨fun _ entries => entries.reverse, fun _ entries => entries.reverse_perm⟩
  report := fun _ => ""

def twoLayers (path : String) : Layer :=
  if path = "a.toml" then ⟨some (.table .inline [("xml", .integer 1)]), some false⟩
  else ⟨some (.string "text"), none⟩

theorem twoLayers_isAt {path : String} (h : path = "a.toml" ∨ path = "b.toml") :
    (twoLayers path).IsAt twoFiles path := by
  rcases h with rfl | rfl
  · have hpath : Files.pathFrom "/work" "a.toml" = "/work/a.toml" := by decide +kernel
    refine ⟨"/work/a.toml", "[output]\nformat = \x7bxml = 1\x7d\npretty = false\n",
      [("output", .table .headed [("format", .table .inline [("xml", .integer 1)]),
        ("pretty", .boolean false)])],
      [("format", .table .inline [("xml", .integer 1)]), ("pretty", .boolean false)], ?_, ?_, ?_⟩
    · simp [World.find?, Files.find?, twoFiles, hpath]
    · cbv
    · exact ⟨Or.inr ⟨_, rfl⟩, by simp, rfl, rfl⟩
  · have hpath : Files.pathFrom "/work" "b.toml" = "/work/b.toml" := by decide +kernel
    refine ⟨"/work/b.toml", "output.format = 'text'",
      [("output", .table .dotted [("format", .string "text")])], [("format", .string "text")],
      ?_, ?_, ?_⟩
    · simp [World.find?, Files.find?, twoFiles, hpath]
    · cbv
    · exact ⟨Or.inr ⟨_, rfl⟩, by simp, rfl, rfl⟩

/-- The format asked for rescues a value that is none, and stands before the last file. -/
theorem build_ofSteps_twoFiles :
    (∀ path, Step.withFile path ∈ [.withFile "a.toml", .withFormat .yaml, .withFile "b.toml"] →
      (twoLayers path).IsAt twoFiles path) ∧
    [Step.withFile "a.toml", .withFormat .yaml] <+:
      [.withFile "a.toml", .withFormat .yaml, .withFile "b.toml"] ∧
    (∃ format, .withFormat format ∈ [Step.withFile "a.toml", .withFormat .yaml]) ∧
    (ofSteps [.withFile "a.toml", .withFormat .yaml]).build twoFiles = .ok ⟨.yaml, false⟩ ∧
    (ofSteps [.withFile "a.toml", .withFormat .yaml, .withFile "b.toml"]).build twoFiles =
      .ok ⟨.yaml, false⟩ := by
  have hfiles : ∀ path, Step.withFile path ∈
      [.withFile "a.toml", .withFormat .yaml, .withFile "b.toml"] →
        (twoLayers path).IsAt twoFiles path := by
    intro path hpath
    exact twoLayers_isAt (by simpa using hpath)
  have hshort : [Step.withFile "a.toml", .withFormat .yaml] <+:
      [.withFile "a.toml", .withFormat .yaml, .withFile "b.toml"] := by decide
  exact ⟨hfiles, hshort, ⟨.yaml, by simp⟩,
    build_ofSteps twoLayers hfiles hshort (Or.inl ⟨.yaml, by simp⟩),
    build_ofSteps twoLayers hfiles List.prefix_rfl (Or.inl ⟨.yaml, by simp⟩)⟩

end Loader

end DialogueScript.Settings
