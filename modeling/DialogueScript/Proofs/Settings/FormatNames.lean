import DialogueScript.Proofs.Settings.Layers
import DialogueScript.Proofs.Text.LetterCase
import DialogueScript.Proofs.Toml.Strings

/-! # Names of formats in files

A file may write the name of a format in letters of either case; where a format is asked for by its
name, the letters have to be small. But for that the names are the same. -/
namespace DialogueScript

/-! ### Names in either letter case -/

/-- The name of this format, if the case of its letters does not count. -/
def Format.IsNamed (format : Format) (name : String) : Prop :=
  name.toList.map Char.toLower = format.name.toList

instance (format : Format) (name : String) : Decidable (format.IsNamed name) :=
  inferInstanceAs (Decidable (_ = _))

theorem Format.letters_name (format : Format) :
    ∀ d ∈ format.name.toList, d ≠ 'k' ∧ d.isLower = true := by
  have hall : Format.all.all (fun format =>
      format.name.toList.all fun d => d != 'k' && d.isLower) = true := by decide
  have hmem : format ∈ Format.all := by cases format <;> decide
  have hletters := List.all_eq_true.mp (List.all_eq_true.mp hall format hmem)
  simpa using hletters

theorem Format.ofName?_eq_some_iff {name : String} {format : Format} :
    Format.ofName? name = some format ↔ name = format.name := by
  constructor
  · intro h
    have hname := List.find?_some h
    exact (of_decide_eq_true hname).symm
  · rintro rfl
    exact Settings.Loader.ofName?_name format

theorem Format.isNamed_name (format : Format) : format.IsNamed format.name := by
  cases format <;> decide

theorem Format.IsNamed.eq_name {name : String} {format : Format} (h : format.IsNamed name)
    (hsmall : ∀ c ∈ name.toList, ¬c.isUpper = true) : name = format.name := by
  have hself : name.toList.map Char.toLower = name.toList :=
    (List.map_congr_left fun c hc => Char.toLower_eq_of_not_isUpper (hsmall c hc)).trans
      (List.map_id _)
  exact String.toList_inj.mp (hself.symm.trans h)

/-- From such a name no format is parsed exactly if there are capitals in it. -/
theorem Format.IsNamed.ofName?_eq_none_iff {name : String} {format : Format}
    (h : format.IsNamed name) :
    Format.ofName? name = none ↔ ∃ c ∈ name.toList, c.isUpper = true := by
  constructor
  · intro hnone
    by_contra hsmall
    rw [h.eq_name (by simpa using hsmall), ofName?_eq_some_iff.mpr rfl] at hnone
    cases hnone
  · rintro ⟨c, hc, hupper⟩
    cases hname : Format.ofName? name with
    | none => rfl
    | some found =>
      obtain rfl := ofName?_eq_some_iff.mp hname
      exact absurd hupper (Char.not_isUpper_of_isLower (found.letters_name c hc).2)

namespace Settings

theorem lowerName_eq_name_iff {name : String} {format : Format} :
    Tree.lowerName name = format.name ↔ format.IsNamed name := by
  rw [← String.toList_inj, Tree.lowerName, String.toList_ofList,
    Text.lowercase_eq_iff format.letters_name, Format.IsNamed]

theorem formatNamed_eq_ok_iff {name : String} {format : Format} :
    formatNamed name = .ok format ↔ format.IsNamed name := by
  rw [← lowerName_eq_name_iff]
  constructor
  · intro h
    unfold formatNamed at h
    split at h
    · rename_i found hfound
      cases h
      have hname := List.find?_some hfound
      exact (of_decide_eq_true hname).symm
    · cases h
  · intro h
    rw [formatNamed, h]
    cases format <;> rfl

theorem formatNamed_eq_error_iff {name : String} {cause : Error} :
    formatNamed name = .error cause ↔
      (∀ format : Format, ¬format.IsNamed name) ∧ cause = .unknownFormat name := by
  cases hnamed : formatNamed name with
  | ok format => simpa using fun h => absurd (formatNamed_eq_ok_iff.mp hnamed) (h format)
  | error found =>
    have hnone : ∀ format : Format, ¬format.IsNamed name := by
      intro format hformat
      rw [formatNamed_eq_ok_iff.mpr hformat] at hnamed
      cases hnamed
    unfold formatNamed at hnamed
    split at hnamed <;> cases hnamed
    simp [hnone, eq_comm]

/-! ### Files that say a format, and nothing else -/

/-- There is a file at a path that can be read, and all that it says is the format. -/
def SaysFormat (world : World) (path name : String) : Prop :=
  ∃ place text kind, world.find? path = some (place, .text text) ∧
    Toml.read? (String.ofList (Toml.dropMark text.toList)) =
      some [("output", .table kind [("format", .string name)])]

def formatLine (name : String) : List Char :=
  "output.format = ".toList ++ Toml.writtenString name.toList

theorem readPair?_formatLine (name : String) :
    Toml.readPair? (formatLine name) = some ((["output", "format"], .string name), []) := by
  have hkey : Toml.readKey? (formatLine name) =
    some (["output", "format"], '=' :: ' ' :: Toml.writtenString name.toList) := rfl
  have hvalue :=
    Toml.readValue?_written (2 * (formatLine name).length + 1) Toml.depthLimit name.toList
  have hspace : Toml.dropSpacing (' ' :: Toml.writtenString name.toList) =
    Toml.writtenString name.toList := rfl
  rw [String.ofList_toList] at hvalue
  simp only [Toml.readPair?, hkey, Toml.expect?, Option.bind_eq_bind, Option.bind_some, if_true,
    hspace, hvalue]
  rfl

theorem read?_formatLine (name : String) : Toml.read? (String.ofList (formatLine name)) =
    some [("output", .table .dotted [("format", .string name)])] := by
  have hpair := readPair?_formatLine name
  have hsections : Toml.readSections? ((formatLine name).length + 1) (formatLine name) =
      some ([(["output", "format"], .string name)], []) := by
    -- The line starts with a letter, so it is neither empty nor a comment nor a header.
    change (Toml.readPair? (formatLine name) >>= fun read =>
      Toml.readSections? (formatLine name).length read.2 >>= fun more =>
        some (read.1 :: more.1, more.2)) = _
    rw [hpair]
    rfl
  have hmark : Toml.dropMark (formatLine name) = formatLine name := rfl
  simp only [Toml.read?, String.toList_ofList, hmark, hsections]
  rfl

/-- Every name can be said. -/
theorem saysFormat_formatLine {world : World} {path : String} {name : String}
    (h : world.files (Files.pathFrom world.directory path) =
      some (.text (String.ofList (formatLine name)))) : SaysFormat world path name := by
  have hmark : Toml.dropMark (formatLine name) = formatLine name := rfl
  refine ⟨_, _, .dotted, by rw [World.find?, Files.find?, h], ?_⟩
  rw [String.toList_ofList, hmark, read?_formatLine]

theorem SaysFormat.isAt {world : World} {path name : String} (h : SaysFormat world path name) :
    Layer.IsAt ⟨some (.string name), none⟩ world path := by
  obtain ⟨place, text, kind, hfind, hread⟩ := h
  refine ⟨place, text, _, [("format", .string name)], hfind, hread, ?_⟩
  exact ⟨Or.inr ⟨kind, rfl⟩, by simp, rfl, rfl⟩

theorem build_of_saysFormat {world : World} {path name : String} (h : SaysFormat world path name) :
    (Loader.defaults.withFile path).build world =
      (formatNamed name).map fun format => ⟨format, true⟩ := by
  obtain ⟨initial, hdefaults, hinitial⟩ := exists_defaults world
  obtain ⟨changed, shown, hadd, hholds, hshows⟩ :=
    addFile_of_isAt h.isAt 1 hinitial shows_default
  obtain ⟨origin, rfl⟩ := hshows name rfl
  have hbuild : (Loader.defaults.withFile path).build world = ofTree world.order changed := by
    simp [Loader.build, Loader.tree, Loader.defaults, Loader.withFile, Loader.addFormat, hdefaults,
      hadd, ok_bind]
  rw [hbuild, ofTree_of_holds _ hholds]
  rfl

/-- Every name can be said in a file. It is taken if it is the name of a format in letters of either
case, so also where no format is parsed from it because some of them are capitals. -/
theorem build_formatNames (name : String) :
    (∃ text, ∀ world path,
      world.files (Files.pathFrom world.directory path) = some (.text text) →
        SaysFormat world path name) ∧
    ∀ world path, SaysFormat world path name →
      (∀ settings, (Loader.defaults.withFile path).build world = .ok settings ↔
        ∃ format : Format, format.IsNamed name ∧ settings = ⟨format, true⟩) ∧
      (∀ cause, (Loader.defaults.withFile path).build world = .error cause ↔
        (∀ format : Format, ¬format.IsNamed name) ∧ cause = .unknownFormat name) ∧
      (∀ format, Format.ofName? name = some format →
        (Loader.defaults.withFile path).build world = .ok ⟨format, true⟩) ∧
      ∀ settings, (Loader.defaults.withFile path).build world = .ok settings →
        (Format.ofName? name = none ↔ ∃ c ∈ name.toList, c.isUpper = true) := by
  refine ⟨⟨String.ofList (formatLine name), fun _ _ h => saysFormat_formatLine h⟩, ?_⟩
  intro world path hsaid
  have hbuild := build_of_saysFormat hsaid
  have hok : ∀ settings, (Loader.defaults.withFile path).build world = .ok settings ↔
      ∃ format : Format, format.IsNamed name ∧ settings = ⟨format, true⟩ := by
    intro settings
    rw [hbuild, map_eq_ok_iff]
    simp only [formatNamed_eq_ok_iff, @eq_comm _ settings]
  refine ⟨hok, fun cause => ?_, fun format hformat => ?_, fun settings hsettings => ?_⟩
  · rw [hbuild, map_eq_error_iff, formatNamed_eq_error_iff]
  · have hnamed : format.IsNamed name := by
      rw [Format.ofName?_eq_some_iff.mp hformat]
      exact format.isNamed_name
    exact (hok _).mpr ⟨format, hnamed, rfl⟩
  · obtain ⟨format, hnamed, -⟩ := (hok settings).mp hsettings
    exact hnamed.ofName?_eq_none_iff

def capitalFile : World :=
  { World.empty with
    files := fun path =>
      if path = "/skit.toml" then some (.text "[output]\nformat = \"JSON\"\n") else none }

/-- A name that is taken from a file, though no format is parsed from it. -/
theorem build_formatNames_capitals :
    SaysFormat capitalFile "skit.toml" "JSON" ∧
      (Loader.defaults.withFile "skit.toml").build capitalFile = .ok ⟨.json, true⟩ ∧
      Format.ofName? "JSON" = none := by
  have hpath : Files.pathFrom "/" "skit.toml" = "/skit.toml" := by decide +kernel
  have hsaid : SaysFormat capitalFile "skit.toml" "JSON" := by
    refine ⟨"/skit.toml", "[output]\nformat = \"JSON\"\n", .headed, ?_, ?_⟩
    · simp [World.find?, Files.find?, capitalFile, World.empty, hpath]
    · cbv
  obtain ⟨hok, -, -, hparsed⟩ := (build_formatNames "JSON").2 _ _ hsaid
  have hbuild := (hok _).mpr ⟨.json, by decide, rfl⟩
  exact ⟨hsaid, hbuild, (hparsed _ hbuild).mpr ⟨'J', by decide, by decide⟩⟩

end Settings

end DialogueScript
