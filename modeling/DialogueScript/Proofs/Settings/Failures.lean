import DialogueScript.Proofs.Checks
import DialogueScript.Proofs.Settings.Layers

/-! # Files that cannot be loaded

A file that is not there, cannot be read or is no TOML cannot be made good: whatever is laid over it
or asked for, no settings are built. The first such file is the one complained about. -/
namespace DialogueScript.Settings

/-! ### One file -/

/-- The file that a path leads to, and where it is: at the path, or else with an extension added. -/
inductive Files.LeadsTo (files : Files) (path : String) : String → File → Prop
  | itself {file : File} (hfile : files path = some file) : LeadsTo files path path file
  | extended {place : String} {file : File} (hnone : files path = none)
      (hplace : withExtension? path = some place) (hfile : files place = some file) :
      LeadsTo files path place file

def World.LeadsTo (world : World) (path place : String) (file : File) : Prop :=
  world.files.LeadsTo (Files.pathFrom world.directory path) place file

inductive IsBroken (world : World) (path : String) : Error → Prop
  | notFound (hnone : ∀ place file, ¬world.LeadsTo path place file) :
      IsBroken world path (.notFound path)
  | unreadable {place reason : String} (hplace : world.LeadsTo path place (.unreadable reason)) :
      IsBroken world path (.unreadable reason)
  | notToml {place text content : String} (hplace : world.LeadsTo path place (.text text))
      (hcontent : content = String.ofList (Toml.dropMark text.toList))
      (hnone : Toml.read? content = none) :
      IsBroken world path
        (.notToml (world.report content) (some (Files.shown world.directory place)))

variable {world : World} {path place : String} {cause : Error}

theorem Files.find?_eq_some_iff {files : Files} {file : File} :
    files.find? path = some (place, file) ↔ files.LeadsTo path place file := by
  unfold find?
  constructor
  · intro h
    cases hpath : files path with
    | some found =>
      rw [hpath] at h
      cases h
      exact .itself hpath
    | none =>
      simp only [hpath, bind, Option.bind_eq_some_iff, pure, Option.some.injEq,
        Prod.mk.injEq] at h
      obtain ⟨extended, hextended, found, hfile, rfl, rfl⟩ := h
      exact .extended hpath hextended hfile
  · intro h
    cases h with
    | itself hfile => rw [hfile]
    | extended hnone hplace hfile => simp [hnone, hplace, hfile]

theorem World.find?_eq_some_iff {file : File} :
    world.find? path = some (place, file) ↔ world.LeadsTo path place file :=
  Files.find?_eq_some_iff

theorem World.find?_eq_none_iff : world.find? path = none ↔
    ∀ place file, ¬world.LeadsTo path place file := by
  rw [Option.eq_none_iff_forall_ne_some]
  simp only [Prod.forall, ne_eq, find?_eq_some_iff]

theorem World.leadsTo_of_pathFrom {file : File}
    (hpath : Files.pathFrom world.directory path = place) (hfile : world.files place = some file) :
    world.LeadsTo path place file := by
  subst hpath
  exact .itself hfile

namespace Loader

theorem addText_eq_error_iff {source : Nat} {origin : Option String} {tree : Tree}
    {text : String} : addText world source origin tree text = .error cause ↔
      Toml.read? text = none ∧ cause = .notToml (world.report text) origin := by
  unfold addText
  cases Toml.read? text with
  | none => simp [eq_comm]
  | some document => simp

/-- Whether a file can be laid over a tree depends neither on the tree nor on the files before. -/
theorem addFile_eq_error_iff {tree : Tree} {source : Nat} :
    addFile world tree (path, source) = .error cause ↔ IsBroken world path cause := by
  constructor
  · intro h
    unfold addFile at h
    dsimp only at h
    split at h
    · rename_i hfind
      cases h
      exact .notFound (World.find?_eq_none_iff.mp hfind)
    · rename_i reason hfind
      cases h
      exact .unreadable (World.find?_eq_some_iff.mp hfind)
    · rename_i place text hfind
      obtain ⟨hnone, rfl⟩ := addText_eq_error_iff.mp h
      exact .notToml (World.find?_eq_some_iff.mp hfind) rfl hnone
  · intro h
    unfold addFile
    cases h with
    | notFound hnone => simp only [World.find?_eq_none_iff.mpr hnone]
    | unreadable hplace => simp only [World.find?_eq_some_iff.mpr hplace]
    | notToml hplace hcontent hnone =>
      subst hcontent
      simp only [World.find?_eq_some_iff.mpr hplace]
      exact addText_eq_error_iff.mpr ⟨hnone, rfl⟩

theorem not_isBroken_of_read {text : String} {document : Toml.Entries}
    (hplace : world.LeadsTo path place (.text text))
    (hread : Toml.read? (String.ofList (Toml.dropMark text.toList)) = some document) :
    ¬IsBroken world path cause := by
  intro h
  have hadd : addFile world .empty (path, 0) = .error cause := addFile_eq_error_iff.mpr h
  simp [addFile, World.find?_eq_some_iff.mpr hplace, addText, hread] at hadd

/-! ### Files in a row -/

theorem exists_foldlM_addFile {sources : List (String × Nat)}
    (h : ∀ source ∈ sources, ∀ cause, ¬IsBroken world source.1 cause) (tree : Tree) :
    ∃ changed, sources.foldlM (addFile world) tree = .ok changed := by
  induction sources generalizing tree with
  | nil => exact ⟨tree, rfl⟩
  | cons source sources ih =>
    cases hadd : addFile world tree source with
    | error cause => exact absurd (addFile_eq_error_iff.mp hadd) (h source (by simp) cause)
    | ok next =>
      obtain ⟨changed, hfold⟩ := ih (fun other hother => h other (by simp [hother])) next
      exact ⟨changed, by rw [List.foldlM_cons, hadd]; exact hfold⟩

/-- Files that are laid over a broken one are not looked at. -/
theorem foldlM_addFile_of_isBroken {before : List String}
    (hbefore : ∀ path ∈ before, ∀ cause, ¬IsBroken world path cause)
    (hbroken : IsBroken world path cause) (after : List String) (source : Nat) (tree : Tree) :
    ((before ++ path :: after).zipIdx source).foldlM (addFile world) tree = .error cause := by
  have hsound : ∀ earlier ∈ before.zipIdx source, ∀ cause, ¬IsBroken world earlier.1 cause := by
    intro earlier hearlier
    exact hbefore earlier.1 (List.fst_mem_of_mem_zipIdx hearlier)
  obtain ⟨changed, hfold⟩ := exists_foldlM_addFile hsound tree
  rw [List.zipIdx_append, List.zipIdx_cons, List.foldlM_append, hfold, ok_bind, List.foldlM_cons,
    addFile_eq_error_iff.mpr hbroken]
  rfl

theorem paths_ofSteps (steps : List Step) : (ofSteps steps).paths = steps.filterMap Step.path? := by
  simp only [ofSteps, foldl_extend, defaults, List.nil_append]

theorem build_of_first {before : List Step}
    (hbefore : ∀ path, .withFile path ∈ before → ∀ cause, ¬IsBroken world path cause)
    (hbroken : IsBroken world path cause) (after : List Step) :
    (ofSteps (before ++ .withFile path :: after)).build world = .error cause := by
  have hpaths : (ofSteps (before ++ .withFile path :: after)).paths =
      before.filterMap Step.path? ++ path :: after.filterMap Step.path? := by
    rw [paths_ofSteps, List.filterMap_append, List.filterMap_cons, Step.path?]
  have hsound : ∀ other ∈ before.filterMap Step.path?, ∀ cause, ¬IsBroken world other cause :=
    fun other hother => hbefore other (mem_paths_iff.mp hother)
  obtain ⟨initial, hdefaults, -⟩ := exists_defaults world
  rw [build, tree, hpaths, hdefaults, ok_bind, foldlM_addFile_of_isBroken hsound hbroken]
  rfl

/-- If a file is broken then one of them is the first. -/
theorem exists_first {steps : List Step} (hmem : .withFile path ∈ steps)
    (hbroken : IsBroken world path cause) :
    ∃ before first after cause, steps = before ++ .withFile first :: after ∧
      (∀ earlier, .withFile earlier ∈ before → ∀ cause, ¬IsBroken world earlier cause) ∧
      IsBroken world first cause := by
  induction steps with
  | nil => cases hmem
  | cons step steps ih =>
    by_cases hstep : ∃ first cause, step = .withFile first ∧ IsBroken world first cause
    · obtain ⟨first, cause, rfl, hfirst⟩ := hstep
      exact ⟨[], first, steps, cause, rfl, by simp, hfirst⟩
    · rcases List.mem_cons.mp hmem with rfl | hlater
      · exact absurd ⟨path, cause, rfl, hbroken⟩ hstep
      obtain ⟨before, first, after, found, rfl, hbefore, hfirst⟩ := ih hlater
      refine ⟨step :: before, first, after, found, rfl, ?_, hfirst⟩
      intro earlier hearlier other hother
      rcases List.mem_cons.mp hearlier with rfl | hearlier
      · exact hstep ⟨earlier, other, rfl, hother⟩
      · exact hbefore earlier hearlier other hother

/-- Once a broken file is among the steps of a loader, the first such file is the error, whatever
steps come before, between and after. -/
theorem build_ofSteps_eq_error {steps : List Step} (hmem : .withFile path ∈ steps)
    (hbroken : IsBroken world path cause) :
    ∃ before first after cause, steps = before ++ .withFile first :: after ∧
      (∀ earlier, .withFile earlier ∈ before → ∀ cause, ¬IsBroken world earlier cause) ∧
      IsBroken world first cause ∧
      ∀ more, (ofSteps (before ++ .withFile first :: more)).build world = .error cause := by
  obtain ⟨before, first, after, found, hsteps, hbefore, hfirst⟩ := exists_first hmem hbroken
  exact ⟨before, first, after, found, hsteps, hbefore, hfirst, build_of_first hbefore hfirst⟩

/-- The report of a line that says `output` without quotes. -/
def unquotedReport (line : String) : String := "\n".intercalate [
  "TOML parse error at line 1, column 10",
  "  |",
  "1 | " ++ line,
  "  |          ^",
  "invalid string",
  "expected \x60\"\x60, \x60'\x60",
  ""]

/-- A file in order, one that is no TOML, and one that nobody may read. -/
def mixedFiles : World where
  files := fun path =>
    if path = "/work/good.toml" then some (.text "output.pretty = false")
    else if path = "/etc/bad.toml" then some (.text "output = json")
    else if path = "/work/locked" then some (.unreadable "Permission denied (os error 13)")
    else none
  directory := "/work"
  order := .written
  report := unquotedReport

theorem leadsTo_bad : mixedFiles.LeadsTo "/etc/bad" "/etc/bad.toml" (.text "output = json") := by
  have hpath : Files.pathFrom mixedFiles.directory "/etc/bad" = "/etc/bad" := by decide +kernel
  have hextended : Files.withExtension? "/etc/bad" = some "/etc/bad.toml" := by decide +kernel
  rw [World.LeadsTo, hpath]
  exact .extended (by simp [mixedFiles]) hextended (by simp [mixedFiles])

theorem leadsTo_locked : mixedFiles.LeadsTo "locked" "/work/locked"
    (.unreadable "Permission denied (os error 13)") :=
  World.leadsTo_of_pathFrom (by decide +kernel) (by simp [mixedFiles])

theorem leadsTo_good :
    mixedFiles.LeadsTo "good.toml" "/work/good.toml" (.text "output.pretty = false") :=
  World.leadsTo_of_pathFrom (by decide +kernel) (by simp [mixedFiles])

theorem isBroken_bad : IsBroken mixedFiles "/etc/bad"
    (.notToml (unquotedReport "output = json") (some "../etc/bad.toml")) := by
  have hshown : Files.shown "/work" "/etc/bad.toml" = "../etc/bad.toml" := by decide +kernel
  rw [← hshown]
  exact .notToml leadsTo_bad rfl (by cbv)

/-- Of two broken files the first is complained about, also when a format is asked for. -/
theorem build_ofSteps_eq_error_mixed :
    Step.withFile "locked" ∈ [.withFile "good.toml", .withFormat .json, .withFile "/etc/bad",
      .withFile "locked", .withFormat .yaml] ∧
    IsBroken mixedFiles "locked" (.unreadable "Permission denied (os error 13)") ∧
    ∀ more, (ofSteps ([.withFile "good.toml", .withFormat .json, .withFile "/etc/bad",
      .withFile "locked", .withFormat .yaml] ++ more)).build mixedFiles =
        .error (.notToml (unquotedReport "output = json") (some "../etc/bad.toml")) := by
  have hmem : Step.withFile "locked" ∈ [.withFile "good.toml", .withFormat .json,
      .withFile "/etc/bad", .withFile "locked", .withFormat .yaml] := by simp
  have hlocked := IsBroken.unreadable leadsTo_locked
  have hread : Toml.read? (String.ofList (Toml.dropMark "output.pretty = false".toList)) =
      some [("output", .table .dotted [("pretty", .boolean false)])] := by cbv
  have hsound : ∀ path, .withFile path ∈ [Step.withFile "good.toml", .withFormat .json] →
      ∀ cause, ¬IsBroken mixedFiles path cause := by
    simpa using fun cause => not_isBroken_of_read leadsTo_good hread
  have hbuild := build_of_first hsound isBroken_bad [.withFile "locked", .withFormat .yaml]
  obtain ⟨before, first, after, cause, hsteps, -, -, hall⟩ := build_ofSteps_eq_error hmem hlocked
  rw [List.cons_append, List.singleton_append, hsteps, hall, Except.error.injEq] at hbuild
  subst hbuild
  refine ⟨hmem, hlocked, fun more => ?_⟩
  rw [hsteps, List.append_assoc, List.cons_append]
  exact hall (after ++ more)

end Loader

end DialogueScript.Settings
