import Rowsmith.Proofs.Files.Draft
import Rowsmith.Proofs.Files.PathOrder
import Rowsmith.Proofs.Files.Settling

/-!
# The three modes

Where files go is a matter of places and not of spellings. If every file has a place of its own,
away from where the others are drafted, the three modes tell of the same paths, whatever the order
of the files, and a run that ends well changes what it reports and nothing else.
-/

namespace Rowsmith

open FileSystem

variable {folder : String} {generated : List GeneratedFile} {files : FileSystem}

/-!
# Files apart
-/

section Apart

variable {all : List GeneratedFile} (hapart : all.Pairwise (GeneratedFile.Apart files))

include hapart

theorem toWrite_changedPaths :
    toWrite (changedPaths files all) all = all.filter fun file => !files.holds file := by
  unfold toWrite changedPaths
  apply List.filter_congr
  intro file hfile
  rw [Bool.eq_iff_iff, List.any_eq_true]
  constructor
  · intro hany
    rcases hany with ⟨path, hpath, hsame⟩
    rcases List.mem_map.mp hpath with ⟨other, hother, rfl⟩
    rcases List.mem_filter.mp hother with ⟨hmem, hchanged⟩
    have hparts : Path.parts other.path = Path.parts file.path := by
      simpa [Path.same] using hsame
    rw [eq_of_destination hapart hfile hmem (destination_eq_of_parts hparts.symm)]
    exact hchanged
  · intro hchanged
    exact ⟨file.path, List.mem_map_of_mem (List.mem_filter.mpr ⟨hfile, hchanged⟩),
      by simp [Path.same]⟩

theorem paths_toWrite :
    (toWrite (changedPaths files all) all).map (·.path) = changedPaths files all := by
  rw [toWrite_changedPaths hapart]
  rfl

end Apart

/-!
# Reports
-/

def stalePaths (folder : String) (generated : List GeneratedFile) (files : FileSystem) :
    List String :=
  changedPaths files (placed folder generated)

theorem mem_stalePaths_iff {path : String} :
    path ∈ stalePaths folder generated files ↔
      ∃ file ∈ generated, Path.join folder file.path = path ∧
        files.readText path ≠ .ok file.content := by
  unfold stalePaths changedPaths
  simp only [List.mem_map, List.mem_filter, Bool.not_eq_true', ← Bool.not_eq_true, holds_iff]
  constructor
  · intro hstale
    rcases hstale with ⟨file, ⟨hfile, hchanged⟩, rfl⟩
    rcases mem_placed_iff.mp hfile with ⟨own, hown, rfl⟩
    exact ⟨own, hown, rfl, hchanged⟩
  · intro hstale
    rcases hstale with ⟨own, hown, rfl, hchanged⟩
    exact ⟨⟨_, own.content⟩, ⟨mem_placed_iff.mpr ⟨own, hown, rfl⟩, hchanged⟩, rfl⟩

theorem stalePaths_sorted (folder : String) (generated : List GeneratedFile) (files : FileSystem) :
    (stalePaths folder generated files).Pairwise fun path later => Path.le path later = true :=
  List.pairwise_map.mpr ((placed_sorted folder generated).filter _)

/-- What the modes do on one tree, given the paths to tell of. A run that writes sets out to replace
the files of these paths one after the other, and it touches only their places and the places of
their drafts, even if it fails. -/
structure ModesAgree (folder : String) (generated : List GeneratedFile) (files : FileSystem)
    (reported : List String) : Prop where
  stale : ∀ path, path ∈ reported ↔
    ∃ file ∈ generated, Path.join folder file.path = path ∧ files.readText path ≠ .ok file.content
  sorted : reported.Pairwise fun path later => Path.le path later = true
  dryRun : writeFiles .dryRun folder generated files =
    ⟨.ok ⟨reported, []⟩, announce "would write" reported, files⟩
  check : writeFiles .check folder generated files =
    ⟨if reported.isEmpty then .ok {} else .error .outOfDate, "", files⟩
  replaced : ∃ pending : List GeneratedFile, pending ⊆ placed folder generated ∧
    pending.map (·.path) = reported ∧
    (writeFiles .write folder generated files).files =
      stateAfter ((replaceFiles pending).run files)
  touched : ChangesOnly
    (fun location => ∃ path ∈ reported, location = files.destination (Path.temporary path) ∨
      location = files.destination path)
    files (writeFiles .write folder generated files).files

structure EndsWell (folder : String) (generated : List GeneratedFile) (files : FileSystem)
    (reported : List String) (report : WriteReport) : Prop where
  result : report.result = .ok ⟨reported, reported⟩
  output : report.output = announce "wrote" reported
  settled : Settled folder generated report.files
  folders : MakesFoldersAt (reported.flatMap Path.above) files report.files
  draftPaths : ∀ path ∈ reported, Path.temporary path = path ++ ".tmp"
  drafts : ∀ path ∈ reported, DraftCleared reported files report.files path

theorem files_writeFiles :
    (writeFiles .write folder generated files).files =
      stateAfter ((replaceFiles (toWrite (stalePaths folder generated files)
        (placed folder generated))).run files) := by
  unfold stalePaths
  cases hrun : (replaceFiles (toWrite (changedPaths files (placed folder generated))
    (placed folder generated))).run files with
  | ok _ after => rw [writeFiles_of_ok hrun, stateAfter]
  | error error after => rw [writeFiles_of_error hrun, stateAfter]

section Modes

variable (hapart : (placed folder generated).Pairwise (GeneratedFile.Apart files))

include hapart

theorem modesAgree : ModesAgree folder generated files (stalePaths folder generated files) := by
  have hpaths := paths_toWrite hapart
  constructor
  · intro path
    exact mem_stalePaths_iff
  · exact stalePaths_sorted folder generated files
  · rfl
  · unfold writeFiles
    dsimp only
    unfold stalePaths
    split <;> rfl
  · exact ⟨_, List.filter_sublist.subset, hpaths, files_writeFiles⟩
  · rw [files_writeFiles]
    apply (replaceFiles_changesOnly _ files).mono
    intro location hlocation
    rcases hlocation with ⟨file, hfile, htouched⟩
    refine ⟨file.path, ?_, htouched⟩
    unfold stalePaths
    rw [← hpaths]
    exact List.mem_map_of_mem hfile

theorem endsWell {summary : WriteSummary}
    (h : (writeFiles .write folder generated files).result = .ok summary) :
    EndsWell folder generated files (stalePaths folder generated files)
      (writeFiles .write folder generated files) := by
  have hrun := writeFiles_eq_ok h
  have hpaths := paths_toWrite hapart
  have hreport : writeFiles .write folder generated files =
      ⟨.ok ⟨stalePaths folder generated files, stalePaths folder generated files⟩,
        announce "wrote" (stalePaths folder generated files),
        (writeFiles .write folder generated files).files⟩ := by
    apply (writeFiles_of_ok hrun).trans
    rw [hpaths]
    rfl
  have hfolders := folders_of_replaceFiles hrun
  have hdrafts := drafts_of_replaceFiles hrun (hapart.filter _)
  rw [hpaths] at hfolders hdrafts
  have hmember : ∀ path ∈ stalePaths folder generated files,
      ∃ file ∈ toWrite (changedPaths files (placed folder generated)) (placed folder generated),
        file.path = path := by
    intro path hpath
    rw [stalePaths, ← hpaths] at hpath
    exact List.mem_map.mp hpath
  constructor
  · rw [hreport]
  · rw [hreport]
  · exact settled_of_present (present_of_writeFiles hapart h)
  · exact hfolders
  · intro path hpath
    rcases hmember path hpath with ⟨file, hfile, rfl⟩
    exact (hdrafts file hfile).left
  · intro path hpath
    rcases hmember path hpath with ⟨file, hfile, rfl⟩
    exact (hdrafts file hfile).right

theorem writeFiles_perm {other : List GeneratedFile} (h : other.Perm generated)
    (mode : WriteMode) :
    writeFiles mode folder other files = writeFiles mode folder generated files := by
  have hplaced := placed_eq_of_perm h fun file hfile later hlater =>
    eq_of_destination hapart hfile hlater
  unfold writeFiles
  rw [hplaced]

end Modes

/-- Over files with places of their own a dry run and a check leave the tree alone and tell of the
paths that a normal run sets out to write. If that run ends well, all files are there, later runs
find nothing to do, and no draft is left. The order of the files does not matter. -/
theorem writer_modes_agree
    (hapart : (placed folder generated).Pairwise (GeneratedFile.Apart files)) :
    ModesAgree folder generated files (stalePaths folder generated files) ∧
      (∀ summary, (writeFiles .write folder generated files).result = .ok summary →
        EndsWell folder generated files (stalePaths folder generated files)
          (writeFiles .write folder generated files)) ∧
      ∀ other : List GeneratedFile, other.Perm generated → ∀ mode,
        writeFiles mode folder other files = writeFiles mode folder generated files := by
  refine ⟨modesAgree hapart, ?_, ?_⟩
  · intro summary h
    exact endsWell hapart h
  · intro other h mode
    exact writeFiles_perm hapart h mode

/-- One file is out of date and one is missing. -/
theorem stale_and_missing_files_agree :
    let generated : List GeneratedFile := [⟨"schema/a.rs", "new"⟩, ⟨"b.rs", "new"⟩]
    let files : FileSystem := ⟨[(["out"], .folder), (["out", "b.rs"], .file (.text "old"))], []⟩
    (placed "out" generated).Pairwise (GeneratedFile.Apart files) ∧
      (writeFiles .write "out" generated files).result =
        .ok ⟨["out/b.rs", "out/schema/a.rs"], ["out/b.rs", "out/schema/a.rs"]⟩ ∧
      EndsWell "out" generated files ["out/b.rs", "out/schema/a.rs"]
        (writeFiles .write "out" generated files) := by
  intro generated files
  have hplaced : placed "out" generated = [⟨"out/b.rs", "new"⟩, ⟨"out/schema/a.rs", "new"⟩] := by
    have hle : Path.le "out/schema/a.rs" "out/b.rs" = false := by decide +kernel
    show List.mergeSort ([⟨"out/schema/a.rs", _⟩, ⟨"out/b.rs", _⟩] : List GeneratedFile) _ = _
    simp [List.mergeSort, List.MergeSort.Internal.splitInTwo, hle]
  have hapart : (placed "out" generated).Pairwise (GeneratedFile.Apart files) := by
    rw [hplaced]
    decide +kernel
  have hstale : stalePaths "out" generated files = ["out/b.rs", "out/schema/a.rs"] := by
    unfold stalePaths
    rw [hplaced]
    decide +kernel
  have hresult : (writeFiles .write "out" generated files).result =
      .ok ⟨["out/b.rs", "out/schema/a.rs"], ["out/b.rs", "out/schema/a.rs"]⟩ := by
    unfold writeFiles
    rw [hplaced]
    decide +kernel
  have hends := (writer_modes_agree hapart).2.1 _ hresult
  rw [hstale] at hends
  exact ⟨hapart, hresult, hends⟩

/-!
# Spellings
-/

/-- Neither path is equal to the other one, above it, or its draft. -/
def Path.Separate (path other : String) : Prop :=
  ¬parts path <+: parts other ∧ ¬parts other <+: parts path ∧
    parts (temporary path) ≠ parts other ∧ parts (temporary other) ≠ parts path

instance (path other : String) : Decidable (Path.Separate path other) := by
  unfold Path.Separate
  infer_instance

/-- Spellings that are separate do not keep files apart. One file can be spelled in two ways, and
then the one written last stands and every later run writes again; and a folder above one file can
stand where another one was drafted. A run that fails does not write all that a dry run tells of. -/
theorem separate_spellings_are_not_enough :
    let twice : List GeneratedFile := [⟨"a.rs", "1"⟩, ⟨"./a.rs", "2"⟩]
    let nested : List GeneratedFile := [⟨"a", "1"⟩, ⟨"a.tmp/b", "2"⟩]
    let blocked : FileSystem := ⟨[(["out"], .folder), (["out", "a"], .folder)], []⟩
    (Path.Separate "a.rs" "./a.rs" ∧
      (writeFiles .write "out" twice ⟨[], []⟩).result =
        .ok ⟨["out/a.rs", "out/./a.rs"], ["out/a.rs", "out/./a.rs"]⟩ ∧
      (writeFiles .write "out" twice ⟨[], []⟩).files.readText "out/a.rs" = .ok "2" ∧
      (writeFiles .write "out" twice.reverse ⟨[], []⟩).files.readText "out/a.rs" = .ok "1" ∧
      (writeFiles .write "out" twice (writeFiles .write "out" twice ⟨[], []⟩).files).result =
        .ok ⟨["out/a.rs"], ["out/a.rs", "out/./a.rs"]⟩) ∧
    (Path.Separate "a" "a.tmp/b" ∧
      (writeFiles .write "out" nested ⟨[], []⟩).result =
        .ok ⟨["out/a", "out/a.tmp/b"], ["out/a", "out/a.tmp/b"]⟩ ∧
      (writeFiles .write "out" nested ⟨[], []⟩).files.at? (Path.temporary "out/a") =
        .ok .folder) ∧
    (writeFiles .dryRun "out" [⟨"a", "1"⟩] blocked).result = .ok ⟨["out/a"], []⟩ ∧
      (writeFiles .write "out" [⟨"a", "1"⟩] blocked).result =
        .error (.move "out/a.tmp" "out/a" .isDirectory) := by
  intro twice nested blocked
  have htwice : placed "out" twice = [⟨"out/a.rs", "1"⟩, ⟨"out/./a.rs", "2"⟩] := by
    have hle : Path.le "out/a.rs" "out/./a.rs" = true := by decide +kernel
    show List.mergeSort ([⟨"out/a.rs", _⟩, ⟨"out/./a.rs", _⟩] : List GeneratedFile) _ = _
    simp [List.mergeSort, List.MergeSort.Internal.splitInTwo, hle]
  have hreverse : placed "out" twice.reverse = [⟨"out/./a.rs", "2"⟩, ⟨"out/a.rs", "1"⟩] := by
    have hle : Path.le "out/./a.rs" "out/a.rs" = true := by decide +kernel
    show List.mergeSort ([⟨"out/./a.rs", _⟩, ⟨"out/a.rs", _⟩] : List GeneratedFile) _ = _
    simp [List.mergeSort, List.MergeSort.Internal.splitInTwo, hle]
  have hnested : placed "out" nested = [⟨"out/a", "1"⟩, ⟨"out/a.tmp/b", "2"⟩] := by
    have hle : Path.le "out/a" "out/a.tmp/b" = true := by decide +kernel
    show List.mergeSort ([⟨"out/a", _⟩, ⟨"out/a.tmp/b", _⟩] : List GeneratedFile) _ = _
    simp [List.mergeSort, List.MergeSort.Internal.splitInTwo, hle]
  have hblocked : placed "out" [⟨"a", "1"⟩] = [⟨"out/a", "1"⟩] := by
    show List.mergeSort ([⟨"out/a", _⟩] : List GeneratedFile) _ = _
    simp
  unfold writeFiles
  rw [htwice, hreverse, hnested, hblocked]
  decide +kernel

end Rowsmith
