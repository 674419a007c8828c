import Rowsmith.Proofs.Files.Modes

/-!
# Runs that stop at a file

A run stops at the first file that cannot be put in its place. Whatever step of the replacement
failed, a place that only one file goes to holds what it held before or the new content in full.
Nothing else changes but where the file was drafted, or one that was put in its place before it.
-/

namespace Rowsmith

open FileSystem

/-!
# Contents
-/

def FileSystem.content? (files : FileSystem) (location : Location) : Option Content :=
  match files.node? location with
  | some (.file content) => some content
  | some .folder => none
  | none => none

section Contents

variable {files before after : FileSystem} {location : Location} {content : Content}

theorem content?_eq_some_iff :
    files.content? location = some content ↔ files.node? location = some (.file content) := by
  unfold FileSystem.content?
  split
  · next held hnode => simp [hnode]
  · next hnode => simp [hnode]
  · next hnode => simp [hnode]

theorem FileSystem.ChangesOnly.content? {touched : Location → Prop}
    (h : ChangesOnly touched before after) (hfree : ¬touched location) :
    after.content? location = before.content? location := by
  apply Option.ext
  intro content
  rw [content?_eq_some_iff, content?_eq_some_iff]
  exact h.files location content hfree

theorem content?_of_readText {path s : String} (h : files.readText path = .ok s) :
    files.content? (files.destination path) = some (.text s) := by
  rcases readText_eq_ok_iff.mp h with ⟨location, hlocate, hnode, _⟩
  rw [content?_eq_some_iff, ← locate_eq_ok hlocate]
  exact hnode

end Contents

/-!
# One file
-/

/-- Where the file goes there is what was there before or the whole new content. -/
def GeneratedFile.KeptOrPut (file : GeneratedFile) (before after : FileSystem) : Prop :=
  after.content? (before.destination file.path) = before.content? (before.destination file.path) ∨
    after.content? (before.destination file.path) = some (.text file.content)

namespace GeneratedFile.KeptOrPut

variable {file : GeneratedFile} {before middle after : FileSystem}

theorem of_changesOnly {touched : Location → Prop} (h : ChangesOnly touched before after)
    (hfree : ¬touched (before.destination file.path)) : file.KeptOrPut before after :=
  Or.inl (h.content? hfree)

theorem trans (h : file.KeptOrPut before middle) (h' : file.KeptOrPut middle after)
    (hplace : middle.destination file.path = before.destination file.path) :
    file.KeptOrPut before after := by
  unfold KeptOrPut at h' ⊢
  rw [hplace] at h'
  rcases h' with hkept | hput
  · rw [hkept]
    exact h
  · exact Or.inr hput

theorem put (h : file.KeptOrPut middle after)
    (hput : middle.content? (middle.destination file.path) = some (.text file.content)) :
    after.content? (middle.destination file.path) = some (.text file.content) := by
  rcases h with hkept | hnew
  · rw [hkept, hput]
  · exact hnew

end GeneratedFile.KeptOrPut

theorem replaceFile_eq_error {file : GeneratedFile} {files failed : FileSystem}
    {error : WriteError} (h : (replaceFile file).run files = .error error failed) :
    ChangesOnly Nowhere files failed ∨
      ∃ parented draft, file.Drafts files parented draft ∧ failed = file.drafted parented draft := by
  rcases replaceFile_cases file files with
    ⟨_, stopped, hrun, hstopped⟩ |
      ⟨parented, draft, hdrafts, ⟨_, hrun⟩ | ⟨place, _, _, _, hrun⟩⟩
  · rw [hrun] at h
    cases h
    exact Or.inl hstopped
  · rw [hrun] at h
    cases h
    exact Or.inr ⟨parented, draft, hdrafts, rfl⟩
  · rw [hrun] at h
    cases h

section Failing

variable {file : GeneratedFile} {files failed : FileSystem} {error : WriteError}
  (h : (replaceFile file).run files = .error error failed)

include h

theorem changesOnly_of_replaceFile_error :
    ChangesOnly (· = files.destination (Path.temporary file.path)) files failed := by
  rcases replaceFile_eq_error h with hnothing | ⟨parented, draft, hdrafts, rfl⟩
  · exact hnothing.anywhere
  · exact hdrafts.drafted_changesOnly

/-- A draft in the place of its own file would be the whole new content too. -/
theorem keptOrPut_of_replaceFile_error : file.KeptOrPut files failed := by
  by_cases hdraft : files.destination file.path = files.destination (Path.temporary file.path)
  · rcases replaceFile_eq_error h with hnothing | ⟨parented, draft, hdrafts, rfl⟩
    · exact .of_changesOnly hnothing id
    · right
      rw [content?_eq_some_iff, hdraft, ← hdrafts.draft_eq]
      exact hdrafts.node?_drafted
  · exact .of_changesOnly (changesOnly_of_replaceFile_error h) hdraft

end Failing

theorem put_of_replaceFile {file : GeneratedFile} {files after : FileSystem}
    (h : (replaceFile file).run files = .ok () after) :
    after.content? (files.destination file.path) = some (.text file.content) := by
  have hreplaced := replaceFile_replaced file files
  rw [h] at hreplaced
  rw [← hreplaced.left.destination]
  exact content?_of_readText hreplaced.right

/-!
# Several files
-/

/-- No other one of the files goes to the place of this one or is drafted there. -/
def GeneratedFile.AloneAmong (file : GeneratedFile) (listed : List GeneratedFile)
    (files : FileSystem) : Prop :=
  ∀ other ∈ listed, other ≠ file → ¬other.Touches files (files.destination file.path)

theorem GeneratedFile.AloneAmong.subset {file : GeneratedFile} {listed pending : List GeneratedFile}
    {files : FileSystem} (h : file.AloneAmong listed files) (hsubset : pending ⊆ listed) :
    file.AloneAmong pending files :=
  fun other hother => h other (hsubset hother)

theorem GeneratedFile.AloneAmong.later {file first : GeneratedFile} {rest : List GeneratedFile}
    {files middle : FileSystem} (h : file.AloneAmong (first :: rest) files)
    (hfirst : (replaceFile first).run files = .ok () middle) : file.AloneAmong rest middle := by
  have hchanges := changesOnly_of_replaceFile hfirst
  intro other hother hne
  rw [touches_of_changesOnly hchanges, hchanges.destination]
  exact h other (List.mem_cons_of_mem first hother) hne

theorem keptOrPut_replaceFile {file other : GeneratedFile} {files : FileSystem}
    (halone : other ≠ file → ¬other.Touches files (files.destination file.path)) :
    file.KeptOrPut files (stateAfter ((replaceFile other).run files)) := by
  by_cases hsame : other = file
  · rw [hsame]
    cases hrun : (replaceFile file).run files with
    | ok _ after => exact Or.inr (put_of_replaceFile hrun)
    | error error failed => exact keptOrPut_of_replaceFile_error hrun
  · exact .of_changesOnly (replaceFile_changesOnly other files) (halone hsame)

theorem keptOrPut_replaceFiles {file : GeneratedFile} {pending : List GeneratedFile}
    {files : FileSystem} (halone : file.AloneAmong pending files) :
    file.KeptOrPut files (stateAfter ((replaceFiles pending).run files)) := by
  induction pending generalizing files with
  | nil => exact Or.inl rfl
  | cons first rest ih =>
      have hstep := keptOrPut_replaceFile (halone first (by simp))
      unfold replaceFiles
      rw [EStateM.run_bind]
      cases hrun : (replaceFile first).run files with
      | error error failed =>
          rw [hrun] at hstep
          exact hstep
      | ok _ middle =>
          rw [hrun] at hstep
          exact hstep.trans (ih (halone.later hrun))
            ((changesOnly_of_replaceFile hrun).destination file.path)

theorem put_of_replaceFiles {file : GeneratedFile} {pending : List GeneratedFile}
    {files after : FileSystem} (hrun : (replaceFiles pending).run files = .ok () after)
    (hfile : file ∈ pending) (halone : file.AloneAmong pending files) :
    after.content? (files.destination file.path) = some (.text file.content) := by
  induction pending generalizing files with
  | nil => cases hfile
  | cons first rest ih =>
      rcases replaceFiles_cons_eq_ok hrun with ⟨middle, hfirst, hrest⟩
      have hplace := (changesOnly_of_replaceFile hfirst).destination file.path
      rw [← hplace]
      rcases List.mem_cons.mp hfile with rfl | hmem
      · have hkept := keptOrPut_replaceFiles (halone.later hfirst)
        rw [hrest] at hkept
        apply hkept.put
        rw [hplace]
        exact put_of_replaceFile hfirst
      · exact ih hrest hmem (halone.later hfirst)

/-!
# Where a run stops
-/

theorem replaceFiles_eq_error {pending : List GeneratedFile} {files failed : FileSystem}
    {error : WriteError} (h : (replaceFiles pending).run files = .error error failed) :
    ∃ done stopped rest middle, pending = done ++ stopped :: rest ∧
      (replaceFiles done).run files = .ok () middle ∧
      (replaceFile stopped).run middle = .error error failed := by
  induction pending generalizing files with
  | nil => cases h
  | cons file rest ih =>
      unfold replaceFiles at h
      rw [EStateM.run_bind] at h
      cases hfile : (replaceFile file).run files with
      | error fault stopped =>
          rw [hfile] at h
          cases h
          exact ⟨[], file, rest, files, rfl, rfl, hfile⟩
      | ok _ reached =>
          rw [hfile] at h
          rcases ih h with ⟨done, stopped, others, middle, rfl, hdone, hstopped⟩
          refine ⟨file :: done, stopped, others, middle, rfl, ?_, hstopped⟩
          unfold replaceFiles
          rw [EStateM.run_bind, hfile]
          exact hdone

/-- What a run leaves that has put some files in their places and stopped at the next one. -/
structure StopsAt (done : List GeneratedFile) (stopped : GeneratedFile)
    (before after : FileSystem) : Prop where
  changes : ChangesOnly
    (fun location => Touched done before location ∨
      location = before.destination (Path.temporary stopped.path))
    before after
  appeared : ∀ location, before.content? location = none → after.content? location ≠ none →
    (∃ file ∈ done, location = before.destination file.path) ∨
      location = before.destination (Path.temporary stopped.path)
  put : ∀ file ∈ done, file.AloneAmong (done ++ [stopped]) before →
    after.content? (before.destination file.path) = some (.text file.content)

theorem stopsAt_of_replaceFiles {done : List GeneratedFile} {stopped : GeneratedFile}
    {files middle failed : FileSystem} {error : WriteError}
    (hdone : (replaceFiles done).run files = .ok () middle)
    (hstopped : (replaceFile stopped).run middle = .error error failed) :
    StopsAt done stopped files failed := by
  have hbefore : ChangesOnly (Touched done files) files middle := by
    have hchanges := replaceFiles_changesOnly done files
    rwa [hdone] at hchanges
  have hlast := changesOnly_of_replaceFile_error hstopped
  rw [hbefore.destination] at hlast
  constructor
  · exact (hbefore.mono fun _ => Or.inl).trans (hlast.mono fun _ => Or.inr)
  · intro location hnone hsome
    by_contra hneither
    rw [not_or, not_exists] at hneither
    rcases hneither with ⟨hplaces, hdraft⟩
    rw [hlast.content? hdraft] at hsome
    rcases Option.ne_none_iff_exists'.mp hsome with ⟨content, hcontent⟩
    refine no_file_of_replaceFiles hdone ?_ ?_ content (content?_eq_some_iff.mp hcontent)
    · intro file hfile hplace
      exact hplaces file ⟨hfile, hplace⟩
    · intro held hheld
      rw [← content?_eq_some_iff, hnone] at hheld
      cases hheld
  · intro file hfile halone
    have hput := put_of_replaceFiles hdone hfile
      (halone.subset (List.subset_append_left done [stopped]))
    have hfree : stopped ≠ file → ¬stopped.Touches middle (middle.destination file.path) := by
      rw [touches_of_changesOnly hbefore, hbefore.destination]
      exact halone stopped (by simp)
    have hkept := keptOrPut_replaceFile hfree
    rw [hstopped] at hkept
    rw [← hbefore.destination] at hput ⊢
    exact hkept.put hput

def pendingFiles (folder : String) (generated : List GeneratedFile) (files : FileSystem) :
    List GeneratedFile :=
  toWrite (stalePaths folder generated files) (placed folder generated)

/-- A run that fails leaves the place of a listed file as it was or with the new content in full,
unless another file that is to be written goes there or is drafted there. A check that fails changes
nothing. Any other run stops at some file, and nothing changes but the places and drafts of the
files before it, which have been put there, and its own draft; no file appears but in those places
and, at most, as that draft. -/
theorem failed_run_keeps_or_completes {mode : WriteMode} {folder : String}
    {generated : List GeneratedFile} {files : FileSystem} {error : WriteError}
    (h : (writeFiles mode folder generated files).result = .error error) :
    (∀ file ∈ placed folder generated,
        file.AloneAmong (pendingFiles folder generated files) files →
        file.KeptOrPut files (writeFiles mode folder generated files).files) ∧
      (mode = .check ∧ (writeFiles mode folder generated files).files = files ∨
        mode = .write ∧ ∃ done stopped,
          done ++ [stopped] <+: pendingFiles folder generated files ∧
          StopsAt done stopped files (writeFiles mode folder generated files).files) := by
  cases mode with
  | dryRun => cases h
  | check =>
      rw [files_writeFiles_of_ne_write (by decide)]
      exact ⟨fun _ _ _ => Or.inl rfl, Or.inl ⟨rfl, rfl⟩⟩
  | write =>
      have hrun : (replaceFiles (pendingFiles folder generated files)).run files =
          .error error (writeFiles .write folder generated files).files := writeFiles_eq_error h
      constructor
      · intro file _ halone
        have hkept := keptOrPut_replaceFiles halone
        rwa [hrun] at hkept
      · rcases replaceFiles_eq_error hrun with
          ⟨done, stopped, rest, middle, hpending, hdone, hstopped⟩
        refine Or.inr ⟨rfl, done, stopped, ⟨rest, ?_⟩, stopsAt_of_replaceFiles hdone hstopped⟩
        rw [hpending, List.append_assoc]
        rfl

/-- One file is put in its place, and a folder is in the place of the next one. -/
theorem run_stops_at_folder :
    let generated : List GeneratedFile := [⟨"a", "new"⟩, ⟨"b", "new"⟩]
    let files : FileSystem :=
      ⟨[(["out"], .folder), (["out", "a"], .file (.text "old")), (["out", "b"], .folder)], []⟩
    let pending : List GeneratedFile := [⟨"out/a", "new"⟩, ⟨"out/b", "new"⟩]
    let after := (writeFiles .write "out" generated files).files
    (writeFiles .write "out" generated files).result =
        .error (.move "out/b.tmp" "out/b" .isDirectory) ∧
      placed "out" generated = pending ∧ pendingFiles "out" generated files = pending ∧
      (∀ file ∈ pending, file.AloneAmong pending files ∧ file.KeptOrPut files after) ∧
      ∃ done stopped, done ++ [stopped] <+: pending ∧ StopsAt done stopped files after := by
  intro generated files pending after
  have hplaced : placed "out" generated = pending := placed_of_sorted (by decide +kernel)
  have hresult : (writeFiles .write "out" generated files).result =
      .error (.move "out/b.tmp" "out/b" .isDirectory) := by
    unfold writeFiles
    rw [hplaced]
    decide +kernel
  have hpending : pendingFiles "out" generated files = pending := by
    unfold pendingFiles stalePaths
    rw [hplaced]
    decide +kernel
  have halone : ∀ file ∈ pending, file.AloneAmong pending files := by
    unfold GeneratedFile.AloneAmong GeneratedFile.Touches
    decide +kernel
  rcases failed_run_keeps_or_completes hresult with ⟨hplaces, ⟨hmode, _⟩ | ⟨_, hstops⟩⟩
  · cases hmode
  · rw [hpending] at hplaces hstops
    rw [hplaced] at hplaces
    exact ⟨hresult, hplaced, hpending,
      fun file hfile => ⟨halone file hfile, hplaces file hfile (halone file hfile)⟩, hstops⟩

/-- A draft can be left where nothing was; a file can be lost that was where another one was
drafted, be it listed or not; and of two files with one place the last one can stand. -/
theorem failed_run_leaves_and_loses_files :
    let blocked : FileSystem := ⟨[(["out"], .folder), (["out", "b"], .folder)], []⟩
    let occupied : FileSystem := blocked.put ["out", "a.tmp"] (.file (.text "2"))
    let left := writeFiles .write "out" [⟨"b", "1"⟩] blocked
    let lost := writeFiles .write "out" [⟨"a", "1"⟩, ⟨"b", "1"⟩] occupied
    let listed := writeFiles .write "out" [⟨"a", "1"⟩, ⟨"a.tmp", "2"⟩, ⟨"b", "1"⟩] occupied
    let twice := writeFiles .write "out" [⟨"a", "1"⟩, ⟨"./a", "2"⟩, ⟨"b", "1"⟩] blocked
    let stopped : Except WriteError WriteSummary :=
      .error (.move "out/b.tmp" "out/b" .isDirectory)
    (left.result = stopped ∧ blocked.content? ["out", "b.tmp"] = none ∧
      left.files.content? ["out", "b.tmp"] = some (.text "1")) ∧
    (lost.result = stopped ∧ occupied.content? ["out", "a.tmp"] = some (.text "2") ∧
      lost.files.content? ["out", "a.tmp"] = none) ∧
    (listed.result = stopped ∧ listed.files.content? ["out", "a.tmp"] = none) ∧
    (twice.result = stopped ∧ blocked.content? ["out", "a"] = none ∧
      twice.files.content? ["out", "a"] = some (.text "2")) := by
  intro blocked occupied left lost listed twice stopped
  have hleft : placed "out" [⟨"b", "1"⟩] = [⟨"out/b", "1"⟩] :=
    placed_of_sorted (by decide +kernel)
  have hlost : placed "out" [⟨"a", "1"⟩, ⟨"b", "1"⟩] = [⟨"out/a", "1"⟩, ⟨"out/b", "1"⟩] :=
    placed_of_sorted (by decide +kernel)
  have hlisted : placed "out" [⟨"a", "1"⟩, ⟨"a.tmp", "2"⟩, ⟨"b", "1"⟩] =
      [⟨"out/a", "1"⟩, ⟨"out/a.tmp", "2"⟩, ⟨"out/b", "1"⟩] :=
    placed_of_sorted (by decide +kernel)
  have htwice : placed "out" [⟨"a", "1"⟩, ⟨"./a", "2"⟩, ⟨"b", "1"⟩] =
      [⟨"out/a", "1"⟩, ⟨"out/./a", "2"⟩, ⟨"out/b", "1"⟩] :=
    placed_of_sorted (by decide +kernel)
  simp only [left, lost, listed, twice]
  unfold writeFiles
  rw [hleft, hlost, hlisted, htwice]
  decide +kernel

end Rowsmith
