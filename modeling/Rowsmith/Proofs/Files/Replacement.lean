import Rowsmith.Files.Writer
import Rowsmith.Proofs.Files.Change

/-!
# Replacing files

A file is drafted under its temporary name and moved into place. A run over several files touches
their places and those of their drafts only, so each file is there in full after the run if no
later file and no later draft goes to its place.
-/

namespace Rowsmith

open FileSystem

/-!
# One file
-/

/-- The two locations that are written to while a file is replaced. -/
def GeneratedFile.Touches (file : GeneratedFile) (files : FileSystem) (location : Location) :
    Prop :=
  location = files.destination (Path.temporary file.path) ∨
    location = files.destination file.path

theorem touches_of_changesOnly {touched : Location → Prop} {before after : FileSystem}
    (h : ChangesOnly touched before after) (file : GeneratedFile) :
    file.Touches after = file.Touches before := by
  funext location
  unfold GeneratedFile.Touches
  rw [h.destination, h.destination]

theorem makeParent_changesOnly (path : String) (files : FileSystem) :
    ChangesOnly Nowhere files (stateAfter ((makeParent path).run files)) := by
  unfold makeParent
  split
  · next folder _ =>
      have hmade := Disk.makeFolders_changesOnly folder files
      show ChangesOnly Nowhere files (stateAfter (onDisk _ (Disk.makeFolders folder) files))
      unfold onDisk
      cases hrun : (Disk.makeFolders folder).run files with
      | ok _ made =>
          rw [hrun] at hmade
          exact hmade
      | error error failed =>
          rw [hrun] at hmade
          exact hmade
  · exact ChangesOnly.refl _ files

theorem run_onDisk (cause : FileError → WriteError) (action : Disk Unit) (files : FileSystem) :
    (onDisk cause action).run files =
      match action.run files with
      | .ok _ after => .ok () after
      | .error error after => .error (cause error) after := rfl

structure GeneratedFile.Drafts (file : GeneratedFile) (files parented : FileSystem)
    (draft : Location) : Prop where
  parent : (makeParent file.path).run files = .ok () parented
  place : parented.place? (Path.temporary file.path) = .ok (.named draft)
  free : parented.node? draft ≠ some .folder

def GeneratedFile.drafted (file : GeneratedFile) (parented : FileSystem) (draft : Location) :
    FileSystem :=
  parented.put draft (.file (.text file.content))

namespace GeneratedFile.Drafts

variable {file : GeneratedFile} {files parented : FileSystem} {draft : Location}

theorem changesOnly (h : file.Drafts files parented draft) :
    ChangesOnly Nowhere files parented := by
  have hparent := makeParent_changesOnly file.path files
  rwa [h.parent] at hparent

theorem draft_eq (h : file.Drafts files parented draft) :
    draft = files.destination (Path.temporary file.path) := by
  rw [← h.changesOnly.destination]
  exact place?_eq_destination h.place

theorem drafted_changesOnly (h : file.Drafts files parented draft) :
    ChangesOnly (· = files.destination (Path.temporary file.path)) files
      (file.drafted parented draft) := by
  have hput := changesOnly_put_file (.text file.content) h.free
  rw [← h.draft_eq]
  exact h.changesOnly.anywhere.trans hput

theorem node?_drafted (h : file.Drafts files parented draft) :
    (file.drafted parented draft).node? draft = some (.file (.text file.content)) :=
  node?_put_self parented _ (ne_nil_of_place? h.place)

end GeneratedFile.Drafts

/-- A replacement fails before anything is written, or it leaves the draft, or it moves the draft to
the place of the file. -/
theorem replaceFile_cases (file : GeneratedFile) (files : FileSystem) :
    (∃ error failed, (replaceFile file).run files = .error error failed ∧
        ChangesOnly Nowhere files failed) ∨
      ∃ parented draft, file.Drafts files parented draft ∧
        ((∃ error, (replaceFile file).run files = .error error (file.drafted parented draft)) ∨
          ∃ place, (file.drafted parented draft).place? file.path = .ok (.named place) ∧
            (file.drafted parented draft).node? place ≠ some .folder ∧
            Path.endsInSlash file.path = false ∧
            (replaceFile file).run files =
              .ok () ((file.drafted parented draft).move draft place (.text file.content))) := by
  unfold replaceFile
  dsimp only
  rw [EStateM.run_bind]
  have hparent := makeParent_changesOnly file.path files
  cases hfolders : (makeParent file.path).run files with
  | error error failed =>
      rw [hfolders] at hparent
      exact Or.inl ⟨error, failed, rfl, hparent⟩
  | ok _ parented =>
      rw [hfolders] at hparent
      dsimp only
      rw [EStateM.run_bind, run_onDisk]
      rcases Disk.run_writeText (Path.temporary file.path) file.content parented with
        ⟨error, hwrite⟩ | ⟨draft, hplace, hfree, _, hwrite⟩
      · rw [hwrite]
        exact Or.inl ⟨_, parented, rfl, hparent⟩
      · have hdrafts : file.Drafts files parented draft := ⟨hfolders, hplace, hfree⟩
        refine Or.inr ⟨parented, draft, hdrafts, ?_⟩
        have hput := changesOnly_put_file (.text file.content) hfree
        rw [hwrite]
        dsimp only
        rw [run_onDisk]
        rcases Disk.run_moveFile (hput.place? hplace) hdrafts.node?_drafted file.path with
          ⟨error, hmove⟩ | ⟨place, hnew, hfolder, hslash, hmove⟩
        · rw [hmove]
          exact Or.inl ⟨_, rfl⟩
        · rw [hmove]
          exact Or.inr ⟨place, hnew, hfolder, hslash, rfl⟩

/-- What can be said of a file once replacing it has ended. -/
def GeneratedFile.Replaced (file : GeneratedFile) (files : FileSystem) :
    EStateM.Result WriteError FileSystem Unit → Prop
  | .ok _ after =>
      ChangesOnly (file.Touches files) files after ∧ after.readText file.path = .ok file.content
  | .error _ after => ChangesOnly (file.Touches files) files after

theorem replaceFile_replaced (file : GeneratedFile) (files : FileSystem) :
    file.Replaced files ((replaceFile file).run files) := by
  rcases replaceFile_cases file files with
    ⟨error, failed, hrun, hfailed⟩ |
      ⟨parented, draft, hdrafts, ⟨error, hrun⟩ | ⟨place, hplace, hfolder, hslash, hrun⟩⟩
  · rw [hrun]
    exact hfailed.anywhere
  · rw [hrun]
    exact hdrafts.drafted_changesOnly.mono fun _ => Or.inl
  · rw [hrun]
    -- Folders made and drafts leave every path where it led, so the move ends at the file's own.
    have hdrafted := hdrafts.drafted_changesOnly
    have hmove := changesOnly_move hdrafts.node?_drafted hfolder
    constructor
    · apply (hdrafted.mono fun _ => Or.inl).trans (hmove.mono _)
      intro location htouched
      rcases htouched with rfl | rfl
      · exact Or.inl hdrafts.draft_eq
      · exact Or.inr ((place?_eq_destination hplace).trans (hdrafted.destination file.path))
    · rw [readText_eq_ok_iff]
      exact ⟨place, hmove.locate (place?_eq_named_iff.mp hplace).left,
        node?_move (ne_nil_of_place? hplace) hdrafts.node?_drafted, hslash⟩

theorem replaceFile_changesOnly (file : GeneratedFile) (files : FileSystem) :
    ChangesOnly (file.Touches files) files (stateAfter ((replaceFile file).run files)) := by
  have hreplaced := replaceFile_replaced file files
  cases hrun : (replaceFile file).run files with
  | ok _ after =>
      rw [hrun] at hreplaced
      exact hreplaced.left
  | error error failed =>
      rw [hrun] at hreplaced
      exact hreplaced

theorem changesOnly_of_replaceFile {file : GeneratedFile} {files after : FileSystem}
    (h : (replaceFile file).run files = .ok () after) :
    ChangesOnly (file.Touches files) files after := by
  have hchanges := replaceFile_changesOnly file files
  rwa [h] at hchanges

/-!
# Several files
-/

def Touched (pending : List GeneratedFile) (files : FileSystem) (location : Location) : Prop :=
  ∃ file ∈ pending, file.Touches files location

theorem touched_of_changesOnly {touched : Location → Prop} {before after : FileSystem}
    (h : ChangesOnly touched before after) (pending : List GeneratedFile) :
    Touched pending after = Touched pending before := by
  funext location
  unfold Touched
  simp only [touches_of_changesOnly h]

theorem replaceFiles_changesOnly (pending : List GeneratedFile) (files : FileSystem) :
    ChangesOnly (Touched pending files) files
      (stateAfter ((replaceFiles pending).run files)) := by
  induction pending generalizing files with
  | nil => exact ChangesOnly.refl _ files
  | cons file rest ih =>
      have hfirst := replaceFile_changesOnly file files
      unfold replaceFiles
      rw [EStateM.run_bind]
      cases hrun : (replaceFile file).run files with
      | error error failed =>
          rw [hrun] at hfirst
          exact hfirst.mono fun _ htouched => ⟨file, by simp, htouched⟩
      | ok _ middle =>
          have hmiddle := changesOnly_of_replaceFile hrun
          have hrest := ih middle
          rw [touched_of_changesOnly hmiddle] at hrest
          apply (hmiddle.mono fun _ htouched => ⟨file, by simp, htouched⟩).trans
          apply hrest.mono
          intro location hexists
          rcases hexists with ⟨other, hother, htouched⟩
          exact ⟨other, List.mem_cons_of_mem file hother, htouched⟩

theorem replaceFiles_cons_eq_ok {file : GeneratedFile} {rest : List GeneratedFile}
    {files after : FileSystem} (h : (replaceFiles (file :: rest)).run files = .ok () after) :
    ∃ middle, (replaceFile file).run files = .ok () middle ∧
      (replaceFiles rest).run middle = .ok () after := by
  unfold replaceFiles at h
  rw [EStateM.run_bind] at h
  cases hfile : (replaceFile file).run files with
  | error error failed =>
      rw [hfile] at h
      cases h
  | ok _ middle =>
      rw [hfile] at h
      exact ⟨middle, rfl, h⟩

/-- Neither file goes to the place of the other one or to where that one is drafted. -/
def GeneratedFile.Apart (files : FileSystem) (file other : GeneratedFile) : Prop :=
  ¬other.Touches files (files.destination file.path) ∧
    ¬file.Touches files (files.destination other.path)

instance GeneratedFile.instDecidableApart (files : FileSystem) (file other : GeneratedFile) :
    Decidable (file.Apart files other) := by
  unfold GeneratedFile.Apart GeneratedFile.Touches
  infer_instance

instance GeneratedFile.instSymmApart (files : FileSystem) :
    Std.Symm (GeneratedFile.Apart files) where
  symm _ _ h := ⟨h.right, h.left⟩

theorem GeneratedFile.Apart.of_changesOnly {touched : Location → Prop}
    {before after : FileSystem} (h : ChangesOnly touched before after) :
    GeneratedFile.Apart after = GeneratedFile.Apart before := by
  funext file other
  unfold GeneratedFile.Apart
  rw [touches_of_changesOnly h, touches_of_changesOnly h, h.destination, h.destination]

/-- No file goes to the place of an earlier one, and no draft does. -/
def KeptApart (pending : List GeneratedFile) (files : FileSystem) : Prop :=
  pending.Pairwise fun file later => ¬later.Touches files (files.destination file.path)

theorem readText_replaceFiles {pending : List GeneratedFile} {files after : FileSystem}
    (hrun : (replaceFiles pending).run files = .ok () after) (hapart : KeptApart pending files) :
    ∀ file ∈ pending, after.readText file.path = .ok file.content := by
  induction pending generalizing files with
  | nil =>
      intro file hfile
      cases hfile
  | cons first rest ih =>
      rcases replaceFiles_cons_eq_ok hrun with ⟨middle, hreplaced, hlast⟩
      have hfirst := replaceFile_replaced first files
      rw [hreplaced] at hfirst
      rcases hfirst with ⟨hchanges, hread⟩
      rcases List.pairwise_cons.mp hapart with ⟨hlater, hothers⟩
      have hdestination := hchanges.destination
      have hrest : KeptApart rest middle := by
        apply hothers.imp
        intro file later hfree
        rw [touches_of_changesOnly hchanges, hdestination]
        exact hfree
      intro file hfile
      rcases List.mem_cons.mp hfile with rfl | hfile
      · have hkept := replaceFiles_changesOnly rest middle
        rw [hlast] at hkept
        apply hkept.readText _ hread
        intro hexists
        rcases hexists with ⟨later, hmem, htouched⟩
        rw [touches_of_changesOnly hchanges, hdestination] at htouched
        exact hlater later hmem htouched
      · exact ih hlast hrest file hfile

end Rowsmith
