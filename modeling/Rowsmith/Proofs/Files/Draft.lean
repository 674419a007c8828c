import Rowsmith.Proofs.Files.GeneratedPath
import Rowsmith.Proofs.Files.Replacement

/-!
# Drafts

A file that could be put in its place was drafted under its own name with one more extension, next
to that place. The draft is gone once it is moved, and the only folders that appear are those above
a file.
-/

namespace Rowsmith

open FileSystem

/-!
# Names at the ends of paths
-/

namespace Path

theorem exists_name {path : String} (hslash : endsInSlash path = false) (hne : path ≠ "") :
    ∃ before name, IsFront before ∧ '/' ∉ name ∧ name ≠ [] ∧
      path = String.ofList (before ++ name) := by
  by_cases hmem : '/' ∈ path.toList
  · rcases Text.exists_last hmem with ⟨folder, name, hsplit, hname⟩
    refine ⟨folder ++ ['/'], name, Or.inr ⟨folder, rfl⟩, hname, ?_, ?_⟩
    · intro hnil
      unfold endsInSlash at hslash
      rw [hsplit, hnil] at hslash
      simp at hslash
    · rw [List.append_assoc, List.singleton_append, ← hsplit, String.ofList_toList]
  · refine ⟨[], path.toList, Or.inl rfl, hmem, ?_, String.ofList_toList.symm⟩
    intro hnil
    exact hne (String.toList_inj.mp hnil)

section Names

variable {before name : List Char} (hbefore : IsFront before) (hslash : '/' ∉ name)
  (hne : name ≠ [])

include hbefore hslash hne

theorem steps_name_at_end :
    steps (String.ofList (before ++ name)) =
      steps (String.ofList before) ++ [String.ofList name] := by
  have hname : steps (String.ofList name) = [String.ofList name] := by
    apply steps_name
    · intro hempty
      exact hne (String.ofList_eq_empty_iff.mp hempty)
    · rwa [String.toList_ofList]
  rcases hbefore with rfl | ⟨folder, rfl⟩
  · exact hname
  · have htext (ending : List Char) : String.ofList ((folder ++ ['/']) ++ ending) =
        String.ofList folder ++ "/" ++ String.ofList ending := by
      simp [String.append_assoc]
    have hfolder := steps_slash (String.ofList folder) ""
    have hempty : steps "" = [] := rfl
    rw [String.append_empty, hempty, List.append_nil] at hfolder
    have hfront := htext []
    rw [List.append_nil, String.ofList_nil, String.append_empty] at hfront
    rw [htext, steps_slash, hname, hfront, hfolder]

theorem isAbsolute_name_at_end :
    isAbsolute (String.ofList (before ++ name)) = isAbsolute (String.ofList before) := by
  unfold isAbsolute
  rw [String.toList_ofList, String.toList_ofList]
  rcases hbefore with rfl | ⟨folder, rfl⟩
  · cases name with
    | nil => exact absurd rfl hne
    | cons c rest =>
        have hc : c ≠ '/' := fun h => hslash (by simp [h])
        simp [hc]
  · rw [List.head?_append_of_ne_nil _ (by simp)]

end Names

theorem IsName.extended {name : List Char} (h : IsName name) :
    IsName (name ++ ".tmp".toList) := by
  have hlength : (name ++ ".tmp".toList).length = name.length + 4 := List.length_append
  constructor
  · simp [h.slash]
  · simp
  · intro hhere
    rw [hhere] at hlength
    simp at hlength
  · intro hup
    rw [hup] at hlength
    simp at hlength

end Path

namespace FileSystem

variable {files others : FileSystem} {path : String} {location draft : Location}

theorem destination_name_at_end {before name : List Char} (hbefore : Path.IsFront before)
    (hname : Path.IsName name) (files : FileSystem) :
    files.destination (String.ofList (before ++ name)) =
      files.destination (String.ofList before) ++ [String.ofList name] := by
  have hnames : ∀ step ∈ [String.ofList name], step ≠ "." ∧ step ≠ ".." := by
    intro step hstep
    rw [List.mem_singleton.mp hstep]
    constructor
    · intro h
      exact hname.here (by rw [← String.toList_ofList (l := name), h]; rfl)
    · intro h
      exact hname.up (by rw [← String.toList_ofList (l := name), h]; rfl)
  unfold destination origin
  rw [Path.isAbsolute_name_at_end hbefore hname.slash hname.nonempty,
    Path.steps_name_at_end hbefore hname.slash hname.nonempty, follow_append,
    follow_names hnames]

theorem exists_name_of_place? (hplace : files.place? path = .ok (.named location))
    (hslash : Path.endsInSlash path = false) :
    ∃ before name, Path.IsFront before ∧ Path.IsName name ∧
      path = String.ofList (before ++ name) := by
  rcases place?_eq_named_iff.mp hplace with ⟨_, above, last, hsteps, hhere, hup⟩
  have hpath : path ≠ "" := by
    intro hempty
    rw [hempty] at hsteps
    cases above <;> cases hsteps
  rcases Path.exists_name hslash hpath with ⟨before, name, hbefore, hname, hne, rfl⟩
  rw [Path.steps_name_at_end hbefore hname hne] at hsteps
  have hlast : String.ofList name = last := by
    have hends := congrArg List.getLast? hsteps
    simpa using hends
  refine ⟨before, name, hbefore, ⟨hname, hne, ?_, ?_⟩, rfl⟩
  · intro hdot
    rw [hdot] at hlast
    exact hhere hlast.symm
  · intro hdots
    rw [hdots] at hlast
    exact hup hlast.symm

/-- Where both a file and its draft can be put, the draft is the name with one more extension, and
so it lies next to the file. -/
theorem temporary_of_place? (hplace : files.place? path = .ok (.named location))
    (hslash : Path.endsInSlash path = false)
    (hdraft : others.place? (Path.temporary path) = .ok (.named draft)) :
    Path.temporary path = path ++ ".tmp" ∧
      files.destination (Path.temporary path) ≠ files.destination path := by
  rcases exists_name_of_place? hplace hslash with ⟨before, name, hbefore, hname, rfl⟩
  have hdots : ∀ extension, '.' ∉ extension → name ≠ '.' :: '.' :: extension := by
    intro extension hextension hsame
    -- Such a draft would be the folder above, which is no place for a file.
    rw [hsame] at hname hdraft
    rw [Path.temporary_dots hbefore hname hextension] at hdraft
    rcases place?_eq_named_iff.mp hdraft with ⟨_, above, last, hsteps, _, hup⟩
    rw [Path.steps_name_at_end hbefore (by decide) (by decide)] at hsteps
    have hends := congrArg List.getLast? hsteps
    exact hup (by simpa using hends.symm)
  have htemporary := Path.temporary_name hbefore hname hdots
  have hlong := hname.extended
  constructor
  · rw [htemporary, ← List.append_assoc, String.ofList_append]
    rfl
  · rw [htemporary, destination_name_at_end hbefore hlong, destination_name_at_end hbefore hname]
    intro hsame
    have hnames := List.append_cancel_left hsame
    have hchars := congrArg String.toList (List.singleton_inj.mp hnames)
    simp at hchars

end FileSystem

/-!
# Folders above files
-/

/-- The folders above a path, the nearest first. -/
def Path.above (path : String) : List String :=
  match parent? path with
  | some folder => ancestors folder
  | none => []

structure MakesFoldersAt (paths : List String) (before after : FileSystem) : Prop where
  current : after.current = before.current
  folders : ∀ location, after.node? location = some .folder →
    before.node? location = some .folder ∨ ∃ path ∈ paths, location = before.destination path

namespace MakesFoldersAt

variable {paths others : List String} {before middle after : FileSystem}

theorem refl (paths : List String) (files : FileSystem) : MakesFoldersAt paths files files :=
  ⟨rfl, fun _ h => Or.inl h⟩

theorem destination (h : MakesFoldersAt paths before after) (path : String) :
    after.destination path = before.destination path := by
  unfold FileSystem.destination origin
  rw [h.current]

theorem trans (h : MakesFoldersAt paths before middle) (h' : MakesFoldersAt paths middle after) :
    MakesFoldersAt paths before after := by
  constructor
  · rw [h'.current, h.current]
  · intro location hfolder
    rcases h'.folders location hfolder with hmiddle | ⟨path, hpath, hplace⟩
    · exact h.folders location hmiddle
    · exact Or.inr ⟨path, hpath, by rw [hplace, h.destination]⟩

theorem mono (h : MakesFoldersAt paths before after) (hsubset : paths ⊆ others) :
    MakesFoldersAt others before after := by
  refine ⟨h.current, ?_⟩
  intro location hfolder
  rcases h.folders location hfolder with hbefore | ⟨path, hpath, hplace⟩
  · exact Or.inl hbefore
  · exact Or.inr ⟨path, hsubset hpath, hplace⟩

end MakesFoldersAt

theorem makesFoldersAt_put_file (files : FileSystem) (location : Location) (content : Content) :
    MakesFoldersAt [] files (files.put location (.file content)) := by
  refine ⟨rfl, ?_⟩
  intro other hfolder
  left
  by_cases hsame : other = location
  · by_cases hnil : location = []
    · rw [hsame, hnil]
      rfl
    · rw [hsame, node?_put_self _ _ hnil] at hfolder
      cases hfolder
  · rwa [node?_put_of_ne _ _ hsame] at hfolder

theorem makesFoldersAt_move (files : FileSystem) (old new : Location) (content : Content) :
    MakesFoldersAt [] files (files.move old new content) := by
  unfold move
  split
  · exact MakesFoldersAt.refl [] files
  · have hdrop : MakesFoldersAt [] files (files.drop old) := by
      refine ⟨rfl, ?_⟩
      intro location hfolder
      left
      by_cases hsame : location = old
      · by_cases hnil : old = []
        · rw [hsame, hnil]
          rfl
        · rw [hsame, node?_drop_self _ hnil] at hfolder
          cases hfolder
      · rwa [node?_drop_of_ne _ hsame] at hfolder
    exact hdrop.trans (makesFoldersAt_put_file _ new content)

theorem makeFolder_makesFoldersAt {path : String} {files made : FileSystem}
    (h : (Disk.makeFolder path).run files = .ok () made) : MakesFoldersAt [path] files made := by
  rcases Disk.run_makeFolder path files with ⟨error, hrun⟩ | ⟨location, hplace, hnode, hrun⟩
  · rw [hrun] at h
    cases h
  · rw [hrun] at h
    cases h
    refine ⟨rfl, ?_⟩
    intro other hfolder
    by_cases hsame : other = location
    · exact Or.inr ⟨path, by simp, by rw [hsame, place?_eq_destination hplace]⟩
    · rw [node?_put_of_ne _ _ hsame] at hfolder
      exact Or.inl hfolder

theorem makeParent_makesFoldersAt {path : String} {files after : FileSystem}
    (h : (makeParent path).run files = .ok () after) :
    MakesFoldersAt (Path.above path) files after := by
  unfold makeParent at h
  unfold Path.above
  cases hparent : Path.parent? path with
  | none =>
      rw [hparent] at h
      cases h
      exact MakesFoldersAt.refl _ files
  | some folder =>
      rw [hparent] at h
      have hmade : MakesFoldersAt (Path.ancestors folder) files
          (stateAfter ((Disk.makeFolders folder).run files)) := by
        refine Disk.makeFoldersAt_relates (MakesFoldersAt.refl _) MakesFoldersAt.trans ?_ files
        intro path hpath before made hrun
        exact (makeFolder_makesFoldersAt hrun).mono (by simpa using hpath)
      dsimp only at h
      rw [run_onDisk] at h
      cases hrun : (Disk.makeFolders folder).run files with
      | error error failed =>
          rw [hrun] at h
          cases h
      | ok _ made =>
          rw [hrun] at h hmade
          cases h
          exact hmade

/-!
# Drafts that are moved
-/

theorem replaceFile_eq_ok {file : GeneratedFile} {files after : FileSystem}
    (h : (replaceFile file).run files = .ok () after) :
    ∃ parented draft place, file.Drafts files parented draft ∧
      (file.drafted parented draft).place? file.path = .ok (.named place) ∧
      Path.endsInSlash file.path = false ∧
      after = (file.drafted parented draft).move draft place (.text file.content) := by
  rcases replaceFile_cases file files with
    ⟨error, failed, hrun, _⟩ |
      ⟨parented, draft, hdrafts, ⟨error, hrun⟩ | ⟨place, hplace, _, hslash, hrun⟩⟩
  · rw [hrun] at h
    cases h
  · rw [hrun] at h
    cases h
  · rw [hrun] at h
    cases h
    exact ⟨parented, draft, place, hdrafts, hplace, hslash, rfl⟩

structure GeneratedFile.Moved (file : GeneratedFile) (before after : FileSystem) : Prop where
  draftPath : Path.temporary file.path = file.path ++ ".tmp"
  draft : after.node? (before.destination (Path.temporary file.path)) = none
  folders : MakesFoldersAt (Path.above file.path) before after

theorem moved_of_replaceFile {file : GeneratedFile} {files after : FileSystem}
    (h : (replaceFile file).run files = .ok () after) : file.Moved files after := by
  rcases replaceFile_eq_ok h with ⟨parented, draft, place, hdrafts, hplace, hslash, rfl⟩
  have hmade := makeParent_makesFoldersAt hdrafts.parent
  have hwritten : MakesFoldersAt [] parented (file.drafted parented draft) :=
    makesFoldersAt_put_file parented draft (.text file.content)
  rcases temporary_of_place? hplace hslash hdrafts.place with ⟨hpath, hapart⟩
  have hdestination := place?_eq_destination hdrafts.place
  -- A draft in the place of its own file would stay there.
  have hdifferent : draft ≠ place := by
    intro hsame
    apply hapart
    rw [hwritten.destination, ← hdestination, ← place?_eq_destination hplace]
    exact hsame
  constructor
  · exact hpath
  · rw [← hmade.destination, ← hdestination]
    unfold move
    rw [if_neg hdifferent, node?_put_of_ne _ _ hdifferent,
      node?_drop_self _ (ne_nil_of_place? hdrafts.place)]
  · apply hmade.trans
    have hmoved := makesFoldersAt_move (file.drafted parented draft) draft place
      (.text file.content)
    exact (hwritten.trans hmoved).mono (by simp)

/-!
# Several files
-/

theorem folders_of_replaceFiles {pending : List GeneratedFile} {files after : FileSystem}
    (hrun : (replaceFiles pending).run files = .ok () after) :
    MakesFoldersAt ((pending.map (·.path)).flatMap Path.above) files after := by
  induction pending generalizing files with
  | nil =>
      cases hrun
      exact MakesFoldersAt.refl [] _
  | cons file rest ih =>
      rcases replaceFiles_cons_eq_ok hrun with ⟨middle, hfirst, hrest⟩
      have hfile := (moved_of_replaceFile hfirst).folders
      rw [List.map_cons, List.flatMap_cons]
      exact (hfile.mono (List.subset_append_left _ _)).trans
        ((ih hrest).mono (List.subset_append_right _ _))

theorem no_file_of_replaceFiles {pending : List GeneratedFile} {files after : FileSystem}
    (hrun : (replaceFiles pending).run files = .ok () after) {location : Location}
    (hplaces : ∀ file ∈ pending, location ≠ files.destination file.path)
    (hnone : ∀ content, files.node? location ≠ some (.file content)) :
    ∀ content, after.node? location ≠ some (.file content) := by
  induction pending generalizing files with
  | nil =>
      cases hrun
      exact hnone
  | cons file rest ih =>
      rcases replaceFiles_cons_eq_ok hrun with ⟨middle, hfirst, hrest⟩
      have hchanges := changesOnly_of_replaceFile hfirst
      refine ih hrest ?_ ?_
      · intro other hother
        rw [hchanges.destination]
        exact hplaces other (List.mem_cons_of_mem file hother)
      · intro content
        -- Where the file itself is drafted nothing is left, whatever was there before.
        by_cases hdraft : location = files.destination (Path.temporary file.path)
        · rw [hdraft, (moved_of_replaceFile hfirst).draft]
          simp
        · have hfree : ¬file.Touches files location :=
            not_or.mpr ⟨hdraft, hplaces file (by simp)⟩
          rw [ne_eq, hchanges.files location content hfree]
          exact hnone content

/-- Nothing is left where the file was drafted, unless a folder above another file is there. -/
def DraftCleared (written : List String) (before after : FileSystem) (path : String) : Prop :=
  after.node? (before.destination (Path.temporary path)) = none ∨
    after.node? (before.destination (Path.temporary path)) = some .folder ∧
      ∃ other ∈ written, other ≠ path ∧ ∃ folder ∈ Path.above other,
        before.destination (Path.temporary path) = before.destination folder

theorem DraftCleared.mono {written others : List String} {before after : FileSystem} {path : String}
    (h : DraftCleared written before after path) (hsubset : written ⊆ others) :
    DraftCleared others before after path := by
  rcases h with hnone | ⟨hnode, other, hother, hfolder⟩
  · exact Or.inl hnone
  · exact Or.inr ⟨hnode, other, hsubset hother, hfolder⟩

theorem draftCleared_of_later {file : GeneratedFile} {rest : List GeneratedFile}
    {files middle after : FileSystem} (hmoved : file.Moved files middle)
    (hrest : (replaceFiles rest).run middle = .ok () after)
    (hapart : ∀ other ∈ rest, file.Apart files other) :
    DraftCleared (rest.map (·.path)) files after file.path := by
  have hdestination := hmoved.folders.destination
  have hplaces : ∀ other ∈ rest,
      files.destination (Path.temporary file.path) ≠ middle.destination other.path := by
    intro other hother hsame
    rw [hdestination] at hsame
    exact (hapart other hother).right (Or.inl hsame.symm)
  have hnofile := no_file_of_replaceFiles hrest hplaces (by simp [hmoved.draft])
  cases hnode : after.node? (files.destination (Path.temporary file.path)) with
  | none => exact Or.inl hnode
  | some node =>
      cases node with
      | file content => exact absurd hnode (hnofile content)
      -- A folder can only have been made there on the way to a later file.
      | folder =>
          rcases (folders_of_replaceFiles hrest).folders _ hnode with
            hbefore | ⟨folder, hfolder, hplace⟩
          · rw [hmoved.draft] at hbefore
            cases hbefore
          · rcases List.mem_flatMap.mp hfolder with ⟨path, hpath, hfolder⟩
            rcases List.mem_map.mp hpath with ⟨other, hother, rfl⟩
            refine Or.inr ⟨hnode, other.path, hpath, ?_, folder, hfolder, ?_⟩
            · intro hsame
              exact (hapart other hother).left (Or.inr (by rw [hsame]))
            · rw [hplace, hdestination]

theorem drafts_of_replaceFiles {pending : List GeneratedFile} {files after : FileSystem}
    (hrun : (replaceFiles pending).run files = .ok () after)
    (hapart : pending.Pairwise (GeneratedFile.Apart files)) :
    ∀ file ∈ pending, Path.temporary file.path = file.path ++ ".tmp" ∧
      DraftCleared (pending.map (·.path)) files after file.path := by
  induction pending generalizing files with
  | nil =>
      intro file hfile
      cases hfile
  | cons first rest ih =>
      rcases replaceFiles_cons_eq_ok hrun with ⟨middle, hfirst, hrest⟩
      rcases List.pairwise_cons.mp hapart with ⟨hlater, hothers⟩
      have hmoved := moved_of_replaceFile hfirst
      have hsubset := List.subset_cons_self first.path (rest.map (·.path))
      intro file hfile
      rcases List.mem_cons.mp hfile with rfl | hfile
      · exact ⟨hmoved.draftPath, (draftCleared_of_later hmoved hrest hlater).mono hsubset⟩
      · rw [← GeneratedFile.Apart.of_changesOnly (changesOnly_of_replaceFile hfirst)] at hothers
        rcases ih hrest hothers file hfile with ⟨hpath, hcleared⟩
        unfold DraftCleared at hcleared
        simp only [hmoved.folders.destination] at hcleared
        exact ⟨hpath, DraftCleared.mono hcleared hsubset⟩

end Rowsmith
