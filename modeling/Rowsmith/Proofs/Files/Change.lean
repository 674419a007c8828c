import Rowsmith.Proofs.Files.Location

/-!
# What operations change

Every operation names the locations that it may touch. Elsewhere files stay as they are and none
appears, and folders stay everywhere, so a path that could be followed before can be followed
afterwards and leads to the same place.
-/

namespace Rowsmith

namespace FileSystem

/-- Folders stay folders, and only at touched locations do files change, appear or go. -/
structure ChangesOnly (touched : Location → Prop) (before after : FileSystem) : Prop where
  current : after.current = before.current
  folders : ∀ location, before.node? location = some .folder →
    after.node? location = some .folder
  files : ∀ location content, ¬touched location →
    (after.node? location = some (.file content) ↔ before.node? location = some (.file content))

def Nowhere (_ : Location) : Prop := False

namespace ChangesOnly

variable {touched others : Location → Prop} {before middle after : FileSystem}

theorem refl (touched : Location → Prop) (files : FileSystem) : ChangesOnly touched files files :=
  ⟨rfl, fun _ h => h, fun _ _ _ => Iff.rfl⟩

theorem trans (h : ChangesOnly touched before middle) (h' : ChangesOnly touched middle after) :
    ChangesOnly touched before after := by
  constructor
  · rw [h'.current, h.current]
  · intro location hfolder
    exact h'.folders location (h.folders location hfolder)
  · intro location content hfree
    rw [h'.files location content hfree, h.files location content hfree]

theorem mono (h : ChangesOnly touched before after)
    (himp : ∀ location, touched location → others location) :
    ChangesOnly others before after :=
  ⟨h.current, h.folders, fun location content hfree =>
    h.files location content fun htouched => hfree (himp location htouched)⟩

theorem anywhere (h : ChangesOnly Nowhere before after) : ChangesOnly touched before after :=
  h.mono fun _ hnowhere => hnowhere.elim

/-!
# Paths that can be followed
-/

theorem origin (h : ChangesOnly touched before after) (path : String) :
    after.origin path = before.origin path := by
  unfold FileSystem.origin
  rw [h.current]

theorem destination (h : ChangesOnly touched before after) (path : String) :
    after.destination path = before.destination path := by
  unfold FileSystem.destination
  rw [h.origin]

theorem walk (h : ChangesOnly touched before after) {here location : Location}
    {steps : List String} (hwalk : before.walk here steps = .ok location) :
    after.walk here steps = .ok location := by
  induction steps generalizing here with
  | nil => exact hwalk
  | cons step rest ih =>
      rcases walk_cons_eq_ok_iff.mp hwalk with ⟨hfolder, hname, hrest⟩
      exact walk_cons_eq_ok_iff.mpr ⟨h.folders here hfolder, hname, ih hrest⟩

theorem locate (h : ChangesOnly touched before after) {path : String} {location : Location}
    (hlocate : before.locate path = .ok location) : after.locate path = .ok location := by
  rw [locate_eq_ok_iff] at hlocate ⊢
  have hstart : after.start path = before.start path := by
    unfold start
    rw [h.current]
  rw [h.origin, hstart]
  exact ⟨hlocate.left, h.walk hlocate.right⟩

theorem place? (h : ChangesOnly touched before after) {path : String} {location : Location}
    (hplace : before.place? path = .ok (.named location)) :
    after.place? path = .ok (.named location) := by
  rw [place?_eq_named_iff] at hplace ⊢
  exact ⟨h.locate hplace.left, hplace.right⟩

theorem readText (h : ChangesOnly touched before after) {path s : String}
    (hfree : ¬touched (before.destination path)) (hread : before.readText path = .ok s) :
    after.readText path = .ok s := by
  rw [readText_eq_ok_iff] at hread ⊢
  rcases hread with ⟨location, hlocate, hnode, hslash⟩
  refine ⟨location, h.locate hlocate, ?_, hslash⟩
  rw [locate_eq_ok hlocate] at hnode ⊢
  exact (h.files _ _ hfree).mpr hnode

end ChangesOnly

/-!
# Nodes put and dropped
-/

variable {files : FileSystem} {location : Location}

theorem changesOnly_put_folder (h : files.node? location = none) :
    ChangesOnly Nowhere files (files.put location .folder) := by
  have hne : location ≠ [] := by
    intro hsame
    subst hsame
    cases h
  constructor
  · rfl
  · intro other hfolder
    by_cases hother : other = location
    · rw [hother, node?_put_self files .folder hne]
    · rw [node?_put_of_ne files .folder hother, hfolder]
  · intro other content _
    by_cases hother : other = location
    · rw [hother, node?_put_self files .folder hne, h]
      simp
    · rw [node?_put_of_ne files .folder hother]

theorem changesOnly_put_file (content : Content) (h : files.node? location ≠ some .folder) :
    ChangesOnly (· = location) files (files.put location (.file content)) := by
  constructor
  · rfl
  · intro other hfolder
    have hother : other ≠ location := by
      intro hsame
      subst hsame
      exact h hfolder
    rw [node?_put_of_ne files _ hother, hfolder]
  · intro other content hother
    rw [node?_put_of_ne files _ hother]

theorem changesOnly_drop (h : files.node? location ≠ some .folder) :
    ChangesOnly (· = location) files (files.drop location) := by
  constructor
  · rfl
  · intro other hfolder
    have hother : other ≠ location := by
      intro hsame
      subst hsame
      exact h hfolder
    rw [node?_drop_of_ne files hother, hfolder]
  · intro other content hother
    rw [node?_drop_of_ne files hother]

def move (files : FileSystem) (old new : Location) (content : Content) : FileSystem :=
  if old = new then files else (files.drop old).put new (.file content)

theorem changesOnly_move {old new : Location} {content : Content}
    (hold : files.node? old = some (.file content)) (hnew : files.node? new ≠ some .folder) :
    ChangesOnly (fun location => location = old ∨ location = new) files
      (files.move old new content) := by
  unfold move
  split
  · exact ChangesOnly.refl _ files
  · next hdifferent =>
      have hdrop : ChangesOnly (· = old) files (files.drop old) :=
        changesOnly_drop (by rw [hold]; simp)
      have hput : ChangesOnly (· = new) (files.drop old)
          ((files.drop old).put new (.file content)) := by
        apply changesOnly_put_file
        rw [node?_drop_of_ne files (Ne.symm hdifferent)]
        exact hnew
      exact (hdrop.mono fun _ => Or.inl).trans (hput.mono fun _ => Or.inr)

theorem node?_move {old new : Location} {content : Content} (hne : new ≠ [])
    (hold : files.node? old = some (.file content)) :
    (files.move old new content).node? new = some (.file content) := by
  unfold move
  split
  · next hsame =>
      rw [← hsame]
      exact hold
  · exact node?_put_self _ _ hne

end FileSystem

/-!
# Operations on a disk
-/

namespace Disk

open FileSystem

variable {files after : FileSystem} {path s : String}

theorem run_resolve (path : String) (files : FileSystem) :
    (resolve path).run files =
      match files.place? path with
      | .ok place => .ok place files
      | .error error => .error error files := by
  unfold resolve
  rw [EStateM.run_bind, EStateM.run_get]
  dsimp only
  cases files.place? path <;> rfl

theorem run_makeFolder (path : String) (files : FileSystem) :
    (∃ error, (makeFolder path).run files = .error error files) ∨
      ∃ location, files.place? path = .ok (.named location) ∧ files.node? location = none ∧
        (makeFolder path).run files = .ok () (files.put location .folder) := by
  unfold makeFolder
  rw [EStateM.run_bind, run_resolve]
  cases hplace : files.place? path with
  | error error => exact Or.inl ⟨error, rfl⟩
  | ok place =>
      cases place with
      | unnamed => exact Or.inl ⟨_, rfl⟩
      | named location =>
          dsimp only
          rw [EStateM.run_bind, EStateM.run_get]
          dsimp only
          split
          · exact Or.inl ⟨_, rfl⟩
          · next hnode => exact Or.inr ⟨location, rfl, hnode, rfl⟩

theorem makeFolder_changesOnly {made : FileSystem} (h : (makeFolder path).run files = .ok () made) :
    ChangesOnly Nowhere files made := by
  rcases run_makeFolder path files with ⟨error, hrun⟩ | ⟨location, _, hnode, hrun⟩
  · rw [hrun] at h
    cases h
  · rw [hrun] at h
    cases h
    exact changesOnly_put_folder hnode

theorem stateAfter_leaveFolder (files : FileSystem) (path : String) (error : FileError) :
    stateAfter ((if files.isFolder path then pure () else throw error : Disk Unit).run files) =
      files := by
  split <;> rfl

/-- Folders are made from the top down, and a failure leaves those that were made before it. What
holds of every folder made and carries over from one to the next holds of the whole. -/
theorem makeFoldersAt_relates {R : FileSystem → FileSystem → Prop} (hrefl : ∀ files, R files files)
    (htrans : ∀ {before middle after}, R before middle → R middle after → R before after)
    {paths : List String}
    (hmake : ∀ path ∈ paths, ∀ {files made}, (makeFolder path).run files = .ok () made →
      R files made) (files : FileSystem) :
    R files (stateAfter ((makeFoldersAt paths).run files)) := by
  induction paths generalizing files with
  | nil => exact hrefl files
  | cons path above ih =>
      have hpath := @hmake path (by simp)
      unfold makeFoldersAt
      split
      · exact hrefl files
      · rw [EStateM.run_bind, EStateM.run_get]
        dsimp only
        split
        · next made hmade => exact hpath hmade
        · rw [EStateM.run_bind]
          have hothers := fun other hother => @hmake other (List.mem_cons_of_mem path hother)
          have habove := ih hothers files
          -- A folder is tried once more after those above it have been made, and only then may it
          -- fail.
          cases hrun : (makeFoldersAt above).run files with
          | error error failed =>
              rw [hrun] at habove
              exact habove
          | ok _ reached =>
              rw [hrun] at habove
              dsimp only
              rw [EStateM.run_bind, EStateM.run_get]
              dsimp only
              split
              · next made hmade => exact htrans habove (hpath hmade)
              · rw [stateAfter_leaveFolder]
                exact habove
        · rw [stateAfter_leaveFolder]
          exact hrefl files

theorem makeFoldersAt_changesOnly (paths : List String) (files : FileSystem) :
    ChangesOnly Nowhere files (stateAfter ((makeFoldersAt paths).run files)) :=
  makeFoldersAt_relates (ChangesOnly.refl Nowhere) ChangesOnly.trans
    (fun _ _ => makeFolder_changesOnly) files

theorem makeFolders_changesOnly (path : String) (files : FileSystem) :
    ChangesOnly Nowhere files (stateAfter ((makeFolders path).run files)) :=
  makeFoldersAt_changesOnly (Path.ancestors path) files

theorem run_writeText (path s : String) (files : FileSystem) :
    (∃ error, (writeText path s).run files = .error error files) ∨
      ∃ location, files.place? path = .ok (.named location) ∧
        files.node? location ≠ some .folder ∧ Path.endsInSlash path = false ∧
        (writeText path s).run files = .ok () (files.put location (.file (.text s))) := by
  unfold writeText
  rw [EStateM.run_bind, run_resolve]
  cases hplace : files.place? path with
  | error error => exact Or.inl ⟨error, rfl⟩
  | ok place =>
      cases place with
      | unnamed => exact Or.inl ⟨_, rfl⟩
      | named location =>
          dsimp only
          cases hslash : Path.endsInSlash path with
          | true => exact Or.inl ⟨_, rfl⟩
          | false =>
              rw [if_neg Bool.false_ne_true, EStateM.run_bind, EStateM.run_get]
              dsimp only
              split
              · exact Or.inl ⟨_, rfl⟩
              · next hnode => exact Or.inr ⟨location, rfl, hnode, rfl, rfl⟩

theorem readText_writeText (h : (writeText path s).run files = .ok () after) :
    after.readText path = .ok s := by
  rcases run_writeText path s files with ⟨error, hrun⟩ | ⟨location, hplace, hfolder, hslash, hrun⟩
  · rw [hrun] at h
    cases h
  · rw [hrun] at h
    cases h
    have hput := changesOnly_put_file (.text s) hfolder
    rw [readText_eq_ok_iff]
    exact ⟨location, hput.locate (place?_eq_named_iff.mp hplace).left,
      node?_put_self files _ (ne_nil_of_place? hplace), hslash⟩

theorem run_moveFile {source : String} {old : Location} {content : Content}
    (hsource : files.place? source = .ok (.named old))
    (hold : files.node? old = some (.file content)) (target : String) :
    (∃ error, (moveFile source target).run files = .error error files) ∨
      ∃ new, files.place? target = .ok (.named new) ∧ files.node? new ≠ some .folder ∧
        Path.endsInSlash target = false ∧
        (moveFile source target).run files = .ok () (files.move old new content) := by
  unfold moveFile
  rw [EStateM.run_bind, run_resolve, hsource]
  dsimp only
  rw [EStateM.run_bind, run_resolve]
  cases htarget : files.place? target with
  | error error => exact Or.inl ⟨error, rfl⟩
  | ok place =>
      cases place with
      | unnamed => exact Or.inl ⟨_, rfl⟩
      | named new =>
          dsimp only
          rw [EStateM.run_bind, EStateM.run_get]
          dsimp only
          rw [hold]
          dsimp only
          cases hslash : Path.endsInSlash target with
          | true => exact Or.inl ⟨_, rfl⟩
          | false =>
              rw [if_neg Bool.false_ne_true]
              by_cases hnew : files.node? new = some .folder
              · rw [if_pos hnew]
                exact Or.inl ⟨_, rfl⟩
              · rw [if_neg hnew]
                refine Or.inr ⟨new, rfl, hnew, rfl, ?_⟩
                unfold move
                split <;> rfl

end Disk

end Rowsmith
