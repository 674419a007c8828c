import Mathlib.Data.List.Pairwise
import Rowsmith.Proofs.Files.GeneratedPath
import Rowsmith.Proofs.Files.Replacement

/-!
# Settled folders

Once every generated file is in its place, later runs find nothing to do. A run that ends well
leaves the folder settled if the files have different places; where a table takes the place of an
index, the one written last stands there and every later run finds the other one missing.
-/

namespace Rowsmith

open FileSystem

structure Settled (folder : String) (generated : List GeneratedFile) (files : FileSystem) :
    Prop where
  present : ∀ file ∈ generated, files.readText (Path.join folder file.path) = .ok file.content
  check : writeFiles .check folder generated files = ⟨.ok {}, "", files⟩
  dryRun : writeFiles .dryRun folder generated files = ⟨.ok {}, "", files⟩
  write : writeFiles .write folder generated files = ⟨.ok {}, "", files⟩

variable {folder : String} {generated : List GeneratedFile} {files : FileSystem}

/-!
# Files at their places
-/

theorem mem_placed_iff {file : GeneratedFile} :
    file ∈ placed folder generated ↔
      ∃ own ∈ generated, file = ⟨Path.join folder own.path, own.content⟩ := by
  unfold placed
  rw [List.mem_mergeSort, List.mem_map]
  constructor
  · intro hexists
    rcases hexists with ⟨own, hown, rfl⟩
    exact ⟨own, hown, rfl⟩
  · intro hexists
    rcases hexists with ⟨own, hown, rfl⟩
    exact ⟨own, hown, rfl⟩

theorem placed_of_sorted (h : (generated.map fun file : GeneratedFile =>
      ({ file with path := Path.join folder file.path } : GeneratedFile)).Pairwise
      fun file later => Path.le file.path later.path = true) :
    placed folder generated =
      generated.map fun file => { file with path := Path.join folder file.path } :=
  List.mergeSort_of_pairwise h

theorem holds_iff {file : GeneratedFile} :
    files.holds file = true ↔ files.readText file.path = .ok file.content := by
  unfold FileSystem.holds
  cases files.readText file.path with
  | ok s => simp
  | error error => simp

theorem changedPaths_eq_nil_iff {pending : List GeneratedFile} :
    changedPaths files pending = [] ↔
      ∀ file ∈ pending, files.readText file.path = .ok file.content := by
  unfold changedPaths
  simp [List.filter_eq_nil_iff, holds_iff]

theorem toWrite_nil (pending : List GeneratedFile) : toWrite [] pending = [] := by
  unfold toWrite
  simp

/-!
# Reports
-/

section Reports

variable {after : FileSystem}

theorem writeFiles_of_ok
    (h : (replaceFiles (toWrite (changedPaths files (placed folder generated))
      (placed folder generated))).run files = .ok () after) :
    writeFiles .write folder generated files =
      let written := (toWrite (changedPaths files (placed folder generated))
        (placed folder generated)).map (·.path)
      ⟨.ok ⟨changedPaths files (placed folder generated), written⟩, announce "wrote" written,
        after⟩ := by
  unfold writeFiles
  dsimp only
  rw [h]

theorem writeFiles_of_error {error : WriteError}
    (h : (replaceFiles (toWrite (changedPaths files (placed folder generated))
      (placed folder generated))).run files = .error error after) :
    writeFiles .write folder generated files = ⟨.error error, "", after⟩ := by
  unfold writeFiles
  dsimp only
  rw [h]

theorem writeFiles_eq_ok {summary : WriteSummary}
    (h : (writeFiles .write folder generated files).result = .ok summary) :
    (replaceFiles (toWrite (changedPaths files (placed folder generated))
        (placed folder generated))).run files =
      .ok () (writeFiles .write folder generated files).files := by
  cases hrun : (replaceFiles (toWrite (changedPaths files (placed folder generated))
    (placed folder generated))).run files with
  | ok _ after => rw [writeFiles_of_ok hrun]
  | error error after =>
      rw [writeFiles_of_error hrun] at h
      cases h

theorem writeFiles_eq_error {error : WriteError}
    (h : (writeFiles .write folder generated files).result = .error error) :
    (replaceFiles (toWrite (changedPaths files (placed folder generated))
      (placed folder generated))).run files =
        .error error (writeFiles .write folder generated files).files := by
  cases hrun : (replaceFiles (toWrite (changedPaths files (placed folder generated))
    (placed folder generated))).run files with
  | ok _ after =>
      rw [writeFiles_of_ok hrun] at h
      cases h
  | error cause after =>
      rw [writeFiles_of_error hrun] at h ⊢
      cases h
      rfl

theorem files_writeFiles_of_ne_write {mode : WriteMode} (h : mode ≠ .write) (folder : String)
    (generated : List GeneratedFile) (files : FileSystem) :
    (writeFiles mode folder generated files).files = files := by
  unfold writeFiles
  cases mode with
  | write => exact absurd rfl h
  | dryRun => rfl
  | check =>
      dsimp only
      split
      · rfl
      · rfl

end Reports

theorem settled_of_present
    (h : ∀ file ∈ generated, files.readText (Path.join folder file.path) = .ok file.content) :
    Settled folder generated files := by
  have hchanged : changedPaths files (placed folder generated) = [] := by
    rw [changedPaths_eq_nil_iff]
    intro file hfile
    rcases mem_placed_iff.mp hfile with ⟨own, hown, rfl⟩
    exact h own hown
  constructor
  · exact h
  · unfold writeFiles
    dsimp only
    rw [hchanged]
    rfl
  · unfold writeFiles
    dsimp only
    rw [hchanged]
    rfl
  · have hrun : (replaceFiles (toWrite (changedPaths files (placed folder generated))
        (placed folder generated))).run files = .ok () files := by
      rw [hchanged, toWrite_nil]
      rfl
    rw [writeFiles_of_ok hrun, hchanged, toWrite_nil]
    rfl

/-!
# Runs that end well
-/

theorem mem_toWrite_or_holds {pending : List GeneratedFile} {file : GeneratedFile}
    (hfile : file ∈ pending) :
    file ∈ toWrite (changedPaths files pending) pending ∨
      files.readText file.path = .ok file.content := by
  by_cases hheld : files.readText file.path = .ok file.content
  · exact Or.inr hheld
  · refine Or.inl (List.mem_filter.mpr ⟨hfile, ?_⟩)
    rw [List.any_eq_true]
    refine ⟨file.path, ?_, by simp [Path.same]⟩
    apply List.mem_map_of_mem
    rw [List.mem_filter]
    refine ⟨hfile, ?_⟩
    rw [← holds_iff] at hheld
    simpa using hheld

theorem eq_of_destination {all : List GeneratedFile}
    (hapart : all.Pairwise (GeneratedFile.Apart files)) {file other : GeneratedFile}
    (hfile : file ∈ all) (hother : other ∈ all)
    (hsame : files.destination file.path = files.destination other.path) : file = other := by
  by_contra hne
  exact (hapart.forall hfile hother hne).left (Or.inr hsame)

theorem readText_toWrite {all : List GeneratedFile} {after : FileSystem}
    (hrun : (replaceFiles (toWrite (changedPaths files all) all)).run files = .ok () after)
    (hapart : all.Pairwise (GeneratedFile.Apart files)) :
    ∀ file ∈ all, after.readText file.path = .ok file.content := by
  have hoption := fun file hfile => @mem_toWrite_or_holds files all file hfile
  generalize hpending : toWrite (changedPaths files all) all = pending at hrun hoption
  have hwritten : ∀ file ∈ pending, file ∈ all := by
    intro file hfile
    rw [← hpending] at hfile
    exact List.mem_of_mem_filter hfile
  have hkeptApart : KeptApart pending files := by
    rw [← hpending]
    apply (hapart.filter _).imp
    intro file later h
    exact h.left
  intro file hfile
  by_cases hmem : file ∈ pending
  · exact readText_replaceFiles hrun hkeptApart file hmem
  · have hkept := replaceFiles_changesOnly pending files
    rw [hrun] at hkept
    apply hkept.readText _ ((hoption file hfile).resolve_left hmem)
    intro hexists
    rcases hexists with ⟨other, hother, htouched⟩
    have hne : file ≠ other := by
      intro hsame
      subst hsame
      exact hmem hother
    exact (hapart.forall hfile (hwritten other hother) hne).left htouched

theorem present_of_writeFiles
    (hapart : (placed folder generated).Pairwise (GeneratedFile.Apart files))
    {summary : WriteSummary}
    (h : (writeFiles .write folder generated files).result = .ok summary) :
    ∀ file ∈ generated,
      (writeFiles .write folder generated files).files.readText (Path.join folder file.path) =
        .ok file.content := by
  have hthere := readText_toWrite (writeFiles_eq_ok h) hapart
  intro file hfile
  exact hthere ⟨_, _⟩ (mem_placed_iff.mpr ⟨file, hfile, rfl⟩)

section Places

variable (hsource : ∀ file ∈ generated, IsSourcePath file.path)

include hsource

theorem not_touches_of_ne {file other : GeneratedFile} (hfile : file ∈ placed folder generated)
    (hother : other ∈ placed folder generated) (hne : file.path ≠ other.path)
    (files : FileSystem) : ¬other.Touches files (files.destination file.path) := by
  rcases mem_placed_iff.mp hfile with ⟨own, hown, rfl⟩
  rcases mem_placed_iff.mp hother with ⟨foreign, hforeign, rfl⟩
  intro htouched
  rcases htouched with hdraft | hplace
  · exact destination_source_ne_draft (hsource own hown) (hsource foreign hforeign) files folder
      hdraft
  · apply hne
    rw [destination_source_inj (hsource own hown) (hsource foreign hforeign) hplace]

variable (hdistinct : (generated.map (·.path)).Nodup)

include hdistinct

theorem placed_paths_nodup : ((placed folder generated).map (·.path)).Nodup := by
  have hperm : ((placed folder generated).map (·.path)).Perm
      ((generated.map (·.path)).map (Path.join folder)) := by
    unfold placed
    rw [List.map_map]
    have hsorted := List.mergeSort_perm (generated.map fun file =>
      { file with path := Path.join folder file.path }) fun a b => Path.le a.path b.path
    have hmapped := hsorted.map (·.path)
    rw [List.map_map] at hmapped
    exact hmapped
  rw [hperm.nodup_iff]
  refine List.Nodup.map_on ?_ hdistinct
  intro path hpath other hother hsame
  rcases List.mem_map.mp hpath with ⟨file, hfile, rfl⟩
  rcases List.mem_map.mp hother with ⟨foreign, hforeign, rfl⟩
  -- Where the joined paths lead on any file system tells the paths apart.
  exact destination_source_inj (hsource file hfile) (hsource foreign hforeign)
    (congrArg (FileSystem.destination ⟨[], []⟩) hsame)

theorem apart_of_sources (files : FileSystem) :
    (placed folder generated).Pairwise (GeneratedFile.Apart files) := by
  have hpaths := List.pairwise_map.mp (@placed_paths_nodup folder generated hsource hdistinct)
  apply hpaths.imp_of_mem
  intro file other hfile hother hne
  exact ⟨not_touches_of_ne hsource hfile hother hne files,
    not_touches_of_ne hsource hother hfile (Ne.symm hne) files⟩

end Places

/-!
# Rendered files
-/

section Rendered

variable {overrides : Overrides} {catalog : Catalog} {target : Option String}

theorem isSourcePath_of_render (h : render overrides catalog target = .ok generated) :
    ∀ file ∈ generated, IsSourcePath file.path := by
  intro file hfile
  have hpath := List.mem_map_of_mem (f := (·.path)) hfile
  rw [render_paths h] at hpath
  rcases List.mem_flatMap.mp hpath with ⟨stem, hstem, hpath⟩
  exact ⟨stem, isAsciiWord_stem hstem, hpath⟩

theorem model_text_ne_modelIndex (model : Model) (names : List TableNames) :
    model.text ≠ modelIndex names := by
  intro hsame
  unfold Model.text modelIndex at hsame
  simp only [String.append_assoc, String.append_right_inj] at hsame
  have hfirst := congrArg (fun s => s.toList.head?) hsame
  simp [Text.lines, Text.line] at hfirst

/-- A table whose module is called like the index is rendered into the place of the index. -/
theorem exists_model_at_index (h : render overrides catalog none = .ok generated)
    {table : CatalogTable} (htable : table ∈ catalog.tables)
    (hword : (Identifier.ofName table.name).word = "mod") :
    ∃ (model : Model) (names : List TableNames), ⟨"mod.rs", model.text⟩ ∈ generated ∧
      ⟨"mod.rs", modelIndex names⟩ ∈ generated := by
  rcases render_none_eq_ok_iff.mp h with ⟨others, hothers, rfl⟩
  rcases renderTables_mem hothers htable with ⟨own, hown, hmem⟩
  rcases renderTable_eq_ok_iff.mp hown with ⟨model, descriptor, _, _, rfl⟩
  have hpath : (TableNames.of table.name).modelPath = "mod.rs" := by
    show (Identifier.ofName table.name).word ++ ".rs" = _
    rw [hword]
    rfl
  have hmodel := hmem _ (List.mem_cons_self ..)
  rw [hpath] at hmodel
  exact ⟨model, _, List.mem_append_left _ hmodel,
    List.mem_append_right others (List.mem_cons_self ..)⟩

theorem leavesIndexes_of_present (h : render overrides catalog target = .ok generated)
    (hpresent : ∀ file ∈ generated,
      files.readText (Path.join folder file.path) = .ok file.content) :
    LeavesIndexes catalog target := by
  intro hsame table htable hword
  subst hsame
  rcases exists_model_at_index h htable hword with ⟨model, names, hmodel, hindex⟩
  have hfirst := hpresent _ hmodel
  have hsecond := hpresent _ hindex
  rw [hfirst] at hsecond
  exact model_text_ne_modelIndex model names (Except.ok.inj hsecond)

/-- A run that ends well settles the folder, and keeps the files of the run apart, exactly if no
table takes the place of an index. -/
theorem settled_iff_leavesIndexes {summary : WriteSummary}
    (hrender : render overrides catalog target = .ok generated)
    (hwrite : (writeFiles .write folder generated files).result = .ok summary) :
    (Settled folder generated (writeFiles .write folder generated files).files ↔
        LeavesIndexes catalog target) ∧
      ((generated.map (·.path)).Nodup ↔ LeavesIndexes catalog target) := by
  refine ⟨⟨?_, ?_⟩, render_paths_nodup_iff hrender⟩
  · intro hsettled
    exact leavesIndexes_of_present hrender hsettled.present
  · intro hleaves
    apply settled_of_present
    have hdistinct := (render_paths_nodup_iff hrender).mpr hleaves
    exact present_of_writeFiles (apart_of_sources (isSourcePath_of_render hrender) hdistinct files)
      hwrite

end Rendered

/-!
# One table
-/

/-- A table with an ordinary name, rendered into an empty tree. -/
theorem people_settle :
    ∃ generated summary, render .empty (.ofTables [⟨"people", []⟩]) none = .ok generated ∧
      (writeFiles .write "out" generated ⟨[], []⟩).result = .ok summary ∧
      Settled "out" generated (writeFiles .write "out" generated ⟨[], []⟩).files ∧
      (generated.map (·.path)).Nodup := by
  have hplaced : placed "out" (bareFiles "people") =
      [⟨"out/mod.rs", modelIndex [TableNames.of "people"]⟩,
        ⟨"out/people.rs", Model.text ⟨"people", (TableNames.of "people").struct, []⟩⟩,
        ⟨"out/schema/mod.rs", descriptorIndex [TableNames.of "people"]⟩,
        ⟨"out/schema/people.rs", Descriptor.text ⟨"people", (TableNames.of "people").struct, []⟩⟩] := by
    have hpeople : Path.le "out/people.rs" "out/schema/people.rs" = true := by decide +kernel
    have hindexes : Path.le "out/mod.rs" "out/schema/mod.rs" = true := by decide +kernel
    have hfirst : Path.le "out/people.rs" "out/mod.rs" = false := by decide +kernel
    have hsecond : Path.le "out/people.rs" "out/schema/mod.rs" = true := by decide +kernel
    have hthird : Path.le "out/schema/people.rs" "out/schema/mod.rs" = false := by
      decide +kernel
    show List.mergeSort ([⟨"out/people.rs", _⟩, ⟨"out/schema/people.rs", _⟩,
      ⟨"out/mod.rs", _⟩, ⟨"out/schema/mod.rs", _⟩] : List GeneratedFile) _ = _
    simp [List.mergeSort, List.MergeSort.Internal.splitInTwo, hpeople, hindexes, hfirst,
      hsecond, hthird]
  have hwrite : (writeFiles .write "out" (bareFiles "people") ⟨[], []⟩).result =
      .ok ⟨["out/mod.rs", "out/people.rs", "out/schema/mod.rs", "out/schema/people.rs"],
        ["out/mod.rs", "out/people.rs", "out/schema/mod.rs", "out/schema/people.rs"]⟩ := by
    unfold writeFiles
    rw [hplaced]
    decide +kernel
  have hleaves : LeavesIndexes (.ofTables [⟨"people", []⟩]) none := by decide +kernel
  have hsettled := settled_iff_leavesIndexes (render_bare "people") hwrite
  exact ⟨_, _, render_bare "people", hwrite, hsettled.left.mpr hleaves,
    hsettled.right.mpr hleaves⟩

/-- The model of a table called `mod` is overwritten by the index, and a check that comes right
after the run fails. -/
theorem table_called_mod_never_settles :
    ∃ generated summary, render .empty (.ofTables [⟨"mod", []⟩]) none = .ok generated ∧
      (writeFiles .write "out" generated ⟨[], []⟩).result = .ok summary ∧
      (writeFiles .check "out" generated
        (writeFiles .write "out" generated ⟨[], []⟩).files).result = .error .outOfDate ∧
      ¬Settled "out" generated (writeFiles .write "out" generated ⟨[], []⟩).files ∧
      ¬(generated.map (·.path)).Nodup := by
  have hplaced : placed "out" (bareFiles "mod") =
      [⟨"out/mod.rs", Model.text ⟨"mod", (TableNames.of "mod").struct, []⟩⟩,
        ⟨"out/mod.rs", modelIndex [TableNames.of "mod"]⟩,
        ⟨"out/schema/mod.rs", Descriptor.text ⟨"mod", (TableNames.of "mod").struct, []⟩⟩,
        ⟨"out/schema/mod.rs", descriptorIndex [TableNames.of "mod"]⟩] := by
    have hfirst : Path.le "out/mod.rs" "out/mod.rs" = true := by decide +kernel
    have hsecond : Path.le "out/mod.rs" "out/schema/mod.rs" = true := by decide +kernel
    have hthird : Path.le "out/schema/mod.rs" "out/mod.rs" = false := by decide +kernel
    have hfourth : Path.le "out/schema/mod.rs" "out/schema/mod.rs" = true := by decide +kernel
    show List.mergeSort ([⟨"out/mod.rs", _⟩, ⟨"out/schema/mod.rs", _⟩, ⟨"out/mod.rs", _⟩,
      ⟨"out/schema/mod.rs", _⟩] : List GeneratedFile) _ = _
    simp [List.mergeSort, List.MergeSort.Internal.splitInTwo, hfirst, hsecond, hthird, hfourth]
  have hcheck : (writeFiles .check "out" (bareFiles "mod")
      (writeFiles .write "out" (bareFiles "mod") ⟨[], []⟩).files).result =
        .error .outOfDate := by
    unfold writeFiles
    rw [hplaced]
    decide +kernel
  refine ⟨_, ⟨["out/mod.rs", "out/mod.rs", "out/schema/mod.rs", "out/schema/mod.rs"],
    ["out/mod.rs", "out/mod.rs", "out/schema/mod.rs", "out/schema/mod.rs"]⟩,
    render_bare "mod", ?_, hcheck, ?_, ?_⟩
  · unfold writeFiles
    rw [hplaced]
    decide +kernel
  · intro hsettled
    rw [hsettled.check] at hcheck
    cases hcheck
  · decide +kernel

end Rowsmith
