import Rowsmith.Command
import Rowsmith.Proofs.Catalog.Queries
import Rowsmith.Proofs.Catalog.RowOrder
import Rowsmith.Proofs.Files.Modes
import Rowsmith.Proofs.Model.FileList
import Rowsmith.Proofs.Settings.Override
import Rowsmith.Proofs.Text.Basic

/-!
# Runs that write nothing

The stages that a run goes through, and the runs that come to an end before anything is written.
-/

namespace Rowsmith

open Text

variable {arguments : List String} {options : GenerateOptions} {surroundings : Surroundings}

/-!
# Stages of a run

A run that generates first finds out what to do, connects, loads a catalog and renders it. It stops
at the first of these stages that fails; otherwise it hands the files to the writer, and what is
printed and what becomes of the files is up to the writer alone.

## Ways to end
-/

structure Loads (options : GenerateOptions) (surroundings : Surroundings) (job : Job)
    (replies : CatalogReplies) (catalog : Catalog) : Prop where
  prepared : options.job surroundings = .ok job
  connected : surroundings.server job.settings.url = some replies
  loaded : (loadCatalog job.settings.schemas replies).result = .ok catalog

def Job.render (job : Job) (catalog : Catalog) : Except RenderError (List GeneratedFile) :=
  Rowsmith.render (.ofConfigured job.project.config.types) catalog job.settings.table

/-- A run ends with an error before it looks at the files that it could write. -/
inductive Stops (options : GenerateOptions) (surroundings : Surroundings) :
    CommandError → Prop where
  | settings {error : SettingsError} (h : options.job surroundings = .error error) :
      Stops options surroundings (.settings error)
  | connection {job : Job} (hjob : options.job surroundings = .ok job)
      (h : surroundings.server job.settings.url = none) : Stops options surroundings .connection
  | load {job : Job} {replies : CatalogReplies} {error : LoadError}
      (hjob : options.job surroundings = .ok job)
      (hserver : surroundings.server job.settings.url = some replies)
      (h : (loadCatalog job.settings.schemas replies).result = .error error) :
      Stops options surroundings (.load error)
  | render {job : Job} {replies : CatalogReplies} {catalog : Catalog} {error : RenderError}
      (hloads : Loads options surroundings job replies catalog)
      (h : job.render catalog = .error error) : Stops options surroundings (.render error)

def Generates (options : GenerateOptions) (surroundings : Surroundings) (job : Job)
    (generated : List GeneratedFile) : Prop :=
  ∃ replies catalog, Loads options surroundings job replies catalog ∧
    job.render catalog = .ok generated

theorem stops_or_generates (options : GenerateOptions) (surroundings : Surroundings) :
    (∃ error, Stops options surroundings error) ∨
      ∃ job generated, Generates options surroundings job generated := by
  cases hjob : options.job surroundings with
  | error error => exact Or.inl ⟨_, .settings hjob⟩
  | ok job =>
      cases hserver : surroundings.server job.settings.url with
      | none => exact Or.inl ⟨_, .connection hjob hserver⟩
      | some replies =>
          cases hcatalog : (loadCatalog job.settings.schemas replies).result with
          | error error => exact Or.inl ⟨_, .load hjob hserver hcatalog⟩
          | ok catalog =>
              have hloads : Loads options surroundings job replies catalog :=
                ⟨hjob, hserver, hcatalog⟩
              cases hrender : job.render catalog with
              | error error => exact Or.inl ⟨_, .render hloads hrender⟩
              | ok generated => exact Or.inr ⟨job, generated, replies, catalog, hloads, hrender⟩

theorem table_of_job {job : Job} (h : options.job surroundings = .ok job) :
    job.settings.table = options.table := by
  unfold GenerateOptions.job at h
  rcases bind_eq_ok_iff.mp h with ⟨project, _, h⟩
  rcases bind_eq_ok_iff.mp h with ⟨settings, hsettings, h⟩
  cases h
  exact (Settings.resolve_eq_ok_iff.mp hsettings).right.right.right

theorem stops_of_clash {job : Job} {replies : CatalogReplies} {catalog : Catalog}
    (hloads : Loads options surroundings job replies catalog)
    (hclash : ¬TablesApart (catalog.rendered options.table)) :
    ∃ error, Stops options surroundings (.render error) := by
  cases hrender : job.render catalog with
  | error error => exact ⟨error, .render hloads hrender⟩
  | ok generated =>
      unfold Job.render at hrender
      rw [table_of_job hloads.prepared] at hrender
      exact absurd (exists_render_iff.mp ⟨generated, hrender⟩).left hclash

/-!
## Outcomes
-/

theorem run_generate (h : parseArguments arguments = .ok (.generate options)) :
    run arguments surroundings = runGenerate options surroundings := by
  unfold run
  rw [h]

theorem runGenerate_of_stops {error : CommandError} (h : Stops options surroundings error) :
    (runGenerate options surroundings).result = .error error ∧
      (runGenerate options surroundings).output = "" ∧
      (runGenerate options surroundings).files = surroundings.files := by
  cases h with
  | settings h => simp [runGenerate, h]
  | connection hjob h => simp [runGenerate, hjob, h]
  | load hjob hserver h => simp [runGenerate, hjob, hserver, h]
  | render hloads h =>
      unfold Job.render at h
      simp [runGenerate, hloads.prepared, hloads.connected, hloads.loaded, h]

theorem runGenerate_of_generates {job : Job} {generated : List GeneratedFile}
    (h : Generates options surroundings job generated) :
    (runGenerate options surroundings).output =
        (writeFiles (.ofFlags options.dryRun options.check) job.settings.directory generated
          surroundings.files).output ∧
      (runGenerate options surroundings).files =
        (writeFiles (.ofFlags options.dryRun options.check) job.settings.directory generated
          surroundings.files).files := by
  rcases h with ⟨replies, catalog, hloads, hrender⟩
  unfold Job.render at hrender
  simp [runGenerate, hloads.prepared, hloads.connected, hloads.loaded, hrender]

/-!
# Traces of a run

Whatever can fail before the first file is written fails without a trace, and so do the runs that
are not meant to write. What they print does not say otherwise, unless it quotes a path with a line
break in it.

## Reports of writing
-/

/-- One of the printed lines begins like those that tell of a written file. -/
def ReportsWritten (output : String) : Prop :=
  ∃ line ∈ pieces '\n' output.toList, "wrote".toList <+: line

theorem not_reportsWritten_empty : ¬ReportsWritten "" := by
  intro h
  rcases h with ⟨line, hline, hwrote⟩
  rw [List.mem_singleton.mp hline] at hwrote
  cases List.prefix_nil.mp hwrote

theorem not_reportsWritten_lines {ss : List String}
    (h : ∀ cs ∈ ss.map String.toList, '\n' ∉ cs ∧ ¬"wrote".toList <+: cs) :
    ¬ReportsWritten (lines ss) := by
  rw [List.forall_mem_map] at h
  intro hreports
  rcases hreports with ⟨line, hline, hwrote⟩
  rw [pieces_lines fun s hs => (h s hs).left] at hline
  rcases List.mem_append.mp hline with hline | hline
  · rcases List.mem_map.mp hline with ⟨s, hs, rfl⟩
    exact (h s hs).right hwrote
  · rw [List.mem_singleton.mp hline] at hwrote
    cases List.prefix_nil.mp hwrote

theorem not_reportsWritten_help (topic : HelpTopic) : ¬ReportsWritten topic.text := by
  -- A literal is the text of its characters; the kernel is slow to find them by decoding it.
  cases topic with
  | root =>
      apply not_reportsWritten_lines
      simp only [List.map_cons, List.map_nil]
      repeat rw [String.toList_ofList]
      decide +kernel
  | init =>
      apply not_reportsWritten_lines
      simp only [List.map_cons, List.map_nil]
      repeat rw [String.toList_ofList]
      decide +kernel

theorem not_reportsWritten_announce {paths : List String} (h : ∀ path ∈ paths, '\n' ∉ path.toList) :
    ¬ReportsWritten (announce "would write" paths) := by
  apply not_reportsWritten_lines
  rw [List.forall_mem_map]
  intro s hs
  rcases List.mem_map.mp hs with ⟨path, hpath, rfl⟩
  constructor
  · exact not_mem_append (not_mem_append (by decide) (by decide)) (h path hpath)
  · rw [String.toList_append, String.toList_append]
    intro hwrote
    have hsecond := (List.cons_prefix_cons.mp hwrote).right
    cases (List.cons_prefix_cons.mp hsecond).left

/-!
## Modes that do not write
-/

theorem ofFlags_ne_write {dryRun check : Bool} (h : dryRun = true ∨ check = true) :
    WriteMode.ofFlags dryRun check ≠ .write := by
  unfold WriteMode.ofFlags
  cases dryRun with
  | true =>
      intro hwrite
      cases hwrite
  | false =>
      rcases h with h | h
      · cases h
      · rw [h]
        decide

theorem output_writeFiles_check (folder : String) (generated : List GeneratedFile)
    (files : FileSystem) : (writeFiles .check folder generated files).output = "" := by
  unfold writeFiles
  dsimp only
  split
  · rfl
  · rfl

theorem not_mem_join {folder path : String} (hpath : IsSourcePath path)
    (hfolder : '\n' ∉ folder.toList) : '\n' ∉ (Path.join folder path).toList := by
  have hrelative := (steps_sourcePath hpath "" (by decide)).left
  rw [String.append_empty] at hrelative
  have hfront : '\n' ∉ (Path.front folder).toList := by
    unfold Path.front
    split
    · exact hfolder
    · exact not_mem_append hfolder (by decide)
  rw [Path.join_relative hrelative]
  apply not_mem_append hfront
  rcases hpath with ⟨stem, hstem, hpath⟩
  have hstem := not_mem_of_isAsciiWord hstem (c := '\n') (by decide)
  rcases List.mem_pair.mp hpath with rfl | rfl
  · exact not_mem_append hstem (by decide)
  · exact not_mem_append (not_mem_append (by decide) hstem) (by decide)

/-!
## Runs
-/

/-- The runs that have nothing to write, or do not come to it. -/
inductive Idle (arguments : List String) (surroundings : Surroundings) : Prop where
  | unread {error : ArgumentError} (h : parseArguments arguments = .error error)
  | help {topic : HelpTopic} (h : parseArguments arguments = .ok (.help topic))
  | existing {path : String} (h : parseArguments arguments = .ok (.init path))
      (hexists : surroundings.files.exists? path = true)
  | stopped {options : GenerateOptions} {error : CommandError}
      (h : parseArguments arguments = .ok (.generate options))
      (hstops : Stops options surroundings error)
  | dryRun {options : GenerateOptions} (h : parseArguments arguments = .ok (.generate options))
      (hdryRun : options.dryRun = true)
  | check {options : GenerateOptions} (h : parseArguments arguments = .ok (.generate options))
      (hcheck : options.check = true)

def InitsFresh (arguments : List String) (surroundings : Surroundings) : Prop :=
  ∃ path, parseArguments arguments = .ok (.init path) ∧ surroundings.files.exists? path = false

def GeneratesInEarnest (arguments : List String) (surroundings : Surroundings) : Prop :=
  ∃ options job generated, parseArguments arguments = .ok (.generate options) ∧
    options.dryRun = false ∧ options.check = false ∧
    Generates options surroundings job generated

def DryRunsAcrossLines (arguments : List String) (surroundings : Surroundings) : Prop :=
  ∃ options job, parseArguments arguments = .ok (.generate options) ∧ options.dryRun = true ∧
    options.job surroundings = .ok job ∧ '\n' ∈ job.settings.directory.toList

theorem idle_or_writes (arguments : List String) (surroundings : Surroundings) :
    Idle arguments surroundings ∨ InitsFresh arguments surroundings ∨
      GeneratesInEarnest arguments surroundings := by
  cases hcommand : parseArguments arguments with
  | error error => exact Or.inl (.unread hcommand)
  | ok command =>
      cases command with
      | help topic => exact Or.inl (.help hcommand)
      | init path =>
          cases hexists : surroundings.files.exists? path with
          | true => exact Or.inl (.existing hcommand hexists)
          | false => exact Or.inr (Or.inl ⟨path, hcommand, hexists⟩)
      | generate options =>
          cases hdryRun : options.dryRun with
          | true => exact Or.inl (.dryRun hcommand hdryRun)
          | false =>
              cases hcheck : options.check with
              | true => exact Or.inl (.check hcommand hcheck)
              | false =>
                  rcases stops_or_generates options surroundings with
                    ⟨error, hstops⟩ | ⟨job, generated, hgenerates⟩
                  · exact Or.inl (.stopped hcommand hstops)
                  · exact Or.inr (Or.inr
                      ⟨options, job, generated, hcommand, hdryRun, hcheck, hgenerates⟩)

/-- The files stay as they were, and no line tells of a written file, unless a path is quoted that
goes over several lines. -/
structure WritesNothing (arguments : List String) (surroundings : Surroundings) : Prop where
  files : (run arguments surroundings).files = surroundings.files
  output : ReportsWritten (run arguments surroundings).output →
    DryRunsAcrossLines arguments surroundings

theorem writesNothing_of_stops {error : CommandError}
    (h : parseArguments arguments = .ok (.generate options))
    (hstops : Stops options surroundings error) : WritesNothing arguments surroundings := by
  rcases runGenerate_of_stops hstops with ⟨_, houtput, hfiles⟩
  constructor
  · rw [run_generate h, hfiles]
  · rw [run_generate h, houtput]
    exact fun hreports => absurd hreports not_reportsWritten_empty

theorem writesNothing_of_flags (h : parseArguments arguments = .ok (.generate options))
    (hflags : options.dryRun = true ∨ options.check = true) :
    WritesNothing arguments surroundings := by
  rcases stops_or_generates options surroundings with ⟨error, hstops⟩ | ⟨job, generated, hgenerates⟩
  · exact writesNothing_of_stops h hstops
  · rcases runGenerate_of_generates hgenerates with ⟨houtput, hfiles⟩
    constructor
    · rw [run_generate h, hfiles]
      exact files_writeFiles_of_ne_write (ofFlags_ne_write hflags) _ _ _
    · rw [run_generate h, houtput]
      intro hreports
      rcases hgenerates with ⟨_, _, hloads, hrender⟩
      cases hdryRun : options.dryRun with
      | true =>
          refine ⟨options, job, h, hdryRun, hloads.prepared, ?_⟩
          by_contra hfolder
          rw [hdryRun] at hreports
          apply not_reportsWritten_announce _ hreports
          intro path hpath
          rcases mem_stalePaths_iff.mp hpath with ⟨file, hfile, rfl, _⟩
          exact not_mem_join (isSourcePath_of_render hrender file hfile) hfolder
      | false =>
          have hcheck : options.check = true := by
            rcases hflags with hflags | hflags
            · rw [hdryRun] at hflags
              cases hflags
            · exact hflags
          rw [hdryRun, hcheck] at hreports
          have hsilent := output_writeFiles_check job.settings.directory
          rw [WriteMode.ofFlags, if_neg Bool.false_ne_true, if_pos rfl, hsilent] at hreports
          exact absurd hreports not_reportsWritten_empty

theorem Idle.writesNothing (h : Idle arguments surroundings) :
    WritesNothing arguments surroundings := by
  cases h with
  | unread h =>
      constructor
      · simp [run, h]
      · simp [run, h, not_reportsWritten_empty]
  | help h =>
      constructor
      · simp [run, h]
      · simp [run, h, not_reportsWritten_help]
  | existing h hexists =>
      constructor
      · simp [run, h, runInit, hexists]
      · simp [run, h, runInit, hexists, not_reportsWritten_empty]
  | stopped h hstops => exact writesNothing_of_stops h hstops
  | dryRun h hdryRun => exact writesNothing_of_flags h (Or.inl hdryRun)
  | check h hcheck => exact writesNothing_of_flags h (Or.inr hcheck)

/-- Only a run that generates in earnest, or one that makes a new configuration file, touches the
files. Every other run leaves them as they are and tells of no written file, unless a dry run quotes
a path that goes over several lines. Where two modules of the tables to render clash, or fields or
constants of one of them, no file of any table is written. -/
theorem idle_runs_write_nothing (arguments : List String) (surroundings : Surroundings) :
    (Idle arguments surroundings → WritesNothing arguments surroundings) ∧
      ((run arguments surroundings).files ≠ surroundings.files →
        InitsFresh arguments surroundings ∨ GeneratesInEarnest arguments surroundings) ∧
      ∀ options job replies catalog, parseArguments arguments = .ok (.generate options) →
        Loads options surroundings job replies catalog →
        ¬TablesApart (catalog.rendered options.table) →
        (∃ error, (run arguments surroundings).result = .error (.render error)) ∧
          (run arguments surroundings).output = "" ∧
          (run arguments surroundings).files = surroundings.files := by
  refine ⟨Idle.writesNothing, ?_, ?_⟩
  · intro hchanged
    rcases idle_or_writes arguments surroundings with hidle | hwrites
    · exact absurd hidle.writesNothing.files hchanged
    · exact hwrites
  · intro options job replies catalog hcommand hloads hclash
    rcases stops_of_clash hloads hclash with ⟨error, hstops⟩
    rcases runGenerate_of_stops hstops with ⟨hresult, houtput, hfiles⟩
    rw [run_generate hcommand]
    exact ⟨⟨error, hresult⟩, houtput, hfiles⟩

/-!
## A table that cannot be rendered
-/

def textCell (column s : String) : Cell :=
  ⟨column, .text, some (utf8Encode s)⟩

def tableCells (table : String) : Row :=
  [textCell "table_schema" "public", textCell "table_name" table]

def columnCells (table column : String) (ordinal : UInt8) : Row :=
  tableCells table ++
    [textCell "column_name" column, ⟨"ordinal_position", .int4, some [0, 0, 0, ordinal]⟩,
      textCell "is_nullable" "NO", textCell "data_type" "text", textCell "udt_name" "text"]

/-- One table is fine, and two columns of the other one make the same field. -/
def petsReplies : CatalogReplies :=
  ⟨.answer ⟨[tableCells "people", tableCells "pets"], 2⟩,
    .answer ⟨[columnCells "pets" "a b" 1, columnCells "pets" "a_b" 2], 2⟩⟩

def petsCatalog : Catalog :=
  .ofTables [⟨"people", []⟩, ⟨"pets", [⟨"a b", "text", false⟩, ⟨"a_b", "text", false⟩]⟩]

def petsSurroundings : Surroundings :=
  ⟨.empty, fun _ => some petsReplies, ⟨[], []⟩⟩

def petsOptions (directory : String) (table : Option String) (dryRun : Bool) : GenerateOptions :=
  { url := some "db", directory := some directory, table := table, dryRun := dryRun }

def petsJob (directory : String) (table : Option String) : Job :=
  ⟨⟨".", {}⟩, ⟨"db", directory, ["public"], table⟩⟩

def peopleFiles : List GeneratedFile :=
  [⟨"people.rs", Model.text ⟨"people", structName "people", []⟩⟩,
    ⟨"schema/people.rs", Descriptor.text ⟨"people", structName "people", []⟩⟩]

theorem assemble_petsCatalog :
    assemble [⟨"public", "people"⟩, ⟨"public", "pets"⟩]
      [⟨"public", "pets", "a b", 1, "NO", "text", "text"⟩,
        ⟨"public", "pets", "a_b", 2, "NO", "text", "text"⟩] = .ok petsCatalog := by
  generalize hcolumns : [(⟨"public", "pets", "a b", 1, "NO", "text", "text"⟩ : ColumnRow),
    ⟨"public", "pets", "a_b", 2, "NO", "text", "text"⟩] = columns
  have hpeople : columnsOf columns "people" "public" = [] := by
    simp [columnsOf, ← hcolumns]
  have hpets : columnsOf columns "pets" "public" =
      [⟨"a b", "text", false⟩, ⟨"a_b", "text", false⟩] := by
    simp [columnsOf, ← hcolumns, List.mergeSort, List.MergeSort.Internal.splitInTwo, ordinalOrder,
      ColumnRow.toColumn, ColumnRow.resolvedType]
  refine assemble_eq_ok_iff.mpr
    ⟨.ofList [("people", "public"), ("pets", "public")], rfl, ?_⟩
  apply NameMap.ext_find?
  intro name
  show List.lookup name [("people", columnsOf columns "people" "public"),
    ("pets", columnsOf columns "pets" "public")] = _
  rw [hpeople, hpets]
  rfl

theorem loadCatalog_petsReplies :
    (loadCatalog ["public"] petsReplies).result = .ok petsCatalog := by
  generalize htables : Answer.collect TableRow.fresh []
    ⟨[tableCells "people", tableCells "pets"], 2⟩ = tables
  generalize hcolumns : Answer.collect ColumnRow.fresh []
    ⟨[columnCells "pets" "a b" 1, columnCells "pets" "a_b" 2], 2⟩ = columns
  have htablesRead : tables.1 = .ok () ∧ tables.2.filterMap TableRow.ofRecord? =
      [⟨"public", "people"⟩, ⟨"public", "pets"⟩] := by
    rw [← htables]
    decide +kernel
  have hcolumnsRead : columns.1 = .ok () ∧ columns.2.filterMap ColumnRow.ofRecord? =
      [⟨"public", "pets", "a b", 1, "NO", "text", "text"⟩,
        ⟨"public", "pets", "a_b", 2, "NO", "text", "text"⟩] := by
    rw [← hcolumns]
    decide +kernel
  unfold petsReplies
  rw [loadCatalog_of_answers (List.cons_ne_nil _ _)
    (htables.trans (Prod.ext htablesRead.left rfl))
    (hcolumns.trans (Prod.ext hcolumnsRead.left rfl)), htablesRead.right, hcolumnsRead.right,
    assemble_petsCatalog]
  rfl

theorem loads_petsCatalog (directory : String) (table : Option String) (dryRun : Bool) :
    Loads (petsOptions directory table dryRun) petsSurroundings (petsJob directory table)
      petsReplies petsCatalog := by
  have hproject : Project.load .empty ⟨[], []⟩ defaultConfig false = .ok ⟨".", {}⟩ := by
    decide +kernel
  refine ⟨?_, rfl, loadCatalog_petsReplies⟩
  show (do
    let project ← Project.load .empty ⟨[], []⟩ defaultConfig false
    let settings ← Settings.resolve (petsOptions directory table dryRun) project none
    return Job.mk project settings) = Except.ok (petsJob directory table)
  rw [hproject]
  rfl

theorem generates_peopleFiles (directory : String) (dryRun : Bool) :
    Generates (petsOptions directory (some "people") dryRun) petsSurroundings
      (petsJob directory (some "people")) peopleFiles := by
  refine ⟨petsReplies, petsCatalog, loads_petsCatalog directory (some "people") dryRun, ?_⟩
  have htable : petsCatalog.table? "people" = some ⟨"people", []⟩ := by decide +kernel
  have hmodel : (TableNames.of "people").modelPath = "people.rs" := by decide +kernel
  have hdescriptor : (TableNames.of "people").descriptorPath = "schema/people.rs" := by
    decide +kernel
  show render _ petsCatalog (some "people") = _
  rw [render_some htable]
  refine renderTable_eq_ok_iff.mpr ⟨_, _, ofTable_eq_ok_iff.mpr ⟨List.nodup_nil, rfl⟩,
    descriptorOfTable_eq_ok_iff.mpr ⟨List.nodup_nil, rfl⟩, ?_⟩
  rw [peopleFiles, ← hmodel, ← hdescriptor]
  rfl

theorem not_tablesApart_petsCatalog : ¬TablesApart (petsCatalog.rendered none) := by
  intro h
  have hpets : (⟨"pets", [⟨"a b", "text", false⟩, ⟨"a_b", "text", false⟩]⟩ : CatalogTable) ∈
      petsCatalog.tables := by decide +kernel
  have hfields := (h.members _ hpets).fields
  revert hfields
  decide +kernel

theorem placed_peopleFiles {folder : String}
    (hle : Path.le (Path.join folder "people.rs") (Path.join folder "schema/people.rs") = true) :
    placed folder peopleFiles =
      [⟨Path.join folder "people.rs", Model.text ⟨"people", structName "people", []⟩⟩,
        ⟨Path.join folder "schema/people.rs",
          Descriptor.text ⟨"people", structName "people", []⟩⟩] := by
  show List.mergeSort ([⟨Path.join folder "people.rs", _⟩,
    ⟨Path.join folder "schema/people.rs", _⟩] : List GeneratedFile) _ = _
  simp [List.mergeSort, List.MergeSort.Internal.splitInTwo, hle]

theorem readText_people :
    (run ["--url", "db", "--dir", "out", "--table", "people"]
      petsSurroundings).files.readText "out/people.rs" =
        .ok (Model.text ⟨"people", structName "people", []⟩) := by
  have hcommand : parseArguments ["--url", "db", "--dir", "out", "--table", "people"] =
      .ok (.generate (petsOptions "out" (some "people") false)) := by decide +kernel
  have hplaced : placed "out" peopleFiles = _ := placed_peopleFiles (by decide +kernel)
  have hread : (writeFiles .write "out" peopleFiles ⟨[], []⟩).files.readText "out/people.rs" =
      .ok (Model.text ⟨"people", structName "people", []⟩) := by
    unfold writeFiles
    rw [hplaced]
    decide +kernel
  rw [run_generate hcommand,
    (runGenerate_of_generates (generates_peopleFiles "out" false)).right]
  exact hread

/-- A clash in one table keeps the other one from being written too, a dry run of the other one
leaves the files alone, and a run that does not is one in earnest. -/
theorem clash_stops_both_tables :
    (parseArguments ["--url", "db", "--dir", "out"] =
          .ok (.generate (petsOptions "out" none false)) ∧
        ¬TablesApart (petsCatalog.rendered none) ∧
        (∃ error, (run ["--url", "db", "--dir", "out"] petsSurroundings).result =
          .error (.render error)) ∧
        (run ["--url", "db", "--dir", "out"] petsSurroundings).files = petsSurroundings.files) ∧
      (Idle ["--url", "db", "--dir", "out", "--table", "people", "--dry-run"] petsSurroundings ∧
        ¬ReportsWritten
          (run ["--url", "db", "--dir", "out", "--table", "people", "--dry-run"]
            petsSurroundings).output) ∧
      (InitsFresh ["--url", "db", "--dir", "out", "--table", "people"] petsSurroundings ∨
        GeneratesInEarnest ["--url", "db", "--dir", "out", "--table", "people"]
          petsSurroundings) := by
  have hall : parseArguments ["--url", "db", "--dir", "out"] =
      .ok (.generate (petsOptions "out" none false)) := by decide +kernel
  have hone : parseArguments ["--url", "db", "--dir", "out", "--table", "people", "--dry-run"] =
      .ok (.generate (petsOptions "out" (some "people") true)) := by decide +kernel
  have hidle : Idle ["--url", "db", "--dir", "out", "--table", "people", "--dry-run"]
      petsSurroundings := .dryRun hone rfl
  have hclash := (idle_runs_write_nothing ["--url", "db", "--dir", "out"]
    petsSurroundings).right.right _ _ _ _ hall (loads_petsCatalog "out" none false)
      not_tablesApart_petsCatalog
  have hquiet := (idle_runs_write_nothing _ petsSurroundings).left hidle
  refine ⟨⟨hall, not_tablesApart_petsCatalog, hclash.left, hclash.right.right⟩, ⟨hidle, ?_⟩, ?_⟩
  · intro hreports
    rcases hquiet.output hreports with ⟨options, job, hcommand, _, hjob, hbreak⟩
    rw [hone] at hcommand
    cases hcommand
    rw [(loads_petsCatalog "out" (some "people") true).prepared] at hjob
    cases hjob
    revert hbreak
    decide
  · apply (idle_runs_write_nothing _ petsSurroundings).right.left
    intro hsame
    have hread := readText_people
    rw [hsame] at hread
    cases hread

/-- A dry run quotes its folder as it is, and what follows a line break in it can look like the
report of a written file. And a run for one table writes its files, whatever another table is
like. -/
theorem idle_runs_may_seem_to_write :
    (Idle ["--url", "db", "--dir", "out\nwrote more", "--table", "people", "--dry-run"]
        petsSurroundings ∧
      ReportsWritten
        (run ["--url", "db", "--dir", "out\nwrote more", "--table", "people", "--dry-run"]
          petsSurroundings).output) ∧
    parseArguments ["--url", "db", "--dir", "out", "--table", "people"] =
        .ok (.generate (petsOptions "out" (some "people") false)) ∧
      Loads (petsOptions "out" (some "people") false) petsSurroundings
        (petsJob "out" (some "people")) petsReplies petsCatalog ∧
      ¬TablesApart petsCatalog.tables ∧
      (run ["--url", "db", "--dir", "out", "--table", "people"]
        petsSurroundings).files.readText "out/people.rs" =
          .ok (Model.text ⟨"people", structName "people", []⟩) := by
  have hdry : parseArguments
      ["--url", "db", "--dir", "out\nwrote more", "--table", "people", "--dry-run"] =
        .ok (.generate (petsOptions "out\nwrote more" (some "people") true)) := by decide +kernel
  have hone : parseArguments ["--url", "db", "--dir", "out", "--table", "people"] =
      .ok (.generate (petsOptions "out" (some "people") false)) := by decide +kernel
  have hplaced : placed "out\nwrote more" peopleFiles = _ :=
    placed_peopleFiles (by decide +kernel)
  have houtput : (writeFiles .dryRun "out\nwrote more" peopleFiles ⟨[], []⟩).output =
      announce "would write"
        ["out\nwrote more/people.rs", "out\nwrote more/schema/people.rs"] := by
    unfold writeFiles
    rw [hplaced]
    decide +kernel
  refine ⟨⟨.dryRun hdry rfl, ?_⟩, hone, loads_petsCatalog "out" (some "people") false,
    not_tablesApart_petsCatalog, readText_people⟩
  rw [run_generate hdry,
    (runGenerate_of_generates (generates_peopleFiles "out\nwrote more" true)).left]
  show ReportsWritten (writeFiles .dryRun "out\nwrote more" peopleFiles ⟨[], []⟩).output
  rw [houtput]
  exact ⟨"wrote more/people.rs".toList, by decide +kernel, by decide⟩

end Rowsmith
