import Rowsmith.Proofs.Catalog.Queries
import Rowsmith.Proofs.Settings.Override
import Rowsmith.Proofs.Settings.Reading

/-!
# Queries of the loader

The loader asks for tables and columns of the wanted schemas, and a list of schemas without members
could not be written into a query. It never gets one: the schemas come from the command line, from
the configuration file or from the default, and none of these gives a list that is empty or has a
blank name in it.
-/

namespace Rowsmith

open Text

structure NamesSchemas (schemas : List String) : Prop where
  nonempty : schemas ≠ []
  notBlank : ∀ schema ∈ schemas, isBlankText schema = false

/-!
# Schemas on the command line
-/

/-- The schemas that are named by options, if there are any, can be asked for. -/
def GenerateOptions.SchemasNamed (options : GenerateOptions) : Prop :=
  ∀ schemas, options.schemas = some schemas → NamesSchemas schemas

namespace GenerateOptions

variable {options next result : GenerateOptions}

theorem schemasNamed_fresh : ({} : GenerateOptions).SchemasNamed := by
  intro schemas h
  cases h

/-- The option for schemas refuses a list without names, and no other option touches the schemas. -/
theorem SchemasNamed.set (h : options.SchemasNamed) {option : ValueOption} {value : String}
    (hset : options.set option value = .ok next) : next.SchemasNamed := by
  cases option with
  | config =>
      cases hset
      exact h
  | url =>
      cases hset
      exact h
  | directory =>
      cases hset
      exact h
  | table =>
      cases hset
      exact h
  | schema =>
      unfold GenerateOptions.set at hset
      dsimp only at hset
      split at hset
      · cases hset
      · next hnames =>
          cases hset
          intro schemas hschemas
          cases hschemas
          constructor
          · intro hnil
            rw [hnil] at hnames
            exact hnames rfl
          · intro schema
            exact isBlankText_of_mem_schemaNames

theorem SchemasNamed.finish (h : options.SchemasNamed)
    (hfinish : options.finish = .ok (.generate result)) : result.SchemasNamed := by
  unfold GenerateOptions.finish at hfinish
  split at hfinish
  · cases hfinish
  · split at hfinish
    · cases hfinish
    · cases hfinish
      exact h

theorem SchemasNamed.read {arguments : List String} (h : options.SchemasNamed)
    (hread : readGenerate options arguments = .ok (.generate result)) : result.SchemasNamed := by
  induction options, arguments using readGenerate.induct with
  | case1 options => exact h.finish hread
  | case2 options argument rest hargument =>
      rw [readGenerate, hargument] at hread
      cases hread
  | case3 options argument rest hargument ih =>
      rw [readGenerate_dryRun hargument] at hread
      exact ih h hread
  | case4 options argument rest hargument ih =>
      rw [readGenerate_check hargument] at hread
      exact ih h hread
  -- Only an option with a value can touch the schemas, in either form.
  | case5 options argument rest option value hargument next hset ih =>
      rw [readGenerate_assigned hargument, hset] at hread
      exact ih (h.set hset) hread
  | case6 options argument rest option value hargument error hset =>
      rw [readGenerate_assigned hargument, hset] at hread
      cases hread
  | case7 options argument option hargument =>
      rw [readGenerate, hargument] at hread
      cases hread
  | case8 options argument option hargument value rest next hset ih =>
      rw [readGenerate_named hargument, hset] at hread
      exact ih (h.set hset) hread
  | case9 options argument option hargument value rest error hset =>
      rw [readGenerate_named hargument, hset] at hread
      cases hread
  | case10 options argument rest hargument =>
      rw [readGenerate, hargument] at hread
      cases hread

end GenerateOptions

theorem readInit_ne_generate {options : GenerateOptions} (config : String)
    (arguments : List String) : readInit config arguments ≠ .ok (.generate options) := by
  induction config, arguments using readInit.induct with
  | case1 config =>
      intro h
      cases h
  | case2 config argument rest hargument =>
      rw [readInit_help hargument]
      intro h
      cases h
  | case3 config argument rest option value hargument ih =>
      rw [readInit_assigned hargument]
      exact ih
  | case4 config argument option hargument =>
      rw [readInit_alone hargument]
      intro h
      cases h
  | case5 config argument option hargument value rest ih =>
      rw [readInit_named hargument]
      exact ih
  | case6 config argument rest hhelp hassigned hnamed =>
      rw [readInit_unknown hhelp hassigned hnamed]
      intro h
      cases h

theorem schemasNamed_of_parseArguments {arguments : List String} {options : GenerateOptions}
    (h : parseArguments arguments = .ok (.generate options)) : options.SchemasNamed := by
  unfold parseArguments at h
  split at h
  · exact absurd h (readInit_ne_generate _ _)
  · exact GenerateOptions.schemasNamed_fresh.read h

/-!
# Schemas of a run
-/

theorem Config.notBlank_of_parse {environment : Variables} {s : String} {config : Config}
    (h : Config.parse environment s = .ok config) :
    ∀ schema ∈ config.schemas, isBlankText schema = false := by
  cases hread : Config.read? s with
  | none =>
      rw [Config.parse, hread] at h
      cases h
  | some written =>
      rw [Config.parse_of_read? hread] at h
      have hblank := (Config.settle_eq_ok_iff.mp h).right
      have hschemas := (Config.blank?_eq_none_iff.mp hblank).right.left
      intro schema hschema
      exact Bool.eq_false_iff.mpr (List.any_eq_false.mp hschemas schema hschema)

namespace Settings

variable {options : GenerateOptions} {project : Project}

theorem namesSchemas_schemasOf (hoptions : options.SchemasNamed)
    (hconfig : ∀ schema ∈ project.config.schemas, isBlankText schema = false) :
    NamesSchemas (schemasOf options project) := by
  unfold schemasOf
  cases hgiven : options.schemas with
  | some schemas => exact hoptions schemas hgiven
  | none =>
      dsimp only
      split
      · constructor
        · exact List.cons_ne_nil _ _
        · intro schema hschema
          rw [List.mem_singleton.mp hschema]
          decide
      · next hempty =>
          constructor
          · intro hnil
            rw [hnil] at hempty
            exact hempty rfl
          · exact hconfig

theorem not_blank_of_url? {fallback : Option String} {url : String}
    (h : url? options project fallback = some url) : isBlankText url = false := by
  have hkept := (Option.filter_eq_some_iff.mp h).right
  rw [Bool.not_eq_true'] at hkept
  exact hkept

end Settings

/-!
# Queries of a run
-/

/-- Whenever the arguments and the configuration file lead to settings, the settings can be worked
with: there is an address, there are schemas, and both queries of the loader ask for these schemas,
in the same words and with the same arguments. -/
theorem settings_make_loader_queries {arguments : List String} {options : GenerateOptions}
    {environment : Variables} {s : String} {config : Config} {folder : String}
    {fallback : Option String} {settings : Settings}
    (harguments : parseArguments arguments = .ok (.generate options))
    (hconfig : Config.parse environment s = .ok config)
    (hsettings : Settings.resolve options ⟨folder, config⟩ fallback = .ok settings) :
    isBlankText settings.url = false ∧ settings.schemas ≠ [] ∧
      (∀ schema ∈ settings.schemas, isBlankText schema = false) ∧
      (tablesQuery settings.schemas).compile =
        .ok (loaderStatement (tablesQuery settings.schemas).columns "information_schema.tables"
          settings.schemas) ∧
      (columnsQuery settings.schemas).compile =
        .ok (loaderStatement (columnsQuery settings.schemas).columns "information_schema.columns"
          settings.schemas) := by
  rcases Settings.resolve_eq_ok_iff.mp hsettings with ⟨hurl, _, hschemas, _⟩
  have hnames : NamesSchemas settings.schemas := by
    rw [hschemas]
    exact Settings.namesSchemas_schemasOf (schemasNamed_of_parseArguments harguments)
      (Config.notBlank_of_parse hconfig)
  refine ⟨Settings.not_blank_of_url? hurl, hnames.nonempty, hnames.notBlank, ?_, ?_⟩
  · exact compile_tablesQuery hnames.nonempty
  · exact compile_columnsQuery hnames.nonempty

/-- Two schemas from the command line and the address from a file. -/
theorem two_schemas_make_loader_queries :
    parseArguments ["--schema", " ,public", "--schema=audit, public"] =
      .ok (.generate { schemas := some ["audit", "public"] }) ∧
    ∃ config settings, Config.parse .empty "[database]\nurl = \"postgres://app\"\n" = .ok config ∧
      Settings.resolve { schemas := some ["audit", "public"] } ⟨".", config⟩ none = .ok settings ∧
      settings.url = "postgres://app" ∧
      (tablesQuery settings.schemas).compile =
        .ok ⟨"SELECT table_schema::text AS table_schema, table_name::text AS table_name" ++
            " FROM information_schema.tables WHERE (table_schema::text IN ($1,$2))",
          [.required (.text "audit"), .required (.text "public")]⟩ := by
  have harguments : parseArguments ["--schema", " ,public", "--schema=audit, public"] =
      .ok (.generate { schemas := some ["audit", "public"] }) := by decide +kernel
  have hconfig : Config.parse .empty "[database]\nurl = \"postgres://app\"\n" =
      .ok ⟨some "postgres://app", [], none, .empty⟩ := by decide +kernel
  have hsettings : Settings.resolve { schemas := some ["audit", "public"] }
      ⟨".", ⟨some "postgres://app", [], none, .empty⟩⟩ none =
        .ok ⟨"postgres://app", ".", ["audit", "public"], none⟩ := by decide +kernel
  have hqueries := settings_make_loader_queries harguments hconfig hsettings
  refine ⟨harguments, _, _, hconfig, hsettings, rfl, ?_⟩
  rw [hqueries.right.right.right.left]
  decide +kernel

end Rowsmith
