import Rowsmith.Proofs.Basic
import Rowsmith.Settings.Project

/-!
# Settings given twice

A setting on the command line takes the place of the one in the configuration file, but the file is
made ready for use as a whole before that. A setting of the file that is overridden has no part in
the settings of a run; it can still keep the run from having any.
-/

namespace Rowsmith

open Text

variable {environment : Variables} {config : Config}

/-!
# Texts that are fit for use
-/

def Resolves (environment : Variables) (s : String) : Prop :=
  ∃ value, expand environment s = .ok value

/-- The references in the text can be resolved, and then it is not blank. -/
def IsFit (environment : Variables) (s : String) : Prop :=
  ∃ value, expand environment s = .ok value ∧ isBlankText value = false

theorem texts_fit_iff {texts : List String} :
    (∃ values, texts.mapM (expand environment) = .ok values ∧
        values.any isBlankText = false) ↔ ∀ text ∈ texts, IsFit environment text := by
  induction texts with
  | nil =>
      constructor
      · intro _ text htext
        cases htext
      · intro _
        exact ⟨[], rfl, rfl⟩
  | cons text texts ih =>
      rw [List.forall_mem_cons, ← ih]
      simp only [List.mapM_cons, bind_eq_ok_iff]
      constructor
      · intro hexists
        rcases hexists with ⟨values, ⟨value, hvalue, others, hothers, h⟩, hblank⟩
        cases h
        rw [List.any_cons, Bool.or_eq_false_iff] at hblank
        exact ⟨⟨value, hvalue, hblank.left⟩, others, hothers, hblank.right⟩
      · intro hboth
        rcases hboth with ⟨⟨value, hvalue, hfirst⟩, others, hothers, hrest⟩
        refine ⟨value :: others, ⟨value, hvalue, others, hothers, rfl⟩, ?_⟩
        rw [List.any_cons, hfirst, hrest]
        rfl

/-!
# Configurations made ready for use
-/

namespace Config

def settle (environment : Variables) (config : Config) : Except ConfigError Config :=
  match config.expand environment with
  | .error error => .error (.expansion error)
  | .ok expanded =>
      match expanded.blank? with
      | some error => .error error
      | none => .ok expanded

theorem parse_of_read? {s : String} (h : read? s = some config) :
    parse environment s = config.settle environment := by
  unfold parse
  rw [h]
  rfl

theorem expand_eq_ok_iff {expanded : Config} :
    config.expand environment = .ok expanded ↔
      config.url.mapM (Rowsmith.expand environment) = .ok expanded.url ∧
        config.schemas.mapM (Rowsmith.expand environment) = .ok expanded.schemas ∧
        config.directory.mapM (Rowsmith.expand environment) = .ok expanded.directory ∧
        ∃ types, expandTypes environment config.types.entries = .ok types ∧
          expanded.types = .ofList types := by
  unfold expand
  simp only [bind_eq_ok_iff]
  constructor
  · intro hexists
    rcases hexists with ⟨url, hurl, schemas, hschemas, directory, hdirectory, types, htypes, h⟩
    cases h
    exact ⟨hurl, hschemas, hdirectory, types, htypes, rfl⟩
  · intro hboth
    rcases hboth with ⟨hurl, hschemas, hdirectory, types, htypes, hsame⟩
    refine ⟨_, hurl, _, hschemas, _, hdirectory, types, htypes, ?_⟩
    rw [← hsame]
    rfl

theorem settle_eq_ok_iff {settled : Config} :
    config.settle environment = .ok settled ↔
      config.expand environment = .ok settled ∧ settled.blank? = none := by
  unfold settle
  cases config.expand environment with
  | error error => simp
  | ok expanded =>
      dsimp only
      constructor
      · intro h
        split at h
        · cases h
        · next hblank =>
            cases h
            exact ⟨rfl, hblank⟩
      · intro hboth
        rcases hboth with ⟨h, hblank⟩
        cases h
        rw [hblank]

theorem blank?_eq_none_iff :
    config.blank? = none ↔
      config.url.any isBlankText = false ∧ config.schemas.any isBlankText = false ∧
        ∀ entry ∈ config.types.entries, isBlankText entry.2 = false := by
  unfold blank?
  cases config.url.any isBlankText with
  | true => simp
  | false =>
      cases config.schemas.any isBlankText with
      | true => simp
      | false => simp

theorem expand_eq_map {other : Config} {g k : Option String → Option String}
    {h : List String → List String}
    (hurl : config.url.mapM (Rowsmith.expand environment) =
      g <$> other.url.mapM (Rowsmith.expand environment))
    (hschemas : config.schemas.mapM (Rowsmith.expand environment) =
      h <$> other.schemas.mapM (Rowsmith.expand environment))
    (hdirectory : config.directory.mapM (Rowsmith.expand environment) =
      k <$> other.directory.mapM (Rowsmith.expand environment))
    (htypes : config.types = other.types) :
    config.expand environment =
      (fun expanded : Config =>
        ⟨g expanded.url, h expanded.schemas, k expanded.directory, expanded.types⟩) <$>
          other.expand environment := by
  unfold expand
  rw [hurl, hschemas, hdirectory, htypes]
  cases other.url.mapM (Rowsmith.expand environment) with
  | error error => rfl
  | ok url =>
      cases other.schemas.mapM (Rowsmith.expand environment) with
      | error error => rfl
      | ok schemas =>
          cases other.directory.mapM (Rowsmith.expand environment) with
          | error error => rfl
          | ok directory =>
              cases expandTypes environment other.types.entries with
              | error error => rfl
              | ok types => rfl

theorem settle_eq_map {other : Config} {f : Config → Config}
    (hexpand : config.expand environment = f <$> other.expand environment)
    (hblank : ∀ expanded, other.expand environment = .ok expanded →
      (f expanded).blank? = expanded.blank?) :
    config.settle environment = f <$> other.settle environment := by
  unfold settle
  rw [hexpand]
  cases hother : other.expand environment with
  | error error => rfl
  | ok expanded =>
      show (match (f expanded).blank? with
        | some error => Except.error error
        | none => Except.ok (f expanded)) = _
      rw [hblank expanded hother]
      dsimp only
      cases expanded.blank? with
      | some error => rfl
      | none => rfl

end Config

/-!
# Settings of a run
-/

variable {options : GenerateOptions} {path : String}

theorem Settings.resolve_eq_ok_iff {project : Project} {fallback : Option String}
    {settings : Settings} :
    Settings.resolve options project fallback = .ok settings ↔
      Settings.url? options project fallback = some settings.url ∧
        settings.directory = Settings.directoryOf options project ∧
        settings.schemas = Settings.schemasOf options project ∧ settings.table = options.table := by
  unfold Settings.resolve
  cases Settings.url? options project fallback with
  | none => simp
  | some url =>
      cases settings
      simp [eq_comm]

/-- The settings of a run with a configuration that is in the file at the path. -/
def GenerateOptions.settingsWith (options : GenerateOptions) (environment : Variables)
    (path : String) (config : Config) : Except SettingsError Settings :=
  match config.settle environment with
  | .error cause => .error (.invalid path cause)
  | .ok settled =>
      Settings.resolve options ⟨Project.folderOf path, settled⟩ (environment.find? "DATABASE_URL")

/-- The configuration without the settings that are given on the command line. -/
def Config.without (config : Config) (options : GenerateOptions) : Config :=
  { config with
    url := if options.url.isSome then none else config.url
    schemas := if options.schemas.isSome then [] else config.schemas
    directory := if options.directory.isSome then none else config.directory }

/-- What is overridden in the file is fit for use all the same. -/
structure Config.OverriddenFit (config : Config) (options : GenerateOptions)
    (environment : Variables) : Prop where
  url : options.url.isSome → ∀ url ∈ config.url, IsFit environment url
  schemas : options.schemas.isSome → ∀ schema ∈ config.schemas, IsFit environment schema
  directory : options.directory.isSome → ∀ directory ∈ config.directory,
    Resolves environment directory

/-- What a fit address comes to is a change of what comes of none, and one that blanks do not
see. -/
theorem exists_urlChange (hfit : config.OverriddenFit options environment) :
    ∃ g : Option String → Option String,
      config.url.mapM (expand environment) =
        g <$> (config.without options).url.mapM (expand environment) ∧
      (options.url = none → g = id) ∧
      ∀ url, (config.without options).url.mapM (expand environment) = .ok url →
        (g url).any isBlankText = url.any isBlankText := by
  unfold Config.without
  dsimp only
  cases hflag : options.url with
  | none => exact ⟨id, by simp, fun _ => rfl, fun _ _ => rfl⟩
  | some flag =>
      cases hurl : config.url with
      | none => exact ⟨id, by simp, fun _ => rfl, fun _ _ => rfl⟩
      | some url =>
          rcases hfit.url (by rw [hflag]; rfl) url hurl with ⟨value, hvalue, hblank⟩
          refine ⟨fun _ => some value, ?_, by simp, ?_⟩
          · rw [Option.mapM_some, hvalue]
            rfl
          · intro other hother
            cases hother
            simp [hblank]

theorem exists_schemasChange (hfit : config.OverriddenFit options environment) :
    ∃ h : List String → List String,
      config.schemas.mapM (expand environment) =
        h <$> (config.without options).schemas.mapM (expand environment) ∧
      (options.schemas = none → h = id) ∧
      ∀ schemas, (config.without options).schemas.mapM (expand environment) = .ok schemas →
        (h schemas).any isBlankText = schemas.any isBlankText := by
  unfold Config.without
  dsimp only
  cases hflag : options.schemas with
  | none => exact ⟨id, by simp, fun _ => rfl, fun _ _ => rfl⟩
  | some flag =>
      rcases texts_fit_iff.mpr (hfit.schemas (by rw [hflag]; rfl)) with ⟨values, hvalues, hblank⟩
      refine ⟨fun _ => values, ?_, by simp, ?_⟩
      · rw [hvalues]
        rfl
      · intro other hother
        cases hother
        rw [hblank]
        rfl

theorem exists_directoryChange (hfit : config.OverriddenFit options environment) :
    ∃ k : Option String → Option String,
      config.directory.mapM (expand environment) =
        k <$> (config.without options).directory.mapM (expand environment) ∧
      (options.directory = none → k = id) := by
  unfold Config.without
  dsimp only
  cases hflag : options.directory with
  | none => exact ⟨id, by simp, fun _ => rfl⟩
  | some flag =>
      cases hdirectory : config.directory with
      | none => exact ⟨id, by simp, fun _ => rfl⟩
      | some directory =>
          rcases hfit.directory (by rw [hflag]; rfl) directory hdirectory with ⟨value, hvalue⟩
          refine ⟨fun _ => some value, ?_, by simp⟩
          rw [Option.mapM_some, hvalue]
          rfl

theorem resolve_changed {g k : Option String → Option String} {h : List String → List String}
    (hurl : options.url = none → g = id) (hschemas : options.schemas = none → h = id)
    (hdirectory : options.directory = none → k = id) (folder : String) (settled : Config)
    (fallback : Option String) :
    Settings.resolve options
        ⟨folder, ⟨g settled.url, h settled.schemas, k settled.directory, settled.types⟩⟩ fallback =
      Settings.resolve options ⟨folder, settled⟩ fallback := by
  generalize hchanged : Config.mk (g settled.url) (h settled.schemas) (k settled.directory)
    settled.types = changed
  -- A setting is either changed and overridden, or not overridden and unchanged.
  have hsameUrl : Settings.url? options ⟨folder, changed⟩ fallback =
      Settings.url? options ⟨folder, settled⟩ fallback := by
    unfold Settings.url?
    cases hflag : options.url with
    | none =>
        rw [← hchanged, hurl hflag]
        rfl
    | some flag => rfl
  have hsameSchemas : Settings.schemasOf options ⟨folder, changed⟩ =
      Settings.schemasOf options ⟨folder, settled⟩ := by
    unfold Settings.schemasOf
    cases hflag : options.schemas with
    | none =>
        rw [← hchanged, hschemas hflag]
        rfl
    | some flag => rfl
  have hsameDirectory : Settings.directoryOf options ⟨folder, changed⟩ =
      Settings.directoryOf options ⟨folder, settled⟩ := by
    unfold Settings.directoryOf
    cases hflag : options.directory with
    | none =>
        rw [← hchanged, hdirectory hflag]
        rfl
    | some flag => rfl
  unfold Settings.resolve
  rw [hsameUrl, hsameSchemas, hsameDirectory]

theorem settingsWith_without (hfit : config.OverriddenFit options environment) :
    options.settingsWith environment path config =
      options.settingsWith environment path (config.without options) := by
  -- What is overridden and fit changes a part of the settled configuration that is not looked at.
  rcases exists_urlChange hfit with ⟨g, hurl, hurlId, hurlBlank⟩
  rcases exists_schemasChange hfit with ⟨h, hschemas, hschemasId, hschemasBlank⟩
  rcases exists_directoryChange hfit with ⟨k, hdirectory, hdirectoryId⟩
  have hexpand := Config.expand_eq_map hurl hschemas hdirectory rfl
  have hsettle := Config.settle_eq_map hexpand (by
    intro expanded hexpanded
    rcases Config.expand_eq_ok_iff.mp hexpanded with ⟨hu, hs, _, _⟩
    unfold Config.blank?
    rw [hurlBlank _ hu, hschemasBlank _ hs])
  unfold GenerateOptions.settingsWith
  rw [hsettle]
  cases (config.without options).settle environment with
  | error cause => rfl
  | ok settled => exact resolve_changed hurlId hschemasId hdirectoryId _ settled _

theorem overriddenFit_of_settingsWith {settings : Settings}
    (h : options.settingsWith environment path config = .ok settings) :
    config.OverriddenFit options environment := by
  unfold GenerateOptions.settingsWith at h
  split at h
  · cases h
  · next settled hsettle =>
      rcases Config.settle_eq_ok_iff.mp hsettle with ⟨hexpand, hblank⟩
      rcases Config.expand_eq_ok_iff.mp hexpand with ⟨hurl, hschemas, hdirectory, _⟩
      rcases Config.blank?_eq_none_iff.mp hblank with ⟨hurlBlank, hschemasBlank, _⟩
      constructor
      · intro _ url hmem
        rw [Option.mem_def.mp hmem, Option.mapM_some] at hurl
        rcases map_eq_ok_iff.mp hurl with ⟨value, hvalue, hsettled⟩
        rw [← hsettled] at hurlBlank
        exact ⟨value, hvalue, by simpa using hurlBlank⟩
      · intro _
        exact texts_fit_iff.mp ⟨_, hschemas, hschemasBlank⟩
      · intro _ directory hmem
        rw [Option.mem_def.mp hmem, Option.mapM_some] at hdirectory
        rcases map_eq_ok_iff.mp hdirectory with ⟨value, hvalue, _⟩
        exact ⟨value, hvalue⟩

/-- Two configurations that differ in overridden settings only. Fit ones lead to the same outcome,
and once one leads to settings, the other does exactly if it is fit. -/
theorem settingsWith_iff_overriddenFit {other : Config}
    (hsame : config.without options = other.without options) :
    (config.OverriddenFit options environment → other.OverriddenFit options environment →
        options.settingsWith environment path config =
          options.settingsWith environment path other) ∧
      ∀ settings, options.settingsWith environment path config = .ok settings →
        (options.settingsWith environment path other = .ok settings ↔
          other.OverriddenFit options environment) := by
  have hlaw : config.OverriddenFit options environment →
      other.OverriddenFit options environment →
        options.settingsWith environment path config =
          options.settingsWith environment path other := by
    intro hfit hother
    rw [settingsWith_without hfit, hsame, ← settingsWith_without hother]
  refine ⟨hlaw, ?_⟩
  intro settings hsettings
  constructor
  · exact overriddenFit_of_settingsWith
  · intro hother
    rw [← hlaw (overriddenFit_of_settingsWith hsettings) hother]
    exact hsettings

end Rowsmith
