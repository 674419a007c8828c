import Rowsmith.Command
import Rowsmith.Proofs.Files.Replacement
import Rowsmith.Proofs.Text.Basic
import Rowsmith.Proofs.Settings.Override

/-!
# Configuration files of a run

The settings of a run come from the file that it reads. The template that a new file is made from
refers to a variable, so a run with that file gets nowhere without the variable, even if the address
of the database is given on the command line.
-/

namespace Rowsmith

open Text FileSystem

variable {environment : Variables} {server : String → Option CatalogReplies}
  {options : GenerateOptions} {files : FileSystem} {config : Config}

/-!
# Files that are read
-/

def GenerateOptions.configPath (options : GenerateOptions) : String :=
  options.config.getD defaultConfig

def GenerateOptions.settings (options : GenerateOptions) (surroundings : Surroundings) :
    Except SettingsError Settings :=
  Job.settings <$> options.job surroundings

def Configures (files : FileSystem) (options : GenerateOptions) (config : Config) : Prop :=
  ∃ s, files.readText options.configPath = .ok s ∧ Config.read? s = some config

theorem exists?_of_readText {path s : String} (h : files.readText path = .ok s) :
    files.exists? path = true := by
  unfold FileSystem.readText at h
  unfold FileSystem.exists?
  split at h
  · cases h
  · cases h
  · cases h
  · next hnode =>
      rw [hnode]
      rfl

theorem load_of_readText {path s : String} (hread : files.readText path = .ok s)
    (hconfig : Config.read? s = some config) (required : Bool) :
    Project.load environment files path required =
      match config.settle environment with
      | .error cause => .error (.invalid path cause)
      | .ok settled => .ok ⟨Project.folderOf path, settled⟩ := by
  have hparse : Config.parse environment s = _ := Config.parse_of_read? hconfig
  unfold Project.load
  rw [if_pos (exists?_of_readText hread), hread]
  cases hsettled : config.settle environment with
  | error cause => simp only [hparse, hsettled]
  | ok settled => simp only [hparse, hsettled]

theorem settings_of_configures (h : Configures files options config) :
    options.settings ⟨environment, server, files⟩ =
      options.settingsWith environment options.configPath config := by
  rcases h with ⟨s, hread, hconfig⟩
  have hproject : options.project environment files =
      match config.settle environment with
      | .error cause => .error (.invalid options.configPath cause)
      | .ok settled => .ok ⟨Project.folderOf options.configPath, settled⟩ := by
    unfold GenerateOptions.project
    cases hpath : options.config with
    | none =>
        have hdefault : options.configPath = defaultConfig := by
          rw [GenerateOptions.configPath, hpath]
          rfl
        rw [hdefault] at hread ⊢
        exact load_of_readText hread hconfig false
    | some path =>
        have hnamed : options.configPath = path := by
          rw [GenerateOptions.configPath, hpath]
          rfl
        rw [hnamed] at hread ⊢
        exact load_of_readText hread hconfig true
  unfold GenerateOptions.settings GenerateOptions.job GenerateOptions.settingsWith
  dsimp only
  rw [hproject]
  cases config.settle environment with
  | error cause => rfl
  | ok settled =>
      dsimp only
      show Job.settings <$> (Settings.resolve options ⟨_, settled⟩ _ >>= _) = _
      cases Settings.resolve options ⟨Project.folderOf options.configPath, settled⟩
        (environment.find? "DATABASE_URL") with
      | error error => rfl
      | ok settings => rfl

/-!
# The template
-/

def templateConfig : Config :=
  ⟨some "$\x7bDATABASE_URL\x7d", ["public"], some "src/db", .empty⟩

theorem read?_configTemplate : Config.read? configTemplate = some templateConfig := by
  -- A literal is the text of its characters; the kernel is slow to find them by decoding it.
  unfold Config.read? Toml.readDocument configTemplate
  rw [toList_lines]
  simp only [List.flatMap_cons, List.flatMap_nil, toList_line]
  repeat rw [String.toList_ofList]
  decide +kernel

theorem readText_runInit {path : String} (h : (runInit path files).result = .ok ()) :
    (runInit path files).files.readText path = .ok configTemplate := by
  unfold runInit at h ⊢
  split at h
  · cases h
  · next hnew =>
      rw [if_neg hnew]
      split at h
      · next after hrun =>
          unfold writeTemplate at hrun
          rw [EStateM.run_bind] at hrun
          split at hrun
          · next middle _ =>
              rw [run_onDisk] at hrun
              split at hrun
              · next hwritten =>
                  cases hrun
                  exact Disk.readText_writeText hwritten
              · cases hrun
          · cases hrun
      · cases h

theorem configures_runInit (h : (runInit options.configPath files).result = .ok ()) :
    Configures (runInit options.configPath files).files options templateConfig :=
  ⟨configTemplate, readText_runInit h, read?_configTemplate⟩

theorem expand_templateUrl (environment : Variables) :
    expand environment "$\x7bDATABASE_URL\x7d" =
      match environment.find? "DATABASE_URL" with
      | some value => .ok value
      | none => .error (.missing "DATABASE_URL") := by
  have hreference : expandFrom environment none "$\x7bDATABASE_URL\x7d".toList =
      expandFrom environment (some "DATABASE_URL".toList.reverse) ['\x7d'] := rfl
  unfold expand
  rw [hreference, expandFrom, if_pos rfl, List.reverse_reverse, Variables.reference,
    if_neg (by decide), String.ofList_toList]
  cases environment.find? "DATABASE_URL" with
  | none => rfl
  | some value =>
      show Except.ok (String.ofList (value.toList ++ [])) = _
      rw [List.append_nil, String.ofList_toList]

theorem isFit_templateUrl :
    IsFit environment "$\x7bDATABASE_URL\x7d" ↔
      ∃ value, environment.find? "DATABASE_URL" = some value ∧ isBlankText value = false := by
  unfold IsFit
  rw [expand_templateUrl]
  cases environment.find? "DATABASE_URL" with
  | none => simp
  | some value => simp

theorem overriddenFit_templateConfig (hurl : options.url.isSome) :
    templateConfig.OverriddenFit options environment ↔
      ∃ value, environment.find? "DATABASE_URL" = some value ∧ isBlankText value = false := by
  rw [← isFit_templateUrl]
  constructor
  · intro hfit
    exact hfit.url hurl _ rfl
  · intro hfit
    constructor
    · intro _ url hmem
      cases hmem
      exact hfit
    · intro _ schema hmem
      rw [List.mem_singleton.mp hmem]
      exact ⟨"public", rfl, by decide⟩
    · intro _ directory hmem
      cases hmem
      exact ⟨"src/db", rfl⟩

theorem settingsWith_templateConfig {url path : String} (hurl : options.url = some url)
    (hblank : isBlankText url = false) (hfit : templateConfig.OverriddenFit options environment) :
    ∃ settings, options.settingsWith environment path templateConfig = .ok settings ∧
      settings.url = url := by
  rw [settingsWith_without hfit]
  have hsettle : (templateConfig.without options).settle environment =
      .ok (templateConfig.without options) := by
    unfold Config.without templateConfig
    dsimp only
    rw [hurl]
    cases options.schemas <;> cases options.directory <;> rfl
  have hresolved (project : Project) (fallback : Option String) :
      Settings.url? options project fallback = some url := by
    unfold Settings.url?
    rw [hurl]
    simp [hblank]
  unfold GenerateOptions.settingsWith
  rw [hsettle]
  dsimp only
  unfold Settings.resolve
  rw [hresolved]
  exact ⟨_, rfl, rfl⟩

/-- Two files that differ in overridden settings only give the same settings, or the same failure,
if those are fit, and settings only if they are. For a new file this means that an address on the
command line is of use exactly if the variable holds one too. -/
theorem overridden_settings_must_be_fit (environment : Variables)
    (server : String → Option CatalogReplies) :
    (∀ options files files' config other, Configures files options config →
        Configures files' options other → config.without options = other.without options →
        (config.OverriddenFit options environment → other.OverriddenFit options environment →
          options.settings ⟨environment, server, files⟩ =
            options.settings ⟨environment, server, files'⟩) ∧
        ∀ settings, options.settings ⟨environment, server, files⟩ = .ok settings →
          (options.settings ⟨environment, server, files'⟩ = .ok settings ↔
            other.OverriddenFit options environment)) ∧
      ∀ options files url, (runInit (GenerateOptions.configPath options) files).result = .ok () →
        options.url = some url → isBlankText url = false →
        ((∃ settings, options.settings
              ⟨environment, server, (runInit options.configPath files).files⟩ = .ok settings ∧
            settings.url = url) ↔
          ∃ value, environment.find? "DATABASE_URL" = some value ∧ isBlankText value = false) := by
  constructor
  · intro options files files' config other hconfig hother hsame
    rw [settings_of_configures hconfig, settings_of_configures hother]
    exact settingsWith_iff_overriddenFit hsame
  · intro options files url hinit hurl hblank
    rw [settings_of_configures (configures_runInit hinit),
      ← overriddenFit_templateConfig (by rw [hurl]; rfl)]
    constructor
    · intro hexists
      rcases hexists with ⟨settings, hsettings, _⟩
      exact overriddenFit_of_settingsWith hsettings
    · intro hfit
      exact settingsWith_templateConfig hurl hblank hfit

/-!
# An address on the command line
-/

def givenUrl : GenerateOptions :=
  { url := some "postgres://given/app" }

def configured (s : String) : FileSystem :=
  ⟨[(["pggo.toml"], .file (.text s))], []⟩

theorem overriddenFit_givenUrl {url : String} (h : IsFit environment url) :
    Config.OverriddenFit ⟨some url, [], none, .empty⟩ givenUrl environment := by
  constructor
  · intro _ other hmem
    cases hmem
    exact h
  · intro hflag
    cases hflag
  · intro hflag
    cases hflag

/-- An address in the file makes no difference while it is fit, and with the variable set a new file
is as good as any. -/
theorem given_url_counts :
    givenUrl.settings ⟨.ofList [("DATABASE_URL", "postgres://set/app")], fun _ => none,
        configured "[database]\nurl = \"postgres://file/app\"\n"⟩ =
      givenUrl.settings ⟨.ofList [("DATABASE_URL", "postgres://set/app")], fun _ => none,
        configured "[database]\nurl = \"$\x7bDATABASE_URL\x7d\"\n"⟩ ∧
    ∃ settings, givenUrl.settings ⟨.ofList [("DATABASE_URL", "postgres://set/app")],
        fun _ => none, (runInit "pggo.toml" ⟨[], []⟩).files⟩ = .ok settings ∧
      settings.url = "postgres://given/app" := by
  have hlaw := overridden_settings_must_be_fit (.ofList [("DATABASE_URL", "postgres://set/app")])
    fun _ => none
  have hplain : Configures (configured "[database]\nurl = \"postgres://file/app\"\n") givenUrl
      ⟨some "postgres://file/app", [], none, .empty⟩ := ⟨_, rfl, by decide +kernel⟩
  have hreference : Configures (configured "[database]\nurl = \"$\x7bDATABASE_URL\x7d\"\n")
      givenUrl ⟨some "$\x7bDATABASE_URL\x7d", [], none, .empty⟩ := ⟨_, rfl, by decide +kernel⟩
  have hset : ∃ value, (NameMap.ofList [("DATABASE_URL", "postgres://set/app")]).find?
      "DATABASE_URL" = some value ∧ isBlankText value = false :=
    ⟨"postgres://set/app", rfl, by decide⟩
  constructor
  · exact (hlaw.left _ _ _ _ _ hplain hreference rfl).left
      (overriddenFit_givenUrl ⟨"postgres://file/app", rfl, by decide⟩)
      (overriddenFit_givenUrl (isFit_templateUrl.mpr hset))
  · exact (hlaw.right givenUrl ⟨[], []⟩ _ (by decide +kernel) rfl (by decide)).mpr hset

/-- Without the variable a new file keeps a run from getting anywhere, and so does one that differs
from a usable file in its address only. -/
theorem given_url_may_not_count :
    (runInit "pggo.toml" ⟨[], []⟩).result = .ok () ∧
    givenUrl.settings ⟨.empty, fun _ => none, (runInit "pggo.toml" ⟨[], []⟩).files⟩ =
      .error (.invalid "pggo.toml" (.expansion (.missing "DATABASE_URL"))) ∧
    givenUrl.settings ⟨.empty, fun _ => none,
        configured "[database]\nurl = \"$\x7bDATABASE_URL\x7d\"\n"⟩ =
      .error (.invalid "pggo.toml" (.expansion (.missing "DATABASE_URL"))) ∧
    givenUrl.settings ⟨.empty, fun _ => none, configured "[database]\n"⟩ =
      .ok ⟨"postgres://given/app", ".", ["public"], none⟩ := by
  have hinit : (runInit "pggo.toml" ⟨[], []⟩).result = .ok () := by decide +kernel
  have htemplate : Configures (runInit givenUrl.configPath ⟨[], []⟩).files givenUrl templateConfig :=
    configures_runInit hinit
  have hreference : Configures (configured "[database]\nurl = \"$\x7bDATABASE_URL\x7d\"\n")
      givenUrl ⟨some "$\x7bDATABASE_URL\x7d", [], none, .empty⟩ := ⟨_, rfl, by decide +kernel⟩
  have hempty : Configures (configured "[database]\n") givenUrl ⟨none, [], none, .empty⟩ :=
    ⟨_, rfl, by decide +kernel⟩
  refine ⟨hinit, ?_, ?_, ?_⟩
  · exact (settings_of_configures htemplate).trans rfl
  · exact (settings_of_configures hreference).trans rfl
  · exact (settings_of_configures hempty).trans rfl

end Rowsmith
