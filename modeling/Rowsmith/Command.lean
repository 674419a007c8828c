import Rowsmith.Catalog.Loading
import Rowsmith.Files.Writer
import Rowsmith.Settings.Project

/-!
# The command

One run of the program as a function: from the arguments and the surroundings to the result, the
printed text, the files afterwards and the queries that were sent.
-/

namespace Rowsmith

open Text

structure Surroundings where
  environment : Variables
  /-- The replies of the server behind an address, if one can be connected to. -/
  server : String → Option CatalogReplies
  files : FileSystem

inductive CommandError where
  | arguments (error : ArgumentError)
  | settings (error : SettingsError)
  | connection
  | load (error : LoadError)
  | render (error : RenderError)
  | write (error : WriteError)
  | configExists (path : String)
  deriving DecidableEq, Repr

def CommandError.message : CommandError → String
  | .arguments error => error.message
  | .settings error => error.message
  | .connection => "failed to connect to database: "
  | .load error => error.message
  | .render error => error.message
  | .write error => error.message
  | .configExists path => "refusing to overwrite existing file: " ++ path

structure Outcome where
  result : Except CommandError Unit
  output : String
  files : FileSystem
  deliveries : List Delivery

/-!
# Configuration templates
-/

def configTemplate : String :=
  lines
    ["[database]",
      "# Overridden by --url; falls back to DATABASE_URL when unset.",
      "url = \"$\x7bDATABASE_URL\x7d\"",
      "schemas = [\"public\"]",
      "",
      "[output]",
      "dir = \"src/db\"",
      "",
      "[types]",
      "# \"uuid\" = \"uuid::Uuid\"",
      "# \"timestamptz\" = \"chrono::DateTime<chrono::Utc>\"",
      "# \"jsonb\" = \"serde_json::Value\""]

def makeConfigFolder (path : String) : WritingFiles Unit :=
  match Path.parent? path with
  | some folder =>
      if folder.isEmpty then pure () else onDisk (.folder folder) (Disk.makeFolders folder)
  | none => pure ()

def writeTemplate (path : String) : WritingFiles Unit := do
  makeConfigFolder path
  onDisk (.file path) (Disk.writeText path configTemplate)

def runInit (path : String) (files : FileSystem) : Outcome :=
  if files.exists? path then
    ⟨.error (.configExists path), "", files, []⟩
  else
    match (writeTemplate path).run files with
    | .ok _ files => ⟨.ok (), line ("wrote " ++ path), files, []⟩
    | .error error files => ⟨.error (.write error), "", files, []⟩

/-!
# Generating
-/

structure Job where
  project : Project
  settings : Settings

def GenerateOptions.job (options : GenerateOptions) (surroundings : Surroundings) :
    Except SettingsError Job := do
  let project ← options.project surroundings.environment surroundings.files
  let settings ←
    Settings.resolve options project (surroundings.environment.find? "DATABASE_URL")
  return ⟨project, settings⟩

/-- The catalog is loaded and everything rendered before the first file is looked at. -/
def runGenerate (options : GenerateOptions) (surroundings : Surroundings) : Outcome :=
  let files := surroundings.files
  match options.job surroundings with
  | .error error => ⟨.error (.settings error), "", files, []⟩
  | .ok ⟨project, settings⟩ =>
      match surroundings.server settings.url with
      | none => ⟨.error .connection, "", files, []⟩
      | some replies =>
          let loaded := loadCatalog settings.schemas replies
          match loaded.result with
          | .error error => ⟨.error (.load error), "", files, loaded.deliveries⟩
          | .ok catalog =>
              match render (.ofConfigured project.config.types) catalog settings.table with
              | .error error => ⟨.error (.render error), "", files, loaded.deliveries⟩
              | .ok generated =>
                  let mode := WriteMode.ofFlags options.dryRun options.check
                  let report := writeFiles mode settings.directory generated files
                  ⟨report.result.map (fun _ => ()) |>.mapError .write, report.output, report.files,
                    loaded.deliveries⟩

/-!
# Running
-/

def run (arguments : List String) (surroundings : Surroundings) : Outcome :=
  match parseArguments arguments with
  | .error error => ⟨.error (.arguments error), "", surroundings.files, []⟩
  | .ok (.help topic) => ⟨.ok (), topic.text, surroundings.files, []⟩
  | .ok (.init path) => runInit path surroundings.files
  | .ok (.generate options) => runGenerate options surroundings

end Rowsmith
