import Rowsmith.Files.FileSystem
import Rowsmith.Settings.Arguments
import Rowsmith.Settings.Config

/-!
# Settings of a run

What a run works with comes from the command line, the configuration file and the environment, in
this order. A path in the file is meant from the folder of the file; one on the command line is
taken as it is.
-/

namespace Rowsmith

open Text

inductive SettingsError where
  | noConfig (path : String)
  | unreadable (path : String) (cause : FileError)
  | invalid (path : String) (cause : ConfigError)
  | noUrl
  deriving DecidableEq, Repr

def SettingsError.message : SettingsError → String
  | .noConfig path => "config file not found: " ++ path
  | .unreadable path cause => "failed to read config file " ++ path ++ ": " ++ cause.message
  | .invalid path cause => "failed to parse config file " ++ path ++ ": " ++ cause.message
  | .noUrl =>
      "missing database url: pass --url, set [database].url in the config file, or set DATABASE_URL"

/-- A configuration and the folder it belongs to. -/
structure Project where
  folder : String
  config : Config
  deriving DecidableEq

namespace Project

def folderOf (path : String) : String :=
  match Path.parent? path with
  | some folder => if folder.isEmpty then "." else folder
  | none => "."

/-- Only a required file must be there. -/
def load (environment : Variables) (files : FileSystem) (path : String) (required : Bool) :
    Except SettingsError Project :=
  if files.exists? path then
    match files.readText path with
    | .error cause => .error (.unreadable path cause)
    | .ok text =>
        match Config.parse environment text with
        | .error cause => .error (.invalid path cause)
        | .ok config => .ok ⟨folderOf path, config⟩
  else if required then
    .error (.noConfig path)
  else
    .ok ⟨folderOf path, {}⟩

def resolvePath (project : Project) (path : String) : String :=
  if Path.isAbsolute path then path else Path.join project.folder path

end Project

/-- The file named on the command line must be there; the default one need not. -/
def GenerateOptions.project (options : GenerateOptions) (environment : Variables)
    (files : FileSystem) : Except SettingsError Project :=
  match options.config with
  | some path => Project.load environment files path true
  | none => Project.load environment files defaultConfig false

structure Settings where
  url : String
  directory : String
  schemas : List String
  table : Option String
  deriving DecidableEq, Repr

namespace Settings

def defaultSchemas : List String := ["public"]

/-- The first address that is given counts, even if it is blank; then there is none. -/
def url? (options : GenerateOptions) (project : Project) (environmentUrl : Option String) :
    Option String :=
  (options.url.or (project.config.url.or environmentUrl)).filter (!isBlankText ·)

def directoryOf (options : GenerateOptions) (project : Project) : String :=
  match options.directory, project.config.directory with
  | some directory, _ => directory
  | none, some directory => project.resolvePath directory
  | none, none => "."

def schemasOf (options : GenerateOptions) (project : Project) : List String :=
  match options.schemas with
  | some schemas => schemas
  | none =>
      if project.config.schemas.isEmpty then defaultSchemas else project.config.schemas

def resolve (options : GenerateOptions) (project : Project) (environmentUrl : Option String) :
    Except SettingsError Settings :=
  match url? options project environmentUrl with
  | none => .error .noUrl
  | some url =>
      .ok ⟨url, directoryOf options project, schemasOf options project, options.table⟩

end Settings

end Rowsmith
