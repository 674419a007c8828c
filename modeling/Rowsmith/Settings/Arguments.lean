import Rowsmith.Text.Basic

/-!
# Command line arguments

The first argument chooses between writing a configuration template and generating. An option
that has a value takes the next argument, whatever it looks like, or stands in one argument with
its value, after an equals sign. The last value of an option counts; help ends the reading.
-/

namespace Rowsmith

open Text

inductive HelpTopic where
  | root
  | init
  deriving DecidableEq, Repr

structure GenerateOptions where
  config : Option String := none
  url : Option String := none
  directory : Option String := none
  table : Option String := none
  schemas : Option (List String) := none
  dryRun : Bool := false
  check : Bool := false
  deriving DecidableEq, Repr

inductive Command where
  | help (topic : HelpTopic)
  | init (config : String)
  | generate (options : GenerateOptions)
  deriving DecidableEq, Repr

inductive ArgumentError where
  | missingValue (option : String)
  | unknown (argument : String)
  | emptySchema
  | emptyTable
  | conflict
  deriving DecidableEq, Repr

def ArgumentError.message : ArgumentError → String
  | .missingValue option => option ++ " requires a value"
  | .unknown argument => "unknown argument: " ++ argument
  | .emptySchema => "--schema must not be empty"
  | .emptyTable => "--table must not be empty"
  | .conflict => "--dry-run and --check cannot be combined"

/-- The configuration file that is read when none is named. -/
def defaultConfig : String := "pggo.toml"

/-!
# Arguments
-/

inductive ValueOption where
  | config
  | url
  | directory
  | table
  | schema
  deriving DecidableEq, Repr

def ValueOption.longName : ValueOption → String
  | .config => "--config"
  | .url => "--url"
  | .directory => "--dir"
  | .table => "--table"
  | .schema => "--schema"

def ValueOption.names : ValueOption → List String
  | .config => ["-c", "--config"]
  | .url => ["-u", "--url"]
  | .directory => ["-d", "--dir"]
  | .table => ["-t", "--table"]
  | .schema => ["--schema"]

inductive Argument where
  | help
  | dryRun
  | check
  | named (option : ValueOption)
  | assigned (option : ValueOption) (value : String)
  | other
  deriving DecidableEq, Repr

/-- What is left of the text after the mark and its repetitions at the front, if it is there. The
first argument bounds the repetitions. -/
def afterMark? (mark : List Char) : Nat → List Char → Option (List Char)
  | 0, _ => none
  | bound + 1, cs =>
      if mark.isPrefixOf cs then
        let rest := cs.drop mark.length
        some ((afterMark? mark bound rest).getD rest)
      else
        none

/-- The value that stands in one argument with its option. The option with its equals sign may be
repeated before the value. -/
def ValueOption.assigned? (option : ValueOption) (argument : String) : Option String :=
  (afterMark? (option.longName.toList ++ ['=']) argument.length argument.toList).map String.ofList

def generateOptions : List ValueOption := [.config, .url, .directory, .table, .schema]

def initOptions : List ValueOption := [.config]

def Argument.ofText (options : List ValueOption) (argument : String) : Argument :=
  if argument = "-h" ∨ argument = "--help" then .help
  else if argument = "--dry-run" then .dryRun
  else if argument = "--check" then .check
  else
    match options.find? fun option => option.names.contains argument with
    | some option => .named option
    | none =>
        (options.findSome? fun option =>
          (option.assigned? argument).map (.assigned option)).getD .other

/-!
# Lists of schemas
-/

/-- Pieces are trimmed, and blank ones dropped. -/
def schemaNames (s : String) : List String :=
  (((pieces ',' s.toList).map trim).filter (!·.isEmpty)).map String.ofList

/-!
# Reading
-/

def GenerateOptions.set (options : GenerateOptions) (option : ValueOption) (value : String) :
    Except ArgumentError GenerateOptions :=
  match option with
  | .config => .ok { options with config := some value }
  | .url => .ok { options with url := some value }
  | .directory => .ok { options with directory := some value }
  | .table => .ok { options with table := some value }
  | .schema =>
      let names := schemaNames value
      if names.isEmpty then .error .emptySchema else .ok { options with schemas := some names }

/-- The checks that wait for the last argument. -/
def GenerateOptions.finish (options : GenerateOptions) : Except ArgumentError Command :=
  if options.dryRun && options.check then .error .conflict
  else if options.table.any isBlankText then .error .emptyTable
  else .ok (.generate options)

def readGenerate (options : GenerateOptions) : List String → Except ArgumentError Command
  | [] => options.finish
  | argument :: rest =>
      match Argument.ofText generateOptions argument with
      | .help => .ok (.help .root)
      | .dryRun => readGenerate { options with dryRun := true } rest
      | .check => readGenerate { options with check := true } rest
      | .assigned option value =>
          match options.set option value with
          | .ok options => readGenerate options rest
          | .error error => .error error
      | .named option =>
          match rest with
          | [] => .error (.missingValue argument)
          | value :: rest =>
              match options.set option value with
              | .ok options => readGenerate options rest
              | .error error => .error error
      | .other => .error (.unknown argument)

def readInit (config : String) : List String → Except ArgumentError Command
  | [] => .ok (.init config)
  | argument :: rest =>
      match Argument.ofText initOptions argument with
      | .help => .ok (.help .init)
      | .assigned _ value => readInit value rest
      | .named _ =>
          match rest with
          | [] => .error (.missingValue argument)
          | value :: rest => readInit value rest
      | _ => .error (.unknown argument)

/-- The arguments after the name of the program. -/
def parseArguments : List String → Except ArgumentError Command
  | "init" :: rest => readInit defaultConfig rest
  | arguments => readGenerate {} arguments

/-!
# Help
-/

def HelpTopic.text : HelpTopic → String
  | .root =>
      lines
        ["pggo - generate pggo models and table descriptions from a PostgreSQL schema",
          "",
          "USAGE:",
          "  pggo [OPTIONS]",
          "  pggo init [--config <FILE>]",
          "",
          "OPTIONS:",
          "  -u, --url <URL>         Database connection string (or [database].url, or DATABASE_URL)",
          "  -d, --dir <DIR>         Output directory (default: .)",
          "  -t, --table <TABLE>     Generate a single table instead of the whole schema",
          "      --schema <LIST>     Comma-separated schemas to read (default: public)",
          "  -c, --config <FILE>     Config file path (default: pggo.toml, optional)",
          "      --dry-run           Print files that would change",
          "      --check             Exit non-zero if output would change",
          "  -h, --help              Print help",
          "",
          "Run `pggo init --help` for the config template."]
  | .init =>
      lines
        ["USAGE:",
          "  pggo init [OPTIONS]",
          "",
          "Writes a template config file. Refuses to overwrite an existing file.",
          "",
          "OPTIONS:",
          "  -c, --config <FILE>     Config file path (default: pggo.toml)",
          "  -h, --help              Print help"]

end Rowsmith
