import Rowsmith.NameMap
import Rowsmith.Text.Basic
import Rowsmith.Toml.Document

/-!
# The environment and the configuration file

A configuration file may refer to variables of the environment. It is read in three steps: the text
as a document, the references in it, and the checks of what came out.
-/

namespace Rowsmith

open Text Toml

/-!
# References to variables

A text of the configuration may refer to a variable of the environment: a dollar sign and an
opening brace, the variable's name, and the first closing brace after that. The value is put in
as it is, whatever it looks like. The leftmost reference that cannot be resolved is reported.
-/

abbrev Variables := NameMap String

inductive ExpansionError where
  | unterminated (name : String)
  | unnamed
  | missing (name : String)
  deriving DecidableEq, Repr

def ExpansionError.message : ExpansionError → String
  | .unterminated name => "unterminated env var reference: $\x7b" ++ name
  | .unnamed => "invalid env var reference: $\x7b\x7d"
  | .missing name => "missing env var for config expansion: " ++ name

/-- The value of a reference with the given name. -/
def Variables.reference (environment : Variables) (name : List Char) :
    Except ExpansionError (List Char) :=
  if name.isEmpty then .error .unnamed
  else
    match environment.find? (String.ofList name) with
    | some value => .ok value.toList
    | none => .error (.missing (String.ofList name))

/-- The first argument is the name being read, last character first, inside a reference. -/
def expandFrom (environment : Variables) :
    Option (List Char) → List Char → Except ExpansionError (List Char)
  | none, [] => .ok []
  | none, '$' :: '\x7b' :: rest => expandFrom environment (some []) rest
  | none, c :: rest => (c :: ·) <$> expandFrom environment none rest
  | some name, [] => .error (.unterminated (String.ofList name.reverse))
  | some name, c :: rest =>
      if c = '\x7d' then
        match environment.reference name.reverse with
        | .ok value => (value ++ ·) <$> expandFrom environment none rest
        | .error error => .error error
      else
        expandFrom environment (some (c :: name)) rest

def expand (environment : Variables) (s : String) : Except ExpansionError String :=
  String.ofList <$> expandFrom environment none s.toList

/-!
# The environment

A process gets its variables as one block of octets: a zero octet ends every variable, and the
first equals sign ends its name. What is found under a name is the first variable of that name. If
its value is no text, nothing is found, whatever the later ones are.
-/

def variableOf? (octets : Bytes) : Option (String × Option String) :=
  let equalsSign : UInt8 := 0x3D
  match octets.dropWhile (· != equalsSign) with
  | _ :: value =>
      (utf8Decode (octets.takeWhile (· != equalsSign))).toOption.map fun name =>
        (name, (utf8Decode value).toOption)
  | [] => none

def listedVariables (octets : Bytes) : List (String × Option String) :=
  (octets.splitOn 0).filterMap variableOf?

def Variables.ofOctets (octets : Bytes) : Variables :=
  let listed := listedVariables octets
  NameMap.ofList (listed.filterMap fun entry =>
    (listed.lookup entry.1).join.map fun value => (entry.1, value))

/-!
# Configuration files

Three sections, all of them optional: the database with its address and schemas, the output
directory, and overrides of field types. Anything else in the file is an error. References to
variables are resolved in every text but the keys, and then nothing that names something may be
blank.
-/

structure Config where
  url : Option String := none
  schemas : List String := []
  directory : Option String := none
  /-- Field types by the names of database types, as they are spelled in the file. -/
  types : NameMap String := .empty
  deriving DecidableEq

inductive ConfigError where
  /-- Not a TOML document, or not one of this shape. -/
  | malformed
  | expansion (error : ExpansionError)
  | blankUrl
  | blankSchema
  | blankType (name : String)
  deriving DecidableEq, Repr

def ConfigError.message : ConfigError → String
  | .malformed => "TOML"
  | .expansion error => error.message
  | .blankUrl => "database.url must not be empty"
  | .blankSchema => "database.schemas must not contain empty names"
  | .blankType name => "types.\"" ++ name ++ "\" must not be empty"

namespace Config

/-!
## Shape

A section is a table, or a list with the values of its settings in a fixed order; what else stands
in the list does not matter. A moment in the place of a table passes for a table with its text
under a key of its own.
-/

def text? : Item → Option String
  | .text s => some s
  | _ => none

def texts? : Item → Option (List String)
  | .list items => items.mapM text?
  | _ => none

def readDatabase (config : Config) : Entries → Option Config
  | [] => some config
  | ("url", item) :: rest => do
      let url ← text? item
      readDatabase { config with url := some url } rest
  | ("schemas", item) :: rest => do
      let schemas ← texts? item
      readDatabase { config with schemas := schemas } rest
  | _ => none

def readOutput (config : Config) : Entries → Option Config
  | [] => some config
  | ("dir", item) :: rest => do
      let directory ← text? item
      readOutput { config with directory := some directory } rest
  | _ => none

def readTypes (config : Config) : Entries → Option Config
  | [] => some config
  | (name, item) :: rest => do
      let fieldType ← text? item
      readTypes { config with types := config.types.insert name fieldType } rest

/-- The settings of a section by their names, where the section is a list. -/
def entriesOf (names : List String) : Item → Option Entries
  | .table _ entries => some entries
  | .list [] => none
  | .list items => some (names.zip items)
  | _ => none

def momentKey : String := "$__toml_private_datetime"

def typeEntries : Item → Option Entries
  | .table _ entries => some entries
  | .scalar (.moment moment) => some [(momentKey, .text moment.text)]
  | _ => none

def readSections (config : Config) : Entries → Option Config
  | [] => some config
  | ("database", item) :: rest => do
      let config ← config.readDatabase (← entriesOf ["url", "schemas"] item)
      readSections config rest
  | ("output", item) :: rest => do
      let config ← config.readOutput (← entriesOf ["dir"] item)
      readSections config rest
  | ("types", item) :: rest => do
      let config ← config.readTypes (← typeEntries item)
      readSections config rest
  | _ => none

def read? (s : String) : Option Config := do
  readSections {} (← readDocument s)

/-!
## Variables
-/

def expandTypes (environment : Variables) :
    List (NameEntry String) → Except ExpansionError (List (NameEntry String))
  | [] => .ok []
  | (name, fieldType) :: rest => do
      let fieldType ← expand environment fieldType
      let rest ← expandTypes environment rest
      return (name, fieldType) :: rest

def expand (environment : Variables) (config : Config) : Except ExpansionError Config := do
  let url ← config.url.mapM (Rowsmith.expand environment)
  let schemas ← config.schemas.mapM (Rowsmith.expand environment)
  let directory ← config.directory.mapM (Rowsmith.expand environment)
  let types ← expandTypes environment config.types.entries
  return ⟨url, schemas, directory, .ofList types⟩

/-!
## Blanks
-/

/-- The first setting that names something and is blank. -/
def blank? (config : Config) : Option ConfigError :=
  if config.url.any isBlankText then some .blankUrl
  else if config.schemas.any isBlankText then some .blankSchema
  else
    (config.types.entries.find? fun (_, fieldType) => isBlankText fieldType).map fun (name, _) =>
      .blankType name

def parse (environment : Variables) (s : String) : Except ConfigError Config :=
  match read? s with
  | none => .error .malformed
  | some config =>
      match config.expand environment with
      | .error error => .error (.expansion error)
      | .ok config =>
          match config.blank? with
          | some error => .error error
          | none => .ok config

end Config

end Rowsmith
