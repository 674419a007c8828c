import Rowsmith.Derive.Grammar
import Rowsmith.Derive.Item
import Rowsmith.Derive.Reader

/-!
# From settings to code

What the attributes of a field say, and the code that is generated for a struct.
-/

namespace Rowsmith
namespace Derive

/-!
# Settings of fields

A field may name its column or be skipped. Settings stand in attributes of one name, several to an
attribute with commas between them, and of several columns the last one counts. Attributes of other
names are not looked into.
-/

inductive Setting where
  | column (name : String)
  | skip
  deriving DecidableEq, Repr

def Setting.column? : Setting → Option String
  | .column name => some name
  | .skip => none

/-- Why the settings of a field cannot be read. Some of the causes are worded differently at the
end of the attribute. -/
inductive SettingError where
  | noArguments
  | valueArgument
  | missingName
  | literalName
  | strangeName
  | brokenName (atEnd : Bool)
  | unknownSetting
  | missingSign
  | missingText (atEnd : Bool)
  | missingComma
  deriving DecidableEq, Repr

def atEndOrNot (atEnd : Bool) (message : String) : String :=
  if atEnd then "unexpected end of input, " ++ message else message

def SettingError.message : SettingError → String
  | .noArguments => "expected attribute arguments in parentheses: #[pggo(...)]"
  | .valueArgument => "expected parentheses: #[pggo(...)]"
  | .missingName => atEndOrNot true "expected nested attribute"
  | .literalName => "unexpected literal in nested attribute, expected ident"
  | .strangeName => "unexpected token in nested attribute, expected ident"
  | .brokenName atEnd => atEndOrNot atEnd "expected ident"
  | .unknownSetting => "expected `column = \"...\"` or `skip`"
  | .missingSign => "expected `=`"
  | .missingText atEnd => atEndOrNot atEnd "expected string literal"
  | .missingComma => "expected `,`"

/-!
## Reading one setting
-/

/-- The tokens before a comma or the end, and whether a comma follows. -/
structure Piece where
  tokens : Tokens
  comma : Bool

/-- The first argument holds the tokens of the piece being read, last token first. Nothing has to
follow a comma. -/
def piecesFrom : Tokens → Tokens → List Piece
  | [], [] => []
  | piece, [] => [⟨piece.reverse, false⟩]
  | piece, .punctuation ',' _ :: rest => ⟨piece.reverse, true⟩ :: piecesFrom [] rest
  | piece, token :: rest => piecesFrom (token :: piece) rest

def pieces (tokens : Tokens) : List Piece :=
  piecesFrom [] tokens

/-- Whether the attribute ends with these last tokens of a piece. -/
def Piece.endsAt (piece : Piece) (rest : Tokens) : Bool :=
  rest.isEmpty && !piece.comma

namespace Piece

/-- The names after the first one, and the tokens after them. -/
def laterNames (piece : Piece) : Tokens → Except SettingError (List Identifier × Tokens)
  | .punctuation ':' true :: .punctuation ':' _ :: .identifier name :: rest => do
      let (names, rest) ← piece.laterNames rest
      return (name :: names, rest)
  | .punctuation ':' true :: .punctuation ':' _ :: rest =>
      throw (.brokenName (piece.endsAt rest))
  | tokens => return ([], tokens)

def path (piece : Piece) : Except SettingError (NamePath × Tokens) := do
  let rooted := begins "::" piece.tokens
  let tokens := if rooted then piece.tokens.drop 2 else piece.tokens
  match tokens with
  | .identifier name :: rest =>
      let (names, rest) ← piece.laterNames rest
      return (⟨rooted, name :: names⟩, rest)
  | tokens =>
      if piece.endsAt tokens then throw .missingName
      else if beginsWithLiteral tokens then throw .literalName
      else throw .strangeName

/-- The text after the sign, and the tokens after it. -/
def columnName (piece : Piece) : Tokens → Except SettingError (String × Tokens)
  | .punctuation '=' _ :: .literal _ (.text text) :: rest => return (text, rest)
  | .punctuation '=' _ :: rest => throw (.missingText (piece.endsAt rest))
  | _ => throw .missingSign

def setting (piece : Piece) : Except SettingError Setting := do
  let (path, rest) ← piece.path
  let (setting, rest) ←
    if path.isWord "column" then
      let (name, rest) ← piece.columnName rest
      pure (Setting.column name, rest)
    else if path.isWord "skip" then
      pure (Setting.skip, rest)
    else
      throw .unknownSetting
  if rest.isEmpty then return setting else throw .missingComma

end Piece

/-!
## Reading all settings of a field
-/

def Attribute.settings (self : Attribute) : Except SettingError (List Setting) :=
  if self.path.isWord "pggo" then
    match self.arguments with
    | .absent => throw .noArguments
    | .value _ => throw .valueArgument
    | .list _ tokens => (pieces tokens).mapM Piece.setting
  else
    return []

namespace Field

def settings (field : Field) : Except SettingError (List Setting) := do
  return (← field.attributes.mapM Attribute.settings).flatten

/-- The column that a field is bound to, and none if it is skipped. -/
def column (field : Field) : Except SettingError (Option String) := do
  let settings ← field.settings
  if settings.contains .skip then
    return none
  else
    return some ((settings.reverse.findSome? Setting.column?).getD field.name.word)

end Field

open Text

/-!
# Generated implementations

A struct with named fields is bound to a list of columns, one for every field that is not skipped.
The same list is written three times: as a constant, as scan targets and as values.
-/

structure Binding where
  column : String
  field : Identifier
  deriving DecidableEq, Repr

structure Expansion where
  item : Item
  bindings : List Binding

inductive DeriveError where
  | notStruct
  | noNamedFields
  | setting (error : SettingError)
  | columnTaken (column : String) (field : Identifier)
  deriving DecidableEq, Repr

def DeriveError.message : DeriveError → String
  | .notStruct => "Entity can only be derived for structs"
  | .noNamedFields => "Entity can only be derived for structs with named fields"
  | .setting error => error.message
  | .columnTaken column field =>
      "column \"" ++ column ++ "\" is already bound to field `" ++ field.text ++ "`"

/-!
## Binding fields to columns
-/

/-- The bindings with one more for a field, unless it is skipped. -/
def bindField (bindings : List Binding) (field : Field) : Except DeriveError (List Binding) := do
  match ← field.column.mapError DeriveError.setting with
  | none => return bindings
  | some column =>
      match bindings.find? (·.column = column) with
      | some taken => throw (.columnTaken column taken.field)
      | none => return bindings ++ [⟨column, field.name⟩]

def bindFields (fields : List Field) : Except DeriveError (List Binding) :=
  fields.foldlM bindField []

def Item.namedFields (item : Item) : Except DeriveError (List Field) :=
  match item.body with
  | .named fields => return fields.map Entry.value
  | .positional _ | .empty => throw .noNamedFields
  | .variants _ | .overlaid _ => throw .notStruct

def Item.expand (item : Item) : Except DeriveError Expansion := do
  let fields ← item.namedFields
  let bindings ← bindFields fields
  return ⟨item, bindings⟩

/-!
## Writing

A phrase is a piece of generated code, its words already set apart by blanks.
-/

namespace Binding

def columnLiteral (binding : Binding) : String :=
  quoteToken binding.column

def target (binding : Binding) : Words :=
  [". field (", binding.columnLiteral, ", & mut self .", binding.field.text, ")"]

def value (binding : Binding) : Words :=
  [". field (", binding.columnLiteral, ", :: std :: clone :: Clone :: clone ( & self .",
    binding.field.text, ") )"]

end Binding

namespace Expansion

/-- The type with its parameters, and its constraints. -/
def subject (expansion : Expansion) : Words :=
  expansion.item.name.text ::
    words (expansion.item.appliedParameters ++ expansion.item.constraints)

def columnsBlock (expansion : Expansion) : Words :=
  "impl" :: words expansion.item.declaredParameters ++ expansion.subject ++
    Delimiter.brace.around
      (["# [ doc = r\" Bound columns, in field order.\" ]",
          "pub const COLUMNS : & 'static [ & 'static str ] = & ["] ++
        (expansion.bindings.map Binding.columnLiteral).intersperse "," ++
        ["] ;"])

/-- The fields registered with a list of targets or values, and the columns chosen from it. -/
def registration (list : String) (entries : List Words) : Words :=
  Delimiter.brace.around
    ([":: pggo ::", list, ":: new ( )"] ++ entries.flatten ++ [". select ( columns )"])

def entityBlock (expansion : Expansion) : Words :=
  "impl" :: words expansion.item.declaredParameters ++
    ":: pggo :: Entity for" :: expansion.subject ++
    Delimiter.brace.around
      (["fn get_pointers < '__pggo > ( & '__pggo mut self , columns : & [ & str ] , )",
          "-> :: pggo :: OrmResult <",
          ":: std :: vec :: Vec < & '__pggo mut dyn :: pggo :: Scan >>"] ++
        registration "Pointers" (expansion.bindings.map Binding.target) ++
        ["fn get_values ( & self , columns : & [ & str ] , )",
          "-> :: pggo :: OrmResult <",
          ":: std :: vec :: Vec < :: pggo :: Param >>"] ++
        registration "Values" (expansion.bindings.map Binding.value))

def text (expansion : Expansion) : String :=
  " ".intercalate (expansion.columnsBlock ++ expansion.entityBlock)

end Expansion

end Derive
end Rowsmith
