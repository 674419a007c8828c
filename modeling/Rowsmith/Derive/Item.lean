import Rowsmith.Model.Identifier

/-!
# Tokens and declarations

Source code as tokens, and the declarations of types that are made of them.
-/

namespace Rowsmith
namespace Derive

/-!
# Tokens of source code

Source code is a list of tokens, where everything between two matching brackets is one token. A
punctuation mark is joined to the next one if nothing stands between them.
-/

inductive Delimiter where
  | parenthesis
  | bracket
  | brace
  deriving DecidableEq, Repr

def Delimiter.opening : Delimiter → Char
  | .parenthesis => '('
  | .bracket => '['
  | .brace => '\x7b'

def Delimiter.closing : Delimiter → Char
  | .parenthesis => ')'
  | .bracket => ']'
  | .brace => '\x7d'

inductive LiteralKind where
  | text (value : String)
  /-- A whole number, with its value unless it has a suffix. -/
  | whole (value : Option Nat)
  | fraction
  | other
  deriving DecidableEq, Repr

def LiteralKind.isNumber : LiteralKind → Bool
  | .whole _ | .fraction => true
  | .text _ | .other => false

inductive Token where
  | identifier (name : Identifier)
  | punctuation (mark : Char) (joint : Bool)
  | literal (spelling : String) (kind : LiteralKind)
  | group (delimiter : Delimiter) (tokens : List Token)

abbrev Tokens := List Token

def Token.isGroup (delimiter : Delimiter) : Token → Bool
  | .group d _ => d = delimiter
  | _ => false

/-- The tokens of one sign, its marks joined and free of what follows. -/
def signTokens : List Char → Tokens
  | [] => []
  | [mark] => [.punctuation mark false]
  | mark :: next :: more => .punctuation mark true :: signTokens (next :: more)

def wordToken (word : String) : Token :=
  .identifier ⟨word, false⟩

def comma : Tokens := signTokens [',']

/-- One of several things in a list, and whether the sign between them follows it. -/
structure Entry (α : Type) where
  value : α
  followed : Bool

def Entry.tokens (between : Tokens) (entry : Entry Tokens) : Tokens :=
  entry.value ++ if entry.followed then between else []

def Entry.map (f : α → β) (entry : Entry α) : Entry β :=
  ⟨f entry.value, entry.followed⟩

/-- The tokens of a list with commas in it. -/
def listTokens (entries : List (Entry Tokens)) : Tokens :=
  entries.flatMap (Entry.tokens comma)

/-!
## Writing tokens
-/

abbrev Words := List String

/-- The tokens as words; a joined mark goes with what follows it. The first argument holds the
joined marks just before. -/
def wordsFrom : String → Tokens → Words
  | held, [] => if held.isEmpty then [] else [held]
  | held, .identifier name :: rest => (held ++ name.text) :: wordsFrom "" rest
  | held, .literal spelling _ :: rest => (held ++ spelling) :: wordsFrom "" rest
  | held, .punctuation mark true :: rest => wordsFrom (held.push mark) rest
  | held, .punctuation mark false :: rest => held.push mark :: wordsFrom "" rest
  | held, .group delimiter tokens :: rest =>
      held.push delimiter.opening :: wordsFrom "" tokens ++
        delimiter.closing.toString :: wordsFrom "" rest

def words (tokens : Tokens) : Words :=
  wordsFrom "" tokens

def Delimiter.around (delimiter : Delimiter) (inner : Words) : Words :=
  delimiter.opening.toString :: inner ++ [delimiter.closing.toString]

/-!
# Declarations

A declaration of a type: its name, its generic parameters, its constraints and what is in it. Code
is generated from the named fields of a struct and from their attributes. All other parts are kept
as tokens.
-/

/-- One of the things between angle brackets. -/
structure Argument where
  isLifetime : Bool
  tokens : Tokens

/-- Lifetimes first, with a comma between them and the others. -/
def argumentTokens (list : List (Entry Argument)) : Tokens :=
  let (lifetimes, others) := list.partition (·.value.isLifetime)
  let gap := !others.isEmpty && lifetimes.getLast?.any (!·.followed)
  listTokens (lifetimes.map (Entry.map Argument.tokens)) ++ (if gap then comma else []) ++
    listTokens (others.map (Entry.map Argument.tokens))

def angleTokens (list : List (Entry Argument)) : Tokens :=
  signTokens ['<'] ++ argumentTokens list ++ signTokens ['>']

/-- Names with separators between them, perhaps after another separator. -/
structure NamePath where
  rooted : Bool
  names : List Identifier

def separator : Tokens := signTokens [':', ':']

def NamePath.tokens (path : NamePath) : Tokens :=
  (if path.rooted then separator else []) ++
    ((path.names.map fun name => [Token.identifier name]).intersperse separator).flatten

/-- The path that is this word alone. A raw word is another one. -/
def NamePath.isWord (word : String) (path : NamePath) : Bool :=
  !path.rooted && path.names = [⟨word, false⟩]

/-!
## Attributes
-/

inductive AttributeArguments where
  | absent
  | list (delimiter : Delimiter) (tokens : Tokens)
  | value (tokens : Tokens)

def AttributeArguments.tokens : AttributeArguments → Tokens
  | .absent => []
  | .list delimiter tokens => [.group delimiter tokens]
  | .value tokens => signTokens ['='] ++ tokens

structure Attribute where
  path : NamePath
  arguments : AttributeArguments

/-- What stands between the brackets of an attribute. -/
def Attribute.content (self : Attribute) : Tokens :=
  self.path.tokens ++ self.arguments.tokens

def Attribute.tokens (self : Attribute) : Tokens :=
  signTokens ['#'] ++ [.group .bracket self.content]

/-!
## Items
-/

structure Field where
  attributes : List Attribute
  visibility : Tokens
  name : Identifier
  type : Tokens

def Field.tokens (field : Field) : Tokens :=
  field.attributes.flatMap Attribute.tokens ++ field.visibility ++ .identifier field.name ::
    signTokens [':'] ++ field.type

def fieldTokens (fields : List (Entry Field)) : Tokens :=
  listTokens (fields.map (Entry.map Field.tokens))

/-- A generic parameter: its name with bounds, its default with the sign before it, and how it is
applied, which is by name. -/
structure Parameter where
  isLifetime : Bool
  attributes : List Attribute
  declaration : Tokens
  fallback : Tokens
  application : Tokens

/-- As it is declared, without its default. -/
def Parameter.declared (parameter : Parameter) : Argument :=
  ⟨parameter.isLifetime, parameter.attributes.flatMap Attribute.tokens ++ parameter.declaration⟩

def Parameter.complete (parameter : Parameter) : Argument :=
  ⟨parameter.isLifetime, parameter.declared.tokens ++ parameter.fallback⟩

def Parameter.applied (parameter : Parameter) : Argument :=
  ⟨parameter.isLifetime, parameter.application⟩

/-- Parameters between angle brackets, and nothing if there are none. -/
def parameterTokens (form : Parameter → Argument) (list : List (Entry Parameter)) : Tokens :=
  if list.isEmpty then [] else angleTokens (list.map (Entry.map form))

inductive Body where
  | named (fields : List (Entry Field))
  /-- A group of fields without names. -/
  | positional (group : Tokens)
  | empty
  /-- The group of the cases of an enumeration. -/
  | variants (group : Tokens)
  /-- Fields that share one place. -/
  | overlaid (fields : List (Entry Field))

/-- The constraints begin with their keyword, unless there are none. -/
structure Item where
  name : Identifier
  parameters : List (Entry Parameter)
  constraints : Tokens
  body : Body

def Item.declaredParameters (item : Item) : Tokens :=
  parameterTokens Parameter.declared item.parameters

def Item.appliedParameters (item : Item) : Tokens :=
  parameterTokens Parameter.applied item.parameters

/-- The name and the parameters in full. -/
def Item.head (item : Item) : Tokens :=
  .identifier item.name :: parameterTokens Parameter.complete item.parameters

def Item.tokens (item : Item) : Tokens :=
  match item.body with
  | .named fields =>
      wordToken "struct" :: item.head ++ item.constraints ++ [.group .brace (fieldTokens fields)]
  | .positional group =>
      wordToken "struct" :: item.head ++ group ++ item.constraints ++ signTokens [';']
  | .empty => wordToken "struct" :: item.head ++ item.constraints ++ signTokens [';']
  | .variants group => wordToken "enum" :: item.head ++ item.constraints ++ group
  | .overlaid fields =>
      wordToken "union" :: item.head ++ item.constraints ++ [.group .brace (fieldTokens fields)]

end Derive
end Rowsmith
