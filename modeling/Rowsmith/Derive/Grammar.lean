import Rowsmith.Derive.Grammar.Parameter
import Rowsmith.Derive.Grammar.Statement
import Rowsmith.Derive.Lexer

/-!
# Declarations, items and the whole grammar

Declarations of types and the items inside blocks, and the rules for all phrases tied together.
-/

namespace Rowsmith
namespace Derive

/-!
# Declarations of types

Structs, enumerations and unions, with the fields in them.
-/

namespace Reader

variable (read : PhraseReader)

/-!
## Fields
-/

/-- A field without a name may have fields of its own in the place of a type. -/
def beginsFieldsType (tokens : Tokens) : Bool :=
  beginsWithWord "struct" tokens ||
    (beginsWithWord "union" tokens && beginsWithGroup .brace (tokens.drop 1))

def field : Reader Field := do
  let attributes ← attributes read
  let visibility ← visibility
  let unnamed := beginsWithWord "_" (← get)
  let name ← if unnamed then identifier else name
  let _ ← sign ":"
  let content ←
    if unnamed && beginsFieldsType (← get) then
      verbatim do
        let _ ← anyWord
        read .fields
    else
      type read true
  return ⟨attributes, visibility, name, content⟩

def fields : Reader (List (Entry Field)) := do
  let inner ← group .brace
  all inner (separated List.isEmpty "," (field read))

def positionalFields : Reader Tokens :=
  inside .parenthesis
    (commaList (inOrder [attributeTokens read, visibility, type read true]))

def variant : Reader Tokens := do
  let head ← inOrder [attributeTokens read, do let _ ← visibility; nameToken]
  let content ←
    if ← sees (beginsWithGroup .brace) then
      pure [Token.group .brace (fieldTokens (← read .fields))]
    else
      optional (beginsWithGroup .parenthesis) (positionalFields read)
  let value ← optional (begins "=") (inOrder [sign "=", expression read])
  return head ++ content ++ value

/-!
## Structs, enumerations and unions
-/

def structBody : Reader (Tokens × Body) := do
  if ← sees (beginsWithGroup .parenthesis) then
    let fields ← positionalFields read
    let constraints ← constraints read
    let _ ← sign ";"
    return (constraints, .positional fields)
  else
    let constraints ← constraints read
    if ← sees (beginsWithGroup .brace) then
      return (constraints, .named (← read .fields))
    else
      let _ ← sign ";"
      return (constraints, .empty)

def enumBody : Reader (Tokens × Body) := do
  let constraints ← constraints read
  let variants ← inside .brace (commaList (variant read))
  return (constraints, .variants variants)

def unionBody : Reader (Tokens × Body) := do
  let constraints ← constraints read
  return (constraints, .overlaid (← read .fields))

/-- A declaration after its attributes and its visibility. -/
def declaration : Reader Item := do
  let tokens ← get
  let _ ← oneOf ["struct", "enum", "union"]
  let name ← name
  let parameters ← parameters read
  let (constraints, body) ←
    if beginsWithWord "struct" tokens then structBody read
    else if beginsWithWord "enum" tokens then enumBody read
    else unionBody read
  return ⟨name, parameters, constraints, body⟩

end Reader

/-!
# Items inside blocks

What a block may define besides its statements: functions, constants, types, traits with what
implements them, modules and macros. A trait and its implementations hold functions, constants,
types and calls of macros only.
-/

namespace Reader

variable (read : PhraseReader)

/-!
## Functions
-/

def functionMarks : Reader Tokens :=
  inOrder [maybeWord "const", maybeWord "async", maybeWord "unsafe", convention]

def beginsFunction (tokens : Tokens) : Bool :=
  (functionMarks.run tokens).any fun (_, rest) => beginsWithWord "fn" rest

/-- The subject of a method, which may be borrowed. -/
def receiver : Reader Tokens := do
  let reference ← optional (begins "&") (inOrder [sign "&", maybeLifetime])
  let subject ← inOrder [maybeWord "mut", word "self"]
  let content ←
    if !reference.isEmpty then pure []
    else optional (begins ":") (inOrder [sign ":", type read true])
  return reference ++ subject ++ content

/-- A pattern with its type. A type with arguments may stand alone, as if nothing were bound to
it. -/
def patternParameter : Reader Tokens := do
  if ← sees fun tokens => beginsWithName tokens && begins "<" (tokens.drop 1) then
    return wordToken "_" :: signTokens [':'] ++ (← type read true)
  else
    inOrder [patternTokens read, sign ":", type read true]

/-- The first parameter may be the subject of a method. -/
def definedParameter (first : Bool) : Reader Tokens := do
  match (receiver read).run (← get) with
  | some (subject, rest) =>
      if first then
        set rest
        return subject
      else
        failure
  | none => patternParameter read

def generics : Reader Tokens := do
  return parameterTokens Parameter.complete (← parameters read)

/-- A function without a body ends in a semicolon. -/
def function : Reader Tokens :=
  inOrder [functionMarks, word "fn", nameToken, generics read,
    parameterGroup read (definedParameter read), result read true, constraints read,
    do if ← sees (begins ";") then sign ";" else attributedBlock read]

/-!
## Values
-/

def value : Reader Tokens :=
  optional (begins "=") (inOrder [sign "=", expression read])

def staticItem : Reader Tokens :=
  inOrder [word "static", maybeWord "mut", nameToken,
    optional (!begins "=" ·) (inOrder [sign ":", type read true]), value read, sign ";"]

def constantItem : Reader Tokens :=
  inOrder [word "const", do if ← sees (beginsWithWord "_") then anyWord else nameToken,
    generics read, sign ":", type read true, value read, constraints read, sign ";"]

/-!
## Types and traits
-/

def itemBounds : Reader Tokens :=
  optional (begins ":") (inOrder [sign ":",
    plusList (fun tokens => endsConstraint tokens || beginsWithWord "where" tokens)
      (boundTokens read ⟨true, false⟩)])

def typeItem : Reader Tokens :=
  inOrder [word "type", nameToken, generics read, itemBounds read, constraints read,
    optional (begins "=") (inOrder [sign "=", type read true]), constraints read, sign ";"]

/-- Items inside braces, perhaps after attributes. -/
def items (place : ItemPlace) : Reader Tokens :=
  inside .brace (inOrder [innerAttributes read,
    do return (← many (!·.isEmpty) (read (.item place))).flatten])

/-- A trait, or another name for several bounds. -/
def traitItem : Reader Tokens := do
  let head ← inOrder [maybeWord "unsafe", maybeWord "auto", word "trait", nameToken, generics read]
  if ← sees (begins "=") then
    let bounds := plusList (fun tokens => endsConstraint tokens || beginsWithWord "where" tokens)
      (boundTokens read ⟨true, false⟩)
    return head ++ (← inOrder [sign "=", bounds, constraints read, sign ";"])
  else
    return head ++ (← inOrder [itemBounds read, constraints read, items read .member])

def implementation : Reader Tokens :=
  inOrder [maybeWord "default", maybeWord "unsafe", word "impl",
    optional beginsParameters (generics read), maybeWord "const", maybeSign "!", type read true,
    optional (beginsWithWord "for") (inOrder [anyWord, type read true]), constraints read,
    items read .member]

/-!
## Modules
-/

def beginsUseName (tokens : Tokens) : Bool :=
  beginsWithName tokens || beginsWithOneOf ["self", "super", "crate", "try"] tokens

def newName : Reader Tokens :=
  inOrder [word "as", do if ← sees (beginsWithWord "_") then anyWord else nameToken]

/-- A name, perhaps with a new one, a path to others, all names or a group of them. -/
def useTree : Reader Tokens := do
  let tokens ← get
  if beginsUseName tokens then
    let name ← anyWord
    if ← sees (begins "::") then return name ++ (← inOrder [sign "::", read .useTree])
    else return name ++ (← optional (beginsWithWord "as") newName)
  else if begins "*" tokens then
    sign "*"
  else
    inside .brace (commaList (inOrder [maybeSign "::", read .useTree]))

def useItem : Reader Tokens :=
  inOrder [word "use", maybeSign "::", read .useTree, sign ";"]

def externalItem : Reader Tokens := do
  if ← sees fun tokens => beginsWithWord "crate" (tokens.drop 1) then
    inOrder [word "extern", anyWord,
      do if ← sees (beginsWithWord "self") then anyWord else nameToken,
      optional (beginsWithWord "as") newName, sign ";"]
  else
    inOrder [maybeWord "unsafe", convention, items read .foreign]

def moduleItem : Reader Tokens :=
  inOrder [maybeWord "unsafe", word "mod", nameToken,
    do if ← sees (begins ";") then sign ";" else items read .block]

/-!
## Macros
-/

def macroDefinition : Reader Tokens :=
  inOrder [word "macro", nameToken, optional (beginsWithGroup .parenthesis) anyGroup,
    closedGroup .brace]

/-- The call of a macro, perhaps with the name that it defines. A semicolon follows unless the call
ends in a brace. -/
def macroItem : Reader Tokens := do
  let path ← modulePath
  let call ← inOrder [sign "!", optional beginsWithIdentifier anyWord, anyGroup]
  return path.tokens ++ call ++ (← if endsWithBrace call then pure [] else sign ";")

/-!
## All items
-/

/-- An item that only a block or a module can hold. -/
def blockItem : Reader Tokens := do
  let tokens ← get
  let marked := fun word => beginsWithWord word tokens ||
    (beginsWithWord "unsafe" tokens && beginsWithWord word (tokens.drop 1))
  if marked "extern" then externalItem read
  else if beginsWithWord "use" tokens then useItem read
  else if marked "mod" then moduleItem read
  else if beginsWithOneOf ["struct", "enum", "union"] tokens then Item.tokens <$> declaration read
  else if marked "trait" || marked "auto" then traitItem read
  else if beginsWithWord "macro" tokens then macroDefinition
  else implementation read

def beginsBlockItem (tokens : Tokens) : Bool :=
  let next := tokens.drop 1
  beginsWithOneOf ["extern", "use", "mod", "struct", "enum", "trait", "macro", "impl", "unsafe"]
      tokens ||
    (beginsWithWord "union" tokens && beginsWithName next) ||
    (beginsWithWord "auto" tokens && beginsWithWord "trait" next) ||
    (beginsWithWord "default" tokens && !begins "!" next)

/-- The mark of a member that implementations may replace. -/
def defaultMark : Reader Tokens :=
  optional (fun tokens => beginsWithWord "default" tokens && !begins "!" (tokens.drop 1)) anyWord

/-- Whether using what is defined elsewhere is said to be safe. -/
def foreignMark : Reader Tokens :=
  optional
    (fun tokens =>
      let next := tokens.drop 1
      (beginsWithWord "safe" tokens && beginsWithOneOf ["fn", "extern"] next) ||
        (beginsWithOneOf ["safe", "unsafe"] tokens && beginsWithWord "static" next))
    anyWord

def placeMark : ItemPlace → Reader Tokens
  | .block => pure []
  | .member => defaultMark
  | .foreign => foreignMark

def item (place : ItemPlace) : Reader Tokens := do
  let attributes ← attributeTokens read
  let visibility ← visibility
  let mark ← placeMark place
  let tokens ← get
  let content ←
    if beginsFunction tokens then function read
    else if beginsWithWord "type" tokens then typeItem read
    else if place != .foreign && beginsWithWord "const" tokens then constantItem read
    else if place != .member && beginsWithWord "static" tokens then staticItem read
    else if place = .block && beginsBlockItem tokens then blockItem read
    else if visibility.isEmpty && mark.isEmpty then macroItem
    else failure
  return attributes ++ visibility ++ mark ++ content

end Reader

/-!
# The grammar

The rules for all phrases, tied together: the reader of a phrase uses the readers of the phrases
inside. The bound on the depth of nesting makes reading end.
-/

/-- Each phrase is read by its rule, and the phrases inside by the given reader. -/
def Phrase.rule (read : PhraseReader) : PhraseReader
  | _, .type plus => Reader.typeTokens read plus
  | _, .bound rules => Reader.bound read rules
  | _, .expression structs => Reader.expressionWithin read structs
  | _, .operand structs => Reader.operand read structs
  | _, .operation structs least left => Reader.operation read structs least left
  | _, .rightSide structs before right => Reader.rightSide read structs before right
  | _, .trailed subject => Reader.trailed read subject
  | _, .pattern => Reader.patternWithin read
  | _, .statement => Reader.statementExpression read
  | _, .statements => Reader.statements read
  | _, .fields => Reader.fields read
  | _, .item place => Reader.item read place
  | _, .useTree => Reader.useTree read

/-- Phrases down to a depth of nesting. -/
def Phrase.reader : Nat → PhraseReader
  | 0 => fun _ _ => failure
  | depth + 1 => Phrase.rule (Phrase.reader depth)

/-- A declaration with its attributes and its visibility, which are dropped. -/
def Reader.declarationWithin (depth : Nat) : Reader Item := do
  let _ ← attributes (Phrase.reader depth)
  let _ ← visibility
  declaration (Phrase.reader depth)

/-- The item that makes up all of a source text. No more than sixteen steps down are made between
two tokens, and there are no more tokens than characters. -/
def Item.ofSource? (source : String) : Option Item := do
  let tokens ← tokensOf source
  match (Reader.declarationWithin (16 * (source.length + 1))).run tokens with
  | some (item, []) => some item
  | _ => none

end Derive
end Rowsmith
