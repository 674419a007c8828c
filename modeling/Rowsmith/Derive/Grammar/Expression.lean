import Rowsmith.Derive.Grammar.Operation
import Rowsmith.Derive.Grammar.Pattern

/-!
# Expressions

What an expression begins with, or what it is as a whole: literals, paths, brackets, closures,
jumps, and the expressions that end in a block.
-/

namespace Rowsmith
namespace Derive
namespace Reader

variable (read : PhraseReader)

/-!
# Paths and structs
-/

/-- A field with its value; a name alone is its own value. -/
def fieldValue : Reader Tokens := do
  let attributes ← attributeTokens read
  let named := beginsWithName (← get)
  let part ← member
  if named && !begins ":" (← get) then return attributes ++ part
  else return attributes ++ part ++ (← inOrder [sign ":", expression read])

/-- Fields with commas between them; a value for all others comes last. -/
def fieldValues : Nat → Reader Tokens
  | 0 => failure
  | bound + 1 => do
      if ← sees List.isEmpty then
        return []
      else if ← sees (begins "..") then
        inOrder [sign "..", optional (!·.isEmpty) (expression read)]
      else
        let first ← fieldValue read
        if ← sees List.isEmpty then
          return first
        else
          let comma ← sign ","
          let others ← fieldValues bound
          return first ++ comma ++ others

def structValue : Reader Tokens := do
  let inner ← group .brace
  let fields ← all inner (fieldValues read (inner.length + 1))
  return [.group .brace fields]

def endsWithBrace (tokens : Tokens) : Bool :=
  tokens.getLast?.any (·.isGroup .brace)

/-- A path, a call of a macro, or a struct with its fields. -/
def pathExpression (structs : Bool) : Reader Expression := do
  let path ← path read true
  let tokens ← get
  if !path.isQualified && path.isPlain && beginsMacroCall tokens then
    let call ← macroCall
    return ⟨path.tokens ++ call, if endsWithBrace call then .bracedMacro else .other⟩
  else if structs && beginsWithGroup .brace tokens then
    return .other (path.tokens ++ (← structValue read))
  else
    return .other path.tokens

/-!
# Brackets
-/

def tupleExpression : Reader Tokens :=
  inside .parenthesis (commaList (expression read))

/-- Elements, or one element and how often it is repeated. -/
def arrayContent : Reader Tokens := do
  if ← sees List.isEmpty then
    return []
  else
    let first ← expression read
    if ← sees (begins ";") then
      return first ++ (← inOrder [sign ";", expression read])
    else
      return first ++ (← optional (begins ",") (inOrder [sign ",", commaList (expression read)]))

def arrayExpression : Reader Tokens :=
  inside .bracket (arrayContent read)

/-!
# Expressions that end in a block
-/

def label : Reader Tokens :=
  optional beginsWithLifetime (inOrder [lifetime, sign ":"])

/-- A condition, a block, and perhaps more of them. -/
def ifExpression : Nat → Reader Tokens
  | 0 => failure
  | bound + 1 => do
      let first ← inOrder [word "if", condition read, block read]
      if ← sees (beginsWithWord "else") then
        let otherwise ← anyWord
        let last ← if ← sees (beginsWithWord "if") then ifExpression bound else block read
        return first ++ otherwise ++ last
      else
        return first

/-- An arm with the value of a case. A comma must follow unless the value ends in a block or the
arm is the last one. -/
def arm : Reader Tokens := do
  let head ← inOrder [attributeTokens read, alternativeTokens read,
    optional (beginsWithWord "if") (inOrder [anyWord, expression read]), sign "=>"]
  let value ← read .statement
  let comma ←
    if value.form = .block || (← get).isEmpty then maybeSign "," else sign ","
  return head ++ value.tokens ++ comma

def arms : Reader Tokens := do
  return (← many (!·.isEmpty) (arm read)).flatten

def matchExpression : Reader Tokens :=
  inOrder [word "match", condition read, inside .brace (inOrder [innerAttributes read, arms read])]

def forExpression : Reader Tokens :=
  inOrder [word "for", alternativeTokens read, word "in", condition read, attributedBlock read]

def labelled : Reader Tokens := do
  let label ← label
  let body ←
    if ← sees (beginsWithWord "while") then
      inOrder [anyWord, condition read, attributedBlock read]
    else if ← sees (beginsWithWord "for") then
      forExpression read
    else if ← sees (beginsWithWord "loop") then
      inOrder [anyWord, attributedBlock read]
    else
      attributedBlock read
  return label ++ body

/-- A keyword that begins a closure which is generic by itself, and no loop. -/
def beginsBinder (tokens : Tokens) : Bool :=
  beginsWithWord "for" tokens && begins "<" (tokens.drop 1) &&
    (beginsWithLifetime (tokens.drop 2) || begins ">" (tokens.drop 2))

def beginsConstantBlock (tokens : Tokens) : Bool :=
  beginsWithWord "const" tokens && beginsWithGroup .brace (tokens.drop 1)

def beginsTryBlock (tokens : Tokens) : Bool :=
  beginsWithWord "try" tokens && beginsWithGroup .brace (tokens.drop 1)

def beginsBlockExpression (tokens : Tokens) : Bool :=
  beginsWithOneOf ["if", "while", "loop", "match", "unsafe"] tokens ||
    (beginsWithWord "for" tokens && !beginsBinder tokens) || beginsTryBlock tokens ||
    beginsConstantBlock tokens || beginsWithGroup .brace tokens || beginsWithLifetime tokens

def blockExpression : Reader Expression := do
  let tokens ← get
  if beginsWithWord "if" tokens then
    return .block (← ifExpression read (tokens.length + 1))
  else if beginsWithWord "match" tokens then
    return .block (← matchExpression read)
  else if beginsWithOneOf ["unsafe", "const"] tokens then
    return .block (← inOrder [anyWord, attributedBlock read])
  else if beginsWithWord "try" tokens then
    return .block (← inOrder [anyWord, block read])
  else
    return .block (← labelled read)

/-!
# Closures and jumps
-/

def beginsAsyncBlock (tokens : Tokens) : Bool :=
  beginsWithWord "async" tokens &&
    (beginsWithGroup .brace (tokens.drop 1) ||
      (beginsWithWord "move" (tokens.drop 1) && beginsWithGroup .brace (tokens.drop 2)))

def beginsClosure (tokens : Tokens) : Bool :=
  begins "|" tokens || beginsWithOneOf ["move", "static"] tokens || beginsBinder tokens ||
    (beginsWithWord "const" tokens && !beginsConstantBlock tokens) ||
    (beginsWithWord "async" tokens &&
      (begins "|" (tokens.drop 1) || beginsWithWord "move" (tokens.drop 1)))

def closureParameter : Reader Tokens :=
  inOrder [attributeTokens read, patternTokens read,
    optional (begins ":") (inOrder [sign ":", type read true])]

/-- If the type of the value is given, the value must be a block. -/
def closure (structs : Bool) : Reader Tokens := do
  let head ← inOrder [maybeBinder read, maybeWord "const", maybeWord "static", maybeWord "async",
    maybeWord "move", sign "|"]
  let parameters ← separated (begins "|") "," (closureParameter read)
  let last ← sign "|"
  let body ←
    if ← sees (begins "->") then
      inOrder [sign "->", type read true, block read]
    else
      Expression.tokens <$> read (.expression structs)
  return head ++ listTokens parameters ++ last ++ body

def maybeExpression : Reader Tokens :=
  optional beginsExpression (expression read)

/-- Before a block, a value in braces is none. A loop with a label must be in parentheses. -/
def breakExpression (structs : Bool) : Reader Tokens := do
  let head ← inOrder [word "break", maybeLifetime]
  let tokens ← get
  if head.length > 1 && begins ":" tokens then
    failure
  else if !structs && beginsWithGroup .brace tokens then
    return head
  else
    return head ++ (← maybeExpression read)

def letExpression (structs : Bool) : Reader Tokens := do
  let head ← inOrder [word "let", alternativeTokens read, sign "="]
  let first ← read (.operand structs)
  let value ← read (.operation structs .comparison first)
  return head ++ value.tokens

/-!
# All expressions
-/

/-- The keyword of a block may also name a macro. -/
def beginsPathExpression (tokens : Tokens) : Bool :=
  beginsPath tokens ||
    (beginsWithWord "try" tokens && beginsWithOneOfSigns ["!", "::"] (tokens.drop 1))

def atom (structs : Bool) : Reader Expression := do
  let tokens ← get
  if beginsWithLiteral tokens then
    return .other (← literal)
  else if beginsAsyncBlock tokens then
    return .other (← inOrder [anyWord, maybeWord "move", block read])
  else if beginsClosure tokens then
    return .other (← closure read structs)
  else if beginsBuiltIn tokens then
    return .other (← builtIn)
  else if beginsPathExpression tokens then
    pathExpression read structs
  else if beginsWithGroup .parenthesis tokens then
    return .other (← tupleExpression read)
  else if beginsWithGroup .bracket tokens then
    return .other (← arrayExpression read)
  else if beginsWithWord "break" tokens then
    return .other (← breakExpression read structs)
  else if beginsWithWord "continue" tokens then
    return .other (← inOrder [anyWord, maybeLifetime])
  else if beginsWithOneOf ["return", "yield"] tokens then
    return .other (← inOrder [anyWord, maybeExpression read])
  else if beginsWithWord "become" tokens then
    return .other (← verbatim (inOrder [anyWord, expression read]))
  else if beginsWithWord "let" tokens then
    return .other (← letExpression read structs)
  else if beginsBlockExpression tokens then
    blockExpression read
  else if begins ".." tokens then
    rangeFrom read structs []
  else
    return .other (← word "_")

/-- What a reference may be: to a place that need not be valid, or to one that may change. -/
def referenceKind : Reader Tokens := do
  let tokens ← get
  if beginsWithWord "raw" tokens && beginsWithOneOf ["mut", "const"] (tokens.drop 1) then
    inOrder [anyWord, anyWord]
  else
    maybeWord "mut"

/-- An operand with its attributes and the signs before it. A range has no attributes. -/
def operand (structs : Bool) : Reader Expression := do
  let attributes ← attributeTokens read
  let tokens ← get
  if beginsWithOneOfSigns ["&", "*", "!", "-"] tokens then
    let mark ←
      if begins "&" tokens then inOrder [sign "&", referenceKind]
      else [sign "*", sign "!", sign "-"].firstM id
    let inner ← read (.operand structs)
    return .other (attributes ++ mark ++ inner.tokens)
  else
    let first ← atom read structs
    let whole ← read (.trailed first)
    if whole.form = .range && !attributes.isEmpty then failure
    else return { whole with tokens := attributes ++ whole.tokens }

def expressionWithin (structs : Bool) : Reader Expression := do
  let first ← read (.operand structs)
  read (.operation structs .none first)

/-- An expression where a statement may stand: one that ends in a block goes on only with a dot or
a question mark. -/
def statementExpression : Reader Expression := do
  let attributes ← attributeTokens read
  let first ←
    if ← sees beginsBlockExpression then blockExpression read else read (.operand true)
  let isBlock := first.form = .block
  let tokens ← get
  let whole ←
    if isBlock && !beginsWithDot tokens && !begins "?" tokens then
      pure first
    else
      let subject ← if isBlock then read (.trailed first) else pure first
      read (.operation true .none subject)
  return { whole with tokens := attributes ++ whole.tokens }

end Reader

end Derive
end Rowsmith
