import Rowsmith.Derive.Grammar.Path
import Rowsmith.Derive.Grammar.Phrase
import Rowsmith.Derive.Grammar.Type
import Rowsmith.Derive.Lexer

/-!
# Operators and operands

What stands between operands, the members of a value, and the operations made of them.
-/

namespace Rowsmith
namespace Derive

/-!
# Operators

The operators between two operands and how strongly they hold them. Of two operators that begin
alike the longer one comes first.
-/

def operators : List (String × Strength) :=
  [("+=", .assignment), ("-=", .assignment), ("*=", .assignment), ("/=", .assignment),
    ("%=", .assignment), ("^=", .assignment), ("&=", .assignment), ("|=", .assignment),
    ("<<=", .assignment), (">>=", .assignment), ("&&", .conjunction), ("||", .disjunction),
    ("<<", .shift), (">>", .shift), ("==", .comparison), ("<=", .comparison),
    ("!=", .comparison), (">=", .comparison), ("+", .sum), ("-", .sum), ("*", .product),
    ("/", .product), ("%", .product), ("^", .difference), ("&", .intersection), ("|", .union),
    ("<", .comparison), (">", .comparison)]

def operator? (tokens : Tokens) : Option (String × Strength) :=
  operators.find? fun (text, _) => begins text tokens

/-- An equals sign by itself. -/
def beginsAssignment (tokens : Tokens) : Bool :=
  begins "=" tokens && !begins "=>" tokens

/-- The strength of whatever joins the operand before these tokens to another one or to a type. -/
def strengthAhead (tokens : Tokens) : Strength :=
  match operator? tokens with
  | some (_, strength) => strength
  | none =>
      if beginsAssignment tokens then .assignment
      else if begins ".." tokens then .range
      else if beginsWithWord "as" tokens then .cast
      else .none

/-- Whether a range that does not include its end has none, which depends on whether braces may
follow. -/
def endsRange (structs : Bool) (tokens : Tokens) : Bool :=
  tokens.isEmpty || beginsWithDot tokens || beginsWithWord "as" tokens ||
    beginsWithOneOfSigns [",", ";", "?", "=>", "=", "+", "/", "%", "^", ">", "<=", "!=", "-=", "*=",
      "&=", "|=", "<<="] tokens ||
    (!structs && beginsWithGroup .brace tokens)

/-- What cannot follow a type that a value is cast to. -/
def breaksCast (tokens : Tokens) : Bool :=
  beginsWithDot tokens || begins "?" tokens || beginsWithGroup .bracket tokens ||
    beginsWithGroup .parenthesis tokens

/-- Whether an expression may begin here, where there need not be one. -/
def beginsExpression (tokens : Tokens) : Bool :=
  (beginsWithIdentifier tokens && !beginsWithWord "as" tokens) ||
    [Delimiter.parenthesis, .bracket, .brace].any (beginsWithGroup · tokens) ||
    beginsWithLiteral tokens || beginsWithLifetime tokens ||
    (begins "!" tokens && !begins "!=" tokens) ||
    (begins "-" tokens && !begins "-=" tokens && !begins "->" tokens) ||
    (begins "*" tokens && !begins "*=" tokens) ||
    (begins "|" tokens && !begins "|=" tokens) ||
    (begins "&" tokens && !begins "&=" tokens) ||
    (begins "<" tokens && !begins "<=" tokens && !begins "<<=" tokens) ||
    beginsWithOneOfSigns ["..", "::", "#"] tokens

/-!
# Members

A member of a value has a name or an index. An index is a whole number without a suffix, and it is
written in decimal digits whatever its base. Two indices with a dot between them look like one
number.
-/

/-- Indices are smaller than this. -/
def indexLimit : Nat := 0x100000000

def indexToken (index : Nat) : Option Token :=
  if index < indexLimit then some (.literal (toString index) (.whole (some index))) else none

def Token.index? : Token → Option Token
  | .literal _ (.whole (some index)) => indexToken index
  | _ => none

/-- The index that is all of these characters. -/
def indexOf? (cs : Characters) : Option Token :=
  match wholeNumber? cs with
  | some (some index, []) => indexToken index
  | _ => none

/-- The indices that a number with a dot is made of. A dot at the end has none after it. -/
def indicesOf? (spelling : String) : Option Tokens := do
  let whole := spelling.toList.takeWhile (· != '.')
  let first ← indexOf? whole
  match spelling.toList.drop whole.length with
  | [] => return [first]
  | ['.'] => return first :: signTokens ['.']
  | _ :: more => return first :: signTokens ['.'] ++ [← indexOf? more]

namespace Reader

def index : Reader Tokens := do
  match ← get with
  | token :: rest =>
      set rest
      return [← token.index?]
  | [] => failure

def member : Reader Tokens := do
  if ← sees beginsWithName then nameToken else index

end Reader

/-!
# Operations

An operand with the calls and members after it, signs before it, and operators between operands.
Comparisons and ranges are not operands of their like, unless they stand in brackets.
-/

def Expression.other (tokens : Tokens) : Expression :=
  ⟨tokens, .other⟩

def Expression.block (tokens : Tokens) : Expression :=
  ⟨tokens, .block⟩

namespace Reader

variable (read : PhraseReader)

/-!
## After an operand
-/

def callArguments : Reader Tokens :=
  inside .parenthesis (commaList (expression read))

/-- What follows a dot: a keyword, a call of a name, or a member. -/
def afterDot : Reader Tokens := do
  if ← sees (beginsWithWord "await") then
    anyWord
  else if ← sees beginsWithName then
    let name ← nameToken
    if ← sees (begins "::") then
      let colons ← sign "::"
      let list ← arguments read
      return name ++ colons ++ angleTokens list ++ (← callArguments read)
    else
      return name ++ (← optional (beginsWithGroup .parenthesis) (callArguments read))
  else
    index

def access : Reader Tokens := do
  let dot ← sign "."
  match ← get with
  | .literal spelling .fraction :: rest =>
      set rest
      let indices ← indicesOf? spelling
      let more ← if spelling.toList.getLast? = some '.' then afterDot read else pure []
      return dot ++ indices ++ more
  | _ => return dot ++ (← afterDot read)

/-- The subject with everything that follows it at once. -/
def trailed (subject : Expression) : Reader Expression := do
  let tokens ← get
  let isRange := subject.form = .range
  let trailer ←
    if beginsWithGroup .parenthesis tokens then callArguments read
    else if beginsWithGroup .bracket tokens then inside .bracket (expression read)
    else if beginsWithDot tokens && !isRange then access read
    else if begins "?" tokens && !isRange then sign "?"
    else pure []
  if trailer.isEmpty then return subject
  else read (.trailed (.other (subject.tokens ++ trailer)))

/-!
## Between operands
-/

/-- A range after its start, if it has one. -/
def rangeFrom (structs : Bool) (start : Tokens) : Reader Expression := do
  if ← sees (begins "...") then
    failure
  else
    let closed ← maybeSign "..="
    let dots ← if closed.isEmpty then sign ".." else pure closed
    if closed.isEmpty && endsRange structs (← get) then
      return ⟨start ++ dots, .range⟩
    else
      let first ← read (.operand structs)
      let last ← read (.rightSide structs .range first)
      return ⟨start ++ dots ++ last.tokens, .range⟩

/-- The tokens of an operator and the operand after it. -/
def rightOperand (structs : Bool) (text : String) (strength : Strength) : Reader Tokens := do
  let operator ← sign text
  let first ← read (.operand structs)
  let right ← read (.rightSide structs strength first)
  return operator ++ right.tokens

/-- The longer expression that the next operator makes of its left operand, if there is one that is
strong enough. -/
def widened? (structs : Bool) (least : Strength) (left : Expression) :
    Reader (Option Expression) := do
  let tokens ← get
  match operator? tokens with
  | some (text, strength) =>
      if strength < least then
        return none
      else if strength = .comparison && left.form = .comparison then
        failure
      else
        let right ← rightOperand read structs text strength
        let form := if strength = .comparison then ExpressionForm.comparison else .other
        return some ⟨left.tokens ++ right, form⟩
  | none =>
      if least ≤ .assignment && beginsAssignment tokens then
        return some (.other (left.tokens ++ (← rightOperand read structs "=" .assignment)))
      else if least ≤ .range && begins ".." tokens then
        return some (← rangeFrom read structs left.tokens)
      else if least ≤ .cast && beginsWithWord "as" tokens then
        let cast ← inOrder [anyWord, type read false]
        if breaksCast (← get) then failure else return some (.other (left.tokens ++ cast))
      else
        return none

/-- A range is no left operand. -/
def operation (structs : Bool) (least : Strength) (left : Expression) : Reader Expression := do
  if left.form = .range then
    return left
  else
    match ← widened? read structs least left with
    | some wider => read (.operation structs least wider)
    | none => return left

/-- Assignments group to the right, and all other operators to the left. -/
def rightSide (structs : Bool) (before : Strength) (operand : Expression) :
    Reader Expression := do
  let tokens ← get
  let next := strengthAhead tokens
  if before < next || (next = before && before = .assignment) then
    let wider ← read (.operation structs next operand)
    if (← get).length = tokens.length then return wider
    else read (.rightSide structs before wider)
  else
    return operand

end Reader

end Derive
end Rowsmith
