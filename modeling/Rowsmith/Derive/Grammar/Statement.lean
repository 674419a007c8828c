import Rowsmith.Derive.Grammar.Expression

/-!
# Statements

Bindings, items, calls of macros and expressions, with semicolons after them. Only the last
expression of a block, and one that ends in a block itself, may lack its semicolon.
-/

namespace Rowsmith
namespace Derive

structure Statement where
  tokens : Tokens
  /-- Nothing may follow it. -/
  isLast : Bool

/-!
# What a statement begins with
-/

inductive MacroForm where
  /-- The call names what it defines. -/
  | item
  /-- The call has braces and nothing that goes on after them. -/
  | statement
  | expression
  deriving DecidableEq, Repr

/-- What the call of a macro at the front is. -/
def macroForm (tokens : Tokens) : MacroForm :=
  match Reader.modulePath.run tokens with
  | some (_, rest) =>
      let after := rest.drop 1
      if !begins "!" rest then .expression
      else if beginsWithName after || beginsWithWord "try" after then .item
      else if beginsWithGroup .brace after && !beginsWithDot (after.drop 1) &&
          !begins "?" (after.drop 1) then
        .statement
      else .expression
  | none => .expression

def beginsStatic (tokens : Tokens) : Bool :=
  let next := tokens.drop 1
  beginsWithWord "static" tokens && (beginsWithWord "mut" next || beginsWithName next)

/-- A constant with a name, and no block or closure. -/
def beginsConstantItem (tokens : Tokens) : Bool :=
  let next := tokens.drop 1
  beginsWithWord "const" tokens &&
    !(beginsWithGroup .brace next || beginsWithOneOf ["static", "move"] next || begins "|" next ||
      (beginsWithWord "async" next &&
        !beginsWithOneOf ["unsafe", "extern", "fn"] (tokens.drop 2)))

def beginsItem (tokens : Tokens) : Bool :=
  let next := tokens.drop 1
  beginsWithOneOf ["pub", "extern", "use", "fn", "mod", "type", "struct", "enum", "trait", "impl",
      "macro"] tokens ||
    (beginsWithWord "crate" tokens && !begins "::" next) ||
    beginsStatic tokens || beginsConstantItem tokens ||
    (beginsWithWord "unsafe" tokens && !beginsWithGroup .brace next) ||
    (beginsWithWord "async" tokens && beginsWithOneOf ["unsafe", "extern", "fn"] next) ||
    (beginsWithWord "union" tokens && beginsWithName next) ||
    (beginsWithWord "auto" tokens && beginsWithWord "trait" next) ||
    (beginsWithWord "default" tokens && beginsWithOneOf ["unsafe", "impl"] next)

namespace Reader

variable (read : PhraseReader)

/-!
# Kinds of statements
-/

/-- A binding that may fail says what to do then, unless its value ends in a brace. -/
def binding : Reader Tokens := do
  let head ← inOrder [word "let", patternTokens read,
    optional (begins ":") (inOrder [sign ":", type read true])]
  let value ← optional (begins "=") (inOrder [sign "=", expression read])
  let otherwise ←
    if value.isEmpty || endsWithBrace value then pure []
    else optional (beginsWithWord "else") (inOrder [anyWord, block read])
  return head ++ value ++ otherwise ++ (← sign ";")

def macroStatement : Reader Tokens := do
  let path ← modulePath
  return path.tokens ++ (← inOrder [macroCall, maybeSign ";"])

def statement : Reader Statement := do
  let before ← get
  let attributes ← attributeTokens read
  let tokens ← get
  let form := macroForm tokens
  if form = .statement then
    return ⟨attributes ++ (← macroStatement), false⟩
  else if beginsWithWord "let" tokens then
    return ⟨attributes ++ (← binding read), false⟩
  else if form = .item || beginsItem tokens then
    set before
    return ⟨← read (.item .block), false⟩
  else
    let value ← read .statement
    let semicolon ← maybeSign ";"
    return ⟨attributes ++ value.tokens ++ semicolon,
      semicolon.isEmpty && value.form != .block && value.form != .bracedMacro⟩

/-!
# Blocks
-/

def statementsWithin : Nat → Reader Tokens
  | 0 => failure
  | bound + 1 => do
      let semicolons ← many (begins ";") (sign ";")
      if ← sees List.isEmpty then
        return semicolons.flatten
      else
        let first ← statement read
        if ← sees List.isEmpty then
          return semicolons.flatten ++ first.tokens
        else if first.isLast then
          failure
        else
          let others ← statementsWithin bound
          return semicolons.flatten ++ first.tokens ++ others

def statements : Reader Tokens := do
  statementsWithin read ((← get).length + 1)

end Reader

end Derive
end Rowsmith
