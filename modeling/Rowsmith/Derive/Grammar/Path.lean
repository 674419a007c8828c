import Rowsmith.Derive.Grammar.Attribute

/-!
# Paths

A path is made of names with separators between them, and a name may have generic arguments. In an
expression a separator must stand before the arguments. A path may begin inside a type, which may
be seen as one of its traits.
-/

namespace Rowsmith
namespace Derive

structure PathTokens where
  /-- Everything up to the last name. -/
  trunk : Tokens
  /-- The arguments of the last name. -/
  arguments : Tokens
  /-- The last name has no arguments, not counting empty brackets. -/
  isBare : Bool
  /-- No name has arguments. -/
  isPlain : Bool
  /-- It is one name and nothing before it. -/
  isSingle : Bool
  /-- It begins inside a type. -/
  isQualified : Bool

def PathTokens.tokens (path : PathTokens) : Tokens :=
  path.trunk ++ path.arguments

def PathTokens.ofName (name : Identifier) : PathTokens where
  trunk := [.identifier name]
  arguments := []
  isBare := true
  isPlain := true
  isSingle := true
  isQualified := false

/-- The path with a longer one's beginning before it. -/
def PathTokens.after (before : PathTokens) (last : PathTokens) : PathTokens where
  trunk := before.tokens ++ separator ++ last.trunk
  arguments := last.arguments
  isBare := last.isBare
  isPlain := before.isPlain && last.isPlain
  isSingle := false
  isQualified := before.isQualified

/-- The beginning of generic arguments. -/
def beginsAngle (tokens : Tokens) : Bool :=
  begins "<" tokens && !begins "<=" tokens && !begins "<<=" tokens

/-- A separator with a group of parentheses after it belongs to no path. -/
def continuesPath (tokens : Tokens) : Bool :=
  begins "::" tokens && !beginsWithGroup .parenthesis (tokens.drop 2)

/-- What begins with these tokens can only be generic parameters, where a path inside a type might
stand too. -/
def beginsParameters (tokens : Tokens) : Bool :=
  let second := tokens.drop 1
  let third := if beginsWithLifetime second then second.drop 2 else second.drop 1
  begins "<" tokens &&
    (beginsWithOneOfSigns [">", "#"] second || beginsWithWord "const" second ||
      ((beginsWithLifetime second || beginsWithName second) &&
        (beginsWithColon third || beginsWithOneOfSigns [",", ">", "="] third)))

namespace Reader

variable (read : PhraseReader)

/-!
# Generic arguments
-/

/-- A constant among types: a literal, a name or a block. -/
def constant : Reader Tokens := do
  if ← sees beginsWithLiteral then literal
  else if ← sees beginsWithName then nameToken
  else attributedBlock read

def beginsConstant (tokens : Tokens) : Bool :=
  beginsWithLiteral tokens || beginsWithGroup .brace tokens

/-- A lifetime that is an argument by itself, and not the first of several bounds. -/
def beginsLifetimeArgument (tokens : Tokens) : Bool :=
  beginsWithLifetime tokens && !begins "+" (tokens.drop 2)

def endsArgument : Tokens → Bool :=
  beginsWithOneOfSigns [",", ">"]

def boundTokens (rules : BoundRules) : Reader Tokens := do
  return (← read (.bound rules)).tokens

/-- What an associated item is, or which bounds it has. -/
def association : Reader Tokens := do
  if ← sees (begins "=") then
    let equals ← sign "="
    let content ← if ← sees beginsConstant then constant read else type read true
    return equals ++ content
  else if ← sees (begins ":") then
    inOrder [sign ":", plusList endsArgument (boundTokens read ⟨true, false⟩)]
  else
    return []

def argument : Reader Argument := do
  if ← sees beginsLifetimeArgument then
    return ⟨true, ← lifetime⟩
  else if ← sees beginsConstant then
    return ⟨false, ← constant read⟩
  else
    let subject ← read (.type true)
    match subject.form with
    | .path true => return ⟨false, subject.tokens ++ (← association read)⟩
    | _ => return ⟨false, subject.tokens⟩

def arguments : Reader (List (Entry Argument)) := do
  let _ ← sign "<"
  let list ← separated (begins ">") "," (argument read)
  let _ ← sign ">"
  return list

/-!
# Names and paths
-/

def segment (isExpression : Bool) : Reader PathTokens := do
  if ← sees (beginsWithOneOf ["super", "self", "crate", "try"]) then
    return .ofName (← identifier)
  else
    let name ← if ← sees (beginsWithWord "Self") then identifier else name
    let tokens ← get
    let separated := begins "::" tokens && begins "<" (tokens.drop 2)
    if separated || (!isExpression && beginsAngle tokens) then
      let colons ← maybeSign "::"
      let list ← arguments read
      return { PathTokens.ofName name with
        arguments := colons ++ angleTokens list
        isBare := list.isEmpty
        isPlain := false }
    else
      return .ofName name

def laterSegment (isExpression : Bool) : Reader PathTokens := do
  let _ ← sign "::"
  segment read isExpression

def simplePath (isExpression : Bool) : Reader PathTokens := do
  let colons ← maybeSign "::"
  let first ← segment read isExpression
  let others ← many continuesPath (laterSegment read isExpression)
  let path := others.foldl PathTokens.after first
  return { path with
    trunk := colons ++ path.trunk
    isSingle := path.isSingle && colons.isEmpty }

/-- A path inside a type, which may be seen as one of its traits. -/
def qualifiedPath (isExpression : Bool) : Reader PathTokens := do
  let left ← sign "<"
  let subject ← type read true
  let view ←
    if ← sees (beginsWithWord "as") then
      inOrder [anyWord, PathTokens.tokens <$> simplePath read false]
    else
      pure []
  let right ← inOrder [sign ">", sign "::"]
  let first ← segment read isExpression
  let others ← many (begins "::") (laterSegment read isExpression)
  let path := others.foldl PathTokens.after first
  return { path with
    trunk := left ++ subject ++ view ++ right ++ path.trunk
    isSingle := false
    isQualified := true }

def path (isExpression : Bool) : Reader PathTokens := do
  if ← sees (begins "<") then qualifiedPath read isExpression else simplePath read isExpression

end Reader

end Derive
end Rowsmith
