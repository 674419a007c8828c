import Rowsmith.Derive.Grammar.Phrase

/-!
# Attributes and visibility

An attribute stands in brackets after a number sign. It has a path, and a group of any tokens or an
expression may follow. What contains an attribute is marked by an exclamation mark.
-/

namespace Rowsmith
namespace Derive

/-- A name, or one of the keywords that stand for a module or a type. -/
def beginsPathName (tokens : Tokens) : Bool :=
  beginsWithName tokens || beginsWithOneOf ["super", "self", "Self", "crate"] tokens

namespace Reader

/-!
# Paths of names
-/

def pathName : Reader Identifier := do
  if ← sees beginsPathName then identifier else failure

def modulePath : Reader NamePath := do
  let rooted := !(← maybeSign "::").isEmpty
  let names ← separated (fun _ => false) "::" pathName
  return ⟨rooted, names.map Entry.value⟩

/-!
# Attributes
-/

def attributePath : Reader NamePath := do
  if ← sees (beginsWithWord "unsafe") then return ⟨false, [← identifier]⟩ else modulePath

variable (read : PhraseReader)

/-- A value must not be an attribute itself. -/
def attributeArguments : Reader AttributeArguments := do
  match ← get with
  | .group delimiter tokens :: rest =>
      set rest
      return .list delimiter tokens
  | tokens =>
      if begins "=" tokens && !begins "==" tokens && !begins "=>" tokens then
        let _ ← sign "="
        if (← sees (begins "#")) && (← sees fun tokens => beginsWithGroup .bracket (tokens.drop 1))
        then failure
        else return .value (← expression read)
      else
        return .absent

def outerAttribute : Reader Attribute := do
  let _ ← sign "#"
  let inner ← group .bracket
  all inner do
    let path ← attributePath
    let arguments ← attributeArguments read
    return ⟨path, arguments⟩

def attributes : Reader (List Attribute) :=
  many (begins "#") (outerAttribute read)

def attributeTokens : Reader Tokens := do
  return (← attributes read).flatMap Attribute.tokens

def innerAttribute : Reader Tokens := do
  let signs ← inOrder [sign "#", sign "!"]
  let inner ← group .bracket
  let content ← all inner do
    let path ← attributePath
    let arguments ← attributeArguments read
    return Attribute.content ⟨path, arguments⟩
  return signs ++ [.group .bracket content]

def beginsInnerAttribute (tokens : Tokens) : Bool :=
  begins "#" tokens && begins "!" (tokens.drop 1)

def innerAttributes : Reader Tokens := do
  return (← many beginsInnerAttribute (innerAttribute read)).flatten

/-- A block that may begin with attributes of its own. -/
def attributedBlock : Reader Tokens :=
  inside .brace (inOrder [innerAttributes read, read .statements])

/-!
# Visibility
-/

/-- The keyword in parentheses that limits a visibility. Other parentheses belong to what
follows. -/
def isLimit : Tokens → Bool
  | [token] => beginsWithOneOf ["crate", "self", "super"] [token]
  | _ => false

def visibility : Reader Tokens := do
  if ← sees (beginsWithWord "pub") then
    let first ← anyWord
    match ← get with
    | .group .parenthesis inner :: _ =>
        if isLimit inner then
          return first ++ (← anyGroup)
        else if beginsWithWord "in" inner then
          let limit ← inside .parenthesis (inOrder [anyWord, NamePath.tokens <$> modulePath])
          return first ++ limit
        else
          return first
    | _ => return first
  else
    return []

end Reader

end Derive
end Rowsmith
