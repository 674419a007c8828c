import Rowsmith.Derive.Grammar.Operation
import Rowsmith.Derive.Grammar.Type

/-!
# Patterns

What a value may look like: a name that is bound to it, a literal, a range, or a shape with patterns
for its parts.
-/

namespace Rowsmith
namespace Derive

def Pattern.ofTokens (tokens : Tokens) : Pattern :=
  ⟨tokens, false⟩

namespace Reader

variable (read : PhraseReader)

/-!
# Alternatives
-/

def beginsAlternative (tokens : Tokens) : Bool :=
  begins "|" tokens && !begins "||" tokens && !begins "|=" tokens

def patternTokens : Reader Tokens := do
  return (← read .pattern).tokens

/-- One or more patterns, any of which may fit. A mark may stand before the first one too. -/
def alternatives : Reader Pattern := do
  let mark ← maybeSign "|"
  let first ← read .pattern
  let others ← many beginsAlternative (inOrder [sign "|", patternTokens read])
  if mark.isEmpty && others.isEmpty then return first
  else return .ofTokens (mark ++ first.tokens ++ others.flatten)

def alternativeTokens : Reader Tokens := do
  return (← alternatives read).tokens

/-!
# Ranges
-/

def endsRangePattern (tokens : Tokens) : Bool :=
  tokens.isEmpty || beginsWithOneOfSigns ["|", "=", ",", ";"] tokens || beginsWithColon tokens ||
    beginsWithWord "if" tokens

def constantBlock : Reader Tokens :=
  inOrder [word "const", attributedBlock read]

def rangeBound : Reader Tokens := do
  if ← sees beginsWithLiteral then literal
  else if ← sees (beginsWithWord "const") then constantBlock read
  else if ← sees beginsPath then PathTokens.tokens <$> path read true
  else failure

/-- The sign of a range that includes its end, or none where the range goes up to it. Three dots are
an older spelling. -/
def closedSign : Reader Tokens := do
  if ← sees (begins "...") then
    let _ ← sign "..."
    return signTokens "..=".toList
  else
    maybeSign "..="

/-- A range that includes its end must have one. -/
def rangeAfter (start : Tokens) : Reader Pattern := do
  let closed ← closedSign
  let dots ← if closed.isEmpty then sign ".." else pure closed
  let last ← if ← sees endsRangePattern then pure [] else rangeBound read
  if last.isEmpty && !closed.isEmpty then failure
  else return ⟨start ++ dots ++ last, start.isEmpty != last.isEmpty⟩

def literalPattern : Reader Pattern := do
  let start ← rangeBound read
  if ← sees (begins "..") then rangeAfter read start else return .ofTokens start

/-!
# Shapes
-/

/-- A name for a part, or a member with a pattern for it. -/
def fieldPattern : Reader Tokens := do
  let marks ← inOrder [maybeWord "box", maybeWord "ref", maybeWord "mut"]
  if marks.isEmpty then
    let named := beginsWithName (← get)
    let part ← member
    if named && !begins ":" (← get) then return part
    else return part ++ (← inOrder [sign ":", alternativeTokens read])
  else
    return marks ++ (← nameToken)

/-- Fields with commas between them; the dots for all others come last. -/
def fieldPatterns : Nat → Reader Tokens
  | 0 => failure
  | bound + 1 => do
      if ← sees List.isEmpty then
        return []
      else
        let attributes ← attributeTokens read
        if ← sees (begins "..") then
          return attributes ++ (← sign "..")
        else
          let first ← fieldPattern read
          if ← sees List.isEmpty then
            return attributes ++ first
          else
            let comma ← sign ","
            let others ← fieldPatterns bound
            return attributes ++ first ++ comma ++ others

def structPattern : Reader Tokens := do
  let inner ← group .brace
  let fields ← all inner (fieldPatterns read (inner.length + 1))
  return [.group .brace fields]

def tuplePattern : Reader Tokens :=
  inside .parenthesis (commaList (alternativeTokens read))

/-- A range that lacks an end must be in parentheses among the parts of a slice. -/
def slicePart : Reader Tokens := do
  let part ← alternatives read
  if part.isOpenRange then failure else return part.tokens

def slicePattern : Reader Tokens :=
  inside .bracket (commaList (slicePart read))

def pathPattern : Reader Pattern := do
  let path ← path read true
  let tokens ← get
  if !path.isQualified && path.isPlain && beginsMacroCall tokens then
    return .ofTokens (path.tokens ++ (← macroCall))
  else if beginsWithGroup .brace tokens then
    return .ofTokens (path.tokens ++ (← structPattern read))
  else if beginsWithGroup .parenthesis tokens then
    return .ofTokens (path.tokens ++ (← tuplePattern read))
  else if begins ".." tokens then
    rangeAfter read path.tokens
  else
    return .ofTokens path.tokens

/-- A name, which may be bound only if a pattern fits too. -/
def namePattern : Reader Tokens :=
  inOrder [maybeWord "ref", maybeWord "mut",
    do if ← sees (beginsWithWord "self") then anyWord else nameToken,
    optional (begins "@") (inOrder [sign "@", patternTokens read])]

/-!
# All patterns
-/

/-- A name that more than a name follows. -/
def beginsPathPattern (tokens : Tokens) : Bool :=
  let next := tokens.drop 1
  (beginsWithName tokens &&
    (beginsWithOneOfSigns ["::", "!", ".."] next || beginsWithGroup .brace next ||
      beginsWithGroup .parenthesis next)) ||
    (beginsWithWord "self" tokens && begins "::" next) ||
    beginsWithOneOfSigns ["::", "<"] tokens ||
    beginsWithOneOf ["Self", "super", "crate"] tokens

def beginsNamePattern (tokens : Tokens) : Bool :=
  beginsWithOneOf ["ref", "mut", "self"] tokens || beginsWithName tokens

def patternWithin : Reader Pattern := do
  let tokens ← get
  if beginsPathPattern tokens then
    pathPattern read
  else if beginsWithWord "_" tokens then
    return .ofTokens (← anyWord)
  else if beginsWithWord "box" tokens then
    return .ofTokens (← verbatim (inOrder [anyWord, patternTokens read]))
  else if beginsWithLiteral tokens || beginsWithWord "const" tokens then
    literalPattern read
  else if beginsNamePattern tokens then
    return .ofTokens (← namePattern read)
  else if begins "&" tokens then
    return .ofTokens (← inOrder [sign "&", maybeWord "mut", patternTokens read])
  else if beginsWithGroup .parenthesis tokens then
    return .ofTokens (← tuplePattern read)
  else if beginsWithGroup .bracket tokens then
    return .ofTokens (← slicePattern read)
  else if begins ".." tokens && !begins "..." tokens then
    rangeAfter read []
  else
    failure

end Reader

end Derive
end Rowsmith
