import Rowsmith.Derive.Grammar.Parameter

/-!
# Types

A type is a path, perhaps with bounds after it, or begins with a mark, a bracket or a keyword of its
own.
-/

namespace Rowsmith
namespace Derive

def TypeTokens.other (tokens : Tokens) : TypeTokens :=
  ⟨tokens, .other⟩

/-- An object is a single bound if there is only one and no plus sign. -/
def TypeTokens.ofBounds (bounds : List (Entry Bound)) : TypeTokens :=
  match bounds with
  | [⟨bound, false⟩] => ⟨bound.tokens, .bound bound.unwrapped⟩
  | bounds => .other (Reader.boundListTokens bounds)

namespace Reader

variable (read : PhraseReader)

/-!
# Functions
-/

/-- The keyword and the convention that a function may be called by. -/
def convention : Reader Tokens :=
  optional (beginsWithWord "extern")
    (inOrder [anyWord, optional beginsWithText literal])

/-- Three dots stand for any more parameters. -/
def beginsVariadic (tokens : Tokens) : Bool :=
  begins "..." tokens ||
    ((beginsWithName tokens || beginsWithWord "_" tokens) && begins ":" (tokens.drop 1) &&
      begins "..." (tokens.drop 2))

def beginsNamed (first : Bool) (tokens : Tokens) : Bool :=
  (beginsWithName tokens || beginsWithWord "_" tokens ||
      (first && beginsWithWord "self" tokens)) &&
    beginsWithColon (tokens.drop 1)

def beginsMutableSelf (tokens : Tokens) : Bool :=
  beginsWithWord "mut" tokens && beginsWithWord "self" (tokens.drop 1)

/-- A parameter of a function type; the first one may be the subject itself. -/
def functionParameter (first : Bool) : Reader Tokens := do
  if first && beginsMutableSelf (← get) then
    verbatim (inOrder [anyWord, anyWord, optional beginsWithColon
      (inOrder [sign ":", type read true])])
  else
    inOrder [optional (beginsNamed first) (inOrder [anyWord, sign ":"]), type read true]

def variadic : Reader Tokens :=
  inOrder [optional beginsWithIdentifier (inOrder [anyWord, sign ":"]), sign "...", maybeSign ","]

/-- Parameters with commas between them, and no more after the dots. The reader of a parameter is
told whether it is the first one. -/
def parametersWithin (parameter : Bool → Reader Tokens) : Bool → Nat → Reader Tokens
  | _, 0 => failure
  | first, bound + 1 => do
      if ← sees List.isEmpty then
        return []
      else
        let attributes ← attributeTokens read
        if ← sees beginsVariadic then
          return attributes ++ (← variadic)
        else
          let content ← parameter first
          if ← sees List.isEmpty then
            return attributes ++ content
          else
            let comma ← sign ","
            let others ← parametersWithin parameter false bound
            return attributes ++ content ++ comma ++ others

def parameterGroup (parameter : Bool → Reader Tokens) : Reader Tokens := do
  let inner ← group .parenthesis
  let parameters ← all inner (parametersWithin read parameter true (inner.length + 1))
  return [.group .parenthesis parameters]

def functionType : Reader Tokens :=
  inOrder [maybeWord "unsafe", convention, word "fn", parameterGroup read (functionParameter read),
    result read false]

/-!
# Types in brackets
-/

/-- One type is in parentheses, and several are a tuple. -/
def parenthesized : Reader TypeTokens := do
  let first ← read (.type true)
  if ← sees (begins ",") then
    let others ← inOrder [sign ",", commaList (type read true)]
    return .other [.group .parenthesis (first.tokens ++ others)]
  else
    return { first with tokens := [.group .parenthesis first.tokens] }

/-- A trait in parentheses may be the first of several bounds. -/
def parenthesisType (plus : Bool) : Reader TypeTokens := do
  let inner ← group .parenthesis
  if inner.isEmpty then
    return .other [.group .parenthesis []]
  else if beginsWithLifetime inner then
    let bounds ← all inner (traits read ⟨false, false⟩ true)
    return .other [.group .parenthesis (boundListTokens bounds)]
  else if begins "?" inner then
    let bound ← all inner (traitBound read false)
    let wrapped := [Token.group .parenthesis bound.tokens]
    let further ← furtherBounds read
    return if further.isEmpty then ⟨wrapped, .bound bound.tokens⟩ else .other (wrapped ++ further)
  else
    let content ← all inner (parenthesized read)
    match content.form with
    | .other => return content
    | .path _ =>
        let further ← if plus then furtherBounds read else pure []
        return .other (content.tokens ++ further)
    | .bound unwrapped =>
        let further ← if plus then furtherBounds read else pure []
        return .other <|
          if further.isEmpty then content.tokens
          else .group .parenthesis unwrapped :: further

/-- An array has a length, and a slice has none. -/
def bracketType : Reader Tokens :=
  inside .bracket (inOrder [type read true,
    optional (begins ";") (inOrder [sign ";", expression read])])

/-!
# Paths and bounds
-/

def macroCall : Reader Tokens :=
  inOrder [sign "!", anyGroup]

/-- An exclamation mark that is no comparison. -/
def beginsMacroCall (tokens : Tokens) : Bool :=
  begins "!" tokens && !begins "!=" tokens

/-- The bounds after a plus sign; the last sign may stand at the end. -/
def pathBounds : Reader (List (Entry Bound)) := do
  let _ ← sign "+"
  separated (!beginsBound ·) "+" (read (.bound ⟨false, false⟩))

/-- A path is a type by itself, or the first bound of an object. -/
def pathType (plus : Bool) (binder : Tokens) : Reader TypeTokens := do
  let path ← path read false
  if path.isQualified then
    return .other path.tokens
  else if path.isPlain && beginsMacroCall (← get) then
    return .other (path.tokens ++ (← macroCall))
  else
    let tokens := binder ++ path.tokens
    if plus && begins "+" (← get) then
      return .ofBounds (⟨⟨tokens, tokens, true⟩, true⟩ :: (← pathBounds read))
    else if binder.isEmpty then
      return ⟨tokens, .path path.isSingle⟩
    else
      return ⟨tokens, .bound tokens⟩

/-- An object whose bounds a keyword begins. -/
def dynamicType (plus : Bool) : Reader Tokens := do
  let before ← get
  let first ← anyWord
  let star ← maybeSign "*"
  let bounds ← traits read ⟨false, false⟩ plus
  if star.isEmpty then return first ++ boundListTokens bounds
  else return takenBetween before (← get)

def anonymousType (plus : Bool) : Reader Tokens := do
  let first ← anyWord
  let bounds ← traits read ⟨true, true⟩ plus
  return first ++ boundListTokens bounds

/-- What the language has built in. -/
def builtIn : Reader Tokens :=
  verbatim (inOrder [word "builtin", sign "#", nameToken, closedGroup .parenthesis])

def beginsBuiltIn (tokens : Tokens) : Bool :=
  beginsWithWord "builtin" tokens && begins "#" (tokens.drop 1)

/-!
# All types
-/

def beginsFunctionType : Tokens → Bool :=
  beginsWithOneOf ["fn", "unsafe", "extern"]

def beginsPath (tokens : Tokens) : Bool :=
  beginsPathName tokens || begins "::" tokens || begins "<" tokens

/-- The types that are no paths. -/
def typeWithoutPath (plus : Bool) : Reader TypeTokens := do
  let tokens ← get
  if beginsWithGroup .parenthesis tokens then
    parenthesisType read plus
  else if beginsWithLifetime tokens then
    return .ofBounds (← traits read ⟨false, false⟩ true)
  else if beginsWithWord "dyn" tokens then
    return .other (← dynamicType read plus)
  else if beginsWithWord "impl" tokens then
    return .other (← anonymousType read plus)
  else if beginsWithGroup .bracket tokens then
    return .other (← bracketType read)
  else if begins "*" tokens then
    return .other (← inOrder [sign "*", oneOf ["const", "mut"], type read false])
  else if begins "&" tokens then
    return .other (← inOrder [sign "&", maybeLifetime, maybeWord "mut", type read false])
  else if begins "!" tokens then
    return .other (← sign "!")
  else
    return .other (← word "_")

def typeTokens (plus : Bool) : Reader TypeTokens := do
  let binder ← maybeBinder read
  let tokens ← get
  if beginsFunctionType tokens then
    return .other (binder ++ (← functionType read))
  else if beginsBuiltIn tokens && binder.isEmpty then
    return .other (← builtIn)
  else if beginsPath tokens && (binder.isEmpty || beginsPathName tokens) then
    pathType read plus binder
  else if binder.isEmpty then
    typeWithoutPath read plus
  else
    failure

end Reader

end Derive
end Rowsmith
