import Rowsmith.Derive.Grammar.Path

/-!
# Generic parameters and bounds

What a declaration is generic in, and what is asked of it.
-/

namespace Rowsmith
namespace Derive

/-!
# Generic parameters and constraints

Lifetimes, types and constants that a declaration is generic in, with bounds and defaults, and the
constraints on them after the keyword. A list of bounds may be empty and may end in a plus sign.
-/

namespace Reader

variable (read : PhraseReader)

/-!
## Parameters
-/

/-- A sign before bounds, which is dropped if no bounds follow. -/
def parameterBounds (stop : Tokens → Bool) (reader : Reader Tokens) : Reader Tokens := do
  let colon ← maybeSign ":"
  if colon.isEmpty then
    return []
  else
    let bounds ← plusList stop reader
    return if bounds.isEmpty then [] else colon ++ bounds

def endsBounds (tokens : Tokens) : Bool :=
  tokens.isEmpty || endsArgument tokens

def lifetimeParameter (attributes : List Attribute) : Reader Parameter := do
  let name ← lifetime
  let bounds ← parameterBounds endsBounds lifetime
  return ⟨true, attributes, name ++ bounds, [], name⟩

def defaultAfter (reader : Reader Tokens) : Reader Tokens :=
  optional (begins "=") (inOrder [sign "=", reader])

def constantParameter (attributes : List Attribute) : Reader Parameter := do
  let first ← word "const"
  let name ← nameToken
  let kind ← inOrder [sign ":", type read true]
  let fallback ← defaultAfter (constant read)
  return ⟨false, attributes, first ++ name ++ kind, fallback, name⟩

def typeParameter (attributes : List Attribute) : Reader Parameter := do
  let name ← nameToken
  let bounds ← parameterBounds (fun tokens => endsBounds tokens || begins "=" tokens)
    (boundTokens read ⟨true, false⟩)
  let fallback ← defaultAfter (type read true)
  return ⟨false, attributes, name ++ bounds, fallback, name⟩

def unnamedParameter (attributes : List Attribute) : Reader Parameter := do
  let name ← word "_"
  return ⟨false, attributes, name, [], name⟩

def parameter : Reader Parameter := do
  let attributes ← attributes read
  if ← sees beginsWithLifetime then lifetimeParameter attributes
  else if ← sees (beginsWithWord "const") then constantParameter read attributes
  else typeParameter read attributes

/-- An item may leave a parameter without a name. -/
def itemParameter : Reader Parameter := do
  let tokens ← get
  let attributes ← attributes read
  if ← sees (beginsWithWord "_") then
    unnamedParameter attributes
  else
    set tokens
    parameter read

def parameterList (reader : Reader Parameter) : Reader (List (Entry Parameter)) := do
  let _ ← sign "<"
  let list ← separated (begins ">") "," reader
  let _ ← sign ">"
  return list

def parameters : Reader (List (Entry Parameter)) := do
  if ← sees (begins "<") then parameterList (itemParameter read) else return []

/-- What a phrase is generic in by itself. These parameters keep their order. -/
def binder : Reader Tokens := do
  let first ← word "for"
  let list ← parameterList (parameter read)
  return first ++ signTokens ['<'] ++
    listTokens (list.map (Entry.map fun parameter => parameter.complete.tokens)) ++ signTokens ['>']

def maybeBinder : Reader Tokens :=
  optional (beginsWithWord "for") (binder read)

/-!
## Constraints
-/

def endsConstraint (tokens : Tokens) : Bool :=
  tokens.isEmpty || beginsWithGroup .brace tokens || beginsWithColon tokens ||
    beginsWithOneOfSigns [",", ";", "="] tokens

def constraint : Reader Tokens := do
  if ← sees fun tokens => beginsWithLifetime tokens && begins ":" (tokens.drop 2) then
    inOrder [lifetime, sign ":", plusList endsConstraint lifetime]
  else
    inOrder [maybeBinder read, type read true, sign ":",
      plusList endsConstraint (boundTokens read ⟨true, false⟩)]

/-- The keyword is dropped if nothing follows it, and parameters must not follow it. -/
def constraints : Reader Tokens := do
  if ← sees (beginsWithWord "where") then
    let first ← anyWord
    if ← sees beginsParameters then
      failure
    else
      let list ← separated endsConstraint "," (constraint read)
      return if list.isEmpty then [] else first ++ listTokens list
  else
    return []

end Reader

/-!
# Bounds

A bound is a lifetime, a list of what is captured, or a trait, perhaps in parentheses. A trait may
have the arguments of a function in parentheses after its last name.
-/

/-- Whether another bound can follow a plus sign at all. -/
def beginsBound (tokens : Tokens) : Bool :=
  beginsWithIdentifier tokens || beginsWithOneOfSigns ["::", "?"] tokens ||
    beginsWithLifetime tokens || beginsWithGroup .parenthesis tokens

/-- Parentheses with the arguments of a function trait, perhaps after a separator. -/
def beginsCall (tokens : Tokens) : Bool :=
  beginsWithGroup .parenthesis tokens ||
    (begins "::" tokens && beginsWithGroup .parenthesis (tokens.drop 2))

namespace Reader

variable (read : PhraseReader)

/-- The type that a function gives. -/
def result (plus : Bool) : Reader Tokens :=
  optional (begins "->") (inOrder [sign "->", type read plus])

/-- A path to a trait. The arguments of a function take the place of empty brackets, and a separator
before them is dropped. -/
def traitPath : Reader Tokens := do
  let path ← simplePath read false
  if path.isBare && beginsCall (← get) then
    let _ ← maybeSign "::"
    let arguments ← inside .parenthesis (commaList (type read true))
    return path.trunk ++ arguments ++ (← result read false)
  else
    return path.tokens

/-- The mark of a trait that holds for constants, perhaps only if another one does. -/
def constantMark : Reader Tokens := do
  if ← sees (beginsWithGroup .bracket) then inside .bracket (word "const") else maybeWord "const"

/-- A trait, whose polarity may be turned if it is generic in nothing by itself. -/
def traitBound (constants : Bool) : Reader Bound := do
  let before ← get
  let binder ← maybeBinder read
  let mark ← constantMark
  let polarity ← maybeSign "?"
  let path ← traitPath read
  let after ← get
  let tokens :=
    if mark.isEmpty then polarity ++ binder ++ path else takenBetween before after
  if (!mark.isEmpty && !constants) || (!polarity.isEmpty && !binder.isEmpty) then
    failure
  else
    return ⟨tokens, tokens, true⟩

def wrappedBound (constants : Bool) : Reader Bound := do
  let inner ← group .parenthesis
  let bound ← all inner (traitBound read constants)
  return { bound with tokens := [.group .parenthesis bound.tokens] }

/-- What a type captures: lifetimes, and types and constants by name. -/
def captured : Reader Argument := do
  if ← sees beginsWithLifetime then return ⟨true, ← lifetime⟩
  else if ← sees (beginsWithWord "Self") then return ⟨false, ← anyWord⟩
  else return ⟨false, ← nameToken⟩

def captures : Reader Tokens := do
  let first ← word "use"
  let _ ← sign "<"
  let list ← separated (begins ">") "," captured
  let _ ← sign ">"
  return first ++ angleTokens list

def bound (rules : BoundRules) : Reader Bound := do
  if ← sees beginsWithLifetime then
    let tokens ← lifetime
    return ⟨tokens, tokens, false⟩
  else if ← sees (beginsWithWord "use") then
    let tokens ← captures
    if rules.captures then return ⟨tokens, tokens, false⟩ else failure
  else if ← sees (beginsWithGroup .parenthesis) then
    wrappedBound read rules.constants
  else
    traitBound read rules.constants

/-!
## Several bounds
-/

/-- Bounds with plus signs between them. The last sign may stand at the end. -/
def boundList (rules : BoundRules) (plus : Bool) : Reader (List (Entry Bound)) := do
  let first ← read (.bound rules)
  if plus && begins "+" (← get) then
    let _ ← sign "+"
    let continues := fun tokens => beginsBound tokens ||
      (rules.constants && (beginsWithGroup .bracket tokens || beginsWithWord "const" tokens))
    let others ← separated (!continues ·) "+" (read (.bound rules))
    return ⟨first, true⟩ :: others
  else
    return [⟨first, false⟩]

def boundListTokens (bounds : List (Entry Bound)) : Tokens :=
  bounds.flatMap fun entry => (entry.map Bound.tokens).tokens (signTokens ['+'])

/-- The bounds of an object, among which is at least one trait. -/
def traits (rules : BoundRules) (plus : Bool) : Reader (List (Entry Bound)) := do
  let bounds ← boundList read rules plus
  if bounds.any (·.value.isTrait) then return bounds else failure

/-- The bounds after plus signs, where a sign must have one. -/
def furtherBounds : Reader Tokens := do
  let further ← many (begins "+")
    (inOrder [sign "+", boundTokens read ⟨false, false⟩])
  return further.flatten

end Reader

end Derive
end Rowsmith
