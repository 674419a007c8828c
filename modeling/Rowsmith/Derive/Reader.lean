import Rowsmith.Derive.Item

/-!
# Reading tokens

A reader takes tokens from the front of a list and gives a value, or fails. Most readers give the
tokens they have taken, spaced anew: the marks of one sign are joined, and no others are.
-/

namespace Rowsmith
namespace Derive

abbrev Reader := StateT Tokens Option

/-- The keywords, which are no names unless they are raw. -/
def reserved : List String :=
  ["_", "abstract", "as", "async", "await", "become", "box", "break", "const", "continue", "crate",
    "do", "dyn", "else", "enum", "extern", "false", "final", "fn", "for", "if", "impl", "in", "let",
    "loop", "macro", "match", "mod", "move", "mut", "override", "priv", "pub", "ref", "return",
    "Self", "self", "static", "struct", "super", "trait", "true", "try", "type", "typeof", "unsafe",
    "unsized", "use", "virtual", "where", "while", "yield"]

def isName (name : Identifier) : Bool :=
  name.raw || !reserved.contains name.word

/-!
# Looking ahead
-/

def beginsWithMarks : List Char → Tokens → Bool
  | [], _ => true
  | [mark], .punctuation c _ :: _ => c = mark
  | mark :: more, .punctuation c joint :: rest => c = mark && joint && beginsWithMarks more rest
  | _ :: _, _ => false

/-- Whether a sign stands at the front, perhaps as the beginning of a longer one. -/
def begins (sign : String) (tokens : Tokens) : Bool :=
  beginsWithMarks sign.toList tokens

def beginsWithOneOfSigns (signs : List String) (tokens : Tokens) : Bool :=
  signs.any (begins · tokens)

def beginsWithColon (tokens : Tokens) : Bool :=
  begins ":" tokens && !begins "::" tokens

/-- A dot that does not begin a range. -/
def beginsWithDot (tokens : Tokens) : Bool :=
  begins "." tokens && !begins ".." tokens

def beginsWithWord (word : String) : Tokens → Bool
  | .identifier name :: _ => !name.raw && name.word = word
  | _ => false

def beginsWithOneOf (words : List String) (tokens : Tokens) : Bool :=
  words.any (beginsWithWord · tokens)

def beginsWithName : Tokens → Bool
  | .identifier name :: _ => isName name
  | _ => false

def beginsWithIdentifier : Tokens → Bool
  | .identifier _ :: _ => true
  | _ => false

def beginsWithLifetime : Tokens → Bool
  | .punctuation '\'' true :: .identifier _ :: _ => true
  | _ => false

def beginsWithGroup (delimiter : Delimiter) : Tokens → Bool
  | token :: _ => token.isGroup delimiter
  | [] => false

/-- A number may be negative, and the truth values are literals too. -/
def beginsWithLiteral : Tokens → Bool
  | .literal _ _ :: _ => true
  | .punctuation '-' _ :: .literal _ kind :: _ => kind.isNumber
  | tokens => beginsWithOneOf ["true", "false"] tokens

def beginsWithText : Tokens → Bool
  | .literal _ (.text _) :: _ => true
  | _ => false

namespace Reader

/-- Whether the tokens ahead are of some kind. -/
def sees (kind : Tokens → Bool) : Reader Bool := do
  return kind (← get)

/-!
# Taking
-/

def sign (text : String) : Reader Tokens := do
  let tokens ← get
  if begins text tokens then
    set (tokens.drop text.length)
    return signTokens text.toList
  else
    failure

def identifier : Reader Identifier := do
  match ← get with
  | .identifier name :: rest =>
      set rest
      return name
  | _ => failure

def name : Reader Identifier := do
  let name ← identifier
  if isName name then return name else failure

def anyWord : Reader Tokens := do
  return [.identifier (← identifier)]

def nameToken : Reader Tokens := do
  return [.identifier (← name)]

def oneOf (words : List String) : Reader Tokens := do
  if ← sees (beginsWithOneOf words) then anyWord else failure

def word (text : String) : Reader Tokens :=
  oneOf [text]

def lifetime : Reader Tokens := do
  match ← get with
  | .punctuation '\'' true :: .identifier name :: rest =>
      set rest
      return [.punctuation '\'' true, .identifier name]
  | _ => failure

def literal : Reader Tokens := do
  match ← get with
  | .literal spelling kind :: rest =>
      set rest
      return [.literal spelling kind]
  | .punctuation '-' _ :: .literal spelling kind :: rest =>
      if kind.isNumber then
        set rest
        return signTokens ['-'] ++ [.literal spelling kind]
      else
        failure
  | _ => oneOf ["true", "false"]

/-- The tokens inside a group. -/
def group (delimiter : Delimiter) : Reader Tokens := do
  match ← get with
  | .group d tokens :: rest =>
      if d = delimiter then
        set rest
        return tokens
      else
        failure
  | _ => failure

/-- A group that is not looked into. -/
def closedGroup (delimiter : Delimiter) : Reader Tokens := do
  return [.group delimiter (← group delimiter)]

def anyGroup : Reader Tokens := do
  if ← sees (beginsWithGroup .parenthesis) then closedGroup .parenthesis
  else if ← sees (beginsWithGroup .bracket) then closedGroup .bracket
  else closedGroup .brace

/-!
# Putting readers together
-/

def inOrder (readers : List (Reader Tokens)) : Reader Tokens := do
  return (← readers.mapM id).flatten

/-- Nothing is taken where the tokens ahead are of another kind. -/
def optional (kind : Tokens → Bool) (reader : Reader Tokens) : Reader Tokens := do
  if ← sees kind then reader else return []

def maybeSign (text : String) : Reader Tokens :=
  optional (begins text) (sign text)

def maybeWord (text : String) : Reader Tokens :=
  optional (beginsWithWord text) (word text)

def maybeLifetime : Reader Tokens :=
  optional beginsWithLifetime lifetime

/-- A reader that has to take all of a list of tokens. -/
def all (tokens : Tokens) (reader : Reader α) : Reader α := do
  match reader.run tokens with
  | some (a, []) => return a
  | _ => failure

/-- A group, all of whose tokens the reader has to take. -/
def inside (delimiter : Delimiter) (reader : Reader Tokens) : Reader Tokens := do
  let inner ← group delimiter
  let content ← all inner reader
  return [.group delimiter content]

/-- The tokens between two positions, spaced as they were. -/
def takenBetween (before after : Tokens) : Tokens :=
  before.take (before.length - after.length)

def verbatim (reader : Reader α) : Reader Tokens := do
  let before ← get
  let _ ← reader
  return takenBetween before (← get)

/-!
# Repeating

Every round takes a token, so that no more rounds are needed than there are tokens.
-/

def manyWithin (more : Tokens → Bool) (reader : Reader α) : Nat → Reader (List α)
  | 0 => failure
  | bound + 1 => do
      if ← sees more then
        let a ← reader
        let others ← manyWithin more reader bound
        return a :: others
      else
        return []

/-- As many as there are. -/
def many (more : Tokens → Bool) (reader : Reader α) : Reader (List α) := do
  manyWithin more reader ((← get).length + 1)

def separatedWithin (stop : Tokens → Bool) (between : String) (reader : Reader α) :
    Nat → Reader (List (Entry α))
  | 0 => failure
  | bound + 1 => do
      if ← sees stop then
        return []
      else
        let a ← reader
        if ← sees (begins between) then
          let _ ← sign between
          let others ← separatedWithin stop between reader bound
          return ⟨a, true⟩ :: others
        else
          return [⟨a, false⟩]

/-- Things with a sign between them, up to one that no sign follows or to tokens at which to
stop. -/
def separated (stop : Tokens → Bool) (between : String) (reader : Reader α) :
    Reader (List (Entry α)) := do
  separatedWithin stop between reader ((← get).length + 1)

/-- Things with commas between them, up to the end. -/
def commaList (reader : Reader Tokens) : Reader Tokens := do
  return listTokens (← separated List.isEmpty "," reader)

def plusList (stop : Tokens → Bool) (reader : Reader Tokens) : Reader Tokens := do
  return (← separated stop "+" reader).flatMap (Entry.tokens (signTokens ['+']))

end Reader

end Derive
end Rowsmith
