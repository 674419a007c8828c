import Rowsmith.Derive.Item
import Rowsmith.Model.Identifier
import Rowsmith.Text.Basic
import Rowsmith.Text.IdentifierChars
import Rowsmith.Text.Quoted

/-!
# The lexer

The readers of comments, words and literals, and the steps of the lexer that uses them.
-/

namespace Rowsmith
namespace Derive

/-!
# Comments

A comment runs to the end of its line, or from one mark to another, and of the latter kind one may
contain others. A documentation comment is kept: it opens with a third mark of its kind and not
with a fourth one, or with an exclamation mark if it is about what contains it.
-/

abbrev Characters := List Char

/-- A line ends with a line feed, perhaps after a carriage return, or with the text. -/
def untilLineEnd (cs : Characters) : Characters × Characters :=
  let text := cs.takeWhile (· != '\n')
  let after := cs.dropWhile (· != '\n')
  (if text.getLast? = some '\r' && !after.isEmpty then text.dropLast else text, after)

/-- The text of a block comment after its opening and what follows it. Comments may be nested; the
first argument is the depth. -/
def blockComment : Nat → Characters → Option (Characters × Characters)
  | _, [] => none
  | _, [_] => none
  | depth, '/' :: '*' :: rest =>
      (blockComment (depth + 1) rest).map fun (text, after) => ('/' :: '*' :: text, after)
  | 0, '*' :: '/' :: rest => some ([], rest)
  | depth + 1, '*' :: '/' :: rest =>
      (blockComment depth rest).map fun (text, after) => ('*' :: '/' :: text, after)
  | depth, c :: next :: rest =>
      (blockComment depth (next :: rest)).map fun (text, after) => (c :: text, after)

inductive Comment where
  | plain
  | documentation (inner : Bool) (text : Characters)

/-- The comment at the front, if there is one, and what follows it. -/
def comment? : Characters → Option (Comment × Characters)
  | '/' :: '/' :: '!' :: rest =>
      let (text, after) := untilLineEnd rest
      some (.documentation true text, after)
  | '/' :: '/' :: '/' :: '/' :: rest => some (.plain, (untilLineEnd rest).2)
  | '/' :: '/' :: '/' :: rest =>
      let (text, after) := untilLineEnd rest
      some (.documentation false text, after)
  | '/' :: '/' :: rest => some (.plain, (untilLineEnd rest).2)
  | '/' :: '*' :: '*' :: '/' :: rest => some (.plain, rest)
  | '/' :: '*' :: '*' :: '*' :: rest =>
      (blockComment 0 ('*' :: '*' :: rest)).map fun (_, after) => (.plain, after)
  | '/' :: '*' :: '*' :: rest =>
      (blockComment 0 rest).map fun (text, after) => (.documentation false text, after)
  | '/' :: '*' :: '!' :: rest =>
      (blockComment 0 rest).map fun (text, after) => (.documentation true text, after)
  | '/' :: '*' :: rest => (blockComment 0 rest).map fun (_, after) => (.plain, after)
  | _ => none

/-- Whether carriage returns stand at the ends of lines only. -/
def returnsAtLineEnds : Characters → Bool
  | '\r' :: '\n' :: rest => returnsAtLineEnds rest
  | '\r' :: _ => false
  | _ :: rest => returnsAtLineEnds rest
  | [] => true

open Text

/-!
# Words

A word is a run of identifier characters, raw if a mark stands before it. What looks like the
opening of a literal is no word, even if the literal is broken.
-/

def identifier? (cs : Characters) : Option (Characters × Characters) :=
  match cs with
  | c :: _ =>
      if isIdentifierStart c then
        some (cs.takeWhile isIdentifierPart, cs.dropWhile isIdentifierPart)
      else
        none
  | [] => none

/-- The words that have no raw form. -/
def neverRaw : List String := ["_", "super", "self", "Self", "crate"]

def beginsRaw : Characters → Bool
  | 'r' :: '#' :: _ => true
  | _ => false

/-- A word, whatever else it looks like. -/
def anyWord? (cs : Characters) : Option (Identifier × Characters) :=
  if beginsRaw cs then do
    let (word, after) ← identifier? (cs.drop 2)
    let word := String.ofList word
    if neverRaw.contains word then none else return (⟨word, true⟩, after)
  else
    (identifier? cs).map fun (word, after) => (⟨String.ofList word, false⟩, after)

def literalOpenings : List String :=
  ["r\"", "r#\"", "r##", "b\"", "b'", "br\"", "br#", "c\"", "cr\"", "cr#"]

def word? (cs : Characters) : Option (Identifier × Characters) :=
  if literalOpenings.any (·.toList.isPrefixOf cs) then none else anyWord? cs

/-!
# Literals

Texts, sequences of octets, texts that a zero ends, characters, octets and numbers. A word that
follows a literal at once is its suffix. A reader here gives what the literal is and what comes
after it.
-/

def dropSuffix (cs : Characters) : Characters :=
  match identifier? cs with
  | some (_, rest) => rest
  | none => cs

/-!
## Quoted literals
-/

/-- The characters up to the closing quote. The first argument tells whether a backslash came just
before. -/
def escapedText : Bool → Characters → Option (Characters × Characters)
  | _, [] => none
  | true, c :: rest => (escapedText false rest).map fun (text, after) => (c :: text, after)
  | false, c :: rest =>
      if c = '"' then some ([], rest)
      else (escapedText (c = '\\') rest).map fun (text, after) => (c :: text, after)

/-- The characters up to a quote that the given count of number signs follows. -/
def rawText (signs : Nat) : Characters → Option (Characters × Characters)
  | [] => none
  | c :: rest =>
      if c = '"' ∧ (List.replicate signs '#').isPrefixOf rest then some ([], rest.drop signs)
      else (rawText signs rest).map fun (text, after) => (c :: text, after)

/-- A line break in a text is one character, however it is spelled. -/
def singleLineBreaks : Characters → Characters
  | '\r' :: '\n' :: rest => '\n' :: singleLineBreaks rest
  | c :: rest => c :: singleLineBreaks rest
  | [] => []

/-- More number signs cannot stand around a raw text. -/
def signLimit : Nat := 255

/-- What stands between quotes, read after the opening quote. -/
def escapedContent? (rules : EscapeRules) (cs : Characters) : Option (Characters × Characters) := do
  let (content, after) ← escapedText false cs
  if returnsAtLineEnds content then
    let text ← unescapeFrom rules .plain (singleLineBreaks content)
    return (text, dropSuffix after)
  else
    none

/-- What stands between quotes with number signs around them, read from the first sign. -/
def rawContent? (rules : EscapeRules) (cs : Characters) : Option (Characters × Characters) := do
  let signs := (cs.takeWhile (· = '#')).length
  match cs.drop signs with
  | '"' :: rest =>
      let (text, after) ← rawText signs rest
      if signs ≤ signLimit ∧ returnsAtLineEnds text ∧ text.all rules.plain then
        return (text, dropSuffix after)
      else
        none
  | _ => none

def textLiteral? : Characters → Option (LiteralKind × Characters)
  | '"' :: rest =>
      (escapedContent? textEscapes rest).map fun (text, after) =>
        (.text (String.ofList text), after)
  | 'r' :: rest =>
      (rawContent? textEscapes rest).map fun (text, after) => (.text (String.ofList text), after)
  | _ => none

/-- Octets and texts with a zero at the end have no text as their value. -/
def octetLiteral? : Characters → Option (LiteralKind × Characters)
  | 'b' :: '"' :: rest =>
      (escapedContent? octetEscapes rest).map fun (_, after) => (.other, after)
  | 'b' :: 'r' :: rest => (rawContent? octetEscapes rest).map fun (_, after) => (.other, after)
  | 'c' :: '"' :: rest =>
      (escapedContent? terminatedEscapes rest).map fun (_, after) => (.other, after)
  | 'c' :: 'r' :: rest =>
      (rawContent? terminatedEscapes rest).map fun (_, after) => (.other, after)
  | _ => none

/-- What follows a character, or an escape for one, and the quote that closes it. -/
def characterEnd? (rules : EscapeRules) : Characters → Option Characters
  | '\\' :: c :: rest =>
      let code := rest.takeWhile (· != '\'')
      match rest.dropWhile (· != '\''), unescapeFrom rules .plain ('\\' :: c :: code) with
      | _ :: after, some [_] => if c = '\n' ∨ c = '\r' then none else some (dropSuffix after)
      | _, _ => none
  | c :: '\'' :: after => if rules.plain c then some (dropSuffix after) else none
  | _ => none

def characterLiteral? : Characters → Option (LiteralKind × Characters)
  | '\'' :: rest => (characterEnd? textEscapes rest).map (.other, ·)
  | 'b' :: '\'' :: rest => (characterEnd? octetEscapes rest).map (.other, ·)
  | _ => none

/-!
## Numbers
-/

def isDigitOrGap (c : Char) : Bool :=
  isDigit c || c = '_'

/-- What follows a suffix, which must end the word it stands in. -/
def suffixEnd? (cs : Characters) : Option Characters :=
  match dropSuffix cs with
  | c :: rest => if isIdentifierPart c then none else some (c :: rest)
  | [] => some []

/-- What follows an exponent after its letter. -/
def exponentEnd? (cs : Characters) : Option Characters :=
  let cs := cs.dropWhile (· = '_')
  let cs :=
    match cs with
    | '+' :: rest | '-' :: rest => rest
    | cs => cs
  if (cs.takeWhile isDigitOrGap).any isDigit then some (cs.dropWhile isDigitOrGap) else none

def isExponentLetter (c : Char) : Bool :=
  c = 'e' || c = 'E'

/-- What follows the digits of a number with a dot or an exponent. A dot that begins a range or a
call is no part of a number, and what comes after a second dot is none either. -/
def fractionDigitsEnd? (cs : Characters) : Option Characters :=
  match cs.dropWhile isDigitOrGap with
  | '.' :: rest =>
      if rest.head?.any fun c => c = '.' || isIdentifierStart c then
        none
      else
        match rest.dropWhile isDigitOrGap with
        | c :: after =>
            if isExponentLetter c then some ((exponentEnd? after).getD (c :: after))
            else some (c :: after)
        | [] => some []
  | c :: rest => if isExponentLetter c then exponentEnd? rest else none
  | [] => none

/-- The base of a whole number and its digits with all that follows. -/
def wholeBase : Characters → Nat × Characters
  | '0' :: 'x' :: rest => (16, rest)
  | '0' :: 'o' :: rest => (8, rest)
  | '0' :: 'b' :: rest => (2, rest)
  | cs => (10, cs)

/-- A decimal digit belongs to a number even where it is too great for the base. -/
def belongsToWhole (base : Nat) (c : Char) : Bool :=
  isDigitOrGap c || (hexValue c).any (· < base)

/-- A whole number, with its value unless it has a suffix. -/
def wholeNumber? (cs : Characters) : Option (Option Nat × Characters) := do
  let (base, digits) := wholeBase cs
  let after := digits.dropWhile (belongsToWhole base)
  let value ← natural? base ((digits.takeWhile (belongsToWhole base)).filter (· != '_'))
  let rest ← suffixEnd? after
  return (if rest.length = after.length then some value else none, rest)

def numberLiteral? (cs : Characters) : Option (LiteralKind × Characters) :=
  if cs.head?.any isDigit then
    match (fractionDigitsEnd? cs).bind suffixEnd? with
    | some after => some (.fraction, after)
    | none => (wholeNumber? cs).map fun (value, after) => (.whole value, after)
  else
    none

/-!
## All literals
-/

def literalKind? (cs : Characters) : Option (LiteralKind × Characters) :=
  (textLiteral? cs).or ((octetLiteral? cs).or ((characterLiteral? cs).or (numberLiteral? cs)))

def literal? (cs : Characters) : Option (Token × Characters) :=
  (literalKind? cs).map fun (kind, after) =>
    (.literal (String.ofList (cs.take (cs.length - after.length))) kind, after)

/-!
# From source text to tokens

Blanks and comments go, but a documentation comment becomes an attribute. A quote begins a
character if one more follows in the right place, and a lifetime otherwise.
-/

def isSourceBlank (c : Char) : Bool :=
  isBlank c || c = '\u200e' || c = '\u200f'

def documentation (inner : Bool) (text : Characters) : Tokens :=
  let content := String.ofList text
  let literal := Token.literal (quoteToken content) (.text content)
  signTokens ['#'] ++ (if inner then signTokens ['!'] else []) ++
    [.group .bracket (wordToken "doc" :: signTokens ['='] ++ [literal])]

/-!
## Punctuation
-/

def isMark (c : Char) : Bool :=
  "~!@#$%^&*-=+|;:,<.>/?'".toList.contains c

def startsWithMark : Characters → Bool
  | '/' :: '/' :: _ | '/' :: '*' :: _ => false
  | c :: _ => isMark c
  | [] => false

/-- A quote must begin a lifetime here. -/
def mark? : Characters → Option (Token × Characters)
  | '\'' :: rest =>
      match anyWord? rest with
      | some (_, after) =>
          if after.head? = some '\'' || (after.head? = some '#' && !beginsRaw rest) then none
          else some (.punctuation '\'' true, rest)
      | none => none
  | c :: rest =>
      if startsWithMark (c :: rest) then some (.punctuation c (startsWithMark rest), rest) else none
  | [] => none

/-!
## Tokens
-/

/-- An empty group with this comment in it stands for a literal that cannot be written. -/
def unwritable : String := "(/*ERROR*/)"

def unwritable? (cs : Characters) : Option (Token × Characters) :=
  if unwritable.toList.isPrefixOf cs then
    some (.literal unwritable .other, cs.drop unwritable.length)
  else
    none

def wordToken? (cs : Characters) : Option (Token × Characters) :=
  (word? cs).map fun (name, rest) => (.identifier name, rest)

/-- The token at the front, unless it is a group, and what follows it. -/
def token? (cs : Characters) : Option (Token × Characters) :=
  (literal? cs).or ((mark? cs).or ((wordToken? cs).or (unwritable? cs)))

/-!
## Groups
-/

def opening? (c : Char) : Option Delimiter :=
  [Delimiter.parenthesis, .bracket, .brace].find? (·.opening = c)

def closing? (c : Char) : Option Delimiter :=
  [Delimiter.parenthesis, .bracket, .brace].find? (·.closing = c)

/-- A group being read: its delimiter and the tokens before it, last token first. -/
abbrev OpenGroup := Delimiter × Tokens

/-- The groups being read, the innermost first, and the tokens read in the innermost, last token
first. -/
structure LexState where
  groups : List OpenGroup := []
  tokens : Tokens := []

namespace LexState

def add (state : LexState) (tokens : Tokens) : LexState :=
  { state with tokens := tokens.reverse ++ state.tokens }

def openGroup (state : LexState) (delimiter : Delimiter) : LexState :=
  ⟨(delimiter, state.tokens) :: state.groups, []⟩

def closeGroup (state : LexState) (delimiter : Delimiter) : Option LexState :=
  match state.groups with
  | (opened, before) :: groups =>
      if opened = delimiter then
        some ⟨groups, .group delimiter state.tokens.reverse :: before⟩
      else
        none
  | [] => none

def finish (state : LexState) : Option Tokens :=
  if state.groups.isEmpty then some state.tokens.reverse else none

/-- The state after what stands at the front, and the characters after that. -/
def step (state : LexState) (cs : Characters) : Option (LexState × Characters) :=
  match comment? cs with
  | some (.plain, rest) => some (state, rest)
  | some (.documentation inner text, rest) =>
      if returnsAtLineEnds text then some (state.add (documentation inner text), rest) else none
  | none =>
      match cs with
      | [] => none
      | c :: rest =>
          if isSourceBlank c then some (state, rest)
          else
            match token? (c :: rest), opening? c, closing? c with
            | some (token, rest), _, _ => some (state.add [token], rest)
            | none, some delimiter, _ => some (state.openGroup delimiter, rest)
            | none, none, some delimiter =>
                (state.closeGroup delimiter).map fun state => (state, rest)
            | none, none, none => none

end LexState

/-- The first argument bounds the steps; each of them takes at least one character. -/
def lexFrom : Nat → LexState → Characters → Option Tokens
  | _, state, [] => state.finish
  | 0, _, _ :: _ => none
  | bound + 1, state, c :: rest => do
      let (state, rest) ← state.step (c :: rest)
      lexFrom bound state rest

def tokensOf (source : String) : Option Tokens :=
  let cs :=
    match source.toList with
    | '\ufeff' :: rest => rest
    | cs => cs
  lexFrom cs.length {} cs

end Derive
end Rowsmith
