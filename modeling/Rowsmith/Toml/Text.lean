import Rowsmith.Text.Quoted

/-!
# Texts in TOML

A text stands in double quotes, with escapes, or in single quotes, as it is. Three quotes begin a
text of several lines: a line break right after them does not count, and up to two quotes may
stand before the closing three. A backslash at the end of a line skips all blanks and line breaks
up to the next character.

A reader takes the characters after the opening quotes and gives the text and what follows it.
-/

namespace Rowsmith
namespace Toml

open Text

abbrev Characters := List Char

def isSpace (c : Char) : Bool :=
  c = ' ' || c = '\t'

def isGap (c : Char) : Bool :=
  isSpace c || c = '\n' || c = '\r'

/-- Control characters other than a tab have no place outside escapes. -/
def isControl (c : Char) : Bool :=
  (c.val < 0x20 && c != '\t') || c.val = 0x7F

/-- A carriage return is only ever the first half of a line break. -/
def returnsPaired : Characters → Bool
  | [] => true
  | [c] => c != '\r'
  | c :: next :: rest => (c != '\r' || next = '\n') && returnsPaired (next :: rest)

/-!
# Closing quotes
-/

/-- In a text of several lines, the quotes at the front when they close it: those that still
belong to the text, and what follows. -/
def closing? (quote : Char) (cs : Characters) : Option (Characters × Characters) :=
  let count := (cs.takeWhile (· = quote)).length
  if count < 3 then none
  else
    let kept := min (count - 3) 2
    some (cs.take kept, cs.drop (kept + 3))

def afterLineBreak : Characters → Characters
  | '\r' :: '\n' :: rest => rest
  | '\n' :: rest => rest
  | cs => cs

/-!
# Texts as they are
-/

def readLiteral : Characters → Option (Characters × Characters)
  | [] => none
  | c :: rest =>
      if c = '\'' then some ([], rest)
      else if isControl c then none
      else (readLiteral rest).map fun (text, after) => (c :: text, after)

def readLongLiteral : Characters → Option (Characters × Characters)
  | [] => none
  | c :: rest =>
      match closing? '\'' (c :: rest) with
      | some ending => some ending
      | none =>
          if isControl c && !isGap c then none
          else (readLongLiteral rest).map fun (text, after) => (c :: text, after)

/-!
# Texts with escapes
-/

def shortEscape : Char → Option Char
  | 'b' => some '\x08'
  | 't' => some '\t'
  | 'n' => some '\n'
  | 'f' => some '\x0c'
  | 'r' => some '\r'
  | 'e' => some '\x1b'
  | '"' => some '"'
  | '\\' => some '\\'
  | _ => none

/-- How many hexadecimal digits follow the letter of an escape. -/
def codeLength : Char → Option Nat
  | 'x' => some 2
  | 'u' => some 4
  | 'U' => some 8
  | _ => none

/-- What the reader is in the middle of: nothing, an escape, a code point with digits owed, or the
blanks after a backslash at the end of a line, where a line break is still owed at first. -/
inductive TextState where
  | plain
  | escape
  | code (owed value : Nat)
  | skip (lineBreak : Bool)
  deriving DecidableEq, Repr

/-- A skip goes on while blanks follow, and must have met a line break when it ends. -/
def TextState.afterSkip (lineBreak : Bool) (rest : Characters) : Option TextState :=
  match rest with
  | [] => none
  | next :: _ =>
      if isGap next then some (.skip lineBreak) else if lineBreak then some .plain else none

/-- The last argument tells whether the text may have several lines. -/
def readEscaped (long : Bool) : TextState → Characters → Option (Characters × Characters)
  | _, [] => none
  | .plain, c :: rest =>
      match if long then closing? '"' (c :: rest) else none with
      | some ending => some ending
      | none =>
          if c = '"' ∧ !long then some ([], rest)
          else if c = '\\' then readEscaped long .escape rest
          else if isControl c && !(long && isGap c) then none
          else (readEscaped long .plain rest).map fun (text, after) => (c :: text, after)
  | .escape, c :: rest =>
      match shortEscape c, codeLength c with
      | some d, _ => (readEscaped long .plain rest).map fun (text, after) => (d :: text, after)
      | none, some owed => readEscaped long (.code owed 0) rest
      | none, none =>
          if long && isGap c then
            match TextState.afterSkip (c = '\n') rest with
            | some state => readEscaped long state rest
            | none => none
          else
            none
  | .code owed value, c :: rest =>
      match hexValue c with
      | none => none
      | some digit =>
          let value := 16 * value + digit
          if 1 < owed then readEscaped long (.code (owed - 1) value) rest
          else
            match charOfCode value with
            | some d => (readEscaped long .plain rest).map fun (text, after) => (d :: text, after)
            | none => none
  | .skip lineBreak, c :: rest =>
      match TextState.afterSkip (lineBreak || c = '\n') rest with
      | some state => readEscaped long state rest
      | none => none

/-!
# Any text
-/

/-- A text on one line, with its opening quote. -/
def readShortText : Characters → Option (Characters × Characters)
  | '"' :: rest => readEscaped false .plain rest
  | '\'' :: rest => readLiteral rest
  | _ => none

def beginsText (cs : Characters) : Bool :=
  cs.head? = some '"' || cs.head? = some '\''

def readText : Characters → Option (Characters × Characters)
  | '"' :: '"' :: '"' :: rest => readEscaped true .plain (afterLineBreak rest)
  | '\'' :: '\'' :: '\'' :: rest => readLongLiteral (afterLineBreak rest)
  | cs => readShortText cs

end Toml
end Rowsmith
