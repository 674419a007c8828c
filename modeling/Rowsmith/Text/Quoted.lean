import Rowsmith.Text.Basic
import Rowsmith.Text.Unprintable

/-!
# Quoted texts

The spelling of a text as a string literal of source code: double quotes around it, a backslash
before the characters that would end or upset the literal, and the code point in braces for every
character that is not shown as it is.
-/

namespace Rowsmith
namespace Text

def hexDigits (n : Nat) : List Char :=
  Nat.toDigits 16 n

def codePointEscape (c : Char) : List Char :=
  ['\\', 'u', '\x7b'] ++ hexDigits c.toNat ++ ['\x7d']

def escapeChar (c : Char) : List Char :=
  match c with
  | '\x00' => ['\\', '0']
  | '\t' => ['\\', 't']
  | '\r' => ['\\', 'r']
  | '\n' => ['\\', 'n']
  | '\\' => ['\\', '\\']
  | '"' => ['\\', '"']
  | c => if isUnprintable c then codePointEscape c else [c]

def escape (cs : List Char) : List Char :=
  cs.flatMap escapeChar

def quote (s : String) : String :=
  String.ofList ('"' :: escape s.toList ++ ['"'])

/-!
# Quoting for a token of source code

In a token a NUL before an octal digit is written with two hexadecimal digits, since the short
spelling would read like an octal escape.
-/

def isOctalDigit (c : Char) : Bool :=
  '0' ≤ c && c ≤ '7'

def escapeToken : List Char → List Char
  | [] => []
  | '\x00' :: next :: rest =>
      (if isOctalDigit next then ['\\', 'x', '0', '0'] else ['\\', '0']) ++
        escapeToken (next :: rest)
  | c :: rest => escapeChar c ++ escapeToken rest

def quoteToken (s : String) : String :=
  String.ofList ('"' :: escapeToken s.toList ++ ['"'])

/-!
# Reading the text between the quotes

Escapes name a character by a letter, by two hexadecimal digits, or by one to six hexadecimal
digits in braces, underscores ignored. A backslash at the end of a line skips the line break and
the blanks that begin the following lines. What may stand between the quotes depends on what the
literal is for.
-/

structure EscapeRules where
  /-- Whether a character may stand for itself. -/
  plain : Char → Bool
  /-- Whether a letter or two digits may stand for this code. -/
  code : Nat → Bool
  /-- Whether braces may stand for this character. -/
  braces : Char → Bool

/-- In a text two digits go up to 7f. -/
def textEscapes : EscapeRules where
  plain _ := true
  code n := n < 0x80
  braces _ := true

/-- A sequence of octets is written in ASCII. -/
def octetEscapes : EscapeRules where
  plain c := c.val < 0x80
  code _ := true
  braces _ := false

/-- A text that a zero ends has none in it. -/
def terminatedEscapes : EscapeRules where
  plain c := c != '\x00'
  code n := n != 0
  braces c := c != '\x00'

/-- What the reader is in the middle of. -/
inductive EscapeState where
  | plain
  | backslash
  | byteHigh
  | byteLow (high : Nat)
  | brace
  | code (value digits : Nat)
  | lineBreak
  deriving DecidableEq, Repr

def charOfCode (n : Nat) : Option Char :=
  if h : n.isValidChar then some (Char.ofNatAux n h) else none

def shortEscape : Char → Option Char
  | 'n' => some '\n'
  | 'r' => some '\r'
  | 't' => some '\t'
  | '\\' => some '\\'
  | '0' => some '\x00'
  | '\'' => some '\''
  | '"' => some '"'
  | _ => none

def unescapeFrom (rules : EscapeRules) : EscapeState → List Char → Option (List Char)
  | .plain, [] => some []
  | .lineBreak, [] => some []
  | _, [] => none
  | .plain, c :: rest =>
      if c = '\\' then unescapeFrom rules .backslash rest
      else if c = '"' || !rules.plain c then none
      else (c :: ·) <$> unescapeFrom rules .plain rest
  | .lineBreak, c :: rest =>
      if c = ' ' ∨ c = '\t' ∨ c = '\n' ∨ c = '\r' then unescapeFrom rules .lineBreak rest
      else if c = '\\' then unescapeFrom rules .backslash rest
      else if c = '"' || !rules.plain c then none
      else (c :: ·) <$> unescapeFrom rules .plain rest
  | .backslash, c :: rest =>
      if c = 'x' then unescapeFrom rules .byteHigh rest
      else if c = 'u' then unescapeFrom rules .brace rest
      else if c = '\n' ∨ c = '\r' then unescapeFrom rules .lineBreak rest
      else
        match shortEscape c with
        | some d =>
            if rules.code d.toNat then (d :: ·) <$> unescapeFrom rules .plain rest else none
        | none => none
  | .byteHigh, c :: rest =>
      match hexValue c with
      | some high => unescapeFrom rules (.byteLow high) rest
      | none => none
  | .byteLow high, c :: rest =>
      match hexValue c with
      | some low =>
          if rules.code (16 * high + low) then
            (Char.ofNat (16 * high + low) :: ·) <$> unescapeFrom rules .plain rest
          else
            none
      | none => none
  | .brace, c :: rest =>
      if c = '\x7b' then unescapeFrom rules (.code 0 0) rest else none
  | .code value digits, c :: rest =>
      if c = '\x7d' then
        if digits = 0 then none
        else
          match charOfCode value with
          | some d =>
              if rules.braces d then (d :: ·) <$> unescapeFrom rules .plain rest else none
          | none => none
      else if c = '_' ∧ digits ≠ 0 then unescapeFrom rules (.code value digits) rest
      else
        match hexValue c with
        | some d =>
            if digits < 6 then unescapeFrom rules (.code (16 * value + d) (digits + 1)) rest
            else none
        | none => none

end Text
end Rowsmith
