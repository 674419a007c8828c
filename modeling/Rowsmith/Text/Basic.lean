/-!
# Texts

What the readers and the writers of texts have in common: lines and pieces, blank space, digits,
sets of characters, texts that are cut to a size, and octets.
-/

namespace Rowsmith
namespace Text

/-!
# Lines of text

A line ends with a line break, the last one too.
-/

def line (s : String) : String :=
  s ++ "\n"

def blankLine : String := line ""

def lines (ss : List String) : String :=
  String.join (ss.map line)

/-!
# Pieces between separators

A text with n separators has n + 1 pieces, any of which may be empty.
-/

/-- The second argument is the piece being read, last character first. -/
def piecesFrom (separator : Char) : List Char → List Char → List (List Char)
  | piece, [] => [piece.reverse]
  | piece, c :: rest =>
      if c = separator then piece.reverse :: piecesFrom separator [] rest
      else piecesFrom separator (c :: piece) rest

def pieces (separator : Char) (cs : List Char) : List (List Char) :=
  piecesFrom separator [] cs

/-!
# Blank space

The characters with the Unicode property White_Space, and the functions on texts that are stated
with them: trimming, splitting into words and the test for a text with nothing else in it.
-/

def isBlank (c : Char) : Bool :=
  (9 ≤ c.val && c.val ≤ 13) || c.val = 0x20 || c.val = 0x85 || c.val = 0xA0 || c.val = 0x1680 ||
    (0x2000 ≤ c.val && c.val ≤ 0x200A) || c.val = 0x2028 || c.val = 0x2029 || c.val = 0x202F ||
    c.val = 0x205F || c.val = 0x3000

/-!
## Trimming
-/

def trimStart (cs : List Char) : List Char :=
  cs.dropWhile isBlank

def trimEnd (cs : List Char) : List Char :=
  (cs.reverse.dropWhile isBlank).reverse

def trim (cs : List Char) : List Char :=
  trimEnd (trimStart cs)

def trimmed (s : String) : String :=
  String.ofList (trim s.toList)

def isBlankText (s : String) : Bool :=
  s.toList.all isBlank

/-!
## Words between blanks
-/

/-- The first argument is the word being read, last character first. -/
def wordsFrom : List Char → List Char → List (List Char)
  | [], [] => []
  | word, [] => [word.reverse]
  | word, c :: rest =>
      if isBlank c then
        if word.isEmpty then wordsFrom [] rest else word.reverse :: wordsFrom [] rest
      else
        wordsFrom (c :: word) rest

def blankWords (cs : List Char) : List (List Char) :=
  wordsFrom [] cs

/-- Every run of blanks becomes one plain space, and none is left at the ends. -/
def collapseBlanks (cs : List Char) : List Char :=
  [' '].intercalate (blankWords cs)

/-!
# Digits

Digits have values, and a text of digits is a natural number. An empty text is none.
-/

def isDigit (c : Char) : Bool :=
  '0' ≤ c && c ≤ '9'

def hexValue (c : Char) : Option Nat :=
  if '0' ≤ c ∧ c ≤ '9' then some (c.toNat - '0'.toNat)
  else if 'a' ≤ c ∧ c ≤ 'f' then some (c.toNat - 'a'.toNat + 10)
  else if 'A' ≤ c ∧ c ≤ 'F' then some (c.toNat - 'A'.toNat + 10)
  else none

/-- The value of a digit in a base up to sixteen. -/
def digitValue (base : Nat) (c : Char) : Option Nat :=
  (hexValue c).filter (· < base)

def natural? (base : Nat) (cs : List Char) : Option Nat :=
  if cs.isEmpty then none
  else cs.foldlM (fun n c => (digitValue base c).map (base * n + ·)) 0

/-!
# Sets of characters

A set is a list of runs of code points. A run is its first member, its last member and the step
between neighbours, and the runs stand in ascending order of their first members.
-/

abbrev CharSet := List (Nat × Nat × Nat)

/-- The search ends at the first run that begins after the code point. -/
def CharSet.holds : CharSet → Nat → Bool
  | [], _ => false
  | (first, last, step) :: rest, code =>
      if code < first then
        false
      else
        (code ≤ last && (code - first) % step == 0) || holds rest code

/-!
# Cutting a text to a budget of octets

A text that is too long for the budget is cut where a character ends. That place is found by going
back from the budget, octet by octet, until no character is cut in two.
-/

/-- The nearest place between two characters, at the offset or before it. -/
def boundaryBefore (s : String) : Nat → Nat
  | 0 => 0
  | offset + 1 =>
      if String.Pos.Raw.isValid s ⟨offset + 1⟩ then offset + 1 else boundaryBefore s offset

theorem isValid_boundaryBefore (s : String) (offset : Nat) :
    String.Pos.Raw.IsValid s ⟨boundaryBefore s offset⟩ := by
  induction offset with
  | zero => exact String.Pos.Raw.isValid_zero
  | succ offset ih =>
      rw [boundaryBefore]
      split
      · next h => exact String.Pos.Raw.isValid_eq_true_iff.mp h
      · exact ih

def cut (budget : Nat) (s : String) : String :=
  if s.utf8ByteSize ≤ budget then s
  else (s.sliceTo ⟨⟨boundaryBefore s budget⟩, isValid_boundaryBefore s budget⟩).copy

/-!
# UTF-8

A text as octets, and octets as a text. The reader takes one octet at a time and keeps what the
current character still owes; when octets do not make a text, its error says where the trouble
starts and how many octets the broken character has, or that the input ends inside one.
-/

abbrev Bytes := List UInt8

def utf8Encode (s : String) : Bytes :=
  s.toList.flatMap String.utf8EncodeChar

inductive Utf8Error where
  | invalid (start length : Nat)
  | incomplete (start : Nat)
  deriving DecidableEq, Repr

def Utf8Error.message : Utf8Error → String
  | .invalid start length =>
      "invalid utf-8 sequence of " ++ toString length ++ " bytes from index " ++ toString start
  | .incomplete start => "incomplete utf-8 byte sequence from index " ++ toString start

/-- A character begun but not complete: where it starts, the octets seen, the octets owed, the
code point so far, and the least and the greatest octet that may come next. -/
structure PendingChar where
  start : Nat
  seen : Nat
  owed : Nat
  code : Nat
  least : UInt8
  greatest : UInt8
  deriving DecidableEq, Repr

/-- A character begun by an octet that is not ASCII. The narrower ranges keep out overlong
spellings, surrogates and code points above the last one. -/
def PendingChar.begin? (start : Nat) (octet : UInt8) : Option PendingChar :=
  let b := octet.toNat
  if 0xC2 ≤ b ∧ b ≤ 0xDF then some ⟨start, 1, 1, b - 0xC0, 0x80, 0xBF⟩
  else if b = 0xE0 then some ⟨start, 1, 2, 0, 0xA0, 0xBF⟩
  else if b = 0xED then some ⟨start, 1, 2, b - 0xE0, 0x80, 0x9F⟩
  else if 0xE1 ≤ b ∧ b ≤ 0xEF then some ⟨start, 1, 2, b - 0xE0, 0x80, 0xBF⟩
  else if b = 0xF0 then some ⟨start, 1, 3, 0, 0x90, 0xBF⟩
  else if 0xF1 ≤ b ∧ b ≤ 0xF3 then some ⟨start, 1, 3, b - 0xF0, 0x80, 0xBF⟩
  else if b = 0xF4 then some ⟨start, 1, 3, b - 0xF0, 0x80, 0x8F⟩
  else none

def decodeFrom : Nat → Option PendingChar → Bytes → Except Utf8Error (List Char)
  | _, none, [] => .ok []
  | _, some pending, [] => .error (.incomplete pending.start)
  | index, none, octet :: rest =>
      if octet < 0x80 then
        (Char.ofNat octet.toNat :: ·) <$> decodeFrom (index + 1) none rest
      else
        match PendingChar.begin? index octet with
        | none => .error (.invalid index 1)
        | some pending => decodeFrom (index + 1) (some pending) rest
  | index, some pending, octet :: rest =>
      if pending.least ≤ octet ∧ octet ≤ pending.greatest then
        let code := pending.code * 64 + (octet.toNat - 0x80)
        if pending.owed = 1 then
          (Char.ofNat code :: ·) <$> decodeFrom (index + 1) none rest
        else
          decodeFrom (index + 1)
            (some ⟨pending.start, pending.seen + 1, pending.owed - 1, code, 0x80, 0xBF⟩) rest
      else
        .error (.invalid pending.start pending.seen)

def utf8Decode (octets : Bytes) : Except Utf8Error String :=
  String.ofList <$> decodeFrom 0 none octets

end Text
end Rowsmith
