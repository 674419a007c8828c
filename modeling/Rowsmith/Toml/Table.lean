import Rowsmith.Toml.Moment
import Rowsmith.Toml.Text

/-!
# Scalars and tables of a TOML document

What stands at the leaves of a document, and the tables that lead there.
-/

namespace Rowsmith
namespace Toml

open Text

/-!
# Numbers, truth values and moments

What stands in a document without quotes is one word: a number, a truth value, or a moment. A blank
inside it is possible only between the date and the time of a moment. Which number a word stands
for is never asked here, only whether it is one.

## Numbers
-/

/-- Underscores may stand between digits. -/
def isGrouped (base : Nat) (cs : Characters) : Bool :=
  (pieces '_' cs).all fun piece => (natural? base piece).isSome

/-- A whole number has no needless zero in front. -/
def isWholePart (cs : Characters) : Bool :=
  isGrouped 10 cs && (cs.length = 1 || cs.head? != some '0')

def withoutSign : Characters → Characters
  | '+' :: rest => rest
  | '-' :: rest => rest
  | cs => cs

/-- What stands before the first character that passes the test, and what stands after it. -/
def cutWhere (test : Char → Bool) (cs : Characters) : Characters × Option Characters :=
  match cs.dropWhile (!test ·) with
  | [] => (cs, none)
  | _ :: rest => (cs.takeWhile (!test ·), some rest)

/-- A whole number without a sign, which a fraction and a power of ten may follow. -/
def isUnsignedDecimal (cs : Characters) : Bool :=
  let (front, power) := cutWhere (fun c => c = 'e' || c = 'E') cs
  let (whole, fraction) := cutWhere (· = '.') front
  isWholePart whole && fraction.all (isGrouped 10) &&
    power.all fun power => isGrouped 10 (withoutSign power)

/-- Numbers of other bases have no sign. -/
def isNumber : Characters → Bool
  | '0' :: 'x' :: digits => isGrouped 16 digits
  | '0' :: 'o' :: digits => isGrouped 8 digits
  | '0' :: 'b' :: digits => isGrouped 2 digits
  | cs =>
      let cs := withoutSign cs
      cs = "inf".toList || cs = "nan".toList || isUnsignedDecimal cs

def truth? (cs : Characters) : Option Bool :=
  if cs = "true".toList then some true
  else if cs = "false".toList then some false
  else none

/-!
## Words
-/

inductive Scalar where
  | number (spelling : String)
  | truth (value : Bool)
  | moment (value : Moment)
  deriving DecidableEq, Repr

def Scalar.ofWord? (word : Characters) : Option Scalar :=
  if isNumber word then some (.number (String.ofList word))
  else
    match truth? word with
    | some value => some (.truth value)
    | none => (Moment.read? word).map .moment

def endsWord (c : Char) : Bool :=
  isGap c || ",[]\x7b\x7d=#".toList.contains c

/-- The word at the front; a date goes on after one blank if a digit follows. -/
def splitWord (cs : Characters) : Characters × Characters :=
  let word := cs.takeWhile (!endsWord ·)
  let rest := cs.dropWhile (!endsWord ·)
  match rest with
  | ' ' :: next :: _ =>
      if isDigit next && (Date.read? word).any (·.2.isEmpty) then
        (word ++ ' ' :: (rest.drop 1).takeWhile (!endsWord ·),
          (rest.drop 1).dropWhile (!endsWord ·))
      else
        (word, rest)
  | _ => (word, rest)

def readScalar (cs : Characters) : Option (Scalar × Characters) :=
  let (word, rest) := splitWord cs
  (Scalar.ofWord? word).map fun scalar => (scalar, rest)

/-!
# Tables of a TOML document

A document is a tree of tables, lists, texts and scalars. How a table came about decides how it may
grow: a header opens a table once, also one that deeper headers only implied; dotted keys add to a
table that dotted keys made; a table written in braces is closed. No key is given twice.
-/

inductive Origin where
  | implied
  | header
  | dotted
  | closed
  deriving DecidableEq, Repr

inductive Item where
  | text (s : String)
  | scalar (value : Scalar)
  | list (items : List Item)
  | table (origin : Origin) (entries : List (String × Item))

abbrev Entries := List (String × Item)

/-- The entry under the key changed, or made where there is none. -/
def updateEntry (key : String) (change : Option Item → Option Item) : Entries → Option Entries
  | [] => (change none).map fun item => [(key, item)]
  | (other, item) :: rest =>
      if other = key then (change (some item)).map fun item => (other, item) :: rest
      else (updateEntry key change rest).map ((other, item) :: ·)

def openHeader : List String → Entries → Option Entries
  | [], _ => none
  | [key], entries =>
      updateEntry key (fun
        | none => some (.table .header [])
        | some (.table .implied entries) => some (.table .header entries)
        | some _ => none) entries
  | key :: next :: path, entries =>
      updateEntry key (fun
        | none => (openHeader (next :: path) []).map (.table .implied)
        | some (.table .closed _) => none
        | some (.table origin entries) =>
            (openHeader (next :: path) entries).map (.table origin)
        | some _ => none) entries

def assign (value : Item) : List String → Entries → Option Entries
  | [], _ => none
  | [key], entries =>
      updateEntry key (fun
        | none => some value
        | some _ => none) entries
  | key :: next :: path, entries =>
      updateEntry key (fun
        | none => (assign value (next :: path) []).map (.table .dotted)
        | some (.table .dotted entries) =>
            (assign value (next :: path) entries).map (.table .dotted)
        | some (.table .implied entries) =>
            (assign value (next :: path) entries).map (.table .implied)
        | some _ => none) entries

/-- A change of the table at the path. -/
def within (change : Entries → Option Entries) : List String → Entries → Option Entries
  | [], entries => change entries
  | key :: path, entries =>
      updateEntry key (fun
        | some (.table origin entries) => (within change path entries).map (.table origin)
        | _ => none) entries

end Toml
end Rowsmith
