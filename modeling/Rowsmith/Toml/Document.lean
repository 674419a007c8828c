import Rowsmith.Toml.Table
import Rowsmith.Toml.Text

/-!
# Reading a TOML document

A document is read line by line, each line a header or an assignment, and its tree is built from
the lines in order. Headers of lists of tables are refused, since nothing that is configured here
is such a list.
-/

namespace Rowsmith
namespace Toml

/-!
# Blanks
-/

def skipSpaces (cs : Characters) : Characters :=
  cs.dropWhile isSpace

/-- What follows the blanks, line breaks and comments at the front. The first argument tells
whether the reader is inside a comment. -/
def skipGaps : Bool → Characters → Option Characters
  | _, [] => some []
  | false, c :: rest =>
      if isGap c then skipGaps false rest
      else if c = '#' then skipGaps true rest
      else some (c :: rest)
  | true, c :: rest =>
      if c = '\n' then skipGaps false rest
      else if isControl c && c != '\r' then none
      else skipGaps true rest

/-- A line may end here: nothing but a comment is left on it. -/
def atLineEnd (cs : Characters) : Bool :=
  match skipSpaces cs with
  | [] => true
  | c :: _ => c = '\n' || c = '\r' || c = '#'

/-!
# Keys
-/

def isBareKeyChar (c : Char) : Bool :=
  c.isAlphanum || c = '-' || c = '_'

def readSimpleKey (cs : Characters) : Option (String × Characters) :=
  match cs with
  | '"' :: _ | '\'' :: _ => (readShortText cs).map fun (text, rest) => (String.ofList text, rest)
  | _ =>
      let word := cs.takeWhile isBareKeyChar
      if word.isEmpty then none else some (String.ofList word, cs.dropWhile isBareKeyChar)

/-- Keys joined by dots. The first argument bounds their count. -/
def readKey : Nat → Characters → Option (List String × Characters)
  | 0, _ => none
  | bound + 1, cs => do
      let (key, rest) ← readSimpleKey (skipSpaces cs)
      match skipSpaces rest with
      | '.' :: rest =>
          let (path, rest) ← readKey bound rest
          return (key :: path, rest)
      | rest => return ([key], rest)

/-!
# Values
-/

/-- How deep lists and tables in braces may stand in each other. -/
def nestingLimit : Nat := 80

/-- A key, its sign and what the value begins with. The first argument is what is skipped around the
sign. -/
def readKeyAndSign (skip : Characters → Option Characters) (bound : Nat) (cs : Characters) :
    Option (List String × Characters) := do
  let (path, rest) ← readKey bound cs
  match ← skip rest with
  | '=' :: rest =>
      let rest ← skip rest
      return (path, rest)
  | _ => none

mutual

/-- The first argument of these readers bounds the steps they take, and the second is the depth that
is left. -/
def readValue : Nat → Nat → Characters → Option (Item × Characters)
  | 0, _, _ => none
  | bound + 1, depth, cs =>
      match cs, depth with
      | '[' :: _, 0 => none
      | '\x7b' :: _, 0 => none
      | '[' :: rest, depth + 1 =>
          (readItems bound depth rest).map fun (items, rest) => (.list items, rest)
      | '\x7b' :: rest, depth + 1 =>
          (readPairs bound depth [] rest).map fun (entries, rest) =>
            (.table .closed entries, rest)
      | _, _ =>
          if beginsText cs then
            (readText cs).map fun (text, rest) => (.text (String.ofList text), rest)
          else
            (readScalar cs).map fun (scalar, rest) => (.scalar scalar, rest)

/-- The items of a list up to its closing bracket; a comma may follow the last one. -/
def readItems : Nat → Nat → Characters → Option (List Item × Characters)
  | 0, _, _ => none
  | bound + 1, depth, cs => do
      match ← skipGaps false cs with
      | ']' :: rest => return ([], rest)
      | cs =>
          let (item, rest) ← readValue bound depth cs
          match ← skipGaps false rest with
          | ',' :: rest =>
              let (items, rest) ← readItems bound depth rest
              return (item :: items, rest)
          | ']' :: rest => return ([item], rest)
          | _ => none

/-- The assignments of a table in braces, added to those read before. Lines may end anywhere between
a key, its sign and its value. -/
def readPairs : Nat → Nat → Entries → Characters → Option (Entries × Characters)
  | 0, _, _, _ => none
  | bound + 1, depth, entries, cs => do
      match ← skipGaps false cs with
      | '\x7d' :: rest => return (entries, rest)
      | cs =>
          let (path, rest) ← readKeyAndSign (skipGaps false) bound cs
          let (value, rest) ← readValue bound depth rest
          let entries ← assign value path entries
          match ← skipGaps false rest with
          | ',' :: rest => readPairs bound depth entries rest
          | '\x7d' :: rest => return (entries, rest)
          | _ => none

end

/-!
# Lines
-/

inductive Line where
  | header (path : List String)
  | assignment (path : List String) (value : Item)

def readLine (bound : Nat) (cs : Characters) : Option (Line × Characters) := do
  match cs with
  | '[' :: rest =>
      let (path, rest) ← readKey bound rest
      match rest with
      | ']' :: rest => return (.header path, rest)
      | _ => none
  | _ =>
      let (path, rest) ← readKeyAndSign (some ∘ skipSpaces) bound cs
      let (value, rest) ← readValue bound nestingLimit rest
      return (.assignment path value, rest)

def readLines : Nat → Characters → Option (List Line)
  | 0, _ => none
  | bound + 1, cs => do
      match ← skipGaps false cs with
      | [] => return []
      | cs =>
          let (line, rest) ← readLine bound cs
          if atLineEnd rest then
            let lines ← readLines bound rest
            return line :: lines
          else
            none

/-!
# Documents
-/

/-- The path is that of the last header. -/
def buildTree : List String → Entries → List Line → Option Entries
  | _, entries, [] => some entries
  | _, entries, .header path :: lines => do
      let entries ← openHeader path entries
      buildTree path entries lines
  | header, entries, .assignment path value :: lines => do
      let entries ← within (assign value path) header entries
      buildTree header entries lines

def withoutMark : Characters → Characters
  | '\ufeff' :: rest => rest
  | cs => cs

/-- The tree of a document, or nothing where it is not well formed. Every reader takes at least one
character for every two steps, which bounds the steps. -/
def readDocument (s : String) : Option Entries := do
  let cs := withoutMark s.toList
  if returnsPaired cs then
    let lines ← readLines (2 * cs.length + 3) cs
    buildTree [] [] lines
  else
    none

end Toml
end Rowsmith
