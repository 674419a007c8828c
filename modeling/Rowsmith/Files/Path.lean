import Rowsmith.Text.Basic

/-!
# Paths

A path is kept as it is spelled. Its parts are what it says: repeated slashes and dots between
names do not count, a dot at the front does. Two paths are equal, and are ordered, by their parts.
-/

namespace Rowsmith
namespace Path

open Text

inductive Part where
  | root
  | here
  | up
  | name (s : String)
  deriving DecidableEq, Repr

def isAbsolute (path : String) : Bool :=
  path.toList.head? = some '/'

def endsInSlash (path : String) : Bool :=
  path.toList.getLast? = some '/'

/-- What stands between the slashes, where that is anything. -/
def steps (path : String) : List String :=
  ((pieces '/' path.toList).filter (!·.isEmpty)).map String.ofList

def Part.ofStep (step : String) : Part :=
  if step = ".." then .up else .name step

def relativeParts : List String → List Part
  | "." :: rest => .here :: (rest.filter (· != ".")).map Part.ofStep
  | steps => (steps.filter (· != ".")).map Part.ofStep

def parts (path : String) : List Part :=
  if isAbsolute path then .root :: ((steps path).filter (· != ".")).map Part.ofStep
  else relativeParts (steps path)

/-!
# Order
-/

def Part.rank : Part → Nat
  | .root => 0
  | .here => 1
  | .up => 2
  | .name _ => 3

def Part.le : Part → Part → Bool
  | .name s, .name t => s ≤ t
  | p, q => p.rank ≤ q.rank

def partsLe : List Part → List Part → Bool
  | [], _ => true
  | _ :: _, [] => false
  | p :: ps, q :: qs => if p = q then partsLe ps qs else p.le q

/-- Names are compared part by part, so a folder comes before a file whose name goes on where the
folder's ends. -/
def le (a b : String) : Bool :=
  partsLe (parts a) (parts b)

def same (a b : String) : Bool :=
  parts a = parts b

/-!
# Joining and splitting
-/

/-- An absolute path on the right stands for itself. -/
def join (base path : String) : String :=
  if isAbsolute path then path
  else if base.isEmpty || endsInSlash base then base ++ path
  else base ++ "/" ++ path

/-- Slashes and dots at the end that are no part; the text is given last character first. -/
def dropTail : List Char → List Char
  | '/' :: rest => dropTail rest
  | '.' :: '/' :: rest => dropTail rest
  | cs => cs

def trimTail (path : List Char) : List Char :=
  (dropTail path.reverse).reverse

/-- What comes before the last part, with its slash, and the last part. -/
def splitLast (path : List Char) : List Char × List Char :=
  let reversed := dropTail path.reverse
  ((reversed.dropWhile (· != '/')).reverse, (reversed.takeWhile (· != '/')).reverse)

/-- The path without its last part; a root has no parent, and neither has the empty path. -/
def parent? (path : String) : Option String :=
  let (before, last) := splitLast path.toList
  if last.isEmpty then none
  else
    let above := trimTail before
    some (if above.isEmpty && isAbsolute path then "/" else String.ofList above)

def splitName? (path : String) : Option (List Char × List Char) :=
  let (before, last) := splitLast path.toList
  if last = [] ∨ last = ['.'] ∨ last = ['.', '.'] then none else some (before, last)

/-!
# Extensions
-/

/-- A name at its last dot, if there is a dot that is not its first character. -/
def splitExtension? (name : List Char) : Option (List Char × List Char) :=
  let reversed := name.reverse
  let stem := (reversed.dropWhile (· != '.')).drop 1
  if stem.isEmpty then none else some (stem.reverse, (reversed.takeWhile (· != '.')).reverse)

def extension? (path : String) : Option (List Char) := do
  let (_, name) ← splitName? path
  let (_, extension) ← splitExtension? name
  return extension

/-- The extension put in the place of any other, right after the stem of the last name. -/
def setExtension (path : List Char) (extension : List Char) : List Char :=
  match splitName? (String.ofList path) with
  | none => path
  | some (before, name) =>
      before ++ ((splitExtension? name).elim name (·.1)) ++
        (if extension.isEmpty then [] else '.' :: extension)

/-- The old extension is cut off the end of the text before the new one is set. -/
def withExtension (path : String) (extension : List Char) : String :=
  let old := ((extension? path).getD []).length
  String.ofList (setExtension (path.toList.take (path.length - old)) extension)

/-- Where a file is written before it takes the place of the one at the path. -/
def temporary (path : String) : String :=
  match extension? path with
  | some extension => withExtension path (extension ++ ".tmp".toList)
  | none => withExtension path "tmp".toList

/-- The path and those above it, the nearest first. The first argument bounds their count. -/
def ancestorsWithin : Nat → String → List String
  | 0, _ => []
  | bound + 1, path =>
      path ::
        match parent? path with
        | some above => ancestorsWithin bound above
        | none => []

def ancestors (path : String) : List String :=
  ancestorsWithin (path.length + 1) path

end Path
end Rowsmith
