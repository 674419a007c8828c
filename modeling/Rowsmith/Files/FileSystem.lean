import Rowsmith.Files.Path
import Rowsmith.Text.Basic

/-!
# File systems

A tree of folders and files as a flat list of locations, with one folder as the current one. A
location names the folders from the root down. Operations take paths and fail with the causes an
operating system gives; a failed operation changes nothing by itself.
-/

namespace Rowsmith

open Text

/-- A file holds a text, or octets that are no text. -/
inductive Content where
  | text (s : String)
  | other (octets : Bytes)
  deriving DecidableEq, Repr

def Content.ofOctets (octets : Bytes) : Content :=
  match utf8Decode octets with
  | .ok s => .text s
  | .error _ => .other octets

inductive Node where
  | file (content : Content)
  | folder
  deriving DecidableEq, Repr

abbrev Location := List String

structure FileSystem where
  entries : List (Location × Node)
  current : Location
  deriving DecidableEq, Repr

inductive FileError where
  | zeroOctet
  | notFound
  | busy
  | exists
  | notDirectory
  | isDirectory
  | nameTooLong
  | notText
  deriving DecidableEq, Repr

def FileError.message : FileError → String
  | .zeroOctet => "file name contained an unexpected NUL byte"
  | .notFound => "No such file or directory (os error 2)"
  | .busy => "Device or resource busy (os error 16)"
  | .exists => "File exists (os error 17)"
  | .notDirectory => "Not a directory (os error 20)"
  | .isDirectory => "Is a directory (os error 21)"
  | .nameTooLong => "File name too long (os error 36)"
  | .notText => "stream did not contain valid UTF-8"

namespace FileSystem

/-!
# Nodes
-/

def node? (files : FileSystem) (location : Location) : Option Node :=
  if location.isEmpty then some .folder else files.entries.lookup location

def put (files : FileSystem) (location : Location) (node : Node) : FileSystem :=
  { files with entries := (location, node) :: files.entries.filter (·.1 != location) }

def drop (files : FileSystem) (location : Location) : FileSystem :=
  { files with entries := files.entries.filter (·.1 != location) }

/-- A node with the folders above it, which are made where they are missing. -/
def place (files : FileSystem) (location : Location) (node : Node) : FileSystem :=
  let above := (List.range location.length).map location.take
  (above.foldl
      (fun files folder =>
        match files.node? folder with
        | some .folder => files
        | _ => files.put folder .folder)
      files).put location node

/-- A node removed with everything below it. -/
def removeAll (files : FileSystem) (location : Location) : FileSystem :=
  { files with entries := files.entries.filter fun entry => !location.isPrefixOf entry.1 }

/-- The files below the current folder and the folders with nothing in them, by their paths from
there. -/
def listing (files : FileSystem) : List (String × Node) :=
  files.entries.filterMap fun (location, node) =>
    if files.current.isPrefixOf location && location != files.current then
      let path := "/".intercalate (location.drop files.current.length)
      match node with
      | .file _ => some (path, node)
      | .folder =>
          if files.entries.any fun entry => entry.1.dropLast = location then none
          else some (path, node)
    else
      none

/-!
# Walking
-/

/-- The most octets that one name may have. -/
def nameLimit : Nat := 255

/-- The most octets that a whole path may have. -/
def pathLimit : Nat := 4095

/-- Every step must be taken from a folder that is there, and no name may be too long; where the
last step leads need not be. -/
def walk (files : FileSystem) : Location → List String → Except FileError Location
  | here, [] => .ok here
  | here, step :: rest =>
      match files.node? here with
      | none => .error .notFound
      | some (.file _) => .error .notDirectory
      | some .folder =>
          if nameLimit < step.utf8ByteSize then .error .nameTooLong
          else if step = "." then files.walk here rest
          else if step = ".." then files.walk here.dropLast rest
          else files.walk (here ++ [step]) rest

/-- The folder a path starts from, for a path that can lead anywhere at all. -/
def start (files : FileSystem) (path : String) : Except FileError Location :=
  if path.toList.contains '\x00' then .error .zeroOctet
  else if pathLimit < path.utf8ByteSize then .error .nameTooLong
  else if path.isEmpty then .error .notFound
  else if Path.isAbsolute path then .ok []
  else .ok files.current

def locate (files : FileSystem) (path : String) : Except FileError Location := do
  let start ← files.start path
  files.walk start (Path.steps path)

/-- What is at a path. A slash at its end asks for a folder. -/
def at? (files : FileSystem) (path : String) : Except FileError Node := do
  let location ← files.locate path
  match files.node? location with
  | none => throw .notFound
  | some (.file content) =>
      if Path.endsInSlash path then throw .notDirectory else return .file content
  | some .folder => return .folder

def exists? (files : FileSystem) (path : String) : Bool :=
  (files.at? path).isOk

def isFolder (files : FileSystem) (path : String) : Bool :=
  match files.at? path with
  | .ok .folder => true
  | _ => false

def readText (files : FileSystem) (path : String) : Except FileError String :=
  match files.at? path with
  | .error error => .error error
  | .ok .folder => .error .isDirectory
  | .ok (.file (.other _)) => .error .notText
  | .ok (.file (.text s)) => .ok s

/-- Where an entry is to be made or replaced: a location in a folder that is there, or, for a path
that ends in dots or is a root, no name at all. -/
inductive Place where
  | named (location : Location)
  | unnamed
  deriving DecidableEq, Repr

def place? (files : FileSystem) (path : String) : Except FileError Place := do
  let start ← files.start path
  let steps := Path.steps path
  match steps.getLast? with
  | none => return .unnamed
  | some last =>
      let folder ← files.walk start steps.dropLast
      let location ← files.walk folder [last]
      if last = "." ∨ last = ".." then return .unnamed else return .named location

end FileSystem

/-!
# Operations
-/

abbrev Disk := EStateM FileError FileSystem

namespace Disk

def resolve (path : String) : Disk FileSystem.Place := do
  match (← get).place? path with
  | .ok place => return place
  | .error error => throw error

def makeFolder (path : String) : Disk Unit := do
  match ← resolve path with
  | .unnamed => throw .exists
  | .named location =>
      match (← get).node? location with
      | some _ => throw .exists
      | none => modify fun files => files.put location .folder

/-- The paths are a folder to make and those above it. A folder above is made only if the one below
it cannot be without. -/
def makeFoldersAt : List String → Disk Unit
  | [] => pure ()
  | path :: above => do
      if path.isEmpty then
        pure ()
      else
        let files ← get
        match (makeFolder path).run files with
        | .ok _ files => set files
        | .error .notFound _ =>
            makeFoldersAt above
            let files ← get
            match (makeFolder path).run files with
            | .ok _ files => set files
            | .error error _ => if files.isFolder path then pure () else throw error
        | .error error _ => if files.isFolder path then pure () else throw error

def makeFolders (path : String) : Disk Unit :=
  makeFoldersAt (Path.ancestors path)

/-- A file made or replaced. -/
def writeText (path s : String) : Disk Unit := do
  match ← resolve path with
  | .unnamed => throw .isDirectory
  | .named location =>
      if Path.endsInSlash path then
        throw .isDirectory
      else
        match (← get).node? location with
        | some .folder => throw .isDirectory
        | _ => modify fun files => files.put location (.file (.text s))

/-- A file moved over whatever file is at the other path. -/
def moveFile (source target : String) : Disk Unit := do
  match ← resolve source, ← resolve target with
  | .named old, .named new =>
      let files ← get
      match files.node? old with
      | none => throw .notFound
      | some node =>
          if Path.endsInSlash target then throw .notDirectory
          else if files.node? new = some .folder then throw .isDirectory
          else if old = new then pure ()
          else set ((files.drop old).put new node)
  | _, _ => throw .busy

end Disk

end Rowsmith
