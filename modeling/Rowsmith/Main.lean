import Rowsmith.Command
import Rowsmith.Settings.Config

/-!
# The program

The outer layer: it observes what a run may look at, lets the command decide, and carries out what
it decided. No server can be reached from here, so every address fails to connect.
-/

namespace Rowsmith
namespace Program

open Text

/-- The file that a command line leads to, if it is right and does. -/
def configPath? (arguments : List String) : Option String :=
  match parseArguments arguments with
  | .ok (.init path) => some path
  | .ok (.generate options) => some (options.config.getD defaultConfig)
  | _ => none

/-- What is at a path. What is there and cannot be read as a file is a folder. -/
def observe (path : String) : IO (Option Node) := do
  try
    let octets ← IO.FS.readBinFile path
    return some (.file (Content.ofOctets octets.toList))
  catch
    | .noFileOrDirectory .. => return none
    | _ => return some .folder

/-- Adds what is at a path to the files, unless the path leads through a file. -/
def observeInto (files : FileSystem) (path : String) : IO FileSystem := do
  match files.locate path with
  | .error _ => return files
  | .ok location =>
      match ← observe path with
      | some node => return if location.isEmpty then files else files.place location node
      | none => return files

def currentFiles (arguments : List String) : IO FileSystem := do
  let current := Path.steps (toString (← IO.currentDir))
  let files : FileSystem := ⟨[], []⟩
  let files := { files.place current .folder with current := current }
  let above := ((configPath? arguments).map Path.ancestors).getD []
  (above.reverse.filter (!·.isEmpty)).foldlM observeInto files

def store (location : Location) (node : Node) : IO Unit := do
  let path := "/" ++ "/".intercalate location
  match node with
  | .folder => IO.FS.createDirAll path
  | .file (.text s) => IO.FS.writeFile path s
  | .file (.other octets) => IO.FS.writeBinFile path (ByteArray.mk octets.toArray)

/-- Folders come before what is in them, since their locations are shorter. -/
def storeChanges (old new : FileSystem) : IO Unit := do
  let changed := new.entries.filter fun entry => old.node? entry.1 != some entry.2
  for (location, node) in changed.mergeSort fun a b => a.1.length ≤ b.1.length do
    store location node

def runWith (arguments : List String) : IO UInt32 := do
  let files ← currentFiles arguments
  let octets ← IO.FS.readBinFile "/proc/self/environ"
  let outcome := run arguments
    { environment := .ofOctets octets.toList, server := fun _ => none, files := files }
  storeChanges files outcome.files
  IO.print outcome.output
  match outcome.result with
  | .ok _ => return 0
  | .error error =>
      IO.eprintln error.message
      return 1

end Program
end Rowsmith

def main (arguments : List String) : IO UInt32 :=
  Rowsmith.Program.runWith arguments
