import Rowsmith.Files.FileSystem
import Rowsmith.Model.Render
import Rowsmith.Text.Basic

/-!
# Writing generated files

A run puts generated files into a folder and leaves alone those that are there already with the
same content. A dry run only says what it would write; a check fails where there is anything to
write. A file is written in full under a temporary name and then moved into place, and nothing is
reported before all files are written.
-/

namespace Rowsmith

open Text

inductive WriteMode where
  | write
  | dryRun
  | check
  deriving DecidableEq, Repr

/-- A dry run does not check. -/
def WriteMode.ofFlags (dryRun check : Bool) : WriteMode :=
  if dryRun then .dryRun else if check then .check else .write

inductive WriteError where
  | folder (path : String) (cause : FileError)
  | file (path : String) (cause : FileError)
  | move (source target : String) (cause : FileError)
  | outOfDate
  deriving DecidableEq, Repr

def WriteError.message : WriteError → String
  | .folder path cause => "failed to create directory " ++ path ++ ": " ++ cause.message
  | .file path cause => "failed to write " ++ path ++ ": " ++ cause.message
  | .move source target cause =>
      "failed to rename " ++ source ++ " -> " ++ target ++ ": " ++ cause.message
  | .outOfDate => "generated files are out of date"

structure WriteSummary where
  changed : List String := []
  written : List String := []
  deriving DecidableEq, Repr

structure WriteReport where
  result : Except WriteError WriteSummary
  output : String
  files : FileSystem

/-!
# Plans
-/

/-- The files at their places below the folder, in the order of their paths. -/
def placed (folder : String) (generated : List GeneratedFile) : List GeneratedFile :=
  (generated.map fun file => { file with path := Path.join folder file.path }).mergeSort
    fun a b => Path.le a.path b.path

def FileSystem.holds (files : FileSystem) (file : GeneratedFile) : Bool :=
  match files.readText file.path with
  | .ok s => s = file.content
  | .error _ => false

def changedPaths (files : FileSystem) (generated : List GeneratedFile) : List String :=
  (generated.filter fun file => !files.holds file).map (·.path)

/-- Files share a fate when their paths are equal. -/
def toWrite (changed : List String) (generated : List GeneratedFile) : List GeneratedFile :=
  generated.filter fun file => changed.any (Path.same · file.path)

/-!
# Writing
-/

abbrev WritingFiles := EStateM WriteError FileSystem

def onDisk (cause : FileError → WriteError) (action : Disk Unit) : WritingFiles Unit :=
  fun files =>
    match action.run files with
    | .ok _ files => .ok () files
    | .error error files => .error (cause error) files

def makeParent (path : String) : WritingFiles Unit :=
  match Path.parent? path with
  | some folder => onDisk (.folder folder) (Disk.makeFolders folder)
  | none => pure ()

def replaceFile (file : GeneratedFile) : WritingFiles Unit := do
  let draft := Path.temporary file.path
  makeParent file.path
  onDisk (.file draft) (Disk.writeText draft file.content)
  onDisk (.move draft file.path) (Disk.moveFile draft file.path)

def replaceFiles : List GeneratedFile → WritingFiles Unit
  | [] => pure ()
  | file :: rest => do
      replaceFile file
      replaceFiles rest

def announce (verb : String) (paths : List String) : String :=
  lines (paths.map fun path => verb ++ " " ++ path)

def writeFiles (mode : WriteMode) (folder : String) (generated : List GeneratedFile)
    (files : FileSystem) : WriteReport :=
  let generated := placed folder generated
  let changed := changedPaths files generated
  match mode with
  | .dryRun => ⟨.ok { changed := changed }, announce "would write" changed, files⟩
  | .check =>
      if changed.isEmpty then ⟨.ok {}, "", files⟩ else ⟨.error .outOfDate, "", files⟩
  | .write =>
      let pending := toWrite changed generated
      match (replaceFiles pending).run files with
      | .error error files => ⟨.error error, "", files⟩
      | .ok _ files =>
          let written := pending.map (·.path)
          ⟨.ok ⟨changed, written⟩, announce "wrote" written, files⟩

end Rowsmith
