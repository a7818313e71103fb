import JsxOutline.Command.Run
import JsxOutline.Ecma.Outside
import JsxOutline.Reading.Show

/-!
# The command line

Takes a picture of the directories that a run may look into, runs the command on it, and prints and
stores what the run leaves behind.  Links to directories are not followed, and what is neither a file
nor a directory is not there.
-/

namespace JsxOutline.Command

/-- A file system with all that lies below the entries of a directory. -/
partial def addEntries (fs : FileSystem) (entries : Array IO.FS.DirEntry) : IO FileSystem :=
  entries.foldlM (fun fs e => do
    let path := e.path.toString
    match (← e.path.symlinkMetadata.toBaseIO) with
    | .error _ | .ok { type := .other, .. } => return fs
    | .ok { type := .dir, .. } =>
      match (← e.path.readDir.toBaseIO) with
      | .ok below => addEntries (fs.withDirectory path) below
      | .error _ => return fs.withDirectory path
    | .ok _ =>
      if ← e.path.isDir then return fs
      match (← (IO.FS.readBinFile e.path).toBaseIO) with
      | .ok bytes => return fs.withEntry path (.file bytes.toList)
      | .error _ => return fs.withEntry path .lockedFile) fs

/-- The file system of a run: what lies below the working directory, and below the directories of the
files and directories among the arguments. -/
def surroundings (args : List String) : IO FileSystem := do
  let here ← IO.currentDir
  let named := args.map fun (arg : String) => here / arg
  let outside ← named.filterMapM fun path => do
    if ← path.isDir then return some path
    else if ← path.pathExists then return path.parent
    else return none
  (here :: outside).foldlM (fun fs dir => do
    addEntries (fs.withDirectory dir.toString) (← dir.readDir)) (.empty here.toString)

/-- The cause of an error by its number. -/
def causeOf : IO.Error → FileCause
  | .noFileOrDirectory _ n _ | .inappropriateType _ n _ | .permissionDenied _ n _
  | .resourceExhausted _ n _ | .hardwareFault n _ | .otherError n _ =>
    let causes : List FileCause :=
      [.notFound, .denied, .notDirectory, .isDirectory, .tooLarge, .full, .readOnly, .overQuota]
    (causes.find? fun cause => cause.number == n.toNat).getD .broken
  | _ => .broken

/-- Writes a file, and tells how its device gave up, if it did. -/
def writeFile (path : String) (bytes : List UInt8) : IO (Option Breakdown) := do
  match (← (IO.FS.Handle.mk path .write).toBaseIO) with
  | .error e => return some (.refused (causeOf e))
  | .ok handle =>
    -- Closing a file tells no errors, so the bytes have to be out before.
    match (← (do handle.write ⟨bytes.toArray⟩; handle.flush : IO Unit).toBaseIO) with
    | .error e => return some (.interrupted (causeOf e) 0)
    | .ok () => return none

/-- Stores the tree that a run has written, if it has written one. -/
def storeTree (before after : FileSystem) : IO (Option Breakdown) := do
  let path := Path.join after.currentPath Component.documentName
  match before.read path, after.read path with
  | old, .ok new => if old.toOption = some new then return none else writeFile path new
  | _, .error _ => return none

/-- Stores the tree of a run.  What the device does shows only then; a run on a device that gives up
is told as what it is. -/
def settle (project : Project) (args : List String) (ending : Exit) : IO Exit := do
  match (← storeTree project.files ending.files) with
  | none => return ending
  | some breakdown =>
    let files := { project.files with device := fun _ _ => some breakdown }
    return (run { project with files } args).toOption.getD ending

end JsxOutline.Command

def main (args : List String) : IO UInt32 := do
  let files ← JsxOutline.Command.surroundings args
  let project : JsxOutline.Project := { parser := JsxOutline.Ecma.language.parse, files }
  match JsxOutline.Command.run project args with
  | .error fault =>
    IO.eprintln s!"{JsxOutline.Command.programName}: {fault.message}"
    return 1
  | .ok ending =>
    let ending ← JsxOutline.Command.settle project args ending
    IO.print (JsxOutline.Command.stream ending.output)
    IO.eprint (JsxOutline.Command.stream ending.errors)
    return .ofNat ending.code
