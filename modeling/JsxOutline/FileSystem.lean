import JsxOutline.Table
import JsxOutline.Path
import JsxOutline.Text.Encoding
import JsxOutline.Text.Quoted

/-!
# File systems

A file system is a tree of directories with a working directory.  A path is walked name by name, and
each name but the last has to lead to a directory, also one that only leads back up.  A file that is
written is emptied when it is opened, and its device may give up before it holds all that it should;
what the device does is part of the file system.  Main statement: what was placed at a location is
found there.
-/

namespace JsxOutline

/-! ### Entries -/

/-- What a name in a directory stands for. -/
inductive Entry where
  | file (bytes : List UInt8)
  /-- A file that may be neither read nor written. -/
  | lockedFile
  | directory (members : List (String × Entry))
deriving Inhabited

/-- The names on the way from the root to an entry. -/
abbrev Location := List String

namespace Entry

def members : Entry → List (String × Entry)
  | directory ms => ms
  | _ => []

def at? : Entry → Location → Option Entry
  | e, [] => some e
  | e, name :: rest => (Table.get? e.members name).bind fun e => e.at? rest

/-- Puts another entry at a location below; directories on the way come into being. -/
def place : Entry → Location → Entry → Entry
  | _, [], new => new
  | e, name :: rest, new =>
    let old := (Table.get? e.members name).getD (.directory [])
    .directory (Table.put e.members name (old.place rest new))

theorem at?_place (e : Entry) (l : Location) (new : Entry) : (e.place l new).at? l = some new := by
  induction l generalizing e with
  | nil => rfl
  | cons name rest ih => simp [place, at?, members, Table.get?_put, ih]

end Entry

/-! ### Faults -/

/-- Why a file cannot be reached, read or written.  The last five are causes of a device. -/
inductive FileCause where
  | notFound
  | denied
  | notDirectory
  | isDirectory
  | broken
  | tooLarge
  | full
  | readOnly
  | overQuota
deriving DecidableEq, Repr

namespace FileCause

def number : FileCause → Nat
  | notFound => 2
  | broken => 5
  | denied => 13
  | notDirectory => 20
  | isDirectory => 21
  | tooLarge => 27
  | full => 28
  | readOnly => 30
  | overQuota => 122

def words : FileCause → String
  | notFound => "No such file or directory"
  | broken => "Input/output error"
  | denied => "Permission denied"
  | notDirectory => "Not a directory"
  | isDirectory => "Is a directory"
  | tooLarge => "File too large"
  | full => "No space left on device"
  | readOnly => "Read-only file system"
  | overQuota => "Disk quota exceeded"

def message (cause : FileCause) : String := s!"[Errno {cause.number}] {cause.words}"

end FileCause

/-- A path whose file cannot be opened. -/
structure FileFault where
  cause : FileCause
  path : String
deriving DecidableEq, Repr

def FileFault.message (f : FileFault) : String :=
  f.cause.message ++ ": " ++ Text.Quoted.ofString f.path

/-- Why a file is not written in full. -/
inductive WriteFault where
  | unopened (f : FileFault)
  /-- The file was opened.  The message names no path, which only opening knows. -/
  | interrupted (cause : FileCause)
deriving DecidableEq, Repr

def WriteFault.message : WriteFault → String
  | unopened f => f.message
  | interrupted cause => cause.message

/-- How a device gives up on a file that is to be written. -/
inductive Breakdown where
  | refused (cause : FileCause)
  /-- Of what was to be written the open file holds only the first bytes. -/
  | interrupted (cause : FileCause) (kept : Nat)
deriving DecidableEq, Repr

/-- Why a text cannot be read: its file cannot be, or its bytes are not what their mark says. -/
inductive TextFault where
  | file (f : FileFault)
  | undecodable
deriving DecidableEq, Repr

/-! ### File systems -/

structure FileSystem where
  root : Entry := .directory []
  current : Location := []
  /-- What becomes of bytes that are to be written at a location; without a breakdown the file holds
  them all. -/
  device : Location → List UInt8 → Option Breakdown := fun _ _ => none
deriving Inhabited

namespace FileSystem

def at? (fs : FileSystem) (l : Location) : Option Entry := fs.root.at? l

/-- Goes from a directory to where a name leads. -/
def step (fs : FileSystem) (here : Location) (name : String) : Except FileCause Location :=
  match fs.at? here with
  | some (.directory members) =>
    if name = "" ∨ name = "." then .ok here
    else if name = ".." then .ok here.dropLast
    else if (Table.get? members name).isSome then .ok (here ++ [name])
    else .error .notFound
  | some _ => .error .notDirectory
  | none => .error .notFound

def locate (fs : FileSystem) (path : String) : Except FileCause Location :=
  if path = "" then .error .notFound
  else (Path.split path).foldlM fs.step (if Path.isAbsolute path then [] else fs.current)

def find (fs : FileSystem) (path : String) : Except FileCause Entry := do
  match fs.at? (← fs.locate path) with
  | some e => return e
  | none => throw .notFound

def isFile (fs : FileSystem) (path : String) : Bool :=
  match fs.find path with
  | .ok (.file _) | .ok .lockedFile => true
  | _ => false

def read (fs : FileSystem) (path : String) : Except FileFault (List UInt8) :=
  match fs.find path with
  | .ok (.file bytes) => .ok bytes
  | .ok .lockedFile => .error ⟨.denied, path⟩
  | .ok (.directory _) => .error ⟨.isDirectory, path⟩
  | .error cause => .error ⟨cause, path⟩

def readText (fs : FileSystem) (path : String) : Except TextFault String :=
  match fs.read (Path.tidy path) with
  | .error fault => .error (.file fault)
  | .ok bytes =>
    match Text.ofBytes? bytes with
    | some text => .ok text
    | none => .error .undecodable

/-- Where a file that is to be written lies: at the location of its path, or else under a new name
in the directory of its path. -/
def target (fs : FileSystem) (path : String) : Except FileCause Location :=
  match fs.locate path with
  | .ok l =>
    match fs.at? l with
    | some (.directory _) => .error .isDirectory
    | some .lockedFile => .error .denied
    | _ => .ok l
  | .error .notFound =>
    if Path.base path = "" then .error .notFound
    else do
      let dir := Path.directory path
      let l ← fs.locate (if dir = "" then "." else dir)
      match fs.at? l with
      | some (.directory _) => return l ++ [Path.base path]
      | _ => throw .notDirectory
  | .error cause => .error cause

def place (fs : FileSystem) (new : Entry) (l : Location) : FileSystem :=
  { fs with root := fs.root.place l new }

/-- Writes a file.  A write that fails before the file is open leaves everything as it was; one that
is interrupted leaves a part of the bytes behind. -/
def write (fs : FileSystem) (path : String) (bytes : List UInt8) :
    FileSystem × Except WriteFault Unit :=
  match fs.target path with
  | .error cause => (fs, .error (.unopened ⟨cause, path⟩))
  | .ok l =>
    match fs.device l bytes with
    | none => (fs.place (.file bytes) l, .ok ())
    | some (.refused cause) => (fs, .error (.unopened ⟨cause, path⟩))
    | some (.interrupted cause kept) =>
      (fs.place (.file (bytes.take kept)) l, .error (.interrupted cause))

def currentPath (fs : FileSystem) : String := "/" ++ "/".intercalate fs.current

/-! ### Setting up -/

/-- The location that a path names by its spelling alone. -/
def spelled (fs : FileSystem) (path : String) : Location :=
  (Path.split (Path.absolute fs.currentPath path)).filter (· != "")

def withEntry (fs : FileSystem) (path : String) (new : Entry) : FileSystem :=
  fs.place new (fs.spelled path)

def withDirectory (fs : FileSystem) (path : String) : FileSystem :=
  match fs.at? (fs.spelled path) with
  | some (.directory _) => fs
  | _ => fs.withEntry path (.directory [])

def empty (current : String) : FileSystem :=
  let fs : FileSystem := {}
  { fs.withDirectory current with current := fs.spelled current }

theorem at?_place (fs : FileSystem) (new : Entry) (l : Location) :
    (fs.place new l).at? l = some new :=
  Entry.at?_place fs.root l new

end FileSystem

end JsxOutline
