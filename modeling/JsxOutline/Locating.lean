import JsxOutline.Alias.Source
import JsxOutline.Config
import JsxOutline.Module.ExportLine

/-!
# Locating components

The first file among the candidates that can be read backs a component.  An index file that makes
the component available from another file stands for that file, if it is there.
-/

namespace JsxOutline

/-- A file that backs a component. -/
structure Located where
  file : String
  source : String
  /-- The index file that led to it. -/
  index : Option String := none
deriving DecidableEq, Repr

def indexNames : List String := ["index.js", "index.jsx"]

/-- What may follow the path that an index file gives, in the order of preference. -/
def targetEndings : List String := [".jsx", ".js"]

def isIndex (file : String) : Bool := indexNames.contains (Path.base file)

/-- The path, without its ending, that a specifier in an index file leads to.  Of a specifier that is
not relative the first part is the directory itself. -/
def reexportTarget (index specifier : String) : String :=
  let dir := Path.directory index
  if Specifier.isRelative specifier then Path.normalize (Path.join dir specifier)
  else Path.joinAll dir (Path.split specifier).tail

/-- The files of a project, with what reads them. -/
structure Project where
  parser : Parser
  files : FileSystem

namespace Project

def readSource (p : Project) (file : String) : Outcome Undecodable (Option String) :=
  if p.files.isFile file then
    match p.files.readText file with
    | .ok source => pure (some source)
    | .error (.file fault) => do
      Outcome.tell (.unreadable file fault)
      return none
    | .error .undecodable => Outcome.fail {}
  else pure none

/-- The first file in a list that can be read, with its text. -/
def firstReadable (p : Project) : List String → Outcome Undecodable (Option (String × String))
  | [] => pure none
  | file :: rest => do
    match ← p.readSource file with
    | some source => return some (file, source)
    | none => p.firstReadable rest

/-- The binding of a name in an index file.  If no statement of the file can be used, its lines are
read as text. -/
def indexBinding? (p : Project) (name index source : String) :
    Outcome Undecodable (Option Binding) := do
  match ← (Module.parse p.parser source index).attempt with
  | .ok m => return m.reexport? name
  | .error fault =>
    Outcome.tell (.indexUnparsable fault)
    return Binding.last? (ExportLine.bindings source) name

def followIndex (p : Project) (name index source : String) : Outcome Undecodable (Option Located) := do
  match ← p.indexBinding? name index source with
  | none => return none
  | some binding =>
    let target := reexportTarget index binding.source
    match ← p.firstReadable (targetEndings.map (target ++ ·)) with
    | some (file, text) =>
      Outcome.tell (.locatedThrough name index file)
      return some ⟨file, text, some index⟩
    | none =>
      Outcome.tell (.missingTarget name index target)
      return none

def locate (p : Project) (name : String) (candidates : List String) :
    Outcome Undecodable (Option Located) := do
  match ← p.firstReadable candidates with
  | none => return none
  | some (file, source) =>
    let followed ← if isIndex file then p.followIndex name file source else pure none
    match followed with
    | some located => return some located
    | none =>
      Outcome.tell (.located name file)
      return some ⟨file, source, none⟩

end Project

end JsxOutline
