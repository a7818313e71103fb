import JsxOutline.Alias
import JsxOutline.Module

/-!
# Configurations of aliases

A table of aliases comes from a JSON file, or from the first object under the key `alias` in a
module that is a configuration.  Modules are read and not run: a value counts if it is a text, or a
call that joins texts to a path.
-/

namespace JsxOutline.AliasTable

/-! ### JSON -/

def ofJson (config : Json.Value) : Except AliasFault (Table String) :=
  match (config.member? "resolve").bind (·.member? "alias") with
  | none | some .null => .ok []
  | some (.object entries) => .ok (entries.filterMap fun (k, v) => v.string?.map (k, ·))
  | some _ => .error .notObject

/-! ### Modules -/

def joiners : List String := ["path.resolve", "path.join"]

/-- A part of a path: a text, or the directory of the configuration. -/
def pathPart? (dir : String) (t : Tree) : Option String :=
  if t.kind = "identifier" ∧ t.text = "__dirname" then some dir
  else if t.kind = "string" then some (Tree.value (some t))
  else none

/-- The path that a value stands for. -/
def staticPath? (dir : String) (t : Tree) : Option String :=
  match t.kind with
  | "string" | "template_string" =>
    if (t.namedOf "template_substitution").isEmpty then some (Tree.value (some t)) else none
  | "call_expression" =>
    if joiners.contains (Tree.textOf (t.field? "function")) then do
      let arguments ← t.field? "arguments"
      match ← arguments.named.mapM (pathPart? dir) with
      | part :: parts => return Path.normalize (Path.joinAll part parts)
      | [] => none
    else none
  | _ => none

def namedPath? (dir : String) (t : Tree) : Option (String × String) := do
  let value ← t.field? "value"
  let path ← staticPath? dir value
  return (Tree.value (t.field? "key"), path)

/-- The object that a node gives as the value of `alias`. -/
def aliasObject? (t : Tree) : Option Tree :=
  if t.kind = "pair" ∧ Tree.value (t.field? "key") = "alias" then
    (t.field? "value").filter (·.kind == "object")
  else none

def ofModule (dir : String) (m : Module) : Table String :=
  match m.root.walk.findSome? aliasObject? with
  | some object => Table.ofEntries ((object.namedOf "pair").filterMap (namedPath? dir))
  | none => []

/-! ### Files -/

/-- Why a table cannot be read from a file. -/
inductive SourceFault where
  | refused (cause : AliasFault)
  | undecodable
deriving DecidableEq, Repr

/-- How the names of modules end. -/
def moduleExtensions : List String := [".js", ".cjs", ".mjs"]

def read (parser : Parser) (files : FileSystem) (path : String) : Outcome SourceFault (Table String) :=
  let file := Path.tidy path
  match files.readText file with
  | .error (.file fault) => Outcome.fail (.refused (.unreadable file fault))
  | .error .undecodable => Outcome.fail .undecodable
  | .ok source =>
    if moduleExtensions.contains (Path.extension file) then do
      let m ← (Module.parse parser source file).mapError (.refused ∘ .unparsable)
      return ofModule (Path.parent file) m
    else
      match Json.read source with
      | .error fault => Outcome.fail (.refused (.malformed file fault))
      | .ok config => Outcome.ofExcept ((ofJson config).mapError .refused)

/-- The table of a configuration file, empty if it cannot be used.  No file gives no aliases. -/
def load (parser : Parser) (files : FileSystem) (path : Option String) :
    Outcome Undecodable (Table String) :=
  match path with
  | none | some "" => pure []
  | some path => do
    match ← (read parser files path).attempt with
    | .ok table =>
      Outcome.tell (.aliasesLoaded table.length path)
      return table
    | .error (.refused cause) =>
      Outcome.tell (.aliasesIgnored cause)
      return []
    | .error .undecodable => Outcome.fail {}

end JsxOutline.AliasTable
