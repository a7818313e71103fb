import JsxOutline.Component
import JsxOutline.FileSystem
import JsxOutline.Json.Writer
import JsxOutline.Log

/-!
# Components as JSON

Every field of a component in a fixed order, with its children nested.  Reading takes a missing field
for its default.  The tree is stored as indented JSON in a file of its own.
-/

namespace JsxOutline.Component

open JsxOutline.Json

/-! ### Writing -/

mutual

def toJson : Component → Value
  | node i cs => .object [
      ("name", .string i.name),
      ("filename", .string i.file),
      ("depth", .integer i.depth),
      ("source", .ofString? i.source),
      ("display_source", .ofString? i.shownSource),
      ("children", .array (toJsonAll cs)),
      ("resolved", .bool i.resolved),
      ("hidden", .bool i.hidden),
      ("unwrapped", .bool i.unwrapped),
      ("recursive", .bool i.recursive),
      ("error", .ofString? i.error)]

def toJsonAll : List Component → List Value
  | [] => []
  | c :: cs => toJson c :: toJsonAll cs

end

/-- The text of the file that a tree is stored in. -/
def document (c : Component) : String := Json.write (.indented 2) c.toJson ++ "\n"

def documentName : String := "data.json"

/-- Stores a tree in a directory: what is on disk then, and the path of its file if it was written in
full. -/
def store (files : FileSystem) (c : Component) (dir : String) :
    FileSystem × Outcome WriteFault String :=
  let path := Path.below dir documentName
  let written := files.write path (Text.toBytes c.document)
  (written.1, do
    Outcome.ofExcept written.2
    Outcome.tell (.treeWritten path)
    return path)

/-! ### Reading -/

def stringIn? (v : Value) (key : String) : Option String := (v.member? key).bind Value.string?

def flagIn (v : Value) (key : String) : Bool := ((v.member? key).map Value.isTrue).getD false

def infoOfJson (v : Value) : Info where
  name := (stringIn? v "name").getD ""
  file := (stringIn? v "filename").getD ""
  depth := ((v.member? "depth").bind Value.integer?).getD 0
  source := stringIn? v "source"
  shownSource := stringIn? v "display_source"
  resolved := flagIn v "resolved"
  hidden := flagIn v "hidden"
  unwrapped := flagIn v "unwrapped"
  recursive := flagIn v "recursive"
  error := stringIn? v "error"

mutual

def ofJson : Value → Component
  | .object ms => .node (infoOfJson (.object ms)) (childrenOfJson ms)
  | _ => .leaf {}

def childrenOfJson : List (String × Value) → List Component
  | [] => []
  | (key, v) :: ms => if key = "children" then itemsOfJson v else childrenOfJson ms

def itemsOfJson : Value → List Component
  | .array vs => ofJsonAll vs
  | _ => []

def ofJsonAll : List Value → List Component
  | [] => []
  | v :: vs => ofJson v :: ofJsonAll vs

end

end JsxOutline.Component
