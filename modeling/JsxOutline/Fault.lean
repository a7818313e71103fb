import JsxOutline.FileSystem
import JsxOutline.Json.Reader
import JsxOutline.Text.Lines

/-!
# Faults

Why a module or an alias configuration cannot be used, each cause with its words.
-/

namespace JsxOutline

open JsxOutline.Text (Place)

/-- A module that does not fit the grammar, by the place of its first error. -/
structure SyntaxFault where
  file : String
  place : Place
deriving DecidableEq, Repr

namespace SyntaxFault

/-- Where the error is; lines and columns are counted from one. -/
def summary (f : SyntaxFault) : String :=
  s!"syntax error at line {f.place.line + 1}, column {f.place.column + 1}"

def message (f : SyntaxFault) : String := s!"Could not parse {f.file}: {f.summary}"

end SyntaxFault

/-- A text whose bytes are not what the mark before them says. -/
structure Undecodable where
deriving DecidableEq, Repr

inductive AliasFault where
  /-- The file cannot be read. -/
  | unreadable (path : String) (cause : FileFault)
  /-- The file is a module without a usable statement. -/
  | unparsable (cause : SyntaxFault)
  /-- The file is not JSON. -/
  | malformed (path : String) (cause : Json.Fault)
  /-- The table of aliases is not an object. -/
  | notObject
deriving DecidableEq, Repr

def AliasFault.message : AliasFault → String
  | unreadable path cause => s!"Cannot read alias config {path}: {cause.message}"
  | unparsable cause => cause.message
  | malformed path cause => s!"Invalid JSON in {path}: {cause.message}"
  | notObject => "resolve.alias must be an object"

end JsxOutline
