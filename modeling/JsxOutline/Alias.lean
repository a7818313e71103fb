import JsxOutline.Table
import JsxOutline.Module.Imports

/-!
# Aliases

A table of aliases gives names for the first part of a specifier, each with a path in its place.
-/

namespace JsxOutline

/-- The values of aliases.  A value that is not a path takes part only in that the table is not
empty. -/
abbrev AliasTable := Table (Option String)

namespace AliasTable

def path? (t : AliasTable) (key : String) : Option String := (Table.get? t key).join

/-- The specifier with a path in place of its first part, if that is an alias. -/
def resolve (t : AliasTable) (specifier : String) : String :=
  let s := specifier.toList
  let tail := (s.dropWhile (· != '/')).tail
  match t.path? (.ofList (s.takeWhile (· != '/'))) with
  | none => specifier
  | some path => if tail.isEmpty then path else path ++ "/" ++ .ofList tail

def ofPaths (paths : Table String) : AliasTable := paths.map fun (k, v) => (k, some v)

end AliasTable

end JsxOutline
