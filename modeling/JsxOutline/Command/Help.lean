import JsxOutline.Command.Arguments

/-!
# Help

The text that explains the command line: each switch with its purpose beside it, in a column of its
own, filled to the width of a terminal.
-/

namespace JsxOutline.Command

def programName : String := "comptree"

def programVersion : String := "1.1.1"

def usage : String := s!"usage: {programName} [opts] <path/to/rootComponent>"

/-- The column in which purposes begin. -/
def purposeColumn : Nat := 24

/-- How many columns purposes have. -/
def purposeWidth : Nat := 54

/-- Lines of words, each as long as fits the width; `line` is the one that is being filled. -/
def fill (width : Nat) (line : String) : List String → List String
  | [] => if line = "" then [] else [line]
  | word :: rest =>
    if line = "" then fill width word rest
    else if line.length + 1 + word.length ≤ width then fill width (line ++ " " ++ word) rest
    else line :: fill width word rest

def blanks (n : Nat) : String := .ofList (List.replicate n ' ')

/-- The lines of an entry.  What is too long for its column stands on a line of its own. -/
def entryLines (entry purpose : String) : List String :=
  let lines := fill purposeWidth "" (purpose.splitOn " ")
  let indented := lines.map (blanks purposeColumn ++ ·)
  let room := purposeColumn - 4
  if entry.length ≤ room then
    match lines with
    | first :: _ => ("  " ++ entry ++ blanks (room - entry.length) ++ "  " ++ first) :: indented.tail
    | [] => ["  " ++ entry]
  else ("  " ++ entry) :: indented

/-- A switch with its spellings, each with the name of its value. -/
def Switch.entry (s : Switch) : String :=
  let value := (s.valueName?.map (" " ++ ·)).getD ""
  ", ".intercalate (s.names.map (· ++ value))

def helpLines : List String :=
  [usage, "", "React component hierarchy viewer.", "", "positional arguments:"]
    ++ entryLines "root_component" "Path to the root component source file"
    ++ ["", "options:"]
    ++ Switch.all.flatMap fun s => entryLines s.entry s.purpose

end JsxOutline.Command
