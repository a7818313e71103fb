/-!
# Paths

Paths are texts.  Everything here is about how they are written; no file is looked at.  A path is
taken apart at its slashes, and of a directory and a name that follows it the name wins if it is
absolute.
-/

namespace JsxOutline.Path

/-! ### Parts -/

/-- The parts of a text between separators, at least one. -/
def splitChars (sep : Char) : List Char → List (List Char)
  | [] => [[]]
  | c :: cs =>
    if c = sep then [] :: splitChars sep cs
    else match splitChars sep cs with
      | [] => [[c]]
      | part :: parts => (c :: part) :: parts

theorem splitChars_ne_nil (sep : Char) (s : List Char) : splitChars sep s ≠ [] := by
  cases s with
  | nil => simp [splitChars]
  | cons c cs =>
    rw [splitChars]
    split
    · simp
    · split <;> simp

/-- Joining the parts again gives the text. -/
theorem intercalate_splitChars (sep : Char) (s : List Char) :
    [sep].intercalate (splitChars sep s) = s := by
  induction s with
  | nil => rfl
  | cons c cs ih =>
    cases h : splitChars sep cs with
    | nil => exact absurd h (splitChars_ne_nil sep cs)
    | cons part parts =>
      rw [h] at ih
      by_cases hc : c = sep
      · simp only [splitChars, hc, if_true, h]
        rw [← ih]
        rfl
      · simp only [splitChars, hc, if_false, h]
        rw [← ih]
        cases parts <;> rfl

/-- No part contains the separator. -/
theorem not_mem_of_mem_splitChars {sep : Char} {s part : List Char} (h : part ∈ splitChars sep s) :
    sep ∉ part := by
  induction s generalizing part with
  | nil => simp_all [splitChars]
  | cons c cs ih =>
    rw [splitChars] at h
    split at h
    · rcases List.mem_cons.1 h with rfl | h
      · simp
      · exact ih h
    · next hc =>
      split at h
      · next hs => exact absurd hs (splitChars_ne_nil sep cs)
      · next first rest hs =>
        rcases List.mem_cons.1 h with rfl | h
        · intro hm
          rcases List.mem_cons.1 hm with rfl | hm
          · exact hc rfl
          · exact ih (hs ▸ List.mem_cons_self) hm
        · exact ih (hs ▸ List.mem_cons_of_mem _ h)

def split (path : String) : List String := (splitChars '/' path.toList).map .ofList

def isAbsolute (path : String) : Bool := path.toList.head? == some '/'

/-- The slashes that the root is written with: two at the start of a path stand for themselves, any
other number for one. -/
def root (path : String) : String :=
  match path.toList with
  | '/' :: '/' :: '/' :: _ => "/"
  | '/' :: '/' :: _ => "//"
  | '/' :: _ => "/"
  | _ => ""

def base (path : String) : String := .ofList (path.toList.reverse.takeWhile (· != '/')).reverse

/-- The text before the last slash.  Slashes at its end are left out, unless there is nothing else. -/
def directory (path : String) : String :=
  let head := path.toList.reverse.dropWhile (· != '/')
  let stripped := head.dropWhile (· == '/')
  .ofList (if stripped.isEmpty then head else stripped).reverse

/-! ### Joining -/

def join (dir path : String) : String :=
  if isAbsolute path then path
  else if dir = "" ∨ dir.toList.getLast? = some '/' then dir ++ path
  else dir ++ "/" ++ path

def joinAll (dir : String) (paths : List String) : String := paths.foldl join dir

/-- A path of a root and names. -/
def ofNames (root : String) (names : List String) : String :=
  let path := root ++ "/".intercalate names
  if path = "" then "." else path

/-! ### Spelling -/

/-- The path without empty names and without names that stay in place. -/
def tidy (path : String) : String :=
  ofNames (root path) ((split path).filter fun name => name != "" && name != ".")

/-- One more name of a normal path; `kept` holds the names before it, the last one first.  A name
that leads up takes back the last one, and is lost at the root. -/
def climb (rooted : Bool) (kept : List String) (name : String) : List String :=
  if name = "" ∨ name = "." then kept
  else if name = ".." then
    match kept with
    | [] => if rooted then [] else [".."]
    | top :: below => if top = ".." then ".." :: kept else below
  else name :: kept

/-- The path in which names that lead up stand only at the start, and no name stays in place. -/
def normalize (path : String) : String :=
  ofNames (root path) ((split path).foldl (climb (isAbsolute path)) []).reverse

def absolute (current path : String) : String := normalize (join current path)

def resolve (current path : String) : String :=
  let path := absolute current path
  if root path = "//" then .ofList path.toList.tail else path

def below (dir path : String) : String := tidy (join dir path)

/-- What comes after a directory in a path that lies below it, else the path itself. -/
def relativeTo (dir path : String) : String :=
  let start := (dir ++ "/").toList
  if start.isPrefixOf path.toList then .ofList (path.toList.drop start.length) else path

/-! ### Names -/

def parent (path : String) : String :=
  let names := (split path).filter (· != "")
  if names.isEmpty ∨ path = "." then path else ofNames (root path) names.dropLast

/-- The last name of a tidy path from its last dot on, unless the dot comes first or last. -/
def extension (path : String) : String :=
  let name := (base path).toList.reverse
  let after := name.takeWhile (· != '.')
  let before := (name.dropWhile (· != '.')).drop 1
  if after.isEmpty || before.isEmpty then "" else .ofList ('.' :: after.reverse)

end JsxOutline.Path
