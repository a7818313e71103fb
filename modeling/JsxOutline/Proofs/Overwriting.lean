import JsxOutline.Proofs.Lookup

/-!
# Overwritten files

A file system in which one file has other bytes.  Main statement: every path leads where it did, and
what is read at a path is the same unless the path leads to that file.
-/

namespace JsxOutline

/-! ### Entries -/

namespace Entry

@[simp] theorem members_directory (ms : List (String × Entry)) : (directory ms).members = ms := rfl

/-- Beside the file itself, what lies below an entry with other bytes in a file is what was there, or
a directory with members of the same names. -/
theorem at?_place_file {e : Entry} {file : Location} {old : List UInt8}
    (hfile : e.at? file = some (.file old)) (new : List UInt8) {l : Location} (hl : l ≠ file) :
    (e.place file (.file new)).at? l = e.at? l ∨
      ∃ ms ms', e.at? l = some (.directory ms) ∧
        (e.place file (.file new)).at? l = some (.directory ms') ∧
        ∀ name, (Table.get? ms' name).isSome = (Table.get? ms name).isSome := by
  induction file generalizing e l with
  | nil =>
    cases hfile
    cases l with
    | nil => exact absurd rfl hl
    | cons name rest => exact .inl rfl
  | cons name rest ih =>
    have hdirectory := eq_directory_of_at?_cons hfile
    obtain ⟨sub, hsub, hrest⟩ := Option.bind_eq_some_iff.mp hfile
    have hplace : e.place (name :: rest) (.file new) =
        .directory (Table.put e.members name (sub.place rest (.file new))) := by
      rw [place, hsub]
      rfl
    cases l with
    | nil =>
      refine .inr ⟨e.members, _, congrArg some hdirectory, congrArg some hplace, ?_⟩
      intro other
      rw [Table.get?_put]
      by_cases hname : name = other
      · rw [if_pos hname, ← hname, hsub]
        rfl
      · rw [if_neg hname]
    | cons first below =>
      rw [hplace, at?, at?, members_directory, Table.get?_put]
      by_cases hname : name = first
      · subst hname
        have hbelow : below ≠ rest := fun heq => hl (heq ▸ rfl)
        rw [if_pos rfl, hsub]
        exact ih hrest hbelow
      · rw [if_neg hname]
        exact .inl rfl

/-- Two entries that paths cannot tell apart. -/
inductive Alike : Option Entry → Option Entry → Prop
  | same (e : Option Entry) : Alike e e
  | files (old new : List UInt8) : Alike (some (.file old)) (some (.file new))
  | directories {ms ms' : List (String × Entry)} :
      (∀ name, (Table.get? ms' name).isSome = (Table.get? ms name).isSome) →
      Alike (some (.directory ms)) (some (.directory ms'))

end Entry

/-! ### Paths -/

namespace FileSystem

def leadsTo (fs : FileSystem) (l : Location) (path : String) : Bool :=
  match fs.locate path with
  | .ok l' => l' == l
  | .error _ => false

variable {fs : FileSystem} {file : Location} {old : List UInt8}

theorem leadsTo_iff {l : Location} {path : String} :
    fs.leadsTo l path = true ↔ fs.locate path = .ok l := by
  unfold leadsTo
  cases fs.locate path <;> simp

section Overwritten

variable (hfile : fs.at? file = some (.file old)) (new : List UInt8)
include hfile

theorem at?_place_alike (l : Location) :
    Entry.Alike (fs.at? l) ((fs.place (.file new) file).at? l) := by
  by_cases hl : l = file
  · rw [hl, hfile, at?_place]
    exact .files old new
  · rcases Entry.at?_place_file hfile new hl with hsame | ⟨ms, ms', hentry, hplaced, hms⟩
    · have hsame' : (fs.place (.file new) file).at? l = fs.at? l := hsame
      rw [hsame']
      exact .same _
    · have hentry' : fs.at? l = some (.directory ms) := hentry
      have hplaced' : (fs.place (.file new) file).at? l = some (.directory ms') := hplaced
      rw [hentry', hplaced']
      exact .directories hms

theorem step_place : (fs.place (.file new) file).step = fs.step := by
  funext here name
  have halike := at?_place_alike hfile new here
  unfold step
  generalize fs.at? here = e at *
  generalize (fs.place (.file new) file).at? here = e' at *
  cases halike with
  | same => rfl
  | files => rfl
  | directories hms => simp only [hms]

theorem locate_place (path : String) :
    (fs.place (.file new) file).locate path = fs.locate path := by
  unfold locate
  rw [step_place hfile]
  rfl

theorem leadsTo_place (l : Location) (path : String) :
    (fs.place (.file new) file).leadsTo l path = fs.leadsTo l path := by
  rw [leadsTo, leadsTo, locate_place hfile]

theorem isFile_place (path : String) :
    (fs.place (.file new) file).isFile path = fs.isFile path := by
  unfold isFile find
  rw [locate_place hfile]
  cases fs.locate path with
  | error cause => rfl
  | ok l =>
    have halike := at?_place_alike hfile new l
    simp only [bind, Except.bind]
    generalize fs.at? l = e at *
    generalize (fs.place (.file new) file).at? l = e' at *
    cases halike <;> rfl

theorem read_place {path : String} (hpath : fs.locate path ≠ .ok file) :
    (fs.place (.file new) file).read path = fs.read path := by
  unfold read find
  rw [locate_place hfile]
  cases hl : fs.locate path with
  | error cause => rfl
  | ok l =>
    have hne : l ≠ file := fun heq => hpath (heq ▸ hl)
    simp only [bind, Except.bind]
    rcases Entry.at?_place_file hfile new hne with hsame | ⟨ms, ms', hentry, hplaced, -⟩
    · have hsame' : (fs.place (.file new) file).at? l = fs.at? l := hsame
      rw [hsame']
    · have hentry' : fs.at? l = some (.directory ms) := hentry
      have hplaced' : (fs.place (.file new) file).at? l = some (.directory ms') := hplaced
      rw [hentry', hplaced']
      rfl

theorem readText_place {path : String} (hpath : fs.isFile path = true)
    (hleads : fs.leadsTo file path = false) :
    (fs.place (.file new) file).readText path = fs.readText path := by
  have helsewhere : fs.locate (Path.tidy path) ≠ .ok file := by
    rw [locate_tidy hpath]
    intro heq
    rw [leadsTo_iff.mpr heq] at hleads
    cases hleads
  rw [readText, readText, read_place hfile new helsewhere]

end Overwritten

end FileSystem

end JsxOutline
