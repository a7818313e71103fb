import JsxOutline.Proofs.Decoding
import JsxOutline.Proofs.Growth

/-!
# When a build fails

Files that are not there, that may not be read or that cannot be parsed end no build.  Main
statement: with a scan depth a build fails exactly when it reads a file whose bytes are no text.
-/

namespace JsxOutline

/-- No file of the file system has bytes that are no text. -/
def FileSystem.Decodes (fs : FileSystem) : Prop :=
  ∀ l bytes, fs.at? l = some (.file bytes) → ¬ Text.Garbled bytes

theorem FileSystem.exists_at?_of_read {fs : FileSystem} {path : String} {bytes : List UInt8}
    (h : fs.read path = .ok bytes) : ∃ l, fs.at? l = some (.file bytes) := by
  unfold read find at h
  cases hlocate : fs.locate path with
  | error cause =>
    rw [hlocate] at h
    cases h
  | ok l =>
    rw [hlocate] at h
    refine ⟨l, ?_⟩
    cases hentry : fs.at? l with
    | none => simp [hentry, bind, Except.bind, throw, throwThe, MonadExceptOf.throw] at h
    | some e =>
      simp only [hentry, bind, Except.bind, pure, Except.pure] at h
      cases e with
      | file bytes' => rw [Except.ok.inj h]
      | lockedFile | directory => cases h

namespace Project

variable {p : Project} {c : Config}

/-! ### Reading -/

/-- A file is there, but its bytes are no text. -/
def Garbled (p : Project) (file : String) : Prop :=
  p.files.isFile file = true ∧
    ∃ bytes, p.files.read (Path.tidy file) = .ok bytes ∧ Text.Garbled bytes

theorem readSource_eq_error_iff {file : String} {fault : Undecodable} :
    (p.readSource file).result = .error fault ↔ p.Garbled file := by
  unfold readSource Garbled FileSystem.readText
  by_cases hfile : p.files.isFile file = true
  · simp only [hfile, if_true, true_and]
    cases hread : p.files.read (Path.tidy file) with
    | error f => simp [Outcome.tell_bind_result, -LawfulMonad.bind_pure_comp]
    | ok bytes =>
      cases htext : Text.ofBytes? bytes with
      | none => simp [← Text.ofBytes?_eq_none_iff, htext]
      | some text => simp [← Text.ofBytes?_eq_none_iff, htext]
  · simp [hfile]

/-- A search for the first file with a text comes to a file: those before it are passed over. -/
def Searches (p : Project) (files : List String) (file : String) : Prop :=
  ∃ before after, files = before ++ file :: after ∧ ∀ f ∈ before, (p.readSource f).result = .ok none

theorem firstReadable_eq_error_iff {files : List String} {fault : Undecodable} :
    (p.firstReadable files).result = .error fault ↔
      ∃ file, p.Searches files file ∧ p.Garbled file := by
  induction files with
  | nil =>
    constructor
    · intro h
      cases h
    · rintro ⟨file, ⟨before, after, hfiles, -⟩, -⟩
      simp at hfiles
  | cons first rest ih =>
    rw [firstReadable, Outcome.bind_result_eq_error_iff, readSource_eq_error_iff]
    constructor
    · rintro (hgarbled | ⟨source, hsource, h⟩)
      · exact ⟨first, ⟨[], rest, rfl, by simp⟩, hgarbled⟩
      · cases source with
        | some source => cases h
        | none =>
          obtain ⟨file, ⟨before, after, rfl, hbefore⟩, hgarbled⟩ := ih.mp h
          refine ⟨file, ⟨first :: before, after, rfl, ?_⟩, hgarbled⟩
          exact List.forall_mem_cons.mpr ⟨hsource, hbefore⟩
    · rintro ⟨file, ⟨before, after, hfiles, hbefore⟩, hgarbled⟩
      cases before with
      | nil =>
        obtain ⟨rfl, -⟩ := List.cons.inj hfiles
        exact .inl hgarbled
      | cons f before =>
        obtain ⟨rfl, rfl⟩ := List.cons.inj hfiles
        obtain ⟨hpassed, hbefore⟩ := List.forall_mem_cons.mp hbefore
        exact .inr ⟨none, hpassed, ih.mpr ⟨file, ⟨before, after, rfl, hbefore⟩, hgarbled⟩⟩

/-! ### Locating -/

/-- To locate the component of a site a file is tried: a candidate, or, if the first candidate with
a text is an index file, a file that it may stand for. -/
inductive Tries (p : Project) (c : Config) (s : Site) (file : String) : Prop
  | candidate : p.Searches (c.candidates s.guess s.source s.parent) file → Tries p c s file
  | target {index text : String} {b : Binding} :
      (p.firstReadable (c.candidates s.guess s.source s.parent)).result =
        .ok (some (index, text)) →
      isIndex index = true → (p.indexBinding? s.name index text).result = .ok (some b) →
      p.Searches (targetEndings.map (reexportTarget index b.source ++ ·)) file → Tries p c s file

theorem exists_indexBinding? (p : Project) (name index source : String) :
    ∃ b, (p.indexBinding? name index source).result = .ok b := by
  unfold indexBinding?
  simp only [Outcome.bind_result_eq_ok_iff, Outcome.attempt_result, Except.ok.injEq]
  cases hparsed : (Module.parse p.parser source index).result with
  | ok m => exact ⟨_, _, rfl, rfl⟩
  | error fault => exact ⟨_, _, rfl, rfl⟩

theorem followIndex_eq_error_iff {name index source : String} {fault : Undecodable} :
    (p.followIndex name index source).result = .error fault ↔
      ∃ b, (p.indexBinding? name index source).result = .ok (some b) ∧
        ∃ file, p.Searches (targetEndings.map (reexportTarget index b.source ++ ·)) file ∧
          p.Garbled file := by
  obtain ⟨found, hfound⟩ := exists_indexBinding? p name index source
  rw [followIndex, Outcome.bind_result_eq_error_iff, hfound]
  constructor
  · rintro (h | ⟨b, hb, h⟩)
    · cases h
    · cases b with
      | none => cases h
      | some b =>
        rcases Outcome.bind_result_eq_error_iff.mp h with h | ⟨target, -, h⟩
        · exact ⟨b, hb, firstReadable_eq_error_iff.mp h⟩
        · cases target <;> cases h
  · rintro ⟨b, hb, h⟩
    refine .inr ⟨some b, hb, Outcome.bind_result_eq_error_iff.mpr (.inl ?_)⟩
    exact firstReadable_eq_error_iff.mpr h

theorem locate_eq_error_iff {s : Site} {fault : Undecodable} :
    (p.locate s.name (c.candidates s.guess s.source s.parent)).result = .error fault ↔
      ∃ file, p.Tries c s file ∧ p.Garbled file := by
  rw [locate, Outcome.bind_result_eq_error_iff, firstReadable_eq_error_iff]
  constructor
  · rintro (⟨file, hsearch, hgarbled⟩ | ⟨found, hfound, h⟩)
    · exact ⟨file, .candidate hsearch, hgarbled⟩
    · cases found with
      | none => cases h
      | some found =>
        obtain ⟨index, text⟩ := found
        by_cases hindex : isIndex index = true
        · simp only [hindex, if_true, Outcome.bind_result_eq_error_iff] at h
          rcases h with h | ⟨followed, -, h⟩
          · obtain ⟨b, hb, file, hsearch, hgarbled⟩ := followIndex_eq_error_iff.mp h
            exact ⟨file, .target hfound hindex hb hsearch, hgarbled⟩
          · cases followed <;> cases h
        · simp only [hindex, Bool.false_eq_true, if_false] at h
          cases h
  · rintro ⟨file, htries, hgarbled⟩
    cases htries with
    | candidate hsearch => exact .inl ⟨file, hsearch, hgarbled⟩
    | @target index text b hfound hindex hb hsearch =>
      refine .inr ⟨(index, text), hfound, ?_⟩
      simp only [hindex, if_true, Outcome.bind_result_eq_error_iff]
      exact .inl (followIndex_eq_error_iff.mpr ⟨b, hb, file, hsearch, hgarbled⟩)

theorem locateSite_eq_error_iff {s : Site} {fault : BuildFault} :
    (p.locateSite c s).result = .error fault ↔
      fault = .undecodable ∧ ∃ file, p.Tries c s file ∧ p.Garbled file := by
  rw [locateSite, Outcome.mapError_result_eq_error_iff]
  constructor
  · rintro ⟨cause, hcause, rfl⟩
    exact ⟨rfl, locate_eq_error_iff.mp hcause⟩
  · rintro ⟨rfl, hfile⟩
    exact ⟨{}, locate_eq_error_iff.mpr hfile, rfl⟩

/-! ### Growing -/

/-- A component stands at a site, with so many levels left and below the components of some files. -/
inductive Visits (p : Project) (c : Config) : Nat → List String → Site → Site → Prop
  | here {levels : Nat} {seen : List String} {s : Site} : Visits p c levels seen s s
  | child {levels : Nat} {seen : List String} {s t : Site} {l : Located} {m : Module} {b : Binding} :
      (p.locateSite c s).result = .ok (some l) → l.file ∉ seen →
      (Module.parse p.parser l.source l.file).result = .ok m → b ∈ m.childBindings.1 →
      Visits p c levels (l.file :: seen) (.ofBinding c (s.depth + 1) l.file b) t →
      Visits p c (levels + 1) seen s t

theorem Grows.locates {levels : Nat} {seen : List String} {s t : Site} {g : Growth}
    (h : p.Grows c levels seen s g) (ht : p.Visits c levels seen s t) :
    ∃ l, (p.locateSite c t).result = .ok l := by
  induction ht generalizing g with
  | here => exact h.exists_located
  | child hlocated hnew hparsed hb _ ih =>
    obtain ⟨uses, hfst, huses, -⟩ := h.of_parsed hlocated hnew hparsed
    rw [← hfst] at hb
    obtain ⟨u, hu, rfl⟩ := List.mem_map.mp hb
    exact ih (huses u hu)

/-- Growing fails where a component cannot be located, or where a tree without a scan depth does not
end. -/
theorem visit_of_grow_error {levels : Nat} {seen : List String} {s : Site} {fault : BuildFault}
    (h : (p.grow c levels seen s).result = .error fault) :
    (∃ t, p.Visits c levels seen s t ∧ (p.locateSite c t).result = .error fault) ∨
      fault = .endless ∧ c.scanDepth = none := by
  induction levels using Nat.strongRecOn generalizing seen s with
  | ind levels ih =>
    rw [grow.eq_def] at h
    rcases Outcome.bind_result_eq_error_iff.mp h with h | ⟨located, hlocated, h⟩
    · exact .inl ⟨s, .here, h⟩
    · cases located with
      | none => cases h
      | some l =>
        simp only [List.contains_iff_mem] at h
        by_cases hnew : l.file ∈ seen
        · rw [if_pos hnew] at h
          cases h
        · rw [if_neg hnew] at h
          cases levels with
          | zero =>
            cases hlimit : c.scanDepth with
            | none =>
              rw [hlimit] at h
              cases h
              exact .inr ⟨rfl, rfl⟩
            | some limit =>
              rw [hlimit] at h
              cases h
          | succ levels =>
            simp only [Outcome.bind_result_eq_error_iff, Outcome.attempt_result, reduceCtorEq,
              false_or, Except.ok.injEq] at h
            obtain ⟨parsed, rfl, h⟩ := h
            cases hparsed : (Module.parse p.parser l.source l.file).result with
            | error cause =>
              rw [hparsed] at h
              cases h
            | ok m =>
              simp only [hparsed, Outcome.bind_result_eq_error_iff, Outcome.pure_result,
                reduceCtorEq, and_false, exists_false, or_false] at h
              obtain ⟨b, hb, hgrow⟩ := Outcome.exists_error_of_mapM h
              refine (ih levels (Nat.lt_succ_self _) hgrow).imp_left ?_
              rintro ⟨t, ht, hfault⟩
              exact ⟨t, .child hlocated hnew hparsed hb ht, hfault⟩

/-- With a scan depth only locating can fail. -/
theorem exists_visit_of_grow (hlimit : c.scanDepth.isSome = true) {levels : Nat}
    {seen : List String} {s : Site} {fault : BuildFault}
    (h : (p.grow c levels seen s).result = .error fault) :
    ∃ t, p.Visits c levels seen s t ∧ (p.locateSite c t).result = .error fault := by
  refine (visit_of_grow_error h).resolve_right ?_
  rintro ⟨-, hnone⟩
  rw [hnone] at hlimit
  cases hlimit

/-- To grow a site a file is read: a component at a site below is to be located. -/
def Reads (p : Project) (c : Config) (levels : Nat) (s : Site) (file : String) : Prop :=
  ∃ t, p.Visits c levels [] s t ∧ p.Tries c t file

theorem grow_eq_error_iff (hlimit : c.scanDepth.isSome = true) {levels : Nat} {s : Site}
    {fault : BuildFault} :
    (p.grow c levels [] s).result = .error fault ↔
      fault = .undecodable ∧ ∃ file, p.Reads c levels s file ∧ p.Garbled file := by
  constructor
  · intro h
    obtain ⟨t, ht, hfault⟩ := exists_visit_of_grow hlimit h
    obtain ⟨hundecodable, file, htries, hgarbled⟩ := locateSite_eq_error_iff.mp hfault
    exact ⟨hundecodable, file, ⟨t, ht, htries⟩, hgarbled⟩
  · rintro ⟨rfl, file, ⟨t, ht, htries⟩, hgarbled⟩
    have hfault : (p.locateSite c t).result = .error .undecodable :=
      locateSite_eq_error_iff.mpr ⟨rfl, file, htries, hgarbled⟩
    cases hgrow : (p.grow c levels [] s).result with
    | ok g =>
      obtain ⟨l, hlocated⟩ := (grows_of_grow hgrow).locates ht
      rw [hfault] at hlocated
      cases hlocated
    | error cause =>
      obtain ⟨t', -, hcause⟩ := exists_visit_of_grow hlimit hgrow
      rw [(locateSite_eq_error_iff.mp hcause).1]

theorem not_garbled_of_decodes (h : p.files.Decodes) (file : String) : ¬ p.Garbled file := by
  rintro ⟨-, bytes, hread, hgarbled⟩
  obtain ⟨l, hentry⟩ := FileSystem.exists_at?_of_read hread
  exact h l bytes hentry hgarbled

theorem exists_located_of_decodes (h : p.files.Decodes) (s : Site) :
    ∃ found, (p.locateSite c s).result = .ok found := by
  cases hlocated : (p.locateSite c s).result with
  | ok found => exact ⟨found, rfl⟩
  | error fault =>
    obtain ⟨-, file, -, hgarbled⟩ := locateSite_eq_error_iff.mp hlocated
    exact absurd hgarbled (not_garbled_of_decodes h file)

theorem exists_grow_of_decodes (h : p.files.Decodes) (hlimit : c.scanDepth.isSome = true)
    (levels : Nat) (s : Site) : ∃ g, (p.grow c levels [] s).result = .ok g := by
  cases hgrow : (p.grow c levels [] s).result with
  | ok g => exact ⟨g, rfl⟩
  | error fault =>
    obtain ⟨-, file, -, hgarbled⟩ := (grow_eq_error_iff hlimit).mp hgrow
    exact absurd hgarbled (not_garbled_of_decodes h file)

/-- With a scan depth a build gives a tree exactly when each file that it reads has a text, whichever
files are not there, may not be read or cannot be parsed; and it can fail in no other way. -/
theorem build_returns_iff (hlimit : c.scanDepth.isSome = true) (path : String) :
    ((∃ g, (p.build c path).result = .ok g) ↔
      ∀ file, p.Reads c (c.levels?.getD maxLevels) (.ofRoot (p.rootFile c path)) file →
        ¬ p.Garbled file) ∧
    ∀ fault, (p.build c path).result = .error fault → fault = .undecodable := by
  refine ⟨?_, fun fault h => ((grow_eq_error_iff hlimit).mp h).1⟩
  constructor
  · rintro ⟨g, hg⟩ file hreads hgarbled
    have hfails : (p.build c path).result = .error .undecodable :=
      (grow_eq_error_iff hlimit).mpr ⟨rfl, file, hreads, hgarbled⟩
    rw [hg] at hfails
    cases hfails
  · intro hreads
    cases hbuild : (p.build c path).result with
    | ok g => exact ⟨g, rfl⟩
    | error fault =>
      obtain ⟨-, file, hfile, hgarbled⟩ := (grow_eq_error_iff hlimit).mp hbuild
      exact absurd hgarbled (hreads file hfile)

/-- A project whose root module wraps the component of a file that is marked as UTF-16 but ends
within a unit. -/
def spoiled : Project :=
  { wrapper "./B" with
    files := {
      root := .directory [("p", .directory
        [("A.js", .file (Text.toBytes (wrapperText "./B"))), ("B.js", .file [0xFF, 0xFE, 0x00])])]
      current := ["p"] } }

/-- The file without a text ends the whole build, though it backs one component only. -/
theorem not_build_spoiled :
    ¬ ∃ g, (spoiled.build { scanDepth := some 1, base := "/p" } "A.js").result = .ok g := by
  have hfails : (spoiled.build { scanDepth := some 1, base := "/p" } "A.js").result =
      .error .undecodable := by decide +kernel
  rintro ⟨g, hg⟩
  rw [hfails] at hg
  cases hg

theorem build_returns_spoiled :
    spoiled.Garbled "/p/B.js" ∧
      (spoiled.build { scanDepth := some 0, base := "/p" } "A.js").result =
        .ok (.ofInfo { name := "A", file := "/p/A.js", resolved := true }) ∧
      ∀ file, spoiled.Reads { scanDepth := some 0, base := "/p" } 0 (.ofRoot "/p/A.js") file →
        ¬ spoiled.Garbled file := by
  have hgarbled : spoiled.Garbled "/p/B.js" :=
    ⟨by decide +kernel, [0xFF, 0xFE, 0x00], by rfl, .little, [0x00], rfl, rfl⟩
  have hbuild : (spoiled.build { scanDepth := some 0, base := "/p" } "A.js").result =
      .ok (.ofInfo { name := "A", file := "/p/A.js", resolved := true }) := by decide +kernel
  refine ⟨hgarbled, hbuild, ?_⟩
  intro file hreads
  refine (build_returns_iff rfl "A.js").1.mp ⟨_, hbuild⟩ file ?_
  have hroot : spoiled.rootFile { scanDepth := some 0, base := "/p" } "A.js" = "/p/A.js" := by
    decide +kernel
  rw [hroot]
  exact hreads

end Project

end JsxOutline
