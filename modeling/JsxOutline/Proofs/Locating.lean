import JsxOutline.Locating

/-!
# What is located

Which files can be located, and with which texts.  Main statement: what is located is a file that can
be read, with its own text, on whichever way it was found.
-/

namespace JsxOutline.Project

variable {p : Project}

/-- A file is there and can be read as a text. -/
def Holds (p : Project) (file text : String) : Prop :=
  p.files.isFile file = true ∧ p.files.readText file = .ok text

theorem Holds.unique {file text text' : String} (h : p.Holds file text) (h' : p.Holds file text') :
    text = text' :=
  Except.ok.inj (h.2.symm.trans h'.2)

theorem readSource_eq_some_iff {file text : String} :
    (p.readSource file).result = .ok (some text) ↔ p.Holds file text := by
  unfold readSource Holds
  by_cases hfile : p.files.isFile file = true
  · simp only [hfile, if_true, true_and]
    cases hread : p.files.readText file with
    | ok source => simp
    | error fault =>
      cases fault with
      | file f =>
        simp only [Outcome.tell_bind_result, Outcome.pure_result, Except.ok.injEq, reduceCtorEq]
      | undecodable => simp
  · simp [hfile]

theorem firstReadable_holds {files : List String} {file text : String}
    (h : (p.firstReadable files).result = .ok (some (file, text))) :
    file ∈ files ∧ p.Holds file text := by
  induction files with
  | nil => simp [firstReadable] at h
  | cons first rest ih =>
    rw [firstReadable, Outcome.bind_result_eq_ok_iff] at h
    obtain ⟨source, hsource, h⟩ := h
    cases source with
    | some source =>
      simp only [Outcome.pure_result, Except.ok.injEq, Option.some.injEq, Prod.mk.injEq] at h
      obtain ⟨rfl, rfl⟩ := h
      exact ⟨List.mem_cons_self, readSource_eq_some_iff.mp hsource⟩
    | none =>
      obtain ⟨hmem, hholds⟩ := ih h
      exact ⟨List.mem_cons_of_mem _ hmem, hholds⟩

/-- What an index file leads to is one of the files that its binding of the name stands for. -/
theorem followIndex_eq_some {name index source : String} {l : Located}
    (h : (p.followIndex name index source).result = .ok (some l)) :
    p.Holds l.file l.source ∧ l.index = some index ∧ ∃ b ending,
      (p.indexBinding? name index source).result = .ok (some b) ∧ ending ∈ targetEndings ∧
        l.file = reexportTarget index b.source ++ ending := by
  rw [followIndex, Outcome.bind_result_eq_ok_iff] at h
  obtain ⟨b, hb, h⟩ := h
  cases b with
  | none => simp at h
  | some b =>
    obtain ⟨found, hfound, h⟩ := Outcome.bind_result_eq_ok_iff.mp h
    cases found with
    | none => simp only [Outcome.tell_bind_result, Outcome.pure_result, Except.ok.injEq,
        reduceCtorEq] at h
    | some found =>
      simp only [Outcome.tell_bind_result, Outcome.pure_result, Except.ok.injEq,
        Option.some.injEq] at h
      subst h
      obtain ⟨hmem, hholds⟩ := firstReadable_holds hfound
      obtain ⟨ending, hending, hfile⟩ := List.mem_map.mp hmem
      exact ⟨hholds, rfl, b, ending, hb, hending, hfile.symm⟩

/-- What is located is the first readable candidate, or what that leads to as an index file. -/
theorem locate_eq_some {name : String} {candidates : List String} {l : Located}
    (h : (p.locate name candidates).result = .ok (some l)) :
    ∃ file source, (p.firstReadable candidates).result = .ok (some (file, source)) ∧
      (l = ⟨file, source, none⟩ ∨
        isIndex file = true ∧ (p.followIndex name file source).result = .ok (some l)) := by
  rw [locate, Outcome.bind_result_eq_ok_iff] at h
  obtain ⟨found, hfound, h⟩ := h
  cases found with
  | none => simp at h
  | some found =>
    obtain ⟨file, source⟩ := found
    refine ⟨file, source, hfound, ?_⟩
    by_cases hindex : isIndex file = true
    · simp only [hindex, if_true, Outcome.bind_result_eq_ok_iff] at h
      obtain ⟨followed, hfollowed, h⟩ := h
      cases followed with
      | none =>
        simp only [Outcome.tell_bind_result, Outcome.pure_result, Except.ok.injEq,
          Option.some.injEq] at h
        exact .inl h.symm
      | some located =>
        simp only [Outcome.pure_result, Except.ok.injEq, Option.some.injEq] at h
        subst h
        exact .inr ⟨hindex, hfollowed⟩
    · simp only [hindex, Bool.false_eq_true, if_false, pure_bind, Outcome.tell_bind_result,
        Outcome.pure_result, Except.ok.injEq, Option.some.injEq] at h
      exact .inl h.symm

theorem locate_holds {name : String} {candidates : List String} {l : Located}
    (h : (p.locate name candidates).result = .ok (some l)) : p.Holds l.file l.source := by
  obtain ⟨file, source, hfound, rfl | ⟨-, hfollowed⟩⟩ := locate_eq_some h
  · exact (firstReadable_holds hfound).2
  · exact (followIndex_eq_some hfollowed).1

/-- All that following an index file can end with. -/
theorem followIndex_eq_ok {name index source : String} {found : Option Located}
    (h : (p.followIndex name index source).result = .ok found) :
    (p.indexBinding? name index source).result = .ok none ∧ found = none ∨
      ∃ b target, (p.indexBinding? name index source).result = .ok (some b) ∧
        (p.firstReadable (targetEndings.map (reexportTarget index b.source ++ ·))).result =
          .ok target ∧
        found = target.map fun t => ⟨t.1, t.2, some index⟩ := by
  rw [followIndex, Outcome.bind_result_eq_ok_iff] at h
  obtain ⟨b, hb, h⟩ := h
  cases b with
  | none =>
    cases h
    exact .inl ⟨hb, rfl⟩
  | some b =>
    obtain ⟨target, htarget, h⟩ := Outcome.bind_result_eq_ok_iff.mp h
    refine .inr ⟨b, target, hb, htarget, ?_⟩
    cases target with
    | none =>
      cases h
      rfl
    | some t =>
      cases h
      rfl

/-- All that locating can end with. -/
theorem locate_eq_ok {name : String} {candidates : List String} {found : Option Located}
    (h : (p.locate name candidates).result = .ok found) :
    (p.firstReadable candidates).result = .ok none ∧ found = none ∨
      ∃ file source followed, (p.firstReadable candidates).result = .ok (some (file, source)) ∧
        (isIndex file = false ∧ followed = none ∨
          isIndex file = true ∧ (p.followIndex name file source).result = .ok followed) ∧
        found = some (followed.getD ⟨file, source, none⟩) := by
  rw [locate, Outcome.bind_result_eq_ok_iff] at h
  obtain ⟨first, hfirst, h⟩ := h
  cases first with
  | none =>
    cases h
    exact .inl ⟨hfirst, rfl⟩
  | some first =>
    obtain ⟨file, source⟩ := first
    refine .inr ⟨file, source, ?_⟩
    by_cases hindex : isIndex file = true
    · simp only [hindex, if_true, Outcome.bind_result_eq_ok_iff] at h
      obtain ⟨followed, hfollowed, h⟩ := h
      refine ⟨followed, hfirst, .inr ⟨hindex, hfollowed⟩, ?_⟩
      cases followed <;> cases h <;> rfl
    · simp only [hindex, Bool.false_eq_true, if_false] at h
      cases h
      exact ⟨none, hfirst, .inl ⟨Bool.eq_false_iff.mpr hindex, rfl⟩, rfl⟩

end JsxOutline.Project
