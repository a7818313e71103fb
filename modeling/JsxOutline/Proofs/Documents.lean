import JsxOutline.Component.Json
import JsxOutline.Proofs.JsonRoundTrip

/-!
# Trees stored as JSON

Main statement: the text in which a tree is stored is in ASCII and is read back as the fields of the
tree, from which the tree is made again.
-/

namespace JsxOutline.Component

open JsxOutline.Json

/-- The names of the fields of a component, in the order in which they are stored. -/
def fieldNames : List String :=
  ["name", "filename", "depth", "source", "display_source", "children", "resolved", "hidden",
    "unwrapped", "recursive", "error"]

theorem toJsonAll_eq_map (cs : List Component) : toJsonAll cs = cs.map toJson := by
  induction cs with
  | nil => rfl
  | cons c cs ih => rw [toJsonAll, ih, List.map_cons]

theorem exists_toJson_eq (c : Component) :
    ∃ ms, c.toJson = .object ms ∧ Table.keys ms = fieldNames ∧
      Table.get? ms "children" = some (.array (c.children.map toJson)) := by
  obtain ⟨i, cs⟩ := c
  refine ⟨_, rfl, rfl, ?_⟩
  rw [children_node, ← toJsonAll_eq_map]
  rfl

/-! ### The stored value -/

theorem isSound_ofString? (s : Option String) : (Value.ofString? s).IsSound := by
  cases s <;> exact trivial

theorem settled_ofString? (s : Option String) : (Value.ofString? s).settled = .ofString? s := by
  cases s <;> rfl

mutual

theorem isSound_toJson : ∀ c : Component, c.toJson.IsSound
  | node i cs => by
    have hchildren := allSound_toJsonAll cs
    simp [toJson, Value.IsSound, Value.MembersSound, isSound_ofString?, hchildren]

theorem allSound_toJsonAll : ∀ cs : List Component, Value.AllSound (toJsonAll cs)
  | [] => trivial
  | c :: cs => ⟨isSound_toJson c, allSound_toJsonAll cs⟩

end

mutual

theorem settled_toJson : ∀ c : Component, c.toJson.settled = c.toJson
  | node i cs => by
    have hchildren := settledAll_toJsonAll cs
    have hkeys : fieldNames.Nodup := by decide
    simp only [toJson, Value.settled, Value.settledMembers, settled_ofString?, hchildren]
    exact congrArg Value.object (Table.ofEntries_of_nodup hkeys)

theorem settledAll_toJsonAll : ∀ cs : List Component,
    Value.settledAll (toJsonAll cs) = toJsonAll cs
  | [] => rfl
  | c :: cs => by
    rw [toJsonAll, Value.settledAll, settled_toJson c, settledAll_toJsonAll cs]

end

/-! ### Making the tree again -/

theorem string?_ofString? (s : Option String) : (Value.ofString? s).string? = s := by
  cases s <;> rfl

theorem member?_cons (k : String) (v : Value) (ms : List (String × Value)) (key : String) :
    (Value.object ((k, v) :: ms)).member? key =
      if k = key then some v else (Value.object ms).member? key := by
  by_cases h : k = key <;> simp [Value.member?, Table.get?, h]

theorem infoOfJson_toJson (i : Info) (cs : List Component) :
    infoOfJson (node i cs).toJson = i := by
  simp only [infoOfJson, stringIn?, flagIn, toJson, member?_cons, Option.bind_some, Option.map_some,
    String.reduceEq, if_true, if_false, string?_ofString?]
  rfl

mutual

theorem ofJson_toJson : ∀ c : Component, ofJson c.toJson = c
  | node i cs => by
    have hinfo := infoOfJson_toJson i cs
    rw [toJson] at hinfo ⊢
    rw [ofJson, hinfo]
    have hchildren := ofJsonAll_toJsonAll cs
    simp [childrenOfJson, itemsOfJson, hchildren]

theorem ofJsonAll_toJsonAll : ∀ cs : List Component, ofJsonAll (toJsonAll cs) = cs
  | [] => rfl
  | c :: cs => by rw [toJsonAll, ofJsonAll, ofJson_toJson c, ofJsonAll_toJsonAll cs]

end

/-! ### The stored text -/

theorem read_document (c : Component) : Json.read c.document = .ok c.toJson := by
  have hnewline : IsBlanks ['\n'] := List.forall_mem_singleton.mpr rfl
  have htext : c.document.toList = writeValue (.indented 2) 0 c.toJson ++ ['\n'] := by
    rw [document, Json.write, String.toList_append, String.toList_ofList]
    rfl
  rw [Json.read, htext, readText_writeValue _ (isSound_toJson c) hnewline, settled_toJson]
  rfl

theorem isAscii_document (c : Component) : IsAscii c.document.toList := by
  have htext := isAscii_writeValue (.indented 2) 0 (isSound_toJson c)
  have hnewline : IsAscii "\n".toList := by simp
  rw [document, Json.write, String.toList_append, String.toList_ofList, isAscii_append]
  exact ⟨htext, hnewline⟩

/-- The stored text of a tree is in ASCII and ends with its last line.  It is read as the value of the
tree, from which the tree is made again, so it tells trees apart.  At each level this value is an
object with the fields of a component and no other. -/
theorem document_lossless (c : Component) :
    IsAscii c.document.toList ∧
      (∃ text, c.document = text ++ "\n") ∧
      Json.read c.document = .ok c.toJson ∧
      (∀ d : Component, ∃ ms, d.toJson = .object ms ∧ Table.keys ms = fieldNames ∧
        Table.get? ms "children" = some (.array (d.children.map toJson))) ∧
      ofJson c.toJson = c ∧
      ∀ d : Component, d.document = c.document ↔ d = c := by
  refine ⟨isAscii_document c, ⟨_, rfl⟩, read_document c, exists_toJson_eq, ofJson_toJson c, ?_⟩
  intro d
  constructor
  · intro h
    have hread := read_document d
    rw [h, read_document c] at hread
    have hvalue : c.toJson = d.toJson := Except.ok.inj hread
    rw [← ofJson_toJson d, ← hvalue, ofJson_toJson c]
  · rintro rfl
    rfl

end JsxOutline.Component
