import JsxOutline.Proofs.AliasFiles
import JsxOutline.Proofs.JsonRoundTrip

/-!
# Aliases that were written

A table of aliases that is written as JSON, in any layout and encoding and with other members around
it, is read back.  Main statement: what is read are the entries whose values are texts, in their
order; a key that is there more than once keeps its first place and has its last value.
-/

namespace JsxOutline

/-! ### Tables of entries -/

namespace Table

variable {α β : Type}

theorem get?_cons (e : String × α) (t : Table α) (key : String) :
    get? (e :: t) key = if e.1 = key then some e.2 else get? t key := by
  by_cases h : e.1 = key <;> simp [get?, h]

theorem get?_append_of_not_mem {s : Table α} {key : String} (h : key ∉ keys s) (t : Table α) :
    get? (s ++ t) key = get? t key := by
  induction s with
  | nil => rfl
  | cons e s ih =>
    obtain ⟨hkey, hs⟩ := not_or.mp (mt List.mem_cons.mpr h)
    rw [List.cons_append, get?_cons, if_neg fun he => hkey he.symm, ih hs]

theorem get?_map (f : α → β) (t : Table α) (key : String) :
    get? (t.map fun e => (e.1, f e.2)) key = (get? t key).map f := by
  induction t with
  | nil => rfl
  | cons e t ih =>
    rw [List.map_cons, get?_cons, get?_cons, ih]
    split <;> rfl

/-- In a table the last entry of a key counts. -/
theorem get?_ofEntries (entries : List (String × α)) (key : String) :
    get? (ofEntries entries) key = get? entries.reverse key := by
  induction entries using List.reverseRecOn with
  | nil => rfl
  | append_singleton entries e ih =>
    rw [get?_ofEntries_concat, ih, List.reverse_concat, get?_cons]

/-- In a table the first entry of a key gives its place. -/
theorem keys_ofEntries (entries : List (String × α)) :
    keys (ofEntries entries) = (keys entries).eraseDups := by
  induction entries using List.reverseRecOn with
  | nil => rfl
  | append_singleton entries e ih =>
    have hkeys : keys (entries ++ [e]) = keys entries ++ [e.1] := List.map_append
    rw [ofEntries_concat, keys_put, ih, hkeys, List.eraseDups_append]
    by_cases h : e.1 ∈ keys entries <;> simp [h, List.removeAll, List.eraseDups_cons]

theorem nodup_keys_ofEntries (entries : List (String × α)) : (keys (ofEntries entries)).Nodup := by
  induction entries using List.reverseRecOn with
  | nil => exact List.nodup_nil
  | append_singleton entries e ih =>
    rw [ofEntries_concat, keys_put]
    split
    · exact ih
    · next h =>
      rw [List.nodup_append]
      refine ⟨ih, List.pairwise_singleton _ _, ?_⟩
      rintro key hkey _ hlast rfl
      exact h (List.mem_singleton.mp hlast ▸ hkey)

theorem get?_of_mem {t : Table α} (h : (keys t).Nodup) {e : String × α} (he : e ∈ t) :
    get? t e.1 = some e.2 := by
  induction t with
  | nil => cases he
  | cons first t ih =>
    obtain ⟨hfirst, hrest⟩ := List.nodup_cons.mp h
    rw [get?_cons]
    rcases List.mem_cons.mp he with rfl | he
    · rw [if_pos rfl]
    · rw [if_neg, ih hrest he]
      intro hkey
      exact hfirst (hkey ▸ List.mem_map_of_mem he)

end Table

namespace Json.Value

theorem settledMembers_eq_map (ms : List (String × Value)) :
    settledMembers ms = ms.map fun m => (m.1, m.2.settled) := by
  induction ms with
  | nil => rfl
  | cons m ms ih => rw [settledMembers, ih, List.map_cons]

theorem string?_settled (v : Value) : v.settled.string? = v.string? := by
  cases v <;> rfl

end Json.Value

namespace AliasTable

open JsxOutline.Json (Value)

/-! ### Entries whose values are texts -/

def lastValue? (entries : List (String × Value)) (key : String) : Option Value :=
  Table.get? entries.reverse key

def textEntries (entries : List (String × Value)) : Table String :=
  entries.filterMap fun (key, v) => v.string?.map (key, ·)

/-- Each key at its first place with its last value, if that is a text. -/
def textTable (entries : List (String × Value)) : Table String :=
  (Table.keys entries).eraseDups.filterMap fun key =>
    ((lastValue? entries key).bind Value.string?).map (key, ·)

theorem textEntries_ofEntries (entries : List (String × Value)) :
    textEntries (Table.ofEntries entries) = textTable entries := by
  rw [textTable, ← Table.keys_ofEntries, Table.keys, List.filterMap_map, textEntries]
  apply List.filterMap_congr
  intro e he
  rw [Function.comp_apply, lastValue?, ← Table.get?_ofEntries,
    Table.get?_of_mem (Table.nodup_keys_ofEntries entries) he, Option.bind_some]

/-- With no key more than once these are the entries whose values are texts. -/
theorem textTable_of_nodup {entries : List (String × Value)} (h : (Table.keys entries).Nodup) :
    textTable entries = textEntries entries := by
  rw [← textEntries_ofEntries, Table.ofEntries_of_nodup h]

theorem textTable_settledMembers (entries : List (String × Value)) :
    textTable (Value.settledMembers entries) = textTable entries := by
  have hkeys : Table.keys (Value.settledMembers entries) = Table.keys entries := by
    rw [Value.settledMembers_eq_map, Table.keys, List.map_map]
    rfl
  rw [textTable, hkeys, textTable]
  apply List.filterMap_congr
  intro key _
  rw [lastValue?, Value.settledMembers_eq_map, ← List.map_reverse, Table.get?_map, Option.bind_map]
  congr 2
  funext v
  exact Value.string?_settled v

/-! ### Configurations -/

/-- A configuration with a table of aliases between other members. -/
def config (before entries after : List (String × Value)) : Value :=
  .object (before ++ ("resolve", .object [("alias", .object entries)]) :: after)

/-- The bytes that a text can be stored as: UTF-8, or UTF-16 after the mark of its byte order. -/
inductive Stores (text : String) : List UInt8 → Prop
  | utf8 : Stores text text.toUTF8.data.toList
  | utf16 (order : Text.Utf16.ByteOrder) :
      Stores text (order.mark ++ Text.Utf16.encode order text.toList)

theorem Stores.ofBytes? {text : String} {bytes : List UInt8} (h : Stores text bytes) :
    Text.ofBytes? bytes = some text := by
  cases h with
  | utf8 =>
    rw [← Text.Utf8.toBytes_eq]
    exact Text.ofBytes?_toBytes text
  | utf16 order => exact Text.ofBytes?_encode order text

variable {parser : Parser} {files : FileSystem} {path : String}

theorem contains_of_stores {text : String} {bytes : List UInt8} (h : Stores text bytes)
    (hread : files.read (Path.tidy path) = .ok bytes) : Contains files path text := by
  rw [Contains, readText_tidy]
  exact (FileSystem.readText_eq_ok_iff hread).mpr h.ofBytes?

theorem ofJson_of_alias {v : Value} {entries : List (String × Value)}
    (h : (v.member? "resolve").bind (·.member? "alias") = some (.object entries)) :
    ofJson v = .ok (textEntries entries) := by
  rw [ofJson, h]
  rfl

theorem ofJson_settled_config {before entries after : List (String × Value)}
    (hafter : "resolve" ∉ Table.keys after) :
    ofJson (config before entries after).settled = .ok (textTable entries) := by
  have hresolve : (config before entries after).settled.member? "resolve" =
      some (Value.object [("alias", (Value.object entries).settled)]) := by
    rw [config, Value.settled, Value.member?, Table.get?_ofEntries, Value.settledMembers_eq_map,
      ← List.map_reverse, Table.get?_map, List.reverse_append, List.reverse_cons, List.append_assoc,
      Table.get?_append_of_not_mem (by simpa [Table.keys] using hafter)]
    rfl
  have halias : ((config before entries after).settled.member? "resolve").bind
      (·.member? "alias") = some (.object (Table.ofEntries (Value.settledMembers entries))) := by
    rw [hresolve]
    rfl
  rw [ofJson_of_alias halias, textEntries_ofEntries, textTable_settledMembers]

/-- A configuration that was written in any layout and is stored in any encoding, in a file that is
not a module, is read as the table of what is text in it: each key at its first place, with its last
value.  Without a repeated key these are the entries whose values are texts, in their order. -/
theorem read_written {before entries after : List (String × Value)} {bytes : List UInt8}
    (l : Json.Layout) (hafter : "resolve" ∉ Table.keys after)
    (hsound : (config before entries after).IsSound) (hmodule : ¬ IsModuleFile path)
    (hread : files.read (Path.tidy path) = .ok bytes)
    (hbytes : Stores (Json.write l (config before entries after)) bytes) :
    read parser files path = ⟨.ok (textTable entries), []⟩ ∧
      ((Table.keys entries).Nodup → read parser files path = ⟨.ok (textEntries entries), []⟩) := by
  have hjson : Json.read (Json.write l (config before entries after)) =
      .ok (config before entries after).settled := by
    have hnone : Json.IsBlanks [] := nofun
    have htext := Json.readText_writeValue l hsound hnone
    rw [List.append_nil] at htext
    rw [Json.read, Json.write, String.toList_ofList, htext]
    rfl
  have htable : read parser files path = ⟨.ok (textTable entries), []⟩ := by
    rw [read_of_json (contains_of_stores hbytes hread) hmodule, hjson]
    change Outcome.ofExcept ((ofJson _).mapError _) = _
    rw [ofJson_settled_config hafter]
    rfl
  refine ⟨htable, ?_⟩
  intro hnodup
  rw [htable, textTable_of_nodup hnodup]

/-- Keys with two values, of which the last one counts, a character of two units and a number. -/
def repeating : List (String × Value) :=
  [("@", .string "src"), ("lib", .string "lib"), ("icons", .string "\"😀\""),
    ("port", .real "1.5e-07"), ("@", .string "app"), ("lib", .array [.null, .integer (-1)])]

/-- The aliases between another value of the same name, which does not count, and another member. -/
def between (entries : List (String × Value)) : Value :=
  config [("resolve", .null)] entries [("mode", .bool true)]

def tabbed : Json.Layout := .lines ⟨['\t'], List.forall_mem_singleton.mpr rfl⟩

def wideBytes (entries : List (String × Value)) : List UInt8 :=
  Text.Utf16.ByteOrder.mark .big ++
    Text.Utf16.encode .big (Json.write tabbed (between entries)).toList

def wideFile (entries : List (String × Value)) : FileSystem where
  root := .directory [("aliases.json", .file (wideBytes entries))]

theorem isSound_between {entries : List (String × Value)}
    (h : entries = repeating ∨ entries = repeating.take 4) : (between entries).IsSound := by
  have hpart : Json.IsFraction ['.', '5'] := .present ⟨by decide, by simp⟩
  have hdigits : Json.IsDigits ['0', '7'] := ⟨by decide, by simp⟩
  have hpower : Json.IsPower ['e', '-', '0', '7'] := .present (.inl rfl) (.inr (.inr rfl)) hdigits
  have hnumber : Json.IsReal "1.5e-07" := .number 1 (.inl rfl) hpart hpower (by decide)
  rcases h with rfl | rfl <;>
    simp [between, config, repeating, Value.IsSound, Value.MembersSound, Value.AllSound, hnumber]

/-- Of the first four entries all but the number are read; of all of them the last value of a key. -/
theorem read_written_repeating :
    read (fun _ => configTree "join" "src") (wideFile (repeating.take 4)) "/aliases.json" =
        ⟨.ok [("@", "src"), ("lib", "lib"), ("icons", "\"😀\"")], []⟩ ∧
      read (fun _ => configTree "join" "src") (wideFile repeating) "/aliases.json" =
        ⟨.ok [("@", "app"), ("icons", "\"😀\"")], []⟩ := by
  have hmodule : ¬ IsModuleFile "/aliases.json" := by decide +kernel
  have hafter : "resolve" ∉ Table.keys [("mode", Value.bool true)] := by decide
  have hread : ∀ entries, (wideFile entries).read (Path.tidy "/aliases.json") =
      .ok (wideBytes entries) := by
    intro entries
    have htidy : Path.tidy "/aliases.json" = "/aliases.json" := by decide +kernel
    rw [htidy]
    rfl
  have hentries : textEntries (repeating.take 4) =
      [("@", "src"), ("lib", "lib"), ("icons", "\"😀\"")] := by decide +kernel
  have htable : textTable repeating = [("@", "app"), ("icons", "\"😀\"")] := by
    decide +kernel
  rw [← hentries, ← htable]
  exact ⟨(read_written tabbed hafter (isSound_between (.inr rfl)) hmodule (hread _)
      (.utf16 .big)).2 (by decide),
    (read_written tabbed hafter (isSound_between (.inl rfl)) hmodule (hread _)
      (.utf16 .big)).1⟩

end AliasTable

end JsxOutline
