/-!
# Tables in the order of first insertion

A table is a list of keys with values.  A key that is put again keeps its place and takes the new
value.  Main statements: looking a key up gives what was put last, and the keys of a table are those
of the old one, followed by the new key if it was not there.
-/

namespace JsxOutline

/-- Keys with their values, in the order in which the keys came. -/
abbrev Table (α : Type) := List (String × α)

namespace Table

variable {α : Type}

def keys (t : Table α) : List String := t.map Prod.fst

def get? (t : Table α) (key : String) : Option α := (t.find? (·.1 == key)).map Prod.snd

def put : Table α → String → α → Table α
  | [], key, value => [(key, value)]
  | (k, v) :: rest, key, value => if k = key then (k, value) :: rest else (k, v) :: put rest key value

/-- The table of some entries; of entries with the same key the first gives the place and the last
the value. -/
def ofEntries (entries : List (String × α)) : Table α := entries.foldl (fun t e => put t e.1 e.2) []

@[simp] theorem get?_nil (key : String) : get? ([] : Table α) key = none := rfl

theorem get?_put (t : Table α) (key other : String) (value : α) :
    (put t key value).get? other = if key = other then some value else get? t other := by
  induction t with
  | nil => by_cases h : key = other <;> simp [put, get?, h]
  | cons e rest ih =>
    obtain ⟨k, v⟩ := e
    by_cases hk : k = key
    · by_cases h : key = other <;> simp_all [put, get?]
    · by_cases h : k = other
      · have hko : ¬ key = other := fun e => hk (h.trans e.symm)
        rw [put, if_neg hk, if_neg hko]
        simp [get?, h]
      · simpa [put, get?, hk, h] using ih

theorem keys_put (t : Table α) (key : String) (value : α) :
    keys (put t key value) = if key ∈ keys t then keys t else keys t ++ [key] := by
  induction t with
  | nil => simp [put, keys]
  | cons e rest ih =>
    obtain ⟨k, v⟩ := e
    by_cases hk : k = key
    · simp [put, keys, hk]
    · have hk' : ¬ key = k := fun h => hk h.symm
      simp only [put, hk, if_false, keys, List.map_cons, List.mem_cons, hk', false_or] at ih ⊢
      rw [ih]
      by_cases h : key ∈ List.map Prod.fst rest <;> simp [h]

theorem put_of_not_mem {t : Table α} {key : String} (h : key ∉ keys t) (value : α) :
    put t key value = t ++ [(key, value)] := by
  induction t with
  | nil => rfl
  | cons e rest ih =>
    obtain ⟨k, v⟩ := e
    obtain ⟨hk, hrest⟩ := not_or.mp (mt List.mem_cons.mpr h)
    rw [put, if_neg fun e => hk e.symm, ih hrest, List.cons_append]

theorem mem_put {t : Table α} {key : String} {value : α} {e : String × α}
    (h : e ∈ put t key value) : e ∈ t ∨ e = (key, value) := by
  induction t with
  | nil => exact .inr (List.mem_singleton.mp h)
  | cons first rest ih =>
    rw [put] at h
    split at h
    · next hkey =>
      rcases List.mem_cons.mp h with rfl | h
      · exact .inr (by rw [hkey])
      · exact .inl (List.mem_cons_of_mem _ h)
    · rcases List.mem_cons.mp h with rfl | h
      · exact .inl List.mem_cons_self
      · exact (ih h).imp_left (List.mem_cons_of_mem _)

theorem ofEntries_concat (entries : List (String × α)) (e : String × α) :
    ofEntries (entries ++ [e]) = put (ofEntries entries) e.1 e.2 := by
  rw [ofEntries, List.foldl_append]
  rfl

theorem mem_of_mem_ofEntries {entries : List (String × α)} {e : String × α}
    (h : e ∈ ofEntries entries) : e ∈ entries := by
  have hfold : ∀ (rest t : Table α), e ∈ rest.foldl (fun t e => put t e.1 e.2) t →
      e ∈ t ∨ e ∈ rest := by
    intro rest
    induction rest with
    | nil => exact fun t h => .inl h
    | cons first rest ih =>
      intro t h
      rcases ih _ h with h | h
      · rcases mem_put h with h | rfl
        · exact .inl h
        · exact .inr List.mem_cons_self
      · exact .inr (List.mem_cons_of_mem _ h)
  exact (hfold entries [] h).resolve_left List.not_mem_nil

/-- Entries with different keys are a table as they are. -/
theorem ofEntries_of_nodup {entries : List (String × α)} (h : (keys entries).Nodup) :
    ofEntries entries = entries := by
  have append : ∀ (rest t : Table α), (keys (t ++ rest)).Nodup →
      rest.foldl (fun t e => put t e.1 e.2) t = t ++ rest := by
    intro rest
    induction rest with
    | nil => intro t _; exact (List.append_nil t).symm
    | cons e rest ih =>
      intro t ht
      have hfresh : e.1 ∉ keys t := by
        intro he
        rw [keys, List.map_append, List.nodup_append] at ht
        exact ht.2.2 e.1 he e.1 List.mem_cons_self rfl
      have happend : t ++ e :: rest = t ++ [e] ++ rest := by simp
      rw [List.foldl_cons, put_of_not_mem hfresh, happend]
      exact ih _ (happend ▸ ht)
  exact append entries [] h

end Table

end JsxOutline
