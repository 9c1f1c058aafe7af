/-!
Finite maps keyed by text. The entries stand in ascending order of their keys and every key occurs
once, so two maps with the same look-ups are equal. Main statement: `get?_insert`.
-/

namespace Blocklist

/-- A finite map from texts, with its entries in ascending key order. -/
structure TextMap (α : Type u) where
  /-- The entries, in ascending key order. -/
  entries : List (String × α)
  ascending : entries.Pairwise fun a b => a.1 < b.1
deriving DecidableEq

namespace TextMap

variable {α : Type u} {β : Type v}

def lookup? (k : String) : List (String × α) → Option α
  | [] => none
  | (k', v) :: es => if k = k' then some v else lookup? k es

/-- Puts an entry at its place in a list in ascending key order, over an entry with the same key. -/
def insertEntry (k : String) (v : α) : List (String × α) → List (String × α)
  | [] => [(k, v)]
  | (k', v') :: es =>
    if k < k' then (k, v) :: (k', v') :: es
    else if k = k' then (k, v) :: es
    else (k', v') :: insertEntry k v es

theorem mem_insertEntry_key {k : String} {v : α} {es : List (String × α)} {e : String × α}
    (h : e ∈ insertEntry k v es) : e.1 = k ∨ e ∈ es := by
  induction es with
  | nil => simp [insertEntry] at h; simp [h]
  | cons e' es ih =>
    obtain ⟨k', v'⟩ := e'
    unfold insertEntry at h
    split at h
    · rcases List.mem_cons.1 h with rfl | h
      · exact .inl rfl
      · exact .inr h
    · split at h
      · rcases List.mem_cons.1 h with rfl | h
        · exact .inl rfl
        · exact .inr (List.mem_cons_of_mem _ h)
      · rcases List.mem_cons.1 h with rfl | h
        · exact .inr List.mem_cons_self
        · rcases ih h with h | h
          · exact .inl h
          · exact .inr (List.mem_cons_of_mem _ h)

theorem pairwise_insertEntry (k : String) (v : α) {es : List (String × α)}
    (h : es.Pairwise fun a b => a.1 < b.1) :
    (insertEntry k v es).Pairwise fun a b => a.1 < b.1 := by
  induction es with
  | nil => simp [insertEntry]
  | cons e es ih =>
    obtain ⟨k', v'⟩ := e
    obtain ⟨hhead, htail⟩ := List.pairwise_cons.1 h
    unfold insertEntry
    split
    · rename_i hk
      refine List.pairwise_cons.2 ⟨fun e he => ?_, h⟩
      rcases List.mem_cons.1 he with rfl | he
      · exact hk
      · exact String.lt_trans hk (hhead e he)
    · split
      · rename_i hk
        subst hk
        exact List.pairwise_cons.2 ⟨hhead, htail⟩
      · rename_i hlt hne
        refine List.pairwise_cons.2 ⟨fun e he => ?_, ih htail⟩
        rcases mem_insertEntry_key he with he | he
        · rw [he]
          exact Decidable.byContradiction fun hn =>
            hne (String.le_antisymm (String.not_lt.1 hn) (String.not_lt.1 hlt))
        · exact hhead e he

def empty : TextMap α := ⟨[], .nil⟩

instance : Inhabited (TextMap α) := ⟨empty⟩

def get? (m : TextMap α) (k : String) : Option α := lookup? k m.entries

def contains (m : TextMap α) (k : String) : Bool := (m.get? k).isSome

/-- Stores a value under a key, in place of what was stored there. -/
def insert (m : TextMap α) (k : String) (v : α) : TextMap α :=
  ⟨insertEntry k v m.entries, pairwise_insertEntry k v m.ascending⟩

def filter (p : String → α → Bool) (m : TextMap α) : TextMap α :=
  ⟨m.entries.filter fun e => p e.1 e.2, m.ascending.filter _⟩

def map (f : String → α → β) (m : TextMap α) : TextMap β :=
  ⟨m.entries.map fun e => (e.1, f e.1 e.2), List.pairwise_map.2 m.ascending⟩

/-- The map with the given entries; of entries with one key the last counts. -/
def ofList (es : List (String × α)) : TextMap α :=
  es.foldl (fun m e => m.insert e.1 e.2) empty

def values (m : TextMap α) : List α := m.entries.map Prod.snd

def keys (m : TextMap α) : List String := m.entries.map Prod.fst

def size (m : TextMap α) : Nat := m.entries.length

def isEmpty (m : TextMap α) : Bool := m.entries.isEmpty

theorem lookup?_insertEntry (k k' : String) (v : α) (es : List (String × α)) :
    lookup? k' (insertEntry k v es) = if k' = k then some v else lookup? k' es := by
  induction es with
  | nil => simp [insertEntry, lookup?]
  | cons e es ih =>
    obtain ⟨j, w⟩ := e
    unfold insertEntry
    split
    · simp [lookup?]
    · split
      · rename_i hj
        subst hj
        by_cases h : k' = k <;> simp [lookup?, h]
      · rename_i hj
        by_cases h : k' = j
        · subst h
          simp [lookup?, Ne.symm hj]
        · simp [lookup?, h, ih]

@[simp] theorem get?_empty (k : String) : (empty : TextMap α).get? k = none := rfl

/-- A look-up after storing sees the stored value under its key and the old values elsewhere. -/
theorem get?_insert (m : TextMap α) (k k' : String) (v : α) :
    (m.insert k v).get? k' = if k' = k then some v else m.get? k' :=
  lookup?_insertEntry k k' v m.entries

end TextMap

end Blocklist
