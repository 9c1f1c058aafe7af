import Blocklist.TextMap
import Blocklist.TextSet
import Mathlib.Data.List.Basic

/-! # Laws of maps and sets of texts

A map is determined by its look-ups and a set by its members, since both are listed in ascending
order. The rest reads the entries, values and folds of insertions through `get?`. -/

namespace Blocklist

/-- Lists in ascending order of a key are equal if they have the same members. -/
theorem eq_of_ascending {α : Type u} (key : α → String) {xs ys : List α}
    (hxs : xs.Pairwise fun a b => key a < key b) (hys : ys.Pairwise fun a b => key a < key b)
    (h : ∀ x, x ∈ xs ↔ x ∈ ys) : xs = ys := by
  have hnodup : ∀ {zs : List α}, (zs.Pairwise fun a b => key a < key b) → zs.Nodup := by
    intro zs hzs
    refine hzs.imp fun {a b} hlt => ?_
    rintro rfl
    exact String.lt_irrefl (key a) hlt
  have hperm : xs.Perm ys := (List.perm_ext_iff_of_nodup (hnodup hxs) (hnodup hys)).mpr h
  exact hperm.eq_of_pairwise (fun _ _ _ _ hab hba => absurd hba (String.lt_asymm hab)) hxs hys

namespace TextMap

variable {α : Type u} {β : Type v}

/-! ## Entries and look-ups -/

theorem mem_of_lookup?_eq_some {k : String} {v : α} {es : List (String × α)}
    (h : lookup? k es = some v) : (k, v) ∈ es := by
  induction es with
  | nil => simp [lookup?] at h
  | cons e es ih =>
    by_cases hk : k = e.1
    · have hv : e.2 = v := by simpa [lookup?, hk] using h
      simp [hk, ← hv]
    · exact List.mem_cons_of_mem e (ih (by simpa [lookup?, hk] using h))

theorem lookup?_eq_some_of_mem {k : String} {v : α} {es : List (String × α)}
    (hes : es.Pairwise fun a b => a.1 < b.1) (h : (k, v) ∈ es) : lookup? k es = some v := by
  induction es with
  | nil => simp at h
  | cons e es ih =>
    obtain ⟨hhead, htail⟩ := List.pairwise_cons.mp hes
    rcases List.mem_cons.mp h with rfl | h
    · simp [lookup?]
    · have hk : k ≠ e.1 := fun hk => String.lt_irrefl k (by simpa [hk] using hhead _ h)
      simpa [lookup?, hk] using ih htail h

/-- The entries of a map are exactly its look-ups. -/
theorem mem_entries_iff {m : TextMap α} {k : String} {v : α} :
    (k, v) ∈ m.entries ↔ m.get? k = some v :=
  ⟨lookup?_eq_some_of_mem m.ascending, mem_of_lookup?_eq_some⟩

theorem mem_values_iff {m : TextMap α} {v : α} : v ∈ m.values ↔ ∃ k, m.get? k = some v := by
  simp only [values, List.mem_map, Prod.exists, exists_eq_right, mem_entries_iff]

theorem mem_keys_iff {m : TextMap α} {k : String} : k ∈ m.keys ↔ ∃ v, m.get? k = some v := by
  simp only [keys, List.mem_map, Prod.exists, exists_and_right, exists_eq_right, mem_entries_iff]

theorem contains_iff {m : TextMap α} {k : String} : m.contains k ↔ ∃ v, m.get? k = some v :=
  Option.isSome_iff_exists

theorem contains_eq_false_iff {m : TextMap α} {k : String} :
    m.contains k = false ↔ m.get? k = none := by
  simp [contains]

/-- Maps with the same look-ups are equal. -/
theorem ext_get? {m n : TextMap α} (h : ∀ k, m.get? k = n.get? k) : m = n := by
  have hentries : m.entries = n.entries :=
    eq_of_ascending Prod.fst m.ascending n.ascending fun e => by
      rw [mem_entries_iff, mem_entries_iff, h]
  cases m
  cases n
  simpa using hentries

/-! ## Maps made from others -/

theorem get?_filter (m : TextMap α) (p : String → α → Bool) (k : String) :
    (m.filter p).get? k = (m.get? k).filter (p k) := by
  have hiff : ∀ v, (m.filter p).get? k = some v ↔ m.get? k = some v ∧ p k v := fun v => by
    simp only [← mem_entries_iff, filter, List.mem_filter]
  refine Option.ext fun v => ?_
  rw [hiff, Option.filter_eq_some_iff]

theorem get?_map (m : TextMap α) (f : String → α → β) (k : String) :
    (m.map f).get? k = (m.get? k).map (f k) := by
  simp only [get?, map]
  induction m.entries with
  | nil => rfl
  | cons e es ih => by_cases hk : k = e.1 <;> simp [lookup?, hk, ih]

private theorem get?_foldl_insert (es : List (String × α)) (m : TextMap α) (k : String) :
    (es.foldl (fun m e => m.insert e.1 e.2) m).get? k =
      (((es.filter fun e => k = e.1).getLast?).map Prod.snd).or (m.get? k) := by
  induction es generalizing m with
  | nil => simp
  | cons e es ih =>
    rw [List.foldl_cons, ih, get?_insert]
    by_cases hk : k = e.1
    · rw [List.filter_cons_of_pos (by simpa using hk), List.getLast?_cons, if_pos hk]
      cases (es.filter fun e => k = e.1).getLast? <;> rfl
    · rw [List.filter_cons_of_neg (by simpa using hk), if_neg hk]

/-- Of entries with one key the last one counts. -/
theorem get?_ofList (es : List (String × α)) (k : String) :
    (ofList es).get? k = ((es.filter fun e => k = e.1).getLast?).map Prod.snd := by
  simp [ofList, get?_foldl_insert]

theorem get?_ofList_eq_none_iff {es : List (String × α)} {k : String} :
    (ofList es).get? k = none ↔ ∀ v, (k, v) ∉ es := by
  rw [get?_ofList, Option.map_eq_none_iff, List.getLast?_eq_none_iff, List.filter_eq_nil_iff]
  simp only [Prod.forall, decide_eq_true_eq]
  exact ⟨fun h v hv => h k v hv rfl, fun h k' v hv hk => h v (hk ▸ hv)⟩

/-- A map is the map of its entries. -/
theorem ofList_entries (m : TextMap α) : ofList m.entries = m := by
  refine ext_get? fun k => ?_
  rw [get?_ofList]
  cases hlast : (m.entries.filter fun e => k = e.1).getLast? with
  | none =>
    rw [List.getLast?_eq_none_iff, List.filter_eq_nil_iff] at hlast
    refine (Option.eq_none_iff_forall_ne_some.mpr fun v hv => ?_).symm
    simpa using hlast (k, v) (mem_entries_iff.mpr hv)
  | some e =>
    obtain ⟨hmem, hk⟩ := List.mem_filter.mp (List.mem_of_getLast? hlast)
    rw [of_decide_eq_true hk, mem_entries_iff.mp hmem, Option.map_some]

/-- Indexing records by a key of their own: the last record with the key is found. -/
theorem get?_ofList_map (key : α → String) (xs : List α) (k : String) :
    (ofList (xs.map fun x => (key x, x))).get? k = (xs.filter fun x => key x = k).getLast? := by
  simp [get?_ofList, List.filter_map, Function.comp_def, List.getLast?_map, eq_comm]

/-- Where the values ascend, the greatest value given for a key counts. -/
theorem get?_ofList_eq_some_iff {es : List (String × String)}
    (hes : es.Pairwise fun a b => a.2 ≤ b.2) {k v : String} :
    (ofList es).get? k = some v ↔ (k, v) ∈ es ∧ ∀ w, (k, w) ∈ es → w ≤ v := by
  have hmem : ∀ {w : String}, (k, w) ∈ es ↔ (k, w) ∈ es.filter fun e => k = e.1 := by simp
  have hkey : ∀ e ∈ es.filter fun e => k = e.1, e.1 = k := fun e he =>
    (of_decide_eq_true (List.mem_filter.mp he).2).symm
  have hpair := hes.filter fun e => k = e.1
  rw [get?_ofList]
  simp only [hmem]
  generalize es.filter (fun e => k = e.1) = fs at hkey hpair
  obtain rfl | ⟨front, last, rfl⟩ := List.eq_nil_or_concat' fs
  · simp
  · obtain ⟨k', v'⟩ := last
    obtain rfl : k' = k := hkey (k', v') (by simp)
    have hfront : ∀ w, (k', w) ∈ front → w ≤ v' := fun w hw =>
      (List.pairwise_append.mp hpair).2.2 (k', w) hw (k', v') (by simp)
    simp only [List.getLast?_append, List.getLast?_singleton, Option.some_or, Option.map_some,
      Option.some.injEq, List.mem_append, List.mem_singleton, Prod.mk.injEq, true_and]
    constructor
    · rintro rfl
      exact ⟨.inr rfl, fun w hw => hw.elim (hfront w) fun h => h ▸ String.le_refl w⟩
    · rintro ⟨hv, hmax⟩
      rcases hv with hv | rfl
      · exact String.le_antisymm (hmax v' (.inr rfl)) (hfront v hv)
      · rfl

end TextMap

namespace TextSet

/-- Sets with the same members are equal. -/
theorem ext_mem {s t : TextSet} (h : ∀ u, u ∈ s ↔ u ∈ t) : s = t := by
  have hlist : s.toList = t.toList := eq_of_ascending id s.ascending t.ascending h
  cases s
  cases t
  simpa using hlist

theorem isEmpty_iff {s : TextSet} : s.isEmpty ↔ ∀ t, t ∉ s := by
  simp [isEmpty, mem_def, List.eq_nil_iff_forall_not_mem]

theorem eq_empty_of_isEmpty {s : TextSet} (h : s.isEmpty) : s = .empty :=
  ext_mem fun t => by simp [isEmpty_iff.mp h t, mem_def, empty]

/-- A set is the set of its members. -/
theorem ofList_toList (s : TextSet) : ofList s.toList = s :=
  ext_mem fun _ => mem_ofList

end TextSet

end Blocklist
