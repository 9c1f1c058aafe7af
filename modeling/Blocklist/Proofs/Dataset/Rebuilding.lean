import Blocklist.Pattern.Estimate
import Blocklist.Proofs.Dataset.Construction

/-! # Building a dataset again

Building a dataset from its own records gives the same entities and owners back, and every tracker
with its records normalized for the second time. So the dataset stays as it is exactly if no pattern
still has a slash or the host in front. -/

namespace Blocklist

/-- A search in which all hits are the same. -/
private theorem findSome?_eq_of_forall {α : Type u} {β : Type v} {f : α → Option β} {r : Option β}
    {xs : List α} (hall : ∀ x ∈ xs, f x = none ∨ f x = r) (hhit : r ≠ none → ∃ x ∈ xs, f x = r) :
    xs.findSome? f = r := by
  cases hfind : xs.findSome? f with
  | some y =>
    obtain ⟨x, hx, hy⟩ := List.exists_of_findSome?_eq_some hfind
    rcases hall x hx with hnone | hr
    · rw [hnone] at hy
      cases hy
    · rw [← hy, hr]
  | none =>
    by_contra hr
    obtain ⟨x, hx, hxr⟩ := hhit (Ne.symm hr)
    rw [List.findSome?_eq_none_iff.mp hfind x hx] at hxr
    exact hr hxr

/-- Indexing what becomes of the values of a map, when every value keeps its key. -/
theorem TextMap.get?_ofList_values {α : Type u} {β : Type v} {m : TextMap α} {f : α → Option β}
    {key : β → String} (hkey : ∀ k x y, m.get? k = some x → f x = some y → key y = k)
    (k : String) :
    (ofList ((m.values.filterMap f).map fun y => (key y, y))).get? k = (m.get? k).bind f := by
  rw [TextMap.get?_ofList_map, List.filter_filterMap, List.getLast?_filterMap]
  refine findSome?_eq_of_forall (fun x hx => ?_) fun hne => ?_
  · obtain ⟨k', hk'⟩ := mem_values_iff.mp (List.mem_reverse.mp hx)
    cases hy : f x with
    | none => exact .inl rfl
    | some y =>
      by_cases hk : key y = k
      · obtain rfl : k' = k := (hkey k' x y hk' hy).symm.trans hk
        exact .inr (by simp [hk', hy, hk])
      · exact .inl (by simp [hk])
  · obtain ⟨y, hy⟩ := Option.ne_none_iff_exists'.mp hne
    obtain ⟨x, hx, hfx⟩ := Option.bind_eq_some_iff.mp hy
    refine ⟨x, List.mem_reverse.mpr (mem_values_iff.mpr ⟨k, hx⟩), ?_⟩
    simp [hx, hfx, hkey k x y hx hfx]

namespace Dataset

/-- A dataset is determined by its trackers and entities. -/
theorem ext_maps {d e : Dataset} (htrackers : d.trackers = e.trackers)
    (hentities : d.entities = e.entities) : d = e := by
  obtain ⟨trackers, entities, owners, rfl⟩ := d
  obtain ⟨trackers', entities', owners', rfl⟩ := e
  cases htrackers
  cases hentities
  rfl

section

variable [Pattern.SizeLimit]

/-- Trackers in normal form, each under its domain, stay under their domains when they are indexed
again. -/
theorem get?_trackersByDomain_values {m : TextMap Tracker}
    (h : ∀ k t, m.get? k = some t → t.IsNormal ∧ t.domain = k) (k : String) :
    (trackersByDomain m.values).get? k = (m.get? k).bind fun t => t.normalize.toOption := by
  rw [trackersByDomain_eq]
  refine TextMap.get?_ofList_values (fun k t u ht hu => ?_) k
  obtain ⟨hnormal, rfl⟩ := h k t ht
  cases hn : t.normalize with
  | error e => rw [hn] at hu; cases hu
  | ok v =>
    rw [hn] at hu
    obtain rfl : v = u := Option.some.inj hu
    exact Tracker.domain_of_normalize hnormal hn

/-- The dataset of the records of a dataset. -/
def rebuild (d : Dataset) : Dataset :=
  build d.trackers.values d.entities.values

theorem tracker?_rebuild_build (ts : List Tracker) (es : List Entity) (k : String) :
    (build ts es).rebuild.tracker? k =
      ((build ts es).tracker? k).bind fun t => t.normalize.toOption :=
  get?_trackersByDomain_values (fun _ _ => isNormal_of_tracker?_build) k

/-- Building again keeps the trackers exactly if all are their own normal forms. -/
theorem trackers_rebuild_build_iff {ts : List Tracker} {es : List Entity} :
    (build ts es).rebuild.trackers = (build ts es).trackers ↔
      ∀ k t, (build ts es).tracker? k = some t → t.normalize = .ok t := by
  constructor
  · intro heq k t ht
    have hget := tracker?_rebuild_build ts es k
    rw [tracker?, heq, ← tracker?, ht, Option.bind_some] at hget
    cases hn : t.normalize with
    | error e => rw [hn] at hget; cases hget
    | ok u => rw [hn] at hget; rw [Option.some.inj hget]
  · intro hself
    refine TextMap.ext_get? fun k => ?_
    rw [← tracker?, ← tracker?, tracker?_rebuild_build]
    cases ht : (build ts es).tracker? k with
    | none => rfl
    | some t => rw [Option.bind_some, hself k t ht]; rfl

/-- As long as building again keeps the trackers it keeps the entities: every one of them still owns
a tracker. -/
theorem entities_rebuild_build {ts : List Tracker} {es : List Entity}
    (htrackers : (build ts es).rebuild.trackers = (build ts es).trackers) :
    (build ts es).rebuild.entities = (build ts es).entities := by
  have hself : ∀ n e, (build ts es).entities.get? n = some e → e.normalize? = some e :=
    fun n e he => (isNormal_of_entity?_build he).1.normalize?_eq
  have hvalues : ∀ n, (entitiesByName (build ts es).entities.values).get? n =
      ((build ts es).entities.get? n).bind Entity.normalize? := by
    rw [entitiesByName_eq]
    refine TextMap.get?_ofList_values fun n e f he hf => ?_
    rw [hself n e he] at hf
    obtain rfl := Option.some.inj hf
    exact (isNormal_of_entity?_build he).2
  refine TextMap.ext_get? fun n => ?_
  have hget : (build ts es).rebuild.entities.get? n =
      ((entitiesByName (build ts es).entities.values).get? n).filter fun _ =>
        isOwner (build ts es).rebuild.trackers n :=
    get?_entities_build _ _ n
  rw [hget, hvalues, htrackers]
  cases he : (build ts es).entities.get? n with
  | none => rfl
  | some e =>
    have howner : isOwner (build ts es).trackers n :=
      isOwner_iff.mpr (entity?_build_eq_some_iff.mp he).1
    rw [Option.bind_some, hself n e he, Option.filter_some, if_pos howner]

theorem rebuild_build_eq_iff_trackers {ts : List Tracker} {es : List Entity} :
    (build ts es).rebuild = build ts es ↔
      (build ts es).rebuild.trackers = (build ts es).trackers :=
  ⟨congrArg trackers, fun h => ext_maps h (entities_rebuild_build h)⟩

/-- Building a dataset again gives the same dataset exactly if there is nothing in front of the
patterns that normalization removes. -/
theorem rebuild_build_eq_iff (ts : List Tracker) (es : List Entity) :
    (build ts es).rebuild = build ts es ↔
      ∀ t ∈ (build ts es).trackers.values, ∀ r ∈ t.rules,
        Tracker.IsBare r.pattern.toList t.domain.toList := by
  rw [rebuild_build_eq_iff_trackers, trackers_rebuild_build_iff]
  have hself : ∀ k t, (build ts es).tracker? k = some t →
      (t.normalize = .ok t ↔ ∀ r ∈ t.rules, Tracker.IsBare r.pattern.toList t.domain.toList) :=
    fun k t ht => (isNormal_of_tracker?_build ht).1.normalize_eq_self_iff
  constructor
  · intro h t ht
    obtain ⟨k, hk⟩ := TextMap.mem_values_iff.mp ht
    exact (hself k t hk).mp (h k t hk)
  · intro h k t ht
    exact (hself k t ht).mpr (h t (TextMap.mem_values_iff.mpr ⟨k, ht⟩))

end

open scoped Pattern.Estimate

/-- Of two slashes in front of a pattern one is removed each time. -/
theorem rebuild_build_ne_of_two_slashes :
    (build [{ Tracker.forDomain "t" .block with rules := [.forPattern "//x" .block] }] []).rebuild ≠
      build [{ Tracker.forDomain "t" .block with rules := [.forPattern "//x" .block] }] [] := by
  intro heq
  have htrackers := congrArg trackers heq
  revert htrackers
  decide +kernel

end Dataset

end Blocklist
