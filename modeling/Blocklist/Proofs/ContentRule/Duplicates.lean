import Blocklist.ContentRule.Compile
import Blocklist.ContentRule.Evaluate

/-! # Duplicate rules

Removing the later copies of rules changes no decision. The pass is read as a fold over the rules
that are kept so far, and every statement is proved for an arbitrary start of that fold. -/

namespace Blocklist.ContentRule

/-- One step of the removal of duplicates. -/
private def keep (kept : List ContentRule) (r : ContentRule) : List ContentRule :=
  if kept.contains r then kept else kept ++ [r]

private theorem optimize_eq_foldl (rs : List ContentRule) : optimize rs = rs.foldl keep [] :=
  rfl

private theorem keep_of_mem {kept : List ContentRule} {r : ContentRule} (h : r ∈ kept) :
    keep kept r = kept := by
  simp [keep, h]

private theorem keep_of_not_mem {kept : List ContentRule} {r : ContentRule} (h : r ∉ kept) :
    keep kept r = kept ++ [r] := by
  simp [keep, h]

/-! ## The rules that are kept -/

/-- What the pass adds to the rules that are kept already: rules in their order, none of them for
the second time, and all those that are not there yet. -/
private theorem exists_foldl_keep_eq_append (rs kept : List ContentRule) :
    ∃ added, rs.foldl keep kept = kept ++ added ∧ added.Sublist rs ∧ added.Nodup ∧
      (∀ r ∈ added, r ∉ kept) ∧ ∀ r ∈ rs, r ∈ kept ++ added := by
  induction rs generalizing kept with
  | nil => exact ⟨[], by simp⟩
  | cons r rs ih =>
    by_cases hr : r ∈ kept
    · obtain ⟨added, heq, hsub, hnodup, hnew, hall⟩ := ih kept
      refine ⟨added, ?_, hsub.cons r, hnodup, hnew, ?_⟩
      · rw [List.foldl_cons, keep_of_mem hr, heq]
      · intro s hs
        rcases List.mem_cons.mp hs with rfl | hs
        · exact List.mem_append_left added hr
        · exact hall s hs
    · obtain ⟨added, heq, hsub, hnodup, hnew, hall⟩ := ih (kept ++ [r])
      have hadded : r ∉ added := fun h => hnew r h (by simp)
      refine ⟨r :: added, ?_, hsub.cons_cons r, List.nodup_cons.mpr ⟨hadded, hnodup⟩, ?_, ?_⟩
      · rw [List.foldl_cons, keep_of_not_mem hr, heq]
        simp
      · intro s hs
        rcases List.mem_cons.mp hs with rfl | hs
        · exact hr
        · exact fun h => hnew s hs (List.mem_append_left [r] h)
      · intro s hs
        rcases List.mem_cons.mp hs with rfl | hs
        · simp
        · simpa using hall s hs

theorem optimize_sublist (rs : List ContentRule) : (optimize rs).Sublist rs := by
  obtain ⟨added, heq, hsub, -⟩ := exists_foldl_keep_eq_append rs []
  rw [optimize_eq_foldl, heq]
  simpa using hsub

theorem nodup_optimize (rs : List ContentRule) : (optimize rs).Nodup := by
  obtain ⟨added, heq, -, hnodup, -⟩ := exists_foldl_keep_eq_append rs []
  rw [optimize_eq_foldl, heq]
  simpa using hnodup

theorem mem_optimize {rs : List ContentRule} {r : ContentRule} : r ∈ optimize rs ↔ r ∈ rs := by
  refine ⟨fun h => (optimize_sublist rs).subset h, fun h => ?_⟩
  obtain ⟨added, heq, -, -, -, hall⟩ := exists_foldl_keep_eq_append rs []
  rw [optimize_eq_foldl, heq]
  exact hall r h

private theorem foldl_keep_of_nodup {rs kept : List ContentRule} (h : (kept ++ rs).Nodup) :
    rs.foldl keep kept = kept ++ rs := by
  induction rs generalizing kept with
  | nil => simp
  | cons r rs ih =>
    have hr : r ∉ kept := fun hr => (List.nodup_append.mp h).2.2 r hr r (by simp) rfl
    rw [List.foldl_cons, keep_of_not_mem hr, ih (by simpa using h)]
    simp

/-- Rules without duplicates stay as they are. -/
theorem optimize_of_nodup {rs : List ContentRule} (h : rs.Nodup) : optimize rs = rs := by
  rw [optimize_eq_foldl, foldl_keep_of_nodup (by simpa using h)]
  simp

/-! ## The decision -/

/-- A search that stops at the first hit sees no difference: a rule that is dropped stands behind
its equal, which the search has passed over already. -/
private theorem find?_foldl_keep (p : ContentRule → Bool) (rs kept : List ContentRule) :
    (rs.foldl keep kept).find? p = (kept ++ rs).find? p := by
  induction rs generalizing kept with
  | nil => simp
  | cons r rs ih =>
    by_cases hr : r ∈ kept
    · rw [List.foldl_cons, keep_of_mem hr, ih]
      simp only [List.find?_append]
      cases hkept : kept.find? p with
      | some s => simp
      | none =>
        have hpr : ¬ p r := List.find?_eq_none.mp hkept r hr
        simp [hpr]
    · rw [List.foldl_cons, keep_of_not_mem hr, ih, List.append_assoc, List.singleton_append]

theorem find?_optimize (p : ContentRule → Bool) (rs : List ContentRule) :
    (optimize rs).find? p = rs.find? p := by
  rw [optimize_eq_foldl, find?_foldl_keep, List.nil_append]

end ContentRule

namespace Matcher

/-- The deciding rule is the first one that is not cosmetic and whose matcher matches. -/
theorem find?_ofRules [Pattern.SizeLimit] (rs : List ContentRule) (t : Target) :
    (ofRules rs).find? (·.isMatch t) =
      (rs.find? fun r => !r.isCosmetic && (ofRule r).isMatch t).map ofRule := by
  rw [ofRules, List.find?_map, List.find?_filter]
  simp

end Matcher

namespace ContentRule

/-! ## The counts -/

theorem length_optimize_le (rs : List ContentRule) : (optimize rs).length ≤ rs.length :=
  (optimize_sublist rs).length_le

theorem optimizeStats_before_eq (rs : List ContentRule) :
    (optimizeStats rs).before = (optimizeStats rs).after + (optimizeStats rs).deduped := by
  have h := length_optimize_le rs
  simp only [optimizeStats]
  omega

/-! ## Decisions -/

variable [Pattern.SizeLimit]

theorem decide_ofRules_optimize (rs : List ContentRule) (r : Request) :
    Matcher.decide (Matcher.ofRules (optimize rs)) r = Matcher.decide (Matcher.ofRules rs) r := by
  simp only [Matcher.decide, Matcher.find?_ofRules, find?_optimize]

/-- What the removal of duplicates promises: it keeps every decision, keeps the first copy of every
rule in its place, leaves nothing for a second pass, and counts what it did. -/
structure IsDeduplication (rs kept : List ContentRule) (stats : OptimizeStats) : Prop where
  decide_eq : ∀ r : Request,
    Matcher.decide (Matcher.ofRules kept) r = Matcher.decide (Matcher.ofRules rs) r
  sublist : kept.Sublist rs
  nodup : kept.Nodup
  mem_iff : ∀ r, r ∈ kept ↔ r ∈ rs
  again : optimize kept = kept ∧ (optimizeStats kept).deduped = 0
  before_eq : stats.before = rs.length
  after_eq : stats.after = kept.length
  balance : stats.before = stats.after + stats.deduped

theorem isDeduplication_optimize (rs : List ContentRule) :
    IsDeduplication rs (optimize rs) (optimizeStats rs) where
  decide_eq := decide_ofRules_optimize rs
  sublist := optimize_sublist rs
  nodup := nodup_optimize rs
  mem_iff := fun _ => mem_optimize
  again := by
    have h : optimize (optimize rs) = optimize rs := optimize_of_nodup (nodup_optimize rs)
    exact ⟨h, by simp [optimizeStats, h]⟩
  before_eq := rfl
  after_eq := rfl
  balance := optimizeStats_before_eq rs

end Blocklist.ContentRule
