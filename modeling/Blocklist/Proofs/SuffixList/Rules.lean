import Blocklist.Proofs.Except
import Blocklist.Proofs.Text.Parts
import Blocklist.SuffixList.Reading
import Mathlib.Data.Finset.Max

/-! # Rules for public suffixes

Of the rules that fit a host one prevails: an exception before all others, and else the one with the
most labels. The look-up goes through the labels of a host from right to left, and it takes a rule
that names a label before one that has `*` for it. So it finds the rule that prevails if it gets to
it. Main statement: `suffixSize_of_prevails`. -/

namespace Blocklist

namespace SuffixRule

/-- The number of labels in the public suffixes of a rule. An exception is one label longer. -/
def size (r : SuffixRule) : Nat :=
  if r.isException then r.labels.length - 1 else r.labels.length

/-- A rule with one label more. -/
def cons (label : List Char) (r : SuffixRule) : SuffixRule :=
  { r with labels := label :: r.labels }

/-- Whether the labels of a rule are the first of some labels. The label `*` stands for any. -/
def fitsLabels : List (List Char) → List (List Char) → Bool
  | [], _ => true
  | _ :: _, [] => false
  | l :: ls, label :: labels => (l == ['*'] || l == label) && fitsLabels ls labels

/-- Whether a rule fits a host, whose labels are given from right to left. -/
def fits (r : SuffixRule) (labels : List (List Char)) : Bool :=
  fitsLabels r.labels labels

theorem fits_cons_iff {r : SuffixRule} {l label : List Char} {labels : List (List Char)} :
    (r.cons l).fits (label :: labels) ↔ (l = ['*'] ∨ l = label) ∧ r.fits labels := by
  simp [fits, cons, fitsLabels]

theorem not_fits_cons_nil (l : List Char) (r : SuffixRule) : ¬(r.cons l).fits [] := by
  simp [fits, cons, fitsLabels]

theorem fits_of_labels_eq_nil {r : SuffixRule} (h : r.labels = []) (labels : List (List Char)) :
    r.fits labels := by
  rw [fits, h, fitsLabels]

/-- What is left of a rule that starts with a label. -/
def rest? (l : List Char) (r : SuffixRule) : Option SuffixRule :=
  match r.labels with
  | l' :: ls => if l' = l then some { r with labels := ls } else none
  | [] => none

theorem rest?_eq_some_iff {l : List Char} {r s : SuffixRule} :
    r.rest? l = some s ↔ r = s.cons l := by
  obtain ⟨ls, isException⟩ := r
  obtain ⟨ls', isException'⟩ := s
  cases ls with
  | nil => simp [rest?, cons]
  | cons l' ls => simp [rest?, cons, and_assoc]

theorem exists_eq_cons {r : SuffixRule} (h : r.labels ≠ []) : ∃ l s, r = SuffixRule.cons l s := by
  obtain ⟨ls, isException⟩ := r
  obtain ⟨l, ls, rfl⟩ := List.exists_cons_of_ne_nil h
  exact ⟨l, ⟨ls, isException⟩, rfl⟩

@[simp] theorem labels_cons (l : List Char) (r : SuffixRule) :
    (r.cons l).labels = l :: r.labels :=
  rfl

@[simp] theorem isException_cons (l : List Char) (r : SuffixRule) :
    (r.cons l).isException = r.isException :=
  rfl

theorem size_le_length (r : SuffixRule) : r.size ≤ r.labels.length := by
  unfold size
  split <;> omega

/-- With one label more in front, the public suffix has one label more. -/
theorem size_cons {l : List Char} {r : SuffixRule} (h : r.labels ≠ []) :
    (r.cons l).size = r.size + 1 := by
  have hpos := List.length_pos_of_ne_nil h
  cases hexception : r.isException with
  | true =>
    simp only [size, labels_cons, isException_cons, hexception, if_true, List.length_cons]
    omega
  | false => simp [size, hexception]

theorem length_le_of_fits {r : SuffixRule} {labels : List (List Char)} (h : r.fits labels) :
    r.labels.length ≤ labels.length := by
  unfold fits at h
  generalize r.labels = ls at h
  induction ls generalizing labels with
  | nil => exact Nat.zero_le _
  | cons l ls ih =>
    cases labels with
    | nil => simp [fitsLabels] at h
    | cons label labels =>
      simp only [fitsLabels, Bool.and_eq_true] at h
      exact Nat.succ_le_succ (ih h.2)

end SuffixRule

namespace SuffixList

open Text

/-! ## The rule that prevails -/

/-- Whether a rule is the last of those with its labels. The others do not count. -/
def InForce (rs : List SuffixRule) (r : SuffixRule) : Prop :=
  rs.reverse.find? (·.labels == r.labels) = some r

instance (rs : List SuffixRule) (r : SuffixRule) : Decidable (InForce rs r) :=
  inferInstanceAs (Decidable (_ = _))

theorem mem_of_inForce {rs : List SuffixRule} {r : SuffixRule} (h : InForce rs r) : r ∈ rs :=
  List.mem_reverse.mp (List.mem_of_find?_eq_some h)

/-- A rule prevails for a host if it is an exception, or no exception fits, and among its like it
has the most labels. -/
structure Prevails (rs : List SuffixRule) (labels : List (List Char)) (r : SuffixRule) : Prop where
  inForce : InForce rs r
  fits : r.fits labels
  exception : ∀ r' ∈ rs, InForce rs r' → r'.fits labels → r'.isException → r.isException
  longest : ∀ r' ∈ rs, InForce rs r' → r'.fits labels → r'.isException = r.isException →
    r'.labels.length ≤ r.labels.length

/-- Whether the rules that fit a host have at most a number of labels. -/
def FitsWithin (rs : List SuffixRule) (labels : List (List Char)) (n : Nat) : Prop :=
  ∀ r, InForce rs r → r.fits labels → r.labels.length ≤ n

/-- Without an exception that fits, the rule that prevails has the most labels. -/
theorem Prevails.fitsWithin {rs : List SuffixRule} {labels : List (List Char)} {r : SuffixRule}
    (h : Prevails rs labels r) (hr : r.isException = false) :
    FitsWithin rs labels r.labels.length := by
  intro r' hr' hfits
  have hmem := mem_of_inForce hr'
  refine h.longest r' hmem hr' hfits ?_
  cases hexception : r'.isException with
  | false => exact hr.symm
  | true =>
    have := h.exception r' hmem hr' hfits hexception
    rw [hr] at this
    cases this

/-- All rules that prevail give the same public suffix. -/
theorem Prevails.size_eq {rs : List SuffixRule} {labels : List (List Char)} {r r' : SuffixRule}
    (h : Prevails rs labels r) (h' : Prevails rs labels r') : r.size = r'.size := by
  have hexception : r.isException = r'.isException := by
    rw [Bool.eq_iff_iff]
    exact ⟨h'.exception r (mem_of_inForce h.inForce) h.inForce h.fits,
      h.exception r' (mem_of_inForce h'.inForce) h'.inForce h'.fits⟩
  have hle := h'.longest r (mem_of_inForce h.inForce) h.inForce h.fits hexception
  have hge := h.longest r' (mem_of_inForce h'.inForce) h'.inForce h'.fits hexception.symm
  rw [SuffixRule.size, SuffixRule.size, hexception, Nat.le_antisymm hle hge]

/-- If any rule fits a host, one prevails. -/
theorem exists_prevails {rs : List SuffixRule} {labels : List (List Char)} {r : SuffixRule}
    (hr : InForce rs r) (hfits : r.fits labels) : ∃ r', Prevails rs labels r' := by
  have hmax : ∀ p : SuffixRule → Bool, (∃ r ∈ rs, p r) →
      ∃ r ∈ rs, p r ∧ ∀ r' ∈ rs, p r' → r'.labels.length ≤ r.labels.length := by
    rintro p ⟨r, hmem, hp⟩
    have hne : (rs.filter p).toFinset.Nonempty := ⟨r, by simp [hmem, hp]⟩
    obtain ⟨r, hr, hle⟩ := Finset.exists_max_image _ (·.labels.length) hne
    simp only [List.mem_toFinset, List.mem_filter, and_imp] at hr hle
    exact ⟨r, hr.1, hr.2, hle⟩
  by_cases hexception : ∃ e ∈ rs, decide (InForce rs e) && e.fits labels && e.isException
  · obtain ⟨e, -, he, hle⟩ := hmax _ hexception
    simp only [Bool.and_eq_true, decide_eq_true_eq, and_imp] at he hle
    exact ⟨e, he.1.1, he.1.2, fun _ _ _ _ _ => he.2,
      fun r' hmem hr' hfits' heq => hle r' hmem hr' hfits' (heq ▸ he.2)⟩
  · obtain ⟨s, -, hs, hle⟩ := hmax (fun r => decide (InForce rs r) && r.fits labels)
      ⟨r, mem_of_inForce hr, by simp [hr, hfits]⟩
    simp only [Bool.and_eq_true, decide_eq_true_eq, and_imp] at hs hle
    refine ⟨s, hs.1, hs.2, fun e hmem he hfits' hx => ?_, fun r' hmem hr' hfits' _ =>
      hle r' hmem hr' hfits'⟩
    exact absurd ⟨e, hmem, by simp [he, hfits', hx]⟩ hexception

/-! ## The look-up -/

/-- Whether nothing keeps the look-up from a rule on its way through the labels of a host. -/
structure IsOnWay (rs : List SuffixRule) (labels : List (List Char)) (r : SuffixRule) : Prop where
  /-- No rule that is the same up to there names a label for which this one has `*`. -/
  unnamed : ∀ p q label, r.labels = p ++ ['*'] :: q → labels[p.length]? = some label →
    ∀ r' ∈ rs, ¬p ++ [label] <+: r'.labels
  /-- No exception stands in front of it. -/
  unexcepted : ∀ e ∈ rs, InForce rs e → e.isException → e.labels <+: r.labels → e.labels = r.labels

/-- Whether the look-up for a host gets to a rule. No `*` stands for the last label of a host. -/
structure IsReached (rs : List SuffixRule) (labels : List (List Char)) (r : SuffixRule) : Prop
    extends IsOnWay rs labels r where
  last : r.labels.head? ≠ some ['*']

/-- A rule without `*` is reached if no exception stands in front of it. -/
theorem isReached_of_not_mem {rs : List SuffixRule} {labels : List (List Char)} {r : SuffixRule}
    (h : ['*'] ∉ r.labels)
    (hexception : ∀ e ∈ rs, InForce rs e → e.isException → e.labels <+: r.labels →
      e.labels = r.labels) : IsReached rs labels r where
  unnamed := by
    intro p q label hlabels
    exact absurd (hlabels ▸ List.mem_append_cons_self) h
  unexcepted := hexception
  last := by
    intro hhead
    exact h (List.mem_of_head? hhead)

theorem descend_eq_filterMap (l : List Char) (rs : List SuffixRule) :
    descend l rs = rs.filterMap (·.rest? l) :=
  rfl

theorem mem_descend_iff {rs : List SuffixRule} {l : List Char} {r : SuffixRule} :
    r ∈ descend l rs ↔ r.cons l ∈ rs := by
  simp only [descend_eq_filterMap, List.mem_filterMap, SuffixRule.rest?_eq_some_iff,
    exists_eq_right]

/-- What is left of a rule counts if the rule does. -/
theorem inForce_descend_iff {rs : List SuffixRule} {l : List Char} {r : SuffixRule} :
    InForce (descend l rs) r ↔ InForce rs (r.cons l) := by
  have hsame : ∀ s : SuffixRule,
      (s.rest? l).any (·.labels == r.labels) = (s.labels == (r.cons l).labels) := by
    intro s
    unfold SuffixRule.rest? SuffixRule.cons
    cases s.labels with
    | nil => rfl
    | cons l' ls => by_cases hl : l' = l <;> simp [hl]
  unfold InForce
  rw [descend_eq_filterMap, ← List.filterMap_reverse, List.find?_filterMap, Option.bind_eq_some_iff]
  simp only [hsame, SuffixRule.rest?_eq_some_iff, exists_eq_right]

theorem ending?_eq_some_iff {rs : List SuffixRule} {r : SuffixRule} :
    ending? rs = some r ↔ InForce rs r ∧ r.labels = [] := by
  have hempty : ∀ s : SuffixRule, s.labels.isEmpty = (s.labels == []) := by
    intro s
    cases s.labels <;> rfl
  unfold ending? InForce
  simp only [hempty]
  constructor
  · intro h
    have hr : r.labels = [] := by simpa using List.find?_some h
    exact ⟨by rwa [hr], hr⟩
  · rintro ⟨h, hr⟩
    rwa [hr] at h

theorem exists_step_eq (rs : List SuffixRule) (label : List Char) :
    ∃ l, (l = ['*'] ∨ l = label) ∧ step rs label = descend l rs := by
  unfold step
  split
  · exact ⟨['*'], .inl rfl, rfl⟩
  · exact ⟨label, .inr rfl, rfl⟩

/-- What is left of the rules that fit fits what is left of a host, and has one label less. -/
theorem FitsWithin.descend {rs : List SuffixRule} {l label : List Char} {labels : List (List Char)}
    {n : Nat} (h : FitsWithin rs (label :: labels) (n + 1)) (hl : l = ['*'] ∨ l = label) :
    FitsWithin (descend l rs) labels n := by
  intro r hr hfits
  exact Nat.le_of_succ_le_succ
    (h (r.cons l) (inForce_descend_iff.mp hr) (SuffixRule.fits_cons_iff.mpr ⟨hl, hfits⟩))

/-- If no rule with a label fits, the public suffix is the one that was known before. -/
theorem extend_eq_of_fitsWithin_zero {rs : List SuffixRule} {labels : List (List Char)}
    (h : FitsWithin rs labels 0) (taken size : Nat) : extend rs taken size labels = size := by
  induction labels generalizing rs taken with
  | nil => rfl
  | cons label labels ih =>
    obtain ⟨l, hl, hstep⟩ := exists_step_eq rs label
    have hnone : ∀ r, InForce (descend l rs) r → ¬r.fits labels := by
      intro r hr hfits
      have hle := h (r.cons l) (inForce_descend_iff.mp hr)
        (SuffixRule.fits_cons_iff.mpr ⟨hl, hfits⟩)
      cases hle
    unfold extend
    simp only [hstep]
    split
    · rfl
    · cases hending : ending? (descend l rs) with
      | some r =>
        obtain ⟨hr, hnil⟩ := ending?_eq_some_iff.mp hending
        exact absurd (SuffixRule.fits_of_labels_eq_nil hnil labels) (hnone r hr)
      | none => exact ih (fun r hr hfits => absurd hfits (hnone r hr)) (taken + 1)

theorem IsOnWay.descend {rs : List SuffixRule} {l label : List Char} {labels : List (List Char)}
    {r : SuffixRule} (h : IsOnWay rs (label :: labels) (r.cons l)) :
    IsOnWay (descend l rs) labels r where
  unnamed := by
    intro p q label' hlabels hget r' hr' hprefix
    refine h.unnamed (l :: p) q label' (by simp [hlabels]) (by simpa using hget)
      (r'.cons l) (mem_descend_iff.mp hr') ?_
    simpa using hprefix
  unexcepted := by
    intro e he hforce hexception hprefix
    have heq := h.unexcepted (e.cons l) (mem_descend_iff.mp he) (inForce_descend_iff.mp hforce)
      hexception (by simpa using hprefix)
    simpa using heq

/-- The look-up takes the label of a rule that it gets to. -/
theorem IsOnWay.step_eq {rs : List SuffixRule} {l label : List Char} {labels : List (List Char)}
    {r : SuffixRule} (h : IsOnWay rs (label :: labels) (r.cons l)) (hr : r.cons l ∈ rs)
    (hl : l = ['*'] ∨ l = label) : step rs label = SuffixList.descend l rs := by
  unfold step
  by_cases heq : l = label
  · have hne : SuffixList.descend label rs ≠ [] :=
      List.ne_nil_of_mem (mem_descend_iff.mpr (heq ▸ hr))
    rw [if_neg (by simpa using hne), heq]
  · obtain rfl := hl.resolve_right heq
    have hnil : SuffixList.descend label rs = [] := by
      refine List.eq_nil_iff_forall_not_mem.mpr fun r' hr' => ?_
      exact h.unnamed [] r.labels label rfl rfl (r'.cons label) (mem_descend_iff.mp hr')
        ⟨r'.labels, rfl⟩
    rw [hnil, List.isEmpty_nil, if_pos rfl]

/-- If the look-up gets to a rule, and to no longer one behind it, the rule gives the public
suffix. -/
theorem extend_eq_of_isOnWay {rs : List SuffixRule} {labels : List (List Char)} {r : SuffixRule}
    (hr : InForce rs r) (hne : r.labels ≠ []) (hfits : r.fits labels)
    (hlongest : r.isException = false → FitsWithin rs labels r.labels.length)
    (hway : IsOnWay rs labels r) (taken size : Nat) :
    extend rs taken size labels = taken + r.size := by
  induction labels generalizing rs r taken size with
  | nil =>
    obtain ⟨l, s, rfl⟩ := SuffixRule.exists_eq_cons hne
    exact absurd hfits (SuffixRule.not_fits_cons_nil l s)
  | cons label labels ih =>
    obtain ⟨l, s, rfl⟩ := SuffixRule.exists_eq_cons hne
    obtain ⟨hl, hrest⟩ := SuffixRule.fits_cons_iff.mp hfits
    have hstep := hway.step_eq (mem_of_inForce hr) hl
    have hs : InForce (descend l rs) s := inForce_descend_iff.mpr hr
    have hlongest' : s.isException = false → FitsWithin (descend l rs) labels s.labels.length :=
      fun hx => (hlongest hx).descend hl
    have hnonempty : (descend l rs).isEmpty = false := by
      simpa using List.ne_nil_of_mem (mem_of_inForce hs)
    unfold extend
    simp only [hstep, hnonempty, Bool.false_eq_true, if_false]
    by_cases hend : s.labels = []
    · -- The rule ends here.
      rw [ending?_eq_some_iff.mpr ⟨hs, hend⟩]
      simp only [SuffixRule.size, SuffixRule.labels_cons, SuffixRule.isException_cons, hend,
        List.length_singleton]
      split
      · rfl
      · rename_i hx
        have hzero := hlongest' (by simpa using hx)
        rw [hend] at hzero
        exact extend_eq_of_fitsWithin_zero hzero _ _
    · have hrec : ∀ size, extend (descend l rs) (taken + 1) size labels =
          taken + (s.cons l).size := by
        intro size
        rw [ih hs hend hrest hlongest' hway.descend, SuffixRule.size_cons hend]
        omega
      cases hending : ending? (descend l rs) with
      | none => exact hrec size
      | some e =>
        obtain ⟨he, hnil⟩ := ending?_eq_some_iff.mp hending
        -- An exception that ends here would keep the look-up from the rule.
        have hexception : e.isException = false := by
          by_contra hx
          have heq := hway.descend.unexcepted e (mem_of_inForce he) he (by simpa using hx)
            (by simp [hnil])
          exact hend (heq ▸ hnil)
        simp only [hexception, Bool.false_eq_true, if_false]
        exact hrec (taken + 1)

/-- If only rules of one label fit a host, its public suffix has one label. -/
theorem suffixSize_eq_one {rs : List SuffixRule} {label : List Char} {labels : List (List Char)}
    (h : FitsWithin rs (label :: labels) 1) : suffixSize rs (label :: labels) = 1 :=
  extend_eq_of_fitsWithin_zero (h.descend (.inr rfl)) 1 1

/-- The look-up finds the rule that prevails if it gets to it. -/
theorem suffixSize_of_prevails {rs : List SuffixRule} {labels : List (List Char)} {r : SuffixRule}
    (hproper : 1 ≤ r.size) (h : Prevails rs labels r) (hreached : IsReached rs labels r) :
    suffixSize rs labels = r.size := by
  have hne : r.labels ≠ [] := by
    intro hnil
    simp [SuffixRule.size, hnil] at hproper
  obtain ⟨l, s, rfl⟩ := SuffixRule.exists_eq_cons hne
  cases labels with
  | nil => exact absurd h.fits (SuffixRule.not_fits_cons_nil l s)
  | cons label labels =>
    obtain ⟨hl, hrest⟩ := SuffixRule.fits_cons_iff.mp h.fits
    have hnamed : l ≠ ['*'] := fun hl => hreached.last (congrArg some hl)
    obtain rfl := hl.resolve_left hnamed
    have hs : InForce (descend l rs) s := inForce_descend_iff.mpr h.inForce
    by_cases hend : s.labels = []
    · have hexception : s.isException = false := by
        cases hx : s.isException with
        | true => simp [SuffixRule.size, hx, hend] at hproper
        | false => rfl
      have hone := h.fitsWithin hexception
      rw [SuffixRule.labels_cons, hend] at hone
      rw [suffixSize_eq_one hone]
      simp [SuffixRule.size, hexception, hend]
    · have hlongest : s.isException = false → FitsWithin (descend l rs) labels s.labels.length :=
        fun hx => (h.fitsWithin hx).descend (.inr rfl)
      rw [suffixSize, extend_eq_of_isOnWay hs hend hrest hlongest hreached.toIsOnWay.descend,
        SuffixRule.size_cons hend, Nat.add_comm]

/-! ## Lists that are read -/

theorem length_of_ruleLabels {rule : List Char} {labels : List (List Char)}
    (h : ruleLabels rule = .ok labels) : labels.length = rule.count '.' + 1 := by
  simp only [ruleLabels] at h
  split at h
  · cases h
  · obtain rfl := Except.ok.inj h
    rw [List.length_reverse, length_parts]

theorem one_le_size_of_readSpelling {rule : List Char} {r : SuffixRule}
    (h : readSpelling rule = .ok r) : 1 ≤ r.size := by
  unfold readSpelling at h
  split at h
  · rename_i rest
    split at h
    · rename_i hdot
      obtain ⟨labels, hlabels, rfl⟩ := map_eq_ok_iff.mp h
      -- The dot of an exception stands behind its mark.
      have hpos : 0 < rest.count '.' := List.count_pos_iff.mpr (by simpa using hdot)
      simp only [SuffixRule.size, length_of_ruleLabels hlabels, if_true]
      omega
    · cases h
  · obtain ⟨labels, hlabels, rfl⟩ := map_eq_ok_iff.mp h
    simp [SuffixRule.size, length_of_ruleLabels hlabels]

theorem one_le_size_of_readRule {rule : List Char} {rs : List SuffixRule}
    (h : readRule rule = .ok rs) : ∀ r ∈ rs, 1 ≤ r.size := by
  unfold readRule at h
  obtain ⟨written, hwritten, h⟩ := bind_eq_ok_iff.mp h
  cases hascii : Host.toAscii? rule with
  | none => simp [hascii] at h
  | some ascii =>
    simp only [hascii] at h
    obtain ⟨r, hspelling, h⟩ := bind_eq_ok_iff.mp h
    obtain rfl := Except.ok.inj h
    simp [one_le_size_of_readSpelling hwritten, one_le_size_of_readSpelling hspelling]

theorem one_le_size_of_readLines {inSection : Bool} {lines : List (List Char)}
    {rs : List SuffixRule} (h : readLines inSection lines = .ok rs) : ∀ r ∈ rs, 1 ≤ r.size := by
  induction lines generalizing inSection rs with
  | nil =>
    obtain rfl := Except.ok.inj h
    simp
  | cons line lines ih =>
    unfold readLines at h
    split at h
    · exact ih h
    · simp only at h
      split at h
      · exact ih h
      · obtain ⟨rs₁, hrule, h⟩ := bind_eq_ok_iff.mp h
        obtain ⟨rs₂, hlines, h⟩ := bind_eq_ok_iff.mp h
        obtain rfl := Except.ok.inj h
        intro r hr
        rcases List.mem_append.mp hr with hr | hr
        · exact one_le_size_of_readRule hrule r hr
        · exact ih hlines r hr

/-- Every rule of a list that is read gives public suffixes of at least one label. -/
theorem one_le_size_of_read {text : String} {rs : List SuffixRule}
    (h : read text = .ok (rules rs)) : ∀ r ∈ rs, 1 ≤ r.size := by
  unfold read at h
  obtain ⟨rs', hlines, h⟩ := bind_eq_ok_iff.mp h
  split at h
  · cases h
  · obtain rfl := rules.inj (Except.ok.inj h)
    exact one_le_size_of_readLines hlines

end SuffixList

end Blocklist
