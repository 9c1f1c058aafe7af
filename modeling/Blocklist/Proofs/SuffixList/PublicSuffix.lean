import Blocklist.Proofs.SuffixList.Rules
import Blocklist.Proofs.SuffixList.SameSite

/-! # Where the walk stops

With rules for public suffixes the walk over the domains of a host stops at its public suffix if
that has two labels or more, and else at the registrable domain. There is one exception: of a host
that is itself a public suffix of three labels or more, the walk goes on to the domain behind its
first label. Main statement: `stopsAt_iff`. -/

namespace Blocklist.SuffixList

open Text Host

/-! ## Public suffixes -/

/-- The labels of a host, from right to left. -/
def labelsFromRight (host : String) : List (List Char) :=
  (parts '.' host.toList).reverse

/-- Whether a domain is the public suffix of a host: it ends the host and has as many labels as the
rule says that prevails, or one if no rule fits. -/
def IsPublicSuffix (rs : List SuffixRule) (s host : String) : Prop :=
  labels s <:+ labels host ∧
    ((∃ r, Prevails rs (labelsFromRight host) r ∧ (labels s).length = r.size) ∨
      (∀ r ∈ rs, InForce rs r → ¬r.fits (labelsFromRight host)) ∧ (labels s).length = 1)

/-- Whether the look-up for a host finds a rule that prevails. If only rules of one label fit, there
is none to be found. -/
def FindsRule (rs : List SuffixRule) (host : String) : Prop :=
  (∃ r, Prevails rs (labelsFromRight host) r ∧ IsReached rs (labelsFromRight host) r) ∨
    FitsWithin rs (labelsFromRight host) 1

variable {rs : List SuffixRule} {d s host : String}

theorem length_labelsFromRight (host : String) :
    (labelsFromRight host).length = (labels host).length := by
  rw [labelsFromRight, List.length_reverse, length_labels]

theorem one_le_length_labels (host : String) : 1 ≤ (labels host).length := by
  rw [length_labels]
  exact List.length_pos_of_ne_nil (parts_ne_nil '.' host.toList)

/-- Of the domains of a host one has a given number of labels. -/
theorem eq_of_labels_suffix (hd : labels d <:+ labels host) (hs : labels s <:+ labels host)
    (hlength : (labels d).length = (labels s).length) : d = s := by
  have hcovers : covers d s :=
    covers_iff_labels.mpr (List.suffix_of_suffix_length_le hd hs (Nat.le_of_eq hlength))
  exact eq_of_covers_of_length_le hcovers (Nat.le_of_eq hlength.symm)

theorem exists_labels_suffix {n : Nat} (hn : 1 ≤ n) (hle : n ≤ (labels host).length) :
    ∃ s, labels s <:+ labels host ∧ (labels s).length = n := by
  refine ⟨String.ofList (lastLabels n host.toList), ?_, ?_⟩
  · rw [← covers_iff_labels, covers, String.toList_ofList]
    exact coversChars_lastLabels (by omega) host.toList
  · rw [length_labels] at hle
    rw [length_labels, String.toList_ofList, length_parts_lastLabels (by omega),
      Nat.min_eq_left hle]

/-- Of a list with proper rules every host has one public suffix. -/
theorem existsUnique_isPublicSuffix (hrs : ∀ r ∈ rs, 1 ≤ r.size) (host : String) :
    ∃! s, IsPublicSuffix rs s host := by
  by_cases hfits : ∃ r, InForce rs r ∧ r.fits (labelsFromRight host)
  · obtain ⟨r, hr, hrfits⟩ := hfits
    obtain ⟨r, hprevails⟩ := exists_prevails hr hrfits
    have hle := SuffixRule.length_le_of_fits hprevails.fits
    rw [length_labelsFromRight] at hle
    obtain ⟨s, hs, hlength⟩ := exists_labels_suffix (hrs r (mem_of_inForce hprevails.inForce))
      (Nat.le_trans r.size_le_length hle)
    refine ⟨s, ⟨hs, .inl ⟨r, hprevails, hlength⟩⟩, ?_⟩
    rintro s' ⟨hs', ⟨r', hprevails', hlength'⟩ | ⟨hnone, -⟩⟩
    · refine eq_of_labels_suffix hs' hs ?_
      rw [hlength', hlength, hprevails.size_eq hprevails']
    · exact absurd hprevails.fits (hnone r (mem_of_inForce hprevails.inForce) hprevails.inForce)
  · obtain ⟨s, hs, hlength⟩ := exists_labels_suffix (Nat.le_refl 1) (one_le_length_labels host)
    refine ⟨s, ⟨hs, .inr ⟨fun r _ hr hrfits => hfits ⟨r, hr, hrfits⟩, hlength⟩⟩, ?_⟩
    rintro s' ⟨hs', ⟨r, hprevails, -⟩ | ⟨-, hlength'⟩⟩
    · exact absurd ⟨r, hprevails.inForce, hprevails.fits⟩ hfits
    · exact eq_of_labels_suffix hs' hs (hlength'.trans hlength.symm)

/-- The look-up that finds the rule gives the number of labels in the public suffix. -/
theorem suffixSize_of_isPublicSuffix (hs : IsPublicSuffix rs s host) (hfinds : FindsRule rs host) :
    suffixSize rs (labelsFromRight host) = (labels s).length := by
  have hpos := one_le_length_labels s
  rcases hfinds with ⟨r, hprevails, hreached⟩ | hshort
  · rcases hs.2 with ⟨r', hprevails', hlength⟩ | ⟨hnone, -⟩
    · have hsize : (labels s).length = r.size := hlength.trans (hprevails'.size_eq hprevails)
      rw [hsize] at hpos ⊢
      exact suffixSize_of_prevails hpos hprevails hreached
    · exact absurd hprevails.fits (hnone r (mem_of_inForce hprevails.inForce) hprevails.inForce)
  · have hone : (labels s).length = 1 := by
      rcases hs.2 with ⟨r, hprevails, hlength⟩ | ⟨-, hlength⟩
      · have hle := hshort r hprevails.inForce hprevails.fits
        have hsize := r.size_le_length
        omega
      · exact hlength
    have hne : labelsFromRight host ≠ [] := by
      rw [← List.length_pos_iff, length_labelsFromRight]
      exact one_le_length_labels host
    obtain ⟨label, ls, heq⟩ := List.exists_cons_of_ne_nil hne
    rw [heq] at hshort ⊢
    rw [hone]
    exact suffixSize_eq_one hshort

/-! ## The walk -/

/-- How the walk over the domains of a host stops at its public suffix: it goes through the domains
with at least as many labels as the suffix if that has two or more, and else through those with at
least as many as the registrable domain. -/
structure StopsAt (list : SuffixList) (host s : String) : Prop where
  mem_walk_iff_suffix : 2 ≤ (labels s).length →
    ∀ d, d ∈ list.walk host ↔ labels d <:+ labels host ∧ (labels s).length ≤ (labels d).length
  mem_walk_iff_registrable : (labels s).length < 2 →
    ∀ d, d ∈ list.walk host ↔ labels d <:+ labels host ∧
      (labels (list.registrable host)).length ≤ (labels d).length
  /-- Each domain is looked up once, the longest first. -/
  descending : (list.walk host).Pairwise fun d e => (labels e).length < (labels d).length

/-- Two bounds for the labels of the domains of a host are equal if the same domains meet them. -/
theorem eq_of_forall_le_iff {m n : Nat} (hm : 1 ≤ m) (hm' : m ≤ (labels host).length) (hn : 1 ≤ n)
    (hn' : n ≤ (labels host).length)
    (h : ∀ d, labels d <:+ labels host → (m ≤ (labels d).length ↔ n ≤ (labels d).length)) :
    m = n := by
  obtain ⟨d, hd, hdm⟩ := exists_labels_suffix hm hm'
  obtain ⟨e, he, hen⟩ := exists_labels_suffix hn hn'
  have hd' := h d hd
  have he' := h e he
  omega

theorem mem_walk_rules_iff (h : IsNormal host.toList) :
    d ∈ (rules rs).walk host ↔ labels d <:+ labels host ∧
      leastSize (min (suffixSize rs (labelsFromRight host) + 1) (labels host).length) ≤
        (labels d).length := by
  rw [mem_walk_iff_length_labels (rules rs) h, covers_iff_labels]
  rfl

/-- The walk gets to a public suffix of two labels or more, unless the host is one of three or
more. -/
theorem leastSize_min_eq_iff {m n : Nat} (hm : 2 ≤ m) (hle : m ≤ n) :
    leastSize (min (m + 1) n) = m ↔ (m = n → n ≤ 2) := by
  unfold leastSize
  split <;> omega

/-- The walk stops at the number of labels that a public suffix and the registrable domain give,
unless the host is the public suffix. -/
theorem stopsAt_iff_of_suffixSize_eq (h : IsNormal host.toList) (hs : labels s <:+ labels host)
    (hsize : suffixSize rs (labelsFromRight host) = (labels s).length) :
    (rules rs).StopsAt host s ↔ (s = host → (labels host).length ≤ 2) := by
  have hpos := one_le_length_labels s
  have hle := hs.length_le
  have hself : s = host ↔ (labels s).length = (labels host).length :=
    ⟨congrArg fun s => (labels s).length, fun heq => eq_of_labels_suffix hs List.suffix_rfl heq⟩
  have hregistrable : (labels ((rules rs).registrable host)).length =
      min ((labels s).length + 1) (labels host).length := by
    rw [length_labels_registrable (rules rs) h.last, ← hsize]
    rfl
  have hwalk : ∀ d, d ∈ (rules rs).walk host ↔ labels d <:+ labels host ∧
      leastSize (min ((labels s).length + 1) (labels host).length) ≤ (labels d).length := by
    intro d
    rw [mem_walk_rules_iff h, hsize]
  rw [hself]
  constructor
  · intro hstops heq
    by_contra hlong
    have hleast : leastSize (min ((labels s).length + 1) (labels host).length) =
        (labels s).length := by
      refine eq_of_forall_le_iff (one_le_leastSize (by omega))
        (Nat.le_trans (leastSize_le _) (Nat.min_le_right _ _)) hpos hle fun d hd => ?_
      have hmem := hstops.mem_walk_iff_suffix (by omega) d
      rw [hwalk d] at hmem
      simpa [hd] using hmem
    exact hlong ((leastSize_min_eq_iff (by omega) hle).mp hleast heq)
  · intro hshort
    constructor
    case mem_walk_iff_suffix =>
      intro hlong d
      rw [hwalk d, (leastSize_min_eq_iff hlong hle).mpr hshort]
    case mem_walk_iff_registrable =>
      intro hone d
      rw [hwalk d, leastSize_of_lt (by omega), hregistrable]
    case descending => exact pairwise_labels_walk (rules rs) host

/-- By a list that is read every host has one public suffix. The walk stops at it, if the look-up
finds its rule, unless the host is a public suffix of three labels or more. -/
theorem stopsAt_iff {url host : String} (hurl : Url.host? url = some host)
    (rs : List SuffixRule) :
    (∀ text, read text = .ok (rules rs) → ∃! s, IsPublicSuffix rs s host) ∧
      ∀ s, IsPublicSuffix rs s host → FindsRule rs host →
        ((rules rs).StopsAt host s ↔ (s = host → (labels host).length ≤ 2)) := by
  constructor
  · intro text hread
    exact existsUnique_isPublicSuffix (one_le_size_of_read hread) host
  · intro s hs hfinds
    exact stopsAt_iff_of_suffixSize_eq (Url.isNormal_of_host? hurl) hs.1
      (suffixSize_of_isPublicSuffix hs hfinds)

/-- The rules `*.c.d` and `!b.c.d`. -/
def exceptionRules : List SuffixRule :=
  [⟨["d".toList, "c".toList, "*".toList], false⟩, ⟨["d".toList, "c".toList, "b".toList], true⟩]

/-- The walk stops behind the domain that an exception names. -/
theorem stopsAt_exceptionRules :
    Url.host? "https://x.b.c.d/" = some "x.b.c.d" ∧ IsPublicSuffix exceptionRules "c.d" "x.b.c.d" ∧
      FindsRule exceptionRules "x.b.c.d" ∧ StopsAt (.rules exceptionRules) "x.b.c.d" "c.d" ∧
      walk (.rules exceptionRules) "x.b.c.d" = ["x.b.c.d", "b.c.d", "c.d"] := by
  have hhost : Url.host? "https://x.b.c.d/" = some "x.b.c.d" := by decide +kernel
  have hprevails : Prevails exceptionRules (labelsFromRight "x.b.c.d")
      ⟨["d".toList, "c".toList, "b".toList], true⟩ :=
    ⟨by decide +kernel, by decide +kernel, by decide +kernel, by decide +kernel⟩
  have hs : IsPublicSuffix exceptionRules "c.d" "x.b.c.d" :=
    ⟨by decide +kernel, .inl ⟨_, hprevails, by decide +kernel⟩⟩
  have hfinds : FindsRule exceptionRules "x.b.c.d" :=
    .inl ⟨_, hprevails, isReached_of_not_mem (by decide) (by decide +kernel)⟩
  exact ⟨hhost, hs, hfinds, ((stopsAt_iff hhost exceptionRules).2 "c.d" hs hfinds).mpr (by decide),
    by decide +kernel⟩

/-- The walk goes past a public suffix of three labels if that is the host, and past one that the
look-up does not find, since `x.c.a.b` keeps it from `*.a.b`. -/
theorem exists_not_stopsAt :
    (∃ rs s, Url.host? "https://eu.cloud.example/" = some s ∧ IsPublicSuffix rs s s ∧
      FindsRule rs s ∧ walk (.rules rs) s = ["eu.cloud.example", "cloud.example"] ∧
      ¬StopsAt (.rules rs) s s) ∧
    ∃ rs s host, Url.host? "https://z.y.c.a.b/" = some host ∧ IsPublicSuffix rs s host ∧
      s ≠ host ∧ walk (.rules rs) host = ["z.y.c.a.b", "y.c.a.b", "c.a.b", "a.b"] ∧
      ¬StopsAt (.rules rs) host s := by
  constructor
  · have hprevails : Prevails [⟨["example".toList, "cloud".toList, "eu".toList], false⟩]
        (labelsFromRight "eu.cloud.example")
        ⟨["example".toList, "cloud".toList, "eu".toList], false⟩ :=
      ⟨by decide +kernel, by decide +kernel, by decide +kernel, by decide +kernel⟩
    refine ⟨_, "eu.cloud.example", by decide +kernel,
      ⟨List.suffix_rfl, .inl ⟨_, hprevails, by decide +kernel⟩⟩,
      .inl ⟨_, hprevails, isReached_of_not_mem (by decide) (by decide +kernel)⟩,
      by decide +kernel, fun hstops => ?_⟩
    have hmem := (hstops.mem_walk_iff_suffix (by decide) "cloud.example").mp (by decide +kernel)
    exact absurd hmem.2 (by decide)
  · have hprevails : Prevails
        [⟨["b".toList, "a".toList, "*".toList], false⟩,
          ⟨["b".toList, "a".toList, "c".toList, "x".toList], false⟩]
        (labelsFromRight "z.y.c.a.b") ⟨["b".toList, "a".toList, "*".toList], false⟩ :=
      ⟨by decide +kernel, by decide +kernel, by decide +kernel, by decide +kernel⟩
    refine ⟨_, "c.a.b", "z.y.c.a.b", by decide +kernel,
      ⟨by decide +kernel, .inl ⟨_, hprevails, by decide +kernel⟩⟩, by decide, by decide +kernel,
      fun hstops => ?_⟩
    have hmem := (hstops.mem_walk_iff_suffix (by decide) "a.b").mp (by decide +kernel)
    exact absurd hmem.2 (by decide)

end Blocklist.SuffixList
