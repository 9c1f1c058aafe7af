import Blocklist.Proofs.SuffixList.Labels
import Blocklist.Proofs.Url.Authority

/-! # Registrable domains along a host

All domains of a host from itself down to its registrable domain have the same registrable domain,
and so belong to the same site. This is because the rule that decides about the public suffix has at
most one label more than the suffix: it is found among the labels that these domains have in common.
Main statement: `keepsSite`. -/

namespace Blocklist.SuffixList

open Text Host

/-! ## The labels that count -/

/-- A public suffix is one that was known before or goes on to the labels that are looked at. -/
theorem extend_eq_or_le (rs : List SuffixRule) (taken size : Nat) (labels : List (List Char)) :
    extend rs taken size labels = size ∨ taken ≤ extend rs taken size labels := by
  induction labels generalizing rs taken size with
  | nil => exact .inl rfl
  | cons label labels ih =>
    unfold extend
    simp only
    split
    · exact .inl rfl
    · split
      · split
        · exact .inr (Nat.le_refl taken)
        · have hle := ih (step rs label) (taken + 1) (taken + 1)
          omega
      · have hle := ih (step rs label) (taken + 1) size
        omega

/-- Of the labels that are looked at, those count that belong to the public suffix, and one more. -/
theorem extend_take {rs : List SuffixRule} {taken size n : Nat} {labels : List (List Char)}
    (h : extend rs taken size labels < taken + n) :
    extend rs taken size (labels.take n) = extend rs taken size labels := by
  induction labels generalizing rs taken size n with
  | nil => rw [List.take_nil]
  | cons label labels ih =>
    cases n with
    | zero =>
      rcases extend_eq_or_le rs taken size (label :: labels) with heq | hle
      · rw [heq]
        rfl
      · omega
    | succ n =>
      rw [← Nat.succ_add_eq_add_succ] at h
      rw [List.take_succ_cons]
      unfold extend at h ⊢
      simp only at h ⊢
      split
      · rfl
      · rename_i hrest
        rw [if_neg hrest] at h
        split
        · rename_i r hending
          simp only [hending] at h
          split
          · rfl
          · rename_i hexception
            rw [if_neg hexception] at h
            exact ih h
        · rename_i hending
          simp only [hending] at h
          exact ih h

theorem suffixSize_take {rs : List SuffixRule} {n : Nat} {labels : List (List Char)}
    (h : suffixSize rs labels < n) : suffixSize rs (labels.take n) = suffixSize rs labels := by
  cases labels with
  | nil => rw [List.take_nil]
  | cons label labels =>
    obtain ⟨m, rfl⟩ : ∃ m, n = m + 1 := ⟨n - 1, by omega⟩
    rw [List.take_succ_cons]
    rw [Nat.add_comm] at h
    exact extend_take h

/-- The registrable domains of a host and of a domain of it that has as many labels are as long. -/
theorem siteSize_of_coversChars (list : SuffixList) {d host : List Char} (h : coversChars d host)
    (hsize : list.siteSize host ≤ (parts '.' d).length) :
    list.siteSize d = list.siteSize host := by
  cases list with
  | heuristic =>
    have htwo := two_le_siteSize heuristic host
    simp only [siteSize, lastLabels_of_coversChars h (Nat.le_trans htwo hsize)]
  | rules rs =>
    have htake : (parts '.' d).reverse = (parts '.' host).reverse.take (parts '.' d).length := by
      have hprefix := List.reverse_prefix.mpr (coversChars_iff_parts.mp h)
      rw [List.prefix_iff_eq_take.mp hprefix, List.length_reverse]
    simp only [siteSize] at hsize ⊢
    rw [htake, suffixSize_take hsize]

/-! ## Domains of a host -/

theorem getLast?_ne_of_suffix {d host : List Char} {c : Char} (h : d <:+ host)
    (hlast : host.getLast? ≠ some c) : d.getLast? ≠ some c := by
  obtain ⟨init, rfl⟩ := h
  by_cases hd : d = []
  · simp [hd]
  · rwa [List.getLast?_append_of_ne_nil _ hd] at hlast

variable {list : SuffixList} {d host : String}

/-- The registrable domain of a host as a text. -/
theorem registrable_eq_lastLabels (list : SuffixList) (h : host.toList.getLast? ≠ some '.') :
    list.registrable host = String.ofList (lastLabels (list.siteSize host.toList) host.toList) := by
  rw [registrable, registrableChars_eq_lastLabels list h]

theorem covers_registrable (list : SuffixList) (h : host.toList.getLast? ≠ some '.') :
    covers (list.registrable host) host := by
  have hsize := two_le_siteSize list host.toList
  rw [registrable_eq_lastLabels list h, covers, String.toList_ofList]
  exact coversChars_lastLabels (by omega) host.toList

theorem length_labels_registrable (list : SuffixList) (h : host.toList.getLast? ≠ some '.') :
    (labels (list.registrable host)).length =
      min (list.siteSize host.toList) (labels host).length := by
  have hsize := two_le_siteSize list host.toList
  rw [registrable_eq_lastLabels list h, length_labels, length_labels, String.toList_ofList,
    length_parts_lastLabels (by omega)]

theorem eq_of_covers_of_length_le (h : covers d host)
    (hle : (labels host).length ≤ (labels d).length) : d = host := by
  by_contra hne
  have hlt := length_labels_lt_of_covers h hne
  omega

/-- A domain of a host from itself down to its registrable domain has the same registrable
domain. -/
theorem registrable_eq_of_covers (h : host.toList.getLast? ≠ some '.') (hcovers : covers d host)
    (hle : (labels (list.registrable host)).length ≤ (labels d).length) :
    list.registrable d = list.registrable host := by
  rw [length_labels_registrable list h] at hle
  by_cases hsize : list.siteSize host.toList ≤ (labels d).length
  · rw [length_labels] at hsize
    have hlast := getLast?_ne_of_suffix (suffix_of_coversChars hcovers) h
    rw [registrable_eq_lastLabels list hlast, registrable_eq_lastLabels list h,
      siteSize_of_coversChars list hcovers hsize, lastLabels_of_coversChars hcovers hsize]
  · rw [eq_of_covers_of_length_le hcovers (by omega)]

/-! ## Sites -/

/-- How the domains of a host belong to its site: the registrable domain of the host is one of them,
and those that have as many labels all have this registrable domain. -/
structure KeepsSite (list : SuffixList) (host : String) : Prop where
  registrable_suffix : labels (list.registrable host) <:+ labels host
  registrable_eq : ∀ d, labels d <:+ labels host →
    (labels (list.registrable host)).length ≤ (labels d).length →
      list.registrable d = list.registrable host
  registrable_registrable : list.registrable (list.registrable host) = list.registrable host
  sameSite : ∀ d, labels d <:+ labels host →
    (labels (list.registrable host)).length ≤ (labels d).length → list.isSameSite host d

/-- The registrable domain of the host of a URL is stable along the host, by any suffix list. -/
theorem keepsSite (list : SuffixList) {url host : String} (h : Url.host? url = some host) :
    list.KeepsSite host := by
  have hlast := (Url.isNormal_of_host? h).last
  have hself := covers_registrable list hlast
  have heq : ∀ d, labels d <:+ labels host →
      (labels (list.registrable host)).length ≤ (labels d).length →
        list.registrable d = list.registrable host := by
    intro d hlabels hle
    exact registrable_eq_of_covers hlast (covers_iff_labels.mpr hlabels) hle
  constructor
  case registrable_suffix => exact covers_iff_labels.mp hself
  case registrable_eq => exact heq
  case registrable_registrable => exact registrable_eq_of_covers hlast hself (Nat.le_refl _)
  case sameSite =>
    intro d hlabels hle
    rw [isSameSite, heq d hlabels hle, beq_self_eq_true]

/-- An exception to a wildcard makes a shorter registrable domain. -/
theorem keepsSite_exception :
    Url.host? "https://a.b.www.ck/" = some "a.b.www.ck" ∧
      KeepsSite (.rules [⟨["ck".toList, "*".toList], false⟩, ⟨["ck".toList, "www".toList], true⟩])
        "a.b.www.ck" ∧
      registrable (.rules [⟨["ck".toList, "*".toList], false⟩, ⟨["ck".toList, "www".toList], true⟩])
        "a.b.www.ck" = "www.ck" := by
  have hhost : Url.host? "https://a.b.www.ck/" = some "a.b.www.ck" := by decide +kernel
  exact ⟨hhost, keepsSite _ hhost, by decide +kernel⟩

end Blocklist.SuffixList
