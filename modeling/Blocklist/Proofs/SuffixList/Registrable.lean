import Blocklist.Proofs.SuffixList.Walk
import Blocklist.Proofs.Text.Trimming

/-! # Registrable domains

The registrable domain of a host is the host itself or ends it with two labels or more. So the walk
over the domains of a host stops at the last two labels or before, and with the table of common
suffixes it gets as far as that. Main statement: `walk_prefix_heuristic`. -/

namespace Blocklist.SuffixList

open Text Host

/-! ## The last labels of a host -/

/-- The end of a host from its `n`-th last label on. -/
def lastLabels (n : Nat) (host : List Char) : List Char :=
  joined '.' ((parts '.' host).reverse.take n).reverse

theorem lastLabels_eq_self {n : Nat} {host : List Char} (h : (parts '.' host).length ≤ n) :
    lastLabels n host = host := by
  rw [lastLabels, List.take_of_length_le (by simpa using h), List.reverse_reverse, joined_parts]

/-- A host with more labels than that ends with a dot and its last labels. -/
theorem exists_eq_append_lastLabels {n : Nat} {host : List Char} (hn : n ≠ 0)
    (h : n < (parts '.' host).length) :
    ∃ before, host = before ++ '.' :: lastLabels n host := by
  have hsplit := List.take_append_drop n (parts '.' host).reverse
  rw [← List.reverse_inj, List.reverse_append, List.reverse_reverse] at hsplit
  refine ⟨joined '.' ((parts '.' host).reverse.drop n).reverse, ?_⟩
  rw [lastLabels, ← joined_append, hsplit, joined_parts]
  · simpa using h
  · simp [hn, parts_ne_nil]

theorem coversChars_lastLabels {n : Nat} (hn : n ≠ 0) (host : List Char) :
    coversChars (lastLabels n host) host := by
  rw [coversChars_iff]
  rcases Nat.lt_or_ge n (parts '.' host).length with hlt | hge
  · obtain ⟨before, heq⟩ := exists_eq_append_lastLabels hn hlt
    exact .inr ⟨before, heq.symm⟩
  · exact .inl (lastLabels_eq_self hge).symm

theorem length_parts_lastLabels {n : Nat} (hn : n ≠ 0) (host : List Char) :
    (parts '.' (lastLabels n host)).length = min n (parts '.' host).length := by
  rw [lastLabels, parts_joined]
  · simp
  · simp [hn, parts_ne_nil]
  · intro p hp
    exact not_mem_of_mem_parts (List.mem_reverse.mp (List.mem_of_mem_take (List.mem_reverse.mp hp)))

/-- The last labels of a domain are those of the hosts it covers. -/
theorem lastLabels_of_coversChars {n : Nat} {d host : List Char} (h : coversChars d host)
    (hn : n ≤ (parts '.' d).length) : lastLabels n host = lastLabels n d := by
  rcases coversChars_iff.mp h with rfl | ⟨before, rfl⟩
  · rfl
  · rw [lastLabels, parts_append_cons, List.reverse_append,
      List.take_append_of_le_length (by simpa using hn), lastLabels]

theorem two_le_length_parts_iff {cs : List Char} : 2 ≤ (parts '.' cs).length ↔ '.' ∈ cs := by
  rw [length_parts, ← List.count_pos_iff]
  omega

/-- In a host of more labels one label and a dot stand in front of its last ones. -/
theorem exists_lastLabels_succ {n : Nat} {host : List Char} (hn : n ≠ 0)
    (h : n < (parts '.' host).length) :
    ∃ label, '.' ∉ label ∧ lastLabels (n + 1) host = label ++ '.' :: lastLabels n host := by
  have hsucc : (parts '.' (lastLabels (n + 1) host)).length = n + 1 := by
    rw [length_parts_lastLabels (by omega), Nat.min_eq_left h]
  have hlength : (parts '.' (lastLabels n host)).length = n := by
    rw [length_parts_lastLabels hn, Nat.min_eq_left (Nat.le_of_lt h)]
  have hcovers := coversChars_lastLabels (n := n + 1) (by omega) host
  have hlt : n < (parts '.' (lastLabels (n + 1) host)).length := by omega
  obtain ⟨label, heq⟩ := exists_eq_append_lastLabels hn hlt
  rw [← lastLabels_of_coversChars hcovers (by omega)] at heq
  refine ⟨label, ?_, heq⟩
  rw [heq, length_parts, List.count_append, List.count_cons_self] at hsucc
  rw [length_parts] at hlength
  exact List.count_eq_zero.mp (by omega)

/-- A host does not have more labels than it has. -/
theorem lastLabels_min (n : Nat) (host : List Char) :
    lastLabels (min n (parts '.' host).length) host = lastLabels n host := by
  rcases Nat.le_total n (parts '.' host).length with hle | hge
  · rw [Nat.min_eq_left hle]
  · rw [Nat.min_eq_right hge, lastLabels_eq_self (Nat.le_refl _), lastLabels_eq_self hge]

/-- What ends a host is as long as its last labels exactly if it has as many. -/
theorem utf8Length_lastLabels_le_iff {n : Nat} {d host : List Char} (hn : n ≠ 0)
    (hle : n ≤ (parts '.' host).length) (h : coversChars d host) :
    utf8Length (lastLabels n host) ≤ utf8Length d ↔ n ≤ (parts '.' d).length := by
  constructor
  · intro hlength
    have hlast : covers (String.ofList (lastLabels n host)) (String.ofList host) := by
      simpa [covers] using coversChars_lastLabels hn host
    have hcovers : covers (String.ofList (lastLabels n host)) (String.ofList d) :=
      covers_of_utf8Length_le hlast (by simpa [covers] using h) (by simpa using hlength)
    have hlabels := (covers_iff_labels.mp hcovers).length_le
    rw [length_labels, length_labels, String.toList_ofList, String.toList_ofList,
      length_parts_lastLabels hn] at hlabels
    omega
  · intro hlabels
    rw [lastLabels_of_coversChars h hlabels]
    exact utf8Length_le_of_suffix (suffix_of_coversChars (coversChars_lastLabels hn d))

/-! ## Registrable domains -/

theorem one_le_extend (rs : List SuffixRule) {taken size : Nat} (htaken : 1 ≤ taken)
    (hsize : 1 ≤ size) (labels : List (List Char)) : 1 ≤ extend rs taken size labels := by
  induction labels generalizing rs taken size with
  | nil => exact hsize
  | cons label labels ih =>
    unfold extend
    simp only
    split
    · exact hsize
    · split
      · split
        · exact htaken
        · exact ih _ (by omega) (by omega)
      · exact ih _ (by omega) hsize

/-- A public suffix has a label. -/
theorem one_le_suffixSize (rs : List SuffixRule) {labels : List (List Char)} (h : labels ≠ []) :
    1 ≤ suffixSize rs labels := by
  cases labels with
  | nil => exact absurd rfl h
  | cons label labels => exact one_le_extend _ (Nat.le_refl 1) (Nat.le_refl 1) labels

/-- The registrable domain of a host by any table of suffixes of two labels. -/
def registrableIn (table : List String) (host : List Char) : List Char :=
  if table.contains (String.ofList (lastLabels 2 host)) then lastLabels 3 host
  else lastLabels 2 host

theorem registrableByTable_eq (host : List Char) :
    registrableByTable host = registrableIn commonSuffixes host :=
  rfl

/-- The number of labels in the registrable domain of a host that has as many. -/
def siteSize (list : SuffixList) (host : List Char) : Nat :=
  match list with
  | heuristic => if commonSuffixes.contains (String.ofList (lastLabels 2 host)) then 3 else 2
  | rules rs => suffixSize rs (parts '.' host).reverse + 1

theorem siteSize_heuristic (host : List Char) :
    heuristic.siteSize host = 2 ∨ heuristic.siteSize host = 3 := by
  simp only [siteSize]
  split
  · exact .inr rfl
  · exact .inl rfl

theorem two_le_siteSize (list : SuffixList) (host : List Char) : 2 ≤ list.siteSize host := by
  cases list with
  | heuristic =>
    have hsize := siteSize_heuristic host
    omega
  | rules rs =>
    have hlabels : (parts '.' host).reverse ≠ [] := by simp [parts_ne_nil]
    exact Nat.succ_le_succ (one_le_suffixSize rs hlabels)

/-- The registrable domain of a host is made up of its last labels. -/
theorem registrableChars_eq_lastLabels (list : SuffixList) {host : List Char}
    (h : host.getLast? ≠ some '.') :
    list.registrableChars host = lastLabels (list.siteSize host) host := by
  unfold registrableChars
  simp only [dropEndWhile_beq_eq_self h]
  cases list with
  | heuristic =>
    simp only [registrableByTable_eq, registrableIn, siteSize]
    split <;> rfl
  | rules rs =>
    simp only [registrableByRules?, siteSize]
    -- A host that is itself a public suffix has no more labels than that.
    have hself : ∀ {ls : List (List Char)},
        (parts '.' host).reverse.drop (suffixSize rs (parts '.' host).reverse) = ls →
        ls.length ≤ 1 →
        host = lastLabels (suffixSize rs (parts '.' host).reverse + 1) host := by
      intro ls heq hle
      have hlength := congrArg List.length heq
      rw [List.length_drop, List.length_reverse] at hlength
      exact (lastLabels_eq_self (by omega)).symm
    split
    · rename_i heq
      exact hself heq (Nat.zero_le 1)
    · rename_i heq
      exact hself heq (Nat.le_refl 1)
    · rfl

/-! ## Where the walk stops -/

theorem suffix_of_parentChars? {d suffix : List Char} (h : parentChars? d = some suffix) :
    '.' :: suffix <:+ d := by
  unfold parentChars? at h
  split at h
  · rename_i label c cs hcut
    obtain rfl := Option.some.inj h
    exact ⟨label, (eq_append_of_cut? hcut).symm⟩
  · cases h

theorem parentChars?_append {label suffix : List Char} (hlabel : '.' ∉ label) (h : suffix ≠ []) :
    parentChars? (label ++ '.' :: suffix) = some suffix := by
  obtain ⟨c, cs, rfl⟩ := List.exists_cons_of_ne_nil h
  rw [parentChars?, cut?_append hlabel]

/-- The length that a domain must have to be looked for among those of a host whose registrable
domain is given. -/
def leastLengthFor (domain host : List Char) : Nat :=
  if domain.isSuffixOf host then
    match parentChars? domain with
    | some suffix => if suffix.contains '.' then utf8Length suffix else utf8Length domain
    | none => utf8Length domain
  else utf8Length host

theorem leastLength_eq (list : SuffixList) (host : List Char) :
    list.leastLength host = leastLengthFor (list.registrableChars host) host :=
  rfl

/-- The number of labels at which the walk stops, by that of the registrable domain: one label
less, unless a single one would be left. -/
def leastSize (n : Nat) : Nat :=
  if 3 ≤ n then n - 1 else n

theorem leastSize_le (n : Nat) : leastSize n ≤ n := by
  unfold leastSize
  split <;> omega

theorem leastSize_of_lt {n : Nat} (h : n < 3) : leastSize n = n :=
  if_neg (by omega)

theorem one_le_leastSize {n : Nat} (h : 1 ≤ n) : 1 ≤ leastSize n := by
  unfold leastSize
  split <;> omega

/-- The walk stops at the domain in front of which the registrable domain has one label, if that
has two labels or more, and else at the registrable domain. -/
theorem leastLengthFor_lastLabels {n : Nat} {host : List Char} (hn : n ≠ 0)
    (hle : n ≤ (parts '.' host).length) :
    leastLengthFor (lastLabels n host) host = utf8Length (lastLabels (leastSize n) host) := by
  have hsuffix := suffix_of_coversChars (coversChars_lastLabels hn host)
  have hlength : (parts '.' (lastLabels n host)).length = n := by
    rw [length_parts_lastLabels hn, Nat.min_eq_left hle]
  unfold leastLengthFor leastSize
  simp only [List.isSuffixOf_iff_suffix.mpr hsuffix, if_true]
  by_cases hthree : 3 ≤ n
  · obtain ⟨m, rfl⟩ : ∃ m, n = m + 1 := ⟨n - 1, by omega⟩
    obtain ⟨label, hlabel, heq⟩ := exists_lastLabels_succ (by omega) hle
    have hdot : '.' ∈ lastLabels m host := by
      rw [← two_le_length_parts_iff, length_parts_lastLabels (by omega)]
      omega
    rw [if_pos hthree, heq, parentChars?_append hlabel (List.ne_nil_of_mem hdot)]
    simp [hdot]
  · rw [if_neg hthree]
    cases hparent : parentChars? (lastLabels n host) with
    | none => rfl
    | some suffix =>
      -- A dot behind the first one would make a third label.
      have hdot : '.' ∉ suffix := by
        intro hdot
        obtain ⟨label, heq⟩ := suffix_of_parentChars? hparent
        have hpos := List.count_pos_iff.mpr hdot
        rw [← heq, length_parts, List.count_append, List.count_cons_self] at hlength
        omega
      simp [hdot]

/-- The domains that are looked for have at least the labels at which the walk stops. -/
theorem leastLength_eq_lastLabels (list : SuffixList) {host : List Char}
    (h : host.getLast? ≠ some '.') :
    list.leastLength host = utf8Length
      (lastLabels (leastSize (min (list.siteSize host) (parts '.' host).length)) host) := by
  have hsize := two_le_siteSize list host
  have hpos := List.length_pos_of_ne_nil (parts_ne_nil '.' host)
  rw [leastLength_eq, registrableChars_eq_lastLabels list h, ← lastLabels_min,
    leastLengthFor_lastLabels (by omega) (Nat.min_le_right _ _)]

/-- With a registrable domain of two or three labels the walk gets to the last two. -/
theorem lastLabels_leastSize {n : Nat} (hn : n = 2 ∨ n = 3) (host : List Char) :
    lastLabels (leastSize (min n (parts '.' host).length)) host = lastLabels 2 host := by
  have hpos := List.length_pos_of_ne_nil (parts_ne_nil '.' host)
  rw [← lastLabels_min 2]
  unfold leastSize
  congr 1
  split <;> omega

/-- With any table of suffixes all ends of a host with two labels or more are looked up. -/
theorem leastLengthFor_registrableIn (table : List String) (host : List Char) :
    leastLengthFor (registrableIn table host) host = utf8Length (lastLabels 2 host) := by
  obtain ⟨n, hn, heq⟩ : ∃ n, (n = 2 ∨ n = 3) ∧ registrableIn table host = lastLabels n host := by
    unfold registrableIn
    split
    · exact ⟨3, .inr rfl, rfl⟩
    · exact ⟨2, .inl rfl, rfl⟩
  have hpos := List.length_pos_of_ne_nil (parts_ne_nil '.' host)
  rw [heq, ← lastLabels_min, leastLengthFor_lastLabels (by omega) (Nat.min_le_right _ _),
    lastLabels_leastSize hn]

theorem leastLength_heuristic {host : List Char} (h : host.getLast? ≠ some '.') :
    heuristic.leastLength host = utf8Length (lastLabels 2 host) := by
  rw [leastLength_eq_lastLabels heuristic h, lastLabels_leastSize (siteSize_heuristic host)]

/-- What is looked up for a host has its last two labels at least. -/
theorem utf8Length_lastTwo_le_leastLength (list : SuffixList) {host : List Char}
    (h : host.getLast? ≠ some '.') :
    utf8Length (lastLabels 2 host) ≤ list.leastLength host := by
  have hsize := two_le_siteSize list host
  have hpos := List.length_pos_of_ne_nil (parts_ne_nil '.' host)
  have hleast : min 2 (parts '.' host).length ≤
      leastSize (min (list.siteSize host) (parts '.' host).length) := by
    unfold leastSize
    split <;> omega
  rw [leastLength_eq_lastLabels list h, ← lastLabels_min 2,
    utf8Length_lastLabels_le_iff (by omega) (Nat.min_le_right _ _)
      (coversChars_lastLabels (by omega) host), length_parts_lastLabels (by omega)]
  exact Nat.le_min.mpr ⟨hleast, Nat.min_le_right _ _⟩

/-- The walk with any suffix list is an initial segment of that with the table of common
suffixes. -/
theorem walk_prefix_heuristic (list : SuffixList) {host : String}
    (h : host.toList.getLast? ≠ some '.') : list.walk host <+: heuristic.walk host := by
  have hle : heuristic.leastLength host.toList ≤ list.leastLength host.toList :=
    Nat.le_trans (Nat.le_of_eq (leastLength_heuristic h)) (utf8Length_lastTwo_le_leastLength list h)
  refine List.IsPrefix.map _ ?_
  unfold walkChars
  split
  · exact List.prefix_rfl
  · refine takeWhile_prefix_takeWhile (fun d hd => ?_) _
    simp only [decide_eq_true_eq] at hd ⊢
    exact Nat.le_trans hle hd

end Blocklist.SuffixList
