import Blocklist.Proofs.Host.Covering
import Blocklist.SuffixList.Basic

/-! # The walk over the domains of a host

The domains that are looked up for a host are those that cover it and are long enough. The first hit
is the longest one. -/

namespace Blocklist.SuffixList

open Text Host

theorem mem_parents_iff {d host : List Char} : d ∈ parents host ↔ d ≠ [] ∧ '.' :: d <:+ host := by
  induction host with
  | nil => simp [parents]
  | cons c cs ih =>
    rw [List.suffix_cons_iff, List.cons.injEq]
    unfold parents
    split
    · rename_i hdot
      obtain ⟨rfl, hne⟩ : c = '.' ∧ cs ≠ [] := by simpa using hdot
      rw [List.mem_cons, ih]
      constructor
      · rintro (rfl | ⟨hd, hsuffix⟩)
        · exact ⟨hne, .inl ⟨rfl, rfl⟩⟩
        · exact ⟨hd, .inr hsuffix⟩
      · rintro ⟨hd, ⟨-, rfl⟩ | hsuffix⟩
        · exact .inl rfl
        · exact .inr ⟨hd, hsuffix⟩
    · rename_i hdot
      rw [ih]
      refine and_congr_right fun hd => ⟨.inr, fun h => h.resolve_left ?_⟩
      rintro ⟨rfl, rfl⟩
      simp [hd] at hdot

/-- What is looked up first is longer. -/
theorem pairwise_parents (host : List Char) :
    (host :: parents host).Pairwise fun d e => utf8Length e < utf8Length d := by
  have hlt : ∀ {d host : List Char}, d ∈ parents host → utf8Length d < utf8Length host := by
    intro d host hd
    obtain ⟨init, rfl⟩ := (mem_parents_iff.mp hd).2
    have hpos := Char.utf8Size_pos '.'
    simp only [utf8Length_append, utf8Length_cons]
    omega
  refine List.pairwise_cons.mpr ⟨fun d => hlt, ?_⟩
  induction host with
  | nil => exact .nil
  | cons c cs ih =>
    unfold parents
    split
    · exact List.pairwise_cons.mpr ⟨fun d => hlt, ih⟩
    · exact ih

theorem mem_takeWhile_iff {α : Type u} {p : α → Bool} {xs : List α}
    (h : xs.Pairwise fun x y => p y → p x) {x : α} : x ∈ xs.takeWhile p ↔ x ∈ xs ∧ p x := by
  induction xs with
  | nil => simp
  | cons y ys ih =>
    obtain ⟨hhead, htail⟩ := List.pairwise_cons.mp h
    by_cases hy : p y
    · rw [List.takeWhile_cons_of_pos hy, List.mem_cons, List.mem_cons, ih htail]
      constructor
      · rintro (rfl | ⟨hx, hpx⟩)
        · exact ⟨.inl rfl, hy⟩
        · exact ⟨.inr hx, hpx⟩
      · rintro ⟨rfl | hx, hpx⟩
        · exact .inl rfl
        · exact .inr ⟨hx, hpx⟩
    · rw [List.takeWhile_cons_of_neg hy]
      refine ⟨fun hx => absurd hx List.not_mem_nil, ?_⟩
      rintro ⟨hx, hpx⟩
      rcases List.mem_cons.mp hx with rfl | hx
      · exact absurd hpx hy
      · exact absurd (hhead x hx hpx) hy

theorem takeWhile_prefix_takeWhile {α : Type u} {p q : α → Bool} (h : ∀ x, p x → q x)
    (xs : List α) : xs.takeWhile p <+: xs.takeWhile q := by
  induction xs with
  | nil => exact List.prefix_rfl
  | cons x xs ih =>
    by_cases hp : p x
    · rw [List.takeWhile_cons_of_pos hp, List.takeWhile_cons_of_pos (h x hp)]
      exact (List.prefix_cons_inj x).mpr ih
    · rw [List.takeWhile_cons_of_neg hp]
      exact List.nil_prefix

variable {list : SuffixList} {host d e : String}

theorem mem_walk_iff :
    d ∈ list.walk host ↔
      d ≠ "" ∧ covers d host ∧ list.leastLength host.toList ≤ utf8Length d.toList := by
  have hmem : ∀ cs, String.ofList cs = d ↔ cs = d.toList := fun cs => by
    rw [← String.toList_inj, String.toList_ofList]
  have hne : d ≠ "" ↔ d.toList ≠ [] := by simp
  simp only [walk, List.mem_map, hmem, exists_eq_right]
  rw [hne, covers_iff_suffix, List.suffix_cons_iff, List.cons.injEq]
  unfold walkChars
  split
  · rename_i hempty
    obtain hnil : host.toList = [] := by simpa using hempty
    simp +contextual [hnil]
  · rename_i hempty
    have hnil : host.toList ≠ [] := by simpa using hempty
    rw [mem_takeWhile_iff ?_, List.mem_cons, mem_parents_iff, decide_eq_true_eq]
    · constructor
      · rintro ⟨heq | ⟨hd, hsuffix⟩, hle⟩
        · exact ⟨heq ▸ hnil, .inl ⟨rfl, heq⟩, hle⟩
        · exact ⟨hd, .inr hsuffix, hle⟩
      · rintro ⟨hd, ⟨-, heq⟩ | hsuffix, hle⟩
        · exact ⟨.inl heq, hle⟩
        · exact ⟨.inr ⟨hd, hsuffix⟩, hle⟩
    · refine (pairwise_parents host.toList).imp fun {d e} hlt he => ?_
      simp only [decide_eq_true_eq] at he ⊢
      omega

theorem pairwise_walk (list : SuffixList) (host : String) :
    (list.walk host).Pairwise fun d e => utf8Length e.toList < utf8Length d.toList := by
  unfold walk walkChars
  split
  · exact .nil
  · refine List.pairwise_map.mpr ?_
    simp only [String.toList_ofList]
    exact (pairwise_parents host.toList).sublist (List.takeWhile_sublist _)

theorem covers_of_mem_walk (h : d ∈ list.walk host) : covers d host :=
  (mem_walk_iff.mp h).2.1

/-- With a domain its subdomains are looked up, if they cover the host. -/
theorem mem_walk_of_covers (hd : d ∈ list.walk host) (h : covers d e) (he : covers e host) :
    e ∈ list.walk host := by
  obtain ⟨hne, -, hle⟩ := mem_walk_iff.mp hd
  exact mem_walk_iff.mpr ⟨ne_empty_of_covers hne h, he,
    Nat.le_trans hle (utf8Length_le_of_covers h)⟩

variable {α : Type u} {f : String → Option α} {a : α}

/-- The first hit stands for a subdomain of all domains of the host that are hits, whether they are
looked up or not. -/
theorem exists_of_findSome?_walk (h : (list.walk host).findSome? f = some a) :
    ∃ d ∈ list.walk host, f d = some a ∧ ∀ e, covers e host → (f e).isSome → covers e d := by
  obtain ⟨before, d, after, hwalk, ha, hbefore⟩ := List.findSome?_eq_some_iff.mp h
  have hd : d ∈ list.walk host := by simp [hwalk]
  refine ⟨d, hd, ha, fun e he hsome => ?_⟩
  rcases covers_or_covers he (covers_of_mem_walk hd) with hcovers | hcovers
  · exact hcovers
  · have hmem := mem_walk_of_covers hd hcovers he
    rw [hwalk, List.mem_append, List.mem_cons] at hmem
    rcases hmem with hmem | rfl | hmem
    · rw [hbefore e hmem] at hsome
      cases hsome
    · exact hcovers
    · have hpairwise := pairwise_walk list host
      rw [hwalk, List.pairwise_append, List.pairwise_cons] at hpairwise
      have hlt := hpairwise.2.1.1 e hmem
      exact covers_of_utf8Length_le he (covers_of_mem_walk hd) (Nat.le_of_lt hlt)

theorem findSome?_walk_eq_some (hd : d ∈ list.walk host) (ha : f d = some a)
    (hmax : ∀ e ∈ list.walk host, (f e).isSome → covers e d) :
    (list.walk host).findSome? f = some a := by
  have hsome : ((list.walk host).findSome? f).isSome :=
    List.findSome?_isSome_iff.mpr ⟨d, hd, by rw [ha]; rfl⟩
  obtain ⟨b, hb⟩ := Option.isSome_iff_exists.mp hsome
  obtain ⟨e, he, hfe, hcovers⟩ := exists_of_findSome?_walk hb
  have hde := hcovers d (covers_of_mem_walk hd) (by rw [ha]; rfl)
  have hed := hmax e he (by rw [hfe]; rfl)
  rw [hb, ← hfe, covers_antisymm hed hde, ha]

end Blocklist.SuffixList
