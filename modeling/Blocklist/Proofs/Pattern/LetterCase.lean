import Blocklist.Pattern.CharSet
import Blocklist.Proofs.Text.Ascii
import Mathlib.Data.List.Basic

/-! # Letter case in patterns

Among ASCII characters, sets that disregard case hold what differs in the case of a letter. Outside
ASCII only two characters, the Kelvin sign and the long s, fold to an ASCII letter. -/

namespace Blocklist.Unicode

theorem le_of_mem_orbitTable {n : Nat} {members : List Nat} (h : (n, members) ∈ orbitTable)
    {m : Nat} (hm : m ∈ members) : 0x80 ≤ m := by
  simp only [orbitTable, List.mem_toArray, List.mem_mergeSort, List.mem_flatMap, List.mem_map,
    Prod.mk.injEq] at h
  obtain ⟨orbit, horbit, _, _, _, rfl⟩ := h
  have hall := (List.mem_filter.mp horbit).2
  simpa using List.all_eq_true.mp hall m hm

/-- Apart from two code points, those outside ASCII differ in case from such ones only. -/
theorem le_of_mem_orbit {n m : Nat} (hn : 0x80 ≤ n) (hkelvin : n ≠ 0x212a) (hlong : n ≠ 0x17f)
    (h : m ∈ orbit n) : 0x80 ≤ m := by
  rw [orbit, if_neg (by omega), if_neg (by simpa using hkelvin), if_neg (by simpa using hlong)] at h
  simp only at h
  split at h
  · rename_i n' members heq
    split at h
    · exact le_of_mem_orbitTable (Array.mem_of_getElem? heq) h
    · rwa [List.mem_singleton.mp h]
  · rwa [List.mem_singleton.mp h]

end Blocklist.Unicode

namespace Blocklist.Pattern.CharSet

open Text

theorem mem_foldCase_iff {s : CharSet} {c : Char} :
    c ∈ foldCase s ↔ ∃ n ∈ Unicode.orbit c.toNat, s.contains n := by
  simp [mem_def, contains]

theorem mem_foldCase_char_iff {c d : Char} :
    c ∈ foldCase (char d) ↔ d.toNat ∈ Unicode.orbit c.toNat := by
  rw [mem_foldCase_iff]
  constructor
  · rintro ⟨n, hn, hmem⟩
    obtain rfl : n = d.toNat := by
      simp only [char, contains, Bool.and_eq_true, decide_eq_true_eq] at hmem
      omega
    exact hn
  · intro h
    exact ⟨d.toNat, h, by simp [char, contains]⟩

/-- An ASCII character matches its lower-case form. -/
theorem mem_foldCase_char_toLower {c : Char} (hc : c.toNat < 128) :
    c ∈ foldCase (char c.toLower) :=
  forall_ascii (p := fun c => c ∈ foldCase (char c.toLower)) (by decide +kernel) hc

/-- Among ASCII characters a character matches only those that differ from it in case alone. -/
theorem toLower_eq_of_mem_foldCase_char {c d : Char} (hc : c.toNat < 128) (hd : d.toNat < 128)
    (h : c ∈ foldCase (char d)) : c.toLower = d.toLower := by
  have hall : ∀ n < 128, ∀ m ∈ Unicode.orbit (Char.ofNat n).toNat, m < 128 →
      (Char.ofNat n).toLower = (Char.ofNat m).toLower := by
    decide +kernel
  have heq := forall_ascii (p := fun c => ∀ m ∈ Unicode.orbit c.toNat, m < 128 →
    c.toLower = (Char.ofNat m).toLower) hall hc d.toNat (mem_foldCase_char_iff.mp h) hd
  rwa [Char.ofNat_toNat] at heq

/-- Apart from the letters K and S an ASCII character matches ASCII characters only. -/
theorem toNat_lt_of_mem_foldCase_char {c d : Char} (hd : d.toNat < 128) (hk : d.toLower ≠ 'k')
    (hs : d.toLower ≠ 's') (h : c ∈ foldCase (char d)) : c.toNat < 128 := by
  have hmem := mem_foldCase_char_iff.mp h
  have hletters : ∀ n < 128, (n ∈ Unicode.orbit 0x212a → (Char.ofNat n).toLower = 'k') ∧
      (n ∈ Unicode.orbit 0x17f → (Char.ofNat n).toLower = 's') := by
    decide +kernel
  obtain ⟨hkelvin, hlong⟩ := hletters d.toNat hd
  rw [Char.ofNat_toNat] at hkelvin hlong
  by_contra hc
  refine absurd (Unicode.le_of_mem_orbit (by omega) (fun heq => ?_) (fun heq => ?_) hmem) (by omega)
  · exact hk (hkelvin (heq ▸ hmem))
  · exact hs (hlong (heq ▸ hmem))

/-- An ASCII character that is no letter matches itself only. -/
theorem mem_foldCase_char_iff_eq {c d : Char} (hd : d.toNat < 128) (halpha : ¬ d.isAlpha) :
    c ∈ foldCase (char d) ↔ c = d := by
  have hlower := toLower_of_not_isAlpha halpha
  constructor
  · intro h
    have hne : ∀ l : Char, l.isAlpha → d.toLower ≠ l := fun l hl heq =>
      halpha (by rw [← hlower, heq]; exact hl)
    have hc := toNat_lt_of_mem_foldCase_char hd (hne 'k' (by decide)) (hne 's' (by decide)) h
    have heq := toLower_eq_of_mem_foldCase_char hc hd h
    rw [hlower] at heq
    exact (toLower_eq_iff halpha).mp heq
  · rintro rfl
    have h := mem_foldCase_char_toLower hd
    rwa [hlower] at h

end Blocklist.Pattern.CharSet
