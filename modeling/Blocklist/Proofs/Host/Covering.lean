import Blocklist.Host
import Blocklist.Proofs.Text.Parts
import Blocklist.Text.Utf8

/-! # Domains that cover hosts

Behind a dot in front of both, a domain covers a host exactly if it is a suffix of the host. So the
domains that cover a host form a chain, in which more labels stand for a longer domain. -/

namespace Blocklist.Host

open Text

theorem coversChars_iff_suffix {domain host : List Char} :
    coversChars domain host ↔ '.' :: domain <:+ '.' :: host := by
  rw [coversChars_iff, List.suffix_cons_iff, List.cons.injEq, eq_comm]
  simp

theorem covers_iff_suffix {domain host : String} :
    covers domain host ↔ '.' :: domain.toList <:+ '.' :: host.toList :=
  coversChars_iff_suffix

theorem suffix_of_coversChars {domain host : List Char} (h : coversChars domain host) :
    domain <:+ host := by
  rcases coversChars_iff.mp h with rfl | hsuffix
  · exact List.suffix_rfl
  · exact (List.suffix_cons '.' domain).trans hsuffix

theorem coversChars_trans {d e host : List Char} (hd : coversChars d e)
    (he : coversChars e host) : coversChars d host :=
  coversChars_iff_suffix.mpr ((coversChars_iff_suffix.mp hd).trans (coversChars_iff_suffix.mp he))

theorem utf8Length_le_of_suffix {xs ys : List Char} (h : xs <:+ ys) :
    utf8Length xs ≤ utf8Length ys := by
  obtain ⟨init, rfl⟩ := h
  rw [utf8Length_append]
  omega

variable {d e host : String}

theorem covers_trans (hd : covers d e) (he : covers e host) : covers d host :=
  coversChars_trans hd he

theorem covers_antisymm (hd : covers d e) (he : covers e d) : d = e := by
  have heq := (covers_iff_suffix.mp hd).eq_of_length_le (covers_iff_suffix.mp he).length_le
  exact String.toList_inj.mp (List.cons.inj heq).2

/-- Of two domains that cover a host, one covers the other. -/
theorem covers_or_covers (hd : covers d host) (he : covers e host) : covers d e ∨ covers e d := by
  rw [covers_iff_suffix, covers_iff_suffix]
  exact List.suffix_or_suffix_of_suffix (covers_iff_suffix.mp hd) (covers_iff_suffix.mp he)

theorem utf8Length_le_of_covers (h : covers d e) : utf8Length d.toList ≤ utf8Length e.toList :=
  utf8Length_le_of_suffix (suffix_of_coversChars h)

/-- The shorter one of two domains that cover a host covers the other. -/
theorem covers_of_utf8Length_le (hd : covers d host) (he : covers e host)
    (hle : utf8Length d.toList ≤ utf8Length e.toList) : covers d e := by
  rcases covers_or_covers hd he with h | h
  · exact h
  · obtain ⟨init, heq⟩ := covers_iff_suffix.mp h
    cases init with
    | nil =>
      obtain rfl : e = d := String.toList_inj.mp (List.cons.inj heq).2
      exact h
    | cons c init =>
      have hlength := congrArg utf8Length heq
      have hpos := c.utf8Size_pos
      simp only [List.cons_append, utf8Length_append, utf8Length_cons] at hlength
      omega

theorem coversChars_iff_parts {domain host : List Char} :
    coversChars domain host ↔ parts '.' domain <:+ parts '.' host := by
  constructor
  · intro h
    rcases coversChars_iff.mp h with rfl | ⟨before, rfl⟩
    · exact List.suffix_rfl
    · rw [parts_append_cons]
      exact List.suffix_append _ _
  · rintro ⟨before, heq⟩
    rw [coversChars_iff, ← joined_parts '.' host, ← heq]
    by_cases hbefore : before = []
    · exact .inl (by simp [hbefore, joined_parts])
    · rw [joined_append '.' hbefore (parts_ne_nil '.' domain), joined_parts]
      exact .inr ⟨_, rfl⟩

/-- A domain covers a host exactly if its labels are the last ones of the host. -/
theorem covers_iff_labels : covers d host ↔ labels d <:+ labels host := by
  rw [covers, coversChars_iff_parts, labels, labels, List.suffix_map_iff]
  constructor
  · intro h
    exact ⟨_, h, rfl⟩
  · rintro ⟨ls, h, heq⟩
    rwa [(List.map_inj_right fun _ _ => String.ofList_inj.mp).mp heq]

theorem length_labels (d : String) : (labels d).length = (parts '.' d.toList).length :=
  List.length_map _

/-- A subdomain has more labels than the domain. -/
theorem length_labels_lt_of_covers (h : covers d e) (hne : d ≠ e) :
    (labels d).length < (labels e).length := by
  obtain ⟨init, heq⟩ := (covers_iff.mp h).resolve_left (Ne.symm hne)
  rw [labels, labels, List.length_map, List.length_map, length_parts, length_parts, ← heq,
    List.count_append, List.count_cons_self]
  omega

theorem length_lt_of_covers (h : covers d e) (hne : d ≠ e) : d.length < e.length := by
  obtain ⟨init, heq⟩ := (covers_iff.mp h).resolve_left (Ne.symm hne)
  rw [← String.length_toList, ← String.length_toList, ← heq, List.length_append, List.length_cons]
  omega

theorem ne_empty_of_covers (hd : d ≠ "") (h : covers d e) : e ≠ "" := by
  rintro rfl
  rcases covers_iff.mp h with rfl | hsuffix
  · exact hd rfl
  · simp at hsuffix

end Blocklist.Host
