import Blocklist.Host
import Blocklist.Proofs.Text.Ascii
import Blocklist.Proofs.Text.Trimming

/-! # Domains in normal form

The normal form of a domain is a valid host in lower case that does not end with a dot, and such a
host is its own normal form. -/

namespace Blocklist.Host

open Text

/-! ## Characters of hosts -/

theorem toNat_lt_of_isHostChar {c : Char} (h : isHostChar c) : c.toNat < 128 := by
  have hle : ∀ {d : Char}, c ≤ d → d.toNat < 128 → c.toNat < 128 := fun hc hd =>
    Nat.lt_of_le_of_lt hc hd
  simp only [isHostChar, Char.isAlphanum, Char.isAlpha, Char.isUpper, Char.isLower, Char.isDigit,
    Bool.or_eq_true, Bool.and_eq_true, decide_eq_true_eq, beq_iff_eq] at h
  rcases h with ((((h | h) | h) | h) | h) | h
  · exact hle (d := 'Z') h.2 (by decide)
  · exact hle (d := 'z') h.2 (by decide)
  · exact hle (d := '9') h.2 (by decide)
  all_goals rw [h]; decide

theorem not_isBlank_of_isHostChar {c : Char} (h : isHostChar c) : ¬ isBlank c :=
  forall_ascii (p := fun c => isHostChar c → ¬ isBlank c) (by decide +kernel)
    (toNat_lt_of_isHostChar h) h

theorem isHostChar_toLower (c : Char) : isHostChar c.toLower = isHostChar c :=
  toLower_cases (p := fun c d => isHostChar d = isHostChar c) (by decide +kernel)
    (fun _ _ => rfl) c

theorem toLower_eq_dot_iff (c : Char) : c.toLower = '.' ↔ c = '.' :=
  toLower_eq_iff (by decide)

/-! ## Validity and letter case -/

theorem hasEmptyLabel_map_toLower (h : List Char) :
    hasEmptyLabel (h.map Char.toLower) = hasEmptyLabel h := by
  induction h with
  | nil => rfl
  | cons c cs ih =>
    cases cs with
    | nil => simp [hasEmptyLabel]
    | cons d ds =>
      by_cases hc : c = '.'
      · by_cases hd : d = '.'
        · simp [hc, hd, hasEmptyLabel, show Char.toLower '.' = '.' from rfl]
        · have hd' : d.toLower ≠ '.' := fun h => hd ((toLower_eq_dot_iff d).mp h)
          simpa [hasEmptyLabel, hd, hd'] using ih
      · have hc' : c.toLower ≠ '.' := fun h => hc ((toLower_eq_dot_iff c).mp h)
        simpa [hasEmptyLabel, hc, hc'] using ih

theorem isValid_map_toLower (h : List Char) : isValid (h.map Char.toLower) = isValid h := by
  have hhead : (h.map Char.toLower).head? = some '.' ↔ h.head? = some '.' := by
    cases h <;> simp [toLower_eq_dot_iff]
  have hall : (h.map Char.toLower).all isHostChar = h.all isHostChar := by
    simp [List.all_map, Function.comp_def, isHostChar_toLower]
  have hhead : ((h.map Char.toLower).head? != some '.') = (h.head? != some '.') := by
    rw [Bool.eq_iff_iff, bne_iff_ne, bne_iff_ne, ne_eq, hhead]
  rw [isValid, isValid, hasEmptyLabel_map_toLower, hall, hhead, List.isEmpty_map]

theorem isHostChar_of_isValid {h : List Char} (hvalid : isValid h) : ∀ c ∈ h, isHostChar c := by
  simp only [isValid, Bool.and_eq_true, List.all_eq_true] at hvalid
  exact hvalid.2

theorem ne_nil_of_isValid {h : List Char} (hvalid : isValid h) : h ≠ [] := by
  simp only [isValid, Bool.and_eq_true, Bool.not_eq_true', List.isEmpty_eq_false_iff] at hvalid
  exact hvalid.1.1.1

theorem head?_ne_of_isValid {h : List Char} (hvalid : isValid h) : h.head? ≠ some '.' := by
  simp only [isValid, Bool.and_eq_true, bne_iff_ne] at hvalid
  exact hvalid.1.1.2

theorem hasEmptyLabel_of_isValid {h : List Char} (hvalid : isValid h) :
    hasEmptyLabel h = false := by
  simp only [isValid, Bool.and_eq_true, Bool.not_eq_true'] at hvalid
  exact hvalid.1.2

theorem hasEmptyLabel_iff {h : List Char} : hasEmptyLabel h ↔ ['.', '.'] <:+: h := by
  induction h with
  | nil => simp [hasEmptyLabel]
  | cons c cs ih =>
    rw [List.infix_cons_iff, ← ih]
    cases cs with
    | nil => simp [hasEmptyLabel]
    | cons d ds =>
      by_cases hdots : c = '.' ∧ d = '.'
      · simp [hdots, hasEmptyLabel]
      · rw [hasEmptyLabel]
        · simpa using fun hc hd => absurd ⟨hc.symm, hd.symm⟩ hdots
        · simpa using hdots

/-! ## Normal forms -/

/-- A valid host in lower case without a dot at the end. -/
structure IsNormal (d : List Char) : Prop where
  valid : isValid d
  lower : d.map Char.toLower = d
  last : d.getLast? ≠ some '.'

/-- A valid host without a dot at the end is in normal form once it is in lower case. -/
theorem isNormal_map_toLower {h : List Char} (hvalid : isValid h) (hlast : h.getLast? ≠ some '.') :
    IsNormal (h.map Char.toLower) where
  valid := by rw [isValid_map_toLower, hvalid]
  lower := by simp
  last := by
    rw [List.getLast?_map]
    cases hl : h.getLast? with
    | none => simp
    | some c => simpa [toLower_eq_dot_iff, hl] using hlast

theorem isNormal_of_normalizeChars? {cs d : List Char} (h : normalizeChars? cs = some d) :
    IsNormal d := by
  simp only [normalizeChars?, Option.ite_none_right_eq_some, Option.some.injEq] at h
  obtain ⟨hvalid, rfl⟩ := h
  rw [isValid_map_toLower] at hvalid
  exact isNormal_map_toLower hvalid fun hlast => not_of_getLast?_dropEndWhile hlast (by simp)

theorem IsNormal.normalizeChars?_eq {d : List Char} (h : IsNormal d) :
    normalizeChars? d = some d := by
  have hchar := isHostChar_of_isValid h.valid
  have htrim : trimChars d = d :=
    trimChars_eq_self (fun c hc => not_isBlank_of_isHostChar (hchar c (List.mem_of_head? hc)))
      fun c hc => not_isBlank_of_isHostChar (hchar c (List.mem_of_getLast? hc))
  have hfront : d.dropWhile (· == '.') = d :=
    dropWhile_eq_self fun c hc hdot => head?_ne_of_isValid h.valid (by simpa [hc] using hdot)
  have hback : dropEndWhile (· == '.') d = d := dropEndWhile_beq_eq_self h.last
  simp [normalizeChars?, htrim, hfront, hback, h.lower, h.valid]

theorem isNormal_of_normalize? {s d : String} (h : normalize? s = some d) : IsNormal d.toList := by
  obtain ⟨cs, hcs, rfl⟩ := Option.map_eq_some_iff.mp h
  simpa using isNormal_of_normalizeChars? hcs

/-- A domain in normal form is its own normal form. -/
theorem IsNormal.normalize?_eq {d : String} (h : IsNormal d.toList) : normalize? d = some d := by
  simp [normalize?, h.normalizeChars?_eq]

theorem normalize?_of_normalize? {s d : String} (h : normalize? s = some d) :
    normalize? d = some d :=
  (isNormal_of_normalize? h).normalize?_eq

/-! ## Spellings -/

/-- How a domain may be written: in any letter case, between dots, and these between blanks. -/
def IsSpellingOf (s d : List Char) : Prop :=
  ∃ blanks dots name dots' blanks', s = blanks ++ (dots ++ name ++ dots') ++ blanks' ∧
    name.map Char.toLower = d ∧ (∀ c ∈ dots ++ dots', c = '.') ∧ ∀ c ∈ blanks ++ blanks', isBlank c

theorem isSpellingOf_of_normalizeChars? {s d : List Char} (h : normalizeChars? s = some d) :
    IsSpellingOf s d := by
  simp only [normalizeChars?, Option.ite_none_right_eq_some, Option.some.injEq] at h
  obtain ⟨-, hname⟩ := h
  obtain ⟨blanks', hs, hblanks'⟩ := exists_eq_dropEndWhile_append isBlank (s.dropWhile isBlank)
  obtain ⟨dots', hdots, hdots'⟩ := exists_eq_dropEndWhile_append (· == '.')
    ((trimChars s).dropWhile (· == '.'))
  refine ⟨s.takeWhile isBlank, (trimChars s).takeWhile (· == '.'), _, dots', blanks', ?_, hname, ?_,
    ?_⟩
  · rw [List.append_assoc ((trimChars s).takeWhile (· == '.')), ← hdots,
      List.takeWhile_append_dropWhile, List.append_assoc, trimChars, ← hs,
      List.takeWhile_append_dropWhile]
  · intro c hc
    obtain hc | hc := List.mem_append.mp hc
    · simpa using List.mem_takeWhile_imp hc
    · simpa using hdots' c hc
  · intro c hc
    obtain hc | hc := List.mem_append.mp hc
    · exact List.mem_takeWhile_imp hc
    · exact hblanks' c hc

theorem IsNormal.normalizeChars?_of_isSpellingOf {s d : List Char} (hd : IsNormal d)
    (h : IsSpellingOf s d) : normalizeChars? s = some d := by
  obtain ⟨blanks, dots, name, dots', blanks', rfl, rfl, hdots, hblanks⟩ := h
  have hvalid : isValid name := by simpa [isValid_map_toLower] using hd.valid
  have hlast : name.getLast? ≠ some '.' := fun hlast =>
    hd.last (by rw [List.getLast?_map, hlast]; rfl)
  have hchar : ∀ c ∈ dots ++ name ++ dots', ¬ isBlank c := by
    intro c hc
    rw [List.mem_append, List.mem_append] at hc
    obtain (hc | hc) | hc := hc
    · rw [hdots c (List.mem_append_left _ hc)]
      decide
    · exact not_isBlank_of_isHostChar (isHostChar_of_isValid hvalid c hc)
    · rw [hdots c (List.mem_append_right _ hc)]
      decide
  have hne : dots ++ name ++ dots' ≠ [] := by simp [ne_nil_of_isValid hvalid]
  have htrim : trimChars (blanks ++ (dots ++ name ++ dots') ++ blanks') =
      dots ++ name ++ dots' := by
    rw [trimChars, List.append_assoc,
      List.dropWhile_append_of_pos fun c hc => hblanks c (List.mem_append_left _ hc),
      dropWhile_eq_self, dropEndWhile_append fun c hc => hblanks c (List.mem_append_right _ hc)]
    · exact dropEndWhile_eq_self fun c hc => hchar c (List.mem_of_getLast? hc)
    · intro c hc
      rw [List.head?_append_of_ne_nil _ hne] at hc
      exact hchar c (List.mem_of_head? hc)
  have hfront : (dots ++ name ++ dots').dropWhile (· == '.') = name ++ dots' := by
    rw [List.append_assoc, List.dropWhile_append_of_pos, dropWhile_eq_self]
    · intro c hc hdot
      rw [List.head?_append_of_ne_nil _ (ne_nil_of_isValid hvalid)] at hc
      exact head?_ne_of_isValid hvalid (by rw [hc, eq_of_beq hdot])
    · exact fun c hc => by simp [hdots c (List.mem_append_left _ hc)]
  have hback : dropEndWhile (· == '.') (name ++ dots') = name := by
    rw [dropEndWhile_append fun c hc => by simp [hdots c (List.mem_append_right _ hc)],
      dropEndWhile_beq_eq_self hlast]
  rw [normalizeChars?, htrim, hfront, hback]
  exact if_pos hd.valid

/-- A domain in normal form is the normal form of exactly its spellings. -/
theorem IsNormal.normalize?_eq_some_iff {s d : String} (hd : IsNormal d.toList) :
    normalize? s = some d ↔ IsSpellingOf s.toList d.toList := by
  rw [normalize?, Option.map_eq_some_iff]
  constructor
  · rintro ⟨cs, hcs, rfl⟩
    rw [String.toList_ofList]
    exact isSpellingOf_of_normalizeChars? hcs
  · intro h
    exact ⟨d.toList, hd.normalizeChars?_of_isSpellingOf h, String.ofList_toList⟩

end Blocklist.Host
