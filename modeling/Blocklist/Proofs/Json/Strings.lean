import Blocklist.Json.Reading
import Blocklist.Json.Value
import Mathlib.Tactic.IntervalCases

/-! # Strings in JSON texts

What stands for one character is scanned as that character, whatever follows, so a quoted text is
scanned as the text. -/

namespace Blocklist.Json

theorem lt_space_iff {c : Char} : c < ' ' ↔ c.toNat < 32 :=
  Char.lt_def.trans UInt32.lt_iff_toNat_lt

/-- Control characters go by four digits, and these are read as the number of the character. -/
theorem exists_fourDigits?_eq {n : Nat} (hn : n < 32) :
    ∃ a b c d, List.replicate (4 - (Nat.toDigits 16 n).length) '0' ++ Nat.toDigits 16 n =
      [a, b, c, d] ∧
      fourDigits? a b c d = some n := by
  interval_cases n <;> exact ⟨_, _, _, _, rfl, rfl⟩

theorem scanString_controlChar {c : Char} (hc : c < ' ') (cs : List Char) :
    scanString none
        (['\\', 'u'] ++ List.replicate (4 - (Nat.toDigits 16 c.toNat).length) '0' ++
          Nat.toDigits 16 c.toNat ++ cs) =
      (scanString none cs).addChar c := by
  have hc : c.toNat < 32 := lt_space_iff.mp hc
  obtain ⟨d₁, d₂, d₃, d₄, hdigits, hvalue⟩ := exists_fourDigits?_eq hc
  have htrailing : isTrailing c.toNat = false := by simp [isTrailing]; omega
  have hleading : isLeading c.toNat = false := by simp [isLeading]; omega
  rw [List.append_assoc ['\\', 'u'], hdigits]
  simp [scanString, hvalue, htrailing, hleading]

theorem scanString_cons {c : Char} (hquote : c ≠ '"') (hslash : c ≠ '\\') (hc : ¬c < ' ')
    (cs : List Char) : scanString none (c :: cs) = (scanString none cs).addChar c := by
  rw [scanString]
  · simp [hc, ScannedString.behind]
  all_goals simp_all

theorem scanString_escapeChar (c : Char) (cs : List Char) :
    scanString none (escapeChar c ++ cs) = (scanString none cs).addChar c := by
  unfold escapeChar
  split
  case h_8 hquote hslash _ _ _ _ _ =>
    split
    · next hc => exact scanString_controlChar hc cs
    · next hc => exact scanString_cons hquote hslash hc cs
  all_goals simp [scanString, escaped?, ScannedString.behind]

/-- The characters of a quoted text are scanned as the text. -/
theorem scanString_flatMap_escapeChar (cs rest : List Char) :
    scanString none (cs.flatMap escapeChar ++ '"' :: rest) = .closed (.ok cs) rest := by
  induction cs with
  | nil => simp [scanString, ScannedString.behind]
  | cons c cs ih =>
    rw [List.flatMap_cons, List.append_assoc, scanString_escapeChar, ih]
    rfl

theorem toList_quotedString (s : String) :
    (quotedString s).toList = '"' :: (s.toList.flatMap escapeChar ++ ['"']) := by
  simp [quotedString]

end Blocklist.Json
