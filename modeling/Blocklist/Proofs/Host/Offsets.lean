import Blocklist.Proofs.Text.Offsets
import Blocklist.Proofs.Text.Parts
import Blocklist.Host

/-! # Hosts by byte offsets

The parent of a host is cut off behind the byte of its first dot, and a domain covers a host if the
byte in front of it is that of a dot. -/

namespace Blocklist.Host

open Text

namespace Bytewise

/-- A host without its leftmost label. There is none for a single label, with or without a dot. -/
def parentChars? (host : List Char) : Except OffsetError (Option (List Char)) := do
  let bytes := encode host
  match bytes.findIdx? (· == '.'.toUInt8) with
  | none => return none
  | some dot =>
    let last ← minus bytes.length 1
    if dot < last then return some (← textBetween host (dot + 1) bytes.length) else return none

/-- A host without its leftmost label. There is none for a single label, with or without a dot. -/
def parent? (host : String) : Except OffsetError (Option String) := do
  return (← parentChars? host.toList).map String.ofList

/-- Whether a dot stands in front of the domain that a longer host ends with. -/
def followsDot (domain host : List Char) : Except OffsetError Bool := do
  let bytes := encode host
  let longer ← minus bytes.length (encode domain).length
  let before ← itemAt bytes (← minus longer 1)
  return before == '.'.toUInt8

/-- Whether a host is equal to a domain or one of its subdomains. -/
def coversChars (domain host : List Char) : Except OffsetError Bool := do
  if host == domain then return true
  else if (encode domain).length < (encode host).length && domain.isSuffixOf host then
    followsDot domain host
  else return false

/-- Whether a host is equal to a domain or one of its subdomains. -/
def covers (domain host : String) : Except OffsetError Bool :=
  coversChars domain.toList host.toList

end Bytewise

theorem Bytewise.parentChars?_eq (host : List Char) :
    Bytewise.parentChars? host = pure (Host.parentChars? host) := by
  by_cases hdot : '.' ∈ host
  case pos =>
    obtain ⟨label, parent, rfl, hlabel⟩ := List.eq_append_cons_of_mem hdot
    have hfind := findIdx?_byte_append (by decide) hlabel parent
    have hlength : (encode (label ++ '.' :: parent)).length =
        utf8Length label + 1 + utf8Length parent := by
      rw [length_encode, utf8Length_append, utf8Length_cons, Nat.add_assoc]
      rfl
    have hlast : minus (utf8Length label + 1 + utf8Length parent) 1 =
        pure (utf8Length label + utf8Length parent) := by
      rw [minus_of_le (by omega), Nat.add_right_comm, Nat.add_sub_cancel]
    simp only [Bytewise.parentChars?, hfind, hlength, hlast, pure_bind]
    rw [Host.parentChars?, cut?_append hlabel]
    cases parent with
    | nil => simp
    | cons c cs =>
      have hbehind : utf8Length label + 1 = utf8Length (label ++ ['.']) := by
        rw [utf8Length_append]
        rfl
      have hpos := c.utf8Size_pos
      have hsplit : label ++ '.' :: c :: cs = label ++ ['.'] ++ (c :: cs ++ []) := by simp
      rw [if_pos (by rw [utf8Length_cons]; omega), textBetween_eq hsplit hbehind rfl, pure_bind]
  case neg =>
    have hnone := findIdx?_byte_eq_none (by decide) hdot
    simp only [Bytewise.parentChars?, hnone, Host.parentChars?, cut?_of_not_mem hdot]

theorem Bytewise.parent?_eq (host : String) : Bytewise.parent? host = pure (Host.parent? host) := by
  rw [Bytewise.parent?, Bytewise.parentChars?_eq, pure_bind, Host.parent?]

theorem Bytewise.followsDot_append (front : List Char) (c : Char) (domain : List Char) :
    Bytewise.followsDot domain (front ++ c :: domain) = pure (c == '.') := by
  have hfinds : Finds (· == '.'.toUInt8) (· == '.') := finds_char (by decide)
  obtain ⟨bs, b, hc, hb⟩ := hfinds.exists_utf8EncodeChar_eq_append c
  have hbytes : encode (front ++ c :: domain) = encode front ++ bs ++ b :: encode domain := by
    rw [encode_append, encode_cons, hc]
    simp
  have hlonger : minus (encode front ++ bs ++ b :: encode domain).length (encode domain).length =
      pure ((encode front ++ bs).length + 1) := by
    rw [List.length_append, List.length_cons, minus_of_le (by omega)]
    congr 1
    omega
  have hindex : minus ((encode front ++ bs).length + 1) 1 = pure (encode front ++ bs).length :=
    minus_of_le (Nat.succ_le_succ (Nat.zero_le _))
  simp only [Bytewise.followsDot, hbytes, hlonger, hindex, itemAt_length, pure_bind, hb]

theorem isSuffixOf_append_cons (front : List Char) (c : Char) (domain : List Char) :
    ('.' :: domain).isSuffixOf (front ++ c :: domain) = (c == '.') := by
  rw [Bool.eq_iff_iff, List.isSuffixOf_iff_suffix, beq_iff_eq]
  constructor
  · rintro ⟨before, heq⟩
    have hcons := (List.append_inj' heq rfl).2
    exact (List.cons.inj hcons).1.symm
  · rintro rfl
    exact List.suffix_append front _

/-- A host that ends with a domain and is not the domain has a character in front of it. -/
theorem exists_eq_append_cons {domain host : List Char} (h : domain <:+ host)
    (hne : host ≠ domain) : ∃ front c, host = front ++ c :: domain := by
  obtain ⟨before, rfl⟩ := h
  have hbefore : before ≠ [] := fun hnil => hne (by rw [hnil, List.nil_append])
  refine ⟨before.dropLast, before.getLast hbefore, ?_⟩
  rw [← List.singleton_append, ← List.append_assoc, List.dropLast_append_getLast]

theorem Bytewise.coversChars_eq (domain host : List Char) :
    Bytewise.coversChars domain host = pure (Host.coversChars domain host) := by
  unfold Bytewise.coversChars Host.coversChars
  by_cases heq : host = domain
  case pos => simp [heq]
  case neg =>
    rw [beq_eq_false_iff_ne.mpr heq, if_neg Bool.false_ne_true, Bool.false_or]
    by_cases hsuffix : domain <:+ host
    case neg =>
      have hdot : ('.' :: domain).isSuffixOf host = false := Bool.eq_false_iff.mpr fun h =>
        hsuffix ((List.suffix_cons '.' domain).trans (List.isSuffixOf_iff_suffix.mp h))
      simp [hsuffix, hdot]
    case pos =>
      obtain ⟨front, c, rfl⟩ := exists_eq_append_cons hsuffix heq
      have hpos := c.utf8Size_pos
      have hlong : (encode domain).length < (encode (front ++ c :: domain)).length := by
        simp only [length_encode, utf8Length_append, utf8Length_cons]
        omega
      rw [decide_eq_true hlong, List.isSuffixOf_iff_suffix.mpr hsuffix, if_pos (by decide),
        Bytewise.followsDot_append, isSuffixOf_append_cons]

theorem Bytewise.covers_eq (domain host : String) :
    Bytewise.covers domain host = pure (Host.covers domain host) :=
  Bytewise.coversChars_eq _ _

end Blocklist.Host
