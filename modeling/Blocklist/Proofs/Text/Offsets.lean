import Blocklist.Proofs.Text.Utf8
import Blocklist.Proofs.Text.Ascii

/-! # Byte offsets

Steps on a text by offsets that count the bytes of its characters in UTF-8. Such a step has no
result where an offset is past the end or inside of a character, where an index is past the end, and
where a difference falls below zero. A search among the bytes for an ASCII character finds it where
a search among the characters does. -/

namespace Blocklist.Text

/-- Why a step by offsets has no result. -/
inductive OffsetError where
  | pastEnd (index : Nat)
  /-- The text ends before the offset, or the offset is inside of a character. -/
  | noBoundary (offset : Nat)
  | belowZero (m n : Nat)
deriving DecidableEq, Repr

section

variable {α : Type u}

/-- The item at an index. -/
def itemAt (xs : List α) (i : Nat) : Except OffsetError α :=
  match xs[i]? with
  | some x => .ok x
  | none => .error (.pastEnd i)

/-- The items from an index up to another. -/
def itemsBetween (xs : List α) (i j : Nat) : Except OffsetError (List α) :=
  if xs.length < j then .error (.pastEnd j)
  else if j < i then .error (.belowZero j i)
  else .ok ((xs.take j).drop i)

/-- The index of the last item that matches. -/
def lastIdx? (p : α → Bool) (xs : List α) : Option Nat :=
  (xs.reverse.findIdx? p).map fun i => xs.length - 1 - i

end

def minus (m n : Nat) : Except OffsetError Nat :=
  if m < n then .error (.belowZero m n) else .ok (m - n)

/-- The text before an offset, and the text behind it. -/
def cutAt (cs : List Char) (n : Nat) : Except OffsetError (List Char × List Char) :=
  match splitAtByte? cs n with
  | some cut => pure cut
  | none => .error (.noBoundary n)

/-- The text from an offset up to another. -/
def textBetween (cs : List Char) (i j : Nat) : Except OffsetError (List Char) := do
  let (before, _) ← cutAt cs j
  let (_, part) ← cutAt before i
  return part

def insertAt (cs : List Char) (n : Nat) (c : Char) : Except OffsetError (List Char) := do
  let (before, after) ← cutAt cs n
  return before ++ c :: after

/-! ## Steps that have a result -/

theorem ite_pure_and (a b : Bool) :
    (if a then pure b else pure false : Except OffsetError Bool) = pure (a && b) := by
  cases a <;> rfl

theorem ite_pure_or (a b : Bool) :
    (if a then pure true else pure b : Except OffsetError Bool) = pure (a || b) := by
  cases a <;> rfl

theorem filterM_pure {α : Type} (p : α → Bool) (xs : List α) :
    xs.filterM (fun x => (pure (p x) : Except OffsetError Bool)) = pure (xs.filter p) := by
  have haux : ∀ ys : List α,
      List.filterAuxM (fun x => (pure (p x) : Except OffsetError Bool)) xs ys =
        pure ((xs.filter p).reverse ++ ys) := by
    induction xs with
    | nil => exact fun ys => rfl
    | cons x xs ih =>
      intro ys
      rw [List.filterAuxM, pure_bind, ih]
      cases hx : p x <;> simp [hx]
  rw [List.filterM, haux, pure_bind, List.append_nil, List.reverse_reverse]

/-! ## Items -/

section

variable {α : Type u} {p : α → Bool}

@[simp] theorem itemAt_length (xs : List α) (x : α) (ys : List α) :
    itemAt (xs ++ x :: ys) xs.length = pure x := by
  simp [itemAt, pure, Except.pure]

theorem itemsBetween_append (xs ys zs : List α) :
    itemsBetween (xs ++ (ys ++ zs)) xs.length (xs.length + ys.length) = pure ys := by
  have hlength : ¬ (xs ++ (ys ++ zs)).length < xs.length + ys.length := by
    simp only [List.length_append]
    omega
  rw [itemsBetween, if_neg hlength, if_neg (by omega), ← List.append_assoc, ← List.length_append,
    List.take_left, List.drop_left]
  rfl

theorem itemsBetween_length {xs : List α} {i : Nat} (h : i ≤ xs.length) :
    itemsBetween xs i xs.length = pure (xs.drop i) := by
  rw [itemsBetween, if_neg (Nat.lt_irrefl _), if_neg (Nat.not_lt.mpr h), List.take_length]
  rfl

theorem minus_of_le {m n : Nat} (h : n ≤ m) : minus m n = pure (m - n) :=
  if_neg (Nat.not_lt.mpr h)

theorem lastIdx?_eq_none {xs : List α} (h : ∀ x ∈ xs, ¬p x) : lastIdx? p xs = none := by
  simpa [lastIdx?] using h

theorem lastIdx?_append {x : α} {ys : List α} (xs : List α) (hx : p x) (hys : ∀ y ∈ ys, ¬p y) :
    lastIdx? p (xs ++ x :: ys) = some xs.length := by
  have hnone : ys.reverse.findIdx? p = none := by simpa using hys
  rw [lastIdx?, List.reverse_append, List.reverse_cons, List.append_assoc, List.findIdx?_append,
    hnone]
  simp [List.findIdx?_cons, hx]

end

/-! ## Cuts -/

@[simp] theorem length_encode (cs : List Char) : (encode cs).length = utf8Length cs := by
  induction cs with
  | nil => rfl
  | cons c cs ih => simp [ih]

theorem utf8Length_toList (s : String) : utf8Length s.toList = s.utf8ByteSize := by
  rw [← length_encode, ← toList_toUTF8, toList_byteArray]
  rfl

theorem splitAtByte?_eq_some_iff {cs before after : List Char} {n : Nat} :
    splitAtByte? cs n = some (before, after) ↔ cs = before ++ after ∧ n = utf8Length before := by
  fun_induction splitAtByte? cs n generalizing before with
  | case1 cs =>
    cases before with
    | nil => simp [eq_comm]
    | cons d before =>
      have := d.utf8Size_pos
      simp
      omega
  | case2 n => cases before <;> simp
  | case3 c cs n hle ih =>
    cases before with
    | nil => simp
    | cons d before =>
      have hmap : (splitAtByte? cs (n + 1 - c.utf8Size)).map (fun cut => (c :: cut.1, cut.2)) =
          some (d :: before, after) ↔
            d = c ∧ splitAtByte? cs (n + 1 - c.utf8Size) = some (before, after) := by
        simp [Prod.ext_iff, eq_comm]
        grind
      rw [hmap, ih, List.cons_append, List.cons.injEq, utf8Length_cons]
      grind
  | case4 c cs n hlt =>
    cases before with
    | nil => simp
    | cons d before =>
      simp
      grind

theorem splitAtByte?_append (xs ys : List Char) :
    splitAtByte? (xs ++ ys) (utf8Length xs) = some (xs, ys) :=
  splitAtByte?_eq_some_iff.mpr ⟨rfl, rfl⟩

/-- The offsets at which a text can be cut are the boundaries of its characters. -/
theorem isValid_iff_exists_splitAtByte? {s : String} {n : Nat} :
    (⟨n⟩ : String.Pos.Raw).IsValid s ↔ ∃ cut, splitAtByte? s.toList n = some cut := by
  rw [String.Pos.Raw.isValid_iff_exists_append]
  constructor
  · rintro ⟨before, after, rfl, heq⟩
    refine ⟨(before.toList, after.toList), splitAtByte?_eq_some_iff.mpr ⟨by simp, ?_⟩⟩
    rw [utf8Length_toList]
    exact congrArg String.Pos.Raw.byteIdx heq
  · rintro ⟨⟨before, after⟩, h⟩
    obtain ⟨heq, rfl⟩ := splitAtByte?_eq_some_iff.mp h
    refine ⟨String.ofList before, String.ofList after, ?_, ?_⟩
    · rw [← String.toList_inj, heq]
      simp
    · rw [String.Pos.Raw.ext_iff, String.byteIdx_rawEndPos, ← utf8Length_toList,
        String.toList_ofList]

/-- The bytes of a part of a text are those between its ends. -/
theorem itemsBetween_encode {cs before part after : List Char} {i j : Nat}
    (h : cs = before ++ (part ++ after)) (hi : i = utf8Length before)
    (hj : j = i + utf8Length part) : itemsBetween (encode cs) i j = pure (encode part) := by
  rw [h, hj, hi, encode_append, encode_append, ← length_encode, ← length_encode,
    itemsBetween_append]

@[simp] theorem cutAt_append (xs ys : List Char) :
    cutAt (xs ++ ys) (utf8Length xs) = pure (xs, ys) := by
  rw [cutAt, splitAtByte?_append]

theorem textBetween_eq {cs before part after : List Char} {i j : Nat}
    (h : cs = before ++ (part ++ after)) (hi : i = utf8Length before)
    (hj : j = i + utf8Length part) : textBetween cs i j = pure part := by
  have hcut : cutAt cs j = pure (before ++ part, after) := by
    rw [h, hj, hi, ← List.append_assoc, ← utf8Length_append, cutAt_append]
  simp only [textBetween, hcut, hi, pure_bind, cutAt_append]

example : textBetween ['ä'] 0 1 = .error (.noBoundary 1) := rfl

@[simp] theorem insertAt_append (xs ys : List Char) (c : Char) :
    insertAt (xs ++ ys) (utf8Length xs) c = pure (xs ++ c :: ys) := by
  simp [insertAt]

/-! ## Searching -/

/-- A test of bytes that finds the characters that a test of characters finds. -/
structure Finds (p : UInt8 → Bool) (q : Char → Bool) : Prop where
  eq_singleton : ∀ c, q c → ∃ b, String.utf8EncodeChar c = [b] ∧ p b
  not_mem : ∀ c, ¬q c → ∀ b ∈ String.utf8EncodeChar c, ¬p b

variable {p p' : UInt8 → Bool} {q q' : Char → Bool} {cs : List Char}

theorem utf8EncodeChar_of_ascii {c : Char} (h : c.toNat < 128) :
    String.utf8EncodeChar c = [c.toUInt8] := by
  refine String.utf8EncodeChar_eq_singleton (Char.utf8Size_eq_one_iff.mpr ?_)
  exact UInt32.le_iff_toNat_le.mpr (Nat.le_of_lt_succ h)

theorem toNat_toUInt8 {c : Char} (h : c.toNat < 128) : c.toUInt8.toNat = c.toNat := by
  have hmod : c.toUInt8.toNat = c.toNat % 256 := UInt32.toNat_toUInt8 c.val
  omega

theorem toUInt8_inj {c d : Char} (hc : c.toNat < 128) (hd : d.toNat < 128) :
    c.toUInt8 = d.toUInt8 ↔ c = d := by
  rw [← UInt8.toNat_inj, toNat_toUInt8 hc, toNat_toUInt8 hd, Char.toNat_inj]

theorem finds_char {d : Char} (hd : d.toNat < 128) : Finds (· == d.toUInt8) (· == d) := by
  constructor
  case eq_singleton =>
    intro c hc
    obtain rfl := eq_of_beq hc
    exact ⟨c.toUInt8, utf8EncodeChar_of_ascii hd, beq_self_eq_true _⟩
  case not_mem =>
    intro c hc b hb heq
    obtain rfl := eq_of_beq heq
    have hcd := eq_of_mem_utf8EncodeChar hb (by rwa [toNat_toUInt8 hd]) (toNat_toUInt8 hd)
    exact hc (beq_iff_eq.mpr hcd)

theorem Finds.or (h : Finds p q) (h' : Finds p' q') :
    Finds (fun b => p b || p' b) (fun c => q c || q' c) := by
  constructor
  case eq_singleton =>
    intro c hc
    rcases Bool.or_eq_true_iff.mp hc with hc | hc
    · obtain ⟨b, heq, hb⟩ := h.eq_singleton c hc
      exact ⟨b, heq, by simp [hb]⟩
    · obtain ⟨b, heq, hb⟩ := h'.eq_singleton c hc
      exact ⟨b, heq, by simp [hb]⟩
  case not_mem =>
    intro c hc b hb
    rw [Bool.or_eq_true, not_or] at hc ⊢
    exact ⟨h.not_mem c hc.1 b hb, h'.not_mem c hc.2 b hb⟩

theorem exists_utf8EncodeChar_eq_cons (c : Char) : ∃ b bs, String.utf8EncodeChar c = b :: bs := by
  refine List.exists_cons_of_ne_nil fun hnil => ?_
  have hlength := String.length_utf8EncodeChar c
  have := c.utf8Size_pos
  rw [hnil, List.length_nil] at hlength
  omega

/-- The last byte of a character tells whether it is one that is looked for. -/
theorem Finds.exists_utf8EncodeChar_eq_append (h : Finds p q) (c : Char) :
    ∃ bs b, String.utf8EncodeChar c = bs ++ [b] ∧ p b = q c := by
  by_cases hc : q c
  · obtain ⟨b, heq, hb⟩ := h.eq_singleton c hc
    exact ⟨[], b, heq, by rw [hb, hc]⟩
  · obtain ⟨b, bs, heq⟩ := exists_utf8EncodeChar_eq_cons c
    have hne : String.utf8EncodeChar c ≠ [] := by simp [heq]
    have hlast := h.not_mem c hc _ (List.getLast_mem hne)
    refine ⟨_, _, (List.dropLast_append_getLast hne).symm, ?_⟩
    rw [Bool.eq_false_iff.mpr hlast, Bool.eq_false_iff.mpr hc]

theorem encode_prefix_encode_iff {cs ds : List Char} (hds : ∀ d ∈ ds, d.toNat < 128) :
    encode ds <+: encode cs ↔ ds <+: cs := by
  induction ds generalizing cs with
  | nil => simp
  | cons d ds ih =>
    obtain ⟨hd, hds⟩ := List.forall_mem_cons.mp hds
    cases cs with
    | nil => simp [utf8EncodeChar_of_ascii hd]
    | cons c cs =>
      rw [encode_cons, encode_cons, utf8EncodeChar_of_ascii hd, List.singleton_append,
        List.cons_prefix_cons]
      by_cases hdc : d = c
      · rw [← hdc, utf8EncodeChar_of_ascii hd, List.singleton_append, List.cons_prefix_cons, ih hds]
        simp
      · obtain ⟨b, bs, hc⟩ := exists_utf8EncodeChar_eq_cons c
        rw [hc, List.cons_append, List.cons_prefix_cons]
        have hb : b ≠ d.toUInt8 := fun hb =>
          (finds_char hd).not_mem c (fun hcd => hdc (eq_of_beq hcd).symm) b (by simp [hc])
            (beq_iff_eq.mpr hb)
        simp [hdc, Ne.symm hb]

theorem head?_encode_iff {d : Char} (hd : d.toNat < 128) (cs : List Char) :
    (encode cs).head? = some d.toUInt8 ↔ cs.head? = some d := by
  have hds : ∀ c ∈ [d], c.toNat < 128 := by simpa using hd
  rw [List.head?_eq_some_iff, List.head?_eq_some_iff]
  simpa [List.IsPrefix, eq_comm, utf8EncodeChar_of_ascii hd] using
    encode_prefix_encode_iff hds

theorem Finds.not_mem_encode (h : Finds p q) (hcs : ∀ c ∈ cs, ¬q c) : ∀ b ∈ encode cs, ¬p b := by
  intro b hb
  obtain ⟨c, hc, hb⟩ := List.mem_flatMap.mp hb
  exact h.not_mem c (hcs c hc) b hb

theorem Finds.findIdx?_eq_none (h : Finds p q) (hcs : ∀ c ∈ cs, ¬q c) :
    (encode cs).findIdx? p = none := by
  simpa using h.not_mem_encode hcs

theorem Finds.findIdx?_append (h : Finds p q) {c : Char} (hcs : ∀ c ∈ cs, ¬q c) (hc : q c)
    (ds : List Char) : (encode (cs ++ c :: ds)).findIdx? p = some (utf8Length cs) := by
  obtain ⟨b, heq, hb⟩ := h.eq_singleton c hc
  rw [encode_append, encode_cons, heq, List.findIdx?_append, h.findIdx?_eq_none hcs]
  simp [List.findIdx?_cons, hb]

theorem not_beq_of_not_mem {d : Char} (h : d ∉ cs) : ∀ c ∈ cs, ¬(c == d) :=
  fun _ hc heq => h (eq_of_beq heq ▸ hc)

theorem findIdx?_byte_eq_none {d : Char} (hd : d.toNat < 128) (h : d ∉ cs) :
    (encode cs).findIdx? (· == d.toUInt8) = none :=
  (finds_char hd).findIdx?_eq_none (not_beq_of_not_mem h)

theorem findIdx?_byte_append {d : Char} (hd : d.toNat < 128) (h : d ∉ cs) (ds : List Char) :
    (encode (cs ++ d :: ds)).findIdx? (· == d.toUInt8) = some (utf8Length cs) :=
  (finds_char hd).findIdx?_append (not_beq_of_not_mem h) (beq_self_eq_true d) ds

/-- The first match, or the end if there is none, is where the characters in front of it end. -/
theorem Finds.elim_findIdx? (h : Finds p q) (cs : List Char) (n : Nat) :
    ((encode cs).findIdx? p).elim (n + utf8Length cs) (n + ·) =
      n + utf8Length (cs.takeWhile (!q ·)) := by
  have hfront : ∀ c ∈ cs.takeWhile (!q ·), ¬q c := by
    intro c hc
    simpa using List.mem_takeWhile_imp hc
  cases hrest : cs.dropWhile (!q ·) with
  | nil =>
    have heq : cs.takeWhile (!q ·) = cs := by
      conv_rhs =>
        rw [← List.takeWhile_append_dropWhile (p := (!q ·)) (l := cs), hrest, List.append_nil]
    rw [heq] at hfront ⊢
    rw [h.findIdx?_eq_none hfront, Option.elim_none]
  | cons c rest =>
    have hc := List.head?_dropWhile_not (!q ·) cs
    rw [hrest] at hc
    have hfind := h.findIdx?_append hfront (c := c) (by simpa using hc) rest
    rw [← hrest, List.takeWhile_append_dropWhile] at hfind
    rw [hfind, Option.elim_some]

end Blocklist.Text
