import Blocklist.Proofs.Json.Reals
import Blocklist.Proofs.Json.Strings

/-! # Reading values that are laid out over lines

A value that is written with one element or member a line is read as its tree, and nothing of the
text is left. -/

namespace Blocklist.Json

/-! ## Trees of values -/

/-- What a numeral is read as. -/
def Numeral.toNode (m : Numeral) : Node :=
  m.number?.elim (.unreadable .malformed) .number

/-- The numeral of a natural number. -/
def naturalNumeral (n : Nat) : Numeral :=
  ⟨false, Nat.toDigits 10 n, none, none⟩

mutual

/-- What a value is read as, once it has been written. -/
def Value.toNode : Value → Node
  | .null => .null
  | .bool b => .bool b
  | .natural n => (naturalNumeral n).toNode
  | .real x => .number (.real x.reread)
  | .string s => .string s
  | .array vs => .array (toElements vs)
  | .object ms => .object (toMembers ms)

def toElements : List Value → Elements
  | [] => .close
  | v :: vs => .more v.toNode (toElements vs)

def toMembers : List (String × Value) → Members
  | [] => .close
  | (k, v) :: ms => .more (.ok k) v.toNode (toMembers ms)

end

/-! ## Blanks and literals -/

theorem skipBlanks_lineBreak (depth : Nat) (cs : List Char) :
    skipBlanks ((lineBreak depth).toList ++ cs) = skipBlanks cs := by
  have hblank : ∀ c ∈ (lineBreak depth).toList, isBlank c := by
    intro c hc
    rw [lineBreak, String.toList_ofList, List.mem_cons] at hc
    rcases hc with rfl | hc
    · rfl
    · rw [List.eq_of_mem_replicate hc]
      rfl
  exact List.dropWhile_append_of_pos hblank

theorem skipBlanks_cons {c : Char} (hc : isBlank c = false) (cs : List Char) :
    skipBlanks (c :: cs) = c :: cs :=
  List.dropWhile_cons_of_neg (by simp [hc])

theorem readLiteral_append (value : Node) (ls rest : List Char) :
    readLiteral value ls (ls ++ rest) = (value, rest) := by
  induction ls with
  | nil => rfl
  | cons l ls ih => rw [List.cons_append, readLiteral, if_pos rfl, ih]

/-- A reader of values passes over blanks first. -/
theorem readValue_eq_of_skipBlanks {fuel : Nat} {cs ds : List Char}
    (h : skipBlanks cs = skipBlanks ds) : readValue fuel cs = readValue fuel ds := by
  cases fuel with
  | zero => rw [readValue, readValue]
  | succ fuel => rw [readValue, readValue, h]

theorem readValue_lineBreak (fuel depth : Nat) (cs : List Char) :
    readValue fuel ((lineBreak depth).toList ++ cs) = readValue fuel cs :=
  readValue_eq_of_skipBlanks (skipBlanks_lineBreak depth cs)

/-! ## Numbers -/

theorem exists_digitChar_eq {c : Char} (hc : c.isDigit) : ∃ n < 10, n.digitChar = c := by
  have hbounds : 48 ≤ c.toNat ∧ c.toNat ≤ 57 := Char.isDigit_iff_toNat.mp hc
  have hlt : c.toNat - 48 < 10 := by omega
  have hvalue : (c.toNat - 48).digitChar.toNat = c.toNat := by
    rw [Nat.toNat_digitChar_of_lt_ten hlt]
    omega
  exact ⟨c.toNat - 48, hlt, Char.toNat_inj.mp hvalue⟩

theorem readValue_digit (fuel : Nat) {c : Char} (hc : c.isDigit) (cs : List Char) :
    readValue (fuel + 1) (c :: cs) = scanNumber false (c :: cs) := by
  obtain ⟨n, hn, rfl⟩ := exists_digitChar_eq hc
  interval_cases n <;> rw [readValue] <;> rfl

theorem scanNumber_unsignedChars {m : Numeral} (hm : m.IsWritten) {rest : List Char}
    (hrest : Numeral.EndsWith rest) :
    scanNumber m.negative (m.unsignedChars ++ rest) = (m.toNode, rest) := by
  rw [scanNumber, Numeral.scanNumeral_unsignedChars hm hrest]
  rfl

theorem readValue_numeral {m : Numeral} (hm : m.IsWritten) {rest : List Char}
    (hrest : Numeral.EndsWith rest) (fuel : Nat) :
    readValue (fuel + 1) (m.chars ++ rest) = (m.toNode, rest) := by
  have hscan := scanNumber_unsignedChars hm hrest
  cases hnegative : m.negative with
  | true =>
    rw [hnegative] at hscan
    rw [Numeral.chars, hnegative, if_pos rfl, List.append_assoc, List.singleton_append, readValue,
      skipBlanks_cons rfl]
    exact hscan
  | false =>
    rw [hnegative] at hscan
    rw [Numeral.chars, hnegative, if_neg Bool.false_ne_true, List.nil_append]
    obtain ⟨c, cs, hwhole⟩ := List.exists_cons_of_ne_nil hm.whole.1
    have hc : c.isDigit := hm.whole.2 c (by simp [hwhole])
    rw [Numeral.unsignedChars, hwhole] at hscan ⊢
    exact (readValue_digit fuel hc _).trans hscan

theorem isWritten_naturalNumeral (n : Nat) : (naturalNumeral n).IsWritten where
  whole := ⟨Nat.toDigits_ne_nil, fun _ hc => Nat.isDigit_of_mem_toDigits (by decide) (by decide) hc⟩
  noLeadingZero := by
    intro hzero
    obtain rfl : n = 0 := Nat.eq_zero_of_not_pos fun hn => Binary64.head?_toDigits hn hzero
    decide
  fraction := by simp [naturalNumeral]
  exponent := by simp [naturalNumeral]

/-! ## Lines -/

/-- The lines behind the first item of a block, and its closing mark. -/
def moreItems (closing : Char) (depth : Nat) : List String → List Char
  | [] => (lineBreak depth).toList ++ [closing]
  | item :: items =>
    ',' :: ((lineBreak (depth + 1)).toList ++ (item.toList ++ moreItems closing depth items))

theorem toList_intercalate_moreItems (closing : Char) (depth : Nat) (item : String)
    (items : List String) :
    (("," ++ lineBreak (depth + 1)).intercalate (item :: items)).toList ++
        ((lineBreak depth).toList ++ [closing]) =
      item.toList ++ moreItems closing depth items := by
  induction items generalizing item with
  | nil => simp [moreItems]
  | cons next items ih =>
    have hnext := ih next
    rw [String.toList_intercalate] at hnext ⊢
    rw [List.map_cons, List.map_cons, List.intercalate_cons_cons, List.append_assoc,
      ← List.map_cons, hnext, moreItems]
    simp

theorem toList_block (opening closing : Char) (depth : Nat) (item : String) (items : List String) :
    (block (String.singleton opening) (String.singleton closing) depth (item :: items)).toList =
      opening :: ((lineBreak (depth + 1)).toList ++
        (item.toList ++ moreItems closing depth items)) := by
  rw [← toList_intercalate_moreItems]
  simp [block]

theorem endsWith_moreItems (closing : Char) (depth : Nat) (items : List String) (rest : List Char) :
    Numeral.EndsWith (moreItems closing depth items ++ rest) := by
  intro c hc
  cases items with
  | nil =>
    obtain rfl : '\n' = c := by simpa [moreItems, lineBreak] using hc
    decide
  | cons item items =>
    obtain rfl : ',' = c := by simpa [moreItems] using hc
    decide

/-! ## Values -/

theorem exists_cons_chars {m : Numeral} (hm : m.IsWritten) :
    ∃ c cs, m.chars = c :: cs ∧ isBlank c = false ∧ c ≠ ']' := by
  cases hnegative : m.negative with
  | true => exact ⟨'-', m.unsignedChars, by simp [Numeral.chars, hnegative], rfl, by decide⟩
  | false =>
    obtain ⟨c, cs, hwhole⟩ := List.exists_cons_of_ne_nil hm.whole.1
    obtain ⟨n, hn, rfl⟩ := exists_digitChar_eq (hm.whole.2 c (by simp [hwhole]))
    refine ⟨n.digitChar, cs ++ (m.fractionChars ++ m.exponentChars), ?_, ?_⟩
    · simp [Numeral.chars, hnegative, Numeral.unsignedChars, hwhole]
    · interval_cases n <;> decide

theorem toList_toString (n : Nat) : (toString n).toList = (naturalNumeral n).chars := by
  simp [naturalNumeral, Numeral.chars, Numeral.unsignedChars, Numeral.fractionChars,
    Numeral.exponentChars, Nat.toString_eq_repr, Nat.toList_repr]

theorem toList_toText (x : Binary64) : x.toText.toList = x.numeral.chars := by
  rw [Binary64.toText, String.toList_ofList, Binary64.toChars_eq]

theorem prettyAt_array_nil (depth : Nat) : (Value.array []).prettyAt depth = "[]" := by
  rw [Value.prettyAt, prettyElements]
  rfl

theorem prettyAt_object_nil (depth : Nat) : (Value.object []).prettyAt depth = "\x7b\x7d" := by
  rw [Value.prettyAt, prettyMembers]
  rfl

theorem toList_prettyAt_array (depth : Nat) (v : Value) (vs : List Value) :
    ((Value.array (v :: vs)).prettyAt depth).toList =
      '[' :: ((lineBreak (depth + 1)).toList ++ ((v.prettyAt (depth + 1)).toList ++
        moreItems ']' depth (prettyElements (depth + 1) vs))) := by
  rw [Value.prettyAt, prettyElements]
  exact toList_block '[' ']' ..

/-- A member behind the quotation mark that opens its key. -/
def memberChars (depth : Nat) (k : String) (v : Value) : List Char :=
  k.toList.flatMap escapeChar ++ '"' :: ':' :: ' ' :: (v.prettyAt depth).toList

theorem toList_member (depth : Nat) (k : String) (v : Value) :
    (quotedString k ++ ": " ++ v.prettyAt depth).toList = '"' :: memberChars depth k v := by
  simp [memberChars, toList_quotedString]

theorem toList_prettyAt_object (depth : Nat) (k : String) (v : Value) (ms : List (String × Value)) :
    ((Value.object ((k, v) :: ms)).prettyAt depth).toList =
      '\x7b' :: ((lineBreak (depth + 1)).toList ++ ('"' :: (memberChars (depth + 1) k v ++
        moreItems '\x7d' depth (prettyMembers (depth + 1) ms)))) := by
  have hblock := toList_block '\x7b' '\x7d' depth
    (quotedString k ++ ": " ++ v.prettyAt (depth + 1)) (prettyMembers (depth + 1) ms)
  rw [toList_member, List.cons_append] at hblock
  rw [Value.prettyAt, prettyMembers]
  exact hblock

/-- A value begins with neither a blank nor a closing bracket. -/
theorem exists_cons_prettyAt (depth : Nat) (v : Value) :
    ∃ c cs, (v.prettyAt depth).toList = c :: cs ∧ isBlank c = false ∧ c ≠ ']' := by
  cases v with
  | null => exact ⟨_, _, by rw [Value.prettyAt]; rfl, rfl, by decide⟩
  | bool b => cases b <;> exact ⟨_, _, by rw [Value.prettyAt]; rfl, rfl, by decide⟩
  | natural n =>
    rw [Value.prettyAt, toList_toString]
    exact exists_cons_chars (isWritten_naturalNumeral n)
  | real x =>
    rw [Value.prettyAt, toList_toText]
    exact exists_cons_chars x.isWritten_numeral
  | string s => exact ⟨_, _, by rw [Value.prettyAt, toList_quotedString], rfl, by decide⟩
  | array vs =>
    cases vs with
    | nil => exact ⟨_, _, by rw [prettyAt_array_nil]; rfl, rfl, by decide⟩
    | cons v vs => exact ⟨_, _, toList_prettyAt_array depth v vs, rfl, by decide⟩
  | object ms =>
    cases ms with
    | nil => exact ⟨_, _, by rw [prettyAt_object_nil]; rfl, rfl, by decide⟩
    | cons m ms => exact ⟨_, _, toList_prettyAt_object depth m.1 m.2 ms, rfl, by decide⟩

theorem skipBlanks_prettyAt (depth : Nat) (v : Value) (rest : List Char) :
    skipBlanks ((v.prettyAt depth).toList ++ rest) = (v.prettyAt depth).toList ++ rest := by
  obtain ⟨c, cs, htext, hblank, -⟩ := exists_cons_prettyAt depth v
  rw [htext, List.cons_append, skipBlanks_cons hblank]

/-! ## Arrays and objects -/

variable {fuel depth : Nat} {rest more : List Char}

theorem readValue_array_cons {v : Value} {es : Elements}
    (hv : readValue fuel ((v.prettyAt (depth + 1)).toList ++ more) = (v.toNode, more))
    (hes : readMoreElements fuel more = (es, rest)) :
    readValue (fuel + 1)
        ('[' :: ((lineBreak (depth + 1)).toList ++ ((v.prettyAt (depth + 1)).toList ++ more))) =
      (.array (.more v.toNode es), rest) := by
  obtain ⟨c, cs, htext, hblank, hbracket⟩ := exists_cons_prettyAt (depth + 1) v
  rw [readValue, skipBlanks_cons rfl]
  simp only [skipBlanks_lineBreak, skipBlanks_prettyAt]
  rw [htext, List.cons_append] at hv ⊢
  simp [hv, hes, hbracket]

theorem readMember_memberChars {k : String} {v : Value} {ms : Members}
    (hv : readValue fuel ((v.prettyAt depth).toList ++ more) = (v.toNode, more))
    (hms : readMoreMembers fuel more = (ms, rest)) :
    readMember (fuel + 1) (memberChars depth k v ++ more) = (.more (.ok k) v.toNode ms, rest) := by
  have hskip : skipBlanks (' ' :: ((v.prettyAt depth).toList ++ more)) =
      skipBlanks ((v.prettyAt depth).toList ++ more) := rfl
  have hblank := (readValue_eq_of_skipBlanks hskip).trans hv
  rw [memberChars, List.append_assoc, List.cons_append, List.cons_append, List.cons_append,
    readMember, scanString_flatMap_escapeChar]
  simp only [skipBlanks_cons (c := ':') rfl, hblank, hms]
  simp [Except.map]

theorem readValue_object_cons {cs : List Char} {ms : Members}
    (hms : readMember fuel cs = (ms, rest)) :
    readValue (fuel + 1) ('\x7b' :: ((lineBreak depth).toList ++ '"' :: cs)) =
      (.object ms, rest) := by
  rw [readValue, skipBlanks_cons rfl]
  simp [skipBlanks_lineBreak, skipBlanks_cons (c := '"') rfl, hms]

/-- Whether a value is read back wherever it stands in a text. -/
def IsReadBack (v : Value) : Prop :=
  ∀ (depth fuel : Nat) (rest : List Char), (v.prettyAt depth).toList.length ≤ fuel →
    Numeral.EndsWith rest →
      readValue (fuel + 1) ((v.prettyAt depth).toList ++ rest) = (v.toNode, rest)

theorem readMoreElements_moreItems {vs : List Value} (hvs : ∀ v ∈ vs, IsReadBack v)
    (h : (moreItems ']' depth (prettyElements (depth + 1) vs)).length ≤ fuel) :
    readMoreElements (fuel + 1) (moreItems ']' depth (prettyElements (depth + 1) vs) ++ rest) =
      (toElements vs, rest) := by
  induction vs generalizing fuel with
  | nil =>
    rw [prettyElements, moreItems, List.append_assoc, readMoreElements, skipBlanks_lineBreak,
      List.singleton_append, skipBlanks_cons rfl, toElements]
    rfl
  | cons v vs ih =>
    rw [prettyElements, moreItems] at h ⊢
    simp only [List.length_cons, List.length_append] at h
    obtain ⟨fuel, rfl⟩ := Nat.exists_eq_add_one_of_ne_zero (n := fuel) (by omega)
    have hv := hvs v List.mem_cons_self (depth + 1) fuel
      (moreItems ']' depth (prettyElements (depth + 1) vs) ++ rest) (by omega)
      (endsWith_moreItems _ _ _ _)
    have hle : (moreItems ']' depth (prettyElements (depth + 1) vs)).length ≤ fuel := by omega
    have hmore := ih (fun w hw => hvs w (List.mem_cons_of_mem v hw)) hle
    rw [List.cons_append, List.append_assoc, List.append_assoc, readMoreElements,
      skipBlanks_cons rfl, toElements]
    simp only [readValue_lineBreak, hv, hmore]

theorem readMoreMembers_moreItems {ms : List (String × Value)} (hms : ∀ m ∈ ms, IsReadBack m.2)
    (h : (moreItems '\x7d' depth (prettyMembers (depth + 1) ms)).length ≤ fuel) :
    readMoreMembers (fuel + 1) (moreItems '\x7d' depth (prettyMembers (depth + 1) ms) ++ rest) =
      (toMembers ms, rest) := by
  induction ms generalizing fuel with
  | nil =>
    rw [prettyMembers, moreItems, List.append_assoc, readMoreMembers, skipBlanks_lineBreak,
      List.singleton_append, skipBlanks_cons rfl, toMembers]
    rfl
  | cons m ms ih =>
    obtain ⟨k, v⟩ := m
    rw [prettyMembers, moreItems, toList_member] at h ⊢
    simp only [List.length_cons, List.length_append, memberChars] at h
    obtain ⟨fuel, rfl⟩ := Nat.exists_eq_add_of_le' (show 2 ≤ fuel by omega)
    have hvalue : IsReadBack v := hms (k, v) List.mem_cons_self
    have hmember := readMember_memberChars (k := k)
      (hvalue (depth + 1) fuel _ (by omega) (endsWith_moreItems _ _ _ _))
      (ih (fun n hn => hms n (List.mem_cons_of_mem _ hn)) (by omega))
    rw [List.cons_append, List.append_assoc, List.append_assoc, readMoreMembers,
      skipBlanks_cons rfl, toMembers]
    simp only [skipBlanks_lineBreak, List.cons_append, skipBlanks_cons (c := '"') rfl, hmember]

theorem isReadBack_array {vs : List Value} (hvs : ∀ v ∈ vs, IsReadBack v) :
    IsReadBack (.array vs) := by
  intro depth fuel rest h hrest
  cases vs with
  | nil =>
    rw [prettyAt_array_nil, readValue, Value.toNode, toElements]
    rfl
  | cons v vs =>
    rw [toList_prettyAt_array] at h ⊢
    simp only [List.length_cons, List.length_append] at h
    obtain ⟨fuel, rfl⟩ := Nat.exists_eq_add_one_of_ne_zero (n := fuel) (by omega)
    have hv := hvs v List.mem_cons_self (depth + 1) fuel _ (by omega)
      (endsWith_moreItems ']' depth (prettyElements (depth + 1) vs) rest)
    rw [List.cons_append, List.append_assoc, List.append_assoc, Value.toNode, toElements]
    exact readValue_array_cons hv (readMoreElements_moreItems
      (fun w hw => hvs w (List.mem_cons_of_mem v hw)) (by omega))

theorem isReadBack_object {ms : List (String × Value)} (hms : ∀ m ∈ ms, IsReadBack m.2) :
    IsReadBack (.object ms) := by
  intro depth fuel rest h hrest
  cases ms with
  | nil =>
    rw [prettyAt_object_nil, readValue, Value.toNode, toMembers]
    rfl
  | cons m ms =>
    obtain ⟨k, v⟩ := m
    rw [toList_prettyAt_object] at h ⊢
    simp only [List.length_cons, List.length_append, memberChars] at h
    obtain ⟨fuel, rfl⟩ := Nat.exists_eq_add_of_le' (show 2 ≤ fuel by omega)
    have hvalue : IsReadBack v := hms (k, v) List.mem_cons_self
    have hv := hvalue (depth + 1) fuel _ (by omega)
      (endsWith_moreItems '\x7d' depth (prettyMembers (depth + 1) ms) rest)
    rw [List.cons_append, List.append_assoc, List.cons_append, List.append_assoc, Value.toNode,
      toMembers]
    exact readValue_object_cons (readMember_memberChars hv (readMoreMembers_moreItems
      (fun n hn => hms n (List.mem_cons_of_mem _ hn)) (by omega)))

mutual

/-- Every value is read back wherever it stands. -/
theorem isReadBack : ∀ v : Value, IsReadBack v
  | .null => fun depth fuel rest _ _ => by
    rw [Value.prettyAt, readValue]
    exact readLiteral_append .null ['u', 'l', 'l'] rest
  | .bool b => fun depth fuel rest _ _ => by
    rw [Value.prettyAt, readValue]
    cases b with
    | true => exact readLiteral_append (.bool true) ['r', 'u', 'e'] rest
    | false => exact readLiteral_append (.bool false) ['a', 'l', 's', 'e'] rest
  | .natural n => fun depth fuel rest _ hrest => by
    rw [Value.prettyAt, toList_toString, Value.toNode]
    exact readValue_numeral (isWritten_naturalNumeral n) hrest fuel
  | .real x => fun depth fuel rest _ hrest => by
    rw [Value.prettyAt, toList_toText, readValue_numeral x.isWritten_numeral hrest,
      Numeral.toNode, x.number?_numeral, Value.toNode]
    rfl
  | .string s => fun depth fuel rest _ _ => by
    rw [Value.prettyAt, toList_quotedString, List.cons_append, List.append_assoc, readValue,
      skipBlanks_cons rfl, Value.toNode]
    simp [readString, scanString_flatMap_escapeChar]
  | .array vs => isReadBack_array (isReadBack_of_mem vs)
  | .object ms => isReadBack_object (isReadBack_of_mem_members ms)

theorem isReadBack_of_mem : ∀ vs : List Value, ∀ v ∈ vs, IsReadBack v
  | [] => by simp
  | v :: vs => by
    intro w hw
    rcases List.mem_cons.mp hw with heq | hw
    · rw [heq]
      exact isReadBack v
    · exact isReadBack_of_mem vs w hw

theorem isReadBack_of_mem_members : ∀ ms : List (String × Value), ∀ m ∈ ms, IsReadBack m.2
  | [] => by simp
  | (k, v) :: ms => by
    intro n hn
    rcases List.mem_cons.mp hn with heq | hn
    · rw [heq]
      exact isReadBack v
    · exact isReadBack_of_mem_members ms n hn

end

/-- A value that has been written is read as its tree. -/
theorem read_pretty (v : Value) : read v.pretty = ⟨v.toNode, true⟩ := by
  have hread := isReadBack v 0 v.pretty.toList.length [] (Nat.le_refl _)
    (by simp [Numeral.EndsWith])
  rw [List.append_nil] at hread
  rw [read]
  simp only [Value.pretty] at hread ⊢
  rw [hread]
  rfl

end Blocklist.Json
