import Blocklist.Csv.Reading
import Blocklist.Csv.Writing
import Blocklist.Proofs.Text.Utf8

/-! # Tables are read as they were written

The bytes that end a field or quote it stand for themselves only where a field is written between
quotation marks. So a written field is read up to the byte behind it, a written record is read up to
the end of its line, and a written table is read as its records. This takes records of at least two
fields: one empty field alone is written as an empty line, which is passed over. -/

namespace Blocklist.Csv

open Text

/-- The record with texts in its fields. -/
def Record.ofTexts (fields : List String) : Record :=
  fields.map (·.toUTF8.toList)

@[simp] theorem Record.ofTexts_nil : ofTexts [] = [] := rfl

@[simp] theorem Record.ofTexts_cons (s : String) (texts : List String) :
    ofTexts (s :: texts) = encode s.toList :: ofTexts texts := by
  rw [ofTexts, List.map_cons, toList_toUTF8]
  rfl

/-! ## Bytes that end a field -/

@[simp] theorem utf8EncodeChar_comma : String.utf8EncodeChar ',' = [comma] := by decide

@[simp] theorem utf8EncodeChar_quotationMark : String.utf8EncodeChar '"' = [quotationMark] := by
  decide

@[simp] theorem utf8EncodeChar_lineFeed : String.utf8EncodeChar '\n' = [lineFeed] := by decide

/-- Whether a byte ends a field, outside quotation marks. -/
def endsField (b : UInt8) : Bool :=
  b == comma || endsLine b

theorem endsField_eq_false_iff {b : UInt8} :
    endsField b = false ↔ b ≠ comma ∧ endsLine b = false := by
  simp [endsField]

/-- A text that is written without quotation marks has no byte that would need them. -/
theorem plain_of_mem_encode {s : String} (h : needsQuotes s = false) {b : UInt8}
    (hb : b ∈ encode s.toList) : endsField b = false ∧ b ≠ quotationMark := by
  obtain ⟨c, hc, hbc⟩ := List.mem_flatMap.mp hb
  have hplain := List.any_eq_false.mp h c hc
  simp only [Bool.or_eq_true, beq_iff_eq, not_or] at hplain
  obtain ⟨⟨⟨hcomma, hquote⟩, hreturn⟩, hfeed⟩ := hplain
  constructor
  · rw [Bool.eq_false_iff]
    intro hends
    simp only [endsField, endsLine, Bool.or_eq_true, beq_iff_eq] at hends
    rcases hends with rfl | rfl | rfl
    · exact hcomma (eq_of_mem_utf8EncodeChar hbc (by decide) (by decide))
    · exact hfeed (eq_of_mem_utf8EncodeChar hbc (by decide) (by decide))
    · exact hreturn (eq_of_mem_utf8EncodeChar hbc (by decide) (by decide))
  · intro heq
    subst heq
    exact hquote (eq_of_mem_utf8EncodeChar hbc (by decide) (by decide))

/-! ## Fields -/

theorem encode_writeField_quoted {s : String} (h : needsQuotes s = true) :
    encode (writeField s).toList =
      quotationMark :: (encode (s.toList.flatMap fun c => if c = '"' then [c, c] else [c]) ++
        [quotationMark]) := by
  simp [writeField, h]

theorem encode_writeField_plain {s : String} (h : needsQuotes s = false) :
    encode (writeField s).toList = encode s.toList := by
  simp [writeField, h]

section Fields

variable {field : List UInt8} {fields : Record} {b : UInt8} {us bs : List UInt8}

/-- Where a field ends, it does not matter how it was written. -/
theorem readRecords_of_endsField {p : Place} (hstart : p ≠ .recordStart) (hquoted : p ≠ .quoted)
    (hb : endsField b) :
    readRecords p field fields (b :: bs) = readRecords .field field fields (b :: bs) := by
  have hends : endsLine b = false → b = comma := by
    intro hline
    simpa [endsField, hline] using hb
  cases p with
  | recordStart => exact absurd rfl hstart
  | quoted => exact absurd rfl hquoted
  | field => rfl
  | fieldStart | afterQuote =>
    cases hline : endsLine b with
    | true => simp [readRecords, hline]
    | false => simp [readRecords, hends hline]

theorem readRecords_field_append (h : ∀ u ∈ us, endsField u = false) :
    readRecords .field field fields (us ++ bs) =
      readRecords .field (us.reverse ++ field) fields bs := by
  induction us generalizing field with
  | nil => rfl
  | cons u us ih =>
    rw [List.forall_mem_cons] at h
    obtain ⟨hcomma, hline⟩ := endsField_eq_false_iff.mp h.1
    have hstep : readRecords .field field fields (u :: (us ++ bs)) =
        readRecords .field (u :: field) fields (us ++ bs) := by
      simp [readRecords, hcomma, hline]
    rw [List.cons_append, hstep, ih h.2]
    simp

theorem readRecords_quoted_append (h : quotationMark ∉ us) :
    readRecords .quoted field fields (us ++ bs) =
      readRecords .quoted (us.reverse ++ field) fields bs := by
  induction us generalizing field with
  | nil => rfl
  | cons u us ih =>
    rw [List.mem_cons, not_or] at h
    have hstep : readRecords .quoted field fields (u :: (us ++ bs)) =
        readRecords .quoted (u :: field) fields (us ++ bs) := by
      simp [readRecords, Ne.symm h.1]
    rw [List.cons_append, hstep, ih h.2]
    simp

/-- Between quotation marks, two of them are read as one, and all else as it is. -/
theorem readRecords_quoted_doubled (cs : List Char) :
    readRecords .quoted field fields
        (encode (cs.flatMap fun c => if c = '"' then [c, c] else [c]) ++ bs) =
      readRecords .quoted ((encode cs).reverse ++ field) fields bs := by
  induction cs generalizing field with
  | nil => rfl
  | cons c cs ih =>
    by_cases hc : c = '"'
    · subst hc
      have hstep : ∀ bs, readRecords .quoted field fields (quotationMark :: quotationMark :: bs) =
          readRecords .quoted (quotationMark :: field) fields bs := fun bs => rfl
      simp [hstep, ih]
    · have hplain : quotationMark ∉ String.utf8EncodeChar c := by
        intro hmem
        exact hc (eq_of_mem_utf8EncodeChar hmem (by decide) (by decide))
      simp [hc, readRecords_quoted_append hplain, ih]

/-- A written field is read up to the byte that ends it. -/
theorem readRecords_writeField (s : String) (hb : endsField b) :
    readRecords .fieldStart [] fields (encode (writeField s).toList ++ b :: bs) =
      readRecords .field (encode s.toList).reverse fields (b :: bs) := by
  cases hquotes : needsQuotes s with
  | true =>
    have hopen : ∀ bs, readRecords .fieldStart [] fields (quotationMark :: bs) =
        readRecords .quoted [] fields bs := fun bs => rfl
    have hclose : ∀ field bs, readRecords .quoted field fields (quotationMark :: bs) =
        readRecords .afterQuote field fields bs := fun field bs => rfl
    rw [encode_writeField_quoted hquotes, List.cons_append, hopen, List.append_assoc,
      readRecords_quoted_doubled, List.cons_append, hclose, List.nil_append,
      readRecords_of_endsField (by decide) (by decide) hb, List.append_nil]
  | false =>
    rw [encode_writeField_plain hquotes]
    -- Only the first byte is read in front of the field, where a quotation mark would count.
    have hplain := fun u => plain_of_mem_encode hquotes (b := u)
    generalize encode s.toList = us at hplain
    cases us with
    | nil => exact readRecords_of_endsField (by decide) (by decide) hb
    | cons u us =>
      have hu := hplain u List.mem_cons_self
      obtain ⟨hcomma, hline⟩ := endsField_eq_false_iff.mp hu.1
      have hstep : readRecords .fieldStart [] fields (u :: (us ++ b :: bs)) =
          readRecords .field [u] fields (us ++ b :: bs) := by
        simp [readRecords, hcomma, hline, hu.2]
      rw [List.cons_append, hstep, readRecords_field_append, List.reverse_cons]
      intro v hv
      exact (hplain v (List.mem_cons_of_mem u hv)).1

end Fields

/-! ## Records -/

theorem toList_writeRecord_singleton (s : String) :
    (writeRecord [s]).toList = (writeField s).toList ++ ['\n'] := by
  simp [writeRecord]

theorem toList_writeRecord_cons_cons (s t : String) (fields : List String) :
    (writeRecord (s :: t :: fields)).toList =
      (writeField s).toList ++ ',' :: (writeRecord (t :: fields)).toList := by
  simp [writeRecord, String.toList_intercalate]

theorem readRecords_fieldStart_writeRecord (s : String) (texts : List String) (fields : Record)
    (bs : List UInt8) :
    readRecords .fieldStart [] fields (encode (writeRecord (s :: texts)).toList ++ bs) =
      (fields.reverse ++ Record.ofTexts (s :: texts)) :: readRecords .recordStart [] [] bs := by
  induction texts generalizing s fields with
  | nil =>
    have hend : ∀ field bs, readRecords .field field fields (lineFeed :: bs) =
        (field.reverse :: fields).reverse :: readRecords .recordStart [] [] bs :=
      fun field bs => rfl
    rw [toList_writeRecord_singleton, encode_append, List.append_assoc, encode_cons,
      utf8EncodeChar_lineFeed]
    simp only [encode_nil, List.cons_append, List.nil_append]
    rw [readRecords_writeField s (by decide), hend]
    simp
  | cons t texts ih =>
    have hnext : ∀ field bs, readRecords .field field fields (comma :: bs) =
        readRecords .fieldStart [] (field.reverse :: fields) bs := fun field bs => rfl
    rw [toList_writeRecord_cons_cons, encode_append, List.append_assoc, encode_cons,
      utf8EncodeChar_comma]
    simp only [List.cons_append, List.nil_append]
    rw [readRecords_writeField s (by decide), hnext, ih]
    simp

/-- In front of a record all but an empty line is read as in front of its first field. -/
theorem readRecords_recordStart {b : UInt8} (bs : List UInt8) (hb : endsLine b = false) :
    readRecords .recordStart [] [] (b :: bs) = readRecords .fieldStart [] [] (b :: bs) := by
  by_cases hquote : b = quotationMark
  · subst hquote
    rfl
  by_cases hcomma : b = comma
  · subst hcomma
    rfl
  simp [readRecords, hb, hquote, hcomma]

/-- A record of two fields or more does not start with the end of a line. -/
theorem exists_encode_writeRecord {texts : List String} (h : 1 < texts.length) :
    ∃ b bs, encode (writeRecord texts).toList = b :: bs ∧ endsLine b = false := by
  obtain ⟨s, t, fields, rfl⟩ : ∃ s t fields, texts = s :: t :: fields := by
    match texts, h with
    | s :: t :: fields, _ => exact ⟨s, t, fields, rfl⟩
  rw [toList_writeRecord_cons_cons, encode_append]
  cases hquotes : needsQuotes s with
  | true =>
    rw [encode_writeField_quoted hquotes]
    exact ⟨_, _, rfl, by decide⟩
  | false =>
    rw [encode_writeField_plain hquotes]
    cases hs : encode s.toList with
    | nil =>
      rw [encode_cons, utf8EncodeChar_comma]
      exact ⟨_, _, rfl, by decide⟩
    | cons u us =>
      have hu := plain_of_mem_encode hquotes (b := u) (by simp [hs])
      exact ⟨u, _, rfl, (endsField_eq_false_iff.mp hu.1).2⟩

theorem readRecords_writeRecord {texts : List String} (h : 1 < texts.length) (bs : List UInt8) :
    readRecords .recordStart [] [] (encode (writeRecord texts).toList ++ bs) =
      Record.ofTexts texts :: readRecords .recordStart [] [] bs := by
  obtain ⟨b, rest, hbytes, hb⟩ := exists_encode_writeRecord h
  cases texts with
  | nil => simp at h
  | cons s texts =>
    have hread := readRecords_fieldStart_writeRecord s texts [] bs
    rw [hbytes] at hread ⊢
    rw [List.cons_append, readRecords_recordStart _ hb]
    exact hread

/-! ## Tables -/

theorem readRecords_join {table : List (List String)} (h : ∀ r ∈ table, 1 < r.length) :
    readRecords .recordStart [] [] (String.join (table.map writeRecord)).toUTF8.toList =
      table.map Record.ofTexts := by
  rw [toList_toUTF8, String.toList_join]
  induction table with
  | nil => rfl
  | cons r table ih =>
    rw [List.forall_mem_cons] at h
    rw [List.map_cons, List.flatMap_cons, encode_append, readRecords_writeRecord h.1, ih h.2,
      List.map_cons]

/-- A table of records with two fields or more is read as it was written, unless it starts with a
byte order mark. -/
theorem read_join {table : List (List String)} (h : ∀ r ∈ table, 1 < r.length)
    (hmark : (String.join (table.map writeRecord)).toUTF8.toList.head? ≠ some 0xef) :
    read (String.join (table.map writeRecord)).toUTF8.toList = table.map Record.ofTexts := by
  have hdrop : ∀ bs : List UInt8, bs.head? ≠ some 0xef → dropByteOrderMark bs = bs := by
    intro bs hbs
    unfold dropByteOrderMark
    split
    · exact absurd rfl hbs
    · rfl
  rw [read, hdrop _ hmark, readRecords_join h]

end Blocklist.Csv
