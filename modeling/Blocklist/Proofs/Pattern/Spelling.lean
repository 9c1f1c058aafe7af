import Blocklist.Proofs.Pattern.Search

/-! # The words of an expression

An expression without conditions on positions matches the same words wherever they stand. `Spells`
tells these words; `spells_of_matches` and `matches_of_spells` relate them to the places where they
are found. -/

namespace Blocklist.Pattern

/-- The characters between two positions. -/
def slice (cs : List Char) (i j : Nat) : List Char :=
  (cs.drop i).take (j - i)

theorem slice_self (cs : List Char) (i : Nat) : slice cs i i = [] := by
  simp [slice]

theorem slice_append_slice (cs : List Char) {i j k : Nat} (hij : i ≤ j) (hjk : j ≤ k) :
    slice cs i j ++ slice cs j k = slice cs i k := by
  obtain ⟨m, rfl⟩ := Nat.exists_eq_add_of_le hij
  obtain ⟨n, rfl⟩ := Nat.exists_eq_add_of_le hjk
  have hn : i + m + n - i = m + n := by omega
  simp only [slice, Nat.add_sub_cancel_left, hn, List.take_add, List.drop_drop]

/-- Whether an expression has no condition on a position. -/
def Expr.IsPlain : Expr → Prop
  | .look _ => False
  | .seq e f | .alt e f => e.IsPlain ∧ f.IsPlain
  | .times e _ _ => e.IsPlain
  | _ => True

/-- The words that an expression matches. -/
inductive Spells : Expr → List Char → Prop where
  | empty : Spells .empty []
  | set {s : CharSet} {c : Char} (h : c ∈ s) : Spells (.set s) [c]
  | seq {e f : Expr} {v w : List Char} (he : Spells e v) (hf : Spells f w) :
      Spells (.seq e f) (v ++ w)
  | altLeft {e f : Expr} {w : List Char} (h : Spells e w) : Spells (.alt e f) w
  | altRight {e f : Expr} {w : List Char} (h : Spells f w) : Spells (.alt e f) w
  /-- The words of the occurrences, one after the other. -/
  | times {e : Expr} {min : Nat} {max : Option Nat} {ws : List (List Char)}
      (hlength : Allows min max ws.length) (h : ∀ w ∈ ws, Spells e w) :
      Spells (.times e min max) ws.flatten

/-! ## Words and places -/

/-- Whether what stands between two positions is a word. -/
def IsWordAt (cs : List Char) (e : Expr) (i j : Nat) : Prop :=
  i ≤ j ∧ j ≤ cs.length ∧ Spells e (slice cs i j)

/-- Occurrences one after the other are words one after the other. -/
theorem exists_words_of_power {cs : List Char} {e : Expr}
    (h : ∀ {i j}, i ≤ cs.length → Matches cs.toArray e i j → IsWordAt cs e i j) {k i j : Nat}
    (hi : i ≤ cs.length) (hij : Power (Matches cs.toArray e) k i j) :
    i ≤ j ∧ j ≤ cs.length ∧ ∃ ws : List (List Char), ws.length = k ∧ (∀ w ∈ ws, Spells e w) ∧
      slice cs i j = ws.flatten := by
  induction k generalizing i with
  | zero =>
    obtain rfl : i = j := hij
    exact ⟨Nat.le_refl i, hi, [], rfl, by simp, slice_self cs i⟩
  | succ k ih =>
    obtain ⟨m, him, hmj⟩ := hij
    obtain ⟨hle, hm, hv⟩ := h hi him
    obtain ⟨hle', hj, ws, hlen, hall, heq⟩ := ih hm hmj
    refine ⟨Nat.le_trans hle hle', hj, slice cs i m :: ws, by rw [List.length_cons, hlen], ?_, ?_⟩
    · simpa using ⟨hv, hall⟩
    · rw [← slice_append_slice cs hle hle', heq, List.flatten_cons]

/-- What is matched between two positions is a word. -/
theorem spells_of_matches {cs : List Char} {e : Expr} (he : e.IsPlain) {i j : Nat}
    (hi : i ≤ cs.length) (h : Matches cs.toArray e i j) : IsWordAt cs e i j := by
  induction e generalizing i j with
  | empty =>
    cases h
    exact ⟨Nat.le_refl i, hi, by rw [slice_self]; exact .empty⟩
  | set s =>
    cases h with
    | set hlt hs =>
      have hlt : i < cs.length := by simpa using hlt
      have hslice : slice cs i (i + 1) = [cs[i]] := by
        rw [slice, Nat.add_sub_cancel_left, List.drop_eq_getElem_cons hlt, List.take_succ_cons,
          List.take_zero]
      refine ⟨Nat.le_succ i, hlt, ?_⟩
      rw [hslice]
      exact .set (by simpa using hs)
  | look l => exact he.elim
  | seq e f ihe ihf =>
    cases h with
    | seq him hmj =>
      obtain ⟨hle, hm, hv⟩ := ihe he.1 hi him
      obtain ⟨hle', hj, hw⟩ := ihf he.2 hm hmj
      refine ⟨Nat.le_trans hle hle', hj, ?_⟩
      rw [← slice_append_slice cs hle hle']
      exact .seq hv hw
  | alt e f ihe ihf =>
    cases h with
    | altLeft h =>
      obtain ⟨hle, hj, hw⟩ := ihe he.1 hi h
      exact ⟨hle, hj, .altLeft hw⟩
    | altRight h =>
      obtain ⟨hle, hj, hw⟩ := ihf he.2 hi h
      exact ⟨hle, hj, .altRight hw⟩
  | times e min max ih =>
    obtain ⟨k, hk, hij⟩ := matches_times_iff.mp h
    obtain ⟨hle, hj, ws, rfl, hall, heq⟩ := exists_words_of_power (fun hi h => ih he hi h) hi hij
    exact ⟨hle, hj, by rw [heq]; exact .times hk hall⟩

/-- A word is matched wherever it stands. -/
theorem matches_of_spells {e : Expr} {w : List Char} (h : Spells e w) (pre post : List Char) :
    Matches (pre ++ w ++ post).toArray e pre.length (pre ++ w).length := by
  induction h generalizing pre post with
  | empty => simpa using .empty _
  | @set s c h =>
    have hlt : pre.length < (pre ++ [c] ++ post).toArray.size := by simp
    have hc : (pre ++ [c] ++ post).toArray[pre.length] = c := by simp
    have hset : Matches (pre ++ [c] ++ post).toArray (.set s) pre.length (pre.length + 1) :=
      .set hlt (by rw [hc]; exact h)
    rwa [List.length_append, List.length_singleton]
  | @seq e f v w _ _ ihe ihf =>
    have hv := ihe pre (w ++ post)
    have hw := ihf (pre ++ v) post
    simp only [List.append_assoc] at hv hw ⊢
    exact .seq hv hw
  | altLeft _ ih => exact .altLeft (ih pre post)
  | altRight _ ih => exact .altRight (ih pre post)
  | @times e min max ws hlength h ih =>
    refine matches_times_iff.mpr ⟨ws.length, hlength, ?_⟩
    clear hlength
    induction ws generalizing pre with
    | nil => simp [Power]
    | cons w ws ihws =>
      have hw := ih w (by simp) pre (ws.flatten ++ post)
      have hws := ihws (fun v hv => h v (by simp [hv])) (fun v hv => ih v (by simp [hv])) (pre ++ w)
      simp only [List.append_assoc, List.flatten_cons] at hw hws ⊢
      exact ⟨_, hw, hws⟩

/-! ## Words by the form of the expression -/

theorem spells_set_iff {s : CharSet} {w : List Char} : Spells (.set s) w ↔ ∃ c ∈ s, w = [c] :=
  ⟨fun h => by cases h with | set h => exact ⟨_, h, rfl⟩, fun ⟨_, h, hw⟩ => hw ▸ .set h⟩

theorem spells_seq_iff {e f : Expr} {w : List Char} :
    Spells (.seq e f) w ↔ ∃ u v, w = u ++ v ∧ Spells e u ∧ Spells f v :=
  ⟨fun h => by cases h with | seq he hf => exact ⟨_, _, rfl, he, hf⟩,
    fun ⟨_, _, hw, he, hf⟩ => hw ▸ .seq he hf⟩

theorem spells_times_iff {e : Expr} {min : Nat} {max : Option Nat} {w : List Char} :
    Spells (.times e min max) w ↔
      ∃ ws : List (List Char), Allows min max ws.length ∧ (∀ v ∈ ws, Spells e v) ∧
        w = ws.flatten :=
  ⟨fun h => by cases h with | times hlength h => exact ⟨_, hlength, h, rfl⟩,
    fun ⟨_, hlength, h, hw⟩ => hw ▸ .times hlength h⟩

theorem spells_optional_iff {e : Expr} {w : List Char} :
    Spells (.times e 0 (some 1)) w ↔ w = [] ∨ Spells e w := by
  rw [spells_times_iff]
  constructor
  · rintro ⟨ws, ⟨-, hle⟩, hall, rfl⟩
    have := hle 1 rfl
    cases ws with
    | nil => exact .inl rfl
    | cons v vs =>
      obtain rfl : vs = [] := by simpa using this
      exact .inr (by simpa using hall v (by simp))
  · rintro (rfl | h)
    · exact ⟨[], ⟨Nat.le_refl 0, fun _ _ => Nat.zero_le _⟩, by simp, rfl⟩
    · refine ⟨[w], ⟨Nat.zero_le _, fun m hm => ?_⟩, by simpa using h, by simp⟩
      exact (Option.some.inj hm).symm ▸ Nat.le_refl 1

/-- The words of a repeated set: characters of the set, at least as many as asked for. -/
theorem spells_times_set_iff {s : CharSet} {min : Nat} {w : List Char} :
    Spells (.times (.set s) min none) w ↔ min ≤ w.length ∧ ∀ c ∈ w, c ∈ s := by
  rw [spells_times_iff]
  constructor
  · rintro ⟨ws, ⟨hmin, -⟩, hall, rfl⟩
    have hsingle : ∀ v ∈ ws, ∃ c ∈ s, v = [c] := fun v hv => spells_set_iff.mp (hall v hv)
    refine ⟨?_, fun c hc => ?_⟩
    · have hlen : ws.flatten.length = ws.length := by
        clear hmin hall
        induction ws with
        | nil => rfl
        | cons v ws ih =>
          obtain ⟨c, -, rfl⟩ := hsingle v (by simp)
          simp [ih fun v hv => hsingle v (by simp [hv])]
      omega
    · obtain ⟨v, hv, hcv⟩ := List.mem_flatten.mp hc
      obtain ⟨d, hd, rfl⟩ := hsingle v hv
      rw [List.mem_singleton.mp hcv]
      exact hd
  · rintro ⟨hmin, hall⟩
    refine ⟨w.map fun c => [c], ⟨by simpa using hmin, fun _ h => by cases h⟩, ?_, ?_⟩
    · intro v hv
      obtain ⟨c, hc, rfl⟩ := List.mem_map.mp hv
      exact .set (hall c hc)
    · rw [← List.flatMap_def, List.flatMap_singleton']

/-! ## Characters that do not occur -/

/-- Whether no set of an expression has a character. -/
def Expr.avoids (c : Char) : Expr → Bool
  | .set s => !s.contains c.toNat
  | .seq e f | .alt e f => e.avoids c && f.avoids c
  | .times e _ _ => e.avoids c
  | _ => true

theorem not_mem_of_spells {c : Char} {e : Expr} {w : List Char} (he : e.avoids c)
    (h : Spells e w) : c ∉ w := by
  induction h with
  | empty => exact List.not_mem_nil
  | @set s d hd =>
    rw [List.mem_singleton]
    rintro rfl
    simp only [Expr.avoids, Bool.not_eq_true'] at he
    rw [CharSet.mem_def, he] at hd
    cases hd
  | seq _ _ ihe ihf =>
    simp only [Expr.avoids, Bool.and_eq_true] at he
    exact fun hmem => (List.mem_append.mp hmem).elim (ihe he.1) (ihf he.2)
  | altLeft _ ih =>
    simp only [Expr.avoids, Bool.and_eq_true] at he
    exact ih he.1
  | altRight _ ih =>
    simp only [Expr.avoids, Bool.and_eq_true] at he
    exact ih he.2
  | times _ _ ih =>
    intro hmem
    obtain ⟨v, hv, hcv⟩ := List.mem_flatten.mp hmem
    exact ih v hv he hcv

/-! ## Expressions at the start of the text -/

theorem holds_textStart_iff {cs : List Char} {i : Nat} (hi : i ≤ cs.length) {after : Option Char} :
    Look.textStart.holds (if i = 0 then none else cs.toArray[i - 1]?) after ↔ i = 0 := by
  by_cases h : i = 0
  · simp [h, Look.holds]
  · have hlt : i - 1 < cs.length := by omega
    simp [h, Look.holds, hlt]

/-- What is asked for at the start of the text is found exactly if the text starts with one of its
words. -/
theorem occursIn_textStart_iff {e : Expr} (hplain : e.IsPlain) (hcounted : e.IsCounted)
    {cs : List Char} :
    (Expr.seq (.look .textStart) e).occursIn cs ↔ ∃ w, w <+: cs ∧ Spells e w := by
  have hseq : (Expr.seq (.look .textStart) e).IsCounted := ⟨trivial, hcounted⟩
  rw [occursIn_iff hseq]
  constructor
  · rintro ⟨i, j, hi, hij⟩
    cases hij with
    | seq hlook he =>
      cases hlook with
      | look hl =>
        have hi : i ≤ cs.length := by simpa using hi
        obtain rfl : i = 0 := (holds_textStart_iff hi).mp hl
        obtain ⟨-, -, hw⟩ := spells_of_matches hplain hi he
        exact ⟨slice cs 0 j, by simpa [slice] using List.take_prefix j cs, hw⟩
  · rintro ⟨w, ⟨post, rfl⟩, hw⟩
    have he := matches_of_spells hw [] post
    exact ⟨0, w.length, Nat.zero_le _, .seq (.look (by simp [Look.holds])) he⟩

end Blocklist.Pattern
