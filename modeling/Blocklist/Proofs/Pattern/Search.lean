import Blocklist.Pattern.Search
import Mathlib

/-! # Searching by sets of positions

The search finds an expression exactly where the relation `Matches` places it. Sets of positions are
read bit by bit, and repetitions as powers of the relation between starts and ends. -/

namespace Blocklist.Pattern

/-! ## Sets of positions -/

theorem testBit_ofBits (bits : List Bool) (i : Nat) :
    (ofBits bits).testBit i = bits[i]?.getD false := by
  induction bits generalizing i with
  | nil => simp [ofBits]
  | cons b bits ih =>
    have hcons : ofBits (b :: bits) = 2 * ofBits bits + b.toNat := rfl
    rw [hcons]
    cases i with
    | zero => cases b <;> simp [Nat.testBit_zero, Nat.add_mod]
    | succ i =>
      have hhalf : (2 * ofBits bits + b.toNat) / 2 = ofBits bits := by
        cases b <;> simp [Nat.mul_add_div]
      rw [Nat.testBit_succ, hhalf, ih, List.getElem?_cons_succ]

theorem getElem?_neighbours (before : Option Char) (cs : List Char) {i : Nat}
    (hi : i ≤ cs.length) :
    (neighbours before cs)[i]? = some (if i = 0 then before else cs[i - 1]?, cs[i]?) := by
  induction cs generalizing before i with
  | nil =>
    obtain rfl : i = 0 := by simpa using hi
    simp [neighbours]
  | cons c cs ih =>
    cases i with
    | zero => simp [neighbours]
    | succ i =>
      rw [neighbours, List.getElem?_cons_succ, ih (some c) (by simpa using hi)]
      cases i <;> simp

/-- The members of a number as a set of positions are at most `n`. -/
def IsWithin (n s : Nat) : Prop :=
  ∀ i, s.testBit i → i ≤ n

/-! ## Powers of a relation -/

/-- A relation applied several times. -/
def Power (R : Nat → Nat → Prop) : Nat → Nat → Nat → Prop
  | 0, i, j => i = j
  | k + 1, i, j => ∃ m, R i m ∧ Power R k m j

theorem power_add {R : Nat → Nat → Prop} {k l i j : Nat} :
    Power R (k + l) i j ↔ ∃ m, Power R k i m ∧ Power R l m j := by
  induction k generalizing i with
  | zero => simp [Power]
  | succ k ih =>
    rw [Nat.succ_add]
    constructor
    · rintro ⟨m, him, hmj⟩
      obtain ⟨l, hml, hlj⟩ := ih.mp hmj
      exact ⟨l, ⟨m, him, hml⟩, hlj⟩
    · rintro ⟨l, ⟨m, him, hml⟩, hlj⟩
      exact ⟨m, him, ih.mpr ⟨l, hml, hlj⟩⟩

theorem power_succ_right {R : Nat → Nat → Prop} {k i j : Nat} :
    Power R (k + 1) i j ↔ ∃ m, Power R k i m ∧ R m j := by
  rw [power_add]
  simp [Power]

/-- The numbers of occurrences that a repetition allows. -/
def Allows (min : Nat) (max : Option Nat) (k : Nat) : Prop :=
  min ≤ k ∧ ∀ m, max = some m → k ≤ m

theorem matches_times_iff {cs : Array Char} {e : Expr} {min : Nat} {max : Option Nat} {i j : Nat} :
    Matches cs (.times e min max) i j ↔ ∃ k, Allows min max k ∧ Power (Matches cs e) k i j := by
  constructor
  · intro h
    generalize heq : Expr.times e min max = e' at h
    induction h generalizing min max with
    | timesDone max' =>
      cases heq
      exact ⟨0, ⟨Nat.le_refl 0, fun _ _ => Nat.zero_le _⟩, rfl⟩
    | timesMore hmax he _ _ ih =>
      cases heq
      obtain ⟨k, ⟨hmin, hle⟩, hk⟩ := ih rfl
      refine ⟨k + 1, ⟨by omega, fun m hm => ?_⟩, _, he, hk⟩
      have hm0 : m ≠ 0 := fun h0 => hmax (by rw [hm, h0])
      have := hle (m - 1) (by rw [hm]; rfl)
      omega
    | _ => cases heq
  · rintro ⟨k, ⟨hmin, hle⟩, hk⟩
    induction k generalizing min max i with
    | zero =>
      obtain rfl : i = j := hk
      obtain rfl : min = 0 := by omega
      exact .timesDone max
    | succ k ih =>
      obtain ⟨m, him, hmj⟩ := hk
      refine .timesMore (fun h => ?_) him (ih hmj (by omega) fun m hm => ?_)
      · exact absurd (hle 0 h) (by omega)
      · obtain ⟨m', hm', rfl⟩ := Option.map_eq_some_iff.mp hm
        have := hle m' hm'
        omega

/-! ## Steps applied again and again -/

theorem iterate_eq (f : Nat → Nat) (n s : Nat) : iterate f n s = f^[n] s := by
  induction n generalizing s with
  | zero => rfl
  | succ n ih =>
    rw [iterate]
    split
    · rename_i h
      rw [Function.iterate_fixed h]
    · rw [ih, Function.iterate_succ_apply]

theorem IsWithin.or {n s t : Nat} (hs : IsWithin n s) (ht : IsWithin n t) :
    IsWithin n (s ||| t) := by
  intro i hi
  rw [Nat.testBit_or, Bool.or_eq_true] at hi
  exact hi.elim (hs i) (ht i)

section

variable {R S : Nat → Nat → Prop} {n : Nat} {f g : Nat → Nat}

/-- A function on sets of positions that goes from each member along a relation. -/
def Follows (R : Nat → Nat → Prop) (n : Nat) (f : Nat → Nat) : Prop :=
  ∀ s, IsWithin n s → IsWithin n (f s) ∧ ∀ j, (f s).testBit j ↔ ∃ i, s.testBit i ∧ R i j

theorem Follows.congr (hf : Follows R n f) (h : ∀ {i j}, R i j ↔ S i j) : Follows S n f := by
  intro s hs
  obtain ⟨hwithin, hbits⟩ := hf s hs
  exact ⟨hwithin, fun j => by simp only [hbits, h]⟩

theorem follows_id (n : Nat) : Follows Eq n id := by
  intro s hs
  exact ⟨hs, fun j => by simp⟩

theorem Follows.comp (hg : Follows S n g) (hf : Follows R n f) :
    Follows (fun i j => ∃ m, R i m ∧ S m j) n fun s => g (f s) := by
  intro s hs
  obtain ⟨hwithin, hbits⟩ := hf s hs
  obtain ⟨hwithin', hbits'⟩ := hg _ hwithin
  refine ⟨hwithin', fun j => (hbits' j).trans ⟨?_, ?_⟩⟩
  · rintro ⟨m, hm, hmj⟩
    obtain ⟨i, hi, him⟩ := (hbits m).mp hm
    exact ⟨i, hi, m, him, hmj⟩
  · rintro ⟨i, hi, m, him, hmj⟩
    exact ⟨m, (hbits m).mpr ⟨i, hi, him⟩, hmj⟩

theorem Follows.or (hf : Follows R n f) (hg : Follows S n g) :
    Follows (fun i j => R i j ∨ S i j) n fun s => f s ||| g s := by
  intro s hs
  obtain ⟨hwithin, hbits⟩ := hf s hs
  obtain ⟨hwithin', hbits'⟩ := hg s hs
  refine ⟨hwithin.or hwithin', fun j => ?_⟩
  rw [Nat.testBit_or, Bool.or_eq_true, hbits, hbits']
  constructor
  · rintro (⟨i, hi, hij⟩ | ⟨i, hi, hij⟩)
    · exact ⟨i, hi, .inl hij⟩
    · exact ⟨i, hi, .inr hij⟩
  · rintro ⟨i, hi, hij | hij⟩
    · exact .inl ⟨i, hi, hij⟩
    · exact .inr ⟨i, hi, hij⟩

theorem Follows.iterate (hf : Follows R n f) (k : Nat) : Follows (Power R k) n f^[k] := by
  induction k with
  | zero => exact follows_id n
  | succ k ih =>
    rw [Function.iterate_succ']
    exact (hf.comp ih).congr power_succ_right.symm

theorem power_or_iff {k i j : Nat} :
    Power (fun i j => i = j ∨ R i j) k i j ↔ ∃ l, l ≤ k ∧ Power R l i j := by
  induction k generalizing i with
  | zero => simp [Power]
  | succ k ih =>
    constructor
    · rintro ⟨m, rfl | him, hmj⟩
      · obtain ⟨l, hl, hij⟩ := ih.mp hmj
        exact ⟨l, by omega, hij⟩
      · obtain ⟨l, hl, hmj⟩ := ih.mp hmj
        exact ⟨l + 1, by omega, m, him, hmj⟩
    · rintro ⟨l, hl, hij⟩
      cases l with
      | zero => exact ⟨i, .inl rfl, ih.mpr ⟨0, by omega, hij⟩⟩
      | succ l =>
        obtain ⟨m, him, hmj⟩ := hij
        exact ⟨m, .inr him, ih.mpr ⟨l, by omega, hmj⟩⟩

/-- Keeping the members that there are allows any number of steps up to a bound. -/
theorem Follows.iterate_or (hf : Follows R n f) (k : Nat) :
    Follows (fun i j => ∃ l, l ≤ k ∧ Power R l i j) n (fun t => t ||| f t)^[k] :=
  (((follows_id n).or hf).iterate k).congr power_or_iff

end

/-- The number of members of a set of positions. -/
def count (n s : Nat) : Nat :=
  ((Finset.range (n + 1)).filter fun i => s.testBit i).card

theorem count_le (n s : Nat) : count n s ≤ n + 1 := by
  simpa [count] using Finset.card_filter_le (Finset.range (n + 1)) fun i => s.testBit i

/-- A set that grows within the positions gets a member more. -/
theorem count_lt_count_or {n s t : Nat} (hst : IsWithin n (s ||| t)) (hne : s ||| t ≠ s) :
    count n s < count n (s ||| t) := by
  obtain ⟨i, hi⟩ := Nat.exists_testBit_ne_of_ne hne
  have hout : s.testBit i = false := by
    cases h : s.testBit i with
    | false => rfl
    | true => simp [Nat.testBit_or, h] at hi
  have hin : (s ||| t).testBit i := by simpa [hout] using hi
  refine Finset.card_lt_card (Finset.ssubset_iff_of_subset ?_ |>.mpr ⟨i, ?_, ?_⟩)
  · refine Finset.monotone_filter_right _ fun j _ hj => ?_
    rw [Nat.testBit_or, hj, Bool.true_or]
  · have := hst i hin
    simp only [Finset.mem_filter, Finset.mem_range]
    exact ⟨by omega, hin⟩
  · simp [hout]

/-- After as many steps as there are positions nothing changes any more. -/
theorem iterate_or_fixed {n : Nat} {f : Nat → Nat} (hf : ∀ s, IsWithin n s → IsWithin n (f s))
    {s : Nat} (hs : IsWithin n s) :
    (fun t => t ||| f t)^[n + 2] s = (fun t => t ||| f t)^[n + 1] s := by
  have hwithin : ∀ k, IsWithin n ((fun t => t ||| f t)^[k] s) := by
    intro k
    induction k with
    | zero => exact hs
    | succ k ih =>
      rw [Function.iterate_succ_apply']
      exact ih.or (hf _ ih)
  -- Until nothing changes every step adds a member.
  have hgrows : ∀ k, (fun t => t ||| f t)^[k + 1] s = (fun t => t ||| f t)^[k] s ∨
      k < count n ((fun t => t ||| f t)^[k + 1] s) := by
    intro k
    induction k with
    | zero =>
      by_cases hfix : (fun t => t ||| f t)^[1] s = s
      · exact .inl hfix
      · exact .inr (Nat.zero_lt_of_lt (count_lt_count_or (hwithin 1) hfix))
    | succ k ih =>
      by_cases hfix : (fun t => t ||| f t)^[k + 1 + 1] s = (fun t => t ||| f t)^[k + 1] s
      · exact .inl hfix
      · rcases ih with hk | hk
        · refine absurd ?_ hfix
          rw [Function.iterate_succ_apply', hk, ← Function.iterate_succ_apply' (fun t => t ||| f t),
            hk]
        · have hstep := hwithin (k + 1 + 1)
          rw [Function.iterate_succ_apply'] at hfix hstep ⊢
          have := count_lt_count_or hstep hfix
          exact .inr (by omega)
  rcases hgrows (n + 1) with h | h
  · exact h
  · have := count_le n ((fun t => t ||| f t)^[n + 1 + 1] s)
    omega

/-- With one more step than there are positions any number of steps is allowed. -/
theorem Follows.iterate_or_closed {R : Nat → Nat → Prop} {n : Nat} {f : Nat → Nat}
    (hf : Follows R n f) :
    Follows (fun i j => ∃ l, Power R l i j) n (fun t => t ||| f t)^[n + 1] := by
  intro s hs
  obtain ⟨hwithin, hbits⟩ := hf.iterate_or (n + 1) s hs
  refine ⟨hwithin, fun j => (hbits j).trans ⟨?_, ?_⟩⟩
  · rintro ⟨i, hi, l, -, hij⟩
    exact ⟨i, hi, l, hij⟩
  · rintro ⟨i, hi, l, hij⟩
    -- The set no longer changes, so it is also the one after any greater number of steps.
    have hfix : ∀ k, (fun t => t ||| f t)^[n + 1 + k] s = (fun t => t ||| f t)^[n + 1] s := by
      intro k
      induction k with
      | zero => rfl
      | succ k ih =>
        rw [← Nat.add_assoc, Function.iterate_succ_apply', ih, ← Function.iterate_succ_apply'
          (fun t => t ||| f t), iterate_or_fixed (fun s hs => (hf s hs).1) hs]
    rw [← hbits, ← hfix l, ((hf.iterate_or (n + 1 + l)) s hs).2 j]
    exact ⟨i, hi, l, by omega, hij⟩

/-! ## The search -/

/-- Every repetition allows at least as many occurrences as it asks for. -/
def Expr.IsCounted : Expr → Prop
  | .seq e f | .alt e f => e.IsCounted ∧ f.IsCounted
  | .times e min max => e.IsCounted ∧ ∀ m, max = some m → min ≤ m
  | _ => True

theorem allows_add_iff {min : Nat} {max : Option Nat} (hmax : ∀ m, max = some m → min ≤ m)
    {l : Nat} : Allows min max (min + l) ↔ ∀ m, max = some m → l ≤ m - min := by
  constructor
  · rintro ⟨-, hle⟩ m hm
    have := hle m hm
    omega
  · intro hle
    refine ⟨by omega, fun m hm => ?_⟩
    have := hle m hm
    have := hmax m hm
    omega

/-- The occurrences that a repetition asks for come first, and those that it also allows follow. -/
theorem exists_power_allows_iff {R : Nat → Nat → Prop} {min : Nat} {max : Option Nat}
    (hmax : ∀ m, max = some m → min ≤ m) {i j : Nat} :
    (∃ m, Power R min i m ∧ ∃ l, (∀ k, max = some k → l ≤ k - min) ∧ Power R l m j) ↔
      ∃ k, Allows min max k ∧ Power R k i j := by
  constructor
  · rintro ⟨m, him, l, hl, hmj⟩
    exact ⟨min + l, (allows_add_iff hmax).mpr hl, power_add.mpr ⟨m, him, hmj⟩⟩
  · rintro ⟨k, hallows, hij⟩
    obtain ⟨l, rfl⟩ := Nat.exists_eq_add_of_le hallows.1
    obtain ⟨m, him, hmj⟩ := power_add.mp hij
    exact ⟨m, him, l, (allows_add_iff hmax).mp hallows, hmj⟩

theorem follows_times {R : Nat → Nat → Prop} {n : Nat} {f : Nat → Nat} (hf : Follows R n f)
    {min : Nat} {max : Option Nat} (hmax : ∀ m, max = some m → min ≤ m) :
    Follows (fun i j => ∃ k, Allows min max k ∧ Power R k i j) n fun s =>
      Pattern.iterate (fun t => t ||| f t) ((max.map (· - min)).getD (n + 1))
        (Pattern.iterate f min s) := by
  simp only [iterate_eq]
  cases max with
  | none =>
    refine (hf.iterate_or_closed.comp (hf.iterate min)).congr ?_
    intro i j
    simpa using exists_power_allows_iff hmax
  | some max =>
    refine ((hf.iterate_or (max - min)).comp (hf.iterate min)).congr ?_
    intro i j
    simpa using exists_power_allows_iff hmax

theorem follows_advance (cs : List Char) (t : CharSet) :
    Follows (Matches cs.toArray (.set t)) cs.length fun s =>
      (s &&& ofBits (cs.map fun c => t.contains c.toNat)) <<< 1 := by
  intro s hs
  have hbits : ∀ j, ((s &&& ofBits (cs.map fun c => t.contains c.toNat)) <<< 1).testBit j ↔
      ∃ i, s.testBit i ∧ Matches cs.toArray (.set t) i j := by
    intro j
    rw [Nat.testBit_shiftLeft, Nat.testBit_and, testBit_ofBits, List.getElem?_map]
    constructor
    · intro h
      simp only [Bool.and_eq_true, decide_eq_true_eq] at h
      obtain ⟨hj, hs, ht⟩ := h
      cases hc : cs[j - 1]? with
      | none => simp [hc] at ht
      | some c =>
        obtain ⟨hlt, rfl⟩ := List.getElem?_eq_some_iff.mp hc
        have hstep : Matches cs.toArray (.set t) (j - 1) (j - 1 + 1) :=
          .set (by simpa using hlt) (by simpa [hc, CharSet.mem_def] using ht)
        rw [Nat.sub_add_cancel hj] at hstep
        exact ⟨j - 1, hs, hstep⟩
    · rintro ⟨i, hi, hij⟩
      cases hij with
      | set h ht =>
        have hlt : i < cs.length := by simpa using h
        have ht : t.contains cs[i].toNat := by simpa [CharSet.mem_def] using ht
        simp [hi, hlt, ht]
  refine ⟨fun j hj => ?_, hbits⟩
  obtain ⟨i, -, hij⟩ := (hbits j).mp hj
  cases hij with
  | set h _ => simpa [Nat.succ_le_iff] using h

theorem follows_stay (cs : List Char) (l : Look) :
    Follows (Matches cs.toArray (.look l)) cs.length fun s =>
      s &&& ofBits ((neighbours none cs).map fun p => l.holds p.1 p.2) := by
  intro s hs
  refine ⟨fun i hi => hs i (Bool.and_eq_true_iff.mp (Nat.testBit_and _ _ _ ▸ hi)).1, fun j => ?_⟩
  have hholds : j ≤ cs.length →
      ((((neighbours none cs).map fun p => l.holds p.1 p.2)[j]?.getD false) ↔
        l.holds (if j = 0 then none else cs.toArray[j - 1]?) cs.toArray[j]?) := by
    intro hj
    rw [List.getElem?_map, getElem?_neighbours none cs hj]
    simp
  rw [Nat.testBit_and, Bool.and_eq_true, testBit_ofBits]
  constructor
  · rintro ⟨hj, hl⟩
    exact ⟨j, hj, .look ((hholds (hs j hj)).mp hl)⟩
  · rintro ⟨i, hi, hij⟩
    cases hij with
    | look hl => exact ⟨hi, (hholds (hs j hi)).mpr hl⟩

theorem matches_empty_iff {cs : Array Char} {i j : Nat} : Matches cs .empty i j ↔ i = j := by
  constructor
  · rintro ⟨⟩
    rfl
  · rintro rfl
    exact .empty i

theorem matches_seq_iff {cs : Array Char} {e f : Expr} {i j : Nat} :
    Matches cs (.seq e f) i j ↔ ∃ m, Matches cs e i m ∧ Matches cs f m j := by
  constructor
  · intro h
    cases h with
    | seq he hf => exact ⟨_, he, hf⟩
  · rintro ⟨m, he, hf⟩
    exact .seq he hf

theorem matches_alt_iff {cs : Array Char} {e f : Expr} {i j : Nat} :
    Matches cs (.alt e f) i j ↔ Matches cs e i j ∨ Matches cs f i j := by
  constructor
  · intro h
    cases h with
    | altLeft h => exact .inl h
    | altRight h => exact .inr h
  · rintro (h | h)
    · exact .altLeft h
    · exact .altRight h

/-- The steps of an expression lead from the positions where it may start to those where it may
end. -/
theorem follows_reach (cs : List Char) {e : Expr} (he : e.IsCounted) :
    Follows (Matches cs.toArray e) cs.length ((e.over cs).reach (cs.length + 1)) := by
  induction e with
  | empty => exact (follows_id cs.length).congr matches_empty_iff.symm
  | set t => exact follows_advance cs t
  | look l => exact follows_stay cs l
  | seq e f ihe ihf => exact ((ihf he.2).comp (ihe he.1)).congr matches_seq_iff.symm
  | alt e f ihe ihf => exact ((ihe he.1).or (ihf he.2)).congr matches_alt_iff.symm
  | times e min max ih => exact (follows_times (ih he.1) he.2).congr matches_times_iff.symm

/-- The search starts at all positions. -/
theorem testBit_all_iff {n i : Nat} : (1 <<< (n + 1) - 1).testBit i ↔ i ≤ n := by
  simp [Nat.one_shiftLeft, Nat.testBit_two_pow_sub_one]

theorem isWithin_all (n : Nat) : IsWithin n (1 <<< (n + 1) - 1) :=
  fun _ => testBit_all_iff.mp

/-- An expression is found exactly if it occurs. -/
theorem occursIn_iff {e : Expr} (he : e.IsCounted) {cs : List Char} :
    e.occursIn cs ↔ Occurs cs.toArray e := by
  obtain ⟨-, hbits⟩ := follows_reach cs he _ (isWithin_all cs.length)
  have hne : ∀ s : Nat, s ≠ 0 ↔ ∃ j, s.testBit j := fun s =>
    ⟨Nat.exists_testBit_of_ne_zero, fun ⟨j, hj⟩ h => by simp [h] at hj⟩
  simp only [Expr.occursIn, bne_iff_ne, hne, hbits, testBit_all_iff, Occurs, List.size_toArray]
  exact ⟨fun ⟨j, i, hi, hij⟩ => ⟨i, j, hi, hij⟩, fun ⟨i, j, hi, hij⟩ => ⟨j, i, hi, hij⟩⟩

/-! ## The front of an expression -/

theorem Steps.reach_zero (bound : Nat) (e : Steps) : e.reach bound 0 = 0 := by
  have hfixed : ∀ (f : Nat → Nat) (n : Nat), f 0 = 0 → Pattern.iterate f n 0 = 0 := by
    intro f n hf
    rw [iterate_eq, Function.iterate_fixed hf]
  induction e with
  | empty => rfl
  | advance positions => simp [reach]
  | stay positions => simp [reach]
  | seq e f ihe ihf => rw [reach, ihe, ihf]
  | alt e f ihe ihf => rw [reach, ihe, ihf, Nat.or_zero]
  | times e min max ih => rw [reach, hfixed _ min ih, hfixed _ _ (by rw [ih, Nat.or_zero])]

theorem reach_foldr_seq (cs : List Char) (bound : Nat) (es : List Expr) (e : Expr) (s : Nat) :
    ((es.foldr Expr.seq e).over cs).reach bound s =
      (e.over cs).reach bound (((es.foldr Expr.seq Expr.empty).over cs).reach bound s) := by
  induction es generalizing s with
  | nil => rfl
  | cons f es ih => simp only [List.foldr_cons, Expr.over, Steps.reach, ih]

end Blocklist.Pattern
