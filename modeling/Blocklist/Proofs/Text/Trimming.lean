import Blocklist.Text.Blank
import Mathlib.Data.List.Basic
import Mathlib.Data.List.TakeWhile

/-! # Trimming

What is left of a list after matching items are removed at its ends, and lists that stay as they
are. -/

namespace Blocklist.Text

variable {α : Type u} {p : α → Bool}

/-! ## One end -/

/-- What is removed at the end consists of matching items. -/
theorem exists_eq_dropEndWhile_append (p : α → Bool) (xs : List α) :
    ∃ removed, xs = dropEndWhile p xs ++ removed ∧ ∀ x ∈ removed, p x := by
  refine ⟨(xs.reverse.takeWhile p).reverse, ?_, fun x hx => ?_⟩
  · rw [dropEndWhile, ← List.reverse_append, List.takeWhile_append_dropWhile, List.reverse_reverse]
  · exact List.mem_takeWhile_imp (List.mem_reverse.mp hx)

theorem dropEndWhile_append {xs ys : List α} (h : ∀ y ∈ ys, p y) :
    dropEndWhile p (xs ++ ys) = dropEndWhile p xs := by
  have hall : ∀ y ∈ ys.reverse, p y := fun y hy => h y (List.mem_reverse.mp hy)
  rw [dropEndWhile, dropEndWhile, List.reverse_append, List.dropWhile_append_of_pos hall]

theorem not_of_getLast?_dropEndWhile {xs : List α} {x : α}
    (h : (dropEndWhile p xs).getLast? = some x) : ¬ p x := by
  rw [dropEndWhile, List.getLast?_reverse] at h
  have := List.head?_dropWhile_not p xs.reverse
  rw [h] at this
  simpa using this

theorem dropEndWhile_eq_self {xs : List α} (h : ∀ x, xs.getLast? = some x → ¬ p x) :
    dropEndWhile p xs = xs := by
  obtain rfl | ⟨xs, x, rfl⟩ := List.eq_nil_or_concat' xs
  · rfl
  · exact dropEndWhile_append_of_neg xs (h x (by simp))

theorem dropEndWhile_beq_eq_self {α : Type u} [BEq α] [LawfulBEq α] {xs : List α} {x : α}
    (h : xs.getLast? ≠ some x) : dropEndWhile (· == x) xs = xs :=
  dropEndWhile_eq_self fun y hy heq => h (by rw [hy, eq_of_beq heq])

theorem dropWhile_eq_self {xs : List α} (h : ∀ x, xs.head? = some x → ¬ p x) :
    xs.dropWhile p = xs := by
  cases xs with
  | nil => rfl
  | cons x xs => exact List.dropWhile_cons_of_neg (h x rfl)

/-! ## Both ends -/

theorem trimChars_eq_self {cs : List Char} (hhead : ∀ c, cs.head? = some c → ¬ isBlank c)
    (hlast : ∀ c, cs.getLast? = some c → ¬ isBlank c) : trimChars cs = cs := by
  rw [trimChars, dropWhile_eq_self hhead, dropEndWhile_eq_self hlast]

theorem not_isBlank_of_getLast?_trimChars {cs : List Char} {c : Char}
    (h : (trimChars cs).getLast? = some c) : ¬ isBlank c :=
  not_of_getLast?_dropEndWhile h

theorem not_isBlank_of_head?_trimChars {cs : List Char} {c : Char}
    (h : (trimChars cs).head? = some c) : ¬ isBlank c := by
  obtain ⟨removed, heq, -⟩ := exists_eq_dropEndWhile_append isBlank (cs.dropWhile isBlank)
  have hhead : (cs.dropWhile isBlank).head? = some c := by
    rw [heq, List.head?_append, show dropEndWhile isBlank (cs.dropWhile isBlank) = trimChars cs from
      rfl, h, Option.some_or]
  have := List.head?_dropWhile_not isBlank cs
  rw [hhead] at this
  simpa using this

theorem trimChars_trimChars (cs : List Char) : trimChars (trimChars cs) = trimChars cs :=
  trimChars_eq_self (fun _ => not_isBlank_of_head?_trimChars)
    fun _ => not_isBlank_of_getLast?_trimChars

/-- Trimming a text for the second time changes nothing. -/
theorem trim_trim (s : String) : trim (trim s) = trim s := by
  rw [trim, trim, String.toList_ofList, trimChars_trimChars]

end Blocklist.Text
