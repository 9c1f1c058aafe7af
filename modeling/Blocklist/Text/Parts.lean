/-! Cutting character sequences at a separator, and putting the parts together again. Joining the
parts gives the sequence back (`joined_parts`), and cutting what was joined gives the parts back if
none of them holds the separator (`parts_joined`). -/

namespace Blocklist.Text

/-- The parts between the occurrences of a separator; one more than there are separators. -/
def parts (sep : Char) : List Char → List (List Char)
  | [] => [[]]
  | c :: cs =>
    if c = sep then [] :: parts sep cs
    else
      match parts sep cs with
      | [] => [[c]]
      | p :: ps => (c :: p) :: ps

def joined (sep : Char) (ps : List (List Char)) : List Char :=
  List.intercalate [sep] ps

/-- Cuts at the first occurrence of a separator, if there is one. -/
def cut? (sep : Char) : List Char → Option (List Char × List Char)
  | [] => none
  | c :: cs =>
    if c = sep then some ([], cs)
    else (cut? sep cs).map fun (before, after) => (c :: before, after)

/-- Whether one character sequence stands somewhere in another. -/
def standsIn (part : List Char) : List Char → Bool
  | [] => part.isEmpty
  | c :: cs => part.isPrefixOf (c :: cs) || standsIn part cs

theorem parts_ne_nil (sep : Char) (cs : List Char) : parts sep cs ≠ [] := by
  cases cs with
  | nil => simp [parts]
  | cons c cs =>
    unfold parts
    split
    · simp
    · split <;> simp

theorem joined_parts (sep : Char) (cs : List Char) : joined sep (parts sep cs) = cs := by
  induction cs with
  | nil => rfl
  | cons c cs ih =>
    unfold parts
    have hne := parts_ne_nil sep cs
    split
    · rename_i h
      cases hp : parts sep cs with
      | nil => exact absurd hp hne
      | cons p ps =>
        rw [hp] at ih
        simp [joined, List.intercalate, List.intersperse, h] at ih ⊢
        exact ih
    · cases hp : parts sep cs with
      | nil => exact absurd hp hne
      | cons p ps =>
        rw [hp] at ih
        cases ps with
        | nil => simpa [joined, List.intercalate, List.intersperse] using ih
        | cons q qs => simpa [joined, List.intercalate, List.intersperse] using ih

theorem parts_of_not_mem {sep : Char} {cs : List Char} (h : sep ∉ cs) : parts sep cs = [cs] := by
  induction cs with
  | nil => rfl
  | cons c cs ih =>
    rw [List.mem_cons, not_or] at h
    simp [parts, Ne.symm h.1, ih h.2]

theorem parts_append {sep : Char} {p : List Char} (h : sep ∉ p) (cs : List Char) :
    parts sep (p ++ sep :: cs) = p :: parts sep cs := by
  induction p with
  | nil => simp [parts]
  | cons c p ih =>
    rw [List.mem_cons, not_or] at h
    simp [parts, Ne.symm h.1, ih h.2]

theorem parts_joined {sep : Char} {ps : List (List Char)} (hne : ps ≠ [])
    (h : ∀ p ∈ ps, sep ∉ p) : parts sep (joined sep ps) = ps := by
  induction ps with
  | nil => exact absurd rfl hne
  | cons p ps ih =>
    cases ps with
    | nil => simpa [joined] using parts_of_not_mem (h p List.mem_cons_self)
    | cons q qs =>
      have hcons : joined sep (p :: q :: qs) = p ++ sep :: joined sep (q :: qs) := by
        simp [joined, List.intercalate, List.intersperse]
      rw [hcons, parts_append (h p List.mem_cons_self),
        ih (List.cons_ne_nil q qs) fun r hr => h r (List.mem_cons_of_mem p hr)]

end Blocklist.Text
