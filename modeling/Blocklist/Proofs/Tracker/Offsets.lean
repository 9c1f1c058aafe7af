import Blocklist.Proofs.Text.Offsets
import Blocklist.Proofs.Tracker.HostPrefix

/-! # Patterns by byte offsets

The host in front of a pattern is looked for among as many bytes as the host has, if the pattern can
be cut there. Main statement: `Bytewise.dropHost_eq`. -/

namespace Blocklist.Tracker

open Text

namespace Bytewise

/-- A pattern without the host in front. The host is the domain of the tracker, as a pattern. -/
def dropHostChars (pattern domain : List Char) : Except OffsetError (List Char) := do
  let host := Filter.escapeDomainChars domain
  let size := (encode host).length
  match splitAtByte? pattern size with
  | none => return dropLeadingSlash pattern
  | some (head, _) =>
    if equalIgnoringCase head host then
      return dropLeadingSlash (← textBetween pattern size (encode pattern).length)
    else return dropLeadingSlash pattern

/-- A pattern without the host in front. The host is the domain of the tracker, as a pattern. -/
def dropHost (pattern domain : String) : Except OffsetError String := do
  return String.ofList (← dropHostChars pattern.toList domain.toList)

end Bytewise

theorem utf8Size_toLower (c : Char) : c.toLower.utf8Size = c.utf8Size :=
  toLower_cases (p := fun c d => d.utf8Size = c.utf8Size) (by decide +kernel) (fun _ _ => rfl) c

theorem utf8Length_map_toLower (cs : List Char) :
    utf8Length (cs.map Char.toLower) = utf8Length cs := by
  induction cs with
  | nil => rfl
  | cons c cs ih => rw [List.map_cons, utf8Length_cons, utf8Length_cons, utf8Size_toLower, ih]

/-- All texts for one host have the same number of bytes. -/
theorem SpellsHost.utf8Length_eq {domain head : List Char} (h : SpellsHost domain head) :
    utf8Length head = utf8Length (Filter.escapeDomainChars domain) := by
  rw [← utf8Length_map_toLower head, h, utf8Length_map_toLower]

theorem Bytewise.dropHostChars_eq (pattern domain : List Char) :
    Bytewise.dropHostChars pattern domain = pure (Tracker.dropHostChars pattern domain) := by
  simp only [Bytewise.dropHostChars, length_encode]
  by_cases hhost : ∃ head rest, SpellsHost domain head ∧ pattern = head ++ rest
  case pos =>
    obtain ⟨head, rest, hhead, rfl⟩ := hhost
    have hsplit : head ++ rest = head ++ (rest ++ []) := by rw [List.append_nil]
    rw [← hhead.utf8Length_eq, splitAtByte?_append, Tracker.dropHostChars_append hhead]
    simp only [if_pos (equalIgnoringCase_iff.mpr hhead), pure_bind,
      textBetween_eq hsplit rfl (utf8Length_append head rest)]
  case neg =>
    rw [(exists_head_or_dropHostChars_eq domain pattern).resolve_left hhost]
    cases hcut : splitAtByte? pattern (utf8Length (Filter.escapeDomainChars domain)) with
    | none => rfl
    | some cut =>
      obtain ⟨head, rest⟩ := cut
      have hpattern := (splitAtByte?_eq_some_iff.mp hcut).1
      have hhead : ¬equalIgnoringCase head (Filter.escapeDomainChars domain) := fun h =>
        hhost ⟨head, rest, equalIgnoringCase_iff.mp h, hpattern⟩
      simp only [if_neg hhead]

theorem Bytewise.dropHost_eq (pattern domain : String) :
    Bytewise.dropHost pattern domain = pure (Tracker.dropHost pattern domain) := by
  rw [Bytewise.dropHost, dropHostChars_eq, pure_bind, Tracker.dropHost]

end Blocklist.Tracker
