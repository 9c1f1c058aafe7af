import Blocklist.Proofs.Host.NormalForm
import Blocklist.Proofs.Text.Ascii
import Blocklist.Url

/-! # URLs in different letter case

A URL is cut at characters that have no case, and its scheme and host are compared in lower case. So
changing the case of letters changes nothing but the case of letters in the URL in normal form. Main
statement: `areAlike_of_lower_eq`. -/

namespace Blocklist

/-! ## Tests that letter case does not matter to -/

namespace Text

theorem toLower_beq {d : Char} (hd : ¬ d.isAlpha) (c : Char) : (c.toLower == d) = (c == d) := by
  rw [Bool.eq_iff_iff, beq_iff_eq, beq_iff_eq, toLower_eq_iff hd]

section

variable {p : Char → Bool} (hp : ∀ c : Char, p c.toLower = p c) (cs : List Char)

include hp

theorem takeWhile_map_toLower :
    (cs.map Char.toLower).takeWhile p = (cs.takeWhile p).map Char.toLower := by
  rw [List.takeWhile_map, show p ∘ Char.toLower = p from funext hp]

theorem dropWhile_map_toLower :
    (cs.map Char.toLower).dropWhile p = (cs.dropWhile p).map Char.toLower := by
  rw [List.dropWhile_map, show p ∘ Char.toLower = p from funext hp]

theorem dropEndWhile_map_toLower :
    dropEndWhile p (cs.map Char.toLower) = (dropEndWhile p cs).map Char.toLower := by
  rw [dropEndWhile, dropEndWhile, ← List.map_reverse, dropWhile_map_toLower hp, List.map_reverse]

end

theorem isBlank_toLower (c : Char) : isBlank c.toLower = isBlank c :=
  toLower_cases (p := fun c d => isBlank d = isBlank c) (by decide +kernel) (fun _ _ => rfl) c

theorem trimChars_map_toLower (cs : List Char) :
    trimChars (cs.map Char.toLower) = (trimChars cs).map Char.toLower := by
  rw [trimChars, trimChars, dropWhile_map_toLower isBlank_toLower,
    dropEndWhile_map_toLower isBlank_toLower]

theorem cut?_map_toLower {sep : Char} (hsep : ¬ sep.isAlpha) (cs : List Char) :
    cut? sep (cs.map Char.toLower) =
      (cut? sep cs).map (Prod.map (List.map Char.toLower) (List.map Char.toLower)) := by
  induction cs with
  | nil => rfl
  | cons c cs ih =>
    rw [List.map_cons, cut?, cut?, ih]
    by_cases hc : c = sep
    · rw [if_pos hc, if_pos ((toLower_eq_iff hsep).mpr hc)]
      rfl
    · rw [if_neg hc, if_neg (mt (toLower_eq_iff hsep).mp hc), Option.map_map, Option.map_map]
      rfl

end Text

namespace Url

open Text

/-- A cut with all parts in lower case. -/
def Cut.lower (c : Cut) : Cut :=
  ⟨c.before.map Char.toLower, c.authority.map Char.toLower, c.rest.map Char.toLower⟩

theorem schemeChars?_map_toLower (url : List Char) :
    schemeChars? (url.map Char.toLower) = schemeChars? url := by
  have hopens : ∀ s : Scheme, s.opens (url.map Char.toLower) = s.opens url := by
    intro s
    rw [Scheme.opens, Scheme.opens, ← List.map_take, List.map_map]
    simp [Function.comp_def]
  simp only [schemeChars?, hopens]

theorem slashes_isPrefixOf_map_toLower (cs : List Char) :
    ['/', '/'].isPrefixOf (cs.map Char.toLower) = ['/', '/'].isPrefixOf cs := by
  have hslash : ∀ c : Char, ('/' == c.toLower) = ('/' == c) := fun c => by
    rw [Bool.beq_comm, toLower_beq (by decide), Bool.beq_comm]
  rcases cs with _ | ⟨c, _ | ⟨d, cs⟩⟩ <;> simp [List.isPrefixOf, hslash]

theorem withScheme_map_toLower (url : List Char) :
    withScheme (url.map Char.toLower) = (withScheme url).map Char.toLower := by
  rw [withScheme, withScheme, slashes_isPrefixOf_map_toLower]
  split
  · rw [List.map_append]
    rfl
  · rfl

theorem cutScheme?_eq (url : List Char) :
    cutScheme? url = (cut? ':' url).bind fun (before, after) =>
      if ['/', '/'].isPrefixOf after then some (before ++ [':', '/', '/'], after.drop 2)
      else none := by
  rw [cutScheme?]
  cases cut? ':' url with
  | none => rfl
  | some cut =>
    obtain ⟨before, after⟩ := cut
    rcases after with _ | ⟨c, _ | ⟨d, after⟩⟩
    · rfl
    · simp
    · by_cases hc : c = '/'
      · by_cases hd : d = '/'
        · simp [hc, hd]
        · simp [hc, hd, Ne.symm hd]
      · simp [hc, Ne.symm hc]

theorem cutScheme?_map_toLower (url : List Char) :
    cutScheme? (url.map Char.toLower) =
      (cutScheme? url).map (Prod.map (List.map Char.toLower) (List.map Char.toLower)) := by
  rw [cutScheme?_eq, cutScheme?_eq, cut?_map_toLower (by decide)]
  cases cut? ':' url with
  | none => rfl
  | some cut =>
    simp only [Option.map_some, Option.bind_some, Prod.map, slashes_isPrefixOf_map_toLower]
    split
    · simp
    · rfl

theorem endsAuthority_toLower (c : Char) : endsAuthority c.toLower = endsAuthority c := by
  rw [endsAuthority, endsAuthority, toLower_beq (by decide), toLower_beq (by decide),
    toLower_beq (by decide)]

theorem cutUrl?_map_toLower (url : List Char) :
    cutUrl? (url.map Char.toLower) = (cutUrl? url).map Cut.lower := by
  have hends : ∀ c : Char, (!endsAuthority c.toLower) = !endsAuthority c := fun c => by
    rw [endsAuthority_toLower]
  rw [cutUrl?, cutUrl?, cutScheme?_map_toLower, Option.map_map, Option.map_map]
  refine congrArg (Option.map · _) (funext fun cut => ?_)
  simp only [Function.comp_apply, Prod.map, Cut.lower,
    takeWhile_map_toLower (p := fun c => !endsAuthority c) hends,
    dropWhile_map_toLower (p := fun c => !endsAuthority c) hends]

theorem hostPart_map_toLower (authority : List Char) :
    hostPart (authority.map Char.toLower) = (hostPart authority).map Char.toLower := by
  have hat : ∀ c : Char, (c.toLower != '@') = (c != '@') := fun c => by
    rw [bne, toLower_beq (by decide), bne]
  have hcolon : ∀ c : Char, (c.toLower != ':') = (c != ':') := fun c => by
    rw [bne, toLower_beq (by decide), bne]
  rw [hostPart, hostPart, ← List.map_reverse, takeWhile_map_toLower hat, ← List.map_reverse,
    takeWhile_map_toLower hcolon]

theorem hostOfAuthority?_map_toLower (authority : List Char) :
    hostOfAuthority? (authority.map Char.toLower) = hostOfAuthority? authority := by
  rw [hostOfAuthority?, hostOfAuthority?, hostPart_map_toLower,
    dropEndWhile_map_toLower (toLower_beq (by decide))]
  simp [Host.isValid_map_toLower, Function.comp_def]

theorem hostChars?_map_toLower (url : List Char) :
    hostChars? (url.map Char.toLower) = hostChars? url := by
  rw [hostChars?, hostChars?, trimChars_map_toLower, cutUrl?_map_toLower, Option.bind_map]
  exact congrArg _ (funext fun cut => hostOfAuthority?_map_toLower cut.authority)

theorem withPath_map_toLower (rest : List Char) :
    withPath (rest.map Char.toLower) = (withPath rest).map Char.toLower := by
  have hslash : (rest.map Char.toLower).head? = some '/' ↔ rest.head? = some '/' := by
    cases rest with
    | nil => rfl
    | cons c rest => simp [toLower_eq_iff (show ¬ '/'.isAlpha by decide)]
  by_cases hhead : rest.head? = some '/'
  · rw [withPath, withPath, if_pos hhead, if_pos (hslash.mpr hhead)]
  · rw [withPath, withPath, if_neg hhead, if_neg (mt hslash.mp hhead)]
    rfl

/-- A URL in lower case has the normal form of the URL, in lower case, and the same host. -/
theorem normalizeChars?_map_toLower (resource : List Char) :
    normalizeChars? (resource.map Char.toLower) =
      (normalizeChars? resource).map fun (url, host) => (url.map Char.toLower, host) := by
  simp only [normalizeChars?, trimChars_map_toLower, withScheme_map_toLower,
    schemeChars?_map_toLower, hostChars?_map_toLower, cutUrl?_map_toLower]
  split
  · rfl
  · rw [Option.map_bind]
    refine congrArg _ (funext fun host => ?_)
    rw [Function.comp_apply, Option.map_map, Option.map_map]
    refine congrArg (Option.map · _) (funext fun cut => ?_)
    simp [Cut.lower, withPath_map_toLower]

theorem exists_normalize?_of_lower_eq {s t : String} (h : Text.lower s = Text.lower t)
    {resource : Resource} (hs : normalize? s = some resource) :
    ∃ resource', normalize? t = some resource' ∧ resource'.host = resource.host ∧
      resource'.url.toList.map Char.toLower = resource.url.toList.map Char.toLower := by
  have hlower : s.toList.map Char.toLower = t.toList.map Char.toLower := String.ofList_inj.mp h
  obtain ⟨⟨url, host⟩, hurl, rfl⟩ := Option.map_eq_some_iff.mp hs
  have hboth := normalizeChars?_map_toLower s.toList
  rw [hlower, normalizeChars?_map_toLower, hurl, Option.map_some, Option.map_eq_some_iff] at hboth
  obtain ⟨⟨url', host'⟩, hurl', heq⟩ := hboth
  obtain ⟨hcase, rfl⟩ := Prod.mk.inj heq
  exact ⟨⟨String.ofList url', String.ofList host'⟩, by rw [normalize?, hurl']; rfl, rfl, by simpa⟩

/-- How two resources are alike: both have no web URL, or they have URLs in normal form that differ
in letter case alone, with the same host. -/
inductive AreAlike (s t : String) : Prop where
  | invalid (hs : normalize? s = none) (ht : normalize? t = none)
  | valid {resource resource' : Resource} (hs : normalize? s = some resource)
      (ht : normalize? t = some resource') (hhost : resource'.host = resource.host)
      (hurl : resource'.url.toList.map Char.toLower = resource.url.toList.map Char.toLower)

/-- Resources that differ in letter case alone are alike. -/
theorem areAlike_of_lower_eq {s t : String} (h : Text.lower t = Text.lower s) : AreAlike s t := by
  cases hs : normalize? s with
  | some resource =>
    obtain ⟨resource', ht, hhost, hurl⟩ := exists_normalize?_of_lower_eq h.symm hs
    exact .valid hs ht hhost hurl
  | none =>
    cases ht : normalize? t with
    | none => exact .invalid hs ht
    | some resource =>
      obtain ⟨_, hs', -⟩ := exists_normalize?_of_lower_eq h ht
      exact absurd (hs.symm.trans hs') (by simp)

end Url

end Blocklist
