import Blocklist.Pattern.Estimate
import Blocklist.Proofs.Filter.Hosts
import Blocklist.Proofs.Tracker.Renormalizing

/-! # The filter of a rule and the filter of its host

The pattern of a rule is put behind the host and a slash, so it should only narrow down the URLs of
the host. It does, unless it starts with a mark that makes the slash optional: then the rest of the
pattern may stand right behind the host. Main statement: `isMatch_hostFilter_of_isMatch_iff`. -/

namespace Blocklist.Tracker

open Pattern Blocklist.Filter

section

variable [SizeLimit]

/-- The filter of a rule without the slash behind the host, and without the marks that the pattern
puts on it. -/
def slashlessFilter (domain : String) (r : TrackerRule) : String :=
  String.ofList (slashlessChars domain.toList r.pattern.toList r.options.subdomains)

theorem IsNormalRule.isClear {domain : String} {r : TrackerRule} (h : IsNormalRule domain r) :
    IsClear (dropSlash r.pattern.toList) :=
  isClear_dropSlash (isSupported_iff.mp h.supported)

section

variable {domain : String} {r : TrackerRule} (hdomain : Host.IsNormal domain.toList)
  (hrule : IsNormalRule domain r)

include hdomain hrule

/-- The filter without the pattern of a rule matches the URLs that start as its front asks for. -/
theorem isMatch_hostFilter_iff (url : String) :
    isMatch (Filter.urlFilter domain "" r.options.subdomains) url ↔
      HasFront domain.toList r.options.subdomains url.toList := by
  have hne := Host.ne_nil_of_isValid hdomain.valid
  have hchars := Host.isHostChar_of_isValid hdomain.valid
  obtain ⟨p, hp⟩ := hrule.compiles
  rw [urlFilter, compile_urlFilter] at hp
  obtain ⟨q, hq⟩ := exists_compileChars_hostFilter hne hchars hrule.isClear hp
  rw [isMatch_iff, toList_urlFilter, String.toList_empty, hq]
  simp [occursIn_hostFilter_iff hne hchars hq]

/-- Outside of its host the filter of a rule matches what it matches without the slash, if the
pattern lets the slash go, and nothing otherwise. -/
theorem isMatch_iff_of_not_isMatch_hostFilter {url : String}
    (hhost : ¬ isMatch (Filter.urlFilter domain "" r.options.subdomains) url) :
    isMatch (urlFilter domain r) url ↔
      ¬ keepsSlash (dropSlash r.pattern.toList) ∧ isMatch (slashlessFilter domain r) url := by
  have hne := Host.ne_nil_of_isValid hdomain.valid
  have hchars := Host.isHostChar_of_isValid hdomain.valid
  rw [isMatch_hostFilter_iff hdomain hrule] at hhost
  obtain ⟨p, hp⟩ := hrule.compiles
  rw [urlFilter, compile_urlFilter] at hp
  rw [isMatch_iff, isMatch_iff, slashlessFilter, String.toList_ofList,
    ← occursIn_iff_of_not_hasFront hne hchars hrule.isClear hp hhost, urlFilter,
    toList_urlFilter, hp]
  simp

end

/-- The filter of a rule of an accepted tracker keeps to the filter of its host exactly where the
pattern keeps the slash, or where nothing is matched without the slash either. -/
theorem isMatch_hostFilter_of_isMatch_iff {t u : Tracker} (h : t.normalize = .ok u)
    {r : TrackerRule} (hr : r ∈ u.rules) (url : String) :
    (isMatch (urlFilter u.domain r) url →
      isMatch (Filter.urlFilter u.domain "" r.options.subdomains) url) ↔
    keepsSlash (dropSlash r.pattern.toList) ∨
      (isMatch (slashlessFilter u.domain r) url →
        isMatch (Filter.urlFilter u.domain "" r.options.subdomains) url) := by
  have hu := isNormal_of_normalize h
  have hdomain := Host.isNormal_of_normalize? hu.domain
  by_cases hhost : isMatch (Filter.urlFilter u.domain "" r.options.subdomains) url
  · exact iff_of_true (fun _ => hhost) (.inr fun _ => hhost)
  have hmatch := isMatch_iff_of_not_isMatch_hostFilter hdomain (hu.rules r hr) hhost
  constructor
  · intro hnarrows
    by_cases hkeeps : keepsSlash (dropSlash r.pattern.toList)
    · exact .inl hkeeps
    · exact .inr fun hslashless => hnarrows (hmatch.mpr ⟨hkeeps, hslashless⟩)
  · rintro (hkeeps | hslashless) hrule
    · exact absurd hkeeps (hmatch.mp hrule).1
    · exact hslashless (hmatch.mp hrule).2

end

open scoped Pattern.Estimate

theorem isMatch_hostFilter_of_isMatch_iff_of_plus :
    ({ Tracker.forDomain "t" .block with rules := [.forPattern "+ads" .block] }).normalize =
        .ok { Tracker.forDomain "t" .block with rules := [.forPattern "+ads" .block] } ∧
      ((isMatch (urlFilter "t" (.forPattern "+ads" .block)) "ws://t//ads" →
          isMatch (Filter.urlFilter "t" "" true) "ws://t//ads") ↔
        keepsSlash (dropSlash "+ads".toList) ∨
          (isMatch (slashlessFilter "t" (.forPattern "+ads" .block)) "ws://t//ads" →
            isMatch (Filter.urlFilter "t" "" true) "ws://t//ads")) := by
  have hnormal :
      ({ Tracker.forDomain "t" .block with rules := [.forPattern "+ads" .block] }).normalize =
        .ok { Tracker.forDomain "t" .block with rules := [.forPattern "+ads" .block] } := by
    decide +kernel
  exact ⟨hnormal, isMatch_hostFilter_of_isMatch_iff hnormal List.mem_cons_self "ws://t//ads"⟩

/-- Behind an optional slash the pattern extends the host. -/
theorem isMatch_of_optional_slash :
    ({ Tracker.forDomain "t.example" .block with rules := [.forPattern "?x" .block] }).normalize =
        .ok { Tracker.forDomain "t.example" .block with rules := [.forPattern "?x" .block] } ∧
      isMatch (urlFilter "t.example" (.forPattern "?x" .block)) "https://t.examplex/" ∧
      ¬isMatch (Filter.urlFilter "t.example" "" true) "https://t.examplex/" := by
  decide +kernel

end Blocklist.Tracker
