import Blocklist.Proofs.Filter.Marks
import Blocklist.Proofs.Url.Authority

/-! # The hosts of URL filters

A URL that starts as the filter of a domain asks for has a host that the domain covers. The other
way round, the URLs of these hosts start so if there is nothing but the host and a port in their
authority. -/

namespace Blocklist.Filter

open Pattern Text Url

/-! ## Characters of the front -/

/-- What matches a character of a host is none of the marks around hosts. -/
theorem isHostChar_of_mem_foldCase_char {c x : Char} (hc : c.toNat < 128) (hx : Host.isHostChar x)
    (h : c ∈ CharSet.foldCase (.char x)) : Host.isHostChar c := by
  have heq := CharSet.toLower_eq_of_mem_foldCase_char hc (Host.toNat_lt_of_isHostChar hx) h
  rw [← Host.isHostChar_toLower, heq, Host.isHostChar_toLower, hx]

theorem not_mem_of_forall₂ {c : Char} (hc : c.toNat < 128) (hhost : ¬ Host.isHostChar c)
    {d domain : List Char} (hdomain : ∀ x ∈ domain, Host.isHostChar x)
    (h : List.Forall₂ (fun c x => c ∈ CharSet.foldCase (.char x)) d domain) : c ∉ d := by
  induction h with
  | nil => exact List.not_mem_nil
  | @cons a x as xs ha _ ih =>
    rw [List.mem_cons, not_or]
    refine ⟨?_, ih fun y hy => hdomain y (List.mem_cons_of_mem x hy)⟩
    rintro rfl
    exact hhost (isHostChar_of_mem_foldCase_char hc (hdomain x List.mem_cons_self) ha)

theorem spells_labels_iff {w : List Char} :
    Spells (.seq (.times (.set labelSet) 1 none) (letter '.')) w ↔
      ∃ l, l ≠ [] ∧ (∀ c ∈ l, c ∈ labelSet) ∧ w = l ++ ['.'] := by
  have hdot : ∀ {w : List Char}, Spells (letter '.') w ↔ w = ['.'] :=
    spells_letter_iff_eq (by decide) (by decide)
  simp only [spells_seq_iff, hdot, spells_times_set_iff]
  constructor
  · rintro ⟨l, _, rfl, ⟨hlen, hl⟩, rfl⟩
    exact ⟨l, List.ne_nil_of_length_pos hlen, hl, rfl⟩
  · rintro ⟨l, hne, hl, rfl⟩
    exact ⟨l, ['.'], rfl, ⟨List.length_pos_of_ne_nil hne, hl⟩, rfl⟩

/-- The words in front of the domain are empty, or a label, a dot, and another such word. -/
theorem spells_subdomainExpr_iff {w : List Char} :
    Spells subdomainExpr w ↔
      w = [] ∨ ∃ l v, l ≠ [] ∧ (∀ c ∈ l, c ∈ labelSet) ∧ w = l ++ '.' :: v ∧
        Spells subdomainExpr v := by
  have hallows : ∀ k, Allows 0 none k := fun k => ⟨Nat.zero_le k, fun _ h => by cases h⟩
  constructor
  · intro h
    obtain ⟨ws, -, hall, rfl⟩ := spells_times_iff.mp h
    cases ws with
    | nil => exact .inl rfl
    | cons v vs =>
      obtain ⟨l, hne, hl, rfl⟩ := spells_labels_iff.mp (hall v List.mem_cons_self)
      refine .inr ⟨l, vs.flatten, hne, hl, by simp, ?_⟩
      exact .times (hallows _) fun u hu => hall u (List.mem_cons_of_mem _ hu)
  · rintro (rfl | ⟨l, v, hne, hl, rfl, hv⟩)
    · exact spells_times_iff.mpr ⟨[], hallows _, by simp, rfl⟩
    · obtain ⟨vs, -, hall, rfl⟩ := spells_times_iff.mp hv
      refine spells_times_iff.mpr ⟨(l ++ ['.']) :: vs, hallows _, ?_, by simp⟩
      simpa using ⟨spells_labels_iff.mpr ⟨l, hne, hl, rfl⟩, hall⟩

theorem spells_portExpr_iff {w : List Char} :
    Spells portExpr w ↔ w = [] ∨ ∃ ds, ds ≠ [] ∧ (∀ c ∈ ds, c ∈ digitSet) ∧ w = ':' :: ds := by
  have hcolon : ∀ {w : List Char}, Spells (letter ':') w ↔ w = [':'] :=
    spells_letter_iff_eq (by decide) (by decide)
  rw [portExpr, spells_optional_iff, spells_seq_iff]
  simp only [hcolon, spells_times_set_iff]
  refine or_congr_right ⟨?_, ?_⟩
  · rintro ⟨_, ds, rfl, rfl, hlen, hds⟩
    exact ⟨ds, List.ne_nil_of_length_pos hlen, hds, rfl⟩
  · rintro ⟨ds, hne, hds, rfl⟩
    exact ⟨[':'], ds, rfl, rfl, List.length_pos_of_ne_nil hne, hds⟩

theorem getLast?_of_spells_subdomainExpr {w : List Char} (h : Spells subdomainExpr w) :
    w = [] ∨ w.getLast? = some '.' := by
  induction hn : w.length using Nat.strong_induction_on generalizing w with
  | _ n ih =>
    rcases spells_subdomainExpr_iff.mp h with rfl | ⟨l, v, -, -, rfl, hv⟩
    · exact .inl rfl
    · have hlt : v.length < n := by
        simp only [List.length_append, List.length_cons] at hn
        omega
      rcases ih v.length hlt hv rfl with rfl | hlast
      · simp
      · simp [List.getLast?_append, List.getLast?_cons, hlast]

theorem mem_digitSet_iff {c : Char} : c ∈ digitSet ↔ c.isDigit := by
  constructor
  · intro h
    obtain ⟨n, hn, hmem⟩ := CharSet.mem_foldCase_iff.mp h
    have hn' : n < 58 ∧ 48 ≤ n := by
      simp only [CharSet.contains, Bool.and_eq_true, decide_eq_true_eq] at hmem
      omega
    have hall : ∀ n < 58, 48 ≤ n → (Char.ofNat n).toNat = n ∧ (Char.ofNat n).isDigit ∧
        ¬ (Char.ofNat n).isAlpha := by
      decide
    obtain ⟨htoNat, hdigit, halpha⟩ := hall n hn'.1 hn'.2
    rw [← htoNat, ← CharSet.mem_foldCase_char_iff,
      CharSet.mem_foldCase_char_iff_eq (by omega) halpha] at hn
    rwa [hn]
  · intro h
    have hlt : c.toNat < 128 := by
      simp only [Char.isDigit, Bool.and_eq_true, decide_eq_true_eq] at h
      exact Nat.lt_of_le_of_lt (show c.toNat ≤ 57 from h.2) (by decide)
    exact forall_ascii (p := fun c => c.isDigit → c ∈ digitSet) (by decide +kernel) hlt h

theorem isPort_iff_spells {port : List Char} : IsPort port ↔ Spells portExpr port := by
  simp only [IsPort, spells_portExpr_iff, mem_digitSet_iff]

/-! ## From filters to hosts -/

/-- Where a domain is matched and the host is valid, the host ends with the domain. -/
theorem map_toLower_eq_of_forall₂ {d domain : List Char} (hd : ∀ c ∈ d, Host.isHostChar c)
    (hdomain : Host.IsNormal domain)
    (h : List.Forall₂ (fun c x => c ∈ CharSet.foldCase (.char x)) d domain) :
    d.map Char.toLower = domain := by
  have hchars := Host.isHostChar_of_isValid hdomain.valid
  rw [← hdomain.lower]
  clear hdomain
  induction h with
  | nil => rfl
  | @cons c x d domain hc _ ih =>
    have heq := CharSet.toLower_eq_of_mem_foldCase_char
      (Host.toNat_lt_of_isHostChar (hd c List.mem_cons_self))
      (Host.toNat_lt_of_isHostChar (hchars x List.mem_cons_self)) hc
    rw [List.map_cons, List.map_cons, heq, ih (fun c hc => hd c (List.mem_cons_of_mem _ hc))
      fun x hx => hchars x (List.mem_cons_of_mem _ hx)]

theorem getLast?_ne_of_forall₂ {d domain : List Char} (hdomain : Host.IsNormal domain)
    (h : List.Forall₂ (fun c x => c ∈ CharSet.foldCase (.char x)) d domain) :
    ∃ init c, d = init ++ [c] ∧ c ≠ '.' := by
  obtain ⟨xs, x, rfl⟩ := (List.eq_nil_or_concat' domain).resolve_left
    (Host.ne_nil_of_isValid hdomain.valid)
  rw [← List.forall₂_reverse_iff, List.reverse_append] at h
  obtain ⟨c, cs, hc, -, hrev⟩ := List.forall₂_cons_right_iff.mp h
  refine ⟨cs.reverse, c, by rw [← List.reverse_inj, hrev]; simp, ?_⟩
  rintro rfl
  have hx : Host.isHostChar x := Host.isHostChar_of_isValid hdomain.valid x (by simp)
  have heq :=
    CharSet.toLower_eq_of_mem_foldCase_char (by decide) (Host.toNat_lt_of_isHostChar hx) hc
  exact hdomain.last (by rw [(Host.toLower_eq_dot_iff x).mp heq.symm]; simp)

theorem not_mem_labels {c : Char} (hc : subdomainExpr.avoids c) {subdomains : Bool}
    {labels : List Char} (h : if subdomains then Spells subdomainExpr labels else labels = []) :
    c ∉ labels := by
  cases subdomains with
  | false =>
    obtain rfl : labels = [] := h
    exact List.not_mem_nil
  | true => exact not_mem_of_spells hc h

/-- The authority of a URL that starts as the filter of a domain asks for: the URL is cut at the
same places on both sides. -/
theorem exists_authority_of_hasFront {domain : List Char} (hdomain : Host.IsNormal domain)
    {subdomains : Bool} {url host scheme authority path : List Char}
    (hurl : IsResource url host scheme authority path) (h : HasFront domain subdomains url) :
    ∃ labels d port, authority = labels ++ d ++ port ∧ hostPart authority = labels ++ d ∧
      (if subdomains then Spells subdomainExpr labels else labels = []) ∧
      List.Forall₂ (fun c x => c ∈ CharSet.foldCase (.char x)) d domain ∧ Spells portExpr port := by
  obtain ⟨s₁, s₂, labels, d, port, rest, heq, hs₁, hs₂, hlabels, hd, hport⟩ := h
  have hchars := Host.isHostChar_of_isValid hdomain.valid
  -- Neither side has one of the marks that a URL is cut at, so the cuts are the same.
  have hfront : ∀ c ∈ ['/', '@', ':'], c ∉ labels ++ d := by
    have hmarks : ['/', '@', ':'].all fun c =>
        subdomainExpr.avoids c && (c.toNat < 128 && !Host.isHostChar c) := by decide +kernel
    intro c hc
    have hmark := List.all_eq_true.mp hmarks c hc
    simp only [Bool.and_eq_true, decide_eq_true_eq, Bool.not_eq_true'] at hmark
    obtain ⟨hlabel, hlt, hhost⟩ := hmark
    exact List.not_mem_append (not_mem_labels hlabel hlabels)
      (not_mem_of_forall₂ hlt (Bool.eq_false_iff.mp hhost) hchars hd)
  have hportMarks : ∀ c ∈ ['/', '@'], c ∉ port := fun c hc =>
    have havoids : ['/', '@'].all portExpr.avoids := by decide +kernel
    not_mem_of_spells (List.all_eq_true.mp havoids c hc) hport
  obtain ⟨s, hs⟩ := hurl.isScheme
  have hscheme : ':' ∉ s₁ ++ s₂ := List.not_mem_append
    (not_mem_of_spells (by decide +kernel) hs₁) (not_mem_of_spells (by decide +kernel) hs₂)
  obtain ⟨-, hafter⟩ := append_cons_inj (colon_not_mem_scheme hs) hscheme (hurl.eq.symm.trans heq)
  have hauthority : '/' ∉ authority := fun hmem => hurl.isAuthority '/' hmem (by decide)
  have hfrontPort : '/' ∉ labels ++ d ++ port :=
    List.not_mem_append (hfront '/' (by simp)) (hportMarks '/' (by simp))
  obtain ⟨rfl, -⟩ := append_cons_inj hauthority hfrontPort (by simpa using hafter)
  refine ⟨labels, d, port, rfl, ?_, hlabels, hd, hport⟩
  refine hostPart_eq (List.not_mem_append (hfront '@' (by simp)) (hportMarks '@' (by simp)))
    (hfront ':' (by simp)) ?_
  exact (spells_portExpr_iff.mp hport).imp_right fun ⟨ds, _, _, h⟩ => ⟨ds, h⟩

/-- A URL that starts as the filter of a domain asks for has nothing but a host and a port in its
authority, and the host is the domain or, where subdomains share the filter, a subdomain. -/
theorem host_of_hasFront {domain : List Char} (hdomain : Host.IsNormal domain) {subdomains : Bool}
    {url host scheme authority path : List Char}
    (hurl : IsResource url host scheme authority path) (h : HasFront domain subdomains url) :
    IsPlainAuthority host authority ∧ Host.coversChars domain host ∧
      (subdomains = false → host = domain) := by
  obtain ⟨labels, d, port, rfl, hpart, hlabels, hd, hport⟩ :=
    exists_authority_of_hasFront hdomain hurl h
  obtain ⟨init, c, hinit, hc⟩ := getLast?_ne_of_forall₂ hdomain hd
  have hdrop : dropEndWhile (· == '.') (labels ++ d) = labels ++ d :=
    dropEndWhile_eq_self fun c' hc' hdot => hc (by
      rw [hinit] at hc'
      obtain rfl : c = c' := by simpa using hc'
      simpa using hdot)
  have hhost := hurl.hasHost
  rw [hostOfAuthority?, hpart, hdrop] at hhost
  obtain ⟨hvalid, heq⟩ := Option.ite_none_right_eq_some.mp hhost
  obtain rfl := Option.some.inj heq
  have hlower := map_toLower_eq_of_forall₂ (fun c hc =>
    Host.isHostChar_of_isValid hvalid c (List.mem_append_right labels hc)) hdomain hd
  refine ⟨⟨port, ?_, isPort_iff_spells.mpr hport⟩, Host.coversChars_iff.mpr ?_, ?_⟩
  · rw [List.map_append, map_toLower_eq_self (isPort_iff_spells.mpr hport).not_isAlpha]
  · rw [List.map_append, hlower]
    cases subdomains with
    | false =>
      obtain rfl : labels = [] := hlabels
      exact .inl rfl
    | true =>
      refine (getLast?_of_spells_subdomainExpr hlabels).imp (fun h => by rw [h]; rfl) fun h => ?_
      obtain ⟨init, rfl⟩ := List.getLast?_eq_some_iff.mp h
      exact ⟨init.map Char.toLower, by simp [show Char.toLower '.' = '.' from rfl]⟩
  · rintro rfl
    obtain rfl : labels = [] := hlabels
    exact hlower

/-! ## From hosts to filters -/

theorem mem_labelSet {c : Char} (hc : Host.isHostChar c) (hdot : c ≠ '.') : c ∈ labelSet :=
  forall_ascii (p := fun c => Host.isHostChar c → c ≠ '.' → c ∈ labelSet) (by decide +kernel)
    (Host.toNat_lt_of_isHostChar hc) hc hdot

theorem spells_subdomainExpr_of_chars {labels : List Char}
    (hchars : ∀ c ∈ labels, Host.isHostChar c)
    (hempty : ¬ ['.', '.'] <:+: labels) (hhead : labels.head? ≠ some '.')
    (hlast : labels = [] ∨ labels.getLast? = some '.') : Spells subdomainExpr labels := by
  induction hn : labels.length using Nat.strong_induction_on generalizing labels with
  | _ n ih =>
    rcases hlast with rfl | hlast
    · exact spells_subdomainExpr_iff.mpr (.inl rfl)
    -- The first label is split off, and what follows its dot is again such a text.
    · obtain ⟨l, v, rfl, hdot⟩ := List.eq_append_cons_of_mem (List.mem_of_getLast? hlast)
      have hl : l ≠ [] := by
        rintro rfl
        exact hhead rfl
      have hset : ∀ c ∈ l, c ∈ labelSet := fun c hc =>
        mem_labelSet (hchars c (List.mem_append_left _ hc)) fun h => hdot (h ▸ hc)
      refine spells_subdomainExpr_iff.mpr (.inr ⟨l, v, hl, hset, rfl, ?_⟩)
      have hlt : v.length < n := by
        simp only [List.length_append, List.length_cons] at hn
        omega
      refine ih v.length hlt (fun c hc => hchars c (by simp [hc])) (fun h => hempty ?_) ?_ ?_ rfl
      · exact h.trans ⟨l ++ ['.'], [], by simp⟩
      · intro h
        obtain ⟨v', rfl⟩ := List.head?_eq_some_iff.mp h
        exact hempty ⟨l, v', by simp⟩
      · cases v with
        | nil => exact .inl rfl
        | cons c v => exact .inr (by simpa [List.getLast?_append, List.getLast?_cons] using hlast)

/-- The labels in front of a domain in a valid host. -/
theorem spells_subdomainExpr_of_isValid {labels d : List Char} (hvalid : Host.isValid (labels ++ d))
    (hlast : labels = [] ∨ labels.getLast? = some '.') : Spells subdomainExpr labels := by
  have hchars := Host.isHostChar_of_isValid hvalid
  refine spells_subdomainExpr_of_chars (fun c hc => hchars c (List.mem_append_left d hc))
    (fun h => ?_) (fun h => Host.head?_ne_of_isValid hvalid ?_) hlast
  · have hempty := Host.hasEmptyLabel_iff.mpr (h.trans (List.prefix_append labels d).isInfix)
    rw [Host.hasEmptyLabel_of_isValid hvalid] at hempty
    cases hempty
  · rw [List.head?_append, h]
    rfl

/-- A host in any letter case is cut into labels and the domain that covers it. -/
theorem exists_labels_of_coversChars {domain name : List Char}
    (h : Host.coversChars domain (name.map Char.toLower)) :
    ∃ labels d, name = labels ++ d ∧ (labels = [] ∨ labels.getLast? = some '.') ∧
      d.map Char.toLower = domain := by
  rcases Host.coversChars_iff.mp h with heq | ⟨init, heq⟩
  · exact ⟨[], name, rfl, .inl rfl, heq⟩
  · obtain ⟨before, d', rfl, -, hd'⟩ := List.map_eq_append_iff.mp heq.symm
    obtain ⟨c, d, rfl, hc, hd⟩ := List.map_eq_cons_iff.mp hd'
    obtain rfl := (Host.toLower_eq_dot_iff c).mp hc
    exact ⟨before ++ ['.'], d, by simp, .inr (by simp), hd⟩

theorem forall₂_of_map_toLower_eq {d domain : List Char} (h : d.map Char.toLower = domain)
    (hdomain : ∀ c ∈ domain, c.toNat < 128) :
    List.Forall₂ (fun c x => c ∈ CharSet.foldCase (.char x)) d domain := by
  subst h
  rw [List.forall₂_map_right_iff, List.forall₂_same]
  exact fun c hc => CharSet.mem_foldCase_char_toLower
    (toNat_lt_of_toLower (hdomain _ (List.mem_map_of_mem hc)))

theorem spells_foldr_letters {w domain : List Char} (h : w.map Char.toLower = domain)
    (hdomain : ∀ c ∈ domain, c.toNat < 128) {e : Expr} {v : List Char} (hv : Spells e v) :
    Spells ((domain.map letter).foldr Expr.seq e) (w ++ v) :=
  spells_foldr_letters_iff.mpr ⟨w, v, rfl, forall₂_of_map_toLower_eq h hdomain, hv⟩

theorem spells_scheme {scheme : List Char} {s : Scheme}
    (h : scheme.map Char.toLower = s.name.toList) :
    ∃ s₁ s₂, scheme = s₁ ++ s₂ ∧ Spells httpExpr s₁ ∧ Spells wsExpr s₂ := by
  have hnone : ∀ {e : Expr}, Spells (.times e 0 (some 1)) [] := spells_optional_iff.mpr (.inl rfl)
  have hs : ∀ {w : List Char}, w.map Char.toLower = ['s'] →
      Spells (.times (letter 's') 0 (some 1)) w := fun hw => by
    obtain _ | ⟨hc, _ | _⟩ := forall₂_of_map_toLower_eq hw (by simp)
    exact spells_optional_iff.mpr (.inr (spells_letter_iff.mpr ⟨_, hc, rfl⟩))
  have hhttp : ∀ {w v : List Char}, w.map Char.toLower = ['h', 't', 't', 'p'] →
      Spells (.times (letter 's') 0 (some 1)) v → Spells httpExpr (w ++ v) := fun hw hv =>
    spells_optional_iff.mpr (.inr (spells_foldr_letters hw (by simp) hv))
  have hws : ∀ {w v : List Char}, w.map Char.toLower = ['w', 's'] →
      Spells (.times (letter 's') 0 (some 1)) v → Spells wsExpr (w ++ v) := fun hw hv =>
    spells_optional_iff.mpr (.inr (spells_foldr_letters hw (by simp) hv))
  cases s with
  | http => exact ⟨scheme, [], by simp, by simpa using hhttp h hnone, hnone⟩
  | https =>
    obtain ⟨w, v, rfl, hw, hv⟩ := List.map_eq_append_iff.mp
      (show scheme.map Char.toLower = ['h', 't', 't', 'p'] ++ ['s'] from h)
    exact ⟨w ++ v, [], by simp, hhttp hw (hs hv), hnone⟩
  | ws => exact ⟨[], scheme, rfl, hnone, by simpa using hws h hnone⟩
  | wss =>
    obtain ⟨w, v, rfl, hw, hv⟩ := List.map_eq_append_iff.mp
      (show scheme.map Char.toLower = ['w', 's'] ++ ['s'] from h)
    exact ⟨[], w ++ v, rfl, hnone, hws hw (hs hv)⟩

/-- A URL starts as the filter of a domain and its subdomains asks for exactly if the domain covers
its host and nothing but the host and a port is in its authority. -/
theorem hasFront_iff {domain : List Char} (hdomain : Host.IsNormal domain)
    {url host scheme authority path : List Char}
    (hurl : IsResource url host scheme authority path) :
    HasFront domain true url ↔ Host.coversChars domain host ∧ IsPlainAuthority host authority := by
  constructor
  · intro h
    obtain ⟨hplain, hcovers, -⟩ := host_of_hasFront hdomain hurl h
    exact ⟨hcovers, hplain⟩
  · rintro ⟨hcovers, port, hauthority, hport⟩
    obtain ⟨s, hs⟩ := hurl.isScheme
    obtain ⟨s₁, s₂, hscheme, hs₁, hs₂⟩ := spells_scheme hs
    obtain ⟨name, port', rfl, rfl, hport'⟩ := List.map_eq_append_iff.mp hauthority
    obtain rfl := hport.eq_of_map_toLower_eq hport'
    obtain ⟨labels, d, rfl, hlast, hd⟩ := exists_labels_of_coversChars hcovers
    have hvalid := hurl.isValid_host
    rw [Host.isValid_map_toLower] at hvalid
    refine ⟨s₁, s₂, labels, d, port', path, ?_, hs₁, hs₂,
      spells_subdomainExpr_of_isValid hvalid hlast, ?_, isPort_iff_spells.mp hport⟩
    · rw [hurl.eq, hscheme]
    · exact forall₂_of_map_toLower_eq hd fun c hc =>
        Host.toNat_lt_of_isHostChar (Host.isHostChar_of_isValid hdomain.valid c hc)

/-! ## Compiled filters -/

theorem toList_scope (domain : String) :
    (scope domain).toList = urlFilterChars domain.toList [] true := by
  simp [scope]

variable [SizeLimit]

/-- Whether a filter can be compiled and matches a URL. -/
def isMatch (filter url : String) : Bool :=
  (compile filter).toOption.any (·.isMatch url)

theorem isMatch_iff {filter url : String} :
    isMatch filter url ↔
      ∃ p, compileChars filter.toList .filter = .ok p ∧ p.expr.occursIn url.toList := by
  rw [isMatch, compile, Pattern.compile]
  cases compileChars filter.toList .filter <;> simp [Except.toOption, Pattern.isMatch]

variable {domain : String} {text : String} {resource : Resource}

/-- The filter of a domain matches only URLs with nothing but the host and a port in their
authority, and only if the domain covers the host. -/
theorem covers_of_isMatch (hdomain : Host.IsNormal domain.toList)
    (hresource : normalize? text = some resource) {pattern : String} {subdomains : Bool}
    (hclear : IsClear (dropSlash pattern.toList)) (hkeeps : keepsSlash (dropSlash pattern.toList))
    (h : isMatch (urlFilter domain pattern subdomains) resource.url) :
    resource.IsPlain ∧ Host.covers domain resource.host := by
  obtain ⟨scheme, authority, path, hurl⟩ := exists_isResource_of_normalize? hresource
  obtain ⟨p, hp, hmatch⟩ := isMatch_iff.mp h
  rw [toList_urlFilter] at hp
  have hfront := hasFront_of_occursIn (Host.ne_nil_of_isValid hdomain.valid)
    (Host.isHostChar_of_isValid hdomain.valid) hclear hkeeps hp hmatch
  obtain ⟨hplain, hcovers, -⟩ := host_of_hasFront hdomain hurl hfront
  exact ⟨hurl.isPlain_iff.mpr hplain, hcovers⟩

/-- The filter for a domain and its subdomains can be compiled, unless a matcher for it is too
large. -/
theorem exists_compile_scope (hdomain : Host.IsNormal domain.toList)
    (hsize : compile (scope domain) ≠ .error .tooLarge) : ∃ p, compile (scope domain) = .ok p := by
  rw [compile, Pattern.compile, toList_scope] at hsize ⊢
  exact exists_of_compileChars_hostFilter (Host.ne_nil_of_isValid hdomain.valid)
    (Host.isHostChar_of_isValid hdomain.valid) hsize

/-- The filter for a domain and its subdomains matches all such URLs, unless a matcher for it is too
large. -/
theorem isMatch_scope_iff (hdomain : Host.IsNormal domain.toList)
    (hresource : normalize? text = some resource)
    (hsize : compile (scope domain) ≠ .error .tooLarge) :
    isMatch (scope domain) resource.url ↔
      resource.IsPlain ∧ Host.covers domain resource.host := by
  obtain ⟨scheme, authority, path, hurl⟩ := exists_isResource_of_normalize? hresource
  have hne := Host.ne_nil_of_isValid hdomain.valid
  have hchars := Host.isHostChar_of_isValid hdomain.valid
  obtain ⟨p, hp⟩ := exists_compile_scope hdomain hsize
  rw [compile, Pattern.compile, toList_scope] at hp
  rw [isMatch_iff, toList_scope, hurl.isPlain_iff, and_comm, Host.covers,
    ← hasFront_iff hdomain hurl, ← occursIn_hostFilter_iff hne hchars hp]
  constructor
  · rintro ⟨q, hq, hmatch⟩
    rw [hp] at hq
    rwa [Except.ok.inj hq]
  · exact fun hmatch => ⟨p, hp, hmatch⟩

end Blocklist.Filter
