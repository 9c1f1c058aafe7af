import Blocklist.Proofs.Text.Offsets
import Blocklist.Proofs.Url.Grammar
import Blocklist.Proofs.Url.LetterCase

/-! # URLs by byte offsets

The parts of a URL as a search among its bytes finds them. Every offset that is found is the
boundary of a character, and the parts are those of the URL as a text. Main statements:
`Bytewise.normalize?_eq` and `exists_isSpanWithin`. -/

namespace Blocklist.Url

open Text

/-- The spelling of a scheme with `://`. -/
def Scheme.mark (s : Scheme) : List Char :=
  s.name.toList ++ [':', '/', '/']

namespace Bytewise

/-- The offset behind the first `:` and two slashes, if these follow it. -/
def schemeEnd? (url : List Char) : Except OffsetError (Option Nat) := do
  let bytes := encode url
  match bytes.findIdx? (· == ':'.toUInt8) with
  | none => return none
  | some colon =>
    if bytes.length ≤ colon + 2 then return none
    else
      let first ← itemAt bytes (colon + 1)
      let second ← itemAt bytes (colon + 2)
      return if first == '/'.toUInt8 && second == '/'.toUInt8 then some (colon + 3) else none

def endsAuthority (b : UInt8) : Bool :=
  b == '/'.toUInt8 || b == '?'.toUInt8 || b == '#'.toUInt8

/-- The offset at which the authority ends that starts at an offset. -/
def authorityEnd (url : List Char) (start : Nat) : Except OffsetError Nat := do
  let bytes := encode url
  let tail ← itemsBetween bytes start bytes.length
  return (tail.findIdx? endsAuthority).elim bytes.length (start + ·)

/-- The offsets at which the host starts and ends in an authority between two offsets. -/
def hostIn (bytes : List UInt8) (start stop : Nat) : Except OffsetError (Nat × Nat) := do
  let authority ← itemsBetween bytes start stop
  let hostStart := (lastIdx? (· == '@'.toUInt8) authority).elim start (start + · + 1)
  let host ← itemsBetween bytes hostStart stop
  return (hostStart, (host.findIdx? (· == ':'.toUInt8)).elim stop (hostStart + ·))

/-- The offsets at which the host starts and ends. -/
def hostSpan? (url : List Char) : Except OffsetError (Option (Nat × Nat)) := do
  match ← schemeEnd? url with
  | none => return none
  | some start => return some (← hostIn (encode url) start (← authorityEnd url start))

/-- The host as it is written in a URL. -/
def rawHostChars? (url : List Char) : Except OffsetError (Option (List Char)) := do
  match ← hostSpan? url with
  | none => return none
  | some (i, j) => return some (← textBetween url i j)

/-- The host as it is written in a URL. -/
def rawHost? (url : String) : Except OffsetError (Option String) := do
  return (← rawHostChars? url.toList).map String.ofList

/-- The host of a URL of any scheme, in lower case and without trailing dots, if it is valid. -/
def hostChars? (url : List Char) : Except OffsetError (Option (List Char)) := do
  match ← rawHostChars? (trimChars url) with
  | none => return none
  | some written =>
    let host := dropEndWhile (· == '.') written
    return if Host.isValid host then some (host.map Char.toLower) else none

/-- The host of a URL of any scheme, in lower case and without trailing dots, if it is valid. -/
def host? (url : String) : Except OffsetError (Option String) := do
  return (← hostChars? url.toList).map String.ofList

/-- The lower-case form of a byte. -/
def lower (b : UInt8) : UInt8 :=
  if 'A'.toUInt8 ≤ b && b ≤ 'Z'.toUInt8 then b + 32 else b

/-- Whether bytes start with a scheme and `://`. There must be as many. -/
def opens (s : Scheme) (bytes : List UInt8) : Except OffsetError Bool := do
  let start ← itemsBetween bytes 0 s.mark.length
  return start.map lower == encode s.mark

def opensIfLong (s : Scheme) (bytes : List UInt8) : Except OffsetError Bool :=
  if bytes.length < s.mark.length then return false else opens s bytes

/-- The web scheme that a URL starts with. The first letter tells which ones are tried. -/
def scheme? (url : List Char) : Except OffsetError (Option Scheme) := do
  let bytes := encode url
  if bytes.length < 5 then return none
  else
    let first ← itemAt bytes 0
    if first ||| 32 == 'h'.toUInt8 then
      if ← opensIfLong .https bytes then return some .https
      else if ← opensIfLong .http bytes then return some .http
      else return none
    else if first ||| 32 == 'w'.toUInt8 then
      if ← opensIfLong .wss bytes then return some .wss
      else if ← opens .ws bytes then return some .ws
      else return none
    else return none

/-- A URL with a slash at the offset at which its authority ends. -/
def withSlashAt (url : List Char) (stop : Nat) : Except OffsetError (List Char) :=
  if (encode url)[stop]? = some '/'.toUInt8 then return url else insertAt url stop '/'

/-- The URL of a resource in the form that URL filters are matched against, and its host. -/
def normalizeChars? (resource : List Char) :
    Except OffsetError (Option (List Char × List Char)) := do
  let url := withScheme (trimChars resource)
  match ← scheme? url with
  | none => return none
  | some _ =>
    match ← hostChars? url with
    | none => return none
    | some host =>
      match ← schemeEnd? url with
      | none => return none
      | some start =>
        let stop ← authorityEnd url start
        return some (← withSlashAt url stop, host)

/-- The URL of a resource in the form that URL filters are matched against, and its host. -/
def normalize? (resource : String) : Except OffsetError (Option Resource) := do
  return (← normalizeChars? resource.toList).map fun (url, host) =>
    ⟨String.ofList url, String.ofList host⟩

end Bytewise

/-! ## Schemes -/

theorem lower_toUInt8 {c : Char} (hc : c.toNat < 128) :
    Bytewise.lower c.toUInt8 = c.toLower.toUInt8 :=
  forall_ascii (p := fun c => Bytewise.lower c.toUInt8 = c.toLower.toUInt8) (by decide +kernel) hc

theorem toNat_toLower_lt {c : Char} (hc : c.toNat < 128) : c.toLower.toNat < 128 :=
  forall_ascii (p := fun c => c.toLower.toNat < 128) (by decide +kernel) hc

theorem toNat_lt_of_lower {b : UInt8} (h : (Bytewise.lower b).toNat < 128) : b.toNat < 128 := by
  unfold Bytewise.lower at h
  split at h
  · rename_i hletter
    have hle : b ≤ 'Z'.toUInt8 := of_decide_eq_true (Bool.and_eq_true_iff.mp hletter).2
    exact Nat.lt_of_le_of_lt (UInt8.le_iff_toNat_le.mp hle) (by decide)
  · exact h

/-- Bytes in lower case are those of an ASCII text exactly if the characters in lower case are that
text. -/
theorem map_lower_take_encode_iff {mark : List Char} (hmark : ∀ d ∈ mark, d.toNat < 128)
    (cs : List Char) :
    ((encode cs).take mark.length).map Bytewise.lower = encode mark ↔
      (cs.take mark.length).map Char.toLower = mark := by
  induction mark generalizing cs with
  | nil => simp
  | cons d mark ih =>
    obtain ⟨hd, hmark⟩ := List.forall_mem_cons.mp hmark
    cases cs with
    | nil => simp [utf8EncodeChar_of_ascii hd]
    | cons c cs =>
      rw [encode_cons, encode_cons, utf8EncodeChar_of_ascii hd, List.singleton_append,
        List.length_cons, List.take_succ_cons, List.map_cons, List.cons.injEq]
      by_cases hc : c.toNat < 128
      · rw [utf8EncodeChar_of_ascii hc, List.singleton_append, List.take_succ_cons, List.map_cons,
          List.cons.injEq, ih hmark, lower_toUInt8 hc, toUInt8_inj (toNat_toLower_lt hc) hd]
      · obtain ⟨b, bs, heq⟩ := exists_utf8EncodeChar_eq_cons c
        have hmem : b ∈ String.utf8EncodeChar c := by simp [heq]
        have hb : 128 ≤ b.toNat := by
          by_contra hb
          have := toNat_eq_of_mem_utf8EncodeChar hmem (Nat.not_le.mp hb)
          omega
        have hbyte : Bytewise.lower b ≠ d.toUInt8 := fun h => by
          have := toNat_lt_of_lower (by rw [h, toNat_toUInt8 hd]; exact hd)
          omega
        have hchar : c.toLower ≠ d := fun h => hc (toNat_lt_of_toLower (h ▸ hd))
        rw [heq, List.cons_append, List.take_succ_cons, List.map_cons, List.cons.injEq]
        simp [hbyte, hchar]

theorem toNat_lt_of_mem_mark (s : Scheme) : ∀ d ∈ s.mark, d.toNat < 128 := by
  cases s <;> simp [Scheme.mark, Scheme.name]

theorem opens_iff (s : Scheme) (url : List Char) :
    s.opens url ↔ ((encode url).take s.mark.length).map Bytewise.lower = encode s.mark := by
  rw [map_lower_take_encode_iff (toNat_lt_of_mem_mark s)]
  exact beq_iff_eq

theorem Bytewise.opens_eq {s : Scheme} {url : List Char} (h : s.mark.length ≤ (encode url).length) :
    Bytewise.opens s (encode url) = pure (s.opens url) := by
  have hstart : itemsBetween (encode url) 0 s.mark.length =
      pure ((encode url).take s.mark.length) := by
    rw [itemsBetween, if_neg (Nat.not_lt.mpr h), if_neg (Nat.not_lt_zero _)]
    rfl
  rw [Bytewise.opens, hstart, pure_bind]
  congr 1
  rw [Bool.eq_iff_iff, opens_iff, beq_iff_eq]

/-- The letter that a scheme starts with, as a byte. -/
def Scheme.initial : Scheme → UInt8
  | .http | .https => 'h'.toUInt8
  | .ws | .wss => 'w'.toUInt8

theorem exists_encode_mark_eq (s : Scheme) :
    ∃ bytes, encode s.mark = s.initial :: bytes ∧ bytes.length + 1 = s.mark.length :=
  ⟨(encode s.mark).tail, by cases s <;> decide, by cases s <;> decide⟩

/-- A letter in lower case has the bit that tells lower case. -/
theorem or_eq_of_lower_eq {b : UInt8} {s : Scheme} (h : Bytewise.lower b = s.initial) :
    b ||| 32 = s.initial := by
  unfold Bytewise.lower at h
  split at h
  · have hb : b = s.initial - 32 := by rw [← h, UInt8.add_sub_cancel]
    rw [hb]
    cases s <;> decide
  · rw [h]
    cases s <;> decide

theorem exists_cons_of_opens {s : Scheme} {url : List Char} (h : s.opens url) :
    s.mark.length ≤ (encode url).length ∧
      ∃ b bytes, encode url = b :: bytes ∧ b ||| 32 = s.initial := by
  obtain ⟨marks, hmark, hlength⟩ := exists_encode_mark_eq s
  rw [opens_iff, hmark] at h
  have hle := congrArg List.length h
  rw [List.length_map, List.length_take, List.length_cons, hlength] at hle
  refine ⟨by omega, ?_⟩
  cases hbytes : encode url with
  | nil => simp [hbytes] at h
  | cons b bytes =>
    rw [hbytes, ← hlength, List.take_succ_cons, List.map_cons, List.cons.injEq] at h
    exact ⟨b, bytes, rfl, or_eq_of_lower_eq h.1⟩

theorem Bytewise.opensIfLong_eq (s : Scheme) (url : List Char) :
    Bytewise.opensIfLong s (encode url) = pure (s.opens url) := by
  unfold Bytewise.opensIfLong
  split
  · rename_i hshort
    have hnot : s.opens url = false := by
      rw [Bool.eq_false_iff]
      intro h
      exact Nat.not_le.mpr hshort (exists_cons_of_opens h).1
    rw [hnot]
  · rename_i hlong
    exact Bytewise.opens_eq (Nat.not_lt.mp hlong)

theorem opens_eq_false_of_or_ne {s : Scheme} {url : List Char} {b : UInt8} {bytes : List UInt8}
    (hbytes : encode url = b :: bytes) (hb : b ||| 32 ≠ s.initial) : s.opens url = false := by
  rw [Bool.eq_false_iff]
  intro h
  obtain ⟨-, b', bytes', heq, hb'⟩ := exists_cons_of_opens h
  rw [hbytes, List.cons.injEq] at heq
  exact hb (heq.1 ▸ hb')

theorem schemeChars?_eq_none_of_length_lt {url : List Char} (h : (encode url).length < 5) :
    schemeChars? url = none := by
  refine List.find?_eq_none.mpr fun s _ hopens => ?_
  have hmark : 5 ≤ s.mark.length := by cases s <;> decide
  have hlong := (exists_cons_of_opens hopens).1
  omega

theorem Bytewise.scheme?_eq (url : List Char) :
    Bytewise.scheme? url = pure (schemeChars? url) := by
  simp only [Bytewise.scheme?]
  split
  · rename_i hshort
    rw [schemeChars?_eq_none_of_length_lt hshort]
  · rename_i hlong
    rw [Nat.not_lt] at hlong
    have hws : Bytewise.opens .ws (encode url) = pure (Scheme.opens .ws url) :=
      Bytewise.opens_eq hlong
    obtain ⟨b, bytes, hbytes⟩ : ∃ b bytes, encode url = b :: bytes :=
      List.exists_cons_of_length_pos (by omega)
    have hfirst : itemAt (encode url) 0 = pure b := by rw [hbytes]; rfl
    have hother : ∀ s : Scheme, b ||| 32 ≠ s.initial → s.opens url = false :=
      fun s => opens_eq_false_of_or_ne hbytes
    simp only [hfirst, pure_bind, Bytewise.opensIfLong_eq, hws, schemeChars?, Scheme.all,
      List.find?_cons, List.find?_nil]
    by_cases hh : b ||| 32 = 'h'.toUInt8
    · have hwss := hother .wss (by rw [hh]; decide)
      have hws := hother .ws (by rw [hh]; decide)
      rw [if_pos (beq_iff_eq.mpr hh), hwss, hws]
      cases Scheme.opens .https url <;> cases Scheme.opens .http url <;> rfl
    · rw [if_neg (mt beq_iff_eq.mp hh), hother .https hh, hother .http hh]
      by_cases hw : b ||| 32 = 'w'.toUInt8
      · rw [if_pos (beq_iff_eq.mpr hw)]
        cases Scheme.opens .wss url <;> cases Scheme.opens .ws url <;> rfl
      · rw [if_neg (mt beq_iff_eq.mp hw), hother .wss hw, hother .ws hw]

/-! ## Authorities -/

/-- Two bytes behind a place are read only if both are there. -/
theorem readTwo_eq (bytes after : List UInt8) (b slash : UInt8) (n : Nat) :
    (if (bytes ++ b :: after).length ≤ bytes.length + 2 then return none
      else do
        let first ← itemAt (bytes ++ b :: after) (bytes.length + 1)
        let second ← itemAt (bytes ++ b :: after) (bytes.length + 2)
        return if first == slash && second == slash then some n else none) =
      (pure (if [slash, slash].isPrefixOf after then some n else none) :
        Except OffsetError (Option Nat)) := by
  rcases after with _ | ⟨b₁, _ | ⟨b₂, after⟩⟩
  · simp
  · simp
  · have hfirst : itemAt (bytes ++ b :: b₁ :: b₂ :: after) (bytes.length + 1) = pure b₁ := by
      simp [itemAt]
      rfl
    have hsecond : itemAt (bytes ++ b :: b₁ :: b₂ :: after) (bytes.length + 2) = pure b₂ := by
      simp [itemAt]
      rfl
    have hlength : ¬(bytes ++ b :: b₁ :: b₂ :: after).length ≤ bytes.length + 2 := by simp
    rw [if_neg hlength, hfirst, hsecond, pure_bind, pure_bind, List.isPrefixOf, List.isPrefixOf,
      List.isPrefixOf, Bool.and_true, Bool.beq_comm, Bool.beq_comm (a := b₂)]

theorem slashes_isPrefixOf_encode (cs : List Char) :
    ['/'.toUInt8, '/'.toUInt8].isPrefixOf (encode cs) = ['/', '/'].isPrefixOf cs := by
  have hascii : ∀ d ∈ ['/', '/'], d.toNat < 128 := by simp
  rw [Bool.eq_iff_iff, List.isPrefixOf_iff_prefix, List.isPrefixOf_iff_prefix]
  exact encode_prefix_encode_iff hascii

theorem Bytewise.schemeEnd?_eq (url : List Char) :
    Bytewise.schemeEnd? url = pure ((cutUrl? url).map (utf8Length ·.before)) := by
  rw [cutUrl?, cutScheme?_eq, Option.map_map]
  by_cases hcolon : ':' ∈ url
  case pos =>
    obtain ⟨before, after, rfl, hbefore⟩ := List.eq_append_cons_of_mem hcolon
    have hbyte : String.utf8EncodeChar ':' = [':'.toUInt8] := utf8EncodeChar_of_ascii (by decide)
    have hfind := findIdx?_byte_append (by decide) hbefore after
    simp only [Bytewise.schemeEnd?, hfind]
    rw [encode_append, encode_cons, hbyte, List.singleton_append, ← length_encode, readTwo_eq,
      slashes_isPrefixOf_encode, cut?_append hbefore, Option.bind_some]
    split
    · have hmark : utf8Length (before ++ [':', '/', '/']) = (encode before).length + 3 := by
        rw [utf8Length_append, length_encode]
        rfl
      rw [Option.map_some, Function.comp_apply, hmark]
    · rfl
  case neg =>
    have hnone := findIdx?_byte_eq_none (by decide) hcolon
    simp only [Bytewise.schemeEnd?, hnone, cut?_of_not_mem hcolon]
    rfl

theorem eq_append_of_cutUrl? {url : List Char} {cut : Cut} (h : cutUrl? url = some cut) :
    url = cut.before ++ (cut.authority ++ cut.rest) ∧
      cut.authority = (cut.authority ++ cut.rest).takeWhile (!endsAuthority ·) := by
  rw [cutUrl?, cutScheme?_eq] at h
  obtain ⟨⟨before, after⟩, hscheme, rfl⟩ := Option.map_eq_some_iff.mp h
  obtain ⟨⟨scheme, rest⟩, hcut, hrest⟩ := Option.bind_eq_some_iff.mp hscheme
  obtain ⟨hslashes, heq⟩ := Option.ite_none_right_eq_some.mp hrest
  obtain ⟨after', rfl⟩ := List.isPrefixOf_iff_prefix.mp hslashes
  obtain ⟨rfl, rfl⟩ := Prod.mk.inj (Option.some.inj heq)
  rw [eq_append_of_cut? hcut, List.takeWhile_append_dropWhile]
  simp

theorem finds_endsAuthority : Finds Bytewise.endsAuthority endsAuthority :=
  ((finds_char (by decide)).or (finds_char (by decide))).or (finds_char (by decide))

theorem Bytewise.authorityEnd_eq {url : List Char} {cut : Cut} (h : cutUrl? url = some cut) :
    Bytewise.authorityEnd url (utf8Length cut.before) =
      pure (utf8Length cut.before + utf8Length cut.authority) := by
  obtain ⟨heq, hauthority⟩ := eq_append_of_cutUrl? h
  have hlength : (encode url).length =
      utf8Length cut.before + utf8Length (cut.authority ++ cut.rest) := by
    rw [length_encode, heq, utf8Length_append]
  have hparts : url = cut.before ++ (cut.authority ++ cut.rest ++ []) := by
    rw [List.append_nil, heq]
  simp only [Bytewise.authorityEnd, itemsBetween_encode hparts rfl hlength, pure_bind]
  rw [hlength, finds_endsAuthority.elim_findIdx?, ← hauthority]

/-! ## Hosts -/

theorem userInfo_append {user tail : List Char} (huser : user = [] ∨ ∃ name, user = name ++ ['@'])
    (htail : '@' ∉ tail) : userInfo (user ++ tail) = user := by
  have hpos : ∀ c ∈ tail.reverse, c != '@' :=
    List.takeWhile_eq_self_iff.mp (takeWhile_reverse_of_not_mem htail)
  rw [userInfo, List.reverse_append, List.dropWhile_append_of_pos hpos]
  rcases huser with rfl | ⟨name, rfl⟩ <;> simp

/-- The host stands behind the user, up to the next colon. -/
theorem exists_eq_userInfo_append (authority : List Char) :
    ∃ tail, authority = userInfo authority ++ tail ∧
      hostPart authority = tail.takeWhile (· != ':') := by
  obtain ⟨user, tail, rfl, huser, htail⟩ := exists_user authority
  refine ⟨tail, ?_, ?_⟩
  · rw [userInfo_append huser htail]
  · rw [hostPart_append huser htail, hostPart_of_not_mem htail]

/-- The last `@` among the bytes of an authority is where the user ends. -/
theorem elim_lastIdx? (authority : List Char) (n : Nat) :
    (lastIdx? (· == '@'.toUInt8) (encode authority)).elim n (n + · + 1) =
      n + utf8Length (userInfo authority) := by
  have hfinds : Finds (· == '@'.toUInt8) (· == '@') := finds_char (by decide)
  obtain ⟨user, tail, rfl, huser, htail⟩ := exists_user authority
  have hbytes : ∀ b ∈ encode tail, ¬b == '@'.toUInt8 :=
    hfinds.not_mem_encode (not_beq_of_not_mem htail)
  rw [userInfo_append huser htail, encode_append]
  rcases huser with rfl | ⟨name, rfl⟩
  · rw [encode_nil, List.nil_append, lastIdx?_eq_none hbytes]
    rfl
  · have hbyte : String.utf8EncodeChar '@' = ['@'.toUInt8] := utf8EncodeChar_of_ascii (by decide)
    have hlast : lastIdx? (· == '@'.toUInt8) (encode name ++ '@'.toUInt8 :: encode tail) =
        some (encode name).length := lastIdx?_append _ (beq_self_eq_true _) hbytes
    rw [encode_append, encode_cons, hbyte, List.append_assoc, encode_nil, List.append_nil,
      List.singleton_append, hlast, Option.elim_some, length_encode, utf8Length_append]
    rfl

theorem Bytewise.hostIn_eq (before authority rest : List Char) :
    Bytewise.hostIn (encode (before ++ (authority ++ rest))) (utf8Length before)
        (utf8Length before + utf8Length authority) =
      pure (utf8Length before + utf8Length (userInfo authority),
        utf8Length before + utf8Length (userInfo authority) +
          utf8Length (hostPart authority)) := by
  have hfinds : Finds (· == ':'.toUInt8) (· == ':') := finds_char (by decide)
  obtain ⟨tail, htail, hhost⟩ := exists_eq_userInfo_append authority
  have hparts : before ++ (authority ++ rest) = before ++ userInfo authority ++ (tail ++ rest) := by
    conv_lhs => rw [htail]
    simp
  have hstop : utf8Length before + utf8Length authority =
      utf8Length before + utf8Length (userInfo authority) + utf8Length tail := by
    conv_lhs => rw [htail, utf8Length_append, ← Nat.add_assoc]
  rw [Bytewise.hostIn, itemsBetween_encode rfl rfl rfl, pure_bind]
  simp only [elim_lastIdx?]
  rw [itemsBetween_encode hparts (by simp) hstop, pure_bind, hstop, hfinds.elim_findIdx?, hhost]
  rfl

theorem Bytewise.hostSpan?_eq (url : String) :
    Bytewise.hostSpan? url.toList = pure (Url.hostSpan? url) := by
  rw [Bytewise.hostSpan?, Bytewise.schemeEnd?_eq, pure_bind, Url.hostSpan?]
  cases hcut : cutUrl? url.toList with
  | none => rfl
  | some cut =>
    have hhost := Bytewise.hostIn_eq cut.before cut.authority cut.rest
    rw [← (eq_append_of_cutUrl? hcut).1] at hhost
    simp only [Option.map_some, Bytewise.authorityEnd_eq hcut, hhost, pure_bind]

theorem Bytewise.rawHostChars?_eq (url : List Char) :
    Bytewise.rawHostChars? url = pure ((cutUrl? url).map (hostPart ·.authority)) := by
  have hspan := Bytewise.hostSpan?_eq (String.ofList url)
  rw [String.toList_ofList, Url.hostSpan?, String.toList_ofList] at hspan
  rw [Bytewise.rawHostChars?, hspan, pure_bind]
  cases hcut : cutUrl? url with
  | none => rfl
  | some cut =>
    obtain ⟨tail, htail, hhost⟩ := exists_eq_userInfo_append cut.authority
    have hparts : url = cut.before ++ userInfo cut.authority ++
        (hostPart cut.authority ++ (tail.dropWhile (· != ':') ++ cut.rest)) := by
      conv_lhs => rw [(eq_append_of_cutUrl? hcut).1, htail]
      rw [hhost, ← List.append_assoc (tail.takeWhile _), List.takeWhile_append_dropWhile]
      simp
    simp only [Option.map_some]
    rw [textBetween_eq hparts (by simp) rfl]
    rfl

theorem Bytewise.rawHost?_eq (url : String) : Bytewise.rawHost? url = pure (Url.rawHost? url) := by
  rw [Bytewise.rawHost?, Bytewise.rawHostChars?_eq, pure_bind, Option.map_map]
  rfl

theorem Bytewise.hostChars?_eq (url : List Char) :
    Bytewise.hostChars? url = pure (Url.hostChars? url) := by
  rw [Bytewise.hostChars?, Bytewise.rawHostChars?_eq, pure_bind, Url.hostChars?]
  cases cutUrl? (trimChars url) <;> rfl

theorem Bytewise.host?_eq (url : String) : Bytewise.host? url = pure (Url.host? url) := by
  rw [Bytewise.host?, Bytewise.hostChars?_eq, pure_bind, Url.host?]

/-! ## Resources -/

theorem getElem?_authorityEnd {url : List Char} {cut : Cut} (h : cutUrl? url = some cut) :
    (encode url)[utf8Length cut.before + utf8Length cut.authority]? = some '/'.toUInt8 ↔
      cut.rest.head? = some '/' := by
  rw [(eq_append_of_cutUrl? h).1, ← List.append_assoc, ← utf8Length_append, encode_append,
    ← length_encode, List.getElem?_append_right (Nat.le_refl _), Nat.sub_self,
    ← List.head?_eq_getElem?, head?_encode_iff (by decide)]

theorem Bytewise.withSlashAt_eq {url : List Char} {cut : Cut} (h : cutUrl? url = some cut) :
    Bytewise.withSlashAt url (utf8Length cut.before + utf8Length cut.authority) =
      pure (cut.before ++ cut.authority ++ withPath cut.rest) := by
  have heq : url = cut.before ++ cut.authority ++ cut.rest := by
    rw [List.append_assoc]
    exact (eq_append_of_cutUrl? h).1
  unfold Bytewise.withSlashAt
  by_cases hslash : cut.rest.head? = some '/'
  · rw [if_pos ((getElem?_authorityEnd h).mpr hslash), withPath, if_pos hslash, ← heq]
  · rw [if_neg (mt (getElem?_authorityEnd h).mp hslash), withPath, if_neg hslash,
      ← utf8Length_append]
    conv_lhs => rw [heq]
    rw [insertAt_append]

theorem Bytewise.normalizeChars?_eq (resource : List Char) :
    Bytewise.normalizeChars? resource = pure (Url.normalizeChars? resource) := by
  simp only [Bytewise.normalizeChars?, Bytewise.scheme?_eq, Bytewise.hostChars?_eq,
    Bytewise.schemeEnd?_eq, pure_bind, Url.normalizeChars?]
  cases schemeChars? (withScheme (trimChars resource)) with
  | none => rfl
  | some s =>
    cases Url.hostChars? (withScheme (trimChars resource)) with
    | none => rfl
    | some host =>
      cases hcut : cutUrl? (withScheme (trimChars resource)) with
      | none => rfl
      | some cut =>
        simp only [Option.map_some, Bytewise.authorityEnd_eq hcut, Bytewise.withSlashAt_eq hcut,
          pure_bind]
        rfl

theorem Bytewise.normalize?_eq (resource : String) :
    Bytewise.normalize? resource = pure (Url.normalize? resource) := by
  rw [Bytewise.normalize?, Bytewise.normalizeChars?_eq, pure_bind, Url.normalize?]

/-! ## Boundaries -/

/-- The offsets of a host lie between the one behind `://` and the end of the authority. The text
can be cut at the ends of the host and at the end of the authority. -/
structure IsSpanWithin (url : String) (start i j stop : Nat) : Prop where
  start_le : start ≤ i
  le : i ≤ j
  le_stop : j ≤ stop
  stop_le : stop ≤ url.utf8ByteSize
  isBoundary_start : (⟨i⟩ : String.Pos.Raw).IsValid url
  isBoundary_end : (⟨j⟩ : String.Pos.Raw).IsValid url
  isBoundary_stop : (⟨stop⟩ : String.Pos.Raw).IsValid url

theorem isValid_utf8Length {s : String} {before : List Char} (after : List Char)
    (h : s.toList = before ++ after) :
    (⟨utf8Length before⟩ : String.Pos.Raw).IsValid s :=
  isValid_iff_exists_splitAtByte?.mpr ⟨(before, after), splitAtByte?_eq_some_iff.mpr ⟨h, rfl⟩⟩

theorem isSpanWithin_of_cutUrl? {url : String} {cut : Cut} (h : cutUrl? url.toList = some cut) :
    IsSpanWithin url (utf8Length cut.before)
      (utf8Length cut.before + utf8Length (userInfo cut.authority))
      (utf8Length cut.before + utf8Length (userInfo cut.authority) +
        utf8Length (hostPart cut.authority))
      (utf8Length cut.before + utf8Length cut.authority) := by
  obtain ⟨tail, htail, hhost⟩ := exists_eq_userInfo_append cut.authority
  have hparts : cut.authority =
      userInfo cut.authority ++ (hostPart cut.authority ++ tail.dropWhile (· != ':')) := by
    rw [hhost, List.takeWhile_append_dropWhile, ← htail]
  have hurl := (eq_append_of_cutUrl? h).1
  have hlength : utf8Length cut.authority = utf8Length (userInfo cut.authority) +
      (utf8Length (hostPart cut.authority) + utf8Length (tail.dropWhile (· != ':'))) := by
    conv_lhs => rw [hparts, utf8Length_append, utf8Length_append]
  constructor
  case start_le => omega
  case le => omega
  case le_stop => omega
  case stop_le =>
    rw [← utf8Length_toList, hurl, utf8Length_append, utf8Length_append]
    omega
  case isBoundary_start =>
    rw [← utf8Length_append]
    refine isValid_utf8Length (tail ++ cut.rest) ?_
    rw [hurl, List.append_assoc, ← List.append_assoc _ tail, ← htail]
  case isBoundary_end =>
    rw [← utf8Length_append, ← utf8Length_append]
    refine isValid_utf8Length (tail.dropWhile (· != ':') ++ cut.rest) ?_
    rw [hurl]
    conv_lhs => rw [hparts]
    simp
  case isBoundary_stop =>
    rw [← utf8Length_append]
    exact isValid_utf8Length cut.rest (by rw [hurl, List.append_assoc])

theorem schemeEnd?_eq_map_cutUrl? (url : String) :
    schemeEnd? url = (cutUrl? url.toList).map (utf8Length ·.before) := by
  rw [cutUrl?, Option.map_map]
  rfl

theorem Bytewise.schemeEnd?_toList (url : String) :
    Bytewise.schemeEnd? url.toList = pure (Url.schemeEnd? url) := by
  rw [Bytewise.schemeEnd?_eq, schemeEnd?_eq_map_cutUrl?]

/-- A host that is found lies within its URL. -/
theorem exists_isSpanWithin {url : String} {i j : Nat} (h : hostSpan? url = some (i, j)) :
    ∃ start stop, schemeEnd? url = some start ∧
      Bytewise.authorityEnd url.toList start = pure stop ∧ IsSpanWithin url start i j stop := by
  obtain ⟨cut, hcut, hspan⟩ := Option.map_eq_some_iff.mp h
  obtain ⟨rfl, rfl⟩ := Prod.mk.inj hspan
  refine ⟨_, _, ?_, Bytewise.authorityEnd_eq hcut, isSpanWithin_of_cutUrl? hcut⟩
  rw [schemeEnd?_eq_map_cutUrl?, hcut, Option.map_some]

/-- A slash can be put where an authority ends. -/
theorem exists_withSlashAt {url : String} {start : Nat} (h : schemeEnd? url = some start) :
    ∃ stop after, Bytewise.authorityEnd url.toList start = pure stop ∧
      (⟨stop⟩ : String.Pos.Raw).IsValid url ∧
        Bytewise.withSlashAt url.toList stop = pure after := by
  rw [schemeEnd?_eq_map_cutUrl?] at h
  obtain ⟨cut, hcut, rfl⟩ := Option.map_eq_some_iff.mp h
  exact ⟨_, _, Bytewise.authorityEnd_eq hcut, (isSpanWithin_of_cutUrl? hcut).isBoundary_stop,
    Bytewise.withSlashAt_eq hcut⟩

end Blocklist.Url
