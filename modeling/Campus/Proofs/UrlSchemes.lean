import Mathlib.Data.List.DropRight
import Mathlib.Data.List.TakeWhile
import Campus.Proofs.Conformity
import Campus.Proofs.Numerals

/-!
# The schemes of accepted addresses

A parameter of type URL is meant for web addresses. What is taken is any absolute address with a
host, and every scheme has one: which texts with a scheme are taken depends on no more than whether
the scheme is one of the web, `file`, or another.
-/

namespace Campus

namespace Url

/-- The text is an absolute address with the scheme and a host. -/
def HasHost (scheme text : String) : Prop :=
  ∃ host, parse text = .ok ⟨scheme.toList, some host⟩

/-- A letter, then letters, digits and `+`, `-`, `.`; letters are small. -/
structure IsSchemeName (name : List Char) : Prop where
  head : ∃ c ∈ name.head?, isAsciiAlpha c = true
  all : ∀ c ∈ name, isSchemeChar c = true
  small : name.map Char.toLower = name

/-- Both schemes are of the web, both are `file`, or both are others. -/
def AlikeSchemes (a b : String) : Prop :=
  isWebScheme a.toList = isWebScheme b.toList ∧ (a = "file" ↔ b = "file")

/-! ## Characters -/

theorem toNat_toLower (c : Char) :
    c.toLower.toNat = if 65 ≤ c.toNat ∧ c.toNat ≤ 90 then c.toNat + 32 else c.toNat := by
  have hcapital : (c.val ≥ 'A'.val ∧ c.val ≤ 'Z'.val) ↔ 65 ≤ c.toNat ∧ c.toNat ≤ 90 := by
    simp [UInt32.le_iff_toNat_le]
  unfold Char.toLower
  by_cases h : 65 ≤ c.toNat ∧ c.toNat ≤ 90
  · rw [dif_pos (hcapital.2 h), if_pos h]
    show (c.val + 32).toNat = c.val.toNat + 32
    have hc : c.val.toNat ≤ 90 := h.2
    rw [UInt32.toNat_add]
    show (c.val.toNat + 32) % 2 ^ 32 = c.val.toNat + 32
    omega
  · rw [dif_neg (mt hcapital.1 h), if_neg h]

theorem isAsciiAlpha_iff {c : Char} :
    isAsciiAlpha c = true ↔ (97 ≤ c.toNat ∧ c.toNat ≤ 122) ∨ (65 ≤ c.toNat ∧ c.toNat ≤ 90) := by
  simp [isAsciiAlpha, Char.le_def, UInt32.le_iff_toNat_le]

theorem isSchemeChar_iff {c : Char} :
    isSchemeChar c = true ↔ (97 ≤ c.toNat ∧ c.toNat ≤ 122) ∨ (65 ≤ c.toNat ∧ c.toNat ≤ 90) ∨
      (48 ≤ c.toNat ∧ c.toNat ≤ 57) ∨ c.toNat = 43 ∨ c.toNat = 45 ∨ c.toNat = 46 := by
  have hchar (d : Char) : c = d ↔ c.toNat = d.toNat := Char.toNat_inj.symm
  simp [isSchemeChar, isAsciiAlpha_iff, isDigit, Char.le_def, UInt32.le_iff_toNat_le, or_assoc,
    hchar]

theorem isAsciiAlpha_toLower {c : Char} (h : isAsciiAlpha c = true) :
    isAsciiAlpha c.toLower = true := by
  rw [isAsciiAlpha_iff, toNat_toLower]
  rw [isAsciiAlpha_iff] at h
  split <;> omega

theorem isSchemeChar_toLower {c : Char} (h : isSchemeChar c = true) :
    isSchemeChar c.toLower = true := by
  rw [isSchemeChar_iff, toNat_toLower]
  rw [isSchemeChar_iff] at h
  split <;> omega

theorem toLower_toLower (c : Char) : c.toLower.toLower = c.toLower := by
  rw [← Char.toNat_inj, toNat_toLower, toNat_toLower]
  split_ifs <;> omega

/-! ## Splitting off the scheme -/

theorem isSchemeChar_of_isAsciiAlpha {c : Char} (h : isAsciiAlpha c = true) :
    isSchemeChar c = true := by
  simp [isSchemeChar, h]

theorem spanScheme?_eq_some_iff {cs name rest : List Char} :
    spanScheme? cs = some (name, rest) ↔ ∃ raw, cs = raw ++ ':' :: rest ∧
      (∃ c ∈ raw.head?, isAsciiAlpha c = true) ∧ (∀ c ∈ raw, isSchemeChar c = true) ∧
      name = raw.map Char.toLower := by
  constructor
  · intro h
    unfold spanScheme? at h
    split at h
    · next c after hhead hafter =>
      split at h
      · next hc =>
        cases h
        refine ⟨cs.takeWhile isSchemeChar, ?_, ⟨c, ?_, hc⟩, fun d hd => List.mem_takeWhile_imp hd,
          rfl⟩
        · rw [← hafter, List.takeWhile_append_dropWhile]
        · rw [List.head?_takeWhile, hhead]
          simp [isSchemeChar_of_isAsciiAlpha hc]
      · cases h
    · cases h
  · rintro ⟨raw, rfl, ⟨c, hc, halpha⟩, hraw, rfl⟩
    have hcolon : isSchemeChar ':' = false := by decide
    have hhead : (raw ++ ':' :: rest).head? = some c := by
      rw [List.head?_append, Option.mem_def.1 hc, Option.some_or]
    simp [spanScheme?, hhead, List.dropWhile_append_of_pos hraw, List.takeWhile_append_of_pos hraw,
      hcolon, halpha]

theorem isSchemeName_of_spanScheme? {cs name rest : List Char}
    (h : spanScheme? cs = some (name, rest)) : IsSchemeName name := by
  obtain ⟨raw, -, ⟨c, hc, halpha⟩, hraw, rfl⟩ := spanScheme?_eq_some_iff.1 h
  refine ⟨⟨c.toLower, ?_, isAsciiAlpha_toLower halpha⟩, fun d hd => ?_, ?_⟩
  · rw [List.head?_map, Option.mem_def.1 hc, Option.map_some, Option.mem_def]
  · obtain ⟨e, he, rfl⟩ := List.mem_map.1 hd
    exact isSchemeChar_toLower (hraw e he)
  · rw [List.map_map]
    exact List.map_congr_left fun d _ => toLower_toLower d

theorem IsSchemeName.spanScheme?_eq {name : List Char} (h : IsSchemeName name) (rest : List Char) :
    spanScheme? (name ++ ':' :: rest) = some (name, rest) :=
  spanScheme?_eq_some_iff.2 ⟨name, rfl, h.head, h.all, h.small.symm⟩

/-! ## Reading an address -/

/-- A character that is not passed over wherever it stands. -/
def counts (c : Char) : Bool := c != '\t' && c != '\n' && c != '\r'

/-- What is read of a text. -/
def significant (cs : List Char) : List Char := (trimChars isEdge cs).filter counts

/-- What is read of the rest of a text, whose front is no edge any more. -/
def significantRest (cs : List Char) : List Char := (cs.rdropWhile isEdge).filter counts

/-- The host in what follows a scheme. -/
def hostAfter (scheme rest : List Char) : Except UrlError (Option Host) :=
  if String.ofList scheme = "file" then fileHost rest
  else if isWebScheme scheme then authority true (rest.dropWhile isSlash)
  else
    match rest with
    | '/' :: '/' :: rest => authority false rest
    | _ => .ok none

theorem significant_eq_filter (cs : List Char) :
    significant cs = (trimChars isEdge cs).filter fun c => c != '\t' && c != '\n' && c != '\r' :=
  rfl

theorem parse_eq (text : String) :
    parse text =
      match spanScheme? (significant text.toList) with
      | none => .error .noScheme
      | some (scheme, rest) => (hostAfter scheme rest).map (Url.mk scheme) := by
  unfold parse
  simp only [← significant_eq_filter]
  cases spanScheme? (significant text.toList) with
  | none => rfl
  | some parts =>
    obtain ⟨scheme, rest⟩ := parts
    simp only [hostAfter]
    split
    · rfl
    split
    · rfl
    by_cases hslashes : ∃ after, rest = '/' :: '/' :: after
    · obtain ⟨after, rfl⟩ := hslashes
      rfl
    · have hrest (after : List Char) : rest = '/' :: '/' :: after → False :=
        fun h => hslashes ⟨after, h⟩
      -- Without two slashes there is no host; `hrest` decides the matches.
      simp only
      rfl

theorem parse_eq_ok_iff {text : String} {url : Url} :
    parse text = .ok url ↔ ∃ rest, spanScheme? (significant text.toList) = some (url.scheme, rest) ∧
      hostAfter url.scheme rest = .ok url.host := by
  obtain ⟨scheme, host⟩ := url
  rw [parse_eq]
  cases hspan : spanScheme? (significant text.toList) with
  | none => simp
  | some parts =>
    obtain ⟨name, rest⟩ := parts
    constructor
    · intro h
      obtain ⟨_, hhost, heq⟩ := map_eq_ok_iff.1 h
      cases heq
      exact ⟨rest, rfl, hhost⟩
    · rintro ⟨_, heq, hhost⟩
      cases heq
      exact map_eq_ok_iff.2 ⟨host, hhost, rfl⟩

theorem hasHost_iff {scheme text : String} :
    HasHost scheme text ↔ ∃ rest host,
      spanScheme? (significant text.toList) = some (scheme.toList, rest) ∧
        hostAfter scheme.toList rest = .ok (some host) := by
  simp only [HasHost, parse_eq_ok_iff]
  exact exists_comm

theorem mem_of_mem_significant {cs : List Char} {c : Char} (h : c ∈ significant cs) : c ∈ cs := by
  have htrimmed := List.mem_reverse.1 (List.mem_of_mem_filter h)
  have hcut := List.mem_reverse.1 ((List.dropWhile_sublist _).subset htrimmed)
  exact (List.dropWhile_sublist _).subset hcut

theorem not_hasHost_of_notMem {scheme text : String} (h : ':' ∉ text.toList) :
    ¬HasHost scheme text := by
  rw [hasHost_iff]
  rintro ⟨rest, host, hspan, -⟩
  obtain ⟨raw, hraw, -⟩ := spanScheme?_eq_some_iff.1 hspan
  exact h (mem_of_mem_significant (hraw ▸ by simp))

theorem isSchemeName_of_hasHost {scheme text : String} (h : HasHost scheme text) :
    IsSchemeName scheme.toList := by
  obtain ⟨rest, host, hspan, -⟩ := hasHost_iff.1 h
  exact isSchemeName_of_spanScheme? hspan

/-! ## Writing an address -/

theorem isEdge_eq_false {c : Char} (h : isSchemeChar c = true) : isEdge c = false := by
  rw [isSchemeChar_iff] at h
  rw [isEdge, decide_eq_false_iff_not]
  omega

theorem counts_of_isSchemeChar {c : Char} (h : isSchemeChar c = true) : counts c = true := by
  have hedge := isEdge_eq_false h
  simp only [counts, Bool.and_eq_true, bne_iff_ne]
  refine ⟨⟨?_, ?_⟩, ?_⟩ <;> (rintro rfl; revert hedge; decide)

theorem rdropWhile_append_cons {p : Char → Bool} {c : Char} (hc : p c = false) (a b : List Char) :
    (a ++ c :: b).rdropWhile p = a ++ c :: b.rdropWhile p := by
  induction b using List.reverseRecOn with
  | nil => simp [hc]
  | append_singleton b d ih =>
    rw [← List.cons_append, ← List.append_assoc, List.rdropWhile_concat, List.rdropWhile_concat]
    split
    · exact ih
    · simp

theorem IsSchemeName.significant_eq {name : List Char} (h : IsSchemeName name) (rest : List Char) :
    significant (name ++ ':' :: rest) = name ++ ':' :: significantRest rest := by
  obtain ⟨c, hc, halpha⟩ := h.head
  have hedge : isEdge c = false := isEdge_eq_false (isSchemeChar_of_isAsciiAlpha halpha)
  have hfront : (name ++ ':' :: rest).dropWhile isEdge = name ++ ':' :: rest := by
    rw [← List.cons_head?_tail hc]
    exact List.dropWhile_cons_of_neg (by simp [hedge])
  have hback : (name ++ ':' :: rest).rdropWhile isEdge = name ++ ':' :: rest.rdropWhile isEdge :=
    rdropWhile_append_cons (by decide) name rest
  have hname : name.filter counts = name :=
    List.filter_eq_self.2 fun d hd => counts_of_isSchemeChar (h.all d hd)
  rw [significant, trimChars, hfront]
  show ((name ++ ':' :: rest).rdropWhile isEdge).filter counts = _
  rw [hback, List.filter_append, List.filter_cons_of_pos (by decide), hname, significantRest]

theorem IsSchemeName.hasHost_iff {scheme : String} (h : IsSchemeName scheme.toList)
    (rest : String) :
    HasHost scheme (scheme ++ ":" ++ rest) ↔
      ∃ host, hostAfter scheme.toList (significantRest rest.toList) = .ok (some host) := by
  have htext : (scheme ++ ":" ++ rest).toList = scheme.toList ++ ':' :: rest.toList := by simp
  rw [Url.hasHost_iff, htext, h.significant_eq, h.spanScheme?_eq]
  simp

theorem hostAfter_eq_of_alike {a b : String} (h : AlikeSchemes a b) (rest : List Char) :
    hostAfter a.toList rest = hostAfter b.toList rest := by
  obtain ⟨hweb, hfile⟩ := h
  simp only [hostAfter, String.ofList_toList, hweb, hfile]

/-! ## A host for every scheme -/

theorem isIpv6_unspecified : isIpv6 "::".toList = true := by
  show ipv6Groups 1 true [] = true
  unfold ipv6Groups
  rfl

theorem bracketHost?_unspecified :
    bracketHost? "[::]".toList = some (.ok (.ipv6 "::".toList)) := by
  show (if decide ("::]".toList.getLast? = some ']') && isIpv6 "::".toList then _ else _) = _
  rw [isIpv6_unspecified]
  rfl

theorem webHost_unspecified : webHost "[::]".toList = .ok (.ipv6 "::".toList) := by
  unfold webHost
  rw [bracketHost?_unspecified]

theorem plainHost_unspecified : plainHost "[::]".toList = .ok (.ipv6 "::".toList) := by
  unfold plainHost
  rw [bracketHost?_unspecified]

theorem authority_unspecified (web : Bool) :
    authority web "[::]".toList = .ok (some (.ipv6 "::".toList)) := by
  have hcredentials : spanCredentials web "[::]".toList = (none, "[::]".toList) := by
    cases web <;> rfl
  have hhost : spanHost web false "[::]".toList = ("[::]".toList, []) := by
    cases web <;> rfl
  unfold authority
  rw [hcredentials]
  dsimp only
  rw [hhost]
  cases web
  · simp only [plainHost_unspecified]
    rfl
  · simp only [webHost_unspecified]
    rfl

theorem fileHost_unspecified : fileHost "//[::]".toList = .ok (some (.ipv6 "::".toList)) := by
  show (do
    let host ← webHost "[::]".toList
    if host == Host.domain "localhost".toList || rootDrive [] (pathSegments []) then return none
    return some host) = _
  rw [webHost_unspecified]
  rfl

theorem hostAfter_unspecified (scheme : List Char) :
    hostAfter scheme "//[::]".toList = .ok (some (.ipv6 "::".toList)) := by
  unfold hostAfter
  split
  · exact fileHost_unspecified
  split
  · exact authority_unspecified true
  · exact authority_unspecified false

theorem exists_hasHost_iff {scheme : String} :
    (∃ text, HasHost scheme text) ↔ IsSchemeName scheme.toList := by
  constructor
  · rintro ⟨text, h⟩
    exact isSchemeName_of_hasHost h
  · intro h
    exact ⟨scheme ++ ":" ++ "//[::]", (h.hasHost_iff _).2 ⟨_, hostAfter_unspecified _⟩⟩

theorem HasHost.scheme_eq {a b text : String} (ha : HasHost a text) (hb : HasHost b text) :
    a = b := by
  obtain ⟨_, ha⟩ := ha
  obtain ⟨_, hb⟩ := hb
  have hurl := Except.ok.inj (ha.symm.trans hb)
  exact String.toList_injective (congrArg Url.scheme hurl)

theorem exists_url_iff {text : String} :
    (∃ url, parse text = .ok url ∧ url.host.isSome = true) ↔ ∃ scheme, HasHost scheme text := by
  constructor
  · rintro ⟨⟨scheme, host⟩, hparse, hhost⟩
    obtain ⟨host, rfl⟩ := Option.isSome_iff_exists.1 hhost
    exact ⟨String.ofList scheme, host, by rw [String.toList_ofList]; exact hparse⟩
  · rintro ⟨scheme, host, hparse⟩
    exact ⟨_, hparse, rfl⟩

theorem checkUrl_iff_hasHost {text : String} :
    checkUrl text = .ok () ↔ text = "" ∨ ∃ scheme, HasHost scheme text :=
  checkUrl_eq_ok_iff.trans (or_congr_right exists_url_iff)

end Url

/-! ## Accepted values -/

namespace ParamType

open Url

/-- The value is treated as specified: it is taken, as it is, if it is a text that is empty or a web
address with a host, and else refused. -/
def TakesWebAddress (v : Json) : Prop :=
  ∀ out, url.coerce v = .ok out ↔ ∃ text, v = .string text ∧ out = .string text ∧
    (text = "" ∨ HasHost "http" text ∨ HasHost "https" text)

theorem eq_string_of_coerce_url {v out : Json} (h : url.coerce v = .ok out) :
    ∃ text, v = .string text := by
  obtain ⟨text, htext, h⟩ := bind_eq_ok_iff.1 h
  obtain ⟨_, hcheck, -⟩ := bind_eq_ok_iff.1 h
  have htaken := checkUrl_iff_hasHost.1 hcheck
  cases v with
  | string s => exact ⟨s, rfl⟩
  | number n =>
    cases htext
    rcases htaken with hempty | ⟨scheme, hhost⟩
    · exact absurd hempty n.text_ne_empty
    · refine absurd hhost (not_hasHost_of_notMem fun hcolon => ?_)
      exact absurd (Number.isNumeral_of_mem_text hcolon) (by decide)
  | bool b =>
    cases htext
    rcases htaken with hempty | ⟨scheme, hhost⟩
    · cases b <;> exact absurd hempty (by decide)
    · exact absurd hhost (not_hasHost_of_notMem (by cases b <;> decide))
  | null | array _ | object _ => cases htext

theorem coerce_url_eq_ok_iff {v out : Json} :
    url.coerce v = .ok out ↔ ∃ text, v = .string text ∧ out = .string text ∧
      (text = "" ∨ ∃ scheme, HasHost scheme text) := by
  constructor
  · intro h
    obtain ⟨text, rfl⟩ := eq_string_of_coerce_url h
    obtain ⟨_, htext, h⟩ := bind_eq_ok_iff.1 h
    cases htext
    obtain ⟨_, hcheck, h⟩ := bind_eq_ok_iff.1 h
    cases h
    exact ⟨text, rfl, rfl, checkUrl_iff_hasHost.1 hcheck⟩
  · rintro ⟨text, rfl, rfl, htaken⟩
    refine bind_eq_ok_iff.2 ⟨text, rfl, ?_⟩
    exact bind_eq_ok_iff.2 ⟨(), checkUrl_iff_hasHost.2 htaken, rfl⟩

theorem takesWebAddress_iff {v : Json} :
    TakesWebAddress v ↔ ∀ text scheme, v = .string text → HasHost scheme text →
      scheme = "http" ∨ scheme = "https" := by
  constructor
  · rintro h text scheme rfl hhost
    have htaken : url.coerce (.string text) = .ok (.string text) :=
      coerce_url_eq_ok_iff.2 ⟨text, rfl, rfl, .inr ⟨scheme, hhost⟩⟩
    obtain ⟨_, heq, -, hweb⟩ := (h _).1 htaken
    cases heq
    rcases hweb with rfl | hhttp | hhttps
    · exact absurd hhost (not_hasHost_of_notMem (by decide))
    · exact .inl (hhost.scheme_eq hhttp)
    · exact .inr (hhost.scheme_eq hhttps)
  · intro h out
    rw [coerce_url_eq_ok_iff]
    refine exists_congr fun text => and_congr_right fun hv => and_congr_right fun _ =>
      or_congr_right ?_
    constructor
    · rintro ⟨scheme, hhost⟩
      rcases h text scheme hv hhost with rfl | rfl
      · exact .inl hhost
      · exact .inr hhost
    · rintro (hhttp | hhttps)
      · exact ⟨_, hhttp⟩
      · exact ⟨_, hhttps⟩

/-- A value is treated as specified if and only if it is no address of a scheme other than `http`
and `https`: exactly the empty text and absolute addresses with a host are taken, and left as they
are. There are addresses of every scheme, and schemes of one kind have the same but for their
names. -/
theorem url_takesWebAddress_iff (v : Json) :
    (TakesWebAddress v ↔ ∀ text scheme, v = .string text → HasHost scheme text →
      scheme = "http" ∨ scheme = "https") ∧
    (∀ out, url.coerce v = .ok out ↔ ∃ text, v = .string text ∧ out = .string text ∧
      (text = "" ∨ ∃ scheme, HasHost scheme text)) ∧
    (∀ scheme, (∃ text, HasHost scheme text) ↔ IsSchemeName scheme.toList) ∧
    ∀ a b rest, IsSchemeName a.toList → IsSchemeName b.toList → AlikeSchemes a b →
      (HasHost a (a ++ ":" ++ rest) ↔ HasHost b (b ++ ":" ++ rest)) := by
  refine ⟨takesWebAddress_iff, fun out => coerce_url_eq_ok_iff, fun scheme => exists_hasHost_iff,
    fun a b rest ha hb halike => ?_⟩
  rw [ha.hasHost_iff, hb.hasHost_iff, hostAfter_eq_of_alike halike]

/-- A file server is addressed like a web site, so its address is taken too. -/
theorem ftp_not_takesWebAddress :
    AlikeSchemes "ftp" "http" ∧ HasHost "http" "http://[::]" ∧ HasHost "ftp" "ftp://[::]" ∧
      ¬TakesWebAddress (.string "ftp://[::]") := by
  have hftp : IsSchemeName "ftp".toList := ⟨⟨'f', rfl, rfl⟩, List.all_eq_true.1 rfl, rfl⟩
  have hhttp : IsSchemeName "http".toList := ⟨⟨'h', rfl, rfl⟩, List.all_eq_true.1 rfl, rfl⟩
  have halike : AlikeSchemes "ftp" "http" := ⟨by decide, by decide⟩
  have hweb : HasHost "http" ("http" ++ ":" ++ "//[::]") :=
    (hhttp.hasHost_iff _).2 ⟨_, hostAfter_unspecified _⟩
  obtain ⟨hspecified, -, -, hsame⟩ := url_takesWebAddress_iff (.string "ftp://[::]")
  have hserver : HasHost "ftp" "ftp://[::]" :=
    (hsame "ftp" "http" "//[::]" hftp hhttp halike).2 hweb
  refine ⟨halike, hweb, hserver, fun h => ?_⟩
  exact absurd (hspecified.1 h _ _ rfl hserver) (by decide)

/-- A script is taken, since a host follows its scheme. -/
theorem script_not_takesWebAddress :
    ¬TakesWebAddress (.string "javascript://example.com/%0Aalert(1)") := by
  have hhost : HasHost "javascript" "javascript://example.com/%0Aalert(1)" :=
    ⟨.domain "example.com".toList, by rfl⟩
  intro h
  have hscheme := takesWebAddress_iff.1 h _ _ rfl hhost
  revert hscheme
  decide

end ParamType

end Campus
