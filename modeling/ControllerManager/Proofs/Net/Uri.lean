import ControllerManager.Net.Uri
import Mathlib.Data.List.TakeWhile
import Mathlib.Tactic.SplitIfs

/-!
# Printed addresses

An absolute address that was read from a text is printed in a form that reads as the same address.
Reading cuts a text where a character comes that cannot belong to the part at hand, and no part of
an address contains a character that ends it. So the parts of an address can be changed and printed
again, as long as each of them keeps to its own characters.

## Main definitions

* `Net.Uri.IsScheme`, `Net.Uri.IsAuthority`, `Net.PathQuery.IsTarget` — the parts that reading
  gives.
* `Net.Uri.IsAbsolute` — an absolute address of such parts.

## Main results

* `Net.Uri.isAbsolute_of_parse` — reading gives such parts.
* `Net.Uri.parse_toText` — an address of such parts reads as it was printed, unless it is too long.
-/

namespace ControllerManager.Net

/-! ### Texts that are cut -/

section Cut

variable {p : Char → Bool} {held rest : List Char}

/-- A text is cut before the first character that does not belong to it. -/
theorem takeWhile_append_cons {d : Char} (hheld : ∀ c ∈ held, p c = true) (hd : p d = false) :
    (held ++ d :: rest).takeWhile p = held := by
  rw [List.takeWhile_append_of_pos hheld, List.takeWhile_cons_of_neg (by simp [hd]),
    List.append_nil]

/-- What is left of a text that was cut. -/
theorem drop_length_takeWhile (p : Char → Bool) (cs : List Char) :
    cs.drop (cs.takeWhile p).length = cs.dropWhile p := by
  calc cs.drop (cs.takeWhile p).length
      = (cs.takeWhile p ++ cs.dropWhile p).drop (cs.takeWhile p).length := by
        rw [List.takeWhile_append_dropWhile]
    _ = cs.dropWhile p := List.drop_left

/-- What was cut off begins with a character that does not belong to what was kept. -/
theorem eq_false_of_dropWhile {cs : List Char} {d : Char} (h : cs.dropWhile p = d :: rest) :
    p d = false := by
  have hhead := List.head?_dropWhile_not p cs
  rwa [h] at hhead

end Cut

/-! ### Paths and queries -/

namespace Uri

theorem ne_of_isPathChar {c : Char} (h : isPathChar c = true) : (c != '?' && c != '#') = true := by
  have hquery : c ≠ '?' := by
    rintro rfl
    exact absurd h (by decide)
  have hnumber : c ≠ '#' := by
    rintro rfl
    exact absurd h (by decide)
  simp [hquery, hnumber]

theorem ne_of_isQueryChar {c : Char} (h : isQueryChar c = true) : (c != '#') = true := by
  have hnumber : c ≠ '#' := by
    rintro rfl
    exact absurd h (by decide)
  simp [hnumber]

end Uri

open Uri

/-- A path that begins with a slash, and a query, of the characters that they can have. -/
structure PathQuery.IsTarget (t : PathQuery) : Prop where
  root : t.path.head? = some '/'
  path : ∀ c ∈ t.path, isPathChar c = true
  query : ∀ q, t.query = some q → ∀ c ∈ q, isQueryChar c = true

/-- A path with a query reads as it was printed. -/
theorem PathQuery.IsTarget.parsePathQuery_print {t : PathQuery} (h : t.IsTarget) :
    parsePathQuery t.print = .ok t := by
  obtain ⟨path, query⟩ := t
  obtain ⟨hroot, hpath, hquery⟩ := h
  have hcut : ∀ c ∈ path, (c != '?' && c != '#') = true := fun c hc => ne_of_isPathChar (hpath c hc)
  have hne : path ≠ [] := by
    rintro rfl
    cases hroot
  cases query with
  | none =>
    have hprint : PathQuery.print ⟨path, none⟩ = path := List.append_nil path
    have hheld : path.takeWhile (fun c => c != '?' && c != '#') = path :=
      List.takeWhile_eq_self_iff.2 hcut
    rw [hprint]
    unfold parsePathQuery
    simp only [hheld, List.drop_length, List.all_eq_true.2 hpath, Option.all_none, Bool.and_self,
      if_true, List.isEmpty_iff, hne, if_false]
  | some q =>
    have hprint : PathQuery.print ⟨path, some q⟩ = path ++ '?' :: q := rfl
    have hheld : (path ++ '?' :: q).takeWhile (fun c => c != '?' && c != '#') = path :=
      takeWhile_append_cons hcut rfl
    have hrest : q.takeWhile (· != '#') = q :=
      List.takeWhile_eq_self_iff.2 fun c hc => ne_of_isQueryChar (hquery q rfl c hc)
    rw [hprint]
    unfold parsePathQuery
    simp only [hheld, List.drop_left, hrest, List.all_eq_true.2 hpath, Option.all_some,
      List.all_eq_true.2 (hquery q rfl), Bool.and_self, if_true, List.isEmpty_iff, hne, if_false]

/-- A path that is read behind an authority begins with a slash. -/
theorem PathQuery.isTarget_of_parsePathQuery {cs : List Char} {t : PathQuery}
    (h : parsePathQuery cs = .ok t)
    (hhead : ∀ c, cs.head? = some c → c = '/' ∨ c = '?' ∨ c = '#') : t.IsTarget := by
  unfold parsePathQuery at h
  dsimp only at h
  split_ifs at h with hchars hempty
  · cases h
    rw [Bool.and_eq_true] at hchars
    refine ⟨rfl, by simpa using (by decide : isPathChar '/' = true), fun q hq => ?_⟩
    have hall := hchars.2
    dsimp only at hq
    rw [hq] at hall
    exact List.all_eq_true.1 hall
  · cases h
    rw [Bool.and_eq_true] at hchars
    refine ⟨?_, List.all_eq_true.1 hchars.1, fun q hq => ?_⟩
    · -- A path that is not empty begins where the text begins.
      rcases cs with _ | ⟨c, cs⟩
      · exact absurd rfl hempty
      · rcases hhead c rfl with rfl | rfl | rfl
        · rfl
        · exact absurd rfl hempty
        · exact absurd rfl hempty
    · have hall := hchars.2
      dsimp only at hq
      rw [hq] at hall
      exact List.all_eq_true.1 hall

namespace Uri

/-! ### Schemes -/

/-- A scheme that reading gives: the two common schemes are in lower case. -/
structure IsScheme (scheme : List Char) : Prop where
  chars : ∀ c ∈ scheme, isSchemeChar c = true
  length_le : scheme.length ≤ maxSchemeLength
  lower : ∀ common ∈ ["http".toList, "https".toList], scheme.map Char.toLower = common →
    scheme = common

theorem isScheme_http : IsScheme "http".toList := by
  refine ⟨List.all_eq_true.1 (by decide), by decide, fun common hmem heq => ?_⟩
  rw [← heq]
  decide

theorem isScheme_https : IsScheme "https".toList := by
  refine ⟨List.all_eq_true.1 (by decide), by decide, fun common hmem heq => ?_⟩
  rw [← heq]
  decide

/-- Only the colon becomes a colon in lower case. -/
theorem toLower_ne_colon {c : Char} (h : isSchemeChar c = true) : (c.toLower != ':') = true := by
  have hne : c ≠ ':' := by
    rintro rfl
    exact absurd h (by decide)
  refine bne_iff_ne.2 fun heq => ?_
  by_cases hupper : 'A'.val ≤ c.val ∧ c.val ≤ 'Z'.val
  · have hval : c.val + 32 = 58 := congrArg Char.val ((dif_pos hupper).symm.trans heq)
    have hsum : (c.val.toNat + 32) % 2 ^ 32 = 58 := congrArg UInt32.toNat hval
    have hlow : 65 ≤ c.val.toNat := hupper.1
    have hhigh : c.val.toNat ≤ 90 := hupper.2
    omega
  · exact hne ((dif_neg hupper).symm.trans heq)

/-- A text begins with a common scheme, in any case of its letters, exactly if its own scheme is
that one. -/
theorem stripIgnoringCase?_append {p common scheme : List Char} (rest : List Char)
    (hscheme : ∀ c ∈ scheme, isSchemeChar c = true) (hp : p = common ++ "://".toList)
    (hcommon : common ∈ ["http".toList, "https".toList]) :
    stripIgnoringCase? p (scheme ++ "://".toList ++ rest) =
      if scheme.map Char.toLower = common then some rest else none := by
  subst hp
  -- The colons end the two schemes, so that both of them can be read off.
  have hlower : ∀ c ∈ scheme.map Char.toLower, (c != ':') = true := by
    intro c hc
    obtain ⟨d, hd, rfl⟩ := List.mem_map.1 hc
    exact toLower_ne_colon (hscheme d hd)
  have hlow : ∀ c ∈ common, (c != ':') = true := by
    simp only [List.mem_cons, List.not_mem_nil, or_false] at hcommon
    rcases hcommon with rfl | rfl <;> exact List.all_eq_true.1 (by decide)
  unfold stripIgnoringCase?
  split_ifs with hstrip heq heq
  · obtain rfl := heq
    simp
  · refine absurd ?_ heq
    have hall := List.take_append_drop (common ++ "://".toList).length
      ((scheme ++ "://".toList ++ rest).map Char.toLower)
    rw [← List.map_take, eq_of_beq hstrip, List.map_append, List.map_append, List.append_assoc,
      List.append_assoc] at hall
    have hcut := congrArg (List.takeWhile (· != ':')) hall
    exact (takeWhile_append_cons hlower rfl).symm.trans
      (hcut.symm.trans (takeWhile_append_cons hlow rfl))
  · refine absurd ?_ hstrip
    have htake : (scheme ++ "://".toList ++ rest).take (common ++ "://".toList).length =
        scheme ++ "://".toList := List.take_left' (by simp [← heq])
    rw [htake, List.map_append, heq]
    exact beq_self_eq_true _
  · rfl

/-- A scheme is read from the text that it begins, unless both it and the rest are empty. -/
theorem readScheme_append {scheme rest : List Char} (h : IsScheme scheme) (hrest : rest ≠ []) :
    readScheme (scheme ++ "://".toList ++ rest) = .ok (some scheme, rest) := by
  unfold readScheme
  rw [stripIgnoringCase?_append rest h.chars
      (show "http://".toList = "http".toList ++ "://".toList from rfl) (by simp),
    stripIgnoringCase?_append rest h.chars
      (show "https://".toList = "https".toList ++ "://".toList from rfl) (by simp)]
  by_cases hhttp : scheme.map Char.toLower = "http".toList
  · rw [if_pos hhttp, h.lower _ (by simp) hhttp]
  rw [if_neg hhttp]
  by_cases hhttps : scheme.map Char.toLower = "https".toList
  · rw [if_pos hhttps, h.lower _ (by simp) hhttps]
  rw [if_neg hhttps]
  have hcut : (scheme ++ "://".toList ++ rest).takeWhile isSchemeChar = scheme := by
    rw [List.append_assoc]
    exact takeWhile_append_cons h.chars rfl
  have hleft : (scheme ++ "://".toList ++ rest).drop scheme.length = ':' :: '/' :: '/' :: rest := by
    rw [List.append_assoc, List.drop_left]
    rfl
  simp only [hcut, hleft, List.isEmpty_eq_false_iff.2 hrest, Bool.and_false, Bool.false_eq_true,
    if_false, if_neg (Nat.not_lt.2 h.length_le)]

/-- Reading gives such a scheme. -/
theorem isScheme_of_readScheme {cs scheme rest : List Char}
    (h : readScheme cs = .ok (some scheme, rest)) : IsScheme scheme := by
  unfold readScheme at h
  split at h
  · cases h
    exact isScheme_http
  · rename_i hhttp
    split at h
    · cases h
      exact isScheme_https
    · rename_i hhttps
      dsimp only at h
      split at h
      · rename_i rest' hleft
        by_cases hempty : ((cs.takeWhile isSchemeChar).isEmpty && rest'.isEmpty) = true
        · rw [if_pos hempty] at h
          cases h
        rw [if_neg hempty] at h
        by_cases hlong : maxSchemeLength < (cs.takeWhile isSchemeChar).length
        · rw [if_pos hlong] at h
          cases h
        rw [if_neg hlong] at h
        obtain ⟨hscheme, -⟩ := Prod.mk.inj (Except.ok.inj h)
        obtain rfl : cs.takeWhile isSchemeChar = scheme := Option.some.inj hscheme
        have hchars : ∀ c ∈ cs.takeWhile isSchemeChar, isSchemeChar c = true :=
          fun c hc => List.mem_takeWhile_imp hc
        have hall : cs = cs.takeWhile isSchemeChar ++ "://".toList ++ rest' := by
          rw [drop_length_takeWhile] at hleft
          rw [List.append_assoc]
          exact (hleft ▸ List.takeWhile_append_dropWhile).symm
        refine ⟨hchars, Nat.not_lt.1 hlong, fun common hmem heq => ?_⟩
        -- A common scheme would have been taken before, whatever the case of its letters.
        rw [hall, stripIgnoringCase?_append _ hchars
          (show "http://".toList = "http".toList ++ "://".toList from rfl) (by simp)] at hhttp
        rw [hall, stripIgnoringCase?_append _ hchars
          (show "https://".toList = "https".toList ++ "://".toList from rfl) (by simp)] at hhttps
        simp only [List.mem_cons, List.not_mem_nil, or_false] at hmem
        rcases hmem with rfl | rfl
        · rw [if_pos heq] at hhttp
          cases hhttp
        · rw [if_pos heq] at hhttps
          cases hhttps
      · cases h

/-! ### Authorities -/

/-- An authority that reading gives. -/
structure IsAuthority (auth : List Char) : Prop where
  ne_nil : auth ≠ []
  chars : ∀ c ∈ auth, (c != '/' && c != '?' && c != '#') = true
  scan : ∃ scan, auth.foldlM AuthorityScan.step .start = .ok scan ∧ scan.complete = true

/-- An authority is read from the text that it begins. -/
theorem readAuthority_append {auth rest : List Char} (h : IsAuthority auth)
    (hrest : rest.head? = some '/') : readAuthority (auth ++ rest) = .ok (auth, rest) := by
  obtain ⟨rest, rfl⟩ := List.head?_eq_some_iff.1 hrest
  obtain ⟨scan, hscan, hcomplete⟩ := h.scan
  have hcut : (auth ++ '/' :: rest).takeWhile (fun c => c != '/' && c != '?' && c != '#') = auth :=
    takeWhile_append_cons h.chars rfl
  have hne : (auth ++ '/' :: rest).isEmpty = false := by simp
  unfold readAuthority
  simp only [hne, Bool.false_eq_true, if_false, hcut, hscan, bind, Except.bind, hcomplete, if_true,
    List.drop_left]

/-- Reading gives such an authority, and what follows begins with what ended it. -/
theorem isAuthority_of_readAuthority {cs auth rest : List Char}
    (h : readAuthority cs = .ok (auth, rest)) (hne : auth ≠ []) :
    IsAuthority auth ∧ ∀ c, rest.head? = some c → c = '/' ∨ c = '?' ∨ c = '#' := by
  unfold readAuthority at h
  split_ifs at h with hempty
  simp only [bind, Except.bind] at h
  split at h
  · cases h
  · rename_i scan hscan
    split_ifs at h with hcomplete
    cases h
    have hchars := fun c hc => List.mem_takeWhile_imp
      (p := fun c => c != '/' && c != '?' && c != '#') (l := cs) (x := c) hc
    refine ⟨⟨hne, hchars, scan, hscan, hcomplete⟩, fun c hc => ?_⟩
    obtain ⟨tail, htail⟩ := List.head?_eq_some_iff.1 hc
    rw [drop_length_takeWhile] at htail
    have hstop := eq_false_of_dropWhile htail
    by_cases hslash : c = '/'
    · exact .inl hslash
    · by_cases hmark : c = '?'
      · exact .inr (.inl hmark)
      · simpa [hslash, hmark] using hstop

/-! ### Addresses -/

/-- An absolute address of parts that reading gives. -/
structure IsAbsolute (scheme auth : List Char) (target : PathQuery) : Prop where
  scheme : IsScheme scheme
  auth : IsAuthority auth
  target : target.IsTarget

variable {scheme auth : List Char} {target : PathQuery}

theorem IsAbsolute.parseFull_print (h : IsAbsolute scheme auth target) :
    parseFull (absolute scheme auth target).print = .ok (.absolute scheme auth target) := by
  have hprint : (absolute scheme auth target).print =
      scheme ++ "://".toList ++ (auth ++ target.print) := by
    simp only [Uri.print, List.append_assoc]
  have hroot : target.print.head? = some '/' := by
    rw [PathQuery.print, List.head?_append, h.target.root]
    rfl
  unfold parseFull
  rw [hprint, readScheme_append h.scheme (List.append_ne_nil_of_left_ne_nil h.auth.ne_nil _)]
  simp only [bind, Except.bind, readAuthority_append h.auth hroot,
    List.isEmpty_eq_false_iff.2 h.auth.ne_nil, Bool.false_eq_true, if_false,
    h.target.parsePathQuery_print]
  rfl

/-- A text that neither begins with a slash nor is a single character is read in full. -/
theorem parse_ofList {cs : List Char} (hlength : (String.ofList cs).utf8ByteSize ≤ maxLength)
    (hslash : cs.head? ≠ some '/') (htwo : 2 ≤ cs.length) :
    parse (String.ofList cs) = parseFull cs := by
  rcases cs with _ | ⟨c, _ | ⟨d, cs⟩⟩
  · simp at htwo
  · simp at htwo
  · have hne : c ≠ '/' := by simpa using hslash
    unfold parse
    rw [if_neg (Nat.not_lt.2 hlength), String.toList_ofList]
    split
    · rename_i heq
      cases heq
    · rename_i heq
      cases heq
    · rename_i heq
      cases heq
      exact absurd rfl hne
    · rename_i heq
      cases heq
    · rename_i heq
      cases heq
    · rfl

/-- **A printed address reads as the same address**, unless it is too long. -/
theorem IsAbsolute.parse_toText (h : IsAbsolute scheme auth target) :
    parse (absolute scheme auth target).toText =
      if maxLength < (absolute scheme auth target).toText.utf8ByteSize then .error .tooLong
      else .ok (.absolute scheme auth target) := by
  split_ifs with hlength
  · exact if_pos hlength
  · have hslash : (absolute scheme auth target).print.head? ≠ some '/' := by
      rcases scheme with _ | ⟨c, scheme⟩
      · simp [Uri.print]
      · have hne : c ≠ '/' := by
          rintro rfl
          exact absurd (h.scheme.chars '/' List.mem_cons_self) (by decide)
        simpa [Uri.print] using hne
    have htwo : 2 ≤ (absolute scheme auth target).print.length := by
      simp [Uri.print]
      omega
    rw [toText, parse_ofList (Nat.not_lt.1 hlength) hslash htwo, h.parseFull_print]

theorem isAbsolute_of_parseFull {cs : List Char}
    (h : parseFull cs = .ok (.absolute scheme auth target)) : IsAbsolute scheme auth target := by
  unfold parseFull at h
  rcases hscheme : readScheme cs with fault | ⟨found, rest⟩
  · rw [hscheme] at h
    cases h
  rcases hauth : readAuthority rest with fault | ⟨auth', rest'⟩
  · simp only [hscheme, hauth, bind, Except.bind] at h
    cases h
  simp only [hscheme, hauth, bind, Except.bind] at h
  rcases found with _ | scheme'
  · dsimp only at h
    split_ifs at h
    · cases h
  · dsimp only at h
    split_ifs at h with hempty
    rcases htarget : parsePathQuery rest' with fault | target'
    · rw [htarget] at h
      cases h
    · rw [htarget] at h
      cases h
      obtain ⟨hisAuth, hhead⟩ := isAuthority_of_readAuthority hauth (by simpa using hempty)
      exact ⟨isScheme_of_readScheme hscheme, hisAuth,
        PathQuery.isTarget_of_parsePathQuery htarget hhead⟩

/-- **An absolute address that was read has such parts.** -/
theorem isAbsolute_of_parse {s : String} (h : parse s = .ok (.absolute scheme auth target)) :
    IsAbsolute scheme auth target := by
  unfold parse at h
  split_ifs at h
  split at h
  · cases h
  · cases h
  · rename_i cs heq
    simp only [bind, Except.bind] at h
    split at h <;> cases h
  · cases h
  · cases h
  · exact isAbsolute_of_parseFull h

end Uri

end ControllerManager.Net
