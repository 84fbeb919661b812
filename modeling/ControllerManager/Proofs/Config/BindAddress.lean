import ControllerManager.Config.BindAddress
import ControllerManager.Proofs.Net.SocketAddress
import Mathlib.Data.List.TakeWhile

/-!
# Readings of bind addresses

A bind address is written in full or by one of two shorthands. Printed addresses are read in full,
and as themselves. The port behind a shorthand is read like any other number of the flags, and that
of a full address by the grammar of addresses: the two readings differ in the plus sign only, which
numbers may have and ports of full addresses may not.

## Main definitions

* `Config.BindAddress.InFull` — a text that is read as a full address.
* `Config.BindAddress.Denotes` — decimal digits of a port.
* `Config.BindAddress.Agree` — two readings that fail both or give the same address.

## Main results

* `Config.BindAddress.readNumber_iff`, `Config.BindAddress.read?_iff` — the two readings of a port.
* `Config.BindAddress.listen_survives_printing`.
* `Config.BindAddress.shorthands_agree_iff`.
-/

namespace ControllerManager

namespace Text

/-! ### Blanks -/

section Trim

variable {α : Type} {p : α → Bool} {front : List α} {c d : α}

/-- Behind an element that stays nothing else is removed in front of it. -/
theorem trimEndList_append (hlast : front.getLast? = some d) (hd : p d = false) (cs : List α) :
    trimEndList p (front ++ cs) = front ++ trimEndList p cs := by
  have hfront : front.reverse.dropWhile p = front.reverse := by
    obtain ⟨init, rfl⟩ := List.getLast?_eq_some_iff.1 hlast
    simp [hd]
  unfold trimEndList
  rw [List.reverse_append, List.dropWhile_append, hfront]
  split_ifs with hempty
  · simp [List.isEmpty_iff.1 hempty]
  · rw [List.reverse_append, List.reverse_reverse]

/-- Only behind elements that stay, at both ends of them, something is removed. -/
theorem trimList_append (hhead : front.head? = some c) (hc : p c = false)
    (hlast : front.getLast? = some d) (hd : p d = false) (cs : List α) :
    trimList p (front ++ cs) = front ++ trimEndList p cs := by
  obtain ⟨rest, rfl⟩ := List.head?_eq_some_iff.1 hhead
  rw [← trimEndList_append hlast hd]
  simp [trimList, trimEndList, hc]

end Trim

theorem isBlank_of_isDigit {c : Char} (h : c.isDigit = true) : isBlank c = false := by
  rw [Char.isDigit_iff_toNat] at h
  simp only [Char.reduceToNat] at h
  simp [isBlank, inRanges, blankRanges]
  omega

/-! ### Decimal digits -/

theorem digit?_eq (c : Char) : digit? c = if c.isDigit then some (c.toNat - 48) else none := by
  simp [digit?, Char.isDigit, Char.le_def]

end Text

/-- Digits of base ten are the decimal digits. -/
theorem Net.digitValue?_ten (c : Char) : Net.digitValue? 10 c = Text.digit? c := by
  have hle (a b : Char) : a ≤ b ↔ a.toNat ≤ b.toNat := Iff.rfl
  simp only [Net.digitValue?, Text.digit?, Bool.and_eq_true, decide_eq_true_eq, hle,
    Char.reduceToNat]
  grind

namespace Config.BindAddress

open Net

variable {cs ds : List Char} {p : Nat}

/-! ### Ports -/

/-- Decimal digits, at least one, of a value that is a port. -/
structure Denotes (ds : List Char) (p : Nat) : Prop where
  ne_nil : ds ≠ []
  isDigit : ∀ c ∈ ds, c.isDigit = true
  value : Nat.ofDigitChars 10 ds 0 = p
  lt_bound : p < 65536

/-- Digits denote one port. -/
theorem Denotes.unique {p' : Nat} (h : Denotes ds p) (h' : Denotes ds p') : p = p' :=
  h.value.symm.trans h'.value

/-- Digits have no sign. -/
theorem Denotes.not_signed (h : Denotes ('+' :: cs) p) : False :=
  absurd (h.isDigit '+' List.mem_cons_self) (by decide)

/-- More digits do not make a value smaller. -/
theorem le_ofDigitChars (ds : List Char) (v : Nat) : v ≤ Nat.ofDigitChars 10 ds v := by
  induction ds generalizing v with
  | nil => exact Nat.le_refl v
  | cons c ds ih =>
    rw [Nat.ofDigitChars_cons]
    exact Nat.le_trans (by omega) (ih _)

/-- Digits are read as a number if its value is in range. -/
theorem readDigits_iff {bound v : Nat} (hv : v < bound) :
    Text.readDigits bound v ds = .ok p ↔
      (∀ c ∈ ds, c.isDigit = true) ∧ Nat.ofDigitChars 10 ds v = p ∧ p < bound := by
  induction ds generalizing v with
  | nil =>
    simp only [Text.readDigits, Except.ok.injEq, List.not_mem_nil, false_implies, implies_true,
      true_and, Nat.ofDigitChars_nil]
    constructor
    · rintro rfl
      exact ⟨rfl, hv⟩
    · exact fun h => h.1
  | cons c ds ih =>
    rw [Text.readDigits, Text.digit?_eq, Nat.ofDigitChars_cons, List.forall_mem_cons]
    by_cases hc : c.isDigit = true
    · rw [if_pos hc]
      dsimp only
      have hstep : v * 10 + (c.toNat - 48) = 10 * v + (c.toNat - '0'.toNat) := by
        rw [Nat.mul_comm]
        rfl
      rw [hstep]
      split_ifs with hnext
      · rw [ih hnext]
        tauto
      · have hle := le_ofDigitChars ds (10 * v + (c.toNat - '0'.toNat))
        simp only [false_iff]
        rintro ⟨-, rfl, hlt⟩
        omega
    · simp [hc]

/-- A number behind a shorthand is a port in decimal digits, with at most one plus sign. -/
theorem readNumber_iff :
    Text.readNumber portBound cs = .ok p ↔
      Denotes cs p ∨ ∃ ds, cs = '+' :: ds ∧ Denotes ds p := by
  have hread {ds : List Char} (hne : ds ≠ []) :
      Text.readDigits portBound 0 ds = .ok p ↔ Denotes ds p := by
    rw [readDigits_iff (by decide)]
    exact ⟨fun h => ⟨hne, h.1, h.2.1, h.2.2⟩, fun h => ⟨h.isDigit, h.value, h.lt_bound⟩⟩
  have hempty : ¬ Denotes [] p := fun h => h.ne_nil rfl
  have hsigned (ds : List Char) : ¬ Denotes ('+' :: ds) p := Denotes.not_signed
  unfold Text.readNumber
  split
  case h_1 => simp [hempty]
  case h_2 => simp [hempty, hsigned]
  case h_3 ds hds =>
    rw [hread (by simpa using hds)]
    simp [hsigned]
  case h_4 hne _ hunsigned =>
    rw [hread hne]
    exact ⟨.inl, fun h => h.elim id fun ⟨ds, hds, _⟩ => (hunsigned ds hds).elim⟩

/-- The value of a port is the value of its decimal digits. -/
theorem value_port (h : ∀ c ∈ ds, c.isDigit = true) :
    Numeral.port.value ds = Nat.ofDigitChars 10 ds 0 := by
  have hfold (v : Nat) : ds.foldl (fun v d => v * 10 + (digitValue? 10 d).getD 0) v =
      Nat.ofDigitChars 10 ds v := by
    induction ds generalizing v with
    | nil => rfl
    | cons c ds ih =>
      obtain ⟨hc, hds⟩ := List.forall_mem_cons.1 h
      rw [List.foldl_cons, ih hds, digitValue?_ten, Text.digit?_eq, if_pos hc, Option.getD_some,
        Nat.ofDigitChars_cons, Nat.mul_comm]
      rfl
  exact hfold 0

/-- A port of a full address is one in decimal digits. -/
theorem read?_iff : Numeral.port.read? cs = some (p, []) ↔ Denotes cs p := by
  have hdigit (c : Char) : (digitValue? Numeral.port.base c).isSome = c.isDigit := by
    rw [show Numeral.port.base = 10 from rfl, digitValue?_ten, Text.digit?_eq]
    split_ifs with hc <;> simp [hc]
  constructor
  · intro h
    unfold Numeral.read? at h
    dsimp only at h
    split_ifs at h with hadmits
    obtain ⟨hvalue, hrest⟩ := Prod.mk.inj (Option.some.inj h)
    have hall : Numeral.port.digits cs = cs :=
      (List.takeWhile_prefix _).eq_of_length_le (List.drop_eq_nil_iff.1 hrest)
    have hcs : ∀ c ∈ cs, c.isDigit = true := by
      intro c hc
      rw [← hdigit]
      exact List.takeWhile_eq_self_iff.1 hall c hc
    rw [hall] at hadmits hvalue
    simp only [Numeral.admits, Bool.and_eq_true, Bool.not_eq_true', List.isEmpty_eq_false_iff,
      decide_eq_true_eq] at hadmits
    exact ⟨hadmits.1.1.1, hcs, (value_port hcs).symm.trans hvalue, hvalue ▸ hadmits.2⟩
  · intro h
    have hall : Numeral.port.digits (cs ++ []) = cs :=
      Numeral.digits_append (fun c hc => (hdigit c).trans (h.isDigit c hc)) (Numeral.stops_nil _)
    have hvalue : Numeral.port.value cs = p := (value_port h.isDigit).trans h.value
    have hbound : Numeral.port.value cs < Numeral.port.bound := hvalue ▸ h.lt_bound
    have hadmits : Numeral.port.admits cs = true := by
      rw [Numeral.admits, decide_eq_true hbound]
      simp [h.ne_nil, Numeral.port]
    rw [List.append_nil] at hall
    simp [Numeral.read?, hall, hadmits, hvalue]

/-! ### Texts that are read in full -/

/-- The text `cs`, whose ends are not blank, is read as a full address: it is neither empty nor the
zero of a server that is turned off, and none of the shorthands. -/
structure InFull (cs : List Char) : Prop where
  not_disabled : cs ≠ [] ∧ cs ≠ ['0']
  not_port : cs.head? ≠ some ':'
  not_localhost : afterLocalhost? cs = none

theorem ofTrimmed_of_inFull (h : InFull cs) :
    ofTrimmed cs =
      (SocketAddress.parse? cs).elim (.error .address) fun address => .ok (.listen address) := by
  unfold ofTrimmed
  rw [if_neg (not_or.2 h.not_disabled)]
  split
  case h_1 => exact absurd rfl h.not_port
  case h_2 =>
    simp only [h.not_localhost]
    cases SocketAddress.parse? cs <;> rfl

/-- A text other than the zero that begins with a digit or a bracket is read in full. -/
theorem inFull_of_head {c : Char} {rest : List Char} (hc : c = '[' ∨ c.isDigit = true)
    (hzero : c :: rest ≠ ['0']) : InFull (c :: rest) := by
  refine ⟨⟨List.cons_ne_nil _ _, hzero⟩, ?_, ?_⟩
  · rintro ⟨⟩
    exact absurd hc (by decide)
  · have hne : ¬ "localhost:".toList.isPrefixOf (c :: rest) = true := by
      intro hprefix
      obtain ⟨tail, htail⟩ := List.isPrefixOf_iff_prefix.1 hprefix
      obtain ⟨rfl, -⟩ := List.cons.inj htail
      exact absurd hc (by decide)
    simp only [afterLocalhost?, if_neg hne]

theorem parse_eq_ok_iff {value : String} {b : BindAddress} :
    parse value = .ok b ↔ ofTrimmed (Text.trimList Text.isBlank value.toList) = .ok b := by
  simp only [parse, Text.trim, String.toList_ofList]
  cases ofTrimmed (Text.trimList Text.isBlank value.toList) <;> simp [Except.mapError]

/-! ### Printed addresses -/

/-- A text that is an address begins with a character that is not blank, and is read in full. -/
theorem inFull_of_parse? {a : SocketAddress} (h : SocketAddress.parse? cs = some a) :
    InFull cs ∧ ∃ c, cs.head? = some c ∧ Text.isBlank c = false := by
  obtain ⟨c, rest, rfl, hc⟩ := SocketAddress.head_of_parse? h
  have hhead : c = '[' ∨ c.isDigit = true := by
    refine hc.imp_right fun hdigit => ?_
    rw [digitValue?_ten, Text.digit?_eq] at hdigit
    by_contra hnot
    simp [hnot] at hdigit
  refine ⟨inFull_of_head hhead ?_, c, rfl, ?_⟩
  · intro hzero
    rw [hzero] at h
    cases h
  · rcases hhead with rfl | hdigit
    · decide
    · exact Text.isBlank_of_isDigit hdigit

/-- Nothing of a printed address is blank at its ends. -/
theorem trimList_print (a : SocketAddress) :
    Text.trimList Text.isBlank a.print = a.print := by
  obtain ⟨-, c, hhead, hc⟩ := inFull_of_parse? a.parse?_print
  obtain ⟨front, hprint⟩ := a.exists_print_eq
  have hne : Nat.toDigits 10 a.port.toNat ≠ [] := Nat.toDigits_ne_nil
  have hlast : a.print.getLast? = some ((Nat.toDigits 10 a.port.toNat).getLast hne) := by
    rw [hprint, List.getLast?_append_of_ne_nil _ hne, List.getLast?_eq_some_getLast hne]
  have hdigit : ((Nat.toDigits 10 a.port.toNat).getLast hne).isDigit = true :=
    Nat.isDigit_of_mem_toDigits (by decide) (by decide) (List.getLast_mem hne)
  have htrim := Text.trimList_append hhead hc hlast (Text.isBlank_of_isDigit hdigit) []
  rwa [List.append_nil, Text.trimEndList, List.reverse_nil, List.dropWhile_nil, List.reverse_nil,
    List.append_nil] at htrim

/-- **Addresses survive printing.** Whatever text an address to listen on came from, its printed
form is read as the same address again. It is read in full, neither as a server that is turned off
nor by a shorthand. No other address has this printed form. -/
theorem listen_survives_printing (a : SocketAddress) :
    parse a.toText = .ok (.listen a) ∧
      InFull (Text.trim a.toText).toList ∧
      SocketAddress.parse? (Text.trim a.toText).toList = some a ∧
      ∀ b : SocketAddress, b.toText = a.toText → b = a := by
  have hcs : (Text.trim a.toText).toList = a.print := by
    simp [Text.trim, SocketAddress.toText, trimList_print]
  obtain ⟨hfull, -⟩ := inFull_of_parse? a.parse?_print
  rw [hcs]
  refine ⟨?_, hfull, a.parse?_print, fun b hb => ?_⟩
  · rw [parse_eq_ok_iff, SocketAddress.toText, String.toList_ofList, trimList_print,
      ofTrimmed_of_inFull hfull, a.parse?_print, Option.elim_some]
  · exact SocketAddress.print_injective (String.ofList_injective hb)

/-! ### Shorthands -/

/-- Both readings fail, or both give the same address to listen on. -/
def Agree (x y : Except Error BindAddress) : Prop :=
  (x.toBool = false ∧ y.toBool = false) ∨ ∃ a, x = .ok (.listen a) ∧ y = .ok (.listen a)

/-- A port with a plus sign, in front of any blanks. -/
def IsSigned (s : String) : Prop :=
  ∃ ds p, Text.trimEndList Text.isBlank s.toList = '+' :: ds ∧ Denotes ds p

theorem onPort_eq_ok_iff {ip : Ip4} {b : BindAddress} :
    onPort ip cs = .ok b ↔
      ∃ p, Text.readNumber portBound cs = .ok p ∧ b = .listen (.v4 ip (.ofNat p)) := by
  unfold onPort
  cases Text.readNumber portBound cs <;> simp [eq_comm]

/-- A text that stands for an address of four bytes in front of a port, and the address with its
colon. -/
structure Shortens (short full : String) (ip : Ip4) : Prop where
  reads : ∀ cs, ofTrimmed (short.toList ++ cs) = onPort ip cs
  prints : full.toList = ip.print ++ [':']
  /-- Neither text begins with a blank, and the full one begins with a digit. -/
  heads : ∃ c d, short.toList.head? = some c ∧ Text.isBlank c = false ∧
    full.toList.head? = some d ∧ d.isDigit = true
  colon : short.toList.getLast? = some ':'

theorem shortens_unspecified : Shortens ":" "0.0.0.0:" .unspecified where
  reads cs := by simp [ofTrimmed]
  prints := by decide
  heads := ⟨':', '0', by decide⟩
  colon := by decide

theorem shortens_localhost : Shortens "localhost:" "127.0.0.1:" .localhost where
  reads cs := by simp [ofTrimmed, afterLocalhost?]
  prints := by decide
  heads := ⟨'l', '1', by decide⟩
  colon := by decide

namespace Shortens

variable {short full : String} {ip : Ip4}

/-- Behind a shorthand stands a port, perhaps with a plus sign. -/
theorem parse_short (h : Shortens short full ip) {s : String} {b : BindAddress} :
    parse (short ++ s) = .ok b ↔
      ∃ p, (Denotes (Text.trimEndList Text.isBlank s.toList) p ∨
        ∃ ds, Text.trimEndList Text.isBlank s.toList = '+' :: ds ∧ Denotes ds p) ∧
          b = .listen (.v4 ip (.ofNat p)) := by
  obtain ⟨c, -, hhead, hc, -⟩ := h.heads
  rw [parse_eq_ok_iff, String.toList_append, Text.trimList_append hhead hc h.colon (by decide),
    h.reads, onPort_eq_ok_iff]
  simp only [readNumber_iff]

/-- Behind a full address stands a port. -/
theorem parse_full (h : Shortens short full ip) {s : String} {b : BindAddress} :
    parse (full ++ s) = .ok b ↔
      ∃ p, Denotes (Text.trimEndList Text.isBlank s.toList) p ∧
        b = .listen (.v4 ip (.ofNat p)) := by
  obtain ⟨-, d, -, -, hhead, hd⟩ := h.heads
  have hlast : full.toList.getLast? = some ':' := by simp [h.prints]
  rw [parse_eq_ok_iff, String.toList_append,
    Text.trimList_append hhead (Text.isBlank_of_isDigit hd) hlast (by decide)]
  generalize Text.trimEndList Text.isBlank s.toList = cs
  have hfull : InFull (full.toList ++ cs) := by
    obtain ⟨rest, hrest⟩ := List.head?_eq_some_iff.1 hhead
    have hne : rest ≠ [] := by
      rintro rfl
      rw [hrest] at hlast
      obtain rfl := Option.some.inj hlast
      exact absurd hd (by decide)
    rw [hrest]
    refine inFull_of_head (.inr hd) ?_
    simp [hne]
  have hparse (a : SocketAddress) : SocketAddress.parse? (full.toList ++ cs) = some a ↔
      ∃ p, Denotes cs p ∧ a = .v4 ip (.ofNat p) := by
    rw [h.prints, List.append_assoc, List.singleton_append, SocketAddress.parse?_ip4_iff]
    simp only [read?_iff]
  rw [ofTrimmed_of_inFull hfull]
  rcases hread : SocketAddress.parse? (full.toList ++ cs) with _ | a
  · simp only [hread, reduceCtorEq, false_iff] at hparse
    simp only [Option.elim_none, reduceCtorEq, false_iff]
    rintro ⟨p, hp, -⟩
    exact hparse _ ⟨p, hp, rfl⟩
  · obtain ⟨p, hp, rfl⟩ := (hparse a).1 hread
    simp only [Option.elim_some, Except.ok.injEq]
    constructor
    · rintro rfl
      exact ⟨p, hp, rfl⟩
    · rintro ⟨p', hp', rfl⟩
      rw [hp.unique hp']

/-- A shorthand reads a port with a plus sign, and the full address does not. -/
theorem disagree (h : Shortens short full ip) {s : String} (hs : IsSigned s) :
    (parse (short ++ s)).toBool = true ∧ (parse (full ++ s)).toBool = false := by
  obtain ⟨ds, p, htext, hp⟩ := hs
  constructor
  · rw [h.parse_short.2 ⟨p, .inr ⟨ds, htext, hp⟩, rfl⟩]
    rfl
  · rcases hfull : parse (full ++ s) with error | b
    · rfl
    · obtain ⟨p', hp', -⟩ := h.parse_full.1 hfull
      rw [htext] at hp'
      exact hp'.not_signed.elim

/-- A shorthand and the full address agree in front of everything but a port with a plus sign. -/
theorem agree_iff (h : Shortens short full ip) (s : String) :
    Agree (parse (short ++ s)) (parse (full ++ s)) ↔ ¬ IsSigned s := by
  constructor
  · intro hagree hs
    obtain ⟨hshort, hfull⟩ := h.disagree hs
    rcases hagree with ⟨hfails, -⟩ | ⟨a, -, ha⟩
    · exact absurd (hshort.symm.trans hfails) (by decide)
    · rw [ha] at hfull
      cases hfull
  · intro hs
    have hsame (b : BindAddress) : parse (short ++ s) = .ok b ↔ parse (full ++ s) = .ok b := by
      rw [h.parse_short, h.parse_full]
      constructor
      · rintro ⟨p, hp | ⟨ds, htext, hp⟩, rfl⟩
        · exact ⟨p, hp, rfl⟩
        · exact (hs ⟨ds, p, htext, hp⟩).elim
      · rintro ⟨p, hp, rfl⟩
        exact ⟨p, .inl hp, rfl⟩
    rcases hfull : parse (full ++ s) with error | b
    · rcases hshort : parse (short ++ s) with error' | b
      · exact .inl ⟨rfl, rfl⟩
      · rw [(hsame b).1 hshort] at hfull
        cases hfull
    · obtain ⟨p, -, rfl⟩ := h.parse_full.1 hfull
      exact .inr ⟨_, (hsame _).2 hfull, rfl⟩

end Shortens

/-- **Where shorthands agree with full addresses**: both fail or both give the same address, in
front of every text but a port with a plus sign. Such a port is one for the shorthands only. -/
theorem shorthands_agree_iff (s : String) :
    (Agree (parse (":" ++ s)) (parse ("0.0.0.0:" ++ s)) ↔ ¬ IsSigned s) ∧
      (Agree (parse ("localhost:" ++ s)) (parse ("127.0.0.1:" ++ s)) ↔ ¬ IsSigned s) ∧
      (IsSigned s →
        ((parse (":" ++ s)).toBool = true ∧ (parse ("0.0.0.0:" ++ s)).toBool = false) ∧
          (parse ("localhost:" ++ s)).toBool = true ∧
            (parse ("127.0.0.1:" ++ s)).toBool = false) :=
  ⟨shortens_unspecified.agree_iff s, shortens_localhost.agree_iff s, fun hs =>
    ⟨shortens_unspecified.disagree hs, shortens_localhost.disagree hs⟩⟩

/-- **A port with a plus sign** is one behind the shorthand for every interface, and none behind
the address that it stands for. -/
theorem signed_port_disagrees : ¬ Agree (parse (":" ++ "+80")) (parse ("0.0.0.0:" ++ "+80")) := by
  have hs : IsSigned "+80" :=
    ⟨['8', '0'], 80, by decide, by simp, by simp, by decide, by decide⟩
  exact fun hagree => (shortens_unspecified.agree_iff "+80").1 hagree hs

end Config.BindAddress

end ControllerManager
