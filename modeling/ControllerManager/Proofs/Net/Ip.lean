import ControllerManager.Net.Ip
import ControllerManager.Proofs.Net.Numeral

/-!
# Printed internet addresses

Every address reads back from its printed form, whatever follows it, as long as that does not go on
with the address. For an address of eight groups the two forms in which it can be printed are taken
one after the other: the embedded address of four bytes, and the groups with or without a run of
zeros left out. Of the run it only matters that it consists of zeros.

## Main definitions

* `Net.Ip6.Ends` — what can follow printed groups without going on with them.
* `Net.Ip6.ZeroRun.Lies` — a run that consists of zeros of a list.

## Main results

* `Net.Ip4.read?_print`, `Net.Ip6.read?_print` — an address reads back.
* `Net.Ip6.lies_longestZeroRun` — the run that is left out consists of zeros.
-/

namespace ControllerManager.Net

variable {rest : List Char}

/-- What does not go on with a group does not go on with a byte. -/
theorem Numeral.Stops.octet (h : Numeral.group.Stops rest) : Numeral.octet.Stops rest :=
  fun c hc => digitValue?_of_le (by decide) (h c hc)

/-! ### Addresses of four bytes -/

namespace Ip4

/-- **An address of four bytes reads back** from its printed form. -/
theorem read?_print (ip : Ip4) (hrest : Numeral.octet.Stops rest) :
    read? (ip.print ++ rest) = some (ip, rest) := by
  have hdot (cs : List Char) : Numeral.octet.Stops ('.' :: cs) := Numeral.stops_cons rfl
  simp only [print, List.append_assoc, List.cons_append, List.nil_append]
  simp [read?, Numeral.read?_octet, hdot, hrest]

/-- Where no decimal digit stands no address of four bytes is read. -/
theorem read?_of_stops {cs : List Char} (h : Numeral.octet.Stops cs) : read? cs = none := by
  simp [read?, Numeral.read?_of_stops h]

/-- Where no dot stands behind the first decimal digits no address of four bytes is read. -/
theorem read?_eq_none {cs : List Char}
    (h : (cs.drop (Numeral.octet.digits cs).length).head? ≠ some '.') : read? cs = none := by
  unfold read? Numeral.read?
  dsimp only
  split_ifs
  · simp [expect?_of_ne h]
  · rfl

/-- Hexadecimal digits without a dot behind them do not begin an address of four bytes. -/
theorem read?_hexadecimal {ds : List Char} (hds : ∀ c ∈ ds, (digitValue? 16 c).isSome = true)
    (hstops : Numeral.group.Stops rest) (hdot : rest.head? ≠ some '.') :
    read? (ds ++ rest) = none := by
  refine read?_eq_none ?_
  induction ds with
  | nil =>
    have hdigits : Numeral.octet.digits ([] ++ rest) = [] :=
      Numeral.digits_append (by simp) hstops.octet
    rw [hdigits]
    exact hdot
  | cons d ds ih =>
    have hds' := List.forall_mem_cons.1 hds
    by_cases hd : (digitValue? Numeral.octet.base d).isSome = true
    · simpa [Numeral.digits, hd] using ih hds'.2
    · have hne : d ≠ '.' := by
        rintro rfl
        exact absurd hds'.1 (by decide)
      simpa [Numeral.digits, hd] using hne

theorem groups_ofGroups (g h : UInt16) : (ofGroups g h).groups = [g, h] := by
  have hjoin (g : UInt16) : UInt16.ofNat ((UInt8.ofNat (g.toNat / 256)).toNat * 256 +
      (UInt8.ofNat (g.toNat % 256)).toNat) = g := by
    have hg : g.toNat < 2 ^ 16 := g.toNat_lt
    apply UInt16.toNat_inj.1
    simp only [UInt16.toNat_ofNat', UInt8.toNat_ofNat']
    omega
  simp only [ofGroups, groups, hjoin]

end Ip4

/-! ### Groups -/

namespace Ip6

/-- A printed group. -/
def hex (g : UInt16) : List Char := Nat.toDigits 16 g.toNat

/-- What can follow printed groups without going on with them: two colons, or neither a digit nor
a separator. -/
def Ends (rest : List Char) : Prop :=
  (∃ cs, rest = ':' :: ':' :: cs) ∨
    ∀ c ∈ rest.head?, c ≠ ':' ∧ c ≠ '.' ∧ digitValue? 16 c = none

theorem Ends.ne_dot (h : Ends rest) : rest.head? ≠ some '.' := by
  rcases h with ⟨cs, rfl⟩ | h
  · simp
  · exact fun hdot => (h _ hdot).2.1 rfl

theorem Ends.stops (h : Ends rest) : Numeral.group.Stops rest := by
  rcases h with ⟨cs, rfl⟩ | h
  · exact Numeral.stops_cons rfl
  · exact fun c hc => (h c hc).2.2

/-- Where neither an address of four bytes nor a group stands nothing is read. -/
theorem readGroups_of_stops {limit : Nat} {first : Bool} {cs : List Char}
    (h : ∀ after ∈ (if first then some cs else expect? ':' cs),
      Numeral.group.Stops after ∧ after.head? ≠ some '.') :
    readGroups limit first cs = ([], false, cs) := by
  cases limit with
  | zero => rfl
  | succ limit =>
    unfold readGroups
    rcases hafter : (if first then some cs else expect? ':' cs) with _ | after
    · simp
    · obtain ⟨hstops, hdot⟩ := h after hafter
      have hip : Ip4.read? ([] ++ after) = none := Ip4.read?_hexadecimal (by simp) hstops hdot
      rw [List.nil_append] at hip
      simp [hip, Numeral.read?_of_stops hstops]

/-- Behind the last group nothing is read, with or without a colon in front. -/
theorem Ends.readGroups (h : Ends rest) (limit : Nat) (first : Bool) :
    readGroups limit first rest = ([], false, rest) := by
  refine readGroups_of_stops fun after hafter => ?_
  cases first with
  | true =>
    obtain rfl : rest = after := Option.some.inj hafter
    exact ⟨h.stops, h.ne_dot⟩
  | false =>
    rcases h with ⟨cs, rfl⟩ | h
    · obtain rfl : ':' :: cs = after := by simpa using hafter
      exact ⟨Numeral.stops_cons rfl, by simp⟩
    · have hnone : expect? ':' rest = none := expect?_of_ne fun hcolon => (h _ hcolon).1 rfl
      simp [hnone] at hafter

/-- A printed group is read, and what follows is read behind it. -/
theorem readGroups_hex {first : Bool} {cs : List Char} {g : UInt16} (limit : Nat)
    (hcs : (if first then some cs else expect? ':' cs) = some (hex g ++ rest))
    (hstops : Numeral.group.Stops rest) (hdot : rest.head? ≠ some '.') :
    readGroups (limit + 1) first cs =
      match readGroups limit false rest with
      | (gs, dotted, rest) => (g :: gs, dotted, rest) := by
  have hip : Ip4.read? (hex g ++ rest) = none :=
    Ip4.read?_hexadecimal (Numeral.complete_group.isSome_of_mem_toDigits _) hstops hdot
  have hgroup : Numeral.group.read? (hex g ++ rest) = some (g.toNat, rest) :=
    Numeral.read?_group g hstops
  rw [readGroups]
  simp only [hcs, Option.bind_some, hip, hgroup, ite_self, UInt16.ofNat_toNat]

/-- Groups with a colon before each of them. -/
def colons (gs : List UInt16) : List Char := gs.flatMap fun g => ':' :: hex g

/-- Groups with colons before them do not go on with the group in front of them. -/
theorem stops_colons (gs : List UInt16) (hrest : Ends rest) :
    Numeral.group.Stops (colons gs ++ rest) ∧ (colons gs ++ rest).head? ≠ some '.' := by
  cases gs with
  | nil => exact ⟨hrest.stops, hrest.ne_dot⟩
  | cons g gs => exact ⟨Numeral.stops_cons rfl, by simp [colons]⟩

/-- Groups with colons before them are read up to where they end. -/
theorem readGroups_colons (gs : List UInt16) {limit : Nat} (hlimit : gs.length ≤ limit)
    (hrest : Ends rest) : readGroups limit false (colons gs ++ rest) = (gs, false, rest) := by
  induction gs generalizing limit with
  | nil => exact hrest.readGroups limit false
  | cons g gs ih =>
    obtain ⟨limit, rfl⟩ := Nat.exists_eq_add_of_lt (Nat.lt_of_succ_le hlimit)
    obtain ⟨hstops, hdot⟩ := stops_colons gs hrest
    have hcs : (if false then some (colons (g :: gs) ++ rest)
        else expect? ':' (colons (g :: gs) ++ rest)) = some (hex g ++ (colons gs ++ rest)) := by
      simp [colons]
    rw [readGroups_hex _ hcs hstops hdot, ih (by omega)]

theorem printGroups_cons (g : UInt16) (gs : List UInt16) :
    printGroups (g :: gs) = hex g ++ colons gs := by
  induction gs generalizing g with
  | nil => simp [printGroups, hex, colons]
  | cons g' gs ih =>
    have hcons : printGroups (g :: g' :: gs) = hex g ++ ':' :: printGroups (g' :: gs) := by
      simp [printGroups, hex]
    rw [hcons, ih]
    rfl

/-- Printed groups are read up to where they end. -/
theorem readGroups_printGroups (gs : List UInt16) {limit : Nat} (hlimit : gs.length ≤ limit)
    (hrest : Ends rest) : readGroups limit true (printGroups gs ++ rest) = (gs, false, rest) := by
  cases gs with
  | nil => exact hrest.readGroups limit true
  | cons g gs =>
    obtain ⟨limit, rfl⟩ := Nat.exists_eq_add_of_lt (Nat.lt_of_succ_le hlimit)
    obtain ⟨hstops, hdot⟩ := stops_colons gs hrest
    have hcs : (if true then some (printGroups (g :: gs) ++ rest)
        else expect? ':' (printGroups (g :: gs) ++ rest)) =
          some (hex g ++ (colons gs ++ rest)) := by
      rw [if_pos rfl, printGroups_cons, List.append_assoc]
    rw [readGroups_hex _ hcs hstops hdot, readGroups_colons gs (by omega) hrest]

/-! ### The run that is left out -/

namespace ZeroRun

/-- The run consists of zeros at the end of a list. -/
def Closes (r : ZeroRun) (gs : List UInt16) : Prop :=
  ∃ front, gs = front ++ List.replicate r.length 0 ∧ front.length = r.start

/-- The run consists of zeros of a list. -/
def Lies (r : ZeroRun) (gs : List UInt16) : Prop :=
  ∃ front back, gs = front ++ List.replicate r.length 0 ++ back ∧ front.length = r.start

variable {r : ZeroRun} {gs : List UInt16}

theorem Closes.lies (h : r.Closes gs) (back : List UInt16) : r.Lies (gs ++ back) := by
  obtain ⟨front, rfl, hstart⟩ := h
  exact ⟨front, back, rfl, hstart⟩

theorem Lies.append (h : r.Lies gs) (more : List UInt16) : r.Lies (gs ++ more) := by
  obtain ⟨front, back, rfl, hstart⟩ := h
  exact ⟨front, back ++ more, by rw [List.append_assoc], hstart⟩

/-- One more zero goes on with a run at the end of a list, or begins one. -/
theorem closes_concat (h : r.length ≠ 0 → r.Closes gs) :
    (if r.length = 0 then (⟨gs.length, 1⟩ : ZeroRun) else ⟨r.start, r.length + 1⟩).Closes
      (gs ++ [0]) := by
  split_ifs with hlength
  · exact ⟨gs, rfl, rfl⟩
  · obtain ⟨front, hgs, hstart⟩ := h hlength
    refine ⟨front, ?_, hstart⟩
    rw [hgs, List.replicate_succ', List.append_assoc]

end ZeroRun

open ZeroRun

/-- Behind the groups that were seen, with a run at their end and the best run among them, the scan
finds a run among all groups. -/
theorem lies_longestFrom (seen gs : List UInt16) {current best : ZeroRun}
    (hcurrent : current.length ≠ 0 → current.Closes seen) (hbest : best.Lies seen) :
    (longestFrom seen.length current best gs).Lies (seen ++ gs) := by
  induction gs generalizing seen current best with
  | nil => simpa [longestFrom] using hbest
  | cons g gs ih =>
    have hlength : seen.length + 1 = (seen ++ [g]).length := by simp
    rw [longestFrom, List.append_cons, hlength]
    by_cases hg : g = 0
    · subst hg
      have hcloses := closes_concat hcurrent
      rw [if_pos rfl]
      dsimp only
      generalize (if current.length = 0 then (⟨seen.length, 1⟩ : ZeroRun)
        else ⟨current.start, current.length + 1⟩) = next at hcloses ⊢
      refine ih _ (fun _ => hcloses) ?_
      split_ifs
      · simpa using hcloses.lies []
      · exact hbest.append _
    · rw [if_neg hg]
      exact ih _ (fun h => absurd rfl h) (hbest.append _)

/-- The run that is left out of the printed form consists of zeros. -/
theorem lies_longestZeroRun (gs : List UInt16) : (longestZeroRun gs).Lies gs :=
  lies_longestFrom [] gs (fun h => absurd rfl h) ⟨[], [], rfl, rfl⟩

/-! ### Addresses of eight groups -/

theorem ofGroups?_eq_some {gs : List UInt16} (ip : Ip6) (h : gs = ip.groups) :
    ofGroups? gs = some ip := by
  subst h
  simp [ofGroups?, ip.length_groups]

/-- Groups on both sides of two colons are read with zeros between them. -/
theorem read?_of_gap {cs tail : List Char} {front back : List UInt16} {dotted : Bool} (ip : Ip6)
    (hfront : readGroups 8 true cs = (front, false, ':' :: ':' :: tail))
    (hback : readGroups (7 - front.length) true tail = (back, dotted, rest))
    (hlength : front.length < 8)
    (hgroups : ip.groups = front ++ List.replicate (8 - front.length - back.length) 0 ++ back) :
    read? cs = some (ip, rest) := by
  unfold read?
  rw [hfront]
  simp only [expect?_cons_self, Option.bind_eq_bind, Option.bind_some]
  rw [if_neg (Nat.ne_of_lt hlength), if_neg Bool.false_ne_true, hback]
  simp only [ofGroups?_eq_some ip hgroups.symm, Option.bind_some]
  rfl

/-- An address of four bytes behind a colon ends the groups, unless it stands for the last one. -/
theorem readGroups_ip4 (limit : Nat) (v4 : Ip4) (hrest : Ends rest) :
    readGroups (limit + 2) false (':' :: (v4.print ++ rest)) = (v4.groups, true, rest) := by
  have hip : Ip4.read? (v4.print ++ rest) = some (v4, rest) := v4.read?_print hrest.stops.octet
  rw [readGroups]
  simp [hip]

/-- An embedded address of four bytes reads back behind its five zeros. -/
theorem read?_embedded {ip : Ip6} {v4 : Ip4} (h : ip.embedded? = some v4) (hrest : Ends rest) :
    read? ("::ffff:".toList ++ v4.print ++ rest) = some (ip, rest) := by
  have hgroups : ip.groups = [0, 0, 0, 0, 0, 0xffff] ++ v4.groups := by
    unfold embedded? at h
    split at h
    case h_1 g g' hgroups =>
      obtain rfl := Option.some.inj h
      rw [hgroups, Ip4.groups_ofGroups]
      rfl
    case h_2 => cases h
  have htext : "::ffff:".toList ++ v4.print ++ rest =
      ':' :: ':' :: (hex 0xffff ++ ':' :: (v4.print ++ rest)) := by
    rw [List.append_assoc]
    rfl
  have hback : readGroups 7 true (hex 0xffff ++ ':' :: (v4.print ++ rest)) =
      (0xffff :: v4.groups, true, rest) := by
    rw [readGroups_hex 6 rfl (Numeral.stops_cons rfl) (by simp), readGroups_ip4 4 v4 hrest]
  rw [htext]
  exact read?_of_gap ip (Ends.readGroups (.inl ⟨_, rfl⟩) 8 true) hback (by decide) hgroups

/-- **An address of eight groups reads back** from its printed form. -/
theorem read?_print (ip : Ip6) (hrest : Ends rest) :
    read? (ip.print ++ rest) = some (ip, rest) := by
  unfold print
  rcases hembedded : ip.embedded? with _ | v4
  · have hcount := ip.length_groups
    dsimp only
    split_ifs with hlength
    · obtain ⟨front, back, hgroups, hstart⟩ := lies_longestZeroRun ip.groups
      generalize longestZeroRun ip.groups = run at hlength hgroups hstart
      have hfront : ip.groups.take run.start = front := by
        rw [hgroups, ← hstart, List.append_assoc, List.take_left]
      have hback : ip.groups.drop (run.start + run.length) = back := by
        rw [hgroups, ← hstart]
        exact List.drop_left' (by simp)
      rw [hfront, hback]
      rw [hgroups] at hcount
      simp only [List.length_append, List.length_replicate] at hcount
      have htext : printGroups front ++ [':', ':'] ++ printGroups back ++ rest =
          printGroups front ++ ':' :: ':' :: (printGroups back ++ rest) := by
        simp
      rw [htext]
      refine read?_of_gap ip (readGroups_printGroups front (by omega) (.inl ⟨_, rfl⟩))
        (readGroups_printGroups back (by omega) hrest) (by omega) ?_
      rw [hgroups, show 8 - front.length - back.length = run.length by omega]
    · unfold read?
      rw [readGroups_printGroups ip.groups (by omega) hrest]
      simp [hcount, ofGroups?_eq_some ip rfl]
  · exact read?_embedded hembedded hrest

end Ip6

end ControllerManager.Net
