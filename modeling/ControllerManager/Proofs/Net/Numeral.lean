import ControllerManager.Net.Numeral
import Mathlib.Algebra.Group.Nat.Defs
import Mathlib.Data.List.Basic
import Mathlib.Data.Nat.Basic
import Mathlib.Tactic.SplitIfs
import Mathlib.Tactic.Tauto

/-!
# Printed numerals

A value in the range of a numeral reads back from its digits, whatever follows them, as long as no
further digit does. A leading zero is written for the value zero only, so that numerals which allow
no other leading zeros read back as well.

## Main definitions

* `Net.Numeral.Complete` — a numeral in which every value of its range can be written.
* `Net.Numeral.Stops` — what can follow a numeral without going on with it.

## Main results

* `Net.Numeral.value_toDigits` — the digits of a value have this value.
* `Net.Numeral.read?_toDigits` — a printed value reads back.
-/

namespace ControllerManager.Net

/-! ### Single digits -/

theorem digitValue?_digitChar {base d : Nat} (hbase : base ≤ 16) (hd : d < base) :
    digitValue? base d.digitChar = some d := by
  have hvalue : ∀ b < 17, ∀ e < b, digitValue? b e.digitChar = some e := by decide
  exact hvalue base (by omega) d hd

theorem digitValue?_of_le {base base' : Nat} {c : Char} (hbase : base ≤ base')
    (h : digitValue? base' c = none) : digitValue? base c = none := by
  simp only [digitValue?, ite_eq_right_iff, reduceCtorEq, imp_false, not_lt] at h ⊢
  omega

namespace Numeral

variable {n : Numeral} {k : Nat} {cs rest : List Char}

/-! ### The digits of a value -/

theorem value_concat (n : Numeral) (ds : List Char) (c : Char) :
    n.value (ds ++ [c]) = n.value ds * n.base + (digitValue? n.base c).getD 0 := by
  simp [value]

/-- A numeral in which every value of its range can be written, with one digit for each power of
its base. -/
structure Complete (n : Numeral) : Prop where
  one_lt_base : 1 < n.base
  base_le : n.base ≤ 16
  room : ∀ m ∈ n.maxDigits, 0 < m ∧ n.bound ≤ n.base ^ m

theorem complete_octet : octet.Complete := ⟨by decide, by decide, by decide⟩

theorem complete_group : group.Complete := ⟨by decide, by decide, by decide⟩

theorem complete_port : port.Complete := ⟨by decide, by decide, by decide⟩

theorem complete_scope : scope.Complete := ⟨by decide, by decide, by decide⟩

/-- A property of values and their digits, which holds of single digits, and of the digits of a
value other than zero with one more digit behind them. -/
theorem Complete.toDigits_induction (hn : n.Complete) {P : Nat → List Char → Prop}
    (single : ∀ d < n.base, P d [d.digitChar])
    (concat : ∀ k ds d, 0 < k → d < n.base → P k ds →
      P (k * n.base + d) (ds ++ [d.digitChar]))
    (k : Nat) : P k (Nat.toDigits n.base k) := by
  have hpos : 0 < n.base := Nat.lt_trans Nat.zero_lt_one hn.one_lt_base
  induction k using Nat.strong_induction_on with
  | _ k ih =>
    rw [Nat.toDigits_eq_if hn.one_lt_base]
    split_ifs with hk
    · exact single k hk
    · have hquot : 0 < k / n.base := Nat.div_pos (by omega) hpos
      have hlt : k / n.base < k := Nat.div_lt_self (by omega) hn.one_lt_base
      have hstep := concat _ _ _ hquot (Nat.mod_lt k hpos) (ih _ hlt)
      rwa [Nat.div_add_mod'] at hstep

/-- The digits of a value have this value. -/
theorem Complete.value_toDigits (hn : n.Complete) (k : Nat) :
    n.value (Nat.toDigits n.base k) = k := by
  refine hn.toDigits_induction (P := fun k ds => n.value ds = k) (fun d hd => ?_)
    (fun k ds d _ hd hds => ?_) k
  · simp [value, digitValue?_digitChar hn.base_le hd]
  · rw [value_concat, hds, digitValue?_digitChar hn.base_le hd, Option.getD_some]

/-- All characters of a printed value are digits. -/
theorem Complete.isSome_of_mem_toDigits (hn : n.Complete) (k : Nat) :
    ∀ c ∈ Nat.toDigits n.base k, (digitValue? n.base c).isSome = true := by
  refine hn.toDigits_induction (P := fun _ ds => ∀ c ∈ ds, (digitValue? n.base c).isSome = true)
    (fun d hd => ?_) (fun k ds d _ hd hds => ?_) k
  · simp [digitValue?_digitChar hn.base_le hd]
  · simpa [or_imp, forall_and, digitValue?_digitChar hn.base_le hd] using hds

/-- Only the value zero is printed with a zero in front. -/
theorem Complete.eq_zero_of_head? (hn : n.Complete) (k : Nat) :
    (Nat.toDigits n.base k).head? = some '0' → k = 0 := by
  refine (hn.toDigits_induction (P := fun k ds => ds ≠ [] ∧ (ds.head? = some '0' → k = 0))
    (fun d hd => ⟨List.cons_ne_nil _ _, fun h => ?_⟩) (fun k ds d hk _ hds => ?_) k).2
  · have hzero : digitValue? n.base '0' = some d := by
      rw [← digitValue?_digitChar hn.base_le hd]
      exact congrArg _ (Option.some.inj h).symm
    simpa [digitValue?, Nat.zero_lt_of_lt hn.one_lt_base] using hzero.symm
  · refine ⟨List.append_ne_nil_of_left_ne_nil hds.1 _, fun h => ?_⟩
    rw [List.head?_append_of_ne_nil _ hds.1] at h
    have := hds.2 h
    omega

/-- The form of a numeral admits the printed form of every value in its range. -/
theorem Complete.admits_toDigits (hn : n.Complete) (hk : k < n.bound) :
    n.admits (Nat.toDigits n.base k) = true := by
  have hlength : n.maxDigits.all ((Nat.toDigits n.base k).length ≤ ·) = true := by
    refine Option.all_eq_true _ _ |>.2 fun m hm => ?_
    obtain ⟨hpos, hroom⟩ := hn.room m hm
    exact decide_eq_true ((Nat.length_toDigits_le_iff hn.one_lt_base hpos).2 (by omega))
  have hzero : (Nat.toDigits n.base k).length = 1 ∨
      (Nat.toDigits n.base k).head? ≠ some '0' := by
    by_cases hhead : (Nat.toDigits n.base k).head? = some '0'
    · left
      rw [hn.eq_zero_of_head? k hhead, Nat.toDigits_zero]
      rfl
    · exact .inr hhead
  have hvalue : n.value (Nat.toDigits n.base k) < n.bound := by rwa [hn.value_toDigits]
  have hne : (Nat.toDigits n.base k).isEmpty = false :=
    List.isEmpty_eq_false_iff.2 Nat.toDigits_ne_nil
  simp only [admits, hne, hlength, Bool.not_false, Bool.true_and, Bool.and_eq_true,
    Bool.or_eq_true, beq_iff_eq, bne_iff_ne, ne_eq, decide_eq_true_eq, hvalue, and_true]
  tauto

/-! ### Reading -/

/-- What follows does not go on with a numeral. -/
def Stops (n : Numeral) (rest : List Char) : Prop :=
  ∀ c ∈ rest.head?, digitValue? n.base c = none

theorem stops_nil (n : Numeral) : n.Stops [] := by simp [Stops]

theorem stops_cons {c : Char} (h : digitValue? n.base c = none) : n.Stops (c :: rest) := by
  simpa [Stops] using h

/-- The digits of a text are those before the first character that is no digit. -/
theorem digits_append (hcs : ∀ c ∈ cs, (digitValue? n.base c).isSome = true)
    (hrest : n.Stops rest) : n.digits (cs ++ rest) = cs := by
  unfold digits
  rw [List.takeWhile_append_of_pos hcs]
  cases rest with
  | nil => simp
  | cons c rest =>
    have hc : digitValue? n.base c = none := hrest c rfl
    rw [List.takeWhile_cons_of_neg (by simp [hc]), List.append_nil]

/-- **A printed value reads back**, and what follows is left. -/
theorem Complete.read?_toDigits (hn : n.Complete) (hk : k < n.bound) (hrest : n.Stops rest) :
    n.read? (Nat.toDigits n.base k ++ rest) = some (k, rest) := by
  have hdigits : n.digits (Nat.toDigits n.base k ++ rest) = Nat.toDigits n.base k :=
    digits_append (hn.isSome_of_mem_toDigits k) hrest
  simp only [read?, hdigits, hn.admits_toDigits hk, if_true, hn.value_toDigits, List.drop_left]

theorem read?_octet (b : UInt8) (hrest : octet.Stops rest) :
    octet.read? (Nat.toDigits 10 b.toNat ++ rest) = some (b.toNat, rest) :=
  complete_octet.read?_toDigits b.toNat_lt hrest

theorem read?_group (g : UInt16) (hrest : group.Stops rest) :
    group.read? (Nat.toDigits 16 g.toNat ++ rest) = some (g.toNat, rest) :=
  complete_group.read?_toDigits g.toNat_lt hrest

theorem read?_port (p : UInt16) (hrest : port.Stops rest) :
    port.read? (Nat.toDigits 10 p.toNat ++ rest) = some (p.toNat, rest) :=
  complete_port.read?_toDigits p.toNat_lt hrest

theorem read?_scope (s : UInt32) (hrest : scope.Stops rest) :
    scope.read? (Nat.toDigits 10 s.toNat ++ rest) = some (s.toNat, rest) :=
  complete_scope.read?_toDigits s.toNat_lt hrest

/-- Where no digit stands no numeral is read. -/
theorem read?_of_stops (h : n.Stops cs) : n.read? cs = none := by
  have hdigits : n.digits ([] ++ cs) = [] := digits_append (by simp) h
  rw [List.nil_append] at hdigits
  simp [read?, hdigits, admits]

end Numeral

/-! ### Fixed characters -/

@[simp] theorem expect?_cons_self (c : Char) (cs : List Char) : expect? c (c :: cs) = some cs := by
  simp [expect?]

theorem expect?_of_ne {c : Char} {cs : List Char} (h : cs.head? ≠ some c) :
    expect? c cs = none := by
  cases cs with
  | nil => rfl
  | cons d cs =>
    have hne : d ≠ c := fun heq => h (congrArg some heq)
    simp [expect?, hne]

end ControllerManager.Net
