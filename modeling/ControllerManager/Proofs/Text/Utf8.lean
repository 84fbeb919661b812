import ControllerManager.Text.Utf8
import Mathlib.Data.List.Basic
import Mathlib.Tactic.SplitIfs

/-!
# Bytes of texts

The bytes of a text are read as that text. A character below `0x80` is the one byte of its code
point, and all bytes of any other character lie at or above `0x80`.

## Main results

* `Text.Utf8.next?_utf8EncodeChar` — the bytes of a character are read as that character.
* `Text.Utf8.decode?_encode` — the bytes of a text are read as that text.
* `Text.Utf8.utf8EncodeChar_cases` — the bytes of one character.
-/

namespace ControllerManager.Text.Utf8

/-! ### The bytes of one character -/

/-- A code point is not a surrogate. -/
theorem scalar?_eq_some {least : Nat} {c : Char} (h : least ≤ c.toNat) :
    scalar? least c.toNat = some c := by
  have hvalid : c.toNat < 0xd800 ∨ (0xdfff < c.toNat ∧ c.toNat < 0x110000) := c.valid
  unfold scalar?
  rw [if_pos, Char.ofNat_toNat]
  simp only [Bool.and_eq_true, Bool.or_eq_true, decide_eq_true_eq]
  omega

/-- The bytes of a character behind its first one hold six bits each. -/
theorem continuation?_low_bits (n : Nat) :
    continuation? (UInt8.ofNat (n % 64 + 0x80)) = some (n % 64) := by
  have hbyte : (UInt8.ofNat (n % 64 + 0x80)).toNat = n % 64 + 0x80 := by
    rw [UInt8.toNat_ofNat']
    omega
  unfold continuation?
  rw [hbyte, if_pos (by simp; omega), Nat.add_sub_cancel]

/-- **The bytes of a character** are read as that character, whatever follows them. -/
theorem next?_utf8EncodeChar (c : Char) (rest : List UInt8) :
    ∃ b bs, String.utf8EncodeChar c = b :: bs ∧
      next? (b :: (bs ++ rest)) = some (c, bs.length) := by
  have hval : c.val.toNat = c.toNat := rfl
  have hlt : c.toNat < 0x110000 := by
    rcases c.valid with h | h
    · exact Nat.lt_trans h (by decide)
    · exact h.2
  unfold String.utf8EncodeChar
  simp only [hval]
  -- The cases are the lengths of one to four bytes.
  split_ifs with hone htwo hthree
  · refine ⟨_, _, rfl, ?_⟩
    have hbyte : (UInt8.ofNat c.toNat).toNat = c.toNat := by
      rw [UInt8.toNat_ofNat']
      omega
    simp only [next?, hbyte]
    rw [if_pos (by omega), Char.ofNat_toNat]
    rfl
  · refine ⟨_, _, rfl, ?_⟩
    have hbyte : (UInt8.ofNat (c.toNat / 64 % 0x20 + 0xc0)).toNat = c.toNat / 64 + 0xc0 := by
      rw [UInt8.toNat_ofNat']
      omega
    have hvalue : (c.toNat / 64 + 0xc0 - 0xc0) * 64 + c.toNat % 64 = c.toNat := by omega
    simp only [next?, hbyte]
    rw [if_neg (by omega), if_neg (by omega), if_pos (by omega)]
    simp only [List.cons_append, List.getElem?_cons_zero, Option.bind_eq_bind, Option.bind_some,
      continuation?_low_bits, hvalue, scalar?_eq_some (show 0x80 ≤ c.toNat by omega)]
    rfl
  · refine ⟨_, _, rfl, ?_⟩
    have hbyte : (UInt8.ofNat (c.toNat / 4096 % 0x10 + 0xe0)).toNat = c.toNat / 4096 + 0xe0 := by
      rw [UInt8.toNat_ofNat']
      omega
    have hvalue : ((c.toNat / 4096 + 0xe0 - 0xe0) * 64 + c.toNat / 64 % 64) * 64 + c.toNat % 64 =
        c.toNat := by omega
    simp only [next?, hbyte]
    rw [if_neg (by omega), if_neg (by omega), if_neg (by omega), if_pos (by omega)]
    simp only [List.cons_append, List.getElem?_cons_zero, List.getElem?_cons_succ,
      Option.bind_eq_bind, Option.bind_some, continuation?_low_bits, hvalue,
      scalar?_eq_some (show 0x800 ≤ c.toNat by omega)]
    rfl
  · refine ⟨_, _, rfl, ?_⟩
    have hbyte : (UInt8.ofNat (c.toNat / 262144 % 0x08 + 0xf0)).toNat =
        c.toNat / 262144 + 0xf0 := by
      rw [UInt8.toNat_ofNat']
      omega
    have hvalue : (((c.toNat / 262144 + 0xf0 - 0xf0) * 64 + c.toNat / 4096 % 64) * 64 +
        c.toNat / 64 % 64) * 64 + c.toNat % 64 = c.toNat := by omega
    simp only [next?, hbyte]
    rw [if_neg (by omega), if_neg (by omega), if_neg (by omega), if_neg (by omega),
      if_pos (by omega)]
    simp only [List.cons_append, List.getElem?_cons_zero, List.getElem?_cons_succ,
      Option.bind_eq_bind, Option.bind_some, continuation?_low_bits, hvalue,
      scalar?_eq_some (show 0x10000 ≤ c.toNat by omega)]
    rfl

/-- A character of ASCII is one byte, and any other has no byte of ASCII. -/
theorem utf8EncodeChar_cases (c : Char) :
    (c.toNat < 0x80 ∧ String.utf8EncodeChar c = [UInt8.ofNat c.toNat]) ∨
      (0x80 ≤ c.toNat ∧ ∀ b ∈ String.utf8EncodeChar c, 0x80 ≤ b.toNat) := by
  have hval : c.val.toNat = c.toNat := rfl
  unfold String.utf8EncodeChar
  simp only [hval]
  split_ifs with hone htwo hthree
  · exact .inl ⟨by omega, rfl⟩
  all_goals
    refine .inr ⟨by omega, fun b hb => ?_⟩
    simp only [List.mem_cons, List.not_mem_nil, or_false] at hb
    rcases hb with rfl | rfl | rfl | rfl <;> rw [UInt8.toNat_ofNat'] <;> omega

/-! ### The bytes of a text -/

theorem encode_cons (c : Char) (cs : List Char) :
    encode (c :: cs) = String.utf8EncodeChar c ++ encode cs := List.flatMap_cons

theorem encode_append (cs cs' : List Char) : encode (cs ++ cs') = encode cs ++ encode cs' :=
  List.flatMap_append

/-- A character of ASCII is its own byte. -/
theorem encode_cons_of_lt {c : Char} (h : c.toNat < 0x80) (cs : List Char) :
    encode (c :: cs) = UInt8.ofNat c.toNat :: encode cs := by
  rcases utf8EncodeChar_cases c with ⟨-, hbytes⟩ | ⟨hle, -⟩
  · rw [encode_cons, hbytes, List.singleton_append]
  · omega

theorem pieces_encode (cs : List Char) : pieces (encode cs) = cs.map .char := by
  induction cs with
  | nil => simp [encode, pieces]
  | cons c cs ih =>
    obtain ⟨b, bs, hbytes, hnext⟩ := next?_utf8EncodeChar c (encode cs)
    rw [encode_cons, hbytes, List.cons_append, pieces, hnext]
    simp only [List.drop_left, ih, List.map_cons]

/-- **The bytes of a text** are read as that text. -/
theorem decode?_encode (cs : List Char) : decode? (encode cs) = some cs := by
  rw [decode?, pieces_encode, List.mapM_map]
  induction cs with
  | nil => rfl
  | cons c cs ih =>
    rw [List.mapM_cons, ih]
    rfl

end ControllerManager.Text.Utf8
