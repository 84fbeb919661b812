import ControllerManager.Http.Percent
import ControllerManager.Net.Uri
import ControllerManager.Proofs.Text.Utf8
import Mathlib.Tactic.SplitIfs

/-!
# Percent coded texts

Any text can be written as one segment of a path, with the bytes of a character behind percent signs
where the character itself is not kept. What is written so is read as that text, whichever
characters are kept and in whichever case the digits are. A slash is never kept, so the text stays
one segment.

## Main definitions

* `Http.PercentCode` — the characters that are kept, and the case of the digits.
* `Http.PercentCode.encode` — a text as a segment of a path.

## Main results

* `Http.PercentCode.percentDecode?_encode` — a text is read as it was before.
* `Http.PercentCode.isPathChar_of_mem_encode`, `Http.PercentCode.slash_notMem_encode` — it can stand
  as a segment.
-/

namespace ControllerManager.Http

/-- The digit of a number below sixteen. -/
def hexDigit (upper : Bool) (n : Nat) : Char :=
  (if upper then "0123456789ABCDEF" else "0123456789abcdef").toList.getD n '0'

/-- A way to write texts as segments of a path: the characters that are kept as they are, and
whether the digits of the others are capital. -/
structure PercentCode where
  keeps : Char → Bool
  upper : Bool
  isPathChar_of_keeps : ∀ c, keeps c = true → Net.Uri.isPathChar c = true
  keeps_percent : keeps '%' = false
  keeps_slash : keeps '/' = false

namespace PercentCode

/-- The code that keeps no more than letters, digits and four marks, with capital digits. -/
def unreserved : PercentCode where
  keeps c := c.isAlphanum || ['-', '.', '_', '~'].contains c
  upper := true
  isPathChar_of_keeps c hc := by
    rw [Bool.or_eq_true] at hc
    rcases hc with halnum | hmark
    · have hclasses : c.isAlphanum = (decide ('A'.val ≤ c.val ∧ c.val ≤ 'Z'.val) ||
          ('a'.val ≤ c.val && c.val ≤ 'z'.val) || ('0'.val ≤ c.val && c.val ≤ '9'.val)) := rfl
      simp only [hclasses, Bool.or_eq_true, Bool.and_eq_true, decide_eq_true_eq,
        UInt32.le_iff_toNat_le] at halnum
      change ((65 ≤ c.toNat ∧ c.toNat ≤ 90) ∨ (97 ≤ c.toNat ∧ c.toNat ≤ 122)) ∨
        (48 ≤ c.toNat ∧ c.toNat ≤ 57) at halnum
      simp only [Net.Uri.isPathChar, Bool.or_eq_true, Bool.and_eq_true, decide_eq_true_eq,
        beq_iff_eq]
      omega
    · simp only [List.contains_iff_mem, List.mem_cons, List.not_mem_nil, or_false] at hmark
      rcases hmark with rfl | rfl | rfl | rfl <;> decide
  keeps_percent := by decide
  keeps_slash := by decide

variable (code : PercentCode)

/-- A byte as a percent sign with two digits. -/
def escape (b : UInt8) : List Char :=
  ['%', hexDigit code.upper (b.toNat / 16), hexDigit code.upper (b.toNat % 16)]

/-- A character as it is, or its bytes. -/
def encodeChar (c : Char) : List Char :=
  if code.keeps c then [c] else (String.utf8EncodeChar c).flatMap code.escape

/-- A text as a segment of a path. -/
def encode (cs : List Char) : List Char := cs.flatMap code.encodeChar

/-! ### Digits -/

theorem hexDigit_spec (upper : Bool) {n : Nat} (h : n < 16) :
    (hexDigit upper n).toNat < 0x80 ∧
      hexByte? (UInt8.ofNat (hexDigit upper n).toNat) = some n ∧
      Net.Uri.isPathChar (hexDigit upper n) = true ∧ hexDigit upper n ≠ '/' := by
  revert n
  cases upper <;> decide

variable {code}

theorem nibbles_lt (b : UInt8) : b.toNat / 16 < 16 ∧ b.toNat % 16 < 16 := by
  have hlt := b.toNat_lt
  omega

/-! ### Reading -/

/-- A byte other than the percent sign stands for itself. -/
theorem percentBytes_cons_of_ne {b : UInt8} (h : b ≠ 0x25) (rest : List UInt8) :
    percentBytes (b :: rest) = b :: percentBytes rest := by
  rw [percentBytes]
  rintro _ _ _ rfl
  exact absurd rfl h

theorem percentBytes_append {bs : List UInt8} (h : 0x25 ∉ bs) (rest : List UInt8) :
    percentBytes (bs ++ rest) = bs ++ percentBytes rest := by
  induction bs with
  | nil => rfl
  | cons b bs ih =>
    rw [List.mem_cons, not_or] at h
    rw [List.cons_append, percentBytes_cons_of_ne (Ne.symm h.1), ih h.2, List.cons_append]

/-- An escaped byte is read as that byte. -/
theorem percentBytes_escape (b : UInt8) (rest : List UInt8) :
    percentBytes (Text.Utf8.encode (code.escape b) ++ rest) = b :: percentBytes rest := by
  obtain ⟨hhigh, hlow⟩ := nibbles_lt b
  obtain ⟨hhigh, hx, -⟩ := hexDigit_spec code.upper hhigh
  obtain ⟨hlow, hy, -⟩ := hexDigit_spec code.upper hlow
  have hbytes : Text.Utf8.encode (code.escape b) = [0x25,
      .ofNat (hexDigit code.upper (b.toNat / 16)).toNat,
      .ofNat (hexDigit code.upper (b.toNat % 16)).toNat] := by
    rw [escape, Text.Utf8.encode_cons_of_lt (by decide), Text.Utf8.encode_cons_of_lt hhigh,
      Text.Utf8.encode_cons_of_lt hlow]
    rfl
  rw [hbytes]
  simp only [List.cons_append, List.nil_append, percentBytes, hx, hy]
  rw [show b.toNat / 16 * 16 + b.toNat % 16 = b.toNat by omega, UInt8.ofNat_toNat]

theorem percentBytes_escapes (bs rest : List UInt8) :
    percentBytes (Text.Utf8.encode (bs.flatMap code.escape) ++ rest) = bs ++ percentBytes rest := by
  induction bs with
  | nil => rfl
  | cons b bs ih =>
    rw [List.flatMap_cons, Text.Utf8.encode_append, List.append_assoc, percentBytes_escape, ih,
      List.cons_append]

/-- No character but the percent sign has its byte. -/
theorem percent_notMem_utf8EncodeChar {c : Char} (h : c ≠ '%') :
    0x25 ∉ String.utf8EncodeChar c := by
  intro hmem
  rcases Text.Utf8.utf8EncodeChar_cases c with ⟨hlt, hbytes⟩ | ⟨-, hbytes⟩
  · rw [hbytes, List.mem_singleton] at hmem
    have hnat : (0x25 : UInt8).toNat = (UInt8.ofNat c.toNat).toNat := congrArg UInt8.toNat hmem
    rw [UInt8.toNat_ofNat'] at hnat
    have hcode : c.toNat = '%'.toNat := by
      rw [show '%'.toNat = 37 by decide]
      rw [show (0x25 : UInt8).toNat = 37 by decide] at hnat
      omega
    exact h (Char.toNat_inj.1 hcode)
  · exact absurd (hbytes _ hmem) (by decide)

theorem percentBytes_encodeChar (c : Char) (rest : List UInt8) :
    percentBytes (Text.Utf8.encode (code.encodeChar c) ++ rest) =
      String.utf8EncodeChar c ++ percentBytes rest := by
  unfold encodeChar
  by_cases hkeeps : code.keeps c = true
  · have hne : c ≠ '%' := by
      rintro rfl
      exact Bool.false_ne_true (code.keeps_percent.symm.trans hkeeps)
    have hbytes : Text.Utf8.encode [c] = String.utf8EncodeChar c := List.flatMap_singleton _ _
    rw [if_pos hkeeps, hbytes, percentBytes_append (percent_notMem_utf8EncodeChar hne)]
  · rw [if_neg hkeeps, percentBytes_escapes]

theorem percentBytes_encode (cs : List Char) :
    percentBytes (Text.Utf8.encode (code.encode cs)) = Text.Utf8.encode cs := by
  induction cs with
  | nil => rfl
  | cons c cs ih =>
    rw [encode, List.flatMap_cons, Text.Utf8.encode_append, percentBytes_encodeChar,
      Text.Utf8.encode_cons]
    exact congrArg _ ih

/-- **A percent coded text** is read as the text that was written. -/
theorem percentDecode?_encode (code : PercentCode) (cs : List Char) :
    percentDecode? (code.encode cs) = some cs := by
  rw [percentDecode?, percentBytes_encode, Text.Utf8.decode?_encode]

/-! ### Segments -/

/-- The characters of a segment. -/
theorem segment_of_mem_encode {cs : List Char} {d : Char} (h : d ∈ code.encode cs) :
    Net.Uri.isPathChar d = true ∧ d ≠ '/' := by
  obtain ⟨c, -, hd⟩ := List.mem_flatMap.1 h
  unfold encodeChar at hd
  split_ifs at hd with hkeeps
  · obtain rfl := List.mem_singleton.1 hd
    refine ⟨code.isPathChar_of_keeps d hkeeps, ?_⟩
    rintro rfl
    exact Bool.false_ne_true (code.keeps_slash.symm.trans hkeeps)
  · obtain ⟨b, -, hd⟩ := List.mem_flatMap.1 hd
    obtain ⟨hhigh, hlow⟩ := nibbles_lt b
    simp only [escape, List.mem_cons, List.not_mem_nil, or_false] at hd
    rcases hd with rfl | rfl | rfl
    · decide
    · exact (hexDigit_spec code.upper hhigh).2.2
    · exact (hexDigit_spec code.upper hlow).2.2

theorem isPathChar_of_mem_encode {cs : List Char} : ∀ d ∈ code.encode cs,
    Net.Uri.isPathChar d = true := fun _ hd => (segment_of_mem_encode hd).1

theorem slash_notMem_encode {cs : List Char} : '/' ∉ code.encode cs := fun h =>
  (segment_of_mem_encode h).2 rfl

/-- Only the empty text is an empty segment. -/
theorem encode_ne_nil {cs : List Char} (h : cs ≠ []) : code.encode cs ≠ [] := by
  intro hnil
  have hread := percentDecode?_encode code cs
  rw [hnil] at hread
  exact h (Option.some.inj (hread.symm.trans (percentDecode?_encode code [])))

end PercentCode

end ControllerManager.Http
