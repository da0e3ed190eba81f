/-
Texts and their octets:

* `decodeUtf8From_one` to `decodeUtf8From_four`: how a sequence of each width is read;
* `decodeUtf8From_encodeChar`: a character is read back from its octets, whatever follows;
* `decodeUtf8_encodeUtf8`: so is a whole text;
* `linefeed_notMem_encodeUtf8`: a text without line feeds has no octet that is one.

The octets of a character are compared as numbers below 256; that no code point is a surrogate is
what keeps the second octet in its range.
-/
import Mathlib.Tactic
import SourceLayers.Text.Utf8

namespace SourceLayers

/-! ### Octets as numbers -/

lemma toNat_octet {n : Nat} (h : n < 256) : (UInt8.ofNat n).toNat = n := by
  simp [Nat.mod_eq_of_lt h]

lemma sequenceLength?_one {n : Nat} (h : n < 0x80) : sequenceLength? (UInt8.ofNat n) = some 1 := by
  rw [sequenceLength?, if_pos]
  rw [UInt8.lt_iff_toNat_lt, toNat_octet (by omega)]
  exact h

lemma sequenceLength?_two {n : Nat} (h : 0xC2 ≤ n) (h' : n < 0xE0) :
    sequenceLength? (UInt8.ofNat n) = some 2 := by
  simp only [sequenceLength?, UInt8.lt_iff_toNat_lt, toNat_octet (show n < 256 by omega),
    UInt8.reduceToNat]
  rw [if_neg (by omega), if_neg (by omega), if_pos h']

lemma sequenceLength?_three {n : Nat} (h : 0xE0 ≤ n) (h' : n < 0xF0) :
    sequenceLength? (UInt8.ofNat n) = some 3 := by
  simp only [sequenceLength?, UInt8.lt_iff_toNat_lt, toNat_octet (show n < 256 by omega),
    UInt8.reduceToNat]
  rw [if_neg (by omega), if_neg (by omega), if_neg (by omega), if_pos h']

lemma sequenceLength?_four {n : Nat} (h : 0xF0 ≤ n) (h' : n < 0xF5) :
    sequenceLength? (UInt8.ofNat n) = some 4 := by
  simp only [sequenceLength?, UInt8.lt_iff_toNat_lt, toNat_octet (show n < 256 by omega),
    UInt8.reduceToNat]
  rw [if_neg (by omega), if_neg (by omega), if_neg (by omega), if_neg (by omega), if_pos h']

lemma isContinuation_octet (n : Nat) : isContinuation (UInt8.ofNat (n % 64 + 128)) = true := by
  simp only [isContinuation, UInt8.le_iff_toNat_le, toNat_octet (show n % 64 + 128 < 256 by omega),
    UInt8.reduceToNat, Bool.and_eq_true, decide_eq_true_eq]
  omega

lemma payload_octet (n : Nat) : payload (UInt8.ofNat (n % 64 + 128)) = n % 64 := by
  rw [payload, toNat_octet (by omega)]
  omega

/-- The second octet of a character, where four first octets leave it less room than the others. -/
lemma mayFollowFirst_octet {a n : Nat} (ha : a < 256) (he0 : a = 0xE0 → 32 ≤ n % 64)
    (hf0 : a = 0xF0 → 16 ≤ n % 64) (hed : a = 0xED → n % 64 < 32)
    (hf4 : a = 0xF4 → n % 64 < 16) :
    mayFollowFirst (UInt8.ofNat a) (UInt8.ofNat (n % 64 + 128)) = true := by
  have heq : ∀ k < 256, UInt8.ofNat a = UInt8.ofNat k ↔ a = k := by
    intro k hk
    rw [← UInt8.toNat_inj, toNat_octet ha, toNat_octet hk]
  have hrow := And.intro (And.intro (heq 0xE0 (by decide)) (heq 0xF0 (by decide)))
    (And.intro (heq 0xED (by decide)) (heq 0xF4 (by decide)))
  simp only [UInt8.reduceOfNat] at hrow
  simp only [mayFollowFirst, hrow.1.1, hrow.1.2, hrow.2.1, hrow.2.2, Bool.and_eq_true,
    decide_eq_true_eq, UInt8.le_iff_toNat_le, toNat_octet (show n % 64 + 128 < 256 by omega)]
  constructor
  · split_ifs <;> simp <;> omega
  · split_ifs <;> simp <;> omega

/-! ### Sequences by their width -/

section Widths

variable {position : Nat} {a b c d : UInt8} {rest : List UInt8}

lemma decodeUtf8From_one (ha : sequenceLength? a = some 1) :
    decodeUtf8From position (a :: rest) =
      (decodeUtf8From (position + 1) rest).map (Char.ofNat a.toNat :: ·) := by
  rw [decodeUtf8From.eq_def]
  simp only [ha]

lemma decodeUtf8From_two (ha : sequenceLength? a = some 2) (hb : mayFollowFirst a b = true) :
    decodeUtf8From position (a :: b :: rest) =
      (decodeUtf8From (position + 2) rest).map
        (Char.ofNat (a.toNat % 32 * 64 + payload b) :: ·) := by
  rw [decodeUtf8From.eq_def]
  simp only [ha, if_pos hb]

lemma decodeUtf8From_three (ha : sequenceLength? a = some 3) (hb : mayFollowFirst a b = true)
    (hc : isContinuation c = true) :
    decodeUtf8From position (a :: b :: c :: rest) =
      (decodeUtf8From (position + 3) rest).map
        (Char.ofNat ((a.toNat % 16 * 64 + payload b) * 64 + payload c) :: ·) := by
  rw [decodeUtf8From.eq_def]
  simp only [ha, if_pos hb, if_pos hc]

lemma decodeUtf8From_four (ha : sequenceLength? a = some 4) (hb : mayFollowFirst a b = true)
    (hc : isContinuation c = true) (hd : isContinuation d = true) :
    decodeUtf8From position (a :: b :: c :: d :: rest) =
      (decodeUtf8From (position + 4) rest).map
        (Char.ofNat (((a.toNat % 8 * 64 + payload b) * 64 + payload c) * 64 + payload d) :: ·) := by
  rw [decodeUtf8From.eq_def]
  simp only [ha, if_pos hb, if_pos hc, if_pos hd]

end Widths

/-! ### Texts -/

/-- A character is read back from its octets, and reading goes on behind them. -/
lemma decodeUtf8From_encodeChar (position : Nat) (c : Char) (rest : List UInt8) :
    decodeUtf8From position (String.utf8EncodeChar c ++ rest) =
      (decodeUtf8From (position + c.utf8Size) rest).map (c :: ·) := by
  have hvalid : c.toNat < 0xD800 ∨ 0xDFFF < c.toNat ∧ c.toNat < 0x110000 := c.valid
  have hchar : ∀ {n}, n = c.toNat → Char.ofNat n = c := by
    rintro n rfl
    exact Char.ofNat_toNat c
  have hval : c.val.toNat = c.toNat := rfl
  rw [← String.length_utf8EncodeChar]
  simp only [String.utf8EncodeChar, hval]
  split_ifs with hone htwo hthree <;>
    simp only [List.cons_append, List.nil_append, List.length_cons, List.length_nil, Nat.zero_add,
      Nat.reduceAdd]
  · rw [decodeUtf8From_one (sequenceLength?_one (by omega)), hchar (toNat_octet (by omega))]
  · rw [decodeUtf8From_two (sequenceLength?_two (by omega) (by omega))
      (mayFollowFirst_octet (by omega) (by omega) (by omega) (by omega) (by omega)),
      payload_octet, toNat_octet (by omega), hchar (by omega)]
  · rw [decodeUtf8From_three (sequenceLength?_three (by omega) (by omega))
      (mayFollowFirst_octet (by omega) (by omega) (by omega) (by omega) (by omega))
      (isContinuation_octet _), payload_octet, payload_octet, toNat_octet (by omega),
      hchar (by omega)]
  · rw [decodeUtf8From_four (sequenceLength?_four (by omega) (by omega))
      (mayFollowFirst_octet (by omega) (by omega) (by omega) (by omega) (by omega))
      (isContinuation_octet _) (isContinuation_octet _), payload_octet, payload_octet,
      payload_octet, toNat_octet (by omega), hchar (by omega)]

lemma encodeUtf8_cons (c : Char) (text : List Char) :
    encodeUtf8 (c :: text) = String.utf8EncodeChar c ++ encodeUtf8 text := rfl

lemma encodeUtf8_append (text more : List Char) :
    encodeUtf8 (text ++ more) = encodeUtf8 text ++ encodeUtf8 more :=
  List.flatMap_append

/-- **A text is read back from its octets.** -/
lemma decodeUtf8_encodeUtf8 (text : List Char) : decodeUtf8 (encodeUtf8 text) = .ok text := by
  have hfrom : ∀ position, decodeUtf8From position (encodeUtf8 text) = .ok text := by
    induction text with
    | nil => exact fun _ => rfl
    | cons c rest ih =>
        intro position
        rw [encodeUtf8_cons, decodeUtf8From_encodeChar, ih]
        rfl
  exact hfrom 0

/-- An octet of a character is the whole character, or none that stands for itself. -/
lemma octet_of_mem_encodeChar {c : Char} {octet : UInt8} (h : octet ∈ String.utf8EncodeChar c) :
    octet.toNat = c.toNat ∨ 128 ≤ octet.toNat := by
  have hval : c.val.toNat = c.toNat := rfl
  simp only [String.utf8EncodeChar, hval] at h
  split_ifs at h with hone htwo hthree <;>
    simp only [List.mem_cons, List.not_mem_nil, or_false] at h
  · left
    rw [h, toNat_octet (by omega)]
  · right
    rcases h with rfl | rfl <;> rw [toNat_octet (by omega)] <;> omega
  · right
    rcases h with rfl | rfl | rfl <;> rw [toNat_octet (by omega)] <;> omega
  · right
    rcases h with rfl | rfl | rfl | rfl <;> rw [toNat_octet (by omega)] <;> omega

/-- A text without line feeds has no octet that is one. -/
lemma linefeed_notMem_encodeUtf8 {text : List Char} (h : '\n' ∉ text) : 10 ∉ encodeUtf8 text := by
  intro hmem
  obtain ⟨c, hc, hoctet⟩ := List.mem_flatMap.mp hmem
  rcases octet_of_mem_encodeChar hoctet with hcode | hhigh
  · have hc' : c = '\n' := by
      rw [← Char.ofNat_toNat c, ← hcode]
      rfl
    exact h (hc' ▸ hc)
  · exact absurd hhigh (by decide)

end SourceLayers
