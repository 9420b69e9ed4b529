import Codemod.Encoding.Utf8
import Mathlib.Data.List.Basic

set_option autoImplicit false

/-! # UTF-8 there and back

Encoded text is decoded to the text that it was (`decode_encode`), and bytes that can be decoded are
those of the text (`encode_of_decode`): they are what the standard library takes for UTF-8
(`exists_decode_iff`). The bytes of one character are taken together: what stands
after them has no part in it, so the text follows character by character. -/

namespace Codemod.Encoding.Utf8

/-! ## Bytes as numbers -/

theorem toNat_ofNat {n : Nat} (h : n < 256) : (UInt8.ofNat n).toNat = n := by
  rw [UInt8.toNat_ofNat']
  omega

theorem toNat_continuation (k : Nat) : (UInt8.ofNat (0x80 + k % 64)).toNat = 0x80 + k % 64 :=
  toNat_ofNat (by omega)

theorem isContinuation_iff (b : UInt8) :
    isContinuation b = true ↔ 0x80 ≤ b.toNat ∧ b.toNat ≤ 0xBF := by
  simp [isContinuation, UInt8.le_iff_toNat_le]

theorem isContinuation_continuation (k : Nat) :
    isContinuation (UInt8.ofNat (0x80 + k % 64)) = true := by
  rw [isContinuation_iff, toNat_continuation]
  omega

theorem payload_continuation (k : Nat) : payload (UInt8.ofNat (0x80 + k % 64)) = k % 64 := by
  have h := toNat_continuation k
  unfold payload
  generalize (UInt8.ofNat (0x80 + k % 64)).toNat = m at h
  omega

/-! ## First bytes -/

theorem lengthOfFirst_of_one {b : UInt8} (h : b.toNat < 0x80) : lengthOfFirst b = some 1 := by
  simp [lengthOfFirst, UInt8.lt_iff_toNat_lt, h]

theorem lengthOfFirst_of_two {b : UInt8} (h₁ : 0xC2 ≤ b.toNat) (h₂ : b.toNat ≤ 0xDF) :
    lengthOfFirst b = some 2 := by
  have h : ¬ b.toNat < 0x80 := by omega
  simp [lengthOfFirst, UInt8.lt_iff_toNat_lt, UInt8.le_iff_toNat_le, h, h₁, h₂]

theorem lengthOfFirst_of_three {b : UInt8} (h₁ : 0xE0 ≤ b.toNat) (h₂ : b.toNat ≤ 0xEF) :
    lengthOfFirst b = some 3 := by
  have h : ¬ b.toNat < 0x80 := by omega
  have h' : ¬ b.toNat ≤ 0xDF := by omega
  simp [lengthOfFirst, UInt8.lt_iff_toNat_lt, UInt8.le_iff_toNat_le, h, h', h₁, h₂]

theorem lengthOfFirst_of_four {b : UInt8} (h₁ : 0xF0 ≤ b.toNat) (h₂ : b.toNat ≤ 0xF4) :
    lengthOfFirst b = some 4 := by
  have h : ¬ b.toNat < 0x80 := by omega
  have h' : ¬ b.toNat ≤ 0xDF := by omega
  have h'' : ¬ b.toNat ≤ 0xEF := by omega
  simp [lengthOfFirst, UInt8.lt_iff_toNat_lt, UInt8.le_iff_toNat_le, h, h', h'', h₁, h₂]

/-! ## Second bytes -/

theorem isSecondOfThree_iff (first b : UInt8) :
    isSecondOfThree first b = true ↔
      if first.toNat = 0xE0 then 0xA0 ≤ b.toNat ∧ b.toNat ≤ 0xBF
      else if first.toNat = 0xED then 0x80 ≤ b.toNat ∧ b.toNat ≤ 0x9F
      else 0x80 ≤ b.toNat ∧ b.toNat ≤ 0xBF := by
  simp only [isSecondOfThree, beq_iff_eq, ← UInt8.toNat_inj]
  split_ifs with h₁ h₂ h₃ h₄ <;> simp_all [isContinuation_iff, UInt8.le_iff_toNat_le]

theorem isSecondOfFour_iff (first b : UInt8) :
    isSecondOfFour first b = true ↔
      if first.toNat = 0xF0 then 0x90 ≤ b.toNat ∧ b.toNat ≤ 0xBF
      else if first.toNat = 0xF4 then 0x80 ≤ b.toNat ∧ b.toNat ≤ 0x8F
      else 0x80 ≤ b.toNat ∧ b.toNat ≤ 0xBF := by
  simp only [isSecondOfFour, beq_iff_eq, ← UInt8.toNat_inj]
  split_ifs with h₁ h₂ h₃ h₄ <;> simp_all [isContinuation_iff, UInt8.le_iff_toNat_le]

theorem isSecondOfThree_of {n : Nat} (h : 0x800 ≤ n) (h' : n < 0x10000)
    (hn : n < 0xD800 ∨ 0xE000 ≤ n) :
    isSecondOfThree (UInt8.ofNat (0xE0 + n / 4096)) (UInt8.ofNat (0x80 + n / 64 % 64)) = true := by
  rw [isSecondOfThree_iff, toNat_ofNat (by omega : 0xE0 + n / 4096 < 256), toNat_continuation]
  split_ifs with h₁ h₂
  · omega
  · omega
  · omega

theorem isSecondOfFour_of {n : Nat} (h : 0x10000 ≤ n) (h' : n < 0x110000) :
    isSecondOfFour (UInt8.ofNat (0xF0 + n / 262144)) (UInt8.ofNat (0x80 + n / 4096 % 64)) =
      true := by
  rw [isSecondOfFour_iff, toNat_ofNat (by omega : 0xF0 + n / 262144 < 256), toNat_continuation]
  split_ifs with h₁ h₂
  · omega
  · omega
  · omega

/-! ## Characters -/

/-- No character has the number of half a pair of units. -/
theorem toNat_valid (c : Char) : c.toNat < 0xD800 ∨ 0xE000 ≤ c.toNat ∧ c.toNat < 0x110000 := by
  have h : c.val.toNat.isValidChar := c.valid
  have hval : c.toNat = c.val.toNat := rfl
  rw [Nat.isValidChar] at h
  omega

/-- The bytes of a character are decoded to it, whatever stands after them. -/
theorem decodeFrom_encodeChar (i : Nat) (c : Char) (rest : List UInt8) :
    decodeFrom i (encodeChar c ++ rest) =
      (decodeFrom (i + (encodeChar c).length) rest).map (c :: ·) := by
  have hc := toNat_valid c
  have hof := Char.ofNat_toNat c
  unfold encodeChar
  generalize c.toNat = n at hc hof
  simp only
  -- One case for each number of bytes; in each of them the bits are put together again.
  split_ifs with h₁ h₂ h₃
  · have hb : (UInt8.ofNat n).toNat = n := toNat_ofNat (by omega)
    have hl : lengthOfFirst (UInt8.ofNat n) = some 1 := lengthOfFirst_of_one (by omega)
    simp only [List.cons_append, List.nil_append, decodeFrom, hl, hb, hof, List.length_cons,
      List.length_nil]
  · have hb : (UInt8.ofNat (0xC0 + n / 64)).toNat = 0xC0 + n / 64 := toNat_ofNat (by omega)
    have hl : lengthOfFirst (UInt8.ofNat (0xC0 + n / 64)) = some 2 :=
      lengthOfFirst_of_two (by omega) (by omega)
    have hn : (0xC0 + n / 64 - 0xC0) * 64 + n % 64 = n := by omega
    simp only [List.cons_append, List.nil_append, decodeFrom, hl, isContinuation_continuation,
      if_true, hb, payload_continuation, hn, hof, List.length_cons, List.length_nil]
  · have hb : (UInt8.ofNat (0xE0 + n / 4096)).toNat = 0xE0 + n / 4096 := toNat_ofNat (by omega)
    have hl : lengthOfFirst (UInt8.ofNat (0xE0 + n / 4096)) = some 3 :=
      lengthOfFirst_of_three (by omega) (by omega)
    have hn : ((0xE0 + n / 4096 - 0xE0) * 64 + n / 64 % 64) * 64 + n % 64 = n := by omega
    simp only [List.cons_append, List.nil_append, decodeFrom, hl,
      isSecondOfThree_of (by omega) (by omega) (by omega : n < 0xD800 ∨ 0xE000 ≤ n),
      isContinuation_continuation, Bool.not_true, Bool.false_eq_true, if_false, hb,
      payload_continuation, hn, hof, List.length_cons, List.length_nil]
  · have hb : (UInt8.ofNat (0xF0 + n / 262144)).toNat = 0xF0 + n / 262144 :=
      toNat_ofNat (by omega)
    have hl : lengthOfFirst (UInt8.ofNat (0xF0 + n / 262144)) = some 4 :=
      lengthOfFirst_of_four (by omega) (by omega)
    have hn : (((0xF0 + n / 262144 - 0xF0) * 64 + n / 4096 % 64) * 64 + n / 64 % 64) * 64 + n % 64
        = n := by omega
    simp only [List.cons_append, List.nil_append, decodeFrom, hl,
      isSecondOfFour_of (by omega : 0x10000 ≤ n) (by omega), isContinuation_continuation,
      Bool.not_true, Bool.false_eq_true, if_false, hb, payload_continuation, hn, hof,
      List.length_cons, List.length_nil]

/-! ## Texts -/

theorem decodeFrom_encode (i : Nat) (s : List Char) : decodeFrom i (encode s) = .ok s := by
  induction s generalizing i with
  | nil => rfl
  | cons c rest ih =>
    rw [encode, List.flatMap_cons, decodeFrom_encodeChar, ← encode, ih]
    rfl

/-- Text survives its encoding. -/
theorem decode_encode (s : List Char) : decode (encode s) = .ok s :=
  decodeFrom_encode 0 s

/-! ## Back again -/

theorem toNat_charOfNat {n : Nat} (h : n < 0xD800 ∨ 0xE000 ≤ n ∧ n < 0x110000) :
    (Char.ofNat n).toNat = n := by
  have hvalid : n.isValidChar := by
    rw [Nat.isValidChar]
    omega
  rw [Char.ofNat, dif_pos hvalid]
  exact UInt32.toNat_ofNatLT ..

theorem ofNat_eq {b : UInt8} {n : Nat} (h : n = b.toNat) : UInt8.ofNat n = b := by
  rw [h, UInt8.ofNat_toNat]

/-- A first byte tells how many bytes there are because of the range in which it is. -/
theorem lengthOfFirst_eq_some {b : UInt8} {n : Nat} (h : lengthOfFirst b = some n) :
    n = 1 ∧ b.toNat < 0x80 ∨ n = 2 ∧ 0xC2 ≤ b.toNat ∧ b.toNat ≤ 0xDF ∨
      n = 3 ∧ 0xE0 ≤ b.toNat ∧ b.toNat ≤ 0xEF ∨ n = 4 ∧ 0xF0 ≤ b.toNat ∧ b.toNat ≤ 0xF4 := by
  simp only [lengthOfFirst, Bool.and_eq_true, decide_eq_true_eq, UInt8.lt_iff_toNat_lt,
    UInt8.le_iff_toNat_le] at h
  split_ifs at h with h₁ h₂ h₃ h₄
  · cases h
    exact .inl ⟨rfl, h₁⟩
  · cases h
    exact .inr (.inl ⟨rfl, h₂⟩)
  · cases h
    exact .inr (.inr (.inl ⟨rfl, h₃⟩))
  · cases h
    exact .inr (.inr (.inr ⟨rfl, h₄⟩))

theorem encodeChar_one {b : UInt8} (h : lengthOfFirst b = some 1) :
    encodeChar (Char.ofNat b.toNat) = [b] := by
  have hb := lengthOfFirst_eq_some h
  rw [encodeChar, toNat_charOfNat (by omega)]
  simp only
  rw [if_pos (by omega), ofNat_eq rfl]

theorem encodeChar_two {b b₂ : UInt8} (h : lengthOfFirst b = some 2)
    (h₂ : isContinuation b₂ = true) :
    encodeChar (Char.ofNat ((b.toNat - 0xC0) * 64 + payload b₂)) = [b, b₂] := by
  have hb := lengthOfFirst_eq_some h
  rw [isContinuation_iff] at h₂
  rw [encodeChar, toNat_charOfNat (by unfold payload; omega)]
  unfold payload
  simp only
  rw [if_neg (by omega), if_pos (by omega), ofNat_eq (by omega : _ = b.toNat),
    ofNat_eq (by omega : _ = b₂.toNat)]

theorem encodeChar_three {b b₂ b₃ : UInt8} (h : lengthOfFirst b = some 3)
    (h₂ : isSecondOfThree b b₂ = true) (h₃ : isContinuation b₃ = true) :
    encodeChar (Char.ofNat (((b.toNat - 0xE0) * 64 + payload b₂) * 64 + payload b₃)) =
      [b, b₂, b₃] := by
  have hb := lengthOfFirst_eq_some h
  rw [isContinuation_iff] at h₃
  rw [isSecondOfThree_iff] at h₂
  have hrange : 0x80 ≤ b₂.toNat ∧ b₂.toNat ≤ 0xBF ∧ (b.toNat = 0xE0 → 0xA0 ≤ b₂.toNat) ∧
      (b.toNat = 0xED → b₂.toNat ≤ 0x9F) := by
    split_ifs at h₂ <;> omega
  rw [encodeChar, toNat_charOfNat (by unfold payload; omega)]
  unfold payload
  simp only
  rw [if_neg (by omega), if_neg (by omega), if_pos (by omega), ofNat_eq (by omega : _ = b.toNat),
    ofNat_eq (by omega : _ = b₂.toNat), ofNat_eq (by omega : _ = b₃.toNat)]

theorem encodeChar_four {b b₂ b₃ b₄ : UInt8} (h : lengthOfFirst b = some 4)
    (h₂ : isSecondOfFour b b₂ = true) (h₃ : isContinuation b₃ = true)
    (h₄ : isContinuation b₄ = true) :
    encodeChar (Char.ofNat
      ((((b.toNat - 0xF0) * 64 + payload b₂) * 64 + payload b₃) * 64 + payload b₄)) =
      [b, b₂, b₃, b₄] := by
  have hb := lengthOfFirst_eq_some h
  rw [isContinuation_iff] at h₃ h₄
  rw [isSecondOfFour_iff] at h₂
  have hrange : 0x80 ≤ b₂.toNat ∧ b₂.toNat ≤ 0xBF ∧ (b.toNat = 0xF0 → 0x90 ≤ b₂.toNat) ∧
      (b.toNat = 0xF4 → b₂.toNat ≤ 0x8F) := by
    split_ifs at h₂ <;> omega
  rw [encodeChar, toNat_charOfNat (by unfold payload; omega)]
  unfold payload
  simp only
  rw [if_neg (by omega), if_neg (by omega), if_neg (by omega), ofNat_eq (by omega : _ = b.toNat),
    ofNat_eq (by omega : _ = b₂.toNat), ofNat_eq (by omega : _ = b₃.toNat),
    ofNat_eq (by omega : _ = b₄.toNat)]

theorem encode_cons (c : Char) (s : List Char) : encode (c :: s) = encodeChar c ++ encode s :=
  List.flatMap_cons

/-- If the rest comes from the bytes of its text then so does the whole. -/
theorem encode_of_map {i : Nat} {c : Char} {bytes rest : List UInt8} {s : List Char}
    (hc : encodeChar c = bytes) (ih : ∀ {t}, decodeFrom i rest = .ok t → encode t = rest)
    (h : (decodeFrom i rest).map (c :: ·) = .ok s) : encode s = bytes ++ rest := by
  rcases hrest : decodeFrom i rest with e | t
  · rw [hrest] at h
    cases h
  · rw [hrest] at h
    cases h
    rw [encode_cons, hc, ih hrest]

/-- Whatever is decoded comes from the bytes of the text. -/
theorem encode_of_decodeFrom {i : Nat} {bytes : List UInt8} {s : List Char}
    (h : decodeFrom i bytes = .ok s) : encode s = bytes := by
  induction i, bytes using decodeFrom.induct generalizing s with
  | case1 i =>
    cases h
    rfl
  | case2 i b rest hl ih =>
    simp only [decodeFrom, hl] at h
    exact encode_of_map (encodeChar_one hl) ih h
  | case4 i b b₂ rest hl h₂ ih =>
    simp only [decodeFrom, hl, h₂, if_true] at h
    exact encode_of_map (encodeChar_two hl h₂) ih h
  | case11 i b b₂ b₃ rest hl h₂ h₃ ih =>
    rw [Bool.not_eq_true', Bool.not_eq_false] at h₂ h₃
    simp only [decodeFrom, hl, h₂, h₃, Bool.not_true, Bool.false_eq_true, if_false] at h
    exact encode_of_map (encodeChar_three hl h₂ h₃) ih h
  | case21 i b b₂ b₃ b₄ rest hl h₂ h₃ h₄ ih =>
    rw [Bool.not_eq_true', Bool.not_eq_false] at h₂ h₃ h₄
    simp only [decodeFrom, hl, h₂, h₃, h₄, Bool.not_true, Bool.false_eq_true, if_false] at h
    exact encode_of_map (encodeChar_four hl h₂ h₃ h₄) ih h
  | _ => simp_all [decodeFrom]

/-- Bytes that are text are the bytes of that text. -/
theorem encode_of_decode {bytes : List UInt8} {s : List Char} (h : decode bytes = .ok s) :
    encode s = bytes :=
  encode_of_decodeFrom h

/-- Different texts have different bytes. -/
theorem encode_injective : Function.Injective encode := by
  intro s t h
  have hs := decode_encode s
  rw [h, decode_encode t] at hs
  cases hs
  rfl

/-! ## Valid bytes -/

/-- The bytes of a character are those that the standard library gives it. -/
theorem encodeChar_eq_utf8EncodeChar (c : Char) : encodeChar c = String.utf8EncodeChar c := by
  have hc := toNat_valid c
  have hval : c.val.toNat = c.toNat := rfl
  unfold encodeChar String.utf8EncodeChar
  simp only [hval]
  generalize c.toNat = n at hc ⊢
  -- The bounds of one are strict where those of the other are not, and what the one leaves out of a
  -- first byte is nothing for a number within its bounds.
  by_cases h₁ : n < 0x80
  · rw [if_pos h₁, if_pos (by omega : n ≤ 127)]
  rw [if_neg h₁, if_neg (by omega : ¬ n ≤ 127)]
  by_cases h₂ : n < 0x800
  · rw [if_pos h₂, if_pos (by omega : n ≤ 2047)]
    have hfirst : n / 64 % 32 = n / 64 := by omega
    rw [hfirst, Nat.add_comm 192, Nat.add_comm 128]
  rw [if_neg h₂, if_neg (by omega : ¬ n ≤ 2047)]
  by_cases h₃ : n < 0x10000
  · rw [if_pos h₃, if_pos (by omega : n ≤ 65535)]
    have hfirst : n / 4096 % 16 = n / 4096 := by omega
    rw [hfirst, Nat.add_comm 224, Nat.add_comm 128, Nat.add_comm 128]
  rw [if_neg h₃, if_neg (by omega : ¬ n ≤ 65535)]
  have hfirst : n / 262144 % 8 = n / 262144 := by omega
  rw [hfirst, Nat.add_comm 240, Nat.add_comm 128, Nat.add_comm 128, Nat.add_comm 128]

/-- Nor do the bytes of a text differ. -/
theorem toByteArray_encode (s : List Char) : (encode s).toByteArray = s.utf8Encode := by
  rw [encode, List.utf8Encode, funext encodeChar_eq_utf8EncodeChar]

/-- What can be decoded are the bytes that the standard library takes for a text. -/
theorem exists_decode_iff {bytes : List UInt8} :
    (∃ s, decode bytes = .ok s) ↔ bytes.toByteArray.IsValidUTF8 := by
  constructor
  · rintro ⟨s, h⟩
    rw [← encode_of_decode h, toByteArray_encode]
    exact ⟨s, rfl⟩
  · rintro ⟨s, h⟩
    rw [← toByteArray_encode] at h
    have hbytes : bytes = encode s := by
      simpa using congrArg (fun b => b.data.toList) h
    exact ⟨s, hbytes ▸ decode_encode s⟩

/-! ## Characters of one byte -/

theorem encodeChar_of_lt {c : Char} (h : c.toNat < 0x80) :
    encodeChar c = [UInt8.ofNat c.toNat] := if_pos h

/-- A byte below `0x80` is never a part of a longer character. -/
theorem toNat_of_mem_encodeChar {c : Char} {b : UInt8} (h : b ∈ encodeChar c)
    (hb : b.toNat < 0x80) : c.toNat = b.toNat := by
  have hvalid := toNat_valid c
  have hcontinuation : ∀ k, b ≠ UInt8.ofNat (0x80 + k % 64) := by
    rintro k rfl
    rw [toNat_continuation] at hb
    omega
  have hfirst : ∀ n, 0x80 ≤ n → n < 256 → b ≠ UInt8.ofNat n := by
    rintro n hle hlt rfl
    rw [toNat_ofNat hlt] at hb
    omega
  simp only [encodeChar] at h
  split at h
  · rw [List.mem_singleton] at h
    rw [h, toNat_ofNat (by omega)]
  · split at h
    · simp only [List.mem_cons, List.not_mem_nil, or_false, hcontinuation] at h
      exact absurd h (hfirst _ (by omega) (by omega))
    · split at h
      · simp only [List.mem_cons, List.not_mem_nil, or_false, hcontinuation] at h
        exact absurd h (hfirst _ (by omega) (by omega))
      · simp only [List.mem_cons, List.not_mem_nil, or_false, hcontinuation] at h
        exact absurd h (hfirst _ (by omega) (by omega))

theorem encodeChar_eq_singleton {c : Char} {b : UInt8} (h : b ∈ encodeChar c)
    (hb : b.toNat < 0x80) : encodeChar c = [b] := by
  have hc := toNat_of_mem_encodeChar h hb
  rw [encodeChar_of_lt (by omega), hc, UInt8.ofNat_toNat]

theorem exists_of_mem_encode {s : List Char} {b : UInt8} (h : b ∈ encode s)
    (hb : b.toNat < 0x80) : ∃ c ∈ s, c.toNat = b.toNat := by
  obtain ⟨c, hc, hmem⟩ := List.mem_flatMap.1 h
  exact ⟨c, hc, toNat_of_mem_encodeChar hmem hb⟩

theorem encode_append (s t : List Char) : encode (s ++ t) = encode s ++ encode t :=
  List.flatMap_append

/-- A byte below `0x80` stands between two texts wherever it stands in one. -/
theorem exists_of_encode_eq {s : List Char} {before after : List UInt8} {b : UInt8}
    (hb : b.toNat < 0x80) (h : encode s = before ++ b :: after) :
    ∃ s₁ s₂, encode s₁ = before ∧ encode s₂ = after := by
  induction s generalizing before with
  | nil => exact absurd h.symm (List.append_ne_nil_of_right_ne_nil _ (List.cons_ne_nil _ _))
  | cons c s ih =>
    rw [encode_cons] at h
    rcases List.append_eq_append_iff.mp h with ⟨front, rfl, hrest⟩ | ⟨front, hc, hrest⟩
    · -- the byte comes behind the first character
      obtain ⟨s₁, s₂, rfl, hafter⟩ := ih hrest
      exact ⟨c :: s₁, s₂, encode_cons c s₁, hafter⟩
    · cases front with
      | nil =>
        rw [List.append_nil] at hc
        have hbehind : encode s = [] ++ b :: after := hrest.symm
        obtain ⟨s₁, s₂, hempty, hafter⟩ := ih hbehind
        exact ⟨c :: s₁, s₂, by rw [encode_cons, hempty, hc, List.append_nil], hafter⟩
      | cons d front =>
        -- it is the first character
        obtain ⟨rfl, hafter⟩ := List.cons_eq_cons.mp hrest
        have hone := encodeChar_eq_singleton (hc ▸ List.mem_append_right _ List.mem_cons_self) hb
        rw [hone] at hc
        obtain ⟨rfl, hfront⟩ : before = [] ∧ front = [] := by
          cases before with
          | nil => exact ⟨rfl, (List.cons_eq_cons.mp hc).2.symm⟩
          | cons _ before => simp at hc
        subst hfront
        exact ⟨[], s, rfl, hafter.symm⟩

theorem length_encode {s : List Char} (h : ∀ c ∈ s, c.toNat < 0x80) :
    (encode s).length = s.length := by
  induction s with
  | nil => rfl
  | cons c s ih =>
    rw [List.forall_mem_cons] at h
    rw [encode_cons, encodeChar_of_lt h.1, List.singleton_append, List.length_cons,
      List.length_cons, ih h.2]

end Codemod.Encoding.Utf8
