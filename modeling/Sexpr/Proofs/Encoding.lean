import Sexpr.Text.Utf8

/-!
# Bytes of a text

The bytes that encode a text are decoded to it (`Utf8.decode_encode`). Each character is decoded
from its own bytes, whatever comes after them (`Utf8.decodeFrom_char`): the first byte announces how
many follow and where the second may lie (`lead?_two`, `lead?_three`, `lead?_four`), and each of
those adds six bits (`decodeFrom_two`, `decodeFrom_three`, `decodeFrom_four`).
-/

namespace Sexpr.Text.Utf8

theorem within_eq_true {low high byte : UInt8} :
    within low high byte = true ↔ low.toNat ≤ byte.toNat ∧ byte.toNat ≤ high.toNat := by
  rw [within, Bool.and_eq_true, decide_eq_true_eq, decide_eq_true_eq, UInt8.le_iff_toNat_le,
    UInt8.le_iff_toNat_le]

theorem within_eq_false {low high byte : UInt8} :
    within low high byte = false ↔ byte.toNat < low.toNat ∨ high.toNat < byte.toNat := by
  rw [← Bool.not_eq_true, within_eq_true]
  omega

theorem toNat_byte {n : Nat} (h : n < 256) : (UInt8.ofNat n).toNat = n := by
  rw [UInt8.toNat_ofNat']
  exact Nat.mod_eq_of_lt h

theorem byte_eq_iff {byte : UInt8} {n : Nat} (h : n < 256) :
    byte = UInt8.ofNat n ↔ byte.toNat = n := by
  rw [← UInt8.toNat_inj, toNat_byte h]

/-! ## First bytes -/

theorem lead?_two {byte : UInt8} (hl : 0xc2 ≤ byte.toNat) (hh : byte.toNat ≤ 0xdf) :
    lead? byte = some ⟨1, byte.toNat - 0xc0, 0x80, 0xbf⟩ := by
  have h₂ : within 0xc2 0xdf byte = true := within_eq_true.mpr ⟨hl, hh⟩
  rw [lead?, if_pos h₂]

/-- The second byte of three keeps out what two bytes hold, and surrogates. -/
theorem lead?_three {byte : UInt8} (hl : 0xe0 ≤ byte.toNat) (hh : byte.toNat ≤ 0xef) :
    ∃ low high : UInt8, lead? byte = some ⟨2, byte.toNat - 0xe0, low, high⟩ ∧
      low.toNat = (if byte.toNat = 0xe0 then 0xa0 else 0x80) ∧
      high.toNat = (if byte.toNat = 0xed then 0x9f else 0xbf) := by
  have h₂ : within 0xc2 0xdf byte = false :=
    within_eq_false.mpr (.inr (Nat.lt_of_lt_of_le (by decide) hl))
  have he₀ : byte = 0xe0 ↔ byte.toNat = 0xe0 := byte_eq_iff (by decide)
  have hed : byte = 0xed ↔ byte.toNat = 0xed := byte_eq_iff (by decide)
  simp only [lead?, h₂, Bool.false_eq_true, if_false, he₀, hed]
  split
  · rename_i h
    exact ⟨0xa0, 0xbf, by rw [h], rfl, by rw [if_neg (by omega)]; rfl⟩
  split
  · rename_i h
    exact ⟨0x80, 0x9f, by rw [h], rfl, rfl⟩
  · have h₃ : within 0xe1 0xef byte = true :=
      within_eq_true.mpr ⟨show 0xe1 ≤ byte.toNat by omega, hh⟩
    exact ⟨0x80, 0xbf, by rw [if_pos h₃], rfl, rfl⟩

/-- The second byte of four keeps out what three bytes hold, and what is no code point. -/
theorem lead?_four {byte : UInt8} (hl : 0xf0 ≤ byte.toNat) (hh : byte.toNat ≤ 0xf4) :
    ∃ low high : UInt8, lead? byte = some ⟨3, byte.toNat - 0xf0, low, high⟩ ∧
      low.toNat = (if byte.toNat = 0xf0 then 0x90 else 0x80) ∧
      high.toNat = (if byte.toNat = 0xf4 then 0x8f else 0xbf) := by
  have h₂ : within 0xc2 0xdf byte = false :=
    within_eq_false.mpr (.inr (Nat.lt_of_lt_of_le (by decide) hl))
  have h₃ : within 0xe1 0xef byte = false :=
    within_eq_false.mpr (.inr (Nat.lt_of_lt_of_le (by decide) hl))
  have he₀ : byte = 0xe0 ↔ byte.toNat = 0xe0 := byte_eq_iff (by decide)
  have hed : byte = 0xed ↔ byte.toNat = 0xed := byte_eq_iff (by decide)
  have hf₀ : byte = 0xf0 ↔ byte.toNat = 0xf0 := byte_eq_iff (by decide)
  have hf₄ : byte = 0xf4 ↔ byte.toNat = 0xf4 := byte_eq_iff (by decide)
  simp only [lead?, h₂, h₃, Bool.false_eq_true, if_false, he₀, hed, hf₀, hf₄,
    show byte.toNat ≠ 0xe0 by omega, show byte.toNat ≠ 0xed by omega]
  split
  · rename_i h
    exact ⟨0x90, 0xbf, by rw [h], rfl, by rw [if_neg (by omega)]; rfl⟩
  split
  · rename_i h
    exact ⟨0x80, 0x8f, by rw [h], rfl, rfl⟩
  · have h₄ : within 0xf1 0xf3 byte = true :=
      within_eq_true.mpr ⟨show 0xf1 ≤ byte.toNat by omega, show byte.toNat ≤ 0xf3 by omega⟩
    exact ⟨0x80, 0xbf, by rw [if_pos h₄], rfl, rfl⟩

/-! ## One byte after the other -/

theorem decodeFrom_ascii {byte : UInt8} (h : byte.toNat < 0x80) (offset : Nat) (done : List Char)
    (rest : List UInt8) :
    decodeFrom offset done none (byte :: rest) =
      decodeFrom (offset + 1) (Char.ofNat byte.toNat :: done) none rest := by
  rw [decodeFrom, if_pos (UInt8.lt_iff_toNat_lt.mpr h)]

theorem decodeFrom_lead {byte : UInt8} {lead : Lead} (h : 0x80 ≤ byte.toNat)
    (hl : lead? byte = some lead) (offset : Nat) (done : List Char) (rest : List UInt8) :
    decodeFrom offset done none (byte :: rest) =
      decodeFrom (offset + 1) done
        (some ⟨offset, byte, 1, lead.following, lead.payload, lead.low, lead.high⟩) rest := by
  have hn : ¬ byte < 0x80 := by
    rw [UInt8.lt_iff_toNat_lt]
    exact Nat.not_lt.mpr h
  rw [decodeFrom, if_neg hn, hl]

/-- A byte in the middle of a sequence adds six bits, and after it any six bits may come. -/
theorem decodeFrom_more {low high byte : UInt8} {accepted expected : Nat}
    (hl : low.toNat ≤ byte.toNat) (hh : byte.toNat ≤ high.toNat) (hm : accepted ≠ expected)
    (offset start value : Nat) (first : UInt8) (done : List Char) (rest : List UInt8) :
    decodeFrom offset done (some ⟨start, first, accepted, expected, value, low, high⟩)
        (byte :: rest) =
      decodeFrom (offset + 1) done
        (some ⟨start, first, accepted + 1, expected, value * 64 + (byte.toNat - 0x80), 0x80, 0xbf⟩)
        rest := by
  rw [decodeFrom]
  dsimp only
  rw [if_pos (within_eq_true.mpr ⟨hl, hh⟩), if_neg hm]

/-- The last byte of a sequence completes a character. -/
theorem decodeFrom_last {low high byte : UInt8} (hl : low.toNat ≤ byte.toNat)
    (hh : byte.toNat ≤ high.toNat) (offset start value expected : Nat) (first : UInt8)
    (done : List Char) (rest : List UInt8) :
    decodeFrom offset done (some ⟨start, first, expected, expected, value, low, high⟩)
        (byte :: rest) =
      decodeFrom (offset + 1) (Char.ofNat (value * 64 + (byte.toNat - 0x80)) :: done) none
        rest := by
  rw [decodeFrom]
  dsimp only
  rw [if_pos (within_eq_true.mpr ⟨hl, hh⟩), if_pos rfl]

/-! ## Characters -/

/-- A byte that stands second or later in a sequence. -/
theorem continuation_bounds {n : Nat} (h : n < 64) :
    (0x80 : UInt8).toNat ≤ (UInt8.ofNat (n + 0x80)).toNat ∧
      (UInt8.ofNat (n + 0x80)).toNat ≤ (0xbf : UInt8).toNat := by
  have hb : (0x80 : UInt8).toNat = 0x80 ∧ (0xbf : UInt8).toNat = 0xbf := ⟨rfl, rfl⟩
  rw [toNat_byte (by omega), hb.1, hb.2]
  omega

theorem decodeFrom_two {a b : Nat} (ha : 2 ≤ a ∧ a < 0x20) (hb : b < 64) (offset : Nat)
    (done : List Char) (rest : List UInt8) :
    decodeFrom offset done none (UInt8.ofNat (a + 0xc0) :: UInt8.ofNat (b + 0x80) :: rest) =
      decodeFrom (offset + 2) (Char.ofNat (a * 64 + b) :: done) none rest := by
  have h₀ : (UInt8.ofNat (a + 0xc0)).toNat = a + 0xc0 := toNat_byte (by omega)
  obtain ⟨hl, hh⟩ := continuation_bounds hb
  rw [decodeFrom_lead (by omega) (lead?_two (by omega) (by omega)), decodeFrom_last hl hh, h₀,
    toNat_byte (by omega), Nat.add_sub_cancel, Nat.add_sub_cancel]

theorem decodeFrom_three {a b c : Nat} (ha : a < 0x10) (hb : b < 64) (hc : c < 64)
    (hs : a = 0 → 0x20 ≤ b) (hd : a = 0xd → b < 0x20) (offset : Nat) (done : List Char)
    (rest : List UInt8) :
    decodeFrom offset done none
        (UInt8.ofNat (a + 0xe0) :: UInt8.ofNat (b + 0x80) :: UInt8.ofNat (c + 0x80) :: rest) =
      decodeFrom (offset + 3) (Char.ofNat ((a * 64 + b) * 64 + c) :: done) none rest := by
  have h₀ : (UInt8.ofNat (a + 0xe0)).toNat = a + 0xe0 := toNat_byte (by omega)
  have h₁ : (UInt8.ofNat (b + 0x80)).toNat = b + 0x80 := toNat_byte (by omega)
  obtain ⟨low, high, hlead, hlow, hhigh⟩ := lead?_three
    (show 0xe0 ≤ (UInt8.ofNat (a + 0xe0)).toNat by omega) (by omega)
  rw [h₀] at hlow hhigh
  have hl : low.toNat ≤ (UInt8.ofNat (b + 0x80)).toNat := by split at hlow <;> omega
  have hh : (UInt8.ofNat (b + 0x80)).toNat ≤ high.toNat := by split at hhigh <;> omega
  obtain ⟨hl', hh'⟩ := continuation_bounds hc
  rw [decodeFrom_lead (by omega) hlead, decodeFrom_more hl hh (by decide : 1 ≠ 2),
    decodeFrom_last hl' hh', h₀, h₁, toNat_byte (by omega), Nat.add_sub_cancel,
    Nat.add_sub_cancel, Nat.add_sub_cancel]

theorem decodeFrom_four {a b c d : Nat} (ha : a < 5) (hb : b < 64) (hc : c < 64) (hd : d < 64)
    (hs : a = 0 → 0x10 ≤ b) (ht : a = 4 → b < 0x10) (offset : Nat) (done : List Char)
    (rest : List UInt8) :
    decodeFrom offset done none
        (UInt8.ofNat (a + 0xf0) :: UInt8.ofNat (b + 0x80) :: UInt8.ofNat (c + 0x80) ::
          UInt8.ofNat (d + 0x80) :: rest) =
      decodeFrom (offset + 4) (Char.ofNat (((a * 64 + b) * 64 + c) * 64 + d) :: done) none
        rest := by
  have h₀ : (UInt8.ofNat (a + 0xf0)).toNat = a + 0xf0 := toNat_byte (by omega)
  have h₁ : (UInt8.ofNat (b + 0x80)).toNat = b + 0x80 := toNat_byte (by omega)
  obtain ⟨low, high, hlead, hlow, hhigh⟩ := lead?_four
    (show 0xf0 ≤ (UInt8.ofNat (a + 0xf0)).toNat by omega) (by omega)
  rw [h₀] at hlow hhigh
  have hl : low.toNat ≤ (UInt8.ofNat (b + 0x80)).toNat := by split at hlow <;> omega
  have hh : (UInt8.ofNat (b + 0x80)).toNat ≤ high.toNat := by split at hhigh <;> omega
  obtain ⟨hl₂, hh₂⟩ := continuation_bounds hc
  obtain ⟨hl₃, hh₃⟩ := continuation_bounds hd
  rw [decodeFrom_lead (by omega) hlead, decodeFrom_more hl hh (by decide : 1 ≠ 3),
    decodeFrom_more hl₂ hh₂ (by decide : 1 + 1 ≠ 3), decodeFrom_last hl₃ hh₃, h₀, h₁,
    toNat_byte (by omega), toNat_byte (by omega), Nat.add_sub_cancel, Nat.add_sub_cancel,
    Nat.add_sub_cancel, Nat.add_sub_cancel]

/-- The bytes of a character are decoded to it, whatever comes after them. -/
theorem decodeFrom_char (c : Char) (rest : List UInt8) (done : List Char) (offset : Nat) :
    ∃ next, decodeFrom offset done none (String.utf8EncodeChar c ++ rest) =
      decodeFrom next (c :: done) none rest := by
  have hv : c.toNat < 0xd800 ∨ 0xdfff < c.toNat ∧ c.toNat < 0x110000 := c.valid
  have hc : ∀ n, n = c.toNat → Char.ofNat n = c := by
    rintro n rfl
    exact Char.ofNat_toNat c
  have hn : c.val.toNat = c.toNat := rfl
  simp only [String.utf8EncodeChar, hn]
  split
  · refine ⟨offset + 1, ?_⟩
    rw [List.singleton_append, decodeFrom_ascii (by rw [toNat_byte (by omega)]; omega),
      toNat_byte (by omega), hc _ rfl]
  split
  · exact ⟨offset + 2, (decodeFrom_two (by omega) (by omega) offset done rest).trans
      (by rw [hc _ (by omega)])⟩
  split
  · exact ⟨offset + 3, (decodeFrom_three (by omega) (by omega) (by omega) (by omega) (by omega)
      offset done rest).trans (by rw [hc _ (by omega)])⟩
  · exact ⟨offset + 4, (decodeFrom_four (by omega) (by omega) (by omega) (by omega) (by omega)
      (by omega) offset done rest).trans (by rw [hc _ (by omega)])⟩

theorem decodeFrom_encode (text : List Char) :
    ∀ (offset : Nat) (done : List Char),
      decodeFrom offset done none (encode text) = .ok (done.reverse ++ text) := by
  induction text with
  | nil =>
    intro offset done
    rw [encode, List.flatMap_nil, decodeFrom, List.append_nil]
  | cons c text ih =>
    intro offset done
    obtain ⟨next, hn⟩ := decodeFrom_char c (encode text) done offset
    rw [encode, List.flatMap_cons, ← encode, hn, ih]
    simp

/-- The bytes that encode a text are decoded to it. -/
theorem decode_encode (text : List Char) : decode (encode text) = .ok text :=
  decodeFrom_encode text 0 []

end Sexpr.Text.Utf8
