import InterceptAddons.Text.Utf8
import Mathlib.Tactic.SplitIfs

/-!
# UTF-8 read back

Main statement: `decodeLossy_encode`, the octets of a text are read back as the text. Each character is the first piece
of its octets, by the number of octets that it takes (`firstPiece_two` and so on).
-/

namespace InterceptAddons.Text

/-! ### The first piece -/

section

variable {lead b c d : UInt8} (rest : List UInt8)

theorem isTail_iff : isTail b = true ↔ 0x80 ≤ b.toNat ∧ b.toNat ≤ 0xBF := by
  simp [isTail, UInt8.le_iff_toNat_le]

/-- Which octets may come second; four leads take only some of the continuation octets. -/
theorem isSecond_of_bounds (hb : 0x80 ≤ b.toNat ∧ b.toNat ≤ 0xBF)
    (hlow : lead.toNat = 0xE0 → 0xA0 ≤ b.toNat) (hhigh : lead.toNat = 0xED → b.toNat ≤ 0x9F)
    (hlow' : lead.toNat = 0xF0 → 0x90 ≤ b.toNat) (hhigh' : lead.toNat = 0xF4 → b.toNat ≤ 0x8F) :
    isSecond lead b = true := by
  rw [isSecond, secondBounds, Bool.and_eq_true, decide_eq_true_eq, decide_eq_true_eq, UInt8.le_iff_toNat_le,
    UInt8.le_iff_toNat_le]
  split_ifs with h₁ h₂ h₃ h₄
  · exact ⟨hlow (congrArg UInt8.toNat h₁), hb.2⟩
  · exact ⟨hb.1, hhigh (congrArg UInt8.toNat h₂)⟩
  · exact ⟨hlow' (congrArg UInt8.toNat h₃), hb.2⟩
  · exact ⟨hb.1, hhigh' (congrArg UInt8.toNat h₄)⟩
  · exact hb

theorem not_ascii (h : 0x80 ≤ lead.toNat) : ¬lead < 0x80 := fun hlt =>
  absurd (UInt8.lt_iff_toNat_lt.1 hlt) (Nat.not_lt.2 h)

theorem firstPiece_one (h : lead.toNat < 0x80) : firstPiece lead rest = (.char (Char.ofNat lead.toNat), 0) := by
  rw [firstPiece.eq_def, if_pos (UInt8.lt_iff_toNat_lt.2 h)]

theorem firstPiece_two (h : 0xC2 ≤ lead.toNat ∧ lead.toNat ≤ 0xDF) (hb : isTail b = true) :
    firstPiece lead (b :: rest) = (.char (Char.ofNat (64 * (lead.toNat - 0xC0) + low6 b)), 1) := by
  have hone : ¬lead < 0x80 := not_ascii (by omega)
  have htwo : (0xC2 ≤ lead && lead ≤ 0xDF) = true := by simpa [UInt8.le_iff_toNat_le] using h
  simp only [firstPiece, if_neg hone, if_pos htwo, if_pos hb]

theorem firstPiece_three (h : 0xE0 ≤ lead.toNat ∧ lead.toNat ≤ 0xEF) (hb : isSecond lead b = true)
    (hc : isTail c = true) :
    firstPiece lead (b :: c :: rest) =
      (.char (Char.ofNat (64 * (64 * (lead.toNat - 0xE0) + low6 b) + low6 c)), 2) := by
  have hone : ¬lead < 0x80 := not_ascii (by omega)
  have htwo : ¬(0xC2 ≤ lead && lead ≤ 0xDF) = true := by simp [UInt8.le_iff_toNat_le]; omega
  have hthree : (0xE0 ≤ lead && lead ≤ 0xEF) = true := by simpa [UInt8.le_iff_toNat_le] using h
  simp only [firstPiece, if_neg hone, if_neg htwo, if_pos hthree, if_pos hb, if_pos hc]

theorem firstPiece_four (h : 0xF0 ≤ lead.toNat ∧ lead.toNat ≤ 0xF4) (hb : isSecond lead b = true)
    (hc : isTail c = true) (hd : isTail d = true) :
    firstPiece lead (b :: c :: d :: rest) =
      (.char (Char.ofNat (64 * (64 * (64 * (lead.toNat - 0xF0) + low6 b) + low6 c) + low6 d)), 3) := by
  have hone : ¬lead < 0x80 := not_ascii (by omega)
  have htwo : ¬(0xC2 ≤ lead && lead ≤ 0xDF) = true := by simp [UInt8.le_iff_toNat_le]; omega
  have hthree : ¬(0xE0 ≤ lead && lead ≤ 0xEF) = true := by simp [UInt8.le_iff_toNat_le]; omega
  have hfour : (0xF0 ≤ lead && lead ≤ 0xF4) = true := by simpa [UInt8.le_iff_toNat_le] using h
  simp only [firstPiece, if_neg hone, if_neg htwo, if_neg hthree, if_pos hfour, if_pos hb, if_pos hc, if_pos hd]

end

/-! ### A character and its octets -/

theorem toNat_ofNat_of_lt {n : Nat} (h : n < 256) : (UInt8.ofNat n).toNat = n := by
  rw [UInt8.toNat_ofNat']
  exact Nat.mod_eq_of_lt h

theorem piece_of_octets {c : Char} {n size : Nat} (h : n = c.toNat) :
    (Piece.char (Char.ofNat n), size) = (Piece.char c, size) := by
  rw [h, Char.ofNat_toNat]

/-- A character is the first piece of its octets, whatever follows. -/
theorem firstPiece_utf8EncodeChar (c : Char) (rest : List UInt8) :
    ∃ lead tail, String.utf8EncodeChar c = lead :: tail ∧ firstPiece lead (tail ++ rest) = (.char c, tail.length) := by
  have hvalid : c.toNat < 0xD800 ∨ 0xDFFF < c.toNat ∧ c.toNat < 0x110000 := c.valid
  have hv : c.val.toNat = c.toNat := rfl
  rw [String.utf8EncodeChar, hv]
  generalize hn : c.toNat = n at hvalid
  split_ifs with h₁ h₂ h₃
  · refine ⟨_, [], rfl, ?_⟩
    have h0 : (UInt8.ofNat n).toNat = n := toNat_ofNat_of_lt (by omega)
    rw [List.nil_append, firstPiece_one rest (by omega), h0]
    exact piece_of_octets hn.symm
  · refine ⟨_, [_], rfl, ?_⟩
    have h0 : (UInt8.ofNat (n / 64 % 32 + 192)).toNat = n / 64 % 32 + 192 := toNat_ofNat_of_lt (by omega)
    have h1 : (UInt8.ofNat (n % 64 + 128)).toNat = n % 64 + 128 := toNat_ofNat_of_lt (by omega)
    rw [List.singleton_append, firstPiece_two rest (by omega) (isTail_iff.2 (by omega)), low6, h0, h1]
    exact piece_of_octets (by omega)
  · refine ⟨_, [_, _], rfl, ?_⟩
    have h0 : (UInt8.ofNat (n / 4096 % 16 + 224)).toNat = n / 4096 % 16 + 224 := toNat_ofNat_of_lt (by omega)
    have h1 : (UInt8.ofNat (n / 64 % 64 + 128)).toNat = n / 64 % 64 + 128 := toNat_ofNat_of_lt (by omega)
    have h2 : (UInt8.ofNat (n % 64 + 128)).toNat = n % 64 + 128 := toNat_ofNat_of_lt (by omega)
    have hsecond : isSecond (UInt8.ofNat (n / 4096 % 16 + 224)) (UInt8.ofNat (n / 64 % 64 + 128)) = true :=
      isSecond_of_bounds (by omega) (by omega) (by omega) (by omega) (by omega)
    rw [List.cons_append, List.singleton_append, firstPiece_three rest (by omega) hsecond (isTail_iff.2 (by omega)),
      low6, low6, h0, h1, h2]
    exact piece_of_octets (by omega)
  · refine ⟨_, [_, _, _], rfl, ?_⟩
    have h0 : (UInt8.ofNat (n / 262144 % 8 + 240)).toNat = n / 262144 % 8 + 240 := toNat_ofNat_of_lt (by omega)
    have h1 : (UInt8.ofNat (n / 4096 % 64 + 128)).toNat = n / 4096 % 64 + 128 := toNat_ofNat_of_lt (by omega)
    have h2 : (UInt8.ofNat (n / 64 % 64 + 128)).toNat = n / 64 % 64 + 128 := toNat_ofNat_of_lt (by omega)
    have h3 : (UInt8.ofNat (n % 64 + 128)).toNat = n % 64 + 128 := toNat_ofNat_of_lt (by omega)
    have hsecond : isSecond (UInt8.ofNat (n / 262144 % 8 + 240)) (UInt8.ofNat (n / 4096 % 64 + 128)) = true :=
      isSecond_of_bounds (by omega) (by omega) (by omega) (by omega) (by omega)
    rw [List.cons_append, List.cons_append, List.singleton_append,
      firstPiece_four rest (by omega) hsecond (isTail_iff.2 (by omega)) (isTail_iff.2 (by omega)), low6, low6, low6,
      h0, h1, h2, h3]
    exact piece_of_octets (by omega)

/-! ### Texts -/

theorem pieces_encode (cs : List Char) : pieces (encode cs) = cs.map .char := by
  induction cs with
  | nil => rw [encode, List.flatMap_nil, pieces, List.map_nil]
  | cons c cs ih =>
    obtain ⟨lead, tail, hc, hfirst⟩ := firstPiece_utf8EncodeChar c (encode cs)
    have hcons : encode (c :: cs) = lead :: (tail ++ encode cs) := by
      rw [encode, List.flatMap_cons, hc, List.cons_append]
      rfl
    rw [hcons, pieces, hfirst, List.drop_left, ih, List.map_cons]

/-- **The octets of a text are read back as the text.** -/
theorem decodeLossy_encode (cs : List Char) : decodeLossy (encode cs) = cs := by
  rw [decodeLossy, pieces_encode, List.map_map]
  exact List.map_id cs

end InterceptAddons.Text
