import InterceptAddons.Http.Component
import InterceptAddons.Http.Uri.Target
import InterceptAddons.Proofs.Text.Split
import InterceptAddons.Proofs.Text.Utf8

/-!
# Components and pairs

Main statements: `decodeComponent_encodeComponent`, a written component is read back; `pairsOf_intercalate`, pairs that
are joined are found again. A pair has its name and its value by `pairName` and `pairParts_eq`.
-/

namespace InterceptAddons.Http

open InterceptAddons.Text

/-! ### Octets -/

/-- A property of all octets can be checked by going through them. -/
theorem of_octet {P : UInt8 → Prop} (h : ∀ n < 256, P (UInt8.ofNat n)) (b : UInt8) : P b := by
  have hb := h b.toNat b.toNat_lt
  rwa [UInt8.ofNat_toNat] at hb

theorem encode_append (cs ds : List Char) : encode (cs ++ ds) = encode cs ++ encode ds := List.flatMap_append

/-- An unreserved octet is written as it is, and is neither `%` nor `+`. -/
theorem encodeOctet_of_isUnreserved (b : UInt8) :
    isUnreserved b = true → encode (encodeOctet b) = [b] ∧ b ≠ 0x25 ∧ b ≠ 0x2B :=
  of_octet (P := fun b => isUnreserved b = true → encode (encodeOctet b) = [b] ∧ b ≠ 0x25 ∧ b ≠ 0x2B)
    (by decide +kernel) b

theorem encode_upperHexDigit : ∀ n < 16, encode [upperHexDigit n] = [UInt8.ofNat (upperHexDigit n).toNat] ∧
    octetHexValue? (UInt8.ofNat (upperHexDigit n).toNat) = some n := by decide +kernel

/-- One written octet is read back, whatever follows. -/
theorem decodeOctets_encodeOctet (b : UInt8) (rest : List UInt8) :
    decodeOctets (encode (encodeOctet b) ++ rest) = b :: decodeOctets rest := by
  by_cases hb : isUnreserved b = true
  · obtain ⟨hencode, hpercent, hplus⟩ := encodeOctet_of_isUnreserved b hb
    rw [hencode, List.singleton_append, decodeOctets.eq_def]
    simp only [if_neg hpercent, if_neg hplus]
  · have hb256 : b.toNat < 256 := b.toNat_lt
    obtain ⟨hhigh, hhigh'⟩ := encode_upperHexDigit (b.toNat / 16) (by omega)
    obtain ⟨hlow, hlow'⟩ := encode_upperHexDigit (b.toNat % 16) (by omega)
    have hpercent : encode ['%'] = [0x25] := by decide
    have hvalue : UInt8.ofNat (16 * (b.toNat / 16) + b.toNat % 16) = b := by
      rw [Nat.div_add_mod, UInt8.ofNat_toNat]
    have hencode : encode (encodeOctet b) = [0x25, UInt8.ofNat (upperHexDigit (b.toNat / 16)).toNat,
        UInt8.ofNat (upperHexDigit (b.toNat % 16)).toNat] := by
      have hsplit : encodeOctet b = ['%'] ++ ([upperHexDigit (b.toNat / 16)] ++ [upperHexDigit (b.toNat % 16)]) := by
        rw [encodeOctet, if_neg hb]
        rfl
      rw [hsplit, encode_append, encode_append, hpercent, hhigh, hlow]
      rfl
    rw [hencode, List.cons_append, List.cons_append, List.singleton_append, decodeOctets.eq_def]
    simp only [if_pos, hhigh', hlow', hvalue]

theorem decodeOctets_flatMap_encodeOctet (bs : List UInt8) : decodeOctets (encode (bs.flatMap encodeOctet)) = bs := by
  induction bs with
  | nil => rfl
  | cons b bs ih => rw [List.flatMap_cons, encode_append, decodeOctets_encodeOctet, ih]

/-! ### Components -/

/-- **A written component is read back.** -/
theorem decodeComponent_encodeComponent (cs : List Char) : decodeComponent (encodeComponent cs) = cs := by
  rw [decodeComponent, encodeComponent, decodeOctets_flatMap_encodeOctet, decodeLossy_encode]

/-- A written component may stand in a query, and holds nothing that parts pairs or names and values. -/
theorem of_mem_encodeComponent {cs : List Char} {c : Char} (h : c ∈ encodeComponent cs) :
    isQueryChar c = true ∧ c ≠ '&' ∧ c ≠ '=' := by
  obtain ⟨b, -, hc⟩ := List.mem_flatMap.1 h
  have hall : ∀ b, (encodeOctet b).all (fun c => isQueryChar c && c != '&' && c != '=') = true :=
    of_octet (by decide +kernel)
  simpa [and_assoc] using List.all_eq_true.1 (hall b) c hc

/-! ### Pairs -/

def pairName (pair : List Char) : List Char := decodeComponent (pairParts pair).1

def pairValue (pair : List Char) : List Char := decodeComponent (pairParts pair).2

theorem findPair_eq (cs name : List Char) :
    findPair cs name = ((pairsOf cs).find? (pairName · == name)).map pairValue := rfl

theorem pairParts_eq {name : List Char} (h : '=' ∉ name) (value : List Char) :
    pairParts (name ++ '=' :: value) = (name, value) := by
  rw [pairParts, cutFirst_eq_some_iff.2 ⟨rfl, h⟩]
  rfl

theorem of_mem_pairsOf {cs p : List Char} (h : p ∈ pairsOf cs) : p ≠ [] ∧ ∀ c ∈ p, c ≠ '&' ∧ c ∈ cs := by
  obtain ⟨hmem, hne⟩ := List.mem_filter.1 h
  exact ⟨by simpa using hne, of_mem_piece hmem⟩

/-- **Pairs that are joined are found again.** -/
theorem pairsOf_intercalate {ps : List (List Char)} (h : ∀ p ∈ ps, p ≠ [] ∧ '&' ∉ p) :
    pairsOf (List.intercalate ['&'] ps) = ps := by
  by_cases hne : ps = []
  · rw [hne]
    rfl
  · rw [pairsOf, splitOn_intercalate hne fun p hp => (h p hp).2, List.filter_eq_self]
    intro p hp
    simpa using (h p hp).1

theorem forall_mem_intercalate {P : Char → Prop} {ps : List (List Char)} (hsep : P '&') (h : ∀ p ∈ ps, ∀ c ∈ p, P c) :
    ∀ c ∈ List.intercalate ['&'] ps, P c := by
  induction ps with
  | nil => exact fun _ hc => absurd hc List.not_mem_nil
  | cons p ps ih =>
    have hp := h p List.mem_cons_self
    have hps := ih fun q hq => h q (List.mem_cons_of_mem _ hq)
    by_cases hne : ps = []
    · rw [hne, List.intercalate_singleton]
      exact hp
    · rw [List.intercalate_cons_of_ne_nil hne]
      refine List.forall_mem_append.2 ⟨List.forall_mem_append.2 ⟨hp, ?_⟩, hps⟩
      exact List.forall_mem_singleton.2 hsep

end InterceptAddons.Http
