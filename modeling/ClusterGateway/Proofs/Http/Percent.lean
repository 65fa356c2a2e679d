import ClusterGateway.Http.Percent
import ClusterGateway.Http.Uri
import ClusterGateway.Proofs.Text.Digits
import ClusterGateway.Proofs.Text.Utf8
import ClusterGateway.Text.Blank

/-!
# Escapes are undone

Each octet of an escaped text stands for itself or is written as a percent sign and two digits, so
that nothing but letters, digits and a few marks occurs in what is written
(`Percent.IsLiteral`), and a reader gets the octets back one after the other.

* `Percent.isLiteral_of_mem_encode` : what is written holds neither a separator of a query nor a
  blank nor anything beyond ASCII.
* `Percent.text?_encode` : **an escaped text is read as the text**.
-/

namespace ClusterGateway

namespace Http

namespace Percent

open Uri (octet)

/-- The text that a text with escapes stands for; none when its octets are not UTF-8. -/
def text? (s : String) : Option String := Utf8.decode? (decode (Utf8.encode s))

/-! ### What is written -/

/-- A character that needs no escape. -/
def IsUnreserved (c : Char) : Prop := c.isAlphanum = true ∨ c ∈ "-_.~".toList

/-- A character that may stand in a text with escapes. -/
def IsLiteral (c : Char) : Prop := c = '%' ∨ IsUnreserved c

variable {c : Char}

theorem IsUnreserved.toNat_cases (h : IsUnreserved c) : c.toNat = 0x2D ∨ c.toNat = 0x2E ∨
    (0x30 ≤ c.toNat ∧ c.toNat ≤ 0x39) ∨ (0x41 ≤ c.toNat ∧ c.toNat ≤ 0x5A) ∨ c.toNat = 0x5F ∨
    (0x61 ≤ c.toNat ∧ c.toNat ≤ 0x7A) ∨ c.toNat = 0x7E := by
  obtain h | h := h
  · have halphanumeric : ((c.isUpper || c.isLower) || c.isDigit) = true := h
    rw [Bool.or_eq_true, Bool.or_eq_true] at halphanumeric
    obtain (hupper | hlower) | hdigit := halphanumeric
    · have hbounds : 0x41 ≤ c.toNat ∧ c.toNat ≤ 0x5A := of_decide_eq_true hupper
      omega
    · have hbounds := Bool.and_eq_true_iff.1 hlower
      have hfirst : 0x61 ≤ c.toNat := of_decide_eq_true hbounds.1
      have hlast : c.toNat ≤ 0x7A := of_decide_eq_true hbounds.2
      omega
    · have hbounds := Text.toNat_of_isDigit hdigit
      omega
  · have hmarks : c ∈ ['-', '_', '.', '~'] := h
    simp only [List.mem_cons, List.not_mem_nil, or_false] at hmarks
    obtain rfl | rfl | rfl | rfl := hmarks <;> decide

theorem isUnreserved_iff {b : UInt8} :
    isUnreserved b = true ↔ IsUnreserved (Char.ofNat b.toNat) := by
  rw [isUnreserved, isAlphanumeric, Bool.or_eq_true, List.contains_iff_mem, IsUnreserved]

theorem isUnreserved_upperDigit : ∀ n < 16, IsUnreserved (upperDigit n) := by
  have halphanumeric : ∀ n < 16, (upperDigit n).isAlphanum = true := by decide
  exact fun n hn => .inl (halphanumeric n hn)

theorem isLiteral_of_mem_encodeOctet {b : UInt8} (h : c ∈ encodeOctet b) : IsLiteral c := by
  have hb : b.toNat < 256 := b.toNat_lt
  rw [encodeOctet] at h
  split at h
  · rename_i hunreserved
    rw [List.mem_singleton.1 h]
    exact .inr (isUnreserved_iff.1 hunreserved)
  · rw [escape, List.mem_cons, List.mem_cons, List.mem_singleton] at h
    obtain rfl | rfl | rfl := h
    · exact .inl rfl
    · exact .inr (isUnreserved_upperDigit _ (by omega))
    · exact .inr (isUnreserved_upperDigit _ (by omega))

/-- **What occurs in a text with escapes.** -/
theorem isLiteral_of_mem_encode {s : String} (h : c ∈ (encode s).toList) : IsLiteral c := by
  rw [encode, String.toList_ofList] at h
  obtain ⟨b, -, hc⟩ := List.mem_flatMap.1 h
  exact isLiteral_of_mem_encodeOctet hc

namespace IsLiteral

theorem toNat_cases (h : IsLiteral c) : c.toNat = 0x25 ∨ c.toNat = 0x2D ∨ c.toNat = 0x2E ∨
    (0x30 ≤ c.toNat ∧ c.toNat ≤ 0x39) ∨ (0x41 ≤ c.toNat ∧ c.toNat ≤ 0x5A) ∨ c.toNat = 0x5F ∨
    (0x61 ≤ c.toNat ∧ c.toNat ≤ 0x7A) ∨ c.toNat = 0x7E := by
  obtain rfl | h := h
  · exact .inl rfl
  · exact .inr h.toNat_cases

theorem isAscii (h : IsLiteral c) : c.toNat < 128 := by
  have hcases := h.toNat_cases
  omega

theorem not_isBlank (h : IsLiteral c) : Text.isBlank c = false := by
  have hcases := h.toNat_cases
  simp only [Text.isBlank, Bool.or_eq_false_iff, Bool.and_eq_false_iff, beq_eq_false_iff_ne,
    decide_eq_false_iff_not, ne_eq]
  omega

theorem ne_separator (h : IsLiteral c) : ∀ sep ∈ "#&+=?".toList, c ≠ sep := by
  have hseparators : ∀ sep ∈ "#&+=?".toList, sep.toNat ∈ [0x23, 0x26, 0x2B, 0x3D, 0x3F] := by
    simp
  rintro _ hsep rfl
  have hcases := h.toNat_cases
  have hsep := hseparators c hsep
  simp only [List.mem_cons, List.not_mem_nil, or_false] at hsep
  omega

end IsLiteral

/-! ### What is read -/

theorem encode_ofList_of_isAscii {cs : List Char} (h : ∀ c ∈ cs, c.toNat < 128) :
    Utf8.encode (String.ofList cs) = cs.map octet := by
  rw [Utf8.encode, String.toList_ofList, List.map_eq_flatMap]
  refine List.flatMap_congr fun c hc => ?_
  have hoctet : (octet c).toNat = c.toNat := by
    rw [octet, UInt8.toNat_ofNat', Nat.mod_eq_of_lt]
    have := h c hc
    omega
  have hsingle := Utf8.Writes.single (b := octet c) (hoctet ▸ h c hc)
  rw [hoctet, Char.ofNat_toNat] at hsingle
  exact hsingle.eq_utf8EncodeChar.symm

theorem decode_cons {b : UInt8} (hb : b.toNat ≠ 0x25) (rest : Bytes) :
    decode (b :: rest) = b :: decode rest := by
  match rest with
  | [] => rfl
  | [_] => rfl
  | _ :: _ :: _ => rw [decode, if_neg hb]

theorem digit?_upperDigit : ∀ n < 16, digit? (octet (upperDigit n)) = some n := by decide

theorem decode_escape (b : UInt8) (rest : Bytes) :
    decode ((escape b).map octet ++ rest) = b :: decode rest := by
  have hb : b.toNat < 256 := b.toNat_lt
  have hdigits : unescape? (octet (upperDigit (b.toNat / 16))) (octet (upperDigit (b.toNat % 16))) =
      some b := by
    rw [unescape?, digit?_upperDigit _ (by omega), digit?_upperDigit _ (by omega)]
    exact congrArg some (Utf8.ofNat_eq (by omega))
  have hpercent : (octet '%').toNat = 0x25 := by decide
  simp only [escape, List.map_cons, List.map_nil, List.cons_append, List.nil_append]
  rw [decode, if_pos hpercent, hdigits]

theorem toNat_ofNat (b : UInt8) : (Char.ofNat b.toNat).toNat = b.toNat := by
  have hb : b.toNat < 256 := b.toNat_lt
  have hvalid : b.toNat.isValidChar := .inl (by omega)
  rw [Char.ofNat, dif_pos hvalid]
  rfl

theorem octet_ofNat (b : UInt8) : octet (Char.ofNat b.toNat) = b := by
  rw [octet, toNat_ofNat, UInt8.ofNat_toNat]

theorem decode_encodeOctet (b : UInt8) (rest : Bytes) :
    decode ((encodeOctet b).map octet ++ rest) = b :: decode rest := by
  rw [encodeOctet]
  split
  · rename_i hunreserved
    have hcases := (isUnreserved_iff.1 hunreserved).toNat_cases
    rw [toNat_ofNat] at hcases
    rw [List.map_singleton, octet_ofNat, List.singleton_append, decode_cons (by omega)]
  · exact decode_escape b rest

/-- **Escapes are undone.** -/
theorem decode_encode (s : String) : decode (Utf8.encode (encode s)) = Utf8.encode s := by
  have hascii : ∀ c ∈ (Utf8.encode s).flatMap encodeOctet, c.toNat < 128 := fun c hc =>
    (isLiteral_of_mem_encode (s := s) (by rwa [encode, String.toList_ofList])).isAscii
  rw [encode, encode_ofList_of_isAscii hascii]
  clear hascii
  induction Utf8.encode s with
  | nil => rfl
  | cons b bs ih => rw [List.flatMap_cons, List.map_append, decode_encodeOctet, ih]

/-- **An escaped text is read as the text.** -/
theorem text?_encode (s : String) : text? (encode s) = some s := by
  rw [text?, decode_encode, Utf8.decode?_encode]

end Percent

end Http

end ClusterGateway
