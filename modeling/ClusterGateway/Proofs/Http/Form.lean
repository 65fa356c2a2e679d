import ClusterGateway.Proofs.Http.Query

/-!
# Parameters as forms write them

In a form a blank is a plus sign and a plus sign has an escape.  A reader first takes the plus signs
for blanks and then undoes the escapes.

* `Percent.formText?_encodeForm` : **a text that a form writes is read as the text**.
* `Percent.isParameter_encodeForm` : what is written for the value of a parameter is a query that
  holds just this parameter with this value.
-/

namespace ClusterGateway

namespace Http

namespace Percent

open Uri (octet)

/-- The octet that an octet of a form stands for. -/
def ofPlus (b : UInt8) : UInt8 := if b = octet '+' then octet ' ' else b

/-- The text that a text of a form stands for; none when its octets are not UTF-8. -/
def formText? (s : String) : Option String := Utf8.decode? (decode ((Utf8.encode s).map ofPlus))

/-- A query holds one parameter, and a reader gets a name and a value from it. -/
structure IsParameter (query name value : String) : Prop where
  /-- All but one of the pairs are empty, and its two sides stand for the name and the value. -/
  sides : ∃ pair left right, (Text.pieces '&' query).filter (· ≠ "") = [pair] ∧
    Text.cut? '=' pair = some (left, right) ∧ formText? left = some name ∧
    formText? right = some value

/-! ### What is written -/

variable {c : Char} {b : UInt8}

theorem toNat_cases_of_isFormOctet (h : isFormOctet b = true) : b.toNat = 0x2A ∨ b.toNat = 0x2D ∨
    b.toNat = 0x2E ∨ (0x30 ≤ b.toNat ∧ b.toNat ≤ 0x39) ∨ (0x41 ≤ b.toNat ∧ b.toNat ≤ 0x5A) ∨
    b.toNat = 0x5F ∨ (0x61 ≤ b.toNat ∧ b.toNat ≤ 0x7A) ∨ b.toNat = 0x7E := by
  rw [isFormOctet, Bool.or_eq_true, List.contains_iff_mem] at h
  obtain halphanumeric | hmark := h
  · have hcases := IsUnreserved.toNat_cases (.inl halphanumeric)
    rw [toNat_ofNat] at hcases
    omega
  · have hnumbers : ∀ c ∈ "*-._".toList, c.toNat ∈ [0x2A, 0x2D, 0x2E, 0x5F] := by simp
    have hb := hnumbers _ hmark
    rw [toNat_ofNat] at hb
    simp only [List.mem_cons, List.not_mem_nil, or_false] at hb
    omega

theorem toNat_cases_of_mem_encodeForm {s : String} (h : c ∈ (encodeForm s).toList) :
    c.toNat = 0x25 ∨ c.toNat = 0x2A ∨ c.toNat = 0x2B ∨ c.toNat = 0x2D ∨ c.toNat = 0x2E ∨
      (0x30 ≤ c.toNat ∧ c.toNat ≤ 0x39) ∨ (0x41 ≤ c.toNat ∧ c.toNat ≤ 0x5A) ∨ c.toNat = 0x5F ∨
      (0x61 ≤ c.toNat ∧ c.toNat ≤ 0x7A) ∨ c.toNat = 0x7E := by
  rw [encodeForm, String.toList_ofList] at h
  obtain ⟨b, -, hc⟩ := List.mem_flatMap.1 h
  have hb : b.toNat < 256 := b.toNat_lt
  rw [encodeFormOctet] at hc
  split at hc
  · -- a blank becomes a plus sign
    rw [List.mem_singleton.1 hc]
    decide
  split at hc
  · rename_i hplain
    have hcases := toNat_cases_of_isFormOctet hplain
    rw [List.mem_singleton.1 hc, toNat_ofNat]
    omega
  · -- anything else becomes a percent sign and two digits
    rw [escape, List.mem_cons, List.mem_cons, List.mem_singleton] at hc
    obtain rfl | rfl | rfl := hc
    · decide
    · have hcases := (isUnreserved_upperDigit _ (by omega : b.toNat / 16 < 16)).toNat_cases
      omega
    · have hcases := (isUnreserved_upperDigit _ (by omega : b.toNat % 16 < 16)).toNat_cases
      omega

theorem isAscii_of_mem_encodeForm {s : String} (h : c ∈ (encodeForm s).toList) : c.toNat < 128 := by
  have hcases := toNat_cases_of_mem_encodeForm h
  omega

theorem not_mem_encodeForm {sep : Char} (s : String) (hsep : sep ∈ "#&=?".toList) :
    sep ∉ (encodeForm s).toList := by
  have hnumbers : ∀ sep ∈ "#&=?".toList, sep.toNat ∈ [0x23, 0x26, 0x3D, 0x3F] := by simp
  intro h
  have hcases := toNat_cases_of_mem_encodeForm h
  have hsep := hnumbers sep hsep
  simp only [List.mem_cons, List.not_mem_nil, or_false] at hsep
  omega

theorem isQuery_encodeForm (s : String) : Uri.IsQuery (encodeForm s) := by
  intro b hb
  have hascii : ∀ c ∈ (encodeForm s).toList, c.toNat < 128 := fun c hc =>
    isAscii_of_mem_encodeForm hc
  rw [← String.ofList_toList (s := encodeForm s), encode_ofList_of_isAscii hascii] at hb
  obtain ⟨c, hc, rfl⟩ := List.mem_map.1 hb
  have hcases := toNat_cases_of_mem_encodeForm hc
  have hoctet : (octet c).toNat = c.toNat := by
    rw [octet, UInt8.toNat_ofNat', Nat.mod_eq_of_lt]
    have := hascii c hc
    omega
  simp only [Uri.isQueryOctet, hoctet, Bool.or_eq_true, Bool.and_eq_true, beq_iff_eq,
    decide_eq_true_eq]
  omega

/-! ### What is read -/

theorem ofPlus_octet {c : Char} (hc : c.toNat < 128) (hplus : c.toNat ≠ 0x2B) :
    ofPlus (octet c) = octet c := by
  rw [ofPlus, if_neg]
  intro h
  have hnumber := congrArg UInt8.toNat h
  rw [octet, UInt8.toNat_ofNat', Nat.mod_eq_of_lt (by omega)] at hnumber
  exact hplus hnumber

theorem decode_encodeFormOctet (b : UInt8) (rest : Bytes) :
    decode (((encodeFormOctet b).map octet).map ofPlus ++ rest) = b :: decode rest := by
  have hb : b.toNat < 256 := b.toNat_lt
  rw [encodeFormOctet]
  split
  · -- a plus sign stands for a blank
    rename_i hblank
    have hread : ofPlus (octet '+') = b := UInt8.toNat_inj.1 hblank.symm
    rw [List.map_singleton, List.map_singleton, hread, List.singleton_append,
      decode_cons (by omega)]
  split
  · rename_i hplain
    have hcases := toNat_cases_of_isFormOctet hplain
    have hread := ofPlus_octet (c := Char.ofNat b.toNat) (by rw [toNat_ofNat]; omega)
      (by rw [toNat_ofNat]; omega)
    rw [List.map_singleton, List.map_singleton, hread, octet_ofNat, List.singleton_append,
      decode_cons (by omega)]
  · -- an escape has no plus sign
    have hread : ((escape b).map octet).map ofPlus = (escape b).map octet := by
      have hhigh := (isUnreserved_upperDigit _ (by omega : b.toNat / 16 < 16)).toNat_cases
      have hlow := (isUnreserved_upperDigit _ (by omega : b.toNat % 16 < 16)).toNat_cases
      have hpercent : ofPlus (octet '%') = octet '%' := by decide
      simp only [escape, List.map_cons, List.map_nil, hpercent,
        ofPlus_octet (by omega) (by omega : (upperDigit (b.toNat / 16)).toNat ≠ 0x2B),
        ofPlus_octet (by omega) (by omega : (upperDigit (b.toNat % 16)).toNat ≠ 0x2B)]
    rw [hread, decode_escape]

/-- **A text that a form writes is read as the text.** -/
theorem formText?_encodeForm (s : String) : formText? (encodeForm s) = some s := by
  have hascii : ∀ c ∈ (Utf8.encode s).flatMap encodeFormOctet, c.toNat < 128 := fun c hc =>
    isAscii_of_mem_encodeForm (s := s) (by rwa [encodeForm, String.toList_ofList])
  have hoctets : decode ((Utf8.encode (encodeForm s)).map ofPlus) = Utf8.encode s := by
    rw [encodeForm, encode_ofList_of_isAscii hascii]
    clear hascii
    induction Utf8.encode s with
    | nil => rfl
    | cons b bs ih =>
      rw [List.flatMap_cons, List.map_append, List.map_append, decode_encodeFormOctet, ih]
  rw [formText?, hoctets, Utf8.decode?_encode]

/-- **A query of one parameter**, whose value is written as forms do, behind an empty pair. -/
theorem isParameter_encodeForm {name : String} (hname : '&' ∉ name.toList ∧ '=' ∉ name.toList)
    (hread : formText? name = some name) (value : String) :
    IsParameter ("&" ++ name ++ "=" ++ encodeForm value) name value := by
  have hchars : ("&" ++ name ++ "=" ++ encodeForm value).toList =
      [] ++ '&' :: (name.toList ++ '=' :: (encodeForm value).toList) := by simp
  have hamp : '&' ∉ name.toList ++ '=' :: (encodeForm value).toList := by
    rw [List.mem_append, List.mem_cons, not_or, not_or]
    exact ⟨hname.1, by decide, not_mem_encodeForm value (by decide)⟩
  refine ⟨String.ofList (name.toList ++ '=' :: (encodeForm value).toList), name, encodeForm value,
    ?_, ?_, hread, formText?_encodeForm value⟩
  · rw [Text.pieces, hchars, Text.piecesChars_append_cons, Text.piecesChars_of_not_mem hamp]
    simp [Text.piecesChars]
  · rw [Text.cut?, String.toList_ofList, Text.cutChars?_append hname.2]
    simp

end Percent

end Http

end ClusterGateway
