import ClusterGateway.Proofs.Http.Percent
import ClusterGateway.Proofs.Http.Uri
import ClusterGateway.Proofs.Text.Lossy
import ClusterGateway.Proofs.Text.Pieces

/-!
# Queries of one pair

A name and a value behind a path: escapes keep all that separates out of the two, so that the
address can be taken apart again.

* `Percent.isPairOf_pairOf` : **what is written for a name and a value is read as just these**,
  whatever characters they have.
* `Uri.eq_of_parse?_cut` : an address of a path and a query is cut at its only question mark when it
  is read.
-/

namespace ClusterGateway

namespace Utf8

theorem mem_toList_of_mem_encode {s : String} {b : UInt8} (hb : b.toNat < 0x80)
    (h : b ∈ encode s) : Char.ofNat b.toNat ∈ s.toList := by
  obtain ⟨front, rest, hs⟩ := List.append_of_mem h
  have hscan : scan (front ++ b :: rest) = s.toList.map some := scan_eq_map_iff.2 hs.symm
  rw [scan_append_ascii hb] at hscan
  have hmem : some (Char.ofNat b.toNat) ∈ s.toList.map some := by
    rw [← hscan]
    exact List.mem_append_right _ List.mem_cons_self
  obtain ⟨c, hc, heq⟩ := List.mem_map.1 hmem
  exact Option.some.inj heq ▸ hc

end Utf8

namespace Http

/-! ### Pairs -/

namespace Percent

/-- A text is a query of one pair, from which a reader gets a name and a value. -/
structure IsPairOf (pair name value : String) : Prop where
  /-- There is one pair only. -/
  single : Text.pieces '&' pair = [pair]
  /-- Nothing in it is read in another way than it is written. -/
  plain : ∀ c ∈ pair.toList, c ≠ '&' ∧ c ≠ '#' ∧ c ≠ '+' ∧ Text.isBlank c = false ∧ c.toNat < 128
  /-- The two sides of the pair stand for the name and the value. -/
  sides : ∃ left right, Text.pieces '=' pair = [left, right] ∧ text? left = some name ∧
    text? right = some value

/-- The pair of a name and a value. -/
def pairOf (name value : String) : String := encode name ++ "=" ++ encode value

theorem mem_pairOf {name value : String} {c : Char} (h : c ∈ (pairOf name value).toList) :
    c = '=' ∨ IsLiteral c := by
  rw [pairOf, String.toList_append, String.toList_append, List.mem_append, List.mem_append] at h
  obtain (h | h) | h := h
  · exact .inr (isLiteral_of_mem_encode h)
  · exact .inl (List.mem_singleton.1 h)
  · exact .inr (isLiteral_of_mem_encode h)

theorem not_mem_pairOf {sep : Char} (name value : String) (hsep : sep ∈ "#&+?".toList) :
    sep ∉ (pairOf name value).toList := by
  intro h
  obtain rfl | hliteral := mem_pairOf h
  · exact absurd hsep (by decide)
  · have hseparators : ∀ sep ∈ "#&+?".toList, sep ∈ "#&+=?".toList := by simp
    exact hliteral.ne_separator sep (hseparators sep hsep) rfl

theorem isPairOf_pairOf (name value : String) : IsPairOf (pairOf name value) name value where
  single := by
    rw [Text.pieces, Text.piecesChars_of_not_mem (not_mem_pairOf name value (by decide))]
    simp
  plain := by
    intro c hc
    have hnot (sep : Char) (hsep : sep ∈ "#&+?".toList) : c ≠ sep := by
      rintro rfl
      exact not_mem_pairOf name value hsep hc
    refine ⟨hnot '&' (by decide), hnot '#' (by decide), hnot '+' (by decide), ?_⟩
    obtain rfl | hliteral := mem_pairOf hc
    · exact ⟨by decide, by decide⟩
    · exact ⟨hliteral.not_isBlank, hliteral.isAscii⟩
  sides := by
    -- both sides have their equals signs escaped, so that the one between them is the only one
    have hnot (s : String) : '=' ∉ (encode s).toList := fun h =>
      (isLiteral_of_mem_encode h).ne_separator '=' (by decide) rfl
    refine ⟨encode name, encode value, ?_, text?_encode name,
      text?_encode value⟩
    have hchars : (pairOf name value).toList =
        (encode name).toList ++ '=' :: (encode value).toList := by simp [pairOf]
    rw [Text.pieces, hchars, Text.piecesChars_append_cons, Text.piecesChars_of_not_mem (hnot name),
      Text.piecesChars_of_not_mem (hnot value)]
    simp

end Percent

/-! ### Addresses -/

namespace Uri

variable {path query : String}

theorem not_mem_encode {s : String} {c : Char} (hc : c.toNat < 0x80) (h : c ∉ s.toList) :
    octet c ∉ Utf8.encode s := by
  intro hmem
  have hoctet : (octet c).toNat = c.toNat := by
    rw [octet, UInt8.toNat_ofNat', Nat.mod_eq_of_lt (by omega)]
  have hchar := Utf8.mem_toList_of_mem_encode (by omega) hmem
  rw [hoctet, Char.ofNat_toNat] at hchar
  exact h hchar

theorem IsRooted.append (h : IsRooted path) (more : String) : IsRooted (path ++ more) := by
  obtain ⟨rest, rfl⟩ := h
  exact ⟨rest ++ more, String.append_assoc⟩

theorem eq_of_pathAndQuery?_cut {found : String × Option String}
    (hmark : '?' ∉ path.toList) (hpath : '#' ∉ path.toList) (hquery : '#' ∉ query.toList)
    (h : pathAndQuery? (Utf8.encode (path ++ "?" ++ query)) = some found) :
    found = (path, some query) := by
  have hoctets : Utf8.encode (path ++ "?" ++ query) =
      Utf8.encode path ++ octet '?' :: Utf8.encode query := by
    rw [Utf8.encode_append, Utf8.encode_append, List.append_assoc]
    rfl
  have hfragment : dropFragment (Utf8.encode (path ++ "?" ++ query)) =
      Utf8.encode (path ++ "?" ++ query) := by
    rw [dropFragment, List.takeWhile_eq_self_iff, hoctets]
    intro b hb
    rw [decide_eq_true_eq]
    rintro rfl
    rcases List.mem_append.1 hb with hb | hb
    · exact not_mem_encode (by decide) hpath hb
    · rcases List.mem_cons.1 hb with hb | hb
      · exact absurd hb (by decide)
      · exact not_mem_encode (by decide) hquery hb
  -- the first question mark is the one between the path and the query
  have hspan : ∀ b ∈ Utf8.encode path, decide (b ≠ octet '?') = true := by
    intro b hb
    rw [decide_eq_true_eq]
    rintro rfl
    exact not_mem_encode (by decide) hmark hb
  rw [pathAndQuery?, hfragment, hoctets, List.takeWhile_append_of_pos hspan,
    List.dropWhile_append_of_pos hspan] at h
  simp only [ne_eq, not_true_eq_false, decide_false, Bool.false_eq_true, not_false_eq_true,
    List.takeWhile_cons_of_neg, List.append_nil, List.dropWhile_cons_of_neg, List.drop_one,
    List.tail_cons, Utf8.decode?_encode] at h
  split at h
  · exact (Option.some.inj h).symm
  · cases h

/-- **A rooted path and a query are what an address is read as**, if it is read at all. -/
theorem eq_of_parse?_cut {u : Uri} (hroot : IsRooted path) (hmark : '?' ∉ path.toList)
    (hpath : '#' ∉ path.toList) (hquery : '#' ∉ query.toList)
    (h : parse? (path ++ "?" ++ query) = some u) : u = ⟨none, none, path, some query⟩ := by
  obtain ⟨rest, hrest⟩ := (hroot.append "?").append query
  have hslash : Utf8.encode (path ++ "?" ++ query) = octet '/' :: Utf8.encode rest := by
    rw [hrest, encode_slash]
  have hstar : octet '/' :: Utf8.encode rest ≠ [octet '*'] := fun h =>
    absurd (List.cons.inj h).1 (by decide)
  rw [parse?, ofBytes?] at h
  split at h
  · cases h
  rw [hslash, if_neg hstar, if_pos List.head?_cons, ← hslash] at h
  obtain ⟨found, hfound, rfl⟩ := Option.map_eq_some_iff.1 h
  rw [eq_of_pathAndQuery?_cut hmark hpath hquery hfound]

end Uri

end Http

end ClusterGateway
