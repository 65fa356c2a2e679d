import ClusterGateway.Http.Uri
import ClusterGateway.Proofs.Text.Utf8
import Mathlib.Data.List.TakeWhile

/-!
# Reading addresses

The path of an address and its query stand behind each other, with a question mark between them.
The octets that may be in a path or in a query say where the one ends and the other begins, so that
nothing is lost when they are taken apart.

* `Uri.pathAndQuery?_eq_some_iff` : **what is read as a path and a query is what writes them**, up
  to a fragment.
* `Uri.IsWritable.of_ofBytes?` : what is read of an address can be written again: it is short enough
  and starts with a slash.
* `Uri.parse?_written` : **a path and its query that can be written are read again**.
-/

namespace ClusterGateway

namespace Http

namespace Uri

/-! ### Path and query -/

/-- A text can be a path. -/
def IsPath (path : String) : Prop := ∀ b ∈ Utf8.encode path, isPathOctet b.toNat = true

/-- A text can be a query. -/
def IsQuery (query : String) : Prop := ∀ b ∈ Utf8.encode query, isQueryOctet b.toNat = true

-- one octet after the other, and not all octets there are

instance (path : String) : Decidable (IsPath path) :=
  List.decidableBAll (fun b : UInt8 => isPathOctet b.toNat = true) (Utf8.encode path)

instance (query : String) : Decidable (IsQuery query) :=
  List.decidableBAll (fun b : UInt8 => isQueryOctet b.toNat = true) (Utf8.encode query)

/-- A query as it stands behind a path. -/
def written : Option String → String
  | some query => "?" ++ query
  | none => ""

theorem target_eq (u : Uri) :
    u.target = (if u.path = "" then "/" else u.path) ++ written u.query := by
  rw [target]
  cases u.query <;> rfl

theorem encode_written : (query : Option String) → Utf8.encode (written query) =
    query.elim [] fun query => octet '?' :: Utf8.encode query
  | none => Utf8.encode_empty
  | some _ => Utf8.encode_append _ _

variable {bs : Bytes} {path : String} {query : Option String}

theorem IsPath.ne_octet (h : IsPath path) {c : Char} (hc : isPathOctet (octet c).toNat = false)
    {b : UInt8} (hb : b ∈ Utf8.encode path) : b ≠ octet c := by
  rintro rfl
  exact absurd (h _ hb) (Bool.eq_false_iff.1 hc)

theorem IsPath.append {path' : String} (h : IsPath path) (h' : IsPath path') :
    IsPath (path ++ path') := by
  intro b hb
  rw [Utf8.encode_append, List.mem_append] at hb
  exact hb.elim (h b) (h' b)

theorem dropFragment_append (hp : IsPath path) (bs : Bytes) :
    dropFragment (Utf8.encode path ++ bs) = Utf8.encode path ++ dropFragment bs :=
  List.takeWhile_append_of_pos fun _ hb => decide_eq_true (hp.ne_octet (by decide) hb)

theorem dropFragment_written (hp : IsPath path) (hq : ∀ q ∈ query, IsQuery q) :
    dropFragment (Utf8.encode (path ++ written query)) = Utf8.encode (path ++ written query) := by
  rw [Utf8.encode_append, dropFragment_append hp, encode_written]
  cases query with
  | none => rfl
  | some q =>
    refine congrArg (Utf8.encode path ++ ·) (List.takeWhile_eq_self_iff.2 fun b hb => ?_)
    rw [decide_eq_true_eq]
    obtain rfl | hb := List.mem_cons.1 hb
    · decide
    · rintro rfl
      exact absurd (hq q rfl _ hb) (by decide)

theorem span_written (hp : IsPath path) (query : Option String) :
    (Utf8.encode (path ++ written query)).takeWhile (· ≠ octet '?') = Utf8.encode path ∧
      (Utf8.encode (path ++ written query)).dropWhile (· ≠ octet '?') =
        Utf8.encode (written query) := by
  have hpath : ∀ b ∈ Utf8.encode path, decide (b ≠ octet '?') = true := fun b hb =>
    decide_eq_true (hp.ne_octet (by decide) hb)
  rw [Utf8.encode_append, List.takeWhile_append_of_pos hpath, List.dropWhile_append_of_pos hpath,
    encode_written]
  cases query <;> simp

theorem dropWhile_cases (bs : Bytes) : bs.dropWhile (· ≠ octet '?') = [] ∨
    ∃ query, bs.dropWhile (· ≠ octet '?') = octet '?' :: query := by
  have hmark := List.head?_dropWhile_not (· ≠ octet '?') bs
  cases hrest : bs.dropWhile (· ≠ octet '?') with
  | nil => exact .inl rfl
  | cons b query =>
    rw [hrest] at hmark
    have hb : b = octet '?' := by simpa using hmark
    exact .inr ⟨query, by rw [hb]⟩

/-- **What is read as a path and a query** is what writes them, up to a fragment. -/
theorem pathAndQuery?_eq_some_iff : pathAndQuery? bs = some (path, query) ↔
    dropFragment bs = Utf8.encode (path ++ written query) ∧ IsPath path ∧
      ∀ q ∈ query, IsQuery q := by
  constructor
  · intro h
    have hbs := List.takeWhile_append_dropWhile (p := (· ≠ octet '?')) (l := dropFragment bs)
    have hrest := dropWhile_cases (dropFragment bs)
    rw [pathAndQuery?] at h
    -- of the two parts only that they make up the octets is needed
    generalize (dropFragment bs).takeWhile (· ≠ octet '?') = front at h hbs
    generalize (dropFragment bs).dropWhile (· ≠ octet '?') = rest at h hbs hrest
    split at h
    · rename_i hoctets
      obtain ⟨path', hpath, h⟩ := Option.bind_eq_some_iff.1 h
      obtain ⟨query', hquery, h⟩ := Option.bind_eq_some_iff.1 h
      obtain ⟨rfl, rfl⟩ := Prod.mk.inj (Option.some.inj h)
      rw [Utf8.decode?_eq_some_iff] at hpath hquery
      subst hpath
      rw [List.all_eq_true, List.all_eq_true] at hoctets
      rw [← hbs, Utf8.encode_append, encode_written]
      obtain rfl | ⟨octets, rfl⟩ := hrest
      · rw [if_pos rfl]
        exact ⟨rfl, hoctets.1, fun q hq => by cases hq⟩
      · rw [if_neg (List.cons_ne_nil _ _)]
        rw [List.drop_one, List.tail_cons] at hquery hoctets
        subst hquery
        refine ⟨rfl, hoctets.1, ?_⟩
        rintro _ ⟨⟩
        exact hoctets.2
    · cases h
  · rintro ⟨hbs, hp, hq⟩
    obtain ⟨htake, hdrop⟩ := span_written hp query
    have hpath : ∀ b ∈ Utf8.encode path, isPathOctet b.toNat = true := hp
    rw [pathAndQuery?, hbs, htake, hdrop, encode_written]
    cases query with
    | none =>
      have hempty : Utf8.decode? [] = some "" := rfl
      simpa [hempty] using hpath
    | some q =>
      have hquery : ∀ b ∈ Utf8.encode q, isQueryOctet b.toNat = true := hq q rfl
      simpa using ⟨hpath, hquery⟩

/-! ### Whole addresses -/

/-- A path is rooted: it starts with a slash. -/
def IsRooted (path : String) : Prop := ∃ rest, path = "/" ++ rest

theorem encode_slash (rest : String) : Utf8.encode ("/" ++ rest) = octet '/' :: Utf8.encode rest :=
  Utf8.encode_append _ _

theorem IsRooted.of_encode {rest : Bytes} (h : Utf8.encode path = octet '/' :: rest) :
    IsRooted path := by
  obtain ⟨cs, hcs⟩ := Utf8.toList_of_encode_eq_cons (by decide) h
  have hchar : Char.ofNat (octet '/').toNat = '/' := by decide
  exact ⟨String.ofList cs, String.toList_inj.1 (by simp [hcs, hchar])⟩

theorem ne_empty_of_isRooted (h : IsRooted path) : path ≠ "" := by
  rintro rfl
  obtain ⟨rest, hrest⟩ := h
  have hoctets := encode_slash rest
  rw [← hrest, Utf8.encode_empty] at hoctets
  cases hoctets

theorem isPath_slash : IsPath "/" :=
  List.forall_mem_singleton.2 (by decide : isPathOctet (octet '/').toNat = true)

/-- The path and the query of an address can be written behind each other, short enough to be
read as an address again. -/
structure IsWritable (u : Uri) : Prop where
  /-- The path starts with a slash, or there is none. -/
  rooted : u.path = "" ∨ IsRooted u.path
  /-- The path has only octets that may be in a path. -/
  path : IsPath u.path
  /-- The query has only octets that may be in a query. -/
  query : ∀ q ∈ u.query, IsQuery q
  /-- What is written is short enough. -/
  length : (Utf8.encode u.target).length ≤ maxLength

theorem rooted_of_dropFragment (hbs : dropFragment bs = Utf8.encode (path ++ written query))
    (hp : IsPath path)
    (hstart : ∀ b ∈ bs.head?, b = octet '/' ∨ b = octet '?' ∨ b = octet '#') :
    path = "" ∨ IsRooted path := by
  cases hpath : Utf8.encode path with
  | nil => exact .inl (Utf8.encode_eq_nil_iff.1 hpath)
  | cons b front =>
    have hb : b ∈ Utf8.encode path := hpath ▸ List.mem_cons_self
    -- the first octet of the path is the first one of all
    have hhead : bs.head? = some b := by
      have hprefix : dropFragment bs <+: bs := List.takeWhile_prefix _
      rw [hbs, Utf8.encode_append, hpath] at hprefix
      obtain ⟨rest, rfl⟩ := hprefix
      rfl
    obtain rfl | hb' | hb' := hstart b hhead
    · exact .inr (.of_encode hpath)
    · exact absurd hb' (hp.ne_octet (by decide) hb)
    · exact absurd hb' (hp.ne_octet (by decide) hb)

/-- **A path with a slash in front and its query are read as an address.** -/
theorem ofBytes?_of_dropFragment (hbs : dropFragment bs = Utf8.encode (path ++ written query))
    (hr : IsRooted path) (hp : IsPath path) (hq : ∀ q ∈ query, IsQuery q)
    (hlength : bs.length ≤ maxLength) : ofBytes? bs = some ⟨none, none, path, query⟩ := by
  have hread : pathAndQuery? bs = some (path, query) :=
    pathAndQuery?_eq_some_iff.2 ⟨hbs, hp, hq⟩
  obtain ⟨tail, rfl⟩ : ∃ tail, bs = octet '/' :: tail := by
    have hprefix : dropFragment bs <+: bs := List.takeWhile_prefix _
    obtain ⟨rest, rfl⟩ := hr
    rw [hbs, Utf8.encode_append, encode_slash] at hprefix
    obtain ⟨more, rfl⟩ := hprefix
    exact ⟨_, rfl⟩
  have hsize : ¬(octet '/' :: tail = [] ∨ maxLength < (octet '/' :: tail).length) := by
    rintro (hnil | hlong)
    · cases hnil
    · exact Nat.not_lt.2 hlength hlong
  have hstar : octet '/' :: tail ≠ [octet '*'] := fun h => absurd (List.cons.inj h).1 (by decide)
  rw [ofBytes?, if_neg hsize, if_neg hstar, if_pos List.head?_cons, hread]
  rfl

/-- **What can be written is read again.** -/
theorem parse?_written (hr : IsRooted path) (hp : IsPath path) (hq : ∀ q ∈ query, IsQuery q)
    (hlength : (Utf8.encode (path ++ written query)).length ≤ maxLength) :
    parse? (path ++ written query) = some ⟨none, none, path, query⟩ :=
  ofBytes?_of_dropFragment (dropFragment_written hp hq) hr hp hq hlength

theorem IsWritable.parse?_target {u : Uri} (h : u.IsWritable) :
    parse? u.target = some ⟨none, none, if u.path = "" then "/" else u.path, u.query⟩ := by
  have hlength := h.length
  rw [target_eq] at hlength ⊢
  obtain hpath | hpath := h.rooted
  · rw [if_pos hpath] at hlength ⊢
    exact parse?_written ⟨"", rfl⟩ isPath_slash h.query hlength
  · rw [if_neg (ne_empty_of_isRooted hpath)] at hlength ⊢
    exact parse?_written hpath h.path h.query hlength

theorem IsWritable.of_pathAndQuery? (h : pathAndQuery? bs = some (path, query))
    (hstart : ∀ b ∈ bs.head?, b = octet '/' ∨ b = octet '?' ∨ b = octet '#')
    (hlength : bs.length ≤ maxLength) (hempty : path = "" → bs.length < maxLength)
    (scheme authority : Option String) : IsWritable ⟨scheme, authority, path, query⟩ := by
  obtain ⟨hbs, hp, hq⟩ := pathAndQuery?_eq_some_iff.1 h
  have hle : (Utf8.encode (path ++ written query)).length ≤ bs.length :=
    hbs ▸ (List.takeWhile_prefix _).length_le
  refine ⟨rooted_of_dropFragment hbs hp hstart, hp, hq, ?_⟩
  rw [target_eq]
  dsimp only
  split
  · rename_i hpath
    rw [hpath, String.empty_append] at hle
    rw [encode_slash, List.length_cons]
    exact Nat.lt_of_le_of_lt hle (hempty hpath)
  · exact hle.trans hlength

theorem length_of_scheme? {scheme rest : Bytes} (h : scheme? bs = some (some scheme, rest)) :
    rest.length < bs.length := by
  rw [scheme?] at h
  split at h
  · rename_i hsize
    split at h
    · cases h
    · cases h
      have hle : (bs.dropWhile isSchemeOctet).length ≤ bs.length :=
        (List.dropWhile_suffix _).length_le
      rw [List.length_drop]
      omega
  · cases h

theorem head?_spanAuthority {b : UInt8} (h : b ∈ (spanAuthority bs).2.head?) :
    b = octet '/' ∨ b = octet '?' ∨ b = octet '#' := by
  have hends := List.head?_dropWhile_not
    (fun b => !(b = octet '/' || b = octet '?' || b = octet '#')) bs
  rw [spanAuthority] at h
  rw [Option.mem_def.1 h] at hends
  simpa [or_iff_not_imp_left] using hends

/-- What a whole address has behind its authority: nothing, or a part that starts like a path, a
query or a fragment and is read as the path and the query. -/
theorem parseFull?_cases {u : Uri} (h : parseFull? bs = some u) :
    u.path = "" ∧ u.query = none ∨ u.scheme ≠ none ∧ ∃ rest, rest.length < bs.length ∧
      (∀ b ∈ rest.head?, b = octet '/' ∨ b = octet '?' ∨ b = octet '#') ∧
      pathAndQuery? rest = some (u.path, u.query) := by
  rw [parseFull?] at h
  obtain ⟨⟨scheme, rest⟩, hscheme, h⟩ := Option.bind_eq_some_iff.1 h
  have hstart : ∀ b ∈ (spanAuthority rest).2.head?, b = octet '/' ∨ b = octet '?' ∨ b = octet '#' :=
    fun b hb => head?_spanAuthority hb
  have hrest : (spanAuthority rest).2.length ≤ rest.length := (List.dropWhile_suffix _).length_le
  dsimp only at h
  split at h
  · cases h
  obtain ⟨host, -, h⟩ := Option.bind_eq_some_iff.1 h
  -- without a scheme there may be an authority and nothing else
  cases scheme with
  | none =>
    dsimp only at h
    split at h
    · cases h
      exact .inl ⟨rfl, rfl⟩
    · cases h
  | some scheme =>
    dsimp only at h
    split at h
    · cases h
    obtain ⟨scheme, -, h⟩ := Option.bind_eq_some_iff.1 h
    obtain ⟨⟨path, query⟩, hread, h⟩ := Option.bind_eq_some_iff.1 h
    cases h
    exact .inr ⟨Option.some_ne_none _, _, hrest.trans_lt (length_of_scheme? hscheme), hstart, hread⟩

/-- **What is read of an address can be written again**, except for the address of no place. -/
theorem IsWritable.of_ofBytes? {u : Uri} (h : ofBytes? bs = some u) :
    u = ⟨none, none, "*", none⟩ ∨ u.IsWritable := by
  rw [ofBytes?] at h
  split at h
  · cases h
  rename_i hsize
  have hlength : bs.length ≤ maxLength := Nat.not_lt.1 (not_or.1 hsize).2
  split at h
  · exact .inl (Option.some.inj h).symm
  refine .inr ?_
  split at h
  · rename_i hslash
    obtain ⟨⟨path, query⟩, hread, rfl⟩ := Option.map_eq_some_iff.1 h
    refine .of_pathAndQuery? hread (fun b hb => ?_) hlength (fun hempty => ?_) none none
    · rw [hslash] at hb
      exact .inl (Option.some.inj hb).symm
    · -- the path starts with the slash, so there is one
      obtain ⟨hbs, -, -⟩ := pathAndQuery?_eq_some_iff.1 hread
      obtain ⟨rest, rfl⟩ := List.head?_eq_some_iff.1 hslash
      rw [hempty, String.empty_append, encode_written] at hbs
      cases query with
      | none => cases hbs
      | some q => exact absurd (List.cons.inj hbs).1 (by decide)
  · -- what starts with neither a slash nor an asterisk is a whole address
    obtain ⟨hpath, hquery⟩ | ⟨-, rest, hrest, hstart, hread⟩ := parseFull?_cases h
    · refine ⟨.inl hpath, hpath ▸ List.forall_mem_nil _, by simp [hquery], ?_⟩
      rw [target_eq, hpath, hquery]
      decide
    · exact .of_pathAndQuery? hread hstart (hrest.le.trans hlength)
        (fun _ => hrest.trans_le hlength) u.scheme u.authority

theorem written_of_ofBytes? {u : Uri} (h : ofBytes? bs = some u) (hs : u.scheme = none)
    (hp : u.path ≠ "") : u.authority = none ∧ dropFragment bs = Utf8.encode u.target := by
  rw [target_eq, if_neg hp]
  rw [ofBytes?] at h
  split at h
  · cases h
  split at h
  · rename_i hstar
    cases h
    rw [hstar]
    exact ⟨rfl, rfl⟩
  split at h
  · obtain ⟨⟨path, query⟩, hread, rfl⟩ := Option.map_eq_some_iff.1 h
    exact ⟨rfl, (pathAndQuery?_eq_some_iff.1 hread).1⟩
  · obtain ⟨hpath, -⟩ | ⟨hscheme, -⟩ := parseFull?_cases h
    · exact absurd hpath hp
    · exact absurd hs hscheme

end Uri

end Http

end ClusterGateway
