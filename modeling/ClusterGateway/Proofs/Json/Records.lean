import ClusterGateway.Json.Decode
import ClusterGateway.Proofs.Json.Objects
import ClusterGateway.Proofs.Json.Text

/-!
# Reading what is written

Decoders on the documents that values write, one law for each way to put a decoder together.

* `Json.NumberLiteral.int?_ofInt`, `Json.Value.Fits.hasValue` : **what fits has a value**, so
  reading never stops in the middle of what a value writes.
* `Json.Decoder.Undoes` : a decoder reads what a value writes as something, with a law for each of
  `Decoder.string`, `Decoder.int64`, `Decoder.list` and `Decoder.nullable`.
* `Json.Members.find_written` : **a field is found under its name**, and with it what is required,
  what has a default and what may be null.
* `Json.Document.untag?_document` : a tag is found in front of the fields of a record.
-/

namespace ClusterGateway

namespace Json

/-! ### The values of documents -/

namespace NumberLiteral

theorem le_foldl (ds : List Nat) (n : Nat) : n ≤ ds.foldl (fun n d => n * 10 + d) n := by
  induction ds generalizing n with
  | nil => exact Nat.le_refl n
  | cons d ds ih => exact Nat.le_trans (by omega) (ih (n * 10 + d))

theorem absorb_eq {ds : List Nat} {n : Nat}
    (h : ds.foldl (fun n d => n * 10 + d) n ≤ maxSignificand) :
    absorb n ds = (ds.foldl (fun n d => n * 10 + d) n, 0) := by
  induction ds generalizing n with
  | nil => rfl
  | cons d ds ih =>
    rw [absorb, if_pos (Nat.le_trans (le_foldl ds _) h)]
    exact ih h

theorem foldl_toDigits (n : Nat) :
    ((Nat.toDigits 10 n).map fun c => c.toNat - 48).foldl (fun n d => n * 10 + d) 0 = n := by
  rw [List.foldl_map]
  simp only [Nat.mul_comm _ 10]
  exact Nat.ofDigitChars_ten_toDigits

/-- **An integer of 64 bits is the integer of its literal.** -/
theorem int?_ofInt {n : Int} (hlow : -2 ^ 63 ≤ n) (hhigh : n < 2 ^ 64) :
    (ofInt n).int? = some n := by
  have habsorb : absorb 0 (ofInt n).integer = (n.natAbs, 0) := by
    rw [ofInt]
    dsimp only
    rw [absorb_eq] <;> rw [foldl_toDigits]
    simp only [maxSignificand, Nat.pow_eq]
    omega
  have hplain : ¬((0 : Nat) ≠ 0 ∨ (ofInt n).fraction ≠ [] ∨ (ofInt n).exponent.isSome = true) := by
    simp [ofInt]
  rw [int?, habsorb]
  dsimp only
  rw [if_neg hplain]
  -- no digit is left over, so that only the sign and the size count
  by_cases hn : n < 0
  · have hnegative : (ofInt n).negative = true := decide_eq_true hn
    have hfits : ¬(n.natAbs = 0 ∨ Nat.pow 2 63 < n.natAbs) := by
      simp only [Nat.pow_eq]
      omega
    rw [hnegative, if_neg (by decide), if_neg hfits]
    exact congrArg some (by omega)
  · have hnegative : (ofInt n).negative = false := decide_eq_false hn
    rw [hnegative, if_pos (by decide)]
    exact congrArg some (by omega)

end NumberLiteral

namespace Value

variable {items : List Value} {members : List (String × Value)} {room : Nat}

theorem itemDocuments_eq_map (items : List Value) : itemDocuments items = items.map document := by
  induction items with
  | nil => rfl
  | cons v vs ih => rw [itemDocuments, ih, List.map_cons]

theorem memberDocuments_eq_map (members : List (String × Value)) :
    memberDocuments members = members.map fun m => (codes m.1, m.2.document) := by
  induction members with
  | nil => rfl
  | cons m ms ih =>
    obtain ⟨key, v⟩ := m
    rw [memberDocuments, ih, List.map_cons]

theorem isSome_itemValues? (h : ∀ v ∈ items, (v.document.value? room).isSome = true) :
    (Document.itemValues? room (itemDocuments items)).isSome = true := by
  induction items with
  | nil => rfl
  | cons v vs ih =>
    obtain ⟨hv, hvs⟩ := List.forall_mem_cons.1 h
    obtain ⟨x, hx⟩ := Option.isSome_iff_exists.1 hv
    obtain ⟨xs, hxs⟩ := Option.isSome_iff_exists.1 (ih hvs)
    rw [itemDocuments, Document.itemValues?, hx, hxs]
    rfl

theorem isSome_memberValues? (h : ∀ m ∈ members, (m.2.document.value? room).isSome = true) :
    (Document.memberValues? room (memberDocuments members)).isSome = true := by
  induction members with
  | nil => rfl
  | cons m ms ih =>
    obtain ⟨key, v⟩ := m
    obtain ⟨hv, hms⟩ := List.forall_mem_cons.1 h
    obtain ⟨x, hx⟩ := Option.isSome_iff_exists.1 hv
    obtain ⟨xs, hxs⟩ := Option.isSome_iff_exists.1 (ih hms)
    rw [memberDocuments, Document.memberValues?, text?_codes, hx, hxs]
    rfl

/-- **The document of whatever fits has a value.** -/
theorem Fits.hasValue {v : Value} (h : v.Fits room) : v.document.hasValue room = true := by
  rw [Document.hasValue]
  induction h with
  | null | bool => rfl
  | int hlow hhigh =>
    rw [Value.int, document, Document.value?, NumberLiteral.value?,
      NumberLiteral.int?_ofInt hlow hhigh]
    rfl
  | string s =>
    rw [document, Document.value?, text?_codes]
    rfl
  | array _ ih =>
    rw [document, Document.value?, Option.isSome_map]
    exact isSome_itemValues? ih
  | object _ ih =>
    rw [document, Document.value?, Option.isSome_map]
    exact isSome_memberValues? ih

end Value

/-! ### Laws of decoders -/

/-- A decoder reads what a value writes as something. -/
structure Decoder.Undoes {α : Type} (decode : Decoder α) (room : Nat) (v : Value) (a : α) :
    Prop where
  /-- The value can be read. -/
  fits : v.Fits room
  /-- What it is read as. -/
  reads : decode room v.document = some a

attribute [simp] Value.Fits.null Value.Fits.bool Value.Fits.string

namespace Decoder

variable {α : Type} {decode : Decoder α} {room : Nat} {v : Value} {a : α}

/-- **From the text on.** -/
theorem Undoes.parse?_render (h : decode.Undoes Document.maxDepth v a) :
    decode.parse? v.render = some a := by
  rw [parse?, Value.parse?_render h.fits, Option.bind_some, h.reads]

@[simp] theorem string_document (s : String) :
    Decoder.string room (Value.string s).document = some s := text?_codes s

@[simp] theorem bool_document (b : Bool) : Decoder.bool room (Value.bool b).document = some b := rfl

theorem undoes_string (s : String) : Undoes string room (.string s) s where
  fits := .string s
  reads := string_document s

theorem undoes_int64 {n : Int} (h : -2 ^ 63 ≤ n ∧ n < 2 ^ 63) : Undoes int64 room (.int n) n where
  fits := .int h.1 (by omega)
  reads := by
    have hbounds : -Int.pow 2 63 ≤ n ∧ n ≤ Int.pow 2 63 - 1 := by
      simp only [Int.pow_eq]
      omega
    rw [Value.int, Value.document, int64, int, NumberLiteral.int?_ofInt h.1 (by omega)]
    exact if_pos hbounds

theorem undoes_list {encode : α → Value} {as : List α}
    (h : ∀ a ∈ as, decode.Undoes room (encode a) a) :
    Undoes (list decode) (room + 1) (.array (as.map encode)) as where
  fits := .array (by simpa using fun a ha => (h a ha).fits)
  reads := by
    rw [Value.document, list, Value.itemDocuments_eq_map]
    induction as with
    | nil => rfl
    | cons a as ih =>
      obtain ⟨ha, has⟩ := List.forall_mem_cons.1 h
      rw [List.map_cons, List.map_cons, List.mapM_cons, ha.reads, ih has]
      rfl

theorem undoes_nullable_none : Undoes (nullable decode) room .null none where
  fits := .null
  reads := rfl

theorem Undoes.nullable (h : decode.Undoes room v a) (hnull : v.document ≠ .null) :
    Undoes (nullable decode) room v (some a) where
  fits := h.fits
  reads := by
    rw [Decoder.nullable]
    · rw [h.reads]
      rfl
    · exact hnull

end Decoder

/-! ### Records -/

section Written

variable {α : Type} {decode : Decoder α} {name : String} {default : α} {room : Nat}
variable {members : List (String × Value)} {names : List String}

/-- The fields of an object as they are found. -/
def Members.written (members : List (String × Value)) (room : Nat) : Members :=
  ⟨false, members.map fun m => (m.1, m.2.document), room⟩

theorem Members.ofObject?_memberDocuments (members : List (String × Value)) :
    ofObject? (Value.memberDocuments members) =
      some (members.map fun m => (m.1, m.2.document)) := by
  induction members with
  | nil => rfl
  | cons m members ih =>
    obtain ⟨key, v⟩ := m
    rw [ofObject?] at ih
    rw [Value.memberDocuments, ofObject?, List.mapM_cons, ih]
    simp

@[simp] theorem Members.read?_document (hnames : ∀ m ∈ members, m.1 ∈ names)
    (hnodup : (members.map Prod.fst).Nodup) :
    read? names (room + 1) (Value.object members).document = some (written members room) := by
  have hknown : (members.map fun m => (m.1, m.2.document)).filter (fun f => names.contains f.1) =
      members.map fun m => (m.1, m.2.document) := by
    rw [List.filter_eq_self, List.forall_mem_map]
    exact fun m hm => by simpa using hnames m hm
  have hfound : ((members.map fun m => (m.1, m.2.document)).map Prod.fst).Nodup := by
    rw [List.map_map]
    exact hnodup
  rw [Value.document, read?, ofObject?_memberDocuments]
  simp only [Option.bind_eq_bind, Option.bind_some]
  rw [hknown, if_pos hfound]
  rfl

theorem Members.filter_written (hnodup : (members.map Prod.fst).Nodup) :
    (written members room).fields.filter (fun f => f.1 = name) =
      ((members.lookup name).map fun v => (name, v.document)).toList := by
  induction members with
  | nil => rfl
  | cons m members ih =>
    obtain ⟨key, v⟩ := m
    obtain ⟨hkey, hnodup⟩ := List.nodup_cons.1 hnodup
    have ih := ih hnodup
    rw [written] at ih ⊢
    rw [List.map_cons, Value.lookup_cons_eq]
    by_cases hname : key = name
    · subst hname
      have hnone : (members.map fun m => (m.1, m.2.document)).filter (fun f => f.1 = key) = [] := by
        rw [List.filter_eq_nil_iff, List.forall_mem_map]
        exact fun m hm heq => hkey (List.mem_map.2 ⟨m, hm, of_decide_eq_true heq⟩)
      simp [hnone]
    · rw [List.filter_cons_of_neg (by simpa using hname), if_neg (Ne.symm hname)]
      exact ih

/-- **What is found under a name.** -/
theorem Members.find_written (hnodup : (members.map Prod.fst).Nodup) :
    (written members room).find name decode = match members.lookup name with
      | some v => (decode room v.document).map some
      | none => some none := by
  rw [find, filter_written hnodup]
  cases members.lookup name with
  | none => rfl
  | some v =>
    cases h : decode room v.document <;> simp [h, written]

@[simp] theorem Members.required_written (hnodup : (members.map Prod.fst).Nodup) :
    (written members room).required name decode = match members.lookup name with
      | some v => decode room v.document
      | none => none := by
  rw [required, find_written hnodup]
  cases members.lookup name with
  | none => rfl
  | some v =>
    dsimp only
    cases decode room v.document <;> rfl

@[simp] theorem Members.withDefault_written (hnodup : (members.map Prod.fst).Nodup) :
    (written members room).withDefault name default decode = match members.lookup name with
      | some v => decode room v.document
      | none => some default := by
  rw [withDefault, find_written hnodup]
  cases members.lookup name with
  | none => rfl
  | some v =>
    dsimp only
    cases decode room v.document <;> rfl

@[simp] theorem Members.nullable_written (hnodup : (members.map Prod.fst).Nodup) :
    (written members room).nullable name decode = match members.lookup name with
      | some v => Decoder.nullable decode room v.document
      | none => some none := by
  rw [nullable, find_written hnodup]
  cases members.lookup name with
  | none => rfl
  | some v =>
    dsimp only
    cases Decoder.nullable decode room v.document <;> rfl

/-- **A tag is found in front of a record.** -/
theorem Document.untag?_document {tag kind : String} (htag : tag ∉ members.map Prod.fst) :
    (Value.object ((tag, .string kind) :: members)).document.untag? tag =
      some (kind, (Value.object members).document) := by
  have hothers : (members.map fun m => (m.1, m.2.document)).filter (fun f => f.1 = tag) = [] := by
    rw [List.filter_eq_nil_iff, List.forall_mem_map]
    exact fun m hm heq => htag (List.mem_map.2 ⟨m, hm, of_decide_eq_true heq⟩)
  have hrest : (Value.memberDocuments members).filter (fun f => text? f.1 ≠ some tag) =
      Value.memberDocuments members := by
    rw [Value.memberDocuments_eq_map, List.filter_eq_self, List.forall_mem_map]
    intro m hm
    simpa using fun heq => htag (List.mem_map.2 ⟨m, hm, heq⟩)
  rw [Value.document, untag?, Members.ofObject?_memberDocuments]
  simp only [Option.bind_eq_bind, Option.bind_some, List.map_cons]
  rw [List.filter_cons_of_pos (by simp), hothers]
  simp only [Value.document, text?_codes, Option.bind_some]
  rw [Value.memberDocuments, List.filter_cons_of_neg (by simp), hrest]
  rfl

end Written

end Json

end ClusterGateway
