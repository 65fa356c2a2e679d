import Mathlib.Data.String.Basic
import ClusterGateway.Json.Document
import ClusterGateway.Proofs.Text.Digits

/-!
# What the text of a value is read as

The compact text of a value writes a document (`Json.Value.document`): strings with their code
points, integers with their digits, and the members of an object in their order.

* `Json.parseString_flatMap` : **every text is read back from between its quotes**, escapes
  included.
* `Json.parseNumber_int` : an integer is read back as its literal.
* `Json.Value.parse?_render` : **the text of a value without fractions is read as its document**.
-/

namespace ClusterGateway

namespace Json

/-! ### Strings -/

/-- The code points of a text. -/
def codes (s : String) : List Nat := s.toList.map Char.toNat

theorem textChars?_cons {n : Nat} {ns : List Nat} (hlow : isLowSurrogate n = false)
    (hhigh : isHighSurrogate n = false) :
    textChars? (n :: ns) = (textChars? ns).map (Char.ofNat n :: ·) := by
  rw [textChars?.eq_def]
  simp [hlow, hhigh]

theorem textChars?_map_toNat (cs : List Char) : textChars? (cs.map Char.toNat) = some cs := by
  induction cs with
  | nil => rfl
  | cons c cs ih =>
    -- a character is no half of a surrogate pair
    have hvalid : c.toNat < 0xD800 ∨ 0xDFFF < c.toNat ∧ c.toNat < 0x110000 := c.valid
    have hlow : isLowSurrogate c.toNat = false := by
      simp only [isLowSurrogate, Bool.and_eq_false_iff, decide_eq_false_iff_not]
      omega
    have hhigh : isHighSurrogate c.toNat = false := by
      simp only [isHighSurrogate, Bool.and_eq_false_iff, decide_eq_false_iff_not]
      omega
    rw [List.map_cons, textChars?_cons hlow hhigh, ih, Option.map_some, Char.ofNat_toNat]

@[simp] theorem text?_codes (s : String) : text? (codes s) = some s := by
  rw [text?, codes, textChars?_map_toNat]
  simp

theorem hexFour?_hexPair {n : Nat} (h : n < 0x20) :
    hexFour? '0' '0' (Nat.digitChar (n / 16)) (Nat.digitChar (n % 16)) = some n := by
  revert n
  decide

/-- A character behind the text that is read before it. -/
def behind (n : Nat) : List Nat × List Char → List Nat × List Char :=
  fun (ns, rest) => (n :: ns, rest)

section Characters

variable {c e a b : Char} {n : Nat} {rest : List Char}

theorem parseString_plain (hquote : c ≠ '"') (hbackslash : c ≠ '\\') (hcontrol : ¬c.toNat < 0x20) :
    parseString (c :: rest) = (parseString rest).map (behind c.toNat) := by
  have hplain : ¬(c.toNat < 0x20 ∨ c = '\\') := not_or.2 ⟨hcontrol, hbackslash⟩
  rw [parseString.eq_def]
  split
  case h_5 heq =>
    obtain ⟨rfl, rfl⟩ := List.cons.inj heq
    rw [if_neg hplain]
    rfl
  all_goals simp_all

theorem parseString_escape (hu : c ≠ 'u') (hc : shortEscape? c = some e) :
    parseString ('\\' :: c :: rest) = (parseString rest).map (behind e.toNat) := by
  rw [parseString.eq_def]
  split
  case h_4 heq =>
    obtain ⟨-, heq⟩ := List.cons.inj heq
    obtain ⟨rfl, rfl⟩ := List.cons.inj heq
    rw [hc]
    cases parseString rest <;> rfl
  case h_5 hback heq =>
    obtain ⟨rfl, rfl⟩ := List.cons.inj heq
    exact absurd rfl (hback _ _ rfl)
  all_goals simp_all

theorem parseString_unicode (hn : hexFour? '0' '0' a b = some n) :
    parseString ('\\' :: 'u' :: '0' :: '0' :: a :: b :: rest) =
      (parseString rest).map (behind n) := by
  rw [parseString, hn]
  cases parseString rest <;> rfl

end Characters

/-- **A character is read back**, whether it has an escape or not. -/
theorem parseString_stringChar (c : Char) (rest : List Char) :
    parseString (Value.stringChar c ++ rest) = (parseString rest).map (behind c.toNat) := by
  rw [Value.stringChar]
  split_ifs with hquote hbackslash hb hf hn hr ht hcontrol
  case pos => subst hquote; exact parseString_escape (by decide) rfl
  case pos => subst hbackslash; exact parseString_escape (by decide) rfl
  case pos => subst hb; exact parseString_escape (by decide) rfl
  case pos => subst hf; exact parseString_escape (by decide) rfl
  case pos => subst hn; exact parseString_escape (by decide) rfl
  case pos => subst hr; exact parseString_escape (by decide) rfl
  case pos => subst ht; exact parseString_escape (by decide) rfl
  case pos => exact parseString_unicode (hexFour?_hexPair hcontrol)
  case neg => exact parseString_plain hquote hbackslash hcontrol

/-- **A text is read back** from between its quotes. -/
theorem parseString_flatMap (cs rest : List Char) :
    parseString (cs.flatMap Value.stringChar ++ '"' :: rest) = some (cs.map Char.toNat, rest) := by
  induction cs with
  | nil => rfl
  | cons c cs ih =>
    rw [List.flatMap_cons, List.append_assoc, parseString_stringChar, ih]
    rfl

/-! ### Integers -/

/-- A number does not go on. -/
def EndsNumber (rest : List Char) : Prop :=
  ∀ c ∈ rest.head?, c.isDigit = false ∧ c ≠ '.' ∧ c ≠ 'e' ∧ c ≠ 'E'

theorem endsNumber_nil : EndsNumber [] := nofun

theorem endsNumber_cons {c : Char} (h : c ∈ [',', ']', '\x7d']) (rest : List Char) :
    EndsNumber (c :: rest) := by
  intro first hfirst
  obtain rfl := Option.some.inj hfirst
  simp only [List.mem_cons, List.not_mem_nil, or_false] at h
  rcases h with rfl | rfl | rfl <;> decide

section Integers

variable {rest : List Char}

theorem spanDigits_append {ds : List Char} (hd : ∀ c ∈ ds, c.isDigit = true)
    (hrest : EndsNumber rest) :
    spanDigits (ds ++ rest) = (ds.map fun c => c.toNat - 48, rest) := by
  induction ds with
  | nil =>
    cases rest with
    | nil => rfl
    | cons c rest =>
      rw [List.nil_append, spanDigits, if_neg (by simp [(hrest c rfl).1])]
      rfl
  | cons d ds ih =>
    obtain ⟨hfirst, hd⟩ := List.forall_mem_cons.1 hd
    rw [List.cons_append, spanDigits, if_pos hfirst, ih hd]
    rfl

theorem parseFraction_of_endsNumber (h : EndsNumber rest) :
    parseFraction rest = some ([], rest) := by
  rw [parseFraction.eq_def]
  split
  · exact absurd rfl (h '.' rfl).2.1
  · rfl

theorem parseExponent_of_endsNumber (h : EndsNumber rest) :
    parseExponent rest = some (none, rest) := by
  cases rest with
  | nil => rfl
  | cons c rest =>
    have hmark : ¬(c = 'e' ∨ c = 'E') := not_or.2 (h c rfl).2.2
    rw [parseExponent.eq_def]
    exact if_neg hmark

theorem exists_toDigits {n : Nat} (h : n ≠ 0) :
    ∃ c cs, Nat.toDigits 10 n = c :: cs ∧ c.toNat - 48 ≠ 0 := by
  induction n using Nat.strongRecOn with
  | ind n ih =>
    by_cases hn : n < 10
    · refine ⟨_, _, Nat.toDigits_of_lt_base hn, ?_⟩
      rw [Nat.toNat_digitChar_of_lt_ten hn]
      omega
    · obtain ⟨c, cs, hfront, hc⟩ := ih (n / 10) (by omega) (by omega)
      rw [Nat.toDigits_of_base_le (by omega) (by omega), hfront]
      exact ⟨c, cs ++ _, rfl, hc⟩

theorem parseUnsigned_toDigits (negative : Bool) (n : Nat) (h : EndsNumber rest) :
    parseUnsigned negative (Nat.toDigits 10 n ++ rest) =
      some (⟨negative, (Nat.toDigits 10 n).map fun c => c.toNat - 48, [], none⟩, rest) := by
  rw [parseUnsigned, spanDigits_append Text.isDigit_of_mem_toDigits h]
  split
  · rename_i heq
    have hnil := (Prod.mk.inj heq).1
    exact absurd (List.map_eq_nil_iff.1 hnil) Nat.toDigits_ne_nil
  · rename_i d ds _ heq
    have hzero := (Prod.mk.inj heq).1
    by_cases hn : n = 0
    · subst hn
      cases hzero
    · obtain ⟨c, cs, hfront, hc⟩ := exists_toDigits hn
      rw [hfront, List.map_cons] at hzero
      exact absurd (List.cons.inj hzero).1 hc
  · rename_i heq
    obtain ⟨rfl, rfl⟩ := Prod.mk.inj heq
    rw [parseFraction_of_endsNumber h]
    simp [parseExponent_of_endsNumber h]

/-- **An integer is read back.** -/
theorem parseNumber_int (n : Int) (h : EndsNumber rest) :
    parseNumber ((toString n).toList ++ rest) = some (.ofInt n, rest) := by
  cases n with
  | ofNat n =>
    have htext : (toString (Int.ofNat n)).toList = Nat.toDigits 10 n := Text.toList_toString n
    obtain ⟨c, cs, hfront⟩ := List.exists_cons_of_ne_nil (Nat.toDigits_ne_nil (b := 10) (n := n))
    rw [htext, parseNumber.eq_def]
    split
    · rename_i heq
      rw [hfront] at heq
      have hdigit := Text.isDigit_of_mem_toDigits c (hfront ▸ List.mem_cons_self)
      rw [(List.cons.inj heq).1] at hdigit
      cases hdigit
    · exact parseUnsigned_toDigits false n h
  | negSucc n =>
    have htext : (toString (Int.negSucc n)).toList = '-' :: Nat.toDigits 10 (n + 1) := by
      rw [Text.toList_toString_int, if_pos (Int.negSucc_lt_zero n)]
      rfl
    rw [htext, List.cons_append, parseNumber, parseUnsigned_toDigits true (n + 1) h]
    simp [NumberLiteral.ofInt]

end Integers

/-! ### Steps -/

/-- A number can start with a character. -/
def StartsNumber (c : Char) : Prop := c.isDigit = true ∨ c = '-'

theorem StartsNumber.ne {c other : Char} (h : StartsNumber c) (hdigit : other.isDigit = false)
    (hminus : other ≠ '-') : c ≠ other := by
  rintro rfl
  exact h.elim (fun h => Bool.false_ne_true (hdigit.symm.trans h)) hminus

theorem StartsNumber.isSpace {c : Char} (h : StartsNumber c) : isSpace c = false := by
  simp only [Json.isSpace, Bool.or_eq_false_iff, decide_eq_false_iff_not]
  exact ⟨⟨⟨h.ne rfl (by decide), h.ne rfl (by decide)⟩, h.ne rfl (by decide)⟩,
    h.ne rfl (by decide)⟩

theorem exists_toString (n : Int) :
    ∃ c cs, (toString n).toList = c :: cs ∧ StartsNumber c := by
  cases n with
  | ofNat n =>
    obtain ⟨c, cs, hfront⟩ := List.exists_cons_of_ne_nil (Nat.toDigits_ne_nil (b := 10) (n := n))
    exact ⟨c, cs, (Text.toList_toString n).trans hfront,
      .inl (Text.isDigit_of_mem_toDigits c (hfront ▸ List.mem_cons_self))⟩
  | negSucc n => exact ⟨'-', _, String.toList_append, .inr rfl⟩

theorem skipSpace_cons {c : Char} (h : isSpace c = false) (cs : List Char) :
    skipSpace (c :: cs) = c :: cs := by
  rw [skipSpace, List.dropWhile_cons_of_neg (by simp [h])]

section Steps

variable {fuel : Nat} {c : Char} {cs after rest : List Char} {d : Document} {key : List Nat}

theorem parseDocument_quote : parseDocument (fuel + 1) ('"' :: cs) =
    (parseString cs).map fun (codes, rest) => (.string codes, rest) := rfl

theorem parseDocument_number (h : StartsNumber c) : parseDocument (fuel + 1) (c :: cs) =
    (parseNumber (c :: cs)).map fun (l, rest) => (.number l, rest) := by
  rw [parseDocument, skipSpace_cons h.isSpace]
  split
  case h_7 => rfl
  all_goals
    rename_i heq
    exact absurd (List.cons.inj heq).1 (h.ne rfl (by decide))

theorem parseDocument_bracket (hspace : isSpace c = false) (hc : c ≠ ']') :
    parseDocument (fuel + 1) ('[' :: c :: cs) =
      (parseItems fuel (c :: cs)).map fun (items, rest) => (.array items, rest) := by
  have hopen : skipSpace ('[' :: c :: cs) = '[' :: c :: cs := rfl
  simp only [parseDocument, hopen, skipSpace_cons hspace]
  split
  · rename_i heq
    exact absurd (List.cons.inj heq).1 hc
  · rfl

theorem parseDocument_brace : parseDocument (fuel + 1) ('\x7b' :: '"' :: cs) =
    (parseMembers fuel ('"' :: cs)).map fun (members, rest) => (.object members, rest) := rfl

theorem parseItems_comma (h : parseDocument fuel cs = some (d, ',' :: rest)) :
    parseItems (fuel + 1) cs =
      (parseItems fuel rest).map fun (items, rest) => (d :: items, rest) := by
  rw [parseItems, h]
  change (parseItems fuel rest).bind _ = _
  cases parseItems fuel rest <;> rfl

theorem parseItems_last (h : parseDocument fuel cs = some (d, ']' :: rest)) :
    parseItems (fuel + 1) cs = some ([d], rest) := by
  rw [parseItems, h]
  rfl

theorem parseMembers_comma (hkey : parseString cs = some (key, ':' :: after))
    (h : parseDocument fuel after = some (d, ',' :: rest)) :
    parseMembers (fuel + 1) ('"' :: cs) =
      (parseMembers fuel rest).map fun (members, rest) => ((key, d) :: members, rest) := by
  rw [parseMembers, skipSpace_cons rfl]
  simp only [hkey, h, Option.bind_eq_bind, Option.bind_some, skipSpace_cons (c := ':') rfl,
    skipSpace_cons (c := ',') rfl]
  cases parseMembers fuel rest <;> rfl

theorem parseMembers_last (hkey : parseString cs = some (key, ':' :: after))
    (h : parseDocument fuel after = some (d, '\x7d' :: rest)) :
    parseMembers (fuel + 1) ('"' :: cs) = some ([(key, d)], rest) := by
  rw [parseMembers, skipSpace_cons rfl]
  simp only [hkey, h, Option.bind_eq_bind, Option.bind_some, skipSpace_cons (c := ':') rfl,
    skipSpace_cons (c := '\x7d') rfl]
  rfl

end Steps

/-! ### Values -/

namespace Value

mutual

/-- The document that the text of a value writes.  Of a fraction only the kind is kept. -/
def document : Value → Document
  | .null => .null
  | .bool b => .bool b
  | .number (.int n) => .number (.ofInt n)
  | .number (.double _) => .number ⟨false, [0], [0], none⟩
  | .string s => .string (codes s)
  | .array items => .array (itemDocuments items)
  | .object members => .object (memberDocuments members)

/-- The documents of the items of an array. -/
def itemDocuments : List Value → List Document
  | [] => []
  | v :: vs => v.document :: itemDocuments vs

/-- The documents of the members of an object. -/
def memberDocuments : List (String × Value) → List (List Nat × Document)
  | [] => []
  | (key, v) :: ms => (codes key, v.document) :: memberDocuments ms

end

/-- All numbers in a value are integers of 64 bits, and no more than so many arrays and objects are
nested. -/
inductive Fits : Nat → Value → Prop
  /-- The null value. -/
  | null {room : Nat} : Fits room .null
  /-- A truth value. -/
  | bool {room : Nat} (b : Bool) : Fits room (.bool b)
  /-- An integer. -/
  | int {room : Nat} {n : Int} : -2 ^ 63 ≤ n → n < 2 ^ 64 → Fits room (.int n)
  /-- A string. -/
  | string {room : Nat} (s : String) : Fits room (.string s)
  /-- An array. -/
  | array {room : Nat} {items : List Value} : (∀ v ∈ items, Fits room v) →
    Fits (room + 1) (.array items)
  /-- An object. -/
  | object {room : Nat} {members : List (String × Value)} : (∀ m ∈ members, Fits room m.2) →
    Fits (room + 1) (.object members)

theorem fits_object_iff {members : List (String × Value)} {room : Nat} :
    Fits (room + 1) (.object members) ↔ ∀ m ∈ members, m.2.Fits room := by
  constructor
  · intro h
    cases h with
    | object h => exact h
  · exact .object

/-- The text of a value is read as its document, whatever follows that does not go on with a
number.  As much fuel as there are characters is enough. -/
structure IsReadBack (v : Value) : Prop where
  /-- The text does not start with a blank or with the end of an array. -/
  head : ∃ c cs, v.chars = c :: cs ∧ isSpace c = false ∧ c ≠ ']'
  /-- What is read. -/
  parse {fuel : Nat} {rest : List Char} : v.chars.length ≤ fuel + 1 → EndsNumber rest →
    parseDocument (fuel + 1) (v.chars ++ rest) = some (v.document, rest)

section ReadBack

variable {v : Value} {items : List Value} {members : List (String × Value)}
variable {fuel : Nat} {rest : List Char}

theorem IsReadBack.length_pos (h : v.IsReadBack) : 0 < v.chars.length := by
  obtain ⟨c, cs, hchars, -, -⟩ := h.head
  rw [hchars]
  exact Nat.succ_pos _

theorem IsReadBack.parse_of_le (h : v.IsReadBack) (hfuel : v.chars.length ≤ fuel)
    (hrest : EndsNumber rest) : parseDocument fuel (v.chars ++ rest) = some (v.document, rest) := by
  obtain ⟨fuel, rfl⟩ := Nat.exists_eq_add_of_le' (Nat.lt_of_lt_of_le h.length_pos hfuel)
  exact h.parse hfuel hrest

theorem isReadBack_null : IsReadBack .null where
  head := ⟨'n', _, rfl, rfl, by decide⟩
  parse _ _ := rfl

theorem isReadBack_bool (b : Bool) : IsReadBack (.bool b) := by
  cases b with
  | true => exact ⟨⟨'t', _, rfl, rfl, by decide⟩, fun _ _ => rfl⟩
  | false => exact ⟨⟨'f', _, rfl, rfl, by decide⟩, fun _ _ => rfl⟩

theorem isReadBack_string (s : String) : IsReadBack (.string s) where
  head := ⟨'"', _, rfl, rfl, by decide⟩
  parse _ _ := by
    rw [chars, stringText, List.cons_append, List.cons_append, List.append_assoc,
      parseDocument_quote, List.singleton_append, parseString_flatMap]
    rfl

theorem isReadBack_int (n : Int) : IsReadBack (.int n) := by
  obtain ⟨c, cs, htext, hc⟩ := exists_toString n
  have hchars : (Value.int n).chars = (toString n).toList := rfl
  refine ⟨⟨c, cs, htext, hc.isSpace, hc.ne rfl (by decide)⟩, fun {fuel rest} _ hrest => ?_⟩
  rw [hchars, htext, List.cons_append, parseDocument_number hc, ← List.cons_append, ← htext,
    parseNumber_int n hrest]
  rfl

theorem parseItems_itemChars (hne : items ≠ []) (h : ∀ v ∈ items, v.IsReadBack)
    (hfuel : (itemChars items).length < fuel) :
    parseItems fuel (itemChars items ++ ']' :: rest) = some (itemDocuments items, rest) := by
  induction items generalizing fuel with
  | nil => contradiction
  | cons v vs ih =>
    obtain ⟨hv, hvs⟩ := List.forall_mem_cons.1 h
    obtain ⟨fuel, rfl⟩ := Nat.exists_eq_add_of_le' (Nat.succ_le_of_lt (Nat.zero_lt_of_lt hfuel))
    cases vs with
    | nil => 
      have hfuel : v.chars.length ≤ fuel := Nat.le_of_lt_succ hfuel
      exact parseItems_last (hv.parse_of_le hfuel (endsNumber_cons (by decide) rest))
    | cons w ws =>
      have hlength : (itemChars (v :: w :: ws)).length =
          v.chars.length + ((itemChars (w :: ws)).length + 1) := by
        rw [itemChars, List.length_append, List.length_cons]
      have hpos := hv.length_pos
      rw [itemChars, List.append_assoc, List.cons_append,
        parseItems_comma (hv.parse_of_le (by omega) (endsNumber_cons (by decide) _)),
        ih (by simp) hvs (by omega)]
      rfl

theorem parseMembers_memberChars (hne : members ≠ []) (h : ∀ m ∈ members, m.2.IsReadBack)
    (hfuel : (memberChars members).length < fuel) :
    parseMembers fuel (memberChars members ++ '\x7d' :: rest) =
      some (memberDocuments members, rest) := by
  induction members generalizing fuel with
  | nil => contradiction
  | cons m ms ih =>
    obtain ⟨key, v⟩ := m
    obtain ⟨hv, hms⟩ := List.forall_mem_cons.1 h
    change v.IsReadBack at hv
    obtain ⟨fuel, rfl⟩ := Nat.exists_eq_add_of_le' (Nat.succ_le_of_lt (Nat.zero_lt_of_lt hfuel))
    have htext (after : List Char) : stringText key ++ ':' :: after =
        '"' :: (key.toList.flatMap stringChar ++ '"' :: ':' :: after) := by
      rw [stringText, List.cons_append, List.cons_append, List.append_assoc, List.singleton_append]
    -- behind the last member stands the brace, behind any other one a comma
    cases ms with
    | nil =>
      have hchars : memberChars [(key, v)] = stringText key ++ ':' :: v.chars := by
        rw [memberChars]
      rw [hchars, List.length_append, List.length_cons] at hfuel
      rw [hchars, List.append_assoc, List.cons_append, htext]
      exact parseMembers_last (parseString_flatMap _ _)
        (hv.parse_of_le (by omega) (endsNumber_cons (by decide) rest))
    | cons m' ms =>
      have hchars : memberChars ((key, v) :: m' :: ms) =
          stringText key ++ ':' :: (v.chars ++ ',' :: memberChars (m' :: ms)) := by
        rw [memberChars, List.append_assoc, List.cons_append]
      rw [hchars, List.length_append, List.length_cons, List.length_append,
        List.length_cons] at hfuel
      rw [hchars, List.append_assoc, List.cons_append, List.append_assoc, List.cons_append, htext,
        parseMembers_comma (parseString_flatMap _ _)
          (hv.parse_of_le (by omega) (endsNumber_cons (by decide) _)),
        ih (by simp) hms (by omega)]
      rfl

theorem isReadBack_array (h : ∀ v ∈ items, v.IsReadBack) : IsReadBack (.array items) := by
  refine ⟨⟨'[', _, rfl, rfl, by decide⟩, fun {fuel rest} hfuel _ => ?_⟩
  have hchars : (array items).chars = '[' :: (itemChars items ++ [']']) := by
    rw [chars, List.cons_append]
  rw [hchars, List.length_cons, List.length_append, List.length_singleton] at hfuel
  cases items with
  | nil => rfl
  | cons v vs =>
    obtain ⟨c, cs, hv, hspace, hc⟩ := (h v List.mem_cons_self).head
    obtain ⟨more, hfront⟩ : ∃ more, itemChars (v :: vs) = c :: more := by
      cases vs with
      | nil => exact ⟨cs, by rw [itemChars, hv]⟩
      | cons w ws => exact ⟨_, by rw [itemChars, hv, List.cons_append]⟩
    rw [hchars, List.cons_append, List.append_assoc, List.singleton_append, hfront,
      List.cons_append, parseDocument_bracket hspace hc, ← List.cons_append, ← hfront,
      parseItems_itemChars (by simp) h (by omega)]
    rfl

theorem isReadBack_object (h : ∀ m ∈ members, m.2.IsReadBack) : IsReadBack (.object members) := by
  refine ⟨⟨'\x7b', _, rfl, rfl, by decide⟩, fun {fuel rest} hfuel _ => ?_⟩
  have hchars : (object members).chars = '\x7b' :: (memberChars members ++ ['\x7d']) := by
    rw [chars, List.cons_append]
  rw [hchars, List.length_cons, List.length_append, List.length_singleton] at hfuel
  cases members with
  | nil => rfl
  | cons m ms =>
    obtain ⟨more, hfront⟩ : ∃ more, memberChars (m :: ms) = '"' :: more := by
      cases ms <;> exact ⟨_, by rw [memberChars]; rfl⟩
    rw [hchars, List.cons_append, List.append_assoc, List.singleton_append, hfront,
      List.cons_append, parseDocument_brace, ← List.cons_append, ← hfront,
      parseMembers_memberChars (by simp) h (by omega)]
    rfl

/-- **Whatever fits is read back.** -/
theorem Fits.isReadBack {room : Nat} (h : v.Fits room) : v.IsReadBack := by
  induction h with
  | null => exact isReadBack_null
  | bool b => exact isReadBack_bool b
  | int _ _ => exact isReadBack_int _
  | string s => exact isReadBack_string s
  | array _ ih => exact isReadBack_array ih
  | object _ ih => exact isReadBack_object ih

end ReadBack

/-- **The text of a value is read as its document.** -/
theorem parse?_render {v : Value} {room : Nat} (h : v.Fits room) :
    Document.parse? v.render = some v.document := by
  have hparse : parseDocument (2 * v.chars.length + 1) (v.chars ++ []) = some (v.document, []) :=
    h.isReadBack.parse_of_le (by omega) endsNumber_nil
  rw [List.append_nil] at hparse
  rw [Document.parse?, render, String.toList_ofList, Document.parseChars?, hparse]
  rfl

end Value

end Json

end ClusterGateway
