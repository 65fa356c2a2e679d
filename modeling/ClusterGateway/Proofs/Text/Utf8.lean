import ClusterGateway.Text.Utf8
import Mathlib.Data.List.Basic

/-!
# Reading UTF-8 undoes writing it

A character is written by one sequence of octets only, and the reader finds exactly these
sequences: it goes through the states inside a character (`Utf8.Completes`) and is back at the start
when the character is complete (`Utf8.Writes`).

* `Utf8.writes_iff` : **the sequence for a character is the one that the writer chooses**.
* `Utf8.scan_append`, `Utf8.exists_writes` : the reader takes such sequences one after the other.
* `Utf8.decode?_eq_some_iff` : **octets are read as a text just if they are the octets of it**.
-/

namespace ClusterGateway

namespace Utf8

/-! ### One character -/

/-- Octets lead from inside a character to its end, with the bits that it has then. -/
inductive Completes : State → Bytes → Nat → Prop
  /-- The last octet. -/
  | last {low high bits : Nat} {b : UInt8} : low ≤ b.toNat → b.toNat ≤ high →
    Completes (.inside low high 0 bits) [b] (bits * 64 + (b.toNat - 0x80))
  /-- An octet that others follow. -/
  | more {low high n bits v : Nat} {b : UInt8} {bs : Bytes} : low ≤ b.toNat → b.toNat ≤ high →
    Completes (.inside 0x80 0xBF n (bits * 64 + (b.toNat - 0x80))) bs v →
    Completes (.inside low high (n + 1) bits) (b :: bs) v

/-- What the first octet of several says of those that follow. -/
inductive Leads : Nat → State → Prop
  /-- One octet follows. -/
  | two {b : Nat} : 0xC2 ≤ b → b ≤ 0xDF → Leads b (.inside 0x80 0xBF 0 (b - 0xC0))
  /-- Two octets follow; the bounds keep out what is too long and the surrogates. -/
  | three {b : Nat} : 0xE0 ≤ b → b ≤ 0xEF → Leads b
    (.inside (if b = 0xE0 then 0xA0 else 0x80) (if b = 0xED then 0x9F else 0xBF) 1 (b - 0xE0))
  /-- Three octets follow; the bounds keep out what is too long and what is no character. -/
  | four {b : Nat} : 0xF0 ≤ b → b ≤ 0xF4 → Leads b
    (.inside (if b = 0xF0 then 0x90 else 0x80) (if b = 0xF4 then 0x8F else 0xBF) 2 (b - 0xF0))

/-- Octets lead the reader through a character, from its first octet to its last. -/
inductive Writes : Bytes → Char → Prop
  /-- A single octet. -/
  | single {b : UInt8} : b.toNat < 0x80 → Writes [b] (Char.ofNat b.toNat)
  /-- Several octets. -/
  | several {b : UInt8} {bs : Bytes} {state : State} {v : Nat} : Leads b.toNat state →
    Completes state bs v → Writes (b :: bs) (Char.ofNat v)

theorem Leads.first_eq {b : Nat} {state : State} (h : Leads b state) : first b = ([], state) := by
  cases h with
  | two h₁ h₂ => rw [first, if_neg (by omega), if_pos ⟨h₁, h₂⟩]
  | three h₁ h₂ =>
    by_cases hlow : b = 0xE0
    · subst hlow
      rfl
    by_cases hhigh : b = 0xED
    · subst hhigh
      rfl
    rw [first, if_neg (by omega), if_neg (by omega), if_neg hlow, if_neg hhigh,
      if_pos ⟨by omega, h₂⟩, if_neg hlow, if_neg hhigh]
  | four h₁ h₂ =>
    by_cases hlow : b = 0xF0
    · subst hlow
      rfl
    by_cases hhigh : b = 0xF4
    · subst hhigh
      rfl
    rw [first, if_neg (by omega), if_neg (by omega), if_neg (by omega), if_neg (by omega),
      if_neg (by omega), if_neg hlow, if_pos ⟨by omega, by omega⟩, if_neg hlow, if_neg hhigh]

/-- **All that a first octet can do.** -/
theorem first_cases (b : Nat) :
    b < 0x80 ∧ first b = ([some (Char.ofNat b)], .start) ∨
      (∃ state, Leads b state ∧ first b = ([], state)) ∨ first b = ([none], .start) := by
  have hleads {state : State} (h : Leads b state) :
      b < 0x80 ∧ first b = ([some (Char.ofNat b)], .start) ∨
        (∃ state, Leads b state ∧ first b = ([], state)) ∨ first b = ([none], .start) :=
    .inr (.inl ⟨state, h, h.first_eq⟩)
  -- the ranges in their order: an octet that is in none of them is malformed
  by_cases h₁ : b < 0x80
  · exact .inl ⟨h₁, if_pos h₁⟩
  by_cases h₂ : 0xC2 ≤ b ∧ b ≤ 0xDF
  · exact hleads (.two h₂.1 h₂.2)
  by_cases h₃ : 0xE0 ≤ b ∧ b ≤ 0xEF
  · exact hleads (.three h₃.1 h₃.2)
  by_cases h₄ : 0xF0 ≤ b ∧ b ≤ 0xF4
  · exact hleads (.four h₄.1 h₄.2)
  · refine .inr (.inr ?_)
    rw [first, if_neg h₁, if_neg h₂, if_neg (by omega), if_neg (by omega), if_neg (by omega),
      if_neg (by omega), if_neg (by omega), if_neg (by omega)]

theorem utf8EncodeChar_ofNat {v : Nat} (hv : v.isValidChar) :
    String.utf8EncodeChar (Char.ofNat v) =
      if v ≤ 0x7f then [UInt8.ofNat v]
      else if v ≤ 0x7ff then [UInt8.ofNat (v / 64 % 0x20 + 0xc0), UInt8.ofNat (v % 0x40 + 0x80)]
      else if v ≤ 0xffff then
        [UInt8.ofNat (v / 4096 % 0x10 + 0xe0), UInt8.ofNat (v / 64 % 0x40 + 0x80),
          UInt8.ofNat (v % 0x40 + 0x80)]
      else
        [UInt8.ofNat (v / 262144 % 0x08 + 0xf0), UInt8.ofNat (v / 4096 % 0x40 + 0x80),
          UInt8.ofNat (v / 64 % 0x40 + 0x80), UInt8.ofNat (v % 0x40 + 0x80)] := by
  have hval : (Char.ofNat v).val.toNat = v := by
    rw [Char.ofNat, dif_pos hv]
    rfl
  rw [String.utf8EncodeChar, hval]

theorem ofNat_eq {n : Nat} {b : UInt8} (h : n = b.toNat) : UInt8.ofNat n = b := by
  rw [h, UInt8.ofNat_toNat]

section Bounds

variable {p : Prop} [Decidable p] {x y n : Nat}

theorem ite_le_iff : (if p then x else y) ≤ n ↔ (p → x ≤ n) ∧ (¬p → y ≤ n) := by
  split <;> simp_all

theorem le_ite_iff : n ≤ (if p then x else y) ↔ (p → n ≤ x) ∧ (¬p → n ≤ y) := by
  split <;> simp_all

end Bounds

/-- **What is written for a character**, told by the octets. -/
theorem Writes.eq_utf8EncodeChar {bs : Bytes} {c : Char} (h : Writes bs c) :
    bs = String.utf8EncodeChar c := by
  cases h with
  | @single b hb =>
    rw [utf8EncodeChar_ofNat (by omega), if_pos (by omega), ofNat_eq rfl]
  | @several b _ _ _ hleads hrest =>
    -- the bounds of the octets say how large the number of the character is
    generalize hn : b.toNat = n at hleads
    cases hleads with
    | two h₁ h₂ =>
      obtain ⟨h₃, h₄⟩ := hrest
      rw [utf8EncodeChar_ofNat (by omega), if_neg (by omega), if_pos (by omega), ofNat_eq, ofNat_eq]
      · omega
      · omega
    | three h₁ h₂ =>
      obtain _ | ⟨h₃, h₄, ⟨h₅, h₆⟩⟩ := hrest
      rw [ite_le_iff] at h₃
      rw [le_ite_iff] at h₄
      rw [utf8EncodeChar_ofNat (by omega), if_neg (by omega), if_neg (by omega), if_pos (by omega),
        ofNat_eq, ofNat_eq, ofNat_eq]
      · omega
      · omega
      · omega
    | four h₁ h₂ =>
      obtain _ | ⟨h₃, h₄, _ | ⟨h₅, h₆, ⟨h₇, h₈⟩⟩⟩ := hrest
      rw [ite_le_iff] at h₃
      rw [le_ite_iff] at h₄
      rw [utf8EncodeChar_ofNat (by omega), if_neg (by omega), if_neg (by omega), if_neg (by omega),
        ofNat_eq, ofNat_eq, ofNat_eq, ofNat_eq]
      · omega
      · omega
      · omega
      · omega

/-- **Every character is written in some way.** -/
theorem writes_utf8EncodeChar (c : Char) : Writes (String.utf8EncodeChar c) c := by
  have hvalid : c.toNat.isValidChar := c.valid
  rw [← c.ofNat_toNat, utf8EncodeChar_ofNat hvalid]
  generalize c.toNat = v at hvalid
  have hseveral {b : UInt8} {bs : Bytes} {state : State} {w : Nat} (hb : Leads b.toNat state)
      (hbs : Completes state bs w) (hw : w = v) : Writes (b :: bs) (Char.ofNat v) :=
    hw ▸ .several hb hbs
  split
  · have hv : (UInt8.ofNat v).toNat = v := by
      rw [UInt8.toNat_ofNat', Nat.mod_eq_of_lt (by omega)]
    have h := Writes.single (b := UInt8.ofNat v) (by omega)
    rwa [hv] at h
  split
  · refine hseveral (.two ?_ ?_) (.last ?_ ?_) ?_ <;> simp only [UInt8.toNat_ofNat'] <;> omega
  split
  · refine hseveral (.three ?_ ?_) (.more ?_ ?_ (.last ?_ ?_)) ?_ <;>
      simp only [UInt8.toNat_ofNat', ite_le_iff, le_ite_iff] <;> omega
  · refine hseveral (.four ?_ ?_) (.more ?_ ?_ (.more ?_ ?_ (.last ?_ ?_))) ?_ <;>
      simp only [UInt8.toNat_ofNat', ite_le_iff, le_ite_iff] <;> omega

theorem writes_iff {bs : Bytes} {c : Char} : Writes bs c ↔ bs = String.utf8EncodeChar c := by
  constructor
  · exact Writes.eq_utf8EncodeChar
  · rintro rfl
    exact writes_utf8EncodeChar c

/-! ### Many characters -/

variable {bs rest : Bytes} {c : Char} {out : List (Option Char)}

theorem Completes.scanFrom_append {state : State} {v : Nat} (h : Completes state bs v) :
    scanFrom state (bs ++ rest) = some (Char.ofNat v) :: scan rest := by
  induction h with
  | last hlow hhigh =>
    rw [List.singleton_append, scanFrom, step, if_pos ⟨hlow, hhigh⟩]
    rfl
  | more hlow hhigh _ ih =>
    rw [List.cons_append, scanFrom, step, if_pos ⟨hlow, hhigh⟩]
    exact ih

/-- **The reader takes the octets of a character.** -/
theorem Writes.scan_append (h : Writes bs c) : scan (bs ++ rest) = some c :: scan rest := by
  cases h with
  | single hb =>
    rw [List.singleton_append, scan, scanFrom, step, first, if_pos hb]
    rfl
  | several hleads hrest =>
    rw [List.cons_append, scan, scanFrom, step, hleads.first_eq]
    exact hrest.scanFrom_append

/-- What is read as a character from inside it on are octets that complete it. -/
theorem exists_completes {low high more bits : Nat}
    (h : scanFrom (.inside low high more bits) bs = some c :: out) :
    ∃ front rest v, bs = front ++ rest ∧ Completes (.inside low high more bits) front v ∧
      c = Char.ofNat v ∧ scan rest = out := by
  induction bs generalizing low high more bits with
  | nil => cases h
  | cons b bs ih =>
    rw [scanFrom, step] at h
    by_cases hb : low ≤ b.toNat ∧ b.toNat ≤ high
    · rw [if_pos hb] at h
      cases more with
      | zero =>
        obtain ⟨hc, hout⟩ := List.cons.inj h
        exact ⟨[b], bs, _, rfl, .last hb.1 hb.2, (Option.some.inj hc).symm, hout⟩
      | succ more =>
        obtain ⟨front, rest, v, rfl, hfront, hc, hrest⟩ := ih h
        exact ⟨b :: front, rest, v, rfl, .more hb.1 hb.2 hfront, hc, hrest⟩
    · rw [if_neg hb] at h
      cases h

/-- **What is read as a character are the octets of it.** -/
theorem exists_writes (h : scan bs = some c :: out) :
    ∃ front rest, bs = front ++ rest ∧ Writes front c ∧ scan rest = out := by
  cases bs with
  | nil => cases h
  | cons b bs =>
    rw [scan, scanFrom, step] at h
    obtain ⟨hb, hfirst⟩ | ⟨state, hleads, hfirst⟩ | hfirst := first_cases b.toNat
    · rw [hfirst] at h
      obtain ⟨hc, hout⟩ := List.cons.inj h
      exact ⟨[b], bs, rfl, Option.some.inj hc ▸ .single hb, hout⟩
    · rw [hfirst] at h
      cases state with
      | start => cases hleads
      | inside low high more bits =>
        obtain ⟨front, rest, v, rfl, hfront, rfl, hrest⟩ := exists_completes h
        exact ⟨b :: front, rest, rfl, .several hleads hfront, hrest⟩
    · rw [hfirst] at h
      cases h

theorem scanFrom_inside_ne_nil {low high more bits : Nat} :
    scanFrom (.inside low high more bits) bs ≠ [] := by
  induction bs generalizing low high more bits with
  | nil => exact List.cons_ne_nil _ _
  | cons b bs ih =>
    rw [scanFrom, step]
    by_cases hb : low ≤ b.toNat ∧ b.toNat ≤ high
    · rw [if_pos hb]
      cases more with
      | zero => exact List.cons_ne_nil _ _
      | succ more => exact ih
    · rw [if_neg hb]
      exact List.cons_ne_nil _ _

theorem scan_eq_nil_iff : scan bs = [] ↔ bs = [] := by
  constructor
  · intro h
    cases bs with
    | nil => rfl
    | cons b bs =>
      rw [scan, scanFrom, step] at h
      obtain ⟨-, hfirst⟩ | ⟨state, hleads, hfirst⟩ | hfirst := first_cases b.toNat
      · rw [hfirst] at h
        cases h
      · rw [hfirst] at h
        cases hleads <;> exact absurd h scanFrom_inside_ne_nil
      · rw [hfirst] at h
        cases h
  · rintro rfl
    rfl

theorem scan_eq_map_iff {cs : List Char} :
    scan bs = cs.map some ↔ bs = cs.flatMap String.utf8EncodeChar := by
  induction cs generalizing bs with
  | nil => exact scan_eq_nil_iff
  | cons c cs ih =>
    rw [List.map_cons, List.flatMap_cons]
    constructor
    · intro h
      obtain ⟨front, rest, rfl, hfront, hrest⟩ := exists_writes h
      rw [writes_iff.1 hfront, ih.1 hrest]
    · rintro rfl
      rw [(writes_iff.2 rfl).scan_append, ih.2 rfl]

theorem mapM_id_eq_some_iff {α : Type} {as : List (Option α)} {bs : List α} :
    as.mapM id = some bs ↔ as = bs.map some := by
  induction as generalizing bs with
  | nil => cases bs <;> simp
  | cons a as ih =>
    cases a with
    | none => cases bs <;> simp
    | some a =>
      rw [List.mapM_cons]
      cases has : as.mapM id with
      | none => cases bs <;> simp_all
      | some cs => cases bs <;> simp_all

/-- **Octets are read as a text just if they are the octets of it.** -/
theorem decode?_eq_some_iff {s : String} : decode? bs = some s ↔ bs = encode s := by
  rw [decode?, encode, ← scan_eq_map_iff, ← mapM_id_eq_some_iff, Option.map_eq_some_iff]
  constructor
  · rintro ⟨cs, hcs, rfl⟩
    rwa [String.toList_ofList]
  · intro h
    exact ⟨s.toList, h, String.ofList_toList⟩

@[simp] theorem decode?_encode (s : String) : decode? (encode s) = some s :=
  decode?_eq_some_iff.2 rfl

theorem encode_injective {s t : String} (h : encode s = encode t) : s = t := by
  rw [← Option.some.injEq, ← decode?_encode s, h, decode?_encode]

theorem toList_of_encode_eq_cons {s : String} {b : UInt8} (hb : b.toNat < 0x80)
    (h : encode s = b :: rest) : ∃ cs, s.toList = Char.ofNat b.toNat :: cs := by
  have hscan : scan ([b] ++ rest) = s.toList.map some := scan_eq_map_iff.2 h.symm
  rw [(Writes.single hb).scan_append] at hscan
  obtain ⟨c, cs, hs, hc, -⟩ := List.map_eq_cons_iff.1 hscan.symm
  exact ⟨cs, Option.some.inj hc ▸ hs⟩

@[simp] theorem encode_empty : encode "" = [] := by
  rw [encode, String.toList_empty, List.flatMap_nil]

@[simp] theorem encode_append (s t : String) : encode (s ++ t) = encode s ++ encode t := by
  rw [encode, String.toList_append, List.flatMap_append]
  rfl

@[simp] theorem encode_eq_nil_iff {s : String} : encode s = [] ↔ s = "" := by
  constructor
  · intro h
    exact encode_injective (h.trans encode_empty.symm)
  · rintro rfl
    exact encode_empty

theorem length_encode_le (s : String) : (encode s).length ≤ 4 * s.toList.length := by
  rw [encode]
  induction s.toList with
  | nil => exact Nat.le_refl 0
  | cons c cs ih =>
    have hc : c.utf8Size ≤ 4 := c.utf8Size_le_four
    rw [List.flatMap_cons, List.length_append, String.length_utf8EncodeChar, List.length_cons]
    omega

end Utf8

end ClusterGateway
