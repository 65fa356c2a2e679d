import ClusterGateway.Proofs.Text.Utf8

/-!
# Malformed text around ASCII

A reader that puts the replacement character for every malformed part is never inside a character
when it has read an ASCII octet: whatever was open before is replaced, and the octet stands for
itself.  So octets can be cut at an ASCII octet and the parts read on their own.

* `Utf8.Begun` : the octets of a character that has been begun, with the state inside it.
* `Utf8.scan_append_ascii` : **reading commutes with cutting at an ASCII octet**.
* `Utf8.exists_octet_of_mem_scan` : an ASCII character is read only where its octet is.
-/

namespace ClusterGateway

namespace Utf8

/-- The octets of a character so far, and the state that they lead to; none between characters. -/
inductive Begun : Bytes → State → Prop
  /-- Between characters. -/
  | start : Begun [] .start
  /-- The first octet of several. -/
  | lead {b : UInt8} {state : State} : Leads b.toNat state → Begun [b] state
  /-- An octet that others follow. -/
  | more {front : Bytes} {low high n bits : Nat} {b : UInt8} :
    Begun front (.inside low high (n + 1) bits) → low ≤ b.toNat → b.toNat ≤ high →
    Begun (front ++ [b]) (.inside 0x80 0xBF n (bits * 64 + (b.toNat - 0x80)))

variable {front bs rest : Bytes} {state : State} {low high more bits v : Nat} {b : UInt8} {c : Char}

/-! ### Inside a character -/

theorem Begun.low_ge (h : Begun front (.inside low high more bits)) : 0x80 ≤ low := by
  cases h with
  | lead hleads =>
    cases hleads with
    | two => exact Nat.le_refl _
    | three => exact le_ite_iff.2 ⟨fun _ => by omega, fun _ => by omega⟩
    | four => exact le_ite_iff.2 ⟨fun _ => by omega, fun _ => by omega⟩
  | more => exact Nat.le_refl _

theorem Begun.writes (h : Begun front state) (hrest : Completes state bs v) :
    Writes (front ++ bs) (Char.ofNat v) := by
  induction h generalizing bs with
  | start => cases hrest
  | lead hleads => exact .several hleads hrest
  | more _ hlow hhigh ih =>
    rw [List.append_assoc]
    exact ih (.more hlow hhigh hrest)

theorem Begun.ne_nil (h : Begun front (.inside low high more bits)) : front ≠ [] := by
  cases h <;> simp

theorem Writes.toNat_ge (h : Writes bs c) (hlength : 2 ≤ bs.length) : 0x80 ≤ c.toNat := by
  by_contra hascii
  have hvalid : c.toNat.isValidChar := c.valid
  have hbytes := h.eq_utf8EncodeChar
  rw [← c.ofNat_toNat, utf8EncodeChar_ofNat hvalid, if_pos (by omega)] at hbytes
  rw [hbytes, List.length_singleton] at hlength
  omega

/-! ### One octet -/

/-- What one octet does to the reader: it stands for itself, begins or goes on with a character,
completes it, or nothing can be made of it. -/
inductive Advances (b : UInt8) : State → List (Option Char) → State → Prop
  /-- An ASCII octet between characters. -/
  | ascii : b.toNat < 0x80 → Advances b .start [some (Char.ofNat b.toNat)] .start
  /-- An octet that begins a character, or goes on with one. -/
  | silent {state next : State} {front : Bytes} : Begun front next → Advances b state [] next
  /-- The last octet of a character. -/
  | last {low high bits : Nat} {c : Char} : 0x80 ≤ c.toNat →
    Advances b (.inside low high 0 bits) [some c] .start
  /-- An octet that begins no character. -/
  | bad : Advances b .start [none] .start
  /-- An octet that does not go on with the character, which is given up. -/
  | breaks {low high more bits : Nat} {out : List (Option Char)} {next : State} :
    Advances b .start out next → Advances b (.inside low high more bits) (none :: out) next

theorem advances_first (b : UInt8) : Advances b .start (first b.toNat).1 (first b.toNat).2 := by
  obtain ⟨hb, hfirst⟩ | ⟨next, hleads, hfirst⟩ | hfirst := first_cases b.toNat
  · rw [hfirst]
    exact .ascii hb
  · rw [hfirst]
    exact .silent (.lead hleads)
  · rw [hfirst]
    exact .bad

/-- **All that one octet can do.** -/
theorem Begun.advances (h : Begun front state) (b : UInt8) :
    Advances b state (step state b.toNat).1 (step state b.toNat).2 := by
  cases state with
  | start => exact advances_first b
  | inside low high more bits =>
    rw [step]
    by_cases hb : low ≤ b.toNat ∧ b.toNat ≤ high
    · rw [if_pos hb]
      cases more with
      | zero =>
        have hwrites := h.writes (.last hb.1 hb.2)
        have hfront := List.length_pos_of_ne_nil h.ne_nil
        refine .last (hwrites.toNat_ge ?_)
        rw [List.length_append, List.length_singleton]
        omega
      | succ more => exact .silent (h.more hb.1 hb.2)
    · rw [if_neg hb]
      exact .breaks (advances_first b)

theorem Advances.begun {next : State} {out : List (Option Char)} (h : Advances b state out next) :
    ∃ front, Begun front next := by
  induction h with
  | ascii => exact ⟨[], .start⟩
  | silent h => exact ⟨_, h⟩
  | last => exact ⟨[], .start⟩
  | bad => exact ⟨[], .start⟩
  | breaks _ ih => exact ih

theorem Advances.eq_of_mem {next : State} {out : List (Option Char)}
    (h : Advances b state out next) (hc : some c ∈ out) (hascii : c.toNat < 0x80) :
    b.toNat = c.toNat := by
  induction h with
  | ascii hb =>
    obtain rfl := Option.some.inj (List.mem_singleton.1 hc)
    rw [Char.ofNat, dif_pos (.inl (by omega))]
    rfl
  | silent => cases hc
  | last hge =>
    obtain rfl := Option.some.inj (List.mem_singleton.1 hc)
    omega
  | bad => simp at hc
  | breaks _ ih => exact ih (by simpa using hc)

/-! ### Many octets -/

/-- What follows an ASCII octet is read from between characters on. -/
theorem Begun.scanFrom_ascii (h : Begun front state) (hb : b.toNat < 0x80) (rest : Bytes) :
    scanFrom state (b :: rest) = finish state ++ some (Char.ofNat b.toNat) :: scan rest := by
  have hfirst : first b.toNat = ([some (Char.ofNat b.toNat)], .start) := if_pos hb
  cases state with
  | start =>
    rw [scanFrom, step, hfirst]
    rfl
  | inside low high more bits =>
    have hlow := h.low_ge
    rw [scanFrom, step, if_neg (by omega), hfirst]
    rfl

theorem Begun.scanFrom_append_ascii (h : Begun front state) (hb : b.toNat < 0x80)
    (bs rest : Bytes) : scanFrom state (bs ++ b :: rest) =
      scanFrom state bs ++ some (Char.ofNat b.toNat) :: scan rest := by
  induction bs generalizing front state with
  | nil => exact h.scanFrom_ascii hb rest
  | cons x bs ih =>
    obtain ⟨front', hnext⟩ := (h.advances x).begun
    simp only [List.cons_append, scanFrom, ih hnext, List.append_assoc]

/-- **Reading commutes with cutting at an ASCII octet**, however malformed both parts are. -/
theorem scan_append_ascii (hb : b.toNat < 0x80) (bs rest : Bytes) :
    scan (bs ++ b :: rest) = scan bs ++ some (Char.ofNat b.toNat) :: scan rest :=
  Begun.start.scanFrom_append_ascii hb bs rest

theorem Begun.exists_octet (h : Begun front state) (hc : some c ∈ scanFrom state bs)
    (hascii : c.toNat < 0x80) : ∃ b ∈ bs, b.toNat = c.toNat := by
  induction bs generalizing front state with
  | nil =>
    cases state with
    | start => cases hc
    | inside => simp [scanFrom, finish] at hc
  | cons x bs ih =>
    rw [scanFrom] at hc
    have hx := h.advances x
    obtain hc | hc := List.mem_append.1 hc
    · exact ⟨x, List.mem_cons_self, hx.eq_of_mem hc hascii⟩
    · obtain ⟨front', hnext⟩ := hx.begun
      obtain ⟨b, hb, heq⟩ := ih hnext hc
      exact ⟨b, List.mem_cons_of_mem _ hb, heq⟩

/-- An ASCII character is read only where its octet is. -/
theorem exists_octet_of_mem_scan (hc : some c ∈ scan bs) (hascii : c.toNat < 0x80) :
    ∃ b ∈ bs, b.toNat = c.toNat := Begun.start.exists_octet hc hascii

theorem decodeLossyChars_append_ascii (hb : b.toNat < 0x80) (bs rest : Bytes) :
    decodeLossyChars (bs ++ b :: rest) =
      decodeLossyChars bs ++ Char.ofNat b.toNat :: decodeLossyChars rest := by
  rw [decodeLossyChars, scan_append_ascii hb, List.map_append]
  rfl

theorem exists_octet_of_mem_decodeLossyChars (hc : c ∈ decodeLossyChars bs)
    (hascii : c.toNat < 0x80) : ∃ b ∈ bs, b.toNat = c.toNat := by
  obtain ⟨read, hread, rfl⟩ := List.mem_map.1 hc
  cases read with
  | none => exact absurd hascii (by decide)
  | some c => exact exists_octet_of_mem_scan hread hascii

end Utf8

end ClusterGateway
