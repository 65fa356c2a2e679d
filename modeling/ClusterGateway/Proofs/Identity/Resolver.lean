import ClusterGateway.Identity.Resolver
import ClusterGateway.Proofs.Identity.Impersonation
import ClusterGateway.Proofs.Text.Blanks
import ClusterGateway.Proofs.Text.Pieces

/-!
# Whom a policy makes out

`IdentityPolicy.MakesOut` says whom a policy that impersonates makes out of headers: the user and
the groups are what the first values of their headers say, blanks at the ends left out, and there
is a user or a group.

* `IdentityPolicy.resolve_eq_ok_iff` : **a caller is made out just as `MakesOut` says**, so that
  nobody gets through as nobody.
* `IdentityPolicy.MakesOut.isWritable` : the identity of a caller can always be written, because it
  consists of parts of visible header values.
* `Impersonation.exists_values_of_apply` : a request in the name of somebody says so in a header.
-/

namespace ClusterGateway

/-! ### Visible values -/

namespace Http

/-- A character of visible ASCII, a blank or a tab. -/
def IsVisibleChar (c : Char) : Prop := (32 ≤ c.toNat ∧ c.toNat < 127) ∨ c.toNat = 9

theorem isVisibleChar_of_mem {value : Bytes} {text : String} (h : visibleText? value = some text)
    {c : Char} (hc : c ∈ text.toList) : IsVisibleChar c := by
  rw [visibleText?] at h
  split at h
  · rename_i hall
    cases h
    rw [String.toList_ofList] at hc
    obtain ⟨b, hb, rfl⟩ := List.mem_map.1 hc
    have hoctet : isVisibleOctet b = true := List.all_eq_true.1 hall b hb
    simp only [isVisibleOctet, Bool.or_eq_true, Bool.and_eq_true, decide_eq_true_eq,
      beq_iff_eq] at hoctet
    have hvalid : b.toNat.isValidChar := Or.inl (by omega)
    have hcode : (Char.ofNat b.toNat).toNat = b.toNat := by
      rw [Char.ofNat, dif_pos hvalid]
      rfl
    rw [IsVisibleChar, hcode]
    exact hoctet
  · cases h

theorem utf8EncodeChar_of_isVisibleChar {c : Char} (h : IsVisibleChar c) :
    String.utf8EncodeChar c = [UInt8.ofNat c.toNat] := by
  have hascii : c.toNat ≤ 127 := by
    rw [IsVisibleChar] at h
    omega
  simp [String.utf8EncodeChar, hascii]

theorem isValueOctet_of_isVisibleChar {c : Char} (h : IsVisibleChar c) :
    isValueOctet (UInt8.ofNat c.toNat) = true := by
  rw [IsVisibleChar] at h
  have hoctet : (UInt8.ofNat c.toNat).toNat = c.toNat := by
    rw [UInt8.toNat_ofNat', Nat.mod_eq_of_lt (by omega)]
  simp only [isValueOctet, hoctet, Bool.or_eq_true, Bool.and_eq_true, decide_eq_true_eq,
    beq_iff_eq]
  omega

theorem valueOfText?_ne_none {s : String} (h : ∀ c ∈ s.toList, IsVisibleChar c) :
    valueOfText? s ≠ none := by
  have hall : (Utf8.encode s).all isValueOctet = true := by
    rw [Utf8.encode, List.all_flatMap, List.all_eq_true]
    intro c hc
    rw [utf8EncodeChar_of_isVisibleChar (h c hc), List.all_cons, List.all_nil, Bool.and_true]
    exact isValueOctet_of_isVisibleChar (h c hc)
  simp [valueOfText?, hall]

end Http

open Http

/-! ### Whom a request is made for -/

namespace Impersonation

variable {inbound : Headers} {i : Identity}

/-- **A request in the name of somebody says so.** -/
theorem exists_values_of_apply (hi : i.IsWritable) (hsome : i.isEmpty = false) :
    ∃ name, isHeader name = true ∧ (apply inbound i).1.values name ≠ [] := by
  by_cases hu : i.user = ""
  · have hg : i.groups ≠ [] := by simpa [Identity.isEmpty, hu] using hsome
    refine ⟨groupHeader, isHeader_groupHeader, ?_⟩
    rw [values_apply hi, if_pos isHeader_groupHeader]
    simpa [valuesFor, show groupHeader ≠ userHeader by decide] using hg
  · refine ⟨userHeader, isHeader_userHeader, ?_⟩
    rw [values_apply hi, if_pos isHeader_userHeader]
    simp [valuesFor, hu]

end Impersonation

/-! ### The caller -/

namespace IdentityPolicy

variable {p : IdentityPolicy} {h : Headers} {name text : String} {i : Identity}

/-- What the first value of a header says; nothing if there is none. -/
inductive Says (h : Headers) (name : String) : String → Prop
  /-- There is no value. -/
  | absent : h.first? name = none → Says h name ""
  /-- The first value is visible. -/
  | visible {value : Bytes} {text : String} : h.first? name = some value →
    visibleText? value = some text → Says h name text

/-- **Whom a policy makes out** of headers. -/
structure MakesOut (p : IdentityPolicy) (h : Headers) (i : Identity) : Prop where
  /-- The user is what the user's header says without the blanks at its ends, and not empty. -/
  user : if p.impersonateUser then
      ∃ text, Says h p.userHeader text ∧ i.user = Text.trim text ∧ i.user ≠ ""
    else i.user = ""
  /-- The groups are the parts between commas of what the groups' header says, without the blanks
  at their ends, as far as they are not empty. -/
  groups : if p.impersonateGroups then
      ∃ text, Says h p.groupsHeader text ∧
        i.groups = ((Text.pieces ',' text).map Text.trim).filter (· ≠ "")
    else i.groups = []
  /-- There is a user or a group. -/
  someone : i.isEmpty = false

theorem Says.isVisibleChar (hs : Says h name text) {c : Char} (hc : c ∈ text.toList) :
    IsVisibleChar c := by
  cases hs with
  | absent _ => simp at hc
  | visible _ htext => exact isVisibleChar_of_mem htext hc

/-- A caller's identity consists of parts of visible values. -/
theorem MakesOut.isWritable (hi : p.MakesOut h i) : i.IsWritable := by
  have hempty : valueOfText? "" ≠ none := by decide
  constructor
  · have huser := hi.user
    split at huser
    · obtain ⟨text, hs, hu, -⟩ := huser
      rw [hu]
      exact valueOfText?_ne_none fun c hc => hs.isVisibleChar (Text.toList_trim_subset text hc)
    · rwa [huser]
  · intro group hgroup
    have hgroups := hi.groups
    split at hgroups
    · obtain ⟨text, hs, hg⟩ := hgroups
      rw [hg] at hgroup
      obtain ⟨piece, hpiece, rfl⟩ := List.mem_map.1 (List.mem_filter.1 hgroup).1
      refine valueOfText?_ne_none fun c hc => hs.isVisibleChar ?_
      exact Text.toList_subset_of_mem_pieces hpiece (Text.toList_trim_subset piece hc)
    · simp [hgroups] at hgroup

theorem headerText_eq_ok_iff :
    (∃ found, headerText h name = .ok found ∧ found.getD "" = text) ↔ Says h name text := by
  rw [headerText]
  constructor
  · rintro ⟨found, hfound, rfl⟩
    split at hfound
    · rename_i hnone
      cases hfound
      exact .absent hnone
    · rename_i value hvalue
      split at hfound
      · rename_i text htext
        cases hfound
        exact .visible hvalue htext
      · cases hfound
  · rintro (hnone | ⟨hvalue, htext⟩)
    · exact ⟨none, by rw [hnone], rfl⟩
    · exact ⟨some text, by rw [hvalue]; simp [htext], rfl⟩

theorem user_eq_ok_iff {user : String} : p.user h = .ok user ↔
    if p.impersonateUser then ∃ text, Says h p.userHeader text ∧ user = Text.trim text ∧ user ≠ ""
    else user = "" := by
  rw [IdentityPolicy.user]
  cases p.impersonateUser with
  | false => simp [eq_comm]
  | true =>
    simp only [← headerText_eq_ok_iff]
    cases headerText h p.userHeader with
    | error e => simp [bind, Except.bind]
    | ok found =>
      by_cases hu : Text.trim (found.getD "") = ""
      · simp [bind, Except.bind, hu]
      · simp [bind, Except.bind, hu, eq_comm]
        rintro rfl
        exact hu

theorem groups_eq_ok_iff {groups : List String} : p.groups h = .ok groups ↔
    if p.impersonateGroups then ∃ text, Says h p.groupsHeader text ∧
      groups = ((Text.pieces ',' text).map Text.trim).filter (· ≠ "")
    else groups = [] := by
  rw [IdentityPolicy.groups]
  cases p.impersonateGroups with
  | false => simp [eq_comm]
  | true =>
    simp only [← headerText_eq_ok_iff]
    cases headerText h p.groupsHeader with
    | error e => simp [Except.map]
    | ok found => simp [Except.map, groupNames, eq_comm]

/-- **A caller is made out just as the headers say**, and never as nobody. -/
theorem resolve_eq_ok_iff (hp : p.isActive = true) : p.resolve h = .ok i ↔ p.MakesOut h i := by
  have hparts : p.resolve h = .ok i ↔
      p.user h = .ok i.user ∧ p.groups h = .ok i.groups ∧ i.isEmpty = false := by
    rw [resolve]
    cases p.user h with
    | error e => simp [bind, Except.bind]
    | ok user =>
      cases p.groups h with
      | error e => simp [bind, Except.bind]
      | ok groups =>
        simp only [bind, Except.bind, hp, and_true, Except.ok.injEq]
        constructor
        · intro hr
          split at hr
          · cases hr
          · rename_i hsome
            cases hr
            exact ⟨rfl, rfl, Bool.eq_false_iff.2 hsome⟩
        · rintro ⟨rfl, rfl, hsome⟩
          exact if_neg (Bool.eq_false_iff.1 hsome)
  rw [hparts, user_eq_ok_iff, groups_eq_ok_iff]
  exact ⟨fun ⟨hu, hg, hs⟩ => ⟨hu, hg, hs⟩, fun hi => ⟨hi.user, hi.groups, hi.someone⟩⟩

end IdentityPolicy

end ClusterGateway
