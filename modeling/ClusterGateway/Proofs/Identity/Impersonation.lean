import ClusterGateway.Identity.Impersonation
import Mathlib.Tactic.Common

/-!
# What impersonation headers say

The headers of a request made for somebody exist just if all texts of the identity can be values
of headers (`Identity.IsWritable`).  Under the names of impersonation headers they have what the
identity says (`Impersonation.valuesFor`) and nothing else, whatever was there before
(`Impersonation.values_of_headersFor?`), and under every other name what was there before.
-/

namespace ClusterGateway

open Http

/-- All texts of an identity can be values of headers. -/
def Identity.IsWritable (i : Identity) : Prop :=
  valueOfText? i.user ≠ Option.none ∧ ∀ group ∈ i.groups, valueOfText? group ≠ Option.none

instance (i : Identity) : Decidable i.IsWritable :=
  inferInstanceAs (Decidable (_ ∧ _))

namespace Impersonation

/-- The values that an identity has under the name of an impersonation header: the user, unless it
is empty, the groups in their order, and none under any other name. -/
def valuesFor (i : Identity) (name : String) : List Bytes :=
  if name = userHeader then if i.user = "" then [] else [Utf8.encode i.user]
  else if name = groupHeader then i.groups.map Utf8.encode
  else []

/-- Headers say of whom a request is made for what an identity says, and nothing else. -/
def Carries (h : Headers) (i : Identity) : Prop :=
  ∀ name, isHeader name = true → h.values name = valuesFor i name

variable {h out : Headers} {i : Identity}

theorem valueOfText?_eq {s : String} (hs : valueOfText? s ≠ .none) :
    valueOfText? s = some (Utf8.encode s) := by
  simp only [valueOfText?] at hs ⊢
  split at hs
  · simp_all
  · exact absurd rfl hs

theorem isHeader_userHeader : isHeader userHeader = true := by decide

theorem isHeader_groupHeader : isHeader groupHeader = true := by decide

theorem values_strip (name : String) :
    (strip h).values name = if isHeader name then [] else h.values name := by
  rw [strip, Headers.values_keep]
  cases isHeader name <;> rfl

theorem appendGroups_snd (groups : List String) :
    (appendGroups h groups).2 = true ↔ ∀ group ∈ groups, valueOfText? group ≠ .none := by
  induction groups generalizing h with
  | nil => simp [appendGroups]
  | cons group groups ih =>
    rw [appendGroups]
    cases hg : valueOfText? group with
    | none => simp [hg]
    | some value => simp [hg, ih]

theorem values_appendGroups {groups : List String}
    (hg : ∀ group ∈ groups, valueOfText? group ≠ .none) (name : String) :
    (appendGroups h groups).1.values name =
      h.values name ++ if name = groupHeader then groups.map Utf8.encode else [] := by
  induction groups generalizing h with
  | nil => simp [appendGroups]
  | cons group groups ih =>
    have hrest := ih (h := h.append groupHeader (Utf8.encode group))
      fun g hm => hg g (List.mem_cons_of_mem _ hm)
    rw [appendGroups, valueOfText?_eq (hg group List.mem_cons_self)]
    simp only [hrest, Headers.values_append]
    by_cases e : name = groupHeader
    · simp [e]
    · simp [e, Ne.symm e]

theorem apply_snd : (apply h i).2 = true ↔ i.IsWritable := by
  rw [apply, Identity.IsWritable]
  by_cases hu : i.user = ""
  · have hempty : valueOfText? "" ≠ .none := by decide
    simp [hu, hempty, appendGroups_snd]
  · cases valueOfText? i.user with
    | none => simp [hu]
    | some value => simp [hu, appendGroups_snd]

theorem values_apply (hi : i.IsWritable) (name : String) :
    (apply h i).1.values name =
      if isHeader name then valuesFor i name else h.values name := by
  have hother (hn : name = userHeader ∨ name = groupHeader) : isHeader name = true := by
    rcases hn with rfl | rfl
    · exact isHeader_userHeader
    · exact isHeader_groupHeader
  have hne : userHeader ≠ groupHeader := by decide
  rw [apply, valuesFor]
  by_cases hu : i.user = ""
  · simp only [hu, if_true, values_appendGroups hi.2, values_strip]
    by_cases hg : name = groupHeader
    · simp [hg, isHeader_groupHeader, hne.symm]
    · by_cases hn : isHeader name <;> simp [hg, hn]
  · simp only [hu, if_false, valueOfText?_eq hi.1, values_appendGroups hi.2, Headers.values_set,
      values_strip]
    by_cases he : name = userHeader
    · simp [he, isHeader_userHeader, hne]
    · by_cases hg : name = groupHeader
      · simp [hg, isHeader_groupHeader, hne.symm]
      · by_cases hn : isHeader name <;> simp [he, hg, hn]

/-- **Headers for an identity** exist just if it can be written. -/
theorem headersFor?_isSome : (headersFor? h i).isSome = true ↔ i.IsWritable := by
  rw [headersFor?, ← apply_snd (h := h)]
  rcases apply h i with ⟨out, ok⟩
  cases ok <;> simp

theorem headersFor?_eq_some (hout : headersFor? h i = some out) :
    i.IsWritable ∧ (apply h i).1 = out := by
  have hi : i.IsWritable := headersFor?_isSome.1 (Option.isSome_iff_exists.2 ⟨out, hout⟩)
  refine ⟨hi, ?_⟩
  have hok : (apply h i).2 = true := apply_snd.2 hi
  rw [headersFor?] at hout
  rcases happly : apply h i with ⟨out', ok⟩
  rw [happly] at hout hok
  subst hok
  exact Option.some.inj hout

/-- **Name by name**: impersonation headers say what the identity says, all others what they said
before. -/
theorem values_of_headersFor? (hout : headersFor? h i = some out) (name : String) :
    out.values name = if isHeader name then valuesFor i name else h.values name := by
  obtain ⟨hi, rfl⟩ := headersFor?_eq_some hout
  exact values_apply hi name

theorem carries_of_headersFor? (hout : headersFor? h i = some out) : Carries out i := by
  intro name hn
  rw [values_of_headersFor? hout, if_pos hn]

end Impersonation

end ClusterGateway
