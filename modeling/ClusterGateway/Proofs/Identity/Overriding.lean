import ClusterGateway.Proofs.Identity.Impersonation
import Mathlib.Data.List.TakeWhile

/-!
# The last identity wins

Headers are written for an identity as far as it can be written (`Identity.writable`): not at all if
the user cannot be a value, else up to the first group that cannot be one.  So what they say is
known at every point where the writing can end.

* `Impersonation.apply_writable` : **an identity leaves the headers that its writable part leaves**.
* `Impersonation.last_identity_wins` : nothing is left of the identity that was written before, nor
  of what came in, and all other headers stay.
-/

namespace ClusterGateway

open Http

namespace Identity

/-- What an identity is as far as it can be written: nobody if the user cannot be a value, else the
user with the groups before the first that cannot be one. -/
def writable (i : Identity) : Identity :=
  if (valueOfText? i.user).isSome then
    ⟨i.user, i.groups.takeWhile fun group => (valueOfText? group).isSome⟩
  else Identity.none

/-- An identity says nothing that another does not say: no other user, and no groups but the first
ones of the other. -/
structure IsPartOf (part i : Identity) : Prop where
  /-- The user is the same, or there is none. -/
  user : part.user = i.user ∨ part.user = ""
  /-- The groups are those at the start. -/
  groups : part.groups <+: i.groups

variable (i : Identity)

theorem writable_isPartOf : i.writable.IsPartOf i := by
  rw [writable]
  split
  · exact ⟨.inl rfl, List.takeWhile_prefix _⟩
  · exact ⟨.inr rfl, List.nil_prefix⟩

theorem isWritable_writable : i.writable.IsWritable := by
  rw [writable]
  split
  · rename_i huser
    refine ⟨Option.isSome_iff_ne_none.1 huser, fun group hgroup => ?_⟩
    have hsome : (valueOfText? group).isSome = true :=
      List.mem_takeWhile_imp (p := fun group => (valueOfText? group).isSome) hgroup
    exact Option.isSome_iff_ne_none.1 hsome
  · exact ⟨by decide, fun group hgroup => by cases hgroup⟩

variable {i}

theorem writable_eq_self_iff : i.writable = i ↔ i.IsWritable := by
  constructor
  · intro h
    exact h ▸ i.isWritable_writable
  · rintro ⟨huser, hgroups⟩
    have hall : i.groups.takeWhile (fun group => (valueOfText? group).isSome) = i.groups :=
      List.takeWhile_eq_self_iff.2 fun group h => Option.isSome_iff_ne_none.2 (hgroups group h)
    rw [writable, if_pos (Option.isSome_iff_ne_none.2 huser), hall]

end Identity

namespace Impersonation

variable {h : Headers} {i : Identity}

/-- The groups behind the first that cannot be a value are never looked at. -/
theorem appendGroups_takeWhile (groups : List String) :
    (appendGroups h groups).1 =
      (appendGroups h (groups.takeWhile fun group => (valueOfText? group).isSome)).1 := by
  induction groups generalizing h with
  | nil => rfl
  | cons group groups ih =>
    cases hvalue : valueOfText? group with
    | none => simp [appendGroups, hvalue]
    | some value => simp [appendGroups, hvalue, ← ih]

/-- **An identity leaves the headers that its writable part leaves**, wherever the writing ends. -/
theorem apply_writable (h : Headers) (i : Identity) : (apply h i).1 = (apply h i.writable).1 := by
  rw [Identity.writable]
  cases hvalue : valueOfText? i.user with
  | none =>
    have huser : i.user ≠ "" := by
      intro hempty
      rw [hempty] at hvalue
      cases hvalue
    simp [apply, hvalue, huser, Identity.none, appendGroups]
  | some value =>
    rw [if_pos Option.isSome_some, apply, apply]
    by_cases huser : i.user = ""
    · simp only [huser, if_true]
      exact appendGroups_takeWhile i.groups
    · simp only [huser, if_false, hvalue]
      exact appendGroups_takeWhile i.groups

/-- **Name by name**, wherever the writing ends: impersonation headers say what can be written of
the identity, all others what they said before. -/
theorem values_apply_writable (name : String) : (apply h i).1.values name =
    if isHeader name then valuesFor i.writable name else h.values name := by
  rw [apply_writable, values_apply i.isWritable_writable]

theorem isHeader_eq_true_iff {name : String} :
    isHeader name = true ↔ "impersonate-".toList <+: name.toList := List.isPrefixOf_iff_prefix

/-- What holds of headers on which an identity has been written, and of the writing of another on
them. -/
structure Overrides (h : Headers) (i j : Identity) : Prop where
  /-- Name by name, the other leaves what it leaves on the headers as they were at first. -/
  values (name : String) : (apply (apply h i).1 j).1.values name = (apply h j).1.values name
  /-- It can be written on both or on neither. -/
  success : (apply (apply h i).1 j).2 = (apply h j).2
  /-- Headers that are no impersonation headers stay, whether the identity can be written or not. -/
  others (name : String) : ¬"impersonate-".toList <+: name.toList →
    (apply h i).1.values name = h.values name
  /-- If it can be written, the impersonation headers say what the identity says. -/
  carries : (apply h i).2 = true → Carries (apply h i).1 i
  /-- If it cannot, they say a part of the identity, which does not depend on what came in. -/
  remains : (apply h i).2 = false → i.writable.IsPartOf i ∧ Carries (apply h i).1 i.writable

/-- **The last identity wins.** -/
theorem last_identity_wins (h : Headers) (i j : Identity) : Overrides h i j where
  values name := by
    rw [values_apply_writable, values_apply_writable, values_apply_writable]
    split <;> rfl
  success := by rw [Bool.eq_iff_iff, apply_snd, apply_snd]
  others name hname := by
    rw [values_apply_writable, if_neg (mt isHeader_eq_true_iff.1 hname)]
  carries hok := by
    intro name hname
    rw [values_apply_writable, if_pos hname, Identity.writable_eq_self_iff.2 (apply_snd.1 hok)]
  remains _ := by
    refine ⟨i.writable_isPartOf, ?_⟩
    intro name hname
    rw [values_apply_writable, if_pos hname]

/-- Headers that came in with somebody else's identity. -/
def spoofedHeaders : Headers := .ofList
  [("Impersonate-User", Utf8.encode "admin"), ("Accept", Utf8.encode "text/html"),
    ("Impersonate-Group", Utf8.encode "system:masters"),
    ("Impersonate-Extra-Scopes", Utf8.encode "all"), ("Accept", Utf8.encode "application/json")]

/-- An identity whose second group cannot be a value. -/
def brokenIdentity : Identity := ⟨"alice", ["dev", "o\nps", "qa"]⟩

/-- After an identity could not be written to its end, its user and its first group are there, and
another identity is then written as if nothing had been. -/
theorem last_identity_wins_broken :
    (apply spoofedHeaders brokenIdentity).2 = false ∧
      brokenIdentity.writable = ⟨"alice", ["dev"]⟩ ∧
      Carries (apply spoofedHeaders brokenIdentity).1 brokenIdentity.writable ∧
      ¬"impersonate-".toList <+: "accept".toList ∧
      (apply spoofedHeaders brokenIdentity).1.values "accept" =
        [Utf8.encode "text/html", Utf8.encode "application/json"] ∧
      (apply (apply spoofedHeaders brokenIdentity).1 ⟨"", ["viewers"]⟩).1.values userHeader = [] ∧
      (apply spoofedHeaders ⟨"", ["viewers"]⟩).2 = true ∧
      Carries (apply spoofedHeaders ⟨"", ["viewers"]⟩).1 ⟨"", ["viewers"]⟩ := by
  have hover := last_identity_wins spoofedHeaders brokenIdentity ⟨"", ["viewers"]⟩
  have hfails : (apply spoofedHeaders brokenIdentity).2 = false := by decide
  have hname : ¬"impersonate-".toList <+: "accept".toList := by decide
  have hwrites : (apply spoofedHeaders ⟨"", ["viewers"]⟩).2 = true := by decide
  refine ⟨hfails, by decide, (hover.remains hfails).2, hname, ?_, ?_, hwrites,
    (last_identity_wins spoofedHeaders ⟨"", ["viewers"]⟩ brokenIdentity).carries hwrites⟩
  · rw [hover.others "accept" hname]
    decide
  · rw [hover.values]
    decide

end Impersonation

end ClusterGateway
