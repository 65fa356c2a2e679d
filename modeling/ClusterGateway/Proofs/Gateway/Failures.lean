import ClusterGateway.Gateway.Basic
import ClusterGateway.Proofs.Dialogue.Course
import ClusterGateway.Proofs.Resource.Refresh
import ClusterGateway.Proofs.Table.Selection

/-!
# What operations fail with

An operation ends in one of the errors of its own, whose status is fixed, or in a failure that the
API server has told of in the body of an answer.  The code of such a failure is whatever the body
says: it can be a status that is none of a failure (`ApiFailure.IsMisleading`).

* `Operation.FailsWith` : what holds of every error in which an operation can end, and how it goes
  through an operation step by step.
* `Lookup.failsWith_find` : **looking up a kind fails only because there is none or nothing was
  discovered**.
* `PodGroup.failsWith_resolve` : what an object is not resolved for (`PodGroup.IsUnresolved`).
* `Gateway.failsWith_query` : **a query ends only in errors whose status tells of a failure, or in a
  misleading failure that an answer to it has told of** (`GatewayError.IsAccounted`).
-/

namespace ClusterGateway

open Http

namespace ApiFailure

/-- A failure has a code that is a status, but none of a failure. -/
def IsMisleading (f : ApiFailure) : Prop := isStatusCode f.code = true ∧ isFailure f.code = false

/-- An answer of the API server has the status of a failure, and its body tells of this one. -/
def ToldIn (xs : List Exchanged) (f : ApiFailure) : Prop :=
  ∃ r response body text, (r, some response) ∈ xs ∧ isFailure response.status = true ∧
    response.body.whole? = some body ∧ Utf8.decode? body = some text ∧ decode.parse? text = some f

theorem lasting_toldIn (f : ApiFailure) : Lasting (ToldIn · f) := by
  rintro past later hs ⟨r, response, body, text, hmem, h⟩
  exact ⟨r, response, body, text, hs hmem, h⟩

end ApiFailure

namespace GatewayError

/-- An error is answered with the status of a failure, or it is a misleading failure that the API
server has told of. -/
def IsAccounted (xs : List Exchanged) (e : GatewayError) : Prop :=
  isFailure e.status = true ∨ ∃ f, e = .api f ∧ f.IsMisleading ∧ f.ToldIn xs

theorem lasting_isAccounted (e : GatewayError) : Lasting (IsAccounted · e) := by
  rintro past later hs (h | ⟨f, he, hf, htold⟩)
  · exact .inl h
  · exact .inr ⟨f, he, hf, f.lasting_toldIn hs htold⟩

theorem isFailure_status_api (f : ApiFailure) :
    isFailure (status (.api f)) = true ∨ f.IsMisleading := by
  rw [status]
  split
  · rename_i hstatus
    cases hfailure : isFailure f.code with
    | true => exact .inl rfl
    | false => exact .inr ⟨hstatus, hfailure⟩
  · exact .inl rfl

/-- **What an answer without a text means.** -/
theorem isAccounted_of_textOf {xs : List Exchanged} {r : Request} {answer : Option Response}
    {e : GatewayError} (hmem : (r, answer) ∈ xs) (h : Exchange.textOf answer = .error e) :
    e.IsAccounted xs := by
  cases answer with
  | none =>
    cases h
    exact .inl rfl
  | some response =>
    rw [Exchange.textOf] at h
    split at h
    · cases h
      exact .inl rfl
    rename_i body hbody
    split at h
    · rename_i hfailure
      cases h
      rw [ofAnswer]
      split
      · exact .inl rfl
      rename_i text htext
      cases hdecode : ApiFailure.decode.parse? text with
      | none =>
        -- the code of a failure without a document is the status of the answer
        refine (isFailure_status_api _).imp_right fun hmisleading => ?_
        exact absurd hfailure (Bool.eq_false_iff.1 hmisleading.2)
      | some f =>
        refine (isFailure_status_api _).imp_right fun hmisleading => ?_
        exact ⟨f, rfl, hmisleading, r, response, body, text, hmem, hfailure, hbody, htext, hdecode⟩
    · split at h
      · cases h
      · cases h
        exact .inl rfl

end GatewayError

/-! ### Errors of operations -/

namespace Operation

variable {α β : Type} {E : List Exchanged → GatewayError → Prop} {past : List Exchanged}

/-- Every error in which an operation ends on some course stands in the relation `E` to all
exchanges. -/
def FailsWith (E : List Exchanged → GatewayError → Prop) (o : Operation α)
    (past : List Exchanged) : Prop :=
  o.attempt.Meets .free (fun past r => ∀ e, r = .error e → E past e) past

theorem failsWith_iff {o : Operation α} : o.FailsWith E past ↔
    o.attempt.Meets .free (fun past r => ∀ e, r = .error e → E past e) past := Iff.rfl

theorem failsWith_pure (a : α) : FailsWith E (pure a : Operation α) past := nofun

theorem failsWith_ofExcept {r : Except GatewayError α} (h : ∀ e, r = .error e → E past e) :
    FailsWith E (ofExcept r) past := h

theorem failsWith_orElse {error : GatewayError} {found : Option α} (h : E past error) :
    FailsWith E (orElse error found) past := by
  cases found with
  | none => exact fun e he => Except.error.inj he ▸ h
  | some a => exact nofun

/-- **Going on after a success.** -/
theorem FailsWith.bind {o : Operation α} {f : α → Operation β} (ho : o.FailsWith E past)
    (hf : ∀ later a, past ⊆ later → (f a).FailsWith E later) : FailsWith E (o >>= f) past := by
  rw [FailsWith, attempt_bind, Dialogue.meets_bind]
  refine Dialogue.Meets.imp ho fun later r hs hr => ?_
  cases r with
  | ok a => exact hf later a hs
  | error e => exact fun e' he => hr e' (congrArg Except.error (Except.error.inj he))

theorem failsWith_ofDialogue_bind {d : Dialogue α} {f : α → Operation β}
    (hd : d.Meets .free (fun past a => (f a).FailsWith E past) past) :
    FailsWith E (ofDialogue d >>= f) past := by
  rw [FailsWith, attempt_bind, Dialogue.meets_bind, attempt_ofDialogue, Dialogue.meets_bind]
  exact hd

theorem FailsWith.imp {E' : List Exchanged → GatewayError → Prop} {o : Operation α}
    (ho : o.FailsWith E past) (h : ∀ later e, E later e → E' later e) : o.FailsWith E' past :=
  Dialogue.Meets.imp ho fun later _ _ hr e he => h later e (hr e he)

-- from here on an operation is taken apart by the lemmas above, never by running it
attribute [irreducible] Operation.FailsWith

end Operation

open Operation

namespace Lookup

variable {past : List Exchanged}

/-- Why there is no kind: nothing was discovered, or nothing is known under the id. -/
def IsAbsence (e : GatewayError) : Prop := e = .discoveryEmpty ∨ ∃ id, e = .notFound id

theorem IsAbsence.isFailure_status {e : GatewayError} (h : IsAbsence e) :
    isFailure e.status = true := by
  obtain rfl | ⟨id, rfl⟩ := h <;> rfl

theorem failsWith_refresh : refresh.FailsWith (fun _ e => IsAbsence e) past := by
  rw [failsWith_iff, attempt_refresh]
  intro moment cache
  dsimp only
  split
  · exact nofun
  · rw [Dialogue.meets_bind]
    refine (Dialogue.meets_free _ past).imp fun later r _ _ => ?_
    obtain ⟨-, hconclude⟩ | ⟨lists, -, -, hconclude⟩ := conclude_cases r
    · rw [hconclude]
      exact fun e he => .inl (Except.error.inj he).symm
    · rw [hconclude]
      exact nofun

/-- **Looking up a kind** fails only because there is none. -/
theorem failsWith_find (id : String) : (find id).FailsWith (fun _ e => IsAbsence e) past := by
  rw [failsWith_iff, find, attempt_mk, Dialogue.meets_bind]
  refine (failsWith_iff.1 failsWith_refresh).imp fun later refreshed _ hrefreshed => ?_
  intro moment cache e he
  cases hget : cache.get? id with
  | some d => simp [hget, answer] at he
  | none =>
    cases refreshed with
    | error e' =>
      simp only [hget, answer, Except.error.injEq] at he
      exact he ▸ hrefreshed e' rfl
    | ok u =>
      simp only [hget, answer, Except.error.injEq] at he
      exact .inr ⟨id, he.symm⟩

theorem failsWith_find_isAccounted (id : String) :
    (find id).FailsWith GatewayError.IsAccounted past :=
  (failsWith_find id).imp fun _ _ h => .inl h.isFailure_status

end Lookup

open GatewayError (IsAccounted)

namespace Exchange

variable {past : List Exchanged}

theorem failsWith_textOf {r : Request} {answer : Option Response} :
    (ofExcept (textOf answer)).FailsWith IsAccounted (past ++ [(r, answer)]) := by
  have hmem : (r, answer) ∈ past ++ [(r, answer)] :=
    List.mem_append_right past (List.mem_singleton.2 rfl)
  exact failsWith_ofExcept fun e he => GatewayError.isAccounted_of_textOf hmem he

/-- Why nothing is read in somebody's name: who it is cannot be said, or something that came back is
no text. -/
inductive IsUnread (xs : List Exchanged) : GatewayError → Prop
  /-- A header cannot name the user or a group. -/
  | unnamed : IsUnread xs .invalidIdentity
  /-- An answer is a failure or no text. -/
  | answered {r : Request} {answer : Option Response} {e : GatewayError} : (r, answer) ∈ xs →
    textOf answer = .error e → IsUnread xs e

theorem IsUnread.isAccounted {e : GatewayError} (h : IsUnread past e) : e.IsAccounted past := by
  cases h with
  | unnamed => exact .inl rfl
  | answered hmem herror => exact GatewayError.isAccounted_of_textOf hmem herror

/-- **Reading in somebody's name.** -/
theorem failsWith_fetchAs (identity : Identity) (uri : Uri) (headers : Headers) :
    (fetchAs identity uri headers).FailsWith IsUnread past := by
  refine (failsWith_orElse .unnamed).bind fun past r _ => ?_
  refine failsWith_ofDialogue_bind ⟨trivial, fun answer _ => ?_⟩
  exact failsWith_ofExcept fun e he =>
    .answered (List.mem_append_right past (List.mem_singleton.2 rfl)) he

theorem failsWith_getText (identity : Identity) (address : String) (form : Option String) :
    (getText identity address form).FailsWith IsAccounted past := by
  refine (failsWith_orElse (.inl rfl)).bind fun past uri _ => ?_
  refine (failsWith_orElse (.inl rfl)).bind fun past headers _ => ?_
  exact (failsWith_fetchAs identity uri headers).imp fun _ _ h => h.isAccounted

theorem failsWith_read {α : Type} (decode : Json.Decoder α) (address : String) :
    (read decode address).FailsWith IsAccounted past := by
  refine (failsWith_orElse (.inl rfl)).bind fun past uri _ => ?_
  refine failsWith_ofDialogue_bind ⟨trivial, fun answer _ => ?_⟩
  exact failsWith_textOf.bind fun past text _ => failsWith_orElse (.inl rfl)

end Exchange

open Exchange

namespace TableFetch

variable {past : List Exchanged}

theorem failsWith_fragment (identity : Identity) (d : Descriptor) (path : Option ObjectFilter)
    (c : ListCall) : (fragment identity d path c).FailsWith IsAccounted past := by
  refine (failsWith_getText _ _ _).bind fun past text _ => ?_
  refine (failsWith_orElse (.inl rfl)).bind fun past table _ => ?_
  refine FailsWith.bind ?_ fun past keys _ => failsWith_pure _
  cases path with
  | none => exact failsWith_pure _
  | some filter =>
    refine (failsWith_getText _ _ _).bind fun past text _ => ?_
    exact (failsWith_orElse (.inl rfl)).bind fun past list _ => failsWith_pure _

theorem isFailure_of_prepare {filter : TableFilter} {e : GatewayError}
    (h : filter.prepare = .error e) : isFailure e.status = true := by
  cases filter with
  | jsonPath path =>
    rw [TableFilter.prepare, ObjectFilter.parse] at h
    split at h
    · cases h
    · cases h
      rfl
  | regex pattern =>
    rw [TableFilter.prepare] at h
    split at h
    · cases h
    · cases h
      rfl
  | none => cases h
  | parameter => cases h

theorem mem_of_survivors {results : List (Except GatewayError Fragment)} {e : GatewayError}
    (h : survivors results = .error e) : .error e ∈ results := by
  have hfirst : firstError? results = some e := by
    rw [survivors] at h
    split at h
    · rename_i hfirst
      exact Except.error.inj h ▸ hfirst
    · cases h
  clear h
  induction results with
  | nil => cases hfirst
  | cons r results ih =>
    cases r with
    | ok fr => exact List.mem_cons_of_mem _ (ih hfirst)
    | error e' =>
      cases hfirst
      exact List.mem_cons_self

theorem failsWith_table (identity : Identity) (resource list : String) (filter : TableFilter)
    (wide : Bool) : (table identity resource list filter wide).FailsWith IsAccounted past := by
  refine (Lookup.failsWith_find_isAccounted resource).bind fun past d _ => ?_
  refine (failsWith_ofExcept fun e he => .inl (isFailure_of_prepare he)).bind
    fun past selection _ => ?_
  have hlasting (_ : ListCall) (r : Except GatewayError Fragment) :
      Lasting fun past => ∀ e, r = .error e → IsAccounted past e :=
    fun _ _ hs h e he => GatewayError.lasting_isAccounted e hs (h e he)
  have hfragment (c : ListCall) (_ : c ∈ plan d list filter) :
      (fragment identity d selection.path c).attempt.Meets .free
        (fun past r => ∀ e, r = .error e → IsAccounted past e) past :=
    failsWith_iff.1 (failsWith_fragment identity d selection.path c)
  have hcollect := Dialogue.meets_collect_map Terms.lasting_free hlasting hfragment
  refine failsWith_ofDialogue_bind (hcollect.imp fun past results _ hresults => ?_)
  refine FailsWith.bind (failsWith_ofExcept fun e he => ?_) fun past fragments _ => ?_
  · obtain ⟨c, -, haccounted⟩ := exists_of_mem_right hresults (mem_of_survivors he)
    exact haccounted e rfl
  · exact failsWith_ofExcept fun e he => .inl ((TableMerge.error_iff.1 he).1 ▸ rfl)

end TableFetch

namespace PodGroup

variable {past : List Exchanged}

/-- Why there are no pods behind an object. -/
inductive IsUnresolved (xs : List Exchanged) : GatewayError → Prop
  /-- The kind of the object is not known. -/
  | absent {e : GatewayError} : Lookup.IsAbsence e → IsUnresolved xs e
  /-- The object has no address. -/
  | unaddressed : IsUnresolved xs .badObjectRequest
  /-- The object or its pods cannot be read. -/
  | unread {e : GatewayError} : IsUnread xs e → IsUnresolved xs e
  /-- What is read is no such document. -/
  | malformed : IsUnresolved xs .malformed
  /-- The object chooses no pods, or chooses them by what cannot be written. -/
  | unselective {reason : String} : IsUnresolved xs (.invalidSelector reason)

theorem IsUnresolved.isAccounted {e : GatewayError} (h : IsUnresolved past e) :
    e.IsAccounted past := by
  cases h with
  | absent h => exact .inl h.isFailure_status
  | unread h => exact h.isAccounted
  | unaddressed | malformed | unselective => exact .inl rfl

theorem exists_of_mapM_clause {es : List LabelExpression} {e : GatewayError}
    (h : es.mapM LabelExpression.clause = .error e) : ∃ reason, e = .invalidSelector reason := by
  induction es with
  | nil => cases h
  | cons x es ih =>
    rw [List.mapM_cons, LabelExpression.clause] at h
    cases hx : x.clause? with
    | none =>
      rw [hx] at h
      cases h
      exact ⟨_, rfl⟩
    | some text =>
      cases hes : es.mapM LabelExpression.clause with
      | ok clauses => simp [hx, hes, bind, Except.bind, pure, Except.pure] at h
      | error e' =>
        rw [hx, hes] at h
        exact ih (hes.trans h)

theorem isUnresolved_of_render {s : LabelSelector} {e : GatewayError} (h : s.render = .error e) :
    IsUnresolved past e := by
  rw [LabelSelector.render] at h
  cases hm : s.expressions.mapM LabelExpression.clause with
  | ok clauses => simp [hm, Except.map] at h
  | error e' =>
    rw [hm] at h
    cases h
    obtain ⟨reason, rfl⟩ := exists_of_mapM_clause hm
    exact .unselective

theorem failsWith_fetchAs_isUnresolved (identity : Identity) (uri : Uri) (headers : Headers) :
    (fetchAs identity uri headers).FailsWith IsUnresolved past :=
  (failsWith_fetchAs identity uri headers).imp fun _ _ h => .unread h

/-- **Resolving an object.** -/
theorem failsWith_resolve (identity : Identity) (resource ns name : String) :
    (resolve identity resource ns name).FailsWith IsUnresolved past := by
  have hfind : (Lookup.find resource).FailsWith IsUnresolved past :=
    (Lookup.failsWith_find resource).imp fun _ _ h => .absent h
  refine hfind.bind fun past d _ => ?_
  refine FailsWith.bind ?_ fun past document _ => ?_
  · refine (failsWith_orElse .unaddressed).bind fun past uri _ => ?_
    exact failsWith_fetchAs_isUnresolved _ _ _
  split
  · exact (failsWith_orElse .malformed).bind fun past pod _ => failsWith_pure _
  · refine (failsWith_orElse .malformed).bind fun past selector _ => ?_
    refine (failsWith_orElse .unselective).bind fun past selector _ => ?_
    refine (failsWith_ofExcept fun e he => isUnresolved_of_render he).bind fun past text _ => ?_
    refine FailsWith.bind ?_ fun past pods _ => failsWith_pure _
    refine (failsWith_orElse .unaddressed).bind fun past uri _ => ?_
    refine (failsWith_fetchAs_isUnresolved _ _ _).bind fun past text _ => ?_
    exact failsWith_orElse .malformed

theorem failsWith_resolve_isAccounted (identity : Identity) (resource ns name : String) :
    (resolve identity resource ns name).FailsWith IsAccounted past :=
  (failsWith_resolve identity resource ns name).imp fun _ _ h => h.isAccounted

end PodGroup

namespace Gateway

variable {past : List Exchanged}

theorem isFailure_of_ofPattern {pattern : String} {window : Option TimeRange} {e : GatewayError}
    (h : LineFilter.ofPattern pattern window = .error e) : isFailure e.status = true := by
  rw [LineFilter.ofPattern] at h
  split at h
  · cases h
  · split at h
    · cases h
    · cases h
      rfl

theorem failsWith_lines (identity : Identity) (q : LogsQuery) :
    (LogBatch.lines identity q).FailsWith IsAccounted past := by
  refine failsWith_ofDialogue_bind fun asked => ?_
  refine (failsWith_ofExcept fun e he => .inl (isFailure_of_ofPattern he)).bind
    fun past filter _ => ?_
  refine (PodGroup.failsWith_resolve_isAccounted _ _ _ _).bind fun past group _ => ?_
  refine failsWith_ofDialogue_bind fun now => failsWith_ofDialogue_bind ?_
  exact (Dialogue.meets_free _ past).imp fun past logs _ _ => failsWith_pure _

/-- **What a query fails with.** -/
theorem failsWith_query (identity : Identity) (q : Query) :
    (query identity q).FailsWith IsAccounted past := by
  cases q with
  | resourceIds =>
    refine failsWith_ofDialogue_bind ?_
    exact (Dialogue.meets_free _ past).imp fun past ds _ _ => failsWith_pure _
  | namespaces => exact (failsWith_read _ _).bind fun past names _ => failsWith_pure _
  | table q =>
    exact (TableFetch.failsWith_table _ _ _ _ _).bind fun past table _ => failsWith_pure _
  | containers q =>
    refine FailsWith.bind ?_ fun past names _ => failsWith_pure _
    refine (PodGroup.failsWith_resolve_isAccounted _ _ _ _).bind fun past group _ => ?_
    exact failsWith_pure _
  | logs q => exact (failsWith_lines _ _).bind fun past lines _ => failsWith_pure _

end Gateway

end ClusterGateway
