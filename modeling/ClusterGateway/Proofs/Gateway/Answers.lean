import ClusterGateway.Proofs.Gateway.Requests

/-!
# Requests and what is read from their answers

One request in somebody's name is sent, its answer is read as a value, and what is read decides how
an operation goes on (`Exchange.meets_fetchAs_bind`, `Exchange.exists_readAs`).
-/

namespace ClusterGateway

open Http Json

theorem Operation.next_bind {α β γ : Type} (f : α → Operation β) (g : β → Operation γ)
    (r : Except GatewayError α) : next (fun a => f a >>= g) r = (next f r).bind (next g) := by
  cases r with
  | ok a => exact attempt_bind (f a) g
  | error e => rfl

namespace Exchange

/-- A request asks for the content of an address in somebody's name. -/
structure AsksFor (identity : Identity) (uri : Uri) (r : Request) : Prop where
  /-- It reads. -/
  method : r.method = "GET"
  /-- It goes to the address. -/
  uri : r.uri = uri
  /-- It has no body. -/
  body : r.body = []
  /-- It is made in the name of the identity. -/
  inName : InNameOf identity r

/-- What comes of an answer that is to be read as a value, or what fails first. -/
inductive ReadAs {α : Type} (decode : Decoder α) (answer : Option Response) :
    Except GatewayError α → Prop
  /-- No text has come. -/
  | untold {e : GatewayError} : textOf answer = .error e → ReadAs decode answer (.error e)
  /-- The text is not one of a value. -/
  | malformed {text : String} : textOf answer = .ok text → decode.parse? text = none →
      ReadAs decode answer (.error .malformed)
  /-- A value is read. -/
  | read {text : String} {a : α} : textOf answer = .ok text → decode.parse? text = some a →
      ReadAs decode answer (.ok a)

variable {α β : Type} {identity : Identity} {uri : Uri} {headers : Headers}
variable {decode : Decoder α} {answer : Option Response} {read : Except GatewayError α}

/-! ### Requests -/

theorem exists_inNameOf? (hid : identity.IsWritable) (uri : Uri) :
    ∃ r, inNameOf? identity (get uri .empty) = some r ∧ AsksFor identity uri r := by
  have hsome : (Impersonation.headersFor? .empty identity).isSome = true :=
    Impersonation.headersFor?_isSome.2 hid
  obtain ⟨headers, hheaders⟩ := Option.isSome_iff_exists.1 hsome
  have hr : inNameOf? identity (get uri .empty) = some { get uri .empty with headers } := by
    rw [inNameOf?, get, hheaders, Option.map_some]
  exact ⟨_, hr, rfl, rfl, rfl, inNameOf_of_eq_some hr⟩

theorem attempt_fetchAs {r : Request} (hr : inNameOf? identity (get uri headers) = some r) :
    (fetchAs identity uri headers).attempt = .send r fun answer => .done (textOf answer) := by
  rw [fetchAs, hr]
  rfl

/-- **Asking for a text in somebody's name**: one request is sent, and what comes back decides how
to go on. -/
theorem meets_fetchAs_bind {g : String → Operation β} {past : List Exchanged} {r : Request}
    {Q : List Exchanged → Except GatewayError β → Prop}
    (hr : inNameOf? identity (get uri headers) = some r)
    (h : ∀ answer, (Operation.next g (textOf answer)).Meets .free Q (past ++ [(r, answer)])) :
    (fetchAs identity uri headers >>= g).attempt.Meets .free Q past := by
  rw [Operation.attempt_bind, attempt_fetchAs hr]
  exact ⟨trivial, fun answer _ => h answer⟩

/-! ### Answers -/

/-- A value is read from an answer before anything else is done. -/
theorem exists_readAs (decode : Decoder α) (answer : Option Response) :
    ∃ read, ReadAs decode answer read ∧
      Operation.next (fun text => Operation.orElse .malformed (decode.parse? text))
        (textOf answer) = .done read := by
  cases htext : textOf answer with
  | error e => exact ⟨_, .untold htext, rfl⟩
  | ok text =>
    cases hread : decode.parse? text with
    | none => exact ⟨_, .malformed htext hread, by rw [Operation.next, hread]; rfl⟩
    | some a => exact ⟨_, .read htext hread, by rw [Operation.next, hread]; rfl⟩

theorem next_readAs (g : α → Operation β)
    (h : Operation.next (fun text => Operation.orElse .malformed (decode.parse? text))
      (textOf answer) = .done read) :
    Operation.next (fun text => Operation.orElse .malformed (decode.parse? text) >>= g)
      (textOf answer) = Operation.next g read := by
  rw [Operation.next_bind, h, Dialogue.done_bind]

theorem ReadAs.eq_ok {text : String} {a : α} (h : ReadAs decode answer read)
    (htext : textOf answer = .ok text) (ha : decode.parse? text = some a) : read = .ok a := by
  cases h with
  | untold he => cases htext.symm.trans he
  | malformed ht hnone =>
    cases htext.symm.trans ht
    cases ha.symm.trans hnone
  | read ht hread =>
    cases htext.symm.trans ht
    cases ha.symm.trans hread
    rfl

end Exchange

end ClusterGateway
