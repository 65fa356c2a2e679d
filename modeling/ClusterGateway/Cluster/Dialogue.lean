import ClusterGateway.Error
import ClusterGateway.Http.Message
import ClusterGateway.Resource.Cache
import ClusterGateway.Time.Instant

/-!
# Dialogues with a cluster

What the gateway does is a conversation: it sends requests to the API server and goes on with the
answers, and between them it looks at the cache of the catalog and at the clock.  A `Dialogue` is
such a conversation as a tree, so that a statement about every request it may ever send is a
statement about the tree.  Two dialogues can take place at the same time (`Dialogue.both`); which
of them goes on next is up to the world, and so is the order in which the results of many arrive
(`Dialogue.arrivals`).  `Dialogue.run` lets a dialogue take place in a world.
-/

namespace ClusterGateway

open Http

/-- A conversation that ends with a value. -/
inductive Dialogue (α : Type) where
  /-- The end. -/
  | done (a : α)
  /-- Sends a request and goes on with the answer; there is none when the transport fails. -/
  | send (request : Request) (resume : Option Response → Dialogue α)
  /-- Looks at the cache at a moment. -/
  | look (resume : Moment → CatalogCache → Dialogue α)
  /-- Stores a catalog in the cache. -/
  | store (catalog : Catalog) (resume : Dialogue α)
  /-- Reads the clock. -/
  | clock (resume : Instant → Dialogue α)
  /-- Leaves a choice between two ways to go on to the world. -/
  | choose (resume : Bool → Dialogue α)

namespace Dialogue

variable {α β γ : Type}

/-- Goes on after the end. -/
def bind : Dialogue α → (α → Dialogue β) → Dialogue β
  | done a, f => f a
  | send request resume, f => send request fun answer => (resume answer).bind f
  | look resume, f => look fun moment cache => (resume moment cache).bind f
  | store catalog resume, f => store catalog (resume.bind f)
  | clock resume, f => clock fun instant => (resume instant).bind f
  | choose resume, f => choose fun first => (resume first).bind f

instance : Monad Dialogue where
  pure := done
  bind := bind

@[simp] theorem pure_eq (a : α) : (pure a : Dialogue α) = done a := rfl

@[simp] theorem bind_eq (d : Dialogue α) (f : α → Dialogue β) : (d >>= f) = d.bind f := rfl

@[simp] theorem done_bind (a : α) (f : α → Dialogue β) : (done a).bind f = f a := rfl

theorem bind_done (d : Dialogue α) : d.bind done = d := by
  induction d <;> simp_all [bind, -Bool.forall_bool]

theorem bind_assoc (d : Dialogue α) (f : α → Dialogue β) (g : β → Dialogue γ) :
    (d.bind f).bind g = d.bind fun a => (f a).bind g := by
  induction d <;> simp_all [bind, -Bool.forall_bool]

/-- The answer to a request. -/
def request (r : Request) : Dialogue (Option Response) := send r done

/-- The cache and the moment at which it is looked at. -/
def cache : Dialogue (Moment × CatalogCache) := look fun moment cache => done (moment, cache)

/-- Stores a catalog. -/
def keep (catalog : Catalog) : Dialogue Unit := store catalog (done ())

/-- The time of the clock. -/
def now : Dialogue Instant := clock done

/-! ### At the same time -/

/-- Two dialogues at the same time, by recursion on the second: `step` takes a step of the first
and goes on with what is left of both. -/
def bothFrom (first : Dialogue α) (step : Dialogue β → Dialogue (α × β)) :
    Dialogue β → Dialogue (α × β)
  | done b => first.bind fun a => done (a, b)
  | send request resume => choose fun turn =>
    if turn then step (send request resume)
    else send request fun answer => bothFrom first step (resume answer)
  | look resume => choose fun turn =>
    if turn then step (look resume)
    else look fun moment cache => bothFrom first step (resume moment cache)
  | store catalog resume => choose fun turn =>
    if turn then step (store catalog resume)
    else store catalog (bothFrom first step resume)
  | clock resume => choose fun turn =>
    if turn then step (clock resume)
    else clock fun instant => bothFrom first step (resume instant)
  | choose resume => choose fun turn =>
    if turn then step (choose resume)
    else choose fun t => bothFrom first step (resume t)

/-- Two dialogues at the same time: while both go on, the world chooses which takes the next
step. -/
def both : Dialogue α → Dialogue β → Dialogue (α × β)
  | done a, other => other.bind fun b => done (a, b)
  | send request resume, other =>
    bothFrom (send request resume)
      (fun other => send request fun answer => (resume answer).both other) other
  | look resume, other =>
    bothFrom (look resume)
      (fun other => look fun moment cache => (resume moment cache).both other) other
  | store catalog resume, other =>
    bothFrom (store catalog resume) (fun other => store catalog (resume.both other)) other
  | clock resume, other =>
    bothFrom (clock resume) (fun other => clock fun instant => (resume instant).both other) other
  | choose resume, other =>
    bothFrom (choose resume) (fun other => choose fun t => (resume t).both other) other

/-- Any number of dialogues at the same time; the results are in the order of the dialogues, in
whatever order these end. -/
def all : List (Dialogue α) → Dialogue (List α)
  | [] => done []
  | d :: ds => (d.both (all ds)).bind fun (a, as) => done (a :: as)

/-! ### One after the other -/

/-- Puts an item into a list; the world chooses the place. -/
def insertSomewhere (a : α) : List α → Dialogue (List α)
  | [] => done [a]
  | b :: bs => choose fun here =>
    if here then done (a :: b :: bs)
    else (insertSomewhere a bs).bind fun cs => done (b :: cs)

/-- The items of a list in an order that the world chooses. -/
def inSomeOrder : List α → Dialogue (List α)
  | [] => done []
  | a :: as => (inSomeOrder as).bind (insertSomewhere a)

/-- Any number of dialogues at the same time: the results, each with the place of its dialogue, in
the order in which they arrive. -/
def arrivals (ds : List (Dialogue α)) : Dialogue (List (α × Nat)) :=
  (all ds).bind fun as => inSomeOrder as.zipIdx

/-- Puts results into their places.  A place for which nothing has arrived is left out. -/
def inPlaces (places : Nat) (arrived : List (α × Nat)) : List α :=
  (arrived.foldl (fun slots result => slots.set result.2 (some result.1))
    (List.replicate places none)).filterMap id

/-- Any number of dialogues at the same time; the results are taken as they arrive and put back
into the order of the dialogues. -/
def collect (ds : List (Dialogue α)) : Dialogue (List α) :=
  (arrivals ds).bind fun arrived => done (inPlaces ds.length arrived)

/-! ### Worlds -/

end Dialogue

/-- What surrounds the gateway, with states `σ`: an API server, a clock, and the chance that
decides between dialogues which take place at the same time. -/
structure World (σ : Type) where
  /-- The answer to a request, if the transport does not fail, and the state afterwards. -/
  answer : σ → Request → Option Response × σ
  /-- The moment of a state. -/
  moment : σ → Moment
  /-- The time of the clock in a state. -/
  instant : σ → Instant
  /-- Whether the first of two dialogues goes on, and the state afterwards. -/
  turn : σ → Bool × σ

/-- What came of a dialogue. -/
structure Course (σ α : Type) where
  /-- The value at the end. -/
  result : α
  /-- The requests that were sent, in their order. -/
  sent : List Request
  /-- The cache afterwards. -/
  cache : CatalogCache
  /-- The state of the world afterwards. -/
  state : σ

namespace Dialogue

variable {σ α : Type}

/-- Lets a dialogue take place in a world, from a cache and a state on. -/
def run (w : World σ) : Dialogue α → CatalogCache → σ → Course σ α
  | done a, cache, s => ⟨a, [], cache, s⟩
  | send request resume, cache, s =>
    let (answer, s) := w.answer s request
    let c := (resume answer).run w cache s
    { c with sent := request :: c.sent }
  | look resume, cache, s => (resume (w.moment s) cache).run w cache s
  | store catalog resume, cache, s => resume.run w (cache.store catalog (w.moment s)) s
  | clock resume, cache, s => (resume (w.instant s)).run w cache s
  | choose resume, cache, s =>
    let (first, s) := w.turn s
    (resume first).run w cache s

end Dialogue

/-- A dialogue that may fail. -/
abbrev Operation (α : Type) := ExceptT GatewayError Dialogue α

namespace Operation

variable {α : Type}

/-- An operation that does nothing but succeed or fail. -/
def ofExcept (r : Except GatewayError α) : Operation α := ExceptT.mk (.done r)

/-- An operation that cannot fail. -/
def ofDialogue (d : Dialogue α) : Operation α := ExceptT.mk (d.bind fun a => .done (.ok a))

/-- An operation whose value may be missing. -/
def orElse (error : GatewayError) (found : Option α) : Operation α :=
  ofExcept (match found with
    | some a => .ok a
    | none => .error error)

/-- The dialogue of an operation. -/
def attempt (o : Operation α) : Dialogue (Except GatewayError α) := ExceptT.run o

/-- How an operation goes on after the end of another. -/
def next {β : Type} (f : α → Operation β) :
    Except GatewayError α → Dialogue (Except GatewayError β)
  | .ok a => (f a).attempt
  | .error e => .done (.error e)

variable {β : Type} (o : Operation α) (f : α → Operation β) (d : Dialogue α)

@[simp] theorem attempt_pure (a : α) : (pure a : Operation α).attempt = .done (.ok a) := rfl

@[simp] theorem attempt_bind : (o >>= f).attempt = o.attempt.bind (next f) := by
  change ExceptT.run o >>= _ = Dialogue.bind _ _
  rw [Dialogue.bind_eq]
  congr 1
  funext r
  cases r <;> rfl

@[simp] theorem attempt_ofExcept (r : Except GatewayError α) :
    (ofExcept r).attempt = .done r := rfl

@[simp] theorem attempt_ofDialogue :
    (ofDialogue d).attempt = d.bind fun a => .done (.ok a) := rfl

@[simp] theorem attempt_mk (d : Dialogue (Except GatewayError α)) :
    attempt (ExceptT.mk d) = d := rfl

end Operation

end ClusterGateway
