import ClusterGateway.Proofs.Dialogue.Confined
import ClusterGateway.Proofs.Http.Query
import ClusterGateway.Proofs.Text.Separators
import ClusterGateway.Table.Fetch

/-!
# What the list requests of a query carry

The texts of a query go through several levels of separators: the values of a parameter stand
between `||`, the namespaces between commas, and each name and value ends up in an address, where
other characters separate.  A text of one level may hold the separators of another.

* `TableFetch.asksAll_namespaces`, `TableFetch.isGrid_plan` : there is one list request for each
  namespace that is asked for and each value.
* `TableFetch.carries` : a list request says the name and the value of its parameter.
* `TableFetch.requests_carry` : **a query with a parameter asks each namespace for each value, and
  each request says exactly what was asked**.
-/

namespace ClusterGateway

open Http

theorem Exchange.confined_getText_request {P : Request → Prop} {identity : Identity}
    {address : String} {form : Option String}
    (h : ∀ uri headers r, Uri.parse? address = some uri → acceptHeaders? form = some headers →
      inNameOf? identity (get uri headers) = some r → P r) :
    (getText identity address form).Confined P := by
  refine Operation.confined_orElse_bind fun uri huri => ?_
  refine Operation.confined_orElse_bind fun headers hheaders => ?_
  refine Operation.confined_orElse_bind fun r hr => ?_
  exact Operation.confined_request_bind (h uri headers r huri hheaders hr) fun answer =>
    Operation.confined_ofExcept _

namespace ListCall

variable {d : Descriptor} {ns : Option String} {name value : String}

theorem address_eq (d : Descriptor) (ns : Option String) (name value : String) :
    address d ⟨ns, some (name, value)⟩ = d.collectionPath ns ++ "?" ++ Percent.pairOf name value := by
  rw [address, Percent.pairOf, ← String.append_assoc, ← String.append_assoc]

theorem pieces_address (hmark : '?' ∉ (d.collectionPath ns).toList) :
    Text.pieces '?' (address d ⟨ns, some (name, value)⟩) =
      [d.collectionPath ns, Percent.pairOf name value] := by
  have hchars : (address d ⟨ns, some (name, value)⟩).toList =
      (d.collectionPath ns).toList ++ '?' :: (Percent.pairOf name value).toList := by
    simp [address_eq]
  rw [Text.pieces, hchars, Text.piecesChars_append_cons, Text.piecesChars_of_not_mem hmark,
    Text.piecesChars_of_not_mem (Percent.not_mem_pairOf name value (by decide))]
  simp

end ListCall

namespace TableFetch

/-! ### The plan -/

/-- What an entry of a list of namespaces asks for. -/
inductive Asks (entry : String) : Option String → Prop
  /-- All namespaces. -/
  | everywhere : Text.trim entry = "" ∨ Text.trim entry = "*" → Asks entry none
  /-- A namespace. -/
  | within : Text.trim entry ≠ "" → Text.trim entry ≠ "*" → Asks entry (some (Text.trim entry))

/-- What a list of namespaces asks for, one after the other. -/
inductive AsksAll (d : Descriptor) (list : String) : List (Option String) → Prop
  /-- Objects without namespaces are all in one place. -/
  | unscoped : d.namespaced = false → AsksAll d list [none]
  /-- Each of the entries between the commas asks for its part. -/
  | scoped {entries : List String} {nss : List (Option String)} : d.namespaced = true →
    entries ≠ [] → ",".intercalate entries = list → (∀ entry ∈ entries, ',' ∉ entry.toList) →
    List.Forall₂ Asks entries nss → AsksAll d list nss

theorem asks_namespaceOf (entry : String) : Asks entry (namespaceOf entry) := by
  rw [namespaceOf]
  split
  · exact .everywhere ‹_›
  · rename_i h
    exact .within (not_or.1 h).1 (not_or.1 h).2

theorem asksAll_namespaces (d : Descriptor) (list : String) :
    AsksAll d list (namespaces d list) := by
  rw [namespaces]
  split
  · rename_i hscoped
    refine .scoped hscoped ?_ (Text.intercalate_pieces ',' list)
      (fun entry hentry => Text.not_mem_of_mem_pieces hentry) ?_
    · rw [← Text.piecesAt_empty]
      exact Text.piecesAt_ne_nil ',' "" list
    · exact List.forall₂_map_right_iff.2
        (List.forall₂_same.2 fun entry _ => asks_namespaceOf entry)
  · rename_i hunscoped
    exact .unscoped (Bool.eq_false_iff.2 hunscoped)

/-- List requests for the values of a parameter, one for each namespace and each value: all for the
first namespace, then those for the next one. -/
structure IsGrid (nss : List (Option String)) (name : String) (values : List String)
    (calls : List ListCall) : Prop where
  /-- There are no others. -/
  length : calls.length = nss.length * values.length
  /-- Each pair has its place. -/
  place : ∀ i j ns value, nss[i]? = some ns → values[j]? = some value →
    calls[i * values.length + j]? = some ⟨ns, some (name, value)⟩

theorem isGrid_flatMap (nss : List (Option String)) (name : String) (values : List String) :
    IsGrid nss name values
      (nss.flatMap fun ns => values.map fun value => ⟨ns, some (name, value)⟩) where
  length := by simp
  place := by
    intro i j ns value hns hvalue
    have hj : j < values.length := (List.getElem?_eq_some_iff.1 hvalue).1
    induction nss generalizing i with
    | nil => cases hns
    | cons first nss ih =>
      rw [List.flatMap_cons]
      cases i with
      | zero =>
        obtain rfl := Option.some.inj hns
        rw [List.getElem?_append_left (by simpa using hj)]
        simp [hvalue]
      | succ i =>
        -- one row of the grid further down
        have hrow : (i + 1) * values.length + j = values.length + (i * values.length + j) := by
          rw [Nat.succ_mul]
          omega
        rw [hrow, List.getElem?_append_right (by simp)]
        simpa using ih i hns

theorem isGrid_plan (d : Descriptor) (list name : String) (values : List String) :
    IsGrid (namespaces d list) name values (plan d list (.parameter name values)) := by
  have hplan : plan d list (.parameter name values) =
      (namespaces d list).flatMap fun ns =>
        values.map fun value => ⟨ns, some (name, value)⟩ := by
    simp [plan, parameters, Function.comp_def]
  rw [hplan]
  exact isGrid_flatMap (namespaces d list) name values

/-! ### What is sent -/

/-- A list request asks one collection for the objects with a value of a parameter: its address is
that of the collection with a query that says the name and the value, and so are the requests that
are made for it. -/
structure Carries (d : Descriptor) (c : ListCall) (filter : TableFilter) (name value : String)
    (pair : String) : Prop where
  /-- The address is cut at its only question mark. -/
  pieces : Text.pieces '?' (c.address d) = [d.collectionPath c.ns, pair]
  /-- The query says the name and the value. -/
  isPair : Percent.IsPairOf pair name value
  /-- Only the address is asked; from a rooted path it is sent with just this query. -/
  sent : ∀ identity selection, filter.prepare = .ok selection →
    (fragment identity d selection.path c).Confined fun r =>
      Uri.parse? (c.address d) = some r.uri ∧
        (Uri.IsRooted d.path → r.uri = ⟨none, none, d.collectionPath c.ns, some pair⟩)

theorem isRooted_collectionPath {d : Descriptor} (h : Uri.IsRooted d.path) (ns : Option String) :
    Uri.IsRooted (d.collectionPath ns) := by
  have hall : Uri.IsRooted (d.path ++ "/" ++ d.pluralName) := (h.append _).append _
  cases ns with
  | none => exact hall
  | some ns =>
    simp only [Descriptor.collectionPath]
    split
    · exact (((h.append _).append _).append _).append _
    · exact hall

theorem confined_fragment_none {identity : Identity} {d : Descriptor} {c : ListCall}
    {P : Request → Prop}
    (h : ∀ uri headers r, Uri.parse? (c.address d) = some uri →
      Exchange.acceptHeaders? (some acceptedForms) = some headers →
      Exchange.inNameOf? identity (Exchange.get uri headers) = some r → P r) :
    (fragment identity d none c).Confined P := by
  refine (Exchange.confined_getText_request h).bind fun text => ?_
  refine Operation.confined_orElse_bind fun table _ => ?_
  exact Operation.Confined.bind (Operation.confined_pure none) fun keys =>
    Operation.confined_pure _

theorem carries {d : Descriptor} {ns : Option String} {name value : String} {values : List String}
    (hmark : '?' ∉ (d.collectionPath ns).toList) (hpath : '#' ∉ (d.collectionPath ns).toList) :
    Carries d ⟨ns, some (name, value)⟩ (.parameter name values) name value
      (Percent.pairOf name value) where
  pieces := ListCall.pieces_address hmark
  isPair := Percent.isPairOf_pairOf name value
  sent := by
    rintro identity selection ⟨⟩
    refine confined_fragment_none fun uri headers r huri _ hr => ?_
    obtain ⟨named, -, rfl⟩ := Option.map_eq_some_iff.1 hr
    refine ⟨huri, fun hroot => ?_⟩
    rw [ListCall.address_eq] at huri
    exact Uri.eq_of_parse?_cut (isRooted_collectionPath hroot ns) hmark hpath
      (Percent.not_mem_pairOf name value (by decide)) huri

/-- **The requests of a query carry what was asked.**  The value of a parameter for the API server
is divided at each `||`, the list of namespaces at each comma, and there is one list request for each
namespace and each value, the namespaces one after the other.  The address of each is the collection
and a query of one pair, from which a reader gets exactly the name and the value. -/
theorem requests_carry (d : Descriptor) (list name value : String)
    (hname : name ∉ ["", "jsonPath", "regex"]) :
    ∃ values nss, TableFilter.ofParameter name value = .parameter name values ∧
      values ≠ [] ∧ "||".intercalate values = value ∧
      (∀ v ∈ values, ¬"||".toList <:+: v.toList) ∧
      AsksAll d list nss ∧
      IsGrid nss name values (plan d list (TableFilter.ofParameter name value)) ∧
      ∀ c ∈ plan d list (TableFilter.ofParameter name value),
        '?' ∉ (d.collectionPath c.ns).toList → '#' ∉ (d.collectionPath c.ns).toList →
        ∃ v ∈ values, c.parameter = some (name, v) ∧
          ∃ pair, Carries d c (TableFilter.ofParameter name value) name v pair := by
  have hfilter : TableFilter.ofParameter name value =
      .parameter name (TableFilter.splitValues value) := by
    simp only [List.mem_cons, List.not_mem_nil, or_false, not_or] at hname
    rw [TableFilter.ofParameter, if_neg hname.1, if_neg hname.2.1, if_neg hname.2.2]
  rw [hfilter]
  refine ⟨TableFilter.splitValues value, namespaces d list, rfl, Text.piecesAt_ne_nil _ _ _,
    Text.intercalate_piecesAt '|' "|" value, fun v hv => Text.not_infix_of_mem_piecesAt hv,
    asksAll_namespaces d list, isGrid_plan d list name _, fun c hc hmark hpath => ?_⟩
  obtain ⟨ns, -, hc⟩ := List.mem_flatMap.1 hc
  obtain ⟨p, hp, rfl⟩ := List.mem_map.1 hc
  obtain ⟨v, hv, rfl⟩ := List.mem_map.1 hp
  exact ⟨v, hv, rfl, Percent.pairOf name v, carries hmark hpath⟩

/-- The pods of a cluster. -/
def podKind : Descriptor := .ofEntry "v1" "Pod" "pods" true

/-- Separators of all levels in one value: it is divided at `||` only, and each part arrives. -/
theorem requests_carry_separators :
    let filter := TableFilter.ofParameter "label&=" "a=b,c|||ü %+"
    let calls := plan podKind " web ,*" filter
    calls.map (ListCall.address podKind) =
        ["/api/v1/namespaces/web/pods?label%26%3D=a%3Db%2Cc",
          "/api/v1/namespaces/web/pods?label%26%3D=%7C%C3%BC%20%25%2B",
          "/api/v1/pods?label%26%3D=a%3Db%2Cc",
          "/api/v1/pods?label%26%3D=%7C%C3%BC%20%25%2B"] ∧
      ∀ c ∈ calls, ∃ v pair, c.parameter = some ("label&=", v) ∧
        Carries podKind c filter "label&=" v pair := by
  intro filter calls
  obtain ⟨values, nss, -, -, -, -, -, -, hcarries⟩ :=
    requests_carry podKind " web ,*" "label&=" "a=b,c|||ü %+" (by decide)
  have hplain : ∀ c ∈ calls, '?' ∉ (podKind.collectionPath c.ns).toList ∧
      '#' ∉ (podKind.collectionPath c.ns).toList := by decide +kernel
  refine ⟨by decide +kernel, fun c hc => ?_⟩
  obtain ⟨v, -, hparameter, pair, hpair⟩ := hcarries c hc (hplain c hc).1 (hplain c hc).2
  exact ⟨v, pair, hparameter, hpair⟩

end TableFetch

end ClusterGateway
