import ClusterGateway.Proofs.Json.Records
import ClusterGateway.Proofs.Time.Rendered
import ClusterGateway.Query.Basic
import ClusterGateway.Resource.Descriptor
import ClusterGateway.Table.Basic

/-!
# What goes over the wire

Queries, kinds, tables and windows of time are written as JSON and read by decoders of their own,
which know the names of the fields, the tags and the defaults a second time.

* `TableRow.undoes`, `Query.undoes` and their likes : each decoder reads what is written of a value
  as this value (`Json.Decoder.Undoes`).
* `wire_models_round_trip` : **what is written is read back**, from the text on, and once a text has
  been read and written again it stays as it is.

A number of lines has to fit 64 bits, and an instant needs a year of four digits.  Neither is a
condition on texts: any characters may stand in them.
-/

namespace ClusterGateway

open Json

variable {room : Nat}

/-! ### Windows of time -/

namespace Instant

/-- An instant has a text: its year has four digits, and it lies in no leap second. -/
def IsWritable (t : Instant) : Prop :=
  t.nanos < 10 ^ 9 ∧
    0 ≤ (Time.Rfc3339.localDate t 0).year ∧ (Time.Rfc3339.localDate t 0).year ≤ 9999

instance (t : Instant) : Decidable t.IsWritable := inferInstanceAs (Decidable (_ ∧ _ ∧ _))

theorem undoes {t : Instant} (h : t.IsWritable) : Decoder.Undoes decode room t.encode t where
  fits := .string _
  reads := by simp [decode, encode, Time.Rfc3339.parseRelaxed?_render h.1 h.2]

end Instant

namespace TimeRange

/-- Both ends of a window have a text. -/
def IsWritable (r : TimeRange) : Prop := r.start.IsWritable ∧ r.stop.IsWritable

instance (r : TimeRange) : Decidable r.IsWritable := inferInstanceAs (Decidable (_ ∧ _))

theorem undoes {r : TimeRange} (h : r.IsWritable) :
    Decoder.Undoes decode (room + 1) r.encode r := by
  have hstart : Decoder.Undoes Instant.decode room r.start.encode r.start := Instant.undoes h.1
  have hstop : Decoder.Undoes Instant.decode room r.stop.encode r.stop := Instant.undoes h.2
  constructor
  · exact .object (by simp [hstart.fits, hstop.fits])
  · simp [decode, encode, Value.lookup_cons_eq, hstart.reads, hstop.reads]

end TimeRange

/-! ### Queries -/

theorem TableQuery.undoes (q : TableQuery) :
    Decoder.Undoes decode (room + 1) (.object q.members) q where
  fits := .object (by simp [members])
  reads := by simp [decode, members, Value.lookup_cons_eq]

theorem ContainersQuery.undoes (q : ContainersQuery) :
    Decoder.Undoes decode (room + 1) (.object q.members) q where
  fits := .object (by simp [members])
  reads := by simp [decode, members, Value.lookup_cons_eq]

/-- A query for logs has a text: its number of lines fits 64 bits, and so has its window. -/
def LogsQuery.IsWritable (q : LogsQuery) : Prop :=
  (-2 ^ 63 ≤ q.tail ∧ q.tail < 2 ^ 63) ∧ ∀ r ∈ q.timeRange, r.IsWritable

theorem LogsQuery.undoes {q : LogsQuery} (h : q.IsWritable) :
    Decoder.Undoes decode (room + 2) (.object q.members) q := by
  have htail : Decoder.Undoes .int64 (room + 1) (.int q.tail) q.tail := Decoder.undoes_int64 h.1
  have hrange : Decoder.Undoes (.nullable TimeRange.decode) (room + 1)
      ((q.timeRange.map TimeRange.encode).getD .null) q.timeRange := by
    cases hq : q.timeRange with
    | none => exact Decoder.undoes_nullable_none
    | some r =>
      have hnull : r.encode.document ≠ .null := by simp [TimeRange.encode, Value.document]
      exact (TimeRange.undoes (h.2 r hq)).nullable hnull
  constructor
  · exact .object (by simp [members, htail.fits, hrange.fits])
  · simp [decode, members, Value.lookup_cons_eq, htail.reads, hrange.reads]

/-- A query has a text. -/
def Query.IsWritable : Query → Prop
  | logs q => q.IsWritable
  | _ => True

/-- The members of a query behind its tag. -/
def Query.members : Query → List (String × Value)
  | resourceIds | namespaces => []
  | table q => q.members
  | containers q => q.members
  | logs q => q.members

/-- The text that says which query it is. -/
def Query.kind : Query → String
  | resourceIds => "kubernetes-resourceids"
  | namespaces => "kubernetes-namespaces"
  | table _ => "kubernetes-resources"
  | containers _ => "kubernetes-containers"
  | logs _ => "kubernetes-logs"

theorem Query.encode_eq (q : Query) :
    q.encode = .object (("queryType", .string q.kind) :: q.members) := by
  cases q <;> rfl

theorem Query.untag?_encode (q : Query) :
    q.encode.document.untag? "queryType" = some (q.kind, (Value.object q.members).document) := by
  rw [encode_eq]
  refine Document.untag?_document ?_
  cases q <;> simp [members, TableQuery.members, ContainersQuery.members, LogsQuery.members]

theorem Query.fits_members {q : Query} (h : q.IsWritable) :
    ∀ m ∈ q.members, m.2.Fits (room + 1) := by
  cases q with
  | resourceIds | namespaces => exact fun m hm => absurd hm List.not_mem_nil
  | table q => exact Value.fits_object_iff.1 q.undoes.fits
  | containers q => exact Value.fits_object_iff.1 q.undoes.fits
  | logs q => exact Value.fits_object_iff.1 (LogsQuery.undoes h).fits

theorem Query.undoes {q : Query} (h : q.IsWritable) :
    Decoder.Undoes decode (room + 2) q.encode q := by
  have hfits : q.encode.Fits (room + 2) := by
    rw [encode_eq]
    exact .object (List.forall_mem_cons.2 ⟨.string _, fits_members h⟩)
  refine ⟨hfits, ?_⟩
  rw [decode, untag?_encode]
  simp only [Option.bind_eq_bind, Option.bind_some, hfits.hasValue]
  -- the tag, which is written first, tells which reader goes on
  cases q with
  | resourceIds | namespaces => rfl
  | table q =>
    have hread : TableQuery.decode (room + 2) (Value.object q.members).document = some q :=
      q.undoes.reads
    simp [kind, members, hread]
  | containers q =>
    have hread : ContainersQuery.decode (room + 2) (Value.object q.members).document = some q :=
      q.undoes.reads
    simp [kind, members, hread]
  | logs q =>
    have hread : LogsQuery.decode (room + 2) (Value.object q.members).document = some q :=
      (LogsQuery.undoes h).reads
    simp [kind, members, hread]

/-! ### Kinds and tables -/

theorem Descriptor.undoes (d : Descriptor) : Decoder.Undoes decode (room + 1) d.encode d where
  fits := .object (by simp)
  reads := by simp [decode, encode, Value.lookup_cons_eq]

theorem TableRow.undoes (r : TableRow) : Decoder.Undoes decode (room + 2) r.encode r := by
  have hcells : Decoder.Undoes (.list .string) (room + 1) (.array (r.cells.map .string)) r.cells :=
    Decoder.undoes_list fun s _ => Decoder.undoes_string s
  obtain ⟨ns, name, cells⟩ := r
  cases ns with
  | none =>
    constructor
    · exact .object (by simp [hcells.fits])
    · simp [decode, encode, Value.lookup_cons_eq, hcells.reads]
  | some ns =>
    have hns : Decoder.Undoes (.nullable .string) (room + 1) (.string ns) (some ns) :=
      (Decoder.undoes_string ns).nullable (by simp [Value.document])
    constructor
    · exact .object (by simp [hcells.fits])
    · simp [decode, encode, Value.lookup_cons_eq, hns.reads, hcells.reads]

theorem Table.undoes (t : Table) : Decoder.Undoes decode (room + 4) t.encode t := by
  have hcolumns : Decoder.Undoes (.list .string) (room + 3) (.array (t.columns.map .string))
      t.columns := Decoder.undoes_list fun s _ => Decoder.undoes_string s
  have hrows : Decoder.Undoes (.list TableRow.decode) (room + 3)
      (.array (t.rows.map TableRow.encode)) t.rows := Decoder.undoes_list fun r _ => r.undoes
  constructor
  · exact .object (by simp [hcolumns.fits, hrows.fits])
  · simp [decode, encode, Value.lookup_cons_eq, hcolumns.reads, hrows.reads]

/-! ### Texts -/

/-- The text that is written of what a text is read as. -/
def Json.Decoder.rewrite? {α : Type} (decode : Decoder α) (encode : α → Value) (text : String) :
    Option String :=
  (decode.parse? text).map fun a => (encode a).render

/-- A value goes over the wire unchanged. -/
structure RoundTrips {α : Type} (encode : α → Value) (decode : Decoder α) (a : α) : Prop where
  /-- The text that is written of it is read as the value. -/
  back : decode.parse? (encode a).render = some a
  /-- Of whatever text it is read, reading and writing leads to a text that both leave as it is. -/
  settled {text : String} : decode.parse? text = some a →
    ∃ out, decode.rewrite? encode text = some out ∧ decode.rewrite? encode out = some out

theorem Json.Decoder.Undoes.roundTrips {α : Type} {encode : α → Value} {decode : Decoder α} {a : α}
    (h : decode.Undoes Document.maxDepth (encode a) a) : RoundTrips encode decode a where
  back := h.parse?_render
  settled htext := by
    refine ⟨(encode a).render, ?_, ?_⟩
    · rw [Decoder.rewrite?, htext, Option.map_some]
    · rw [Decoder.rewrite?, h.parse?_render, Option.map_some]

/-- **What is written is read back.**  All five queries, the queries for tables, containers and logs
by themselves, kinds, tables and windows of time go over the wire unchanged, whatever characters
stand in their texts. -/
theorem wire_models_round_trip :
    (∀ q : Query, q.IsWritable → RoundTrips Query.encode Query.decode q) ∧
    (∀ q : TableQuery, RoundTrips (fun q => .object q.members) TableQuery.decode q) ∧
    (∀ q : ContainersQuery, RoundTrips (fun q => .object q.members) ContainersQuery.decode q) ∧
    (∀ q : LogsQuery, q.IsWritable →
      RoundTrips (fun q => .object q.members) LogsQuery.decode q) ∧
    (∀ d : Descriptor, RoundTrips Descriptor.encode Descriptor.decode d) ∧
    (∀ t : Table, RoundTrips Table.encode Table.decode t) ∧
    (∀ r : TimeRange, r.IsWritable → RoundTrips TimeRange.encode TimeRange.decode r) := by
  refine ⟨fun q h => ?_, fun q => ?_, fun q => ?_, fun q h => ?_, fun d => ?_, fun t => ?_,
    fun r h => ?_⟩
  · exact (Query.undoes h).roundTrips
  · exact q.undoes.roundTrips
  · exact q.undoes.roundTrips
  · exact (LogsQuery.undoes h).roundTrips
  · exact d.undoes.roundTrips
  · exact t.undoes.roundTrips
  · exact (TimeRange.undoes h).roundTrips

/-- A query with quotes, control characters and the ends of its ranges. -/
def extremeQuery : LogsQuery :=
  ⟨"pod", "a\"b\\c", "\x00\x1f\n\x7f", "é😀", "", -Int.pow 2 63, true,
    some ⟨⟨-62167219200, 0⟩, ⟨253402300799, 999999999⟩⟩⟩

theorem isWritable_extremeQuery : extremeQuery.IsWritable := by
  refine ⟨by decide, fun r hr => ?_⟩
  obtain rfl := Option.some.inj hr
  decide +kernel

/-- The query is read back, and so is its window. -/
theorem wire_models_round_trip_extremes :
    Query.decode.parse? (Query.logs extremeQuery).encode.render = some (.logs extremeQuery) ∧
    ∀ r ∈ extremeQuery.timeRange, TimeRange.decode.parse? r.encode.render = some r := by
  obtain ⟨hquery, -, -, -, -, -, hrange⟩ := wire_models_round_trip
  refine ⟨(hquery (.logs extremeQuery) isWritable_extremeQuery).back, fun r hr => ?_⟩
  exact (hrange r (isWritable_extremeQuery.2 r hr)).back

end ClusterGateway
