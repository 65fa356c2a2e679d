import ClusterGateway.Log.Line
import ClusterGateway.Proofs.Json.Objects
import ClusterGateway.Proofs.Text.Pieces
import ClusterGateway.Proofs.Time.Timestamp

/-!
# What a raw line is read as

The API server puts a timestamp and a blank in front of each line of a log.  A line is read back as
what was written: its instant whatever the offset, and its body as it stands.

* `LogLine.IsLabels` : what the labels of a line hold.
* `LogLine.parse?_append` : what decides is the text before the first blank.
* `LogLine.line_reads_back` : **a line that was written is read as its instant and its body**, and
  raw lines without a timestamp in front give none.
-/

namespace ClusterGateway

open Json Time Rfc3339

namespace LogLine

/-! ### Labels -/

/-- The labels of a body: the fields of the trimmed body as they are, if it is a JSON object, and
the name of the pod unless one of them is called so. -/
def IsLabels (body pod : String) (labels : Value) : Prop :=
  ∃ fields, labels = .object fields ∧ Value.Ordered fields ∧
    match Value.parse? (Text.trim body) with
    | some (.object own) => ∀ key,
      fields.lookup key = (own.lookup key).or (if key = "pod" then some (.string pod) else none)
    | _ => fields = [("pod", .string pod)]

theorem ordered_bodyFields (body : String) : Value.Ordered (bodyFields body) := by
  rw [bodyFields]
  split
  · rename_i fields h
    exact Value.ordered_of_parse? h
  · exact List.Pairwise.nil

theorem exists_labelsOf (body pod : String) : ∃ fields, labelsOf body pod = .object fields ∧
    Value.Ordered fields ∧ ∀ key, fields.lookup key = ((bodyFields body).lookup key).or
      (if key = "pod" then some (.string pod) else none) := by
  rw [labelsOf]
  split
  · rename_i own hown
    refine ⟨_, rfl, ordered_bodyFields body, fun key => ?_⟩
    grind
  · rename_i hnone
    refine ⟨_, rfl, Value.ordered_putMember (ordered_bodyFields body), fun key => ?_⟩
    rw [Value.lookup_putMember]
    grind

theorem isLabels_labelsOf (body pod : String) : IsLabels body pod (labelsOf body pod) := by
  obtain ⟨fields, hfields, hordered, hlookup⟩ := exists_labelsOf body pod
  refine ⟨fields, hfields, hordered, ?_⟩
  split
  · rename_i own hown
    simpa only [bodyFields, hown] using hlookup
  · rename_i hnone
    have hempty : bodyFields body = [] := by
      rw [bodyFields]
      split
      · rename_i own hown
        exact absurd hown (hnone own)
      · rfl
    rw [labelsOf, hempty] at hfields
    exact (Value.object.inj hfields).symm

/-! ### The text before the first blank -/

/-- **What decides is the text before the first blank.** -/
theorem parse?_append {stamp : String} (h : ' ' ∉ stamp.toList) (body pod : String) :
    parse? (stamp ++ " " ++ body) pod =
      (Rfc3339.parse? stamp).map fun t => ⟨t, body, labelsOf body pod, pod⟩ := by
  have hchars : (stamp ++ " " ++ body).toList = stamp.toList ++ ' ' :: body.toList := by simp
  have hcut : Text.cut? ' ' (stamp ++ " " ++ body) = some (stamp, body) := by
    rw [Text.cut?, hchars, Text.cutChars?_append h, Option.map_some]
    simp only [String.ofList_toList]
  rw [parse?, hcut]
  simp only [Option.bind_eq_bind, Option.bind_some]
  cases Rfc3339.parse? stamp <;> rfl

theorem parse?_of_notMem {raw : String} (h : ' ' ∉ raw.toList) (pod : String) :
    parse? raw pod = none := by
  rw [parse?, Text.cut?, Text.cutChars?_of_not_mem h]
  rfl

/-- **Lines are read as what was written.**  Every instant outside of leap seconds can be written
at every offset of less than a day at which its year has four digits, with every number of digits
that holds its fraction; what is read is this instant, whatever the offset, the body as it stands,
its labels and the pod.  A raw line without a blank gives no line, and neither does one whose text
before the first blank is no timestamp. -/
theorem line_reads_back {t : Instant} {offset : Int} {digits : Nat} (hnanos : t.nanos < 10 ^ 9)
    (hoffset : -1440 < offset ∧ offset < 1440)
    (hyear : 0 ≤ (localDate t offset).year ∧ (localDate t offset).year ≤ 9999)
    (hdigits : 10 ^ 9 ∣ t.nanos * 10 ^ digits) (body pod : String) :
    (∃ s : Timestamp, s.IsStrict ∧ s.Writes t offset digits) ∧
      (∀ s : Timestamp, s.IsStrict → s.Writes t offset digits →
        ∃ labels, IsLabels body pod labels ∧
          parse? (s.text ++ " " ++ body) pod = some ⟨t, body, labels, pod⟩) ∧
      (∀ raw : String, ' ' ∉ raw.toList → parse? raw pod = none) ∧
      ∀ stamp : String, ' ' ∉ stamp.toList →
        (parse? (stamp ++ " " ++ body) pod = none ↔ ∀ s : Timestamp, s.text ≠ stamp) := by
  refine ⟨Timestamp.exists_writes hnanos hoffset hyear hdigits, fun s hstrict hwrites => ?_,
    fun raw hraw => parse?_of_notMem hraw pod, fun stamp hstamp => ?_⟩
  · have hread : Rfc3339.parse? s.text = some t :=
      parse?_eq_some_iff.2 ⟨s, rfl, Timestamp.instant_of_writes hwrites⟩
    have hblank : ' ' ∉ s.text.toList := by
      rw [Timestamp.text, String.toList_ofList]
      exact Timestamp.blank_notMem_chars hstrict.divider_ne
    exact ⟨labelsOf body pod, isLabels_labelsOf body pod, by rw [parse?_append hblank, hread]; rfl⟩
  · rw [parse?_append hstamp, Option.map_eq_none_iff, parse?_eq_none_iff]

/-- An instant of 2023 in UTC whose local time lies in 2024. -/
theorem line_reads_back_newYear : ∃ s : Timestamp, s.text = "2024-01-01T05:00:00.5+05:30" ∧
    s.IsStrict ∧ s.Writes ⟨1704065400, 500000000⟩ 330 1 ∧
    ∃ labels, IsLabels "\x7b\"pod\":\"inner\"\x7d " "web-1" labels ∧
      parse? ("2024-01-01T05:00:00.5+05:30" ++ " " ++ "\x7b\"pod\":\"inner\"\x7d ") "web-1" =
        some ⟨⟨1704065400, 500000000⟩, "\x7b\"pod\":\"inner\"\x7d ", labels, "web-1"⟩ := by
  let s : Timestamp := {
    year := 2024
    month := 1
    day := 1
    isValid := by decide
    divider := 'T'
    isDivider_divider := rfl
    hour := 5
    minute := 0
    second := 0
    fraction := ['5']
    isDigit_fraction := List.forall_mem_singleton.2 rfl
    zone := .shifted .plus 5 30 }
  have htext : s.text = "2024-01-01T05:00:00.5+05:30" := by decide +kernel
  have hstrict : s.IsStrict := ⟨by decide, trivial⟩
  have hwrites : s.Writes ⟨1704065400, 500000000⟩ 330 1 :=
    ⟨by decide +kernel, by decide, ⟨s.isDigit_fraction, by decide +kernel⟩, rfl, by decide⟩
  have hyear : 0 ≤ (localDate ⟨1704065400, 500000000⟩ 330).year ∧
      (localDate ⟨1704065400, 500000000⟩ 330).year ≤ 9999 := by decide +kernel
  have hline := (line_reads_back (by decide) (by decide) hyear (by decide)
    "\x7b\"pod\":\"inner\"\x7d " "web-1").2.1 s hstrict hwrites
  rw [htext] at hline
  exact ⟨s, htext, hstrict, hwrites, hline⟩

/-- More is read than RFC 3339 has: a minus may be the sign of arithmetic.  And less is taken as an
object than JSON has: one that is nested too deep leaves no labels. -/
theorem line_beyond_grammar :
    ((∀ s : Timestamp, s.IsStrict → s.text ≠ "2024-01-15T10:30:00−08:00") ∧
      (parse? ("2024-01-15T10:30:00−08:00" ++ " " ++ "hello") "web-1").map time =
        some ⟨1705343400, 0⟩) ∧
    ∃ body, (Document.parse? body).any Document.isObject = true ∧
      (parse? ("2024-01-15T10:30:00Z" ++ " " ++ body) "web-1").map labels =
        some (.object [("pod", .string "web-1")]) := by
  refine ⟨⟨fun s hstrict hs => ?_, by decide +kernel⟩, ?_⟩
  · have hchars : s.chars = "2024-01-15T10:30:00−08:00".toList := by
      rw [← hs, Timestamp.text, String.toList_ofList]
    exact Timestamp.minus_notMem_chars hstrict (hchars ▸ by decide)
  · -- Arrays nested 127 deep in an object.
    obtain ⟨body, hobject, hnone⟩ : ∃ body, (Document.parse? body).any Document.isObject = true ∧
        (Value.parse? (Text.trim body)).isNone = true := by
      refine ⟨String.ofList ("\x7b\"a\":".toList ++ List.replicate 127 '[' ++
        List.replicate 127 ']' ++ ['\x7d']), ?_, ?_⟩
      · rw [Document.parse?, String.toList_ofList]
        decide +kernel
      · rw [Value.parse?, Document.parse?, Text.trim, String.toList_ofList, String.toList_ofList]
        decide +kernel
    have hstamp : Rfc3339.parse? "2024-01-15T10:30:00Z" = some ⟨1705314600, 0⟩ := by
      decide +kernel
    obtain ⟨fields, hfields, -, hown⟩ := isLabels_labelsOf body "web-1"
    rw [Option.isNone_iff_eq_none.1 hnone] at hown
    refine ⟨body, hobject, ?_⟩
    rw [parse?_append (by decide), hstamp, Option.map_some, Option.map_some, hfields, hown]

end LogLine

end ClusterGateway
