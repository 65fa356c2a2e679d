import ClusterGateway.Log.Request
import ClusterGateway.Proofs.Text.Lossy
import ClusterGateway.Proofs.Text.Pieces

/-!
# Line by line

A log arrives as octets in pieces that have nothing to do with its lines, and a container may write
anything.  Still a line is what stands between two line feeds and nothing else: a stream can be cut
at any line feed, and what is read from both parts on their own is what is read from the whole.

* `Framing.frames_of_cut` : the octets between line feeds of a stream that is cut at one.
* `Framing.lines_eq_linesOfText` : **the raw lines are those of the whole stream as a text**, with
  all malformed parts replaced before it is cut into lines.
* `PodLog.read_line_by_line` : **what a frame holds never changes what is read from another one**.
-/

namespace ClusterGateway

open Http

namespace Framing

/-! ### Octets between line feeds -/

theorem split_append (front rest : Bytes) : split (front ++ lineFeed :: rest) =
    ((split front).1 ++ (split front).2 :: (split rest).1, (split rest).2) := by
  induction front with
  | nil => simp [split]
  | cons b front ih =>
    rw [List.cons_append, split, split, ih]
    by_cases hb : b = lineFeed
    · simp [hb]
    · simp only [hb, if_false]
      cases (split front).1 <;> rfl

theorem split_of_not_mem {bs : Bytes} (h : lineFeed ∉ bs) : split bs = ([], bs) := by
  induction bs with
  | nil => rfl
  | cons b bs ih =>
    rw [List.mem_cons, not_or] at h
    rw [split, ih h.2]
    simp [Ne.symm h.1]

theorem intercalate_split (bs : Bytes) :
    [lineFeed].intercalate ((split bs).1 ++ [(split bs).2]) = bs := by
  induction bs with
  | nil => rfl
  | cons b bs ih =>
    rw [split]
    by_cases hb : b = lineFeed
    · obtain ⟨part, parts, hparts⟩ := List.exists_cons_of_ne_nil
        (List.append_ne_nil_of_right_ne_nil (split bs).1 (List.cons_ne_nil (split bs).2 []))
      rw [hparts] at ih
      simp [hb, hparts, List.intercalate_cons_cons, ih]
    · cases hlines : (split bs).1 with
      | nil => simpa [hb, hlines] using ih
      | cons line lines =>
        obtain ⟨part, parts, hparts⟩ := List.exists_cons_of_ne_nil
          (List.append_ne_nil_of_right_ne_nil lines (List.cons_ne_nil (split bs).2 []))
        rw [hlines, List.cons_append, hparts, List.intercalate_cons_cons] at ih
        simp only [hb, if_false, hlines, List.cons_append, hparts, List.intercalate_cons_cons]
        exact congrArg (b :: ·) ih

theorem not_mem_split (bs : Bytes) :
    ∀ part ∈ (split bs).1 ++ [(split bs).2], lineFeed ∉ part := by
  induction bs with
  | nil => simp [split]
  | cons b bs ih =>
    rw [split]
    by_cases hb : b = lineFeed
    · simpa [hb] using ih
    · cases hlines : (split bs).1 with
      | nil => simpa [hb, hlines, Ne.symm hb] using ih
      | cons line lines => simpa [hb, hlines, Ne.symm hb] using ih

variable {b x y : Body}

theorem frames_of_complete (hb : b.ending = .complete) :
    frames b = (split b.octets).1 ++ [(split b.octets).2] := if_pos hb

/-- **The frames of a stream that is cut at a line feed.** -/
theorem frames_of_cut (hx : x.ending = .complete) (hy : y.ending = b.ending)
    (h : b.octets = x.octets ++ lineFeed :: y.octets) : frames b = frames x ++ frames y := by
  rw [frames_of_complete hx, frames, frames, h, split_append, hy]
  by_cases hb : b.ending = .complete <;> simp [hb]

/-! ### The whole stream as a text -/

/-- A text without the carriage returns at its end. -/
def withoutReturns (s : String) : String :=
  String.ofList ((s.toList.reverse.dropWhile (· = '\r')).reverse)

/-- The lines of a text: what stands between its line feeds, without carriage returns at the end,
and only if that is not empty. -/
def linesOfText (s : String) : List String :=
  ((Text.pieces '\n' s).map withoutReturns).filter (· ≠ "")

theorem not_mem_decodeLossyChars {bs : Bytes} (h : lineFeed ∉ bs) :
    '\n' ∉ Utf8.decodeLossyChars bs := by
  intro hmem
  obtain ⟨b, hb, heq⟩ := Utf8.exists_octet_of_mem_decodeLossyChars hmem (by decide)
  have hfeed : b = lineFeed := UInt8.toNat_inj.1 heq
  exact h (hfeed ▸ hb)

/-- **Cutting at line feeds commutes with reading the octets.** -/
theorem piecesChars_decodeLossyChars (bs : Bytes) :
    Text.piecesChars '\n' (Utf8.decodeLossyChars bs) =
      ((split bs).1 ++ [(split bs).2]).map Utf8.decodeLossyChars := by
  -- the parts on both sides of a line feed are shorter
  induction hn : bs.length using Nat.strongRecOn generalizing bs with
  | ind n ih =>
    by_cases hmem : lineFeed ∈ bs
    · obtain ⟨front, rest, rfl⟩ := List.append_of_mem hmem
      rw [List.length_append, List.length_cons] at hn
      have hfront := ih front.length (by omega) front rfl
      have hrest := ih rest.length (by omega) rest rfl
      have hfeed : Char.ofNat lineFeed.toNat = '\n' := rfl
      rw [Utf8.decodeLossyChars_append_ascii (by decide), hfeed, Text.piecesChars_append_cons,
        hfront, hrest, split_append]
      simp
    · rw [Text.piecesChars_of_not_mem (not_mem_decodeLossyChars hmem), split_of_not_mem hmem]
      rfl

theorem textOf_of_not_mem {frame : Bytes} (h : lineFeed ∉ frame) :
    textOf frame = withoutReturns (String.ofList (Utf8.decodeLossyChars frame)) := by
  have hsame {cs : List Char} (hcs : '\n' ∉ cs) :
      cs.dropWhile isLineEnd = cs.dropWhile (· = '\r') := by
    induction cs with
    | nil => rfl
    | cons c cs ih =>
      rw [List.mem_cons, not_or] at hcs
      simp [List.dropWhile_cons, isLineEnd, Ne.symm hcs.1, ih hcs.2]
  rw [textOf, withoutReturns, String.toList_ofList, hsame]
  rw [List.mem_reverse]
  exact not_mem_decodeLossyChars h

/-- **The raw lines of a complete stream are those of its text.** -/
theorem lines_eq_linesOfText (hb : b.ending = .complete) :
    lines b = linesOfText (Utf8.decodeLossy b.octets) := by
  have hframes := frames_of_complete hb
  have hpieces : Text.pieces '\n' (Utf8.decodeLossy b.octets) =
      (frames b).map fun frame => String.ofList (Utf8.decodeLossyChars frame) := by
    rw [Text.pieces, Utf8.decodeLossy, String.toList_ofList, piecesChars_decodeLossyChars, hframes,
      List.map_map]
    rfl
  rw [lines, linesOfText, hpieces, List.map_map]
  congr 1
  refine List.map_congr_left fun frame hframe => ?_
  rw [hframes] at hframe
  exact textOf_of_not_mem (not_mem_split b.octets frame hframe)

end Framing

/-! ### Lines that pass -/

/-- The line that a frame of the log of a pod holds, if it holds one that passes. -/
def LineFilter.lineOf? (f : LineFilter) (pod : String) (frame : Bytes) : Option LogLine :=
  (LogLine.parse? (Framing.textOf frame) pod).filter f.accepts

namespace PodLog

variable {f : LineFilter} {pod : String} {b x y : Body}

/-- **Every frame is read on its own.** -/
theorem matching_eq_filterMap (f : LineFilter) (pod : String) (b : Body) :
    matching f ⟨pod, some b⟩ = (Framing.frames b).filterMap (f.lineOf? pod) := by
  have hframe (frames : List Bytes) :
      (((frames.map Framing.textOf).filter (· ≠ "")).filterMap fun raw =>
        LogLine.parse? raw pod).filter f.accepts = frames.filterMap (f.lineOf? pod) := by
    induction frames with
    | nil => rfl
    | cons frame frames ih =>
      -- an empty text is no line in any case
      by_cases hempty : Framing.textOf frame = ""
      · have hnone : f.lineOf? pod frame = none := by rw [LineFilter.lineOf?, hempty]; rfl
        simpa [hempty, List.filterMap_cons, hnone] using ih
      · cases hline : LogLine.parse? (Framing.textOf frame) pod with
        | none => simpa [hempty, hline, List.filterMap_cons, LineFilter.lineOf?] using ih
        | some line =>
          by_cases haccepts : f.accepts line <;>
            simpa [hempty, hline, haccepts, List.filterMap_cons, LineFilter.lineOf?,
              Option.filter] using ih
  exact hframe (Framing.frames b)

/-- **A log is read line by line.**  However a stream is cut into pieces and whatever it holds, the
lines of a stream that is cut at a line feed are those of the first part and then those of the
second.  The raw lines of a complete stream are the lines of its text, and what passes comes of each
stretch between line feeds on its own. -/
theorem read_line_by_line (f : LineFilter) (pod : String) :
    (∀ b x y : Body, x.ending = .complete → y.ending = b.ending →
      b.octets = x.octets ++ Framing.lineFeed :: y.octets →
        rawLines ⟨pod, some b⟩ = rawLines ⟨pod, some x⟩ ++ rawLines ⟨pod, some y⟩ ∧
        matching f ⟨pod, some b⟩ = matching f ⟨pod, some x⟩ ++ matching f ⟨pod, some y⟩) ∧
    (∀ b : Body, b.ending = .complete →
      rawLines ⟨pod, some b⟩ = Framing.linesOfText (Utf8.decodeLossy b.octets) ∧
      [Framing.lineFeed].intercalate (Framing.frames b) = b.octets ∧
      ∀ frame ∈ Framing.frames b, Framing.lineFeed ∉ frame) ∧
    ∀ b : Body, matching f ⟨pod, some b⟩ = (Framing.frames b).filterMap (f.lineOf? pod) := by
  refine ⟨fun b x y hx hy h => ?_, fun b hb => ?_, matching_eq_filterMap f pod⟩
  · -- where a line feed ends a piece no frame is cut in two
    have hframes : Framing.frames b = Framing.frames x ++ Framing.frames y :=
      Framing.frames_of_cut hx hy h
    constructor
    · change Framing.lines b = Framing.lines x ++ Framing.lines y
      rw [Framing.lines, hframes, List.map_append, List.filter_append]
      rfl
    · rw [matching_eq_filterMap, hframes, List.filterMap_append, ← matching_eq_filterMap,
        ← matching_eq_filterMap]
  · refine ⟨Framing.lines_eq_linesOfText hb, ?_, ?_⟩
    · rw [Framing.frames_of_complete hb, Framing.intercalate_split]
    · rw [Framing.frames_of_complete hb]
      exact Framing.not_mem_split b.octets

/-- A character that breaks off in front of a line feed, and its last octet behind it: both are
replaced, and the lines around them stay as they are. -/
theorem read_line_by_line_brokenCharacter :
    let x : Body := ⟨[[0x61, 0xE2], [0x82]], .complete⟩
    let y : Body := ⟨[[0xAC, 0x0D], [0x0A, 0x0D, 0x0A, 0x62]], .complete⟩
    let b : Body := ⟨[[0x61, 0xE2, 0x82, 0x0A, 0xAC], [0x0D, 0x0A, 0x0D, 0x0A, 0x62]], .complete⟩
    rawLines ⟨"web", some b⟩ = rawLines ⟨"web", some x⟩ ++ rawLines ⟨"web", some y⟩ ∧
      rawLines ⟨"web", some x⟩ = ["a\ufffd"] ∧ rawLines ⟨"web", some y⟩ = ["\ufffd", "b"] := by
  intro x y b
  have hcut := (read_line_by_line ⟨none, none⟩ "web").1 b x y rfl rfl (by decide)
  exact ⟨hcut.1, by decide +kernel, by decide +kernel⟩

end PodLog

end ClusterGateway
