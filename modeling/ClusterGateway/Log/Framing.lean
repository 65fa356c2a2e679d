import ClusterGateway.Http.Message

/-!
# Lines of a stream

A log arrives as octets in pieces.  `Framing.lines` are the raw lines in it: the texts between
line feeds, without carriage returns at their ends and without empty ones.  What stands behind
the last line feed is a line only when the stream ends there, not when it breaks off or hangs.
-/

namespace ClusterGateway

open Http

namespace Framing

/-- The octet that ends a line. -/
def lineFeed : UInt8 := 10

/-- The complete lines of octets and what follows the last line feed. -/
def split : Bytes → List Bytes × Bytes
  | [] => ([], [])
  | b :: bs =>
    let (lines, rest) := split bs
    if b = lineFeed then ([] :: lines, rest)
    else match lines with
      | [] => ([], b :: rest)
      | line :: lines => ((b :: line) :: lines, rest)

/-- The lines of a body as octets. -/
def frames (body : Body) : List Bytes :=
  let (lines, rest) := split body.octets
  if body.ending = .complete then lines ++ [rest] else lines

/-- Whether a character ends a line. -/
def isLineEnd (c : Char) : Bool := c = '\n' || c = '\r'

/-- The text of a line: malformed parts are replaced, line ends at the end are cut off. -/
def textOf (frame : Bytes) : String :=
  String.ofList (((Utf8.decodeLossyChars frame).reverse.dropWhile isLineEnd).reverse)

/-- The raw lines of a body. -/
def lines (body : Body) : List String := ((frames body).map textOf).filter (· ≠ "")

end Framing

end ClusterGateway
