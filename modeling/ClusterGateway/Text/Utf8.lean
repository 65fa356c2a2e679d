/-!
# UTF-8

Texts as octets.  The reader goes through the octets with a small state (`Utf8.State`) and yields
a character for every well-formed sequence, and nothing in its place for the longest start of a
sequence that cannot go on (`Utf8.scan`).  `Utf8.decode?` refuses a text with such a place,
`Utf8.decodeLossy` puts the replacement character there.
-/

namespace ClusterGateway

/-- A sequence of octets. -/
abbrev Bytes := List UInt8

namespace Utf8

/-- Where the reader stands inside a character. -/
inductive State where
  /-- Between characters. -/
  | start
  /-- Inside a character: the bounds of the next octet, how many follow it, and the bits so
  far. -/
  | inside (low high : Nat) (more : Nat) (bits : Nat)
  deriving Repr, DecidableEq

/-- The first octet of a character. -/
def first (b : Nat) : List (Option Char) × State :=
  if b < 0x80 then ([some (Char.ofNat b)], .start)
  else if 0xC2 ≤ b ∧ b ≤ 0xDF then ([], .inside 0x80 0xBF 0 (b - 0xC0))
  else if b = 0xE0 then ([], .inside 0xA0 0xBF 1 0)
  else if b = 0xED then ([], .inside 0x80 0x9F 1 0xD)
  else if 0xE1 ≤ b ∧ b ≤ 0xEF then ([], .inside 0x80 0xBF 1 (b - 0xE0))
  else if b = 0xF0 then ([], .inside 0x90 0xBF 2 0)
  else if 0xF1 ≤ b ∧ b ≤ 0xF3 then ([], .inside 0x80 0xBF 2 (b - 0xF0))
  else if b = 0xF4 then ([], .inside 0x80 0x8F 2 4)
  else ([none], .start)

/-- One octet: what is complete with it, and the state after it. -/
def step : State → Nat → List (Option Char) × State
  | .start, b => first b
  | .inside low high more bits, b =>
    if low ≤ b ∧ b ≤ high then
      let bits := bits * 64 + (b - 0x80)
      match more with
      | 0 => ([some (Char.ofNat bits)], .start)
      | more + 1 => ([], .inside 0x80 0xBF more bits)
    else
      let (out, state) := first b
      (none :: out, state)

/-- What is left at the end of the text. -/
def finish : State → List (Option Char)
  | .start => []
  | .inside .. => [none]

/-- The characters of a text from a state on, with nothing for every malformed part. -/
def scanFrom : State → Bytes → List (Option Char)
  | state, [] => finish state
  | state, b :: bs =>
    let (out, state) := step state b.toNat
    out ++ scanFrom state bs

/-- The characters of a text, with nothing for every malformed part. -/
def scan (bs : Bytes) : List (Option Char) := scanFrom .start bs

/-- The text that octets write; none when some part is malformed. -/
def decode? (bs : Bytes) : Option String := ((scan bs).mapM id).map String.ofList

/-- The character that stands for a malformed part. -/
def replacement : Char := '\ufffd'

/-- The characters that octets write, with the replacement character for every malformed part. -/
def decodeLossyChars (bs : Bytes) : List Char := (scan bs).map (·.getD replacement)

/-- The text that octets write, with the replacement character for every malformed part. -/
def decodeLossy (bs : Bytes) : String := String.ofList (decodeLossyChars bs)

/-- The octets of a text. -/
def encode (s : String) : Bytes := s.toList.flatMap String.utf8EncodeChar

end Utf8

end ClusterGateway
