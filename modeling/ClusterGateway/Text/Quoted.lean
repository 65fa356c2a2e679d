import ClusterGateway.Text.Property.Binary
import ClusterGateway.Text.Property.GeneralCategory

/-!
# Quoted texts

Error texts show a string between double quotes.  A quote and a backslash get a backslash in
front, the four usual controls their short escapes, and every other character that has no visible
form of its own is written by its code point in braces.
-/

namespace ClusterGateway

namespace Text

/-- Characters that are written by their code point: controls, formats, separators other than the
blank, unassigned and private code points, and marks that extend the character before them. -/
def hasNoForm (c : Char) : Bool :=
  if c.toNat < 0x7F then c.toNat < 0x20
  else isUnprintable c || isGraphemeExtend c

/-- The hexadecimal digits of a code point, without leading zeros. -/
def codePointDigits (c : Char) : List Char := Nat.toDigits 16 c.toNat

/-- One character as it stands between the quotes. -/
def quotedChar (c : Char) : List Char :=
  if c = '\x00' then ['\\', '0']
  else if c = '\t' then ['\\', 't']
  else if c = '\r' then ['\\', 'r']
  else if c = '\n' then ['\\', 'n']
  else if c = '"' then ['\\', '"']
  else if c = '\\' then ['\\', '\\']
  else if hasNoForm c then ['\\', 'u', '\x7b'] ++ codePointDigits c ++ ['\x7d']
  else [c]

/-- A text between double quotes. -/
def quoted (s : String) : String :=
  String.ofList ('"' :: s.toList.flatMap quotedChar ++ ['"'])

/-- A list of quoted texts between brackets. -/
def quotedList (texts : List String) : String :=
  "[" ++ ", ".intercalate (texts.map quoted) ++ "]"

end Text

end ClusterGateway
