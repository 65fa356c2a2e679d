import ClusterGateway.Regex.Pattern
import ClusterGateway.Text.Blank
import ClusterGateway.Text.Property.Binary
import ClusterGateway.Text.Property.GeneralCategory
import ClusterGateway.Text.Property.Script

/-!
# Character properties by name

`PropertyName.chars?` gives the characters that a property in a pattern selects.  Names are
compared loosely: case, blanks, hyphens, underscores and a leading `is` do not count.

The properties are general categories, scripts and the binary properties of `BinaryProperty.table`,
all of Unicode 15.  Left out, so that patterns which name them are refused, are ages, the breaks of
graphemes, words and sentences, and the binary properties that the table does not list: those of the
form `Changes_When_*` and `Other_*`, those of ideographic descriptions and the rarest ones.  The
extensions of a script are read as the script itself.
-/

namespace ClusterGateway

namespace Regex

open Text

namespace PropertyName

/-- A name without what does not count in it. -/
def looseChars (cs : List Char) : List Char :=
  let skipped (c : Char) : Bool := 0x80 ≤ c.toNat || c == ' ' || c == '_' || c == '-'
  let kept := (cs.filter (!skipped ·)).map Char.toLower
  match cs, kept with
  | a :: b :: _, 'i' :: 's' :: rest =>
    if a.toLower = 'i' ∧ b.toLower = 's' then
      if rest = ['c'] then kept else rest
    else kept
  | _, _ => kept

/-- A name without what does not count in it. -/
def loose (name : String) : String := String.ofList (looseChars name.toList)

/-- The long names of the general categories.  That of surrogates is not among them, since no
character has it. -/
def categoryNames : List (String × List String) := [
  ("C", ["other"]), ("Cc", ["control", "cntrl"]), ("Cf", ["format"]), ("Cn", ["unassigned"]),
  ("Co", ["privateuse"]), ("L", ["letter"]), ("LC", ["casedletter"]), ("Ll", ["lowercaseletter"]),
  ("Lm", ["modifierletter"]), ("Lo", ["otherletter"]), ("Lt", ["titlecaseletter"]),
  ("Lu", ["uppercaseletter"]), ("M", ["mark", "combiningmark"]), ("Mc", ["spacingmark"]),
  ("Me", ["enclosingmark"]), ("Mn", ["nonspacingmark"]), ("N", ["number"]),
  ("Nd", ["decimalnumber", "digit"]), ("Nl", ["letternumber"]), ("No", ["othernumber"]),
  ("P", ["punctuation", "punct"]), ("Pc", ["connectorpunctuation"]),
  ("Pd", ["dashpunctuation"]), ("Pe", ["closepunctuation"]), ("Pf", ["finalpunctuation"]),
  ("Pi", ["initialpunctuation"]), ("Po", ["otherpunctuation"]), ("Ps", ["openpunctuation"]),
  ("S", ["symbol"]), ("Sc", ["currencysymbol"]), ("Sk", ["modifiersymbol"]),
  ("Sm", ["mathsymbol"]), ("So", ["othersymbol"]), ("Z", ["separator"]),
  ("Zl", ["lineseparator"]), ("Zp", ["paragraphseparator"]), ("Zs", ["spaceseparator"])]

/-- The characters of a general category by its short name. -/
def categoryChars (code : String) : CharSet :=
  if code = "LC" then
    CharSet.unionAll (["Ll", "Lt", "Lu"].map GeneralCategory.startingWith)
  else GeneralCategory.startingWith code

/-- The characters of a general category by any of its names. -/
def category? (name : String) : Option CharSet :=
  match name with
  | "any" => some .full
  | "ascii" => some (.range '\x00' '\x7f')
  | "assigned" => some (GeneralCategory.startingWith "Cn").complement
  | _ =>
    (categoryNames.find? fun (code, names) => loose code = name ∨ names.contains name).map
      fun (code, _) => categoryChars code

/-- The characters of a script by its code or name. -/
def script? (name : String) : Option CharSet :=
  (Script.table.find? fun (code, full, _) => loose code = name ∨ loose full = name).map
    fun (_, _, set) => set

/-- Short names of binary properties. -/
def binaryAliases : List (String × String) := [
  ("ahex", "ASCII_Hex_Digit"), ("alpha", "Alphabetic"), ("bidic", "Bidi_Control"),
  ("bidim", "Bidi_Mirrored"), ("ci", "Case_Ignorable"), ("dep", "Deprecated"),
  ("di", "Default_Ignorable_Code_Point"), ("dia", "Diacritic"), ("ebase", "Emoji_Modifier_Base"),
  ("ecomp", "Emoji_Component"), ("emod", "Emoji_Modifier"), ("epres", "Emoji_Presentation"),
  ("ext", "Extender"), ("extpict", "Extended_Pictographic"), ("grbase", "Grapheme_Base"),
  ("grext", "Grapheme_Extend"), ("hex", "Hex_Digit"), ("idc", "ID_Continue"),
  ("ideo", "Ideographic"), ("ids", "ID_Start"), ("joinc", "Join_Control"),
  ("lower", "Lowercase"), ("nchar", "Noncharacter_Code_Point"), ("patsyn", "Pattern_Syntax"),
  ("patws", "Pattern_White_Space"), ("qmark", "Quotation_Mark"), ("ri", "Regional_Indicator"),
  ("sd", "Soft_Dotted"), ("space", "White_Space"), ("sterm", "Sentence_Terminal"),
  ("term", "Terminal_Punctuation"), ("uideo", "Unified_Ideograph"), ("upper", "Uppercase"),
  ("vs", "Variation_Selector"), ("wspace", "White_Space"), ("xidc", "XID_Continue"),
  ("xids", "XID_Start")]

/-- The characters with a binary property by any of its names. -/
def binary? (name : String) : Option CharSet :=
  match binaryAliases.lookup name with
  | some full => some (BinaryProperty.named full)
  | none =>
    (BinaryProperty.table.find? fun (full, _) => loose full = name).map fun (_, set) => set

/-- The characters that a property selects; none for a name that is not known, or is left out (see
the beginning of the module). -/
def chars? : PropertyName → Option CharSet
  | named name =>
    let name := loose name
    (binary? name).orElse fun _ => (category? name).orElse fun _ => script? name
  | valued property value =>
    let value := loose value
    match loose property with
    | "gc" | "generalcategory" => category? value
    | "sc" | "script" | "scx" | "scriptextensions" => script? value
    | _ => none

end PropertyName

namespace ShortClass

/-- The characters of a class with a letter of its own. -/
def chars : ShortClass → CharSet
  | digit => GeneralCategory.startingWith "Nd"
  | space => BinaryProperty.named "White_Space"
  | word => CharSet.unionAll [BinaryProperty.named "Alphabetic", GeneralCategory.startingWith "M",
      GeneralCategory.startingWith "Nd", GeneralCategory.startingWith "Pc",
      BinaryProperty.named "Join_Control"]

/-- The ASCII characters of a class with a letter of its own. -/
def asciiChars : ShortClass → CharSet
  | digit => .range '0' '9'
  | space => .ofText "\t\n\x0b\x0c\r "
  | word => CharSet.unionAll [.range '0' '9', .range 'A' 'Z', .single '_', .range 'a' 'z']

end ShortClass

/-- The characters of an ASCII class by its name. -/
def asciiClassChars (name : String) : CharSet :=
  let lower := CharSet.range 'a' 'z'
  let upper := CharSet.range 'A' 'Z'
  let digits := CharSet.range '0' '9'
  match name with
  | "alnum" => .unionAll [digits, upper, lower]
  | "alpha" => upper.union lower
  | "ascii" => .range '\x00' '\x7f'
  | "blank" => .ofText "\t "
  | "cntrl" => (CharSet.range '\x00' '\x1f').union (.single '\x7f')
  | "digit" => digits
  | "graph" => .range '!' '~'
  | "lower" => lower
  | "print" => .range ' ' '~'
  | "punct" => .unionAll [.range '!' '/', .range ':' '@', .range '[' (Char.ofNat 96),
      .range '\x7b' '~']
  | "space" => .ofText "\t\n\x0b\x0c\r "
  | "upper" => upper
  | "word" => .unionAll [digits, upper, .single '_', lower]
  | "xdigit" => .unionAll [digits, .range 'A' 'F', .range 'a' 'f']
  | _ => .empty

end Regex

end ClusterGateway
