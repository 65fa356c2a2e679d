import ClusterGateway.Time.Rfc3339
import ClusterGateway.Toml.Value

/-!
# Reading TOML

`Toml.parse?` reads a document of TOML 1.0.
-/

namespace ClusterGateway

namespace Toml

namespace Reader

/-! ### Blanks, comments and line ends -/

/-- Whether a character is a blank inside a line. -/
def isBlank (c : Char) : Bool := c = ' ' || c = '\t'

/-- The text after blanks. -/
def skipBlanks (cs : List Char) : List Char := cs.dropWhile isBlank

/-- Whether a character may be written as it is: no control but the tab. -/
def isPlain (c : Char) : Bool := c = '\t' || (0x20 ≤ c.toNat && c.toNat ≠ 0x7F)

/-- The text after the rest of a comment. -/
def skipComment (cs : List Char) : List Char := cs.dropWhile isPlain

/-- The text after a line end. -/
def lineEnd? : List Char → Option (List Char)
  | '\n' :: cs => some cs
  | '\r' :: '\n' :: cs => some cs
  | _ => none

/-- The text after blanks, a comment and the line end; the text may end here too. -/
def endOfLine? (cs : List Char) : Option (List Char) :=
  let rest := match skipBlanks cs with
    | '#' :: cs => skipComment cs
    | cs => cs
  if rest = [] then some [] else lineEnd? rest

/-- The text after blanks, line ends and comments, as they may stand in an array. -/
def skipLines : Nat → List Char → List Char
  | 0, cs => cs
  | fuel + 1, cs =>
    match cs with
    | '#' :: cs => skipLines fuel (skipComment cs)
    | '\r' :: '\n' :: cs => skipLines fuel cs
    | c :: cs => if isBlank c ∨ c = '\n' then skipLines fuel cs else c :: cs
    | [] => []

/-! ### Strings -/

/-- So many hexadecimal digits as a number. -/
def hexNumber? (count : Nat) (cs : List Char) : Option (Nat × List Char) := do
  let digits ← (cs.take count).mapM Json.hexDigit?
  if digits.length = count then
    some (digits.foldl (fun n d => 16 * n + d) 0, cs.drop count)
  else none

/-- A character by its code point, in so many hexadecimal digits. -/
def codePoint? (count : Nat) (cs : List Char) : Option (Char × List Char) :=
  (hexNumber? count cs).bind fun (n, rest) =>
    if n.isValidChar then some (Char.ofNat n, rest) else none

/-- The character of an escape after its backslash. -/
def escape? : List Char → Option (Char × List Char)
  | 'b' :: cs => some ('\x08', cs)
  | 't' :: cs => some ('\t', cs)
  | 'n' :: cs => some ('\n', cs)
  | 'f' :: cs => some ('\x0c', cs)
  | 'r' :: cs => some ('\r', cs)
  | '"' :: cs => some ('"', cs)
  | '\\' :: cs => some ('\\', cs)
  | 'u' :: cs => codePoint? 4 cs
  | 'U' :: cs => codePoint? 8 cs
  | _ => none

/-- The rest of a string in one line, up to the closing quote. -/
def line? (quote : Char) (escapes : Bool) : Nat → List Char → Option (List Char × List Char)
  | 0, _ => none
  | _, [] => none
  | fuel + 1, c :: cs =>
    if c = quote then some ([], cs)
    else if escapes ∧ c = '\\' then do
      let (d, rest) ← escape? cs
      let (ds, rest) ← line? quote escapes fuel rest
      return (d :: ds, rest)
    else if isPlain c then (line? quote escapes fuel cs).map fun (ds, rest) => (c :: ds, rest)
    else none

/-- The text after a backslash at the end of a line: the next character that is no blank. -/
def skipBreak? (cs : List Char) : Option (List Char) :=
  (lineEnd? (skipBlanks cs)).map fun cs => go (cs.length + 1) cs
where
  /-- The text after blanks and line ends. -/
  go : Nat → List Char → List Char
    | 0, cs => cs
    | fuel + 1, cs =>
      match cs with
      | '\r' :: '\n' :: cs => go fuel cs
      | c :: cs => if isBlank c ∨ c = '\n' then go fuel cs else c :: cs
      | [] => []

/-- The rest of a string over several lines, up to three closing quotes.  One or two quotes right
before them belong to the string. -/
def lines? (quote : Char) (escapes : Bool) : Nat → List Char → Option (List Char × List Char)
  | 0, _ => none
  | _, [] => none
  | fuel + 1, c :: cs =>
    if c = quote ∧ cs.take 2 = [quote, quote] then
      let more := ((cs.drop 2).take 2).takeWhile (· = quote)
      some (more, cs.drop (2 + more.length))
    else if escapes ∧ c = '\\' then
      match skipBreak? cs with
      | some rest => lines? quote escapes fuel rest
      | none => do
        let (d, rest) ← escape? cs
        let (ds, rest) ← lines? quote escapes fuel rest
        return (d :: ds, rest)
    else if c = '\r' ∧ cs.head? = some '\n' then lines? quote escapes fuel cs
    else if c = '\n' ∨ isPlain c then
      (lines? quote escapes fuel cs).map fun (ds, rest) => (c :: ds, rest)
    else none

/-- A string of one line after its opening quote. -/
def quoted? (quote : Char) (cs : List Char) : Option (String × List Char) :=
  (line? quote (quote = '"') (cs.length + 1) cs).map fun (ds, rest) => (String.ofList ds, rest)

/-- A string of any kind after its first quote. -/
def string? (quote : Char) (cs : List Char) : Option (String × List Char) :=
  if cs.take 2 = [quote, quote] then
    let body := cs.drop 2
    let body := (lineEnd? body).getD body
    (lines? quote (quote = '"') (body.length + 1) body).map fun (ds, rest) =>
      (String.ofList ds, rest)
  else quoted? quote cs

/-! ### Numbers -/

/-- Digits with single underscores between them. -/
def digits (isDigit : Char → Bool) : List Char → List Char × List Char
  | [] => ([], [])
  | '_' :: c :: cs =>
    if isDigit c then
      let (ds, rest) := digits isDigit cs
      (c :: ds, rest)
    else ([], '_' :: c :: cs)
  | c :: cs =>
    if isDigit c then
      let (ds, rest) := digits isDigit cs
      (c :: ds, rest)
    else ([], c :: cs)

/-- Digits, at least one and no underscore in front. -/
def someDigits? (isDigit : Char → Bool) (cs : List Char) : Option (List Char × List Char) :=
  match cs with
  | c :: rest =>
    if isDigit c then
      let (ds, rest) := digits isDigit rest
      some (c :: ds, rest)
    else none
  | [] => none

/-- The number that digits write in a base. -/
def ofDigits (base : Nat) (ds : List Char) : Nat :=
  ds.foldl (fun n c => base * n + (Json.hexDigit? c).getD 0) 0

/-- An integer that fits 64 bits. -/
def fitting? (n : Int) (rest : List Char) : Option (Value × List Char) :=
  if -Int.pow 2 63 ≤ n ∧ n < Int.pow 2 63 then some (.integer n, rest) else none

/-- An integer in another base after its mark. -/
def based? (base : Nat) (cs : List Char) : Option (Value × List Char) :=
  let isDigit (c : Char) : Bool := (Json.hexDigit? c).any fun d => d < base
  (someDigits? isDigit cs).bind fun (ds, rest) => fitting? (ofDigits base ds) rest

/-- The text after a sign, and whether it was a minus. -/
def sign : List Char → Bool × List Char
  | '-' :: cs => (true, cs)
  | '+' :: cs => (false, cs)
  | cs => (false, cs)

/-- The digits after a point, if there is one. -/
def fraction? : List Char → Option (List Char × List Char)
  | '.' :: cs => someDigits? Char.isDigit cs
  | cs => some ([], cs)

/-- The exponent, if there is one. -/
def exponent? : List Char → Option (Option Int × List Char)
  | c :: cs =>
    if c = 'e' ∨ c = 'E' then
      let (negative, cs) := sign cs
      (someDigits? Char.isDigit cs).map fun (ds, rest) =>
        let n : Int := ofDigits 10 ds
        (some (if negative then -n else n), rest)
    else some (none, c :: cs)
  | [] => some (none, [])

/-- A number in base ten after its sign.  A float must not be too large above zero. -/
def decimal? (negative : Bool) (cs : List Char) : Option (Value × List Char) := do
  let (whole, rest) ← someDigits? Char.isDigit cs
  if 1 < whole.length ∧ whole.head? = some '0' then none
  else
    let (part, after) ← fraction? rest
    let (e, after) ← exponent? after
    if part = [] ∧ e = none then
      let n : Int := ofDigits 10 whole
      fitting? (if negative then -n else n) after
    else
      let d := Double.nearest? false (ofDigits 10 (whole ++ part)) (e.getD 0 - part.length)
      if d.isSome ∨ negative then some (.float, after) else none

/-- A number. -/
def number? (cs : List Char) : Option (Value × List Char) :=
  match cs with
  | '0' :: 'x' :: cs => based? 16 cs
  | '0' :: 'o' :: cs => based? 8 cs
  | '0' :: 'b' :: cs => based? 2 cs
  | cs =>
    let (negative, rest) := sign cs
    match rest with
    | 'i' :: 'n' :: 'f' :: rest => some (.float, rest)
    | 'n' :: 'a' :: 'n' :: rest => some (.float, rest)
    | rest => decimal? negative rest

/-! ### Dates and times -/

open Time in
/-- A time of day. -/
def timeOfDay? (cs : List Char) : Option (List Char) := do
  let (hour, cs) ← Rfc3339.number? 2 2 cs
  let cs ← Rfc3339.expect ':' cs
  let (minute, cs) ← Rfc3339.number? 2 2 cs
  let cs ← Rfc3339.expect ':' cs
  let (second, cs) ← Rfc3339.number? 2 2 cs
  if hour < 24 ∧ minute < 60 ∧ second ≤ 60 then
    match cs with
    | '.' :: d :: cs => if d.isDigit then some (cs.dropWhile Char.isDigit) else none
    | '.' :: [] => none
    | cs => some cs
  else none

open Time in
/-- An offset from UTC, if there is one. -/
def zone? : List Char → Option (List Char)
  | 'Z' :: cs => some cs
  | 'z' :: cs => some cs
  | '+' :: cs => (Rfc3339.offset? (Rfc3339.expect ':') ('+' :: cs)).map Prod.snd
  | '-' :: cs => (Rfc3339.offset? (Rfc3339.expect ':') ('-' :: cs)).map Prod.snd
  | cs => some cs

/-- The text after a time of day with an offset, where date and time are divided by `c`.  After a
blank there may be none. -/
def afterDivider? (c : Char) (cs : List Char) : Option (List Char) :=
  if c = ' ' ∧ (cs.take 2).any (fun c => !c.isDigit) then some (c :: cs)
  else if c = ' ' ∧ cs.length < 2 then some (c :: cs)
  else (timeOfDay? cs).bind zone?

open Time in
/-- A date, a time or both; gives the text after it. -/
def moment? (cs : List Char) : Option (List Char) :=
  match Rfc3339.number? 4 4 cs with
  | some (year, '-' :: rest) => do
    let (month, rest) ← Rfc3339.number? 2 2 rest
    let rest ← Rfc3339.expect '-' rest
    let (day, rest) ← Rfc3339.number? 2 2 rest
    if (Time.Date.mk year month day).isValid then
      match rest with
      | c :: after => if Rfc3339.isDivider c then afterDivider? c after else some rest
      | [] => some []
    else none
  | _ => timeOfDay? cs

/-- Whether a text starts like a date or a time. -/
def startsMoment : List Char → Bool
  | a :: b :: c :: d :: e :: _ =>
    (a.isDigit && b.isDigit && c.isDigit && d.isDigit && e = '-') ||
      (a.isDigit && b.isDigit && c = ':')
  | a :: b :: c :: _ => a.isDigit && b.isDigit && c = ':'
  | _ => false

/-! ### Keys -/

/-- Whether a character may be in a key without quotes. -/
def isBare (c : Char) : Bool := c.isAlphanum || c = '_' || c = '-'

/-- A part of a key. -/
def keyPart? : List Char → Option (String × List Char)
  | '"' :: cs => quoted? '"' cs
  | '\'' :: cs => quoted? '\'' cs
  | cs =>
    match cs.takeWhile isBare with
    | [] => none
    | name => some (String.ofList name, cs.dropWhile isBare)

/-- The parts of a key between dots, with blanks around them. -/
def key? : Nat → List Char → Option (List String × List Char)
  | 0, _ => none
  | fuel + 1, cs => do
    let (part, rest) ← keyPart? (skipBlanks cs)
    match skipBlanks rest with
    | '.' :: rest =>
      let (parts, rest) ← key? fuel rest
      return (part :: parts, rest)
    | rest => return ([part], rest)

/-- How deep arrays, tables in braces and keys may be nested. -/
def maxDepth : Nat := 80

/-! ### Values -/

/-- The table of a pair of braces with one more entry. -/
def addEntry (parts : List String) (v : Value) (entries : Entries) : Option Entries :=
  match parts.getLast? with
  | some key => Entries.setDotted none key v parts.dropLast entries
  | none => none

mutual

/-- A value; the first argument bounds the recursion, the second the nesting. -/
def value? : Nat → Nat → List Char → Option (Value × List Char)
  | 0, _, _ => none
  | fuel + 1, room, cs =>
    match cs with
    | '"' :: rest => (string? '"' rest).map fun (s, rest) => (.string s, rest)
    | '\'' :: rest => (string? '\'' rest).map fun (s, rest) => (.string s, rest)
    | 't' :: 'r' :: 'u' :: 'e' :: rest => some (.bool true, rest)
    | 'f' :: 'a' :: 'l' :: 's' :: 'e' :: rest => some (.bool false, rest)
    | '[' :: rest =>
      if room ≤ 1 then none
      else (items? fuel (room - 1) (skipLines rest.length rest)).map fun (vs, rest) =>
        (.array vs, rest)
    | '\x7b' :: rest =>
      if room ≤ 1 then none
      else match skipBlanks rest with
        | '\x7d' :: rest => some (.table [], rest)
        | rest => (entries? fuel (room - 1) [] rest).map fun (entries, rest) =>
          (.table (entryValues entries), rest)
    | cs =>
      if startsMoment cs then
        (moment? cs).map fun rest =>
          (.moment (String.ofList (cs.take (cs.length - rest.length))), rest)
      else number? cs

/-- The items of an array up to the closing bracket. -/
def items? : Nat → Nat → List Char → Option (List Value × List Char)
  | 0, _, _ => none
  | fuel + 1, room, cs =>
    match cs with
    | ']' :: rest => some ([], rest)
    | cs => do
      let (v, rest) ← value? fuel room cs
      match skipLines rest.length rest with
      | ',' :: rest =>
        let (vs, rest) ← items? fuel room (skipLines rest.length rest)
        return (v :: vs, rest)
      | ']' :: rest => return ([v], rest)
      | _ => none

/-- The entries of a table in braces up to the closing one. -/
def entries? : Nat → Nat → Entries → List Char → Option (Entries × List Char)
  | 0, _, _, _ => none
  | fuel + 1, room, entries, cs => do
    let (parts, rest) ← key? maxDepth cs
    match rest with
    | '=' :: rest =>
      let (v, rest) ← value? fuel room (skipBlanks rest)
      let entries ← addEntry parts v entries
      match skipBlanks rest with
      | ',' :: rest => entries? fuel room entries rest
      | '\x7d' :: rest => return (entries, rest)
      | _ => none
    | _ => none

end

/-! ### Documents -/

/-- What has been read of a document. -/
structure State where
  /-- The keys of the last header. -/
  header : List String
  /-- The entries so far. -/
  entries : Entries

/-- The keys of a header up to its closing brackets. -/
def header? (closing : List Char) (cs : List Char) : Option (List String × List Char) := do
  let (path, rest) ← key? maxDepth cs
  if closing.isPrefixOf rest then
    let rest ← endOfLine? (rest.drop closing.length)
    return (path, rest)
  else none

/-- One line of a document. -/
def readLine? (s : State) (cs : List Char) : Option (State × List Char) :=
  match skipBlanks cs with
  | '[' :: '[' :: cs => do
    let (path, rest) ← header? [']', ']'] cs
    let entries ← Entries.openElement path s.entries
    return (⟨path, entries⟩, rest)
  | '[' :: cs => do
    let (path, rest) ← header? [']'] cs
    let entries ← Entries.openTable path s.entries
    return (⟨path, entries⟩, rest)
  | cs =>
    match endOfLine? cs with
    | some rest => some (s, rest)
    | none => do
      let (parts, rest) ← key? maxDepth cs
      match rest with
      | '=' :: rest =>
        let (v, rest) ← value? (2 * rest.length + 2) maxDepth (skipBlanks rest)
        let key ← parts.getLast?
        let entries ← Entries.setUnder s.header parts.dropLast key v s.entries
        let rest ← endOfLine? rest
        return (⟨s.header, entries⟩, rest)
      | _ => none

/-- All lines of a document. -/
def readLines? : Nat → State → List Char → Option State
  | 0, _, _ => none
  | _, s, [] => some s
  | fuel + 1, s, cs => (readLine? s cs).bind fun (s, rest) => readLines? fuel s rest

end Reader

/-- The entries of the document that a text writes.  A byte order mark may stand in front. -/
def parse? (text : String) : Option (List (String × Value)) :=
  let cs := match text.toList with
    | '\ufeff' :: cs => cs
    | cs => cs
  (Reader.readLines? (cs.length + 1) ⟨[], []⟩ cs).map fun s => entryValues s.entries

end Toml

end ClusterGateway
