import Fleetd.Serde.Value

/-!
# Parsing JSON values

The parser of a JSON text. A key that is repeated in an object keeps its place and takes the last
value. Texts with anything after their value are refused, and so are texts whose brackets are open
inside one another more than a bounded number of times.
-/

namespace Serde

/-- The spaces between tokens. -/
def isSpace (c : Char) : Bool := c = ' ' || c = '\n' || c = '\t' || c = '\r'

def skipSpace (text : List Char) : List Char := text.dropWhile isSpace

/-! ## Strings -/

/-- The value of one hexadecimal digit. -/
def hexValue (c : Char) : Option Nat :=
  if '0' ≤ c ∧ c ≤ '9' then some (c.toNat - 48)
  else if 'a' ≤ c ∧ c ≤ 'f' then some (c.toNat - 87)
  else if 'A' ≤ c ∧ c ≤ 'F' then some (c.toNat - 55)
  else none

/-- Four hexadecimal digits and what follows them. -/
def scanUnit : List Char → Option (Nat × List Char)
  | a :: b :: c :: d :: rest => do
    let a ← hexValue a
    let b ← hexValue b
    let c ← hexValue c
    let d ← hexValue d
    some (4096 * a + 256 * b + 16 * c + d, rest)
  | _ => none

/-- The low half of a surrogate pair. -/
def scanLowSurrogate : List Char → Option (Nat × List Char)
  | '\\' :: 'u' :: rest => do
    let (low, rest) ← scanUnit rest
    if 56320 ≤ low ∧ low ≤ 57343 then some (low, rest) else none
  | _ => none

/-- The character of a `\u` escape, which may be written as a surrogate pair. -/
def scanUnicode (text : List Char) : Option (Char × List Char) := do
  let (unit, rest) ← scanUnit text
  if 55296 ≤ unit ∧ unit ≤ 56319 then
    let (low, rest) ← scanLowSurrogate rest
    some (Char.ofNat (65536 + 1024 * (unit - 55296) + (low - 56320)), rest)
  else if 56320 ≤ unit ∧ unit ≤ 57343 then none
  else some (Char.ofNat unit, rest)

/-- The character of an escape after its backslash. -/
def scanEscape : List Char → Option (Char × List Char)
  | '"' :: rest => some ('"', rest)
  | '\\' :: rest => some ('\\', rest)
  | '/' :: rest => some ('/', rest)
  | 'b' :: rest => some ('\x08', rest)
  | 'f' :: rest => some ('\x0c', rest)
  | 'n' :: rest => some ('\n', rest)
  | 'r' :: rest => some ('\r', rest)
  | 't' :: rest => some ('\t', rest)
  | 'u' :: rest => scanUnicode rest
  | _ => none

/-- The characters of a string after its opening quote. -/
def scanString : Nat → List Char → Option (List Char × List Char)
  | 0, _ => none
  | _ + 1, [] => none
  | fuel + 1, c :: rest =>
    if c = '"' then some ([], rest)
    else if c = '\\' then do
      let (escaped, rest) ← scanEscape rest
      let (text, rest) ← scanString fuel rest
      some (escaped :: text, rest)
    else if c.toNat < 32 then none
    else do
      let (text, rest) ← scanString fuel rest
      some (c :: text, rest)

/-- A string and what follows it. -/
def parseString (text : List Char) : Option (String × List Char) :=
  match text with
  | '"' :: rest => (scanString text.length rest).map fun scan => (String.ofList scan.1, scan.2)
  | _ => none

/-! ## Values -/

/-- The integer that a text of digits with an optional minus sign stands for. -/
def integerOf : List Char → Int
  | '-' :: digits => -(digits.foldl (fun n c => 10 * n + (c.toNat - 48)) 0 : Nat)
  | digits => (digits.foldl (fun n c => 10 * n + (c.toNat - 48)) 0 : Nat)

/-- A number and what follows it. -/
def parseNumber (text : List Char) : Option (Number × List Char) := do
  let scan ← scanNumber text
  if leadingZero scan.whole then none
  else
    let float := String.ofList (scan.whole ++ scan.fraction)
    if h : isFloat float.toList = true then some (.float ⟨float, h⟩, scan.rest)
    else some (.integer (integerOf scan.whole), scan.rest)

/-- The members of an object with repeated keys merged. -/
def collectMembers (members : List (String × Value)) : List (String × Value) :=
  members.foldl (fun collected member => insertMember member.1 member.2 collected) []

/-- A text with this many brackets inside one another is refused. -/
def recursionLimit : Nat := 128

mutual

/-- A value and what follows it, with a bound on the brackets that may be opened in it. -/
def parseValue : Nat → Nat → List Char → Option (Value × List Char)
  | _, 0, _ => none
  | remaining, fuel + 1, text =>
    match skipSpace text with
    | 'n' :: 'u' :: 'l' :: 'l' :: rest => some (.null, rest)
    | 't' :: 'r' :: 'u' :: 'e' :: rest => some (.bool true, rest)
    | 'f' :: 'a' :: 'l' :: 's' :: 'e' :: rest => some (.bool false, rest)
    | '[' :: rest =>
      match remaining with
      | 0 => none
      | remaining + 1 =>
        match skipSpace rest with
        | ']' :: rest => some (.array [], rest)
        | rest => (parseItems remaining fuel rest).map fun items => (.array items.1, items.2)
    | '\x7b' :: rest =>
      match remaining with
      | 0 => none
      | remaining + 1 =>
        match skipSpace rest with
        | '\x7d' :: rest => some (.object [], rest)
        | rest => (parseMembers remaining fuel rest).map fun members =>
          (.object (collectMembers members.1), members.2)
    | '"' :: rest => (parseString ('"' :: rest)).map fun text => (.string text.1, text.2)
    | rest => (parseNumber rest).map fun number => (.number number.1, number.2)

/-- The items of an array up to its bracket. -/
def parseItems : Nat → Nat → List Char → Option (List Value × List Char)
  | _, 0, _ => none
  | remaining, fuel + 1, text =>
    match parseValue remaining fuel text with
    | none => none
    | some (item, rest) =>
      match skipSpace rest with
      | ',' :: rest => (parseItems remaining fuel rest).map fun items => (item :: items.1, items.2)
      | ']' :: rest => some ([item], rest)
      | _ => none

/-- The members of an object up to its brace. -/
def parseMembers : Nat → Nat → List Char → Option (List (String × Value) × List Char)
  | _, 0, _ => none
  | remaining, fuel + 1, text =>
    match parseString (skipSpace text) with
    | none => none
    | some (key, rest) =>
      match skipSpace rest with
      | ':' :: rest =>
        match parseValue remaining fuel rest with
        | none => none
        | some (value, rest) =>
          match skipSpace rest with
          | ',' :: rest => (parseMembers remaining fuel rest).map fun members =>
            ((key, value) :: members.1, members.2)
          | '\x7d' :: rest => some ([(key, value)], rest)
          | _ => none
      | _ => none

end

/-- The value of a text. -/
def parse (text : String) : Option Value :=
  match parseValue (recursionLimit - 1) (text.toList.length + 1) text.toList with
  | some (value, rest) => if (skipSpace rest).isEmpty then some value else none
  | none => none

end Serde
