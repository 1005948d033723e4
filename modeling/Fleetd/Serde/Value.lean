import Mathlib.Algebra.Group.Int.Defs
import Mathlib.Algebra.Group.Nat.Defs
import Mathlib.Data.List.Basic

/-!
# JSON values

A value is a tree of the six JSON kinds. An object keeps its members in the order in which they
were inserted. Values are printed without any space, as the compact printer of a JSON library
does, and the text is what sizes and digests are taken of.
-/

namespace Serde

/-! ## Numbers -/

/-- The decimal digits at the front of a text, and what follows them. -/
def scanDigits (text : List Char) : List Char × List Char :=
  (text.takeWhile Char.isDigit, text.dropWhile Char.isDigit)

/-- A sign in front of an exponent. -/
def scanSign : List Char → List Char × List Char
  | '+' :: rest => (['+'], rest)
  | '-' :: rest => (['-'], rest)
  | rest => ([], rest)

/-- The minus sign in front of a number. -/
def scanMinus : List Char → List Char × List Char
  | '-' :: rest => (['-'], rest)
  | rest => ([], rest)

/-- A decimal point and at least one digit. -/
def scanFraction : List Char → List Char × List Char
  | '.' :: rest =>
    match scanDigits rest with
    | ([], _) => ([], '.' :: rest)
    | (digits, rest) => ('.' :: digits, rest)
  | rest => ([], rest)

/-- An exponent mark, a sign and at least one digit. -/
def scanExponent : List Char → List Char × List Char
  | mark :: rest =>
    if mark = 'e' ∨ mark = 'E' then
      let (sign, afterSign) := scanSign rest
      match scanDigits afterSign with
      | ([], _) => ([], mark :: rest)
      | (digits, rest) => (mark :: (sign ++ digits), rest)
    else ([], mark :: rest)
  | [] => ([], [])

/-- The parts of a number at the front of a text: its integer part and the part that makes it a
floating-point number. -/
structure NumberScan where
  whole : List Char
  fraction : List Char
  rest : List Char
  deriving DecidableEq, Repr

/-- The number at the front of a text. -/
def scanNumber (text : List Char) : Option NumberScan :=
  let (minus, afterMinus) := scanMinus text
  match scanDigits afterMinus with
  | ([], _) => none
  | (digits, afterDigits) =>
    let (fraction, afterFraction) := scanFraction afterDigits
    let (exponent, rest) := scanExponent afterFraction
    some ⟨minus ++ digits, fraction ++ exponent, rest⟩

/-- A number has no leading zero. -/
def leadingZero : List Char → Bool
  | '-' :: '0' :: _ :: _ => true
  | '0' :: _ :: _ => true
  | _ => false

/-- Whether a text is a floating-point number and nothing else. -/
def isFloat (text : List Char) : Bool :=
  match scanNumber text with
  | some scan => !leadingZero scan.whole && !scan.fraction.isEmpty && scan.rest.isEmpty
  | none => false

/-- The printed text of a floating-point number. -/
structure FloatLiteral where
  text : String
  valid : isFloat text.toList = true
  deriving DecidableEq, Repr

/-- A number is an integer, or a floating-point number that is kept as its text. -/
inductive Number
  | integer (value : Int)
  | float (literal : FloatLiteral)
  deriving DecidableEq, Repr

/-- The printed text of a number. -/
def Number.print : Number → String
  | .integer value => toString value
  | .float literal => literal.text

/-! ## Values -/

/-- A JSON value. -/
inductive Value
  | null
  | bool (value : Bool)
  | number (value : Number)
  | string (value : String)
  | array (items : List Value)
  | object (members : List (String × Value))
  deriving Repr

mutual

/-- Whether two values are the same. -/
def Value.same : Value → Value → Bool
  | .null, .null => true
  | .bool a, .bool b => decide (a = b)
  | .number a, .number b => decide (a = b)
  | .string a, .string b => decide (a = b)
  | .array a, .array b => Value.sameItems a b
  | .object a, .object b => Value.sameMembers a b
  | _, _ => false

/-- Whether two lists of values are the same. -/
def Value.sameItems : List Value → List Value → Bool
  | [], [] => true
  | a :: as, b :: bs => a.same b && Value.sameItems as bs
  | _, _ => false

/-- Whether two lists of members are the same. -/
def Value.sameMembers : List (String × Value) → List (String × Value) → Bool
  | [], [] => true
  | a :: as, b :: bs => Value.sameMember a b && Value.sameMembers as bs
  | _, _ => false

/-- Whether two members are the same. -/
def Value.sameMember : String × Value → String × Value → Bool
  | (key, a), (other, b) => decide (key = other) && a.same b

end

mutual

/-- The comparison of values decides their equality. -/
theorem Value.same_iff : (a b : Value) → (a.same b = true ↔ a = b)
  | .null, b => by cases b <;> simp [Value.same]
  | .bool _, b => by cases b <;> simp [Value.same]
  | .number _, b => by cases b <;> simp [Value.same]
  | .string _, b => by cases b <;> simp [Value.same]
  | .array items, b => by
    cases b with
    | array others => simp [Value.same, Value.sameItems_iff items others]
    | _ => simp [Value.same]
  | .object members, b => by
    cases b with
    | object others => simp [Value.same, Value.sameMembers_iff members others]
    | _ => simp [Value.same]

/-- The comparison of lists of values decides their equality. -/
theorem Value.sameItems_iff : (as bs : List Value) → (Value.sameItems as bs = true ↔ as = bs)
  | [], bs => by cases bs <;> simp [Value.sameItems]
  | a :: as, bs => by
    cases bs with
    | nil => simp [Value.sameItems]
    | cons b bs => simp [Value.sameItems, Value.same_iff a b, Value.sameItems_iff as bs]

/-- The comparison of lists of members decides their equality. -/
theorem Value.sameMembers_iff : (as bs : List (String × Value)) →
    (Value.sameMembers as bs = true ↔ as = bs)
  | [], bs => by cases bs <;> simp [Value.sameMembers]
  | a :: as, bs => by
    cases bs with
    | nil => simp [Value.sameMembers]
    | cons b bs =>
      simp [Value.sameMembers, Value.sameMember_iff a b, Value.sameMembers_iff as bs]

/-- The comparison of members decides their equality. -/
theorem Value.sameMember_iff : (a b : String × Value) → (Value.sameMember a b = true ↔ a = b)
  | (key, a), (other, b) => by simp [Value.sameMember, Value.same_iff a b]

end

instance : DecidableEq Value := fun a b => decidable_of_iff (a.same b = true) (a.same_iff b)

/-- A natural number as a value. -/
def Value.nat (n : Nat) : Value := .number (.integer n)

/-- An integer as a value. -/
def Value.int (i : Int) : Value := .number (.integer i)

/-- A text that may be missing, as a value. -/
def Value.optional : Option String → Value
  | some text => .string text
  | none => .null

/-- The member of an object under a key. -/
def Value.get (key : String) : Value → Option Value
  | .object members => (members.find? fun member => member.1 = key).map (·.2)
  | _ => none

/-- The text of a string. -/
def Value.asStr : Value → Option String
  | .string text => some text
  | _ => none

/-- The items of an array. -/
def Value.asArray : Value → Option (List Value)
  | .array items => some items
  | _ => none

/-- An unsigned 64-bit number. -/
def Value.asU64 : Value → Option Nat
  | .number (.integer value) => if 0 ≤ value ∧ value < 2 ^ 64 then some value.toNat else none
  | _ => none

/-- A signed 64-bit number. -/
def Value.asI64 : Value → Option Int
  | .number (.integer value) => if -(2 ^ 63) ≤ value ∧ value < 2 ^ 63 then some value else none
  | _ => none

/-- The text under a key. -/
def Value.getStr (key : String) (value : Value) : Option String :=
  (value.get key).bind Value.asStr

/-- Sets a key, in place if it is there and at the end otherwise. -/
def insertMember (key : String) (value : Value) : List (String × Value) → List (String × Value)
  | [] => [(key, value)]
  | (other, old) :: rest =>
    if other = key then (key, value) :: rest else (other, old) :: insertMember key value rest

/-- An object with a key set; other kinds of values are left alone. -/
def Value.insert (target : Value) (key : String) (value : Value) : Value :=
  match target with
  | .object members => .object (insertMember key value members)
  | other => other

/-! ## Printing -/

/-- One hexadecimal digit. -/
def hexDigit (n : Nat) : Char := "0123456789abcdef".toList.getD n '0'

/-- The printed text of one character of a string. -/
def escapeChar (c : Char) : String :=
  match c with
  | '"' => "\\\""
  | '\\' => "\\\\"
  | '\x08' => "\\b"
  | '\x0c' => "\\f"
  | '\n' => "\\n"
  | '\r' => "\\r"
  | '\t' => "\\t"
  | _ =>
    if c.toNat < 32 then
      "\\u00" ++ String.singleton (hexDigit (c.toNat / 16)) ++ String.singleton (hexDigit (c.toNat % 16))
    else String.singleton c

/-- The printed text of some characters of a string. -/
def escape : List Char → String
  | [] => ""
  | c :: cs => escapeChar c ++ escape cs

/-- The printed text of a string. -/
def printString (text : String) : String := "\"" ++ escape text.toList ++ "\""

mutual

/-- The printed text of a value. -/
def Value.print : Value → String
  | .null => "null"
  | .bool value => if value then "true" else "false"
  | .number value => value.print
  | .string text => printString text
  | .array [] => "[]"
  | .array (item :: items) => "[" ++ item.print ++ Value.printItems items ++ "]"
  | .object [] => "\x7b\x7d"
  | .object (member :: members) =>
    "\x7b" ++ Value.printMember member ++ Value.printMembers members ++ "\x7d"

/-- The printed text of the items after the first. -/
def Value.printItems : List Value → String
  | [] => ""
  | item :: items => "," ++ item.print ++ Value.printItems items

/-- The printed text of a member. -/
def Value.printMember : String × Value → String
  | (key, value) => printString key ++ ":" ++ value.print

/-- The printed text of the members after the first. -/
def Value.printMembers : List (String × Value) → String
  | [] => ""
  | member :: members => "," ++ Value.printMember member ++ Value.printMembers members

end

end Serde
