import Fleetd.Serde.Size

/-!
# Indented printing

The printer that puts every member and every item on a line of its own, two spaces deeper than the
brackets around it. A text printed so is often quoted as a string of another value, where each line
break and each quote is escaped once more; the sizes here are those of the escaped text, as a sum
over the parts of the value.
-/

namespace Serde

/-! ## Printing -/

/-- The spaces at the front of a line. -/
def indent (depth : Nat) : String := String.ofList (List.replicate (2 * depth) ' ')

mutual

/-- The indented text of a value, inside some brackets. -/
def Value.printPretty : Nat → Value → String
  | _, .null => "null"
  | _, .bool value => if value then "true" else "false"
  | _, .number value => value.print
  | _, .string text => printString text
  | _, .array [] => "[]"
  | depth, .array (item :: items) =>
    "[\n" ++ indent (depth + 1) ++ item.printPretty (depth + 1) ++
      Value.prettyItems (depth + 1) items ++ "\n" ++ indent depth ++ "]"
  | _, .object [] => "\x7b\x7d"
  | depth, .object (member :: members) =>
    "\x7b\n" ++ indent (depth + 1) ++ Value.prettyMember (depth + 1) member ++
      Value.prettyMembers (depth + 1) members ++ "\n" ++ indent depth ++ "\x7d"

/-- The indented text of the items after the first. -/
def Value.prettyItems : Nat → List Value → String
  | _, [] => ""
  | depth, item :: items =>
    ",\n" ++ indent depth ++ item.printPretty depth ++ Value.prettyItems depth items

/-- The indented text of a member. -/
def Value.prettyMember : Nat → String × Value → String
  | depth, (key, value) => printString key ++ ": " ++ value.printPretty depth

/-- The indented text of the members after the first. -/
def Value.prettyMembers : Nat → List (String × Value) → String
  | _, [] => ""
  | depth, member :: members =>
    ",\n" ++ indent depth ++ Value.prettyMember depth member ++ Value.prettyMembers depth members

end

attribute [local simp] Value.printPretty Value.prettyItems Value.prettyMember Value.prettyMembers
attribute [local simp] Value.print Value.printItems Value.printMember Value.printMembers

/-! ## Sizes -/

/-- The bytes that the characters of a text take inside a string. -/
def escapedSize (text : String) : Nat := (text.toList.map charSize).sum

/-- The bytes that a printed string takes inside another string. -/
def quotedSize (text : String) : Nat :=
  (text.toList.map fun c => escapedSize (escapeChar c)).sum + 4

/-- The bytes that an indented value takes inside a string. -/
def Value.embeddedSize (depth : Nat) (value : Value) : Nat := escapedSize (value.printPretty depth)

/-- The bytes that an indented member takes inside a string. -/
def embeddedMemberSize (depth : Nat) (member : String × Value) : Nat :=
  quotedSize member.1 + 2 + member.2.embeddedSize depth

theorem stringSize_eq_escapedSize (text : String) : stringSize text = escapedSize text + 2 :=
  stringSize_eq text

/-- A literal of plain characters takes one byte for each. -/
theorem escapedSize_literal {text : String} {chars : List Char} (h : text = String.ofList chars)
    (hplain : chars.all isPlain = true) : escapedSize text = chars.length := by
  rw [escapedSize, toList_literal h, List.map_congr_left fun c hc =>
    charSize_plain (List.all_eq_true.1 hplain c hc), List.map_const', List.sum_replicate_nat,
    Nat.mul_one]

@[simp] theorem escapedSize_append (text rest : String) :
    escapedSize (text ++ rest) = escapedSize text + escapedSize rest := by
  rw [escapedSize, String.toList_append, List.map_append, List.sum_append]
  rfl

theorem escapedSize_append_of {text rest : String} {m n : Nat} (h : escapedSize text = m)
    (hrest : escapedSize rest = n) : escapedSize (text ++ rest) = m + n := by
  rw [escapedSize_append, h, hrest]

/-- A space takes one byte. -/
@[simp] theorem escapedSize_indent (depth : Nat) : escapedSize (indent depth) = 2 * depth := by
  have hspace : charSize ' ' = 1 := by decide
  rw [escapedSize, indent, String.toList_ofList, List.map_replicate, hspace]
  simp

theorem escapedSize_escape (text : List Char) :
    escapedSize (escape text) = (text.map fun c => escapedSize (escapeChar c)).sum := by
  induction text with
  | nil => rfl
  | cons c text ih => rw [escape, escapedSize_append, ih, List.map_cons, List.sum_cons]

/-- The quotes of a string take two bytes each. -/
@[simp] theorem escapedSize_printString (text : String) :
    escapedSize (printString text) = quotedSize text := by
  have hquote : escapedSize "\"" = 2 := by decide
  rw [printString, escapedSize_append, escapedSize_append, escapedSize_escape, hquote, quotedSize]
  omega

/-- Quoting does not make a text shorter. -/
theorem le_escapedSize (text : String) : text.utf8ByteSize ≤ escapedSize text := by
  have hsize := le_stringSize text
  rw [stringSize_eq_escapedSize] at hsize
  omega

theorem le_quotedSize (text : String) : text.utf8ByteSize + 4 ≤ quotedSize text := by
  rw [quotedSize, Nat.add_le_add_iff_right]
  conv_lhs => rw [← String.ofList_toList (s := text), utf8ByteSize_ofList]
  refine List.sum_le_sum fun c _ => ?_
  exact (charSize_bounds c).1.trans (le_escapedSize (escapeChar c))

/-- What is not escaped takes its own bytes. -/
theorem escapedSize_of_plain {text : String} (h : ∀ c ∈ text.toList, charSize c = c.utf8Size) :
    escapedSize text = text.utf8ByteSize := by
  rw [escapedSize, List.map_congr_left h]
  conv_rhs => rw [← String.ofList_toList (s := text), utf8ByteSize_ofList]

theorem embeddedSize_null (depth : Nat) : Value.null.embeddedSize depth = 4 := by
  rw [Value.embeddedSize, Value.printPretty]
  decide

theorem embeddedSize_bool (depth : Nat) (value : Bool) :
    (Value.bool value).embeddedSize depth = if value = true then 4 else 5 := by
  rw [Value.embeddedSize, Value.printPretty]
  cases value <;> decide

theorem embeddedSize_number (depth : Nat) (value : Number) :
    (Value.number value).embeddedSize depth = escapedSize value.print := by
  rw [Value.embeddedSize, Value.printPretty]

theorem embeddedSize_string (depth : Nat) (text : String) :
    (Value.string text).embeddedSize depth = quotedSize text := by
  rw [Value.embeddedSize, Value.printPretty, escapedSize_printString]

theorem escapedSize_prettyMember (depth : Nat) (member : String × Value) :
    escapedSize (Value.prettyMember depth member) = embeddedMemberSize depth member := by
  obtain ⟨key, value⟩ := member
  have hcolon : escapedSize ": " = 2 := by decide
  rw [Value.prettyMember, escapedSize_append, escapedSize_append, escapedSize_printString, hcolon]
  rfl

theorem escapedSize_prettyItems (depth : Nat) (items : List Value) :
    escapedSize (Value.prettyItems depth items) =
      (items.map fun item => item.embeddedSize depth + 2 * depth + 3).sum := by
  induction items with
  | nil =>
    rw [Value.prettyItems]
    rfl
  | cons item items ih =>
    have hcomma : escapedSize ",\n" = 3 := by decide
    rw [Value.prettyItems, escapedSize_append, escapedSize_append, escapedSize_append, ih, hcomma,
      escapedSize_indent, List.map_cons, List.sum_cons, ← Value.embeddedSize]
    omega

theorem escapedSize_prettyMembers (depth : Nat) (members : List (String × Value)) :
    escapedSize (Value.prettyMembers depth members) =
      (members.map fun member => embeddedMemberSize depth member + 2 * depth + 3).sum := by
  induction members with
  | nil =>
    rw [Value.prettyMembers]
    rfl
  | cons member members ih =>
    have hcomma : escapedSize ",\n" = 3 := by decide
    rw [Value.prettyMembers, escapedSize_append, escapedSize_append, escapedSize_append, ih, hcomma,
      escapedSize_indent, escapedSize_prettyMember, List.map_cons, List.sum_cons]
    omega

/-- An indented array costs its brackets and, for each item, a line. -/
theorem embeddedSize_array (depth : Nat) (items : List Value) :
    (Value.array items).embeddedSize depth =
      (items.map fun item => item.embeddedSize (depth + 1) + 2 * depth + 5).sum +
        if items = [] then 2 else 2 * depth + 3 := by
  cases items with
  | nil =>
    rw [Value.embeddedSize, Value.printPretty, if_pos rfl, List.map_nil, List.sum_nil]
    decide
  | cons item items =>
    have hopen : escapedSize "[\n" = 3 := by decide
    have hclose : escapedSize "]" = 1 := by decide
    have hbreak : escapedSize "\n" = 2 := by decide
    have hitems := escapedSize_prettyItems (depth + 1) items
    rw [show (fun item : Value => item.embeddedSize (depth + 1) + 2 * (depth + 1) + 3) =
      fun item => item.embeddedSize (depth + 1) + 2 * depth + 5 by funext item; omega] at hitems
    rw [Value.embeddedSize, Value.printPretty]
    have hitem : escapedSize (item.printPretty (depth + 1)) = item.embeddedSize (depth + 1) := rfl
    simp only [escapedSize_append, escapedSize_indent, hopen, hclose, hbreak, hitems, hitem,
      List.map_cons, List.sum_cons, if_neg (List.cons_ne_nil _ _)]
    omega

/-- An indented object costs its braces and, for each member, a line. -/
theorem embeddedSize_object (depth : Nat) (members : List (String × Value)) :
    (Value.object members).embeddedSize depth =
      (members.map fun member => embeddedMemberSize (depth + 1) member + 2 * depth + 5).sum +
        if members = [] then 2 else 2 * depth + 3 := by
  cases members with
  | nil =>
    rw [Value.embeddedSize, Value.printPretty, if_pos rfl, List.map_nil, List.sum_nil]
    decide
  | cons member members =>
    have hopen : escapedSize "\x7b\n" = 3 := by decide
    have hclose : escapedSize "\x7d" = 1 := by decide
    have hbreak : escapedSize "\n" = 2 := by decide
    have hmembers := escapedSize_prettyMembers (depth + 1) members
    rw [show (fun member : String × Value => embeddedMemberSize (depth + 1) member + 2 * (depth + 1) + 3) =
      fun member => embeddedMemberSize (depth + 1) member + 2 * depth + 5 by
        funext member; omega] at hmembers
    rw [Value.embeddedSize, Value.printPretty]
    simp only [escapedSize_append, escapedSize_indent, hopen, hclose, hbreak, hmembers,
      escapedSize_prettyMember, List.map_cons, List.sum_cons, if_neg (List.cons_ne_nil _ _)]
    omega

/-- A digit takes its own byte. -/
theorem charSize_of_isDigit {c : Char} (h : c.isDigit = true) : charSize c = c.utf8Size := by
  unfold charSize escapeChar
  split
  case h_8 =>
    have hprintable : ¬ c.toNat < 32 := by
      rw [Char.isDigit, Bool.and_eq_true, decide_eq_true_eq] at h
      have hlower : 48 ≤ c.toNat := UInt32.le_iff_toNat_le.1 h.1
      omega
    rw [if_neg hprintable, String.utf8ByteSize_singleton]
  all_goals exact absurd h (by decide)

/-- A number costs what it costs alone. -/
theorem embeddedSize_nat (depth n : Nat) : (Value.nat n).embeddedSize depth = (Value.nat n).size := by
  rw [Value.nat, embeddedSize_number, Number.print]
  refine escapedSize_of_plain fun c hc => charSize_of_isDigit ?_
  rw [show toString (n : Int) = n.repr from rfl, Nat.repr_eq_ofList_toDigits,
    String.toList_ofList] at hc
  exact Nat.isDigit_of_mem_toDigits (by decide) (by decide) hc

/-- A sign does not need to be escaped either. -/
theorem embeddedSize_int (depth : Nat) (i : Int) :
    (Value.int i).embeddedSize depth = (Value.int i).size := by
  cases i with
  | ofNat n => exact embeddedSize_nat depth n
  | negSucc n =>
    have hminus : escapedSize "-" = "-".utf8ByteSize := by decide
    have hdigits := embeddedSize_nat depth (n + 1)
    rw [Value.nat, embeddedSize_number] at hdigits
    rw [Value.int, embeddedSize_number]
    calc escapedSize ("-" ++ (n + 1).repr)
      _ = "-".utf8ByteSize + (n + 1).repr.utf8ByteSize := by
        rw [escapedSize_append, hminus]
        exact congrArg ("-".utf8ByteSize + ·) hdigits
      _ = ("-" ++ (n + 1).repr).utf8ByteSize := String.utf8ByteSize_append.symm

end Serde
