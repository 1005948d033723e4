import Mathlib.Algebra.BigOperators.Ring.List
import Mathlib.Algebra.Order.BigOperators.Group.List
import Mathlib.Algebra.Order.Ring.Nat
import Mathlib.Data.Nat.Digits.Defs
import Fleetd.Serde.Value

/-!
# Sizes of printed values

The number of bytes that a value is printed in, as a sum over its parts. A string costs its quotes
and its characters, and a character that is escaped costs up to six bytes instead of one.
-/

namespace Serde

/-- The bytes that a character of a string is printed in. -/
def charSize (c : Char) : Nat := (escapeChar c).utf8ByteSize

/-- The bytes that a string is printed in. -/
def stringSize (text : String) : Nat := (printString text).utf8ByteSize

/-- The bytes that a value is printed in. -/
def Value.size (value : Value) : Nat := value.print.utf8ByteSize

/-- The bytes that a member is printed in. -/
def memberSize (member : String × Value) : Nat := stringSize member.1 + 1 + member.2.size

/-! ## Strings -/

theorem utf8Size_hexDigit (n : Nat) : (hexDigit n).utf8Size = 1 := by
  have hall : ('0' :: "0123456789abcdef".toList).all (·.utf8Size = 1) = true := by decide
  suffices hmem : hexDigit n ∈ '0' :: "0123456789abcdef".toList from
    of_decide_eq_true (List.all_eq_true.mp hall _ hmem)
  rw [hexDigit, List.getD_eq_getElem?_getD]
  cases h : "0123456789abcdef".toList[n]? with
  | none => exact List.mem_cons_self
  | some c => exact List.mem_cons_of_mem _ (List.mem_of_getElem? h)

/-- An escaped control character takes six bytes, and every other character takes its own. -/
theorem charSize_bounds (c : Char) : c.utf8Size ≤ charSize c ∧ charSize c ≤ 6 * c.utf8Size := by
  have hpos : 0 < c.utf8Size := Char.utf8Size_pos c
  unfold charSize escapeChar
  split
  any_goals decide
  split
  · rename_i hcontrol
    have hsize : c.utf8Size = 1 := by
      rw [Char.utf8Size_eq_one_iff, UInt32.le_iff_toNat_le]
      exact Nat.le_trans (Nat.le_of_lt hcontrol) (by decide)
    have hleads : "\\u00".utf8ByteSize = 4 := by decide
    simp only [String.utf8ByteSize_append, String.utf8ByteSize_singleton, utf8Size_hexDigit, hleads,
      hsize]
    omega
  · rw [String.utf8ByteSize_singleton]
    omega

/-- The characters of a literal are those it is written with. -/
theorem toList_literal {text : String} {chars : List Char} (h : text = String.ofList chars) :
    text.toList = chars := by
  rw [h, String.toList_ofList]

/-- A character that is printed as it is, in one byte. -/
def isPlain (c : Char) : Bool := 32 ≤ c.toNat && c.toNat < 128 && c != '"' && c != '\\'

theorem charSize_plain {c : Char} (h : isPlain c = true) : charSize c = 1 := by
  simp only [isPlain, Bool.and_eq_true, decide_eq_true_eq, bne_iff_ne] at h
  obtain ⟨⟨⟨hprinted, hascii⟩, hquote⟩, hbackslash⟩ := h
  have hsize : c.utf8Size = 1 := by
    rw [Char.utf8Size_eq_one_iff, UInt32.le_iff_toNat_le]
    exact Nat.le_of_lt_succ hascii
  unfold charSize escapeChar
  split
  all_goals first
    | contradiction
    | exact absurd hprinted (by decide)
    | rw [if_neg (Nat.not_lt.2 hprinted), String.utf8ByteSize_singleton, hsize]

theorem utf8ByteSize_escape (text : List Char) :
    (escape text).utf8ByteSize = (text.map charSize).sum := by
  induction text with
  | nil => rfl
  | cons c text ih => rw [escape, String.utf8ByteSize_append, ih, List.map_cons, List.sum_cons, charSize]

/-- A string costs its quotes and its characters. -/
theorem stringSize_eq (text : String) : stringSize text = (text.toList.map charSize).sum + 2 := by
  have hquote : "\"".utf8ByteSize = 1 := by decide
  rw [stringSize, printString, String.utf8ByteSize_append, String.utf8ByteSize_append,
    utf8ByteSize_escape, hquote]
  omega

/-- The bytes of a text are those of its characters. -/
theorem utf8ByteSize_ofList (text : List Char) :
    (String.ofList text).utf8ByteSize = (text.map Char.utf8Size).sum := by
  induction text with
  | nil => rfl
  | cons c text ih =>
    rw [String.ofList_cons, String.utf8ByteSize_append, String.utf8ByteSize_singleton, ih,
      List.map_cons, List.sum_cons]

/-- Printing does not make a string shorter. -/
theorem le_stringSize (text : String) : text.utf8ByteSize + 2 ≤ stringSize text := by
  rw [stringSize_eq, Nat.add_le_add_iff_right]
  conv_lhs => rw [← String.ofList_toList (s := text), utf8ByteSize_ofList]
  exact List.sum_le_sum fun c _ => (charSize_bounds c).1

/-- Printing makes a string at most six times as long. -/
theorem stringSize_le (text : String) : stringSize text ≤ 6 * text.utf8ByteSize + 2 := by
  rw [stringSize_eq, Nat.add_le_add_iff_right]
  conv_rhs => rw [← String.ofList_toList (s := text), utf8ByteSize_ofList]
  rw [← List.sum_map_mul_left]
  exact List.sum_le_sum fun c _ => (charSize_bounds c).2

/-! ## Values -/

theorem size_null : Value.null.size = 4 := by decide

theorem size_bool (value : Bool) : (Value.bool value).size = if value = true then 4 else 5 := by
  cases value <;> decide

theorem size_string (text : String) : (Value.string text).size = stringSize text := by
  rw [Value.size, Value.print, stringSize]

theorem utf8ByteSize_printMember (member : String × Value) :
    (Value.printMember member).utf8ByteSize = memberSize member := by
  obtain ⟨key, value⟩ := member
  have hcolon : ":".utf8ByteSize = 1 := by decide
  rw [Value.printMember, String.utf8ByteSize_append, String.utf8ByteSize_append, hcolon]
  rfl

theorem utf8ByteSize_printMembers (members : List (String × Value)) :
    (Value.printMembers members).utf8ByteSize = (members.map fun member => memberSize member + 1).sum := by
  induction members with
  | nil =>
    rw [Value.printMembers]
    rfl
  | cons member members ih =>
    have hcomma : ",".utf8ByteSize = 1 := by decide
    rw [Value.printMembers, String.utf8ByteSize_append, String.utf8ByteSize_append, ih, hcomma,
      utf8ByteSize_printMember, List.map_cons, List.sum_cons]
    omega

theorem utf8ByteSize_printItems (items : List Value) :
    (Value.printItems items).utf8ByteSize = (items.map fun item => item.size + 1).sum := by
  induction items with
  | nil =>
    rw [Value.printItems]
    rfl
  | cons item items ih =>
    have hcomma : ",".utf8ByteSize = 1 := by decide
    rw [Value.printItems, String.utf8ByteSize_append, String.utf8ByteSize_append, ih, hcomma,
      List.map_cons, List.sum_cons, ← Value.size]
    omega

/-- An object costs its braces, its members and the commas between them. -/
theorem size_object (members : List (String × Value)) :
    (Value.object members).size = (members.map fun member => memberSize member + 1).sum + 2 -
      (if members = [] then 0 else 1) := by
  have hopen : "\x7b".utf8ByteSize = 1 := by decide
  have hclose : "\x7d".utf8ByteSize = 1 := by decide
  cases members with
  | nil => decide
  | cons member members =>
    rw [Value.size, Value.print, String.utf8ByteSize_append, String.utf8ByteSize_append,
      String.utf8ByteSize_append, hopen, hclose, utf8ByteSize_printMember, utf8ByteSize_printMembers,
      List.map_cons, List.sum_cons, if_neg (List.cons_ne_nil _ _)]
    omega

/-- An array costs its brackets, its items and the commas between them. -/
theorem size_array (items : List Value) :
    (Value.array items).size = (items.map fun item => item.size + 1).sum + 2 -
      (if items = [] then 0 else 1) := by
  have hopen : "[".utf8ByteSize = 1 := by decide
  have hclose : "]".utf8ByteSize = 1 := by decide
  cases items with
  | nil => decide
  | cons item items =>
    rw [Value.size, Value.print, String.utf8ByteSize_append, String.utf8ByteSize_append,
      String.utf8ByteSize_append, hopen, hclose, utf8ByteSize_printItems, List.map_cons,
      List.sum_cons, if_neg (List.cons_ne_nil _ _), ← Value.size]
    omega

/-- An object is longer than the values of its members. -/
theorem size_lt_size_object {key : String} {value : Value} {members : List (String × Value)}
    (h : (key, value) ∈ members) : value.size < (Value.object members).size := by
  have hsum := List.le_sum_of_mem (List.mem_map_of_mem (f := fun member => memberSize member + 1) h)
  rw [size_object, if_neg (List.ne_nil_of_mem h)]
  rw [memberSize] at hsum
  dsimp only at hsum
  omega

/-! ## Numbers -/

/-- A decimal digit takes one byte. -/
theorem utf8Size_of_isDigit {c : Char} (h : c.isDigit = true) : c.utf8Size = 1 := by
  rw [Char.isDigit, Bool.and_eq_true, decide_eq_true_eq, decide_eq_true_eq] at h
  rw [Char.utf8Size_eq_one_iff]
  exact UInt32.le_trans h.2 (by decide)

/-- A natural number costs its digits. -/
theorem utf8ByteSize_repr (n : Nat) : n.repr.utf8ByteSize = (Nat.toDigits 10 n).length := by
  rw [Nat.repr_eq_ofList_toDigits, utf8ByteSize_ofList, List.map_congr_left fun c hc =>
    utf8Size_of_isDigit (Nat.isDigit_of_mem_toDigits (by decide) (by decide) hc)]
  simp

theorem size_nat (n : Nat) : (Value.nat n).size = n.repr.utf8ByteSize := rfl

/-- A natural number below a power of ten has as many digits at most. -/
theorem size_nat_le {n digits : Nat} (h : n < 10 ^ digits) (hpos : 0 < digits) :
    (Value.nat n).size ≤ digits := by
  rw [size_nat, utf8ByteSize_repr]
  exact Nat.toDigits_length 10 n digits hpos h

/-- An integer may have a sign besides. -/
theorem size_int_le {i : Int} {digits : Nat} (h : i.natAbs < 10 ^ digits) (hpos : 0 < digits) :
    (Value.int i).size ≤ digits + 1 := by
  cases i with
  | ofNat n => exact Nat.le_succ_of_le (size_nat_le h hpos)
  | negSucc n =>
    have hsize : (Value.int (Int.negSucc n)).size = 1 + (n + 1).repr.utf8ByteSize := by
      have hminus : "-".utf8ByteSize = 1 := by decide
      rw [← hminus, ← String.utf8ByteSize_append]
      rfl
    have hdigits := Nat.toDigits_length 10 (n + 1) digits hpos h
    rw [hsize, utf8ByteSize_repr]
    omega

end Serde
