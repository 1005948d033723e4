import Mathlib.Data.List.Sort
import Mathlib.Data.String.Basic

/-!
# Statements with parameters

A query over one table: a conjunction of terms, an order and a limit. A question mark stands for a
parameter, and parameters are taken in the order in which the text asks for them. What a statement
means is said of its terms, and its text is their rendering.
-/

namespace Fleetd.Relational

/-- A value of a column or of a parameter. -/
inductive SqlValue
  | integer (value : Int)
  | text (value : String)
  deriving DecidableEq, Repr

/-- Numbers come before texts. -/
def SqlValue.less : SqlValue → SqlValue → Bool
  | .integer a, .integer b => decide (a < b)
  | .integer _, .text _ => true
  | .text _, .integer _ => false
  | .text a, .text b => decide (a < b)

/-- The columns of one row; a column may be null. -/
abbrev Cells := String → Option SqlValue

/-- Null comes before every value. -/
def cellLess : Option SqlValue → Option SqlValue → Bool
  | none, none => false
  | none, some _ => true
  | some _, none => false
  | some a, some b => a.less b

inductive Direction
  | asc
  | desc
  deriving DecidableEq, Repr

/-- One value lies behind another in the direction. -/
def Direction.past (direction : Direction) (a b : SqlValue) : Bool :=
  match direction with
  | .asc => b.less a
  | .desc => a.less b

/-- One column comes before another in the direction. -/
def Direction.before (direction : Direction) (a b : Option SqlValue) : Bool :=
  match direction with
  | .asc => cellLess a b
  | .desc => cellLess b a

/-- A term of a conjunction. -/
inductive Term
  | always
  | equals (column : String)
  | equalsText (column text : String)
  | isNotNull (column : String)
  | past (direction : Direction) (first second : String)
  deriving DecidableEq, Repr

/-- A statement that reads rows. Its last parameter is the limit. -/
structure Select where
  source : String
  terms : List Term
  order : List (String × Direction)
  deriving DecidableEq, Repr

/-! ## Text -/

/-- The sign that compares with values that lie behind. -/
def Direction.comparison : Direction → String
  | .asc => ">"
  | .desc => "<"

def Direction.keyword : Direction → String
  | .asc => "ASC"
  | .desc => "DESC"

def Term.toSql : Term → String
  | .always => "1 = 1"
  | .equals column => column ++ " = ?"
  | .equalsText column text => column ++ " = '" ++ text ++ "'"
  | .isNotNull column => column ++ " IS NOT NULL"
  | .past direction first second =>
    "(" ++ first ++ ", " ++ second ++ ") " ++ direction.comparison ++ " (?, ?)"

/-- Texts with a separator between them. -/
def joinWith (separator : String) : List String → String
  | [] => ""
  | [text] => text
  | text :: rest => text ++ separator ++ joinWith separator rest

def Select.toSql (select : Select) : String :=
  select.source ++ " WHERE " ++ joinWith " AND " (select.terms.map Term.toSql) ++ " ORDER BY " ++
    joinWith ", " (select.order.map fun term => term.1 ++ " " ++ term.2.keyword) ++ " LIMIT ?"

/-! ## Meaning -/

/-- Two columns lie behind two values, the first column first. Null lies behind nothing. -/
def rowPast (direction : Direction) (first second : Option SqlValue) (p q : SqlValue) : Bool :=
  match first with
  | none => false
  | some a => direction.past a p || (decide (a = p) && second.any fun b => direction.past b q)

/-- The condition that a term puts on a row, with the parameters that are left. -/
def Term.bind : Term → List SqlValue → Option ((Cells → Bool) × List SqlValue)
  | .always, parameters => some (fun _ => true, parameters)
  | .equals column, p :: parameters => some (fun cells => decide (cells column = some p), parameters)
  | .equalsText column text, parameters =>
    some (fun cells => decide (cells column = some (.text text)), parameters)
  | .isNotNull column, parameters => some (fun cells => (cells column).isSome, parameters)
  | .past direction first second, p :: q :: parameters =>
    some (fun cells => rowPast direction (cells first) (cells second) p q, parameters)
  | _, _ => none

/-- The condition of a conjunction, with the parameters that are left. -/
def bindTerms : List Term → List SqlValue → Option ((Cells → Bool) × List SqlValue)
  | [], parameters => some (fun _ => true, parameters)
  | term :: rest, parameters =>
    (term.bind parameters).bind fun bound => (bindTerms rest bound.2).map fun others =>
      (fun cells => bound.1 cells && others.1 cells, others.2)

/-- One row comes before another in an order. -/
def ordered : List (String × Direction) → Cells → Cells → Bool
  | [], _, _ => false
  | (column, direction) :: rest, a, b =>
    direction.before (a column) (b column) || (decide (a column = b column) && ordered rest a b)

/-- At most so many rows; a negative limit is none. -/
def limitTo {α : Type} (limit : Int) (rows : List α) : List α :=
  if limit < 0 then rows else rows.take limit.toNat

/-- The rows that a statement reads, if its parameters are those that its text asks for. -/
def Select.rows {α : Type} (select : Select) (cells : α → Cells) (parameters : List SqlValue)
    (table : List α) : Option (List α) :=
  match bindTerms select.terms parameters with
  | some (keeps, [.integer limit]) =>
    some (limitTo limit ((table.filter fun row => keeps (cells row)).insertionSort
      fun a b => ¬ordered select.order (cells b) (cells a) = true))
  | _ => none

/-- The terms of a conjunction are bound one after the other. -/
theorem bindTerms_append (terms others : List Term) (parameters : List SqlValue) :
    bindTerms (terms ++ others) parameters =
      (bindTerms terms parameters).bind fun bound => (bindTerms others bound.2).map fun rest =>
        (fun cells => bound.1 cells && rest.1 cells, rest.2) := by
  induction terms generalizing parameters with
  | nil => simp [bindTerms]
  | cons term terms ih =>
    rw [List.cons_append, bindTerms, bindTerms]
    cases term.bind parameters with
    | none => rfl
    | some bound =>
      rw [Option.bind_some, Option.bind_some, ih]
      cases bindTerms terms bound.2 with
      | none => rfl
      | some rest =>
        rw [Option.bind_some, Option.map_some, Option.bind_some]
        cases bindTerms others rest.2 with
        | none => rfl
        | some last => simp [Bool.and_assoc]

/-- Terms that take some parameters and leave the rest put a condition on the rows of a table. -/
def Binds {α : Type} (cells : α → Cells) (terms : List Term) (parameters rest : List SqlValue)
    (keeps : α → Bool) : Prop :=
  ∃ bound, bindTerms terms parameters = some (bound, rest) ∧ ∀ row, bound (cells row) = keeps row

section
variable {α : Type} {cells : α → Cells} {terms others : List Term}
  {parameters rest left : List SqlValue} {keeps keeps' : α → Bool}

theorem Binds.nil : Binds cells [] parameters parameters fun _ => true :=
  ⟨fun _ => true, rfl, fun _ => rfl⟩

/-- The condition of a single term. -/
theorem Binds.singleton {term : Term} {bound : Cells → Bool}
    (hterm : term.bind parameters = some (bound, rest)) (hkeeps : ∀ row, bound (cells row) = keeps row) :
    Binds cells [term] parameters rest keeps := by
  refine ⟨fun row => bound row && true, ?_, fun row => ?_⟩
  · rw [bindTerms, hterm]
    rfl
  · exact (Bool.and_true _).trans (hkeeps row)

/-- Two conjunctions in a row put both of their conditions. -/
theorem Binds.append (h : Binds cells terms parameters rest keeps)
    (h' : Binds cells others rest left keeps') :
    Binds cells (terms ++ others) parameters left fun row => keeps row && keeps' row := by
  obtain ⟨bound, hbound, hkeeps⟩ := h
  obtain ⟨bound', hbound', hkeeps'⟩ := h'
  refine ⟨fun row => bound row && bound' row, ?_, fun row => ?_⟩
  · rw [bindTerms_append, hbound, Option.bind_some, hbound']
    rfl
  · exact congrArg₂ (· && ·) (hkeeps row) (hkeeps' row)

/-- The rows of a statement whose terms leave its limit. -/
theorem Binds.rows_eq {select : Select} {limit : Nat} {table : List α}
    (h : Binds cells select.terms parameters [.integer limit] keeps) :
    select.rows cells parameters table = some (((table.filter keeps).insertionSort
      fun a b => ¬ordered select.order (cells b) (cells a) = true).take limit) := by
  obtain ⟨bound, hbound, hkeeps⟩ := h
  have hnonneg : ¬(limit : Int) < 0 := by omega
  have hfilter : (fun row => bound (cells row)) = keeps := funext hkeeps
  rw [Select.rows, hbound]
  dsimp only
  rw [hfilter, limitTo, if_neg hnonneg, Int.toNat_natCast]

end

end Fleetd.Relational
