import Fleetd.Policy.Expressions
import Fleetd.Policy.Paths
import Fleetd.Policy.Rules

/-!
# Sandbox profiles

The profile language of the macOS sandbox: rules for operations on files and processes. A rule
covers a request if its pattern covers the operation and one of its filters, where it has any,
admits the subject.
-/

namespace Policy

/-- A condition on the subject of a request. -/
inductive Filter
  | literal (path : String)
  | subpath (path : String)
  | target (name : String)
  deriving DecidableEq, Repr

structure ProfileRule where
  verdict : Verdict
  operation : String
  filters : List Filter
  deriving DecidableEq, Repr

/-- An operation on a file, or on a process that may be in the sandbox of its caller. -/
structure SandboxRequest where
  operation : String
  path : Option CanonicalPath
  sameSandbox : Bool

/-! ## Meaning -/

/-- The default covers every operation, a star the rest of a name. -/
def patternCovers (pattern operation : String) : Bool :=
  if pattern = "default" then true
  else if pattern.toList.getLast? = some '*' then
    pattern.toList.dropLast.isPrefixOf operation.toList
  else pattern = operation

def Filter.admits (request : SandboxRequest) : Filter → Bool
  | .literal path => request.path.any fun subject => pathComponents path = subject.components
  | .subpath path => request.path.any fun subject => (pathComponents path).isPrefixOf subject.components
  | .target name => name = "same-sandbox" && request.sameSandbox

def ProfileRule.covers (rule : ProfileRule) (request : SandboxRequest) : Bool :=
  patternCovers rule.operation request.operation &&
    (rule.filters.isEmpty || rule.filters.any fun filter => filter.admits request)

/-- The rules of a profile allow a request. -/
def Permits (rules : List ProfileRule) (request : SandboxRequest) : Prop :=
  Grants ProfileRule.covers ProfileRule.verdict rules request

/-! ## Reading -/

def readFilter : Expr → Option Filter
  | .list [.symbol "literal", .text path] => some (.literal path)
  | .list [.symbol "subpath", .text path] => some (.subpath path)
  | .list [.symbol "target", .symbol name] => some (.target name)
  | _ => none

def readVerdict : String → Option Verdict
  | "allow" => some .allow
  | "deny" => some .deny
  | _ => none

def readRule : Expr → Option ProfileRule
  | .list (.symbol verdict :: .symbol operation :: filters) =>
    match readVerdict verdict, filters.mapM readFilter with
    | some verdict, some filters => some ⟨verdict, operation, filters⟩
    | _, _ => none
  | _ => none

/-- The rules of a profile of the first version. -/
def readProfile (text : String) : Option (List ProfileRule) :=
  match readExprs text with
  | some (.list [.symbol "version", .symbol "1"] :: rules) => rules.mapM readRule
  | _ => none

/-! ## Writing -/

def Verdict.word : Verdict → String
  | .allow => "allow"
  | .deny => "deny"

def Filter.expr : Filter → Expr
  | .literal path => .list [.symbol "literal", .text path]
  | .subpath path => .list [.symbol "subpath", .text path]
  | .target name => .list [.symbol "target", .symbol name]

def ProfileRule.expr (rule : ProfileRule) : Expr :=
  .list (.symbol rule.verdict.word :: .symbol rule.operation :: rule.filters.map Filter.expr)

def versionExpr : Expr := .list [.symbol "version", .symbol "1"]

/-- Reading undoes writing for a list if it does for each member. -/
theorem mapM_map_eq {α β : Type} {write : α → β} {read : β → Option α}
    (h : ∀ a, read (write a) = some a) (items : List α) : (items.map write).mapM read = some items := by
  induction items with
  | nil => rfl
  | cons item items ih =>
    rw [List.map_cons, List.mapM_cons, h, ih]
    rfl

theorem readFilter_expr (filter : Filter) : readFilter filter.expr = some filter := by
  cases filter <;> rfl

/-- A written rule is read back. -/
theorem readRule_expr (rule : ProfileRule) : readRule rule.expr = some rule := by
  have hverdict : readVerdict rule.verdict.word = some rule.verdict := by
    cases rule.verdict <;> rfl
  rw [ProfileRule.expr, readRule, hverdict, mapM_map_eq readFilter_expr]

/-- A text that lays out a version and rules is read as these rules. -/
theorem readProfile_of_lays {text : String} {rules : List ProfileRule}
    (h : Lays text.toList (Expr.laidAll (versionExpr :: rules.map ProfileRule.expr))) :
    readProfile text = some rules := by
  rw [readProfile, readExprs_of_lays h]
  exact mapM_map_eq readRule_expr rules

end Policy
