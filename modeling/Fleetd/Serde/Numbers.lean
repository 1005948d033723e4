import Fleetd.Serde.Parser
import Mathlib.Data.List.TakeWhile

/-!
# Reading numbers

Each part of a number is scanned off the front of a text. A scanner takes only characters of
numbers, and what it takes does not depend on what follows as long as that is no character of a
number. So a printed number is read back whatever is printed after it.
-/

namespace Serde

/-- The characters that numbers are written in. -/
def inNumber (c : Char) : Bool :=
  c.isDigit || c = '.' || c = 'e' || c = 'E' || c = '+' || c = '-'

/-- A text that a number in front of it does not run into. -/
def EndsNumber (text : List Char) : Prop := ∀ c ∈ text.head?, inNumber c = false

theorem endsNumber_nil : EndsNumber [] := fun _ h => nomatch h

theorem endsNumber_cons {c : Char} (h : inNumber c = false) (text : List Char) :
    EndsNumber (c :: text) := fun _ hc => Option.some.inj hc ▸ h

theorem EndsNumber.head {c : Char} {text : List Char} (h : EndsNumber (c :: text)) :
    ¬ c.isDigit = true ∧ c ≠ '.' ∧ c ≠ 'e' ∧ c ≠ 'E' ∧ c ≠ '+' ∧ c ≠ '-' := by
  have hc : inNumber c = false := h c rfl
  simpa [inNumber, and_assoc] using hc

theorem inNumber_of_isDigit {c : Char} (h : c.isDigit = true) : inNumber c = true := by
  simp [inNumber, h]

/-- A scanner that takes characters of a number off the front of a text, whatever follows it. -/
structure NumberScanner (scan : List Char → List Char × List Char) : Prop where
  splits : ∀ text, (scan text).1 ++ (scan text).2 = text
  chars : ∀ text, ∀ c ∈ (scan text).1, inNumber c = true
  append : ∀ text rest, EndsNumber rest → scan (text ++ rest) = ((scan text).1, (scan text).2 ++ rest)

theorem numberScanner_scanDigits : NumberScanner scanDigits where
  splits text := List.takeWhile_append_dropWhile
  chars text c hc := inNumber_of_isDigit (List.mem_takeWhile_imp hc)
  append text rest hrest := by
    induction text with
    | nil =>
      cases rest with
      | nil => rfl
      | cons c rest =>
        simp [scanDigits, hrest.head.1]
    | cons c text ih =>
      simp only [scanDigits, Prod.mk.injEq] at ih
      by_cases hc : c.isDigit = true
      · simp [scanDigits, hc, ih]
      · simp [scanDigits, hc]

theorem numberScanner_scanSign : NumberScanner scanSign where
  splits text := by unfold scanSign; split <;> rfl
  chars text c hc := by
    unfold scanSign at hc
    split at hc
    · rw [List.mem_singleton.1 hc]; decide
    · rw [List.mem_singleton.1 hc]; decide
    · exact absurd hc List.not_mem_nil
  append text rest hrest := by
    cases text with
    | nil =>
      cases rest with
      | nil => rfl
      | cons c rest =>
        obtain ⟨-, -, -, -, hplus, hminus⟩ := hrest.head
        simp [scanSign, hplus, hminus]
    | cons c text =>
      by_cases hplus : c = '+'
      · subst hplus; rfl
      by_cases hminus : c = '-'
      · subst hminus; rfl
      simp [scanSign, hplus, hminus]

theorem numberScanner_scanMinus : NumberScanner scanMinus where
  splits text := by unfold scanMinus; split <;> rfl
  chars text c hc := by
    unfold scanMinus at hc
    split at hc
    · rw [List.mem_singleton.1 hc]; decide
    · exact absurd hc List.not_mem_nil
  append text rest hrest := by
    cases text with
    | nil =>
      cases rest with
      | nil => rfl
      | cons c rest => simp [scanMinus, hrest.head.2.2.2.2.2]
    | cons c text =>
      by_cases hminus : c = '-'
      · subst hminus; rfl
      simp [scanMinus, hminus]

/-- The decimal point of a fraction, with the digits that must follow it. -/
theorem scanFraction_cons (c : Char) (text : List Char) : scanFraction (c :: text) =
    if c = '.' ∧ (scanDigits text).1 ≠ [] then ('.' :: (scanDigits text).1, (scanDigits text).2)
    else ([], c :: text) := by
  by_cases hdot : c = '.'
  · subst hdot
    rw [scanFraction]
    cases hscan : scanDigits text with
    | mk digits rest =>
      cases digits with
      | nil => rw [if_neg (fun h => h.2 rfl)]
      | cons digit digits => rw [if_pos ⟨rfl, List.cons_ne_nil _ _⟩]
  · simp [scanFraction, hdot]

theorem numberScanner_scanFraction : NumberScanner scanFraction where
  splits text := by
    cases text with
    | nil => rfl
    | cons c text =>
      rw [scanFraction_cons]
      split
      case isTrue h =>
        rw [List.cons_append, numberScanner_scanDigits.splits, h.1]
      case isFalse => rfl
  chars text c hc := by
    cases text with
    | nil => exact absurd hc List.not_mem_nil
    | cons d text =>
      rw [scanFraction_cons] at hc
      split at hc
      case isTrue =>
        obtain rfl | hc := List.mem_cons.1 hc
        · decide
        · exact numberScanner_scanDigits.chars text c hc
      case isFalse => exact absurd hc List.not_mem_nil
  append text rest hrest := by
    cases text with
    | nil =>
      cases rest with
      | nil => rfl
      | cons c rest =>
        rw [List.nil_append, scanFraction_cons, if_neg fun h => hrest.head.2.1 h.1]
        rfl
    | cons c text =>
      rw [List.cons_append, scanFraction_cons, scanFraction_cons,
        numberScanner_scanDigits.append text rest hrest]
      split <;> rfl

/-- The mark of an exponent, with the sign and the digits that follow it. -/
theorem scanExponent_cons (c : Char) (text : List Char) : scanExponent (c :: text) =
    if (c = 'e' ∨ c = 'E') ∧ (scanDigits (scanSign text).2).1 ≠ [] then
      (c :: ((scanSign text).1 ++ (scanDigits (scanSign text).2).1),
        (scanDigits (scanSign text).2).2)
    else ([], c :: text) := by
  by_cases hmark : c = 'e' ∨ c = 'E'
  · rw [scanExponent, if_pos hmark]
    dsimp only
    cases hscan : scanDigits (scanSign text).2 with
    | mk digits rest =>
      cases digits with
      | nil => rw [if_neg (fun h => h.2 rfl)]
      | cons digit digits => rw [if_pos ⟨hmark, List.cons_ne_nil _ _⟩]
  · rw [scanExponent, if_neg hmark, if_neg fun h => hmark h.1]

theorem numberScanner_scanExponent : NumberScanner scanExponent where
  splits text := by
    cases text with
    | nil => rfl
    | cons c text =>
      rw [scanExponent_cons]
      split
      case isTrue =>
        rw [List.cons_append, List.append_assoc, numberScanner_scanDigits.splits,
          numberScanner_scanSign.splits]
      case isFalse => rfl
  chars text c hc := by
    cases text with
    | nil => exact absurd hc List.not_mem_nil
    | cons d text =>
      rw [scanExponent_cons] at hc
      split at hc
      case isTrue hmark =>
        obtain rfl | hc := List.mem_cons.1 hc
        · obtain ⟨rfl | rfl, -⟩ := hmark <;> decide
        obtain hc | hc := List.mem_append.1 hc
        · exact numberScanner_scanSign.chars text c hc
        · exact numberScanner_scanDigits.chars _ c hc
      case isFalse => exact absurd hc List.not_mem_nil
  append text rest hrest := by
    cases text with
    | nil =>
      cases rest with
      | nil => rfl
      | cons c rest =>
        obtain ⟨-, -, he, hE, -⟩ := hrest.head
        rw [List.nil_append, scanExponent_cons, if_neg fun h => h.1.elim he hE]
        rfl
    | cons c text =>
      rw [List.cons_append, scanExponent_cons, scanExponent_cons,
        numberScanner_scanSign.append text rest hrest, numberScanner_scanDigits.append _ rest hrest]
      split <;> rfl

theorem scanNumber_eq (text : List Char) : scanNumber text =
    if (scanDigits (scanMinus text).2).1 = [] then none
    else
      let afterDigits := (scanDigits (scanMinus text).2).2
      let afterFraction := (scanFraction afterDigits).2
      some ⟨(scanMinus text).1 ++ (scanDigits (scanMinus text).2).1,
        (scanFraction afterDigits).1 ++ (scanExponent afterFraction).1,
        (scanExponent afterFraction).2⟩ := by
  rw [scanNumber]
  dsimp only
  cases hscan : scanDigits (scanMinus text).2 with
  | mk digits rest =>
    cases digits with
    | nil => rw [if_pos rfl]
    | cons digit digits => rw [if_neg (List.cons_ne_nil _ _)]

/-- A number is read the same whatever follows it. -/
theorem scanNumber_append (text : List Char) {rest : List Char} (hrest : EndsNumber rest) :
    scanNumber (text ++ rest) =
      (scanNumber text).map fun scan => { scan with rest := scan.rest ++ rest } := by
  rw [scanNumber_eq, scanNumber_eq, numberScanner_scanMinus.append text rest hrest]
  dsimp only
  rw [numberScanner_scanDigits.append _ rest hrest]
  dsimp only
  rw [numberScanner_scanFraction.append _ rest hrest]
  dsimp only
  rw [numberScanner_scanExponent.append _ rest hrest]
  split <;> rfl

/-- What is read as a number is the front of the text. -/
theorem scanNumber_splits {text : List Char} {scan : NumberScan} (h : scanNumber text = some scan) :
    scan.whole ++ scan.fraction ++ scan.rest = text ∧
      ∀ c ∈ scan.whole ++ scan.fraction, inNumber c = true := by
  rw [scanNumber_eq] at h
  split at h
  · cases h
  cases h
  constructor
  · simp only [List.append_assoc]
    rw [numberScanner_scanExponent.splits, numberScanner_scanFraction.splits,
      numberScanner_scanDigits.splits, numberScanner_scanMinus.splits]
  · intro c hc
    simp only [List.mem_append] at hc
    obtain (hc | hc) | (hc | hc) := hc
    · exact numberScanner_scanMinus.chars _ c hc
    · exact numberScanner_scanDigits.chars _ c hc
    · exact numberScanner_scanFraction.chars _ c hc
    · exact numberScanner_scanExponent.chars _ c hc

/-- No number but zero begins with a zero. -/
theorem head_toDigits {n : Nat} (h : 0 < n) : (Nat.toDigits 10 n).head? ≠ some '0' := by
  induction n using Nat.strongRecOn with
  | ind n ih =>
    obtain hlow | hhigh := Nat.lt_or_ge n 10
    · have hdigit : ∀ d < 10, 0 < d → Nat.digitChar d ≠ '0' := by decide
      rw [Nat.toDigits_of_lt_base hlow, List.head?_cons, ne_eq, Option.some.injEq]
      exact hdigit n hlow h
    · rw [Nat.toDigits_of_base_le (by decide) hhigh, List.head?_append_of_ne_nil _ Nat.toDigits_ne_nil]
      exact ih (n / 10) (by omega) (by omega)

theorem minus_not_mem_toDigits (n : Nat) : '-' ∉ Nat.toDigits 10 n := fun h =>
  absurd (Nat.isDigit_of_mem_toDigits (by decide) (by decide) h) (by decide)

theorem leadingZero_toDigits (n : Nat) : leadingZero (Nat.toDigits 10 n) = false := by
  cases n with
  | zero => rfl
  | succ n =>
    unfold leadingZero
    split
    case h_1 heq => exact absurd (heq ▸ List.mem_cons_self) (minus_not_mem_toDigits (n + 1))
    case h_2 heq => exact absurd (heq ▸ rfl) (head_toDigits (Nat.succ_pos n))
    case h_3 => rfl

theorem leadingZero_minus_toDigits (n : Nat) : leadingZero ('-' :: Nat.toDigits 10 (n + 1)) = false := by
  have hhead := head_toDigits (Nat.succ_pos n)
  unfold leadingZero
  split
  case h_1 heq => exact absurd ((List.cons.inj heq).2 ▸ rfl) hhead
  case h_2 heq => cases heq
  case h_3 => rfl

theorem scanDigits_toDigits (n : Nat) : scanDigits (Nat.toDigits 10 n) = (Nat.toDigits 10 n, []) := by
  have hdigits : ∀ c ∈ Nat.toDigits 10 n, c.isDigit = true := fun c hc =>
    Nat.isDigit_of_mem_toDigits (by decide) (by decide) hc
  rw [scanDigits, List.takeWhile_eq_self_iff.2 hdigits, List.dropWhile_eq_nil_iff.2 hdigits]

theorem scanNumber_toDigits (n : Nat) :
    scanNumber (Nat.toDigits 10 n) = some ⟨Nat.toDigits 10 n, [], []⟩ := by
  have hminus : scanMinus (Nat.toDigits 10 n) = ([], Nat.toDigits 10 n) := by
    unfold scanMinus
    split
    case h_1 heq => exact absurd (heq ▸ List.mem_cons_self) (minus_not_mem_toDigits n)
    case h_2 => rfl
  rw [scanNumber_eq, hminus]
  dsimp only
  rw [scanDigits_toDigits, if_neg Nat.toDigits_ne_nil]
  rfl

theorem scanNumber_minus_toDigits (n : Nat) :
    scanNumber ('-' :: Nat.toDigits 10 n) = some ⟨'-' :: Nat.toDigits 10 n, [], []⟩ := by
  have hminus : scanMinus ('-' :: Nat.toDigits 10 n) = (['-'], Nat.toDigits 10 n) := rfl
  rw [scanNumber_eq, hminus]
  dsimp only
  rw [scanDigits_toDigits, if_neg Nat.toDigits_ne_nil]
  rfl

theorem integerOf_toDigits (n : Nat) : integerOf (Nat.toDigits 10 n) = n := by
  unfold integerOf
  split
  case h_1 digits heq =>
    have hmem : '-' ∈ '-' :: digits := List.mem_cons_self
    exact absurd (heq ▸ hmem) (minus_not_mem_toDigits n)
  case h_2 => exact congrArg Int.ofNat Nat.ofDigitChars_ten_toDigits

/-- A number, as it is printed, is read as one number. -/
theorem scanNumber_print (number : Number) : ∃ scan, scanNumber number.print.toList = some scan ∧
    scan.rest = [] ∧ leadingZero scan.whole = false ∧
    match number with
    | .integer value => scan.fraction = [] ∧ integerOf scan.whole = value
    | .float _ => scan.fraction ≠ [] := by
  cases number with
  | integer value =>
    cases value with
    | ofNat n =>
      have hprint : (Number.integer (.ofNat n)).print.toList = Nat.toDigits 10 n := Nat.toList_repr
      rw [hprint]
      exact ⟨_, scanNumber_toDigits n, rfl, leadingZero_toDigits n, rfl, integerOf_toDigits n⟩
    | negSucc n =>
      have hprint : (Number.integer (.negSucc n)).print.toList = '-' :: Nat.toDigits 10 (n + 1) := by
        show ("-" ++ (n + 1).repr).toList = _
        rw [String.toList_append, Nat.toList_repr]
        rfl
      rw [hprint]
      exact ⟨_, scanNumber_minus_toDigits (n + 1), rfl, leadingZero_minus_toDigits n, rfl,
        congrArg (fun n : Nat => -(n : Int)) Nat.ofDigitChars_ten_toDigits⟩
  | float literal =>
    have hvalid := literal.valid
    rw [isFloat] at hvalid
    cases hscan : scanNumber literal.text.toList with
    | none =>
      rw [hscan] at hvalid
      cases hvalid
    | some scan =>
      rw [hscan] at hvalid
      simp only [Bool.and_eq_true, Bool.not_eq_true', List.isEmpty_iff] at hvalid
      obtain ⟨⟨hzero, hfraction⟩, hrest⟩ := hvalid
      refine ⟨scan, hscan, hrest, hzero, fun hnil => ?_⟩
      rw [hnil] at hfraction
      cases hfraction

/-- A printed number is read back. -/
theorem parseNumber_print (number : Number) {rest : List Char} (hrest : EndsNumber rest) :
    parseNumber (number.print.toList ++ rest) = some (number, rest) := by
  obtain ⟨⟨whole, fraction, end'⟩, hscan, rfl, hzero, hparts⟩ := scanNumber_print number
  obtain ⟨htext, -⟩ := scanNumber_splits hscan
  rw [List.append_nil] at htext
  dsimp only at htext hzero hparts
  have hfloat : isFloat (String.ofList (whole ++ fraction)).toList = !fraction.isEmpty := by
    rw [String.toList_ofList, htext, isFloat, hscan]
    simp [hzero]
  rw [parseNumber, scanNumber_append _ hrest, hscan]
  simp only [Option.map_some, Option.bind_eq_bind, Option.bind_some, hzero, Bool.false_eq_true,
    if_false, List.nil_append]
  cases number with
  | integer value =>
    obtain ⟨rfl, hvalue⟩ := hparts
    rw [dif_neg (by rw [hfloat]; decide), hvalue]
  | float literal =>
    have hnonempty : fraction.isEmpty = false := List.isEmpty_eq_false_iff.2 hparts
    rw [dif_pos (by rw [hfloat, hnonempty]; rfl)]
    have hliteral : String.ofList (whole ++ fraction) = literal.text := by
      rw [htext]
      exact String.ofList_toList
    congr

end Serde
