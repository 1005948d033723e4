import Fleetd.Serde.RoundTrip

/-!
# Bracketed expressions

Texts of symbols, quoted strings and brackets, as policy languages write them: a scanner into
tokens and a builder that nests them. A string is read as a JSON string. A text that is put
together from pieces is read piece by piece, so a quoted string cannot reach past its own quotes.
-/

namespace Policy

open Serde

inductive Token
  | opening
  | closing
  | symbol (name : String)
  | text (value : String)
  deriving DecidableEq, Repr

/-! ## Scanning -/

/-- The characters of a symbol: all but spaces, brackets and quotes. -/
def isSymbolChar (c : Char) : Bool := !(isSpace c || c = '(' || c = ')' || c = '"')

/-- A symbol and what follows it. -/
def scanSymbol (text : List Char) : Option (Token × List Char) :=
  match text.takeWhile isSymbolChar with
  | [] => none
  | c :: name => some (.symbol (String.ofList (c :: name)), text.dropWhile isSymbolChar)

/-- The next token and what follows it. -/
def scanToken : List Char → Option (Token × List Char)
  | '(' :: rest => some (.opening, rest)
  | ')' :: rest => some (.closing, rest)
  | '"' :: rest => (parseString ('"' :: rest)).map fun scan => (.text scan.1, scan.2)
  | rest => scanSymbol rest

/-- The tokens of a text, at most one for each unit of fuel. -/
def scanTokens : Nat → List Char → Option (List Token)
  | 0, _ => none
  | fuel + 1, text =>
    match skipSpace text with
    | [] => some []
    | c :: rest =>
      match scanToken (c :: rest) with
      | none => none
      | some (token, rest) => (scanTokens fuel rest).map (List.cons token)

/-- The tokens of a whole text. -/
def tokens (text : String) : Option (List Token) :=
  scanTokens (text.toList.length + 1) text.toList

/-- A piece of text that is scanned as some tokens, whatever follows it. -/
structure Lays (piece : List Char) (laid : List Token) : Prop where
  length_le : laid.length ≤ piece.length
  scan : ∀ fuel rest,
    scanTokens (fuel + laid.length) (piece ++ rest) = (scanTokens fuel rest).map (laid ++ ·)

theorem scanTokens_token {fuel : Nat} {c : Char} {text rest : List Char} {token : Token}
    (hspace : isSpace c = false) (htoken : scanToken (c :: text) = some (token, rest)) :
    scanTokens (fuel + 1) (c :: text) = (scanTokens fuel rest).map (List.cons token) := by
  have hskip : skipSpace (c :: text) = c :: text :=
    List.dropWhile_cons_of_neg (by simp only [hspace, Bool.false_eq_true, not_false_eq_true])
  simp only [scanTokens, hskip, htoken]

theorem Lays.nil : Lays [] [] where
  length_le := Nat.le_refl _
  scan fuel rest := by
    rw [List.length_nil, Nat.add_zero, List.nil_append]
    cases scanTokens fuel rest <;> rfl

theorem Lays.append {piece other : List Char} {laid next : List Token} (h : Lays piece laid)
    (hother : Lays other next) : Lays (piece ++ other) (laid ++ next) where
  length_le := by
    rw [List.length_append, List.length_append]
    exact Nat.add_le_add h.length_le hother.length_le
  scan fuel rest := by
    rw [List.length_append, Nat.add_comm laid.length, ← Nat.add_assoc, List.append_assoc, h.scan,
      hother.scan]
    cases scanTokens fuel rest with
    | none => rfl
    | some found => exact congrArg some (List.append_assoc ..).symm

theorem Lays.space {c : Char} (hspace : isSpace c = true) : Lays [c] [] where
  length_le := Nat.zero_le _
  scan fuel rest := by
    have hskip : skipSpace ([c] ++ rest) = skipSpace rest := List.dropWhile_cons_of_pos hspace
    rw [List.length_nil, Nat.add_zero]
    cases fuel with
    | zero => rfl
    | succ fuel =>
      rw [scanTokens, scanTokens, hskip]
      generalize (match skipSpace rest with
        | [] => some []
        | c :: rest =>
          match scanToken (c :: rest) with
          | none => none
          | some (token, rest) => (scanTokens fuel rest).map (List.cons token)) = found
      cases found <;> rfl

theorem Lays.opening : Lays ['('] [.opening] where
  length_le := Nat.le_refl _
  scan _ _ := scanTokens_token rfl rfl

theorem Lays.closing : Lays [')'] [.closing] where
  length_le := Nat.le_refl _
  scan _ _ := scanTokens_token rfl rfl

/-- A printed string is one token, whatever it holds. -/
theorem Lays.text (value : String) : Lays (printString value).toList [.text value] where
  length_le := by
    rw [toList_printString]
    exact Nat.succ_le_succ (Nat.zero_le _)
  scan fuel rest := by
    have hparse := parseString_print value rest
    rw [toList_printString] at hparse ⊢
    apply scanTokens_token rfl
    exact congrArg (Option.map fun scan => (Token.text scan.1, scan.2)) hparse

/-- A symbol ends at the first character that cannot be part of one. -/
theorem scanSymbol_append {name : List Char} {d : Char} {rest : List Char} (hne : name ≠ [])
    (hname : ∀ c ∈ name, isSymbolChar c = true) (hd : isSymbolChar d = false) :
    scanSymbol (name ++ d :: rest) = some (.symbol (String.ofList name), d :: rest) := by
  have htake : (name ++ d :: rest).takeWhile isSymbolChar = name := by
    rw [List.takeWhile_append_of_pos hname, List.takeWhile_cons_of_neg (by simp [hd]),
      List.append_nil]
  have hdrop : (name ++ d :: rest).dropWhile isSymbolChar = d :: rest := by
    rw [List.dropWhile_append_of_pos hname, List.dropWhile_cons_of_neg (by simp [hd])]
  cases name with
  | nil => exact absurd rfl hne
  | cons c name => rw [scanSymbol, htake, hdrop]

/-- The first character of a symbol decides that it is one. -/
theorem scanToken_symbol {c : Char} (hc : isSymbolChar c = true) (rest : List Char) :
    scanToken (c :: rest) = scanSymbol (c :: rest) := by
  have hne : ∀ d, isSymbolChar d = false → c ≠ d := by
    intro d hd heq
    rw [heq, hd] at hc
    cases hc
  rw [scanToken.eq_def]
  split
  case h_1 heq => exact absurd (List.cons.inj heq).1 (hne '(' rfl)
  case h_2 heq => exact absurd (List.cons.inj heq).1 (hne ')' rfl)
  case h_3 heq => exact absurd (List.cons.inj heq).1 (hne '"' rfl)
  case h_4 => rfl

/-- A symbol in front of a piece that cannot continue it. -/
theorem Lays.symbol {name : String} {d : Char} {piece : List Char} {laid : List Token}
    (hne : name.toList ≠ []) (hname : name.toList.all isSymbolChar = true)
    (hd : isSymbolChar d = false) (h : Lays (d :: piece) laid) :
    Lays (name.toList ++ d :: piece) (.symbol name :: laid) where
  length_le := by
    have hpos := List.length_pos_iff.2 hne
    have hle := h.length_le
    rw [List.length_append, List.length_cons]
    omega
  scan fuel rest := by
    have hall : ∀ c ∈ name.toList, isSymbolChar c = true := List.all_eq_true.1 hname
    have hscan : scanSymbol (name.toList ++ d :: (piece ++ rest)) = _ :=
      scanSymbol_append hne hall hd
    rw [String.ofList_toList] at hscan
    rw [List.append_assoc, List.cons_append]
    cases hlist : name.toList with
    | nil => exact absurd hlist hne
    | cons c others =>
      rw [hlist] at hscan hall
      have hc := hall c List.mem_cons_self
      have hspace : isSpace c = false := by
        cases hspace : isSpace c with
        | false => rfl
        | true =>
          rw [isSymbolChar, hspace] at hc
          exact hc.symm
      rw [List.cons_append] at hscan ⊢
      rw [List.length_cons, ← Nat.add_assoc, scanTokens_token hspace ((scanToken_symbol hc _).trans hscan)]
      have hrest := h.scan fuel rest
      rw [List.cons_append] at hrest
      rw [hrest, Option.map_map]
      rfl

/-- The tokens of a text that is laid out piece by piece. -/
theorem Lays.tokens {text : String} {laid : List Token} (h : Lays text.toList laid) :
    tokens text = some laid := by
  have hscan := h.scan (text.toList.length - laid.length + 1) []
  have hfuel : text.toList.length - laid.length + 1 + laid.length = text.toList.length + 1 := by
    have hle := h.length_le
    omega
  rw [hfuel, List.append_nil] at hscan
  rw [Policy.tokens, hscan]
  exact congrArg some (List.append_nil laid)

/-! ## Nesting -/

inductive Expr
  | symbol (name : String)
  | text (value : String)
  | list (items : List Expr)

mutual

/-- The tokens that an expression is written with. -/
def Expr.laid : Expr → List Token
  | .symbol name => [.symbol name]
  | .text value => [.text value]
  | .list items => .opening :: (Expr.laidAll items ++ [.closing])

def Expr.laidAll : List Expr → List Token
  | [] => []
  | item :: items => item.laid ++ Expr.laidAll items

end

mutual

/-- An expression on one line, with one space between the members of a list. -/
def Expr.render : Expr → String
  | .symbol name => name
  | .text value => printString value
  | .list [] => "()"
  | .list (item :: items) => "(" ++ item.render ++ Expr.renderMore ' ' items ++ ")"

/-- The members of a list after its first, each behind a separator. -/
def Expr.renderMore (sep : Char) : List Expr → String
  | [] => ""
  | item :: items => String.singleton sep ++ item.render ++ Expr.renderMore sep items

end

mutual

/-- The symbols of an expression are symbols. -/
def Expr.plain : Expr → Bool
  | .symbol name => !name.toList.isEmpty && name.toList.all isSymbolChar
  | .text _ => true
  | .list items => Expr.plainAll items

def Expr.plainAll : List Expr → Bool
  | [] => true
  | item :: items => item.plain && Expr.plainAll items

end

/-- Nests tokens, with what was read so far inside each open bracket. -/
def build : List (List Expr) → List Expr → List Token → Option (List Expr)
  | [], read, [] => some read
  | _ :: _, _, [] => none
  | outer, read, .opening :: rest => build (read :: outer) [] rest
  | [], _, .closing :: _ => none
  | enclosing :: outer, read, .closing :: rest => build outer (enclosing ++ [.list read]) rest
  | outer, read, .symbol name :: rest => build outer (read ++ [.symbol name]) rest
  | outer, read, .text value :: rest => build outer (read ++ [.text value]) rest

/-- The expressions of a text. -/
def readExprs (text : String) : Option (List Expr) := (tokens text).bind (build [] [])

theorem build_opening (outer : List (List Expr)) (read : List Expr) (rest : List Token) :
    build outer read (.opening :: rest) = build (read :: outer) [] rest := by
  cases outer <;> rfl

mutual

/-- An expression is nested as it was written. -/
theorem build_laid (outer : List (List Expr)) (read : List Expr) (rest : List Token) :
    ∀ e : Expr, build outer read (e.laid ++ rest) = build outer (read ++ [e]) rest
  | .symbol name => by cases outer <;> rfl
  | .text value => by cases outer <;> rfl
  | .list items => by
    rw [Expr.laid, List.cons_append, build_opening, List.append_assoc,
      build_laidAll (read :: outer) [] ([Token.closing] ++ rest) items, List.nil_append]
    rfl

theorem build_laidAll (outer : List (List Expr)) (read : List Expr) (rest : List Token) :
    ∀ items : List Expr, build outer read (Expr.laidAll items ++ rest) = build outer (read ++ items) rest
  | [] => by rw [Expr.laidAll, List.nil_append, List.append_nil]
  | item :: items => by
    rw [Expr.laidAll, List.append_assoc, build_laid outer read _ item,
      build_laidAll outer (read ++ [item]) rest items, List.append_assoc]
    rfl

end

/-- What stands behind a member of a list cannot continue a symbol. -/
theorem renderMore_head {sep : Char} (hsep : isSpace sep = true) (items : List Expr)
    (piece : List Char) : ∃ d rest, (Expr.renderMore sep items).toList ++ ')' :: piece = d :: rest ∧
      isSymbolChar d = false := by
  cases items with
  | nil => exact ⟨')', piece, rfl, rfl⟩
  | cons item items =>
    refine ⟨sep, item.render.toList ++ ((Expr.renderMore sep items).toList ++ ')' :: piece), ?_, ?_⟩
    · simp only [Expr.renderMore, String.toList_append, String.toList_singleton, List.append_assoc]
      rfl
    · rw [isSymbolChar, hsep]
      rfl

mutual

/-- An expression lays out its tokens in front of anything that cannot continue a symbol. -/
theorem Lays.render (e : Expr) (hplain : e.plain = true) {d : Char} {piece : List Char}
    {laid : List Token} (hd : isSymbolChar d = false) (h : Lays (d :: piece) laid) :
    Lays (e.render.toList ++ d :: piece) (e.laid ++ laid) := by
  match e with
  | .symbol name =>
    obtain ⟨hne, hname⟩ := Bool.and_eq_true_iff.1 hplain
    apply Lays.symbol _ hname hd h
    intro hempty
    rw [hempty] at hne
    cases hne
  | .text value => exact (Lays.text value).append h
  | .list [] => exact Lays.opening.append (Lays.closing.append h)
  | .list (item :: items) =>
    obtain ⟨hitem, hitems⟩ := Bool.and_eq_true_iff.1 hplain
    have hspace : isSpace ' ' = true := rfl
    have hmore := Lays.renderMore hspace items hitems (Lays.closing.append h)
    obtain ⟨c, rest, hrest, hc⟩ := renderMore_head hspace items (d :: piece)
    have htext : (Expr.list (item :: items)).render.toList ++ d :: piece = ['('] ++
        (item.render.toList ++ ((Expr.renderMore ' ' items).toList ++ ([')'] ++ d :: piece))) := by
      simp only [Expr.render, String.toList_append, List.append_assoc]
      rfl
    have hlaid : (Expr.list (item :: items)).laid ++ laid =
        [Token.opening] ++ (item.laid ++ (Expr.laidAll items ++ ([Token.closing] ++ laid))) := by
      simp only [Expr.laid, Expr.laidAll, List.cons_append, List.append_assoc, List.nil_append]
    rw [htext, hlaid]
    change Lays ((Expr.renderMore ' ' items).toList ++ ')' :: d :: piece) _ at hmore
    change Lays (_ ++ (_ ++ ((Expr.renderMore ' ' items).toList ++ ')' :: d :: piece))) _
    rw [hrest] at hmore ⊢
    exact Lays.opening.append (Lays.render item hitem hc hmore)

theorem Lays.renderMore {sep : Char} (hsep : isSpace sep = true) (items : List Expr)
    (hplain : Expr.plainAll items = true) {piece : List Char} {laid : List Token}
    (h : Lays (')' :: piece) laid) :
    Lays ((Expr.renderMore sep items).toList ++ ')' :: piece) (Expr.laidAll items ++ laid) := by
  match items with
  | [] => exact h
  | item :: items =>
    obtain ⟨hitem, hitems⟩ := Bool.and_eq_true_iff.1 hplain
    have hmore := Lays.renderMore hsep items hitems h
    obtain ⟨c, rest, hrest, hc⟩ := renderMore_head hsep items piece
    have htext : (Expr.renderMore sep (item :: items)).toList ++ ')' :: piece =
        [sep] ++ (item.render.toList ++ ((Expr.renderMore sep items).toList ++ ')' :: piece)) := by
      simp only [Expr.renderMore, String.toList_append, String.toList_singleton, List.append_assoc]
    rw [htext, Expr.laidAll, List.append_assoc]
    rw [hrest] at hmore ⊢
    exact (Lays.space hsep).append (Lays.render item hitem hc hmore)

end

/-- A text that lays out some expressions is read as these. -/
theorem readExprs_of_lays {text : String} {items : List Expr}
    (h : Lays text.toList (Expr.laidAll items)) : readExprs text = some items := by
  have hbuild := build_laidAll [] [] [] items
  rw [List.append_nil, List.nil_append] at hbuild
  rw [readExprs, h.tokens]
  exact hbuild

end Policy
