import Nmea.Declaration.Grammar.Basic

/-!
# Operators

Operators stand between operands, and each has a level. An operand on the right takes in whatever
binds more tightly than the operator in front of it. Ranges and comparisons do not follow each
other, and a conversion to a type has a type on its right.
-/

namespace Nmea.Declaration

/-- The operators between two operands with their levels, longer ones before their beginnings. -/
def binaryOperators : List (String × Level) :=
  [("+=", .assign), ("-=", .assign), ("*=", .assign), ("/=", .assign), ("%=", .assign),
    ("^=", .assign), ("&=", .assign), ("|=", .assign), ("<<=", .assign), (">>=", .assign),
    ("&&", .and), ("||", .or), ("<<", .shift), (">>", .shift), ("==", .compare),
    ("<=", .compare), ("!=", .compare), (">=", .compare), ("+", .sum), ("-", .sum),
    ("*", .product), ("/", .product), ("%", .product), ("^", .bitXor), ("&", .bitAnd),
    ("|", .bitOr), ("<", .compare), (">", .compare)]

/-- The operator between two operands that comes next. -/
def binaryOperator? (ts : List Token) : Option (String × Level) :=
  binaryOperators.find? fun operator => atMark operator.1 ts

/-- Whether the sign of an assignment comes next. -/
def atAssignment : Ahead := atMarkOnly "=" ["=>"]

/-- The level of what comes next. -/
def levelAhead (ts : List Token) : Level :=
  match binaryOperator? ts with
  | some (_, level) => level
  | none            =>
    if atAssignment ts then .assign
    else if atMark ".." ts then .range
    else if atWord "as" ts then .cast
    else .lowest

namespace Grammar

/-! ### Operands on the right -/

/-- Takes an operand on the right of an operator of some level, with all that binds more tightly.
Assignments follow each other from the right. -/
def right (g : Grammar) (structures : Bool) (level : Level) : Scan Shape := do
  let first ← g (.operand structures)
  loop (fun shape => do
    let ts ← get
    let next := levelAhead ts
    if level.rank < next.rank || (next = .assign && level = .assign) then
      let shape ← g (.operators structures next shape)
      pure (if (← get).length < ts.length then some shape else none)
    else pure none) first

/-- Whether a range ends here without a bound. -/
def atOpenEnd (structures : Bool) : Ahead := fun ts =>
  ts.isEmpty || atMarkOnly "." [".."] ts || (!structures && atGroup .curly ts) || atWord "as" ts ||
    [",", ";", "?", "=>", "=", "+", "/", "%", "^", ">", "<=", "!=", "-=", "*=", "&=", "|=",
      "<<="].any (atMark · ts)

/-- Takes the marks of a range and its end. A range to which its end belongs must have one. -/
def rangeEnd (g : Grammar) (structures : Bool) : Scan Shape := do
  guard (!atMark "..." (← get))
  let closed ← tryMark "..="
  if !closed then takeMark ".."
  if closed || !atOpenEnd structures (← get) then
    let _ ← right g structures .range
  pure .range

/-- Takes a conversion to a type, behind which there can be no member. -/
def conversion (g : Grammar) : Scan Shape := do
  takeWord "as"
  g.take (.type false)
  let ts ← get
  guard (!(atMarkOnly "." [".."] ts || atMark "?" ts || atGroup .square ts || atGroup .round ts))
  pure .plain

/-! ### Operators -/

/-- Takes an operator that binds as tightly as some level at least, and what is on its right. -/
def operator? (g : Grammar) (structures : Bool) (level : Level) (left : Shape) :
    Scan (Option Shape) := do
  let ts ← get
  let atLeast (l : Level) : Bool := level.rank ≤ l.rank
  if left = .range then pure none
  else match binaryOperator? ts with
    | some (mark, found) =>
      if !atLeast found then pure none
      else
        guard (!(found = .compare && left = .comparison))
        takeMark mark
        let _ ← right g structures found
        pure (some (if found = .compare then .comparison else .plain))
    | none =>
      if atLeast .assign && atAssignment ts then
        takeMark "="
        let _ ← right g structures .assign
        pure (some .plain)
      else if atLeast .range && atMark ".." ts then some <$> rangeEnd g structures
      else if atLeast .cast && atWord "as" ts then some <$> conversion g
      else pure none

/-- Takes the operators behind an operand, as far as they bind as tightly as some level. -/
def operators (g : Grammar) (structures : Bool) (level : Level) (left : Shape) : Scan Shape :=
  loop (operator? g structures level) left

end Grammar

end Nmea.Declaration
