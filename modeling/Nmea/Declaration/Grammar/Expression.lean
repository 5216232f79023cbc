import Nmea.Declaration.Grammar.Bound
import Nmea.Declaration.Grammar.Control
import Nmea.Declaration.Grammar.Member
import Nmea.Declaration.Grammar.Operator

/-!
# Expressions

An expression is made of operands with operators between them. An operand is an atom with marks in
front of it, and with members, calls and indices behind it. An atom is a literal, a path, a group,
or begins with a word of its own.

Where a block is expected behind an expression, braces behind a path do not belong to it, so an
expression is taken with or without `structures`.
-/

namespace Nmea.Declaration.Grammar

/-! ### Groups and paths -/

/-- Takes expressions in square brackets, or one with a number of times. -/
def list (g : Grammar) : Scan Shape := do
  inGroup .square do
    if !(← get).isEmpty then
      g.take (.expression true)
      if ← tryMark ";" then g.take (.expression true)
      else if !(← get).isEmpty then
        takeMark ","
        let _ ← listed (g.take (.expression true))
  pure .plain

/-- Takes parts of a structure between commas, perhaps with another structure behind two points for
all other parts. The name of a part may be its value. -/
def structureParts (g : Grammar) : Scan Unit :=
  repeatWhile do
    if (← get).isEmpty then pure false
    else if ← tryMark ".." then
      if !(← get).isEmpty then g.take (.expression true)
      pure false
    else
      let _ ← outerAttributes g
      let named ← takePart
      if !named || atMark ":" (← get) then
        takeMark ":"
        g.take (.expression true)
      if (← get).isEmpty then pure false
      else
        takeMark ","
        pure true

/-- Whether the beginning of an operand comes next that is a path. -/
def atOperandPath : Ahead := fun ts =>
  atPath ts || followed (atWord "try") (fun ts => atMark "!" ts || atMark "::" ts) ts

/-- Takes a path, perhaps as a name that is called or as that of a structure. -/
def pathExpression (g : Grammar) (structures : Bool) : Scan Shape := do
  let form ← anyPath g true
  let ts ← get
  if !form.qualified && form.bare && atMarkOnly "!" ["!="] ts then
    let bracket ← takeCall
    pure (if bracket = .curly then .curlyCall else .plain)
  else
    if structures && atGroup .curly ts then inGroup .curly (structureParts g)
    pure .plain

/-! ### Functions without names -/

/-- Whether a function without a name comes next. -/
def atFunction : Ahead := fun ts =>
  let next := pass ts
  atMark "|" ts || atOneOf ["move", "static"] ts ||
    (atWord "for" ts && atMark "<" next && (atLifetime (pass next) || atMark ">" (pass next))) ||
    (atWord "const" ts && !atGroup .curly next) ||
    (atWord "async" ts && (atMark "|" next || atWord "move" next))

/-- Takes a pattern for an argument, perhaps with its type. -/
def functionArgument (g : Grammar) : Scan Unit := do
  let _ ← outerAttributes g
  g.take .pattern
  if ← tryMark ":" then g.take (.type true)

/-- Takes a function without a name. If the type of its result is given, a block follows. -/
def functionExpression (g : Grammar) (structures : Bool) : Scan Shape := do
  let _ ← tryBinder g
  for word in ["const", "static", "async", "move"] do
    let _ ← tryWord word
  takeMark "|"
  let _ ← listUntil (atMark "|") "," (functionArgument g)
  takeMark "|"
  if ← tryMark "->" then
    g.take (.type true)
    g.plain (.block false)
  else g.plain (.expression structures)

/-! ### Operands -/

/-- Takes a pattern and the operand that is to fit it, with comparisons and what binds more
tightly. -/
def fit (g : Grammar) (structures : Bool) : Scan Shape := do
  takeWord "let"
  let _ ← alternatives g
  takeMark "="
  let shape ← g (.operand structures)
  let _ ← g (.operators structures .compare shape)
  pure .plain

/-- Takes a call of what is built in. -/
def builtin : Scan Shape := do
  takeWord "builtin"
  takeMark "#"
  takeName
  let _ ← takeGroup .round
  pure .plain

/-- Takes an atom. -/
def atom (g : Grammar) (structures : Bool) : Scan Shape :=
  firstOf
    [(atLiteral, do
      let _ ← takeLiteral
      pure .literal),
     (atTask, task g),
     (atTrial, wordBlock g "try" false),
     (atFunction, functionExpression g structures),
     (followed (atWord "builtin") (atMark "#"), builtin),
     (atOperandPath, pathExpression g structures),
     (atGroup .round, do
      arguments g
      pure .plain),
     (atWord "break", exit g structures),
     (atWord "continue", continuation),
     (atWord "return", answer g "return"),
     (atWord "become", do
      takeWord "become"
      g.plain (.expression true)),
     (atGroup .square, list g),
     (atWord "let", fit g structures),
     (atWord "if", choice g),
     (atWord "while", whileLoop g),
     (atWord "for", eachLoop g),
     (atWord "loop", wordBlock g "loop" true),
     (atWord "match", cases g),
     (atWord "yield", answer g "yield"),
     (atWord "unsafe", wordBlock g "unsafe" true),
     (atWord "const", wordBlock g "const" true),
     (atGroup .curly, g (.block true)),
     (atMark "..", rangeEnd g structures),
     (atWord "_", do
      takeWord "_"
      pure .plain),
     (atLifetime, labelled g)]

/-- Takes the marks in front of what is referred to. -/
def referenceMarks : Scan Unit := do
  takeMark "&"
  let ts ← get
  if followed (atWord "raw") (atOneOf ["const", "mut"]) ts then set (pass (pass ts))
  else
    let _ ← tryWord "mut"

/-- Takes an operand. There are no attributes of a range without a beginning. -/
def operand (g : Grammar) (structures : Bool) : Scan Shape := do
  let attributed ← outerAttributes g
  let ts ← get
  if atMark "&" ts then
    referenceMarks
    g.plain (.operand structures)
  else if ["*", "!", "-"].any (atMark · ts) then
    set (pass ts)
    g.plain (.operand structures)
  else
    let shape ← members g (← atom g structures)
    guard (!(attributed && shape = .range))
    pure shape

/-! ### Expressions -/

/-- Takes an expression. -/
def expression (g : Grammar) (structures : Bool) : Scan Shape := do
  let shape ← g (.operand structures)
  operators g structures .lowest shape

/-- Whether an expression comes next that ends with its block. -/
def atBlock : Ahead := fun ts =>
  atGroup .curly ts || atLifetime ts || atTrial ts ||
    atOneOf ["if", "while", "loop", "match", "unsafe"] ts ||
    (atWord "for" ts && !atFunction ts) || followed (atWord "const") (atGroup .curly) ts

/-- Takes an expression that stands by itself. One with a block ends with it, unless a point or a
question mark follows. -/
def bounded (g : Grammar) : Scan Shape := do
  let _ ← outerAttributes g
  let shape ← if ← ask atBlock then atom g true else operand g true
  let ts ← get
  if shape != .block then operators g true .lowest shape
  else if atMarkOnly "." [".."] ts || atMark "?" ts then
    let shape ← members g shape
    operators g true .lowest shape
  else pure shape

end Nmea.Declaration.Grammar
