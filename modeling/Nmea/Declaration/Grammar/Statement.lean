import Nmea.Declaration.Grammar.Attribute

/-!
# Statements

A block is made of statements. A statement binds a pattern, defines something, or is an expression,
behind which a semicolon stands unless it ends with its block or is the last one.
-/

namespace Nmea.Declaration.Grammar

/-! ### Bindings -/

/-- Whether the last of the tokens in front of some others are braces. -/
def endsCurly (before after : List Token) : Bool :=
  match (before.take (before.length - after.length)).getLast? with
  | some (.group .curly _) => true
  | _                      => false

/-- Takes a binding of a pattern, perhaps with its type and its value. A value that does not end
with braces may be followed by a block for the case that it does not fit. -/
def binding (g : Grammar) : Scan Unit := do
  takeWord "let"
  g.take .pattern
  if ← tryMark ":" then g.take (.type true)
  if ← tryMark "=" then
    let before ← get
    g.take (.expression true)
    if !endsCurly before (← get) then
      if ← tryWord "else" then g.take (.block false)
  takeMark ";"

/-! ### Looking ahead -/

/-- What is left behind a plain path if it is called. -/
def afterCalled? (ts : List Token) : Option (List Token) := do
  let (_, rest) ← takePlainPath.run ts
  guard (atMark "!" rest)
  some (pass rest)

/-- Whether a plain path comes next that is called with a name, as definitions can be. -/
def atNamedCall : Ahead := fun ts =>
  (afterCalled? ts).any fun rest => atName rest || atWord "try" rest

/-- Whether a plain path comes next that is called with braces and has no members. -/
def atCurlyCall : Ahead := fun ts =>
  (afterCalled? ts).any fun rest =>
    atGroup .curly rest && !atMarkOnly "." [".."] (pass rest) && !atMark "?" (pass rest)

/-- Whether a constant is defined next, or a function that is one. -/
def atConstantDefinition : Ahead := fun ts =>
  let next := pass ts
  atWord "const" ts &&
    !(atGroup .curly next || atOneOf ["static", "move"] next || atMark "|" next ||
      (atWord "async" next && !atOneOf ["unsafe", "extern", "fn"] (pass next)))

/-- Whether a definition comes next. -/
def atDefinition : Ahead := fun ts =>
  let next := pass ts
  atOneOf ["pub", "extern", "use", "fn", "mod", "type", "struct", "enum", "trait", "impl",
      "macro"] ts ||
    (atWord "crate" ts && !atMark "::" next) ||
    (atWord "static" ts && (atWord "mut" next || atName next)) ||
    atConstantDefinition ts ||
    (atWord "unsafe" ts && !atGroup .curly next) ||
    (atWord "async" ts && atOneOf ["unsafe", "extern", "fn"] next) ||
    (atWord "union" ts && atName next) ||
    (atWord "auto" ts && atWord "trait" next) ||
    (atWord "default" ts && atOneOf ["unsafe", "impl"] next) ||
    atNamedCall ts

/-! ### Statements -/

/-- Takes a call with braces that stands by itself. -/
def curlyCall : Scan Unit := do
  let _ ← takePlainPath
  let _ ← takeCall
  let _ ← tryMark ";"

/-- Takes a statement, and tells whether it is an expression that lacks a semicolon. -/
def statement (g : Grammar) : Scan Bool := do
  let _ ← outerAttributes g
  let ts ← get
  if atCurlyCall ts then
    curlyCall
    pure false
  else if atWord "let" ts then
    binding g
    pure false
  else if atDefinition ts then
    g.take .definition
    pure false
  else
    let shape ← g .bounded
    let ended ← tryMark ";"
    pure (!ended && shape != .block && shape != .curlyCall)

/-- Takes statements up to the end. Only the last one may lack a semicolon. -/
def statements (g : Grammar) : Scan Unit :=
  repeatWhile do
    repeatWhile (tryMark ";")
    if (← get).isEmpty then pure false
    else
      let lacking ← statement g
      guard (!lacking || (← get).isEmpty)
      pure true

/-- Takes a block. -/
def block (g : Grammar) (attributed : Bool) : Scan Shape := do
  inGroup .curly do
    if attributed then innerAttributes g
    statements g
  pure .block

end Nmea.Declaration.Grammar
