import Nmea.Declaration.Grammar.Pattern

/-!
# Control of the run

Blocks are run under a condition, repeatedly, or by cases. They are left with or without a value.
Where a block is expected behind an expression, braces behind a path do not belong to it.
-/

namespace Nmea.Declaration.Grammar

/-! ### Blocks -/

/-- Whether a block comes next that runs by itself. -/
def atTask : Ahead := fun ts =>
  atWord "async" ts &&
    (atGroup .curly (pass ts) || followed (atWord "move") (atGroup .curly) (pass ts))

/-- Whether a block comes next that is left where something fails. -/
def atTrial : Ahead := followed (atWord "try") (atGroup .curly)

/-- Takes a block that runs by itself. -/
def task (g : Grammar) : Scan Shape := do
  takeWord "async"
  let _ ← tryWord "move"
  g.plain (.block false)

/-- Takes a block behind its word. -/
def wordBlock (g : Grammar) (word : String) (attributed : Bool) : Scan Shape := do
  takeWord word
  g (.block attributed)

/-- Takes a condition and a block. -/
def condition (g : Grammar) (attributed : Bool) : Scan Shape := do
  g.take (.expression false)
  g (.block attributed)

/-- Takes blocks for the case that a condition holds and for the case that it does not. -/
def choice (g : Grammar) : Scan Shape := do
  takeWord "if"
  let _ ← condition g false
  repeatWhile do
    if ← tryWord "else" then
      if ← tryWord "if" then
        let _ ← condition g false
        pure true
      else
        g.take (.block false)
        pure false
    else pure false
  pure .block

/-- Takes a block that is repeated as long as a condition holds. -/
def whileLoop (g : Grammar) : Scan Shape := do
  takeWord "while"
  condition g true

/-- Takes a block that is repeated for each element of something. -/
def eachLoop (g : Grammar) : Scan Shape := do
  takeWord "for"
  let _ ← alternatives g
  takeWord "in"
  condition g true

/-- Takes an arm of a case distinction. A comma ends it, unless it ends with a block or is the
last. -/
def arm (g : Grammar) : Scan Unit := do
  let _ ← outerAttributes g
  let _ ← alternatives g
  if ← tryWord "if" then g.take (.expression true)
  takeMark "=>"
  let shape ← g .bounded
  if shape = .block || (← get).isEmpty then
    let _ ← tryMark ","
  else takeMark ","

/-- Takes a case distinction. -/
def cases (g : Grammar) : Scan Shape := do
  takeWord "match"
  g.take (.expression false)
  inGroup .curly do
    innerAttributes g
    repeatUntil List.isEmpty (arm g)
  pure .block

/-- Takes a block or a repetition with its label. -/
def labelled (g : Grammar) : Scan Shape := do
  takeLifetime
  takeMark ":"
  firstOf
    [(atWord "while", whileLoop g),
     (atWord "for", eachLoop g),
     (atWord "loop", wordBlock g "loop" true),
     (atGroup .curly, g (.block true))]

/-! ### Leaving -/

/-- Whether an expression can begin with what comes next. -/
def atExpression : Ahead := fun ts =>
  (atAnyWord ts && !atWord "as" ts) || atLiteral ts || atLifetime ts ||
    [Bracket.round, .square, .curly].any (atGroup · ts) ||
    ["..", "::", "#"].any (atMark · ts) ||
    atMarkOnly "!" ["!="] ts || atMarkOnly "-" ["-=", "->"] ts || atMarkOnly "*" ["*="] ts ||
    atMarkOnly "|" ["|="] ts || atMarkOnly "&" ["&="] ts || atMarkOnly "<" ["<=", "<<="] ts

/-- Takes an expression if one can begin with what comes next. -/
def tryExpression (g : Grammar) : Scan Unit := do
  if ← ask atExpression then g.take (.expression true)

/-- Takes what leaves a repetition, perhaps with a label and a value. -/
def exit (g : Grammar) (structures : Bool) : Scan Shape := do
  takeWord "break"
  if ← tryIf atLifetime then guard (!atMark ":" (← get))
  if structures || !atGroup .curly (← get) then tryExpression g
  pure .plain

/-- Takes what leaves a function, perhaps with a value. -/
def answer (g : Grammar) (word : String) : Scan Shape := do
  takeWord word
  tryExpression g
  pure .plain

/-- Takes what goes on with a repetition, perhaps with a label. -/
def continuation : Scan Shape := do
  takeWord "continue"
  let _ ← tryIf atLifetime
  pure .plain

end Nmea.Declaration.Grammar
