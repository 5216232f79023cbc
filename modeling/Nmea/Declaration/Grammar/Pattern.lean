import Nmea.Declaration.Grammar.Attribute
import Nmea.Declaration.Grammar.Path

/-!
# Patterns

A pattern names the parts of a value: it is a name, a literal, a range, a path with patterns for
the parts, or a group of patterns. Alternatives are kept apart by bars.
-/

namespace Nmea.Declaration.Grammar

/-- Whether an alternative comes next behind a pattern. -/
def atAlternative : Ahead := atMarkOnly "|" ["||", "|="]

/-- Takes patterns that are alternatives; one more bar may stand in front. -/
def alternatives (g : Grammar) : Scan Shape := do
  let led ← tryMark "|"
  let first ← g .pattern
  let several ← ask atAlternative
  repeatWhile do
    if ← ask atAlternative then
      takeMark "|"
      g.take .pattern
      pure true
    else pure false
  pure (if led || several then .plain else first)

/-! ### Ranges -/

/-- Whether a range ends without a bound. -/
def atNoBound : Ahead := fun ts =>
  ts.isEmpty || ["|", "=", ",", ";"].any (atMark · ts) || atMarkOnly ":" ["::"] ts ||
    atWord "if" ts

/-- Takes the end of a range, and tells whether there is one. -/
def tryRangeBound (g : Grammar) : Scan Bool := do
  if ← ask atNoBound then pure false
  else
    firstOf
      [(atLiteral, do let _ ← takeLiteral),
       (atPath, do let _ ← anyPath g true),
       (atWord "const", do takeWord "const"; g.take (.block true))]
    pure true

/-- Takes the marks of a range and its end. A range to which its end belongs must have one. -/
def rangeBehind (g : Grammar) : Scan Shape := do
  let closed ← if ← tryMark "..=" then pure true else tryMark "..."
  if !closed then takeMark ".."
  if ← tryRangeBound g then pure .plain
  else
    guard (!closed)
    pure .openRange

/-- Takes a literal or a constant, which may begin a range. -/
def boundPattern (g : Grammar) : Scan Shape := do
  guard (← tryRangeBound g)
  if ← ask (atMark "..") then rangeBehind g else pure .plain

/-- Takes a range without a beginning, or the marks for whatever else there is. -/
def restPattern (g : Grammar) : Scan Shape := do
  let closed ← tryMark "..="
  if !closed then takeMark ".."
  if ← tryRangeBound g then pure .openRange
  else
    guard (!closed)
    pure .plain

/-! ### Parts -/

/-- Takes a pattern for a part of a structure. The name of the part may be the pattern. -/
def partPattern (g : Grammar) : Scan Unit := do
  let boxed ← tryWord "box"
  let borrowed ← tryWord "ref"
  let mutable ← tryWord "mut"
  let marked := boxed || borrowed || mutable
  let named ← if marked then do takeName; pure true else takePart
  if !named || (!marked && atMark ":" (← get)) then
    takeMark ":"
    let _ ← alternatives g

/-- Takes patterns for the parts of a structure between commas. What follows the marks for all
other parts is lost. -/
def partPatterns (g : Grammar) : Scan Unit :=
  repeatWhile do
    if (← get).isEmpty then pure false
    else
      let _ ← outerAttributes g
      if ← ask (atMark "..") then pure false
      else
        partPattern g
        if (← get).isEmpty then pure false
        else
          takeMark ","
          pure true

/-- Takes patterns between commas. -/
def patterns (g : Grammar) : Scan Unit := do
  let _ ← listed (alternatives g)

/-- Takes patterns between commas, of which none is a range without a beginning or an end. -/
def closedPatterns (g : Grammar) : Scan Unit := do
  let _ ← listed do
    let shape ← alternatives g
    guard (shape != .openRange)

/-- Takes a path and patterns for its parts, or a range from it on. -/
def pathPattern (g : Grammar) : Scan Shape := do
  let form ← anyPath g true
  let ts ← get
  if !form.qualified && form.bare && atMarkOnly "!" ["!="] ts then
    let _ ← takeCall
    pure .plain
  else if atMark ".." ts then rangeBehind g
  else
    if atGroup .curly ts then inGroup .curly (partPatterns g)
    else if atGroup .round ts then inGroup .round (patterns g)
    pure .plain

/-! ### Patterns -/

/-- Whether a path comes next that is no mere name. -/
def atPathPattern : Ahead := fun ts =>
  (atName ts &&
    (["::", "!", ".."].any (atMark · (pass ts)) || atGroup .curly (pass ts) ||
      atGroup .round (pass ts))) ||
    followed (atWord "self") (atMark "::") ts || atMark "::" ts || atMark "<" ts ||
    atOneOf ["Self", "super", "crate"] ts

/-- Takes a name, perhaps with a pattern for what it names. -/
def namePattern (g : Grammar) : Scan Shape := do
  let _ ← tryWord "ref"
  let _ ← tryWord "mut"
  takeIf fun ts => atWord "self" ts || atName ts
  if ← tryMark "@" then g.take .pattern
  pure .plain

/-- Takes a pattern without alternatives. -/
def pattern (g : Grammar) : Scan Shape :=
  firstOf
    [(atPathPattern, pathPattern g),
     (atWord "_", do takeWord "_"; pure .plain),
     (atWord "box", do takeWord "box"; g.plain .pattern),
     (fun ts => atMark "-" ts || atLiteral ts || atWord "const" ts, boundPattern g),
     (fun ts => atOneOf ["ref", "mut", "self"] ts || atName ts, namePattern g),
     (atMark "&", do
      takeMark "&"
      let _ ← tryWord "mut"
      g.plain .pattern),
     (atGroup .round, do
      inGroup .round (patterns g)
      pure .plain),
     (atGroup .square, do
      inGroup .square (closedPatterns g)
      pure .plain),
     (atMarkOnly ".." ["..."], restPattern g)]

end Nmea.Declaration.Grammar
