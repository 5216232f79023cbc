import Nmea.Declaration.Grammar.Bound

/-!
# Types

A type is a path, perhaps bounded by more, or it is built with brackets, marks and words in front.
Bounds can be added to a path only where sums are allowed, since a plus sign may else belong to an
expression.
-/

namespace Nmea.Declaration.Grammar

/-! ### Functions -/

/-- Takes the convention by which a function is called, if it comes next. -/
def tryConvention : Scan Unit := do
  if ← tryWord "extern" then
    let _ ← tryIf atText

/-- Takes the type of a result behind an arrow, if it comes next. -/
def result (g : Grammar) (sums : Bool) : Scan Unit := do
  if ← tryMark "->" then g.take (.type sums)

/-- Whether a name and a colon come next, in front of the type of an argument. The first argument
may be the value itself. -/
def atArgumentName (first : Bool) : Ahead := fun ts =>
  (atName ts || atWord "_" ts || (first && atWord "self" ts)) &&
    atMarkOnly ":" ["::"] (pass ts)

/-- Takes the type of an argument and the name in front of it, if there is one. -/
def argumentType (g : Grammar) (first : Bool) : Scan Unit := do
  let atOwn : Ahead := fun ts => first && followed (atWord "mut") (atWord "self") ts
  let own ← ask atOwn
  if own then takeWord "mut"
  let named ← ask (atArgumentName first)
  let ownNamed := named && atWord "self" (← get)
  if named then modify fun ts => pass (pass ts)
  if !ownNamed && atOwn (← get) then modify fun ts => pass (pass ts)
  else if own && !named then takeWord "self"
  else g.take (.type true)

/-- Whether three dots come next, perhaps behind a name and a colon, for any further arguments. -/
def atMoreArguments : Ahead := fun ts =>
  atMark "..." ts ||
    ((atName ts || atWord "_" ts) && atMark ":" (pass ts) && atMark "..." (pass (pass ts)))

/-- Takes the types of arguments between commas. What follows three dots is lost. -/
def argumentTypes (g : Grammar) : Scan Unit := do
  let _ ← loop (fun first => do
    if (← get).isEmpty then pure none
    else
      let _ ← outerAttributes g
      if ← ask atMoreArguments then pure none
      else
        argumentType g first
        if (← get).isEmpty then pure none
        else
          takeMark ","
          pure (some false)) true

/-- Takes the type of a function. -/
def functionType (g : Grammar) : Scan Shape := do
  let _ ← tryWord "unsafe"
  tryConvention
  takeWord "fn"
  inGroup .round (argumentTypes g)
  result g false
  pure .plain

/-! ### Bounds as types -/

/-- Takes bounds behind plus signs and tells whether there is a sign. Behind the last sign there
need be no bound only with `openEnd`. -/
def addedBounds (g : Grammar) (openEnd : Bool) : Scan Bool := do
  let found ← ask (atMark "+")
  repeatWhile do
    if ← tryMark "+" then
      if !openEnd || atBound false (← get) then g.take (.bound false false)
      pure true
    else pure false
  pure found

/-- Takes a path that is a type, calls a name, or is the first of some bounds. -/
def namedType (g : Grammar) (sums bound : Bool) : Scan Shape := do
  let form ← anyPath g false
  let ts ← get
  if form.qualified then pure .plain
  else if form.bare && atMarkOnly "!" ["!="] ts then
    let _ ← takeCall
    pure .plain
  else if bound || (sums && atMark "+" ts) then
    let more ← if sums then addedBounds g true else pure false
    pure (if more then .plain else .bound)
  else pure (if form.single then .name else .path)

/-- Takes a type in parentheses, or some with commas between them. To a single path or bound in
parentheses others may be added. -/
def roundType (g : Grammar) (sums : Bool) : Scan Shape := do
  let inner ← takeGroup .round
  if inner.isEmpty then pure .plain
  else if atLifetime inner then
    within inner (bounds g true false false)
    pure .plain
  else if atMark "?" inner then
    within inner (requirement g false)
    let more ← addedBounds g false
    pure (if more then .plain else .bound)
  else
    let (shape, several) ← within inner do
      let shape ← g (.type true)
      let several ← tryMark ","
      if several then
        let _ ← listed (g.take (.type true))
      pure (shape, several)
    if !several && sums && [Shape.name, .path, .bound].contains shape then
      let _ ← addedBounds g false
    pure .plain

/-! ### Types -/

/-- Takes a type in square brackets, perhaps with a number of times. -/
def squareType (g : Grammar) : Scan Shape := do
  inGroup .square do
    g.take (.type true)
    if ← tryMark ";" then g.take (.expression true)
  pure .plain

/-- Takes a type with marks or words in front that say how its values are reached. -/
def pointedType (g : Grammar) : Scan Shape := do
  if ← tryMark "*" then takeIf (atOneOf ["const", "mut"])
  else
    takeMark "&"
    let _ ← tryIf atLifetime
    let _ ← tryWord "mut"
  g.plain (.type false)

/-- Takes a type of whatever meets some bounds. -/
def boundedType (g : Grammar) (sums : Bool) : Scan Shape := do
  if ← tryWord "impl" then bounds g sums true true
  else
    if ← tryWord "dyn" then
      let _ ← tryMark "*"
      bounds g sums false false
    else bounds g true false false
  pure .plain

/-- Takes a type. Lifetimes in front are for a function or a path. -/
def type (g : Grammar) (sums : Bool) : Scan Shape := do
  let bound ← tryBinder g
  let atFunction := atOneOf ["extern", "fn", "unsafe"]
  if bound then guard (atPathWord (← get) || atFunction (← get))
  firstOf
    [(atGroup .round, roundType g sums),
     (atFunction, functionType g),
     (atPath, namedType g sums bound),
     (fun ts => atOneOf ["dyn", "impl"] ts || atLifetime ts, boundedType g sums),
     (atGroup .square, squareType g),
     (fun ts => atMark "*" ts || atMark "&" ts, pointedType g),
     (atMark "!", do takeMark "!"; pure .plain),
     (atWord "_", do takeWord "_"; pure .plain)]

end Nmea.Declaration.Grammar
