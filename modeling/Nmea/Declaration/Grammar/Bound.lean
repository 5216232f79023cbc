import Nmea.Declaration.Grammar.Attribute
import Nmea.Declaration.Grammar.Path

/-!
# Bounds

A bound says what a type can do or how long it lives. Bounds are added with plus signs. A type may
consist of bounds alone, but not of lifetimes alone.
-/

namespace Nmea.Declaration.Grammar

/-- Takes lifetimes that a bound or a function is for. -/
def binder (g : Grammar) : Scan Unit := do
  takeWord "for"
  takeMark "<"
  let _ ← listUntil (atMark ">") "," do
    let _ ← outerAttributes g
    takeLifetime
  takeMark ">"

/-- Takes lifetimes that a bound or a function is for, if they come next, and tells whether. -/
def tryBinder (g : Grammar) : Scan Bool := do
  if ← ask (atWord "for") then
    binder g
    pure true
  else pure false

/-- Takes lifetimes and names that a type makes use of. -/
def captured : Scan Unit := do
  takeWord "use"
  takeMark "<"
  let _ ← listUntil (atMark ">") "," do
    takeIf fun ts => atLifetime ts || atName ts || atWord "Self" ts
  takeMark ">"

/-- Whether the types of a function's arguments come next, perhaps behind `::`. -/
def atCallTypes : Ahead := fun ts =>
  atGroup .round ts || (atMark "::" ts && atGroup .round (pass (pass ts)))

/-- Takes the types of a function's arguments and of its result. -/
def callTypes (g : Grammar) : Scan Unit := do
  let _ ← tryMark "::"
  let _ ← inGroup .round (listed (g.take (.type true)))
  if ← tryMark "->" then g.take (.type false)

/-- Takes a bound that is a path, perhaps of functions with some types. Such types stand only in
bounds. A bound that is lifted by a question mark is not for lifetimes. -/
def requirement (g : Grammar) (constant : Bool) : Scan Unit := do
  let early ← tryBinder g
  if ← ask (atGroup .square) then
    inGroup .square (takeWord "const")
    guard constant
  else if ← tryWord "const" then guard constant
  let lifted ← tryMark "?"
  let late ← if lifted && !early then tryBinder g else pure false
  guard (!(lifted && (early || late)))
  let form ← path g false
  if !form.closed && atCallTypes (← get) then callTypes g

/-- Takes a bound. Only with `captures` it may say what a type makes use of, and only with
`constant` it may be one on constants. -/
def bound (g : Grammar) (captures constant : Bool) : Scan Shape := do
  let ts ← get
  if atLifetime ts then
    takeLifetime
    pure .plain
  else if atWord "use" ts then
    captured
    guard captures
    pure .plain
  else
    if atGroup .round ts then inGroup .round (requirement g constant) else requirement g constant
    pure .bound

/-- Whether a bound comes next behind a plus sign. -/
def atBound (constant : Bool) : Ahead := fun ts =>
  atAnyWord ts || atMark "::" ts || atMark "?" ts || atLifetime ts || atGroup .round ts ||
    (constant && atGroup .square ts)

/-- Takes bounds, of which one has to be no lifetime. With `sums` there may be more than one. -/
def bounds (g : Grammar) (sums captures constant : Bool) : Scan Unit := do
  let (found, _) ← loop (fun (found, more) => do
    if !more then pure none
    else
      let shape ← g (.bound captures constant)
      let more ← if sums then tryMark "+" else pure false
      pure (some (found || shape = .bound, more && atBound constant (← get)))) (false, true)
  guard found

/-- Takes bounds behind a colon, up to where a question is answered. -/
def boundsUntil (g : Grammar) (stop : Ahead) : Scan Unit := do
  let _ ← listUntil stop "+" (g.take (.bound false true))

end Nmea.Declaration.Grammar
