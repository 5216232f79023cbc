import Nmea.Declaration.Grammar.Bound

/-!
# Parameters

What is defined may have parameters in angle brackets: lifetimes, types and constants. Bounds on
them can be put off to conditions behind a word of their own.
-/

namespace Nmea.Declaration.Grammar

/-- Takes a parameter in angle brackets: a lifetime, a constant or a type, perhaps with bounds and
what it is if it is not given. -/
def parameter (g : Grammar) : Scan Unit := do
  let _ ← outerAttributes g
  let atEnd : Ahead := fun ts => ts.isEmpty || atMark "," ts || atMark ">" ts
  firstOf
    [(atLifetime, do
      takeLifetime
      if ← tryMark ":" then chain atEnd "+" takeLifetime),
     (atName, do
      takeName
      if ← tryMark ":" then
        chain (fun ts => atEnd ts || atMark "=" ts) "+" (g.take (.bound false true))
      if ← tryMark "=" then g.take (.type true)),
     (atWord "const", do
      takeWord "const"
      takeName
      takeMark ":"
      g.take (.type true)
      if ← tryMark "=" then constant g),
     (atWord "_", takeWord "_")]

/-- Takes parameters with their angle brackets, if they come next. -/
def parameters (g : Grammar) : Scan Unit := do
  if ← tryMark "<" then
    let _ ← listUntil (atMark ">") "," (parameter g)
    takeMark ">"

/-- Whether parameters in angle brackets come next rather than a part of a type. -/
def atParameters : Ahead := fun ts =>
  let next := pass ts
  let third := pass next
  atMark "<" ts &&
    (atMark ">" next || atMark "#" next || atWord "const" next ||
      ((atLifetime next || atName next) &&
        (atMark ">" third || atMark "," third || atMark "=" third || atMarkOnly ":" ["::"] third)))

/-- Takes a condition on a type or a lifetime. -/
def requirementOn (g : Grammar) (stop : Ahead) : Scan Unit := do
  if ← ask (followed atLifetime (atMark ":")) then
    takeLifetime
    takeMark ":"
    chain (fun ts => stop ts || atMark ":" ts) "+" takeLifetime
  else
    let _ ← tryBinder g
    g.take (.type true)
    takeMark ":"
    chain stop "+" (g.take (.bound false true))

/-- Takes conditions on the parameters, if they come next. -/
def conditions (g : Grammar) : Scan Unit := do
  let stop : Ahead := fun ts =>
    ts.isEmpty || atGroup .curly ts || [",", ";", "="].any (atMark · ts) ||
      atMarkOnly ":" ["::"] ts
  if ← tryWord "where" then
    guard (!atParameters (← get))
    chain stop "," (requirementOn g stop)

end Nmea.Declaration.Grammar
