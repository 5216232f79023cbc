import Nmea.Declaration.Grammar.Path

/-!
# Members

Behind an operand its parts may be named, it may be called, and it may be indexed. A question mark
leaves the function if the operand has failed. A range without a beginning has no parts.
-/

namespace Nmea.Declaration.Grammar

/-- Takes arguments in parentheses. -/
def arguments (g : Grammar) : Scan Unit := do
  let _ ← inGroup .round (listed (g.take (.expression true)))

/-- Takes a part behind a point, perhaps with arguments in angle brackets and a call. -/
def part (g : Grammar) : Scan Unit := do
  if !(← tryWord "await") then
    let named ← takePart
    let angles := named && atMark "::" (← get)
    if angles then
      takeMark "::"
      let _ ← angled g
    if angles || (named && atGroup .round (← get)) then arguments g

/-- Takes what stands behind a point. A decimal is the numbers of two parts there, unless its point
is the last. -/
def parts (g : Grammar) : Scan Unit := do
  match ← get with
  | .literal (.decimal written) :: rest =>
    set rest
    let open? := written.getLast? = some '.'
    let written := if open? then written.dropLast else written
    guard ((written.splitOn '.').all isPartIndex)
    if open? then part g
  | _ => part g

/-- Takes a call, a part or an index behind an operand of some shape, if one comes next. -/
def member? (g : Grammar) (shape : Shape) : Scan (Option Shape) := do
  let ts ← get
  if atGroup .round ts then
    arguments g
    pure (some .plain)
  else if atGroup .square ts then
    inGroup .square (g.take (.expression true))
    pure (some .plain)
  else if shape = .range then pure none
  else if atMarkOnly "." [".."] ts then
    takeMark "."
    parts g
    pure (some .plain)
  else if ← tryMark "?" then pure (some .plain)
  else pure none

/-- Takes the members of an operand of some shape. -/
def members (g : Grammar) : Shape → Scan Shape := loop (member? g)

end Nmea.Declaration.Grammar
