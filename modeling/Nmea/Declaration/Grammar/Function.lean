import Nmea.Declaration.Grammar.Parameter
import Nmea.Declaration.Grammar.Type

/-!
# Functions

A function has words in front that say how it can be called, a name, parameters, arguments with
their types, the type of its result, and a block. The value that it belongs to may be its first
argument.
-/

namespace Nmea.Declaration.Grammar

/-! ### Looking ahead -/

/-- What is left behind one token if it is as asked. -/
def passIf (ahead : Ahead) (ts : List Token) : List Token := if ahead ts then pass ts else ts

/-- Whether a function is defined next. With `trusting`, it may be said that it can be trusted. -/
def atSignature (trusting : Bool) : Ahead := fun ts =>
  let ts := passIf (atWord "async") (passIf (atWord "const") ts)
  let ts := passIf (fun ts => atWord "unsafe" ts || (trusting && atWord "safe" ts)) ts
  let ts := if atWord "extern" ts then passIf atText (pass ts) else ts
  atWord "fn" ts

/-! ### Arguments -/

/-- Takes the value itself as the first argument of a function. -/
def receiver (g : Grammar) : Scan Unit := do
  let borrowed ← tryMark "&"
  if borrowed then
    let _ ← tryIf atLifetime
  let _ ← tryWord "mut"
  takeWord "self"
  if !borrowed then
    if ← tryMark ":" then g.take (.type true)

/-- Takes an argument with its type, and tells whether it stands for any further ones. The value
itself can only be the first argument. -/
def typedArgument (g : Grammar) (first : Bool) : Scan Bool := do
  let ts ← get
  match (receiver g).run ts with
  | some (_, rest) =>
    guard first
    set rest
    pure false
  | none =>
    if followed atName (atMark "<") ts then
      g.take (.type true)
      pure false
    else
      g.take .pattern
      takeMark ":"
      if ← tryMark "..." then pure true
      else
        g.take (.type true)
        pure false

/-- Takes arguments with their types between commas. What follows any further ones is lost. -/
def typedArguments (g : Grammar) : Scan Unit := do
  let _ ← loop (fun first => do
    if (← get).isEmpty then pure none
    else
      let _ ← outerAttributes g
      let further ← if ← tryMark "..." then pure true else typedArgument g first
      if (← get).isEmpty then pure none
      else
        takeMark ","
        pure (if further then none else some false)) true

/-! ### Functions -/

/-- Takes all of a function but its block. -/
def signature (g : Grammar) (trusting : Bool) : Scan Unit := do
  let _ ← tryWord "const"
  let _ ← tryWord "async"
  if !(← tryWord "unsafe") && trusting then
    let _ ← tryWord "safe"
  tryConvention
  takeWord "fn"
  takeName
  parameters g
  inGroup .round (typedArguments g)
  result g true
  conditions g

/-- Takes a function. A semicolon may stand in place of its block. -/
def functionDefinition (g : Grammar) (trusting : Bool) : Scan Unit := do
  signature g trusting
  if !(← tryMark ";") then g.take (.block true)

end Nmea.Declaration.Grammar
