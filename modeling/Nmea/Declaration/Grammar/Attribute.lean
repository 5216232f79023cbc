import Nmea.Declaration.Grammar.Basic

/-!
# Attributes

An attribute stands in square brackets behind a number sign: a path, and perhaps a group of
arguments or an equals sign and a value.
-/

namespace Nmea.Declaration

/-- An attribute. Of a value behind an equals sign nothing is kept. -/
structure Attribute where
  /-- Its name, if it is a single word. -/
  name : Option Text
  /-- What stands between its brackets, if it has them. -/
  arguments : Option (List Token)

namespace Grammar

/-- Takes the name of an attribute. The word `unsafe` is one by itself. -/
def attributeName : Scan (Option Text) := do
  if ← tryWord "unsafe" then pure (some "unsafe".toList) else takePlainPath

/-- Takes a value up to the end or to a comma, and tells it if it is a literal. A literal may have
a sign only if nothing comes after it. -/
def value (g : Grammar) : Scan (Option Literal) := do
  let ts ← get
  match readLiteralToken ts with
  | some (literal, []) =>
    set ([] : List Token)
    pure (some literal)
  | found =>
    guard (!followed (atMark "#") (atGroup .square) ts)
    let shape ← g (.expression true)
    pure (if shape = .literal then found.map Prod.fst else none)

/-- Takes a name, an equals sign and a value. -/
def setting (g : Grammar) : Scan (Option Text × Option Literal) := do
  let name ← attributeName
  takeMark "="
  let value ← value g
  pure (name, value)

/-- Takes what stands between the square brackets of an attribute. -/
def attributeBody (g : Grammar) : Scan Attribute := do
  let name ← attributeName
  match ← get with
  | .group _ inner :: rest =>
    set rest
    pure { name, arguments := some inner }
  | _ =>
    if ← tryMark "=" then
      let _ ← value g
    pure { name, arguments := none }

/-- Takes the attributes of what follows them, and tells whether there are any. -/
def outerAttributes (g : Grammar) : Scan Bool := do
  let found ← ask (atMark "#")
  repeatWhile do
    if ← tryMark "#" then
      let _ ← inGroup .square (attributeBody g)
      pure true
    else pure false
  pure found

/-- Takes the attributes of what they stand in. -/
def innerAttributes (g : Grammar) : Scan Unit :=
  repeatWhile do
    if ← ask (followed (atMark "#") (atMark "!")) then
      takeMark "#"
      takeMark "!"
      let _ ← inGroup .square (attributeBody g)
      pure true
    else pure false

end Grammar

end Nmea.Declaration
