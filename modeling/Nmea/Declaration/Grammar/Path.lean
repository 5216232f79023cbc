import Nmea.Declaration.Grammar.Basic

/-!
# Paths

A path is made of words with `::` between them, behind which arguments may stand in angle brackets.
Its beginning may be a part of a type, in angle brackets itself. In an expression `::` has to come
before the arguments, since the bracket would else be an operator.
-/

namespace Nmea.Declaration

/-- What is known of a path. -/
structure PathForm where
  /-- Whether it begins with a part of a type. -/
  qualified : Bool
  /-- Whether it is a single word that does not begin at the root, perhaps with arguments in angle
  brackets. -/
  single : Bool
  /-- Whether nothing stands behind any of its words. -/
  bare : Bool
  /-- Whether arguments stand behind its last word, so that no others may follow. -/
  closed : Bool

namespace Grammar

/-! ### Arguments in angle brackets -/

/-- Takes a value for an argument: a literal, a name or a block. -/
def constant (g : Grammar) : Scan Unit :=
  firstOf
    [(atLiteral, do let _ ← takeLiteral),
     (atName, takeName),
     (atGroup .curly, g.take (.block true))]

/-- Whether an argument comes next that is no type. -/
def atConstant : Ahead := fun ts => atLiteral ts || atGroup .curly ts

/-- Takes an argument: a lifetime, a value or a type. A type that is a single word may be the name
of an argument, which is set or bounded. -/
def argument (g : Grammar) : Scan Unit := do
  let ts ← get
  if atLifetime ts && !atMark "+" (pass ts) then takeLifetime
  else if atConstant ts then constant g
  else
    let shape ← g (.type true)
    if shape = .name then
      if ← tryMark "=" then
        if ← ask atConstant then constant g else g.take (.type true)
      else if ← tryMark ":" then
        chain (fun ts => atMark "," ts || atMark ">" ts) "+" (g.take (.bound false true))

/-- Takes arguments with their angle brackets, and tells whether there are any. -/
def angled (g : Grammar) : Scan Bool := do
  takeMark "<"
  let found ← listUntil (atMark ">") "," (argument g)
  takeMark ">"
  pure !found.isEmpty

/-! ### Segments -/

/-- Takes a word of a path and the arguments behind it. It tells whether there are none, and whether
there are some. -/
def segment (g : Grammar) (inExpression : Bool) : Scan (Bool × Bool) := do
  if ← tryIf (atOneOf ["super", "self", "crate", "try"]) then pure (true, false)
  else
    takeIf fun ts => atWord "Self" ts || atName ts
    let ts ← get
    if atMark "::" ts && atMark "<" (pass (pass ts)) then
      takeMark "::"
      pure (false, ← angled g)
    else if !inExpression && atMarkOnly "<" ["<=", "<<="] ts then pure (false, ← angled g)
    else pure (true, false)

/-- Takes the segments behind others, as long as `::` comes next and a question is answered. -/
def furtherSegments (g : Grammar) (inExpression : Bool) (more : Ahead) :
    PathForm → Scan PathForm :=
  loop fun form => do
    if ← ask fun ts => atMark "::" ts && more ts then
      takeMark "::"
      let (bare, closed) ← segment g inExpression
      pure (some { form with single := false, bare := form.bare && bare, closed })
    else pure none

/-- Whether what follows the next two marks is no group in parentheses. -/
def noCallBehind : Ahead := fun ts => !atGroup .round (pass (pass ts))

/-- Takes a path that does not begin with a part of a type. -/
def path (g : Grammar) (inExpression : Bool) : Scan PathForm := do
  let rooted ← tryMark "::"
  let (bare, closed) ← segment g inExpression
  furtherSegments g inExpression noCallBehind
    { qualified := false, single := !rooted, bare, closed }

/-- Takes a path, which may begin with a part of a type: in angle brackets a type, and perhaps the
path of what it is seen as. -/
def anyPath (g : Grammar) (inExpression : Bool) : Scan PathForm := do
  if ← tryMark "<" then
    g.take (.type true)
    if ← tryWord "as" then
      let _ ← path g false
    takeMark ">"
    takeMark "::"
    let (bare, closed) ← segment g inExpression
    furtherSegments g inExpression (fun _ => true)
      { qualified := true, single := false, bare, closed }
  else path g inExpression

end Grammar

end Nmea.Declaration
