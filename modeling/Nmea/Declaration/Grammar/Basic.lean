import Nmea.Declaration.Scan

/-!
# Phrases of declarations

Where a declaration expects a value, any expression may stand, and in an expression there may be
types, patterns, statements and definitions. They are recognised and not evaluated: of a phrase
only its shape is kept, as far as it decides what may come next.

Phrases stand within each other in every combination. The scan of each kind of phrase is therefore
given the scans of all of them for the phrases inside, as a `Grammar`.
-/

namespace Nmea.Declaration

/-! ### Phrases -/

/-- How tightly operators bind, the loosest first. -/
inductive Level
  /-- Looser than any operator. -/
  | lowest
  /-- Assignments. -/
  | assign
  /-- Ranges. -/
  | range
  /-- The lazy disjunction. -/
  | or
  /-- The lazy conjunction. -/
  | and
  /-- Comparisons, which do not follow each other. -/
  | compare
  /-- The disjunction of bits. -/
  | bitOr
  /-- The exclusive disjunction of bits. -/
  | bitXor
  /-- The conjunction of bits. -/
  | bitAnd
  /-- Shifts of bits. -/
  | shift
  /-- Sums and differences. -/
  | sum
  /-- Products and quotients. -/
  | product
  /-- Conversions to a type. -/
  | cast
  deriving DecidableEq

/-- The place of a level among all. -/
def Level.rank (l : Level) : Nat := l.ctorIdx

/-- What is known of a phrase that has been taken. -/
inductive Shape
  /-- Nothing. -/
  | plain
  /-- An expression that is a literal and nothing else. -/
  | literal
  /-- An expression that is a range. -/
  | range
  /-- An expression whose last operator compares. -/
  | comparison
  /-- An expression that ends with a block of its own. -/
  | block
  /-- A call of a name with braces. -/
  | curlyCall
  /-- A type that is a single word, perhaps with arguments. -/
  | name
  /-- A type that is some other path. -/
  | path
  /-- A bound other than a lifetime, or a type that consists of one. -/
  | bound
  /-- A pattern that is a range without a beginning or an end. -/
  | openRange
  deriving DecidableEq

/-- The kinds of phrases that can stand in others. -/
inductive Phrase
  /-- An expression. With `structures`, braces behind a path belong to it. -/
  | expression (structures : Bool)
  /-- An operand with the marks in front of it and the members behind it. -/
  | operand (structures : Bool)
  /-- The operators from a level on and their operands, behind an operand of some shape. -/
  | operators (structures : Bool) (level : Level) (left : Shape)
  /-- An expression that ends where its block ends, if it is one of those with a block. -/
  | bounded
  /-- A type. With `sums`, bounds may be added to it. -/
  | type (sums : Bool)
  /-- A bound of a type. -/
  | bound (captures constant : Bool)
  /-- A pattern without alternatives. -/
  | pattern
  /-- A block. With `attributed`, attributes of its own may begin it. -/
  | block (attributed : Bool)
  /-- A definition with its attributes. -/
  | definition
  /-- The parts of a structure with their names and types, in braces. -/
  | namedParts
  /-- A tree of names to use. With `rooted`, those in a group may begin at the root. -/
  | tree (rooted : Bool)

/-- A scan for each kind of phrase. -/
abbrev Grammar := Phrase → Scan Shape

namespace Grammar

/-- Takes a phrase, whatever its shape is. -/
def take (g : Grammar) (p : Phrase) : Scan Unit := do
  let _ ← g p

/-- Takes a phrase, and tells no more about it. -/
def plain (g : Grammar) (p : Phrase) : Scan Shape := do
  g.take p
  pure .plain

end Grammar

/-! ### Names -/

/-- Whether a word comes next that can stand in a path. -/
def atPathWord : Ahead := fun ts => atName ts || atOneOf ["super", "self", "Self", "crate"] ts

/-- Whether a path comes next, perhaps one of a part of a type. -/
def atPath : Ahead := fun ts => atPathWord ts || atMark "::" ts || atMark "<" ts

/-- Takes a word that can stand in a path. -/
def takePathWord : Scan Text := do
  match ← get with
  | .word w :: rest =>
    guard (atPathWord [.word w])
    set rest
    pure w
  | _ => failure

/-- Takes a path that has nothing but words, and tells its word if it has only one. -/
def takePlainPath : Scan (Option Text) := do
  let rooted ← tryMark "::"
  let first ← takePathWord
  let more ← ask (atMark "::")
  repeatWhile do
    if ← tryMark "::" then
      let _ ← takePathWord
      pure true
    else pure false
  pure (if rooted || more then none else some first)

/-- Whether the number of a part comes next, which has no name. -/
def atPartIndex : Ahead
  | .literal (.integer false n false) :: _ => n ≤ mostPartIndex
  | _                                      => false

/-- Takes the name or the number of a part, and tells whether it is a name. -/
def takePart : Scan Bool := do
  let named ← ask atName
  takeIf fun ts => named || atPartIndex ts
  pure named

/-- Takes a mark and a group behind a path, which call it, and tells its brackets. -/
def takeCall : Scan Bracket := do
  takeMark "!"
  takeAnyGroup

end Nmea.Declaration
