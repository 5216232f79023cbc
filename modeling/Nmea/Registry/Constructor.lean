import Nmea.Kind.Builtin

/-!
# Constructors

A constructor builds the sentences of a kind, from the text of a line and for a talker. What it
builds with are functions, and a function cannot be compared with another; so each function that
is made gets a tag of its own, and two constructors are the same if their tags are.
-/

namespace Nmea

/-- Tells the functions of constructors apart. -/
inductive Tag
  /-- A function that was made for a caller. -/
  | given (number : Nat)
  /-- A function that a registry made for itself. -/
  | own (number : Nat)
  deriving DecidableEq

/-- A function with the tag that it got when it was made. -/
structure Tagged (α : Type) where
  /-- The tag. -/
  tag : Tag
  /-- The function. -/
  run : α

/-- Reads the sentence of a line. -/
abbrev FromText := Text → Logged (Except Error Sentence)

/-- Builds a sentence of a talker. -/
abbrev ForTalker := Talker → Logged Sentence

/-- Builds sentences in the ways that it is capable of. -/
structure Constructor where
  /-- Builds from the text of a line. -/
  fromText : Option (Tagged FromText) := none
  /-- Builds for a talker. -/
  forTalker : Option (Tagged ForTalker) := none

namespace Constructor

/-- Adds the capability to read the lines of a kind. -/
def withFromText (c : Constructor) (tag : Tag) (k : Kind) : Constructor :=
  { c with fromText := some ⟨tag, k.parse⟩ }

/-- Adds the capability to build the sentences of a kind. -/
def withForTalker (c : Constructor) (tag : Tag) (k : Kind) : Constructor :=
  { c with forTalker := some ⟨tag, k.forTalker⟩ }

/-- The constructor of a kind, with both capabilities. -/
def of (tag : Tag) (k : Kind) : Constructor :=
  Constructor.withForTalker (Constructor.withFromText {} tag k) tag k

/-- Whether two constructors hold the very same functions. -/
def sameAs (c d : Constructor) : Bool :=
  c.fromText.map Tagged.tag = d.fromText.map Tagged.tag &&
    c.forTalker.map Tagged.tag = d.forTalker.map Tagged.tag

/-- The first capability that a constructor lacks. -/
def missing? (c : Constructor) : Option Capability :=
  if c.fromText.isNone then some .fromText
  else if c.forTalker.isNone then some .forTalker
  else none

/-- A truth value as messages show it. -/
def yesNo (b : Bool) : Text := if b then "true".toList else "false".toList

/-- A constructor as messages show it. -/
def text (c : Constructor) : Text :=
  "SentenceConstructor \x7b from_text: ".toList ++ yesNo c.fromText.isSome ++
    ", for_talker: ".toList ++ yesNo c.forTalker.isSome ++ " \x7d".toList

end Constructor

end Nmea
