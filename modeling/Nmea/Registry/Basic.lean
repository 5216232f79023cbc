import Nmea.Registry.Constructor
import Nmea.Registry.Entries

/-!
# The registry

A registry knows a constructor for each sentence id that it supports, and builds sentences from
lines and for talkers. It starts with the built-in kinds; others can be registered, in place of
built-in ones if need be, and the built-in ones put back.
-/

namespace Nmea

/-- The constructors under their sentence ids, and the validator of the lines they read. -/
structure Registry where
  /-- The constructors. -/
  entries : Entries Constructor
  /-- What a line needs before any constructor sees it. -/
  validator : Validator := {}
  /-- The number of tags that were given to constructors of its own. -/
  made : Nat := 0

namespace Registry

/-! ### New registries -/

/-- A registry without constructors. -/
def empty : Registry := { entries := [] }

/-- Puts the constructors of kinds into entries, with tags from a number on. -/
def fill (made : Nat) (entries : Entries Constructor) : List Kind → Entries Constructor
  | []      => entries
  | k :: ks => fill (made + 1) (entries.insert k.id (.of (.own made) k)) ks

/-- The constructors of the built-in kinds, with tags from a number on. -/
def builtinEntries (made : Nat) : Entries Constructor := fill made [] Kind.builtins

/-- A registry with the built-in kinds. -/
def builtin : Registry :=
  { entries := builtinEntries 0, made := Kind.builtins.length }

/-- The registry with another validator. -/
def withValidator (r : Registry) (v : Validator) : Registry := { r with validator := v }

/-! ### Registration -/

/-- Registers a constructor under a sentence id. It must have both capabilities. -/
def register (r : Registry) (id : Text) (c : Constructor) :
    Logged (Except Error Unit × Registry) := do
  match c.missing? with
  | some missing =>
    Logged.tell (.registrationRefused id missing)
    pure (.error (.registration id missing), r)
  | none =>
    Logged.tell (.registered id (r.entries.find? id).isSome)
    pure (.ok (), { r with entries := r.entries.insert id c })

/-- Registers a new constructor of a kind under its own sentence id. -/
def registerKind (r : Registry) (k : Kind) : Logged (Except Error Unit × Registry) :=
  { r with made := r.made + 1 }.register k.id (.of (.own r.made) k)

/-- Takes out the entry under a sentence id. -/
def unregisterId (r : Registry) (id : Text) : Logged (Option Constructor × Registry) := do
  match r.entries.find? id with
  | none   => pure (none, r)
  | some c =>
    Logged.tell (.unregistered id)
    pure (some c, { r with entries := r.entries.erase id })

/-- Takes out an entry with this very constructor, and answers its sentence id. -/
def unregister (r : Registry) (c : Constructor) : Logged (Option Text × Registry) := do
  match r.entries.idOf? (·.sameAs c) with
  | none    => pure (none, r)
  | some id =>
    Logged.tell (.unregistered id)
    pure (some id, { r with entries := r.entries.erase id })

/-- Puts new constructors of the built-in kinds in place of all entries. -/
def reset (r : Registry) : Logged Registry := do
  let entries := builtinEntries r.made
  Logged.tell (.resetToBuiltins entries.length)
  pure { r with entries, made := r.made + Kind.builtins.length }

/-! ### Lookup -/

/-- Whether a sentence id has a constructor. -/
def supports (r : Registry) (id : Text) : Bool := (r.entries.find? id).isSome

/-- The sentence ids that have a constructor, ascending. -/
def ids (r : Registry) : List Text := r.entries.ids

/-- The constructor of a sentence id; the log is told if there is none. -/
def lookup (r : Registry) (id : Text) : Logged (Except Error Constructor) := do
  match r.entries.find? id with
  | some c => pure (.ok c)
  | none   =>
    Logged.tell (.unknownId id)
    pure (.error (.unsupportedSentence id))

/-! ### Sentences -/

/-- Reads a line with the constructor of its sentence id; the log is told if it cannot. -/
def readWith (id raw : Text) (c : Constructor) : Logged (Except Error Sentence) := do
  match c.fromText with
  | none          => pure (.error (.unsupportedSentence id))
  | some fromText => do
    match ← fromText.run raw with
    | .ok sentence => pure (.ok sentence)
    | .error why   =>
      Logged.tell (.constructorFailed id why)
      pure (.error why)

/-- The sentence of a line. -/
def createFromText (r : Registry) (raw : Text) : Logged (Except Error Sentence) := do
  if ← r.validator.isValid raw then
    match ← sentenceIdOf raw with
    | none    => pure (.error (.malformedSentence raw))
    | some id =>
      match ← r.lookup id with
      | .ok c      => readWith id raw c
      | .error why => pure (.error why)
  else pure (.error (.malformedSentence raw))

/-- A blank sentence of a talker. -/
def createForTalker (r : Registry) (talker : Talker) (id : Text) :
    Logged (Except Error Sentence) := do
  match ← r.lookup id with
  | .error why => pure (.error why)
  | .ok c      =>
    match c.forTalker with
    | none           => pure (.error (.unsupportedSentence id))
    | some forTalker => do
      let sentence ← forTalker.run talker
      pure (.ok sentence)

/-- A registry as messages show it. -/
def text (r : Registry) : Text :=
  "SentenceFactory \x7b parsers: [".toList ++ [',', ' '].intercalate (r.ids.map quoted) ++
    "], validator: ".toList ++ r.validator.text ++ " \x7d".toList

end Registry

end Nmea
