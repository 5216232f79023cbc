import Nmea.Record.Edit

/-!
# Kinds of sentences

A kind fixes the sentence id, the number of fields of a blank sentence, what opens it, and the
fields that are filled in from the start. A sentence is a record seen as one of a kind.
-/

namespace Nmea

/-- What the sentences of a kind have in common. -/
structure Kind where
  /-- What the kind is called; two kinds may share a sentence id. -/
  name : Text
  /-- The sentence id. -/
  id : Text
  /-- The number of fields of a blank sentence. -/
  fieldCount : Nat
  /-- What opens a sentence of the kind. -/
  opening : Opening := .standard
  /-- The texts that are filled in, each with the index of its field. -/
  presets : List (Nat × Text) := []
  deriving DecidableEq

/-- A record seen as a sentence of a kind. -/
structure Sentence where
  /-- The kind. -/
  kind : Kind
  /-- The record. -/
  record : Record
  deriving DecidableEq

namespace Kind

/-- The sentence of a line that a validator accepts and that has the id of the kind. -/
def parseWith (k : Kind) (v : Validator) (raw : Text) : Logged (Except Error Sentence) := do
  let record ← Record.parseExpecting v k.id raw
  pure (record.map fun r => ⟨k, r⟩)

/-- The sentence of a line that has the id of the kind, under no further policies. -/
def parse (k : Kind) (raw : Text) : Logged (Except Error Sentence) := k.parseWith {} raw

/-- Fills in one field, or tells the log why it cannot be filled in. -/
def preset (k : Kind) (r : Record) (index : Nat) (text : Text) : Logged Record :=
  match (Edit.setField index text).apply r with
  | (.ok _, r)      => pure r
  | (.error why, r) => do
    Logged.tell (.presetSkipped k.id index why)
    pure r

/-- Fills in fields one after the other. -/
def fillIn (k : Kind) (r : Record) : List (Nat × Text) → Logged Record
  | []                    => pure r
  | (index, text) :: rest => do
    let r ← k.preset r index text
    k.fillIn r rest

/-- A blank sentence of a talker with the fields that the kind fills in. -/
def forTalker (k : Kind) (talker : Talker) : Logged Sentence := do
  let record ← k.fillIn (Record.blank k.opening talker k.id k.fieldCount) k.presets
  pure ⟨k, record⟩

end Kind

/-- The line of a sentence. -/
def Sentence.toText (s : Sentence) : Text := s.record.toText

end Nmea
