import Nmea.Number.Notation
import Nmea.Text.Quoted

/-!
# Errors

Everything that can go wrong when sentences are read, written or built, each cause with the values
that it concerns. `Error.message` tells a cause to a reader; `Error.text` shows it with its parts.
-/

namespace Nmea

/-! ### Causes -/

/-- The two ways in which a constructor builds sentences. -/
inductive Capability
  /-- From the text of a line. -/
  | fromText
  /-- For a talker, with empty fields. -/
  | forTalker
  deriving DecidableEq

/-- What a capability is called in messages. -/
def Capability.name : Capability → Text
  | .fromText  => "from-text".toList
  | .forTalker => "for-talker".toList

/-- Why a list of fragments is not one message. -/
inductive SequenceFault
  /-- There are none. -/
  | noFragments
  /-- The first one has not index one. -/
  | firstMissing
  /-- The last one is not the last of its message, or there are too few or too many. -/
  | fragmentsMissing
  /-- Two neighbours do not continue each other. -/
  | mixedMessages
  deriving DecidableEq

/-- What a fault is called in messages. -/
def SequenceFault.name : SequenceFault → Text
  | .noFragments      => "no fragments".toList
  | .firstMissing     => "first fragment missing".toList
  | .fragmentsMissing => "fragments missing".toList
  | .mixedMessages    => "fragments belong to different messages".toList

/-- What can go wrong. -/
inductive Error
  /-- A line is no sentence, or not one that the validator accepts. -/
  | malformedSentence (raw : Text)
  /-- A sentence has another id than the one asked for. -/
  | sentenceIdMismatch (expected found : Text)
  /-- A field is empty. -/
  | fieldNotAvailable (index : Nat)
  /-- The text of a field has not the form that was asked for. -/
  | fieldParse (index : Nat) (value expected : Text)
  /-- There is no such field. -/
  | indexOutOfRange (index count : Nat)
  /-- No constructor is known for a sentence id. -/
  | unsupportedSentence (id : Text)
  /-- A constructor lacks one of its two capabilities. -/
  | registration (id : Text) (missing : Capability)
  /-- A number is outside its range. -/
  | valueOutOfRange (value least greatest : Double)
  /-- A field cannot carry a text. -/
  | invalidFieldValue (index : Nat) (value : Text)
  /-- A text is no code of a talker. -/
  | invalidTalkerId (code : Text)
  /-- A talker and a sentence id do not make an address. -/
  | invalidAddress (address : Text)
  /-- A sentence is longer than allowed. -/
  | sentenceTooLong (length limit : Nat)
  /-- Fragments do not make one message. -/
  | fragmentSequence (fault : SequenceFault)
  deriving DecidableEq

namespace Error

/-! ### Messages -/

/-- What is told to a reader. -/
def message : Error → Text
  | .malformedSentence raw => "malformed sentence: ".toList ++ quoted raw
  | .sentenceIdMismatch expected found =>
    "sentence id mismatch: expected ".toList ++ expected ++ ", found ".toList ++ found
  | .fieldNotAvailable index => "field ".toList ++ decimal index ++ " is not available".toList
  | .fieldParse index value expected =>
    "field ".toList ++ decimal index ++ ": cannot read ".toList ++ quoted value ++
      " as ".toList ++ expected
  | .indexOutOfRange index count =>
    "field index ".toList ++ decimal index ++ " out of range (field count ".toList ++
      decimal count ++ ")".toList
  | .unsupportedSentence id => "unsupported sentence: ".toList ++ id
  | .registration id missing =>
    "cannot register parser for ".toList ++ id ++ ": missing ".toList ++ missing.name ++
      " constructor".toList
  | .valueOutOfRange value least greatest =>
    "value ".toList ++ value.plain ++ " out of range [".toList ++ least.plain ++ ", ".toList ++
      greatest.plain ++ "]".toList
  | .invalidFieldValue index value =>
    "field ".toList ++ decimal index ++ ": ".toList ++ quoted value ++
      " cannot be carried in a sentence field".toList
  | .invalidTalkerId code => "invalid talker id: ".toList ++ quoted code
  | .invalidAddress address => "invalid sentence address: ".toList ++ quoted address
  | .sentenceTooLong length limit =>
    "sentence is ".toList ++ decimal length ++ " characters long, limit is ".toList ++
      decimal limit
  | .fragmentSequence fault => "cannot reassemble fragments: ".toList ++ fault.name

/-! ### Causes with their parts -/

/-- What a cause is called. -/
def name : Error → Text
  | .malformedSentence _      => "MalformedSentence".toList
  | .sentenceIdMismatch _ _   => "SentenceIdMismatch".toList
  | .fieldNotAvailable _      => "FieldNotAvailable".toList
  | .fieldParse _ _ _         => "FieldParse".toList
  | .indexOutOfRange _ _      => "IndexOutOfRange".toList
  | .unsupportedSentence _    => "UnsupportedSentence".toList
  | .registration _ _         => "Registration".toList
  | .valueOutOfRange _ _ _    => "ValueOutOfRange".toList
  | .invalidFieldValue _ _    => "InvalidFieldValue".toList
  | .invalidTalkerId _        => "InvalidTalkerId".toList
  | .invalidAddress _         => "InvalidAddress".toList
  | .sentenceTooLong _ _      => "SentenceTooLong".toList
  | .fragmentSequence _       => "FragmentSequence".toList

/-- Named parts between braces. -/
def namedParts (parts : List (String × Text)) : Text :=
  " \x7b ".toList ++
    [',', ' '].intercalate (parts.map fun (name, value) => name.toList ++ ": ".toList ++ value) ++
    " \x7d".toList

/-- One part between parentheses. -/
def onlyPart (value : Text) : Text := '(' :: value ++ [')']

/-- The parts of a cause. -/
def parts : Error → Text
  | .malformedSentence raw   => onlyPart (quoted raw)
  | .sentenceIdMismatch expected found =>
    namedParts [("expected", quoted expected), ("found", quoted found)]
  | .fieldNotAvailable index => onlyPart (decimal index)
  | .fieldParse index value expected =>
    namedParts [("index", decimal index), ("value", quoted value), ("expected", quoted expected)]
  | .indexOutOfRange index count =>
    namedParts [("index", decimal index), ("count", decimal count)]
  | .unsupportedSentence id  => onlyPart (quoted id)
  | .registration id missing =>
    namedParts [("id", quoted id), ("missing", quoted missing.name)]
  | .valueOutOfRange value least greatest =>
    namedParts [("value", value.text .exact), ("min", least.text .exact),
      ("max", greatest.text .exact)]
  | .invalidFieldValue index value =>
    namedParts [("index", decimal index), ("value", quoted value)]
  | .invalidTalkerId code    => onlyPart (quoted code)
  | .invalidAddress address  => onlyPart (quoted address)
  | .sentenceTooLong length limit =>
    namedParts [("length", decimal length), ("max", decimal limit)]
  | .fragmentSequence fault  => onlyPart (quoted fault.name)

/-- A cause with its parts. -/
def text (e : Error) : Text := e.name ++ e.parts

end Error

end Nmea
