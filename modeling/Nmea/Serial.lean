import Nmea.Fragment
import Nmea.Kind.Basic

/-!
# Serial form

How values of the library stand in a document of nested data: records and sentences as the text of
their line, talkers as their code, policies by name, and structures as objects.
-/

namespace Nmea

/-! ### Documents -/

/-- Nested data as documents hold them. -/
inductive Datum
  /-- The absent value. -/
  | null
  /-- A truth value. -/
  | boolean (value : Bool)
  /-- A number written without a fraction. -/
  | whole (value : Int)
  /-- A number written with a fraction or a power of ten, whose value does not matter here. -/
  | fraction
  /-- A text. -/
  | text (value : Text)
  /-- A list. -/
  | list (items : List Datum)
  /-- Values under keys. -/
  | object (members : List (Text × Datum))
  deriving Inhabited

namespace Datum

/-- The values under a key of an object. -/
def valuesUnder (key : Text) (members : List (Text × Datum)) : List Datum :=
  (members.filter fun (name, _) => name = key).map Prod.snd

/-- The values of a structure with these keys: those of an object, or those of a list in order. A
key that an object lacks has the absent value if it may, and none of them may come twice. -/
def members? (keys : List (Text × Bool)) : Datum → Option (List Datum)
  | .object members => keys.mapM fun (key, mayLack) =>
    match valuesUnder key members with
    | [value] => some value
    | []      => if mayLack then some .null else none
    | _       => none
  | .list items => if items.length = keys.length then some items else none
  | _           => none

/-- The name that chooses one of several cases. -/
def name? : Datum → Option Text
  | .text name               => some name
  | .object [(name, .null)]  => some name
  | _                        => none

end Datum

/-- Why a document does not hold a value. -/
inductive SerialError
  /-- It has not the form of one. -/
  | form
  /-- It has a text that is none. -/
  | cause (why : Error)

/-- The reading of a document, which may fail and tells the log what its parts tell it. -/
abbrev Decoding (α : Type) := ExceptT SerialError Logged α

/-- A type whose values stand in documents. -/
class Serial (α : Type) where
  /-- The document of a value. -/
  encode : α → Datum
  /-- The value of a document. -/
  decode : Datum → Decoding α

namespace Serial

/-! ### Texts -/

/-- The value of a document that is the text of one. -/
def decodeText {α : Type} (parse : Text → Logged (Except Error α)) : Datum → Decoding α
  | .text t => do
    match ← (parse t : Logged _) with
    | .ok a      => pure a
    | .error why => throw (.cause why)
  | _ => throw .form

instance : Serial Record where
  encode r := .text r.toText
  decode := decodeText Record.parse

instance : Serial Talker where
  encode t := .text t.text
  decode := decodeText fun t => pure (Talker.parse t)

/-- The sentence of a document that holds its record. -/
def decodeSentence (k : Kind) (d : Datum) : Decoding Sentence := do
  let record ← decode d
  pure ⟨k, record⟩

/-- The document of a sentence. -/
def encodeSentence (s : Sentence) : Datum := encode s.record

/-! ### Cases by name -/

/-- The case with a name. -/
def decodeCase {α : Type} (name : α → Text) (cases : List α) (d : Datum) : Decoding α :=
  match d.name?.bind fun t => cases.find? fun a => name a = t with
  | some a => pure a
  | none   => throw .form

/-- What a kind of opening is called. -/
def openingName : Opening → Text
  | .standard      => "Standard".toList
  | .encapsulation => "Encapsulation".toList

instance : Serial Opening where
  encode o := .text (openingName o)
  decode := decodeCase openingName [.standard, .encapsulation]

instance : Serial ChecksumMode where
  encode m := .text m.name
  decode := decodeCase ChecksumMode.name [.required, .optional]

instance : Serial LineEndingMode where
  encode m := .text m.name
  decode := decodeCase LineEndingMode.name [.required, .optional, .forbidden]

/-! ### Structures -/

/-- The values of a structure with these keys, or the error that there is none. -/
def decodeMembers (keys : List (String × Bool)) (d : Datum) : Decoding (List Datum) :=
  match d.members? (keys.map fun (key, mayLack) => (key.toList, mayLack)) with
  | some values => pure values
  | none        => throw .form

instance : Serial Validator where
  encode v := .object
    [("checksum".toList, encode v.checksum), ("line_ending".toList, encode v.lineEnding)]
  decode d := do
    match ← decodeMembers [("checksum", false), ("line_ending", false)] d with
    | [checksum, lineEnding] => do
      let checksum ← decode checksum
      let lineEnding ← decode lineEnding
      pure { checksum, lineEnding }
    | _ => throw .form

instance : Serial UInt8 where
  encode n := .whole n.toNat
  decode
    | .whole n =>
      match FixedWidth.ofInt? n with
      | some n => pure n
      | none   => throw .form
    | _ => throw .form

instance : Serial (Option Text) where
  encode
    | none   => .null
    | some t => .text t
  decode
    | .null   => pure none
    | .text t => pure (some t)
    | _       => throw .form

instance : Serial FragmentHeader where
  encode h := .object
    [("count".toList, encode h.count), ("index".toList, encode h.index),
      ("message_id".toList, encode h.messageId), ("channel".toList, encode h.channel)]
  decode d := do
    match ← decodeMembers
      [("count", false), ("index", false), ("message_id", true), ("channel", true)] d with
    | [count, index, messageId, channel] => do
      let count ← decode count
      let index ← decode index
      let messageId ← decode messageId
      let channel ← decode channel
      pure { count, index, messageId, channel }
    | _ => throw .form

end Serial

end Nmea
