import Nmea.Declaration.Value
import Nmea.Text.Numeral

/-!
# Items of declarations

A declaration is a list of items: `id`, `fields` and `begin` with a value behind an equals sign,
and `preset` with the index and the text of a field between parentheses.
-/

namespace Nmea.Declaration

/-! ### Faults -/

/-- The names of items. -/
inductive ItemName
  /-- The sentence id. -/
  | id
  /-- The number of fields. -/
  | fields
  /-- What opens a sentence. -/
  | opening
  /-- A field that is filled in. -/
  | preset
  deriving DecidableEq

/-- The word for an item. -/
def ItemName.text : ItemName → Text
  | .id      => "id".toList
  | .fields  => "fields".toList
  | .opening => "begin".toList
  | .preset  => "preset".toList

/-- The item that a word stands for. -/
def ItemName.ofText? (word : Text) : Option ItemName :=
  [ItemName.id, .fields, .opening, .preset].find? (·.text = word)

/-- What can be wrong with a declaration. -/
inductive Fault
  /-- It cannot be cut into tokens, or they do not form a list of items. -/
  | unreadable
  /-- What is declared does not hold exactly one record. -/
  | notNewtype
  /-- What is declared is an enumeration. -/
  | enumeration
  /-- What is declared is a union. -/
  | union
  /-- There is no such item. -/
  | unknownItem
  /-- An item has no value. -/
  | missingValue (name : ItemName)
  /-- A part of a preset is no literal. -/
  | notLiteral
  /-- A part of a preset is neither an index nor a text. -/
  | notPresetPart
  /-- A preset lacks its index or its text. -/
  | incompletePreset
  /-- An item that may stand once stands twice. -/
  | duplicate (name : ItemName)
  /-- An item has a value of the wrong sort. -/
  | wrongValue (name : ItemName)
  /-- A text cannot be a sentence id. -/
  | badId
  /-- There would be no field. -/
  | noFields
  /-- A character opens no sentence. -/
  | badOpening
  /-- There is no sentence id. -/
  | missingId
  /-- There is no number of fields. -/
  | missingFields
  /-- A preset is for a field that there is not. -/
  | presetOutOfRange (index count : Nat)
  /-- A field cannot carry the text of a preset. -/
  | badPresetText
  deriving DecidableEq

/-- What is told about a fault, without the words that come before each message. -/
def Fault.detail? : Fault → Option Text
  | .unreadable       => none
  | .notNewtype       =>
    some "Expected a newtype struct, e.g. `struct GGA(SentenceRecord);`".toList
  | .enumeration      => some "Enums are not supported".toList
  | .union            => some "Unions are not supported".toList
  | .unknownItem      => some "Unknown sentence attribute".toList
  | .missingValue n   => some ("Expected '= <value>' for `".toList ++ n.text ++ "`".toList)
  | .notLiteral       => some "Expected a literal".toList
  | .notPresetPart    =>
    some "Expected `index = <integer>` or `value = \"<text>\"`".toList
  | .incompletePreset => some "`preset` needs both `index` and `value`".toList
  | .duplicate n      => some ("Duplicate sentence attribute `".toList ++ n.text ++ "`".toList)
  | .wrongValue n     => some ("Unexpected value for `".toList ++ n.text ++ "`".toList)
  | .badId            => some "`id` must be 2 to 8 upper-case letters or digits".toList
  | .noFields         => some "A sentence has at least one field".toList
  | .badOpening       => some "`begin` must be '$' or '!'".toList
  | .missingId        => some "Missing `id = \"...\"` attribute".toList
  | .missingFields    => some "Missing `fields = N` attribute".toList
  | .presetOutOfRange index count =>
    some ("Preset index ".toList ++ decimal index ++ " is out of range for ".toList ++
      decimal count ++ " fields".toList)
  | .badPresetText    =>
    some "Preset values must be printable ASCII without ',' or '*'".toList

/-- The words before each message. -/
def messageStart : Text := "nmea0183-sentence-derive: ".toList

/-- What is told about a fault; for a text that cannot be read there is no message. -/
def Fault.message? (f : Fault) : Option Text := f.detail?.map (messageStart ++ ·)

/-! ### Items -/

/-- An item of a declaration. -/
inductive Item
  /-- A value for the id, the number of fields or the opening. -/
  | setting (name : ItemName) (value : Literal)
  /-- The index and the text of a field that is filled in. -/
  | preset (negative : Bool) (index : Nat) (text : Text)
  deriving DecidableEq

/-- What an item is called. -/
def Item.name : Item → ItemName
  | .setting name _ => name
  | .preset _ _ _   => .preset

/-- A part of a preset: the word in front of the equals sign, if it is one, and the value behind
it, if it is a literal. -/
abbrev PresetPart := Option Text × Option Literal

/-- The index and the text among the parts of a preset, of which the last ones count. -/
def presetOfParts : List PresetPart → Option (Bool × Nat) → Option Text → Except Fault Item
  | [], some (negative, index), some text => .ok (.preset negative index text)
  | [], _, _                              => .error .incompletePreset
  | (_, none) :: _, _, _                  => .error .notLiteral
  | (name, some value) :: parts, index, text =>
    match value with
    | .integer negative n _ =>
      if name = some "index".toList then presetOfParts parts (some (negative, n)) text
      else .error .notPresetPart
    | .text t =>
      if name = some "value".toList then presetOfParts parts index (some t)
      else .error .notPresetPart
    | _ => .error .notPresetPart

/-- The preset with these tokens between its parentheses. -/
def readPreset (inner : List Token) : Except Fault Item :=
  match (listed grammar.setting).run inner with
  | some (parts, _) => presetOfParts parts none none
  | none            => .error .unreadable

/-- An item in front of some tokens, and the rest. -/
def readItem : List Token → Except Fault (Item × List Token)
  | .word w :: rest =>
    if !isName w then .error .unreadable
    else match ItemName.ofText? w with
      | none         => .error .unknownItem
      | some .preset =>
        match rest with
        | .group .round inner :: rest => do
          let item ← readPreset inner
          pure (item, rest)
        | _ => .error .unreadable
      | some name =>
        match rest with
        | .mark '=' _ :: rest =>
          match readLiteralToken rest with
          | some (value, rest) => .ok (.setting name value, rest)
          | none               => .error .unreadable
        | _ => .error (.missingValue name)
  | _ => .error .unreadable

/-- The items of a declaration between commas; one more comma may stand at the end. -/
def readItems (ts : List Token) : Except Fault (List Item) :=
  if ts.isEmpty then .ok []
  else match readItem ts with
    | .error fault                   => .error fault
    | .ok (item, [])                 => .ok [item]
    | .ok (item, .mark ',' _ :: rest) =>
      if _h : rest.length < ts.length then
        (readItems rest).map fun items => item :: items
      else .error .unreadable
    | .ok _                          => .error .unreadable
termination_by ts.length

end Nmea.Declaration
