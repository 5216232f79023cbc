import Nmea.Declaration.Item
import Nmea.Kind.Basic

/-!
# Declarations of kinds

A kind can be declared by the attributes of the type that holds its records. Each attribute is a
list of items, and together they say what the sentences of the kind have in common.

`declare` checks a declaration, in this order: the attributes as they are written, what is declared,
the items of each attribute, items that stand twice, the value of each item, and what the items say
together.
-/

namespace Nmea.Declaration

/-! ### Values -/

/-- What has been said by the items so far. -/
structure Settings where
  /-- The sentence id. -/
  id : Option Text := none
  /-- The number of fields. -/
  fields : Option Nat := none
  /-- What opens a sentence. -/
  opening : Opening := .standard
  /-- The fields that are filled in. -/
  presets : List (Nat × Text) := []

/-- The number of bytes that a sentence id may have, at least and at most. -/
def idLengths : Nat × Nat := (2, 8)

/-- A text that can be a sentence id, behind any talker. -/
def isSentenceId (t : Text) : Bool :=
  idLengths.1 ≤ utf8Length t && utf8Length t ≤ idLengths.2 && t.all isAddressChar

/-- The greatest number of a count or an index. -/
def mostFields : Nat := 18446744073709551615

/-- A count or an index, which has no sign. -/
def checkCount (negative : Bool) (n : Nat) : Except Fault Nat :=
  if negative || mostFields < n then .error .unreadable else .ok n

/-- What has been said after one more item. -/
def Settings.add (s : Settings) : Item → Except Fault Settings
  | .setting .id (.text t) =>
    if isSentenceId t then .ok { s with id := some t } else .error .badId
  | .setting .fields (.integer negative n _) => do
    let n ← checkCount negative n
    if n = 0 then .error .noFields else .ok { s with fields := some n }
  | .setting .opening (.char c) =>
    match Opening.ofChar? c with
    | some opening => .ok { s with opening }
    | none         => .error .badOpening
  | .preset negative index text => do
    let index ← checkCount negative index
    .ok { s with presets := s.presets ++ [(index, text)] }
  | item => .error (.wrongValue item.name)

/-- What has been said after some items. -/
def Settings.addAll (s : Settings) : List Item → Except Fault Settings
  | []            => .ok s
  | item :: items => do
    let s ← s.add item
    s.addAll items

/-! ### Checks -/

/-- No item but a preset may stand twice. -/
def checkDuplicates (seen : List ItemName) : List Item → Except Fault Unit
  | []            => .ok ()
  | item :: items =>
    if item.name = .preset then checkDuplicates seen items
    else if seen.contains item.name then .error (.duplicate item.name)
    else checkDuplicates (item.name :: seen) items

/-- Each preset is for a field that there is, and can be carried by it. -/
def checkPresets (count : Nat) : List (Nat × Text) → Except Fault Unit
  | []                    => .ok ()
  | (index, text) :: rest =>
    if count ≤ index then .error (.presetOutOfRange index count)
    else if !isFieldText text then .error .badPresetText
    else checkPresets count rest

/-- The kind that settings describe. -/
def Settings.kind (s : Settings) (name : Text) : Except Fault Kind :=
  match s.id, s.fields with
  | none, _          => .error .missingId
  | _, none          => .error .missingFields
  | some id, some n  => do
    checkPresets n s.presets
    pure { name, id, fieldCount := n, opening := s.opening, presets := s.presets }

/-- The kind that items describe. -/
def kindOfItems (name : Text) (items : List Item) : Except Fault Kind := do
  checkDuplicates [] items
  let settings ← Settings.addAll {} items
  settings.kind name

/-! ### Declarations -/

/-- What is declared. -/
inductive Body
  /-- A structure of parts without names. -/
  | tuple (parts : Nat)
  /-- A structure of parts with names. -/
  | record
  /-- A structure without parts. -/
  | unit
  /-- An enumeration. -/
  | enumeration
  /-- A union. -/
  | union
  deriving DecidableEq

/-- A kind is declared by a structure of one part without a name. -/
def checkBody : Body → Except Fault Unit
  | .tuple 1     => .ok ()
  | .enumeration => .error .enumeration
  | .union       => .error .union
  | _            => .error .notNewtype

/-- The text of attributes as they stand in front of what is declared, each with its items in
parentheses. -/
def sourceOf (attributes : List Text) : Text :=
  attributes.flatMap fun items => "#[sentence(".toList ++ items ++ ")]\n".toList

/-- The attributes that some tokens are. -/
def attributesOf? : List Token → Option (List Attribute)
  | [] => some []
  | .mark '#' _ :: .group .square inner :: rest =>
    match grammar.attributeBody.run inner with
    | some (found, []) => (attributesOf? rest).map (found :: ·)
    | _                => none
  | _ => none

/-- The attributes that a text is. -/
def readAttributes (source : Text) : Except Fault (List Attribute) :=
  match (tokensOf? source).bind attributesOf? with
  | some attributes => .ok attributes
  | none            => .error .unreadable

/-- The items of an attribute. Those with other names have none. -/
def Attribute.items (a : Attribute) : Except Fault (List Item) :=
  if a.name = some "sentence".toList then
    match a.arguments with
    | some inner => readItems inner
    | none       => .error .unreadable
  else .ok []

/-- The kind of a name that a body and its attributes declare. -/
def declare (name : Text) (body : Body) (attributes : List Text) : Except Fault Kind := do
  let attributes ← readAttributes (sourceOf attributes)
  checkBody body
  let items ← attributes.mapM Attribute.items
  kindOfItems name items.flatten

end Nmea.Declaration
