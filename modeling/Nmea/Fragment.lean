import Nmea.Record.Edit

/-!
# Fragments

A payload that does not fit into one sentence is sent in several, each a fragment with the number
of fragments, its own index from one, and perhaps a message id and a radio channel.

`FragmentHeader.continues` says when one fragment continues another, and `reassemble` joins the
fragments of a whole message.
-/

namespace Nmea

/-! ### Headers -/

/-- The place of a fragment in its message. -/
structure FragmentHeader where
  /-- The number of fragments of the message. -/
  count : UInt8
  /-- The index of this fragment, from one. -/
  index : UInt8
  /-- What the message is numbered with, if it is. -/
  messageId : Option Text
  /-- The radio channel, if it is known. -/
  channel : Option Text
  deriving DecidableEq

namespace FragmentHeader

/-- One of several fragments. -/
def isFragmented (h : FragmentHeader) : Bool := 1 < h.count

/-- The first fragment of its message. -/
def isFirst (h : FragmentHeader) : Bool := h.index = 1

/-- The last fragment of its message. -/
def isLast (h : FragmentHeader) : Bool := h.index = h.count

/-- Whether `next` may continue the message of `previous`. Right behind it, the channel or the
message id has to be the same; further on, both. -/
def continues (previous next : FragmentHeader) : Bool :=
  if previous.count ≠ next.count || next.index ≤ previous.index then false
  else
    let sameChannel := previous.channel = next.channel
    let sameMessage := previous.messageId = next.messageId
    if next.index = previous.index + 1 then sameChannel || sameMessage
    else sameChannel && sameMessage

end FragmentHeader

namespace Record

/-- The text of a field, or nothing if it is empty. -/
def optionalField (r : Record) (index : Nat) : Except Error (Option Text) := do
  let text ← r.field index
  pure (if text.isEmpty then none else some text)

/-- The header in the first four fields of a fragment. -/
def fragmentHeader (r : Record) : Except Error FragmentHeader := do
  let count ← r.get UInt8 0
  let index ← r.get UInt8 1
  if count = 0 || index = 0 || count < index then
    .error
      (.invalidFieldValue 1 (FieldValue.write index ++ " of ".toList ++ FieldValue.write count))
  else
    let messageId ← r.optionalField 2
    let channel ← r.optionalField 3
    pure { count, index, messageId, channel }

/-- The part of the payload that a fragment carries. -/
def payload (r : Record) : Except Error Text := r.field 4

/-- The number of bits at the end of the payload that only fill it up. -/
def fillBits (r : Record) : Except Error UInt8 := r.get UInt8 5

end Record

/-- Writes the header, the payload and the fill bits of a fragment, one field after the other. -/
def Edit.setFragment (header : FragmentHeader) (payload : Text) (fillBits : UInt8) :
    Edit Unit := do
  setValue 0 header.count
  setValue 1 header.index
  setField 2 (header.messageId.getD [])
  setField 3 (header.channel.getD [])
  setField 4 payload
  setValue 5 fillBits

/-! ### Whole messages -/

/-- Each header is continued by the one behind it. -/
def isChain : List FragmentHeader → Bool
  | h :: k :: rest => h.continues k && isChain (k :: rest)
  | _              => true

/-- A fault in the headers of a whole message. -/
def checkSequence (headers : List FragmentHeader) : Except Error Unit :=
  match headers.head?, headers.getLast? with
  | some first, some last =>
    if !first.isFirst then .error (.fragmentSequence .firstMissing)
    else if !last.isLast || headers.length ≠ first.count.toNat then
      .error (.fragmentSequence .fragmentsMissing)
    else if !isChain headers then .error (.fragmentSequence .mixedMessages)
    else .ok ()
  | _, _ => .error (.fragmentSequence .noFragments)

/-- The payload of a whole message, and the fill bits at its end. -/
def reassemble (fragments : List Record) : Except Error (Text × UInt8) := do
  let headers ← fragments.mapM Record.fragmentHeader
  checkSequence headers
  let payloads ← fragments.mapM Record.payload
  match fragments.getLast? with
  | some last => do
    let fillBits ← last.fillBits
    pure (payloads.flatten, fillBits)
  | none => .error (.fragmentSequence .noFragments)

end Nmea
