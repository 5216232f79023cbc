import Nmea.Address.Talker
import Nmea.Error
import Nmea.Line.Frame

/-!
# Addresses

The address of a sentence is the code of its talker followed by the sentence id. The talker of an
address is `P` alone if it starts so, and its first two characters otherwise.
-/

namespace Nmea

/-! ### Codes -/

/-- The talker with a code, or the error that there is none. -/
def Talker.parse (code : Text) : Except Error Talker :=
  match ofText? code with
  | some talker => .ok talker
  | none        => .error (.invalidTalkerId code)

/-- The code of two characters, or the error that they are none. -/
def TalkerCode.parse (first second : Char) : Except Error TalkerCode :=
  match ofChars? first second with
  | some code => .ok code
  | none      => .error (.invalidTalkerId [first, second])

/-! ### Addresses -/

/-- The talker and the sentence id of an address. -/
def splitAddress? : Text → Option (Talker × Text)
  | 'P' :: id   => some (.named .P, id)
  | a :: b :: id => (Talker.ofText? [a, b]).map fun talker => (talker, id)
  | _           => none

/-- The address of a talker and a sentence id. -/
def addressOf (talker : Talker) (id : Text) : Text := talker.text ++ id

/-- Whether a talker and a sentence id make an address that is cut into the same two again. -/
def isAddressPair (talker : Talker) (id : Text) : Bool :=
  isAddress (addressOf talker id) && splitAddress? (addressOf talker id) == some (talker, id)

end Nmea
