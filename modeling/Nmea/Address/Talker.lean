import Nmea.Text.Basic

/-!
# Talkers

A talker is the kind of device that sends a sentence. The standard names some by two letters, and
any other two upper-case letters or digits may be a talker too, except those that start with `P`,
which alone stands for the makers' own sentences.
-/

namespace Nmea

/-! ### Named talkers -/

/-- The talkers with a name of their own. -/
inductive TalkerName
  | AB | AD | AG | AI | AN | AR | AS | AT | AX | BD | CD | EC | GA | GB | GI | GL | GN | GP | GQ
  | HC | HE | HN | II | IN | RA | SD | VD | VW | WI | YX | P
  deriving DecidableEq

namespace TalkerName

/-- The code of a named talker. -/
def code : TalkerName → Text
  | .AB => ['A', 'B'] | .AD => ['A', 'D'] | .AG => ['A', 'G'] | .AI => ['A', 'I']
  | .AN => ['A', 'N'] | .AR => ['A', 'R'] | .AS => ['A', 'S'] | .AT => ['A', 'T']
  | .AX => ['A', 'X'] | .BD => ['B', 'D'] | .CD => ['C', 'D'] | .EC => ['E', 'C']
  | .GA => ['G', 'A'] | .GB => ['G', 'B'] | .GI => ['G', 'I'] | .GL => ['G', 'L']
  | .GN => ['G', 'N'] | .GP => ['G', 'P'] | .GQ => ['G', 'Q'] | .HC => ['H', 'C']
  | .HE => ['H', 'E'] | .HN => ['H', 'N'] | .II => ['I', 'I'] | .IN => ['I', 'N']
  | .RA => ['R', 'A'] | .SD => ['S', 'D'] | .VD => ['V', 'D'] | .VW => ['V', 'W']
  | .WI => ['W', 'I'] | .YX => ['Y', 'X'] | .P  => ['P']

/-- The named talkers in the order of the standard. -/
def all : List TalkerName :=
  [.AB, .AD, .AG, .AI, .AN, .AR, .AS, .AT, .AX, .BD, .CD, .EC, .GA, .GB, .GI, .GL, .GN, .GP, .GQ,
   .HC, .HE, .HN, .II, .IN, .RA, .SD, .VD, .VW, .WI, .YX, .P]

/-- The named talker with a code. -/
def ofCode? (code : Text) : Option TalkerName := all.find? (·.code = code)

@[simp] theorem ofCode?_code (n : TalkerName) : ofCode? n.code = some n := by
  cases n <;> rfl

end TalkerName

/-! ### Other talkers -/

/-- Whether two characters are the code of a talker without a name. -/
def isTalkerCode (first second : Char) : Bool :=
  isAddressChar first && isAddressChar second && first != 'P' &&
    (TalkerName.ofCode? [first, second]).isNone

/-- The code of a talker without a name. -/
structure TalkerCode where
  /-- The first character. -/
  first : Char
  /-- The second character. -/
  second : Char
  valid : isTalkerCode first second = true
  deriving DecidableEq

namespace TalkerCode

/-- The code of two characters, if they are one. -/
def ofChars? (first second : Char) : Option TalkerCode :=
  if h : isTalkerCode first second = true then some ⟨first, second, h⟩ else none

/-- The two characters of a code. -/
def text (c : TalkerCode) : Text := [c.first, c.second]

end TalkerCode

/-! ### Talkers -/

/-- The kind of device that sends a sentence. -/
inductive Talker
  /-- A talker with a name. -/
  | named (name : TalkerName)
  /-- A talker without a name. -/
  | other (code : TalkerCode)
  deriving DecidableEq

namespace Talker

/-- The code of a talker, as it stands in an address. -/
def text : Talker → Text
  | .named name => name.code
  | .other code => code.text

/-- The talker with a code. -/
def ofText? (code : Text) : Option Talker :=
  match TalkerName.ofCode? code with
  | some name => some (.named name)
  | none      =>
    match code with
    | [first, second] => (TalkerCode.ofChars? first second).map .other
    | _               => none

/-- The makers' own sentences come from this talker. -/
def isProprietary (t : Talker) : Bool := t = .named .P

end Talker

end Nmea
