import Nmea.Line.Checksum
import Nmea.Line.Frame

/-!
# Validators

A validator says which lines are taken for sentences: whether they must have a checksum, and
whether they must, may or must not have a line terminator. A checksum that is there must be right
in any case.
-/

namespace Nmea

/-! ### Policies -/

/-- Whether a line must have a checksum. -/
inductive ChecksumMode
  /-- A line must have a checksum of two upper-case hexadecimal digits. -/
  | required
  /-- A line may have a checksum. -/
  | optional
  deriving DecidableEq

/-- Whether a line must have a terminator. -/
inductive LineEndingMode
  /-- A line must have a terminator. -/
  | required
  /-- A line may have a terminator. -/
  | optional
  /-- A line must not have a terminator. -/
  | forbidden
  deriving DecidableEq

/-- The name of a checksum policy. -/
def ChecksumMode.name : ChecksumMode → Text
  | .required => "Required".toList
  | .optional => "Optional".toList

/-- The name of a line ending policy. -/
def LineEndingMode.name : LineEndingMode → Text
  | .required  => "Required".toList
  | .optional  => "Optional".toList
  | .forbidden => "Forbidden".toList

/-- What a line needs beyond the shape of a sentence. -/
structure Validator where
  /-- The policy on checksums. -/
  checksum : ChecksumMode := .optional
  /-- The policy on line terminators. -/
  lineEnding : LineEndingMode := .optional
  deriving DecidableEq

/-! ### Rules -/

/-- The checksum digits, of which letters are in upper case. -/
def isHexDigit (c : Char) : Bool := c.isDigit || ('A' ≤ c && c ≤ 'F')

/-- Two upper-case hexadecimal digits. -/
def isChecksum (t : Text) : Bool := t.length == 2 && t.all isHexDigit

/-- A text without the spaces at its ends. -/
def trimSpaces (t : Text) : Text :=
  ((t.dropWhile (· = ' ')).reverse.dropWhile (· = ' ')).reverse

/-- Whether a line ending policy allows an end of line. -/
def LineEndingMode.allows (mode : LineEndingMode) (terminator : Option Terminator) : Bool :=
  match mode with
  | .required  => terminator.isSome
  | .optional  => true
  | .forbidden => terminator.isNone

/-- Whether a checksum policy allows what stands behind the fields. -/
def ChecksumMode.allows (mode : ChecksumMode) (checksum : Option Text) : Bool :=
  match mode with
  | .required => checksum.any isChecksum
  | .optional => true

/-- Why a line is turned away. -/
inductive Rejection
  /-- It has not the shape of a sentence. -/
  | shape
  /-- It has the shape, but a policy does not allow its checksum or its end. -/
  | policy
  /-- Its checksum is wrong. -/
  | checksum
  deriving DecidableEq

namespace Validator

/-- The frame of a line that satisfies the policies, whether or not its checksum is right. -/
def frame (v : Validator) (raw : Text) : Except Rejection Frame :=
  match Frame.ofText? raw with
  | none   => .error .shape
  | some f =>
    if v.lineEnding.allows f.terminator && v.checksum.allows f.checksum then .ok f
    else .error .policy

/-- The frame of a line that satisfies the policies and has no wrong checksum. Spaces around the
checksum are not looked at. -/
def checkedFrame (v : Validator) (raw : Text) : Except Rejection Frame :=
  match v.frame raw with
  | .error why => .error why
  | .ok f      =>
    match f.checksum with
    | none       => .ok f
    | some found => if trimSpaces found = checksumOf raw then .ok f else .error .checksum

/-- A validator as messages show it. -/
def text (v : Validator) : Text :=
  "Validator \x7b checksum: ".toList ++ v.checksum.name ++ ", line_ending: ".toList ++
    v.lineEnding.name ++ " \x7d".toList

end Validator

end Nmea
