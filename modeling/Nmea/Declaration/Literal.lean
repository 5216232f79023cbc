import Nmea.Text.Numeral
import Nmea.Text.Word

/-!
# Literals of declarations

Values are written out in declarations as texts and characters between quotes, with a backslash
before what stands for something else; as texts between quotes and number signs, in which a
backslash is itself; and as numbers, with underscores between the digits and a word behind them
that names a type.
-/

namespace Nmea.Declaration

/-- A value that is written out. -/
inductive Literal
  /-- A text. -/
  | text (value : Text)
  /-- A character. -/
  | char (value : Char)
  /-- A whole number; the sign is kept apart, and so is whether a word of its type follows. -/
  | integer (negative : Bool) (value : Nat) (typed : Bool)
  /-- A number with a point or a power of ten, as it is written. -/
  | decimal (written : Text)
  /-- A truth value. -/
  | boolean (value : Bool)
  /-- A value of some other sort, which declarations have no use for. -/
  | other
  deriving DecidableEq

/-! ### Quotations -/

/-- What may stand between quotes. -/
structure QuoteRules where
  /-- Whether two hexadecimal digits may stand for more than ASCII. -/
  wideBytes : Bool
  /-- Whether a code point may be written by its number. -/
  codePoints : Bool
  /-- Whether characters beyond ASCII may stand for themselves. -/
  wideChars : Bool
  /-- Whether the character of number zero may stand there. -/
  zero : Bool

/-- Texts and characters. -/
def textRules : QuoteRules := ⟨false, true, true, true⟩

/-- Strings of bytes. -/
def byteRules : QuoteRules := ⟨true, false, false, true⟩

/-- Strings that end with a zero, which they cannot hold themselves. -/
def zeroEndedRules : QuoteRules := ⟨true, true, true, false⟩

/-- The value of a hexadecimal digit. -/
def hexDigitValue? (c : Char) : Option Nat :=
  if c.isDigit then some (c.toNat - '0'.toNat)
  else if 'a' ≤ c && c ≤ 'f' then some (c.toNat - 'a'.toNat + 10)
  else if 'A' ≤ c && c ≤ 'F' then some (c.toNat - 'A'.toNat + 10)
  else none

/-- The character of a number, if there is one. -/
def charOfNat? (n : Nat) : Option Char :=
  if n < 0xd800 || (0xdfff < n && n < 0x110000) then some (Char.ofNat n) else none

/-- The rest of a code point's number up to the closing brace: at most `more` further digits behind
the value so far, and underscores anywhere but in front. -/
def readCodePoint (more value : Nat) (begun : Bool) : Text → Option (Char × Text)
  | []     => none
  | c :: t =>
    if c = '_' && begun then readCodePoint more value begun t
    else if c = '\x7d' && begun then (charOfNat? value).map fun d => (d, t)
    else match hexDigitValue? c, more with
      | some digit, more + 1 => readCodePoint more (16 * value + digit) true t
      | _, _                 => none

/-- The character that stands behind a backslash. -/
def readEscape (rules : QuoteRules) : Text → Option (Char × Text)
  | 'n' :: t  => some ('\n', t)
  | 'r' :: t  => some ('\r', t)
  | 't' :: t  => some ('\t', t)
  | '\\' :: t => some ('\\', t)
  | '0' :: t  => some ('\x00', t)
  | '\'' :: t => some ('\'', t)
  | '"' :: t  => some ('"', t)
  | 'x' :: a :: b :: t => do
    let high ← hexDigitValue? a
    let low ← hexDigitValue? b
    let value := 16 * high + low
    if rules.wideBytes || value < 128 then some (Char.ofNat value, t) else none
  | 'u' :: '\x7b' :: t => if rules.codePoints then readCodePoint 6 0 false t else none
  | _ => none

/-- What is left out behind a backslash at the end of a line: blanks and further ends of line. -/
def skipLineEnd : Text → Text
  | '\r' :: '\n' :: t => skipLineEnd t
  | ' ' :: t          => skipLineEnd t
  | '\t' :: t         => skipLineEnd t
  | '\n' :: t         => skipLineEnd t
  | t                 => t

/-- Whether a character may stand for itself between quotes. -/
def QuoteRules.allows (rules : QuoteRules) (c : Char) : Bool :=
  (rules.wideChars || c.toNat < 128) && (rules.zero || c != '\x00')

/-- One character of a quotation, or the quote at its end. Nothing stands for itself that ends a
line without a line feed, and behind a backslash the end of a line is left out. -/
def readQuotedChar (rules : QuoteRules) : Text → Option (Option Text × Text)
  | '"' :: t                  => some (none, t)
  | '\r' :: '\n' :: t         => some (some ['\n'], t)
  | '\r' :: _                 => none
  | '\\' :: '\r' :: '\n' :: t => some (some [], skipLineEnd t)
  | '\\' :: '\n' :: t         => some (some [], skipLineEnd t)
  | '\\' :: t                 => do
    let (c, t) ← readEscape rules t
    if rules.zero || c != '\x00' then some (some [c], t) else none
  | c :: t                    => if rules.allows c then some (some [c], t) else none
  | []                        => none

/-- The text up to the quote that ends it, and the rest. -/
def readQuoted (rules : QuoteRules) (t : Text) : Option (Text × Text) :=
  match readQuotedChar rules t with
  | none                  => none
  | some (none, rest)     => some ([], rest)
  | some (some cs, rest)  =>
    if _h : rest.length < t.length then
      (readQuoted rules rest).map fun (value, rest) => (cs ++ value, rest)
    else none
termination_by t.length

/-- The text up to a quote with a number of number signs behind it, and the rest. -/
def readRawBody (rules : QuoteRules) (signs : Nat) : Text → Option (Text × Text)
  | []     => none
  | c :: t =>
    if c = '"' && t.take signs = List.replicate signs '#' then some ([], t.drop signs)
    else if c = '\r' && t.head? != some '\n' then none
    else if rules.allows c then
      (readRawBody rules signs t).map fun (value, rest) => (c :: value, rest)
    else none

/-- A text between quotes and number signs, from the first sign on. -/
def readRaw (rules : QuoteRules) (t : Text) : Option (Text × Text) :=
  let signs := t.takeWhile (· = '#')
  match t.dropWhile (· = '#') with
  | '"' :: body => readRawBody rules signs.length body
  | _           => none

/-- One character between single quotes, from behind the first of them. -/
def readChar (rules : QuoteRules) : Text → Option (Char × Text)
  | '\\' :: t => do
    match ← readEscape rules t with
    | (c, '\'' :: rest) => some (c, rest)
    | _                 => none
  | c :: '\'' :: t => if rules.allows c then some (c, t) else none
  | _ => none

/-! ### Numbers -/

/-- What is left of a text behind a word, or all of it if it does not begin with one. -/
def skipWord : Text → Text
  | c :: t => if isWordStart c then t.dropWhile isWordPart else c :: t
  | []     => []

/-- The digits of a base in front of a text without the underscores between them, and the rest; a
decimal digit that the base does not have is an error. -/
def spanBase (base : Nat) : Text → Option (List Nat × Text)
  | []     => some ([], [])
  | c :: t =>
    if c = '_' then spanBase base t
    else match hexDigitValue? c with
      | some digit =>
        if digit < base then (spanBase base t).map fun (digits, rest) => (digit :: digits, rest)
        else if c.isDigit then none
        else some ([], c :: t)
      | none => some ([], c :: t)

/-- The number of some digits in a base. -/
def baseValue (base : Nat) (digits : List Nat) : Nat := digits.foldl (fun n d => base * n + d) 0

/-- What is left behind a number and the word of its type; another word must not follow. -/
def afterNumber? (t : Text) : Option Text :=
  match skipWord t with
  | c :: rest => if isWordPart c then none else some (c :: rest)
  | []        => some []

/-- A whole number in front of a text, whether a word follows it directly, and the rest. -/
def readInteger (t : Text) : Option ((Nat × Bool) × Text) := do
  let (base, body) := match t with
    | '0' :: 'x' :: body => (16, body)
    | '0' :: 'o' :: body => (8, body)
    | '0' :: 'b' :: body => (2, body)
    | body               => (10, body)
  guard (base != 10 || body.head? != some '_')
  let (digits, rest) ← spanBase base body
  guard (!digits.isEmpty)
  let after ← afterNumber? rest
  pure ((baseValue base digits, after.length != rest.length), after)

/-- Decimal digits and underscores in front of a text, and the rest. -/
def spanDecimal (t : Text) : Text × Text := t.span fun c => c.isDigit || c = '_'

/-- What is left behind the letter of a power of ten and its digits, if there are any. -/
def afterExponent? : Text → Option Text
  | c :: t =>
    if c = 'e' || c = 'E' then
      let t := match t with
        | '+' :: t => t
        | '-' :: t => t
        | t        => t
      let (digits, rest) := spanDecimal t
      if digits.any Char.isDigit then some rest else none
    else none
  | [] => none

/-- What is left behind a number with a point or a power of ten. A point that begins a range or the
name of a part is none of its own. -/
def afterFraction? (t : Text) : Option Text :=
  match spanDecimal t with
  | ([], _) => none
  | (_, '.' :: t) =>
    if t.head?.any fun c => c = '.' || isWordStart c then none
    else
      let (_, rest) := spanDecimal t
      afterNumber? ((afterExponent? rest).getD rest)
  | (_, t) => do
    let rest ← afterExponent? t
    afterNumber? rest

/-- A number in front of a text, and the rest. -/
def readNumber (t : Text) : Option (Literal × Text) :=
  if t.head?.any Char.isDigit then
    match afterFraction? t with
    | some rest => some (.decimal (t.take (t.length - rest.length)), rest)
    | none      => (readInteger t).map fun ((n, typed), rest) => (.integer false n typed, rest)
  else none

/-- The greatest index of a part without a name. -/
def mostPartIndex : Nat := 4294967295

/-- Whether a text is the index of a part without a name: a whole number without a word behind it.
-/
def isPartIndex (t : Text) : Bool :=
  match readNumber t with
  | some (.integer false n false, []) => n ≤ mostPartIndex
  | _                                 => false

/-! ### Literals -/

/-- A literal in front of a text, and the rest without a word that follows it directly. -/
def readLiteral (t : Text) : Option (Literal × Text) :=
  let quotation := match t with
    | '"' :: t               => (readQuoted textRules t).map fun (s, r) => (Literal.text s, r)
    | 'r' :: t               => (readRaw textRules t).map fun (s, r) => (.text s, r)
    | 'b' :: '"' :: t        => (readQuoted byteRules t).map fun (_, r) => (.other, r)
    | 'b' :: 'r' :: t        => (readRaw byteRules t).map fun (_, r) => (.other, r)
    | 'c' :: '"' :: t        => (readQuoted zeroEndedRules t).map fun (_, r) => (.other, r)
    | 'c' :: 'r' :: t        => (readRaw zeroEndedRules t).map fun (_, r) => (.other, r)
    | 'b' :: '\'' :: t       => (readChar byteRules t).map fun (_, r) => (.other, r)
    | '\'' :: t              => (readChar textRules t).map fun (c, r) => (.char c, r)
    | _                      => none
  match quotation with
  | some (literal, rest) => some (literal, skipWord rest)
  | none                 => readNumber t

end Nmea.Declaration
