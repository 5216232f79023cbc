import Nmea.Declaration.Literal

/-!
# Tokens of declarations

The text of a declaration is cut into words, literals and marks, and what stands between brackets
is taken together.
-/

namespace Nmea.Declaration

/-- The three kinds of brackets. -/
inductive Bracket
  /-- Parentheses. -/
  | round
  /-- Square brackets. -/
  | square
  /-- Braces. -/
  | curly
  deriving DecidableEq

/-- A piece of a declaration. -/
inductive Token
  /-- A word. -/
  | word (name : Text)
  /-- A punctuation mark, and whether another follows it directly. -/
  | mark (char : Char) (joint : Bool)
  /-- A value that is written out. -/
  | literal (value : Literal)
  /-- What stands between two brackets. -/
  | group (bracket : Bracket) (inner : List Token)

/-! ### Pieces -/

/-- A piece before the brackets are matched. -/
inductive Piece
  /-- A bracket that opens. -/
  | opening (bracket : Bracket)
  /-- A bracket that closes. -/
  | closing (bracket : Bracket)
  /-- A token that needs no matching. -/
  | token (value : Token)

/-- The punctuation marks. -/
def marks : Text := "~!@#$%^&*-=+|;:,<.>/?'".toList

/-- Blanks between tokens, among them the marks of writing direction. -/
def isBlank (c : Char) : Bool :=
  c = ' ' || (9 ≤ c.toNat && c.toNat ≤ 13) ||
    [0x85, 0xa0, 0x1680, 0x200e, 0x200f, 0x2028, 0x2029, 0x202f, 0x205f, 0x3000].contains c.toNat ||
    (0x2000 ≤ c.toNat && c.toNat ≤ 0x200a)

/-- Whether a text begins with another. -/
def startsWith (start t : Text) : Bool := start.isPrefixOf t

/-! ### Comments -/

/-- What is left behind a comment that may hold others, `depth` of which are open. -/
def afterComment? (depth : Nat) : Text → Option Text
  | '/' :: '*' :: t => afterComment? (depth + 1) t
  | '*' :: '/' :: t => if depth ≤ 1 then some t else afterComment? (depth - 1) t
  | _ :: t          => afterComment? depth t
  | []              => none

/-- The text up to the end of the line, and what begins with it. -/
def spanLine (t : Text) : Text × Text :=
  match t.span (· != '\n') with
  | (line, [])   => (line, [])
  | (line, rest) => if line.getLast? = some '\r' then (line.dropLast, rest) else (line, rest)

/-- Whether a text returns to the beginning of a line without a line feed. -/
def returnsAlone : Text → Bool
  | '\r' :: '\n' :: t => returnsAlone t
  | '\r' :: _         => true
  | _ :: t            => returnsAlone t
  | []                => false

/-- Whether a comment documents what follows it or what it stands in, which makes it more than a
blank. -/
def isDocumentation (t : Text) : Bool :=
  (startsWith "///".toList t && !startsWith "////".toList t) || startsWith "//!".toList t ||
    (startsWith "/**".toList t && !startsWith "/***".toList t && !startsWith "/**/".toList t) ||
    startsWith "/*!".toList t

/-- The pieces that documentation stands for: an attribute with its text, which has another mark in
front if it documents what it stands in. -/
def documentationPieces (inside : Bool) (documentation : Text) : List Piece :=
  let bang := if inside then [Token.mark '!' false] else []
  let setting := [Token.word "doc".toList, .mark '=' false, .literal (.text documentation)]
  (Token.mark '#' false :: bang ++ [Token.group .square setting]).map Piece.token

/-- The pieces of documentation in front of a text, and the rest. -/
def readDocumentation (t : Text) : Option (List Piece × Text) := do
  let inside := (t.drop 2).head? = some '!'
  let (documentation, rest) ←
    if startsWith "//".toList t then some (spanLine (t.drop 3))
    else (afterComment? 1 (t.drop 2)).map fun rest =>
      (((t.take (t.length - rest.length)).drop 3).dropLast.dropLast, rest)
  guard (!returnsAlone documentation)
  pure (documentationPieces inside documentation, rest)

/-! ### Words and marks -/

/-- The openings of literals that no word can begin with. -/
def literalStarts : List Text :=
  ["r\"", "r#\"", "r##", "b\"", "b'", "br\"", "br#", "c\"", "cr\"", "cr#"].map String.toList

/-- A word in front of a text, and the rest, whatever else could begin there. A word that could be
a keyword may be marked as none with `r#`, which belongs to it. -/
def readAnyWord (t : Text) : Option (Text × Text) :=
  let (raw, body) := match t with
    | 'r' :: '#' :: body => (['r', '#'], body)
    | body               => ([], body)
  match body with
  | c :: _ =>
    if isWordStart c then
      let name := body.takeWhile isWordPart
      if !raw.isEmpty && ["_", "super", "self", "Self", "crate"].any (·.toList = name) then none
      else some (raw ++ name, body.dropWhile isWordPart)
    else none
  | [] => none

/-- A word in front of a text that no literal begins with, and the rest. -/
def readWord (t : Text) : Option (Text × Text) :=
  if literalStarts.any (startsWith · t) then none else readAnyWord t

/-- Whether a text begins with a mark; the slash of a comment is none. -/
def startsWithMark (t : Text) : Bool :=
  !startsWith "//".toList t && !startsWith "/*".toList t && t.head?.any marks.contains

/-- A mark in front of a text, and the rest. An apostrophe is one only before a word without
another apostrophe behind it, and without a number sign if the word is not marked with one. -/
def readMark (t : Text) : Option (Token × Text) :=
  match t with
  | [] => none
  | c :: rest =>
    if !startsWithMark t then none
    else if c = '\'' then
      match readAnyWord rest with
      | some (_, after) =>
        if after.head? = some '\'' ||
          (after.head? = some '#' && !startsWith "r#".toList rest) then none
        else some (.mark c true, rest)
      | none => none
    else some (.mark c (startsWithMark rest), rest)

/-- A token in front of a text, and the rest. -/
def readToken (t : Text) : Option (Token × Text) :=
  match readLiteral t with
  | some (literal, rest) => some (.literal literal, rest)
  | none                 =>
    match readMark t with
    | some found => some found
    | none       => (readWord t).map fun (name, rest) => (.word name, rest)

/-- The next pieces of a text and the rest; a blank has none. -/
def readPiece : Text → Option (List Piece × Text)
  | '(' :: t    => some ([.opening .round], t)
  | '[' :: t    => some ([.opening .square], t)
  | '\x7b' :: t => some ([.opening .curly], t)
  | ')' :: t    => some ([.closing .round], t)
  | ']' :: t    => some ([.closing .square], t)
  | '\x7d' :: t => some ([.closing .curly], t)
  | t           =>
    if t.head?.any isBlank then some ([], t.drop 1)
    else if isDocumentation t then readDocumentation t
    else if startsWith "//".toList t then some ([], (spanLine t).2)
    else if startsWith "/*".toList t then (afterComment? 1 (t.drop 2)).map fun rest => ([], rest)
    else (readToken t).map fun (token, rest) => ([.token token], rest)

/-- The pieces of a text. -/
def pieces (t : Text) : Option (List Piece) :=
  if t.isEmpty then some []
  else match readPiece t with
    | none              => none
    | some (next, rest) =>
      if _h : rest.length < t.length then
        (pieces rest).map fun found => next ++ found
      else none
termination_by t.length

/-! ### Groups -/

/-- Matches the brackets of pieces. The groups that are open wait with what stands before them, and
the tokens so far are kept in reverse. -/
def nest : List Piece → List (Bracket × List Token) → List Token → Option (List Token)
  | [], [], found                                 => some found.reverse
  | [], _ :: _, _                                 => none
  | .opening b :: rest, waiting, found            => nest rest ((b, found) :: waiting) []
  | .closing b :: rest, (c, before) :: waiting, found =>
    if b = c then nest rest waiting (.group b found.reverse :: before) else none
  | .closing _ :: _, [], _                        => none
  | .token t :: rest, waiting, found              => nest rest waiting (t :: found)

/-- The tokens of a text, if it can be cut into tokens and its brackets match. -/
def tokensOf? (t : Text) : Option (List Token) := do
  let found ← pieces t
  nest found [] []

end Nmea.Declaration
