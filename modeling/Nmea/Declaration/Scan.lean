import Nmea.Declaration.Token

/-!
# Scans of tokens

A scan takes tokens away from the front of a list, or fails. What comes next decides which scan is
tried, so looking ahead is kept apart from taking: it asks the list and changes nothing.
-/

namespace Nmea.Declaration

/-! ### Words -/

/-- The words that name nothing. -/
def keywords : List Text :=
  ["_", "abstract", "as", "async", "await", "become", "box", "break", "const", "continue", "crate",
    "do", "dyn", "else", "enum", "extern", "false", "final", "fn", "for", "if", "impl", "in", "let",
    "loop", "macro", "match", "mod", "move", "mut", "override", "priv", "pub", "ref", "return",
    "Self", "self", "static", "struct", "super", "trait", "true", "try", "type", "typeof", "unsafe",
    "unsized", "use", "virtual", "where", "while", "yield"].map String.toList

/-- Whether a word names something. -/
def isName (word : Text) : Bool := !keywords.contains word

/-! ### Looking ahead -/

/-- A question about the tokens that come next. -/
abbrev Ahead := List Token → Bool

/-- Whether a certain word comes next. -/
def atWord (word : String) : Ahead
  | .word w :: _ => w = word.toList
  | _            => false

/-- Whether one of some words comes next. -/
def atOneOf (words : List String) : Ahead := fun ts => words.any (atWord · ts)

/-- Whether a word comes next. -/
def atAnyWord : Ahead
  | .word _ :: _ => true
  | _            => false

/-- Whether a word comes next that names something. -/
def atName : Ahead
  | .word w :: _ => isName w
  | _            => false

/-- What is left behind some marks that follow each other directly. -/
def afterMarks? : Text → List Token → Option (List Token)
  | [], rest                        => some rest
  | [c], .mark d _ :: rest          => if c = d then some rest else none
  | c :: more, .mark d true :: rest => if c = d then afterMarks? more rest else none
  | _, _                            => none

/-- Whether some marks come next. More may follow them. -/
def atMark (mark : String) : Ahead := fun ts => (afterMarks? mark.toList ts).isSome

/-- Whether some marks come next that are not the beginning of certain longer ones. -/
def atMarkOnly (mark : String) (longer : List String) : Ahead := fun ts =>
  atMark mark ts && !longer.any (atMark · ts)

/-- Whether a lifetime comes next: an apostrophe and a word. -/
def atLifetime : Ahead
  | .mark '\'' _ :: .word _ :: _ => true
  | _                            => false

/-- Whether a group in certain brackets comes next. -/
def atGroup (bracket : Bracket) : Ahead
  | .group b _ :: _ => b = bracket
  | _               => false

/-- A literal in front of some tokens, perhaps a number below zero or a truth value. -/
def readLiteralToken : List Token → Option (Literal × List Token)
  | .literal value :: rest => some (value, rest)
  | .mark '-' _ :: .literal (.integer false n typed) :: rest =>
    some (.integer true n typed, rest)
  | .mark '-' _ :: .literal (.decimal written) :: rest => some (.decimal ('-' :: written), rest)
  | .word w :: rest =>
    if w = "true".toList then some (.boolean true, rest)
    else if w = "false".toList then some (.boolean false, rest)
    else none
  | _ => none

/-- Whether a literal comes next. -/
def atLiteral : Ahead := fun ts => (readLiteralToken ts).isSome

/-- Whether a text comes next. -/
def atText : Ahead
  | .literal (.text _) :: _ => true
  | _                       => false

/-- What is left behind one token or one lifetime. -/
def pass : List Token → List Token
  | .mark '\'' _ :: .word _ :: rest => rest
  | _ :: rest                       => rest
  | []                              => []

/-- Whether two questions are answered by what comes next and by what follows it. -/
def followed (first second : Ahead) : Ahead := fun ts => first ts && second (pass ts)

/-! ### Taking -/

/-- A scan of tokens from the front, which may fail. -/
abbrev Scan := StateT (List Token) Option

/-- The answer to a question about what comes next. -/
def ask (ahead : Ahead) : Scan Bool := do return ahead (← get)

/-- Takes one token or one lifetime, which must be as asked. -/
def takeIf (ahead : Ahead) : Scan Unit := do
  let ts ← get
  guard (ahead ts)
  set (pass ts)

/-- Takes a certain word. -/
def takeWord (word : String) : Scan Unit := takeIf (atWord word)

/-- Takes a word that names something. -/
def takeName : Scan Unit := takeIf atName

/-- Takes a lifetime. -/
def takeLifetime : Scan Unit := takeIf atLifetime

/-- Takes some marks. -/
def takeMark (mark : String) : Scan Unit := do
  match afterMarks? mark.toList (← get) with
  | some rest => set rest
  | none      => failure

/-- Takes a literal. -/
def takeLiteral : Scan Literal := do
  match readLiteralToken (← get) with
  | some (value, rest) =>
    set rest
    pure value
  | none => failure

/-- Takes what stands between certain brackets. -/
def takeGroup (bracket : Bracket) : Scan (List Token) := do
  match ← get with
  | .group b inner :: rest =>
    guard (b = bracket)
    set rest
    pure inner
  | _ => failure

/-- Takes a group in whatever brackets and tells which ones. -/
def takeAnyGroup : Scan Bracket := do
  match ← get with
  | .group b _ :: rest =>
    set rest
    pure b
  | _ => failure

/-- Takes one token or one lifetime if it is as asked, and tells whether. -/
def tryIf (ahead : Ahead) : Scan Bool := do
  let found ← ask ahead
  if found then modify pass
  pure found

/-- Takes a certain word if it comes next, and tells whether. -/
def tryWord (word : String) : Scan Bool := tryIf (atWord word)

/-- Takes some marks if they come next, and tells whether. -/
def tryMark (mark : String) : Scan Bool := do
  match afterMarks? mark.toList (← get) with
  | some rest =>
    set rest
    pure true
  | none => pure false

/-! ### Combining -/

variable {α σ : Type}

/-- The first of some scans whose question is answered by what comes next. -/
def firstOf (choices : List (Ahead × Scan α)) : Scan α := do
  let ts ← get
  match choices.find? fun choice => choice.1 ts with
  | some (_, scan) => scan
  | none           => failure

/-- Scans other tokens than the next ones. What the scan leaves of them is lost. -/
def within (inner : List Token) (scan : Scan α) : Scan α :=
  match scan.run inner with
  | some (a, _) => pure a
  | none        => failure

/-- Scans what stands between certain brackets, and loses what the scan leaves of it. -/
def inGroup (bracket : Bracket) (scan : Scan α) : Scan α := do
  within (← takeGroup bracket) scan

/-- Repeats a step as long as it has a next value, at most a number of times. -/
def loopUpTo (step : σ → Scan (Option σ)) : Nat → σ → Scan σ
  | 0, s     => pure s
  | n + 1, s => do
    match ← step s with
    | some s => loopUpTo step n s
    | none   => pure s

/-- Repeats a step as long as it has a next value. Each step but the last takes a token. -/
def loop (step : σ → Scan (Option σ)) (s : σ) : Scan σ := do
  loopUpTo step ((← get).length + 1) s

/-- Repeats a scan as long as it finds something to take. -/
def repeatWhile (scan : Scan Bool) : Scan Unit :=
  loop (fun _ => do return if ← scan then some () else none) ()

/-- Repeats a scan until a question is answered. -/
def repeatUntil (stop : Ahead) (scan : Scan Unit) : Scan Unit :=
  repeatWhile do
    if ← ask stop then pure false
    else
      scan
      pure true

/-- At most a number of results of a scan with marks between them, and perhaps behind the last. -/
def listUpTo (stop : Ahead) (mark : String) (scan : Scan α) : Nat → Scan (List α)
  | 0     => failure
  | n + 1 => do
    if ← ask stop then pure []
    else
      let a ← scan
      if ← ask stop then pure [a]
      else
        takeMark mark
        let rest ← listUpTo stop mark scan n
        pure (a :: rest)

/-- The results of a scan with marks between them up to where a question is answered, perhaps with
one more mark behind the last. -/
def listUntil (stop : Ahead) (mark : String) (scan : Scan α) : Scan (List α) := do
  listUpTo stop mark scan ((← get).length + 1)

/-- The results of a scan with commas between them up to the end. -/
def listed (scan : Scan α) : Scan (List α) := listUntil List.isEmpty "," scan

/-- Repeats a scan as long as marks follow it and a question is not answered. -/
def chain (stop : Ahead) (mark : String) (scan : Scan Unit) : Scan Unit :=
  repeatWhile do
    if ← ask stop then pure false
    else
      scan
      tryMark mark

end Nmea.Declaration
