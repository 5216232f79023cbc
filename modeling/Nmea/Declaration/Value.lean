import Nmea.Declaration.Grammar.Definition
import Nmea.Declaration.Grammar.Expression
import Nmea.Declaration.Grammar.Statement

/-!
# Values in declarations

The grammar of all phrases, which is the scan of each kind of phrase over the grammar of the phrases
inside it.
-/

namespace Nmea.Declaration

/-! ### The grammar -/

/-- The scan of a phrase over a grammar of the phrases inside it. -/
def Phrase.scan (g : Grammar) : Phrase → Scan Shape
  | .expression structures           => g.expression structures
  | .operand structures              => g.operand structures
  | .operators structures level left => g.operators structures level left
  | .bounded                         => g.bounded
  | .type sums                       => g.type sums
  | .bound captures constant         => g.bound captures constant
  | .pattern                         => g.pattern
  | .block attributed                => g.block attributed
  | .definition                      => g.definition
  | .namedParts                      => g.namedParts
  | .tree rooted                     => g.tree rooted

/-- The grammar of phrases that stand within each other at most to a depth. -/
def grammarOfDepth : Nat → Grammar
  | 0, _     => failure
  | n + 1, p => p.scan (grammarOfDepth n)

mutual

/-- The number of tokens in a list of tokens, those in groups included. -/
def countTokens : List Token → Nat
  | []      => 0
  | t :: ts => countToken t + countTokens ts

/-- The number of tokens in a token, itself included. -/
def countToken : Token → Nat
  | .group _ inner => countTokens inner + 1
  | _              => 1

end

/-- The depth that no phrase of some tokens reaches: between two phrases that begin with the same
token there are fewer than eight. -/
def depthOf (ts : List Token) : Nat := 8 * (countTokens ts + 1)

/-- The grammar of all phrases. -/
def grammar : Grammar := fun p ts => grammarOfDepth (depthOf ts) p ts

end Nmea.Declaration
