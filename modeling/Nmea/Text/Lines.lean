import Nmea.Text.Basic

/-!
# Lines

A text is cut into lines at its line feeds. A carriage return right before one belongs to the end
of the line, and behind the last line feed there is a line only if something stands there.
-/

namespace Nmea

/-- A line without a carriage return at its end. -/
def dropReturn (line : Text) : Text :=
  match line.reverse with
  | '\r' :: rest => rest.reverse
  | _            => line

/-- The lines of the pieces between line feeds. -/
def linesOfPieces : List Text → List Text
  | []              => []
  | [last]          => if last.isEmpty then [] else [last]
  | piece :: pieces => dropReturn piece :: linesOfPieces pieces

/-- The lines of a text. -/
def linesOf (t : Text) : List Text := linesOfPieces (t.splitOn '\n')

end Nmea
