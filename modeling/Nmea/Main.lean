import Nmea.Decoder
import Nmea.Text.Lines

/-!
# Command line

Reads a log from standard input and prints its report; a sample is shown if nothing is piped in.
-/

/-- What is left to read from a stream. -/
partial def readToEnd (stream : IO.FS.Stream) (read : String) : IO String := do
  let line ← stream.getLine
  if line.isEmpty then pure read else readToEnd stream (read ++ line)

/-- The text on standard input, or the sample if input comes from a terminal. -/
def readLog : IO Nmea.Text := do
  let stdin ← IO.getStdin
  if ← stdin.isTty then pure Nmea.Decoder.sample
  else
    let text ← readToEnd stdin ""
    pure text.toList

/-- Prints the report of the log. -/
def main : IO UInt32 := do
  let log ← readLog
  let (lines, complete) := Nmea.Decoder.transcript (Nmea.linesOf log)
  for line in lines do
    IO.println (String.ofList line)
  pure (if complete then 0 else 1)
