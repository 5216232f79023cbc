import Nmea.Fragment
import Nmea.Registry.Basic
import Nmea.View.Course

/-!
# Decoding a log

Each line of a log is turned into a line of report: what the sentence says, or why it was skipped.
Fragments wait until the last of their message arrives and are then joined. At the end the encoded
form of a heading is shown.
-/

namespace Nmea

namespace Decoder

/-! ### One sentence -/

/-- An answer as reports show it. -/
def answer {α : Type} (text : α → Text) : Except Error α → Text
  | .ok a      => "Ok(".toList ++ text a ++ ")".toList
  | .error why => "Err(".toList ++ why.text ++ ")".toList

/-- A number as reports show it. -/
def number (x : Double) : Text := x.text .exact

/-- The report of a sentence that is no fragment. -/
def report (s : Sentence) : Text :=
  let r := s.record
  if s.kind = .gga then
    "GGA  position ".toList ++ answer number (GGA.latitude r) ++ ", ".toList ++
      answer number (GGA.longitude r) ++ " with ".toList ++
      answer FieldValue.write (GGA.satelliteCount r) ++ " satellites".toList
  else if s.kind = .rmc then
    "RMC  valid: ".toList ++ answer Constructor.yesNo (RMC.isValid r)
  else if s.kind = .hdt then
    "HDT  heading ".toList ++ answer number (HDT.heading r)
  else r.id ++ "  ".toList ++ r.toText

/-- The report of the fragments of a message. -/
def reportMessage (fragments : List Record) : Text :=
  match reassemble fragments with
  | .ok (payload, fillBits) =>
    "VDM  payload ".toList ++ payload ++ " (".toList ++ FieldValue.write fillBits ++
      " fill bits)".toList
  | .error why => "VDM  ".toList ++ why.message

/-! ### A whole log -/

/-- Whether a fragment is the last of its message. -/
def endsMessage (r : Record) : Bool :=
  match r.fragmentHeader with
  | .ok header => header.isLast
  | .error _   => false

/-- The fragments that wait after a line, and what is reported about it. -/
def step (pending : List Record) (line : Text) : List Record × List Text :=
  match (Registry.builtin.createFromText line).value with
  | .error why   => (pending, ["skipped: ".toList ++ why.message])
  | .ok sentence =>
    if sentence.kind = .vdm then
      let fragments := pending ++ [sentence.record]
      if endsMessage sentence.record then ([], [reportMessage fragments]) else (fragments, [])
    else (pending, [report sentence])

/-- What is reported about lines while fragments wait. -/
def run (pending : List Record) : List Text → List Text
  | []            => []
  | line :: lines =>
    let (pending, reports) := step pending line
    reports ++ run pending lines

/-- The encoded form of a heading due east. -/
def reply : Except Error Text := do
  let sentence ← (Registry.builtin.createForTalker (.named .HE) Kind.hdt.id).value
  match (HDT.setHeading (.ofNat 90)).apply sentence.record with
  | (.ok _, r)      => .ok r.toText
  | (.error why, _) => .error why

/-- The report of a log, and whether it reached its end. -/
def transcript (lines : List Text) : List Text × Bool :=
  match reply with
  | .ok text => (run [] lines ++ ["encoded: ".toList ++ text], true)
  | .error _ => (run [] lines, false)

/-- A log to show if there is none to read. -/
def sample : Text :=
  ("$GPGGA,123519,4807.038,N,01131.000,E,1,08,0.9,545.4,M,46.9,M,,*47\n" ++
    "$GPRMC,142312.000,V,,,,,,,080514,,*20\n" ++
    "$HEHDT,274.1,T*2F\n" ++
    "!AIVDM,2,1,3,B,55P5TL01VIaAL@7WKO@mBplU@<PDhh000000001S;AJ::4A80?4i@E53,0*3E\n" ++
    "!AIVDM,2,2,3,B,1@0000000000000,2*55\n" ++
    "$GPXYZ,1,2,3*00\n" ++
    "not a sentence\n").toList

end Decoder

end Nmea
