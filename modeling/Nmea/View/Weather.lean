import Nmea.Record.Edit

/-!
# Water and weather

What instruments measure around the vessel: depth (DBT, DPT), temperature (MTA, MTW), wind (MWV),
and whatever a transducer measures (XDR).
-/

namespace Nmea

/-! ### DBT -/

namespace DBT

/-- Feet in a meter. -/
def feet : Double := .ofRat (328084 / 100000)

/-- Fathoms in a meter. -/
def fathoms : Double := .ofRat (546807 / 1000000)

/-- The depth in meters. -/
def depth (r : Record) : Except Error Double := r.get Double 2

/-- Writes the depth in feet, then in meters, then in fathoms. -/
def setDepth (meters : Double) : Edit Unit := do
  Edit.setDouble 0 (meters * feet) 1 1
  Edit.setDouble 2 meters 1 1
  Edit.setDouble 4 (meters * fathoms) 1 1

end DBT

/-! ### DPT -/

namespace DPT

/-- The depth below the transducer in meters. -/
def depth (r : Record) : Except Error Double := r.get Double 0

/-- How far the transducer lies below the waterline in meters. -/
def offset (r : Record) : Except Error Double := r.get Double 1

end DPT

/-! ### MTA and MTW -/

namespace MTA

/-- The temperature of the air in degrees Celsius. -/
def temperature (r : Record) : Except Error Double := r.get Double 0

/-- Writes the temperature of the air. -/
def setTemperature (celsius : Double) : Edit Unit := Edit.setDouble 0 celsius 1 1

end MTA

namespace MTW

/-- The temperature of the water in degrees Celsius. -/
def temperature (r : Record) : Except Error Double := r.get Double 0

/-- Writes the temperature of the water. -/
def setTemperature (celsius : Double) : Edit Unit := Edit.setDouble 0 celsius 1 1

end MTW

/-! ### MWV -/

namespace MWV

/-- The angle of the wind in degrees. -/
def angle (r : Record) : Except Error Double := r.get Double 0

/-- Whether the wind is the true one; otherwise it is relative to the vessel. -/
def isTrue (r : Record) : Except Error Bool := do
  let reference ← r.get Char 1
  pure (reference = 'T')

/-- The speed of the wind in its unit. -/
def speed (r : Record) : Except Error Double := r.get Double 2

/-- The letter of the unit of the speed. -/
def speedUnit (r : Record) : Except Error Char := r.get Char 3

end MWV

/-! ### XDR -/

namespace XDR

/-- The number of fields of one measurement: its type, value, unit and name. -/
def groupSize : Nat := 4

/-- The number of whole measurements. -/
def measurementCount (r : Record) : Nat := r.count / groupSize

end XDR

end Nmea
