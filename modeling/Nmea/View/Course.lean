import Nmea.View.Fix

/-!
# Heading, course and route

Where the vessel points (HDG, HDM, HDT), where and how fast it goes (VTG), and the waypoints that
it goes to (RTE).
-/

namespace Nmea

/-! ### HDG -/

namespace HDG

/-- The heading of the magnetic sensor in degrees. -/
def heading (r : Record) : Except Error Double := r.get Double 0

/-- The magnetic variation in degrees, west negative. -/
def variation (r : Record) : Except Error Double := r.variation 3 4

end HDG

/-! ### HDM -/

namespace HDM

/-- The magnetic heading in degrees. -/
def heading (r : Record) : Except Error Double := r.get Double 0

/-- Writes the magnetic heading. -/
def setHeading (degrees : Double) : Edit Unit := Edit.setDegrees 0 degrees

end HDM

/-! ### HDT -/

namespace HDT

/-- The true heading in degrees. -/
def heading (r : Record) : Except Error Double := r.get Double 0

/-- Writes the true heading. -/
def setHeading (degrees : Double) : Edit Unit := Edit.setDegrees 0 degrees

end HDT

/-! ### VTG -/

namespace VTG

/-- Kilometers in a nautical mile. -/
def kilometers : Double := .ofRat (1852 / 1000)

/-- The course over ground in degrees true. -/
def trueCourse (r : Record) : Except Error Double := r.get Double 0

/-- Writes the true course. -/
def setTrueCourse (degrees : Double) : Edit Unit := Edit.setDegrees 0 degrees

/-- The course over ground in degrees magnetic. -/
def magneticCourse (r : Record) : Except Error Double := r.get Double 2

/-- The speed over ground in knots. -/
def speedKnots (r : Record) : Except Error Double := r.get Double 4

/-- Writes the speed in knots, and then in kilometers per hour. -/
def setSpeedKnots (knots : Double) : Edit Unit := do
  Edit.setDouble 4 knots 1 1
  Edit.setDouble 6 (knots * kilometers) 1 1

/-- The speed over ground in kilometers per hour. -/
def speedKmh (r : Record) : Except Error Double := r.get Double 6

end VTG

/-! ### RTE -/

namespace RTE

/-- The field of the first waypoint. -/
def firstWaypoint : Nat := 4

/-- The id of the route. -/
def routeId (r : Record) : Except Error Text := r.value 3

/-- The ids of the waypoints in the order of the route. -/
def waypointIds (r : Record) : List Text :=
  (r.fields.drop firstWaypoint).filter (!·.isEmpty)

/-- Replaces the waypoints; the fields before them are filled up first. -/
def setWaypointIds (ids : List Text) : Edit Unit := do
  let r ← get
  if r.count < firstWaypoint then Edit.resize firstWaypoint
  Edit.setValues firstWaypoint ids

end RTE

end Nmea
