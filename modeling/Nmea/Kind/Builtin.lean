import Nmea.Kind.Basic

/-!
# Built-in kinds

The kinds of the standard that the library comes with, in the order of their ids, and the table of
them all.
-/

namespace Nmea

namespace Kind

/-- A kind that is called by its sentence id and fills in single letters. -/
def ofLetters (id : String) (fieldCount : Nat) (letters : List (Nat × Char)) : Kind where
  name := id.toList
  id := id.toList
  fieldCount := fieldCount
  presets := letters.map fun (index, letter) => (index, [letter])

/-- Waypoint arrival alarm. -/
def aam : Kind := ofLetters "AAM" 5 [(3, 'N')]

/-- GPS almanac data. -/
def alm : Kind := ofLetters "ALM" 15 []

/-- Autopilot sentence "B". -/
def apb : Kind := ofLetters "APB" 14 []

/-- Bearing, waypoint to waypoint. -/
def bod : Kind := ofLetters "BOD" 6 [(1, 'T'), (3, 'M')]

/-- Bearing and distance to waypoint, great circle. -/
def bwc : Kind := ofLetters "BWC" 12 [(6, 'T'), (8, 'M'), (10, 'N')]

/-- Bearing and distance to waypoint, rhumb line. -/
def bwr : Kind := ofLetters "BWR" 12 [(6, 'T'), (8, 'M'), (10, 'N')]

/-- Depth below the transducer. -/
def dbt : Kind := ofLetters "DBT" 6 [(1, 'f'), (3, 'M'), (5, 'F')]

/-- Depth of water. -/
def dpt : Kind := ofLetters "DPT" 3 []

/-- Datum reference. -/
def dtm : Kind := ofLetters "DTM" 8 []

/-- GPS satellite fault detection. -/
def gbs : Kind := ofLetters "GBS" 8 []

/-- Global Positioning System fix data. -/
def gga : Kind := ofLetters "GGA" 14 []

/-- Geographic position. -/
def gll : Kind := ofLetters "GLL" 7 []

/-- Fix data. -/
def gns : Kind := ofLetters "GNS" 12 []

/-- GPS dilution of precision and active satellites. -/
def gsa : Kind := ofLetters "GSA" 17 []

/-- GPS pseudorange noise statistics. -/
def gst : Kind := ofLetters "GST" 8 []

/-- Satellites in view. -/
def gsv : Kind := ofLetters "GSV" 19 []

/-- Heading, deviation and variation. -/
def hdg : Kind := ofLetters "HDG" 5 []

/-- Heading, magnetic. -/
def hdm : Kind := ofLetters "HDM" 2 [(1, 'M')]

/-- Heading, true. -/
def hdt : Kind := ofLetters "HDT" 2 [(1, 'T')]

/-- Meteorological composite. -/
def mda : Kind := ofLetters "MDA" 20 []

/-- Humidity. -/
def mhu : Kind := ofLetters "MHU" 4 []

/-- Barometer. -/
def mmb : Kind := ofLetters "MMB" 4 [(1, 'I'), (3, 'B')]

/-- Air temperature. -/
def mta : Kind := ofLetters "MTA" 2 [(1, 'C')]

/-- Mean temperature of water. -/
def mtw : Kind := ofLetters "MTW" 2 [(1, 'C')]

/-- Wind direction and speed. -/
def mwd : Kind := ofLetters "MWD" 8 [(1, 'T'), (3, 'M'), (5, 'N'), (7, 'M')]

/-- Wind speed and angle. -/
def mwv : Kind := ofLetters "MWV" 5 []

/-- Own ship data. -/
def osd : Kind := ofLetters "OSD" 9 []

/-- Recommended minimum navigation information, to a destination. -/
def rmb : Kind := ofLetters "RMB" 13 []

/-- Recommended minimum navigation information, of the vessel. -/
def rmc : Kind := ofLetters "RMC" 12 []

/-- Rate of turn. -/
def rot : Kind := ofLetters "ROT" 2 []

/-- Revolutions. -/
def rpm : Kind := ofLetters "RPM" 5 []

/-- Rudder sensor angle. -/
def rsa : Kind := ofLetters "RSA" 4 []

/-- RADAR system data. -/
def rsd : Kind := ofLetters "RSD" 13 []

/-- Routes. -/
def rte : Kind := ofLetters "RTE" 4 []

/-- Target latitude and longitude. -/
def tll : Kind := ofLetters "TLL" 9 []

/-- Tracked target message. -/
def ttm : Kind := ofLetters "TTM" 15 []

/-- Text transmission. -/
def txt : Kind := ofLetters "TXT" 4 []

/-- Dual ground/water speed. -/
def vbw : Kind := ofLetters "VBW" 10 []

/-- AIS VHF data-link message. -/
def vdm : Kind := { ofLetters "VDM" 6 [] with opening := .encapsulation }

/-- AIS VHF data-link report of the own vessel. -/
def vdo : Kind := { ofLetters "VDO" 6 [] with opening := .encapsulation }

/-- Set and drift. -/
def vdr : Kind := ofLetters "VDR" 6 [(1, 'T'), (3, 'M'), (5, 'N')]

/-- Water speed and heading. -/
def vhw : Kind := ofLetters "VHW" 8 [(1, 'T'), (3, 'M'), (5, 'N'), (7, 'K')]

/-- Distance traveled through water. -/
def vlw : Kind := ofLetters "VLW" 4 [(1, 'N'), (3, 'N')]

/-- Track made good and ground speed. -/
def vtg : Kind := ofLetters "VTG" 9 [(1, 'T'), (3, 'M'), (5, 'N'), (7, 'K')]

/-- Relative wind speed and angle. -/
def vwr : Kind := ofLetters "VWR" 8 [(3, 'N'), (5, 'M'), (7, 'K')]

/-- True wind speed and angle. -/
def vwt : Kind := ofLetters "VWT" 8 [(3, 'N'), (5, 'M'), (7, 'K')]

/-- Waypoint location. -/
def wpl : Kind := ofLetters "WPL" 5 []

/-- Transducer measurement. -/
def xdr : Kind := ofLetters "XDR" 4 []

/-- Cross-track error, measured. -/
def xte : Kind := ofLetters "XTE" 6 [(4, 'N')]

/-- Time and date, with the local time zone. -/
def zda : Kind := ofLetters "ZDA" 6 []

/-- The kinds that a registry starts with. -/
def builtins : List Kind :=
  [aam, alm, apb, bod, bwc, bwr, dbt, dpt, dtm, gbs, gga, gll, gns, gsa, gst, gsv, hdg, hdm, hdt,
   mda, mhu, mmb, mta, mtw, mwd, mwv, osd, rmb, rmc, rot, rpm, rsa, rsd, rte, tll, ttm, txt, vbw,
   vdm, vdo, vdr, vhw, vlw, vtg, vwr, vwt, wpl, xdr, xte, zda]

end Kind

end Nmea
