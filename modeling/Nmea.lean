import Nmea.Declaration.Basic
import Nmea.Main
import Nmea.Serial
import Nmea.View.Weather
import Nmea.Proofs.Line.Shape
import Nmea.Proofs.Line.Corruption
import Nmea.Proofs.Line.Sealing
import Nmea.Proofs.Field.Binary
import Nmea.Proofs.Field.Calendar
import Nmea.Proofs.Field.Clock
import Nmea.Proofs.Field.Word
import Nmea.Proofs.Record.Coordinate
import Nmea.Proofs.Record.Decimal
import Nmea.Proofs.Record.Reachable
import Nmea.Proofs.Record.Single
import Nmea.Proofs.Record.Tail
import Nmea.Proofs.Registry.Log
import Nmea.Proofs.Decoder
import Nmea.Proofs.Fragment.Message
import Nmea.Proofs.Fragment.ReadBack
import Nmea.Proofs.View.Route
import Nmea.Proofs.Serial.Sentence
import Nmea.Proofs.Serial.Talker
import Nmea.Proofs.Declaration.Items
import Nmea.Proofs.Registry.Construction
