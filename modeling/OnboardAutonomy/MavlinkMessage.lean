import OnboardAutonomy.Binary64

/-! Inbound messages as the MAVLink library hands them over: framed, checked and decoded into the
fields of the message definitions. Only the messages `MavlinkDecoder` dispatches on are told apart; any
other one keeps its id and the name the library's message table gives it. Character arrays are byte
lists, read up to their capacity and the first NUL. -/

namespace OnboardAutonomy

/-- The contents of a `std::string` or of a character array. -/
abbrev Bytes := List UInt8

/-- A string literal of the source. -/
def literal (s : String) : Bytes := s.toUTF8.data.toList

/-- The string in a character array that need not be NUL-terminated. -/
def characterArray (capacity : Nat) (field : Bytes) : Bytes :=
  (field.take capacity).takeWhile fun byte => byte != 0

structure Heartbeat where
  type : UInt8
  autopilot : UInt8
  baseMode : UInt8
  customMode : UInt32
  systemStatus : UInt8
  deriving DecidableEq

structure GpsRawInt where
  fixType : UInt8
  satellitesVisible : UInt8
  deriving DecidableEq

structure GlobalPositionInt where
  relativeAlt : Int32
  deriving DecidableEq

structure LocalPositionNed where
  x : Binary64
  y : Binary64
  z : Binary64
  deriving DecidableEq

structure Attitude where
  roll : Binary64
  pitch : Binary64
  yaw : Binary64
  yawspeed : Binary64
  deriving DecidableEq

/-- The battery instance `id` is part of the message; the decoder does not read it. -/
structure BatteryStatus where
  id : UInt8
  voltages : List UInt16
  voltagesExt : List UInt16
  currentBattery : Int16
  batteryRemaining : Int8
  deriving DecidableEq

structure SysStatus where
  onboardControlSensorsEnabled : UInt32
  onboardControlSensorsHealth : UInt32
  voltageBattery : UInt16
  currentBattery : Int16
  batteryRemaining : Int8
  deriving DecidableEq

structure AutopilotVersion where
  flightSwVersion : UInt32
  capabilities : UInt64
  boardVersion : UInt32
  vendorId : UInt16
  productId : UInt16
  deriving DecidableEq

structure ParamValue where
  paramId : Bytes
  paramValue : Binary64
  paramType : UInt8
  deriving DecidableEq

structure Statustext where
  severity : UInt8
  text : Bytes
  deriving DecidableEq

structure CommandAckFields where
  command : UInt16
  result : UInt8
  progress : UInt8
  resultParam2 : Int32
  targetSystem : UInt8
  targetComponent : UInt8
  deriving DecidableEq

inductive Payload where
  | heartbeat (fields : Heartbeat)
  | sysStatus (fields : SysStatus)
  | paramValue (fields : ParamValue)
  | gpsRawInt (fields : GpsRawInt)
  | attitude (fields : Attitude)
  | localPositionNed (fields : LocalPositionNed)
  | globalPositionInt (fields : GlobalPositionInt)
  | commandAck (fields : CommandAckFields)
  | batteryStatus (fields : BatteryStatus)
  | autopilotVersion (fields : AutopilotVersion)
  | statustext (fields : Statustext)
  | other (msgid : UInt32) (name : Option String)
  deriving DecidableEq

/-- `mavlink_message_t` after framing. -/
structure MavlinkMessage where
  sysid : UInt8
  compid : UInt8
  payload : Payload
  deriving DecidableEq

namespace MavlinkMessage

def source (message : MavlinkMessage) : UInt8 × UInt8 := (message.sysid, message.compid)

def msgid (message : MavlinkMessage) : UInt32 :=
  match message.payload with
  | .heartbeat _ => 0
  | .sysStatus _ => 1
  | .paramValue _ => 22
  | .gpsRawInt _ => 24
  | .attitude _ => 30
  | .localPositionNed _ => 32
  | .globalPositionInt _ => 33
  | .commandAck _ => 77
  | .batteryStatus _ => 147
  | .autopilotVersion _ => 148
  | .statustext _ => 253
  | .other msgid _ => msgid

/-- The name in the library's message table, if it has an entry. -/
def name (message : MavlinkMessage) : Option String :=
  match message.payload with
  | .heartbeat _ => some "HEARTBEAT"
  | .sysStatus _ => some "SYS_STATUS"
  | .paramValue _ => some "PARAM_VALUE"
  | .gpsRawInt _ => some "GPS_RAW_INT"
  | .attitude _ => some "ATTITUDE"
  | .localPositionNed _ => some "LOCAL_POSITION_NED"
  | .globalPositionInt _ => some "GLOBAL_POSITION_INT"
  | .commandAck _ => some "COMMAND_ACK"
  | .batteryStatus _ => some "BATTERY_STATUS"
  | .autopilotVersion _ => some "AUTOPILOT_VERSION"
  | .statustext _ => some "STATUSTEXT"
  | .other _ name => name

end MavlinkMessage
end OnboardAutonomy
