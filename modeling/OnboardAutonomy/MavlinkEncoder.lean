import OnboardAutonomy.MavlinkMessage

/-! `MavlinkEncoder`: the messages the companion sends, before the MAVLink library numbers, checks and
serializes them. -/

namespace OnboardAutonomy

def kCompanionComponentId : UInt8 := 191
def kMaximumParameterIdLength : Nat := 16

def MAV_CMD_SET_MESSAGE_INTERVAL : UInt16 := 511
def MAV_CMD_REQUEST_MESSAGE : UInt16 := 512

structure CommandLong where
  targetSystem : UInt8
  targetComponent : UInt8
  command : UInt16
  confirmation : UInt8
  param1 : Binary64
  param2 : Binary64
  param3 : Binary64
  param4 : Binary64
  param5 : Binary64
  param6 : Binary64
  param7 : Binary64
  deriving DecidableEq

structure ParamRequestRead where
  targetSystem : UInt8
  targetComponent : UInt8
  paramId : Bytes
  paramIndex : Int16
  deriving DecidableEq

inductive OutboundPayload where
  | heartbeat (fields : Heartbeat)
  | commandLong (fields : CommandLong)
  | paramRequestRead (fields : ParamRequestRead)
  deriving DecidableEq

/-- A message with the source it is packed under. -/
structure OutboundMessage where
  sysid : UInt8
  compid : UInt8
  payload : OutboundPayload
  deriving DecidableEq

/-- The system a message is addressed to, if it has a target. -/
def OutboundMessage.targetSystem (message : OutboundMessage) : Option UInt8 :=
  match message.payload with
  | .heartbeat _ => none
  | .commandLong fields => some fields.targetSystem
  | .paramRequestRead fields => some fields.targetSystem

/-- A parameter id that fits its field in the message. -/
structure ParameterId where
  text : Bytes
  fits : 1 ≤ text.length ∧ text.length ≤ kMaximumParameterIdLength

def encodeCommandLong (vehicleSystemId componentId : UInt8) (command : UInt16) (confirmation : UInt8)
    (param1 param2 param3 param4 param5 param6 param7 : Binary64) : OutboundMessage :=
  { sysid := vehicleSystemId
    compid := componentId
    payload := .commandLong
      { targetSystem := vehicleSystemId
        targetComponent := 0
        command := command
        confirmation := confirmation
        param1 := param1
        param2 := param2
        param3 := param3
        param4 := param4
        param5 := param5
        param6 := param6
        param7 := param7 } }

/-- Type ONBOARD_CONTROLLER, autopilot INVALID, state ACTIVE. -/
def encodeCompanionHeartbeat (systemId : UInt8) (componentId : UInt8 := kCompanionComponentId) :
    OutboundMessage :=
  { sysid := systemId
    compid := componentId
    payload := .heartbeat
      { type := 18
        autopilot := 8
        baseMode := 0
        customMode := 0
        systemStatus := 4 } }

def encodeSetMessageInterval (vehicleSystemId : UInt8) (messageId intervalMicroseconds : UInt32)
    (confirmation : UInt8 := 0) (componentId : UInt8 := kCompanionComponentId) : OutboundMessage :=
  encodeCommandLong vehicleSystemId componentId MAV_CMD_SET_MESSAGE_INTERVAL confirmation
    (.single messageId.toNat) (.single intervalMicroseconds.toNat) .zero .zero .zero .zero .zero

/-- The request for an id that fits, padded with NUL to the field's length. -/
def paramRequestRead (vehicleSystemId : UInt8) (parameterId : ParameterId)
    (componentId : UInt8 := kCompanionComponentId) : OutboundMessage :=
  { sysid := vehicleSystemId
    compid := componentId
    payload := .paramRequestRead
      { targetSystem := vehicleSystemId
        targetComponent := 1
        paramId := parameterId.text ++
          List.replicate (kMaximumParameterIdLength - parameterId.text.length) 0
        paramIndex := -1 } }

/-- An id that does not fit is an invalid argument. -/
def encodeParameterRequestRead (vehicleSystemId : UInt8) (parameterId : Bytes)
    (componentId : UInt8 := kCompanionComponentId) : Except String OutboundMessage :=
  if h : 1 ≤ parameterId.length ∧ parameterId.length ≤ kMaximumParameterIdLength then
    .ok (paramRequestRead vehicleSystemId ⟨parameterId, h⟩ componentId)
  else .error "MAVLink parameter id must contain 1 to 16 characters"

def batteryArmingVoltageId : ParameterId := ⟨literal "BATT_ARM_VOLT", by decide⟩

def encodeBatteryArmingVoltageRequest (vehicleSystemId : UInt8)
    (componentId : UInt8 := kCompanionComponentId) : OutboundMessage :=
  paramRequestRead vehicleSystemId batteryArmingVoltageId componentId

/-- The encoder takes this id. -/
example (vehicleSystemId : UInt8) : encodeParameterRequestRead vehicleSystemId (literal "BATT_ARM_VOLT") =
    .ok (encodeBatteryArmingVoltageRequest vehicleSystemId) := rfl

def encodeAutopilotVersionRequest (vehicleSystemId : UInt8)
    (componentId : UInt8 := kCompanionComponentId) : OutboundMessage :=
  encodeCommandLong vehicleSystemId componentId MAV_CMD_REQUEST_MESSAGE 0 (.single 148) .zero .zero .zero
    .zero .zero (.single 1)

end OnboardAutonomy
