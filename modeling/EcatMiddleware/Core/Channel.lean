import Mathlib.Data.List.Basic

/-!
# Channels

The receive and transmit channels of the middleware and the shared-memory devices behind them.
The sentinel `Count` of the source is no channel, so it has no constructor here.
-/

namespace EcatMiddleware.Core

inductive ChannelRx where
  | imu
  | motor
  | gripper
  | pump
  | powerBoard
  | forceTorque
  | valve
  deriving DecidableEq, Repr

inductive ChannelTx where
  | motor
  | pump
  | valve
  | gripper
  deriving DecidableEq, Repr

/-- The receive devices of the shared memory. -/
inductive DeviceTypeRx where
  | imu
  | motor
  | gripper
  | pump
  | powerBoard
  | forceTorque
  | valve
  deriving DecidableEq, Repr

/-- The transmit devices of the shared memory. -/
inductive DeviceTypeTx where
  | motor
  | pump
  | valve
  | gripper
  deriving DecidableEq, Repr

/-- `k_map_channelrx_to_devicerx`. -/
def mapChannelRxToDeviceRx : List (ChannelRx × DeviceTypeRx) :=
  [(.imu, .imu), (.motor, .motor), (.gripper, .gripper), (.pump, .pump),
    (.powerBoard, .powerBoard), (.forceTorque, .forceTorque), (.valve, .valve)]

/-- `k_map_channeltx_to_devicetx`. -/
def mapChannelTxToDeviceTx : List (ChannelTx × DeviceTypeTx) :=
  [(.motor, .motor), (.gripper, .gripper), (.pump, .pump), (.valve, .valve)]

/-- `device_for` of a receive channel. -/
def ChannelRx.deviceFor (ch : ChannelRx) : Option DeviceTypeRx := mapChannelRxToDeviceRx.lookup ch

/-- `device_for` of a transmit channel. -/
def ChannelTx.deviceFor (ch : ChannelTx) : Option DeviceTypeTx := mapChannelTxToDeviceTx.lookup ch

/-- `CHANNELS_ARRAY`: all receive channels, in enum order. -/
def channelsArray : List ChannelRx :=
  [.imu, .motor, .gripper, .pump, .powerBoard, .forceTorque, .valve]

theorem mem_channelsArray (ch : ChannelRx) : ch ∈ channelsArray := by cases ch <;> decide

/-- The device that a receive channel is mapped to. -/
def ChannelRx.device : ChannelRx → DeviceTypeRx
  | .imu => .imu
  | .motor => .motor
  | .gripper => .gripper
  | .pump => .pump
  | .powerBoard => .powerBoard
  | .forceTorque => .forceTorque
  | .valve => .valve

/-- Every receive channel has a device. -/
@[simp] theorem ChannelRx.deviceFor_eq (ch : ChannelRx) : ch.deviceFor = some ch.device := by
  cases ch <;> rfl

/-- The device that a transmit channel is mapped to. -/
def ChannelTx.device : ChannelTx → DeviceTypeTx
  | .motor => .motor
  | .pump => .pump
  | .valve => .valve
  | .gripper => .gripper

/-- Every transmit channel has a device. -/
@[simp] theorem ChannelTx.deviceFor_eq (ch : ChannelTx) : ch.deviceFor = some ch.device := by
  cases ch <;> rfl

end EcatMiddleware.Core
