import Mathlib.Data.Vector.Basic

/-! # The data of `NodeDB.cpp`

The protobuf records the node database persists (`DeviceState` and what it holds), the
inbound `MeshPacket`, and the RAM the file owns: `devicestate`, the statics of the file and
the members of `nodeDB`. Every field has the value `memset(…, 0, …)` gives it as its
default, so `{}` is a zeroed record. Constants and tables the file reads but does not
define are the fields of `Platform`; the hardware it queries is `Hardware`. Calls into
collaborators are recorded in order as `Call`s. -/

namespace MeshNodeDB

/-- `NodeNum` (MeshTypes.h): a node's number, a 32-bit unsigned integer. -/
abbrev NodeNum := UInt32

abbrev MacAddr := Mathlib.Vector UInt8 6

instance : Repr MacAddr := ⟨fun m _ => repr m.toList⟩

abbrev RegionCode := Nat

def RegionCode.unset : RegionCode := 0

def criticalErrorCodeNone : Nat := 0

/-- `Position`: the fields the catalog copies, and `time`, the only one it reads. -/
structure Position where
  latitudeI : Int := 0
  longitudeI : Int := 0
  altitude : Int := 0
  batteryLevel : Int := 0
  time : UInt32 := 0
  deriving DecidableEq, Repr

/-- `User`: a node's identity. `updateUser` compares it as a whole, as `memcmp` does. -/
structure User where
  id : String := ""
  longName : String := ""
  shortName : String := ""
  macaddr : MacAddr := Mathlib.Vector.replicate 6 0
  deriving DecidableEq, Repr

/-- `NodeInfo`: one record of the peer catalog. The `float` SNR is kept as its bit
pattern, since the catalog only copies it. -/
structure NodeInfo where
  num : NodeNum := 0
  hasUser : Bool := false
  user : User := {}
  hasPosition : Bool := false
  position : Position := {}
  snr : UInt32 := 0
  deriving DecidableEq, Repr

structure MyNodeInfo where
  myNodeNum : NodeNum := 0
  hasGps : Bool := false
  region : String := ""
  firmwareVersion : String := ""
  errorCode : Nat := 0
  errorAddress : UInt32 := 0
  errorCount : UInt32 := 0
  packetIdBits : UInt32 := 0
  nodeNumBits : UInt32 := 0
  messageTimeoutMsec : UInt32 := 0
  minAppVersion : UInt32 := 0
  hwModel : String := ""
  deriving DecidableEq, Repr

/-- `ChannelSettings_ModemConfig`: the four presets, and `other` for any value a decoded
record may hold that is none of them. The enum's zero is `Bw125Cr45Sf128`. -/
inductive ModemConfig where
  | bw125Cr45Sf128
  | bw500Cr45Sf128
  | bw31_25Cr48Sf512
  | bw125Cr48Sf4096
  | other (raw : Int)
  deriving DecidableEq, Repr

/-- `ChannelSettings.psk`, nanopb's `pb_bytes_array(32)`: its first `size` bytes. -/
structure Psk where
  bytes : List UInt8 := []
  size_le : bytes.length ≤ 32 := by decide
  deriving DecidableEq, Repr

def Psk.size (p : Psk) : Nat := p.bytes.length

structure ChannelSettings where
  txPower : Int := 0
  modemConfig : ModemConfig := .bw125Cr45Sf128
  psk : Psk := {}
  name : String := ""
  bandwidth : UInt32 := 0
  deriving DecidableEq, Repr

structure UserPreferences where
  positionBroadcastSecs : UInt32 := 0
  screenOnSecs : UInt32 := 0
  waitBluetoothSecs : UInt32 := 0
  lsSecs : UInt32 := 0
  region : RegionCode := RegionCode.unset
  factoryReset : Bool := false
  deriving DecidableEq, Repr

structure RadioConfig where
  hasPreferences : Bool := false
  preferences : UserPreferences := {}
  hasChannelSettings : Bool := false
  channelSettings : ChannelSettings := {}
  deriving DecidableEq, Repr

/-- `DeviceState`, the one persisted record. `nodeDb` is `node_db[0 .. node_db_count)`. -/
structure DeviceState where
  hasRadio : Bool := false
  radio : RadioConfig := {}
  hasMyNode : Bool := false
  myNode : MyNodeInfo := {}
  hasOwner : Bool := false
  owner : User := {}
  nodeDb : List NodeInfo := []
  receiveQueueCount : Nat := 0
  version : UInt32 := 0
  noSave : Bool := false
  deriving DecidableEq, Repr

structure Data where
  portnum : Nat := 0
  payload : List UInt8 := []
  deriving DecidableEq, Repr

/-- `SubPacket`'s `which_payload` union; `other` is any further variant, by its tag. -/
inductive SubPacket where
  | position (p : Position)
  | data (d : Data)
  | user (u : User)
  | other (tag : Nat)
  deriving DecidableEq, Repr

inductive MeshPayload where
  | decoded (p : SubPacket)
  | encrypted (bytes : List UInt8)
  deriving DecidableEq, Repr

structure MeshPacket where
  «from» : NodeNum
  «to» : NodeNum
  rxTime : UInt32
  rxSnr : UInt32
  payload : MeshPayload
  deriving DecidableEq, Repr

/-- A call from this file into a collaborator. -/
inductive Call where
  /-- `crypto->setKey(activePSKSize, activePSK)` -/
  | setKey (size : Nat) (key : List UInt8)
  | initRegion
  | generatePacketId
  /-- `powerFSM.trigger(EVENT_NODEDB_UPDATED)` -/
  | nodeDbUpdated
  | notifyObservers (forceUpdate : Bool)
  | callPlugins (mp : MeshPacket)
  deriving DecidableEq, Repr

inductive Halt where
  /-- `assert(*numNodes < MAX_NUM_NODES)` in `getOrCreateNode` fails. -/
  | assertFailed
  /-- `pickNewNodeNum`'s retry loop is still running when the model's fuel is spent. -/
  | outOfFuel
  deriving DecidableEq, Repr

/-- What `channelName` points at: nothing yet, `channelSettings.name`, or a literal. -/
inductive ChannelNamePtr where
  | null
  | settingsName
  | literal (s : String)
  deriving DecidableEq, Repr

/-- The RAM of `NodeDB.cpp`: `devicestate`, the statics `ourMacAddr`, `radioGeneration`,
`channelName`, `activePSK` and `activePSKSize`, the members `readPointer` and
`updateGUIforNode` of `nodeDB`, how many results of the random source were used, and the
calls made into collaborators, oldest first. -/
structure NodeDB where
  devicestate : DeviceState := {}
  ourMacAddr : MacAddr := Mathlib.Vector.replicate 6 0
  radioGeneration : UInt32 := 0
  channelName : ChannelNamePtr := .null
  activePSK : List UInt8 := List.replicate 32 0
  activePSKSize : Nat := 0
  readPointer : Nat := 0
  updateGUIforNode : Option Nat := none
  randomCalls : Nat := 0
  calls : List Call := []
  deriving DecidableEq, Repr

structure RegionInfo where
  code : RegionCode
  name : String
  deriving DecidableEq, Repr

/-- Build-time constants and tables from outside this file. `regions` lists `regions[]`
up to its `RegionCode_Unset` terminator; `NODENUM_BROADCAST` lies above the reserved
numbers `0 .. NUM_RESERVED = 4`. -/
structure Platform where
  maxNumNodes : Nat
  nodenumBroadcast : NodeNum
  reserved_lt_broadcast : 4 < nodenumBroadcast.toNat
  sizeofPacketId : Nat
  floodExpireTime : UInt32
  hwVersion : String
  appVersion : String
  hwVendor : String
  regionTW : RegionCode
  regions : List RegionInfo

/-- A build to run the model on: room for 32 peers, the broadcast address `UINT32_MAX`,
32-bit packet ids, and no region table. -/
def Platform.demo : Platform where
  maxNumNodes := 32
  nodenumBroadcast := 0xffffffff
  reserved_lt_broadcast := by decide
  sizeofPacketId := 4
  floodExpireTime := 0
  hwVersion := ""
  appVersion := ""
  hwVendor := ""
  regionTW := 0
  regions := []

/-- The hardware: `getMacAddr`, and the platform's `random()` behind Arduino's
`random(long howbig)`, whose `k`-th result is `random k`. -/
structure Hardware where
  macAddr : MacAddr
  random : Nat → Nat

def Hardware.demo : Hardware := ⟨Mathlib.Vector.replicate 6 1, fun _ => 0⟩

theorem uint32_lt_iff {a b : UInt32} : a < b ↔ a.toNat < b.toNat := Iff.rfl

theorem uint32_le_iff {a b : UInt32} : a ≤ b ↔ a.toNat ≤ b.toNat := Iff.rfl

theorem uint32_eq_iff {a b : UInt32} : a = b ↔ a.toNat = b.toNat :=
  ⟨congrArg _, UInt32.toNat.inj⟩

theorem uint32_toNat_ofNat (n : Nat) : (UInt32.ofNat n).toNat = n % 2 ^ 32 := rfl

theorem except_map_eq_ok {ε α β : Type} {f : α → β} {x : Except ε α} {b : β} :
    x.map f = .ok b ↔ ∃ a, x = .ok a ∧ f a = b := by
  cases x <;> simp [Except.map]

theorem except_map_eq_error {ε α β : Type} {f : α → β} {x : Except ε α} {e : ε} :
    x.map f = .error e ↔ x = .error e := by
  cases x <;> simp [Except.map]

namespace NodeDB

def call (db : NodeDB) (c : Call) : NodeDB := { db with calls := db.calls ++ [c] }

@[simp] theorem call_devicestate (db : NodeDB) (c : Call) :
    (db.call c).devicestate = db.devicestate := rfl

@[simp] theorem call_calls (db : NodeDB) (c : Call) : (db.call c).calls = db.calls ++ [c] := rfl

end NodeDB

end MeshNodeDB
