import Mathlib.Data.List.AList
import AdbMobile.Features
import AdbMobile.Packet

/-!
# Transports

An `atransport` is the server's record of one device. The fields here are the ones that the code on
the looper thread reads or writes; the reverse forwards that the device may ask for are a map from
remote to local addresses, and `disconnects_` holds the listeners to tell when the device goes away.
-/

namespace AdbMobile

open ByteString

/-- `TransportType`. -/
inductive TransportType
  | usb | local | any | host
  deriving DecidableEq, Repr

/-- `ConnectionState`, less the wildcard `kCsAny`. -/
inductive ConnectionState
  | connecting | authorizing | unauthorized | noPerm | detached | offline
  | bootloader | device | host | recovery | sideload | rescue
  deriving DecidableEq, Repr

/-- `ConnectionStateIsOnline`. -/
def ConnectionState.isOnline : ConnectionState → Bool
  | .bootloader | .device | .host | .recovery | .sideload | .rescue => true
  | _ => false

/-- The states that `acquire_one_transport` accepts from a caller that needs an active transport. -/
def ConnectionState.isAcquirable : ConnectionState → Bool
  | .noPerm | .connecting | .authorizing | .unauthorized | .offline => false
  | _ => true

/-- `atransport`. -/
structure ATransport where
  type : TransportType
  serial : Bytes
  product : Bytes
  model : Bytes
  device : Bytes
  connectionState : ConnectionState
  online : Bool
  useTls : Bool
  protocolVersion : ℤ
  maxPayload : ℕ
  features : FeatureSet
  /-- `delayed_ack_`. -/
  delayedAck : Bool
  /-- `reverse_forwards_`, from remote to local. -/
  reverseForwards : AList fun _ : Bytes => Bytes
  /-- `disconnects_`: each is the `disconnect` member of a listener. -/
  disconnects : List ℕ
  /-- `connection_established_`, once it is ready. -/
  connectionEstablished : Option Bool
  kicked : Bool
  /-- `IsTcpDevice()`. -/
  isTcpDevice : Bool

namespace ATransport

/-- A transport as its constructor leaves it. -/
def new (type : TransportType) (serial : Bytes) (state : ConnectionState) (isTcpDevice : Bool) :
    ATransport where
  type := type
  serial := serial
  product := []
  model := []
  device := []
  connectionState := state
  online := false
  useTls := false
  protocolVersion := aVersionMin
  maxPayload := AdbMobile.maxPayload
  features := []
  delayedAck := false
  reverseForwards := ∅
  disconnects := []
  connectionEstablished := none
  kicked := false
  isTcpDevice := isTcpDevice

/-- `update_version`. -/
def updateVersion (t : ATransport) (version : ℤ) (payload : ℕ) : ATransport :=
  { t with
    protocolVersion := min version aVersion
    maxPayload := min payload AdbMobile.maxPayload }

/-- `SetFeatures`. -/
def setFeatures (delayedAckEnabled : Bool) (t : ATransport) (featuresString : Bytes) : ATransport :=
  let features := stringToFeatureSet featuresString
  { t with
    features := features
    delayedAck := canUseFeature delayedAckEnabled features kFeatureDelayedAck }

/-- `SetConnectionEstablished`: the first call decides. -/
def setConnectionEstablished (t : ATransport) (success : Bool) : ATransport :=
  { t with connectionEstablished := t.connectionEstablished <|> some success }

/-- One property of a banner. -/
def parseBannerProp (delayedAckEnabled : Bool) (t : ATransport) (prop : Bytes) : ATransport :=
  match split 61 prop with
  | [key, value] =>
    if key = lit "ro.product.name" then { t with product := value }
    else if key = lit "ro.product.model" then { t with model := value }
    else if key = lit "ro.product.device" then { t with device := value }
    else if key = lit "features" then t.setFeatures delayedAckEnabled value
    else t
  | _ => t

/-- The properties of a banner, as `parse_banner` stores them. -/
def parseBannerProps (delayedAckEnabled : Bool) (t : ATransport) (banner : Bytes) : ATransport :=
  let t := t.setFeatures delayedAckEnabled []
  match split 58 banner with
  | _ :: _ :: props :: _ =>
    ((split 59 props).filter (· ≠ [])).foldl (parseBannerProp delayedAckEnabled) t
  | _ => t

/-- The state that the type in a banner asks for. -/
def parseBannerState (banner : Bytes) : ConnectionState :=
  let type := (split 58 banner).headD []
  if type = lit "bootloader" then .bootloader
  else if type = lit "device" then .device
  else if type = lit "recovery" then .recovery
  else if type = lit "sideload" then .sideload
  else if type = lit "rescue" then .rescue
  else .host

/-- The reverse forwards after a service of the device. A service that is not known is only
logged. -/
def reverseForwardsAfter (m : AList fun _ : Bytes => Bytes) (serviceAddr : Bytes) :
    AList fun _ : Bytes => Bytes :=
  match consumePrefix serviceAddr (lit "reverse:") with
  | none => m
  | some service =>
    match consumePrefix service (lit "forward:") with
    | some forward =>
      let norebind := consumePrefix forward (lit "norebind:")
      let forward := norebind.getD forward
      if 59 ∈ forward then
        let remote := forward.takeWhile (· ≠ 59)
        let localAddr := forward.drop (remote.length + 1)
        if norebind.isSome ∧ remote ∈ m then m else m.insert remote localAddr
      else m
    | none =>
      match consumePrefix service (lit "killforward:") with
      | some remote => if 59 ∈ remote then m else m.erase remote
      | none => if service = lit "killforward-all" then ∅ else m

/-- `UpdateReverseConfig`. -/
def updateReverseConfig (t : ATransport) (serviceAddr : Bytes) : ATransport :=
  { t with reverseForwards := reverseForwardsAfter t.reverseForwards serviceAddr }

/-- `IsReverseConfigured`: `localAddr` is the local part of some entry. -/
def isReverseConfigured (t : ATransport) (localAddr : Bytes) : Bool :=
  t.reverseForwards.entries.any fun e => e.2 = localAddr

/-- `AddDisconnect`. -/
def addDisconnect (t : ATransport) (d : ℕ) : ATransport :=
  { t with disconnects := t.disconnects ++ [d] }

/-- `RemoveDisconnect`. -/
def removeDisconnect (t : ATransport) (d : ℕ) : ATransport :=
  { t with disconnects := t.disconnects.filter (· ≠ d) }

/-- The header fields that `send_packet` fills in. -/
def finishPacket (t : ATransport) (p : APacket) : APacket :=
  { p with
    msg.magic := p.msg.command ^^^ 0xffffffff
    msg.dataCheck :=
      if aVersionSkipChecksum ≤ t.protocolVersion then 0 else calculateApacketChecksum p }

/-- `check_header`. -/
def checkHeader (t : ATransport) (p : APacket) : Bool :=
  p.msg.magic = p.msg.command ^^^ 0xffffffff ∧ p.msg.dataLength.toNat ≤ t.maxPayload

/-- A packet that `send_packet` prepared passes where its payload is not too long. -/
theorem checkHeader_finishPacket (t u : ATransport) (p : APacket) :
    u.checkHeader (t.finishPacket p) = decide (p.msg.dataLength.toNat ≤ u.maxPayload) := by
  simp [checkHeader, finishPacket]

end ATransport

end AdbMobile
