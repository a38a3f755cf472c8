import Mathlib.Data.List.Sort
import AdbMobile.Lib.Prog
import AdbMobile.Server.Acquire
import AdbMobile.Server.HandlePacket
import AdbMobile.Server.ForwardRequest

/-!
# Host requests

`handle_host_request` serves the requests of clients to the server itself. It answers on `reply_fd`,
and what it returns tells the smart socket what to do next: nothing, to go on with the transport
that the socket has got, or, for a request that is `Unhandled`, to look for another service and to
answer itself.

A request is a program over the looper's tables and the socket's transport. Its events are what it
writes, the calls of `acquire_one_transport`, and the transports that it kicks. `transport.h`,
`adb_io.cpp` and the generated messages are outside the repository.
-/

namespace AdbMobile

open ByteString

/-- `HostRequestResult`. -/
inductive HostRequestResult
  | handled | switchedTransport | unhandled
  deriving DecidableEq, Repr

/-- What a host request reads besides the looper's tables. -/
structure HostRequestEnv extends AcquireEnv where
  /-- `g_reject_kill_server`. -/
  rejectKillServer : Bool
  /-- `is_libusb_enabled`. -/
  libusbEnabled : Bool
  /-- The serialized `AdbServerStatus`. -/
  serverStatus : Bytes
  /-- `ADB_SERVER_VERSION`. -/
  serverVersion : ℕ
  /-- `UsbNoPermissionsShortHelpText`. -/
  noPermissionsShortHelp : Bytes
  /-- `serial_name` of a transport with this serial. -/
  serialName : Bytes → Bytes
  /-- `id` and `devpath` of the transport at an address. -/
  ids : ℕ → UInt64
  devpaths : ℕ → Bytes
  /-- `android::base::ParseUint`, for an unsigned type with this greatest value. -/
  parseUint : ℕ → Bytes → Option ℕ
  /-- `android::base::ParseNetAddress`: the canonical address, or the error. -/
  canonicalAddress : Bytes → Except Bytes Bytes
  /-- `Connection::Attach` and `Connection::Detach` of the transport at an address. -/
  attach : ℕ → Except Bytes Unit
  detach : ℕ → Except Bytes Unit
  /-- What `socket_spec_listen` opens. -/
  listening : Except Bytes Listening

/-- What a host request changes: the looper's tables, and `s->transport`. -/
structure HostRequestState where
  host : Host
  socketTransport : Option ℕ

/-- What a host request does, in order. -/
inductive HostRequestEvent
  | reply (r : Reply)
  /-- `WriteFdExactly` of a transport's id. -/
  | transportId (id : UInt64)
  /-- `acquire_one_transport`. -/
  | acquires (sel : TransportSelection) (acceptAnyState : Bool)
  | kick (t : ℕ)
  | reset (t : ℕ)
  /-- `CheckForKicked` of the reconnect handler. -/
  | checkForKicked
  | localConnect (port : ℕ)
  deriving DecidableEq, Repr

/-- A host request, which always returns. -/
abbrev HostM := Prog HostRequestState HostRequestEvent Empty

section Texts

variable (env : HostRequestEnv)

/-- The transport at an address. -/
def HostRequestEnv.transport (h : Host) (t : ℕ) : ListedTransport :=
  { h.transports t with address := t, id := env.ids t, devpath := env.devpaths t }

/-- `transport_list`. -/
def HostRequestEnv.transportList (h : Host) : List ListedTransport :=
  h.transportList.map (env.transport h)

/-- `to_string`. -/
def stateText : ConnectionState → Bytes
  | .offline => lit "offline"
  | .bootloader => lit "bootloader"
  | .device => lit "device"
  | .host => lit "host"
  | .recovery => lit "recovery"
  | .rescue => lit "rescue"
  | .noPerm => env.noPermissionsShortHelp
  | .sideload => lit "sideload"
  | .unauthorized => lit "unauthorized"
  | .authorizing => lit "authorizing"
  | .connecting => lit "connecting"
  | .detached => lit "unknown"

/-- `sanitize`. -/
def sanitize (alphanumeric : Bool) (s : Bytes) : Bytes :=
  s.map fun c => if (if alphanumeric then !isAlnum c else c = 10) then 95 else c

/-- `append_transport_info`. -/
def transportInfo (key value : Bytes) (alphanumeric : Bool) : Bytes :=
  if value = [] then [] else lit " " ++ key ++ sanitize alphanumeric value

/-- `append_transport`. -/
def transportLine (longListing : Bool) (t : ListedTransport) : Bytes :=
  let serial := if t.serial = [] then lit "(no serial number)" else t.serial
  (if !longListing then serial ++ lit "\t" ++ stateText env t.connectionState
  else
    (cString serial).rightpad 22 32 ++ lit " " ++ cString (stateText env t.connectionState) ++
      transportInfo [] t.devpath false ++ transportInfo (lit "product:") t.product false ++
      transportInfo (lit "model:") t.model true ++ transportInfo (lit "device:") t.device false ++
      lit " transport_id:" ++ decimal t.id.toNat) ++ lit "\n"

/-- The place of a type in the declaration of `TransportType`. -/
def TransportType.rank : TransportType → ℕ
  | .usb => 0
  | .local => 1
  | .any => 2
  | .host => 3

/-- The order of `list_transports`. -/
def ListedTransport.before (x y : ListedTransport) : Bool :=
  if x.type ≠ y.type then x.type.rank < y.type.rank else x.serial < y.serial

/-- `list_transports`, as text. -/
def listTransports (list : List ListedTransport) (longListing : Bool) : Bytes :=
  (list.mergeSort fun x y => !y.before x).flatMap (transportLine env longListing)

end Texts

namespace HostRequest

section Replies

/-- `SendOkay`. -/
def sendOkay : HostM Unit := Prog.emit (.reply .okay)

/-- `SendOkay` with a string. -/
def sendOkayString (s : Bytes) : HostM Unit := do
  sendOkay
  Prog.emit (.reply (.protocolString s))

/-- `SendFail`. -/
def sendFail (message : Bytes) : HostM Unit := Prog.emit (.reply (.fail message))

/-- The replies of `handle_forward_request`. -/
def sendReplies : List Reply → HostM Unit
  | [] => pure ()
  | r :: rs => do
    Prog.emit (.reply r)
    sendReplies rs

end Replies

section Request

variable (env : HostRequestEnv)

/-! ## Transports -/

/-- A call of `acquire_one_transport`. -/
def acquire (sel : TransportSelection) (acceptAnyState : Bool) : HostM Acquired := do
  Prog.emit (.acquires sel acceptAnyState)
  let s ← Prog.get
  return acquireOneTransport env.toAcquireEnv sel (env.transportList s.host) acceptAnyState

/-- The transport of the socket, or else one that is acquired, or the error. -/
def requestTransport (sel : TransportSelection) (acceptAnyState : Bool) :
    HostM (Except Bytes ListedTransport) := do
  let s ← Prog.get
  match s.socketTransport with
  | some t => return .ok (env.transport s.host t)
  | none =>
    let a ← acquire env sel acceptAnyState
    match a.transport with
    | some t => return .ok t
    | none => return .error a.error

/-- Sets the flag of a transport that is kicked or reset. -/
def setKicked (t : ℕ) : HostM Unit :=
  Prog.modify fun s =>
    { s with host := s.host.modifyTransport t fun x => { x with kicked := true } }

/-- `kick_transport`. -/
def kickTransport (t : ℕ) (reset : Bool) : HostM Unit := do
  let s ← Prog.get
  if t ∈ s.host.transportList then
    Prog.emit (if reset then .reset t else .kick t)
    setKicked t
  Prog.emit .checkForKicked

/-- `Kick` or `Reset` of some of the transports. -/
def kickAll (reset : Bool) : List ℕ → HostM Unit
  | [] => pure ()
  | t :: ts => do
    Prog.emit (if reset then .reset t else .kick t)
    setKicked t
    kickAll reset ts

/-- `find_transport`. -/
def findTransport (serial : Bytes) : HostM (Option ℕ) := do
  let s ← Prog.get
  return s.host.transportList.find? fun t => cString serial = cString (s.host.transports t).serial

/-- The selection of a service that selects a transport, and whether its reply is without the id;
`none` where it gives an id that cannot be parsed. -/
def transportSelection (given : TransportSelection) (service : Bytes) :
    Option (TransportSelection × Bool) :=
  let sel := { given with type := .any }
  match consumePrefix service (lit "tport:") with
  | some service =>
    match consumePrefix service (lit "serial:") with
    | some serial => some ({ sel with serial := some (cString serial) }, false)
    | none =>
      if service = lit "usb" then some ({ sel with type := .usb }, false)
      else if service = lit "local" then some ({ sel with type := .local }, false)
      else some (sel, false)
  | none =>
    match consumePrefix service (lit "transport-id:") with
    | some id =>
      (env.parseUint (2 ^ 64 - 1) id).map fun n => ({ sel with id := .ofNat n }, true)
    | none =>
      if service = lit "transport-usb" then some ({ sel with type := .usb }, true)
      else if service = lit "transport-local" then some ({ sel with type := .local }, true)
      else if service = lit "transport-any" then some (sel, true)
      else
        match consumePrefix service (lit "transport:") with
        | some serial => some ({ sel with serial := some (cString serial) }, true)
        | none => some (sel, true)

/-- The service selects a transport. -/
def selectsTransport (service : Bytes) : Bool :=
  (lit "transport").isPrefixOf service || (lit "tport:").isPrefixOf service

/-- Transport selection. -/
def switchTransport (given : TransportSelection) (service : Bytes) : HostM HostRequestResult := do
  match transportSelection env given service with
  | none =>
    sendFail (lit "invalid transport id")
    return .handled
  | some (sel, legacy) =>
    let a ← acquire env sel false
    match a.transport with
    | some t =>
      Prog.modify fun s => { s with socketTransport := some t.address }
      sendOkay
      if !legacy then Prog.emit (.transportId t.id)
      return .switchedTransport
    | none =>
      sendFail a.error
      return .handled

/-! ## Services -/

/-- `features`, `get-serialno`, `get-devpath` and `get-state`: an answer of the transport. -/
def answerDevice (given : TransportSelection) (answer : ListedTransport → Bytes) :
    HostM HostRequestResult := do
  match ← requestTransport env given false with
  | .ok t => sendOkayString (answer t)
  | .error e => sendFail e
  return .handled

/-- `reconnect-offline`. -/
def reconnectOffline : HostM HostRequestResult := do
  let s ← Prog.get
  let offline := s.host.transportList.filter fun t =>
    !(s.host.transports t).connectionState.isOnline
  kickAll true offline
  let response := offline.flatMap fun t =>
    lit "reconnecting " ++ env.serialName (s.host.transports t).serial ++ lit "\n"
  sendOkayString response.dropLast
  return .handled

/-- `kick_all_tcp_devices`. -/
def kickAllTcpDevices : HostM Unit := do
  let s ← Prog.get
  kickAll false (s.host.transportList.filter fun t => (s.host.transports t).isTcpDevice)
  Prog.emit .checkForKicked

/-- The end of `disconnect:`, once the serial is known. -/
def disconnectSerial (address serial : Bytes) : HostM HostRequestResult := do
  match ← findTransport serial with
  | none => sendFail (lit "no such device '" ++ cString serial ++ lit "'")
  | some t =>
    kickTransport t false
    sendOkayString (lit "disconnected " ++ cString address)
  return .handled

/-- `disconnect:`. -/
def disconnect (address : Bytes) : HostM HostRequestResult := do
  if address = [] then
    kickAllTcpDevices
    sendOkayString (lit "disconnected everything")
    return .handled
  else
    match ← findTransport address with
    | some t =>
      kickTransport t false
      sendOkayString (lit "disconnected " ++ cString address)
      return .handled
    | none =>
      if (lit "vsock:").isPrefixOf address || (lit "localfilesystem:").isPrefixOf address then
        disconnectSerial address address
      else
        match env.canonicalAddress address with
        | .error e =>
          sendFail (lit "couldn't parse '" ++ cString address ++ lit "': " ++ cString e)
          return .handled
        | .ok serial => disconnectSerial address serial

/-- `reconnect`. The response is the error where there is no transport. -/
def reconnect (given : TransportSelection) : HostM HostRequestResult := do
  match ← requestTransport env given true with
  | .ok t =>
    kickTransport t.address true
    sendOkayString (lit "reconnecting " ++ env.serialName t.serial ++ lit " [" ++
      stateText env t.connectionState ++ lit "]\n")
  | .error response => sendOkayString response
  return .handled

/-- `Attach`: the error, if it fails. -/
def attachTransport (t : ListedTransport) : HostM (Except Bytes Unit) := do
  if !env.libusbEnabled then
    return .error (lit "attach/detach only implemented for libusb backend")
  else if t.connectionState ≠ .detached then
    return .error (lit "transport " ++ cString t.serial ++ lit " is not detached")
  else
    Prog.modify fun s => { s with host := s.host.emit (.resetKeys t.address) }
    match env.attach t.address with
    | .error e => return .error e
    | .ok () =>
      Prog.modify fun s => { s with host := s.host.sendConnect t.address }
      return .ok ()

/-- `Detach`: the error, if it fails. -/
def detachTransport (t : ListedTransport) : HostM (Except Bytes Unit) := do
  if !env.libusbEnabled then
    return .error (lit "attach/detach only implemented for libusb backend")
  else if t.connectionState = .detached then
    return .error (lit "transport " ++ cString t.serial ++ lit " is already detached")
  else
    Prog.modify fun s => { s with host := s.host.handleOffline t.address }
    match env.detach t.address with
    | .error e => return .error e
    | .ok () =>
      Prog.modify fun s => { s with host := s.host.setConnectionState t.address .detached }
      return .ok ()

/-- `attach`. -/
def attach (given : TransportSelection) : HostM HostRequestResult := do
  match ← requestTransport env given true with
  | .error e => sendFail e
  | .ok t =>
    match ← attachTransport env t with
    | .ok () => sendOkayString (cString (env.serialName t.serial) ++ lit " attached")
    | .error e => sendFail e
  return .handled

/-- `detach`. The socket has no transport from then on, as all sockets of the transport are
closed. -/
def detach (given : TransportSelection) : HostM HostRequestResult := do
  match ← requestTransport env given true with
  | .error e => sendFail e
  | .ok t =>
    Prog.modify fun s => { s with socketTransport := none }
    match ← detachTransport env t with
    | .ok () => sendOkayString (cString (env.serialName t.serial) ++ lit " detached")
    | .error e => sendFail e
  return .handled

/-- `emulator:`. -/
def emulator (port : Bytes) : HostM HostRequestResult := do
  match env.parseUint (2 ^ 32 - 1) port with
  | none => pure ()
  | some port => Prog.emit (.localConnect port)
  return .handled

/-- The service is one for which `handle_forward_request` acquires a transport. -/
def forwards (service : Bytes) : Bool :=
  (lit "forward:").isPrefixOf (cString service) || (lit "killforward:").isPrefixOf (cString service)

/-- What `transport_acquirer` returns, where it is called, and the error that its caller has. The
lambda has an error of its own, so that of the caller stays empty. -/
def transportAcquirer (given : TransportSelection) (service : Bytes) : HostM (Except Bytes ℕ) := do
  if forwards service then
    match ← requestTransport env given false with
    | .ok t => return .ok t.address
    | .error _ => return .error []
  else return .error []

/-- The end of `handle_host_request`. -/
def fallback (given : TransportSelection) (service : Bytes) : HostM HostRequestResult := do
  let transport ← transportAcquirer env given service
  let s ← Prog.get
  match s.host.handleForwardRequest ⟨service, transport, env.listening⟩ with
  | some (replies, host) =>
    Prog.modify fun s => { s with host := host }
    sendReplies replies
    return .handled
  | none => return .unhandled

/-- `kFeatureLibusb` and `kFeaturePushSync`, with the features of this build. -/
def hostFeatures (delayedAckEnabled : Bool) : FeatureSet :=
  supportedFeatures delayedAckEnabled ++ (if env.libusbEnabled then [lit "libusb"] else []) ++
    [lit "push_sync"]

/-- The digits of `"%04x"`. -/
def hex4 (n : ℕ) : Bytes := ((Nat.toDigits 16 n).map fun c => c.toNat.toUInt8).leftpad 4 48

/-- `handle_host_request`, past `kill`. -/
def handleService (given : TransportSelection) (service : Bytes) : HostM HostRequestResult := do
  if selectsTransport service then switchTransport env given service
  else if service = lit "server-status" then
    sendOkayString env.serverStatus
    return .handled
  else if service = lit "devices" ∨ service = lit "devices-l" then
    let s ← Prog.get
    sendOkayString (listTransports env (env.transportList s.host) (service = lit "devices-l"))
    return .handled
  else if service = lit "reconnect-offline" then reconnectOffline env
  else if service = lit "features" then answerDevice env given fun t => join 44 t.features
  else if service = lit "host-features" then
    let s ← Prog.get
    sendOkayString (join 44 (hostFeatures env s.host.delayedAckEnabled))
    return .handled
  else if (lit "disconnect:").isPrefixOf service then disconnect env (service.drop 11)
  else if service = lit "version" then
    sendOkayString (hex4 env.serverVersion)
    return .handled
  else if service = lit "get-serialno" then
    answerDevice env given fun t => if t.serial ≠ [] then t.serial else lit "unknown"
  else if service = lit "get-devpath" then
    answerDevice env given fun t => if t.devpath ≠ [] then t.devpath else lit "unknown"
  else if service = lit "get-state" then
    answerDevice env given fun t => stateText env t.connectionState
  else if (lit "emulator:").isPrefixOf service then emulator env (service.drop 9)
  else if service = lit "reconnect" then reconnect env given
  else if service = lit "attach" then attach env given
  else if service = lit "detach" then detach env given
  else fallback env given service

/-- `handle_host_request`. A `kill` that is rejected goes on like any other service. -/
def handleHostRequest (given : TransportSelection) (service : Bytes) : HostM HostRequestResult := do
  if service = lit "kill" then
    if env.rejectKillServer then
      sendFail (lit "kill-server rejected by remote server")
      handleService env given service
    else
      sendOkay
      return .unhandled
  else handleService env given service

end Request

end HostRequest

end AdbMobile
