import AdbMobile.Server.Listeners

/-!
# Handling packets

`handle_packet` of `adb.cpp` runs on the looper for every packet that a device sends. Everything in
the packet is chosen by the device. What the code outside the repository does meanwhile is a
`PacketEnv`. In this build `LOG(FATAL)` logs and returns, so it is an effect like the others.
-/

namespace AdbMobile

open ByteString

/-- What `send_auth_response` does: it answers with a signature, or it has no key left, sends the
public key, and waits for the user. -/
inductive AuthReply
  | signature | publicKey
  deriving DecidableEq, Repr

/-- What the code outside the repository does while a packet is handled. -/
structure PacketEnv where
  /-- `create_local_service_socket` returns a socket. -/
  serviceOpens : Bool
  authReply : AuthReply
  /-- The memory that follows the payload. -/
  memory : Bytes

namespace Host

/-- `handle_online`. -/
def handleOnline (h : Host) (t : ℕ) : Host :=
  h.modifyTransport t fun x => { x with online := true }.setConnectionEstablished true

/-- `handle_offline`. -/
def handleOffline (h : Host) (t : ℕ) : Host :=
  if (h.transports t).connectionState = .offline then h
  else
    let h := h.setConnectionState t .offline
    let h := h.modifyTransport t fun x => { x with online := false }
    (h.closeAllSockets t).runDisconnects t

/-- `parse_banner`. -/
def parseBanner (h : Host) (t : ℕ) (banner : Bytes) : Host :=
  (h.modifyTransport t (·.parseBannerProps h.delayedAckEnabled banner)).setConnectionState t
    (ATransport.parseBannerState banner)

/-- `handle_new_connection`. -/
def handleNewConnection (h : Host) (t : ℕ) (p : APacket) : Host :=
  let h := h.handleOffline t
  let h := h.modifyTransport t (·.updateVersion (intOfWord p.msg.arg0) p.msg.arg1.toNat)
  (h.parseBanner t p.payload).handleOnline t

/-- The `A_STLS` branch of `handle_packet`. -/
def handleStls (h : Host) (t : ℕ) : Host :=
  let h := h.modifyTransport t fun x => { x with useTls := true }
  (h.sendTlsRequest t).emit (.tlsHandshake t)

/-- The `A_AUTH` branch of `handle_packet`. -/
def handleAuth (env : PacketEnv) (h : Host) (t : ℕ) (p : APacket) : Host :=
  if (h.transports t).useTls then h
  else if p.msg.arg0 = adbAuthToken then
    let h := if (h.transports t).connectionState = .authorizing then h
      else h.setConnectionState t .authorizing
    let h := h.emit (.authResponse t p.payload)
    match env.authReply with
    | .signature => h
    | .publicKey =>
      (h.setConnectionState t .unauthorized).modifyTransport t (·.setConnectionEstablished true)
  else (h.setConnectionState t .offline).handleOffline t

/-- The address that the `A_OPEN` branch opens: the payload without its trailing NULs. -/
def openAddress (p : APacket) : Bytes := stripTrailingNulls p.payload

/-- The `A_OPEN` branch once its service has a socket. -/
def connectService (h : Host) (t : ℕ) (p : APacket) : Host :=
  let delayedAck := (h.transports t).delayedAck
  let (s, h) := h.newLocalSocket (some t)
  let (s, h) := h.setPeer s p.msg.arg0.toNat t
  let s := { s with
    availableSendBytes := if delayedAck then some p.msg.arg1.toNat else s.availableSendBytes }
  let h := (h.putSocket s).sendReady s.id p.msg.arg0.toNat t
    (if delayedAck then initialDelayedAckBytes else 0)
  h.emit (.ready s)

/-- The check of the `A_OPEN` branch. It reads the address as a C string, from the payload on into
the memory behind it. -/
def checkReverse (env : PacketEnv) (h : Host) (t : ℕ) (p : APacket) : Host :=
  if (h.transports t).isReverseConfigured (cString (p.payload ++ env.memory)) then h
  else h.emit .logFatal

/-- The `A_OPEN` branch of `handle_packet`. -/
def handleOpen (env : PacketEnv) (h : Host) (t : ℕ) (p : APacket) : Host :=
  if !(h.transports t).online ∨ p.msg.arg0 = 0 then h
  else if (h.transports t).delayedAck ≠ decide (p.msg.arg1 ≠ 0) then h.sendClose 0 p.msg.arg0 t
  else
    let h := (checkReverse env h t p).emit (.openService (openAddress p) t)
    if env.serviceOpens then h.connectService t p else h.sendClose 0 p.msg.arg0 t

/-- The bytes that an `A_OKAY` acknowledges, and `none` where its payload has the wrong size. -/
def ackedBytes (p : APacket) : Option (Option ℤ) :=
  if p.payload.length = 4 then some (some (int32OfBytes p.payload))
  else if p.payload.length ≠ 0 then none
  else some none

/-- The `A_OKAY` branch of `handle_packet`; `none` is its early return. -/
def handleOkay (h : Host) (t : ℕ) (p : APacket) : Option Host :=
  if (h.transports t).online ∧ p.msg.arg0 ≠ 0 ∧ p.msg.arg1 ≠ 0 then
    match h.findLocalSocket p.msg.arg1 0 with
    | some s =>
      match ackedBytes p with
      | none => none
      | some acked =>
        match s.peer with
        | none =>
          let (s, h) := h.setPeer s p.msg.arg0.toNat t
          some ((h.emit (.ack s acked)).emit (.ready s))
        | some peer => if peer.id = p.msg.arg0.toNat then some (h.emit (.ack s acked)) else some h
    | none => some (h.sendClose p.msg.arg1 p.msg.arg0 t)
  else some h

/-- The `A_CLSE` branch of `handle_packet`. -/
def handleClse (h : Host) (t : ℕ) (p : APacket) : Host :=
  if (h.transports t).online ∧ p.msg.arg1 ≠ 0 then
    match h.findLocalSocket p.msg.arg1 p.msg.arg0 with
    | some s =>
      if p.msg.arg0 = 0 ∧ ∃ peer ∈ s.peer, peer.transport ≠ some t then h else h.closeSocket s
    | none => h
  else h

/-- The `A_WRTE` branch of `handle_packet`. -/
def handleWrte (h : Host) (t : ℕ) (p : APacket) : Host :=
  if (h.transports t).online ∧ p.msg.arg0 ≠ 0 ∧ p.msg.arg1 ≠ 0 then
    match h.findLocalSocket p.msg.arg1 p.msg.arg0 with
    | some s => h.emit (.enqueue s p.payload)
    | none => h
  else h

/-- `handle_packet`. The packet is freed at the end, which the early return skips. -/
def handlePacket (env : PacketEnv) (h : Host) (t : ℕ) (p : APacket) : Host :=
  match Command.ofWord p.msg.command with
  | some .cnxn => (h.handleNewConnection t p).emit .putApacket
  | some .stls => (h.handleStls t).emit .putApacket
  | some .auth => (handleAuth env h t p).emit .putApacket
  | some .open => (handleOpen env h t p).emit .putApacket
  | some .okay =>
    match h.handleOkay t p with
    | some h => h.emit .putApacket
    | none => h
  | some .clse => (h.handleClse t p).emit .putApacket
  | some .wrte => (h.handleWrte t p).emit .putApacket
  | some .sync | none => h.emit .putApacket

/-- `transport_destroy`. -/
def transportDestroy (h : Host) (t : ℕ) : Host :=
  if (h.transports t).isTcpDevice ∧ !(h.transports t).kicked then
    ((h.emit (.stopConnection t)).emit (.resetKeys t)).emit (.trackTransport t)
  else (h.emit (.stopConnection t)).emit (.removeTransport t)

/-- What `HandleError` queues on the looper. -/
def handleError (h : Host) (t : ℕ) : Host := (h.handleOffline t).transportDestroy t

/-- The start of `fdevent_register_transport`, where `startDetached` is
`usb_devices_start_detached()`. -/
def startTransport (h : Host) (t : ℕ) (startDetached : Bool) : Host :=
  if (h.transports t).connectionState = .noPerm then h
  else if (h.transports t).type = .usb ∧ startDetached then h.setConnectionState t .detached
  else (h.emit (.startConnection t)).sendConnect t

/-- A pending transport moves to `transport_list`. -/
def leavePending (h : Host) (t : ℕ) : Host :=
  if t ∈ h.pendingList then
    { h with
      pendingList := h.pendingList.filter (· ≠ t)
      transportList := t :: h.transportList }
  else h

/-- `fdevent_register_transport`. -/
def registerTransport (h : Host) (t : ℕ) (startDetached : Bool) : Host :=
  ((h.startTransport t startDetached).leavePending t).emit .updateTransports

/-- `fdevent_unregister_transport`: deletes the transport. -/
def unregisterTransport (h : Host) (t : ℕ) : Host :=
  { h with
    transportList := h.transportList.filter (· ≠ t)
    live := h.live.filter (· ≠ t) }.emit .updateTransports

end Host

end AdbMobile
