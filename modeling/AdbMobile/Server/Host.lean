import Mathlib.Logic.Function.Basic
import AdbMobile.Transport
import AdbMobile.Server.Fdevent

/-!
# The state of the server's looper

The looper thread owns the transports, the local sockets, and the listeners. A function of the
looper is a function from `Host` to `Host`. What it does that is not a change of these tables (a
packet sent, a method called on a socket) it appends to the trace as an `Effect`, and an effect on a
socket keeps the socket as it was at the call.

`sockets.cpp` is outside the repository. Its `create_local_service_socket` may fail, as the caller
of a function says, and its sockets' methods are the effects.
-/

namespace AdbMobile

open ByteString

/-- The peer of a local socket: a remote socket has a transport, and another local one has none. -/
structure Peer where
  id : ℕ
  transport : Option ℕ
  deriving DecidableEq, Repr

/-- `asocket`, for the sockets of `local_socket_list`. -/
structure ASocket where
  id : ℕ
  transport : Option ℕ
  peer : Option Peer
  /-- `available_send_bytes`. -/
  availableSendBytes : Option ℕ
  deriving DecidableEq, Repr

/-- The transports that a socket was opened for or is peered over. -/
def ASocket.transports (s : ASocket) : List ℕ :=
  s.transport.toList ++ (s.peer.bind Peer.transport).toList

/-- A socket is attached to `t`, by itself or by its peer. -/
abbrev ASocket.AttachedTo (s : ASocket) (t : ℕ) : Prop := t ∈ s.transports

/-- A socket belongs to a transport other than `t`. -/
abbrev ASocket.BelongsToOther (s : ASocket) (t : ℕ) : Prop := ∃ u ∈ s.transports, u ≠ t

/-- `alistener`, once it is in `listener_list`. -/
structure AListener where
  id : ℕ
  fde : FdeRef
  fd : ℕ
  localName : Bytes
  connectTo : Bytes
  transport : Option ℕ
  deriving DecidableEq, Repr

/-- `kSmartSocketConnectTo`. -/
def kSmartSocketConnectTo : Bytes := lit "*smartsocket*"

/-- `isSmartSocket`. -/
def AListener.isSmartSocket (l : AListener) : Bool := l.connectTo = kSmartSocketConnectTo

/-- What a function of the looper does outside its tables. -/
inductive Effect
  | sendPacket (t : ℕ) (p : APacket)
  /-- `create_local_service_socket`. -/
  | openService (address : Bytes) (t : ℕ)
  /-- The peer of a local socket becomes the remote socket `remote` over `t`. -/
  | setPeer (s : ASocket) (remote : ℕ) (t : ℕ)
  | ready (s : ASocket)
  | ack (s : ASocket) (ackedBytes : Option ℤ)
  | enqueue (s : ASocket) (payload : Bytes)
  | close (s : ASocket)
  /-- `send_auth_response` with the token of the packet. -/
  | authResponse (t : ℕ) (token : Bytes)
  | tlsHandshake (t : ℕ)
  | updateTransports
  | logFatal
  | putApacket
  | startConnection (t : ℕ)
  | stopConnection (t : ℕ)
  | resetKeys (t : ℕ)
  /-- `ReconnectHandler::TrackTransport`. -/
  | trackTransport (t : ℕ)
  /-- `remove_transport`, which queues `fdevent_unregister_transport`. -/
  | removeTransport (t : ℕ)
  deriving DecidableEq, Repr

/-- The socket whose peer an effect sets, or that it acknowledges, writes to, or closes. -/
def Effect.socket : Effect → Option ASocket
  | .setPeer s _ _ | .ack s _ | .enqueue s _ | .close s => some s
  | _ => none

/-- The tables of the looper. -/
structure Host where
  /-- The `atransport` at each address. -/
  transports : ℕ → ATransport
  /-- The addresses of the transports that have not been deleted. -/
  live : List ℕ
  /-- `transport_list`. -/
  transportList : List ℕ
  /-- `pending_list`. -/
  pendingList : List ℕ
  /-- `local_socket_list`. -/
  localSockets : List ASocket
  /-- The next socket id. -/
  nextSocket : ℕ
  /-- `listener_list`. -/
  listenerList : List AListener
  /-- A listener that is not allocated yet. -/
  nextListener : ℕ
  /-- The ambient context. -/
  ambient : FdContext
  /-- `delayed_ack_enabled()`. -/
  delayedAckEnabled : Bool
  /-- What has been done, in order. -/
  trace : List Effect

namespace Host

/-- The tables when the server starts. -/
def initial (delayedAckEnabled : Bool) : Host where
  transports := fun _ => .new .local [] .offline true
  live := []
  transportList := []
  pendingList := []
  localSockets := []
  nextSocket := 1
  listenerList := []
  nextListener := 0
  ambient := .create 0
  delayedAckEnabled := delayedAckEnabled
  trace := []

/-- Appends an effect. -/
def emit (h : Host) (e : Effect) : Host := { h with trace := h.trace ++ [e] }

/-- Changes one transport. -/
def modifyTransport (h : Host) (t : ℕ) (f : ATransport → ATransport) : Host :=
  { h with transports := Function.update h.transports t (f (h.transports t)) }

/-- `SetConnectionState`. -/
def setConnectionState (h : Host) (t : ℕ) (state : ConnectionState) : Host :=
  (h.modifyTransport t fun x => { x with connectionState := state }).emit .updateTransports

/-- `send_packet`: the connection takes every packet, so the transport is not kicked. -/
def sendPacket (h : Host) (t : ℕ) (p : APacket) : Host :=
  h.emit (.sendPacket t ((h.transports t).finishPacket p))

/-- `send_ready`. -/
def sendReady (h : Host) (localId remote : ℕ) (t : ℕ) (ackBytes : UInt32) : Host :=
  let p := { getApacket with
    msg.command := Command.okay.word, msg.arg0 := .ofNat localId, msg.arg1 := .ofNat remote }
  h.sendPacket t <|
    if (h.transports t).delayedAck then
      { p with msg.dataLength := 4, payload := wordBytes ackBytes }
    else p

/-- `send_close`. -/
def sendClose (h : Host) (localId remote : UInt32) (t : ℕ) : Host :=
  h.sendPacket t { getApacket with
    msg.command := Command.clse.word, msg.arg0 := localId, msg.arg1 := remote }

/-- `send_tls_request`. -/
def sendTlsRequest (h : Host) (t : ℕ) : Host :=
  h.sendPacket t { getApacket with msg.command := Command.stls.word, msg.arg0 := aStlsVersion }

/-- `get_connection_string`. -/
def connectionString (h : Host) : Bytes :=
  lit "host::features=" ++ join 44 (supportedFeatures h.delayedAckEnabled)

/-- The check of the banner's length in `send_connect`. -/
def checkConnectionString (h : Host) : Host :=
  if maxPayloadV1 < h.connectionString.length then h.emit .logFatal else h

/-- `send_connect`. -/
def sendConnect (h : Host) (t : ℕ) : Host :=
  h.checkConnectionString.sendPacket t
    { msg := { getApacket.msg with
        command := Command.cnxn.word
        arg0 := .ofNat aVersion.toNat
        arg1 := .ofNat (h.transports t).maxPayload
        dataLength := .ofNat h.connectionString.length }
      payload := h.connectionString }

/-- `find_local_socket`: any peer where `peer` is 0. -/
def findLocalSocket (h : Host) (localId peer : UInt32) : Option ASocket :=
  match h.localSockets.find? (·.id = localId.toNat) with
  | some s =>
    if peer = 0 ∨ ∃ p ∈ s.peer, p.id = peer.toNat then some s else none
  | none => none

/-- A new local socket of `t`, and the tables with it. -/
def newLocalSocket (h : Host) (t : Option ℕ) : ASocket × Host :=
  let s : ASocket := ⟨h.nextSocket, t, none, none⟩
  (s, { h with localSockets := h.localSockets ++ [s], nextSocket := h.nextSocket + 1 })

/-- Replaces the socket with the id of `s`. -/
def putSocket (h : Host) (s : ASocket) : Host :=
  { h with localSockets := h.localSockets.map fun a => if a.id = s.id then s else a }

/-- `s->peer = create_remote_socket(remote, t)`, and the peer's peer: `s` after it. -/
def setPeer (h : Host) (s : ASocket) (remote t : ℕ) : ASocket × Host :=
  let s' := { s with peer := some ⟨remote, some t⟩ }
  (s', (h.emit (.setPeer s remote t)).putSocket s')

/-- `s->close(s)`: the socket leaves the list. -/
def closeSocket (h : Host) (s : ASocket) : Host :=
  { h.emit (.close s) with localSockets := h.localSockets.filter (·.id ≠ s.id) }

/-- `close_all_sockets`. -/
def closeAllSockets (h : Host) (t : ℕ) : Host :=
  (h.localSockets.filter (·.AttachedTo t)).foldl closeSocket h

end Host

end AdbMobile
