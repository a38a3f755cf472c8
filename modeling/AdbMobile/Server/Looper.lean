import AdbMobile.Lib.Run
import AdbMobile.Server.HandlePacket

/-!
# Runs of the looper

One step of the looper handles one event: a packet of a live transport, a request of a client about
listeners, a connection on a listener, an error of a connection, a callback that another thread
queued, or a relaunch of the server. The events of code outside the repository happen only where
that code lets them: a client's socket is given a transport, and a listener is installed over one,
when `acquire_one_transport` returns it, and a listener also when the requesting socket is attached
to the transport already.

A step starts with an empty trace, so the trace of the state it reaches is what it did.
-/

namespace AdbMobile

open ByteString

/-- An event that the looper handles. -/
inductive LooperEvent
  | packet (t : ℕ) (p : APacket) (env : PacketEnv)
  /-- A client's `reverse:` service for the transport. -/
  | updateReverseConfig (t : ℕ) (service : Bytes)
  | installListener (r : InstallRequest)
  | removeListener (localName : Bytes)
  | removeAllListeners
  | enableServerSockets
  /-- A connection on the listener. -/
  | acceptListener (l : AListener)
  /-- A client's socket is connected to the transport that it asked for. -/
  | connectClient (s : ASocket) (t : ℕ)
  | closeSocket (s : ASocket)
  /-- The connection of the transport has terminated. -/
  | connectionError (t : ℕ)
  | kick (t : ℕ)
  /-- A new transport at an address that nothing points to. -/
  | newTransport (t : ℕ) (type : TransportType) (serial : Bytes) (state : ConnectionState)
      (isTcpDevice : Bool)
  | registerTransport (t : ℕ) (startDetached : Bool)
  | unregisterTransport (t : ℕ)
  | relaunch

namespace Host

/-- No socket is attached to `t`. -/
abbrev NoneAttached (h : Host) (t : ℕ) : Prop := ∀ s ∈ h.localSockets, ¬ s.AttachedTo t

/-- The transport is one that `acquire_one_transport` returns. -/
abbrev Acquirable (h : Host) (t : ℕ) : Prop :=
  t ∈ h.transportList ∧ (h.transports t).connectionState.isAcquirable

/-- A listener may be installed over what `transport_acquirer` returns, and the server's own
listener over no transport. -/
def InstallAllowed (h : Host) (r : InstallRequest) : Prop :=
  match r.transport with
  | some t => h.Acquirable t ∨ (t ∈ h.live ∧ ¬ h.NoneAttached t)
  | none => r.connectTo = kSmartSocketConnectTo

instance (h : Host) (r : InstallRequest) : Decidable (h.InstallAllowed r) := by
  unfold InstallAllowed
  split <;> infer_instance

/-- What `socket_spec_listen` opens is a descriptor that was not open. -/
def FreshDescriptor (h : Host) (r : InstallRequest) : Prop :=
  ∀ listening ∈ r.listening.toOption, ∀ e ∈ h.ambient.installed, e.fd ≠ listening.fd

instance (h : Host) (r : InstallRequest) : Decidable (h.FreshDescriptor r) := by
  unfold FreshDescriptor
  infer_instance

/-- `launch_server` from `TerminateLoop` to `fdevent_reset`, as far as it concerns these tables:
`close_smartsockets`, `kick_all_transports`, `clear_transport_list`, and the new context. -/
def relaunch (h : Host) : Host :=
  let h := h.closeSmartsockets
  { h with
    transports := fun t => if t ∈ h.transportList then { h.transports t with kicked := true }
      else h.transports t
    transportList := []
    pendingList := []
    ambient := h.ambient.reset }

/-- The event can happen. -/
def Enabled (h : Host) : LooperEvent → Prop
  | .packet t _ _ | .updateReverseConfig t _ | .connectionError t | .kick t
  | .registerTransport t _ | .unregisterTransport t => t ∈ h.live
  | .installListener r => h.InstallAllowed r ∧ h.FreshDescriptor r
  | .acceptListener l => l ∈ h.listenerList ∧ h.ambient.Owns l.fde l.fd
  | .connectClient s t => s ∈ h.localSockets ∧ s.transports = [] ∧ h.Acquirable t
  | .closeSocket s => s ∈ h.localSockets
  | .newTransport t _ _ _ _ =>
    t ∉ h.live ∧ h.NoneAttached t ∧ ∀ l ∈ h.listenerList, l.transport ≠ some t
  | .removeListener _ | .removeAllListeners | .enableServerSockets | .relaunch => True

instance (h : Host) (e : LooperEvent) : Decidable (h.Enabled e) := by
  cases e <;> unfold Enabled <;> infer_instance

/-- What the looper does with an event. -/
def handle (h : Host) : LooperEvent → Host
  | .packet t p env => handlePacket env h t p
  | .updateReverseConfig t service => h.modifyTransport t (·.updateReverseConfig service)
  | .installListener r => (h.installListener r).2
  | .removeListener localName => (h.removeListener localName).2
  | .removeAllListeners => h.removeAllListeners
  | .enableServerSockets => h.enableServerSockets
  | .acceptListener l => (h.newLocalSocket l.transport).2
  | .connectClient s t => h.putSocket { s with transport := some t }
  | .closeSocket s => h.closeSocket s
  | .connectionError t => h.handleError t
  | .kick t => h.modifyTransport t fun x => { x with kicked := true }
  | .newTransport t type serial state isTcpDevice =>
    { h.modifyTransport t fun _ => .new type serial state isTcpDevice with
      live := t :: h.live
      pendingList := t :: h.pendingList }
  | .registerTransport t startDetached => h.registerTransport t startDetached
  | .unregisterTransport t => h.unregisterTransport t
  | .relaunch => h.relaunch

/-- A host with an empty trace, where a step starts. -/
abbrev quiet (h : Host) : Host := { h with trace := [] }

/-- One step of the looper. -/
def step (h : Host) (e : LooperEvent) : Option Host :=
  if h.Enabled e then some (h.quiet.handle e) else none

/-- A step handles an event that can happen. -/
theorem step_eq_some {h h' : Host} {e : LooperEvent} (hs : h.step e = some h') :
    h.Enabled e ∧ h' = h.quiet.handle e := by
  unfold step at hs
  split at hs
  · rename_i hen
    exact ⟨hen, (Option.some.inj hs).symm⟩
  · cases hs

end Host

end AdbMobile
