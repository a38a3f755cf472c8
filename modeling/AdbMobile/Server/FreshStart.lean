import AdbMobile.Server.Frame
import AdbMobile.Server.Keys

/-!
# Starting afresh

A TCP transport outlives its connection: `transport_destroy` queues it, `Reconnect` gives it another
connection, and it is registered again. What an earlier device left in its fields is reset by
`handle_offline`, or by the next CNXN, or not at all. Meanwhile the looper goes on, and a packet
that was queued behind the callback of `HandleError` is still handled, on the transport that waits.

A host then does the same with every sequence of packets as with a new transport in place of the old
exactly when the registration finds the fields of the transport as they are in a new one, its keys
reset and no socket attached to it (`starts_afresh_iff`). Handling a packet does not read the lists
that the transport is in, nor its `connection_established_`, which is for the caller that registered
it: a host without these is what `forget` leaves, and it is enough to know what a host will do
(`forget_handlePacket`).
-/

namespace AdbMobile

open ByteString Host

/-- A transport without `connection_established_`. -/
@[simps]
def ATransport.unestablished (x : ATransport) : ATransport :=
    { x with connectionEstablished := none }

/-- A new transport with the serial of another. -/
def ATransport.renewed (x : ATransport) (useTls : Bool) : ATransport :=
  { ATransport.new x.type x.serial .offline x.isTcpDevice with useTls := useTls }

namespace Host

/-- A host without what the handling of packets of `t` does not read. -/
def forget (h : Host) (t : ℕ) : Host :=
  { h.modifyTransport t ATransport.unestablished with
    live := []
    transportList := []
    pendingList := [] }

variable (h : Host) (t : ℕ) (p : APacket) (env : PacketEnv)

@[simp] theorem forget_transports_same :
    (h.forget t).transports t = (h.transports t).unestablished :=
  modifyTransport_same h t _

@[simp] theorem unestablished_unestablished (x : ATransport) :
    x.unestablished.unestablished = x.unestablished := rfl

@[simp] theorem forget_trace : (h.forget t).trace = h.trace := rfl

@[simp] theorem forget_forget : (h.forget t).forget t = h.forget t := by
  simp [forget, modifyTransport, ATransport.unestablished]

/-! ## What is done to a host without these is done to the host -/

theorem forget_emit (e : Effect) : (h.forget t).emit e = (h.emit e).forget t := rfl

/-- Changing the transport, where the change leaves `connection_established_` alone. -/
theorem forget_modifyTransport {f : ATransport → ATransport}
    (hf : ∀ x, f x.unestablished = (f x).unestablished) :
    (h.forget t).modifyTransport t f = (h.modifyTransport t f).forget t := by
  simp [forget, modifyTransport, hf]

theorem forget_setConnectionState (state : ConnectionState) :
    (h.forget t).setConnectionState t state = (h.setConnectionState t state).forget t := by
  rw [setConnectionState, forget_modifyTransport]
  · rfl
  · exact fun x => rfl

theorem forget_sendPacket : (h.forget t).sendPacket t p = (h.sendPacket t p).forget t := by
  rw [sendPacket, forget_transports_same, forget_emit]
  rfl

theorem forget_sendClose (localId remote : UInt32) :
    (h.forget t).sendClose localId remote t = (h.sendClose localId remote t).forget t :=
  forget_sendPacket h t _

theorem forget_closeAllSockets : (h.forget t).closeAllSockets t = (h.closeAllSockets t).forget t :=
  List.foldl_hom (fun h : Host => h.forget t) fun _ _ => rfl

theorem forget_eraseListener (l : AListener) :
    (h.forget t).eraseListener l = (h.eraseListener l).forget t := by
  have htransports : ((h.forget t).eraseListener l).transports =
      ((h.eraseListener l).forget t).transports := by
    funext u
    by_cases hu : u = t
    · subst hu
      simp only [eraseListener, removeDisconnect, forget_transports_same]
      split <;> rfl
    · simp [eraseListener, removeDisconnect, forget, modifyTransport, hu]
  simp only [eraseListener, removeDisconnect] at htransports ⊢
  rw [htransports]
  rfl

theorem forget_listenerDisconnect (id : ℕ) :
    (h.forget t).listenerDisconnect id = (h.listenerDisconnect id).forget t := by
  have hlist : (h.forget t).listenerList = h.listenerList := rfl
  unfold listenerDisconnect
  rw [hlist]
  cases h.listenerList.find? (·.id = id) with
  | none => rfl
  | some l => exact forget_eraseListener h t _

theorem forget_runDisconnects : (h.forget t).runDisconnects t = (h.runDisconnects t).forget t := by
  unfold runDisconnects
  rw [forget_transports_same, List.foldl_hom (fun h : Host => h.forget t)
    fun h id => forget_listenerDisconnect h t id, forget_modifyTransport]
  · rfl
  · exact fun x => rfl

theorem forget_handleOffline : (h.forget t).handleOffline t = (h.handleOffline t).forget t := by
  unfold handleOffline
  rw [forget_transports_same, ATransport.unestablished_connectionState]
  split
  · rfl
  · dsimp only
    rw [forget_setConnectionState, forget_modifyTransport, forget_closeAllSockets,
      forget_runDisconnects]
    exact fun x => rfl

theorem updateVersion_unestablished (x : ATransport) (version : ℤ) (payload : ℕ) :
    x.unestablished.updateVersion version payload =
      (x.updateVersion version payload).unestablished := rfl

/-- A banner does not concern `connection_established_`. -/
theorem parseBannerProps_unestablished (b : Bool) (x : ATransport) (banner : Bytes) :
    x.unestablished.parseBannerProps b banner = (x.parseBannerProps b banner).unestablished := by
  have hprop : ∀ (x : ATransport) (prop : Bytes), x.unestablished.parseBannerProp b prop =
      (x.parseBannerProp b prop).unestablished := by
    intro x prop
    unfold ATransport.parseBannerProp
    split
    · repeat' split
      all_goals rfl
    · rfl
  have hset : x.unestablished.setFeatures b [] = (x.setFeatures b []).unestablished := rfl
  unfold ATransport.parseBannerProps
  rw [hset]
  split
  · exact List.foldl_hom ATransport.unestablished hprop
  · rfl

theorem forget_parseBanner (banner : Bytes) :
    (h.forget t).parseBanner t banner = (h.parseBanner t banner).forget t := by
  rw [parseBanner, forget_modifyTransport, forget_setConnectionState]
  · rfl
  · exact fun x => parseBannerProps_unestablished _ x banner

theorem forget_handleStls : (h.forget t).handleStls t = (h.handleStls t).forget t := by
  unfold handleStls
  dsimp only
  rw [forget_modifyTransport]
  · rw [sendTlsRequest, forget_sendPacket, forget_emit]
    rfl
  · exact fun x => rfl

theorem forget_newLocalSocket (o : Option ℕ) : (h.forget t).newLocalSocket o =
    ((h.newLocalSocket o).1, (h.newLocalSocket o).2.forget t) := rfl

theorem forget_setPeer (s : ASocket) (remote u : ℕ) : (h.forget t).setPeer s remote u =
    ((h.setPeer s remote u).1, (h.setPeer s remote u).2.forget t) := rfl

theorem forget_putSocket (s : ASocket) :
    (h.forget t).putSocket s = (h.putSocket s).forget t := rfl

theorem forget_sendReady (localId remote : ℕ) (ackBytes : UInt32) :
    (h.forget t).sendReady localId remote t ackBytes =
      (h.sendReady localId remote t ackBytes).forget t := by
  unfold sendReady
  rw [forget_transports_same, ATransport.unestablished_delayedAck]
  exact forget_sendPacket h t _

theorem forget_connectService :
    (h.forget t).connectService t p = (h.connectService t p).forget t := by
  unfold connectService
  rw [forget_transports_same, ATransport.unestablished_delayedAck]
  simp only [forget_newLocalSocket, forget_setPeer, forget_putSocket, forget_sendReady, forget_emit]

theorem forget_handleOpen : handleOpen env (h.forget t) t p = (handleOpen env h t p).forget t := by
  have hcheck : checkReverse env (h.forget t) t p = (checkReverse env h t p).forget t := by
    have hread : ∀ s, ((h.forget t).transports t).isReverseConfigured s =
        (h.transports t).isReverseConfigured s := by
      intro s
      rw [forget_transports_same]
      rfl
    unfold checkReverse
    rw [hread]
    split <;> rfl
  unfold handleOpen
  rw [forget_transports_same, ATransport.unestablished_online, ATransport.unestablished_delayedAck]
  split
  · rfl
  · split
    · exact forget_sendClose h t 0 p.msg.arg0
    · rw [hcheck, forget_emit]
      split
      · exact forget_connectService _ t p
      · exact forget_sendClose _ t 0 p.msg.arg0

theorem forget_handleOkay :
    (h.forget t).handleOkay t p = (h.handleOkay t p).map fun h => h.forget t := by
  have hfind : (h.forget t).findLocalSocket p.msg.arg1 0 = h.findLocalSocket p.msg.arg1 0 := rfl
  unfold handleOkay
  rw [forget_transports_same, ATransport.unestablished_online, hfind]
  split
  · cases h.findLocalSocket p.msg.arg1 0 with
    | none => exact congrArg some (forget_sendClose h t p.msg.arg1 p.msg.arg0)
    | some s =>
      dsimp only
      cases ackedBytes p with
      | none => rfl
      | some acked =>
        dsimp only
        cases s.peer with
        | none => rfl
        | some peer =>
          dsimp only
          split <;> rfl
  · rfl

theorem forget_handleClse : (h.forget t).handleClse t p = (h.handleClse t p).forget t := by
  have hfind : (h.forget t).findLocalSocket p.msg.arg1 p.msg.arg0 =
      h.findLocalSocket p.msg.arg1 p.msg.arg0 := rfl
  unfold handleClse
  rw [forget_transports_same, ATransport.unestablished_online, hfind]
  split
  · cases h.findLocalSocket p.msg.arg1 p.msg.arg0 with
    | none => rfl
    | some s =>
      dsimp only
      split <;> rfl
  · rfl

theorem forget_handleWrte : (h.forget t).handleWrte t p = (h.handleWrte t p).forget t := by
  have hfind : (h.forget t).findLocalSocket p.msg.arg1 p.msg.arg0 =
      h.findLocalSocket p.msg.arg1 p.msg.arg0 := rfl
  unfold handleWrte
  rw [forget_transports_same, ATransport.unestablished_online, hfind]
  split
  · cases h.findLocalSocket p.msg.arg1 p.msg.arg0 <;> rfl
  · rfl

/-! ## What may set `connection_established_` -/

/-- `SetConnectionEstablished` is forgotten. -/
theorem forget_setConnectionEstablished {f : ATransport → ATransport} (b : Bool)
    (hf : ∀ x, f x.unestablished = (f x).unestablished) :
    ((h.forget t).modifyTransport t fun x => (f x).setConnectionEstablished b).forget t =
      (h.modifyTransport t fun x => (f x).setConnectionEstablished b).forget t := by
  have hset : ∀ x : ATransport, (x.setConnectionEstablished b).unestablished = x.unestablished :=
    fun _ => rfl
  simp [forget, modifyTransport, hf, hset]

theorem forget_handleNewConnection : ((h.forget t).handleNewConnection t p).forget t =
    (h.handleNewConnection t p).forget t := by
  unfold handleNewConnection handleOnline
  dsimp only
  rw [forget_handleOffline, forget_modifyTransport, forget_parseBanner]
  · exact forget_setConnectionEstablished _ t true fun _ => rfl
  · exact fun x => updateVersion_unestablished x _ _

theorem forget_handleAuth :
    (handleAuth env (h.forget t) t p).forget t = (handleAuth env h t p).forget t := by
  unfold handleAuth
  rw [forget_transports_same, ATransport.unestablished_useTls,
    ATransport.unestablished_connectionState]
  split
  · exact forget_forget h t
  · split
    · have hasks : (if (h.transports t).connectionState = .authorizing then h.forget t
          else (h.forget t).setConnectionState t .authorizing) =
          (if (h.transports t).connectionState = .authorizing then h
            else h.setConnectionState t .authorizing).forget t := by
        rw [forget_setConnectionState]
        split <;> rfl
      rw [hasks]
      dsimp only
      rw [forget_emit]
      cases env.authReply with
      | signature => exact forget_forget _ t
      | publicKey =>
        dsimp only
        rw [forget_setConnectionState]
        exact forget_setConnectionEstablished _ t true fun _ => rfl
    · rw [forget_setConnectionState, forget_handleOffline, forget_forget]

/-- What a packet does to a host without these, it does to the host. -/
theorem forget_handlePacket :
    (handlePacket env (h.forget t) t p).forget t = (handlePacket env h t p).forget t := by
  unfold handlePacket
  cases Command.ofWord p.msg.command with
  | none => rw [forget_emit, forget_forget]
  | some c =>
    cases c with
    | cnxn => exact congrArg (·.emit .putApacket) (forget_handleNewConnection h t p)
    | stls => simp only [forget_handleStls, forget_emit, forget_forget]
    | auth => exact congrArg (·.emit .putApacket) (forget_handleAuth h t p env)
    | «open» => simp only [forget_handleOpen, forget_emit, forget_forget]
    | okay =>
      simp only [forget_handleOkay]
      cases h.handleOkay t p with
      | none => exact forget_forget h t
      | some h' => simp only [Option.map_some, forget_emit, forget_forget]
    | clse => simp only [forget_handleClse, forget_emit, forget_forget]
    | wrte => simp only [forget_handleWrte, forget_emit, forget_forget]
    | sync => simp only [forget_emit, forget_forget]

theorem forget_sendConnect : (h.forget t).sendConnect t = (h.sendConnect t).forget t := by
  have hcheck : (h.forget t).checkConnectionString = h.checkConnectionString.forget t := by
    have hbanner : (h.forget t).connectionString = h.connectionString := rfl
    unfold checkConnectionString
    rw [hbanner]
    split <;> rfl
  unfold sendConnect
  rw [hcheck, forget_transports_same, ATransport.unestablished_maxPayload, forget_sendPacket]
  rfl

/-- Nor does the registration read them. -/
theorem forget_registerTransport (startDetached : Bool) :
    ((h.forget t).registerTransport t startDetached).forget t =
      (h.registerTransport t startDetached).forget t := by
  have hleave : ∀ h : Host, ((h.leavePending t).emit .updateTransports).forget t =
      (h.forget t).emit .updateTransports := by
    intro h
    unfold leavePending
    split <;> rfl
  have hstart : ((h.forget t).startTransport t startDetached) =
      (h.startTransport t startDetached).forget t := by
    unfold startTransport
    rw [forget_transports_same, ATransport.unestablished_connectionState,
      ATransport.unestablished_type, forget_setConnectionState, forget_emit, forget_sendConnect]
    repeat' split
    all_goals rfl
  unfold registerTransport
  rw [hleave, hleave, hstart, forget_forget]

/-- The registration of a transport that is not a USB device leaves it as it is. -/
theorem registerTransport_transports_same {h : Host} {t : ℕ}
    (hlocal : (h.transports t).type = .local) (startDetached : Bool) :
    (h.registerTransport t startDetached).transports t = h.transports t := by
  have hleave : ∀ h : Host,
      ((h.leavePending t).emit .updateTransports).transports = h.transports := by
    intro h
    unfold leavePending
    split <;> rfl
  have husb : ¬ ((h.transports t).type = .usb ∧ startDetached = true) := by simp [hlocal]
  unfold registerTransport startTransport
  rw [hleave, if_neg husb]
  split
  · rfl
  · unfold sendConnect checkConnectionString
    split <;> rfl

/-- It attaches no socket. -/
theorem registerTransport_localSockets (h : Host) (t : ℕ) (startDetached : Bool) :
    (h.registerTransport t startDetached).localSockets = h.localSockets := by
  unfold registerTransport startTransport leavePending sendConnect checkConnectionString
  repeat' split
  all_goals rfl

/-! ## A reconnection -/

/-- `register_socket_transport` makes a new transport with the serial of `t` in its place. -/
def renewed (useTls : Bool) : Host :=
  { h.modifyTransport t (·.renewed useTls) with
    transportList := h.transportList.filter (· ≠ t)
    pendingList := t :: h.pendingList }

/-- After a successful `Reconnect`, `t` is registered again. -/
def reconnected (startDetached : Bool) : Host := h.quiet.registerTransport t startDetached

/-- A new transport is registered in the place of `t`, with nothing attached to it. -/
def startedAnew (startDetached useTls : Bool) : Host :=
  (((h.closeAllSockets t).runDisconnects t).quiet.renewed t useTls).registerTransport t startDetached

/-- The transport is on the reconnect queue after `transport_destroy`. -/
def QueuedToReconnect : Prop :=
  (h.transports t).isTcpDevice = true ∧ (h.transports t).kicked = false

end Host

/-- The fields of a transport have the values of a new one. -/
structure ATransport.Unworn (x : ATransport) (useTls : Bool) : Prop where
  product : x.product = []
  model : x.model = []
  device : x.device = []
  connectionState : x.connectionState = .offline
  online : x.online = false
  useTls : x.useTls = useTls
  protocolVersion : x.protocolVersion = aVersionMin
  maxPayload : x.maxPayload = AdbMobile.maxPayload
  features : x.features = []
  delayedAck : x.delayedAck = false
  reverseForwards : x.reverseForwards = ∅
  disconnects : x.disconnects = []
  kicked : x.kicked = false

/-- A transport is like a new one exactly when it is unworn. -/
theorem ATransport.unestablished_eq_renewed_iff {x : ATransport} (useTls : Bool) :
    x.unestablished = x.renewed useTls ↔ x.Unworn useTls := by
  constructor
  · intro heq
    exact ⟨congrArg ATransport.product heq, congrArg ATransport.model heq,
      congrArg ATransport.device heq, congrArg ATransport.connectionState heq,
      congrArg ATransport.online heq, congrArg ATransport.useTls heq,
      congrArg ATransport.protocolVersion heq, congrArg ATransport.maxPayload heq,
      congrArg ATransport.features heq, congrArg ATransport.delayedAck heq,
      congrArg ATransport.reverseForwards heq, congrArg ATransport.disconnects heq,
      congrArg ATransport.kicked heq⟩
  · rintro ⟨hproduct, hmodel, hdevice, hstate, honline, htls, hversion, hpayload, hfeatures, hack,
      hreverse, hdisconnects, hkicked⟩
    cases x
    dsimp only at *
    subst hproduct hmodel hdevice hstate honline htls hversion hpayload hfeatures hack hreverse
      hdisconnects hkicked
    rfl

/-- What `handle_offline` does not reset when the connection ends is as in a new transport. A
transport that is offline already is not reset at all. -/
structure Host.EndsUnworn (h : Host) (t : ℕ) (useTls : Bool) : Prop where
  product : (h.transports t).product = []
  model : (h.transports t).model = []
  device : (h.transports t).device = []
  useTls : (h.transports t).useTls = useTls
  protocolVersion : (h.transports t).protocolVersion = aVersionMin
  maxPayload : (h.transports t).maxPayload = AdbMobile.maxPayload
  features : (h.transports t).features = []
  delayedAck : (h.transports t).delayedAck = false
  reverseForwards : (h.transports t).reverseForwards = ∅
  offline : (h.transports t).connectionState = .offline →
    (h.transports t).online = false ∧ (h.transports t).disconnects = [] ∧ h.NoneAttached t

/-! ## While the transport waits -/

/-- `keys_` of `t` after an effect of the looper. What `send_auth_response` leaves of the keys is
`answered`. -/
def Effect.keysAfter {κ : Type} (answered : AuthKeys κ → AuthKeys κ) (t : ℕ) (keys : AuthKeys κ) :
    Effect → AuthKeys κ
  | .authResponse u _ => if u = t then answered keys else keys
  | .resetKeys u => if u = t then keys.resetKeys else keys
  | _ => keys

/-- The looper's tables, and `keys_` of a transport. -/
structure KeyedHost (κ : Type) where
  host : Host
  keys : AuthKeys κ

section Waiting

variable {κ : Type} (answered : AuthKeys κ → AuthKeys κ) (t : ℕ)

/-- `keys_` of `t` after what was done in `h`. -/
def Host.keysAfter (h : Host) (keys : AuthKeys κ) : AuthKeys κ :=
  h.trace.foldl (Effect.keysAfter answered t) keys

/-- The connection of `t` ends. -/
def Host.connectionEnded (h : Host) (keys : AuthKeys κ) : KeyedHost κ :=
  ⟨h.quiet.handleError t, (h.quiet.handleError t).keysAfter answered t keys⟩

namespace KeyedHost

/-- A step of the looper. -/
def step (w : KeyedHost κ) (e : LooperEvent) : Option (KeyedHost κ) :=
  (w.host.step e).map fun h => ⟨h, h.keysAfter answered t w.keys⟩

/-- The transport is as a new one, and so are its keys, and no socket is attached to it. -/
structure Unworn (w : KeyedHost κ) (useTls : Bool) : Prop where
  transport : (w.host.transports t).Unworn useTls
  keys : w.keys = .new
  sockets : w.host.NoneAttached t

/-- The same was done, and the transports are the same, with their keys and the sockets attached to
them. -/
structure SameConduct (w w' : KeyedHost κ) : Prop where
  trace : w.host.trace = w'.host.trace
  transport : (w.host.transports t).unestablished = (w'.host.transports t).unestablished
  sockets : w.host.localSockets.filter (·.AttachedTo t) =
    w'.host.localSockets.filter (·.AttachedTo t)
  keys : w.keys = w'.keys

end KeyedHost

end Waiting

namespace Host

variable {h h' : Host} {t : ℕ}

/-- Two hosts that differ in what `forget` forgets do the same when `t` is registered. -/
theorem forget_registerTransport_congr (hforget : h.forget t = h'.forget t) (startDetached : Bool) :
    (h.registerTransport t startDetached).forget t =
      (h'.registerTransport t startDetached).forget t := by
  rw [← forget_registerTransport h, ← forget_registerTransport h', hforget]

/-- An unworn transport is forgotten to be an old one. -/
theorem forget_renewed {useTls : Bool}
    (hnew : (h.transports t).unestablished = (h.transports t).renewed useTls) :
    (h.renewed t useTls).forget t = h.forget t := by
  simp only [Host.renewed, forget, modifyTransport, Function.update_self,
    Function.update_idem, hnew]
  rfl

/-- There is nothing to detach from a transport to which nothing is attached. -/
theorem detach_eq_self (hnone : h.NoneAttached t) (hdisconnects : (h.transports t).disconnects = []) :
    (h.closeAllSockets t).runDisconnects t = h := by
  have hclosed : h.closeAllSockets t = h := by
    rw [closeAllSockets, List.filter_eq_nil_iff.mpr fun s hs => by simpa using hnone s hs]
    rfl
  have hsame : ({ h.transports t with disconnects := [] } : ATransport) = h.transports t := by
    rw [← hdisconnects]
  rw [hclosed, runDisconnects, hdisconnects, List.foldl_nil, modifyTransport, hsame,
    Function.update_eq_self]

/-- What the end of a connection leaves of the transport. -/
theorem handleError_transports_same (h : Host) (t : ℕ) : (h.handleError t).transports t =
    if (h.transports t).connectionState = .offline then h.transports t
    else { h.transports t with connectionState := .offline, online := false, disconnects := [] } := by
  rw [← handleOffline_transports_same]
  unfold handleError transportDestroy
  split <;> rfl

/-- Sockets stay attached only where the transport was offline already. -/
theorem handleError_noneAttached_iff (h : Host) (t : ℕ) : (h.handleError t).NoneAttached t ↔
    ((h.transports t).connectionState = .offline → h.NoneAttached t) := by
  have hsockets : (h.handleError t).localSockets = (h.handleOffline t).localSockets := by
    unfold handleError transportDestroy
    split <;> rfl
  rw [NoneAttached, hsockets, handleOffline]
  split
  · rename_i hoffline
    exact ⟨fun hnone _ => hnone, fun hnone => hnone hoffline⟩
  · rename_i honline
    refine iff_of_true ?_ fun hoffline => absurd hoffline honline
    rw [runDisconnects_localSockets]
    exact closeAllSockets_noneAttached _ t

/-- `transport_destroy` resets the keys of a transport that it queues. -/
theorem handleError_keysAfter {κ : Type} (answered : AuthKeys κ → AuthKeys κ) (keys : AuthKeys κ)
    (hqueued : h.QueuedToReconnect t) :
    (h.handleError t).keysAfter answered t keys = .new := by
  have hfields : ((h.handleOffline t).transports t).isTcpDevice = true ∧
      ((h.handleOffline t).transports t).kicked = false := by
    rw [handleOffline_transports_same]
    split <;> exact hqueued
  rw [handleError, transportDestroy, if_pos (by simp [hfields])]
  simp [keysAfter, emit, Effect.keysAfter, AuthKeys.resetKeys, AuthKeys.new]

/-- Where nothing has been handled since, the transport is unworn exactly when what `handle_offline`
does not reset is. -/
theorem connectionEnded_unworn_iff {κ : Type} (answered : AuthKeys κ → AuthKeys κ)
    (keys : AuthKeys κ) (hqueued : h.QueuedToReconnect t) (useTls : Bool) :
    (h.connectionEnded answered t keys).Unworn t useTls ↔ h.EndsUnworn t useTls := by
  have htransport := handleError_transports_same h.quiet t
  have hnone := handleError_noneAttached_iff h.quiet t
  have hkicked : (h.transports t).kicked = false := hqueued.2
  change ((h.quiet.handleError t).transports t) = if (h.transports t).connectionState = .offline
    then h.transports t else _ at htransport
  constructor
  · rintro ⟨hunworn, -, hsockets⟩
    change ((h.quiet.handleError t).transports t).Unworn useTls at hunworn
    rw [htransport] at hunworn
    split at hunworn
    · exact ⟨hunworn.product, hunworn.model, hunworn.device, hunworn.useTls, hunworn.protocolVersion,
        hunworn.maxPayload, hunworn.features, hunworn.delayedAck, hunworn.reverseForwards,
        fun hoffline => ⟨hunworn.online, hunworn.disconnects, hnone.mp hsockets hoffline⟩⟩
    · rename_i honline
      exact ⟨hunworn.product, hunworn.model, hunworn.device, hunworn.useTls, hunworn.protocolVersion,
        hunworn.maxPayload, hunworn.features, hunworn.delayedAck, hunworn.reverseForwards,
        fun hoffline => absurd hoffline honline⟩
  · intro hends
    refine ⟨?_, handleError_keysAfter answered keys hqueued, hnone.mpr fun h => (hends.offline h).2.2⟩
    show ((h.quiet.handleError t).transports t).Unworn useTls
    rw [htransport]
    split
    · rename_i hoffline
      obtain ⟨honline, hdisconnects, -⟩ := hends.offline hoffline
      exact ⟨hends.product, hends.model, hends.device, hoffline, honline, hends.useTls,
        hends.protocolVersion, hends.maxPayload, hends.features, hends.delayedAck,
        hends.reverseForwards, hdisconnects, hkicked⟩
    · exact ⟨hends.product, hends.model, hends.device, rfl, rfl, hends.useTls,
        hends.protocolVersion, hends.maxPayload, hends.features, hends.delayedAck,
        hends.reverseForwards, rfl, hkicked⟩

/-- A registration is no matter of the keys. -/
theorem keysAfter_registerTransport {κ : Type} (answered : AuthKeys κ → AuthKeys κ) (h : Host)
    (t : ℕ) (startDetached : Bool) (keys : AuthKeys κ) :
    (h.registerTransport t startDetached).keysAfter answered t keys = h.keysAfter answered t keys := by
  unfold registerTransport startTransport leavePending sendConnect checkConnectionString
  repeat' split
  all_goals simp [keysAfter, setConnectionState, sendPacket, emit, modifyTransport, Effect.keysAfter]

end Host

/-! ## The packets of a connection -/

/-- A step of the reader or of the looper. -/
inductive ReceiveAction
  /-- `HandleRead` gets a packet. -/
  | read (p : APacket)
  /-- `handle_packet` gets the next one. -/
  | handle (env : PacketEnv)

/-- A host, and the packets of `t` that `HandleRead` has queued. -/
structure Receiver where
  host : Host
  packets : List APacket

namespace Receiver

/-- A packet that `check_header` refuses is dropped. -/
def receive (t : ℕ) (s : Receiver) : ReceiveAction → Receiver
  | .read p =>
    if (s.host.transports t).checkHeader p then { s with packets := s.packets ++ [p] } else s
  | .handle env =>
    match s.packets with
    | [] => s
    | p :: packets => ⟨handlePacket env s.host t p, packets⟩

end Receiver

/-- The host after the packets of a connection. -/
def Host.afterPackets (h : Host) (t : ℕ) (as : List ReceiveAction) : Host :=
  (as.foldl (Receiver.receive t) ⟨h, []⟩).host

namespace Receiver

variable {s s' : Receiver} {t : ℕ}

/-- Two receivers do the same with the same packets. -/
theorem forget_receive_congr (hforget : s.host.forget t = s'.host.forget t)
    (hpackets : s.packets = s'.packets) (a : ReceiveAction) :
    (s.receive t a).host.forget t = (s'.receive t a).host.forget t ∧
      (s.receive t a).packets = (s'.receive t a).packets := by
  cases a with
  | read p =>
    have hcheck : (s.host.transports t).checkHeader p = (s'.host.transports t).checkHeader p := by
      have hsame := congrArg (fun h : Host => (h.transports t).checkHeader p) hforget
      rwa [forget_transports_same, forget_transports_same] at hsame
    simp only [receive, hcheck, hpackets]
    split
    · exact ⟨hforget, rfl⟩
    · exact ⟨hforget, hpackets⟩
  | handle env =>
    simp only [receive, hpackets]
    cases hqueue : s'.packets with
    | nil => exact ⟨hforget, hpackets⟩
    | cons p packets =>
      refine ⟨?_, rfl⟩
      change (handlePacket env s.host t p).forget t = (handlePacket env s'.host t p).forget t
      rw [← forget_handlePacket s.host, ← forget_handlePacket s'.host, hforget]

/-- And so with a sequence of them. -/
theorem forget_foldl_receive_congr (as : List ReceiveAction) :
    ∀ {s s' : Receiver}, s.host.forget t = s'.host.forget t → s.packets = s'.packets →
      (as.foldl (receive t) s).host.forget t = (as.foldl (receive t) s').host.forget t := by
  induction as with
  | nil => exact fun hforget _ => hforget
  | cons a as ih =>
    intro s s' hforget hpackets
    obtain ⟨hforget, hpackets⟩ := forget_receive_congr hforget hpackets a
    exact ih hforget hpackets

end Receiver

/-- A device is connected over TCP, and does not answer. -/
def silentDevice : List LooperEvent :=
  [.newTransport 1 .local (lit "dev:5555") .offline true, .registerTransport 1 false]

/-- A packet that was queued behind the callback of `HandleError`. -/
def latePacket : List LooperEvent :=
  [.packet 1 ⟨⟨Command.wrte.word, 1, 1, 0, 0, 0⟩, []⟩ ⟨true, .signature, []⟩]

section StartsAfresh

variable {κ : Type} (answered : AuthKeys κ → AuthKeys κ) (t : ℕ)

/-- The host after the packets of a new connection, and the keys of `t`. -/
def KeyedHost.afterPackets (w : KeyedHost κ) (as : List ReceiveAction) : KeyedHost κ :=
  ⟨w.host.afterPackets t as, (w.host.afterPackets t as).keysAfter answered t w.keys⟩

/-- With every sequence of packets after the registration, the host does the same as with a new
transport. -/
def KeyedHost.StartsAfresh (w : KeyedHost κ) (startDetached useTls : Bool) : Prop :=
  ∀ as : List ReceiveAction, SameConduct t
    (afterPackets answered t ⟨w.host.reconnected t startDetached, w.keys⟩ as)
    (afterPackets answered t ⟨w.host.startedAnew t startDetached useTls, .new⟩ as)

/-- The host starts afresh exactly when the transport is unworn as it is registered again. -/
theorem KeyedHost.startsAfresh_iff {w : KeyedHost κ} (hlocal : (w.host.transports t).type = .local)
    (startDetached useTls : Bool) :
    w.StartsAfresh answered t startDetached useTls ↔ w.Unworn t useTls := by
  -- What takes the place of the transport.
  have hdetached : (((w.host.closeAllSockets t).runDisconnects t).quiet.transports t).renewed useTls =
      (w.host.transports t).renewed useTls := by
    show (((w.host.closeAllSockets t).runDisconnects t).transports t).renewed useTls = _
    rw [Host.runDisconnects_transports_same, Host.closeAllSockets_transports]
    rfl
  have hplace : (((w.host.closeAllSockets t).runDisconnects t).quiet.renewed t useTls).transports t =
      (w.host.transports t).renewed useTls :=
    (Host.modifyTransport_same _ t (·.renewed useTls)).trans hdetached
  constructor
  · intro hsame
    -- With no packet, the two differ in what was left in the old transport.
    obtain ⟨-, htransport, hsockets, hkeys⟩ := hsame []
    change ((w.host.reconnected t startDetached).transports t).unestablished =
      ((w.host.startedAnew t startDetached useTls).transports t).unestablished at htransport
    change (w.host.reconnected t startDetached).localSockets.filter _ =
      (w.host.startedAnew t startDetached useTls).localSockets.filter _ at hsockets
    change (w.host.reconnected t startDetached).keysAfter answered t w.keys =
      (w.host.startedAnew t startDetached useTls).keysAfter answered t .new at hkeys
    refine ⟨?_, ?_, ?_⟩
    · rw [Host.reconnected, Host.registerTransport_transports_same (h := w.host.quiet) hlocal,
        Host.startedAnew, Host.registerTransport_transports_same (by rw [hplace]; exact hlocal),
        hplace] at htransport
      exact (ATransport.unestablished_eq_renewed_iff useTls).mp htransport
    · rw [Host.reconnected, Host.startedAnew, Host.keysAfter_registerTransport,
        Host.keysAfter_registerTransport] at hkeys
      exact hkeys
    · rw [Host.reconnected, Host.startedAnew, Host.registerTransport_localSockets,
        Host.registerTransport_localSockets] at hsockets
      have hnone : ((w.host.closeAllSockets t).runDisconnects t).localSockets.filter
          (·.AttachedTo t) = [] := by
        rw [Host.runDisconnects_localSockets, List.filter_eq_nil_iff]
        exact fun s hs => by simpa using w.host.closeAllSockets_noneAttached t s hs
      intro s hs
      simpa using List.filter_eq_nil_iff.mp (hsockets.trans hnone) s hs
  · rintro ⟨hunworn, hkeys, hnone⟩ as
    have hnew := (ATransport.unestablished_eq_renewed_iff useTls).mpr hunworn
    have hforget : ((w.host.reconnected t startDetached).afterPackets t as).forget t =
        ((w.host.startedAnew t startDetached useTls).afterPackets t as).forget t := by
      refine Receiver.forget_foldl_receive_congr as ?_ rfl
      rw [Host.reconnected, Host.startedAnew, Host.detach_eq_self hnone hunworn.disconnects]
      exact Host.forget_registerTransport_congr (Host.forget_renewed (h := w.host.quiet) hnew).symm
        startDetached
    have htrace : ((w.host.reconnected t startDetached).afterPackets t as).trace =
        ((w.host.startedAnew t startDetached useTls).afterPackets t as).trace :=
      (congrArg Host.trace hforget :)
    refine ⟨htrace, ?_, ?_, ?_⟩
    · have hsame := congrArg (fun h : Host => h.transports t) hforget
      rwa [Host.forget_transports_same, Host.forget_transports_same] at hsame
    · exact congrArg (fun h : Host => h.localSockets.filter (·.AttachedTo t)) hforget
    · show Host.keysAfter answered t _ w.keys = Host.keysAfter answered t _ .new
      rw [Host.keysAfter, htrace, hkeys]
      rfl

/-- After the connection of a TCP transport has ended, whatever its history, whatever the looper has
handled since, and whatever `send_auth_response` does to the keys: the host starts afresh exactly when
the transport is unworn as it is registered again. If nothing of it was handled in between, that is
when what `handle_offline` does not reset was as in a new transport. -/
theorem starts_afresh_iff (h : Host) (keys : AuthKeys κ) (es : List LooperEvent)
    (startDetached useTls : Bool) :
    (∀ w ∈ Run.run (KeyedHost.step answered t) (h.connectionEnded answered t keys) es,
      (w.host.transports t).type = .local →
        (w.StartsAfresh answered t startDetached useTls ↔ w.Unworn t useTls)) ∧
    (h.QueuedToReconnect t →
      ((h.connectionEnded answered t keys).Unworn t useTls ↔ h.EndsUnworn t useTls)) :=
  ⟨fun _ _ hlocal => KeyedHost.startsAfresh_iff answered t hlocal startDetached useTls,
    fun hqueued => Host.connectionEnded_unworn_iff answered keys hqueued useTls⟩

set_option maxRecDepth 4000 in
/-- A device that has never answered leaves the transport unworn, also when a packet of its is handled
late. -/
theorem silentDevice_starts_afresh :
    ∃ h ∈ Run.run Host.step (.initial false) silentDevice,
      ∃ w ∈ Run.run (KeyedHost.step (κ := ℕ) id 1) (h.connectionEnded id 1 .new) latePacket,
        w.StartsAfresh id 1 false false := by
  obtain ⟨h, hh, w, hw, hlocal, hunworn⟩ : ∃ h ∈ Run.run Host.step (.initial false) silentDevice,
      ∃ w ∈ Run.run (KeyedHost.step (κ := ℕ) id 1) (h.connectionEnded id 1 .new) latePacket,
        (w.host.transports 1).type = .local ∧ w.Unworn 1 false :=
    ⟨_, rfl, _, rfl, rfl, ⟨rfl, rfl, rfl, rfl, rfl, rfl, rfl, rfl, rfl, rfl, rfl, rfl, rfl⟩, rfl,
      fun _ hs => absurd hs List.not_mem_nil⟩
  exact ⟨h, hh, w, hw, ((starts_afresh_iff id 1 h .new latePacket false false).1 w hw hlocal).mpr
    hunworn⟩

end StartsAfresh

/-- A device that speaks the version of the host is connected over TCP. -/
def answeringDevice : List LooperEvent :=
  [.newTransport 1 .local (lit "dev:5555") .offline true, .registerTransport 1 false,
    .packet 1 ⟨⟨Command.cnxn.word, .ofNat aVersion.toNat, 4096, 8, 0, 0⟩, lit "device::"⟩
      ⟨true, .signature, []⟩]

/-- After its connection has ended, the next CNXN has no checksum. -/
theorem answeringDevice_not_afresh :
    ¬ ∀ es : List LooperEvent, ∀ h ∈ Run.run Host.step (.initial false) es,
      ∀ (t : ℕ) (startDetached : Bool), h.QueuedToReconnect t → ∀ es' : List LooperEvent,
        ∀ w ∈ Run.run (KeyedHost.step (κ := ℕ) id t) (h.connectionEnded id t .new) es',
          w.StartsAfresh id t startDetached false := by
  intro hall
  have htrace : ∀ h ∈ Run.run Host.step (.initial false) answeringDevice,
      (h.transports 1).isTcpDevice = true ∧ (h.transports 1).kicked = false →
      ((h.quiet.handleError 1).reconnected 1 false).trace =
        ((h.quiet.handleError 1).startedAnew 1 false false).trace :=
    fun h hrun hqueued => (hall answeringDevice h hrun 1 false hqueued [] _ rfl []).trace
  revert htrace
  decide +kernel

end AdbMobile
