import AdbMobile.Server.Frame

/-!
# What the looper has to do with the registration of transports

A transport is registered, tracked for reconnection, and removed by callbacks of their own. Packets,
listeners and sockets have no part in it: they leave the lists of transports as they are, the fields
that the registration depends on, and the connections (`SameRegistration.handle`). The rest of the
file says what the callbacks do to them.
-/

namespace AdbMobile

open ByteString Run

/-- The effects that start or stop a connection, or decide where its transport goes next. -/
def Effect.onConnection : Effect → Bool
  | .startConnection _ | .stopConnection _ | .trackTransport _ | .removeTransport _ => true
  | _ => false

/-- The fields of a transport that never change but for the flag that a kick sets. -/
def ATransport.identity (x : ATransport) : TransportType × Bytes × Bool × Bool :=
  (x.type, x.serial, x.isTcpDevice, x.kicked)

/-- The events that register, end or delete transports, or kick them. -/
def LooperEvent.registers : LooperEvent → Bool
  | .connectionError _ | .kick _ | .newTransport .. | .registerTransport _ _
  | .unregisterTransport _ | .relaunch => true
  | _ => false

namespace Host

/-- What was done to connections, in order. -/
def connectionEffects (h : Host) : List Effect := h.trace.filter Effect.onConnection

/-- A change of the looper's state that the registration of transports has no part in. -/
structure SameRegistration (h h' : Host) : Prop where
  effects : h'.connectionEffects = h.connectionEffects
  live : h'.live = h.live
  transportList : h'.transportList = h.transportList
  pendingList : h'.pendingList = h.pendingList
  identity : ∀ t, (h'.transports t).identity = (h.transports t).identity
  noPerm : ∀ t, (h'.transports t).connectionState = .noPerm →
    (h.transports t).connectionState = .noPerm

variable {h h' : Host} {t : ℕ}

theorem SameRegistration.refl (h : Host) : SameRegistration h h :=
  ⟨rfl, rfl, rfl, rfl, fun _ => rfl, fun _ => id⟩

theorem SameRegistration.trans {h'' : Host} (h₁ : SameRegistration h h')
    (h₂ : SameRegistration h' h'') : SameRegistration h h'' :=
  ⟨h₂.effects.trans h₁.effects, h₂.live.trans h₁.live,
    h₂.transportList.trans h₁.transportList, h₂.pendingList.trans h₁.pendingList,
    fun t => (h₂.identity t).trans (h₁.identity t), fun t ht => h₁.noPerm t (h₂.noPerm t ht)⟩

theorem connectionEffects_emit (h : Host) (e : Effect) : (h.emit e).connectionEffects =
    h.connectionEffects ++ [e].filter Effect.onConnection :=
  List.filter_append ..

/-- Effects on no connection. -/
theorem SameRegistration.append (h : Host) {es : List Effect}
    (hes : ∀ e ∈ es, e.onConnection = false) :
    SameRegistration h { h with trace := h.trace ++ es } := by
  refine ⟨?_, rfl, rfl, rfl, fun _ => rfl, fun _ => id⟩
  have hnone : es.filter Effect.onConnection = [] :=
    List.filter_eq_nil_iff.mpr fun e he => by simp [hes e he]
  rw [connectionEffects, List.filter_append, hnone, List.append_nil, connectionEffects]

theorem SameRegistration.emit (h : Host) {e : Effect} (he : e.onConnection = false) :
    SameRegistration h (h.emit e) :=
  .append h fun _ hmem => List.mem_singleton.mp hmem ▸ he

theorem SameRegistration.modifyTransport (h : Host) (t : ℕ) {f : ATransport → ATransport}
    (hf : ∀ x, (f x).identity = x.identity)
    (hstate : ∀ x, (f x).connectionState = .noPerm → x.connectionState = .noPerm) :
    SameRegistration h (h.modifyTransport t f) := by
  refine ⟨rfl, rfl, rfl, rfl, fun u => ?_, fun u => ?_⟩
  · by_cases hu : u = t
    · subst hu
      rw [modifyTransport_same]
      exact hf _
    · rw [modifyTransport_ne h hu]
  · by_cases hu : u = t
    · subst hu
      rw [modifyTransport_same]
      exact hstate _
    · rw [modifyTransport_ne h hu]
      exact id

theorem SameRegistration.setConnectionState (h : Host) (t : ℕ) {state : ConnectionState}
    (hstate : state ≠ .noPerm) : SameRegistration h (h.setConnectionState t state) :=
  (SameRegistration.modifyTransport h t (f := fun x => { x with connectionState := state })
    (fun _ => rfl) fun _ hn => absurd hn hstate).trans (.emit _ rfl)

theorem SameRegistration.closeSocket (h : Host) (s : ASocket) :
    SameRegistration h (h.closeSocket s) :=
  (SameRegistration.emit h (e := .close s) rfl).trans
    ⟨rfl, rfl, rfl, rfl, fun _ => rfl, fun _ => id⟩

/-- What every step of a fold keeps, the fold keeps. -/
theorem SameRegistration.foldl {α : Type*} {f : Host → α → Host}
    (hf : ∀ h a, SameRegistration h (f h a)) (l : List α) :
    ∀ h, SameRegistration h (l.foldl f h) := by
  induction l with
  | nil => exact fun h => .refl h
  | cons a l ih => exact fun h => (hf h a).trans (ih (f h a))

theorem SameRegistration.closeAllSockets (h : Host) (t : ℕ) :
    SameRegistration h (h.closeAllSockets t) :=
  .foldl .closeSocket _ h

theorem SameRegistration.removeDisconnect (h : Host) (o : Option ℕ) (id : ℕ) :
    SameRegistration h (h.removeDisconnect o id) := by
  refine ⟨rfl, rfl, rfl, rfl, fun t => ?_, fun t => ?_⟩
  · simp only [Host.removeDisconnect]
    split <;> rfl
  · simp only [Host.removeDisconnect]
    split <;> exact fun hn => hn

theorem SameRegistration.addDisconnect (h : Host) (o : Option ℕ) (id : ℕ) :
    SameRegistration h (h.addDisconnect o id) := by
  refine ⟨rfl, rfl, rfl, rfl, fun t => ?_, fun t => ?_⟩
  · simp only [Host.addDisconnect]
    split <;> rfl
  · simp only [Host.addDisconnect]
    split <;> exact fun hn => hn

theorem SameRegistration.eraseListener (h : Host) (l : AListener) :
    SameRegistration h (h.eraseListener l) := by
  have hlist : SameRegistration h { h with
      listenerList := h.listenerList.filter (·.id ≠ l.id)
      ambient := h.ambient.destroy l.fde } :=
    ⟨rfl, rfl, rfl, rfl, fun _ => rfl, fun _ => id⟩
  exact hlist.trans (.removeDisconnect _ _ _)

theorem SameRegistration.closeSmartsockets (h : Host) :
    SameRegistration h h.closeSmartsockets := .foldl .eraseListener _ h

theorem SameRegistration.listenerDisconnect (h : Host) (id : ℕ) :
    SameRegistration h (h.listenerDisconnect id) := by
  unfold Host.listenerDisconnect
  split
  · exact .eraseListener h _
  · exact .refl h

theorem SameRegistration.runDisconnects (h : Host) (t : ℕ) :
    SameRegistration h (h.runDisconnects t) :=
  (SameRegistration.foldl .listenerDisconnect _ h).trans
    (.modifyTransport _ t (f := fun x => { x with disconnects := [] }) (fun _ => rfl) fun _ => id)

/-- Going offline has no part in the registration. -/
theorem SameRegistration.handleOffline (h : Host) (t : ℕ) :
    SameRegistration h (h.handleOffline t) := by
  unfold Host.handleOffline
  split
  · exact .refl h
  · exact (((SameRegistration.setConnectionState h t (by simp)).trans
      (.modifyTransport _ t (f := fun x => { x with online := false }) (fun _ => rfl)
        fun _ => id)).trans (.closeAllSockets _ t)).trans (.runDisconnects _ t)

/-! ## Packets, listeners, and sockets -/

theorem parseBannerProp_identity (b : Bool) (x : ATransport) (prop : Bytes) :
    (x.parseBannerProp b prop).identity = x.identity := by
  unfold ATransport.parseBannerProp
  split
  · repeat' split
    all_goals rfl
  · rfl

theorem parseBannerProp_connectionState (b : Bool) (x : ATransport) (prop : Bytes) :
    (x.parseBannerProp b prop).connectionState = x.connectionState := by
  unfold ATransport.parseBannerProp
  split
  · repeat' split
    all_goals rfl
  · rfl

theorem parseBannerProps_identity (b : Bool) (x : ATransport) (banner : Bytes) :
    (x.parseBannerProps b banner).identity = x.identity := by
  unfold ATransport.parseBannerProps
  split
  · exact foldl_keeps ATransport.identity (parseBannerProp_identity b) _ _
  · rfl

theorem parseBannerProps_connectionState (b : Bool) (x : ATransport) (banner : Bytes) :
    (x.parseBannerProps b banner).connectionState = x.connectionState := by
  unfold ATransport.parseBannerProps
  split
  · exact foldl_keeps ATransport.connectionState (parseBannerProp_connectionState b) _ _
  · rfl

/-- No banner puts its transport in the state of an inaccessible device. -/
theorem parseBannerState_ne_noPerm (banner : Bytes) :
    ATransport.parseBannerState banner ≠ .noPerm := by
  unfold ATransport.parseBannerState
  simp only
  repeat' split
  all_goals simp

theorem updateVersion_identity (x : ATransport) (version : ℤ) (payload : ℕ) :
    (x.updateVersion version payload).identity = x.identity := rfl

theorem updateVersion_connectionState (x : ATransport) (version : ℤ) (payload : ℕ) :
    (x.updateVersion version payload).connectionState = x.connectionState := rfl

theorem SameRegistration.parseBanner (h : Host) (t : ℕ) (banner : Bytes) :
    SameRegistration h (h.parseBanner t banner) :=
  (SameRegistration.modifyTransport h t
    (fun x => parseBannerProps_identity h.delayedAckEnabled x banner)
    fun x hn => (parseBannerProps_connectionState h.delayedAckEnabled x banner).symm.trans hn).trans
    (.setConnectionState _ t (parseBannerState_ne_noPerm banner))

theorem SameRegistration.handleOnline (h : Host) (t : ℕ) :
    SameRegistration h (h.handleOnline t) := by
  refine .modifyTransport h t ?_ ?_
  · exact fun _ => rfl
  · exact fun _ => id

theorem SameRegistration.handleNewConnection (h : Host) (t : ℕ) (p : APacket) :
    SameRegistration h (h.handleNewConnection t p) := by
  have hversion := (SameRegistration.handleOffline h t).trans (.modifyTransport _ t
    (fun x => updateVersion_identity x (intOfWord p.msg.arg0) p.msg.arg1.toNat)
    fun x hn => (updateVersion_connectionState x (intOfWord p.msg.arg0)
      p.msg.arg1.toNat).symm.trans hn)
  exact (hversion.trans (.parseBanner _ t p.payload)).trans (.handleOnline _ t)

theorem SameRegistration.handleStls (h : Host) (t : ℕ) : SameRegistration h (h.handleStls t) :=
  ((SameRegistration.modifyTransport h t (f := fun x => { x with useTls := true }) (fun _ => rfl)
    fun _ => id).trans (.emit _ rfl)).trans (.emit _ rfl)

theorem SameRegistration.handleAuth (env : PacketEnv) (h : Host) (t : ℕ) (p : APacket) :
    SameRegistration h (handleAuth env h t p) := by
  unfold Host.handleAuth
  split
  · exact .refl h
  · split
    · have htoken : SameRegistration h (if (h.transports t).connectionState = .authorizing then h
          else h.setConnectionState t .authorizing) := by
        split
        · exact .refl h
        · exact .setConnectionState h t (by simp)
      cases env.authReply with
      | signature => exact htoken.trans (.emit _ rfl)
      | publicKey =>
        exact ((htoken.trans (.emit _ rfl)).trans (.setConnectionState _ t (by simp))).trans
          (.modifyTransport _ t (f := fun x => x.setConnectionEstablished true) (fun _ => rfl)
            fun _ => id)
    · exact (SameRegistration.setConnectionState h t (by simp)).trans (.handleOffline _ t)

theorem SameRegistration.setPeer (h : Host) (s : ASocket) (remote t : ℕ) :
    SameRegistration h (h.setPeer s remote t).2 :=
  (SameRegistration.emit h (e := .setPeer s remote t) rfl).trans
    ⟨rfl, rfl, rfl, rfl, fun _ => rfl, fun _ => id⟩

theorem SameRegistration.newLocalSocket (h : Host) (o : Option ℕ) :
    SameRegistration h (h.newLocalSocket o).2 :=
  ⟨rfl, rfl, rfl, rfl, fun _ => rfl, fun _ => id⟩

theorem SameRegistration.putSocket (h : Host) (s : ASocket) : SameRegistration h (h.putSocket s) :=
  ⟨rfl, rfl, rfl, rfl, fun _ => rfl, fun _ => id⟩

theorem SameRegistration.connectService (h : Host) (t : ℕ) (p : APacket) :
    SameRegistration h (h.connectService t p) := by
  have hput : ∀ s, SameRegistration h (Host.putSocket
      ((h.newLocalSocket (some t)).2.setPeer (h.newLocalSocket (some t)).1 p.msg.arg0.toNat t).2
      s) := fun s => ((SameRegistration.newLocalSocket h _).trans (.setPeer _ _ _ t)).trans
        (.putSocket _ s)
  exact ((hput _).trans (.emit _ rfl)).trans (.emit _ rfl)

theorem SameRegistration.handleOpen (env : PacketEnv) (h : Host) (t : ℕ) (p : APacket) :
    SameRegistration h (handleOpen env h t p) := by
  have hcheck : SameRegistration h (checkReverse env h t p) := by
    unfold checkReverse
    split
    · exact .refl h
    · exact .emit h rfl
  unfold Host.handleOpen
  split
  · exact .refl h
  · split
    · exact .emit h rfl
    · split
      · exact (hcheck.trans (.emit _ rfl)).trans (.connectService _ t p)
      · exact (hcheck.trans (.emit _ rfl)).trans (.emit _ rfl)

theorem SameRegistration.handlePacket (env : PacketEnv) (h : Host) (t : ℕ) (p : APacket) :
    SameRegistration h (handlePacket env h t p) := by
  unfold Host.handlePacket
  cases Command.ofWord p.msg.command with
  | none => exact .emit h rfl
  | some c =>
    cases c with
    | sync => exact .emit h rfl
    | cnxn => exact (SameRegistration.handleNewConnection h t p).trans (.emit _ rfl)
    | stls => exact (SameRegistration.handleStls h t).trans (.emit _ rfl)
    | auth => exact (SameRegistration.handleAuth env h t p).trans (.emit _ rfl)
    | «open» => exact (SameRegistration.handleOpen env h t p).trans (.emit _ rfl)
    | okay =>
      have hokay : ∀ h' ∈ h.handleOkay t p, SameRegistration h h' := by
        intro h' hs
        obtain ⟨s, -, acked, ready, rfl⟩ | ⟨es, hes, rfl⟩ := handleOkay_cases hs
        · exact ((SameRegistration.setPeer h s _ t).trans (.emit _ rfl)).trans (.emit _ rfl)
        · refine .append h fun e he => ?_
          obtain ⟨s, acked, rfl⟩ | ⟨reply, rfl⟩ := hes e he <;> rfl
      cases hs : h.handleOkay t p with
      | none => exact .refl h
      | some h' => exact (hokay h' hs).trans (.emit _ rfl)
    | clse =>
      obtain heq | ⟨s, heq⟩ := handleClse_cases h t p
      · simp only [heq]
        exact .emit h rfl
      · simp only [heq]
        exact (SameRegistration.closeSocket h s).trans (.emit _ rfl)
    | wrte =>
      obtain heq | ⟨s, heq⟩ := handleWrte_cases h t p
      · simp only [heq]
        exact .emit h rfl
      · simp only [heq]
        exact (SameRegistration.emit h rfl).trans (.emit _ rfl)

theorem SameRegistration.installListener (h : Host) (r : InstallRequest) :
    SameRegistration h (h.installListener r).2 := by
  obtain ⟨heq, -⟩ | ⟨l, -, -, -, heq⟩ | ⟨listening, -, heq⟩ := installListener_cases h r
  · rw [heq]
    exact .refl h
  · rw [heq, rebindListener]
    have hlist : SameRegistration h { h with
        listenerList := h.listenerList.map fun a => if a.id = l.id then retarget l r else a } :=
      ⟨rfl, rfl, rfl, rfl, fun _ => rfl, fun _ => id⟩
    split
    · exact hlist
    · exact (hlist.trans (.removeDisconnect _ _ _)).trans (.addDisconnect _ _ _)
  · rw [heq]
    have hlist : SameRegistration h { h with
        ambient := if r.disabled then (h.ambient.install listening.fd).1
          else (h.ambient.install listening.fd).1.set (h.boundListener r listening).fde fdeRead
        listenerList := h.listenerList ++ [h.boundListener r listening]
        nextListener := h.nextListener + 1 } :=
      ⟨rfl, rfl, rfl, rfl, fun _ => rfl, fun _ => id⟩
    exact hlist.trans (.addDisconnect _ _ _)

/-- The other events have no part in the registration. -/
theorem SameRegistration.handle (h : Host) {e : LooperEvent} (he : e.registers = false) :
    SameRegistration h (h.handle e) := by
  cases e with
  | packet t p env => exact .handlePacket env h t p
  | updateReverseConfig t service =>
    exact .modifyTransport h t (f := (·.updateReverseConfig service)) (fun _ => rfl) fun _ => id
  | installListener r => exact .installListener h r
  | removeListener name =>
    obtain heq | ⟨l, -, heq⟩ := removeListener_cases h name
    · simp only [Host.handle, heq]
      exact .refl h
    · simp only [Host.handle, heq]
      exact .eraseListener h l
  | removeAllListeners => exact .foldl .eraseListener _ h
  | enableServerSockets => exact ⟨rfl, rfl, rfl, rfl, fun _ => rfl, fun _ => id⟩
  | acceptListener l => exact .newLocalSocket h _
  | connectClient s t => exact .putSocket h _
  | closeSocket s => exact .closeSocket h s
  | _ => cases he

/-! ## The callbacks of the registration -/

/-- `transport_destroy` stops the connection, and then has the transport tracked or removed. -/
theorem transportDestroy_effects (h : Host) (t : ℕ) : (h.transportDestroy t).connectionEffects =
    h.connectionEffects ++ [.stopConnection t,
      if (h.transports t).isTcpDevice ∧ !(h.transports t).kicked then .trackTransport t
      else .removeTransport t] := by
  unfold transportDestroy
  split
  · rw [connectionEffects_emit, connectionEffects_emit, connectionEffects_emit, List.append_assoc,
      List.append_assoc]
    rfl
  · rw [connectionEffects_emit, connectionEffects_emit, List.append_assoc]
    rfl

theorem transportDestroy_transports (h : Host) (t : ℕ) :
    (h.transportDestroy t).transports = h.transports := by
  unfold transportDestroy
  split <;> rfl

theorem transportDestroy_lists (h : Host) (t : ℕ) : (h.transportDestroy t).live = h.live ∧
    (h.transportDestroy t).transportList = h.transportList := by
  unfold transportDestroy
  split <;> exact ⟨rfl, rfl⟩

/-- What the callback of `HandleError` does to connections. -/
theorem handleError_effects (h : Host) (t : ℕ) : (h.handleError t).connectionEffects =
    h.connectionEffects ++ [.stopConnection t,
      if (h.transports t).isTcpDevice ∧ !(h.transports t).kicked then .trackTransport t
      else .removeTransport t] := by
  have hsame := SameRegistration.handleOffline h t
  have hidentity := hsame.identity t
  simp only [ATransport.identity, Prod.mk.injEq] at hidentity
  rw [handleError, transportDestroy_effects, hsame.effects, hidentity.2.2.1, hidentity.2.2.2]

theorem handleError_identity (h : Host) (t u : ℕ) :
    ((h.handleError t).transports u).identity = (h.transports u).identity := by
  rw [handleError, transportDestroy_transports]
  exact (SameRegistration.handleOffline h t).identity u

theorem handleError_noPerm (h : Host) (t u : ℕ)
    (hn : ((h.handleError t).transports u).connectionState = .noPerm) :
    (h.transports u).connectionState = .noPerm := by
  rw [handleError, transportDestroy_transports] at hn
  exact (SameRegistration.handleOffline h t).noPerm u hn

theorem handleError_live (h : Host) (t : ℕ) : (h.handleError t).live = h.live := by
  rw [handleError, (transportDestroy_lists _ t).1]
  exact (SameRegistration.handleOffline h t).live

theorem handleError_pendingList (h : Host) (t : ℕ) :
    (h.handleError t).pendingList = h.pendingList := by
  have hdestroy : ∀ h : Host, (h.transportDestroy t).pendingList = h.pendingList := by
    intro h
    unfold transportDestroy
    split <;> rfl
  rw [handleError, hdestroy]
  exact (SameRegistration.handleOffline h t).pendingList

theorem handleError_transportList (h : Host) (t : ℕ) :
    (h.handleError t).transportList = h.transportList := by
  rw [handleError, (transportDestroy_lists _ t).2]
  exact (SameRegistration.handleOffline h t).transportList

theorem SameRegistration.sendConnect (h : Host) (t : ℕ) :
    SameRegistration h (h.sendConnect t) := by
  unfold Host.sendConnect checkConnectionString
  split
  · exact (SameRegistration.emit h rfl).trans (.emit _ rfl)
  · exact .emit h rfl

theorem sendConnect_transports (h : Host) (t : ℕ) :
    (h.sendConnect t).transports = h.transports := by
  unfold sendConnect checkConnectionString
  split <;> rfl

/-- Leaving `pending_list` is a change of the two lists. -/
theorem leavePending_spec (h : Host) (t : ℕ) :
    (h.leavePending t).connectionEffects = h.connectionEffects ∧
    (h.leavePending t).live = h.live ∧
    (h.leavePending t).transportList =
      (if t ∈ h.pendingList then t :: h.transportList else h.transportList) ∧
    (h.leavePending t).transports = h.transports := by
  unfold leavePending
  split <;> exact ⟨rfl, rfl, rfl, rfl⟩

theorem leavePending_pendingList (h : Host) (t : ℕ) :
    (h.leavePending t).pendingList = h.pendingList.filter (· ≠ t) := by
  unfold leavePending
  split
  · rfl
  · rename_i hnot
    have hkeep : ∀ u ∈ h.pendingList, decide (u ≠ t) = true := fun u hu =>
      decide_eq_true fun heq => hnot (heq ▸ hu)
    exact (List.filter_eq_self.mpr hkeep).symm

/-- A transport that is registered is pending no more. -/
theorem registerTransport_pendingList (h : Host) {t : ℕ} (startDetached : Bool)
    (htype : (h.transports t).type = .local) (hstate : (h.transports t).connectionState ≠ .noPerm) :
    (h.registerTransport t startDetached).pendingList = h.pendingList.filter (· ≠ t) := by
  have hstart : h.startTransport t startDetached = (h.emit (.startConnection t)).sendConnect t := by
    rw [startTransport, if_neg hstate, if_neg (by simp [htype])]
  have hsame := SameRegistration.sendConnect (h.emit (.startConnection t)) t
  show ((h.startTransport t startDetached).leavePending t).pendingList = _
  rw [leavePending_pendingList, hstart, hsame.pendingList]
  rfl

/-- `fdevent_register_transport` of a socket's transport: it starts the connection, and moves the
transport from `pending_list` to `transport_list` if it is there. -/
theorem registerTransport_spec (h : Host) {t : ℕ} (startDetached : Bool)
    (htype : (h.transports t).type = .local) (hstate : (h.transports t).connectionState ≠ .noPerm) :
    (h.registerTransport t startDetached).connectionEffects =
      h.connectionEffects ++ [.startConnection t] ∧
    (h.registerTransport t startDetached).live = h.live ∧
    (h.registerTransport t startDetached).transportList =
      (if t ∈ h.pendingList then t :: h.transportList else h.transportList) ∧
    (h.registerTransport t startDetached).transports = h.transports := by
  have hstart : h.startTransport t startDetached = (h.emit (.startConnection t)).sendConnect t := by
    rw [startTransport, if_neg hstate, if_neg (by simp [htype])]
  have hsame := SameRegistration.sendConnect (h.emit (.startConnection t)) t
  obtain ⟨heffects, hlive, hlist, htransports⟩ :=
    leavePending_spec ((h.emit (.startConnection t)).sendConnect t) t
  have hlast := SameRegistration.emit
    (((h.emit (.startConnection t)).sendConnect t).leavePending t) (e := .updateTransports) rfl
  rw [registerTransport, hstart]
  refine ⟨?_, ?_, ?_, ?_⟩
  · rw [hlast.effects, heffects, hsame.effects, connectionEffects_emit]
    rfl
  · exact (hlast.live.trans hlive).trans hsame.live
  · rw [hlast.transportList, hlist, hsame.pendingList, hsame.transportList]
    rfl
  · rw [emit_transports, htransports, sendConnect_transports]
    rfl

end Host

end AdbMobile
