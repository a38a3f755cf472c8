import AdbMobile.Server.Looper

/-!
# What the looper's functions leave unchanged

Handling a packet of the transport `t` leaves the other transports as they are, deletes none, and
attaches no socket to another (`ActsOn`). Except for going offline, which erases the listeners over
`t`, it has no part in the listeners (`SameListeners`), so the invariants of the listeners hold
after every packet (`Registry.handlePacket`, `Installed.handlePacket`).
-/

namespace AdbMobile

open ByteString Run

namespace Host

/-- A change of the looper's state on behalf of the transport `t`. -/
structure ActsOn (t : ℕ) (h h' : Host) : Prop where
  live : h'.live = h.live
  others : ∀ u, u ≠ t → h'.transports u = h.transports u
  attached : ∀ u, u ≠ t → h.NoneAttached u → h'.NoneAttached u

variable {h h' : Host} {t : ℕ}

theorem ActsOn.refl (t : ℕ) (h : Host) : ActsOn t h h :=
  ⟨rfl, fun _ _ => rfl, fun _ _ hu => hu⟩

theorem ActsOn.trans {h'' : Host} (h₁ : ActsOn t h h') (h₂ : ActsOn t h' h'') : ActsOn t h h'' :=
  ⟨h₂.live.trans h₁.live, fun u hu => (h₂.others u hu).trans (h₁.others u hu),
    fun u hu hn => h₂.attached u hu (h₁.attached u hu hn)⟩

/-- A function that keeps the transports and adds no socket acts on any transport. -/
theorem ActsOn.of_subset (hlive : h'.live = h.live) (htr : h'.transports = h.transports)
    (hs : h'.localSockets ⊆ h.localSockets) : ActsOn t h h' :=
  ⟨hlive, fun u _ => congrFun htr u, fun _ _ hn s hmem => hn s (hs hmem)⟩

theorem ActsOn.modifyTransport (h : Host) (t : ℕ) (f : ATransport → ATransport) :
    ActsOn t h (h.modifyTransport t f) :=
  ⟨rfl, fun _ hu => modifyTransport_ne h hu f, fun _ _ hn => hn⟩

theorem ActsOn.emit (h : Host) (t : ℕ) (e : Effect) : ActsOn t h (h.emit e) :=
  ⟨rfl, fun _ _ => rfl, fun _ _ hn => hn⟩

theorem ActsOn.setConnectionState (h : Host) (t : ℕ) (state : ConnectionState) :
    ActsOn t h (h.setConnectionState t state) :=
  (ActsOn.modifyTransport h t _).trans (.emit _ t _)

theorem SameListeners.emit (h : Host) (e : Effect) : SameListeners h (h.emit e) :=
  ⟨rfl, rfl, rfl, fun _ => rfl⟩

theorem SameListeners.setConnectionState (h : Host) (t : ℕ) (state : ConnectionState) :
    SameListeners h (h.setConnectionState t state) := by
  refine (SameListeners.modifyTransport h t ?_).trans (.emit _ _)
  exact fun _ => rfl

theorem SameListeners.newLocalSocket (h : Host) (t : Option ℕ) :
    SameListeners h (h.newLocalSocket t).2 :=
  ⟨rfl, rfl, rfl, fun _ => rfl⟩

theorem SameListeners.putSocket (h : Host) (s : ASocket) : SameListeners h (h.putSocket s) :=
  ⟨rfl, rfl, rfl, fun _ => rfl⟩

/-- A new socket of `t` is attached to `t` only. -/
theorem ActsOn.newLocalSocket (h : Host) (t : ℕ) : ActsOn t h (h.newLocalSocket (some t)).2 := by
  refine ⟨rfl, fun _ _ => rfl, fun u hu hn s hs => ?_⟩
  rcases List.mem_append.mp hs with hs | hs
  · exact hn s hs
  · rw [List.mem_singleton.mp hs]
    intro hattached
    exact hu (by simpa [ASocket.AttachedTo, ASocket.transports] using hattached)

/-- Replacing a socket by one with no further transport but `t` attaches none to another. -/
theorem ActsOn.putSocket {s s' : ASocket} (hs : s ∈ h.localSockets)
    (hsub : ∀ u ∈ s'.transports, u = t ∨ u ∈ s.transports) : ActsOn t h (h.putSocket s') := by
  refine ⟨rfl, fun _ _ => rfl, fun u hu hn a ha => ?_⟩
  obtain ⟨b, hb, rfl⟩ := List.mem_map.mp ha
  split
  · intro hattached
    rcases hsub u hattached with rfl | hmem
    · exact hu rfl
    · exact hn s hs hmem
  · exact hn b hb

/-- Setting the peer of a socket of the list attaches it to `t`, besides its own transport. -/
theorem ActsOn.setPeer {s : ASocket} (hs : s ∈ h.localSockets) (remote : ℕ) :
    ActsOn t h (h.setPeer s remote t).2 := by
  refine (ActsOn.emit h t _).trans (.putSocket hs fun u hu => ?_)
  rcases List.mem_append.mp hu with hu | hu
  · exact .inr (List.mem_append_left _ hu)
  · exact .inl (by simpa using hu)

theorem setPeer_mem {s : ASocket} (hs : s ∈ h.localSockets) (remote t : ℕ) :
    (h.setPeer s remote t).1 ∈ (h.setPeer s remote t).2.localSockets :=
  List.mem_map.mpr ⟨s, hs, if_pos rfl⟩

theorem closeSocket_localSockets_subset (h : Host) (s : ASocket) :
    (h.closeSocket s).localSockets ⊆ h.localSockets :=
  fun _ ha => List.mem_of_mem_filter ha

theorem ActsOn.closeSocket (h : Host) (t : ℕ) (s : ASocket) : ActsOn t h (h.closeSocket s) :=
  .of_subset rfl rfl (closeSocket_localSockets_subset h s)

/-- What closing one socket keeps, closing several keeps. -/
theorem foldl_closeSocket_induct {P : Host → Prop} (hP : ∀ h s, P h → P (h.closeSocket s))
    (ss : List ASocket) : ∀ {h : Host}, P h → P (ss.foldl closeSocket h) := by
  induction ss with
  | nil => exact fun hp => hp
  | cons s ss ih => exact fun hp => ih (hP _ s hp)

theorem ActsOn.closeAllSockets (h : Host) (t u : ℕ) : ActsOn u h (h.closeAllSockets t) :=
  foldl_closeSocket_induct (P := ActsOn u h)
    (fun h' s hact => hact.trans (.closeSocket h' u s)) _
    (.refl u h)

theorem SameListeners.closeAllSockets (h : Host) (t : ℕ) :
    SameListeners h (h.closeAllSockets t) :=
  foldl_closeSocket_induct (P := SameListeners h)
    (fun _ _ hsame => hsame.trans ⟨rfl, rfl, rfl, fun _ => rfl⟩) _ (.refl h)

theorem closeAllSockets_transports (h : Host) (t : ℕ) :
    (h.closeAllSockets t).transports = h.transports :=
  foldl_closeSocket_induct (P := fun h' => h'.transports = h.transports) (fun _ _ heq => heq) _ rfl

/-- A socket that is left after several were closed is none of them. -/
theorem id_ne_of_mem_foldl_closeSocket (ss : List ASocket) : ∀ {h : Host},
    ∀ a ∈ (ss.foldl closeSocket h).localSockets, a ∈ h.localSockets ∧ ∀ s ∈ ss, a.id ≠ s.id := by
  induction ss with
  | nil => exact fun a ha => ⟨ha, fun s hs => absurd hs List.not_mem_nil⟩
  | cons s ss ih =>
    intro h a ha
    obtain ⟨hmem, hne⟩ := ih a ha
    obtain ⟨hmem, hs⟩ := List.mem_filter.mp hmem
    exact ⟨hmem, List.forall_mem_cons.mpr ⟨by simpa using hs, hne⟩⟩

/-- After `close_all_sockets` no socket is attached to `t`. -/
theorem closeAllSockets_noneAttached (h : Host) (t : ℕ) : (h.closeAllSockets t).NoneAttached t := by
  intro a ha hattached
  obtain ⟨hmem, hne⟩ := id_ne_of_mem_foldl_closeSocket _ a ha
  exact hne a (List.mem_filter.mpr ⟨hmem, by simpa using hattached⟩) rfl

/-! ## Going offline -/

theorem runDisconnects_localSockets (h : Host) (t : ℕ) :
    (h.runDisconnects t).localSockets = h.localSockets :=
  foldl_keeps Host.localSockets (f := listenerDisconnect)
    (fun h id => by unfold listenerDisconnect; split <;> rfl) _ h

theorem runDisconnects_live (h : Host) (t : ℕ) : (h.runDisconnects t).live = h.live :=
  foldl_keeps Host.live (f := listenerDisconnect)
    (fun h id => by unfold listenerDisconnect; split <;> rfl) _ h

theorem ActsOn.runDisconnects (h : Host) (t : ℕ) : ActsOn t h (h.runDisconnects t) where
  live := runDisconnects_live h t
  others := fun _ hu => runDisconnects_transports_ne h hu
  attached := fun u _ hn => by
    rw [NoneAttached, runDisconnects_localSockets]
    exact hn

/-- `handle_offline` acts on its transport. -/
theorem ActsOn.handleOffline (h : Host) (t : ℕ) : ActsOn t h (h.handleOffline t) := by
  unfold Host.handleOffline
  split
  · exact .refl t h
  · exact (((ActsOn.setConnectionState h t _).trans (.modifyTransport _ t _)).trans
      (.closeAllSockets _ t t)).trans (.runDisconnects _ t)

/-- What `handle_offline` leaves of its transport. -/
theorem handleOffline_transports_same (h : Host) (t : ℕ) :
    (h.handleOffline t).transports t =
      if (h.transports t).connectionState = .offline then h.transports t
      else { h.transports t with connectionState := .offline, online := false, disconnects := [] } := by
  unfold Host.handleOffline
  split
  · rfl
  · rw [runDisconnects_transports_same, closeAllSockets_transports, modifyTransport_same]
    simp [setConnectionState, emit]

/-- `handle_offline` has no part in what is fixed for the process. -/
theorem handleOffline_delayedAckEnabled (h : Host) (t : ℕ) :
    (h.handleOffline t).delayedAckEnabled = h.delayedAckEnabled := by
  unfold Host.handleOffline
  split
  · rfl
  · have hrun : ∀ h : Host, (h.runDisconnects t).delayedAckEnabled = h.delayedAckEnabled := fun h =>
      foldl_keeps Host.delayedAckEnabled (f := listenerDisconnect)
        (fun h id => by unfold listenerDisconnect; split <;> rfl) _ h
    rw [hrun]
    exact foldl_keeps Host.delayedAckEnabled (f := closeSocket) (fun _ _ => rfl) _ _

theorem setConnectionState_transports_same (h : Host) (t : ℕ) (state : ConnectionState) :
    (h.setConnectionState t state).transports t =
      { h.transports t with connectionState := state } :=
  modifyTransport_same h t fun x => { x with connectionState := state }

/-- What `parse_banner` leaves of its transport. -/
theorem parseBanner_transports_same (h : Host) (t : ℕ) (banner : Bytes) :
    (h.parseBanner t banner).transports t =
      { (h.transports t).parseBannerProps h.delayedAckEnabled banner with
        connectionState := ATransport.parseBannerState banner } := by
  rw [Host.parseBanner, setConnectionState_transports_same, modifyTransport_same]

/-- Whatever `handle_offline` does before it runs the disconnects is no change of the listeners. -/
theorem handleOffline_listeners (h : Host) (t : ℕ) :
    h.handleOffline t = h ∨ ∃ h₁, SameListeners h h₁ ∧ h.handleOffline t = h₁.runDisconnects t := by
  unfold handleOffline
  split
  · exact .inl rfl
  · refine .inr ⟨_, ?_, rfl⟩
    refine ((SameListeners.setConnectionState h t _).trans
      (.modifyTransport _ t ?_)).trans (.closeAllSockets _ t)
    exact fun _ => rfl

theorem Registry.handleOffline (hr : Registry h) (t : ℕ) : Registry (h.handleOffline t) := by
  obtain heq | ⟨h₁, hsame, heq⟩ := handleOffline_listeners h t
  · rwa [heq]
  · rw [heq]
    exact (hr.of_same hsame).runDisconnects t

theorem Installed.handleOffline (hi : Installed h) (t : ℕ) : Installed (h.handleOffline t) := by
  obtain heq | ⟨h₁, hsame, heq⟩ := handleOffline_listeners h t
  · rwa [heq]
  · rw [heq]
    exact (hi.of_same hsame).runDisconnects t

/-! ## Packets -/

theorem updateVersion_disconnects (x : ATransport) (version : ℤ) (payload : ℕ) :
    (x.updateVersion version payload).disconnects = x.disconnects := rfl

theorem parseBannerProp_disconnects (b : Bool) (x : ATransport) (prop : Bytes) :
    (x.parseBannerProp b prop).disconnects = x.disconnects := by
  unfold ATransport.parseBannerProp
  split
  · repeat' split
    all_goals rfl
  · rfl

theorem parseBannerProps_disconnects (b : Bool) (x : ATransport) (banner : Bytes) :
    (x.parseBannerProps b banner).disconnects = x.disconnects := by
  unfold ATransport.parseBannerProps
  split
  · exact foldl_keeps ATransport.disconnects (parseBannerProp_disconnects b) _ _
  · rfl

theorem ActsOn.parseBanner (h : Host) (t : ℕ) (banner : Bytes) :
    ActsOn t h (h.parseBanner t banner) :=
  (ActsOn.modifyTransport h t _).trans (.setConnectionState _ t _)

theorem SameListeners.parseBanner (h : Host) (t : ℕ) (banner : Bytes) :
    SameListeners h (h.parseBanner t banner) :=
  (SameListeners.modifyTransport h t fun x => parseBannerProps_disconnects _ x _).trans
    (.setConnectionState _ t _)

theorem ActsOn.handleOnline (h : Host) (t : ℕ) : ActsOn t h (h.handleOnline t) :=
  .modifyTransport h t _

theorem SameListeners.handleOnline (h : Host) (t : ℕ) : SameListeners h (h.handleOnline t) :=
  .modifyTransport h t fun _ => rfl

theorem ActsOn.handleNewConnection (h : Host) (t : ℕ) (p : APacket) :
    ActsOn t h (h.handleNewConnection t p) := by
  have hparse := ((ActsOn.handleOffline h t).trans (.modifyTransport _ t
    (·.updateVersion (intOfWord p.msg.arg0) p.msg.arg1.toNat))).trans (.parseBanner _ t p.payload)
  exact hparse.trans (.handleOnline _ t)

/-- After going offline a new connection has no part in the listeners. -/
theorem SameListeners.handleNewConnection (h : Host) (t : ℕ) (p : APacket) :
    SameListeners (h.handleOffline t) (h.handleNewConnection t p) := by
  have hversion : SameListeners (h.handleOffline t) ((h.handleOffline t).modifyTransport t
      (·.updateVersion (intOfWord p.msg.arg0) p.msg.arg1.toNat)) :=
    .modifyTransport _ t fun x => updateVersion_disconnects x _ _
  have hparse := hversion.trans (.parseBanner _ t p.payload)
  exact hparse.trans (.handleOnline _ t)

/-- The state of a transport after a new connection is the one that its banner names. -/
theorem handleNewConnection_connectionState (h : Host) (t : ℕ) (p : APacket) :
    ((h.handleNewConnection t p).transports t).connectionState =
      ATransport.parseBannerState p.payload := by
  simp [Host.handleNewConnection, handleOnline, parseBanner, setConnectionState, emit,
    ATransport.setConnectionEstablished]

theorem ActsOn.handleStls (h : Host) (t : ℕ) : ActsOn t h (h.handleStls t) :=
  ((ActsOn.modifyTransport h t _).trans (.emit _ t _)).trans (.emit _ t _)

theorem SameListeners.handleStls (h : Host) (t : ℕ) : SameListeners h (h.handleStls t) := by
  refine ((SameListeners.modifyTransport h t ?_).trans (.emit _ _)).trans (.emit _ _)
  exact fun _ => rfl

theorem ActsOn.handleAuth (env : PacketEnv) (h : Host) (t : ℕ) (p : APacket) :
    ActsOn t h (handleAuth env h t p) := by
  unfold Host.handleAuth
  split
  · exact .refl t h
  · split
    · have htoken : ActsOn t h (if (h.transports t).connectionState = .authorizing then h
          else h.setConnectionState t .authorizing) := by
        split
        · exact .refl t h
        · exact .setConnectionState h t _
      cases env.authReply with
      | signature => exact htoken.trans (.emit _ t _)
      | publicKey =>
        exact ((htoken.trans (.emit _ t _)).trans (.setConnectionState _ t _)).trans
          (.modifyTransport _ t _)
    · exact (ActsOn.setConnectionState h t _).trans (.handleOffline _ t)

/-- A refused `A_AUTH` sets the state before `handle_offline`, which therefore returns at once. -/
theorem handleOffline_setConnectionState (h : Host) (t : ℕ) :
    (h.setConnectionState t .offline).handleOffline t = h.setConnectionState t .offline := by
  have hoff : ((h.setConnectionState t .offline).transports t).connectionState = .offline := by
    simp [setConnectionState, emit]
  rw [handleOffline, if_pos hoff]

theorem SameListeners.handleAuth (env : PacketEnv) (h : Host) (t : ℕ) (p : APacket) :
    SameListeners h (handleAuth env h t p) := by
  unfold Host.handleAuth
  split
  · exact .refl h
  · split
    · have htoken : SameListeners h (if (h.transports t).connectionState = .authorizing then h
          else h.setConnectionState t .authorizing) := by
        split
        · exact .refl h
        · exact .setConnectionState h t _
      cases env.authReply with
      | signature => exact htoken.trans (.emit _ _)
      | publicKey =>
        refine ((htoken.trans (.emit _ _)).trans (.setConnectionState _ t _)).trans
          (.modifyTransport _ t ?_)
        exact fun _ => rfl
    · rw [handleOffline_setConnectionState]
      exact .setConnectionState h t _

theorem ActsOn.connectService (h : Host) (t : ℕ) (p : APacket) :
    ActsOn t h (h.connectService t p) := by
  have hnew : (h.newLocalSocket (some t)).1 ∈ (h.newLocalSocket (some t)).2.localSockets :=
    List.mem_append_right _ (List.mem_singleton_self _)
  have hput : ∀ a, ActsOn t h (Host.putSocket
      ((h.newLocalSocket (some t)).2.setPeer (h.newLocalSocket (some t)).1 p.msg.arg0.toNat t).2
      { (((h.newLocalSocket (some t)).2.setPeer
        (h.newLocalSocket (some t)).1 p.msg.arg0.toNat t).1) with availableSendBytes := a }) :=
    fun a => ((ActsOn.newLocalSocket h t).trans (.setPeer hnew p.msg.arg0.toNat)).trans
      (.putSocket (setPeer_mem hnew p.msg.arg0.toNat t) fun u hu => .inr hu)
  exact ((hput _).trans (.emit _ t _)).trans (.emit _ t _)

theorem SameListeners.connectService (h : Host) (t : ℕ) (p : APacket) :
    SameListeners h (h.connectService t p) := by
  have hpeer (h : Host) (s : ASocket) (remote : ℕ) : SameListeners h (h.setPeer s remote t).2 :=
    (SameListeners.emit h _).trans (.putSocket _ _)
  refine SameListeners.trans ?_ (.emit _ _)
  refine SameListeners.trans ?_ (.emit _ _)
  exact ((SameListeners.newLocalSocket h _).trans (hpeer _ _ _)).trans (.putSocket _ _)

theorem ActsOn.handleOpen (env : PacketEnv) (h : Host) (t : ℕ) (p : APacket) :
    ActsOn t h (handleOpen env h t p) := by
  have hcheck : ActsOn t h (checkReverse env h t p) := by
    unfold checkReverse
    split
    · exact .refl t h
    · exact .emit h t _
  unfold Host.handleOpen
  split
  · exact .refl t h
  · split
    · exact .emit h t _
    · split
      · exact (hcheck.trans (.emit _ t _)).trans (.connectService _ t p)
      · exact (hcheck.trans (.emit _ t _)).trans (.emit _ t _)

theorem SameListeners.handleOpen (env : PacketEnv) (h : Host) (t : ℕ) (p : APacket) :
    SameListeners h (handleOpen env h t p) := by
  have hcheck : SameListeners h (checkReverse env h t p) := by
    unfold checkReverse
    split
    · exact .refl h
    · exact .emit h _
  unfold Host.handleOpen
  split
  · exact .refl h
  · split
    · exact .emit h _
    · split
      · exact (hcheck.trans (.emit _ _)).trans (.connectService _ t p)
      · exact (hcheck.trans (.emit _ _)).trans (.emit _ _)

theorem connectService_transports (h : Host) (t : ℕ) (p : APacket) :
    (h.connectService t p).transports = h.transports := rfl

theorem sendClose_transports (h : Host) (localId remote : UInt32) (t : ℕ) :
    (h.sendClose localId remote t).transports = h.transports := rfl

theorem emit_transports (h : Host) (e : Effect) : (h.emit e).transports = h.transports := rfl

/-- An `A_OPEN` changes no transport. -/
theorem handleOpen_transports (env : PacketEnv) (h : Host) (t : ℕ) (p : APacket) :
    (handleOpen env h t p).transports = h.transports := by
  have hcheck : (checkReverse env h t p).transports = h.transports := by
    unfold checkReverse
    split
    · rfl
    · rfl
  unfold Host.handleOpen
  split
  · rfl
  · split
    · rfl
    · split
      · rw [connectService_transports, emit_transports, hcheck]
      · rw [sendClose_transports, emit_transports, hcheck]

/-- The socket that `find_local_socket` returns is in the list. -/
theorem findLocalSocket_mem {localId peer : UInt32} {s : ASocket}
    (hs : h.findLocalSocket localId peer = some s) : s ∈ h.localSockets := by
  unfold findLocalSocket at hs
  cases hf : h.localSockets.find? (·.id = localId.toNat) with
  | none => simp [hf] at hs
  | some a =>
    simp only [hf] at hs
    split at hs
    · cases hs
      exact List.mem_of_find?_eq_some hf
    · cases hs

/-- What an `A_OKAY` does: it sets the peer of a socket of the list, or changes no table at all. -/
theorem handleOkay_cases {p : APacket} (hs : h.handleOkay t p = some h') :
    (∃ s ∈ h.localSockets, ∃ acked ready, h' =
      (((h.setPeer s p.msg.arg0.toNat t).2.emit (.ack ready acked)).emit (.ready ready))) ∨
    ∃ es, (∀ e ∈ es, (∃ s acked, e = .ack s acked) ∨ ∃ reply, e = .sendPacket t reply) ∧
      h' = { h with trace := h.trace ++ es } := by
  unfold handleOkay at hs
  split at hs
  · split at hs
    · rename_i s hfind
      split at hs
      · cases hs
      · split at hs
        · cases hs
          exact .inl ⟨s, findLocalSocket_mem hfind, _, _, rfl⟩
        · split at hs
          · cases hs
            exact .inr ⟨[_], by simp, rfl⟩
          · cases hs
            exact .inr ⟨[], by simp⟩
    · cases hs
      refine .inr ⟨[_], ?_, rfl⟩
      exact fun e he => .inr ⟨_, List.mem_singleton.mp he⟩
  · cases hs
    exact .inr ⟨[], by simp⟩

theorem ActsOn.handleOkay {p : APacket} (hs : h.handleOkay t p = some h') : ActsOn t h h' := by
  obtain ⟨s, hmem, acked, ready, rfl⟩ | ⟨es, -, rfl⟩ := handleOkay_cases hs
  · exact ((ActsOn.setPeer hmem _).trans (.emit _ t _)).trans (.emit _ t _)
  · exact ⟨rfl, fun _ _ => rfl, fun _ _ hn => hn⟩

theorem SameListeners.handleOkay {p : APacket} (hs : h.handleOkay t p = some h') :
    SameListeners h h' := by
  obtain ⟨s, hmem, acked, ready, rfl⟩ | ⟨es, -, rfl⟩ := handleOkay_cases hs
  · exact ⟨rfl, rfl, rfl, fun _ => rfl⟩
  · exact ⟨rfl, rfl, rfl, fun _ => rfl⟩

/-- An `A_OKAY` changes no transport. -/
theorem handleOkay_transports {p : APacket} (hs : h.handleOkay t p = some h') :
    h'.transports = h.transports := by
  obtain ⟨s, hmem, acked, ready, rfl⟩ | ⟨es, -, rfl⟩ := handleOkay_cases hs
  · rfl
  · rfl

/-- What an `A_CLSE` does: it closes a socket or nothing. -/
theorem handleClse_cases (h : Host) (t : ℕ) (p : APacket) :
    h.handleClse t p = h ∨ ∃ s, h.handleClse t p = h.closeSocket s := by
  unfold handleClse
  split
  · split
    · split
      · exact .inl rfl
      · exact .inr ⟨_, rfl⟩
    · exact .inl rfl
  · exact .inl rfl

/-- What an `A_WRTE` does: it writes to a socket or nothing. -/
theorem handleWrte_cases (h : Host) (t : ℕ) (p : APacket) :
    h.handleWrte t p = h ∨ ∃ s, h.handleWrte t p = h.emit (.enqueue s p.payload) := by
  unfold handleWrte
  split
  · split
    · exact .inr ⟨_, rfl⟩
    · exact .inl rfl
  · exact .inl rfl

/-- Handling a packet acts on the transport that it was received on. -/
theorem ActsOn.handlePacket (env : PacketEnv) (h : Host) (t : ℕ) (p : APacket) :
    ActsOn t h (handlePacket env h t p) := by
  unfold Host.handlePacket
  cases Command.ofWord p.msg.command with
  | none => exact .emit h t _
  | some c =>
    cases c with
    | sync => exact .emit h t _
    | cnxn => exact (ActsOn.handleNewConnection h t p).trans (.emit _ t _)
    | stls => exact (ActsOn.handleStls h t).trans (.emit _ t _)
    | auth => exact (ActsOn.handleAuth env h t p).trans (.emit _ t _)
    | «open» => exact (ActsOn.handleOpen env h t p).trans (.emit _ t _)
    | okay =>
      cases hs : h.handleOkay t p with
      | none => exact .refl t h
      | some h' => exact (ActsOn.handleOkay hs).trans (.emit _ t _)
    | clse =>
      obtain heq | ⟨s, heq⟩ := handleClse_cases h t p
      · simp only [heq]
        exact .emit h t _
      · simp only [heq]
        exact (ActsOn.closeSocket h t s).trans (.emit _ t _)
    | wrte =>
      obtain heq | ⟨s, heq⟩ := handleWrte_cases h t p
      · simp only [heq]
        exact .emit h t _
      · simp only [heq]
        exact (ActsOn.emit h t _).trans (.emit _ t _)

/-- A packet has no part in the listeners, unless its transport goes offline first. -/
theorem SameListeners.handlePacket (env : PacketEnv) (h : Host) (t : ℕ) (p : APacket) :
    SameListeners h (handlePacket env h t p) ∨
      SameListeners (h.handleOffline t) (handlePacket env h t p) := by
  unfold Host.handlePacket
  cases Command.ofWord p.msg.command with
  | none => exact .inl (.emit h _)
  | some c =>
    cases c with
    | sync => exact .inl (.emit h _)
    | cnxn => exact .inr ((SameListeners.handleNewConnection h t p).trans (.emit _ _))
    | stls => exact .inl ((SameListeners.handleStls h t).trans (.emit _ _))
    | auth => exact .inl ((SameListeners.handleAuth env h t p).trans (.emit _ _))
    | «open» => exact .inl ((SameListeners.handleOpen env h t p).trans (.emit _ _))
    | okay =>
      cases hs : h.handleOkay t p with
      | none => exact .inl (.refl h)
      | some h' => exact .inl ((SameListeners.handleOkay hs).trans (.emit _ _))
    | clse =>
      obtain heq | ⟨s, heq⟩ := handleClse_cases h t p
      · simp only [heq]
        exact .inl (.emit h _)
      · simp only [heq]
        exact .inl ⟨rfl, rfl, rfl, fun _ => rfl⟩
    | wrte =>
      obtain heq | ⟨s, heq⟩ := handleWrte_cases h t p
      · simp only [heq]
        exact .inl (.emit h _)
      · simp only [heq]
        exact .inl ((SameListeners.emit h _).trans (.emit _ _))

theorem Registry.handlePacket (hr : Registry h) (env : PacketEnv) (t : ℕ) (p : APacket) :
    Registry (handlePacket env h t p) := by
  obtain hsame | hsame := SameListeners.handlePacket env h t p
  · exact hr.of_same hsame
  · exact (hr.handleOffline t).of_same hsame

theorem Installed.handlePacket (hi : Installed h) (env : PacketEnv) (t : ℕ) (p : APacket) :
    Installed (handlePacket env h t p) := by
  obtain hsame | hsame := SameListeners.handlePacket env h t p
  · exact hi.of_same hsame
  · exact (hi.handleOffline t).of_same hsame

/-! ## The other events -/

theorem ActsOn.handleError (h : Host) (t : ℕ) : ActsOn t h (h.handleError t) := by
  refine (ActsOn.handleOffline h t).trans ?_
  unfold Host.handleError transportDestroy
  split
  · exact ((ActsOn.emit _ t _).trans (.emit _ t _)).trans (.emit _ t _)
  · exact (ActsOn.emit _ t _).trans (.emit _ t _)

theorem SameListeners.handleError (h : Host) (t : ℕ) :
    SameListeners (h.handleOffline t) (h.handleError t) := by
  unfold Host.handleError transportDestroy
  split
  · exact ((SameListeners.emit _ _).trans (.emit _ _)).trans (.emit _ _)
  · exact (SameListeners.emit _ _).trans (.emit _ _)

theorem ActsOn.registerTransport (h : Host) (t : ℕ) (startDetached : Bool) :
    ActsOn t h (h.registerTransport t startDetached) := by
  have hconnect : ∀ h : Host, ActsOn t h (h.sendConnect t) := by
    intro h
    unfold sendConnect checkConnectionString
    split
    · exact (ActsOn.emit h t _).trans (.emit _ t _)
    · exact .emit h t _
  have hstart : ActsOn t h (h.startTransport t startDetached) := by
    unfold startTransport
    split
    · exact .refl t h
    · split
      · exact .setConnectionState h t _
      · exact (ActsOn.emit h t _).trans (hconnect _)
  have hleave : ∀ h : Host, ActsOn t h (h.leavePending t) := by
    intro h
    unfold leavePending
    split
    · exact ⟨rfl, fun _ _ => rfl, fun _ _ hn => hn⟩
    · exact .refl t h
  exact (hstart.trans (hleave _)).trans (.emit _ t _)

theorem SameListeners.registerTransport (h : Host) (t : ℕ) (startDetached : Bool) :
    SameListeners h (h.registerTransport t startDetached) := by
  have hstart : SameListeners h (h.startTransport t startDetached) := by
    unfold startTransport
    split
    · exact .refl h
    · split
      · exact .setConnectionState h t _
      · unfold sendConnect checkConnectionString
        split
        · exact ⟨rfl, rfl, rfl, fun _ => rfl⟩
        · exact ⟨rfl, rfl, rfl, fun _ => rfl⟩
  have hleave : ∀ h : Host, SameListeners h (h.leavePending t) := by
    intro h
    unfold leavePending
    split
    · exact ⟨rfl, rfl, rfl, fun _ => rfl⟩
    · exact .refl h
  exact (hstart.trans (hleave _)).trans (.emit _ _)

/-- The listeners that are smart sockets are part of the list. -/
theorem Registry.closeSmartsockets (hr : Registry h) : Registry h.closeSmartsockets :=
  (foldl_eraseListener_induct (P := fun _ => True) (fun _ _ _ _ _ => trivial) hr trivial
    List.filter_sublist).1

/-- The listeners that `remove_all_listeners` erases are part of the list. -/
theorem Registry.removeAllListeners (hr : Registry h) : Registry h.removeAllListeners :=
  (foldl_eraseListener_induct (P := fun _ => True) (fun _ _ _ _ _ => trivial) hr trivial
    List.filter_sublist).1

/-- Every event keeps the registry. -/
theorem Registry.handle (hr : Registry h) {e : LooperEvent} (he : h.Enabled e) :
    Registry (h.handle e) := by
  cases e with
  | packet t p env => exact hr.handlePacket env t p
  | updateReverseConfig t service =>
    exact hr.of_same (.modifyTransport h t (f := (·.updateReverseConfig service)) fun _ => rfl)
  | installListener r => exact hr.installListener r
  | removeListener name =>
    obtain heq | ⟨l, hl, heq⟩ := removeListener_cases h name
    · simp only [Host.handle, heq]
      exact hr
    · simp only [Host.handle, heq]
      exact hr.eraseListener hl
  | removeAllListeners => exact hr.removeAllListeners
  | enableServerSockets => exact ⟨hr.nodup, hr.lt_next, hr.registered⟩
  | acceptListener l => exact hr.of_same ⟨rfl, rfl, rfl, fun _ => rfl⟩
  | connectClient s t => exact hr.of_same ⟨rfl, rfl, rfl, fun _ => rfl⟩
  | closeSocket s => exact hr.of_same ⟨rfl, rfl, rfl, fun _ => rfl⟩
  | connectionError t => exact (hr.handleOffline t).of_same (.handleError h t)
  | kick t =>
    exact hr.of_same (.modifyTransport h t (f := fun x => { x with kicked := true }) fun _ => rfl)
  | newTransport t type serial state isTcpDevice =>
    -- No listener is for a transport that was not live.
    refine ⟨hr.nodup, hr.lt_next, fun id u => ?_⟩
    by_cases hu : u = t
    · subst hu
      simp only [Host.handle, modifyTransport_same, ATransport.new, List.not_mem_nil, false_iff]
      rintro ⟨l, hl, -, ht⟩
      exact he.2.2 l hl ht
    · simp only [Host.handle, modifyTransport_ne h hu]
      exact hr.registered id u
  | registerTransport t startDetached => exact hr.of_same (.registerTransport h t startDetached)
  | unregisterTransport t => exact hr.of_same ⟨rfl, rfl, rfl, fun _ => rfl⟩
  | relaunch =>
    have hclose := hr.closeSmartsockets
    refine ⟨hclose.nodup, hclose.lt_next, fun id u => ?_⟩
    refine Iff.trans ?_ (hclose.registered id u)
    simp only [Host.handle, Host.relaunch]
    split
    · rfl
    · rfl

/-- The registry is in order when the server starts. -/
theorem Registry.initial (delayedAckEnabled : Bool) :
    Registry (Host.initial delayedAckEnabled) where
  nodup := List.nodup_nil
  lt_next := fun _ hl => absurd hl List.not_mem_nil
  registered := fun _ _ => ⟨fun hid => absurd hid List.not_mem_nil,
    fun ⟨_, hl, _⟩ => absurd hl List.not_mem_nil⟩

end Host

end AdbMobile
