import AdbMobile.Server.Frame

/-!
# Offline transports

`handle_offline` sets the state of a transport, clears `online`, closes the attached sockets, and
runs the disconnects, but returns at once when the state is offline already. A refused `A_AUTH` sets
the state first and calls it then, so it detaches nothing.

A packet that is queued behind a connection error brings the transport online again, and the
transport is then deleted as it is.

In a run from the start of the server every transport that is offline is detached, and no listener
is left with a transport that is deleted, exactly when every refused `A_AUTH` finds its transport
detached, or offline already, and every transport is deleted offline, or without a disconnect
(`offline_detached_iff`).
-/

namespace AdbMobile

open ByteString Run Host

namespace Host

/-- The transport is not online, no socket is attached to it, and no disconnect is left. -/
def Detached (h : Host) (t : ℕ) : Prop :=
  (h.transports t).online = false ∧ h.NoneAttached t ∧ (h.transports t).disconnects = []

instance (h : Host) (t : ℕ) : Decidable (h.Detached t) := by
  unfold Detached
  infer_instance

/-- If the transport's state is offline, it is detached. -/
def OfflineDetached (h : Host) (t : ℕ) : Prop :=
  (h.transports t).connectionState = .offline → h.Detached t

instance (h : Host) (t : ℕ) : Decidable (h.OfflineDetached t) := by
  unfold OfflineDetached
  infer_instance

end Host

/-- Every transport that is offline is detached. -/
def OfflineAllDetached (h : Host) : Prop := ∀ t ∈ h.live, h.OfflineDetached t

instance : DecidablePred OfflineAllDetached := fun h =>
  inferInstanceAs (Decidable (∀ t ∈ h.live, h.OfflineDetached t))

/-- When a transport is deleted, no listener has it. -/
def DeletesWithoutListener (_ : Host) : LooperEvent → Host → Prop
  | .unregisterTransport t, h' => ∀ l ∈ h'.listenerList, l.transport ≠ some t
  | _, _ => True

/-- An `A_AUTH` that the host refuses: outside TLS, and no token. -/
def Refused (x : ATransport) (p : APacket) : Prop :=
  Command.ofWord p.msg.command = some .auth ∧ x.useTls = false ∧ p.msg.arg0 ≠ adbAuthToken

/-- A refused `A_AUTH` finds its transport offline or detached, and a transport that is deleted is
offline, or has no disconnect. -/
def RefusedWhenDetached (h : Host) : LooperEvent → Prop
  | .packet t p _ => Refused (h.transports t) p →
      (h.transports t).connectionState = .offline ∨ h.Detached t
  | .unregisterTransport t =>
    (h.transports t).connectionState = .offline ∨ (h.transports t).disconnects = []
  | _ => True

namespace Host

variable {h h' : Host} {t u : ℕ}

/-- What acts on `t` leaves another transport as detached as it was, as long as it adds nothing to
its disconnects. -/
theorem OfflineDetached.of_actsOn (hu : h.OfflineDetached u) (hact : ActsOn t h h') (hne : u ≠ t) :
    h'.OfflineDetached u := by
  unfold OfflineDetached Detached at hu ⊢
  rw [hact.others u hne]
  exact fun hoff => ⟨(hu hoff).1, hact.attached u hne (hu hoff).2.1, (hu hoff).2.2⟩

/-- Nothing is asked of a transport that is not offline. -/
theorem OfflineDetached.of_ne (hstate : (h.transports t).connectionState ≠ .offline) :
    h.OfflineDetached t := fun hoff => absurd hoff hstate

/-- A change that keeps the state and the flag of a transport, and adds no disconnect to it and
attaches no socket. -/
theorem OfflineDetached.mono (ht : h.OfflineDetached t)
    (hstate : (h'.transports t).connectionState = (h.transports t).connectionState)
    (honline : (h'.transports t).online = (h.transports t).online)
    (hdisc : (h.transports t).disconnects = [] → (h'.transports t).disconnects = [])
    (hatt : h.NoneAttached t → h'.NoneAttached t) : h'.OfflineDetached t := by
  unfold OfflineDetached Detached at ht ⊢
  rw [hstate, honline]
  exact fun hoff => ⟨(ht hoff).1, hatt (ht hoff).2.1, hdisc (ht hoff).2.2⟩

/-- After `handle_offline` the transport is detached, if it was where it was offline. -/
theorem handleOffline_detached (ht : h.OfflineDetached t) : (h.handleOffline t).Detached t := by
  unfold handleOffline
  split
  · rename_i hoff
    exact ht hoff
  · refine ⟨?_, ?_, ?_⟩
    · rw [runDisconnects_transports_same, closeAllSockets_transports]
      simp
    · rw [NoneAttached, runDisconnects_localSockets]
      exact closeAllSockets_noneAttached _ t
    · rw [runDisconnects_transports_same]

/-- A transport that is online is not offline. -/
theorem OfflineDetached.ne_of_online (ht : h.OfflineDetached t)
    (honline : (h.transports t).online = true) : (h.transports t).connectionState ≠ .offline := by
  intro hoff
  simp [(ht hoff).1] at honline

/-- No banner names the offline state. -/
theorem parseBannerState_ne_offline (banner : Bytes) :
    ATransport.parseBannerState banner ≠ .offline := by
  unfold ATransport.parseBannerState
  dsimp only
  repeat' split
  all_goals decide

/-- An `A_AUTH` leaves its transport detached where it is offline, if a refused one finds it so. -/
theorem OfflineDetached.handleAuth (ht : h.OfflineDetached t) {env : PacketEnv} {p : APacket}
    (hg : (h.transports t).useTls = false → p.msg.arg0 ≠ adbAuthToken →
      (h.transports t).connectionState = .offline ∨ h.Detached t) :
    (Host.handleAuth env h t p).OfflineDetached t := by
  unfold Host.handleAuth
  split
  · exact ht
  · rename_i htls
    split
    · -- A token is answered: the transport is authorizing or unauthorized.
      have htoken : ((if (h.transports t).connectionState = .authorizing then h
          else h.setConnectionState t .authorizing).transports t).connectionState =
          .authorizing := by
        split
        · assumption
        · simp [setConnectionState, emit]
      cases env.authReply with
      | signature =>
        apply OfflineDetached.of_ne
        simp only [emit_transports]
        rw [htoken]
        simp
      | publicKey =>
        apply OfflineDetached.of_ne
        simp [setConnectionState, emit, ATransport.setConnectionEstablished]
    · rename_i hrefused
      rw [handleOffline_setConnectionState]
      have hdet : h.Detached t := by
        rcases hg (by simpa using htls) hrefused with hoff | hdet
        · exact ht hoff
        · exact hdet
      intro _
      exact ⟨by simpa [setConnectionState, emit] using hdet.1, hdet.2.1,
        by simpa [setConnectionState, emit] using hdet.2.2⟩

/-- A packet leaves its own transport detached where it is offline. -/
theorem OfflineDetached.handlePacket (ht : h.OfflineDetached t) {env : PacketEnv} {p : APacket}
    (hg : Refused (h.transports t) p →
      (h.transports t).connectionState = .offline ∨ h.Detached t) :
    (Host.handlePacket env h t p).OfflineDetached t := by
  unfold Host.handlePacket
  cases hc : Command.ofWord p.msg.command with
  | none => exact ht
  | some c =>
    cases c with
    | sync => exact ht
    | cnxn =>
      apply OfflineDetached.of_ne
      simp only [emit_transports, handleNewConnection_connectionState]
      exact parseBannerState_ne_offline _
    | stls =>
      refine ht.mono ?_ ?_ ?_ id
      all_goals simp [handleStls, sendTlsRequest, sendPacket, emit]
    | auth => exact ht.handleAuth fun htls harg => hg ⟨hc, htls, harg⟩
    | «open» =>
      by_cases honline : (h.transports t).online = true
      · apply OfflineDetached.of_ne
        simp only [emit_transports, handleOpen_transports]
        exact ht.ne_of_online honline
      · have hskip : handleOpen env h t p = h := by simp [handleOpen, honline]
        simp only [hskip]
        exact ht
    | okay =>
      cases hs : h.handleOkay t p with
      | none => exact ht
      | some h' =>
        by_cases honline : (h.transports t).online = true
        · apply OfflineDetached.of_ne
          simp only [emit_transports, handleOkay_transports hs]
          exact ht.ne_of_online honline
        · have hskip : h.handleOkay t p = some h := by simp [handleOkay, honline]
          rw [hskip] at hs
          cases hs
          exact ht
    | clse =>
      obtain heq | ⟨s, heq⟩ := handleClse_cases h t p
      · simp only [heq]
        exact ht
      · simp only [heq]
        exact ht.mono rfl rfl id fun hn a ha =>
          hn a (closeSocket_localSockets_subset h s ha)
    | wrte =>
      obtain heq | ⟨s, heq⟩ := handleWrte_cases h t p
      · simp only [heq]
        exact ht
      · simp only [heq]
        exact ht

/-- Changing a transport but not its state, flag or disconnects. -/
theorem OfflineDetached.modifyTransport (hu : h.OfflineDetached u) (t : ℕ)
    {f : ATransport → ATransport} (hstate : ∀ x, (f x).connectionState = x.connectionState)
    (honline : ∀ x, (f x).online = x.online) (hdisc : ∀ x, (f x).disconnects = x.disconnects) :
    (h.modifyTransport t f).OfflineDetached u := by
  by_cases hut : u = t
  · subst hut
    refine hu.mono ?_ ?_ ?_ id
    · rw [modifyTransport_same, hstate]
    · rw [modifyTransport_same, honline]
    · rw [modifyTransport_same, hdisc]
      exact id
  · exact hu.of_actsOn (.modifyTransport h t f) hut

/-- Erasing a listener attaches nothing. -/
theorem OfflineDetached.eraseListener (hu : h.OfflineDetached u) (l : AListener) :
    (h.eraseListener l).OfflineDetached u := by
  refine hu.mono ?_ ?_ ?_ id
  · simp only [Host.eraseListener, removeDisconnect, ATransport.removeDisconnect]
    split <;> rfl
  · simp only [Host.eraseListener, removeDisconnect, ATransport.removeDisconnect]
    split <;> rfl
  · rw [eraseListener_disconnects]
    intro hnil
    split <;> simp [hnil]

/-- Erasing listeners attaches nothing. -/
theorem OfflineDetached.foldl_eraseListener (ls : List AListener) :
    ∀ {h : Host}, h.OfflineDetached u → (ls.foldl Host.eraseListener h).OfflineDetached u := by
  induction ls with
  | nil => exact fun hu => hu
  | cons l ls ih => exact fun hu => ih (hu.eraseListener l)

/-- `install_listener` changes no transport but its disconnects, and no socket. -/
theorem installListener_frame (h : Host) (r : InstallRequest) (u : ℕ) :
    ((h.installListener r).2.transports u).connectionState = (h.transports u).connectionState ∧
    ((h.installListener r).2.transports u).online = (h.transports u).online ∧
    (h.installListener r).2.localSockets = h.localSockets ∧
    (h.installListener r).2.live = h.live := by
  have hadd : ∀ (h : Host) (o : Option ℕ) (id : ℕ),
      ((h.addDisconnect o id).transports u).connectionState = (h.transports u).connectionState ∧
      ((h.addDisconnect o id).transports u).online = (h.transports u).online := by
    intro h o id
    simp only [addDisconnect, ATransport.addDisconnect]
    split <;> exact ⟨rfl, rfl⟩
  have hremove : ∀ (h : Host) (o : Option ℕ) (id : ℕ),
      ((h.removeDisconnect o id).transports u).connectionState =
        (h.transports u).connectionState ∧
      ((h.removeDisconnect o id).transports u).online = (h.transports u).online := by
    intro h o id
    simp only [removeDisconnect, ATransport.removeDisconnect]
    split <;> exact ⟨rfl, rfl⟩
  obtain ⟨heq, -⟩ | ⟨l, -, -, -, heq⟩ | ⟨listening, -, heq⟩ := installListener_cases h r
  · rw [heq]
    exact ⟨rfl, rfl, rfl, rfl⟩
  · rw [heq, rebindListener]
    split
    · exact ⟨rfl, rfl, rfl, rfl⟩
    · exact ⟨(hadd _ _ _).1.trans (hremove _ _ _).1, (hadd _ _ _).2.trans (hremove _ _ _).2,
        rfl, rfl⟩
  · rw [heq, bindListener]
    exact ⟨(hadd _ _ _).1, (hadd _ _ _).2, rfl, rfl⟩

/-- Installing a listener adds to the disconnects of its own transport only. -/
theorem installListener_disconnects (hr : Registry h) {r : InstallRequest}
    (hu : r.transport ≠ some u) (hnil : (h.transports u).disconnects = []) :
    ((h.installListener r).2.transports u).disconnects = [] := by
  obtain ⟨heq, -⟩ | ⟨l, hl, -, -, heq⟩ | ⟨listening, -, heq⟩ := installListener_cases h r
  · rwa [heq]
  · rw [heq, List.eq_nil_iff_forall_not_mem]
    intro id hid
    rcases (mem_rebindListener_disconnects hr hl r id u).mp hid with ⟨-, ht⟩ | ⟨-, hid⟩
    · exact hu ht
    · simp [hnil] at hid
  · rw [heq, bindListener, addDisconnect_disconnects, if_neg hu]
    exact hnil

/-- A listener is installed over a transport that is not offline. -/
theorem OfflineDetached.installListener (hu : h.OfflineDetached u) (hr : Registry h)
    {r : InstallRequest} (hallowed : h.InstallAllowed r) :
    (h.installListener r).2.OfflineDetached u := by
  obtain ⟨hstate, honline, hsockets, -⟩ := installListener_frame h r u
  by_cases htr : r.transport = some u
  · apply OfflineDetached.of_ne
    rw [hstate]
    intro hoff
    simp only [InstallAllowed, htr] at hallowed
    rcases hallowed with ⟨-, hacq⟩ | ⟨-, hatt⟩
    · simp [hoff, ConnectionState.isAcquirable] at hacq
    · exact hatt (hu hoff).2.1
  · refine hu.mono hstate honline (installListener_disconnects hr htr) ?_
    rw [NoneAttached, NoneAttached, hsockets]
    exact id

/-- A connection on a listener attaches a socket to a transport that is not offline. -/
theorem OfflineDetached.acceptListener (hu : h.OfflineDetached u) (hr : Registry h)
    {l : AListener} (hl : l ∈ h.listenerList) :
    (h.newLocalSocket l.transport).2.OfflineDetached u := by
  by_cases htr : l.transport = some u
  · apply OfflineDetached.of_ne
    intro hoff
    have hmem := (hr.mem_disconnects_iff hl u).mpr htr
    rw [(hu hoff).2.2] at hmem
    exact absurd hmem List.not_mem_nil
  · refine hu.mono rfl rfl id fun hn s hs => ?_
    rcases List.mem_append.mp hs with hs | hs
    · exact hn s hs
    · rw [List.mem_singleton.mp hs]
      simpa [ASocket.AttachedTo, ASocket.transports] using htr

/-- Registering a transport changes its state at most, and not to offline. -/
theorem OfflineDetached.registerTransport (hu : h.OfflineDetached u) (t : ℕ)
    (startDetached : Bool) : (h.registerTransport t startDetached).OfflineDetached u := by
  have hleave : ∀ h : Host, h.OfflineDetached u → (h.leavePending t).OfflineDetached u := by
    intro h hu
    unfold leavePending
    split
    · exact hu
    · exact hu
  refine hleave _ ?_
  unfold startTransport
  split
  · exact hu
  · split
    · by_cases hut : u = t
      · apply OfflineDetached.of_ne
        simp [hut, setConnectionState, emit]
      · exact hu.of_actsOn (.setConnectionState h t _) hut
    · unfold sendConnect checkConnectionString
      split
      · exact hu
      · exact hu

/-- The error of a connection detaches its transport. -/
theorem OfflineDetached.handleError (ht : h.OfflineDetached t) :
    (h.handleError t).OfflineDetached t := by
  intro _
  have hdet := handleOffline_detached ht
  unfold Host.handleError transportDestroy
  split
  · exact hdet
  · exact hdet

/-- The transports that are live after an event were live before it, or are new. -/
theorem handle_live (h : Host) {e : LooperEvent} {u : ℕ} (hu : u ∈ (h.handle e).live) :
    u ∈ h.live ∨ ∃ type serial state isTcp, e = .newTransport u type serial state isTcp := by
  have hfold : ∀ ls : List AListener, (ls.foldl Host.eraseListener h).live = h.live := fun ls =>
    foldl_keeps Host.live (f := Host.eraseListener) (fun _ _ => rfl) ls h
  cases e with
  | packet t p env => exact .inl ((ActsOn.handlePacket env h t p).live ▸ hu)
  | installListener r => exact .inl ((installListener_frame h r 0).2.2.2 ▸ hu)
  | removeListener name =>
    obtain heq | ⟨l, -, heq⟩ := removeListener_cases h name
    · simp only [handle, heq] at hu
      exact .inl hu
    · simp only [handle, heq] at hu
      exact .inl hu
  | removeAllListeners => exact .inl (hfold _ ▸ hu)
  | connectionError t => exact .inl ((ActsOn.handleError h t).live ▸ hu)
  | registerTransport t startDetached =>
    exact .inl ((ActsOn.registerTransport h t startDetached).live ▸ hu)
  | relaunch => exact .inl (hfold _ ▸ hu)
  | unregisterTransport t => exact .inl (List.mem_of_mem_filter hu)
  | newTransport t type serial state isTcp =>
    rcases List.mem_cons.mp hu with rfl | hu
    · exact .inr ⟨type, serial, state, isTcp, rfl⟩
    · exact .inl hu
  | _ => exact .inl hu

/-- Every event leaves a live transport detached where it is offline, if a refused `A_AUTH` finds it
so. -/
theorem OfflineDetached.handle (hr : Registry h) {e : LooperEvent} (he : h.Enabled e)
    (hg : RefusedWhenDetached h e) (hu : h.OfflineDetached u) :
    (h.handle e).OfflineDetached u := by
  cases e with
  | packet t p env =>
    by_cases hut : u = t
    · subst hut
      exact hu.handlePacket hg
    · exact hu.of_actsOn (.handlePacket env h t p) hut
  | updateReverseConfig t service =>
    exact hu.modifyTransport t (f := (·.updateReverseConfig service)) (fun _ => rfl)
      (fun _ => rfl) fun _ => rfl
  | installListener r => exact hu.installListener hr he.1
  | removeListener name =>
    obtain heq | ⟨l, -, heq⟩ := removeListener_cases h name
    · simp only [Host.handle, heq]
      exact hu
    · simp only [Host.handle, heq]
      exact hu.eraseListener l
  | removeAllListeners => exact hu.foldl_eraseListener _
  | enableServerSockets => exact hu
  | acceptListener l => exact hu.acceptListener hr he.1
  | connectClient s t =>
    obtain ⟨hs, hnone, -, hacq⟩ := he
    by_cases hut : u = t
    · subst hut
      apply OfflineDetached.of_ne
      intro hoff
      simp only [Host.handle, putSocket] at hoff
      simp [hoff, ConnectionState.isAcquirable] at hacq
    · refine hu.of_actsOn (ActsOn.putSocket (t := t) hs fun v hv => ?_) hut
      have hpeer : s.peer.bind Peer.transport = none := by
        simpa [ASocket.transports] using (List.append_eq_nil_iff.mp hnone).2
      exact .inl (by simpa [ASocket.transports, hpeer] using hv)
  | closeSocket s =>
    exact hu.mono rfl rfl id fun hn a ha => hn a (closeSocket_localSockets_subset h s ha)
  | connectionError t =>
    by_cases hut : u = t
    · subst hut
      exact hu.handleError
    · exact hu.of_actsOn (.handleError h t) hut
  | kick t =>
    exact hu.modifyTransport t (f := fun x => { x with kicked := true }) (fun _ => rfl)
      (fun _ => rfl) fun _ => rfl
  | newTransport t type serial state isTcp =>
    by_cases hut : u = t
    · subst hut
      intro _
      exact ⟨by simp [Host.handle, ATransport.new], he.2.1, by simp [Host.handle, ATransport.new]⟩
    · have hnew : (h.modifyTransport t fun _ => .new type serial state isTcp).OfflineDetached u :=
        hu.of_actsOn (.modifyTransport h t _) hut
      exact hnew
  | registerTransport t startDetached => exact hu.registerTransport t startDetached
  | unregisterTransport t => exact hu
  | relaunch =>
    have hclose : h.closeSmartsockets.OfflineDetached u := hu.foldl_eraseListener _
    refine hclose.mono ?_ ?_ ?_ id
    all_goals
      simp only [Host.handle, relaunch]
      split <;> simp

end Host

/-- What holds between the steps of the looper: offline transports are detached, and the registry of
listeners is in order. -/
def DetachedInvariant (h : Host) : Prop := OfflineAllDetached h ∧ Registry h

/-- One step keeps the invariant, under the condition. -/
theorem DetachedInvariant.step {h h' : Host} {e : LooperEvent} (hI : DetachedInvariant h)
    (hg : RefusedWhenDetached h e) (hs : h.step e = some h') : DetachedInvariant h' := by
  obtain ⟨hen, rfl⟩ := step_eq_some hs
  have hr : Registry h.quiet := hI.2.of_same ⟨rfl, rfl, rfl, fun _ => rfl⟩
  have hen' : h.quiet.Enabled e := by cases e <;> exact hen
  have hg' : RefusedWhenDetached h.quiet e := by cases e <;> exact hg
  refine ⟨fun u hu => ?_, hr.handle hen'⟩
  obtain hu | ⟨type, serial, state, isTcp, rfl⟩ := handle_live h.quiet hu
  · exact OfflineDetached.handle hr hen' hg' (hI.1 u hu)
  · intro _
    exact ⟨by simp [Host.handle, ATransport.new], hen'.2.1,
      by simp [Host.handle, ATransport.new]⟩

/-- A step that misses the condition leaves an offline transport that is not detached, or a listener
with a deleted transport. -/
theorem DetachedInvariant.breaks {h h' : Host} {e : LooperEvent} (hI : DetachedInvariant h)
    (hg : ¬ RefusedWhenDetached h e) (hs : h.step e = some h') :
    ¬ (OfflineAllDetached h' ∧ DeletesWithoutListener h e h') := by
  obtain ⟨hen, rfl⟩ := step_eq_some hs
  rintro ⟨hP, hQ⟩
  cases e with
  | packet t p env =>
    simp only [RefusedWhenDetached, not_forall, not_or] at hg
    obtain ⟨⟨hc, htls, harg⟩, -, hdet⟩ := hg
    have hlive : t ∈ (h.quiet.handle (.packet t p env)).live := by
      rw [show (h.quiet.handle (.packet t p env)).live = h.live from
        (ActsOn.handlePacket env h.quiet t p).live]
      exact hen
    have hstate : h.quiet.handle (.packet t p env) =
        (h.quiet.setConnectionState t .offline).emit .putApacket := by
      have hauth : handleAuth env h.quiet t p = h.quiet.setConnectionState t .offline := by
        rw [handleAuth, if_neg (by simp [htls]), if_neg harg, handleOffline_setConnectionState]
      simp only [Host.handle, handlePacket, hc, hauth]
    have hoff := hP t hlive
    rw [hstate] at hoff
    have hdet' := hoff (by simp [setConnectionState, emit])
    exact hdet ⟨by simpa [setConnectionState, emit] using hdet'.1, hdet'.2.1,
      by simpa [setConnectionState, emit] using hdet'.2.2⟩
  | unregisterTransport t =>
    obtain ⟨id, hid⟩ := List.exists_mem_of_ne_nil _ fun hnone => hg (.inr hnone)
    obtain ⟨l, hl, -, ht⟩ := (hI.2.registered id t).mp hid
    exact hQ l hl ht
  | _ => exact hg trivial

/-- In every run from the start of the server, every transport that is offline is detached
throughout, and no listener is left with a transport that is deleted, exactly when every refused
`A_AUTH` finds its transport offline already or with nothing to detach, and every transport that is
deleted is offline or has no disconnect. -/
theorem offline_detached_iff (delayedAckEnabled : Bool) (es : List LooperEvent) :
    (Throughout Host.step OfflineAllDetached (Host.initial delayedAckEnabled) es ∧
      EachStep Host.step DeletesWithoutListener (Host.initial delayedAckEnabled) es) ↔
    Meets Host.step RefusedWhenDetached (Host.initial delayedAckEnabled) es := by
  refine throughout_and_eachStep_iff_meets (I := DetachedInvariant) (fun h hI => hI.1)
    (fun h e h' hI hg hs => ⟨hI.step hg hs, ?_⟩) (fun h e h' hI hg hs => hI.breaks hg hs)
    ⟨fun _ ht => absurd ht List.not_mem_nil, Registry.initial _⟩
  obtain ⟨hen, rfl⟩ := step_eq_some hs
  cases e with
  | unregisterTransport t =>
    have hnone : (h.transports t).disconnects = [] := by
      rcases hg with hoff | hnone
      · exact (hI.1 t hen hoff).2.2
      · exact hnone
    intro l hl ht
    have hmem := (hI.2.mem_disconnects_iff hl t).mpr ht
    rw [hnone] at hmem
    exact absurd hmem List.not_mem_nil
  | _ => trivial

/-- A device that is online with a forward sends an `A_AUTH` that is refused. -/
def refusedWhileOnline : List LooperEvent :=
  [.newTransport 1 .local (lit "dev") .offline true,
    .registerTransport 1 false,
    .packet 1 ⟨⟨Command.cnxn.word, 0x01000001, 0x100000, 8, 0, 0⟩, lit "device::"⟩
      ⟨false, .signature, []⟩,
    .packet 1 ⟨⟨Command.auth.word, 7, 0, 0, 0, 0⟩, []⟩ ⟨false, .signature, []⟩]

/-- Its state is offline then, and it is online as before. -/
theorem offline_not_detached :
    ¬ ∀ (delayedAckEnabled : Bool) (es : List LooperEvent),
      Throughout Host.step OfflineAllDetached (Host.initial delayedAckEnabled) es ∧
        EachStep Host.step DeletesWithoutListener (Host.initial delayedAckEnabled) es := by
  intro hall
  have hlast := (hall false refusedWhileOnline).1
  revert hlast
  decide +kernel

end AdbMobile
