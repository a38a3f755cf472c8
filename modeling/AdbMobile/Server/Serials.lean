import Mathlib.Data.List.Perm.Subperm
import AdbMobile.Server.Custody

/-!
# One transport per serial

`register_socket_transport` looks for the serial in `pending_list` and in `transport_list`, and puts
the new transport into `pending_list`, all under `transport_lock`. The looper moves the transport to
`transport_list` and later removes it from there, and a relaunch empties both lists.

The two lists are one list in two parts: no serial is in it twice (`one_transport_per_serial`). What
carries this over a run is that a pending transport has had nothing done to it (`Untouched`), so
that the only callback that the looper can have for it is its registration, and nothing that could
delete it is under way.
-/

namespace AdbMobile

open ByteString Run

/-- `validate_transport_list`: no transport of the list has the serial. -/
def Host.validateTransportList (h : Host) (list : List ℕ) (serial : Bytes) : Bool :=
  list.all fun t => serial ≠ (h.transports t).serial

/-- The `errno` with which `register_socket_transport` gives up before it registers. -/
inductive RegistrationError
  /-- That of `init_socket_transport`. -/
  | init (errno : ℕ)
  /-- `EALREADY`. -/
  | already
  deriving DecidableEq, Repr

namespace ServerState

/-- `register_socket_transport` until it lets go of `transport_lock`, with the new transport at a
free address. A transport that is not put into `pending_list` is deleted. -/
def registerSocketTransport (s : ServerState) (t : ℕ) (serial : Bytes) (isTcpDevice : Bool)
    (initErrno : Option ℕ) : Option (Except RegistrationError Unit × ServerState) :=
  match initErrno with
  | some errno => some (.error (.init errno), s)
  | none =>
    if !s.host.validateTransportList s.host.pendingList serial then some (.error .already, s)
    else if !s.host.validateTransportList s.host.transportList serial then
      some (.error .already, s)
    else (s.host.step (.newTransport t .local serial .offline isTcpDevice)).map fun h =>
      (.ok (), { s with host := h, callers := t :: s.callers }.setConnection t .new)

/-- The transport is as its caller put it into `pending_list`: its connection is new, and nothing
but its registration is queued. -/
structure Untouched (s : ServerState) (t : ℕ) : Prop where
  live : t ∈ s.host.live
  fresh : s.connections t = .new
  queue : ∀ c ∈ s.runQueue, c.transport = t → c = .register t
  held : t ∉ s.handler.held

/-- What holds of the two lists between all steps. -/
structure Roster (s : ServerState) : Prop where
  custody : Custody s
  stages : Stages s
  pending : ∀ t ∈ s.host.pendingList, s.Untouched t
  serials : s.serials.Nodup

variable {s s' : ServerState} {t : ℕ} {a : ServerAction}

/-! ## The call -/

theorem mem_serials {serial : Bytes} : serial ∈ s.serials ↔
    ∃ t ∈ s.host.pendingList ++ s.host.transportList, (s.host.transports t).serial = serial :=
  List.mem_map

/-- Both lists are valid for a serial that neither has. -/
theorem validateTransportList_iff {serial : Bytes} :
    (s.host.validateTransportList s.host.pendingList serial = true ∧
      s.host.validateTransportList s.host.transportList serial = true) ↔ serial ∉ s.serials := by
  simp only [Host.validateTransportList, List.all_eq_true, decide_eq_true_eq, mem_serials,
    List.mem_append]
  constructor
  · rintro ⟨hpending, htransport⟩ ⟨t, ht | ht, heq⟩
    · exact hpending t ht heq.symm
    · exact htransport t ht heq.symm
  · exact fun hnot => ⟨fun t ht heq => hnot ⟨t, .inl ht, heq.symm⟩,
      fun t ht heq => hnot ⟨t, .inr ht, heq.symm⟩⟩

/-- The call is the step of its caller, where the socket can be initialized. -/
theorem step_registerSocket (s : ServerState) (t : ℕ) (serial : Bytes) (isTcpDevice : Bool) :
    s.step (.registerSocket t serial isTcpDevice) =
      (s.registerSocketTransport t serial isTcpDevice none).map Prod.snd := by
  have hiff := @validateTransportList_iff s serial
  show (if serial ∈ s.serials then some s else _) = _
  unfold registerSocketTransport
  by_cases hmem : serial ∈ s.serials
  · rw [if_pos hmem]
    by_cases hpending : s.host.validateTransportList s.host.pendingList serial = true
    · have htransport : s.host.validateTransportList s.host.transportList serial = false :=
        Bool.eq_false_iff.mpr fun h => hiff.mp ⟨hpending, h⟩ hmem
      simp [hpending, htransport]
    · simp [hpending]
  · obtain ⟨hpending, htransport⟩ := hiff.mpr hmem
    rw [if_neg hmem]
    simp [hpending, htransport, Function.comp_def]

/-- A call that fails leaves everything as it was. -/
theorem registerSocketTransport_error {serial : Bytes} {isTcpDevice : Bool} {initErrno : Option ℕ}
    {e : RegistrationError}
    (h : s.registerSocketTransport t serial isTcpDevice initErrno = some (.error e, s')) :
    s' = s := by
  unfold registerSocketTransport at h
  split at h
  · cases h
    rfl
  · split at h
    · cases h
      rfl
    · split at h
      · cases h
        rfl
      · obtain ⟨_, -, heq⟩ := Option.map_eq_some_iff.mp h
        cases heq

/-! ## The lists -/

/-- Distinct serials are those of distinct transports. -/
theorem Roster.nodup (hR : Roster s) : (s.host.pendingList ++ s.host.transportList).Nodup :=
  .of_map _ hR.serials

/-- No transport is in both lists. -/
theorem Roster.disjoint (hR : Roster s) (ht : t ∈ s.host.pendingList) :
    t ∉ s.host.transportList := fun hmem =>
  (List.nodup_append.mp hR.nodup).2.2 t ht t hmem rfl

/-- The lists have no new transport, and none has another serial. -/
theorem Roster.of_subset (hR : Roster s) (hI : Custody s') (hS : Stages s')
    (hsub : (s'.host.pendingList ++ s'.host.transportList).Subperm
      (s.host.pendingList ++ s.host.transportList))
    (hserial : ∀ t, (s'.host.transports t).serial = (s.host.transports t).serial)
    (hpending : ∀ t ∈ s'.host.pendingList, s'.Untouched t) : Roster s' := by
  refine ⟨hI, hS, hpending, ?_⟩
  obtain ⟨l, hperm, hsublist⟩ := hsub
  have hnodup : (l.map fun t => (s.host.transports t).serial).Nodup :=
    hR.serials.sublist (hsublist.map _)
  have hsame : s'.serials = (s'.host.pendingList ++ s'.host.transportList).map fun t =>
      (s.host.transports t).serial := by
    simp only [ServerState.serials, hserial]
  rw [hsame]
  exact (hperm.map _).nodup_iff.mp hnodup

/-- The lists are the same. -/
theorem Roster.of_lists (hR : Roster s) (hI : Custody s') (hS : Stages s')
    (hpendingList : s'.host.pendingList = s.host.pendingList)
    (htransportList : s'.host.transportList = s.host.transportList)
    (hserial : ∀ t, (s'.host.transports t).serial = (s.host.transports t).serial)
    (hpending : ∀ t ∈ s.host.pendingList, s'.Untouched t) : Roster s' := by
  refine hR.of_subset hI hS ?_ hserial fun t ht => hpending t (hpendingList ▸ ht)
  rw [hpendingList, htransportList]

/-! ## What leaves a transport untouched -/

/-- A step that is about other transports, and queues nothing but registrations of this one. -/
theorem Untouched.of_frame (hU : s.Untouched t) (hlive : t ∈ s'.host.live)
    (hconnection : s'.connections t = s.connections t)
    (hqueue : ∀ c ∈ s'.runQueue, c ∈ s.runQueue ∨ (c.transport = t → c = .register t))
    (hheld : t ∈ s'.handler.held → t ∈ s.handler.held) : s'.Untouched t where
  live := hlive
  fresh := hconnection.trans hU.fresh
  queue := fun c hc => (hqueue c hc).elim (hU.queue c) id
  held := fun ht => hU.held (hheld ht)

/-- Stopping the connection of another transport. -/
theorem Untouched.stopConnection (hU : s.Untouched t) {u : ℕ} (hne : t ≠ u) :
    (s.stopConnection u).Untouched t := by
  obtain ⟨hhost, hhandler, -⟩ := s.stopConnection_frame u
  refine hU.of_frame (hhost ▸ hU.live) (stopConnection_connections (.inl hne)) (fun c hc => ?_)
    fun ht => hhandler ▸ ht
  obtain ⟨heq, -⟩ | ⟨-, ⟨-, heq⟩ | ⟨-, heq⟩⟩ := s.stopConnection_cases u
  · exact .inl (heq ▸ hc)
  · rw [heq] at hc
    exact .inl hc
  · rw [heq] at hc
    refine (List.mem_append.mp hc).imp_right fun hc ht => ?_
    cases List.mem_singleton.mp hc
    exact absurd ht.symm hne

/-- Kicking another transport. -/
theorem Untouched.kick (hU : s.Untouched t) {u : ℕ} (hne : t ≠ u) : (s.kick u).Untouched t := by
  unfold ServerState.kick
  split
  · exact hU
  · have hflag : { s with host := s.host.handle (.kick u) }.Untouched t :=
      ⟨hU.live, hU.fresh, hU.queue, hU.held⟩
    exact hflag.stopConnection hne

/-- What the handler lets go of is no pending transport. -/
theorem Untouched.letGo (hU : s.Untouched t) {h : ReconnectHandler} {cs : List LooperCallback}
    (hheld : s.handler.held.Perm (h.held ++ cs.map LooperCallback.transport)) :
    ({ s with handler := h }.post cs).Untouched t := by
  have hnot : t ∉ h.held ++ cs.map LooperCallback.transport := fun hmem =>
    hU.held (hheld.mem_iff.mpr hmem)
  rw [List.mem_append, not_or] at hnot
  refine hU.of_frame hU.live rfl (fun c hc => ?_) fun ht => absurd ht hnot.1
  refine (List.mem_append.mp hc).imp_right fun hc heq => ?_
  exact absurd (heq ▸ List.mem_map_of_mem hc) hnot.2

/-! ## The steps of the devices -/

/-- A new transport has a serial that neither list has. -/
theorem Roster.registerSocket (hR : Roster s) {serial : Bytes} {isTcpDevice : Bool}
    (hs : s.deviceStep (.registerSocket t serial isTcpDevice) = some s') : Roster s' := by
  have hI := (hR.custody.deviceStep hs).1
  have hS := hR.stages.deviceStep hs
  obtain _ | ⟨hserial, hstep⟩ := deviceStep_inv hs
  · exact hR
  obtain ⟨⟨hdead, -, -⟩, rfl⟩ := Host.step_eq_some hstep
  have hlists : ∀ u ∈ s.host.pendingList ++ s.host.transportList, u ≠ t := by
    rintro u hu rfl
    obtain hu | hu := List.mem_append.mp hu
    · exact hdead (hR.pending u hu).live
    · exact hdead (hR.custody.listed u hu)
  have htransports : ∀ u, u ≠ t → (Function.update s.host.transports t
      (.new .local serial .offline isTcpDevice) u) = s.host.transports u := fun u hu =>
    Function.update_of_ne hu ..
  have hnone := not_mem_custody (hR.custody.live t hdead)
  refine ⟨hI, hS, fun u hu => ?_, ?_⟩
  · -- Nothing is queued for the new transport, whose address was free.
    obtain rfl | hu := List.mem_cons.mp hu
    · refine ⟨List.mem_cons_self, by simp [setConnection], fun c hc heq => ?_, fun hheld => ?_⟩
      · exact absurd (List.mem_append_right _ (List.mem_append_left _
          (heq ▸ List.mem_map_of_mem hc))) hnone.1
      · exact hnone.1 (List.mem_append_right _ (List.mem_append_right _ hheld))
    · have hut := hlists u (List.mem_append_left _ hu)
      exact (hR.pending u hu).of_frame (List.mem_cons_of_mem _ (hR.pending u hu).live)
        (by simp [setConnection, hut]) (fun c hc => .inl hc) id
  · have hrest : (s.host.pendingList ++ s.host.transportList).map (fun u =>
        (Function.update s.host.transports t
          (.new .local serial .offline isTcpDevice) u).serial) = s.serials :=
      List.map_congr_left fun u hu => congrArg _ (htransports u (hlists u hu))
    show (List.map (fun u => (Function.update s.host.transports t
      (.new .local serial .offline isTcpDevice) u).serial)
        (t :: (s.host.pendingList ++ s.host.transportList))).Nodup
    rw [List.map_cons, hrest, Function.update_self]
    exact List.nodup_cons.mpr ⟨hserial, hR.serials⟩

theorem Roster.deviceStep (hR : Roster s) (hs : s.deviceStep a = some s') : Roster s' := by
  have hI := (hR.custody.deviceStep hs).1
  have hS := hR.stages.deviceStep hs
  cases deviceStep_inv hs with
  | already | registerSocket => exact hR.registerSocket hs
  | registerTransport =>
    refine hR.of_lists hI hS rfl rfl (fun _ => rfl) fun t ht =>
      (hR.pending t ht).of_frame (hR.pending t ht).live rfl (fun c hc => ?_) id
    refine (List.mem_append.mp hc).imp_right fun hc heq => ?_
    rw [List.mem_singleton.mp hc] at heq ⊢
    exact congrArg _ heq
  | @connectionFails u hup =>
    refine hR.of_lists hI hS rfl rfl (fun _ => rfl) fun t ht => ?_
    -- A connection that is up is not that of a pending transport.
    have hne : t ≠ u := by
      rintro rfl
      rw [(hR.pending t ht).fresh] at hup
      cases hup.1
    refine (hR.pending t ht).of_frame (hR.pending t ht).live (by simp [post, setConnection, hne])
      (fun c hc => ?_) id
    refine (List.mem_append.mp hc).imp_right fun hc heq => ?_
    rw [List.mem_singleton.mp hc] at heq
    exact absurd heq.symm hne

/-! ## The steps of the looper -/

/-- A pending transport is untouched without the first callback of the queue, too. -/
theorem Untouched.pop (hU : s.Untouched t) {c : LooperCallback} {queue : List LooperCallback}
    (hqueue : s.runQueue = c :: queue) : { s with runQueue := queue }.Untouched t :=
  hU.of_frame hU.live rfl (fun _ hd => .inl (hqueue ▸ List.mem_cons_of_mem c hd)) id

/-- What `fdevent_register_transport` leaves of `pending_list`. -/
theorem handle_register_pendingList (hsocket : IsSocket (s.host.transports t)) {now : ℕ}
    (hs : s.handle (LooperCallback.register t).event now = some s') :
    s'.host.pendingList = s.host.pendingList.filter (· ≠ t) := by
  obtain ⟨h, hstep, rfl⟩ := Option.map_eq_some_iff.mp hs
  obtain ⟨-, rfl⟩ := Host.step_eq_some hstep
  obtain ⟨heffects, -⟩ :=
    Host.registerTransport_spec s.host.quiet false hsocket.1 hsocket.2
  rw [LooperCallback.event, Host.handle, heffects]
  exact Host.registerTransport_pendingList s.host.quiet false hsocket.1 hsocket.2

/-- The callback of `HandleError` leaves `pending_list`. -/
theorem handle_connectionError_pendingList {now : ℕ}
    (hs : s.handle (LooperCallback.connectionError t).event now = some s') :
    s'.host.pendingList = s.host.pendingList := by
  obtain ⟨h, hstep, rfl⟩ := Option.map_eq_some_iff.mp hs
  obtain ⟨-, rfl⟩ := Host.step_eq_some hstep
  rw [LooperCallback.event, Host.handle, Host.handleError_effects]
  have hhost : ∀ (es : List Effect) (s₁ : ServerState),
      (es.foldl (carryOut now) s₁).host = s₁.host := by
    intro es
    induction es with
    | nil => exact fun s₁ => rfl
    | cons e es ih => exact fun s₁ => (ih _).trans (carryOut_host now s₁ e)
  rw [hhost]
  exact Host.handleError_pendingList s.host.quiet t

/-- A registration moves a pending transport from one list to the other. -/
theorem Roster.register (hR : Roster s) {queue : List LooperCallback} {now : ℕ}
    (hqueue : s.runQueue = .register t :: queue) (hI : Custody s') (hS : Stages s')
    (hs : { s with runQueue := queue }.handle (LooperCallback.register t).event now = some s') :
    Roster s' := by
  have hsocket := hR.custody.socket t
  have hpendingList := handle_register_pendingList
    (s := { s with runQueue := queue }) hsocket hs
  obtain ⟨h, rfl, hlive, htransports, hlist⟩ := handle_register
    (s := { s with runQueue := queue }) hsocket hs
  have hpendingList : h.pendingList = s.host.pendingList.filter (· ≠ t) := hpendingList
  refine hR.of_subset hI hS ?_ (fun u => congrArg (fun f => (f u).serial) htransports)
    fun u hu => ?_
  · -- What is moved is in one list before and in the other after.
    show (h.pendingList ++ h.transportList).Subperm _
    rw [hpendingList, hlist]
    by_cases ht : t ∈ s.host.pendingList
    · rw [if_pos ht]
      refine List.Nodup.subperm ?_ fun u hu => ?_
      · have hmoved : (t :: (s.host.pendingList.filter (· ≠ t) ++ s.host.transportList)).Nodup := by
          refine List.nodup_cons.mpr ⟨fun hmem => ?_,
            hR.nodup.sublist (List.filter_sublist.append_right _)⟩
          obtain hmem | hmem := List.mem_append.mp hmem
          · exact of_decide_eq_true (List.mem_filter.mp hmem).2 rfl
          · exact hR.disjoint ht hmem
        exact List.perm_middle.nodup_iff.mpr hmoved
      · obtain hu | hu := List.mem_append.mp hu
        · exact List.mem_append_left _ (List.mem_of_mem_filter hu)
        · obtain rfl | hu := List.mem_cons.mp hu
          · exact List.mem_append_left _ ht
          · exact List.mem_append_right _ hu
    · rw [if_neg ht]
      exact (List.filter_sublist.append_right _).subperm
  · have hu : u ∈ h.pendingList := hu
    rw [hpendingList] at hu
    obtain ⟨hu, hne⟩ := List.mem_filter.mp hu
    have hne : u ≠ t := of_decide_eq_true hne
    have hU := hR.pending u hu
    exact hU.of_frame (hlive ▸ hU.live) (by simp [startConnection, setConnection, hne])
      (fun c hc => .inl (hqueue ▸ List.mem_cons_of_mem _ hc)) id

/-- A transport that is removed is not pending, so what is deleted is in neither list. -/
theorem Roster.unregister (hR : Roster s) {queue : List LooperCallback} {now : ℕ}
    (hqueue : s.runQueue = .unregister t :: queue) (hI : Custody s') (hS : Stages s')
    (hs : { s with runQueue := queue }.handle (LooperCallback.unregister t).event now = some s') :
    Roster s' := by
  rw [handle_unregister hs] at hI hS ⊢
  refine hR.of_subset hI hS (List.filter_sublist.append_left _).subperm (fun _ => rfl)
    fun u hu => ?_
  have hU := hR.pending u hu
  have hne : u ≠ t := by
    rintro rfl
    cases hU.queue (.unregister u) (hqueue ▸ List.mem_cons_self) rfl
  exact hU.of_frame (List.mem_filter.mpr ⟨hU.live, decide_eq_true hne⟩) rfl
    (fun c hc => .inl (hqueue ▸ List.mem_cons_of_mem _ hc)) id

/-- A connection error is not of a pending transport, either. -/
theorem Roster.connectionError (hR : Roster s) {queue : List LooperCallback} {now : ℕ}
    (hqueue : s.runQueue = .connectionError t :: queue) (hI : Custody s') (hS : Stages s')
    (hs : { s with runQueue := queue }.handle (LooperCallback.connectionError t).event now =
      some s') : Roster s' := by
  have hpendingList := handle_connectionError_pendingList hs
  obtain ⟨h, hsame, hidentity, rfl⟩ := handle_connectionError hs
  have hhost : ∀ e, (carryOut now ({ s with runQueue := queue, host := h }.stopConnection t)
      e).host = h := fun e =>
    (carryOut_host now _ e).trans (stopConnection_frame { s with runQueue := queue, host := h } t).1
  refine hR.of_lists hI hS hpendingList ?_ (fun u => ?_) fun u hu => ?_
  · rw [hhost, hsame.transportList]
  · rw [hhost]
    exact congrArg (fun i => i.2.1) (hidentity u)
  · have hU := hR.pending u hu
    have hne : u ≠ t := by
      rintro rfl
      cases hU.queue (.connectionError u) (hqueue ▸ List.mem_cons_self) rfl
    have htables : { s with runQueue := queue, host := h }.Untouched u :=
      (hU.pop hqueue).of_frame (hsame.live ▸ hU.live) rfl (fun c hc => .inl hc) id
    have hstopped := htables.stopConnection hne
    split
    · refine hstopped.of_frame hstopped.live rfl (fun c hc => .inl hc) fun hheld => ?_
      exact ReconnectHandler.mem_trackTransport_held hheld |>.resolve_left hne
    · refine hstopped.of_frame hstopped.live rfl (fun c hc => ?_) id
      refine (List.mem_append.mp hc).imp_right fun hc heq => ?_
      rw [List.mem_singleton.mp hc] at heq
      exact absurd heq.symm hne

theorem kick_pendingList (s : ServerState) (t : ℕ) :
    (s.kick t).host.pendingList = s.host.pendingList := by
  rw [kick_host]
  rfl

theorem kick_serial (s : ServerState) (t u : ℕ) :
    ((s.kick t).host.transports u).serial = (s.host.transports u).serial := by
  rw [kick_host]
  by_cases hut : u = t
  · simp [hut, Host.handle]
  · simp [Host.handle, Host.modifyTransport_ne _ hut]

/-- Kicking a transport that is not pending. -/
theorem Roster.of_kick (hR : Roster s) {u : ℕ} (hI : Custody (s.kick u)) (hS : Stages (s.kick u))
    (hu : ∀ t ∈ s.host.pendingList, t ≠ u) : Roster (s.kick u) := by
  refine hR.of_lists hI hS (s.kick_pendingList u) (s.kick_transportList u) (s.kick_serial u)
    fun t ht => ?_
  exact (hR.pending t ht).kick (hu t ht)

theorem Roster.looperStep (hR : Roster s) (hs : s.looperStep a = some s') : Roster s' := by
  have hI := (hR.custody.looperStep hs).1
  have hS := hR.stages.looperStep hs
  cases (looperStep_inv hs).2 with
  | @runCallback _ c _ _ hqueue hs =>
    cases c with
    | register t => exact hR.register hqueue hI hS hs
    | unregister t => exact hR.unregister hqueue hI hS hs
    | connectionError t => exact hR.connectionError hqueue hI hS hs
  | event he hs =>
    obtain ⟨h, hstep, rfl⟩ := Option.map_eq_some_iff.mp hs
    obtain ⟨-, rfl⟩ := Host.step_eq_some hstep
    have hsame := Host.SameRegistration.handle s.host.quiet he
    have hnothing : (s.host.quiet.handle _).connectionEffects = [] := hsame.effects
    rw [hnothing] at hI hS ⊢
    exact hR.of_lists hI hS hsame.pendingList hsame.transportList
      (fun t => congrArg (fun i => i.2.1) (hsame.identity t)) fun t ht =>
        (hR.pending t ht).of_frame (hsame.live ▸ (hR.pending t ht).live) rfl
          (fun c hc => .inl hc) id
  | kick hlisted =>
    -- A kick is of a transport in `transport_list`, which is not pending.
    exact hR.of_kick hI hS fun t ht heq => hR.disjoint ht (heq ▸ hlisted)

/-! ## The steps of the handler and of a launch -/

theorem Roster.handlerStep (hR : Roster s) (hs : s.handlerStep a = some s') : Roster s' := by
  have hI := (hR.custody.handlerStep hs).1
  have hS := hR.stages.handlerStep hs
  cases handlerStep_inv hs with
  | wakeUp =>
    exact hR.of_lists hI hS rfl rfl (fun _ => rfl) fun t ht =>
      (hR.pending t ht).of_frame (hR.pending t ht).live rfl (fun c hc => .inl hc)
        fun hheld => ReconnectHandler.notifyOne_held (h := s.handler) ▸ hheld
  | enterWait hthread =>
    exact hR.of_lists hI hS rfl rfl (fun _ => rfl) fun t ht =>
      (hR.pending t ht).of_frame (hR.pending t ht).live rfl (fun c hc => .inl hc)
        fun hheld => ReconnectHandler.enterWait_held hthread ▸ hheld
  | @scan now _ hthread _ hr =>
    subst hr
    exact hR.of_lists hI hS rfl rfl (fun _ => rfl) fun t ht =>
      (hR.pending t ht).letGo (ReconnectHandler.scan_held _ now hthread)
  | @success now attempt _ hthread hr =>
    subst hr
    refine hR.of_lists hI hS rfl rfl (fun _ => rfl) fun t ht => ?_
    -- The transport of the attempt is held, so it is not pending.
    have hattempt : attempt.transport ∈ s.handler.held := by
      simp [ReconnectHandler.held, hthread, HandlerPhase.attempt]
    have hne : t ≠ attempt.transport := fun heq => (hR.pending t ht).held (heq ▸ hattempt)
    have hconnection : (s.setConnection attempt.transport .new).Untouched t :=
      (hR.pending t ht).of_frame (hR.pending t ht).live (by simp [setConnection, hne])
        (fun c hc => .inl hc) id
    exact hconnection.letGo (ReconnectHandler.finish_held .success now hthread
      (hR.custody.attempt_not_queued hthread))
  | @failure result now _ _ _ hthread hr =>
    subst hr
    exact hR.of_lists hI hS rfl rfl (fun _ => rfl) fun t ht =>
      (hR.pending t ht).letGo (ReconnectHandler.finish_held result now hthread
        (hR.custody.attempt_not_queued hthread))

/-- Kicking transports that are not pending, one after the other. -/
theorem Roster.foldl_kick (hR : Roster s) (ts : List ℕ)
    (hts : ∀ t ∈ s.host.pendingList, t ∉ ts) : Roster (ts.foldl ServerState.kick s) := by
  induction ts generalizing s with
  | nil => exact hR
  | cons u ts ih =>
    have hne : ∀ t ∈ s.host.pendingList, t ≠ u := fun t ht heq =>
      hts t ht (heq ▸ List.mem_cons_self)
    refine ih (hR.of_kick (hR.custody.kick u) ?_ hne) fun t ht hmem => ?_
    · exact hR.stages.kick u
    · exact hts t (s.kick_pendingList u ▸ ht) (List.mem_cons_of_mem u hmem)

theorem Roster.launchStep (hR : Roster s) (hs : s.launchStep a = some s') : Roster s' := by
  have hI := (hR.custody.launchStep hR.stages hs).1
  have hS := hR.stages.launchStep hs
  cases launchStep_inv hs with
  | launch | relaunch | loopExit =>
    exact hR.of_lists hI hS rfl rfl (fun _ => rfl) fun t ht =>
      (hR.pending t ht).of_frame (hR.pending t ht).live rfl (fun c hc => .inl hc) id
  | enterLoop =>
    refine hR.of_lists hI hS rfl rfl (fun _ => rfl) fun t ht =>
      (hR.pending t ht).of_frame (hR.pending t ht).live rfl (fun c hc => .inl hc) fun hheld => ?_
    exact hR.stages.enterLoop_held ▸ hheld
  | stop =>
    have hclose := Host.SameRegistration.closeSmartsockets s.host
    exact hR.of_lists hI hS hclose.pendingList hclose.transportList
      (fun t => congrArg (fun i => i.2.1) (hclose.identity t)) fun t ht =>
        (hR.pending t ht).of_frame (hclose.live ▸ (hR.pending t ht).live) rfl
          (fun c hc => .inl hc) id
  | stopNotify =>
    exact hR.of_lists hI hS rfl rfl (fun _ => rfl) fun t ht =>
      (hR.pending t ht).of_frame (hR.pending t ht).live rfl (fun c hc => .inl hc)
        fun hheld => ReconnectHandler.notifyOne_held (h := s.handler) ▸ hheld
  | join _ hreturn =>
    refine hR.of_lists hI hS rfl rfl (fun _ => rfl) fun t ht => ?_
    have hU := (hR.pending t ht).letGo (handlerReturn_drain hreturn)
    exact ⟨hU.live, hU.fresh, hU.queue, hU.held⟩
  | kickAll =>
    have hkicked := hR.foldl_kick s.host.transportList fun t ht hmem => hR.disjoint ht hmem
    exact hkicked.of_lists hI hS rfl rfl (fun _ => rfl) fun t ht =>
      (hkicked.pending t ht).of_frame (hkicked.pending t ht).live rfl (fun c hc => .inl hc) id
  | clearTransportList => exact ⟨hI, hS, fun t ht => absurd ht List.not_mem_nil, List.nodup_nil⟩
  | fdeventReset =>
    exact hR.of_lists hI hS rfl rfl (fun _ => rfl) fun t ht =>
      (hR.pending t ht).of_frame (hR.pending t ht).live rfl
        (fun c hc => absurd hc List.not_mem_nil) id

/-! ## Runs -/

theorem Roster.initial (delayedAckEnabled : Bool) : Roster (initial delayedAckEnabled) :=
  ⟨.initial _, .initial _, fun _ ht => absurd ht List.not_mem_nil, List.nodup_nil⟩

/-- Every step keeps the lists in order. -/
theorem Roster.step (hR : Roster s) (hs : s.step a = some s') : Roster s' := by
  obtain hs | hs | hs | hs := step_cases hs
  · exact hR.deviceStep hs
  · exact hR.looperStep hs
  · exact hR.handlerStep hs
  · exact hR.launchStep hs

/-- No two transports of the lists have one serial, and none is in both lists. -/
def OnePerSerial (s : ServerState) : Prop :=
  s.serials.Nodup ∧ ∀ t ∈ s.host.pendingList, t ∉ s.host.transportList

/-- A step that is a call of `register_socket_transport` leaves the lists where it fails with
`EALREADY`. -/
def AlreadyKeeps (s : ServerState) (a : ServerAction) (s' : ServerState) : Prop :=
  ∀ t serial isTcpDevice, a = .registerSocket t serial isTcpDevice →
    ∃ result, s.registerSocketTransport t serial isTcpDevice none = some (result, s') ∧
      (result = .error .already → s'.host.pendingList = s.host.pendingList ∧
        s'.host.transportList = s.host.transportList)

theorem alreadyKeeps_of_step (hs : s.step a = some s') : AlreadyKeeps s a s' := by
  rintro t serial isTcpDevice rfl
  rw [step_registerSocket] at hs
  obtain ⟨⟨result, s₁⟩, hcall, rfl⟩ := Option.map_eq_some_iff.mp hs
  refine ⟨result, hcall, ?_⟩
  rintro rfl
  show s₁.host.pendingList = s.host.pendingList ∧ s₁.host.transportList = s.host.transportList
  rw [registerSocketTransport_error hcall]
  exact ⟨rfl, rfl⟩

/-- At every moment of a run, whichever threads move and when, there is one transport per serial,
and a registration that comes too late changes nothing. -/
theorem one_transport_per_serial (delayedAckEnabled : Bool) (as : List ServerAction) :
    Throughout ServerState.step OnePerSerial (initial delayedAckEnabled) as ∧
    EachStep ServerState.step AlreadyKeeps (initial delayedAckEnabled) as := by
  have hkeeps : ∀ s a s', Roster s → True → s.step a = some s' → Roster s' := fun _ _ _ hR _ hs =>
    hR.step hs
  have hrun := throughout_of_meets hkeeps (.initial delayedAckEnabled)
    (meets_of_forall (G := fun _ _ => True) fun _ (_ : _ ∈ as) _ => trivial)
  constructor
  · exact hrun.mono fun _ hR => ⟨hR.serials, fun t ht => hR.disjoint ht⟩
  · exact eachStep_of_forall (Q := AlreadyKeeps) fun s a s' hs => alreadyKeeps_of_step hs

end ServerState

end AdbMobile
