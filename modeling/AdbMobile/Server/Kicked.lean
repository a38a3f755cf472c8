import AdbMobile.Server.Custody

/-!
# Kicked transports

A kick sets `kicked_` once, and stops the connection that the transport has at that moment. A
connection that is not started yet is not stopped, and it is started later all the same: between a
reconnection that succeeds and the looper's `fdevent_register_transport` a kick is lost, and it can
never be repeated.

A kick holds when no callback of the looper can bring its transport up again (`KicksHold`). In a run
every kick holds exactly when each finds its transport with no registration queued, and no
reconnection succeeds, while the looper runs, for a transport that was kicked meanwhile
(`kicks_hold_iff`).
-/

namespace AdbMobile

open Run

/-- A step that the looper takes by itself. -/
def ServerAction.OfLooper : ServerAction → Prop
  | .runCallback _ => True
  | _ => False

/-- The loop has ended, and what is queued will be dropped. -/
def LaunchStage.Doomed : LaunchStage → Prop
  | .exited | .stopping | .joining | .stopped | .kicked | .cleared => True
  | _ => False

namespace ServerState

/-- No connection of a kicked transport is started and not stopped. -/
def KickedDown (s : ServerState) : Prop :=
  ∀ t ∈ s.host.live, (s.host.transports t).kicked → ¬ (s.connections t).Running

/-- Whatever the looper runs next of its queue, no kicked transport comes up. -/
def KicksHold (s : ServerState) : Prop :=
  ∀ as : List ServerAction, (∀ a ∈ as, a.OfLooper) → Throughout step KickedDown s as

/-- A kick finds its transport with no registration queued, and a reconnection that succeeds while
the looper runs finds it not kicked. -/
def KickInTime (s : ServerState) : ServerAction → Prop
  | .kick t => .register t ∉ s.runQueue
  | .finish .success _ => s.stage.Looping →
    ∀ attempt ∈ s.handler.thread.attempt, (s.host.transports attempt.transport).kicked = false
  | _ => True

/-- Between the steps of such a run: a transport whose registration is queued, or yet to be queued
by its caller, was not kicked. -/
structure NoneKicked (s : ServerState) : Prop where
  custody : Custody s
  stages : Stages s
  down : KickedDown s
  registers : ¬ s.stage.Doomed → ∀ t, .register t ∈ s.runQueue →
    (s.host.transports t).kicked = false
  callers : ∀ t ∈ s.callers, (s.host.transports t).kicked = false

variable {s s' : ServerState} {t : ℕ} {a : ServerAction}

theorem NoneKicked.initial (delayedAckEnabled : Bool) :
    NoneKicked (initial delayedAckEnabled) where
  custody := .initial _
  stages := .initial _
  down := fun _ ht => absurd ht List.not_mem_nil
  registers := fun _ _ ht => absurd ht List.not_mem_nil
  callers := fun _ ht => absurd ht List.not_mem_nil

/-- A transport whose registration is queued, or that a caller has, is not deleted. -/
theorem Custody.register_live (hI : Custody s) (ht : t ∈ s.callers ∨ .register t ∈ s.runQueue) :
    t ∈ s.host.live := by
  refine hI.mem_live ?_
  rcases ht with ht | ht
  · exact List.mem_append_left _ ht
  · exact List.mem_append_right _ (List.mem_append_left _
      (List.mem_map_of_mem (f := LooperCallback.transport) ht))

/-- A step that kicks no transport, and starts no connection. -/
theorem NoneKicked.of_frame (hN : NoneKicked s) (hI : Custody s') (hS : Stages s')
    (hlive : s'.host.live ⊆ s.host.live)
    (hkicked : ∀ u ∈ s'.host.live,
      (s'.host.transports u).kicked = (s.host.transports u).kicked)
    (hconnections : ∀ u, (s'.connections u).Running → (s.connections u).Running)
    (hregisters : ¬ s'.stage.Doomed → ∀ u, .register u ∈ s'.runQueue →
      (¬ s.stage.Doomed ∧ .register u ∈ s.runQueue) ∨ (s'.host.transports u).kicked = false)
    (hcallers : s'.callers ⊆ s.callers) : NoneKicked s' where
  custody := hI
  stages := hS
  down := fun u hu hk hrunning =>
    hN.down u (hlive hu) (hkicked u hu ▸ hk) (hconnections u hrunning)
  registers := fun hstage u hu => by
    rcases hregisters hstage u hu with ⟨hstage', hu'⟩ | hk
    · rw [hkicked u (hI.register_live (.inr hu))]
      exact hN.registers hstage' u hu'
    · exact hk
  callers := fun u hu => by
    rw [hkicked u (hI.register_live (.inl hu))]
    exact hN.callers u (hcallers hu)

/-- Stopping a connection starts none. -/
theorem running_stopConnection {u : ℕ} (hr : ((s.stopConnection t).connections u).Running) :
    (s.connections u).Running ∧ u ≠ t := by
  by_cases hut : u = t
  · subst hut
    obtain ⟨heq, hstopped⟩ | ⟨-, ⟨-, heq⟩ | ⟨-, heq⟩⟩ := s.stopConnection_cases u
    · rw [heq] at hr
      exact absurd (hstopped hr.1) (by simp [hr.2])
    · simp [heq, setConnection] at hr
    · simp [heq, setConnection, post] at hr
  · exact ⟨stopConnection_connections (s := s) (.inl hut) ▸ hr, hut⟩

/-- A step that leaves the transports and the connections, and queues no registration. -/
theorem NoneKicked.of_queue (hN : NoneKicked s) (hI : Custody s') (hS : Stages s')
    (hhost : s'.host = s.host) (hconnections : s'.connections = s.connections)
    (hcallers : s'.callers = s.callers)
    (hregisters : ¬ s'.stage.Doomed → ∀ u, .register u ∈ s'.runQueue →
      ¬ s.stage.Doomed ∧ .register u ∈ s.runQueue) : NoneKicked s' := by
  refine hN.of_frame hI hS (hhost ▸ fun _ => id) (fun u _ => by rw [hhost])
    (fun u hrunning => hconnections ▸ hrunning) (fun hstage u hu => .inl (hregisters hstage u hu)) ?_
  rw [hcallers]
  exact fun _ => id

/-- A kick leaves its transport down. -/
theorem KickedDown.kick (hd : KickedDown s) (t : ℕ) : KickedDown (s.kick t) := by
  intro u hu hk hrunning
  rw [kick_host] at hu
  by_cases hkicked : (s.host.transports t).kicked
  · rw [ServerState.kick, if_pos hkicked] at hk hrunning
    exact hd u hu hk hrunning
  · rw [ServerState.kick, if_neg hkicked] at hrunning
    obtain ⟨hrunning, hut⟩ := running_stopConnection hrunning
    rw [kick_kicked, if_neg hut] at hk
    exact hd u hu hk hrunning

/-! ## The steps -/

/-- A new transport was not kicked, and its connection is not started. -/
theorem NoneKicked.registerSocket (hN : NoneKicked s) {t : ℕ} {serial : ByteString.Bytes}
    {isTcpDevice : Bool}
    (hs : s.deviceStep (.registerSocket t serial isTcpDevice) = some s') : NoneKicked s' := by
  have hI := (hN.custody.deviceStep hs).1
  have hS := hN.stages.deviceStep hs
  obtain _ | ⟨-, hstep⟩ := deviceStep_inv hs
  · exact hN
  · obtain ⟨-, rfl⟩ := Host.step_eq_some hstep
    have hkicked : ∀ u, ((s.host.quiet.handle (.newTransport t .local serial .offline
        isTcpDevice)).transports u).kicked = if u = t then false else
          (s.host.transports u).kicked := by
      intro u
      split
      · rename_i hut
        simp [Host.handle, hut, ATransport.new]
      · rename_i hut
        simp [Host.handle, Host.modifyTransport_ne _ hut]
    refine ⟨hI, hS, fun u hu hk hrunning => ?_, fun hstage u hu => ?_, fun u hu => ?_⟩
    · by_cases hut : u = t
      · simp [setConnection, hut, Connection.new] at hrunning
      · have hlive : u ∈ s.host.live := (List.mem_cons.mp hu).resolve_left hut
        refine hN.down u hlive (((hkicked u).trans (if_neg hut)) ▸ hk) ?_
        simpa [setConnection, hut] using hrunning
    · refine (hkicked u).trans ?_
      split
      · rfl
      · exact hN.registers hstage u hu
    · refine (hkicked u).trans ?_
      split
      · rfl
      · rename_i hut
        exact hN.callers u ((List.mem_cons.mp hu).resolve_left hut)

theorem NoneKicked.deviceStep (hN : NoneKicked s) (hs : s.deviceStep a = some s') :
    NoneKicked s' := by
  have hI := (hN.custody.deviceStep hs).1
  have hS := hN.stages.deviceStep hs
  cases deviceStep_inv hs with
  | already | registerSocket => exact hN.registerSocket hs
  | @registerTransport t hcaller =>
    refine hN.of_frame hI hS (fun _ => id) (fun _ _ => rfl) (fun _ => id)
      (fun hstage u hu => ?_) List.erase_subset
    rcases List.mem_append.mp hu with hu | hu
    · exact .inl ⟨hstage, hu⟩
    · cases List.mem_singleton.mp hu
      exact .inr (hN.callers t hcaller)
  | @connectionFails t =>
    refine hN.of_frame hI hS (fun _ => id) (fun _ _ => rfl) (fun u hrunning => ?_)
      (fun hstage u hu => .inl ⟨hstage, by simpa [post, setConnection] using hu⟩) fun _ => id
    by_cases hut : u = t
    · simpa [post, setConnection, hut] using hrunning
    · simpa [post, setConnection, hut] using hrunning

/-- The looper's stages are not doomed. -/
theorem not_doomed (hlooping : s.stage.Looping) : ¬ s.stage.Doomed := by
  rcases hlooping with h | h <;>
    · rw [h]
      exact id

/-- A callback that registers a transport brings up one that was not kicked, and the others bring up
none. -/
theorem NoneKicked.runCallback (hN : NoneKicked s) (hlooping : s.stage.Looping) {now : ℕ}
    {c : LooperCallback} {queue : List LooperCallback} (hqueue : s.runQueue = c :: queue)
    (hI : Custody s') (hS : Stages s') (hs : { s with runQueue := queue }.handle c.event now = some s') :
    NoneKicked s' := by
  have hdoomed := not_doomed hlooping
  have hpop := hN.custody.pop hqueue
  have hmem : ∀ u, .register u ∈ queue → .register u ∈ s.runQueue := fun u hu =>
    hqueue ▸ List.mem_cons_of_mem c hu
  cases c with
  | register t =>
    have hnot : (s.host.transports t).kicked = false :=
      hN.registers hdoomed t (hqueue ▸ List.mem_cons_self ..)
    obtain ⟨h, rfl, hlive, htransports, -⟩ := handle_register (hpop.socket t) hs
    have hkicked : ∀ u, (h.transports u).kicked = (s.host.transports u).kicked := fun u => by
      rw [htransports]
    refine ⟨hI, hS, fun u hu hk hrunning => ?_, fun _ u hu => ?_, fun u hu => ?_⟩
    · have hk' : (s.host.transports u).kicked = true := (hkicked u).symm.trans hk
      have hut : u ≠ t := by
        rintro rfl
        rw [hnot] at hk'
        cases hk'
      refine hN.down u (hlive ▸ hu) hk' ?_
      simpa [startConnection, setConnection, hut] using hrunning
    · exact (hkicked u).trans (hN.registers hdoomed u (hmem u hu))
    · exact (hkicked u).trans (hN.callers u hu)
  | unregister t =>
    rw [handle_unregister hs] at hI hS ⊢
    exact hN.of_frame hI hS (fun _ hu => List.mem_of_mem_filter hu) (fun _ _ => rfl) (fun _ => id)
      (fun _ u hu => .inl ⟨hdoomed, hmem u hu⟩) fun _ => id
  | connectionError t =>
    obtain ⟨h, hsame, hidentity, heq⟩ := handle_connectionError hs
    -- The connection is stopped, and what is done with its transport queues no registration.
    obtain ⟨s₁, hs₁, hhost, hconnections, hcallers, hregister⟩ : ∃ s₁ : ServerState,
        s₁ = { s with runQueue := queue, host := h }.stopConnection t ∧
        s'.host = s₁.host ∧ s'.connections = s₁.connections ∧ s'.callers = s₁.callers ∧
        ∀ u, .register u ∈ s'.runQueue → .register u ∈ s₁.runQueue := by
      rw [heq]
      split
      · exact ⟨_, rfl, rfl, rfl, rfl, fun _ => id⟩
      · exact ⟨_, rfl, rfl, rfl, rfl, by simp [carryOut, post]⟩
    obtain ⟨hhost₁, -, hcallers₁, -, -⟩ :=
      stopConnection_frame { s with runQueue := queue, host := h } t
    rw [← hs₁] at hhost₁ hcallers₁
    have hhost' : s'.host = h := hhost.trans hhost₁
    refine hN.of_frame hI hS ?_ (fun u _ => ?_) (fun u hrunning => ?_) (fun _ u hu => ?_) ?_
    · rw [hhost', hsame.live]
      exact fun _ => id
    · rw [hhost']
      exact congrArg (fun i => i.2.2.2) (hidentity u)
    · rw [hconnections, hs₁] at hrunning
      exact (running_stopConnection hrunning).1
    · have hu := hregister u hu
      rw [hs₁, register_mem_stopConnection] at hu
      exact .inl ⟨hdoomed, hmem u hu⟩
    · rw [hcallers, hcallers₁]
      exact fun _ => id

theorem NoneKicked.looperStep (hN : NoneKicked s) (hg : KickInTime s a)
    (hs : s.looperStep a = some s') : NoneKicked s' := by
  have hI := (hN.custody.looperStep hs).1
  have hS := hN.stages.looperStep hs
  obtain ⟨hlooping, hs⟩ := looperStep_inv hs
  have hdoomed := not_doomed hlooping
  cases hs with
  | runCallback hqueue hs => exact hN.runCallback hlooping hqueue hI hS hs
  | event he hs =>
    obtain ⟨h, hsame, hidentity, rfl⟩ := handle_event he hs
    exact hN.of_frame hI hS (hsame.live ▸ fun _ => id)
      (fun u _ => congrArg (fun i => i.2.2.2) (hidentity u)) (fun _ => id)
      (fun _ u hu => .inl ⟨hdoomed, hu⟩) fun _ => id
  | @kick t hlisted =>
    refine ⟨hI, hS, hN.down.kick t, fun _ u hu => ?_, fun u hu => ?_⟩
    · -- The transport of a queued registration is another one.
      rw [register_mem_kick] at hu
      have hut : u ≠ t := by
        rintro rfl
        exact hg hu
      rw [kick_kicked, if_neg hut]
      exact hN.registers hdoomed u hu
    · rw [(s.kick_frame t).2.1] at hu
      have hut : u ≠ t := by
        rintro rfl
        exact hN.custody.unlisted u hu hlisted
      rw [kick_kicked, if_neg hut]
      exact hN.callers u hu

/-- A stage without a thread of the handler is one of a loop that is still to run, or doomed. -/
theorem Stages.looping_of_attempt (hS : Stages s) {attempt : ReconnectAttempt}
    (hthread : s.handler.thread = .reconnecting attempt) (hdoomed : ¬ s.stage.Doomed) :
    s.stage.Looping := by
  have hbusy : ¬ s.handler.thread.Idle := by simp [hthread, HandlerPhase.Idle]
  have hdone : ¬ s.stage.HandlerDone := fun h => hbusy (hS.done h)
  cases hstage : s.stage with
  | looping => exact .inl rfl
  | terminating => exact .inr rfl
  | down | starting | stopped | kicked | cleared => exact absurd (by rw [hstage]; trivial) hdone
  | exited | stopping | joining => exact absurd (by rw [hstage]; trivial) hdoomed

theorem NoneKicked.handlerStep (hN : NoneKicked s) (hg : KickInTime s a)
    (hs : s.handlerStep a = some s') : NoneKicked s' := by
  have hI := (hN.custody.handlerStep hs).1
  have hS := hN.stages.handlerStep hs
  cases handlerStep_inv hs with
  | wakeUp => exact hN.of_queue hI hS rfl rfl rfl fun hstage u hu => ⟨hstage, hu⟩
  | enterWait => exact hN.of_queue hI hS rfl rfl rfl fun hstage u hu => ⟨hstage, hu⟩
  | scan _ _ hr =>
    subst hr
    refine hN.of_queue hI hS rfl rfl rfl fun hstage u hu => ⟨hstage, ?_⟩
    exact (List.mem_append.mp hu).resolve_right (ReconnectHandler.register_not_mem_scan _ _ u)
  | @success now attempt _ hthread hr =>
    subst hr
    refine hN.of_frame hI hS (fun _ => id) (fun _ _ => rfl) (fun u hrunning => ?_)
      (fun hstage u hu => ?_) fun _ => id
    · -- The connection that a reconnection installs is not started.
      by_cases hut : u = attempt.transport
      · simp [post, setConnection, hut, Connection.new] at hrunning
      · simpa [post, setConnection, hut] using hrunning
    · rcases List.mem_append.mp hu with hu | hu
      · exact .inl ⟨hstage, hu⟩
      · -- The transport that is queued was not kicked while the handler was at work on it.
        obtain ⟨-, rfl⟩ := ReconnectHandler.register_mem_finish.mp hu
        have hlooping := hN.stages.looping_of_attempt hthread hstage
        exact .inr (hg hlooping attempt (by rw [hthread]; rfl))
  | failure hresult _ hr =>
    subst hr
    refine hN.of_queue hI hS rfl rfl rfl fun hstage u hu => ⟨hstage, ?_⟩
    exact (List.mem_append.mp hu).resolve_right fun hu =>
      hresult (ReconnectHandler.register_mem_finish.mp hu).1

/-- Kicking the transports of a list sets no other flag. -/
theorem foldl_kick_kicked {u : ℕ} (ts : List ℕ) : ∀ {s : ServerState}, u ∉ ts →
    ((ts.foldl kick s).host.transports u).kicked = (s.host.transports u).kicked := by
  induction ts with
  | nil => exact fun _ => rfl
  | cons t ts ih =>
    intro s hu
    rw [List.mem_cons, not_or] at hu
    rw [List.foldl_cons, ih hu.2, kick_kicked, if_neg hu.1]

/-- What kicking every listed transport leaves: no connection of a kicked one runs, and a caller's
transport, which is not listed, was not kicked. -/
theorem NoneKicked.foldl_kick (hN : NoneKicked s) :
    KickedDown (s.host.transportList.foldl kick s) ∧
    ∀ u ∈ s.callers, ((s.host.transportList.foldl kick s).host.transports u).kicked = false := by
  refine ⟨foldl_kick_induct (P := KickedDown) (fun s₁ t hd => hd.kick t) _ hN.down, fun u hu => ?_⟩
  rw [foldl_kick_kicked _ (hN.custody.unlisted u hu)]
  exact hN.callers u hu

theorem NoneKicked.launchStep (hN : NoneKicked s) (hs : s.launchStep a = some s') :
    NoneKicked s' := by
  have hI := (hN.custody.launchStep hN.stages hs).1
  have hS := hN.stages.launchStep hs
  cases launchStep_inv hs with
  | launch hstage | relaunch hstage | enterLoop hstage =>
    exact hN.of_queue hI hS rfl rfl rfl fun _ u hu => ⟨by rw [hstage]; exact id, hu⟩
  | loopExit | stopNotify | join =>
    exact hN.of_queue hI hS rfl rfl rfl fun hdoomed => (hdoomed trivial).elim
  | stop =>
    have hclose := Host.SameRegistration.closeSmartsockets s.host
    exact hN.of_frame hI hS (hclose.live ▸ fun _ => id)
      (fun u _ => congrArg (fun i => i.2.2.2) (hclose.identity u)) (fun _ => id)
      (fun hdoomed => (hdoomed trivial).elim) fun _ => id
  | kickAll =>
    have hkick := hN.foldl_kick
    refine ⟨hI, hS, hkick.1, fun hdoomed => (hdoomed trivial).elim, ?_⟩
    rw [(foldl_kick_frame s.host.transportList s).2.2.1]
    exact hkick.2
  | clearTransportList _ hk =>
    subst hk
    have hkick := hN.foldl_kick
    refine ⟨hI, hS, hkick.1, fun hdoomed => (hdoomed trivial).elim, ?_⟩
    simp only [(foldl_kick_frame s.host.transportList s).2.2.1]
    exact hkick.2
  | fdeventReset =>
    -- Nothing is queued any more.
    exact hN.of_frame hI hS (fun _ => id) (fun _ _ => rfl) (fun _ => id)
      (fun _ u hu => absurd hu List.not_mem_nil) fun _ => id

/-- A step under the condition starts no connection of a kicked transport, and leaves none to be
started. -/
theorem NoneKicked.step (hN : NoneKicked s) (hg : KickInTime s a) (hs : s.step a = some s') :
    NoneKicked s' := by
  obtain hs | hs | hs | hs := step_cases hs
  · exact hN.deviceStep hs
  · exact hN.looperStep hg hs
  · exact hN.handlerStep hg hs
  · exact hN.launchStep hs

/-- Where no kicked transport's registration is queued, every kick holds. -/
theorem NoneKicked.kicksHold (hN : NoneKicked s) : KicksHold s := by
  intro as has
  have hmeets : Meets ServerState.step KickInTime s as := meets_of_forall fun a ha s₁ => by
    have hlooper := has a ha
    cases a with
    | runCallback now => trivial
    | _ => exact hlooper.elim
  exact (throughout_of_meets (fun _ _ _ hN hg hs => hN.step hg hs) hN hmeets).mono
    fun _ hN => hN.down

/-! ## A lost kick -/

/-- The looper has a callback to run, and runs it. -/
theorem Custody.runCallback_enabled (hI : Custody s) (hlooping : s.stage.Looping)
    {c : LooperCallback} {queue : List LooperCallback} (hqueue : s.runQueue = c :: queue) :
    ∃ s', s.step (.runCallback 0) = some s' ∧
      { s with runQueue := queue }.handle c.event 0 = some s' := by
  have hlive := hI.callback_live hqueue
  have henabled : s.host.Enabled c.event := by
    cases c <;> exact hlive
  have hstep : s.host.step c.event = some (s.host.quiet.handle c.event) := if_pos henabled
  simp only [ServerState.step, ServerState.looperStep, if_pos hlooping, hqueue, ServerState.handle,
    hstep]
  exact ⟨_, rfl, rfl⟩

/-- A callback kicks no transport. -/
theorem Custody.callback_identity (hI : Custody s) {c : LooperCallback}
    (hs : s.handle c.event 0 = some s') (u : ℕ) :
    (s'.host.transports u).identity = (s.host.transports u).identity := by
  cases c with
  | register t =>
    obtain ⟨h, rfl, -, htransports, -⟩ := handle_register (hI.socket t) hs
    exact congrArg (fun f => (f u).identity) htransports
  | unregister t =>
    rw [handle_unregister hs]
    rfl
  | connectionError t =>
    obtain ⟨h, -, hidentity, rfl⟩ := handle_connectionError hs
    rw [carryOut_host, (stopConnection_frame _ _).1]
    exact hidentity u

/-- What holds whatever the looper runs next holds after each of its callbacks. -/
theorem KicksHold.runCallback (hold : KicksHold s) (hs : s.step (.runCallback 0) = some s') :
    KicksHold s' := by
  intro as has
  have hcons : ∀ a ∈ ServerAction.runCallback 0 :: as, a.OfLooper := by
    rintro a (_ | ⟨_, ha⟩)
    · trivial
    · exact has a ha
  exact (hold _ hcons).2 s' hs

/-- A transport that is kicked while its registration is queued comes up. -/
theorem kicked_comes_up (before : List LooperCallback) : ∀ {s : ServerState}
    {behind : List LooperCallback}, Custody s → s.stage.Looping →
      (s.host.transports t).kicked = true → s.runQueue = before ++ .register t :: behind →
        ¬ KicksHold s := by
  induction before with
  | nil =>
    -- The registration is the next callback, and starts the connection.
    intro s behind hI hlooping hkicked hqueue hold
    have hfresh := hI.fresh t (.inr (hqueue ▸ List.mem_cons_self ..))
    have hlive := hI.callback_live hqueue
    obtain ⟨s', hstep, hs⟩ := hI.runCallback_enabled hlooping hqueue
    obtain ⟨h, rfl, hhlive, htransports, -⟩ := handle_register ((hI.pop hqueue).socket t) hs
    have hdown : KickedDown _ := (hold.runCallback hstep) [] (by simp)
    have hrunning : (Function.update s.connections t
        { s.connections t with started := true } t).Running := by
      rw [Function.update_self, hfresh]
      exact ⟨rfl, rfl⟩
    exact hdown t (hhlive ▸ hlive)
      ((congrArg (fun f => (f t).kicked) htransports).trans hkicked) hrunning
  | cons c before ih =>
    -- No callback takes the kick back.
    intro s behind hI hlooping hkicked hqueue hold
    obtain ⟨s', hstep, hs⟩ := hI.runCallback_enabled hlooping hqueue
    obtain ⟨posted, hposted⟩ := handle_runQueue hs
    obtain ⟨-, -, hstage, -⟩ := handle_frame hs
    have hI' := (hI.looperStep (a := .runCallback 0) hstep).1
    have hqueue' : s'.runQueue = before ++ .register t :: (behind ++ posted) := by
      rw [hposted]
      simp
    refine ih hI' ?_ ?_ hqueue' (hold.runCallback hstep)
    · rw [hstage]
      exact hlooping
    · have hidentity := (hI.pop hqueue).callback_identity hs t
      exact (congrArg (fun i => i.2.2.2) hidentity).trans hkicked

/-- A kick that misses the condition is lost. -/
theorem NoneKicked.lost (hN : NoneKicked s) (hg : ¬ KickInTime s a) (hs : s.step a = some s') :
    ¬ KicksHold s' := by
  cases a with
  | kick t =>
    simp only [KickInTime, not_not] at hg
    obtain ⟨hlooping, hs⟩ := looperStep_inv (a := .kick t) hs
    cases hs
    have hqueue : .register t ∈ (s.kick t).runQueue := register_mem_kick.mpr hg
    obtain ⟨before, behind, hsplit⟩ := List.append_of_mem hqueue
    refine kicked_comes_up before (hN.custody.kick t) ?_ ?_ hsplit
    · rw [(s.kick_frame t).2.2.2]
      exact hlooping
    · rw [kick_kicked, if_pos rfl]
  | finish result now =>
    cases result with
    | success =>
      simp only [KickInTime] at hg
      push Not at hg
      obtain ⟨hlooping, attempt, hattempt, hkicked⟩ := hg
      have hI := (hN.custody.handlerStep (a := .finish .success now) hs).1
      cases handlerStep_inv (a := .finish .success now) hs with
      | @success _ attempt' _ hthread hr =>
        subst hr
        have heq : attempt' = attempt := by
          rw [hthread] at hattempt
          exact Option.some.inj hattempt
        subst heq
        have hkicked : (s.host.transports attempt'.transport).kicked = true := by
          simpa using hkicked
        exact kicked_comes_up s.runQueue hI hlooping hkicked rfl
      | failure hresult => exact absurd rfl hresult
    | retry => exact absurd trivial hg
    | abort => exact absurd trivial hg
  | _ => exact absurd trivial hg

instance : DecidablePred KickedDown := fun s => by
  unfold KickedDown
  infer_instance

end ServerState

open ServerState

/-- In a run of the server's threads in which each kick finds its transport with no registration
queued, and no reconnection succeeds while the looper runs for a transport that was kicked
meanwhile, no kicked transport ever has a connection that is started and not stopped. The condition
is exact: a step that misses it leaves a kicked transport that the looper will start. -/
theorem kicks_hold_iff (delayedAckEnabled : Bool) (as : List ServerAction) :
    (Meets ServerState.step KickInTime (.initial delayedAckEnabled) as →
      Throughout ServerState.step KickedDown (.initial delayedAckEnabled) as) ∧
    (Throughout ServerState.step KicksHold (.initial delayedAckEnabled) as ↔
      Meets ServerState.step KickInTime (.initial delayedAckEnabled) as) := by
  have hexact : Throughout ServerState.step KicksHold (.initial delayedAckEnabled) as ↔
      Meets ServerState.step KickInTime (.initial delayedAckEnabled) as :=
    throughout_iff_meets (I := NoneKicked) (fun _ hN => hN.kicksHold)
      (fun _ _ _ hN hg hs => hN.step hg hs) (fun _ _ _ hN hg hs => hN.lost hg hs)
      (NoneKicked.initial _)
  exact ⟨fun hg => (hexact.mpr hg).mono fun _ hold => hold [] (by simp), hexact⟩

/-- A device goes away, is reconnected, and is disconnected before the looper has registered it. -/
def kickBeforeRegister : List ServerAction :=
  [.launch, .enterLoop, .registerSocket 1 (ByteString.lit "192.168.1.5:5555") true,
    .registerTransport 1, .runCallback 0, .connectionFails 1, .runCallback 0, .enterWait, .wakeUp,
    .scan 250, .finish .success 300, .kick 1, .runCallback 300]

/-- It comes up after the kick. -/
theorem kicked_started :
    ¬ ∀ (delayedAckEnabled : Bool) (as : List ServerAction),
      Throughout ServerState.step KickedDown (.initial delayedAckEnabled) as := by
  intro hall
  have hlast := hall false kickBeforeRegister
  revert hlast
  decide +kernel

end AdbMobile
