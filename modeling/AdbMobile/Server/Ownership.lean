import AdbMobile.Server.Serials

/-!
# Owners of transports

`fdevent_unregister_transport` deletes a transport while the lists of transports, the looper's queue,
the reconnect handler and the threads of connections hold pointers to transports, and nothing counts
them. A pointer is good as long as what holds it is the owner of its transport: a transport has one
owner at a time, the callback that deletes it is the last one, and a list has a transport only as
long as that has not been deleted (`Owned`). The pointers of listeners, and of packets on the
looper's queue, are others, and may outlive their transport.

Nor does anybody look for a transport that nobody has. Until the server is cleaned up there is none.
After that one is forgotten where a connection error finds the handler stopped, and where
`fdevent_reset` finds its registration, its removal or its connection error queued, and no transport
is forgotten otherwise (`transports_owned`).
-/

namespace AdbMobile

open Run

namespace ServerState

/-- What `pending_list`, `transport_list`, a caller, the reconnect handler and the looper's queue of
registrations, removals and connection errors have, and what has a connection with threads. -/
def Refers (s : ServerState) (t : ℕ) : Prop :=
  t ∈ s.host.pendingList ∨ t ∈ s.host.transportList ∨ t ∈ s.custody ∨ (s.connections t).Up

/-- None of these refers to a transport that is deleted, and no transport has two owners. -/
structure Owned (s : ServerState) : Prop where
  live : ∀ t, s.Refers t → t ∈ s.host.live
  one : ∀ t, s.tokens t ≤ 1

/-- Every transport that is not deleted has an owner. -/
def NoneForgotten (s : ServerState) : Prop := ∀ t ∈ s.host.live, s.tokens t = 1

/-- The step takes its owner from the transport: it is tracked by a handler that does not run, or
its registration, removal or connection error is dropped. -/
def Forgets (s : ServerState) (a : ServerAction) (t : ℕ) : Prop :=
  Loses s a t ∨ (a = .fdeventReset ∧ t ∈ s.runQueue.map LooperCallback.transport)

/-- The step forgets no transport. -/
def Remembers (s : ServerState) (a : ServerAction) : Prop := ∀ t, ¬ Forgets s a t

/-- What a step does to the owners of the transports that it leaves: a new transport has one, any
other one keeps its own, unless it is forgotten. -/
structure HandsOn (s : ServerState) (a : ServerAction) (s' : ServerState) : Prop where
  new : ∀ t ∈ s'.host.live, t ∉ s.host.live → s'.tokens t = 1
  kept : ∀ t ∈ s'.host.live, t ∈ s.host.live → ¬ Forgets s a t → s'.tokens t = s.tokens t
  forgotten : ∀ t, Forgets s a t → t ∈ s'.host.live ∧ s'.tokens t = 0

variable {s s' : ServerState} {t : ℕ} {a : ServerAction}

/-! ## Steps -/

/-- Where custody is in order and the lists are, nothing refers to what is deleted. -/
theorem Roster.owned (hR : Roster s) : Owned s where
  live t ht := by
    obtain ht | ht | ht | ht := ht
    · exact (hR.pending t ht).live
    · exact hR.custody.listed t ht
    · exact hR.custody.mem_live ht
    · by_contra hdead
      exact (not_mem_custody (hR.custody.live t hdead)).2 ht
  one := hR.custody.tokens_le

/-- Only a callback and the reset of the context forget a transport. -/
theorem remembers_of_ne (hcallback : ∀ now, a ≠ .runCallback now) (hreset : a ≠ .fdeventReset) :
    Remembers s a := by
  rintro t (⟨now, -, rfl, -⟩ | ⟨rfl, -⟩)
  · exact hcallback now rfl
  · exact hreset rfl

/-- A callback other than that of a connection error forgets none. -/
theorem remembers_of_callback {now : ℕ} {c : LooperCallback} {queue : List LooperCallback}
    (hqueue : s.runQueue = c :: queue) (hc : ∀ t, c ≠ .connectionError t) :
    Remembers s (.runCallback now) := by
  rintro t (⟨_, _, -, hhead, -⟩ | ⟨heq, -⟩)
  · exact hc t (List.cons.inj (hqueue.symm.trans hhead)).1
  · cases heq

/-- A step that neither adds nor deletes a transport, and forgets none. -/
theorem HandsOn.of_tokens (ha : Remembers s a) (hlive : s'.host.live = s.host.live)
    (htokens : ∀ t, s'.tokens t = s.tokens t) : HandsOn s a s' where
  new _ ht hnot := absurd (hlive ▸ ht) hnot
  kept t _ _ _ := htokens t
  forgotten t ht := absurd ht (ha t)

theorem HandsOn.deviceStep (hI : Custody s) (hs : s.deviceStep a = some s') : HandsOn s a s' := by
  cases deviceStep_inv hs with
  | already => exact .of_tokens (remembers_of_ne (by simp) (by simp)) rfl fun _ => rfl
  | @registerSocket t serial isTcpDevice _ _ hstep =>
    obtain ⟨hI', htokens⟩ := hI.registerSocket hstep
    obtain ⟨-, rfl⟩ := Host.step_eq_some hstep
    have hremembers : Remembers s (.registerSocket t serial isTcpDevice) :=
      remembers_of_ne (by simp) (by simp)
    refine ⟨fun u hu hnew => ?_, fun u _ hu _ => htokens u hu, fun u hu =>
      absurd hu (hremembers u)⟩
    -- The new transport has its caller.
    obtain rfl : u = t := (List.mem_cons.mp hu).resolve_right hnew
    have hle := hI'.tokens_le u
    have hpos := tokens_pos_of_mem (t := u) (s := { s with
      host := s.host.quiet.handle (.newTransport u .local serial .offline isTcpDevice)
      callers := u :: s.callers }.setConnection u .new) List.mem_cons_self
    omega
  | registerTransport hcaller =>
    exact .of_tokens (remembers_of_ne (by simp) (by simp)) rfl (hI.registerTransport hcaller).2
  | connectionFails hup =>
    exact .of_tokens (remembers_of_ne (by simp) (by simp)) rfl (tokens_fail hup rfl)

theorem HandsOn.looperStep (hI : Custody s) (hs : s.looperStep a = some s') : HandsOn s a s' := by
  cases (looperStep_inv hs).2 with
  | @runCallback now c queue _ hqueue hs =>
    cases c with
    | register t =>
      obtain ⟨-, htokens⟩ := hI.register hqueue hs
      obtain ⟨h, rfl, hlive, -, -⟩ := handle_register ((hI.pop hqueue).socket t) hs
      exact .of_tokens (remembers_of_callback hqueue (by simp)) hlive htokens
    | unregister t =>
      -- The owner of the transport goes with it.
      have htokens := hI.tokens_pop hqueue
      rw [handle_unregister hs]
      refine ⟨fun u hu hnew => absurd (List.mem_of_mem_filter hu) hnew, fun u hu _ _ => ?_,
        fun u hu => absurd hu (remembers_of_callback hqueue (by simp) u)⟩
      have hne : u ≠ t := of_decide_eq_true (List.mem_filter.mp hu).2
      exact (htokens u).trans (if_neg hne)
    | connectionError t =>
      obtain ⟨-, htokens⟩ := hI.connectionError hqueue hs
      obtain ⟨h, hsame, -, rfl⟩ := handle_connectionError hs
      have hlive : (carryOut now ({ s with runQueue := queue, host := h }.stopConnection t)
          (if (s.host.transports t).isTcpDevice ∧ !(s.host.transports t).kicked then
            .trackTransport t else .removeTransport t)).host.live = s.host.live := by
        rw [carryOut_host, (stopConnection_frame _ _).1]
        exact hsame.live
      refine ⟨fun u hu hnew => absurd (hlive ▸ hu) hnew, fun u _ _ hnot => ?_, fun u hu => ?_⟩
      · rw [htokens, if_neg]
        rintro ⟨rfl, hloses⟩
        exact hnot (.inl ⟨now, queue, rfl, hqueue, hloses⟩)
      · obtain ⟨_, _, -, hhead, hloses⟩ | ⟨heq, -⟩ := hu
        · obtain rfl : t = u := by
            simpa using (List.cons.inj (hqueue.symm.trans hhead)).1
          rw [hlive, htokens, if_pos ⟨rfl, hloses⟩]
          exact ⟨hI.callback_live hqueue, rfl⟩
        · cases heq
  | event he hs =>
    obtain ⟨h, hsame, -, rfl⟩ := handle_event he hs
    exact .of_tokens (remembers_of_ne (by simp) (by simp)) hsame.live fun _ => rfl
  | @kick t =>
    refine .of_tokens (remembers_of_ne (by simp) (by simp)) ?_ (tokens_kick s t)
    rw [kick_host]
    rfl

/-- The handler's thread passes on what it lets go of. -/
theorem HandsOn.handlerStep (hI : Custody s) (hs : s.handlerStep a = some s') : HandsOn s a s' := by
  cases handlerStep_inv hs with
  | wakeUp =>
    exact .of_tokens (remembers_of_ne (by simp) (by simp)) rfl
      (hI.holdSame (ReconnectHandler.notifyOne_held (h := s.handler))).2
  | enterWait hthread =>
    exact .of_tokens (remembers_of_ne (by simp) (by simp)) rfl
      (hI.holdSame (ReconnectHandler.enterWait_held hthread)).2
  | @scan now _ hthread _ hr =>
    subst hr
    exact .of_tokens (remembers_of_ne (by simp) (by simp)) rfl (hI.letGo (ReconnectHandler.scan_held
      (fun t => (s.host.transports t).kicked) now hthread)
      fun u hu => absurd hu (ReconnectHandler.register_not_mem_scan _ _ u)).2
  | @success now _ _ hthread hr =>
    subst hr
    have hheld := ReconnectHandler.finish_held .success now hthread (hI.attempt_not_queued hthread)
    obtain ⟨hI₁, htokens₁⟩ := hI.reconnected hthread
    obtain ⟨-, htokens⟩ := hI₁.letGo hheld fun u hu => by
      rw [(ReconnectHandler.register_mem_finish.mp hu).2]
      simp [setConnection]
    exact .of_tokens (remembers_of_ne (by simp) (by simp)) rfl fun u =>
      (htokens u).trans (htokens₁ u)
  | @failure result now _ _ hresult hthread hr =>
    subst hr
    have hheld := ReconnectHandler.finish_held result now hthread (hI.attempt_not_queued hthread)
    exact .of_tokens (remembers_of_ne (by simp) (by simp)) rfl (hI.letGo hheld fun u hu =>
      absurd (ReconnectHandler.register_mem_finish.mp hu).1 hresult).2

/-- A launch forgets what is queued on the context that it resets. -/
theorem HandsOn.launchStep (hI : Custody s) (hS : Stages s) (hs : s.launchStep a = some s') :
    HandsOn s a s' := by
  cases launchStep_inv hs with
  | launch | relaunch | loopExit =>
    exact .of_tokens (remembers_of_ne (by simp) (by simp)) rfl fun _ => rfl
  | enterLoop =>
    refine .of_tokens (remembers_of_ne (by simp) (by simp)) rfl fun u => ?_
    simp only [tokens, custody, hS.enterLoop_held]
  | stop =>
    have hclose := Host.SameRegistration.closeSmartsockets s.host
    exact .of_tokens (remembers_of_ne (by simp) (by simp)) hclose.live fun _ => rfl
  | stopNotify =>
    exact .of_tokens (remembers_of_ne (by simp) (by simp)) rfl
      (hI.holdSame (ReconnectHandler.notifyOne_held (h := s.handler))).2
  | join _ hreturn =>
    exact .of_tokens (remembers_of_ne (by simp) (by simp)) rfl
      (hI.letGo (handlerReturn_drain hreturn) fun u hu => by simp [ReconnectHandler.drain] at hu).2
  | kickAll =>
    refine .of_tokens (remembers_of_ne (by simp) (by simp)) ?_
      (hI.foldl_kick s.host.transportList).2
    rw [foldl_kick_host]
  | clearTransportList _ hk =>
    subst hk
    refine .of_tokens (remembers_of_ne (by simp) (by simp)) ?_
      (hI.foldl_kick s.host.transportList).2
    rw [foldl_kick_host]
  | fdeventReset =>
    have htokens : ∀ u, s.tokens u = (s.runQueue.map LooperCallback.transport).count u +
        ({ s with
          host := { s.host with ambient := s.host.ambient.reset }
          runQueue := []
          stage := .starting } : ServerState).tokens u := by
      intro u
      simp only [tokens, custody, List.count_append, List.map_nil, List.count_nil]
      omega
    refine ⟨fun u hu hnew => absurd hu hnew, fun u _ _ hnot => ?_, fun u hu => ?_⟩
    · have hcount : (s.runQueue.map LooperCallback.transport).count u = 0 :=
        List.count_eq_zero.mpr fun hmem => hnot (.inr ⟨rfl, hmem⟩)
      rw [htokens, hcount, Nat.zero_add]
    · obtain ⟨_, _, heq, -⟩ | ⟨-, hmem⟩ := hu
      · cases heq
      · have hpos := List.count_pos_iff.mpr hmem
        have hone := hI.tokens_le u
        have hsplit := htokens u
        refine ⟨hI.mem_live (List.mem_append_right _ (List.mem_append_left _ hmem)), ?_⟩
        omega

/-- Every step hands on its transports. -/
theorem HandsOn.step (hI : Custody s) (hS : Stages s) (hs : s.step a = some s') :
    HandsOn s a s' := by
  obtain hs | hs | hs | hs := step_cases hs
  · exact .deviceStep hI hs
  · exact .looperStep hI hs
  · exact .handlerStep hI hs
  · exact .launchStep hI hS hs

/-- A step that forgets no transport leaves each with an owner. -/
theorem NoneForgotten.step (hN : NoneForgotten s) (hR : Roster s) (ha : Remembers s a)
    (hs : s.step a = some s') : NoneForgotten s' := by
  intro t ht
  have hhands := HandsOn.step hR.custody hR.stages hs
  by_cases hlive : t ∈ s.host.live
  · exact (hhands.kept t ht hlive (ha t)).trans (hN t hlive)
  · exact hhands.new t ht hlive

/-- A transport that a step forgets is there without an owner. -/
theorem not_noneForgotten (hR : Roster s) (ha : ¬ Remembers s a) (hs : s.step a = some s') :
    ¬ NoneForgotten s' := by
  intro hN
  obtain ⟨t, ht⟩ := not_forall_not.mp ha
  obtain ⟨hlive, hnone⟩ := (HandsOn.step hR.custody hR.stages hs).forgotten t ht
  have hone := hN t hlive
  omega

/-! ## Until the server is cleaned up -/

/-- The reconnect handler was not stopped. -/
structure NotStopped (s : ServerState) : Prop where
  running : s.handler.running = true
  stage : s.stage = .down ∨ s.stage = .starting ∨ s.stage.Looping ∨ s.stage = .exited

theorem NotStopped.initial (delayedAckEnabled : Bool) : NotStopped (initial delayedAckEnabled) :=
  ⟨rfl, .inl rfl⟩

/-- A step that keeps both. -/
theorem NotStopped.of_eq (hN : NotStopped s) (hrunning : s'.handler.running = s.handler.running)
    (hstage : s'.stage = s.stage) : NotStopped s' := ⟨hrunning ▸ hN.running, hstage ▸ hN.stage⟩

/-- Only `Stop` stops it. -/
theorem NotStopped.step (hN : NotStopped s) (ha : a ≠ .stop) (hs : s.step a = some s') :
    NotStopped s' := by
  obtain hs | hs | hs | hs := step_cases hs
  · cases deviceStep_inv hs with
    | already => exact hN
    | registerSocket | registerTransport | connectionFails => exact hN.of_eq rfl rfl
  · cases (looperStep_inv hs).2 with
    | runCallback _ hs | event _ hs =>
      obtain ⟨-, -, hstage, hrunning, -⟩ := handle_frame hs
      exact hN.of_eq hrunning hstage
    | @kick t =>
      obtain ⟨hhandler, -, -, hstage⟩ := s.kick_frame t
      exact hN.of_eq (congrArg _ hhandler) hstage
  · cases handlerStep_inv hs with
    | wakeUp => exact hN.of_eq rfl rfl
    | enterWait => exact hN.of_eq (ReconnectHandler.enterWait_running _) rfl
    | scan _ _ hr => exact hN.of_eq (hr ▸ ReconnectHandler.scan_running _ _ _) rfl
    | success _ hr | failure _ _ hr =>
      exact hN.of_eq (hr ▸ ReconnectHandler.finish_running _ _ _ _) rfl
  · have hstage := hN.stage
    cases launchStep_inv hs with
    | launch => exact ⟨hN.running, .inr (.inl rfl)⟩
    | relaunch => exact ⟨hN.running, .inr (.inr (.inl (.inr rfl)))⟩
    | enterLoop =>
      refine ⟨?_, .inr (.inr (.inl (.inl rfl)))⟩
      split
      · exact hN.running
      · exact hN.running
    | loopExit => exact ⟨hN.running, .inr (.inr (.inr rfl))⟩
    | stop => exact absurd rfl ha
    | stopNotify h | join h | kickAll h | clearTransportList h | fdeventReset h =>
      simp [h, LaunchStage.Looping] at hstage

/-- As long as the handler runs, no transport is forgotten. -/
theorem NotStopped.remembers (hN : NotStopped s) (hs : s.step a = some s') : Remembers s a := by
  rintro t (⟨_, _, -, -, -, -, hrunning⟩ | ⟨rfl, -⟩)
  · exact absurd (hN.running.symm.trans hrunning) (by decide)
  · have hstage := hN.stage
    cases launchStep_inv (a := .fdeventReset) hs with
    | fdeventReset h => simp [h, LaunchStage.Looping] at hstage

end ServerState

open ServerState

/-- In every run of the server's threads, whichever of them move and when: neither list of transports,
no caller, no attempt, no connection with threads and no registration, removal or connection error
on the looper's queue has a transport that has been deleted, and no transport has two owners. Every
transport that has not been deleted has one, exactly when no step of the run forgets a transport, and
until the server is cleaned up none does. -/
theorem transports_owned (delayedAckEnabled : Bool) (as : List ServerAction) :
    Throughout ServerState.step Owned (.initial delayedAckEnabled) as ∧
    (Throughout ServerState.step NoneForgotten (.initial delayedAckEnabled) as ↔
      Meets ServerState.step Remembers (.initial delayedAckEnabled) as) ∧
    ((∀ a ∈ as, a ≠ .stop) → Meets ServerState.step Remembers (.initial delayedAckEnabled) as) := by
  have hroster := Roster.initial delayedAckEnabled
  refine ⟨?_, ?_, fun hstop => ?_⟩
  · have hkeeps : ∀ s a s', Roster s → True → s.step a = some s' → Roster s' :=
      fun _ _ _ hR _ hs => hR.step hs
    have hrun := throughout_of_meets hkeeps hroster
      (meets_of_forall (G := fun _ _ => True) fun _ (_ : _ ∈ as) _ => trivial)
    exact hrun.mono fun _ hR => hR.owned
  · exact throughout_iff_meets (I := fun s => Roster s ∧ NoneForgotten s) (fun _ hI => hI.2)
      (fun _ _ _ hI ha hs => ⟨hI.1.step hs, hI.2.step hI.1 ha hs⟩)
      (fun _ _ _ hI ha hs => not_noneForgotten hI.1 ha hs)
      ⟨hroster, fun _ ht => absurd ht List.not_mem_nil⟩
  · refine eachStep_of_meets (I := NotStopped) (fun _ _ _ hN ha hs => ⟨hN.step ha hs, hN.remembers hs⟩)
      (.initial delayedAckEnabled) (meets_of_forall fun a ha _ => hstop a ha)

end AdbMobile
