import AdbMobile.Server.Transports

/-!
# The handler's thread over the launches

`init_reconnect_handler` starts the handler's thread in the first launch only, and `running_` is
never set again after a `Stop`. So the thread is there from the first loop to the first relaunch,
and in every later server there is none. `Stages` says so of every stage of a launch.
-/

namespace AdbMobile

open Run

/-- The handler's thread is not there. -/
def HandlerPhase.Idle (phase : HandlerPhase) : Prop := phase = .notStarted ∨ phase = .returned

instance : DecidablePred HandlerPhase.Idle := fun phase =>
  inferInstanceAs (Decidable (phase = .notStarted ∨ phase = .returned))

/-- There is no thread of the handler: before the loop, and after `Stop`. -/
def LaunchStage.HandlerDone : LaunchStage → Prop
  | .down | .starting | .stopped | .kicked | .cleared => True
  | _ => False

namespace ServerState

/-- How the launches and the handler's thread go together. -/
structure Stages (s : ServerState) : Prop where
  notStarted : s.handler.thread = .notStarted ↔ s.initialized = false
  looping : s.stage.Looping → s.initialized = true
  idle : s.handler.thread.Idle → s.handler.queue = []
  returned : s.handler.thread = .returned → s.handler.running = false
  done : s.stage.HandlerDone → s.handler.thread.Idle
  stopping : s.stage = .stopping ∨ s.stage = .joining → s.handler.running = false
  cleared : s.stage = .cleared → s.host.transportList = []

variable {s s' : ServerState} {a : ServerAction}

theorem Stages.initial (delayedAckEnabled : Bool) : Stages (initial delayedAckEnabled) where
  notStarted := ⟨fun _ => rfl, fun _ => rfl⟩
  looping := fun h => by rcases h with h | h <;> cases h
  idle := fun _ => rfl
  returned := fun h => nomatch h
  done := fun _ => .inl rfl
  stopping := fun h => by rcases h with h | h <;> cases h
  cleared := fun h => nomatch h

/-- A step that is none of a launch, and leaves a handler without a thread as it is. -/
theorem Stages.of_handler (hS : Stages s) (hstage : s'.stage = s.stage)
    (hinitialized : s'.initialized = s.initialized)
    (hlist : s.stage = .cleared → s'.host.transportList = s.host.transportList)
    (hrunning : s'.handler.running = s.handler.running)
    (hidle : s.handler.thread.Idle → s'.handler = s.handler)
    (hbusy : ¬ s.handler.thread.Idle → ¬ s'.handler.thread.Idle) : Stages s' := by
  have hback : s'.handler.thread.Idle → s'.handler = s.handler := fun hidle' =>
    hidle (by_contra fun hnot => hbusy hnot hidle')
  refine ⟨⟨fun hthread => ?_, fun hnot => ?_⟩, ?_, fun h => ?_, fun h => ?_, fun h => ?_, ?_, ?_⟩
  · rw [hinitialized]
    exact hS.notStarted.mp (hback (.inl hthread) ▸ hthread)
  · have hthread := hS.notStarted.mpr (hinitialized ▸ hnot)
    rw [hidle (.inl hthread), hthread]
  · rw [hstage, hinitialized]
    exact hS.looping
  · rw [hback h]
    exact hS.idle (hback h ▸ h)
  · rw [hrunning]
    exact hS.returned (hback (.inr h) ▸ h)
  · have hidle' := hS.done (hstage ▸ h)
    rw [hidle hidle']
    exact hidle'
  · rw [hstage, hrunning]
    exact hS.stopping
  · rw [hstage]
    exact fun h => (hlist h).trans (hS.cleared h)

/-- In a loop a handler without a thread does not run. -/
theorem Stages.not_running (hS : Stages s) (hlooping : s.stage.Looping)
    (hidle : s.handler.thread.Idle) : s.handler.running = false := by
  rcases hidle with hthread | hthread
  · have hnot := hS.notStarted.mp hthread
    rw [hS.looping hlooping] at hnot
    cases hnot
  · exact hS.returned hthread

/-- A looping stage is not `cleared`. -/
theorem not_cleared (hlooping : s.stage.Looping) : s.stage ≠ .cleared := by
  rcases hlooping with h | h <;> simp [h]

theorem Stages.deviceStep (hS : Stages s) (hs : s.deviceStep a = some s') : Stages s' := by
  cases deviceStep_inv hs with
  | already => exact hS
  | registerSocket _ hstep =>
    obtain ⟨-, rfl⟩ := Host.step_eq_some hstep
    exact hS.of_handler rfl rfl (fun _ => rfl) rfl (fun _ => rfl) id
  | registerTransport => exact hS.of_handler rfl rfl (fun _ => rfl) rfl (fun _ => rfl) id
  | connectionFails => exact hS.of_handler rfl rfl (fun _ => rfl) rfl (fun _ => rfl) id

/-- A callback keeps the stages. -/
theorem Stages.handle (hS : Stages s) {e : LooperEvent} {now : ℕ} (hlooping : s.stage.Looping)
    (hs : s.handle e now = some s') : Stages s' := by
  obtain ⟨-, hinitialized, hstage, hrunning, hthread, hhandler⟩ := handle_frame hs
  refine hS.of_handler hstage hinitialized (fun h => absurd h (not_cleared hlooping)) hrunning
    (fun hidle => hhandler (hS.not_running hlooping hidle)) ?_
  rw [hthread]
  exact id

/-- A kick is no matter of the stages. -/
theorem Stages.kick (hS : Stages s) (t : ℕ) : Stages (s.kick t) := by
  obtain ⟨hhandler, -, hinitialized, hstage⟩ := s.kick_frame t
  refine hS.of_handler hstage hinitialized (fun _ => s.kick_transportList t)
    (by rw [hhandler]) (fun _ => hhandler) ?_
  rw [hhandler]
  exact id

theorem Stages.looperStep (hS : Stages s) (hs : s.looperStep a = some s') : Stages s' := by
  obtain ⟨hlooping, hs⟩ := looperStep_inv hs
  cases hs with
  | @runCallback _ _ queue _ _ hs =>
    have hpop : Stages { s with runQueue := queue } :=
      hS.of_handler rfl rfl (fun _ => rfl) rfl (fun _ => rfl) id
    exact hpop.handle hlooping hs
  | event _ hs => exact hS.handle hlooping hs
  | @kick t => exact hS.kick t

/-- A thread that is woken is still there, and there is none to wake where there was none. -/
theorem wake_idle (phase : HandlerPhase) : phase.wake.Idle ↔ phase.Idle := by
  cases phase <;> simp [HandlerPhase.wake, HandlerPhase.Idle]

theorem notifyOne_of_idle {h : ReconnectHandler} (hidle : h.thread.Idle) : h.notifyOne = h := by
  have hwake : h.thread.wake = h.thread := by
    rcases hidle with hthread | hthread <;>
      · rw [hthread]
        rfl
  rw [ReconnectHandler.notifyOne, hwake]

theorem Stages.handlerStep (hS : Stages s) (hs : s.handlerStep a = some s') : Stages s' := by
  cases handlerStep_inv hs with
  | wakeUp => exact hS.of_handler rfl rfl (fun _ => rfl) rfl notifyOne_of_idle (wake_idle _).not.mpr
  | enterWait hthread =>
    refine hS.of_handler rfl rfl (fun _ => rfl) (by simp) (fun hidle => ?_) fun _ => ?_
    · simp [hthread, HandlerPhase.Idle] at hidle
    · unfold ReconnectHandler.enterWait
      split <;> simp [HandlerPhase.Idle]
  | scan hthread hrunning hr =>
    subst hr
    refine hS.of_handler rfl rfl (fun _ => rfl) (by simp [post]) (fun hidle => ?_) fun _ => ?_
    · simp [hthread, HandlerPhase.Idle] at hidle
    · simp only [post, ReconnectHandler.scan, hrunning, if_true]
      split
      · simp [HandlerPhase.Idle]
      · split <;> simp [HandlerPhase.Idle]
  | success hthread hr =>
    subst hr
    refine hS.of_handler rfl rfl (fun _ => rfl) (by simp [post, setConnection])
      (fun hidle => ?_) fun _ => ?_
    · simp [hthread, HandlerPhase.Idle] at hidle
    · simp [post, HandlerPhase.Idle]
  | failure _ hthread hr =>
    subst hr
    refine hS.of_handler rfl rfl (fun _ => rfl) (by simp [post]) (fun hidle => ?_) fun _ => ?_
    · simp [hthread, HandlerPhase.Idle] at hidle
    · simp [post, HandlerPhase.Idle]

/-- The thread returns from a wait, or was not there. -/
theorem handlerReturn_spec {h h' : ReconnectHandler} (hr : handlerReturn h = some h') :
    h.thread.attempt = none ∧ h'.held = h.held ∧ h'.queue = h.queue ∧ h'.running = h.running ∧
    h'.thread.Idle ∧ (h'.thread = .notStarted ↔ h.thread = .notStarted) := by
  unfold handlerReturn at hr
  split at hr
  · rename_i hthread
    cases hr
    rw [hthread]
    exact ⟨rfl, rfl, rfl, rfl, .inl rfl, Iff.rfl⟩
  · rename_i hthread
    cases hr
    rw [hthread]
    exact ⟨rfl, rfl, rfl, rfl, .inr rfl, Iff.rfl⟩
  · rename_i hthread
    cases hr
    refine ⟨by rw [hthread]; rfl, ?_, rfl, rfl, .inr rfl, by simp [hthread]⟩
    rw [ReconnectHandler.held, ReconnectHandler.held, hthread]
    rfl
  · cases hr

/-- What is left of the queue when the thread has returned is held or posted. -/
theorem handlerReturn_drain {h h' : ReconnectHandler} (hr : handlerReturn h = some h') :
    h.held.Perm (h'.drain.1.held ++ h'.drain.2.map LooperCallback.transport) := by
  obtain ⟨-, hheld, -, -, hidle, -⟩ := handlerReturn_spec hr
  have hattempt : h'.thread.attempt = none := by
    obtain hthread | hthread := hidle <;>
      · rw [hthread]
        rfl
  rw [← hheld, ← ReconnectHandler.drain_held hattempt]

/-- Kicking every transport leaves the handler, the launch, and the lists. -/
theorem foldl_kick_frame (ts : List ℕ) (s : ServerState) :
    (ts.foldl kick s).handler = s.handler ∧ (ts.foldl kick s).initialized = s.initialized ∧
    (ts.foldl kick s).callers = s.callers ∧
    (ts.foldl kick s).host.transportList = s.host.transportList := by
  refine foldl_kick_induct (P := fun s₁ => s₁.handler = s.handler ∧
    s₁.initialized = s.initialized ∧ s₁.callers = s.callers ∧
    s₁.host.transportList = s.host.transportList) ?_ ts ⟨rfl, rfl, rfl, rfl⟩
  rintro s₁ t ⟨hhandler, hinitialized, hcallers, hlist⟩
  obtain ⟨hhandler', hcallers', hinitialized', -⟩ := s₁.kick_frame t
  exact ⟨hhandler'.trans hhandler, hinitialized'.trans hinitialized, hcallers'.trans hcallers,
    (s₁.kick_transportList t).trans hlist⟩

/-- A step of the launch that leaves the handler: what the new stage asks for. -/
theorem Stages.of_stage (hS : Stages s) (hhandler : s'.handler = s.handler)
    (hinitialized : s'.initialized = s.initialized)
    (hlooping : s'.stage.Looping → s.initialized = true)
    (hdone : s'.stage.HandlerDone → s.handler.thread.Idle)
    (hstopping : s'.stage = .stopping ∨ s'.stage = .joining → s.handler.running = false)
    (hcleared : s'.stage = .cleared → s'.host.transportList = []) : Stages s' where
  notStarted := by rw [hhandler, hinitialized]; exact hS.notStarted
  looping := by rw [hinitialized]; exact hlooping
  idle := by rw [hhandler]; exact hS.idle
  returned := by rw [hhandler]; exact hS.returned
  done := by rw [hhandler]; exact hdone
  stopping := by rw [hhandler]; exact hstopping
  cleared := hcleared

/-- A handler that starts with the loop holds nothing, as the one before it. -/
theorem Stages.enterLoop_held (hS : Stages s) :
    (if s.initialized then s.handler else s.handler.start).held = s.handler.held := by
  split
  · rfl
  · rename_i hinitialized
    have hthread := hS.notStarted.mpr (by simpa using hinitialized)
    rw [ReconnectHandler.held, ReconnectHandler.held, hthread]
    rfl

/-- Every step of a launch is one from stage to stage. -/
theorem Stages.launchStep (hS : Stages s) (hs : s.launchStep a = some s') : Stages s' := by
  cases launchStep_inv hs with
  | launch hstage =>
    refine hS.of_stage rfl rfl ?_ (fun _ => hS.done (by rw [hstage]; trivial)) ?_ nofun
    all_goals rintro (h | h) <;> cases h
  | relaunch hstage =>
    refine hS.of_stage rfl rfl (fun _ => hS.looping (.inl hstage)) False.elim ?_ nofun
    rintro (h | h) <;> cases h
  | enterLoop hstage =>
    have hidle := hS.done (by rw [hstage]; trivial)
    split
    · rename_i hinitialized
      refine ⟨?_, fun _ => rfl, hS.idle, hS.returned, False.elim, ?_, nofun⟩
      · rw [hS.notStarted, hinitialized]
      · rintro (h | h) <;> cases h
    · refine ⟨by simp [ReconnectHandler.start], fun _ => rfl, fun _ => hS.idle hidle, nofun,
        False.elim, ?_, nofun⟩
      rintro (h | h) <;> cases h
  | loopExit =>
    refine hS.of_stage rfl rfl ?_ False.elim ?_ nofun
    all_goals rintro (h | h) <;> cases h
  | stop =>
    refine ⟨hS.notStarted, ?_, hS.idle, fun _ => rfl, False.elim, fun _ => rfl, nofun⟩
    rintro (h | h) <;> cases h
  | stopNotify hstage =>
    have hrunning := hS.stopping (.inl hstage)
    refine ⟨?_, ?_, fun h => ?_, fun _ => hrunning, False.elim, fun _ => hrunning, nofun⟩
    · rw [← hS.notStarted]
      cases hthread : s.handler.thread <;>
        simp [ReconnectHandler.notifyOne, HandlerPhase.wake, hthread]
    · rintro (h | h) <;> cases h
    · have hidle := (wake_idle _).mp h
      rw [notifyOne_of_idle hidle]
      exact hS.idle hidle
  | join hstage hreturn =>
    obtain ⟨-, -, -, hrunning, hidle, hthread⟩ := handlerReturn_spec hreturn
    have hnot := hS.stopping (.inr hstage)
    refine ⟨hthread.trans hS.notStarted, ?_, fun _ => rfl, fun _ => hrunning.trans hnot,
      fun _ => hidle, ?_, nofun⟩
    all_goals rintro (h | h) <;> cases h
  | kickAll hstage =>
    obtain ⟨hhandler, hinitialized, -, -⟩ := foldl_kick_frame s.host.transportList s
    refine hS.of_stage hhandler hinitialized ?_ (fun _ => hS.done (by rw [hstage]; trivial)) ?_
      nofun
    all_goals rintro (h | h) <;> cases h
  | clearTransportList hstage hk =>
    obtain ⟨hhandler, hinitialized, -, -⟩ := foldl_kick_frame s.host.transportList s
    subst hk
    refine hS.of_stage hhandler hinitialized ?_ (fun _ => hS.done (by rw [hstage]; trivial)) ?_
      fun _ => rfl
    all_goals rintro (h | h) <;> cases h
  | fdeventReset hstage =>
    refine hS.of_stage rfl rfl ?_ (fun _ => hS.done (by rw [hstage]; trivial)) ?_ nofun
    all_goals rintro (h | h) <;> cases h

/-- Every step keeps the stages. -/
theorem Stages.step (hS : Stages s) (hs : s.step a = some s') : Stages s' := by
  obtain hs | hs | hs | hs := step_cases hs
  · exact hS.deviceStep hs
  · exact hS.looperStep hs
  · exact hS.handlerStep hs
  · exact hS.launchStep hs

/-! ## The relaunch of the looper's model -/

/-- Kicking transports sets their flags in the tables. -/
theorem foldl_kick_host (ts : List ℕ) : ∀ s : ServerState, (ts.foldl kick s).host =
    { s.host with transports := fun t =>
        if t ∈ ts then { s.host.transports t with kicked := true } else s.host.transports t } := by
  induction ts with
  | nil => exact fun s => by simp
  | cons t ts ih =>
    intro s
    rw [List.foldl_cons, ih, kick_host]
    simp only [Host.handle, Host.modifyTransport]
    congr 1
    funext u
    by_cases hut : u = t
    · subst hut
      by_cases hu : u ∈ ts <;> simp [hu]
    · by_cases hu : u ∈ ts <;> simp [hu, hut]

/-- What the steps of a launch do to the tables. -/
theorem launchStep_host (hs : s.launchStep a = some s') : s'.host =
    match a with
    | .stop => s.host.closeSmartsockets
    | .kickAll => (s.host.transportList.foldl kick s).host
    | .clearTransportList =>
      { (s.host.transportList.foldl kick s).host with transportList := [], pendingList := [] }
    | .fdeventReset => { s.host with ambient := s.host.ambient.reset }
    | _ => s.host := by
  cases launchStep_inv hs with
  | clearTransportList _ hk =>
    subst hk
    rfl
  | _ => rfl

/-- The steps of a relaunch from the end of the loop on, one after the other. -/
def relaunchSteps : List ServerAction :=
  [.stop, .stopNotify, .join, .kickAll, .clearTransportList, .fdeventReset]

/-- They do to the tables what the event `relaunch` of the looper's model does. -/
theorem relaunch_host (hs : run ServerState.step s relaunchSteps = some s') :
    s'.host = s.host.relaunch := by
  obtain ⟨s₁, h₁, hs⟩ := Option.bind_eq_some_iff.mp hs
  obtain ⟨s₂, h₂, hs⟩ := Option.bind_eq_some_iff.mp hs
  obtain ⟨s₃, h₃, hs⟩ := Option.bind_eq_some_iff.mp hs
  obtain ⟨s₄, h₄, hs⟩ := Option.bind_eq_some_iff.mp hs
  obtain ⟨s₅, h₅, hs⟩ := Option.bind_eq_some_iff.mp hs
  obtain ⟨s₆, h₆, hs⟩ := Option.bind_eq_some_iff.mp hs
  cases hs
  have hclosed : s₃.host = s.host.closeSmartsockets :=
    ((launchStep_host (a := .join) h₃).trans (launchStep_host (a := .stopNotify) h₂)).trans
      (launchStep_host (a := .stop) h₁)
  have hkicked : s₄.host = { s₃.host with
      transports := fun t =>
        if t ∈ s₃.host.transportList then { s₃.host.transports t with kicked := true }
        else s₃.host.transports t } :=
    (launchStep_host (a := .kickAll) h₄).trans (foldl_kick_host _ s₃)
  -- The second round of kicks finds every flag set.
  have hcleared : s₅.host = { s₄.host with transportList := [], pendingList := [] } := by
    have h := launchStep_host (a := .clearTransportList) h₅
    simp only [foldl_kick_host, hkicked] at h
    rw [h, hkicked]
    congr 1
    funext t
    by_cases ht : t ∈ s₃.host.transportList
    · simp only [if_pos ht]
    · simp only [if_neg ht]
  have hreset : s'.host = { s₅.host with ambient := s₅.host.ambient.reset } :=
    launchStep_host (a := .fdeventReset) h₆
  rw [hreset, hcleared, hkicked, hclosed]
  rfl

end ServerState

end AdbMobile
