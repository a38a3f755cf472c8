import AdbMobile.Lib.Run
import AdbMobile.Server.ReconnectHandler

/-!
# Stopping the reconnect handler

`Stop` sets `running_` to false under the lock, notifies once, and joins the thread. The thread
tests `running_` only after a wait, the wait has no predicate, and it lasts for ever where the queue
is empty. So what matters is where the thread is at the notification: one that waits is woken and
returns, and one that has an attempt queued will wait for that attempt's time at most. A thread on
its way to a wait with an empty queue gets nothing from the notification, and `Stop` joins it for
ever.

The machine interleaves the locked sections of `Run` with those of `Stop` and of `TrackTransport`,
and with the notifications, which are sent without the lock. A run never leaves a thread that `Stop`
may wait for in vain exactly when every notification that is the last one `Stop` can count on finds
the thread in one of the good places (`stop_leads_to_return_iff`).
-/

namespace AdbMobile

open Run

/-- Where a call of `Stop` is. -/
inductive StopPhase
  | idle
  /-- It has cleared `running_`. -/
  | cleared
  /-- It has notified, and joins the thread. -/
  | joining
  deriving DecidableEq, Repr

/-- The handler between two atomic steps. -/
structure StopState where
  handler : ReconnectHandler
  stop : StopPhase
  /-- How many calls of `TrackTransport` have queued a transport and are yet to notify. -/
  tracking : ℕ
  deriving DecidableEq, Repr

/-- The atomic steps of the handler's thread, and of the threads that call the handler. -/
inductive StopAction
  | start
  | enterWait
  /-- The time of `wait_until` has passed. -/
  | timeout (now : ℕ)
  | spuriousWakeup
  | scan (kicked : ℕ → Bool) (now : ℕ)
  /-- `Reconnect` returns. -/
  | finish (result : ReconnectResult) (now : ℕ)
  | trackTransport (t now : ℕ)
  /-- The `notify_one` of `TrackTransport`. -/
  | trackNotify
  | checkForKicked
  | stop
  /-- The `notify_one` of `Stop`. -/
  | stopNotify
  /-- The thread has returned or was never started, and `Stop` goes on to drain the queue. -/
  | join

/-- A step that the handler's thread takes by itself. -/
def StopAction.OfHandler : StopAction → Prop
  | .enterWait | .timeout _ | .scan _ _ | .finish _ _ => True
  | _ => False

namespace StopState

/-- The handler before it is started. -/
def initial : StopState := ⟨.new, .idle, 0⟩

/-- A step of the handler's thread. -/
def handlerStep (s : StopState) (a : StopAction) : Option ReconnectHandler :=
  let h := s.handler
  match a, h.thread with
  | .enterWait, .top => some h.enterWait
  | .timeout now, .waitingUntil time =>
    if time ≤ now then some { h with thread := .woken } else none
  | .spuriousWakeup, .waiting | .spuriousWakeup, .waitingUntil _ => some { h with thread := .woken }
  | .scan kicked now, .woken => some (h.scan kicked now).1
  | .finish result now, .reconnecting attempt => some (h.finish attempt result now).1
  | _, _ => none

/-- One atomic step. -/
def step (s : StopState) : StopAction → Option StopState
  | .start =>
    if s.handler.thread = .notStarted ∧ s.stop = .idle then
      some { s with handler := s.handler.start }
    else none
  | .trackTransport t now =>
    some { s with
      handler := s.handler.trackTransport t now
      tracking := if s.handler.running then s.tracking + 1 else s.tracking }
  | .trackNotify =>
    if s.tracking = 0 then none
    else some { s with handler := s.handler.notifyOne, tracking := s.tracking - 1 }
  | .checkForKicked => some { s with handler := s.handler.notifyOne }
  | .stop =>
    if s.stop = .idle then some { s with handler := s.handler.stop, stop := .cleared } else none
  | .stopNotify =>
    if s.stop = .cleared then some { s with handler := s.handler.notifyOne, stop := .joining }
    else none
  | .join =>
    if s.stop = .joining ∧ (s.handler.thread = .returned ∨ s.handler.thread = .notStarted) then
      some { s with handler := s.handler.drain.1, stop := .idle }
    else none
  | a => (s.handlerStep a).map fun h => { s with handler := h }

/-- `Stop` joins the thread, and no notification is still to come. -/
abbrev Stopped (s : StopState) : Prop :=
  s.handler.running = false ∧ s.stop = .joining ∧ s.tracking = 0

/-- The thread that `Stop` joins is in the untimed wait, and nothing is to wake it. -/
abbrev Blocked (s : StopState) : Prop := s.Stopped ∧ s.handler.thread = .waiting

/-- Whatever the thread's next steps are, none of them leads it into a wait that nothing ends. -/
def StopLeadsToReturn (s : StopState) : Prop :=
  ∀ as : List StopAction, (∀ a ∈ as, a.OfHandler) → Throughout step (fun s => ¬ s.Blocked) s as

end StopState

/-- The thread is on its way to the untimed wait. -/
def ReconnectHandler.HeadedForWait (h : ReconnectHandler) : Prop :=
  h.queue = [] ∧ (h.thread = .top ∨ ∃ a, h.thread = .reconnecting a)

namespace StopState

/-- The last notification that `Stop` can count on does not find the thread on its way to the
untimed wait. -/
def NotificationFindsHandler (s : StopState) : StopAction → Prop
  | .stopNotify => s.tracking = 0 → ¬ s.handler.HeadedForWait
  | .trackNotify =>
    s.tracking = 1 → s.handler.running = false → s.stop = .joining → ¬ s.handler.HeadedForWait
  | _ => True

/-- `Stop` has sent its notification in vain. -/
def Missed (s : StopState) : Prop :=
  s.Stopped ∧ (s.handler.thread = .waiting ∨ s.handler.HeadedForWait)

variable {s s' : StopState} {a : StopAction} {h : ReconnectHandler}

/-! ## The handler's thread after `Stop` -/

/-- What a step of the handler's thread has done: where it was, and the handler that it left. -/
inductive HandlerStepped (s : StopState) : StopAction → ReconnectHandler → Prop
  | enterWait (hthread : s.handler.thread = .top) : HandlerStepped s .enterWait s.handler.enterWait
  | timeout {now time : ℕ} (hthread : s.handler.thread = .waitingUntil time) (htime : time ≤ now) :
    HandlerStepped s (.timeout now) { s.handler with thread := .woken }
  | spuriousWakeup
    (hthread : s.handler.thread = .waiting ∨ ∃ time, s.handler.thread = .waitingUntil time) :
    HandlerStepped s .spuriousWakeup { s.handler with thread := .woken }
  | scan {kicked : ℕ → Bool} {now : ℕ} (hthread : s.handler.thread = .woken) :
    HandlerStepped s (.scan kicked now) (s.handler.scan kicked now).1
  | finish {result : ReconnectResult} {now : ℕ} {attempt : ReconnectAttempt}
    (hthread : s.handler.thread = .reconnecting attempt) :
    HandlerStepped s (.finish result now) (s.handler.finish attempt result now).1

theorem handlerStep_inv (hs : s.handlerStep a = some h) : HandlerStepped s a h := by
  simp only [handlerStep] at hs
  split at hs
  case h_2 =>
    split at hs
    · cases hs
      exact .timeout ‹_› ‹_›
    · cases hs
  case h_7 => cases hs
  all_goals cases hs
  · exact .enterWait ‹_›
  · exact .spuriousWakeup (.inl ‹_›)
  · exact .spuriousWakeup (.inr ⟨_, ‹_›⟩)
  · exact .scan ‹_›
  · exact .finish ‹_›

/-- A step of the handler's thread does not start the handler again. -/
theorem handlerStep_running (hs : s.handlerStep a = some h) :
    h.running = s.handler.running := by
  cases handlerStep_inv hs with
  | enterWait => exact s.handler.enterWait_running
  | timeout | spuriousWakeup => rfl
  | scan => exact s.handler.scan_running ..
  | finish => exact s.handler.finish_running ..

/-- A thread that is not on its way to the untimed wait, and finds `running_` false, does not come
on its way there. -/
theorem handlerStep_not_headed (hrunning : s.handler.running = false)
    (hheaded : ¬ s.handler.HeadedForWait) (hs : s.handlerStep a = some h) :
    h.thread ≠ .waiting ∧ ¬ h.HeadedForWait := by
  cases handlerStep_inv hs with
  | enterWait hthread =>
    -- The queue has an attempt, so the wait ends at its time.
    cases hqueue : s.handler.queue with
    | nil => exact absurd ⟨hqueue, .inl hthread⟩ hheaded
    | cons b queue => simp [ReconnectHandler.enterWait, hqueue, ReconnectHandler.HeadedForWait]
  | timeout | spuriousWakeup => simp [ReconnectHandler.HeadedForWait]
  | scan => simp [ReconnectHandler.scan, hrunning, ReconnectHandler.HeadedForWait]
  | @finish result now attempt hthread =>
    -- The thread comes back to a queue that is not empty.
    have hqueue : s.handler.queue ≠ [] := fun hnil => hheaded ⟨hnil, .inr ⟨attempt, hthread⟩⟩
    exact ⟨by simp, fun hh => ReconnectHandler.finish_queue_ne_nil attempt result now hqueue hh.1⟩

/-- A step of the handler's thread leaves `Stop` and `TrackTransport` where they are. -/
theorem step_ofHandler (ha : a.OfHandler) (hs : s.step a = some s') :
    ∃ h, s.handlerStep a = some h ∧ s' = { s with handler := h } := by
  cases a with
  | enterWait | timeout | scan | finish =>
    obtain ⟨h, hh, rfl⟩ := Option.map_eq_some_iff.mp hs
    exact ⟨h, hh, rfl⟩
  | _ => exact ha.elim

/-- Where no notification was missed, none is missed after a step of the handler's thread. -/
theorem handlerStep_not_missed (hmissed : ¬ s.Missed) (hs : s.handlerStep a = some h) :
    ¬ ({ s with handler := h } : StopState).Missed := by
  rintro ⟨⟨hrunning, hstop, htracking⟩, hthread⟩
  have hrunning' : s.handler.running = false := (handlerStep_running hs).symm.trans hrunning
  have hnot := handlerStep_not_headed hrunning'
    (fun hh => hmissed ⟨⟨hrunning', hstop, htracking⟩, .inr hh⟩) hs
  exact hthread.elim hnot.1 hnot.2

/-- `Stop` leads the thread to its return exactly when it has not sent its notification in vain. -/
theorem stopLeadsToReturn_iff : s.StopLeadsToReturn ↔ ¬ s.Missed := by
  constructor
  · rintro hleads ⟨hstopped, hwaiting | ⟨hqueue, htop | ⟨attempt, hattempt⟩⟩⟩
    · exact hleads [] (by simp) ⟨hstopped, hwaiting⟩
    · have hthrough := hleads [.enterWait] (by simp [StopAction.OfHandler])
      refine hthrough.2 { s with handler := s.handler.enterWait }
        (by simp [step, handlerStep, htop]) ⟨?_, ?_⟩
      · simpa [Stopped] using hstopped
      · simp [ReconnectHandler.enterWait, hqueue]
    · -- A reconnection that succeeds leaves the queue empty.
      have hthrough := hleads [.finish .success 0, .enterWait] (by simp [StopAction.OfHandler])
      have hnext := hthrough.2 { s with handler := (s.handler.finish attempt .success 0).1 }
        (by simp [step, handlerStep, hattempt])
      refine hnext.2 { s with handler := (s.handler.finish attempt .success 0).1.enterWait }
        (by simp [step, handlerStep]) ⟨?_, ?_⟩
      · simpa [Stopped] using hstopped
      · simp [ReconnectHandler.enterWait, ReconnectHandler.finish, hqueue]
  · intro hmissed as has
    have hmeets : Meets step (fun _ a => a.OfHandler) s as := meets_of_forall fun a ha _ => has a ha
    refine (throughout_of_meets (I := fun s => ¬ s.Missed) ?_ hmissed hmeets).mono
      fun s hs hblocked => hs ⟨hblocked.1, .inl hblocked.2⟩
    intro s a s' hmissed ha hs
    obtain ⟨h, hh, rfl⟩ := step_ofHandler ha hs
    exact handlerStep_not_missed hmissed hh

/-! ## The way to the return -/

/-- How many steps the thread is from its return, once `running_` is false. -/
def stepsToReturn : HandlerPhase → ℕ
  | .notStarted => 5
  | .reconnecting _ => 4
  | .top => 3
  | .waiting | .waitingUntil _ => 2
  | .woken => 1
  | .returned => 0

/-- Every step of the thread brings it nearer to its return. -/
theorem handlerStep_stepsToReturn (hrunning : s.handler.running = false)
    (hs : s.handlerStep a = some h) :
    stepsToReturn h.thread < stepsToReturn s.handler.thread := by
  cases handlerStep_inv hs with
  | enterWait hthread =>
    rw [hthread]
    unfold ReconnectHandler.enterWait
    split <;> exact Nat.lt_succ_self 2
  | timeout hthread =>
    rw [hthread]
    exact Nat.lt_succ_self 1
  | spuriousWakeup hthread =>
    rcases hthread with hthread | ⟨time, hthread⟩ <;>
      · rw [hthread]
        exact Nat.lt_succ_self 1
  | scan hthread =>
    rw [hthread]
    simp [ReconnectHandler.scan, hrunning, stepsToReturn]
  | finish hthread =>
    rw [hthread, ReconnectHandler.finish_thread]
    exact Nat.lt_succ_self 3

/-- The thread has a step to take wherever it is, unless it is in the untimed wait. -/
theorem handlerStep_enabled (hstarted : s.handler.thread ≠ .notStarted)
    (hreturned : s.handler.thread ≠ .returned) (hwaiting : s.handler.thread ≠ .waiting) :
    ∃ a, a.OfHandler ∧ ∃ h, s.handlerStep a = some h := by
  cases hphase : s.handler.thread with
  | notStarted => exact absurd hphase hstarted
  | returned => exact absurd hphase hreturned
  | waiting => exact absurd hphase hwaiting
  | top => exact ⟨.enterWait, trivial, by simp [handlerStep, hphase]⟩
  | waitingUntil time => exact ⟨.timeout time, trivial, by simp [handlerStep, hphase]⟩
  | woken => exact ⟨.scan (fun _ => false) 0, trivial, by simp [handlerStep, hphase]⟩
  | reconnecting attempt => exact ⟨.finish .abort 0, trivial, by simp [handlerStep, hphase]⟩

/-- The steps of the thread by itself, after `Stop`, are four at most. -/
theorem length_add_stepsToReturn_le {as : List StopAction} (has : ∀ a ∈ as, a.OfHandler) :
    ∀ {s s' : StopState}, s.handler.running = false → run step s as = some s' →
      as.length + stepsToReturn s'.handler.thread ≤ stepsToReturn s.handler.thread := by
  induction as with
  | nil =>
    intro s s' _ hs
    cases hs
    simp
  | cons a as ih =>
    intro s s' hrunning hs
    obtain ⟨s₁, h₁, hs⟩ := Option.bind_eq_some_iff.mp hs
    obtain ⟨h, hh, rfl⟩ := step_ofHandler (has a (by simp)) h₁
    have hstep := handlerStep_stepsToReturn hrunning hh
    have hrest := ih (fun b hb => has b (by simp [hb]))
      ((handlerStep_running hh).trans hrunning) hs
    simp only [List.length_cons] at hrest ⊢
    omega

/-- A thread that is `n` steps from its return and is not led into the untimed wait returns. -/
theorem exists_run_returned (n : ℕ) : ∀ s : StopState, s.Stopped → ¬ s.Missed →
    stepsToReturn s.handler.thread ≤ n → n < 5 →
      ∃ as, (∀ a ∈ as, a.OfHandler) ∧
        ∃ s', run step s as = some s' ∧ s'.handler.thread = .returned := by
  induction n with
  | zero =>
    intro s _ _ hsteps _
    refine ⟨[], by simp, s, rfl, ?_⟩
    cases hphase : s.handler.thread <;> simp_all [stepsToReturn]
  | succ n ih =>
    intro s hstopped hmissed hsteps hn
    by_cases hreturned : s.handler.thread = .returned
    · exact ⟨[], by simp, s, rfl, hreturned⟩
    have hstarted : s.handler.thread ≠ .notStarted := by
      intro hphase
      rw [hphase, stepsToReturn] at hsteps
      omega
    obtain ⟨a, ha, h, hh⟩ := handlerStep_enabled hstarted hreturned
      fun hwaiting => hmissed ⟨hstopped, .inl hwaiting⟩
    have hstep : s.step a = some { s with handler := h } := by
      cases a with
      | enterWait | timeout | scan | finish => exact Option.map_eq_some_iff.mpr ⟨h, hh, rfl⟩
      | _ => exact ha.elim
    -- The step is not into the untimed wait, and leaves one step less.
    have hnearer := handlerStep_stepsToReturn hstopped.1 hh
    obtain ⟨as, has, s', hs', hend⟩ := ih { s with handler := h }
      ⟨(handlerStep_running hh).trans hstopped.1, hstopped.2⟩ (handlerStep_not_missed hmissed hh)
      (by simp only; omega) (by omega)
    refine ⟨a :: as, ?_, s', ?_, hend⟩
    · rintro b (_ | ⟨_, hb⟩)
      · exact ha
      · exact has b hb
    · simpa [run, hstep] using hs'

/-- Where `Stop` leads the thread to its return, the thread returns. -/
theorem StopLeadsToReturn.returns (hleads : s.StopLeadsToReturn) (hstopped : s.Stopped)
    (hstarted : s.handler.thread ≠ .notStarted) :
    ∃ as, (∀ a ∈ as, a.OfHandler) ∧
      ∃ s', run step s as = some s' ∧ s'.handler.thread = .returned := by
  refine exists_run_returned 4 s hstopped (stopLeadsToReturn_iff.mp hleads) ?_ (by decide)
  cases hphase : s.handler.thread with
  | notStarted => exact absurd hphase hstarted
  | _ => simp [stepsToReturn]

/-! ## Every run -/

/-- Between the steps: no notification was missed, and while `Stop` is under way `running_` is
false. -/
structure NothingMissed (s : StopState) : Prop where
  notMissed : ¬ s.Missed
  notRunning : s.stop ≠ .idle → s.handler.running = false

/-- The handler before it is started has missed nothing. -/
theorem NothingMissed.initial : NothingMissed initial where
  notMissed := fun hmissed => nomatch hmissed.1.1
  notRunning := fun hstop => (hstop rfl).elim

/-- A notification does not send the thread to the untimed wait. -/
theorem headedForWait_of_notifyOne (h : ReconnectHandler)
    (hn : h.notifyOne.thread = .waiting ∨ h.notifyOne.HeadedForWait) : h.HeadedForWait := by
  unfold ReconnectHandler.HeadedForWait at hn ⊢
  cases hthread : h.thread <;>
    simp_all [ReconnectHandler.notifyOne, HandlerPhase.wake]

/-- A notification that finds the thread on its way to the untimed wait leaves it there. -/
theorem headedForWait_notifyOne {h : ReconnectHandler} (hh : h.HeadedForWait) :
    h.notifyOne.HeadedForWait := by
  unfold ReconnectHandler.HeadedForWait at hh ⊢
  obtain ⟨hqueue, hthread | ⟨a, hthread⟩⟩ := hh <;>
    simp [ReconnectHandler.notifyOne, HandlerPhase.wake, hqueue, hthread]

/-- One step misses nothing, if a last notification finds the handler's thread. -/
theorem NothingMissed.step (hI : NothingMissed s) (hg : NotificationFindsHandler s a)
    (hs : s.step a = some s') : NothingMissed s' := by
  cases a with
  | start =>
    simp only [StopState.step] at hs
    split at hs
    · rename_i hidle
      cases hs
      refine ⟨?_, hI.notRunning⟩
      rintro ⟨⟨-, hstop, -⟩, -⟩
      exact absurd (hidle.2.symm.trans hstop) (by decide)
    · cases hs
  | trackTransport t now =>
    cases hs
    refine ⟨?_, fun hstop => ?_⟩
    · rintro ⟨⟨hrunning, hstop, htracking⟩, hthread⟩
      -- A call that finds `running_` false queues nothing.
      rw [ReconnectHandler.trackTransport_running] at hrunning
      refine hI.notMissed ⟨⟨hrunning, hstop, ?_⟩, ?_⟩
      · simpa [hrunning] using htracking
      · simpa [ReconnectHandler.trackTransport, hrunning] using hthread
    · rw [ReconnectHandler.trackTransport_running]
      exact hI.notRunning hstop
  | trackNotify =>
    simp only [StopState.step] at hs
    split at hs
    · cases hs
    · rename_i hpending
      cases hs
      refine ⟨?_, hI.notRunning⟩
      rintro ⟨⟨hrunning, hstop, htracking⟩, hthread⟩
      exact hg (by simp only at htracking; omega) hrunning hstop
        (headedForWait_of_notifyOne _ hthread)
  | checkForKicked =>
    cases hs
    refine ⟨?_, hI.notRunning⟩
    rintro ⟨hstopped, hthread⟩
    exact hI.notMissed ⟨hstopped, .inr (headedForWait_of_notifyOne _ hthread)⟩
  | stop =>
    simp only [StopState.step] at hs
    split at hs
    · cases hs
      exact ⟨(fun hmissed => by cases hmissed.1.2.1), fun _ => rfl⟩
    · cases hs
  | stopNotify =>
    simp only [StopState.step] at hs
    split at hs
    · rename_i hcleared
      cases hs
      refine ⟨?_, fun _ => hI.notRunning (by simp [hcleared])⟩
      rintro ⟨⟨-, -, htracking⟩, hthread⟩
      exact hg htracking (headedForWait_of_notifyOne _ hthread)
    · cases hs
  | join =>
    simp only [StopState.step] at hs
    split at hs
    · cases hs
      exact ⟨(fun hmissed => by cases hmissed.1.2.1), fun hstop => (hstop rfl).elim⟩
    · cases hs
  | enterWait | timeout | spuriousWakeup | scan | finish =>
    obtain ⟨h, hh, rfl⟩ := Option.map_eq_some_iff.mp hs
    exact ⟨handlerStep_not_missed hI.notMissed hh,
      fun hstop => (handlerStep_running hh).trans (hI.notRunning hstop)⟩

/-- A last notification that finds the thread on its way to the untimed wait is sent in vain. -/
theorem NothingMissed.missed (hI : NothingMissed s) (hg : ¬ NotificationFindsHandler s a)
    (hs : s.step a = some s') : s'.Missed := by
  cases a with
  | stopNotify =>
    simp only [NotificationFindsHandler, Classical.not_imp, not_not] at hg
    simp only [StopState.step] at hs
    split at hs
    · rename_i hcleared
      cases hs
      exact ⟨⟨hI.notRunning (by simp [hcleared]), rfl, hg.1⟩, .inr (headedForWait_notifyOne hg.2)⟩
    · cases hs
  | trackNotify =>
    simp only [NotificationFindsHandler, Classical.not_imp, not_not] at hg
    obtain ⟨htracking, hrunning, hstop, hheaded⟩ := hg
    simp only [StopState.step, htracking] at hs
    cases hs
    exact ⟨⟨hrunning, hstop, rfl⟩, .inr (headedForWait_notifyOne hheaded)⟩
  | _ => exact absurd trivial hg

end StopState

open StopState

/-- In a run of the handler's thread with calls of `TrackTransport`, `CheckForKicked` and `Stop` in
which each notification that is the last one for `Stop` to count on finds the thread elsewhere than
on its way to the untimed wait, the thread is never in that wait while `Stop` joins it with nothing
to wake it. The condition is exact: a last notification that finds the thread there leaves it on a
way that leads to no return. -/
theorem stop_leads_to_return_iff (as : List StopAction) :
    (Meets StopState.step NotificationFindsHandler StopState.initial as →
      Throughout StopState.step (fun s => ¬ s.Blocked) StopState.initial as) ∧
    (Throughout StopState.step StopLeadsToReturn StopState.initial as ↔
      Meets StopState.step NotificationFindsHandler StopState.initial as) := by
  have hexact : Throughout StopState.step StopLeadsToReturn StopState.initial as ↔
      Meets StopState.step NotificationFindsHandler StopState.initial as :=
    throughout_iff_meets (I := NothingMissed)
      (fun _ hI => stopLeadsToReturn_iff.mpr hI.notMissed)
      (fun _ _ _ hI hg hs => hI.step hg hs)
      (fun _ _ _ hI hg hs hleads => stopLeadsToReturn_iff.mp hleads (hI.missed hg hs))
      NothingMissed.initial
  exact ⟨fun hg => (hexact.mpr hg).mono fun _ hleads => hleads [] (by simp), hexact⟩

/-- `Stop` notifies while an attempt is in flight and nothing else is queued; the attempt
succeeds. -/
def stopDuringReconnect : List StopAction :=
  [.start, .enterWait, .trackTransport 1 0, .trackNotify, .scan (fun _ => false) 10, .enterWait,
    .timeout 250, .scan (fun _ => false) 250, .stop, .stopNotify, .finish .success 300, .enterWait]

/-- The thread then waits for ever, and `Stop` for the thread. -/
theorem stop_missed :
    ¬ ∀ as : List StopAction,
      Throughout StopState.step (fun s => ¬ s.Blocked) StopState.initial as := by
  intro hall
  have hlast := hall stopDuringReconnect
  revert hlast
  decide

end AdbMobile
