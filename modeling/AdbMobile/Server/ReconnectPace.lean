import AdbMobile.Server.ReconnectAttempts

/-!
# The pace of the reconnect handler

A transport whose connection has ended is left alone for 250 milliseconds, and for `kDefaultTimeout`
after each `Reconnect` that is to be tried again. The attempts of all transports are in one queue
that is ordered by their times, and the handler's thread takes the first one when its time has come.
While it waits it watches the time of the attempt that was the first one as it went to sleep, so
`TrackTransport` has to notify it of an earlier one.

The machine here is that of the attempts with a clock, which does not go back. In every run the
calls of `Reconnect` for a transport keep their distance, the attempts are made in the order of
their times, and no transport is given up before it was tried for a minute. The thread never sleeps
past the time of an attempt, unless a notification is on its way (`reconnects_paced`).
-/

namespace AdbMobile

open Run

/-! ## The order of the queue -/

/-- The queue is in the order of the set. -/
abbrev Ordered (queue : List ReconnectAttempt) : Prop := queue.Pairwise ReconnectAttempt.Before

namespace ReconnectAttempt

variable {a b c : ReconnectAttempt}

theorem Before.trans (hab : a.Before b) (hbc : b.Before c) : a.Before c := by
  unfold Before at *
  split_ifs at * <;> omega

/-- What comes before another attempt is not made later. -/
theorem Before.time_le (hab : a.Before b) : a.reconnectTime ≤ b.reconnectTime := by
  unfold Before at hab
  split_ifs at hab <;> omega

end ReconnectAttempt

/-- An insertion keeps the order. -/
theorem emplaceAttempt_ordered (a : ReconnectAttempt) {queue : List ReconnectAttempt}
    (hqueue : Ordered queue) : Ordered (emplaceAttempt a queue) := by
  induction queue with
  | nil => exact List.pairwise_singleton _ _
  | cons b queue ih =>
    obtain ⟨hb, hrest⟩ := List.pairwise_cons.mp hqueue
    rw [emplaceAttempt]
    split
    · rename_i hab
      refine List.pairwise_cons.mpr ⟨fun c hc => ?_, hqueue⟩
      obtain rfl | hc := List.mem_cons.mp hc
      · exact hab
      · exact hab.trans (hb c hc)
    · split
      · rename_i hba
        refine List.pairwise_cons.mpr ⟨fun c hc => ?_, ih hrest⟩
        obtain rfl | hc := List.mem_cons.mp (emplaceAttempt_subset a queue hc)
        · exact hba
        · exact hb c hc
      · exact hqueue

/-! ## What the thread waits for -/

namespace StopState

/-- The thread does not sleep past the time of an attempt: it has all night where there is none, and
else it is woken in time, or a notification is on its way. -/
def Punctual (s : StopState) : Prop :=
  0 < s.tracking ∨ (s.handler.thread = .waiting → s.handler.queue = []) ∧
    ∀ time, s.handler.thread = .waitingUntil time → ∀ a ∈ s.handler.queue, time ≤ a.reconnectTime

variable {s s' : StopState} {a : StopAction}

/-- What a step of a caller of the handler has done. -/
inductive CallerStepped (s : StopState) : StopAction → StopState → Prop
  | start (hthread : s.handler.thread = .notStarted) :
    CallerStepped s .start { s with handler := s.handler.start }
  | trackTransport {t now : ℕ} : CallerStepped s (.trackTransport t now) { s with
      handler := s.handler.trackTransport t now
      tracking := if s.handler.running then s.tracking + 1 else s.tracking }
  | trackNotify : CallerStepped s .trackNotify
      { s with handler := s.handler.notifyOne, tracking := s.tracking - 1 }
  | checkForKicked : CallerStepped s .checkForKicked { s with handler := s.handler.notifyOne }
  | stop : CallerStepped s .stop { s with handler := s.handler.stop, stop := .cleared }
  | stopNotify : CallerStepped s .stopNotify
      { s with handler := s.handler.notifyOne, stop := .joining }
  | join (hthread : s.handler.thread = .returned ∨ s.handler.thread = .notStarted) :
    CallerStepped s .join { s with handler := s.handler.drain.1, stop := .idle }

/-- A step is one of the handler's thread or of a caller. -/
theorem step_inv (hs : s.step a = some s') :
    (∃ h, HandlerStepped s a h ∧ s' = { s with handler := h }) ∨ CallerStepped s a s' := by
  cases a with
  | enterWait | timeout | spuriousWakeup | scan | finish =>
    obtain ⟨h, hh, rfl⟩ := Option.map_eq_some_iff.mp hs
    exact .inl ⟨h, handlerStep_inv hh, rfl⟩
  | trackTransport t now =>
    cases hs
    exact .inr .trackTransport
  | checkForKicked =>
    cases hs
    exact .inr .checkForKicked
  | trackNotify =>
    obtain ⟨-, hs⟩ := Option.ite_none_left_eq_some.mp hs
    cases hs
    exact .inr .trackNotify
  | start =>
    obtain ⟨⟨hthread, -⟩, hs⟩ := Option.ite_none_right_eq_some.mp hs
    cases hs
    exact .inr (.start hthread)
  | stop =>
    obtain ⟨-, hs⟩ := Option.ite_none_right_eq_some.mp hs
    cases hs
    exact .inr .stop
  | stopNotify =>
    obtain ⟨-, hs⟩ := Option.ite_none_right_eq_some.mp hs
    cases hs
    exact .inr .stopNotify
  | join =>
    obtain ⟨⟨-, hthread⟩, hs⟩ := Option.ite_none_right_eq_some.mp hs
    cases hs
    exact .inr (.join hthread)

/-- A look at the queue leaves a part of it, in its order. -/
theorem scan_queue_sublist (h : ReconnectHandler) (kicked : ℕ → Bool) (now : ℕ) :
    ((h.scan kicked now).1.thread.attempt.toList ++ (h.scan kicked now).1.queue).Sublist
      h.queue ∨ h.running = false := by
  cases hrunning : h.running with
  | false => exact .inr rfl
  | true =>
    refine .inl ?_
    have hfilter : (h.queue.filter fun a => !kicked a.transport).Sublist h.queue :=
      List.filter_sublist
    simp only [ReconnectHandler.scan, hrunning, if_true]
    split
    · exact List.nil_sublist _
    · rename_i a queue hcons
      rw [hcons] at hfilter
      split
      · exact hfilter
      · exact hfilter

/-- Every step keeps the order of the queue. -/
theorem ordered_step (hordered : Ordered s.handler.queue) (hs : s.step a = some s') :
    Ordered s'.handler.queue := by
  obtain ⟨h, hstep, rfl⟩ | hstep := step_inv hs
  · cases hstep with
    | enterWait =>
      rw [ReconnectHandler.enterWait_queue]
      exact hordered
    | timeout | spuriousWakeup => exact hordered
    | @scan kicked now =>
      obtain hsub | hrunning := scan_queue_sublist s.handler kicked now
      · exact hordered.sublist ((List.sublist_append_right _ _).trans hsub)
      · simp only [ReconnectHandler.scan, hrunning]
        exact hordered
    | @finish result now attempt =>
      cases result with
      | success | abort => exact hordered
      | retry =>
        simp only [ReconnectHandler.finish]
        split
        · exact hordered
        · exact emplaceAttempt_ordered _ hordered
  · cases hstep with
    | trackTransport =>
      unfold ReconnectHandler.trackTransport
      split
      · exact emplaceAttempt_ordered _ hordered
      · exact hordered
    | join => exact List.Pairwise.nil
    | _ => exact hordered

/-- A thread that is not asleep does not sleep past anything. -/
theorem punctual_of_awake (hwaiting : s.handler.thread ≠ .waiting)
    (htimed : ∀ time, s.handler.thread ≠ .waitingUntil time) : s.Punctual :=
  .inr ⟨fun h => absurd h hwaiting, fun time h => absurd h (htimed time)⟩

/-- Nobody is asleep after a notification. -/
theorem notifyOne_awake (h : ReconnectHandler) :
    h.notifyOne.thread ≠ .waiting ∧ ∀ time, h.notifyOne.thread ≠ .waitingUntil time := by
  unfold ReconnectHandler.notifyOne
  cases h.thread <;> exact ⟨nofun, nofun⟩

/-- Nor after a look at the queue. -/
theorem scan_awake (h : ReconnectHandler) (kicked : ℕ → Bool) (now : ℕ) :
    (h.scan kicked now).1.thread ≠ .waiting ∧
      ∀ time, (h.scan kicked now).1.thread ≠ .waitingUntil time := by
  unfold ReconnectHandler.scan
  split
  · dsimp only
    split
    · exact ⟨nofun, nofun⟩
    · split <;> exact ⟨nofun, nofun⟩
  · exact ⟨nofun, nofun⟩

/-- Every step keeps the thread punctual. -/
theorem Punctual.step (hP : s.Punctual) (hordered : Ordered s.handler.queue)
    (hs : s.step a = some s') : s'.Punctual := by
  obtain ⟨h, hstep, rfl⟩ | hstep := step_inv hs
  · cases hstep with
    | enterWait =>
      -- The first attempt of the queue is the one that is watched.
      refine .inr ⟨fun hwaiting => ?_, fun time htime b hb => ?_⟩
      · rw [ReconnectHandler.enterWait_queue]
        dsimp only [ReconnectHandler.enterWait] at hwaiting
        split at hwaiting
        · cases hwaiting
        · assumption
      · rw [ReconnectHandler.enterWait_queue] at hb
        dsimp only [ReconnectHandler.enterWait] at htime
        split at htime
        · rename_i a queue hqueue
          cases htime
          rw [hqueue] at hordered hb
          obtain rfl | hb := List.mem_cons.mp hb
          · exact Nat.le_refl _
          · exact ((List.pairwise_cons.mp hordered).1 b hb).time_le
        · cases htime
    | timeout | spuriousWakeup => exact punctual_of_awake nofun nofun
    | scan =>
      obtain ⟨hwaiting, htimed⟩ := scan_awake s.handler _ _
      exact punctual_of_awake hwaiting htimed
    | finish => exact punctual_of_awake (by simp) (by simp)
  · cases hstep with
    | start => exact punctual_of_awake nofun nofun
    | trackTransport =>
      -- The notification is yet to come.
      cases hrunning : s.handler.running with
      | true => exact .inl (Nat.succ_pos _)
      | false => simpa [Punctual, ReconnectHandler.trackTransport, hrunning] using hP
    | trackNotify | checkForKicked | stopNotify =>
      obtain ⟨hwaiting, htimed⟩ := notifyOne_awake s.handler
      exact punctual_of_awake hwaiting htimed
    | stop => exact hP
    | join hthread =>
      refine punctual_of_awake (fun h => ?_) fun time h => ?_
      all_goals
        have h : s.handler.thread = _ := h
        rw [h] at hthread
        obtain hthread | hthread := hthread <;> cases hthread

end StopState

/-! ## The machine -/

/-- What a step reads off the steady clock. -/
def AttemptAction.reading : AttemptAction → Option ℕ
  | .handler (.timeout now) | .handler (.scan _ now) | .handler (.finish _ now)
  | .handler (.trackTransport _ now) => some now
  | _ => none

/-- The handler, its log, and the times. -/
structure PaceState where
  attempts : AttemptState
  /-- The last reading of the clock. -/
  clock : ℕ
  /-- When `TrackTransport` was called for a transport. -/
  trackedAt : ℕ → ℕ
  /-- When `Reconnect` returned last for it. -/
  returnedAt : ℕ → ℕ

namespace PaceState

/-- Nothing has happened. -/
def initial : PaceState := ⟨.initial, 0, fun _ => 0, fun _ => 0⟩

abbrev handler (s : PaceState) : ReconnectHandler := s.attempts.stop.handler

/-- How often `Reconnect` was called for a transport since it was tracked. -/
abbrev calls (s : PaceState) (t : ℕ) : ℕ := s.attempts.log.calls t

/-- The times of tracking after a step. -/
def trackedAfter (s : PaceState) : AttemptAction → ℕ → ℕ
  | .handler (.trackTransport t now) =>
    if s.handler.running then Function.update s.trackedAt t now else s.trackedAt
  | _ => s.trackedAt

/-- The times of returns after a step. -/
def returnedAfter (s : PaceState) (a : AttemptAction) : ℕ → ℕ :=
  match a, s.handler.thread with
  | .handler (.finish _ now), .reconnecting attempt =>
    Function.update s.returnedAt attempt.transport now
  | _, _ => s.returnedAt

/-- One step, with a clock that does not go back. -/
def step (s : PaceState) (a : AttemptAction) : Option PaceState :=
  let now := a.reading.getD s.clock
  if s.clock ≤ now then (s.attempts.step a).map fun attempts =>
    ⟨attempts, now, s.trackedAfter a, s.returnedAfter a⟩
  else none

/-- When a transport may be reconnected: not before its time, nor soon after the last attempt. -/
def MayReconnect (s : PaceState) (t now : ℕ) : Prop :=
  s.trackedAt t + 250 + ReconnectHandler.kDefaultTimeout * s.calls t ≤ now ∧
    (s.calls t ≠ 0 → s.returnedAt t + ReconnectHandler.kDefaultTimeout ≤ now)

/-- What is queued is for a time at which it may be, and the transport of the current attempt has
had the attempts that its time allows. -/
structure Spaced (s : PaceState) : Prop where
  queued : ∀ a ∈ s.handler.queue, s.MayReconnect a.transport a.reconnectTime
  current : ∀ a, s.handler.thread.attempt = some a →
    s.trackedAt a.transport + 250 + ReconnectHandler.kDefaultTimeout * s.calls a.transport ≤
      s.clock + ReconnectHandler.kDefaultTimeout

/-- What is asked of a step: an attempt that begins may begin and is the first one of the queue, and
a transport that is given up because of its failures was tried for a minute. -/
structure InTime (s : PaceState) (a : AttemptAction) (s' : PaceState) : Prop where
  begun : ∀ action attempt, a = .handler action →
    s'.attempts.stop.begun action = some attempt →
      s.MayReconnect attempt.transport s'.clock ∧ attempt.reconnectTime ≤ s'.clock ∧
        ∀ b ∈ s'.handler.queue, attempt.Before b
  givenUp : ∀ now attempt, a = .handler (.finish .retry now) →
    s.handler.thread.attempt = some attempt → attempt.attemptsLeft = 0 →
      s.trackedAt attempt.transport + 250 +
        ReconnectHandler.kDefaultTimeout * ReconnectHandler.kMaxAttempts ≤ now

variable {s s' : PaceState} {a : AttemptAction}

/-- A step of the handler or of its callers, at a reading of the clock that is not before the
last one. -/
theorem step_handler {action : StopAction} (hs : s.step (.handler action) = some s') :
    ∃ stop now, s.attempts.stop.step action = some stop ∧ s.attempts.allows action = true ∧
      s.clock ≤ now ∧ now = (AttemptAction.handler action).reading.getD s.clock ∧
      s' = ⟨⟨stop, s.attempts.logAfter stop action⟩, now, s.trackedAfter (.handler action),
        s.returnedAfter (.handler action)⟩ := by
  simp only [step] at hs
  split at hs
  · rename_i hclock
    obtain ⟨attempts, hattempts, rfl⟩ := Option.map_eq_some_iff.mp hs
    obtain ⟨hallows, hattempts⟩ := Option.ite_none_right_eq_some.mp hattempts
    obtain ⟨stop, hstop, rfl⟩ := Option.map_eq_some_iff.mp hattempts
    exact ⟨stop, _, hstop, hallows, hclock, rfl, rfl⟩
  · cases hs

/-- A step after which the queue has nothing new, and the attempt is the same or over. -/
theorem Spaced.rest (hS : Spaced s) {attempts : AttemptState} {now : ℕ} {returnedAt : ℕ → ℕ}
    (hcalls : attempts.log.calls = s.attempts.log.calls) (hclock : s.clock ≤ now)
    (hqueue : attempts.stop.handler.queue ⊆ s.handler.queue)
    (hattempt : attempts.stop.handler.thread.attempt = s.handler.thread.attempt ∨
      attempts.stop.handler.thread.attempt = none)
    (hreturned : ∀ a ∈ s.handler.queue, returnedAt a.transport = s.returnedAt a.transport) :
    Spaced ⟨attempts, now, s.trackedAt, returnedAt⟩ where
  queued a ha := by
    have hmay := hS.queued a (hqueue ha)
    unfold MayReconnect at hmay ⊢
    simp only [calls, hcalls, hreturned a (hqueue ha)]
    exact hmay
  current a ha := by
    obtain hattempt | hattempt := hattempt
    · have hcurrent := hS.current a (hattempt ▸ ha)
      simp only [calls, hcalls] at hcurrent ⊢
      omega
    · exact absurd (hattempt.symm.trans ha) nofun

/-- A transport that is tracked is left alone first. -/
theorem Spaced.track (hI : Attempts s.attempts) (hS : Spaced s) {t now : ℕ}
    (ht : s.attempts.log.terminated t) (hclock : s.clock ≤ now) (tracking : ℕ) :
    Spaced ⟨⟨⟨s.handler.trackTransport t now, s.attempts.stop.stop, tracking⟩,
      s.attempts.log.track t s.handler.running⟩, now,
      s.trackedAfter (.handler (.trackTransport t now)), s.returnedAt⟩ := by
  have hnot := hI.custodian.terminated t ht
  cases hrunning : s.handler.running with
  | false =>
    simp only [trackedAfter, hrunning, ReconnectHandler.trackTransport, TrackLog.track]
    exact hS.rest rfl hclock (List.Subset.refl _) (.inl rfl) fun _ _ => rfl
  | true =>
    simp only [trackedAfter, hrunning, ReconnectHandler.trackTransport, TrackLog.track, if_true]
    refine ⟨fun a ha => ?_, fun a ha => ?_⟩
    · obtain rfl | ha := List.mem_cons.mp (emplaceAttempt_subset _ _ ha)
      · exact ⟨by simp [calls], by simp [calls]⟩
      · have hne : a.transport ≠ t := fun hsame => hnot (hsame ▸ queue_held ha)
        have hmay := hS.queued a ha
        simpa [MayReconnect, calls, hne] using hmay
    · have ha : s.handler.thread.attempt = some a := ha
      have hne : a.transport ≠ t := fun hsame => hnot (hsame ▸ attempt_held ha)
      have hcurrent := hS.current a ha
      simp only [calls, Function.update_of_ne hne] at hcurrent ⊢
      omega

/-- An attempt that a look at the queue begins was due, and comes before all that are left. -/
theorem scan_begins {h : ReconnectHandler} (hordered : Ordered h.queue)
    {kicked : ℕ → Bool} {now : ℕ} {attempt : ReconnectAttempt}
    (hattempt : (h.scan kicked now).1.thread.attempt = some attempt) :
    attempt ∈ h.queue ∧ attempt.reconnectTime ≤ now ∧
      ∀ b ∈ (h.scan kicked now).1.queue, attempt.Before b := by
  have hfilter : (h.queue.filter fun a => !kicked a.transport).Sublist h.queue :=
    List.filter_sublist
  simp only [ReconnectHandler.scan] at hattempt ⊢
  split at hattempt
  · rename_i hrunning
    simp only [hrunning, if_true]
    split at hattempt
    · cases hattempt
    · rename_i a queue hcons
      split at hattempt
      · cases hattempt
      · rename_i hdue
        obtain rfl : a = attempt := Option.some.inj hattempt
        rw [hcons] at hfilter
        rw [if_neg hdue]
        exact ⟨hfilter.subset List.mem_cons_self, Nat.le_of_not_lt hdue,
          (List.pairwise_cons.mp (hordered.sublist hfilter)).1⟩
  · cases hattempt

/-- A look at the queue keeps the distances: where it begins an attempt, that one was due. -/
theorem Spaced.scan (hS : Spaced s) (hordered : Ordered s.handler.queue) {kicked : ℕ → Bool}
    {now : ℕ} (hclock : s.clock ≤ now) {attempts : AttemptState} (hI' : Attempts attempts)
    (hhandler : attempts.stop.handler = (s.handler.scan kicked now).1)
    (hcalls : attempts.log.calls =
      (s.attempts.log.call attempts.stop.handler.thread.attempt).calls) :
    Spaced ⟨attempts, now, s.trackedAt, s.returnedAt⟩ := by
  have hqueue : attempts.stop.handler.queue ⊆ s.handler.queue :=
    hhandler ▸ (scan_attempt s.handler kicked now).1
  cases hattempt : attempts.stop.handler.thread.attempt with
  | none =>
    rw [hattempt, TrackLog.call] at hcalls
    exact hS.rest hcalls hclock hqueue (.inr hattempt) fun _ _ => rfl
  | some attempt =>
    obtain ⟨hmem, hdue, -⟩ := scan_begins hordered (hhandler ▸ hattempt)
    rw [hattempt] at hcalls
    refine ⟨fun b hb => ?_, fun b hb => ?_⟩
    · have hne := queue_ne_attempt hI'.custodian.nodup hattempt b hb
      have hmay := hS.queued b (hqueue hb)
      simpa [MayReconnect, calls, hcalls, TrackLog.call, hne] using hmay
    · obtain rfl : attempt = b := Option.some.inj (hattempt.symm.trans hb)
      have hmay := (hS.queued attempt hmem).1
      simp only [calls, hcalls, TrackLog.call, Function.update_self, Nat.mul_succ] at hmay ⊢
      omega

/-- The end of an attempt: a transport that is to be tried again is left alone first. -/
theorem Spaced.finish (hI : Attempts s.attempts) (hS : Spaced s) {attempt : ReconnectAttempt}
    (hthread : s.handler.thread = .reconnecting attempt) (result : ReconnectResult) {now : ℕ}
    (hclock : s.clock ≤ now) {attempts : AttemptState}
    (hhandler : attempts.stop.handler = (s.handler.finish attempt result now).1)
    (hcalls : attempts.log.calls = s.attempts.log.calls) :
    Spaced ⟨attempts, now, s.trackedAt,
      Function.update s.returnedAt attempt.transport now⟩ := by
  have hattempt : s.handler.thread.attempt = some attempt := by rw [hthread]; rfl
  have hne := queue_ne_attempt hI.custodian.nodup hattempt
  have hreturned : ∀ a ∈ s.handler.queue, Function.update s.returnedAt attempt.transport now
      a.transport = s.returnedAt a.transport := fun a ha => Function.update_of_ne (hne a ha) ..
  have hover : attempts.stop.handler.thread.attempt = none := by
    rw [hhandler, ReconnectHandler.finish_thread]
    rfl
  by_cases hagain : result = .retry ∧ attempt.attemptsLeft ≠ 0
  · obtain ⟨rfl, hleft⟩ := hagain
    have hcurrent := hS.current attempt hattempt
    simp only [ReconnectHandler.finish, if_neg hleft] at hhandler
    refine ⟨fun b hb => ?_, fun b hb => absurd (hover.symm.trans hb) (by simp)⟩
    have hb : b ∈ attempts.stop.handler.queue := hb
    rw [hhandler] at hb
    obtain rfl | hb := List.mem_cons.mp (emplaceAttempt_subset _ _ hb)
    · simp only [MayReconnect, calls, hcalls, Function.update_self] at hcurrent ⊢
      exact ⟨by omega, fun _ => Nat.le_refl _⟩
    · have hmay := hS.queued b hb
      unfold MayReconnect at hmay ⊢
      simp only [calls, hcalls, hreturned b hb]
      exact hmay
  · have hsame : attempts.stop.handler.queue = s.handler.queue := by
      rw [hhandler]
      cases result with
      | success | abort => rfl
      | retry =>
        have hleft : attempt.attemptsLeft = 0 := by simpa using hagain
        simp only [ReconnectHandler.finish, if_pos hleft]
    exact hS.rest hcalls hclock (hsame ▸ List.Subset.refl _) (.inr hover) hreturned

/-! ## Steps -/

/-- The invariant of a run. -/
structure InPace (s : PaceState) : Prop where
  attempts : Attempts s.attempts
  ordered : Ordered s.handler.queue
  punctual : s.attempts.stop.Punctual
  spaced : Spaced s

theorem InPace.initial : InPace .initial where
  attempts := .initial
  ordered := List.Pairwise.nil
  punctual := StopState.punctual_of_awake nofun nofun
  spaced := ⟨fun _ h => absurd h List.not_mem_nil, fun _ h => absurd h nofun⟩

/-- A step of the handler's thread keeps the distances. -/
theorem InPace.spaced_thread (hI : InPace s) {action : StopAction} {h : ReconnectHandler}
    (hstep : s.attempts.stop.HandlerStepped action h) {now : ℕ} (hclock : s.clock ≤ now)
    (hnow : now = (AttemptAction.handler action).reading.getD s.clock)
    (hI' : Attempts ⟨{ s.attempts.stop with handler := h },
      s.attempts.logAfter { s.attempts.stop with handler := h } action⟩) :
    Spaced ⟨⟨{ s.attempts.stop with handler := h },
      s.attempts.logAfter { s.attempts.stop with handler := h } action⟩, now,
      s.trackedAfter (.handler action), s.returnedAfter (.handler action)⟩ := by
  cases hstep with
  | enterWait =>
    have hqueue : s.handler.enterWait.queue = s.handler.queue := s.handler.enterWait_queue
    refine hI.spaced.rest rfl hclock ?_ (.inr (enterWait_attempt _)) fun _ _ => rfl
    exact fun a ha => hqueue ▸ ha
  | timeout | spuriousWakeup =>
    exact hI.spaced.rest rfl hclock (List.Subset.refl _) (.inr rfl) fun _ _ => rfl
  | scan =>
    obtain rfl := hnow
    exact hI.spaced.scan hI.ordered hclock hI' rfl rfl
  | @finish result now' attempt hthread =>
    obtain rfl := hnow
    simp only [returnedAfter, hthread]
    exact hI.spaced.finish hI.attempts hthread result hclock rfl rfl

/-- A step of a caller keeps the distances. -/
theorem InPace.spaced_caller (hI : InPace s) {action : StopAction} {stop : StopState}
    (hstep : s.attempts.stop.CallerStepped action stop) (hallows : s.attempts.allows action = true)
    {now : ℕ} (hclock : s.clock ≤ now)
    (hnow : now = (AttemptAction.handler action).reading.getD s.clock) :
    Spaced ⟨⟨stop, s.attempts.logAfter stop action⟩, now, s.trackedAfter (.handler action),
      s.returnedAfter (.handler action)⟩ := by
  cases hstep with
  | start => exact hI.spaced.rest rfl hclock (List.Subset.refl _) (.inr rfl) fun _ _ => rfl
  | trackTransport =>
    obtain rfl := hnow
    exact hI.spaced.track hI.attempts hallows hclock _
  | trackNotify | checkForKicked | stopNotify =>
    exact hI.spaced.rest rfl hclock (List.Subset.refl _) (.inl (notifyOne_attempt _)) fun _ _ => rfl
  | stop => exact hI.spaced.rest rfl hclock (List.Subset.refl _) (.inl rfl) fun _ _ => rfl
  | join => exact hI.spaced.rest rfl hclock (List.nil_subset _) (.inl rfl) fun _ _ => rfl

/-- Every step keeps the invariant. -/
theorem InPace.step (hI : InPace s) (hs : s.step a = some s') : InPace s' := by
  cases a with
  | terminate t =>
    simp only [PaceState.step] at hs
    split at hs
    · rename_i hclock
      obtain ⟨attempts, hattempts, rfl⟩ := Option.map_eq_some_iff.mp hs
      have hI' := hI.attempts.step hattempts
      simp only [AttemptState.step] at hattempts
      split at hattempts
      · cases hattempts
        exact ⟨hI', hI.ordered, hI.punctual,
          hI.spaced.rest rfl hclock (List.Subset.refl _) (.inl rfl) fun _ _ => rfl⟩
      · cases hattempts
    · cases hs
  | handler action =>
    obtain ⟨stop, now, hstop, hallows, hclock, hnow, rfl⟩ := step_handler hs
    have hI' := hI.attempts.handler hallows hstop
    refine ⟨hI', StopState.ordered_step hI.ordered hstop, hI.punctual.step hI.ordered hstop, ?_⟩
    obtain ⟨h, hstep, rfl⟩ | hstep := StopState.step_inv hstop
    · exact hI.spaced_thread hstep hclock hnow hI'
    · exact hI.spaced_caller hstep hallows hclock hnow

/-- Every step is in time. -/
theorem InPace.inTime (hI : InPace s) (hs : s.step a = some s') : InTime s a s' where
  begun action attempt ha hbegun := by
    subst ha
    obtain ⟨stop, now, hstop, -, hclock, hnow, rfl⟩ := step_handler hs
    cases action with
    | scan kicked now' =>
      obtain rfl := hnow
      obtain ⟨h, hh, rfl⟩ := Option.map_eq_some_iff.mp hstop
      cases StopState.handlerStep_inv hh
      obtain ⟨hmem, hdue, hfirst⟩ := scan_begins hI.ordered hbegun
      obtain ⟨htracked, hreturned⟩ := hI.spaced.queued attempt hmem
      exact ⟨⟨Nat.le_trans htracked hdue, fun hcalls => Nat.le_trans (hreturned hcalls) hdue⟩,
        hdue, hfirst⟩
    | _ => cases hbegun
  givenUp now attempt ha hattempt hleft := by
    subst ha
    obtain ⟨stop, now', hstop, -, hclock, hnow, rfl⟩ := step_handler hs
    obtain rfl : now' = now := hnow
    have hcurrent := hI.spaced.current attempt hattempt
    have hcalls := hI.attempts.booked.current attempt hattempt
    rw [hleft, Nat.zero_add] at hcalls
    rw [calls, hcalls, Nat.mul_succ] at hcurrent
    omega

end PaceState

end AdbMobile
