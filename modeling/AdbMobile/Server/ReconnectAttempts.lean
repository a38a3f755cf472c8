import Mathlib.Data.List.Nodup
import AdbMobile.Server.StopReconnect

/-!
# The attempts of the reconnect handler

A transport that is tracked is in the queue or at its attempt until `register_transport` or
`remove_transport` is called for it. The queue is a set that is ordered by time and then by address,
and an attempt for a transport that it does not hold is never taken for one that it holds.

The machine here is that of the handler and of the calls of its functions, with a log of what has
happened to each transport. `TrackTransport` is called at most once for a connection that has
terminated, and a connection terminates only where the handler is not at work on its transport. A
run counts `kMaxAttempts + 1` calls of `Reconnect` for a transport at most, and one outcome
(`attempts_accounted`).
-/

namespace AdbMobile

open Run

/-- What has happened to the transports, at their addresses. -/
structure TrackLog where
  /-- A connection has terminated, and `TrackTransport` may be called for it. -/
  terminated : ℕ → Bool
  /-- `TrackTransport` was called before `Stop`. -/
  tracked : ℕ → Bool
  /-- How often `Reconnect` was called since then. -/
  calls : ℕ → ℕ
  /-- The calls of `register_transport` and of `remove_transport` since then. -/
  outcomes : ℕ → List LooperCallback

namespace TrackLog

/-- Nothing has happened. -/
def initial : TrackLog := ⟨fun _ => false, fun _ => false, fun _ => 0, fun _ => []⟩

/-- `TrackTransport` is called. -/
def track (l : TrackLog) (t : ℕ) (running : Bool) : TrackLog :=
  if running then {
    terminated := Function.update l.terminated t false
    tracked := Function.update l.tracked t true
    calls := Function.update l.calls t 0
    outcomes := Function.update l.outcomes t [] }
  else { l with terminated := Function.update l.terminated t false }

/-- `Reconnect` is called for an attempt. -/
def call (l : TrackLog) (attempt : Option ReconnectAttempt) : TrackLog :=
  match attempt with
  | some a => { l with calls := Function.update l.calls a.transport (l.calls a.transport + 1) }
  | none => l

/-- What is queued on the looper is noted. -/
def record (l : TrackLog) (cs : List LooperCallback) : TrackLog :=
  { l with outcomes := fun t => l.outcomes t ++ cs.filter fun c => c.transport = t }

end TrackLog

/-! ## The machine -/

namespace StopState

/-- What a step queues on the looper. -/
def emitted (s : StopState) (a : StopAction) : List LooperCallback :=
  match a, s.handler.thread with
  | .scan kicked now, .woken => (s.handler.scan kicked now).2
  | .finish result now, .reconnecting attempt => (s.handler.finish attempt result now).2
  | .join, _ => s.handler.drain.2
  | _, _ => []

/-- The attempt that a step begins, where `s` is the state after it. -/
def begun (s : StopState) : StopAction → Option ReconnectAttempt
  | .scan _ _ => s.handler.thread.attempt
  | _ => none

/-- The attempt that a step inserts into the queue. -/
def inserted (s : StopState) (a : StopAction) : Option ReconnectAttempt :=
  match a, s.handler.thread with
  | .trackTransport t now, _ =>
    if s.handler.running then some ⟨t, now + 250, ReconnectHandler.kMaxAttempts⟩ else none
  | .finish .retry now, .reconnecting attempt =>
    if attempt.attemptsLeft = 0 then none
    else some ⟨attempt.transport, now + ReconnectHandler.kDefaultTimeout, attempt.attemptsLeft - 1⟩
  | _, _ => none

end StopState

/-- The handler, and what has happened to the transports. -/
structure AttemptState where
  stop : StopState
  log : TrackLog

/-- The steps of the handler and of its callers, and the end of a connection. -/
inductive AttemptAction
  | terminate (t : ℕ)
  | handler (a : StopAction)

namespace AttemptState

/-- Nothing has happened. -/
def initial : AttemptState := ⟨.initial, .initial⟩

/-- `TrackTransport` is called once for a connection that has terminated. -/
def allows (s : AttemptState) : StopAction → Bool
  | .trackTransport t _ => s.log.terminated t
  | _ => true

/-- The log after a step to a state of the handler. -/
def logAfter (s : AttemptState) (stop : StopState) : StopAction → TrackLog
  | .trackTransport t _ => s.log.track t s.stop.handler.running
  | a => (s.log.call (stop.begun a)).record (s.stop.emitted a)

/-- One step. A transport that the handler holds has no connection. -/
def step (s : AttemptState) : AttemptAction → Option AttemptState
  | .terminate t =>
    if s.log.terminated t = false ∧ (s.log.tracked t → s.log.outcomes t ≠ []) then
      some { s with log := { s.log with terminated := Function.update s.log.terminated t true } }
    else none
  | .handler a =>
    if s.allows a then (s.stop.step a).map fun stop => ⟨stop, s.logAfter stop a⟩ else none

end AttemptState

/-! ## Accounts of the attempts -/

/-- Attempts are not lost, and they are bounded. -/
structure Accounted (s : AttemptState) : Prop where
  /-- A transport that is tracked is held once, until it is registered or removed. -/
  once : ∀ t, s.log.tracked t → s.log.outcomes t = [] → s.stop.handler.held.count t = 1
  /-- It is registered or removed once, and is then not held. -/
  released : ∀ t, s.log.tracked t → s.log.outcomes t ≠ [] → t ∉ s.stop.handler.held ∧
    (s.log.outcomes t = [.register t] ∨ s.log.outcomes t = [.unregister t])
  bounded : ∀ t, s.log.calls t ≤ ReconnectHandler.kMaxAttempts + 1
  /-- After so many calls, once the last of them is over, it is registered or removed. -/
  exhausted : ∀ t, s.log.tracked t → s.log.calls t = ReconnectHandler.kMaxAttempts + 1 →
    (∀ a, s.stop.handler.thread.attempt = some a → a.transport ≠ t) → s.log.outcomes t ≠ []

/-- A step that inserts an attempt drops none, and counts down without an underflow. -/
def InsertsAll (s : AttemptState) (a : AttemptAction) (s' : AttemptState) : Prop :=
  ∀ action, a = .handler action → ∀ b, s.stop.inserted action = some b →
    s'.stop.handler.queue.Perm (b :: s.stop.handler.queue) ∧
      ∀ result now, action = .finish result now → ∀ attempt,
        s.stop.handler.thread.attempt = some attempt → attempt.attemptsLeft = b.attemptsLeft + 1

/-! ## The invariant -/

/-- The attempts that are left, and the calls that were made. -/
structure Booked (h : ReconnectHandler) (calls : ℕ → ℕ) : Prop where
  queued : ∀ a ∈ h.queue, a.attemptsLeft + calls a.transport = ReconnectHandler.kMaxAttempts
  current : ∀ a, h.thread.attempt = some a →
    a.attemptsLeft + calls a.transport = ReconnectHandler.kMaxAttempts + 1

/-- The transports that are held are those that are tracked and without an outcome. -/
structure Custodian (h : ReconnectHandler) (l : TrackLog) : Prop where
  nodup : h.held.Nodup
  held_iff : ∀ t, t ∈ h.held ↔ l.tracked t ∧ l.outcomes t = []
  outcome : ∀ t, l.outcomes t = [] ∨ l.outcomes t = [.register t] ∨
    l.outcomes t = [.unregister t]
  terminated : ∀ t, l.terminated t → t ∉ h.held

/-- The invariant of a run. -/
structure Attempts (s : AttemptState) : Prop where
  custodian : Custodian s.stop.handler s.log
  booked : Booked s.stop.handler s.log.calls
  bounded : ∀ t, s.log.calls t ≤ ReconnectHandler.kMaxAttempts + 1

theorem Attempts.initial : Attempts .initial where
  custodian := ⟨List.nodup_nil, fun _ => iff_of_false List.not_mem_nil fun h => absurd h.1 nofun,
    fun _ => .inl rfl, fun _ h => absurd h nofun⟩
  booked := ⟨fun _ h => absurd h List.not_mem_nil, fun _ h => absurd h nofun⟩
  bounded _ := Nat.zero_le _

variable {s s' : AttemptState} {h h' : ReconnectHandler} {l : TrackLog}

/-- The invariant accounts for the attempts. -/
theorem Attempts.accounted (hI : Attempts s) : Accounted s where
  once t ht hnone := List.count_eq_one_of_mem hI.custodian.nodup
    ((hI.custodian.held_iff t).mpr ⟨ht, hnone⟩)
  released t _ hsome := ⟨fun hheld => hsome ((hI.custodian.held_iff t).mp hheld).2,
    (hI.custodian.outcome t).resolve_left hsome⟩
  bounded := hI.bounded
  exhausted t ht hcalls hnot hnone := by
    -- It would be held, and its attempt would be one too many.
    obtain ⟨a, ha, rfl⟩ := List.mem_map.mp ((hI.custodian.held_iff t).mpr ⟨ht, hnone⟩)
    obtain ha | ha := List.mem_append.mp ha
    · exact hnot a (Option.mem_toList.mp ha) rfl
    · have := hI.booked.queued a ha
      omega

/-! ## What leaves the handler, and what it holds on to -/

/-- One of the callbacks on the looper is about a transport where each is about another one. -/
theorem filter_transport {cs : List LooperCallback} (hcs : (cs.map LooperCallback.transport).Nodup)
    {c : LooperCallback} (hc : c ∈ cs) :
    cs.filter (fun c' => c'.transport = c.transport) = [c] := by
  induction cs with
  | nil => exact absurd hc List.not_mem_nil
  | cons d cs ih =>
    rw [List.map_cons, List.nodup_cons] at hcs
    obtain rfl | hmem := List.mem_cons.mp hc
    · rw [List.filter_cons_of_pos (by simp)]
      refine congrArg _ (List.filter_eq_nil_iff.mpr fun d hd hsame => ?_)
      exact hcs.1 (List.mem_map.mpr ⟨d, hd, by simpa using hsame⟩)
    · have hne : d.transport ≠ c.transport := fun hsame =>
        hcs.1 (hsame ▸ List.mem_map_of_mem hmem)
      rw [List.filter_cons_of_neg (by simpa using hne), ih hcs.2 hmem]

theorem filter_transport_eq_nil {cs : List LooperCallback} {t : ℕ}
    (ht : t ∉ cs.map LooperCallback.transport) :
    cs.filter (fun c => c.transport = t) = [] :=
  List.filter_eq_nil_iff.mpr fun c hc hsame =>
    ht (List.mem_map.mpr ⟨c, hc, by simpa using hsame⟩)

/-- The callback registers or removes its transport. -/
def LooperCallback.IsOutcome (c : LooperCallback) : Prop :=
  c = .register c.transport ∨ c = .unregister c.transport

/-- What the handler no longer holds has its outcome. -/
theorem Custodian.release (hI : Custodian h l) {cs : List LooperCallback}
    (hheld : h.held.Perm (h'.held ++ cs.map LooperCallback.transport))
    (hcs : ∀ c ∈ cs, c.IsOutcome) : Custodian h' (l.record cs) := by
  have hnodup := hheld.nodup_iff.mp hI.nodup
  obtain ⟨hheld', hcs', hdisjoint⟩ := List.nodup_append'.mp hnodup
  have hnone : ∀ t, t ∉ cs.map LooperCallback.transport →
      (l.record cs).outcomes t = l.outcomes t := fun t ht => by
    show l.outcomes t ++ cs.filter _ = _
    rw [filter_transport_eq_nil ht, List.append_nil]
  have hone : ∀ c ∈ cs, (l.record cs).outcomes c.transport = [c] := fun c hc => by
    have hmem : c.transport ∈ h.held :=
      hheld.mem_iff.mpr (List.mem_append_right _ (List.mem_map_of_mem hc))
    show l.outcomes c.transport ++ cs.filter _ = _
    rw [filter_transport hcs' hc, ((hI.held_iff _).mp hmem).2, List.nil_append]
  refine ⟨hheld', fun t => ?_, fun t => ?_, fun t ht hmem => ?_⟩
  · by_cases ht : t ∈ cs.map LooperCallback.transport
    · obtain ⟨c, hc, rfl⟩ := List.mem_map.mp ht
      refine iff_of_false (fun hmem => hdisjoint hmem ht) fun hnil => ?_
      exact absurd ((hone c hc).symm.trans hnil.2) (List.cons_ne_nil _ _)
    · rw [hnone t ht]
      refine Iff.trans ?_ (hI.held_iff t)
      rw [hheld.mem_iff, List.mem_append, or_iff_left ht]
  · by_cases ht : t ∈ cs.map LooperCallback.transport
    · obtain ⟨c, hc, rfl⟩ := List.mem_map.mp ht
      rw [hone c hc, List.singleton_inj, List.singleton_inj]
      exact .inr (hcs c hc)
    · rw [hnone t ht]
      exact hI.outcome t
  · exact hI.terminated t ht (hheld.mem_iff.mpr (List.mem_append_left _ hmem))

/-- Calls of `Reconnect` make no outcome. -/
theorem Custodian.call (hI : Custodian h l) (attempt : Option ReconnectAttempt) :
    Custodian h (l.call attempt) := by
  cases attempt with
  | none => exact hI
  | some a => exact ⟨hI.nodup, hI.held_iff, hI.outcome, hI.terminated⟩

/-- A handler that holds what it held. -/
theorem Custodian.of_held (hI : Custodian h l) (hheld : h'.held = h.held) : Custodian h' l :=
  ⟨hheld ▸ hI.nodup, hheld ▸ hI.held_iff, hI.outcome, hheld ▸ hI.terminated⟩

/-- A transport whose connection has terminated is tracked. -/
theorem Custodian.track (hI : Custodian h l) {t : ℕ} (ht : l.terminated t) (now : ℕ) :
    Custodian (h.trackTransport t now) (l.track t h.running) := by
  have hnot := hI.terminated t ht
  by_cases hrunning : h.running
  · have hheld := ReconnectHandler.trackTransport_held now hrunning hnot
    rw [TrackLog.track, if_pos hrunning]
    refine ⟨hheld.nodup_iff.mpr (List.nodup_cons.mpr ⟨hnot, hI.nodup⟩), fun u => ?_, fun u => ?_,
      fun u hu => ?_⟩
    · rw [hheld.mem_iff, List.mem_cons]
      dsimp only
      by_cases hu : u = t
      · subst hu
        simp
      · rw [Function.update_of_ne hu, Function.update_of_ne hu, or_iff_right hu]
        exact hI.held_iff u
    · dsimp only
      by_cases hu : u = t
      · subst hu
        exact .inl (Function.update_self ..)
      · rw [Function.update_of_ne hu]
        exact hI.outcome u
    · dsimp only at hu
      rw [hheld.mem_iff, List.mem_cons, not_or]
      have hne : u ≠ t := by
        rintro rfl
        rw [Function.update_self] at hu
        exact absurd hu nofun
      rw [Function.update_of_ne hne] at hu
      exact ⟨hne, hI.terminated u hu⟩
  · rw [TrackLog.track, if_neg hrunning, ReconnectHandler.trackTransport, if_neg hrunning]
    refine ⟨hI.nodup, hI.held_iff, hI.outcome, fun u hu => ?_⟩
    by_cases hut : u = t
    · exact hut ▸ hnot
    · exact hI.terminated u (by simpa [hut] using hu)

/-! ## What is left of the attempts -/

theorem attempt_held {a : ReconnectAttempt} (ha : h.thread.attempt = some a) :
    a.transport ∈ h.held :=
  List.mem_map_of_mem (List.mem_append_left _ (Option.mem_toList.mpr ha))

theorem queue_held {a : ReconnectAttempt} (ha : a ∈ h.queue) : a.transport ∈ h.held :=
  List.mem_map_of_mem (List.mem_append_right _ ha)

/-- The transport of the current attempt is not queued. -/
theorem queue_ne_attempt (hnodup : h.held.Nodup) {a : ReconnectAttempt}
    (ha : h.thread.attempt = some a) : ∀ b ∈ h.queue, b.transport ≠ a.transport := by
  intro b hb hsame
  rw [ReconnectHandler.held, ha, Option.toList_some, List.singleton_append, List.map_cons,
    List.nodup_cons] at hnodup
  exact hnodup.1 (List.mem_map.mpr ⟨b, hb, hsame⟩)

/-- A handler with fewer attempts. -/
theorem Booked.subset {calls : ℕ → ℕ} (hB : Booked h calls) (hqueue : h'.queue ⊆ h.queue)
    (hattempt : h'.thread.attempt = none) : Booked h' calls where
  queued a ha := hB.queued a (hqueue ha)
  current _ ha := absurd (hattempt.symm.trans ha) nofun

/-- A transport that is tracked has all its attempts. -/
theorem Booked.track (hB : Booked h l.calls) {t : ℕ} (ht : t ∉ h.held) (now : ℕ) :
    Booked (h.trackTransport t now) (l.track t h.running).calls := by
  by_cases hrunning : h.running
  · rw [TrackLog.track, if_pos hrunning, ReconnectHandler.trackTransport, if_pos hrunning]
    refine ⟨fun a ha => ?_, fun a ha => ?_⟩
    · dsimp only
      obtain rfl | ha := List.mem_cons.mp (emplaceAttempt_subset _ _ ha)
      · rw [Function.update_self, Nat.add_zero]
      · have hne : a.transport ≠ t := fun hsame => ht (hsame ▸ queue_held ha)
        rw [Function.update_of_ne hne]
        exact hB.queued a ha
    · have hne : a.transport ≠ t := fun hsame => ht (hsame ▸ attempt_held ha)
      dsimp only
      rw [Function.update_of_ne hne]
      exact hB.current a ha
  · rw [TrackLog.track, if_neg hrunning, ReconnectHandler.trackTransport, if_neg hrunning]
    exact hB

/-- What a look at the queue leaves, and which attempt it begins. -/
theorem scan_attempt (h : ReconnectHandler) (kicked : ℕ → Bool) (now : ℕ) :
    (h.scan kicked now).1.queue ⊆ h.queue ∧
      ∀ a, (h.scan kicked now).1.thread.attempt = some a → a ∈ h.queue := by
  have hfilter : h.queue.filter (fun a => !kicked a.transport) ⊆ h.queue :=
    List.filter_sublist.subset
  unfold ReconnectHandler.scan
  split
  · split
    · exact ⟨List.nil_subset _, fun _ ha => absurd ha nofun⟩
    · rename_i a queue hcons
      rw [hcons] at hfilter
      split
      · exact ⟨hfilter, fun _ ha => absurd ha nofun⟩
      · refine ⟨fun b hb => hfilter (List.mem_cons_of_mem a hb), fun b hb => ?_⟩
        obtain rfl : a = b := Option.some.inj hb
        exact hfilter List.mem_cons_self
  · exact ⟨List.Subset.refl _, fun _ ha => absurd ha nofun⟩

/-- A look at the queue removes transports. -/
theorem scan_outcome {kicked : ℕ → Bool} {now : ℕ} {c : LooperCallback}
    (hc : c ∈ (h.scan kicked now).2) : c.IsOutcome := by
  have hremoved : ∀ c ∈ (h.queue.filter fun a => kicked a.transport).map fun a =>
      LooperCallback.unregister a.transport, c.IsOutcome := by
    intro c hc
    obtain ⟨a, -, rfl⟩ := List.mem_map.mp hc
    exact .inr rfl
  unfold ReconnectHandler.scan at hc
  split at hc
  · split at hc
    · exact hremoved c hc
    · split at hc <;> exact hremoved c hc
  · exact absurd hc List.not_mem_nil

/-- The end of an attempt registers its transport, or removes it. -/
theorem finish_outcome {a : ReconnectAttempt} {result : ReconnectResult} {now : ℕ}
    {c : LooperCallback} (hc : c ∈ (h.finish a result now).2) : c.IsOutcome := by
  cases result with
  | retry =>
    simp only [ReconnectHandler.finish] at hc
    split at hc
    · obtain rfl := List.mem_singleton.mp hc
      exact .inr rfl
    · exact absurd hc List.not_mem_nil
  | success =>
    obtain rfl := List.mem_singleton.mp hc
    exact .inl rfl
  | abort =>
    obtain rfl := List.mem_singleton.mp hc
    exact .inr rfl

/-- A call of `Reconnect` uses up one attempt. -/
theorem Booked.scan (hB : Booked h l.calls) (kicked : ℕ → Bool) (now : ℕ)
    (hnodup : (h.scan kicked now).1.held.Nodup) :
    Booked (h.scan kicked now).1 (l.call (h.scan kicked now).1.thread.attempt).calls := by
  obtain ⟨hqueue, hbegun⟩ := scan_attempt h kicked now
  cases hattempt : (h.scan kicked now).1.thread.attempt with
  | none => exact hB.subset hqueue hattempt
  | some a =>
    have hne := queue_ne_attempt hnodup hattempt
    have hleft := hB.queued a (hbegun a hattempt)
    refine ⟨fun b hb => ?_, fun b hb => ?_⟩
    · show b.attemptsLeft + Function.update l.calls a.transport _ b.transport = _
      rw [Function.update_of_ne (hne b hb)]
      exact hB.queued b (hqueue hb)
    · obtain rfl := Option.some.inj (hattempt.symm.trans hb)
      show a.attemptsLeft + Function.update l.calls a.transport _ a.transport = _
      rw [Function.update_self]
      omega

/-- An attempt that is queued again has the attempts that are left. -/
theorem Booked.finish {calls : ℕ → ℕ} (hB : Booked h calls) {a : ReconnectAttempt}
    (ha : h.thread.attempt = some a) (result : ReconnectResult) (now : ℕ) :
    Booked (h.finish a result now).1 calls := by
  have hleft := hB.current a ha
  cases result with
  | retry =>
    simp only [ReconnectHandler.finish]
    split
    · exact hB.subset (List.Subset.refl _) rfl
    · refine ⟨fun b hb => ?_, fun b hb => absurd hb.symm (Option.some_ne_none b)⟩
      obtain rfl | hb := List.mem_cons.mp (emplaceAttempt_subset _ _ hb)
      · dsimp only
        omega
      · exact hB.queued b hb
  | success => exact hB.subset (List.Subset.refl _) rfl
  | abort => exact hB.subset (List.Subset.refl _) rfl

/-! ## Steps -/

namespace AttemptState

/-- A step that neither begins an attempt nor queues anything on the looper. -/
theorem logAfter_of_quiet {a : StopAction} {stop : StopState} (hbegun : stop.begun a = none)
    (hemitted : s.stop.emitted a = []) (ha : ∀ t now, a ≠ .trackTransport t now) :
    s.logAfter stop a = s.log := by
  have hlog : s.logAfter stop a = (s.log.call (stop.begun a)).record (s.stop.emitted a) := by
    unfold logAfter
    split
    · exact absurd rfl (ha _ _)
    · rfl
  rw [hlog, hbegun, hemitted, TrackLog.call, TrackLog.record]
  simp only [List.filter_nil, List.append_nil]

end AttemptState

/-- A step that changes neither the queue nor the attempt. -/
theorem Attempts.quiet (hI : Attempts s) {stop : StopState}
    (hattempt : stop.handler.thread.attempt = s.stop.handler.thread.attempt)
    (hqueue : stop.handler.queue = s.stop.handler.queue) : Attempts ⟨stop, s.log⟩ where
  custodian := hI.custodian.of_held (by
    rw [ReconnectHandler.held, hattempt, hqueue, ReconnectHandler.held])
  booked := ⟨fun a ha => hI.booked.queued a (hqueue ▸ ha),
    fun a ha => hI.booked.current a (hattempt ▸ ha)⟩
  bounded := hI.bounded

/-- The end of a connection of a transport that the handler does not hold. -/
theorem Attempts.terminate (hI : Attempts s) {t : ℕ}
    (ht : s.log.tracked t → s.log.outcomes t ≠ []) :
    Attempts { s with log :=
      { s.log with terminated := Function.update s.log.terminated t true } } where
  custodian := by
    refine ⟨hI.custodian.nodup, hI.custodian.held_iff, hI.custodian.outcome, fun u hu hheld => ?_⟩
    by_cases hut : u = t
    · obtain ⟨htracked, hnone⟩ := (hI.custodian.held_iff u).mp hheld
      exact ht (hut ▸ htracked) (hut ▸ hnone)
    · dsimp only at hu
      rw [Function.update_of_ne hut] at hu
      exact hI.custodian.terminated u hu hheld
  booked := hI.booked
  bounded := hI.bounded

/-- `TrackTransport`, for a connection that has terminated. -/
theorem Attempts.track (hI : Attempts s) {t : ℕ} (ht : s.log.terminated t) (now tracking : ℕ) :
    Attempts ⟨⟨s.stop.handler.trackTransport t now, s.stop.stop, tracking⟩,
      s.log.track t s.stop.handler.running⟩ where
  custodian := hI.custodian.track ht now
  booked := hI.booked.track (hI.custodian.terminated t ht) now
  bounded u := by
    show (s.log.track t _).calls u ≤ _
    unfold TrackLog.track
    split
    · dsimp only
      by_cases hu : u = t
      · rw [hu, Function.update_self]
        exact Nat.zero_le _
      · rw [Function.update_of_ne hu]
        exact hI.bounded u
    · exact hI.bounded u

/-- A look at the queue. -/
theorem Attempts.scan (hI : Attempts s) (hthread : s.stop.handler.thread = .woken)
    (kicked : ℕ → Bool) (now : ℕ) {stop : StopState}
    (hstop : stop.handler = (s.stop.handler.scan kicked now).1) :
    Attempts ⟨stop, (s.log.call stop.handler.thread.attempt).record
      (s.stop.handler.scan kicked now).2⟩ := by
  have hheld := ReconnectHandler.scan_held kicked now hthread
  have hcustodian := (hI.custodian.call stop.handler.thread.attempt).release hheld
    fun c hc => scan_outcome hc
  have hbooked := hI.booked.scan kicked now hcustodian.nodup
  rw [← hstop] at hcustodian hbooked
  refine ⟨hcustodian, hbooked, fun t => ?_⟩
  show (s.log.call _).calls t ≤ _
  cases hattempt : stop.handler.thread.attempt with
  | none => exact hI.bounded t
  | some a =>
    rw [hattempt] at hbooked
    by_cases ht : t = a.transport
    · have hleft := hbooked.current a hattempt
      rw [ht]
      omega
    · show Function.update s.log.calls a.transport _ t ≤ _
      rw [Function.update_of_ne ht]
      exact hI.bounded t

/-- The end of an attempt. -/
theorem Attempts.finish (hI : Attempts s) {a : ReconnectAttempt}
    (hthread : s.stop.handler.thread = .reconnecting a) (result : ReconnectResult) (now : ℕ)
    {stop : StopState} (hstop : stop.handler = (s.stop.handler.finish a result now).1) :
    Attempts ⟨stop, s.log.record (s.stop.handler.finish a result now).2⟩ := by
  have hattempt : s.stop.handler.thread.attempt = some a := by
    rw [hthread]
    rfl
  have hheld := ReconnectHandler.finish_held result now hthread
    (queue_ne_attempt hI.custodian.nodup hattempt)
  have hcustodian := hI.custodian.release hheld fun c hc => finish_outcome hc
  have hbooked := hI.booked.finish hattempt result now
  rw [← hstop] at hcustodian hbooked
  exact ⟨hcustodian, hbooked, hI.bounded⟩

/-- `Stop` drains the queue. -/
theorem Attempts.drain (hI : Attempts s) (hattempt : s.stop.handler.thread.attempt = none)
    (phase : StopPhase) : Attempts ⟨⟨s.stop.handler.drain.1, phase, s.stop.tracking⟩,
      s.log.record s.stop.handler.drain.2⟩ where
  custodian := hI.custodian.release (.of_eq (ReconnectHandler.drain_held hattempt)) fun c hc => by
    obtain ⟨a, -, rfl⟩ := List.mem_map.mp hc
    exact .inr rfl
  booked := hI.booked.subset (List.nil_subset _) hattempt
  bounded := hI.bounded

/-- A step that only wakes the thread, or sends it to sleep. -/
theorem Attempts.asleep (hI : Attempts s) {a : StopAction} {stop : StopState}
    (hbegun : stop.begun a = none) (hemitted : s.stop.emitted a = [])
    (ha : ∀ t now, a ≠ .trackTransport t now)
    (hattempt : stop.handler.thread.attempt = s.stop.handler.thread.attempt)
    (hqueue : stop.handler.queue = s.stop.handler.queue) :
    Attempts ⟨stop, s.logAfter stop a⟩ := by
  rw [AttemptState.logAfter_of_quiet hbegun hemitted ha]
  exact hI.quiet hattempt hqueue

theorem notifyOne_attempt (h : ReconnectHandler) :
    h.notifyOne.thread.attempt = h.thread.attempt := by
  unfold ReconnectHandler.notifyOne
  cases h.thread <;> rfl

theorem enterWait_attempt (h : ReconnectHandler) : h.enterWait.thread.attempt = none := by
  unfold ReconnectHandler.enterWait
  split <;> rfl

/-- A step of the handler's thread. -/
theorem Attempts.handlerStep (hI : Attempts s) {a : StopAction}
    (hs : s.stop.handlerStep a = some h) :
    Attempts ⟨{ s.stop with handler := h }, s.logAfter { s.stop with handler := h } a⟩ := by
  cases StopState.handlerStep_inv hs with
  -- Only `scan` and `finish` take an attempt out of the queue or put one back.
  | enterWait hthread =>
    refine hI.asleep rfl rfl (by simp) ?_ (ReconnectHandler.enterWait_queue _)
    rw [hthread]
    exact enterWait_attempt _
  | timeout hthread => exact hI.asleep rfl rfl (by simp) (by rw [hthread]; rfl) rfl
  | spuriousWakeup hthread =>
    refine hI.asleep rfl rfl (by simp) ?_ rfl
    rcases hthread with hthread | ⟨time, hthread⟩ <;>
      · rw [hthread]
        rfl
  | @scan kicked now hthread =>
    have hemitted : s.stop.emitted (.scan kicked now) = (s.stop.handler.scan kicked now).2 := by
      simp only [StopState.emitted, hthread]
    show Attempts ⟨_, (s.log.call _).record (s.stop.emitted (.scan kicked now))⟩
    rw [hemitted]
    exact hI.scan hthread kicked now rfl
  | @finish result now attempt hthread =>
    have hemitted : s.stop.emitted (.finish result now) =
        (s.stop.handler.finish attempt result now).2 := by
      simp only [StopState.emitted, hthread]
    show Attempts ⟨_, s.log.record (s.stop.emitted (.finish result now))⟩
    rw [hemitted]
    exact hI.finish hthread result now rfl

/-- A step of the handler or of its callers. -/
theorem Attempts.handler (hI : Attempts s) {a : StopAction} (hallows : s.allows a)
    {stop : StopState} (hs : s.stop.step a = some stop) : Attempts ⟨stop, s.logAfter stop a⟩ := by
  cases a with
  | enterWait | timeout | spuriousWakeup | scan | finish =>
    obtain ⟨h, hh, rfl⟩ := Option.map_eq_some_iff.mp hs
    exact hI.handlerStep hh
  | start =>
    simp only [StopState.step] at hs
    split at hs
    · cases hs
      have hthread := ‹s.stop.handler.thread = .notStarted ∧ s.stop.stop = .idle›.1
      exact hI.asleep rfl rfl (by simp) (by rw [hthread]; rfl) rfl
    · cases hs
  | trackTransport t now =>
    obtain rfl := Option.some.inj hs
    exact hI.track hallows now _
  | trackNotify =>
    simp only [StopState.step] at hs
    split at hs
    · cases hs
    · cases hs
      exact hI.asleep rfl rfl (by simp) (notifyOne_attempt _) rfl
  | checkForKicked =>
    cases hs
    exact hI.asleep rfl rfl (by simp) (notifyOne_attempt _) rfl
  | stop =>
    simp only [StopState.step] at hs
    split at hs
    · cases hs
      exact hI.asleep rfl rfl (by simp) rfl rfl
    · cases hs
  | stopNotify =>
    simp only [StopState.step] at hs
    split at hs
    · cases hs
      exact hI.asleep rfl rfl (by simp) (notifyOne_attempt _) rfl
    · cases hs
  | join =>
    simp only [StopState.step] at hs
    split at hs
    · cases hs
      obtain ⟨-, hthread | hthread⟩ := ‹s.stop.stop = .joining ∧
        (s.stop.handler.thread = .returned ∨ s.stop.handler.thread = .notStarted)›
      · exact hI.drain (by rw [hthread]; rfl) .idle
      · exact hI.drain (by rw [hthread]; rfl) .idle
    · cases hs

/-- Every step keeps the invariant. -/
theorem Attempts.step (hI : Attempts s) {a : AttemptAction} (hs : s.step a = some s') :
    Attempts s' := by
  cases a with
  | terminate t =>
    simp only [AttemptState.step] at hs
    split at hs
    · cases hs
      exact hI.terminate (And.right ‹_›)
    · cases hs
  | handler a =>
    simp only [AttemptState.step] at hs
    split at hs
    · obtain ⟨stop, hstop, rfl⟩ := Option.map_eq_some_iff.mp hs
      exact hI.handler ‹_› hstop
    · cases hs

/-- The attempt that `TrackTransport` inserts is for a transport that is not in the queue. -/
theorem Attempts.inserts_track (hI : Attempts s) {t : ℕ} (ht : s.log.terminated t)
    (hrunning : s.stop.handler.running) (now : ℕ) :
    (s.stop.handler.trackTransport t now).queue.Perm
      (⟨t, now + 250, ReconnectHandler.kMaxAttempts⟩ :: s.stop.handler.queue) := by
  have hnot : ∀ b ∈ s.stop.handler.queue, b.transport ≠ t := fun b hb hsame =>
    hI.custodian.terminated t ht (hsame ▸ queue_held hb)
  rw [ReconnectHandler.trackTransport, if_pos hrunning]
  exact emplaceAttempt_perm _ hnot

/-- The attempt that is put back after a failed `Reconnect` is for the transport of the one that
was taken out of the queue. -/
theorem Attempts.inserts_retry (hI : Attempts s) {attempt : ReconnectAttempt}
    (hattempt : s.stop.handler.thread.attempt = some attempt) (hleft : attempt.attemptsLeft ≠ 0)
    (now : ℕ) : (s.stop.handler.finish attempt .retry now).1.queue.Perm
      (⟨attempt.transport, now + ReconnectHandler.kDefaultTimeout, attempt.attemptsLeft - 1⟩ ::
        s.stop.handler.queue) := by
  have hnot := queue_ne_attempt hI.custodian.nodup hattempt
  simp only [ReconnectHandler.finish]
  rw [if_neg hleft]
  exact emplaceAttempt_perm _ hnot

/-- No insertion drops an attempt, for none is for a transport that the queue holds. -/
theorem Attempts.inserts (hI : Attempts s) {a : AttemptAction} (hs : s.step a = some s') :
    InsertsAll s a s' := by
  rintro action rfl b hb
  simp only [AttemptState.step] at hs
  split at hs
  · rename_i hallows
    obtain ⟨stop, hstop, rfl⟩ := Option.map_eq_some_iff.mp hs
    unfold StopState.inserted at hb
    -- Only `TrackTransport` and a `Reconnect` that is to be tried again insert an attempt.
    split at hb
    · rename_i t now
      split at hb
      · obtain rfl := Option.some.inj hb
        obtain rfl := Option.some.inj hstop
        exact ⟨hI.inserts_track hallows ‹_› now, nofun⟩
      · cases hb
    · rename_i now attempt hthread
      split at hb
      · cases hb
      · obtain rfl := Option.some.inj hb
        obtain ⟨h, hh, rfl⟩ := Option.map_eq_some_iff.mp hstop
        simp only [StopState.handlerStep, hthread] at hh
        obtain rfl := Option.some.inj hh
        have hattempt : s.stop.handler.thread.attempt = some attempt := by
          rw [hthread]
          rfl
        refine ⟨hI.inserts_retry hattempt ‹_› now, fun result now' _ c hc => ?_⟩
        obtain rfl := Option.some.inj (hattempt.symm.trans hc)
        exact (Nat.succ_pred_eq_of_ne_zero ‹_›).symm
    · cases hb
  · cases hs

/-- In every run of the handler, whatever `Reconnect` returns, a transport that is tracked is held
once until it is registered or removed, which happens once, and after `kMaxAttempts + 1` calls of
`Reconnect` at the latest; no insertion into the queue drops an attempt, and no count of attempts
underflows. -/
theorem attempts_accounted (as : List AttemptAction) :
    Throughout AttemptState.step Accounted .initial as ∧
      EachStep AttemptState.step InsertsAll .initial as := by
  have hkeeps : ∀ s a s', Attempts s → True → AttemptState.step s a = some s' → Attempts s' :=
    fun _ _ _ hI _ hs => hI.step hs
  have hmeets : ∀ s, Meets AttemptState.step (fun _ _ => True) s as := fun _ =>
    meets_of_forall fun _ _ _ => trivial
  constructor
  · exact (throughout_of_meets hkeeps .initial (hmeets _)).mono fun _ hI => hI.accounted
  · refine (eachStep_iff_meets (fun _ _ _ hI hs => hI.step hs) (fun _ _ _ hI hs => ?_)
      Attempts.initial).mpr (hmeets _)
    exact iff_of_true (hI.inserts hs) trivial

end AdbMobile
