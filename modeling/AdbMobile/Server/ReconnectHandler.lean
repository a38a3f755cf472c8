import Mathlib.Data.List.Perm.Basic

/-!
# The reconnect handler

A TCP transport whose connection has ended is not deleted at once. The `ReconnectHandler` keeps it
in a queue that is ordered by the time of the next attempt, and its thread takes the attempts that
are due, calls `Reconnect` without the lock, and then registers the transport, removes it, or queues
it again.

The functions here are the sections of the handler's code that hold the lock, each a function of the
members and of what the section reads outside them: the clock, in milliseconds, and the `kicked_`
flags. What they queue on the looper they return.
-/

namespace AdbMobile

/-- What is queued on the looper about a transport. -/
inductive LooperCallback
  /-- `register_transport`. -/
  | register (t : ℕ)
  /-- `remove_transport`, which runs `fdevent_unregister_transport`. -/
  | unregister (t : ℕ)
  /-- `HandleError`: `handle_offline`, and then `transport_destroy`. -/
  | connectionError (t : ℕ)
  deriving DecidableEq, Repr

/-- The transport that a callback is about. -/
def LooperCallback.transport : LooperCallback → ℕ
  | .register t | .unregister t | .connectionError t => t

/-- `ReconnectResult`. -/
inductive ReconnectResult
  | retry | success | abort
  deriving DecidableEq, Repr

/-- `ReconnectHandler::ReconnectAttempt`. -/
structure ReconnectAttempt where
  transport : ℕ
  reconnectTime : ℕ
  attemptsLeft : ℕ
  deriving DecidableEq, Repr

/-- `ReconnectAttempt::operator<`: by time, and by address where the times agree. -/
abbrev ReconnectAttempt.Before (a b : ReconnectAttempt) : Prop :=
  if a.reconnectTime = b.reconnectTime then a.transport < b.transport
  else a.reconnectTime < b.reconnectTime

/-- `reconnect_queue_.emplace`: what the set holds an equivalent of is not inserted. -/
def emplaceAttempt (a : ReconnectAttempt) : List ReconnectAttempt → List ReconnectAttempt
  | [] => [a]
  | b :: queue =>
    if a.Before b then a :: b :: queue
    else if b.Before a then b :: emplaceAttempt a queue
    else b :: queue

/-- Where the handler's thread is. -/
inductive HandlerPhase
  | notStarted
  /-- Before it takes the lock. -/
  | top
  /-- In `reconnect_cv_.wait`. -/
  | waiting
  /-- In `reconnect_cv_.wait_until`. -/
  | waitingUntil (time : ℕ)
  /-- Past the wait. -/
  | woken
  /-- In `Reconnect`, without the lock. -/
  | reconnecting (attempt : ReconnectAttempt)
  | returned
  deriving DecidableEq, Repr

/-- The attempt that the handler's thread holds. -/
def HandlerPhase.attempt : HandlerPhase → Option ReconnectAttempt
  | .reconnecting a => some a
  | _ => none

/-- Where a thread goes on when it is woken. -/
def HandlerPhase.wake : HandlerPhase → HandlerPhase
  | .waiting | .waitingUntil _ => .woken
  | phase => phase

/-- `ReconnectHandler`. -/
structure ReconnectHandler where
  running : Bool
  thread : HandlerPhase
  queue : List ReconnectAttempt
  deriving DecidableEq, Repr

namespace ReconnectHandler

/-- `kDefaultTimeout`. -/
def kDefaultTimeout : ℕ := 3000

/-- `kMaxAttempts`. -/
def kMaxAttempts : ℕ := 20

/-- The handler as its constructor leaves it. -/
def new : ReconnectHandler := ⟨true, .notStarted, []⟩

/-- `Start`. -/
def start (h : ReconnectHandler) : ReconnectHandler := { h with thread := .top }

/-- `reconnect_cv_.notify_one`: it wakes a thread that waits, and nothing remembers it. -/
def notifyOne (h : ReconnectHandler) : ReconnectHandler := { h with thread := h.thread.wake }

/-- What `TrackTransport` does under the lock. -/
def trackTransport (h : ReconnectHandler) (t now : ℕ) : ReconnectHandler :=
  if h.running then { h with queue := emplaceAttempt ⟨t, now + 250, kMaxAttempts⟩ h.queue } else h

/-- What `Stop` does under its first lock. -/
def stop (h : ReconnectHandler) : ReconnectHandler := { h with running := false }

/-- What `Stop` does after it has joined the thread. -/
def drain (h : ReconnectHandler) : ReconnectHandler × List LooperCallback :=
  ({ h with queue := [] }, h.queue.map fun a => .unregister a.transport)

/-- `Run` up to the wait. -/
def enterWait (h : ReconnectHandler) : ReconnectHandler :=
  match h.queue with
  | a :: _ => { h with thread := .waitingUntil a.reconnectTime }
  | [] => { h with thread := .waiting }

/-- `Run` from the wait to the call of `Reconnect`, or to the next wait. -/
def scan (h : ReconnectHandler) (kicked : ℕ → Bool) (now : ℕ) :
    ReconnectHandler × List LooperCallback :=
  if h.running then
    let removed := (h.queue.filter fun a => kicked a.transport).map fun a =>
      LooperCallback.unregister a.transport
    match h.queue.filter fun a => !kicked a.transport with
    | [] => ({ h with thread := .top, queue := [] }, removed)
    | a :: queue =>
      if now < a.reconnectTime then ({ h with thread := .top, queue := a :: queue }, removed)
      else ({ h with thread := .reconnecting a, queue := queue }, removed)
  else ({ h with thread := .returned }, [])

/-- `Run` from the result of `Reconnect` to the next wait. -/
def finish (h : ReconnectHandler) (attempt : ReconnectAttempt) (result : ReconnectResult)
    (now : ℕ) : ReconnectHandler × List LooperCallback :=
  let h := { h with thread := .top }
  match result with
  | .retry =>
    if attempt.attemptsLeft = 0 then (h, [.unregister attempt.transport])
    else
      let again := ⟨attempt.transport, now + kDefaultTimeout, attempt.attemptsLeft - 1⟩
      ({ h with queue := emplaceAttempt again h.queue }, [])
  | .success => (h, [.register attempt.transport])
  | .abort => (h, [.unregister attempt.transport])

variable (h : ReconnectHandler)

@[simp]
theorem trackTransport_running (t now : ℕ) : (h.trackTransport t now).running = h.running := by
  unfold trackTransport
  split <;> rfl

@[simp]
theorem trackTransport_thread (t now : ℕ) : (h.trackTransport t now).thread = h.thread := by
  unfold trackTransport
  split <;> rfl

@[simp]
theorem enterWait_running : h.enterWait.running = h.running := by
  unfold enterWait
  split <;> rfl

@[simp]
theorem enterWait_queue : h.enterWait.queue = h.queue := by
  unfold enterWait
  split <;> rfl

@[simp]
theorem scan_running (kicked : ℕ → Bool) (now : ℕ) :
    (h.scan kicked now).1.running = h.running := by
  simp only [scan]
  split
  · split
    · rfl
    · split <;> rfl
  · rfl

@[simp]
theorem finish_running (a : ReconnectAttempt) (result : ReconnectResult) (now : ℕ) :
    (h.finish a result now).1.running = h.running := by
  cases result with
  | retry =>
    simp only [finish]
    split <;> rfl
  | success => rfl
  | abort => rfl

@[simp]
theorem finish_thread (a : ReconnectAttempt) (result : ReconnectResult) (now : ℕ) :
    (h.finish a result now).1.thread = .top := by
  cases result with
  | retry =>
    simp only [finish]
    split <;> rfl
  | success => rfl
  | abort => rfl

end ReconnectHandler

/-- An insertion leaves no queue empty. -/
theorem emplaceAttempt_ne_nil (a : ReconnectAttempt) (queue : List ReconnectAttempt) :
    emplaceAttempt a queue ≠ [] := by
  cases queue with
  | nil => exact List.cons_ne_nil _ _
  | cons b queue =>
    rw [emplaceAttempt]
    split
    · exact List.cons_ne_nil _ _
    · split <;> exact List.cons_ne_nil _ _

/-- The end of an attempt empties no queue. -/
theorem ReconnectHandler.finish_queue_ne_nil {h : ReconnectHandler} (a : ReconnectAttempt)
    (result : ReconnectResult) (now : ℕ) (hq : h.queue ≠ []) :
    (h.finish a result now).1.queue ≠ [] := by
  cases result with
  | retry =>
    simp only [finish]
    split
    · exact hq
    · exact emplaceAttempt_ne_nil _ _
  | success => exact hq
  | abort => exact hq

/-! ## What the handler holds -/

/-- An attempt for a transport that the queue does not hold is inserted. -/
theorem emplaceAttempt_perm (a : ReconnectAttempt) {queue : List ReconnectAttempt}
    (ha : ∀ b ∈ queue, b.transport ≠ a.transport) :
    (emplaceAttempt a queue).Perm (a :: queue) := by
  induction queue with
  | nil => exact .refl _
  | cons b queue ih =>
    rw [emplaceAttempt]
    split
    · exact .refl _
    · rename_i hab
      rw [if_pos ?_]
      · exact ((ih fun c hc => ha c (List.mem_cons_of_mem b hc)).cons b).trans (.swap ..)
      · -- Neither time nor address makes the two equivalent.
        have hne : a.transport ≠ b.transport := (ha b (List.mem_cons_self ..)).symm
        unfold ReconnectAttempt.Before at hab ⊢
        split at hab <;> split <;> omega

/-- An insertion adds no other attempt. -/
theorem emplaceAttempt_subset (a : ReconnectAttempt) (queue : List ReconnectAttempt) :
    emplaceAttempt a queue ⊆ a :: queue := by
  induction queue with
  | nil => exact fun _ hb => hb
  | cons b queue ih =>
    intro c hc
    rw [emplaceAttempt] at hc
    split at hc
    · exact hc
    · split at hc
      · obtain rfl | hc := List.mem_cons.mp hc
        · simp
        · obtain rfl | hc := List.mem_cons.mp (ih hc)
          · exact List.mem_cons_self
          · simp [hc]
      · exact List.mem_cons_of_mem a hc

namespace ReconnectHandler

/-- The transports that the handler's thread is to reconnect: the one it is at, and the queue's. -/
def held (h : ReconnectHandler) : List ℕ :=
  (h.thread.attempt.toList ++ h.queue).map ReconnectAttempt.transport

variable {h : ReconnectHandler}

/-- While no attempt is made, the handler holds what is queued. -/
theorem held_of_attempt_none (hattempt : h.thread.attempt = none) :
    h.held = h.queue.map ReconnectAttempt.transport := by
  rw [held, hattempt]
  rfl

@[simp]
theorem notifyOne_held : h.notifyOne.held = h.held := by
  unfold notifyOne held
  cases h.thread <;> rfl

theorem enterWait_held (hthread : h.thread = .top) : h.enterWait.held = h.held := by
  rw [held_of_attempt_none (h := h) (by rw [hthread]; rfl), held_of_attempt_none, enterWait_queue]
  unfold enterWait
  split <;> rfl

/-- A transport that is tracked is held from then on. -/
theorem trackTransport_held {t : ℕ} (now : ℕ) (hrunning : h.running) (ht : t ∉ h.held) :
    (h.trackTransport t now).held.Perm (t :: h.held) := by
  rw [trackTransport, if_pos hrunning]
  have hqueue : ∀ b ∈ h.queue, b.transport ≠ t := fun b hb heq =>
    ht (List.mem_map.mpr ⟨b, List.mem_append_right _ hb, heq⟩)
  have hperm := (emplaceAttempt_perm ⟨t, now + 250, kMaxAttempts⟩ hqueue).append_left
    h.thread.attempt.toList
  exact (hperm.trans List.perm_middle).map ReconnectAttempt.transport

/-- Tracking a transport adds no other one. -/
theorem mem_trackTransport_held {t u now : ℕ} (hu : u ∈ (h.trackTransport t now).held) :
    u = t ∨ u ∈ h.held := by
  unfold trackTransport at hu
  split at hu
  · obtain ⟨b, hb, rfl⟩ := List.mem_map.mp hu
    obtain hb | hb := List.mem_append.mp hb
    · exact .inr (List.mem_map_of_mem (List.mem_append_left _ hb))
    · obtain rfl | hb := List.mem_cons.mp (emplaceAttempt_subset _ _ hb)
      · exact .inl rfl
      · exact .inr (List.mem_map_of_mem (List.mem_append_right _ hb))
  · exact .inr hu

/-- What a look at the queue no longer holds is removed. -/
theorem scan_held (kicked : ℕ → Bool) (now : ℕ) (hthread : h.thread = .woken) :
    h.held.Perm ((h.scan kicked now).1.held ++
      (h.scan kicked now).2.map LooperCallback.transport) := by
  rw [held_of_attempt_none (h := h) (by rw [hthread]; rfl)]
  unfold scan
  split
  · -- The kicked are removed, and the others stay in the queue or become the attempt.
    have hsplit : (h.queue.map ReconnectAttempt.transport).Perm
        ((h.queue.filter fun a => !kicked a.transport).map ReconnectAttempt.transport ++
          ((h.queue.filter fun a => kicked a.transport).map fun a =>
            LooperCallback.unregister a.transport).map LooperCallback.transport) := by
      have hperm := List.perm_append_comm.trans
        (List.filter_append_perm (fun a => kicked a.transport) h.queue)
      rw [List.map_map]
      exact ((hperm.map ReconnectAttempt.transport).symm).trans (List.map_append ▸ .refl _)
    split
    · rename_i hnil
      rw [hnil] at hsplit
      exact hsplit
    · rename_i a queue hcons
      rw [hcons] at hsplit
      split <;> exact hsplit
  · simp [held, HandlerPhase.attempt]

/-- At the end of an attempt its transport is queued again, registered, or removed. -/
theorem finish_held {a : ReconnectAttempt} (result : ReconnectResult) (now : ℕ)
    (hthread : h.thread = .reconnecting a) (ha : ∀ b ∈ h.queue, b.transport ≠ a.transport) :
    h.held.Perm ((h.finish a result now).1.held ++
      (h.finish a result now).2.map LooperCallback.transport) := by
  have hheld : h.held = a.transport :: h.queue.map ReconnectAttempt.transport := by
    rw [held, hthread]
    rfl
  rw [hheld]
  cases result with
  | retry =>
    simp only [finish]
    split
    · exact (List.perm_append_singleton ..).symm
    · rw [List.map_nil, List.append_nil]
      have hperm := emplaceAttempt_perm
        ⟨a.transport, now + kDefaultTimeout, a.attemptsLeft - 1⟩ ha
      exact (hperm.map ReconnectAttempt.transport).symm
  | success => exact (List.perm_append_singleton ..).symm
  | abort => exact (List.perm_append_singleton ..).symm

/-- `Stop` removes whatever is still queued. -/
theorem drain_held (hattempt : h.thread.attempt = none) :
    h.held = h.drain.1.held ++ h.drain.2.map LooperCallback.transport := by
  rw [held_of_attempt_none hattempt, held_of_attempt_none (h := h.drain.1) hattempt]
  simp [drain, LooperCallback.transport]

/-- A look at the queue registers no transport. -/
theorem register_not_mem_scan (kicked : ℕ → Bool) (now t : ℕ) :
    LooperCallback.register t ∉ (h.scan kicked now).2 := by
  unfold scan
  split
  · split
    · simp
    · split <;> simp
  · simp

/-- The end of an attempt registers its transport, if it was reconnected. -/
theorem register_mem_finish {a : ReconnectAttempt} {result : ReconnectResult} {now t : ℕ} :
    LooperCallback.register t ∈ (h.finish a result now).2 ↔
      result = .success ∧ t = a.transport := by
  cases result with
  | retry =>
    simp only [finish]
    split <;> simp
  | success => simp [finish]
  | abort => simp [finish]

end ReconnectHandler

end AdbMobile
