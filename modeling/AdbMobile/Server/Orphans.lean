import AdbMobile.Server.Custody

/-!
# Orphaned transports

A TCP transport stays in `transport_list` when its connection ends, and then somebody has to bring
it back or remove it: the reconnect handler, or a callback on the looper. One that nobody has stays
there for ever, and every later `connect` to its serial fails with `EALREADY`.

`transport_destroy` gives the transport to the handler, and a handler that does not run does not
take it. In the first server the handler runs until the relaunch. It never runs in a later one, so
there every TCP transport that loses its connection is orphaned: no transport is orphaned in a run
exactly when the connection errors of TCP transports that are listed and not kicked come while the
handler runs (`no_orphan_iff`).
-/

namespace AdbMobile

open Run

namespace ServerState

/-- The transport's connection has ended, and the looper has dealt with it; or it got a new one,
which is not started yet. -/
abbrev Down (s : ServerState) (t : ℕ) : Prop :=
  ¬ (s.connections t).Up ∧ .connectionError t ∉ s.runQueue

/-- How many registrations and removals of the transport are queued on the looper, attempts for it
in the queue that the handler's thread serves, and attempts that the thread is at. -/
def places (s : ServerState) (t : ℕ) : ℕ :=
  s.runQueue.countP (fun c => c = .register t ∨ c = .unregister t) +
    ((if s.handler.thread.Idle then [] else s.handler.queue).map
        ReconnectAttempt.transport).count t +
    (s.handler.thread.attempt.toList.map ReconnectAttempt.transport).count t

/-- Every TCP transport that is listed and down is in exactly one place. -/
def NoOrphan (s : ServerState) : Prop :=
  ∀ t ∈ s.host.transportList, (s.host.transports t).isTcpDevice → s.Down t → s.places t = 1

/-- A connection error of a TCP transport that is listed and not kicked comes while the handler
runs. -/
def TrackedByRunning (s : ServerState) : ServerAction → Prop
  | .runCallback _ => ∀ t ∈ s.host.transportList, s.runQueue.head? = some (.connectionError t) →
    (s.host.transports t).isTcpDevice → (s.host.transports t).kicked = false →
      s.handler.running = true
  | _ => True

/-- Between the steps of such a run: every transport that is listed has its token. -/
structure NoneLost (s : ServerState) : Prop where
  custody : Custody s
  stages : Stages s
  listed : ∀ t ∈ s.host.transportList, s.tokens t = 1

variable {s s' : ServerState} {t : ℕ} {a : ServerAction}

theorem NoneLost.initial (delayedAckEnabled : Bool) : NoneLost (initial delayedAckEnabled) :=
  ⟨.initial _, .initial _, fun _ ht => absurd ht List.not_mem_nil⟩

/-- The callbacks about a transport, when none is a connection error. -/
theorem count_transport {queue : List LooperCallback} (hq : .connectionError t ∉ queue) :
    (queue.map LooperCallback.transport).count t =
      queue.countP fun c => c = .register t ∨ c = .unregister t := by
  rw [List.count, List.countP_map]
  refine List.countP_congr fun c hc => ?_
  cases c with
  | register u => simp [LooperCallback.transport]
  | unregister u => simp [LooperCallback.transport]
  | connectionError u =>
    have hut : u ≠ t := by
      rintro rfl
      exact hq hc
    simp [LooperCallback.transport, hut]

/-- The places of a transport that is down and whose caller has registered it are its tokens. -/
theorem places_eq_tokens (hS : Stages s) (hdown : s.Down t) (hcallers : t ∉ s.callers) :
    s.places t = s.tokens t := by
  have hserved : (if s.handler.thread.Idle then [] else s.handler.queue) = s.handler.queue := by
    split
    · rename_i hidle
      exact (hS.idle hidle).symm
    · rfl
  rw [places, tokens, if_neg hdown.1, custody, List.count_append, List.count_append,
    List.count_eq_zero.mpr hcallers, count_transport hdown.2, hserved, ReconnectHandler.held,
    List.map_append, List.count_append]
  omega

/-- Where every listed transport has its token, none is orphaned. -/
theorem NoneLost.noOrphan (hN : NoneLost s) : NoOrphan s := by
  intro t ht _ hdown
  have hcallers : t ∉ s.callers := fun hc => hN.custody.unlisted t hc ht
  rw [places_eq_tokens hN.stages hdown hcallers]
  exact hN.listed t ht

/-- A step under the condition loses the token of no transport that is listed. -/
theorem NoneLost.step (hN : NoneLost s) (hg : TrackedByRunning s a) (hs : s.step a = some s') :
    NoneLost s' := by
  obtain ⟨hcustody, hpasses⟩ := hN.custody.step hN.stages hs
  refine ⟨hcustody, hN.stages.step hs, fun t ht => ?_⟩
  obtain hone | ⟨hlisted, hsame | hloses⟩ := hpasses t ht
  · exact hone
  · rw [hsame]
    exact hN.listed t hlisted
  · obtain ⟨now, queue, rfl, hqueue, htcp, hkicked, hrunning⟩ := hloses
    have hhead : s.runQueue.head? = some (.connectionError t) := by rw [hqueue]; rfl
    rw [hg t hlisted hhead htcp hkicked] at hrunning
    cases hrunning

/-- A transport without a token is down, and in no place. -/
theorem not_placed (hS : Stages s) (hnone : s.tokens t = 0) : s.Down t ∧ s.places t = 0 := by
  obtain ⟨hcustody, hup⟩ := not_mem_custody hnone
  have hqueue : .connectionError t ∉ s.runQueue := fun hmem =>
    hcustody (List.mem_append_right _ (List.mem_append_left _
      (List.mem_map_of_mem (f := LooperCallback.transport) hmem)))
  refine ⟨⟨hup, hqueue⟩, ?_⟩
  rw [places_eq_tokens hS ⟨hup, hqueue⟩ fun hc => hcustody (List.mem_append_left _ hc), hnone]

/-- A step that misses the condition orphans a transport. -/
theorem NoneLost.orphaned (hN : NoneLost s) (hg : ¬ TrackedByRunning s a)
    (hs : s.step a = some s') : ¬ NoOrphan s' := by
  have hS := hN.stages.step hs
  cases a with
  | runCallback now =>
    simp only [TrackedByRunning] at hg
    push Not at hg
    obtain ⟨t, hlisted, hhead, htcp, hkicked, hrunning⟩ := hg
    cases (looperStep_inv (a := .runCallback now) hs).2 with
    | @runCallback _ c _ _ hqueue hs =>
      have hc : c = .connectionError t := by
        rw [hqueue] at hhead
        exact Option.some.inj hhead
      subst hc
      obtain ⟨-, htokens⟩ := hN.custody.connectionError hqueue hs
      have hnone : s'.tokens t = 0 := by
        rw [htokens]
        exact if_pos ⟨rfl, htcp, hkicked, by simpa using hrunning⟩
      obtain ⟨hdown, hplaces⟩ := not_placed hS hnone
      obtain ⟨h, hsame, hidentity, rfl⟩ := handle_connectionError hs
      intro hno
      have hone := hno t ?_ ?_ hdown
      · rw [hplaces] at hone
        cases hone
      · rw [carryOut_host, (stopConnection_frame _ _).1]
        exact hsame.transportList.symm ▸ hlisted
      · rw [carryOut_host, (stopConnection_frame _ _).1]
        exact (congrArg (fun i => i.2.2.1) (hidentity t)).trans htcp
  | _ => exact absurd trivial hg

instance : DecidablePred NoOrphan := fun s => by
  unfold NoOrphan
  infer_instance

end ServerState

open ServerState

/-- In a run of the server's threads, with kicks, reconnections and relaunches, every TCP transport
that is listed and down is always in exactly one place, exactly when every connection error of a
listed TCP transport that is not kicked comes while the reconnect handler runs. -/
theorem no_orphan_iff (delayedAckEnabled : Bool) (as : List ServerAction) :
    Throughout ServerState.step NoOrphan (.initial delayedAckEnabled) as ↔
      Meets ServerState.step TrackedByRunning (.initial delayedAckEnabled) as :=
  throughout_iff_meets (I := NoneLost) (fun _ hN => hN.noOrphan)
    (fun _ _ _ hN hg hs => hN.step hg hs) (fun _ _ _ hN hg hs => hN.orphaned hg hs)
    (NoneLost.initial _)

/-- A launch, a relaunch, and a device that connects to the second server and goes away. -/
def errorAfterRelaunch : List ServerAction :=
  [.launch, .enterLoop, .enterWait, .launch, .loopExit, .stop, .stopNotify, .join, .kickAll,
    .clearTransportList, .fdeventReset, .enterLoop,
    .registerSocket 1 (ByteString.lit "192.168.1.5:5555") true, .registerTransport 1,
    .runCallback 0, .connectionFails 1, .runCallback 0]

/-- Its transport is then listed, and nobody has it. -/
theorem orphan_after_relaunch :
    ¬ ∀ (delayedAckEnabled : Bool) (as : List ServerAction),
      Throughout ServerState.step NoOrphan (.initial delayedAckEnabled) as := by
  intro hall
  have hlast := hall false errorAfterRelaunch
  revert hlast
  decide +kernel

end AdbMobile
