import Mathlib.Data.Nat.Notation
import Mathlib.Logic.Function.Basic
import AdbMobile.Lib.Run

/-!
# Launching the server

In the library the server is a thread of the client's process, and `launch_server` replaces the one
that runs: it asks the loop to terminate, waits, deletes the event context, and starts another
thread. The wait is for `looper_thread_id_` to be empty. That is so after the loop has ended, but
also before it has begun, and the acknowledgement that an earlier `launch_server` returned on is
written by a third thread, which may run first.

A `LaunchState` has the ambient context, the state of every context, the server threads, and the
position of the caller, and every atomic step of one of them is a `LaunchAction`. Where every reset
of the context finds every server thread returned from its loop, no two threads are in one loop and
none in a deleted context (`one_loop_per_context`).
-/

namespace AdbMobile

open Run

/-- Where a server thread is. -/
inductive ServerPhase
  /-- In `adb_server_main`, before it starts the notify thread. -/
  | starting
  /-- Before it reads the ambient context in `fdevent_loop`. -/
  | ready
  /-- It has read the context, and calls `Loop`. -/
  | calling (c : ℕ)
  /-- In the loop, with `looper_thread_id_` set. -/
  | looping (c : ℕ)
  /-- Past the loop, before `NotifyLoopExit` resets `looper_thread_id_`. -/
  | leaving (c : ℕ)
  /-- After that, in the rest of `NotifyLoopExit` and of `Loop`. -/
  | notifying (c : ℕ)
  /-- `Loop` has returned. -/
  | returned
  deriving DecidableEq, Repr

/-- The context whose `Loop` the thread is inside. -/
def ServerPhase.inside : ServerPhase → Option ℕ
  | .looping c | .leaving c | .notifying c => some c
  | _ => none

/-- The context that the thread holds a pointer to. -/
def ServerPhase.context : ServerPhase → Option ℕ
  | .calling c | .looping c | .leaving c | .notifying c => some c
  | _ => none

/-- Where the notify thread of a server thread is. -/
inductive NotifyPhase
  | notStarted | started | acknowledged
  deriving DecidableEq, Repr

/-- A server thread and its notify thread. -/
structure ServerThread where
  phase : ServerPhase
  notify : NotifyPhase
  deriving DecidableEq, Repr

/-- The fields of an `fdevent_context` that the launch depends on. -/
structure LoopContext where
  /-- `looper_thread_id_`. -/
  looperThreadId : Option ℕ
  /-- `terminate_loop_`. -/
  terminateLoop : Bool
  deriving DecidableEq, Repr

/-- Where the caller of `launch_server` is. -/
inductive LauncherPhase
  /-- Between two calls. -/
  | idle
  /-- Before `TerminateLoop`. -/
  | terminating
  /-- In `WaitForLoopExit`. -/
  | waiting
  /-- Before `adb_server_cleanup` and `clear_transport_list`. -/
  | cleaning
  /-- Before `fdevent_reset`. -/
  | resetting
  /-- Before the server thread is started. -/
  | spawning
  /-- Reading the acknowledgement of a server thread. -/
  | reading (k : ℕ)
  deriving DecidableEq, Repr

/-- The process between two atomic steps. -/
structure LaunchState where
  /-- The ambient context; the ones before it are deleted. -/
  ambient : ℕ
  contexts : ℕ → LoopContext
  /-- How many server threads were started. -/
  started : ℕ
  threads : ℕ → ServerThread
  launcher : LauncherPhase
  /-- `not_first`. -/
  notFirst : Bool

/-- The atomic steps; a number is the server thread that moves. -/
inductive LaunchAction
  /-- `launch_server` is called. -/
  | launch
  | terminateLoop
  | waitForLoopExit
  | cleanup
  | fdeventReset
  | spawn
  /-- `launch_server` reads the acknowledgement and returns 0. -/
  | readAck
  | startNotify (k : ℕ)
  /-- The notify thread of `k` writes the acknowledgement. -/
  | writeAck (k : ℕ)
  /-- `fdevent_loop` reads the ambient context. -/
  | loadAmbient (k : ℕ)
  | enterLoop (k : ℕ)
  /-- The loop finds `terminate_loop_` set. -/
  | breakLoop (k : ℕ)
  /-- `poll` fails, and `Loop` returns without `NotifyLoopExit`. -/
  | pollError (k : ℕ)
  | resetLooperThreadId (k : ℕ)
  | returnFromLoop (k : ℕ)
  deriving DecidableEq, Repr

namespace LaunchState

/-- The process before the first launch. -/
def initial : LaunchState :=
  ⟨0, fun _ => ⟨none, false⟩, 0, fun _ => ⟨.starting, .notStarted⟩, .idle, false⟩

/-- A context that `fdevent_reset` has deleted. -/
abbrev Deleted (s : LaunchState) (c : ℕ) : Prop := c < s.ambient

/-- Moves a server thread. -/
def setPhase (s : LaunchState) (k : ℕ) (phase : ServerPhase) : LaunchState :=
  { s with threads := Function.update s.threads k { s.threads k with phase := phase } }

/-- Moves a notify thread. -/
def setNotify (s : LaunchState) (k : ℕ) (notify : NotifyPhase) : LaunchState :=
  { s with threads := Function.update s.threads k { s.threads k with notify := notify } }

/-- Changes a context. -/
def setContext (s : LaunchState) (c : ℕ) (x : LoopContext) : LaunchState :=
  { s with contexts := Function.update s.contexts c x }

/-- Starts a server thread. -/
def spawnThread (s : LaunchState) : LaunchState :=
  { s with
    threads := Function.update s.threads s.started ⟨.starting, .notStarted⟩
    started := s.started + 1 }

/-- A step of the caller. -/
def launcherStep (s : LaunchState) : LaunchAction → Option LaunchState
  | .launch =>
    if s.launcher = .idle then
      some { s with
        launcher := if s.notFirst then .terminating else .spawning
        notFirst := true }
    else none
  | .terminateLoop =>
    if s.launcher = .terminating then
      some { s.setContext s.ambient { s.contexts s.ambient with terminateLoop := true } with
        launcher := .waiting }
    else none
  | .waitForLoopExit =>
    if s.launcher = .waiting ∧ (s.contexts s.ambient).looperThreadId = none then
      some { s with launcher := .cleaning }
    else none
  | .cleanup => if s.launcher = .cleaning then some { s with launcher := .resetting } else none
  | .fdeventReset =>
    if s.launcher = .resetting then
      some { s with ambient := s.ambient + 1, launcher := .spawning }
    else none
  | .spawn =>
    if s.launcher = .spawning then some { s.spawnThread with launcher := .reading s.started }
    else none
  | .readAck =>
    match s.launcher with
    | .reading k =>
      if (s.threads k).notify = .acknowledged then some { s with launcher := .idle } else none
    | _ => none
  | _ => none

/-- A step of the server thread `k`, or of its notify thread. -/
def serverStep (s : LaunchState) (k : ℕ) : LaunchAction → Option LaunchState
  | .startNotify _ =>
    if (s.threads k).phase = .starting then some ((s.setPhase k .ready).setNotify k .started)
    else none
  | .writeAck _ =>
    if (s.threads k).notify = .started then some (s.setNotify k .acknowledged) else none
  | .loadAmbient _ =>
    if (s.threads k).phase = .ready then some (s.setPhase k (.calling s.ambient)) else none
  | .enterLoop _ =>
    match (s.threads k).phase with
    | .calling c =>
      some ((s.setPhase k (.looping c)).setContext c
        { s.contexts c with looperThreadId := some k })
    | _ => none
  | .breakLoop _ =>
    match (s.threads k).phase with
    | .looping c =>
      if (s.contexts c).terminateLoop then some (s.setPhase k (.leaving c)) else none
    | _ => none
  | .pollError _ =>
    match (s.threads k).phase with
    | .looping _ => some (s.setPhase k .returned)
    | _ => none
  | .resetLooperThreadId _ =>
    match (s.threads k).phase with
    | .leaving c =>
      some ((s.setPhase k (.notifying c)).setContext c
        { s.contexts c with looperThreadId := none })
    | _ => none
  | .returnFromLoop _ =>
    match (s.threads k).phase with
    | .notifying _ => some (s.setPhase k .returned)
    | _ => none
  | _ => none

/-- One atomic step of the process. -/
def step (s : LaunchState) (a : LaunchAction) : Option LaunchState :=
  match a with
  | .launch | .terminateLoop | .waitForLoopExit | .cleanup | .fdeventReset | .spawn | .readAck =>
    s.launcherStep a
  | .startNotify k | .writeAck k | .loadAmbient k | .enterLoop k | .breakLoop k | .pollError k
  | .resetLooperThreadId k | .returnFromLoop k => if k < s.started then s.serverStep k a else none

/-- No two threads are in the loop of one context, and none is in that of a deleted one. -/
def OneLoopPerContext (s : LaunchState) : Prop :=
  (∀ i < s.started, ∀ j < s.started, ∀ c ∈ (s.threads i).phase.inside,
    (s.threads j).phase.inside = some c → i = j) ∧
  ∀ i < s.started, ∀ c ∈ (s.threads i).phase.inside, ¬ s.Deleted c

instance : DecidablePred OneLoopPerContext := fun s => by
  unfold OneLoopPerContext
  infer_instance

/-- Every server thread has returned from its loop. -/
def AllReturned (s : LaunchState) : Prop := ∀ i < s.started, (s.threads i).phase = .returned

/-- The context is reset only when every server thread has returned from its loop. -/
def ResetsAfterReturn (s : LaunchState) : LaunchAction → Prop
  | .fdeventReset => s.AllReturned
  | _ => True

/-- What holds between the steps of a process whose resets come after the returns. -/
structure Sequential (s : LaunchState) : Prop where
  /-- Before the first launch no server thread was started. -/
  first : s.notFirst = false → s.started = 0 ∧ s.launcher = .idle
  /-- Every server thread but the last has returned. -/
  returned : ∀ i, i + 1 < s.started → (s.threads i).phase = .returned
  /-- Before a server thread is started, all have. -/
  spawning : s.launcher = .spawning → s.AllReturned
  /-- Whatever context a server thread points to is the ambient one. -/
  ambient : ∀ i < s.started, ∀ c ∈ (s.threads i).phase.context, c = s.ambient

variable {s s' : LaunchState}

theorem Sequential.initial : Sequential initial where
  first := fun _ => ⟨rfl, rfl⟩
  returned := fun _ hi => absurd hi (Nat.not_lt_zero _)
  spawning := fun h => nomatch h
  ambient := fun _ hi => absurd hi (Nat.not_lt_zero _)

/-- A thread that is inside a loop points to its context. -/
theorem context_of_inside {phase : ServerPhase} {c : ℕ} (h : phase.inside = some c) :
    phase.context = some c := by
  cases phase <;> simp_all [ServerPhase.inside, ServerPhase.context]

/-- At most the last server thread is in a loop, and that is the ambient context's. -/
theorem Sequential.oneLoopPerContext (h : Sequential s) : OneLoopPerContext s := by
  have hlast : ∀ i < s.started, ∀ c, (s.threads i).phase.inside = some c → i + 1 = s.started := by
    intro i hi c hc
    by_contra hne
    rw [h.returned i (by omega)] at hc
    cases hc
  constructor
  · intro i hi j hj c hci hcj
    have h₁ := hlast i hi c hci
    have h₂ := hlast j hj c hcj
    omega
  · intro i hi c hc
    rw [h.ambient i hi c (context_of_inside hc)]
    exact Nat.lt_irrefl _

/-- What a server thread can do: it moves itself only, not after it has returned, and it points to
the context that it pointed to before, or the ambient one. -/
structure MovesItself (k : ℕ) (s s' : LaunchState) : Prop where
  ambient : s'.ambient = s.ambient
  started : s'.started = s.started
  launcher : s'.launcher = s.launcher
  notFirst : s'.notFirst = s.notFirst
  others : ∀ j, j ≠ k → s'.threads j = s.threads j
  itself : (s'.threads k).phase = (s.threads k).phase ∨
    ((s.threads k).phase ≠ .returned ∧ ∀ c ∈ (s'.threads k).phase.context,
      c = s.ambient ∨ (s.threads k).phase.context = some c)

theorem MovesItself.refl (k : ℕ) (s : LaunchState) : MovesItself k s s :=
  ⟨rfl, rfl, rfl, rfl, fun _ _ => rfl, .inl rfl⟩

/-- The thread moves to a phase. -/
theorem MovesItself.setPhase {k : ℕ} {phase : ServerPhase}
    (hphase : (s.threads k).phase ≠ .returned)
    (hcontext : ∀ c ∈ phase.context, c = s.ambient ∨ (s.threads k).phase.context = some c) :
    MovesItself k s (s.setPhase k phase) where
  ambient := rfl
  started := rfl
  launcher := rfl
  notFirst := rfl
  others := fun j hj => Function.update_of_ne hj ..
  itself := .inr ⟨hphase, by simpa [LaunchState.setPhase] using hcontext⟩

theorem MovesItself.setContext {k : ℕ} (h : MovesItself k s s') (c : ℕ) (x : LoopContext) :
    MovesItself k s (s'.setContext c x) := { h with }

theorem MovesItself.setNotify {k : ℕ} (h : MovesItself k s s') (notify : NotifyPhase) :
    MovesItself k s (s'.setNotify k notify) where
  ambient := h.ambient
  started := h.started
  launcher := h.launcher
  notFirst := h.notFirst
  others := fun j hj => (Function.update_of_ne hj ..).trans (h.others j hj)
  itself := by simpa [LaunchState.setNotify] using h.itself

theorem serverStep_spec {k : ℕ} {a : LaunchAction} (hs : s.serverStep k a = some s') :
    MovesItself k s s' := by
  cases a with
  | startNotify _ =>
    simp only [serverStep] at hs
    split at hs
    · rename_i hphase
      cases hs
      exact (MovesItself.setPhase (by simp [hphase])
        (by simp [ServerPhase.context])).setNotify .started
    · cases hs
  | writeAck _ =>
    simp only [serverStep] at hs
    split at hs
    · cases hs
      exact (MovesItself.refl k s).setNotify .acknowledged
    · cases hs
  | loadAmbient _ =>
    simp only [serverStep] at hs
    split at hs
    · rename_i hphase
      cases hs
      exact .setPhase (by simp [hphase]) (by simp [ServerPhase.context])
    · cases hs
  | enterLoop _ =>
    simp only [serverStep] at hs
    split at hs
    · rename_i c hphase
      cases hs
      exact (MovesItself.setPhase (by simp [hphase])
        (by simp [ServerPhase.context, hphase])).setContext c _
    · cases hs
  | breakLoop _ =>
    simp only [serverStep] at hs
    split at hs
    · rename_i c hphase
      split at hs
      · cases hs
        exact .setPhase (by simp [hphase]) (by simp [ServerPhase.context, hphase])
      · cases hs
    · cases hs
  | pollError _ =>
    simp only [serverStep] at hs
    split at hs
    · rename_i c hphase
      cases hs
      exact .setPhase (by simp [hphase]) (by simp [ServerPhase.context])
    · cases hs
  | resetLooperThreadId _ =>
    simp only [serverStep] at hs
    split at hs
    · rename_i c hphase
      cases hs
      exact (MovesItself.setPhase (by simp [hphase])
        (by simp [ServerPhase.context, hphase])).setContext c _
    · cases hs
  | returnFromLoop _ =>
    simp only [serverStep] at hs
    split at hs
    · rename_i c hphase
      cases hs
      exact .setPhase (by simp [hphase]) (by simp [ServerPhase.context])
    · cases hs
  | _ => cases hs

/-- A step of a server thread keeps the invariant. -/
theorem Sequential.serverStep (h : Sequential s) {k : ℕ} {a : LaunchAction} (hk : k < s.started)
    (hs : s.serverStep k a = some s') : Sequential s' := by
  obtain ⟨hambient, hstarted, hlauncher, hfirst, hother, hself⟩ := serverStep_spec hs
  -- A thread that has returned stays where it is.
  have hreturned : ∀ i, (s.threads i).phase = .returned → (s'.threads i).phase = .returned := by
    intro i hi
    by_cases hik : i = k
    · subst hik
      rcases hself with heq | ⟨hne, -⟩
      · rw [heq, hi]
      · exact absurd hi hne
    · rw [hother i hik, hi]
  refine ⟨?_, ?_, ?_, ?_⟩
  · rw [hfirst, hstarted, hlauncher]
    exact h.first
  · rw [hstarted]
    exact fun i hi => hreturned i (h.returned i hi)
  · rw [hlauncher]
    intro hspawn i hi
    exact hreturned i (h.spawning hspawn i (hstarted ▸ hi))
  · rw [hstarted, hambient]
    intro i hi c hc
    by_cases hik : i = k
    · subst hik
      rcases hself with heq | ⟨-, hcontext⟩
      · exact h.ambient i hi c (heq ▸ hc)
      · rcases hcontext c hc with hc | hc
        · exact hc
        · exact h.ambient i hi c hc
    · exact h.ambient i hi c (hother i hik ▸ hc)

/-- The threads that were there when another is started. -/
theorem spawnThread_threads_of_lt {i : ℕ} (hi : i < s.started) :
    s.spawnThread.threads i = s.threads i :=
  Function.update_of_ne (Nat.ne_of_lt hi) ..

/-- The thread that is started points to no context. -/
theorem spawnThread_threads_self : s.spawnThread.threads s.started = ⟨.starting, .notStarted⟩ :=
  Function.update_self ..

/-- Past the start of a call there was a launch. -/
theorem Sequential.notFirst (h : Sequential s) (hl : s.launcher ≠ .idle) : s.notFirst = true := by
  by_contra hne
  exact hl (h.first (by simpa using hne)).2

/-- A step of the caller keeps the invariant, if it resets the context after the returns. -/
theorem Sequential.launcherStep (h : Sequential s) {a : LaunchAction}
    (hg : ResetsAfterReturn s a) (hs : s.launcherStep a = some s') : Sequential s' := by
  have hcalled : ∀ {phase}, s.launcher = phase → phase ≠ .idle → s.notFirst = false → False := by
    intro phase hphase hne hfirst
    have htrue := h.notFirst (hphase ▸ hne)
    simp [htrue] at hfirst
  cases a with
  | launch =>
    simp only [LaunchState.launcherStep] at hs
    split at hs
    · cases hs
      refine ⟨(fun hfirst => nomatch hfirst), h.returned, ?_, h.ambient⟩
      intro hspawn i hi
      -- The first launch goes on to spawn, and there is no thread yet.
      have hfirst : s.notFirst = false := by
        by_contra hne
        simp [hne] at hspawn
      exact absurd ((h.first hfirst).1 ▸ hi) (Nat.not_lt_zero _)
    · cases hs
  | terminateLoop =>
    simp only [LaunchState.launcherStep] at hs
    split at hs
    · rename_i hphase
      cases hs
      exact ⟨fun hfirst => (hcalled hphase (by simp) hfirst).elim, h.returned,
        (fun hspawn => nomatch hspawn), h.ambient⟩
    · cases hs
  | waitForLoopExit =>
    simp only [LaunchState.launcherStep] at hs
    split at hs
    · rename_i hphase
      cases hs
      exact ⟨fun hfirst => (hcalled hphase.1 (by simp) hfirst).elim, h.returned,
        (fun hspawn => nomatch hspawn), h.ambient⟩
    · cases hs
  | cleanup =>
    simp only [LaunchState.launcherStep] at hs
    split at hs
    · rename_i hphase
      cases hs
      exact ⟨fun hfirst => (hcalled hphase (by simp) hfirst).elim, h.returned,
        (fun hspawn => nomatch hspawn), h.ambient⟩
    · cases hs
  | fdeventReset =>
    simp only [LaunchState.launcherStep] at hs
    split at hs
    · rename_i hphase
      cases hs
      refine ⟨fun hfirst => (hcalled hphase (by simp) hfirst).elim, h.returned, fun _ => hg,
        fun i hi c hc => ?_⟩
      rw [show (s.threads i).phase = .returned from hg i hi] at hc
      cases hc
    · cases hs
  | spawn =>
    simp only [LaunchState.launcherStep] at hs
    split at hs
    · rename_i hphase
      cases hs
      have hall := h.spawning hphase
      refine ⟨fun hfirst => (hcalled hphase (by simp) hfirst).elim, fun i hi => ?_,
        (fun hspawn => nomatch hspawn), fun i hi c hc => ?_⟩
      · have hi : i < s.started := Nat.lt_of_succ_lt_succ hi
        exact (congrArg ServerThread.phase (spawnThread_threads_of_lt hi)).trans (hall i hi)
      · rcases Nat.lt_succ_iff_lt_or_eq.mp hi with hi | rfl
        · have hc : (s.threads i).phase.context = some c := spawnThread_threads_of_lt hi ▸ hc
          rw [hall i hi] at hc
          cases hc
        · have hc : (s.spawnThread.threads s.started).phase.context = some c := hc
          rw [spawnThread_threads_self] at hc
          cases hc
    · cases hs
  | readAck =>
    simp only [LaunchState.launcherStep] at hs
    split at hs
    · rename_i k hphase
      split at hs
      · cases hs
        exact ⟨fun hfirst => (hcalled hphase (by simp) hfirst).elim, h.returned,
          (fun hspawn => nomatch hspawn), h.ambient⟩
      · cases hs
    · cases hs
  | _ => cases hs

/-- One step keeps the invariant, under the condition. -/
theorem Sequential.step (h : Sequential s) {a : LaunchAction} (hg : ResetsAfterReturn s a)
    (hs : s.step a = some s') : Sequential s' := by
  cases a with
  | launch | terminateLoop | waitForLoopExit | cleanup | fdeventReset | spawn | readAck =>
    exact h.launcherStep hg hs
  | startNotify k | writeAck k | loadAmbient k | enterLoop k | breakLoop k | pollError k
  | resetLooperThreadId k | returnFromLoop k =>
    simp only [LaunchState.step] at hs
    split at hs
    · exact h.serverStep ‹_› hs
    · cases hs

/-! ## A reset that comes too early -/

/-- Until the next reset, whatever the threads do, no two are in the loop of one context, and none
is in that of a deleted one. -/
def LoopsApart (s : LaunchState) : Prop :=
  ∀ as : List LaunchAction, .fdeventReset ∉ as → Throughout LaunchState.step OneLoopPerContext s as

theorem Sequential.loopsApart (h : Sequential s) : LoopsApart s := by
  intro as has
  have hmeets : Meets LaunchState.step ResetsAfterReturn s as := meets_of_forall fun a ha s => by
    cases a with
    | fdeventReset => exact absurd ha has
    | _ => trivial
  exact (throughout_of_meets (fun _ _ _ hI hg hs => hI.step hg hs) h hmeets).mono
    fun _ hI => hI.oneLoopPerContext

theorem LoopsApart.oneLoop (hold : LoopsApart s) : OneLoopPerContext s :=
  hold [] List.not_mem_nil

/-- What holds until the next reset holds after every other step. -/
theorem LoopsApart.step (hold : LoopsApart s) {a : LaunchAction} (ha : a ≠ .fdeventReset)
    (hs : s.step a = some s') : LoopsApart s' := by
  intro as has
  have hcons : .fdeventReset ∉ a :: as := by
    rw [List.mem_cons, not_or]
    exact ⟨ha.symm, has⟩
  exact (hold _ hcons).2 s' hs

/-- A server thread that has read a context enters its loop. -/
theorem LoopsApart.enter (hold : LoopsApart s) {i c : ℕ} (hi : i < s.started)
    (hphase : (s.threads i).phase = .calling c) : LoopsApart ((s.setPhase i (.looping c)).setContext c
      { s.contexts c with looperThreadId := some i }) :=
  hold.step (a := .enterLoop i) (by simp)
    (by simp [LaunchState.step, LaunchState.serverStep, hi, hphase])

/-- A server thread that is before its loop goes on into the loop of the ambient context. -/
theorem LoopsApart.reachLoop (hold : LoopsApart s) {i : ℕ} (hi : i < s.started)
    (hphase : (s.threads i).phase = .starting ∨ (s.threads i).phase = .ready) :
    ∃ s', LoopsApart s' ∧ (s'.threads i).phase = .looping s.ambient ∧ s'.ambient = s.ambient ∧
      s'.started = s.started ∧ s'.launcher = s.launcher ∧
      ∀ j, j ≠ i → s'.threads j = s.threads j := by
  -- It starts its notify thread, if it has not.
  obtain ⟨s₁, h₁, hphase₁, hambient, hstarted, hlauncher, hother⟩ : ∃ s₁, LoopsApart s₁ ∧
      (s₁.threads i).phase = .ready ∧ s₁.ambient = s.ambient ∧ s₁.started = s.started ∧
      s₁.launcher = s.launcher ∧ ∀ j, j ≠ i → s₁.threads j = s.threads j := by
    rcases hphase with hphase | hphase
    · refine ⟨(s.setPhase i .ready).setNotify i .started,
        hold.step (a := .startNotify i) (by simp) ?_, ?_, rfl, rfl, rfl, fun j hj => ?_⟩
      · simp [LaunchState.step, LaunchState.serverStep, hi, hphase]
      · simp [setNotify, setPhase]
      · simp [setNotify, setPhase, hj]
    · exact ⟨s, hold, hphase, rfl, rfl, rfl, fun _ _ => rfl⟩
  have hi₁ : i < s₁.started := hstarted ▸ hi
  have hcalling : LoopsApart (s₁.setPhase i (.calling s₁.ambient)) :=
    h₁.step (a := .loadAmbient i) (by simp) (by
      simp [LaunchState.step, LaunchState.serverStep, hi₁, hphase₁])
  refine ⟨_, hcalling.enter (c := s₁.ambient) hi₁ (by simp [setPhase]), ?_, hambient, hstarted,
    hlauncher, fun j hj => ?_⟩
  · simp [setPhase, setContext, hambient]
  · simp [setPhase, setContext, hj, hother j hj]

/-- While a server thread is still before its loop, the launch must not go on: the thread that it
starts comes into the same loop. -/
theorem LoopsApart.not_spawning (hold : LoopsApart s) {i : ℕ} (hi : i < s.started)
    (hphase : (s.threads i).phase = .starting ∨ (s.threads i).phase = .ready) :
    s.launcher ≠ .spawning := by
  intro hspawning
  obtain ⟨s₁, h₁, hi₁, hambient₁, hstarted₁, hlauncher₁, -⟩ := hold.reachLoop hi hphase
  have h₂ : LoopsApart { s₁.spawnThread with launcher := .reading s₁.started } :=
    h₁.step (a := .spawn) (by simp) (by
      simp [LaunchState.step, LaunchState.launcherStep, hlauncher₁, hspawning])
  have hne : i ≠ s₁.started := by omega
  obtain ⟨s₃, h₃, hnew, -, hstarted₃, -, hother⟩ := h₂.reachLoop (i := s₁.started)
    (Nat.lt_succ_self _) (.inl (congrArg ServerThread.phase spawnThread_threads_self))
  have hold₃ : (s₃.threads i).phase = .looping s.ambient := by
    rw [hother i hne]
    exact (congrArg ServerThread.phase (spawnThread_threads_of_lt (by omega))).trans hi₁
  have hstarted : s₃.started = s₁.started + 1 := hstarted₃
  have hnew : (s₃.threads s₁.started).phase = .looping s.ambient := hambient₁ ▸ hnew
  refine hne (h₃.oneLoop.1 i (by omega) s₁.started (by omega) s.ambient ?_ ?_)
  · rw [hold₃]
    rfl
  · rw [hnew]
    rfl

/-- A reset that finds a server thread on its way to the loop, in it, or on its way out breaks the
rule, at once or before the next reset. -/
theorem Sequential.resetTooEarly (h : Sequential s) (hreturned : ¬ s.AllReturned)
    (hs : s.step .fdeventReset = some s') : ¬ LoopsApart s' := by
  simp only [LaunchState.step, LaunchState.launcherStep] at hs
  split at hs
  · cases hs
    simp only [AllReturned, not_forall] at hreturned
    obtain ⟨i, hi, hphase⟩ := hreturned
    intro hold
    -- What points to the old context is in a deleted one from now on.
    have hinside : ∀ c, (s.threads i).phase.inside = some c → False := fun c hc =>
      hold.oneLoop.2 i hi c hc (h.ambient i hi c (context_of_inside hc) ▸ Nat.lt_succ_self _)
    cases hthread : (s.threads i).phase with
    | starting => exact hold.not_spawning hi (.inl hthread) rfl
    | ready => exact hold.not_spawning hi (.inr hthread) rfl
    | calling c =>
      have hambient : c = s.ambient := h.ambient i hi c (by rw [hthread]; rfl)
      refine (hold.enter hi hthread).oneLoop.2 i hi c ?_ ?_
      · simp [setPhase, setContext, ServerPhase.inside]
      · exact hambient ▸ Nat.lt_succ_self _
    | looping c => exact hinside c (by rw [hthread]; rfl)
    | leaving c => exact hinside c (by rw [hthread]; rfl)
    | notifying c => exact hinside c (by rw [hthread]; rfl)
    | returned => exact hphase hthread
  · cases hs

end LaunchState

open LaunchState

/-- In a run of launches and server threads in which the context is reset only after every server
thread has returned from its loop, no two threads are ever in the loop of one context, and none is
in the loop of a deleted one. The condition is exact: a reset that comes earlier breaks this at
once, or lets the threads break it before the next reset. -/
theorem one_loop_per_context (as : List LaunchAction) :
    (Meets LaunchState.step ResetsAfterReturn LaunchState.initial as →
      Throughout LaunchState.step OneLoopPerContext LaunchState.initial as) ∧
    (Throughout LaunchState.step LoopsApart LaunchState.initial as ↔
      Meets LaunchState.step ResetsAfterReturn LaunchState.initial as) := by
  have hexact : Throughout LaunchState.step LoopsApart LaunchState.initial as ↔
      Meets LaunchState.step ResetsAfterReturn LaunchState.initial as := by
    refine throughout_iff_meets (I := Sequential) (fun _ hI => hI.loopsApart)
      (fun _ _ _ hI hg hs => hI.step hg hs) (fun s a s' hI hg hs => ?_) Sequential.initial
    cases a with
    | fdeventReset => exact hI.resetTooEarly hg hs
    | _ => exact absurd trivial hg
  exact ⟨fun hg => (hexact.mpr hg).mono fun _ hold => hold.oneLoop, hexact⟩

instance (s : LaunchState) (a : LaunchAction) : Decidable (s.ResetsAfterReturn a) := by
  cases a <;> unfold ResetsAfterReturn <;> try unfold AllReturned
  all_goals infer_instance

/-- One launch, up to its return. -/
def launchOnce (k : ℕ) : List LaunchAction :=
  [.spawn, .startNotify k, .writeAck k, .readAck]

-- A relaunch that ends what the launch before it started.
example : Meets LaunchState.step ResetsAfterReturn LaunchState.initial
    ([.launch] ++ launchOnce 0 ++ [.loadAmbient 0, .enterLoop 0, .launch, .terminateLoop,
      .breakLoop 0, .resetLooperThreadId 0, .returnFromLoop 0, .waitForLoopExit, .cleanup,
      .fdeventReset] ++ launchOnce 1 ++ [.loadAmbient 1, .enterLoop 1]) := by
  decide

/-- The second launch finds the first server thread before its loop, and does not wait. -/
def relaunchBeforeLoop : List LaunchAction :=
  [.launch] ++ launchOnce 0 ++ [.launch, .terminateLoop, .waitForLoopExit, .cleanup,
    .fdeventReset] ++ launchOnce 1 ++ [.loadAmbient 0, .enterLoop 0, .loadAmbient 1, .enterLoop 1]

/-- Both server threads are then in the loop of the new context. -/
theorem two_loops_in_one_context :
    ¬ ∀ as : List LaunchAction,
      Throughout LaunchState.step OneLoopPerContext LaunchState.initial as := by
  intro hall
  have hlast := hall relaunchBeforeLoop
  revert hlast
  decide

end AdbMobile
