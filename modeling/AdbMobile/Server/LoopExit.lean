import AdbMobile.Server.LoopThreads

/-!
# The end of the loop

`launch_server` asks the running loop to end and waits for that in `WaitForLoopExit`. The loop tells
those who wait in `NotifyLoopExit`, after the `while`. There are two ways out of the `while`: the
`break` where `terminate_loop_` is set leads there, and the `return` where `poll` fails does not.

In every run the exits release those who wait, and nobody is released before, exactly when no call
of `poll` fails (`exits_released_iff`).
-/

namespace AdbMobile

open Run

namespace LoopState

variable {φ : Type} {s s' : LoopState φ}

/-- While `Loop` does not run, `looper_thread_id_` is empty, and each thread that is in
`WaitForLoopExit` can leave it. -/
def Released (s : LoopState φ) : Prop :=
  s.phase = .outside →
    s.hasLooper = false ∧ ∀ t ∈ s.waiting ++ s.asleep, (s.threadStep t .waitReturns).isSome = true

/-- `WaitForLoopExit` does not return from the start of `Loop` to the reset of
`looper_thread_id_`. -/
def WaitsForReset (s : LoopState φ) (a : LoopAction φ) (_ : LoopState φ) : Prop :=
  ∀ t, a = .thread t .waitReturns → s.phase.inLoop = false

/-- The call of `poll` does not fail. -/
def PollSucceeds (_ : LoopState φ) (a : LoopAction φ) : Prop :=
  a ≠ .looper .pollFails

/-- The invariant of the loops that end with `NotifyLoopExit`. -/
structure ExitInvariant (s : LoopState φ) : Prop where
  hasLooper : s.hasLooper = s.phase.inLoop
  asleep : s.phase = .outside → s.asleep = []

/-- A thread that is not asleep sees that the loop has ended. -/
theorem ExitInvariant.released (h : s.ExitInvariant) : s.Released := by
  intro hphase
  have hlooper : s.hasLooper = false := by rw [h.hasLooper, hphase]; rfl
  refine ⟨hlooper, fun t ht => ?_⟩
  rw [h.asleep hphase, List.append_nil] at ht
  rw [threadStep, if_pos ⟨ht, hlooper⟩]
  rfl

/-- The looper sets `looper_thread_id_` when it enters the loop, and on the way out it first resets
it and then wakes all. -/
theorem looperStep_exitInvariant {a : LooperAction} (h : s.ExitInvariant) (ha : a ≠ .pollFails)
    (hs : s.looperStep a = some s') : s'.ExitInvariant := by
  obtain ⟨hlooper, hasleep⟩ := h
  cases a with
  | pollFails => exact absurd rfl ha
  | enterLoop =>
    simp only [looperStep] at hs
    split at hs <;> cases hs
    exact ⟨rfl, fun hout => by cases hout⟩
  | notifyReset =>
    simp only [looperStep] at hs
    split at hs <;> cases hs
    exact ⟨rfl, fun hout => by cases hout⟩
  | notifyAll =>
    simp only [looperStep] at hs
    split at hs
    · rename_i hphase
      cases hs
      rw [hphase] at hlooper
      exact ⟨hlooper, fun _ => rfl⟩
    · cases hs
  | contextOp op =>
    simp only [looperStep] at hs
    split at hs <;> cases hs
    exact ⟨hlooper, hasleep⟩
  | _ =>
    simp only [looperStep] at hs
    split at hs
    · rename_i hphase
      rw [hphase] at hlooper
      repeat' split at hs
      all_goals cases hs
      all_goals exact ⟨hlooper, fun hout => by cases hout⟩
    · cases hs

/-- A thread goes to sleep only while the loop runs, and returns only while it does not. -/
theorem threadStep_exitInvariant {t : LoopThread} {a : ThreadAction φ} (h : s.ExitInvariant)
    (hs : s.threadStep t a = some s') :
    s'.ExitInvariant ∧ (a = .waitReturns → s.phase.inLoop = false) := by
  obtain ⟨hlooper, hasleep⟩ := h
  cases a with
  | sleeps =>
    simp only [threadStep] at hs
    split at hs
    · -- The thread has seen the looper's id, so the loop is not left.
      rename_i hin
      cases hs
      refine ⟨⟨hlooper, fun hout => ?_⟩, fun heq => by cases heq⟩
      change s.phase = .outside at hout
      rw [hout, hin.2] at hlooper
      cases hlooper
    · cases hs
  | wakes =>
    simp only [threadStep] at hs
    split at hs
    · cases hs
      refine ⟨⟨hlooper, fun hout => ?_⟩, fun heq => by cases heq⟩
      exact List.filter_eq_nil_iff.mpr fun u hu => absurd (hasleep hout ▸ hu) List.not_mem_nil
    · cases hs
  | waitReturns =>
    simp only [threadStep] at hs
    split at hs
    · rename_i hin
      cases hs
      exact ⟨⟨hlooper, hasleep⟩, fun _ => hlooper ▸ hin.2⟩
    · cases hs
  | _ =>
    simp only [threadStep] at hs
    split at hs <;> cases hs
    exact ⟨⟨hlooper, hasleep⟩, fun heq => by cases heq⟩

/-- A step in which `poll` does not fail keeps the invariant. -/
theorem step_exitInvariant {a : LoopAction φ} (h : s.ExitInvariant) (ha : s.PollSucceeds a)
    (hs : s.step a = some s') : s'.ExitInvariant ∧ s.WaitsForReset a s' := by
  cases a with
  | looper a =>
    rw [step] at hs
    split at hs
    · refine ⟨looperStep_exitInvariant h (fun heq => ha (by rw [heq])) hs, fun t heq => ?_⟩
      cases heq
    · cases hs
  | thread t a =>
    obtain ⟨hkept, hreturns⟩ := threadStep_exitInvariant h hs
    refine ⟨hkept, fun u heq => hreturns ?_⟩
    cases heq
    rfl

/-- A `poll` that fails leaves `looper_thread_id_` set. -/
theorem pollFails_not_released (h : s.ExitInvariant) (hs : s.step (.looper .pollFails) = some s') :
    ¬ s'.Released := by
  rw [step] at hs
  split at hs
  · simp only [looperStep] at hs
    split at hs
    · rename_i hphase
      cases hs
      intro hreleased
      obtain ⟨hlooper, -⟩ := hreleased rfl
      change s.hasLooper = false at hlooper
      rw [h.hasLooper, hphase] at hlooper
      cases hlooper
    · cases hs
  · cases hs

/-- In every run, whatever the descriptors, what `poll` returns and when the flag is set, every exit
releases those who wait, and none of them leaves before, exactly when `poll` never fails. -/
theorem exits_released_iff (c : PollContext) (interruptFde : FdePtr) (as : List (LoopAction φ)) :
    (Throughout step Released (start c interruptFde) as ∧
      EachStep step WaitsForReset (start c interruptFde) as) ↔
    Meets step PollSucceeds (start c interruptFde) as := by
  have hstart : (start c interruptFde : LoopState φ).ExitInvariant := ⟨rfl, fun _ => rfl⟩
  refine throughout_and_eachStep_iff_meets (fun s h => ExitInvariant.released h)
    (fun s a s' h ha hs => step_exitInvariant h ha hs) (fun s a s' h ha hs hboth => ?_) hstart
  have hfails : a = .looper .pollFails := not_not.mp ha
  subst hfails
  exact pollFails_not_released h hs hboth.1

/-- A call of `poll` fails while a thread waits for the loop to end. -/
def failedPoll : List (LoopAction ℕ) :=
  [.looper .enterLoop, .looper (.checkTerminate 0), .thread (.other 0) .setTerminate,
    .thread (.other 0) (.interrupt true), .thread (.other 0) .waitForLoopExit,
    .thread (.other 0) .sleeps, .looper .pollFails]

/-- The thread waits for ever. -/
theorem failedPoll_not_released :
    ¬ ∀ (c : PollContext) (interruptFde : FdePtr) (as : List (LoopAction ℕ)),
      Throughout step Released (start c interruptFde) as ∧
        EachStep step WaitsForReset (start c interruptFde) as := by
  intro hall
  let c : PollContext := (PollContext.create ⟨0, ∅, fun _ _ h => by cases h⟩ 3)
  obtain ⟨s', hrun, hphase, hlooper⟩ : ∃ s', run step (start c ⟨3, 0⟩) failedPoll = some s' ∧
      s'.phase = .outside ∧ s'.hasLooper = true := ⟨_, rfl, rfl, rfl⟩
  have hreleased : s'.Released := (hall c ⟨3, 0⟩ failedPoll).1.last hrun
  rw [(hreleased hphase).1] at hlooper
  cases hlooper

end LoopState

end AdbMobile
