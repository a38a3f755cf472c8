import AdbMobile.Server.LoopThreads

/-!
# The run queue

`Run` pushes a function and then writes a byte to the interrupt socket. The loop reads any number of
the bytes at once, and flushes the queue after every `poll`.

No function is lost, repeated or overtaken, and the loop never waits in `poll` for a byte that
nobody will write: after a read it flushes the queue before it polls again, so a function that is
queued while it polls was pushed after the last flush, and its byte is in the socket, or its thread
is about to write it (`functions_run_in_order`).
-/

namespace AdbMobile

open Run

namespace LoopState

variable {φ : Type} {s s' : LoopState φ}

/-- The functions that ran are, in their order, the first of those that were pushed, and those that
follow are in the queue. -/
def InOrder (s : LoopState φ) : Prop :=
  s.pushed = s.executed ++ s.runQueue

/-- There is a byte to read, or the thread that pushed the last function has still to write it. -/
def Interrupted (s : LoopState φ) : Prop :=
  0 < s.unread ∨ ∃ t ∈ s.inRun, s.lastPusher = some t

/-- The loop does not wait in `poll` while a function is queued. -/
def NeverAsleep (s : LoopState φ) : Prop :=
  ∀ pollfds duration, s.phase = .polling pollfds duration → s.runQueue ≠ [] → s.Interrupted

/-- The functions that ran are a prefix of those that were pushed, the others are queued, and the
loop does not wait while one is. -/
def RunsQueue (s : LoopState φ) : Prop :=
  s.executed <+: s.pushed ∧ s.InOrder ∧ s.NeverAsleep

/-- The invariant: while a function is queued, the queue is yet to be flushed before the next
`poll`, or the loop is interrupted. -/
structure QueueInvariant (s : LoopState φ) : Prop where
  inOrder : s.InOrder
  woken : s.phase.beforeFlushed = true ∨ s.runQueue = [] ∨ s.Interrupted

/-- A step of the looper pushes nothing, and what it takes from the queue has run. -/
theorem looperStep_pushed {a : LooperAction} (hs : s.looperStep a = some s') :
    s'.pushed = s.pushed ∧ s'.executed ++ s'.runQueue = s.executed ++ s.runQueue := by
  cases a with
  | nextFunction =>
    simp only [looperStep] at hs
    split at hs
    · split at hs
      · cases hs
        exact ⟨rfl, rfl⟩
      · rename_i f runQueue hcons
        cases hs
        refine ⟨rfl, ?_⟩
        rw [hcons, List.append_assoc, List.singleton_append]
    · cases hs
  | _ =>
    simp only [looperStep] at hs
    repeat' split at hs
    all_goals cases hs
    all_goals exact ⟨rfl, rfl⟩

/-- Bytes are read in a callback, which is before the flush, and only the flush goes on to the next
`poll`. -/
theorem looperStep_unread {a : LooperAction} (hs : s.looperStep a = some s') :
    s'.phase.beforeFlushed = true ∨ s'.runQueue = [] ∨
      s.phase.beforeFlushed = false ∧ s'.runQueue = s.runQueue ∧ s'.unread = s.unread ∧
        s'.inRun = s.inRun ∧ s'.lastPusher = s.lastPusher := by
  cases a with
  | nextFunction =>
    simp only [looperStep] at hs
    split at hs
    · split at hs
      · rename_i hempty
        cases hs
        exact .inr (.inl hempty)
      · cases hs
        exact .inl rfl
    · cases hs
  | readInterrupt n =>
    simp only [looperStep] at hs
    repeat' split at hs
    all_goals cases hs
    exact .inl rfl
  | contextOp op =>
    simp only [looperStep] at hs
    split at hs
    · cases hs
      cases hflush : s.phase.beforeFlushed with
      | true => exact .inl rfl
      | false => exact .inr (.inr ⟨rfl, rfl, rfl, rfl, rfl⟩)
    · cases hs
  | _ =>
    simp only [looperStep] at hs
    split at hs
    · rename_i hphase
      rw [hphase]
      repeat' split at hs
      all_goals cases hs
      all_goals
        first
        | exact .inl rfl
        | exact .inr (.inr ⟨rfl, rfl, rfl, rfl, rfl⟩)
    · cases hs

/-- A step of another thread keeps the invariant: what it pushes it is about to write a byte for,
and a byte is written or there are bytes already. -/
theorem threadStep_queueInvariant {t : LoopThread} {a : ThreadAction φ} (h : s.QueueInvariant)
    (hs : s.threadStep t a = some s') : s'.QueueInvariant := by
  obtain ⟨horder, hwoken⟩ := h
  cases a with
  | push f =>
    simp only [threadStep] at hs
    split at hs
    · cases hs
      refine ⟨?_, .inr (.inr (.inr ⟨t, List.mem_cons_self, rfl⟩))⟩
      change s.pushed ++ [f] = s.executed ++ (s.runQueue ++ [f])
      rw [horder, List.append_assoc]
    · cases hs
  | interrupt written =>
    simp only [threadStep] at hs
    split at hs
    · rename_i hwrite
      cases hs
      refine ⟨horder, .inr (.inr (.inl ?_))⟩
      change 0 < if written = true then s.unread + 1 else s.unread
      split
      · exact Nat.succ_pos _
      · exact hwrite.2.resolve_left ‹_›
    · cases hs
  | _ =>
    simp only [threadStep] at hs
    split at hs
    · cases hs
      exact ⟨horder, hwoken⟩
    · cases hs

/-- The invariant is kept by every step. -/
theorem step_queueInvariant {a : LoopAction φ} (h : s.QueueInvariant) (hs : s.step a = some s') :
    s'.QueueInvariant := by
  cases a with
  | thread t a => exact threadStep_queueInvariant h hs
  | looper a =>
    rw [step] at hs
    split at hs
    · obtain ⟨hpushed, hexecuted⟩ := looperStep_pushed hs
      refine ⟨?_, ?_⟩
      · rw [InOrder, hpushed, hexecuted]
        exact h.inOrder
      · obtain hflush | hempty | ⟨hflush, hqueue, hunread, hinRun, hlast⟩ := looperStep_unread hs
        · exact .inl hflush
        · exact .inr (.inl hempty)
        · have hwoken := h.woken.resolve_left (by rw [hflush]; exact Bool.false_ne_true)
          rw [Interrupted, hqueue, hunread, hinRun, hlast]
          exact .inr hwoken
    · cases hs

/-- What the invariant says while the loop polls. -/
theorem QueueInvariant.runsQueue (h : s.QueueInvariant) : s.RunsQueue := by
  refine ⟨⟨s.runQueue, h.inOrder.symm⟩, h.inOrder, fun pollfds duration hphase hqueue => ?_⟩
  obtain hflush | hempty | hinterrupted := h.woken
  · rw [hphase] at hflush
    cases hflush
  · exact absurd hempty hqueue
  · exact hinterrupted

/-- With any number of threads, in every order of their steps, the functions that ran are a prefix
of those that were pushed, each ran once, and the loop does not wait in `poll` while one is queued,
unless the byte for it is in the socket or about to be written. -/
theorem functions_run_in_order (c : PollContext) (interruptFde : FdePtr)
    (as : List (LoopAction φ)) :
    Throughout step RunsQueue (start c interruptFde) as := by
  have hstart : (start c interruptFde : LoopState φ).QueueInvariant := ⟨rfl, .inr (.inl rfl)⟩
  have hmeets : Meets step (fun _ _ => True) (start c interruptFde : LoopState φ) as :=
    meets_of_forall fun _ _ _ => trivial
  have hkeeps : ∀ (s : LoopState φ) (a : LoopAction φ) (s' : LoopState φ), s.QueueInvariant → True →
      s.step a = some s' → s'.QueueInvariant := fun s a s' h _ hs => step_queueInvariant h hs
  exact (throughout_of_meets hkeeps hstart hmeets).mono fun s h => h.runsQueue

end LoopState

end AdbMobile
