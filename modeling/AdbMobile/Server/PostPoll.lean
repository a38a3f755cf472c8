import AdbMobile.Server.LoopThreads

/-!
# The look-ups after `poll`

After `poll` the loop looks every descriptor that it collected up in `installed_fdevents_`, and uses
the iterator without a test. The looper changes the map only in callbacks and in functions from the
queue, so it finds what it collected. But `Destroy` does not check the thread that calls it, and the
atexit handler calls it through `close_smartsockets`, also while the loop is in `poll`.

From the collection to the look-ups, each descriptor that is not looked up yet is bound to the
`fdevent` that it was collected for, exactly in the runs where no other thread destroys one of them
in that time, and then no look-up finds the end of the map (`collected_bound_iff`).
-/

namespace AdbMobile

open Run

namespace PollContext

/-- A look-up stamps an `fdevent`. -/
theorem find?_lookUp {c c' : PollContext} {revents : ℕ → UInt16} {postPoll : ℤ}
    {events events' : List FdeventEvent} {p : PollFd}
    (h : lookUp revents postPoll c events p = some (c', events')) (q : FdePtr) :
    (c'.find? q).isSome = (c.find? q).isSome := by
  obtain ⟨e, -, heq⟩ := Option.map_eq_some_iff.mp h
  dsimp only at heq
  split at heq
  · cases heq
    rfl
  · cases heq
    rw [find?_modify, Option.isSome_map]

end PollContext

namespace LoopState

variable {φ : Type} {s s' : LoopState φ}

/-- Each descriptor that is collected and not looked up yet is bound to the `fdevent` for which it
was collected, and no end of the map has been dereferenced. -/
def Bound (s : LoopState φ) : Prop :=
  (∀ p ∈ s.phase.collected, (s.context.find? p.fde).isSome = true) ∧ s.phase ≠ .undefined

/-- A look-up finds the `fdevent` for which the descriptor was collected. -/
def FindsCollected (s : LoopState φ) (a : LoopAction φ) (_ : LoopState φ) : Prop :=
  a = .looper .lookUp → ∀ p ∈ s.phase.collected.head?, ∃ e, s.context.find? p.fde = some e

/-- No `fdevent` is destroyed for which a descriptor is collected and not looked up yet. -/
def SparesCollected (s : LoopState φ) (a : LoopAction φ) : Prop :=
  ∀ t fde, a = .thread t (.destroy fde) → ∀ p ∈ s.phase.collected, p.fde ≠ fde

/-- Nothing is collected while the looper runs other code. -/
theorem collected_of_runsCode {phase : LoopPhase φ} (h : phase.runsCode = true) :
    phase.collected = [] := by
  cases phase with
  | polling | lookingUp => cases h
  | _ => rfl

/-- Outside of these look-ups there is nothing to find. -/
theorem bound_of_nil (hcollected : s.phase.collected = []) (hdefined : s.phase ≠ .undefined) :
    s.Bound := by
  rw [Bound, hcollected]
  exact ⟨fun p hp => absurd hp List.not_mem_nil, hdefined⟩

/-- The looper collects what is installed, and looks it up before it runs other code. -/
theorem looperStep_bound {a : LooperAction} (h : s.Bound) (hs : s.looperStep a = some s') :
    s'.Bound := by
  obtain ⟨hbound, hdefined⟩ := h
  cases a with
  | checkTerminate now =>
    simp only [looperStep] at hs
    repeat' split at hs
    all_goals cases hs
    · exact bound_of_nil rfl fun heq => by cases heq
    · refine ⟨fun p hp => ?_, fun heq => by cases heq⟩
      obtain ⟨e, he, -⟩ := PollContext.mem_pollfds_iff.mp hp
      exact Option.isSome_iff_exists.mpr ⟨e, he⟩
  | pollReturns revents postPoll =>
    simp only [looperStep] at hs
    split at hs
    · rename_i hphase
      cases hs
      rw [hphase] at hbound
      exact ⟨hbound, fun heq => by cases heq⟩
    · cases hs
  | lookUp =>
    simp only [looperStep] at hs
    split at hs
    · rename_i revents postPoll p pollfds events hphase
      rw [hphase] at hbound
      obtain ⟨hp, hrest⟩ := List.forall_mem_cons.mp hbound
      split at hs
      · rename_i context events' hlook
        cases hs
        refine ⟨fun q hq => ?_, fun heq => by cases heq⟩
        exact (PollContext.find?_lookUp hlook q.fde).trans (hrest q hq)
      · -- What is to be looked up is installed, so the look-up does not fail.
        rename_i hlook
        obtain ⟨e, he⟩ := Option.isSome_iff_exists.mp hp
        obtain ⟨c', hsome, -⟩ := PollContext.lookUp_eq_some revents postPoll events he
        rw [hsome] at hlook
        cases hlook
    · cases hs
  | contextOp op =>
    simp only [looperStep] at hs
    split at hs
    · rename_i hruns
      cases hs
      exact bound_of_nil (collected_of_runsCode hruns) hdefined
    · cases hs
  | _ =>
    simp only [looperStep] at hs
    repeat' split at hs
    all_goals cases hs
    all_goals exact bound_of_nil rfl fun heq => by cases heq

/-- Of what the other threads do, only `Destroy` concerns the map. -/
theorem threadStep_context {t : LoopThread} {a : ThreadAction φ} (hs : s.threadStep t a = some s') :
    s'.phase = s.phase ∧ ((∃ fde, a = .destroy fde ∧ s'.context = s.context.destroy fde) ∨
      (∀ fde, a ≠ .destroy fde) ∧ s'.context = s.context) := by
  cases a with
  | destroy fde =>
    simp only [threadStep] at hs
    split at hs <;> cases hs
    exact ⟨rfl, .inl ⟨fde, rfl, rfl⟩⟩
  | _ =>
    simp only [threadStep] at hs
    split at hs <;> cases hs
    exact ⟨rfl, .inr ⟨fun fde heq => (by cases heq), rfl⟩⟩

/-- A step that destroys nothing collected keeps the rest of it bound. -/
theorem step_bound {a : LoopAction φ} (h : s.Bound) (ha : s.SparesCollected a)
    (hs : s.step a = some s') : s'.Bound := by
  cases a with
  | looper a =>
    rw [step] at hs
    split at hs
    · exact looperStep_bound h hs
    · cases hs
  | thread t a =>
    obtain ⟨hphase, hcontext⟩ := threadStep_context hs
    rw [Bound, hphase]
    refine ⟨fun p hp => ?_, h.2⟩
    obtain ⟨fde, rfl, hdestroy⟩ | ⟨-, hsame⟩ := hcontext
    · rw [hdestroy, PollContext.find?_destroy, if_neg (ha t fde rfl p hp)]
      exact h.1 p hp
    · rw [hsame]
      exact h.1 p hp

/-- A step that destroys something collected leaves it unbound. -/
theorem step_not_bound {a : LoopAction φ} (ha : ¬ s.SparesCollected a) (hs : s.step a = some s') :
    ¬ s'.Bound := by
  rw [SparesCollected] at ha
  push Not at ha
  obtain ⟨t, fde, rfl, p, hp, hfde⟩ := ha
  change s.threadStep t (.destroy fde) = some s' at hs
  obtain ⟨hphase, ⟨fde', heq, hdestroy⟩ | ⟨hne, -⟩⟩ := threadStep_context hs
  · cases heq
    rintro ⟨hbound, -⟩
    have hgone := hbound p (hphase ▸ hp)
    rw [hdestroy, PollContext.find?_destroy, if_pos hfde] at hgone
    cases hgone
  · exact absurd rfl (hne fde)

/-- What is bound is found. -/
theorem Bound.findsCollected (h : s.Bound) (a : LoopAction φ) (s' : LoopState φ) :
    s.FindsCollected a s' := by
  intro _ p hp
  exact Option.isSome_iff_exists.mp (h.1 p (List.mem_of_mem_head? hp))

/-- In every run, each descriptor that is collected stays bound until it is looked up, and each
look-up finds it, exactly when no thread destroys an `fdevent` whose descriptor is collected and not
looked up yet. -/
theorem collected_bound_iff (c : PollContext) (interruptFde : FdePtr) (as : List (LoopAction φ)) :
    (Throughout step Bound (start c interruptFde) as ∧
      EachStep step FindsCollected (start c interruptFde) as) ↔
    Meets step SparesCollected (start c interruptFde) as := by
  have hstart : (start c interruptFde : LoopState φ).Bound :=
    bound_of_nil rfl fun heq => by cases heq
  refine throughout_and_eachStep_iff_meets (fun _ h => h)
    (fun s a s' h ha hs => ⟨step_bound h ha hs, h.findsCollected a s'⟩)
    (fun s a s' _ ha hs hboth => ?_) hstart
  exact step_not_bound ha hs hboth.1

/-- The atexit handler closes a listener while the loop is in `poll`. -/
def closedInPoll : List (LoopAction ℕ) :=
  [.looper .enterLoop, .looper (.checkTerminate 0), .thread (.other 0) (.destroy ⟨4, 1⟩),
    .looper (.pollReturns (fun _ => 0) 0), .looper .lookUp, .looper .lookUp]

/-- The loop does not find the descriptor. -/
theorem closedInPoll_not_found :
    ¬ ∀ (c : PollContext) (interruptFde : FdePtr) (as : List (LoopAction ℕ)),
      Throughout step Bound (start c interruptFde) as ∧
        EachStep step FindsCollected (start c interruptFde) as := by
  intro hall
  let c : PollContext := ((PollContext.create ⟨0, ∅, fun _ _ h => by cases h⟩ 3).create 4)
  obtain ⟨s', hrun, hphase⟩ : ∃ s', run step (start c ⟨3, 0⟩) closedInPoll = some s' ∧
      s'.phase = .undefined := ⟨_, rfl, rfl⟩
  have hbound : s'.Bound := (hall c ⟨3, 0⟩ closedInPoll).1.last hrun
  exact hbound.2 hphase

end LoopState

end AdbMobile
