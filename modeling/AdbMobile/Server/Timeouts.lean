import AdbMobile.Lib.Run
import AdbMobile.Server.PollLoop

/-!
# Timeouts

The header promises that a timeout "will trigger repeatedly every |timeout| ms". The loop computes
`FDE_TIMEOUT` for a descriptor to which nothing else has happened, and stamps the time on every
descriptor that has an event. But `HandleEvents` invokes one callback an iteration. The others that
are ready are reported again by the next `poll`, and a timeout is not: its `fdevent` was stamped, so
it has to wait anew.

In a sequence of iterations no timeout is lost exactly when each that is computed is the first event
of its iteration, or its `fdevent` is destroyed in it (`timeouts_kept_iff`).
-/

namespace AdbMobile

open Run

/-- What an iteration of the loop meets. -/
structure Iteration where
  /-- What `poll` reports of each descriptor. -/
  revents : ℕ → UInt16
  /-- The clock after `poll`. -/
  postPoll : ℤ
  /-- What the callback that is invoked does to the context, and then the functions that are queued
  on the looper. -/
  ops : List ContextOp

namespace PollContext

/-- The context and the events after the look-ups of an iteration. -/
def afterPoll (c : PollContext) (i : Iteration) : Option (PollContext × List FdeventEvent) :=
  lookUps i.revents i.postPoll c.pollfds c []

/-- The event whose callback an iteration invokes. -/
def invoked (c : PollContext) (i : Iteration) : Option FdeventEvent :=
  (c.afterPoll i).bind fun r => r.1.firstInstalled r.2

/-- The context after an iteration. -/
def iterate (c : PollContext) (i : Iteration) : Option PollContext :=
  (c.afterPoll i).map fun r => i.ops.foldl apply r.1

/-- An iteration computes `FDE_TIMEOUT` for an `fdevent`. -/
def TimesOut (i : Iteration) (fde : FdePtr) (e : PollFdevent) : Prop :=
  readyEvents (i.revents fde.fd) = 0 ∧ e.expired i.postPoll = true

/-- Each `fdevent` for which `FDE_TIMEOUT` was computed is told, or destroyed, or its `last_active`
is unchanged. -/
def NoTimeoutLost (c : PollContext) (i : Iteration) (c' : PollContext) : Prop :=
  ∀ fde e, c.find? fde = some e → TimesOut i fde e →
    c.invoked i = some ⟨fde, fdeTimeout⟩ ∨ c'.find? fde = none ∨
      ∃ e', c'.find? fde = some e' ∧ e'.lastActive = e.lastActive

/-- The time that `SetTimeout` stamps on an `fdevent`, where an operation is one. -/
def stampOf (fde : FdePtr) (lastActive : ℤ) : ContextOp → ℤ
  | .setTimeout fde' _ now => if fde' = fde then now else lastActive
  | _ => lastActive

/-- Each `fdevent` for which `FDE_TIMEOUT` is computed comes before all others that have an event,
or it is destroyed in the iteration, or the last time stamped on it is the one that it had. -/
def TimeoutFirst (c : PollContext) (i : Iteration) : Prop :=
  ∀ fde e, c.find? fde = some e → TimesOut i fde e →
    (∀ q a, c.find? q = some a → q.fd < fde.fd →
      a.eventsAfter (i.revents q.fd) i.postPoll = 0) ∨
    .destroy fde ∈ i.ops ∨ i.ops.foldl (stampOf fde) i.postPoll = e.lastActive

variable {c c' : PollContext} {i : Iteration} {fde : FdePtr} {e : PollFdevent}

/-! ## The callbacks -/

/-- Ids are only handed out. -/
theorem nextId_le_apply (c : PollContext) (op : ContextOp) : c.nextId ≤ (c.apply op).nextId := by
  cases op with
  | create fd =>
    simp only [apply, create]
    split
    · exact le_rfl
    · exact Nat.le_succ _
  | _ => exact le_rfl

/-- What is installed has an id that was handed out. -/
theorem id_lt_nextId (h : c.find? fde = some e) : fde.id < c.nextId := by
  obtain ⟨hlook, hid⟩ := find?_eq_some_iff.mp h
  exact hid ▸ c.lt_nextId fde.fd e hlook

/-- An operation on an `fdevent` that is installed destroys it, or leaves it with the time that it
stamps. -/
theorem find?_apply (h : c.find? fde = some e) (op : ContextOp) :
    (op = .destroy fde ∧ (c.apply op).find? fde = none) ∨
    (op ≠ .destroy fde ∧ ∃ e', (c.apply op).find? fde = some e' ∧
      e'.lastActive = stampOf fde e.lastActive op) := by
  cases op with
  | create fd =>
    refine .inr ⟨by simp, e, ?_, rfl⟩
    exact (find?_create c fd (id_lt_nextId h)).trans h
  | destroy q =>
    by_cases hq : fde = q
    · subst hq
      exact .inl ⟨rfl, (find?_destroy c fde fde).trans (if_pos rfl)⟩
    · refine .inr ⟨fun heq => hq (ContextOp.destroy.inj heq).symm, e, ?_, rfl⟩
      exact ((find?_destroy c q fde).trans (if_neg hq)).trans h
  | set q events =>
    refine .inr ⟨by simp, if fde = q then { e with state := events } else e, ?_, ?_⟩
    · rw [apply, find?_modify, h, Option.map_some]
    · split <;> rfl
  | setTimeout q timeout now =>
    refine .inr ⟨by simp,
      if fde = q then { e with timeout := timeout, lastActive := now } else e, ?_, ?_⟩
    · rw [apply, find?_modify, h, Option.map_some]
    · rw [stampOf]
      by_cases hq : fde = q
      · rw [if_pos hq, if_pos hq.symm]
      · rw [if_neg hq, if_neg fun heq => hq heq.symm]

/-- What is gone stays so. -/
theorem find?_apply_none (h : c.find? fde = none) (hid : fde.id < c.nextId) (op : ContextOp) :
    (c.apply op).find? fde = none := by
  cases op with
  | create fd => exact (find?_create c fd hid).trans h
  | destroy q =>
    rw [apply, find?_destroy, h]
    exact ite_self none
  | set q events =>
    rw [apply, find?_modify, h]
    rfl
  | setTimeout q timeout now =>
    rw [apply, find?_modify, h]
    rfl

theorem foldl_apply_none (ops : List ContextOp) :
    ∀ {c : PollContext}, c.find? fde = none → fde.id < c.nextId →
      (ops.foldl apply c).find? fde = none := by
  induction ops with
  | nil => exact fun h _ => h
  | cons op ops ih =>
    exact fun h hid => ih (find?_apply_none h hid op) (hid.trans_le (nextId_le_apply _ op))

/-- What the operations of an iteration leave of an `fdevent`. -/
theorem foldl_apply (ops : List ContextOp) :
    ∀ {c : PollContext} {e : PollFdevent}, c.find? fde = some e →
      (.destroy fde ∈ ops ∧ (ops.foldl apply c).find? fde = none) ∨
      (.destroy fde ∉ ops ∧ ∃ e', (ops.foldl apply c).find? fde = some e' ∧
        e'.lastActive = ops.foldl (stampOf fde) e.lastActive) := by
  induction ops with
  | nil => exact fun h => .inr ⟨List.not_mem_nil, _, h, rfl⟩
  | cons op ops ih =>
    intro c e h
    obtain ⟨rfl, hgone⟩ | ⟨hne, e', he', hstamp⟩ := find?_apply h op
    · exact .inl ⟨List.mem_cons_self, foldl_apply_none ops hgone
        ((id_lt_nextId h).trans_le (nextId_le_apply c (.destroy fde)))⟩
    · rw [List.foldl_cons, List.foldl_cons, ← hstamp]
      obtain ⟨hmem, hnone⟩ | ⟨hmem, hsome⟩ := ih he'
      · exact .inl ⟨List.mem_cons_of_mem _ hmem, hnone⟩
      · refine .inr ⟨?_, hsome⟩
        rw [List.mem_cons, not_or]
        exact ⟨Ne.symm hne, hmem⟩

/-! ## The look-ups -/

/-- The look-ups of an iteration without interference succeed: the events are those of the
descriptors in their order, and each that has one is stamped. -/
theorem afterPoll_eq_some (c : PollContext) (i : Iteration) : ∃ c',
    c.afterPoll i = some (c', c.pollfds.filterMap (c.eventOf i.revents i.postPoll)) ∧
    ∀ fde, c'.find? fde = (c.find? fde).map fun e =>
      if e.eventsAfter (i.revents fde.fd) i.postPoll ≠ 0 then { e with lastActive := i.postPoll }
      else e := by
  have hinstalled : ∀ p ∈ c.pollfds, (c.find? p.fde).isSome := by
    intro p hp
    obtain ⟨e, he, -⟩ := mem_pollfds_iff.mp hp
    rw [he]
    rfl
  obtain ⟨c', hlook, hafter⟩ := lookUps_eq_some i.revents i.postPoll [] c.pollfds_sorted
    hinstalled
  refine ⟨c', hlook, fun fde => ?_⟩
  rw [find?, find?, hafter]
  cases hfd : c.installed.lookup fde.fd with
  | none => rfl
  | some e =>
    have hmem : fde.fd ∈ c.pollfds.map fun p => p.fde.fd :=
      List.mem_map.mpr ⟨⟨⟨fde.fd, e.id⟩, e.requested⟩,
        mem_pollfds_iff.mpr ⟨e, find?_eq_some_iff.mpr ⟨hfd, rfl⟩, rfl⟩, rfl⟩
    by_cases hid : e.id = fde.id
    · by_cases hhappened : e.eventsAfter (i.revents fde.fd) i.postPoll = 0 <;>
        simp [Option.filter, hmem, hid, hhappened]
    · by_cases hhappened : e.eventsAfter (i.revents fde.fd) i.postPoll = 0 <;>
        simp [Option.filter, hmem, hid, hhappened]

/-- The first of the events of descriptors in ascending order is that of the first descriptor that
has one. -/
theorem head?_filterMap_iff {ps : List PollFd} {p : PollFd} {x : FdeventEvent}
    (f : PollFd → Option FdeventEvent) (hf : ∀ q, ∀ y ∈ f q, y.fde = q.fde) (hp : p ∈ ps)
    (hx : f p = some x) (hsorted : ps.Pairwise fun p q => p.fde.fd < q.fde.fd) :
    (ps.filterMap f).head? = some x ↔ ∀ q ∈ ps, q.fde.fd < p.fde.fd → f q = none := by
  induction ps with
  | nil => cases hp
  | cons a ps ih =>
    obtain ⟨hlt, hsorted⟩ := List.pairwise_cons.mp hsorted
    rcases List.mem_cons.mp hp with rfl | hp
    · rw [List.filterMap_cons_some hx, List.head?_cons]
      refine iff_of_true rfl fun q hq hqlt => ?_
      rcases List.mem_cons.mp hq with rfl | hq
      · exact absurd hqlt (Nat.lt_irrefl _)
      · exact absurd (hlt q hq) (Nat.lt_asymm hqlt)
    · cases ha : f a with
      | none =>
        rw [List.filterMap_cons_none ha, ih hp hsorted, List.forall_mem_cons]
        exact ⟨fun h => ⟨fun _ => ha, h⟩, And.right⟩
      | some y =>
        rw [List.filterMap_cons_some ha, List.head?_cons]
        refine iff_of_false (fun heq => ?_) fun h => ?_
        · have hfde : a.fde = p.fde := by
            rw [← hf a y ha, Option.some.inj heq]
            exact hf p x hx
          exact absurd (hfde ▸ hlt p hp) (Nat.lt_irrefl _)
        · rw [h a List.mem_cons_self (hlt p hp)] at ha
          cases ha

/-- A timeout that is computed is invoked exactly when no descriptor before it has an event. -/
theorem invoked_iff (he : c.find? fde = some e) (hout : TimesOut i fde e) :
    c.invoked i = some ⟨fde, fdeTimeout⟩ ↔ ∀ q a, c.find? q = some a → q.fd < fde.fd →
      a.eventsAfter (i.revents q.fd) i.postPoll = 0 := by
  obtain ⟨c', hafter, hfind⟩ := c.afterPoll_eq_some i
  have hevent : c.eventOf i.revents i.postPoll ⟨fde, e.requested⟩ = some ⟨fde, fdeTimeout⟩ := by
    rw [eventOf, he, Option.bind_some, PollFdevent.eventsAfter, if_pos hout.1, if_pos hout.2]
    rfl
  have hfde : ∀ q, ∀ y ∈ c.eventOf i.revents i.postPoll q, y.fde = q.fde := by
    intro q y hy
    obtain ⟨a, -, hy⟩ := Option.bind_eq_some_iff.mp hy
    dsimp only at hy
    split at hy
    · cases hy
    · cases hy
      rfl
  -- All of them are still installed when `HandleEvents` looks.
  have hfirst : c.invoked i = (c.pollfds.filterMap (c.eventOf i.revents i.postPoll)).head? := by
    rw [invoked, hafter, Option.bind_some, firstInstalled, ← List.head?_filter]
    congr 1
    refine List.filter_eq_self.mpr fun x hx => ?_
    obtain ⟨p, hp, hpx⟩ := List.mem_filterMap.mp hx
    obtain ⟨a, ha, -⟩ := mem_pollfds_iff.mp hp
    rw [hfind, hfde p x hpx, ha]
    rfl
  rw [hfirst, head?_filterMap_iff _ hfde (mem_pollfds_iff.mpr ⟨e, he, rfl⟩) hevent c.pollfds_sorted]
  constructor
  · intro h q a ha hlt
    have hnone := h ⟨q, a.requested⟩ (mem_pollfds_iff.mpr ⟨a, ha, rfl⟩) hlt
    by_contra hne
    rw [eventOf, ha, Option.bind_some, if_neg hne] at hnone
    cases hnone
  · intro h p hp hlt
    obtain ⟨a, ha, -⟩ := mem_pollfds_iff.mp hp
    rw [eventOf, ha, Option.bind_some, if_pos (h p.fde a ha hlt)]

/-- What an iteration leaves of an `fdevent` that timed out. -/
theorem iterate_timedOut (hs : c.iterate i = some c') (he : c.find? fde = some e)
    (hout : TimesOut i fde e) :
    (.destroy fde ∈ i.ops ∧ c'.find? fde = none) ∨
    (.destroy fde ∉ i.ops ∧ ∃ e', c'.find? fde = some e' ∧
      e'.lastActive = i.ops.foldl (stampOf fde) i.postPoll) := by
  obtain ⟨c₁, hafter, hfind⟩ := c.afterPoll_eq_some i
  rw [iterate, hafter, Option.map_some] at hs
  cases hs
  have hstamped : c₁.find? fde = some { e with lastActive := i.postPoll } := by
    have hne : fdeTimeout ≠ 0 := by decide
    rw [hfind, he, Option.map_some, PollFdevent.eventsAfter, if_pos hout.1, if_pos hout.2,
      if_pos hne]
  exact foldl_apply i.ops hstamped

/-- One iteration. -/
theorem noTimeoutLost_iff (hs : c.iterate i = some c') :
    NoTimeoutLost c i c' ↔ TimeoutFirst c i := by
  unfold NoTimeoutLost TimeoutFirst
  refine forall₂_congr fun fde e => forall₂_congr fun he hout => ?_
  rw [invoked_iff he hout]
  refine or_congr_right ?_
  obtain ⟨hmem, hgone⟩ | ⟨hmem, e', he', hstamp⟩ := iterate_timedOut hs he hout
  · exact iff_of_true (.inl hgone) (.inl hmem)
  · rw [he', ← hstamp]
    simp [hmem]

/-- In every sequence of iterations, from any context, no timeout is lost exactly when each that is
computed comes before all other events of its iteration, or its `fdevent` is destroyed there, or is
stamped with the time that it had. -/
theorem timeouts_kept_iff (c : PollContext) (is : List Iteration) :
    EachStep iterate NoTimeoutLost c is ↔ Meets iterate TimeoutFirst c is := by
  refine eachStep_congr fun c i c' hs => ?_
  exact noTimeoutLost_iff hs

/-- A descriptor that is asked for reads, and one with a timeout of 10 milliseconds. -/
def readyAndExpired : PollContext :=
  [.create 3, .create 4, .setTimeout ⟨4, 1⟩ (some 10) 0, .set ⟨3, 0⟩ fdeRead].foldl apply
    ⟨0, ∅, fun _ _ h => by cases h⟩

/-- The timeout expires in an iteration that finds the other descriptor ready. -/
theorem timeout_lost :
    ¬ ∀ (c : PollContext) (is : List Iteration), EachStep iterate NoTimeoutLost c is := by
  intro hall
  let i : Iteration := ⟨fun fd => if fd = 3 then pollIn else 0, 20000000, []⟩
  have he : readyAndExpired.find? ⟨4, 1⟩ = some ⟨1, 0, some 10, 0⟩ := by decide +kernel
  have hout : TimesOut i ⟨4, 1⟩ ⟨1, 0, some 10, 0⟩ := ⟨by decide +kernel, by decide +kernel⟩
  obtain ⟨c', hafter, -⟩ := readyAndExpired.afterPoll_eq_some i
  have hs : readyAndExpired.iterate i = some c' := by
    rw [iterate, hafter]
    rfl
  have hkept : NoTimeoutLost readyAndExpired i c' := (hall readyAndExpired [i] c' hs).1
  obtain hfirst | hgone | hstamp := (noTimeoutLost_iff hs).mp hkept _ _ he hout
  · have hready := hfirst ⟨3, 0⟩ ⟨0, fdeRead, none, 0⟩ (by decide +kernel) (by decide)
    exact absurd hready (by decide +kernel)
  · exact absurd hgone List.not_mem_nil
  · exact absurd hstamp (by decide)

end PollContext

end AdbMobile
