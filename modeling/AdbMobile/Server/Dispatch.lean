import AdbMobile.Server.Timeouts

/-!
# Which callback is invoked

`poll` reports every descriptor that is ready, and the loop makes a list of events of it, in the
order of the descriptors. `HandleEvents` invokes the callback of one of them: its loop ends with a
`break` at the first `fdevent` that is still installed. What is ready and was not told is reported
again by the next `poll`, and has to wait until nothing is left to tell to a lower descriptor.

So an `fdevent` that stays ready shares the iterations with the lower ones: each iteration invokes
its callback or that of one of them (`lowest_first`). Nothing bounds its wait but what happens to
the lower descriptors, and where one of them is ready in every iteration it is never told.
-/

namespace AdbMobile

open Run

namespace PollContext

/-- What an iteration has to tell an `fdevent`, and 0 where that is nothing. -/
def eventsOf (c : PollContext) (i : Iteration) (fde : FdePtr) : UInt16 :=
  ((c.find? fde).map fun e => e.eventsAfter (i.revents fde.fd) i.postPoll).getD 0

/-- An iteration has something to tell to a lower descriptor. -/
def LowerWaits (c : PollContext) (i : Iteration) (fde : FdePtr) : Prop :=
  ∃ q, q.fd < fde.fd ∧ c.eventsOf i q ≠ 0

/-- A callback is invoked exactly with what there is to tell, when that is not nothing, and when
there is nothing to tell to a lower descriptor. -/
def LowestFirst (c : PollContext) (i : Iteration) (_ : PollContext) : Prop :=
  ∀ fde events, c.invoked i = some ⟨fde, events⟩ ↔
    events ≠ 0 ∧ events = c.eventsOf i fde ∧ ¬ c.LowerWaits i fde

/-- The callbacks that are invoked, one in each iteration at most. -/
def dispatches : PollContext → List Iteration → List (Option FdeventEvent)
  | _, [] => []
  | c, i :: is =>
    c.invoked i :: ((c.iterate i).map fun c' => dispatches c' is).getD []

/-- The callback of the `fdevent`. -/
def isTo (fde : FdePtr) (x : Option FdeventEvent) : Bool := x.any fun x => x.fde = fde

/-- The callback of a lower descriptor. -/
def isBelow (fd : ℕ) (x : Option FdeventEvent) : Bool := x.any fun x => x.fde.fd < fd

variable {c c' : PollContext} {i : Iteration} {fde : FdePtr}

/-! ## One iteration -/

/-- What is installed and what is not have events as the definition says. -/
theorem eventOf_pollfd {e : PollFdevent} (he : c.find? fde = some e) (events : UInt16) :
    c.eventOf i.revents i.postPoll ⟨fde, events⟩ =
      if c.eventsOf i fde = 0 then none else some ⟨fde, c.eventsOf i fde⟩ := by
  rw [eventOf, eventsOf, he]
  rfl

theorem installed_of_eventsOf (h : c.eventsOf i fde ≠ 0) : ∃ e, c.find? fde = some e := by
  unfold eventsOf at h
  cases hfind : c.find? fde with
  | none =>
    rw [hfind] at h
    exact absurd rfl h
  | some e => exact ⟨e, rfl⟩

/-- An event is one of the `fdevent` for which its descriptor was collected. -/
theorem eventOf_fde {p : PollFd} {x : FdeventEvent}
    (hx : c.eventOf i.revents i.postPoll p = some x) : x.fde = p.fde := by
  obtain ⟨e, -, hx⟩ := Option.bind_eq_some_iff.mp hx
  dsimp only at hx
  split at hx
  · cases hx
  · cases hx
    rfl

/-- All events are those of `fdevent`s that are still installed when `HandleEvents` looks, so it
takes the first one. -/
theorem invoked_eq_head? (c : PollContext) (i : Iteration) :
    c.invoked i = (c.pollfds.filterMap (c.eventOf i.revents i.postPoll)).head? := by
  obtain ⟨c', hafter, hfind⟩ := c.afterPoll_eq_some i
  rw [invoked, hafter, Option.bind_some, firstInstalled, ← List.head?_filter]
  congr 1
  refine List.filter_eq_self.mpr fun x hx => ?_
  obtain ⟨p, hp, hpx⟩ := List.mem_filterMap.mp hx
  obtain ⟨e, he, -⟩ := mem_pollfds_iff.mp hp
  rw [hfind, eventOf_fde hpx, he]
  rfl

/-- What an iteration tells to an `fdevent`, where it has something to tell to it. -/
theorem invoked_eq_iff (h : c.eventsOf i fde ≠ 0) :
    c.invoked i = some ⟨fde, c.eventsOf i fde⟩ ↔ ¬ c.LowerWaits i fde := by
  obtain ⟨e, he⟩ := installed_of_eventsOf h
  have hevent : c.eventOf i.revents i.postPoll ⟨fde, e.requested⟩ =
      some ⟨fde, c.eventsOf i fde⟩ := by rw [eventOf_pollfd he, if_neg h]
  have hmem : (⟨fde, e.requested⟩ : PollFd) ∈ c.pollfds := mem_pollfds_iff.mpr ⟨e, he, rfl⟩
  rw [invoked_eq_head?, head?_filterMap_iff _ (fun _ _ => eventOf_fde) hmem hevent c.pollfds_sorted]
  constructor
  · rintro hnone ⟨q, hlt, hq⟩
    obtain ⟨a, ha⟩ := installed_of_eventsOf hq
    have hqnone := hnone ⟨q, a.requested⟩ (mem_pollfds_iff.mpr ⟨a, ha, rfl⟩) hlt
    rw [eventOf_pollfd ha, if_neg hq] at hqnone
    cases hqnone
  · rintro hlower ⟨q, events⟩ hp hlt
    obtain ⟨a, ha, -⟩ := mem_pollfds_iff.mp hp
    have hzero : c.eventsOf i q = 0 := by
      by_contra hq
      exact hlower ⟨q, hlt, hq⟩
    rw [eventOf_pollfd ha, if_pos hzero]

/-- What a callback is told is what there was to tell. -/
theorem events_of_invoked {x : FdeventEvent} (h : c.invoked i = some x) :
    c.eventsOf i x.fde ≠ 0 ∧ x = ⟨x.fde, c.eventsOf i x.fde⟩ := by
  rw [invoked_eq_head?] at h
  obtain ⟨p, hp, hx⟩ := List.mem_filterMap.mp (List.mem_of_mem_head? h)
  obtain ⟨e, he, -⟩ := mem_pollfds_iff.mp hp
  have hfde := eventOf_fde hx
  replace hx := (eventOf_pollfd he p.events).symm.trans hx
  split at hx
  · cases hx
  · rename_i hne
    cases hx
    exact ⟨hne, rfl⟩

/-- Every iteration tells the lowest descriptor. -/
theorem lowestFirst (c : PollContext) (i : Iteration) (c' : PollContext) : LowestFirst c i c' := by
  intro fde events
  constructor
  · intro h
    obtain ⟨hne, heq⟩ := events_of_invoked h
    have hevents : events = c.eventsOf i fde := congrArg FdeventEvent.events heq
    exact ⟨hevents ▸ hne, hevents, (invoked_eq_iff hne).mp (hevents ▸ h)⟩
  · rintro ⟨hne, rfl, hlower⟩
    exact (invoked_eq_iff hne).mpr hlower

/-- Where there is something to tell, a callback is invoked. -/
theorem invoked_isSome (h : c.eventsOf i fde ≠ 0) : ∃ x, c.invoked i = some x := by
  rw [← Option.ne_none_iff_exists', invoked_eq_head?, Ne, List.head?_eq_none_iff,
    List.filterMap_eq_nil_iff]
  intro hnone
  obtain ⟨e, he⟩ := installed_of_eventsOf h
  have hevent := hnone ⟨fde, e.requested⟩ (mem_pollfds_iff.mpr ⟨e, he, rfl⟩)
  rw [eventOf_pollfd he, if_neg h] at hevent
  cases hevent

/-- An iteration that has something to tell to an `fdevent` invokes its callback or that of a lower
descriptor, and not both. -/
theorem isTo_eq_not_isBelow (h : c.eventsOf i fde ≠ 0) :
    isTo fde (c.invoked i) = !isBelow fde.fd (c.invoked i) := by
  by_cases hlower : c.LowerWaits i fde
  · obtain ⟨x, hx⟩ := invoked_isSome h
    have hlowest := ((lowestFirst c i c x.fde x.events).mp hx).2.2
    obtain ⟨q, hlt, hq⟩ := hlower
    -- Nothing that waits is below the one that is told.
    have hle : x.fde.fd ≤ q.fd := by
      by_contra hgt
      exact hlowest ⟨q, by omega, hq⟩
    have hbelow : x.fde.fd < fde.fd := by omega
    have hne : x.fde ≠ fde := fun heq => absurd (heq ▸ hbelow) (Nat.lt_irrefl _)
    simp [hx, isTo, isBelow, hbelow, hne]
  · simp [(invoked_eq_iff h).mpr hlower, isTo, isBelow]

/-! ## Sequences of iterations -/

/-- An iteration comes to its end, for the descriptors that it looks up are installed. -/
theorem iterate_isSome (c : PollContext) (i : Iteration) : ∃ c', c.iterate i = some c' := by
  obtain ⟨c', hafter, -⟩ := c.afterPoll_eq_some i
  exact ⟨i.ops.foldl apply c', by rw [iterate, hafter, Option.map_some]⟩

theorem dispatches_cons (hs : c.iterate i = some c') (is : List Iteration) :
    dispatches c (i :: is) = c.invoked i :: dispatches c' is := by
  rw [dispatches, hs]
  rfl

/-- There is something to tell to the `fdevent` in each iteration. -/
abbrev StaysReady (fde : FdePtr) : PollContext → List Iteration → Prop :=
  Meets iterate fun c i => c.eventsOf i fde ≠ 0

/-- An `fdevent` that stays ready shares the iterations with the lower descriptors. -/
theorem countP_dispatches (is : List Iteration) : ∀ {c : PollContext}, StaysReady fde c is →
    (dispatches c is).countP (isTo fde) + (dispatches c is).countP (isBelow fde.fd) =
      is.length := by
  induction is with
  | nil => exact fun _ => rfl
  | cons i is ih =>
    intro c hready
    obtain ⟨c', hs⟩ := iterate_isSome c i
    obtain ⟨hi, hready⟩ := hready c' hs
    have hrest := ih hready
    rw [dispatches_cons hs, List.countP_cons, List.countP_cons, List.length_cons,
      isTo_eq_not_isBelow hi]
    cases isBelow fde.fd (c.invoked i) with
    | false =>
      simp only [Bool.not_false, if_true, Bool.false_eq_true, if_false]
      omega
    | true =>
      simp only [Bool.not_true, if_true, Bool.false_eq_true, if_false]
      omega

/-- Nothing is told to an `fdevent` while there is something to tell to a lower descriptor. -/
theorem isTo_eq_false (h : c.LowerWaits i fde) : isTo fde (c.invoked i) = false := by
  cases hx : c.invoked i with
  | none => rfl
  | some x =>
    refine decide_eq_false fun hfde => ?_
    exact ((lowestFirst c i c x.fde x.events).mp hx).2.2 (hfde ▸ h)

/-- A lower descriptor that stays ready takes every iteration. -/
theorem starved {p : FdePtr} (hlt : p.fd < fde.fd) (is : List Iteration) : ∀ {c : PollContext},
    StaysReady p c is → (dispatches c is).countP (isTo fde) = 0 := by
  induction is with
  | nil => exact fun _ => rfl
  | cons i is ih =>
    intro c hready
    obtain ⟨c', hs⟩ := iterate_isSome c i
    obtain ⟨hi, hready⟩ := hready c' hs
    rw [dispatches_cons hs, List.countP_cons, ih hready, isTo_eq_false ⟨p, hlt, hi⟩]
    rfl

/-- In every sequence of iterations of the loop: a callback is invoked exactly with what there is to
tell to its `fdevent`, if that is not nothing and there is nothing to tell to a lower descriptor. An
`fdevent` that stays ready is told in every iteration but those in which a lower descriptor is, and
it is never told while a lower descriptor stays ready. -/
theorem lowest_first (c : PollContext) (is : List Iteration) :
    EachStep iterate LowestFirst c is ∧
    (∀ fde, StaysReady fde c is → (dispatches c is).countP (isTo fde) +
      (dispatches c is).countP (isBelow fde.fd) = is.length) ∧
    ∀ p fde, p.fd < fde.fd → StaysReady p c is → (dispatches c is).countP (isTo fde) = 0 :=
  ⟨eachStep_of_forall fun c i c' _ => lowestFirst c i c',
    fun _ hready => countP_dispatches is hready, fun _ _ hlt hready => starved hlt is hready⟩

end PollContext

end AdbMobile
