import Mathlib.Data.List.AList
import Mathlib.Data.List.Sort
import AdbMobile.Server.Fdevent

/-!
# An iteration of the loop

`fdevent_context_poll::Loop` collects the descriptors of `installed_fdevents_`, polls them, looks
each up again to see what has happened to it, and hands the events to `HandleEvents`, which invokes
the callback of the first whose `fdevent` is still installed (`fdevent_poll.cpp`, `fdevent.cpp`).

The functions here are the parts of an iteration, on the fields that it reads and writes. What
`poll` reports and what the clock shows is given to them. Times are in nanoseconds, timeouts in
milliseconds. An `fdevent*` is an `FdePtr`, the descriptor that it is installed under and its id.
-/

namespace AdbMobile

/-- `FDE_WRITE`. -/
def fdeWrite : UInt16 := 2

/-- `FDE_ERROR`. -/
def fdeError : UInt16 := 4

/-- `FDE_TIMEOUT`. -/
def fdeTimeout : UInt16 := 8

/-- `POLLIN`. -/
def pollIn : UInt16 := 0x1

/-- `POLLOUT`. -/
def pollOut : UInt16 := 0x4

/-- `POLLERR`. -/
def pollErr : UInt16 := 0x8

/-- `POLLHUP`. -/
def pollHup : UInt16 := 0x10

/-- `POLLNVAL`. -/
def pollNval : UInt16 := 0x20

/-- `fdevent`, less its descriptor and its callback. -/
structure PollFdevent where
  id : ℕ
  state : UInt16
  timeout : Option ℤ
  lastActive : ℤ
  deriving DecidableEq, Repr

/-- An `fdevent*`. -/
structure FdePtr where
  fd : ℕ
  id : ℕ
  deriving DecidableEq, Repr

/-- `fdevent_context_poll`: what is installed has an id that was handed out. -/
structure PollContext where
  /-- `fdevent_id_`. -/
  nextId : ℕ
  /-- `installed_fdevents_`. -/
  installed : AList fun _ : ℕ => PollFdevent
  lt_nextId : ∀ fd, ∀ e ∈ installed.lookup fd, e.id < nextId

/-- An element of `pollfds`. -/
structure PollFd where
  /-- The descriptor, and the `fdevent` for which it was collected. -/
  fde : FdePtr
  events : UInt16
  deriving DecidableEq, Repr

/-- `fdevent_event`. -/
structure FdeventEvent where
  fde : FdePtr
  events : UInt16
  deriving DecidableEq, Repr

/-- What a callback, or a function on the looper, does to the context. -/
inductive ContextOp
  | create (fd : ℕ)
  | destroy (fde : FdePtr)
  | set (fde : FdePtr) (events : UInt16)
  | setTimeout (fde : FdePtr) (timeout : Option ℤ) (now : ℤ)
  deriving DecidableEq, Repr

/-- When the timeout of an `fdevent` ends. -/
def PollFdevent.deadline (e : PollFdevent) : Option ℤ :=
  e.timeout.map fun timeout => e.lastActive + timeout * 1000000

/-- The events that `Loop` asks `poll` for. -/
def PollFdevent.requested (e : PollFdevent) : UInt16 :=
  (if e.state &&& fdeRead ≠ 0 then pollIn else 0) |||
    (if e.state &&& fdeWrite ≠ 0 then pollOut else 0) |||
    (if e.state &&& fdeError ≠ 0 then pollErr else 0)

/-- The events that `poll` reports. An error is faked as a read. -/
def readyEvents (revents : UInt16) : UInt16 :=
  (if revents &&& pollIn ≠ 0 then fdeRead else 0) |||
    (if revents &&& pollOut ≠ 0 then fdeWrite else 0) |||
    (if revents &&& (pollErr ||| pollHup ||| pollNval) ≠ 0 then fdeRead ||| fdeError else 0)

/-- The timeout has expired. -/
def PollFdevent.expired (e : PollFdevent) (postPoll : ℤ) : Bool :=
  e.deadline.any fun deadline => deadline < postPoll

/-- The events of an `fdevent` after `poll`: a timeout counts where nothing else has happened. -/
def PollFdevent.eventsAfter (e : PollFdevent) (revents : UInt16) (postPoll : ℤ) : UInt16 :=
  if readyEvents revents = 0 then if e.expired postPoll then fdeTimeout else 0
  else readyEvents revents

namespace PollContext

/-- The `fdevent` that a pointer points to, unless it was destroyed. -/
def find? (c : PollContext) (fde : FdePtr) : Option PollFdevent :=
  (c.installed.lookup fde.fd).filter fun e => e.id = fde.id

/-- A pointer points to what is installed under its descriptor, if the id is the same. -/
theorem find?_eq_some_iff {c : PollContext} {fde : FdePtr} {e : PollFdevent} :
    c.find? fde = some e ↔ c.installed.lookup fde.fd = some e ∧ e.id = fde.id := by
  simp [find?]

/-- Changes the `fdevent` that a pointer points to. -/
def modify (c : PollContext) (fde : FdePtr) (f : PollFdevent → PollFdevent)
    (hf : ∀ e, (f e).id = e.id) : PollContext where
  nextId := c.nextId
  installed := ((c.find? fde).map fun e => c.installed.insert fde.fd (f e)).getD c.installed
  lt_nextId := by
    intro fd e he
    cases hfind : c.find? fde with
    | none =>
      rw [hfind] at he
      exact c.lt_nextId fd e he
    | some a =>
      rw [hfind] at he
      have ha : a ∈ c.installed.lookup fde.fd := (find?_eq_some_iff.mp hfind).1
      by_cases hfd : fd = fde.fd
      · subst hfd
        rw [Option.map_some, Option.getD_some, AList.lookup_insert] at he
        cases he
        rw [hf]
        exact c.lt_nextId _ a ha
      · rw [Option.map_some, Option.getD_some, AList.lookup_insert_ne hfd] at he
        exact c.lt_nextId fd e he

/-- `Create`. A descriptor that is installed is open, so the one that it is given is not. The `CHECK`
of this would only log, and the source go on with what is there; here nothing would change. -/
def create (c : PollContext) (fd : ℕ) : PollContext :=
  if fd ∈ c.installed then c
  else
    { nextId := c.nextId + 1
      installed := c.installed.insert fd ⟨c.nextId, 0, none, 0⟩
      lt_nextId := by
        intro fd' e he
        by_cases hfd : fd' = fd
        · subst hfd
          rw [AList.lookup_insert] at he
          cases he
          exact Nat.lt_succ_self _
        · rw [AList.lookup_insert_ne hfd] at he
          exact Nat.lt_succ_of_lt (c.lt_nextId fd' e he) }

/-- `Destroy`. A pointer to an `fdevent` that is gone reads freed memory in the source; here it
changes nothing. -/
def destroy (c : PollContext) (fde : FdePtr) : PollContext where
  nextId := c.nextId
  installed := if (c.find? fde).isSome then c.installed.erase fde.fd else c.installed
  lt_nextId := by
    intro fd e he
    split at he
    · by_cases hfd : fd = fde.fd
      · subst hfd
        rw [AList.lookup_erase] at he
        cases he
      · rw [AList.lookup_erase_ne hfd] at he
        exact c.lt_nextId fd e he
    · exact c.lt_nextId fd e he

/-- What an operation does to the context. -/
def apply (c : PollContext) : ContextOp → PollContext
  | .create fd => c.create fd
  | .destroy fde => c.destroy fde
  | .set fde events => c.modify fde (fun e => { e with state := events }) fun _ => rfl
  | .setTimeout fde timeout now =>
    c.modify fde (fun e => { e with timeout := timeout, lastActive := now }) fun _ => rfl

/-- The descriptors, in the order of the map. -/
def descriptors (c : PollContext) : List ℕ := c.installed.keys.insertionSort (· ≤ ·)

/-- The `pollfds` that `Loop` collects. -/
def pollfds (c : PollContext) : List PollFd :=
  c.descriptors.filterMap fun fd =>
    (c.installed.lookup fd).map fun e => ⟨⟨fd, e.id⟩, e.requested⟩

/-- `CalculatePollDuration`: how long to sleep, in milliseconds, so that no timeout is missed. -/
def calculatePollDuration (c : PollContext) (now : ℤ) : Option ℤ :=
  (c.descriptors.filterMap fun fd => (c.installed.lookup fd).bind fun e =>
    e.deadline.map fun deadline => max 0 ((deadline - now).tdiv 1000000)).min?

/-- What `Loop` does with one of the `pollfds` after `poll`. A descriptor that is not installed is
`none`: its iterator is the end of the map, which is dereferenced. -/
def lookUp (revents : ℕ → UInt16) (postPoll : ℤ) (c : PollContext) (events : List FdeventEvent)
    (p : PollFd) : Option (PollContext × List FdeventEvent) :=
  (c.installed.lookup p.fde.fd).map fun e =>
    let happened := e.eventsAfter (revents p.fde.fd) postPoll
    if happened = 0 then (c, events)
    else
      (c.modify ⟨p.fde.fd, e.id⟩ (fun e => { e with lastActive := postPoll }) fun _ => rfl,
        events ++ [⟨⟨p.fde.fd, e.id⟩, happened⟩])

/-- What it does with all of them. -/
def lookUps (revents : ℕ → UInt16) (postPoll : ℤ) :
    List PollFd → PollContext → List FdeventEvent → Option (PollContext × List FdeventEvent)
  | [], c, events => some (c, events)
  | p :: ps, c, events =>
    (lookUp revents postPoll c events p).bind fun r => lookUps revents postPoll ps r.1 r.2

/-- The event whose callback `HandleEvents` invokes: the first one that is still installed. -/
def firstInstalled (c : PollContext) (events : List FdeventEvent) : Option FdeventEvent :=
  events.find? fun e => (c.find? e.fde).isSome

/-! ## What the operations do -/

/-- Changing one `fdevent` leaves the others. -/
theorem lookup_modify (c : PollContext) (fde : FdePtr) {f : PollFdevent → PollFdevent}
    (hf : ∀ e, (f e).id = e.id) (fd : ℕ) : (c.modify fde f hf).installed.lookup fd =
      (c.installed.lookup fd).map fun e => if fd = fde.fd ∧ e.id = fde.id then f e else e := by
  cases hfind : c.find? fde with
  | none =>
    have hsame : ∀ e ∈ c.installed.lookup fd, ¬ (fd = fde.fd ∧ e.id = fde.id) := by
      rintro e he ⟨rfl, hid⟩
      rw [find?_eq_some_iff.mpr ⟨he, hid⟩] at hfind
      cases hfind
    simp only [modify, hfind, Option.map_none, Option.getD_none]
    cases hlook : c.installed.lookup fd with
    | none => rfl
    | some e => rw [Option.map_some, if_neg (hsame e hlook)]
  | some a =>
    obtain ⟨hlook, hid⟩ := find?_eq_some_iff.mp hfind
    simp only [modify, hfind, Option.map_some, Option.getD_some]
    by_cases hfd : fd = fde.fd
    · subst hfd
      rw [AList.lookup_insert, hlook, Option.map_some, if_pos ⟨rfl, hid⟩]
    · rw [AList.lookup_insert_ne hfd]
      cases c.installed.lookup fd with
      | none => rfl
      | some e => rw [Option.map_some, if_neg fun h => hfd h.1]

/-- As seen through pointers. -/
theorem find?_modify (c : PollContext) (fde : FdePtr) {f : PollFdevent → PollFdevent}
    (hf : ∀ e, (f e).id = e.id) (q : FdePtr) : (c.modify fde f hf).find? q =
      (c.find? q).map fun e => if q = fde then f e else e := by
  rw [find?, find?, lookup_modify]
  cases c.installed.lookup q.fd with
  | none => rfl
  | some e =>
    have hid : (if q.fd = fde.fd ∧ e.id = fde.id then f e else e).id = e.id := by
      split
      · exact hf e
      · rfl
    by_cases hq : e.id = q.id
    · obtain ⟨fd, id⟩ := q
      obtain ⟨fd', id'⟩ := fde
      subst hq
      simp [Option.filter, hid]
    · simp [Option.filter, hid, hq]

/-- A new `fdevent` is none of those that were installed or destroyed before. -/
theorem find?_create (c : PollContext) (fd : ℕ) {fde : FdePtr} (hid : fde.id < c.nextId) :
    (c.create fd).find? fde = c.find? fde := by
  unfold create
  split
  · rfl
  · rename_i hfd
    by_cases hsame : fde.fd = fd
    · subst hsame
      have hne : c.nextId ≠ fde.id := by omega
      simp [find?, AList.lookup_insert, AList.lookup_eq_none.mpr hfd, Option.filter, hne]
    · simp [find?, AList.lookup_insert_ne hsame]

/-- Destroying an `fdevent` leaves the others. -/
theorem find?_destroy (c : PollContext) (fde q : FdePtr) :
    (c.destroy fde).find? q = if q = fde then none else c.find? q := by
  unfold destroy find?
  dsimp only
  split
  · rename_i hsome
    obtain ⟨e, he⟩ := Option.isSome_iff_exists.mp hsome
    obtain ⟨hlook, hid⟩ := find?_eq_some_iff.mp he
    by_cases hfd : q.fd = fde.fd
    · rw [hfd, AList.lookup_erase, hlook]
      split
      · rfl
      · rename_i hne
        have hqid : e.id ≠ q.id := by
          intro heq
          obtain ⟨_, _⟩ := q
          obtain ⟨_, _⟩ := fde
          simp_all
        simp [Option.filter, hqid]
    · rw [AList.lookup_erase_ne hfd, if_neg]
      rintro rfl
      exact hfd rfl
  · rename_i hnone
    split
    · rename_i heq
      subst heq
      exact Option.not_isSome_iff_eq_none.mp hnone
    · rfl

/-- The collected descriptors are those that are installed, each for its `fdevent`. -/
theorem mem_pollfds_iff {c : PollContext} {p : PollFd} :
    p ∈ c.pollfds ↔ ∃ e, c.find? p.fde = some e ∧ p.events = e.requested := by
  simp only [pollfds, descriptors, List.mem_filterMap, List.mem_insertionSort,
    Option.map_eq_some_iff]
  constructor
  · rintro ⟨fd, -, e, he, rfl⟩
    exact ⟨e, find?_eq_some_iff.mpr ⟨he, rfl⟩, rfl⟩
  · rintro ⟨e, he, hevents⟩
    obtain ⟨hlook, hid⟩ := find?_eq_some_iff.mp he
    have hkey : p.fde.fd ∈ c.installed.keys := AList.mem_keys.mpr
      (AList.lookup_isSome.mp (by rw [hlook]; rfl))
    refine ⟨p.fde.fd, hkey, e, hlook, ?_⟩
    obtain ⟨⟨fd, id⟩, events⟩ := p
    simp_all

/-- They are collected in ascending order. -/
theorem pollfds_sorted (c : PollContext) :
    c.pollfds.Pairwise fun p q => p.fde.fd < q.fde.fd := by
  have hdescriptors : c.descriptors.Pairwise (· < ·) := by
    have hle : c.descriptors.Pairwise (· ≤ ·) := List.pairwise_insertionSort _ _
    have hne : c.descriptors.Pairwise (· ≠ ·) :=
      (List.perm_insertionSort _ _).nodup_iff.mpr c.installed.keys_nodup
    exact (hle.and hne).imp fun h => lt_of_le_of_ne h.1 h.2
  refine List.pairwise_filterMap.mpr (hdescriptors.imp fun hlt p hp q hq => ?_)
  obtain ⟨-, -, rfl⟩ := Option.map_eq_some_iff.mp hp
  obtain ⟨-, -, rfl⟩ := Option.map_eq_some_iff.mp hq
  exact hlt

/-- The event of a collected descriptor, if something has happened to it. -/
def eventOf (c : PollContext) (revents : ℕ → UInt16) (postPoll : ℤ) (p : PollFd) :
    Option FdeventEvent :=
  (c.find? p.fde).bind fun e =>
    let happened := e.eventsAfter (revents p.fde.fd) postPoll
    if happened = 0 then none else some ⟨p.fde, happened⟩

/-- One look-up of a descriptor that is still installed: what has happened to it is noted, and the
time that it happened. -/
theorem lookUp_eq_some {c : PollContext} (revents : ℕ → UInt16) (postPoll : ℤ)
    (events : List FdeventEvent) {p : PollFd} {e : PollFdevent} (he : c.find? p.fde = some e) :
    ∃ c', lookUp revents postPoll c events p =
        some (c', events ++ (c.eventOf revents postPoll p).toList) ∧
      ∀ fd, c'.installed.lookup fd = (c.installed.lookup fd).map fun a =>
        if fd = p.fde.fd ∧ a.eventsAfter (revents fd) postPoll ≠ 0 then
          { a with lastActive := postPoll }
        else a := by
  obtain ⟨hlook, hid⟩ := find?_eq_some_iff.mp he
  have hptr : (⟨p.fde.fd, e.id⟩ : FdePtr) = p.fde := by rw [hid]
  rw [lookUp, hlook, Option.map_some, eventOf, he, Option.bind_some]
  by_cases hhappened : e.eventsAfter (revents p.fde.fd) postPoll = 0
  · refine ⟨c, by simp [hhappened], fun fd => ?_⟩
    cases hfd : c.installed.lookup fd with
    | none => rfl
    | some a =>
      rw [Option.map_some, if_neg]
      rintro ⟨rfl, ha⟩
      rw [hlook] at hfd
      cases hfd
      exact ha hhappened
  · -- Only the descriptor that was looked up is changed.
    refine ⟨_, by simp only [hhappened, if_false, hptr]; rfl, fun fd => ?_⟩
    rw [lookup_modify]
    cases hfd : c.installed.lookup fd with
    | none => rfl
    | some a =>
      by_cases hsame : fd = p.fde.fd
      · subst hsame
        rw [hlook] at hfd
        cases hfd
        simp [hid, hhappened]
      · simp [hsame]

/-- The look-ups of descriptors that are all still installed: the events are those of the
descriptors in their order, and each that has one has the time. -/
theorem lookUps_eq_some (revents : ℕ → UInt16) (postPoll : ℤ) :
    ∀ {ps : List PollFd} {c : PollContext} (events : List FdeventEvent),
      ps.Pairwise (fun p q => p.fde.fd < q.fde.fd) → (∀ p ∈ ps, (c.find? p.fde).isSome) →
      ∃ c', lookUps revents postPoll ps c events =
          some (c', events ++ ps.filterMap (c.eventOf revents postPoll)) ∧
        ∀ fd, c'.installed.lookup fd = (c.installed.lookup fd).map fun a =>
          if fd ∈ ps.map (fun p => p.fde.fd) ∧ a.eventsAfter (revents fd) postPoll ≠ 0 then
            { a with lastActive := postPoll }
          else a := by
  intro ps
  induction ps with
  | nil =>
    intro c events _ _
    refine ⟨c, by simp [lookUps], fun fd => ?_⟩
    cases c.installed.lookup fd <;> simp
  | cons p ps ih =>
    intro c events hsorted hinstalled
    obtain ⟨hlt, hsorted⟩ := List.pairwise_cons.mp hsorted
    obtain ⟨e, he⟩ := Option.isSome_iff_exists.mp (hinstalled p List.mem_cons_self)
    obtain ⟨c₁, hone, hlook₁⟩ :=
      lookUp_eq_some revents postPoll events he
    -- The descriptors that follow are others, so nothing of them has changed.
    have hsame : ∀ q ∈ ps, c₁.find? q.fde = c.find? q.fde := by
      intro q hq
      have hne : q.fde.fd ≠ p.fde.fd := (hlt q hq).ne'
      rw [find?, find?, hlook₁]
      cases c.installed.lookup q.fde.fd with
      | none => rfl
      | some a => rw [Option.map_some, if_neg fun h => hne h.1]
    obtain ⟨c', hrest, hlook'⟩ := ih (c := c₁)
      (events ++ (c.eventOf revents postPoll p).toList) hsorted fun q hq => by
        rw [hsame q hq]
        exact hinstalled q (List.mem_cons_of_mem p hq)
    have hevents : ps.filterMap (c₁.eventOf revents postPoll) =
        ps.filterMap (c.eventOf revents postPoll) :=
      List.filterMap_congr fun q hq => by rw [eventOf, eventOf, hsame q hq]
    refine ⟨c', ?_, fun fd => ?_⟩
    · rw [lookUps, hone, Option.bind_some, hrest, hevents, List.append_assoc]
      cases heq : c.eventOf revents postPoll p with
      | none => rw [List.filterMap_cons_none heq]; rfl
      | some x => rw [List.filterMap_cons_some heq]; rfl
    · rw [hlook', hlook₁]
      cases c.installed.lookup fd with
      | none => rfl
      | some a =>
        simp only [Option.map_some, List.map_cons, List.mem_cons, Option.some.injEq]
        by_cases hfd : fd = p.fde.fd
        · have hnot : fd ∉ ps.map fun p => p.fde.fd := by
            intro hmem
            obtain ⟨q, hq, hqfd⟩ := List.mem_map.mp hmem
            have := hlt q hq
            omega
          rw [if_neg (c := _ ∧ _) fun h => hnot h.1]
          simp [hfd]
        · rw [if_neg (c := fd = _ ∧ _) fun h => hfd h.1]
          simp [hfd]

end PollContext

end AdbMobile
