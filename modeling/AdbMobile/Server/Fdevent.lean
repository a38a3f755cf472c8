import Mathlib.Data.List.Basic

/-!
# The event context

An `fdevent_context` owns the descriptors that the loop polls. There is one ambient context at a
time, and `fdevent_reset` replaces it: the old one is deleted with every `fdevent` installed in it,
and its descriptors are closed. An `fdevent*` is an `FdeRef`, the context that created it and its id
there, so a reference into a deleted context is one to another generation.
-/

namespace AdbMobile

/-- `FDE_READ`. -/
def fdeRead : UInt16 := 1

/-- `fdevent`, less its callback. -/
structure Fdevent where
  id : ℕ
  fd : ℕ
  state : UInt16
  deriving DecidableEq, Repr

/-- An `fdevent*`. -/
structure FdeRef where
  /-- The generation of the context that it points into. -/
  context : ℕ
  id : ℕ
  deriving DecidableEq, Repr

/-- `fdevent_context`: what is installed has an id that was handed out. -/
structure FdContext where
  /-- How many contexts were ambient before this one. -/
  generation : ℕ
  /-- `fdevent_id_`. -/
  nextId : ℕ
  /-- `installed_fdevents_`. -/
  installed : List Fdevent
  lt_nextId : ∀ e ∈ installed, e.id < nextId

namespace FdContext

/-- `fdevent_create_context`: a context with nothing installed but its own interrupt descriptor. -/
def create (generation : ℕ) : FdContext := ⟨generation, 0, [], by simp⟩

/-- `Create`: installs a descriptor that is not installed yet. -/
def install (c : FdContext) (fd : ℕ) : FdContext × FdeRef :=
  ({ c with
      nextId := c.nextId + 1
      installed := c.installed ++ [⟨c.nextId, fd, 0⟩]
      lt_nextId := by
        simp only [List.mem_append, List.mem_singleton]
        rintro e (he | rfl)
        · exact Nat.lt_succ_of_lt (c.lt_nextId e he)
        · exact Nat.lt_succ_self _ },
    ⟨c.generation, c.nextId⟩)

/-- `Destroy`: closes the descriptor. A reference into another context reads freed memory in the
source; here it changes nothing. -/
def destroy (c : FdContext) (fde : FdeRef) : FdContext :=
  if fde.context = c.generation then
    { c with
      installed := c.installed.filter (·.id ≠ fde.id)
      lt_nextId := fun e he => c.lt_nextId e (List.mem_of_mem_filter he) }
  else c

/-- `Set`. -/
def set (c : FdContext) (fde : FdeRef) (events : UInt16) : FdContext :=
  if fde.context = c.generation then
    { c with
      installed := c.installed.map fun e => if e.id = fde.id then { e with state := events } else e
      lt_nextId := by
        simp only [List.mem_map]
        rintro e ⟨e', he', rfl⟩
        split
        · exact c.lt_nextId e' he'
        · exact c.lt_nextId e' he' }
  else c

/-- `fdevent_reset`: the next ambient context. -/
def reset (c : FdContext) : FdContext := create (c.generation + 1)

/-- `fde` is installed in `c` and owns the descriptor `fd`. -/
def Owns (c : FdContext) (fde : FdeRef) (fd : ℕ) : Prop :=
  fde.context = c.generation ∧ ∃ e ∈ c.installed, e.id = fde.id ∧ e.fd = fd

instance (c : FdContext) (fde : FdeRef) (fd : ℕ) : Decidable (c.Owns fde fd) :=
  inferInstanceAs (Decidable (_ ∧ _))

@[simp] theorem install_generation (c : FdContext) (fd : ℕ) :
    (c.install fd).1.generation = c.generation := rfl

@[simp] theorem destroy_generation (c : FdContext) (fde : FdeRef) :
    (c.destroy fde).generation = c.generation := by
  rw [destroy]
  split <;> rfl

/-- A new event owns its descriptor. -/
theorem install_owns (c : FdContext) (fd : ℕ) : (c.install fd).1.Owns (c.install fd).2 fd :=
  ⟨rfl, ⟨c.nextId, fd, 0⟩, by simp [install], rfl, rfl⟩

/-- The events that are installed stay so when another is created. -/
theorem Owns.install {c : FdContext} {fde : FdeRef} {fd : ℕ} (h : c.Owns fde fd) (fd' : ℕ) :
    (c.install fd').1.Owns fde fd := by
  obtain ⟨hc, e, he, hid⟩ := h
  exact ⟨hc, e, List.mem_append_left _ he, hid⟩

/-- A new event is none of those that are installed. -/
theorem Owns.ne_install {c : FdContext} {fde : FdeRef} {fd : ℕ} (h : c.Owns fde fd) (fd' : ℕ) :
    fde ≠ (c.install fd').2 := by
  obtain ⟨-, e, he, hid, -⟩ := h
  intro heq
  have hlt := c.lt_nextId e he
  rw [hid, heq] at hlt
  exact Nat.lt_irrefl _ hlt

/-- Destroying an event leaves the others installed. -/
theorem Owns.destroy {c : FdContext} {fde fde' : FdeRef} {fd : ℕ} (h : c.Owns fde fd)
    (hne : fde ≠ fde') : (c.destroy fde').Owns fde fd := by
  obtain ⟨hc, e, he, hid, hfd⟩ := h
  rw [FdContext.destroy]
  split
  · rename_i hgen
    refine ⟨hc, e, List.mem_filter.mpr ⟨he, ?_⟩, hid, hfd⟩
    have hid' : e.id ≠ fde'.id := by
      intro heq
      apply hne
      obtain ⟨_, _⟩ := fde
      obtain ⟨_, _⟩ := fde'
      simp_all
    simpa using hid'
  · exact ⟨hc, e, he, hid, hfd⟩

/-- Changing what an event waits for leaves every event installed. -/
theorem Owns.set {c : FdContext} {fde : FdeRef} {fd : ℕ} (h : c.Owns fde fd) (fde' : FdeRef)
    (events : UInt16) : (c.set fde' events).Owns fde fd := by
  obtain ⟨hc, e, he, hid, hfd⟩ := h
  rw [FdContext.set]
  split
  · refine ⟨hc, _, List.mem_map_of_mem he, ?_⟩
    split
    · exact ⟨hid, hfd⟩
    · exact ⟨hid, hfd⟩
  · exact ⟨hc, e, he, hid, hfd⟩

/-- No event of another generation is installed. -/
theorem not_owns_of_generation {c : FdContext} {fde : FdeRef} (h : fde.context ≠ c.generation)
    (fd : ℕ) : ¬ c.Owns fde fd := fun howns => h howns.1

end FdContext

end AdbMobile
