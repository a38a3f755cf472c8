import AdbMobile.Lib.Prog
import AdbMobile.Lib.Run

/-!
# Programs under a monitor

A monitor reads the events that a program emits, one after the other, and gives up at one that must
not come in the state that it is in. `Drives δ q p Q` says that the monitor `δ`, in the state `q` as
`p` starts, reads all events of any run of `p`, and that the value that the run returns and the
monitor's state after it meet `Q`. A run that ends the process has only been read up to there.

The rules are those of pre- and postconditions, with the monitor's state in the place of the
program's own: a program is taken apart as it is put together (`Drives.bind`), and a part of which
the monitor takes no notice leaves the state (`Drives.quiet`).
-/

namespace Prog

section Def

variable {σ ε χ α φ : Type} (δ : φ → ε → Option φ)

/-- The monitor reads the events of every run, and ends as `Q` says if the run returns. -/
def Drives (q : φ) (p : Prog σ ε χ α) (Q : α → φ → Prop) : Prop :=
  ∀ s, ∃ q', Run.run δ q (p s).trace = some q' ∧ ∀ a, (p s).result = .ok a → Q a q'

/-- The monitor takes no notice of the events. -/
def Unnoticed (q : φ) (t : List ε) : Prop := ∀ e ∈ t, δ q e = some q

end Def

variable {σ ε χ α β φ : Type} {δ : φ → ε → Option φ} {q q' : φ} {p : Prog σ ε χ α}
  {Q Q' : α → φ → Prop}

theorem Unnoticed.run {t : List ε} (h : Unnoticed δ q t) : Run.run δ q t = some q := by
  induction t with
  | nil => rfl
  | cons e t ih =>
    rw [Run.run, h e List.mem_cons_self, Option.bind_some]
    exact ih fun e' he' => h e' (List.mem_cons_of_mem e he')

theorem Drives.mono (h : Drives δ q p Q) (hQ : ∀ a q', Q a q' → Q' a q') : Drives δ q p Q' :=
  fun s => by
    obtain ⟨q', hrun, hvalue⟩ := h s
    exact ⟨q', hrun, fun a ha => hQ a q' (hvalue a ha)⟩

theorem Drives.pure {a : α} (h : Q a q) : Drives δ q (pure a : Prog σ ε χ α) Q := fun _ =>
  ⟨q, rfl, fun a' ha' => by
    cases ha'
    exact h⟩

/-- Nothing is asked of what follows the end of the process. -/
theorem Drives.exit (x : χ) : Drives δ q (Prog.exit x : Prog σ ε χ α) Q := fun _ =>
  ⟨q, rfl, fun _ h => by cases h⟩

/-- One program after another: the monitor goes on from where the first one leaves it. -/
theorem Drives.bind {f : α → Prog σ ε χ β} {R : β → φ → Prop} (hp : Drives δ q p Q)
    (hf : ∀ a q', Q a q' → Drives δ q' (f a) R) : Drives δ q (p >>= f) R := by
  intro s
  obtain ⟨q₁, hrun, hvalue⟩ := hp s
  cases hr : (p s).result with
  | error x =>
    rw [bind_apply_error hr]
    exact ⟨q₁, hrun, fun _ h => by cases h⟩
  | ok a =>
    rw [bind_apply_ok hr]
    obtain ⟨q₂, hrun₂, hvalue₂⟩ := hf a q₁ (hvalue a hr) (p s).state
    exact ⟨q₂, by rw [after_trace, Run.run_append, hrun, Option.bind_some, hrun₂], hvalue₂⟩

theorem Drives.ite {c : Prop} [Decidable c] {p' : Prog σ ε χ α} (hp : c → Drives δ q p Q)
    (hp' : ¬ c → Drives δ q p' Q) : Drives δ q (if c then p else p') Q := by
  split
  · exact hp ‹_›
  · exact hp' ‹_›

theorem Drives.map {g : α → β} {R : β → φ → Prop} (h : Drives δ q p fun a => R (g a)) :
    Drives δ q (g <$> p) R := by
  intro s
  obtain ⟨q', hrun, hvalue⟩ := h s
  rw [map_apply]
  refine ⟨q', hrun, fun b hb => ?_⟩
  cases hr : (p s).result with
  | error x =>
    rw [hr] at hb
    cases hb
  | ok a =>
    rw [hr] at hb
    cases hb
    exact hvalue a hr

/-- A program of which the monitor takes no notice. -/
theorem Drives.quiet (hp : ∀ s, Unnoticed δ q (p s).trace) : Drives δ q p fun _ q' => q' = q :=
  fun s => ⟨q, (hp s).run, fun _ _ => rfl⟩

/-- What a program does for the monitor may be seen together with what it returns. -/
theorem Drives.and {M : α → Prop} (h : Drives δ q p Q) (hM : Yields p M) :
    Drives δ q p fun a q' => Q a q' ∧ M a := fun s => by
  obtain ⟨q', hrun, hvalue⟩ := h s
  exact ⟨q', hrun, fun a ha => ⟨hvalue a ha, hM s a ha⟩⟩

/-- Each element leaves the monitor in the state that it was in, if it succeeds, or in any case
where `U` holds: then so do all of them, up to the first that fails. -/
theorem Drives.allM {f : α → Prog σ ε χ Bool} {U : Prop} {as : List α}
    (hf : ∀ a ∈ as, Drives δ q (f a) fun ok q' => ok = true ∨ U → q' = q) :
    Drives δ q (allM f as) fun ok q' => ok = true ∨ U → q' = q := by
  induction as with
  | nil => exact .pure fun _ => rfl
  | cons a as ih =>
    refine .bind (hf a List.mem_cons_self) fun ok q' hq' => ?_
    cases ok with
    | false => exact .pure hq'
    | true =>
      obtain rfl : q' = q := hq' (.inl rfl)
      exact ih fun b hb => hf b (List.mem_cons_of_mem a hb)

end Prog
