import Mathlib.Data.Nat.Notation
import Mathlib.Data.Option.Basic

/-!
# Runs of a machine

A machine is a partial step function: `step s a` is the state after the action `a`, and `none`
where `a` is not enabled in `s`. What the environment chooses (the outcome of a call, the thread
that moves next) is part of the action, so a run from a state is a list of actions.

Two properties of a run are enough for the invariants of this development. `Throughout P` says
that `P` holds in every state that the run visits, and `EachStep Q` that every step it takes meets
`Q`, a relation between the state before, the action, and the state after. `Meets G` is `EachStep`
for a condition `G` on the state before the step and the action alone, and `throughout_of_meets`
is the induction rule: an invariant that every step meeting `G` preserves holds throughout every
run whose steps meet `G`. When a step that misses `G` breaks the invariant's consequence `P` at
once, `G` is the exact condition, and `throughout_iff_meets` gives the equivalence.
-/

namespace Run

section Def

variable {σ α : Type*} (step : σ → α → Option σ)

/-- The state after the actions of a list, when each is enabled in its turn. -/
def run : σ → List α → Option σ
  | s, [] => some s
  | s, a :: as => (step s a).bind fun s' => run s' as

/-- `P` holds in every state that the run visits, up to its first action that is not enabled. -/
def Throughout (P : σ → Prop) : σ → List α → Prop
  | s, [] => P s
  | s, a :: as => P s ∧ ∀ s' ∈ step s a, Throughout P s' as

/-- Every step that the run takes meets `Q`. -/
def EachStep (Q : σ → α → σ → Prop) : σ → List α → Prop
  | _, [] => True
  | s, a :: as => ∀ s' ∈ step s a, Q s a s' ∧ EachStep Q s' as

/-- Every step that the run takes meets the condition `G` on the state before it. -/
abbrev Meets (G : σ → α → Prop) : σ → List α → Prop := EachStep step fun s a _ => G s a

instance Throughout.decidable {P : σ → Prop} [DecidablePred P] :
    ∀ s as, Decidable (Throughout step P s as)
  | s, [] => inferInstanceAs (Decidable (P s))
  | s, a :: as =>
    have : DecidablePred fun s' => Throughout step P s' as := fun s' => decidable s' as
    inferInstanceAs (Decidable (P s ∧ ∀ s' ∈ step s a, Throughout step P s' as))

instance EachStep.decidable {Q : σ → α → σ → Prop} [∀ s a s', Decidable (Q s a s')] :
    ∀ s as, Decidable (EachStep step Q s as)
  | _, [] => inferInstanceAs (Decidable True)
  | s, a :: as =>
    have : DecidablePred fun s' => EachStep step Q s' as := fun s' => decidable s' as
    inferInstanceAs (Decidable (∀ s' ∈ step s a, Q s a s' ∧ EachStep step Q s' as))

end Def

variable {σ α : Type*} {step : σ → α → Option σ} {P I : σ → Prop} {G : σ → α → Prop}
  {Q : σ → α → σ → Prop}

/-- What holds throughout a run holds in its first state. -/
theorem Throughout.head {s : σ} {as : List α} (h : Throughout step P s as) : P s := by
  cases as with
  | nil => exact h
  | cons a as => exact h.1

/-- What holds throughout a run holds in the state it ends in. -/
theorem Throughout.last {as : List α} :
    ∀ {s s' : σ}, Throughout step P s as → run step s as = some s' → P s' := by
  induction as with
  | nil =>
    intro s s' h hr
    cases hr
    exact h
  | cons a as ih =>
    intro s s' h hr
    obtain ⟨s₁, h₁, hr⟩ := Option.bind_eq_some_iff.mp hr
    exact ih (h.2 s₁ h₁) hr

/-- A property that follows from another state by state follows throughout. -/
theorem Throughout.mono (hIP : ∀ s, I s → P s) {as : List α} :
    ∀ {s : σ}, Throughout step I s as → Throughout step P s as := by
  induction as with
  | nil => exact fun h => hIP _ h
  | cons a as ih => exact fun h => ⟨hIP _ h.1, fun s' hs' => ih (h.2 s' hs')⟩

/-- The induction rule: an invariant that every step meeting `G` preserves holds throughout a run
whose steps meet `G`. -/
theorem throughout_of_meets (hstep : ∀ s a s', I s → G s a → step s a = some s' → I s')
    {as : List α} : ∀ {s : σ}, I s → Meets step G s as → Throughout step I s as := by
  induction as with
  | nil => exact fun hI _ => hI
  | cons a as ih =>
    intro s hI hG
    refine ⟨hI, fun s' hs' => ?_⟩
    obtain ⟨hg, hG⟩ := hG s' hs'
    exact ih (hstep s a s' hI hg hs') hG

/-- A condition that the actions of a list meet in every state. -/
theorem meets_of_forall {as : List α} (h : ∀ a ∈ as, ∀ s, G s a) :
    ∀ {s : σ}, Meets step G s as := by
  induction as with
  | nil => exact trivial
  | cons a as ih =>
    exact fun s' _ => ⟨h a (List.mem_cons_self ..) _,
      ih fun b hb => h b (List.mem_cons_of_mem a hb)⟩

/-- A condition on the actions alone, where every action is enabled. -/
theorem meets_iff_forall {H : α → Prop} (htotal : ∀ s a, ∃ s', step s a = some s') {as : List α} :
    ∀ {s : σ}, Meets step (fun _ a => H a) s as ↔ ∀ a ∈ as, H a := by
  induction as with
  | nil => exact ⟨fun _ _ h => absurd h List.not_mem_nil, fun _ => trivial⟩
  | cons a as ih =>
    intro s
    obtain ⟨s', hs'⟩ := htotal s a
    refine ⟨fun h => ?_, fun h => meets_of_forall fun b hb _ => h b hb⟩
    obtain ⟨ha, has⟩ := h s' hs'
    exact List.forall_mem_cons.mpr ⟨ha, ih.mp has⟩

/-- Steps that meet two conditions meet both. -/
theorem Meets.and {G' : σ → α → Prop} {as : List α} : ∀ {s : σ}, Meets step G s as →
    Meets step G' s as → Meets step (fun s a => G s a ∧ G' s a) s as := by
  induction as with
  | nil => exact fun _ _ => trivial
  | cons a as ih =>
    exact fun h h' s' hs' => ⟨⟨(h s' hs').1, (h' s' hs').1⟩, ih (h s' hs').2 (h' s' hs').2⟩

/-- What every step that meets `G` from a state of the invariant meets, every step of such a run
meets. -/
theorem eachStep_of_meets (hstep : ∀ s a s', I s → G s a → step s a = some s' → I s' ∧ Q s a s')
    {as : List α} : ∀ {s : σ}, I s → Meets step G s as → EachStep step Q s as := by
  induction as with
  | nil => exact fun _ _ => trivial
  | cons a as ih =>
    intro s hI hG s' hs'
    obtain ⟨hg, hG⟩ := hG s' hs'
    obtain ⟨hI', hq⟩ := hstep s a s' hI hg hs'
    exact ⟨hq, ih hI' hG⟩

/-- What every step of the machine meets, every step of a run meets. -/
theorem eachStep_of_forall (hQ : ∀ s a s', step s a = some s' → Q s a s') {as : List α} :
    ∀ {s : σ}, EachStep step Q s as := by
  induction as with
  | nil => exact trivial
  | cons a as ih => exact fun s' hs' => ⟨hQ _ a s' hs', ih⟩

/-- A condition that follows from another step by step follows on every run. -/
theorem Meets.mono {G' : σ → α → Prop} (h : ∀ s a, G' s a → G s a) {as : List α} :
    ∀ {s : σ}, Meets step G' s as → Meets step G s as := by
  induction as with
  | nil => exact fun _ => trivial
  | cons a as ih => exact fun hG s' hs' => ⟨h _ a (hG s' hs').1, ih (hG s' hs').2⟩

/-- Two properties that agree on every step agree on every run. -/
theorem eachStep_congr {Q' : σ → α → σ → Prop}
    (h : ∀ s a s', step s a = some s' → (Q s a s' ↔ Q' s a s')) {as : List α} :
    ∀ {s : σ}, EachStep step Q s as ↔ EachStep step Q' s as := by
  induction as with
  | nil => exact Iff.rfl
  | cons a as ih =>
    intro s
    exact forall₂_congr fun s' hs' => and_congr (h s a s' hs') ih

/-- The exact condition: when every step that misses `G` from a state of the invariant breaks what
is asked of the step and of the state it reaches, a run has both throughout exactly when its steps
meet `G`. -/
theorem throughout_and_eachStep_iff_meets (hIP : ∀ s, I s → P s)
    (hstep : ∀ s a s', I s → G s a → step s a = some s' → I s' ∧ Q s a s')
    (hbreak : ∀ s a s', I s → ¬ G s a → step s a = some s' → ¬ (P s' ∧ Q s a s'))
    {as : List α} : ∀ {s : σ}, I s →
      ((Throughout step P s as ∧ EachStep step Q s as) ↔ Meets step G s as) := by
  induction as with
  | nil => exact fun hI => ⟨fun _ => trivial, fun _ => ⟨hIP _ hI, trivial⟩⟩
  | cons a as ih =>
    intro s hI
    constructor
    · rintro ⟨hP, hQ⟩ s' hs'
      have hg : G s a := by
        by_contra hg
        exact hbreak s a s' hI hg hs' ⟨(hP.2 s' hs').head, (hQ s' hs').1⟩
      have hI' := (hstep s a s' hI hg hs').1
      exact ⟨hg, (ih hI').mp ⟨hP.2 s' hs', (hQ s' hs').2⟩⟩
    · intro hG
      have hnext : ∀ s' ∈ step s a, I s' ∧ Q s a s' ∧ Meets step G s' as := fun s' hs' =>
        have h := hstep s a s' hI (hG s' hs').1 hs'
        ⟨h.1, h.2, (hG s' hs').2⟩
      constructor
      · exact ⟨hIP s hI, fun s' hs' =>
          ((ih (hnext s' hs').1).mpr (hnext s' hs').2.2).1⟩
      · exact fun s' hs' =>
          ⟨(hnext s' hs').2.1, ((ih (hnext s' hs').1).mpr (hnext s' hs').2.2).2⟩

/-- The exact condition for a property of states alone. -/
theorem throughout_iff_meets (hIP : ∀ s, I s → P s)
    (hstep : ∀ s a s', I s → G s a → step s a = some s' → I s')
    (hbreak : ∀ s a s', I s → ¬ G s a → step s a = some s' → ¬ P s') {as : List α} {s : σ}
    (hI : I s) : Throughout step P s as ↔ Meets step G s as := by
  have h : Throughout step P s as ∧ EachStep step (fun _ _ _ => True) s as ↔ Meets step G s as :=
    throughout_and_eachStep_iff_meets hIP
      (fun s a s' hI hG hs => ⟨hstep s a s' hI hG hs, trivial⟩)
      (fun s a s' hI hG hs hPQ => hbreak s a s' hI hG hs hPQ.1) hI
  rw [← h]
  exact ⟨fun hP => ⟨hP, eachStep_of_forall fun _ _ _ _ => trivial⟩, fun hPQ => hPQ.1⟩

/-- A property of steps that, in the states of an invariant, agrees with a condition on the step
agrees with it on every run. -/
theorem eachStep_iff_meets (hstep : ∀ s a s', I s → step s a = some s' → I s')
    (hQ : ∀ s a s', I s → step s a = some s' → (Q s a s' ↔ G s a)) {as : List α} :
    ∀ {s : σ}, I s → (EachStep step Q s as ↔ Meets step G s as) := by
  induction as with
  | nil => exact fun _ => Iff.rfl
  | cons a as ih =>
    intro s hI
    exact forall₂_congr fun s' hs' => and_congr (hQ s a s' hI hs') (ih (hstep s a s' hI hs'))

/-- An invariant that every step preserves holds in the state that a run ends in. -/
theorem invariant_of_run (hstep : ∀ s a s', I s → step s a = some s' → I s') {as : List α}
    {s s' : σ} (hI : I s) (hr : run step s as = some s') : I s' := by
  have hG : Meets step (fun _ _ => True) s as := meets_of_forall fun _ _ _ => trivial
  have hall := throughout_of_meets (fun s a s' hI _ hs => hstep s a s' hI hs) hI hG
  exact hall.last hr

/-- A measure that every step of a run uses up bounds the length of the run. -/
theorem length_le_of_decreasing {μ : σ → ℕ} (hinv : ∀ s a s', I s → step s a = some s' → I s')
    (hdec : ∀ s a s', I s → G s a → step s a = some s' → μ s' < μ s) {as : List α} :
    ∀ {s s' : σ}, I s → Meets step G s as → run step s as = some s' → μ s' + as.length ≤ μ s := by
  induction as with
  | nil =>
    intro s s' _ _ hr
    cases hr
    exact Nat.le_refl _
  | cons a as ih =>
    intro s s' hI hG hr
    obtain ⟨s₁, h₁, hr⟩ := Option.bind_eq_some_iff.mp hr
    obtain ⟨hg, hG⟩ := hG s₁ h₁
    have hlt := hdec s a s₁ hI hg h₁
    have hle := ih (hinv s a s₁ hI h₁) hG hr
    rw [List.length_cons]
    omega

/-- Steps that use up a measure can be taken until none is left to take. -/
theorem exists_run_to_rest {μ : σ → ℕ} (hinv : ∀ s a s', I s → step s a = some s' → I s')
    (hdec : ∀ s a s', I s → G s a → step s a = some s' → μ s' < μ s) :
    ∀ (n : ℕ) (s : σ), I s → μ s ≤ n →
      ∃ as s', Meets step G s as ∧ run step s as = some s' ∧ ∀ a, G s' a → step s' a = none := by
  intro n
  induction n with
  | zero =>
    intro s hI hle
    refine ⟨[], s, trivial, rfl, fun a hg => Option.eq_none_iff_forall_ne_some.mpr fun s' hs' => ?_⟩
    have hlt := hdec s a s' hI hg hs'
    omega
  | succ n ih =>
    intro s hI hle
    by_cases hrest : ∀ a, G s a → step s a = none
    · exact ⟨[], s, trivial, rfl, hrest⟩
    · obtain ⟨a, hrest⟩ := not_forall.mp hrest
      obtain ⟨hg, hsome⟩ := Classical.not_imp.mp hrest
      obtain ⟨s₁, h₁⟩ := Option.ne_none_iff_exists'.mp hsome
      have hlt := hdec s a s₁ hI hg h₁
      obtain ⟨as, s', hG, hr, hs'⟩ := ih s₁ (hinv s a s₁ hI h₁) (by omega)
      refine ⟨a :: as, s', fun s₂ h₂ => ?_, ?_, hs'⟩
      · cases h₁.symm.trans h₂
        exact ⟨hg, hG⟩
      · rw [run, h₁]
        exact hr

/-- A machine refines another where each of its steps is, seen through `f`, one of the other, and it
refuses only what the other refuses: then it does so in runs. -/
theorem run_refines {τ : Type*} {step' : τ → α → Option τ} {f : σ → τ}
    (hinv : ∀ s a s', I s → G s a → step s a = some s' → I s')
    (hsome : ∀ s a s', I s → G s a → step s a = some s' → step' (f s) a = some (f s'))
    (hnone : ∀ s a, I s → step s a = none → step' (f s) a = none) {as : List α} :
    ∀ {s : σ}, I s → Meets step G s as → (run step s as).map f = run step' (f s) as := by
  induction as with
  | nil => exact fun _ _ => rfl
  | cons a as ih =>
    intro s hI hG
    rw [run, run]
    cases hs : step s a with
    | none =>
      rw [hnone s a hI hs]
      rfl
    | some s' =>
      obtain ⟨hg, hG⟩ := hG s' hs
      rw [hsome s a s' hI hg hs]
      exact ih (hinv s a s' hI hg hs) hG

/-- A run of two lists is a run of the first and then of the second. -/
theorem run_append (as bs : List α) :
    ∀ s, run step s (as ++ bs) = (run step s as).bind fun s' => run step s' bs := by
  induction as with
  | nil => exact fun s => rfl
  | cons a as ih =>
    intro s
    rw [List.cons_append, run, run]
    cases step s a with
    | none => rfl
    | some s₁ => exact ih s₁

/-- A machine whose every action is enabled is a fold, and what each of its steps keeps, it
keeps. -/
theorem foldl_keeps {β : Type*} (g : σ → β) {f : σ → α → σ} (hf : ∀ s a, g (f s a) = g s)
    (l : List α) : ∀ s, g (l.foldl f s) = g s := by
  induction l with
  | nil => exact fun s => rfl
  | cons a l ih => exact fun s => (ih (f s a)).trans (hf s a)

end Run
