import Mathlib.Data.Nat.Notation
import Mathlib.Logic.Basic

/-!
# Traced programs

A program over a state is a function of the state. It ends with a value, or it ends the process that
it runs in; either way it leaves a state, and it has emitted a list of events on its way. What the
environment answers is part of the state or of the functions that make up the program, so a
statement about every answer is a statement about every state and every such function.

Two kinds of statement compose. `Keeps R p` says that `R` relates the state that a run of `p` starts
in, the events that it emits, and the state that it leaves, however it ends (`KeepsFrom P R p` for
the runs from a state of `P`). `Runs p s Q` is a weakest precondition: from `s` the program returns,
and its value, state and events meet `Q`; `Ensures p s Q` says this only if it returns, and `Yields
p Q` says it of the value alone and for every state. Each has a rule for each way of making a
program. `Respects E p` compares two runs: from states that `E` relates, `p` returns and emits the
same and leaves states that `E` relates. `Ignores change p` is the case of a change of the state
that makes no difference to `p`.
-/

/-- How a run of a program ends. -/
structure Outcome (σ ε χ α : Type) where
  /-- The value returned, or how the process ended. -/
  result : Except χ α
  state : σ
  trace : List ε

/-- The outcome of what follows a run, with the events of that run before its own. -/
def Outcome.after {σ ε χ α : Type} (t : List ε) (o : Outcome σ ε χ α) : Outcome σ ε χ α :=
  { o with trace := t ++ o.trace }

/-- A program over `σ` that emits events of `ε` and may end the process with `χ`. -/
def Prog (σ ε χ α : Type) : Type := σ → Outcome σ ε χ α

namespace Prog

section Def

variable {σ ε χ α β γ : Type}

/-- Runs one program and, if it returns, another on its value. -/
def bind (p : Prog σ ε χ α) (f : α → Prog σ ε χ β) : Prog σ ε χ β := fun s =>
  match (p s).result with
  | .ok a => .after (p s).trace (f a (p s).state)
  | .error x => ⟨.error x, (p s).state, (p s).trace⟩

instance : Monad (Prog σ ε χ) where
  pure a := fun s => ⟨.ok a, s, []⟩
  bind := bind

/-- The state. -/
def get : Prog σ ε χ σ := fun s => ⟨.ok s, s, []⟩

/-- Changes the state. -/
def modify (f : σ → σ) : Prog σ ε χ Unit := fun s => ⟨.ok (), f s, []⟩

/-- Emits an event. -/
def emit (e : ε) : Prog σ ε χ Unit := fun s => ⟨.ok (), s, [e]⟩

/-- Ends the process. -/
def exit (x : χ) : Prog σ ε χ α := fun s => ⟨.error x, s, []⟩

/-- Repeats a body that asks for another round with `.inl` and ends with `.inr`, `fuel` times at
most; `out` is returned where the rounds do not suffice. -/
def loop (body : α → Prog σ ε χ (α ⊕ β)) (out : β) : ℕ → α → Prog σ ε χ β
  | 0, _ => pure out
  | fuel + 1, a => do
    match ← body a with
    | .inl a => loop body out fuel a
    | .inr b => pure b

/-- Runs a program on each element, up to the first one that it returns false on. -/
def allM (f : α → Prog σ ε χ Bool) : List α → Prog σ ε χ Bool
  | [] => pure true
  | a :: as => do
    if ← f a then allM f as
    else pure false

/-- Runs a program on each element, with what it returned on the one before. -/
def foldM (f : β → α → Prog σ ε χ β) : β → List α → Prog σ ε χ β
  | b, [] => pure b
  | b, a :: as => do foldM f (← f b a) as

/-- Runs a program on a part of the state, with its events and its end under other names. -/
def within {τ ε' χ' : Type} (part : σ → τ) (put : τ → σ → σ) (event : ε → ε') (stop : χ → χ')
    (p : Prog τ ε χ α) : Prog σ ε' χ' α := fun s =>
  ⟨(p (part s)).result.mapError stop, put (p (part s)).state s, (p (part s)).trace.map event⟩

/-- `R` relates every run of `p`. -/
def Keeps (R : σ → List ε → σ → Prop) (p : Prog σ ε χ α) : Prop :=
  ∀ s, R s (p s).trace (p s).state

/-- `R` relates every run of `p` from a state of `P`. -/
def KeepsFrom (P : σ → Prop) (R : σ → List ε → σ → Prop) (p : Prog σ ε χ α) : Prop :=
  ∀ s, P s → R s (p s).trace (p s).state

/-- The run of `p` from `s` returns, and ends as `Q` says. -/
def Runs (p : Prog σ ε χ α) (s : σ) (Q : α → σ → List ε → Prop) : Prop :=
  ∃ a, (p s).result = .ok a ∧ Q a (p s).state (p s).trace

/-- The run of `p` from `s`, if it returns, ends as `Q` says. -/
def Ensures (p : Prog σ ε χ α) (s : σ) (Q : α → σ → List ε → Prop) : Prop :=
  ∀ a, (p s).result = .ok a → Q a (p s).state (p s).trace

/-- Every value that a run of `p` returns is one of `Q`. -/
def Yields (p : Prog σ ε χ α) (Q : α → Prop) : Prop := ∀ s a, (p s).result = .ok a → Q a

/-- No run of `p` ends the process. -/
def Returns (p : Prog σ ε χ α) : Prop := ∀ s, ∃ a, (p s).result = .ok a

/-- Every run of `p` returns, and `R` relates it. -/
def Obeys (R : σ → List ε → σ → Prop) (p : Prog σ ε χ α) : Prop :=
  ∀ s, Runs p s fun _ s' t => R s t s'

/-- Two runs return and emit the same, and leave states that `E` relates. -/
def Alike (E : σ → σ → Prop) (o o' : Outcome σ ε χ α) : Prop :=
  o.result = o'.result ∧ o.trace = o'.trace ∧ E o.state o'.state

/-- From states that `E` relates, the runs of `p` are alike. -/
def Respects (E : σ → σ → Prop) (p : Prog σ ε χ α) : Prop := ∀ s s', E s s' → Alike E (p s) (p s')

/-- The program runs the same after a change of the state, and keeps the change. -/
def Ignores (change : σ → σ) (p : Prog σ ε χ α) : Prop :=
  ∀ s, p (change s) = ⟨(p s).result, change (p s).state, (p s).trace⟩

/-- A relation that holds of doing nothing, and of one thing after another. -/
structure Composes (R : σ → List ε → σ → Prop) : Prop where
  nil : ∀ s, R s [] s
  append : ∀ {s t s' t' s''}, R s t s' → R s' t' s'' → R s (t ++ t') s''

end Def

variable {σ ε χ α β γ : Type}

/-! ## Running -/

@[simp] theorem after_mk (t t' : List ε) (r : Except χ α) (s : σ) :
    Outcome.after t ⟨r, s, t'⟩ = ⟨r, s, t ++ t'⟩ := rfl

@[simp] theorem after_nil (o : Outcome σ ε χ α) : o.after [] = o := rfl

@[simp] theorem after_after (t t' : List ε) (o : Outcome σ ε χ α) :
    (o.after t').after t = o.after (t ++ t') := by
  simp [Outcome.after]

@[simp] theorem after_result (t : List ε) (o : Outcome σ ε χ α) :
    (o.after t).result = o.result := rfl

@[simp] theorem after_state (t : List ε) (o : Outcome σ ε χ α) : (o.after t).state = o.state := rfl

@[simp] theorem after_trace (t : List ε) (o : Outcome σ ε χ α) :
    (o.after t).trace = t ++ o.trace := rfl

@[simp] theorem pure_apply (a : α) (s : σ) : (pure a : Prog σ ε χ α) s = ⟨.ok a, s, []⟩ := rfl

@[simp] theorem get_apply (s : σ) : (get : Prog σ ε χ σ) s = ⟨.ok s, s, []⟩ := rfl

@[simp] theorem modify_apply (f : σ → σ) (s : σ) :
    (modify f : Prog σ ε χ Unit) s = ⟨.ok (), f s, []⟩ := rfl

@[simp] theorem emit_apply (e : ε) (s : σ) :
    (emit e : Prog σ ε χ Unit) s = ⟨.ok (), s, [e]⟩ := rfl

@[simp] theorem exit_apply (x : χ) (s : σ) : (exit x : Prog σ ε χ α) s = ⟨.error x, s, []⟩ := rfl

@[simp] theorem bind_pure_apply (a : α) (f : α → Prog σ ε χ β) (s : σ) :
    ((pure a : Prog σ ε χ α) >>= f) s = f a s := rfl

@[simp] theorem bind_get_apply (f : σ → Prog σ ε χ β) (s : σ) :
    ((get : Prog σ ε χ σ) >>= f) s = f s s := rfl

@[simp] theorem bind_modify_apply (g : σ → σ) (f : Unit → Prog σ ε χ β) (s : σ) :
    ((modify g : Prog σ ε χ Unit) >>= f) s = f () (g s) := rfl

@[simp] theorem bind_emit_apply (e : ε) (f : Unit → Prog σ ε χ β) (s : σ) :
    ((emit e : Prog σ ε χ Unit) >>= f) s = .after [e] (f () s) := rfl

@[simp] theorem bind_exit_apply (x : χ) (f : α → Prog σ ε χ β) (s : σ) :
    ((exit x : Prog σ ε χ α) >>= f) s = ⟨.error x, s, []⟩ := rfl

@[simp] theorem bind_bind_apply (p : Prog σ ε χ α) (f : α → Prog σ ε χ β) (g : β → Prog σ ε χ γ)
    (s : σ) : ((p >>= f) >>= g) s = (p >>= fun a => f a >>= g) s := by
  change bind (bind p f) g s = bind p (fun a => bind (f a) g) s
  unfold bind
  cases hp : (p s).result with
  | error x => rfl
  | ok a =>
    simp only [after_result, after_state, after_trace]
    cases hf : (f a (p s).state).result with
    | error x => simp [after_mk]
    | ok b => simp

/-- Where the first program returns, the second goes on from its state. -/
theorem bind_apply_ok {p : Prog σ ε χ α} {f : α → Prog σ ε χ β} {s : σ} {a : α}
    (h : (p s).result = .ok a) : (p >>= f) s = .after (p s).trace (f a (p s).state) := by
  change bind p f s = _
  simp only [bind, h]

/-- A program and then nothing is the program. -/
theorem bind_pure_right (p : Prog σ ε χ α) (s : σ) : (p >>= fun a => pure a) s = p s := by
  change bind p _ s = p s
  unfold bind
  obtain ⟨result, state, trace⟩ := p s
  cases result with
  | error x => rfl
  | ok a => exact congrArg _ (List.append_nil trace)

/-- An event of what follows a program that returns. -/
theorem mem_trace_bind {p : Prog σ ε χ α} {f : α → Prog σ ε χ β} {s : σ} {a : α} {e : ε}
    (h : (p s).result = .ok a) (he : e ∈ (f a (p s).state).trace) : e ∈ ((p >>= f) s).trace := by
  rw [bind_apply_ok h]
  exact List.mem_append_right _ he

/-- An event of the first program is one of the sequence. -/
theorem mem_trace_bind_left {p : Prog σ ε χ α} {f : α → Prog σ ε χ β} {s : σ} {e : ε}
    (he : e ∈ (p s).trace) : e ∈ ((p >>= f) s).trace := by
  cases h : (p s).result with
  | error x =>
    change e ∈ (bind p f s).trace
    simp only [bind, h]
    exact he
  | ok a =>
    rw [bind_apply_ok h]
    exact List.mem_append_left _ he

/-- Where the first program ends the process, the second does not run. -/
theorem bind_apply_error {p : Prog σ ε χ α} {f : α → Prog σ ε χ β} {s : σ} {x : χ}
    (h : (p s).result = .error x) : (p >>= f) s = ⟨.error x, (p s).state, (p s).trace⟩ := by
  change bind p f s = _
  simp only [bind, h]

/-- A sequence runs from where the run of its first program returned. -/
theorem bind_of_run {p : Prog σ ε χ α} {f : α → Prog σ ε χ β} {s s' : σ} {a : α} {t : List ε}
    (h : p s = ⟨.ok a, s', t⟩) : (p >>= f) s = .after t (f a s') := by
  change bind p f s = _
  simp only [bind, h]

/-- Running over two lists is running over one after the other. -/
theorem foldM_append (f : β → α → Prog σ ε χ β) (as as' : List α) :
    ∀ b, foldM f b (as ++ as') = foldM f b as >>= fun b => foldM f b as' := by
  induction as with
  | nil => exact fun b => rfl
  | cons a as ih =>
    intro b
    have hrest : (fun b => foldM f b (as ++ as')) = fun b => foldM f b as >>= fun b =>
        foldM f b as' :=
      funext ih
    calc foldM f b (a :: as ++ as') = f b a >>= fun b => foldM f b (as ++ as') := rfl
      _ = f b a >>= fun b => foldM f b as >>= fun b => foldM f b as' := by rw [hrest]
      _ = foldM f b (a :: as) >>= fun b => foldM f b as' :=
        funext fun s => (bind_bind_apply (f b a) _ _ s).symm

/-- A mapped program runs as the program does. -/
theorem map_apply (g : α → β) (p : Prog σ ε χ α) (s : σ) :
    (g <$> p) s = ⟨(p s).result.map g, (p s).state, (p s).trace⟩ := by
  change bind p (fun a => pure (g a)) s = _
  unfold bind
  cases (p s).result with
  | error x => rfl
  | ok a => exact congrArg _ (List.append_nil _)

/-- A sequence that returns has returned from its first program. -/
theorem bind_returns {p : Prog σ ε χ α} {f : α → Prog σ ε χ β} {s : σ} {b : β}
    (h : ((p >>= f) s).result = .ok b) :
    ∃ a, (p s).result = .ok a ∧ (f a (p s).state).result = .ok b ∧
      ((p >>= f) s).state = (f a (p s).state).state ∧
      ((p >>= f) s).trace = (p s).trace ++ (f a (p s).state).trace := by
  cases hp : (p s).result with
  | error x =>
    rw [bind_apply_error hp] at h
    cases h
  | ok a =>
    rw [bind_apply_ok hp] at h ⊢
    exact ⟨a, rfl, h, rfl, rfl⟩

/-! ## Relations -/

section Keeps

variable {R : σ → List ε → σ → Prop} (hR : Composes R)

include hR

theorem Keeps.pure (a : α) : Keeps R (pure a : Prog σ ε χ α) := fun s => hR.nil s

theorem Keeps.get : Keeps R (Prog.get : Prog σ ε χ σ) := fun s => hR.nil s

theorem Keeps.exit (x : χ) : Keeps R (Prog.exit x : Prog σ ε χ α) := fun s => hR.nil s

theorem Keeps.bind {p : Prog σ ε χ α} {f : α → Prog σ ε χ β} (hp : Keeps R p)
    (hf : ∀ a, Keeps R (f a)) : Keeps R (p >>= f) := by
  intro s
  cases hr : (p s).result with
  | error x =>
    rw [bind_apply_error hr]
    exact hp s
  | ok a =>
    rw [bind_apply_ok hr]
    exact hR.append (hp s) (hf a _)

omit hR in
theorem Keeps.ite {c : Prop} [Decidable c] {p q : Prog σ ε χ α} (hp : c → Keeps R p)
    (hq : ¬ c → Keeps R q) : Keeps R (if c then p else q) := by
  split
  · exact hp ‹_›
  · exact hq ‹_›

omit hR in
theorem Keeps.map {p : Prog σ ε χ α} (hp : Keeps R p) (g : α → β) : Keeps R (g <$> p) := by
  intro s
  rw [map_apply]
  exact hp s

/-- A loop keeps what its body keeps. -/
theorem Keeps.loop {body : α → Prog σ ε χ (α ⊕ β)} {out : β} (hbody : ∀ a, Keeps R (body a))
    (fuel : ℕ) : ∀ a, Keeps R (loop body out fuel a) := by
  induction fuel with
  | zero => exact fun a => .pure hR out
  | succ fuel ih =>
    intro a
    refine .bind hR (hbody a) fun r => ?_
    cases r with
    | inl a => exact ih a
    | inr b => exact .pure hR b

theorem Keeps.allM {f : α → Prog σ ε χ Bool} {as : List α} (hf : ∀ a ∈ as, Keeps R (f a)) :
    Keeps R (allM f as) := by
  induction as with
  | nil => exact .pure hR true
  | cons a as ih =>
    refine .bind hR (hf a List.mem_cons_self) fun r => ?_
    cases r with
    | false => exact .pure hR false
    | true => exact ih fun b hb => hf b (List.mem_cons_of_mem a hb)

theorem Keeps.foldM {f : β → α → Prog σ ε χ β} {as : List α}
    (hf : ∀ b, ∀ a ∈ as, Keeps R (f b a)) : ∀ b, Keeps R (foldM f b as) := by
  induction as with
  | nil => exact fun b => .pure hR b
  | cons a as ih =>
    exact fun b => .bind hR (hf b a List.mem_cons_self) fun b =>
      ih (fun b a' ha' => hf b a' (List.mem_cons_of_mem a ha')) b

end Keeps

/-! ## Values -/

section Yields

variable {Q : α → Prop} {M : β → Prop}

theorem Yields.pure {a : α} (h : Q a) : Yields (pure a : Prog σ ε χ α) Q := fun _ b hb => by
  cases hb
  exact h

theorem Yields.trivial (p : Prog σ ε χ α) : Yields p fun _ => True := fun _ _ _ => True.intro

theorem Yields.bind {p : Prog σ ε χ β} {f : β → Prog σ ε χ α} (hp : Yields p M)
    (hf : ∀ b, M b → Yields (f b) Q) : Yields (p >>= f) Q := fun s a ha => by
  obtain ⟨b, hb, ha, -, -⟩ := bind_returns ha
  exact hf b (hp s b hb) _ a ha

theorem Yields.ite {c : Prop} [Decidable c] {p q : Prog σ ε χ α} (hp : c → Yields p Q)
    (hq : ¬ c → Yields q Q) : Yields (if c then p else q) Q := by
  split
  · exact hp ‹_›
  · exact hq ‹_›

/-- A loop keeps a property of the value that goes from round to round. -/
theorem Yields.loop {body : β → Prog σ ε χ (β ⊕ α)} {out : α}
    (hbody : ∀ b, M b → Yields (body b) fun r => match r with
      | .inl b' => M b'
      | .inr a => Q a) (hout : Q out) (fuel : ℕ) : ∀ b, M b → Yields (loop body out fuel b) Q := by
  induction fuel with
  | zero => exact fun _ _ => .pure hout
  | succ fuel ih =>
    intro b hb
    refine .bind (hbody b hb) fun r hr => ?_
    cases r with
    | inl b' => exact ih b' hr
    | inr a => exact .pure hr

theorem Yields.foldM {f : β → α → Prog σ ε χ β} {as : List α}
    (hf : ∀ b, ∀ a ∈ as, M b → Yields (f b a) M) : ∀ b, M b → Yields (foldM f b as) M := by
  induction as with
  | nil => exact fun _ hb => .pure hb
  | cons a as ih =>
    exact fun b hb => .bind (hf b a List.mem_cons_self hb) fun b' hb' =>
      ih (fun b a' ha' => hf b a' (List.mem_cons_of_mem a ha')) b' hb'

theorem Yields.map {p : Prog σ ε χ β} {g : β → α} (hp : Yields p fun b => Q (g b)) :
    Yields (g <$> p) Q := fun s a ha => by
  rw [map_apply] at ha
  cases hr : (p s).result with
  | error x =>
    rw [hr] at ha
    cases ha
  | ok b =>
    rw [hr] at ha
    cases ha
    exact hp s b hr

/-- All elements succeed where each of them does. -/
theorem Yields.allM {f : α → Prog σ ε χ Bool} {as : List α}
    (hf : ∀ a ∈ as, Yields (f a) (· = true)) : Yields (allM f as) (· = true) := by
  induction as with
  | nil => exact .pure rfl
  | cons a as ih =>
    refine .bind (hf a List.mem_cons_self) fun ok hok => ?_
    subst hok
    exact ih fun b hb => hf b (List.mem_cons_of_mem a hb)

/-- The rule of composition, where the second program keeps `R` for the values of the first. -/
theorem Keeps.bind_of_yields {R : σ → List ε → σ → Prop} (hR : Composes R) {p : Prog σ ε χ β}
    {f : β → Prog σ ε χ α} (hp : Keeps R p) (hM : Yields p M) (hf : ∀ b, M b → Keeps R (f b)) :
    Keeps R (p >>= f) := by
  intro s
  cases hr : (p s).result with
  | error x =>
    rw [bind_apply_error hr]
    exact hp s
  | ok b =>
    rw [bind_apply_ok hr]
    exact hR.append (hp s) (hf b (hM s b hr) _)

end Yields

/-- A property of events, of every one of them. -/
theorem composes_forall (E : ε → Prop) : Composes fun (_ : σ) t (_ : σ) => ∀ e ∈ t, E e where
  nil _ := fun _ he => absurd he List.not_mem_nil
  append h₁ h₂ := fun e he => (List.mem_append.mp he).elim (h₁ e) (h₂ e)

/-! ## Two runs -/

section Alike

variable {E E' : σ → σ → Prop} {s s' : σ}

theorem Alike.mono {o o' : Outcome σ ε χ α} (h : Alike E o o') (hE : ∀ s s', E s s' → E' s s') :
    Alike E' o o' := ⟨h.1, h.2.1, hE _ _ h.2.2⟩

/-- Two sequences run alike where their first programs do, and their second ones from there. -/
theorem Alike.seq {p q : Prog σ ε χ α} {f g : α → Prog σ ε χ β} (hpq : Alike E (p s) (q s'))
    (hstop : ∀ t t', E t t' → E' t t')
    (hfg : ∀ a t t', (p s).result = .ok a → E t t' → Alike E' (f a t) (g a t')) :
    Alike E' ((p >>= f) s) ((q >>= g) s') := by
  obtain ⟨hresult, htrace, hstate⟩ := hpq
  cases hr : (p s).result with
  | error x =>
    rw [bind_apply_error hr, bind_apply_error (hresult.symm.trans hr)]
    exact ⟨rfl, htrace, hstop _ _ hstate⟩
  | ok a =>
    rw [bind_apply_ok hr, bind_apply_ok (hresult.symm.trans hr)]
    obtain ⟨hresult', htrace', hstate'⟩ := hfg a _ _ hr hstate
    exact ⟨hresult', congrArg₂ _ htrace htrace', hstate'⟩

/-- A sequence runs alike where its first program does, and the second one from there. -/
theorem Alike.bind {p : Prog σ ε χ α} {f : α → Prog σ ε χ β} (hp : Alike E (p s) (p s'))
    (hstop : ∀ t t', E t t' → E' t t')
    (hf : ∀ a t t', (p s).result = .ok a → E t t' → Alike E' (f a t) (f a t')) :
    Alike E' ((p >>= f) s) ((p >>= f) s') := hp.seq hstop hf

theorem Alike.map {p : Prog σ ε χ α} (hp : Alike E (p s) (p s')) (g : α → β) :
    Alike E ((g <$> p) s) ((g <$> p) s') := by
  obtain ⟨hresult, htrace, hstate⟩ := hp
  rw [map_apply, map_apply]
  exact ⟨congrArg (Except.map g) hresult, htrace, hstate⟩

theorem Respects.pure (a : α) : Respects E (pure a : Prog σ ε χ α) := fun _ _ h => ⟨rfl, rfl, h⟩

theorem Respects.emit (e : ε) : Respects E (Prog.emit e : Prog σ ε χ Unit) := fun _ _ h =>
    ⟨rfl, rfl, h⟩

theorem Respects.exit (x : χ) : Respects E (Prog.exit x : Prog σ ε χ α) := fun _ _ h =>
    ⟨rfl, rfl, h⟩

theorem Respects.modify {f : σ → σ} (hf : ∀ s s', E s s' → E (f s) (f s')) :
    Respects E (Prog.modify f : Prog σ ε χ Unit) := fun _ _ h => ⟨rfl, rfl, hf _ _ h⟩

theorem Respects.bind {p : Prog σ ε χ α} {f : α → Prog σ ε χ β} (hp : Respects E p)
    (hf : ∀ a, Respects E (f a)) : Respects E (p >>= f) := fun s s' h =>
  (hp s s' h).bind (fun _ _ => id) fun a t t' _ => hf a t t'

/-- What reads the state respects a relation of states in which it reads the same. -/
theorem Respects.get_bind {f : σ → Prog σ ε χ α} (hsame : ∀ s s', E s s' → f s = f s')
    (hf : ∀ s, Respects E (f s)) : Respects E ((Prog.get : Prog σ ε χ σ) >>= f) := fun s s' h => by
  rw [bind_get_apply, bind_get_apply, hsame s s' h]
  exact hf s' s s' h

theorem Respects.ite {c : Prop} [Decidable c] {p q : Prog σ ε χ α} (hp : c → Respects E p)
    (hq : ¬ c → Respects E q) : Respects E (if c then p else q) := by
  split
  · exact hp ‹_›
  · exact hq ‹_›

theorem Respects.map {p : Prog σ ε χ α} (hp : Respects E p) (g : α → β) : Respects E (g <$> p) :=
  fun s s' h => (hp s s' h).map g

theorem Respects.loop {body : α → Prog σ ε χ (α ⊕ β)} {out : β} (hbody : ∀ a, Respects E (body a))
    (fuel : ℕ) : ∀ a, Respects E (loop body out fuel a) := by
  induction fuel with
  | zero => exact fun a => .pure out
  | succ fuel ih =>
    intro a
    refine .bind (hbody a) fun r => ?_
    cases r with
    | inl a => exact ih a
    | inr b => exact .pure b

/-- A program on a part of the state, where the parts are the same. -/
theorem alike_within {τ ε' χ' : Type} {part : σ → τ} {put : τ → σ → σ} {event : ε → ε'}
    {stop : χ → χ'}
    {p : Prog τ ε χ α} {D : τ → τ → Prop} (hp : Alike D (p (part s)) (p (part s')))
    (hE : ∀ t t', D t t' → E (put t s) (put t' s')) :
    Alike E (within part put event stop p s) (within part put event stop p s') := by
  obtain ⟨hresult, htrace, hstate⟩ := hp
  refine ⟨?_, ?_, hE _ _ hstate⟩
  · simp only [within, hresult]
  · simp only [within, htrace]

/-- Every program runs alike from the same state. -/
theorem alike_refl (p : Prog σ ε χ α) (h : s = s') : Alike (fun t t' => t = t') (p s) (p s') := by
  rw [h]
  exact ⟨rfl, rfl, rfl⟩

end Alike

/-! ## Ignoring a change of the state -/

section Ignores

variable {change : σ → σ}

theorem Ignores.pure (a : α) : Ignores change (pure a : Prog σ ε χ α) := fun _ => rfl

theorem Ignores.emit (e : ε) : Ignores change (Prog.emit e : Prog σ ε χ Unit) := fun _ => rfl

theorem Ignores.modify {f : σ → σ} (hf : ∀ s, f (change s) = change (f s)) :
    Ignores change (Prog.modify f : Prog σ ε χ Unit) := fun s => by
  rw [modify_apply, modify_apply, hf]

theorem Ignores.bind {p : Prog σ ε χ α} {f : α → Prog σ ε χ β} (hp : Ignores change p)
    (hf : ∀ a, Ignores change (f a)) : Ignores change (p >>= f) := by
  intro s
  have hstart := hp s
  cases hr : (p s).result with
  | error x =>
    have hend : (p (change s)).result = .error x := by rw [hstart, hr]
    rw [bind_apply_error hr, bind_apply_error hend, hstart]
  | ok a =>
    have hgo : (p (change s)).result = .ok a := by rw [hstart, hr]
    rw [bind_apply_ok hr, bind_apply_ok hgo, hstart, hf a]
    rfl

/-- What reads the state ignores a change of what it does not look at. -/
theorem Ignores.get_bind {f : σ → Prog σ ε χ α} (hsame : ∀ s, f (change s) = f s)
    (hf : ∀ s, Ignores change (f s)) : Ignores change ((Prog.get : Prog σ ε χ σ) >>= f) := by
  intro s
  rw [bind_get_apply, bind_get_apply, hsame]
  exact hf s s

theorem Ignores.ite {c : Prop} [Decidable c] {p q : Prog σ ε χ α} (hp : Ignores change p)
    (hq : Ignores change q) : Ignores change (if c then p else q) := by
  split
  · exact hp
  · exact hq

end Ignores

/-! ## Returning -/

theorem Returns.pure (a : α) : Returns (pure a : Prog σ ε χ α) := fun _ => ⟨a, rfl⟩

theorem Returns.modify (f : σ → σ) : Returns (Prog.modify f : Prog σ ε χ Unit) := fun _ => ⟨(), rfl⟩

theorem Returns.emit (e : ε) : Returns (Prog.emit e : Prog σ ε χ Unit) := fun _ => ⟨(), rfl⟩

theorem Returns.bind {p : Prog σ ε χ α} {f : α → Prog σ ε χ β} (hp : Returns p)
    (hf : ∀ a, Returns (f a)) : Returns (p >>= f) := by
  intro s
  obtain ⟨a, ha⟩ := hp s
  rw [bind_apply_ok ha]
  exact hf a _

/-- A loop returns where its body does, as it stops when its rounds are used up. -/
theorem Returns.loop {body : α → Prog σ ε χ (α ⊕ β)} {out : β} (hbody : ∀ a, Returns (body a))
    (fuel : ℕ) : ∀ a, Returns (loop body out fuel a) := by
  induction fuel with
  | zero => exact fun a => .pure out
  | succ fuel ih =>
    intro a
    refine .bind (hbody a) fun r => ?_
    cases r with
    | inl a => exact ih a
    | inr b => exact .pure b

/-! ## Weakest preconditions -/

section Runs

variable {s : σ} {Q Q' : α → σ → List ε → Prop}

theorem Runs.mono {p : Prog σ ε χ α} (h : Runs p s Q) (hQ : ∀ a s' t, Q a s' t → Q' a s' t) :
    Runs p s Q' := by
  obtain ⟨a, ha, hq⟩ := h
  exact ⟨a, ha, hQ _ _ _ hq⟩

/-- Two things that hold of the same run. -/
theorem Runs.and {p : Prog σ ε χ α} (h : Runs p s Q) (h' : Runs p s Q') :
    Runs p s fun a s' t => Q a s' t ∧ Q' a s' t := by
  obtain ⟨a, ha, hq⟩ := h
  obtain ⟨a', ha', hq'⟩ := h'
  obtain rfl := Except.ok.inj (ha.symm.trans ha')
  exact ⟨a, ha, hq, hq'⟩

theorem Runs.pure {a : α} (h : Q a s []) : Runs (pure a : Prog σ ε χ α) s Q := ⟨a, rfl, h⟩

/-- The rule of composition: the second program starts as the first one returned, and its events
come after those of the first. -/
theorem Runs.bind {p : Prog σ ε χ β} {f : β → Prog σ ε χ α} {M : β → σ → List ε → Prop}
    (hp : Runs p s M)
    (hf : ∀ b s' t, M b s' t → Runs (f b) s' fun a s'' t' => Q a s'' (t ++ t')) :
    Runs (p >>= f) s Q := by
  obtain ⟨b, hb, hM⟩ := hp
  obtain ⟨a, ha, hQ⟩ := hf b _ _ hM
  rw [Runs, bind_apply_ok hb]
  exact ⟨a, ha, hQ⟩

theorem Runs.get_bind {f : σ → Prog σ ε χ α} (h : Runs (f s) s Q) :
    Runs ((Prog.get : Prog σ ε χ σ) >>= f) s Q := h

theorem Runs.modify_bind {g : σ → σ} {f : Unit → Prog σ ε χ α} (h : Runs (f ()) (g s) Q) :
    Runs ((Prog.modify g : Prog σ ε χ Unit) >>= f) s Q := h

theorem Runs.emit_bind {e : ε} {f : Unit → Prog σ ε χ α}
    (h : Runs (f ()) s fun a s' t => Q a s' (e :: t)) :
    Runs ((Prog.emit e : Prog σ ε χ Unit) >>= f) s Q := h

/-- A program that returns and keeps `R`. -/
theorem Returns.runs {p : Prog σ ε χ α} {R : σ → List ε → σ → Prop} (hp : Returns p)
    (hR : Keeps R p) (s : σ) : Runs p s fun _ s' t => R s t s' := by
  obtain ⟨a, ha⟩ := hp s
  exact ⟨a, ha, hR s⟩

/-- A loop that returns before its rounds are used up: a round that asks for another one lowers the
measure. -/
theorem Runs.loop {body : β → Prog σ ε χ (β ⊕ α)} {out : α} {m : σ → ℕ}
    {I : β → σ → List ε → Prop}
    (hbody : ∀ b s t, I b s t → Runs (body b) s fun r s' t' => match r with
      | .inl b' => I b' s' (t ++ t') ∧ m s' < m s
      | .inr a => Q a s' (t ++ t')) (fuel : ℕ) :
    ∀ b s t, I b s t → m s < fuel →
      Runs (loop body out fuel b) s fun a s' t' => Q a s' (t ++ t') := by
  induction fuel with
  | zero => exact fun _ _ _ _ hlt => absurd hlt (Nat.not_lt_zero _)
  | succ fuel ih =>
    intro b s t hI hlt
    refine (hbody b s t hI).bind fun r s' t' hr => ?_
    cases r with
    | inr a => exact .pure (by rwa [List.append_nil])
    | inl b' =>
      have hrest := ih b' s' (t ++ t') hr.1 (by omega)
      exact hrest.mono fun a s'' t'' hQ => by rwa [← List.append_assoc]

/-- A run over a list: what each program keeps of the value, the state and the events so far. -/
theorem Runs.foldM {f : β → γ → Prog σ ε χ β} {I : β → σ → List ε → Prop} {l : List γ}
    (hf : ∀ b, ∀ a ∈ l, ∀ s t, I b s t → Runs (f b a) s fun b' s' t' => I b' s' (t ++ t')) :
    ∀ b s t, I b s t → Runs (foldM f b l) s fun b' s' t' => I b' s' (t ++ t') := by
  induction l with
  | nil => exact fun b s t hI => .pure (by rwa [List.append_nil])
  | cons a as ih =>
    intro b s t hI
    refine (hf b a List.mem_cons_self s t hI).bind fun b' s' t' hI' => ?_
    have hrest := ih (fun b a' ha' => hf b a' (List.mem_cons_of_mem a ha')) b' s' (t ++ t') hI'
    exact hrest.mono fun b'' s'' t'' h => by rwa [← List.append_assoc]

end Runs

/-! ## Returning and keeping a relation -/

section Obeys

variable {R : σ → List ε → σ → Prop}

theorem Obeys.returns {p : Prog σ ε χ α} (h : Obeys R p) : Returns p := fun s =>
  (h s).imp fun _ ha => ha.1

theorem Obeys.keeps {p : Prog σ ε χ α} (h : Obeys R p) : Keeps R p := fun s => by
  obtain ⟨_, -, hR⟩ := h s
  exact hR

theorem Obeys.of_returns {p : Prog σ ε χ α} (hp : Returns p) (hR : Keeps R p) : Obeys R p :=
  fun s => hp.runs hR s

theorem Obeys.mono {R' : σ → List ε → σ → Prop} {p : Prog σ ε χ α} (h : Obeys R p)
    (hR : ∀ s t s', R s t s' → R' s t s') : Obeys R' p := fun s =>
  (h s).mono fun _ _ _ => hR _ _ _

theorem Obeys.ite {c : Prop} [Decidable c] {p q : Prog σ ε χ α} (hp : c → Obeys R p)
    (hq : ¬ c → Obeys R q) : Obeys R (if c then p else q) := by
  split
  · exact hp ‹_›
  · exact hq ‹_›

variable (hR : Composes R)

include hR

theorem Obeys.pure (a : α) : Obeys R (pure a : Prog σ ε χ α) := fun s => .pure (hR.nil s)

theorem Obeys.get : Obeys R (Prog.get : Prog σ ε χ σ) := fun s => ⟨s, rfl, hR.nil s⟩

theorem Obeys.bind {p : Prog σ ε χ α} {f : α → Prog σ ε χ β} (hp : Obeys R p)
    (hf : ∀ a, Obeys R (f a)) : Obeys R (p >>= f) := fun s =>
  (hp s).bind fun a s' _ h => (hf a s').mono fun _ _ _ h' => hR.append h h'

theorem Obeys.loop {body : α → Prog σ ε χ (α ⊕ β)} {out : β} (hbody : ∀ a, Obeys R (body a))
    (fuel : ℕ) (a : α) : Obeys R (Prog.loop body out fuel a) :=
  .of_returns (.loop (fun a => (hbody a).returns) fuel a)
    (.loop hR (fun a => (hbody a).keeps) fuel a)

theorem Obeys.allM {f : α → Prog σ ε χ Bool} {as : List α} (hf : ∀ a ∈ as, Obeys R (f a)) :
    Obeys R (Prog.allM f as) := by
  induction as with
  | nil => exact .pure hR true
  | cons a as ih =>
    refine .bind hR (hf a List.mem_cons_self) fun ok => .ite (fun _ => ?_) fun _ => .pure hR false
    exact ih fun b hb => hf b (List.mem_cons_of_mem a hb)

theorem Obeys.foldM {f : β → α → Prog σ ε χ β} {as : List α} (hf : ∀ b, ∀ a ∈ as, Obeys R (f b a)) :
    ∀ b, Obeys R (Prog.foldM f b as) := by
  induction as with
  | nil => exact fun b => .pure hR b
  | cons a as ih =>
    intro b
    refine .bind hR (hf b a List.mem_cons_self) fun b' => ?_
    exact ih (fun b a ha => hf b a (List.mem_cons_of_mem _ ha)) b'

end Obeys

section Ensures

variable {s : σ} {Q Q' : α → σ → List ε → Prop}

theorem Ensures.mono {p : Prog σ ε χ α} (h : Ensures p s Q)
    (hQ : ∀ a s' t, Q a s' t → Q' a s' t) : Ensures p s Q' :=
  fun a ha => hQ _ _ _ (h a ha)

theorem Ensures.pure {a : α} (h : Q a s []) : Ensures (pure a : Prog σ ε χ α) s Q := by
  intro b hb
  cases hb
  exact h

theorem Ensures.trivial (p : Prog σ ε χ α) (s : σ) : Ensures p s fun _ _ _ => True := fun _ _ =>
  True.intro

theorem Ensures.exit (x : χ) : Ensures (exit x : Prog σ ε χ α) s Q := fun _ h => by cases h

/-- The rule of composition, for the runs that return. -/
theorem Ensures.bind {p : Prog σ ε χ β} {f : β → Prog σ ε χ α} {M : β → σ → List ε → Prop}
    (hp : Ensures p s M)
    (hf : ∀ b s' t, M b s' t → Ensures (f b) s' fun a s'' t' => Q a s'' (t ++ t')) :
    Ensures (p >>= f) s Q := by
  intro a ha
  obtain ⟨b, hb, ha, hstate, htrace⟩ := bind_returns ha
  rw [hstate, htrace]
  exact hf b _ _ (hp b hb) a ha

theorem Ensures.map {p : Prog σ ε χ β} {g : β → α} {M : β → σ → List ε → Prop} (hp : Ensures p s M)
    (hQ : ∀ b s' t, M b s' t → Q (g b) s' t) : Ensures (g <$> p) s Q := by
  intro a ha
  rw [map_apply] at ha ⊢
  cases hr : (p s).result with
  | error x =>
    rw [hr] at ha
    cases ha
  | ok b =>
    rw [hr] at ha
    obtain rfl := Except.ok.inj ha
    exact hQ b _ _ (hp b hr)

theorem Ensures.get_bind {f : σ → Prog σ ε χ α} (h : Ensures (f s) s Q) :
    Ensures ((Prog.get : Prog σ ε χ σ) >>= f) s Q := h

theorem Ensures.emit_bind {e : ε} {f : Unit → Prog σ ε χ α}
    (h : Ensures (f ()) s fun a s' t => Q a s' (e :: t)) :
    Ensures ((Prog.emit e : Prog σ ε χ Unit) >>= f) s Q := h

theorem Keeps.ensures {R : σ → List ε → σ → Prop} {p : Prog σ ε χ α} (h : Keeps R p) (s : σ) :
    Ensures p s fun _ s' t => R s t s' := fun _ _ => h s

theorem Ensures.ite {c : Prop} [Decidable c] {p q : Prog σ ε χ α} (hp : c → Ensures p s Q)
    (hq : ¬ c → Ensures q s Q) : Ensures (if c then p else q) s Q := by
  split
  · exact hp ‹_›
  · exact hq ‹_›

theorem Runs.ensures {p : Prog σ ε χ α} (h : Runs p s Q) : Ensures p s Q := by
  obtain ⟨a, ha, hQ⟩ := h
  intro a' ha'
  obtain rfl := Except.ok.inj (ha.symm.trans ha')
  exact hQ

end Ensures

end Prog
