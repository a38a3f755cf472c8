import Mathlib.Data.List.Basic
import Mathlib.Data.Option.Basic
import Mathlib.Logic.Relation
import Mathlib.Order.RelClasses

/-!
# Walks that are driven from outside

A walk visits a node, records what it finds there, and goes on to the children that the node has,
each with what is below it before the next. What a node has is a function of the node (`expand`),
which can unfold without end, and a node that cannot be expanded ends the whole walk.

A child is only visited when everything before it has been walked to its end. So the walk terminates
exactly when no chain of children in their turn is infinite (`terminates_iff_acc`): a measure that
grows along such chains and is bounded makes it terminate, and a node that is its own child keeps it
from terminating.
-/

namespace DepthFirst

variable {α β : Type*}

/-- Visits nodes one after the other until one of them fails: whether none did, and what was
recorded. `none` stands for a visit that has not ended. -/
def walkAll (visit : α → Option (Bool × List β)) : List α → Option (Bool × List β)
  | [] => some (true, [])
  | a :: as =>
    match visit a with
    | none => none
    | some (false, found) => some (false, found)
    | some (true, found) => (walkAll visit as).map fun r => (r.1, found ++ r.2)

variable (expand : α → List β × Option (List α))

/-- The walk from a node, as far as it gets within a number of levels. -/
def walk : ℕ → α → Option (Bool × List β)
  | 0, _ => none
  | n + 1, a =>
    match (expand a).2 with
    | none => some (false, (expand a).1)
    | some children => (walkAll (walk n) children).map fun r => (r.1, (expand a).1 ++ r.2)

/-- The walk from a node ends, and nothing in it fails. -/
inductive Completes : α → Prop
  | intro {a : α} {children : List α} (hexpand : (expand a).2 = some children)
      (hchildren : ∀ b ∈ children, Completes b) : Completes a

/-- A child whose turn comes: what is before it is completed. -/
def InTurn (a b : α) : Prop :=
  ∃ before after, (expand a).2 = some (before ++ b :: after) ∧ ∀ x ∈ before, Completes expand x

/-- The nodes that a walk comes to. -/
abbrev Reaches (a b : α) : Prop := Relation.ReflTransGen (InTurn expand) a b

variable {expand}

/-! ## Levels -/

/-- What a sequence of visits gives does not change where each visit that has ended gives the
same. -/
theorem walkAll_mono {visit visit' : α → Option (Bool × List β)} {as : List α}
    (h : ∀ a ∈ as, ∀ r, visit a = some r → visit' a = some r) {r : Bool × List β}
    (hr : walkAll visit as = some r) : walkAll visit' as = some r := by
  induction as generalizing r with
  | nil => exact hr
  | cons a as ih =>
    rw [walkAll] at hr ⊢
    cases hvisit : visit a with
    | none => rw [hvisit] at hr; cases hr
    | some first =>
      rw [hvisit] at hr
      rw [h a List.mem_cons_self first hvisit]
      obtain ⟨ok, found⟩ := first
      cases ok with
      | false => exact hr
      | true =>
        obtain ⟨rest, hrest, rfl⟩ := Option.map_eq_some_iff.mp hr
        rw [ih (fun b hb => h b (List.mem_cons_of_mem a hb)) hrest]
        rfl

/-- More levels give the same. -/
theorem walk_succ {n : ℕ} : ∀ {a : α} {r : Bool × List β}, walk expand n a = some r →
    walk expand (n + 1) a = some r := by
  induction n with
  | zero => exact fun h => nomatch h
  | succ n ih =>
    intro a r h
    rw [walk] at h ⊢
    cases hexpand : (expand a).2 with
    | none => rw [hexpand] at h; exact h
    | some children =>
      rw [hexpand] at h
      obtain ⟨below, hbelow, rfl⟩ := Option.map_eq_some_iff.mp h
      simp only [walkAll_mono (fun b _ r hr => ih hr) hbelow, Option.map_some]

theorem walk_mono {n m : ℕ} (hle : n ≤ m) {a : α} {r : Bool × List β}
    (h : walk expand n a = some r) : walk expand m a = some r := by
  induction hle with
  | refl => exact h
  | step _ ih => exact walk_succ ih

/-- Two walks that have both ended agree. -/
theorem walk_unique {n m : ℕ} {a : α} {r r' : Bool × List β} (h : walk expand n a = some r)
    (h' : walk expand m a = some r') : r = r' := by
  have hn := walk_mono (Nat.le_max_left n m) h
  have hm := walk_mono (Nat.le_max_right n m) h'
  exact Option.some.inj (hn.symm.trans hm)

/-- Where the nodes of one walk are nodes of another with the corresponding children, the two end
together, and fail together. -/
theorem walk_map {γ δ : Type*} {expand' : γ → List δ × Option (List γ)} (f : α → γ)
    (hf : ∀ a, (expand' (f a)).2 = (expand a).2.map (List.map f)) (n : ℕ) : ∀ a,
    (walk expand' n (f a)).map Prod.fst = (walk expand n a).map Prod.fst := by
  induction n with
  | zero => exact fun _ => rfl
  | succ n ih =>
    -- The children are walked in order, up to the first that fails.
    have hall : ∀ as : List α, (walkAll (walk expand' n) (as.map f)).map Prod.fst =
        (walkAll (walk expand n) as).map Prod.fst := by
      intro as
      induction as with
      | nil => rfl
      | cons a as ihas =>
        have ha := ih a
        rw [List.map_cons, walkAll, walkAll]
        cases hwalk : walk expand n a with
        | none =>
          rw [hwalk, Option.map_none, Option.map_eq_none_iff] at ha
          rw [ha]
          rfl
        | some r =>
          obtain ⟨ok, found⟩ := r
          rw [hwalk, Option.map_some, Option.map_eq_some_iff] at ha
          obtain ⟨⟨ok', found'⟩, hwalk', rfl⟩ := ha
          rw [hwalk']
          cases ok' with
          | false => rfl
          | true => simpa [Option.map_map, Function.comp_def] using ihas
    intro a
    rw [walk, walk, hf]
    cases (expand a).2 with
    | none => rfl
    | some children => simpa [Option.map_map, Function.comp_def] using hall children

/-! ## Visits one after the other -/

section Visits

variable {visit : α → Option (Bool × List β)}

/-- Where none has failed, all have ended without failing. -/
theorem walkAll_true {as : List α} {found : List β} (h : walkAll visit as = some (true, found)) :
    ∀ a ∈ as, ∃ found, visit a = some (true, found) := by
  induction as generalizing found with
  | nil => exact fun a ha => absurd ha List.not_mem_nil
  | cons a as ih =>
    rw [walkAll] at h
    cases hvisit : visit a with
    | none => rw [hvisit] at h; cases h
    | some first =>
      obtain ⟨ok, first⟩ := first
      rw [hvisit] at h
      cases ok with
      | false => cases h
      | true =>
        obtain ⟨⟨ok, rest⟩, hrest, heq⟩ := Option.map_eq_some_iff.mp h
        cases heq
        exact List.forall_mem_cons.mpr ⟨⟨first, hvisit⟩, ih hrest⟩

/-- Then what was recorded is what each of them has recorded. -/
theorem walkAll_found {as : List α} {found : List β} (h : walkAll visit as = some (true, found)) :
    found = as.flatMap fun a => ((visit a).map Prod.snd).getD [] := by
  induction as generalizing found with
  | nil =>
    cases h
    rfl
  | cons a as ih =>
    rw [walkAll] at h
    cases hvisit : visit a with
    | none => rw [hvisit] at h; cases h
    | some first =>
      obtain ⟨ok, first⟩ := first
      rw [hvisit] at h
      cases ok with
      | false => cases h
      | true =>
        obtain ⟨⟨ok, rest⟩, hrest, heq⟩ := Option.map_eq_some_iff.mp h
        cases heq
        rw [List.flatMap_cons, hvisit, ← ih hrest]
        rfl

/-- A visit whose turn has come has ended. -/
theorem visit_of_walkAll {before after : List α} {b : α} {r : Bool × List β}
    (h : walkAll visit (before ++ b :: after) = some r)
    (hbefore : ∀ x ∈ before, ∀ found, visit x ≠ some (false, found)) :
    ∃ r', visit b = some r' := by
  induction before generalizing r with
  | nil =>
    rw [List.nil_append, walkAll] at h
    cases hvisit : visit b with
    | none => rw [hvisit] at h; cases h
    | some r' => exact ⟨r', rfl⟩
  | cons a before ih =>
    rw [List.cons_append, walkAll] at h
    cases hvisit : visit a with
    | none => rw [hvisit] at h; cases h
    | some first =>
      obtain ⟨ok, first⟩ := first
      rw [hvisit] at h
      cases ok with
      | false => exact absurd hvisit (hbefore a List.mem_cons_self first)
      | true =>
        obtain ⟨rest, hrest, -⟩ := Option.map_eq_some_iff.mp h
        exact ih hrest fun x hx => hbefore x (List.mem_cons_of_mem a hx)

/-- Visits that have ended, up to one that failed, are a sequence that has ended. -/
theorem walkAll_cons_of_visit {a : α} {as : List α} {ok : Bool} {first : List β}
    (hvisit : visit a = some (ok, first)) {rest : Bool × List β}
    (hrest : ok = true → walkAll visit as = some rest) : ∃ r, walkAll visit (a :: as) = some r := by
  rw [walkAll, hvisit]
  cases ok with
  | false => exact ⟨_, rfl⟩
  | true =>
    rw [hrest rfl]
    exact ⟨_, rfl⟩

end Visits

/-! ## Termination -/

/-- A walk that has ended without failing is completed. -/
theorem completes_of_walk {n : ℕ} : ∀ {a : α} {found : List β},
    walk expand n a = some (true, found) → Completes expand a := by
  induction n with
  | zero => exact fun h => nomatch h
  | succ n ih =>
    intro a found h
    rw [walk] at h
    cases hexpand : (expand a).2 with
    | none => rw [hexpand] at h; cases h
    | some children =>
      rw [hexpand] at h
      obtain ⟨⟨ok, below⟩, hbelow, heq⟩ := Option.map_eq_some_iff.mp h
      cases heq
      refine .intro hexpand fun b hb => ?_
      obtain ⟨found, hfound⟩ := walkAll_true hbelow b hb
      exact ih hfound

/-- A completed walk has ended without failing. -/
theorem walk_of_completes {a : α} (h : Completes expand a) :
    ∃ n found, walk expand n a = some (true, found) := by
  induction h with
  | @intro a children hexpand hchildren ih =>
    have hall : ∀ as ⊆ children, ∃ n found, walkAll (walk expand n) as = some (true, found) := by
      intro as
      induction as with
      | nil => exact fun _ => ⟨0, [], rfl⟩
      | cons b as ihas =>
        intro hsub
        obtain ⟨n, first, hfirst⟩ := ih b (hsub List.mem_cons_self)
        obtain ⟨m, rest, hrest⟩ := ihas (List.subset_of_cons_subset hsub)
        have hrest' := walkAll_mono (fun b _ r hr => walk_mono (Nat.le_max_right n m) hr) hrest
        refine ⟨max n m, first ++ rest, ?_⟩
        rw [walkAll, walk_mono (Nat.le_max_left n m) hfirst]
        simp only [hrest', Option.map_some]
    obtain ⟨n, below, hbelow⟩ := hall children (List.Subset.refl _)
    refine ⟨n + 1, (expand a).1 ++ below, ?_⟩
    rw [walk, hexpand]
    simp only [hbelow, Option.map_some]

/-- What is completed does not fail. -/
theorem Completes.not_fails {a : α} (h : Completes expand a) {n : ℕ} {found : List β} :
    walk expand n a ≠ some (false, found) := by
  intro hfails
  obtain ⟨m, found', hcompletes⟩ := walk_of_completes h
  cases walk_unique hfails hcompletes

/-- The walk terminates exactly when there is no infinite chain of children in their turn. -/
theorem terminates_iff_acc {a : α} :
    (∃ n r, walk expand n a = some r) ↔ Acc (fun b a => InTurn expand a b) a := by
  constructor
  · rintro ⟨n, r, h⟩
    induction n generalizing a r with
    | zero => cases h
    | succ n ih =>
      refine .intro a ?_
      rintro b ⟨before, after, hexpand, hbefore⟩
      rw [walk, hexpand] at h
      obtain ⟨below, hbelow, -⟩ := Option.map_eq_some_iff.mp h
      obtain ⟨r', hr'⟩ := visit_of_walkAll hbelow fun x hx found => (hbefore x hx).not_fails
      exact ih r' hr'
  · intro h
    induction h with
    | intro a _ ih =>
      cases hexpand : (expand a).2 with
      | none => exact ⟨1, (false, (expand a).1), by rw [walk, hexpand]⟩
      | some children =>
        -- The children that are left, when those before them are completed.
        have hrest : ∀ rest before, children = before ++ rest →
            (∀ x ∈ before, Completes expand x) → ∃ n r, walkAll (walk expand n) rest = some r := by
          intro rest
          induction rest with
          | nil => exact fun _ _ _ => ⟨0, _, rfl⟩
          | cons b rest ihrest =>
            intro before hchildren hbefore
            obtain ⟨n, ⟨ok, first⟩, hfirst⟩ := ih b ⟨before, rest, hchildren ▸ hexpand, hbefore⟩
            cases ok with
            | false =>
              -- The rest is not looked at, whatever it would be.
              have hunvisited : false = true →
                  walkAll (walk expand n) rest = some (true, []) := nofun
              exact ⟨n, walkAll_cons_of_visit hfirst hunvisited⟩
            | true =>
              obtain ⟨m, r, hr⟩ := ihrest (before ++ [b]) (by simp [hchildren]) (by
                intro x hx
                obtain hx | hx := List.mem_append.mp hx
                · exact hbefore x hx
                · rw [List.mem_singleton.mp hx]
                  exact completes_of_walk hfirst)
              have hr' := walkAll_mono (fun b _ r hr => walk_mono (Nat.le_max_right n m) hr) hr
              exact ⟨max n m, walkAll_cons_of_visit
                (walk_mono (Nat.le_max_left n m) hfirst) fun _ => hr'⟩
        obtain ⟨n, r, hr⟩ := hrest children [] rfl (by simp)
        refine ⟨n + 1, (r.1, (expand a).1 ++ r.2), ?_⟩
        rw [walk, hexpand]
        simp only [hr, Option.map_some]

/-- A node that is its own child in turn keeps every walk that comes to it from terminating. -/
theorem not_terminates_of_loop {a b : α} (hreaches : Reaches expand a b)
    (hloop : InTurn expand b b) :
    ¬ ∃ n r, walk expand n a = some r := by
  rw [terminates_iff_acc]
  intro hacc
  have hb : Acc (fun b a => InTurn expand a b) b := by
    clear hloop
    induction hreaches with
    | refl => exact hacc
    | tail _ hstep ih => exact ih.inv hstep
  clear hreaches
  induction hb with
  | intro b _ ih => exact ih b hloop hloop

/-- A measure that grows from each node to its children in turn, and is bounded where there are any,
makes a walk terminate. -/
theorem terminates_of_measure {a : α} (μ : α → ℕ) (N : ℕ)
    (hgrows : ∀ b c, Reaches expand a b → InTurn expand b c → μ b < μ c)
    (hbound : ∀ b c, InTurn expand b c → μ b ≤ N) : ∃ n r, walk expand n a = some r := by
  rw [terminates_iff_acc]
  have hacc : ∀ k b, Reaches expand a b → N + 1 - μ b ≤ k →
      Acc (fun b a => InTurn expand a b) b := by
    intro k
    induction k with
    | zero =>
      intro b _ hk
      refine .intro b fun c hc => ?_
      have hle := hbound b c hc
      omega
    | succ k ih =>
      intro b hb hk
      refine .intro b fun c hc => ih c (hb.tail hc) ?_
      have hlt := hgrows b c hb hc
      omega
  exact hacc (N + 1 - μ a) a .refl (Nat.le_refl _)

/-- Where a measure grows from a node to every child that is another node, and is bounded, a walk
terminates exactly when it comes to no node that is its own child. -/
theorem terminates_iff_no_loop {a : α} (μ : α → ℕ) (N : ℕ)
    (hgrows : ∀ b c, InTurn expand b c → b = c ∨ μ b < μ c)
    (hbound : ∀ b c, InTurn expand b c → μ b ≤ N) :
    (∃ n r, walk expand n a = some r) ↔ ∀ b, Reaches expand a b → ¬ InTurn expand b b := by
  constructor
  · exact fun hends b hreaches hloop => not_terminates_of_loop hreaches hloop hends
  · refine fun hnone => terminates_of_measure μ N (fun b c hreaches hc => ?_) hbound
    obtain rfl | hlt := hgrows b c hc
    · exact absurd hc (hnone b hreaches)
    · exact hlt

end DepthFirst
