import Mathlib.Data.List.Basic
import Mathlib.Data.Prod.Basic

/-!
# Values on a stream

A stream is the list of what is still to be read from it. A reader takes a value off its front, or
fails, and a `Codec` is a writer of values with a reader that takes back what was written, whatever
comes behind it. Then a whole list of values can be read back from what was written for it
(`Codec.readAll_flatMap`), since what one value leaves is what the next one starts from.
-/

namespace Stream

variable {α β σ τ : Type*}

/-- Takes exactly `n` off a stream, or fails. -/
def readExactly (n : ℕ) (s : List β) : Option (List β × List β) :=
  if n ≤ s.length then some (s.take n, s.drop n) else none

/-- What is in front can be read. -/
theorem readExactly_append (front rest : List β) :
    readExactly front.length (front ++ rest) = some (front, rest) := by
  simp [readExactly]

/-- What was read was in front, and had the length that was asked for. -/
theorem readExactly_eq_some {n : ℕ} {s front rest : List β}
    (h : readExactly n s = some (front, rest)) : front.length = n ∧ s = front ++ rest := by
  unfold readExactly at h
  split at h
  · rename_i hle
    cases h
    exact ⟨List.length_take_of_le hle, (List.take_append_drop n s).symm⟩
  · cases h

/-- What was read is read when more has come. -/
theorem readExactly_more {n : ℕ} {s front rest : List β} (h : readExactly n s = some (front, rest))
    (more : List β) : readExactly n (s ++ more) = some (front, rest ++ more) := by
  obtain ⟨rfl, rfl⟩ := readExactly_eq_some h
  rw [List.append_assoc, readExactly_append]

/-- Reads from a source until a read fails, or `fuel` values are read: the values, and the source
after them. -/
def readAll (read : σ → Option (α × σ)) : ℕ → σ → List α × σ
  | 0, s => ([], s)
  | fuel + 1, s =>
    match read s with
    | none => ([], s)
    | some (a, rest) => (a :: (readAll read fuel rest).1, (readAll read fuel rest).2)

/-- Where a read of one source is a read of another inside it, so are several. -/
theorem readAll_map {read : σ → Option (α × σ)} {read' : τ → Option (α × τ)} (g : σ → τ)
    (h : ∀ s, read' (g s) = (read s).map (Prod.map id g)) (fuel : ℕ) :
    ∀ s, readAll read' fuel (g s) = Prod.map id g (readAll read fuel s) := by
  induction fuel with
  | zero => exact fun s => rfl
  | succ fuel ih =>
    intro s
    rw [readAll, readAll, h]
    cases hread : read s with
    | none => rfl
    | some r =>
      obtain ⟨a, rest⟩ := r
      simp only [Option.map_some, Prod.map_apply, ih, id_eq]
      rfl

/-- A writer and a reader of values. -/
structure Codec (α β : Type*) where
  write : α → List β
  read : List β → Option (α × List β)
  /-- The values that can be written. -/
  Writable : α → Prop
  /-- What was written is read back, whatever comes behind it. -/
  read_write : ∀ a rest, Writable a → read (write a ++ rest) = some (a, rest)
  /-- Nothing is read from an empty stream. -/
  read_nil : read [] = none

/-- A list of values is read back from what was written for it, and then a read fails. -/
theorem Codec.readAll_flatMap (c : Codec α β) {as : List α} (h : ∀ a ∈ as, c.Writable a) :
    ∀ {fuel : ℕ}, as.length < fuel → readAll c.read fuel (as.flatMap c.write) = (as, []) := by
  induction as with
  | nil =>
    intro fuel hfuel
    obtain ⟨fuel, rfl⟩ := Nat.exists_eq_add_one_of_ne_zero (Nat.ne_zero_of_lt hfuel)
    simp [readAll, c.read_nil]
  | cons a as ih =>
    intro fuel hfuel
    obtain ⟨fuel, rfl⟩ := Nat.exists_eq_add_one_of_ne_zero (Nat.ne_zero_of_lt hfuel)
    have hrest := ih (fun b hb => h b (List.mem_cons_of_mem a hb)) (Nat.lt_of_succ_lt_succ hfuel)
    rw [List.flatMap_cons, readAll, c.read_write a _ (h a List.mem_cons_self)]
    simp only [hrest]

end Stream
