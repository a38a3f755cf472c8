import AdbMobile.Lib.Run
import AdbMobile.Lib.Stream

/-!
# Messages that are read by what came before them

Where a protocol has no tag that tells all its messages apart, what the next bytes mean depends on
the messages before them. A `Dialect` is a machine that says which messages may come in a state,
with a writer, and with a reader that is told the state. A sequence of messages that the machine
takes is read back from what was written for it, and the reader is then where the machine is
(`Dialect.readAll_flatMap`).
-/

namespace Stream

/-- A language of messages with a state: what was written for a message that may come is read back,
whatever comes behind it. -/
structure Dialect (φ α β : Type*) where
  /-- The state after a message, and `none` for one that may not come. -/
  next : φ → α → Option φ
  write : α → List β
  read : φ → List β → Option (α × List β)
  read_write : ∀ q a q' rest, next q a = some q' → read q (write a ++ rest) = some (a, rest)
  /-- Nothing is read from an empty stream. -/
  read_nil : ∀ q, read q [] = none

namespace Dialect

variable {φ α β : Type*} (d : Dialect φ α β)

/-- Reads a message, and goes on to the state after it. -/
def readNext (s : φ × List β) : Option (α × (φ × List β)) :=
  (d.read s.1 s.2).bind fun r => (d.next s.1 r.1).map fun q => (r.1, (q, r.2))

/-- Messages that may come are read back from what was written for them, and then a read fails. -/
theorem readAll_flatMap {as : List α} : ∀ {q q' : φ}, Run.run d.next q as = some q' →
    ∀ {fuel : ℕ}, as.length < fuel →
      readAll d.readNext fuel (q, as.flatMap d.write) = (as, (q', [])) := by
  induction as with
  | nil =>
    intro q q' hrun fuel hfuel
    cases hrun
    obtain ⟨fuel, rfl⟩ := Nat.exists_eq_add_one_of_ne_zero (Nat.ne_zero_of_lt hfuel)
    simp [readAll, readNext, d.read_nil]
  | cons a as ih =>
    intro q q' hrun fuel hfuel
    obtain ⟨fuel, rfl⟩ := Nat.exists_eq_add_one_of_ne_zero (Nat.ne_zero_of_lt hfuel)
    obtain ⟨q₁, hnext, hrun⟩ := Option.bind_eq_some_iff.mp hrun
    have hone : d.readNext (q, (a :: as).flatMap d.write) = some (a, (q₁, as.flatMap d.write)) := by
      rw [readNext, List.flatMap_cons, d.read_write q a q₁ _ hnext, Option.bind_some, hnext]
      rfl
    have hrest := ih hrun (Nat.lt_of_succ_lt_succ hfuel)
    rw [readAll, hone]
    simp only [hrest]

end Dialect

end Stream
