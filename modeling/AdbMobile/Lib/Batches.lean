import Mathlib.Data.List.Basic

/-!
# Batches

A list is cut into batches greedily: an element goes into the batch that is open, and one that does
not fit there closes it and opens the next. Nothing is lost and nothing changes its place
(`batches_flatten`). What each element that fits leaves a batch with, every batch has, and no batch
is empty (`batches_keep`).
-/

namespace Batches

variable {α : Type*}

/-- The batches of a list, from the one that is open on. At the end a batch is closed if it has
anything. -/
def batches (fits : List α → α → Bool) : List α → List α → List (List α)
  | batch, [] => if batch.isEmpty then [] else [batch]
  | batch, a :: as =>
    if fits batch a then batches fits (batch ++ [a]) as else batch :: batches fits [a] as

/-- The batches have the elements of the list, in order. -/
theorem batches_flatten (fits : List α → α → Bool) (as : List α) :
    ∀ batch, (batches fits batch as).flatten = batch ++ as := by
  induction as with
  | nil =>
    intro batch
    cases batch <;> simp [batches]
  | cons a as ih =>
    intro batch
    rw [batches]
    split
    · rw [ih, List.append_assoc, List.singleton_append]
    · rw [List.flatten_cons, ih, List.singleton_append]

/-- If every element fits into a batch of its own, then a property that holds of a batch after each
element that fits holds of every batch, and none is empty. -/
theorem batches_keep {fits : List α → α → Bool} {P : List α → Prop} {as : List α}
    (halone : ∀ a ∈ as, fits [] a) (hfits : ∀ batch, ∀ a ∈ as, fits batch a → P (batch ++ [a])) :
    ∀ {batch}, (batch ≠ [] → P batch) → ∀ b ∈ batches fits batch as, b ≠ [] ∧ P b := by
  induction as with
  | nil =>
    intro batch hbatch b hb
    cases batch with
    | nil => simp [batches] at hb
    | cons a batch =>
      obtain rfl : b = a :: batch := by simpa [batches] using hb
      exact ⟨List.cons_ne_nil a batch, hbatch (List.cons_ne_nil a batch)⟩
  | cons a as ih =>
    intro batch hbatch b hb
    have hrest := @ih (fun b hb => halone b (List.mem_cons_of_mem a hb))
      fun batch b hb => hfits batch b (List.mem_cons_of_mem a hb)
    rw [batches] at hb
    split at hb
    · rename_i hfit
      exact hrest (fun _ => hfits batch a List.mem_cons_self hfit) b hb
    · rename_i hfull
      -- What does not fit into the open batch would have fit into an empty one.
      have hne : batch ≠ [] := by
        rintro rfl
        exact hfull (halone a List.mem_cons_self)
      obtain rfl | hb := List.mem_cons.mp hb
      · exact ⟨hne, hbatch hne⟩
      · have hopen : P [a] := hfits [] a List.mem_cons_self (halone a List.mem_cons_self)
        exact hrest (fun _ => hopen) b hb

end Batches
