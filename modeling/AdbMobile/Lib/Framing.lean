import Mathlib.Data.List.Basic

/-!
# Frames in a stream

A stream is cut into frames by a function that says of a list of symbols that there is a frame at
its front, that there may be one when more symbols come, or that there is none (`Cut`). In a
`Framing` a frame is not empty, and what is said of a list is said of every longer one, unless it is
that more symbols have to come.

So the frames of a stream are fixed (`frames`), and whoever takes frames off its front, in whatever
pieces the symbols come, takes those (`Leads.frames_eq`).
-/

/-- What is at the front of a list of symbols. -/
inductive Cut (α β : Type*)
  | frame (b : β) (rest : List α)
  | incomplete
  | malformed
  deriving DecidableEq

/-- What is at the front when more symbols come. -/
def Cut.extend {α β : Type*} (more : List α) : Cut α β → Cut α β
  | .frame b rest => .frame b (rest ++ more)
  | .incomplete => .incomplete
  | .malformed => .malformed

/-- A way to cut streams into frames. -/
structure Framing (α β : Type*) where
  cut : List α → Cut α β
  shorter : ∀ {s b rest}, cut s = .frame b rest → rest.length < s.length
  stable : ∀ {s}, cut s ≠ .incomplete → ∀ more, cut (s ++ more) = (cut s).extend more

namespace Framing

variable {α β : Type*} (F : Framing α β)

/-- The frames of a stream, up to one that is incomplete or malformed. -/
def frames (s : List α) : List β :=
  match h : F.cut s with
  | .frame b rest =>
    have _ := F.shorter h
    b :: frames rest
  | .incomplete | .malformed => []
termination_by s.length

/-- Taking these frames off the front of a stream leaves the rest. -/
inductive Leads : List α → List β → List α → Prop
  | nil (s : List α) : Leads s [] s
  | cons {s : List α} {b : β} {rest : List α} {bs : List β} {s' : List α}
      (hcut : F.cut s = .frame b rest) (hrest : Leads rest bs s') : Leads s (b :: bs) s'

variable {F}

theorem frames_of_frame {s : List α} {b : β} {rest : List α} (h : F.cut s = .frame b rest) :
    F.frames s = b :: F.frames rest := by
  rw [frames]
  split
  · rename_i b' rest' h'
    cases h.symm.trans h'
    rfl
  · rename_i h'
    cases h.symm.trans h'
  · rename_i h'
    cases h.symm.trans h'

/-- One frame. -/
theorem Leads.single {s : List α} {b : β} {rest : List α} (h : F.cut s = .frame b rest) :
    F.Leads s [b] rest := .cons h (.nil rest)

theorem Leads.trans {s : List α} {bs : List β} {s' : List α} {bs' : List β} {s'' : List α}
    (h : F.Leads s bs s') (h' : F.Leads s' bs' s'') : F.Leads s (bs ++ bs') s'' := by
  induction h with
  | nil => exact h'
  | cons hcut _ ih => exact .cons hcut (ih h')

/-- The frames that are taken off the front of a stream are its first ones. -/
theorem Leads.frames_eq {s : List α} {bs : List β} {rest : List α} (h : F.Leads s bs rest) :
    F.frames s = bs ++ F.frames rest := by
  induction h with
  | nil => rfl
  | cons hcut _ ih => rw [frames_of_frame hcut, ih, List.cons_append]

/-- A frame in what has come of a stream is one of the stream. -/
theorem cut_of_frame {s : List α} {b : β} {rest : List α} (h : F.cut s = .frame b rest)
    (more : List α) : F.cut (s ++ more) = .frame b (rest ++ more) := by
  have hne : F.cut s ≠ .incomplete := by
    rw [h]
    exact fun hcontra => nomatch hcontra
  rw [F.stable hne, h, Cut.extend]

/-- Frames that are taken off a stream are taken off it when more has come. -/
theorem Leads.append {s : List α} {bs : List β} {rest : List α} (h : F.Leads s bs rest)
    (more : List α) : F.Leads (s ++ more) bs (rest ++ more) := by
  induction h with
  | nil s => exact .nil (s ++ more)
  | cons hcut _ ih => exact .cons (cut_of_frame hcut more) ih

/-- Frames that are taken off the first part of a stream are its first ones. -/
theorem Leads.prefix_frames {s : List α} {bs : List β} {rest whole : List α}
    (h : F.Leads s bs rest) (hs : s <+: whole) : bs <+: F.frames whole := by
  obtain ⟨more, rfl⟩ := hs
  rw [(h.append more).frames_eq]
  exact List.prefix_append _ _

/-- The frames of values that were written one after the other are the values. -/
theorem frames_flatMap (write : β → List α) {bs : List β} (hnil : F.cut [] = .incomplete)
    (hcut : ∀ b ∈ bs, ∀ rest, F.cut (write b ++ rest) = .frame b rest) :
    F.frames (bs.flatMap write) = bs := by
  induction bs with
  | nil =>
    rw [List.flatMap_nil, frames]
    split
    · rename_i h
      cases h.symm.trans hnil
    · rfl
    · rfl
  | cons b bs ih =>
    have hrest := ih fun b' hb' => hcut b' (List.mem_cons_of_mem b hb')
    rw [List.flatMap_cons, frames_of_frame (hcut b List.mem_cons_self _), hrest]

end Framing
