import Mathlib.Data.List.Basic
import Mathlib.Data.List.DropRight
import Mathlib.Data.List.Infix
import Mathlib.Algebra.Order.BigOperators.Group.List
import Mathlib.Algebra.Order.Group.Nat

/-!
# Byte strings

A C++ `std::string`, a packet payload, and a stretch of memory are all lists of bytes here, so that
embedded NULs and bytes that are not text are ordinary values. A C string is what a pointer into
such a list denotes: the bytes before the first NUL (`cString`).
-/

namespace ByteString

/-- A sequence of bytes. -/
abbrev Bytes := List UInt8

/-- The bytes of an ASCII literal. -/
def lit (s : String) : Bytes := s.toList.map fun c => c.toNat.toUInt8

/-- The C string at the start of `mem`: its bytes before the first NUL. -/
def cString (mem : Bytes) : Bytes := mem.takeWhile (· != 0)

/-- `s` without the NUL bytes that end it. -/
def stripTrailingNulls (s : Bytes) : Bytes := s.rdropWhile (· == 0)

/-- What follows the prefix `p` of `s`, and `none` where `s` does not start with `p`. -/
def consumePrefix (s p : Bytes) : Option Bytes := p.isPrefixOf? s

/-- The pieces of `s` between the separators `sep`: one more piece than there are separators, so
the empty string has one empty piece. -/
def split (sep : UInt8) (s : Bytes) : List Bytes := s.splitOn sep

/-- The pieces with the separator between them. -/
def join (sep : UInt8) (pieces : List Bytes) : Bytes := [sep].intercalate pieces

instance (s : Bytes) (l : List Bytes) : Decidable (s ∈ l) := inferInstance

/-- A natural number in decimal. -/
def decimal (n : ℕ) : Bytes := (Nat.toDigits 10 n).map fun c => c.toNat.toUInt8

/-- A C string is a prefix of the memory that it is read from. -/
theorem cString_isPrefix (mem : Bytes) : cString mem <+: mem := List.takeWhile_prefix _

/-- Memory without a NUL is its own C string, and memory with one is not. -/
theorem cString_eq_self_iff (mem : Bytes) : cString mem = mem ↔ 0 ∉ mem := by
  rw [cString, List.takeWhile_eq_self_iff]
  constructor
  · intro h hmem
    simpa using h 0 hmem
  · intro h b hb
    have hne : b ≠ 0 := fun h0 => h (h0 ▸ hb)
    simpa using hne

/-- A string is one piece exactly when it has no separator, and the piece is the string. -/
theorem split_eq_singleton_iff {sep : UInt8} {s p : Bytes} :
    split sep s = [p] ↔ p = s ∧ sep ∉ s := by
  unfold split
  constructor
  · intro h
    have hnot : sep ∉ s := by
      intro hmem
      obtain ⟨xs, ys, rfl⟩ := List.append_of_mem hmem
      rw [List.splitOn_append_cons_self] at h
      have hlen := congrArg List.length h
      have hxs := List.length_pos_iff.mpr (List.splitOn_ne_nil sep xs)
      have hys := List.length_pos_iff.mpr (List.splitOn_ne_nil sep ys)
      rw [List.length_append, List.length_singleton] at hlen
      omega
    rw [List.splitOn_eq_singleton hnot] at h
    exact ⟨(List.singleton_inj.mp h).symm, hnot⟩
  · rintro ⟨rfl, hnot⟩
    exact List.splitOn_eq_singleton hnot

/-- Pieces without a separator are got back from the string that they are joined to. -/
theorem split_join {sep : UInt8} {pieces : List Bytes} (hpieces : ∀ p ∈ pieces, sep ∉ p)
    (hne : pieces ≠ []) : split sep (join sep pieces) = pieces :=
  List.splitOn_intercalate sep hpieces hne

/-- A byte that is in no piece and is not the separator is not in the string that the pieces are
joined to. -/
theorem not_mem_join {sep b : UInt8} {pieces : List Bytes} (hsep : b ≠ sep)
    (h : ∀ p ∈ pieces, b ∉ p) : b ∉ join sep pieces := by
  induction pieces with
  | nil => exact List.not_mem_nil
  | cons p pieces ih =>
    have hp := h p List.mem_cons_self
    have hrest := ih fun q hq => h q (List.mem_cons_of_mem p hq)
    cases pieces with
    | nil => rwa [join, List.intercalate_singleton]
    | cons q pieces =>
      rw [join, List.intercalate_cons_cons, List.mem_append, List.mem_append, List.mem_singleton]
      rintro ((hmem | hmem) | hmem)
      · exact hp hmem
      · exact hsep hmem
      · exact hrest hmem

/-- What is before the first separator is the first piece. -/
theorem split_append_of_not_mem {sep : UInt8} {p : Bytes} (hp : sep ∉ p) (s : Bytes) :
    split sep (p ++ sep :: s) = p :: split sep s :=
  List.splitOn_append_cons_self_of_not_mem hp s

/-- Lines without a separator, each followed by one, are got back from the text. -/
theorem split_lines {α : Type*} {sep : UInt8} {f : α → Bytes} {l : List α}
    (h : ∀ a ∈ l, sep ∉ f a) : split sep (l.flatMap fun a => f a ++ [sep]) = l.map f ++ [[]] := by
  induction l with
  | nil => exact split_eq_singleton_iff.mpr ⟨rfl, List.not_mem_nil⟩
  | cons a l ih =>
    have hrest := ih fun b hb => h b (List.mem_cons_of_mem a hb)
    calc split sep ((a :: l).flatMap fun a => f a ++ [sep])
        = split sep (f a ++ sep :: l.flatMap fun a => f a ++ [sep]) := by
          rw [List.flatMap_cons, List.append_assoc, List.singleton_append]
      _ = f a :: split sep (l.flatMap fun a => f a ++ [sep]) :=
          split_append_of_not_mem (h a List.mem_cons_self) _
      _ = (a :: l).map f ++ [[]] := by rw [hrest, List.map_cons, List.cons_append]

/-- `text` is what follows the last occurrence of `pattern` in `s`. -/
def AfterLast (pattern s text : Bytes) : Prop :=
  ∃ before, s = before ++ pattern ++ text ∧
    ∀ before' text', s = before' ++ pattern ++ text' → before'.length ≤ before.length

/-- An occurrence is the last one where the first byte of the pattern occurs neither in the rest of
the pattern nor behind it. -/
theorem afterLast_append {b : UInt8} {p text : Bytes} (hp : b ∉ p) (ht : b ∉ text)
    (before : Bytes) : AfterLast (b :: p) (before ++ b :: p ++ text) text := by
  refine ⟨before, rfl, fun before' text' h => ?_⟩
  by_contra hlater
  have hget : (before ++ b :: p ++ text)[before'.length]? = some b := by
    rw [h, List.append_assoc, List.cons_append, List.getElem?_append_right (le_refl _),
      Nat.sub_self, List.getElem?_cons_zero]
  obtain ⟨k, hk⟩ : ∃ k, before'.length = before.length + 1 + k :=
    ⟨before'.length - before.length - 1, by omega⟩
  -- A later occurrence would start inside the pattern or behind it.
  have hmem : b ∈ p ++ text := by
    have hpos : before'.length - before.length = k + 1 := by omega
    rw [List.append_assoc, List.getElem?_append_right (by omega), hpos, List.cons_append,
      List.getElem?_cons_succ] at hget
    exact List.mem_of_getElem? hget
  exact (List.mem_append.mp hmem).elim hp ht

/-- A decimal digit is a byte. -/
theorem toDigits_digit {n : ℕ} {c : Char} (hc : c ∈ Nat.toDigits 10 n) :
    (48 ≤ c.toNat ∧ c.toNat ≤ 57) ∧ c.toNat.toUInt8.toNat = c.toNat := by
  have hdigit := Nat.isDigit_of_mem_toDigits (by omega) (by omega) hc
  have hrange : 48 ≤ c.toNat ∧ c.toNat ≤ 57 := by
    simpa [Char.isDigit, UInt32.le_iff_toNat_le] using hdigit
  exact ⟨hrange, Nat.mod_eq_of_lt (by omega)⟩

/-- A number in decimal is made of digits. -/
theorem decimal_digit {n : ℕ} {b : UInt8} (hb : b ∈ decimal n) :
    48 ≤ b.toNat ∧ b.toNat ≤ 57 := by
  obtain ⟨c, hc, rfl⟩ := List.mem_map.mp hb
  obtain ⟨hrange, hbyte⟩ := toDigits_digit hc
  omega

/-- A piece is made of bytes of the string, and has no separator. -/
theorem mem_split {sep : UInt8} {s p : Bytes} (hp : p ∈ split sep s) : sep ∉ p ∧ p ⊆ s := by
  induction s generalizing p with
  | nil =>
    obtain rfl : p = [] := by simpa [split] using hp
    simp
  | cons x s ih =>
    unfold split at hp ih
    rw [List.splitOn_cons_eq_if_modifyHead] at hp
    by_cases hx : x = sep
    · rw [if_pos (by simpa using hx)] at hp
      obtain rfl | hp := List.mem_cons.mp hp
      · simp
      · exact ⟨(ih hp).1, List.subset_cons_of_subset x (ih hp).2⟩
    · rw [if_neg (by simpa using hx)] at hp
      obtain ⟨q, qs, hsplit⟩ := List.exists_cons_of_ne_nil (List.splitOn_ne_nil sep s)
      rw [hsplit] at ih hp
      obtain rfl | hp := List.mem_cons.mp hp
      · -- The first piece, which `x` is put in front of.
        obtain ⟨hq, hsub⟩ := ih List.mem_cons_self
        exact ⟨by simp [Ne.symm hx, hq], List.cons_subset_cons x hsub⟩
      · obtain ⟨hq, hsub⟩ := ih (List.mem_cons_of_mem q hp)
        exact ⟨hq, List.subset_cons_of_subset x hsub⟩

/-- What `consumePrefix` leaves is the rest of the string. -/
theorem consumePrefix_eq_some_iff {s p rest : Bytes} :
    consumePrefix s p = some rest ↔ s = p ++ rest :=
  List.isPrefixOf?_eq_some_iff_append_eq.trans eq_comm

/-- Shortening each chunk of a sequence leaves the concatenation unchanged only when it leaves each
chunk unchanged. -/
theorem flatMap_prefix_eq_iff {α β : Type*} {f g : α → List β} {l : List α}
    (h : ∀ a ∈ l, f a <+: g a) : l.flatMap f = l.flatMap g ↔ ∀ a ∈ l, f a = g a := by
  induction l with
  | nil => simp
  | cons a l ih =>
    have hl : ∀ b ∈ l, f b <+: g b := fun b hb => h b (List.mem_cons_of_mem a hb)
    constructor
    · intro heq
      have hlen := congrArg List.length heq
      have hle : (l.flatMap f).length ≤ (l.flatMap g).length := by
        simp only [List.length_flatMap]
        exact List.sum_le_sum fun b hb => (hl b hb).length_le
      have ha := h a List.mem_cons_self
      simp only [List.flatMap_cons, List.length_append] at hlen
      have hfa : f a = g a := ha.eq_of_length (by have := ha.length_le; omega)
      simp only [List.flatMap_cons, hfa, List.append_cancel_left_eq] at heq
      exact List.forall_mem_cons.mpr ⟨hfa, (ih hl).mp heq⟩
    · intro heq
      rw [List.flatMap_cons, List.flatMap_cons, heq a List.mem_cons_self,
        (ih hl).mpr fun b hb => heq b (List.mem_cons_of_mem a hb)]

/-- Writing `src` into `block` at the offset `off`. -/
def overwrite (block : Bytes) (off : ℕ) (src : Bytes) : Bytes :=
  block.take off ++ src ++ block.drop (off + src.length)

end ByteString
