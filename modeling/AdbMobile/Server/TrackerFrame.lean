import AdbMobile.Lib.Framing
import AdbMobile.Server.HostRequest

/-!
# The frames of a device tracker

`device_tracker_send` puts the length of a text in front of it, as four hexadecimal digits. The
digits are printed by `snprintf` into five bytes, which cuts off the fifth digit and those behind
it. The client decodes a stream of frames by the digits.

A stream of frames is decoded to the texts that were sent exactly when each of them is shorter than
`2^16` bytes (`leads_trackerFrames_iff`).
-/

namespace AdbMobile

open ByteString
open HostRequest (hex4)

/-! ## Hexadecimal numbers -/

/-- The value of a hexadecimal digit. -/
def hexValue (b : UInt8) : Option ℕ :=
  if 48 ≤ b ∧ b ≤ 57 then some (b.toNat - 48)
  else if 97 ≤ b ∧ b ≤ 102 then some (b.toNat - 87)
  else if 65 ≤ b ∧ b ≤ 70 then some (b.toNat - 55)
  else none

/-- The number that hexadecimal digits denote, after those that denote `n`. -/
def hexNumberFrom (n : ℕ) : Bytes → Option ℕ
  | [] => some n
  | b :: digits => do hexNumberFrom (16 * n + (← hexValue b)) digits

theorem hexValue_lt {b : UInt8} {d : ℕ} (h : hexValue b = some d) : d < 16 := by
  have hle : ∀ c : UInt8, b ≤ c → b.toNat ≤ c.toNat := fun c => UInt8.le_iff_toNat_le.mp
  unfold hexValue at h
  split at h
  · obtain rfl := Option.some.inj h
    have : b.toNat ≤ 57 := hle 57 (by tauto)
    omega
  · split at h
    · obtain rfl := Option.some.inj h
      have : b.toNat ≤ 102 := hle 102 (by tauto)
      omega
    · split at h
      · obtain rfl := Option.some.inj h
        have : b.toNat ≤ 70 := hle 70 (by tauto)
        omega
      · exact absurd h nofun

/-- The digits that the code prints have their values. -/
theorem hexValue_digitChar {d : ℕ} (h : d < 16) :
    hexValue (Nat.digitChar d).toNat.toUInt8 = some d := by
  have hall : ∀ d < 16, hexValue (Nat.digitChar d).toNat.toUInt8 = some d := by decide
  exact hall d h

theorem hexNumberFrom_append (digits digits' : Bytes) : ∀ n : ℕ,
    hexNumberFrom n (digits ++ digits') =
      (hexNumberFrom n digits).bind (hexNumberFrom · digits') := by
  induction digits with
  | nil => exact fun n => rfl
  | cons b digits ih =>
    intro n
    rw [List.cons_append, hexNumberFrom, hexNumberFrom]
    cases hexValue b with
    | none => rfl
    | some d => exact ih (16 * n + d)

/-- Four digits denote a number below `2^16`. -/
theorem hexNumberFrom_lt (digits : Bytes) : ∀ {n m : ℕ}, hexNumberFrom n digits = some m →
    m < (n + 1) * 16 ^ digits.length := by
  induction digits with
  | nil =>
    intro n m h
    obtain rfl := Option.some.inj h
    simp
  | cons b digits ih =>
    intro n m h
    rw [hexNumberFrom] at h
    obtain ⟨d, hd, h⟩ := Option.bind_eq_some_iff.mp h
    have hlt := hexValue_lt hd
    calc m < (16 * n + d + 1) * 16 ^ digits.length := ih h
      _ ≤ ((n + 1) * 16) * 16 ^ digits.length := Nat.mul_le_mul_right _ (by omega)
      _ = (n + 1) * 16 ^ (b :: digits).length := by
        rw [List.length_cons, pow_succ', Nat.mul_assoc]

/-- The digits of a number denote it. -/
theorem hexNumberFrom_toDigits (n : ℕ) :
    hexNumberFrom 0 ((Nat.toDigits 16 n).map fun c => c.toNat.toUInt8) = some n := by
  induction n using Nat.strongRecOn with
  | ind n ih =>
    rw [Nat.toDigits_eq_if (by decide)]
    split
    · rw [List.map_singleton, hexNumberFrom, hexValue_digitChar ‹n < 16›]
      exact congrArg some (by omega)
    · rw [List.map_append, hexNumberFrom_append, ih (n / 16) (by omega), Option.bind_some,
        List.map_singleton, hexNumberFrom, hexValue_digitChar (Nat.mod_lt n (by decide))]
      exact congrArg some (by omega)

/-- Zeros in front do not matter. -/
theorem hexNumberFrom_zeros (k : ℕ) (digits : Bytes) :
    hexNumberFrom 0 (List.replicate k 48 ++ digits) = hexNumberFrom 0 digits := by
  induction k with
  | zero => rfl
  | succ k ih =>
    rw [List.replicate_succ, List.cons_append, hexNumberFrom]
    exact ih

/-- Four digits are printed of a number below `2^16`, and they denote it. -/
theorem hexNumberFrom_hex4 {n : ℕ} (h : n < 2 ^ 16) :
    (hex4 n).length = 4 ∧ hexNumberFrom 0 (hex4 n) = some n := by
  have hlen : (Nat.toDigits 16 n).length ≤ 4 :=
    (Nat.length_toDigits_le_iff (by decide) (by decide)).mpr (by omega)
  constructor
  · rw [hex4, List.length_leftpad, List.length_map]
    omega
  · rw [hex4, List.leftpad, hexNumberFrom_zeros, hexNumberFrom_toDigits]

/-! ## Frames -/

/-- `device_tracker_send`: the length, of which four digits are kept, and the text. -/
def trackerFrame (string : Bytes) : Bytes := (hex4 (string.length % 2 ^ 32)).take 4 ++ string

/-- The frame at the front of a stream: four digits, and as many bytes as they say. -/
def cutTrackerFrame (s : Bytes) : Cut UInt8 Bytes :=
  if s.length < 4 then .incomplete
  else
    match hexNumberFrom 0 (s.take 4) with
    | none => .malformed
    | some n =>
      if s.length < 4 + n then .incomplete else .frame ((s.drop 4).take n) ((s.drop 4).drop n)

theorem cutTrackerFrame_shorter {s b rest : Bytes} (h : cutTrackerFrame s = .frame b rest) :
    rest.length < s.length := by
  unfold cutTrackerFrame at h
  split at h
  · cases h
  · split at h
    · cases h
    · split at h
      · cases h
      · cases h
        rw [List.length_drop, List.length_drop]
        omega

theorem cutTrackerFrame_stable {s : Bytes} (h : cutTrackerFrame s ≠ .incomplete) (more : Bytes) :
    cutTrackerFrame (s ++ more) = (cutTrackerFrame s).extend more := by
  unfold cutTrackerFrame at h ⊢
  by_cases hshort : s.length < 4
  · rw [if_pos hshort] at h
    exact absurd rfl h
  have hlong : ¬ (s ++ more).length < 4 := by
    rw [List.length_append]
    omega
  have hfour : 4 ≤ s.length := by omega
  rw [if_neg hlong, List.take_append_of_le_length hfour, List.drop_append_of_le_length hfour]
  rw [if_neg hshort] at h ⊢
  cases hnumber : hexNumberFrom 0 (s.take 4) with
  | none => rfl
  | some n =>
    rw [hnumber] at h
    dsimp only at h ⊢
    by_cases hwait : s.length < 4 + n
    · rw [if_pos hwait] at h
      exact absurd rfl h
    -- The whole text has come.
    have hwait' : ¬ (s ++ more).length < 4 + n := by
      rw [List.length_append]
      omega
    have hbody : n ≤ (s.drop 4).length := by
      rw [List.length_drop]
      omega
    rw [if_neg hwait, if_neg hwait', List.take_append_of_le_length hbody,
      List.drop_append_of_le_length hbody]
    rfl

/-- The frames of a device tracker. -/
def trackerFrames : Framing UInt8 Bytes where
  cut := cutTrackerFrame
  shorter := cutTrackerFrame_shorter
  stable := cutTrackerFrame_stable

theorem trackerFrames_cut (s : Bytes) : trackerFrames.cut s = cutTrackerFrame s := rfl

/-- The text of a frame that is decoded has a length of four digits. -/
theorem cutTrackerFrame_length {s b rest : Bytes} (h : cutTrackerFrame s = .frame b rest) :
    b.length < 2 ^ 16 := by
  unfold cutTrackerFrame at h
  split at h
  · cases h
  · cases hnumber : hexNumberFrom 0 (s.take 4) with
    | none =>
      rw [hnumber] at h
      cases h
    | some n =>
      rw [hnumber] at h
      dsimp only at h
      split at h
      · cases h
      · cases h
        have hlt := hexNumberFrom_lt _ hnumber
        have hfour : (s.take 4).length = 4 := by
          rw [List.length_take]
          omega
        rw [hfour] at hlt
        calc ((s.drop 4).take n).length ≤ n := List.length_take_le _ _
          _ < 2 ^ 16 := by omega

/-- A frame whose text is short enough is decoded. -/
theorem cutTrackerFrame_append {string : Bytes} (h : string.length < 2 ^ 16) (rest : Bytes) :
    cutTrackerFrame (trackerFrame string ++ rest) = .frame string rest := by
  obtain ⟨hfour, hnumber⟩ := hexNumberFrom_hex4 h
  have hframe : trackerFrame string = hex4 string.length ++ string := by
    rw [trackerFrame, Nat.mod_eq_of_lt (by omega), List.take_of_length_le hfour.le]
  have hheader : (trackerFrame string ++ rest).take 4 = hex4 string.length := by
    rw [hframe, List.append_assoc, List.take_left' hfour]
  have hbody : (trackerFrame string ++ rest).drop 4 = string ++ rest := by
    rw [hframe, List.append_assoc, List.drop_left' hfour]
  have hlen : (trackerFrame string ++ rest).length = 4 + string.length + rest.length := by
    rw [hframe, List.length_append, List.length_append, hfour]
  rw [cutTrackerFrame, if_neg (by omega), hheader, hnumber]
  dsimp only
  rw [if_neg (by omega), hbody, List.take_left' rfl, List.drop_left' rfl]

/-- The texts that are decoded are short. -/
theorem leads_length {s rest : Bytes} {strings : List Bytes}
    (h : trackerFrames.Leads s strings rest) : ∀ string ∈ strings, string.length < 2 ^ 16 := by
  induction h with
  | nil => exact fun _ hmem => absurd hmem List.not_mem_nil
  | cons hcut _ ih => exact List.forall_mem_cons.mpr ⟨cutTrackerFrame_length hcut, ih⟩

/-- A stream of frames is decoded to the texts that were sent, and nothing is left, exactly when
each of them is shorter than `2^16` bytes. -/
theorem leads_trackerFrames_iff (strings : List Bytes) :
    trackerFrames.Leads (strings.flatMap trackerFrame) strings [] ↔
      ∀ string ∈ strings, string.length < 2 ^ 16 := by
  refine ⟨leads_length, fun h => ?_⟩
  induction strings with
  | nil => exact .nil _
  | cons string strings ih =>
    rw [List.forall_mem_cons] at h
    have hcut := cutTrackerFrame_append h.1 (strings.flatMap trackerFrame)
    rw [← trackerFrames_cut] at hcut
    rw [List.flatMap_cons]
    exact .cons hcut (ih h.2)

end AdbMobile
