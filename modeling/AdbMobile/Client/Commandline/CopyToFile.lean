import AdbMobile.Client.Commandline.Install

/-!
# Copying a file

`copy_to_file` of `client/commandline.cpp` reads blocks from one descriptor and writes them to
another, with `adb_write`, or with `fwrite` and `fflush` to `stdout`. A read that fails makes its
result false. The results of the writes are not looked at, so it returns true after a copy of which
bytes are missing (`copyToFile_truthful_iff`).

The loop for the results alone is `copyToFile`, which the commands use; `copyFile_result` relates
the two.
-/

namespace AdbMobile.Client

open ByteString

/-- What `copy_to_file` writes to. -/
structure OutFile where
  /-- The bytes that have been delivered. -/
  delivered : Bytes
  /-- The bytes in the buffer of `stdout`. -/
  buffered : Bytes

/-- What the calls come to that write a block. -/
structure WriteResult where
  /-- How many bytes `adb_write` delivers or `fwrite` takes: none where the call fails. -/
  taken : ℕ
  /-- How many of the buffered bytes are delivered by the time that `fflush` returns. -/
  flushed : ℕ
  /-- Whether those that are not stay in the buffer. -/
  kept : Bool
  deriving DecidableEq, Repr

/-- Writes a block. No result is looked at. -/
def OutFile.write (toStdout : Bool) (r : WriteResult) (block : Bytes) (out : OutFile) : OutFile :=
  if toStdout then
    let buffered := out.buffered ++ block.take r.taken
    { delivered := out.delivered ++ buffered.take r.flushed
      buffered := if r.kept then buffered.drop r.flushed else [] }
  else { out with delivered := out.delivered ++ block.take r.taken }

section Copy

variable (toStdout : Bool) (writes : ℕ → WriteResult)

/-- The loop of `copy_to_file`, from its `k`-th write on: a read of no bytes is the end of the
file. -/
def copyLoop : ℕ → List (Option Bytes) → OutFile → Bool × OutFile
  | k, some (b :: bs) :: reads, out =>
      copyLoop (k + 1) reads (out.write toStdout (writes k) (b :: bs))
  | _, none :: _, out => (false, out)
  | _, _, out => (true, out)

/-- `copy_to_file`: its result, and what it delivers. -/
def copyFile (reads : List (Option Bytes)) : Bool × Bytes :=
  let r := copyLoop toStdout writes 0 reads ⟨[], []⟩
  (r.1, r.2.delivered)

/-! ## The result -/

/-- A read fails before the end of the file. -/
def ReadFails (reads : List (Option Bytes)) : Prop := none ∈ reads.takeWhile (· ≠ some [])

/-- The result of the loop depends on the reads alone. -/
theorem copyLoop_result (reads : List (Option Bytes)) :
    ∀ k out, (copyLoop toStdout writes k reads out).1 = copyToFile reads := by
  induction reads with
  | nil => exact fun k out => rfl
  | cons read reads ih =>
    intro k out
    obtain _ | _ | ⟨b, bs⟩ := read
    · rfl
    · rfl
    · exact ih (k + 1) _

/-- `copy_to_file` returns what the commands take for its result. -/
theorem copyFile_result (reads : List (Option Bytes)) :
    (copyFile toStdout writes reads).1 = copyToFile reads :=
  copyLoop_result toStdout writes reads 0 _

/-- It returns true exactly if no read fails. -/
theorem copyToFile_eq_true_iff (reads : List (Option Bytes)) :
    copyToFile reads = true ↔ ¬ ReadFails reads := by
  induction reads with
  | nil => exact ⟨fun _ h => absurd h List.not_mem_nil, fun _ => rfl⟩
  | cons read reads ih =>
    obtain _ | _ | ⟨b, bs⟩ := read
    · simp [copyToFile, ReadFails]
    · simp [copyToFile, ReadFails]
    · simpa [copyToFile, ReadFails] using ih

/-! ## What is delivered -/

variable {toStdout writes}

/-- Calls that lose nothing of a block of `len` bytes, where `n` bytes are in the buffer. -/
def WriteResult.Complete (toStdout : Bool) (r : WriteResult) (n len : ℕ) : Prop :=
  len ≤ r.taken ∧ (toStdout = true → r.kept = true ∨ n + len ≤ r.flushed)

/-- The number of bytes in the buffer after such calls. -/
def WriteResult.left (toStdout : Bool) (r : WriteResult) (n len : ℕ) : ℕ :=
  if toStdout then n + len - r.flushed else n

variable (toStdout writes) in
/-- From the `k`-th write on, where `n` bytes are in the buffer, the writes lose nothing, and they
leave nothing in the buffer. -/
def LosesNothing : ℕ → ℕ → List (Option Bytes) → Prop
  | k, n, some (b :: bs) :: reads =>
    (writes k).Complete toStdout n (b :: bs).length ∧
      LosesNothing (k + 1) ((writes k).left toStdout n (b :: bs).length) reads
  | _, n, _ => n = 0

/-- The bytes that are delivered or in the buffer, of those that there are. -/
def OutFile.length (out : OutFile) : ℕ := out.delivered.length + out.buffered.length

/-- A write that is complete. -/
theorem OutFile.write_complete {r : WriteResult} {block : Bytes} {out : OutFile}
    (h : r.Complete toStdout out.buffered.length block.length) :
    (out.write toStdout r block).length = out.length + block.length ∧
      (out.write toStdout r block).buffered.length =
        r.left toStdout out.buffered.length block.length := by
  obtain ⟨htaken, hflushed⟩ := h
  rw [OutFile.length, OutFile.length, OutFile.write, WriteResult.left,
    List.take_of_length_le htaken]
  cases toStdout with
  | false =>
    simp only [Bool.false_eq_true, if_false, List.length_append, and_true]
    omega
  | true =>
    have hflushed := hflushed rfl
    simp only [if_true, List.length_append, List.length_take]
    cases hkept : r.kept with
    | true =>
      simp only [if_true, List.length_drop, List.length_append, and_true]
      omega
    | false =>
      rw [hkept] at hflushed
      have hall := hflushed.resolve_left Bool.false_ne_true
      simp only [Bool.false_eq_true, if_false, List.length_nil]
      omega

/-- One that is not loses bytes. -/
theorem OutFile.write_incomplete {r : WriteResult} {block : Bytes} {out : OutFile}
    (h : ¬ r.Complete toStdout out.buffered.length block.length) :
    (out.write toStdout r block).length < out.length + block.length := by
  rw [OutFile.length, OutFile.length, OutFile.write]
  cases toStdout with
  | false =>
    have htaken : r.taken < block.length := by
      refine Nat.lt_of_not_le fun hle => h ⟨hle, fun h => absurd h Bool.false_ne_true⟩
    simp only [Bool.false_eq_true, if_false, List.length_append, List.length_take]
    omega
  | true =>
    have hshort : ¬ (block.length ≤ r.taken ∧
        (r.kept = true ∨ out.buffered.length + block.length ≤ r.flushed)) := fun hall =>
      h ⟨hall.1, fun _ => hall.2⟩
    cases hkept : r.kept with
    | true =>
      have htaken : ¬ block.length ≤ r.taken := fun hle => hshort ⟨hle, .inl hkept⟩
      simp only [if_true, List.length_append, List.length_take, List.length_drop]
      omega
    | false =>
      rw [hkept, or_iff_right Bool.false_ne_true] at hshort
      simp only [Bool.false_eq_true, if_true, if_false, List.length_append, List.length_take,
        List.length_nil]
      omega

/-- No more can be delivered than was read, and as much is exactly if nothing is lost. -/
theorem copyLoop_length (reads : List (Option Bytes)) : ∀ k out,
    (copyLoop toStdout writes k reads out).2.delivered.length ≤
        out.length + (rawReceived reads).length ∧
      ((copyLoop toStdout writes k reads out).2.delivered.length =
          out.length + (rawReceived reads).length ↔
        LosesNothing toStdout writes k out.buffered.length reads) := by
  -- The loop ends: what is in the buffer is not delivered.
  have hend : ∀ out : OutFile, out.delivered.length ≤ out.length + 0 ∧
      (out.delivered.length = out.length + 0 ↔ out.buffered.length = 0) := by
    intro out
    rw [OutFile.length]
    omega
  induction reads with
  | nil => exact fun k out => hend out
  | cons read reads ih =>
    intro k out
    obtain _ | _ | ⟨b, bs⟩ := read
    · exact hend out
    · exact hend out
    have hreceived : (rawReceived (some (b :: bs) :: reads)).length =
        (b :: bs).length + (rawReceived reads).length := List.length_append
    obtain ⟨hle, hiff⟩ := ih (k + 1) (out.write toStdout (writes k) (b :: bs))
    rw [hreceived, copyLoop, LosesNothing]
    by_cases hcomplete : (writes k).Complete toStdout out.buffered.length (b :: bs).length
    · obtain ⟨hlength, hleft⟩ := OutFile.write_complete hcomplete
      rw [hlength, Nat.add_assoc] at hle
      rw [hlength, hleft, Nat.add_assoc] at hiff
      exact ⟨hle, hiff.trans (and_iff_right hcomplete).symm⟩
    · have hlost := OutFile.write_incomplete hcomplete
      refine ⟨by omega, fun heq => ?_, fun h => absurd h.1 hcomplete⟩
      omega

/-- A complete write to `stdout` goes behind what is in the buffer. -/
theorem OutFile.write_order {r : WriteResult} {block : Bytes} {out : OutFile}
    (h : r.Complete toStdout out.buffered.length block.length)
    (hout : toStdout = false → out.buffered = []) :
    (out.write toStdout r block).delivered ++ (out.write toStdout r block).buffered =
        out.delivered ++ out.buffered ++ block ∧
      (toStdout = false → (out.write toStdout r block).buffered = []) := by
  obtain ⟨htaken, hflushed⟩ := h
  rw [OutFile.write, List.take_of_length_le htaken]
  cases toStdout with
  | false =>
    simp only [Bool.false_eq_true, if_false]
    rw [hout rfl, List.append_nil, List.append_nil]
    exact ⟨rfl, fun _ => rfl⟩
  | true =>
    refine ⟨?_, fun h => by cases h⟩
    simp only [if_true, List.append_assoc]
    cases hkept : r.kept with
    | true => rw [if_pos rfl, List.take_append_drop]
    | false =>
      rw [hkept] at hflushed
      have hall := (hflushed rfl).resolve_left Bool.false_ne_true
      rw [if_neg Bool.false_ne_true, List.append_nil,
        List.take_of_length_le (by rw [List.length_append]; exact hall)]

/-- Where nothing is lost, what was read is delivered in order. -/
theorem copyLoop_delivered (reads : List (Option Bytes)) : ∀ k out,
    (toStdout = false → out.buffered = []) →
      LosesNothing toStdout writes k out.buffered.length reads →
        (copyLoop toStdout writes k reads out).2.delivered =
          out.delivered ++ out.buffered ++ rawReceived reads := by
  have hend : ∀ out : OutFile, out.buffered.length = 0 →
      out.delivered = out.delivered ++ out.buffered ++ [] := by
    intro out hzero
    rw [List.length_eq_zero_iff.mp hzero, List.append_nil, List.append_nil]
  induction reads with
  | nil => exact fun k out _ h => hend out h
  | cons read reads ih =>
    intro k out hout hall
    obtain _ | _ | ⟨b, bs⟩ := read
    · exact hend out hall
    · exact hend out hall
    obtain ⟨hcomplete, hall⟩ := hall
    obtain ⟨horder, hout'⟩ := OutFile.write_order hcomplete hout
    rw [← (OutFile.write_complete hcomplete).2] at hall
    calc (copyLoop toStdout writes k (some (b :: bs) :: reads) out).2.delivered
        = (out.write toStdout (writes k) (b :: bs)).delivered ++
            (out.write toStdout (writes k) (b :: bs)).buffered ++ rawReceived reads :=
          ih (k + 1) _ hout' hall
      _ = out.delivered ++ out.buffered ++ (b :: bs) ++ rawReceived reads := by rw [horder]
      _ = out.delivered ++ out.buffered ++ rawReceived (some (b :: bs) :: reads) :=
          List.append_assoc ..

variable (toStdout writes)

/-- `copy_to_file` tells the truth exactly if a read fails, or if no write loses anything: every
`adb_write` is complete; or every `fwrite` is, and no `fflush` drops anything, and the last leaves
nothing in the buffer. -/
theorem copyToFile_truthful_iff (reads : List (Option Bytes)) :
    ((copyFile toStdout writes reads).1 = true →
        (copyFile toStdout writes reads).2 = rawReceived reads) ↔
      ReadFails reads ∨ LosesNothing toStdout writes 0 0 reads := by
  rw [copyFile_result, copyToFile_eq_true_iff]
  have hdelivered : (copyFile toStdout writes reads).2 = rawReceived reads ↔
      LosesNothing toStdout writes 0 0 reads := by
    constructor
    · intro heq
      refine (copyLoop_length reads 0 ⟨[], []⟩).2.mp ?_
      rw [OutFile.length]
      exact (congrArg List.length heq).trans (Nat.zero_add _).symm
    · exact fun hall => copyLoop_delivered reads 0 ⟨[], []⟩ (fun _ => rfl) hall
  rw [hdelivered, imp_iff_not_or, not_not]

end Copy

/-- A block that `adb_write` does not deliver. -/
theorem failedWrite_not_truthful :
    ¬ ∀ (toStdout : Bool) (writes : ℕ → WriteResult) (reads : List (Option Bytes)),
      (copyFile toStdout writes reads).1 = true →
        (copyFile toStdout writes reads).2 = rawReceived reads := by
  intro hall
  exact absurd (hall false (fun _ => ⟨0, 0, false⟩) [some (lit "a")] rfl) (by decide)

end AdbMobile.Client
