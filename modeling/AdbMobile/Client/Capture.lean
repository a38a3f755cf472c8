import AdbMobile.Lib.ByteString
import AdbMobile.Lib.Run

/-!
# The captured output buffer

`capture_printf` of `client/adb_porting.cpp` appends formatted text to a heap buffer that the
caller owns. The size that the caller sees excludes the terminating NUL, and each growth of the
block includes it. Sizes are natural numbers, since a block of `2^64` bytes cannot be allocated.

`OutputBuffer.WellFormed` is the representation invariant: no block and size zero, or a block that
holds the text, a NUL after it, and whatever follows. `OutputBuffer.captured` reads the text, and
`capturePrintf_spec` says what a call adds to it.

Three things can fail in a call, and it looks at two of them. Where the `vsnprintf` that writes the
text fails, the size has grown by a text that is not there. `captured_runs_iff` says that nothing
else breaks a buffer, in any sequence of calls.
-/

namespace AdbMobile

open ByteString

/-- A caller's `*output_buffer`, a heap block or `NULL`, and its `*output_size`. -/
structure OutputBuffer where
  /-- The bytes of the block that `*output_buffer` points to. -/
  block : Option Bytes
  /-- `*output_size`. -/
  size : ℕ
  deriving DecidableEq, Repr

/-- The text that a buffer holds. -/
def OutputBuffer.captured (b : OutputBuffer) : Bytes := (b.block.getD []).take b.size

/-- No text has been captured into no block, or the block holds the text and a NUL after it. -/
def OutputBuffer.WellFormed (b : OutputBuffer) : Prop :=
  match b.block with
  | none => b.size = 0
  | some block => b.size < block.length ∧ block[b.size]? = some 0

/-- A buffer that meets its invariant. -/
abbrev CaptureBuffer := { b : OutputBuffer // b.WellFormed }

/-- The buffer that every caller starts from: `NULL` and zero. -/
def CaptureBuffer.empty : CaptureBuffer := ⟨⟨none, 0⟩, rfl⟩

/-- What the C library answers during one call of `capture_printf`. -/
structure PrintfCalls where
  /-- The text of the sizing `vsnprintf`, or `none` where it fails. -/
  sized : Option Bytes
  /-- Whether `realloc` finds the memory. -/
  grown : Bool
  /-- The bytes of the new block behind those of the old one. -/
  fresh : ℕ → UInt8
  /-- The text of the writing `vsnprintf`, or what it leaves behind where it fails. -/
  written : Except Bytes Bytes
  /-- The arguments are the same both times. -/
  same : ∀ text text', sized = some text → written = .ok text' → text' = text

/-- The answers when nothing fails and the arguments format to `text`. -/
def PrintfCalls.ok (text : Bytes) : PrintfCalls where
  sized := some text
  grown := true
  fresh _ := 0
  written := .ok text
  same _ _ h h' := (Except.ok.inj h').symm.trans (Option.some.inj h)

/-- A block resized to `n` bytes. -/
def realloc (fresh : ℕ → UInt8) (block : Option Bytes) (n : ℕ) : Bytes :=
  (block.getD []).take n ++ (List.range (n - (block.getD []).length)).map fresh

/-- `vsnprintf(block + off, cap, ...)`: at most `cap - 1` bytes of the text, and a NUL. -/
def vsnprintf (block : Bytes) (off cap : ℕ) : Except Bytes Bytes → Bytes
  | .error left => overwrite block off (left.take cap)
  | .ok text => overwrite block off (text.take (cap - 1) ++ [0])

/-- `capture_printf`, with `none` for a null `output_buffer` or `output_size`. Returns the call's
result and the caller's buffer after it. -/
def capturePrintf (c : PrintfCalls) : Option OutputBuffer → ℤ × Option OutputBuffer
  | none => (-1, none)
  | some b =>
    match c.sized with
    | none => (-1, some b)
    | some text =>
      let required_size := text.length + 1
      if c.grown then
        let new_buffer := realloc c.fresh b.block (b.size + required_size)
        (text.length, some
          ⟨some (vsnprintf new_buffer b.size required_size c.written), b.size + required_size - 1⟩)
      else (-1, some b)

/-- The text of a well-formed buffer has the buffer's size. -/
theorem OutputBuffer.length_captured {b : OutputBuffer} (h : b.WellFormed) :
    b.captured.length = b.size := by
  obtain ⟨block, size⟩ := b
  cases block with
  | none => exact (show size = 0 from h) ▸ rfl
  | some block =>
    have hlt : size < block.length := h.1
    simp [OutputBuffer.captured, Nat.min_eq_left hlt.le]

/-- A block grown past the buffer's text still starts with the text. -/
theorem take_realloc {b : OutputBuffer} (h : b.WellFormed) (fresh : ℕ → UInt8) (n : ℕ) :
    (realloc fresh b.block (b.size + n)).take b.size = b.captured := by
  have hle : b.size ≤ (b.block.getD []).length := by
    have := OutputBuffer.length_captured h
    rw [OutputBuffer.captured, List.length_take] at this
    omega
  rw [realloc, List.take_append_of_le_length (by rw [List.length_take]; omega), List.take_take,
    Nat.min_eq_left (Nat.le_add_right _ _), OutputBuffer.captured]

/-! ## What a buffer holds -/

/-- The buffer represents what was captured: nothing has been, and there is no block, or the block
starts with the text and a NUL. -/
def OutputBuffer.Represents (b : OutputBuffer) : Option Bytes → Prop
  | none => b = ⟨none, 0⟩
  | some text => b.size = text.length ∧ ∃ block, b.block = some block ∧ text ++ [0] <+: block

/-- What it represents is what can be read from it. -/
theorem OutputBuffer.Represents.wellFormed {b : OutputBuffer} {outputs : Option Bytes}
    (h : b.Represents outputs) : b.WellFormed ∧ b.captured = outputs.getD [] := by
  obtain ⟨block, size⟩ := b
  cases outputs with
  | none =>
    obtain ⟨rfl, rfl⟩ := OutputBuffer.mk.inj h
    exact ⟨rfl, rfl⟩
  | some text =>
    obtain ⟨hsize, block', hblock, rest, rfl⟩ := h
    obtain rfl : block = some (text ++ [0] ++ rest) := hblock
    obtain rfl : size = text.length := hsize
    have htext : text ++ [0] ++ rest = text ++ (0 :: rest) := List.append_assoc text [0] rest
    refine ⟨⟨?_, ?_⟩, ?_⟩
    · show text.length < (text ++ [0] ++ rest).length
      rw [htext, List.length_append, List.length_cons]
      omega
    · rw [htext, List.getElem?_append_right (Nat.le_refl _), Nat.sub_self]
      rfl
    · show (text ++ [0] ++ rest).take text.length = text
      rw [htext, List.take_left]

/-- A call in which nothing fails returns the length of its text, and appends exactly its text. -/
theorem capturePrintf_spec {b : OutputBuffer} (h : b.WellFormed) {c : PrintfCalls} {text : Bytes}
    (hsized : c.sized = some text) (hgrown : c.grown = true) (hwritten : c.written = .ok text) :
    ∃ b' : OutputBuffer, capturePrintf c (some b) = ((text.length : ℤ), some b') ∧
      b'.Represents (some (b.captured ++ text)) := by
  have hsize := OutputBuffer.length_captured h
  have hlength : b.size + (text.length + 1) - 1 = (b.captured ++ text).length := by
    rw [List.length_append, hsize]
    omega
  -- The text is written behind what the block starts with, and all of it.
  have hwrite : ∀ fresh, vsnprintf (realloc fresh b.block (b.size + (text.length + 1))) b.size
      (text.length + 1) (.ok text) = b.captured ++ text ++ [0] ++
        (realloc fresh b.block (b.size + (text.length + 1))).drop
          (b.size + (text ++ [0]).length) := by
    intro fresh
    rw [vsnprintf, overwrite, take_realloc h, Nat.add_sub_cancel, List.take_length,
      ← List.append_assoc b.captured]
  have hcall : capturePrintf c (some b) = ((text.length : ℤ), some
      ⟨some (vsnprintf (realloc c.fresh b.block (b.size + (text.length + 1))) b.size
        (text.length + 1) (.ok text)), b.size + (text.length + 1) - 1⟩) := by
    rw [capturePrintf, hsized]
    dsimp only
    rw [if_pos hgrown, hwritten]
  exact ⟨_, hcall, hlength, _, rfl, hwrite c.fresh ▸ List.prefix_append _ _⟩

/-! ## Sequences of calls -/

/-- A call of `capture_printf` on a caller's buffer. -/
inductive CaptureCall
  /-- The format is a null pointer. -/
  | nullFormat
  | printf (calls : PrintfCalls)

/-- What the call returns, and the buffer after it. -/
def CaptureCall.run : CaptureCall → OutputBuffer → ℤ × Option OutputBuffer
  | .nullFormat, b => (-1, some b)
  | .printf c, b => capturePrintf c (some b)

/-- The output of a call in which nothing fails. -/
def CaptureCall.output : CaptureCall → Option Bytes
  | .nullFormat => none
  | .printf c => if c.grown && c.written.isOk then c.sized else none

/-- Where the text is sized and there is memory for it, it is written. -/
def CaptureCall.Completes : CaptureCall → Prop
  | .nullFormat => True
  | .printf c => c.sized.isSome = true → c.grown = true → c.written.isOk = true

/-- A buffer in a sequence of calls. -/
structure CaptureRun where
  buffer : OutputBuffer
  /-- The outputs of the calls that succeeded, one after the other, if there were any. -/
  outputs : Option Bytes

/-- Before the first call. -/
def CaptureRun.start : CaptureRun := ⟨CaptureBuffer.empty.val, none⟩

/-- The outputs after a call. -/
def CaptureRun.outputsAfter (s : CaptureRun) (call : CaptureCall) : Option Bytes :=
  match call.output with
  | none => s.outputs
  | some text => some (s.outputs.getD [] ++ text)

/-- A call on the buffer. -/
def captureStep (s : CaptureRun) (call : CaptureCall) : Option CaptureRun :=
  (call.run s.buffer).2.map fun b => ⟨b, s.outputsAfter call⟩

/-- The buffer represents the outputs of the calls that succeeded. -/
def CaptureRun.Correct (s : CaptureRun) : Prop := s.buffer.Represents s.outputs

/-- A call that fails says so and leaves the buffer alone, and any other one returns the length of
its output. -/
def Reported (s : CaptureRun) (call : CaptureCall) (s' : CaptureRun) : Prop :=
  match call.output with
  | none => (call.run s.buffer).1 = -1 ∧ s'.buffer = s.buffer
  | some text => (call.run s.buffer).1 = text.length

/-- A correct buffer is well formed, and a call in which nothing fails adds its output to it. -/
theorem captureStep_ok {s : CaptureRun} (h : s.Correct) {c : PrintfCalls} {text : Bytes}
    (hsized : c.sized = some text) (hgrown : c.grown = true) (hwritten : c.written.isOk = true) :
    ∃ s', captureStep s (.printf c) = some s' ∧ s'.Correct ∧ Reported s (.printf c) s' := by
  obtain ⟨hwf, htext⟩ := h.wellFormed
  obtain ⟨text', hok⟩ : ∃ text', c.written = .ok text' := by
    cases hw : c.written with
    | error left =>
      rw [hw] at hwritten
      cases hwritten
    | ok text' => exact ⟨text', rfl⟩
  obtain rfl := c.same text text' hsized hok
  obtain ⟨b', hcall, hb'⟩ := capturePrintf_spec hwf hsized hgrown hok
  have houtput : (CaptureCall.printf c).output = some text' := by
    rw [CaptureCall.output, hgrown, hwritten, hsized]
    rfl
  have hafter : s.outputsAfter (.printf c) = some (s.outputs.getD [] ++ text') := by
    rw [CaptureRun.outputsAfter, houtput]
  refine ⟨⟨b', s.outputsAfter (.printf c)⟩, ?_, ?_, ?_⟩
  · rw [captureStep, CaptureCall.run, hcall]
    rfl
  · rw [CaptureRun.Correct, hafter, ← htext]
    exact hb'
  · rw [Reported, houtput, CaptureCall.run, hcall]

/-- A call that gives up before it has grown the block changes nothing. -/
theorem captureStep_failed {s : CaptureRun} {call : CaptureCall}
    (hrun : call.run s.buffer = (-1, some s.buffer)) (houtput : call.output = none) :
    captureStep s call = some s ∧ Reported s call s := by
  rw [captureStep, CaptureRun.outputsAfter, Reported, houtput, hrun]
  exact ⟨rfl, rfl, rfl⟩

/-- A call that completes keeps the buffer correct, and reports what it did. -/
theorem captureStep_completes {s : CaptureRun} (h : s.Correct) {call : CaptureCall}
    (hcall : call.Completes) :
    ∃ s', captureStep s call = some s' ∧ s'.Correct ∧ Reported s call s' := by
  cases call with
  | nullFormat => exact ⟨s, (captureStep_failed rfl rfl).1, h, (captureStep_failed rfl rfl).2⟩
  | printf c =>
    -- A call that fails before the block has grown.
    have hfails : capturePrintf c (some s.buffer) = (-1, some s.buffer) →
        (CaptureCall.printf c).output = none →
        ∃ s', captureStep s (.printf c) = some s' ∧ s'.Correct ∧ Reported s (.printf c) s' :=
      fun hrun houtput =>
        have hfailed : captureStep s (.printf c) = some s ∧ Reported s (.printf c) s :=
          captureStep_failed hrun houtput
        ⟨s, hfailed.1, h, hfailed.2⟩
    cases hsized : c.sized with
    | none =>
      refine hfails (by rw [capturePrintf, hsized]) ?_
      rw [CaptureCall.output, hsized, ite_self]
    | some text =>
      cases hgrown : c.grown with
      | false =>
        refine hfails ?_ ?_
        · rw [capturePrintf, hsized]
          dsimp only
          rw [hgrown, if_neg Bool.false_ne_true]
        · rw [CaptureCall.output, hgrown, Bool.false_and, if_neg Bool.false_ne_true]
      | true =>
        have hwritten : c.written.isOk = true := hcall (by rw [hsized]; rfl) hgrown
        exact captureStep_ok h hsized hgrown hwritten

/-- One that does not complete returns a length all the same. -/
theorem not_reported_of_incomplete {s s' : CaptureRun} {call : CaptureCall}
    (hcall : ¬ call.Completes) : ¬ Reported s call s' := by
  cases call with
  | nullFormat => exact absurd trivial hcall
  | printf c =>
    obtain ⟨hsized, hcall⟩ := Classical.not_imp.mp hcall
    obtain ⟨hgrown, hwritten⟩ := Classical.not_imp.mp hcall
    obtain ⟨text, hsized⟩ := Option.isSome_iff_exists.mp hsized
    have houtput : (CaptureCall.printf c).output = none := by
      rw [CaptureCall.output, Bool.eq_false_iff.mpr hwritten, Bool.and_false,
        if_neg Bool.false_ne_true]
    have hreturned : (capturePrintf c (some s.buffer)).1 = (text.length : ℤ) := by
      rw [capturePrintf, hsized]
      dsimp only
      rw [if_pos hgrown]
    rw [Reported, houtput]
    rintro ⟨hfailed, -⟩
    have : (text.length : ℤ) = -1 := hreturned.symm.trans hfailed
    omega

/-- Every call leaves the caller a buffer. -/
theorem captureStep_total (s : CaptureRun) (call : CaptureCall) :
    ∃ s', captureStep s call = some s' := by
  have hbuffer : ∃ b, (call.run s.buffer).2 = some b := by
    cases call with
    | nullFormat => exact ⟨s.buffer, rfl⟩
    | printf c =>
      rw [CaptureCall.run, capturePrintf]
      split
      · exact ⟨_, rfl⟩
      split
      · exact ⟨_, rfl⟩
      · exact ⟨_, rfl⟩
  obtain ⟨b, hb⟩ := hbuffer
  exact ⟨_, by rw [captureStep, hb]; rfl⟩

/-- In a sequence of calls from an empty buffer, the buffer always represents the outputs of the
calls that succeeded, and every call that fails returns -1 and leaves it alone, exactly if no
`vsnprintf` fails that writes a text for which there is memory. -/
theorem captured_runs_iff (calls : List CaptureCall) :
    Run.Throughout captureStep CaptureRun.Correct .start calls ∧
        Run.EachStep captureStep Reported .start calls ↔
      ∀ call ∈ calls, call.Completes := by
  have hstart : CaptureRun.start.Correct := rfl
  rw [← Run.meets_iff_forall captureStep_total]
  refine Run.throughout_and_eachStep_iff_meets (fun _ h => h) (fun s call s' h hcall hstep => ?_)
    (fun s call s' _ hcall _ hboth => not_reported_of_incomplete hcall hboth.2) hstart
  obtain ⟨s'', hstep', hcorrect⟩ := captureStep_completes h hcall
  obtain rfl : s'' = s' := Option.some.inj (hstep'.symm.trans hstep)
  exact hcorrect

/-- A call whose text is sized, but cannot be written. -/
def unwritten (text : Bytes) : PrintfCalls where
  sized := some text
  grown := true
  fresh _ := 0
  written := .error []
  same _ _ _ h := by cases h

/-- Its size is added without its text. -/
theorem unwritten_not_captured :
    ¬ ∀ calls : List CaptureCall, Run.Throughout captureStep CaptureRun.Correct .start calls ∧
      Run.EachStep captureStep Reported .start calls := by
  intro hall
  have hreported := (hall [.printf (unwritten (lit "a"))]).2 _ rfl
  have hincomplete : ¬ (CaptureCall.printf (unwritten (lit "a"))).Completes := fun h =>
    absurd (h rfl rfl) Bool.false_ne_true
  exact not_reported_of_incomplete hincomplete hreported.1

end AdbMobile
