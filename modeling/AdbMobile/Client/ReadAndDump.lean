import AdbMobile.Client.Capture

/-!
# Reading a command's output

`read_and_dump` of `client/commandline.cpp` reads what a device sends while a command runs, either
as shell-protocol packets or as raw chunks, hands it to a callback, and captures it for the
library's caller. `ShellProtocol::Read` and `adb_read` are outside the repository: a `DeviceOutput`
is what they deliver. Allocations succeed.

The capture prints each packet with `"%.*s"`, which stops at a NUL (`percentDotStarS`), and the raw
loop captures nothing, so the captured text is all that was received only for output without a NUL
in shell-protocol packets (`readAndDump_captured_iff`).
-/

namespace AdbMobile

open ByteString

/-- The ids of shell-protocol packets. -/
inductive ShellProtocolId
  | stdin | stdout | stderr | exit | closeStdin | windowSizeChange | invalid
  deriving DecidableEq, Repr

/-- A shell-protocol packet, as `ShellProtocol::Read` leaves it: its id and its `data_length()`
bytes. -/
structure ShellPacket where
  id : ShellProtocolId
  data : Bytes
  deriving DecidableEq, Repr

/-- What the device sends while a command runs. -/
inductive DeviceOutput
  /-- The packets that `ShellProtocol::Read` delivers (`use_shell_protocol` is true). -/
  | packets (ps : List ShellPacket)
  /-- The results of `adb_read` (`use_shell_protocol` is false): bytes, none of them at the end of
  the stream, or an error. -/
  | chunks (reads : List (Option Bytes))

/-- A `StandardStreamsCallbackInterface` with its own state: what each call leaves, and whether it
accepts the chunk. -/
structure StandardStreamsCallback (σ : Type) where
  onStdout : σ → Bytes → σ × Bool
  onStderr : σ → Bytes → σ × Bool
  done : σ → ℤ → ℤ

/-- A callback that accepts every chunk. -/
def StandardStreamsCallback.AcceptsAll {σ : Type} (cb : StandardStreamsCallback σ) : Prop :=
  ∀ s data, (cb.onStdout s data).2 = true ∧ (cb.onStderr s data).2 = true

/-- The bytes of a packet that are output of the command. -/
def ShellPacket.output (p : ShellPacket) : Bytes :=
  match p.id with
  | .stdout | .stderr => p.data
  | _ => []

/-- The bytes that the raw loop reads, up to the first read that returns none. -/
def rawReceived : List (Option Bytes) → Bytes
  | some (b :: bs) :: reads => (b :: bs) ++ rawReceived reads
  | _ => []

/-- The bytes of the command's output, in the order of their arrival. -/
def DeviceOutput.received : DeviceOutput → Bytes
  | .packets ps => ps.flatMap ShellPacket.output
  | .chunks reads => rawReceived reads

/-- Every packet is shorter than `2^31`. -/
def DeviceOutput.Short : DeviceOutput → Prop
  | .packets ps => ∀ p ∈ ps, p.data.length < 2 ^ 31
  | .chunks _ => True

/-- `static_cast<int>` of a `size_t`. -/
def intOfSize (n : ℕ) : ℤ := (n : ℤ).bmod (2 ^ 32)

/-- What `"%.*s"` prints for a precision and a pointer to `data`: the bytes before the first NUL, at
most `precision` of them, or all of them when the precision is negative. -/
def percentDotStarS (precision : ℤ) (data : Bytes) : Bytes :=
  cString (if precision < 0 then data else data.take precision.toNat)

/-- The variables of the reading loops. -/
structure DumpState (σ : Type) where
  /-- The caller's output buffer, if it has one. -/
  out : Option OutputBuffer
  /-- The state of the callback. -/
  callback : σ
  exitCode : ℤ
  /-- The first byte of the protocol's data buffer, which an empty packet leaves as it was. -/
  first : UInt8

/-- The `capture_printf` of a packet's data. -/
def DumpState.capture {σ : Type} (d : DumpState σ) (data : Bytes) : DumpState σ :=
  { d with out := (capturePrintf (.ok (percentDotStarS (intOfSize data.length) data)) d.out).2 }

section Loops

variable {σ : Type} (cb : StandardStreamsCallback σ)

/-- The loop of `read_and_dump_protocol`; 141 is `SIGPIPE + 128`. -/
def readAndDumpProtocol : DumpState σ → List ShellPacket → DumpState σ
  | d, [] => d
  | d, p :: ps =>
    let d := { d with first := p.data.headD d.first }
    match p.id with
    | .stdout =>
      let d := d.capture p.data
      let r := cb.onStdout d.callback p.data
      if r.2 then readAndDumpProtocol { d with callback := r.1 } ps
      else { d with callback := r.1, exitCode := 141 }
    | .stderr =>
      let d := d.capture p.data
      let r := cb.onStderr d.callback p.data
      if r.2 then readAndDumpProtocol { d with callback := r.1 } ps
      else { d with callback := r.1, exitCode := 141 }
    | .exit => readAndDumpProtocol { d with exitCode := d.first.toNat } ps
    | _ => readAndDumpProtocol d ps

/-- The raw loop of `read_and_dump`. -/
def readAndDumpRaw : DumpState σ → List (Option Bytes) → DumpState σ
  | d, some (b :: bs) :: reads =>
    let r := cb.onStdout d.callback (b :: bs)
    if r.2 then readAndDumpRaw { d with callback := r.1 } reads else { d with callback := r.1 }
  | d, _ => d

/-- `read_and_dump`: its result and the caller's buffer after it. -/
def readAndDump (fd : ℤ) (output : DeviceOutput) (out : Option OutputBuffer) (s : σ)
    (first : UInt8) : ℤ × Option OutputBuffer :=
  if fd < 0 then (0, out)
  else
    let d := match output with
      | .packets ps => readAndDumpProtocol cb ⟨out, s, 255, first⟩ ps
      | .chunks reads => readAndDumpRaw cb ⟨out, s, 0, first⟩ reads
    (cb.done d.callback d.exitCode, d.out)

end Loops

/-- What the capture prints of a packet: the output bytes before the first NUL. -/
def ShellPacket.printed (p : ShellPacket) : Bytes := cString p.output

/-- The exact condition for a complete capture: the output comes in shell-protocol packets without
a NUL, or there is none. -/
def DeviceOutput.CapturedInFull : DeviceOutput → Prop
  | .packets ps => ∀ p ∈ ps, 0 ∉ p.output
  | .chunks reads => rawReceived reads = []

/-- The precision that a packet shorter than `2^31` is printed with is its length. -/
theorem percentDotStarS_length {data : Bytes} (h : data.length < 2 ^ 31) :
    percentDotStarS (intOfSize data.length) data = cString data := by
  have hint : intOfSize data.length = data.length := Int.bmod_eq_of_le (by omega) (by omega)
  rw [percentDotStarS, hint, if_neg (by omega), Int.toNat_natCast, List.take_length]

/-- Capturing the data of a packet shorter than `2^31` appends its C string. -/
theorem DumpState.capture_spec {σ : Type} {d : DumpState σ} {b : CaptureBuffer}
    (hd : d.out = some b.val) {data : Bytes} (h : data.length < 2 ^ 31) :
    ∃ b' : CaptureBuffer, (d.capture data).out = some b'.val ∧
      b'.val.captured = b.val.captured ++ cString data := by
  obtain ⟨b', hcall, hb'⟩ := capturePrintf_spec b.property (c := .ok (cString data)) rfl rfl rfl
  obtain ⟨hwf, htext⟩ := hb'.wellFormed
  refine ⟨⟨b', hwf⟩, ?_, htext⟩
  rw [DumpState.capture, percentDotStarS_length h, hd, hcall]

/-- The protocol loop appends what the capture prints of each packet. -/
theorem readAndDumpProtocol_captured {σ : Type} {cb : StandardStreamsCallback σ}
    (hcb : cb.AcceptsAll) {ps : List ShellPacket} (hlen : ∀ p ∈ ps, p.data.length < 2 ^ 31) :
    ∀ {d : DumpState σ} {b : CaptureBuffer}, d.out = some b.val →
      ∃ b' : CaptureBuffer, (readAndDumpProtocol cb d ps).out = some b'.val ∧
        b'.val.captured = b.val.captured ++ ps.flatMap ShellPacket.printed := by
  induction ps with
  | nil => exact fun {d b} hd => ⟨b, hd, by simp⟩
  | cons p ps ih =>
    intro d b hd
    have hps : ∀ q ∈ ps, q.data.length < 2 ^ 31 := fun q hq => hlen q (List.mem_cons_of_mem p hq)
    -- A packet that is captured: its C string comes first, and the rest of the loop follows.
    have hcapture : ∀ d' : DumpState σ, ∀ b₁ : CaptureBuffer, d'.out = some b₁.val →
        b₁.val.captured = b.val.captured ++ cString p.data → p.printed = cString p.data →
        ∃ b' : CaptureBuffer, (readAndDumpProtocol cb d' ps).out = some b'.val ∧
          b'.val.captured = b.val.captured ++ (p :: ps).flatMap ShellPacket.printed := by
      intro d' b₁ hd' hb₁ hp
      obtain ⟨b', hout, htext⟩ := ih hps hd'
      exact ⟨b', hout, by rw [htext, hb₁, List.flatMap_cons, hp, List.append_assoc]⟩
    -- A packet that is not: the loop goes on from the same buffer.
    have hskip : ∀ d' : DumpState σ, d'.out = some b.val → p.printed = [] →
        ∃ b' : CaptureBuffer, (readAndDumpProtocol cb d' ps).out = some b'.val ∧
          b'.val.captured = b.val.captured ++ (p :: ps).flatMap ShellPacket.printed := by
      intro d' hd' hp
      obtain ⟨b', hout, htext⟩ := ih hps hd'
      exact ⟨b', hout, by rw [htext, List.flatMap_cons, hp, List.nil_append]⟩
    obtain ⟨b₁, hout, htext⟩ := DumpState.capture_spec
      (d := { d with first := p.data.headD d.first }) hd (hlen p List.mem_cons_self)
    obtain ⟨id, data⟩ := p
    cases id with
    | stdout =>
      simp only [readAndDumpProtocol, (hcb _ _).1, if_true]
      exact hcapture _ b₁ hout htext rfl
    | stderr =>
      simp only [readAndDumpProtocol, (hcb _ _).2, if_true]
      exact hcapture _ b₁ hout htext rfl
    | exit => exact hskip _ hd rfl
    | stdin => exact hskip _ hd rfl
    | closeStdin => exact hskip _ hd rfl
    | windowSizeChange => exact hskip _ hd rfl
    | invalid => exact hskip _ hd rfl

/-- The raw loop never touches the buffer. -/
theorem readAndDumpRaw_out {σ : Type} (cb : StandardStreamsCallback σ)
    (reads : List (Option Bytes)) : ∀ d : DumpState σ, (readAndDumpRaw cb d reads).out = d.out := by
  induction reads with
  | nil => exact fun d => rfl
  | cons r reads ih =>
    intro d
    match r with
    | none => rfl
    | some [] => rfl
    | some (b :: bs) =>
      rw [readAndDumpRaw]
      split
      · exact ih _
      · rfl

/-- With a callback that accepts every chunk and an open descriptor, `read_and_dump` captures all
the bytes received exactly when they come in shell-protocol packets without a NUL, or there are
none. -/
theorem readAndDump_captured_iff {σ : Type} {cb : StandardStreamsCallback σ}
    (hcb : cb.AcceptsAll) {fd : ℤ} (hfd : 0 ≤ fd) {output : DeviceOutput} (hlen : output.Short)
    (b : CaptureBuffer) (s : σ) (first : UInt8) :
    ∃ b' : CaptureBuffer, (readAndDump cb fd output (some b.val) s first).2 = some b'.val ∧
      (b'.val.captured = b.val.captured ++ output.received ↔ output.CapturedInFull) := by
  have hopen : ¬ fd < 0 := by omega
  simp only [readAndDump, hopen, if_false]
  cases output with
  | packets ps =>
    obtain ⟨b', hout, htext⟩ := readAndDumpProtocol_captured hcb hlen
      (d := ⟨some b.val, s, 255, first⟩) (b := b) rfl
    refine ⟨b', hout, ?_⟩
    rw [htext, List.append_cancel_left_eq, DeviceOutput.received,
      flatMap_prefix_eq_iff fun p _ => cString_isPrefix p.output]
    exact forall₂_congr fun p _ => cString_eq_self_iff p.output
  | chunks reads =>
    refine ⟨b, readAndDumpRaw_out cb reads _, ?_⟩
    exact List.self_eq_append_right

/-- A callback that accepts everything and returns the exit code. -/
def silentCallback : StandardStreamsCallback Unit :=
  ⟨fun s _ => (s, true), fun s _ => (s, true), fun _ status => status⟩

/-- The two packets `ok` and `!`, on stdout and stderr. -/
theorem readAndDump_captured_ok :
    ∃ b' : CaptureBuffer,
      (readAndDump silentCallback 3 (.packets [⟨.stdout, lit "ok"⟩, ⟨.stderr, lit "!"⟩])
        (some CaptureBuffer.empty.val) () 0).2 = some b'.val ∧
      (b'.val.captured = [] ++ lit "ok!" ↔
        DeviceOutput.CapturedInFull (.packets [⟨.stdout, lit "ok"⟩, ⟨.stderr, lit "!"⟩])) :=
  readAndDump_captured_iff (fun _ _ => ⟨rfl, rfl⟩) (by decide)
    (by unfold DeviceOutput.Short; decide) CaptureBuffer.empty () 0

/-- A stdout packet of the bytes `a`, NUL, `b` is captured as `a`. -/
theorem readAndDump_not_captured :
    ¬ ∀ (output : DeviceOutput) (b : CaptureBuffer), output.Short →
      ∃ b' : CaptureBuffer,
        (readAndDump silentCallback 3 output (some b.val) () 0).2 = some b'.val ∧
          b'.val.captured = b.val.captured ++ output.received := by
  intro h
  obtain ⟨b', hout, htext⟩ :=
    h (.packets [⟨.stdout, [97, 0, 98]⟩]) CaptureBuffer.empty (by unfold DeviceOutput.Short; decide)
  have hb' : b'.val = ⟨some [97, 0], 1⟩ := (Option.some.inj hout).symm
  rw [hb'] at htext
  exact absurd htext (by decide)

end AdbMobile
