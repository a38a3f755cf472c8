import AdbMobile.Client.Sync.Pull

/-!
# Pulling a bug report

`BugreportStandardStreamsCallback` of `client/bugreport.cpp` reads the lines of `bugreportz`, one
byte after the other. A line `BEGIN:` or `OK:` names the report on the device, and when the command
is done `Done` pulls it, into the directory that the user chose under the base name that the device
chose. What the callback does depends on the lines alone, so the cut of the output into chunks does
not matter (`processOutput_alike`, `bugreport_apply`).

A base name never has a slash in it, but it can be `..`. The destination is then the parent of the
directory, which `do_sync_pull` takes for an existing directory. So a report is written inside the
chosen directory exactly when the path reported last has another base name, or is too long to be
asked for (`bugreport_inside_iff`).
-/

namespace AdbMobile

open ByteString PosixPath

/-- `'\n'`. -/
abbrev newline : UInt8 := 10

/-- How a line ends the process: `std::stoi` throws, or the arithmetic has no defined value. -/
inductive BugreportFault
  | invalidArgument | outOfRange | overflow | divisionByZero
  deriving DecidableEq, Repr

/-- What the callback does. -/
inductive BugreportEvent
  | stderr (text : Bytes)
  | stdout (text : Bytes)
  /-- `UpdateProgress`. -/
  | progress (message : Bytes) (percentage : ℤ)
  /-- `DoSyncPull`, of one source. -/
  | pull (src dst name : Bytes)
  deriving DecidableEq, Repr

/-- `BugreportStandardStreamsCallback`. -/
structure BugreportCallback where
  srcFile : Bytes
  destDir : Bytes
  destFile : Bytes
  lineMessage : Bytes
  invalidLines : List Bytes
  showProgress : Bool
  status : ℤ
  line : Bytes
  lastProgressPercentage : ℤ
  deriving DecidableEq, Repr

/-- A program of the callback. -/
abbrev BugreportM := Prog BugreportCallback BugreportEvent BugreportFault

/-! ## Numbers in a line -/

/-- `isspace`. -/
def isSpace (b : UInt8) : Bool := b = 32 ∨ (9 ≤ b ∧ b ≤ 13)

/-- `isdigit`. -/
def isDigit (b : UInt8) : Bool := 48 ≤ b ∧ b ≤ 57

/-- The number that digits denote. -/
def digitsValue (digits : Bytes) : ℕ := digits.foldl (fun n d => 10 * n + (d.toNat - 48)) 0

/-- `std::stoi`: spaces, a sign, and digits, and then whatever follows. -/
def stoi (s : Bytes) : Except BugreportFault ℤ :=
  let s := s.dropWhile isSpace
  let negative := s.head? = some 45
  let unsigned := if negative ∨ s.head? = some 43 then s.tail else s
  let digits := unsigned.takeWhile isDigit
  if digits = [] then .error .invalidArgument
  else
    let n : ℤ := if negative then -digitsValue digits else digitsValue digits
    if -2 ^ 31 ≤ n ∧ n < 2 ^ 31 then .ok n else .error .outOfRange

/-- `std::string::npos`. -/
def npos : ℕ := 2 ^ 64 - 1

/-- `std::string::rfind`. -/
def rfind (s pattern : Bytes) : ℕ :=
  ((List.range (s.length + 1)).reverse.find? fun i => pattern.isPrefixOf (s.drop i)).getD npos

/-- The percentage of a line `PROGRESS:`. The indices are those of a `size_t`. -/
def progressPercentage (line : Bytes) : Except BugreportFault ℤ := do
  let idx1 := rfind line (lit "PROGRESS:") + (lit "PROGRESS:").length
  let idx2 := rfind line (lit "/")
  let progress ← stoi ((line.drop idx1).take ((idx2 + 2 ^ 64 - idx1) % 2 ^ 64))
  let total ← stoi (line.drop ((idx2 + 1) % 2 ^ 64))
  if progress * 100 < -2 ^ 31 ∨ 2 ^ 31 ≤ progress * 100 then .error .overflow
  else if total = 0 then .error .divisionByZero
  else .ok ((progress * 100).tdiv total)

/-! ## The callback -/

/-- `SetLineMessage`. -/
def setLineMessage (action : Bytes) : BugreportM Unit :=
  Prog.modify fun c => { c with lineMessage := action ++ lit " " ++ basename c.destFile }

/-- `SetSrcFile`. -/
def setSrcFile (path : Bytes) : BugreportM Unit := do
  Prog.modify fun c => { c with srcFile := path }
  let c ← Prog.get
  if c.destDir ≠ [] then
    Prog.modify fun c => { c with destFile := basename path }
    setLineMessage (lit "generating")
  else return

/-- `ProcessLine`. What follows a prefix is passed on as a C string. -/
def processLine (line : Bytes) : BugreportM Unit := do
  if line = [] then return
  else
    match consumePrefix line (lit "BEGIN:") with
    | some path => setSrcFile (cString path)
    | none =>
      match consumePrefix line (lit "OK:") with
      | some path => setSrcFile (cString path)
      | none =>
        match consumePrefix line (lit "FAIL:") with
        | some message =>
          Prog.emit (.stderr (lit "adb: device failed to take a zipped bugreport: " ++
            cString message ++ lit "\n"))
          Prog.modify fun c => { c with status := -1 }
        | none =>
          let c ← Prog.get
          if c.showProgress ∧ (consumePrefix line (lit "PROGRESS:")).isSome then
            match progressPercentage line with
            | .error fault => Prog.exit fault
            | .ok percentage =>
              if percentage ≠ 0 ∧ percentage ≤ c.lastProgressPercentage then return
              else
                Prog.modify fun c => { c with lastProgressPercentage := percentage }
                Prog.emit (.progress c.lineMessage percentage)
          else Prog.modify fun c => { c with invalidLines := c.invalidLines ++ [line] }

/-- A byte of `OnStdout`. -/
def onStdoutByte (b : UInt8) : BugreportM Unit := do
  if b = newline then
    let c ← Prog.get
    processLine c.line
    Prog.modify fun c => { c with line := [] }
  else Prog.modify fun c => { c with line := c.line ++ [b] }

/-- `OnStdout`. -/
def onStdout (buffer : Bytes) : BugreportM Bool := do
  Prog.foldM (fun _ b => onStdoutByte b) () buffer
  return true

/-- The warning about lines that are not understood. -/
def warnInvalidLines (invalidLines : List Bytes) : BugreportM Unit := do
  if invalidLines ≠ [] then
    Prog.emit (.stderr (lit "WARNING: bugreportz generated " ++ decimal invalidLines.length ++
      lit " line(s) with unknown commands, device might not support zipped bugreports:\n"))
    Prog.foldM (fun _ line => Prog.emit (.stderr (lit "\t" ++ cString line ++ lit "\n"))) ()
      invalidLines
    Prog.emit (.stderr (lit
      "If the zipped bugreport was not generated, try 'adb bugreport' instead.\n"))
  else return

/-- Where the report is pulled to. -/
def BugreportCallback.destination (c : BugreportCallback) : Bytes :=
  if c.destDir = [] then c.destFile else c.destDir ++ [slash] ++ c.destFile

/-- Pulls the report. `pullSucceeds` is what `do_sync_pull` returns. -/
def pullReport (pullSucceeds : Bytes → Bytes → Bool) (src destination : Bytes) : BugreportM ℤ := do
  setLineMessage (lit "pulling")
  Prog.emit (.pull src destination (← Prog.get).lineMessage)
  let status := if pullSucceeds src destination then 0 else 1
  Prog.modify fun c => { c with status := status }
  Prog.emit (if pullSucceeds src destination then
      .stdout (lit "Bug report copied to " ++ destination ++ lit "\n")
    else
      .stderr (lit "Bug report finished but could not be copied to '" ++ destination ++
        lit "'.\nTry to run 'adb pull " ++ src ++
        lit " <directory>'\nto copy it to a directory that can be written.\n"))
  return status

/-- The end of `Done`, once the last line is processed. -/
def finishReport (pullSucceeds : Bytes → Bytes → Bool) : BugreportM ℤ := do
  let c ← Prog.get
  if c.status ≠ 0 then return c.status
  else if c.srcFile = [] then
    Prog.emit (.stderr (lit "bugreportz did not return a 'OK:' or 'FAIL:' line\n"))
    return -1
  else pullReport pullSucceeds c.srcFile c.destination

/-- `Done`. -/
def bugreportDone (pullSucceeds : Bytes → Bytes → Bool) : BugreportM ℤ := do
  processLine (← Prog.get).line
  warnInvalidLines (← Prog.get).invalidLines
  finishReport pullSucceeds

/-- The callback as its constructor leaves it. -/
def BugreportCallback.new (destDir destFile : Bytes) (showProgress : Bool) : BugreportCallback where
  srcFile := []
  destDir := destDir
  destFile := destFile
  lineMessage := lit "generating" ++ lit " " ++ basename destFile
  invalidLines := []
  showProgress := showProgress
  status := 0
  line := []
  lastProgressPercentage := 0

/-- What the callback does with the output of `bugreportz`, in chunks, and then at its end. -/
def bugreport (pullSucceeds : Bytes → Bytes → Bool) (chunks : List Bytes) : BugreportM ℤ := do
  let _ ← Prog.allM onStdout chunks
  bugreportDone pullSucceeds

/-! ## Line by line -/

/-- The callback on lines, one after the other. -/
def processLines (lines : List Bytes) : BugreportM Unit :=
  Prog.foldM (fun _ line => processLine line) () lines

/-- The bytes of the output, and then the line that is left at its end. -/
def processOutput (bytes : Bytes) : BugreportM Unit := do
  Prog.foldM (fun _ b => onStdoutByte b) () bytes
  processLine (← Prog.get).line

/-- What `Done` does once the last line is processed. -/
def reportEnd (pullSucceeds : Bytes → Bytes → Bool) : BugreportM ℤ := do
  warnInvalidLines (← Prog.get).invalidLines
  finishReport pullSucceeds

/-- Callbacks that differ at most in the line that is not complete. -/
def SameButLine (c c' : BugreportCallback) : Prop := ∃ line, c' = { c with line := line }

/-- What `ProcessLine` does depends on no line but its argument. -/
theorem processLine_respects (line : Bytes) : Prog.Respects SameButLine (processLine line) := by
  have hmodify : ∀ f : BugreportCallback → BugreportCallback,
      (∀ c line, f { c with line := line } = { f c with line := line }) →
      Prog.Respects SameButLine (Prog.modify f : BugreportM Unit) := fun f hf =>
    .modify fun c _ ⟨line, hline⟩ => ⟨line, by rw [hline, hf]⟩
  have hread : ∀ {α : Type} (f : BugreportCallback → BugreportM α),
      (∀ c line, f { c with line := line } = f c) → (∀ c, Prog.Respects SameButLine (f c)) →
      Prog.Respects SameButLine (Prog.get >>= f) := fun f hf =>
    .get_bind fun c _ ⟨line, hline⟩ => by rw [hline, hf c line]
  -- No step reads or writes the line that is not complete.
  have hsrc : ∀ path, Prog.Respects SameButLine (setSrcFile path) := fun path =>
    .bind (hmodify _ fun _ _ => rfl) fun _ => hread _ (fun _ _ => rfl) fun c =>
      .ite (fun _ => .bind (hmodify _ fun _ _ => rfl) fun _ => hmodify _ fun _ _ => rfl)
        fun _ => .pure ()
  unfold processLine
  refine .ite (fun _ => .pure ()) fun _ => ?_
  cases consumePrefix line (lit "BEGIN:") with
  | some path => exact hsrc _
  | none =>
  cases consumePrefix line (lit "OK:") with
  | some path => exact hsrc _
  | none =>
  cases consumePrefix line (lit "FAIL:") with
  | some message => exact .bind (.emit _) fun _ => hmodify _ fun _ _ => rfl
  | none =>
  have hinvalid := hmodify (fun c => { c with invalidLines := c.invalidLines ++ [line] })
    fun _ _ => rfl
  cases progressPercentage line with
  | error fault =>
    exact hread _ (fun _ _ => rfl) fun c => .ite (fun _ => .exit fault) fun _ => hinvalid
  | ok percentage =>
    have hlast := hmodify (fun c => { c with lastProgressPercentage := percentage }) fun _ _ => rfl
    exact hread _ (fun _ _ => rfl) fun c => .ite
      (fun _ => .ite (fun _ => .pure ()) fun _ => .bind hlast fun _ => .emit _) fun _ => hinvalid

/-- The lines of the output are processed. -/
theorem processOutput_alike (bytes : Bytes) : ∀ {c c' : BugreportCallback}, SameButLine c c' →
    newline ∉ c.line → Prog.Alike SameButLine (processOutput bytes c)
      (processLines (split newline (c.line ++ bytes)) c') := by
  induction bytes with
  | nil =>
    intro c c' h hline
    rw [List.append_nil, split_eq_singleton_iff.mpr ⟨rfl, hline⟩]
    have hlast : processLines [c.line] c' = processLine c.line c' := Prog.bind_pure_right _ c'
    rw [hlast]
    exact processLine_respects c.line c c' h
  | cons b bytes ih =>
    intro c c' h hline
    have hcons : processOutput (b :: bytes) c =
        (onStdoutByte b >>= fun _ => processOutput bytes) c :=
      Prog.bind_bind_apply _ _ _ c
    rw [hcons]
    by_cases hb : b = newline
    · subst hb
      have hbyte : (onStdoutByte newline >>= fun _ => processOutput bytes) c =
          (processLine c.line >>= fun _ => Prog.modify (fun c => { c with line := [] }) >>= fun _ =>
            processOutput bytes) c :=
        Eq.trans (show _ = ((processLine c.line >>= fun _ => (Prog.modify fun c =>
          { c with line := [] } : BugreportM Unit)) >>= fun _ => processOutput bytes) c from rfl)
          (Prog.bind_bind_apply _ _ _ c)
      rw [hbyte, split_append_cons, split_eq_singleton_iff.mpr ⟨rfl, hline⟩]
      -- The next line starts empty, whatever this one did to the rest of the callback.
      refine (processLine_respects c.line c c' h).seq (fun _ _ => id) fun _ d d' _ hd => ?_
      rw [Prog.bind_modify_apply]
      exact ih hd List.not_mem_nil
    · have hbyte : onStdoutByte b c = ⟨.ok (), { c with line := c.line ++ [b] }, []⟩ := by
        rw [onStdoutByte, if_neg hb, Prog.modify_apply]
      rw [Prog.bind_of_run hbyte, Prog.after_nil,
        show c.line ++ b :: bytes = c.line ++ [b] ++ bytes by simp]
      exact ih (c := { c with line := c.line ++ [b] }) h (by simpa [hline] using Ne.symm hb)

/-- `OnStdout` in chunks is `OnStdout` of all of them. -/
theorem allM_onStdout (chunks : List Bytes) :
    Prog.allM onStdout chunks = onStdout chunks.flatten := by
  induction chunks with
  | nil => rfl
  | cons chunk chunks ih =>
    funext c
    calc Prog.allM onStdout (chunk :: chunks) c
        = (Prog.foldM (fun _ b => onStdoutByte b) () chunk >>= fun _ =>
            Prog.allM onStdout chunks) c := Prog.bind_bind_apply _ _ _ c
      _ = (Prog.foldM (fun _ b => onStdoutByte b) () chunk >>= fun _ =>
            onStdout chunks.flatten) c := by rw [ih]
      _ = ((Prog.foldM (fun _ b => onStdoutByte b) () chunk >>= fun u =>
            Prog.foldM (fun _ b => onStdoutByte b) u chunks.flatten) >>= fun _ =>
              (pure true : BugreportM Bool)) c := (Prog.bind_bind_apply _ _ _ c).symm
      _ = onStdout (chunk :: chunks).flatten c := by
          rw [← Prog.foldM_append, List.flatten_cons]
          rfl

/-- The output is processed, however it is cut into chunks, and then comes the end. -/
theorem bugreport_apply (pullSucceeds : Bytes → Bytes → Bool) (chunks : List Bytes)
    (c : BugreportCallback) : bugreport pullSucceeds chunks c =
      (processOutput chunks.flatten >>= fun _ => reportEnd pullSucceeds) c := by
  have hdone : ∀ c, bugreportDone pullSucceeds c =
      ((Prog.get >>= fun c => processLine c.line) >>= fun _ => reportEnd pullSucceeds) c := fun c =>
    (Prog.bind_bind_apply _ _ _ c).symm
  calc bugreport pullSucceeds chunks c
      = (onStdout chunks.flatten >>= fun _ => bugreportDone pullSucceeds) c := by
        rw [bugreport, allM_onStdout]
    _ = (Prog.foldM (fun _ b => onStdoutByte b) () chunks.flatten >>= fun _ =>
          bugreportDone pullSucceeds) c := Prog.bind_bind_apply _ _ _ c
    _ = (Prog.foldM (fun _ b => onStdoutByte b) () chunks.flatten >>= fun _ =>
          (Prog.get >>= fun c => processLine c.line) >>= fun _ => reportEnd pullSucceeds) c := by
        rw [funext hdone]
    _ = (processOutput chunks.flatten >>= fun _ => reportEnd pullSucceeds) c :=
        (Prog.bind_bind_apply _ _ _ c).symm

/-! ## What the lines say -/

/-- The path that a line names. -/
def linePath (line : Bytes) : Option Bytes :=
  ((consumePrefix line (lit "BEGIN:")).or (consumePrefix line (lit "OK:"))).map cString

/-- The line reports that the device failed. -/
def FailLine (line : Bytes) : Prop := lit "FAIL:" <+: line

/-- The line reports progress that cannot be computed. -/
def FaultyLine (showProgress : Bool) (line : Bytes) : Prop :=
  showProgress = true ∧ lit "PROGRESS:" <+: line ∧ ∀ percentage,
    progressPercentage line ≠ .ok percentage

/-- The line is one that reports progress, and progress is to be shown. -/
def ProgressLine (showProgress : Bool) (line : Bytes) : Prop :=
  showProgress = true ∧ lit "PROGRESS:" <+: line

instance (showProgress : Bool) (line : Bytes) : Decidable (ProgressLine showProgress line) :=
  inferInstanceAs (Decidable (_ ∧ _))

/-- What is no prefix is not consumed. -/
theorem consumePrefix_eq_none_iff {s p : Bytes} : consumePrefix s p = none ↔ ¬ p <+: s := by
  rw [Option.eq_none_iff_forall_ne_some]
  constructor
  · rintro h ⟨rest, hrest⟩
    exact h rest (consumePrefix_eq_some_iff.mpr hrest.symm)
  · rintro h rest hrest
    exact h ⟨rest, (consumePrefix_eq_some_iff.mp hrest).symm⟩

theorem consumePrefix_isSome_iff {s p : Bytes} : (consumePrefix s p).isSome ↔ p <+: s := by
  rw [Option.isSome_iff_ne_none, Ne, consumePrefix_eq_none_iff, not_not]

/-- Two prefixes of which neither is one of the other. -/
theorem not_starts_of_starts {p q s : Bytes} (hp : p <+: s) (hpq : ¬ p <+: q) (hqp : ¬ q <+: p) :
    ¬ q <+: s := fun hq => (List.prefix_or_prefix_of_prefix hp hq).elim hpq hqp

theorem linePath_eq_none_iff {line : Bytes} : linePath line = none ↔
    consumePrefix line (lit "BEGIN:") = none ∧ consumePrefix line (lit "OK:") = none := by
  rw [linePath, Option.map_eq_none_iff, Option.or_eq_none_iff]

/-- A line with another mark names no path. -/
theorem linePath_eq_none_of_mark {line mark : Bytes} (h : mark <+: line)
    (hbegin : ¬ mark <+: lit "BEGIN:" ∧ ¬ lit "BEGIN:" <+: mark)
    (hok : ¬ mark <+: lit "OK:" ∧ ¬ lit "OK:" <+: mark) : linePath line = none :=
  linePath_eq_none_iff.mpr
    ⟨consumePrefix_eq_none_iff.mpr (not_starts_of_starts h hbegin.1 hbegin.2),
      consumePrefix_eq_none_iff.mpr (not_starts_of_starts h hok.1 hok.2)⟩

theorem linePath_of_failLine {line : Bytes} (h : FailLine line) : linePath line = none :=
  linePath_eq_none_of_mark h (by decide) (by decide)

/-- A line that names a path. -/
theorem processLine_path {line path : Bytes} (hpath : linePath line = some path) :
    processLine line = setSrcFile path := by
  have hnil : line ≠ [] := by
    rintro rfl
    cases hpath
  rw [processLine, if_neg hnil]
  rw [linePath] at hpath
  cases hbegin : consumePrefix line (lit "BEGIN:") with
  | some rest =>
    rw [hbegin] at hpath
    exact congrArg setSrcFile (Option.some.inj hpath)
  | none =>
  cases hok : consumePrefix line (lit "OK:") with
  | some rest =>
    rw [hbegin, hok] at hpath
    exact congrArg setSrcFile (Option.some.inj hpath)
  | none =>
    rw [hbegin, hok] at hpath
    cases hpath

/-- A line that reports a failure. -/
theorem processLine_fail {line : Bytes} (hfail : FailLine line) (c : BugreportCallback) :
    ∃ text, processLine line c = ⟨.ok (), { c with status := -1 }, [.stderr text]⟩ := by
  have hnil : line ≠ [] := by
    rintro rfl
    exact absurd hfail (by unfold FailLine; decide)
  obtain ⟨hbegin, hok⟩ := linePath_eq_none_iff.mp (linePath_of_failLine hfail)
  obtain ⟨message, hmessage⟩ := hfail
  have hconsume : consumePrefix line (lit "FAIL:") = some message :=
    consumePrefix_eq_some_iff.mpr hmessage.symm
  refine ⟨lit "adb: device failed to take a zipped bugreport: " ++ cString message ++ lit "\n", ?_⟩
  rw [processLine, if_neg hnil, hbegin, hok, hconsume]
  rfl

/-- A line that is not understood. -/
theorem processLine_invalid {line : Bytes} {c : BugreportCallback} (hnil : line ≠ [])
    (hpath : linePath line = none) (hfail : ¬ FailLine line)
    (hprogress : ¬ ProgressLine c.showProgress line) :
    processLine line c = ⟨.ok (), { c with invalidLines := c.invalidLines ++ [line] }, []⟩ := by
  obtain ⟨hbegin, hok⟩ := linePath_eq_none_iff.mp hpath
  have hnot : ¬ (c.showProgress ∧ (consumePrefix line (lit "PROGRESS:")).isSome) := by
    rwa [consumePrefix_isSome_iff]
  rw [processLine, if_neg hnil, hbegin, hok, consumePrefix_eq_none_iff.mpr hfail]
  dsimp only
  rw [Prog.bind_get_apply, if_neg hnot]
  rfl

/-- A line that reports progress names no path and reports no failure. -/
theorem ProgressLine.other {showProgress : Bool} {line : Bytes}
    (h : ProgressLine showProgress line) : linePath line = none ∧ ¬ FailLine line :=
  ⟨linePath_eq_none_of_mark h.2 (by decide) (by decide),
    not_starts_of_starts h.2 (by decide) (by decide)⟩

/-- A line that reports progress. -/
theorem processLine_progress {line : Bytes} {c : BugreportCallback}
    (h : ProgressLine c.showProgress line) : (∀ fault, progressPercentage line = .error fault →
      processLine line c = ⟨.error fault, c, []⟩) ∧ ∀ percentage,
        progressPercentage line = .ok percentage → processLine line c =
          if percentage ≠ 0 ∧ percentage ≤ c.lastProgressPercentage then ⟨.ok (), c, []⟩
          else ⟨.ok (), { c with lastProgressPercentage := percentage },
            [.progress c.lineMessage percentage]⟩ := by
  have hline : line ≠ [] := by
    rintro rfl
    exact absurd h.2 (by decide)
  obtain ⟨hpath, hfail⟩ := h.other
  obtain ⟨hbegin, hok⟩ := linePath_eq_none_iff.mp hpath
  have hprogress : c.showProgress ∧ (consumePrefix line (lit "PROGRESS:")).isSome :=
    ⟨h.1, consumePrefix_isSome_iff.mpr h.2⟩
  rw [processLine, if_neg hline, hbegin, hok, consumePrefix_eq_none_iff.mpr hfail]
  dsimp only
  rw [Prog.bind_get_apply, if_pos hprogress]
  constructor
  · intro fault hfault
    rw [hfault]
    rfl
  · intro percentage hpercentage
    rw [hpercentage]
    dsimp only
    split <;> rfl

/-- The path that was named last. -/
def reportedPath (lines : List Bytes) : Option Bytes := (lines.filterMap linePath).getLast?

/-- The callback has processed these lines. -/
structure Processed (destDir : Bytes) (showProgress : Bool) (lines : List Bytes)
    (c : BugreportCallback) : Prop where
  destDir : c.destDir = destDir
  showProgress : c.showProgress = showProgress
  srcFile : c.srcFile = (reportedPath lines).getD []
  destFile : ∀ path, reportedPath lines = some path → c.destFile = basename path
  status : c.status = 0 ↔ ∀ line ∈ lines, ¬ FailLine line

/-- Nothing is pulled. -/
def NoPull (t : List BugreportEvent) : Prop := ∀ src dst name, .pull src dst name ∉ t

theorem NoPull.append {t t' : List BugreportEvent} (h : NoPull t) (h' : NoPull t') :
    NoPull (t ++ t') := fun src dst name hmem =>
  (List.mem_append.mp hmem).elim (h src dst name) (h' src dst name)

theorem noPull_nil : NoPull [] := fun _ _ _ => List.not_mem_nil

theorem noPull_stderr (text : Bytes) : NoPull [.stderr text] := fun _ _ _ hmem => by
  cases List.mem_singleton.mp hmem

/-- A run that ends the process, or ends as `Q` says, according to `P`, without pulling anything. -/
def Feeds {α : Type} (p : BugreportM α) (c : BugreportCallback) (P : Prop)
    (Q : BugreportCallback → Prop) : Prop :=
  (P ∧ (∃ fault, (p c).result = .error fault) ∧ NoPull (p c).trace) ∨
    (¬ P ∧ Prog.Runs p c fun _ c' t => Q c' ∧ NoPull t)

/-- One program after another: the run ends the process where either does. -/
theorem Feeds.bind {α β : Type} {p : BugreportM α} {f : α → BugreportM β}
    {c : BugreportCallback} {P R : Prop} {M Q : BugreportCallback → Prop} (hp : Feeds p c P M)
    (hf : ∀ a c', M c' → Feeds (f a) c' R Q) : Feeds (p >>= f) c (P ∨ R) Q := by
  obtain ⟨hP, ⟨fault, hfault⟩, ht⟩ | ⟨hP, a, ha, hM, ht⟩ := hp
  · refine .inl ⟨.inl hP, ⟨fault, ?_⟩, ?_⟩
    · rw [Prog.bind_apply_error hfault]
    · rw [Prog.bind_apply_error hfault]
      exact ht
  · obtain ⟨hR, ⟨fault, hfault⟩, ht'⟩ | ⟨hR, a', ha', hQ, ht'⟩ := hf a _ hM
    · refine .inl ⟨.inr hR, ⟨fault, ?_⟩, ?_⟩
      · rw [Prog.bind_apply_ok ha]
        exact hfault
      · rw [Prog.bind_apply_ok ha]
        exact ht.append ht'
    · refine .inr ⟨not_or.mpr ⟨hP, hR⟩, ?_⟩
      rw [Prog.Runs, Prog.bind_apply_ok ha]
      exact ⟨a', ha', hQ, ht.append ht'⟩

theorem Feeds.imp {α : Type} {p : BugreportM α} {c : BugreportCallback} {P P' : Prop}
    {Q Q' : BugreportCallback → Prop} (h : Feeds p c P Q) (hP : P ↔ P') (hQ : ∀ c, Q c → Q' c) :
    Feeds p c P' Q' := by
  obtain ⟨h, hfault⟩ | ⟨h, hruns⟩ := h
  · exact .inl ⟨hP.mp h, hfault⟩
  · exact .inr ⟨fun h' => h (hP.mpr h'), hruns.mono fun _ c' _ hc => ⟨hQ c' hc.1, hc.2⟩⟩

variable {destDir : Bytes} {showProgress : Bool} {lines : List Bytes} {c : BugreportCallback}

theorem reportedPath_concat (lines : List Bytes) (line : Bytes) :
    reportedPath (lines ++ [line]) = (linePath line).or (reportedPath lines) := by
  unfold reportedPath
  rw [List.filterMap_append]
  cases hline : linePath line with
  | none => simp [hline]
  | some path => simp [hline]

/-- A line that names no path and reports no failure. -/
theorem Processed.other (h : Processed destDir showProgress lines c) {line : Bytes}
    (hpath : linePath line = none) (hfail : ¬ FailLine line) :
    Processed destDir showProgress (lines ++ [line]) c where
  destDir := h.destDir
  showProgress := h.showProgress
  srcFile := by rw [reportedPath_concat, hpath, Option.none_or, h.srcFile]
  destFile := by
    rw [reportedPath_concat, hpath, Option.none_or]
    exact h.destFile
  status := by
    rw [h.status, List.forall_mem_append, List.forall_mem_singleton, and_iff_left hfail]

/-- A line that names a path. -/
theorem Processed.path (hdir : destDir ≠ []) (h : Processed destDir showProgress lines c)
    {line path : Bytes} (hpath : linePath line = some path) :
    Prog.Runs (setSrcFile path) c fun _ c' t =>
      Processed destDir showProgress (lines ++ [line]) c' ∧ NoPull t := by
  have hreported : reportedPath (lines ++ [line]) = some path := by
    rw [reportedPath_concat, hpath, Option.some_or]
  have hfail : ¬ FailLine line := fun hfail => by
    rw [linePath_of_failLine hfail] at hpath
    cases hpath
  refine .modify_bind (.get_bind ?_)
  rw [if_pos (show _ ≠ _ from h.destDir.symm ▸ hdir)]
  refine ⟨(), rfl, ⟨h.destDir, h.showProgress, ?_, ?_, ?_⟩, noPull_nil⟩
  · rw [hreported]
    rfl
  · rw [hreported]
    rintro path' ⟨⟩
    rfl
  · show c.status = 0 ↔ _
    rw [h.status, List.forall_mem_append, List.forall_mem_singleton, and_iff_left hfail]

/-- A line that reports a failure. -/
theorem Processed.fail (h : Processed destDir showProgress lines c) {line : Bytes}
    (hfail : FailLine line) :
    Processed destDir showProgress (lines ++ [line]) { c with status := -1 } where
  destDir := h.destDir
  showProgress := h.showProgress
  srcFile := by
    rw [reportedPath_concat, linePath_of_failLine hfail, Option.none_or]
    exact h.srcFile
  destFile := by
    rw [reportedPath_concat, linePath_of_failLine hfail, Option.none_or]
    exact h.destFile
  status := iff_of_false (show ¬ (-1 : ℤ) = 0 by decide) fun hall => hall line (by simp) hfail

/-- A line that reports progress is processed, unless its numbers cannot be used. -/
theorem processLine_progress_feeds (h : Processed destDir showProgress lines c) {line : Bytes}
    (hprogress : ProgressLine c.showProgress line) :
    Feeds (processLine line) c (FaultyLine showProgress line)
      (Processed destDir showProgress (lines ++ [line])) := by
  obtain ⟨hfaults, hshows⟩ := processLine_progress hprogress
  have hother := h.other hprogress.other.1 hprogress.other.2
  rw [Feeds, Prog.Runs]
  cases hpercentage : progressPercentage line with
  | error fault =>
    have hfaulty : FaultyLine showProgress line := by
      refine ⟨h.showProgress ▸ hprogress.1, hprogress.2, fun percentage hok => ?_⟩
      rw [hpercentage] at hok
      cases hok
    rw [hfaults fault hpercentage]
    exact .inl ⟨hfaulty, ⟨fault, rfl⟩, noPull_nil⟩
  | ok percentage =>
    rw [hshows percentage hpercentage]
    refine .inr ⟨fun hfaulty => hfaulty.2.2 percentage hpercentage, ?_⟩
    split
    · exact ⟨(), rfl, hother, noPull_nil⟩
    · refine ⟨(), rfl, { hother with }, fun src dst name hmem => ?_⟩
      cases List.mem_singleton.mp hmem

/-- A line is processed, unless it ends the process. -/
theorem processLine_feeds (hdir : destDir ≠ []) (h : Processed destDir showProgress lines c)
    (line : Bytes) : Feeds (processLine line) c (FaultyLine showProgress line)
      (Processed destDir showProgress (lines ++ [line])) := by
  by_cases hprogress : ProgressLine c.showProgress line
  · exact processLine_progress_feeds h hprogress
  -- No other line is faulty, so what is left is what it does to the callback.
  refine .inr ⟨fun hfaulty => hprogress ⟨h.showProgress ▸ hfaulty.1, hfaulty.2.1⟩, ?_⟩
  by_cases hnil : line = []
  · subst hnil
    exact .pure ⟨h.other rfl (by unfold FailLine; decide), noPull_nil⟩
  cases hpath : linePath line with
  | some path =>
    rw [processLine_path hpath]
    exact h.path hdir hpath
  | none =>
  by_cases hfail : FailLine line
  · obtain ⟨text, hfails⟩ := processLine_fail hfail c
    rw [Prog.Runs, hfails]
    exact ⟨(), rfl, h.fail hfail, noPull_stderr text⟩
  · rw [Prog.Runs, processLine_invalid hnil hpath hfail hprogress]
    exact ⟨(), rfl, { h.other hpath hfail with }, noPull_nil⟩

/-- Lines are processed, unless one of them ends the process. -/
theorem processLines_feeds (hdir : destDir ≠ []) (more : List Bytes) :
    ∀ {lines : List Bytes} {c : BugreportCallback}, Processed destDir showProgress lines c →
      Feeds (processLines more) c (∃ line ∈ more, FaultyLine showProgress line)
        (Processed destDir showProgress (lines ++ more)) := by
  induction more with
  | nil =>
    intro lines c h
    exact .inr ⟨fun ⟨_, hmem, _⟩ => absurd hmem List.not_mem_nil,
      .pure ⟨by rwa [List.append_nil], noPull_nil⟩⟩
  | cons line more ih =>
    intro lines c h
    have hrest := (processLine_feeds hdir h line).bind fun _ _ hc => ih hc
    exact hrest.imp (by simp) fun c' hc' => by rwa [List.append_assoc] at hc'

/-! ## What is pulled -/

/-- The lines have this report pulled: each is understood, none reports a failure, and the report is
the one named last. -/
structure Pulls (showProgress : Bool) (lines : List Bytes) (src : Bytes) : Prop where
  understood : ¬ ∃ line ∈ lines, FaultyLine showProgress line
  succeeded : ∀ line ∈ lines, ¬ FailLine line
  reported : reportedPath lines = some src
  named : src ≠ []

/-- What the end of `Done` pulls: the report, where the status is zero and a path was named. -/
theorem finishReport_pull_iff (pullSucceeds : Bytes → Bytes → Bool) (c : BugreportCallback)
    (src dst : Bytes) :
    (∃ name, .pull src dst name ∈ (finishReport pullSucceeds c).trace) ↔
      c.status = 0 ∧ c.srcFile ≠ [] ∧ src = c.srcFile ∧ dst = c.destination := by
  rw [finishReport, Prog.bind_get_apply]
  by_cases hstatus : c.status = 0
  · rw [if_neg (not_not.mpr hstatus)]
    by_cases hsrc : c.srcFile = []
    · rw [if_pos hsrc]
      refine iff_of_false ?_ fun h => h.2.1 hsrc
      rintro ⟨name, hmem⟩
      cases List.mem_singleton.mp hmem
    · rw [if_neg hsrc]
      constructor
      · rintro ⟨name, hmem⟩
        obtain hpull | hmem := List.mem_cons.mp hmem
        · cases hpull
          exact ⟨hstatus, hsrc, rfl, rfl⟩
        · have hlast := List.mem_singleton.mp hmem
          split at hlast <;> cases hlast
      · rintro ⟨-, -, rfl, rfl⟩
        exact ⟨_, List.mem_cons_self⟩
  · rw [if_pos hstatus]
    refine iff_of_false ?_ fun h => hstatus h.1
    rintro ⟨name, hmem⟩
    exact absurd hmem List.not_mem_nil

/-- The warning is text. -/
theorem warnInvalidLines_runs (invalidLines : List Bytes) (c : BugreportCallback) :
    Prog.Runs (warnInvalidLines invalidLines) c fun _ c' t => c' = c ∧ NoPull t := by
  have hemit : ∀ text c, Prog.Runs (Prog.emit (.stderr text) : BugreportM Unit) c
      fun _ c' t => c' = c ∧ NoPull t := fun text c => ⟨(), rfl, rfl, noPull_stderr text⟩
  unfold warnInvalidLines
  split
  · refine (hemit _ c).bind fun _ c₁ t₁ ⟨hc₁, ht₁⟩ => ?_
    have hlines := Prog.Runs.foldM
      (f := fun _ line => (Prog.emit (.stderr (lit "\t" ++ cString line ++ lit "\n")) : BugreportM Unit))
      (I := fun _ c' t => c' = c ∧ NoPull t) (l := invalidLines)
      (fun _ line _ c' t h => (hemit _ c').mono fun _ _ _ h' =>
        ⟨h'.1.trans h.1, h.2.append h'.2⟩) () c₁ [] ⟨hc₁, noPull_nil⟩
    refine hlines.bind fun _ c₂ t₂ ⟨hc₂, ht₂⟩ => (hemit _ c₂).mono fun _ c₃ t₃ ⟨hc₃, ht₃⟩ => ?_
    exact ⟨hc₃.trans hc₂, ht₁.append (NoPull.append ht₂ ht₃)⟩
  · exact .pure ⟨rfl, noPull_nil⟩

/-- Where a pull is looked for in a sequence whose first program pulls nothing. -/
theorem pull_bind_iff {α β : Type} {p : BugreportM α} {f : α → BugreportM β} {a : α}
    (ha : (p c).result = .ok a) (ht : NoPull (p c).trace) (src dst : Bytes) :
    (∃ name, .pull src dst name ∈ ((p >>= f) c).trace) ↔
      ∃ name, .pull src dst name ∈ (f a (p c).state).trace := by
  rw [Prog.bind_apply_ok ha]
  refine exists_congr fun name => ⟨fun hmem => ?_, List.mem_append_right _⟩
  exact (List.mem_append.mp hmem).resolve_left (ht src dst name)

/-- Where the report is pulled from and to. -/
theorem bugreport_pull_iff (hdir : destDir ≠ []) (destFile : Bytes) (showProgress : Bool)
    (pullSucceeds : Bytes → Bytes → Bool) (chunks : List Bytes) (src dst : Bytes) :
    (∃ name, .pull src dst name ∈
        (bugreport pullSucceeds chunks (.new destDir destFile showProgress)).trace) ↔
      Pulls showProgress (split newline chunks.flatten) src ∧
        dst = destDir ++ [slash] ++ basename src := by
  have hnew : Processed destDir showProgress [] (.new destDir destFile showProgress) := by
    refine ⟨rfl, rfl, rfl, fun path h => ?_, iff_of_true rfl fun _ h => absurd h List.not_mem_nil⟩
    cases h
  set c := BugreportCallback.new destDir destFile showProgress with hc
  have hsame : SameButLine c c := ⟨[], rfl⟩
  obtain ⟨hresult, htrace, rest, hstate⟩ :=
    processOutput_alike chunks.flatten hsame (List.not_mem_nil)
  have hfeeds := processLines_feeds hdir (split newline chunks.flatten) hnew
  rw [show c.line ++ chunks.flatten = chunks.flatten from rfl] at hresult htrace hstate
  rw [bugreport_apply]
  obtain ⟨hfault, ⟨fault, hend⟩, ht⟩ | ⟨hfault, a, ha, hdone, ht⟩ := hfeeds
  · rw [Prog.bind_apply_error (hresult.trans hend), htrace]
    exact iff_of_false (fun ⟨name, hmem⟩ => ht src dst name hmem) fun h => h.1.understood hfault
  · rw [pull_bind_iff (hresult.trans ha) (htrace ▸ ht)]
    -- The callback has processed all the lines, whatever its line is now.
    rw [hstate, List.nil_append] at hdone
    generalize (processOutput chunks.flatten c).state = d at hdone ⊢
    have hd : Processed destDir showProgress (split newline chunks.flatten) d := { hdone with }
    rw [reportEnd, Prog.bind_get_apply]
    obtain ⟨_, hwarn, hstate', hwarnt⟩ := warnInvalidLines_runs d.invalidLines d
    rw [pull_bind_iff hwarn hwarnt, hstate', finishReport_pull_iff, hd.status]
    have hdestination : ∀ path, reportedPath (split newline chunks.flatten) = some path →
        d.srcFile = path ∧ d.destination = destDir ++ [slash] ++ basename path := by
      intro path hpath
      refine ⟨by rw [hd.srcFile, hpath, Option.getD_some], ?_⟩
      rw [BugreportCallback.destination, hd.destDir, if_neg hdir, hd.destFile path hpath]
    constructor
    · rintro ⟨hsucceeded, hnamed, rfl, rfl⟩
      cases hpath : reportedPath (split newline chunks.flatten) with
      | none => exact absurd (by rw [hd.srcFile, hpath, Option.getD_none]) hnamed
      | some path =>
        obtain ⟨hsrc, hdst⟩ := hdestination path hpath
        exact ⟨⟨hfault, hsucceeded, by rw [hpath, hsrc], hnamed⟩, by rw [hdst, hsrc]⟩
    · rintro ⟨hpulls, rfl⟩
      obtain ⟨hsrc, hdst⟩ := hdestination src hpulls.reported
      exact ⟨hpulls.succeeded, hsrc ▸ hpulls.named, hsrc.symm, hdst.symm⟩

/-! ## Inside the chosen directory -/

open Sync

/-- Every local file that a pull of this report works on is inside the directory, whatever the
device answers. -/
def PullInside (dir src dst : Bytes) : Prop :=
  ∀ (env : SyncEnv) (c : SyncConnection) (op : LocalOp) (path : Bytes),
    .localOp op path ∈ (doSyncPull env [src] dst false .none c).trace → Inside dir path

/-- A report with another base name than `..` is pulled to a file in the directory. -/
theorem pullInside_of_basename {dir src : Bytes} (hdir : dir ≠ [])
    (hname : basename src ≠ lit "..") :
    PullInside dir src (dir ++ [slash] ++ basename src) := by
  have hcomp : lit ".." ∉ components (basename src) := fun h =>
    hname (dotdot_mem_components_basename_iff.mp h)
  set dst := dir ++ [slash] ++ basename src with hdst
  have hne : dst ≠ [] := by simp [hdst]
  have hinside : Inside dir dst :=
    ((inside_below_iff hdir _).mpr hcomp).congr (location_name dir (basename src))
  intro env c op path hmem
  obtain ⟨src', hsrc', target, htarget, hpath⟩ :=
    (doSyncPull_inside env [src] dst false .none).keeps c _ hmem
  obtain rfl := List.mem_singleton.mp hsrc'
  refine Inside.trans ?_ hpath
  obtain rfl | rfl | rfl := htarget
  · exact hinside
  · exact hinside.congr (location_withSeparator hne)
  · exact hinside.trans ((inside_below_iff hne _).mpr hcomp)

/-- A path that is too long has no status. -/
theorem syncStatFallback_tooLong (env : SyncEnv) {path : Bytes} (hlen : 1024 < path.length)
    (c : SyncConnection) : (syncStatFallback env path c).result = .ok none := by
  have hrequest : ∀ id c, sendRequest env id path c = ⟨.ok false, { c with errno := .enametoolong },
      [.error (lit "SendRequest failed: path too long: " ++ decimal path.length)]⟩ := fun id c => by
    rw [sendRequest, if_pos hlen]
    rfl
  have hlstat : ∀ c, ∃ c' t, syncLstat env path c = ⟨.ok none, c', t⟩ := fun c => by
    have hsend : sendLstat env path c = ⟨.ok false, { c with errno := .enametoolong },
        [.error (lit "SendRequest failed: path too long: " ++ decimal path.length)]⟩ := by
      unfold sendLstat
      split <;> exact hrequest _ c
    exact ⟨_, _, Prog.bind_of_run hsend⟩
  have hstat : ∃ c' t, syncStat env path c = ⟨.ok none, c', t⟩ := by
    have hsend : ∃ c' t, sendStat env path c = ⟨.ok false, c', t⟩ := by
      unfold sendStat
      split
      · exact ⟨_, _, hrequest _ c⟩
      · exact ⟨_, _, rfl⟩
    obtain ⟨c', t, hsend⟩ := hsend
    exact ⟨_, _, Prog.bind_of_run hsend⟩
  obtain ⟨c₁, t₁, hstat⟩ := hstat
  obtain ⟨c₂, t₂, hlstat⟩ := hlstat c₁
  rw [syncStatFallback, Prog.bind_of_run hstat, Prog.after_result]
  dsimp only
  rw [Prog.bind_get_apply]
  split
  · rfl
  · rw [Prog.bind_of_run hlstat, Prog.after_result]
    rfl

/-- A report whose path is too long is not asked for. -/
theorem pullInside_of_length (dir : Bytes) {src : Bytes} (hlen : 1024 < src.length) (dst : Bytes) :
    PullInside dir src dst := by
  intro env c op path hmem
  have hnone : Prog.Obeys (WorksIn fun _ => False) (doSyncPull env [src] dst false .none) := by
    refine worksIn_doSyncPull env fun dstStat src' hsrc' => ?_
    obtain rfl := List.mem_singleton.mp hsrc'
    intro c
    refine Prog.Runs.bind (M := fun r _ t => r = none ∧ WorksIn (fun _ => False) c t c)
      ⟨none, syncStatFallback_tooLong env hlen c, rfl, ?_⟩ fun r c₁ t₁ ⟨hr, ht₁⟩ => ?_
    · exact (worksIn_of_replies (replies_syncStatFallback env _)).keeps c
    subst hr
    have hline : ∀ text, Prog.Obeys (WorksIn fun _ => False) (captureErrorLine text) :=
      fun text => worksIn_bind (worksIn_emit trivial) fun _ => worksIn_error text
    have hrest : Prog.Obeys (WorksIn fun _ => False) (do
        if (← Prog.get).errno = .enoprotoopt then
          captureErrorLine (lit "remote object '" ++ src' ++ lit "' does not exist")
        else
          captureErrorLine (lit "failed to stat remote object '" ++ src' ++ lit "': " ++
            (← strerrno env))
        return some false : SyncM (Option Bool)) := by
      refine worksIn_bind (.get worksIn_composes) fun c => .ite (fun _ => ?_) fun _ => ?_
      · exact worksIn_bind (hline _) fun _ => worksIn_pure _
      · exact worksIn_bind (worksIn_strerrno env) fun _ => worksIn_bind (hline _) fun _ =>
          worksIn_pure _
    exact (hrest c₁).mono fun _ _ _ h e he => (List.mem_append.mp he).elim (ht₁ e) (h e)
  exact (hnone.keeps c _ hmem).elim

/-- A device that answers a request for a file's status with that of a regular file. -/
def regularFile : SyncConnection :=
  .new (wordBytes SyncId.lstatV1.word ++ wordBytes sIfreg ++ wordBytes 0 ++ wordBytes 1) [] fun _ =>
    none

/-- A regular file is created in the destination under its base name. -/
theorem creat_mem_doSyncPull {src : Bytes} (hlen : src.length ≤ 1024) (dst : Bytes) :
    .localOp .creat (dst ++ [slash] ++ basename src) ∈
      (doSyncPull directoryEnv [src] dst false .none regularFile).trace := by
  have hrequest : ∀ id c, sendRequest directoryEnv id src c =
      ⟨.ok true, { c with calls := c.calls + 1 }, [.wrote [.request id src]]⟩ := fun id c => by
    rw [sendRequest, if_neg (by omega)]
    rfl
  -- The receiver creates its file, whatever comes after.
  have hrecv : ∀ path c, .localOp .creat path ∈ (syncRecv directoryEnv src path .none c).trace := by
    intro path c
    have hv1 : syncRecv directoryEnv src path .none = syncRecvV1 directoryEnv src path :=
      if_neg (by decide)
    rw [hv1, syncRecvV1, Prog.bind_of_run (hrequest .recvV1 c)]
    refine List.mem_append_right _ ?_
    rw [if_pos rfl]
    exact Prog.mem_trace_bind (a := ()) rfl (Prog.mem_trace_bind_left List.mem_cons_self)
  -- The status of the source.
  have hstat : ∃ c t, syncStatFallback directoryEnv src { regularFile with calls := 1 } =
      ⟨.ok (some ⟨sIfreg, 0, 1⟩), c, t⟩ := by
    have hstat : syncStat directoryEnv src { regularFile with calls := 1 } =
        ⟨.ok none, { regularFile with calls := 1, errno := .enotsup }, []⟩ := rfl
    have hsend : sendLstat directoryEnv src { regularFile with calls := 1, errno := .enotsup } =
        ⟨.ok true, { regularFile with calls := 2, errno := .enotsup },
          [.wrote [.request .lstatV1 src]]⟩ := hrequest .lstatV1 _
    have hfinish : (finishStat directoryEnv { regularFile with calls := 2, errno := .enotsup }).result =
        .ok (some ⟨sIfreg, 0, 1⟩) := by decide +kernel
    obtain ⟨c, t, hfinish⟩ : ∃ c t, finishStat directoryEnv
        { regularFile with calls := 2, errno := .enotsup } = ⟨.ok (some ⟨sIfreg, 0, 1⟩), c, t⟩ :=
      ⟨_, _, by rw [← hfinish]⟩
    have hlstat : syncLstat directoryEnv src { regularFile with calls := 1, errno := .enotsup } =
        ⟨.ok (some ⟨sIfreg, 0, 1⟩), c, [.wrote [.request .lstatV1 src]] ++ t⟩ := by
      rw [syncLstat, Prog.bind_of_run hsend, if_pos rfl, hfinish, Prog.after_mk]
    rw [syncStatFallback, Prog.bind_of_run hstat]
    dsimp only
    rw [Prog.bind_get_apply, if_neg (by simp), Prog.bind_of_run hlstat]
    dsimp only
    rw [if_neg (by decide)]
    exact ⟨_, _, rfl⟩
  obtain ⟨c, t, hstat⟩ := hstat
  have hsource : .localOp .creat (dst ++ [slash] ++ basename src) ∈ (pullSource directoryEnv dst
      (some ⟨sIfdir, 0, 0⟩) false .none src { regularFile with calls := 1 }).trace := by
    rw [pullSource, Prog.bind_of_run hstat]
    refine List.mem_append_right _ ?_
    dsimp only
    rw [if_neg (by decide), if_neg (by decide), if_pos (by decide)]
    exact Prog.mem_trace_bind_left (hrecv _ c)
  have hdestination : statDestination directoryEnv 1 dst regularFile =
      ⟨.ok (some (some ⟨sIfdir, 0, 0⟩)), { regularFile with calls := 1 }, []⟩ := rfl
  rw [doSyncPull, List.length_singleton, Prog.bind_of_run hdestination]
  dsimp only
  rw [if_pos (by decide)]
  exact Prog.mem_trace_bind_left hsource

/-- A report is pulled inside the directory, for every answer of the device, exactly when its base
name is not `..` or its path is too long to be asked for. -/
theorem pullInside_iff {dir : Bytes} (hdir : dir ≠ []) (src : Bytes) :
    PullInside dir src (dir ++ [slash] ++ basename src) ↔
      ¬ (basename src = lit ".." ∧ src.length ≤ 1024) := by
  constructor
  · rintro hall ⟨hname, hlen⟩
    have hpath := hall directoryEnv regularFile .creat _
      (creat_mem_doSyncPull hlen (dir ++ [slash] ++ basename src))
    -- The path goes up twice.
    have hbelow : location (dir ++ [slash] ++ basename src ++ [slash] ++ basename src) =
        location (withSeparator dir ++ (basename src ++ [slash] ++ basename src)) := by
      have hname' := location_name dir (basename src ++ [slash] ++ basename src)
      simpa using hname'
    have hinside := (inside_below_iff hdir _).mp (hpath.congr hbelow.symm)
    refine hinside ?_
    rw [hname]
    decide
  · intro h
    by_cases hname : basename src = lit ".."
    · exact pullInside_of_length dir (Nat.not_le.mp fun hlen => h ⟨hname, hlen⟩) _
    · exact pullInside_of_basename hdir hname

/-- The report that the lines have pulled is named after the parent of its directory. -/
def NamesParent (showProgress : Bool) (lines : List Bytes) : Prop :=
  ∃ src, Pulls showProgress lines src ∧ basename src = lit ".." ∧ src.length ≤ 1024

/-- A bug report is written inside the chosen directory, for every later answer of the device,
exactly when the output of `bugreportz`, however it is cut into chunks, does not have a report
pulled whose base name is `..`. -/
theorem bugreport_inside_iff {dir : Bytes} (hdir : dir ≠ []) (destFile : Bytes)
    (showProgress : Bool)
    (pullSucceeds : Bytes → Bytes → Bool) (chunks : List Bytes) :
    (∀ src dst name, .pull src dst name ∈
        (bugreport pullSucceeds chunks (.new dir destFile showProgress)).trace →
      PullInside dir src dst) ↔ ¬ NamesParent showProgress (split newline chunks.flatten) := by
  have hpull := bugreport_pull_iff hdir destFile showProgress pullSucceeds chunks
  constructor
  · rintro hall ⟨src, hpulls, hname⟩
    obtain ⟨name, hmem⟩ := (hpull src (dir ++ [slash] ++ basename src)).mpr ⟨hpulls, rfl⟩
    exact (pullInside_iff hdir src).mp (hall _ _ name hmem) hname
  · intro hnot src dst name hmem
    obtain ⟨hpulls, rfl⟩ := (hpull src dst).mp ⟨name, hmem⟩
    exact (pullInside_iff hdir src).mpr fun hname => hnot ⟨src, hpulls, hname⟩

/-- A report with a name of its own is written inside the directory. -/
theorem bugreport_inside_named : PullInside (lit "D") (lit "/b/r.zip") (lit "D/r.zip") := by
  have hnot : ¬ NamesParent true (split newline [lit "OK:/b/", lit "r.zip\n"].flatten) := by
    rintro ⟨src, hpulls, hname, -⟩
    have hreported : reportedPath (split newline [lit "OK:/b/", lit "r.zip\n"].flatten) =
        some (lit "/b/r.zip") := by decide
    obtain rfl := Option.some.inj (hreported.symm.trans hpulls.reported)
    exact absurd hname (by decide)
  exact (bugreport_inside_iff (show lit "D" ≠ [] by decide) (lit "bugreport.zip") true
    (fun _ _ => true) [lit "OK:/b/", lit "r.zip\n"]).mpr hnot _ _ (lit "pulling r.zip")
    (by decide +kernel)

/-- A device reports `/x/..`, which is a directory with a file `a`: the file is pulled to the parent
of the parent of a file in the directory `D`. -/
theorem bugreport_outside :
    ¬ ∀ (dir : Bytes), dir ≠ [] → ∀ (destFile : Bytes) (showProgress : Bool)
      (pullSucceeds : Bytes → Bytes → Bool) (chunks : List Bytes) (src dst name : Bytes),
      .pull src dst name ∈
          (bugreport pullSucceeds chunks (.new dir destFile showProgress)).trace →
        PullInside dir src dst := by
  intro hall
  have hpull := hall (lit "D") (by decide) (lit "bugreport.zip") true (fun _ _ => true)
    [lit "OK:/x/..\n"] (lit "/x/..") (lit "D/..") (lit "pulling ..") (by decide +kernel)
  have hpath := hpull directoryEnv deviceWithFile .creat (lit "D/../../a") (by decide +kernel)
  exact (inside_below_iff (by decide) (lit "../../a")).mp hpath (by decide)

end AdbMobile
