import AdbMobile.Client.Commandline.Services

/-!
# Features and shell commands

A command that depends on the features of the device asks for them with
`adb_get_feature_set_or_die`, which no longer ends the process on an error: it returns an empty
optional. `adb_shell` looks whether the optional is empty. Every other command dereferences it as it
is (`requireFeatures`).

A `DeviceState` is what programs for a device share: the connections, the feature cache, and the
error flag of the default callback. The thread that reads the standard input of a shell ends the
process at the escape sequence; what it does otherwise is not modelled.
-/

namespace AdbMobile.Client

open ByteString

/-- How a command ends other than by returning. -/
inductive ClientStop
  /-- `error_exit`, `perror_exit`, `exit` or `_exit`. -/
  | exited (code : ℕ)
  /-- An empty optional is dereferenced. -/
  | dereferencesEmpty
  /-- A sync session does not get on. -/
  | hangs
  /-- The bug report callback throws. -/
  | throws (fault : BugreportFault)
  deriving DecidableEq, Repr

/-- What a command does with a device. -/
inductive DeviceEvent
  | wire (e : WireEvent)
  /-- `adb_get_feature_set_or_die` has no feature set to return. -/
  | noFeatureSet
  /-- The empty optional is dereferenced. -/
  | dereferencesEmpty
  | sync (e : Sync.SyncEvent)
  | bugreport (e : BugreportEvent)
  /-- A command of an install session was sent or could not be, and the status line that was
  read. -/
  | command (words : List Bytes) (answer : Option Bytes)

/-- The variables of the process that programs for a device share. -/
structure DeviceState where
  wire : Wire
  /-- `features` of `adb_get_feature_set`. -/
  features : Option FeatureSet
  /-- `returnErrors_` of `DEFAULT_STANDARD_STREAMS_CALLBACK`. -/
  returnErrors : Bool

/-- A program for a device. -/
abbrev DeviceM := Prog DeviceState DeviceEvent ClientStop

/-- A program that only uses connections, as one for a device. -/
def onWire {α : Type} (p : WireM α) : DeviceM α :=
  Prog.within DeviceState.wire (fun w s => { s with wire := w }) .wire Empty.elim p

section Device

variable (env : ClientEnv)

/-- `error_exit`. -/
def errorExit {α : Type} (text : Bytes) : DeviceM α := do
  Prog.emit (.wire <| .stderr (env.executable ++ lit ": " ++ text ++ lit "\n"))
  Prog.exit (.exited 1)

/-! ## Features -/

/-- `adb_get_feature_set`. -/
def adbGetFeatureSet : DeviceM (Except Bytes FeatureSet) := do
  let s ← Prog.get
  match s.features with
  | some features => return .ok features
  | none =>
    match ← onWire (adbQuery env (formatHostCommand s.wire.process (lit "features")) false) with
    | .error e => return .error e
    | .ok result =>
      Prog.modify fun s => { s with features := some (stringToFeatureSet result) }
      return .ok (stringToFeatureSet result)

/-- `adb_get_feature_set_or_die`. -/
def adbGetFeatureSetOrDie (out : Bool) : DeviceM (Option FeatureSet) := do
  match ← adbGetFeatureSet env with
  | .ok features => return some features
  | .error e =>
    Prog.emit .noFeatureSet
    onWire (capture out (cString e ++ lit "\n"))
    return none

/-- `*features`. -/
def dereference : Option FeatureSet → DeviceM FeatureSet
  | some features => pure features
  | none => do
    Prog.emit .dereferencesEmpty
    Prog.exit .dereferencesEmpty

/-- The features of the device, as the callers other than `adb_shell` take them. -/
def requireFeatures (out : Bool) : DeviceM FeatureSet := do
  dereference (← adbGetFeatureSetOrDie env out)

/-- `CanUseFeature`. -/
def ClientEnv.canUse (features : FeatureSet) (feature : Bytes) : Bool :=
  canUseFeature env.delayedAckEnabled features feature

/-! ## Reading what a command prints -/

/-- `DEFAULT_STANDARD_STREAMS_CALLBACK`. -/
def defaultCallback (returnErrors : Bool) : StandardStreamsCallback Unit where
  onStdout _ _ := ((), !returnErrors || env.stdoutWorks)
  onStderr _ _ := ((), !returnErrors || env.stderrWorks)
  done _ status := status

/-- `read_and_dump` with the default callback: its result, and what it captures. -/
def readAndDumpDefault (out : Bool) (fd : Connection) (useShellProtocol : Bool) : DeviceM ℤ := do
  let s ← Prog.get
  let buffer : Option OutputBuffer := if out then some ⟨none, 0⟩ else none
  let (code, buffer) :=
      readAndDump (defaultCallback env s.returnErrors) 0 (fd.output useShellProtocol)
    buffer () env.shellBuffer
  match buffer with
  | none => return code
  | some buffer =>
    onWire (capture true buffer.captured)
    return code

/-! ## Shells -/

/-- `ShellServiceString`. -/
def shellServiceString (useShellProtocol : Bool) (typeArg command : Bytes) : Bytes :=
  let terminal := match env.getenv (lit "TERM") with
    | some term => [lit "TERM=" ++ term]
    | none => []
  let args := (if useShellProtocol then lit "v2" :: terminal else []) ++
    if typeArg = [] then [] else [typeArg]
  lit "shell" ++ (if args = [] then [] else lit ",") ++ join 44 args ++ lit ":" ++ command

/-- The features, where the shell protocol is not disabled. -/
def shellFeatures (disableShellProtocol : Bool) : DeviceM (Except Bytes FeatureSet) :=
  if disableShellProtocol then return .ok [] else adbGetFeatureSet env

/-- An attempt of `send_shell_command` to connect. -/
def tryShell (service : Bytes) : DeviceM (Option Connection) := do
  match ← onWire (adbConnect env service false) with
  | .failed _ _ => return none
  | .opened fd _ => return some fd

/-- The end of a round of `send_shell_command` that did not connect. -/
def awaitDevice (useShellProtocol : Bool) : DeviceM (Bool ⊕ Option (Connection × Bool)) := do
  onWire (stderr (lit "- waiting for device -\n"))
  if ← onWire (waitForDevice env (lit "wait-for-device") false) then return .inl useShellProtocol
  else return .inr none

/-- A round of `send_shell_command`, with `use_shell_protocol`: the shell and whether it uses the
protocol, or none if the device cannot be waited for. -/
def sendShellCommandRound (command : Bytes) (disableShellProtocol useShellProtocol : Bool) :
    DeviceM (Bool ⊕ Option (Connection × Bool)) := do
  match ← shellFeatures env disableShellProtocol with
  -- The device was not reached.
  | .error _ => awaitDevice env useShellProtocol
  | .ok features =>
    let useShellProtocol := !disableShellProtocol && env.canUse features (lit "shell_v2")
    match ← tryShell env (shellServiceString env useShellProtocol [] command) with
    | none => awaitDevice env useShellProtocol
    | some fd => return .inr (some (fd, useShellProtocol))

/-- `send_shell_command`, up to `read_and_dump`. A round that is not the last one uses up a
connection. -/
def openShellCommand (command : Bytes) (disableShellProtocol : Bool) :
    DeviceM (Option (Connection × Bool)) := do
  let s ← Prog.get
  Prog.loop (sendShellCommandRound env command disableShellProtocol) none
    (s.wire.connections.length + 1) false

/-- `send_shell_command`, with the default callback. -/
def sendShellCommand (command : Bytes) : DeviceM ℤ := do
  match ← openShellCommand env command false with
  | none => return 1
  | some (fd, useShellProtocol) => readAndDumpDefault env false fd useShellProtocol

/-- `EscapeState`. -/
inductive EscapeState
  | midFlow | startOfLine | inEscape
  deriving DecidableEq, Repr

/-- `stdin_read_thread_loop` reaches `exit` as it reads these bytes. -/
def typesEscape (escapeChar : UInt8) : EscapeState → Bytes → Bool
  | _, [] => false
  | state, ch :: typed =>
    if ch = escapeChar then
      typesEscape escapeChar (if state = .startOfLine then .inEscape else .midFlow) typed
    else if state = .inEscape ∧ ch = 46 then true
    else typesEscape escapeChar (if ch = 10 ∨ ch = 13 then .startOfLine else .midFlow) typed

/-- `RemoteShell`. The escape character is 0 where there is none; `typed` is what the standard input
delivers while the shell runs. -/
def remoteShell (out useShellProtocol : Bool) (typeArg : Bytes) (escapeChar : UInt8)
    (emptyCommand : Bool) (service typed : Bytes) : DeviceM ℤ := do
  if maxPayloadV1 < service.length ∧ !useShellProtocol then
    onWire (stderr (lit "error: shell command too long\n"))
    return 1
  else
    match ← onWire (adbConnect env service false) with
    | .failed _ e =>
      onWire (stderr (lit "error: " ++ cString e ++ lit "\n"))
      return 1
    | .opened fd _ =>
      let rawStdin := typeArg = lit "pty" ∨ (typeArg = [] ∧ emptyCommand)
      if rawStdin ∧ escapeChar ≠ 0 ∧ typesEscape escapeChar .startOfLine typed then
        Prog.emit (.wire <| .stderr (lit "\r\n[ disconnected ]\r\n"))
        Prog.exit (.exited 0)
      else readAndDumpDefault env out fd useShellProtocol

end Device

end AdbMobile.Client
