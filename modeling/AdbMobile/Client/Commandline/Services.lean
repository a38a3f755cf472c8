import AdbMobile.Client.Commandline.Options

/-!
# Commands that are services

The commands of `client/commandline.cpp` that ask the server or the device for something and need to
know nothing of the device's features. `args` are the words of a command, its name first, and `out`
says whether the caller gave it an output buffer.
-/

namespace AdbMobile.Client

open ByteString

section Services

variable (env : ClientEnv) (out : Bool)

/-- A text for the caller, and the result 1. -/
def refuse (text : Bytes) : WireM ℤ := do
  capture out text
  return 1

/-- A line for the caller from each string. -/
def captureLines : List Bytes → WireM Unit
  | [] => return ()
  | line :: lines => do
    capture out (cString line ++ lit "\n")
    captureLines lines

/-- The number of this call on a local file. -/
def nextCall : WireM ℕ := do
  let w ← Prog.get
  Prog.modify fun w => { w with calls := w.calls + 1 }
  return w.calls

/-- `adb_query_command`. -/
def adbQueryCommand (service : Bytes) : WireM ℤ := do
  match ← adbQuery env service false with
  | .error e =>
    stderr (lit "error: " ++ cString e ++ lit "\n")
    return 1
  | .ok result =>
    capture out (cString result ++ lit "\n")
    return 0

/-- `adb_connect_command`: what comes back goes to the standard output. -/
def adbConnectCommand (service : Bytes) : WireM ℤ := do
  match ← adbConnect env service false with
  | .failed _ e =>
    stderr (lit "error: " ++ cString e ++ lit "\n")
    return 1
  | .opened _ _ => return 0

/-- `adb_set_transport`. -/
def Wire.select (w : Wire) (transport : TransportType) (serial : Option Bytes)
    (transportId : ℕ) : Wire :=
  { w with transport := transport, serial := serial, transportId := transportId }

/-- The `wait-for` service with the transport that the selection implies, if it names none. -/
def waitComponents (w : Wire) (components : List Bytes) : List Bytes :=
  if components[2]?.any fun c => c = lit "usb" ∨ c = lit "local" ∨ c = lit "any" then components
  else
    let transport := match w.transport with
      | .usb => lit "usb"
      | .local => lit "local"
      | _ => lit "any"
    components.take 2 ++ transport :: components.drop 2

/-- `wait_for_device`. -/
def waitForDevice (service : Bytes) (timeout : Bool) : WireM Bool := do
  let components := split 45 service
  if components.length < 3 then
    stderr (lit "adb: couldn't parse 'wait-for' command: " ++ service ++ lit "\n")
    return false
  else
    let w ← Prog.get
    let cmd := formatHostCommand w.process (join 45 (waitComponents w components))
    if timeout then Prog.emit .startsTimer
    adbCommand env cmd

/-! ## Restarting the daemon -/

/-- The reads of `adb_root` into a buffer with this much room: the bytes, or none where a read
fails. -/
def readRootReply : List (Option Bytes) → ℕ → Option Bytes
  | [], _ => some []
  | read :: reads, left =>
    if left = 0 then some []
    else
      match read with
      | none => none
      | some [] => some []
      | some read =>
        (readRootReply reads (left - (read.take left).length)).map (read.take left ++ ·)

/-- `adb_root`. -/
def adbRoot (command : Bytes) : WireM Bool := do
  match ← adbConnect env (command ++ lit ":") false with
  | .failed _ e =>
    stderr (lit "adb: unable to connect for " ++ command ++ lit ": " ++ cString e ++ lit "\n")
    return false
  | .opened fd transport =>
    match readRootReply fd.reads 256 with
    | none =>
      stderr (env.perrorStr (lit "adb: error while reading for " ++ command) ++ lit "\n")
      return false
    | some buf =>
      if buf.length = 256 then
        stderr (lit "adb: unexpected output length for " ++ command ++ lit "\n")
        return false
      else if buf ≠ [] ∧ ¬ (lit "restarting") <:+: cString (buf ++ env.memory) then return true
      else
        let previous ← Prog.get
        Prog.modify fun w => w.select .any none (transport.getD 0)
        let _ ← waitForDevice env (lit "wait-for-disconnect") false
        -- There is nothing to wait for where a transport id was selected.
        if previous.transportId = 0 then
          Prog.modify fun w => w.select previous.transport previous.serial 0
          let _ ← waitForDevice env (lit "wait-for-device") true
        return true

/-! ## Sideloading -/

/-- `SIDELOAD_HOST_BLOCK_SIZE`, which is `CHUNK_SIZE`. -/
def sideloadHostBlockSize : ℤ := 64 * 1024

/-- The loop of `adb_sideload_legacy`: the chunks that are left, and what is left of the
connection. -/
def sideloadLegacyChunks (filename : Bytes) : ℕ → Connection → WireM (Option Connection)
  | 0, fd => return some fd
  | chunks + 1, fd => do
    if !env.readsFile (← nextCall) then
      stderr (env.perrorStr (lit "adb: failed to read data from " ++ filename) ++ lit "\n")
      return none
    else if !fd.writes.headD false then
      let error := match (adbStatus env fd).1 with
        | .ok _ => []
        | .error e => cString e
      stderr (lit "adb: failed to write data: " ++ error ++ lit "\n")
      return none
    else sideloadLegacyChunks filename chunks { fd with writes := fd.writes.tail }

/-- `adb_sideload_legacy`. -/
def adbSideloadLegacy (filename : Bytes) (size : ℤ) : WireM ℤ := do
  match ← adbConnect env (lit "sideload:" ++ decimalInt size) false with
  | .failed _ e =>
    stderr (lit "adb: pre-KitKat sideload connection failed: " ++ cString e ++ lit "\n")
    return -1
  | .opened fd _ =>
    let chunks := ((size + sideloadHostBlockSize - 1) / sideloadHostBlockSize).toNat
    match ← sideloadLegacyChunks env filename chunks fd with
    | none => return -1
    | some fd =>
      match (adbStatus env fd).1 with
      | .error e =>
        stderr (lit "adb: error response: " ++ cString e ++ lit "\n")
        return -1
      | .ok _ => return 0

/-- A text for the caller and for `stderr`. -/
def report (text : Bytes) : WireM Unit := do
  capture out text
  stderr text

/-- The variables of the loop of `adb_sideload_install`. -/
structure SideloadState where
  xfer : ℤ
  lastPercent : ℤ
  fd : Connection

/-- A block that the device asks for: the offset is in the file. -/
def sideloadBlock (filename : Bytes) (size offset : ℤ) (s : SideloadState) :
    WireM (SideloadState ⊕ ℤ) := do
  let toWrite := if size < offset + sideloadHostBlockSize then size - offset else sideloadHostBlockSize
  if !env.seeks (← nextCall) offset then
    capture out (env.perrorStr (lit "adb: failed to seek to block") ++ lit "\n")
    stderr (env.perrorStr (lit "adb: failed to seek to package block") ++ lit "\n")
    return .inr (-1)
  else if !env.readsFile (← nextCall) then
    report out (env.perrorStr (lit "adb: failed to read package block") ++ lit "\n")
    return .inr (-1)
  else if !s.fd.writes.headD false then
    let error := match (adbStatus env s.fd).1 with
      | .ok _ => []
      | .error e => cString e
    capture out (lit "adb: failed to write data '" ++ error ++ lit "'\n")
    stderr (lit "adb: failed to write data '" ++ error ++ lit "' *\n")
    return .inr (-1)
  else
    let xfer := s.xfer + toWrite
    let percent := (xfer * 47).tdiv (if size = 0 then 1 else size)
    if percent ≠ s.lastPercent then
      capture out (lit "\rserving: '" ++ filename ++ lit "'  (~" ++ decimalInt percent ++ lit "%)    ")
    return .inl ⟨xfer, percent, { s.fd with writes := s.fd.writes.tail }⟩

/-- A round of the loop of `adb_sideload_install`: a command of the device. -/
def sideloadRound (filename : Bytes) (size : ℤ) (s : SideloadState) :
    WireM (SideloadState ⊕ ℤ) := do
  match s.fd.reads with
  | [] | none :: _ =>
    report out (env.perrorStr (lit "adb: failed to read command") ++ lit "\n")
    return .inr (-1)
  | some command :: reads =>
    let buf := cString command
    if buf = lit "DONEDONE" ∨ buf = lit "FAILFAIL" then
      capture out (lit "\rTotal xfer: " ++ env.ratio s.xfer (if size = 0 then 1 else size) ++ lit "x" ++
        List.replicate (filename.length + 10) 32 ++ lit "\n")
      return .inr (if buf = lit "FAILFAIL" then 1 else 0)
    else
      let block := (strtoll buf).1
      let offset := block * sideloadHostBlockSize
      if size ≤ offset then
        report out (lit "adb: failed to read block " ++ decimalInt block ++ lit " at offset " ++
          decimalInt offset ++ lit ", past end " ++ decimalInt size ++ lit "\n")
        return .inr (-1)
      else sideloadBlock env out filename size offset { s with fd := { s.fd with reads := reads } }

/-- `adb_sideload_install`. -/
def adbSideloadInstall (filename : Bytes) (rescueMode : Bool) : WireM ℤ := do
  match env.stat (← nextCall) filename with
  | .error e =>
    report out (lit "adb: failed to stat file " ++ filename ++ lit ": " ++ e ++ lit "\n")
    return -1
  | .ok size =>
    match env.openFile (← nextCall) filename with
    | .error e =>
      report out (lit "adb: failed to open file " ++ filename ++ lit ": " ++ e ++ lit "\n")
      return -1
    | .ok _ =>
      let name := if rescueMode then lit "rescue-install" else lit "sideload-host"
      let service := name ++ lit ":" ++ decimalInt size ++ lit ":" ++ decimalInt sideloadHostBlockSize
      match ← adbConnect env service false with
      | .failed _ e =>
        report out (lit "adb: sideload connection failed: " ++ cString e ++ lit "\n")
        -- `INT_MAX` is the largest package that the older method takes.
        if rescueMode ∨ 2 ^ 31 - 1 < size then return -1
        else
          report out (lit "adb: trying pre-KitKat sideload method...\n")
          adbSideloadLegacy env filename size
      | .opened fd _ =>
        Prog.loop (sideloadRound env out filename size) (-1) (fd.reads.length + 1) ⟨0, -1, fd⟩

/-- `adb_wipe_devices`. -/
def adbWipeDevices : WireM ℤ := do
  match ← adbConnect env (lit "rescue-wipe:userdata:8") false with
  | .failed _ e =>
    stderr (lit "adb: wipe device connection failed: " ++ cString e ++ lit "\n")
    return 1
  | .opened fd _ =>
    match fd.reads with
    | [] | none :: _ =>
      stderr (env.perrorStr (lit "adb: failed to read wipe result") ++ lit "\n")
      return 1
    | some message :: _ =>
      if message = lit "DONEDONE" then return 0
      else
        if message ≠ lit "FAILFAIL" then
          stderr (lit "adb: got unexpected message from rescue wipe " ++ cString message ++ lit "\n")
        return 1

end Services

end AdbMobile.Client
