import AdbMobile.Client.FeatureSet
import AdbMobile.Client.ReadAndDump
import AdbMobile.Client.Sync.Push
import AdbMobile.Client.Bugreport

/-!
# The client's connections to the server

`client/adb_client.cpp`: every service that a command asks for is a connection to the server, before
which the server's version is checked, and a server started if there is none. A `Wire` holds the
selection of the command and what its connections will meet, in order. Nothing here ends the
process, and nothing reads the feature cache.

What comes back over a connection is part of it: the statuses, the strings of `ReadProtocolString`,
what `adb_read` returns. A call past the end of these fails, so a finite list of connections is
every sequence of results. `printf` to the standard output of the process is not modelled.
-/

namespace AdbMobile.Client

open ByteString

/-- What a sync session over a connection meets. -/
structure SyncAnswers where
  env : Sync.SyncEnv
  /-- What the device sends. -/
  input : Bytes
  decodes : List (Sync.DecodeResult × Bytes)
  files : Bytes → Option Bytes
  /-- The local file or tree that the source of this index is found to be. -/
  source : ℕ → Sync.LocalSource

/-- A connection to the server, from `socket_spec_connect` on. -/
structure Connection where
  /-- The reason that `socket_spec_connect` gives, where it fails. -/
  connected : Except Bytes Unit
  /-- Whether `SendProtocolString` of the transport switch succeeds. -/
  switchSent : Bool
  /-- Whether `SendProtocolString` of the service succeeds. -/
  serviceSent : Bool
  /-- What `ReadFdExactly` of a status reads. -/
  statuses : List (Option Bytes)
  /-- What `ReadFdExactly` of the transport id reads. -/
  transportId : Option ℕ
  /-- What `ReadProtocolString` returns. -/
  strings : List (Except Bytes Bytes)
  /-- What `adb_read` returns: bytes, none of them at the end of the stream, or an error. -/
  reads : List (Option Bytes)
  /-- Whether `WriteFdExactly` succeeds. -/
  writes : List Bool
  /-- What `ShellProtocol::Read` reads. -/
  packets : List ShellPacket
  sync : SyncAnswers

/-- What `read_and_dump` reads from a connection. -/
def Connection.output (fd : Connection) (useShellProtocol : Bool) : DeviceOutput :=
  if useShellProtocol then .packets fd.packets else .chunks fd.reads

/-- What a program does with connections, and what it prints. -/
inductive WireEvent
  /-- `socket_spec_connect`. -/
  | connects (spec : Bytes)
  /-- `SendProtocolString` of a service. -/
  | sends (service : Bytes)
  | launchesServer (spec : Bytes) (oneDevice : Option Bytes)
  | serves (isDaemon : Bool) (spec : Bytes) (oneDevice : Option Bytes) (replyFd : ℤ)
  /-- A thread is started that ends the process after a time. -/
  | startsTimer
  /-- `capture_printf`, to the caller's buffer. -/
  | captured (text : Bytes)
  | stderr (text : Bytes)
  deriving DecidableEq, Repr

/-- The static variables of `adb_client.cpp` other than the feature cache, and the answers to
come. -/
structure Wire where
  /-- `__adb_transport`. -/
  transport : TransportType
  /-- `__adb_serial`. -/
  serial : Option Bytes
  /-- `__adb_transport_id`. -/
  transportId : ℕ
  /-- `__adb_server_socket_spec`. -/
  socketSpec : Bytes
  /-- `__adb_client_one_device`. -/
  oneDevice : Option Bytes
  connections : List Connection
  /-- Whether `launch_server` succeeds. -/
  launches : List Bool
  /-- The calls on local files so far. -/
  calls : ℕ

/-- A program that only uses connections. -/
abbrev WireM := Prog Wire WireEvent Empty

/-- The selection, as `format_host_command` reads it. -/
def Wire.process (w : Wire) : ClientProcess := ⟨w.transport, w.serial, w.transportId, none⟩

/-- What does not change during a command: the environment, and the functions outside the
repository. -/
structure ClientEnv where
  getenv : Bytes → Option Bytes
  isLocalSocketSpec : Bytes → Bool
  isOneDeviceMandatory : Bool
  /-- `ADB_SERVER_VERSION`. -/
  serverVersion : ℤ
  /-- `ABB_ARG_DELIMETER`. -/
  abbArgDelimiter : UInt8
  delayedAckEnabled : Bool
  escapeArg : Bytes → Bytes
  perrorStr : Bytes → Bytes
  /-- `android::base::ParseInt` into an `int` between two bounds. -/
  parseInt : Bytes → ℤ → ℤ → Option ℤ
  /-- `android::base::ParseBool`. -/
  parseBool : Bytes → Option Bool
  /-- `forward_targets_are_valid`, or its error. -/
  forwardTargetsAreValid : Bytes → Bytes → Except Bytes Unit
  /-- `stat`: the size, or the text of the error. -/
  stat : ℕ → Bytes → Except Bytes ℤ
  /-- `adb_open`: what reads of the file return, or the text of the error. -/
  openFile : ℕ → Bytes → Except Bytes (List (Option Bytes))
  /-- `adb_creat`, or the text of the error. -/
  creat : ℕ → Bytes → Except Bytes Unit
  directoryExists : ℕ → Bytes → Bool
  getcwd : Option Bytes
  /-- The standard input, as a descriptor. -/
  standardInput : Connection
  /-- The bytes that the terminal delivers while a shell runs. -/
  typed : Bytes
  /-- `unix_isatty` of the standard input. -/
  isatty : Bool
  /-- `std::getline` from `std::cin`. -/
  cinLine : Option Bytes
  /-- `adb_lseek` of a local file reaches this offset. -/
  seeks : ℕ → ℤ → Bool
  /-- `ReadFdExactly` from a local file succeeds. -/
  readsFile : ℕ → Bool
  /-- `"%.2f"` of a ratio. -/
  ratio : ℤ → ℤ → Bytes
  /-- What is in memory that is not initialised. -/
  memory : Bytes
  /-- What a `TransportId` that is not initialised holds. -/
  uninitialisedId : ℕ
  /-- Whether writing to the standard output and to the standard error succeeds. -/
  stdoutWorks : Bool
  stderrWorks : Bool
  /-- The name that `error_exit` prints. -/
  executable : Bytes
  /-- The first byte of a `ShellProtocol` buffer before anything is read into it. -/
  shellBuffer : UInt8
  /-- `adb_version`. -/
  version : Bytes
  /-- The results of `adb_server_main` and of `launch_server`, called by a command. -/
  serverMain : ℤ
  launchServer : ℤ
  /-- The results of `adb_send_emulator_command`, `adb_auth_keygen` and `adb_auth_pubkey`. -/
  emulatorCommand : List Bytes → Option Bytes → ℤ
  authKeygen : Bytes → ℤ
  authPubkey : Bytes → ℤ
  /-- `incremental::can_install`. -/
  canInstall : List Bytes → Bool
  /-- `incremental::install`: whether there is a server process. -/
  incrementalInstall : List Bytes → List Bytes → Bool → Bool
  /-- `incremental::serve`. -/
  incrementalServe : ℤ → ℤ → List Bytes → ℤ
  /-- `_is_valid_os_fd`, for descriptors above 2. -/
  isOpenFd : ℤ → Bool

section Client

variable (env : ClientEnv)

/-! ## Printing -/

/-- `capture_printf`, for a caller that has a buffer or has none. -/
def capture (out : Bool) (text : Bytes) : WireM Unit :=
  if out then Prog.emit (.captured text) else pure ()

/-- `fprintf(stderr, ...)`. -/
def stderr (text : Bytes) : WireM Unit := Prog.emit (.stderr text)

/-! ## Reading from a connection -/

/-- `"%d"`. -/
def decimalInt (n : ℤ) : Bytes :=
  if n < 0 then lit "-" ++ decimal n.natAbs else decimal n.natAbs

/-- `"%02x"` of a `char`, which is signed. -/
def hexOfChar (b : UInt8) : Bytes :=
  let digits := (Nat.toDigits 16 b.toNat).map fun c => c.toNat.toUInt8
  if b < 16 then lit "0" ++ digits else if b < 128 then digits else lit "ffffff" ++ digits

/-- `ReadProtocolString`, and what is left of the connection. -/
def readProtocolString (fd : Connection) : Except Bytes Bytes × Connection :=
  match fd.strings with
  | [] => (.error [], fd)
  | s :: strings => (s, { fd with strings := strings })

/-- `adb_status`, and what is left of the connection. -/
def adbStatus (fd : Connection) : Except Bytes Unit × Connection :=
  match fd.statuses with
  | [] | none :: _ => (.error (env.perrorStr (lit "protocol fault (couldn't read status)")), fd)
  | some buf :: statuses =>
    let fd := { fd with statuses := statuses }
    if buf = lit "OKAY" then (.ok (), fd)
    else if buf ≠ lit "FAIL" then
      (.error (lit "protocol fault (status " ++ join 32 (buf.map hexOfChar) ++ lit "?!)"), fd)
    else
      match readProtocolString fd with
      | (.ok s, fd) | (.error s, fd) => (.error s, fd)

/-! ## Connecting -/

/-- What `_adb_connect` returns: -1 or -2 with an error, or a descriptor and the transport. -/
inductive ConnectResult
  | failed (code : ℤ) (error : Bytes)
  | opened (fd : Connection) (transport : Option ℕ)

/-- `socket_spec_connect`: the next connection, or the reason that there is none. -/
def socketSpecConnect : WireM (Except Bytes Connection) := do
  let w ← Prog.get
  Prog.emit (.connects w.socketSpec)
  match w.connections with
  | [] => return .error []
  | fd :: connections =>
    Prog.modify fun w => { w with connections := connections }
    return fd.connected.map fun _ => fd

/-- The service that `switch_socket_transport` asks for, if a switch is necessary. -/
def switchService (w : Wire) : Option Bytes :=
  if w.transportId ≠ 0 then some (lit "host:transport-id:" ++ decimal w.transportId)
  else
    match w.serial with
    | some serial => some (lit "host:tport:serial:" ++ serial)
    | none =>
      match w.transport with
      | .usb => some (lit "host:tport:usb")
      | .local => some (lit "host:tport:local")
      | .any => some (lit "host:tport:any")
      | .host => none

/-- `switch_socket_transport`. -/
def switchSocketTransport (fd : Connection) : WireM (Except Bytes (ℕ × Connection)) := do
  let w ← Prog.get
  match switchService w with
  | none => return .ok (0, fd)
  | some service =>
    Prog.emit (.sends service)
    if !fd.switchSent then
      return .error (env.perrorStr (lit "write failure during connection"))
    else
      match adbStatus env fd with
      | (.error e, _) => return .error e
      | (.ok _, fd) =>
        if w.transportId ≠ 0 then return .ok (w.transportId, fd)
        else
          match fd.transportId with
          | none => return .error (lit "failed to read transport id from server")
          | some id => return .ok (id, fd)

/-- The end of `_adb_connect`: the service is asked for. -/
def sendService (service : Bytes) (fd : Connection) (transport : Option ℕ) :
    WireM ConnectResult := do
  Prog.emit (.sends service)
  if !fd.serviceSent then
    return .failed (-1) (env.perrorStr (lit "write failure during connection"))
  else
    match adbStatus env fd with
    | (.error e, _) => return .failed (-1) e
    | (.ok _, fd) => return .opened fd transport

/-- `_adb_connect`. -/
def adbConnectOnce (service : Bytes) (forceSwitch : Bool) : WireM ConnectResult := do
  if service = [] ∨ maxPayload < service.length then
    return .failed (-1) (lit "bad service name length (" ++ decimal service.length ++ lit ")")
  else
    match ← socketSpecConnect with
    | .error reason =>
      let w ← Prog.get
      return .failed (-2) (lit "cannot connect to daemon at " ++ w.socketSpec ++ lit ": " ++ reason)
    | .ok fd =>
      if !(lit "host").isPrefixOf service || forceSwitch then
        match ← switchSocketTransport env fd with
        | .error e => return .failed (-1) e
        | .ok (id, fd) => sendService env service fd (some id)
      else sendService env service fd none

/-! ## The server's version -/

/-- `adb_kill_server`. -/
def adbKillServer : WireM Bool := do
  match ← socketSpecConnect with
  | .error reason =>
    let w ← Prog.get
    stderr (lit "cannot connect to daemon at " ++ w.socketSpec ++ lit ": " ++ reason ++ lit "\n")
    return true
  | .ok fd =>
    Prog.emit (.sends (lit "host:kill"))
    if !fd.serviceSent then
      stderr (env.perrorStr (lit "error: write failure during connection") ++ lit "\n")
      return false
    else
      match fd.statuses with
      | [] | none :: _ =>
        stderr (lit "error: failed to read response from server\n")
        return false
      | some buf :: _ =>
        if buf = lit "FAIL" then
          match (readProtocolString fd).1 with
          | .ok s | .error s =>
            stderr (lit "error: " ++ s ++ lit "\n")
            return false
        else return true

/-- The label `start_server` of `__adb_check_server_version`. -/
def startServer : WireM (Except Bytes Unit) := do
  let w ← Prog.get
  let oneDevice :=
    if w.oneDevice = none ∧ env.isOneDeviceMandatory then w.serial else w.oneDevice
  Prog.emit (.launchesServer w.socketSpec oneDevice)
  Prog.modify fun w => { w with launches := w.launches.tail }
  if w.launches.headD false then
    stderr (lit "* daemon started successfully\n")
    return .ok ()
  else
    stderr (lit "* failed to start daemon\n")
    return .error (lit "cannot connect to daemon")

/-- The value of a hexadecimal digit. -/
def hexValue (b : UInt8) : Option ℕ :=
  if 48 ≤ b ∧ b ≤ 57 then some (b.toNat - 48)
  else if 97 ≤ b ∧ b ≤ 102 then some (b.toNat - 87)
  else if 65 ≤ b ∧ b ≤ 70 then some (b.toNat - 55)
  else none

/-- `sscanf` of `"%04x"` into an `int`: at most four characters after the white space. -/
def scanVersion (s : Bytes) : Option ℤ :=
  let field := (s.dropWhile isSpace).take 4
  let (negative, field) := match field with
    | 45 :: rest => (true, rest)
    | 43 :: rest => (false, rest)
    | _ => (false, field)
  let digits := match field with
    | 48 :: 120 :: rest | 48 :: 88 :: rest => rest
    | _ => field
  let values := digits.map hexValue |>.takeWhile Option.isSome
  if field.head?.bind hexValue = none then none
  else
    let n := values.foldl (fun n v => 16 * n + v.getD 0) 0
    some (if negative then -n else n)

/-- `adb_check_server_version`, with the error. -/
def adbCheckServerVersion : WireM (Except Bytes Unit) := do
  let r ← adbConnectOnce env (lit "host:version") false
  let w ← Prog.get
  let local? := env.isLocalSocketSpec w.socketSpec
  let restart (version : ℤ) : WireM (Except Bytes Unit) := do
    if version ≠ env.serverVersion then
      stderr (lit "adb server version (" ++ decimalInt version ++ lit ") doesn't match this client (" ++
        decimalInt env.serverVersion ++ lit "); killing...\n")
      let _ ← adbKillServer env
      startServer env
    else return .ok ()
  match r with
  | .failed code e =>
    if code = -2 then
      if !local? then
        stderr (lit "* cannot start server on remote host\n")
        return .error e
      else
        stderr (lit "* daemon not running; starting now at " ++ w.socketSpec ++ lit "\n")
        startServer env
    -- A server that does not know the command is older than it.
    else if e ≠ lit "unknown host service" then return .error e
    else restart 0
  | .opened fd _ =>
    match (readProtocolString fd).1 with
    | .error e => return .error e
    | .ok versionString =>
      match scanVersion versionString with
      | none => return .error (lit "cannot parse version string: " ++ versionString)
      | some version => restart version

/-! ## Services -/

/-- `adb_connect`. For `host:start-server` it returns 0, which is the descriptor of the standard
input. -/
def adbConnect (service : Bytes) (forceSwitch : Bool) : WireM ConnectResult := do
  match ← adbCheckServerVersion env with
  | .error e => return .failed (-1) e
  | .ok _ =>
    if service = lit "host:start-server" then return .opened env.standardInput none
    else
      let r ← adbConnectOnce env service forceSwitch
      match r with
      | .failed (-2) e =>
        stderr (lit "* daemon still not running\n")
        return .failed (-2) e
      | r => return r

/-- `adb_command`. -/
def adbCommand (service : Bytes) : WireM Bool := do
  match ← adbConnect env service false with
  | .failed _ e =>
    stderr (lit "error: " ++ e ++ lit "\n")
    return false
  | .opened fd _ =>
    match (adbStatus env fd).1 with
    | .error e =>
      stderr (lit "error: " ++ e ++ lit "\n")
      return false
    | .ok _ => return true

/-- `adb_query`. -/
def adbQuery (service : Bytes) (forceSwitch : Bool) : WireM (Except Bytes Bytes) := do
  match ← adbConnect env service forceSwitch with
  | .failed _ e => return .error e
  | .opened fd _ => return (readProtocolString fd).1

end Client

end AdbMobile.Client
