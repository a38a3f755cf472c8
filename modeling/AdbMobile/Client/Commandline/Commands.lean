import AdbMobile.Client.Commandline.Shell

/-!
# The command line

`adb_commandline`: the global options, the selection of the server and of the device, and the
command. A command is looked up by its name; what it returns, if anything, is what `adb_commandline`
returns, and a name that is not known, or a command that goes on after its block, is an unknown
command.
-/

namespace AdbMobile.Client

open ByteString PosixPath

section Commands

variable (env : ClientEnv) (out : Bool)

/-! ## The server and its devices -/

/-- `devices`. -/
def devices (args : List Bytes) : WireM ℤ := do
  let listopt := match args.tail with
    | [] => some []
    | [opt] => if opt = lit "-l" then some opt else none
    | _ => none
  match listopt with
  | none => refuse out (lit "adb devices [-l]\n")
  | some listopt =>
    match ← adbCheckServerVersion env with
    | .error e => refuse out (lit "failed to check server version: " ++ cString e ++ lit "\n")
    | .ok _ =>
      capture out (lit "List of devices attached\n")
      adbQueryCommand env out (lit "host:devices" ++ listopt)

/-- `transport-id`, which tests the descriptor for -1 only. -/
def transportIdCommand : WireM ℤ := do
  match ← adbConnect env (lit "host:features") true with
  | .failed code e =>
    if code = -1 then refuse out (cString e ++ lit "\n")
    else
      capture out (decimal env.uninitialisedId ++ lit "\n")
      return 0
  | .opened _ transport =>
    capture out (decimal (transport.getD 0) ++ lit "\n")
    return 0

/-- `connect`. -/
def connect (args : List Bytes) : WireM ℤ :=
  match args with
  | [_, address] => adbQueryCommand env out (lit "host:connect:" ++ address)
  | _ => refuse out (lit "usage: adb connect HOST[:PORT]\n")

/-- `disconnect`. -/
def disconnect (args : List Bytes) : WireM ℤ :=
  if 2 < args.length then refuse out (lit "usage: adb disconnect [HOST[:PORT]]\n")
  else adbQueryCommand env out (lit "host:disconnect:" ++ args.tail.headD [])

/-- `exec-in` and `exec-out`. -/
def exec (args : List Bytes) : WireM ℤ :=
  match args with
  | _ :: command :: rest => do
    match ← adbConnect env (lit "exec:" ++ command ++ escapedArgs env rest) false with
    | .failed _ e =>
      report out (lit "error: " ++ cString e ++ lit "\n")
      return -1
    | .opened _ _ => return 0
  | _ => refuse out (lit "usage: adb " ++ args.headD [] ++ lit " command\n")

/-- `sideload`. -/
def sideload (args : List Bytes) : WireM ℤ :=
  match args with
  | [_, filename] => do
    return if (← adbSideloadInstall env out filename false) = 0 then 0 else 1
  | _ => refuse out (lit "sideload requires an argument\n")

/-- `rescue`. -/
def rescue (args : List Bytes) : WireM ℤ :=
  match args.tail with
  | [] => refuse out (lit "rescue requires at least one argument\n")
  | verb :: rest =>
    if verb = lit "getprop" then
      match rest with
      | [] => adbConnectCommand env (lit "rescue-getprop:")
      | [property] => adbConnectCommand env (lit "rescue-getprop:" ++ property)
      | _ => refuse out (lit "invalid rescue getprop arguments\n")
    else if verb = lit "install" then
      match rest with
      | [filename] => do
        return if (← adbSideloadInstall env out filename true) = 0 then 0 else 1
      | _ => refuse out (lit "rescue install requires two arguments\n")
    else if verb = lit "wipe" then
      if rest = [lit "userdata"] then adbWipeDevices env
      else refuse out (lit "invalid rescue wipe arguments\n")
    else refuse out (lit "invalid rescue argument\n")

/-- `tcpip`. -/
def tcpip (args : List Bytes) : WireM ℤ :=
  match args with
  | [_, port] =>
    match env.parseInt port 1 65535 with
    | none => refuse out (lit "tcpip: invalid port: " ++ port ++ lit "\n")
    | some port => adbConnectCommand env (lit "tcpip:" ++ decimalInt port)
  | _ => refuse out (lit "tcpip requires an argument\n")

/-- `reboot`, `reboot-bootloader`, `reboot-fastboot` and `usb`. -/
def reboot (args : List Bytes) : WireM ℤ :=
  let name := args.headD []
  if name = lit "reboot-bootloader" then adbConnectCommand env (lit "reboot:bootloader")
  else if name = lit "reboot-fastboot" then adbConnectCommand env (lit "reboot:fastboot")
  else adbConnectCommand env (name ++ lit ":" ++ args.tail.headD [])

/-- `mdns`. -/
def mdns (args : List Bytes) : WireM ℤ :=
  match args.tail with
  | [] => refuse out (lit "mdns requires an argument\n")
  | verb :: rest => do
    match ← adbCheckServerVersion env with
    | .error e => refuse out (lit "failed to check server version: " ++ cString e ++ lit "\n")
    | .ok _ =>
      if verb = lit "check" ∨ verb = lit "services" then
        if rest ≠ [] then refuse out (lit "mdns " ++ verb ++ lit " doesn't take any arguments\n")
        else
          if verb = lit "services" then capture out (lit "List of discovered mdns services\n")
          adbQueryCommand env out (lit "host:mdns:" ++ verb)
      else refuse out (lit "unknown mdns command [" ++ verb ++ lit "]\n")

/-- `get-state`, `get-serialno` and `get-devpath`. -/
def getProperty (args : List Bytes) : WireM ℤ := do
  let w ← Prog.get
  adbQueryCommand env out (formatHostCommand w.process (args.headD []))

/-- `start-server`, which returns the descriptor 0. -/
def startServerCommand : WireM ℤ := do
  match ← adbConnect env (lit "host:start-server") false with
  | .failed code e =>
    report out (lit "error: " ++ cString e ++ lit "\n")
    return code
  | .opened _ _ => return 0

/-- A command of one argument. -/
def withArgument (text : Bytes) (f : Bytes → ℤ) (args : List Bytes) : WireM ℤ :=
  match args with
  | [_, arg] => return f arg
  | _ => refuse out text

/-- `track-devices`. -/
def trackDevices (args : List Bytes) : WireM ℤ :=
  match args.tail with
  | [] => adbConnectCommand env (lit "host:track-devices")
  | opt :: _ =>
    if opt = lit "-l" then adbConnectCommand env (lit "host:track-devices-l")
    else if opt = lit "--proto-text" then adbConnectCommand env (lit "host:track-devices-proto-text")
    else if opt = lit "--proto-binary" then
      adbConnectCommand env (lit "host:track-devices-proto-binary")
    else refuse out (lit "usage: adb track-devices [-l][--proto-text][--proto-binary]\n")

/-- `attach` and `detach`. -/
def attach (args : List Bytes) : WireM ℤ := do
  let name := args.headD []
  let service := if name = lit "attach" then lit "host:attach" else lit "host:detach"
  match ← adbQuery env service true with
  | .error e => refuse out (lit "failed to " ++ name ++ lit ": " ++ cString e ++ lit "\n")
  | .ok result =>
    capture out (cString result ++ lit "\n")
    return 0

/-- `reconnect`, which goes on after its block where there are two arguments. -/
def reconnect (args : List Bytes) : WireM (Option ℤ) :=
  match args.tail with
  | [] => do
    let w ← Prog.get
    return some (← adbQueryCommand env out (formatHostCommand w.process (args.headD [])))
  | [arg] => do
    if arg = lit "device" then
      let _ ← adbConnect env (lit "reconnect") false
      return some 0
    else if arg = lit "offline" then
      return some (← adbQueryCommand env out (lit "host:reconnect-offline"))
    else return some (← refuse out (lit "usage: adb reconnect [device|offline]\n"))
  | _ => return none

/-! ## Commands that need the features of the device -/

/-- `forward_dest_is_featured`, or its error: the optional is copied, and read only for
`dev-raw:`. -/
def forwardDestIsFeatured (dest : Bytes) : DeviceM (Except Bytes Unit) := do
  let features ← adbGetFeatureSetOrDie env false
  if (lit "dev-raw:").isPrefixOf dest then
    if env.canUse (← dereference features) (lit "devraw") then return .ok ()
    else return .error (lit "dev-raw is not supported by the device")
  else return .ok ()

/-- The end of `forward` and `reverse`: the service is asked for. -/
def requestForward (service : Bytes) : WireM ℤ := do
  match ← adbConnect env service true with
  | .failed _ e => refuse out (lit "error: " ++ cString e ++ lit "\n")
  | .opened fd _ =>
    match adbStatus env fd with
    | (.error e, _) => refuse out (lit "error: " ++ cString e ++ lit "\n")
    | (.ok _, fd) =>
      match (readProtocolString fd).1 with
      | .error _ | .ok [] => return 0
      | .ok resolvedPort =>
        capture out (cString resolvedPort ++ lit "\n")
        return 0

/-- `forward` and `reverse` with two addresses. An error without a text is none. -/
def forwardTo (hostPrefix verb source dest : Bytes) : DeviceM ℤ := do
  let valid ← match env.forwardTargetsAreValid source dest with
    | .error e => pure (.error e)
    | .ok _ => forwardDestIsFeatured env dest
  match valid with
  | .ok _ => onWire (requestForward env out (hostPrefix ++ verb ++ source ++ lit ";" ++ dest))
  | .error [] => onWire (requestForward env out hostPrefix)
  | .error e => onWire (refuse out (lit "error: " ++ cString e ++ lit "\n"))

/-- `forward` and `reverse`. -/
def forward (args : List Bytes) : DeviceM ℤ :=
  let name := args.headD []
  let hostPrefix := if name = lit "reverse" then lit "reverse:" else lit "host:"
  match args.tail with
  | [] => onWire (refuse out (name ++ lit " requires an argument\n"))
  | verb :: rest =>
    if verb = lit "--list" then
      if rest ≠ [] then onWire (refuse out (lit "--list doesn't take any arguments\n"))
      else onWire (adbQueryCommand env out (hostPrefix ++ lit "list-forward"))
    else if verb = lit "--remove-all" then
      if rest ≠ [] then onWire (refuse out (lit "--remove-all doesn't take any arguments\n"))
      else onWire (requestForward env out (hostPrefix ++ lit "killforward-all"))
    else if verb = lit "--remove" then
      match rest with
      | [source] => onWire (requestForward env out (hostPrefix ++ lit "killforward:" ++ source))
      | _ => onWire (refuse out (lit "--remove requires an argument\n"))
    else if verb = lit "--no-rebind" then
      match rest with
      | [source, dest] => forwardTo env out hostPrefix (lit "forward:norebind:") source dest
      | _ => onWire (refuse out (lit "--no-rebind takes two arguments\n"))
    else
      match rest with
      | [dest] => forwardTo env out hostPrefix (lit "forward:") verb dest
      | _ => onWire (refuse out (lit "forward takes two arguments\n"))

/-- `track-app`, which goes on after its block where its argument is not known. -/
def trackApp (args : List Bytes) : DeviceM (Option ℤ) := do
  let features ← requireFeatures env out
  if !env.canUse features (lit "track_app") then
    return some (← onWire (refuse out (lit "track-app is not supported by the device\n")))
  else
    match args.tail with
    | [] => return some (← onWire (adbConnectCommand env (lit "track-app")))
    | [arg] =>
      if arg = lit "--proto-binary" ∨ arg = lit "--proto-text" then
        return some (← onWire (adbConnectCommand env (lit "track-app")))
      else return none
    | _ =>
      return some (← onWire (refuse out (lit "usage: adb track-app [--proto-binary][--proto-text]\n")))

/-- `features`. -/
def featuresCommand : DeviceM ℤ := do
  let features ← requireFeatures env out
  onWire (captureLines out (features.filter (env.canUse features)))
  return 0

/-! ## Others -/

/-- `logcat`. -/
def logcat (args : List Bytes) : DeviceM ℤ :=
  let quoted := env.escapeArg ((env.getenv (lit "ANDROID_LOG_TAGS")).getD [])
  sendShellCommand env (lit "export ANDROID_LOG_TAGS=\"" ++ quoted ++ lit "\"; exec logcat" ++
    (if args.headD [] = lit "longcat" then lit " -v long" else []) ++ escapedArgs env args.tail)

/-- `raw`: the thread that reads the connection ends the process at the end of what it reads. -/
def raw (args : List Bytes) : DeviceM ℤ :=
  match args with
  | [_, service] => do
    match ← onWire (adbConnect env service false) with
    | .failed _ e =>
      onWire (stderr (lit "error: " ++ cString e ++ lit "\n"))
      return 1
    | .opened fd _ =>
      if !copyToFile fd.reads then errorExit env (lit "read failed")
      else if !env.stdoutWorks then errorExit env (lit "write failed")
      else Prog.exit (.exited 0)
  | _ => onWire (refuse out (lit "usage: adb raw SERVICE\n"))

/-- `inc-server`. -/
def incServer (args : List Bytes) : DeviceM ℤ :=
  match args.tail with
  | connection :: output :: file :: files =>
    let valid (fd : ℤ) : Bool := 3 ≤ fd && env.isOpenFd fd
    if !valid (atoi connection) then
      onWire (refuse out (lit "Invalid connection_fd number given: " ++ decimalInt (atoi connection) ++
        lit "\n"))
    else if !valid (atoi output) then
      onWire (refuse out (lit "Invalid output_fd number given: " ++ decimalInt (atoi output) ++ lit "\n"))
    else return env.incrementalServe (atoi connection) (atoi output) (file :: files)
  | _ => errorExit env (lit "usage: adb inc-server CONNECTION_FD OUTPUT_FD FILE1 FILE2 ...")

/-! ## Bug reports -/

/-- `DefaultStandardStreamsCallback` with two strings. -/
def stringsCallback : StandardStreamsCallback (Bytes × Bytes) where
  onStdout s data := ((s.1 ++ data, s.2), true)
  onStderr s data := ((s.1, s.2 ++ data), true)
  done _ status := status

/-- `read_and_dump` into two strings: the result, and the strings. -/
def readAndDumpStrings (fd : Connection) (useShellProtocol : Bool) : ℤ × Bytes × Bytes :=
  let d := if useShellProtocol
    then readAndDumpProtocol stringsCallback ⟨none, ([], []), 255, env.shellBuffer⟩ fd.packets
    else readAndDumpRaw stringsCallback ⟨none, ([], []), 0, env.shellBuffer⟩ fd.reads
  (stringsCallback.done d.callback d.exitCode, d.callback)

/-- The chunks that `read_and_dump` passes to `OnStdout`. -/
def stdoutChunks (fd : Connection) (useShellProtocol : Bool) : List Bytes :=
  if useShellProtocol then (fd.packets.filter fun p => p.id = .stdout).map ShellPacket.data
  else (fd.reads.takeWhile fun read => read.any (· ≠ [])).map (Option.getD · [])

/-- `android::base::Trim`. -/
def trim (s : Bytes) : Bytes := (s.dropWhile isSpace).rdropWhile isSpace

/-- `sscanf` of `"%d.%d"`. -/
def scanBugzVersion (s : Bytes) : ℤ × ℤ :=
  let (major, rest) := strtoll s
  if rest = s then (0, 0)
  else
    match rest with
    | 46 :: rest => (intOfLong major, intOfLong (strtoll rest).1)
    | _ => (intOfLong major, 0)

/-- The events of a callback. -/
def emitReport : List BugreportEvent → DeviceM Unit
  | [] => return ()
  | e :: es => do
    Prog.emit (.bugreport e)
    emitReport es

/-- An event of the callback is not the pull. -/
def isNotPull : BugreportEvent → Bool
  | .pull _ _ _ => false
  | _ => true

/-- The pull that the callback asks for, if it does: whether it succeeds. -/
def pullAsked : List BugreportEvent → DeviceM Bool
  | .pull src dst _ :: _ => pull env false [src] dst true .none
  | _ => return false

/-- The callback reads the chunks, and pulls the report that they name. -/
def runBugreport (callback : BugreportCallback) (chunks : List Bytes) : DeviceM ℤ := do
  -- Up to the pull, the run is the same whether it succeeds or not.
  let asked := (bugreport (fun _ _ => true) chunks callback).trace
  emitReport (asked.takeWhile isNotPull)
  let pulled ← pullAsked env (asked.dropWhile isNotPull)
  let o := bugreport (fun _ _ => pulled) chunks callback
  emitReport (o.trace.dropWhile isNotPull)
  match o.result with
  | .ok status => return status
  | .error fault => Prog.exit (.throws fault)

/-- `Bugreport::DoIt`, from the destination on. -/
def pullBugreport (bugzVersion destDir destFile : Bytes) : DeviceM ℤ := do
  let destFile := if destFile = [] then lit "bugreport.zip"
    else if endsWithIgnoreCase destFile (lit ".zip") then destFile else destFile ++ lit ".zip"
  let showProgress := bugzVersion ≠ lit "1.0"
  onWire (if showProgress then pure () else
    stderr (lit "Bugreport is in progress and it could take minutes to complete.\n" ++
      lit "Please be patient and do not cancel or disconnect your device until it completes.\n"))
  let command := if showProgress then lit "bugreportz -p" else lit "bugreportz"
  match ← openShellCommand env command false with
  | none => return 1
  | some (fd, useShellProtocol) =>
    runBugreport env (BugreportCallback.new destDir destFile showProgress) (stdoutChunks fd useShellProtocol)

/-- `Bugreport::DoIt`, for a device whose `bugreportz` has a version. -/
def bugreportTo (bugzVersion : Bytes) (args : List Bytes) : DeviceM ℤ :=
  match args.tail with
  | [] =>
    match env.getcwd with
    | none => return 1
    | some dir => pullBugreport env bugzVersion dir []
  | path :: _ => do
    if path = lit "--stream" then
      let (major, minor) := scanBugzVersion bugzVersion
      if major = 1 ∧ minor < 2 then
        onWire (stderr (lit "Failed to stream bugreport: bugreportz does not support stream.\n"))
        pullBugreport env bugzVersion [] []
      else sendShellCommand env (lit "bugreportz -s")
    else if env.directoryExists (← onWire nextCall) path then pullBugreport env bugzVersion path []
    else pullBugreport env bugzVersion [] path

/-- `Bugreport::DoIt`. -/
def doIt (args : List Bytes) : DeviceM ℤ := do
  if 2 < args.length then errorExit env (lit "usage: adb bugreport [[PATH] | [--stream]]")
  else
    let opened ← openShellCommand env (lit "bugreportz -v") false
    let (status, stdout, stderrText) := match opened with
      | none => (1, [], [])
      | some (fd, useShellProtocol) => readAndDumpStrings env fd useShellProtocol
    let bugzVersion := trim stderrText
    if status ≠ 0 ∨ bugzVersion = [] then
      if args.length = 1 then
        onWire (stderr (lit "Failed to get bugreportz version, which is only available on devices " ++
          lit "running Android 7.0 or later.\nTrying a plain-text bug report instead.\n"))
        sendShellCommand env (lit "bugreport")
      else
        onWire (stderr (lit "Failed to get bugreportz version: 'bugreportz -v' returned '" ++
          cString (trim stdout) ++ lit "' (code " ++ decimalInt status ++ lit ").\n" ++
          lit "If the device does not run Android 7.0 or above, try this instead:\n" ++
          lit "\tadb bugreport > bugreport.txt\n"))
        return if status ≠ 0 then status else -1
    else bugreportTo env bugzVersion args

/-! ## The command line -/

/-- A command that only uses connections. -/
def wire (f : List Bytes → WireM ℤ) (args : List Bytes) : ClientM (Option ℤ) :=
  some <$> onDevice (onWire (f args))

/-- A command for a device. -/
def device (f : List Bytes → DeviceM ℤ) (args : List Bytes) : ClientM (Option ℤ) :=
  some <$> onDevice (f args)

/-- A command of the process. -/
def client (f : List Bytes → ClientM ℤ) (args : List Bytes) : ClientM (Option ℤ) := some <$> f args

/-- `emu`. -/
def emu (args : List Bytes) : WireM ℤ := do
  let w ← Prog.get
  return env.emulatorCommand args w.serial

/-- A text for the caller, and the result 0. -/
def answer (text : Bytes) : WireM ℤ := do
  capture out text
  return 0

/-- The commands, in the order in which `adb_commandline` tests for them. -/
def commands : List (Bytes × (List Bytes → ClientM (Option ℤ))) :=
  [(lit "devices", wire (devices env out)),
    (lit "transport-id", wire fun _ => transportIdCommand env out),
    (lit "connect", wire (connect env out)),
    (lit "disconnect", wire (disconnect env out)),
    (lit "abb", client (adbAbb env)),
    (lit "pair", client (pair env out)),
    (lit "emu", wire (emu env)),
    (lit "shell", client (adbShell env out true)),
    (lit "exec-in", wire (exec env out)),
    (lit "exec-out", wire (exec env out)),
    (lit "kill-server", wire fun _ => exitCode <$> adbKillServer env),
    (lit "sideload", wire (sideload env out)),
    (lit "rescue", wire (rescue env out)),
    (lit "tcpip", wire (tcpip env out)),
    (lit "remount", client (processRemountOrVerityService env)),
    (lit "disable-verity", client (processRemountOrVerityService env)),
    (lit "enable-verity", client (processRemountOrVerityService env)),
    (lit "reboot", wire (reboot env)),
    (lit "reboot-bootloader", wire (reboot env)),
    (lit "reboot-fastboot", wire (reboot env)),
    (lit "usb", wire (reboot env)),
    (lit "root", wire fun args => exitCode <$> adbRoot env (args.headD [])),
    (lit "unroot", wire fun args => exitCode <$> adbRoot env (args.headD [])),
    (lit "bugreport", device (doIt env)),
    (lit "forward", device (forward env out)),
    (lit "reverse", device (forward env out)),
    (lit "mdns", wire (mdns env out)),
    (lit "ls", device (lsCommand env out)),
    (lit "push", device (pushCommand env out)),
    (lit "pull", device (pullCommand env out)),
    (lit "install", device (withApk "install requires an argument\n" (installApp env))),
    (lit "install-multiple",
      device (withApk "install-multiple requires an argument\n" (installMultipleApp env))),
    (lit "install-multi-package",
      device (withApk "install-multi-package requires an argument\n" (installMultiPackage env))),
    (lit "uninstall", device (withApk "uninstall requires an argument\n" (uninstallApp env))),
    (lit "sync", client (syncCommand env out)),
    (lit "get-state", wire (getProperty env out)),
    (lit "get-serialno", wire (getProperty env out)),
    (lit "get-devpath", wire (getProperty env out)),
    (lit "logcat", device (logcat env)),
    (lit "lolcat", device (logcat env)),
    (lit "longcat", device (logcat env)),
    (lit "start-server", wire fun _ => startServerCommand env out),
    (lit "backup", client (backup env)),
    (lit "restore", device (restore env)),
    (lit "keygen", wire (withArgument out (lit "keygen requires an argument\n") env.authKeygen)),
    (lit "pubkey", wire (withArgument out (lit "pubkey requires an argument\n") env.authPubkey)),
    (lit "jdwp", wire fun _ => adbConnectCommand env (lit "jdwp")),
    (lit "track-jdwp", wire fun _ => adbConnectCommand env (lit "track-jdwp")),
    (lit "track-app", fun args => onDevice (trackApp env out args)),
    (lit "track-devices", wire (trackDevices env out)),
    (lit "raw", device (raw env out)),
    (lit "--help", wire fun _ => pure 0),
    (lit "help", wire fun _ => pure 0),
    (lit "/?", wire fun _ => pure 0),
    (lit "--version", wire fun _ => answer out env.version),
    (lit "version", wire fun _ => answer out env.version),
    (lit "features", device fun _ => featuresCommand env out),
    (lit "host-features", wire fun _ => adbQueryCommand env out (lit "host:host-features")),
    (lit "reconnect", fun args => onDevice (onWire <| reconnect env out args)),
    (lit "inc-server", device (incServer env out)),
    (lit "attach", wire (attach env out)),
    (lit "detach", wire (attach env out)),
    (lit "server-status", wire fun _ => adbConnectCommand env (lit "host:server-status"))]
  where withApk (text : String) (f : List Bytes → DeviceM ℤ) (args : List Bytes) : DeviceM ℤ :=
    if args.length < 2 then onWire (refuse out (lit text)) else f args

/-- A command, by its name. -/
def runCommand (args : List Bytes) : ClientM ℤ := do
  let r ← match (commands env out).lookup (args.headD []) with
    | none => pure none
    | some command => command args
  match r with
  | some r => return r
  | none => onDevice (onWire <| refuse out (lit "unknown command " ++ args.headD [] ++ lit "\n"))

/-- A command line that is turned down. -/
def turnDown (e : UsageError) : WireM ℤ := do
  if e.printed then stderr e.text
  refuse out e.text

/-- The `server` command. -/
def server (o : GlobalOptions) (spec : Bytes) : WireM ℤ := do
  let finish (r : ℤ) : WireM ℤ := do
    if r ≠ 0 then report out (lit "* could not start server *\n")
    return r
  if o.noDaemon || o.isDaemon then
    if o.isDaemon && o.ackReplyFd = -1 then
      report out (lit "reply fd for adb server to client communication not specified.\n")
      return 1
    else
      Prog.emit (.serves o.isDaemon spec o.oneDevice o.ackReplyFd)
      finish env.serverMain
  else
    Prog.emit (.launchesServer spec o.oneDevice)
    finish env.launchServer

/-- The options in force. -/
def ClientState.options (s : ClientState) : OptionsInForce :=
  let w := s.device.wire
  ⟨s.listenAll, s.device.returnErrors, w.socketSpec, w.oneDevice, w.transport, w.serial,
    w.transportId⟩

/-- `adb_set_one_device`, `adb_set_socket_spec` and `adb_set_transport`. -/
def Wire.configure (w : Wire) (o : GlobalOptions) (spec : Bytes) : Wire :=
  let p := selectTransport ClientProcess.fresh
    ⟨o.transportType, o.serial, o.transportId, env.getenv (lit "ANDROID_SERIAL")⟩
  { w.select p.transport p.serial p.transportId with socketSpec := spec, oneDevice := o.oneDevice }

/-- The flags of the process that options set. -/
def ClientState.withFlags (s : ClientState) (o : GlobalOptions) : ClientState :=
  { s with
    listenAll := s.listenAll || o.listenAll
    device := { s.device with returnErrors := s.device.returnErrors || o.returnErrors } }

/-- The selection of the server and of the device. -/
def ClientState.configure (s : ClientState) (o : GlobalOptions) (spec : Bytes) : ClientState :=
  { s with device := { s.device with wire := s.device.wire.configure env o spec } }

/-- The words after the global options, with the options and the server, or the command line is
turned down. -/
def acceptedWords (o : GlobalOptions) (words : Except UsageError (List Bytes)) :
    Except UsageError (Bytes × List Bytes) := do
  let args ← words
  let spec ← serverSocketSpec env o
  if o.oneDevice.isSome && !(o.isDaemon || o.isServer || args.head? = some (lit "start-server")) then
    throw ⟨lit "--one-device is only allowed when starting a server.\n", false⟩
  else return (spec, args)

/-- The words after the global options: the words of a command, which can come after `wait-for-`, or
a result. -/
def wordsOfCommand (args : List Bytes) : WireM (ℤ ⊕ List Bytes) :=
  match args with
  | [] => return .inl 1
  | name :: rest => do
    if (lit "wait-for-").isPrefixOf name then
      if ← waitForDevice env name false then return if rest = [] then .inl 0 else .inr rest
      else return .inl 1
    else return .inr args

/-- `adb_commandline`, up to the words of a command or to a result. -/
def beforeCommand (argv : List Bytes) : ClientM (ℤ ⊕ List Bytes) := do
  let (o, words) := parseGlobalOptions {} argv
  Prog.modify fun s => s.withFlags o
  match acceptedWords env o words with
  | .error e => onDevice (onWire (Sum.inl <$> turnDown out e))
  | .ok (spec, args) =>
    Prog.modify fun s => s.configure env o spec
    let s ← Prog.get
    Prog.emit (.selects s.options)
    onDevice (onWire (if o.isServer then Sum.inl <$> server env out o spec else wordsOfCommand env args))

/-- `adb_commandline`. -/
def adbCommandline (argv : List Bytes) : ClientM ℤ := do
  match ← beforeCommand env out argv with
  | .inl r => return r
  | .inr args => runCommand env out args

end Commands

end AdbMobile.Client
