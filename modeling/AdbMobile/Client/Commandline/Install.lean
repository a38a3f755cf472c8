import AdbMobile.Client.Commandline.Files

/-!
# Installing packages

`client/adb_install.cpp`, without fast deployment, which the library is built without. What the
device answers to a command of an install session is a status line; `incremental::install` and
`incremental::can_install` are outside the repository.
-/

namespace AdbMobile.Client

open ByteString PosixPath

/-- `InstallMode`. -/
inductive InstallMode
  | default | push | stream | incremental
  deriving DecidableEq, Repr

/-- `CmdlineOption`. -/
inductive CmdlineOption
  | none | enable | disable
  deriving DecidableEq, Repr

section Install

variable (env : ClientEnv)

/-! ## What the device supports -/

/-- `best_install_mode`. -/
def bestInstallMode : DeviceM InstallMode := do
  let features ← requireFeatures env false
  return if env.canUse features (lit "cmd") then .stream else .push

/-- `is_apex_supported`. -/
def isApexSupported : DeviceM Bool := do
  return env.canUse (← requireFeatures env false) (lit "apex")

/-- `is_abb_exec_supported`. -/
def isAbbExecSupported : DeviceM Bool := do
  return env.canUse (← requireFeatures env false) (lit "abb_exec")

/-! ## Commands for the device -/

/-- `pm_command`. -/
def pmCommand (args : List Bytes) : DeviceM ℤ :=
    sendShellCommand env (lit "pm" ++ escapedArgs env args)

/-- `uninstall_app_streamed`. -/
def uninstallAppStreamed (args : List Bytes) : DeviceM ℤ :=
  if lit "-k" ∈ args then return 1
  else sendShellCommand env (lit "cmd package" ++ escapedArgs env args)

/-- `uninstall_app_legacy`. -/
def uninstallAppLegacy (args : List Bytes) : DeviceM ℤ :=
  if lit "-k" ∈ args.tail then return 1 else pmCommand env args

/-- `uninstall_app`. -/
def uninstallApp (args : List Bytes) : DeviceM ℤ := do
  if (← bestInstallMode env) = .push then uninstallAppLegacy env args
  else uninstallAppStreamed env args

/-- `delete_device_file`. -/
def deleteDeviceFile (filename : Bytes) : DeviceM ℤ :=
  sendShellCommand env (lit "rm " ++ env.escapeArg filename ++ lit " </dev/null")

/-- `read_status_line` into a buffer of `BUFSIZ` bytes, as a C string. -/
def readStatusLine (fd : Connection) : Bytes := cString ((rawReceived fd.reads).take 1023)

/-- `send_abb_exec_command`. -/
def sendAbbExecCommand (cmdArgs : List Bytes) : DeviceM ConnectResult := do
  match ← onWire (adbConnect env (lit "abb_exec:" ++ join env.abbArgDelimiter cmdArgs) false) with
  | .failed _ e =>
    onWire (stderr (lit "adb: failed to run abb_exec. Error: " ++ cString e ++ lit "\n"))
    return .failed (-1) e
  | r => return r

/-- `send_command`. -/
def sendCommand (cmdArgs : List Bytes) : DeviceM ConnectResult := do
  if ← isAbbExecSupported env then sendAbbExecCommand env cmdArgs
  else onWire (adbConnect env (join 32 cmdArgs) false)

/-- The arguments of a command: `abb_exec` takes them as they are. -/
def passArgs (useAbbExec : Bool) (args : List Bytes) : List Bytes :=
  if useAbbExec then args else args.map env.escapeArg

/-- `copy_to_file` from a local file succeeds: no read of it fails before its end. -/
def copyToFile : List (Option Bytes) → Bool
  | [] => true
  | none :: _ => false
  | some [] :: _ => true
  | some _ :: reads => copyToFile reads

/-- The status line says that the command succeeded. -/
def isSuccess (buf : Bytes) : Bool := (lit "Success").isPrefixOf buf

/-! ## Installing one package -/

/-- `install_app_streamed`, from the connection on. -/
def streamPackage (file : Bytes) (cmdArgs : List Bytes) (reads : List (Option Bytes)) :
    DeviceM ℤ := do
  match ← sendCommand env cmdArgs with
  | .failed _ e =>
    onWire (stderr (lit "adb: connect error for write: " ++ cString e ++ lit "\n"))
    return 1
  | .opened fd _ =>
    if !copyToFile reads then
      onWire (stderr (env.perrorStr (lit "adb: failed to install: copy_to_file: " ++ file)))
      return 1
    else
      let buf := readStatusLine fd
      if !isSuccess buf then
        onWire (stderr (lit "adb: failed to install " ++ file ++ lit ": " ++ buf))
        return 1
      else return 0

/-- An apex is supported, if the file is one. -/
def supportsFile (isApex : Bool) : DeviceM Bool :=
    if isApex then isApexSupported env else return true

/-- `install_app_streamed`. -/
def installAppStreamed (args : List Bytes) (useFastdeploy : Bool) : DeviceM ℤ := do
  let file := args.getLastD []
  let isApex := endsWithIgnoreCase file (lit ".apex")
  if !endsWithIgnoreCase file (lit ".apk") && !isApex then
    errorExit env (lit "filename doesn't end .apk or .apex: " ++ file)
  else if !(← supportsFile env isApex) then
    errorExit env (lit ".apex is not supported on the target device")
  else if isApex && useFastdeploy then
    errorExit env (lit "--fastdeploy doesn't support .apex files")
  else if useFastdeploy then errorExit env (lit "fastdeploy is disabled")
  else
    match env.stat (← onWire nextCall) file with
    | .error e =>
      onWire (stderr (lit "adb: failed to stat " ++ file ++ lit ": " ++ e ++ lit "\n"))
      return 1
    | .ok size =>
      match env.openFile (← onWire nextCall) file with
      | .error e =>
        onWire (stderr (lit "adb: failed to open " ++ file ++ lit ": " ++ e ++ lit "\n"))
        return 1
      | .ok reads =>
        let useAbbExec ← isAbbExecSupported env
        let command := if useAbbExec then lit "package" else lit "exec:cmd package"
        streamPackage env file (command :: passArgs env useAbbExec args.dropLast ++
          [lit "-S", decimalInt size] ++ if isApex then [lit "--apex"] else []) reads

/-- The loop of `install_app_legacy` over the arguments from the last one back: the index of the
package, or the text to exit with. -/
def findLastApk : List Bytes → Except Bytes ℕ
  | [] => .error (lit "need APK file on command line")
  | arg :: before =>
    if endsWithIgnoreCase arg (lit ".apex") then
      .error (lit "APEX packages are only compatible with Streamed Install")
    else if endsWithIgnoreCase arg (lit ".apk") then .ok before.length
    else findLastApk before

/-- `install_app_legacy`. -/
def installAppLegacy (args : List Bytes) (useFastdeploy : Bool) : DeviceM ℤ := do
  let lastApk ← orExit env (findLastApk args.reverse)
  let apk := args.getD lastApk []
  let apkDest := lit "/data/local/tmp/" ++ basename apk
  if useFastdeploy then errorExit env (lit "fastdeploy is disabled")
  else if ← push env false [apk] apkDest false .any false then
    let result ← pmCommand env (args.set lastApk apkDest)
    let _ ← deleteDeviceFile env apkDest
    return result
  else return -1

/-- `install_app_incremental`. -/
def installAppIncremental (args : List Bytes) (silent : Bool) : DeviceM ℤ := do
  let isApk (arg : Bytes) : Bool := endsWithIgnoreCase arg (lit ".apk")
  let passthroughArgs := args.filter fun arg => !isApk arg && !(lit "install").isPrefixOf arg
  match args.findIdx? isApk with
  | none =>
    onWire (if silent then pure () else stderr (lit "error: need at least one APK file on command line\n"))
    return -1
  | some firstApk =>
    let lastApk := args.length - 1 - args.reverse.findIdx isApk
    let files := (args.drop firstApk).take (lastApk + 1 - firstApk)
    if silent && !env.canInstall files then return -1
    else if !env.incrementalInstall files passthroughArgs silent then return -1
    else return 0

/-! ## Choosing the mode -/

/-- The incremental option after the device was looked at: whether it supports `abb_exec`. -/
def requireAbbExec (request : CmdlineOption) : DeviceM CmdlineOption := do
  if request = .disable then return request
  else if ← isAbbExecSupported env then return request
  else if request = .none then return .disable
  else errorExit env (lit "Device doesn't support incremental installations")

/-- The default of the host. -/
def hostDefault (request : CmdlineOption) : CmdlineOption :=
  if request = .none ∧
      (env.getenv (lit "ADB_INSTALL_DEFAULT_INCREMENTAL")).bind env.parseBool = some false then .disable
  else request

/-- The default of the device. -/
def deviceDefault (request : CmdlineOption) : DeviceM CmdlineOption := do
  if request ≠ .none then return request
  else
    match ← sendAbbExecCommand env
        [lit "settings", lit "get", lit "global", lit "enable_adb_incremental_install_default"] with
    | .failed _ e =>
      onWire (stderr (lit "adb: retrieving the default device installation mode failed: " ++ cString e))
      return request
    | .opened fd _ =>
      return if env.parseBool (readStatusLine fd) = some false then .disable else request

/-- `calculate_install_mode`. -/
def calculateInstallMode (modeFromArgs : InstallMode) (fastdeploy : Bool)
    (request : CmdlineOption) :
    DeviceM (InstallMode × Option InstallMode) := do
  if request = .enable ∧ fastdeploy then
    errorExit env (lit "--incremental and --fast-deploy options are incompatible. " ++
      lit "Please choose one")
  else if modeFromArgs ≠ .default then
    if request = .enable then
      errorExit env (lit "--incremental is not compatible with other installation modes")
    else return (modeFromArgs, none)
  else
    let request ← requireAbbExec env request
    let request ← deviceDefault env (hostDefault env request)
    if request = .enable then return (.incremental, none)
    else
      let bestMode ← bestInstallMode env
      if request = .none then return (.incremental, some bestMode)
      else return (bestMode, none)

/-- What `parse_install_mode` and `parse_fast_deploy_mode` find, and the words they pass on. The
strategy for the fast deployment agent is not read. -/
structure InstallArgs where
  mode : InstallMode := .default
  request : CmdlineOption := .none
  wait : Bool := false
  useFastdeploy : Bool := false
  passthrough : List Bytes := []
  deriving DecidableEq, Repr

/-- An argument is an abbreviation of an option, from this length on. -/
def abbreviates (arg option : Bytes) (atLeast : ℕ) : Bool :=
  atLeast ≤ arg.length && arg.isPrefixOf option

/-- A step of `parse_install_mode`. -/
def parseInstallMode (a : InstallArgs) (arg : Bytes) : InstallArgs :=
  if arg = lit "--streaming" then { a with mode := .stream }
  else if arg = lit "--no-streaming" then { a with mode := .push }
  else if abbreviates arg (lit "--incremental") 6 then { a with request := .enable }
  else if abbreviates arg (lit "--no-incremental") 9 then { a with request := .disable }
  else if arg = lit "--wait" then { a with wait := true }
  else { a with passthrough := a.passthrough ++ [arg] }

/-- A step of `parse_fast_deploy_mode`. -/
def parseFastDeployMode (a : InstallArgs) (arg : Bytes) : InstallArgs :=
  if arg = lit "--fastdeploy" then { a with useFastdeploy := true }
  else if arg = lit "--no-fastdeploy" then { a with useFastdeploy := false }
  else if arg = lit "--force-agent" ∨ arg = lit "--date-check-agent" ∨
      arg = lit "--version-check-agent" then a
  else { a with passthrough := a.passthrough ++ [arg] }

/-- The arguments of `install`. -/
def installArgs (args : List Bytes) : InstallArgs :=
  let a := args.foldl parseInstallMode {}
  a.passthrough.foldl parseFastDeployMode { a with passthrough := [] }

/-- A streaming install is asked for, of a device that is not known to support it. -/
def asksToStream (primary : InstallMode) (fallback : Option InstallMode) : Bool :=
  primary = .stream || fallback.getD .push = .stream

/-- A mode, and the fallback if it fails and is another one. -/
def runInstallModes (primary : InstallMode) (fallback : Option InstallMode)
    (run : InstallMode → Bool → DeviceM ℤ) : DeviceM ℤ := do
  let res ← run primary fallback.isSome
  if res ≠ 0 ∧ fallback.getD primary ≠ primary then run (fallback.getD primary) false
  else return res

/-- The choice of the modes: the device supports streaming, if one of them needs it. -/
def chooseInstallModes (a : InstallArgs) (useFastdeploy : Bool) :
    DeviceM (InstallMode × Option InstallMode) := do
  let (primary, fallback) ← calculateInstallMode env a.mode useFastdeploy a.request
  if !asksToStream primary fallback then return (primary, fallback)
  else if (← bestInstallMode env) = .push then
    errorExit env (lit "Attempting to use streaming install on unsupported device")
  else return (primary, fallback)

/-- `install_app`. -/
def installApp (args : List Bytes) : DeviceM ℤ := do
  let a := installArgs args
  let (primary, fallback) ← chooseInstallModes env a a.useFastdeploy
  if a.passthrough.length < 2 then errorExit env (lit "install requires an apk argument")
  else
    runInstallModes primary fallback fun mode silent =>
      match mode with
      | .push => installAppLegacy env a.passthrough a.useFastdeploy
      | .stream => installAppStreamed env a.passthrough a.useFastdeploy
      | .incremental => installAppIncremental env a.passthrough silent
      | .default => errorExit env (lit "invalid install mode")

/-! ## Install sessions -/

/-- The session id in a status line, if there is one that is not negative. -/
def sessionId (buf : Bytes) : Option ℕ :=
  if isSuccess buf ∧ (91 : UInt8) ∈ buf ∧ (93 : UInt8) ∈ buf then
    -- The text after the last `[`, up to the last `]`.
    let start := (buf.reverse.takeWhile (· ≠ 91)).reverse
    let text := if (93 : UInt8) ∈ start then (start.reverse.dropWhile (· ≠ 93)).tail.reverse else start
    let id := intOfLong (strtoll text).1
    if id < 0 then none else some id.toNat
  else none

/-- A status line once its session id has been looked for: it ends at its last `]`. -/
def sessionLine (buf : Bytes) : Bytes :=
  if isSuccess buf ∧ (91 : UInt8) ∈ buf ∧ (93 : UInt8) ∈ buf then
    (buf.reverse.dropWhile (· ≠ 93)).tail.reverse
  else buf

/-- Writes a local file, `shown` in the texts, to a session: whether the device acknowledges it. -/
def writeToSession (file shown : Bytes) (cmdArgs : ℤ → List Bytes) : DeviceM Bool := do
  match env.stat (← onWire nextCall) file with
  | .error e =>
    onWire (stderr (lit "adb: failed to stat " ++ shown ++ lit ": " ++ e ++ lit "\n"))
    return false
  | .ok size =>
    match env.openFile (← onWire nextCall) file with
    | .error e =>
      onWire (stderr (lit "adb: failed to open " ++ shown ++ lit ": " ++ e ++ lit "\n"))
      return false
    | .ok reads =>
      match ← sendCommand env (cmdArgs size) with
      | .failed _ e =>
        Prog.emit (.command (cmdArgs size) none)
        onWire (stderr (lit "adb: connect error for write: " ++ cString e ++ lit "\n"))
        return false
      | .opened fd _ =>
        if !copyToFile reads then
          Prog.emit (.command (cmdArgs size) none)
          onWire (stderr (env.perrorStr (lit "adb: failed to write " ++ shown) ++ lit "\n"))
          return false
        else
          let buf := readStatusLine fd
          Prog.emit (.command (cmdArgs size) (some buf))
          if !isSuccess buf then
            onWire (stderr (lit "adb: failed to write " ++ shown ++ lit "\n" ++ buf))
            return false
          else return true

/-- A command of a session, and the status line that answers it. -/
def sessionCommand (purpose : Bytes) (cmdArgs : List Bytes) : DeviceM (Option Bytes) := do
  match ← sendCommand env cmdArgs with
  | .failed _ e =>
    Prog.emit (.command cmdArgs none)
    onWire (stderr (lit "adb: connect error for " ++ purpose ++ lit ": " ++ cString e ++ lit "\n"))
    return none
  | .opened fd _ =>
    Prog.emit (.command cmdArgs (some (readStatusLine fd)))
    return some (readStatusLine fd)

/-- The loop of `install_multiple_app_streamed` over the arguments from the last one back: the
number of packages and their size, or the text to exit with. `calls` is the number of the first
`stat`. -/
def countApks (calls : ℕ) : List Bytes → Except Bytes (ℕ × ℤ)
  | [] => .ok (0, 0)
  | file :: before =>
    if endsWithIgnoreCase file (lit ".apex") then
      .error (lit "APEX packages are not compatible with install-multiple")
    else if endsWithIgnoreCase file (lit ".apk") ∨ endsWithIgnoreCase file (lit ".dm") ∨
        endsWithIgnoreCase file (lit ".fsv_sig") then
      match env.stat calls file with
      | .error e => .error (lit "failed to stat \"" ++ file ++ lit "\": " ++ e)
      | .ok size => (countApks (calls + 1) before).map fun (n, total) => (n + 1, total + size)
    else .ok (0, 0)

/-- Writes the packages of a session, up to the first one that fails. -/
def writeApks (installCmd session : Bytes) : List Bytes → DeviceM Bool
  | [] => return true
  | file :: files => do
    if ← writeToSession env file (lit "\"" ++ file ++ lit "\"") fun size =>
        [installCmd, lit "install-write", lit "-S", decimalInt size, session, basename file,
          lit "-"] then
      writeApks installCmd session files
    else return false

/-- The command of the sessions of `install_multiple_app_streamed`. -/
def sessionInstallCmd (useAbbExec : Bool) : DeviceM Bytes := do
  if useAbbExec then return lit "package"
  else return if (← bestInstallMode env) = .push then lit "exec:pm" else lit "exec:cmd package"

/-- `install_multiple_app_streamed`. -/
def installMultipleAppStreamed (args : List Bytes) : DeviceM ℤ := do
  let s ← Prog.get
  let (n, total) ← orExit env (countApks env s.wire.calls args.reverse)
  onWire (Prog.modify fun w => { w with calls := w.calls + n })
  if n = 0 then errorExit env (lit "need APK file on command line")
  else
    let firstApk := args.length - n
    let useAbbExec ← isAbbExecSupported env
    let installCmd ← sessionInstallCmd env useAbbExec
    match ← sessionCommand env (lit "create") ([installCmd, lit "install-create", lit "-S",
        decimalInt total] ++ passArgs env useAbbExec (args.take firstApk)) with
    | none => return 1
    | some buf =>
      match sessionId buf with
      | none =>
        onWire (stderr (lit "adb: failed to create session\n" ++ sessionLine buf))
        return 1
      | some id =>
        let session := decimal id
        let success ← writeApks env installCmd session (args.drop firstApk)
        let verb := if success then lit "install-commit" else lit "install-abandon"
        match ← sessionCommand env (lit "finalize") [installCmd, verb, session] with
        | none => return 1
        | some buf =>
          if !success then return 1
          else if !isSuccess buf then
            onWire (stderr (lit "adb: failed to finalize session\n" ++ buf))
            return 1
          else return 0

/-- `install_multiple_app`. -/
def installMultipleApp (args : List Bytes) : DeviceM ℤ := do
  let a := args.tail.foldl parseInstallMode {}
  let (primary, fallback) ← chooseInstallModes env a false
  runInstallModes primary fallback fun mode silent =>
    match mode with
    | .push | .stream => installMultipleAppStreamed env a.passthrough
    | .incremental => installAppIncremental env a.passthrough silent
    | .default => errorExit env (lit "invalid install mode")

/-! ## Several packages -/

/-- An argument is a package. -/
def isPackage (file : Bytes) : Bool :=
  endsWithIgnoreCase file (lit ".apk") || endsWithIgnoreCase file (lit ".apex")

/-- Writes the splits of a package to its session, up to the first one that fails. -/
def writeSplits (installCmd session : Bytes) (i : ℕ) : List Bytes → DeviceM Bool
  | [] => return true
  | split :: splits => do
    if ← writeToSession env split split fun size => [installCmd, lit "install-write", lit "-S",
        decimalInt size, session, decimal i ++ lit "_" ++ basename split, lit "-"] then
      writeSplits installCmd session i splits
    else return false

/-- Creates a session for each package and writes it: whether all went well, and the sessions. -/
def childSessions (installCmd : Bytes) (cmdArgs apexCmdArgs : List Bytes)
    (sessions : List ℕ) (i : ℕ) :
    List Bytes → DeviceM (Bool × List ℕ)
  | [] => return (true, sessions)
  | file :: files => do
    let create := if endsWithIgnoreCase file (lit ".apex") then apexCmdArgs else cmdArgs
    match ← sessionCommand env (lit "create") create with
    | none => return (false, sessions)
    | some buf =>
      match sessionId buf with
      | none =>
        onWire (stderr (lit "adb: failed to create multi-package session\n" ++ sessionLine buf))
        return (false, sessions)
      | some id =>
        if ← writeSplits env installCmd (decimal id) i (split 58 file) then
          childSessions installCmd cmdArgs apexCmdArgs (sessions ++ [id]) (i + 1) files
        else return (false, sessions ++ [id])

/-- The sessions are linked to their parent. -/
def addSessions (installCmd parent : Bytes) (sessions : List ℕ) : DeviceM Bool := do
  let cmdArgs := [installCmd, lit "install-add-session", parent] ++ sessions.map decimal
  match ← sessionCommand env (lit "install-add-session") cmdArgs with
  | none => return false
  | some buf =>
    if !isSuccess buf then
      onWire (stderr (lit "adb: failed to link sessions (" ++ join 32 cmdArgs ++ lit ")\n" ++ buf))
      return false
    else return true

/-- The sessions are linked, if they were all created and written. -/
def linkSessions (created : Bool) (installCmd parent : Bytes) (sessions : List ℕ) : DeviceM Bool :=
  if created then addSessions env installCmd parent sessions else return false

/-- The arguments that `install-commit` gets of those before the packages. -/
def commitArgs : List Bytes → List Bytes
  | arg :: value :: rest =>
    if arg = lit "--staged-ready-timeout" then arg :: value :: commitArgs rest
    else commitArgs (value :: rest)
  | _ => []

/-- Tries to abandon the sessions that remain. -/
def abandonSessions (installCmd : Bytes) : List ℕ → DeviceM Unit
  | [] => return ()
  | id :: sessions => do
    onWire (stderr (lit "Attempting to abandon session ID " ++ decimal id ++ lit "\n"))
    let _ ← sessionCommand env (lit "finalize") [installCmd, lit "install-abandon", decimal id]
    abandonSessions installCmd sessions

/-- The label `finalize_multi_package_session` of `install_multi_package`. -/
def finalizeMultiPackage (installCmd : Bytes) (success : Bool) (args : List Bytes) (parent : ℕ)
    (sessions : List ℕ) : DeviceM ℤ := do
  let serviceArgs :=
    if success then [installCmd, lit "install-commit"] ++ commitArgs args ++ [decimal parent]
    else [installCmd, lit "install-abandon", decimal parent]
  match ← sessionCommand env (lit "finalize") serviceArgs with
  | none => return 1
  | some buf =>
    if isSuccess buf ∧ success then return 0
    else
      onWire (if isSuccess buf then pure () else
        stderr (lit "adb: failed to finalize session\n" ++ buf))
      abandonSessions env installCmd (sessions ++ [parent])
      return 1

/-- `install_multi_package`. -/
def installMultiPackage (args : List Bytes) : DeviceM ℤ := do
  let n := (args.reverse.takeWhile isPackage).length
  if n = 0 then errorExit env (lit "need APK or APEX files on command line")
  else
    let firstPackage := args.length - n
    let packages := args.drop firstPackage
    let apexFound := packages.any fun file => endsWithIgnoreCase file (lit ".apex")
    if (← bestInstallMode env) = .push then
      onWire (stderr (lit "adb: multi-package install is not supported on this device\n"))
      return 1
    else
      let useAbbExec ← isAbbExecSupported env
      let installCmd := if useAbbExec then lit "package" else lit "exec:cmd package"
      let options := passArgs env useAbbExec ((args.take firstPackage).drop 1) ++
        if apexFound then [lit "--staged"] else []
      match ← sessionCommand env (lit "create multi-package")
          ([installCmd, lit "install-create", lit "--multi-package"] ++ options) with
      | none => return 1
      | some buf =>
        match sessionId buf with
        | none =>
          onWire (stderr (lit "adb: failed to create multi-package session\n" ++ sessionLine buf))
          return 1
        | some parent =>
          let cmdArgs := [installCmd, lit "install-create"] ++ options
          let (created, sessions) ←
            childSessions env installCmd cmdArgs (cmdArgs ++ [lit "--apex"]) [] firstPackage packages
          let linked ← linkSessions env created installCmd (decimal parent) sessions
          finalizeMultiPackage env installCmd linked ((args.take firstPackage).drop 1) parent sessions

end Install

end AdbMobile.Client
