import AdbMobile.Client.Commandline.Install

/-!
# The process of the command line

Besides what programs for a device share, the commands have in common `gListenAll`, the variables of
`getopt`, the standard input and `std::cin`, and each call of the library brings an array of its
caller. `shell` and `sync` read their options with `getopt`. `shell` sets `optind` first, and `sync`
does not; neither of them looks at what is left of the word that `getopt` was in.
-/

namespace AdbMobile.Client

open ByteString Sync

/-- The options of a command line that later code reads: those that are process-wide, and the
selection. -/
structure OptionsInForce where
  listenAll : Bool
  returnErrors : Bool
  socketSpec : Bytes
  oneDevice : Option Bytes
  transport : TransportType
  serial : Option Bytes
  transportId : ℕ
  deriving DecidableEq, Repr

/-- What a command does. -/
inductive ClientEvent
  | device (e : DeviceEvent)
  /-- The global options are read. -/
  | selects (o : OptionsInForce)
  /-- `getopt` recognises an option. -/
  | recognises (c : UInt8) (arg : Option Bytes)

/-- The variables of the process that commands share, and the caller's `argv`. -/
structure ClientState where
  device : DeviceState
  /-- `gListenAll`. -/
  listenAll : Bool
  getopt : GetoptState
  /-- The standard input is `/dev/null`. -/
  stdinReplaced : Bool
  /-- `std::cin` has failed. -/
  cinFailed : Bool
  /-- The caller's array, with the null pointers that a command stored in it. -/
  argv : List (Option Bytes)

/-- A program of the command line. -/
abbrev ClientM := Prog ClientState ClientEvent ClientStop

/-- A program for a device, as one of the command line. -/
def onDevice {α : Type} (p : DeviceM α) : ClientM α :=
  Prog.within ClientState.device (fun d s => { s with device := d }) .device id p

section Process

variable (env : ClientEnv) (out : Bool)

/-! ## Options -/

/-- A round of a loop over options. -/
def optionRound {ρ : Type} (optstring : List (UInt8 × Bool)) (args : List Bytes)
    (step : ρ → UInt8 → Bytes → ClientM (Option ρ)) (o : ρ) : ClientM (ρ ⊕ Option ρ) := do
  let s ← Prog.get
  let (r, g) := getopt optstring args s.getopt
  Prog.modify fun s => { s with getopt := g }
  match r with
  | .done => return .inr (some o)
  | .invalid => return .inr none
  | .option c arg =>
    Prog.emit (.recognises c arg)
    match ← step o c (arg.getD []) with
    | none => return .inr none
    | some o => return .inl o

/-- `while ((opt = getopt(argc, argv, optstring)) != -1)`: what the options make of a value, or none
where the command is turned down. A round that is not the last one leaves `getopt` less. -/
def readOptions {ρ : Type} (optstring : List (UInt8 × Bool)) (args : List Bytes)
    (step : ρ → UInt8 → Bytes → ClientM (Option ρ)) (o : ρ) : ClientM (Option ρ) := do
  let s ← Prog.get
  Prog.loop (optionRound optstring args step) none (s.getopt.left args + 1) o

/-! ## Shells -/

/-- `PtyAllocationMode`. -/
inductive PtyAllocationMode
  | auto | no | yes | definitely
  deriving DecidableEq, Repr

/-- The variables that the options of `adb_shell` set. -/
structure ShellOptions where
  escapeChar : UInt8
  useShellProtocol : Bool
  tty : PtyAllocationMode
  deriving DecidableEq, Repr

/-- `"+e:ntTx"`: `+` is an option like the others. -/
def shellOptstring : List (UInt8 × Bool) :=
  [(43, false), (101, true), (110, false), (116, false), (84, false), (120, false)]

/-- An option of `adb_shell`, or none where the command is turned down. -/
def shellOption (o : ShellOptions) (c : UInt8) (arg : Bytes) :
    ClientM (Option ShellOptions) := do
  if c = 101 then
    if arg.length = 1 ∨ arg = lit "none" then
      return some { o with escapeChar := if arg = lit "none" then 0 else arg.headD 0 }
    else
      onDevice (onWire <| capture out (lit "error: -e requires a single-character argument or 'none'\n"))
      return none
  else if c = 110 then
    Prog.modify fun s => { s with stdinReplaced := true }
    return some o
  else if c = 120 then return some ⟨126, false, .definitely⟩
  else if c = 116 then
    return some { o with tty := if o.tty = .yes ∨ o.tty = .definitely then .definitely else .yes }
  else if c = 84 then return some { o with tty := .no }
  else return none

/-- The type of shell that the options ask for. -/
def shellTypeArg (isatty isInteractive : Bool) (tty : PtyAllocationMode) : Bytes :=
  match tty with
  | .no => lit "raw"
  | .auto => if !isatty || !isInteractive then lit "raw" else lit "pty"
  | .yes => if !isatty then lit "raw" else lit "pty"
  | .definitely => lit "pty"

/-- The end of `adb_shell`, after its options. -/
def startShell (features : FeatureSet) (args : List Bytes) (o : ShellOptions) :
    ClientM ℤ := do
  let s ← Prog.get
  let isatty := env.isatty && !s.stdinReplaced
  let typeArg := shellTypeArg isatty (s.getopt.optind = args.length) o.tty
  onDevice (onWire (if o.tty ≠ .yes ∨ isatty then pure () else
    stderr (lit "Remote PTY will not be allocated because stdin is not a terminal.\n" ++
      lit "Use multiple -t options to force remote PTY allocation.\n")))
  if !o.useShellProtocol ∧ typeArg ≠ lit "pty" then
    let culprit := if !env.canUse features (lit "shell_v2") then lit "device" else lit "-x"
    onDevice (onWire <| stderr (lit "error: " ++ culprit ++ lit " only supports allocating a pty\n"))
    return 1
  else
    let typeArg := if o.useShellProtocol then typeArg else []
    let command := join 32 (args.drop s.getopt.optind)
    onDevice (remoteShell env out o.useShellProtocol typeArg o.escapeChar (command = [])
      (shellServiceString env o.useShellProtocol typeArg command) (if s.stdinReplaced then [] else env.typed))

/-- `argv[0] = "adb shell"`, which the caller finds in its array if it is that one. -/
def renameCommand (callersArray : Bool) (args : List Bytes) : ClientM Unit :=
  Prog.modify fun s => { s with
    argv := if callersArray then s.argv.set (s.argv.length - args.length) (some (lit "adb shell"))
      else s.argv }

/-- `adb_shell`, on the caller's array or on one of its own. -/
def adbShell (callersArray : Bool) (args : List Bytes) : ClientM ℤ := do
  match ← onDevice (adbGetFeatureSetOrDie env out) with
  | none => return 1
  | some features =>
    let useShellProtocol := env.canUse features (lit "shell_v2")
    renameCommand callersArray args
    Prog.modify fun s => { s with getopt := { s.getopt with optind := 1 } }
    let o : ShellOptions := ⟨126, useShellProtocol, if useShellProtocol then .auto else .definitely⟩
    match ← readOptions shellOptstring args (shellOption out) o with
    | none => return 1
    | some o => startShell env out features args o

/-- `adb_shell_noinput`. -/
def adbShellNoinput (args : List Bytes) : ClientM ℤ := do
  Prog.modify fun s => { s with stdinReplaced := true }
  adbShell env false false args

/-- `adb_abb`. -/
def adbAbb (args : List Bytes) : ClientM ℤ := do
  let features ← onDevice (requireFeatures env false)
  if !env.canUse features (lit "abb") then return 1
  else
    Prog.modify fun s => { s with getopt := { s.getopt with optind := 1 } }
    onDevice (remoteShell env false true (lit "raw") 126 false
      (lit "abb:" ++ join env.abbArgDelimiter args.tail) env.typed)

/-- `process_remount_or_verity_service`. -/
def processRemountOrVerityService (args : List Bytes) : ClientM ℤ := do
  let features ← onDevice (requireFeatures env false)
  if env.canUse features (lit "remount_shell") then adbShellNoinput env (lit "shell" :: args)
  else onDevice (onWire <| adbConnectCommand env (args.headD [] ++ lit ":" ++ args.tail.headD []))

/-! ## Syncing partitions -/

/-- `"lnz:Zq"`. -/
def syncOptstring : List (UInt8 × Bool) :=
  [(108, false), (110, false), (122, true), (90, false), (113, false)]

/-- The text of a `sync` command that is turned down; the one for the words after the options has
one space less. -/
def syncUsage (gap : Bytes) : Bytes :=
  lit "usage: adb sync [-l] [-n]" ++ gap ++ lit "[-z ALGORITHM] [-Z] [-q] [PARTITION]\n"

/-- An option of `sync`, or the text to exit with. -/
def syncOption (o : SyncOptions) (c : UInt8) (arg : Bytes) : Except Bytes SyncOptions :=
  if c = 108 then .ok { o with listOnly := true }
  else if c = 110 then .ok { o with dryRun := true }
  else if c = 122 then (parseCompressionType arg false).map fun type =>
    { o with compression := type }
  else if c = 90 then .ok { o with compression := .none }
  else .ok o

/-- The partition that the words after the options name, if they are well formed. -/
def syncSource (args : List Bytes) (optind : ℕ) : Option Bytes :=
  if optind = args.length then some (lit "all")
  else if optind + 1 = args.length then args[optind]?
  else none

/-- The `sync` command, which does not set `optind`. -/
def syncCommand (args : List Bytes) : ClientM ℤ := do
  let compression ← onDevice (orExit env (environmentCompression env .any))
  let step (o : SyncOptions) (c : UInt8) (arg : Bytes) : ClientM (Option SyncOptions) :=
    onDevice (some <$> orExit env (syncOption o c arg))
  match ← readOptions syncOptstring args step ⟨false, false, compression⟩ with
  | none => onDevice (onWire <| refuse out (syncUsage (lit "  ")))
  | some o =>
    let s ← Prog.get
    match syncSource args s.getopt.optind with
    | none => onDevice (onWire <| refuse out (syncUsage (lit " ")))
    | some src => onDevice (syncFrom env out o src)

/-! ## Other commands -/

/-- `pair`, whose first check still ends the process. -/
def pair (args : List Bytes) : ClientM ℤ := do
  match args.tail with
  | [address] =>
    onDevice (onWire <| capture out (lit "Enter pairing code: "))
    let s ← Prog.get
    match if s.cinFailed ∨ s.stdinReplaced then none else env.cinLine with
    | none =>
      Prog.modify fun s => { s with cinFailed := true }
      onDevice (onWire <| refuse out (lit "No pairing code provided\n"))
    | some [] => onDevice (onWire <| refuse out (lit "No pairing code provided\n"))
    | some password =>
      onDevice (onWire <| adbQueryCommand env out (lit "host:pair:" ++ password ++ lit ":" ++ address))
  | [address, password] =>
    onDevice (onWire <| adbQueryCommand env out (lit "host:pair:" ++ password ++ lit ":" ++ address))
  | _ => onDevice (errorExit env (lit "usage: adb pair HOST[:PORT] [PAIRING CODE]"))

/-- `backup`, whose loop moves the words of the caller's array. -/
def backup (args : List Bytes) : ClientM ℤ := do
  let (filename, args, argv) ← onDevice (orExit env (extractFile args))
  Prog.modify fun s => { s with argv := s.argv.take (s.argv.length - argv.length) ++ argv }
  onDevice (backupTo env filename args)

end Process

end AdbMobile.Client
