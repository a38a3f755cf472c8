import AdbMobile.Client.Commandline.Device

/-!
# Commands that move files

`ls`, `push`, `pull` and `sync` each open a sync connection and run a session on it, which the
modules of the sync client describe. The constructor of `SyncConnection` asks for the features of
the device and looks whether it got them; every `do_sync_*` function returns at once on a connection
that is not valid. The destructor, which sends `QUIT`, is not modelled, and neither are the bytes
that `backup`, `restore` and the `exec` commands copy.
-/

namespace AdbMobile.Client

open ByteString Sync

section Files

variable (env : ClientEnv)

/-! ## Sync sessions -/

/-- The constructor of `SyncConnection`: the features and the connection, if it is valid. -/
def syncConnection (out : Bool) : DeviceM (Option (FeatureSet × Connection)) := do
  match ← adbGetFeatureSet env with
  | .error e =>
    onWire (capture out (lit "failed to get feature set: " ++ cString e))
    Prog.emit (.sync (.error (lit "failed to get feature set: " ++ cString e)))
    return none
  | .ok features =>
    match ← onWire (adbConnect env (lit "sync:") false) with
    | .failed _ e =>
      onWire (capture out (lit "connect failed: " ++ cString e))
      Prog.emit (.sync (.error (lit "connect failed: " ++ cString e)))
      return none
    | .opened fd _ => return some (features, fd)

/-- How a sync session ends the process. -/
def ofSyncStop : SyncStop → ClientStop
  | .exited code => .exited code
  | .hangs => .hangs

/-- An event of a sync session, for a caller that has a buffer or has none. -/
def ofSyncEvent (out : Bool) : SyncEvent → List DeviceEvent
  | .captured text => if out then [.wire (.captured text)] else []
  | e => [.sync e]

/-- A sync session on a connection. -/
def syncSession (out : Bool) (features : FeatureSet) (fd : Connection)
    (session : SyncEnv → SyncM Bool) : DeviceM Bool := fun s =>
  let syncEnv := { fd.sync.env with
    features := features
    delayedAckEnabled := env.delayedAckEnabled
    escapeArg := env.escapeArg }
  let o := session syncEnv (SyncConnection.new fd.sync.input fd.sync.decodes fd.sync.files)
  ⟨o.result.mapError ofSyncStop, s, o.trace.flatMap (ofSyncEvent out)⟩

/-- A function `do_sync_*`. -/
def doSync (out : Bool) (session : SyncAnswers → SyncEnv → SyncM Bool) : DeviceM Bool := do
  match ← syncConnection env out with
  | none => return false
  | some (features, fd) => syncSession env out features fd (session fd.sync)

/-- `"%08x"`. -/
def paddedHex (n : ℕ) : Bytes :=
  let digits := inBase 16 n
  List.replicate (8 - digits.length) 48 ++ digits

/-- `do_sync_ls`, on a valid connection. -/
def doSyncLs (path : Bytes) (syncEnv : SyncEnv) : SyncM Bool := do
  let (ok, _) ← syncLs syncEnv path (fun _ d => do
    Prog.emit (.captured (paddedHex d.mode.toNat ++ lit " " ++ paddedHex d.size ++ lit " " ++
      paddedHex d.time ++ lit " " ++ d.name ++ lit "\n"))) ()
  return ok

/-- The sources of a push, as they are found. -/
def SyncAnswers.sources (a : SyncAnswers) (srcs : List Bytes) : List LocalSource :=
  srcs.mapIdx fun i path => { a.source i with path := path }

/-- The result of a command that succeeds or fails. -/
def exitCode (success : Bool) : ℤ := if success then 0 else 1

/-- `do_sync_push`. -/
def push (out : Bool) (srcs : List Bytes) (dst : Bytes) (sync : Bool)
    (compression : CompressionType)
    (dryRun : Bool) : DeviceM Bool :=
  doSync env out fun a syncEnv => doSyncPush syncEnv (a.sources srcs) dst sync compression dryRun

/-- `do_sync_pull`. -/
def pull (out : Bool) (srcs : List Bytes) (dst : Bytes) (copyAttrs : Bool)
    (compression : CompressionType) : DeviceM Bool :=
  doSync env out fun _ syncEnv => doSyncPull syncEnv srcs dst copyAttrs compression

/-! ## The options of push and pull -/

/-- `parse_compression_type`, or the text that it exits with. -/
def parseCompressionType (str : Bytes) (allowNumbers : Bool) : Except Bytes CompressionType :=
  if allowNumbers ∧ str = lit "0" then .ok .none
  else if allowNumbers ∧ str = lit "1" then .ok .any
  else if str = lit "any" then .ok .any
  else if str = lit "none" then .ok .none
  else if str = lit "brotli" then .ok .brotli
  else if str = lit "lz4" then .ok .lz4
  else if str = lit "zstd" then .ok .zstd
  else .error (lit "unexpected compression type " ++ str)

/-- The variables of `parse_push_pull_args`; `quiet` is not read by what is modelled. -/
structure PushPullArgs where
  srcs : List Bytes
  dst : Option Bytes
  copyAttrs : Bool
  sync : Bool
  compression : CompressionType
  dryRun : Bool
  ignoreFlags : Bool
  deriving DecidableEq, Repr

/-- The loop of `parse_push_pull_args`, or the text that it exits with. `hasDryRun` says whether the
caller passes a `dry_run`. -/
def parsePushPullWords (hasDryRun : Bool) (a : PushPullArgs) : List Bytes →
    Except Bytes PushPullArgs
  | [] => .ok a
  | arg :: rest =>
    if a.ignoreFlags ∨ arg.head? ≠ some 45 then
      parsePushPullWords hasDryRun { a with srcs := a.srcs ++ [arg] } rest
    else if arg = lit "-p" then parsePushPullWords hasDryRun a rest
    else if arg = lit "-a" then parsePushPullWords hasDryRun { a with copyAttrs := true } rest
    else if arg = lit "-z" then
      match rest with
      | [] => .error (lit "-z requires an argument")
      | type :: rest =>
        match parseCompressionType type false with
        | .error text => .error text
        | .ok compression => parsePushPullWords hasDryRun { a with compression := compression } rest
    else if arg = lit "-Z" then parsePushPullWords hasDryRun { a with compression := .none } rest
    else if hasDryRun ∧ arg = lit "-n" then
      parsePushPullWords hasDryRun { a with dryRun := true } rest
    else if arg = lit "--sync" then parsePushPullWords hasDryRun { a with sync := true } rest
    else if arg = lit "-q" then parsePushPullWords hasDryRun a rest
    else if arg = lit "--" then parsePushPullWords hasDryRun { a with ignoreFlags := true } rest
    else .error (lit "unrecognized option '" ++ arg ++ lit "'")

/-- The compression type of the environment, if it has one. -/
def environmentCompression (compression : CompressionType) : Except Bytes CompressionType :=
  match env.getenv (lit "ADB_COMPRESSION") with
  | none => .ok compression
  | some str => parseCompressionType str true

/-- `parse_push_pull_args`: several sources leave the last one as the destination. -/
def parsePushPullArgs (hasDryRun : Bool) (compression : CompressionType) (dst : Option Bytes)
    (words : List Bytes) : Except Bytes PushPullArgs := do
  let compression ← environmentCompression env compression
  let a ← parsePushPullWords hasDryRun ⟨[], dst, false, false, compression, false, false⟩ words
  return if 1 < a.srcs.length then { a with srcs := a.srcs.dropLast, dst := a.srcs.getLast? } else a

/-- A value, or the text to exit with. -/
def orExit {α : Type} : Except Bytes α → DeviceM α
  | .ok a => pure a
  | .error text => errorExit env text

/-- The `push` command. -/
def pushCommand (out : Bool) (args : List Bytes) : DeviceM ℤ := do
  let a ← orExit env (parsePushPullArgs env true .any none args.tail)
  match a.srcs, a.dst with
  | src :: srcs, some dst =>
    return exitCode (← push env out (src :: srcs) dst a.sync a.compression a.dryRun)
  | _, _ => onWire (refuse out (lit "push requires <source> and <destination> arguments\n"))

/-- The `pull` command. -/
def pullCommand (out : Bool) (args : List Bytes) : DeviceM ℤ := do
  let a ← orExit env (parsePushPullArgs env false .none (some (lit ".")) args.tail)
  match a.srcs, a.dst with
  | src :: srcs, some dst =>
    return exitCode (← pull env out (src :: srcs) dst a.copyAttrs a.compression)
  | _, _ => onWire (refuse out (lit "pull requires an argument\n"))

/-- The `ls` command. -/
def lsCommand (out : Bool) (args : List Bytes) : DeviceM ℤ := do
  match args with
  | [_, path] => return exitCode (← doSync env out fun _ => doSyncLs path)
  | _ => onWire (refuse out (lit "ls requires an argument\n"))

/-! ## Syncing partitions -/

/-- The variables that the options of `sync` set; `quiet` is not read by what is modelled. -/
structure SyncOptions where
  listOnly : Bool
  dryRun : Bool
  compression : CompressionType
  deriving DecidableEq, Repr

/-- The partitions that `sync` knows. -/
def partitions : List Bytes :=
  [lit "data", lit "odm", lit "oem", lit "product", lit "system", lit "system_ext", lit "vendor"]

/-- `product_file`, or the text that it exits with. -/
def productFile (file : Bytes) : Except Bytes Bytes :=
  match env.getenv (lit "ANDROID_PRODUCT_OUT") with
  | none => .error (lit "product directory not specified; set $ANDROID_PRODUCT_OUT")
  | some out => .ok (out ++ lit "/" ++ file)

/-- The loop over the partitions: whether one was found, or none where one could not be synced. -/
def syncPartitions (out : Bool) (o : SyncOptions) (src : Bytes) (found : Bool) :
    List Bytes → DeviceM (Option Bool)
  | [] => return some found
  | partition :: rest => do
    if src = lit "all" ∨ src = partition then
      let srcDir ← orExit env (productFile env partition)
      if !env.directoryExists (← onWire nextCall) srcDir then syncPartitions out o src found rest
      else if ← doSync env out fun a syncEnv =>
        copyLocalDirRemote syncEnv srcDir (lit "/" ++ partition)
          (a.source 0).tree true o.listOnly o.compression o.dryRun then
        syncPartitions out o src true rest
      else return none
    else syncPartitions out o src found rest

/-- The `sync` command, from the partition on. -/
def syncFrom (out : Bool) (o : SyncOptions) (src : Bytes) : DeviceM ℤ := do
  match ← syncPartitions env out o src false partitions with
  | none => return 1
  | some true => return 0
  | some false => onWire (refuse out (lit "don't know how to sync " ++ src ++ lit " partition\n"))

/-! ## Backups -/

/-- The words with a space before each. -/
def escapedArgs (args : List Bytes) : Bytes := args.flatMap fun arg => lit " " ++ env.escapeArg arg

/-- The loop of `backup` over its arguments: the file, the words that are left, and the array that
the words were in. The text is the one to exit with. -/
def extractFile (args : List Bytes) : Except Bytes (Bytes × List Bytes × List (Option Bytes)) :=
  let i := 1 + args.tail.idxOf (lit "-f")
  if args.length ≤ i then .ok (lit "backup.ab", args, args.map some)
  else
    match args[i + 1]? with
    | none => .error (lit "backup -f passed with no filename")
    | some filename =>
      let left := args.take i ++ args.drop (i + 2)
      .ok (filename, left, left.map some ++ [none, args.getLast?])

/-- `backup`, with its file and the words that are left. -/
def backupTo (filename : Bytes) (args : List Bytes) : DeviceM ℤ := do
  if args.length < 2 then errorExit env (lit "backup either needs a list of packages or -all/-shared")
  else
    match env.creat (← onWire nextCall) filename with
    | .error e =>
      onWire (stderr (lit "adb: backup unable to create file '" ++ filename ++ lit "': " ++ e ++ lit "\n"))
      return 1
    | .ok _ =>
      match ← onWire (adbConnect env (lit "backup:" ++ escapedArgs env args.tail) false) with
      | .failed _ e =>
        onWire (stderr (lit "adb: unable to connect for backup: " ++ cString e ++ lit "\n"))
        return 1
      | .opened _ _ => return 0

/-- `restore`. -/
def restore (args : List Bytes) : DeviceM ℤ := do
  match args.tail with
  | [] => errorExit env (lit "usage: adb restore FILENAME [ARG]...")
  | filename :: rest =>
    match env.openFile (← onWire nextCall) filename with
    | .error e =>
      onWire (stderr (lit "adb: unable to open file " ++ filename ++ lit ": " ++ e ++ lit "\n"))
      return -1
    | .ok _ =>
      match ← onWire (adbConnect env (lit "restore:" ++ escapedArgs env rest) false) with
      | .failed _ e =>
        onWire (stderr (lit "adb: unable to connect for restore: " ++ cString e ++ lit "\n"))
        return -1
      | .opened _ _ => return 0

end Files

end AdbMobile.Client
