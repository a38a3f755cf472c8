import AdbMobile.Client.Sync.Pull

/-!
# Pushing a tree

`local_build_list` walks a local directory, and `do_sync_push` sends what it finds. What the local
calls return is part of what is pushed: a `LocalFile` holds the results of the calls on one file,
and a `LocalTree` those of the calls on a directory, each of which the client visits once. The
encoders of `compression_utils.h` are outside the repository: for each block, and at the end of the
file, an encoder has a number of outputs and then asks for more, is done, or fails.
-/

namespace AdbMobile.Sync

open ByteString PosixPath

/-- What an encoder makes of a block or of the end of the file. -/
structure EncodeRun where
  /-- The outputs of the calls of `Encode` that do not fail. -/
  outputs : List Bytes
  /-- Whether there is a call after them that does. -/
  fails : Bool
  deriving DecidableEq, Repr

/-- The results of the calls on a local file. -/
structure LocalFile where
  /-- `readlink`. -/
  target : Except Errno Bytes
  /-- `stat`. -/
  stat : Except Errno Stat
  /-- `ReadFileToString`. -/
  contents : Except Errno Bytes
  /-- The `stat` of `SendLargeFile`. -/
  statAgain : Except Errno Stat
  openError : Option Errno
  /-- What `adb_read` returns, up to the end of the file or an error. -/
  reads : List Bytes
  readError : Option Errno
  /-- What the encoder makes of a block, or of the end of the file after all blocks. -/
  encodes : ℕ → EncodeRun

/-- The blocks that are read from a file: a read of no bytes is its end. -/
def LocalFile.blocks (f : LocalFile) : List Bytes := f.reads.takeWhile (· ≠ [])

/-- The results of the calls on a local directory. -/
inductive LocalTree
  /-- `opendir` fails, or a later `readdir` does. -/
  | failed (e : Errno)
  | nil
  /-- An entry, with what is found if it is a file or a directory, and the entries after it. -/
  | entry (name : Bytes) (lstat : Except Errno Stat) (file : LocalFile) (sub rest : LocalTree)

/-- A source of a push. -/
structure LocalSource where
  path : Bytes
  stat : Except Errno Stat
  file : LocalFile
  tree : LocalTree

/-- A file on the list, with the results of the calls on it. -/
structure Listed where
  ci : CopyInfo
  file : LocalFile

section Push

variable (env : SyncEnv)

/-! ## Sending a file -/

/-- `"%s,%d"` of a path and a mode. -/
def pathAndMode (path : Bytes) (mode : UInt32) : Bytes := path ++ lit "," ++ decimalWord mode

/-- Writes blocks of data. -/
def sendBlocks (lpath rpath : Bytes) : List Bytes → SyncM Unit
  | [] => return
  | block :: blocks => do
    let _ ← writeOrDie env lpath rpath [.data block]
    sendBlocks lpath rpath blocks

/-- The end of a large file. -/
def finishLargeFile (lpath rpath : Bytes) (mtime : UInt32) : SyncM Bool := do
  recordFileSent lpath rpath
  writeOrDie env lpath rpath [.done mtime]

/-- An error that ends a transfer. -/
def failWith (e : Errno) (text : Bytes) : SyncM Bool := do
  setErrno e
  error (text ++ lit ": " ++ env.strerror e)
  return false

/-- Opens a file that is sent in blocks. -/
def openLargeFile (lpath : Bytes) (f : LocalFile) (send : SyncM Bool) : SyncM Bool := do
  match f.statAgain with
  | .error e => failWith env e (lit "cannot stat '" ++ lpath ++ lit "'")
  | .ok _ =>
    match f.openError with
    | some e => failWith env e (lit "opening '" ++ lpath ++ lit "' locally failed")
    | none => send

/-- `SendLargeFileLegacy`. -/
def sendLargeFileLegacy (path : Bytes) (mode : UInt32) (lpath rpath : Bytes) (mtime : UInt32)
    (f : LocalFile) : SyncM Bool := do
  if !(← sendRequest env .sendV1 (pathAndMode path mode)) then
    error (lit "failed to send ID_SEND_V1 message '" ++ pathAndMode path mode ++ lit "': " ++
      (← strerrno env))
    return false
  else
    openLargeFile env lpath f do
      sendBlocks env lpath rpath f.blocks
      match f.readError with
      | some e => failWith env e (lit "reading '" ++ lpath ++ lit "' locally failed")
      | none => finishLargeFile env lpath rpath mtime

/-- Writes what the encoder makes of one block, or of the end of the file. -/
def sendEncoded (lpath rpath : Bytes) (run : EncodeRun) : SyncM Bool := do
  sendBlocks env lpath rpath (run.outputs.filter (· ≠ []))
  if run.fails then
    error (lit "compressing '" ++ lpath ++ lit "' locally failed")
    return false
  else return true

/-- `SendLargeFile`. -/
def sendLargeFile (path : Bytes) (mode : UInt32) (lpath rpath : Bytes) (mtime : UInt32)
    (compression : CompressionType) (dryRun : Bool) (f : LocalFile) : SyncM Bool := do
  if dryRun ∧ !env.haveSendrecvV2DryRunSend then
    error (lit "dry-run not supported by the device")
    return false
  else if !env.haveSendrecvV2 then sendLargeFileLegacy env path mode lpath rpath mtime f
  else if !(← sendSend2 env path mode (resolveCompressionType env compression) dryRun) then
    error (lit "failed to send ID_SEND_V2 message '" ++ path ++ lit "': " ++ (← strerrno env))
    return false
  else
    openLargeFile env lpath f do
      if !(← Prog.allM (fun i => sendEncoded env lpath rpath (f.encodes i))
          (List.range f.blocks.length)) then
        return false
      else
        match f.readError with
        | some e => failWith env e (lit "reading '" ++ lpath ++ lit "' locally failed")
        | none =>
          if ← sendEncoded env lpath rpath (f.encodes f.blocks.length) then
            finishLargeFile env lpath rpath mtime
          else return false

/-- `SendSmallFile`. -/
def sendSmallFile (path : Bytes) (mode : UInt32) (lpath rpath : Bytes) (mtime : UInt32)
    (data : Bytes) (dryRun : Bool) (f : LocalFile) : SyncM Bool := do
  if dryRun then sendLargeFile env path mode lpath rpath mtime .none dryRun f
  else if 1024 < (pathAndMode path mode).length then
    error (lit "SendSmallFile failed: path too long: " ++ decimal (pathAndMode path mode).length)
    setErrno .enametoolong
    return false
  else
    let _ ← writeOrDie env lpath rpath [.request .sendV1 (pathAndMode path mode), .data data,
      .done mtime]
    recordFileSent lpath rpath
    return true

/-- Whether the file on the device has this timestamp. -/
def sameTimestamp (sync : Bool) (lpath rpath : Bytes) (mtime : UInt32) : SyncM Bool := do
  if sync then
    match ← syncLstat env rpath with
    | none => return false
    | some st =>
      if st.mtime = mtime.toNat then
        Prog.emit (.timestampMatched lpath rpath)
        return true
      else return false
  else return false

/-- Sends a file or a link. -/
def sendFile (lpath rpath : Bytes) (mtime mode : UInt32) (compression : CompressionType)
    (dryRun : Bool) (f : LocalFile) : SyncM Bool := do
  if isLnk mode then
    match f.target with
    | .error e =>
      setErrno e
      error (lit "readlink '" ++ lpath ++ lit "' failed: " ++ env.strerror e)
      return false
    -- The text is sent with a NUL after it.
    | .ok target => sendSmallFile env rpath mode lpath rpath mtime (target ++ [0]) dryRun f
  else
    match f.stat with
    | .error e => failWith env e (lit "failed to stat local file '" ++ lpath ++ lit "'")
    | .ok st =>
      if st.size < syncDataMax then
        match f.contents with
        | .error e => failWith env e (lit "failed to read all of '" ++ lpath ++ lit "'")
        | .ok data => sendSmallFile env rpath mode lpath rpath mtime data dryRun f
      else sendLargeFile env rpath mode lpath rpath mtime compression dryRun f

/-- `sync_send`. -/
def syncSend (lpath rpath : Bytes) (mtime mode : UInt32) (sync : Bool)
    (compression : CompressionType) (dryRun : Bool) (f : LocalFile) : SyncM Bool := do
  if ← sameTimestamp env sync lpath rpath mtime then return true
  else if ← sendFile env lpath rpath mtime mode compression dryRun f then
    readAcknowledgements env sync
  else return false

/-! ## Walking a directory -/

/-- The lists of `local_build_list`. -/
structure LocalLists where
  fileList : List Listed
  directoryList : List Bytes

/-- The `copyinfo` of a file, with what `lstat` says of it. -/
def CopyInfo.withStat (ci : CopyInfo) (st : Stat) : CopyInfo :=
  { ci with time := st.mtime, size := (st.size.emod (2 ^ 64)).toNat, skip := !shouldPushFile st.mode }

/-- The entries of a directory that are not directories. -/
def listEntries (lpath rpath : Bytes) : List Listed → LocalTree → SyncM (List Listed)
  | fileList, .failed _ => do
    -- A failure of `readdir` looks like the end of the directory.
    Prog.emit (.unexamined lpath)
    return fileList
  | fileList, .nil => return fileList
  | fileList, .entry name lstat file _ rest => do
    if isDotOrDotDot name then listEntries lpath rpath fileList rest
    else
      match lstat with
      | .error e =>
        setErrno e
        error (lit "cannot lstat '" ++ lpath ++ name ++ lit "': " ++ env.strerror e)
        Prog.emit (.unexamined (lpath ++ name))
        listEntries lpath rpath fileList rest
      | .ok st =>
        let ci ← copyInfo lpath rpath name st.mode
        if isDir st.mode then listEntries lpath rpath fileList rest
        else
          if !shouldPushFile st.mode then
            Prog.emit (.warning (lit "skipping special file '" ++ lpath ++ lit "' (mode = 0o" ++
              inBase 8 st.mode.toNat ++ lit ")"))
          listEntries lpath rpath (fileList ++ [⟨ci.withStat st, file⟩]) rest

/-- The entry is put on the list of directories. -/
def isSubdirectory (name : Bytes) : Except Errno Stat → Bool
  | .error _ => false
  | .ok st => !isDotOrDotDot name && isDir st.mode

/-- The path of an entry that is a directory. -/
def subdirectory (path name : Bytes) : Bytes := withSeparator (withSeparator path ++ name)

/-- Opens a directory and lists its entries. -/
def openAndList (lpath rpath : Bytes) (lists : LocalLists) : LocalTree → SyncM (Bool × LocalLists)
  | .failed e => do
    setErrno e
    error (lit "cannot open '" ++ lpath ++ lit "': " ++ env.strerror e)
    Prog.emit (.unexamined lpath)
    return (false, lists)
  | tree => do
    return (true, { lists with fileList := ← listEntries env lpath rpath lists.fileList tree })

/-- The directories below a directory; what the walk of one of them returns is not looked at. -/
def recurseDirs (lpath rpath : Bytes) (lists : LocalLists) : LocalTree → SyncM LocalLists
  | .failed _ | .nil => return lists
  | .entry name lstat _ sub rest => do
    if isSubdirectory name lstat then
      let lists := { lists with directoryList := lists.directoryList ++ [subdirectory rpath name] }
      let (_, lists) ← openAndList env (subdirectory lpath name) (subdirectory rpath name) lists sub
      let lists ← recurseDirs (subdirectory lpath name) (subdirectory rpath name) lists sub
      recurseDirs lpath rpath lists rest
    else recurseDirs lpath rpath lists rest

/-- `local_build_list`. -/
def localBuildList (lists : LocalLists) (lpath rpath : Bytes) (tree : LocalTree) :
    SyncM (Bool × LocalLists) := do
  let (ok, lists) ← openAndList env lpath rpath lists tree
  if !ok then return (false, lists)
  else return (true, ← recurseDirs env lpath rpath lists tree)

/-! ## Pushing -/

/-- `is_root_dir`. -/
def isRootDir (path : Bytes) : Bool := path.all (· = slash)

/-- The directories from `path` up to the root, within `n` steps of `Dirname`. -/
def ancestors : ℕ → Bytes → Option (List Bytes)
  | 0, _ => none
  | n + 1, path =>
    if isRootDir path then some [] else (ancestors n (dirname path)).map fun paths => path :: paths

/-- The loop of `copy_local_dir_remote` from the remote path to the root. A path that does not get
there in as many steps as it has bytes does not get there at all. -/
def remoteAncestors (rpath : Bytes) : SyncM (List Bytes) := do
  match ancestors (rpath.length + 1) rpath with
  | none => Prog.exit .hangs
  | some paths => return paths.reverse

/-- Sends a command of the `mkdir` workaround that would become too long. -/
def dispatchLong (cmd escapedPath : Bytes) : SyncM Bytes := do
  if 32768 < cmd.length + escapedPath.length then
    Prog.emit (.shellCommand cmd)
    return lit "mkdir"
  else return cmd

/-- The `mkdir` workaround, from the command so far on. -/
def mkdirDirectories : Bytes → List Bytes → SyncM Bool
  | cmd, [] => do
    if cmd ≠ lit "mkdir" then Prog.emit (.shellCommand cmd)
    return true
  | cmd, dir :: dirs => do
    let escapedPath := env.escapeArg dir
    if 16384 < escapedPath.length then
      Prog.emit (.captured (lit "path too long: " ++ escapedPath ++ lit "\n"))
      error (lit "path too long: " ++ escapedPath)
      return false
    else
      let cmd ← dispatchLong cmd escapedPath
      mkdirDirectories (cmd ++ lit " " ++ escapedPath) dirs

/-- Whether the device needs its directories to be made with a command. -/
def SyncEnv.needsMkdir : Bool := !env.has (lit "fixed_push_mkdir") && env.has (lit "shell_v2")

/-- The reply to the status of a file that is on the list. -/
def checkTimestamp (checked : List Listed) (l : Listed) : SyncM (List Listed) := do
  match ← finishStat env with
  | none => return checked ++ [l]
  | some st =>
    if st.size = signedLong l.ci.size ∧ st.mtime = l.ci.time then
      if !l.ci.skip then Prog.emit (.timestampMatched l.ci.lpath l.ci.rpath)
      return checked ++ [{ l with ci := { l.ci with skip := true } }]
    else return checked ++ [l]

/-- The timestamps of the files on the list: all requests, and then all replies. -/
def checkTimestamps (fileList : List Listed) : SyncM (Option (List Listed)) := do
  if ← Prog.allM (fun l => sendLstat env l.ci.rpath) fileList then
    some <$> Prog.foldM (checkTimestamp env) [] fileList
  else
    Prog.emit (.captured (lit "failed to send lstat\n"))
    error (lit "failed to send lstat")
    return none

/-- What `copy_local_dir_remote` does with a file on the list: whether it goes on. -/
def pushListed (listOnly : Bool) (compression : CompressionType) (dryRun : Bool) (l : Listed) :
    SyncM Bool := do
  if l.ci.skip then return true
  else if listOnly then
    Prog.emit (.captured (lit "would push: " ++ l.ci.lpath ++ lit " -> " ++ l.ci.rpath))
    Prog.emit (.info (lit "would push: " ++ l.ci.lpath ++ lit " -> " ++ l.ci.rpath))
    return true
  else
    syncSend env l.ci.lpath l.ci.rpath (.ofInt l.ci.time) l.ci.mode false compression dryRun l.file

/-- Sends the files on the list, and reads what is unanswered of all that was sent. -/
def pushList (listOnly : Bool) (compression : CompressionType) (dryRun : Bool)
    (fileList : List Listed) : SyncM Bool := do
  if ← Prog.allM (pushListed env listOnly compression dryRun) fileList then
    readAcknowledgements env true
  else return false

/-- `copy_local_dir_remote`. -/
def copyLocalDirRemote (lpath rpath : Bytes) (tree : LocalTree) (checkTimes listOnly : Bool)
    (compression : CompressionType) (dryRun : Bool) : SyncM Bool := do
  let (lpath, rpath) ← ensureTrailingSeparators lpath rpath
  let directoryList ← remoteAncestors rpath
  let (ok, lists) ← localBuildList env ⟨[], directoryList⟩ lpath rpath tree
  if !ok then return false
  else if !(← if env.needsMkdir then mkdirDirectories env (lit "mkdir") lists.directoryList
      else pure true) then
    return false
  else if checkTimes then
    match ← checkTimestamps env lists.fileList with
    | none => return false
    | some fileList => pushList env listOnly compression dryRun fileList
  else pushList env listOnly compression dryRun lists.fileList

/-- What `do_sync_push` does with a source: what it is worth, or `none` where the function
returns. -/
def pushSource (dst : Bytes) (dstStat : Option Stat) (sync : Bool) (compression : CompressionType)
    (dryRun : Bool) (src : LocalSource) : SyncM (Option Bool) := do
  let dstIsdir := dstStat.any fun st => isDir st.mode
  match src.stat with
  | .error e =>
    setErrno e
    captureError (lit "cannot stat '" ++ src.path ++ lit "': " ++ env.strerror e)
    Prog.emit (.unexamined src.path)
    return some false
  | .ok st =>
    if isDir st.mode then
      if dstStat.isSome then
        if !dstIsdir then
          captureError (lit "target '" ++ dst ++ lit "' is not a directory")
          return none
        else
          Prog.emit (.back dst)
          some <$> copyLocalDirRemote env src.path (withSeparator dst ++ basename src.path) src.tree
            sync false compression dryRun
      else some <$> copyLocalDirRemote env src.path dst src.tree sync false compression dryRun
    else if !shouldPushFile st.mode then
      Prog.emit (.warning (lit "skipping special file '" ++ src.path ++ lit "' (mode = 0o" ++
        inBase 8 st.mode.toNat ++ lit ")"))
      return some true
    else if dstIsdir then
      Prog.emit (.back dst)
      some <$> syncSend env src.path (withSeparator dst ++ basename src.path) (.ofInt st.mtime)
        st.mode sync compression dryRun src.file
    else
      some <$> syncSend env src.path dst (.ofInt st.mtime) st.mode sync compression dryRun src.file

/-- The sources of `do_sync_push`, one after the other, and then what is still unanswered. -/
def pushSources (dst : Bytes) (dstStat : Option Stat) (sync : Bool) (compression : CompressionType)
    (dryRun : Bool) : Bool → List LocalSource → SyncM Bool
  | success, [] => do
    let settled ← readAcknowledgements env true
    return success && settled
  | success, src :: srcs => do
    match ← pushSource env dst dstStat sync compression dryRun src with
    | none => return false
    | some ok => pushSources dst dstStat sync compression dryRun (success && ok) srcs

/-- Whether `do_sync_push` goes on with a destination that is not a directory. -/
def checkPushDestination (sources : ℕ) (dst : Bytes) (dstExists : Bool) : SyncM Bool := do
  if 1 < sources then
    captureError (lit "target '" ++ dst ++ lit "' is not a directory")
    return false
  else
    Prog.emit (.back dst)
    if dst.getLast? = some slash ∧ dstExists then
      captureError (lit "failed to access '" ++ dst ++ lit "': Not a directory")
      return false
    else return true

/-- The destination as `do_sync_push` finds it: whether it exists, and what it is. The function
gives up where this is `none`. -/
def statPushDestination (dst : Bytes) : SyncM (Option (Option Stat)) := do
  match ← syncStatFallback env dst with
  | some st => return some (some st)
  | none =>
    let e := (← Prog.get).errno
    if e = .enoent ∨ e = .enoprotoopt then return some none
    else
      captureError (lit "stat failed when trying to push to " ++ dst ++ lit ": " ++ env.strerror e)
      return none

/-- `do_sync_push`, on a valid connection. -/
def doSyncPush (srcs : List LocalSource) (dst : Bytes) (sync : Bool) (compression : CompressionType)
    (dryRun : Bool) : SyncM Bool := do
  match ← statPushDestination env dst with
  | none => return false
  | some dstStat =>
    if dstStat.any fun st => isDir st.mode then
      pushSources env dst dstStat sync compression dryRun true srcs
    else
      if ← checkPushDestination srcs.length dst dstStat.isSome then
        pushSources env dst dstStat sync compression dryRun true srcs
      else return false

end Push

end AdbMobile.Sync
