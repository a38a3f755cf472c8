import AdbMobile.Lib.Prog
import AdbMobile.Features
import AdbMobile.Client.Sync.Protocol

/-!
# A sync connection

`SyncConnection` of `client/file_sync_client.cpp`: the requests it sends and the replies it reads.
Its functions are programs over the connection. The bytes that the device still sends are part of
the state, and reading past their end is reading at the end of the stream; every other answer of the
environment is a function of the number of calls made before (`SyncEnv`), so that a statement about
every environment is one about every sequence of results. A program emits what it does as events,
and `_exit` ends it.

`LOG(FATAL)` and `PLOG(FATAL)` return in this build. A reply that could not be read is then the
bytes that were, and after them what was in memory. The ledger of the connection, which only
progress texts print, is not modelled.
-/

namespace AdbMobile.Sync

open ByteString PosixPath

/-- What a decoder step returns. -/
inductive DecodeResult
  | needInput | moreOutput | done | error
  deriving DecidableEq, Repr

/-- What a program does to the local files. -/
inductive LocalOp
  | unlink | creat | mkdirs
  | utime (time : ℤ)
  | chmod (mode : UInt32)
  deriving DecidableEq, Repr

/-- What a program does, in order. -/
inductive SyncEvent
  /-- One `WriteFdExactly` of these messages. -/
  | wrote (ms : List SyncMessage)
  /-- `FinishStat` or `FinishLs` begins, with these files unanswered and this buffer. -/
  | startsReply (deferred : List (Bytes × Bytes)) (buffer : Bytes)
  /-- A receiver has read a header. -/
  | header (id length : UInt32)
  /-- A read of `count` bytes into a buffer with room for `capacity`. -/
  | fill (capacity count : ℕ)
  /-- A byte is stored at an index of a buffer of `capacity` bytes. -/
  | store (capacity index : ℕ)
  /-- The last byte of the string is read. -/
  | back (s : Bytes)
  /-- `RecordFileSent`. -/
  | fileSent (lpath rpath : Bytes)
  /-- `CopyDone`, at an `ID_OKAY` for this file. -/
  | acknowledged (lpath rpath : Bytes)
  /-- `ReportDeferredCopyFailure` for this file. -/
  | copyFailed (lpath rpath : Bytes)
  /-- The file is skipped because of its timestamp. -/
  | timestampMatched (lpath rpath : Bytes)
  /-- The walk of a local tree could not examine what is at this path. -/
  | unexamined (path : Bytes)
  /-- The decoder has produced these bytes. -/
  | decoded (output : Bytes)
  | localOp (op : LocalOp) (path : Bytes)
  /-- `adb_creat` has succeeded. -/
  | created (path : Bytes)
  /-- `file_list` gets an entry: one for a listed name, or one for the directory listed. -/
  | entry (listed : Bool) (ci : CopyInfo)
  /-- `send_shell_command`. -/
  | shellCommand (command : Bytes)
  | captured (text : Bytes)
  | error (text : Bytes)
  | warning (text : Bytes)
  | info (text : Bytes)
  | logFatal (text : Bytes)
  deriving DecidableEq, Repr

/-- How the process ends, or does not get on. -/
inductive SyncStop
  | exited (code : ℕ)
  | hangs
  deriving DecidableEq, Repr

/-- The answers of the environment, each a function of the calls made before. -/
structure SyncEnv where
  features : FeatureSet
  delayedAckEnabled : Bool
  /-- A read that fails, after this many bytes. -/
  readError : ℕ → Option (ℕ × Errno)
  /-- How many bytes a read returns, less one, where there are so many. -/
  readSize : ℕ → ℕ
  pollReady : ℕ → Bool
  writeError : ℕ → Option Errno
  /-- The contents of memory that is not initialised. -/
  junk : ℕ → UInt8
  strerror : Errno → Bytes
  errnoFromWire : UInt32 → Errno
  escapeArg : Bytes → Bytes
  /-- The error of a call that creates or changes a local file. -/
  localError : ℕ → Option Errno
  /-- A local write that fails, after this many bytes. -/
  localWrite : ℕ → Option (ℕ × Errno)
  localStat : ℕ → Except Errno Stat
  umask : UInt32

/-- An environment in which every call succeeds, for a device with these features. -/
def SyncEnv.calm (features : FeatureSet) : SyncEnv where
  features := features
  delayedAckEnabled := false
  readError _ := none
  readSize _ := syncDataMax
  pollReady _ := true
  writeError _ := none
  junk _ := 0
  strerror _ := lit "error"
  errnoFromWire w := .other w.toNat
  escapeArg arg := arg
  localError _ := none
  localWrite _ := none
  localStat _ := .error .enoent
  umask := 0o022

/-- The state of a connection and of what it works on. -/
structure SyncConnection where
  /-- What the device still sends. -/
  input : Bytes
  /-- The calls of the environment so far. -/
  calls : ℕ
  errno : Errno
  /-- `deferred_acknowledgements_`. -/
  deferred : List (Bytes × Bytes)
  /-- `acknowledgement_buffer_`. -/
  ackBuffer : Bytes
  /-- The results of the decoder's next steps; it fails when they are used up. -/
  decodes : List (DecodeResult × Bytes)
  /-- The local files. -/
  files : Bytes → Option Bytes

/-- A program of the sync client. -/
abbrev SyncM := Prog SyncConnection SyncEvent SyncStop

/-- The connection as its constructor leaves it. -/
def SyncConnection.new (input : Bytes) (decodes : List (DecodeResult × Bytes))
    (files : Bytes → Option Bytes) : SyncConnection where
  input := input
  calls := 0
  errno := .other 0
  deferred := []
  ackBuffer := []
  decodes := decodes
  files := files

/-- The digits of a number in a base. -/
def inBase (base n : ℕ) : Bytes := (Nat.toDigits base n).map fun c => c.toNat.toUInt8

/-- `"%d"` of a word without a sign. -/
def decimalWord (w : UInt32) : Bytes :=
  if w.toNat < 2 ^ 31 then decimal w.toNat else lit "-" ++ decimal (2 ^ 32 - w.toNat)

/-- `"%#x"`, which has no prefix for zero. -/
def hexWord (w : UInt32) : Bytes := if w = 0 then lit "0" else lit "0x" ++ inBase 16 w.toNat

section Calls

variable (env : SyncEnv)

/-- The feature is one that the device and this build have. -/
def SyncEnv.has (feature : Bytes) : Bool :=
  canUseFeature env.delayedAckEnabled env.features feature

abbrev SyncEnv.haveStatV2 : Bool := env.has (lit "stat_v2")
abbrev SyncEnv.haveLsV2 : Bool := env.has (lit "ls_v2")
abbrev SyncEnv.haveSendrecvV2 : Bool := env.has (lit "sendrecv_v2")
abbrev SyncEnv.haveSendrecvV2DryRunSend : Bool := env.has (lit "sendrecv_v2_dry_run_send")

/-- `ResolveCompressionType`. -/
def resolveCompressionType (compression : CompressionType) : CompressionType :=
  if compression = .any then
    if env.has (lit "sendrecv_v2_zstd") then .zstd
    else if env.has (lit "sendrecv_v2_lz4") then .lz4
    else if env.has (lit "sendrecv_v2_brotli") then .brotli
    else .none
  else compression

/-- `Error`. -/
def error (text : Bytes) : SyncM Unit := Prog.emit (.error text)

/-- `capture_printf`, and then `Error` with the same text. -/
def captureError (text : Bytes) : SyncM Unit := do
  Prog.emit (.captured text)
  error text

/-- Sets `errno`. -/
def setErrno (e : Errno) : SyncM Unit := Prog.modify fun c => { c with errno := e }

/-- The text of `strerror(errno)`. -/
def strerrno : SyncM Bytes := do return env.strerror (← Prog.get).errno

/-- The number of this call of the environment. -/
def nextCall : SyncM ℕ := do
  let c ← Prog.get
  Prog.modify fun c => { c with calls := c.calls + 1 }
  return c.calls

/-- A structure of `n` bytes of which `read` were read. -/
def SyncEnv.fillUp (read : Bytes) (n : ℕ) : Bytes :=
  read ++ ((List.range (n - read.length)).map env.junk)

/-- `ReadFdExactly`, with the bytes of the buffer after it. -/
def readFdExactly (n : ℕ) : SyncM (Bool × Bytes) := do
  if n = 0 then return (true, [])
  else
    let k ← nextCall
    let c ← Prog.get
    match env.readError k with
    | some (m, e) =>
      let read := c.input.take (min m (n - 1))
      Prog.modify fun c => { c with input := c.input.drop read.length, errno := e }
      return (false, env.fillUp read n)
    | none =>
      if n ≤ c.input.length then
        Prog.modify fun c => { c with input := c.input.drop n }
        return (true, c.input.take n)
      else
        Prog.modify fun c => { c with input := [], errno := .other 0 }
        return (false, env.fillUp c.input n)

/-- `adb_read` of at most `n` bytes: what it returns, and `none` at an error or the end. -/
def adbRead (n : ℕ) : SyncM (Option Bytes) := do
  let k ← nextCall
  let c ← Prog.get
  match env.readError k with
  | some (_, e) =>
    setErrno e
    return none
  | none =>
    let read := c.input.take (min n (env.readSize k + 1))
    if read = [] then return none
    else
      Prog.modify fun c => { c with input := c.input.drop read.length }
      return some read

/-- `WriteFdExactly` to the device. -/
def writeFdExactly (ms : List SyncMessage) : SyncM Bool := do
  let k ← nextCall
  match env.writeError k with
  | some e =>
    setErrno e
    return false
  | none =>
    Prog.emit (.wrote ms)
    return true

/-! ## Requests and replies -/

/-- `SendRequest`. -/
def sendRequest (id : SyncId) (path : Bytes) : SyncM Bool := do
  if 1024 < path.length then
    error (lit "SendRequest failed: path too long: " ++ decimal path.length)
    setErrno .enametoolong
    return false
  else writeFdExactly env [.request id path]

/-- `SendSend2`. -/
def sendSend2 (path : Bytes) (mode : UInt32) (compression : CompressionType) (dryRun : Bool) :
    SyncM Bool := do
  if 1024 < path.length then
    error (lit "SendRequest failed: path too long: " ++ decimal path.length)
    setErrno .enametoolong
    return false
  else
    if compression = .any then Prog.emit (.logFatal (lit "unexpected CompressionType::Any"))
    let flags := if dryRun then compression.flags ||| kSyncFlagDryRun else compression.flags
    writeFdExactly env [.request .sendV2 path, .sendV2Setup mode flags]

/-- `SendRecv2`. -/
def sendRecv2 (path : Bytes) (compression : CompressionType) : SyncM Bool := do
  if 1024 < path.length then
    error (lit "SendRequest failed: path too long: " ++ decimal path.length)
    setErrno .enametoolong
    return false
  else
    if compression = .any then Prog.emit (.logFatal (lit "unexpected CompressionType::Any"))
    writeFdExactly env [.request .recvV2 path, .recvV2Setup compression.flags]

/-- `SendStat`. -/
def sendStat (path : Bytes) : SyncM Bool := do
  if env.haveStatV2 then sendRequest env .statV2 path
  else
    setErrno .enotsup
    return false

/-- `SendLstat`. -/
def sendLstat (path : Bytes) : SyncM Bool :=
  if env.haveStatV2 then sendRequest env .lstatV2 path else sendRequest env .lstatV1 path

/-- A reply is about to be read. -/
def startReply : SyncM Unit := do
  let c ← Prog.get
  Prog.emit (.startsReply c.deferred c.ackBuffer)

/-- `LOG(FATAL)` where the condition holds. -/
def logFatalIf (fault : Bool) (text : Bytes) : SyncM Unit :=
  if fault then Prog.emit (.logFatal text) else pure ()

/-- `FinishStat`. -/
def finishStat : SyncM (Option Stat) := do
  startReply
  if env.haveStatV2 then
    let (ok, msg) ← readFdExactly env statV2Size
    logFatalIf (!ok) (lit "protocol fault: failed to read stat response")
    logFatalIf (wordAt msg 0 != SyncId.lstatV2.word && wordAt msg 0 != SyncId.statV2.word)
      (lit "protocol fault: stat response has wrong message id: " ++ decimal (wordAt msg 0).toNat)
    if wordAt msg 4 ≠ 0 then
      setErrno (env.errnoFromWire (wordAt msg 4))
      return none
    else return some ⟨wordAt msg 24, signedLong (longAt msg 40), signedLong (longAt msg 56)⟩
  else
    let (ok, msg) ← readFdExactly env statV1Size
    logFatalIf (!ok) (lit "protocol fault: failed to read stat response")
    logFatalIf (wordAt msg 0 != SyncId.lstatV1.word)
      (lit "protocol fault: stat response has wrong message id: " ++ decimal (wordAt msg 0).toNat)
    if wordAt msg 4 = 0 ∧ wordAt msg 8 = 0 ∧ wordAt msg 12 = 0 then
      setErrno .enoprotoopt
      return none
    else return some ⟨wordAt msg 4, (wordAt msg 8).toNat, (wordAt msg 12).toNat⟩

/-- `SendLs`. -/
def sendLs (path : Bytes) : SyncM Bool :=
  sendRequest env (if env.haveLsV2 then .listV2 else .listV1) path

/-- One round of `FinishLsImpl`, whose callback works on a value of its own. -/
def finishLsRound {β : Type} (callback : β → Dent → SyncM β) (acc : β) :
    SyncM (β ⊕ (Bool × β)) := do
  let v2 := env.haveLsV2
  let (ok, dent) ← readFdExactly env (if v2 then dentV2Size else dentV1Size)
  if !ok then return .inr (false, acc)
  else if wordAt dent 0 = SyncId.done.word then return .inr (true, acc)
  else if wordAt dent 0 ≠ (if v2 then SyncId.dentV2.word else SyncId.dentV1.word) then
    return .inr (false, acc)
  else
    let len := (if v2 then wordAt dent 72 else wordAt dent 16).toNat
    if 255 < len then return .inr (false, acc)
    else
      Prog.emit (.fill 256 len)
      let (ok, buf) ← readFdExactly env len
      if !ok then return .inr (false, acc)
      else
        Prog.emit (.store 256 len)
        let name := cString buf
        if slash ∈ name then return .inr (false, acc)
        else
          let d : Dent :=
            if v2 then ⟨wordAt dent 24, longAt dent 40, longAt dent 56, name⟩
            else ⟨wordAt dent 4, (wordAt dent 8).toNat, (wordAt dent 12).toNat, name⟩
          return .inl (← callback acc d)

/-- `FinishLs`. Each round but the last reads at least one byte. -/
def finishLs {β : Type} (callback : β → Dent → SyncM β) (acc : β) : SyncM (Bool × β) := do
  startReply
  let c ← Prog.get
  Prog.loop (finishLsRound env callback) (false, acc) (c.input.length + 1) acc

/-- `ReportCopyFailure`: the size of its buffer is computed in 32 bits. -/
def reportCopyFailure (lpath rpath : Bytes) (msglen : UInt32) : SyncM Unit := do
  let size := (msglen + 1).toNat
  let what := lit "failed to copy '" ++ lpath ++ lit "' to '" ++ rpath
  Prog.emit (.fill size msglen.toNat)
  let (ok, reason) ← readFdExactly env msglen.toNat
  if !ok then error (what ++ lit "'; failed to read reason (!): " ++ (← strerrno env))
  else
    Prog.emit (.store size msglen.toNat)
    error (what ++ lit "': remote " ++ cString reason)

/-- `WriteOrDie`. -/
def writeOrDie (lpath rpath : Bytes) (ms : List SyncMessage) : SyncM Bool := do
  if ← writeFdExactly env ms then return true
  else
    if (← Prog.get).errno = .econnreset then
      let what := lit "failed to copy '" ++ lpath ++ lit "' to '" ++ rpath
      let (ok, msg) ← readFdExactly env syncStatusSize
      if !ok then error (what ++ lit "': no response: " ++ (← strerrno env))
      else
        Prog.emit (.header (wordAt msg 0) (wordAt msg 4))
        if wordAt msg 0 ≠ SyncId.fail.word then
          error (what ++ lit "': not ID_FAIL: " ++ decimalWord (wordAt msg 0))
        else reportCopyFailure env lpath rpath (wordAt msg 4)
    else
      error (decimal (ms.flatMap SyncMessage.bytes).length ++ lit "-byte write failed: " ++
        (← strerrno env))
    Prog.exit (.exited 1)

/-- `sync_stat`. -/
def syncStat (path : Bytes) : SyncM (Option Stat) := do
  if ← sendStat env path then finishStat env else return none

/-- `sync_lstat`. -/
def syncLstat (path : Bytes) : SyncM (Option Stat) := do
  if ← sendLstat env path then finishStat env else return none

/-- `sync_stat_fallback`. -/
def syncStatFallback (path : Bytes) : SyncM (Option Stat) := do
  match ← syncStat env path with
  | some st => return some st
  | none =>
    if (← Prog.get).errno ≠ .enotsup then return none
    else
      match ← syncLstat env path with
      | none => return none
      | some st =>
        if isLnk st.mode then
          -- A link to a directory is one that resolves with a slash after it.
          let mode := st.mode &&& ~~~sIfmt
          match ← syncLstat env (path ++ [slash]) with
          | some _ => return some { st with size := 0, mode := mode ||| sIfdir }
          | none => return some { st with size := 0, mode := mode ||| sIfreg }
        else return some st

/-- `sync_ls`. -/
def syncLs {β : Type} (path : Bytes) (callback : β → Dent → SyncM β) (acc : β) :
    SyncM (Bool × β) := do
  if ← sendLs env path then finishLs env callback acc else return (false, acc)

/-! ## Acknowledgements -/

/-- `max_deferred_acks`. -/
def maxDeferredAcks : ℕ := 128

/-- `ReadStatus`. -/
inductive ReadStatus
  | success | failure | tryLater
  deriving DecidableEq, Repr

/-- `RecordFileSent`. -/
def recordFileSent (lpath rpath : Bytes) : SyncM Unit := do
  Prog.modify fun c => { c with deferred := c.deferred ++ [(lpath, rpath)] }
  Prog.emit (.fileSent lpath rpath)

/-- Takes the first file off `deferred_acknowledgements_`. -/
def popDeferred : SyncM (Bytes × Bytes) := do
  let c ← Prog.get
  Prog.modify fun c => { c with deferred := c.deferred.tail }
  return c.deferred.headD ([], [])

/-- `CopyDone`. -/
def copyDone : SyncM Unit := do
  let (lpath, rpath) ← popDeferred
  Prog.emit (.acknowledged lpath rpath)

/-- `ReportDeferredCopyFailure`. -/
def reportDeferredCopyFailure (msg : Bytes) : SyncM Unit := do
  let (lpath, rpath) ← popDeferred
  error (lit "failed to copy '" ++ lpath ++ lit "' to '" ++ rpath ++ lit "': remote " ++ cString msg)
  Prog.emit (.copyFailed lpath rpath)

/-- Replaces the acknowledgement buffer. -/
def setAckBuffer (b : Bytes) : SyncM Unit := Prog.modify fun c => { c with ackBuffer := b }

/-- Whether a read may go on: it may block, or `adb_poll` does not say that there is nothing. -/
def mayRead (shouldBlock : Bool) : SyncM Bool := do
  if shouldBlock then return true
  else
    let k ← nextCall
    return env.pollReady k

/-- One round of `read_until_amount`. -/
def readUntilAmountRound (shouldBlock : Bool) (amount : ℕ) : SyncM (Unit ⊕ ReadStatus) := do
  let c ← Prog.get
  if amount ≤ c.ackBuffer.length then return .inr .success
  else
    if !(← mayRead env shouldBlock) then return .inr .tryLater
    else
      let bytesLeft := amount - c.ackBuffer.length
      Prog.emit (.fill (syncStatusSize + syncDataMax - c.ackBuffer.length) bytesLeft)
      match ← adbRead env bytesLeft with
      | none =>
        error (lit "failed to read copy response")
        return .inr .failure
      | some read =>
        setAckBuffer (c.ackBuffer ++ read)
        if !shouldBlock ∧ (c.ackBuffer ++ read).length < amount then return .inr .tryLater
        else return .inl ()

/-- `read_until_amount`. Each round but the last adds a byte to the buffer. -/
def readUntilAmount (shouldBlock : Bool) (amount : ℕ) : SyncM ReadStatus :=
  Prog.loop (fun _ => readUntilAmountRound env shouldBlock amount) .failure (amount + 1) ()

/-- One round of `ReadAcknowledgements`. -/
def readAcknowledgementsRound (readAll : Bool) : SyncM (Unit ⊕ Bool) := do
  let c ← Prog.get
  if c.deferred = [] then return .inr true
  else
    let shouldBlock := readAll || maxDeferredAcks ≤ c.deferred.length
    match ← readUntilAmount env shouldBlock syncStatusSize with
    | .tryLater => return .inr true
    | .failure => return .inr false
    | .success =>
      let hdr := (← Prog.get).ackBuffer
      let msglen := wordAt hdr 4
      if wordAt hdr 0 = SyncId.okay.word then
        setAckBuffer []
        if msglen ≠ 0 then
          error (lit "received ID_OKAY with msg_len (" ++ decimal msglen.toNat ++ lit " != 0")
          return .inr false
        else
          copyDone
          return .inl ()
      else if wordAt hdr 0 ≠ SyncId.fail.word then
        error (lit "unexpected response from daemon: id = " ++ hexWord (wordAt hdr 0))
        return .inr false
      else if syncDataMax < msglen.toNat then
        error (lit "too-long message length from daemon: msglen = " ++ decimal msglen.toNat)
        return .inr false
      else
        match ← readUntilAmount env shouldBlock (syncStatusSize + msglen.toNat) with
        | .tryLater => return .inr true
        | .failure => return .inr false
        | .success =>
          reportDeferredCopyFailure ((← Prog.get).ackBuffer.drop syncStatusSize)
          setAckBuffer []
          return .inr false

/-- `ReadAcknowledgements`. Each round but the last takes a file off the queue. -/
def readAcknowledgements (readAll : Bool) : SyncM Bool := do
  let c ← Prog.get
  Prog.loop (fun _ => readAcknowledgementsRound env readAll) false (c.deferred.length + 1) ()

end Calls

/-! ## What the calls leave as it is -/

/-- An event that is a write to the device, a text, or a buffer access. -/
def SyncEvent.isBackground : SyncEvent → Bool
  | .wrote _ | .fill .. | .store .. | .back _ | .captured _ | .error _ | .warning _ | .info _ | .logFatal _ =>
    true
  | _ => false

/-- A run that reads at least `n` bytes, leaves everything but the stream and `errno`, and emits
nothing but background events. -/
structure Background (n : ℕ) (c : SyncConnection) (t : List SyncEvent) (c' : SyncConnection) :
    Prop where
  deferred : c'.deferred = c.deferred
  ackBuffer : c'.ackBuffer = c.ackBuffer
  decodes : c'.decodes = c.decodes
  files : c'.files = c.files
  input : c'.input.length + n ≤ c.input.length
  trace : ∀ e ∈ t, e.isBackground

theorem Background.refl (c : SyncConnection) : Background 0 c [] c :=
  ⟨rfl, rfl, rfl, rfl, le_rfl, fun _ he => absurd he List.not_mem_nil⟩

/-- Background runs compose. -/
theorem Background.composes : Prog.Composes (Background 0) where
  nil := Background.refl
  append h h' :=
    { deferred := h'.deferred.trans h.deferred
      ackBuffer := h'.ackBuffer.trans h.ackBuffer
      decodes := h'.decodes.trans h.decodes
      files := h'.files.trans h.files
      input := h'.input.trans h.input
      trace := fun e he => (List.mem_append.mp he).elim (h.trace e) (h'.trace e) }

/-- A background run has read no less than nothing. -/
theorem Background.weaken {n : ℕ} {c c' : SyncConnection} {t : List SyncEvent}
    (h : Background n c t c') : Background 0 c t c' :=
  { h with input := (Nat.le_add_right _ n).trans h.input }

/-- Emitting a background event is a background run. -/
theorem Background.emit {e : SyncEvent} (he : e.isBackground) :
    Prog.Keeps (Background 0) (Prog.emit e : SyncM Unit) := fun _ =>
  ⟨rfl, rfl, rfl, rfl, le_rfl, fun _ hmem => List.mem_singleton.mp hmem ▸ he⟩

/-- Counting a call. -/
theorem nextCall_bind {α : Type} {f : ℕ → SyncM α} {c : SyncConnection}
    {Q : α → SyncConnection → List SyncEvent → Prop}
    (h : Prog.Runs (f c.calls) { c with calls := c.calls + 1 } Q) :
    Prog.Runs (nextCall >>= f) c Q := h

/-- `ReadFdExactly` returns, and where it succeeds it has read the bytes. -/
theorem readFdExactly_runs (env : SyncEnv) (n : ℕ) (c : SyncConnection) :
    Prog.Runs (readFdExactly env n) c fun r c' t =>
      t = [] ∧ Background (if r.1 then n else 0) c [] c' := by
  have htrace : ∀ e ∈ ([] : List SyncEvent), e.isBackground := fun _ he =>
      absurd he List.not_mem_nil
  unfold readFdExactly
  split
  · rename_i hn
    exact .pure ⟨rfl, by simp [hn, Background.refl c]⟩
  · refine nextCall_bind (.get_bind ?_)
    cases env.readError c.calls with
    | some r =>
      refine .modify_bind (.pure ⟨rfl, rfl, rfl, rfl, rfl, ?_, htrace⟩)
      simp
    | none =>
      dsimp only
      split
      · rename_i hle
        refine .modify_bind (.pure ⟨rfl, rfl, rfl, rfl, rfl, ?_, htrace⟩)
        simp only [if_true, List.length_drop]
        omega
      · exact .modify_bind (.pure ⟨rfl, rfl, rfl, rfl, rfl, by simp, htrace⟩)

/-- A read of what is in the stream. -/
theorem readFdExactly_available {env : SyncEnv} (hread : ∀ k, env.readError k = none)
    {front rest : Bytes} {c : SyncConnection} (hinput : c.input = front ++ rest) :
    Prog.Runs (readFdExactly env front.length) c fun r c' t =>
      r = (true, front) ∧ t = [] ∧ c'.input = rest ∧ c'.files = c.files := by
  unfold readFdExactly
  split
  · rename_i hempty
    obtain rfl := List.eq_nil_of_length_eq_zero hempty
    exact .pure ⟨rfl, rfl, hinput, rfl⟩
  · refine nextCall_bind (.get_bind ?_)
    have hle : front.length ≤ c.input.length := by
      rw [hinput, List.length_append]
      omega
    rw [hread]
    dsimp only
    rw [if_pos hle]
    refine .modify_bind (.pure ⟨?_, rfl, ?_, rfl⟩)
    · rw [hinput, List.take_left]
    · show c.input.drop front.length = rest
      rw [hinput, List.drop_left]

/-- A read of more than there is. -/
theorem readFdExactly_short {env : SyncEnv} {n : ℕ} {c : SyncConnection}
    (hshort : c.input.length < n) :
    Prog.Runs (readFdExactly env n) c fun r _ _ => r.1 = false := by
  unfold readFdExactly
  rw [if_neg (by omega)]
  refine nextCall_bind (.get_bind ?_)
  cases env.readError c.calls with
  | some r => exact .modify_bind (.pure rfl)
  | none =>
    dsimp only
    rw [if_neg (by omega)]
    exact .modify_bind (.pure rfl)

theorem readFdExactly_returns (env : SyncEnv) (n : ℕ) : Prog.Returns (readFdExactly env n) :=
  fun c => (readFdExactly_runs env n c).imp fun _ h => h.1

theorem readFdExactly_keeps (env : SyncEnv) (n : ℕ) :
    Prog.Keeps (Background 0) (readFdExactly env n) := by
  intro c
  obtain ⟨r, -, htrace, hback⟩ := readFdExactly_runs env n c
  rw [htrace]
  exact hback.weaken

/-- Setting `errno` is a background run. -/
theorem setErrno_keeps (e : Errno) : Prog.Keeps (Background 0) (setErrno e) := fun _ =>
  ⟨rfl, rfl, rfl, rfl, le_rfl, fun _ he => absurd he List.not_mem_nil⟩

theorem strerrno_keeps (env : SyncEnv) : Prog.Keeps (Background 0) (strerrno env) := fun c =>
  Background.refl c

theorem error_keeps (text : Bytes) : Prog.Keeps (Background 0) (error text) := Background.emit rfl

/-- `WriteFdExactly` returns, and it emits the messages where it succeeds. -/
theorem writeFdExactly_runs (env : SyncEnv) (ms : List SyncMessage) (c : SyncConnection) :
    Prog.Runs (writeFdExactly env ms) c fun ok c' t =>
      t = (if ok then [.wrote ms] else []) ∧ Background 0 c [] c' := by
  unfold writeFdExactly
  refine nextCall_bind ?_
  have hsame := Background.refl c
  cases env.writeError c.calls with
  | some e => exact ⟨false, rfl, rfl, { hsame with input := le_rfl }⟩
  | none => exact ⟨true, rfl, rfl, { hsame with input := le_rfl }⟩

theorem writeFdExactly_returns (env : SyncEnv) (ms : List SyncMessage) :
    Prog.Returns (writeFdExactly env ms) :=
  fun c => (writeFdExactly_runs env ms c).imp fun _ h => h.1

theorem writeFdExactly_keeps (env : SyncEnv) (ms : List SyncMessage) :
    Prog.Keeps (Background 0) (writeFdExactly env ms) := by
  intro c
  obtain ⟨ok, -, htrace, hback⟩ := writeFdExactly_runs env ms c
  rw [htrace]
  refine { hback with trace := ?_ }
  cases ok
  · exact hback.trace
  · exact fun e he => List.mem_singleton.mp he ▸ rfl

/-- The requests are background runs. -/
theorem sendRequest_keeps (env : SyncEnv) (id : SyncId) (path : Bytes) :
    Prog.Keeps (Background 0) (sendRequest env id path) := by
  have hR := Background.composes
  unfold sendRequest
  split
  · exact .bind hR (error_keeps _) fun _ => .bind hR (setErrno_keeps _) fun _ => .pure hR false
  · exact writeFdExactly_keeps env _

theorem sendRequest_returns (env : SyncEnv) (id : SyncId) (path : Bytes) :
    Prog.Returns (sendRequest env id path) := by
  unfold sendRequest
  split
  · exact .bind (.emit _) fun _ => .bind (.modify _) fun _ => .pure false
  · exact writeFdExactly_returns env _

theorem sendRecv2_keeps (env : SyncEnv) (path : Bytes) (compression : CompressionType) :
    Prog.Keeps (Background 0) (sendRecv2 env path compression) := by
  have hR := Background.composes
  unfold sendRecv2
  split
  · exact .bind hR (error_keeps _) fun _ => .bind hR (setErrno_keeps _) fun _ => .pure hR false
  · split
    · exact .bind hR (.emit rfl) fun _ => writeFdExactly_keeps env _
    · exact writeFdExactly_keeps env _

theorem sendRecv2_returns (env : SyncEnv) (path : Bytes) (compression : CompressionType) :
    Prog.Returns (sendRecv2 env path compression) := by
  unfold sendRecv2
  split
  · exact .bind (.emit _) fun _ => .bind (.modify _) fun _ => .pure false
  · split
    · exact .bind (.emit _) fun _ => writeFdExactly_returns env _
    · exact writeFdExactly_returns env _

/-- `ReportCopyFailure` is a background run, whatever it reads. -/
theorem reportCopyFailure_keeps (env : SyncEnv) (lpath rpath : Bytes) (msglen : UInt32) :
    Prog.Keeps (Background 0) (reportCopyFailure env lpath rpath msglen) := by
  have hR := Background.composes
  refine .bind hR (.emit rfl) fun _ => .bind hR (readFdExactly_keeps env _) fun ⟨ok, reason⟩ => ?_
  dsimp only
  split
  · exact .bind hR (strerrno_keeps env) fun _ => error_keeps _
  · exact .bind hR (.emit rfl) fun _ => error_keeps _

theorem reportCopyFailure_returns (env : SyncEnv) (lpath rpath : Bytes) (msglen : UInt32) :
    Prog.Returns (reportCopyFailure env lpath rpath msglen) := by
  refine .bind (.emit _) fun _ => .bind (readFdExactly_returns env _) fun ⟨ok, reason⟩ => ?_
  dsimp only
  split
  · exact .bind (fun c => ⟨_, rfl⟩) fun _ => .emit _
  · exact .bind (.emit _) fun _ => .emit _

/-! ## Requests that are answered -/

/-- A run of requests and replies: it reads from the stream, leaves everything else but `errno`, and
each reply that it reads starts with what was unanswered before. -/
structure Replies (c : SyncConnection) (t : List SyncEvent) (c' : SyncConnection) : Prop where
  deferred : c'.deferred = c.deferred
  ackBuffer : c'.ackBuffer = c.ackBuffer
  input : c'.input.length ≤ c.input.length
  trace : ∀ e ∈ t, e.isBackground ∨ e = .startsReply c.deferred c.ackBuffer

/-- A background run reads no reply. -/
theorem Background.replies {n : ℕ} {c c' : SyncConnection} {t : List SyncEvent}
    (h : Background n c t c') : Replies c t c' :=
  ⟨h.deferred, h.ackBuffer, h.weaken.input, fun e he => .inl (h.trace e he)⟩

theorem Replies.composes : Prog.Composes Replies where
  nil c := (Background.refl c).replies
  append h h' :=
    { deferred := h'.deferred.trans h.deferred
      ackBuffer := h'.ackBuffer.trans h.ackBuffer
      input := h'.input.trans h.input
      trace := fun e he => (List.mem_append.mp he).elim (h.trace e) fun he' => by
        rw [← h.deferred, ← h.ackBuffer]
        exact h'.trace e he' }

/-- A program that stays in the background is one of requests and replies. -/
theorem replies_of_background {α : Type} {p : SyncM α} (hp : Prog.Returns p)
    (hR : Prog.Keeps (Background 0) p) : Prog.Obeys Replies p :=
  .of_returns hp fun c => (hR c).replies

theorem replies_setErrno (e : Errno) : Prog.Obeys Replies (setErrno e) :=
  replies_of_background (.modify _) (setErrno_keeps e)

theorem replies_strerrno (env : SyncEnv) : Prog.Obeys Replies (strerrno env) :=
  replies_of_background (fun _ => ⟨_, rfl⟩) (strerrno_keeps env)

theorem replies_emit {e : SyncEvent} (he : e.isBackground) :
    Prog.Obeys Replies (Prog.emit e : SyncM Unit) :=
  replies_of_background (.emit e) (.emit he)

theorem replies_readFdExactly (env : SyncEnv) (n : ℕ) :
    Prog.Obeys Replies (readFdExactly env n) :=
  replies_of_background (readFdExactly_returns env n) (readFdExactly_keeps env n)

theorem replies_startReply : Prog.Obeys Replies startReply := fun _ =>
  ⟨_, rfl, rfl, rfl, le_rfl, fun _ he => .inr (List.mem_singleton.mp he)⟩

theorem replies_logFatalIf (fault : Bool) (text : Bytes) :
    Prog.Obeys Replies (logFatalIf fault text) :=
  .ite (fun _ => replies_emit rfl) fun _ => .pure Replies.composes ()

/-- `FinishStat` reads a reply. -/
theorem replies_finishStat (env : SyncEnv) : Prog.Obeys Replies (finishStat env) := by
  have hR := Replies.composes
  have hfail : ∀ e, Prog.Obeys Replies (do
      setErrno e
      return none : SyncM (Option Stat)) := fun e =>
    .bind hR (replies_setErrno e) fun _ => .pure hR none
  refine .bind hR replies_startReply fun _ => .ite (fun _ => ?_) fun _ => ?_
  · refine .bind hR (replies_readFdExactly env _) fun ⟨ok, msg⟩ => ?_
    exact .bind hR (replies_logFatalIf _ _) fun _ => .bind hR (replies_logFatalIf _ _) fun _ =>
      .ite (fun _ => hfail _) fun _ => .pure hR _
  · refine .bind hR (replies_readFdExactly env _) fun ⟨ok, msg⟩ => ?_
    exact .bind hR (replies_logFatalIf _ _) fun _ => .bind hR (replies_logFatalIf _ _) fun _ =>
      .ite (fun _ => hfail _) fun _ => .pure hR _

theorem replies_sendRequest (env : SyncEnv) (id : SyncId) (path : Bytes) :
    Prog.Obeys Replies (sendRequest env id path) :=
  replies_of_background (sendRequest_returns env id path) (sendRequest_keeps env id path)

/-- `sync_stat` and `sync_lstat` send a request and read its reply. -/
theorem replies_syncStat (env : SyncEnv) (path : Bytes) :
    Prog.Obeys Replies (syncStat env path) := by
  have hR := Replies.composes
  have hsend : Prog.Obeys Replies (sendStat env path) :=
    .ite (fun _ => replies_sendRequest env _ _) fun _ =>
      .bind hR (replies_setErrno _) fun _ => .pure hR false
  exact .bind hR hsend fun ok => .ite (fun _ => replies_finishStat env) fun _ => .pure hR none

theorem replies_syncLstat (env : SyncEnv) (path : Bytes) :
    Prog.Obeys Replies (syncLstat env path) := by
  have hR := Replies.composes
  have hsend : Prog.Obeys Replies (sendLstat env path) :=
    .ite (fun _ => replies_sendRequest env _ _) fun _ => replies_sendRequest env _ _
  exact .bind hR hsend fun ok => .ite (fun _ => replies_finishStat env) fun _ => .pure hR none

theorem replies_syncStatFallback (env : SyncEnv) (path : Bytes) :
    Prog.Obeys Replies (syncStatFallback env path) := by
  have hR := Replies.composes
  have hpure : ∀ r : Option Stat, Prog.Obeys Replies (pure r : SyncM (Option Stat)) := .pure hR
  refine .bind hR (replies_syncStat env path) fun r => ?_
  cases r with
  | some st => exact hpure _
  | none =>
    refine .bind hR (.get hR) fun c => .ite (fun _ => hpure _) fun _ =>
      .bind hR (replies_syncLstat env path) fun r => ?_
    cases r with
    | none => exact hpure _
    | some st =>
      refine .ite (fun _ => .bind hR (replies_syncLstat env _) fun r => ?_) fun _ => hpure _
      cases r <;> exact hpure _

/-- A round of `FinishLs` keeps what its callback keeps; the callback gets a name without a slash,
after a read. -/
theorem finishLsRound_runs (env : SyncEnv) {β : Type} {callback : β → Dent → SyncM β}
    {I : β → List SyncEvent → Prop}
    (hback : ∀ acc t e, e.isBackground → I acc t → I acc (t ++ [e]))
    (hcallback : ∀ acc d c t, slash ∉ d.name → I acc t →
      Prog.Runs (callback acc d) c fun acc' c' t' =>
        I acc' (t ++ t') ∧ c'.input.length ≤ c.input.length)
    (acc : β) (c : SyncConnection) (t : List SyncEvent) (hI : I acc t) :
    Prog.Runs (finishLsRound env callback acc) c fun r c' t' => match r with
      | .inl acc' => I acc' (t ++ t') ∧ c'.input.length < c.input.length
      | .inr r => r.2 = acc ∧ I acc (t ++ t') ∧ c'.input.length ≤ c.input.length := by
  unfold finishLsRound
  refine (readFdExactly_runs env _ c).bind fun ⟨ok, dent⟩ c₁ t₁ ⟨ht₁, hread⟩ => ?_
  subst ht₁
  have hle₁ := hread.weaken.input
  -- A round that goes on has read a header.
  have hlt₁ : ok = true → c₁.input.length < c.input.length := by
    rintro rfl
    have hinput := hread.input
    have hpos : 0 < if env.haveLsV2 = true then dentV2Size else dentV1Size := by
      split <;> decide
    rw [if_pos rfl] at hinput
    omega
  have hnil : I acc (t ++ []) := by rwa [List.append_nil]
  dsimp only
  generalize (if env.haveLsV2 then wordAt dent 72 else wordAt dent 16).toNat = len
  generalize (if env.haveLsV2 then SyncId.dentV2.word else SyncId.dentV1.word) = expected
  cases ok with
  | false => exact .pure ⟨rfl, hnil, hle₁⟩
  | true =>
    have hlt₁ := hlt₁ rfl
    rw [if_neg (by simp)]
    by_cases hdone : wordAt dent 0 = SyncId.done.word
    · rw [if_pos hdone]
      exact .pure ⟨rfl, hnil, hle₁⟩
    rw [if_neg hdone]
    by_cases hid : wordAt dent 0 ≠ expected
    · rw [if_pos hid]
      exact .pure ⟨rfl, hnil, hle₁⟩
    rw [if_neg hid]
    by_cases hlen : 255 < len
    · rw [if_pos hlen]
      exact .pure ⟨rfl, hnil, hle₁⟩
    rw [if_neg hlen]
    have hfill := hback acc t (.fill 256 len) rfl hI
    refine .emit_bind ((readFdExactly_runs env len c₁).bind fun ⟨ok, buf⟩ c₂ t₂ ⟨ht₂, hread₂⟩ => ?_)
    subst ht₂
    have hle₂ := hread₂.weaken.input
    cases ok with
    | false => exact .pure ⟨rfl, hfill, by omega⟩
    | true =>
      have hstore := hback acc _ (.store 256 len) rfl hfill
      rw [List.append_assoc] at hstore
      refine .emit_bind ?_
      by_cases hslash : slash ∈ cString buf
      · rw [if_pos hslash]
        exact .pure ⟨rfl, hstore, by omega⟩
      rw [if_neg hslash]
      -- The callback is given the name as the check has seen it.
      generalize hd : (if env.haveLsV2 then
          ⟨wordAt dent 24, longAt dent 40, longAt dent 56, cString buf⟩
        else ⟨wordAt dent 4, (wordAt dent 8).toNat, (wordAt dent 12).toNat, cString buf⟩ : Dent) = d
      have hname : d.name = cString buf := by
        rw [← hd]
        split <;> rfl
      refine (hcallback acc d c₂ _ (hname ▸ hslash) hstore).bind fun acc' c₃ t₃ ⟨hI₃, hle₃⟩ => ?_
      refine .pure ⟨?_, by omega⟩
      simpa using hI₃

/-- What `FinishLs` keeps of what its callback works on. -/
theorem finishLs_runs (env : SyncEnv) {β : Type} {callback : β → Dent → SyncM β}
    {I : β → List SyncEvent → Prop} {c : SyncConnection}
    (hback : ∀ acc t e, e.isBackground → I acc t → I acc (t ++ [e]))
    (hstart : ∀ acc, I acc [] → I acc [.startsReply c.deferred c.ackBuffer])
    (hcallback : ∀ acc d c t, slash ∉ d.name → I acc t →
      Prog.Runs (callback acc d) c fun acc' c' t' =>
        I acc' (t ++ t') ∧ c'.input.length ≤ c.input.length)
    {acc : β} (hacc : I acc []) :
    Prog.Runs (finishLs env callback acc) c fun r c' t =>
      I r.2 t ∧ c'.input.length ≤ c.input.length ∧
        (r.2 = acc ∨ c'.input.length < c.input.length) := by
  refine Prog.Runs.bind (p := startReply)
    (M := fun _ c' t => c' = c ∧ t = [.startsReply c.deferred c.ackBuffer]) ⟨_, rfl, rfl, rfl⟩
    fun _ c₀ t₀ ⟨hc₀, ht₀⟩ => .get_bind ?_
  subst hc₀ ht₀
  have hacc := hstart acc hacc
  -- Before each round that is not the first one the stream has become shorter.
  refine Prog.Runs.loop (m := fun c => c.input.length)
    (Q := fun (r : Bool × β) c' t => I r.2 ([.startsReply c₀.deferred c₀.ackBuffer] ++ t) ∧
      c'.input.length ≤ c₀.input.length ∧ (r.2 = acc ∨ c'.input.length < c₀.input.length))
    (I := fun acc' c' t => I acc' ([.startsReply c₀.deferred c₀.ackBuffer] ++ t) ∧
      c'.input.length ≤ c₀.input.length ∧ (acc' = acc ∨ c'.input.length < c₀.input.length))
    (fun acc' c₁ t₁ hI₁ => ?_) _ acc c₀ [] ⟨hacc, le_rfl, .inl rfl⟩ (Nat.lt_succ_self _)
  obtain ⟨hI₁, hle₁, hor₁⟩ := hI₁
  refine (finishLsRound_runs env hback hcallback acc' c₁ _ hI₁).mono fun r c₂ t₂ hround => ?_
  cases r with
  | inl acc₂ =>
    obtain ⟨hI₂, hlt₂⟩ := hround
    exact ⟨⟨hI₂, by omega, .inr (by omega)⟩, hlt₂⟩
  | inr r =>
    obtain ⟨rfl, hI₂, hle₂⟩ := hround
    exact ⟨hI₂, by omega, hor₁.imp_right fun _ => by omega⟩

end AdbMobile.Sync
