import AdbMobile.Client.Sync.Connection

/-!
# Receiving a file

`sync_recv_v1` and `sync_recv_v2` write a file that the device sends. The decoders of
`compression_utils.h` are outside the repository: a step returns `NeedInput`, `MoreOutput`, `Done`
or `Error` with what it produced, and `Finish` returns false when it is called again.

A receiver that fails after it has created the local file unlinks it, but for one exit: a second
`ID_DONE` while the decoder of `sync_recv_v2` still asks for input returns at once. So a receiver
leaves no partial file exactly when it reads at most one `ID_DONE` (`no_partial_file_iff`).
-/

namespace AdbMobile.Sync

open ByteString PosixPath

section Receive

variable (env : SyncEnv)

/-- Replaces what is at a path. -/
def setFile (path : Bytes) (contents : Option Bytes) : SyncM Unit :=
  Prog.modify fun c => { c with files := fun p => if p = path then contents else c.files p }

/-- `adb_unlink`. -/
def adbUnlink (path : Bytes) : SyncM Unit := do
  Prog.emit (.localOp .unlink path)
  setFile path none

/-- `adb_creat`. -/
def adbCreat (path : Bytes) : SyncM Bool := do
  let k ← nextCall
  Prog.emit (.localOp .creat path)
  match env.localError k with
  | some e =>
    setErrno e
    return false
  | none =>
    setFile path (some [])
    Prog.emit (.created path)
    return true

/-- Adds bytes to the open file at a path. -/
def appendFile (path block : Bytes) : SyncM Unit := do
  let c ← Prog.get
  setFile path ((c.files path).map (· ++ block))

/-- `WriteFdExactly` to the open file at a path. -/
def writeLocal (path block : Bytes) : SyncM Bool := do
  let k ← nextCall
  match env.localWrite k with
  | some (m, e) =>
    appendFile path (block.take m)
    setErrno e
    return false
  | none =>
    appendFile path block
    return true

/-- Gives up the local file. -/
def unlinkAndFail {α : Type} (path : Bytes) : SyncM (α ⊕ Bool) := do
  adbUnlink path
  return .inr false

/-- One round of `sync_recv_v1`. -/
def syncRecvV1Round (rpath lpath : Bytes) : SyncM (Unit ⊕ Bool) := do
  let (ok, msg) ← readFdExactly env syncStatusSize
  if !ok then unlinkAndFail lpath
  else
    let id := wordAt msg 0
    let size := wordAt msg 4
    Prog.emit (.header id size)
    if id = SyncId.done.word then return .inr true
    else if id ≠ SyncId.data.word then
      adbUnlink lpath
      reportCopyFailure env rpath lpath size
      return .inr false
    else if syncDataMax < size.toNat then
      error (lit "msg.data.size too large: " ++ decimal size.toNat ++ lit " (max " ++
        decimal syncDataMax ++ lit ")")
      unlinkAndFail lpath
    else
      Prog.emit (.fill syncDataMax size.toNat)
      let (ok, block) ← readFdExactly env size.toNat
      if !ok then unlinkAndFail lpath
      else
        Prog.emit (.decoded block)
        if ← writeLocal env lpath block then return .inl ()
        else
          error (lit "cannot write '" ++ lpath ++ lit "': " ++ (← strerrno env))
          unlinkAndFail lpath

/-- `sync_recv_v1`. Each round but the last reads a header. -/
def syncRecvV1 (rpath lpath : Bytes) : SyncM Bool := do
  if ← sendRequest env .recvV1 rpath then
    adbUnlink lpath
    if ← adbCreat env lpath then
      let c ← Prog.get
      Prog.loop (fun _ => syncRecvV1Round env rpath lpath) false (c.input.length + 1) ()
    else
      error (lit "cannot create '" ++ lpath ++ lit "': " ++ (← strerrno env))
      return false
  else return false

/-- `Decode`. -/
def decode : SyncM (DecodeResult × Bytes) := do
  let c ← Prog.get
  Prog.modify fun c => { c with decodes := c.decodes.tail }
  return c.decodes.headD (.error, [])

/-- Writes what the decoder has produced, where it has produced anything. -/
def writeOutput (lpath output : Bytes) : SyncM Bool := do
  if output = [] then return true
  else writeLocal env lpath output

/-- One round of the decoder loop: whether the receiver returns, and what. -/
def decodeRound (lpath : Bytes) : SyncM (Unit ⊕ Option Bool) := do
  let (result, output) ← decode
  if result = .error then
    error (lit "decompress failed")
    adbUnlink lpath
    return .inr (some false)
  else
    Prog.emit (.decoded output)
    if !(← writeOutput env lpath output) then
      error (lit "cannot write '" ++ lpath ++ lit "': " ++ (← strerrno env))
      adbUnlink lpath
      return .inr (some false)
    else
      match result with
      | .needInput => return .inr none
      | .moreOutput => return .inl ()
      | .done => return .inr (some true)
      | .error => return .inr none

/-- The decoder loop. Each round uses up a result of the decoder. -/
def decodeLoop (lpath : Bytes) : SyncM (Option Bool) := do
  let c ← Prog.get
  Prog.loop (fun _ => decodeRound env lpath) none (c.decodes.length + 1) ()

/-- One round of `sync_recv_v2`; the value is whether `Finish` was called. -/
def syncRecvV2Round (rpath lpath : Bytes) (finished : Bool) : SyncM (Bool ⊕ Bool) := do
  let (ok, msg) ← readFdExactly env syncStatusSize
  if !ok then unlinkAndFail lpath
  else
    let id := wordAt msg 0
    let size := wordAt msg 4
    Prog.emit (.header id size)
    if id = SyncId.done.word then
      if finished then
        error (lit "unexpected ID_DONE")
        return .inr false
      else
        match ← decodeLoop env lpath with
        | some success => return .inr success
        | none => return .inl true
    else if id ≠ SyncId.data.word then
      adbUnlink lpath
      reportCopyFailure env rpath lpath size
      return .inr false
    else if syncDataMax < size.toNat then
      error (lit "msg.data.size too large: " ++ decimal size.toNat ++ lit " (max " ++
        decimal syncDataMax ++ lit ")")
      unlinkAndFail lpath
    else
      Prog.emit (.fill size.toNat size.toNat)
      let (ok, _) ← readFdExactly env size.toNat
      if !ok then unlinkAndFail lpath
      else
        match ← decodeLoop env lpath with
        | some success => return .inr success
        | none => return .inl finished

/-- `sync_recv_v2`. Each round but the last reads a header. -/
def syncRecvV2 (rpath lpath : Bytes) (compression : CompressionType) : SyncM Bool := do
  if ← sendRecv2 env rpath (resolveCompressionType env compression) then
    adbUnlink lpath
    if ← adbCreat env lpath then
      let c ← Prog.get
      Prog.loop (syncRecvV2Round env rpath lpath) false (c.input.length + 1) false
    else
      error (lit "cannot create '" ++ lpath ++ lit "': " ++ (← strerrno env))
      return false
  else return false

/-- `sync_recv`. -/
def syncRecv (rpath lpath : Bytes) (compression : CompressionType) : SyncM Bool :=
  if env.haveSendrecvV2 then syncRecvV2 env rpath lpath compression
  else syncRecvV1 env rpath lpath

end Receive

/-! ## What the parts of a receiver do -/

/-- The bytes that an event adds to what the decoder has produced. -/
def SyncEvent.decodedBytes : SyncEvent → Bytes
  | .decoded output => output
  | _ => []

/-- The bytes that the decoder has produced. -/
def decodedBytes (t : List SyncEvent) : Bytes := t.flatMap SyncEvent.decodedBytes

/-- The event is an `ID_DONE` header. -/
def SyncEvent.isDone : SyncEvent → Bool
  | .header id _ => id == SyncId.done.word
  | _ => false

/-- How often an `ID_DONE` header was read. -/
def doneCount (t : List SyncEvent) : ℕ := t.countP SyncEvent.isDone

@[simp] theorem decodedBytes_nil : decodedBytes [] = [] := rfl

@[simp] theorem decodedBytes_cons (e : SyncEvent) (t : List SyncEvent) :
    decodedBytes (e :: t) = e.decodedBytes ++ decodedBytes t := rfl

@[simp] theorem doneCount_nil : doneCount [] = 0 := rfl

@[simp] theorem doneCount_cons (e : SyncEvent) (t : List SyncEvent) :
    doneCount (e :: t) = doneCount t + if e.isDone then 1 else 0 := List.countP_cons ..

@[simp] theorem decodedBytes_append (t t' : List SyncEvent) :
    decodedBytes (t ++ t') = decodedBytes t ++ decodedBytes t' := List.flatMap_append ..

@[simp] theorem doneCount_append (t t' : List SyncEvent) :
    doneCount (t ++ t') = doneCount t + doneCount t' := List.countP_append ..

/-- Background events decode nothing. -/
theorem Background.decodedBytes {n : ℕ} {c c' : SyncConnection} {t : List SyncEvent}
    (h : Background n c t c') : decodedBytes t = [] := by
  refine List.flatMap_eq_nil_iff.mpr fun e he => ?_
  have hb := h.trace e he
  cases e <;> first | rfl | exact absurd hb Bool.false_ne_true

/-- Background events are no headers. -/
theorem Background.doneCount {n : ℕ} {c c' : SyncConnection} {t : List SyncEvent}
    (h : Background n c t c') : doneCount t = 0 := by
  refine List.countP_eq_zero.mpr fun e he => ?_
  have hb := h.trace e he
  cases e <;> first | exact Bool.false_ne_true | exact absurd hb Bool.false_ne_true

/-- How a receiver ends that had written `w` and read `dones` headers `ID_DONE`: it has written all
that the decoder produced, or it has unlinked the file, unless there was a second `ID_DONE`. -/
def ReceiverEnds (lpath w : Bytes) (dones : ℕ) (success : Bool) (c : SyncConnection)
    (t : List SyncEvent) : Prop :=
  if success then c.files lpath = some (w ++ decodedBytes t) ∧ doneCount t + dones ≤ 1
  else (c.files lpath = none ∧ doneCount t + dones ≤ 1) ∨
    (c.files lpath ≠ none ∧ 1 < doneCount t + dones)

/-- What a round of a receiver does: it goes on with all written that the decoder produced, having
read something, or the receiver ends. `dones` is how many headers `ID_DONE` were read before. -/
def RoundEnds {α : Type} (dones : α → ℕ) (lpath w : Bytes) (a : α) (c : SyncConnection)
    (r : α ⊕ Bool) (c' : SyncConnection) (t : List SyncEvent) : Prop :=
  match r with
  | .inl a' => c'.files lpath = some (w ++ decodedBytes t) ∧ c'.input.length < c.input.length ∧
      doneCount t + dones a = dones a' ∧ dones a' ≤ 1
  | .inr success => ReceiverEnds lpath w (dones a) success c' t

/-- Unlinking the file ends a receiver as it should. -/
theorem RoundEnds.unlinked {α : Type} {dones : α → ℕ} {lpath w : Bytes} {a : α}
    {c c' : SyncConnection} {r : α ⊕ Bool} {t : List SyncEvent} (hr : r = .inr false)
    (hfile : c'.files lpath = none) (hcount : doneCount t + dones a ≤ 1) :
    RoundEnds dones lpath w a c r c' t := by
  subst hr
  exact .inl ⟨hfile, hcount⟩

/-- What each round does, the loop does. -/
theorem receiverLoop_runs {α : Type} {dones : α → ℕ} {lpath w : Bytes}
    {body : α → SyncM (α ⊕ Bool)}
    (hbody : ∀ a c w, c.files lpath = some w → dones a ≤ 1 →
      Prog.Runs (body a) c (RoundEnds dones lpath w a c))
    {c : SyncConnection} (hw : c.files lpath = some w) {a : α} (hdones : dones a ≤ 1) :
    Prog.Runs (Prog.loop body false (c.input.length + 1) a) c
      fun success c' t => ReceiverEnds lpath w (dones a) success c' t := by
  -- Before each round all that the decoder produced has been written.
  refine Prog.Runs.loop (m := fun c => c.input.length)
    (I := fun a' c' t => c'.files lpath = some (w ++ decodedBytes t) ∧
      doneCount t + dones a = dones a' ∧ dones a' ≤ 1)
    (fun a' c' t hI => ?_) _ a c [] ⟨by simpa [decodedBytes] using hw, by simp [doneCount], hdones⟩
    (Nat.lt_succ_self _)
  obtain ⟨hfile, hcount, hle⟩ := hI
  refine (hbody a' c' _ hfile hle).mono fun r c'' t' hr => ?_
  cases r with
  | inl a'' =>
    obtain ⟨hfile', hinput, hcount', hle'⟩ := hr
    rw [decodedBytes_append, doneCount_append, ← List.append_assoc]
    exact ⟨⟨hfile', by omega, hle'⟩, hinput⟩
  | inr success =>
    have hsum : doneCount (t ++ t') + dones a = doneCount t' + dones a' := by
      rw [doneCount_append]
      omega
    simp only [RoundEnds, ReceiverEnds] at hr ⊢
    rwa [decodedBytes_append, ← List.append_assoc, hsum]

section Rounds

variable (env : SyncEnv)

/-- A local write returns, and where it succeeds the bytes are in the file. -/
theorem writeLocal_runs (lpath block : Bytes) (c : SyncConnection) :
    Prog.Runs (writeLocal env lpath block) c fun ok c' t => t = [] ∧ c'.decodes = c.decodes ∧
      c'.input = c.input ∧ (ok = true → c'.files lpath = (c.files lpath).map (· ++ block)) := by
  unfold writeLocal appendFile setFile
  refine nextCall_bind ?_
  cases env.localWrite c.calls with
  | some r => exact ⟨false, rfl, rfl, rfl, rfl, fun h => absurd h Bool.false_ne_true⟩
  | none => exact ⟨true, rfl, rfl, rfl, rfl, fun _ => if_pos rfl⟩

/-- Unlinking the file, and failing. -/
theorem unlinkAndFail_runs {α : Type} (lpath : Bytes) (c : SyncConnection) :
    Prog.Runs (unlinkAndFail (α := α) lpath) c fun r c' t =>
      r = .inr false ∧ c'.files lpath = none ∧ doneCount t = 0 :=
  ⟨_, rfl, rfl, if_pos rfl, rfl⟩

/-- A message that is not `ID_DATA`: the file is unlinked before its text is read. -/
theorem unlinkAndReport_runs {α : Type} (rpath lpath : Bytes) (size : UInt32) (c : SyncConnection) :
    Prog.Runs (do
        adbUnlink lpath
        reportCopyFailure env rpath lpath size
        return (.inr false : α ⊕ Bool)) c fun r c' t =>
      r = .inr false ∧ c'.files lpath = none ∧ doneCount t = 0 := by
  refine Prog.Runs.bind (M := fun _ c' t => c'.files lpath = none ∧ doneCount t = 0)
    ⟨_, rfl, if_pos rfl, rfl⟩ fun _ c' t hc => ?_
  refine ((reportCopyFailure_returns env rpath lpath size).runs
    (reportCopyFailure_keeps env rpath lpath size) c').bind fun _ c'' t' hback => ?_
  refine .pure ⟨rfl, hback.files ▸ hc.1, ?_⟩
  rw [doneCount_append, doneCount_append, hc.2, hback.doneCount]
  rfl

/-- A round of `sync_recv_v1` ends as it should; its `ID_DONE` is its last header. -/
theorem syncRecvV1Round_ends (rpath lpath : Bytes) (a : Unit) (c : SyncConnection) (w : Bytes)
    (hw : c.files lpath = some w) :
    Prog.Runs (syncRecvV1Round env rpath lpath) c (RoundEnds (fun _ => 0) lpath w a c) := by
  unfold syncRecvV1Round
  refine (readFdExactly_runs env syncStatusSize c).bind fun ⟨ok, msg⟩ c₁ t₁ ⟨ht₁, hback⟩ => ?_
  subst ht₁
  cases ok with
  | false =>
    exact (unlinkAndFail_runs lpath c₁).mono fun r c₂ t ⟨hr, hfile, hcount⟩ =>
      .unlinked hr hfile (by simp [hcount])
  | true =>
    have hw₁ : c₁.files lpath = some w := hback.files ▸ hw
    have hinput : c₁.input.length < c.input.length := by
      have := hback.input
      simp only [if_true, syncStatusSize] at this
      omega
    refine .emit_bind ?_
    split
    · -- `ID_DONE` ends the loop.
      rename_i hdone
      exact .pure ⟨by simpa [SyncEvent.decodedBytes] using hw₁, by simp [hdone, SyncEvent.isDone]⟩
    rename_i hdone
    split
    · exact (unlinkAndReport_runs env rpath lpath _ c₁).mono fun r c₂ t ⟨hr, hfile, hcount⟩ =>
        .unlinked hr hfile (by simp [hdone, SyncEvent.isDone, hcount])
    split
    · exact .emit_bind ((unlinkAndFail_runs lpath c₁).mono fun r c₂ t ⟨hr, hfile, hcount⟩ =>
        .unlinked hr hfile (by simp [hdone, SyncEvent.isDone, hcount]))
    refine .emit_bind ?_
    refine (readFdExactly_runs env _ c₁).bind fun ⟨ok, block⟩ c₂ t₂ ⟨ht₂, hback₂⟩ => ?_
    subst ht₂
    cases ok with
    | false =>
      exact (unlinkAndFail_runs lpath c₂).mono fun r c₃ t ⟨hr, hfile, hcount⟩ =>
        .unlinked hr hfile (by simp [hdone, SyncEvent.isDone, hcount])
    | true =>
      -- A block is appended to the file, or the file is unlinked.
      refine .emit_bind ?_
      refine (writeLocal_runs env lpath block c₂).bind fun ok c₃ t₃ ⟨ht₃, _, hinput₃, hfile₃⟩ => ?_
      subst ht₃
      cases ok with
      | false =>
        refine .get_bind (.emit_bind ?_)
        exact (unlinkAndFail_runs lpath c₃).mono fun r c₄ t ⟨hr, hfile, hcount⟩ =>
          .unlinked hr hfile (by simp [hdone, SyncEvent.isDone, hcount])
      | true =>
        have hinput₂ := hback₂.weaken.input
        refine .pure ⟨?_, ?_, by simp [hdone, SyncEvent.isDone], by decide⟩
        · rw [hfile₃ rfl, hback₂.files, hw₁]
          simp [SyncEvent.decodedBytes]
        · rw [hinput₃]
          omega

/-- How the decoder loop ends, with the stream as it was: the file is unlinked where the receiver
fails, and else it holds all that the decoder produced. -/
def DecodeEnds (lpath w : Bytes) (input : Bytes) (r : Option Bool) (c : SyncConnection)
    (t : List SyncEvent) : Prop :=
  (if r = some false then c.files lpath = none else c.files lpath = some (w ++ decodedBytes t)) ∧
    doneCount t = 0 ∧ c.input = input

/-- A step of the decoder. -/
theorem decode_bind {α : Type} {f : DecodeResult × Bytes → SyncM α} {c : SyncConnection}
    {Q : α → SyncConnection → List SyncEvent → Prop}
    (h : Prog.Runs (f (c.decodes.headD (.error, []))) { c with decodes := c.decodes.tail } Q) :
    Prog.Runs (decode >>= f) c Q := h

/-- Writing what a step of the decoder produced, where it produced anything. -/
theorem writeOutput_runs (lpath output w : Bytes) (c : SyncConnection)
    (hw : c.files lpath = some w) :
    Prog.Runs (writeOutput env lpath output) c fun ok c' t =>
      t = [] ∧ c'.decodes = c.decodes ∧ c'.input = c.input ∧
        (ok = true → c'.files lpath = some (w ++ output)) := by
  unfold writeOutput
  split
  · rename_i hnil
    exact .pure ⟨rfl, rfl, rfl, fun _ => by rw [hw, hnil, List.append_nil]⟩
  · refine (writeLocal_runs env lpath output c).mono fun ok c' t ⟨ht, hdec, hinput, hfile⟩ => ?_
    exact ⟨ht, hdec, hinput, fun hok => by rw [hfile hok, hw, Option.map_some]⟩

/-- A round of the decoder loop, which uses up a result where it asks for another round. -/
theorem decodeRound_runs (lpath : Bytes) (c : SyncConnection) (w : Bytes)
    (hw : c.files lpath = some w) :
    Prog.Runs (decodeRound env lpath) c fun r c' t => match r with
      | .inl () => DecodeEnds lpath w c.input none c' t ∧ c'.decodes.length < c.decodes.length
      | .inr r => DecodeEnds lpath w c.input r c' t := by
  unfold decodeRound
  refine decode_bind ?_
  generalize hstep : c.decodes.headD (.error, []) = step
  obtain ⟨result, output⟩ := step
  dsimp only
  split
  · exact .emit_bind ⟨_, rfl, if_pos rfl, rfl, rfl⟩
  rename_i hresult
  -- There was a result to use up.
  have hdecodes : c.decodes.tail.length < c.decodes.length := by
    cases hd : c.decodes with
    | nil =>
      rw [hd] at hstep
      exact absurd (congrArg Prod.fst hstep).symm hresult
    | cons d ds => exact Nat.lt_succ_self _
  refine .emit_bind ?_
  refine (writeOutput_runs env lpath output w { c with decodes := c.decodes.tail } hw).bind
    fun ok c' t ⟨ht, hdec, hinput, hfile⟩ => ?_
  subst ht
  cases ok with
  | false => exact .get_bind (.emit_bind ⟨_, rfl, if_pos rfl, rfl, hinput⟩)
  | true =>
    have hends : ∀ r, r ≠ some false → DecodeEnds lpath w c.input r c' [.decoded output] := by
      intro r hr
      refine ⟨?_, rfl, hinput⟩
      rw [if_neg hr, hfile rfl]
      simp [SyncEvent.decodedBytes]
    cases result with
    | needInput => exact .pure (hends none (by simp))
    | moreOutput => exact .pure ⟨hends none (by simp), by rwa [hdec]⟩
    | done => exact .pure (hends (some true) (by simp))
    | error => exact absurd rfl hresult

/-- The decoder loop. -/
theorem decodeLoop_runs (lpath : Bytes) (c : SyncConnection) (w : Bytes)
    (hw : c.files lpath = some w) :
    Prog.Runs (decodeLoop env lpath) c fun r c' t => DecodeEnds lpath w c.input r c' t := by
  refine .get_bind ?_
  refine Prog.Runs.loop (m := fun c => c.decodes.length)
    (I := fun _ c' t => DecodeEnds lpath w c.input none c' t) (fun _ c' t hI => ?_) _ () c []
    ⟨by simpa using hw, rfl, rfl⟩ (Nat.lt_succ_self _)
  obtain ⟨hfile, hcount, hinput⟩ := hI
  rw [if_neg (by simp)] at hfile
  refine (decodeRound_runs env lpath c' _ hfile).mono fun r c'' t' hr => ?_
  have hjoin : ∀ r, DecodeEnds lpath (w ++ decodedBytes t) c'.input r c'' t' →
      DecodeEnds lpath w c.input r c'' (t ++ t') := by
    rintro r ⟨hfile', hcount', hinput'⟩
    refine ⟨?_, by simp [hcount, hcount'], hinput'.trans hinput⟩
    rwa [decodedBytes_append, ← List.append_assoc]
  cases r with
  | inl b => exact ⟨hjoin none hr.1, hr.2⟩
  | inr r => exact hjoin r hr

/-- What the decoder loop does is what the round of the receiver does. -/
theorem DecodeEnds.round {lpath w : Bytes} {c c₁ c₂ : SyncConnection} {r : Option Bool}
    {t' : List SyncEvent} (dones : Bool → ℕ) (finished finished' : Bool) (t : List SyncEvent)
    (h : DecodeEnds lpath w c₁.input r c₂ t') (hinput : c₁.input.length < c.input.length)
    (ht : decodedBytes t = []) (hcount : doneCount t + dones finished = dones finished')
    (hle : dones finished' ≤ 1) :
    RoundEnds dones lpath w finished c
      (match r with
        | some success => .inr success
        | none => .inl finished') c₂ (t ++ t') := by
  obtain ⟨hfile, hcount', hinput'⟩ := h
  have hsum : doneCount (t ++ t') + dones finished = dones finished' := by
    rw [doneCount_append, hcount']
    exact hcount
  cases r with
  | none =>
    rw [if_neg (by simp)] at hfile
    refine ⟨?_, by rwa [hinput'], hsum, hle⟩
    rwa [decodedBytes_append, ht]
  | some success =>
    cases success with
    | false => exact .unlinked rfl hfile (hsum.trans_le hle)
    | true =>
      rw [if_neg (by simp)] at hfile
      refine ⟨?_, hsum.trans_le hle⟩
      rwa [decodedBytes_append, ht]

/-- A round of `sync_recv_v2` ends as it should, or at a second `ID_DONE`. -/
theorem syncRecvV2Round_ends (rpath lpath : Bytes) (finished : Bool) (c : SyncConnection)
    (w : Bytes) (hw : c.files lpath = some w) (_ : finished.toNat ≤ 1) :
    Prog.Runs (syncRecvV2Round env rpath lpath finished) c
      (RoundEnds Bool.toNat lpath w finished c) := by
  have hfin : finished.toNat ≤ 1 := Bool.toNat_le finished
  unfold syncRecvV2Round
  refine (readFdExactly_runs env syncStatusSize c).bind fun ⟨ok, msg⟩ c₁ t₁ ⟨ht₁, hback⟩ => ?_
  subst ht₁
  cases ok with
  | false =>
    exact (unlinkAndFail_runs lpath c₁).mono fun r c₂ t ⟨hr, hfile, hcount⟩ =>
      .unlinked hr hfile (by simp [hcount, hfin])
  | true =>
    have hw₁ : c₁.files lpath = some w := hback.files ▸ hw
    have hinput : c₁.input.length < c.input.length := by
      have := hback.input
      simp only [if_true, syncStatusSize] at this
      omega
    refine .emit_bind ?_
    split
    · rename_i hdone
      cases finished with
      | true =>
        -- The second `ID_DONE`: the file stays.
        refine .emit_bind (.pure (.inr ⟨by rw [hw₁]; simp, ?_⟩))
        simp [hdone, SyncEvent.isDone]
      | false =>
        refine (decodeLoop_runs env lpath c₁ w hw₁).bind fun r c₂ t₂ hends => ?_
        have hround := hends.round Bool.toNat false true
          [.header (wordAt msg 0) (wordAt msg 4)] hinput rfl
          (by simp [hdone, SyncEvent.isDone]) le_rfl
        cases r with
        | none => exact .pure (by simpa using hround)
        | some success => exact .pure (by simpa using hround)
    rename_i hdone
    split
    · exact (unlinkAndReport_runs env rpath lpath _ c₁).mono fun r c₂ t ⟨hr, hfile, hcount⟩ =>
        .unlinked hr hfile (by simp [hdone, SyncEvent.isDone, hcount, hfin])
    split
    · exact .emit_bind ((unlinkAndFail_runs lpath c₁).mono fun r c₂ t ⟨hr, hfile, hcount⟩ =>
        .unlinked hr hfile (by simp [hdone, SyncEvent.isDone, hcount, hfin]))
    refine .emit_bind ?_
    refine (readFdExactly_runs env _ c₁).bind fun ⟨ok, block⟩ c₂ t₂ ⟨ht₂, hback₂⟩ => ?_
    subst ht₂
    cases ok with
    | false =>
      exact (unlinkAndFail_runs lpath c₂).mono fun r c₃ t ⟨hr, hfile, hcount⟩ =>
        .unlinked hr hfile (by simp [hdone, SyncEvent.isDone, hcount, hfin])
    | true =>
      have hinput₂ := hback₂.weaken.input
      refine (decodeLoop_runs env lpath c₂ w (hback₂.files ▸ hw₁)).bind fun r c₃ t₃ hends => ?_
      have hround := hends.round (c := c) Bool.toNat finished finished
        [.header (wordAt msg 0) (wordAt msg 4),
          .fill (wordAt msg 4).toNat (wordAt msg 4).toNat] (by omega) rfl
        (by simp [hdone, SyncEvent.isDone]) hfin
      cases r with
      | none => exact .pure (by simpa using hround)
      | some success => exact .pure (by simpa using hround)

end Rounds

/-! ## No partial file -/

/-- The two receivers. -/
inductive Receiver
  | v1
  | v2 (compression : CompressionType)

/-- The program of a receiver. -/
def Receiver.run (env : SyncEnv) (rpath lpath : Bytes) : Receiver → SyncM Bool
  | .v1 => syncRecvV1 env rpath lpath
  | .v2 compression => syncRecvV2 env rpath lpath compression

/-- A receiver that fails after it has created the file has unlinked it, and one that succeeds has
written exactly what the decoder produced. -/
structure NoPartialFile (lpath : Bytes) (o : Outcome SyncConnection SyncEvent SyncStop Bool) :
    Prop where
  failed : o.result = .ok false → .created lpath ∈ o.trace → o.state.files lpath = none
  succeeded : o.result = .ok true → o.state.files lpath = some (decodedBytes o.trace)

/-- How a receiver ends that may not have got to create the file. -/
def ReceiveEnds (lpath : Bytes) (success : Bool) (c : SyncConnection) (t : List SyncEvent) : Prop :=
  (.created lpath ∈ t ∧ ReceiverEnds lpath [] 0 success c t) ∨
    (success = false ∧ .created lpath ∉ t ∧ doneCount t = 0)

/-- `adb_creat` returns, and where it succeeds the file is there and empty. -/
theorem adbCreat_runs (env : SyncEnv) (lpath : Bytes) (c : SyncConnection) :
    Prog.Runs (adbCreat env lpath) c fun ok c' t =>
      if ok then c'.files lpath = some [] ∧ t = [.localOp .creat lpath, .created lpath]
      else t = [.localOp .creat lpath] := by
  unfold adbCreat
  refine nextCall_bind (.emit_bind ?_)
  cases env.localError c.calls with
  | some e => exact ⟨false, rfl, rfl⟩
  | none => exact ⟨true, rfl, if_pos rfl, rfl⟩

/-- Creating the file and receiving it, after the request. -/
theorem createAndReceive_runs (env : SyncEnv) (lpath text : Bytes)
    {loop : SyncConnection → SyncM Bool}
    (hloop : ∀ c, c.files lpath = some [] → Prog.Runs (loop c) c (ReceiverEnds lpath [] 0))
    (c : SyncConnection) :
    Prog.Runs (do
      adbUnlink lpath
      if ← adbCreat env lpath then
        let c ← Prog.get
        loop c
      else
        error (text ++ (← strerrno env))
        return false) c (ReceiveEnds lpath) := by
  refine Prog.Runs.bind (M := fun _ _ t => t = [.localOp .unlink lpath]) ⟨_, rfl, rfl⟩
    fun _ c₁ t₁ ht₁ => ?_
  subst ht₁
  refine (adbCreat_runs env lpath c₁).bind fun ok c₂ t₂ hcreat => ?_
  cases ok with
  | false =>
    rw [if_neg Bool.false_ne_true] at hcreat
    subst hcreat
    exact .get_bind (.emit_bind (.pure (.inr ⟨rfl, by simp, by simp [SyncEvent.isDone]⟩)))
  | true =>
    rw [if_pos rfl] at hcreat
    obtain ⟨hfile, rfl⟩ := hcreat
    refine .get_bind ((hloop c₂ hfile).mono fun success c₃ t hends => .inl ⟨by simp, ?_⟩)
    unfold ReceiverEnds at hends ⊢
    simpa [SyncEvent.decodedBytes, SyncEvent.isDone] using hends

/-- A receiver whose request succeeds or fails. -/
theorem requestAndReceive_runs {lpath : Bytes} {request body : SyncM Bool}
    (hreturns : Prog.Returns request) (hkeeps : Prog.Keeps (Background 0) request)
    (hbody : ∀ c, Prog.Runs body c (ReceiveEnds lpath)) (c : SyncConnection) :
    Prog.Runs (do if ← request then body else return false) c (ReceiveEnds lpath) := by
  refine (hreturns.runs hkeeps c).bind fun ok c₁ t₁ hback => ?_
  have hcreated : .created lpath ∉ t₁ := fun hmem => absurd (hback.trace _ hmem) Bool.false_ne_true
  cases ok with
  | false => exact .pure (.inr ⟨rfl, by simpa using hcreated, by simpa using hback.doneCount⟩)
  | true =>
    refine (hbody c₁).mono fun success c₂ t hends => ?_
    obtain ⟨hmem, hends⟩ | ⟨hfalse, hmem, hcount⟩ := hends
    · refine .inl ⟨List.mem_append_right _ hmem, ?_⟩
      unfold ReceiverEnds at hends ⊢
      rwa [decodedBytes_append, doneCount_append, hback.decodedBytes, hback.doneCount,
        List.nil_append, Nat.zero_add]
    · exact .inr ⟨hfalse, by simp [hcreated, hmem], by simp [hback.doneCount, hcount]⟩

/-- A receiver returns, with the file unlinked or complete unless it read a second `ID_DONE`. -/
theorem receive_runs (env : SyncEnv) (receiver : Receiver) (rpath lpath : Bytes)
    (c : SyncConnection) :
    Prog.Runs (receiver.run env rpath lpath) c (ReceiveEnds lpath) := by
  cases receiver with
  | v1 =>
    refine requestAndReceive_runs (sendRequest_returns env _ _) (sendRequest_keeps env _ _)
      (createAndReceive_runs env lpath _ fun c hfile => ?_) c
    exact receiverLoop_runs (fun a c w hw _ => syncRecvV1Round_ends env rpath lpath a c w hw) hfile
      (Nat.zero_le _)
  | v2 compression =>
    refine requestAndReceive_runs (sendRecv2_returns env _ _) (sendRecv2_keeps env _ _)
      (createAndReceive_runs env lpath _ fun c hfile => ?_) c
    exact receiverLoop_runs (syncRecvV2Round_ends env rpath lpath) hfile (Nat.zero_le _)

/-- A receiver returns, and it leaves no partial file exactly when it has read at most one header
`ID_DONE`. -/
theorem no_partial_file_iff (env : SyncEnv) (receiver : Receiver) (rpath lpath : Bytes)
    (c : SyncConnection) :
    (∃ success, (receiver.run env rpath lpath c).result = .ok success) ∧
      (NoPartialFile lpath (receiver.run env rpath lpath c) ↔
        doneCount (receiver.run env rpath lpath c).trace ≤ 1) := by
  obtain ⟨success, hresult, hends⟩ := receive_runs env receiver rpath lpath c
  refine ⟨⟨success, hresult⟩, ?_⟩
  obtain ⟨hcreated, hends⟩ | ⟨rfl, hcreated, hcount⟩ := hends
  · cases success with
    | true =>
      obtain ⟨hfile, hcount⟩ := hends
      refine ⟨fun _ => hcount, fun _ => ⟨fun hfalse => ?_, fun _ => hfile⟩⟩
      rw [hresult] at hfalse
      cases hfalse
    | false =>
      obtain ⟨hfile, hcount⟩ | ⟨hfile, hcount⟩ := hends
      · refine ⟨fun _ => hcount, fun _ => ⟨fun _ _ => hfile, fun htrue => ?_⟩⟩
        rw [hresult] at htrue
        cases htrue
      · exact ⟨fun h => absurd (h.failed hresult hcreated) hfile, fun h => absurd h (by omega)⟩
  · refine ⟨fun _ => by omega, fun _ => ⟨fun _ h => absurd h hcreated, fun htrue => ?_⟩⟩
    rw [hresult] at htrue
    cases htrue

/-- A device that sends three bytes in a block of a Brotli stream that does not end with it, and two
headers `ID_DONE`, while the decoder asks for more. -/
def doneTwice : SyncConnection :=
  .new (wordBytes SyncId.data.word ++ wordBytes 6 ++ [0x20, 0, 0x10, 65, 66, 67] ++
      (wordBytes SyncId.done.word ++ wordBytes 0) ++ (wordBytes SyncId.done.word ++ wordBytes 0))
    [(.needInput, [65, 66, 67]), (.needInput, [])] fun _ => none

/-- `sync_recv_v2` fails then, and the file is left with the three bytes. -/
theorem partial_file_left :
    ¬ ∀ (env : SyncEnv) (receiver : Receiver) (rpath lpath : Bytes) (c : SyncConnection),
      NoPartialFile lpath (receiver.run env rpath lpath c) := by
  intro hall
  have hfailed := (hall (.calm [lit "sendrecv_v2", lit "sendrecv_v2_brotli"]) (.v2 .brotli)
    (lit "/sdcard/f") (lit "f") doneTwice).failed
  revert hfailed
  decide +kernel

end AdbMobile.Sync
