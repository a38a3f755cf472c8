import AdbMobile.Client.Sync.Emits

/-!
# What a pull emits

The same for `do_sync_pull` and what it calls: a pull writes requests only, so a property of all
events of its runs is one of requests, of local calls, and of the strings that are looked at from
their end. Those are the paths of the command line and others, which are never empty.
-/

namespace AdbMobile.Sync

open ByteString PosixPath

/-- The event is neither a write nor a look at the end of a string. -/
def SyncEvent.isLocal : SyncEvent → Bool
  | .wrote _ | .back _ => false
  | _ => true

/-- A property of the events of a pull that looks at the ends of no empty strings. -/
class AllowsPull (P : outParam (SyncMessage → Prop)) (A : SyncEvent → Prop) : Prop extends
    AllowsTransfer A, AllowsWrites P A, AllowsWalk A where
  of_local : ∀ e : SyncEvent, e.isLocal → A e
  stat : AllowsStat P
  /-- The requests for a directory, and those for a file of a device without `sendrecv_v2`. -/
  of_request : ∀ id ∈ [SyncId.listV1, .listV2, .recvV1], ∀ path : Bytes, path.length ≤ 1024 →
    P (.request id path)
  /-- The request for a file with its `recv_v2_setup`, which are one write. -/
  of_recvV2 : ∀ (path : Bytes) (flags : UInt32), path.length ≤ 1024 →
    A (.wrote [.request .recvV2 path, .recvV2Setup flags])

/-! ## Paths that are not empty -/

/-- The paths of a `copyinfo` are not empty. -/
def CopyInfo.Named (ci : CopyInfo) : Prop := ci.lpath ≠ [] ∧ ci.rpath ≠ []

/-- Those of a new one are not, whatever it is made of. -/
theorem copyInfo_named (l r name : Bytes) (mode : UInt32) :
    Prog.Yields (copyInfo l r name mode) CopyInfo.Named := by
  have hname : ∀ path, withSeparator path ++ name ≠ [] := fun path =>
    List.append_ne_nil_of_left_ne_nil (withSeparator_ne_nil path) name
  have hensure : ∀ l r, Prog.Yields (ensureTrailingSeparators l r) fun p =>
      p = (withSeparator l, withSeparator r) := fun _ _ _ _ h => (Except.ok.inj h).symm
  refine .bind (hensure l r) fun p hp => ?_
  subst hp
  refine .ite (fun _ => .bind (hensure _ _) fun p hp => ?_) fun _ => .pure ⟨hname l, hname r⟩
  subst hp
  exact .pure ⟨withSeparator_ne_nil _, withSeparator_ne_nil _⟩

/-- The value of a listing is one that its callback made. -/
theorem finishLs_yields (env : SyncEnv) {β : Type} {M : β → Prop} {callback : β → Dent → SyncM β}
    (hcallback : ∀ acc d, M acc → Prog.Yields (callback acc d) M) {acc : β} (hacc : M acc) :
    Prog.Yields (finishLs env callback acc) fun r => M r.2 := by
  refine .bind (.trivial _) fun _ _ => .bind (.trivial _) fun c _ =>
    .loop (M := M) (Q := fun r : Bool × β => M r.2) (fun acc hacc => ?_) hacc _ acc hacc
  refine .bind (.trivial _) fun ⟨ok, dent⟩ _ => .ite (fun _ => .pure hacc) fun _ =>
    .ite (fun _ => .pure hacc) fun _ => .ite (fun _ => .pure hacc) fun _ =>
      .ite (fun _ => .pure hacc) fun _ => .bind (.trivial _) fun _ _ =>
        .bind (.trivial _) fun ⟨ok, buf⟩ _ => .ite (fun _ => .pure hacc) fun _ => ?_
  exact .bind (.trivial _) fun _ _ => .ite (fun _ => .pure hacc) fun _ =>
    .bind (hcallback acc _ hacc) fun _ h => .pure h

/-- The directories and the links that were found have paths. -/
def RemoteLists.Named (lists : RemoteLists) : Prop :=
  (∀ ci ∈ lists.dirlist, ci.Named) ∧ ∀ ci ∈ lists.linklist, ci.Named

/-- One more entry with paths. -/
theorem named_concat {cis : List CopyInfo} (h : ∀ ci ∈ cis, ci.Named) {ci : CopyInfo}
    (hci : ci.Named) : ∀ ci' ∈ cis ++ [ci], ci'.Named := fun ci' hmem =>
  (List.mem_append.mp hmem).elim (h ci') fun hmem => List.mem_singleton.mp hmem ▸ hci

theorem remoteCallback_named (rpath lpath : Bytes) {lists : RemoteLists} (h : lists.Named)
    (d : Dent) : Prog.Yields (remoteCallback rpath lpath lists d) RemoteLists.Named := by
  refine .ite (fun _ => .pure h) fun _ => .bind (copyInfo_named _ _ _ _) fun ci hci =>
    .ite (fun _ => .pure ⟨named_concat h.1 hci, h.2⟩) fun _ =>
      .ite (fun _ => .pure ⟨h.1, named_concat h.2 hci⟩) fun _ => .ite (fun _ => ?_) fun _ => ?_
  · exact .bind (.trivial _) fun _ _ => .bind (.trivial _) fun _ _ => .pure h
  · exact .bind (.trivial _) fun _ _ => .pure h

/-- A link that leads to a directory becomes one of the directories. -/
theorem resolveLink_named (env : SyncEnv) {lists : RemoteLists} (h : lists.Named) {link : CopyInfo}
    (hlink : link.Named) : Prog.Yields (resolveLink env lists link) RemoteLists.Named := by
  refine .bind (.trivial _) fun r _ => ?_
  cases r with
  | none => exact .bind (.trivial _) fun _ _ => .bind (.trivial _) fun _ _ => .pure h
  | some st =>
    exact .ite (fun _ => .pure ⟨named_concat h.1 hlink, h.2⟩) fun _ =>
      .bind (.trivial _) fun _ _ => .pure h

section Pull

variable {A : SyncEvent → Prop} {P : SyncMessage → Prop} [hpull : AllowsPull P A] (env : SyncEnv)

include hpull

theorem emits_local {e : SyncEvent} (he : e.isLocal) :
    Prog.Keeps (EmitsOnly A) (Prog.emit e : SyncM Unit) := emits_emit (hpull.of_local e he)

theorem emits_sendLs (path : Bytes) : Prog.Keeps (EmitsOnly A) (sendLs env path) :=
  emits_request env (hpull.of_request _ (by split <;> decide) path)

/-! ## Receiving -/

theorem emits_adbUnlink (path : Bytes) : Prog.Keeps (EmitsOnly A) (adbUnlink path) :=
  emits_bind (emits_local rfl) fun _ => emits_modify _

theorem emits_adbCreat (path : Bytes) : Prog.Keeps (EmitsOnly A) (adbCreat env path) := by
  refine emits_bind emits_nextCall fun k => emits_bind (emits_local rfl) fun _ => ?_
  cases env.localError k with
  | some e => exact emits_bind (emits_setErrno e) fun _ => emits_pure false
  | none => exact emits_bind (emits_modify _) fun _ => emits_bind (emits_local rfl) fun _ =>
      emits_pure true

omit hpull in
theorem emits_writeLocal (path block : Bytes) :
    Prog.Keeps (EmitsOnly A) (writeLocal env path block) := by
  have happend : ∀ block, Prog.Keeps (EmitsOnly A) (appendFile path block) := fun block =>
    emits_bind emits_get fun _ => emits_modify _
  refine emits_bind emits_nextCall fun k => ?_
  cases env.localWrite k with
  | some r => exact emits_bind (happend _) fun _ => emits_bind (emits_setErrno _) fun _ =>
      emits_pure false
  | none => exact emits_bind (happend _) fun _ => emits_pure true

theorem emits_unlinkAndFail {α : Type} (path : Bytes) :
    Prog.Keeps (EmitsOnly A) (unlinkAndFail (α := α) path) :=
  emits_bind (emits_adbUnlink path) fun _ => emits_pure _

/-- The text of a failed write. -/
theorem emits_cannotWrite {α : Type} (text path : Bytes) (p : SyncM α)
    (hp : Prog.Keeps (EmitsOnly A) p) :
    Prog.Keeps (EmitsOnly A) (do
      error (text ++ (← strerrno env))
      adbUnlink path
      p) :=
  emits_bind (emits_strerrno env) fun _ => emits_bind (emits_error _) fun _ =>
    emits_bind (emits_adbUnlink path) fun _ => hp

theorem emits_decodeLoop (lpath : Bytes) : Prog.Keeps (EmitsOnly A) (decodeLoop env lpath) := by
  have hdecode : Prog.Keeps (EmitsOnly A) decode :=
    emits_bind emits_get fun _ => emits_bind (emits_modify _) fun _ => emits_pure _
  refine emits_bind emits_get fun c => .loop emits_composes (fun _ =>
    emits_bind hdecode fun ⟨result, output⟩ => .ite (fun _ => ?_) fun _ => ?_) _ _
  · exact emits_bind (emits_error _) fun _ => emits_bind (emits_adbUnlink _) fun _ => emits_pure _
  · refine emits_bind (emits_local rfl) fun _ => emits_bind (.ite (fun _ => emits_pure true)
      fun _ => emits_writeLocal env _ _) fun ok => .ite (fun _ => ?_) fun _ => ?_
    · exact emits_cannotWrite env _ _ _ (emits_pure _)
    · cases result <;> exact emits_pure _

/-- What a receiver does with a failure that the device reports. -/
theorem emits_unlinkAndReport {α : Type} (rpath lpath : Bytes) (size : UInt32) (r : α) :
    Prog.Keeps (EmitsOnly A) (do
      adbUnlink lpath
      reportCopyFailure env rpath lpath size
      return r) :=
  emits_bind (emits_adbUnlink _) fun _ => emits_bind (emits_reportCopyFailure env _ _ _) fun _ =>
    emits_pure r

theorem emits_syncRecvV1Round (rpath lpath : Bytes) :
    Prog.Keeps (EmitsOnly A) (syncRecvV1Round env rpath lpath) := by
  refine emits_bind (emits_readFdExactly env _) fun ⟨ok, msg⟩ => .ite (fun _ =>
    emits_unlinkAndFail _) fun _ => emits_bind (emits_local rfl) fun _ => .ite (fun _ =>
      emits_pure _) fun _ => .ite (fun _ => emits_unlinkAndReport env _ _ _ _) fun _ =>
        .ite (fun _ => ?_) fun _ => ?_
  -- What is left is a block that is too large, and one that fits.
  · exact emits_bind (emits_error _) fun _ => emits_unlinkAndFail _
  · refine emits_bind (emits_local rfl) fun _ => emits_bind (emits_readFdExactly env _)
      fun ⟨ok, block⟩ => .ite (fun _ => emits_unlinkAndFail _) fun _ => ?_
    refine emits_bind (emits_local rfl) fun _ =>
      emits_bind (emits_writeLocal env _ _) fun ok =>
      .ite (fun _ => emits_pure _) fun _ => ?_
    exact emits_bind (emits_strerrno env) fun _ => emits_bind (emits_error _) fun _ =>
      emits_unlinkAndFail _

theorem emits_syncRecvV2Round (rpath lpath : Bytes) (finished : Bool) :
    Prog.Keeps (EmitsOnly A) (syncRecvV2Round env rpath lpath finished) := by
  refine emits_bind (emits_readFdExactly env _) fun ⟨ok, msg⟩ => .ite (fun _ =>
    emits_unlinkAndFail _) fun _ => emits_bind (emits_local rfl) fun _ => .ite (fun _ =>
      .ite (fun _ => ?_) fun _ => ?_) fun _ => .ite (fun _ =>
        emits_unlinkAndReport env _ _ _ _) fun _ => .ite (fun _ => ?_) fun _ => ?_
  · exact emits_bind (emits_error _) fun _ => emits_pure _
  · refine emits_bind (emits_decodeLoop env lpath) fun r => ?_
    cases r with
    | none => exact emits_pure _
    | some success => exact emits_pure _
  · exact emits_bind (emits_error _) fun _ => emits_unlinkAndFail _
  · refine emits_bind (emits_local rfl) fun _ => emits_bind (emits_readFdExactly env _)
      fun ⟨ok, block⟩ => .ite (fun _ => emits_unlinkAndFail _) fun _ =>
        emits_bind (emits_decodeLoop env lpath) fun r => ?_
    cases r with
    | none => exact emits_pure _
    | some success => exact emits_pure _

/-- A receiver whose request is sent creates the file and goes round its loop. -/
theorem emits_createAndReceive {request : SyncM Bool} (hrequest : Prog.Keeps (EmitsOnly A) request)
    (lpath text : Bytes) {loop : SyncConnection → SyncM Bool}
    (hloop : ∀ c, Prog.Keeps (EmitsOnly A) (loop c)) :
    Prog.Keeps (EmitsOnly A) (do
      if ← request then
        adbUnlink lpath
        if ← adbCreat env lpath then
          let c ← Prog.get
          loop c
        else
          error (text ++ (← strerrno env))
          return false
      else return false) := by
  refine emits_bind hrequest fun ok => .ite (fun _ => emits_bind (emits_adbUnlink _) fun _ =>
    emits_bind (emits_adbCreat env _) fun ok => .ite (fun _ => emits_bind emits_get hloop)
      fun _ => ?_) fun _ => emits_pure false
  exact emits_bind (emits_strerrno env) fun _ => emits_bind (emits_error _) fun _ =>
    emits_pure false

theorem emits_sendRecv2 (path : Bytes) (compression : CompressionType) :
    Prog.Keeps (EmitsOnly A) (sendRecv2 env path compression) := by
  refine .ite (fun _ => ?_) fun hle => ?_
  · exact emits_bind (emits_error _) fun _ => emits_bind (emits_setErrno _) fun _ =>
      emits_pure false
  · have hwrite : Prog.Keeps (EmitsOnly A)
        (writeFdExactly env [.request .recvV2 path, .recvV2Setup compression.flags]) :=
      emits_wrote env (hpull.of_recvV2 path _ (Nat.not_lt.mp hle))
    exact .ite (fun _ => emits_bind (emits_local rfl) fun _ => hwrite) fun _ => hwrite

theorem emits_syncRecv (rpath lpath : Bytes) (compression : CompressionType) :
    Prog.Keeps (EmitsOnly A) (syncRecv env rpath lpath compression) := by
  refine .ite (fun _ => ?_) fun _ => ?_
  · exact emits_createAndReceive env (emits_sendRecv2 env _ _) lpath _ fun c =>
      .loop emits_composes (emits_syncRecvV2Round env rpath lpath) _ _
  · exact emits_createAndReceive env
      (emits_request env (hpull.of_request .recvV1 (by decide) rpath)) lpath _ fun c =>
        .loop emits_composes (fun _ => emits_syncRecvV1Round env rpath lpath) _ _

/-! ## Listing -/

/-- A listing keeps what its callback keeps. -/
theorem emits_finishLs {β : Type} {callback : β → Dent → SyncM β}
    (hcallback : ∀ acc d, Prog.Keeps (EmitsOnly A) (callback acc d)) (acc : β) :
    Prog.Keeps (EmitsOnly A) (finishLs env callback acc) := by
  have hstart : Prog.Keeps (EmitsOnly A) startReply := emits_bind emits_get fun _ => emits_local rfl
  refine emits_bind hstart fun _ => emits_bind emits_get fun c =>
    .loop emits_composes (fun acc => ?_) _ _
  refine emits_bind (emits_readFdExactly env _) fun ⟨ok, dent⟩ => .ite (fun _ => emits_pure _)
    fun _ => .ite (fun _ => emits_pure _) fun _ => .ite (fun _ => emits_pure _) fun _ =>
      .ite (fun _ => emits_pure _) fun _ => ?_
  refine emits_bind (emits_local rfl) fun _ => emits_bind (emits_readFdExactly env _)
    fun ⟨ok, buf⟩ => .ite (fun _ => emits_pure _) fun _ => ?_
  exact emits_bind (emits_local rfl) fun _ => .ite (fun _ => emits_pure _) fun _ =>
    emits_bind (hcallback acc _) fun acc => emits_pure _

theorem emits_pushBack (listed : Bool) (ci : CopyInfo) (fileList : List CopyInfo) :
    Prog.Keeps (EmitsOnly A) (pushBack listed ci fileList) :=
  emits_bind (emits_local rfl) fun _ => emits_pure _

/-- The callback puts the name behind the paths of the directory. -/
theorem emits_remoteCallback {rpath lpath : Bytes} (hr : A (.back rpath)) (hl : A (.back lpath))
    (lists : RemoteLists) (d : Dent) :
    Prog.Keeps (EmitsOnly A) (remoteCallback rpath lpath lists d) := by
  refine .ite (fun _ => emits_pure _) fun _ => emits_bind (emits_copyInfo hl hr _ _) fun ci =>
    .ite (fun _ => emits_pure _) fun _ => .ite (fun _ => emits_pure _) fun _ => .ite (fun _ => ?_)
      fun _ => ?_
  · exact emits_bind (emits_local rfl) fun _ => emits_bind (emits_pushBack _ _ _) fun _ =>
      emits_pure _
  · exact emits_bind (emits_pushBack _ _ _) fun _ => emits_pure _

theorem emits_resolveLink (lists : RemoteLists) (link : CopyInfo) :
    Prog.Keeps (EmitsOnly A) (resolveLink env lists link) := by
  refine emits_bind (emits_syncStatFallback env hpull.stat _) fun r => ?_
  cases r with
  | none =>
    exact emits_bind (emits_strerrno env) fun _ => emits_bind (emits_local rfl) fun _ =>
      emits_pure _
  | some st =>
    exact .ite (fun _ => emits_pure _) fun _ => emits_bind (emits_pushBack _ _ _) fun _ =>
      emits_pure _

/-- The walk goes into directories that have paths. -/
theorem emits_remoteBuildListTo (depth : ℕ) : ∀ (fileList : List CopyInfo) {rpath lpath : Bytes},
    rpath ≠ [] → lpath ≠ [] →
      Prog.Keeps (EmitsOnly A) (remoteBuildListTo env depth fileList rpath lpath) := by
  induction depth with
  | zero => exact fun _ _ _ _ _ => .exit emits_composes _
  | succ depth ih =>
    intro fileList rpath lpath hr hl
    -- The induction is on the depth: the listing and the links keep the names in the lists, so the
    -- directories that the walk goes into have some.
    have hls : ∀ lists,
        Prog.Keeps (EmitsOnly A) (syncLs env rpath (remoteCallback rpath lpath) lists) :=
      fun lists => emits_bind (emits_sendLs env rpath) fun _ =>
        .ite (fun _ => emits_finishLs env (emits_remoteCallback (AllowsWalk.of_back _ hr)
          (AllowsWalk.of_back _ hl)) lists) fun _ => emits_pure _
    have hnamed : ∀ {lists : RemoteLists}, lists.Named →
        Prog.Yields (syncLs env rpath (remoteCallback rpath lpath) lists) fun r => r.2.Named :=
      fun h => .bind (.trivial _) fun _ _ =>
        .ite (fun _ => finishLs_yields env (fun _ d h => remoteCallback_named rpath lpath h d) h)
          fun _ => .pure h
    refine emits_bind (emits_copyInfo (AllowsWalk.of_back _ (dirname_ne_nil _))
      (AllowsWalk.of_back _ (dirname_ne_nil _)) _ _) fun ci =>
      emits_bind (emits_pushBack _ _ _) fun fileList => ?_
    have hempty : RemoteLists.Named ⟨fileList, [], []⟩ :=
      ⟨fun _ h => absurd h List.not_mem_nil, fun _ h => absurd h List.not_mem_nil⟩
    refine .bind_of_yields emits_composes (hls _) (hnamed hempty) fun ⟨ok, lists⟩ hlists =>
      .ite (fun _ => emits_pure _) fun _ => ?_
    have hlinks : Prog.Yields (Prog.foldM (resolveLink env) lists lists.linklist)
        RemoteLists.Named :=
      .foldM (fun _ link hmem h => resolveLink_named env h (hlists.2 link hmem)) lists hlists
    refine .bind_of_yields emits_composes (.foldM emits_composes
      (fun lists link _ => emits_resolveLink env lists link) lists) hlinks fun lists hlists => ?_
    refine .foldM emits_composes (fun r current hmem => .ite (fun _ => ?_) fun _ => emits_pure _) _
    obtain ⟨hl, hr⟩ := hlists.1 current (List.mem_reverse.mp hmem)
    exact ih r.2 hr hl

/-! ## Pulling -/

theorem emits_localCall (op : LocalOp) (path : Bytes) :
    Prog.Keeps (EmitsOnly A) (localCall env op path) := by
  refine emits_bind emits_nextCall fun k => emits_bind (emits_local rfl) fun _ => ?_
  cases env.localError k with
  | some e => exact emits_bind (emits_setErrno e) fun _ => emits_pure false
  | none => exact emits_pure true

theorem emits_setTimeAndMode (lpath : Bytes) (time : ℤ) (mode : UInt32) :
    Prog.Keeps (EmitsOnly A) (setTimeAndMode env lpath time mode) :=
  emits_bind (emits_localCall env _ _) fun _ => emits_bind (emits_localCall env _ _) fun _ =>
    emits_pure _

theorem emits_pullEntry (copyAttrs : Bool) (compression : CompressionType) (ci : CopyInfo) :
    Prog.Keeps (EmitsOnly A) (pullEntry env copyAttrs compression ci) := by
  refine .ite (fun _ => emits_pure true) fun _ => .ite (fun _ => ?_) fun _ => ?_
  · exact emits_bind (emits_localCall env _ _) fun ok => .ite (fun _ => emits_pure true) fun _ =>
      emits_bind (emits_strerrno env) fun _ => emits_bind (emits_captureError _) fun _ =>
        emits_pure false
  · exact emits_bind (emits_syncRecv env _ _ _) fun ok => .ite (fun _ => .ite (fun _ =>
      emits_setTimeAndMode env _ _ _) fun _ => emits_pure true) fun _ => emits_pure false

/-- `copy_remote_dir_local` looks at the ends of its two paths. -/
theorem emits_copyRemoteDirLocal {rpath lpath : Bytes} (hr : A (.back rpath))
    (hl : A (.back lpath)) (copyAttrs : Bool) (compression : CompressionType) :
    Prog.Keeps (EmitsOnly A) (copyRemoteDirLocal env rpath lpath copyAttrs compression) := by
  have hlist : Prog.Keeps (EmitsOnly A)
      (remoteBuildList env [] (withSeparator rpath) (withSeparator lpath)) :=
    emits_bind emits_get fun c => emits_remoteBuildListTo env _ [] (withSeparator_ne_nil _)
      (withSeparator_ne_nil _)
  refine emits_ensure_bind hl hr (emits_bind (emits_local rfl) fun _ =>
    emits_bind (emits_local rfl) fun _ => emits_bind hlist fun r =>
      .ite (fun _ => emits_pure false)
      fun _ => ?_)
  exact .allM emits_composes fun ci _ => emits_pullEntry env copyAttrs compression ci

theorem emits_captureErrorLine (text : Bytes) : Prog.Keeps (EmitsOnly A) (captureErrorLine text) :=
  emits_bind (emits_local rfl) fun _ => emits_error text

theorem emits_pullSource {dst src : Bytes} (dstStat : Option Stat) (copyAttrs : Bool)
    (compression : CompressionType) (hsrc : A (.back src)) (hdst : A (.back dst)) :
    Prog.Keeps (EmitsOnly A) (pullSource env dst dstStat copyAttrs compression src) := by
  have hbelow : A (.back (withSeparator dst ++ basename src)) :=
    AllowsWalk.of_back _ (List.append_ne_nil_of_left_ne_nil (withSeparator_ne_nil dst) _)
  refine emits_bind (emits_syncStatFallback env hpull.stat src) fun r => ?_
  cases r with
  | none =>
    refine emits_bind emits_get fun c => .ite (fun _ => ?_) fun _ => ?_
    · exact emits_bind (emits_captureErrorLine _) fun _ => emits_pure _
    · exact emits_bind (emits_strerrno env) fun _ =>
        emits_bind (emits_captureErrorLine _) fun _ =>
        emits_pure _
  | some st =>
    refine .ite (fun _ => .ite (fun _ => .ite (fun _ => ?_) fun _ => ?_) fun _ => ?_) fun _ =>
      .ite (fun _ => ?_) fun _ => ?_
    · exact emits_bind (emits_captureErrorLine _) fun _ => emits_pure none
    · exact emits_bind (emits_emit hdst) fun _ =>
        .map (emits_copyRemoteDirLocal env hsrc hbelow _ _) _
    · exact .map (emits_copyRemoteDirLocal env hsrc hdst _ _) _
    · exact emits_bind (emits_local rfl) fun _ => emits_pure _
    · exact emits_bind (emits_syncRecv env _ _ _) fun ok => .ite (fun _ => .ite (fun _ =>
        .map (emits_setTimeAndMode env _ _ _) _) fun _ => emits_pure _) fun _ => emits_pure _

theorem emits_pullSources {dst : Bytes} (dstStat : Option Stat) (copyAttrs : Bool)
    (compression : CompressionType) {srcs : List Bytes}
    (hsrcs : ∀ src ∈ srcs, A (.back src)) (hdst : A (.back dst)) : ∀ success,
      Prog.Keeps (EmitsOnly A)
        (pullSources env dst dstStat copyAttrs compression success srcs) := by
  induction srcs with
  | nil => exact fun success => emits_pure success
  | cons src srcs ih =>
    intro success
    refine emits_bind (emits_pullSource env dstStat copyAttrs compression
      (hsrcs src List.mem_cons_self) hdst) fun r => ?_
    cases r with
    | none => exact emits_pure false
    | some ok => exact ih (fun src hsrc => hsrcs src (List.mem_cons_of_mem _ hsrc)) _

omit hpull in
theorem emits_localStat : Prog.Keeps (EmitsOnly A) (localStat env) := by
  refine emits_bind emits_nextCall fun k => ?_
  cases env.localStat k with
  | error e => exact emits_bind (emits_setErrno e) fun _ => emits_pure none
  | ok st => exact emits_pure _

theorem emits_statDestination (sources : ℕ) (dst : Bytes) :
    Prog.Keeps (EmitsOnly A) (statDestination env sources dst) := by
  have hfail : ∀ text, Prog.Keeps (EmitsOnly A) (do
      captureError (text ++ (← strerrno env))
      return none : SyncM (Option (Option Stat))) := fun text =>
    emits_bind (emits_strerrno env) fun _ => emits_bind (emits_captureError _) fun _ =>
      emits_pure none
  refine emits_bind (emits_localStat env) fun r => ?_
  cases r with
  | some st => exact emits_pure _
  | none =>
    -- A single source may go to a path that does not exist yet, if its directory does.
    refine emits_bind emits_get fun c =>
      .ite (fun _ => emits_bind (emits_localStat env) fun r => ?_)
      fun _ => hfail _
    cases r with
    | some st => exact emits_pure _
    | none => exact hfail _

/-- A pull looks at the ends of the sources and of the destination. -/
theorem emits_doSyncPull {srcs : List Bytes} {dst : Bytes} (copyAttrs : Bool)
    (compression : CompressionType) (hsrcs : ∀ src ∈ srcs, A (.back src)) (hdst : A (.back dst)) :
    Prog.Keeps (EmitsOnly A) (doSyncPull env srcs dst copyAttrs compression) := by
  have hcheck : ∀ dstExists, Prog.Keeps (EmitsOnly A) (checkDestination srcs.length dst dstExists) :=
    fun dstExists => .ite (fun _ => emits_bind (emits_captureError _) fun _ => emits_pure false)
      fun _ => emits_bind (emits_emit hdst) fun _ => .ite (fun _ =>
        emits_bind (emits_captureError _) fun _ => emits_pure false) fun _ => emits_pure true
  refine emits_bind (emits_statDestination env _ _) fun r => ?_
  cases r with
  | none => exact emits_pure false
  | some dstStat =>
    have hsources := emits_pullSources env dstStat copyAttrs compression hsrcs hdst true
    exact .ite (fun _ => hsources) fun _ => emits_bind (hcheck _) fun _ =>
      .ite (fun _ => hsources) fun _ => emits_pure false

end Pull

end AdbMobile.Sync
