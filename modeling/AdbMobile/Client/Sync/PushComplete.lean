import AdbMobile.Client.Sync.InTurn

/-!
# A push that reports success

`do_sync_push` folds its result from a walk, the sends, the answers that arrive late, and a last
round of reading answers. Where it returns true, each file that the walk found was sent in full and
has an answer `ID_OKAY` of its own, or its timestamp matched (`push_complete_iff`). Each part of a
push is proved to add so much to the ledger, and to keep account of what is outstanding (`Pushes`).

What the walk could not examine does not count: `local_build_list` drops an entry that `lstat` fails
on, and its recursion drops the result for a subdirectory. So a push that returns true has pushed
everything exactly if everything under its sources can be examined.
-/

namespace AdbMobile.Sync

open ByteString PosixPath
open scoped List

/-! ## What a push is to do -/

/-- The data that carry a file: the text of a link with a NUL after it, the contents that were read,
or all blocks, as they are or as the encoder has them. -/
inductive LocalFile.Yields (env : SyncEnv) (mode : UInt32) (dryRun : Bool) (f : LocalFile) :
    Bytes → Prop
  | link {target : Bytes} (hmode : isLnk mode) (hdry : dryRun = false) (htarget : f.target = .ok target) :
    f.Yields env mode dryRun (target ++ [0])
  | whole {data : Bytes} (hmode : isLnk mode = false) (hdry : dryRun = false)
    (hcontents : f.contents = .ok data) : f.Yields env mode dryRun data
  | blocks (hv2 : env.haveSendrecvV2 = false) (hread : f.readError = none) :
    f.Yields env mode dryRun f.blocks.flatten
  | encoded (hv2 : env.haveSendrecvV2) (hread : f.readError = none)
    (hruns : ∀ i ≤ f.blocks.length, (f.encodes i).fails = false) :
    f.Yields env mode dryRun
      ((List.range (f.blocks.length + 1)).flatMap fun i => (f.encodes i).outputs.flatten)

/-- The messages send a file in full: a request, all of its data, and the end. -/
def SentInFull (env : SyncEnv) (dryRun : Bool) (rpath : Bytes) (mode mtime : UInt32) (f : LocalFile)
    (ms : List SyncMessage) : Prop :=
  ∃ (head : List SyncMessage) (blocks : List Bytes),
    ms = head ++ blocks.map .data ++ [.done mtime] ∧
    (head = [.request .sendV1 (pathAndMode rpath mode)] ∨
      ∃ flags, head = [.request .sendV2 rpath, .sendV2Setup mode flags]) ∧
    f.Yields env mode dryRun blocks.flatten

/-- The messages send a file of the list in full. -/
def Listed.SentBy (env : SyncEnv) (dryRun : Bool) (l : Listed) (ms : List SyncMessage) : Prop :=
  SentInFull env dryRun l.ci.rpath l.ci.mode (.ofInt l.ci.time) l.file ms

/-- The paths of a file of the list. -/
def Listed.paths (l : Listed) : Bytes × Bytes := (l.ci.lpath, l.ci.rpath)

/-- Where the source goes. -/
def LocalSource.target (dst : Bytes) (dstStat : Option Stat) (src : LocalSource) : Bytes :=
  if dstStat.any fun st => isDir st.mode then withSeparator dst ++ basename src.path else dst

/-- The regular files and links under a source, with the paths that they are to get. -/
def LocalSource.found (dst : Bytes) (dstStat : Option Stat) (src : LocalSource) : List Listed :=
  match src.stat with
  | .error _ => []
  | .ok st =>
    if isDir st.mode then
      (src.tree.found (withSeparator src.path) (withSeparator (src.target dst dstStat))).filter
        fun l => shouldPushFile l.ci.mode
    else if shouldPushFile st.mode then
      [⟨{ lpath := src.path, rpath := src.target dst dstStat, time := st.mtime, mode := st.mode },
        src.file⟩]
    else []

/-- Everything under a source can be examined. -/
def LocalSource.Readable (src : LocalSource) : Prop :=
  ∃ st, src.stat = .ok st ∧ (isDir st.mode → src.tree.Readable)

/-- Each of the files was sent in full and acknowledged, or its timestamp matched. -/
def AllPushed (env : SyncEnv) (dryRun : Bool) (files : List Listed) (t : List SyncEvent) : Prop :=
  ∃ sent matched : List Listed, (sent ++ matched).Perm files ∧
    (ledger t).sent = sent.map Listed.paths ∧ (ledger t).acknowledged = sent.map Listed.paths ∧
    (ledger t).matched = matched.map Listed.paths ∧
    ∃ transfers, List.Forall₂ (Listed.SentBy env dryRun) sent transfers ∧
      (ledger t).messages = transfers.flatten

/-! ## Keeping account -/

/-- A part of a push adds this to the ledger, and the answers that it has read are those of the
files that were outstanding or that it has sent. -/
structure Pushes (l : Ledger) (c : SyncConnection) (t : List SyncEvent) (c' : SyncConnection) :
    Prop where
  ordered : c.Ordered → c'.Ordered
  adds : { ledger t with acknowledged := [] } = l
  queue : c.deferred ++ (ledger t).sent = (ledger t).acknowledged ++ c'.deferred

theorem Pushes.append {l l' : Ledger} {c c' c'' : SyncConnection} {t t' : List SyncEvent}
    (h : Pushes l c t c') (h' : Pushes l' c' t' c'') : Pushes (l ++ l') c (t ++ t') c'' where
  ordered hc := h'.ordered (h.ordered hc)
  adds := by
    rw [← h.adds, ← h'.adds, ledger_append]
    rfl
  queue := by
    rw [ledger_append, ledger_sent_append, ledger_acknowledged_append, ← List.append_assoc, h.queue,
      List.append_assoc, h'.queue, List.append_assoc]

/-- A run that leaves the queue, and says nothing of files sent and acknowledged. -/
theorem SameQueue.pushes {l : Ledger} {c c' : SyncConnection} {t : List SyncEvent}
    (h : SameQueue c c') (hledger : ledger t = l) (hsent : l.sent = []) (hacknowledged : l.acknowledged = []) :
    Pushes l c t c' where
  ordered := h.ordered
  adds := by
    rw [hledger]
    ext1 <;> simp [hacknowledged]
  queue := by rw [hledger, hsent, hacknowledged, h.1, List.append_nil, List.nil_append]

theorem pushes_nil (c : SyncConnection) : Pushes {} c [] c :=
  SameQueue.pushes ⟨rfl, rfl⟩ rfl rfl rfl

/-- A run of requests and replies: it leaves the queue, and adds nothing to the ledger. -/
abbrev Quiet (c : SyncConnection) (t : List SyncEvent) (c' : SyncConnection) : Prop :=
  SameQueue c c' ∧ ledger t = {}

theorem quiet_composes : Prog.Composes Quiet where
  nil _ := ⟨⟨rfl, rfl⟩, rfl⟩
  append h h' := ⟨h.1.trans h'.1, by rw [ledger_append, h.2, h'.2, Ledger.append_empty]⟩

theorem Quiet.pushes {c c' : SyncConnection} {t : List SyncEvent} (h : Quiet c t c') :
    Pushes {} c t c' := h.1.pushes h.2 rfl rfl

section Quiet

variable (env : SyncEnv)

theorem quiet_pure {α : Type} (a : α) : Prog.Keeps Quiet (pure a : SyncM α) :=
    .pure quiet_composes a

theorem quiet_bind {α β : Type} {p : SyncM α} {f : α → SyncM β} (hp : Prog.Keeps Quiet p)
    (hf : ∀ a, Prog.Keeps Quiet (f a)) : Prog.Keeps Quiet (p >>= f) := .bind quiet_composes hp hf

theorem quiet_emit {e : SyncEvent} (he : e.ledger = {}) :
    Prog.Keeps Quiet (Prog.emit e : SyncM Unit) := fun _ => ⟨⟨rfl, rfl⟩, by simp [he]⟩

theorem quiet_setErrno (e : Errno) : Prog.Keeps Quiet (setErrno e) := fun _ => ⟨⟨rfl, rfl⟩, rfl⟩

theorem quiet_error (text : Bytes) : Prog.Keeps Quiet (error text) := quiet_emit rfl

theorem quiet_captureError (text : Bytes) : Prog.Keeps Quiet (captureError text) :=
  quiet_bind (quiet_emit rfl) fun _ => quiet_error text

theorem quiet_readFdExactly (n : ℕ) : Prog.Keeps Quiet (readFdExactly env n) := fun c => by
  obtain ⟨r, -, htrace, hback⟩ := readFdExactly_runs env n c
  exact ⟨⟨hback.deferred, hback.ackBuffer⟩, by rw [htrace]; rfl⟩

theorem quiet_writeFdExactly {ms : List SyncMessage} (hms : ms.filter SyncMessage.isTransfer = []) :
    Prog.Keeps Quiet (writeFdExactly env ms) := fun c => by
  obtain ⟨ok, -, htrace, hback⟩ := writeFdExactly_runs env ms c
  refine ⟨⟨hback.deferred, hback.ackBuffer⟩, ?_⟩
  rw [htrace]
  cases ok with
  | false => rfl
  | true => simp [SyncEvent.ledger, hms]

/-- A request that is not one for a transfer. -/
theorem quiet_sendRequest {id : SyncId} (path : Bytes) (hid : id ≠ .sendV1 ∧ id ≠ .sendV2) :
    Prog.Keeps Quiet (sendRequest env id path) :=
  .ite (fun _ => quiet_bind (quiet_error _) fun _ => quiet_bind (quiet_setErrno _) fun _ =>
    quiet_pure false) fun _ => quiet_writeFdExactly env (by simp [SyncMessage.isTransfer, hid])

theorem quiet_sendLstat (path : Bytes) : Prog.Keeps Quiet (sendLstat env path) :=
  .ite (fun _ => quiet_sendRequest env path (by decide)) fun _ =>
    quiet_sendRequest env path (by decide)

theorem quiet_finishStat : Prog.Keeps Quiet (finishStat env) := by
  have hlog : ∀ fault text, Prog.Keeps Quiet (logFatalIf fault text) := fun fault text =>
    .ite (fun _ => quiet_emit rfl) fun _ => quiet_pure ()
  have hfail : ∀ e, Prog.Keeps Quiet (do
      setErrno e
      return none : SyncM (Option Stat)) := fun e =>
    quiet_bind (quiet_setErrno e) fun _ => quiet_pure none
  have hstart : Prog.Keeps Quiet startReply := fun _ => ⟨⟨rfl, rfl⟩, rfl⟩
  refine quiet_bind hstart fun _ => .ite (fun _ => ?_) fun _ => ?_
  · exact quiet_bind (quiet_readFdExactly env _) fun ⟨ok, msg⟩ => quiet_bind (hlog _ _) fun _ =>
      quiet_bind (hlog _ _) fun _ => .ite (fun _ => hfail _) fun _ => quiet_pure _
  · exact quiet_bind (quiet_readFdExactly env _) fun ⟨ok, msg⟩ => quiet_bind (hlog _ _) fun _ =>
      quiet_bind (hlog _ _) fun _ => .ite (fun _ => hfail _) fun _ => quiet_pure _

theorem quiet_syncLstat (path : Bytes) : Prog.Keeps Quiet (syncLstat env path) :=
  quiet_bind (quiet_sendLstat env path) fun _ => .ite (fun _ => quiet_finishStat env) fun _ =>
    quiet_pure none

theorem quiet_mkdirDirectories (cmd : Bytes) (dirs : List Bytes) :
    Prog.Keeps Quiet (mkdirDirectories env cmd dirs) := fun c =>
  ⟨(mute_mkdirDirectories env cmd dirs c).1,
    ledger_eq_empty fun e he => ((mute_mkdirDirectories env cmd dirs c).2 e he).2⟩

/-- The destination is asked for. -/
theorem quiet_syncStatFallback (path : Bytes) : Prog.Keeps Quiet (syncStatFallback env path) := by
  have hstat : Prog.Keeps Quiet (syncStat env path) := by
    refine quiet_bind (.ite (fun _ => quiet_sendRequest env path (by decide)) fun _ => ?_) fun _ =>
      .ite (fun _ => quiet_finishStat env) fun _ => quiet_pure none
    exact quiet_bind (quiet_setErrno _) fun _ => quiet_pure false
  refine quiet_bind hstat fun r => ?_
  cases r with
  | some st => exact quiet_pure _
  | none =>
    refine quiet_bind (.get quiet_composes) fun c => .ite (fun _ => quiet_pure none) fun _ =>
      quiet_bind (quiet_syncLstat env path) fun r => ?_
    cases r with
    | none => exact quiet_pure none
    | some st =>
      refine .ite (fun _ => quiet_bind (quiet_syncLstat env _) fun r => ?_) fun _ => quiet_pure _
      cases r <;> exact quiet_pure _

end Quiet

section Send

variable (env : SyncEnv)

/-! ## Sending a file -/

/-- What a run that returns false is to ensure where it returns true. -/
theorem ensures_of_false {p : SyncM Bool} {c : SyncConnection}
    {Q : SyncConnection → List SyncEvent → Prop} (h : (p c).result = .ok false) :
    Prog.Ensures p c fun ok c' t => ok = true → Q c' t := by
  intro ok hok
  obtain rfl := Except.ok.inj (h.symm.trans hok)
  exact fun h => by cases h

/-- A write adds those of its messages that are of a transfer. -/
theorem pushes_wrote {ms : List SyncMessage} (hms : ms.filter SyncMessage.isTransfer = ms)
    {c c' : SyncConnection} (h : SameQueue c c') : Pushes { messages := ms } c [.wrote ms] c' :=
  h.pushes (by rw [ledger_cons, ledger_nil, Ledger.append_empty, SyncEvent.ledger, hms]) rfl rfl

/-- `WriteOrDie` returns only where it has written the messages. -/
theorem writeOrDie_wrote (lpath rpath : Bytes) (ms : List SyncMessage) (c : SyncConnection) :
    Prog.Ensures (writeOrDie env lpath rpath ms) c fun ok c' t =>
      ok = true ∧ t = [.wrote ms] ∧ SameQueue c c' := by
  refine (writeFdExactly_runs env ms c).ensures.bind fun ok c₁ t₁ ⟨ht₁, hback⟩ => ?_
  subst ht₁
  cases ok with
  | true => exact .pure ⟨rfl, rfl, hback.deferred, hback.ackBuffer⟩
  | false =>
    -- The process has ended before the function returns.
    refine .get_bind (.ite (fun _ => .bind (.trivial _ _) fun ⟨ok, msg⟩ _ _ _ => .ite (fun _ => ?_) fun _ => ?_)
      fun _ => ?_)
    · exact .bind (.trivial _ _) fun _ _ _ _ => .bind (.trivial _ _) fun _ _ _ _ => .exit _
    · refine .bind (.trivial _ _) fun _ _ _ _ => .ite (fun _ => ?_) fun _ => ?_
      · exact .bind (.trivial _ _) fun _ _ _ _ => .exit _
      · exact .bind (.trivial _ _) fun _ _ _ _ => .exit _
    · exact .bind (.trivial _ _) fun _ _ _ _ => .bind (.trivial _ _) fun _ _ _ _ => .exit _

theorem writeOrDie_ensures (lpath rpath : Bytes) {ms : List SyncMessage}
    (hms : ms.filter SyncMessage.isTransfer = ms) (c : SyncConnection) :
    Prog.Ensures (writeOrDie env lpath rpath ms) c fun _ c' t =>
      Pushes { messages := ms } c t c' := by
  refine (writeOrDie_wrote env lpath rpath ms c).mono fun ok c' t ⟨_, ht, hqueue⟩ => ?_
  subst ht
  exact pushes_wrote hms hqueue

theorem sendBlocks_ensures (lpath rpath : Bytes) (blocks : List Bytes) : ∀ c,
    Prog.Ensures (sendBlocks env lpath rpath blocks) c fun _ c' t =>
      Pushes { messages := blocks.map .data } c t c' := by
  induction blocks with
  | nil => exact fun c => .pure (pushes_nil c)
  | cons block blocks ih =>
    intro c
    have hdata : [SyncMessage.data block].filter SyncMessage.isTransfer = [.data block] := rfl
    refine (writeOrDie_ensures env lpath rpath hdata c).bind fun _ c₁ t₁ h₁ => ?_
    exact (ih c₁).mono fun _ c₂ t₂ h₂ => h₁.append h₂

/-- A file that was sent is outstanding. -/
theorem recordFileSent_ensures (lpath rpath : Bytes) (c : SyncConnection) :
    Prog.Ensures (recordFileSent lpath rpath) c fun _ c' t =>
      Pushes { sent := [(lpath, rpath)] } c t c' := by
  intro u _
  refine ⟨fun hc => ?_, rfl, rfl⟩
  exact fun h => absurd h (List.append_ne_nil_of_right_ne_nil _ (List.cons_ne_nil _ _))

theorem finishLargeFile_ensures (lpath rpath : Bytes) (mtime : UInt32) (c : SyncConnection) :
    Prog.Ensures (finishLargeFile env lpath rpath mtime) c fun _ c' t =>
      Pushes { sent := [(lpath, rpath)], messages := [.done mtime] } c t c' := by
  refine (recordFileSent_ensures lpath rpath c).bind fun _ c₁ t₁ h₁ => ?_
  exact (writeOrDie_ensures env lpath rpath rfl c₁).mono fun _ c₂ t₂ h₂ => h₁.append h₂

/-- Where sending a file succeeds, it was sent in full, and it is outstanding. -/
abbrev SendsFile (dryRun : Bool) (lpath rpath : Bytes) (mode mtime : UInt32) (f : LocalFile)
    (p : SyncM Bool) (c : SyncConnection) : Prop :=
  Prog.Ensures p c fun ok c' t => ok = true → ∃ ms,
    Pushes { sent := [(lpath, rpath)], messages := ms } c t c' ∧
      SentInFull env dryRun rpath mode mtime f ms

/-- The request for a transfer of the first version. -/
theorem sendRequest_ensures (path : Bytes) (c : SyncConnection) :
    Prog.Ensures (sendRequest env .sendV1 path) c fun ok c' t =>
      ok = true → Pushes { messages := [.request .sendV1 path] } c t c' := by
  refine .ite (fun _ => ensures_of_false rfl) fun _ => ?_
  refine (writeFdExactly_runs env _ c).ensures.mono fun ok c' t ⟨ht, hback⟩ hok => ?_
  subst ht hok
  exact pushes_wrote rfl ⟨hback.deferred, hback.ackBuffer⟩

/-- The request for one of the second version. -/
theorem sendSend2_ensures (path : Bytes) (mode : UInt32) (compression : CompressionType)
    (dryRun : Bool) (c : SyncConnection) :
    Prog.Ensures (sendSend2 env path mode compression dryRun) c fun ok c' t => ok = true → ∃ flags,
      Pushes { messages := [.request .sendV2 path, .sendV2Setup mode flags] } c t c' := by
  have hwrite : ∀ flags c, Prog.Ensures
      (writeFdExactly env [.request .sendV2 path, .sendV2Setup mode flags]) c fun ok c' t =>
        ok = true → Pushes { messages := [.request .sendV2 path, .sendV2Setup mode flags] } c t c' := by
    intro flags c
    refine (writeFdExactly_runs env _ c).ensures.mono fun ok c' t ⟨ht, hback⟩ hok => ?_
    subst ht hok
    exact pushes_wrote rfl ⟨hback.deferred, hback.ackBuffer⟩
  refine .ite (fun _ => ensures_of_false rfl) fun _ => ?_
  dsimp only
  generalize (if dryRun then compression.flags ||| kSyncFlagDryRun else compression.flags) = flags
  refine .ite (fun _ => .emit_bind ?_) fun _ => ?_
  · have hlog : ∀ text, Pushes {} c [.logFatal text] c := fun text =>
      SameQueue.pushes ⟨rfl, rfl⟩ rfl rfl rfl
    exact (hwrite flags c).mono fun ok c' t h hok => ⟨flags, (hlog _).append (h hok)⟩
  · exact (hwrite flags c).mono fun ok c' t h hok => ⟨flags, h hok⟩

/-- A file that is opened is sent. -/
theorem openLargeFile_ensures (lpath : Bytes) (f : LocalFile) {send : SyncM Bool}
    {c : SyncConnection}
    {Q : SyncConnection → List SyncEvent → Prop}
    (hsend : Prog.Ensures send c fun ok c' t => ok = true → Q c' t) :
    Prog.Ensures (openLargeFile env lpath f send) c fun ok c' t => ok = true → Q c' t := by
  unfold openLargeFile
  cases f.statAgain with
  | error e => exact ensures_of_false rfl
  | ok st =>
    cases f.openError with
    | some e => exact ensures_of_false rfl
    | none => exact hsend

theorem sendLargeFileLegacy_ensures (rpath : Bytes) (mode : UInt32) (lpath : Bytes) (mtime : UInt32)
    (dryRun : Bool) (f : LocalFile) (hv2 : env.haveSendrecvV2 = false) (c : SyncConnection) :
    SendsFile env dryRun lpath rpath mode mtime f
      (sendLargeFileLegacy env rpath mode lpath rpath mtime f) c := by
  refine (sendRequest_ensures env (pathAndMode rpath mode) c).bind fun ok c₁ t₁ h₁ => ?_
  cases ok with
  | false => exact ensures_of_false rfl
  | true =>
    have h₁ := h₁ rfl
    refine openLargeFile_ensures env lpath f ?_
    refine (sendBlocks_ensures env lpath rpath f.blocks c₁).bind fun _ c₂ t₂ h₂ => ?_
    cases hread : f.readError with
    | some e => exact ensures_of_false rfl
    | none =>
      refine (finishLargeFile_ensures env lpath rpath mtime c₂).mono fun ok c₃ t₃ h₃ _ => ?_
      exact ⟨_, h₁.append (h₂.append h₃), _, f.blocks, (List.append_assoc ..).symm, .inl rfl,
        .blocks hv2 hread⟩

/-- The blocks that the encoder makes in one run. -/
def EncodeRun.blocks (run : EncodeRun) : List Bytes := run.outputs.filter (· ≠ [])

/-- What the encoder makes in one run is written, and the encoder has not failed. -/
theorem sendEncoded_ensures (lpath rpath : Bytes) (run : EncodeRun) (c : SyncConnection) :
    Prog.Ensures (sendEncoded env lpath rpath run) c fun ok c' t =>
      ok = true → Pushes { messages := run.blocks.map .data } c t c' ∧ run.fails = false := by
  refine (sendBlocks_ensures env lpath rpath run.blocks c).bind fun _ c₁ t₁ h₁ =>
    .ite (fun _ => ensures_of_false rfl) fun hfails => .pure fun _ =>
      ⟨?_, Bool.eq_false_iff.mpr hfails⟩
  rwa [List.append_nil]

/-- What the encoder makes of all blocks is written. -/
theorem allEncoded_ensures (lpath rpath : Bytes) (encodes : ℕ → EncodeRun) (is : List ℕ) : ∀ c,
    Prog.Ensures (Prog.allM (fun i => sendEncoded env lpath rpath (encodes i)) is) c fun ok c' t =>
      ok = true → Pushes { messages := (is.flatMap fun i => (encodes i).blocks).map .data } c t c' ∧
        ∀ i ∈ is, (encodes i).fails = false := by
  induction is with
  | nil => exact fun c => .pure fun _ => ⟨pushes_nil c, fun _ h => absurd h List.not_mem_nil⟩
  | cons i is ih =>
    intro c
    refine (sendEncoded_ensures env lpath rpath (encodes i) c).bind fun ok c₁ t₁ h₁ => ?_
    cases ok with
    | false => exact ensures_of_false rfl
    | true =>
      obtain ⟨h₁, hi⟩ := h₁ rfl
      refine (ih c₁).mono fun ok c₂ t₂ h₂ hok => ?_
      obtain ⟨h₂, his⟩ := h₂ hok
      refine ⟨?_, fun j hj => (List.mem_cons.mp hj).elim (fun h => h ▸ hi) (his j)⟩
      rw [List.flatMap_cons, List.map_append]
      exact h₁.append h₂

/-- The blocks of all runs of the encoder are what it has made. -/
theorem flatten_encoded (encodes : ℕ → EncodeRun) (n : ℕ) :
    (((List.range n).flatMap fun i => (encodes i).blocks) ++ (encodes n).blocks).flatten =
      (List.range (n + 1)).flatMap fun i => (encodes i).outputs.flatten := by
  have hrun : ∀ i, (encodes i).blocks.flatten = (encodes i).outputs.flatten := fun i =>
    List.flatten_filter_ne_nil
  have hall : ∀ is : List ℕ, (is.flatMap fun i => (encodes i).blocks).flatten =
      is.flatMap fun i => (encodes i).outputs.flatten := by
    intro is
    induction is with
    | nil => rfl
    | cons i is ih => rw [List.flatMap_cons, List.flatten_append, ih, hrun, List.flatMap_cons]
  rw [List.range_succ, List.flatMap_append, List.flatten_append, hall, hrun, List.flatMap_singleton]

theorem sendLargeFile_ensures (rpath : Bytes) (mode : UInt32) (lpath : Bytes) (mtime : UInt32)
    (compression : CompressionType) (dryRun : Bool) (f : LocalFile) (c : SyncConnection) :
    SendsFile env dryRun lpath rpath mode mtime f
      (sendLargeFile env rpath mode lpath rpath mtime compression dryRun f) c := by
  refine .ite (fun _ => ensures_of_false rfl) fun _ => .ite (fun hv2 => ?_) fun hv2 => ?_
  · exact sendLargeFileLegacy_ensures env rpath mode lpath mtime dryRun f (by simpa using hv2) c
  refine (sendSend2_ensures env rpath mode _ dryRun c).bind fun ok c₁ t₁ h₁ => ?_
  cases ok with
  | false => exact ensures_of_false rfl
  | true =>
    obtain ⟨flags, h₁⟩ := h₁ rfl
    refine openLargeFile_ensures env lpath f ?_
    refine (allEncoded_ensures env lpath rpath f.encodes _ c₁).bind fun ok c₂ t₂ h₂ => ?_
    cases ok with
    | false => exact ensures_of_false rfl
    | true =>
      obtain ⟨h₂, hruns⟩ := h₂ rfl
      cases hread : f.readError with
      | some e => exact ensures_of_false rfl
      | none =>
        refine (sendEncoded_ensures env lpath rpath (f.encodes f.blocks.length) c₂).bind
          fun ok c₃ t₃ h₃ => ?_
        cases ok with
        | false => exact ensures_of_false rfl
        | true =>
          obtain ⟨h₃, hlast⟩ := h₃ rfl
          -- The blocks of every run of the encoder, the last one with them, are the file.
          refine (finishLargeFile_ensures env lpath rpath mtime c₃).mono fun ok c₄ t₄ h₄ _ => ?_
          refine ⟨_, h₁.append (h₂.append (h₃.append h₄)), _,
            ((List.range f.blocks.length).flatMap fun i => (f.encodes i).blocks) ++
              (f.encodes f.blocks.length).blocks, ?_, .inr ⟨flags, rfl⟩, ?_⟩
          · show _ ++ (_ ++ (_ ++ _)) = _ ++ List.map _ (_ ++ _) ++ _
            rw [List.map_append]
            simp only [List.append_assoc]
          · rw [flatten_encoded]
            refine .encoded (by simpa using hv2) hread fun i hi => ?_
            obtain hi | rfl := Nat.lt_or_eq_of_le hi
            · exact hruns i (List.mem_range.mpr hi)
            · exact hlast

theorem sendSmallFile_ensures (rpath : Bytes) (mode : UInt32) (lpath : Bytes) (mtime : UInt32)
    (data : Bytes) (dryRun : Bool) (f : LocalFile)
    (hdata : dryRun = false → f.Yields env mode dryRun data) (c : SyncConnection) :
    SendsFile env dryRun lpath rpath mode mtime f
      (sendSmallFile env rpath mode lpath rpath mtime data dryRun f) c := by
  refine .ite (fun _ => sendLargeFile_ensures env rpath mode lpath mtime _ dryRun f c) fun hdry =>
    .ite (fun _ => ensures_of_false rfl) fun _ => ?_
  refine (writeOrDie_ensures env lpath rpath rfl c).bind fun _ c₁ t₁ h₁ => ?_
  refine (recordFileSent_ensures lpath rpath c₁).bind fun _ c₂ t₂ h₂ => .pure fun _ => ?_
  rw [List.append_nil]
  refine ⟨_, h₁.append h₂, _, [data], rfl, .inl rfl, ?_⟩
  rw [List.flatten_singleton]
  exact hdata (Bool.eq_false_iff.mpr hdry)

/-- A link is sent as its text, a small file as what is read of it, and a large one block by
block. -/
theorem sendFile_ensures (lpath rpath : Bytes) (mtime mode : UInt32) (compression : CompressionType)
    (dryRun : Bool) (f : LocalFile) (c : SyncConnection) :
    SendsFile env dryRun lpath rpath mode mtime f
      (sendFile env lpath rpath mtime mode compression dryRun f) c := by
  refine .ite (fun hlnk => ?_) fun hlnk => ?_
  · cases htarget : f.target with
    | error e => exact ensures_of_false rfl
    | ok target =>
      exact sendSmallFile_ensures env rpath mode lpath mtime _ dryRun f
        (fun hdry => .link hlnk hdry htarget) c
  · cases f.stat with
    | error e => exact ensures_of_false rfl
    | ok st =>
      refine .ite (fun _ => ?_) fun _ =>
        sendLargeFile_ensures env rpath mode lpath mtime compression dryRun f c
      cases hcontents : f.contents with
      | error e => exact ensures_of_false rfl
      | ok data =>
        exact sendSmallFile_ensures env rpath mode lpath mtime data dryRun f
          (fun hdry => .whole (Bool.eq_false_iff.mpr hlnk) hdry hcontents) c

/-! ## The files of a source -/

/-- Reading answers adds nothing to what was sent. -/
theorem readAcknowledgements_pushes (readAll : Bool) {c : SyncConnection} (hc : c.Ordered) :
    Prog.Ensures (readAcknowledgements env readAll) c fun ok c' t =>
      ok = true → Pushes {} c t c' ∧ (readAll = true → c'.Settled) := by
  refine (readAcknowledgements_runs env readAll c hc).ensures.mono fun ok c' t h hok => ?_
  obtain ⟨files, hledger, hfiles⟩ := h.acknowledged hok
  refine ⟨⟨fun _ => h.ordered, ?_, ?_⟩, h.settled hok⟩
  · rw [hledger]
  · rw [hledger, hfiles]
    exact List.append_nil _

/-- A file is skipped only where its timestamp matches. -/
theorem sameTimestamp_ensures (sync : Bool) (lpath rpath : Bytes) (mtime : UInt32)
    (c : SyncConnection) :
    Prog.Ensures (sameTimestamp env sync lpath rpath mtime) c fun same c' t =>
      Pushes (if same then { matched := [(lpath, rpath)] } else {}) c t c' ∧
        (same = true → sync = true) := by
  refine .ite (fun hsync => ?_) fun _ => .pure ⟨pushes_nil c, fun h => by cases h⟩
  refine ((quiet_syncLstat env rpath).ensures c).bind fun r c₁ t₁ h₁ => ?_
  cases r with
  | none => exact .pure ⟨by simpa using Quiet.pushes h₁, fun h => by cases h⟩
  | some st =>
    refine .ite (fun _ => .emit_bind (.pure ⟨?_, fun _ => hsync⟩)) fun _ =>
      .pure ⟨by simpa using Quiet.pushes h₁, fun h => by cases h⟩
    have hmatched : Pushes { matched := [(lpath, rpath)] } c₁ [.timestampMatched lpath rpath] c₁ :=
      ⟨id, rfl, by simp [SyncEvent.ledger]⟩
    exact Pushes.append (l := {}) (Quiet.pushes h₁) hmatched

/-- Where `sync_send` succeeds, the file is skipped, or it was sent. -/
theorem syncSend_ensures (lpath rpath : Bytes) (mtime mode : UInt32) (sync : Bool)
    (compression : CompressionType) (dryRun : Bool) (f : LocalFile) {c : SyncConnection}
    (hc : c.Ordered) :
    Prog.Ensures (syncSend env lpath rpath mtime mode sync compression dryRun f) c fun ok c' t =>
      ok = true → (sync = true ∧ Pushes { matched := [(lpath, rpath)] } c t c') ∨
        ∃ ms, Pushes { sent := [(lpath, rpath)], messages := ms } c t c' ∧
          SentInFull env dryRun rpath mode mtime f ms := by
  refine (sameTimestamp_ensures env sync lpath rpath mtime c).bind fun same c₁ t₁ ⟨h₁, hsync⟩ => ?_
  cases same with
  | true =>
    refine .pure fun _ => .inl ⟨hsync rfl, ?_⟩
    rwa [List.append_nil]
  | false =>
    refine (sendFile_ensures env lpath rpath mtime mode compression dryRun f c₁).bind
      fun ok c₂ t₂ h₂ => ?_
    cases ok with
    | false => exact ensures_of_false rfl
    | true =>
      obtain ⟨ms, h₂, hfull⟩ := h₂ rfl
      have hc₂ := h₂.ordered (h₁.ordered hc)
      refine (readAcknowledgements_pushes env sync hc₂).mono fun ok c₃ t₃ h₃ hok =>
        .inr ⟨ms, ?_, hfull⟩
      have h := h₁.append (h₂.append (h₃ hok).1)
      simpa using h

/-- The files on a list that are to be sent. -/
def pending (files : List Listed) : List Listed := files.filter fun l => !l.ci.skip

theorem pending_append (files files' : List Listed) :
    pending (files ++ files') = pending files ++ pending files' := List.filter_append ..

/-- The timestamp of a file on the list is compared: either it stays as it is, or it is skipped. -/
theorem checkTimestamp_ensures (checked : List Listed) (l : Listed) (c : SyncConnection) :
    Prog.Ensures (checkTimestamp env checked l) c fun checked' c' t => ∃ l' matched,
      checked' = checked ++ [l'] ∧ (pending [l'] ++ matched) = pending [l] ∧
        Pushes { matched := matched.map Listed.paths } c t c' := by
  refine ((quiet_finishStat env).ensures c).bind fun r c₁ t₁ h₁ => ?_
  have hkept : ∃ l' matched, checked ++ [l] = checked ++ [l'] ∧
      (pending [l'] ++ matched) = pending [l] ∧
        Pushes { matched := matched.map Listed.paths } c (t₁ ++ []) c₁ :=
    ⟨l, [], rfl, List.append_nil _, by simpa using Quiet.pushes h₁⟩
  cases r with
  | none => exact .pure hkept
  | some st =>
    refine .ite (fun _ => ?_) fun _ => .pure hkept
    dsimp only
    have hskipped : pending [{ l with ci := { l.ci with skip := true } }] = [] := rfl
    cases hskip : l.ci.skip with
    | true =>
      refine .pure ⟨_, [], rfl, ?_, by simpa using Quiet.pushes h₁⟩
      simp [pending, hskip]
    | false =>
      refine .emit_bind (.pure ⟨_, [l], rfl, ?_, ?_⟩)
      · simp [pending, hskip]
      · have hmatched : Pushes { matched := [l.paths] } c₁ [.timestampMatched l.ci.lpath l.ci.rpath] c₁ :=
          ⟨id, rfl, by simp [SyncEvent.ledger]⟩
        exact Pushes.append (l := {}) (Quiet.pushes h₁) hmatched

/-- What is left to be sent of a list is what did not match. -/
theorem checkAll_ensures (files : List Listed) : ∀ checked c,
    Prog.Ensures (Prog.foldM (checkTimestamp env) checked files) c fun checked' c' t =>
      ∃ rest matched,
      checked' = checked ++ rest ∧ (pending rest ++ matched).Perm (pending files) ∧
        Pushes { matched := matched.map Listed.paths } c t c' := by
  induction files with
  | nil => exact fun checked c => .pure ⟨[], [], (List.append_nil _).symm, .refl _, pushes_nil c⟩
  | cons l files ih =>
    intro checked c
    refine (checkTimestamp_ensures env checked l c).bind
      fun _ c₁ t₁ ⟨l', matched₁, hchecked, hl, h₁⟩ => ?_
    subst hchecked
    refine (ih _ c₁).mono fun checked' c₂ t₂ ⟨rest, matched₂, hrest, hperm, h₂⟩ => ?_
    refine ⟨l' :: rest, matched₁ ++ matched₂, ?_, ?_, ?_⟩
    · rw [hrest, List.append_assoc, List.singleton_append]
    · have hcons : ∀ (l : Listed) ls, pending (l :: ls) = pending [l] ++ pending ls := fun l ls =>
        pending_append [l] ls
      calc pending (l' :: rest) ++ (matched₁ ++ matched₂)
          = pending [l'] ++ (pending rest ++ matched₁) ++ matched₂ := by rw [hcons]; simp
        _ ~ pending [l'] ++ (matched₁ ++ pending rest) ++ matched₂ :=
          (List.perm_append_comm.append_left _).append_right _
        _ = pending [l] ++ (pending rest ++ matched₂) := by rw [← hl]; simp
        _ ~ pending [l] ++ pending files := hperm.append_left _
        _ = pending (l :: files) := (hcons l files).symm
    · have h := h₁.append h₂
      rwa [List.map_append]

/-! ## A directory -/

/-- A part of a push has dealt with these files, and could not examine what is at these paths. -/
def PushesAll (dryRun : Bool) (files : List Listed) (unexamined : List Bytes) (c : SyncConnection)
    (t : List SyncEvent) (c' : SyncConnection) : Prop :=
  ∃ (sent matched : List Listed) (transfers : List (List SyncMessage)), (sent ++ matched) ~ files ∧
    List.Forall₂ (Listed.SentBy env dryRun) sent transfers ∧
    Pushes { sent := sent.map Listed.paths, matched := matched.map Listed.paths,
             unexamined := unexamined, messages := transfers.flatten } c t c'

section PushesAll

variable {env} {dryRun : Bool} {files files' : List Listed} {us us' : List Bytes}
  {c c' c'' : SyncConnection} {t t' : List SyncEvent}

theorem PushesAll.append (h : PushesAll env dryRun files us c t c')
    (h' : PushesAll env dryRun files' us' c' t' c'') :
    PushesAll env dryRun (files ++ files') (us ++ us') c (t ++ t') c'' := by
  obtain ⟨sent, matched, transfers, hperm, hfull, hpushes⟩ := h
  obtain ⟨sent', matched', transfers', hperm', hfull', hpushes'⟩ := h'
  refine ⟨sent ++ sent', matched ++ matched', transfers ++ transfers', ?_,
    List.rel_append hfull hfull', ?_⟩
  · calc sent ++ sent' ++ (matched ++ matched')
        = sent ++ (sent' ++ matched) ++ matched' := by simp
      _ ~ sent ++ (matched ++ sent') ++ matched' :=
        (List.perm_append_comm.append_left _).append_right _
      _ = (sent ++ matched) ++ (sent' ++ matched') := by simp
      _ ~ files ++ files' := hperm.append hperm'
  · rw [List.map_append, List.map_append, List.flatten_append]
    exact hpushes.append hpushes'

/-- A part that has dealt with no file. -/
theorem Pushes.all (h : Pushes { unexamined := us } c t c') : PushesAll env dryRun [] us c t c' :=
  ⟨[], [], [], .refl _, .nil, h⟩

/-- A part before that has dealt with no file. -/
theorem PushesAll.after (h : PushesAll env dryRun files us c' t' c'') (hp : Pushes {} c t c') :
    PushesAll env dryRun files us c (t ++ t') c'' := hp.all.append h

/-- A part after that has dealt with no file. -/
theorem PushesAll.before (h : PushesAll env dryRun files us c t c') (hp : Pushes {} c' t' c'') :
    PushesAll env dryRun files us c (t ++ t') c'' := by
  have happend : PushesAll env dryRun (files ++ []) (us ++ []) c (t ++ t') c'' := h.append hp.all
  rwa [List.append_nil, List.append_nil] at happend

theorem PushesAll.ordered (h : PushesAll env dryRun files us c t c') (hc : c.Ordered) :
    c'.Ordered := by
  obtain ⟨_, _, _, -, -, hpushes⟩ := h
  exact hpushes.ordered hc

end PushesAll

/-- A file of the list that is pending is sent. -/
theorem pushListed_ensures (compression : CompressionType) (dryRun : Bool) (l : Listed)
    {c : SyncConnection} (hc : c.Ordered) :
    Prog.Ensures (pushListed env false compression dryRun l) c fun ok c' t =>
      ok = true → PushesAll env dryRun (pending [l]) [] c t c' := by
  refine .ite (fun hskip => .pure fun _ => ?_) fun hskip => .ite (fun h => by cases h) fun _ => ?_
  · have hpending : pending [l] = [] := by simp [pending, hskip]
    rw [hpending]
    exact (pushes_nil c).all
  · refine (syncSend_ensures env _ _ _ _ false compression dryRun l.file hc).mono fun ok c' t h hok => ?_
    have hpending : pending [l] = [l] := by simp [pending, hskip]
    obtain ⟨h, -⟩ | ⟨ms, h, hfull⟩ := h hok
    · cases h
    · refine ⟨[l], [], [ms], ?_, .cons hfull .nil, ?_⟩
      · rw [hpending, List.append_nil]
      · rw [List.flatten_singleton]
        exact h

/-- So are all that are. -/
theorem allListed_ensures (compression : CompressionType) (dryRun : Bool) (files : List Listed) :
    ∀ c, c.Ordered → Prog.Ensures (Prog.allM (pushListed env false compression dryRun) files) c
      fun ok c' t => ok = true → PushesAll env dryRun (pending files) [] c t c' := by
  induction files with
  | nil => exact fun c _ => .pure fun _ => (pushes_nil c).all
  | cons l files ih =>
    intro c hc
    refine (pushListed_ensures env compression dryRun l hc).bind fun ok c₁ t₁ h₁ => ?_
    cases ok with
    | false => exact ensures_of_false rfl
    | true =>
      have h₁ := h₁ rfl
      refine (ih c₁ (h₁.ordered hc)).mono fun ok c₂ t₂ h₂ hok => ?_
      have hcons : pending (l :: files) = pending [l] ++ pending files := pending_append [l] files
      rw [hcons]
      exact h₁.append (h₂ hok)

theorem pushList_ensures (compression : CompressionType) (dryRun : Bool) (files : List Listed)
    {c : SyncConnection} (hc : c.Ordered) :
    Prog.Ensures (pushList env false compression dryRun files) c fun ok c' t =>
      ok = true → PushesAll env dryRun (pending files) [] c t c' := by
  refine (allListed_ensures env compression dryRun files c hc).bind fun ok c₁ t₁ h₁ => ?_
  cases ok with
  | false => exact ensures_of_false rfl
  | true =>
    have h₁ := h₁ rfl
    refine (readAcknowledgements_pushes env true (h₁.ordered hc)).mono fun ok c₂ t₂ h₂ hok => ?_
    exact h₁.before (h₂ hok).1

/-- The list that is checked is pushed, too: what is not pending any more has matched. -/
theorem checkAndPush_ensures (compression : CompressionType) (dryRun : Bool) (files : List Listed)
    {c : SyncConnection} (hc : c.Ordered) :
    Prog.Ensures (do
      match ← checkTimestamps env files with
      | none => return false
      | some files => pushList env false compression dryRun files : SyncM Bool) c fun ok c' t =>
      ok = true → PushesAll env dryRun (pending files) [] c t c' := by
  -- The check takes the files that match off the list, and leaves the rest pending.
  have hcheck : Prog.Ensures (checkTimestamps env files) c fun checked c' t => ∀ rest,
      checked = some rest → ∃ matched, (pending rest ++ matched) ~ pending files ∧
        Pushes { matched := matched.map Listed.paths } c t c' := by
    have hsend : Prog.Keeps Quiet (Prog.allM (fun l => sendLstat env l.ci.rpath) files) :=
      .allM quiet_composes fun l _ => quiet_sendLstat env _
    refine (hsend.ensures c).bind fun ok c₁ t₁ h₁ => .ite (fun _ => ?_) fun _ => ?_
    · refine (checkAll_ensures env files [] c₁).map
        fun checked c₂ t₂ ⟨rest, matched, hrest, hperm, h₂⟩ rest' hrest' => ?_
      obtain rfl := Option.some.inj hrest'
      rw [hrest]
      exact ⟨matched, hperm, Pushes.append (l := {}) (Quiet.pushes h₁) h₂⟩
    · exact .emit_bind (.emit_bind (.pure fun _ h => by cases h))
  refine hcheck.bind fun checked c₁ t₁ h₁ => ?_
  cases checked with
  | none => exact ensures_of_false rfl
  | some rest =>
    obtain ⟨matched, hperm, h₁⟩ := h₁ rest rfl
    refine (pushList_ensures env compression dryRun rest (h₁.ordered hc)).mono fun ok c₂ t₂ h₂ hok => ?_
    obtain ⟨sent, matched', transfers, hperm', hfull, h₂⟩ := h₂ hok
    refine ⟨sent, matched ++ matched', transfers, ?_, hfull, ?_⟩
    · calc sent ++ (matched ++ matched')
          ~ sent ++ (matched' ++ matched) := List.perm_append_comm.append_left _
        _ = sent ++ matched' ++ matched := by simp
        _ ~ pending rest ++ matched := hperm'.append_right _
        _ ~ pending files := hperm
    · rw [List.map_append]
      exact h₁.append h₂

/-! ## A source -/

/-- What is below a directory and cannot be examined. -/
def LocalTree.unexamined (lpath : Bytes) (tree : LocalTree) : List Bytes :=
  tree.unexaminedHere lpath ++ tree.unexaminedBelow lpath

/-- A directory that is copied has all of its files sent or skipped. -/
theorem copyLocalDirRemote_ensures (lpath rpath : Bytes) (tree : LocalTree) (checkTimes : Bool)
    (compression : CompressionType) (dryRun : Bool) {c : SyncConnection} (hc : c.Ordered) :
    Prog.Ensures (copyLocalDirRemote env lpath rpath tree checkTimes false compression dryRun) c
      fun ok c' t => ok = true →
        PushesAll env dryRun (pending (tree.found (withSeparator lpath) (withSeparator rpath)))
          (tree.unexamined (withSeparator lpath)) c t c' := by
  have hback : ∀ path (c : SyncConnection), Pushes {} c [.back path] c := fun path c =>
    SameQueue.pushes ⟨rfl, rfl⟩ rfl rfl rfl
  refine Prog.Ensures.bind (p := ensureTrailingSeparators lpath rpath)
    (M := fun p c' t => p = (withSeparator lpath, withSeparator rpath) ∧ Pushes {} c t c')
    (fun p hp => ⟨(Except.ok.inj hp).symm, (hback lpath c).append (hback rpath c)⟩)
    fun ⟨l, r⟩ c₁ t₁ ⟨hp, h₁⟩ => ?_
  obtain ⟨rfl, rfl⟩ := Prod.mk.inj hp
  have hancestors : Prog.Keeps Quiet (remoteAncestors (withSeparator rpath)) := by
    unfold remoteAncestors
    cases ancestors ((withSeparator rpath).length + 1) (withSeparator rpath) with
    | none => exact .exit quiet_composes SyncStop.hangs
    | some paths => exact quiet_pure _
  refine (hancestors.ensures c₁).bind fun directoryList c₂ t₂ h₂ => ?_
  refine (localBuildList_runs env ⟨[], directoryList⟩ _ _ tree c₂).ensures.bind
    fun ⟨ok, lists⟩ c₃ t₃ ⟨⟨_, hfiles⟩, hwalked⟩ => ?_
  have h₃ : Pushes { unexamined := tree.unexamined (withSeparator lpath) } c (t₁ ++ (t₂ ++ t₃)) c₃ :=
    h₁.append ((Quiet.pushes h₂).append (hwalked.queue.pushes hwalked.ledger rfl rfl))
  have hc₃ := h₃.ordered hc
  rw [List.nil_append] at hfiles
  -- The files of the list are pushed once the directories are made, if they are to be made.
  have hrest : ∀ made c, c.Ordered → Prog.Ensures (do
      if !made then return false
      else if checkTimes then
        match ← checkTimestamps env lists.fileList with
        | none => return false
        | some fileList => pushList env false compression dryRun fileList
      else pushList env false compression dryRun lists.fileList : SyncM Bool) c fun ok c' t =>
      ok = true → PushesAll env dryRun (pending lists.fileList) [] c t c' := fun made c hc =>
    .ite (fun _ => ensures_of_false rfl) fun _ => .ite
      (fun _ => checkAndPush_ensures env compression dryRun lists.fileList hc) fun _ =>
      pushList_ensures env compression dryRun lists.fileList hc
  have hend : ∀ p : SyncM Bool, Prog.Keeps Quiet p → Prog.Ensures (p >>= fun made => do
      if !made then return false
      else if checkTimes then
        match ← checkTimestamps env lists.fileList with
        | none => return false
        | some fileList => pushList env false compression dryRun fileList
      else pushList env false compression dryRun lists.fileList : SyncM Bool) c₃ fun ok c' t =>
      ok = true → PushesAll env dryRun (pending lists.fileList)
        (tree.unexamined (withSeparator lpath)) c (t₁ ++ (t₂ ++ (t₃ ++ t))) c' := by
    intro p hp
    refine (hp.ensures c₃).bind fun made c₄ t₄ h₄ => ?_
    refine (hrest made c₄ (h₄.1.ordered hc₃)).mono fun ok c₅ t₅ h₅ hok => ?_
    have h := h₃.all.append ((h₅ hok).after (Quiet.pushes h₄))
    rw [List.append_nil, List.nil_append] at h
    simpa only [List.append_assoc] using h
  rw [← hfiles]
  exact .ite (fun _ => ensures_of_false rfl) fun _ => .ite
    (fun _ => hend _ (quiet_mkdirDirectories env _ _)) fun _ => hend _ (quiet_pure true)

/-- On the list of a tree, what is skipped is what is neither a regular file nor a link. -/
theorem LocalTree.skip_of_mem (tree : LocalTree) : ∀ lpath rpath,
    (∀ l ∈ tree.filesHere lpath rpath, l.ci.skip = !shouldPushFile l.ci.mode) ∧
      ∀ l ∈ tree.filesBelow lpath rpath, l.ci.skip = !shouldPushFile l.ci.mode := by
  induction tree with
  | failed e => exact fun _ _ =>
      ⟨fun _ h => absurd h List.not_mem_nil, fun _ h => absurd h List.not_mem_nil⟩
  | nil => exact fun _ _ =>
      ⟨fun _ h => absurd h List.not_mem_nil, fun _ h => absurd h List.not_mem_nil⟩
  | entry name lstat file sub rest ihsub ihrest =>
    intro lpath rpath
    refine ⟨fun l hl => ?_, fun l hl => ?_⟩
    · cases lstat with
      | error e => exact (ihrest lpath rpath).1 l hl
      | ok st =>
        rw [LocalTree.filesHere] at hl
        split at hl
        · exact (ihrest lpath rpath).1 l hl
        · obtain rfl | hl := List.mem_cons.mp hl
          · rfl
          · exact (ihrest lpath rpath).1 l hl
    · rw [LocalTree.filesBelow] at hl
      obtain hl | hl := List.mem_append.mp hl
      · split at hl
        · exact (List.mem_append.mp hl).elim ((ihsub _ _).1 l) ((ihsub _ _).2 l)
        · exact absurd hl List.not_mem_nil
      · exact (ihrest lpath rpath).2 l hl

/-- The regular files and links of a tree are what is pending of its list. -/
theorem LocalTree.pending_found (tree : LocalTree) (lpath rpath : Bytes) :
    pending (tree.found lpath rpath) =
      (tree.found lpath rpath).filter fun l => shouldPushFile l.ci.mode := by
  refine List.filter_congr fun l hl => ?_
  obtain ⟨hhere, hbelow⟩ := tree.skip_of_mem lpath rpath
  rw [(List.mem_append.mp hl).elim (hhere l) (hbelow l), Bool.not_not]

/-- What cannot be examined of a source. -/
def LocalSource.unexamined (src : LocalSource) : List Bytes :=
  match src.stat with
  | .error _ => [src.path]
  | .ok st => if isDir st.mode then src.tree.unexamined (withSeparator src.path) else []

theorem LocalSource.readable_iff (src : LocalSource) : src.Readable ↔ src.unexamined = [] := by
  unfold Readable unexamined
  cases src.stat with
  | error e => simp
  | ok st =>
    have htree := src.tree.readable_iff (withSeparator src.path)
    by_cases hdir : isDir st.mode
    · simp [hdir, htree, LocalTree.unexamined]
    · simp [hdir]

/-- A source that counts as pushed has all of its files sent or skipped. -/
theorem pushSource_ensures (dst : Bytes) (dstStat : Option Stat) (sync : Bool)
    (compression : CompressionType) (dryRun : Bool) (src : LocalSource) {c : SyncConnection}
    (hc : c.Ordered) :
    Prog.Ensures (pushSource env dst dstStat sync compression dryRun src) c fun r c' t =>
      r = some true → PushesAll env dryRun (src.found dst dstStat) src.unexamined c t c' := by
  have hdir := fun rpath => copyLocalDirRemote_ensures env src.path rpath src.tree sync compression
    dryRun hc
  unfold pushSource LocalSource.found LocalSource.unexamined LocalSource.target
  cases hstat : src.stat with
  | error e =>
    intro r hr hr'
    obtain rfl : some false = r := Except.ok.inj hr
    cases hr'
  | ok st =>
    -- One file that is sent or skipped.
    have hfile : ∀ rpath,
        Prog.Ensures (some <$> syncSend env src.path rpath (.ofInt st.mtime) st.mode sync
        compression dryRun src.file) c fun r c' t => r = some true → PushesAll env dryRun
          [⟨{ lpath := src.path, rpath := rpath, time := st.mtime, mode := st.mode }, src.file⟩] [] c t c' := by
      intro rpath
      refine (syncSend_ensures env _ _ _ _ sync compression dryRun src.file hc).map
        fun ok c' t h hok => ?_
      obtain ⟨-, h⟩ | ⟨ms, h, hfull⟩ := h (Option.some.inj hok)
      · exact ⟨[], [_], [], .refl _, .nil, h⟩
      · refine ⟨[_], [], [ms], .refl _, .cons hfull .nil, ?_⟩
        rw [List.flatten_singleton]
        exact h
    have hback : Pushes {} c [.back dst] c := SameQueue.pushes ⟨rfl, rfl⟩ rfl rfl rfl
    dsimp only
    simp only [← LocalTree.pending_found]
    refine .ite (fun hisDir => ?_) fun hisDir => .ite (fun hpush => ?_) fun hpush => ?_
    · rw [if_pos hisDir, if_pos hisDir]
      refine .ite (fun hexists => .ite (fun _ => ?_) fun hdstDir => .emit_bind ?_) fun hexists => ?_
      · intro r hr hr'
        obtain rfl : none = r := Except.ok.inj hr
        cases hr'
      · rw [if_pos (by simpa using hdstDir)]
        exact (hdir _).map fun ok c' t h hok => (h (Option.some.inj hok)).after hback
      · have hnot : dstStat.any (fun st => isDir st.mode) = false := by
          cases dstStat with
          | none => rfl
          | some st => exact absurd rfl hexists
        rw [if_neg (by simp [hnot])]
        exact (hdir _).map fun ok c' t h hok => h (Option.some.inj hok)
    · rw [if_neg hisDir, if_neg hisDir,
        if_neg (show ¬ shouldPushFile st.mode = true by simpa using hpush)]
      refine .emit_bind (.pure fun _ => Pushes.all ?_)
      exact SameQueue.pushes ⟨rfl, rfl⟩ rfl rfl rfl
    · rw [if_neg hisDir, if_neg hisDir,
        if_pos (show shouldPushFile st.mode = true by simpa using hpush)]
      refine .ite (fun hdstDir => .emit_bind ?_) fun hdstDir => ?_
      · rw [if_pos hdstDir]
        exact (hfile _).mono fun r c' t h hr => (h hr).after hback
      · rw [if_neg hdstDir]
        exact hfile _

/-! ## A push -/

/-- What has failed once does not succeed. -/
theorem pushSources_false (dst : Bytes) (dstStat : Option Stat) (sync : Bool)
    (compression : CompressionType) (dryRun : Bool) (srcs : List LocalSource) : ∀ c,
    Prog.Ensures (pushSources env dst dstStat sync compression dryRun false srcs) c fun ok _ _ =>
      ok = false := by
  induction srcs with
  | nil => exact fun c => .bind (.trivial _ _) fun _ _ _ _ => .pure rfl
  | cons src srcs ih =>
    refine fun c => .bind (.trivial _ _) fun r c' _ _ => ?_
    cases r with
    | none => exact .pure rfl
    | some ok => exact (ih c').mono fun _ _ _ h => h

/-- Where the loop succeeds, all files of all sources are sent or skipped, and nothing is
outstanding. -/
theorem pushSources_ensures (dst : Bytes) (dstStat : Option Stat) (sync : Bool)
    (compression : CompressionType) (dryRun : Bool) (srcs : List LocalSource) : ∀ c, c.Ordered →
    Prog.Ensures (pushSources env dst dstStat sync compression dryRun true srcs) c fun ok c' t =>
      ok = true → PushesAll env dryRun (srcs.flatMap (LocalSource.found dst dstStat))
        (srcs.flatMap LocalSource.unexamined) c t c' ∧ c'.Settled := by
  induction srcs with
  | nil =>
    intro c hc
    refine (readAcknowledgements_pushes env true hc).bind fun ok c₁ t₁ h₁ => .pure fun hok => ?_
    obtain ⟨h₁, hsettled⟩ := h₁ hok
    rw [List.append_nil]
    exact ⟨h₁.all, hsettled rfl⟩
  | cons src srcs ih =>
    intro c hc
    refine (pushSource_ensures env dst dstStat sync compression dryRun src hc).bind
      fun r c₁ t₁ h₁ => ?_
    cases r with
    | none => exact ensures_of_false rfl
    | some ok =>
      cases ok with
      | false =>
        -- The loop goes on, but it does not succeed any more.
        refine (pushSources_false env dst dstStat sync compression dryRun srcs c₁).mono
          fun ok c₂ t₂ h hok => ?_
        rw [h] at hok
        cases hok
      | true =>
        have h₁ := h₁ rfl
        refine (ih c₁ (h₁.ordered hc)).mono fun ok c₂ t₂ h₂ hok => ?_
        obtain ⟨h₂, hsettled⟩ := h₂ hok
        exact ⟨h₁.append h₂, hsettled⟩

/-- The destination is asked for, and nothing is sent. -/
theorem quiet_statPushDestination (dst : Bytes) :
    Prog.Keeps Quiet (statPushDestination env dst) := by
  refine quiet_bind (quiet_syncStatFallback env dst) fun r => ?_
  cases r with
  | some st => exact quiet_pure _
  | none =>
    exact quiet_bind (.get quiet_composes) fun c => .ite (fun _ => quiet_pure _) fun _ =>
      quiet_bind (quiet_captureError _) fun _ => quiet_pure none

theorem quiet_checkPushDestination (sources : ℕ) (dst : Bytes) (dstExists : Bool) :
    Prog.Keeps Quiet (checkPushDestination sources dst dstExists) :=
  .ite (fun _ => quiet_bind (quiet_captureError _) fun _ => quiet_pure false) fun _ =>
    quiet_bind (quiet_emit rfl) fun _ => .ite (fun _ =>
      quiet_bind (quiet_captureError _) fun _ => quiet_pure false) fun _ => quiet_pure true

end Send

/-- Everything under the sources is at the destination, or was there, and nothing was left out. -/
def PushedEverything (env : SyncEnv) (srcs : List LocalSource) (dst : Bytes) (dryRun : Bool)
    (c : SyncConnection) (t : List SyncEvent) : Prop :=
  ∃ dstStat, (statPushDestination env dst c).result = .ok (some dstStat) ∧
    AllPushed env dryRun (srcs.flatMap (LocalSource.found dst dstStat)) t ∧
      (ledger t).unexamined = []

/-- A push that returns true has pushed everything exactly if everything under its sources can be
examined. -/
theorem push_complete_iff (env : SyncEnv) (srcs : List LocalSource) (dst : Bytes) (sync : Bool)
    (compression : CompressionType) (dryRun : Bool) (input : Bytes)
    (decodes : List (DecodeResult × Bytes)) (files : Bytes → Option Bytes)
    (hok : (doSyncPush env srcs dst sync compression dryRun (.new input decodes files)).result = .ok true) :
    PushedEverything env srcs dst dryRun (.new input decodes files)
        (doSyncPush env srcs dst sync compression dryRun (.new input decodes files)).trace ↔
      ∀ src ∈ srcs, src.Readable := by
  generalize hnew : SyncConnection.new input decodes files = c at *
  have hsettled : c.Settled := hnew ▸ ⟨rfl, rfl⟩
  -- The loop has run on the destination that was found.
  have hrun : Prog.Ensures (doSyncPush env srcs dst sync compression dryRun) c fun ok c' t =>
      ok = true → ∃ dstStat, (statPushDestination env dst c).result = .ok (some dstStat) ∧
        PushesAll env dryRun (srcs.flatMap (LocalSource.found dst dstStat))
          (srcs.flatMap LocalSource.unexamined) c t c' ∧ c'.Settled := by
    refine Prog.Ensures.bind (p := statPushDestination env dst)
      (M := fun r c' t => (statPushDestination env dst c).result = .ok r ∧ Quiet c t c')
      (fun r hr => ⟨hr, quiet_statPushDestination env dst c⟩) fun r c₁ t₁ ⟨hr, h₁⟩ => ?_
    have hc₁ := h₁.1.ordered hsettled.ordered
    cases r with
    | none => exact ensures_of_false rfl
    | some dstStat =>
      have hsources := pushSources_ensures env dst dstStat sync compression dryRun srcs
      refine .ite (fun _ => ?_) fun _ => ?_
      · refine (hsources c₁ hc₁).mono fun ok c₂ t₂ h₂ hok => ⟨dstStat, hr, ?_, (h₂ hok).2⟩
        exact (h₂ hok).1.after (Quiet.pushes h₁)
      · refine ((quiet_checkPushDestination _ _ _).ensures c₁).bind fun goesOn c₂ t₂ h₂ =>
          .ite (fun _ => ?_) fun _ => ensures_of_false rfl
        refine (hsources c₂ (h₂.1.ordered hc₁)).mono fun ok c₃ t₃ h₃ hok =>
          ⟨dstStat, hr, ?_, (h₃ hok).2⟩
        exact ((h₃ hok).1.after (Quiet.pushes h₂)).after (Quiet.pushes h₁)
  obtain ⟨dstStat, hstat, ⟨sent, matched, transfers, hperm, hfull, hpushes⟩, hend⟩ :=
      hrun true hok rfl
  set t := (doSyncPush env srcs dst sync compression dryRun c).trace
  have hledger := hpushes.adds
  have hsent : (ledger t).sent = sent.map Listed.paths := congrArg Ledger.sent hledger
  have hmatched : (ledger t).matched = matched.map Listed.paths := congrArg Ledger.matched hledger
  have hmessages : (ledger t).messages = transfers.flatten := congrArg Ledger.messages hledger
  have hunexamined : (ledger t).unexamined = srcs.flatMap LocalSource.unexamined :=
    congrArg Ledger.unexamined hledger
  have hacknowledged : (ledger t).acknowledged = sent.map Listed.paths := by
    have hqueue := hpushes.queue
    rw [hsettled.1, hend.1, List.nil_append, List.append_nil] at hqueue
    rw [← hqueue, hsent]
  have hreadable : (ledger t).unexamined = [] ↔ ∀ src ∈ srcs, src.Readable := by
    rw [hunexamined, List.flatMap_eq_nil_iff]
    exact forall₂_congr fun src _ => src.readable_iff.symm
  constructor
  · rintro ⟨-, -, -, hnil⟩
    exact hreadable.mp hnil
  · intro hall
    exact ⟨dstStat, hstat, ⟨sent, matched, hperm, hsent, hacknowledged, hmatched, transfers, hfull,
      hmessages⟩, hreadable.mpr hall⟩

/-- A source that is a directory with a file in it, and with a file and a directory that cannot be
examined. -/
def unreadableSource : LocalSource where
  path := lit "d"
  stat := .ok ⟨sIfdir, 0, 0⟩
  file := smallFile (.error (.other 21))
  tree := .entry (lit "a") (.ok ⟨sIfreg, 1, 1⟩) (smallFile (.ok [65])) .nil
    (.entry (lit "b") (.error (.other 5)) (smallFile (.ok [66])) .nil
      (.entry (lit "s") (.ok ⟨sIfdir, 0, 0⟩) (smallFile (.error (.other 21))) (.failed (.other 13)) .nil))

/-- A source that is a directory with two files in it, and with a directory that has a file and a
link in it. -/
def readableSource : LocalSource where
  path := lit "d"
  stat := .ok ⟨sIfdir, 0, 0⟩
  file := smallFile (.error (.other 21))
  tree := .entry (lit "a") (.ok ⟨sIfreg, 1, 1⟩) (smallFile (.ok [65])) .nil
    (.entry (lit "s") (.ok ⟨sIfdir, 0, 0⟩) (smallFile (.error (.other 21)))
      (.entry (lit "c") (.ok ⟨sIfreg, 1, 1⟩) (smallFile (.ok [67])) .nil
        (.entry (lit "l") (.ok ⟨0o120777, 1, 1⟩) { smallFile (.ok [67]) with target := .ok (lit "c") }
          .nil .nil))
      (.entry (lit "b") (.ok ⟨sIfreg, 1, 1⟩) (smallFile (.ok [66])) .nil .nil))

/-- There is nothing in it that cannot be examined. -/
theorem readableSource_readable : readableSource.Readable :=
  ⟨_, rfl, fun _ => (LocalTree.readable_iff _ []).mpr (by decide +kernel)⟩

/-- A directory tree and a file are pushed to a device that takes them. -/
theorem push_complete_okay :
    PushedEverything unreadyEnv [readableSource, smallSource (lit "e")] (lit "/sdcard") false
      (.new (directoryReply ++ okay ++ okay ++ okay ++ okay ++ okay) [] fun _ => none)
      (doSyncPush unreadyEnv [readableSource, smallSource (lit "e")] (lit "/sdcard") false .none false
        (.new (directoryReply ++ okay ++ okay ++ okay ++ okay ++ okay) [] fun _ => none)).trace := by
  refine (push_complete_iff unreadyEnv [readableSource, smallSource (lit "e")] (lit "/sdcard") false
    .none false (directoryReply ++ okay ++ okay ++ okay ++ okay ++ okay) [] (fun _ => none)
    (by decide +kernel)).mpr fun src hsrc => ?_
  obtain rfl | hsrc := List.mem_cons.mp hsrc
  · exact readableSource_readable
  · obtain rfl := List.mem_singleton.mp hsrc
    exact ⟨_, rfl, fun hdir => by cases hdir⟩

/-- The push of a directory returns true, and it has left out a file and a directory. -/
theorem push_incomplete :
    ¬ ∀ (env : SyncEnv) (srcs : List LocalSource) (dst : Bytes) (sync : Bool)
      (compression : CompressionType) (dryRun : Bool) (input : Bytes)
      (decodes : List (DecodeResult × Bytes)) (files : Bytes → Option Bytes),
      (doSyncPush env srcs dst sync compression dryRun (.new input decodes files)).result = .ok true →
        PushedEverything env srcs dst dryRun (.new input decodes files)
          (doSyncPush env srcs dst sync compression dryRun (.new input decodes files)).trace := by
  intro hall
  obtain ⟨-, -, -, hnil⟩ := hall unreadyEnv [unreadableSource] (lit "/sdcard") false .none false
    (directoryReply ++ okay) [] (fun _ => none) (by decide +kernel)
  have hleft : (ledger (doSyncPush unreadyEnv [unreadableSource] (lit "/sdcard") false .none false
      (.new (directoryReply ++ okay) [] fun _ => none)).trace).unexamined = [lit "d/b",
        lit "d/s/"] := by
    decide +kernel
  rw [hnil] at hleft
  cases hleft

end AdbMobile.Sync
