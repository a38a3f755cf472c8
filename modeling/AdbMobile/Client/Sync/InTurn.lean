import AdbMobile.Client.Sync.MkdirCommands

/-!
# Replies in turn

The answers to requests and the answers to files that were sent come on one stream. A reply is read
in turn when nothing is outstanding as its reader starts. In a push with `--sync`, the reply for a
file's timestamp is asked for before the file is sent, and a source that succeeds leaves nothing
outstanding (`pushSource_settles`). A source that fails may leave files without an answer, and the
loop of `do_sync_push` goes on: the next source then reads their answers as replies of its own.

So the replies of a push are read in turn exactly when the sources before one that starts a reply
have sent no file without reading its answer, and they are whenever no source fails but the last one
(`replies_in_turn_iff`). For this, a run keeps account: what was outstanding and what was sent has
been answered, or is outstanding still (`Accounts`).
-/

namespace AdbMobile.Sync

open ByteString PosixPath

/-- The event is the start of a reply. -/
def SyncEvent.isReply : SyncEvent → Bool
  | .startsReply .. => true
  | _ => false

/-- The event is no matter of the queue: no reply starts, and no file is sent or answered. -/
def SyncEvent.isPassing : SyncEvent → Bool
  | .startsReply .. | .fileSent .. | .acknowledged .. | .copyFailed .. => false
  | _ => true

/-- Every reply starts with nothing outstanding. -/
def InTurn (t : List SyncEvent) : Prop := ∀ d b, .startsReply d b ∈ t → d = [] ∧ b = []

/-- A reply starts. -/
def Asks (t : List SyncEvent) : Prop := ∃ d b, .startsReply d b ∈ t

/-- No reply starts. -/
def NoReply (t : List SyncEvent) : Prop := ∀ e ∈ t, e.isReply = false

/-- The replies of a run start with what is outstanding in `c`. -/
def RepliesWith (c : SyncConnection) (t : List SyncEvent) : Prop :=
  ∀ d b, .startsReply d b ∈ t → d = c.deferred ∧ b = c.ackBuffer

/-- A run keeps account of the files without an answer. -/
def Accounts (c : SyncConnection) (t : List SyncEvent) (c' : SyncConnection) : Prop :=
  c.deferred ++ sentFiles t = answeredFiles t ++ c'.deferred

/-- A run that starts no reply and leaves what is outstanding. -/
abbrev Passes (c : SyncConnection) (t : List SyncEvent) (c' : SyncConnection) : Prop :=
  SameQueue c c' ∧ ∀ e ∈ t, e.isPassing

/-- A run that passes, and says nothing of what was sent. -/
abbrev Mute (c : SyncConnection) (t : List SyncEvent) (c' : SyncConnection) : Prop :=
  SameQueue c c' ∧ ∀ e ∈ t, e.isPassing ∧ e.ledger = {}

/-- A run that starts no reply, keeps account, and keeps the order of the queue and the buffer. -/
abbrev StartsNone (c : SyncConnection) (t : List SyncEvent) (c' : SyncConnection) : Prop :=
  c.Ordered → (c'.Ordered ∧ Accounts c t c') ∧ NoReply t

/-- A run that leaves what is outstanding, and starts its replies with it. -/
abbrev StartsWith (c : SyncConnection) (t : List SyncEvent) (c' : SyncConnection) : Prop :=
  (SameQueue c c' ∧ Accounts c t c') ∧ RepliesWith c t

/-- A run that keeps account, and starts its replies, if it may ask for any, with what is
outstanding before it. -/
abbrev StartsFirst (mayAsk : Prop) (c : SyncConnection) (t : List SyncEvent) (c' : SyncConnection) :
    Prop :=
  c.Ordered → (c'.Ordered ∧ Accounts c t c') ∧ RepliesWith c t ∧ (Asks t → mayAsk)

/-! ## Composition -/

/-- What is settled is in order. -/
theorem SyncConnection.Settled.ordered {c : SyncConnection} (h : c.Settled) : c.Ordered :=
    fun _ => h.2

theorem SameQueue.ordered {c c' : SyncConnection} (h : SameQueue c c') (hc : c.Ordered) :
    c'.Ordered := fun hnil => h.2.trans (hc (h.1 ▸ hnil))

theorem SameQueue.settled {c c' : SyncConnection} (h : SameQueue c c') (hc : c.Settled) :
    c'.Settled := ⟨h.1.trans hc.1, h.2.trans hc.2⟩

theorem noReply_nil : NoReply [] := fun _ he => absurd he List.not_mem_nil

theorem NoReply.append {t t' : List SyncEvent} (h : NoReply t) (h' : NoReply t') :
    NoReply (t ++ t') := fun e he => (List.mem_append.mp he).elim (h e) (h' e)

theorem NoReply.repliesWith {t : List SyncEvent} (h : NoReply t) (c : SyncConnection) :
    RepliesWith c t := fun d b hmem => by cases h _ hmem

theorem NoReply.inTurn {t : List SyncEvent} (h : NoReply t) : InTurn t := fun d b hmem => by
  cases h _ hmem

theorem NoReply.not_asks {t : List SyncEvent} (h : NoReply t) : ¬ Asks t := fun ⟨_, _, hmem⟩ => by
  cases h _ hmem

theorem asks_append_iff {t t' : List SyncEvent} : Asks (t ++ t') ↔ Asks t ∨ Asks t' := by
  simp only [Asks, List.mem_append, exists_or]

theorem RepliesWith.append {c : SyncConnection} {t t' : List SyncEvent} (h : RepliesWith c t)
    (h' : RepliesWith c t') : RepliesWith c (t ++ t') := fun d b hmem =>
  (List.mem_append.mp hmem).elim (h d b) (h' d b)

/-- The same is outstanding. -/
theorem RepliesWith.of_sameQueue {c c' : SyncConnection} {t : List SyncEvent} (h : RepliesWith c' t)
    (hqueue : SameQueue c c') : RepliesWith c t := fun d b hmem => by
  rw [← hqueue.1, ← hqueue.2]
  exact h d b hmem

theorem inTurn_append_iff {t t' : List SyncEvent} :
    InTurn (t ++ t') ↔ InTurn t ∧ InTurn t' :=
  ⟨fun h => ⟨fun d b hmem => h d b (List.mem_append_left _ hmem),
    fun d b hmem => h d b (List.mem_append_right _ hmem)⟩,
    fun h d b hmem => (List.mem_append.mp hmem).elim (h.1 d b) (h.2 d b)⟩

theorem inTurn_after_iff {α : Type} {t : List SyncEvent}
    {o : Outcome SyncConnection SyncEvent SyncStop α} :
    InTurn (o.after t).trace ↔ InTurn t ∧ InTurn o.trace := inTurn_append_iff

/-- Replies for what was outstanding are in turn if nothing was, and there are none otherwise. -/
theorem RepliesWith.inTurn_iff {c : SyncConnection} {t : List SyncEvent} (h : RepliesWith c t) :
    InTurn t ↔ (Asks t → c.Settled) := by
  constructor
  · rintro hturn ⟨d, b, hmem⟩
    obtain ⟨rfl, rfl⟩ := h d b hmem
    exact hturn _ _ hmem
  · intro hsettled d b hmem
    obtain ⟨rfl, rfl⟩ := h d b hmem
    exact hsettled ⟨_, _, hmem⟩

theorem accounts_nil (c : SyncConnection) : Accounts c [] c := by
  rw [Accounts, show sentFiles [] = [] from rfl, List.append_nil]
  rfl

theorem Accounts.append {c c' c'' : SyncConnection} {t t' : List SyncEvent} (h : Accounts c t c')
    (h' : Accounts c' t' c'') : Accounts c (t ++ t') c'' := by
  unfold Accounts at *
  rw [sentFiles_append, ← List.append_assoc, h, List.append_assoc, h',
    ← List.append_assoc, answeredFiles_append]

/-- Nothing has been sent or answered. -/
theorem accounts_of_sameQueue {c c' : SyncConnection} {t : List SyncEvent} (h : SameQueue c c')
    (ht : ∀ e ∈ t, e.sentFile = none ∧ e.answeredFile = none) : Accounts c t c' := by
  have hsent : sentFiles t = [] := List.filterMap_eq_nil_iff.mpr fun e he => (ht e he).1
  have hanswered : answeredFiles t = [] := List.filterMap_eq_nil_iff.mpr fun e he => (ht e he).2
  rw [Accounts, hsent, hanswered, h.1, List.append_nil, List.nil_append]

theorem Passes.accounts {c c' : SyncConnection} {t : List SyncEvent} (h : Passes c t c') :
    Accounts c t c' := accounts_of_sameQueue h.1 fun e he => by
  have hpassing := h.2 e he
  cases e <;> first | exact ⟨rfl, rfl⟩ | cases hpassing

theorem Passes.noReply {c c' : SyncConnection} {t : List SyncEvent} (h : Passes c t c') :
    NoReply t := fun e he => by
  have hpassing := h.2 e he
  cases e <;> first | rfl | cases hpassing

theorem passes_composes : Prog.Composes Passes where
  nil _ := ⟨⟨rfl, rfl⟩, fun _ he => absurd he List.not_mem_nil⟩
  append h h' := ⟨h.1.trans h'.1, fun e he => (List.mem_append.mp he).elim (h.2 e) (h'.2 e)⟩

theorem startsNone_composes : Prog.Composes StartsNone where
  nil c := fun hc => ⟨⟨hc, accounts_nil c⟩, noReply_nil⟩
  append h h' := fun hc => by
    obtain ⟨⟨hc', haccounts⟩, hnone⟩ := h hc
    obtain ⟨⟨hc'', haccounts'⟩, hnone'⟩ := h' hc'
    exact ⟨⟨hc'', haccounts.append haccounts'⟩, hnone.append hnone'⟩

theorem startsWith_composes : Prog.Composes StartsWith where
  nil c := ⟨⟨⟨rfl, rfl⟩, accounts_nil c⟩, noReply_nil.repliesWith c⟩
  append h h' := ⟨⟨h.1.1.trans h'.1.1, h.1.2.append h'.1.2⟩,
    h.2.append (h'.2.of_sameQueue h.1.1)⟩

theorem Passes.startsNone {c c' : SyncConnection} {t : List SyncEvent} (h : Passes c t c') :
    StartsNone c t c' := fun hc => ⟨⟨h.1.ordered hc, h.accounts⟩, h.noReply⟩

theorem Passes.startsWith {c c' : SyncConnection} {t : List SyncEvent} (h : Passes c t c') :
    StartsWith c t c' := ⟨⟨h.1, h.accounts⟩, h.noReply.repliesWith c⟩

/-- The relation is kept by what comes after a run that passes. -/
theorem startsFirst_bind {mayAsk : Prop} {α β : Type} {p : SyncM α} {f : α → SyncM β}
    (hp : Prog.Keeps Passes p) (hf : ∀ a, Prog.Keeps (StartsFirst mayAsk) (f a)) :
    Prog.Keeps (StartsFirst mayAsk) (p >>= f) := by
  intro c hc
  have hpasses := hp c
  have hordered := hpasses.1.ordered hc
  have hnone := hpasses.noReply
  cases hr : (p c).result with
  | error x =>
    rw [Prog.bind_apply_error hr]
    exact ⟨⟨hordered, hpasses.accounts⟩, hnone.repliesWith c, fun h => absurd h hnone.not_asks⟩
  | ok a =>
    rw [Prog.bind_apply_ok hr]
    obtain ⟨⟨hordered', haccounts⟩, hreplies, hasks⟩ := hf a _ hordered
    exact ⟨⟨hordered', hpasses.accounts.append haccounts⟩,
      (hnone.repliesWith c).append (hreplies.of_sameQueue hpasses.1),
      fun h => hasks ((asks_append_iff.mp h).resolve_left hnone.not_asks)⟩

/-- There may be no replies. -/
theorem startsFirst_of_none {mayAsk : Prop} {α : Type} {p : SyncM α}
    (hp : Prog.Keeps StartsNone p) : Prog.Keeps (StartsFirst mayAsk) p := fun c hc =>
  ⟨(hp c hc).1, (hp c hc).2.repliesWith c, fun h => absurd h (hp c hc).2.not_asks⟩

/-- Where it may ask, the replies may come first. -/
theorem startsFirst_of_startsWith {mayAsk : Prop} (hmay : mayAsk) {α β : Type} {p : SyncM α}
    {f : α → SyncM β} (hp : Prog.Keeps StartsWith p) (hf : ∀ a, Prog.Keeps StartsNone (f a)) :
    Prog.Keeps (StartsFirst mayAsk) (p >>= f) := by
  intro c hc
  obtain ⟨⟨hqueue, haccounts⟩, hreplies⟩ := hp c
  have hordered := hqueue.ordered hc
  cases hr : (p c).result with
  | error x =>
    rw [Prog.bind_apply_error hr]
    exact ⟨⟨hordered, haccounts⟩, hreplies, fun _ => hmay⟩
  | ok a =>
    rw [Prog.bind_apply_ok hr]
    obtain ⟨⟨hordered', haccounts'⟩, hnone⟩ := hf a _ hordered
    exact ⟨⟨hordered', haccounts.append haccounts'⟩, hreplies.append (hnone.repliesWith c),
      fun _ => hmay⟩

section Sends

variable (env : SyncEnv)

/-! ## Runs that leave what is outstanding -/

/-- A background run passes. -/
theorem passes_of_background {α : Type} {p : SyncM α} (hp : Prog.Keeps (Background 0) p) :
    Prog.Keeps Passes p := fun c =>
  ⟨⟨(hp c).deferred, (hp c).ackBuffer⟩, fun e he => by
    have hback := (hp c).trace e he
    cases e <;> first | rfl | cases hback⟩

theorem passes_pure {α : Type} (a : α) : Prog.Keeps Passes (pure a : SyncM α) :=
  .pure passes_composes a

theorem passes_bind {α β : Type} {p : SyncM α} {f : α → SyncM β} (hp : Prog.Keeps Passes p)
    (hf : ∀ a, Prog.Keeps Passes (f a)) : Prog.Keeps Passes (p >>= f) := .bind passes_composes hp hf

theorem passes_emit {e : SyncEvent} (he : e.isPassing) :
    Prog.Keeps Passes (Prog.emit e : SyncM Unit) := fun _ =>
  ⟨⟨rfl, rfl⟩, fun _ hmem => List.mem_singleton.mp hmem ▸ he⟩

theorem passes_error (text : Bytes) : Prog.Keeps Passes (error text) := passes_emit rfl

theorem passes_captureError (text : Bytes) : Prog.Keeps Passes (captureError text) :=
  passes_bind (passes_emit rfl) fun _ => passes_error text

theorem passes_setErrno (e : Errno) : Prog.Keeps Passes (setErrno e) :=
  passes_of_background (setErrno_keeps e)

theorem passes_strerrno : Prog.Keeps Passes (strerrno env) :=
  passes_of_background (strerrno_keeps env)

theorem passes_writeFdExactly (ms : List SyncMessage) : Prog.Keeps Passes (writeFdExactly env ms) :=
  passes_of_background (writeFdExactly_keeps env ms)

theorem passes_sendRequest (id : SyncId) (path : Bytes) :
    Prog.Keeps Passes (sendRequest env id path) :=
  passes_of_background (sendRequest_keeps env id path)

theorem passes_sendLstat (path : Bytes) : Prog.Keeps Passes (sendLstat env path) :=
  .ite (fun _ => passes_sendRequest env _ _) fun _ => passes_sendRequest env _ _

theorem passes_ensureTrailingSeparators (lpath rpath : Bytes) :
    Prog.Keeps Passes (ensureTrailingSeparators lpath rpath) :=
  passes_bind (passes_emit rfl) fun _ => passes_bind (passes_emit rfl) fun _ => passes_pure _

theorem passes_remoteAncestors (rpath : Bytes) : Prog.Keeps Passes (remoteAncestors rpath) := by
  unfold remoteAncestors
  cases ancestors (rpath.length + 1) rpath with
  | none => exact .exit passes_composes SyncStop.hangs
  | some paths => exact passes_pure _

/-- A walk passes. -/
theorem passes_localBuildList (lists : LocalLists) (lpath rpath : Bytes) (tree : LocalTree) :
    Prog.Keeps Passes (localBuildList env lists lpath rpath tree) := by
  intro c
  obtain ⟨r, -, -, hwalked⟩ := localBuildList_runs env lists lpath rpath tree c
  refine ⟨hwalked.queue, fun e he => ?_⟩
  obtain hback | ⟨path, rfl⟩ := hwalked.events e he
  · cases e <;> first | rfl | cases hback
  · rfl

/-- The `mkdir` workaround leaves the queue, starts no reply and says nothing. -/
theorem mute_mkdirDirectories (cmd : Bytes) (dirs : List Bytes) :
    Prog.Keeps Mute (mkdirDirectories env cmd dirs) := fun c => by
  obtain ⟨_, _, hsame, hevents⟩ := mkdirDirectories_runs env dirs cmd c
  refine ⟨by rw [hsame]; exact ⟨rfl, rfl⟩, fun e he => ?_⟩
  obtain ⟨_, rfl⟩ | ⟨_, rfl⟩ | ⟨_, rfl⟩ := hevents e he <;> exact ⟨rfl, rfl⟩

theorem passes_mkdirDirectories (cmd : Bytes) (dirs : List Bytes) :
    Prog.Keeps Passes (mkdirDirectories env cmd dirs) := fun c =>
  ⟨(mute_mkdirDirectories env cmd dirs c).1,
    fun e he => ((mute_mkdirDirectories env cmd dirs c).2 e he).1⟩

/-! ## Sending starts no reply -/

theorem startsNone_of_passes {α : Type} {p : SyncM α} (hp : Prog.Keeps Passes p) :
    Prog.Keeps StartsNone p := fun c => (hp c).startsNone

theorem startsNone_pure {α : Type} (a : α) : Prog.Keeps StartsNone (pure a : SyncM α) :=
  .pure startsNone_composes a

theorem startsNone_bind {α β : Type} {p : SyncM α} {f : α → SyncM β} (hp : Prog.Keeps StartsNone p)
    (hf : ∀ a, Prog.Keeps StartsNone (f a)) : Prog.Keeps StartsNone (p >>= f) :=
  .bind startsNone_composes hp hf

theorem startsNone_writeOrDie (lpath rpath : Bytes) (ms : List SyncMessage) :
    Prog.Keeps StartsNone (writeOrDie env lpath rpath ms) := by
  have hread := startsNone_of_passes (passes_of_background (readFdExactly_keeps env syncStatusSize))
  have herrno := startsNone_of_passes (passes_strerrno env)
  have herror := fun text => startsNone_of_passes (passes_error text)
  have hexit : Prog.Keeps StartsNone (Prog.exit (.exited 1) : SyncM Bool) :=
    .exit startsNone_composes _
  refine startsNone_bind (startsNone_of_passes (passes_writeFdExactly env ms)) fun ok =>
    .ite (fun _ => startsNone_pure true) fun _ =>
    startsNone_bind (.get startsNone_composes) fun c => .ite (fun _ => ?_) fun _ => ?_
  · refine startsNone_bind hread fun ⟨ok, msg⟩ => .ite (fun _ => ?_) fun _ => ?_
    · exact startsNone_bind herrno fun _ => startsNone_bind (herror _) fun _ => hexit
    · refine startsNone_bind (startsNone_of_passes (passes_emit rfl)) fun _ =>
        .ite (fun _ => ?_) fun _ => ?_
      · exact startsNone_bind (herror _) fun _ => hexit
      · exact startsNone_bind (startsNone_of_passes
          (passes_of_background (reportCopyFailure_keeps env _ _ _))) fun _ => hexit
  · exact startsNone_bind herrno fun _ => startsNone_bind (herror _) fun _ => hexit

theorem startsNone_sendBlocks (lpath rpath : Bytes) (blocks : List Bytes) :
    Prog.Keeps StartsNone (sendBlocks env lpath rpath blocks) := by
  induction blocks with
  | nil => exact startsNone_pure ()
  | cons block blocks ih => exact startsNone_bind (startsNone_writeOrDie env _ _ _) fun _ => ih

/-- A file that was sent is outstanding, and so the order of the queue is kept. -/
theorem startsNone_recordFileSent (lpath rpath : Bytes) :
    Prog.Keeps StartsNone (recordFileSent lpath rpath) := fun _ _ =>
  ⟨⟨fun h => absurd h (List.append_ne_nil_of_right_ne_nil _ (List.cons_ne_nil _ _)), rfl⟩,
    fun _ he => List.mem_singleton.mp he ▸ rfl⟩

theorem startsNone_failWith (e : Errno) (text : Bytes) :
    Prog.Keeps StartsNone (failWith env e text) :=
  startsNone_of_passes (passes_bind (passes_setErrno e) fun _ => passes_bind (passes_error _) fun _ =>
    passes_pure false)

theorem startsNone_openLargeFile (lpath : Bytes) (f : LocalFile) {send : SyncM Bool}
    (hsend : Prog.Keeps StartsNone send) :
    Prog.Keeps StartsNone (openLargeFile env lpath f send) := by
  unfold openLargeFile
  cases f.statAgain with
  | error e => exact startsNone_failWith env e _
  | ok st =>
    cases f.openError with
    | some e => exact startsNone_failWith env e _
    | none => exact hsend

theorem startsNone_finishLargeFile (lpath rpath : Bytes) (mtime : UInt32) :
    Prog.Keeps StartsNone (finishLargeFile env lpath rpath mtime) :=
  startsNone_bind (startsNone_recordFileSent _ _) fun _ => startsNone_writeOrDie env _ _ _

/-- An error whose text ends with that of `errno`. -/
theorem startsNone_errnoError (text : Bytes → Bytes) :
    Prog.Keeps StartsNone (do
      error (text (← strerrno env))
      return false : SyncM Bool) :=
  startsNone_of_passes (passes_bind (passes_strerrno env) fun _ => passes_bind (passes_error _) fun _ =>
    passes_pure false)

theorem startsNone_sendLargeFileLegacy (path : Bytes) (mode : UInt32) (lpath rpath : Bytes)
    (mtime : UInt32) (f : LocalFile) :
    Prog.Keeps StartsNone (sendLargeFileLegacy env path mode lpath rpath mtime f) := by
  refine startsNone_bind (startsNone_of_passes (passes_sendRequest env _ _)) fun ok =>
    .ite (fun _ => startsNone_errnoError env _) fun _ =>
    startsNone_openLargeFile env _ f (startsNone_bind (startsNone_sendBlocks env _ _ _) fun _ => ?_)
  cases f.readError with
  | some e => exact startsNone_failWith env e _
  | none => exact startsNone_finishLargeFile env _ _ _

theorem startsNone_sendEncoded (lpath rpath : Bytes) (run : EncodeRun) :
    Prog.Keeps StartsNone (sendEncoded env lpath rpath run) :=
  startsNone_bind (startsNone_sendBlocks env _ _ _) fun _ => .ite
    (fun _ => startsNone_bind (startsNone_of_passes (passes_error _)) fun _ => startsNone_pure false)
    fun _ => startsNone_pure true

theorem startsNone_sendSend2 (path : Bytes) (mode : UInt32) (compression : CompressionType)
    (dryRun : Bool) : Prog.Keeps StartsNone (sendSend2 env path mode compression dryRun) := by
  refine .ite (fun _ => ?_) fun _ => .ite (fun _ => ?_) fun _ => ?_
  · exact startsNone_of_passes (passes_bind (passes_error _) fun _ =>
      passes_bind (passes_setErrno _) fun _ => passes_pure false)
  · exact startsNone_of_passes (passes_bind (passes_emit rfl) fun _ => passes_writeFdExactly env _)
  · exact startsNone_of_passes (passes_writeFdExactly env _)

theorem startsNone_sendLargeFile (path : Bytes) (mode : UInt32) (lpath rpath : Bytes)
    (mtime : UInt32) (compression : CompressionType) (dryRun : Bool) (f : LocalFile) :
    Prog.Keeps StartsNone (sendLargeFile env path mode lpath rpath mtime compression dryRun f) := by
  have hencoded := startsNone_sendEncoded env lpath rpath
  refine .ite (fun _ => ?_) fun _ => .ite (fun _ => startsNone_sendLargeFileLegacy env _ _ _ _ _ f)
    fun _ => startsNone_bind (startsNone_sendSend2 env _ _ _ _) fun ok =>
      .ite (fun _ => startsNone_errnoError env _) fun _ => startsNone_openLargeFile env _ f ?_
  · exact startsNone_bind (startsNone_of_passes (passes_error _)) fun _ => startsNone_pure false
  · refine startsNone_bind (.allM startsNone_composes fun i _ => hencoded _) fun ok =>
      .ite (fun _ => startsNone_pure false) fun _ => ?_
    cases f.readError with
    | some e => exact startsNone_failWith env e _
    | none =>
      exact startsNone_bind (hencoded _) fun ok =>
        .ite (fun _ => startsNone_finishLargeFile env _ _ _) fun _ => startsNone_pure false

theorem startsNone_sendSmallFile (path : Bytes) (mode : UInt32) (lpath rpath : Bytes)
    (mtime : UInt32) (data : Bytes) (dryRun : Bool) (f : LocalFile) :
    Prog.Keeps StartsNone (sendSmallFile env path mode lpath rpath mtime data dryRun f) := by
  refine .ite (fun _ => startsNone_sendLargeFile env _ _ _ _ _ _ _ f) fun _ =>
    .ite (fun _ => ?_) fun _ => ?_
  · exact startsNone_of_passes (passes_bind (passes_error _) fun _ =>
      passes_bind (passes_setErrno _) fun _ => passes_pure false)
  · exact startsNone_bind (startsNone_writeOrDie env _ _ _) fun _ =>
      startsNone_bind (startsNone_recordFileSent _ _) fun _ => startsNone_pure true

/-- Sending a file starts no reply. -/
theorem startsNone_sendFile (lpath rpath : Bytes) (mtime mode : UInt32)
    (compression : CompressionType) (dryRun : Bool) (f : LocalFile) :
    Prog.Keeps StartsNone (sendFile env lpath rpath mtime mode compression dryRun f) := by
  refine .ite (fun _ => ?_) fun _ => ?_
  · cases f.target with
    | error e =>
      exact startsNone_of_passes (passes_bind (passes_setErrno e) fun _ =>
        passes_bind (passes_error _) fun _ => passes_pure false)
    | ok target => exact startsNone_sendSmallFile env _ _ _ _ _ _ _ f
  · cases f.stat with
    | error e => exact startsNone_failWith env e _
    | ok st =>
      refine .ite (fun _ => ?_) fun _ => startsNone_sendLargeFile env _ _ _ _ _ _ _ f
      cases f.contents with
      | error e => exact startsNone_failWith env e _
      | ok data => exact startsNone_sendSmallFile env _ _ _ _ _ _ _ f

/-- Reading the answers starts no reply. -/
theorem startsNone_readAcknowledgements (readAll : Bool) :
    Prog.Keeps StartsNone (readAcknowledgements env readAll) := by
  intro c hc
  obtain ⟨ok, -, hack⟩ := readAcknowledgements_runs env readAll c hc
  have hevents : ∀ e ∈ (readAcknowledgements env readAll c).trace,
      e.isReply = false ∧ e.sentFile = none := by
    intro e he
    obtain hback | ⟨l, r, rfl⟩ | ⟨l, r, rfl⟩ := hack.events e he
    · cases e <;> first | exact ⟨rfl, rfl⟩ | cases hback
    · exact ⟨rfl, rfl⟩
    · exact ⟨rfl, rfl⟩
  refine ⟨⟨hack.ordered, ?_⟩, fun e he => (hevents e he).1⟩
  have hsent : sentFiles (readAcknowledgements env readAll c).trace = [] :=
    List.filterMap_eq_nil_iff.mpr fun e he => (hevents e he).2
  rw [Accounts, hsent, List.append_nil]
  exact hack.answered

/-! ## Asking for timestamps -/

/-- Requests and replies start with what is outstanding. -/
theorem startsWith_of_replies {α : Type} {p : SyncM α} (hp : Prog.Obeys Replies p) :
    Prog.Keeps StartsWith p := fun c => by
  have hreplies := hp.keeps c
  have hqueue : SameQueue c (p c).state := ⟨hreplies.deferred, hreplies.ackBuffer⟩
  refine ⟨⟨hqueue, accounts_of_sameQueue hqueue fun e he => ?_⟩, fun d b hmem => ?_⟩
  · obtain hback | rfl := hreplies.trace e he
    · cases e <;> first | exact ⟨rfl, rfl⟩ | cases hback
    · exact ⟨rfl, rfl⟩
  · obtain hback | heq := hreplies.trace _ hmem
    · cases hback
    · obtain ⟨rfl, rfl⟩ := SyncEvent.startsReply.inj heq
      exact ⟨rfl, rfl⟩

theorem startsWith_of_passes {α : Type} {p : SyncM α} (hp : Prog.Keeps Passes p) :
    Prog.Keeps StartsWith p := fun c => (hp c).startsWith

theorem startsWith_pure {α : Type} (a : α) : Prog.Keeps StartsWith (pure a : SyncM α) :=
  .pure startsWith_composes a

theorem startsWith_bind {α β : Type} {p : SyncM α} {f : α → SyncM β} (hp : Prog.Keeps StartsWith p)
    (hf : ∀ a, Prog.Keeps StartsWith (f a)) : Prog.Keeps StartsWith (p >>= f) :=
  .bind startsWith_composes hp hf

theorem startsWith_matched (lpath rpath : Bytes) :
    Prog.Keeps StartsWith (Prog.emit (.timestampMatched lpath rpath) : SyncM Unit) :=
  startsWith_of_passes (passes_emit rfl)

/-- The timestamp of one file is asked for with what is outstanding. -/
theorem startsWith_sameTimestamp (sync : Bool) (lpath rpath : Bytes) (mtime : UInt32) :
    Prog.Keeps StartsWith (sameTimestamp env sync lpath rpath mtime) := by
  refine .ite (fun _ => startsWith_bind (startsWith_of_replies (replies_syncLstat env _)) fun r => ?_)
    fun _ => startsWith_pure false
  cases r with
  | none => exact startsWith_pure false
  | some st =>
    exact .ite (fun _ => startsWith_bind (startsWith_matched _ _) fun _ => startsWith_pure true)
      fun _ => startsWith_pure false

/-- So are those of the files on a list. -/
theorem startsWith_checkTimestamps (fileList : List Listed) :
    Prog.Keeps StartsWith (checkTimestamps env fileList) := by
  have hcheck : ∀ checked l, Prog.Keeps StartsWith (checkTimestamp env checked l) := by
    intro checked l
    refine startsWith_bind (startsWith_of_replies (replies_finishStat env)) fun r => ?_
    cases r with
    | none => exact startsWith_pure _
    | some st =>
      refine .ite (fun _ => .ite (fun _ => ?_) fun _ => startsWith_pure _) fun _ =>
        startsWith_pure _
      exact startsWith_bind (startsWith_matched _ _) fun _ => startsWith_pure _
  refine startsWith_bind (.allM startsWith_composes fun l _ =>
    startsWith_of_passes (passes_sendLstat env _)) fun ok => .ite (fun _ => ?_) fun _ => ?_
  · exact startsWith_bind (.foldM startsWith_composes (fun checked l _ => hcheck checked l) [])
      fun _ => startsWith_pure _
  · exact startsWith_of_passes (passes_bind (passes_emit rfl) fun _ =>
      passes_bind (passes_error _) fun _ => passes_pure none)

/-! ## Sources -/

/-- What is sent after the question for the timestamp starts no reply. -/
theorem startsNone_sendAndRead (lpath rpath : Bytes) (mtime mode : UInt32) (sync : Bool)
    (compression : CompressionType) (dryRun : Bool) (f : LocalFile) (same : Bool) :
    Prog.Keeps StartsNone (do
      if same then return true
      else if ← sendFile env lpath rpath mtime mode compression dryRun f then
        readAcknowledgements env sync
      else return false : SyncM Bool) :=
  .ite (fun _ => startsNone_pure true) fun _ =>
    startsNone_bind (startsNone_sendFile env _ _ _ _ _ _ f) fun _ =>
      .ite (fun _ => startsNone_readAcknowledgements env sync) fun _ => startsNone_pure false

/-- `sync_send` asks for a reply only when it is to check the timestamp. -/
theorem startsFirst_syncSend (lpath rpath : Bytes) (mtime mode : UInt32) (sync : Bool)
    (compression : CompressionType) (dryRun : Bool) (f : LocalFile) :
    Prog.Keeps (StartsFirst (sync = true))
      (syncSend env lpath rpath mtime mode sync compression dryRun f) := by
  have hrest := startsNone_sendAndRead env lpath rpath mtime mode sync compression dryRun f
  cases sync with
  | true => exact startsFirst_of_startsWith rfl (startsWith_sameTimestamp env true _ _ _) hrest
  | false => exact startsFirst_bind (passes_pure false) fun same =>
      startsFirst_of_none (hrest same)

/-- A file on a list is sent without a question. -/
theorem startsNone_pushListed (listOnly : Bool) (compression : CompressionType) (dryRun : Bool)
    (l : Listed) : Prog.Keeps StartsNone (pushListed env listOnly compression dryRun l) := by
  refine .ite (fun _ => startsNone_pure true) fun _ => .ite (fun _ => ?_) fun _ => ?_
  · exact startsNone_of_passes (passes_bind (passes_emit rfl) fun _ =>
      passes_bind (passes_emit rfl) fun _ => passes_pure true)
  · exact startsNone_bind (startsNone_pure false) (startsNone_sendAndRead env _ _ _ _ _ _ _ _)

/-- So are all files on a list. -/
theorem startsNone_pushList (listOnly : Bool) (compression : CompressionType) (dryRun : Bool)
    (fileList : List Listed) :
    Prog.Keeps StartsNone (pushList env listOnly compression dryRun fileList) :=
  startsNone_bind (.allM startsNone_composes fun l _ => startsNone_pushListed env _ _ _ l) fun _ =>
    .ite (fun _ => startsNone_readAcknowledgements env true) fun _ => startsNone_pure false

/-- `copy_local_dir_remote` asks for replies only when it is to check the timestamps. -/
theorem startsFirst_copyLocalDirRemote (lpath rpath : Bytes) (tree : LocalTree)
    (checkTimes listOnly : Bool) (compression : CompressionType) (dryRun : Bool) :
    Prog.Keeps (StartsFirst (checkTimes = true))
      (copyLocalDirRemote env lpath rpath tree checkTimes listOnly compression dryRun) := by
  have hpush := startsNone_pushList env listOnly compression dryRun
  have hfail : ∀ {asks : Prop}, Prog.Keeps (StartsFirst asks) (pure false : SyncM Bool) :=
    startsFirst_of_none (startsNone_pure false)
  refine startsFirst_bind (passes_ensureTrailingSeparators _ _) fun ⟨l, r⟩ =>
    startsFirst_bind (passes_remoteAncestors r) fun directoryList =>
    startsFirst_bind (passes_localBuildList env _ l r tree) fun ⟨ok, lists⟩ =>
    .ite (fun _ => hfail) fun _ => ?_
  -- What follows the check of the timestamps is `k`.
  have hrest : ∀ (made : Bool) (k : Option (List Listed) → SyncM Bool),
      (∀ checked, Prog.Keeps StartsNone (k checked)) →
      Prog.Keeps (StartsFirst (checkTimes = true)) (do
        if !made then return false
        else if checkTimes then checkTimestamps env lists.fileList >>= k
        else pushList env listOnly compression dryRun lists.fileList : SyncM Bool) := by
    intro made k hk
    refine .ite (fun _ => hfail) fun _ => ?_
    cases checkTimes with
    | false => exact startsFirst_of_none (hpush _)
    | true => exact startsFirst_of_startsWith rfl (startsWith_checkTimestamps env _) hk
  refine .ite (fun _ => startsFirst_bind (passes_mkdirDirectories env _ _) fun made =>
      hrest made _ fun checked => ?_) fun _ =>
    startsFirst_bind (passes_pure true) fun made => hrest made _ fun checked => ?_
  all_goals
    cases checked with
    | none => exact startsNone_pure false
    | some fileList => exact hpush fileList

/-- The source is one that something is sent of. -/
def LocalSource.IsPushed (src : LocalSource) : Prop :=
  ∃ st, src.stat = .ok st ∧ (isDir st.mode ∨ shouldPushFile st.mode)

/-- A source asks for replies only when it is to check timestamps. -/
theorem startsFirst_pushSource (dst : Bytes) (dstStat : Option Stat) (sync : Bool)
    (compression : CompressionType) (dryRun : Bool) (src : LocalSource) :
    Prog.Keeps (StartsFirst (sync = true ∧ src.IsPushed))
      (pushSource env dst dstStat sync compression dryRun src) := by
  have hnone : ∀ p : SyncM (Option Bool), Prog.Keeps Passes p →
      Prog.Keeps (StartsFirst (sync = true ∧ src.IsPushed)) p := fun p hp =>
    startsFirst_of_none (startsNone_of_passes hp)
  unfold pushSource
  cases hstat : src.stat with
  | error e =>
    exact hnone _ (passes_bind (passes_setErrno e) fun _ => passes_bind (passes_captureError _) fun _ =>
      passes_bind (passes_emit rfl) fun _ => passes_pure _)
  | ok st =>
    -- What is sent of the source asks only if it is to check timestamps.
    have hsome : ∀ {p : SyncM Bool}, (isDir st.mode ∨ shouldPushFile st.mode) →
        Prog.Keeps (StartsFirst (sync = true)) p →
        Prog.Keeps (StartsFirst (sync = true ∧ src.IsPushed)) (some <$> p) := fun hpushed hp =>
      Prog.Keeps.map (R := StartsFirst (sync = true ∧ src.IsPushed)) (fun c hc =>
        (hp c hc).imp_right fun h => h.imp_right fun hasks hask => ⟨hasks hask, st, hstat, hpushed⟩)
        some
    have hdir := startsFirst_copyLocalDirRemote env
    have hfile := startsFirst_syncSend env
    refine .ite (fun hisDir => .ite (fun _ => .ite (fun _ => ?_) fun _ => ?_) fun _ => ?_) fun _ =>
      .ite (fun _ => ?_) fun hpush => .ite (fun _ => ?_) fun _ => ?_
    · exact hnone _ (passes_bind (passes_captureError _) fun _ => passes_pure _)
    · exact startsFirst_bind (passes_emit rfl) fun _ => hsome (.inl hisDir) (hdir _ _ _ _ _ _ _)
    · exact hsome (.inl hisDir) (hdir _ _ _ _ _ _ _)
    · exact hnone _ (passes_bind (passes_emit rfl) fun _ => passes_pure _)
    · exact startsFirst_bind (passes_emit rfl) fun _ =>
        hsome (.inr (by simpa using hpush)) (hfile _ _ _ _ _ _ _ _)
    · exact hsome (.inr (by simpa using hpush)) (hfile _ _ _ _ _ _ _ _)

/-! ## What a source leaves -/

/-- A run that leaves nothing outstanding if it succeeds. -/
abbrev Settles (p : SyncM Bool) (c : SyncConnection) : Prop :=
  Prog.Ensures p c fun ok c' _ => ok = true → c'.Settled

theorem settles_false (c : SyncConnection) : Settles (pure false) c := .pure fun h => by cases h

theorem settles_readAcknowledgements {c : SyncConnection} (hc : c.Ordered) :
    Settles (readAcknowledgements env true) c :=
  (readAcknowledgements_runs env true c hc).ensures.mono fun _ _ _ h hok => h.settled hok rfl

/-- After a run that starts no reply, it is the rest that settles. -/
theorem settles_bind {α : Type} {p : SyncM α} {f : α → SyncM Bool} {c : SyncConnection}
    (hp : Prog.Keeps StartsNone p) (hc : c.Ordered) (hf : ∀ a c', c'.Ordered → Settles (f a) c') :
    Settles (p >>= f) c :=
  (hp.ensures c).bind fun a c' _ h => hf a c' (h hc).1.1

/-- After a run of requests and replies, too. -/
theorem settles_of_startsWith {α : Type} {p : SyncM α} {f : α → SyncM Bool} {c : SyncConnection}
    (hp : Prog.Keeps StartsWith p) (hf : ∀ a c', SameQueue c c' → Settles (f a) c') :
    Settles (p >>= f) c :=
  (hp.ensures c).bind fun a c' _ h => hf a c' h.1.1

/-- `sync_send` reads all answers where it checks the timestamp. -/
theorem settles_syncSend (lpath rpath : Bytes) (mtime mode : UInt32) (compression : CompressionType)
    (dryRun : Bool) (f : LocalFile) {c : SyncConnection} (hc : c.Settled) :
    Settles (syncSend env lpath rpath mtime mode true compression dryRun f) c := by
  refine settles_of_startsWith (startsWith_sameTimestamp env true _ _ _) fun same c₁ hqueue => ?_
  have hc₁ := hqueue.settled hc
  refine .ite (fun _ => .pure fun _ => hc₁) fun _ => ?_
  refine settles_bind (startsNone_sendFile env _ _ _ _ _ _ f) hc₁.ordered fun sent c₂ hc₂ => ?_
  exact .ite (fun _ => settles_readAcknowledgements env hc₂) fun _ => settles_false c₂

/-- `copy_local_dir_remote` reads all answers at its end. -/
theorem settles_copyLocalDirRemote (lpath rpath : Bytes) (tree : LocalTree)
    (checkTimes listOnly : Bool) (compression : CompressionType) (dryRun : Bool) {c : SyncConnection}
    (hc : c.Ordered) :
    Settles (copyLocalDirRemote env lpath rpath tree checkTimes listOnly compression dryRun) c := by
  have hpush : ∀ fileList c, c.Ordered →
      Settles (pushList env listOnly compression dryRun fileList) c := fun fileList c hc =>
    settles_bind (.allM startsNone_composes fun l _ => startsNone_pushListed env _ _ _ l) hc
      fun ok c' hc' => .ite (fun _ => settles_readAcknowledgements env hc') fun _ =>
        settles_false c'
  have hpasses : ∀ {α : Type} {p : SyncM α} {f : α → SyncM Bool} {c : SyncConnection},
      Prog.Keeps Passes p → c.Ordered → (∀ a c', c'.Ordered → Settles (f a) c') →
      Settles (p >>= f) c := fun hp => settles_bind (startsNone_of_passes hp)
  refine hpasses (passes_ensureTrailingSeparators _ _) hc fun ⟨l, r⟩ c₁ hc₁ =>
    hpasses (passes_remoteAncestors r) hc₁ fun directoryList c₂ hc₂ =>
    hpasses (passes_localBuildList env _ l r tree) hc₂ fun ⟨ok, lists⟩ c₃ hc₃ =>
    .ite (fun _ => settles_false c₃) fun _ => ?_
  -- What follows the check of the timestamps is `k`.
  have hrest : ∀ made (k : Option (List Listed) → SyncM Bool),
      (∀ checked c, c.Ordered → Settles (k checked) c) → ∀ c, c.Ordered → Settles (do
        if !made then return false
        else if checkTimes then checkTimestamps env lists.fileList >>= k
        else pushList env listOnly compression dryRun lists.fileList : SyncM Bool) c := by
    intro made k hk c hc
    refine .ite (fun _ => settles_false c) fun _ => .ite (fun _ => ?_) fun _ => hpush _ c hc
    exact settles_of_startsWith (startsWith_checkTimestamps env _) fun checked c' hqueue =>
      hk checked c' (hqueue.ordered hc)
  refine .ite (fun _ => hpasses (passes_mkdirDirectories env _ _) hc₃ fun made =>
      hrest made _ fun checked c hc => ?_) fun _ =>
    hpasses (passes_pure true) hc₃ fun made => hrest made _ fun checked c hc => ?_
  all_goals
    cases checked with
    | none => exact settles_false c
    | some fileList => exact hpush fileList c hc

/-- A source that succeeds leaves nothing outstanding where there was nothing: what is outstanding
at a source that asks for timestamps was left by one before it that failed. -/
theorem pushSource_settles (dst : Bytes) (dstStat : Option Stat) (compression : CompressionType)
    (dryRun : Bool) (src : LocalSource) {c : SyncConnection} (hc : c.Settled) :
    Prog.Ensures (pushSource env dst dstStat true compression dryRun src) c fun r c' _ =>
      r = some true → c'.Settled := by
  have hsome : ∀ {p : SyncM Bool} {c}, Settles p c → Prog.Ensures (some <$> p) c fun r c' _ =>
      r = some true → c'.Settled := fun hp => hp.map fun _ _ _ h hr => h (Option.some.inj hr)
  have hdir := fun lpath rpath => settles_copyLocalDirRemote env lpath rpath src.tree true false
    compression dryRun hc.ordered
  have hfile := fun rpath mtime mode => settles_syncSend env src.path rpath mtime mode compression
    dryRun src.file hc
  unfold pushSource
  cases src.stat with
  | error e =>
    intro r hr hr'
    obtain rfl : some false = r := Except.ok.inj hr
    cases hr'
  | ok st =>
    refine .ite (fun _ => .ite (fun _ => .ite (fun _ => ?_) fun _ => ?_) fun _ => hsome (hdir _ _))
      fun _ => .ite (fun _ => .emit_bind (.pure fun _ => hc)) fun _ => .ite (fun _ => ?_) fun _ =>
      hsome (hfile _ _ _)
    · intro r hr hr'
      obtain rfl : none = r := Except.ok.inj hr
      cases hr'
    · exact .emit_bind (hsome (hdir _ _))
    · exact .emit_bind (hsome (hfile _ _ _))

/-! ## A push -/

/-- An iteration of the loop of `do_sync_push`. -/
structure SourceRun where
  source : LocalSource
  /-- What was done for the sources before. -/
  earlier : List SyncEvent
  events : List SyncEvent
  result : Except SyncStop (Option Bool)

/-- An answer has been read for each file that the sources before have sent. -/
def SourceRun.EarlierAnswered (r : SourceRun) : Prop := sentFiles r.earlier = answeredFiles r.earlier

/-- The loop goes on without an error of this source. -/
def SourceRun.Succeeds (r : SourceRun) : Prop := r.result = .ok (some true)

instance (r : SourceRun) : Decidable r.Succeeds := by
  unfold SourceRun.Succeeds
  infer_instance

/-- The iterations of the loop. -/
def sourceRuns (dst : Bytes) (dstStat : Option Stat) (sync : Bool) (compression : CompressionType)
    (dryRun : Bool) : List LocalSource → List SyncEvent → SyncConnection → List SourceRun
  | [], _, _ => []
  | src :: srcs, earlier, c =>
    let run := pushSource env dst dstStat sync compression dryRun src c
    ⟨src, earlier, run.trace, run.result⟩ :: match run.result with
      | .ok (some _) =>
        sourceRuns dst dstStat sync compression dryRun srcs (earlier ++ run.trace) run.state
      | _ => []

/-- The iterations of a push. -/
def pushRuns (srcs : List LocalSource) (dst : Bytes) (sync : Bool) (compression : CompressionType)
    (dryRun : Bool) (c : SyncConnection) : List SourceRun :=
  let run := statPushDestination env dst c
  match run.result with
  | .ok (some dstStat) =>
    if dstStat.any fun st => isDir st.mode then
      sourceRuns env dst dstStat sync compression dryRun srcs [] run.state
    else
      match (checkPushDestination srcs.length dst dstStat.isSome run.state).result with
      | .ok true => sourceRuns env dst dstStat sync compression dryRun srcs [] run.state
      | _ => []
  | _ => []

/-- The files that were sent have been answered, or are outstanding. -/
def AccountedFor (earlier : List SyncEvent) (c : SyncConnection) : Prop :=
  sentFiles earlier = answeredFiles earlier ++ c.deferred

theorem accountedFor_nil {c : SyncConnection} (hc : c.Settled) : AccountedFor [] c := hc.1.symm

theorem AccountedFor.append {earlier t : List SyncEvent} {c c' : SyncConnection}
    (h : AccountedFor earlier c) (h' : Accounts c t c') : AccountedFor (earlier ++ t) c' := by
  unfold AccountedFor Accounts at *
  rw [sentFiles_append, h, List.append_assoc, h', answeredFiles_append,
    List.append_assoc]

/-- So all of them have been answered when nothing is outstanding. -/
theorem AccountedFor.settled_iff {earlier : List SyncEvent} {c : SyncConnection}
    (h : AccountedFor earlier c) (hc : c.Ordered) :
    c.Settled ↔ sentFiles earlier = answeredFiles earlier := by
  rw [h, List.append_right_eq_self]
  exact ⟨fun hsettled => hsettled.1, fun hnil => ⟨hnil, hc hnil⟩⟩

section Loop

variable (dst : Bytes) (dstStat : Option Stat) (sync : Bool) (compression : CompressionType)
  (dryRun : Bool) (srcs : List LocalSource)

/-- The loop starts its replies in turn exactly when all files have been answered at each source
that asks for one. -/
theorem pushSources_inTurn_iff : ∀ success earlier c, c.Ordered → AccountedFor earlier c →
    (InTurn (pushSources env dst dstStat sync compression dryRun success srcs c).trace ↔
      ∀ r ∈ sourceRuns env dst dstStat sync compression dryRun srcs earlier c,
        Asks r.events → r.EarlierAnswered) := by
  induction srcs with
  | nil =>
    intro success earlier c hc _
    have hread := startsNone_bind (startsNone_readAcknowledgements env true) fun settled =>
      startsNone_pure (success && settled)
    exact iff_of_true (hread c hc).2.inTurn fun _ hr => absurd hr List.not_mem_nil
  | cons src srcs ih =>
    intro success earlier c hc haccounted
    obtain ⟨⟨hc', haccounts⟩, hreplies, -⟩ :=
      startsFirst_pushSource env dst dstStat sync compression dryRun src c hc
    have hsource := hreplies.inTurn_iff.trans
      (imp_congr_right fun _ => haccounted.settled_iff hc)
    rw [pushSources, sourceRuns, List.forall_mem_cons]
    cases hrun : (pushSource env dst dstStat sync compression dryRun src c).result with
    | error x =>
      rw [Prog.bind_apply_error hrun]
      exact hsource.trans (and_iff_left fun _ hr => absurd hr List.not_mem_nil).symm
    | ok r =>
      rw [Prog.bind_apply_ok hrun, inTurn_after_iff]
      cases r with
      | none =>
        exact and_congr hsource (iff_of_true noReply_nil.inTurn fun _ hr =>
          absurd hr List.not_mem_nil)
      | some ok => exact and_congr hsource (ih _ _ _ hc' (haccounted.append haccounts))

/-- A source asks only with the sync flag, and where something is sent of it. -/
theorem sourceRuns_asks : ∀ earlier c, c.Ordered →
    ∀ r ∈ sourceRuns env dst dstStat sync compression dryRun srcs earlier c,
      Asks r.events → sync = true ∧ r.source.IsPushed := by
  induction srcs with
  | nil => exact fun _ _ _ _ hr => absurd hr List.not_mem_nil
  | cons src srcs ih =>
    intro earlier c hc r hr
    obtain ⟨⟨hc', -⟩, -, hasks⟩ :=
      startsFirst_pushSource env dst dstStat sync compression dryRun src c hc
    rw [sourceRuns] at hr
    obtain rfl | hr := List.mem_cons.mp hr
    · exact hasks
    · split at hr
      · exact ih _ _ hc' r hr
      · exact absurd hr List.not_mem_nil

/-- As long as no source fails, all files have been answered when the next one is taken up. -/
theorem sourceRuns_answered (hsync : sync = true) : ∀ earlier c, c.Settled → AccountedFor earlier c →
    (∀ r ∈ (sourceRuns env dst dstStat sync compression dryRun srcs earlier c).dropLast,
      r.Succeeds) →
    ∀ r ∈ sourceRuns env dst dstStat sync compression dryRun srcs earlier c, r.EarlierAnswered := by
  subst hsync
  induction srcs with
  | nil => exact fun _ _ _ _ _ _ hr => absurd hr List.not_mem_nil
  | cons src srcs ih =>
    intro earlier c hc haccounted hsucceeds r hr
    obtain ⟨⟨-, haccounts⟩, -⟩ :=
      startsFirst_pushSource env dst dstStat true compression dryRun src c hc.ordered
    rw [sourceRuns] at hr hsucceeds
    obtain rfl | hr := List.mem_cons.mp hr
    · exact (haccounted.settled_iff hc.ordered).mp hc
    · -- There is a source after this one, so it has not failed.
      have hne := List.ne_nil_of_mem hr
      rw [List.dropLast_cons_of_ne_nil hne, List.forall_mem_cons] at hsucceeds
      have hok : (pushSource env dst dstStat true compression dryRun src c).result =
          .ok (some true) := hsucceeds.1
      have hc' := pushSource_settles env dst dstStat compression dryRun src hc _ hok rfl
      rw [hok] at hr hsucceeds
      exact ih _ _ hc' (haccounted.append haccounts) hsucceeds.2 r hr

end Loop

/-- Whether the loop is entered is a question of the arguments. -/
theorem checkPushDestination_runs (sources : ℕ) (dst : Bytes) (dstExists : Bool)
    (c : SyncConnection) :
    Prog.Runs (checkPushDestination sources dst dstExists) c fun _ c' t => c' = c ∧ NoReply t := by
  have hsingle : ∀ {e : SyncEvent} {t}, e.isReply = false → NoReply t → NoReply (e :: t) :=
    fun he ht e' he' => (List.mem_cons.mp he').elim (fun h => h ▸ he) (ht e')
  unfold checkPushDestination
  split
  · exact ⟨_, rfl, rfl, hsingle rfl (hsingle rfl noReply_nil)⟩
  · refine .emit_bind ?_
    split
    · exact ⟨_, rfl, rfl, hsingle rfl (hsingle rfl (hsingle rfl noReply_nil))⟩
    · exact ⟨_, rfl, rfl, hsingle rfl noReply_nil⟩

/-- The destination is asked for in turn on a new connection, and this leaves nothing
outstanding. -/
theorem statPushDestination_startsWith (dst : Bytes) :
    Prog.Keeps StartsWith (statPushDestination env dst) := by
  refine startsWith_bind (startsWith_of_replies (replies_syncStatFallback env dst)) fun r => ?_
  cases r with
  | some st => exact startsWith_pure _
  | none =>
    refine startsWith_bind (.get startsWith_composes) fun c =>
      .ite (fun _ => startsWith_pure _) fun _ =>
      startsWith_of_passes (passes_bind (passes_captureError _) fun _ => passes_pure none)

end Sends

/-- A push on a settled connection does not get to its loop, or enters it with nothing outstanding
still, and all its replies before are in turn. -/
theorem doSyncPush_enters (env : SyncEnv) (srcs : List LocalSource) (dst : Bytes) (sync : Bool)
    (compression : CompressionType) (dryRun : Bool) {c : SyncConnection} (hc : c.Settled) :
    (pushRuns env srcs dst sync compression dryRun c = [] ∧
      InTurn (doSyncPush env srcs dst sync compression dryRun c).trace) ∨
    ∃ dstStat c', c'.Settled ∧
      pushRuns env srcs dst sync compression dryRun c =
        sourceRuns env dst dstStat sync compression dryRun srcs [] c' ∧
      (InTurn (doSyncPush env srcs dst sync compression dryRun c).trace ↔
        InTurn (pushSources env dst dstStat sync compression dryRun true srcs c').trace) := by
  obtain ⟨⟨hqueue, -⟩, hreplies⟩ := statPushDestination_startsWith env dst c
  have hturn : InTurn (statPushDestination env dst c).trace :=
    hreplies.inTurn_iff.mpr fun _ => hc
  have hsettled := hqueue.settled hc
  rw [doSyncPush, pushRuns]
  cases hrun : (statPushDestination env dst c).result with
  | error x =>
    rw [Prog.bind_apply_error hrun]
    exact .inl ⟨rfl, hturn⟩
  | ok r =>
    rw [Prog.bind_apply_ok hrun, inTurn_after_iff]
    cases r with
    | none => exact .inl ⟨rfl, hturn, noReply_nil.inTurn⟩
    | some dstStat =>
      dsimp only
      split
      · exact .inr ⟨dstStat, _, hsettled, rfl, and_iff_right hturn⟩
      · obtain ⟨goesOn, hcheck, hsame, hnone⟩ :=
          checkPushDestination_runs srcs.length dst dstStat.isSome (statPushDestination env dst c).state
        rw [Prog.bind_apply_ok hcheck, inTurn_after_iff, hcheck, hsame]
        cases goesOn with
        | false => exact .inl ⟨rfl, hturn, hnone.inTurn, noReply_nil.inTurn⟩
        | true =>
          exact .inr ⟨dstStat, _, hsettled, rfl,
            (and_iff_right hturn).trans (and_iff_right hnone.inTurn)⟩

/-- The replies of a push on a new connection, for all sources, flags and answers, are read in turn
exactly when at each source that asks for one an answer has been read for every file that the sources
before have sent. Only a source of which something is sent asks, and only with the sync flag; and as
long as no source fails, its files have been answered when the next one is taken up. -/
theorem replies_in_turn_iff (env : SyncEnv) (srcs : List LocalSource) (dst : Bytes) (sync : Bool)
    (compression : CompressionType) (dryRun : Bool) (input : Bytes)
    (decodes : List (DecodeResult × Bytes)) (files : Bytes → Option Bytes) :
    let c := SyncConnection.new input decodes files
    let runs := pushRuns env srcs dst sync compression dryRun c
    (InTurn (doSyncPush env srcs dst sync compression dryRun c).trace ↔
      ∀ r ∈ runs, Asks r.events → r.EarlierAnswered) ∧
    (∀ r ∈ runs, Asks r.events → sync = true ∧ r.source.IsPushed) ∧
    (sync = true → (∀ r ∈ runs.dropLast, r.Succeeds) → ∀ r ∈ runs, r.EarlierAnswered) := by
  intro c runs
  obtain ⟨hnone : runs = [], hturn⟩ | ⟨dstStat, c', hc', hruns : runs = _, hturn⟩ :=
    doSyncPush_enters env srcs dst sync compression dryRun (c := c) ⟨rfl, rfl⟩
  · have hall : ∀ {Q : SourceRun → Prop}, ∀ r ∈ runs, Q r := fun r hr =>
      absurd (hnone ▸ hr) List.not_mem_nil
    exact ⟨iff_of_true hturn hall, hall, fun _ _ => hall⟩
  · have haccounted := accountedFor_nil hc'
    rw [hruns, hturn]
    exact ⟨pushSources_inTurn_iff env dst dstStat sync compression dryRun srcs true [] c' hc'.ordered
        haccounted,
      sourceRuns_asks env dst dstStat sync compression dryRun srcs [] c' hc'.ordered,
      fun hsync => sourceRuns_answered env dst dstStat sync compression dryRun srcs hsync [] c' hc'
        haccounted⟩

/-- A client without features, for which nothing is ready to be read without blocking. -/
def unreadyEnv : SyncEnv := { SyncEnv.calm [] with pollReady := fun _ => false }

/-- A regular file of one byte, if it can be read. -/
def smallFile (contents : Except Errno Bytes) : LocalFile where
  target := .error (.other 22)
  stat := .ok ⟨sIfreg, 1, 1⟩
  contents := contents
  statAgain := .ok ⟨sIfreg, 1, 1⟩
  openError := none
  reads := []
  readError := none
  encodes _ := ⟨[], false⟩

/-- A source that is such a file. -/
def smallSource (path : Bytes) : LocalSource :=
  ⟨path, .ok ⟨sIfreg, 1, 1⟩, smallFile (.ok [65]), .nil⟩

/-- A source that is a directory with two files, of which the second one cannot be read. -/
def directorySource : LocalSource where
  path := lit "d"
  stat := .ok ⟨sIfdir, 0, 0⟩
  file := smallFile (.error (.other 21))
  tree := .entry (lit "a") (.ok ⟨sIfreg, 1, 1⟩) (smallFile (.ok [65])) .nil
    (.entry (lit "b") (.ok ⟨sIfreg, 1, 1⟩) (smallFile (.error (.other 5))) .nil .nil)

/-- The reply for a file that the device has with another timestamp. -/
def olderFile : Bytes :=
  wordBytes SyncId.lstatV1.word ++ wordBytes sIfreg ++ wordBytes 1 ++ wordBytes 0

/-- The reply for a directory of the device. -/
def directoryReply : Bytes :=
  wordBytes SyncId.lstatV1.word ++ wordBytes sIfdir ++ wordBytes 0 ++ wordBytes 0

/-- The answer to a file that was sent. -/
def okay : Bytes := wordBytes SyncId.okay.word ++ wordBytes 0

/-- Two files are pushed with `--sync` to a device that takes them. -/
theorem replies_in_turn_okay :
    InTurn (doSyncPush unreadyEnv [smallSource (lit "a"), smallSource (lit "b")] (lit "/sdcard") true
      .none false (.new (directoryReply ++ olderFile ++ okay ++ olderFile ++ okay) [] fun _ =>
        none)).trace := by
  have hsucceeds : ((pushRuns unreadyEnv [smallSource (lit "a"), smallSource (lit "b")]
      (lit "/sdcard") true .none false (.new (directoryReply ++ olderFile ++ okay ++ olderFile ++ okay)
        [] fun _ => none)).dropLast).all (·.Succeeds) = true := by decide +kernel
  obtain ⟨hturn, -, hanswered⟩ := replies_in_turn_iff unreadyEnv [smallSource (lit "a"),
    smallSource (lit "b")] (lit "/sdcard") true .none false
    (directoryReply ++ olderFile ++ okay ++ olderFile ++ okay) [] fun _ => none
  exact hturn.mpr fun r hr _ => hanswered rfl
    (fun r hr => of_decide_eq_true (List.all_eq_true.mp hsucceeds r hr)) r hr

/-- A file of the directory is sent, the next one cannot be read, and the loop takes up the second
source: its reply starts while the first file has no answer. -/
theorem reply_out_of_turn :
    ¬ ∀ (env : SyncEnv) (srcs : List LocalSource) (dst : Bytes) (sync : Bool)
      (compression : CompressionType) (dryRun : Bool) (input : Bytes)
      (decodes : List (DecodeResult × Bytes)) (files : Bytes → Option Bytes),
      InTurn (doSyncPush env srcs dst sync compression dryRun (.new input decodes files)).trace := by
  intro hall
  have hturn := hall unreadyEnv [directorySource,
      smallSource (lit "e")] (lit "/sdcard") true .none false
    (directoryReply ++ olderFile ++ olderFile ++ okay ++ olderFile) [] (fun _ => none)
    [(lit "d/a", lit "/sdcard/d/a")] [] (by decide +kernel)
  exact absurd hturn.1 (by decide)

end AdbMobile.Sync
