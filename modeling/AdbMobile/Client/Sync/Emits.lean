import AdbMobile.Client.Sync.Push

/-!
# What a program of the sync client emits

Some properties of a run are properties of each of its events, whatever the device answers: what a
message may look like that is written, and which strings are looked at from their end. A program
keeps such a property if its parts do, and for the requests, the replies and the acknowledgements
that is shown here once, for every property of messages and of strings. Messages without data are
allowed throughout, so what is to be shown of a transfer is what its blocks are.
-/

namespace AdbMobile.Sync

open ByteString PosixPath

/-- The event writes only messages of `P`, and reads the last byte only of a string of `B`. -/
def SyncEvent.Allowed (P : SyncMessage → Prop) (B : Bytes → Prop) : SyncEvent → Prop
  | .wrote ms => ∀ m ∈ ms, P m
  | .back s => B s
  | _ => True

/-- All events of a run are allowed. -/
abbrev Emits (P : SyncMessage → Prop) (B : Bytes → Prop) (_ : SyncConnection)
    (t : List SyncEvent) (_ : SyncConnection) : Prop :=
  ∀ e ∈ t, e.Allowed P B

/-- All events of a run meet `A`. -/
abbrev EmitsOnly (A : SyncEvent → Prop) (_ : SyncConnection) (t : List SyncEvent)
    (_ : SyncConnection) : Prop :=
  ∀ e ∈ t, A e

/-- The message carries no data. -/
def SyncMessage.isData : SyncMessage → Bool
  | .data _ => true
  | _ => false

/-- The event is one of a transfer that is not a write. -/
def SyncEvent.isOfTransfer : SyncEvent → Bool
  | .startsReply .. | .header .. | .fill .. | .store .. | .fileSent .. | .acknowledged ..
  | .copyFailed .. | .timestampMatched .. | .captured _ | .error _ | .info _ | .logFatal _ => true
  | _ => false

/-- A property of the events of a transfer. -/
class AllowsTransfer (A : SyncEvent → Prop) : Prop where
  of_transfer : ∀ e : SyncEvent, e.isOfTransfer → A e

/-- A property of the writes of messages of `P`. -/
class AllowsWrites (P : outParam (SyncMessage → Prop)) (A : SyncEvent → Prop) : Prop where
  of_wrote : ∀ ms : List SyncMessage, (∀ m ∈ ms, P m) → A (.wrote ms)

/-- A property of the events of a walk through a local directory. -/
class AllowsWalk (A : SyncEvent → Prop) : Prop where
  of_warning : ∀ text, A (.warning text)
  of_unexamined : ∀ path, A (.unexamined path)
  of_back : ∀ s, s ≠ [] → A (.back s)

/-- Requests for the status of a file are allowed. -/
def AllowsStat (P : SyncMessage → Prop) : Prop :=
  ∀ id ∈ [SyncId.lstatV1, .statV2, .lstatV2], ∀ path : Bytes, path.length ≤ 1024 →
    P (.request id path)

instance (P : SyncMessage → Prop) (B : Bytes → Prop) : AllowsTransfer (SyncEvent.Allowed P B) where
  of_transfer e he := by cases e <;> trivial

instance (P : SyncMessage → Prop) (B : Bytes → Prop) :
    AllowsWrites P (SyncEvent.Allowed P B) where
  of_wrote _ hms := hms

section Emits

variable {A : SyncEvent → Prop} {P : SyncMessage → Prop}

theorem emits_composes : Prog.Composes (EmitsOnly A) := Prog.composes_forall _

theorem emits_pure {α : Type} (a : α) : Prog.Keeps (EmitsOnly A) (pure a : SyncM α) :=
  .pure emits_composes a

theorem emits_bind {α β : Type} {p : SyncM α} {f : α → SyncM β} (hp : Prog.Keeps (EmitsOnly A) p)
    (hf : ∀ a, Prog.Keeps (EmitsOnly A) (f a)) : Prog.Keeps (EmitsOnly A) (p >>= f) :=
  .bind emits_composes hp hf

theorem emits_get : Prog.Keeps (EmitsOnly A) (Prog.get : SyncM SyncConnection) :=
  .get emits_composes

theorem emits_modify (g : SyncConnection → SyncConnection) :
    Prog.Keeps (EmitsOnly A) (Prog.modify g : SyncM Unit) := fun _ _ he => absurd he List.not_mem_nil

/-- An event that is allowed. -/
theorem emits_emit {e : SyncEvent} (he : A e) :
    Prog.Keeps (EmitsOnly A) (Prog.emit e : SyncM Unit) := fun _ _ he' =>
  List.mem_singleton.mp he' ▸ he

theorem emits_setErrno (e : Errno) : Prog.Keeps (EmitsOnly A) (setErrno e) := emits_modify _

variable (env : SyncEnv)

theorem emits_strerrno : Prog.Keeps (EmitsOnly A) (strerrno env) :=
  emits_bind emits_get fun _ => emits_pure _

theorem emits_nextCall : Prog.Keeps (EmitsOnly A) nextCall :=
  emits_bind emits_get fun _ => emits_bind (emits_modify _) fun _ => emits_pure _

theorem emits_readFdExactly (n : ℕ) : Prog.Keeps (EmitsOnly A) (readFdExactly env n) := fun c => by
  obtain ⟨r, -, htrace, -⟩ := readFdExactly_runs env n c
  rw [htrace]
  exact fun _ he => absurd he List.not_mem_nil

/-- A write that is allowed as a whole. -/
theorem emits_wrote {ms : List SyncMessage} (hms : A (.wrote ms)) :
    Prog.Keeps (EmitsOnly A) (writeFdExactly env ms) := fun c => by
  obtain ⟨ok, -, htrace, -⟩ := writeFdExactly_runs env ms c
  rw [htrace]
  cases ok with
  | false => exact fun _ he => absurd he List.not_mem_nil
  | true => exact fun e he => List.mem_singleton.mp he ▸ hms

variable [AllowsWrites P A]

/-- A write of messages that are allowed. -/
theorem emits_writeFdExactly {ms : List SyncMessage} (hms : ∀ m ∈ ms, P m) :
    Prog.Keeps (EmitsOnly A) (writeFdExactly env ms) :=
  emits_wrote env (AllowsWrites.of_wrote ms hms)

variable [AllowsTransfer A]

/-- An event of a transfer. -/
theorem emits_transfer {e : SyncEvent} (he : e.isOfTransfer) :
    Prog.Keeps (EmitsOnly A) (Prog.emit e : SyncM Unit) :=
  emits_emit (AllowsTransfer.of_transfer e he)

theorem emits_error (text : Bytes) : Prog.Keeps (EmitsOnly A) (error text) := emits_transfer rfl

theorem emits_reportCopyFailure (lpath rpath : Bytes) (size : UInt32) :
    Prog.Keeps (EmitsOnly A) (reportCopyFailure env lpath rpath size) := by
  refine emits_bind (emits_transfer rfl) fun _ =>
    emits_bind (emits_readFdExactly env _) fun ⟨ok, reason⟩ => .ite (fun _ => ?_) fun _ => ?_
  · exact emits_bind (emits_strerrno env) fun _ => emits_error _
  · exact emits_bind (emits_transfer rfl) fun _ => emits_error _

/-- What `WriteOrDie` does after a write that failed only reads. -/
theorem emits_writeOrDie (lpath rpath : Bytes) {ms : List SyncMessage} (hms : ∀ m ∈ ms, P m) :
    Prog.Keeps (EmitsOnly A) (writeOrDie env lpath rpath ms) := by
  have hexit : Prog.Keeps (EmitsOnly A) (Prog.exit (.exited 1) : SyncM Bool) :=
    .exit emits_composes _
  refine emits_bind (emits_writeFdExactly env hms) fun ok =>
    .ite (fun _ => emits_pure true) fun _ => ?_
  refine emits_bind emits_get fun c => .ite (fun _ => ?_) fun _ => ?_
  · refine emits_bind (emits_readFdExactly env _) fun ⟨ok, msg⟩ => .ite (fun _ => ?_) fun _ => ?_
    · exact emits_bind (emits_strerrno env) fun _ => emits_bind (emits_error _) fun _ => hexit
    · refine emits_bind (emits_transfer rfl) fun _ => .ite (fun _ => ?_) fun _ => ?_
      · exact emits_bind (emits_error _) fun _ => hexit
      · exact emits_bind (emits_reportCopyFailure env _ _ _) fun _ => hexit
  · exact emits_bind (emits_strerrno env) fun _ => emits_bind (emits_error _) fun _ => hexit

/-! ## The parts of a transfer -/

theorem emits_sendBlocks (lpath rpath : Bytes) {blocks : List Bytes}
    (hblocks : ∀ block ∈ blocks, P (.data block)) :
    Prog.Keeps (EmitsOnly A) (sendBlocks env lpath rpath blocks) := by
  induction blocks with
  | nil => exact emits_pure ()
  | cons block blocks ih =>
    have hblock : ∀ m ∈ [SyncMessage.data block], P m := fun m hm =>
      List.mem_singleton.mp hm ▸ hblocks block List.mem_cons_self
    exact emits_bind (emits_writeOrDie env lpath rpath hblock) fun _ =>
      ih fun b hb => hblocks b (List.mem_cons_of_mem block hb)

/-- A request that is allowed when its path is not too long. -/
theorem emits_request {id : SyncId} {path : Bytes}
    (hpath : path.length ≤ 1024 → P (.request id path)) :
    Prog.Keeps (EmitsOnly A) (sendRequest env id path) :=
  .ite (fun _ => emits_bind (emits_error _) fun _ => emits_bind (emits_setErrno _) fun _ =>
    emits_pure false) fun hle => emits_writeFdExactly env fun _ hm =>
      List.mem_singleton.mp hm ▸ hpath (Nat.not_lt.mp hle)

theorem emits_recordFileSent (lpath rpath : Bytes) :
    Prog.Keeps (EmitsOnly A) (recordFileSent lpath rpath) :=
  emits_bind (emits_modify _) fun _ => emits_transfer rfl

theorem emits_failWith (e : Errno) (text : Bytes) : Prog.Keeps (EmitsOnly A) (failWith env e text) :=
  emits_bind (emits_setErrno e) fun _ => emits_bind (emits_error _) fun _ => emits_pure false

theorem emits_openLargeFile (lpath : Bytes) (f : LocalFile) {send : SyncM Bool}
    (hsend : Prog.Keeps (EmitsOnly A) send) :
    Prog.Keeps (EmitsOnly A) (openLargeFile env lpath f send) := by
  unfold openLargeFile
  cases f.statAgain with
  | error e => exact emits_failWith env e _
  | ok st =>
    cases f.openError with
    | some e => exact emits_failWith env e _
    | none => exact hsend

section Requests

variable (hP : ∀ m : SyncMessage, m.isData = false → P m)

include hP

theorem emits_finishLargeFile (lpath rpath : Bytes) (mtime : UInt32) :
    Prog.Keeps (EmitsOnly A) (finishLargeFile env lpath rpath mtime) :=
  emits_bind (emits_recordFileSent lpath rpath) fun _ =>
    emits_writeOrDie env lpath rpath fun _ hm => List.mem_singleton.mp hm ▸ hP _ rfl

theorem emits_sendRequest (id : SyncId) (path : Bytes) :
    Prog.Keeps (EmitsOnly A) (sendRequest env id path) := emits_request env fun _ => hP _ rfl

omit [AllowsTransfer A] in
/-- A request with a structure behind it. -/
theorem emits_requestAndSetup {request setup : SyncMessage} (hrequest : request.isData = false)
    (hsetup : setup.isData = false) :
    Prog.Keeps (EmitsOnly A) (writeFdExactly env [request, setup]) :=
  emits_writeFdExactly env fun _ hm => (List.mem_cons.mp hm).elim (fun h => h ▸ hP _ hrequest)
    fun h => List.mem_singleton.mp h ▸ hP _ hsetup

theorem emits_sendSend2 (path : Bytes) (mode : UInt32) (compression : CompressionType)
    (dryRun : Bool) : Prog.Keeps (EmitsOnly A) (sendSend2 env path mode compression dryRun) := by
  have hwrite : ∀ flags, Prog.Keeps (EmitsOnly A)
      (writeFdExactly env [.request .sendV2 path, .sendV2Setup mode flags]) := fun flags =>
    emits_requestAndSetup env hP rfl rfl
  refine .ite (fun _ => ?_) fun _ => .ite (fun _ => ?_) fun _ => hwrite _
  · exact emits_bind (emits_error _) fun _ => emits_bind (emits_setErrno _) fun _ =>
      emits_pure false
  · exact emits_bind (emits_transfer rfl) fun _ => hwrite _

end Requests

section Files

variable (hP : ∀ m : SyncMessage, m.isData = false → P m) {f : LocalFile}
  (hreads : ∀ block ∈ f.reads, P (.data block))

include hP hreads

/-- The blocks that `SendLargeFileLegacy` sends are the reads. -/
theorem emits_sendLargeFileLegacy (path : Bytes) (mode : UInt32) (lpath rpath : Bytes)
    (mtime : UInt32) :
    Prog.Keeps (EmitsOnly A) (sendLargeFileLegacy env path mode lpath rpath mtime f) := by
  have hblocks : ∀ block ∈ f.blocks, P (.data block) := fun block hblock =>
    hreads block ((List.takeWhile_sublist _).subset hblock)
  refine emits_bind (emits_sendRequest env hP _ _) fun ok => .ite (fun _ => ?_) fun _ => ?_
  · exact emits_bind (emits_strerrno env) fun _ => emits_bind (emits_error _) fun _ =>
      emits_pure false
  · refine emits_openLargeFile env lpath f (emits_bind (emits_sendBlocks env _ _ hblocks) fun _ => ?_)
    cases f.readError with
    | some e => exact emits_failWith env e _
    | none => exact emits_finishLargeFile env hP lpath rpath mtime

variable (hencodes : ∀ i, ∀ output ∈ (f.encodes i).outputs, P (.data output))

include hencodes

/-- Those that `SendLargeFile` sends are outputs of the encoder. -/
theorem emits_sendLargeFile (path : Bytes) (mode : UInt32) (lpath rpath : Bytes) (mtime : UInt32)
    (compression : CompressionType) (dryRun : Bool) :
    Prog.Keeps (EmitsOnly A) (sendLargeFile env path mode lpath rpath mtime compression dryRun f) := by
  have hencoded : ∀ i, Prog.Keeps (EmitsOnly A) (sendEncoded env lpath rpath (f.encodes i)) := by
    intro i
    have houtputs : ∀ block ∈ (f.encodes i).outputs.filter (· ≠ []), P (.data block) :=
      fun block hblock => hencodes i block (List.mem_filter.mp hblock).1
    refine emits_bind (emits_sendBlocks env _ _ houtputs) fun _ => .ite (fun _ => ?_) fun _ => ?_
    · exact emits_bind (emits_error _) fun _ => emits_pure false
    · exact emits_pure true
  refine .ite (fun _ => emits_bind (emits_error _) fun _ => emits_pure false) fun _ =>
    .ite (fun _ => emits_sendLargeFileLegacy env hP hreads path mode lpath rpath mtime) fun _ => ?_
  refine emits_bind (emits_sendSend2 env hP _ _ _ _) fun ok => .ite (fun _ => ?_) fun _ => ?_
  · exact emits_bind (emits_strerrno env) fun _ => emits_bind (emits_error _) fun _ =>
      emits_pure false
  · refine emits_openLargeFile env lpath f (emits_bind
      (.allM emits_composes fun i _ => hencoded i) fun ok => .ite (fun _ => emits_pure false)
        fun _ => ?_)
    cases f.readError with
    | some e => exact emits_failWith env e _
    | none =>
      exact emits_bind (hencoded _) fun ok =>
        .ite (fun _ => emits_finishLargeFile env hP lpath rpath mtime) fun _ => emits_pure false

/-- `SendSmallFile` sends what it is given, in one message, unless it leaves it to `SendLargeFile`
or refuses the path. -/
theorem emits_sendSmallFile (path : Bytes) (mode : UInt32) (lpath rpath : Bytes) (mtime : UInt32)
    {data : Bytes} (dryRun : Bool)
    (hdata : dryRun = false → (pathAndMode path mode).length ≤ 1024 → P (.data data)) :
    Prog.Keeps (EmitsOnly A) (sendSmallFile env path mode lpath rpath mtime data dryRun f) := by
  refine .ite (fun _ => emits_sendLargeFile env hP hreads hencodes _ _ _ _ _ _ _) fun hdry =>
    .ite (fun _ => ?_) fun hpath => ?_
  · exact emits_bind (emits_error _) fun _ => emits_bind (emits_setErrno _) fun _ =>
      emits_pure false
  · have hallowed : P (.data data) := hdata (Bool.eq_false_iff.mpr hdry) (Nat.not_lt.mp hpath)
    refine emits_bind (emits_writeOrDie env _ _ fun m hm => ?_) fun _ =>
      emits_bind (emits_recordFileSent _ _) fun _ => emits_pure true
    simp only [List.mem_cons, List.not_mem_nil, or_false] at hm
    obtain rfl | rfl | rfl := hm
    · exact hP _ rfl
    · exact hallowed
    · exact hP _ rfl

/-- A link is sent as its text, and a small file as what is read of it. -/
theorem emits_sendFile (lpath rpath : Bytes) (mtime mode : UInt32) (compression : CompressionType)
    (dryRun : Bool) (htarget : ∀ target, f.target = .ok target → P (.data (target ++ [0])))
    (hcontents : isLnk mode = false → dryRun = false → (pathAndMode rpath mode).length ≤ 1024 →
      ∀ st data, f.stat = .ok st → st.size < syncDataMax → f.contents = .ok data →
        P (.data data)) :
    Prog.Keeps (EmitsOnly A) (sendFile env lpath rpath mtime mode compression dryRun f) := by
  refine .ite (fun _ => ?_) fun hlnk => ?_
  · cases hlink : f.target with
    | error e => exact emits_bind (emits_setErrno e) fun _ => emits_bind (emits_error _) fun _ =>
        emits_pure false
    | ok target =>
      exact emits_sendSmallFile env hP hreads hencodes _ _ _ _ _ dryRun fun _ _ =>
        htarget target hlink
  · cases hstat : f.stat with
    | error e => exact emits_failWith env e _
    | ok st =>
      refine .ite (fun hsize => ?_) fun _ =>
        emits_sendLargeFile env hP hreads hencodes _ _ _ _ _ _ _
      cases hread : f.contents with
      | error e => exact emits_failWith env e _
      | ok data =>
        exact emits_sendSmallFile env hP hreads hencodes _ _ _ _ _ dryRun fun hdry hpath =>
          hcontents (Bool.eq_false_iff.mpr hlnk) hdry hpath st data hstat hsize hread

end Files

/-! ## Around a transfer -/

section Replies

variable (hP : AllowsStat P)

include hP

theorem emits_sendLstat (path : Bytes) : Prog.Keeps (EmitsOnly A) (sendLstat env path) :=
  .ite (fun _ => emits_request env (hP _ (by decide) path)) fun _ =>
    emits_request env (hP _ (by decide) path)

omit hP in
/-- `FinishStat` reads, and logs what it does not like. -/
theorem emits_finishStat : Prog.Keeps (EmitsOnly A) (finishStat env) := by
  have hlog : ∀ fault text, Prog.Keeps (EmitsOnly A) (logFatalIf fault text) := fun fault text =>
    .ite (fun _ => emits_transfer rfl) fun _ => emits_pure ()
  have hfail : ∀ e, Prog.Keeps (EmitsOnly A) (do
      setErrno e
      return none : SyncM (Option Stat)) := fun e =>
    emits_bind (emits_setErrno e) fun _ => emits_pure none
  have hstart : Prog.Keeps (EmitsOnly A) startReply :=
    emits_bind emits_get fun _ => emits_transfer rfl
  refine emits_bind hstart fun _ => .ite (fun _ => ?_) fun _ => ?_
  · exact emits_bind (emits_readFdExactly env _) fun ⟨ok, msg⟩ => emits_bind (hlog _ _) fun _ =>
      emits_bind (hlog _ _) fun _ => .ite (fun _ => hfail _) fun _ => emits_pure _
  · exact emits_bind (emits_readFdExactly env _) fun ⟨ok, msg⟩ => emits_bind (hlog _ _) fun _ =>
      emits_bind (hlog _ _) fun _ => .ite (fun _ => hfail _) fun _ => emits_pure _

theorem emits_syncLstat (path : Bytes) : Prog.Keeps (EmitsOnly A) (syncLstat env path) :=
  emits_bind (emits_sendLstat env hP path) fun _ => .ite (fun _ => emits_finishStat env) fun _ =>
    emits_pure none

theorem emits_syncStat (path : Bytes) : Prog.Keeps (EmitsOnly A) (syncStat env path) := by
  refine emits_bind (.ite (fun _ => emits_request env (hP _ (by decide) path)) fun _ => ?_) fun _ =>
    .ite (fun _ => emits_finishStat env) fun _ => emits_pure none
  exact emits_bind (emits_setErrno _) fun _ => emits_pure false

/-- The emulation makes three requests at most. -/
theorem emits_syncStatFallback (path : Bytes) :
    Prog.Keeps (EmitsOnly A) (syncStatFallback env path) := by
  refine emits_bind (emits_syncStat env hP path) fun r => ?_
  cases r with
  | some st => exact emits_pure _
  | none =>
    refine emits_bind emits_get fun c => .ite (fun _ => emits_pure none) fun _ =>
      emits_bind (emits_syncLstat env hP path) fun r => ?_
    cases r with
    | none => exact emits_pure none
    | some st =>
      refine .ite (fun _ => emits_bind (emits_syncLstat env hP _) fun r => ?_) fun _ => emits_pure _
      cases r with
      | none => exact emits_pure _
      | some st' => exact emits_pure _

theorem emits_sameTimestamp (sync : Bool) (lpath rpath : Bytes) (mtime : UInt32) :
    Prog.Keeps (EmitsOnly A) (sameTimestamp env sync lpath rpath mtime) := by
  refine .ite (fun _ => emits_bind (emits_syncLstat env hP rpath) fun r => ?_) fun _ =>
    emits_pure false
  cases r with
  | none => exact emits_pure false
  | some st =>
    exact .ite (fun _ => emits_bind (emits_transfer rfl) fun _ => emits_pure true) fun _ =>
      emits_pure false

end Replies

omit [AllowsTransfer A] in
theorem emits_adbRead (n : ℕ) : Prog.Keeps (EmitsOnly A) (adbRead env n) := by
  refine emits_bind emits_nextCall fun k => emits_bind emits_get fun c => ?_
  cases env.readError k with
  | some r => exact emits_bind (emits_setErrno _) fun _ => emits_pure none
  | none =>
    exact .ite (fun _ => emits_pure none) fun _ => emits_bind (emits_modify _) fun _ => emits_pure _

theorem emits_readUntilAmount (shouldBlock : Bool) (amount : ℕ) :
    Prog.Keeps (EmitsOnly A) (readUntilAmount env shouldBlock amount) := by
  have hmay : Prog.Keeps (EmitsOnly A) (mayRead env shouldBlock) :=
    .ite (fun _ => emits_pure true) fun _ => emits_bind emits_nextCall fun _ => emits_pure _
  refine .loop emits_composes (fun _ => emits_bind emits_get fun c => .ite (fun _ => emits_pure _)
    fun _ => emits_bind hmay fun ok => .ite (fun _ => emits_pure _) fun _ => ?_) _ _
  refine emits_bind (emits_transfer rfl) fun _ => emits_bind (emits_adbRead env _) fun read => ?_
  cases read with
  | none => exact emits_bind (emits_error _) fun _ => emits_pure _
  | some read =>
    exact emits_bind (emits_modify _) fun _ => .ite (fun _ => emits_pure _) fun _ => emits_pure _

/-- Reading answers writes nothing. -/
theorem emits_readAcknowledgements (readAll : Bool) :
    Prog.Keeps (EmitsOnly A) (readAcknowledgements env readAll) := by
  have hpop : Prog.Keeps (EmitsOnly A) popDeferred :=
    emits_bind emits_get fun _ => emits_bind (emits_modify _) fun _ => emits_pure _
  refine emits_bind emits_get fun c => .loop emits_composes (fun _ => emits_bind emits_get fun c =>
    .ite (fun _ => emits_pure _) fun _ =>
      emits_bind (emits_readUntilAmount env _ _) fun status => ?_) _ _
  cases status with
  | tryLater => exact emits_pure _
  | failure => exact emits_pure _
  | success =>
    refine emits_bind emits_get fun c => .ite (fun _ => ?_) fun _ => .ite (fun _ => ?_) fun _ =>
      .ite (fun _ => ?_) fun _ => ?_
    · refine emits_bind (emits_modify _) fun _ => .ite (fun _ => ?_) fun _ => ?_
      · exact emits_bind (emits_error _) fun _ => emits_pure _
      · exact emits_bind (emits_bind hpop fun _ => emits_transfer rfl) fun _ => emits_pure _
    · exact emits_bind (emits_error _) fun _ => emits_pure _
    · exact emits_bind (emits_error _) fun _ => emits_pure _
    · refine emits_bind (emits_readUntilAmount env _ _) fun status => ?_
      cases status with
      | tryLater => exact emits_pure _
      | failure => exact emits_pure _
      | success =>
        refine emits_bind emits_get fun c => emits_bind (emits_bind hpop fun _ => ?_) fun _ =>
          emits_bind (emits_modify _) fun _ => emits_pure _
        exact emits_bind (emits_error _) fun _ => emits_transfer rfl

theorem emits_captureError (text : Bytes) : Prog.Keeps (EmitsOnly A) (captureError text) :=
  emits_bind (emits_transfer rfl) fun _ => emits_error text

/-! ## Walking a directory -/

section Walk

variable [AllowsWalk A] {l r : Bytes} (hl : A (.back l)) (hr : A (.back r))

omit [AllowsWrites P A] [AllowsTransfer A] in
theorem emits_withSeparator (path : Bytes) : A (.back (withSeparator path)) :=
  AllowsWalk.of_back _ (withSeparator_ne_nil path)

omit [AllowsWrites P A] [AllowsTransfer A] in
theorem emits_subdirectory (path name : Bytes) : A (.back (subdirectory path name)) :=
  emits_withSeparator _

include hl hr

omit [AllowsWrites P A] [AllowsTransfer A] [AllowsWalk A] in
theorem emits_ensure : Prog.Keeps (EmitsOnly A) (ensureTrailingSeparators l r) :=
  emits_bind (emits_emit hl) fun _ => emits_bind (emits_emit hr) fun _ => emits_pure _

omit [AllowsWrites P A] [AllowsTransfer A] [AllowsWalk A] in
/-- What follows gets the paths with a slash. -/
theorem emits_ensure_bind {α : Type} {f : Bytes × Bytes → SyncM α}
    (hf : Prog.Keeps (EmitsOnly A) (f (withSeparator l, withSeparator r))) :
    Prog.Keeps (EmitsOnly A) (ensureTrailingSeparators l r >>= f) :=
  .bind_of_yields emits_composes (M := fun p => p = (withSeparator l, withSeparator r))
    (emits_ensure hl hr) (fun _ _ h => (Except.ok.inj h).symm) fun _ hp => hp ▸ hf

omit [AllowsWrites P A] [AllowsTransfer A] in
/-- The constructor of `copyinfo` puts a name behind its paths, and a slash behind that. -/
theorem emits_copyInfo (name : Bytes) (mode : UInt32) :
    Prog.Keeps (EmitsOnly A) (copyInfo l r name mode) := by
  have hname : ∀ path, A (.back (withSeparator path ++ name)) := fun path =>
    AllowsWalk.of_back _ (List.append_ne_nil_of_left_ne_nil (withSeparator_ne_nil path) name)
  exact emits_ensure_bind hl hr (.ite (fun _ => emits_bind (emits_ensure (hname l) (hname r))
    fun _ => emits_pure _) fun _ => emits_pure _)

/-- Entries are put behind the paths of their directory. -/
theorem emits_listEntries (tree : LocalTree) :
    ∀ fileList, Prog.Keeps (EmitsOnly A) (listEntries env l r fileList tree) := by
  have hunexamined : ∀ path, A (.unexamined path) := AllowsWalk.of_unexamined
  induction tree with
  | failed e => exact fun fileList => emits_bind (emits_emit (hunexamined _)) fun _ => emits_pure _
  | nil => exact fun fileList => emits_pure _
  | entry name lstat file sub rest _ ih =>
    intro fileList
    refine .ite (fun _ => ih fileList) fun _ => ?_
    cases lstat with
    | error e =>
      exact emits_bind (emits_setErrno e) fun _ => emits_bind (emits_error _) fun _ =>
        emits_bind (emits_emit (hunexamined _)) fun _ => ih fileList
    | ok st =>
      refine emits_bind (emits_copyInfo hl hr name st.mode) fun ci => .ite (fun _ => ih fileList)
        fun _ => .ite (fun _ => ?_) fun _ => ih _
      exact emits_bind (emits_emit (AllowsWalk.of_warning _)) fun _ => ih _

theorem emits_openAndList (lists : LocalLists) (tree : LocalTree) :
    Prog.Keeps (EmitsOnly A) (openAndList env l r lists tree) := by
  cases tree with
  | failed e =>
    exact emits_bind (emits_setErrno e) fun _ => emits_bind (emits_error _) fun _ =>
      emits_bind (emits_emit (AllowsWalk.of_unexamined _)) fun _ => emits_pure _
  | nil => exact emits_bind (emits_listEntries env hl hr _ _) fun _ => emits_pure _
  | entry => exact emits_bind (emits_listEntries env hl hr _ _) fun _ => emits_pure _

omit hl hr in
/-- The path of a directory ends with a slash. -/
theorem emits_recurseDirs (tree : LocalTree) : ∀ lpath rpath lists,
    Prog.Keeps (EmitsOnly A) (recurseDirs env lpath rpath lists tree) := by
  induction tree with
  | failed e => exact fun _ _ _ => emits_pure _
  | nil => exact fun _ _ _ => emits_pure _
  | entry name lstat file sub rest ihsub ihrest =>
    intro lpath rpath lists
    refine .ite (fun _ => ?_) fun _ => ihrest lpath rpath lists
    exact emits_bind (emits_openAndList env (emits_subdirectory _ _) (emits_subdirectory _ _) _ _)
      fun r => emits_bind (ihsub _ _ _) fun _ => ihrest _ _ _

theorem emits_localBuildList (lists : LocalLists) (tree : LocalTree) :
    Prog.Keeps (EmitsOnly A) (localBuildList env lists l r tree) :=
  emits_bind (emits_openAndList env hl hr lists tree) fun _ => .ite (fun _ => emits_pure _)
    fun _ => emits_bind (emits_recurseDirs env tree _ _ _) fun _ => emits_pure _

end Walk

/-! ## Pushing a list -/

theorem emits_checkTimestamps (hP : AllowsStat P) (fileList : List Listed) :
    Prog.Keeps (EmitsOnly A) (checkTimestamps env fileList) := by
  have hcheck : ∀ checked l, Prog.Keeps (EmitsOnly A) (checkTimestamp env checked l) := by
    intro checked l
    refine emits_bind (emits_finishStat env) fun r => ?_
    cases r with
    | none => exact emits_pure _
    | some st =>
      refine .ite (fun _ => .ite (fun _ => ?_) fun _ => emits_pure _) fun _ => emits_pure _
      exact emits_bind (emits_transfer rfl) fun _ => emits_pure _
  refine emits_bind (.allM emits_composes fun l _ => emits_sendLstat env hP _)
    fun ok => .ite (fun _ => ?_) fun _ => ?_
  · exact .map (.foldM emits_composes (fun checked l _ => hcheck checked l) []) _
  · exact emits_bind (emits_transfer rfl) fun _ => emits_bind (emits_error _) fun _ => emits_pure _

section Lists

variable (hall : ∀ m, P m)

include hall

/-- Where every message is allowed, it does not matter what is in a file. -/
theorem emits_syncSend (lpath rpath : Bytes) (mtime mode : UInt32) (sync : Bool)
    (compression : CompressionType) (dryRun : Bool) (f : LocalFile) :
    Prog.Keeps (EmitsOnly A) (syncSend env lpath rpath mtime mode sync compression dryRun f) := by
  refine emits_bind (emits_sameTimestamp env (fun _ _ _ _ => hall _) _ _ _ _) fun _ =>
    .ite (fun _ => emits_pure true) fun _ => emits_bind ?_ fun _ =>
      .ite (fun _ => emits_readAcknowledgements env sync) fun _ => emits_pure false
  exact emits_sendFile env (fun m _ => hall m) (fun _ _ => hall _) (fun _ _ _ => hall _) _ _ _ _ _ _
    (fun _ _ => hall _) fun _ _ _ _ _ _ _ _ => hall _

theorem emits_pushList (listOnly : Bool) (compression : CompressionType) (dryRun : Bool)
    (fileList : List Listed) :
    Prog.Keeps (EmitsOnly A) (pushList env listOnly compression dryRun fileList) := by
  refine emits_bind (.allM emits_composes fun l _ => .ite (fun _ => emits_pure true) fun _ =>
    .ite (fun _ => ?_) fun _ => emits_syncSend env hall _ _ _ _ _ _ _ _) fun ok =>
      .ite (fun _ => emits_readAcknowledgements env true) fun _ => emits_pure false
  exact emits_bind (emits_transfer rfl) fun _ => emits_bind (emits_transfer rfl) fun _ =>
    emits_pure true

end Lists

/-- What `copy_local_dir_remote` does with the list once the directories are made. -/
theorem emits_checkAndPush (hP : AllowsStat P) {listOnly : Bool} {compression : CompressionType}
    {dryRun : Bool} (hpush : ∀ fileList,
      Prog.Keeps (EmitsOnly A) (pushList env listOnly compression dryRun fileList))
    (checkTimes : Bool) (fileList : List Listed) :
    Prog.Keeps (EmitsOnly A) (do
      if checkTimes then
        match ← checkTimestamps env fileList with
        | none => return false
        | some fileList => pushList env listOnly compression dryRun fileList
      else pushList env listOnly compression dryRun fileList : SyncM Bool) := by
  refine .ite (fun _ => emits_bind (emits_checkTimestamps env hP _) fun checked => ?_) fun _ =>
    hpush _
  cases checked with
  | none => exact emits_pure false
  | some fileList => exact hpush _

end Emits

end AdbMobile.Sync
