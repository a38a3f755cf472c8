import AdbMobile.Client.Sync.Phases
import AdbMobile.Client.Sync.DataSize
import AdbMobile.Client.Sync.MkdirCommands
import AdbMobile.Client.Sync.Walk

/-!
# Reading what was written

`do_sync_push` keeps to the phases of the protocol as long as it sends each file to its end that it
has announced. A file that cannot be opened, read or compressed any more once its request has been
written is given up without a word to the device, and the next request comes where the device
expects data. So no source but the last may be broken off in this way (`push_reads_back`).

`do_sync_pull` announces nothing, and is read back in any case (`pull_reads_back`).
-/

namespace AdbMobile.Sync

open ByteString PosixPath

section Push

variable (env : SyncEnv)

/-! ## Files -/

/-- What the calls on a file return has a length that is written in full. -/
structure LocalFile.FitsWords (f : LocalFile) : Prop where
  target : ∀ text, f.target = .ok text → Sized (text ++ [0])
  contents : ∀ data, f.contents = .ok data → Sized data
  reads : ∀ block ∈ f.reads, Sized block
  encodes : ∀ i, ∀ output ∈ (f.encodes i).outputs, Sized output

/-- No call on the file fails that comes after its request has been written. -/
structure LocalFile.Unbroken (f : LocalFile) : Prop where
  stat : ∃ st, f.statAgain = .ok st
  opens : f.openError = none
  reads : f.readError = none
  encodes : ∀ i, (f.encodes i).fails = false

/-- A transfer that succeeds leaves the receiver idle, and so does any other where `U` holds. -/
abbrev Ends (U : Prop) (ok : Bool) (q : SyncPhase) : Prop := ok = true ∨ U → q = .idle

/-- A failure before the request leaves the receiver idle. -/
theorem ends_idle {U : Prop} {ok : Bool} : Ends U ok .idle := fun _ => rfl

theorem follows_failWith {q : SyncPhase} {U : Prop} (hq : U → q = .idle) (e : Errno)
    (text : Bytes) : Follows q (failWith env e text) (Ends U) :=
  follows_bind (emits_setErrno e) fun _ => follows_bind (emits_error _) fun _ =>
    .pure fun h => h.elim (fun h => by cases h) hq

/-- A failure that was reported before. -/
theorem follows_false {q : SyncPhase} {U : Prop} (hq : U → q = .idle) :
    Follows q (pure false : SyncM Bool) (Ends U) := .pure fun h => h.elim (fun h => by cases h) hq

theorem stays_sendBlocks (lpath rpath : Bytes) {blocks : List Bytes}
    (hblocks : ∀ block ∈ blocks, Sized block) :
    Prog.Keeps (EmitsOnly (Stays .receiving)) (sendBlocks env lpath rpath blocks) :=
  emits_sendBlocks env lpath rpath fun block hblock => SyncPhase.next_data (hblocks block hblock)

theorem follows_finishLargeFile (lpath rpath : Bytes) (mtime : UInt32) {U : Prop} :
    Follows .receiving (finishLargeFile env lpath rpath mtime) (Ends U) :=
  follows_bind (emits_recordFileSent _ _) fun _ =>
    .mono (follows_writeOrDie env lpath rpath rfl) fun _ _ h _ => h

section File

variable {f : LocalFile} (lpath rpath : Bytes)

theorem follows_openLargeFile {send : SyncM Bool}
    (hsend : Follows .receiving send (Ends f.Unbroken)) :
    Follows .receiving (openLargeFile env lpath f send) (Ends f.Unbroken) := by
  unfold openLargeFile
  cases hstat : f.statAgain with
  | error e =>
    refine follows_failWith env (fun hf => ?_) e _
    obtain ⟨st, h⟩ := hf.stat
    cases hstat.symm.trans h
  | ok st =>
    cases hopen : f.openError with
    | some e => exact follows_failWith env (fun hf => by cases hopen.symm.trans hf.opens) e _
    | none => exact hsend

/-- Where the reads are over, the file is broken off or brought to its end. -/
theorem follows_readError {finish : SyncM Bool}
    (hfinish : Follows .receiving finish (Ends f.Unbroken)) :
    Follows .receiving (match f.readError with
      | some e => failWith env e (lit "reading '" ++ lpath ++ lit "' locally failed")
      | none => finish) (Ends f.Unbroken) := by
  cases hread : f.readError with
  | some e => exact follows_failWith env (fun hf => by cases hread.symm.trans hf.reads) e _
  | none => exact hfinish

variable (hf : f.FitsWords)

include hf

theorem follows_sendLargeFileLegacy (path : Bytes) (mode mtime : UInt32) :
    Follows .idle (sendLargeFileLegacy env path mode lpath rpath mtime f) (Ends f.Unbroken) := by
  have hblocks : ∀ block ∈ f.blocks, Sized block := fun block hblock =>
    hf.reads block ((List.takeWhile_sublist _).subset hblock)
  refine .bind (follows_sendRequest env .sendV1 _) fun ok q' hq' => ?_
  cases ok with
  | false =>
    subst hq'
    exact follows_bind (emits_strerrno env) fun _ => follows_bind (emits_error _) fun _ =>
      .pure ends_idle
  | true =>
    subst hq'
    -- From here on the receiver waits for data, and only the end of the file leaves it idle.
    exact follows_openLargeFile env lpath (follows_bind (stays_sendBlocks env lpath rpath hblocks)
      fun _ => follows_readError env lpath (follows_finishLargeFile env lpath rpath mtime))

/-- The outputs of the encoder are data. -/
theorem stays_sendEncoded (i : ℕ) :
    Prog.Keeps (EmitsOnly (Stays .receiving)) (sendEncoded env lpath rpath (f.encodes i)) := by
  have houtputs : ∀ block ∈ (f.encodes i).outputs.filter (· ≠ []), Sized block :=
    fun block hblock => hf.encodes i block (List.mem_filter.mp hblock).1
  exact emits_bind (stays_sendBlocks env lpath rpath houtputs) fun _ => .ite
    (fun _ => emits_bind (emits_error _) fun _ => emits_pure false) fun _ => emits_pure true

omit hf in
/-- An encoder that does not fail. -/
theorem sendEncoded_yields (hf : f.Unbroken) (i : ℕ) :
    Prog.Yields (sendEncoded env lpath rpath (f.encodes i)) (· = true) :=
  .bind (.trivial _) fun _ _ => .ite (fun hfails => by cases (hf.encodes i).symm.trans hfails)
    fun _ => .pure rfl

theorem follows_sendLargeFile (path : Bytes) (mode mtime : UInt32) (compression : CompressionType)
    (dryRun : Bool) :
    Follows .idle (sendLargeFile env path mode lpath rpath mtime compression dryRun f)
      (Ends f.Unbroken) := by
  refine .ite (fun _ => follows_bind (emits_error _) fun _ => .pure ends_idle) fun _ =>
    .ite (fun _ => follows_sendLargeFileLegacy env lpath rpath hf path mode mtime) fun _ => ?_
  refine .bind (follows_sendSend2 env _ _ _ _) fun ok q' hq' => ?_
  cases ok with
  | false =>
    subst hq'
    exact follows_bind (emits_strerrno env) fun _ => follows_bind (emits_error _) fun _ =>
      .pure ends_idle
  | true =>
    subst hq'
    -- What is written for a block is data, and an encoder that fails breaks the file off.
    have hblocks : Prog.Keeps (EmitsOnly (Stays .receiving)) (Prog.allM (fun i =>
        sendEncoded env lpath rpath (f.encodes i)) (List.range f.blocks.length)) :=
      .allM emits_composes fun i _ => stays_sendEncoded env lpath rpath hf i
    have hall : Prog.Yields (Prog.allM (fun i => sendEncoded env lpath rpath (f.encodes i))
        (List.range f.blocks.length)) fun ok => f.Unbroken → ok = true := fun s a ha hunbroken =>
      Prog.Yields.allM (fun i _ => sendEncoded_yields env lpath rpath hunbroken i) s a ha
    have hlast : Prog.Yields (sendEncoded env lpath rpath (f.encodes f.blocks.length)) fun ok =>
        f.Unbroken → ok = true := fun s a ha hunbroken =>
      sendEncoded_yields env lpath rpath hunbroken _ s a ha
    refine follows_openLargeFile env lpath (follows_bind_of_yields hblocks hall fun ok hok => ?_)
    cases ok with
    | false => exact follows_false fun hunbroken => by cases hok hunbroken
    | true =>
      refine follows_readError env lpath (follows_bind_of_yields
        (stays_sendEncoded env lpath rpath hf _) hlast fun ok hok => ?_)
      cases ok with
      | false => exact follows_false fun hunbroken => by cases hok hunbroken
      | true => exact follows_finishLargeFile env lpath rpath mtime

theorem follows_sendSmallFile (path : Bytes) (mode mtime : UInt32) {data : Bytes}
    (hdata : Sized data) (dryRun : Bool) :
    Follows .idle (sendSmallFile env path mode lpath rpath mtime data dryRun f)
      (Ends f.Unbroken) := by
  refine .ite (fun _ => follows_sendLargeFile env lpath rpath hf _ _ _ _ _) fun _ =>
    .ite (fun _ => ?_) fun hle => ?_
  · exact follows_bind (emits_error _) fun _ => follows_bind (emits_setErrno _) fun _ =>
      .pure ends_idle
  -- The whole transfer is one write.
  · have hpath : Sized (pathAndMode path mode) := sized_of_le (Nat.not_lt.mp hle)
    have hmessages : Run.run SyncPhase.next .idle [.request .sendV1 (pathAndMode path mode),
        .data data, .done mtime] = some .idle := by
      rw [Run.run, SyncPhase.next_request hpath]
      show Run.run SyncPhase.next .receiving [.data data, .done mtime] = some .idle
      rw [Run.run, SyncPhase.next_data hdata]
      rfl
    refine .bind (follows_writeOrDie env lpath rpath hmessages) fun _ q' hq' => ?_
    subst hq'
    exact follows_bind (emits_recordFileSent _ _) fun _ => .pure ends_idle

theorem follows_sendFile (mtime mode : UInt32) (compression : CompressionType) (dryRun : Bool) :
    Follows .idle (sendFile env lpath rpath mtime mode compression dryRun f) (Ends f.Unbroken) := by
  refine .ite (fun _ => ?_) fun _ => ?_
  · cases hlink : f.target with
    | error e =>
      refine follows_bind (emits_setErrno e) fun _ => follows_bind (emits_error _) fun _ => ?_
      exact .pure ends_idle
    | ok target => exact follows_sendSmallFile env lpath rpath hf _ _ _ (hf.target _ hlink) _
  · cases f.stat with
    | error e => exact follows_failWith env (fun _ => rfl) e _
    | ok st =>
      refine .ite (fun _ => ?_) fun _ => follows_sendLargeFile env lpath rpath hf _ _ _ _ _
      cases hread : f.contents with
      | error e => exact follows_failWith env (fun _ => rfl) e _
      | ok data => exact follows_sendSmallFile env lpath rpath hf _ _ _ (hf.contents _ hread) _

/-- A file that is sent leaves the receiver idle, unless it is broken off. -/
theorem follows_syncSend (mtime mode : UInt32) (sync : Bool) (compression : CompressionType)
    (dryRun : Bool) :
    Follows .idle (syncSend env lpath rpath mtime mode sync compression dryRun f)
      (Ends f.Unbroken) := by
  refine follows_bind (emits_sameTimestamp env idle_allowsStat _ _ _ _) fun _ =>
    .ite (fun _ => .pure ends_idle) fun _ => ?_
  refine .bind (follows_sendFile env lpath rpath hf _ _ _ _) fun ok q' hq' => ?_
  cases ok with
  | false => exact .pure hq'
  | true =>
    obtain rfl := hq' (.inl rfl)
    exact .mono (follows_of_emits (emits_readAcknowledgements env sync)) fun _ _ h _ => h

end File

/-! ## Lists of files -/

section List

variable {files : List LocalFile} (hfiles : ∀ f ∈ files, f.FitsWords)

include hfiles

theorem follows_pushListed (listOnly : Bool) (compression : CompressionType) (dryRun : Bool)
    {l : Listed} (hl : l.file ∈ files) :
    Follows .idle (pushListed env listOnly compression dryRun l)
      (Ends (∀ f ∈ files, f.Unbroken)) := by
  refine .ite (fun _ => .pure ends_idle) fun _ => .ite (fun _ => ?_) fun _ => ?_
  · exact follows_bind (emits_transfer rfl) fun _ => follows_bind (emits_transfer rfl) fun _ =>
      .pure ends_idle
  · exact .mono (follows_syncSend env _ _ (hfiles _ hl) _ _ _ _ _) fun _ _ h hok =>
      h (hok.imp_right fun hall => hall _ hl)

/-- A list is sent up to the first file that fails. -/
theorem follows_pushList (listOnly : Bool) (compression : CompressionType) (dryRun : Bool)
    {fileList : List Listed} (hlist : ∀ l ∈ fileList, l.file ∈ files) :
    Follows .idle (pushList env listOnly compression dryRun fileList)
      (Ends (∀ f ∈ files, f.Unbroken)) := by
  refine .bind (.allM fun l hl => follows_pushListed env hfiles _ _ _ (hlist l hl))
    fun ok q' hq' => ?_
  cases ok with
  | false => exact .pure hq'
  | true =>
    obtain rfl := hq' (.inl rfl)
    exact .mono (follows_of_emits (emits_readAcknowledgements env true)) fun _ _ h _ => h

end List

/-- The files on the list are the same once their timestamps are checked. -/
theorem checkTimestamps_yields {P : LocalFile → Prop} {fileList : List Listed}
    (hlist : ∀ l ∈ fileList, P l.file) :
    Prog.Yields (checkTimestamps env fileList) fun r =>
      ∀ checked, r = some checked → ∀ l ∈ checked, P l.file := by
  have hadd : ∀ checked : List Listed, (∀ l ∈ checked, P l.file) → ∀ l : Listed, P l.file →
      ∀ l' ∈ checked ++ [l], P l'.file := fun checked hchecked l hl l' hl' =>
    (List.mem_append.mp hl').elim (hchecked l') fun h => List.mem_singleton.mp h ▸ hl
  have hstep : ∀ checked, ∀ l ∈ fileList, (∀ l ∈ checked, P l.file) →
      Prog.Yields (checkTimestamp env checked l) fun checked' => ∀ l ∈ checked', P l.file := by
    intro checked l hl hchecked
    refine .bind (.trivial _) fun r _ => ?_
    cases r with
    | none => exact .pure (hadd checked hchecked l (hlist l hl))
    | some st =>
      refine .ite (fun _ => .ite (fun _ => .bind (.trivial _) fun _ _ => ?_) fun _ => ?_)
        fun _ => ?_
      · exact .pure (hadd checked hchecked { l with ci := { l.ci with skip := true } } (hlist l hl))
      · exact .pure (hadd checked hchecked { l with ci := { l.ci with skip := true } } (hlist l hl))
      · exact .pure (hadd checked hchecked l (hlist l hl))
  refine .bind (.trivial _) fun ok _ => .ite (fun _ => .map ?_) fun _ => ?_
  · intro s checked hchecked checked' heq
    obtain rfl := Option.some.inj heq
    exact Prog.Yields.foldM hstep [] (fun _ h => absurd h List.not_mem_nil) s checked hchecked
  · exact .bind (.trivial _) fun _ _ => .bind (.trivial _) fun _ _ => .pure fun _ h => by cases h

/-- What `copy_local_dir_remote` does with the list once the directories are made. -/
theorem follows_checkAndPush {files : List LocalFile} (hfiles : ∀ f ∈ files, f.FitsWords)
    (checkTimes listOnly : Bool) (compression : CompressionType) (dryRun : Bool)
    {fileList : List Listed} (hlist : ∀ l ∈ fileList, l.file ∈ files) :
    Follows .idle (do
      if checkTimes then
        match ← checkTimestamps env fileList with
        | none => return false
        | some fileList => pushList env listOnly compression dryRun fileList
      else pushList env listOnly compression dryRun fileList : SyncM Bool)
        (Ends (∀ f ∈ files, f.Unbroken)) := by
  refine .ite (fun _ => follows_bind_of_yields (emits_checkTimestamps env idle_allowsStat _)
    (checkTimestamps_yields env hlist) fun checked hchecked => ?_) fun _ =>
      follows_pushList env hfiles _ _ _ hlist
  cases checked with
  | none => exact .pure ends_idle
  | some fileList => exact follows_pushList env hfiles _ _ _ (hchecked fileList rfl)

/-! ## Sources -/

/-- The files in a tree. -/
def LocalTree.files : LocalTree → List LocalFile
  | .failed _ | .nil => []
  | .entry _ _ file sub rest => file :: (sub.files ++ rest.files)

/-- The files of a source, whether it is a file or a directory. -/
def LocalSource.files (src : LocalSource) : List LocalFile := src.file :: src.tree.files

theorem LocalTree.filesHere_subset (tree : LocalTree) (lpath rpath : Bytes) :
    ∀ l ∈ tree.filesHere lpath rpath, l.file ∈ tree.files := by
  induction tree with
  | failed e => exact fun l hl => absurd hl List.not_mem_nil
  | nil => exact fun l hl => absurd hl List.not_mem_nil
  | entry name lstat file sub rest _ ih =>
    intro l hl
    have hrest : l ∈ rest.filesHere lpath rpath → l.file ∈ file :: (sub.files ++ rest.files) :=
      fun h => List.mem_cons_of_mem _ (List.mem_append_right _ (ih l h))
    cases lstat with
    | error e => exact hrest hl
    | ok st =>
      rw [filesHere] at hl
      split at hl
      · exact hrest hl
      · obtain rfl | hl := List.mem_cons.mp hl
        · exact List.mem_cons_self
        · exact hrest hl

theorem LocalTree.filesBelow_subset (tree : LocalTree) : ∀ lpath rpath,
    ∀ l ∈ tree.filesBelow lpath rpath, l.file ∈ tree.files := by
  induction tree with
  | failed e => exact fun _ _ l hl => absurd hl List.not_mem_nil
  | nil => exact fun _ _ l hl => absurd hl List.not_mem_nil
  | entry name lstat file sub rest ihsub ihrest =>
    intro lpath rpath l hl
    rw [filesBelow] at hl
    obtain hl | hl := List.mem_append.mp hl
    · split at hl
      · refine List.mem_cons_of_mem _ (List.mem_append_left _ ?_)
        exact (List.mem_append.mp hl).elim (sub.filesHere_subset _ _ l) (ihsub _ _ l)
      · cases hl
    · exact List.mem_cons_of_mem _ (List.mem_append_right _ (ihrest _ _ l hl))

/-- What is listed are files of the tree. -/
theorem localBuildList_files (directoryList : List Bytes) (lpath rpath : Bytes)
    (tree : LocalTree) :
    Prog.Yields (localBuildList env ⟨[], directoryList⟩ lpath rpath tree) fun r =>
      ∀ l ∈ r.2.fileList, l.file ∈ tree.files := fun c r hr l hl => by
  obtain ⟨r', hr', ⟨-, hlist⟩, -⟩ := localBuildList_runs env ⟨[], directoryList⟩ lpath rpath tree c
  obtain rfl := Except.ok.inj (hr.symm.trans hr')
  rw [hlist, List.nil_append] at hl
  exact (List.mem_append.mp hl).elim (tree.filesHere_subset _ _ l) (tree.filesBelow_subset _ _ l)

/-- A directory is sent as the list of its files. -/
theorem follows_copyLocalDirRemote (lpath rpath : Bytes) {tree : LocalTree}
    (hfiles : ∀ f ∈ tree.files, f.FitsWords) (checkTimes listOnly : Bool)
    (compression : CompressionType) (dryRun : Bool) :
    Follows .idle (copyLocalDirRemote env lpath rpath tree checkTimes listOnly compression dryRun)
      (Ends (∀ f ∈ tree.files, f.Unbroken)) := by
  have hancestors :
      Prog.Keeps (EmitsOnly (Stays .idle)) (remoteAncestors (withSeparator rpath)) := by
    unfold remoteAncestors
    cases ancestors ((withSeparator rpath).length + 1) (withSeparator rpath) with
    | none => exact .exit emits_composes _
    | some paths => exact emits_pure _
  have hpaths : Prog.Yields (ensureTrailingSeparators lpath rpath) fun r =>
      r = (withSeparator lpath, withSeparator rpath) := fun _ _ h => (Except.ok.inj h).symm
  refine follows_bind_of_yields (emits_ensure (stays_back _ _) (stays_back _ _)) hpaths
    fun r hr => ?_
  subst hr
  have hwalk : ∀ lists, Prog.Keeps (EmitsOnly (Stays .idle))
      (localBuildList env lists (withSeparator lpath) (withSeparator rpath) tree) := fun lists =>
    emits_localBuildList env (stays_back _ _) (stays_back _ _) lists tree
  refine follows_bind hancestors fun directoryList => follows_bind_of_yields (hwalk _)
    (localBuildList_files env _ _ _ tree) fun r hlist => ?_
  obtain ⟨ok, lists⟩ := r
  have hrest := follows_checkAndPush env hfiles checkTimes listOnly compression dryRun hlist
  refine .ite (fun _ => .pure ends_idle) fun _ => ?_
  -- What follows the directories is the same, whether or not they were made.
  refine .ite (fun _ => follows_bind (emits_mkdirDirectories env (fun _ => rfl) _ _) fun made => ?_)
    fun _ => follows_bind (emits_pure true) fun made => ?_
  all_goals exact .ite (fun _ => .pure ends_idle) fun _ => hrest

/-- A source leaves the receiver idle, unless one of its files is broken off. -/
theorem follows_pushSource (dst : Bytes) (dstStat : Option Stat) (sync : Bool)
    (compression : CompressionType) (dryRun : Bool) {src : LocalSource}
    (hfiles : ∀ f ∈ src.files, f.FitsWords) :
    Follows .idle (pushSource env dst dstStat sync compression dryRun src) fun r q' =>
      r = some true ∨ (∀ f ∈ src.files, f.Unbroken) → q' = .idle := by
  have hdirectory : ∀ rpath, Follows .idle (some <$> copyLocalDirRemote env src.path rpath src.tree
      sync false compression dryRun) fun r q' =>
        r = some true ∨ (∀ f ∈ src.files, f.Unbroken) → q' = .idle := fun rpath =>
    .map (.mono (follows_copyLocalDirRemote env _ _
      (fun f hf => hfiles f (List.mem_cons_of_mem _ hf)) _ _ _ _) fun _ _ h hr =>
        h (hr.imp Option.some.inj fun hall f hf => hall f (List.mem_cons_of_mem _ hf)))
  have hfile : ∀ rpath mtime mode, Follows .idle (some <$> syncSend env src.path rpath mtime mode
      sync compression dryRun src.file) fun r q' =>
        r = some true ∨ (∀ f ∈ src.files, f.Unbroken) → q' = .idle := fun rpath mtime mode =>
    .map (.mono (follows_syncSend env _ _ (hfiles _ List.mem_cons_self) _ _ _ _ _) fun _ _ h hr =>
      h (hr.imp Option.some.inj fun hall => hall _ List.mem_cons_self))
  unfold pushSource
  cases src.stat with
  | error e =>
    refine follows_bind (emits_setErrno e) fun _ => follows_bind (emits_captureError _) fun _ => ?_
    exact follows_bind (emits_emit rfl) fun _ => .pure fun _ => rfl
  | ok st =>
    refine .ite (fun _ => .ite (fun _ => .ite (fun _ => ?_) fun _ => ?_) fun _ => hdirectory _)
      fun _ => .ite (fun _ => ?_) fun _ => .ite (fun _ => ?_) fun _ => hfile _ _ _
    · exact follows_bind (emits_captureError _) fun _ => .pure fun _ => rfl
    · exact follows_bind (emits_emit rfl) fun _ => hdirectory _
    · exact follows_bind (emits_emit rfl) fun _ => .pure fun _ => rfl
    · exact follows_bind (emits_emit rfl) fun _ => hfile _ _ _

/-- Once all sources are sent, the answers are read that are left. -/
theorem follows_settle (dst : Bytes) (dstStat : Option Stat) (sync : Bool)
    (compression : CompressionType) (dryRun : Bool) {success : Bool} {q : SyncPhase}
    (hq : success = true → q = .idle) :
    Follows q (pushSources env dst dstStat sync compression dryRun success []) fun ok q' =>
      ok = true → q' = .idle :=
  follows_bind (emits_readAcknowledgements env true) fun _ => .pure fun hok =>
    hq (Bool.and_eq_true_iff.mp hok).1

/-- The sources one after the other, where the receiver is idle as each of them begins. -/
theorem follows_pushSources (dst : Bytes) (dstStat : Option Stat) (sync : Bool)
    (compression : CompressionType) (dryRun : Bool) {srcs : List LocalSource}
    (hfiles : ∀ src ∈ srcs, ∀ f ∈ src.files, f.FitsWords)
    (hunbroken : ∀ src ∈ srcs.dropLast, ∀ f ∈ src.files, f.Unbroken) :
    ∀ (success : Bool) (q : SyncPhase), (success = true ∨ srcs ≠ [] → q = .idle) →
      Follows q (pushSources env dst dstStat sync compression dryRun success srcs) fun ok q' =>
        ok = true → q' = .idle := by
  induction srcs with
  | nil => exact fun _ _ hq => follows_settle env _ _ _ _ _ fun h => hq (.inl h)
  | cons src srcs ih =>
    intro success q hq
    obtain rfl := hq (.inr (List.cons_ne_nil _ _))
    refine .bind (follows_pushSource env dst dstStat sync compression dryRun
      (hfiles src List.mem_cons_self)) fun r q' hq' => ?_
    cases r with
    | none => exact .pure fun h => by cases h
    | some ok =>
      -- The source leaves the receiver idle, or it is the last one.
      refine ih (fun src' hsrc' => hfiles src' (List.mem_cons_of_mem src hsrc'))
        (fun src' hsrc' => hunbroken src' ?_) _ _ fun hnext => hq' ?_
      · have hne : srcs ≠ [] := fun h => by
          rw [h] at hsrc'
          cases hsrc'
        rw [List.dropLast_cons_of_ne_nil hne]
        exact List.mem_cons_of_mem src hsrc'
      · refine hnext.imp (fun h => congrArg some (Bool.and_eq_true_iff.mp h).2) fun hne => ?_
        refine hunbroken src ?_
        rw [List.dropLast_cons_of_ne_nil hne]
        exact List.mem_cons_self

/-- A failure is not made up for by later sources. -/
theorem pushSources_success (dst : Bytes) (dstStat : Option Stat) (sync : Bool)
    (compression : CompressionType) (dryRun : Bool) (srcs : List LocalSource) : ∀ success,
    Prog.Yields (pushSources env dst dstStat sync compression dryRun success srcs) fun ok =>
      ok = true → success = true := by
  induction srcs with
  | nil => exact fun success => .bind (.trivial _) fun _ _ => .pure fun h =>
      (Bool.and_eq_true_iff.mp h).1
  | cons src srcs ih =>
    refine fun success => .bind (.trivial _) fun r _ => ?_
    cases r with
    | none => exact .pure fun h => by cases h
    | some ok => exact fun s a ha h => (Bool.and_eq_true_iff.mp (ih _ s a ha h)).1

/-- A run that returns `true` leaves the receiver idle. -/
def Concludes (q : SyncPhase) (p : SyncM Bool) : Prop :=
  ∀ c, (p c).result = .ok true → Run.run SyncPhase.after q (p c).trace = some .idle

theorem Follows.concludes {q : SyncPhase} {p : SyncM Bool}
    (h : Follows q p fun ok q' => ok = true → q' = .idle) : Concludes q p := fun c hok => by
  obtain ⟨q', hrun, hidle⟩ := h c
  rw [hrun, hidle true hok rfl]

theorem concludes_bind {α : Type} {q : SyncPhase} {p : SyncM α} {f : α → SyncM Bool}
    (h : Prog.Keeps (EmitsOnly (Stays q)) p) (hf : ∀ a, Concludes q (f a)) :
    Concludes q (p >>= f) := fun c hok => by
  obtain ⟨a, ha, hrest, -, htrace⟩ := Prog.bind_returns hok
  have hfirst : Run.run SyncPhase.after q (p c).trace = some q := Prog.Unnoticed.run (h c)
  rw [htrace, Run.run_append, hfirst]
  exact hf a _ hrest

theorem concludes_false (q : SyncPhase) : Concludes q (pure false) := fun _ h => by cases h

/-- All sources were sent to their ends, if the push has succeeded. -/
theorem concludes_pushSources (dst : Bytes) (dstStat : Option Stat) (sync : Bool)
    (compression : CompressionType) (dryRun : Bool) {srcs : List LocalSource}
    (hfiles : ∀ src ∈ srcs, ∀ f ∈ src.files, f.FitsWords) :
    ∀ (success : Bool) (q : SyncPhase), (success = true → q = .idle) →
      Concludes q (pushSources env dst dstStat sync compression dryRun success srcs) := by
  induction srcs with
  | nil => exact fun _ _ hq => (follows_settle env _ _ _ _ _ hq).concludes
  | cons src srcs ih =>
    intro success q hq c hok
    -- As the rest succeeds, so did all before it, and this source too.
    obtain rfl := hq (pushSources_success env dst dstStat sync compression dryRun _ _ c _ hok rfl)
    obtain ⟨q', hrun, hvalue⟩ := follows_pushSource env dst dstStat sync compression dryRun
      (hfiles src List.mem_cons_self) c
    obtain ⟨r, hr, hrest, -, htrace⟩ := Prog.bind_returns hok
    cases r with
    | none => cases hrest
    | some ok =>
      have hsuccess : (success && ok) = true :=
        pushSources_success env dst dstStat sync compression dryRun _ _ _ _ hrest rfl
      have hidle : q' = .idle :=
        hvalue _ hr (.inl (congrArg some (Bool.and_eq_true_iff.mp hsuccess).2))
      rw [pushSources, htrace, Run.run_append, hrun]
      exact ih (fun src' hsrc' => hfiles src' (List.mem_cons_of_mem src hsrc')) _ _
        (fun _ => hidle) _ hrest

/-! ## The whole function -/

theorem stays_statPushDestination (dst : Bytes) :
    Prog.Keeps (EmitsOnly (Stays .idle)) (statPushDestination env dst) := by
  refine emits_bind (emits_syncStatFallback env idle_allowsStat dst) fun r => ?_
  cases r with
  | some st => exact emits_pure _
  | none =>
    exact emits_bind emits_get fun c => .ite (fun _ => emits_pure _) fun _ =>
      emits_bind (emits_captureError _) fun _ => emits_pure _

theorem stays_checkPushDestination {q : SyncPhase} (sources : ℕ) (dst : Bytes) (dstExists : Bool) :
    Prog.Keeps (EmitsOnly (Stays q)) (checkPushDestination sources dst dstExists) :=
  .ite (fun _ => emits_bind (emits_captureError _) fun _ => emits_pure _) fun _ =>
    emits_bind (emits_emit (stays_back _ _)) fun _ => .ite
      (fun _ => emits_bind (emits_captureError _) fun _ => emits_pure _) fun _ => emits_pure _

section DoSyncPush

variable (srcs : List LocalSource) (dst : Bytes) (sync : Bool) (compression : CompressionType)
  (dryRun : Bool) (hfiles : ∀ src ∈ srcs, ∀ f ∈ src.files, f.FitsWords)

include hfiles

theorem follows_doSyncPush (hunbroken : ∀ src ∈ srcs.dropLast, ∀ f ∈ src.files, f.Unbroken) :
    Follows .idle (doSyncPush env srcs dst sync compression dryRun) fun ok q' =>
      ok = true → q' = .idle := by
  refine follows_bind (stays_statPushDestination env dst) fun r => ?_
  cases r with
  | none => exact .pure fun h => by cases h
  | some dstStat =>
    have hsources := follows_pushSources env dst dstStat sync compression dryRun hfiles hunbroken
      true .idle fun _ => rfl
    exact .ite (fun _ => hsources) fun _ => follows_bind (stays_checkPushDestination _ _ _)
      fun _ => .ite (fun _ => hsources) fun _ => .pure fun h => by cases h

theorem concludes_doSyncPush :
    Concludes .idle (doSyncPush env srcs dst sync compression dryRun) := by
  refine concludes_bind (stays_statPushDestination env dst) fun r => ?_
  cases r with
  | none => exact concludes_false _
  | some dstStat =>
    have hsources := concludes_pushSources env dst dstStat sync compression dryRun hfiles
      true .idle fun _ => rfl
    dsimp only
    split
    · exact hsources
    · refine concludes_bind (stays_checkPushDestination _ _ _) fun ok => ?_
      cases ok with
      | false => exact concludes_false _
      | true => exact hsources

end DoSyncPush

end Push

/-! ## What is read back -/

/-- In every run of a pull, whatever the device answers and however it ends, a receiver reads from
the bytes exactly the messages that were written, and is idle at the end: a pull announces nothing
that it does not send at once. -/
theorem pull_reads_back (env : SyncEnv) (srcs : List Bytes) (dst : Bytes) (copyAttrs : Bool)
    (compression : CompressionType) (c : SyncConnection) :
    ReadsBack (writtenIn (doSyncPull env srcs dst copyAttrs compression c).trace)
      (messagesIn (doSyncPull env srcs dst copyAttrs compression c).trace) .idle := by
  have hstays : Prog.Keeps (EmitsOnly (Stays .idle))
      (doSyncPull env srcs dst copyAttrs compression) :=
    emits_doSyncPull env copyAttrs compression (fun _ _ => stays_back _ _) (stays_back _ _)
  exact readsBack_of_run (Prog.Unnoticed.run (hstays c))

/-! ## Two files -/

/-- A device on which there is a directory. -/
def directoryDevice : SyncConnection :=
  .new (wordBytes SyncId.lstatV1.word ++ wordBytes sIfdir ++ wordBytes 0 ++ wordBytes 0) []
    fun _ => none

/-- A source that is one file. -/
def fileSource (path : Bytes) (file : LocalFile) : LocalSource :=
  ⟨path, .ok ⟨sIfreg, 3, 0⟩, file, .nil⟩

/-- The events of a push of two files, of which the first one is this file. -/
def twoFileRun (file : LocalFile) : List SyncEvent :=
  (doSyncPush (.calm []) [fileSource (lit "a") file, fileSource (lit "b") twoBlocks] (lit "/d")
    false .none false directoryDevice).trace

theorem twoBlocks_fitsWords : twoBlocks.FitsWords where
  target _ h := by cases h
  contents data h := by
    obtain rfl := Except.ok.inj h
    decide
  reads := by decide
  encodes _ _ h := absurd h List.not_mem_nil

theorem twoBlocks_unbroken : twoBlocks.Unbroken := ⟨⟨_, rfl⟩, rfl, rfl, fun _ => rfl⟩

/-- A large file that is gone once its request has been written. -/
def goneFile : LocalFile :=
  { twoBlocks with stat := .ok ⟨sIfreg, syncDataMax, 0⟩, statAgain := .error .enoent }

/-- The request for the next file is not read back, for data are expected. -/
theorem goneFile_misread :
    ¬ ∃ q, ReadsBack (writtenIn (twoFileRun goneFile)) (messagesIn (twoFileRun goneFile)) q := by
  rintro ⟨q, hreads⟩
  -- Five messages were written: the request for the status of the destination, and the files' own.
  have hread := hreads 6 (by decide +kernel)
  have hne : (Stream.readAll syncDialect.readNext 6 (.idle, writtenIn (twoFileRun goneFile))).1 ≠
      messagesIn (twoFileRun goneFile) := by decide +kernel
  exact hne (congrArg Prod.fst hread)

end AdbMobile.Sync
