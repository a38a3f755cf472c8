import AdbMobile.Client.Sync.MkdirCommands
import AdbMobile.Client.Sync.PullEmits
import AdbMobile.Client.Sync.StatEmulation

/-!
# The ends of paths

`do_sync_push`, `do_sync_pull` and what they call look at the last byte of a path before they put a
slash behind it, with `back()` or with `dst[dst_len - 1]`. The comments at the two that copy a
directory say that both paths are known to be nonempty. They are where the paths of the command line
are: nothing makes an empty path of others, as a name is put behind a slash and `Dirname` never
returns one.

So what remains are the arguments themselves. An empty source of a push is safe, as `stat` does not
find it; a source of a pull is looked up by the device, which may well say that there is a
directory. `empty_paths_iff` says when no run looks at the end of an empty path.
-/

namespace AdbMobile.Sync

open ByteString PosixPath

/-- No string is looked at from its end that is empty. -/
def NoEmptyBack (t : List SyncEvent) : Prop := .back [] ∉ t

/-- The events of a run that looks only at the ends of nonempty strings. -/
abbrev Careful : SyncConnection → List SyncEvent → SyncConnection → Prop :=
  Emits (fun _ => True) fun s => s ≠ []

theorem Careful.noEmptyBack {c c' : SyncConnection} {t : List SyncEvent} (h : Careful c t c') :
    NoEmptyBack t := fun hmem => h _ hmem rfl

/-- Every message is allowed. -/
theorem careful_all : ∀ m : SyncMessage, (fun _ => True) m := fun _ => trivial

theorem careful_requests : AllowsStat fun _ : SyncMessage => True := fun _ _ _ _ => trivial

instance : AllowsWalk (SyncEvent.Allowed (fun _ => True) fun s => s ≠ []) where
  of_warning _ := trivial
  of_unexamined _ := trivial
  of_back _ hs := hs

instance : AllowsPull (fun _ => True) (SyncEvent.Allowed (fun _ => True) fun s => s ≠ []) where
  of_local e he := by
    cases e with
    | wrote | back => cases he
    | _ => trivial
  stat _ _ _ _ := trivial
  of_request _ _ _ _ := trivial
  of_recvV2 _ _ _ := fun _ _ => trivial

/-! ## Paths with a slash behind them -/

section Push

variable (env : SyncEnv)

/-! ## Pushing -/

/-- `copy_local_dir_remote` looks at the ends of its two paths. -/
theorem careful_copyLocalDirRemote {lpath rpath : Bytes} (hl : lpath ≠ []) (hr : rpath ≠ [])
    (tree : LocalTree) (checkTimes listOnly : Bool) (compression : CompressionType)
    (dryRun : Bool) :
    Prog.Keeps Careful
      (copyLocalDirRemote env lpath rpath tree checkTimes listOnly compression dryRun) :=
  emits_copyLocalDirRemote env (fun _ => trivial) careful_requests hl hr
    (emits_pushList env careful_all _ _ _) tree checkTimes

/-- A source is pushed to a destination that is not empty, or it is not found. -/
theorem careful_pushSource {dst : Bytes} (dstStat : Option Stat) (sync : Bool)
    (compression : CompressionType) (dryRun : Bool) {src : LocalSource}
    (hsafe : ∀ st, src.stat = .ok st → src.path ≠ [] ∧ dst ≠ []) :
    Prog.Keeps Careful (pushSource env dst dstStat sync compression dryRun src) := by
  unfold pushSource
  cases hstat : src.stat with
  | error e =>
    exact emits_bind (emits_setErrno e) fun _ => emits_bind (emits_captureError _) fun _ =>
      emits_bind (emits_emit trivial) fun _ => emits_pure _
  | ok st =>
    obtain ⟨hpath, hdst⟩ := hsafe st hstat
    have hbelow : withSeparator dst ++ basename src.path ≠ [] :=
      List.append_ne_nil_of_left_ne_nil (withSeparator_ne_nil dst) _
    refine .ite (fun _ => .ite (fun _ => .ite (fun _ => ?_) fun _ => ?_) fun _ => ?_) fun _ =>
      .ite (fun _ => ?_) fun _ => .ite (fun _ => ?_) fun _ => ?_
    · exact emits_bind (emits_captureError _) fun _ => emits_pure none
    · exact emits_bind (emits_emit hdst) fun _ =>
        .map (careful_copyLocalDirRemote env hpath hbelow _ _ _ _ _) _
    · exact .map (careful_copyLocalDirRemote env hpath hdst _ _ _ _ _) _
    · exact emits_bind (emits_emit trivial) fun _ => emits_pure _
    · exact emits_bind (emits_emit hdst) fun _ => .map (emits_syncSend env careful_all _ _ _ _ _ _ _ _) _
    · exact .map (emits_syncSend env careful_all _ _ _ _ _ _ _ _) _

theorem careful_pushSources {dst : Bytes} (dstStat : Option Stat) (sync : Bool)
    (compression : CompressionType) (dryRun : Bool) {srcs : List LocalSource}
    (hsafe : ∀ src ∈ srcs, ∀ st, src.stat = .ok st → src.path ≠ [] ∧ dst ≠ []) :
    ∀ success, Prog.Keeps Careful (pushSources env dst dstStat sync compression dryRun success srcs) := by
  induction srcs with
  | nil => exact fun success => emits_bind (emits_readAcknowledgements env true) fun _ =>
      emits_pure _
  | cons src srcs ih =>
    intro success
    refine emits_bind (careful_pushSource env dstStat sync compression dryRun
      (hsafe src List.mem_cons_self)) fun r => ?_
    cases r with
    | none => exact emits_pure false
    | some ok => exact ih (fun src' hsrc' => hsafe src' (List.mem_cons_of_mem src hsrc')) _

/-- A push to a destination that is not empty, or with several sources of which none is found. -/
theorem careful_doSyncPush {srcs : List LocalSource} {dst : Bytes} (sync : Bool)
    (compression : CompressionType) (dryRun : Bool)
    (hsafe : ∀ src ∈ srcs, ∀ st, src.stat = .ok st → src.path ≠ [] ∧ dst ≠ [])
    (hdst : dst ≠ [] ∨ 1 < srcs.length) :
    Prog.Keeps Careful (doSyncPush env srcs dst sync compression dryRun) := by
  have hstat : Prog.Keeps Careful (statPushDestination env dst) := by
    refine emits_bind (emits_syncStatFallback env careful_requests dst) fun r => ?_
    cases r with
    | some st => exact emits_pure _
    | none =>
      exact emits_bind emits_get fun c => .ite (fun _ => emits_pure _) fun _ =>
        emits_bind (emits_captureError _) fun _ => emits_pure _
  have hcheck : ∀ dstExists,
      Prog.Keeps Careful (checkPushDestination srcs.length dst dstExists) := by
    intro dstExists
    refine .ite (fun _ => emits_bind (emits_captureError _) fun _ => emits_pure _) fun hone => ?_
    refine emits_bind (emits_emit (hdst.resolve_right hone)) fun _ => .ite (fun _ => ?_) fun _ =>
      emits_pure _
    exact emits_bind (emits_captureError _) fun _ => emits_pure _
  refine emits_bind hstat fun r => ?_
  cases r with
  | none => exact emits_pure false
  | some dstStat =>
    have hsources := careful_pushSources env dstStat sync compression dryRun hsafe true
    exact .ite (fun _ => hsources) fun _ => emits_bind (hcheck _) fun _ =>
      .ite (fun _ => hsources) fun _ => emits_pure false

end Push

section Pull

variable (env : SyncEnv)

/-- A pull of sources with names, to a destination with a name. -/
theorem careful_doSyncPull {srcs : List Bytes} {dst : Bytes} (copyAttrs : Bool)
    (compression : CompressionType) (hsrcs : [] ∉ srcs) (hdst : dst ≠ []) :
    Prog.Keeps Careful (doSyncPull env srcs dst copyAttrs compression) :=
  emits_doSyncPull env copyAttrs compression (fun _ hsrc heq => hsrcs (heq ▸ hsrc)) hdst

/-- A pull that finds no destination for several sources goes no further. -/
theorem careful_pull_refused {srcs : List Bytes} {dst : Bytes} {c : SyncConnection}
    (copyAttrs : Bool)
    (compression : CompressionType) (hsrcs : srcs.length ≠ 1)
    (hnone : env.localStat c.calls = .error .enoent) :
    Careful c (doSyncPull env srcs dst copyAttrs compression c).trace c := by
  have hstat : (localStat env c).result = .ok none := by
    have hcall : (nextCall c).result = .ok c.calls := rfl
    rw [localStat, Prog.bind_apply_ok hcall, hnone]
    rfl
  have hdestination : (statDestination env srcs.length dst c).result = .ok none := by
    rw [statDestination, Prog.bind_apply_ok hstat]
    dsimp only
    rw [Prog.bind_get_apply, if_neg fun h => hsrcs h.1]
    rfl
  rw [doSyncPull, Prog.bind_apply_ok hdestination]
  exact fun e he => emits_statDestination env _ _ c e ((List.mem_append.mp he).resolve_right
    List.not_mem_nil)

end Pull

/-! ## Every run -/

/-- No run of a push of these paths looks at the end of an empty string, where `stat` answers for
the sources as `law` says. -/
def PushCareful (law : Bytes → Except Errno Stat → Prop) (paths : List Bytes)
    (dst : Bytes) : Prop :=
  ∀ (env : SyncEnv) (srcs : List LocalSource) (sync : Bool) (compression : CompressionType)
    (dryRun : Bool) (c : SyncConnection), srcs.map LocalSource.path = paths →
      (∀ src ∈ srcs, law src.path src.stat) →
        NoEmptyBack (doSyncPush env srcs dst sync compression dryRun c).trace

/-- No run of a pull of these paths does, where `stat` answers for the destination as `law` says. -/
def PullCareful (law : Bytes → Except Errno Stat → Prop) (paths : List Bytes)
    (dst : Bytes) : Prop :=
  ∀ (env : SyncEnv) (copyAttrs : Bool) (compression : CompressionType) (c : SyncConnection),
    law dst (env.localStat c.calls) →
      NoEmptyBack (doSyncPull env paths dst copyAttrs compression c).trace

/-- `stat` does not find the empty path; it may say anything of other ones. -/
def EmptyNotFound (path : Bytes) (r : Except Errno Stat) : Prop := path = [] → r = .error .enoent

/-! ## The runs that look at the end of an empty path -/

/-- A device of the first version that answers the next request for a status like this. -/
def deviceSaying (r : Except Errno Stat) : SyncConnection := .new (statV1Reply r) [] fun _ => none

/-- A file of which nothing can be read. -/
def unreadableFile : LocalFile where
  target := .error .enoent
  stat := .error .enoent
  contents := .error .enoent
  statAgain := .error .enoent
  openError := some .enoent
  reads := []
  readError := none
  encodes _ := ⟨[], false⟩

/-- A source with this status. -/
def sourceWith (r : Except Errno Stat) (path : Bytes) : LocalSource :=
  ⟨path, r, unreadableFile, .nil⟩

/-- A source that is not found. -/
def missing : Bytes → LocalSource := sourceWith (.error .enoent)

theorem map_path_sourceWith (r : Except Errno Stat) (paths : List Bytes) :
    (paths.map (sourceWith r)).map LocalSource.path = paths := by
  rw [List.map_map]
  exact List.map_id' paths

/-- A push to nothing, where the device does not find it either. -/
theorem emptyBack_of_pushed (srcs : List LocalSource) (hone : srcs.length ≤ 1) :
    .back [] ∈ (doSyncPush (.calm []) srcs [] false .none false
      (deviceSaying (.error .enoent))).trace := by
  have hstat : (statPushDestination (.calm []) [] (deviceSaying (.error .enoent))).result =
      .ok (some none) := by decide +kernel
  refine Prog.mem_trace_bind hstat ?_
  dsimp only
  rw [if_neg (by decide)]
  refine Prog.mem_trace_bind_left ?_
  rw [checkPushDestination, if_neg (Nat.not_lt.mpr hone)]
  exact Prog.mem_trace_bind_left List.mem_cons_self

/-- What is done for sources that are not found has no effect on those behind them. -/
theorem mem_trace_of_missing (env : SyncEnv) {dst : Bytes} {dstStat : Option Stat} {sync : Bool}
    {compression : CompressionType} {dryRun : Bool} {srcs : List LocalSource} {e : SyncEvent}
    (h : ∀ success c,
      e ∈ (pushSources env dst dstStat sync compression dryRun success srcs c).trace)
    (paths : List Bytes) : ∀ success c, e ∈ (pushSources env dst dstStat sync compression dryRun
      success (paths.map missing ++ srcs) c).trace := by
  induction paths with
  | nil => exact h
  | cons path paths ih =>
    intro success c
    have hfails : (pushSource env dst dstStat sync compression dryRun (missing path) c).result =
        .ok (some false) := rfl
    exact Prog.mem_trace_bind hfails (ih _ _)

/-- A push of a file to nothing, where the device says that there is a directory. -/
theorem emptyBack_of_directory (paths : List Bytes) (path : Bytes) (after : List LocalSource) :
    .back [] ∈ (doSyncPush (.calm []) (paths.map missing ++ sourceWith (.ok ⟨sIfreg, 0, 0⟩) path ::
      after) [] false .none false (deviceSaying (.ok ⟨sIfdir, 0, 0⟩))).trace := by
  have hstat : (statPushDestination (.calm []) [] (deviceSaying (.ok ⟨sIfdir, 0, 0⟩))).result =
      .ok (some (some ⟨sIfdir, 0, 0⟩)) := by decide +kernel
  refine Prog.mem_trace_bind hstat ?_
  dsimp only
  rw [if_pos (by decide)]
  refine mem_trace_of_missing _ (fun success c => ?_) paths _ _
  -- The name of the file is put behind the destination.
  refine Prog.mem_trace_bind_left ?_
  rw [pushSource]
  exact Prog.mem_trace_bind_left List.mem_cons_self

/-- An environment in which nothing but the directory above the destination is found. -/
def parentEnv : SyncEnv :=
  { SyncEnv.calm [] with
    localStat := fun k => if k = 0 then .error .enoent else .ok ⟨sIfdir, 0, 0⟩ }

/-- A pull to nothing, of which `stat` says that it does not exist. -/
theorem emptyBack_of_pulled (src : Bytes) :
    .back [] ∈ (doSyncPull parentEnv [src] [] false .none (deviceSaying (.error .enoent))).trace := by
  have hstat : (statDestination parentEnv 1 [] (deviceSaying (.error .enoent))).result =
      .ok (some none) := by decide +kernel
  refine Prog.mem_trace_bind hstat ?_
  dsimp only
  rw [if_neg (by decide)]
  exact Prog.mem_trace_bind_left (Prog.mem_trace_bind_left List.mem_cons_self)

/-- The replies of a device that has none of the paths: a request that is too long is not sent. -/
def notFoundReplies (paths : List Bytes) : Bytes :=
  paths.flatMap fun path => if 1024 < path.length then [] else statV1Reply (.error .enoent)

/-- The client of `directoryEnv` asks for `lstat` in the first version. -/
theorem directoryEnv_works : directoryEnv.haveStatV2 = false ∧ directoryEnv.Works :=
  ⟨by decide +kernel, fun _ => rfl, fun _ => rfl⟩

/-- What a reply that is next in the stream comes to, unless there is a link. -/
theorem fallback_answered (path more : Bytes) {r : Except Errno Stat} {c : SyncConnection}
    (hr : ∀ st, r = .ok st → st.mode ≠ 0 ∧ isLnk st.mode = false)
    (hinput : c.input = statV1Reply r ++ more) (hlen : path.length ≤ 1024) :
    Prog.Runs (syncStatFallback directoryEnv path) c fun o c' _ => c'.input = more ∧
      (∀ e, r = .error e → o = none) ∧ ∀ st, r = .ok st → ∃ st', o = some st' ∧
        st'.mode = st.mode := by
  obtain ⟨hversion, hworks⟩ := directoryEnv_works
  refine (syncStat_runs directoryEnv path c).bind fun o₁ c₁ _ h₁ => ?_
  rw [Place.statExchange, if_neg (by simp [hversion])] at h₁
  obtain ⟨hplace₁, rfl, herrno⟩ : c₁.place = c.place ∧ o₁ = none ∧ c₁.errno = .enotsup := h₁
  obtain ⟨o, hexchange, ho⟩ := exchange_v1 (p := c₁.place) hversion hworks (fun st h => (hr st h).1)
    ((congrArg Place.input hplace₁).trans hinput) hlen
  refine .get_bind ?_
  rw [if_neg (by simp [herrno])]
  refine (syncLstat_runs directoryEnv path c₁).bind fun o₂ c₂ _ h₂ => ?_
  rw [hexchange] at h₂
  have hmore : c₂.input = more := congrArg Place.input h₂.1
  cases r with
  | error e =>
    obtain rfl : o = .error .enoprotoopt := ho
    obtain rfl : o₂ = none := h₂.2.1
    exact .pure ⟨hmore, fun _ _ => rfl, fun _ h => by cases h⟩
  | ok st =>
    obtain ⟨st', rfl, hmode⟩ : ∃ st', o = .ok st' ∧ st'.mode = st.mode := ho
    obtain rfl : o₂ = some st' := h₂.2
    dsimp only
    rw [hmode, (hr st rfl).2, if_neg Bool.false_ne_true]
    refine .pure ⟨hmore, fun _ h => (by cases h), fun st'' h => ⟨st', rfl, ?_⟩⟩
    rw [hmode, Except.ok.inj h]

/-- A path that is too long has no status, and nothing is read. -/
theorem fallback_unasked {path : Bytes} {c : SyncConnection} (hlen : 1024 < path.length) :
    Prog.Runs (syncStatFallback directoryEnv path) c fun o c' _ => c'.input = c.input ∧
      o = none := by
  obtain ⟨hversion, -⟩ := directoryEnv_works
  refine (syncStat_runs directoryEnv path c).bind fun o₁ c₁ _ h₁ => ?_
  rw [Place.statExchange, if_neg (by simp [hversion])] at h₁
  obtain ⟨hplace₁, rfl, herrno⟩ : c₁.place = c.place ∧ o₁ = none ∧ c₁.errno = .enotsup := h₁
  refine .get_bind ?_
  rw [if_neg (by simp [herrno])]
  refine (syncLstat_runs directoryEnv path c₁).bind fun o₂ c₂ _ h₂ => ?_
  rw [exchange_tooLong hlen] at h₂
  obtain rfl : o₂ = none := h₂.2.1
  have hinput : c₂.input = c₁.input := congrArg Place.input h₂.1
  exact .pure ⟨hinput.trans (congrArg Place.input hplace₁), rfl⟩

/-- A source that the device does not have is passed over. -/
theorem pullSource_notFound {path more : Bytes} (dst : Bytes) (dstStat : Option Stat)
    (copyAttrs : Bool) (compression : CompressionType) {c : SyncConnection}
    (hinput : c.input = notFoundReplies [path] ++ more) :
    Prog.Runs (pullSource directoryEnv dst dstStat copyAttrs compression path) c fun o c' _ =>
      o = some false ∧ c'.input = more := by
  have hstat : Prog.Runs (syncStatFallback directoryEnv path) c fun o c' _ =>
      o = none ∧ c'.input = more := by
    rw [notFoundReplies, List.flatMap_singleton] at hinput
    by_cases hlen : 1024 < path.length
    · rw [if_pos hlen] at hinput
      exact (fallback_unasked hlen).mono fun _ _ _ h => ⟨h.2, h.1.trans hinput⟩
    · rw [if_neg hlen] at hinput
      exact (fallback_answered _ _ (fun _ h => by cases h) hinput (Nat.not_lt.mp hlen)).mono
        fun _ _ _ h => ⟨h.2.1 _ rfl, h.1⟩
  refine hstat.bind fun o c₁ _ ⟨ho, hmore⟩ => ?_
  subst ho
  have hline : ∀ text, Prog.Runs (captureErrorLine text) c₁ fun _ c' _ => c' = c₁ := fun _ =>
    ⟨(), rfl, rfl⟩
  refine .get_bind ?_
  split
  · exact (hline _).bind fun _ _ _ hc => .pure ⟨rfl, hc ▸ hmore⟩
  · exact .get_bind ((hline _).bind fun _ _ _ hc => .pure ⟨rfl, hc ▸ hmore⟩)

/-- A pull of a source from a device that has a directory there, after others that it does not
have. -/
theorem emptyBack_of_source (before after : List Bytes) (dst : Bytes) :
    .back [] ∈ (doSyncPull directoryEnv (before ++ [] :: after) dst false .none
      (.new (notFoundReplies before ++ statV1Reply (.ok ⟨sIfdir, 0, 0⟩)) [] fun _ => none)).trace := by
  have hdirectory : isDir sIfdir = true := by decide
  have hcopied : ∀ c, .back [] ∈ ((some <$> copyRemoteDirLocal directoryEnv []
      (withSeparator dst ++ basename []) false .none : SyncM (Option Bool)) c).trace := by
    intro c
    rw [Prog.map_apply]
    exact Prog.mem_trace_bind_left (List.mem_cons_of_mem _ List.mem_cons_self)
  -- What is emitted for the empty source.
  have hsource : ∀ success (c : SyncConnection), c.input = statV1Reply (.ok ⟨sIfdir, 0, 0⟩) →
      .back [] ∈ (pullSources directoryEnv dst (some ⟨sIfdir, 0, 0⟩) false .none success
        ([] :: after) c).trace := by
    intro success c hinput
    refine Prog.mem_trace_bind_left ?_
    obtain ⟨o, ho, -, -, hfound⟩ := fallback_answered [] []
      (fun st h => by rw [← Except.ok.inj h]; decide) (hinput.trans (List.append_nil _).symm)
      (Nat.zero_le _)
    obtain ⟨st, rfl, hmode⟩ := hfound _ rfl
    have hdir : isDir st.mode = true := hmode ▸ hdirectory
    refine Prog.mem_trace_bind ho ?_
    dsimp only
    rw [if_pos hdir, if_pos Option.isSome_some, if_neg (by decide)]
    exact Prog.mem_trace_bind (a := ()) rfl (hcopied _)
  -- The sources before it leave the device to answer for it.
  have hsources : ∀ before success (c : SyncConnection),
      c.input = notFoundReplies before ++ statV1Reply (.ok ⟨sIfdir, 0, 0⟩) →
      .back [] ∈ (pullSources directoryEnv dst (some ⟨sIfdir, 0, 0⟩) false .none success
        (before ++ [] :: after) c).trace := by
    intro before
    induction before with
    | nil => exact hsource
    | cons path before ih =>
      intro success c hinput
      have hfirst : notFoundReplies (path :: before) =
          notFoundReplies [path] ++ notFoundReplies before :=
            @List.flatMap_append _ _ [path] before _
      rw [hfirst, List.append_assoc] at hinput
      obtain ⟨o, ho, rfl, hmore⟩ := pullSource_notFound dst (some ⟨sIfdir, 0, 0⟩) false
        .none hinput
      exact Prog.mem_trace_bind ho (ih _ _ hmore)
  have hstat : ∀ n (c : SyncConnection), (statDestination directoryEnv n dst c).result =
      .ok (some (some ⟨sIfdir, 0, 0⟩)) := fun _ _ => rfl
  refine Prog.mem_trace_bind (hstat _ _) ?_
  dsimp only
  rw [if_pos (by decide)]
  exact hsources before true _ rfl

/-! ## The paths that are safe -/

/-- A push to a destination that is not empty is safe, and so is one of several sources that all are,
where `stat` does not find the empty path. -/
theorem pushCareful_of_safe {paths : List Bytes} {dst : Bytes}
    (hsafe : dst ≠ [] ∨ 1 < paths.length ∧ ∀ path ∈ paths, path = []) :
    PushCareful EmptyNotFound paths dst := by
  rintro env srcs sync compression dryRun c rfl hlaw
  have hfound : ∀ src ∈ srcs, ∀ st, src.stat = .ok st → src.path ≠ [] := by
    intro src hsrc st hstat hnil
    have hnone := hlaw src hsrc hnil
    rw [hstat] at hnone
    cases hnone
  refine (careful_doSyncPush env sync compression dryRun (fun src hsrc st hstat => ?_)
    (hsafe.imp_right fun h => ?_) c).noEmptyBack
  · refine ⟨hfound src hsrc st hstat, hsafe.elim id fun h => ?_⟩
    exact absurd (h.2 _ (List.mem_map_of_mem hsrc)) (hfound src hsrc st hstat)
  · simpa using h.1

/-- Any other push to an empty destination looks at its end, in some run. -/
theorem not_pushCareful {paths : List Bytes}
    (hpaths : ¬ (1 < paths.length ∧ ∀ path ∈ paths, path = [])) :
    ¬ PushCareful EmptyNotFound paths [] := by
  intro hall
  by_cases hone : paths.length ≤ 1
  · -- The destination does not exist, so what is asked for is whether it ends with a slash.
    refine hall _ _ _ _ _ _ (map_path_sourceWith _ paths) (fun src hsrc _ => ?_)
      (emptyBack_of_pushed (paths.map missing) (by rwa [List.length_map]))
    obtain ⟨path, -, rfl⟩ := List.mem_map.mp hsrc
    rfl
  · -- It is a directory, and one of the sources is a file that is put into it.
    obtain ⟨path, hpath, hne⟩ : ∃ path ∈ paths, path ≠ [] := by
      by_contra hnone
      exact hpaths ⟨Nat.lt_of_not_le hone, fun path hmem => by_contra fun hne =>
        hnone ⟨path, hmem, hne⟩⟩
    obtain ⟨before, after, rfl⟩ := List.append_of_mem hpath
    refine hall _ _ _ _ _ _ ?_ (fun src hsrc hnil => ?_)
      (emptyBack_of_directory before path (after.map missing))
    · rw [List.map_append, List.map_cons, missing, map_path_sourceWith, map_path_sourceWith]
      rfl
    · -- Only the file is found, and it has a name.
      obtain hsrc | hsrc := List.mem_append.mp hsrc
      · obtain ⟨q, -, rfl⟩ := List.mem_map.mp hsrc
        rfl
      obtain rfl | hsrc := List.mem_cons.mp hsrc
      · exact absurd hnil hne
      · obtain ⟨q, -, rfl⟩ := List.mem_map.mp hsrc
        rfl

/-- The pulls that are safe where `stat` does not find the empty path. -/
theorem pullCareful_iff (paths : List Bytes) (dst : Bytes) :
    PullCareful EmptyNotFound paths dst ↔ if dst = [] then paths.length ≠ 1 else [] ∉ paths := by
  constructor
  · intro hall
    split
    · rename_i hdst
      subst hdst
      intro hone
      obtain ⟨src, rfl⟩ := List.length_eq_one_iff.mp hone
      exact hall _ _ _ _ (fun _ => rfl) (emptyBack_of_pulled src)
    · rename_i hdst
      intro hmem
      obtain ⟨before, after, rfl⟩ := List.append_of_mem hmem
      exact hall _ _ _ _ (fun hnil => absurd hnil hdst) (emptyBack_of_source before after dst)
  · intro hsafe env copyAttrs compression c hlaw
    by_cases hdst : dst = []
    · rw [if_pos hdst] at hsafe
      exact (careful_pull_refused env copyAttrs compression hsafe (hlaw hdst)).noEmptyBack
    · rw [if_neg hdst] at hsafe
      exact (careful_doSyncPull env copyAttrs compression hsafe hdst c).noEmptyBack

/-- Whatever `stat` says, no end of an empty string is looked at where no argument is empty. And
where `stat` does not find the empty path, a push never looks at one exactly if its destination is
not empty, or if there are several sources and all are empty; and a pull exactly if its destination
is not empty and no source is, or if its destination is empty and there is not exactly one
source. -/
theorem empty_paths_iff (paths : List Bytes) (dst : Bytes) :
    (dst ≠ [] → [] ∉ paths → PushCareful (fun _ _ => True) paths dst ∧
      PullCareful (fun _ _ => True) paths dst) ∧
    (PushCareful EmptyNotFound paths dst ↔
      dst ≠ [] ∨ 1 < paths.length ∧ ∀ path ∈ paths, path = []) ∧
    (PullCareful EmptyNotFound paths dst ↔ if dst = [] then paths.length ≠ 1 else [] ∉ paths) := by
  refine ⟨fun hdst hpaths => ⟨?_, ?_⟩, ⟨fun hall => ?_, pushCareful_of_safe⟩, pullCareful_iff paths dst⟩
  · -- A source that is found has a name, as all have one.
    rintro env srcs sync compression dryRun c rfl -
    refine (careful_doSyncPush env sync compression dryRun
      (fun src hsrc _ _ => ⟨fun hnil => ?_, hdst⟩) (.inl hdst) c).noEmptyBack
    exact hpaths (hnil ▸ List.mem_map_of_mem hsrc)
  · exact fun env copyAttrs compression c _ =>
      (careful_doSyncPull env copyAttrs compression hpaths hdst c).noEmptyBack
  · by_contra hunsafe
    obtain ⟨hdst, hpaths⟩ := not_or.mp hunsafe
    obtain rfl : dst = [] := not_not.mp hdst
    exact not_pushCareful hpaths hall

/-- A push to the destination `""` looks at its end. -/
theorem emptyDestination_not_careful :
    ¬ ∀ (paths : List Bytes) (dst : Bytes),
      PushCareful EmptyNotFound paths dst ∧ PullCareful EmptyNotFound paths dst := by
  intro hall
  refine (hall [lit "f"] []).1 _ _ _ _ _ _ rfl (fun src hsrc hnil => ?_)
    (emptyBack_of_pushed [missing (lit "f")] (by decide))
  rw [List.mem_singleton.mp hsrc]
  rfl

end AdbMobile.Sync
