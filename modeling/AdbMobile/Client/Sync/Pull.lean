import AdbMobile.Client.Sync.Receive

/-!
# Pulling a tree

`remote_build_list` lists a directory of the device and the directories below it, and
`do_sync_pull` copies what it lists. The names are bytes that the device sends: `FinishLs` refuses a
name with a slash, and the callback drops `.` and `..`.

So the local path of every entry is the destination followed by names that stay where they are put,
or it leads to a directory that is being listed (`remoteBuildList_runs`), and a pull works on
nothing outside its destination. Paths of the command line are C strings, so `c_str` of a path is
the path.
-/

namespace AdbMobile.Sync

open ByteString PosixPath

section Pull

variable (env : SyncEnv)

/-- `ensure_trailing_separators`. -/
def ensureTrailingSeparators (localPath remotePath : Bytes) : SyncM (Bytes × Bytes) := do
  Prog.emit (.back localPath)
  Prog.emit (.back remotePath)
  return (withSeparator localPath, withSeparator remotePath)

/-- The constructor of `copyinfo`. -/
def copyInfo (localPath remotePath name : Bytes) (mode : UInt32) : SyncM CopyInfo := do
  let (lpath, rpath) ← ensureTrailingSeparators localPath remotePath
  if isDir mode then
    let (lpath, rpath) ← ensureTrailingSeparators (lpath ++ name) (rpath ++ name)
    return { lpath := lpath, rpath := rpath, mode := mode }
  else return { lpath := lpath ++ name, rpath := rpath ++ name, mode := mode }

/-- The lists of `remote_build_list`: the one that its caller gave it, and its own two. -/
structure RemoteLists where
  fileList : List CopyInfo
  dirlist : List CopyInfo
  linklist : List CopyInfo

/-- `file_list->push_back`, for a listed name or for the directory that is listed. -/
def pushBack (listed : Bool) (ci : CopyInfo) (fileList : List CopyInfo) :
    SyncM (List CopyInfo) := do
  Prog.emit (.entry listed ci)
  return fileList ++ [ci]

/-- The callback of `remote_build_list`. -/
def remoteCallback (rpath lpath : Bytes) (lists : RemoteLists) (d : Dent) : SyncM RemoteLists := do
  if isDotOrDotDot d.name then return lists
  else
    let ci ← copyInfo lpath rpath d.name d.mode
    if isDir d.mode then return { lists with dirlist := lists.dirlist ++ [ci] }
    else if isLnk d.mode then return { lists with linklist := lists.linklist ++ [ci] }
    else
      if !shouldPullFile d.mode then
        Prog.emit (.warning (lit "skipping special file '" ++ ci.rpath ++ lit "' (mode = 0o" ++
          inBase 8 d.mode.toNat ++ lit ")"))
      let ci := { ci with
        time := signedLong d.time, size := d.size, skip := !shouldPullFile d.mode }
      return { lists with fileList := ← pushBack true ci lists.fileList }

/-- What `remote_build_list` makes of a symbolic link. -/
def resolveLink (lists : RemoteLists) (link : CopyInfo) : SyncM RemoteLists := do
  match ← syncStatFallback env link.rpath with
  | none =>
    Prog.emit (.warning (lit "stat failed for path " ++ link.rpath ++ lit ": " ++ (← strerrno env)))
    return lists
  | some st =>
    if isDir st.mode then return { lists with dirlist := lists.dirlist ++ [link] }
    else return { lists with fileList := ← pushBack true link lists.fileList }

/-- `remote_build_list`, for directories at most `depth` levels deep; the process would not get on
below them. -/
def remoteBuildListTo : ℕ → List CopyInfo → Bytes → Bytes → SyncM (Bool × List CopyInfo)
  | 0, _, _, _ => Prog.exit .hangs
  | depth + 1, fileList, rpath, lpath => do
    let ci ← copyInfo (dirname lpath) (dirname rpath) (basename lpath) sIfdir
    let fileList ← pushBack false ci fileList
    let (ok, lists) ← syncLs env rpath (remoteCallback rpath lpath) ⟨fileList, [], []⟩
    if !ok then return (false, lists.fileList)
    else
      let lists ← Prog.foldM (resolveLink env) lists lists.linklist
      -- The directories are taken from the back of the list.
      Prog.foldM (fun (r : Bool × List CopyInfo) (current : CopyInfo) =>
        if r.1 then remoteBuildListTo depth r.2 current.rpath current.lpath
        else return r) (true, lists.fileList) lists.dirlist.reverse

/-- `remote_build_list`. A directory below the one listed was read from the stream. -/
def remoteBuildList (fileList : List CopyInfo) (rpath lpath : Bytes) :
    SyncM (Bool × List CopyInfo) := do
  let c ← Prog.get
  remoteBuildListTo env (c.input.length + 1) fileList rpath lpath

/-- A call that changes a local file. -/
def localCall (op : LocalOp) (path : Bytes) : SyncM Bool := do
  let k ← nextCall
  Prog.emit (.localOp op path)
  match env.localError k with
  | some e =>
    setErrno e
    return false
  | none => return true

/-- `set_time_and_mode`: whether both calls succeed. -/
def setTimeAndMode (lpath : Bytes) (time : ℤ) (mode : UInt32) : SyncM Bool := do
  let r1 ← localCall env (.utime time) lpath
  let r2 ← localCall env (.chmod (mode &&& ~~~env.umask)) lpath
  return r1 && r2

/-- What `copy_remote_dir_local` does with an entry of the list: whether it goes on. -/
def pullEntry (copyAttrs : Bool) (compression : CompressionType) (ci : CopyInfo) : SyncM Bool := do
  if ci.skip then return true
  else if isDir ci.mode then
    if ← localCall env .mkdirs ci.lpath then return true
    else
      captureError (lit "failed to create directory '" ++ ci.lpath ++ lit "': " ++ (← strerrno env))
      return false
  else
    if ← syncRecv env ci.rpath ci.lpath compression then
      if copyAttrs then setTimeAndMode env ci.lpath ci.time ci.mode else return true
    else return false

/-- `copy_remote_dir_local`. -/
def copyRemoteDirLocal (rpath lpath : Bytes) (copyAttrs : Bool) (compression : CompressionType) :
    SyncM Bool := do
  let (lpath, rpath) ← ensureTrailingSeparators lpath rpath
  Prog.emit (.captured (lit "pull: building file list..."))
  Prog.emit (.info (lit "pull: building file list..."))
  let (ok, fileList) ← remoteBuildList env [] rpath lpath
  if !ok then return false
  else Prog.allM (pullEntry env copyAttrs compression) fileList

/-- `stat` of a local path. -/
def localStat : SyncM (Option Stat) := do
  let k ← nextCall
  match env.localStat k with
  | .error e =>
    setErrno e
    return none
  | .ok st => return some st

/-- The destination as `do_sync_pull` finds it: whether it exists, and what it is. The function
gives up where this is `none`. -/
def statDestination (sources : ℕ) (dst : Bytes) : SyncM (Option (Option Stat)) := do
  match ← localStat env with
  | some st => return some (some st)
  | none =>
    if sources = 1 ∧ (← Prog.get).errno = .enoent then
      match ← localStat env with
      | some _ => return some none
      | none =>
        captureError (lit "cannot create file/directory '" ++ dst ++ lit "': " ++ (← strerrno env))
        return none
    else
      captureError (lit "failed to access '" ++ dst ++ lit "': " ++ (← strerrno env))
      return none

/-- Whether `do_sync_pull` goes on with a destination that is not a directory. -/
def checkDestination (sources : ℕ) (dst : Bytes) (dstExists : Bool) : SyncM Bool := do
  if 1 < sources then
    captureError (lit "target '" ++ dst ++ lit "' is not a directory")
    return false
  else
    Prog.emit (.back dst)
    if dst.getLast? = some slash ∧ dstExists then
      captureError (lit "failed to access '" ++ dst ++ lit "': Not a directory")
      return false
    else return true

/-- A message that is captured with a newline after it, and printed. -/
def captureErrorLine (text : Bytes) : SyncM Unit := do
  Prog.emit (.captured (text ++ lit "\n"))
  error text

/-- What `do_sync_pull` does with a source: what it is worth, or `none` where the function
returns. -/
def pullSource (dst : Bytes) (dstStat : Option Stat) (copyAttrs : Bool)
    (compression : CompressionType) (src : Bytes) : SyncM (Option Bool) := do
  let dstIsdir := dstStat.any fun st => isDir st.mode
  match ← syncStatFallback env src with
  | none =>
    if (← Prog.get).errno = .enoprotoopt then
      captureErrorLine (lit "remote object '" ++ src ++ lit "' does not exist")
    else
      captureErrorLine (lit "failed to stat remote object '" ++ src ++ lit "': " ++
        (← strerrno env))
    return some false
  | some st =>
    if isDir st.mode then
      if dstStat.isSome then
        if !dstIsdir then
          captureErrorLine (lit "target '" ++ dst ++ lit "' is not a directory")
          return none
        else
          Prog.emit (.back dst)
          some <$> copyRemoteDirLocal env src (withSeparator dst ++ basename src) copyAttrs compression
      else some <$> copyRemoteDirLocal env src dst copyAttrs compression
    else if !shouldPullFile st.mode then
      Prog.emit (.warning (lit "skipping special file '" ++ src ++ lit "' (mode = 0o" ++
        inBase 8 st.mode.toNat ++ lit ")"))
      return some true
    else
      let dstPath := if dstIsdir then dst ++ [slash] ++ basename src else dst
      if ← syncRecv env src dstPath compression then
        if copyAttrs then some <$> setTimeAndMode env dstPath st.mtime st.mode
        else return some true
      else return some false

/-- The sources of `do_sync_pull`, one after the other. -/
def pullSources (dst : Bytes) (dstStat : Option Stat) (copyAttrs : Bool)
    (compression : CompressionType) : Bool → List Bytes → SyncM Bool
  | success, [] => return success
  | success, src :: srcs => do
    match ← pullSource env dst dstStat copyAttrs compression src with
    | none => return false
    | some ok => pullSources dst dstStat copyAttrs compression (success && ok) srcs

/-- `do_sync_pull`, on a valid connection. -/
def doSyncPull (srcs : List Bytes) (dst : Bytes) (copyAttrs : Bool)
    (compression : CompressionType) :
    SyncM Bool := do
  match ← statDestination env srcs.length dst with
  | none => return false
  | some dstStat =>
    if dstStat.any fun st => isDir st.mode then
      pullSources env dst dstStat copyAttrs compression true srcs
    else
      if ← checkDestination srcs.length dst dstStat.isSome then
        pullSources env dst dstStat copyAttrs compression true srcs
      else return false

end Pull

/-! ## The entries of the list -/

/-- The entry that an event adds to `file_list`. -/
def SyncEvent.entries : SyncEvent → List CopyInfo
  | .entry _ ci => [ci]
  | _ => []

/-- The entries that were added to `file_list`. -/
def entries (t : List SyncEvent) : List CopyInfo := t.flatMap SyncEvent.entries

/-- An event of requests and replies, which adds no entry. -/
def SyncEvent.NoEntry (e : SyncEvent) : Prop := e.isBackground ∨ ∃ d b, e = .startsReply d b

/-- An event of a walk of `lpath`. An entry for a listed name is below `lpath`, and any other one
leads to a directory listed, which is `lpath` or below it. -/
def SyncEvent.EntryBelow (lpath : Bytes) : SyncEvent → Prop
  | .entry true ci => Extends lpath ci.lpath
  | .entry false ci => ∃ dir, (dir = lpath ∨ Extends lpath dir) ∧ location ci.lpath = location dir
  | e => e.NoEntry

theorem SyncEvent.NoEntry.entries {e : SyncEvent} (h : e.NoEntry) : e.entries = [] := by
  obtain h | ⟨d, b, rfl⟩ := h
  · cases e <;> first | rfl | exact absurd h Bool.false_ne_true
  · rfl

theorem SyncEvent.NoEntry.below {e : SyncEvent} (h : e.NoEntry) (lpath : Bytes) :
    e.EntryBelow lpath := by
  cases e with
  | entry listed ci => exact absurd h.entries (List.cons_ne_nil ci [])
  | _ => exact h

/-- An entry below a directory that is below `lpath` is below `lpath`. -/
theorem SyncEvent.EntryBelow.trans {lpath dir : Bytes} (hdir : Extends lpath dir) {e : SyncEvent}
    (h : e.EntryBelow dir) : e.EntryBelow lpath := by
  cases e with
  | entry listed ci =>
    cases listed with
    | true => exact hdir.trans h
    | false =>
      obtain ⟨d, hd, hloc⟩ := h
      refine ⟨d, .inr ?_, hloc⟩
      obtain rfl | hd := hd
      · exact hdir
      · exact hdir.trans hd
  | _ => exact h

@[simp] theorem entries_append (t t' : List SyncEvent) :
    entries (t ++ t') = entries t ++ entries t' := List.flatMap_append ..

theorem entries_eq_nil {t : List SyncEvent} (h : ∀ e ∈ t, e.NoEntry) : entries t = [] :=
  List.flatMap_eq_nil_iff.mpr fun e he => (h e he).entries

/-- The lists of a call on `lpath` that was given `fileList`, after the events `t`. -/
structure ListsBelow (lpath : Bytes) (fileList : List CopyInfo) (lists : RemoteLists)
    (t : List SyncEvent) : Prop where
  fileList : lists.fileList = fileList ++ entries t
  dirlist : ∀ ci ∈ lists.dirlist, Extends lpath ci.lpath
  linklist : ∀ ci ∈ lists.linklist, Extends lpath ci.lpath
  trace : ∀ e ∈ t, e.EntryBelow lpath

section Walk

variable {lpath : Bytes} {fileList : List CopyInfo} {lists : RemoteLists} {t : List SyncEvent}

/-- Events that add no entry leave the lists as they are. -/
theorem ListsBelow.extend (h : ListsBelow lpath fileList lists t) {t' : List SyncEvent}
    (ht' : ∀ e ∈ t', e.NoEntry) : ListsBelow lpath fileList lists (t ++ t') where
  fileList := by rw [entries_append, entries_eq_nil ht', List.append_nil, h.fileList]
  dirlist := h.dirlist
  linklist := h.linklist
  trace e he := (List.mem_append.mp he).elim (h.trace e) fun he => (ht' e he).below lpath

/-- A directory below `lpath` is put on the list of directories. -/
theorem ListsBelow.pushDir (h : ListsBelow lpath fileList lists t) {ci : CopyInfo}
    (hci : Extends lpath ci.lpath) :
    ListsBelow lpath fileList { lists with dirlist := lists.dirlist ++ [ci] } t :=
  { h with
    dirlist := fun ci' hmem => by
      obtain hmem | hmem := List.mem_append.mp hmem
      · exact h.dirlist ci' hmem
      · exact List.mem_singleton.mp hmem ▸ hci }

/-- A link below `lpath` is put on the list of links. -/
theorem ListsBelow.pushLink (h : ListsBelow lpath fileList lists t) {ci : CopyInfo}
    (hci : Extends lpath ci.lpath) :
    ListsBelow lpath fileList { lists with linklist := lists.linklist ++ [ci] } t :=
  { h with
    linklist := fun ci' hmem => by
      obtain hmem | hmem := List.mem_append.mp hmem
      · exact h.linklist ci' hmem
      · exact List.mem_singleton.mp hmem ▸ hci }

/-- An entry is put on the list of files. -/
theorem ListsBelow.pushFile (h : ListsBelow lpath fileList lists t) {listed : Bool} {ci : CopyInfo}
    (hci : (SyncEvent.entry listed ci).EntryBelow lpath) :
    ListsBelow lpath fileList { lists with fileList := lists.fileList ++ [ci] }
      (t ++ [.entry listed ci]) where
  fileList := by
    have hentry : entries [.entry listed ci] = [ci] := rfl
    rw [entries_append, hentry, h.fileList, List.append_assoc]
  dirlist := h.dirlist
  linklist := h.linklist
  trace e he := (List.mem_append.mp he).elim (h.trace e) fun he => List.mem_singleton.mp he ▸ hci

theorem ensureTrailingSeparators_runs (l r : Bytes) (c : SyncConnection) :
    Prog.Runs (ensureTrailingSeparators l r) c fun p c' t =>
      p = (withSeparator l, withSeparator r) ∧ c' = c ∧ ∀ e ∈ t, e.NoEntry := by
  refine .emit_bind (.emit_bind (.pure ⟨rfl, rfl, fun e he => ?_⟩))
  obtain rfl | rfl : e = .back l ∨ e = .back r := by simpa using he
  · exact .inl rfl
  · exact .inl rfl

/-- The paths of a new `copyinfo`: the name comes after a separator, and another separator after
the name of a directory. -/
theorem copyInfo_runs (localPath remotePath name : Bytes) (mode : UInt32) (c : SyncConnection) :
    Prog.Runs (copyInfo localPath remotePath name mode) c fun ci c' t =>
      (ci.lpath = withSeparator localPath ++ name ∨
        ci.lpath = withSeparator (withSeparator localPath ++ name)) ∧
      c' = c ∧ ∀ e ∈ t, e.NoEntry := by
  unfold copyInfo
  refine (ensureTrailingSeparators_runs localPath remotePath c).bind fun ⟨l, r⟩ c₁ t₁ ⟨hp, hc₁,
    ht₁⟩ => ?_
  subst hc₁
  obtain ⟨rfl, rfl⟩ := Prod.mk.inj hp
  dsimp only
  split
  · refine (ensureTrailingSeparators_runs _ _ c₁).bind fun ⟨l, r⟩ c₂ t₂ ⟨hp, hc₂, ht₂⟩ => ?_
    obtain ⟨rfl, rfl⟩ := Prod.mk.inj hp
    refine .pure ⟨.inr rfl, hc₂, fun e he => ?_⟩
    rw [List.append_nil] at he
    exact (List.mem_append.mp he).elim (ht₁ e) (ht₂ e)
  · exact .pure ⟨.inl rfl, rfl, by simpa using ht₁⟩

theorem pushBack_runs (listed : Bool) (ci : CopyInfo) (files : List CopyInfo) (c : SyncConnection) :
    Prog.Runs (pushBack listed ci files) c fun files' c' t =>
      files' = files ++ [ci] ∧ c' = c ∧ t = [.entry listed ci] := ⟨_, rfl, rfl, rfl, rfl⟩

/-- The callback keeps the lists: the name that it gets has no slash, and it drops `.` and `..`. -/
theorem remoteCallback_runs (rpath : Bytes) (d : Dent) (c : SyncConnection)
    (hname : slash ∉ d.name) (h : ListsBelow lpath fileList lists t) :
    Prog.Runs (remoteCallback rpath lpath lists d) c fun lists' c' t' =>
      ListsBelow lpath fileList lists' (t ++ t') ∧ c' = c := by
  unfold remoteCallback
  split
  · exact .pure ⟨by rwa [List.append_nil], rfl⟩
  rename_i hdot
  have hsafe : SafeName d.name := by
    refine ⟨hname, fun heq => hdot ?_, fun heq => hdot ?_⟩
    · simp [isDotOrDotDot, heq]
    · simp [isDotOrDotDot, heq]
  refine (copyInfo_runs lpath rpath d.name d.mode c).bind fun ci c₁ t₁ ⟨hci, hc₁, ht₁⟩ => ?_
  subst hc₁
  have hext : Extends lpath ci.lpath := by
    obtain hci | hci := hci
    · exact hci ▸ (Extends.name lpath hsafe).1
    · exact hci ▸ (Extends.name lpath hsafe).2
  have h₁ := h.extend ht₁
  split
  · exact .pure ⟨by simpa using h₁.pushDir hext, rfl⟩
  split
  · exact .pure ⟨by simpa using h₁.pushLink hext, rfl⟩
  -- The entry for the name, whether or not there is a warning before it.
  have hpush : ∀ (ci' : CopyInfo) (t' : List SyncEvent), ci'.lpath = ci.lpath →
      (∀ e ∈ t', e.NoEntry) → Prog.Runs (do
        return { lists with fileList := ← pushBack true ci' lists.fileList } : SyncM RemoteLists) c₁
        fun lists' c' t'' => ListsBelow lpath fileList lists' (t ++ (t₁ ++ (t' ++ t''))) ∧
          c' = c₁ := by
    intro ci' t' hci' ht'
    refine (pushBack_runs true ci' lists.fileList c₁).bind fun files c₂ t₂ ⟨hfiles, hc₂, ht₂⟩ => ?_
    subst hfiles ht₂
    have hentry : Extends lpath ci'.lpath := by rwa [hci']
    have hentry : (SyncEvent.entry true ci').EntryBelow lpath := hentry
    refine .pure ⟨?_, hc₂⟩
    simpa using (h₁.extend ht').pushFile hentry
  split
  · refine .emit_bind ?_
    exact hpush _ [_] rfl fun e he => List.mem_singleton.mp he ▸ .inl rfl
  · exact hpush _ [] rfl fun e he => absurd he List.not_mem_nil

/-- A link is resolved by a request, and it is put on one of the lists or left out. -/
theorem resolveLink_runs (env : SyncEnv) (link : CopyInfo) (c : SyncConnection)
    (hlink : Extends lpath link.lpath) (h : ListsBelow lpath fileList lists t) :
    Prog.Runs (resolveLink env lists link) c fun lists' c' t' =>
      ListsBelow lpath fileList lists' (t ++ t') ∧ c'.input.length ≤ c.input.length := by
  refine (replies_syncStatFallback env link.rpath c).bind fun r c₁ t₁ hreplies => ?_
  have h₁ : ListsBelow lpath fileList lists (t ++ t₁) := by
    exact h.extend fun e he => (hreplies.trace e he).imp_right fun h => ⟨_, _, h⟩
  cases r with
  | none =>
    refine .get_bind (.emit_bind (.pure ⟨?_, hreplies.input⟩))
    have h₂ : ∀ text, ListsBelow lpath fileList lists (t ++ t₁ ++ [.warning text]) := fun text =>
      h₁.extend fun e he => List.mem_singleton.mp he ▸ .inl rfl
    simpa using h₂ _
  | some st =>
    dsimp only
    split
    · exact .pure ⟨by simpa using h₁.pushDir hlink, hreplies.input⟩
    · refine (pushBack_runs true link lists.fileList c₁).bind
        fun files c₂ t₂ ⟨hfiles, hc₂, ht₂⟩ => ?_
      subst hfiles hc₂ ht₂
      have hentry : (SyncEvent.entry true link).EntryBelow lpath := hlink
      exact .pure ⟨by simpa using h₁.pushFile hentry, hreplies.input⟩

/-- What `sync_ls` makes of the lists; where one of them gets an entry, the stream is shorter. -/
theorem remoteLs_runs (env : SyncEnv) (rpath : Bytes) (c : SyncConnection)
    (hdirs : lists.dirlist = []) (hlinks : lists.linklist = [])
    (h : ListsBelow lpath fileList lists t) :
    Prog.Runs (syncLs env rpath (remoteCallback rpath lpath) lists) c fun r c' t' =>
      ListsBelow lpath fileList r.2 (t ++ t') ∧ c'.input.length ≤ c.input.length ∧
        (r.2.dirlist = [] ∧ r.2.linklist = [] ∨ c'.input.length < c.input.length) := by
  refine (replies_sendRequest env _ rpath c).bind fun ok c₁ t₁ hreplies => ?_
  have hle := hreplies.input
  have h₁ := h.extend fun e he => (hreplies.trace e he).imp_right fun h => ⟨_, _, h⟩
  cases ok with
  | false => exact .pure ⟨by simpa using h₁, hle, .inl ⟨hdirs, hlinks⟩⟩
  | true =>
    refine (finishLs_runs env (I := fun lists' t' => ListsBelow lpath fileList lists' (t ++ t₁ ++ t'))
      (fun lists' t' e he h' => ?_) (fun lists' h' => ?_) (fun lists' d c' t' hname h' => ?_)
      (by simpa using h₁)).mono fun r c₂ t₂ ⟨h₂, hle₂, hor⟩ => ?_
    · rw [← List.append_assoc]
      exact h'.extend fun e' he' => .inl (List.mem_singleton.mp he' ▸ he)
    · rw [List.append_nil] at h'
      exact h'.extend fun e' he' => .inr ⟨_, _, List.mem_singleton.mp he'⟩
    · refine (remoteCallback_runs rpath d c' hname h').mono fun lists'' c'' t'' ⟨h'', hc''⟩ => ?_
      rw [← List.append_assoc]
      exact ⟨h'', hc'' ▸ le_rfl⟩
    · rw [← List.append_assoc]
      refine ⟨h₂, by omega, ?_⟩
      obtain heq | hlt := hor
      · rw [heq]
        exact .inl ⟨hdirs, hlinks⟩
      · exact .inr (by omega)

end Walk

/-- The walk of `remote_build_list` returns, as every directory below the one listed was read from
the stream, and what it adds to the list is below that one, or leads to a directory listed. -/
theorem remoteBuildListTo_runs (env : SyncEnv) (depth : ℕ) :
    ∀ (fileList : List CopyInfo) (rpath lpath : Bytes) (c : SyncConnection),
      c.input.length < depth → Prog.Runs (remoteBuildListTo env depth fileList rpath lpath) c
        fun r c' t => r.2 = fileList ++ entries t ∧ (∀ e ∈ t, e.EntryBelow lpath) ∧
          c'.input.length ≤ c.input.length := by
  induction depth with
  | zero => exact fun _ _ _ _ hlt => absurd hlt (Nat.not_lt_zero _)
  | succ depth ih =>
    intro fileList rpath lpath c hlt
    unfold remoteBuildListTo
    refine (copyInfo_runs _ _ _ _ c).bind fun ci c₁ t₁ ⟨hci, hc₁, ht₁⟩ => ?_
    subst hc₁
    refine (pushBack_runs false ci fileList c₁).bind fun files c₂ t₂ ⟨hfiles, hc₂, ht₂⟩ => ?_
    subst hfiles hc₂ ht₂
    -- The first entry leads to the directory itself.
    have hself : (SyncEvent.entry false ci).EntryBelow lpath := by
      refine ⟨lpath, .inl rfl, ?_⟩
      have hloc := location_dirname_basename lpath
      obtain hci | hci := hci
      · rwa [hci]
      · rwa [hci, location_withSeparator (by simp [withSeparator_ne_nil])]
    have hnew : ListsBelow lpath fileList ⟨fileList, [], []⟩ [] :=
      ⟨by simp [entries], fun _ h => absurd h List.not_mem_nil, fun _ h => absurd h List.not_mem_nil,
        fun _ h => absurd h List.not_mem_nil⟩
    have hfirst := (hnew.extend ht₁).pushFile hself
    rw [List.nil_append] at hfirst
    refine (remoteLs_runs env rpath c₂ rfl rfl hfirst).bind
      fun ⟨ok, lists⟩ c₃ t₃ ⟨h₃, hle₃, hempty⟩ => ?_
    cases ok with
    | false => exact .pure ⟨by simpa using h₃.fileList, by simpa using h₃.trace, hle₃⟩
    | true =>
      -- The links. A list that is not empty was filled from the stream.
      have hlinks := Prog.Runs.foldM (f := resolveLink env) (l := lists.linklist)
        (I := fun lists' c' t' => ListsBelow lpath fileList lists' (t₁ ++ [.entry false ci] ++ t₃ ++ t') ∧
          c'.input.length ≤ c₃.input.length ∧
          (lists'.dirlist = [] ∨ c'.input.length < c₂.input.length))
        (fun lists' link hmem c' t' ⟨h', hle', _⟩ => ?_) lists c₃ []
        ⟨by simpa using h₃, le_rfl, hempty.imp_left And.left⟩
      · refine hlinks.bind fun lists₄ c₄ t₄ ⟨h₄, hle₄, hempty₄⟩ => ?_
        -- The directories, each of which is below this one.
        refine (Prog.Runs.foldM
          (I := fun (r : Bool × List CopyInfo) c' t' =>
            r.2 = fileList ++ entries (t₁ ++ [.entry false ci] ++ t₃ ++ t₄ ++ t') ∧
            (∀ e ∈ t₁ ++ [.entry false ci] ++ t₃ ++ t₄ ++ t', e.EntryBelow lpath) ∧
            c'.input.length ≤ c₄.input.length)
          (fun r current hmem c' t' ⟨hr, ht', hle'⟩ => ?_) (true, lists₄.fileList) c₄ []
          ⟨by simpa using h₄.fileList, by simpa using h₄.trace, le_rfl⟩).mono
          fun r c' t' ⟨hr, ht', hle'⟩ => ⟨by simpa using hr, by simpa using ht', by omega⟩
        split
        · have hmem : current ∈ lists₄.dirlist := List.mem_reverse.mp hmem
          have hdir := h₄.dirlist current hmem
          have hlt₄ := hempty₄.resolve_left (List.ne_nil_of_mem hmem)
          refine (ih r.2 current.rpath current.lpath c' (by omega)).mono
            fun r' c'' t'' ⟨hr', ht'', hle''⟩ => ⟨?_, fun e he => ?_, by omega⟩
          · rw [hr', hr, ← List.append_assoc, entries_append _ t'', List.append_assoc]
          · rw [← List.append_assoc] at he
            exact (List.mem_append.mp he).elim (ht' e) fun he => (ht'' e he).trans hdir
        · exact .pure ⟨by simpa using hr, by simpa using ht', hle'⟩
      · have hlt₃ := hempty.resolve_left fun h => List.ne_nil_of_mem hmem h.2
        refine (resolveLink_runs env link c' (h₃.linklist link hmem) h').mono
          fun lists'' c'' t'' ⟨h'', hle''⟩ => ⟨?_, by omega, .inr (by omega)⟩
        rwa [← List.append_assoc]

/-- What `remote_build_list` adds to the list, for every reply of the device: an entry for a listed
name has as its local path the destination extended by names, and any other entry leads to a
directory that is listed. -/
theorem remoteBuildList_runs (env : SyncEnv) (fileList : List CopyInfo) (rpath lpath : Bytes)
    (c : SyncConnection) : Prog.Runs (remoteBuildList env fileList rpath lpath) c fun r _ t =>
      r.2 = fileList ++ entries t ∧ ∀ e ∈ t, e.EntryBelow lpath :=
  .get_bind ((remoteBuildListTo_runs env _ fileList rpath lpath c (Nat.lt_succ_self _)).mono
    fun _ _ _ h => ⟨h.1, h.2.1⟩)

/-! ## What a pull works on -/

/-- The local files that an event works on meet `P`. -/
def SyncEvent.WorksIn (P : Bytes → Prop) : SyncEvent → Prop
  | .localOp _ path => P path
  | _ => True

/-- A run works on nothing but files that meet `P`. -/
abbrev WorksIn (P : Bytes → Prop) (_ : SyncConnection) (t : List SyncEvent) (_ : SyncConnection) :
    Prop := ∀ e ∈ t, e.WorksIn P

theorem SyncEvent.WorksIn.imp {P P' : Bytes → Prop} {e : SyncEvent} (h : e.WorksIn P)
    (hP : ∀ path, P path → P' path) : e.WorksIn P' := by
  cases e with
  | localOp op path => exact hP path h
  | _ => exact trivial

section WorksIn

variable {P : Bytes → Prop}

theorem worksIn_composes : Prog.Composes (WorksIn P) := Prog.composes_forall (SyncEvent.WorksIn P)

theorem worksIn_pure {α : Type} (a : α) : Prog.Obeys (WorksIn P) (pure a : SyncM α) :=
  .pure worksIn_composes a

theorem worksIn_bind {α β : Type} {p : SyncM α} {f : α → SyncM β} (hp : Prog.Obeys (WorksIn P) p)
    (hf : ∀ a, Prog.Obeys (WorksIn P) (f a)) : Prog.Obeys (WorksIn P) (p >>= f) :=
  .bind worksIn_composes hp hf

theorem worksIn_emit {e : SyncEvent} (he : e.WorksIn P) :
    Prog.Obeys (WorksIn P) (Prog.emit e : SyncM Unit) := fun _ =>
  ⟨_, rfl, fun _ hmem => List.mem_singleton.mp hmem ▸ he⟩

theorem worksIn_modify (f : SyncConnection → SyncConnection) :
    Prog.Obeys (WorksIn P) (Prog.modify f : SyncM Unit) := fun _ =>
  ⟨_, rfl, fun _ hmem => absurd hmem List.not_mem_nil⟩

/-- Background events work on no file. -/
theorem SyncEvent.WorksIn.of_background {e : SyncEvent} (h : e.isBackground) : e.WorksIn P := by
  cases e <;> first | exact trivial | exact absurd h Bool.false_ne_true

/-- Requests and replies work on no file. -/
theorem worksIn_of_replies {α : Type} {p : SyncM α} (h : Prog.Obeys Replies p) :
    Prog.Obeys (WorksIn P) p := h.mono fun _ _ _ hreplies e he => by
  obtain hback | rfl := hreplies.trace e he
  · exact .of_background hback
  · exact trivial

theorem worksIn_error (text : Bytes) : Prog.Obeys (WorksIn P) (error text) := worksIn_emit trivial

theorem worksIn_captureError (text : Bytes) : Prog.Obeys (WorksIn P) (captureError text) :=
  worksIn_bind (worksIn_emit trivial) fun _ => worksIn_error text

variable (env : SyncEnv)

theorem worksIn_strerrno : Prog.Obeys (WorksIn P) (strerrno env) :=
  worksIn_of_replies (replies_strerrno env)

theorem worksIn_localCall (op : LocalOp) {path : Bytes} (h : P path) :
    Prog.Obeys (WorksIn P) (localCall env op path) := by
  refine worksIn_bind (worksIn_bind (.get worksIn_composes) fun _ => worksIn_bind (worksIn_modify _)
    fun _ => worksIn_pure _) fun k => worksIn_bind (worksIn_emit h) fun _ => ?_
  cases env.localError k with
  | some e => exact worksIn_bind (worksIn_modify _) fun _ => worksIn_pure _
  | none => exact worksIn_pure _

theorem worksIn_setTimeAndMode {lpath : Bytes} (h : P lpath) (time : ℤ) (mode : UInt32) :
    Prog.Obeys (WorksIn P) (setTimeAndMode env lpath time mode) :=
  worksIn_bind (worksIn_localCall env _ h) fun _ =>
    worksIn_bind (worksIn_localCall env _ h) fun _ =>
    worksIn_pure _

/-- A program that stays in the background works on no file. -/
theorem worksIn_of_background {α : Type} {p : SyncM α} (hp : Prog.Returns p)
    (hR : Prog.Keeps (Background 0) p) : Prog.Obeys (WorksIn P) p :=
  worksIn_of_replies (replies_of_background hp hR)

theorem worksIn_nextCall : Prog.Obeys (WorksIn P) nextCall :=
  worksIn_bind (.get worksIn_composes) fun _ => worksIn_bind (worksIn_modify _) fun _ =>
    worksIn_pure _

theorem worksIn_readFdExactly (n : ℕ) : Prog.Obeys (WorksIn P) (readFdExactly env n) :=
  worksIn_of_replies (replies_readFdExactly env n)

theorem worksIn_reportCopyFailure (lpath rpath : Bytes) (msglen : UInt32) :
    Prog.Obeys (WorksIn P) (reportCopyFailure env lpath rpath msglen) :=
  worksIn_of_background (reportCopyFailure_returns env _ _ _) (reportCopyFailure_keeps env _ _ _)

variable {lpath : Bytes} (h : P lpath)

include h

theorem worksIn_adbUnlink : Prog.Obeys (WorksIn P) (adbUnlink lpath) :=
  worksIn_bind (worksIn_emit h) fun _ => worksIn_modify _

theorem worksIn_unlinkAndFail {α : Type} : Prog.Obeys (WorksIn P) (unlinkAndFail (α := α) lpath) :=
  worksIn_bind (worksIn_adbUnlink h) fun _ => worksIn_pure _

theorem worksIn_adbCreat : Prog.Obeys (WorksIn P) (adbCreat env lpath) := by
  refine worksIn_bind worksIn_nextCall fun k => worksIn_bind (worksIn_emit h) fun _ => ?_
  cases env.localError k with
  | some e => exact worksIn_bind (worksIn_modify _) fun _ => worksIn_pure _
  | none =>
    exact worksIn_bind (worksIn_modify _) fun _ => worksIn_bind (worksIn_emit trivial) fun _ =>
      worksIn_pure _

omit h in
theorem worksIn_writeLocal (block : Bytes) :
    Prog.Obeys (WorksIn P) (writeLocal env lpath block) := by
  have happend : ∀ block, Prog.Obeys (WorksIn P) (appendFile lpath block) := fun block =>
    worksIn_bind (.get worksIn_composes) fun _ => worksIn_modify _
  refine worksIn_bind worksIn_nextCall fun k => ?_
  cases env.localWrite k with
  | some r => exact worksIn_bind (happend _) fun _ => worksIn_bind (worksIn_modify _) fun _ =>
      worksIn_pure _
  | none => exact worksIn_bind (happend _) fun _ => worksIn_pure _

omit h in
/-- A local error that is reported before the program goes on. -/
theorem worksIn_cannotWrite {α : Type} (text : Bytes) {p : SyncM α}
    (hp : Prog.Obeys (WorksIn P) p) : Prog.Obeys (WorksIn P) (do
      error (text ++ (← strerrno env))
      p) :=
  worksIn_bind (worksIn_strerrno env) fun _ => worksIn_bind (worksIn_error _) fun _ => hp

theorem worksIn_decodeLoop : Prog.Obeys (WorksIn P) (decodeLoop env lpath) := by
  have hdecode : Prog.Obeys (WorksIn P) decode :=
    worksIn_bind (.get worksIn_composes) fun _ => worksIn_bind (worksIn_modify _) fun _ =>
      worksIn_pure _
  have hgiveUp : Prog.Obeys (WorksIn P) (do
      adbUnlink lpath
      return .inr (some false) : SyncM (Unit ⊕ Option Bool)) :=
    worksIn_bind (worksIn_adbUnlink h) fun _ => worksIn_pure _
  refine worksIn_bind (.get worksIn_composes) fun c => .loop worksIn_composes (fun _ => ?_) _ _
  refine worksIn_bind hdecode fun ⟨result, output⟩ => .ite
    (fun _ => worksIn_bind (worksIn_error _) fun _ => hgiveUp) fun _ => ?_
  have hwrite : Prog.Obeys (WorksIn P) (writeOutput env lpath output) :=
    .ite (fun _ => worksIn_pure _) fun _ => worksIn_writeLocal env output
  refine worksIn_bind (worksIn_emit trivial) fun _ => worksIn_bind hwrite fun ok => .ite
    (fun _ => worksIn_cannotWrite env _ hgiveUp) fun _ => ?_
  cases result <;> exact worksIn_pure _

theorem worksIn_syncRecvV1Round (rpath : Bytes) :
    Prog.Obeys (WorksIn P) (syncRecvV1Round env rpath lpath) := by
  have hfail := worksIn_unlinkAndFail (α := Unit) h
  refine worksIn_bind (worksIn_readFdExactly env _) fun ⟨ok, msg⟩ => .ite (fun _ => hfail) fun _ =>
    worksIn_bind (worksIn_emit trivial) fun _ => .ite (fun _ => worksIn_pure _) fun _ => ?_
  refine .ite (fun _ => worksIn_bind (worksIn_adbUnlink h) fun _ =>
    worksIn_bind (worksIn_reportCopyFailure env _ _ _) fun _ => worksIn_pure _) fun _ => ?_
  refine .ite (fun _ => worksIn_bind (worksIn_error _) fun _ => hfail) fun _ =>
    worksIn_bind (worksIn_emit trivial) fun _ =>
      worksIn_bind (worksIn_readFdExactly env _) fun ⟨ok, block⟩ =>
        .ite (fun _ => hfail) fun _ => ?_
  exact worksIn_bind (worksIn_emit trivial) fun _ =>
    worksIn_bind (worksIn_writeLocal env block) fun ok =>
      .ite (fun _ => worksIn_pure _) fun _ => worksIn_cannotWrite env _ hfail

theorem worksIn_syncRecvV2Round (rpath : Bytes) (finished : Bool) :
    Prog.Obeys (WorksIn P) (syncRecvV2Round env rpath lpath finished) := by
  have hfail := worksIn_unlinkAndFail (α := Bool) h
  have hdecode : ∀ k : Option Bool → SyncM (Bool ⊕ Bool), (∀ r, Prog.Obeys (WorksIn P) (k r)) →
      Prog.Obeys (WorksIn P) (decodeLoop env lpath >>= k) := fun _ hk =>
    worksIn_bind (worksIn_decodeLoop env h) hk
  refine worksIn_bind (worksIn_readFdExactly env _) fun ⟨ok, msg⟩ => .ite (fun _ => hfail) fun _ =>
    worksIn_bind (worksIn_emit trivial) fun _ => .ite (fun _ => ?_) fun _ => ?_
  · exact .ite (fun _ => worksIn_bind (worksIn_error _) fun _ => worksIn_pure _) fun _ =>
      hdecode _ fun r => by cases r <;> exact worksIn_pure _
  refine .ite (fun _ => worksIn_bind (worksIn_adbUnlink h) fun _ =>
    worksIn_bind (worksIn_reportCopyFailure env _ _ _) fun _ => worksIn_pure _) fun _ => ?_
  exact .ite (fun _ => worksIn_bind (worksIn_error _) fun _ => hfail) fun _ =>
    worksIn_bind (worksIn_emit trivial) fun _ =>
      worksIn_bind (worksIn_readFdExactly env _) fun ⟨ok, block⟩ =>
        .ite (fun _ => hfail) fun _ => hdecode _ fun r => by cases r <;> exact worksIn_pure _

/-- A receiver works on its local file. -/
theorem worksIn_receiver {α : Type} {request : SyncM Bool} {body : α → SyncM (α ⊕ Bool)} {a : α}
    {text : Bytes} (hrequest : Prog.Obeys (WorksIn P) request)
    (hbody : ∀ a, Prog.Obeys (WorksIn P) (body a)) : Prog.Obeys (WorksIn P) (do
      if ← request then
        adbUnlink lpath
        if ← adbCreat env lpath then
          let c ← Prog.get
          Prog.loop body false (c.input.length + 1) a
        else
          error (text ++ (← strerrno env))
          return false
      else return false) := by
  refine worksIn_bind hrequest fun ok => .ite (fun _ => ?_) fun _ => worksIn_pure _
  refine worksIn_bind (worksIn_adbUnlink h) fun _ => worksIn_bind (worksIn_adbCreat env h) fun ok =>
    .ite (fun _ => ?_) fun _ => worksIn_cannotWrite env _ (worksIn_pure _)
  exact worksIn_bind (.get worksIn_composes) fun c => .loop worksIn_composes hbody _ _

theorem worksIn_syncRecv (rpath : Bytes) (compression : CompressionType) :
    Prog.Obeys (WorksIn P) (syncRecv env rpath lpath compression) := by
  refine .ite (fun _ => ?_) fun _ => ?_
  · exact worksIn_receiver env h (worksIn_of_background (sendRecv2_returns env _ _)
      (sendRecv2_keeps env _ _)) (worksIn_syncRecvV2Round env h rpath)
  · exact worksIn_receiver env h (worksIn_of_replies (replies_sendRequest env _ _)) fun _ =>
      worksIn_syncRecvV1Round env h rpath

end WorksIn

/-! ## Inside the destination -/

/-- An entry of the list is inside the directory that was listed. -/
theorem SyncEvent.EntryBelow.inside {lpath : Bytes} (hlpath : lpath ≠ []) {listed : Bool}
    {ci : CopyInfo} (h : (SyncEvent.entry listed ci).EntryBelow lpath) : Inside lpath ci.lpath := by
  cases listed with
  | true => exact Extends.inside hlpath h
  | false =>
    obtain ⟨dir, hdir, hloc⟩ := h
    refine Inside.congr ?_ hloc
    obtain rfl | hdir := hdir
    · exact .of_location rfl
    · exact hdir.inside hlpath

/-- The entries that were added to the list are inside the directory that was listed. -/
theorem entries_inside {lpath : Bytes} (hlpath : lpath ≠ []) {t : List SyncEvent}
    (h : ∀ e ∈ t, e.EntryBelow lpath) : ∀ ci ∈ entries t, Inside lpath ci.lpath := by
  intro ci hci
  obtain ⟨e, he, hmem⟩ := List.mem_flatMap.mp hci
  cases e with
  | entry listed ci' =>
    obtain rfl := List.mem_singleton.mp hmem
    exact SyncEvent.EntryBelow.inside hlpath (h _ he)
  | _ => cases hmem

/-- The events of a walk work on no file. -/
theorem SyncEvent.EntryBelow.worksIn {P : Bytes → Prop} {lpath : Bytes} {e : SyncEvent}
    (h : e.EntryBelow lpath) : e.WorksIn P := by
  cases e with
  | localOp op path =>
    obtain h | ⟨d, b, h⟩ := h
    · exact absurd h Bool.false_ne_true
    · cases h
  | _ => exact trivial

/-- Copying a directory works on nothing outside the destination. -/
theorem copyRemoteDirLocal_inside (env : SyncEnv) (rpath lpath : Bytes) (copyAttrs : Bool)
    (compression : CompressionType) : Prog.Obeys (WorksIn (Inside (withSeparator lpath)))
      (copyRemoteDirLocal env rpath lpath copyAttrs compression) := by
  intro c
  have hnone : ∀ {t : List SyncEvent}, (∀ e ∈ t, e.NoEntry) →
      WorksIn (Inside (withSeparator lpath)) c t c := fun ht e he => ((ht e he).below lpath).worksIn
  refine (ensureTrailingSeparators_runs lpath rpath c).bind fun ⟨l, r⟩ c₁ t₁ ⟨hp, hc₁, ht₁⟩ => ?_
  obtain ⟨rfl, rfl⟩ := Prod.mk.inj hp
  refine .emit_bind (.emit_bind ((remoteBuildList_runs env [] _ _ c₁).bind
    fun ⟨ok, fileList⟩ c₂ t₂ ⟨hlist, ht₂⟩ => ?_))
  have hwalk : WorksIn (Inside (withSeparator lpath)) c t₂ c := fun e he => (ht₂ e he).worksIn
  -- What is pulled is what the walk has listed.
  have hentries : ∀ ci ∈ fileList, Inside (withSeparator lpath) ci.lpath := by
    have hlist : fileList = entries t₂ := hlist
    rw [hlist]
    exact entries_inside (withSeparator_ne_nil lpath) ht₂
  have hrest : Prog.Obeys (WorksIn (Inside (withSeparator lpath))) (do
      if !ok then return false
      else Prog.allM (pullEntry env copyAttrs compression) fileList : SyncM Bool) := by
    refine .ite (fun _ => worksIn_pure _) fun _ => .allM worksIn_composes fun ci hci => ?_
    have hinside := hentries ci hci
    refine .ite (fun _ => worksIn_pure _) fun _ => .ite (fun _ => ?_) fun _ => ?_
    · refine worksIn_bind (worksIn_localCall env _ hinside) fun ok => .ite (fun _ => worksIn_pure _)
        fun _ => worksIn_bind (worksIn_strerrno env) fun _ =>
          worksIn_bind (worksIn_captureError _) fun _ => worksIn_pure _
    · exact worksIn_bind (worksIn_syncRecv env hinside _ _) fun ok => .ite
        (fun _ => .ite (fun _ => worksIn_setTimeAndMode env hinside _ _) fun _ => worksIn_pure _)
        fun _ => worksIn_pure _
  refine (hrest c₂).mono fun _ c₃ t₃ ht₃ e he => ?_
  simp only [List.mem_append, List.mem_cons] at he
  obtain he | rfl | rfl | he | he := he
  · exact hnone ht₁ e he
  · exact trivial
  · exact trivial
  · exact hwalk e he
  · exact ht₃ e he

/-- Where `do_sync_pull` puts a source: at the destination, or at its name in the destination. -/
def PullTarget (dst src target : Bytes) : Prop :=
  target = dst ∨ target = withSeparator dst ∨ target = withSeparator dst ++ basename src

/-- A source is put at its target, or below it. -/
def PulledInside (dst src path : Bytes) : Prop := ∃ target, PullTarget dst src target ∧
    Inside target path

/-- The name of a source in the destination. -/
theorem location_name (dst name : Bytes) :
    location (dst ++ [slash] ++ name) = location (withSeparator dst ++ name) := by
  have hne : dst ++ [slash] ≠ [] := by simp
  have hhead : (dst ++ [slash]).head? = (withSeparator dst).head? := by
    unfold withSeparator
    split
    · rename_i h
      exact List.head?_append_of_ne_nil dst fun hnil => by simp [hnil] at h
    · rfl
  rw [location, location, List.head?_append_of_ne_nil _ hne,
    List.head?_append_of_ne_nil _ (withSeparator_ne_nil dst), hhead, components_below,
    List.append_assoc, List.singleton_append, components_append_slash]

/-- A source is pulled to nothing outside its target. -/
theorem pullSource_inside (env : SyncEnv) (dst : Bytes) (dstStat : Option Stat) (copyAttrs : Bool)
    (compression : CompressionType) (src : Bytes) : Prog.Obeys (WorksIn (PulledInside dst src))
      (pullSource env dst dstStat copyAttrs compression src) := by
  have hmap : ∀ {p : SyncM Bool}, Prog.Obeys (WorksIn (PulledInside dst src)) p →
      Prog.Obeys (WorksIn (PulledInside dst src)) (some <$> p) := fun hp =>
    worksIn_bind hp fun _ => worksIn_pure _
  have hline : ∀ text, Prog.Obeys (WorksIn (PulledInside dst src)) (captureErrorLine text) :=
    fun text => worksIn_bind (worksIn_emit trivial) fun _ => worksIn_error text
  -- A directory is copied inside its target, with a separator after it or not.
  have hdir : ∀ {target}, PullTarget dst src (withSeparator target) ∨
      (target ≠ [] ∧ PullTarget dst src target) → Prog.Obeys (WorksIn (PulledInside dst src))
      (copyRemoteDirLocal env src target copyAttrs compression) := by
    intro target htarget
    refine (copyRemoteDirLocal_inside env src target copyAttrs compression).mono
      fun c t c' h e he => (h e he).imp fun path hinside => ?_
    obtain htarget | ⟨hne, htarget⟩ := htarget
    · exact ⟨_, htarget, hinside⟩
    · exact ⟨target, htarget, hinside.of_dir (location_withSeparator hne).symm⟩
  refine worksIn_bind (worksIn_of_replies (replies_syncStatFallback env src)) fun r => ?_
  cases r with
  | none =>
    refine worksIn_bind (.get worksIn_composes) fun c => .ite (fun _ => ?_) fun _ => ?_
    · exact worksIn_bind (hline _) fun _ => worksIn_pure _
    · exact worksIn_bind (worksIn_strerrno env) fun _ => worksIn_bind (hline _) fun _ =>
        worksIn_pure _
  | some st =>
    refine .ite (fun _ => .ite (fun _ => .ite (fun _ => ?_) fun _ => ?_) fun _ => ?_) fun _ => ?_
    · exact worksIn_bind (hline _) fun _ => worksIn_pure _
    · exact worksIn_bind (worksIn_emit trivial) fun _ =>
        hmap (hdir (.inr ⟨by simp [withSeparator_ne_nil], .inr (.inr rfl)⟩))
    · exact hmap (hdir (.inl (.inr (.inl rfl))))
    refine .ite (fun _ => ?_) fun _ => ?_
    · exact worksIn_bind (worksIn_emit trivial) fun _ => worksIn_pure _
    · have hfile : PulledInside dst src
          (if dstStat.any fun st => isDir st.mode then dst ++ [slash] ++ basename src else dst) := by
        split
        · exact ⟨_, .inr (.inr rfl), .of_location (location_name dst _)⟩
        · exact ⟨dst, .inl rfl, .of_location rfl⟩
      refine worksIn_bind (worksIn_syncRecv env hfile src compression) fun ok => .ite
        (fun _ => .ite (fun _ => ?_) fun _ => worksIn_pure _) fun _ => worksIn_pure _
      exact hmap (worksIn_setTimeAndMode env hfile _ _)

/-- A pull works on what its sources work on. -/
theorem worksIn_doSyncPull {P : Bytes → Prop} (env : SyncEnv) {srcs : List Bytes} {dst : Bytes}
    {copyAttrs : Bool} {compression : CompressionType} (hsource : ∀ dstStat, ∀ src ∈ srcs,
      Prog.Obeys (WorksIn P) (pullSource env dst dstStat copyAttrs compression src)) :
    Prog.Obeys (WorksIn P) (doSyncPull env srcs dst copyAttrs compression) := by
  have hfail : ∀ {α : Type} (text : Bytes) (a : α), Prog.Obeys (WorksIn P) (do
      captureError (text ++ (← strerrno env))
      return a : SyncM α) := fun text a =>
    worksIn_bind (worksIn_strerrno env) fun _ => worksIn_bind (worksIn_captureError _) fun _ =>
      worksIn_pure a
  have hstat : Prog.Obeys (WorksIn P) (localStat env) := by
    refine worksIn_bind worksIn_nextCall fun k => ?_
    cases env.localStat k with
    | error e => exact worksIn_bind (worksIn_modify _) fun _ => worksIn_pure _
    | ok st => exact worksIn_pure _
  have hdestination : Prog.Obeys (WorksIn P) (statDestination env srcs.length dst) := by
    refine worksIn_bind hstat fun r => ?_
    cases r with
    | some st => exact worksIn_pure _
    | none =>
      refine worksIn_bind (.get worksIn_composes) fun c => .ite (fun _ => ?_) fun _ => hfail _ _
      refine worksIn_bind hstat fun r => ?_
      cases r with
      | some st => exact worksIn_pure _
      | none => exact hfail _ _
  have hcheck : ∀ dstExists, Prog.Obeys (WorksIn P)
      (checkDestination srcs.length dst dstExists) := fun dstExists =>
    .ite (fun _ => worksIn_bind (worksIn_captureError _) fun _ => worksIn_pure _) fun _ =>
      worksIn_bind (worksIn_emit trivial) fun _ => .ite
        (fun _ => worksIn_bind (worksIn_captureError _) fun _ => worksIn_pure _) fun _ =>
          worksIn_pure _
  -- What comes before the sources touches no file.
  have hsources : ∀ dstStat success, Prog.Obeys (WorksIn P)
      (pullSources env dst dstStat copyAttrs compression success srcs) := by
    intro dstStat
    clear hdestination hcheck
    induction srcs with
    | nil => exact fun success => worksIn_pure success
    | cons src srcs ih =>
      intro success
      refine worksIn_bind (hsource dstStat src List.mem_cons_self) fun r => ?_
      cases r with
      | none => exact worksIn_pure false
      | some ok =>
        exact ih (fun dstStat src' hmem => hsource dstStat src' (List.mem_cons_of_mem src hmem)) _
  refine worksIn_bind hdestination fun r => ?_
  cases r with
  | none => exact worksIn_pure _
  | some dstStat =>
    exact .ite (fun _ => hsources _ _) fun _ => worksIn_bind (hcheck _) fun ok => .ite
      (fun _ => hsources _ _) fun _ => worksIn_pure _

/-- `do_sync_pull` returns, and it works on nothing outside the targets of its sources. -/
theorem doSyncPull_inside (env : SyncEnv) (srcs : List Bytes) (dst : Bytes) (copyAttrs : Bool)
    (compression : CompressionType) :
    Prog.Obeys (WorksIn fun path => ∃ src ∈ srcs, PulledInside dst src path)
      (doSyncPull env srcs dst copyAttrs compression) :=
  worksIn_doSyncPull env fun dstStat src hsrc =>
    (pullSource_inside env dst dstStat copyAttrs compression src).mono fun _ _ _ h e he =>
      (h e he).imp fun _ hpath => ⟨src, hsrc, hpath⟩

/-- A pulled tree stays inside its destination. Whatever the device sends, `remote_build_list`
returns with its entries added to the list: those for listed names extend the destination, and the
others lead to directories that are listed. And whatever the device answers to a pull, the local
files that it works on are inside the targets of its sources. -/
theorem pulled_tree_inside (env : SyncEnv) (c : SyncConnection) :
    (∀ (fileList : List CopyInfo) (rpath lpath : Bytes),
      Prog.Runs (remoteBuildList env fileList rpath lpath) c fun r _ t =>
        r.2 = fileList ++ entries t ∧ ∀ e ∈ t, e.EntryBelow lpath) ∧
    ∀ (srcs : List Bytes) (dst : Bytes) (copyAttrs : Bool) (compression : CompressionType)
      (op : LocalOp) (path : Bytes),
      .localOp op path ∈ (doSyncPull env srcs dst copyAttrs compression c).trace →
        ∃ src ∈ srcs, ∃ target, PullTarget dst src target ∧ Inside target path := by
  refine ⟨fun fileList rpath lpath => remoteBuildList_runs env fileList rpath lpath c,
    fun srcs dst copyAttrs compression op path hmem => ?_⟩
  exact (doSyncPull_inside env srcs dst copyAttrs compression).keeps c _ hmem

/-- A client without features, for which every local path is a directory. -/
def directoryEnv : SyncEnv := { SyncEnv.calm [] with localStat := fun _ => .ok ⟨sIfdir, 0, 0⟩ }

/-- A device with a directory and a file `a` of three bytes in it. -/
def deviceWithFile : SyncConnection :=
  .new (wordBytes SyncId.lstatV1.word ++ wordBytes sIfdir ++ wordBytes 0 ++ wordBytes 1 ++
      (wordBytes SyncId.dentV1.word ++ wordBytes sIfreg ++ wordBytes 3 ++ wordBytes 1 ++
        wordBytes 1 ++ lit "a") ++
      (wordBytes SyncId.done.word ++ wordBytes 0 ++ wordBytes 0 ++ wordBytes 0 ++ wordBytes 0) ++
      (wordBytes SyncId.data.word ++ wordBytes 3 ++ [1, 2, 3]) ++
      (wordBytes SyncId.done.word ++ wordBytes 0)) [] fun _ => none

/-- The file is created below the destination. -/
theorem pulled_file_inside :
    .localOp .creat (lit "d/s/a") ∈
        (doSyncPull directoryEnv [lit "/s"] (lit "d") false .none deviceWithFile).trace ∧
      ∃ src ∈ [lit "/s"], ∃ target, PullTarget (lit "d") src target ∧
        Inside target (lit "d/s/a") :=
  ⟨by decide +kernel, (pulled_tree_inside directoryEnv deviceWithFile).2 [lit "/s"] (lit "d") false
    .none .creat (lit "d/s/a") (by decide +kernel)⟩

end AdbMobile.Sync
