import AdbMobile.Client.Sync.DeviceStream
import AdbMobile.Client.Sync.RemoteTree

/-!
# The attributes of pulled files

With `-a`, `copy_remote_dir_local` gives each file that it has copied the time and the mode of its
item on the list. The callback of `remote_build_list` stores these for a plain file. For a link it
stores the mode of the link and no time, and the status that `sync_stat_fallback` returns for the
link is not stored at all, though `do_sync_pull` uses it for a source that is a link itself.

So a file that is found through a link gets the time 0 and the permissions of the link, and each
pulled file has the attributes of the file that was read exactly if these happen to be the same
(`attributes_kept_iff`). Which file is read for a path is what the device resolves it to; its status
is given for the names of each file in the tree.
-/

namespace AdbMobile.Sync

open ByteString PosixPath DepthFirst

namespace RemoteTree

/-- A file that a pull copies: its names from the top of the tree on, and its entry in the listing
of its directory, which may be that of a link to it. -/
structure PulledFile where
  names : List Bytes
  linked : Bool
  dent : Dent
  deriving DecidableEq, Repr

/-- The file in a tree that is below a name. -/
def PulledFile.under (name : Bytes) (f : PulledFile) : PulledFile :=
  { f with names := name :: f.names }

/-- The files that a pull of a tree copies. -/
def pulledFiles : RemoteTree → List PulledFile
  | nil => []
  | file d rest =>
    if shouldPullFile d.mode then ⟨[d.name], false, d⟩ :: rest.pulledFiles else rest.pulledFiles
  | directory d below rest | directoryLink d _ below rest =>
    below.pulledFiles.map (.under d.name) ++ rest.pulledFiles
  | link d target rest =>
    if target.isSome then ⟨[d.name], true, d⟩ :: rest.pulledFiles else rest.pulledFiles

/-- The device lists a file that is not a link with its own mode and time. -/
def Tells (status : List Bytes → Stat) (tree : RemoteTree) : Prop :=
  ∀ f ∈ tree.pulledFiles, f.linked = false →
    (status f.names).mtime = signedLong f.dent.time ∧ (status f.names).mode = f.dent.mode

end RemoteTree

/-! ## The items for pulled files -/

namespace Device

variable {D : Device} {rpath lpath : Bytes}

/-- An item of the list that has a file copied: where its paths lead, and the time and the mode that
it has. -/
structure Records (rpath lpath : Bytes) (f : RemoteTree.PulledFile) (ci : CopyInfo) : Prop where
  skip : ci.skip = false
  notDir : isDir ci.mode = false
  rpath : location ci.rpath = ((location rpath).1, (location rpath).2 ++ f.names)
  lpath : location ci.lpath = ((location lpath).1, (location lpath).2 ++ f.names)
  time : ci.time = if f.linked then 0 else signedLong f.dent.time
  mode : ci.mode = f.dent.mode

/-- How a pulled file is found in a directory: as an entry of it, through a link in it, or below one
of its subdirectories. -/
inductive FoundIn (D : Device) (rpath : Bytes) (tree : RemoteTree) : RemoteTree.PulledFile → Prop
  | entry {d : Dent} (mem : d ∈ tree.dents) (notDir : isDir d.mode = false)
      (notLnk : isLnk d.mode = false) (pulls : shouldPullFile d.mode = true) :
      FoundIn D rpath tree ⟨[d.name], false, d⟩
  | linked {d : Dent} (mem : d ∈ tree.dents) (notDir : isDir d.mode = false)
      (lnk : isLnk d.mode = true)
      (leads : (D.target rpath d).any (fun st => !isDir st.mode) = true) :
      FoundIn D rpath tree ⟨[d.name], true, d⟩
  | below {links : Bool} {d : Dent} {below : RemoteTree} {g : RemoteTree.PulledFile}
      (mem : (d, below) ∈ tree.subtrees links) (pulled : g ∈ below.pulledFiles) :
      FoundIn D rpath tree (g.under d.name)

/-- A directory with more entries has what it had. -/
theorem FoundIn.mono {rest tree : RemoteTree} {f : RemoteTree.PulledFile}
    (hdents : ∀ d ∈ rest.dents, d ∈ tree.dents)
    (hsubtrees : ∀ links, ∀ p ∈ rest.subtrees links, p ∈ tree.subtrees links)
    (h : FoundIn D rpath rest f) : FoundIn D rpath tree f := by
  cases h with
  | entry mem notDir notLnk pulls => exact .entry (hdents _ mem) notDir notLnk pulls
  | linked mem notDir lnk leads => exact .linked (hdents _ mem) notDir lnk leads
  | below mem pulled => exact .below (hsubtrees _ _ mem) pulled

/-- A pulled file is found. -/
theorem foundIn_of_pulled {tree : RemoteTree} {f : RemoteTree.PulledFile} (hvalid : tree.Valid)
    (hserves : D.ServesBelow rpath tree) (hf : f ∈ tree.pulledFiles) : FoundIn D rpath tree f := by
  induction tree with
  | nil => cases hf
  | file d rest ih =>
    obtain ⟨-, hdir, hlnk, -, hrest⟩ := hvalid
    have hmore : f ∈ rest.pulledFiles → FoundIn D rpath (.file d rest) f := fun hf =>
      (ih hrest hserves hf).mono (fun _ => List.mem_cons_of_mem d) fun _ _ => id
    rw [RemoteTree.pulledFiles] at hf
    split at hf
    · obtain rfl | hf := List.mem_cons.mp hf
      · exact .entry List.mem_cons_self hdir hlnk ‹_›
      · exact hmore hf
    · exact hmore hf
  | directory d below rest _ ih =>
    obtain ⟨-, -, -, -, hrest⟩ := hvalid
    obtain hf | hf := List.mem_append.mp hf
    · -- What is below is found by the walk of the directory itself.
      obtain ⟨g, hg, rfl⟩ := List.mem_map.mp hf
      exact @FoundIn.below D rpath _ false _ _ _ List.mem_cons_self hg
    · refine (ih hrest hserves.2.2 hf).mono (fun _ => List.mem_cons_of_mem d) fun links p hp => ?_
      rw [RemoteTree.subtrees]
      split
      · exact hp
      · exact List.mem_cons_of_mem _ hp
  | link d target rest ih =>
    obtain ⟨-, hdir, hlnk, htarget, -, hrest⟩ := hvalid
    have hmore : f ∈ rest.pulledFiles → FoundIn D rpath (.link d target rest) f := fun hf =>
      (ih hrest hserves.2 hf).mono (fun _ => List.mem_cons_of_mem d) fun _ _ => id
    rw [RemoteTree.pulledFiles] at hf
    split at hf
    · obtain rfl | hf := List.mem_cons.mp hf
      · -- The device answers for the link with what it leads to, which is no directory here.
        obtain ⟨st, rfl⟩ := Option.isSome_iff_exists.mp ‹_›
        have hleads : (D.target rpath d).any (fun st => !isDir st.mode) = true := by
          simp [hserves.1, htarget st rfl]
        exact .linked List.mem_cons_self hdir hlnk hleads
      · exact hmore hf
    · exact hmore hf
  | directoryLink d target below rest _ ih =>
    obtain ⟨-, -, -, -, -, -, hrest⟩ := hvalid
    obtain hf | hf := List.mem_append.mp hf
    · obtain ⟨g, hg, rfl⟩ := List.mem_map.mp hf
      exact @FoundIn.below D rpath _ true _ _ _ List.mem_cons_self hg
    · refine (ih hrest hserves.2.2.2 hf).mono (fun _ => List.mem_cons_of_mem d) fun links p hp => ?_
      rw [RemoteTree.subtrees]
      split
      · exact List.mem_cons_of_mem _ hp
      · exact hp

/-- The paths of the item for an entry that is no directory. -/
theorem records_paths {d : Dent} (hrpath : rpath ≠ []) (hlpath : lpath ≠ [])
    (hgood : RemoteTree.GoodName d.name) :
    location (entryInfo rpath lpath d).rpath = ((location rpath).1, (location rpath).2 ++ [d.name]) ∧
      location (entryInfo rpath lpath d).lpath =
        ((location lpath).1, (location lpath).2 ++ [d.name]) := by
  rw [entryInfo_rpath, entryInfo_lpath]
  exact ⟨location_subPath hrpath hgood, location_subPath hlpath hgood⟩

/-- The time of a new item is zero, until the callback stores one. -/
theorem entryInfo_time (rpath lpath : Bytes) (d : Dent) : (entryInfo rpath lpath d).time = 0 := by
  unfold entryInfo CopyInfo.new
  dsimp only
  split <;> rfl

/-- A walk that succeeds has put an item on the list for each pulled file. -/
theorem walk_records {n : ℕ} : ∀ {rpath lpath : Bytes} {tree : RemoteTree} {found : List CopyInfo},
    rpath ≠ [] → lpath ≠ [] → tree.Valid → D.Serves rpath tree →
    walk D.expand n (rpath, lpath) = some (true, found) →
    ∀ f ∈ tree.pulledFiles, ∃ ci ∈ found, Records rpath lpath f ci := by
  induction n with
  | zero => exact fun _ _ _ _ h => nomatch h
  | succ n ih =>
    intro rpath lpath tree found hrpath hlpath hvalid hserves h f hf
    have hok : (D.accepted rpath).1 = true := by
      by_contra hfails
      rw [walk] at h
      simp only [expand, subdirectories, hfails] at h
      cases h
    have hds := accepted_of_lists hserves.1 hvalid hok
    rw [walk, expand_of_tree hvalid hserves hok] at h
    obtain ⟨⟨ok, under⟩, hunder, heq⟩ := Option.map_eq_some_iff.mp h
    cases heq
    -- An entry of the tree is one that `FinishLs` has let through.
    have haccepted : ∀ d ∈ tree.dents, d ∈ (D.accepted rpath).2 ∧ isDotOrDotDot d.name = false ∧
        RemoteTree.GoodName d.name := by
      intro d hd
      have hgood := tree.good_of_mem_dents hvalid d hd
      rw [← hds] at hd
      obtain ⟨hmem, hdot⟩ := List.mem_filter.mp hd
      exact ⟨hmem, by simpa using hdot, hgood⟩
    cases foundIn_of_pulled hvalid hserves.2 hf with
    | @entry d hd hdir hlnk hpull =>
      obtain ⟨hmem, hdot, hgood⟩ := haccepted d hd
      have hplain : d ∈ plainFiles (D.accepted rpath).2 :=
        List.mem_filter.mpr ⟨hmem, by simp [hdot, hdir, hlnk]⟩
      obtain ⟨hr, hl⟩ := records_paths hrpath hlpath hgood
      have hmode := (entryInfo_mode rpath lpath d).1
      refine ⟨fileInfo rpath lpath d, ?_, ?_⟩
      · have hitem := List.mem_map_of_mem (f := fileInfo rpath lpath) hplain
        exact List.mem_append_left _ (List.mem_cons_of_mem _ (List.mem_append_left _ hitem))
      · rw [fileInfo_eq]
        exact ⟨by simp [hpull], by rw [hmode, hdir], hr, hl, by simp, hmode⟩
    | @linked d hd hdir hlnk hleads =>
      obtain ⟨hmem, hdot, hgood⟩ := haccepted d hd
      have hlink : d ∈ D.fileLinks rpath (D.accepted rpath).2 :=
        List.mem_filter.mpr ⟨List.mem_filter.mpr ⟨hmem, by simp [hdot, hdir, hlnk]⟩, hleads⟩
      obtain ⟨hr, hl⟩ := records_paths hrpath hlpath hgood
      obtain ⟨hmode, hskip⟩ := entryInfo_mode rpath lpath d
      refine ⟨entryInfo rpath lpath d, ?_, ?_⟩
      · have hitem := List.mem_map_of_mem (f := entryInfo rpath lpath) hlink
        exact List.mem_append_left _ (List.mem_cons_of_mem _ (List.mem_append_right _ hitem))
      · exact ⟨hskip, by rw [hmode, hdir], hr, hl, entryInfo_time rpath lpath d, hmode⟩
    | @below links d below g hmem hg =>
      -- The walk of the subdirectory has the item.
      have hsub : (d, below) ∈ (tree.subtrees false ++ tree.subtrees true).reverse := by
        rw [List.mem_reverse, List.mem_append]
        cases links
        · exact .inl hmem
        · exact .inr hmem
      have hchild := List.mem_map_of_mem
        (f := fun s : Dent × RemoteTree => (subPath rpath s.1, subPath lpath s.1)) hsub
      obtain ⟨foundBelow, hwalk⟩ := walkAll_true hunder _ hchild
      obtain ⟨hgood, hvalid', hserves'⟩ := serves_of_mem_subtrees hvalid hserves.2 hmem
      obtain ⟨ci, hci, hrecords⟩ :=
        ih (subPath_ne_nil rpath d) (subPath_ne_nil lpath d) hvalid' hserves' hwalk g hg
      have hin : ci ∈ under := by
        rw [walkAll_found hunder]
        refine List.mem_flatMap.mpr ⟨_, hchild, ?_⟩
        rw [hwalk]
        exact hci
      refine ⟨ci, List.mem_append_right _ hin, { hrecords with rpath := ?_, lpath := ?_ }⟩
      · rw [hrecords.rpath, location_subPath hrpath hgood, List.append_assoc]
        rfl
      · rw [hrecords.lpath, location_subPath hlpath hgood, List.append_assoc]
        rfl

end Device

/-! ## What a pull does to a file -/

/-- What is done to the local file at a place. -/
def SyncEvent.opAt (place : Bool × List Bytes) : SyncEvent → Option LocalOp
  | .localOp op path => if location path = place then some op else none
  | _ => none

/-- What is done to the local file at a place, in order. -/
def opsAt (place : Bool × List Bytes) (t : List SyncEvent) : List LocalOp :=
  t.filterMap (SyncEvent.opAt place)

/-- A request with this path was written. -/
def Requested (rpath : Bytes) (t : List SyncEvent) : Prop :=
  ∃ id ms, .wrote (.request id rpath :: ms) ∈ t

@[simp] theorem opsAt_append (place : Bool × List Bytes) (t t' : List SyncEvent) :
    opsAt place (t ++ t') = opsAt place t ++ opsAt place t' := List.filterMap_append ..

/-- What works on other files does nothing to this one. -/
theorem opsAt_eq_nil {P : Bytes → Prop} {place : Bool × List Bytes} {t : List SyncEvent}
    (ht : ∀ e ∈ t, e.WorksIn P) (hP : ∀ path, P path → location path ≠ place) :
    opsAt place t = [] := by
  refine List.filterMap_eq_nil_iff.mpr fun e he => ?_
  have hworks := ht e he
  cases e with
  | localOp op path => exact if_neg (hP path hworks)
  | _ => rfl

theorem Requested.append_left {rpath : Bytes} {t : List SyncEvent} (h : Requested rpath t)
    (t' : List SyncEvent) : Requested rpath (t ++ t') := by
  obtain ⟨id, ms, hmem⟩ := h
  exact ⟨id, ms, List.mem_append_left t' hmem⟩

theorem Requested.append_right {rpath : Bytes} {t : List SyncEvent} (h : Requested rpath t)
    (t' : List SyncEvent) : Requested rpath (t' ++ t) := by
  obtain ⟨id, ms, hmem⟩ := h
  exact ⟨id, ms, List.mem_append_right t' hmem⟩

section Runs

variable (env : SyncEnv)

/-- A file that was received was asked for. -/
theorem syncRecv_requested (rpath lpath : Bytes) (compression : CompressionType)
    (c : SyncConnection) :
    Prog.Ensures (syncRecv env rpath lpath compression) c fun ok _ t =>
      ok = true → Requested rpath t := by
  -- A request that is sent is on the trace, and without it the receiver fails.
  have hsend : ∀ (id : SyncId) (ms : List SyncMessage) (c : SyncConnection),
      Prog.Ensures (writeFdExactly env (.request id rpath :: ms)) c fun ok _ t =>
        ok = true → Requested rpath t := by
    intro id ms c
    refine (writeFdExactly_runs env _ c).ensures.mono fun ok c' t h hok => ?_
    obtain ⟨rfl, -⟩ := h
    rw [if_pos hok]
    exact ⟨id, ms, List.mem_singleton.mpr rfl⟩
  have hbind : ∀ {request : SyncM Bool} {rest : SyncM Bool},
      Prog.Ensures request c (fun ok _ t => ok = true → Requested rpath t) →
      Prog.Ensures (request >>= fun ok => if ok = true then rest else pure false) c
        fun ok _ t => ok = true → Requested rpath t := by
    intro request rest hrequest
    refine hrequest.bind fun ok c' t hok => ?_
    cases ok with
    | false => exact .pure fun h => absurd h Bool.false_ne_true
    | true => exact (Prog.Ensures.trivial rest c').mono fun _ _ t' _ _ => (hok rfl).append_left t'
  unfold syncRecv
  refine .ite (fun _ => hbind ?_) fun _ => hbind ?_
  · unfold sendRecv2
    refine .ite (fun _ => ?_) fun _ => ?_
    · exact (Prog.Ensures.trivial _ c).bind fun _ c' t _ =>
        (Prog.Ensures.trivial _ c').bind fun _ c'' t' _ =>
          .pure fun h => absurd h Bool.false_ne_true
    · refine .ite (fun _ => ?_) fun _ => hsend _ _ c
      refine (Prog.Ensures.trivial _ c).bind fun _ c' t _ => ?_
      exact (hsend _ _ c').mono fun ok _ t' h hok => (h hok).append_right t
  · unfold sendRequest
    refine .ite (fun _ => ?_) fun _ => hsend _ _ c
    exact (Prog.Ensures.trivial _ c).bind fun _ c' t _ =>
      (Prog.Ensures.trivial _ c').bind fun _ c'' t' _ =>
        .pure fun h => absurd h Bool.false_ne_true

/-- A pull works on nothing for an item but the item's own local file. -/
theorem pullEntry_worksIn (copyAttrs : Bool) (compression : CompressionType) (ci : CopyInfo) :
    Prog.Obeys (WorksIn (· = ci.lpath)) (pullEntry env copyAttrs compression ci) := by
  have hself : (· = ci.lpath) ci.lpath := rfl
  refine .ite (fun _ => worksIn_pure _) fun _ => .ite (fun _ => ?_) fun _ => ?_
  · refine worksIn_bind (worksIn_localCall env _ hself) fun ok => .ite (fun _ => worksIn_pure _)
      fun _ => worksIn_bind (worksIn_strerrno env) fun _ =>
        worksIn_bind (worksIn_captureError _) fun _ => worksIn_pure _
  · refine worksIn_bind (worksIn_syncRecv (P := (· = ci.lpath)) env hself _ _) fun ok =>
      .ite (fun _ => ?_)
      fun _ => worksIn_pure _
    exact .ite (fun _ => worksIn_setTimeAndMode (P := (· = ci.lpath)) env hself _ _) fun _ =>
      worksIn_pure _

/-- `set_time_and_mode` makes both calls, whether or not they succeed. -/
theorem setTimeAndMode_ops (lpath : Bytes) (time : ℤ) (mode : UInt32) (c : SyncConnection) :
    Prog.Ensures (setTimeAndMode env lpath time mode) c fun _ _ t =>
      opsAt (location lpath) t = [.utime time, .chmod (mode &&& ~~~env.umask)] := by
  have hcall : ∀ (op : LocalOp) (c : SyncConnection),
      Prog.Ensures (localCall env op lpath) c fun _ _ t => opsAt (location lpath) t = [op] := by
    intro op c
    have hop : SyncEvent.opAt (location lpath) (.localOp op lpath) = some op := if_pos rfl
    have hrun : (localCall env op lpath c).trace = [.localOp op lpath] := by
      unfold localCall nextCall setErrno
      simp only [Prog.bind_bind_apply, Prog.bind_get_apply, Prog.bind_modify_apply,
        Prog.bind_pure_apply, Prog.bind_emit_apply]
      cases env.localError c.calls <;> rfl
    intro ok _
    rw [hrun, opsAt, List.filterMap_cons_some hop, List.filterMap_nil]
  refine (hcall _ c).bind fun r1 c' t h => (hcall _ c').bind fun r2 c'' t' h' => .pure ?_
  rw [opsAt_append, opsAt_append, h, h']
  rfl

/-- A file that was pulled was asked for, and the last things done to it set the time and the mode
of its item. -/
theorem pullEntry_attributes (compression : CompressionType) {ci : CopyInfo}
    (hskip : ci.skip = false) (hdir : isDir ci.mode = false) (c : SyncConnection) :
    Prog.Ensures (pullEntry env true compression ci) c fun ok _ t => ok = true →
      Requested ci.rpath t ∧
        [.utime ci.time, .chmod (ci.mode &&& ~~~env.umask)] <:+ opsAt (location ci.lpath) t := by
  unfold pullEntry
  rw [hskip, hdir]
  refine (syncRecv_requested env ci.rpath ci.lpath compression c).bind fun ok c' t hrecv => ?_
  cases ok with
  | false => exact .pure fun h => absurd h Bool.false_ne_true
  | true =>
    refine (setTimeAndMode_ops env ci.lpath ci.time ci.mode c').mono fun ok _ t' hops _ => ?_
    refine ⟨(hrecv rfl).append_left t', ?_⟩
    rw [opsAt_append, hops]
    exact List.suffix_append _ _

/-- Where all items are pulled, and lead to different places, this holds of each of them. -/
theorem pullAll_attributes (compression : CompressionType) : ∀ (fileList : List CopyInfo)
    (c : SyncConnection), (fileList.map fun ci => location ci.lpath).Nodup →
    Prog.Ensures (Prog.allM (pullEntry env true compression) fileList) c fun ok _ t =>
      (∀ e ∈ t, e.WorksIn fun path => ∃ ci ∈ fileList, path = ci.lpath) ∧
      (ok = true → ∀ ci ∈ fileList, ci.skip = false → isDir ci.mode = false →
        Requested ci.rpath t ∧
          [.utime ci.time, .chmod (ci.mode &&& ~~~env.umask)] <:+ opsAt (location ci.lpath) t) := by
  intro fileList
  induction fileList with
  | nil => exact fun c _ => .pure ⟨fun e he => absurd he List.not_mem_nil,
      fun _ ci hci => absurd hci List.not_mem_nil⟩
  | cons ci fileList ih =>
    intro c hnodup
    obtain ⟨hnew, hnodup⟩ := List.nodup_cons.mp hnodup
    -- What the first item does, and what the others do, is to different files.
    have hfirst : ∀ e ∈ (pullEntry env true compression ci c).trace, e.WorksIn (· = ci.lpath) :=
      (pullEntry_worksIn env true compression ci).keeps c
    have hhead : Prog.Ensures (pullEntry env true compression ci) c fun ok _ t =>
        (∀ e ∈ t, e.WorksIn (· = ci.lpath)) ∧
        (ok = true → ci.skip = false → isDir ci.mode = false → Requested ci.rpath t ∧
          [.utime ci.time, .chmod (ci.mode &&& ~~~env.umask)] <:+
            opsAt (location ci.lpath) t) := by
      intro ok hok
      refine ⟨hfirst, fun htrue hskip hdir => ?_⟩
      exact pullEntry_attributes env compression hskip hdir c ok hok htrue
    have hwiden : ∀ e : SyncEvent, e.WorksIn (· = ci.lpath) →
        e.WorksIn fun path => ∃ ci' ∈ ci :: fileList, path = ci'.lpath :=
      fun e he => he.imp fun path hpath => ⟨ci, List.mem_cons_self, hpath⟩
    refine hhead.bind fun ok c' t ⟨hworks, hattributes⟩ => .ite (fun hok => ?_) fun hok => ?_
    · refine (ih c' hnodup).mono fun ok' _ t' ⟨hworks', hattributes'⟩ => ⟨fun e he => ?_, ?_⟩
      · obtain he | he := List.mem_append.mp he
        · exact hwiden e (hworks e he)
        · exact (hworks' e he).imp fun path ⟨ci', hci', hpath⟩ =>
            ⟨ci', List.mem_cons_of_mem ci hci', hpath⟩
      · intro hok' ci' hci' hskip hdir
        obtain rfl | hci' := List.mem_cons.mp hci'
        · obtain ⟨hrequested, hsuffix⟩ := hattributes hok hskip hdir
          have hnone : opsAt (location ci'.lpath) t' = [] := by
            refine opsAt_eq_nil hworks' ?_
            rintro path ⟨ci'', hci'', rfl⟩ heq
            exact hnew (List.mem_map.mpr ⟨ci'', hci'', heq⟩)
          refine ⟨hrequested.append_left t', ?_⟩
          rwa [opsAt_append, hnone, List.append_nil]
        · obtain ⟨hrequested, hsuffix⟩ := hattributes' hok' ci' hci' hskip hdir
          refine ⟨hrequested.append_right t, hsuffix.trans ?_⟩
          rw [opsAt_append]
          exact List.suffix_append _ _
    · refine .pure ⟨fun e he => ?_, fun h => absurd h Bool.false_ne_true⟩
      rw [List.append_nil] at he
      exact hwiden e (hworks e he)

end Runs

/-! ## The attributes -/

/-- The permission bits of a mode. -/
def permissionBits (mode : UInt32) : UInt32 := mode &&& 0o7777

/-- Each pulled file is asked for, and the last things done to the local file give it the time of
the file that was read, and its permissions without those of the umask. -/
def AttributesKept (env : SyncEnv) (status : List Bytes → Stat) (rpath lpath : Bytes)
    (tree : RemoteTree) (t : List SyncEvent) : Prop :=
  ∀ f ∈ tree.pulledFiles, ∃ request mode,
    location request = ((location rpath).1, (location rpath).2 ++ f.names) ∧
    Requested request t ∧
    [.utime (status f.names).mtime, .chmod mode] <:+
      opsAt ((location lpath).1, (location lpath).2 ++ f.names) t ∧
    permissionBits mode = permissionBits (status f.names).mode &&& ~~~env.umask

/-- The list that is built over the connection is the one for what the device answers, as where the
connection holds the replies of the device (`listedBy_of_replies`). -/
def ListedBy (env : SyncEnv) (D : Device) (rpath lpath : Bytes) (c : SyncConnection) : Prop :=
  Prog.Runs (remoteBuildList env [] rpath lpath) c fun r _ _ =>
    ∃ depth, D.remoteBuildList depth [] rpath lpath = some r

/-- On a connection that works, and on which the device sends its replies, the list is built for
what it answers. -/
theorem listedBy_of_replies {env : SyncEnv} {D : Device} {toWire : Errno → UInt32} {rest : StatRest}
    {n : ℕ} {rpath lpath bytes more : Bytes} {ok : Bool} {c : SyncConnection} (hworks : env.Works)
    (hsends : D.Sends env toWire) (hwalk : walk (D.replies env toWire rest) n rpath = some (ok, bytes))
    (hinput : c.input = bytes ++ more) (hmore : ok = false → more = []) :
    ListedBy env D rpath lpath c :=
  (Device.remoteBuildList_replies hworks hsends hwalk hinput hmore).mono fun _ _ _ h => ⟨n, h.1⟩

/-- Masking the permission bits commutes with taking them. -/
theorem permissionBits_mask (mode umask : UInt32) :
    permissionBits (mode &&& ~~~umask) = permissionBits mode &&& ~~~umask := by
  unfold permissionBits
  rw [UInt32.and_assoc, UInt32.and_comm (~~~umask), ← UInt32.and_assoc]

/-- A pull of a directory that succeeds leaves each file with the time and the mode of its item on
the list. -/
theorem copyRemoteDirLocal_attributes {env : SyncEnv} {D : Device} {rpath lpath : Bytes}
    {tree : RemoteTree} {compression : CompressionType} {c : SyncConnection} (hvalid : tree.Valid)
    (hserves : D.Serves (withSeparator rpath) tree)
    (hlisted : ListedBy env D (withSeparator rpath) (withSeparator lpath) c) :
    Prog.Ensures (copyRemoteDirLocal env rpath lpath true compression) c fun ok _ t => ok = true →
      ∀ f ∈ tree.pulledFiles, ∃ ci : CopyInfo,
        Device.Records (withSeparator rpath) (withSeparator lpath) f ci ∧ Requested ci.rpath t ∧
        [.utime ci.time, .chmod (ci.mode &&& ~~~env.umask)] <:+ opsAt (location ci.lpath) t := by
  have hpaths := (ensureTrailingSeparators_runs lpath rpath c).ensures
  refine hpaths.bind fun ⟨l, r⟩ c₁ t₁ ⟨hp, hc₁, ht₁⟩ => ?_
  obtain ⟨rfl, rfl⟩ := Prod.mk.inj hp
  subst hc₁
  refine .emit_bind (.emit_bind (hlisted.ensures.bind fun ⟨ok, fileList⟩ c₂ t₂ ⟨depth, hlist⟩ => ?_))
  cases ok with
  | false => exact .pure fun h => absurd h Bool.false_ne_true
  | true =>
    -- The list has an item for each pulled file, and no two items are for the same place.
    rw [Device.remoteBuildList_eq_walk, Option.map_eq_some_iff] at hlist
    obtain ⟨⟨ok, found⟩, hwalk, heq⟩ := hlist
    cases heq
    have hnodup := Device.walk_nodup (withSeparator_ne_nil rpath) (withSeparator_ne_nil lpath)
      hvalid hserves hwalk
    have hrecords := Device.walk_records (withSeparator_ne_nil rpath) (withSeparator_ne_nil lpath)
      hvalid hserves hwalk
    refine (pullAll_attributes env compression found c₂ hnodup).mono
      fun ok _ t₃ ⟨_, hattributes⟩ hok f hf => ?_
    obtain ⟨ci, hci, hrec⟩ := hrecords f hf
    obtain ⟨hrequested, hsuffix⟩ := hattributes hok ci hci hrec.skip hrec.notDir
    refine ⟨ci, hrec, ?_, hsuffix.trans ?_⟩
    · exact ((((hrequested.append_right t₂).append_right [_]).append_right [_]).append_right t₁)
    · rw [opsAt_append]
      refine .trans ?_ (List.suffix_append _ _)
      change _ <:+ opsAt _ ([_, _] ++ (t₂ ++ t₃))
      rw [opsAt_append, opsAt_append]
      exact (List.suffix_append _ _).trans (List.suffix_append _ _)

/-- A pull with `-a` that succeeds gives each file the time and the permissions of the file that was
read exactly if each file that is found through a link has the time 0, and has the permissions of
the link but for those of the umask. -/
theorem attributes_kept_iff {env : SyncEnv} {D : Device} {rpath lpath : Bytes} {tree : RemoteTree}
    {status : List Bytes → Stat} {compression : CompressionType} {c : SyncConnection}
    (hvalid : tree.Valid) (hserves : D.Serves (withSeparator rpath) tree)
    (hstatus : tree.Tells status)
    (hlisted : ListedBy env D (withSeparator rpath) (withSeparator lpath) c)
    (hrun : (copyRemoteDirLocal env rpath lpath true compression c).result = .ok true) :
    AttributesKept env status (withSeparator rpath) (withSeparator lpath) tree
        (copyRemoteDirLocal env rpath lpath true compression c).trace ↔
      ∀ f ∈ tree.pulledFiles, f.linked = true → (status f.names).mtime = 0 ∧
        permissionBits (status f.names).mode &&& ~~~env.umask =
          permissionBits f.dent.mode &&& ~~~env.umask := by
  have hitems := copyRemoteDirLocal_attributes hvalid hserves hlisted true hrun rfl
  refine forall₂_congr fun f hf => ?_
  obtain ⟨ci, hrec, hrequested, hsuffix⟩ := hitems f hf
  rw [hrec.lpath] at hsuffix
  have hmode : permissionBits (ci.mode &&& ~~~env.umask) =
      permissionBits f.dent.mode &&& ~~~env.umask := by rw [permissionBits_mask, hrec.mode]
  cases hlinked : f.linked with
  | false =>
    -- The item of a file that is no link has what the device lists, which is the truth.
    obtain ⟨hmtime, hsame⟩ := hstatus f hf hlinked
    have htime := hrec.time
    rw [hlinked] at htime
    have htime : ci.time = (status f.names).mtime := by
      rw [htime, hmtime, if_neg Bool.false_ne_true]
    have hbits : permissionBits (ci.mode &&& ~~~env.umask) =
        permissionBits (status f.names).mode &&& ~~~env.umask := by rw [hmode, hsame]
    rw [htime] at hsuffix
    exact iff_of_true ⟨ci.rpath, _, hrec.rpath, hrequested, hsuffix, hbits⟩
      fun h => absurd h Bool.false_ne_true
  | true =>
    have htime : ci.time = 0 := by rw [hrec.time, hlinked]; rfl
    rw [htime] at hsuffix
    constructor
    · rintro ⟨request, mode, -, -, hsuffix', hbits⟩ -
      -- There is only one last pair of calls.
      have hsame := List.IsSuffix.eq_of_length
        (List.suffix_of_suffix_length_le hsuffix' hsuffix (by simp)) (by simp)
      simp only [List.cons.injEq, LocalOp.utime.injEq, LocalOp.chmod.injEq, and_true] at hsame
      obtain ⟨hmtime, hchmod⟩ := hsame
      exact ⟨hmtime, by rw [← hbits, hchmod, hmode]⟩
    · intro h
      obtain ⟨hmtime, hbits⟩ := h rfl
      rw [← hmtime] at hsuffix
      exact ⟨ci.rpath, _, hrec.rpath, hrequested, hsuffix, by rw [hmode, hbits]⟩

/-- A directory with a link to a file. -/
def linkedFile : RemoteTree := .link ⟨0o120777, 1, 0, lit "l"⟩ (some ⟨0o100600, 1, 7⟩) .nil

/-- A device that has this directory at `/r`. -/
def linkedFileDevice : Device where
  haveStatV2 := true
  listing path := if path = lit "/r/" then (linkedFile.dents, true) else ([], true)
  stat path := if path = lit "/r/l" then .ok ⟨0o100600, 1, 7⟩ else .error (.other 2)
  lstat _ := .error (.other 2)

/-- What it sends while the directory is pulled: the entry and the end of the list, the status of
the link, and the file. -/
def linkedFileConnection : SyncConnection :=
  .new ((wordBytes SyncId.dentV1.word ++ wordBytes 0o120777 ++ wordBytes 1 ++ wordBytes 0 ++
        wordBytes 1 ++ lit "l") ++
      (wordBytes SyncId.done.word ++ wordBytes 0 ++ wordBytes 0 ++ wordBytes 0 ++ wordBytes 0) ++
      (wordBytes SyncId.statV2.word ++ List.replicate 20 0 ++ wordBytes 0o100600 ++
        List.replicate 12 0 ++ (1 :: List.replicate 15 0) ++ (7 :: List.replicate 15 0)) ++
      (wordBytes SyncId.data.word ++ wordBytes 1 ++ [1]) ++
      (wordBytes SyncId.done.word ++ wordBytes 0)) [] fun _ => none

theorem linkedFile_valid : linkedFile.Valid :=
  ⟨by decide, by decide, by decide, fun st h => by cases h; decide, by decide, trivial⟩

theorem linkedFileDevice_serves :
    linkedFileDevice.Serves (withSeparator (lit "/r")) linkedFile :=
  ⟨by decide, by decide, trivial⟩

theorem linkedFile_tells (status : List Bytes → Stat) : linkedFile.Tells status := by
  intro f hf hlinked
  obtain rfl : f = ⟨[lit "l"], true, ⟨0o120777, 1, 0, lit "l"⟩⟩ := List.mem_singleton.mp hf
  cases hlinked

theorem linkedFileDevice_sends : linkedFileDevice.Sends (.calm [lit "stat_v2"]) fun _ => 2 where
  version := by decide +kernel
  fits path d hd := by
    unfold linkedFileDevice at hd
    dsimp only at hd
    split at hd
    · obtain rfl := List.mem_singleton.mp hd
      exact ⟨by decide +kernel, by decide +kernel, by decide⟩
    · exact absurd hd List.not_mem_nil
  errors path e he := by
    unfold linkedFileDevice at he
    dsimp only at he
    split at he
    · cases he
    · obtain rfl := Except.error.inj he
      exact ⟨by decide, by decide, rfl⟩
  modes path st hst := by cases hst

theorem linkedFile_listed : ListedBy (.calm [lit "stat_v2"]) linkedFileDevice
    (withSeparator (lit "/r")) (withSeparator (lit "r")) linkedFileConnection := by
  -- The entry, the end of the list, and the status of the link.
  have hsent : walk (linkedFileDevice.replies (.calm [lit "stat_v2"]) (fun _ => 2)
      ⟨0, 0, 0, 0, 0, 0, 0⟩) 1 (withSeparator (lit "/r")) =
        some (true, linkedFileConnection.input.take 113) := by decide +kernel
  exact listedBy_of_replies ⟨fun _ => rfl, fun _ => rfl⟩ linkedFileDevice_sends hsent
    (List.take_append_drop _ _).symm fun h => absurd h.symm Bool.false_ne_true

/-- The file behind the link is pulled, and gets the time 0 instead of 7. -/
theorem linkedFile_loses_attributes : ¬ ∀ (env : SyncEnv) (D : Device) (rpath lpath : Bytes)
    (tree : RemoteTree) (status : List Bytes → Stat) (compression : CompressionType)
    (c : SyncConnection), tree.Valid → D.Serves (withSeparator rpath) tree → tree.Tells status →
    ListedBy env D (withSeparator rpath) (withSeparator lpath) c →
    (copyRemoteDirLocal env rpath lpath true compression c).result = .ok true →
    AttributesKept env status (withSeparator rpath) (withSeparator lpath) tree
      (copyRemoteDirLocal env rpath lpath true compression c).trace := by
  intro h
  have hkept := h (.calm [lit "stat_v2"]) linkedFileDevice (lit "/r") (lit "r") linkedFile
    (fun _ => ⟨0o100600, 1, 7⟩) .none linkedFileConnection linkedFile_valid linkedFileDevice_serves
    (linkedFile_tells _) linkedFile_listed (by decide +kernel)
  obtain ⟨request, mode, -, -, hsuffix, -⟩ := hkept _ (List.mem_singleton.mpr rfl)
  exact absurd (hsuffix.subset List.mem_cons_self) (by decide +kernel)

/-- A file with the time 0 and all permissions keeps its attributes. -/
theorem linkedFile_kept : AttributesKept (.calm [lit "stat_v2"]) (fun _ => ⟨0o100777, 1, 0⟩)
    (withSeparator (lit "/r")) (withSeparator (lit "r")) linkedFile
    (copyRemoteDirLocal (.calm [lit "stat_v2"]) (lit "/r") (lit "r") true .none
      linkedFileConnection).trace :=
  (attributes_kept_iff linkedFile_valid linkedFileDevice_serves (linkedFile_tells _)
    linkedFile_listed (by decide +kernel)).mpr (by decide +kernel)

end AdbMobile.Sync
