import AdbMobile.Lib.DepthFirst
import AdbMobile.Client.Sync.Pull

/-!
# Building the list of a remote directory

`remote_build_list` asks the device for the entries of a directory, and for the status of the links
among them, and calls itself for each directory and each link to one. Here the device is what it
answers to each request (`Device`), as it may answer for ever: a stream of bytes that is given
beforehand ends.

The calls are a walk that the device drives. A name makes the path longer, and a path of more than
1024 bytes is not asked for. But a name can be empty, as `FinishLs` refuses only what has a slash or
is too long, and a directory with an empty name is the directory itself. So the calls end exactly
when none is made for such a name (`buildList_terminates_iff`).
-/

namespace AdbMobile.Sync

open ByteString PosixPath DepthFirst

/-- A device, as it answers the requests of the sync service. -/
structure Device where
  /-- `have_stat_v2_`. -/
  haveStatV2 : Bool
  /-- The entries in the reply to a list request, as they are sent, and whether an `ID_DONE` comes
  behind them. -/
  listing : Bytes → List Dent × Bool
  /-- The replies to `ID_STAT_V2`. -/
  stat : Bytes → Except Errno Stat
  /-- The replies to `ID_LSTAT_V1` and `ID_LSTAT_V2`. -/
  lstat : Bytes → Except Errno Stat

/-- The constructor of `copyinfo`. -/
def CopyInfo.new (localPath remotePath name : Bytes) (mode : UInt32) : CopyInfo :=
  let lpath := withSeparator localPath ++ name
  let rpath := withSeparator remotePath ++ name
  if isDir mode then { lpath := withSeparator lpath, rpath := withSeparator rpath, mode }
  else { lpath, rpath, mode }

namespace Device

variable (D : Device)

/-! ## Requests -/

/-- `FinishLs`, for the entries to come. -/
def finishLs {β : Type} (callback : β → Dent → β) (done : Bool) : List Dent → β → Bool × β
  | [], acc => (done, acc)
  | d :: ds, acc =>
    if 255 < d.name.length then (false, acc)
    else
      let name := cString d.name
      if slash ∈ name then (false, acc)
      else finishLs callback done ds (callback acc { d with name })

/-- `sync_ls`. -/
def syncLs {β : Type} (path : Bytes) (callback : β → Dent → β) (acc : β) : Bool × β :=
  if 1024 < path.length then (false, acc)
  else finishLs callback (D.listing path).2 (D.listing path).1 acc

/-- `sync_stat`. -/
def syncStat (path : Bytes) : Except Errno Stat :=
  if !D.haveStatV2 then .error .enotsup
  else if 1024 < path.length then .error .enametoolong
  else D.stat path

/-- `sync_lstat`. -/
def syncLstat (path : Bytes) : Except Errno Stat :=
  if 1024 < path.length then .error .enametoolong else D.lstat path

/-- `sync_stat_fallback`. -/
def syncStatFallback (path : Bytes) : Option Stat :=
  match D.syncStat path with
  | .ok st => some st
  | .error e =>
    if e ≠ .enotsup then none
    else
      match D.syncLstat path with
      | .error _ => none
      | .ok st =>
        if isLnk st.mode then
          let mode := st.mode &&& ~~~sIfmt
          match D.syncLstat (path ++ [slash]) with
          | .ok _ => some { st with size := 0, mode := mode ||| sIfdir }
          | .error _ => some { st with size := 0, mode := mode ||| sIfreg }
        else some st

/-! ## The list -/

/-- The callback of `remote_build_list`. -/
def callback (rpath lpath : Bytes) (lists : RemoteLists) (d : Dent) : RemoteLists :=
  if isDotOrDotDot d.name then lists
  else
    let ci := CopyInfo.new lpath rpath d.name d.mode
    if isDir d.mode then { lists with dirlist := lists.dirlist ++ [ci] }
    else if isLnk d.mode then { lists with linklist := lists.linklist ++ [ci] }
    else
      let ci := { ci with
        time := signedLong d.time, size := d.size, skip := !shouldPullFile d.mode }
      { lists with fileList := lists.fileList ++ [ci] }

/-- What `remote_build_list` makes of a symbolic link. -/
def resolveLink (lists : RemoteLists) (link : CopyInfo) : RemoteLists :=
  match D.syncStatFallback link.rpath with
  | none => lists
  | some st =>
    if isDir st.mode then { lists with dirlist := lists.dirlist ++ [link] }
    else { lists with fileList := lists.fileList ++ [link] }

/-- The calls of `remote_build_list` for the directories that were found, until one of them
fails. -/
def recurse (call : List CopyInfo → Bytes → Bytes → Option (Bool × List CopyInfo)) :
    List CopyInfo → List CopyInfo → Option (Bool × List CopyInfo)
  | [], fileList => some (true, fileList)
  | current :: dirs, fileList =>
    match call fileList current.rpath current.lpath with
    | none => none
    | some (false, fileList) => some (false, fileList)
    | some (true, fileList) => recurse call dirs fileList

/-- `remote_build_list`, as far as it gets with so many calls inside each other. -/
def remoteBuildList : ℕ → List CopyInfo → Bytes → Bytes → Option (Bool × List CopyInfo)
  | 0, _, _, _ => none
  | depth + 1, fileList, rpath, lpath =>
    let ci := CopyInfo.new (dirname lpath) (dirname rpath) (basename lpath) sIfdir
    let (ok, lists) := D.syncLs rpath (callback rpath lpath) ⟨fileList ++ [ci], [], []⟩
    if !ok then some (false, lists.fileList)
    else
      let lists := lists.linklist.foldl D.resolveLink lists
      recurse (remoteBuildList depth) lists.dirlist.reverse lists.fileList

/-! ## The calls as a walk -/

/-- The entries that `FinishLs` lets through, and whether it succeeds. -/
def accepted (path : Bytes) : Bool × List Dent := D.syncLs path (fun ds d => ds ++ [d]) []

/-- Directories, links, and what is neither, among entries. -/
def directories (ds : List Dent) : List Dent :=
  ds.filter fun d => !isDotOrDotDot d.name && isDir d.mode

def links (ds : List Dent) : List Dent :=
  ds.filter fun d => !isDotOrDotDot d.name && !isDir d.mode && isLnk d.mode

def plainFiles (ds : List Dent) : List Dent :=
  ds.filter fun d => !isDotOrDotDot d.name && !isDir d.mode && !isLnk d.mode

/-- A link as `sync_stat_fallback` finds it. -/
def target (path : Bytes) (d : Dent) : Option Stat :=
  D.syncStatFallback (withSeparator path ++ d.name)

/-- The links that lead to a directory, and to something else. -/
def directoryLinks (path : Bytes) (ds : List Dent) : List Dent :=
  (links ds).filter fun d => (D.target path d).any fun st => isDir st.mode

def fileLinks (path : Bytes) (ds : List Dent) : List Dent :=
  (links ds).filter fun d => (D.target path d).any fun st => !isDir st.mode

/-- The entries for which a call for a path calls itself, in order; `none` where it fails. -/
def subdirectories (path : Bytes) : Option (List Dent) :=
  if (D.accepted path).1 then
    some (directories (D.accepted path).2 ++ D.directoryLinks path (D.accepted path).2).reverse
  else none

/-- The `copyinfo` of an entry. -/
def entryInfo (rpath lpath : Bytes) (d : Dent) : CopyInfo := CopyInfo.new lpath rpath d.name d.mode

/-- The `copyinfo` of an entry that is neither a directory nor a link. -/
def fileInfo (rpath lpath : Bytes) (d : Dent) : CopyInfo :=
  { entryInfo rpath lpath d with
    time := signedLong d.time, size := d.size, skip := !shouldPullFile d.mode }

/-- The `copyinfo` of the directory that a call is for. -/
def ownInfo (rpath lpath : Bytes) : CopyInfo :=
  .new (dirname lpath) (dirname rpath) (basename lpath) sIfdir

/-- The remote path of an entry. -/
def subPath (path : Bytes) (d : Dent) : Bytes :=
  if isDir d.mode then withSeparator (withSeparator path ++ d.name)
  else withSeparator path ++ d.name

/-- What a call asks for, and the calls that it makes, by their remote paths. -/
def calls (path : Bytes) : List Bytes × Option (List Bytes) :=
  ([path], (D.subdirectories path).map fun ds => ds.map (subPath path))

/-- The turn comes of a subdirectory with an empty name: all before it are completed. -/
def EmptyNameInTurn (path : Bytes) : Prop :=
  ∃ before d after, D.subdirectories path = some (before ++ d :: after) ∧
    (∀ x ∈ before, Completes D.calls (subPath path x)) ∧ d.name = []

/-- What a call puts on the list itself, and the calls that it makes, by their two paths. -/
def expand (node : Bytes × Bytes) : List CopyInfo × Option (List (Bytes × Bytes)) :=
  let ds := (D.accepted node.1).2
  (ownInfo node.1 node.2 :: ((plainFiles ds).map (fileInfo node.1 node.2) ++
      if (D.accepted node.1).1 then (D.fileLinks node.1 ds).map (entryInfo node.1 node.2) else []),
    (D.subdirectories node.1).map fun ds => ds.map fun d =>
      ((entryInfo node.1 node.2 d).rpath, (entryInfo node.1 node.2 d).lpath))

variable {D}

/-! ## The lists -/

/-- What the callback makes of the entries that are let through. -/
theorem finishLs_eq {β : Type} (callback : β → Dent → β) (done : Bool) (ds : List Dent) :
    ∀ (pre : List Dent) (acc : β), finishLs callback done ds (pre.foldl callback acc) =
      ((finishLs (fun ds d => ds ++ [d]) done ds pre).1,
        (finishLs (fun ds d => ds ++ [d]) done ds pre).2.foldl callback acc) := by
  induction ds with
  | nil => exact fun pre acc => rfl
  | cons d ds ih =>
    intro pre acc
    simp only [finishLs]
    split_ifs with hlong hslash
    · rfl
    · rfl
    · have hstep := ih (pre ++ [{ d with name := cString d.name }]) acc
      rwa [List.foldl_append] at hstep

theorem syncLs_eq {β : Type} (path : Bytes) (callback : β → Dent → β) (acc : β) :
    D.syncLs path callback acc = ((D.accepted path).1, (D.accepted path).2.foldl callback acc) := by
  unfold accepted syncLs
  split_ifs
  · rfl
  · exact finishLs_eq callback _ _ [] acc

/-- The lists after the entries of a directory. -/
theorem foldl_callback (rpath lpath : Bytes) (ds : List Dent) : ∀ lists : RemoteLists,
    ds.foldl (callback rpath lpath) lists =
      ⟨lists.fileList ++ (plainFiles ds).map (fileInfo rpath lpath),
        lists.dirlist ++ (directories ds).map (entryInfo rpath lpath),
        lists.linklist ++ (links ds).map (entryInfo rpath lpath)⟩ := by
  induction ds with
  | nil => simp [plainFiles, directories, links]
  | cons d ds ih =>
    intro lists
    rw [List.foldl_cons, ih]
    unfold callback plainFiles directories links
    by_cases hdot : isDotOrDotDot d.name = true
    · simp [hdot]
    · by_cases hdir : isDir d.mode = true
      · simp [hdot, hdir, entryInfo]
      · by_cases hlink : isLnk d.mode = true
        · simp [hdot, hdir, hlink, entryInfo]
        · simp [hdot, hdir, hlink, fileInfo, entryInfo]

/-- The remote path in the `copyinfo` of an entry. -/
theorem entryInfo_rpath (rpath lpath : Bytes) (d : Dent) :
    (entryInfo rpath lpath d).rpath = subPath rpath d := by
  unfold entryInfo CopyInfo.new subPath
  split <;> rfl

theorem entryInfo_rpath_of_notDir (rpath lpath : Bytes) {d : Dent} (h : isDir d.mode = false) :
    (entryInfo rpath lpath d).rpath = withSeparator rpath ++ d.name := by
  rw [entryInfo_rpath, subPath, h]
  rfl

/-- A link is no directory. -/
theorem notDir_of_mem_links {ds : List Dent} {d : Dent} (h : d ∈ links ds) :
    isDir d.mode = false := by
  have hd := List.of_mem_filter h
  simp only [Bool.and_eq_true, Bool.not_eq_true'] at hd
  exact hd.1.2

/-- The lists after the links of a directory. -/
theorem foldl_resolveLink (rpath lpath : Bytes) (ls : List Dent) : ∀ lists : RemoteLists,
    (∀ d ∈ ls, isDir d.mode = false) →
    (ls.map (entryInfo rpath lpath)).foldl D.resolveLink lists =
      ⟨lists.fileList ++ (ls.filter fun d => (D.target rpath d).any fun st =>
          !isDir st.mode).map (entryInfo rpath lpath),
        lists.dirlist ++ (ls.filter fun d => (D.target rpath d).any fun st =>
          isDir st.mode).map (entryInfo rpath lpath), lists.linklist⟩ := by
  induction ls with
  | nil => simp
  | cons d ls ih =>
    intro lists hls
    rw [List.map_cons, List.foldl_cons, ih _ fun d' hd' => hls d' (List.mem_cons_of_mem d hd')]
    rw [resolveLink, entryInfo_rpath_of_notDir rpath lpath (hls d List.mem_cons_self)]
    cases htarget : D.syncStatFallback (withSeparator rpath ++ d.name) with
    | none => simp [target, htarget]
    | some st =>
      by_cases hst : isDir st.mode = true
      · simp [target, htarget, hst]
      · simp [target, htarget, hst]

/-- The calls for directories that were found, where each is a walk that adds to the list. -/
theorem recurse_eq {call : List CopyInfo → Bytes → Bytes → Option (Bool × List CopyInfo)}
    {visit : Bytes × Bytes → Option (Bool × List CopyInfo)}
    (hcall : ∀ fileList rpath lpath, call fileList rpath lpath =
      (visit (rpath, lpath)).map fun r => (r.1, fileList ++ r.2)) (dirs : List CopyInfo) :
    ∀ fileList, recurse call dirs fileList =
      (walkAll visit (dirs.map fun ci => (ci.rpath, ci.lpath))).map fun r =>
        (r.1, fileList ++ r.2) := by
  induction dirs with
  | nil => simp [recurse, walkAll]
  | cons current dirs ih =>
    intro fileList
    rw [recurse, hcall, List.map_cons, walkAll]
    cases visit (current.rpath, current.lpath) with
    | none => rfl
    | some r =>
      obtain ⟨ok, found⟩ := r
      cases ok with
      | false => rfl
      | true => simp [ih, Option.map_map, Function.comp_def]

/-- `remote_build_list` is a walk over pairs of paths. -/
theorem remoteBuildList_eq_walk (depth : ℕ) : ∀ fileList rpath lpath,
    D.remoteBuildList depth fileList rpath lpath =
      (walk D.expand depth (rpath, lpath)).map fun r => (r.1, fileList ++ r.2) := by
  induction depth with
  | zero => exact fun _ _ _ => rfl
  | succ depth ih =>
    intro fileList rpath lpath
    rw [remoteBuildList, walk, syncLs_eq, foldl_callback]
    cases hok : (D.accepted rpath).1 with
    | false =>
      simp [expand, subdirectories, hok, ownInfo]
    | true =>
      simp only [List.nil_append, foldl_resolveLink rpath lpath _ _ fun d => notDir_of_mem_links,
        recurse_eq ih]
      simp [expand, subdirectories, hok, ownInfo, fileLinks, directoryLinks, Option.map_map,
        Function.comp_def]

/-! ## Termination -/

/-- Whether the calls end does not depend on the local path, nor on the list so far. -/
theorem terminates_iff_calls (fileList : List CopyInfo) (rpath lpath : Bytes) :
    (∃ depth r, D.remoteBuildList depth fileList rpath lpath = some r) ↔
      ∃ n r, walk D.calls n rpath = some r := by
  have hnodes : ∀ node, (D.calls node.1).2 = (D.expand node).2.map (List.map Prod.fst) := by
    intro node
    simp only [calls, expand, Option.map_map]
    congr 1
    funext ds
    simp [entryInfo_rpath]
  have hsame (n : ℕ) := walk_map Prod.fst hnodes n (rpath, lpath)
  constructor
  · rintro ⟨n, r, h⟩
    rw [remoteBuildList_eq_walk, Option.map_eq_some_iff] at h
    obtain ⟨r', h, -⟩ := h
    have hn := hsame n
    rw [h, Option.map_some, Option.map_eq_some_iff] at hn
    obtain ⟨r'', hr'', -⟩ := hn
    exact ⟨n, r'', hr''⟩
  · rintro ⟨n, r, h⟩
    have hn := hsame n
    rw [h, Option.map_some, eq_comm, Option.map_eq_some_iff] at hn
    obtain ⟨r', hr', -⟩ := hn
    exact ⟨n, _, by rw [remoteBuildList_eq_walk, hr', Option.map_some]⟩

/-- A name makes the path longer; without one there is a separator at most. -/
theorem subPath_cases (path : Bytes) (d : Dent) :
    (d.name ≠ [] ∧ path.length < (subPath path d).length) ∨
      d.name = [] ∧ subPath path d = withSeparator path := by
  have hidem : withSeparator (withSeparator path) = withSeparator path := by
    obtain ⟨q, hq, -⟩ := withSeparator_eq path
    rw [hq, withSeparator, if_pos (by simp)]
  have hle (p : Bytes) : p.length ≤ (withSeparator p).length := by
    unfold withSeparator
    split <;> simp
  by_cases hname : d.name = []
  · right
    refine ⟨hname, ?_⟩
    rw [subPath, hname, List.append_nil, hidem, ite_self]
  · left
    have hpos := List.length_pos_iff.mpr hname
    have hpath := hle path
    have hboth := hle (withSeparator path ++ d.name)
    refine ⟨hname, ?_⟩
    unfold subPath
    split
    · rw [List.length_append] at hboth
      omega
    · rw [List.length_append]
      omega

/-- A call calls itself for an entry, and only if its path is short enough to be asked for. -/
theorem inTurn_calls {p q : Bytes} (h : InTurn D.calls p q) :
    ∃ before d after, D.subdirectories p = some (before ++ d :: after) ∧
      (∀ x ∈ before, Completes D.calls (subPath p x)) ∧ q = subPath p d ∧ p.length ≤ 1024 := by
  obtain ⟨before, after, hcalls, hbefore⟩ := h
  obtain ⟨ds, hds, hmap⟩ := Option.map_eq_some_iff.mp hcalls
  obtain ⟨dsBefore, rest, rfl, rfl, hrest⟩ := List.map_eq_append_iff.mp hmap
  obtain ⟨d, dsAfter, rfl, rfl, rfl⟩ := List.map_eq_cons_iff.mp hrest
  refine ⟨dsBefore, d, dsAfter, hds, fun x hx => hbefore _ (List.mem_map_of_mem hx), rfl, ?_⟩
  by_contra hlong
  have hfails : (D.accepted p).1 = false := by
    rw [accepted, syncLs, if_pos (by omega)]
  rw [subdirectories, hfails] at hds
  cases hds

/-- A call makes the same call again exactly if its path ends with a slash and an empty name has its
turn. -/
theorem inTurn_self_iff {p : Bytes} :
    InTurn D.calls p p ↔ p.getLast? = some slash ∧ D.EmptyNameInTurn p := by
  constructor
  · intro h
    obtain ⟨before, d, after, hds, hbefore, heq, -⟩ := inTurn_calls h
    obtain ⟨-, hlonger⟩ | ⟨hname, hsub⟩ := subPath_cases p d
    · rw [← heq] at hlonger
      exact absurd hlonger (lt_irrefl _)
    · refine ⟨?_, before, d, after, hds, hbefore, hname⟩
      obtain ⟨q, hq, -⟩ := withSeparator_eq p
      rw [heq, hsub, hq]
      simp
  · rintro ⟨hslash, before, d, after, hds, hbefore, hname⟩
    have hsub : subPath p d = p := by
      obtain ⟨hne, -⟩ | ⟨-, hsub⟩ := subPath_cases p d
      · exact absurd hname hne
      · rw [hsub, withSeparator, if_pos hslash]
    refine ⟨before.map (subPath p), after.map (subPath p), ?_, ?_⟩
    · rw [calls, hds, Option.map_some, List.map_append, List.map_cons, hsub]
    · exact List.forall_mem_map.mpr hbefore

/-- `remote_build_list` terminates, and asks for longer paths from call to call, exactly if in no
call for a path with a slash at its end the turn comes of a directory, or a link to one, with an
empty name. -/
theorem buildList_terminates_iff (D : Device) (fileList : List CopyInfo) (rpath lpath : Bytes) :
    ((∃ depth r, D.remoteBuildList depth fileList rpath lpath = some r) ∧
      ∀ p q, Reaches D.calls rpath p → InTurn D.calls p q → p.length < q.length) ↔
    ∀ p, Reaches D.calls rpath p → p.getLast? = some slash → ¬ D.EmptyNameInTurn p := by
  have hgrows : ∀ p q, InTurn D.calls p q → p = q ∨ p.length < q.length := by
    intro p q h
    obtain ⟨before, d, after, -, -, rfl, -⟩ := inTurn_calls h
    obtain ⟨-, hlonger⟩ | ⟨-, hsub⟩ := subPath_cases p d
    · exact .inr hlonger
    · rw [hsub, withSeparator]
      split
      · exact .inl rfl
      · exact .inr (by simp)
  have hbound : ∀ p q, InTurn D.calls p q → p.length ≤ 1024 := fun p q h =>
    (inTurn_calls h).elim fun _ h => h.elim fun _ h => h.elim fun _ h => h.2.2.2
  rw [terminates_iff_calls, terminates_iff_no_loop List.length 1024 hgrows hbound]
  constructor
  · rintro ⟨hnone, -⟩ p hp hslash hempty
    exact hnone p hp (inTurn_self_iff.mpr ⟨hslash, hempty⟩)
  · intro hnone
    have hloop : ∀ p, Reaches D.calls rpath p → ¬ InTurn D.calls p p := fun p hp h =>
      hnone p hp (inTurn_self_iff.mp h).1 (inTurn_self_iff.mp h).2
    refine ⟨hloop, fun p q hp hq => (hgrows p q hq).resolve_left ?_⟩
    rintro rfl
    exact hloop p hp hq

/-- A device that lists a directory without a name in every directory. -/
def nameless : Device where
  haveStatV2 := true
  listing _ := ([⟨sIfdir, 0, 0, []⟩], true)
  stat _ := .error .enoent
  lstat _ := .error .enoent

/-- Its list is never built. -/
theorem nameless_not_terminates : ¬ ∀ (D : Device) (fileList : List CopyInfo) (rpath lpath : Bytes),
    ∃ depth r, D.remoteBuildList depth fileList rpath lpath = some r := by
  intro h
  have hterminates := h nameless [] (lit "/sdcard/") (lit "sdcard/")
  rw [terminates_iff_calls] at hterminates
  refine not_terminates_of_loop .refl (inTurn_self_iff.mpr ⟨by decide, ?_⟩) hterminates
  exact ⟨[], ⟨sIfdir, 0, 0, []⟩, [], by decide, by simp, rfl⟩

end Device

end AdbMobile.Sync
