import AdbMobile.Client.Sync.Acknowledgements

/-!
# Walking a local tree

`local_build_list` finds the files of a tree: those of a directory, and then those below each of its
subdirectories (`localBuildList_runs`). It goes on where it cannot examine something, as it does not
look at what it returns for a subdirectory and drops an entry that `lstat` fails on. What it could
not examine is in its events, and the list of files does not show it.
-/

namespace AdbMobile.Sync

open ByteString PosixPath

/-! ## What a tree has -/

/-- The item of the list for an entry that is not a directory. -/
def listedFile (lpath rpath name : Bytes) (st : Stat) (file : LocalFile) : Listed :=
  ⟨CopyInfo.withStat
    { lpath := withSeparator lpath ++ name, rpath := withSeparator rpath ++ name, mode := st.mode } st, file⟩

/-- The files among the entries of a directory. -/
def LocalTree.filesHere (lpath rpath : Bytes) : LocalTree → List Listed
  | .failed _ | .nil => []
  | .entry name (.ok st) file _ rest =>
    if isDotOrDotDot name ∨ isDir st.mode then rest.filesHere lpath rpath
    else listedFile lpath rpath name st file :: rest.filesHere lpath rpath
  | .entry _ (.error _) _ _ rest => rest.filesHere lpath rpath

/-- The files below the subdirectories of a directory. -/
def LocalTree.filesBelow (lpath rpath : Bytes) : LocalTree → List Listed
  | .failed _ | .nil => []
  | .entry name lstat _ sub rest =>
    (if isSubdirectory name lstat then
      sub.filesHere (subdirectory lpath name) (subdirectory rpath name) ++
        sub.filesBelow (subdirectory lpath name) (subdirectory rpath name)
    else []) ++ rest.filesBelow lpath rpath

/-- The paths in a directory that cannot be examined. -/
def LocalTree.unexaminedHere (lpath : Bytes) : LocalTree → List Bytes
  | .failed _ => [lpath]
  | .nil => []
  | .entry _ (.ok _) _ _ rest => rest.unexaminedHere lpath
  | .entry name (.error _) _ _ rest =>
    if isDotOrDotDot name then rest.unexaminedHere lpath
    else (lpath ++ name) :: rest.unexaminedHere lpath

/-- The paths below the subdirectories of a directory that cannot be examined. -/
def LocalTree.unexaminedBelow (lpath : Bytes) : LocalTree → List Bytes
  | .failed _ | .nil => []
  | .entry name lstat _ sub rest =>
    (if isSubdirectory name lstat then
      sub.unexaminedHere (subdirectory lpath name) ++ sub.unexaminedBelow (subdirectory lpath name)
    else []) ++ rest.unexaminedBelow lpath

/-- The directory is opened. -/
def LocalTree.opens : LocalTree → Bool
  | .failed _ => false
  | _ => true

/-- Everything in a tree can be examined: each entry but `.` and `..`, and what is below each of
them that is a directory. -/
def LocalTree.Readable : LocalTree → Prop
  | .failed _ => False
  | .nil => True
  | .entry name lstat _ sub rest =>
    (isDotOrDotDot name ∨ ∃ st, lstat = .ok st ∧ (isDir st.mode → sub.Readable)) ∧ rest.Readable

/-- A tree is readable if there is nothing in it that cannot be examined. -/
theorem LocalTree.readable_iff (tree : LocalTree) :
    ∀ lpath, tree.Readable ↔ tree.unexaminedHere lpath = [] ∧ tree.unexaminedBelow lpath = [] := by
  induction tree with
  | failed e => exact fun lpath => by simp [Readable, unexaminedHere]
  | nil => exact fun lpath => by simp [Readable, unexaminedHere, unexaminedBelow]
  | entry name lstat file sub rest ihsub ihrest =>
    intro lpath
    rw [Readable, ihrest lpath]
    cases lstat with
    | error e =>
      by_cases hdot : isDotOrDotDot name <;>
        simp [unexaminedHere, unexaminedBelow, isSubdirectory, hdot]
    | ok st =>
      have hsub := ihsub (subdirectory lpath name)
      by_cases hdot : isDotOrDotDot name
      · simp [unexaminedHere, unexaminedBelow, isSubdirectory, hdot]
      · by_cases hdir : isDir st.mode
        · simp only [unexaminedHere, unexaminedBelow, isSubdirectory, hdot, hdir, Except.ok.injEq,
            exists_eq_left', Bool.not_false, Bool.and_self, if_true, List.append_eq_nil_iff]
          simp only [Bool.false_eq_true, false_or, true_imp_iff, hsub]
          tauto
        · simp [unexaminedHere, unexaminedBelow, isSubdirectory, hdot, hdir]

/-! ## The walk -/

/-- A run that leaves the queue, and says only what it could not examine. -/
structure Walked (unexamined : List Bytes) (c : SyncConnection) (t : List SyncEvent)
    (c' : SyncConnection) : Prop where
  queue : SameQueue c c'
  events : ∀ e ∈ t, e.isBackground ∨ ∃ path, e = .unexamined path
  ledger : ledger t = { unexamined := unexamined }

theorem SameQueue.trans {c c' c'' : SyncConnection} (h : SameQueue c c') (h' : SameQueue c' c'') :
    SameQueue c c'' := ⟨h'.1.trans h.1, h'.2.trans h.2⟩

theorem Walked.append {us us' : List Bytes} {c c' c'' : SyncConnection} {t t' : List SyncEvent}
    (h : Walked us c t c') (h' : Walked us' c' t' c'') : Walked (us ++ us') c (t ++ t') c'' where
  queue := h.queue.trans h'.queue
  events e he := (List.mem_append.mp he).elim (h.events e) (h'.events e)
  ledger := by
    rw [ledger_append, h.ledger, h'.ledger]
    ext1 <;> rfl

/-- Silent events after a run on the same queue. -/
theorem Silent.walked {c c' : SyncConnection} {t : List SyncEvent} (h : Silent t)
    (hqueue : SameQueue c c') : Walked [] c t c' where
  queue := hqueue
  events e he := .inl (h e he).1
  ledger := h.ledger

theorem walked_nil (c : SyncConnection) : Walked [] c [] c := silent_nil.walked ⟨rfl, rfl⟩

theorem walked_unexamined (path : Bytes) (c : SyncConnection) :
    Walked [path] c [.unexamined path] c where
  queue := ⟨rfl, rfl⟩
  events _ he := .inr ⟨path, List.mem_singleton.mp he⟩
  ledger := rfl

section Walk

variable (env : SyncEnv)

/-- The constructor of `copyinfo` changes nothing, and it gives a file the paths of the directory
and the name. -/
theorem copyInfo_listed (lpath rpath name : Bytes) (mode : UInt32) (c : SyncConnection) :
    Prog.Runs (copyInfo lpath rpath name mode) c fun ci c' t =>
      Walked [] c t c' ∧ (isDir mode = false → ci =
        { lpath := withSeparator lpath ++ name, rpath := withSeparator rpath ++ name, mode := mode }) := by
  have hback : ∀ path, Silent [.back path] := fun path => silent_singleton ⟨rfl, rfl⟩
  refine Prog.Runs.bind (p := ensureTrailingSeparators lpath rpath)
    (M := fun p c' t => p = (withSeparator lpath, withSeparator rpath) ∧ Walked [] c t c')
    ⟨_, rfl, rfl, ((hback _).append (hback _)).walked ⟨rfl, rfl⟩⟩ fun ⟨l, r⟩ c₁ t₁ ⟨hp, h₁⟩ => ?_
  obtain ⟨rfl, rfl⟩ := Prod.mk.inj hp
  dsimp only
  split
  · rename_i hdir
    refine ⟨_, rfl, h₁.append (((hback _).append (hback _)).walked ⟨rfl, rfl⟩), fun h => ?_⟩
    rw [h] at hdir
    cases hdir
  · exact .pure ⟨h₁.append (walked_nil c₁), fun _ => rfl⟩

/-- The list gets the files of the directory. -/
theorem listEntries_runs (lpath rpath : Bytes) (tree : LocalTree) : ∀ fileList c,
    Prog.Runs (listEntries env lpath rpath fileList tree) c fun files c' t =>
      files = fileList ++ tree.filesHere lpath rpath ∧
        Walked (tree.unexaminedHere lpath) c t c' := by
  induction tree with
  | failed e => exact fun fileList c =>
      ⟨_, rfl, (List.append_nil _).symm, walked_unexamined lpath c⟩
  | nil => exact fun fileList c => ⟨_, rfl, (List.append_nil _).symm, walked_nil c⟩
  | entry name lstat file sub rest _ ih =>
    intro fileList c
    unfold listEntries
    by_cases hdot : isDotOrDotDot name
    · rw [if_pos hdot]
      refine (ih fileList c).mono fun files c' t h => ?_
      cases lstat <;> simpa [LocalTree.filesHere, LocalTree.unexaminedHere, hdot] using h
    rw [if_neg hdot]
    cases lstat with
    | error e =>
      -- What cannot be examined is reported, and the list goes on without it.
      refine .modify_bind (.emit_bind (.emit_bind ?_))
      refine (ih fileList _).mono fun files c' t ⟨hfiles, h⟩ => ?_
      rw [LocalTree.filesHere, LocalTree.unexaminedHere, if_neg hdot]
      have herror : ∀ text, Walked [] c [.error text] { c with errno := e } := fun text =>
        (silent_error text).walked ⟨rfl, rfl⟩
      exact ⟨hfiles, ((herror _).append (walked_unexamined (lpath ++ name) _)).append h⟩
    | ok st =>
      refine (copyInfo_listed lpath rpath name st.mode c).bind fun ci c₁ t₁ ⟨h₁, hci⟩ => ?_
      rw [LocalTree.unexaminedHere]
      split
      · rename_i hdir
        refine (ih fileList c₁).mono fun files c' t ⟨hfiles, h⟩ => ?_
        exact ⟨by simpa [LocalTree.filesHere, hdir] using hfiles, h₁.append h⟩
      · rename_i hdir
        obtain rfl := hci (Bool.eq_false_iff.mpr hdir)
        have hlist : fileList ++ [listedFile lpath rpath name st file] ++ rest.filesHere lpath rpath =
            fileList ++ (LocalTree.entry name (.ok st) file sub rest).filesHere lpath rpath := by
          simp [LocalTree.filesHere, hdot, hdir]
        rw [← hlist]
        split
        · refine .emit_bind ((ih _ c₁).mono fun files c' t ⟨hfiles, h⟩ => ⟨hfiles, ?_⟩)
          have hwarning : ∀ text, Walked [] c₁ [.warning text] c₁ := fun text =>
            (silent_singleton ⟨rfl, rfl⟩).walked ⟨rfl, rfl⟩
          exact h₁.append ((hwarning _).append h)
        · exact (ih _ c₁).mono fun files c' t ⟨hfiles, h⟩ => ⟨hfiles, h₁.append h⟩

/-- A directory is opened, and its files are listed. -/
theorem openAndList_runs (lpath rpath : Bytes) (lists : LocalLists) (tree : LocalTree)
    (c : SyncConnection) :
    Prog.Runs (openAndList env lpath rpath lists tree) c fun r c' t =>
      (r.1 = tree.opens ∧ r.2.fileList = lists.fileList ++ tree.filesHere lpath rpath) ∧
        Walked (tree.unexaminedHere lpath) c t c' := by
  have hlist := listEntries_runs env lpath rpath tree lists.fileList c
  cases tree with
  | failed e =>
    refine .modify_bind (.emit_bind (.emit_bind (.pure ⟨⟨rfl, (List.append_nil _).symm⟩, ?_⟩)))
    have herror : ∀ text, Walked [] c [.error text] { c with errno := e } := fun text =>
      (silent_error text).walked ⟨rfl, rfl⟩
    exact (herror _).append (walked_unexamined lpath _)
  | nil =>
    exact hlist.bind fun files c' t ⟨hfiles, h⟩ => .pure ⟨⟨rfl, hfiles⟩, by simpa using h⟩
  | entry name lstat file sub rest =>
    exact hlist.bind fun files c' t ⟨hfiles, h⟩ => .pure ⟨⟨rfl, hfiles⟩, by simpa using h⟩

/-- The list gets the files below the subdirectories. -/
theorem recurseDirs_runs (tree : LocalTree) : ∀ lpath rpath lists c,
    Prog.Runs (recurseDirs env lpath rpath lists tree) c fun lists' c' t =>
      lists'.fileList = lists.fileList ++ tree.filesBelow lpath rpath ∧
        Walked (tree.unexaminedBelow lpath) c t c' := by
  induction tree with
  | failed e => exact fun l r lists c => ⟨_, rfl, (List.append_nil _).symm, walked_nil c⟩
  | nil => exact fun l r lists c => ⟨_, rfl, (List.append_nil _).symm, walked_nil c⟩
  | entry name lstat file sub rest ihsub ihrest =>
    intro lpath rpath lists c
    unfold recurseDirs LocalTree.filesBelow LocalTree.unexaminedBelow
    split
    · refine (openAndList_runs env _ _ _ sub c).bind fun ⟨ok, lists₁⟩ c₁ t₁ ⟨⟨_, h₁⟩, hw₁⟩ => ?_
      refine (ihsub _ _ lists₁ c₁).bind fun lists₂ c₂ t₂ ⟨h₂, hw₂⟩ => ?_
      refine (ihrest lpath rpath lists₂ c₂).mono fun lists₃ c₃ t₃ ⟨h₃, hw₃⟩ => ⟨?_, ?_⟩
      · calc lists₃.fileList
            = lists₁.fileList ++ sub.filesBelow _ _ ++ rest.filesBelow lpath rpath := by rw [h₃, h₂]
          _ = _ := by
            dsimp only at h₁
            rw [h₁]
            simp only [List.append_assoc]
      · rw [List.append_assoc]
        exact hw₁.append (hw₂.append hw₃)
    · exact (ihrest lpath rpath lists c).mono fun lists' c' t h => h

/-- The files of a tree. -/
def LocalTree.found (lpath rpath : Bytes) (tree : LocalTree) : List Listed :=
  tree.filesHere lpath rpath ++ tree.filesBelow lpath rpath

/-- `local_build_list` finds the files of the tree, also where it cannot examine all of it; it
returns whether the directory itself could be opened. -/
theorem localBuildList_runs (lists : LocalLists) (lpath rpath : Bytes) (tree : LocalTree)
    (c : SyncConnection) :
    Prog.Runs (localBuildList env lists lpath rpath tree) c fun r c' t =>
      (r.1 = tree.opens ∧ r.2.fileList = lists.fileList ++ tree.found lpath rpath) ∧
        Walked (tree.unexaminedHere lpath ++ tree.unexaminedBelow lpath) c t c' := by
  refine (openAndList_runs env lpath rpath lists tree c).bind
    fun ⟨ok, lists₁⟩ c₁ t₁ ⟨⟨hok, h₁⟩, hw₁⟩ => ?_
  subst hok
  cases tree with
  | failed e => exact .pure ⟨⟨rfl, h₁⟩, hw₁.append (walked_nil c₁)⟩
  | nil =>
    refine (recurseDirs_runs env .nil lpath rpath lists₁ c₁).bind fun lists₂ c₂ t₂ ⟨h₂, hw₂⟩ => ?_
    refine .pure ⟨⟨rfl, ?_⟩, ?_⟩
    · rw [LocalTree.found, ← List.append_assoc, ← h₁, h₂]
    · rw [List.append_nil]
      exact hw₁.append hw₂
  | entry name lstat file sub rest =>
    refine (recurseDirs_runs env (.entry name lstat file sub rest) lpath rpath lists₁ c₁).bind
      fun lists₂ c₂ t₂ ⟨h₂, hw₂⟩ => ?_
    refine .pure ⟨⟨rfl, ?_⟩, ?_⟩
    · rw [LocalTree.found, ← List.append_assoc, ← h₁, h₂]
    · rw [List.append_nil]
      exact hw₁.append hw₂

end Walk

end AdbMobile.Sync
