import Mathlib.Data.List.Nodup
import Mathlib.Data.Nat.Find
import Mathlib.Logic.Function.Iterate
import AdbMobile.Client.Sync.Push

/-!
# The directories on the way to a destination

A directory is pushed to a remote path, and `directory_list` starts with the directories above it:
`copy_local_dir_remote` applies `Dirname` until only slashes are left. The comment there has
`dirname("//foo")` in mind, which is `//`. It is `.` for a path without a slash in front, which is
its own `dirname`, and so a relative destination never gets to the root.

For an absolute one the list has each directory on the way once, and parents come first. The loop
terminates, with that list, exactly for these (`destination_expands_iff`).
-/

namespace AdbMobile.Sync

open ByteString PosixPath

/-- What `directory_list` should have for a path: the path and the directories above it, up to the
root, each of them once, and parents before children. -/
structure Expands (rpath : Bytes) (directoryList : List Bytes) : Prop where
  mem_iff : ∀ dir, dir ∈ directoryList ↔
    ∃ n, dir = dirname^[n] rpath ∧ ∀ m ≤ n, isRootDir (dirname^[m] rpath) = false
  nodup : directoryList.Nodup
  parentsFirst : directoryList.Pairwise fun parent dir => ∃ n, 0 < n ∧ parent = dirname^[n] dir

/-! ## The loop -/

/-- The loop collects the path and its parents up to the first root. -/
theorem ancestors_eq_some_iff {n : ℕ} : ∀ {path : Bytes} {paths : List Bytes},
    ancestors n path = some paths ↔ ∃ k < n, isRootDir (dirname^[k] path) = true ∧
      (∀ m < k, isRootDir (dirname^[m] path) = false) ∧
      paths = (List.range k).map fun m => dirname^[m] path := by
  induction n with
  | zero => simp [ancestors]
  | succ n ih =>
    intro path paths
    rw [ancestors]
    by_cases hroot : isRootDir path = true
    · rw [if_pos hroot]
      constructor
      · intro h
        cases h
        exact ⟨0, n.succ_pos, hroot, by simp, rfl⟩
      · rintro ⟨k, -, -, hbefore, rfl⟩
        -- The first root is the path itself.
        obtain rfl : k = 0 := by
          by_contra hk
          have hfalse := hbefore 0 (Nat.pos_of_ne_zero hk)
          rw [Function.iterate_zero_apply, hroot] at hfalse
          cases hfalse
        rfl
    · rw [if_neg hroot, Option.map_eq_some_iff]
      constructor
      · rintro ⟨rest, hrest, rfl⟩
        obtain ⟨k, hk, hend, hbefore, rfl⟩ := ih.mp hrest
        refine ⟨k + 1, Nat.succ_lt_succ hk, hend, fun m hm => ?_, ?_⟩
        · cases m with
          | zero => simpa using hroot
          | succ m => exact hbefore m (Nat.lt_of_succ_lt_succ hm)
        · rw [List.range_succ_eq_map, List.map_cons, List.map_map]
          rfl
      · rintro ⟨k, hk, hend, hbefore, rfl⟩
        cases k with
        | zero => exact absurd hend hroot
        | succ k =>
          refine ⟨(List.range k).map fun m => dirname^[m] (dirname path), ih.mpr
            ⟨k, Nat.lt_of_succ_lt_succ hk, hend, fun m hm => hbefore (m + 1) (Nat.succ_lt_succ hm),
              rfl⟩, ?_⟩
          rw [List.range_succ_eq_map, List.map_cons, List.map_map]
          rfl

/-- Only a path of slashes has nothing besides. -/
theorem isRootDir_iff {path : Bytes} : isRootDir path = true ↔ stripSlashes path = [] := by
  rw [stripSlashes, List.rdropWhile_eq_nil_iff, isRootDir, List.all_eq_true]

/-- An absolute path gets to the root in as many steps as it has bytes. -/
theorem reaches_root (length : ℕ) : ∀ {path : Bytes}, path.length ≤ length →
    path.head? = some slash → ∃ k ≤ length, isRootDir (dirname^[k] path) = true := by
  induction length with
  | zero =>
    intro path hlength hhead
    rw [List.length_eq_zero_iff.mp (Nat.le_zero.mp hlength)] at hhead
    cases hhead
  | succ length ih =>
    intro path hlength hhead
    by_cases hroot : isRootDir path = true
    · exact ⟨0, Nat.zero_le _, hroot⟩
    · have hne : path ≠ [] := by
        rintro rfl
        cases hhead
      have hshorter := length_dirname_lt hhead fun h => hroot (isRootDir_iff.mpr h)
      obtain ⟨k, hk, hend⟩ := ih (by omega) ((head_dirname_iff hne).mpr hhead)
      exact ⟨k + 1, Nat.succ_le_succ hk, hend⟩

/-- A path that is not absolute has no root above it. -/
theorem relative_iterate {path : Bytes} (hne : path ≠ [])
    (hhead : path.head? ≠ some slash) (n : ℕ) :
    dirname^[n] path ≠ [] ∧ (dirname^[n] path).head? ≠ some slash := by
  induction n with
  | zero => exact ⟨hne, hhead⟩
  | succ n ih =>
    rw [Function.iterate_succ_apply']
    exact ⟨dirname_ne_nil _, fun h => ih.2 ((head_dirname_iff ih.1).mp h)⟩

/-- The root is above the absolute paths, and no others. -/
theorem exists_root_iff {path : Bytes} (hne : path ≠ []) :
    (∃ k, isRootDir (dirname^[k] path) = true) ↔ path.head? = some slash := by
  constructor
  · rintro ⟨k, hend⟩
    by_contra hhead
    obtain ⟨hne', hhead'⟩ := relative_iterate hne hhead k
    refine hhead' ?_
    cases hp : dirname^[k] path with
    | nil => exact absurd hp hne'
    | cons b rest =>
      rw [hp, isRootDir, List.all_eq_true] at hend
      simpa using hend b List.mem_cons_self
  · intro hhead
    obtain ⟨k, -, hend⟩ := reaches_root path.length le_rfl hhead
    exact ⟨k, hend⟩

/-! ## The list -/

/-- The paths up to the first root, from the root down. -/
theorem expands_of_first_root {path : Bytes} {k : ℕ} (hend : isRootDir (dirname^[k] path) = true)
    (hbefore : ∀ m < k, isRootDir (dirname^[m] path) = false) :
    Expands path ((List.range k).map fun m => dirname^[m] path).reverse where
  mem_iff dir := by
    rw [List.mem_reverse, List.mem_map]
    constructor
    · rintro ⟨n, hn, rfl⟩
      exact ⟨n, rfl, fun m hm => hbefore m (lt_of_le_of_lt hm (List.mem_range.mp hn))⟩
    · rintro ⟨n, rfl, hnone⟩
      refine ⟨n, List.mem_range.mpr ?_, rfl⟩
      by_contra hn
      rw [hnone k (Nat.le_of_not_lt hn)] at hend
      cases hend
  nodup := by
    rw [List.nodup_reverse]
    refine List.Nodup.map_on (fun i hi j hj heq => ?_) List.nodup_range
    -- A path met twice would lead to the root in fewer steps.
    have hearlier : ∀ i j, i < j → j < k → dirname^[i] path = dirname^[j] path → False := by
      intro i j hij hjk heq
      have hroot : dirname^[k - (j - i)] path = dirname^[k] path := by
        calc dirname^[k - (j - i)] path = dirname^[(k - j) + i] path := by congr 1; omega
          _ = dirname^[k - j] (dirname^[i] path) := Function.iterate_add_apply ..
          _ = dirname^[k - j] (dirname^[j] path) := by rw [heq]
          _ = dirname^[(k - j) + j] path := (Function.iterate_add_apply ..).symm
          _ = dirname^[k] path := by congr 1; omega
      have hfalse := hbefore (k - (j - i)) (by omega)
      rw [hroot, hend] at hfalse
      cases hfalse
    obtain hlt | heq' | hgt := lt_trichotomy i j
    · exact (hearlier i j hlt (List.mem_range.mp hj) heq).elim
    · exact heq'
    · exact (hearlier j i hgt (List.mem_range.mp hi) heq.symm).elim
  parentsFirst := by
    rw [List.pairwise_reverse, List.pairwise_map]
    refine List.pairwise_lt_range.imp fun {i j} hij => ⟨j - i, Nat.sub_pos_of_lt hij, ?_⟩
    rw [← Function.iterate_add_apply, Nat.sub_add_cancel hij.le]

/-- The loop returns the directories on the way where there is a root, and does not return where
there is none. -/
theorem remoteAncestors_runs (path : Bytes) (hne : path ≠ []) (c : SyncConnection) :
    (path.head? = some slash ∧ ∃ directoryList, Expands path directoryList ∧
      remoteAncestors path c = ⟨.ok directoryList, c, []⟩) ∨
    (path.head? ≠ some slash ∧ remoteAncestors path c = ⟨.error .hangs, c, []⟩) := by
  rw [remoteAncestors]
  by_cases hhead : path.head? = some slash
  · left
    have hreaches := reaches_root path.length le_rfl hhead
    -- The first of the roots on the way.
    obtain ⟨k, ⟨hk, hend⟩, hfirst⟩ : ∃ k, (k ≤ path.length ∧ isRootDir (dirname^[k] path) = true) ∧
        ∀ m < k, ¬ (m ≤ path.length ∧ isRootDir (dirname^[m] path) = true) :=
      ⟨Nat.find hreaches, Nat.find_spec hreaches, fun m => Nat.find_min hreaches⟩
    have hbefore : ∀ m < k, isRootDir (dirname^[m] path) = false := fun m hm =>
      Bool.eq_false_iff.mpr fun htrue => hfirst m hm ⟨hm.le.trans hk, htrue⟩
    have hsome := ancestors_eq_some_iff.mpr ⟨k, Nat.lt_succ_of_le hk, hend, hbefore, rfl⟩
    refine ⟨hhead, _, expands_of_first_root hend hbefore, ?_⟩
    simp only [hsome, Prog.pure_apply]
  · right
    have hnone : ancestors (path.length + 1) path = none := by
      rw [Option.eq_none_iff_forall_ne_some]
      intro paths hsome
      obtain ⟨k, -, hend, -, -⟩ := ancestors_eq_some_iff.mp hsome
      exact hhead ((exists_root_iff hne).mp ⟨k, hend⟩)
    refine ⟨hhead, ?_⟩
    simp only [hnone, Prog.exit_apply]

/-- The separator at the end leaves an absolute path absolute, and makes the empty path the root. -/
theorem head_withSeparator_iff (path : Bytes) :
    (withSeparator path).head? = some slash ↔ path = [] ∨ path.head? = some slash := by
  by_cases hne : path = []
  · subst hne
    exact iff_of_true rfl (.inl rfl)
  · rw [head_withSeparator hne]
    simp [hne]

/-- The loop from a destination terminates, and lists each directory on the way once and parents
first, exactly for the destinations that are absolute; an empty one is taken for the root. -/
theorem destination_expands_iff (lpath rpath : Bytes) (c : SyncConnection) :
    (∃ directoryList,
      (ensureTrailingSeparators lpath rpath >>= fun paths => remoteAncestors paths.2) c =
        ⟨.ok directoryList, c, [.back lpath, .back rpath]⟩ ∧
      (∃ k, isRootDir (dirname^[k] (withSeparator rpath)) = true) ∧
      Expands (withSeparator rpath) directoryList) ↔
    rpath = [] ∨ rpath.head? = some slash := by
  have hrun : (ensureTrailingSeparators lpath rpath >>= fun paths => remoteAncestors paths.2) c =
      (remoteAncestors (withSeparator rpath) c).after [.back lpath, .back rpath] := by
    simp [ensureTrailingSeparators]
  rw [← head_withSeparator_iff, hrun, ← exists_root_iff (withSeparator_ne_nil rpath)]
  constructor
  · rintro ⟨-, -, hroot, -⟩
    exact hroot
  · intro hroot
    have hhead := (exists_root_iff (withSeparator_ne_nil rpath)).mp hroot
    obtain ⟨-, directoryList, hexpands, hloop⟩ | ⟨hrelative, -⟩ :=
      remoteAncestors_runs (withSeparator rpath) (withSeparator_ne_nil rpath) c
    · exact ⟨directoryList, by rw [hloop]; rfl, hroot, hexpands⟩
    · exact absurd hhead hrelative

/-- A directory that is pushed to a relative destination never arrives. -/
theorem copyLocalDirRemote_hangs (env : SyncEnv) {lpath rpath : Bytes} (hne : rpath ≠ [])
    (hrelative : rpath.head? ≠ some slash) (tree : LocalTree) (checkTimes listOnly : Bool)
    (compression : CompressionType) (dryRun : Bool) (c : SyncConnection) :
    copyLocalDirRemote env lpath rpath tree checkTimes listOnly compression dryRun c =
      ⟨.error .hangs, c, [.back lpath, .back rpath]⟩ := by
  have hhead : ¬ (withSeparator rpath).head? = some slash := fun h =>
    ((head_withSeparator_iff rpath).mp h).elim hne hrelative
  obtain ⟨habsolute, -⟩ | ⟨-, hloop⟩ :=
    remoteAncestors_runs (withSeparator rpath) (withSeparator_ne_nil rpath) c
  · exact absurd habsolute hhead
  · have hresult : (remoteAncestors (withSeparator rpath) c).result = .error .hangs := by rw [hloop]
    rw [copyLocalDirRemote, ensureTrailingSeparators]
    simp only [Prog.bind_bind_apply, Prog.bind_emit_apply, Prog.bind_pure_apply,
      Prog.bind_apply_error hresult, hloop]
    rfl

/-- A directory is pushed to `foo`. -/
theorem relative_destination_hangs : ¬ ∀ (lpath rpath : Bytes) (c : SyncConnection),
    ∃ directoryList,
      (ensureTrailingSeparators lpath rpath >>= fun paths => remoteAncestors paths.2) c =
        ⟨.ok directoryList, c, [.back lpath, .back rpath]⟩ ∧
      (∃ k, isRootDir (dirname^[k] (withSeparator rpath)) = true) ∧
      Expands (withSeparator rpath) directoryList := by
  intro h
  obtain ⟨directoryList, hloop, -⟩ := h (lit "dir") (lit "foo") (.new [] [] fun _ => none)
  have hhangs : ((ensureTrailingSeparators (lit "dir") (lit "foo") >>= fun paths =>
      remoteAncestors paths.2) (.new [] [] fun _ => none)).result = .error .hangs := rfl
  rw [hloop] at hhangs
  cases hhangs

end AdbMobile.Sync
