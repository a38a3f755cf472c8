import AdbMobile.Client.Sync.ReadBack

/-!
# Syncing a partition

`do_sync_sync` sends the files of a directory that differ in size or time from those on the device.
It is one source of a push whose timestamps are checked, so a receiver can follow it to its end
whatever happens to the files. Where it only lists what it would push it writes nothing but requests
for status, though the directories are made all the same (`sync_reads_back`).
-/

namespace AdbMobile.Sync

open ByteString

/-- The message asks for the status of a file. -/
def SyncMessage.isStat : SyncMessage → Bool
  | .request id _ => [SyncId.lstatV1, .statV2, .lstatV2].contains id
  | _ => false

/-- The event writes nothing but requests for status. -/
abbrev OnlyAsks : SyncEvent → Prop := SyncEvent.Allowed (·.isStat) fun _ => True

instance : AllowsWalk OnlyAsks where
  of_warning _ := trivial
  of_unexamined _ := trivial
  of_back _ _ := trivial

theorem onlyAsks_stat : AllowsStat fun m => m.isStat := fun _ hid _ _ =>
  List.contains_iff_mem.mpr hid

section Sync

variable (env : SyncEnv)

/-- `do_sync_sync`, on a valid connection. -/
def doSyncSync (lpath rpath : Bytes) (tree : LocalTree) (listOnly : Bool)
    (compression : CompressionType) (dryRun : Bool) : SyncM Bool :=
  copyLocalDirRemote env lpath rpath tree true listOnly compression dryRun

/-- Files that are only listed are not sent. -/
theorem onlyAsks_pushList (compression : CompressionType) (dryRun : Bool)
    (fileList : List Listed) :
    Prog.Keeps (EmitsOnly OnlyAsks) (pushList env true compression dryRun fileList) := by
  refine emits_bind (.allM emits_composes fun l _ => .ite (fun _ => emits_pure true) fun _ =>
    .ite (fun _ => ?_) fun hsend => absurd rfl hsend) fun ok =>
      .ite (fun _ => emits_readAcknowledgements env true) fun _ => emits_pure false
  exact emits_bind (emits_transfer rfl) fun _ => emits_bind (emits_transfer rfl) fun _ =>
    emits_pure true

theorem onlyAsks_doSyncSync (lpath rpath : Bytes) (tree : LocalTree)
    (compression : CompressionType) (dryRun : Bool) :
    Prog.Keeps (EmitsOnly OnlyAsks) (doSyncSync env lpath rpath tree true compression dryRun) :=
  emits_copyLocalDirRemote env (fun _ => trivial) onlyAsks_stat trivial trivial
    (onlyAsks_pushList env compression dryRun) tree true

end Sync

/-- A sync of a directory with one file, to a device that takes it. -/
def oneFileRun : Outcome SyncConnection SyncEvent SyncStop Bool :=
  doSyncSync (.calm []) (lit "a") (lit "/d")
    (.entry (lit "b") (.ok ⟨sIfreg, 3, 0⟩) twoBlocks .nil .nil) false .none false
    (.new (directoryDevice.input ++ wordBytes SyncId.okay.word ++ wordBytes 0) [] fun _ => none)

end AdbMobile.Sync
