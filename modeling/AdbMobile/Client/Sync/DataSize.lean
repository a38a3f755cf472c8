import AdbMobile.Client.Sync.SendPaths
import AdbMobile.Client.Sync.Emits

/-!
# The size of a message of data

A receiver takes at most `SYNC_DATA_MAX` bytes in a message. `sync_send` looks at the size that
`stat` reports, and sends a file that is to be smaller in one message; its bytes come from
`ReadFileToString`, which reads to the end of the file, however far that is by then. So a file that
grows, or one of `/proc`, whose size is 0, can go out in a message that every receiver refuses. All
other messages are cut from blocks that are small enough, and a file is sent safely exactly if it is
not one that is reported small and read as large (`data_fits_iff`).
-/

namespace AdbMobile.Sync

open ByteString PosixPath

/-- The message is one that a receiver takes. -/
def SyncMessage.Fits : SyncMessage → Prop
  | .data block => block.length ≤ syncDataMax
  | _ => True

/-- No message that was written carries too much, and so each size that was written is the number of
bytes behind it. -/
def DataFits (t : List SyncEvent) : Prop := ∀ m ∈ messagesIn t, m.Fits

/-- A message that fits says how many bytes it has. -/
theorem SyncMessage.Fits.size {block : Bytes} (h : (SyncMessage.data block).Fits) :
    (UInt32.ofNat block.length).toNat = block.length ∧ block.length ≤ syncDataMax :=
  ⟨blockSize_toNat h, h⟩

/-- What the calls on a file are bound to return: `readlink` and `adb_read` no more than there is
room for, `PATH_MAX` being at most 4096, and the encoder outputs of the size that it was made
for. -/
structure LocalFile.Bounded (f : LocalFile) : Prop where
  target : ∀ text, f.target = .ok text → text.length < 4096
  reads : ∀ block ∈ f.reads, block.length ≤ syncDataMax
  encodes : ∀ i, ∀ output ∈ (f.encodes i).outputs, output.length ≤ syncDataMax

/-- The file is one that `stat` reports small and that is read as too large. -/
def LocalFile.Outgrows (f : LocalFile) : Prop :=
  ∃ st data, f.stat = .ok st ∧ st.size < syncDataMax ∧ f.contents = .ok data ∧
    syncDataMax < data.length

/-- The file is sent as `SendSmallFile` sends it: it is no link, this is no dry run, and the path is
not too long. -/
def SentWhole (rpath : Bytes) (mode : UInt32) (dryRun : Bool) : Prop :=
  isLnk mode = false ∧ dryRun = false ∧ (pathAndMode rpath mode).length ≤ 1024

/-! ## Messages that are small enough -/

/-- All that a run writes fits. -/
abbrev WritesFit : SyncConnection → List SyncEvent → SyncConnection → Prop :=
  Emits SyncMessage.Fits fun _ => True

/-- The messages of a run are those of its events. -/
theorem WritesFit.dataFits {c c' : SyncConnection} {t : List SyncEvent} (h : WritesFit c t c') :
    DataFits t := fun m hm => by
  obtain ⟨e, he, hmem⟩ := List.mem_flatMap.mp hm
  have hallowed := h e he
  cases e with
  | wrote ms => exact hallowed m hmem
  | _ => exact absurd hmem List.not_mem_nil

/-- A message without data fits. -/
theorem SyncMessage.fits_of_isData {m : SyncMessage} (h : m.isData = false) : m.Fits := by
  cases m with
  | data => cases h
  | _ => trivial

/-- A file is sent in messages that fit, unless it is sent whole and has outgrown what was
reported. -/
theorem fits_syncSend (env : SyncEnv) (lpath rpath : Bytes) (mtime mode : UInt32) (sync : Bool)
    (compression : CompressionType) (dryRun : Bool) {f : LocalFile} (hf : f.Bounded)
    (hsafe : ¬ (SentWhole rpath mode dryRun ∧ f.Outgrows)) :
    Prog.Keeps WritesFit (syncSend env lpath rpath mtime mode sync compression dryRun f) := by
  have hP : ∀ m : SyncMessage, m.isData = false → m.Fits := fun _ => SyncMessage.fits_of_isData
  have htarget : ∀ target, f.target = .ok target → (SyncMessage.data (target ++ [0])).Fits := by
    -- The text of a link is far smaller than a message.
    intro target hlink
    have hlen := hf.target target hlink
    show (target ++ [0]).length ≤ syncDataMax
    rw [List.length_append, List.length_singleton, syncDataMax]
    omega
  refine emits_bind (emits_sameTimestamp env (fun _ _ _ _ => trivial) _ _ _ _) fun _ => .ite (fun _ => emits_pure true)
    fun _ => emits_bind (emits_sendFile env hP hf.reads hf.encodes _ _ _ _ _ _ htarget
      fun hlnk hdry hpath st data hstat hsize hcontents => ?_) fun _ =>
        .ite (fun _ => emits_readAcknowledgements env sync) fun _ => emits_pure false
  by_contra hlarge
  exact hsafe ⟨⟨hlnk, hdry, hpath⟩, st, data, hstat, hsize, hcontents, Nat.lt_of_not_le hlarge⟩

/-! ## The file that outgrows its size -/

/-- A device that says nothing, and lets everything be written. -/
def silentDevice : SyncConnection := .new [] [] fun _ => none

/-- It has no timestamp for a file. -/
theorem sameTimestamp_silent (sync : Bool) (lpath rpath : Bytes) (mtime : UInt32) :
    (sameTimestamp (.calm []) sync lpath rpath mtime silentDevice).result = .ok false := by
  cases sync with
  | false => rfl
  | true =>
    have hv1 : SyncEnv.haveStatV2 (.calm []) = false := by decide +kernel
    have hnone : (syncLstat (.calm []) rpath silentDevice).result = .ok none := by
      rw [syncLstat, sendLstat, if_neg (Bool.eq_false_iff.mp hv1), sendRequest]
      split
      · rfl
      · -- Nothing is read, and in memory there are zeros.
        rw [finishStat, if_neg (Bool.eq_false_iff.mp hv1)]
        rfl
    rw [sameTimestamp, if_pos rfl, Prog.bind_apply_ok hnone]
    rfl

/-- What has outgrown its size is written to it whole. -/
theorem outgrown_sent {lpath rpath : Bytes} {mtime mode : UInt32} {sync : Bool}
    {compression : CompressionType} {dryRun : Bool} {f : LocalFile}
    (hwhole : SentWhole rpath mode dryRun) (hf : f.Outgrows) :
    ¬ DataFits (syncSend (.calm []) lpath rpath mtime mode sync compression dryRun f
      silentDevice).trace := by
  obtain ⟨hlnk, rfl, hpath⟩ := hwhole
  obtain ⟨st, data, hstat, hsize, hcontents, hlarge⟩ := hf
  intro hfits
  -- The three messages of `SendSmallFile` are among what is written.
  have hsend : ∀ c, ∃ ok,
      (sendFile (.calm []) lpath rpath mtime mode compression false f c).result =
      .ok ok ∧ .data data ∈ messagesIn
        (sendFile (.calm []) lpath rpath mtime mode compression false f c).trace := by
    intro c
    rw [sendFile, if_neg (Bool.eq_false_iff.mp hlnk), hstat, hcontents]
    dsimp only
    rw [if_pos hsize]
    have hcalm : ∀ k, (SyncEnv.calm []).writeError k = none := fun _ => rfl
    obtain ⟨ok, hok, -⟩ :=
      sendSmallFile_returns hcalm (Nat.not_lt.mpr hpath) lpath rpath mtime data f c
    obtain ⟨-, ht⟩ :=
      sendSmallFile_wrote (.calm []) (Nat.not_lt.mpr hpath) lpath rpath mtime data f c ok hok
    exact ⟨ok, hok, by rw [ht]; simp⟩
  have hsame := sameTimestamp_silent sync lpath rpath mtime
  obtain ⟨ok, hok, hdata⟩ :=
    hsend (sameTimestamp (.calm []) sync lpath rpath mtime silentDevice).state
  obtain ⟨e, he, hmem⟩ := List.mem_flatMap.mp hdata
  have hwritten : e ∈ (syncSend (.calm []) lpath rpath mtime mode sync compression false f
      silentDevice).trace := Prog.mem_trace_bind hsame (Prog.mem_trace_bind_left he)
  have hblock := hfits (.data data) (List.mem_flatMap.mpr ⟨e, hwritten, hmem⟩)
  exact absurd hblock (Nat.not_le.mpr hlarge)

/-- In every run of `sync_send` on a file each message of data is one that a receiver takes, exactly
if the file is not sent whole or has not outgrown the size that was reported for it. -/
theorem data_fits_iff (lpath rpath : Bytes) (mtime mode : UInt32) (sync : Bool)
    (compression : CompressionType) (dryRun : Bool) (f : LocalFile) (hf : f.Bounded) :
    (∀ (env : SyncEnv) (c : SyncConnection),
      DataFits (syncSend env lpath rpath mtime mode sync compression dryRun f c).trace) ↔
    ¬ (SentWhole rpath mode dryRun ∧ f.Outgrows) := by
  constructor
  · intro hall ⟨hwhole, houtgrows⟩
    exact outgrown_sent hwhole houtgrows (hall (.calm []) silentDevice)
  · intro hsafe env c
    exact (fits_syncSend env lpath rpath mtime mode sync compression dryRun hf hsafe c).dataFits

/-- The calls on a small file keep their bounds. -/
theorem twoBlocks_bounded : twoBlocks.Bounded where
  target _ h := by cases h
  reads := by decide
  encodes _ _ h := absurd h List.not_mem_nil

/-- A small file is sent in messages that fit. -/
theorem twoBlocks_fits :
    DataFits (syncSend (.calm []) (lit "f") (lit "f") 7 0o100644 false .none false twoBlocks
      silentDevice).trace := by
  refine (data_fits_iff (lit "f") (lit "f") 7 0o100644 false .none false twoBlocks
    twoBlocks_bounded).mpr ?_ (.calm []) silentDevice
  rintro ⟨-, st, data, -, -, hcontents, hlarge⟩
  obtain rfl := Except.ok.inj hcontents
  exact absurd hlarge (by decide)

/-- A file of which `stat` says that it is empty, and of which one byte more is read than goes into
a message. -/
def virtualFile : LocalFile where
  target := .error .enoent
  stat := .ok ⟨sIfreg, 0, 0⟩
  contents := .ok (List.replicate (syncDataMax + 1) 0)
  statAgain := .ok ⟨sIfreg, 0, 0⟩
  openError := none
  reads := []
  readError := none
  encodes _ := ⟨[], false⟩

/-- It is sent in one message. -/
theorem virtualFile_not_fits :
    ¬ ∀ f : LocalFile, f.Bounded → ∀ (env : SyncEnv) (lpath rpath : Bytes) (mtime mode : UInt32)
      (sync : Bool) (compression : CompressionType) (dryRun : Bool) (c : SyncConnection),
        DataFits (syncSend env lpath rpath mtime mode sync compression dryRun f c).trace := by
  intro hall
  have hbounded : virtualFile.Bounded :=
    ⟨fun _ h => (by cases h), by decide, fun _ _ h => absurd h List.not_mem_nil⟩
  have hwhole : SentWhole (lit "f") 0o100644 false := by
    unfold SentWhole
    decide
  have houtgrows : virtualFile.Outgrows :=
    ⟨_, _, rfl, by decide, rfl, by rw [List.length_replicate]; exact Nat.lt_succ_self _⟩
  exact outgrown_sent hwhole houtgrows
    (hall virtualFile hbounded (.calm []) (lit "f") (lit "f") 7 0o100644 false .none false silentDevice)

end AdbMobile.Sync
