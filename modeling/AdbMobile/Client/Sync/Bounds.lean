import AdbMobile.Client.Sync.Receive

/-!
# Lengths from the device

Five readers of the sync client size or fill a buffer by a length that the device sends: the two
receivers, `FinishLs`, `ReadAcknowledgements`, and `ReportCopyFailure`. All but the last check it
first. `ReportCopyFailure` makes room for the text and its NUL with 32-bit arithmetic, so a length
of `2^32 - 1` gets an empty buffer.

Every access of the readers is in range exactly when no message that a receiver has to report has
this length (`accesses_inRange_iff`).
-/

namespace AdbMobile.Sync

open ByteString PosixPath

/-- The access is in range: no more bytes are read than there is room for, and a byte is stored
inside the buffer. -/
def SyncEvent.InRange : SyncEvent → Prop
  | .fill capacity count => count ≤ capacity
  | .store capacity index => index < capacity
  | _ => True

/-- Every access is in range. -/
def InRange (t : List SyncEvent) : Prop := ∀ e ∈ t, e.InRange

/-- The header of a receiver is that of a message to report, with the greatest length. -/
def SyncEvent.Overruns : SyncEvent → Prop
  | .header id length =>
    id ≠ SyncId.done.word ∧ id ≠ SyncId.data.word ∧ length = 0xffffffff
  | _ => False

/-- No header is one of a message to report with the greatest length. -/
def NoOverrun (t : List SyncEvent) : Prop := ∀ e ∈ t, ¬ e.Overruns

/-- An event that is in range and no such header. -/
def SyncEvent.Neutral (e : SyncEvent) : Prop := e.InRange ∧ ¬ e.Overruns

/-- Every event of a run is neutral. -/
abbrev Neutrally (_ : SyncConnection) (t : List SyncEvent) (_ : SyncConnection) : Prop :=
  ∀ e ∈ t, e.Neutral

/-- The accesses of a run are in range exactly when its headers do not overrun. -/
abbrev Balanced (_ : SyncConnection) (t : List SyncEvent) (_ : SyncConnection) : Prop :=
  InRange t ↔ NoOverrun t

theorem neutrally_composes : Prog.Composes Neutrally := Prog.composes_forall SyncEvent.Neutral

theorem inRange_append (t t' : List SyncEvent) : InRange (t ++ t') ↔ InRange t ∧ InRange t' :=
  List.forall_mem_append

theorem noOverrun_append (t t' : List SyncEvent) :
    NoOverrun (t ++ t') ↔ NoOverrun t ∧ NoOverrun t' := List.forall_mem_append

theorem balanced_composes : Prog.Composes Balanced where
  nil _ := ⟨fun _ _ he => absurd he List.not_mem_nil, fun _ _ he => absurd he List.not_mem_nil⟩
  append h h' := (inRange_append _ _).trans ((and_congr h h').trans (noOverrun_append _ _).symm)

/-- Neutral runs are balanced. -/
theorem Neutrally.balanced {c c' : SyncConnection} {t : List SyncEvent} (h : Neutrally c t c') :
    Balanced c t c' :=
  ⟨fun _ e he => (h e he).2, fun _ e he => (h e he).1⟩

/-- The room that `ReportCopyFailure` makes suffices unless the length is the greatest. -/
theorem toNat_lt_succ_iff (msglen : UInt32) :
    msglen.toNat < (msglen + 1).toNat ↔ msglen ≠ 0xffffffff := by
  have hlt := msglen.toNat_lt
  have hone : (1 : UInt32).toNat = 1 := rfl
  have hmax : (0xffffffff : UInt32).toNat = 2 ^ 32 - 1 := rfl
  rw [UInt32.toNat_add, hone, Ne, ← UInt32.toNat_inj, hmax]
  omega

section Readers

variable (env : SyncEnv)

/-! ## The parts of the readers -/

theorem neutral_emit {e : SyncEvent} (he : e.Neutral) :
    Prog.Keeps Neutrally (Prog.emit e : SyncM Unit) :=
  fun _ _ hmem => List.mem_singleton.mp hmem ▸ he

/-- A change of the state emits nothing. -/
theorem neutral_modify (f : SyncConnection → SyncConnection) :
    Prog.Keeps Neutrally (Prog.modify f : SyncM Unit) :=
  fun _ _ hmem => absurd hmem List.not_mem_nil

theorem neutral_pure {α : Type} (a : α) : Prog.Keeps Neutrally (pure a : SyncM α) :=
  .pure neutrally_composes a

theorem neutral_bind {α β : Type} {p : SyncM α} {f : α → SyncM β} (hp : Prog.Keeps Neutrally p)
    (hf : ∀ a, Prog.Keeps Neutrally (f a)) : Prog.Keeps Neutrally (p >>= f) :=
  .bind neutrally_composes hp hf

theorem neutral_error (text : Bytes) : Prog.Keeps Neutrally (error text) :=
  neutral_emit ⟨trivial, not_false⟩

theorem neutral_strerrno : Prog.Keeps Neutrally (strerrno env) :=
  neutral_bind (.get neutrally_composes) fun _ => neutral_pure _

theorem neutral_nextCall : Prog.Keeps Neutrally nextCall :=
  neutral_bind (.get neutrally_composes) fun _ => neutral_bind (neutral_modify _) fun _ =>
    neutral_pure _

theorem neutral_readFdExactly (n : ℕ) : Prog.Keeps Neutrally (readFdExactly env n) := by
  intro c
  obtain ⟨_, -, htrace, -⟩ := readFdExactly_runs env n c
  rw [htrace]
  exact fun _ hmem => absurd hmem List.not_mem_nil

theorem neutral_adbRead (n : ℕ) : Prog.Keeps Neutrally (adbRead env n) := by
  refine neutral_bind neutral_nextCall fun k => neutral_bind (.get neutrally_composes) fun c => ?_
  split
  · exact neutral_bind (neutral_modify _) fun _ => neutral_pure _
  · dsimp only
    split
    · exact neutral_pure _
    · exact neutral_bind (neutral_modify _) fun _ => neutral_pure _

theorem neutral_writeFdExactly (ms : List SyncMessage) :
    Prog.Keeps Neutrally (writeFdExactly env ms) := by
  intro c
  obtain ⟨ok, -, htrace, -⟩ := writeFdExactly_runs env ms c
  rw [htrace]
  cases ok
  · exact fun _ hmem => absurd hmem List.not_mem_nil
  · exact fun _ hmem => List.mem_singleton.mp hmem ▸ ⟨trivial, not_false⟩

/-- A path that is too long is refused before anything is written. -/
theorem neutral_tooLong (text : Bytes) : Prog.Keeps Neutrally (do
    error text
    setErrno .enametoolong
    return false : SyncM Bool) :=
  neutral_bind (neutral_error _) fun _ => neutral_bind (neutral_modify _) fun _ => neutral_pure _

theorem neutral_sendRequest (id : SyncId) (path : Bytes) :
    Prog.Keeps Neutrally (sendRequest env id path) := by
  unfold sendRequest
  split
  · exact neutral_tooLong _
  · exact neutral_writeFdExactly env _

theorem neutral_sendRecv2 (path : Bytes) (compression : CompressionType) :
    Prog.Keeps Neutrally (sendRecv2 env path compression) := by
  unfold sendRecv2
  split
  · exact neutral_tooLong _
  · split
    · exact neutral_bind (neutral_emit ⟨trivial, not_false⟩) fun _ => neutral_writeFdExactly env _
    · exact neutral_writeFdExactly env _

theorem neutral_adbUnlink (path : Bytes) : Prog.Keeps Neutrally (adbUnlink path) :=
  neutral_bind (neutral_emit ⟨trivial, not_false⟩) fun _ => neutral_modify _

theorem neutral_unlinkAndFail {α : Type} (path : Bytes) :
    Prog.Keeps Neutrally (unlinkAndFail (α := α) path) :=
  neutral_bind (neutral_adbUnlink path) fun _ => neutral_pure _

theorem neutral_adbCreat (path : Bytes) : Prog.Keeps Neutrally (adbCreat env path) := by
  refine neutral_bind neutral_nextCall fun k =>
    neutral_bind (neutral_emit ⟨trivial, not_false⟩) fun _ => ?_
  split
  · exact neutral_bind (neutral_modify _) fun _ => neutral_pure _
  · exact neutral_bind (neutral_modify _) fun _ =>
      neutral_bind (neutral_emit ⟨trivial, not_false⟩) fun _ => neutral_pure _

theorem neutral_writeLocal (path block : Bytes) :
    Prog.Keeps Neutrally (writeLocal env path block) := by
  have happend : ∀ block, Prog.Keeps Neutrally (appendFile path block) := fun block =>
    neutral_bind (.get neutrally_composes) fun _ => neutral_modify _
  refine neutral_bind neutral_nextCall fun k => ?_
  split
  · exact neutral_bind (happend _) fun _ => neutral_bind (neutral_modify _) fun _ => neutral_pure _
  · exact neutral_bind (happend _) fun _ => neutral_pure _

/-- An error of a local write, and the file given up. -/
theorem neutral_cannotWrite {α : Type} (lpath text : Bytes) (a : α) :
    Prog.Keeps Neutrally (do
      error (text ++ (← strerrno env))
      adbUnlink lpath
      return a : SyncM α) :=
  neutral_bind (neutral_strerrno env) fun _ => neutral_bind (neutral_error _) fun _ =>
    neutral_bind (neutral_adbUnlink lpath) fun _ => neutral_pure _

theorem neutral_decodeLoop (lpath : Bytes) : Prog.Keeps Neutrally (decodeLoop env lpath) := by
  refine neutral_bind (.get neutrally_composes) fun c => .loop neutrally_composes (fun _ => ?_) _ _
  refine neutral_bind (p := decode) (neutral_bind (.get neutrally_composes) fun _ =>
    neutral_bind (neutral_modify _) fun _ => neutral_pure _) fun ⟨result, output⟩ => ?_
  dsimp only
  split
  · exact neutral_bind (neutral_error _) fun _ =>
      neutral_bind (neutral_adbUnlink lpath) fun _ => neutral_pure _
  · have hwrite : Prog.Keeps Neutrally (writeOutput env lpath output) := by
      unfold writeOutput
      split
      · exact neutral_pure _
      · exact neutral_writeLocal env lpath output
    refine neutral_bind (neutral_emit ⟨trivial, not_false⟩) fun _ =>
      neutral_bind hwrite fun ok => ?_
    split
    · exact neutral_cannotWrite env lpath _ _
    · cases result <;> exact neutral_pure _

/-! ## The receivers -/

/-- `ReportCopyFailure` is neutral unless the length is the greatest. -/
theorem neutral_reportCopyFailure (lpath rpath : Bytes) {msglen : UInt32}
    (h : msglen ≠ 0xffffffff) : Prog.Keeps Neutrally (reportCopyFailure env lpath rpath msglen) := by
  have hlt := (toNat_lt_succ_iff msglen).mpr h
  refine neutral_bind (neutral_emit ⟨hlt.le, not_false⟩) fun _ =>
    neutral_bind (neutral_readFdExactly env _) fun ⟨ok, reason⟩ => ?_
  dsimp only
  split
  · exact neutral_bind (neutral_strerrno env) fun _ => neutral_error _
  · exact neutral_bind (neutral_emit ⟨hlt, not_false⟩) fun _ => neutral_error _

/-- `ReportCopyFailure` is in range exactly when the length is not the greatest. -/
theorem reportCopyFailure_inRange_iff (lpath rpath : Bytes) (msglen : UInt32) (c : SyncConnection) :
    InRange (reportCopyFailure env lpath rpath msglen c).trace ↔ msglen ≠ 0xffffffff := by
  constructor
  · rintro hrange rfl
    -- The first access reads into a buffer of no bytes.
    have hfill := hrange (.fill 0 0xffffffff) List.mem_cons_self
    exact absurd (show 0xffffffff ≤ 0 from hfill) (by decide)
  · exact fun h e he => (neutral_reportCopyFailure env lpath rpath h c e he).1

/-- Reporting the message of a header that is neither `ID_DONE` nor `ID_DATA`: the header overruns
exactly when the accesses do. -/
theorem balanced_report {α : Type} (rpath lpath : Bytes) {id size : UInt32} (a : α)
    (hdone : id ≠ SyncId.done.word) (hdata : id ≠ SyncId.data.word) :
    Prog.Keeps Balanced (do
      Prog.emit (.header id size)
      adbUnlink lpath
      reportCopyFailure env rpath lpath size
      return a : SyncM α) := by
  intro c
  by_cases hsize : size = 0xffffffff
  · -- Both sides fail: the first access after the two calls is out of range.
    subst hsize
    refine iff_of_false (fun hrange => ?_) (fun hno => ?_)
    · have hfill := hrange (.fill 0 0xffffffff) (by simp [adbUnlink, setFile, reportCopyFailure])
      exact absurd (show 0xffffffff ≤ 0 from hfill) (by decide)
    · exact hno _ List.mem_cons_self ⟨hdone, hdata, rfl⟩
  · have hheader : (SyncEvent.header id size).Neutral := ⟨trivial, fun h => hsize h.2.2⟩
    exact Neutrally.balanced (neutral_bind (neutral_emit hheader) (fun _ =>
      neutral_bind (neutral_adbUnlink lpath) fun _ =>
        neutral_bind (neutral_reportCopyFailure env rpath lpath hsize) fun _ => neutral_pure a) c)

theorem balanced_bind {α β : Type} {p : SyncM α} {f : α → SyncM β}
    (hp : Prog.Keeps Neutrally p) (hf : ∀ a, Prog.Keeps Balanced (f a)) :
    Prog.Keeps Balanced (p >>= f) :=
  .bind balanced_composes (fun c => (hp c).balanced) hf

theorem balanced_of_neutral {α : Type} {p : SyncM α} (hp : Prog.Keeps Neutrally p) :
    Prog.Keeps Balanced p := fun c => (hp c).balanced

/-- What follows a header that a receiver need not report. -/
theorem balanced_header {α : Type} {id size : UInt32} {p : SyncM α}
    (hid : id = SyncId.done.word ∨ id = SyncId.data.word) (hp : Prog.Keeps Neutrally p) :
    Prog.Keeps Balanced (do
      Prog.emit (.header id size)
      p) := by
  refine balanced_of_neutral (neutral_bind (neutral_emit ⟨trivial, fun h => ?_⟩) fun _ => hp)
  exact hid.elim h.1 h.2.1

theorem balanced_syncRecvV1Round (rpath lpath : Bytes) :
    Prog.Keeps Balanced (syncRecvV1Round env rpath lpath) := by
  refine balanced_bind (neutral_readFdExactly env _) fun ⟨ok, msg⟩ => ?_
  dsimp only
  split
  · exact balanced_of_neutral (neutral_unlinkAndFail lpath)
  by_cases hdone : wordAt msg 0 = SyncId.done.word
  · rw [if_pos hdone]
    exact balanced_header (.inl hdone) (neutral_pure _)
  by_cases hdata : wordAt msg 0 = SyncId.data.word
  · rw [if_neg hdone, if_neg (not_not.mpr hdata)]
    refine balanced_header (.inr hdata) ?_
    split
    · exact neutral_bind (neutral_error _) fun _ => neutral_unlinkAndFail lpath
    · rename_i hsize
      refine neutral_bind (neutral_emit ⟨Nat.not_lt.mp hsize, not_false⟩) fun _ =>
        neutral_bind (neutral_readFdExactly env _) fun ⟨ok, block⟩ => ?_
      dsimp only
      split
      · exact neutral_unlinkAndFail lpath
      refine neutral_bind (neutral_emit ⟨trivial, not_false⟩) fun _ =>
        neutral_bind (neutral_writeLocal env lpath block) fun ok => ?_
      split
      · exact neutral_pure _
      · exact neutral_bind (neutral_strerrno env) fun _ => neutral_bind (neutral_error _) fun _ =>
          neutral_unlinkAndFail lpath
  · rw [if_neg hdone, if_pos hdata]
    exact balanced_report env rpath lpath _ hdone hdata

theorem balanced_syncRecvV2Round (rpath lpath : Bytes) (finished : Bool) :
    Prog.Keeps Balanced (syncRecvV2Round env rpath lpath finished) := by
  refine balanced_bind (neutral_readFdExactly env _) fun ⟨ok, msg⟩ => ?_
  dsimp only
  have hdecode : ∀ k : Option Bool → SyncM (Bool ⊕ Bool), (∀ r, Prog.Keeps Neutrally (k r)) →
      Prog.Keeps Neutrally (decodeLoop env lpath >>= k) := fun _ hk =>
    neutral_bind (neutral_decodeLoop env lpath) hk
  split
  · exact balanced_of_neutral (neutral_unlinkAndFail lpath)
  by_cases hdone : wordAt msg 0 = SyncId.done.word
  · rw [if_pos hdone]
    refine balanced_header (.inl hdone) ?_
    split
    · exact neutral_bind (neutral_error _) fun _ => neutral_pure _
    · exact hdecode _ fun r => by cases r <;> exact neutral_pure _
  by_cases hdata : wordAt msg 0 = SyncId.data.word
  · rw [if_neg hdone, if_neg (not_not.mpr hdata)]
    refine balanced_header (.inr hdata) ?_
    split
    · exact neutral_bind (neutral_error _) fun _ => neutral_unlinkAndFail lpath
    · refine neutral_bind (neutral_emit ⟨le_rfl, not_false⟩) fun _ =>
        neutral_bind (neutral_readFdExactly env _) fun ⟨ok, block⟩ => ?_
      dsimp only
      split
      · exact neutral_unlinkAndFail lpath
      · exact hdecode _ fun r => by cases r <;> exact neutral_pure _
  · rw [if_neg hdone, if_pos hdata]
    exact balanced_report env rpath lpath _ hdone hdata

/-- A receiver around rounds that are balanced. -/
theorem balanced_receiver {α : Type} {lpath text : Bytes} {request : SyncM Bool}
    {body : α → SyncM (α ⊕ Bool)} {a : α} (hrequest : Prog.Keeps Neutrally request)
    (hbody : ∀ a, Prog.Keeps Balanced (body a)) :
    Prog.Keeps Balanced (do
      if ← request then
        adbUnlink lpath
        if ← adbCreat env lpath then
          let c ← Prog.get
          Prog.loop body false (c.input.length + 1) a
        else
          error (text ++ (← strerrno env))
          return false
      else return false) := by
  refine balanced_bind hrequest fun ok => ?_
  split
  · refine balanced_bind (neutral_adbUnlink lpath) fun _ =>
      balanced_bind (neutral_adbCreat env lpath) fun ok => ?_
    split
    · exact balanced_bind (.get neutrally_composes) fun c => .loop balanced_composes hbody _ _
    · exact balanced_of_neutral (neutral_bind (neutral_strerrno env) fun _ =>
        neutral_bind (neutral_error _) fun _ => neutral_pure _)
  · exact balanced_of_neutral (neutral_pure _)

theorem balanced_receive (receiver : Receiver) (rpath lpath : Bytes) :
    Prog.Keeps Balanced (receiver.run env rpath lpath) := by
  cases receiver with
  | v1 =>
    exact balanced_receiver env (neutral_sendRequest env _ _) fun _ =>
      balanced_syncRecvV1Round env rpath lpath
  | v2 compression =>
    exact balanced_receiver env (neutral_sendRecv2 env _ _) (balanced_syncRecvV2Round env rpath lpath)

/-! ## The readers that check the length -/

/-- `FinishLs` reads names of at most 255 bytes into 256. -/
theorem neutral_finishLs {β : Type} {callback : β → Dent → SyncM β}
    (hcallback : ∀ acc d, Prog.Keeps Neutrally (callback acc d)) (acc : β) :
    Prog.Keeps Neutrally (finishLs env callback acc) := by
  have hstart : Prog.Keeps Neutrally startReply :=
    neutral_bind (.get neutrally_composes) fun _ => neutral_emit ⟨trivial, not_false⟩
  refine neutral_bind hstart fun _ => neutral_bind (.get neutrally_composes) fun c =>
    .loop neutrally_composes (fun acc => ?_) _ _
  refine neutral_bind (neutral_readFdExactly env _) fun ⟨ok, dent⟩ => ?_
  dsimp only
  generalize (if env.haveLsV2 then wordAt dent 72 else wordAt dent 16).toNat = len
  generalize (if env.haveLsV2 then SyncId.dentV2.word else SyncId.dentV1.word) = expected
  by_cases hok : (!ok) = true
  · rw [if_pos hok]
    exact neutral_pure _
  rw [if_neg hok]
  by_cases hdone : wordAt dent 0 = SyncId.done.word
  · rw [if_pos hdone]
    exact neutral_pure _
  rw [if_neg hdone]
  by_cases hid : wordAt dent 0 ≠ expected
  · rw [if_pos hid]
    exact neutral_pure _
  rw [if_neg hid]
  by_cases hlen : 255 < len
  · rw [if_pos hlen]
    exact neutral_pure _
  rw [if_neg hlen]
  -- A name that is not refused fits, and so does the NUL behind it.
  have hfill : (SyncEvent.fill 256 len).Neutral := ⟨show len ≤ 256 by omega, not_false⟩
  have hstore : (SyncEvent.store 256 len).Neutral := ⟨show len < 256 by omega, not_false⟩
  refine neutral_bind (neutral_emit hfill) fun _ =>
    neutral_bind (neutral_readFdExactly env _) fun ⟨ok, buf⟩ => ?_
  dsimp only
  split
  · exact neutral_pure _
  refine neutral_bind (neutral_emit hstore) fun _ => ?_
  split
  · exact neutral_pure _
  · exact neutral_bind (hcallback _ _) fun _ => neutral_pure _

/-- `read_until_amount` stays inside the buffer's room for a response of the greatest length. -/
theorem neutral_readUntilAmount (shouldBlock : Bool) {amount : ℕ}
    (hamount : amount ≤ syncStatusSize + syncDataMax) :
    Prog.Keeps Neutrally (readUntilAmount env shouldBlock amount) := by
  refine .loop neutrally_composes (fun _ => ?_) _ _
  refine neutral_bind (.get neutrally_composes) fun c => ?_
  have hmay : Prog.Keeps Neutrally (mayRead env shouldBlock) := by
    unfold mayRead
    split
    · exact neutral_pure _
    · exact neutral_bind neutral_nextCall fun _ => neutral_pure _
  split
  · exact neutral_pure _
  refine neutral_bind hmay fun ready => ?_
  split
  · exact neutral_pure _
  refine neutral_bind (neutral_emit ⟨Nat.sub_le_sub_right hamount _, not_false⟩) fun _ =>
    neutral_bind (neutral_adbRead env _) fun read => ?_
  cases read with
  | none => exact neutral_bind (neutral_error _) fun _ => neutral_pure _
  | some read =>
    refine neutral_bind (neutral_modify _) fun _ => ?_
    split
    · exact neutral_pure _
    · exact neutral_pure _

/-- `ReadAcknowledgements` refuses a length above `SYNC_DATA_MAX` before it reads the text. -/
theorem neutral_readAcknowledgements (readAll : Bool) :
    Prog.Keeps Neutrally (readAcknowledgements env readAll) := by
  have hpop : Prog.Keeps Neutrally popDeferred :=
    neutral_bind (.get neutrally_composes) fun _ => neutral_bind (neutral_modify _) fun _ =>
      neutral_pure _
  refine neutral_bind (.get neutrally_composes) fun c => .loop neutrally_composes (fun _ => ?_) _ _
  refine neutral_bind (.get neutrally_composes) fun c => ?_
  split
  · exact neutral_pure _
  refine neutral_bind (neutral_readUntilAmount env _ (Nat.le_add_right _ _)) fun status => ?_
  cases status with
  | tryLater => exact neutral_pure _
  | failure => exact neutral_pure _
  | success =>
    refine neutral_bind (.get neutrally_composes) fun c => ?_
    dsimp only
    split
    · refine neutral_bind (neutral_modify _) fun _ => ?_
      split
      · exact neutral_bind (neutral_error _) fun _ => neutral_pure _
      · exact neutral_bind (neutral_bind hpop fun _ => neutral_emit ⟨trivial, not_false⟩) fun _ =>
          neutral_pure _
    split
    · exact neutral_bind (neutral_error _) fun _ => neutral_pure _
    split
    · exact neutral_bind (neutral_error _) fun _ => neutral_pure _
    -- The buffer has room for a status and the longest text that is not refused.
    rename_i hlen
    refine neutral_bind (neutral_readUntilAmount env _ (by omega)) fun status => ?_
    cases status with
    | tryLater => exact neutral_pure _
    | failure => exact neutral_pure _
    | success =>
      refine neutral_bind (.get neutrally_composes) fun c => ?_
      refine neutral_bind (neutral_bind hpop fun _ => neutral_bind (neutral_error _) fun _ =>
        neutral_emit ⟨trivial, not_false⟩) fun _ => neutral_bind (neutral_modify _) fun _ =>
          neutral_pure _

end Readers

/-- The accesses of the five readers are in range, for every reply of the device, except those of
`ReportCopyFailure` for a text of `2^32 - 1` bytes, which a receiver reaches with a header that is
neither `ID_DONE` nor `ID_DATA`. -/
theorem accesses_inRange_iff (env : SyncEnv) (c : SyncConnection) :
    (∀ (receiver : Receiver) (rpath lpath : Bytes),
      InRange (receiver.run env rpath lpath c).trace ↔
        NoOverrun (receiver.run env rpath lpath c).trace) ∧
    InRange (finishLs env (fun dents d => return dents ++ [d]) [] c).trace ∧
    (∀ readAll, InRange (readAcknowledgements env readAll c).trace) ∧
    ∀ (lpath rpath : Bytes) (msglen : UInt32),
      InRange (reportCopyFailure env lpath rpath msglen c).trace ↔ msglen ≠ 0xffffffff := by
  refine ⟨fun receiver rpath lpath => balanced_receive env receiver rpath lpath c, fun e he => ?_,
    fun readAll e he => (neutral_readAcknowledgements env readAll c e he).1,
    fun lpath rpath msglen => reportCopyFailure_inRange_iff env lpath rpath msglen c⟩
  exact (neutral_finishLs env (fun _ _ => neutral_pure _) [] c e he).1

/-- A device that answers a request for a file with the greatest length, and goes on sending. -/
def greatestLength : SyncConnection :=
  .new (wordBytes SyncId.fail.word ++ wordBytes 0xffffffff ++ [1, 2, 3]) [] fun _ => none

/-- `sync_recv_v1` then reads `2^32 - 1` bytes into a buffer of none. -/
theorem access_out_of_range :
    ¬ ∀ (env : SyncEnv) (receiver : Receiver) (rpath lpath : Bytes) (c : SyncConnection),
      InRange (receiver.run env rpath lpath c).trace := by
  intro hall
  have hrange := hall (.calm []) .v1 (lit "/sdcard/f") (lit "f") greatestLength
    (.fill 0 0xffffffff) (by decide +kernel)
  exact absurd (show 0xffffffff ≤ 0 from hrange) (by decide)

end AdbMobile.Sync
