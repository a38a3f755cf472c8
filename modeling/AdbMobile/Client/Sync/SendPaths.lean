import AdbMobile.Client.Sync.PushComplete

/-!
# The two ways to send a file

`SendSmallFile` writes one buffer that it has laid out by hand, and `SendLargeFileLegacy` writes a
request, a message for each `adb_read`, and the end. A receiver cannot tell which of them it was:
the request is the same, and the receive loop of `sync_recv_v1` makes the same file of the messages
after it (`send_paths_agree`), however the operating system cuts the file.

The receiver is the program of `Receive.lean`, run on the bytes that the sender has written. Its
round takes one message off the stream, and the induction is on the blocks that are left.
-/

namespace AdbMobile.Sync

open ByteString PosixPath

/-! ## What is written -/

/-- The messages that an event writes. -/
def SyncEvent.messages : SyncEvent → List SyncMessage
  | .wrote ms => ms
  | _ => []

/-- The messages that were written. -/
def messagesIn (t : List SyncEvent) : List SyncMessage := t.flatMap SyncEvent.messages

/-- The bytes that were written. -/
def writtenIn (t : List SyncEvent) : Bytes := (messagesIn t).flatMap SyncMessage.bytes

@[simp] theorem messagesIn_append (t t' : List SyncEvent) :
    messagesIn (t ++ t') = messagesIn t ++ messagesIn t' := List.flatMap_append ..

/-- The local file holds these bytes during the transfer: it is found and opened, and the reads give
the bytes, as many at a time as they like. -/
structure LocalFile.Holds (f : LocalFile) (content : Bytes) : Prop where
  stat : ∃ st, f.statAgain = .ok st
  opens : f.openError = none
  reads : ∀ block ∈ f.reads, block.length ≤ syncDataMax
  ends : f.readError = none
  content : f.blocks.flatten = content

/-- The function has failed with `ENAMETOOLONG`. -/
def FailsTooLong (o : Outcome SyncConnection SyncEvent SyncStop Bool) : Prop :=
  o.result = .ok false ∧ o.state.errno = .enametoolong

/-! ## What the receive loop makes of it -/

/-- The loop of `sync_recv_v1`. -/
def receiveLoop (env : SyncEnv) (rpath lpath : Bytes) : SyncM Bool := do
  let c ← Prog.get
  Prog.loop (fun _ => syncRecvV1Round env rpath lpath) false (c.input.length + 1) ()

/-- `sync_recv_v1` runs the loop once it has created the file. -/
theorem syncRecvV1_eq (env : SyncEnv) (rpath lpath : Bytes) :
    syncRecvV1 env rpath lpath = (do
      if ← sendRequest env .recvV1 rpath then
        adbUnlink lpath
        if ← adbCreat env lpath then receiveLoop env rpath lpath
        else
          error (lit "cannot create '" ++ lpath ++ lit "': " ++ (← strerrno env))
          return false
      else return false) := rfl

/-- The receive loop makes these contents of a stream and ends at its end, with a message `ID_DONE`
that has this time. The stream is read to the end, and the file can be written. -/
def Decodes (stream content : Bytes) (mtime : UInt32) : Prop :=
  ∀ (env : SyncEnv) (rpath lpath rest : Bytes) (c : SyncConnection),
    (∀ k, env.readError k = none) → (∀ k, env.localWrite k = none) →
    c.input = stream ++ rest → c.files lpath = some [] →
    Prog.Runs (receiveLoop env rpath lpath) c fun ok c' t =>
      ok = true ∧ c'.files lpath = some content ∧ c'.input = rest ∧
        ∃ t', t = t' ++ [.header SyncId.done.word mtime]

/-- The second word of the header of a message. -/
theorem wordAt_four (w w' : UInt32) : wordAt (wordBytes w ++ wordBytes w') 4 = w' :=
  wordOfBytes_wordBytes w'

/-- The size of a block that is not too large. -/
theorem blockSize_toNat {block : Bytes} (h : block.length ≤ syncDataMax) :
    (UInt32.ofNat block.length).toNat = block.length := by
  rw [UInt32.toNat_ofNat']
  exact Nat.mod_eq_of_lt (lt_of_le_of_lt h (by decide))

/-- A write to a local file succeeds where writes do. -/
theorem writeLocal_succeeds {env : SyncEnv} (hwrite : ∀ k, env.localWrite k = none)
    (lpath block : Bytes) (c : SyncConnection) :
    Prog.Runs (writeLocal env lpath block) c fun ok _ _ => ok = true := by
  refine nextCall_bind ?_
  rw [hwrite]
  exact ⟨true, rfl, rfl⟩

section Receive

variable {env : SyncEnv} (hread : ∀ k, env.readError k = none)

include hread

/-- A round takes the end off the stream, and stops. -/
theorem syncRecvV1Round_done (rpath lpath : Bytes) {rest : Bytes} {mtime : UInt32}
    {c : SyncConnection}
    (hinput : c.input = (SyncMessage.done mtime).bytes ++ rest) :
    Prog.Runs (syncRecvV1Round env rpath lpath) c fun r c' t =>
      r = .inr true ∧ c'.input = rest ∧ c'.files = c.files ∧
        t = [.header SyncId.done.word mtime] := by
  have hheader := readFdExactly_available hread hinput
  refine hheader.bind fun ⟨ok, msg⟩ c₁ t₁ ⟨hr, ht, hrest, hfiles⟩ => ?_
  obtain ⟨rfl, rfl⟩ := Prod.mk.inj hr
  subst ht
  have hid : wordAt (SyncMessage.done mtime).bytes 0 = SyncId.done.word := wordAt_zero ..
  have hsize : wordAt (SyncMessage.done mtime).bytes 4 = mtime := wordAt_four ..
  dsimp only
  rw [if_neg (by simp), hid, hsize, if_pos rfl]
  exact .emit_bind (.pure ⟨rfl, hrest, hfiles, rfl⟩)

/-- A round takes a message of data off the stream, writes its block, and asks for another round. -/
theorem syncRecvV1Round_data (hwrite : ∀ k, env.localWrite k = none) (rpath lpath : Bytes)
    {block rest : Bytes}
    {c : SyncConnection} (hblock : block.length ≤ syncDataMax)
    (hinput : c.input = (SyncMessage.data block).bytes ++ rest) :
    Prog.Runs (syncRecvV1Round env rpath lpath) c fun r c' _ =>
      r = .inl () ∧ c'.input = rest ∧ c'.files lpath = (c.files lpath).map (· ++ block) := by
  have hsplit : c.input = (wordBytes SyncId.data.word ++ wordBytes (.ofNat block.length)) ++
      (block ++ rest) := by
    rw [hinput, SyncMessage.bytes, List.append_assoc]
  refine (readFdExactly_available hread hsplit).bind fun ⟨ok, msg⟩ c₁ t₁ ⟨hr, ht, hrest,
    hfiles⟩ => ?_
  obtain ⟨rfl, rfl⟩ := Prod.mk.inj hr
  subst ht
  dsimp only
  rw [if_neg (by simp), wordAt_zero, wordAt_four, blockSize_toNat hblock]
  refine .emit_bind ?_
  rw [if_neg (by decide), if_neg (by simp), if_neg (Nat.not_lt.mpr hblock)]
  refine .emit_bind ((readFdExactly_available hread hrest).bind
    fun ⟨ok, data⟩ c₂ t₂ ⟨hr, ht, hrest₂, hfiles₂⟩ => ?_)
  obtain ⟨rfl, rfl⟩ := Prod.mk.inj hr
  subst ht
  dsimp only
  rw [if_neg (by simp)]
  refine .emit_bind ((writeLocal_runs env lpath data c₂).and
    (writeLocal_succeeds hwrite lpath data c₂) |>.bind fun ok c₃ t₃ ⟨⟨_, _, hin, hfile⟩, hok⟩ => ?_)
  subst hok
  refine .pure ⟨rfl, hin.trans hrest₂, ?_⟩
  rw [hfile rfl, hfiles₂, hfiles]

/-- The loop writes one block after another, and ends with what comes after the end. -/
theorem receiveBlocks_runs (hwrite : ∀ k, env.localWrite k = none) (rpath lpath rest : Bytes)
    (mtime : UInt32) (blocks : List Bytes) (hblocks : ∀ block ∈ blocks, block.length ≤ syncDataMax) :
    ∀ (fuel : ℕ) (c : SyncConnection) (w : Bytes), blocks.length < fuel →
      c.input = (blocks.map SyncMessage.data).flatMap SyncMessage.bytes ++
        ((SyncMessage.done mtime).bytes ++ rest) →
      c.files lpath = some w →
      Prog.Runs (Prog.loop (fun _ => syncRecvV1Round env rpath lpath) false fuel ()) c
        fun ok c' t => ok = true ∧ c'.files lpath = some (w ++ blocks.flatten) ∧ c'.input = rest ∧
          ∃ t', t = t' ++ [.header SyncId.done.word mtime] := by
  induction blocks with
  | nil =>
    intro fuel c w hfuel hinput hw
    obtain ⟨fuel, rfl⟩ := Nat.exists_eq_succ_of_ne_zero (Nat.ne_of_gt hfuel)
    have hround := syncRecvV1Round_done hread rpath lpath hinput
    refine hround.bind fun r c' t ⟨hr, hrest, hfiles, ht⟩ => ?_
    subst hr ht
    refine .pure ⟨rfl, ?_, hrest, [], rfl⟩
    rw [hfiles, hw, List.flatten_nil, List.append_nil]
  | cons block blocks ih =>
    intro fuel c w hfuel hinput hw
    obtain ⟨fuel, rfl⟩ := Nat.exists_eq_succ_of_ne_zero (Nat.ne_of_gt (Nat.zero_lt_of_lt hfuel))
    rw [List.map_cons, List.flatMap_cons, List.append_assoc] at hinput
    have hround := syncRecvV1Round_data hread hwrite rpath lpath
      (hblocks block List.mem_cons_self) hinput
    refine hround.bind fun r c' t ⟨hr, hrest, hfile⟩ => ?_
    subst hr
    -- The rest of the messages, onto what has been written.
    have hwritten : c'.files lpath = some (w ++ block) := by rw [hfile, hw, Option.map_some]
    have hmore := ih (fun b hb => hblocks b (List.mem_cons_of_mem block hb)) fuel c' (w ++ block)
      (Nat.lt_of_succ_lt_succ hfuel) hrest hwritten
    refine hmore.mono fun ok c'' t' ⟨hok, hfile', hin, t'', ht'⟩ => ⟨hok, ?_, hin, t ++ t'', ?_⟩
    · rw [hfile', List.flatten_cons, List.append_assoc]
    · rw [ht', List.append_assoc]

end Receive

/-- What the messages of a file are decoded to. -/
theorem decodes_blocks {blocks : List Bytes}
    (hblocks : ∀ block ∈ blocks, block.length ≤ syncDataMax)
    (mtime : UInt32) :
    Decodes ((blocks.map SyncMessage.data ++ [SyncMessage.done mtime]).flatMap SyncMessage.bytes) blocks.flatten
      mtime := by
  intro env rpath lpath rest c hread hwrite hinput hfile
  have hstream : c.input = (blocks.map SyncMessage.data).flatMap SyncMessage.bytes ++
      ((SyncMessage.done mtime).bytes ++ rest) := by
    rw [hinput, List.flatMap_append, List.flatMap_singleton, List.append_assoc]
  -- Each message has its header, so there are rounds enough.
  have hfuel : blocks.length < c.input.length + 1 := by
    have hlen : blocks.length ≤ ((blocks.map SyncMessage.data).flatMap SyncMessage.bytes).length := by
      clear hstream hinput hblocks
      induction blocks with
      | nil => exact Nat.zero_le _
      | cons block blocks ih =>
        have hheader : 1 ≤ (SyncMessage.data block).bytes.length := by
          simp [SyncMessage.bytes, wordBytes]
        rw [List.map_cons, List.flatMap_cons, List.length_append, List.length_cons]
        omega
    rw [hstream, List.length_append]
    omega
  exact receiveBlocks_runs hread hwrite rpath lpath rest mtime blocks hblocks _ c [] hfuel hstream
    hfile

/-! ## What the two functions write -/

section Send

variable (env : SyncEnv)

/-- The blocks are written one by one. -/
theorem sendBlocks_wrote (lpath rpath : Bytes) (blocks : List Bytes) : ∀ c,
    Prog.Ensures (sendBlocks env lpath rpath blocks) c fun _ _ t =>
      messagesIn t = blocks.map .data := by
  induction blocks with
  | nil => exact fun c => .pure rfl
  | cons block blocks ih =>
    intro c
    refine (writeOrDie_wrote env lpath rpath _ c).bind fun _ c₁ t₁ ⟨_, ht₁, _⟩ => ?_
    refine (ih c₁).mono fun _ c₂ t₂ ht₂ => ?_
    rw [messagesIn_append, ht₁, ht₂]
    rfl

/-- `SendSmallFile` writes everything at once, for a path that is not too long. -/
theorem sendSmallFile_wrote {path : Bytes} {mode : UInt32}
    (hpath : ¬ 1024 < (pathAndMode path mode).length) (lpath rpath : Bytes) (mtime : UInt32)
    (data : Bytes) (f : LocalFile) (c : SyncConnection) :
    Prog.Ensures (sendSmallFile env path mode lpath rpath mtime data false f) c fun ok _ t =>
      ok = true ∧
        messagesIn t = [.request .sendV1 (pathAndMode path mode), .data data, .done mtime] := by
  rw [sendSmallFile, if_neg Bool.false_ne_true, if_neg hpath]
  refine (writeOrDie_wrote env lpath rpath _ c).bind fun _ c₁ t₁ ⟨_, ht₁, _⟩ => ?_
  refine .bind (M := fun _ _ t => t = [.fileSent lpath rpath]) (fun _ _ => rfl)
    fun _ c₂ t₂ ht₂ => .pure ⟨rfl, ?_⟩
  rw [ht₁, ht₂]
  rfl

/-- A write to the device fails with its error. -/
theorem writeFdExactly_wrote (ms : List SyncMessage) (c : SyncConnection) :
    Prog.Runs (writeFdExactly env ms) c fun ok c' t =>
      (ok = true → messagesIn t = ms) ∧ (ok = false → ∃ k, env.writeError k = some c'.errno) := by
  refine nextCall_bind ?_
  cases herror : env.writeError c.calls with
  | some e => exact ⟨false, rfl, fun h => absurd h Bool.false_ne_true, fun _ => ⟨_, herror⟩⟩
  | none => exact ⟨true, rfl, fun _ => List.append_nil ms,
      fun h => absurd h.symm Bool.false_ne_true⟩

/-- `SendLargeFileLegacy` cannot write the request, or it writes the request, the file as it was
read, and the end. -/
theorem sendLargeFileLegacy_wrote {path : Bytes} {mode : UInt32}
    (hpath : ¬ 1024 < (pathAndMode path mode).length) (lpath rpath : Bytes) (mtime : UInt32)
    {f : LocalFile} {content : Bytes} (hf : f.Holds content) (c : SyncConnection) :
    Prog.Ensures (sendLargeFileLegacy env path mode lpath rpath mtime f) c fun ok c' t =>
      (ok = true ∧ messagesIn t = .request .sendV1 (pathAndMode path mode) ::
          (f.blocks.map .data ++ [.done mtime])) ∨
        (ok = false ∧ ∃ k, env.writeError k = some c'.errno) := by
  rw [sendLargeFileLegacy, sendRequest, if_neg hpath]
  refine (writeFdExactly_wrote env _ c).ensures.bind fun ok c₁ t₁ ⟨hwrote, herror⟩ => ?_
  cases ok with
  | false => exact fun ok hok => .inr ⟨(Except.ok.inj hok).symm, herror rfl⟩
  | true =>
    obtain ⟨st, hstat⟩ := hf.stat
    rw [if_neg (by simp), openLargeFile, hstat, hf.opens, hf.ends]
    refine (sendBlocks_wrote env lpath rpath f.blocks c₁).bind fun _ c₂ t₂ hblocks => ?_
    refine .bind (M := fun _ _ t => t = [.fileSent lpath rpath]) (fun _ _ => rfl)
      fun _ c₃ t₃ ht₃ => ?_
    refine (writeOrDie_wrote env lpath rpath _ c₃).mono fun ok c₄ t₄ ⟨hok, ht₄, _⟩ =>
      .inl ⟨hok, ?_⟩
    rw [messagesIn_append, messagesIn_append, messagesIn_append, hwrote rfl, hblocks, ht₃, ht₄]
    rfl

/-- `SendSmallFile` fails with `ENAMETOOLONG` for the paths that are too long. -/
theorem sendSmallFile_tooLong_iff (path : Bytes) (mode : UInt32) (lpath rpath : Bytes)
    (mtime : UInt32) (data : Bytes) (f : LocalFile) (c : SyncConnection) :
    FailsTooLong (sendSmallFile env path mode lpath rpath mtime data false f c) ↔
      1024 < (pathAndMode path mode).length := by
  constructor
  · intro ⟨hresult, _⟩
    by_contra hpath
    obtain ⟨hok, -⟩ := sendSmallFile_wrote env hpath lpath rpath mtime data f c false hresult
    exact absurd hok Bool.false_ne_true
  · intro hlong
    rw [sendSmallFile, if_neg Bool.false_ne_true, if_pos hlong]
    exact ⟨rfl, rfl⟩

/-- So does `SendLargeFileLegacy`, where no write fails in this way. -/
theorem sendLargeFileLegacy_tooLong_iff (hwrite : ∀ k, env.writeError k ≠ some .enametoolong)
    (path : Bytes) (mode : UInt32) (lpath rpath : Bytes) (mtime : UInt32) {f : LocalFile}
    {content : Bytes} (hf : f.Holds content) (c : SyncConnection) :
    FailsTooLong (sendLargeFileLegacy env path mode lpath rpath mtime f c) ↔
      1024 < (pathAndMode path mode).length := by
  constructor
  · intro ⟨hresult, herrno⟩
    by_contra hpath
    obtain ⟨hok, -⟩ | ⟨-, k, hk⟩ :=
      sendLargeFileLegacy_wrote env hpath lpath rpath mtime hf c false hresult
    · exact absurd hok Bool.false_ne_true
    · exact hwrite k (herrno ▸ hk)
  · intro hlong
    rw [sendLargeFileLegacy, sendRequest, if_pos hlong]
    exact ⟨rfl, rfl⟩

section Calm

variable {env} (hwrite : ∀ k, env.writeError k = none)

include hwrite

/-- Where writes succeed, `WriteOrDie` returns. -/
theorem writeOrDie_returns (lpath rpath : Bytes) (ms : List SyncMessage) (c : SyncConnection) :
    Prog.Runs (writeOrDie env lpath rpath ms) c fun ok _ _ => ok = true := by
  refine Prog.Runs.bind (M := fun ok _ _ => ok = true) ?_ fun ok c' t hok => ?_
  · refine nextCall_bind ?_
    rw [hwrite]
    exact ⟨true, rfl, rfl⟩
  · rw [if_pos hok]
    exact .pure rfl

theorem sendBlocks_returns (lpath rpath : Bytes) (blocks : List Bytes) : ∀ c,
    Prog.Runs (sendBlocks env lpath rpath blocks) c fun _ _ _ => True := by
  induction blocks with
  | nil => exact fun c => .pure trivial
  | cons block blocks ih =>
    exact fun c => (writeOrDie_returns hwrite lpath rpath _ c).bind fun _ c₁ _ _ => ih c₁

/-- Both functions return true then, for a path that is not too long. -/
theorem sendSmallFile_returns {path : Bytes} {mode : UInt32}
    (hpath : ¬ 1024 < (pathAndMode path mode).length) (lpath rpath : Bytes) (mtime : UInt32)
    (data : Bytes) (f : LocalFile) (c : SyncConnection) :
    Prog.Runs (sendSmallFile env path mode lpath rpath mtime data false f) c fun ok _ _ =>
      ok = true := by
  rw [sendSmallFile, if_neg Bool.false_ne_true, if_neg hpath]
  refine (writeOrDie_returns hwrite lpath rpath _ c).bind fun _ c₁ _ _ => ?_
  exact .bind (M := fun _ _ _ => True) ⟨(), rfl, trivial⟩ fun _ _ _ _ => .pure rfl

theorem sendLargeFileLegacy_returns {path : Bytes} {mode : UInt32}
    (hpath : ¬ 1024 < (pathAndMode path mode).length) (lpath rpath : Bytes) (mtime : UInt32)
    {f : LocalFile} {content : Bytes} (hf : f.Holds content) (c : SyncConnection) :
    Prog.Runs (sendLargeFileLegacy env path mode lpath rpath mtime f) c fun ok _ _ =>
      ok = true := by
  obtain ⟨st, hstat⟩ := hf.stat
  rw [sendLargeFileLegacy, sendRequest, if_neg hpath]
  refine Prog.Runs.bind (M := fun ok _ _ => ok = true) ?_ fun ok c₁ t₁ hok => ?_
  · refine nextCall_bind ?_
    rw [hwrite]
    exact ⟨true, rfl, rfl⟩
  · rw [hok, if_neg (by simp), openLargeFile, hstat, hf.opens, hf.ends]
    refine (sendBlocks_returns hwrite lpath rpath f.blocks c₁).bind fun _ c₂ _ _ => ?_
    exact .bind (M := fun _ _ _ => True) ⟨(), rfl, trivial⟩ fun _ c₃ _ _ =>
      writeOrDie_returns hwrite lpath rpath _ c₃

end Calm

end Send

/-! ## The same file -/

/-- The run has written this request and then messages that the receive loop makes this file of. -/
def TransfersAs (request content : Bytes) (mtime : UInt32) (t : List SyncEvent) : Prop :=
  ∃ messages, writtenIn t = request ++ messages ∧ Decodes messages content mtime

/-- A request and blocks of data, written one after another. -/
theorem transfersAs_of_blocks {path : Bytes} {blocks : List Bytes} {mtime : UInt32}
    {t : List SyncEvent} (hblocks : ∀ block ∈ blocks, block.length ≤ syncDataMax)
    (ht : messagesIn t = .request .sendV1 path :: (blocks.map .data ++ [.done mtime])) :
    TransfersAs (SyncMessage.request .sendV1 path).bytes blocks.flatten mtime t := by
  refine ⟨_, ?_, decodes_blocks hblocks mtime⟩
  rw [writtenIn, ht, List.flatMap_cons]

/-- The blocks of a file are no larger than the reads. -/
theorem LocalFile.Holds.blocks {f : LocalFile} {content : Bytes} (hf : f.Holds content) :
    ∀ block ∈ f.blocks, block.length ≤ syncDataMax := fun block hblock =>
  hf.reads block ((List.takeWhile_sublist _).subset hblock)

/-- The fast path and the slow one send the same file: they are refused for the same paths, they
write the same request, and what they write after it is decoded to the contents of the file and to
its time. Where the file is not a small one this holds of the slow path. -/
theorem send_paths_agree (env : SyncEnv) (hwrite : ∀ k, env.writeError k ≠ some .enametoolong)
    (path : Bytes) (mode : UInt32) (lpath rpath : Bytes) (mtime : UInt32) (f : LocalFile)
    (content : Bytes) (hf : f.Holds content) (c : SyncConnection) :
    (FailsTooLong (sendSmallFile env path mode lpath rpath mtime content false f c) ↔
      FailsTooLong (sendLargeFileLegacy env path mode lpath rpath mtime f c)) ∧
    (content.length < syncDataMax →
      (sendSmallFile env path mode lpath rpath mtime content false f c).result = .ok true →
        TransfersAs (SyncMessage.request .sendV1 (pathAndMode path mode)).bytes content mtime
          (sendSmallFile env path mode lpath rpath mtime content false f c).trace) ∧
    ((sendLargeFileLegacy env path mode lpath rpath mtime f c).result = .ok true →
      TransfersAs (SyncMessage.request .sendV1 (pathAndMode path mode)).bytes content mtime
          (sendLargeFileLegacy env path mode lpath rpath mtime f c).trace ∧
        ∀ block, .data block ∈
            messagesIn (sendLargeFileLegacy env path mode lpath rpath mtime f c).trace →
          block.length ≤ syncDataMax) ∧
    ((∀ k, env.writeError k = none) → ¬ 1024 < (pathAndMode path mode).length →
      (sendSmallFile env path mode lpath rpath mtime content false f c).result = .ok true ∧
        (sendLargeFileLegacy env path mode lpath rpath mtime f c).result = .ok true) := by
  -- A transfer that succeeds was not refused for its path.
  have hshort : ∀ o, o.result = .ok true →
      (FailsTooLong o ↔ 1024 < (pathAndMode path mode).length) →
      ¬ 1024 < (pathAndMode path mode).length := fun o hok hiff hlong => by
    have hfalse := hok.symm.trans (hiff.mpr hlong).1
    exact absurd (Except.ok.inj hfalse) (by decide)
  have hsmall := sendSmallFile_tooLong_iff env path mode lpath rpath mtime content f c
  have hlarge := sendLargeFileLegacy_tooLong_iff env hwrite path mode lpath rpath mtime hf c
  refine ⟨hsmall.trans hlarge.symm, fun hlen hok => ?_, fun hok => ?_, fun hcalm hpath => ?_⟩
  · have hpath := hshort _ hok hsmall
    obtain ⟨-, ht⟩ := sendSmallFile_wrote env hpath lpath rpath mtime content f c true hok
    -- The small file is one block, which fits as it is below the limit.
    have hone : ∀ block ∈ [content], block.length ≤ syncDataMax := fun block hblock => by
      rw [List.mem_singleton.mp hblock]
      omega
    have htransfers := transfersAs_of_blocks hone ht
    rwa [List.flatten_singleton] at htransfers
  · have hpath := hshort _ hok hlarge
    obtain ⟨-, ht⟩ | ⟨hfalse, -⟩ :=
      sendLargeFileLegacy_wrote env hpath lpath rpath mtime hf c true hok
    · refine ⟨hf.content ▸ transfersAs_of_blocks hf.blocks ht, fun block hblock => ?_⟩
      rw [ht] at hblock
      exact hf.blocks block (by simpa using hblock)
    · exact absurd hfalse (by decide)
  · obtain ⟨_, hok, rfl⟩ := sendSmallFile_returns hcalm hpath lpath rpath mtime content f c
    obtain ⟨_, hok', rfl⟩ := sendLargeFileLegacy_returns hcalm hpath lpath rpath mtime hf c
    exact ⟨hok, hok'⟩

/-- A file of three bytes that is read in two blocks. -/
def twoBlocks : LocalFile where
  target := .error .enoent
  stat := .ok ⟨sIfreg, 3, 0⟩
  contents := .ok [1, 2, 3]
  statAgain := .ok ⟨sIfreg, 3, 0⟩
  openError := none
  reads := [[1, 2], [3]]
  readError := none
  encodes _ := ⟨[], false⟩

theorem twoBlocks_holds : twoBlocks.Holds [1, 2, 3] where
  stat := ⟨_, rfl⟩
  opens := rfl
  reads := by decide
  ends := rfl
  content := rfl

/-- Its bytes go over the wire in one message or in two. -/
theorem twoBlocks_sent :
    TransfersAs (SyncMessage.request .sendV1 (pathAndMode (lit "f") 0o100644)).bytes [1, 2, 3] 7
      (sendSmallFile (.calm []) (lit "f") 0o100644 (lit "f") (lit "f") 7 [1, 2, 3] false twoBlocks
        (.new [] [] fun _ => none)).trace ∧
    TransfersAs (SyncMessage.request .sendV1 (pathAndMode (lit "f") 0o100644)).bytes [1, 2, 3] 7
      (sendLargeFileLegacy (.calm []) (lit "f") 0o100644 (lit "f") (lit "f") 7 twoBlocks
        (.new [] [] fun _ => none)).trace := by
  have hwrite : ∀ k, (SyncEnv.calm []).writeError k ≠ some .enametoolong := fun k h => by cases h
  obtain ⟨-, hsmall, hlarge, -⟩ := send_paths_agree (.calm []) hwrite (lit "f") 0o100644 (lit "f")
    (lit "f") 7 twoBlocks [1, 2, 3] twoBlocks_holds (.new [] [] fun _ => none)
  exact ⟨hsmall (by decide) (by decide +kernel), (hlarge (by decide +kernel)).1⟩

end AdbMobile.Sync
