import AdbMobile.Lib.Monitor
import AdbMobile.Lib.Dialect
import AdbMobile.Client.Sync.SendPaths
import AdbMobile.Client.Sync.PullEmits

/-!
# The phases of the sync protocol

The messages of the sync protocol are not all framed alike, and what the words of a message mean
only the messages before it say. A receiver can read what a client has written as long as it is in
the phase in which the client takes it to be (`SyncPhase`).

So a program of the client is seen from the other side here: `Follows q p Q` says that a receiver in
the phase `q` can follow all messages that `p` writes, and that the value of `p` and the phase after
it meet `Q`. Most of what the client does leaves the phase (`Stays`).
-/

namespace AdbMobile.Sync

open ByteString PosixPath

/-! ## The phases of a receiver -/

/-- What a receiver expects next. -/
inductive SyncPhase
  /-- A request. -/
  | idle
  /-- The `send_v2_setup` after a request of `ID_SEND_V2`. -/
  | sendSetup
  /-- The `recv_v2_setup` after one of `ID_RECV_V2`. -/
  | recvSetup
  /-- The data of a file, or its end. -/
  | receiving
  deriving DecidableEq, Repr

/-- The length of the string is one that is written in full. -/
abbrev Sized (s : Bytes) : Prop := s.length < 2 ^ 32

/-- The phase after a request. -/
def SyncId.phase : SyncId → SyncPhase
  | .sendV1 => .receiving
  | .sendV2 => .sendSetup
  | .recvV2 => .recvSetup
  | _ => .idle

/-- The phase after a message, and `none` for one that may not come. -/
def SyncPhase.next : SyncPhase → SyncMessage → Option SyncPhase
  | .idle, .request id path => if Sized path then some id.phase else none
  | .sendSetup, .sendV2Setup _ _ => some .receiving
  | .recvSetup, .recvV2Setup _ => some .idle
  | .receiving, .data block => if Sized block then some .receiving else none
  | .receiving, .done _ => some .idle
  | _, _ => none

theorem SyncPhase.next_request {id : SyncId} {path : Bytes} (h : Sized path) :
    SyncPhase.idle.next (.request id path) = some id.phase := if_pos h

theorem SyncPhase.next_data {block : Bytes} (h : Sized block) :
    SyncPhase.receiving.next (.data block) = some .receiving := if_pos h

/-- The id with this word. -/
def SyncId.ofWord (w : UInt32) : Option SyncId :=
  [.lstatV1, .statV2, .lstatV2, .listV1, .listV2, .dentV1, .dentV2, .sendV1, .sendV2, .recvV1,
    .recvV2, .done, .data, .okay, .fail, .quit].find? fun id => id.word = w

/-- A structure of two words, and what comes behind it. -/
def readWords (mem : Bytes) : Option (UInt32 × UInt32 × Bytes) :=
  if mem.length < syncStatusSize then none else some (wordAt mem 0, wordAt mem 4, mem.drop 8)

/-- As many bytes as a word says, and what comes behind them. -/
def readBody (n : UInt32) (mem : Bytes) : Option (Bytes × Bytes) :=
  if mem.length < n.toNat then none else some (mem.take n.toNat, mem.drop n.toNat)

/-- Reads the message that comes next. -/
def SyncPhase.read (q : SyncPhase) (mem : Bytes) : Option (SyncMessage × Bytes) := do
  let (word, n, rest) ← readWords mem
  match q with
  | .idle =>
    let id ← SyncId.ofWord word
    let (path, rest) ← readBody n rest
    return (.request id path, rest)
  | .sendSetup =>
    if word = SyncId.sendV2.word ∧ 4 ≤ rest.length then
      return (.sendV2Setup n (wordAt rest 0), rest.drop 4)
    else none
  | .recvSetup => if word = SyncId.recvV2.word then return (.recvV2Setup n, rest) else none
  | .receiving =>
    if word = SyncId.data.word then
      let (block, rest) ← readBody n rest
      return (.data block, rest)
    else if word = SyncId.done.word then return (.done n, rest)
    else none

theorem SyncId.ofWord_word (id : SyncId) : ofWord id.word = some id := by
  cases id <;> decide +kernel

theorem readWords_append (w w' : UInt32) (rest : Bytes) :
    readWords (wordBytes w ++ (wordBytes w' ++ rest)) = some (w, w', rest) := by
  have hlen : ¬ (wordBytes w ++ (wordBytes w' ++ rest)).length < syncStatusSize := by
    simp only [List.length_append, wordBytes, List.length_cons, List.length_nil, syncStatusSize]
    omega
  have hfirst : wordAt (wordBytes w ++ (wordBytes w' ++ rest)) 0 = w := wordAt_zero w _
  have hsecond : wordAt (wordBytes w ++ (wordBytes w' ++ rest)) 4 = w' := wordOfBytes_wordBytes w'
  rw [readWords, if_neg hlen, hfirst, hsecond]
  rfl

theorem readBody_append {body : Bytes} (h : Sized body) (rest : Bytes) :
    readBody (.ofNat body.length) (body ++ rest) = some (body, rest) := by
  have hlen : (UInt32.ofNat body.length).toNat = body.length := by
    rw [UInt32.toNat_ofNat']
    exact Nat.mod_eq_of_lt h
  rw [readBody, hlen, if_neg (by simp), List.take_left, List.drop_left]

/-- A message that may come is read back. -/
theorem SyncPhase.read_bytes {q q' : SyncPhase} {m : SyncMessage} (h : q.next m = some q')
    (rest : Bytes) : q.read (m.bytes ++ rest) = some (m, rest) := by
  -- In each phase only the messages are left that may come.
  cases q <;> cases m <;> simp only [next, reduceCtorEq] at h
  case idle.request id path =>
    have hsized : Sized path := by
      by_contra hn
      rw [if_neg hn] at h
      cases h
    simp only [SyncMessage.bytes, List.append_assoc, read, readWords_append]
    simp [SyncId.ofWord_word, readBody_append hsized]
  case sendSetup.sendV2Setup mode flags =>
    have hflags : wordAt (wordBytes flags ++ rest) 0 = flags := wordAt_zero flags _
    have hdrop : (wordBytes flags ++ rest).drop 4 = rest := rfl
    have hlen : 4 ≤ (wordBytes flags ++ rest).length := by simp [wordBytes]
    simp only [SyncMessage.bytes, List.append_assoc, read, readWords_append]
    show (if SyncId.sendV2.word = SyncId.sendV2.word ∧ 4 ≤ (wordBytes flags ++ rest).length then
      some (SyncMessage.sendV2Setup mode (wordAt (wordBytes flags ++ rest) 0),
        (wordBytes flags ++ rest).drop 4) else none) = _
    rw [if_pos ⟨rfl, hlen⟩, hflags, hdrop]
  case recvSetup.recvV2Setup flags =>
    simp only [SyncMessage.bytes, List.append_assoc, read, readWords_append]
    simp
  case receiving.data block =>
    have hsized : Sized block := by
      by_contra hn
      rw [if_neg hn] at h
      cases h
    simp only [SyncMessage.bytes, List.append_assoc, read, readWords_append]
    simp [readBody_append hsized]
  case receiving.done mtime =>
    have hne : SyncId.done.word ≠ SyncId.data.word := by decide +kernel
    simp only [SyncMessage.bytes, List.append_assoc, read, readWords_append]
    simp [hne]

/-- The messages of the client, as a receiver reads them that keeps to the phases. -/
def syncDialect : Stream.Dialect SyncPhase SyncMessage UInt8 where
  next := SyncPhase.next
  write := SyncMessage.bytes
  read := SyncPhase.read
  read_write _ _ _ rest h := SyncPhase.read_bytes h rest
  read_nil _ := rfl

/-! ## Programs and phases -/

/-- The phase after what an event writes. -/
def SyncPhase.after (q : SyncPhase) (e : SyncEvent) : Option SyncPhase :=
  Run.run SyncPhase.next q e.messages

/-- The phases of a run are those of its messages. -/
theorem run_after (t : List SyncEvent) : ∀ q,
    Run.run SyncPhase.after q t = Run.run SyncPhase.next q (messagesIn t) := by
  induction t with
  | nil => exact fun _ => rfl
  | cons e t ih =>
    intro q
    rw [messagesIn, List.flatMap_cons, Run.run_append, Run.run]
    exact congrArg _ (funext ih)

/-- The event leaves the receiver in its phase. -/
def Stays (q : SyncPhase) (e : SyncEvent) : Prop := q.after e = some q

theorem stays_back (q : SyncPhase) (s : Bytes) : Stays q (.back s) := rfl

instance (q : SyncPhase) : AllowsTransfer (Stays q) where
  of_transfer e he := by
    cases e with
    | wrote => cases he
    | _ => rfl

instance (q : SyncPhase) : AllowsWalk (Stays q) where
  of_warning _ := rfl
  of_unexamined _ := rfl
  of_back _ _ := rfl

instance (q : SyncPhase) : AllowsWrites (fun m => q.next m = some q) (Stays q) where
  of_wrote ms hms := by
    show Run.run SyncPhase.next q ms = some q
    induction ms with
    | nil => rfl
    | cons m ms ih =>
      rw [Run.run, hms m List.mem_cons_self]
      exact ih fun m' hm' => hms m' (List.mem_cons_of_mem m hm')

/-- A path that `SendRequest` does not refuse. -/
theorem sized_of_le {path : Bytes} (h : path.length ≤ 1024) : Sized path :=
  lt_of_le_of_lt h (by decide)

/-- A request that announces nothing is answered at once. -/
theorem SyncPhase.idle_request {id : SyncId} {path : Bytes} (hid : id.phase = .idle)
    (hpath : path.length ≤ 1024) : SyncPhase.idle.next (.request id path) = some .idle := by
  rw [next_request (sized_of_le hpath), hid]

/-- So are those for the status of a file. -/
theorem idle_allowsStat : AllowsStat fun m => SyncPhase.idle.next m = some .idle := by
  intro id hid path hpath
  simp only [List.mem_cons, List.not_mem_nil, or_false] at hid
  obtain rfl | rfl | rfl := hid <;> exact SyncPhase.idle_request rfl hpath

instance : AllowsPull (fun m => SyncPhase.idle.next m = some .idle) (Stays .idle) where
  of_local e he := by
    cases e with
    | wrote | back => cases he
    | _ => rfl
  stat := idle_allowsStat
  of_request id hid path hpath := by
    simp only [List.mem_cons, List.not_mem_nil, or_false] at hid
    obtain rfl | rfl | rfl := hid <;> exact SyncPhase.idle_request rfl hpath
  of_recvV2 path flags hpath := by
    show Run.run SyncPhase.next .idle [.request .recvV2 path, .recvV2Setup flags] = some .idle
    rw [Run.run, SyncPhase.next_request (sized_of_le hpath)]
    rfl

/-- The receiver follows what a program writes, from a phase to one of which `Q` holds. -/
abbrev Follows {α : Type} (q : SyncPhase) (p : SyncM α) (Q : α → SyncPhase → Prop) : Prop :=
  Prog.Drives SyncPhase.after q p Q

section Follows

variable {α β : Type} {q : SyncPhase} {p : SyncM α} {Q : β → SyncPhase → Prop}

theorem follows_of_emits (h : Prog.Keeps (EmitsOnly (Stays q)) p) :
    Follows q p fun _ q' => q' = q := .quiet fun c => h c

/-- Nothing of what comes first concerns the receiver. -/
theorem follows_bind {f : α → SyncM β} (h : Prog.Keeps (EmitsOnly (Stays q)) p)
    (hf : ∀ a, Follows q (f a) Q) : Follows q (p >>= f) Q :=
  .bind (follows_of_emits h) fun a _ hq => hq ▸ hf a

/-- The same, where more is known of its value. -/
theorem follows_bind_of_yields {f : α → SyncM β} {M : α → Prop}
    (h : Prog.Keeps (EmitsOnly (Stays q)) p) (hM : Prog.Yields p M)
    (hf : ∀ a, M a → Follows q (f a) Q) : Follows q (p >>= f) Q :=
  .bind ((follows_of_emits h).and hM) fun a _ ⟨hq, ha⟩ => hq ▸ hf a ha

end Follows

/-! ## Writes -/

section Writes

variable (env : SyncEnv)

/-- Messages that may come are followed if they are written. -/
theorem follows_writeFdExactly {q q' : SyncPhase} {ms : List SyncMessage}
    (h : Run.run SyncPhase.next q ms = some q') :
    Follows q (writeFdExactly env ms) fun ok q₁ => q₁ = if ok then q' else q := fun c => by
  obtain ⟨ok, hok, htrace, -⟩ := writeFdExactly_runs env ms c
  refine ⟨if ok then q' else q, ?_, fun a ha => ?_⟩
  · rw [htrace, run_after]
    cases ok with
    | false => rfl
    | true => simpa [messagesIn, SyncEvent.messages] using h
  · rw [Except.ok.inj (hok.symm.trans ha)]

/-- `WriteOrDie` returns only if it has written. -/
theorem follows_writeOrDie {q q' : SyncPhase} (lpath rpath : Bytes) {ms : List SyncMessage}
    (h : Run.run SyncPhase.next q ms = some q') :
    Follows q (writeOrDie env lpath rpath ms) fun _ q₁ => q₁ = q' := by
  have hexit : Follows q (Prog.exit (.exited 1) : SyncM Bool) fun _ q₁ => q₁ = q' := .exit _
  refine .bind (follows_writeFdExactly env h) fun ok q₁ hq₁ => .ite (fun hok => .pure ?_)
    fun hok => ?_
  · rw [hq₁, if_pos hok]
  -- Nothing was written, and what is still done ends the process.
  · obtain rfl : q₁ = q := by rw [hq₁, if_neg hok]
    refine follows_bind emits_get fun c => .ite (fun _ => ?_) fun _ => ?_
    · refine follows_bind (emits_readFdExactly env _) fun ⟨ok, msg⟩ => .ite (fun _ => ?_)
        fun _ => ?_
      · exact follows_bind (emits_strerrno env) fun _ => follows_bind (emits_error _) fun _ => hexit
      · refine follows_bind (emits_transfer rfl) fun _ => .ite (fun _ => ?_) fun _ => ?_
        · exact follows_bind (emits_error _) fun _ => hexit
        · exact follows_bind (emits_reportCopyFailure env _ _ _) fun _ => hexit
    · exact follows_bind (emits_strerrno env) fun _ => follows_bind (emits_error _) fun _ => hexit

theorem follows_sendRequest (id : SyncId) (path : Bytes) :
    Follows .idle (sendRequest env id path) fun ok q' => q' = if ok then id.phase else .idle := by
  refine .ite (fun _ => ?_) fun hle => follows_writeFdExactly env ?_
  · exact follows_bind (emits_error _) fun _ => follows_bind (emits_setErrno _) fun _ => .pure rfl
  · have hsized : Sized path := sized_of_le (Nat.not_lt.mp hle)
    rw [Run.run, SyncPhase.next_request hsized]
    rfl

theorem follows_sendSend2 (path : Bytes) (mode : UInt32) (compression : CompressionType)
    (dryRun : Bool) :
    Follows .idle (sendSend2 env path mode compression dryRun) fun ok q' =>
      q' = if ok then .receiving else .idle := by
  refine .ite (fun _ => ?_) fun hle => ?_
  -- A path that is too long is refused before anything is written.
  · exact follows_bind (emits_error _) fun _ => follows_bind (emits_setErrno _) fun _ => .pure rfl
  · have hsized : Sized path := sized_of_le (Nat.not_lt.mp hle)
    have hwrite : ∀ flags, Follows .idle
        (writeFdExactly env [.request .sendV2 path, .sendV2Setup mode flags]) fun ok q' =>
          q' = if ok then .receiving else .idle := fun flags => follows_writeFdExactly env (by
      rw [Run.run, SyncPhase.next_request hsized]
      rfl)
    -- `CompressionType::Any` is logged, and the setup is written all the same.
    exact .ite (fun _ => follows_bind (emits_transfer rfl) fun _ => hwrite _) fun _ => hwrite _

end Writes

/-! ## What is read back -/

/-- An idle receiver reads these messages from the bytes, and nothing is left as it comes to this
phase. -/
def ReadsBack (written : Bytes) (ms : List SyncMessage) (q : SyncPhase) : Prop :=
  ∀ fuel, ms.length < fuel →
    Stream.readAll syncDialect.readNext fuel (.idle, written) = (ms, (q, []))

/-- A receiver that can follow the events of a run reads what was written in it. -/
theorem readsBack_of_run {q : SyncPhase} {t : List SyncEvent}
    (h : Run.run SyncPhase.after .idle t = some q) : ReadsBack (writtenIn t) (messagesIn t) q := by
  rw [run_after] at h
  exact fun _ hfuel => syncDialect.readAll_flatMap h hfuel

end AdbMobile.Sync
