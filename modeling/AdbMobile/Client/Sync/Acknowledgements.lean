import AdbMobile.Client.Sync.Push

/-!
# Acknowledgements

Files are sent without waiting for the answers of the device: `deferred_acknowledgements_` holds
those without an answer, in the order in which they were sent, and `acknowledgement_buffer_` what
was read of the next answer. `ReadAcknowledgements` takes files off the queue from its front, one
for each answer (`readAcknowledgements_runs`). Where it is told to read all and succeeds, nothing is
outstanding.

What a push has done is read off its events: a `Ledger` has the files sent, acknowledged and
skipped, what could not be examined, and the messages of the transfers. A file is answered by an
`ID_OKAY` or by an `ID_FAIL` (`answeredFiles`).
-/

namespace AdbMobile.Sync

open ByteString PosixPath

/-! ## What a run has done -/

/-- What the events of a push say of it. -/
@[ext] structure Ledger where
  sent : List (Bytes × Bytes) := []
  acknowledged : List (Bytes × Bytes) := []
  matched : List (Bytes × Bytes) := []
  unexamined : List Bytes := []
  messages : List SyncMessage := []

/-- One part of a push, and another after it. -/
instance : Append Ledger where
  append a b :=
    { sent := a.sent ++ b.sent
      acknowledged := a.acknowledged ++ b.acknowledged
      matched := a.matched ++ b.matched
      unexamined := a.unexamined ++ b.unexamined
      messages := a.messages ++ b.messages }

/-- The message is part of a transfer. -/
def SyncMessage.isTransfer : SyncMessage → Bool
  | .request id _ => id = .sendV1 ∨ id = .sendV2
  | .recvV2Setup _ => false
  | .sendV2Setup .. | .data _ | .done _ => true

/-- What an event says. -/
def SyncEvent.ledger : SyncEvent → Ledger
  | .fileSent lpath rpath => { sent := [(lpath, rpath)] }
  | .acknowledged lpath rpath => { acknowledged := [(lpath, rpath)] }
  | .timestampMatched lpath rpath => { matched := [(lpath, rpath)] }
  | .unexamined path => { unexamined := [path] }
  | .wrote ms => { messages := ms.filter SyncMessage.isTransfer }
  | _ => {}

/-- What the events of a run say. -/
def ledger (t : List SyncEvent) : Ledger := t.foldr (fun e l => e.ledger ++ l) {}

/-- The file that an event sends. -/
def SyncEvent.sentFile : SyncEvent → Option (Bytes × Bytes)
  | .fileSent lpath rpath => some (lpath, rpath)
  | _ => none

/-- The file that an event takes off `deferred_acknowledgements_`. -/
def SyncEvent.answeredFile : SyncEvent → Option (Bytes × Bytes)
  | .acknowledged lpath rpath | .copyFailed lpath rpath => some (lpath, rpath)
  | _ => none

def sentFiles (t : List SyncEvent) : List (Bytes × Bytes) := t.filterMap SyncEvent.sentFile

def answeredFiles (t : List SyncEvent) : List (Bytes × Bytes) := t.filterMap SyncEvent.answeredFile

section Ledger

@[simp] theorem ledger_sent_append (a b : Ledger) : (a ++ b).sent = a.sent ++ b.sent := rfl

@[simp] theorem ledger_acknowledged_append (a b : Ledger) :
    (a ++ b).acknowledged = a.acknowledged ++ b.acknowledged := rfl

@[simp] theorem ledger_matched_append (a b : Ledger) :
    (a ++ b).matched = a.matched ++ b.matched := rfl

@[simp] theorem ledger_unexamined_append (a b : Ledger) :
    (a ++ b).unexamined = a.unexamined ++ b.unexamined := rfl

@[simp] theorem ledger_messages_append (a b : Ledger) :
    (a ++ b).messages = a.messages ++ b.messages := rfl

@[simp] theorem Ledger.append_empty (a : Ledger) : a ++ ({} : Ledger) = a := by
  ext1 <;> simp

@[simp] theorem Ledger.empty_append (a : Ledger) : ({} : Ledger) ++ a = a := by
  ext1 <;> simp

theorem Ledger.append_assoc (a b c : Ledger) : a ++ b ++ c = a ++ (b ++ c) := by
  ext1 <;> simp

@[simp] theorem ledger_nil : ledger [] = {} := rfl

@[simp] theorem ledger_cons (e : SyncEvent) (t : List SyncEvent) :
    ledger (e :: t) = e.ledger ++ ledger t := rfl

@[simp] theorem ledger_append (t t' : List SyncEvent) :
    ledger (t ++ t') = ledger t ++ ledger t' := by
  induction t with
  | nil => simp
  | cons e t ih => simp [ih, Ledger.append_assoc]

/-- Events that say nothing. -/
theorem ledger_eq_empty {t : List SyncEvent} (h : ∀ e ∈ t, e.ledger = {}) : ledger t = {} := by
  induction t with
  | nil => rfl
  | cons e t ih =>
    rw [ledger_cons, h e List.mem_cons_self, ih fun e' he' => h e' (List.mem_cons_of_mem e he'),
      Ledger.append_empty]

@[simp] theorem sentFiles_append (t t' : List SyncEvent) :
    sentFiles (t ++ t') = sentFiles t ++ sentFiles t' := List.filterMap_append

@[simp] theorem answeredFiles_append (t t' : List SyncEvent) :
    answeredFiles (t ++ t') = answeredFiles t ++ answeredFiles t' := List.filterMap_append

end Ledger

/-! ## Reading the answers -/

/-- An event that says nothing, and does not start a reply. -/
def SyncEvent.Silent (e : SyncEvent) : Prop := e.isBackground ∧ e.ledger = {}

/-- Events that are silent. -/
def Silent (t : List SyncEvent) : Prop := ∀ e ∈ t, e.Silent

theorem Silent.ledger {t : List SyncEvent} (h : Silent t) : ledger t = {} :=
  ledger_eq_empty fun e he => (h e he).2

theorem Silent.answeredFiles {t : List SyncEvent} (h : Silent t) : answeredFiles t = [] :=
  List.filterMap_eq_nil_iff.mpr fun e he => by
    have hback := (h e he).1
    cases e <;> first | rfl | cases hback

theorem Silent.append {t t' : List SyncEvent} (h : Silent t) (h' : Silent t') : Silent (t ++ t') :=
  fun e he => (List.mem_append.mp he).elim (h e) (h' e)

theorem silent_nil : Silent [] := fun _ he => absurd he List.not_mem_nil

theorem silent_singleton {e : SyncEvent} (h : e.Silent) : Silent [e] := fun _ he =>
  List.mem_singleton.mp he ▸ h

theorem silent_error (text : Bytes) : Silent [.error text] := silent_singleton ⟨rfl, rfl⟩

/-- Nothing is outstanding. -/
def SyncConnection.Settled (c : SyncConnection) : Prop := c.deferred = [] ∧ c.ackBuffer = []

/-- What was read of an answer is of one that is outstanding. -/
def SyncConnection.Ordered (c : SyncConnection) : Prop := c.deferred = [] → c.ackBuffer = []

/-- The same answers are outstanding. -/
def SameQueue (c c' : SyncConnection) : Prop := c'.deferred = c.deferred ∧
    c'.ackBuffer = c.ackBuffer

section Read

variable (env : SyncEnv)

theorem mayRead_runs (shouldBlock : Bool) (c : SyncConnection) :
    Prog.Runs (mayRead env shouldBlock) c fun ready c' t =>
      t = [] ∧ SameQueue c c' ∧ (ready = false → shouldBlock = false) := by
  unfold mayRead
  split
  · exact .pure ⟨rfl, ⟨rfl, rfl⟩, fun h => by cases h⟩
  · rename_i h
    exact nextCall_bind (.pure ⟨rfl, ⟨rfl, rfl⟩, fun _ => Bool.eq_false_iff.mpr h⟩)

theorem adbRead_runs (n : ℕ) (c : SyncConnection) :
    Prog.Runs (adbRead env n) c fun read c' t =>
      t = [] ∧ SameQueue c c' ∧ ∀ bytes, read = some bytes → 0 < bytes.length := by
  have hsame : SameQueue c c := ⟨rfl, rfl⟩
  refine nextCall_bind (.get_bind ?_)
  dsimp only
  cases env.readError c.calls with
  | some r => exact .modify_bind (.pure ⟨rfl, hsame, fun _ h => by cases h⟩)
  | none =>
    dsimp only
    split
    · exact .pure ⟨rfl, hsame, fun _ h => by cases h⟩
    · rename_i hne
      exact .modify_bind (.pure ⟨rfl, hsame, fun _ h => Option.some.inj h ▸ List.length_pos_iff.mpr hne⟩)

/-- A round of `read_until_amount` adds to the buffer where it asks for another one. -/
theorem readUntilAmountRound_runs (shouldBlock : Bool) (amount : ℕ) (c : SyncConnection) :
    Prog.Runs (readUntilAmountRound env shouldBlock amount) c fun r c' t =>
      (c'.deferred = c.deferred ∧ Silent t) ∧ match r with
        | .inl () => amount - c'.ackBuffer.length < amount - c.ackBuffer.length
        | .inr status => status = .tryLater → shouldBlock = false := by
  refine .get_bind ?_
  split
  · exact .pure ⟨⟨rfl, silent_nil⟩, fun h => by cases h⟩
  rename_i hlt
  refine (mayRead_runs env shouldBlock c).bind fun ready c₁ t₁ ⟨ht₁, hc₁, hready⟩ => ?_
  subst ht₁
  cases ready with
  | false => exact .pure ⟨⟨hc₁.1, silent_nil⟩, fun _ => hready rfl⟩
  | true =>
    refine .emit_bind ((adbRead_runs env _ c₁).bind fun read c₂ t₂ ⟨ht₂, hc₂, hread⟩ => ?_)
    subst ht₂
    have hfill : ∀ {t}, Silent t → Silent (.fill (syncStatusSize + syncDataMax - c.ackBuffer.length)
        (amount - c.ackBuffer.length) :: t) := fun ht =>
      (silent_singleton (e := .fill _ _) ⟨rfl, rfl⟩).append ht
    have hdeferred : c₂.deferred = c.deferred := hc₂.1.trans hc₁.1
    cases read with
    | none =>
      exact .emit_bind (.pure ⟨⟨hdeferred, hfill (silent_error _)⟩, fun h => by cases h⟩)
    | some read =>
      -- What is read is not empty, so another round has less to wait for.
      have hpos := hread read rfl
      refine .modify_bind ?_
      split
      · rename_i hblock
        exact .pure ⟨⟨hdeferred, hfill silent_nil⟩, fun _ => by simpa using hblock.1⟩
      · have hlength : amount - (c.ackBuffer ++ read).length < amount - c.ackBuffer.length := by
          rw [List.length_append]
          omega
        exact .pure ⟨⟨hdeferred, hfill silent_nil⟩, hlength⟩

/-- `read_until_amount` reads of an answer, and it puts it off only where it may not block. -/
theorem readUntilAmount_runs (shouldBlock : Bool) (amount : ℕ) (c : SyncConnection) :
    Prog.Runs (readUntilAmount env shouldBlock amount) c fun status c' t =>
      (c'.deferred = c.deferred ∧ Silent t) ∧ (status = .tryLater → shouldBlock = false) := by
  refine Prog.Runs.loop (m := fun c => amount - c.ackBuffer.length)
    (Q := fun (status : ReadStatus) c' t => (c'.deferred = c.deferred ∧ Silent t) ∧
      (status = .tryLater → shouldBlock = false))
    (I := fun _ c' t => c'.deferred = c.deferred ∧ Silent t) (fun _ c' t ⟨hc', ht⟩ => ?_) (amount + 1)
    () c [] ⟨rfl, silent_nil⟩ (by omega)
  refine (readUntilAmountRound_runs env shouldBlock amount c').mono
    fun r c'' t' ⟨⟨hc'', ht'⟩, hr⟩ => ?_
  have hboth : c''.deferred = c.deferred ∧ Silent (t ++ t') := ⟨hc''.trans hc', ht.append ht'⟩
  cases r with
  | inl u => exact ⟨hboth, hr⟩
  | inr status => exact ⟨hboth, hr⟩

/-- `CopyDone` takes the first file off the queue. -/
theorem copyDone_runs {c : SyncConnection} {file : Bytes × Bytes} {deferred : List (Bytes × Bytes)}
    (h : c.deferred = file :: deferred) :
    Prog.Runs copyDone c fun _ c' t =>
      c' = { c with deferred := deferred } ∧ t = [.acknowledged file.1 file.2] := by
  refine Prog.Runs.bind (p := popDeferred)
    (M := fun popped c' t => popped = file ∧ c' = { c with deferred := deferred } ∧ t = [])
    ⟨_, rfl, ?_, ?_, rfl⟩ fun popped c' t ⟨hpopped, hc', ht⟩ => ?_
  · rw [h, List.headD_cons]
  · show { c with deferred := c.deferred.tail } = _
    rw [h, List.tail_cons]
  · subst hpopped hc' ht
    exact ⟨(), rfl, rfl, rfl⟩

/-- `ReportDeferredCopyFailure` takes the first file off the queue, too. -/
theorem reportDeferredCopyFailure_runs (msg : Bytes) {c : SyncConnection} {file : Bytes × Bytes}
    {deferred : List (Bytes × Bytes)} (h : c.deferred = file :: deferred) :
    Prog.Runs (reportDeferredCopyFailure msg) c fun _ c' t =>
      c' = { c with deferred := deferred } ∧
        t = [.error (lit "failed to copy '" ++ file.1 ++ lit "' to '" ++ file.2 ++ lit "': remote " ++
          cString msg), .copyFailed file.1 file.2] := by
  refine Prog.Runs.bind (p := popDeferred)
    (M := fun popped c' t => popped = file ∧ c' = { c with deferred := deferred } ∧ t = [])
    ⟨_, rfl, ?_, ?_, rfl⟩ fun popped c' t ⟨hpopped, hc', ht⟩ => ?_
  · rw [h, List.headD_cons]
  · show { c with deferred := c.deferred.tail } = _
    rw [h, List.tail_cons]
  · subst hpopped hc' ht
    exact ⟨(), rfl, rfl, rfl⟩

/-- A run that takes the files off the queue for which it reads answers, and keeps its order. -/
structure TakesOff (c : SyncConnection) (t : List SyncEvent) (c' : SyncConnection) : Prop where
  ordered : c'.Ordered
  events : ∀ e ∈ t, e.isBackground ∨ (∃ l r, e = .acknowledged l r) ∨ ∃ l r, e = .copyFailed l r
  answered : c.deferred = answeredFiles t ++ c'.deferred

/-- How `ReadAcknowledgements` ends: it fails, or it puts off the answers that are still
outstanding, none of them where it reads all. -/
def RoundStops (readAll : Bool) (c : SyncConnection) (ok : Bool) (c' : SyncConnection)
    (t : List SyncEvent) : Prop :=
  ok = true → c'.deferred = c.deferred ∧ ledger t = {} ∧ (readAll = true → c.deferred = [])

/-- A round that takes no file off the queue is the last one: it fails, or puts an answer off where
not all of them are read. -/
theorem roundStops_of_silent {readAll ok : Bool} {c c' : SyncConnection} {t : List SyncEvent}
    (hnil : c.deferred ≠ []) (hc' : c'.deferred = c.deferred) (ht : Silent t)
    (hok : ok = true → readAll = false) :
    TakesOff c t c' ∧ RoundStops readAll c ok c' t := by
  refine ⟨⟨fun h => absurd h (hc' ▸ hnil), fun e he => .inl (ht e he).1, ?_⟩, fun h => ?_⟩
  · rw [ht.answeredFiles, hc', List.nil_append]
  refine ⟨hc', ht.ledger, fun hall => ?_⟩
  rw [hok h] at hall
  cases hall

/-- A round of `ReadAcknowledgements` takes the first file off the queue, or it is the last one. -/
theorem readAcknowledgementsRound_runs (readAll : Bool) (c : SyncConnection) (hc : c.Ordered) :
    Prog.Runs (readAcknowledgementsRound env readAll) c fun r c' t =>
      TakesOff c t c' ∧ match r with
      | .inl () => ∃ file, c.deferred = file :: c'.deferred ∧ ledger t = { acknowledged := [file] }
      | .inr ok => RoundStops readAll c ok c' t := by
  refine .get_bind ?_
  by_cases hnil : c.deferred = []
  · rw [if_pos hnil]
    exact .pure ⟨⟨hc, fun e he => absurd he List.not_mem_nil, rfl⟩,
      fun _ => ⟨rfl, rfl, fun _ => hnil⟩⟩
  rw [if_neg hnil]
  obtain ⟨file, deferred, hdeferred⟩ := List.exists_cons_of_ne_nil hnil
  refine (readUntilAmount_runs env _ _ c).bind fun status c₁ t₁ ⟨⟨hc₁, ht₁⟩, hlater⟩ => ?_
  cases status with
  | tryLater =>
    refine .pure ?_
    rw [List.append_nil]
    exact roundStops_of_silent hnil hc₁ ht₁ fun _ =>
      (Bool.or_eq_false_iff.mp (hlater rfl)).1
  | failure =>
    refine .pure ?_
    rw [List.append_nil]
    exact roundStops_of_silent hnil hc₁ ht₁ nofun
  | success =>
    refine .get_bind ?_
    by_cases hokay : wordAt c₁.ackBuffer 0 = SyncId.okay.word
    · rw [if_pos hokay]
      refine .modify_bind ?_
      split
      · exact .emit_bind (.pure
          (roundStops_of_silent hnil hc₁ (ht₁.append (silent_error _)) nofun))
      · -- `CopyDone` takes the first file off the queue.
        refine (copyDone_runs (c := { c₁ with ackBuffer := [] }) (hc₁.trans hdeferred)).bind
          fun _ c₂ t₂ ⟨hc₂, ht₂⟩ => ?_
        subst hc₂ ht₂
        refine .pure ⟨⟨fun _ => rfl, fun e he => ?_, ?_⟩, file, hdeferred, ?_⟩
        · rw [List.append_nil] at he
          obtain he | he := List.mem_append.mp he
          · exact .inl (ht₁ e he).1
          · exact .inr (.inl ⟨_, _, List.mem_singleton.mp he⟩)
        · rw [List.append_nil, answeredFiles_append, ht₁.answeredFiles, hdeferred]
          rfl
        · rw [List.append_nil, ledger_append, ht₁.ledger]
          rfl
    rw [if_neg hokay]
    split
    · exact .emit_bind (.pure (roundStops_of_silent hnil hc₁ (ht₁.append (silent_error _)) nofun))
    split
    · exact .emit_bind (.pure (roundStops_of_silent hnil hc₁ (ht₁.append (silent_error _)) nofun))
    -- The message of a failure is read in the same way as the answer.
    refine (readUntilAmount_runs env _ _ c₁).bind fun status c₂ t₂ ⟨⟨hc₂, ht₂⟩, hlater⟩ => ?_
    have hc₂' := hc₂.trans hc₁
    cases status with
    | tryLater =>
      refine .pure ?_
      rw [List.append_nil]
      exact roundStops_of_silent hnil hc₂' (ht₁.append ht₂) fun _ =>
        (Bool.or_eq_false_iff.mp (hlater rfl)).1
    | failure =>
      refine .pure ?_
      rw [List.append_nil]
      exact roundStops_of_silent hnil hc₂' (ht₁.append ht₂) nofun
    | success =>
      refine .get_bind ((reportDeferredCopyFailure_runs _ (hc₂'.trans hdeferred)).bind
        fun _ c₃ t₃ ⟨hc₃, ht₃⟩ => .modify_bind (.pure ⟨⟨fun _ => rfl, fun e he => ?_, ?_⟩,
          fun h => by cases h⟩))
      · subst ht₃
        simp only [List.mem_append, List.append_nil, List.mem_cons, List.not_mem_nil, or_false] at he
        obtain he | he | rfl | rfl := he
        · exact .inl (ht₁ e he).1
        · exact .inl (ht₂ e he).1
        · exact .inl rfl
        · exact .inr (.inr ⟨_, _, rfl⟩)
      · -- So does `ReportDeferredCopyFailure`.
        subst hc₃ ht₃
        rw [List.append_nil, answeredFiles_append, answeredFiles_append, ht₁.answeredFiles,
          ht₂.answeredFiles, hdeferred]
        rfl

/-- What `ReadAcknowledgements` does from a queue: it takes files off; where it succeeds, they are
acknowledged, in order, and where it reads all, nothing is outstanding. -/
structure Acknowledges (readAll : Bool) (c : SyncConnection) (ok : Bool) (c' : SyncConnection)
    (t : List SyncEvent) : Prop extends TakesOff c t c' where
  acknowledged : ok = true → ∃ files, ledger t = { acknowledged := files } ∧
    c.deferred = files ++ c'.deferred
  settled : ok = true → readAll = true → c'.Settled

theorem TakesOff.append {c c' c'' : SyncConnection} {t t' : List SyncEvent} (h : TakesOff c t c')
    (h' : TakesOff c' t' c'') : TakesOff c (t ++ t') c'' where
  ordered := h'.ordered
  events e he := (List.mem_append.mp he).elim (h.events e) (h'.events e)
  answered := by rw [answeredFiles_append, List.append_assoc, ← h'.answered, h.answered]

theorem readAcknowledgements_runs (readAll : Bool) (c : SyncConnection) (hc : c.Ordered) :
    Prog.Runs (readAcknowledgements env readAll) c (Acknowledges readAll c) := by
  refine .get_bind ?_
  -- Each round that is not the last one takes a file off the queue.
  refine Prog.Runs.loop (m := fun c => c.deferred.length) (Q := fun (ok : Bool) c' t =>
      Acknowledges readAll c ok c' t)
    (I := fun _ c' t => TakesOff c t c' ∧
      ∃ files, ledger t = { acknowledged := files } ∧ c.deferred = files ++ c'.deferred)
    (fun _ c' t ⟨htakes, files, hledger, hfiles⟩ => ?_) (c.deferred.length + 1) () c []
    ⟨⟨hc, fun _ he => absurd he List.not_mem_nil, rfl⟩, [], rfl, rfl⟩ (Nat.lt_succ_self _)
  refine (readAcknowledgementsRound_runs env readAll c' htakes.ordered).mono
    fun r c'' t' ⟨htakes', hr⟩ => ?_
  cases r with
  | inl u =>
    obtain ⟨file, hfile, hledger'⟩ := hr
    refine ⟨⟨htakes.append htakes', files ++ [file], ?_, ?_⟩, ?_⟩
    · rw [ledger_append, hledger, hledger']
      rfl
    · rw [hfiles, hfile, List.append_assoc, List.singleton_append]
    · rw [hfile, List.length_cons]
      exact Nat.lt_succ_self _
  | inr ok =>
    refine ⟨htakes.append htakes', fun hok => ?_, fun hok hall => ?_⟩
    · obtain ⟨hsame, hledger', -⟩ := hr hok
      exact ⟨files, by rw [ledger_append, hledger', hledger, Ledger.append_empty], by rw [hsame, hfiles]⟩
    · obtain ⟨hsame, -, hnil⟩ := hr hok
      have hnil'' : c''.deferred = [] := hsame.trans (hnil hall)
      exact ⟨hnil'', htakes'.ordered hnil''⟩

end Read

end AdbMobile.Sync
