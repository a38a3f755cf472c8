import AdbMobile.Lib.Framing
import AdbMobile.Client.Sync.Acknowledgements

/-!
# The responses to the files

The device answers each file with an `ID_OKAY`, or with an `ID_FAIL` and a message. The client sends
files and reads what there is of the answers in between, as much as comes at a time, and it reads on
without waiting only while fewer than 128 answers are outstanding.

What it reports does not depend on any of that: the answers are the frames of the whole stream
(`responses`), and the `k`-th is reported for the `k`-th file (`acknowledgements_matched`).
-/

namespace AdbMobile.Sync

open ByteString

/-! ## The stream -/

/-- What the device answers to a file. -/
inductive Response
  | okay
  | fail (msg : Bytes)
  deriving DecidableEq

/-- The response at the front of a stream. -/
def cutResponse (s : Bytes) : Cut UInt8 Response :=
  if s.length < syncStatusSize then .incomplete
  else if wordAt s 0 = SyncId.okay.word then
    if wordAt s 4 = 0 then .frame .okay (s.drop syncStatusSize) else .malformed
  else if wordAt s 0 ≠ SyncId.fail.word ∨ syncDataMax < (wordAt s 4).toNat then .malformed
  else if s.length < syncStatusSize + (wordAt s 4).toNat then .incomplete
  else
    .frame (.fail ((s.drop syncStatusSize).take (wordAt s 4).toNat))
      (s.drop (syncStatusSize + (wordAt s 4).toNat))

/-- A word is where it was when more bytes come behind it. -/
theorem wordAt_append {s : Bytes} {off : ℕ} (h : off + 4 ≤ s.length) (more : Bytes) :
    wordAt (s ++ more) off = wordAt s off := by
  have htake : ((s ++ more).drop off).take 4 = (s.drop off).take 4 := by
    rw [List.drop_append_of_le_length (by omega), List.take_append_of_le_length]
    rw [List.length_drop]
    omega
  rw [wordAt, htake, wordAt]

/-- The header of what has come is the header of the stream. -/
theorem header_append {s : Bytes} (h : syncStatusSize ≤ s.length) (more : Bytes) :
    wordAt (s ++ more) 0 = wordAt s 0 ∧ wordAt (s ++ more) 4 = wordAt s 4 := by
  have hsize : syncStatusSize = 8 := rfl
  exact ⟨wordAt_append (by omega) more, wordAt_append (by omega) more⟩

/-- A response takes its header off the stream at least. -/
theorem cutResponse_shorter {s : Bytes} {r : Response} {rest : List UInt8}
    (h : cutResponse s = .frame r rest) : rest.length < s.length := by
  have hsize : syncStatusSize = 8 := rfl
  unfold cutResponse at h
  split_ifs at h with hshort hokay hzero hbad hwait
  · cases h
    rw [List.length_drop]
    omega
  · cases h
    rw [List.length_drop]
    omega

/-- What is said of a stream once enough of it has come. -/
theorem cutResponse_stable {s : Bytes} (h : cutResponse s ≠ .incomplete) (more : Bytes) :
    cutResponse (s ++ more) = (cutResponse s).extend more := by
  unfold cutResponse at h ⊢
  by_cases hshort : s.length < syncStatusSize
  · rw [if_pos hshort] at h
    exact absurd rfl h
  obtain ⟨hid, hlen⟩ := header_append (Nat.le_of_not_lt hshort) more
  have hlong : ¬ (s ++ more).length < syncStatusSize := by
    rw [List.length_append]
    omega
  rw [if_neg hlong, hid, hlen]
  rw [if_neg hshort] at h ⊢
  by_cases hokay : wordAt s 0 = SyncId.okay.word
  · simp only [if_pos hokay]
    split
    · rw [Cut.extend, List.drop_append_of_le_length (Nat.le_of_not_lt hshort)]
    · rfl
  simp only [if_neg hokay] at h ⊢
  by_cases hbad : wordAt s 0 ≠ SyncId.fail.word ∨ syncDataMax < (wordAt s 4).toNat
  · simp only [if_pos hbad]
    rfl
  simp only [if_neg hbad] at h ⊢
  by_cases hwait : s.length < syncStatusSize + (wordAt s 4).toNat
  · rw [if_pos hwait] at h
    exact absurd rfl h
  -- The whole message has come.
  have hle := Nat.le_of_not_lt hwait
  have hlong' : ¬ (s ++ more).length < syncStatusSize + (wordAt s 4).toNat := by
    rw [List.length_append]
    omega
  have hbody : (wordAt s 4).toNat ≤ (s.drop syncStatusSize).length := by
    rw [List.length_drop]
    omega
  rw [if_neg hlong', if_neg hwait, Cut.extend, List.drop_append_of_le_length hle,
    List.drop_append_of_le_length (Nat.le_of_not_lt hshort), List.take_append_of_le_length hbody]

/-- The responses in a stream. -/
def responses : Framing UInt8 Response where
  cut := cutResponse
  shorter := cutResponse_shorter
  stable := cutResponse_stable

/-! ## The reports -/

/-- The text of `ReportDeferredCopyFailure`. -/
def deferredCopyFailure (lpath rpath msg : Bytes) : Bytes :=
  lit "failed to copy '" ++ lpath ++ lit "' to '" ++ rpath ++ lit "': remote " ++ cString msg

/-- What is reported for a file and the response to it. -/
def report : (Bytes × Bytes) × Response → List SyncEvent
  | ((lpath, rpath), .okay) => [.acknowledged lpath rpath]
  | ((lpath, rpath), .fail msg) =>
    [.error (deferredCopyFailure lpath rpath msg), .copyFailed lpath rpath]

/-- An error whose text begins so. -/
def SyncEvent.startsWith (start : Bytes) : SyncEvent → Bool
  | .error text => start.isPrefixOf text
  | _ => false

/-- A completion, or a failure with its text. -/
def SyncEvent.isReport (e : SyncEvent) : Bool :=
  match e with
  | .acknowledged .. | .copyFailed .. => true
  | _ => e.startsWith (lit "failed to copy '")

/-- A response is found to be malformed. -/
def SyncEvent.isMalformed (e : SyncEvent) : Bool :=
  e.startsWith (lit "received ID_OKAY with msg_len (") ||
    e.startsWith (lit "unexpected response from daemon: id = ") ||
    e.startsWith (lit "too-long message length from daemon: msglen = ")

def reports (t : List SyncEvent) : List SyncEvent := t.filter SyncEvent.isReport

/-- The events up to the first malformed response. -/
def beforeMalformed (t : List SyncEvent) : List SyncEvent := t.takeWhile fun e => !e.isMalformed

/-- What is read is no report of a file. -/
def SyncEvent.isReading : SyncEvent → Bool
  | .fill .. => true
  | e => e = .error (lit "failed to read copy response")

section Reports

@[simp] theorem reports_append (t t' : List SyncEvent) :
    reports (t ++ t') = reports t ++ reports t' := List.filter_append t t'

/-- No response that the events are about is malformed. -/
def Clean (t : List SyncEvent) : Prop := ∀ e ∈ t, e.isMalformed = false

theorem beforeMalformed_append {t : List SyncEvent} (h : Clean t) (t' : List SyncEvent) :
    beforeMalformed (t ++ t') = t ++ beforeMalformed t' :=
  List.takeWhile_append_of_pos fun e he => by rw [h e he, Bool.not_false]

theorem beforeMalformed_self {t : List SyncEvent} (h : Clean t) : beforeMalformed t = t := by
  rw [← List.append_nil t, beforeMalformed_append h]
  rfl

/-- What comes after a malformed response does not count. -/
theorem beforeMalformed_append_of_not_clean {t : List SyncEvent} (h : ¬ Clean t)
    (t' : List SyncEvent) : beforeMalformed (t ++ t') = beforeMalformed t := by
  have hshort : (beforeMalformed t).length ≠ t.length := by
    intro hlength
    refine h fun e he => ?_
    rw [← (List.takeWhile_prefix _).eq_of_length hlength] at he
    simpa using List.mem_takeWhile_imp he
  unfold beforeMalformed at hshort ⊢
  rw [List.takeWhile_append, if_neg hshort]

/-- A text begins with what stands at its front. -/
theorem startsWith_self (start more : Bytes) :
    (SyncEvent.error (start ++ more)).startsWith start = true := by
  rw [SyncEvent.startsWith, List.isPrefixOf_iff_prefix]
  exact List.prefix_append start more

/-- A text does not begin with another letter than its first. -/
theorem startsWith_of_head {start text : Bytes} {a b : UInt8} (hstart : start.head? = some a)
    (htext : text.head? = some b) (hne : a ≠ b) : (SyncEvent.error text).startsWith start = false := by
  obtain ⟨start, rfl⟩ := List.head?_eq_some_iff.mp hstart
  obtain ⟨text, rfl⟩ := List.head?_eq_some_iff.mp htext
  rw [SyncEvent.startsWith, Bool.eq_false_iff, ne_eq, List.isPrefixOf_iff_prefix,
    List.cons_prefix_cons]
  exact fun h => hne h.1

/-- Only the three errors about responses begin with the letter that they begin with. -/
theorem not_malformed_of_head {text : Bytes} {b : UInt8} (htext : text.head? = some b)
    (hne : b ≠ 114 ∧ b ≠ 117 ∧ b ≠ 116) : (SyncEvent.error text).isMalformed = false := by
  obtain ⟨hr, hu, ht⟩ := hne
  rw [SyncEvent.isMalformed, @startsWith_of_head _ _ 114 b (by decide) htext hr.symm,
    @startsWith_of_head _ _ 117 b (by decide) htext hu.symm, @startsWith_of_head _ _ 116 b (by decide) htext ht.symm]
  rfl

/-- What is reported for a file is clean, and takes the file off. -/
theorem report_spec (file : Bytes × Bytes) (r : Response) :
    Clean (report (file, r)) ∧ reports (report (file, r)) = report (file, r) ∧
      sentFiles (report (file, r)) = [] ∧ answeredFiles (report (file, r)) = [file] := by
  obtain ⟨lpath, rpath⟩ := file
  cases r with
  | okay => exact ⟨fun e he => List.mem_singleton.mp he ▸ rfl, rfl, rfl, rfl⟩
  | fail msg =>
    have hhead : (deferredCopyFailure lpath rpath msg).head? = some 102 := rfl
    have hreport : (SyncEvent.error (deferredCopyFailure lpath rpath msg)).isReport = true := by
      unfold SyncEvent.isReport deferredCopyFailure
      simp only [List.append_assoc]
      exact startsWith_self _ _
    refine ⟨fun e he => ?_, ?_, rfl, rfl⟩
    · obtain rfl | he := List.mem_cons.mp he
      · exact not_malformed_of_head hhead (by decide)
      · rw [List.mem_singleton.mp he]
        rfl
    · rw [reports, report, List.filter_cons, if_pos hreport]
      rfl

/-- Reading is silent. -/
theorem reading_spec {t : List SyncEvent} (h : ∀ e ∈ t, e.isReading = true) :
    Clean t ∧ reports t = [] ∧ sentFiles t = [] ∧ answeredFiles t = [] := by
  have hevent : ∀ e : SyncEvent, e.isReading = true → e.isMalformed = false ∧
      e.isReport = false ∧ e.sentFile = none ∧ e.answeredFile = none := by
    intro e he
    cases e with
    | fill a b => exact ⟨rfl, rfl, rfl, rfl⟩
    | error text =>
      obtain rfl : text = lit "failed to read copy response" := by
        simpa [SyncEvent.isReading] using he
      exact ⟨by decide, by decide, rfl, rfl⟩
    | _ => simp [SyncEvent.isReading] at he
  refine ⟨fun e he => (hevent e (h e he)).1, ?_, ?_, ?_⟩
  · exact List.filter_eq_nil_iff.mpr fun e he => by simp [(hevent e (h e he)).2.1]
  · exact List.filterMap_eq_nil_iff.mpr fun e he => (hevent e (h e he)).2.2.1
  · exact List.filterMap_eq_nil_iff.mpr fun e he => (hevent e (h e he)).2.2.2

end Reports

/-! ## Files and responses -/

/-- What of a queue and a stream is left after these reports: each was made for the file at the
front of the queue and the response at the front of the stream. -/
def Reported (files : List (Bytes × Bytes)) (stream : Bytes) (t : List SyncEvent)
    (left : List (Bytes × Bytes)) (rest : Bytes) : Prop :=
  ∃ answered rs, files = answered ++ left ∧ responses.Leads stream rs rest ∧
    answered.length = rs.length ∧ t = (answered.zip rs).flatMap report

theorem Reported.nil (files : List (Bytes × Bytes)) (stream : Bytes) :
    Reported files stream [] files stream := ⟨[], [], rfl, .nil stream, rfl, rfl⟩

/-- A report for the first file, at the first response. -/
theorem Reported.single {file : Bytes × Bytes} {left : List (Bytes × Bytes)} {stream rest : Bytes}
    {r : Response} (h : responses.cut stream = .frame r rest) :
    Reported (file :: left) stream (report (file, r)) left rest :=
  ⟨[file], [r], rfl, .single h, rfl, (List.flatMap_singleton report (file, r)).symm⟩

theorem Reported.trans {files left left' : List (Bytes × Bytes)} {stream rest rest' : Bytes}
    {t t' : List SyncEvent} (h : Reported files stream t left rest)
    (h' : Reported left rest t' left' rest') : Reported files stream (t ++ t') left' rest' := by
  obtain ⟨answered, rs, hfiles, hleads, hlength, rfl⟩ := h
  obtain ⟨answered', rs', hleft, hleads', hlength', rfl⟩ := h'
  refine ⟨answered ++ answered', rs ++ rs', ?_, hleads.trans hleads', ?_, ?_⟩
  · rw [hfiles, hleft, List.append_assoc]
  · rw [List.length_append, List.length_append, hlength, hlength']
  · rw [List.zip_append hlength, List.flatMap_append]

/-- More files that are sent wait behind the others. -/
theorem Reported.more {files left : List (Bytes × Bytes)} {stream rest : Bytes} {t : List SyncEvent}
    (h : Reported files stream t left rest) (sent : List (Bytes × Bytes)) :
    Reported (files ++ sent) stream t (left ++ sent) rest := by
  obtain ⟨answered, rs, rfl, hleads, hlength, rfl⟩ := h
  exact ⟨answered, rs, List.append_assoc .., hleads, hlength, rfl⟩

/-- The reports are the first of those for all files and all responses of the stream. -/
theorem Reported.take {files left : List (Bytes × Bytes)} {stream rest : Bytes} {t : List SyncEvent}
    (h : Reported files stream t left rest) :
    ∃ n, t = ((files.zip (responses.frames stream)).take n).flatMap report := by
  obtain ⟨answered, rs, rfl, hleads, hlength, rfl⟩ := h
  refine ⟨rs.length, ?_⟩
  have hzip : (answered.zip rs).length = rs.length := by
    rw [List.length_zip, hlength, Nat.min_self]
  rw [hleads.frames_eq, List.zip_append hlength, List.take_left' hzip]

/-- What a run does to the queue and the stream. Files come off the queue in turn, and none comes
off when there is none. When the buffer has the beginning of a response, the reports up to the first
malformed one are those for the files in the queue and the responses that come in, and without a
malformed one nothing of the stream is lost. -/
structure Matches (c : SyncConnection) (t : List SyncEvent) (c' : SyncConnection) : Prop where
  queue : c.deferred ++ sentFiles t = answeredFiles t ++ c'.deferred
  inTurn : ∀ t', t' <+: t → answeredFiles t' <+: c.deferred ++ sentFiles t'
  reported : responses.cut c.ackBuffer = .incomplete → ∃ left rest,
    Reported (c.deferred ++ sentFiles t) (c.ackBuffer ++ c.input) (reports (beforeMalformed t)) left
      rest ∧
    (Clean t → left = c'.deferred ∧ rest = c'.ackBuffer ++ c'.input ∧
      responses.cut c'.ackBuffer = .incomplete)

/-- A prefix of a sequence of events is one of its first part, or the first part and a prefix of the
second. -/
theorem prefix_append_cases {t' t u : List SyncEvent} (h : t' <+: t ++ u) :
    t' <+: t ∨ ∃ u', t' = t ++ u' ∧ u' <+: u := by
  obtain ⟨v, hv⟩ := h
  obtain ⟨w, rfl, rfl⟩ | ⟨w, rfl, rfl⟩ := List.append_eq_append_iff.mp hv
  · exact .inl ⟨w, rfl⟩
  · exact .inr ⟨w, rfl, ⟨v, rfl⟩⟩

theorem Matches.composes : Prog.Composes Matches where
  nil c :=
    { queue := List.append_nil _
      inTurn := fun t' ht' => by
        rw [List.prefix_nil.mp ht']
        exact List.nil_prefix
      reported := fun hcut =>
        ⟨c.deferred ++ [], _, .nil _ _, fun _ => ⟨List.append_nil _, rfl, hcut⟩⟩ }
  append {c t c' u c''} h h' :=
    { queue := by
        rw [sentFiles_append, answeredFiles_append, ← List.append_assoc, h.queue, List.append_assoc,
          h'.queue, List.append_assoc]
      inTurn := fun t' ht' => by
        obtain ht' | ⟨u', rfl, hu'⟩ := prefix_append_cases ht'
        · exact h.inTurn t' ht'
        · rw [sentFiles_append, answeredFiles_append, ← List.append_assoc, h.queue,
            List.append_assoc]
          exact (List.prefix_append_right_inj _).mpr (h'.inTurn u' hu')
      reported := fun hcut => by
        obtain ⟨left, rest, hreported, hclean⟩ := h.reported hcut
        -- Behind an answer that is malformed nothing is reported.
        by_cases ht : Clean t
        · obtain ⟨rfl, rfl, hcut'⟩ := hclean ht
          obtain ⟨left', rest', hreported', hclean'⟩ := h'.reported hcut'
          refine ⟨left', rest', ?_, fun hall => ?_⟩
          · rw [beforeMalformed_self ht] at hreported
            rw [beforeMalformed_append ht, reports_append, sentFiles_append, ← List.append_assoc]
            exact (hreported.more (sentFiles u)).trans hreported'
          · exact hclean' fun e he => hall e (List.mem_append_right t he)
        · refine ⟨left ++ sentFiles u, rest, ?_, fun hall => ?_⟩
          · rw [beforeMalformed_append_of_not_clean ht, sentFiles_append, ← List.append_assoc]
            exact hreported.more (sentFiles u)
          · exact absurd (fun e he => hall e (List.mem_append_left u he)) ht }

/-- Such a run that sends no file. -/
structure Answers (c : SyncConnection) (t : List SyncEvent) (c' : SyncConnection) : Prop where
  matched : Matches c t c'
  sent : sentFiles t = []

theorem Answers.composes : Prog.Composes Answers where
  nil c := ⟨Matches.composes.nil c, rfl⟩
  append h h' :=
    { matched := Matches.composes.append h.matched h'.matched
      sent := by rw [sentFiles_append, h.sent, h'.sent, List.append_nil] }

/-! ## Reading a response -/

section Read

variable (env : SyncEnv)

/-- A run of reads moves bytes of the stream to the buffer, as many as an amount needs at most. -/
structure Reads (amount : ℕ) (c : SyncConnection) (t : List SyncEvent) (c' : SyncConnection) :
    Prop where
  deferred : c'.deferred = c.deferred
  events : ∀ e ∈ t, e.isReading = true
  bytes : ∃ read, c'.ackBuffer = c.ackBuffer ++ read ∧ c.input = read ++ c'.input ∧
    (read = [] ∨ c'.ackBuffer.length ≤ amount)

theorem Reads.refl (amount : ℕ) (c : SyncConnection) : Reads amount c [] c :=
  ⟨rfl, fun _ he => absurd he List.not_mem_nil, [], (List.append_nil _).symm, rfl, .inl rfl⟩

theorem Reads.trans {amount : ℕ} {c c' c'' : SyncConnection} {t t' : List SyncEvent}
    (h : Reads amount c t c') (h' : Reads amount c' t' c'') : Reads amount c (t ++ t') c'' := by
  obtain ⟨hdeferred, hevents, read, hbuffer, hinput, hlength⟩ := h
  obtain ⟨hdeferred', hevents', read', hbuffer', hinput', hlength'⟩ := h'
  refine ⟨hdeferred'.trans hdeferred, fun e he => ?_, read ++ read', ?_, ?_, ?_⟩
  · exact (List.mem_append.mp he).elim (hevents e) (hevents' e)
  · rw [hbuffer', hbuffer, List.append_assoc]
  · rw [hinput, hinput', List.append_assoc]
  · obtain rfl | hlength' := hlength'
    · rw [List.append_nil] at hbuffer' ⊢
      rwa [hbuffer']
    · exact .inr hlength'

/-- The stream from the first byte of the buffer on is what it was. -/
theorem Reads.stream {amount : ℕ} {c c' : SyncConnection} {t : List SyncEvent}
    (h : Reads amount c t c') : c'.ackBuffer ++ c'.input = c.ackBuffer ++ c.input := by
  obtain ⟨-, -, read, hbuffer, hinput, -⟩ := h
  rw [hbuffer, hinput, List.append_assoc]

/-- A buffer that has the amount stays as it is. -/
theorem Reads.length_le {amount : ℕ} {c c' : SyncConnection} {t : List SyncEvent}
    (h : Reads amount c t c') (hle : c.ackBuffer.length ≤ amount) : c'.ackBuffer.length ≤ amount := by
  obtain ⟨-, -, read, hbuffer, -, hnil | hlength⟩ := h
  · rwa [hbuffer, hnil, List.append_nil]
  · exact hlength

theorem adbRead_reads (n : ℕ) (c : SyncConnection) :
    Prog.Runs (adbRead env n) c fun read c' t =>
      t = [] ∧ SameQueue c c' ∧ match read with
        | none => c'.input = c.input
        | some read => 0 < read.length ∧ read.length ≤ n ∧ c.input = read ++ c'.input := by
  have hsame : SameQueue c c := ⟨rfl, rfl⟩
  refine nextCall_bind (.get_bind ?_)
  dsimp only
  cases env.readError c.calls with
  | some r => exact .modify_bind (.pure ⟨rfl, hsame, rfl⟩)
  | none =>
    dsimp only
    set read := c.input.take (min n (env.readSize c.calls + 1)) with hread
    have hle : read.length ≤ n := by
      rw [hread, List.length_take]
      omega
    split
    · exact .pure ⟨rfl, hsame, rfl⟩
    · rename_i hne
      refine .modify_bind (.pure ⟨rfl, hsame, List.length_pos_iff.mpr hne, hle, ?_⟩)
      exact (List.prefix_iff_eq_append.mp (List.take_prefix _ _)).symm

theorem mayRead_reads (shouldBlock : Bool) (c : SyncConnection) :
    Prog.Runs (mayRead env shouldBlock) c fun _ c' t =>
      t = [] ∧ SameQueue c c' ∧ c'.input = c.input := by
  unfold mayRead
  split
  · exact .pure ⟨rfl, ⟨rfl, rfl⟩, rfl⟩
  · exact nextCall_bind (.pure ⟨rfl, ⟨rfl, rfl⟩, rfl⟩)

/-- A round of `read_until_amount`. -/
theorem readUntilAmountRound_reads (shouldBlock : Bool) (amount : ℕ) (c : SyncConnection) :
    Prog.Runs (readUntilAmountRound env shouldBlock amount) c fun r c' t =>
      Reads amount c t c' ∧ match r with
        | .inl () => amount - c'.ackBuffer.length < amount - c.ackBuffer.length
        | .inr status => status = .success ↔ amount ≤ c'.ackBuffer.length := by
  refine .get_bind ?_
  split
  · rename_i hle
    exact .pure ⟨.refl amount c, iff_of_true rfl hle⟩
  rename_i hlt
  refine (mayRead_reads env shouldBlock c).bind fun ready c₁ t₁ ⟨ht₁, hc₁, hinput₁⟩ => ?_
  subst ht₁
  -- Nothing is read.
  have hnone : ∀ {c₂ : SyncConnection} {t : List SyncEvent} {status : ReadStatus},
      SameQueue c c₂ → c₂.input = c.input → (∀ e ∈ t, e.isReading = true) → status ≠ .success →
      Reads amount c t c₂ ∧ (status = .success ↔ amount ≤ c₂.ackBuffer.length) := by
    intro c₂ t status hc₂ hinput₂ ht hstatus
    refine ⟨⟨hc₂.1, ht, [], ?_, hinput₂.symm, .inl rfl⟩, iff_of_false hstatus ?_⟩
    · rw [hc₂.2, List.append_nil]
    · rwa [hc₂.2]
  cases ready with
  | false => exact .pure (hnone hc₁ hinput₁ (fun _ he => absurd he List.not_mem_nil) (by decide))
  | true =>
    refine .emit_bind ((adbRead_reads env _ c₁).bind fun read c₂ t₂ ⟨ht₂, hc₂, hread⟩ => ?_)
    subst ht₂
    have hqueue : SameQueue c c₂ := ⟨hc₂.1.trans hc₁.1, hc₂.2.trans hc₁.2⟩
    cases read with
    | none =>
      refine .emit_bind (.pure (hnone hqueue (hread.trans hinput₁) (fun e he => ?_) (by decide)))
      obtain rfl | he := List.mem_cons.mp he
      · rfl
      · rw [List.mem_singleton.mp he]
        decide
    | some read =>
      obtain ⟨hpos, hle, hinput⟩ := hread
      have hlength : (c.ackBuffer ++ read).length = c.ackBuffer.length + read.length :=
        List.length_append
      have hbound : (c.ackBuffer ++ read).length ≤ amount := by omega
      have hreads : ∀ {t : List SyncEvent}, (∀ e ∈ t, e.isReading = true) →
          Reads amount c t { c₂ with ackBuffer := c.ackBuffer ++ read } := fun ht =>
        ⟨hqueue.1, ht, read, rfl, hinput₁ ▸ hinput, .inr hbound⟩
      have hfill : ∀ e ∈ [SyncEvent.fill (syncStatusSize + syncDataMax - c.ackBuffer.length)
          (amount - c.ackBuffer.length)], e.isReading = true := fun e he =>
        List.mem_singleton.mp he ▸ rfl
      refine .modify_bind ?_
      split
      · rename_i hlater
        exact .pure ⟨hreads hfill, iff_of_false (by decide) (Nat.not_le_of_lt hlater.2)⟩
      · refine .pure ⟨hreads hfill, ?_⟩
        show amount - (c.ackBuffer ++ read).length < amount - c.ackBuffer.length
        omega

/-- `read_until_amount` succeeds exactly if it ends with the amount in the buffer. -/
theorem readUntilAmount_reads (shouldBlock : Bool) (amount : ℕ) (c : SyncConnection) :
    Prog.Runs (readUntilAmount env shouldBlock amount) c fun status c' t =>
      Reads amount c t c' ∧ (status = .success ↔ amount ≤ c'.ackBuffer.length) := by
  refine Prog.Runs.loop (m := fun c => amount - c.ackBuffer.length)
    (Q := fun (status : ReadStatus) c' t => Reads amount c t c' ∧
      (status = .success ↔ amount ≤ c'.ackBuffer.length))
    (I := fun _ c' t => Reads amount c t c') (fun _ c' t hc' => ?_) (amount + 1) () c []
    (.refl amount c) (by omega)
  refine (readUntilAmountRound_reads env shouldBlock amount c').mono fun r c'' t' ⟨hc'', hr⟩ => ?_
  cases r with
  | inl u => exact ⟨hc'.trans hc'', hr⟩
  | inr status => exact ⟨hc'.trans hc'', hr⟩

/-- A read for a larger amount. -/
theorem Reads.mono {amount amount' : ℕ} {c c' : SyncConnection} {t : List SyncEvent}
    (h : Reads amount c t c') (hle : amount ≤ amount') : Reads amount' c t c' := by
  obtain ⟨hdeferred, hevents, read, hbuffer, hinput, hlength⟩ := h
  exact ⟨hdeferred, hevents, read, hbuffer, hinput, hlength.imp id fun h => h.trans hle⟩

/-! ## A round of `ReadAcknowledgements` -/

variable {env}

/-- What a run without a new file has to do. -/
theorem Answers.intro {c c' : SyncConnection} {t : List SyncEvent} (hsent : sentFiles t = [])
    (hqueue : c.deferred = answeredFiles t ++ c'.deferred)
    (hreported : responses.cut c.ackBuffer = .incomplete → ∃ left rest,
      Reported c.deferred (c.ackBuffer ++ c.input) (reports (beforeMalformed t)) left rest ∧
      (Clean t → left = c'.deferred ∧ rest = c'.ackBuffer ++ c'.input ∧
        responses.cut c'.ackBuffer = .incomplete)) : Answers c t c' := by
  refine ⟨⟨?_, fun t' ht' => ?_, ?_⟩, hsent⟩
  · rw [hsent, List.append_nil, hqueue]
  · have hanswered : answeredFiles t' <+: answeredFiles t := ht'.filterMap _
    have hfront : answeredFiles t <+: c.deferred := ⟨c'.deferred, hqueue.symm⟩
    exact (hanswered.trans hfront).trans (List.prefix_append _ _)
  · rwa [hsent, List.append_nil]

/-- The response that has begun is still incomplete. -/
theorem answers_of_reads {amount : ℕ} {c c' : SyncConnection} {t : List SyncEvent}
    (h : Reads amount c t c')
    (hcut : responses.cut c.ackBuffer = .incomplete → responses.cut c'.ackBuffer = .incomplete) :
    Answers c t c' := by
  obtain ⟨hclean, hreports, hsent, hanswered⟩ := reading_spec h.events
  refine .intro hsent ?_ fun hincomplete => ⟨c.deferred, c.ackBuffer ++ c.input, ?_, ?_⟩
  · rw [hanswered, h.deferred, List.nil_append]
  · rw [beforeMalformed_self hclean, hreports]
    exact .nil _ _
  · exact fun _ => ⟨h.deferred.symm, h.stream.symm, hcut hincomplete⟩

/-- The response turns out to be malformed. -/
theorem answers_of_malformed {amount : ℕ} {c c₁ c' : SyncConnection} {t : List SyncEvent}
    {text : Bytes} (h : Reads amount c t c₁) (hdeferred : c'.deferred = c₁.deferred)
    (htext : (SyncEvent.error text).isMalformed = true) : Answers c (t ++ [.error text]) c' := by
  obtain ⟨hclean, hreports, hsent, hanswered⟩ := reading_spec h.events
  refine .intro ?_ ?_ fun _ => ⟨c.deferred, c.ackBuffer ++ c.input, ?_, fun hall => ?_⟩
  · rw [sentFiles_append, hsent]
    rfl
  · rw [answeredFiles_append, hanswered, hdeferred, h.deferred]
    rfl
  · have hstops : beforeMalformed [.error text] = [] := by
      rw [beforeMalformed, List.takeWhile_cons, htext]
      rfl
    rw [beforeMalformed_append hclean, hstops, List.append_nil, hreports]
    exact .nil _ _
  · have hfalse := hall (.error text) (List.mem_append_right t (List.mem_singleton_self _))
    rw [htext] at hfalse
    cases hfalse

/-- The response is complete, and it is reported for the first file. -/
theorem answers_of_report {amount : ℕ} {c c₁ c' : SyncConnection} {t : List SyncEvent}
    {file : Bytes × Bytes} {r : Response} (h : Reads amount c t c₁)
    (hdeferred : c₁.deferred = file :: c'.deferred) (hbuffer : c'.ackBuffer = [])
    (hinput : c'.input = c₁.input)
    (hcut : responses.cut c.ackBuffer = .incomplete → responses.cut c₁.ackBuffer = .frame r []) :
    Answers c (t ++ report (file, r)) c' := by
  obtain ⟨hclean, hreports, hsent, hanswered⟩ := reading_spec h.events
  obtain ⟨hclean', hreports', hsent', hanswered'⟩ := report_spec file r
  have hqueue : c.deferred = file :: c'.deferred := h.deferred.symm.trans hdeferred
  refine .intro ?_ ?_ fun hincomplete => ⟨c'.deferred, c₁.input, ?_, fun _ => ?_⟩
  · rw [sentFiles_append, hsent, hsent', List.append_nil]
  · rw [answeredFiles_append, hanswered, hanswered', hqueue]
    rfl
  · rw [beforeMalformed_append hclean, beforeMalformed_self hclean', reports_append, hreports,
      hreports', hqueue, ← h.stream, List.nil_append]
    exact .single (Framing.cut_of_frame (hcut hincomplete) c₁.input)
  · exact ⟨rfl, by rw [hbuffer, hinput, List.nil_append], by rw [hbuffer]; rfl⟩

/-- A buffer is the beginning of a response when its header is not complete, or when it is that of a
failure and the message is not. -/
theorem cut_incomplete_iff (s : Bytes) : responses.cut s = .incomplete ↔
    s.length < syncStatusSize ∨ (wordAt s 0 ≠ SyncId.okay.word ∧ wordAt s 0 = SyncId.fail.word ∧
      (wordAt s 4).toNat ≤ syncDataMax ∧ s.length < syncStatusSize + (wordAt s 4).toNat) := by
  show cutResponse s = .incomplete ↔ _
  unfold cutResponse
  by_cases hshort : s.length < syncStatusSize
  · simp [hshort]
  simp only [hshort, if_false, false_or]
  by_cases hokay : wordAt s 0 = SyncId.okay.word
  · simp only [hokay, if_true, ne_eq, not_true_eq_false, false_and, iff_false]
    split <;> exact fun h => nomatch h
  by_cases hbad : wordAt s 0 ≠ SyncId.fail.word ∨ syncDataMax < (wordAt s 4).toNat
  · simp only [if_neg hokay, if_pos hbad]
    refine iff_of_false (fun h => nomatch h) fun ⟨_, hfail, hlen, _⟩ => ?_
    exact hbad.elim (absurd hfail) (Nat.not_lt_of_le hlen)
  · simp only [if_neg hokay, if_neg hbad]
    obtain ⟨hfail, hlen⟩ := not_or.mp hbad
    have hheader : wordAt s 0 ≠ SyncId.okay.word ∧ wordAt s 0 = SyncId.fail.word ∧
        (wordAt s 4).toNat ≤ syncDataMax := ⟨hokay, not_not.mp hfail, Nat.le_of_not_lt hlen⟩
    split
    · rename_i hwait
      exact iff_of_true rfl ⟨hheader.1, hheader.2.1, hheader.2.2, hwait⟩
    · rename_i hwait
      exact iff_of_false (fun h => nomatch h) fun h => hwait h.2.2.2

/-- What is in the buffer once a header has been read: no more than the header, unless it was there
before with a part of its message. -/
theorem header_cases {c c₁ : SyncConnection} {t : List SyncEvent}
    (h : Reads syncStatusSize c t c₁) (hheader : syncStatusSize ≤ c₁.ackBuffer.length)
    (hincomplete : responses.cut c.ackBuffer = .incomplete) :
    c₁.ackBuffer.length = syncStatusSize ∨ responses.cut c₁.ackBuffer = .incomplete := by
  obtain ⟨-, -, read, hbuffer, -, hnil | hle⟩ := h
  · right
    rwa [hbuffer, hnil, List.append_nil]
  · exact .inl (Nat.le_antisymm hle hheader)

/-- A header that says that all is well, with nothing behind it. -/
theorem cut_okay {s : Bytes} (hlength : s.length = syncStatusSize)
    (hokay : wordAt s 0 = SyncId.okay.word) (hzero : wordAt s 4 = 0) :
    responses.cut s = .frame .okay [] := by
  show cutResponse s = _
  have hnone : s.drop syncStatusSize = [] := List.drop_eq_nil_of_le (Nat.le_of_eq hlength)
  rw [cutResponse, if_neg (by omega), if_pos hokay, if_pos hzero, hnone]

/-- The header of a failure, with its message and nothing behind it. -/
theorem cut_fail {s : Bytes} (hokay : wordAt s 0 ≠ SyncId.okay.word)
    (hfail : wordAt s 0 = SyncId.fail.word) (hmsglen : (wordAt s 4).toNat ≤ syncDataMax)
    (hlength : s.length = syncStatusSize + (wordAt s 4).toNat) :
    responses.cut s = .frame (.fail (s.drop syncStatusSize)) [] := by
  show cutResponse s = _
  have hgood : ¬ (wordAt s 0 ≠ SyncId.fail.word ∨ syncDataMax < (wordAt s 4).toNat) :=
    fun h => h.elim (absurd hfail) (Nat.not_lt_of_le hmsglen)
  have hnone : s.drop (syncStatusSize + (wordAt s 4).toNat) = [] :=
    List.drop_eq_nil_of_le (Nat.le_of_eq hlength)
  have hall : (s.drop syncStatusSize).take (wordAt s 4).toNat = s.drop syncStatusSize := by
    refine List.take_of_length_le ?_
    rw [List.length_drop]
    omega
  rw [cutResponse, if_neg (by omega), if_neg hokay, if_neg hgood, if_neg (by omega), hnone, hall]

variable (env)

/-- A round of `ReadAcknowledgements` reports a file for a response, or leaves both where they
are. -/
theorem readAcknowledgementsRound_answers (readAll : Bool) :
    Prog.Obeys Answers (readAcknowledgementsRound env readAll) := by
  intro c
  refine .get_bind ?_
  by_cases hnil : c.deferred = []
  · rw [if_pos hnil]
    exact .pure (Answers.composes.nil c)
  rw [if_neg hnil]
  obtain ⟨file, deferred, hdeferred⟩ := List.exists_cons_of_ne_nil hnil
  refine (readUntilAmount_reads env _ _ c).bind fun status c₁ t₁ ⟨h₁, hstatus⟩ => ?_
  -- Without a header there is no response yet.
  have hshort : status ≠ .success → Answers c (t₁ ++ []) c₁ := by
    intro hne
    rw [List.append_nil]
    refine answers_of_reads h₁ fun _ => (cut_incomplete_iff _).mpr (.inl ?_)
    exact Nat.lt_of_not_le fun hle => hne (hstatus.mpr hle)
  cases status with
  | tryLater => exact .pure (hshort (by decide))
  | failure => exact .pure (hshort (by decide))
  | success =>
    have hheader : syncStatusSize ≤ c₁.ackBuffer.length := hstatus.mp rfl
    have hfirst := header_cases h₁ hheader
    have hqueue : c₁.deferred = file :: deferred := h₁.deferred.trans hdeferred
    refine .get_bind ?_
    dsimp only
    by_cases hokay : wordAt c₁.ackBuffer 0 = SyncId.okay.word
    · rw [if_pos hokay]
      refine .modify_bind ?_
      split
      · refine .emit_bind (.pure (answers_of_malformed h₁ rfl ?_))
        simp only [SyncEvent.isMalformed, List.append_assoc, startsWith_self, Bool.true_or]
      rename_i hzero
      refine (copyDone_runs (c := { c₁ with ackBuffer := [] }) hqueue).bind
        fun _ c₂ t₂ ⟨hc₂, ht₂⟩ => ?_
      subst hc₂ ht₂
      refine .pure ?_
      rw [List.append_nil]
      refine @answers_of_report _ _ c₁ _ _ file .okay h₁ hqueue rfl rfl fun hincomplete => ?_
      obtain hlength | hwait := hfirst hincomplete
      · exact cut_okay hlength hokay (not_not.mp hzero)
      · -- What waits for its message is a failure.
        obtain hlt | ⟨hne, -⟩ := (cut_incomplete_iff _).mp hwait
        · exact absurd hlt (Nat.not_lt_of_le hheader)
        · exact absurd hokay hne
    rw [if_neg hokay]
    split
    · refine .emit_bind (.pure (answers_of_malformed h₁ rfl ?_))
      simp only [SyncEvent.isMalformed, startsWith_self, Bool.true_or, Bool.or_true]
    rename_i hfail
    split
    · refine .emit_bind (.pure (answers_of_malformed h₁ rfl ?_))
      simp only [SyncEvent.isMalformed, startsWith_self, Bool.or_true]
    rename_i hmsglen
    have hfail := not_not.mp hfail
    have hmsglen := Nat.le_of_not_lt hmsglen
    have hsize : syncStatusSize ≤ syncStatusSize + (wordAt c₁.ackBuffer 4).toNat :=
      Nat.le_add_right _ _
    refine (readUntilAmount_reads env _ _ c₁).bind fun status c₂ t₂ ⟨h₂, hstatus₂⟩ => ?_
    have hboth := (h₁.mono hsize).trans h₂
    obtain ⟨-, -, read, hbuffer, -, -⟩ := id h₂
    obtain ⟨hid, hlen⟩ := header_append hheader read
    rw [← hbuffer] at hid hlen
    -- Without the whole message the response is incomplete, and the buffer keeps what there is of
    -- it.
    have hpart : status ≠ .success → Answers c (t₁ ++ (t₂ ++ [])) c₂ := by
      intro hne
      rw [List.append_nil]
      refine answers_of_reads hboth fun _ => (cut_incomplete_iff _).mpr (.inr ?_)
      rw [hid, hlen]
      exact ⟨hokay, hfail, hmsglen, Nat.lt_of_not_le fun hle => hne (hstatus₂.mpr hle)⟩
    cases status with
    | tryLater => exact .pure (hpart (by decide))
    | failure => exact .pure (hpart (by decide))
    | success =>
      have hqueue₂ : c₂.deferred = file :: deferred := h₂.deferred.trans hqueue
      refine .get_bind ((reportDeferredCopyFailure_runs _ hqueue₂).bind fun _ c₃ t₃ ⟨hc₃, ht₃⟩ =>
        .modify_bind (.pure ?_))
      subst hc₃ ht₃
      rw [List.append_nil, ← List.append_assoc]
      refine @answers_of_report _ _ c₂ _ _ file (.fail (c₂.ackBuffer.drop syncStatusSize)) hboth hqueue₂
        rfl rfl fun hincomplete => ?_
      refine cut_fail (hid ▸ hokay) (hid ▸ hfail) (hlen ▸ hmsglen) (Nat.le_antisymm ?_ ?_)
      · rw [hlen]
        refine h₂.length_le ?_
        obtain hlength | hwait := hfirst hincomplete
        · omega
        · obtain hlt | ⟨-, -, -, hlt⟩ := (cut_incomplete_iff _).mp hwait
          · omega
          · exact Nat.le_of_lt hlt
      · rw [hlen]
        exact hstatus₂.mp rfl

theorem readAcknowledgements_answers (readAll : Bool) :
    Prog.Obeys Answers (readAcknowledgements env readAll) := fun c =>
  .get_bind (Prog.Obeys.loop Answers.composes
    (fun _ => readAcknowledgementsRound_answers env readAll) (c.deferred.length + 1) () c)

/-! ## Runs -/

/-- What the client does with the queue. -/
inductive QueueStep
  /-- `RecordFileSent`. -/
  | fileSent (lpath rpath : Bytes)
  /-- `ReadAcknowledgements`. -/
  | acknowledgements (readAll : Bool)
  deriving DecidableEq, Repr

/-- A step, and what `ReadAcknowledgements` returns. -/
def QueueStep.run : QueueStep → SyncM Bool
  | .fileSent lpath rpath => do
    recordFileSent lpath rpath
    return true
  | .acknowledgements readAll => readAcknowledgements env readAll

/-- Steps one after the other, and what the last one returns. -/
def queueRun (steps : List QueueStep) : SyncM Bool :=
  Prog.foldM (fun _ step => step.run env) true steps

/-- The files that the steps record. -/
def recorded (steps : List QueueStep) : List (Bytes × Bytes) :=
  steps.filterMap fun
    | .fileSent lpath rpath => some (lpath, rpath)
    | .acknowledgements _ => none

/-- A file that is sent comes to the end of the queue. -/
theorem matches_fileSent (lpath rpath : Bytes) (c : SyncConnection) :
    Matches c [.fileSent lpath rpath] { c with deferred := c.deferred ++ [(lpath, rpath)] } := by
  refine ⟨rfl, fun t' ht' => ?_, fun hcut => ?_⟩
  · obtain rfl | ⟨u, rfl, hu⟩ := List.prefix_cons_iff.mp ht'
    · exact List.nil_prefix
    · rw [List.prefix_nil.mp hu]
      exact List.nil_prefix
  · have hmore := (Reported.nil c.deferred (c.ackBuffer ++ c.input)).more [(lpath, rpath)]
    exact ⟨_, _, hmore, fun _ => ⟨rfl, rfl, hcut⟩⟩

theorem queueStep_matches (step : QueueStep) (c : SyncConnection) :
    Prog.Runs (step.run env) c fun _ c' t => Matches c t c' ∧ sentFiles t = recorded [step] := by
  cases step with
  | fileSent lpath rpath => exact ⟨true, rfl, matches_fileSent lpath rpath c, rfl⟩
  | acknowledgements readAll =>
    exact (readAcknowledgements_answers env readAll c).mono fun _ c' t h => ⟨h.matched, h.sent⟩

/-- Whatever the steps are, the queue and the stream match. -/
theorem queueRun_matches (steps : List QueueStep) (c : SyncConnection) :
    Prog.Runs (queueRun env steps) c fun _ c' t => Matches c t c' ∧
      sentFiles t = recorded steps := by
  have hrun : ∀ (steps : List QueueStep) (ok : Bool) (c : SyncConnection),
      Prog.Runs (Prog.foldM (fun _ step => step.run env) ok steps) c fun _ c' t =>
        Matches c t c' ∧ sentFiles t = recorded steps := by
    intro steps
    induction steps with
    | nil => exact fun ok c => .pure ⟨Matches.composes.nil c, rfl⟩
    | cons step steps ih =>
      intro ok c
      refine (queueStep_matches env step c).bind fun ok' c₁ t₁ ⟨h₁, hsent₁⟩ => ?_
      refine (ih ok' c₁).mono fun _ c₂ t₂ ⟨h₂, hsent₂⟩ => ⟨Matches.composes.append h₁ h₂, ?_⟩
      rw [sentFiles_append, hsent₁, hsent₂, recorded, recorded, ← List.filterMap_append]
      rfl
  exact hrun steps true c

/-- When `ReadAcknowledgements(true)` succeeds, no file is left. -/
theorem readAcknowledgements_reads_all (c : SyncConnection) :
    Prog.Runs (readAcknowledgements env true) c fun ok c' _ => ok = true → c'.deferred = [] := by
  by_cases hc : c.Ordered
  · exact (readAcknowledgements_runs env true c hc).mono fun ok c' t h hok => (h.settled hok rfl).1
  · -- With nothing outstanding it does not read.
    have hnil : c.deferred = [] := by
      by_contra hne
      exact hc fun h => absurd h hne
    refine .get_bind (.bind (M := fun r c' t => r = .inr true ∧ c' = c) ?_ fun r c' t ⟨hr, hc'⟩ => ?_)
    · refine .get_bind ?_
      rw [if_pos hnil]
      exact .pure ⟨rfl, rfl⟩
    · subst hr hc'
      exact .pure fun _ => hnil

/-- When the last step of a run is `ReadAcknowledgements(true)`, and it succeeds, no file is
left. -/
theorem queueRun_reads_all (steps : List QueueStep) (c : SyncConnection) :
    Prog.Runs (queueRun env (steps ++ [.acknowledgements true])) c fun ok c' _ =>
      ok = true → c'.deferred = [] := by
  rw [queueRun, Prog.foldM_append]
  refine (queueRun_matches env steps c).bind fun _ c₁ t₁ _ => ?_
  refine (readAcknowledgements_reads_all env c₁).bind fun ok c₂ t₂ hok => ?_
  exact .pure hok

/-- Files that are recorded and answers that are read, in any order: the stream may come in any
pieces, at any time, and reads and polls may fail. Up to the first malformed response, what is
reported is what the responses of the whole stream say of the files, in order. No file is taken off
the queue before it is sent; without a malformed response, the buffer and the stream have what
follows the responses that were reported, and the buffer no complete one. When the last step is
`ReadAcknowledgements(true)`, and it succeeds, every file that was sent is answered. -/
theorem acknowledgements_matched (input : Bytes) (decodes : List (DecodeResult × Bytes))
    (files : Bytes → Option Bytes) (steps : List QueueStep) :
    Prog.Runs (queueRun env steps) (.new input decodes files) fun ok c' t =>
      (∃ n, reports (beforeMalformed t) =
        (((recorded steps).zip (responses.frames input)).take n).flatMap report) ∧
      (∀ t', t' <+: t → answeredFiles t' <+: sentFiles t') ∧
      (Clean t → responses.cut c'.ackBuffer = .incomplete ∧
        ∃ rs, responses.Leads input rs (c'.ackBuffer ++ c'.input) ∧
          rs.length = (answeredFiles t).length) ∧
      ((∃ before, steps = before ++ [.acknowledgements true]) → ok = true →
        c'.deferred = [] ∧ answeredFiles t = recorded steps) := by
  -- That nothing is outstanding is a matter of the last step.
  have hlast : Prog.Runs (queueRun env steps) (.new input decodes files) fun ok c' _ =>
      (∃ before, steps = before ++ [.acknowledgements true]) → ok = true → c'.deferred = [] := by
    by_cases h : ∃ before, steps = before ++ [.acknowledgements true]
    · obtain ⟨before, rfl⟩ := h
      exact (queueRun_reads_all env before _).mono fun ok c' t hok _ => hok
    · exact (queueRun_matches env steps _).mono fun ok c' t _ hex => absurd hex h
  refine ((queueRun_matches env steps _).and hlast).mono
    fun ok c' t ⟨⟨hmatches, hsent⟩, hall⟩ => ?_
  have hqueue : recorded steps = answeredFiles t ++ c'.deferred := hsent ▸ hmatches.queue
  obtain ⟨left, rest, hreported, hclean⟩ := hmatches.reported rfl
  have hreported : Reported (recorded steps) input (reports (beforeMalformed t)) left rest :=
    hsent ▸ hreported
  refine ⟨hreported.take, hmatches.inTurn, fun ht => ?_, fun hex hok => ?_⟩
  · obtain ⟨rfl, rfl, hcut⟩ := hclean ht
    obtain ⟨answered, rs, hfiles, hleads, hlength, -⟩ := hreported
    have hanswered : answeredFiles t = answered :=
      List.append_cancel_right (hqueue.symm.trans hfiles)
    exact ⟨hcut, rs, hleads, by rw [hanswered, hlength]⟩
  · have hnil := hall hex hok
    rw [hnil, List.append_nil] at hqueue
    exact ⟨hnil, hqueue.symm⟩

end Read

end AdbMobile.Sync
