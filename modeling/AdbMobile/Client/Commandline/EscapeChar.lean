import AdbMobile.Client.Commandline.Device

/-!
# What a raw terminal sends

`stdin_read_thread_loop` reads a raw standard input byte by byte and watches for the escape
character. At the start of a line it holds one back: a `.` behind it ends the session, a second one
is sent alone, and before any other byte it is sent after all.

Which bytes are sent is a matter of their place in what was typed. The definitions of the second
section say it without the states: where a line starts, where the session ends, and which bytes are
left out. A state stands for what was typed before (`loop_spec`): in the middle of a line, at its
start, or at its start with an escape character still to come.
-/

namespace AdbMobile.Client

open ByteString

/-! ## The loop -/

/-- What `unix_read_interruptible` returns before the input ends. -/
inductive StdinRead
  /-- `EINTR`: the size of the window has changed. -/
  | interrupted
  | byte (ch : UInt8)
  deriving DecidableEq, Repr

/-- What the loop does. -/
inductive StdinEvent
  | windowSizeChange
  /-- The bytes go to the device, in a packet or as they are. -/
  | write (data : Bytes)
  | closeStdin
  /-- `exit`, after the message. -/
  | disconnects
  deriving DecidableEq, Repr

/-- `send_window_size_change`. -/
def sendWindowSizeChange (protocol : Bool) : List StdinEvent :=
  if protocol then [.windowSizeChange] else []

/-- The state after a byte that is not the escape character. -/
def stateAfter (ch : UInt8) : EscapeState := if ch = 10 ∨ ch = 13 then .startOfLine else .midFlow

/-- The loop of `stdin_read_thread_loop` for a raw standard input with an escape character, where
every write succeeds. The reads end with the input. -/
def stdinReadLoop (protocol : Bool) (escapeChar : UInt8) :
    EscapeState → List StdinRead → List StdinEvent
  | _, [] => if protocol then [.closeStdin] else []
  | state, .interrupted :: reads =>
    sendWindowSizeChange protocol ++ stdinReadLoop protocol escapeChar state reads
  | state, .byte ch :: reads =>
    if ch = escapeChar then
      if state = .startOfLine then stdinReadLoop protocol escapeChar .inEscape reads
      else .write [ch] :: stdinReadLoop protocol escapeChar .midFlow reads
    else if state = .inEscape then
      if ch = 46 then [.disconnects]
      else .write [escapeChar, ch] :: stdinReadLoop protocol escapeChar (stateAfter ch) reads
    else .write [ch] :: stdinReadLoop protocol escapeChar (stateAfter ch) reads

/-- `stdin_read_thread_loop`. -/
def stdinReadThreadLoop (protocol : Bool) (escapeChar : UInt8) (reads : List StdinRead) :
    List StdinEvent :=
  sendWindowSizeChange protocol ++ stdinReadLoop protocol escapeChar .startOfLine reads

/-- The bytes that were typed. -/
def typedBytes (reads : List StdinRead) : Bytes := reads.filterMap fun
  | .interrupted => none
  | .byte ch => some ch

/-- The bytes written to the device. -/
def writtenBytes (events : List StdinEvent) : Bytes := events.flatMap fun
  | .write data => data
  | _ => []

/-! ## The places of the bytes -/

/-- A line starts behind the byte. -/
def endsLine (escapeChar ch : UInt8) : Bool := (ch = 10 ∨ ch = 13) ∧ ch ≠ escapeChar

section Places

variable (start : Bool) (escapeChar : UInt8) (typed : Bytes) (i : ℕ)

/-- A line starts at the place `i`; at the first place `start` says whether one does. -/
def lineStarts : Bool :=
  if i = 0 then start else typed[i - 1]?.any (endsLine escapeChar)

/-- An escape character at the start of a line. -/
def escapes : Bool := lineStarts start escapeChar typed i && typed[i]? == some escapeChar

/-- The session ends at the place `i`: an escape character with a `.` behind it. -/
def endsSession : Bool :=
  escapes start escapeChar typed i && typed[i + 1]? == some 46 && escapeChar != 46

/-- The byte at `i` is left out: an escape character with a second one behind it, or with none. -/
def leftOut : Bool :=
  escapes start escapeChar typed i &&
    (typed[i + 1]? == some escapeChar || typed[i + 1]? == none)

/-- The session goes on up to the place `n`, which is the first that ends it, or the end. -/
def StopsAt (n : ℕ) : Prop :=
  (∀ i < n, endsSession start escapeChar typed i = false) ∧
    (endsSession start escapeChar typed n = true ∨ n = typed.length)

/-- The bytes before `n` that are not left out, in order. -/
def keptBytes (n : ℕ) : Bytes :=
  ((List.range n).filter fun i => !leftOut start escapeChar typed i).map fun i => typed.getD i 0

end Places

/-! ## One byte more in front -/

section Shift

variable (start : Bool) (escapeChar ch : UInt8) (typed : Bytes) (i : ℕ)

@[simp] theorem lineStarts_succ : lineStarts start escapeChar (ch :: typed) (i + 1) =
    lineStarts (endsLine escapeChar ch) escapeChar typed i := by
  cases i with
  | zero => simp [lineStarts]
  | succ i => simp [lineStarts]

@[simp] theorem escapes_succ : escapes start escapeChar (ch :: typed) (i + 1) =
    escapes (endsLine escapeChar ch) escapeChar typed i := by
  simp [escapes]

@[simp] theorem endsSession_succ : endsSession start escapeChar (ch :: typed) (i + 1) =
    endsSession (endsLine escapeChar ch) escapeChar typed i := by
  simp [endsSession]

@[simp] theorem leftOut_succ : leftOut start escapeChar (ch :: typed) (i + 1) =
    leftOut (endsLine escapeChar ch) escapeChar typed i := by
  simp [leftOut]

@[simp] theorem escapes_zero :
    escapes start escapeChar (ch :: typed) 0 = (start && ch == escapeChar) := by
  simp [escapes, lineStarts]

/-- The bytes that are kept are those of the rest, and the first one unless it is left out. -/
theorem keptBytes_succ (n : ℕ) : keptBytes start escapeChar (ch :: typed) (n + 1) =
    (if leftOut start escapeChar (ch :: typed) 0 then [] else [ch]) ++
      keptBytes (endsLine escapeChar ch) escapeChar typed n := by
  unfold keptBytes
  rw [List.range_succ_eq_map, List.filter_cons]
  have hrest : (((List.range n).map Nat.succ).filter fun i =>
        !leftOut start escapeChar (ch :: typed) i).map (fun i => (ch :: typed).getD i 0) =
      ((List.range n).filter fun i =>
        !leftOut (endsLine escapeChar ch) escapeChar typed i).map fun i => typed.getD i 0 := by
    rw [List.filter_map, List.map_map]
    simp only [Function.comp_def, Nat.succ_eq_add_one, leftOut_succ, List.getD_cons_succ]
  cases leftOut start escapeChar (ch :: typed) 0 with
  | false => simpa using hrest
  | true => simpa using hrest

/-- The session stops one place further. -/
theorem StopsAt.succ {n : ℕ} (hfirst : endsSession start escapeChar (ch :: typed) 0 = false)
    (hstops : StopsAt (endsLine escapeChar ch) escapeChar typed n) :
    StopsAt start escapeChar (ch :: typed) (n + 1) := by
  obtain ⟨hbefore, hend⟩ := hstops
  constructor
  · intro i hi
    cases i with
    | zero => exact hfirst
    | succ i =>
      rw [endsSession_succ]
      exact hbefore i (by omega)
  · rcases hend with hends | rfl
    · exact .inl (by rw [endsSession_succ, hends])
    · exact .inr rfl

end Shift

/-! ## The loop -/

/-- What was written is what is kept of `typed` up to where the session stops, and `ended` says
whether it stops before the end. -/
def Accounts (start : Bool) (escapeChar : UInt8) (typed written : Bytes) (ended : Prop) : Prop :=
  ∃ n, StopsAt start escapeChar typed n ∧ written = keptBytes start escapeChar typed n ∧
    (ended ↔ n < typed.length)

namespace Accounts

variable {start : Bool} {escapeChar ch : UInt8} {typed written : Bytes} {ended : Prop}

theorem nil : Accounts start escapeChar [] [] False :=
  ⟨0, ⟨by simp, .inr rfl⟩, rfl, by simp⟩

/-- A byte that is sent. -/
theorem keep (hends : endsSession start escapeChar (ch :: typed) 0 = false)
    (hkept : leftOut start escapeChar (ch :: typed) 0 = false)
    (h : Accounts (endsLine escapeChar ch) escapeChar typed written ended) :
    Accounts start escapeChar (ch :: typed) (ch :: written) ended := by
  obtain ⟨n, hstops, rfl, hended⟩ := h
  refine ⟨n + 1, hstops.succ start escapeChar ch typed hends, ?_, ?_⟩
  · rw [keptBytes_succ, hkept]
    rfl
  · rw [hended, List.length_cons]
    omega

/-- A byte that is left out. -/
theorem leave (hends : endsSession start escapeChar (ch :: typed) 0 = false)
    (hleft : leftOut start escapeChar (ch :: typed) 0 = true)
    (h : Accounts (endsLine escapeChar ch) escapeChar typed written ended) :
    Accounts start escapeChar (ch :: typed) written ended := by
  obtain ⟨n, hstops, rfl, hended⟩ := h
  refine ⟨n + 1, hstops.succ start escapeChar ch typed hends, ?_, ?_⟩
  · rw [keptBytes_succ, hleft]
    rfl
  · rw [hended, List.length_cons]
    omega

/-- A byte that is no escape character at the start of a line is sent. -/
theorem plain (hplain : (start && ch == escapeChar) = false)
    (h : Accounts (endsLine escapeChar ch) escapeChar typed written ended) :
    Accounts start escapeChar (ch :: typed) (ch :: written) ended :=
  h.keep (by simp [endsSession, hplain]) (by simp [leftOut, hplain])

end Accounts

/-- A line starts with the byte that a state holds back, or with the next one. -/
def atLineStart : EscapeState → Bool
  | .midFlow => false
  | .startOfLine | .inEscape => true

/-- The byte that a state holds back. -/
def heldBack (escapeChar : UInt8) : EscapeState → Bytes
  | .inEscape => [escapeChar]
  | .midFlow | .startOfLine => []

/-- The state after a byte is at the start of a line exactly where the byte ends one. -/
theorem stateAfter_spec {escapeChar ch : UInt8} (hch : ch ≠ escapeChar) :
    atLineStart (stateAfter ch) = endsLine escapeChar ch ∧
      heldBack escapeChar (stateAfter ch) = [] := by
  by_cases hline : ch = 10 ∨ ch = 13
  · simp [stateAfter, endsLine, atLineStart, heldBack, hline, hch]
  · simp [stateAfter, endsLine, atLineStart, heldBack, hline]

@[simp] theorem writtenBytes_write (data : Bytes) (events : List StdinEvent) :
    writtenBytes (.write data :: events) = data ++ writtenBytes events := rfl

@[simp] theorem disconnects_mem_write (data : Bytes) (events : List StdinEvent) :
    .disconnects ∈ (.write data :: events : List StdinEvent) ↔ .disconnects ∈ events := by
  simp

/-- A change of the window size writes nothing of what was typed. -/
@[simp] theorem writtenBytes_windowSize (protocol : Bool) (events : List StdinEvent) :
    writtenBytes (sendWindowSizeChange protocol ++ events) = writtenBytes events := by
  cases protocol <;> rfl

@[simp] theorem disconnects_mem_windowSize (protocol : Bool) (events : List StdinEvent) :
    .disconnects ∈ sendWindowSizeChange protocol ++ events ↔ .disconnects ∈ events := by
  cases protocol <;> simp [sendWindowSizeChange]

/-- The end of the input writes nothing, and does not end the session. -/
theorem loop_nil (protocol : Bool) (escapeChar : UInt8) (state : EscapeState) :
    writtenBytes (stdinReadLoop protocol escapeChar state []) = [] ∧
      .disconnects ∉ stdinReadLoop protocol escapeChar state [] := by
  cases protocol <;> simp [stdinReadLoop, writtenBytes]

/-- An escape character held back when the input ends is left out. -/
theorem accounts_pending (escapeChar : UInt8) : Accounts true escapeChar [escapeChar] [] False :=
  Accounts.nil.leave (by simp [endsSession]) (by simp [leftOut])

/-- Of two escape characters at the start of a line the second is sent. -/
theorem Accounts.double {escapeChar : UInt8} {typed written : Bytes} {ended : Prop}
    (h : Accounts false escapeChar typed written ended) :
    Accounts true escapeChar (escapeChar :: escapeChar :: typed) (escapeChar :: written) ended := by
  have hline : endsLine escapeChar escapeChar = false := by simp [endsLine]
  have hsecond : Accounts false escapeChar (escapeChar :: typed) (escapeChar :: written) ended :=
    Accounts.plain rfl (by rwa [hline])
  refine Accounts.leave ?_ (by simp [leftOut]) (by rwa [hline])
  simp only [endsSession, escapes_zero, beq_self_eq_true, Bool.and_self, Bool.true_and]
  simp

/-- An escape character at the start of a line with a `.` behind it ends the session. -/
theorem accounts_disconnect {escapeChar : UInt8} (hne : (46 : UInt8) ≠ escapeChar) (typed : Bytes) :
    Accounts true escapeChar (escapeChar :: 46 :: typed) [] True := by
  refine ⟨0, ⟨by simp, .inl ?_⟩, rfl, by simp⟩
  simp [endsSession, hne.symm]

/-- Before any other byte the one held back is sent after all. -/
theorem Accounts.cough {escapeChar ch : UInt8} {typed written : Bytes} {ended : Prop}
    (hch : ch ≠ escapeChar) (hdot : ch ≠ 46)
    (h : Accounts (endsLine escapeChar ch) escapeChar typed written ended) :
    Accounts true escapeChar (escapeChar :: ch :: typed) (escapeChar :: ch :: written) ended := by
  refine Accounts.keep ?_ ?_ (Accounts.plain (by simp [hch]) h)
  · simp [endsSession, hdot]
  · simp [leftOut, hch]

/-- The loop accounts for the bytes typed, with the byte that its state holds back in front. -/
theorem loop_spec (protocol : Bool) (escapeChar : UInt8) (reads : List StdinRead) :
    ∀ state, Accounts (atLineStart state) escapeChar (heldBack escapeChar state ++ typedBytes reads)
      (writtenBytes (stdinReadLoop protocol escapeChar state reads))
      (.disconnects ∈ stdinReadLoop protocol escapeChar state reads) := by
  induction reads with
  | nil =>
    intro state
    obtain ⟨hwritten, hended⟩ := loop_nil protocol escapeChar state
    rw [hwritten, eq_false hended]
    cases state with
    | inEscape => exact accounts_pending escapeChar
    | midFlow | startOfLine => exact Accounts.nil
  | cons read reads ih =>
    intro state
    cases read with
    | interrupted =>
      rw [stdinReadLoop, writtenBytes_windowSize, disconnects_mem_windowSize]
      exact ih state
    | byte ch =>
      have htyped : typedBytes (.byte ch :: reads) = ch :: typedBytes reads := rfl
      rw [stdinReadLoop, htyped]
      by_cases hch : ch = escapeChar
      · subst hch
        have hmid : Accounts false ch (typedBytes reads) _ _ := ih .midFlow
        cases state with
        | startOfLine =>
          -- The byte is held back.
          rw [if_pos rfl, if_pos rfl]
          exact ih .inEscape
        | midFlow =>
          have hline : endsLine ch ch = false := by simp [endsLine]
          rw [if_pos rfl, if_neg (by decide), writtenBytes_write, disconnects_mem_write]
          exact Accounts.plain rfl (by rwa [hline])
        | inEscape =>
          -- Of two escape characters one is sent.
          rw [if_pos rfl, if_neg (by decide), writtenBytes_write, disconnects_mem_write]
          exact hmid.double
      · obtain ⟨hstart, hheld⟩ := stateAfter_spec hch
        have hafter := ih (stateAfter ch)
        rw [hstart, hheld, List.nil_append] at hafter
        cases state with
        | inEscape =>
          -- A dot ends the session, and before any other byte the one held back is sent.
          rw [if_neg hch, if_pos rfl]
          by_cases hdot : ch = 46
          · subst hdot
            rw [if_pos rfl, eq_true (List.mem_singleton.mpr rfl)]
            exact accounts_disconnect hch (typedBytes reads)
          · rw [if_neg hdot, writtenBytes_write, disconnects_mem_write]
            exact hafter.cough hch hdot
        | midFlow | startOfLine =>
          rw [if_neg hch, if_neg (by decide), writtenBytes_write, disconnects_mem_write]
          exact hafter.plain (by simp [hch])

/-- Nothing is done behind the end of the session. -/
def DisconnectsLast (events : List StdinEvent) : Prop :=
  ∀ before after, events = before ++ .disconnects :: after → after = []

namespace DisconnectsLast

theorem nil : DisconnectsLast [] := fun before after h => by simp at h

theorem singleton (event : StdinEvent) : DisconnectsLast [event] := fun before after h => by
  cases before with
  | nil => exact (List.cons.inj h).2.symm
  | cons _ before => exact absurd (List.cons.inj h).2 (by simp)

/-- Another event in front. -/
theorem cons {event : StdinEvent} {events : List StdinEvent} (hevent : event ≠ .disconnects)
    (h : DisconnectsLast events) : DisconnectsLast (event :: events) := fun before after heq => by
  cases before with
  | nil => exact absurd (List.cons.inj heq).1 hevent
  | cons _ before => exact h before after (List.cons.inj heq).2

theorem windowSize {events : List StdinEvent} (protocol : Bool) (h : DisconnectsLast events) :
    DisconnectsLast (sendWindowSizeChange protocol ++ events) := by
  cases protocol with
  | false => exact h
  | true => exact h.cons (by simp)

end DisconnectsLast

theorem loop_disconnectsLast (protocol : Bool) (escapeChar : UInt8) (reads : List StdinRead) :
    ∀ state, DisconnectsLast (stdinReadLoop protocol escapeChar state reads) := by
  induction reads with
  | nil =>
    intro state
    rw [stdinReadLoop]
    split
    · exact .singleton _
    · exact .nil
  | cons read reads ih =>
    intro state
    cases read with
    | interrupted => exact (ih state).windowSize protocol
    | byte ch =>
      rw [stdinReadLoop]
      split
      · split
        · exact ih .inEscape
        · exact (ih .midFlow).cons (by simp)
      · split
        · split
          · exact .singleton _
          · exact (ih _).cons (by simp)
        · exact (ih _).cons (by simp)

/-- The loop disconnects as `typesEscape` says. -/
theorem disconnects_iff_typesEscape (protocol : Bool) (escapeChar : UInt8)
    (reads : List StdinRead) : ∀ state,
    .disconnects ∈ stdinReadLoop protocol escapeChar state reads ↔
      typesEscape escapeChar state (typedBytes reads) = true := by
  induction reads with
  | nil =>
    intro state
    simp [(loop_nil protocol escapeChar state).2, typedBytes, typesEscape]
  | cons read reads ih =>
    intro state
    cases read with
    | interrupted =>
      rw [stdinReadLoop, disconnects_mem_windowSize]
      exact ih state
    | byte ch =>
      have htyped : typedBytes (.byte ch :: reads) = ch :: typedBytes reads := rfl
      rw [stdinReadLoop, htyped, typesEscape]
      by_cases hch : ch = escapeChar
      · rw [if_pos hch, if_pos hch]
        split
        · exact ih .inEscape
        · rw [disconnects_mem_write]
          exact ih .midFlow
      · rw [if_neg hch, if_neg hch]
        by_cases hesc : state = .inEscape
        · rw [if_pos hesc]
          by_cases hdot : ch = 46
          · simp [hesc, hdot]
          · rw [if_neg hdot, if_neg (fun h => hdot h.2), disconnects_mem_write]
            exact ih (stateAfter ch)
        · rw [if_neg hesc, if_neg (fun h => hesc h.1), disconnects_mem_write]
          exact ih (stateAfter ch)

/-- Every byte that was typed is accounted for: what is written are the bytes up to where the
session ends, without the escape characters that are left out, and nothing follows the end. -/
theorem typed_accounted (protocol : Bool) (escapeChar : UInt8) (reads : List StdinRead) :
    ∃ n, StopsAt true escapeChar (typedBytes reads) n ∧
      writtenBytes (stdinReadThreadLoop protocol escapeChar reads) =
        keptBytes true escapeChar (typedBytes reads) n ∧
      (.disconnects ∈ stdinReadThreadLoop protocol escapeChar reads ↔
        n < (typedBytes reads).length) ∧
      DisconnectsLast (stdinReadThreadLoop protocol escapeChar reads) := by
  obtain ⟨n, hstops, hwritten, hended⟩ := loop_spec protocol escapeChar reads .startOfLine
  refine ⟨n, hstops, ?_, ?_, (loop_disconnectsLast protocol escapeChar reads _).windowSize _⟩
  · rw [stdinReadThreadLoop, writtenBytes_windowSize]
    exact hwritten
  · rw [stdinReadThreadLoop, disconnects_mem_windowSize]
    exact hended

/-- After `~~` and a newline the session ends at `~.`: one `~` and the newline are sent. -/
example : stdinReadThreadLoop false 126 (([126, 126, 10, 126, 46, 65] : Bytes).map .byte) =
    [.write [126], .write [10], .disconnects] := by decide

end AdbMobile.Client
