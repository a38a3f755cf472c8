import AdbMobile.Client.Sync.Connection

/-!
# What a status is read from

`FinishStat` reads a structure and checks it with `PLOG(FATAL)` and `LOG(FATAL)`, which return in
this build. So what the checks refuse is used all the same: a reply that is cut short has what was
in memory behind it, and a message of any id is read as a status. Only its error is looked at after
that.

A place in the conversation is what the device still sends and the number of calls made before; it
determines what an exchange comes to (`Place.exchange`). `sync_stat`, `sync_lstat` and
`sync_stat_fallback` return a status only from complete replies of an expected id exactly if each
reply that they get to is such a reply, or leaves something in the buffer that says that there was
an error (`stat_genuine_iff`).
-/

namespace AdbMobile.Sync

open ByteString PosixPath

/-! ## Replies -/

/-- A place in the conversation with the device. -/
structure Place where
  /-- What the device still sends. -/
  input : Bytes
  /-- The calls of the environment so far. -/
  calls : ℕ
  deriving DecidableEq, Repr

/-- Where the conversation of a connection is. -/
def SyncConnection.place (c : SyncConnection) : Place := ⟨c.input, c.calls⟩

section Replies

variable (env : SyncEnv)

/-- The size of a reply. -/
def SyncEnv.replySize : ℕ := if env.haveStatV2 then statV2Size else statV1Size

/-- A reply has one of the ids that `FinishStat` expects. -/
def SyncEnv.expectsId (mem : Bytes) : Bool :=
  if env.haveStatV2 then
    wordAt mem 0 == SyncId.lstatV2.word || wordAt mem 0 == SyncId.statV2.word
  else wordAt mem 0 == SyncId.lstatV1.word

/-- A reply says that there was an error. The first version has no room for it, and says so with
zeros. -/
def SyncEnv.saysError (mem : Bytes) : Bool :=
  if env.haveStatV2 then wordAt mem 4 != 0
  else wordAt mem 4 == 0 && wordAt mem 8 == 0 && wordAt mem 12 == 0

/-- The error of a reply. -/
def SyncEnv.replyErrno (mem : Bytes) : Errno :=
  if env.haveStatV2 then env.errnoFromWire (wordAt mem 4) else .enoprotoopt

/-- The fields of a reply. -/
def SyncEnv.statFields (mem : Bytes) : Stat :=
  if env.haveStatV2 then ⟨wordAt mem 24, signedLong (longAt mem 40), signedLong (longAt mem 56)⟩
  else ⟨wordAt mem 4, (wordAt mem 8).toNat, (wordAt mem 12).toNat⟩

/-- The status of a link that is taken for a directory. -/
def Stat.asDirectory (st : Stat) : Stat :=
  { st with size := 0, mode := st.mode &&& ~~~sIfmt ||| sIfdir }

/-- The status of a link that is taken for a file. -/
def Stat.asFile (st : Stat) : Stat :=
  { st with size := 0, mode := st.mode &&& ~~~sIfmt ||| sIfreg }

namespace Place

/-- The place behind a request that was sent. -/
def asked (p : Place) : Place := ⟨p.input, p.calls + 1⟩

/-- What is received of a reply. -/
def received (p : Place) : Bytes :=
  match env.readError p.calls with
  | some (m, _) => p.input.take (min m (env.replySize - 1))
  | none => p.input.take env.replySize

/-- The buffer that `FinishStat` looks at. -/
def buffer (p : Place) : Bytes := env.fillUp (p.received env) env.replySize

/-- The place behind a reply. -/
def replied (p : Place) : Place := ⟨p.input.drop (p.received env).length, p.calls + 1⟩

/-- Why a request is not sent, and the place behind it. -/
def refused (path : Bytes) (p : Place) : Option (Errno × Place) :=
  if 1024 < path.length then some (.enametoolong, p)
  else (env.writeError p.calls).map fun e => (e, p.asked)

/-- What a request and its reply come to, and the place behind them. -/
def exchange (path : Bytes) (p : Place) : Except Errno Stat × Place :=
  match p.refused env path with
  | some (e, q) => (.error e, q)
  | none =>
    (if env.saysError (p.asked.buffer env) then .error (env.replyErrno (p.asked.buffer env))
      else .ok (env.statFields (p.asked.buffer env)), p.asked.replied env)

/-- What `sync_stat` comes to: a device of the first version is not asked. -/
def statExchange (path : Bytes) (p : Place) : Except Errno Stat × Place :=
  if env.haveStatV2 then p.exchange env path else (.error .enotsup, p)

/-- What `sync_stat_fallback` comes to. -/
def fallback (path : Bytes) (p : Place) : Option Stat :=
  match p.statExchange env path with
  | (.ok st, _) => some st
  | (.error e, q) =>
    if e ≠ .enotsup then none
    else
      match q.exchange env path with
      | (.error _, _) => none
      | (.ok st, r) =>
        if isLnk st.mode then
          match (r.exchange env (path ++ [slash])).1 with
          | .ok _ => some st.asDirectory
          | .error _ => some st.asFile
        else some st

/-- A complete reply of an expected id was read for the path, which has no error and has this status
in its fields. -/
structure Genuine (path : Bytes) (p : Place) (st : Stat) : Prop where
  sent : p.refused env path = none
  complete : (p.asked.received env).length = env.replySize
  id : env.expectsId (p.asked.received env) = true
  noError : env.saysError (p.asked.received env) = false
  fields : st = env.statFields (p.asked.received env)

/-- The reply for a path, where it is asked for, is complete and of an expected id, or what is in
the buffer then says that there was an error. -/
def Sound (path : Bytes) (p : Place) : Prop :=
  p.refused env path = none →
    env.saysError (p.asked.buffer env) = true ∨
      ((p.asked.received env).length = env.replySize ∧ env.expectsId (p.asked.received env) = true)

end Place

end Replies

section Exchange

variable {env : SyncEnv} {path : Bytes} {p : Place}

namespace Place

/-- Behind a complete reply there is nothing of what was in memory. -/
theorem buffer_of_complete (h : (p.received env).length = env.replySize) :
    p.buffer env = p.received env := by
  rw [buffer, SyncEnv.fillUp, h, Nat.sub_self]
  exact List.append_nil _

/-- A genuine status is what the exchange comes to. -/
theorem Genuine.exchange {st : Stat} (h : p.Genuine env path st) :
    (p.exchange env path).1 = .ok st := by
  have hno : ¬ env.saysError (p.asked.received env) = true := by simp [h.noError]
  rw [Place.exchange, h.sent, buffer_of_complete h.complete]
  show (if env.saysError (p.asked.received env) then _ else _) = _
  rw [if_neg hno, h.fields]

/-- An exchange yields only genuine statuses exactly if its reply is sound. -/
theorem genuine_iff_sound :
    (∀ st, (p.exchange env path).1 = .ok st → p.Genuine env path st) ↔ p.Sound env path := by
  constructor
  · intro hall hsent
    by_cases herror : env.saysError (p.asked.buffer env) = true
    · exact .inl herror
    · have hok : (p.exchange env path).1 = .ok (env.statFields (p.asked.buffer env)) := by
        rw [Place.exchange, hsent]
        exact if_neg herror
      have hgenuine := hall _ hok
      exact .inr ⟨hgenuine.complete, hgenuine.id⟩
  · intro hsound st hst
    cases hrefused : p.refused env path with
    | some r =>
      rw [Place.exchange, hrefused] at hst
      cases hst
    | none =>
      rw [Place.exchange, hrefused] at hst
      dsimp only at hst
      by_cases herror : env.saysError (p.asked.buffer env) = true
      · rw [if_pos herror] at hst
        cases hst
      · rw [if_neg herror] at hst
        obtain ⟨hcomplete, hid⟩ := (hsound hrefused).resolve_left herror
        have hbuffer := buffer_of_complete hcomplete
        rw [hbuffer] at herror hst
        exact ⟨hrefused, hcomplete, hid, Bool.eq_false_iff.mpr herror, (Except.ok.inj hst).symm⟩

end Place

/-! ## The programs -/

/-- A program has returned what an exchange comes to, and is at the place behind it. -/
def ComesTo (o : Except Errno Stat × Place) (r : Option Stat) (c : SyncConnection) : Prop :=
  c.place = o.2 ∧ match o.1 with
    | .error e => r = none ∧ c.errno = e
    | .ok st => r = some st

/-- It has returned a status exactly where the exchange has come to it. -/
theorem ComesTo.some_iff {o : Except Errno Stat × Place} {r : Option Stat} {c : SyncConnection}
    (h : ComesTo o r c) {st : Stat} : Except.ok (ε := SyncStop) r = .ok (some st) ↔
      o.1 = .ok st := by
  obtain ⟨o, q⟩ := o
  cases o with
  | error e =>
    obtain rfl : r = none := h.2.1
    exact ⟨fun h => (by cases h), fun h => (by cases h)⟩
  | ok st' =>
    obtain rfl : r = some st' := h.2
    exact ⟨fun h => congrArg _ (Option.some.inj (Except.ok.inj h)),
      fun h => congrArg _ (congrArg _ (Except.ok.inj h))⟩

variable (env)

/-- A read of a reply. -/
theorem readReply_runs {n : ℕ} (hn : n = env.replySize) (c : SyncConnection) :
    Prog.Runs (readFdExactly env n) c fun r c' t =>
      r.2 = c.place.buffer env ∧ c'.place = c.place.replied env ∧ t = [] := by
  subst hn
  have hpos : env.replySize ≠ 0 := by
    unfold SyncEnv.replySize
    split <;> decide
  unfold readFdExactly
  rw [if_neg hpos]
  refine nextCall_bind (.get_bind ?_)
  unfold Place.buffer Place.replied Place.received SyncConnection.place
  dsimp only
  cases env.readError c.calls with
  | some r => exact .modify_bind (.pure ⟨rfl, rfl, rfl⟩)
  | none =>
    dsimp only
    split
    · rename_i hle
      refine .modify_bind (.pure ⟨?_, ?_, rfl⟩)
      · -- All of the reply is there.
        have hlen : (c.input.take env.replySize).length = env.replySize :=
          List.length_take_of_le hle
        rw [SyncEnv.fillUp, hlen, Nat.sub_self]
        exact (List.append_nil _).symm
      · rw [List.length_take_of_le hle]
    · rename_i hgt
      have hall : c.input.take env.replySize = c.input := List.take_of_length_le (by omega)
      rw [hall, List.drop_length]
      exact .modify_bind (.pure ⟨rfl, rfl, rfl⟩)

/-- `FinishStat` takes what is in the buffer for a status, unless it says that there was an
error. -/
theorem finishStat_runs (c : SyncConnection) :
    Prog.Runs (finishStat env) c fun r c' _ => c'.place = c.place.replied env ∧
      if env.saysError (c.place.buffer env) then
        r = none ∧ c'.errno = env.replyErrno (c.place.buffer env)
      else r = some (env.statFields (c.place.buffer env)) := by
  have hlog : ∀ fault text c, Prog.Runs (logFatalIf fault text) c fun _ c' _ => c' = c := by
    intro fault text c
    unfold logFatalIf
    split
    · exact ⟨(), rfl, rfl⟩
    · exact .pure rfl
  have hstart : Prog.Runs startReply c fun _ c' _ => c' = c := ⟨(), rfl, rfl⟩
  refine hstart.bind fun _ c₀ _ hc₀ => ?_
  subst hc₀
  -- The two versions read replies of different sizes and look for the error in different words.
  by_cases hv2 : env.haveStatV2 = true
  · rw [if_pos hv2]
    refine (readReply_runs env (by rw [SyncEnv.replySize, if_pos hv2]) c₀).bind
      fun ⟨ok, msg⟩ c₁ _ ⟨hmsg, hplace, _⟩ => ?_
    -- The checks return, whether they succeed or not.
    refine (hlog _ _ c₁).bind fun _ c₂ _ hc₂ => (hlog _ _ c₂).bind fun _ c₃ _ hc₃ => ?_
    subst hc₂ hc₃
    dsimp only at hmsg
    rw [← hmsg, SyncEnv.saysError, SyncEnv.replyErrno, SyncEnv.statFields, if_pos hv2, if_pos hv2,
      if_pos hv2]
    by_cases herror : wordAt msg 4 ≠ 0
    · rw [if_pos herror]
      refine ⟨none, rfl, hplace, ?_⟩
      rw [if_pos (by simpa using herror)]
      exact ⟨rfl, rfl⟩
    · rw [if_neg herror]
      refine .pure ⟨hplace, ?_⟩
      rw [if_neg (by simpa using herror)]
  · rw [if_neg hv2]
    refine (readReply_runs env (by rw [SyncEnv.replySize, if_neg hv2]) c₀).bind
      fun ⟨ok, msg⟩ c₁ _ ⟨hmsg, hplace, _⟩ => ?_
    refine (hlog _ _ c₁).bind fun _ c₂ _ hc₂ => (hlog _ _ c₂).bind fun _ c₃ _ hc₃ => ?_
    subst hc₂ hc₃
    dsimp only at hmsg
    rw [← hmsg, SyncEnv.saysError, SyncEnv.replyErrno, SyncEnv.statFields, if_neg hv2, if_neg hv2,
      if_neg hv2]
    by_cases herror : wordAt msg 4 = 0 ∧ wordAt msg 8 = 0 ∧ wordAt msg 12 = 0
    · rw [if_pos herror]
      refine ⟨none, rfl, hplace, ?_⟩
      rw [if_pos (by simpa [and_assoc] using herror)]
      exact ⟨rfl, rfl⟩
    · rw [if_neg herror]
      refine .pure ⟨hplace, ?_⟩
      rw [if_neg (by simpa [and_assoc] using herror)]

/-- A request is sent, or it is refused. -/
theorem sendRequest_place (id : SyncId) (path : Bytes) (c : SyncConnection) :
    Prog.Runs (sendRequest env id path) c fun ok c' _ =>
      match c.place.refused env path with
      | some (e, q) => ok = false ∧ c'.errno = e ∧ c'.place = q
      | none => ok = true ∧ c'.place = c.place.asked := by
  rw [sendRequest, Place.refused]
  split
  · exact ⟨false, rfl, rfl, rfl, rfl⟩
  · refine nextCall_bind ?_
    have hcalls : c.place.calls = c.calls := rfl
    rw [hcalls]
    cases env.writeError c.calls with
    | some e => exact ⟨false, rfl, rfl, rfl, rfl⟩
    | none => exact ⟨true, rfl, rfl, rfl⟩

/-- A request for a status, and its reply. -/
theorem exchange_runs (id : SyncId) (path : Bytes) (c : SyncConnection) :
    Prog.Runs (do if ← sendRequest env id path then finishStat env else return none) c
      fun r c' _ => ComesTo (c.place.exchange env path) r c' := by
  refine (sendRequest_place env id path c).bind fun ok c₁ _ hsend => ?_
  rw [Place.exchange]
  cases hrefused : c.place.refused env path with
  | some r =>
    obtain ⟨e, q⟩ := r
    rw [hrefused] at hsend
    obtain ⟨rfl, herrno, hplace⟩ := hsend
    exact .pure ⟨hplace, rfl, herrno⟩
  | none =>
    rw [hrefused] at hsend
    obtain ⟨rfl, hplace⟩ := hsend
    refine (finishStat_runs env c₁).mono fun r c₂ _ ⟨hreplied, hr⟩ => ?_
    rw [hplace] at hreplied hr
    refine ⟨hreplied, ?_⟩
    dsimp only
    split at hr
    · rename_i herror
      rw [if_pos herror]
      exact hr
    · rename_i herror
      rw [if_neg herror]
      exact hr

/-- `sync_lstat` is an exchange. -/
theorem syncLstat_runs (path : Bytes) (c : SyncConnection) :
    Prog.Runs (syncLstat env path) c fun r c' _ => ComesTo (c.place.exchange env path) r c' := by
  unfold syncLstat sendLstat
  split
  · exact exchange_runs env _ path c
  · exact exchange_runs env _ path c

/-- `sync_stat` is one where the device has the second version. -/
theorem syncStat_runs (path : Bytes) (c : SyncConnection) :
    Prog.Runs (syncStat env path) c fun r c' _ => ComesTo (c.place.statExchange env path) r c' := by
  rw [syncStat, sendStat, Place.statExchange]
  split
  · exact exchange_runs env _ path c
  · exact ⟨none, rfl, rfl, rfl, rfl⟩

/-- What `sync_stat_fallback` comes to. -/
theorem syncStatFallback_runs (path : Bytes) (c : SyncConnection) :
    Prog.Runs (syncStatFallback env path) c fun r _ _ => r = c.place.fallback env path := by
  refine (syncStat_runs env path c).bind fun r c₁ _ hr => ?_
  rw [Place.fallback]
  -- Each request of the code is one exchange of the place, and where it ends with a status, or with
  -- an error that is not ENOTSUP, so does the emulation.
  generalize c.place.statExchange env path = o at hr ⊢
  obtain ⟨o, q⟩ := o
  cases o with
  | ok st =>
    obtain rfl : r = some st := hr.2
    exact .pure rfl
  | error e =>
    obtain ⟨hplace₁, rfl, rfl⟩ : c₁.place = q ∧ r = none ∧ c₁.errno = e := hr
    subst hplace₁
    refine .get_bind ?_
    dsimp only
    split
    · exact .pure rfl
    refine (syncLstat_runs env path c₁).bind fun r c₂ _ hr => ?_
    generalize c₁.place.exchange env path = o at hr ⊢
    obtain ⟨o, q⟩ := o
    cases o with
    | error e =>
      obtain rfl : r = none := hr.2.1
      exact .pure rfl
    | ok st =>
      obtain ⟨hplace₂, rfl⟩ : c₂.place = q ∧ r = some st := hr
      subst hplace₂
      dsimp only
      split
      · refine (syncLstat_runs env (path ++ [slash]) c₂).bind fun r c₃ _ hr => ?_
        generalize c₂.place.exchange env (path ++ [slash]) = o at hr ⊢
        obtain ⟨o, q⟩ := o
        cases o with
        | error e =>
          obtain rfl : r = none := hr.2.1
          exact .pure rfl
        | ok st' =>
          obtain rfl : r = some st' := hr.2
          exact .pure rfl
      · exact .pure rfl

end Exchange

/-! ## Only complete replies -/

/-- The type in a mode, where it has been replaced. -/
theorem withType_and (mode type fmt : UInt32) :
    (mode &&& ~~~fmt ||| type) &&& fmt = type &&& fmt := by
  rw [← UInt32.toBitVec_inj]
  ext i hi
  simp only [UInt32.toBitVec_and, UInt32.toBitVec_or, UInt32.toBitVec_not, BitVec.getElem_and,
    BitVec.getElem_or, BitVec.getElem_not]
  cases mode.toBitVec[i] <;> cases type.toBitVec[i] <;> cases fmt.toBitVec[i] <;> rfl

theorem Stat.isDir_asDirectory (st : Stat) : isDir st.asDirectory.mode = true := by
  rw [isDir, asDirectory, withType_and]
  decide

theorem Stat.isDir_asFile (st : Stat) : isDir st.asFile.mode = false := by
  rw [isDir, asFile, withType_and]
  decide

/-- A link is not taken for a directory and a file. -/
theorem Stat.asFile_ne_asDirectory (st : Stat) : st.asFile ≠ st.asDirectory := by
  intro heq
  have hdir := st.isDir_asFile
  rw [heq, st.isDir_asDirectory] at hdir
  cases hdir

section Fallback

variable (env : SyncEnv)

/-- The status that `sync_stat_fallback` returns is that of a genuine reply to `sync_stat`, or where
that is not supported, of one to `sync_lstat`, in which a link is taken for a file, or, with a
genuine reply for the path with a slash after it, for a directory. -/
def Place.FallbackGenuine (path : Bytes) (p : Place) (st : Stat) : Prop :=
  (env.haveStatV2 = true ∧ p.Genuine env path st) ∨
  ∃ q st₀, p.statExchange env path = (.error .enotsup, q) ∧ q.Genuine env path st₀ ∧
    if isLnk st₀.mode then
      st = st₀.asFile ∨ (st = st₀.asDirectory ∧
        ∃ st₁, (q.exchange env path).2.Genuine env (path ++ [slash]) st₁)
    else st = st₀

/-- Each reply that `sync_stat_fallback` gets to is sound. -/
def Place.FallbackSound (path : Bytes) (p : Place) : Prop :=
  (env.haveStatV2 = true → p.Sound env path) ∧
  ∀ q, p.statExchange env path = (.error .enotsup, q) → q.Sound env path ∧
    ∀ st₀, (q.exchange env path).1 = .ok st₀ → isLnk st₀.mode = true →
      (q.exchange env path).2.Sound env (path ++ [slash])

variable {env} {path : Bytes} {p : Place}

/-- What the emulation returns for a status of `sync_lstat`. -/
theorem Place.fallback_of_enotsup {q : Place} {st₀ : Stat}
    (hstat : p.statExchange env path = (.error .enotsup, q)) (hlstat : (q.exchange env path).1 = .ok st₀) :
    p.fallback env path = some (if isLnk st₀.mode then
      match ((q.exchange env path).2.exchange env (path ++ [slash])).1 with
      | .ok _ => st₀.asDirectory
      | .error _ => st₀.asFile
    else st₀) := by
  have hexchange : q.exchange env path = (.ok st₀, (q.exchange env path).2) := by rw [← hlstat]
  rw [Place.fallback, hstat]
  dsimp only
  rw [if_neg (by simp), hexchange]
  dsimp only
  generalize (q.exchange env path).2 = r
  split
  · cases (r.exchange env (path ++ [slash])).1 with
    | ok _ => rfl
    | error _ => rfl
  · rfl

/-- Whatever the emulation returns, it has returned for a genuine reply to `sync_lstat`. -/
theorem Place.FallbackGenuine.emulated {q : Place} {st₀ st : Stat}
    (hstat : p.statExchange env path = (.error .enotsup, q)) (hlstat : (q.exchange env path).1 = .ok st₀)
    (h : p.FallbackGenuine env path st) :
    q.Genuine env path st₀ ∧ (isLnk st₀.mode = true → st = st₀.asFile ∨ (st = st₀.asDirectory ∧
      ∃ st₁, (q.exchange env path).2.Genuine env (path ++ [slash]) st₁)) := by
  obtain ⟨hv2, hgenuine⟩ | ⟨q', st₀', hstat', hgenuine, hst⟩ := h
  · -- The first exchange had an error.
    rw [Place.statExchange, if_pos hv2] at hstat
    have hok := hgenuine.exchange
    rw [hstat] at hok
    cases hok
  · obtain rfl : q' = q := congrArg Prod.snd (hstat'.symm.trans hstat)
    obtain rfl : st₀' = st₀ := Except.ok.inj (hgenuine.exchange.symm.trans hlstat)
    exact ⟨hgenuine, fun hlnk => by rwa [if_pos hlnk] at hst⟩

/-- What the first request returns is returned. -/
theorem Place.fallback_of_ok {st : Stat} (h : (p.statExchange env path).1 = .ok st) :
    p.fallback env path = some st := by
  rw [fallback]
  generalize p.statExchange env path = o at h ⊢
  obtain ⟨o, q⟩ := o
  obtain rfl : o = .ok st := h
  rfl

/-- Where only statuses of genuine replies are returned, each reply is sound. -/
theorem Place.fallbackSound_of_genuine
    (hall : ∀ st, p.fallback env path = some st → p.FallbackGenuine env path st) :
    p.FallbackSound env path := by
  refine ⟨fun hv2 => genuine_iff_sound.mp fun st hst => ?_, fun q hstat => ?_⟩
  · have hfirst : (p.statExchange env path).1 = .ok st := by rwa [statExchange, if_pos hv2]
    obtain ⟨-, hgenuine⟩ | ⟨q, st₀, hstat, -⟩ := hall st (fallback_of_ok hfirst)
    · exact hgenuine
    · rw [hstat] at hfirst
      cases hfirst
  · refine ⟨genuine_iff_sound.mp fun st₀ hlstat => ?_, fun st₀ hlstat hlnk =>
      genuine_iff_sound.mp fun st₁ hdir => ?_⟩
    · exact (FallbackGenuine.emulated hstat hlstat (hall _ (fallback_of_enotsup hstat hlstat))).1
    · -- The link leads to a directory, so the second reply was taken for genuine as well.
      have hresult := fallback_of_enotsup hstat hlstat
      rw [if_pos hlnk, hdir] at hresult
      obtain ⟨-, hst⟩ := FallbackGenuine.emulated hstat hlstat (hall _ hresult)
      obtain heq | ⟨-, st₁', hgenuine⟩ := hst hlnk
      · exact absurd heq.symm st₀.asFile_ne_asDirectory
      · obtain rfl : st₁' = st₁ := Except.ok.inj (hgenuine.exchange.symm.trans hdir)
        exact hgenuine

/-- Where each reply is sound, only statuses of genuine ones are returned. -/
theorem Place.fallbackGenuine_of_sound {st : Stat} (h : p.FallbackSound env path)
    (hst : p.fallback env path = some st) : p.FallbackGenuine env path st := by
  obtain ⟨hfirst, hrest⟩ := h
  cases hstat : p.statExchange env path with
  | mk o q =>
    cases o with
    | ok st' =>
      have hv2 : env.haveStatV2 = true := by
        by_contra hv1
        rw [statExchange, if_neg hv1] at hstat
        cases hstat
      rw [fallback, hstat] at hst
      obtain rfl := Option.some.inj hst
      rw [statExchange, if_pos hv2] at hstat
      exact .inl ⟨hv2, genuine_iff_sound.mpr (hfirst hv2) _ (by rw [hstat])⟩
    | error e =>
      -- The emulation is only tried where the device does not know the request.
      obtain rfl : e = .enotsup := by
        by_contra he
        rw [fallback, hstat] at hst
        dsimp only at hst
        rw [if_pos he] at hst
        cases hst
      obtain ⟨hsound, hlink⟩ := hrest q hstat
      cases hlstat : (q.exchange env path).1 with
      | error e =>
        have hexchange : q.exchange env path = (.error e, (q.exchange env path).2) := by
          rw [← hlstat]
        rw [fallback, hstat] at hst
        dsimp only at hst
        rw [if_neg (by simp), hexchange] at hst
        cases hst
      | ok st₀ =>
        have hgenuine := genuine_iff_sound.mpr hsound st₀ hlstat
        refine .inr ⟨q, st₀, hstat, hgenuine, ?_⟩
        rw [fallback_of_enotsup hstat hlstat] at hst
        obtain rfl := Option.some.inj hst
        by_cases hlnk : isLnk st₀.mode = true
        · rw [if_pos hlnk, if_pos hlnk]
          cases hdir : ((q.exchange env path).2.exchange env (path ++ [slash])).1 with
          | ok st₁ =>
            exact .inr ⟨rfl, st₁, genuine_iff_sound.mpr (hlink st₀ hlstat hlnk) st₁ hdir⟩
          | error e => exact .inl rfl
        · rw [if_neg hlnk, if_neg hlnk]

/-- The emulation returns only statuses of genuine replies exactly if each reply is sound. -/
theorem Place.fallback_genuine_iff :
    (∀ st, p.fallback env path = some st → p.FallbackGenuine env path st) ↔
      p.FallbackSound env path :=
  ⟨fallbackSound_of_genuine, fun h _ hst => fallbackGenuine_of_sound h hst⟩

end Fallback

/-- `sync_stat`, `sync_lstat` and `sync_stat_fallback` return, and each returns only the status of a
complete reply of an expected id and without an error, exactly if each reply that it gets to is such
a reply or leaves a buffer that says that there was an error. -/
theorem stat_genuine_iff (env : SyncEnv) (path : Bytes) (c : SyncConnection) :
    ((∀ st, (syncStat env path c).result = .ok (some st) → c.place.Genuine env path st) ↔
      (env.haveStatV2 = true → c.place.Sound env path)) ∧
    ((∀ st, (syncLstat env path c).result = .ok (some st) → c.place.Genuine env path st) ↔
      c.place.Sound env path) ∧
    ((∀ st, (syncStatFallback env path c).result = .ok (some st) →
        c.place.FallbackGenuine env path st) ↔ c.place.FallbackSound env path) := by
  obtain ⟨r, hstat, hr⟩ := syncStat_runs env path c
  obtain ⟨r', hlstat, hr'⟩ := syncLstat_runs env path c
  obtain ⟨_, hfallback, rfl⟩ := syncStatFallback_runs env path c
  rw [hstat, hlstat, hfallback]
  refine ⟨?_, ?_, ?_⟩
  · -- A device of the first version is not asked.
    refine (forall_congr' fun st => imp_congr_left hr.some_iff).trans ?_
    by_cases hv2 : env.haveStatV2 = true
    · rw [Place.statExchange, if_pos hv2, Place.genuine_iff_sound]
      exact ⟨fun h _ => h, fun h => h hv2⟩
    · rw [Place.statExchange, if_neg hv2]
      exact ⟨fun _ h => absurd h hv2, fun _ st h => by cases h⟩
  · rw [← Place.genuine_iff_sound]
    exact forall_congr' fun st => imp_congr_left hr'.some_iff
  · rw [← Place.fallback_genuine_iff]
    exact forall_congr' fun st => imp_congr_left ⟨Except.ok.inj, congrArg _⟩

/-- A reply of the second version that has no error and is no status. -/
def strangeReply : SyncConnection :=
  .new (wordBytes SyncId.fail.word ++ List.replicate 68 0) [] fun _ => none

/-- A message of any id is a status. -/
theorem strangeReply_not_genuine :
    ¬ ∀ (env : SyncEnv) (path : Bytes) (c : SyncConnection),
      (∀ st, (syncStat env path c).result = .ok (some st) → c.place.Genuine env path st) ∧
      (∀ st, (syncLstat env path c).result = .ok (some st) → c.place.Genuine env path st) ∧
      (∀ st, (syncStatFallback env path c).result = .ok (some st) →
        c.place.FallbackGenuine env path st) := by
  intro hall
  have hresult : (syncStat (.calm [lit "stat_v2"]) (lit "f") strangeReply).result =
      .ok (some ⟨0, 0, 0⟩) := by
    decide +kernel
  have hid := ((hall (.calm [lit "stat_v2"]) (lit "f") strangeReply).1 _ hresult).id
  revert hid
  decide +kernel

end AdbMobile.Sync
