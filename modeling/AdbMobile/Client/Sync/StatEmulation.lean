import AdbMobile.Client.Sync.StatReplies

/-!
# Emulating `stat`

A device without `stat_v2` answers only `lstat`. `sync_stat_fallback` asks it for the path, and
where that is a link for the path with a slash behind it, which is there exactly if the link leads
to a directory. Otherwise the link is taken for a file.

Both ways are compared on one file system, which maps paths to files, directories and symbolic
links. Two devices serve it, one of each version, and the client runs on the bytes that each of them
sends. What the emulation cannot see is a link that does not resolve: it is taken for a file as
well. Apart from these the two succeed for the same paths and agree on what is a directory
(`emulation_agrees`), unless the second question is too long to be asked.
-/

namespace AdbMobile.Sync

open ByteString PosixPath

/-! ## A file system -/

/-- What is at a path. A file is anything that is no directory and no link. -/
inductive Node
  | file (st : Stat) (type : st.mode &&& sIfmt ≠ 0) (notDir : isDir st.mode = false)
    (notLnk : isLnk st.mode = false)
  | directory (st : Stat) (dir : isDir st.mode = true)
  /-- A symbolic link, with the path that it leads to. -/
  | link (st : Stat) (lnk : isLnk st.mode = true) (target : Bytes)

/-- A file system: what is at each path that has no slash at its end, the root being at the one that
is empty then, and how many links a look-up follows. -/
structure RemoteFs where
  node : Bytes → Option Node
  linkLimit : ℕ

namespace RemoteFs

variable (fs : RemoteFs)

/-- `ENOTDIR` for what is no directory, where there is a slash at the end of the path. -/
def demand (path : Bytes) (st : Stat) : Except Errno Stat :=
  if path.getLast? = some slash ∧ isDir st.mode = false then .error (.other 20) else .ok st

/-- A look-up of a path, given what it comes to where a link leads to. -/
def arrive (follow : Bytes → Except Errno Stat) (path : Bytes) : Except Errno Stat :=
  if path = [] then .error .enoent
  else
    match fs.node (stripSlashes path) with
    | none => .error .enoent
    | some (.file st ..) => demand path st
    | some (.directory st _) => .ok st
    | some (.link _ _ target) => follow target >>= demand path

/-- A look-up that follows at most `n` links, and then ends with `ELOOP`. -/
def resolve : ℕ → Bytes → Except Errno Stat
  | 0 => fs.arrive fun _ => .error (.other 40)
  | n + 1 => fs.arrive (resolve n)

/-- `stat`. -/
def stat (path : Bytes) : Except Errno Stat := fs.resolve fs.linkLimit path

/-- `lstat`: a link at the end of the path is not followed, unless there is a slash behind it. -/
def lstat (path : Bytes) : Except Errno Stat :=
  match fs.node (stripSlashes path) with
  | some (.link st ..) => if path.getLast? = some slash ∨ path = [] then fs.stat path else .ok st
  | _ => fs.stat path

/-- The path is that of a link that does not resolve: it dangles, goes round in circles, or goes on
for too long. -/
def Dangles (path : Bytes) : Prop :=
  (∃ st, fs.lstat path = .ok st ∧ isLnk st.mode = true) ∧ ∃ e, fs.stat path = .error e

/-- The path is that of a link to a directory, and one that can be asked for without a slash behind
it only. -/
def BarelyFits (path : Bytes) : Prop :=
  path.length = 1024 ∧ (∃ st, fs.lstat path = .ok st ∧ isLnk st.mode = true) ∧
    ∃ st, fs.stat path = .ok st ∧ isDir st.mode = true

/-! ## What the look-ups have to do with each other -/

variable {fs}

/-- Each look-up starts in one way, whatever the limit. -/
theorem exists_stat_eq_arrive (fs : RemoteFs) : ∃ follow, fs.stat = fs.arrive follow := by
  unfold stat
  cases fs.linkLimit with
  | zero => exact ⟨_, rfl⟩
  | succ n => exact ⟨_, rfl⟩

/-- What is demanded of a path is the status itself, or an error. -/
theorem demand_eq_ok {path : Bytes} {st st' : Stat} (h : demand path st = .ok st') : st' = st := by
  unfold demand at h
  split at h
  · cases h
  · exact (Except.ok.inj h).symm

/-- A directory is no link. -/
theorem isLnk_of_isDir {mode : UInt32} (h : isDir mode = true) : isLnk mode = false := by
  have htype : mode &&& sIfmt = sIfdir := by simpa [isDir] using h
  rw [isLnk, htype]
  decide

/-- A look-up that follows links arrives at no link. -/
theorem resolve_spec {n : ℕ} : ∀ {path : Bytes} {st : Stat}, fs.resolve n path = .ok st →
    isLnk st.mode = false ∧ st.mode &&& sIfmt ≠ 0 := by
  -- One step, for what a link leads to.
  have harrive : ∀ {follow : Bytes → Except Errno Stat},
      (∀ path st, follow path = .ok st → isLnk st.mode = false ∧ st.mode &&& sIfmt ≠ 0) →
      ∀ {path st}, fs.arrive follow path = .ok st →
        isLnk st.mode = false ∧ st.mode &&& sIfmt ≠ 0 := by
    intro follow hfollow path st h
    unfold arrive at h
    split at h
    · cases h
    cases hnode : fs.node (stripSlashes path) with
    | none =>
      rw [hnode] at h
      cases h
    | some node =>
      rw [hnode] at h
      cases node with
      | file st' type notDir notLnk =>
        obtain rfl := demand_eq_ok h
        exact ⟨notLnk, type⟩
      | directory st' dir =>
        obtain rfl := Except.ok.inj h
        have htype : st'.mode &&& sIfmt = sIfdir := by simpa [isDir] using dir
        exact ⟨isLnk_of_isDir dir, by rw [htype]; decide⟩
      | link _ _ target =>
        dsimp only at h
        cases htarget : follow target with
        | error e =>
          rw [htarget] at h
          cases h
        | ok st' =>
          rw [htarget] at h
          obtain rfl := demand_eq_ok h
          exact hfollow target _ htarget
  induction n with
  | zero => exact harrive fun _ _ h => by cases h
  | succ n ih => exact harrive fun _ _ h => ih h

/-- What is demanded of a path with a slash at its end does not fail with `ENOTSUP`. -/
theorem demand_error {path : Bytes} {st : Stat} {e : Errno} (h : demand path st = .error e) :
    e ≠ .enotsup := by
  unfold demand at h
  split at h
  · obtain rfl := Except.error.inj h
    exact nofun
  · cases h

/-- Nor does a look-up, where following a link does not. -/
theorem arrive_error {follow : Bytes → Except Errno Stat}
    (hfollow : ∀ path e, follow path = .error e → e ≠ .enotsup) {path : Bytes} {e : Errno}
    (h : fs.arrive follow path = .error e) : e ≠ .enotsup := by
  have hnone : (.error .enoent : Except Errno Stat) = .error e → e ≠ .enotsup := fun h => by
    obtain rfl := Except.error.inj h
    exact nofun
  unfold arrive at h
  split at h
  · exact hnone h
  cases hnode : fs.node (stripSlashes path) with
  | none =>
    rw [hnode] at h
    exact hnone h
  | some node =>
    rw [hnode] at h
    cases node with
    | file => exact demand_error h
    | directory => cases h
    | link _ _ target =>
      dsimp only at h
      cases htarget : follow target with
      | error e' =>
        rw [htarget] at h
        obtain rfl := Except.error.inj h
        exact hfollow target _ htarget
      | ok st =>
        rw [htarget] at h
        exact demand_error h

/-- No look-up fails with `ENOTSUP`, however many links it may still follow. -/
theorem resolve_error {n : ℕ} : ∀ {path : Bytes} {e : Errno}, fs.resolve n path = .error e →
    e ≠ .enotsup := by
  induction n with
  | zero =>
    intro path e
    -- The last link is not followed any more, and that is `ELOOP`.
    refine fs.arrive_error fun _ e h => ?_
    obtain rfl := Except.error.inj h
    exact nofun
  | succ n ih => exact fs.arrive_error fun _ _ h => ih h

/-- With a slash behind it, a path is looked up if it leads to a directory. -/
theorem stat_append_slash {path : Bytes} (hpath : path ≠ []) :
    fs.stat (path ++ [slash]) = fs.stat path >>= demand [slash] := by
  obtain ⟨follow, hstat⟩ := exists_stat_eq_arrive fs
  have hstrip : stripSlashes (path ++ [slash]) = stripSlashes path := by
    simp [stripSlashes]
  have hdemand : ∀ st, demand (path ++ [slash]) st = demand path st >>= demand [slash] := by
    intro st
    unfold demand
    cases hdir : isDir st.mode with
    | false =>
      simp only [List.getLast?_append, List.getLast?_singleton, Option.some_or, and_self, if_true]
      split
      · rfl
      · exact (by simp [bind, Except.bind, hdir])
    | true => simp [bind, Except.bind, hdir]
  rw [hstat]
  unfold arrive
  rw [if_neg hpath, if_neg (by simp), hstrip]
  cases fs.node (stripSlashes path) with
  | none => rfl
  | some node =>
    cases node with
    | file st type notDir notLnk => exact hdemand st
    | directory st dir => simp [bind, Except.bind, demand, dir]
    | link st lnk target =>
      dsimp only
      cases follow target with
      | error e => rfl
      | ok st' => exact hdemand st'

/-- `lstat` is `stat`, unless there is a link at the end of the path. -/
theorem lstat_cases (path : Bytes) : fs.lstat path = fs.stat path ∨
    ∃ st, fs.lstat path = .ok st ∧ isLnk st.mode = true ∧ path ≠ [] := by
  unfold lstat
  cases fs.node (stripSlashes path) with
  | none => exact .inl rfl
  | some node =>
    cases node with
    | file => exact .inl rfl
    | directory => exact .inl rfl
    | link st lnk target =>
      dsimp only
      split
      · exact .inl rfl
      · rename_i hend
        exact .inr ⟨st, rfl, lnk, fun h => hend (.inr h)⟩

theorem lstat_append_slash (path : Bytes) :
    fs.lstat (path ++ [slash]) = fs.stat (path ++ [slash]) := by
  unfold lstat
  split
  · rw [if_pos (.inl (by simp))]
  · rfl

/-- `lstat` of a path with a slash behind it succeeds exactly if the path leads to a directory. -/
theorem lstat_slash_iff {path : Bytes} (hpath : path ≠ []) :
    (∃ st, fs.lstat (path ++ [slash]) = .ok st) ↔ ∃ st, fs.stat path = .ok st ∧
      isDir st.mode = true := by
  rw [lstat_append_slash, stat_append_slash hpath]
  cases fs.stat path with
  | error e => simp [bind, Except.bind]
  | ok st => cases hdir : isDir st.mode <;> simp [bind, Except.bind, demand, hdir]

end RemoteFs

/-! ## The two devices -/

/-- The bytes of a double word, lowest first. -/
def longBytes (n : ℤ) : Bytes :=
  wordBytes (.ofInt n) ++ wordBytes (.ofInt (n / 2 ^ 32))

/-- A reply of the first version: an error is three zeros. -/
def statV1Reply : Except Errno Stat → Bytes
  | .ok st => wordBytes SyncId.lstatV1.word ++ wordBytes st.mode ++ wordBytes (.ofInt st.size) ++
      wordBytes (.ofInt st.mtime)
  | .error _ => wordBytes SyncId.lstatV1.word ++ wordBytes 0 ++ wordBytes 0 ++ wordBytes 0

/-- The fields of a reply of the second version that the client does not use. -/
structure StatRest where
  dev : ℤ
  ino : ℤ
  nlink : UInt32
  uid : UInt32
  gid : UInt32
  atime : ℤ
  ctime : ℤ

/-- A reply of the second version, where `toWire` is how the device sends an error. -/
def statV2Reply (toWire : Errno → UInt32) (rest : StatRest) : Except Errno Stat → Bytes
  | .ok st => wordBytes SyncId.statV2.word ++ wordBytes 0 ++ longBytes rest.dev ++
      longBytes rest.ino ++ wordBytes st.mode ++ wordBytes rest.nlink ++ wordBytes rest.uid ++
      wordBytes rest.gid ++ longBytes st.size ++ longBytes rest.atime ++ longBytes st.mtime ++
      longBytes rest.ctime
  | .error e => wordBytes SyncId.statV2.word ++ wordBytes (toWire e) ++ List.replicate 64 0

/-- Every read and write of the connection succeeds, where there is something to read. -/
structure SyncEnv.Works (env : SyncEnv) : Prop where
  reads : ∀ k, env.readError k = none
  writes : ∀ k, env.writeError k = none

/-- A device of the first version serves the path from the file system: it answers each request that
`sync_stat_fallback` sends. -/
structure ServesV1 (fs : RemoteFs) (path : Bytes) (env : SyncEnv) (c : SyncConnection) : Prop where
  version : env.haveStatV2 = false
  works : env.Works
  replies : path.length ≤ 1024 → ∃ more, c.input = statV1Reply (fs.lstat path) ++ more ∧
    ∀ st, fs.lstat path = .ok st → isLnk st.mode = true → path.length < 1024 →
      ∃ more', more = statV1Reply (fs.lstat (path ++ [slash])) ++ more'

/-- A device of the second version serves it. -/
structure ServesV2 (fs : RemoteFs) (path : Bytes) (env : SyncEnv) (c : SyncConnection) : Prop where
  version : env.haveStatV2 = true
  works : env.Works
  replies : path.length ≤ 1024 → ∃ (toWire : Errno → UInt32) (rest : StatRest) (more : Bytes),
    (∀ e, fs.stat path = .error e → toWire e ≠ 0 ∧ env.errnoFromWire (toWire e) = e) ∧
      c.input = statV2Reply toWire rest (fs.stat path) ++ more

section Serves

variable {fs : RemoteFs} {env : SyncEnv} {path : Bytes} {p : Place}

/-- Where all reads and writes work, an exchange reads the reply that is in the stream. -/
theorem exchange_of_reply (hworks : env.Works) {mem more : Bytes}
    (hmem : mem.length = env.replySize)
    (hinput : p.input = mem ++ more) (hlen : path.length ≤ 1024) :
    p.exchange env path =
      (if env.saysError mem then .error (env.replyErrno mem) else .ok (env.statFields mem),
        ⟨more, p.calls + 2⟩) := by
  have hreceived : p.asked.received env = mem := by
    rw [Place.received, hworks.reads, ← hmem]
    show p.input.take mem.length = mem
    rw [hinput, List.take_left]
  have hrefused : p.refused env path = none := by
    rw [Place.refused, if_neg (Nat.not_lt.mpr hlen), hworks.writes]
    rfl
  have hbuffer : p.asked.buffer env = mem := by
    rw [Place.buffer_of_complete (by rw [hreceived, hmem]), hreceived]
  have hreplied : p.asked.replied env = ⟨more, p.calls + 2⟩ := by
    rw [Place.replied, hreceived]
    show Place.mk (p.input.drop mem.length) _ = _
    rw [hinput, List.drop_left]
    rfl
  rw [Place.exchange, hrefused, hbuffer, hreplied]

/-- A request that is too long comes to nothing. -/
theorem exchange_tooLong (hlen : 1024 < path.length) :
    p.exchange env path = (.error .enametoolong, p) := by
  rw [Place.exchange, Place.refused, if_pos hlen]

/-- What is read of a look-up: an error, which the client takes for `error` of it, or its mode. -/
def Tells (error : Errno → Errno) (r o : Except Errno Stat) : Prop :=
  match r with
  | .error e => o = .error (error e)
  | .ok st => ∃ st', o = .ok st' ∧ st'.mode = st.mode

/-- What a client makes of a reply of the first version. -/
theorem exchange_v1 (hversion : env.haveStatV2 = false) (hworks : env.Works)
    {r : Except Errno Stat} (hr : ∀ st, r = .ok st → st.mode ≠ 0) {more : Bytes}
    (hinput : p.input = statV1Reply r ++ more) (hlen : path.length ≤ 1024) :
    ∃ o, p.exchange env path = (o, ⟨more, p.calls + 2⟩) ∧ Tells (fun _ => .enoprotoopt) r o := by
  have hv1 : ¬ env.haveStatV2 = true := by simp [hversion]
  have hsize : (statV1Reply r).length = env.replySize := by
    rw [SyncEnv.replySize, if_neg hv1]
    cases r <;> rfl
  refine ⟨_, exchange_of_reply hworks hsize hinput hlen, ?_⟩
  rw [SyncEnv.saysError, SyncEnv.replyErrno, SyncEnv.statFields, if_neg hv1, if_neg hv1, if_neg hv1]
  cases r with
  | error e =>
    have hzeros : statV1Reply (.error e) = statV1Reply (.error .enoent) := rfl
    rw [hzeros]
    exact if_pos (by decide)
  | ok st =>
    have hmode : wordAt (statV1Reply (.ok st)) 4 = st.mode := wordOfBytes_wordBytes st.mode
    rw [hmode, if_neg (by simp [hr st rfl])]
    exact ⟨_, rfl, rfl⟩

/-- What a client makes of a reply of the second version. -/
theorem exchange_v2 (hversion : env.haveStatV2 = true) (hworks : env.Works)
    {toWire : Errno → UInt32}
    {rest : StatRest} {r : Except Errno Stat} {more : Bytes}
    (hwire : ∀ e, r = .error e → toWire e ≠ 0 ∧ env.errnoFromWire (toWire e) = e)
    (hinput : p.input = statV2Reply toWire rest r ++ more)
    (hlen : path.length ≤ 1024) :
    ∃ o, p.exchange env path = (o, ⟨more, p.calls + 2⟩) ∧ Tells id r o := by
  have hsize : (statV2Reply toWire rest r).length = env.replySize := by
    rw [SyncEnv.replySize, if_pos hversion]
    cases r <;> rfl
  refine ⟨_, exchange_of_reply hworks hsize hinput hlen, ?_⟩
  rw [SyncEnv.saysError, SyncEnv.replyErrno, SyncEnv.statFields, if_pos hversion, if_pos hversion,
    if_pos hversion]
  cases r with
  | error e =>
    have hcode : wordAt (statV2Reply toWire rest (.error e)) 4 = toWire e :=
      wordOfBytes_wordBytes (toWire e)
    obtain ⟨hne, hback⟩ := hwire e rfl
    rw [hcode, hback, if_pos (by simp [hne])]
    rfl
  | ok st =>
    have hcode : wordAt (statV2Reply toWire rest (.ok st)) 4 = 0 := wordOfBytes_wordBytes 0
    have hmode : wordAt (statV2Reply toWire rest (.ok st)) 24 = st.mode :=
      wordOfBytes_wordBytes st.mode
    rw [hcode, hmode, if_neg (by decide)]
    exact ⟨_, rfl, rfl⟩

/-- A path that is too long has no status. -/
theorem fallback_tooLong (hlen : 1024 < path.length) : p.fallback env path = none := by
  rw [Place.fallback, Place.statExchange]
  by_cases hv2 : env.haveStatV2 = true
  · rw [if_pos hv2, exchange_tooLong hlen]
    exact if_pos (by decide)
  · rw [if_neg hv2]
    dsimp only
    rw [if_neg (by simp), exchange_tooLong hlen]

/-- With `stat_v2` the status is that of the file system. -/
theorem fallback_v2 {c : SyncConnection} (h : ServesV2 fs path env c) (hlen : path.length ≤ 1024) :
    (∀ e, fs.stat path = .error e → c.place.fallback env path = none) ∧
      ∀ st, fs.stat path = .ok st →
        ∃ st', c.place.fallback env path = some st' ∧ st'.mode = st.mode := by
  obtain ⟨toWire, rest, more, hwire, hinput⟩ := h.replies hlen
  obtain ⟨o, hexchange, ho⟩ := exchange_v2 (p := c.place) h.version h.works hwire hinput hlen
  rw [Place.fallback, Place.statExchange, if_pos h.version, hexchange]
  constructor
  · intro e hstat
    rw [hstat] at ho
    obtain rfl : o = .error e := ho
    exact if_pos (RemoteFs.resolve_error hstat)
  · intro st hstat
    rw [hstat] at ho
    obtain ⟨st', rfl, hmode⟩ : ∃ st', o = .ok st' ∧ st'.mode = st.mode := ho
    exact ⟨st', rfl, hmode⟩

/-- There is always a type in a mode, so no status looks like an error. -/
theorem lstat_mode {st : Stat} (h : fs.lstat path = .ok st) : st.mode ≠ 0 := by
  intro hzero
  obtain heq | ⟨st', heq, hlnk, -⟩ := @RemoteFs.lstat_cases fs path
  · obtain ⟨-, htype⟩ := RemoteFs.resolve_spec (heq.symm.trans h)
    rw [hzero] at htype
    exact absurd (by decide) htype
  · obtain rfl := Except.ok.inj (heq.symm.trans h)
    rw [hzero] at hlnk
    exact absurd hlnk (by decide)

/-- Without it the client asks for the path itself. -/
theorem fallback_v1 {c : SyncConnection} (h : ServesV1 fs path env c) (hlen : path.length ≤ 1024) :
    (∀ e, fs.lstat path = .error e → c.place.fallback env path = none) ∧
      ∀ st, fs.lstat path = .ok st → ∃ st', c.place.fallback env path = some st' ∧
        (isLnk st.mode = false → st'.mode = st.mode) ∧
        (isLnk st.mode = true → (isDir st'.mode = true ↔
          path.length < 1024 ∧ ∃ st'', fs.lstat (path ++ [slash]) = .ok st'')) := by
  have hv1 : ¬ env.haveStatV2 = true := by simp [h.version]
  obtain ⟨more, hinput, hmore⟩ := h.replies hlen
  obtain ⟨o, hexchange, ho⟩ :=
    exchange_v1 (p := c.place) h.version h.works (fun st => lstat_mode) hinput hlen
  have hstat : c.place.statExchange env path = (.error .enotsup, c.place) := by
    rw [Place.statExchange, if_neg hv1]
  constructor
  · intro e hlstat
    rw [hlstat] at ho
    obtain rfl : o = .error .enoprotoopt := ho
    rw [Place.fallback, hstat]
    dsimp only
    rw [if_neg (by simp), hexchange]
  · intro st hlstat
    rw [hlstat] at ho
    obtain ⟨st', rfl, hmode⟩ : ∃ st', o = .ok st' ∧ st'.mode = st.mode := ho
    have hfallback := Place.fallback_of_enotsup hstat (congrArg Prod.fst hexchange)
    rw [hexchange, hmode] at hfallback
    dsimp only at hfallback
    cases hlnk : isLnk st.mode with
    | false =>
      rw [hlnk, if_neg Bool.false_ne_true] at hfallback
      exact ⟨st', hfallback, fun _ => hmode, fun h => by cases h⟩
    | true =>
      rw [hlnk, if_pos rfl] at hfallback
      by_cases hlt : path.length < 1024
      · -- The second request is sent and answered.
        have hlen' : (path ++ [slash]).length ≤ 1024 := by
          rw [List.length_append, List.length_singleton]
          omega
        obtain ⟨more', hmore'⟩ := hmore st hlstat hlnk hlt
        obtain ⟨o', hexchange', ho'⟩ :=
          exchange_v1 (p := ⟨more, c.place.calls + 2⟩) h.version h.works
          (fun st => lstat_mode) hmore' hlen'
        rw [hexchange'] at hfallback
        cases hlstat' : fs.lstat (path ++ [slash]) with
        | error e =>
          rw [hlstat'] at ho'
          obtain rfl : o' = .error .enoprotoopt := ho'
          refine ⟨st'.asFile, hfallback, fun h => (by cases h), fun _ => ?_⟩
          rw [st'.isDir_asFile]
          refine iff_of_false Bool.false_ne_true ?_
          rintro ⟨_, _, h⟩
          cases h
        | ok st₂ =>
          rw [hlstat'] at ho'
          obtain ⟨_, rfl, -⟩ := ho'
          exact ⟨st'.asDirectory, hfallback, fun h => (by cases h),
            fun _ => iff_of_true st'.isDir_asDirectory ⟨hlt, st₂, rfl⟩⟩
      · -- It is refused, and the link is taken for a file.
        have hlong : 1024 < (path ++ [slash]).length := by
          rw [List.length_append, List.length_singleton]
          omega
        rw [exchange_tooLong hlong] at hfallback
        refine ⟨st'.asFile, hfallback, fun h => (by cases h), fun _ => ?_⟩
        rw [st'.isDir_asFile]
        exact iff_of_false Bool.false_ne_true fun h => hlt h.1

end Serves

/-! ## The emulation -/

/-- `sync_stat_fallback` succeeds on a device without `stat_v2` exactly if it succeeds on one with
it, or the path is that of a link that does not resolve. Where both succeed, they agree on whether
there is a directory, unless the path leads to one by a link and barely fits in a request. -/
theorem emulation_agrees (fs : RemoteFs) (path : Bytes) (env₁ env₂ : SyncEnv)
    (c₁ c₂ : SyncConnection) (h₁ : ServesV1 fs path env₁ c₁) (h₂ : ServesV2 fs path env₂ c₂) :
    ∃ r₁ r₂, (syncStatFallback env₁ path c₁).result = .ok r₁ ∧
      (syncStatFallback env₂ path c₂).result = .ok r₂ ∧
      (r₁.isSome = true ↔ r₂.isSome = true ∨ (path.length ≤ 1024 ∧ fs.Dangles path)) ∧
      (¬ fs.BarelyFits path → ∀ st₁ st₂, r₁ = some st₁ → r₂ = some st₂ →
        isDir st₁.mode = isDir st₂.mode) := by
  obtain ⟨_, hr₁, rfl⟩ := syncStatFallback_runs env₁ path c₁
  obtain ⟨_, hr₂, rfl⟩ := syncStatFallback_runs env₂ path c₂
  refine ⟨_, _, hr₁, hr₂, ?_⟩
  by_cases hlong : 1024 < path.length
  · rw [fallback_tooLong hlong, fallback_tooLong hlong]
    refine ⟨⟨.inl, fun h => h.elim id fun h => absurd h.1 (Nat.not_le.mpr hlong)⟩,
      fun _ _ _ h => ?_⟩
    cases h
  have hlen := Nat.not_lt.mp hlong
  obtain ⟨herror₁, hok₁⟩ := fallback_v1 h₁ hlen
  obtain ⟨herror₂, hok₂⟩ := fallback_v2 h₂ hlen
  obtain heq | ⟨st, hlstat, hlnk, hpath⟩ := @RemoteFs.lstat_cases fs path
  · -- No link: both ask for the same status.
    have hdangles : ¬ fs.Dangles path := by
      rintro ⟨⟨st, hlstat, -⟩, e, hstat⟩
      rw [heq, hstat] at hlstat
      cases hlstat
    cases hstat : fs.stat path with
    | error e =>
      rw [herror₁ e (heq.trans hstat), herror₂ e hstat]
      exact ⟨⟨.inl, fun h => h.elim id fun h => absurd h.2 hdangles⟩, fun _ _ _ h => by cases h⟩
    | ok st =>
      obtain ⟨st₁, hst₁, hmode₁, -⟩ := hok₁ st (heq.trans hstat)
      obtain ⟨st₂, hst₂, hmode₂⟩ := hok₂ st hstat
      have hnot : isLnk st.mode = false := (RemoteFs.resolve_spec hstat).1
      rw [hst₁, hst₂]
      refine ⟨⟨fun _ => .inl rfl, fun _ => rfl⟩, fun _ _ _ h₁ h₂ => ?_⟩
      obtain rfl := Option.some.inj h₁
      obtain rfl := Option.some.inj h₂
      rw [hmode₁ hnot, hmode₂]
  · obtain ⟨st₁, hst₁, -, hdir⟩ := hok₁ st hlstat
    rw [hst₁]
    cases hstat : fs.stat path with
    | error e =>
      rw [herror₂ e hstat]
      exact ⟨⟨fun _ => .inr ⟨hlen, ⟨st, hlstat, hlnk⟩, e, hstat⟩, fun _ => rfl⟩,
        fun _ _ _ _ h => by cases h⟩
    | ok st' =>
      obtain ⟨st₂, hst₂, hmode₂⟩ := hok₂ st' hstat
      rw [hst₂]
      refine ⟨⟨fun _ => .inl rfl, fun _ => rfl⟩, fun hfits _ _ h₁ h₂ => ?_⟩
      obtain rfl := Option.some.inj h₁
      obtain rfl := Option.some.inj h₂
      -- The link leads to a directory if the second request can be sent and succeeds.
      have hiff := (hdir hlnk).trans (and_congr_right fun _ => RemoteFs.lstat_slash_iff hpath)
      rw [hstat] at hiff
      rw [hmode₂, Bool.eq_iff_iff, hiff]
      refine ⟨fun ⟨_, _, h, hd⟩ => Except.ok.inj h ▸ hd, fun hd => ⟨?_, st', rfl, hd⟩⟩
      refine lt_of_le_of_ne hlen fun heq => hfits ⟨heq, ⟨st, hlstat, hlnk⟩, st', hstat, hd⟩

/-- A file system with a directory, a link to it, and a link that leads nowhere. -/
def someLinks : RemoteFs where
  node path :=
    if path = lit "d" then some (.directory ⟨0o040755, 0, 7⟩ (by decide))
    else if path = lit "l" then some (.link ⟨0o120777, 1, 7⟩ (by decide) (lit "d"))
    else if path = lit "g" then some (.link ⟨0o120777, 4, 7⟩ (by decide) (lit "gone"))
    else none
  linkLimit := 40

/-- A client of a device of the second version, which sends the number 2 for `ENOENT`. -/
def statV2Env : SyncEnv :=
  { SyncEnv.calm [lit "stat_v2"] with
    errnoFromWire := fun w => if w = 2 then .enoent else .other w.toNat }

/-- What a device of the first version sends for a link. -/
def oldReplies (path : Bytes) : SyncConnection :=
  .new (statV1Reply (someLinks.lstat path) ++ statV1Reply (someLinks.lstat (path ++ [slash]))) []
    fun _ => none

/-- What one of the second version sends. -/
def newReplies (path : Bytes) : SyncConnection :=
  .new (statV2Reply (fun _ => 2) ⟨0, 0, 1, 0, 0, 0, 0⟩ (someLinks.stat path)) [] fun _ => none

theorem oldReplies_serve (path : Bytes) : ServesV1 someLinks path (.calm []) (oldReplies path) where
  version := by decide +kernel
  works := ⟨fun _ => rfl, fun _ => rfl⟩
  replies _ := ⟨_, rfl, fun _ _ _ _ => ⟨[], (List.append_nil _).symm⟩⟩

theorem newReplies_serve {path : Bytes}
    (hpath : ∀ e, someLinks.stat path = .error e → e = .enoent) :
    ServesV2 someLinks path statV2Env (newReplies path) where
  version := by decide +kernel
  works := ⟨fun _ => rfl, fun _ => rfl⟩
  replies _ := ⟨fun _ => 2, ⟨0, 0, 1, 0, 0, 0, 0⟩, [],
    fun e he => hpath e he ▸ ⟨by decide, rfl⟩, (List.append_nil _).symm⟩

/-- A link to a directory is one, for a device of either version. -/
theorem directoryLink_agrees :
    ∃ r₁ r₂, (syncStatFallback (.calm []) (lit "l") (oldReplies (lit "l"))).result = .ok r₁ ∧
      (syncStatFallback statV2Env (lit "l") (newReplies (lit "l"))).result = .ok r₂ ∧
      (r₁.isSome = true ↔ r₂.isSome = true ∨ ((lit "l").length ≤ 1024 ∧ someLinks.Dangles (lit "l"))) ∧
      (¬ someLinks.BarelyFits (lit "l") → ∀ st₁ st₂, r₁ = some st₁ → r₂ = some st₂ →
        isDir st₁.mode = isDir st₂.mode) := by
  have hstat : someLinks.stat (lit "l") = .ok ⟨0o040755, 0, 7⟩ := by decide +kernel
  exact emulation_agrees someLinks (lit "l") (.calm []) statV2Env (oldReplies (lit "l"))
    (newReplies (lit "l")) (oldReplies_serve _) (newReplies_serve fun e he => by
      rw [hstat] at he
      cases he)

/-- A link that leads nowhere has a status only for a device of the first version. -/
theorem danglingLink_disagrees :
    ¬ ∀ (fs : RemoteFs) (path : Bytes) (env₁ env₂ : SyncEnv) (c₁ c₂ : SyncConnection),
      ServesV1 fs path env₁ c₁ → ServesV2 fs path env₂ c₂ →
      ∃ r₁ r₂, (syncStatFallback env₁ path c₁).result = .ok r₁ ∧
        (syncStatFallback env₂ path c₂).result = .ok r₂ ∧
        (r₁.isSome = true ↔ r₂.isSome = true) ∧
        ∀ st₁ st₂, r₁ = some st₁ → r₂ = some st₂ → isDir st₁.mode = isDir st₂.mode := by
  intro hall
  have hstat : someLinks.stat (lit "g") = .error .enoent := by decide +kernel
  obtain ⟨r₁, r₂, hr₁, hr₂, hiff, -⟩ := hall someLinks (lit "g") (.calm []) statV2Env
    (oldReplies (lit "g")) (newReplies (lit "g")) (oldReplies_serve _)
    (newReplies_serve fun e he => Except.error.inj (he.symm.trans hstat))
  have hold : (syncStatFallback (.calm []) (lit "g") (oldReplies (lit "g"))).result =
      .ok (some ⟨0o100777, 0, 7⟩) := by decide +kernel
  have hnew : (syncStatFallback statV2Env (lit "g") (newReplies (lit "g"))).result = .ok none := by
    decide +kernel
  obtain rfl := Except.ok.inj (hr₁.symm.trans hold)
  obtain rfl := Except.ok.inj (hr₂.symm.trans hnew)
  exact absurd (hiff.mp rfl) (by decide)

end AdbMobile.Sync
