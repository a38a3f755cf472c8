import AdbMobile.Client.Sync.Device
import AdbMobile.Client.Sync.StatEmulation

/-!
# What a device sends for a list

`remote_build_list` reads the entries of a directory, then the status of each link among them, and
then what its calls for the subdirectories read. So the answers of a device say what there is to
read: the replies of a directory (`Device.replies`), in the order of the walk.

Where the connection holds these bytes, and each read and write works, the list that is built over
it is the one for what the device answers (`remoteBuildList_replies`). A status is compared only as
far as its mode goes, as the first version of the protocol has less room for its size and its time
than the second, and the list has neither.
-/

namespace AdbMobile.Sync

open ByteString PosixPath DepthFirst

/-! ## The entries of a directory -/

/-- `dent_v1`. -/
def dentV1Header (d : Dent) : Bytes :=
  wordBytes SyncId.dentV1.word ++ wordBytes d.mode ++ wordBytes (.ofNat d.size) ++
    wordBytes (.ofNat d.time) ++ wordBytes (.ofNat d.name.length)

/-- `dent_v2`, which has the fields of a status, and the length of the name. -/
def dentV2Header (rest : StatRest) (d : Dent) : Bytes :=
  wordBytes SyncId.dentV2.word ++ wordBytes 0 ++ longBytes rest.dev ++ longBytes rest.ino ++
    wordBytes d.mode ++ wordBytes rest.nlink ++ wordBytes rest.uid ++ wordBytes rest.gid ++
    longBytes d.size ++ longBytes rest.atime ++ longBytes d.time ++ longBytes rest.ctime ++
    wordBytes (.ofNat d.name.length)

/-- The size of an entry without its name. -/
def SyncEnv.dentSize (env : SyncEnv) : ℕ := if env.haveLsV2 then dentV2Size else dentV1Size

/-- An entry without its name. -/
def SyncEnv.dentHeader (env : SyncEnv) (rest : StatRest) (d : Dent) : Bytes :=
  if env.haveLsV2 then dentV2Header rest d else dentV1Header d

/-- An entry of a list. -/
def SyncEnv.dentReply (env : SyncEnv) (rest : StatRest) (d : Dent) : Bytes :=
  env.dentHeader rest d ++ d.name

/-- What comes behind the entries: an `ID_DONE`, or nothing any more. -/
def SyncEnv.listEnd (env : SyncEnv) (done : Bool) : Bytes :=
  if done then wordBytes SyncId.done.word ++ List.replicate (env.dentSize - 4) 0 else []

/-- The entry has room in the fields of a reply. -/
structure SyncEnv.Fits (env : SyncEnv) (d : Dent) : Prop where
  size : d.size < if env.haveLsV2 then 2 ^ 64 else 2 ^ 32
  time : d.time < if env.haveLsV2 then 2 ^ 64 else 2 ^ 32
  name : d.name.length < 2 ^ 32

/-! ## Reading what was stored -/

theorem wordAt_skipLong (n : ℤ) (more : Bytes) (off : ℕ) :
    wordAt (longBytes n ++ more) (off + 8) = wordAt more off := rfl

theorem longAt_skipLong (n : ℤ) (more : Bytes) (off : ℕ) :
    longAt (longBytes n ++ more) (off + 8) = longAt more off := rfl

/-- A word in front of more bytes, read with them. -/
theorem foldr_wordBytes (w : UInt32) (more : Bytes) :
    (wordBytes w ++ more).foldr (fun byte m => byte.toNat + 256 * m) 0 =
      w.toNat + 2 ^ 32 * more.foldr (fun byte m => byte.toNat + 256 * m) 0 := by
  have hlt : w.toNat < 2 ^ 32 := w.toNat_lt
  simp only [wordBytes, List.cons_append, List.nil_append, List.foldr_cons,
    UInt32.toNat_toUInt8, UInt32.toNat_shiftRight, UInt32.reduceToNat, Nat.shiftRight_eq_div_pow,
    Nat.reduceMod, Nat.reducePow]
  omega

/-- A double word is read as it was stored. -/
theorem longAt_longBytes {n : ℕ} (hn : n < 2 ^ 64) (more : Bytes) :
    longAt (longBytes n ++ more) 0 = n := by
  have hlow : (UInt32.ofInt n).toNat = n % 2 ^ 32 := by
    rw [UInt32.ofInt, UInt32.toNat_ofNat']
    omega
  have hhigh : (UInt32.ofInt ((n : ℤ) / 2 ^ 32)).toNat = n / 2 ^ 32 := by
    rw [UInt32.ofInt, UInt32.toNat_ofNat']
    omega
  have hread := foldr_wordBytes (.ofInt ((n : ℤ) / 2 ^ 32)) []
  rw [List.append_nil] at hread
  show (longBytes n).foldr _ 0 = n
  rw [longBytes, foldr_wordBytes, hread, hlow, hhigh, List.foldr_nil]
  omega

theorem dentV1Header_fields (d : Dent) :
    wordAt (dentV1Header d) 0 = SyncId.dentV1.word ∧ wordAt (dentV1Header d) 4 = d.mode ∧
      wordAt (dentV1Header d) 8 = .ofNat d.size ∧ wordAt (dentV1Header d) 12 = .ofNat d.time ∧
      wordAt (dentV1Header d) 16 = .ofNat d.name.length :=
  ⟨wordOfBytes_wordBytes SyncId.dentV1.word, wordOfBytes_wordBytes d.mode,
    wordOfBytes_wordBytes (.ofNat d.size), wordOfBytes_wordBytes (.ofNat d.time),
    wordOfBytes_wordBytes (.ofNat d.name.length)⟩

theorem dentV2Header_fields (rest : StatRest) {d : Dent} (hsize : d.size < 2 ^ 64)
    (htime : d.time < 2 ^ 64) :
    wordAt (dentV2Header rest d) 0 = SyncId.dentV2.word ∧ wordAt (dentV2Header rest d) 24 = d.mode ∧
      longAt (dentV2Header rest d) 40 = d.size ∧ longAt (dentV2Header rest d) 56 = d.time ∧
      wordAt (dentV2Header rest d) 72 = .ofNat d.name.length := by
  rw [dentV2Header]
  simp only [List.append_assoc]
  -- What is in front of a field is skipped word by word.
  refine ⟨wordAt_zero _ _, ?_, ?_, ?_, ?_⟩
  · repeat first | rw [wordAt_skip] | rw [wordAt_skipLong]
    exact wordAt_zero _ _
  · repeat first | rw [longAt_skip] | rw [longAt_skipLong]
    exact longAt_longBytes hsize _
  · repeat first | rw [longAt_skip] | rw [longAt_skipLong]
    exact longAt_longBytes htime _
  · repeat first | rw [wordAt_skip] | rw [wordAt_skipLong]
    exact wordOfBytes_wordBytes _

theorem SyncEnv.dentSize_pos (env : SyncEnv) : 0 < env.dentSize := by
  unfold dentSize
  split <;> decide

/-- What `FinishLs` finds in the header of an entry. -/
theorem dentHeader_fields {env : SyncEnv} {d : Dent} (hfits : env.Fits d) (rest : StatRest) :
    (env.dentHeader rest d).length = env.dentSize ∧
    wordAt (env.dentHeader rest d) 0 =
      (if env.haveLsV2 then SyncId.dentV2.word else SyncId.dentV1.word) ∧
    (if env.haveLsV2 then wordAt (env.dentHeader rest d) 72
      else wordAt (env.dentHeader rest d) 16).toNat = d.name.length ∧
    ∀ name, (if env.haveLsV2 then
        ⟨wordAt (env.dentHeader rest d) 24, longAt (env.dentHeader rest d) 40,
          longAt (env.dentHeader rest d) 56, name⟩
      else ⟨wordAt (env.dentHeader rest d) 4, (wordAt (env.dentHeader rest d) 8).toNat,
        (wordAt (env.dentHeader rest d) 12).toNat, name⟩ : Dent) = { d with name := name } := by
  obtain ⟨hsize, htime, hname⟩ := hfits
  have hword (n : ℕ) (hn : n < 2 ^ 32) : (UInt32.ofNat n).toNat = n := UInt32.toNat_ofNat_of_lt' hn
  unfold SyncEnv.dentHeader SyncEnv.dentSize
  by_cases hv2 : env.haveLsV2 = true
  · simp only [if_pos hv2] at hsize htime ⊢
    obtain ⟨hid, hmode, hsize', htime', hlen⟩ := dentV2Header_fields rest hsize htime
    refine ⟨rfl, hid, ?_, fun name => ?_⟩
    · rw [hlen, hword _ hname]
    · rw [hmode, hsize', htime']
  · simp only [if_neg hv2] at hsize htime ⊢
    obtain ⟨hid, hmode, hsize', htime', hlen⟩ := dentV1Header_fields d
    refine ⟨rfl, hid, ?_, fun name => ?_⟩
    · rw [hlen, hword _ hname]
    · rw [hmode, hsize', htime', hword _ hsize, hword _ htime]

section Lists

variable {env : SyncEnv} {rest : StatRest} {β : Type} {callback : β → Dent → SyncM β}
  {step : β → Dent → β} {more : Bytes} (hworks : env.Works)
  (hcallback : ∀ acc d c, Prog.Runs (callback acc d) c fun acc' c' _ => acc' = step acc d ∧ c' = c)

include hworks hcallback

/-- A round of `FinishLs` takes an entry off the stream. -/
theorem finishLsRound_dent {d : Dent} (hfits : env.Fits d) {acc : β} {c : SyncConnection}
    (hinput : c.input = env.dentReply rest d ++ more) :
    Prog.Runs (finishLsRound env callback acc) c fun r c' _ =>
      if 255 < d.name.length ∨ slash ∈ cString d.name then r = .inr (false, acc)
      else r = .inl (step acc { d with name := cString d.name }) ∧ c'.input = more := by
  obtain ⟨hsize, hid, hlen, hdent⟩ := dentHeader_fields hfits rest
  have hdone : wordAt (env.dentHeader rest d) 0 ≠ SyncId.done.word := by
    rw [hid]
    split <;> decide
  rw [SyncEnv.dentReply, List.append_assoc] at hinput
  have hread := readFdExactly_available hworks.reads hinput
  rw [hsize] at hread
  refine hread.bind fun ⟨ok, dent⟩ c₁ t₁ ⟨hr, _, hrest, _⟩ => ?_
  obtain ⟨rfl, rfl⟩ := Prod.mk.inj hr
  dsimp only
  rw [hlen, if_neg (by simp), if_neg hdone, if_neg (not_not_intro hid)]
  by_cases hlong : 255 < d.name.length
  · rw [if_pos hlong]
    exact .pure (by rw [if_pos (.inl hlong)])
  rw [if_neg hlong]
  refine .emit_bind ((readFdExactly_available hworks.reads hrest).bind
    fun ⟨ok, buf⟩ c₂ t₂ ⟨hr, _, hrest₂, _⟩ => ?_)
  obtain ⟨rfl, rfl⟩ := Prod.mk.inj hr
  rw [if_neg (by simp)]
  refine .emit_bind ?_
  by_cases hslash : slash ∈ cString d.name
  · rw [if_pos hslash]
    exact .pure (by rw [if_pos (.inr hslash)])
  rw [if_neg hslash, hdent]
  refine (hcallback acc _ c₂).bind fun acc' c₃ t₃ ⟨hacc, hc₃⟩ => .pure ?_
  rw [if_neg (not_or_intro hlong hslash), hacc, hc₃]
  exact ⟨rfl, hrest₂⟩

/-- The rounds of `FinishLs` take a list off the stream. -/
theorem finishLs_loop {done : Bool} (hmore : done = false → more = []) (out : Bool × β)
    {ds : List Dent} (hfits : ∀ d ∈ ds, env.Fits d) : ∀ {acc : β} {c : SyncConnection} {fuel : ℕ},
    c.input = ds.flatMap (env.dentReply rest) ++ (env.listEnd done ++ more) →
    c.input.length < fuel →
    Prog.Runs (Prog.loop (finishLsRound env callback) out fuel acc) c fun r c' _ =>
      r = Device.finishLs step done ds acc ∧ (r.1 = true → c'.input = more) := by
  induction ds with
  | nil =>
    intro acc c fuel hinput hfuel
    obtain ⟨fuel, rfl⟩ := Nat.exists_eq_succ_of_ne_zero (Nat.ne_of_gt (Nat.zero_lt_of_lt hfuel))
    rw [List.flatMap_nil, List.nil_append, SyncEnv.listEnd] at hinput
    refine Prog.Runs.bind (M := fun r c' _ => r = .inr (done, acc) ∧ (done = true → c'.input = more))
      ?_ fun r c₁ t₁ ⟨hr, hrest⟩ => hr ▸ .pure ⟨rfl, hrest⟩
    unfold finishLsRound
    cases done with
    | true =>
      rw [if_pos rfl] at hinput
      have hread := readFdExactly_available hworks.reads hinput
      have hsize : (wordBytes SyncId.done.word ++ List.replicate (env.dentSize - 4) 0).length =
          env.dentSize := by
        rw [SyncEnv.dentSize]
        split <;> rfl
      have hid : wordAt (wordBytes SyncId.done.word ++ List.replicate (env.dentSize - 4) 0) 0 =
        SyncId.done.word := wordOfBytes_wordBytes _
      rw [hsize] at hread
      refine hread.bind fun ⟨ok, dent⟩ c₁ t₁ ⟨hr, _, hrest, _⟩ => ?_
      obtain ⟨rfl, rfl⟩ := Prod.mk.inj hr
      dsimp only
      rw [hid, if_neg (by simp), if_pos rfl]
      exact .pure ⟨rfl, fun _ => hrest⟩
    | false =>
      -- There is nothing to read any more.
      rw [if_neg Bool.false_ne_true, List.nil_append, hmore rfl] at hinput
      have hshort : c.input.length < env.dentSize := by
        rw [hinput]
        exact env.dentSize_pos
      refine (readFdExactly_short hshort).bind fun ⟨ok, dent⟩ c₁ t₁ hok => ?_
      dsimp only at hok ⊢
      rw [hok]
      exact .pure ⟨rfl, fun h => absurd h Bool.false_ne_true⟩
  | cons d ds ih =>
    intro acc c fuel hinput hfuel
    obtain ⟨fuel, rfl⟩ := Nat.exists_eq_succ_of_ne_zero (Nat.ne_of_gt (Nat.zero_lt_of_lt hfuel))
    obtain ⟨hd, hds⟩ := List.forall_mem_cons.mp hfits
    rw [List.flatMap_cons, List.append_assoc] at hinput
    refine (finishLsRound_dent hworks hcallback hd hinput).bind fun r c₁ t₁ hr => ?_
    rw [Device.finishLs]
    by_cases hlong : 255 < d.name.length
    · rw [if_pos (.inl hlong)] at hr
      subst hr
      rw [if_pos hlong]
      exact .pure ⟨rfl, fun h => absurd h Bool.false_ne_true⟩
    by_cases hslash : slash ∈ cString d.name
    · rw [if_pos (.inr hslash)] at hr
      subst hr
      rw [if_neg hlong, if_pos hslash]
      exact .pure ⟨rfl, fun h => absurd h Bool.false_ne_true⟩
    rw [if_neg (not_or_intro hlong hslash)] at hr
    obtain ⟨rfl, hrest⟩ := hr
    rw [if_neg hlong, if_neg hslash]
    -- The entry was on the stream, which is shorter now.
    refine ih hds hrest ?_
    have hlen := congrArg List.length hinput
    rw [List.length_append, ← hrest, SyncEnv.dentReply, List.length_append,
      (dentHeader_fields hd rest).1] at hlen
    have hpos := env.dentSize_pos
    omega

end Lists

/-! ## What a device sends -/

namespace Device

section Replies

variable (D : Device) (env : SyncEnv) (toWire : Errno → UInt32) (rest : StatRest)

/-- The reply to a list request, where there is one. -/
def listReply (path : Bytes) : Bytes :=
  if 1024 < path.length then []
  else (D.listing path).1.flatMap (env.dentReply rest) ++ env.listEnd (D.listing path).2

/-- The reply to a request of `sync_stat`, where there is one. -/
def statReply (path : Bytes) : Bytes :=
  if 1024 < path.length then [] else statV2Reply toWire rest (D.stat path)

/-- The reply to a request of `sync_lstat` of the first version, where there is one. -/
def lstatReply (path : Bytes) : Bytes :=
  if 1024 < path.length then [] else statV1Reply (D.lstat path)

/-- The replies to the requests of `sync_stat_fallback`. -/
def fallbackReplies (path : Bytes) : Bytes :=
  if D.haveStatV2 then D.statReply toWire rest path
  else
    D.lstatReply path ++ match D.syncLstat path with
      | .ok st => if isLnk st.mode then D.lstatReply (path ++ [slash]) else []
      | .error _ => []

/-- What a call of `remote_build_list` for a path reads itself, and the calls that it makes. -/
def replies (path : Bytes) : Bytes × Option (List Bytes) :=
  (D.listReply env rest path ++
      if (D.accepted path).1 then
        (links (D.accepted path).2).flatMap fun d =>
          D.fallbackReplies toWire rest (withSeparator path ++ d.name)
      else [],
    (D.calls path).2)

/-- What the device answers can be sent: the version is the one that the client knows of, the
numbers have room, and an error can be told from a status, and from one that the client makes. -/
structure Sends : Prop where
  version : env.haveStatV2 = D.haveStatV2
  fits : ∀ path, ∀ d ∈ (D.listing path).1, env.Fits d
  errors : ∀ path e, D.stat path = .error e →
    e ≠ .enotsup ∧ toWire e ≠ 0 ∧ env.errnoFromWire (toWire e) = e
  modes : ∀ path st, D.lstat path = .ok st → st.mode ≠ 0

end Replies

/-! ## The status of a link -/

section Statuses

variable {D : Device} {env : SyncEnv} {toWire : Errno → UInt32} {rest : StatRest}
  {path more : Bytes} {c : SyncConnection} (hworks : env.Works) (hsends : D.Sends env toWire)

include hworks hsends

/-- `sync_stat` of a device of the second version. -/
theorem syncStat_replies (hversion : D.haveStatV2 = true)
    (hinput : c.input = D.statReply toWire rest path ++ more) :
    Prog.Runs (Sync.syncStat env path) c fun r c' _ => c'.input = more ∧
      match D.syncStat path with
      | .ok st => ∃ st', r = some st' ∧ st'.mode = st.mode
      | .error e => e ≠ .enotsup ∧ r = none ∧ c'.errno = e := by
  have hv2 : env.haveStatV2 = true := hsends.version.trans hversion
  refine (syncStat_runs env path c).mono fun r c' _ hcomes => ?_
  rw [Place.statExchange, if_pos hv2] at hcomes
  rw [statReply] at hinput
  rw [syncStat, hversion, if_neg (by decide)]
  by_cases hlong : 1024 < path.length
  · rw [exchange_tooLong hlong] at hcomes
    rw [if_pos hlong] at hinput
    rw [if_pos hlong]
    obtain ⟨hplace, hnone, herrno⟩ := hcomes
    exact ⟨(congrArg Place.input hplace).trans hinput, by decide, hnone, herrno⟩
  · rw [if_neg hlong] at hinput
    rw [if_neg hlong]
    obtain ⟨o, hexchange, ho⟩ := exchange_v2 (p := c.place) hv2 hworks
      (fun e he => (hsends.errors path e he).2) hinput (Nat.not_lt.mp hlong)
    rw [hexchange] at hcomes
    obtain ⟨hplace, hr⟩ := hcomes
    refine ⟨congrArg Place.input hplace, ?_⟩
    cases hstat : D.stat path with
    | error e =>
      rw [hstat] at ho
      obtain rfl : o = .error e := ho
      exact ⟨(hsends.errors path e hstat).1, hr⟩
    | ok st =>
      rw [hstat] at ho
      obtain ⟨st', rfl, hmode⟩ : ∃ st', o = .ok st' ∧ st'.mode = st.mode := ho
      exact ⟨st', hr, hmode⟩

/-- `sync_lstat` of a device of the first version. -/
theorem syncLstat_replies (hversion : D.haveStatV2 = false)
    (hinput : c.input = D.lstatReply path ++ more) :
    Prog.Runs (Sync.syncLstat env path) c fun r c' _ => c'.input = more ∧
      match D.syncLstat path with
      | .ok st => ∃ st', r = some st' ∧ st'.mode = st.mode
      | .error _ => r = none := by
  have hv1 : env.haveStatV2 = false := hsends.version.trans hversion
  refine (syncLstat_runs env path c).mono fun r c' _ hcomes => ?_
  rw [lstatReply] at hinput
  rw [syncLstat]
  by_cases hlong : 1024 < path.length
  · rw [exchange_tooLong hlong] at hcomes
    rw [if_pos hlong] at hinput
    rw [if_pos hlong]
    obtain ⟨hplace, hnone, -⟩ := hcomes
    exact ⟨(congrArg Place.input hplace).trans hinput, hnone⟩
  · rw [if_neg hlong] at hinput
    rw [if_neg hlong]
    obtain ⟨o, hexchange, ho⟩ := exchange_v1 (p := c.place) hv1 hworks (hsends.modes path) hinput
      (Nat.not_lt.mp hlong)
    rw [hexchange] at hcomes
    obtain ⟨hplace, hr⟩ := hcomes
    refine ⟨congrArg Place.input hplace, ?_⟩
    cases hstat : D.lstat path with
    | error e =>
      rw [hstat] at ho
      obtain rfl : o = .error .enoprotoopt := ho
      exact hr.1
    | ok st =>
      rw [hstat] at ho
      obtain ⟨st', rfl, hmode⟩ : ∃ st', o = .ok st' ∧ st'.mode = st.mode := ho
      exact ⟨st', hr, hmode⟩

/-- `sync_stat_fallback` finds what the device answers, as far as the mode goes. -/
theorem syncStatFallback_replies
    (hinput : c.input = D.fallbackReplies toWire rest path ++ more) :
    Prog.Runs (Sync.syncStatFallback env path) c fun r c' _ => c'.input = more ∧
      r.map Stat.mode = (D.syncStatFallback path).map Stat.mode := by
  unfold Sync.syncStatFallback syncStatFallback
  rw [fallbackReplies] at hinput
  cases hversion : D.haveStatV2 with
  | true =>
    rw [if_pos hversion] at hinput
    refine (syncStat_replies hworks hsends hversion hinput).bind fun r c₁ _ h => ?_
    obtain ⟨hrest, hr⟩ := h
    cases hstat : D.syncStat path with
    | ok st =>
      rw [hstat] at hr
      obtain ⟨st', rfl, hmode⟩ := hr
      exact .pure ⟨hrest, congrArg some hmode⟩
    | error e =>
      rw [hstat] at hr
      obtain ⟨hother, rfl, rfl⟩ := hr
      refine .get_bind ?_
      dsimp only
      rw [if_pos hother, if_pos hother]
      exact .pure ⟨hrest, rfl⟩
  | false =>
    rw [if_neg (by simp [hversion]), List.append_assoc] at hinput
    have hv1 : ¬ env.haveStatV2 = true := by simp [hsends.version, hversion]
    have hstat : D.syncStat path = .error .enotsup := by
      rw [syncStat, hversion]
      rfl
    -- The first version is not asked for what the link leads to.
    refine (syncStat_runs env path c).bind fun r c₁ _ hcomes => ?_
    rw [Place.statExchange, if_neg hv1] at hcomes
    obtain ⟨hplace, rfl, herrno⟩ := hcomes
    have hinput₁ := (congrArg Place.input hplace).trans hinput
    refine .get_bind ?_
    dsimp only
    rw [hstat, if_neg (not_not_intro herrno)]
    dsimp only
    rw [if_neg (not_not_intro rfl)]
    refine (syncLstat_replies hworks hsends hversion hinput₁).bind fun r c₂ _ h => ?_
    obtain ⟨hrest, hr⟩ := h
    cases hlstat : D.syncLstat path with
    | error e =>
      rw [hlstat] at hr hrest
      obtain rfl : r = none := hr
      exact .pure ⟨hrest, rfl⟩
    | ok st =>
      rw [hlstat] at hr hrest
      obtain ⟨st', rfl, hmode⟩ := hr
      dsimp only at hrest ⊢
      rw [hmode]
      by_cases hlnk : isLnk st.mode = true
      · rw [if_pos hlnk] at hrest
        rw [if_pos hlnk, if_pos hlnk]
        refine (syncLstat_replies hworks hsends hversion hrest).bind
          fun r c₃ _ h => ?_
        obtain ⟨hrest₃, hr⟩ := h
        cases hslash : D.syncLstat (path ++ [slash]) with
        | error e =>
          rw [hslash] at hr
          obtain rfl : r = none := hr
          exact .pure ⟨hrest₃, rfl⟩
        | ok st₂ =>
          rw [hslash] at hr
          obtain ⟨_, rfl, -⟩ := hr
          exact .pure ⟨hrest₃, rfl⟩
      · rw [if_neg hlnk] at hrest
        rw [if_neg hlnk, if_neg hlnk]
        exact .pure ⟨hrest, congrArg some hmode⟩

end Statuses

/-! ## The list over a connection -/

/-- The constructor of `copyinfo` over a connection. -/
theorem copyInfo_runs (localPath remotePath name : Bytes) (mode : UInt32) (c : SyncConnection) :
    Prog.Runs (copyInfo localPath remotePath name mode) c fun ci c' _ =>
      ci = CopyInfo.new localPath remotePath name mode ∧ c' = c := by
  refine .bind (M := fun paths c' _ =>
    paths = (withSeparator localPath, withSeparator remotePath) ∧ c' = c) ⟨_, rfl, rfl, rfl⟩
    fun paths c' t ⟨hpaths, hc'⟩ => ?_
  subst hpaths hc'
  unfold CopyInfo.new
  dsimp only
  split
  · exact ⟨_, rfl, rfl, rfl⟩
  · exact .pure ⟨rfl, rfl⟩

/-- The callback over a connection. -/
theorem remoteCallback_runs (rpath lpath : Bytes) (lists : RemoteLists) (d : Dent)
    (c : SyncConnection) : Prog.Runs (remoteCallback rpath lpath lists d) c fun lists' c' _ =>
      lists' = callback rpath lpath lists d ∧ c' = c := by
  unfold remoteCallback callback
  split
  · exact .pure ⟨rfl, rfl⟩
  refine (copyInfo_runs lpath rpath d.name d.mode c).bind fun ci c' t ⟨hci, hc'⟩ => ?_
  subst hci hc'
  dsimp only
  split
  · exact .pure ⟨rfl, rfl⟩
  split
  · exact .pure ⟨rfl, rfl⟩
  split
  · exact ⟨_, rfl, rfl, rfl⟩
  · exact ⟨_, rfl, rfl, rfl⟩

section Walk

variable {D : Device} {env : SyncEnv} {toWire : Errno → UInt32} {rest : StatRest}

/-- A list that ends well has its end on the stream. -/
theorem finishLs_done {β : Type} {step : β → Dent → β} {done : Bool} {ds : List Dent} :
    ∀ {acc : β}, (finishLs step done ds acc).1 = true → done = true := by
  induction ds with
  | nil => exact id
  | cons d ds ih =>
    intro acc h
    simp only [finishLs] at h
    split_ifs at h
    exact ih h

/-- A directory that is accepted has something on the stream. -/
theorem listReply_pos {path : Bytes} (h : (D.accepted path).1 = true) :
    0 < (D.listReply env rest path).length := by
  rw [accepted, syncLs] at h
  split_ifs at h with hlong
  rw [listReply, if_neg hlong, finishLs_done h, SyncEnv.listEnd, if_pos rfl]
  simp [wordBytes]

/-- The replies for the links of a directory are those for their items. -/
theorem flatMap_fallbackReplies (rpath lpath : Bytes) (ds : List Dent) :
    ((links ds).flatMap fun d => D.fallbackReplies toWire rest (withSeparator rpath ++ d.name)) =
      ((links ds).map (entryInfo rpath lpath)).flatMap fun link =>
        D.fallbackReplies toWire rest link.rpath := by
  rw [List.flatMap_map]
  refine List.flatMap_congr fun d hd => ?_
  rw [entryInfo_rpath_of_notDir rpath lpath (notDir_of_mem_links hd)]

/-- A program reads the replies of a walk, where there is nothing behind a walk that fails, and
returns what is built for the device's answers. -/
def Follows (depth : ℕ) (p : SyncM (Bool × List CopyInfo)) (built : Option (Bool × List CopyInfo))
    (walked : Option (Bool × Bytes)) : Prop :=
  ∀ ok bytes more c, walked = some (ok, bytes) → c.input = bytes ++ more →
    (ok = false → more = []) → c.input.length < depth →
    Prog.Runs p c fun r c' _ => built = some r ∧ r.1 = ok ∧ (ok = true → c'.input = more)

/-- The calls after one that has failed do nothing. -/
theorem foldM_failed (call : CopyInfo → List CopyInfo → SyncM (Bool × List CopyInfo))
    (dirs fileList : List CopyInfo) (c : SyncConnection) :
    Prog.Runs (Prog.foldM (fun (r : Bool × List CopyInfo) (current : CopyInfo) =>
      if r.1 then call current r.2 else pure r) (false, fileList) dirs) c fun r c' _ =>
        r = (false, fileList) ∧ c' = c := by
  induction dirs with
  | nil => exact .pure ⟨rfl, rfl⟩
  | cons current dirs ih => exact ih

/-- The calls for the directories that were found read the replies of their walks. -/
theorem recurse_follows {depth n : ℕ}
    (hcall : ∀ fileList rpath lpath, Follows depth
      (remoteBuildListTo env depth fileList rpath lpath) (D.remoteBuildList n fileList rpath lpath)
      (walk (D.replies env toWire rest) n rpath)) (dirs : List CopyInfo) : ∀ fileList,
    Follows depth (Prog.foldM (fun (r : Bool × List CopyInfo) (current : CopyInfo) =>
        if r.1 then remoteBuildListTo env depth r.2 current.rpath current.lpath else pure r)
          (true, fileList) dirs)
      (recurse (D.remoteBuildList n) dirs fileList)
      (walkAll (walk (D.replies env toWire rest) n) (dirs.map CopyInfo.rpath)) := by
  induction dirs with
  | nil =>
    intro fileList ok bytes more c hwalk hinput hmore hlt
    obtain ⟨rfl, rfl⟩ := Prod.mk.inj (Option.some.inj hwalk)
    exact .pure ⟨rfl, rfl, fun _ => hinput⟩
  | cons current dirs ih =>
    intro fileList ok bytes more c hwalk hinput hmore hlt
    rw [List.map_cons, walkAll] at hwalk
    cases hfirst : walk (D.replies env toWire rest) n current.rpath with
    | none =>
      rw [hfirst] at hwalk
      cases hwalk
    | some first =>
      obtain ⟨okFirst, own⟩ := first
      rw [hfirst] at hwalk
      rw [recurse]
      cases okFirst with
      | false =>
        -- The first call that fails is the last one that reads.
        obtain ⟨rfl, rfl⟩ := Prod.mk.inj (Option.some.inj hwalk)
        refine (hcall fileList _ _ _ _ _ c hfirst hinput hmore hlt).bind
          fun r c₁ t₁ h => ?_
        obtain ⟨hbuilt, hr, -⟩ := h
        obtain ⟨_, files⟩ := r
        obtain rfl : _ = false := hr
        rw [hbuilt]
        have hstop := foldM_failed (fun current files =>
          remoteBuildListTo env depth files current.rpath current.lpath) dirs files c₁
        refine hstop.mono fun r c₂ t₂ h => ?_
        obtain ⟨hr, -⟩ := h
        subst hr
        exact ⟨rfl, rfl, fun h => absurd h Bool.false_ne_true⟩
      | true =>
        obtain ⟨⟨okRest, below⟩, hrest, heq⟩ := Option.map_eq_some_iff.mp hwalk
        obtain ⟨rfl, rfl⟩ := Prod.mk.inj heq
        rw [List.append_assoc] at hinput
        refine (hcall fileList _ _ _ _ _ c hfirst hinput (fun h => absurd h.symm Bool.false_ne_true)
          hlt).bind fun r c₁ t₁ h => ?_
        obtain ⟨hbuilt, hr, hinput₁⟩ := h
        obtain ⟨_, files⟩ := r
        obtain rfl : _ = true := hr
        rw [hbuilt]
        refine ih files _ _ _ c₁ hrest (hinput₁ rfl) hmore ?_
        rw [hinput₁ rfl]
        rw [hinput, List.length_append] at hlt
        omega

variable (hworks : env.Works) (hsends : D.Sends env toWire)

include hworks hsends

/-- `sync_ls` makes of the lists what they become on the device's answer. -/
theorem syncLs_replies {path rpath lpath more : Bytes} {lists : RemoteLists} {c : SyncConnection}
    (hinput : c.input = D.listReply env rest path ++ more)
    (hmore : (D.accepted path).1 = false → more = []) :
    Prog.Runs (Sync.syncLs env path (remoteCallback rpath lpath) lists) c fun r c' _ =>
      r = D.syncLs path (callback rpath lpath) lists ∧ (r.1 = true → c'.input = more) := by
  refine (sendRequest_place env _ path c).bind fun ok c₁ t₁ hsend => ?_
  rw [accepted, syncLs] at hmore
  rw [syncLs]
  rw [listReply] at hinput
  by_cases hlong : 1024 < path.length
  · rw [Place.refused, if_pos hlong] at hsend
    obtain ⟨rfl, -⟩ := hsend
    rw [if_pos hlong]
    exact .pure ⟨rfl, fun h => absurd h Bool.false_ne_true⟩
  · rw [Place.refused, if_neg hlong, hworks.writes] at hsend
    obtain ⟨rfl, hplace⟩ := hsend
    rw [if_neg hlong, List.append_assoc] at hinput
    rw [if_neg hlong] at hmore ⊢
    have hinput₁ : c₁.input = _ := (congrArg Place.input hplace).trans hinput
    refine Prog.Runs.bind (p := startReply) (M := fun _ c' _ => c' = c₁) ⟨_, rfl, rfl⟩
      fun _ c₂ t₂ hc₂ => .get_bind ?_
    subst hc₂
    refine finishLs_loop hworks (remoteCallback_runs rpath lpath) (fun hdone => hmore ?_) _
      (hsends.fits path) hinput₁ (Nat.lt_succ_self _)
    by_contra h
    rw [finishLs_done (Bool.eq_true_of_not_eq_false h)] at hdone
    cases hdone

/-- A link is put where it is put for the device's answer. -/
theorem resolveLink_replies {lists : RemoteLists} {link : CopyInfo} {more : Bytes}
    {c : SyncConnection} (hinput : c.input = D.fallbackReplies toWire rest link.rpath ++ more) :
    Prog.Runs (Sync.resolveLink env lists link) c fun lists' c' _ =>
      lists' = D.resolveLink lists link ∧ c'.input = more := by
  unfold Sync.resolveLink resolveLink
  refine (syncStatFallback_replies hworks hsends hinput).bind fun st c' t ⟨hrest, hst⟩ => ?_
  cases st with
  | none =>
    rw [Option.map_none, eq_comm, Option.map_eq_none_iff] at hst
    rw [hst]
    exact ⟨_, rfl, rfl, hrest⟩
  | some st =>
    rw [Option.map_some, eq_comm, Option.map_eq_some_iff] at hst
    obtain ⟨st', hst', hmode⟩ := hst
    rw [hst']
    dsimp only
    rw [hmode]
    split
    · exact .pure ⟨rfl, hrest⟩
    · exact ⟨_, rfl, rfl, hrest⟩

/-- The links of a directory, one after the other. -/
theorem resolveLinks_replies {links : List CopyInfo} :
    ∀ {lists : RemoteLists} {more : Bytes} {c : SyncConnection},
    c.input = (links.flatMap fun link => D.fallbackReplies toWire rest link.rpath) ++ more →
    Prog.Runs (Prog.foldM (Sync.resolveLink env) lists links) c fun lists' c' _ =>
      lists' = links.foldl D.resolveLink lists ∧ c'.input = more := by
  induction links with
  | nil => exact fun hinput => .pure ⟨rfl, hinput⟩
  | cons link links ih =>
    intro lists more c hinput
    rw [List.flatMap_cons, List.append_assoc] at hinput
    refine (resolveLink_replies hworks hsends hinput).bind fun lists' c' t ⟨hlists, hrest⟩ => ?_
    rw [List.foldl_cons, ← hlists]
    exact ih hrest

/-- Over a connection that holds the replies, `remote_build_list` builds the list for what the
device answers. -/
theorem remoteBuildListTo_follows (depth : ℕ) : ∀ n fileList rpath lpath, Follows depth
    (remoteBuildListTo env depth fileList rpath lpath) (D.remoteBuildList n fileList rpath lpath)
    (walk (D.replies env toWire rest) n rpath) := by
  -- On the depth that the stream leaves room for: a call that calls itself has read something. The
  -- levels of the walk come along.
  induction depth with
  | zero => exact fun _ _ _ _ _ _ _ _ _ _ _ hlt => absurd hlt (Nat.not_lt_zero _)
  | succ depth ih =>
    intro n fileList rpath lpath ok bytes more c hwalk hinput hmore hlt
    cases n with
    | zero => cases hwalk
    | succ n =>
      unfold Sync.remoteBuildListTo
      rw [walk, replies] at hwalk
      dsimp only at hwalk
      refine (copyInfo_runs _ _ _ _ c).bind fun ci c₁ t₁ h => ?_
      obtain ⟨hci, hc₁⟩ := h
      subst hci hc₁
      refine Prog.Runs.bind (p := pushBack false _ fileList)
        (M := fun files c' _ => files = fileList ++ [ownInfo rpath lpath] ∧ c' = c₁)
        ⟨_, rfl, rfl, rfl⟩ fun files c₂ t₂ h => ?_
      obtain ⟨hfiles, hc₂⟩ := h
      subst hfiles hc₂
      rw [remoteBuildList, ← ownInfo, syncLs_eq]
      cases hok : (D.accepted rpath).1 with
      | false =>
        -- The list is cut short, or refused, and there is nothing behind it.
        have hcalls : (D.calls rpath).2 = none := by simp [calls, subdirectories, hok]
        rw [hcalls, hok] at hwalk
        obtain ⟨rfl, rfl⟩ := Prod.mk.inj (Option.some.inj hwalk)
        rw [if_neg Bool.false_ne_true, List.append_nil] at hinput
        refine (syncLs_replies hworks hsends hinput fun _ => hmore rfl).bind
          fun r c₃ t₃ h => ?_
        obtain ⟨hr, -⟩ := h
        rw [syncLs_eq, hok] at hr
        subst hr
        exact .pure ⟨rfl, rfl, fun h => absurd h Bool.false_ne_true⟩
      | true =>
        have hcalls : (D.calls rpath).2 = some ((directories (D.accepted rpath).2 ++
            D.directoryLinks rpath (D.accepted rpath).2).reverse.map (subPath rpath)) := by
          simp [calls, subdirectories, hok]
        rw [hcalls, hok, if_pos rfl] at hwalk
        obtain ⟨⟨okBelow, below⟩, hbelow, heq⟩ := Option.map_eq_some_iff.mp hwalk
        obtain ⟨rfl, rfl⟩ := Prod.mk.inj heq
        rw [List.append_assoc, List.append_assoc] at hinput
        refine (syncLs_replies hworks hsends hinput fun h => by simp [hok] at h).bind
          fun r c₃ t₃ h => ?_
        obtain ⟨hr, hinput₃⟩ := h
        rw [syncLs_eq, hok] at hr
        subst hr
        simp only [foldl_callback, List.nil_append]
        rw [if_neg (by simp), if_neg (by simp)]
        -- The status of each link comes behind the entries.
        have hinput₃ := hinput₃ rfl
        rw [flatMap_fallbackReplies rpath lpath] at hinput₃
        refine (resolveLinks_replies hworks hsends hinput₃).bind
          fun lists c₄ t₄ h => ?_
        obtain ⟨hlists, hinput₄⟩ := h
        rw [← hlists]
        -- And then what the calls for the subdirectories read.
        have hdirs : lists.dirlist.reverse.map CopyInfo.rpath = (directories (D.accepted rpath).2 ++
            D.directoryLinks rpath (D.accepted rpath).2).reverse.map (subPath rpath) := by
          rw [hlists, foldl_resolveLink rpath lpath _ _ fun d => notDir_of_mem_links]
          simp [directoryLinks, entryInfo_rpath, Function.comp_def]
        rw [← hdirs] at hbelow
        refine recurse_follows (ih n) lists.dirlist.reverse lists.fileList _ _ _ c₄ hbelow hinput₄
          hmore ?_
        have hpos : 0 < (D.listReply env rest rpath).length := listReply_pos hok
        have hlen := congrArg List.length hinput
        rw [hinput₄]
        simp only [List.length_append] at hlen ⊢
        omega

/-- Where a device sends its replies, `remote_build_list` builds the list for what the device
answers, and where it succeeds it has read them all. -/
theorem remoteBuildList_replies {n : ℕ} {fileList : List CopyInfo} {rpath lpath bytes more : Bytes}
    {ok : Bool} {c : SyncConnection}
    (hwalk : walk (D.replies env toWire rest) n rpath = some (ok, bytes))
    (hinput : c.input = bytes ++ more) (hmore : ok = false → more = []) :
    Prog.Runs (Sync.remoteBuildList env fileList rpath lpath) c fun r c' _ =>
      D.remoteBuildList n fileList rpath lpath = some r ∧ r.1 = ok ∧
        (ok = true → c'.input = more) :=
  .get_bind (remoteBuildListTo_follows hworks hsends _ n fileList rpath lpath ok bytes more c hwalk
    hinput hmore (Nat.lt_succ_self _))

end Walk

end Device

end AdbMobile.Sync
