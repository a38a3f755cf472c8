import AdbMobile.Client.Commandline.Commands

/-!
# Failed feature queries

`adb_get_feature_set_or_die` no longer ends the process when the server does not answer: it returns
an empty optional. Of its callers `adb_shell` tests for that, and the others take the features as
they get them (`requireFeatures_unknown`).

A program that does not take the features, and one that has them, is `Steady`: it keeps what is
known, and has no failed query among its events. The lemmas here say so of every program for a
device.
-/

namespace AdbMobile.Client

open ByteString Sync

/-- The event is a feature query without an answer, or what comes of it. -/
def DeviceEvent.isFailedQuery : DeviceEvent → Bool
  | .noFeatureSet | .dereferencesEmpty => true
  | _ => false

/-- What is known of the features is kept, and where `guarded` holds, or the features are known, no
query fails. -/
def Steady (guarded : Prop) (s : DeviceState) (t : List DeviceEvent) (s' : DeviceState) : Prop :=
  (s.features.isSome → s'.features.isSome) ∧
    (guarded ∨ s.features.isSome → ∀ e ∈ t, e.isFailedQuery = false)

/-- The features of the device are known, or the server answers the query for them. -/
def FeaturesKnown (env : ClientEnv) (s : DeviceState) : Prop :=
  ∃ features, (adbGetFeatureSet env s).result = .ok (.ok features)

section Rules

variable {guarded : Prop} {α β : Type}

theorem steady_composes (guarded : Prop) : Prog.Composes (Steady guarded) where
  nil _ := ⟨id, fun _ _ h => absurd h List.not_mem_nil⟩
  append {s t s' t' s''} h h' := by
    refine ⟨h'.1 ∘ h.1, fun hs e he => ?_⟩
    rcases List.mem_append.mp he with he | he
    · exact h.2 hs e he
    · exact h'.2 (hs.imp_right h.1) e he

theorem steady_pure (a : α) : Prog.Keeps (Steady guarded) (pure a : DeviceM α) :=
  .pure (steady_composes _) a

theorem steady_bind {p : DeviceM α} {f : α → DeviceM β} (hp : Prog.Keeps (Steady guarded) p)
    (hf : ∀ a, Prog.Keeps (Steady guarded) (f a)) : Prog.Keeps (Steady guarded) (p >>= f) :=
  .bind (steady_composes _) hp hf

theorem steady_get : Prog.Keeps (Steady guarded) (Prog.get : DeviceM DeviceState) :=
  .get (steady_composes _)

theorem steady_exit (x : ClientStop) : Prog.Keeps (Steady guarded) (Prog.exit x : DeviceM α) :=
  .exit (steady_composes _) x

theorem steady_emit {e : DeviceEvent} (he : e.isFailedQuery = false) :
    Prog.Keeps (Steady guarded) (Prog.emit e : DeviceM Unit) := fun _ =>
  ⟨id, fun _ _ h => List.mem_singleton.mp h ▸ he⟩

/-- A program that only uses connections asks for no features by itself. -/
theorem steady_onWire (p : WireM α) : Prog.Keeps (Steady guarded) (onWire p) := by
  refine fun s => ⟨id, fun _ e he => ?_⟩
  obtain ⟨e, -, rfl⟩ := List.mem_map.mp he
  rfl

end Rules

section Device

variable (env : ClientEnv) {guarded : Prop} {α : Type}

/-! ## The feature query -/

/-- The query returns. It leaves the features known exactly if it has an answer. -/
theorem adbGetFeatureSet_spec (s : DeviceState) :
    ∃ r s' t, adbGetFeatureSet env s = ⟨.ok r, s', t⟩ ∧ (∀ e ∈ t, e.isFailedQuery = false) ∧
      (s'.features = match r with
        | .ok features => some features
        | .error _ => none) := by
  unfold adbGetFeatureSet
  rw [Prog.bind_get_apply]
  cases hs : s.features with
  | some features => exact ⟨.ok features, s, [], rfl, fun _ h => absurd h List.not_mem_nil, hs⟩
  | none =>
    have hquery := (steady_onWire
      (adbQuery env (formatHostCommand s.wire.process (lit "features")) false) :
        Prog.Keeps (Steady True) _) s
    dsimp only
    generalize adbQuery env (formatHostCommand s.wire.process (lit "features")) false = query at hquery
    cases hr : (query s.wire).result with
    | error x => exact x.elim
    | ok r =>
      have hrun : onWire query s = ⟨.ok r, { s with wire := (query s.wire).state },
          (query s.wire).trace.map .wire⟩ := by
        rw [onWire, Prog.within, hr]
        rfl
      rw [Prog.bind_of_run hrun]
      rw [hrun] at hquery
      cases r with
      | error e => exact ⟨.error e, _, _, rfl, by simpa using hquery.2 (.inl trivial), hs⟩
      | ok result => exact ⟨.ok _, _, _, rfl, by simpa using hquery.2 (.inl trivial), rfl⟩

theorem steady_adbGetFeatureSet : Prog.Keeps (Steady guarded) (adbGetFeatureSet env) := by
  intro s
  refine ⟨fun hs => ?_, fun _ => ?_⟩
  · obtain ⟨features, hfeatures⟩ := Option.isSome_iff_exists.mp hs
    rw [adbGetFeatureSet, Prog.bind_get_apply, hfeatures]
    exact hs
  · obtain ⟨r, s', t, hrun, ht, -⟩ := adbGetFeatureSet_spec env s
    rw [hrun]
    exact ht

/-- Features that are known are found without a failed query, and known afterwards. -/
theorem adbGetFeatureSetOrDie_known (out : Bool) {s : DeviceState} (h : FeaturesKnown env s) :
    ∃ features s' t, adbGetFeatureSetOrDie env out s = ⟨.ok (some features), s', t⟩ ∧
      s'.features = some features ∧ ∀ e ∈ t, e.isFailedQuery = false := by
  obtain ⟨r, s', t, hrun, ht, hs'⟩ := adbGetFeatureSet_spec env s
  obtain ⟨features, hknown⟩ := h
  rw [hrun] at hknown
  obtain rfl : r = .ok features := Except.ok.inj hknown
  refine ⟨features, s', t, ?_, hs', ht⟩
  rw [adbGetFeatureSetOrDie, Prog.bind_of_run hrun]
  exact congrArg _ (List.append_nil t)

/-- Features that are not known leave an empty optional, and no more is known afterwards. -/
theorem adbGetFeatureSetOrDie_unknown (out : Bool) {s : DeviceState} (h : ¬ FeaturesKnown env s) :
    ∃ t, adbGetFeatureSetOrDie env out s = ⟨.ok none, (adbGetFeatureSet env s).state, t⟩ ∧
      .noFeatureSet ∈ t ∧ .dereferencesEmpty ∉ t := by
  obtain ⟨r, s', t, hrun, ht, -⟩ := adbGetFeatureSet_spec env s
  cases r with
  | ok features => exact absurd ⟨features, by rw [hrun]⟩ h
  | error e =>
    have hrest : ∃ t', ((do
        Prog.emit .noFeatureSet
        onWire (capture out (cString e ++ lit "\n"))
        return none : DeviceM (Option FeatureSet)) s') = ⟨.ok none, s', .noFeatureSet :: t'⟩ ∧
          .dereferencesEmpty ∉ t' := by
      cases out with
      | false => exact ⟨[], rfl, List.not_mem_nil⟩
      | true => exact ⟨[.wire (.captured (cString e ++ lit "\n"))], rfl, by simp⟩
    obtain ⟨t', hrest, ht'⟩ := hrest
    refine ⟨t ++ .noFeatureSet :: t', ?_, by simp, ?_⟩
    · rw [adbGetFeatureSetOrDie, Prog.bind_of_run hrun, hrun]
      dsimp only
      rw [hrest, Prog.after_mk]
    · have hnot : .dereferencesEmpty ∉ t := fun hmem => by cases ht _ hmem
      simpa using ⟨hnot, ht'⟩

/-- Features that are known are taken without a failed query, and known afterwards. -/
theorem requireFeatures_known (out : Bool) {s : DeviceState} (h : FeaturesKnown env s) :
    ∃ features s' t, requireFeatures env out s = ⟨.ok features, s', t⟩ ∧
      s'.features = some features ∧
      ∀ e ∈ t, e.isFailedQuery = false := by
  obtain ⟨features, s', t, hrun, hs', ht⟩ := adbGetFeatureSetOrDie_known env out h
  refine ⟨features, s', t, ?_, hs', ht⟩
  rw [requireFeatures, Prog.bind_of_run hrun]
  exact congrArg _ (List.append_nil t)

/-- Features that are not known are dereferenced all the same. -/
theorem requireFeatures_unknown (out : Bool) {s : DeviceState} (h : ¬ FeaturesKnown env s) :
    (requireFeatures env out s).result = .error .dereferencesEmpty ∧
      .dereferencesEmpty ∈ (requireFeatures env out s).trace := by
  obtain ⟨t, hrun, -, -⟩ := adbGetFeatureSetOrDie_unknown env out h
  rw [requireFeatures, Prog.bind_of_run hrun]
  exact ⟨rfl, List.mem_append_right _ (List.mem_singleton_self _)⟩

/-- A set that is cached is known. -/
theorem featuresKnown_of_isSome {s : DeviceState} (hs : s.features.isSome) :
    FeaturesKnown env s := by
  obtain ⟨features, hfeatures⟩ := Option.isSome_iff_exists.mp hs
  exact ⟨features, by rw [adbGetFeatureSet, Prog.bind_get_apply, hfeatures]; rfl⟩

theorem steady_adbGetFeatureSetOrDie (out : Bool) :
    Prog.Keeps (Steady False) (adbGetFeatureSetOrDie env out) := by
  intro s
  by_cases h : FeaturesKnown env s
  · obtain ⟨features, s', t, hrun, hs', ht⟩ := adbGetFeatureSetOrDie_known env out h
    rw [hrun]
    exact ⟨fun _ => by rw [hs']; rfl, fun _ => ht⟩
  · have hnone : s.features.isSome → False := fun hs => h (featuresKnown_of_isSome env hs)
    exact ⟨fun hs => (hnone hs).elim, fun hs => (hs.elim id hnone).elim⟩

theorem steady_requireFeatures (out : Bool) :
    Prog.Keeps (Steady False) (requireFeatures env out) := by
  intro s
  by_cases h : FeaturesKnown env s
  · obtain ⟨features, s', t, hrun, hs', ht⟩ := requireFeatures_known env out h
    rw [hrun]
    exact ⟨fun _ => by rw [hs']; rfl, fun _ => ht⟩
  · have hnone : s.features.isSome → False := fun hs => h (featuresKnown_of_isSome env hs)
    exact ⟨fun hs => (hnone hs).elim, fun hs => (hs.elim id hnone).elim⟩

/-! ## Programs that look before they take -/

theorem steady_errorExit (text : Bytes) :
    Prog.Keeps (Steady guarded) (errorExit env text : DeviceM α) :=
  steady_bind (steady_emit rfl) fun _ => steady_exit _

theorem steady_orExit (e : Except Bytes α) : Prog.Keeps (Steady guarded) (orExit env e) := by
  cases e with
  | error text => exact steady_errorExit env text
  | ok a => exact steady_pure a

theorem steady_readAndDumpDefault (out : Bool) (fd : Connection) (useShellProtocol : Bool) :
    Prog.Keeps (Steady guarded) (readAndDumpDefault env out fd useShellProtocol) := by
  refine steady_bind steady_get fun s => ?_
  dsimp only
  split
  · exact steady_pure _
  · exact steady_bind (steady_onWire _) fun _ => steady_pure _

theorem steady_awaitDevice (useShellProtocol : Bool) :
    Prog.Keeps (Steady guarded) (awaitDevice env useShellProtocol) :=
  steady_bind (steady_onWire _) fun _ => steady_bind (steady_onWire _) fun _ =>
    .ite (fun _ => steady_pure _) fun _ => steady_pure _

theorem steady_tryShell (service : Bytes) : Prog.Keeps (Steady guarded) (tryShell env service) := by
  refine steady_bind (steady_onWire _) fun r => ?_
  cases r <;> exact steady_pure _

theorem steady_sendShellCommandRound (command : Bytes) (disable useShellProtocol : Bool) :
    Prog.Keeps (Steady guarded) (sendShellCommandRound env command disable useShellProtocol) := by
  have hfeatures : Prog.Keeps (Steady guarded) (shellFeatures env disable) :=
    .ite (fun _ => steady_pure _) fun _ => steady_adbGetFeatureSet env
  refine steady_bind hfeatures fun features => ?_
  cases features with
  | error e => exact steady_awaitDevice env _
  | ok features =>
    refine steady_bind (steady_tryShell env _) fun fd => ?_
    cases fd with
    | none => exact steady_awaitDevice env _
    | some fd => exact steady_pure _

theorem steady_openShellCommand (command : Bytes) (disable : Bool) :
    Prog.Keeps (Steady guarded) (openShellCommand env command disable) :=
  steady_bind steady_get fun _ =>
    .loop (steady_composes _) (fun u => steady_sendShellCommandRound env command disable u) _ _

theorem steady_sendShellCommand (command : Bytes) :
    Prog.Keeps (Steady guarded) (sendShellCommand env command) := by
  refine steady_bind (steady_openShellCommand env command false) fun r => ?_
  cases r with
  | none => exact steady_pure _
  | some r => exact steady_readAndDumpDefault env _ _ _

theorem steady_remoteShell (out useShellProtocol : Bool) (typeArg : Bytes) (escapeChar : UInt8)
    (emptyCommand : Bool) (service typed : Bytes) : Prog.Keeps (Steady guarded)
      (remoteShell env out useShellProtocol typeArg escapeChar emptyCommand service typed) := by
  refine .ite (fun _ => steady_bind (steady_onWire _) fun _ => steady_pure _) fun _ =>
    steady_bind (steady_onWire _) fun r => ?_
  cases r with
  | failed code e => exact steady_bind (steady_onWire _) fun _ => steady_pure _
  | opened fd _ =>
    exact .ite (fun _ => steady_bind (steady_emit rfl) fun _ => steady_exit _) fun _ =>
      steady_readAndDumpDefault env _ _ _

theorem steady_syncConnection (out : Bool) :
    Prog.Keeps (Steady guarded) (syncConnection env out) := by
  refine steady_bind (steady_adbGetFeatureSet env) fun r => ?_
  have hfail : ∀ e : Bytes, Prog.Keeps (Steady guarded) (do
      onWire (capture out e)
      Prog.emit (.sync (.error e))
      return none : DeviceM (Option (FeatureSet × Connection))) := fun e =>
    steady_bind (steady_onWire _) fun _ => steady_bind (steady_emit rfl) fun _ => steady_pure _
  cases r with
  | error e => exact hfail _
  | ok features =>
    refine steady_bind (steady_onWire _) fun r => ?_
    cases r with
    | failed code e => exact hfail _
    | opened fd _ => exact steady_pure _

/-- A sync session does not ask for features again. -/
theorem steady_syncSession (out : Bool) (features : FeatureSet) (fd : Connection)
    (session : SyncEnv → SyncM Bool) :
    Prog.Keeps (Steady guarded) (syncSession env out features fd session) := by
  refine fun s => ⟨id, fun _ e he => ?_⟩
  obtain ⟨e', -, he⟩ := List.mem_flatMap.mp he
  cases e' with
  | captured text =>
    cases out with
    | false => exact absurd he List.not_mem_nil
    | true => exact List.mem_singleton.mp he ▸ rfl
  | _ => exact List.mem_singleton.mp he ▸ rfl

theorem steady_doSync (out : Bool) (session : SyncAnswers → SyncEnv → SyncM Bool) :
    Prog.Keeps (Steady guarded) (doSync env out session) := by
  refine steady_bind (steady_syncConnection env out) fun r => ?_
  cases r with
  | none => exact steady_pure _
  | some r => exact steady_syncSession env _ _ _ _

theorem steady_pushCommand (out : Bool) (args : List Bytes) :
    Prog.Keeps (Steady guarded) (pushCommand env out args) := by
  refine steady_bind (steady_orExit env _) fun a => ?_
  split
  · exact steady_bind (steady_doSync env _ _) fun _ => steady_pure _
  · exact steady_onWire _

theorem steady_pullCommand (out : Bool) (args : List Bytes) :
    Prog.Keeps (Steady guarded) (pullCommand env out args) := by
  refine steady_bind (steady_orExit env _) fun a => ?_
  split
  · exact steady_bind (steady_doSync env _ _) fun _ => steady_pure _
  · exact steady_onWire _

theorem steady_lsCommand (out : Bool) (args : List Bytes) :
    Prog.Keeps (Steady guarded) (lsCommand env out args) := by
  unfold lsCommand
  split
  · exact steady_bind (steady_doSync env _ _) fun _ => steady_pure _
  · exact steady_onWire _

theorem steady_syncPartitions (out : Bool) (o : SyncOptions) (src : Bytes)
    (partitions : List Bytes) :
    ∀ found, Prog.Keeps (Steady guarded) (syncPartitions env out o src found partitions) := by
  induction partitions with
  | nil => exact fun found => steady_pure _
  | cons partition rest ih =>
    exact fun found => .ite (fun _ => steady_bind (steady_orExit env _) fun dir =>
      steady_bind (steady_onWire _) fun k => .ite (fun _ => ih found) fun _ =>
        steady_bind (steady_doSync env _ _) fun ok => .ite (fun _ => ih true) fun _ =>
          steady_pure _)
      fun _ => ih found

theorem steady_syncFrom (out : Bool) (o : SyncOptions) (src : Bytes) :
    Prog.Keeps (Steady guarded) (syncFrom env out o src) := by
  refine steady_bind (steady_syncPartitions env out o src partitions false) fun r => ?_
  split
  · exact steady_pure _
  · exact steady_pure _
  · exact steady_onWire _

theorem steady_backupTo (filename : Bytes) (args : List Bytes) :
    Prog.Keeps (Steady guarded) (backupTo env filename args) := by
  refine .ite (fun _ => steady_errorExit env _) fun _ => steady_bind (steady_onWire _) fun k => ?_
  split
  · exact steady_bind (steady_onWire _) fun _ => steady_pure _
  · refine steady_bind (steady_onWire _) fun r => ?_
    cases r with
    | failed code e => exact steady_bind (steady_onWire _) fun _ => steady_pure _
    | opened fd _ => exact steady_pure _

theorem steady_restore (args : List Bytes) : Prog.Keeps (Steady guarded) (restore env args) := by
  unfold restore
  split
  · exact steady_errorExit env _
  · refine steady_bind (steady_onWire _) fun k => ?_
    split
    · exact steady_bind (steady_onWire _) fun _ => steady_pure _
    · refine steady_bind (steady_onWire _) fun r => ?_
      cases r with
      | failed code e => exact steady_bind (steady_onWire _) fun _ => steady_pure _
      | opened fd _ => exact steady_pure _

theorem steady_raw (out : Bool) (args : List Bytes) :
    Prog.Keeps (Steady guarded) (raw env out args) := by
  unfold raw
  split
  · refine steady_bind (steady_onWire _) fun r => ?_
    cases r with
    | failed code e => exact steady_bind (steady_onWire _) fun _ => steady_pure _
    | opened fd _ =>
      exact .ite (fun _ => steady_errorExit env _) fun _ =>
        .ite (fun _ => steady_errorExit env _) fun _ => steady_exit _
  · exact steady_onWire _

theorem steady_incServer (out : Bool) (args : List Bytes) :
    Prog.Keeps (Steady guarded) (incServer env out args) := by
  unfold incServer
  split
  · exact .ite (fun _ => steady_onWire _) fun _ => .ite (fun _ => steady_onWire _) fun _ =>
      steady_pure _
  · exact steady_errorExit env _

/-! ## Bug reports -/

theorem steady_emitReport (es : List BugreportEvent) :
    Prog.Keeps (Steady guarded) (emitReport es) := by
  induction es with
  | nil => exact steady_pure _
  | cons e es ih => exact steady_bind (steady_emit rfl) fun _ => ih

theorem steady_pullAsked (es : List BugreportEvent) :
    Prog.Keeps (Steady guarded) (pullAsked env es) := by
  unfold pullAsked
  split
  · exact steady_doSync env _ _
  · exact steady_pure _

theorem steady_runBugreport (callback : BugreportCallback) (chunks : List Bytes) :
    Prog.Keeps (Steady guarded) (runBugreport env callback chunks) := by
  refine steady_bind (steady_emitReport _) fun _ =>
    steady_bind (steady_pullAsked env _) fun pulled =>
    steady_bind (steady_emitReport _) fun _ => ?_
  split
  · exact steady_pure _
  · exact steady_exit _

theorem steady_pullBugreport (bugzVersion destDir destFile : Bytes) :
    Prog.Keeps (Steady guarded) (pullBugreport env bugzVersion destDir destFile) := by
  refine steady_bind (steady_onWire _) fun _ =>
    steady_bind (steady_openShellCommand env _ _) fun r => ?_
  cases r with
  | none => exact steady_pure _
  | some r => exact steady_runBugreport env _ _

theorem steady_bugreportTo (bugzVersion : Bytes) (args : List Bytes) :
    Prog.Keeps (Steady guarded) (bugreportTo env bugzVersion args) := by
  unfold bugreportTo
  split
  · split
    · exact steady_pure _
    · exact steady_pullBugreport env _ _ _
  · refine .ite (fun _ => .ite (fun _ => ?_) fun _ => steady_sendShellCommand env _) fun _ =>
      steady_bind (steady_onWire _) fun k =>
        .ite (fun _ => steady_pullBugreport env _ _ _) fun _ => steady_pullBugreport env _ _ _
    exact steady_bind (steady_onWire _) fun _ => steady_pullBugreport env _ _ _

theorem steady_doIt (args : List Bytes) : Prog.Keeps (Steady guarded) (doIt env args) := by
  refine .ite (fun _ => steady_errorExit env _) fun _ =>
    steady_bind (steady_openShellCommand env _ _) fun opened => ?_
  refine .ite (fun _ => .ite (fun _ => ?_) fun _ => ?_) fun _ => steady_bugreportTo env _ _
  · exact steady_bind (steady_onWire _) fun _ => steady_sendShellCommand env _
  · exact steady_bind (steady_onWire _) fun _ => steady_pure _

/-! ## Installing -/

theorem steady_bestInstallMode : Prog.Keeps (Steady False) (bestInstallMode env) :=
  steady_bind (steady_requireFeatures env false) fun _ => steady_pure _

theorem steady_isApexSupported : Prog.Keeps (Steady False) (isApexSupported env) :=
  steady_bind (steady_requireFeatures env false) fun _ => steady_pure _

theorem steady_isAbbExecSupported : Prog.Keeps (Steady False) (isAbbExecSupported env) :=
  steady_bind (steady_requireFeatures env false) fun _ => steady_pure _

theorem steady_sendAbbExecCommand (cmdArgs : List Bytes) :
    Prog.Keeps (Steady guarded) (sendAbbExecCommand env cmdArgs) := by
  refine steady_bind (steady_onWire _) fun r => ?_
  cases r with
  | failed code e => exact steady_bind (steady_onWire _) fun _ => steady_pure _
  | opened fd _ => exact steady_pure _

theorem steady_sendCommand (cmdArgs : List Bytes) :
    Prog.Keeps (Steady False) (sendCommand env cmdArgs) :=
  steady_bind (steady_isAbbExecSupported env) fun _ =>
    .ite (fun _ => steady_sendAbbExecCommand env _) fun _ => steady_onWire _

theorem steady_streamPackage (file : Bytes) (cmdArgs : List Bytes) (reads : List (Option Bytes)) :
    Prog.Keeps (Steady False) (streamPackage env file cmdArgs reads) := by
  refine steady_bind (steady_sendCommand env _) fun r => ?_
  cases r with
  | failed code e => exact steady_bind (steady_onWire _) fun _ => steady_pure _
  | opened fd _ =>
    exact .ite (fun _ => steady_bind (steady_onWire _) fun _ => steady_pure _) fun _ =>
      .ite (fun _ => steady_bind (steady_onWire _) fun _ => steady_pure _) fun _ => steady_pure _

theorem steady_installAppStreamed (args : List Bytes) (useFastdeploy : Bool) :
    Prog.Keeps (Steady False) (installAppStreamed env args useFastdeploy) := by
  refine .ite (fun _ => steady_errorExit env _) fun _ => steady_bind (.ite (fun _ =>
    steady_isApexSupported env) fun _ => steady_pure _) fun supported => ?_
  refine .ite (fun _ => steady_errorExit env _) fun _ =>
    .ite (fun _ => steady_errorExit env _) fun _ =>
    .ite (fun _ => steady_errorExit env _) fun _ => steady_bind (steady_onWire _) fun k => ?_
  split
  · exact steady_bind (steady_onWire _) fun _ => steady_pure _
  refine steady_bind (steady_onWire _) fun k => ?_
  split
  · exact steady_bind (steady_onWire _) fun _ => steady_pure _
  · exact steady_bind (steady_isAbbExecSupported env) fun _ => steady_streamPackage env _ _ _

theorem steady_installAppLegacy (args : List Bytes) (useFastdeploy : Bool) :
    Prog.Keeps (Steady guarded) (installAppLegacy env args useFastdeploy) :=
  steady_bind (steady_orExit env _) fun _ => .ite (fun _ => steady_errorExit env _) fun _ =>
    steady_bind (steady_doSync env _ _) fun _ => .ite (fun _ =>
      steady_bind (steady_sendShellCommand env _) fun _ =>
        steady_bind (steady_sendShellCommand env _) fun _ => steady_pure _) fun _ => steady_pure _

theorem steady_installAppIncremental (args : List Bytes) (silent : Bool) :
    Prog.Keeps (Steady guarded) (installAppIncremental env args silent) := by
  unfold installAppIncremental
  dsimp only
  split
  · exact steady_bind (steady_onWire _) fun _ => steady_pure _
  · exact .ite (fun _ => steady_pure _) fun _ => .ite (fun _ => steady_pure _) fun _ =>
      steady_pure _

theorem steady_deviceDefault (request : CmdlineOption) :
    Prog.Keeps (Steady guarded) (deviceDefault env request) := by
  refine .ite (fun _ => steady_pure _) fun _ =>
    steady_bind (steady_sendAbbExecCommand env _) fun r => ?_
  cases r with
  | failed code e => exact steady_bind (steady_onWire _) fun _ => steady_pure _
  | opened fd _ => exact steady_pure _

theorem steady_runInstallModes (primary : InstallMode) (fallback : Option InstallMode)
    {run : InstallMode → Bool → DeviceM ℤ}
    (hrun : ∀ mode silent, Prog.Keeps (Steady guarded) (run mode silent)) :
    Prog.Keeps (Steady guarded) (runInstallModes primary fallback run) :=
  steady_bind (hrun _ _) fun _ => .ite (fun _ => hrun _ _) fun _ => steady_pure _

theorem steady_writeToSession (file shown : Bytes) (cmdArgs : ℤ → List Bytes) :
    Prog.Keeps (Steady False) (writeToSession env file shown cmdArgs) := by
  have hfail : ∀ text, Prog.Keeps (Steady False) (do
      onWire (stderr text)
      return false : DeviceM Bool) := fun _ => steady_bind (steady_onWire _) fun _ => steady_pure _
  refine steady_bind (steady_onWire _) fun k => ?_
  split
  · exact hfail _
  refine steady_bind (steady_onWire _) fun k => ?_
  split
  · exact hfail _
  refine steady_bind (steady_sendCommand env _) fun r => ?_
  cases r with
  | failed code e => exact steady_bind (steady_emit rfl) fun _ => hfail _
  | opened fd _ =>
    refine .ite (fun _ => steady_bind (steady_emit rfl) fun _ => hfail _) fun _ => ?_
    exact steady_bind (steady_emit rfl) fun _ => .ite (fun _ => hfail _) fun _ => steady_pure _

theorem steady_sessionCommand (purpose : Bytes) (cmdArgs : List Bytes) :
    Prog.Keeps (Steady False) (sessionCommand env purpose cmdArgs) := by
  refine steady_bind (steady_sendCommand env _) fun r => ?_
  cases r with
  | failed code e =>
    exact steady_bind (steady_emit rfl) fun _ => steady_bind (steady_onWire _) fun _ =>
      steady_pure _
  | opened fd _ => exact steady_bind (steady_emit rfl) fun _ => steady_pure _

theorem steady_writeApks (installCmd session : Bytes) (files : List Bytes) :
    Prog.Keeps (Steady False) (writeApks env installCmd session files) := by
  induction files with
  | nil => exact steady_pure _
  | cons file files ih =>
    exact steady_bind (steady_writeToSession env _ _ _) fun _ => .ite (fun _ => ih) fun _ =>
      steady_pure _

theorem steady_writeSplits (installCmd session : Bytes) (i : ℕ) (splits : List Bytes) :
    Prog.Keeps (Steady False) (writeSplits env installCmd session i splits) := by
  induction splits with
  | nil => exact steady_pure _
  | cons split splits ih =>
    exact steady_bind (steady_writeToSession env _ _ _) fun _ => .ite (fun _ => ih) fun _ =>
      steady_pure _

theorem steady_childSessions (installCmd : Bytes) (cmdArgs apexCmdArgs : List Bytes)
    (files : List Bytes) : ∀ sessions i,
      Prog.Keeps (Steady False) (childSessions env installCmd cmdArgs apexCmdArgs sessions i files) := by
  induction files with
  | nil => exact fun _ _ => steady_pure _
  | cons file files ih =>
    refine fun sessions i => steady_bind (steady_sessionCommand env _ _) fun r => ?_
    split
    · exact steady_pure _
    split
    · exact steady_bind (steady_onWire _) fun _ => steady_pure _
    · exact steady_bind (steady_writeSplits env _ _ _ _) fun _ =>
        .ite (fun _ => ih _ _) fun _ => steady_pure _

theorem steady_linkSessions (created : Bool) (installCmd parent : Bytes) (sessions : List ℕ) :
    Prog.Keeps (Steady False) (linkSessions env created installCmd parent sessions) := by
  refine .ite (fun _ => steady_bind (steady_sessionCommand env _ _) fun r => ?_) fun _ =>
    steady_pure _
  split
  · exact steady_pure _
  · exact .ite (fun _ => steady_bind (steady_onWire _) fun _ => steady_pure _) fun _ =>
      steady_pure _

theorem steady_finalizeMultiPackage (installCmd : Bytes) (success : Bool) (args : List Bytes)
    (parent : ℕ) (sessions : List ℕ) :
    Prog.Keeps (Steady False) (finalizeMultiPackage env installCmd success args parent sessions) := by
  have habandon : ∀ ids, Prog.Keeps (Steady False) (abandonSessions env installCmd ids) := by
    intro ids
    induction ids with
    | nil => exact steady_pure _
    | cons id ids ih =>
      exact steady_bind (steady_onWire _) fun _ =>
        steady_bind (steady_sessionCommand env _ _) fun _ => ih
  refine steady_bind (steady_sessionCommand env _ _) fun r => ?_
  split
  · exact steady_pure _
  · exact .ite (fun _ => steady_pure _) fun _ => steady_bind (steady_onWire _) fun _ =>
      steady_bind (habandon _) fun _ => steady_pure _

end Device

end AdbMobile.Client
