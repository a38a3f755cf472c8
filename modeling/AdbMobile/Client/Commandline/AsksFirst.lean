import AdbMobile.Client.Commandline.FailedQuery

/-!
# Programs that take the features

A program that takes the features asks for them before it uses a connection, so it dereferences an
empty optional in every state in which they are not known (`AsksFirst`). Which installations take
them depends on the words alone, and on the packages that `stat` finds (`asksForModes`,
`namesApks`). `forward` and `reverse` look at the features only for a destination `dev-raw:`;
otherwise they go on without them, and return zero where the server accepts the forward
(`deviceHandles_forward`).
-/

namespace AdbMobile.Client

open ByteString Sync

/-- A failed query is handled: nothing is dereferenced, and where there is no feature set the result
is good. -/
def HandlesQuery {σ ε α : Type} (noFeatureSet dereferencesEmpty : ε) (good : α → Prop)
    (o : Outcome σ ε ClientStop α) : Prop :=
  dereferencesEmpty ∉ o.trace ∧ (noFeatureSet ∈ o.trace → ∃ a, o.result = .ok a ∧ good a)

/-- A failed query is handled by a program for a device. -/
abbrev DeviceHandles {α : Type} (good : α → Prop)
    (o : Outcome DeviceState DeviceEvent ClientStop α) :
    Prop :=
  HandlesQuery .noFeatureSet .dereferencesEmpty good o

/-- Where the features are not known, the program dereferences them. Where they are, it has no
failed query, and they are known afterwards. -/
def AsksFirst (env : ClientEnv) {α : Type} (p : DeviceM α) (s : DeviceState) : Prop :=
  (FeaturesKnown env s → (p s).state.features.isSome ∧ ∀ e ∈ (p s).trace, e.isFailedQuery = false) ∧
    (¬ FeaturesKnown env s → .dereferencesEmpty ∈ (p s).trace)

section Handles

variable {σ ε α β : Type} {n d : ε} {good : α → Prop}

theorem handles_of_not_mem {o : Outcome σ ε ClientStop α} (hn : n ∉ o.trace) (hd : d ∉ o.trace) :
    HandlesQuery n d good o := ⟨hd, fun h => absurd h hn⟩

theorem handles_map {good : β → Prop} (f : α → β) (p : Prog σ ε ClientStop α) (s : σ) :
    HandlesQuery n d good ((f <$> p) s) ↔ HandlesQuery n d (fun a => good (f a)) (p s) := by
  rw [Prog.map_apply]
  refine and_congr_right fun _ => imp_congr_right fun _ => ?_
  cases hr : (p s).result with
  | error x => simp [Except.map]
  | ok a => simp [Except.map]

/-- A program that has no failed query leaves it to the rest. -/
theorem handles_bind {p : Prog σ ε ClientStop β} {f : β → Prog σ ε ClientStop α} {s : σ}
    (hn : n ∉ (p s).trace) (hd : d ∉ (p s).trace) :
    HandlesQuery n d good ((p >>= f) s) ↔
      ∀ b, (p s).result = .ok b → HandlesQuery n d good (f b (p s).state) := by
  cases hr : (p s).result with
  | error x =>
    rw [Prog.bind_apply_error hr]
    exact iff_of_true (handles_of_not_mem hn hd) fun b hb => by cases hb
  | ok b =>
    rw [Prog.bind_apply_ok hr]
    simp [HandlesQuery, hn, hd]

end Handles

section Calls

variable (env : ClientEnv) {α : Type}

/-! ## Calls on local files

The server's answers do not depend on the number of calls on local files that were made before. -/

/-- The connections after more calls on local files. -/
def Wire.afterCalls (n : ℕ) (w : Wire) : Wire := { w with calls := w.calls + n }

/-- The program is the same after more calls on local files. -/
abbrev IgnoresCalls (n : ℕ) (p : WireM α) : Prop := Prog.Ignores (Wire.afterCalls n) p

variable {n : ℕ}

theorem ignoresCalls_socketSpecConnect : IgnoresCalls n socketSpecConnect := by
  refine .get_bind (fun _ => rfl) fun w => .bind (.emit _) fun _ => ?_
  split
  · exact .pure _
  · exact .bind (.modify fun _ => rfl) fun _ => .pure _

theorem ignoresCalls_switchSocketTransport (fd : Connection) :
    IgnoresCalls n (switchSocketTransport env fd) := by
  refine .get_bind (fun _ => rfl) fun w => ?_
  split
  · exact .pure _
  · refine .bind (.emit _) fun _ => .ite (.pure _) ?_
    split
    · exact .pure _
    · refine .ite (.pure _) ?_
      split <;> exact .pure _

theorem ignoresCalls_sendService (service : Bytes) (fd : Connection) (transport : Option ℕ) :
    IgnoresCalls n (sendService env service fd transport) := by
  refine .bind (.emit _) fun _ => .ite (.pure _) ?_
  split <;> exact .pure _

theorem ignoresCalls_adbConnectOnce (service : Bytes) (forceSwitch : Bool) :
    IgnoresCalls n (adbConnectOnce env service forceSwitch) := by
  refine .ite (.pure _) (.bind ignoresCalls_socketSpecConnect fun r => ?_)
  cases r with
  | error reason => exact .get_bind (fun _ => rfl) fun _ => .pure _
  | ok fd =>
    refine .ite (.bind (ignoresCalls_switchSocketTransport env fd) fun r => ?_)
      (ignoresCalls_sendService env _ _ _)
    cases r with
    | error e => exact .pure _
    | ok r => exact ignoresCalls_sendService env _ _ _

theorem ignoresCalls_adbKillServer : IgnoresCalls n (adbKillServer env) := by
  refine .bind ignoresCalls_socketSpecConnect fun r => ?_
  cases r with
  | error reason => exact .get_bind (fun _ => rfl) fun _ => .bind (.emit _) fun _ => .pure _
  | ok fd =>
    refine .bind (.emit _) fun _ => .ite (.bind (.emit _) fun _ => .pure _) ?_
    split
    · exact .bind (.emit _) fun _ => .pure _
    · exact .bind (.emit _) fun _ => .pure _
    · refine .ite ?_ (.pure _)
      split <;> exact .bind (.emit _) fun _ => .pure _

theorem ignoresCalls_startServer : IgnoresCalls n (startServer env) :=
  .get_bind (fun _ => rfl) fun _ => .bind (.emit _) fun _ => .bind (.modify fun _ => rfl) fun _ =>
    .ite (.bind (.emit _) fun _ => .pure _) (.bind (.emit _) fun _ => .pure _)

theorem ignoresCalls_adbCheckServerVersion : IgnoresCalls n (adbCheckServerVersion env) := by
  refine .bind (ignoresCalls_adbConnectOnce env _ _) fun r => .get_bind (fun _ => rfl) fun w => ?_
  have hrestart : ∀ version : ℤ, IgnoresCalls n (do
      if version ≠ env.serverVersion then
        stderr (lit "adb server version (" ++ decimalInt version ++
          lit ") doesn't match this client (" ++ decimalInt env.serverVersion ++ lit "); killing...\n")
        let _ ← adbKillServer env
        startServer env
      else return .ok ()) := fun version =>
    .ite (.bind (.emit _) fun _ => .bind (ignoresCalls_adbKillServer env) fun _ =>
      ignoresCalls_startServer env) (.pure _)
  cases r with
  | failed code e =>
    exact .ite (.ite (.bind (.emit _) fun _ => .pure _) (.bind (.emit _) fun _ =>
      ignoresCalls_startServer env)) (.ite (.pure _) (hrestart 0))
  | opened fd transport =>
    dsimp only
    split
    · exact .pure _
    · split
      · exact .pure _
      · exact hrestart _

theorem ignoresCalls_adbConnect (service : Bytes) (forceSwitch : Bool) :
    IgnoresCalls n (adbConnect env service forceSwitch) := by
  refine .bind (ignoresCalls_adbCheckServerVersion env) fun r => ?_
  cases r with
  | error e => exact .pure _
  | ok _ =>
    refine .ite (.pure _) (.bind (ignoresCalls_adbConnectOnce env _ _) fun r => ?_)
    split
    · exact .bind (.emit _) fun _ => .pure _
    · exact .pure _

theorem ignoresCalls_adbQuery (service : Bytes) (forceSwitch : Bool) :
    IgnoresCalls n (adbQuery env service forceSwitch) := by
  refine .bind (ignoresCalls_adbConnect env _ _) fun r => ?_
  cases r <;> exact .pure _

/-- The device after more calls on local files. -/
def DeviceState.afterCalls (n : ℕ) (s : DeviceState) : DeviceState :=
  { s with wire := s.wire.afterCalls n }

theorem ignoresCalls_adbGetFeatureSet : Prog.Ignores (DeviceState.afterCalls n)
    (adbGetFeatureSet env) := by
  refine .get_bind (fun _ => rfl) fun s => ?_
  have hquery : Prog.Ignores (DeviceState.afterCalls n)
      (onWire (adbQuery env (formatHostCommand s.wire.process (lit "features")) false)) :=
        fun s' => by
    have h := ignoresCalls_adbQuery env (n := n) (formatHostCommand s.wire.process (lit "features")) false
      s'.wire
    simp only [onWire, Prog.within, DeviceState.afterCalls, h]
  split
  · exact .pure _
  · refine .bind hquery fun r => ?_
    cases r with
    | error e => exact .pure _
    | ok result => exact .bind (.modify fun _ => rfl) fun _ => .pure _

theorem featuresKnown_afterCalls (s : DeviceState) :
    FeaturesKnown env (s.afterCalls n) ↔ FeaturesKnown env s := by
  rw [FeaturesKnown, ignoresCalls_adbGetFeatureSet env s, FeaturesKnown]

end Calls

section Device

variable (env : ClientEnv) {α β : Type} {good : α → Prop}

theorem deviceHandles_of_quiet {o : Outcome DeviceState DeviceEvent ClientStop α}
    (h : ∀ e ∈ o.trace, e.isFailedQuery = false) : DeviceHandles good o :=
  handles_of_not_mem (fun he => by cases h _ he) fun he => by cases h _ he

/-- A program that does not take the features handles every failed query. -/
theorem deviceHandles_of_steady {p : DeviceM α} (hp : Prog.Keeps (Steady True) p)
    (s : DeviceState) :
    DeviceHandles good (p s) := deviceHandles_of_quiet ((hp s).2 (.inl trivial))

variable {env} {s : DeviceState}

/-- A program that takes the features handles a failed query only where none fails. -/
theorem AsksFirst.handles_iff {p : DeviceM α} (hp : AsksFirst env p s) :
    DeviceHandles good (p s) ↔ FeaturesKnown env s := by
  refine ⟨fun h => ?_, fun h => deviceHandles_of_quiet (hp.1 h).2⟩
  by_contra hknown
  exact h.1 (hp.2 hknown)

theorem AsksFirst.bind {p : DeviceM α} {f : α → DeviceM β} (hp : AsksFirst env p s)
    (hf : ∀ a, Prog.Keeps (Steady False) (f a)) : AsksFirst env (p >>= f) s := by
  refine ⟨fun h => ?_, fun h => Prog.mem_trace_bind_left (hp.2 h)⟩
  obtain ⟨hsome, hquiet⟩ := hp.1 h
  cases hr : (p s).result with
  | error x =>
    rw [Prog.bind_apply_error hr]
    exact ⟨hsome, hquiet⟩
  | ok a =>
    rw [Prog.bind_apply_ok hr]
    have hrest := hf a (p s).state
    refine ⟨hrest.1 hsome, fun e he => ?_⟩
    rcases List.mem_append.mp he with he | he
    · exact hquiet e he
    · exact hrest.2 (.inr hsome) e he

theorem AsksFirst.get_bind {f : DeviceState → DeviceM α} (h : AsksFirst env (f s) s) :
    AsksFirst env (Prog.get >>= f) s := h

theorem AsksFirst.pure_bind {f : α → DeviceM β} {a : α} (h : AsksFirst env (f a) s) :
    AsksFirst env (pure a >>= f) s := h

theorem AsksFirst.steady {p : DeviceM α} (hp : AsksFirst env p s) :
    Steady False s (p s).trace (p s).state :=
  ⟨fun hs => (hp.1 (featuresKnown_of_isSome env hs)).1,
    fun hs => (hp.1 (featuresKnown_of_isSome env (hs.resolve_left id))).2⟩

/-- A program that goes on from the state after calls on local files. -/
theorem AsksFirst.after_calls {p : DeviceM α} {f : α → DeviceM β} {a : α} {n : ℕ}
    (hrun : p s = ⟨.ok a, s.afterCalls n, []⟩) (hf : AsksFirst env (f a) (s.afterCalls n)) :
    AsksFirst env (p >>= f) s := by
  rw [AsksFirst, Prog.bind_of_run hrun]
  exact ⟨fun h => hf.1 ((featuresKnown_afterCalls env s).mpr h),
    fun h => hf.2 fun hafter => h ((featuresKnown_afterCalls env s).mp hafter)⟩

theorem asksFirst_requireFeatures (out : Bool) : AsksFirst env (requireFeatures env out) s := by
  refine ⟨fun h => ?_, fun h => (requireFeatures_unknown env out h).2⟩
  obtain ⟨features, s', t, hrun, hs', ht⟩ := requireFeatures_known env out h
  rw [hrun]
  exact ⟨by rw [hs']; rfl, ht⟩

theorem asksFirst_bestInstallMode : AsksFirst env (bestInstallMode env) s :=
  (asksFirst_requireFeatures false).bind fun _ => steady_pure _

theorem asksFirst_isAbbExecSupported : AsksFirst env (isAbbExecSupported env) s :=
  (asksFirst_requireFeatures false).bind fun _ => steady_pure _

/-! ## Installing -/

variable (env)

/-- The choice of the modes looks at the features. -/
def asksForModes (a : InstallArgs) (useFastdeploy : Bool) : Bool :=
  !(a.request = .enable && useFastdeploy) &&
    (a.mode = .default || a.mode = .stream && a.request ≠ .enable)

theorem asksFirst_calculateInstallMode {fastdeploy : Bool} {request : CmdlineOption}
    (h : ¬ (request = .enable ∧ fastdeploy)) :
    AsksFirst env (calculateInstallMode env .default fastdeploy request) s := by
  have hafter : ∀ request, Prog.Keeps (Steady False) (do
      let request ← deviceDefault env (hostDefault env request)
      if request = .enable then return (.incremental, none)
      else
        let bestMode ← bestInstallMode env
        if request = .none then return (.incremental, some bestMode)
        else return (bestMode, none)) := fun request =>
    steady_bind (steady_deviceDefault env _) fun _ => .ite (fun _ => steady_pure _) fun _ =>
      steady_bind (steady_bestInstallMode env) fun _ =>
        .ite (fun _ => steady_pure _) fun _ => steady_pure _
  unfold calculateInstallMode
  rw [if_neg h, if_neg (by simp)]
  by_cases hrequest : request = .disable
  · -- Without an incremental installation, the best mode is the first question.
    subst hrequest
    exact asksFirst_bestInstallMode.bind fun _ => .ite (fun _ => steady_pure _) fun _ =>
      steady_pure _
  · refine AsksFirst.bind ?_ hafter
    unfold requireAbbExec
    rw [if_neg hrequest]
    exact asksFirst_isAbbExecSupported.bind fun _ => .ite (fun _ => steady_pure _) fun _ =>
      .ite (fun _ => steady_pure _) fun _ => steady_errorExit env _

theorem asksFirst_chooseInstallModes {a : InstallArgs} {useFastdeploy : Bool}
    (h : asksForModes a useFastdeploy) : AsksFirst env (chooseInstallModes env a useFastdeploy) s := by
  have hrest : ∀ modes : InstallMode × Option InstallMode, Prog.Keeps (Steady False) (do
      if !asksToStream modes.1 modes.2 then return (modes.1, modes.2)
      else if (← bestInstallMode env) = .push then
        errorExit env (lit "Attempting to use streaming install on unsupported device")
      else return (modes.1, modes.2)) := fun modes =>
    .ite (fun _ => steady_pure _) fun _ => steady_bind (steady_bestInstallMode env) fun _ =>
      .ite (fun _ => steady_errorExit env _) fun _ => steady_pure _
  simp only [asksForModes, Bool.and_eq_true, Bool.not_eq_true', Bool.and_eq_false_iff,
    decide_eq_false_iff_not, Bool.or_eq_true, decide_eq_true_eq, ne_eq, decide_not,
    Bool.not_eq_true'] at h
  obtain ⟨hcompatible, hmode | ⟨hmode, hrequest⟩⟩ := h
  · unfold chooseInstallModes
    rw [hmode]
    exact (asksFirst_calculateInstallMode env (by grind)).bind hrest
  · have hmodes : calculateInstallMode env a.mode useFastdeploy a.request = pure (.stream, none) := by
      simp [calculateInstallMode, hmode, hrequest]
    unfold chooseInstallModes
    rw [hmodes]
    exact asksFirst_bestInstallMode.bind fun _ =>
      .ite (fun _ => steady_errorExit env _) fun _ => steady_pure _

/-- Nothing comes after `error_exit`. -/
theorem errorExit_bind (text : Bytes) (f : α → DeviceM β) :
    (errorExit env text >>= f) = errorExit env text := rfl

/-- A mode without a fallback is the only one. -/
theorem runInstallModes_none (primary : InstallMode) (run : InstallMode → Bool → DeviceM ℤ) :
    runInstallModes primary none run = run primary false >>= fun res => pure res := by
  have hnot : ∀ res : ℤ, ¬ (res ≠ 0 ∧ (none : Option InstallMode).getD primary ≠ primary) :=
    fun res h => h.2 rfl
  unfold runInstallModes
  simp only [Option.isSome_none, if_neg (hnot _)]

/-- Otherwise the modes are those of the words, or the command line is turned down. -/
theorem chooseInstallModes_of_not_asks {a : InstallArgs} {useFastdeploy : Bool}
    (h : ¬ asksForModes a useFastdeploy) :
    (a.request = .enable ∧ ∃ text, chooseInstallModes env a useFastdeploy = errorExit env text) ∨
      (a.request ≠ .enable ∧ a.mode ≠ .default ∧ a.mode ≠ .stream ∧
        chooseInstallModes env a useFastdeploy = pure (a.mode, none)) := by
  by_cases hcompatible : a.request = .enable ∧ useFastdeploy
  · refine .inl ⟨hcompatible.1, lit "--incremental and --fast-deploy options are incompatible. " ++
      lit "Please choose one", ?_⟩
    unfold chooseInstallModes calculateInstallMode
    rw [if_pos hcompatible, errorExit_bind]
  · have hmode : a.mode ≠ .default ∧ ¬ (a.mode = .stream ∧ a.request ≠ .enable) := by
      simp only [asksForModes] at h
      grind
    by_cases hrequest : a.request = .enable
    · refine .inl ⟨hrequest,
        lit "--incremental is not compatible with other installation modes", ?_⟩
      unfold chooseInstallModes calculateInstallMode
      rw [if_neg hcompatible, if_pos hmode.1, if_pos hrequest, errorExit_bind]
    · have hstream : a.mode ≠ .stream := fun heq => hmode.2 ⟨heq, hrequest⟩
      refine .inr ⟨hrequest, hmode.1, hstream, ?_⟩
      have hmodes : calculateInstallMode env a.mode useFastdeploy a.request = pure (a.mode, none) := by
        simp [calculateInstallMode, hmode.1, hrequest]
      have hnot : (!asksToStream a.mode none) = true := by simp [asksToStream, hstream]
      unfold chooseInstallModes
      rw [hmodes]
      exact if_pos hnot

theorem asksFirst_installApp {args : List Bytes}
    (h : asksForModes (installArgs args) (installArgs args).useFastdeploy) :
    AsksFirst env (installApp env args) s := by
  refine (asksFirst_chooseInstallModes env h).bind fun _ =>
    .ite (fun _ => steady_errorExit env _) fun _ => steady_runInstallModes _ _ fun mode silent => ?_
  cases mode with
  | default => exact steady_errorExit env _
  | push => exact steady_installAppLegacy env _ _
  | stream => exact steady_installAppStreamed env _ _
  | incremental => exact steady_installAppIncremental env _ _

theorem steady_installApp_of_not_asks {args : List Bytes}
    (h : ¬ asksForModes (installArgs args) (installArgs args).useFastdeploy) :
    Prog.Keeps (Steady True) (installApp env args) := by
  unfold installApp
  dsimp only
  obtain ⟨-, text, hexit⟩ | ⟨-, hdefault, hstream, hmodes⟩ := chooseInstallModes_of_not_asks env h
  · rw [hexit, errorExit_bind]
    exact steady_errorExit env _
  · rw [hmodes]
    refine .ite (fun _ => steady_errorExit env _) fun _ => ?_
    rw [runInstallModes_none]
    refine steady_bind ?_ fun _ => steady_pure _
    generalize (installArgs args).mode = mode at hdefault hstream
    cases mode with
    | default => exact absurd rfl hdefault
    | stream => exact absurd rfl hstream
    | push => exact steady_installAppLegacy env _ _
    | incremental => exact steady_installAppIncremental env _ _

theorem asksFirst_uninstallApp (args : List Bytes) : AsksFirst env (uninstallApp env args) s := by
  have hlegacy : Prog.Keeps (Steady False) (uninstallAppLegacy env args) :=
    .ite (fun _ => steady_pure _) fun _ => steady_sendShellCommand env _
  have hstreamed : Prog.Keeps (Steady False) (uninstallAppStreamed env args) :=
    .ite (fun _ => steady_pure _) fun _ => steady_sendShellCommand env _
  exact asksFirst_bestInstallMode.bind fun mode => .ite (fun _ => hlegacy) fun _ => hstreamed

/-! ## Installing several packages -/

/-- The words name packages for `install_multiple_app_streamed`, and none of them is missing. -/
def namesApks (calls : ℕ) (args : List Bytes) : Bool :=
  match countApks env calls args.reverse with
  | .ok (n, _) => n ≠ 0
  | .error _ => false

theorem asksFirst_installMultipleAppStreamed {args : List Bytes}
    (h : namesApks env s.wire.calls args) :
    AsksFirst env (installMultipleAppStreamed env args) s := by
  have hcmd : ∀ useAbbExec, Prog.Keeps (Steady False) (sessionInstallCmd env useAbbExec) := fun _ =>
    .ite (fun _ => steady_pure _) fun _ => steady_bind (steady_bestInstallMode env) fun _ =>
      steady_pure _
  refine .get_bind ?_
  unfold namesApks at h
  cases hcount : countApks env s.wire.calls args.reverse with
  | error text =>
    rw [hcount] at h
    cases h
  | ok r =>
    obtain ⟨n, total⟩ := r
    rw [hcount] at h
    have hn : n ≠ 0 := of_decide_eq_true h
    -- The APKs are counted first, without a connection.
    refine .pure_bind (.after_calls (n := n) rfl ?_)
    dsimp only
    rw [if_neg hn]
    refine asksFirst_isAbbExecSupported.bind fun useAbbExec =>
      steady_bind (hcmd useAbbExec) fun installCmd =>
        steady_bind (steady_sessionCommand env _ _) fun r => ?_
    split
    · exact steady_pure _
    split
    · exact steady_bind (steady_onWire _) fun _ => steady_pure _
    refine steady_bind (steady_writeApks env _ _ _) fun success =>
      steady_bind (steady_sessionCommand env _ _) fun r => ?_
    split
    · exact steady_pure _
    · exact .ite (fun _ => steady_pure _) fun _ =>
        .ite (fun _ => steady_bind (steady_onWire _) fun _ => steady_pure _) fun _ => steady_pure _

/-- Words that name no packages are turned down. -/
theorem installMultipleAppStreamed_of_no_apks {calls : ℕ} {args : List Bytes}
    (h : ¬ namesApks env calls args) :
    ∃ text, ∀ s : DeviceState, s.wire.calls = calls →
      installMultipleAppStreamed env args s = errorExit env text s := by
  unfold namesApks at h
  unfold installMultipleAppStreamed
  cases hcount : countApks env calls args.reverse with
  | error text =>
    refine ⟨text, fun s hs => ?_⟩
    rw [Prog.bind_get_apply, hs, hcount]
    rfl
  | ok r =>
    obtain ⟨n, total⟩ := r
    rw [hcount] at h
    obtain rfl : n = 0 := by simpa using h
    refine ⟨lit "need APK file on command line", fun s hs => ?_⟩
    rw [Prog.bind_get_apply, hs, hcount]
    rfl

theorem steady_installMultipleAppStreamed (args : List Bytes) :
    Prog.Keeps (Steady False) (installMultipleAppStreamed env args) := by
  intro s
  by_cases h : namesApks env s.wire.calls args
  · exact (asksFirst_installMultipleAppStreamed env h).steady
  · obtain ⟨text, hrun⟩ := installMultipleAppStreamed_of_no_apks env h
    rw [hrun s rfl]
    exact steady_errorExit env text s

/-- The arguments of `install-multiple`. -/
def installMultipleArgs (args : List Bytes) : InstallArgs := args.tail.foldl parseInstallMode {}

/-- `install_multiple_app` looks at the features: to choose the modes, or to write packages that are
not streamed. -/
def asksForApks (calls : ℕ) (args : List Bytes) : Bool :=
  let a := installMultipleArgs args
  asksForModes a false || (a.mode = .push && a.request ≠ .enable && namesApks env calls a.passthrough)

theorem asksFirst_installMultipleApp {args : List Bytes} (h : asksForApks env s.wire.calls args) :
    AsksFirst env (installMultipleApp env args) s := by
  by_cases hmodes : asksForModes (installMultipleArgs args) false
  · refine (asksFirst_chooseInstallModes env hmodes).bind fun _ =>
      steady_runInstallModes _ _ fun mode silent => ?_
    cases mode with
    | default => exact steady_errorExit env _
    | push => exact steady_installMultipleAppStreamed env _
    | stream => exact steady_installMultipleAppStreamed env _
    | incremental => exact steady_installAppIncremental env _ _
  · have happ : installMultipleApp env args =
        chooseInstallModes env (installMultipleArgs args) false >>= _ := rfl
    simp only [asksForApks, hmodes, Bool.false_or, Bool.and_eq_true, decide_eq_true_eq] at h
    obtain ⟨⟨hpush, hrequest⟩, hnames⟩ := h
    obtain ⟨henable, -⟩ | ⟨-, -, -, hchoose⟩ := chooseInstallModes_of_not_asks env hmodes
    · exact absurd henable hrequest
    · rw [happ, hchoose, hpush]
      refine .pure_bind ?_
      dsimp only
      rw [runInstallModes_none]
      exact (asksFirst_installMultipleAppStreamed env hnames).bind fun _ => steady_pure _

/-- Otherwise `install_multiple_app` ends with an error, or in an incremental installation. -/
theorem installMultipleApp_of_not_asks {calls : ℕ} {args : List Bytes}
    (h : ¬ asksForApks env calls args) :
    (∃ text, ∀ s : DeviceState, s.wire.calls = calls → installMultipleApp env args s = errorExit env text s) ∨
      installMultipleApp env args =
        installAppIncremental env (installMultipleArgs args).passthrough false >>= fun res =>
          pure res := by
  obtain ⟨run, happ, hpush, hincremental⟩ : ∃ run, installMultipleApp env args =
      (chooseInstallModes env (installMultipleArgs args) false >>= fun modes =>
        runInstallModes modes.1 modes.2 run) ∧
      run .push false = installMultipleAppStreamed env (installMultipleArgs args).passthrough ∧
      run .incremental false = installAppIncremental env (installMultipleArgs args).passthrough false :=
    ⟨_, rfl, rfl, rfl⟩
  rw [happ]
  -- No mode is asked for and none is looked up, so what runs is the mode of the arguments.
  simp only [asksForApks, Bool.or_eq_true, not_or] at h
  obtain ⟨hmodes, hapks⟩ := h
  obtain ⟨-, text, hexit⟩ | ⟨hrequest, hdefault, hstream, hchoose⟩ :=
    chooseInstallModes_of_not_asks env hmodes
  · rw [hexit, errorExit_bind]
    exact .inl ⟨text, fun _ _ => rfl⟩
  · have hmode : (chooseInstallModes env (installMultipleArgs args) false >>= fun modes =>
        runInstallModes modes.1 modes.2 run) = runInstallModes (installMultipleArgs args).mode none run := by
      rw [hchoose]
      rfl
    rw [hmode, runInstallModes_none]
    cases hprimary : (installMultipleArgs args).mode with
    | default => exact absurd hprimary hdefault
    | stream => exact absurd hprimary hstream
    | incremental => exact .inr (by rw [hincremental])
    | push =>
      have hnames : ¬ namesApks env calls (installMultipleArgs args).passthrough := by
        simpa [hprimary, hrequest] using hapks
      obtain ⟨text, hrun⟩ := installMultipleAppStreamed_of_no_apks env hnames
      refine .inl ⟨text, fun s hs => ?_⟩
      have hexit := Prog.bind_apply_error (f := fun res => (pure res : DeviceM ℤ))
        (congrArg Outcome.result (hrun s hs))
      rw [hrun s hs] at hexit
      rw [hpush]
      exact hexit

theorem quiet_installMultipleApp_of_not_asks {args : List Bytes}
    (h : ¬ asksForApks env s.wire.calls args) :
    ∀ e ∈ (installMultipleApp env args s).trace, e.isFailedQuery = false := by
  have hquiet {p : DeviceM ℤ} (hp : Prog.Keeps (Steady True) p) :
      ∀ e ∈ (p s).trace, e.isFailedQuery = false := (hp s).2 (.inl trivial)
  obtain ⟨text, hrun⟩ | hrun := installMultipleApp_of_not_asks env h
  · rw [hrun s rfl]
    exact hquiet (steady_errorExit env text)
  · rw [hrun]
    exact hquiet (steady_bind (steady_installAppIncremental env _ _) fun _ => steady_pure _)

theorem asksFirst_installMultiPackage {args : List Bytes}
    (h : args.reverse.takeWhile isPackage ≠ []) :
    AsksFirst env (installMultiPackage env args) s := by
  unfold installMultiPackage
  dsimp only
  rw [if_neg (fun hlength => h (List.eq_nil_of_length_eq_zero hlength))]
  refine asksFirst_bestInstallMode.bind fun _ =>
    .ite (fun _ => steady_bind (steady_onWire _) fun _ => steady_pure _) fun _ =>
    steady_bind (steady_isAbbExecSupported env) fun useAbbExec =>
    steady_bind (steady_sessionCommand env _ _) fun r => ?_
  split
  · exact steady_pure _
  split
  · exact steady_bind (steady_onWire _) fun _ => steady_pure _
  · exact steady_bind (steady_childSessions env _ _ _ _ _ _) fun _ =>
      steady_bind (steady_linkSessions env _ _ _ _) fun _ =>
        steady_finalizeMultiPackage env _ _ _ _ _

theorem steady_installMultiPackage_of_no_package {args : List Bytes}
    (h : args.reverse.takeWhile isPackage = []) :
    Prog.Keeps (Steady True) (installMultiPackage env args) := by
  unfold installMultiPackage
  dsimp only
  rw [if_pos (by rw [h]; rfl)]
  exact steady_errorExit env _

/-! ## Features, apps and forwards -/

variable (out : Bool)

theorem asksFirst_featuresCommand : AsksFirst env (featuresCommand env out) s :=
  (asksFirst_requireFeatures out).bind fun _ => steady_bind (steady_onWire _) fun _ => steady_pure _

theorem asksFirst_trackApp (args : List Bytes) : AsksFirst env (trackApp env out args) s := by
  have hsome (p : WireM ℤ) : Prog.Keeps (Steady False) (do return some (← onWire p) : DeviceM (Option ℤ)) :=
    steady_bind (steady_onWire _) fun _ => steady_pure _
  refine (asksFirst_requireFeatures out).bind fun _ => .ite (fun _ => hsome _) fun _ => ?_
  split
  · exact hsome _
  · exact .ite (fun _ => hsome _) fun _ => steady_pure _
  · exact hsome _

/-- The service and the destination of a `forward` or `reverse` whose addresses are valid. -/
def forwardRequest (args : List Bytes) : Option (Bytes × Bytes) :=
  let name := args.headD []
  let hostPrefix := if name = lit "reverse" then lit "reverse:" else lit "host:"
  if name = lit "forward" ∨ name = lit "reverse" then
    match args.tail with
    | [] => none
    | verb :: rest =>
      if verb = lit "--list" ∨ verb = lit "--remove-all" ∨ verb = lit "--remove" then none
      else if verb = lit "--no-rebind" then
        match rest with
        | [source, dest] => valid (hostPrefix ++ lit "forward:norebind:") source dest
        | _ => none
      else
        match rest with
        | [dest] => valid (hostPrefix ++ lit "forward:") verb dest
        | _ => none
  else none
where
  valid (service source dest : Bytes) : Option (Bytes × Bytes) :=
    match env.forwardTargetsAreValid source dest with
    | .ok _ => some (service ++ source ++ lit ";" ++ dest, dest)
    | .error _ => none

/-- A destination that a device has to support. -/
def isDevRaw (dest : Bytes) : Bool := (lit "dev-raw:").isPrefixOf dest

/-- The server does not accept the service. -/
def ServerRefuses (service : Bytes) (w : Wire) : Prop :=
  ∀ fd transport, (adbConnect env service true w).result = .ok (.opened fd transport) →
    ∃ e, (adbStatus env fd).1 = .error e

/-- The request of a forward returns zero exactly if the server accepts it. -/
theorem requestForward_spec (service : Bytes) (w : Wire) :
    ∃ n, (requestForward env out service w).result = .ok n ∧
      (n ≠ 0 ↔ ServerRefuses env service w) := by
  have hrefuse : ∀ text w, (refuse out text w).result = .ok 1 := fun text w => by
    cases out <;> rfl
  unfold requestForward
  cases hr : (adbConnect env service true w).result with
  | error x => exact x.elim
  | ok r =>
    rw [Prog.bind_apply_ok hr, Prog.after_result]
    cases r with
    | failed code e =>
      refine ⟨1, hrefuse _ _, iff_of_true one_ne_zero fun fd transport h => ?_⟩
      rw [hr] at h
      cases h
    | opened fd transport =>
      cases hstatus : adbStatus env fd with
      | mk status rest =>
        cases status with
        | error e =>
          refine ⟨1, by simp only [hstatus]; exact hrefuse _ _, iff_of_true one_ne_zero fun fd' _ h => ?_⟩
          rw [hr] at h
          cases h
          exact ⟨e, by rw [hstatus]⟩
        | ok _ =>
          have hzero : ¬ ServerRefuses env service w := fun h => by
            obtain ⟨e, he⟩ := h fd transport hr
            rw [hstatus] at he
            cases he
          -- An accepted request returns zero, whether or not a port can be read behind the answer.
          refine ⟨0, ?_, iff_of_false (fun h => h rfl) hzero⟩
          simp only [hstatus]
          cases (readProtocolString rest).1 with
          | error e => rfl
          | ok resolvedPort =>
            cases resolvedPort with
            | nil => rfl
            | cons b port => cases out <;> rfl

/-- Where the features are known, the destination is looked at without a failed query. -/
theorem forwardDestIsFeatured_known (dest : Bytes) (h : FeaturesKnown env s) :
    ∀ e ∈ (forwardDestIsFeatured env dest s).trace, e.isFailedQuery = false := by
  obtain ⟨features, s', t, hrun, -, ht⟩ := adbGetFeatureSetOrDie_known env false h
  rw [forwardDestIsFeatured, Prog.bind_of_run hrun, Prog.after_trace]
  have hrest : Prog.Keeps (Steady True) (do
      if (lit "dev-raw:").isPrefixOf dest then
        if env.canUse (← dereference (some features)) (lit "devraw") then return .ok ()
        else return .error (lit "dev-raw is not supported by the device")
      else return .ok () : DeviceM (Except Bytes Unit)) :=
    .ite (fun _ => steady_bind (steady_pure _) fun _ => .ite (fun _ => steady_pure _) fun _ =>
      steady_pure _) fun _ => steady_pure _
  refine fun e he => (List.mem_append.mp he).elim (ht e) ?_
  exact (hrest s').2 (.inl trivial) e

/-- Where they are not, the optional is dereferenced for `dev-raw:`, and else nothing is wrong. -/
theorem forwardDestIsFeatured_unknown (dest : Bytes) (h : ¬ FeaturesKnown env s) :
    (isDevRaw dest → .dereferencesEmpty ∈ (forwardDestIsFeatured env dest s).trace) ∧
      (¬ isDevRaw dest → ∃ t, .noFeatureSet ∈ t ∧ .dereferencesEmpty ∉ t ∧
        forwardDestIsFeatured env dest s = ⟨.ok (.ok ()), (adbGetFeatureSet env s).state, t⟩) := by
  obtain ⟨t, hrun, hset, hderef⟩ := adbGetFeatureSetOrDie_unknown env false h
  rw [forwardDestIsFeatured, Prog.bind_of_run hrun]
  refine ⟨fun hraw => ?_, fun hraw => ⟨t, hset, hderef, ?_⟩⟩
  · have hprefix : (lit "dev-raw:").isPrefixOf dest = true := hraw
    rw [if_pos hprefix]
    exact List.mem_append_right _ (List.mem_singleton_self _)
  · have hprefix : ¬ (lit "dev-raw:").isPrefixOf dest = true := hraw
    rw [if_neg hprefix, Prog.pure_apply, Prog.after_mk, List.append_nil]

theorem deviceHandles_forwardTo (hostPrefix verb source dest : Bytes) :
    DeviceHandles (· ≠ 0) (forwardTo env out hostPrefix verb source dest s) ↔
      FeaturesKnown env s ∨ ∀ r ∈ forwardRequest.valid env (hostPrefix ++ verb) source dest,
        isDevRaw r.2 = false ∧ ServerRefuses env r.1 (adbGetFeatureSet env s).state.wire := by
  unfold forwardTo forwardRequest.valid
  cases env.forwardTargetsAreValid source dest with
  | error e =>
    refine iff_of_true (deviceHandles_of_steady ?_ s) (.inr fun r hr => by cases hr)
    refine steady_bind (steady_pure _) fun valid => ?_
    rcases valid with (_ | _) | _ <;> exact steady_onWire _
  | ok _ =>
    by_cases hknown : FeaturesKnown env s
    · have hquiet := forwardDestIsFeatured_known env dest hknown
      refine iff_of_true ?_ (.inl hknown)
      refine (handles_bind (fun he => by cases hquiet _ he) fun he => by cases hquiet _ he).mpr ?_
      refine fun valid _ => deviceHandles_of_steady ?_ _
      rcases valid with (_ | _) | _ <;> exact steady_onWire _
    · obtain ⟨hraw, hplain⟩ := forwardDestIsFeatured_unknown env dest hknown
      simp only [hknown, false_or, Option.mem_some_iff, forall_eq']
      cases hdest : isDevRaw dest with
      | true =>
        exact iff_of_false (fun h => h.1 (Prog.mem_trace_bind_left (hraw hdest))) fun h =>
          by cases h.1
      | false =>
        obtain ⟨t, hset, hderef, hrun⟩ := hplain (by simp [hdest])
        let service := hostPrefix ++ verb ++ source ++ lit ";" ++ dest
        let s' := (adbGetFeatureSet env s).state
        obtain ⟨n, hresult, hn⟩ := requestForward_spec env out service s'.wire
        have hreturns : (onWire (requestForward env out service) s').result = .ok n := by
          rw [onWire, Prog.within, hresult]
          rfl
        have hwire : Prog.Keeps (Steady True) (onWire (requestForward env out service)) :=
            steady_onWire _
        have hquiet := (hwire s').2 (.inl trivial)
        rw [Prog.bind_of_run hrun]
        -- The query was reported, so the request that follows has to be refused.
        refine ⟨fun h => ?_, fun h => ⟨fun he => ?_, fun _ => ⟨n, hreturns, hn.mpr h.2⟩⟩⟩
        · obtain ⟨n', hn', hne⟩ := h.2 (List.mem_append_left _ hset)
          obtain rfl := Except.ok.inj (hreturns.symm.trans hn')
          exact ⟨rfl, hn.mp hne⟩
        · rcases List.mem_append.mp he with he | he
          · exact hderef he
          · cases hquiet _ he

/-- A command line of two addresses goes on to `forwardTo`; every other one only uses
connections. -/
theorem forward_cases {args : List Bytes}
    (hname : args.headD [] = lit "forward" ∨ args.headD [] = lit "reverse") :
    (∃ hostPrefix verb source dest, forward env out args = forwardTo env out hostPrefix verb source dest ∧
      forwardRequest env args = forwardRequest.valid env (hostPrefix ++ verb) source dest) ∨
    ∃ p, forward env out args = onWire p ∧ forwardRequest env args = none := by
  unfold forward forwardRequest
  dsimp only
  rw [if_pos hname]
  cases args.tail with
  | nil => exact .inr ⟨_, rfl, rfl⟩
  | cons verb rest =>
    dsimp only
    -- The verbs in the order of the code: the first three take no two addresses.
    let noAddresses := verb = lit "--list" ∨ verb = lit "--remove-all" ∨ verb = lit "--remove"
    by_cases hlist : verb = lit "--list"
    · have hnone : noAddresses := .inl hlist
      rw [if_pos hlist, if_pos hnone]
      split <;> exact .inr ⟨_, rfl, rfl⟩
    by_cases hall : verb = lit "--remove-all"
    · have hnone : noAddresses := .inr (.inl hall)
      rw [if_neg hlist, if_pos hall, if_pos hnone]
      split <;> exact .inr ⟨_, rfl, rfl⟩
    by_cases hremove : verb = lit "--remove"
    · have hnone : noAddresses := .inr (.inr hremove)
      rw [if_neg hlist, if_neg hall, if_pos hremove, if_pos hnone]
      split <;> exact .inr ⟨_, rfl, rfl⟩
    have hsome : ¬ noAddresses := fun h => h.elim hlist fun h => h.elim hall hremove
    rw [if_neg hlist, if_neg hall, if_neg hremove, if_neg hsome]
    by_cases hrebind : verb = lit "--no-rebind"
    · rw [if_pos hrebind, if_pos hrebind]
      rcases rest with _ | ⟨source, _ | ⟨dest, _ | _⟩⟩
      · exact .inr ⟨_, rfl, rfl⟩
      · exact .inr ⟨_, rfl, rfl⟩
      · exact .inl ⟨_, _, _, _, rfl, rfl⟩
      · exact .inr ⟨_, rfl, rfl⟩
    · rw [if_neg hrebind, if_neg hrebind]
      rcases rest with _ | ⟨dest, _ | _⟩
      · exact .inr ⟨_, rfl, rfl⟩
      · exact .inl ⟨_, _, _, _, rfl, rfl⟩
      · exact .inr ⟨_, rfl, rfl⟩

theorem deviceHandles_forward {args : List Bytes}
    (hname : args.headD [] = lit "forward" ∨ args.headD [] = lit "reverse") :
    DeviceHandles (· ≠ 0) (forward env out args s) ↔
      FeaturesKnown env s ∨ ∀ r ∈ forwardRequest env args,
      isDevRaw r.2 = false ∧ ServerRefuses env r.1 (adbGetFeatureSet env s).state.wire := by
  obtain ⟨hostPrefix, verb, source, dest, hforward, hrequest⟩ | ⟨p, hforward, hrequest⟩ :=
    forward_cases env out hname
  · rw [hforward, hrequest]
    exact deviceHandles_forwardTo env out hostPrefix verb source dest
  · rw [hforward, hrequest]
    exact iff_of_true (deviceHandles_of_steady (steady_onWire p) s) (.inr fun r hr => by cases hr)

end Device

end AdbMobile.Client
