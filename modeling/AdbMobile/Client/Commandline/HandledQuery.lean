import AdbMobile.Client.Commandline.AsksFirst

/-!
# Command lines that handle a failed query

A failed feature query is handled when the empty optional is not dereferenced and the command
returns a code that is not zero. `takesFeatures` says which command lines take the features as they
get them. A command line handles every failed query exactly when it is none of these, or the
features are known as its command starts; a forward that does not need the features has to be
refused by the server too (`handlesFailedQuery_iff`).
-/

namespace AdbMobile.Client

open ByteString Sync

/-- A failed query is handled by a command. -/
abbrev ClientHandles {α : Type} (good : α → Prop)
    (o : Outcome ClientState ClientEvent ClientStop α) :
    Prop :=
  HandlesQuery (.device .noFeatureSet) (.device .dereferencesEmpty) good o

/-- A failed query is handled by a command line: it returns a code that is not zero. -/
def HandlesFailedQuery (o : Outcome ClientState ClientEvent ClientStop ℤ) : Prop :=
  ClientHandles (· ≠ 0) o

/-- What a command does with a device. -/
def ClientEvent.device? : ClientEvent → Option DeviceEvent
  | .device e => some e
  | _ => none

/-- `Steady`, for a command. -/
def ClientSteady (guarded : Prop) (s : ClientState) (t : List ClientEvent)
    (s' : ClientState) : Prop :=
  Steady guarded s.device (t.filterMap ClientEvent.device?) s'.device

section Rules

variable {guarded : Prop} {α β : Type}

theorem clientSteady_composes (guarded : Prop) : Prog.Composes (ClientSteady guarded) where
  nil s := (steady_composes guarded).nil s.device
  append h h' := by
    unfold ClientSteady
    rw [List.filterMap_append]
    exact (steady_composes guarded).append h h'

theorem clientSteady_pure (a : α) : Prog.Keeps (ClientSteady guarded) (pure a : ClientM α) :=
  .pure (clientSteady_composes _) a

theorem clientSteady_bind {p : ClientM α} {f : α → ClientM β}
    (hp : Prog.Keeps (ClientSteady guarded) p)
    (hf : ∀ a, Prog.Keeps (ClientSteady guarded) (f a)) : Prog.Keeps (ClientSteady guarded) (p >>= f) :=
  .bind (clientSteady_composes _) hp hf

theorem clientSteady_get : Prog.Keeps (ClientSteady guarded) (Prog.get : ClientM ClientState) :=
  .get (clientSteady_composes _)

/-- A change of the process that leaves the features. -/
theorem clientSteady_modify {f : ClientState → ClientState}
    (hf : ∀ s, (f s).device.features = s.device.features) :
    Prog.Keeps (ClientSteady guarded) (Prog.modify f : ClientM Unit) := fun s =>
  ⟨fun hs => by rw [Prog.modify_apply, hf]; exact hs, fun _ _ h => absurd h List.not_mem_nil⟩

theorem clientSteady_emit {e : ClientEvent} (he : e.device? = none) :
    Prog.Keeps (ClientSteady guarded) (Prog.emit e : ClientM Unit) := fun s => by
  refine ⟨id, fun _ e' h => ?_⟩
  obtain ⟨e'', hmem, he'⟩ := List.mem_filterMap.mp h
  obtain rfl := List.mem_singleton.mp hmem
  rw [he] at he'
  cases he'

theorem filterMap_device (t : List DeviceEvent) :
    (t.map ClientEvent.device).filterMap ClientEvent.device? = t := by
  rw [List.filterMap_map]
  exact List.filterMap_some

theorem clientSteady_onDevice {p : DeviceM α} (hp : Prog.Keeps (Steady guarded) p) :
    Prog.Keeps (ClientSteady guarded) (onDevice p) := fun s => by
  have h := hp s.device
  unfold ClientSteady
  rw [onDevice, Prog.within, filterMap_device]
  exact h

theorem clientSteady_onWire (p : WireM α) : Prog.Keeps (ClientSteady guarded)
    (onDevice (onWire p)) :=
  clientSteady_onDevice (steady_onWire p)

end Rules

section Handles

variable {env : ClientEnv} {α β : Type} {good : α → Prop} {s : ClientState}

theorem clientHandles_of_quiet {o : Outcome ClientState ClientEvent ClientStop α}
    (h : ∀ e ∈ o.trace.filterMap ClientEvent.device?, e.isFailedQuery = false) : ClientHandles good o := by
  have hnot {e : DeviceEvent} (he : e.isFailedQuery = true) : .device e ∉ o.trace := fun hmem => by
    have hquiet := h e (List.mem_filterMap.mpr ⟨_, hmem, rfl⟩)
    rw [he] at hquiet
    cases hquiet
  exact handles_of_not_mem (hnot rfl) (hnot rfl)

/-- A command that does not take the features handles every failed query. -/
theorem clientHandles_of_steady {p : ClientM α} (hp : Prog.Keeps (ClientSteady True) p)
    (s : ClientState) :
    ClientHandles good (p s) := clientHandles_of_quiet ((hp s).2 (.inl trivial))

theorem onDevice_result (p : DeviceM α) (s : ClientState) :
    (onDevice p s).result = (p s.device).result := by
  unfold onDevice Prog.within
  dsimp only
  cases (p s.device).result <;> rfl

theorem clientHandles_onDevice (p : DeviceM α) (s : ClientState) :
    ClientHandles good (onDevice p s) ↔ DeviceHandles good (p s.device) := by
  have hmem (e : DeviceEvent) : .device e ∈ (p s.device).trace.map ClientEvent.device ↔
      e ∈ (p s.device).trace := List.mem_map_of_injective fun _ _ h => ClientEvent.device.inj h
  unfold ClientHandles HandlesQuery
  rw [onDevice_result]
  unfold onDevice Prog.within
  dsimp only
  rw [hmem, hmem]
  exact Iff.rfl

/-- A program that leaves the features known, without a failed query, and what goes on with them. -/
theorem quiet_bind_of_known {p : DeviceM β} {f : β → ClientM α}
    (hsome : (p s.device).state.features.isSome)
    (hquiet : ∀ e ∈ (p s.device).trace, e.isFailedQuery = false)
    (hf : ∀ b, Prog.Keeps (ClientSteady False) (f b)) :
    ∀ e ∈ ((onDevice p >>= f) s).trace.filterMap ClientEvent.device?, e.isFailedQuery = false := by
  intro e he
  rw [← filterMap_device (p s.device).trace] at hquiet
  cases hr : (onDevice p s).result with
  | error x =>
    rw [Prog.bind_apply_error hr] at he
    exact hquiet e he
  | ok b =>
    rw [Prog.bind_apply_ok hr, Prog.after_trace, List.filterMap_append] at he
    exact (List.mem_append.mp he).elim (hquiet e) ((hf b (onDevice p s).state).2 (.inr hsome) e)

/-- A command that takes the features handles a failed query only where none fails. -/
theorem AsksFirst.clientHandles_iff {p : DeviceM β} {f : β → ClientM α}
    (hp : AsksFirst env p s.device)
    (hf : ∀ b, Prog.Keeps (ClientSteady False) (f b)) :
    ClientHandles good ((onDevice p >>= f) s) ↔ FeaturesKnown env s.device := by
  by_cases hknown : FeaturesKnown env s.device
  · obtain ⟨hsome, hquiet⟩ := hp.1 hknown
    exact iff_of_true (clientHandles_of_quiet (quiet_bind_of_known hsome hquiet hf)) hknown
  · refine iff_of_false (fun h => h.1 (Prog.mem_trace_bind_left ?_)) hknown
    exact List.mem_map_of_mem (hp.2 hknown)

end Handles

section Commands

variable (env : ClientEnv) (out : Bool) {guarded : Prop}

/-- Reading options keeps what `getopt`, its events and the steps keep. -/
theorem keeps_readOptions {R : ClientState → List ClientEvent → ClientState → Prop}
    (hR : Prog.Composes R) (hgetopt : ∀ s g, R s [] { s with getopt := g })
    (hrecognises : ∀ s c arg, R s [.recognises c arg] s) {ρ : Type} (optstring : List (UInt8 × Bool))
    (args : List Bytes) {step : ρ → UInt8 → Bytes → ClientM (Option ρ)}
    (hstep : ∀ o c arg, Prog.Keeps R (step o c arg)) (o : ρ) :
    Prog.Keeps R (readOptions optstring args step o) := by
  refine .bind hR (.get hR) fun s => .loop hR (fun o => ?_) _ _
  refine .bind hR (.get hR) fun s => .bind hR (fun _ => hgetopt _ _) fun _ => ?_
  split
  · exact .pure hR _
  · exact .pure hR _
  · refine .bind hR (fun _ => hrecognises _ _ _) fun _ => .bind hR (hstep _ _ _) fun r => ?_
    cases r <;> exact .pure hR _

theorem clientSteady_readOptions {ρ : Type} (optstring : List (UInt8 × Bool)) (args : List Bytes)
    {step : ρ → UInt8 → Bytes → ClientM (Option ρ)}
    (hstep : ∀ o c arg, Prog.Keeps (ClientSteady guarded) (step o c arg)) (o : ρ) :
    Prog.Keeps (ClientSteady guarded) (readOptions optstring args step o) :=
  keeps_readOptions (clientSteady_composes _) (fun s _ => clientSteady_modify (fun _ => rfl) s)
    (fun s _ _ => clientSteady_emit rfl s) optstring args hstep o

theorem clientSteady_shellOption (o : ShellOptions) (c : UInt8) (arg : Bytes) :
    Prog.Keeps (ClientSteady guarded) (shellOption out o c arg) :=
  .ite (fun _ => .ite (fun _ => clientSteady_pure _) fun _ =>
    clientSteady_bind (clientSteady_onWire _) fun _ => clientSteady_pure _) fun _ =>
  .ite (fun _ => clientSteady_bind (clientSteady_modify fun _ => rfl) fun _ => clientSteady_pure _) fun _ =>
  .ite (fun _ => clientSteady_pure _) fun _ => .ite (fun _ => clientSteady_pure _) fun _ =>
  .ite (fun _ => clientSteady_pure _) fun _ => clientSteady_pure _

theorem clientSteady_startShell (features : FeatureSet) (args : List Bytes) (o : ShellOptions) :
    Prog.Keeps (ClientSteady guarded) (startShell env out features args o) :=
  clientSteady_bind clientSteady_get fun _ => clientSteady_bind (clientSteady_onWire _) fun _ =>
    .ite (fun _ => clientSteady_bind (clientSteady_onWire _) fun _ => clientSteady_pure _) fun _ =>
      clientSteady_onDevice (steady_remoteShell env _ _ _ _ _ _ _)

/-- `adb_shell` looks at the optional, and returns 1 where it is empty. -/
theorem adbShell_eq (callersArray : Bool) (args : List Bytes) :
    ∃ f : Option FeatureSet → ClientM ℤ,
      adbShell env out callersArray args = onDevice (adbGetFeatureSetOrDie env out) >>= f ∧
        f none = pure 1 ∧ ∀ guarded r, Prog.Keeps (ClientSteady guarded) (f r) := by
  refine ⟨_, rfl, rfl, fun guarded r => ?_⟩
  cases r with
  | none => exact clientSteady_pure _
  | some features =>
    refine clientSteady_bind (clientSteady_modify fun _ => rfl) fun _ =>
      clientSteady_bind (clientSteady_modify fun _ => rfl) fun _ =>
        clientSteady_bind (clientSteady_readOptions _ _ (clientSteady_shellOption out) _) fun r => ?_
    cases r with
    | none => exact clientSteady_pure _
    | some o => exact clientSteady_startShell env out _ _ _

theorem clientSteady_adbShell (callersArray : Bool) (args : List Bytes) :
    Prog.Keeps (ClientSteady False) (adbShell env out callersArray args) := by
  obtain ⟨f, heq, -, hf⟩ := adbShell_eq env out callersArray args
  rw [heq]
  exact clientSteady_bind (clientSteady_onDevice (steady_adbGetFeatureSetOrDie env out)) (hf False)

theorem clientHandles_adbShell (callersArray : Bool) (args : List Bytes) (s : ClientState) :
    ClientHandles (· ≠ 0) (adbShell env out callersArray args s) := by
  obtain ⟨f, heq, hnone, hf⟩ := adbShell_eq env out callersArray args
  rw [heq]
  by_cases hknown : FeaturesKnown env s.device
  · obtain ⟨features, d, t, hrun, hd, ht⟩ := adbGetFeatureSetOrDie_known env out hknown
    refine clientHandles_of_quiet (quiet_bind_of_known ?_ ?_ (hf False))
    · rw [hrun, hd]
      rfl
    · rw [hrun]
      exact ht
  · obtain ⟨t, hrun, -, hderef⟩ := adbGetFeatureSetOrDie_unknown env out hknown
    have hdevice : onDevice (adbGetFeatureSetOrDie env out) s =
        ⟨.ok none, { s with device := (adbGetFeatureSet env s.device).state }, t.map .device⟩ := by
      rw [onDevice, Prog.within, hrun]
      rfl
    rw [Prog.bind_of_run hdevice, hnone, Prog.pure_apply, Prog.after_mk, List.append_nil]
    refine ⟨fun he => hderef ?_, fun _ => ⟨1, rfl, one_ne_zero⟩⟩
    exact (List.mem_map_of_injective fun _ _ h => ClientEvent.device.inj h).mp he

/-! ## The other commands of the process -/

theorem clientHandles_adbAbb (args : List Bytes) (s : ClientState) :
    ClientHandles (· ≠ 0) (adbAbb env args s) ↔ FeaturesKnown env s.device :=
  (asksFirst_requireFeatures false).clientHandles_iff fun _ =>
    .ite (fun _ => clientSteady_pure _) fun _ =>
    clientSteady_bind (clientSteady_modify fun _ => rfl) fun _ =>
      clientSteady_onDevice (steady_remoteShell env _ _ _ _ _ _ _)

theorem clientHandles_processRemountOrVerityService (args : List Bytes) (s : ClientState) :
    ClientHandles (· ≠ 0) (processRemountOrVerityService env args s) ↔ FeaturesKnown env s.device :=
  (asksFirst_requireFeatures false).clientHandles_iff fun _ =>
    .ite (fun _ => clientSteady_bind (clientSteady_modify fun _ => rfl) fun _ =>
      clientSteady_adbShell env false _ _) fun _ => clientSteady_onWire _

theorem clientSteady_syncCommand (args : List Bytes) :
    Prog.Keeps (ClientSteady guarded) (syncCommand env out args) := by
  refine clientSteady_bind (clientSteady_onDevice (steady_orExit env _)) fun compression =>
    clientSteady_bind (clientSteady_readOptions _ _ (fun o c arg => ?_) _) fun r => ?_
  · exact clientSteady_onDevice ((steady_orExit env _).map _)
  · cases r with
    | none => exact clientSteady_onWire _
    | some o =>
      refine clientSteady_bind clientSteady_get fun s => ?_
      split
      · exact clientSteady_onWire _
      · exact clientSteady_onDevice (steady_syncFrom env out _ _)

theorem clientSteady_pair (args : List Bytes) : Prog.Keeps (ClientSteady guarded)
    (pair env out args) := by
  unfold pair
  split
  · refine clientSteady_bind (clientSteady_onWire _) fun _ =>
      clientSteady_bind clientSteady_get fun s => ?_
    split
    · exact clientSteady_bind (clientSteady_modify fun _ => rfl) fun _ => clientSteady_onWire _
    · exact clientSteady_onWire _
    · exact clientSteady_onWire _
  · exact clientSteady_onWire _
  · exact clientSteady_onDevice (steady_errorExit env _)

theorem clientSteady_backup (args : List Bytes) : Prog.Keeps (ClientSteady guarded)
    (backup env args) :=
  clientSteady_bind (clientSteady_onDevice (steady_orExit env _)) fun _ =>
    clientSteady_bind (clientSteady_modify fun _ => rfl) fun _ =>
      clientSteady_onDevice (steady_backupTo env _ _)

/-! ## The command line -/

/-- The command line takes the features as it gets them. `calls` is the number of calls on local
files before it. -/
def takesFeatures (calls : ℕ) (args : List Bytes) : Bool :=
  let name := args.headD []
  if name ∈ [lit "features", lit "track-app", lit "abb", lit "remount", lit "disable-verity",
      lit "enable-verity"] then true
  else if name = lit "uninstall" then 2 ≤ args.length
  else if name = lit "install" then
    2 ≤ args.length && asksForModes (installArgs args) (installArgs args).useFastdeploy
  else if name = lit "install-multiple" then 2 ≤ args.length && asksForApks env calls args
  else if name = lit "install-multi-package" then
    2 ≤ args.length && args.reverse.takeWhile isPackage ≠ []
  else (forwardRequest env args).any fun r => isDevRaw r.2

/-- A failed query is handled: there is none, or the command line does not take the features, and
the server refuses a forward that goes on without them. -/
def QueryHandled (args : List Bytes) (s : DeviceState) : Prop :=
  FeaturesKnown env s ∨ takesFeatures env s.wire.calls args = false ∧
    ∀ r ∈ forwardRequest env args, ServerRefuses env r.1 (adbGetFeatureSet env s).state.wire

/-- The command handles the failed queries that `QueryHandled` says. -/
def CommandSpec (name : Bytes) (command : List Bytes → ClientM (Option ℤ)) : Prop :=
  ∀ args s, args.headD [] = name →
    (ClientHandles (· ≠ some 0) (command args s) ↔ QueryHandled env args s.device)

/-- The commands whose words decide whether they ask for the features. -/
def askers : List Bytes :=
  [lit "features", lit "track-app", lit "abb", lit "remount", lit "disable-verity",
    lit "enable-verity",
    lit "uninstall", lit "install", lit "install-multiple", lit "install-multi-package",
      lit "forward",
    lit "reverse"]

variable {env out}

theorem queryHandled_of_not_asker {args : List Bytes} (h : args.headD [] ∉ askers)
    (s : DeviceState) :
    QueryHandled env args s := by
  simp only [askers, List.mem_cons, List.not_mem_nil, or_false, not_or] at h
  have hforward : forwardRequest env args = none :=
      if_neg (by simp only [h, or_self, not_false_eq_true])
  refine .inr ⟨?_, fun r hr => ?_⟩
  · simp only [takesFeatures, List.mem_cons, List.not_mem_nil, h, or_self, if_false, hforward,
      Option.any_none]
  · rw [hforward] at hr
    cases hr

theorem commandSpec_of_steady {name : Bytes} {command : List Bytes → ClientM (Option ℤ)}
    (hname : name ∉ askers) (hcommand : ∀ args, Prog.Keeps (ClientSteady True) (command args)) :
    CommandSpec env name command := fun args s hargs =>
  iff_of_true (clientHandles_of_steady (hcommand args) s)
    (queryHandled_of_not_asker (by rwa [hargs]) s.device)

theorem commandSpec_wire {name : Bytes} {f : List Bytes → WireM ℤ} (hname : name ∉ askers) :
    CommandSpec env name (wire f) :=
  commandSpec_of_steady hname fun args => (clientSteady_onWire (f args)).map some

theorem commandSpec_device {name : Bytes} {f : List Bytes → DeviceM ℤ} (hname : name ∉ askers)
    (hf : ∀ args, Prog.Keeps (Steady True) (f args)) : CommandSpec env name (device f) :=
  commandSpec_of_steady hname fun args => (clientSteady_onDevice (hf args)).map some

/-- A result of a command is the one that it returns. -/
theorem clientHandles_some (p : ClientM ℤ) (s : ClientState) :
    ClientHandles (· ≠ some 0) ((some <$> p) s) ↔ ClientHandles (· ≠ 0) (p s) := by
  rw [ClientHandles, handles_map]
  exact and_congr_right fun _ => imp_congr_right fun _ => exists_congr fun n => by simp

/-- A command that is no forward handles a failed query unless it takes the features. -/
theorem queryHandled_of_not_forward {args : List Bytes} {s : DeviceState}
    (h : ¬ (args.headD [] = lit "forward" ∨ args.headD [] = lit "reverse")) :
    QueryHandled env args s ↔
      FeaturesKnown env s ∨ takesFeatures env s.wire.calls args = false := by
  have hforward : forwardRequest env args = none := if_neg h
  simp [QueryHandled, hforward]

/-- A command that takes the features whatever its words are. -/
theorem queryHandled_of_always {args : List Bytes} {s : DeviceState}
    (h : args.headD [] ∈ [lit "features", lit "track-app", lit "abb", lit "remount",
      lit "disable-verity", lit "enable-verity"]) : QueryHandled env args s ↔
        FeaturesKnown env s := by
  have htakes : takesFeatures env s.wire.calls args = true := if_pos h
  simp [QueryHandled, htakes]

/-- A command of packages takes the features exactly if its words say so. -/
theorem commandSpec_withApk {name : Bytes} {text : String} {f : List Bytes → DeviceM ℤ}
    (hname : ¬ (name = lit "forward" ∨ name = lit "reverse"))
    (hshort : ∀ calls args, args.headD [] = name → args.length < 2 → takesFeatures env calls args = false)
    (hasks : ∀ args s, args.headD [] = name → takesFeatures env s.wire.calls args = true →
      AsksFirst env (f args) s)
    (hquiet : ∀ args s, args.headD [] = name → 2 ≤ args.length →
      takesFeatures env s.wire.calls args = false → ∀ e ∈ (f args s).trace,
        e.isFailedQuery = false) :
    CommandSpec env name (device (commands.withApk out text f)) := by
  intro args s hargs
  rw [queryHandled_of_not_forward (by rwa [hargs])]
  unfold device
  rw [clientHandles_some, clientHandles_onDevice]
  unfold commands.withApk
  by_cases hlength : args.length < 2
  · rw [if_pos hlength]
    exact iff_of_true (deviceHandles_of_steady (steady_onWire _) _)
      (.inr (hshort s.device.wire.calls args hargs hlength))
  · rw [if_neg hlength]
    cases htakes : takesFeatures env s.device.wire.calls args with
    | true =>
      rw [(hasks args s.device hargs htakes).handles_iff]
      simp
    | false =>
      exact iff_of_true (deviceHandles_of_quiet (hquiet args s.device hargs (by omega) htakes)) (.inr rfl)

theorem takesFeatures_uninstall {calls : ℕ} {args : List Bytes}
    (hargs : args.headD [] = lit "uninstall") :
    takesFeatures env calls args = decide (2 ≤ args.length) := by
  simp only [takesFeatures, hargs]
  rw [if_neg (by simp [lit]), if_pos trivial]

theorem commandSpec_uninstall : CommandSpec env (lit "uninstall")
    (device (commands.withApk out "uninstall requires an argument\n" (uninstallApp env))) := by
  refine commandSpec_withApk (by simp [lit]) (fun calls args hargs hlength => ?_)
    (fun args s _ _ => asksFirst_uninstallApp env args) fun args s hargs hlength hnot => ?_
  · rw [takesFeatures_uninstall hargs]
    exact decide_eq_false (by omega)
  · rw [takesFeatures_uninstall hargs] at hnot
    exact absurd hlength (of_decide_eq_false hnot)

theorem takesFeatures_install {calls : ℕ} {args : List Bytes}
    (hargs : args.headD [] = lit "install") :
    takesFeatures env calls args =
      (2 ≤ args.length && asksForModes (installArgs args) (installArgs args).useFastdeploy) := by
  simp only [takesFeatures, hargs]
  rw [if_neg (by simp [lit]), if_neg (by simp [lit]), if_pos trivial]

theorem commandSpec_install : CommandSpec env (lit "install")
    (device (commands.withApk out "install requires an argument\n" (installApp env))) := by
  refine commandSpec_withApk (by simp [lit]) (fun calls args hargs hlength => ?_)
    (fun args s hargs hasks => ?_) fun args s hargs hlength hnot => ?_
  · rw [takesFeatures_install hargs, decide_eq_false (by omega), Bool.false_and]
  · rw [takesFeatures_install hargs, Bool.and_eq_true] at hasks
    exact asksFirst_installApp env hasks.2
  · rw [takesFeatures_install hargs, decide_eq_true hlength, Bool.true_and] at hnot
    exact (steady_installApp_of_not_asks env (by simp [hnot]) s).2 (.inl trivial)

theorem takesFeatures_installMultiple {calls : ℕ} {args : List Bytes}
    (hargs : args.headD [] = lit "install-multiple") :
    takesFeatures env calls args = (2 ≤ args.length && asksForApks env calls args) := by
  simp only [takesFeatures, hargs]
  rw [if_neg (by simp [lit]), if_neg (by simp [lit]), if_neg (by simp [lit]), if_pos trivial]

theorem commandSpec_installMultiple : CommandSpec env (lit "install-multiple")
    (device (commands.withApk out "install-multiple requires an argument\n" (installMultipleApp env))) := by
  refine commandSpec_withApk (by simp [lit]) (fun calls args hargs hlength => ?_)
    (fun args s hargs hasks => ?_) fun args s hargs hlength hnot => ?_
  · rw [takesFeatures_installMultiple hargs, decide_eq_false (by omega), Bool.false_and]
  · rw [takesFeatures_installMultiple hargs, Bool.and_eq_true] at hasks
    exact asksFirst_installMultipleApp env hasks.2
  · rw [takesFeatures_installMultiple hargs, decide_eq_true hlength, Bool.true_and] at hnot
    exact quiet_installMultipleApp_of_not_asks env (by simp [hnot])

theorem takesFeatures_installMultiPackage {calls : ℕ} {args : List Bytes}
    (hargs : args.headD [] = lit "install-multi-package") :
    takesFeatures env calls args = (2 ≤ args.length && args.reverse.takeWhile isPackage ≠ []) := by
  simp only [takesFeatures, hargs]
  rw [if_neg (by simp [lit]), if_neg (by simp [lit]), if_neg (by simp [lit]),
    if_neg (by simp [lit]), if_pos trivial]

theorem commandSpec_installMultiPackage : CommandSpec env (lit "install-multi-package")
    (device (commands.withApk out "install-multi-package requires an argument\n"
      (installMultiPackage env))) := by
  refine commandSpec_withApk (by simp [lit]) (fun calls args hargs hlength => ?_)
    (fun args s hargs hasks => ?_) fun args s hargs hlength hnot => ?_
  · rw [takesFeatures_installMultiPackage hargs, decide_eq_false (by omega), Bool.false_and]
  · rw [takesFeatures_installMultiPackage hargs, Bool.and_eq_true] at hasks
    exact asksFirst_installMultiPackage env (of_decide_eq_true hasks.2)
  · rw [takesFeatures_installMultiPackage hargs, decide_eq_true hlength, Bool.true_and] at hnot
    have hnone : args.reverse.takeWhile isPackage = [] := by simpa using of_decide_eq_false hnot
    exact (steady_installMultiPackage_of_no_package env hnone s).2 (.inl trivial)

theorem commandSpec_forward {name : Bytes} (hname : name = lit "forward" ∨ name = lit "reverse") :
    CommandSpec env name (device (forward env out)) := by
  intro args s hargs
  have htakes : takesFeatures env s.device.wire.calls args =
      (forwardRequest env args).any fun r => isDevRaw r.2 := by
    rw [← hargs] at hname
    simp only [takesFeatures]
    rw [if_neg, if_neg, if_neg, if_neg, if_neg]
    all_goals
      obtain h | h := hname <;> rw [h] <;> decide +kernel
  rw [← hargs] at hname
  unfold device
  rw [clientHandles_some, clientHandles_onDevice, deviceHandles_forward env out hname,
    QueryHandled, htakes]
  cases forwardRequest env args with
  | none => simp
  | some r => simp

/-- The names of the other commands. -/
theorem not_mem_askers :
    ∀ name ∈ [lit "devices", lit "transport-id", lit "connect", lit "disconnect",
    lit "pair", lit "emu", lit "shell", lit "exec-in", lit "exec-out", lit "kill-server",
      lit "sideload",
    lit "rescue", lit "tcpip", lit "reboot", lit "reboot-bootloader", lit "reboot-fastboot",
      lit "usb",
    lit "root", lit "unroot", lit "bugreport", lit "mdns", lit "ls", lit "push", lit "pull",
      lit "sync",
    lit "get-state", lit "get-serialno", lit "get-devpath", lit "logcat", lit "lolcat",
      lit "longcat",
    lit "start-server", lit "backup", lit "restore", lit "keygen", lit "pubkey", lit "jdwp",
    lit "track-jdwp", lit "track-devices", lit "raw", lit "--help", lit "help", lit "/?",
      lit "--version",
    lit "version", lit "host-features", lit "reconnect", lit "inc-server", lit "attach",
      lit "detach",
    lit "server-status"], name ∉ askers := by
  decide +kernel

theorem commandSpec_always {name : Bytes} {p : List Bytes → ClientM ℤ}
    (hname : name ∈ [lit "features", lit "track-app", lit "abb", lit "remount", lit "disable-verity",
      lit "enable-verity"])
    (hp : ∀ args s, ClientHandles (· ≠ 0) (p args s) ↔ FeaturesKnown env s.device) :
    CommandSpec env name (client p) := fun args s hargs => by
  unfold client
  rw [clientHandles_some, hp, queryHandled_of_always (by rwa [hargs])]

theorem commandSpec_shell : CommandSpec env (lit "shell") (client (adbShell env out true)) :=
  fun args s hargs => by
    unfold client
    rw [clientHandles_some]
    exact iff_of_true (clientHandles_adbShell env out true args s)
      (queryHandled_of_not_asker (by rw [hargs]; exact not_mem_askers _ (by simp)) s.device)

theorem commandSpec_trackApp :
    CommandSpec env (lit "track-app") fun args => onDevice (trackApp env out args) :=
  fun args s hargs => by
    rw [clientHandles_onDevice, (asksFirst_trackApp env out args).handles_iff]
    exact (queryHandled_of_always (by rw [hargs]; simp)).symm

theorem commands_spec : ∀ c ∈ commands env out, CommandSpec env c.1 c.2 := by
  have hothers := not_mem_askers
  simp only [List.forall_mem_cons] at hothers
  -- Most commands only use connections.
  simp only [commands, List.forall_mem_cons, commandSpec_wire, hothers, not_false_eq_true, true_and]
  have hremount {name : Bytes} (hname : name ∈ [lit "features", lit "track-app", lit "abb", lit "remount",
      lit "disable-verity", lit "enable-verity"]) :
      CommandSpec env name (client (processRemountOrVerityService env)) :=
    commandSpec_always hname (clientHandles_processRemountOrVerityService env)
  have hlogcat {name : Bytes} (hname : name ∉ askers) : CommandSpec env name (device (logcat env)) :=
    commandSpec_device hname fun args => steady_sendShellCommand env _
  have hfeatures : CommandSpec env (lit "features") (device fun _ => featuresCommand env out) :=
    commandSpec_always (p := fun _ => onDevice (featuresCommand env out)) (by simp)
      fun args s => (clientHandles_onDevice _ s).trans (asksFirst_featuresCommand env out).handles_iff
  have hreconnect : CommandSpec env (lit "reconnect") fun args =>
      onDevice (onWire (reconnect env out args)) :=
    commandSpec_of_steady (by simp [hothers]) fun args => clientSteady_onWire _
  exact ⟨commandSpec_always (by simp) (clientHandles_adbAbb env),
    commandSpec_of_steady (by simp [hothers]) fun args => (clientSteady_pair env out args).map some,
    commandSpec_shell, hremount (by simp), hremount (by simp), hremount (by simp),
    commandSpec_device (by simp [hothers]) (steady_doIt env),
    commandSpec_forward (.inl rfl), commandSpec_forward (.inr rfl),
    commandSpec_device (by simp [hothers]) (steady_lsCommand env out),
    commandSpec_device (by simp [hothers]) (steady_pushCommand env out),
    commandSpec_device (by simp [hothers]) (steady_pullCommand env out),
    commandSpec_install, commandSpec_installMultiple, commandSpec_installMultiPackage,
    commandSpec_uninstall,
    commandSpec_of_steady (by simp [hothers]) fun args => (clientSteady_syncCommand env out args).map some,
    hlogcat (by simp [hothers]), hlogcat (by simp [hothers]), hlogcat (by simp [hothers]),
    commandSpec_of_steady (by simp [hothers]) fun args => (clientSteady_backup env args).map some,
    commandSpec_device (by simp [hothers]) (steady_restore env), commandSpec_trackApp,
    commandSpec_device (by simp [hothers]) (steady_raw env out), hfeatures, hreconnect,
    commandSpec_device (by simp [hothers]) (steady_incServer env out), List.forall_mem_nil _⟩

variable (env out)

/-- What a command returns is returned, and an unknown command returns 1. -/
theorem clientHandles_bind_returns {p : ClientM (Option ℤ)} {f : Option ℤ → ClientM ℤ}
    (hsome : ∀ n, f (some n) = pure n)
    (hnone : ∃ text, f none = onDevice (onWire (refuse out text))) (s : ClientState) :
    ClientHandles (· ≠ 0) ((p >>= f) s) ↔ ClientHandles (· ≠ some 0) (p s) := by
  cases hr : (p s).result with
  | error x =>
    rw [Prog.bind_apply_error hr]
    simp [HandlesQuery, hr]
  | ok r =>
    rw [Prog.bind_apply_ok hr]
    cases r with
    | some n =>
      rw [hsome]
      simp [HandlesQuery, hr]
    | none =>
      obtain ⟨text, hnone⟩ := hnone
      have hreturns : (onDevice (onWire (refuse out text)) (p s).state).result = .ok 1 := by
        cases out <;> rfl
      have hquiet : ∀ e : DeviceEvent, e.isFailedQuery = true →
          .device e ∉ (onDevice (onWire (refuse out text)) (p s).state).trace := fun e he hmem => by
        cases out with
        | false => cases hmem
        | true =>
          cases List.mem_singleton.mp hmem
          cases he
      rw [hnone]
      simp [HandlesQuery, hr, hreturns, hquiet .dereferencesEmpty rfl]

/-- A command, or a name that is not known. -/
theorem clientHandles_runCommand (args : List Bytes) (s : ClientState) :
    ClientHandles (· ≠ 0) (runCommand env out args s) ↔ QueryHandled env args s.device := by
  unfold runCommand
  cases hlookup : (commands env out).lookup (args.headD []) with
  | none =>
    have hkeys : ∀ name ∈ askers, name ∈ (commands env out).map Prod.fst :=
        by simp [askers, commands]
    have hname : args.headD [] ∉ askers := fun hmem => by
      obtain ⟨c, hc, hkey⟩ := List.mem_map.mp (hkeys _ hmem)
      have hdiffer := List.lookup_eq_none_iff.mp hlookup c hc
      simp [hkey] at hdiffer
    refine (clientHandles_bind_returns out (fun _ => rfl) ⟨_, rfl⟩ s).trans ?_
    exact iff_of_true (clientHandles_of_steady (clientSteady_pure _) s)
      (queryHandled_of_not_asker hname s.device)
  | some command =>
    obtain ⟨before, after, hcommands, -⟩ := List.lookup_eq_some_iff.mp hlookup
    have hmem : (args.headD [], command) ∈ commands env out := by
      rw [hcommands]
      exact List.mem_append_right _ List.mem_cons_self
    refine (clientHandles_bind_returns out (fun _ => rfl) ⟨_, rfl⟩ s).trans ?_
    exact commands_spec _ hmem args s rfl

/-- Nothing before the command asks for the features. -/
theorem clientSteady_beforeCommand (argv : List Bytes) :
    Prog.Keeps (ClientSteady True) (beforeCommand env out argv) := by
  unfold beforeCommand
  dsimp only
  refine clientSteady_bind (clientSteady_modify fun _ => rfl) fun _ => ?_
  split
  · exact clientSteady_onWire _
  · exact clientSteady_bind (clientSteady_modify fun _ => rfl) fun _ =>
      clientSteady_bind clientSteady_get fun _ => clientSteady_bind (clientSteady_emit rfl) fun _ =>
        clientSteady_onWire _

/-- A command line handles every failed query exactly when the query of its command is answered, or
the command does not take the features and, where it goes on without them, the server refuses it. -/
theorem handlesFailedQuery_iff (argv : List Bytes) (s : ClientState) :
    HandlesFailedQuery (adbCommandline env out argv s) ↔
      ∀ args, (beforeCommand env out argv s).result = .ok (.inr args) →
        QueryHandled env args (beforeCommand env out argv s).state.device := by
  have hquiet := (clientSteady_beforeCommand env out argv s).2 (.inl trivial)
  have hnot {e : DeviceEvent} (he : e.isFailedQuery = true) :
      .device e ∉ (beforeCommand env out argv s).trace := fun hmem => by
    have hfalse := hquiet e (List.mem_filterMap.mpr ⟨_, hmem, rfl⟩)
    rw [he] at hfalse
    cases hfalse
  unfold HandlesFailedQuery adbCommandline
  rw [ClientHandles, handles_bind (hnot rfl) (hnot rfl)]
  refine ⟨fun h args hargs => ?_, fun h r hr => ?_⟩
  · exact (clientHandles_runCommand env out args _).mp (h _ hargs)
  · cases r with
    | inl n => exact clientHandles_of_steady (clientSteady_pure _) _
    | inr args => exact (clientHandles_runCommand env out args _).mpr (h args hr)

end Commands

/-! ## A command line that fails -/

/-- A sync session without answers, over no local files. -/
def SyncAnswers.none : SyncAnswers where
  env := .calm []
  input := []
  decodes := []
  files _ := .none
  source _ := ⟨[], .error (.other 2), ⟨.error (.other 2), .error (.other 2), .error (.other 2),
    .error (.other 2), some (.other 2), [], .none, fun _ => ⟨[], false⟩⟩, .nil⟩

/-- A connection over which nothing comes. -/
def Connection.closed : Connection where
  connected := .ok ()
  switchSent := false
  serviceSent := false
  statuses := []
  transportId := none
  strings := []
  reads := []
  writes := []
  packets := []
  sync := .none

/-- A client in which nothing is set, without local files and without a terminal. -/
def ClientEnv.bare : ClientEnv where
  getenv _ := none
  isLocalSocketSpec _ := true
  isOneDeviceMandatory := false
  serverVersion := 41
  abbArgDelimiter := 0
  delayedAckEnabled := false
  escapeArg s := s
  perrorStr s := s
  parseInt _ _ _ := none
  parseBool _ := none
  forwardTargetsAreValid _ _ := .ok ()
  stat _ _ := .error (lit "No such file or directory")
  openFile _ _ := .error (lit "No such file or directory")
  creat _ _ := .error (lit "Permission denied")
  directoryExists _ _ := false
  getcwd := none
  standardInput := .closed
  typed := []
  isatty := false
  cinLine := none
  seeks _ _ := false
  readsFile _ := false
  ratio _ _ := []
  memory := []
  uninitialisedId := 0
  stdoutWorks := true
  stderrWorks := true
  executable := lit "adb"
  shellBuffer := 0
  version := lit "1.0.41"
  serverMain := 0
  launchServer := 1
  emulatorCommand _ _ := 1
  authKeygen _ := 1
  authPubkey _ := 1
  canInstall _ := false
  incrementalInstall _ _ _ := false
  incrementalServe _ _ _ := 1
  isOpenFd _ := false

/-- A process that has run no command, with the connections to come. -/
def ClientState.new (connections : List Connection) (argv : List Bytes) : ClientState where
  device := ⟨⟨.any, none, 0, lit "tcp:5037", none, connections, [], 0⟩, none, false⟩
  listenAll := false
  getopt := .fresh
  stdinReplaced := false
  cinFailed := false
  argv := argv.map some

/-- Without a server, and none that can be launched, `features` dereferences the empty optional. -/
theorem features_dereferences_empty :
    ¬ ∀ (env : ClientEnv) (out : Bool) (argv : List Bytes) (s : ClientState),
      HandlesFailedQuery (adbCommandline env out argv s) := by
  intro hall
  have hhandles := hall .bare true [lit "features"] (.new [] [lit "features"])
  have hlast : (adbCommandline .bare true [lit "features"] (.new [] [lit "features"])).trace.getLast? =
      some (.device .dereferencesEmpty) := rfl
  exact hhandles.1 (List.mem_of_getLast? hlast)

end AdbMobile.Client
