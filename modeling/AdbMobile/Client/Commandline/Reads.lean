import AdbMobile.Client.Commandline.HandledQuery

/-!
# What commands read

Commands leave features, the variables of `getopt`, a replaced standard input and a failed
`std::cin` behind. Which of these a command reads depends on its words, on the environment, and for
some of them on the features that the device answers with. `FindsFresh` says that all that a command
reads is as a new process has it; the command then does what it does in a new process
(`alike_runCommand`).
-/

namespace AdbMobile.Client

open ByteString Sync

/-! ## Programs that do not look at the features -/

/-- The states differ in the features at most. -/
def SameButFeatures (s s' : DeviceState) : Prop :=
  s.wire = s'.wire ∧ s.returnErrors = s'.returnErrors

/-- The program does not look at the features. -/
abbrev Featureless {α : Type} (p : DeviceM α) : Prop := Prog.Respects SameButFeatures p

section Device

variable (env : ClientEnv) {α : Type}

theorem featureless_onWire (p : WireM α) : Featureless (onWire p) := fun _ _ h =>
  Prog.alike_within (Prog.alike_refl p h.1) fun _ _ ht => ⟨ht, h.2⟩

theorem featureless_errorExit (text : Bytes) : Featureless (errorExit env text : DeviceM α) :=
  .bind (.emit _) fun _ => .exit _

theorem featureless_orExit (e : Except Bytes α) : Featureless (orExit env e) := by
  cases e with
  | error text => exact featureless_errorExit env text
  | ok a => exact .pure a

theorem featureless_backupTo (filename : Bytes) (args : List Bytes) :
    Featureless (backupTo env filename args) := by
  refine .ite (fun _ => featureless_errorExit env _) fun _ =>
    .bind (featureless_onWire _) fun call => ?_
  split
  · exact .bind (featureless_onWire _) fun _ => .pure _
  · refine .bind (featureless_onWire _) fun r => ?_
    split
    · exact .bind (featureless_onWire _) fun _ => .pure _
    · exact .pure _

theorem featureless_restore (args : List Bytes) : Featureless (restore env args) := by
  unfold restore
  split
  · exact featureless_errorExit env _
  · refine .bind (featureless_onWire _) fun call => ?_
    split
    · exact .bind (featureless_onWire _) fun _ => .pure _
    · refine .bind (featureless_onWire _) fun r => ?_
      split
      · exact .bind (featureless_onWire _) fun _ => .pure _
      · exact .pure _

theorem featureless_raw (out : Bool) (args : List Bytes) : Featureless (raw env out args) := by
  unfold raw
  split
  · refine .bind (featureless_onWire _) fun r => ?_
    split
    · exact .bind (featureless_onWire _) fun _ => .pure _
    · exact .ite (fun _ => featureless_errorExit env _) fun _ =>
        .ite (fun _ => featureless_errorExit env _) fun _ => .exit _
  · exact featureless_onWire _

theorem featureless_incServer (out : Bool) (args : List Bytes) :
    Featureless (incServer env out args) := by
  unfold incServer
  split
  · exact .ite (fun _ => featureless_onWire _) fun _ =>
      .ite (fun _ => featureless_onWire _) fun _ => .pure _
  · exact featureless_errorExit env _

theorem featureless_installAppIncremental (args : List Bytes) (silent : Bool) :
    Featureless (installAppIncremental env args silent) := by
  unfold installAppIncremental
  dsimp only
  split
  · exact .bind (featureless_onWire _) fun _ => .pure _
  · exact .ite (fun _ => .pure _) fun _ => .ite (fun _ => .pure _) fun _ => .pure _

/-! ## Commands that ask for the features -/

/-- The words of `push` or `pull` are accepted, and name a source and a destination. -/
def namesFiles : Except Bytes PushPullArgs → Bool
  | .ok a => a.srcs ≠ [] && a.dst.isSome
  | .error _ => false

/-- `install` does not look at the features to choose the modes, but pushes its package. -/
def pushesPackage (a : InstallArgs) : Bool :=
  a.mode = .push && a.request ≠ .enable && 2 ≤ a.passthrough.length &&
    (findLastApk a.passthrough.reverse).toBool && !a.useFastdeploy

/-- The command line asks for the features and looks whether there are any. -/
def looksForFeatures (args : List Bytes) : Bool :=
  let name := args.headD []
  if name ∈ [lit "shell", lit "logcat", lit "lolcat", lit "longcat"] then true
  else if name = lit "bugreport" then args.length ≤ 2
  else if name = lit "ls" then args.length = 2
  else if name = lit "push" then namesFiles (parsePushPullArgs env true .any none args.tail)
  else if name = lit "pull" then namesFiles (parsePushPullArgs env false .none (some (lit ".")) args.tail)
  else if name = lit "install" then 2 ≤ args.length && pushesPackage (installArgs args)
  else false

/-- The command line asks for the features, if it is not a `sync`: it takes them as it gets them,
looks whether there are any, or is a forward of valid addresses. -/
def asksFeatures (calls : ℕ) (args : List Bytes) : Bool :=
  takesFeatures env calls args || looksForFeatures env args || (forwardRequest env args).isSome

variable {env} {calls : ℕ} {args : List Bytes}

theorem of_not_asks (h : asksFeatures env calls args = false) :
    takesFeatures env calls args = false ∧ looksForFeatures env args = false ∧
      forwardRequest env args = none := by
  simpa [asksFeatures, and_assoc] using h

theorem looksForFeatures_always
    (hargs : args.headD [] ∈ [lit "shell", lit "logcat", lit "lolcat", lit "longcat"]) :
    looksForFeatures env args = true := if_pos hargs

theorem looksForFeatures_bugreport (hargs : args.headD [] = lit "bugreport") :
    looksForFeatures env args = decide (args.length ≤ 2) := by
  simp only [looksForFeatures, hargs]
  rw [if_neg (by simp [lit]), if_pos trivial]

theorem looksForFeatures_ls (hargs : args.headD [] = lit "ls") :
    looksForFeatures env args = decide (args.length = 2) := by
  simp only [looksForFeatures, hargs]
  rw [if_neg (by simp [lit]), if_neg (by simp [lit]), if_pos trivial]

theorem looksForFeatures_push (hargs : args.headD [] = lit "push") :
    looksForFeatures env args = namesFiles (parsePushPullArgs env true .any none args.tail) := by
  simp only [looksForFeatures, hargs]
  rw [if_neg (by simp [lit]), if_neg (by simp [lit]), if_neg (by simp [lit]), if_pos trivial]

theorem looksForFeatures_pull (hargs : args.headD [] = lit "pull") :
    looksForFeatures env args =
      namesFiles (parsePushPullArgs env false .none (some (lit ".")) args.tail) := by
  simp only [looksForFeatures, hargs]
  rw [if_neg (by simp [lit]), if_neg (by simp [lit]), if_neg (by simp [lit]),
    if_neg (by simp [lit]), if_pos trivial]

theorem looksForFeatures_install (hargs : args.headD [] = lit "install") :
    looksForFeatures env args = (2 ≤ args.length && pushesPackage (installArgs args)) := by
  simp only [looksForFeatures, hargs]
  rw [if_neg (by simp [lit]), if_neg (by simp [lit]), if_neg (by simp [lit]),
    if_neg (by simp [lit]), if_neg (by simp [lit]), if_pos trivial]

variable (env)

theorem featureless_doIt (hargs : args.headD [] = lit "bugreport")
    (h : asksFeatures env calls args = false) : Featureless (doIt env args) := by
  have hlooks := (of_not_asks h).2.1
  rw [looksForFeatures_bugreport hargs] at hlooks
  unfold doIt
  rw [if_pos (Nat.lt_of_not_le (of_decide_eq_false hlooks))]
  exact featureless_errorExit env _

theorem featureless_lsCommand (out : Bool) (hargs : args.headD [] = lit "ls")
    (h : asksFeatures env calls args = false) : Featureless (lsCommand env out args) := by
  have hlooks := (of_not_asks h).2.1
  rw [looksForFeatures_ls hargs] at hlooks
  unfold lsCommand
  split
  · exact absurd rfl (of_decide_eq_false hlooks)
  · exact featureless_onWire _

/-- A command whose words name no files ends before it opens a connection. -/
theorem featureless_withFiles {parsed : Except Bytes PushPullArgs} (h : namesFiles parsed = false)
    {f : PushPullArgs → DeviceM α}
    (hf : ∀ a, (a.srcs ≠ [] && a.dst.isSome) = false → Featureless (f a)) :
    Featureless (orExit env parsed >>= f) := by
  cases parsed with
  | error text => exact featureless_errorExit env text
  | ok a => exact hf a h

theorem featureless_pushCommand (out : Bool) (hargs : args.headD [] = lit "push")
    (h : asksFeatures env calls args = false) : Featureless (pushCommand env out args) := by
  have hlooks := (of_not_asks h).2.1
  rw [looksForFeatures_push hargs] at hlooks
  refine featureless_withFiles env hlooks fun a ha => ?_
  split
  · rename_i hsrcs hdst
    simp [hsrcs, hdst] at ha
  · exact featureless_onWire _

theorem featureless_pullCommand (out : Bool) (hargs : args.headD [] = lit "pull")
    (h : asksFeatures env calls args = false) : Featureless (pullCommand env out args) := by
  have hlooks := (of_not_asks h).2.1
  rw [looksForFeatures_pull hargs] at hlooks
  refine featureless_withFiles env hlooks fun a ha => ?_
  split
  · rename_i hsrcs hdst
    simp [hsrcs, hdst] at ha
  · exact featureless_onWire _

theorem featureless_forward (out : Bool)
    (hname : args.headD [] = lit "forward" ∨ args.headD [] = lit "reverse")
    (h : asksFeatures env calls args = false) : Featureless (forward env out args) := by
  obtain ⟨hostPrefix, verb, source, dest, hforward, hrequest⟩ | ⟨p, hforward, -⟩ :=
    forward_cases env out hname
  · rw [(of_not_asks h).2.2] at hrequest
    rw [hforward]
    unfold forwardTo
    unfold forwardRequest.valid at hrequest
    cases hvalid : env.forwardTargetsAreValid source dest with
    | ok _ =>
      rw [hvalid] at hrequest
      cases hrequest
    | error e =>
      refine .bind (.pure _) fun valid => ?_
      rcases valid with (_ | _) | _ <;> exact featureless_onWire _
  · rw [hforward]
    exact featureless_onWire p

/-- A package that cannot be pushed ends `install_app_legacy` before it opens a connection. -/
theorem featureless_installAppLegacy {args : List Bytes} {useFastdeploy : Bool}
    (h : ((findLastApk args.reverse).toBool && !useFastdeploy) = false) :
    Featureless (installAppLegacy env args useFastdeploy) := by
  unfold installAppLegacy
  cases hlast : findLastApk args.reverse with
  | error text => exact featureless_errorExit env text
  | ok lastApk =>
    have hfast : useFastdeploy = true := by simpa [hlast, Except.toBool] using h
    refine .bind (.pure _) fun lastApk => ?_
    dsimp only
    rw [if_pos hfast]
    exact featureless_errorExit env _

theorem featureless_installApp (hargs : args.headD [] = lit "install") (hlength : 2 ≤ args.length)
    (h : asksFeatures env calls args = false) : Featureless (installApp env args) := by
  obtain ⟨htakes, hlooks, -⟩ := of_not_asks h
  rw [takesFeatures_install hargs, decide_eq_true hlength, Bool.true_and] at htakes
  rw [looksForFeatures_install hargs, decide_eq_true hlength, Bool.true_and] at hlooks
  unfold installApp
  dsimp only
  obtain ⟨-, text, hexit⟩ | ⟨hrequest, hdefault, hstream, hmodes⟩ :=
    chooseInstallModes_of_not_asks env (Bool.eq_false_iff.mp htakes)
  · rw [hexit, errorExit_bind]
    exact featureless_errorExit env _
  · rw [hmodes]
    refine .ite (fun _ => featureless_errorExit env _) fun hwords => ?_
    rw [runInstallModes_none]
    refine .bind ?_ fun _ => .pure _
    cases hmode : (installArgs args).mode with
    | default => exact absurd hmode hdefault
    | stream => exact absurd hmode hstream
    | incremental => exact featureless_installAppIncremental env _ _
    | push =>
      refine featureless_installAppLegacy env ?_
      simpa [pushesPackage, hmode, hrequest, Nat.not_lt.mp hwords] using hlooks

/-- From states with as many calls on local files. -/
theorem alike_installMultipleApp (hargs : args.headD [] = lit "install-multiple")
    (hlength : 2 ≤ args.length) {s s' : DeviceState} (hs : SameButFeatures s s')
    (h : asksFeatures env s.wire.calls args = false) :
    Prog.Alike SameButFeatures (installMultipleApp env args s) (installMultipleApp env args s') := by
  have htakes := (of_not_asks h).1
  rw [takesFeatures_installMultiple hargs, decide_eq_true hlength, Bool.true_and] at htakes
  obtain ⟨text, hrun⟩ | hrun := installMultipleApp_of_not_asks env (Bool.eq_false_iff.mp htakes)
  · rw [hrun s rfl, hrun s' (by rw [hs.1])]
    exact featureless_errorExit env text s s' hs
  · rw [hrun]
    exact Prog.Respects.bind (featureless_installAppIncremental env _ _) (fun _ => .pure _) s s' hs

theorem featureless_installMultiPackage (hargs : args.headD [] = lit "install-multi-package")
    (hlength : 2 ≤ args.length) (h : asksFeatures env calls args = false) :
    Featureless (installMultiPackage env args) := by
  have htakes := (of_not_asks h).1
  rw [takesFeatures_installMultiPackage hargs, decide_eq_true hlength, Bool.true_and] at htakes
  have hnone : args.reverse.takeWhile isPackage = [] := by simpa using of_decide_eq_false htakes
  unfold installMultiPackage
  dsimp only
  rw [if_pos (by rw [hnone]; rfl)]
  exact featureless_errorExit env _

/-! ## Syncing partitions -/

variable (src : Bytes)

/-- The loop over the partitions reaches one whose directory exists. `calls` is the number of calls
on local files before it. -/
def reachesPartition (calls : ℕ) : List Bytes → Bool
  | [] => false
  | partition :: rest =>
    if src = lit "all" ∨ src = partition then
      match productFile env partition with
      | .error _ => false
      | .ok srcDir => env.directoryExists calls srcDir || reachesPartition (calls + 1) rest
    else reachesPartition calls rest

/-- The loop does not look at the features before it reaches a partition. -/
theorem alike_syncPartitions (out : Bool) (o : SyncOptions) (found : Bool)
    (partitions : List Bytes) :
    ∀ {s s' : DeviceState}, SameButFeatures s s' →
      reachesPartition env src s.wire.calls partitions = false →
      Prog.Alike SameButFeatures (syncPartitions env out o src found partitions s)
        (syncPartitions env out o src found partitions s') := by
  induction partitions with
  | nil => exact fun hs _ => ⟨rfl, rfl, hs⟩
  | cons partition rest ih =>
    intro s s' hs h
    unfold reachesPartition at h
    unfold syncPartitions
    by_cases hpartition : src = lit "all" ∨ src = partition
    · rw [if_pos hpartition] at h ⊢
      cases hfile : productFile env partition with
      | error text => exact featureless_errorExit env text s s' hs
      | ok srcDir =>
        rw [hfile] at h
        obtain ⟨hexists, hrest⟩ := Bool.or_eq_false_iff.mp h
        -- Whether the directory is there is one call, which is counted on both sides.
        have hcall : Prog.Alike (fun t t' => SameButFeatures t t' ∧ t.wire.calls = s.wire.calls + 1)
            (onWire nextCall s) (onWire nextCall s') := by
          obtain ⟨hresult, htrace, hstate⟩ := featureless_onWire nextCall s s' hs
          exact ⟨hresult, htrace, hstate, rfl⟩
        have hfound : orExit env (.ok srcDir) = pure srcDir := rfl
        rw [hfound, Prog.bind_pure_apply, Prog.bind_pure_apply]
        refine Prog.Alike.bind hcall (fun _ _ ht => ht.1) fun call t t' hr ht => ?_
        obtain rfl : s.wire.calls = call := Except.ok.inj hr
        rw [hexists]
        exact ih ht.1 (by rw [ht.2]; exact hrest)
    · rw [if_neg hpartition] at h ⊢
      exact ih hs h

end Device

/-! ## Programs of the command line -/

/-- The runs return and emit the same. -/
abbrev SameRun {α : Type} (o o' : Outcome ClientState ClientEvent ClientStop α) : Prop :=
  Prog.Alike (fun _ _ => True) o o'

/-- The states agree on the variables of `getopt`, on the device as `D` says, and if `stdin` holds
on the standard input. -/
structure Agree (D : DeviceState → DeviceState → Prop) (stdin : Prop) (s s' : ClientState) :
    Prop where
  device : D s.device s'.device
  getopt : s.getopt = s'.getopt
  stdinReplaced : stdin → s.stdinReplaced = s'.stdinReplaced

/-- The states agree on what a shell reads before it sets `optind`. -/
def SameShell (s s' : ClientState) : Prop :=
  s.device = s'.device ∧ s.getopt.place = s'.getopt.place ∧ s.stdinReplaced = s'.stdinReplaced

section Client

variable {D : DeviceState → DeviceState → Prop} {stdin : Prop} {α : Type}

theorem sameRun_onDevice {p : DeviceM α} {s s' : ClientState}
    (hp : Prog.Alike D (p s.device) (p s'.device)) :
    SameRun (onDevice p s) (onDevice p s') := Prog.alike_within hp fun _ _ _ => trivial

theorem respects_onDevice {p : DeviceM α} (hp : Prog.Respects D p) :
    Prog.Respects (Agree D stdin) (onDevice p) := fun _ _ h =>
  Prog.alike_within (hp _ _ h.device) fun _ _ ht => ⟨ht, h.getopt, h.stdinReplaced⟩

theorem respects_eq (p : DeviceM α) : Prog.Respects (fun s s' => s = s') p := fun _ _ h =>
  Prog.alike_refl p h

variable (env : ClientEnv) (out : Bool)

theorem respects_readOptions {ρ : Type} (optstring : List (UInt8 × Bool)) (args : List Bytes)
    {step : ρ → UInt8 → Bytes → ClientM (Option ρ)}
    (hstep : ∀ o c arg, Prog.Respects (Agree D stdin) (step o c arg)) (o : ρ) :
    Prog.Respects (Agree D stdin) (readOptions optstring args step o) := by
  refine .get_bind (fun s s' h => by rw [h.getopt]) fun s => .loop (fun o => ?_) _ _
  refine .get_bind (fun s s' h => by rw [h.getopt]) fun s =>
    .bind (.modify fun _ _ h => ⟨h.device, rfl, h.stdinReplaced⟩) fun _ => ?_
  split
  · exact .pure _
  · exact .pure _
  · refine .bind (.emit _) fun _ => .bind (hstep _ _ _) fun r => ?_
    cases r <;> exact .pure _

/-! ## Shells -/

/-- The command line runs a shell on a device with these features. -/
def runsShell (features : FeatureSet) (args : List Bytes) : Bool :=
  let name := args.headD []
  if name = lit "shell" then true
  else if name ∈ [lit "remount", lit "disable-verity", lit "enable-verity"] then
    env.canUse features (lit "remount_shell")
  else false

theorem respects_shellOption (o : ShellOptions) (c : UInt8) (arg : Bytes) :
    Prog.Respects (Agree (fun t t' => t = t') True) (shellOption out o c arg) :=
  .ite (fun _ => .ite (fun _ => .pure _) fun _ =>
    .bind (respects_onDevice (respects_eq _)) fun _ => .pure _) fun _ =>
  .ite (fun _ => .bind (.modify fun _ _ h => ⟨h.device, h.getopt, fun _ => rfl⟩) fun _ => .pure _) fun _ =>
  .ite (fun _ => .pure _) fun _ => .ite (fun _ => .pure _) fun _ =>
    .ite (fun _ => .pure _) fun _ => .pure _

theorem respects_startShell (features : FeatureSet) (args : List Bytes) (o : ShellOptions) :
    Prog.Respects (Agree (fun t t' => t = t') True) (startShell env out features args o) := by
  refine .get_bind (fun s s' h => by rw [h.getopt, h.stdinReplaced trivial]) fun s => ?_
  exact .bind (respects_onDevice (respects_eq _)) fun _ =>
    .ite (fun _ => .bind (respects_onDevice (respects_eq _)) fun _ => .pure _) fun _ =>
      respects_onDevice (respects_eq _)

/-- The query of `adb_shell` has an answer. -/
theorem adbGetFeatureSetOrDie_some {features : FeatureSet} {s : DeviceState}
    (h : (adbGetFeatureSetOrDie env out s).result = .ok (some features)) :
    (adbGetFeatureSet env s).result = .ok (.ok features) := by
  obtain ⟨r, hr, hrest, -⟩ := Prog.bind_returns h
  cases r with
  | ok features' =>
    obtain rfl : features' = features := Option.some.inj (Except.ok.inj hrest)
    exact hr
  | error e =>
    obtain ⟨-, -, hrest, -⟩ := Prog.bind_returns hrest
    obtain ⟨-, -, hrest, -⟩ := Prog.bind_returns hrest
    cases hrest

/-- `adb_shell` on the same device. What is left of a word and the standard input matter only where
the features are known. -/
theorem sameRun_adbShell (callersArray : Bool) (args : List Bytes) {s s' : ClientState}
    (hdevice : s.device = s'.device)
    (hshell : ∀ features, (adbGetFeatureSet env s.device).result = .ok (.ok features) →
      s.getopt.place = s'.getopt.place ∧ s.stdinReplaced = s'.stdinReplaced) :
    SameRun (adbShell env out callersArray args s) (adbShell env out callersArray args s') := by
  let E : ClientState → ClientState → Prop := fun t t' => t.device = t'.device ∧
    t.getopt = s.getopt ∧ t'.getopt = s'.getopt ∧ t.stdinReplaced = s.stdinReplaced ∧
    t'.stdinReplaced = s'.stdinReplaced
  have hquery : Prog.Alike E (onDevice (adbGetFeatureSetOrDie env out) s)
      (onDevice (adbGetFeatureSetOrDie env out) s') :=
    Prog.alike_within (Prog.alike_refl _ hdevice) fun _ _ ht => ⟨ht, rfl, rfl, rfl, rfl⟩
  refine Prog.Alike.bind hquery (fun _ _ _ => trivial) fun r t t' hr ht => ?_
  obtain ⟨ht, hgetopt, hgetopt', hstdin, hstdin'⟩ := ht
  cases r with
  | none => exact ⟨rfl, rfl, trivial⟩
  | some features =>
    rw [onDevice_result] at hr
    obtain ⟨hplace, hreplaced⟩ := hshell features (adbGetFeatureSetOrDie_some env out hr)
    have hrename : Prog.Alike SameShell (renameCommand callersArray args t) (renameCommand callersArray args t') := by
      refine ⟨rfl, rfl, ht, ?_, hstdin.trans (hreplaced.trans hstdin'.symm)⟩
      calc t.getopt.place = s.getopt.place := by rw [hgetopt]
        _ = s'.getopt.place := hplace
        _ = t'.getopt.place := by rw [hgetopt']
    refine Prog.Alike.bind hrename (fun _ _ _ => trivial) fun _ u u' _ hu => ?_
    -- With `optind` set, the variables of `getopt` are the same.
    have hoptind : Agree (fun d d' => d = d') True { u with getopt := { u.getopt with optind := 1 } }
        { u' with getopt := { u'.getopt with optind := 1 } } :=
      ⟨hu.1, congrArg (GetoptState.mk 1) hu.2.1, fun _ => hu.2.2⟩
    refine Prog.Alike.bind ⟨rfl, rfl, hoptind⟩ (fun _ _ _ => trivial) fun _ v v' _ hv => ?_
    have hread := respects_readOptions shellOptstring args (respects_shellOption out)
      ⟨126, env.canUse features (lit "shell_v2"),
        if env.canUse features (lit "shell_v2") then .auto else .definitely⟩ v v' hv
    refine Prog.Alike.bind hread (fun _ _ _ => trivial) fun r w w' _ hw => ?_
    cases r with
    | none => exact ⟨rfl, rfl, trivial⟩
    | some o => exact (respects_startShell env out features args o w w' hw).mono fun _ _ _ => trivial

/-! ## The words of `sync` -/

/-- `sync`, up to the partition: the options and the partition, or the space in the text of a
command line that is turned down. -/
def readSyncWords (args : List Bytes) : ClientM (Except Bytes (SyncOptions × Bytes)) := do
  let compression ← onDevice (orExit env (environmentCompression env .any))
  let step (o : SyncOptions) (c : UInt8) (arg : Bytes) : ClientM (Option SyncOptions) :=
    onDevice (some <$> orExit env (syncOption o c arg))
  match ← readOptions syncOptstring args step ⟨false, false, compression⟩ with
  | none => return .error (lit "  ")
  | some o =>
    let s ← Prog.get
    match syncSource args s.getopt.optind with
    | none => return .error (lit " ")
    | some src => return .ok (o, src)

/-- The rest of `sync`. -/
def finishSync : Except Bytes (SyncOptions × Bytes) → ClientM ℤ
  | .error gap => onDevice (onWire <| refuse out (syncUsage gap))
  | .ok (o, src) => onDevice (syncFrom env out o src)

theorem syncCommand_eq (args : List Bytes) :
    syncCommand env out args = readSyncWords env args >>= finishSync env out := by
  funext s
  unfold syncCommand readSyncWords
  rw [Prog.bind_bind_apply]
  refine congrFun (congrArg (onDevice (orExit env (environmentCompression env .any)) >>= ·) ?_) s
  funext compression t
  dsimp only
  rw [Prog.bind_bind_apply]
  refine congrFun (congrArg (readOptions _ _ _ _ >>= ·) ?_) t
  funext r u
  cases r with
  | none => rfl
  | some o =>
    dsimp only
    rw [Prog.bind_bind_apply, Prog.bind_get_apply, Prog.bind_get_apply]
    cases syncSource args u.getopt.optind <;> rfl

theorem respects_readSyncWords
    (hexit : ∀ {α : Type} (e : Except Bytes α), Prog.Respects D (orExit env e))
    (args : List Bytes) : Prog.Respects (Agree D stdin) (readSyncWords env args) := by
  refine .bind (respects_onDevice (hexit _)) fun compression =>
    .bind (respects_readOptions _ _ (fun o c arg => respects_onDevice (.map (hexit _) _)) _) fun r => ?_
  cases r with
  | none => exact .pure _
  | some o =>
    refine .get_bind (fun s s' h => by rw [h.getopt]) fun s => ?_
    split <;> exact .pure _

/-- The options of `sync` leave the device as it is. -/
theorem keeps_readSyncWords (args : List Bytes) :
    Prog.Keeps (fun s _ s' => s'.device = s.device) (readSyncWords env args) := by
  have hR : Prog.Composes fun (s : ClientState) (_ : List ClientEvent) s' => s'.device = s.device :=
    ⟨fun _ => rfl, fun h h' => h'.trans h⟩
  have hexit {α : Type} (e : Except Bytes α) : Prog.Keeps (fun d _ d' => d' = d) (orExit env e) :=
      fun d => by
    cases e <;> rfl
  refine .bind hR (fun s => hexit _ s.device) fun compression => .bind hR ?_ fun r => ?_
  · exact keeps_readOptions hR (fun _ _ => rfl) (fun _ _ _ => rfl) _ _
      (fun o c arg s => (hexit (syncOption o c arg)).map some s.device) _
  · cases r with
    | none => exact .pure hR _
    | some o =>
      refine .bind hR (.get hR) fun s => ?_
      split <;> exact .pure hR _

/-- `sync` asks for the features: its words name a partition whose directory exists. -/
def SyncAsks (args : List Bytes) (s : ClientState) : Prop :=
  ∃ o src, (readSyncWords env args s).result = .ok (.ok (o, src)) ∧
    reachesPartition env src s.device.wire.calls partitions

/-- `sync` on the same device, or where it does not ask for the features. -/
theorem sameRun_syncCommand (args : List Bytes) {s s' : ClientState}
    (hgetopt : s.getopt = s'.getopt)
    (hdevice : SameButFeatures s.device s'.device) (hasks : SyncAsks env args s → s.device = s'.device) :
    SameRun (syncCommand env out args s) (syncCommand env out args s') := by
  rw [syncCommand_eq]
  by_cases h : SyncAsks env args s
  · have hwords := respects_readSyncWords env (fun _ => respects_eq _) args s s'
      (⟨hasks h, hgetopt, False.elim⟩ : Agree (fun d d' => d = d') False s s')
    refine Prog.Alike.bind hwords (fun _ _ _ => trivial) fun r t t' _ ht => ?_
    rcases r with gap | ⟨o, src⟩ <;> exact sameRun_onDevice (Prog.alike_refl _ ht.device)
  · obtain ⟨hresult, htrace, hstate⟩ :=
        respects_readSyncWords env (featureless_orExit env) args s s'
      (⟨hdevice, hgetopt, False.elim⟩ : Agree SameButFeatures False s s')
    have hwords : Prog.Alike (fun t t' => SameButFeatures t.device t'.device ∧ t.device = s.device)
        (readSyncWords env args s) (readSyncWords env args s') :=
      ⟨hresult, htrace, hstate.device, keeps_readSyncWords env args s⟩
    refine Prog.Alike.bind hwords (fun _ _ _ => trivial) fun r t t' hr ht => ?_
    rcases r with gap | ⟨o, src⟩
    · exact sameRun_onDevice (featureless_onWire _ _ _ ht.1)
    · have hnot : reachesPartition env src t.device.wire.calls partitions = false := by
        rw [ht.2]
        exact Bool.eq_false_iff.mpr fun hreaches => h ⟨o, src, hr, hreaches⟩
      refine sameRun_onDevice (Prog.Alike.bind (alike_syncPartitions env src out o false partitions ht.1 hnot)
        (fun _ _ => id) fun found u u' _ hu => ?_)
      rcases found with _ | _ | _
      · exact ⟨rfl, rfl, hu⟩
      · exact featureless_onWire _ u u' hu
      · exact ⟨rfl, rfl, hu⟩

/-! ## The other commands of the process -/

theorem sameRun_adbAbb (args : List Bytes) {s s' : ClientState} (hdevice : s.device = s'.device) :
    SameRun (adbAbb env args s) (adbAbb env args s') := by
  let E : ClientState → ClientState → Prop := fun t t' => t.device = t'.device
  have hdo {α : Type} (p : DeviceM α) : Prog.Respects E (onDevice p) := fun t t' h =>
    Prog.alike_within (Prog.alike_refl p h) fun _ _ ht => ht
  have habb : Prog.Respects E (adbAbb env args) := .bind (hdo _) fun _ =>
      .ite (fun _ => .pure _) fun _ =>
    .bind (.modify fun _ _ h => h) fun _ => hdo _
  exact (habb s s' hdevice).mono fun _ _ _ => trivial

/-- The features that a command takes are those of the device. -/
theorem requireFeatures_some {features : FeatureSet} {s : DeviceState}
    (h : (requireFeatures env out s).result = .ok features) :
    (adbGetFeatureSet env s).result = .ok (.ok features) := by
  obtain ⟨r, hr, hrest, -⟩ := Prog.bind_returns h
  cases r with
  | none => cases hrest
  | some features' =>
    obtain rfl : features' = features := Except.ok.inj hrest
    exact adbGetFeatureSetOrDie_some env out hr

theorem sameRun_processRemountOrVerityService {args : List Bytes} {s s' : ClientState}
    (hargs : args.headD [] ∈ [lit "remount", lit "disable-verity", lit "enable-verity"])
    (hdevice : s.device = s'.device)
    (hshell : ∀ features, (adbGetFeatureSet env s.device).result = .ok (.ok features) →
      runsShell env features args → s.getopt.place = s'.getopt.place) :
    SameRun (processRemountOrVerityService env args s) (processRemountOrVerityService env args s') := by
  let E : ClientState → ClientState → Prop := fun t t' => t.device = t'.device ∧
    t.getopt = s.getopt ∧ t'.getopt = s'.getopt
  have hquery : Prog.Alike E (onDevice (requireFeatures env false) s)
      (onDevice (requireFeatures env false) s') :=
    Prog.alike_within (Prog.alike_refl _ hdevice) fun _ _ ht => ⟨ht, rfl, rfl⟩
  refine Prog.Alike.bind hquery (fun _ _ _ => trivial) fun features t t' hr ht => ?_
  obtain ⟨ht, hgetopt, hgetopt'⟩ := ht
  rw [onDevice_result] at hr
  by_cases hcan : env.canUse features (lit "remount_shell") = true
  · have hname : args.headD [] ≠ lit "shell" := fun h => by
      rw [h] at hargs
      revert hargs
      decide +kernel
    have hruns : runsShell env features args = true :=
        by simp only [runsShell, if_neg hname, if_pos hargs, hcan]
    have hplace := hshell features (requireFeatures_some env false hr) hruns
    rw [if_pos hcan]
    -- `adb_shell_noinput` replaces the standard input of both.
    refine Prog.Alike.bind (E := SameShell) ⟨rfl, rfl, ht, ?_,
      rfl⟩ (fun _ _ _ => trivial) fun _ u u' _ hu => ?_
    · calc t.getopt.place = s.getopt.place := by rw [hgetopt]
        _ = s'.getopt.place := hplace
        _ = t'.getopt.place := by rw [hgetopt']
    · exact sameRun_adbShell env false false (lit "shell" :: args) hu.1 fun _ _ => hu.2
  · rw [if_neg hcan]
    exact sameRun_onDevice (Prog.alike_refl _ ht)

/-- `pair` reads `std::cin` only for a code that the words do not give. -/
theorem sameRun_pair (args : List Bytes) {s s' : ClientState}
    (hdevice : SameButFeatures s.device s'.device)
    (hcin : args.length = 2 → env.cinLine.isSome →
      (s.cinFailed ∨ s.stdinReplaced ↔ s'.cinFailed ∨ s'.stdinReplaced)) :
    SameRun (pair env out args s) (pair env out args s') := by
  have hwire {α : Type} (p : WireM α) {t t' : ClientState} (ht : SameButFeatures t.device t'.device) :
      Prog.Alike (fun u u' => SameButFeatures u.device u'.device) (onDevice (onWire p) t)
        (onDevice (onWire p) t') :=
    Prog.alike_within (featureless_onWire p _ _ ht) fun _ _ hu => hu
  have hlast {α : Type} (p : WireM α) {t t' : ClientState} (ht : SameButFeatures t.device t'.device) :
      SameRun (onDevice (onWire p) t) (onDevice (onWire p) t') :=
        (hwire p ht).mono fun _ _ _ => trivial
  unfold pair
  rcases args with _ | ⟨name, _ | ⟨address, _ | ⟨password, _ | _⟩⟩⟩
  · exact sameRun_onDevice (featureless_errorExit env _ _ _ hdevice)
  · exact sameRun_onDevice (featureless_errorExit env _ _ _ hdevice)
  · let E : ClientState → ClientState → Prop := fun t t' => SameButFeatures t.device t'.device ∧
      ((if t.cinFailed ∨ t.stdinReplaced then none else env.cinLine) =
        if t'.cinFailed ∨ t'.stdinReplaced then none else env.cinLine)
    -- Whether a code can be read is the same on both sides, if there is one to read.
    have hread : (if s.cinFailed ∨ s.stdinReplaced then none else env.cinLine) =
        if s'.cinFailed ∨ s'.stdinReplaced then none else env.cinLine := by
      cases hline : env.cinLine with
      | none => simp only [ite_self]
      | some line => simp only [hcin rfl (by rw [hline]; rfl)]
    have hprompt : Prog.Alike E (onDevice (onWire (capture out (lit "Enter pairing code: "))) s)
        (onDevice (onWire (capture out (lit "Enter pairing code: "))) s') :=
      Prog.alike_within (featureless_onWire _ _ _ hdevice) fun _ _ hu => ⟨hu, hread⟩
    refine Prog.Alike.bind hprompt (fun _ _ _ => trivial) fun _ t t' _ ht => ?_
    rw [Prog.bind_get_apply, Prog.bind_get_apply, ← ht.2]
    generalize (if t.cinFailed ∨ t.stdinReplaced then none else env.cinLine) = line
    rcases line with _ | _ | _
    · exact Prog.Alike.bind (E := fun u u' => SameButFeatures u.device u'.device) ⟨rfl, rfl, ht.1⟩
        (fun _ _ _ => trivial) fun _ u u' _ hu => hlast _ hu
    · exact hlast _ ht.1
    · exact hlast _ ht.1
  · exact hlast _ hdevice
  · exact sameRun_onDevice (featureless_errorExit env _ _ _ hdevice)

theorem sameRun_backup (args : List Bytes) {s s' : ClientState}
    (hdevice : SameButFeatures s.device s'.device) :
    SameRun (backup env args s) (backup env args s') := by
  let E : ClientState → ClientState → Prop := fun t t' => SameButFeatures t.device t'.device
  have hdo {α : Type} {p : DeviceM α} (hp : Featureless p) : Prog.Respects E (onDevice p) :=
      fun t t' h =>
    Prog.alike_within (hp _ _ h) fun _ _ ht => ht
  have hbackup : Prog.Respects E (backup env args) :=
      .bind (hdo (featureless_orExit env _)) fun _ =>
    .bind (.modify fun _ _ h => h) fun _ => hdo (featureless_backupTo env _ _)
  exact (hbackup s s' hdevice).mono fun _ _ _ => trivial

/-! ## Every command -/

/-- The state, with what commands leave behind as a new process has it. -/
def ClientState.refreshed (s : ClientState) : ClientState :=
  { s with
    device := { s.device with features := none }
    getopt := .fresh
    stdinReplaced := false
    cinFailed := false }

/-- What the command reads of the variables that commands leave behind is as a new process has
it. -/
structure FindsFresh (args : List Bytes) (s : ClientState) : Prop where
  /-- The features are not known, if the command asks for them. -/
  features : asksFeatures env s.device.wire.calls args ∨
    args.headD [] = lit "sync" ∧ SyncAsks env args s → s.device.features = none
  /-- `getopt` is not in a word, if the command runs a shell. -/
  place : ∀ features, (adbGetFeatureSet env s.device).result = .ok (.ok features) →
    runsShell env features args → s.getopt.place = []
  /-- The standard input is not replaced. -/
  stdin : ∀ features, (adbGetFeatureSet env s.device).result = .ok (.ok features) →
    args.headD [] = lit "shell" → s.stdinReplaced = false
  /-- `getopt` starts afresh, if the command is a `sync` that reads options. -/
  getopt : args.headD [] = lit "sync" → (environmentCompression env .any).toBool → s.getopt = .fresh
  /-- `std::cin` can be read, if the command is a `pair` that reads a code. -/
  cin : args.headD [] = lit "pair" → args.length = 2 → env.cinLine.isSome →
    ¬ (s.cinFailed ∨ s.stdinReplaced)

/-- A command that finds what it reads as in a new process runs as it does there. -/
def CommandReads (name : Bytes) (command : List Bytes → ClientM (Option ℤ)) : Prop :=
  ∀ args s, args.headD [] = name → FindsFresh env args s →
    SameRun (command args s) (command args s.refreshed)

variable {env out} {name : Bytes}

theorem sameButFeatures_refreshed (s : ClientState) : SameButFeatures s.device s.refreshed.device :=
  ⟨rfl, rfl⟩

/-- A state whose features are not known is the same device as a new process has. -/
theorem device_refreshed {s : ClientState} (h : s.device.features = none) :
    s.device = s.refreshed.device := by
  obtain ⟨⟨wire, features, returnErrors⟩, listenAll, getopt, stdinReplaced, cinFailed, argv⟩ := s
  obtain rfl : features = none := h
  rfl

theorem commandReads_client {p : List Bytes → ClientM ℤ}
    (hp : ∀ args s, args.headD [] = name → FindsFresh env args s →
      SameRun (p args s) (p args s.refreshed)) : CommandReads env name (client p) :=
  fun args s hargs h => (hp args s hargs h).map some

/-- A program for a device that, where it does not ask for the features, does not look at them. -/
theorem sameRun_of_featureless {α : Type} {p : DeviceM α} {args : List Bytes} {s : ClientState}
    (h : FindsFresh env args s)
    (hp : asksFeatures env s.device.wire.calls args = false →
      Prog.Alike SameButFeatures (p s.device) (p s.refreshed.device)) :
    SameRun (onDevice p s) (onDevice p s.refreshed) := by
  cases hasks : asksFeatures env s.device.wire.calls args with
  | true => exact sameRun_onDevice (Prog.alike_refl p (device_refreshed (h.features (.inl hasks))))
  | false => exact sameRun_onDevice (hp hasks)

theorem commandReads_device {f : List Bytes → DeviceM ℤ}
    (hf : ∀ args calls, args.headD [] = name → asksFeatures env calls args = false →
      Featureless (f args)) : CommandReads env name (device f) := fun args s hargs h =>
  (sameRun_of_featureless h fun hasks =>
    hf args _ hargs hasks _ _ (sameButFeatures_refreshed s)).map some

theorem commandReads_wire {f : List Bytes → WireM ℤ} : CommandReads env name (wire f) :=
  commandReads_device fun args _ _ _ => featureless_onWire (f args)

/-- The commands that ask for the features whatever their other words are. -/
theorem asksFeatures_always {calls : ℕ} {args : List Bytes} (h : args.headD [] ∈ [lit "features",
    lit "track-app", lit "abb", lit "remount", lit "disable-verity", lit "enable-verity",
      lit "shell",
    lit "logcat", lit "lolcat", lit "longcat"]) : asksFeatures env calls args = true := by
  rcases (List.mem_append (s := [lit "features", lit "track-app", lit "abb", lit "remount",
    lit "disable-verity", lit "enable-verity"])).mp h with htakes | hlooks
  · rw [asksFeatures, takesFeatures, if_pos htakes]
    rfl
  · rw [asksFeatures, looksForFeatures_always hlooks, Bool.or_true]
    rfl

theorem commandReads_always {f : List Bytes → DeviceM ℤ} (hname : name ∈ [lit "features",
    lit "track-app", lit "abb", lit "remount", lit "disable-verity", lit "enable-verity",
      lit "shell",
    lit "logcat", lit "lolcat", lit "longcat"]) : CommandReads env name (device f) :=
  commandReads_device fun args calls hargs hasks => by
    rw [asksFeatures_always (by rwa [hargs])] at hasks
    cases hasks

/-- A command of packages, whose first check is for an argument. -/
theorem commandReads_withApk {text : String} {f : List Bytes → DeviceM ℤ}
    (hf : ∀ args s s', args.headD [] = name → 2 ≤ args.length →
      asksFeatures env s.wire.calls args = false → SameButFeatures s s' →
      Prog.Alike SameButFeatures (f args s) (f args s')) :
    CommandReads env name (device (commands.withApk out text f)) := fun args s hargs h => by
  refine Prog.Alike.map (sameRun_of_featureless h fun hasks => ?_) some
  unfold commands.withApk
  by_cases hlength : args.length < 2
  · rw [if_pos hlength]
    exact featureless_onWire _ _ _ (sameButFeatures_refreshed s)
  · rw [if_neg hlength]
    exact hf args _ _ hargs (by omega) hasks (sameButFeatures_refreshed s)

theorem asksFeatures_uninstall {calls : ℕ} {args : List Bytes}
    (hargs : args.headD [] = lit "uninstall")
    (hlength : 2 ≤ args.length) : asksFeatures env calls args = true := by
  rw [asksFeatures, takesFeatures_uninstall hargs, decide_eq_true hlength]
  rfl

theorem commandReads_shell : CommandReads env (lit "shell") (client (adbShell env out true)) :=
  commandReads_client fun args s hargs h => by
    have hasks : asksFeatures env s.device.wire.calls args = true :=
      asksFeatures_always (by rw [hargs]; simp)
    refine sameRun_adbShell env out true args (device_refreshed (h.features (.inl hasks)))
      fun features hfeatures => ⟨h.place features hfeatures ?_, h.stdin features hfeatures hargs⟩
    simp only [runsShell, if_pos hargs]

theorem commandReads_remount
    (hname : name ∈ [lit "remount", lit "disable-verity", lit "enable-verity"]) :
    CommandReads env name (client (processRemountOrVerityService env)) :=
  commandReads_client fun args s hargs h => by
    have hmem : args.headD [] ∈ [lit "remount", lit "disable-verity", lit "enable-verity"] :=
        by rwa [hargs]
    have hasks : asksFeatures env s.device.wire.calls args = true :=
      asksFeatures_always (List.mem_append_right [_, _, _] (List.mem_append_left [_, _, _, _] hmem))
    exact sameRun_processRemountOrVerityService env hmem (device_refreshed (h.features (.inl hasks)))
      fun features hfeatures hruns => h.place features hfeatures hruns

theorem commandReads_abb : CommandReads env (lit "abb") (client (adbAbb env)) :=
  commandReads_client fun args s hargs h => by
    have hasks : asksFeatures env s.device.wire.calls args = true :=
      asksFeatures_always (by rw [hargs]; simp)
    exact sameRun_adbAbb env args (device_refreshed (h.features (.inl hasks)))

theorem commandReads_pair : CommandReads env (lit "pair") (client (pair env out)) :=
  commandReads_client fun args s hargs h =>
    sameRun_pair env out args (sameButFeatures_refreshed s) fun hlength hline =>
      iff_of_false (h.cin hargs hlength hline) (by simp [ClientState.refreshed])

/-- A `sync` that does not read its options ends before it reads anything. -/
theorem commandReads_sync : CommandReads env (lit "sync") (client (syncCommand env out)) :=
  commandReads_client fun args s hargs h => by
    cases hcompression : environmentCompression env .any with
    | error text =>
      have hexit : Prog.Alike (fun _ _ => True) (onDevice (orExit env (environmentCompression env .any)) s)
          (onDevice (orExit env (environmentCompression env .any)) s.refreshed) :=
        sameRun_onDevice (featureless_orExit env _ _ _ (sameButFeatures_refreshed s))
      refine Prog.Alike.bind hexit (fun _ _ _ => trivial) fun compression t t' hr _ => ?_
      rw [onDevice_result, hcompression] at hr
      cases hr
    | ok compression =>
      refine sameRun_syncCommand env out args (h.getopt hargs ?_) (sameButFeatures_refreshed s)
        fun hasks => device_refreshed (h.features (.inr ⟨hargs, hasks⟩))
      rw [hcompression]
      rfl

theorem commandReads_trackApp :
    CommandReads env (lit "track-app") fun args => onDevice (trackApp env out args) :=
  fun args s hargs h => sameRun_of_featureless h fun hasks => by
    rw [asksFeatures_always (by rw [hargs]; simp)] at hasks
    cases hasks

variable (env out)

theorem commands_read : ∀ c ∈ commands env out, CommandReads env c.1 c.2 := by
  -- Most commands only use connections.
  simp only [commands, List.forall_mem_cons, commandReads_wire, true_and]
  have hforward {name : Bytes} (hname : name = lit "forward" ∨ name = lit "reverse") :
      CommandReads env name (device (forward env out)) :=
    commandReads_device fun args _ hargs hasks => featureless_forward env out (by rwa [hargs]) hasks
  have hreconnect : CommandReads env (lit "reconnect") fun args =>
      onDevice (onWire (reconnect env out args)) :=
    fun args s _ _ => sameRun_onDevice (featureless_onWire _ _ _ (sameButFeatures_refreshed s))
  have huninstall : CommandReads env (lit "uninstall")
      (device (commands.withApk out "uninstall requires an argument\n" (uninstallApp env))) :=
    commandReads_withApk fun args s s' hargs hlength hasks => by
      rw [asksFeatures_uninstall hargs hlength] at hasks
      cases hasks
  exact ⟨commandReads_abb, commandReads_pair, commandReads_shell, commandReads_remount (by simp),
    commandReads_remount (by simp), commandReads_remount (by simp),
    commandReads_device fun args _ => featureless_doIt env, hforward (.inl rfl),
      hforward (.inr rfl),
    commandReads_device fun args _ => featureless_lsCommand env out,
    commandReads_device fun args _ => featureless_pushCommand env out,
    commandReads_device fun args _ => featureless_pullCommand env out,
    commandReads_withApk fun args s s' hargs hlength hasks =>
      featureless_installApp env hargs hlength hasks s s',
    commandReads_withApk fun args s s' hargs hlength hasks hs =>
      alike_installMultipleApp env hargs hlength hs hasks,
    commandReads_withApk fun args s s' hargs hlength hasks =>
      featureless_installMultiPackage env hargs hlength hasks s s',
    huninstall, commandReads_sync, commandReads_always (by simp), commandReads_always (by simp),
    commandReads_always (by simp),
    commandReads_client fun args s _ _ => sameRun_backup env args (sameButFeatures_refreshed s),
    commandReads_device fun args _ _ _ => featureless_restore env args, commandReads_trackApp,
    commandReads_device fun args _ _ _ => featureless_raw env out args,
      commandReads_always (by simp),
    hreconnect, commandReads_device fun args _ _ _ => featureless_incServer env out args,
    List.forall_mem_nil _⟩

/-- A command that finds what it reads as in a new process does what it does there. -/
theorem sameRun_runCommand {args : List Bytes} {s : ClientState} (h : FindsFresh env args s) :
    SameRun (runCommand env out args s) (runCommand env out args s.refreshed) := by
  unfold runCommand
  cases hlookup : (commands env out).lookup (args.headD []) with
  | none => exact sameRun_onDevice (featureless_onWire _ _ _ (sameButFeatures_refreshed s))
  | some command =>
    obtain ⟨before, after, hcommands, -⟩ := List.lookup_eq_some_iff.mp hlookup
    have hmem : (args.headD [], command) ∈ commands env out := by
      rw [hcommands]
      exact List.mem_append_right _ List.mem_cons_self
    have hcommand := commands_read env out _ hmem args s rfl h
    refine Prog.Alike.bind hcommand (fun _ _ => id) fun r t t' _ _ => ?_
    cases r with
    | some n => exact ⟨rfl, rfl, trivial⟩
    | none => cases out <;> exact ⟨rfl, rfl, trivial⟩

end Client

end AdbMobile.Client
