import AdbMobile.Client.Commandline.HandledQuery

/-!
# Install sessions

What `install_multiple_app_streamed` and `install_multi_package` ask of the device, and in which
order. A run emits an event for each command of a session, with the status line that answered it,
and the lists of these that a run can leave are described first: `StreamedRun` and `MultiRun`, which
the loops of the two functions are shown to keep to.

From there a commit is seen to come last, after everything was written, in both functions
(`sessions_committed_complete`). That the sessions of a failed install are abandoned is not so: the
first function does nothing after a commit that failed, and the second one nothing after a command
for which there was no connection (`sessions_abandoned_iff`).
-/

namespace AdbMobile.Client

open ByteString PosixPath

/-! ## Commands -/

/-- A command of a session, and the status line that answered it. -/
structure SessionCommand where
  words : List Bytes
  answer : Option Bytes
  deriving DecidableEq, Repr

namespace SessionCommand

/-- What the command asks for. -/
def verb (c : SessionCommand) : Option Bytes := c.words[1]?

/-- The device answered with success. -/
def Succeeds (c : SessionCommand) : Prop := ∃ line, c.answer = some line ∧ isSuccess line = true

/-- The command commits a session. -/
def IsCommit (c : SessionCommand) : Prop := c.verb = some (lit "install-commit")

/-- The command abandons a session. -/
def IsAbandon (c : SessionCommand) : Prop := c.verb = some (lit "install-abandon")

/-- The command abandons this session. -/
def Abandons (c : SessionCommand) (id : ℕ) : Prop := c.IsAbandon ∧ c.words[2]? = some (decimal id)

/-- The session that the command created, if it did. -/
def created (c : SessionCommand) : Option ℕ :=
  if c.verb = some (lit "install-create") then c.answer.bind sessionId else none

instance (c : SessionCommand) : Decidable c.IsCommit := inferInstanceAs (Decidable (_ = _))

instance (c : SessionCommand) : Decidable c.IsAbandon := inferInstanceAs (Decidable (_ = _))

end SessionCommand

/-- The command of an event. -/
def DeviceEvent.sessionCommand? : DeviceEvent → Option SessionCommand
  | .command words answer => some ⟨words, answer⟩
  | _ => none

/-- The commands of a run. -/
def commandsIn (t : List DeviceEvent) : List SessionCommand :=
  t.filterMap DeviceEvent.sessionCommand?

@[simp] theorem commandsIn_append (t t' : List DeviceEvent) :
    commandsIn (t ++ t') = commandsIn t ++ commandsIn t' := List.filterMap_append

/-! ## Programs without commands -/

/-- No command of a session is sent. -/
abbrev Quiet (_ : DeviceState) (t : List DeviceEvent) (_ : DeviceState) : Prop := commandsIn t = []

theorem quiet_composes : Prog.Composes Quiet where
  nil _ := rfl
  append h h' := by rw [Quiet, commandsIn_append, h, h', List.append_nil]

theorem quiet_pure {α : Type} (a : α) : Prog.Keeps Quiet (pure a : DeviceM α) :=
  .pure quiet_composes a

theorem quiet_bind {α β : Type} {p : DeviceM α} {f : α → DeviceM β} (hp : Prog.Keeps Quiet p)
    (hf : ∀ a, Prog.Keeps Quiet (f a)) : Prog.Keeps Quiet (p >>= f) :=
  .bind quiet_composes hp hf

theorem quiet_emit {e : DeviceEvent} (he : e.sessionCommand? = none) :
    Prog.Keeps Quiet (Prog.emit e : DeviceM Unit) := fun _ => by
  show commandsIn [e] = []
  rw [commandsIn, List.filterMap_cons_none he, List.filterMap_nil]

theorem quiet_onWire {α : Type} (p : WireM α) : Prog.Keeps Quiet (onWire p) := fun s => by
  refine List.filterMap_eq_nil_iff.mpr fun e he => ?_
  obtain ⟨e, -, rfl⟩ := List.mem_map.mp he
  rfl

section Quiet

variable (env : ClientEnv)

theorem quiet_errorExit {α : Type} (text : Bytes) :
    Prog.Keeps Quiet (errorExit env text : DeviceM α) :=
  quiet_bind (quiet_emit rfl) fun _ => .exit quiet_composes _

theorem quiet_adbGetFeatureSet : Prog.Keeps Quiet (adbGetFeatureSet env) := by
  refine quiet_bind (.get quiet_composes) fun s => ?_
  cases s.features with
  | some features => exact quiet_pure _
  | none =>
    refine quiet_bind (quiet_onWire _) fun r => ?_
    cases r with
    | error e => exact quiet_pure _
    | ok result => exact quiet_bind (fun _ => rfl) fun _ => quiet_pure _

theorem quiet_requireFeatures (out : Bool) : Prog.Keeps Quiet (requireFeatures env out) := by
  have hdereference : ∀ r, Prog.Keeps Quiet (dereference r) := by
    intro r
    cases r with
    | some features => exact quiet_pure _
    | none => exact quiet_bind (quiet_emit rfl) fun _ => .exit quiet_composes _
  refine quiet_bind (quiet_bind (quiet_adbGetFeatureSet env) fun r => ?_) hdereference
  cases r with
  | ok features => exact quiet_pure _
  | error e => exact quiet_bind (quiet_emit rfl) fun _ => quiet_bind (quiet_onWire _) fun _ =>
      quiet_pure _

theorem quiet_isAbbExecSupported : Prog.Keeps Quiet (isAbbExecSupported env) :=
  quiet_bind (quiet_requireFeatures env false) fun _ => quiet_pure _

theorem quiet_bestInstallMode : Prog.Keeps Quiet (bestInstallMode env) :=
  quiet_bind (quiet_requireFeatures env false) fun _ => quiet_pure _

end Quiet

/-! ## After the features are known -/

section Known

variable {env : ClientEnv} {s : DeviceState}

/-- The features were asked for and are known. -/
def DeviceState.Known (s : DeviceState) : Prop := s.features.isSome = true

/-- Who has the features knows them from then on. -/
theorem known_of_required {out : Bool} {features : FeatureSet}
    (h : (requireFeatures env out s).result = .ok features) :
    (requireFeatures env out s).state.Known := by
  by_cases hknown : FeaturesKnown env s
  · obtain ⟨features, s', t, hrun, hs', -⟩ := requireFeatures_known env out hknown
    rw [hrun]
    exact Option.isSome_iff_exists.mpr ⟨features, hs'⟩
  · rw [(requireFeatures_unknown env out hknown).1] at h
    cases h

/-- They are not asked for again. -/
theorem requireFeatures_again (h : s.Known) (out : Bool) :
    ∃ features, requireFeatures env out s = ⟨.ok features, s, []⟩ := by
  obtain ⟨features, hfeatures⟩ := Option.isSome_iff_exists.mp h
  have hget : adbGetFeatureSet env s = ⟨.ok (.ok features), s, []⟩ := by
    rw [adbGetFeatureSet, Prog.bind_get_apply, hfeatures]
    rfl
  have hgetOrDie : adbGetFeatureSetOrDie env out s = ⟨.ok (some features), s, []⟩ := by
    rw [adbGetFeatureSetOrDie, Prog.bind_of_run hget]
    rfl
  exact ⟨features, by rw [requireFeatures, Prog.bind_of_run hgetOrDie]; rfl⟩

/-- From a state in which the features are known the program returns, they stay known, and its value
and its commands meet `Q`. -/
def AsksFor {α : Type} (p : DeviceM α) (s : DeviceState)
    (Q : α → List SessionCommand → Prop) : Prop :=
  s.Known → Prog.Runs p s fun a s' t => s'.Known ∧ Q a (commandsIn t)

section Rules

variable {α β : Type} {Q Q' : α → List SessionCommand → Prop}

theorem AsksFor.mono {p : DeviceM α} (hp : AsksFor p s Q) (hQ : ∀ a cs, Q a cs → Q' a cs) :
    AsksFor p s Q' := fun hs => (hp hs).mono fun a _ _ h => ⟨h.1, hQ a _ h.2⟩

theorem AsksFor.pure {a : α} (h : Q a []) : AsksFor (pure a : DeviceM α) s Q := fun hs =>
  .pure ⟨hs, h⟩

theorem AsksFor.bind {M : β → List SessionCommand → Prop} {p : DeviceM β} {f : β → DeviceM α}
    (hp : AsksFor p s M) (hf : ∀ b s' cs, M b cs → AsksFor (f b) s' fun a cs' => Q a (cs ++ cs')) :
    AsksFor (p >>= f) s Q := fun hs =>
  (hp hs).bind fun b s' t ⟨hs', hM⟩ => (hf b s' _ hM hs').mono fun a _ t' h => by
    rw [commandsIn_append]
    exact h

/-- What sends no command comes first. -/
theorem AsksFor.quiet_bind {p : DeviceM β} {f : β → DeviceM α}
    (hp : AsksFor p s fun _ cs => cs = []) (hf : ∀ b s', AsksFor (f b) s' Q) :
    AsksFor (p >>= f) s Q := .bind hp fun b s' _ hcs => by
  subst hcs
  exact hf b s'

/-- A command that was sent, or could not be. -/
theorem AsksFor.command_bind {words : List Bytes} {answer : Option Bytes} {f : Unit → DeviceM α}
    (h : AsksFor (f ()) s fun a cs => Q a (⟨words, answer⟩ :: cs)) :
    AsksFor (Prog.emit (.command words answer) >>= f) s Q := fun hs => .emit_bind (h hs)

theorem AsksFor.ite {c : Prop} [Decidable c] {p q : DeviceM α} (hp : c → AsksFor p s Q)
    (hq : ¬ c → AsksFor q s Q) : AsksFor (if c then p else q) s Q := by
  split
  · exact hp ‹_›
  · exact hq ‹_›

/-- What runs over connections returns, and leaves the features alone. -/
theorem asksFor_onWire (p : WireM α) : AsksFor (onWire p) s fun _ cs => cs = [] := by
  intro hs
  cases hr : (p s.wire).result with
  | error x => exact x.elim
  | ok a =>
    refine ⟨a, ?_, hs, quiet_onWire p s⟩
    rw [onWire, Prog.within, hr]
    rfl

end Rules

theorem asksFor_isAbbExecSupported : AsksFor (isAbbExecSupported env) s fun _ cs => cs = [] := by
  intro hs
  obtain ⟨features, hrun⟩ := @requireFeatures_again env s hs false
  rw [isAbbExecSupported, Prog.Runs, Prog.bind_of_run hrun]
  exact ⟨_, rfl, hs, rfl⟩

theorem asksFor_bestInstallMode : AsksFor (bestInstallMode env) s fun _ cs => cs = [] := by
  intro hs
  obtain ⟨features, hrun⟩ := @requireFeatures_again env s hs false
  rw [bestInstallMode, Prog.Runs, Prog.bind_of_run hrun]
  exact ⟨_, rfl, hs, rfl⟩

theorem asksFor_sendCommand (words : List Bytes) :
    AsksFor (sendCommand env words) s fun _ cs => cs = [] := by
  refine .quiet_bind asksFor_isAbbExecSupported fun useAbbExec s => .ite (fun _ => ?_) fun _ =>
    asksFor_onWire _
  refine .quiet_bind (asksFor_onWire _) fun r s => ?_
  cases r with
  | opened fd transport => exact .pure rfl
  | failed code e => exact .quiet_bind (asksFor_onWire _) fun _ _ => .pure rfl

/-- A command of a session leaves one event. -/
theorem asksFor_sessionCommand (purpose : Bytes) (words : List Bytes) :
    AsksFor (sessionCommand env purpose words) s fun r cs => cs = [⟨words, r⟩] := by
  refine .quiet_bind (asksFor_sendCommand words) fun r s => ?_
  cases r with
  | failed code e => exact .command_bind (.quiet_bind (asksFor_onWire _) fun _ _ => .pure rfl)
  | opened fd _ => exact .command_bind (.pure rfl)

/-! ## Writing -/

/-- A command that wrote this file, where `words` are the words for a file and its size. -/
def WroteFile (words : Bytes → ℤ → List Bytes) (file : Bytes) (c : SessionCommand) : Prop :=
  (∃ size, c.words = words file size) ∧ c.Succeeds

/-- Commands that wrote these files, in order. -/
abbrev WroteFiles (words : Bytes → ℤ → List Bytes) : List Bytes → List SessionCommand → Prop :=
  List.Forall₂ (WroteFile words)

variable {words : Bytes → ℤ → List Bytes} {shown : Bytes → Bytes}

/-- A file is written with one command, or it is not, with one at most. -/
theorem asksFor_writeToSession (file : Bytes) :
    AsksFor (writeToSession env file (shown file) (words file)) s fun ok cs =>
      (ok = true → ∃ c, cs = [c] ∧ WroteFile words file c) ∧
        ∀ c ∈ cs, ∃ size, c.words = words file size := by
  -- Every failure prints a text and returns false, with what was asked for until then.
  have hfail : ∀ {s : DeviceState} (text : Bytes) (cs : List SessionCommand),
      (∀ c ∈ cs, ∃ size, c.words = words file size) →
      AsksFor (do
        onWire (stderr text)
        return false : DeviceM Bool) s fun ok cs' =>
          (ok = true → ∃ c, cs ++ cs' = [c] ∧ WroteFile words file c) ∧
            ∀ c ∈ cs ++ cs', ∃ size, c.words = words file size := by
    intro s text cs hcs
    refine .quiet_bind (asksFor_onWire _) fun _ _ => .pure ⟨fun h => (by cases h), ?_⟩
    rw [List.append_nil]
    exact hcs
  refine .quiet_bind (asksFor_onWire _) fun k s => ?_
  cases env.stat k file with
  | error e => exact hfail _ [] fun _ h => absurd h List.not_mem_nil
  | ok size =>
    refine .quiet_bind (asksFor_onWire _) fun k s => ?_
    cases env.openFile k file with
    | error e => exact hfail _ [] fun _ h => absurd h List.not_mem_nil
    | ok reads =>
      have hone : ∀ answer, ∀ c ∈ [SessionCommand.mk (words file size) answer],
          ∃ size, c.words = words file size := fun answer c hc =>
        ⟨size, List.mem_singleton.mp hc ▸ rfl⟩
      refine .quiet_bind (asksFor_sendCommand _) fun r s => ?_
      cases r with
      | failed code e => exact .command_bind (hfail _ _ (hone none))
      | opened fd _ =>
        refine .ite (fun _ => .command_bind (hfail _ _ (hone none))) fun _ => .command_bind
          (.ite (fun _ => hfail _ _ (hone _)) fun hsuccess => .pure ⟨fun _ => ?_, hone _⟩)
        exact ⟨_, rfl, ⟨size, rfl⟩, readStatusLine fd, rfl, by simpa using hsuccess⟩

/-- The files of a session are written up to the first one that is not. -/
theorem asksFor_writeFiles (files : List Bytes) : ∀ {s : DeviceState},
    AsksFor (Prog.allM (fun file => writeToSession env file (shown file) (words file)) files) s
      fun ok cs => (ok = true → WroteFiles words files cs) ∧
        ∀ c ∈ cs, ∃ file size, c.words = words file size := by
  induction files with
  | nil => exact .pure ⟨fun _ => .nil, fun _ h => absurd h List.not_mem_nil⟩
  | cons file files ih =>
    intro s
    refine .bind (asksFor_writeToSession file) fun ok s cs ⟨hwrote, hcs⟩ => .ite (fun hok => ?_)
      fun _ => .pure ⟨fun h => (by cases h), fun c hc => ⟨file, hcs c (List.append_nil cs ▸ hc)⟩⟩
    obtain ⟨c, rfl, hc⟩ := hwrote hok
    refine ih.mono fun ok cs' ⟨hall, hcs'⟩ => ⟨fun hok => .cons hc (hall hok), fun c' hc' => ?_⟩
    obtain hc' | hc' := List.mem_append.mp hc'
    · exact ⟨file, hcs c' hc'⟩
    · exact hcs' c' hc'

/-- The command commits a session or abandons one. -/
def SessionCommand.IsFinal (c : SessionCommand) : Prop := c.IsCommit ∨ c.IsAbandon

instance (c : SessionCommand) : Decidable c.IsFinal := inferInstanceAs (Decidable (_ ∨ _))

/-- A command that asks for something else than a session creates none. -/
theorem created_of_verb {c : SessionCommand} {verb : Bytes} (h : c.words[1]? = some verb)
    (hne : verb ≠ lit "install-create") : c.created = none :=
  if_neg fun hverb => hne (Option.some.inj (h.symm.trans hverb))

/-- It is not one of the last ones either, unless it asks to commit or to abandon. -/
theorem not_isFinal_of_verb {c : SessionCommand} {verb : Bytes} (h : c.words[1]? = some verb)
    (hcommit : verb ≠ lit "install-commit") (habandon : verb ≠ lit "install-abandon") :
    ¬ c.IsFinal := fun hfinal =>
  hfinal.elim (fun hverb => hcommit (Option.some.inj (h.symm.trans hverb))) fun hverb =>
    habandon (Option.some.inj (h.symm.trans hverb))

/-- What creates a session asks for it. -/
theorem verb_of_created {c : SessionCommand} {id : ℕ} (h : c.created = some id) :
    c.words[1]? = some (lit "install-create") := by
  by_contra hverb
  have hnone : c.created = none := if_neg hverb
  rw [hnone] at h
  cases h

/-! ## One package -/

/-- The words that write a file of `install_multiple_app_streamed`. -/
def apkWords (installCmd session file : Bytes) (size : ℤ) : List Bytes :=
  [installCmd, lit "install-write", lit "-S", decimalInt size, session, basename file, lit "-"]

/-- A file that `install_multiple_app_streamed` installs. -/
def isApkFile (file : Bytes) : Bool :=
  endsWithIgnoreCase file (lit ".apk") || endsWithIgnoreCase file (lit ".dm") ||
    endsWithIgnoreCase file (lit ".fsv_sig")

/-- The files at the end of its arguments. -/
def apkFiles (args : List Bytes) : List Bytes := args.rtakeWhile isApkFile

/-- The commands of a run of `install_multiple_app_streamed` that returns. -/
inductive StreamedRun (args : List Bytes) : ℤ → List SessionCommand → Prop
  /-- There is no session. -/
  | uncreated {create : SessionCommand} (verb : create.words[1]? = some (lit "install-create"))
      (created : create.created = none) : StreamedRun args 1 [create]
  /-- Everything is written, and the session is committed. -/
  | committed {installCmd : Bytes} {id : ℕ} {create final : SessionCommand}
      {writes : List SessionCommand} {code : ℤ} (created : create.created = some id)
      (wrote : WroteFiles (apkWords installCmd (decimal id)) (apkFiles args) writes)
      (words : final.words = [installCmd, lit "install-commit", decimal id])
      (succeeds : code = 0 ↔ final.Succeeds) :
      StreamedRun args code (create :: writes ++ [final])
  /-- Something is not, and it is abandoned. -/
  | abandoned {installCmd : Bytes} {id : ℕ} {create final : SessionCommand}
      {writes : List SessionCommand} (created : create.created = some id)
      (wrote : ∀ c ∈ writes, ∃ file size, c.words = apkWords installCmd (decimal id) file size)
      (words : final.words = [installCmd, lit "install-abandon", decimal id]) :
      StreamedRun args 1 (create :: writes ++ [final])

theorem writeApks_eq_allM (installCmd session : Bytes) (files : List Bytes) :
    writeApks env installCmd session files = Prog.allM (fun file => writeToSession env file
      (lit "\"" ++ file ++ lit "\"") (apkWords installCmd session file)) files := by
  induction files with
  | nil => rfl
  | cons file files ih =>
    rw [writeApks, ih]
    rfl

/-- What `install-create` creates is in its answer. -/
theorem created_of_create {words : List Bytes} (h : words[1]? = some (lit "install-create"))
    (answer : Option Bytes) : (SessionCommand.mk words answer).created = answer.bind sessionId :=
  if_pos h

/-- A run that ends the process has sent no command, and any other one meets `Q`. -/
def SessionRun (Q : ℤ → List SessionCommand → Prop)
    (o : Outcome DeviceState DeviceEvent ClientStop ℤ) : Prop :=
  (∃ x, o.result = .error x ∧ commandsIn o.trace = []) ∨
    ∃ code, o.result = .ok code ∧ Q code (commandsIn o.trace)

section Outcomes

variable {Q : ℤ → List SessionCommand → Prop}

theorem AsksFor.sessionRun {p : DeviceM ℤ} (hp : AsksFor p s Q) (hs : s.Known) :
    SessionRun Q (p s) := by
  obtain ⟨code, hcode, -, hQ⟩ := hp hs
  exact .inr ⟨code, hcode, hQ⟩

theorem sessionRun_errorExit (text : Bytes) : SessionRun Q (errorExit env text s) :=
  .inl ⟨_, rfl, quiet_errorExit env text s⟩

/-- What comes first sends no command. -/
theorem sessionRun_bind {α : Type} {p : DeviceM α} {f : α → DeviceM ℤ} (hp : Prog.Keeps Quiet p)
    (hf : ∀ a, (p s).result = .ok a → SessionRun Q (f a (p s).state)) :
    SessionRun Q ((p >>= f) s) := by
  cases hr : (p s).result with
  | error x =>
    rw [Prog.bind_apply_error hr]
    exact .inl ⟨x, rfl, hp s⟩
  | ok a =>
    have hcommands : commandsIn (p s).trace = [] := hp s
    have hrest := hf a hr
    rw [Prog.bind_apply_ok hr]
    rw [SessionRun, Prog.after_result, Prog.after_trace, commandsIn_append, hcommands]
    exact hrest

/-- From where `abb_exec` was asked about, the features are known. -/
theorem sessionRun_isAbbExecSupported {f : Bool → DeviceM ℤ} (hf : ∀ useAbbExec s,
    AsksFor (f useAbbExec) s Q) : SessionRun Q ((isAbbExecSupported env >>= f) s) := by
  refine sessionRun_bind (quiet_isAbbExecSupported env) fun useAbbExec hr => ?_
  obtain ⟨features, hfeatures, -, hstate, -⟩ := Prog.bind_returns hr
  refine (hf useAbbExec _).sessionRun ?_
  rw [isAbbExecSupported, hstate]
  exact known_of_required hfeatures

end Outcomes

theorem quiet_orExit {α : Type} (r : Except Bytes α) : Prog.Keeps Quiet (orExit env r) := by
  cases r with
  | error text => exact quiet_errorExit env text
  | ok a => exact quiet_pure a

/-- The packages are counted that are found at the end of the arguments. -/
theorem countApks_eq (args : List Bytes) : ∀ {calls n : ℕ} {total : ℤ},
    countApks env calls args = .ok (n, total) → n = (args.takeWhile isApkFile).length := by
  -- The arguments come from the last one on, and the first that is no package ends the count.
  induction args with
  | nil =>
    intro calls n total h
    obtain ⟨rfl, -⟩ := Prod.mk.inj (Except.ok.inj h)
    rfl
  | cons file before ih =>
    intro calls n total h
    rw [countApks] at h
    split at h
    · cases h
    split at h
    · rename_i hpart
      have hfile : isApkFile file = true := by simpa [isApkFile, or_assoc] using hpart
      split at h
      · cases h
      cases hrest : countApks env (calls + 1) before with
      | error text =>
        rw [hrest] at h
        cases h
      | ok r =>
        rw [hrest] at h
        obtain ⟨rfl, -⟩ := Prod.mk.inj (Except.ok.inj h)
        rw [List.takeWhile_cons_of_pos hfile, List.length_cons, ih hrest]
    · rename_i hpart
      have hfile : ¬ isApkFile file = true := by simpa [isApkFile, or_assoc] using hpart
      obtain ⟨rfl, -⟩ := Prod.mk.inj (Except.ok.inj h)
      rw [List.takeWhile_cons_of_neg hfile]
      rfl

/-- What is dropped in front of the files at the end leaves them. -/
theorem drop_rtakeWhile (p : Bytes → Bool) (args : List Bytes) :
    args.drop (args.length - (args.reverse.takeWhile p).length) = args.rtakeWhile p := by
  have hlength : (args.rtakeWhile p).length = (args.reverse.takeWhile p).length :=
    List.length_reverse
  rw [← hlength]
  exact (List.suffix_iff_eq_drop.mp (List.rtakeWhile_suffix p args)).symm

/-- A run of `install_multiple_app_streamed`. -/
theorem streamed_run (args : List Bytes) :
    SessionRun (StreamedRun args) (installMultipleAppStreamed env args s) := by
  unfold installMultipleAppStreamed
  refine sessionRun_bind (.get quiet_composes) fun s₀ _ => ?_
  refine sessionRun_bind (quiet_orExit _) fun r hr => ?_
  obtain ⟨n, total⟩ := r
  refine sessionRun_bind (quiet_onWire _) fun _ _ => ?_
  split
  · exact sessionRun_errorExit _
  -- The packages that were counted are the files at the end of the arguments.
  have hn : n = (args.reverse.takeWhile isApkFile).length := by
    cases hcount : countApks env s₀.wire.calls args.reverse with
    | error text =>
      rw [hcount] at hr
      cases hr
    | ok r =>
      rw [hcount] at hr
      obtain rfl := Except.ok.inj hr
      exact countApks_eq _ hcount
  have hfiles : args.drop (args.length - n) = apkFiles args := hn ▸ drop_rtakeWhile isApkFile args
  dsimp only
  rw [hfiles]
  refine sessionRun_isAbbExecSupported fun useAbbExec s => ?_
  have hcmd : AsksFor (sessionInstallCmd env useAbbExec) s fun _ cs => cs = [] :=
    .ite (fun _ => .pure rfl) fun _ => .quiet_bind asksFor_bestInstallMode fun _ _ => .pure rfl
  refine .quiet_bind hcmd fun installCmd s =>
    .bind (asksFor_sessionCommand _ _) fun r s cs hcs => ?_
  subst hcs
  cases r with
  | none => exact .pure (.uncreated rfl (created_of_create rfl none))
  | some buf =>
    dsimp only
    have hcreated : ∀ words : List Bytes, words[1]? = some (lit "install-create") →
        (SessionCommand.mk words (some buf)).created = sessionId buf := fun _ h =>
      created_of_create h _
    cases hid : sessionId buf with
    | none =>
      exact .quiet_bind (asksFor_onWire _) fun _ _ =>
        .pure (.uncreated rfl ((hcreated _ rfl).trans hid))
    | some id =>
      rw [hid] at hcreated
      dsimp only
      rw [writeApks_eq_allM]
      -- There is a session: its files are written, and one more command ends it.
      refine .bind (asksFor_writeFiles _) fun success s writes ⟨hall, hwrites⟩ => ?_
      refine .bind (asksFor_sessionCommand _ _) fun r s cs hcs => ?_
      subst hcs
      cases success with
      | false =>
        -- Whatever comes of the command that abandons, the result is a failure.
        cases r with
        | none => exact .pure (.abandoned (hcreated _ rfl) hwrites rfl)
        | some buf => exact .pure (.abandoned (hcreated _ rfl) hwrites rfl)
      | true =>
        cases r with
        | none =>
          refine .pure (.committed (hcreated _ rfl) (hall rfl) rfl (iff_of_false (by decide) ?_))
          rintro ⟨line, hline, -⟩
          cases hline
        | some buf =>
          refine .ite (fun h => by cases h) fun _ => .ite (fun hsuccess => .quiet_bind
            (asksFor_onWire _) fun _ _ => .pure (.committed (hcreated _ rfl) (hall rfl) rfl
              (iff_of_false (by decide) ?_))) fun hsuccess => .pure (.committed (hcreated _ rfl)
                (hall rfl) rfl (iff_of_true rfl ⟨buf, rfl, by simpa using hsuccess⟩))
          rintro ⟨line, hline, hok⟩
          obtain rfl := Option.some.inj hline
          rw [hok] at hsuccess
          cases hsuccess

/-! ## Several packages -/

/-- The words that write a split of the package at this index of `install_multi_package`. -/
def splitWords (installCmd session : Bytes) (i : ℕ) (split : Bytes) (size : ℤ) : List Bytes :=
  [installCmd, lit "install-write", lit "-S", decimalInt size, session,
    decimal i ++ lit "_" ++ basename split, lit "-"]

/-- The packages at the end of its arguments. -/
def packages (args : List Bytes) : List Bytes := args.rtakeWhile isPackage

/-- Commands that create a session for each package, from the index `i` on, and write its splits. -/
inductive ChildrenWritten (installCmd : Bytes) :
    ℕ → List Bytes → List ℕ → List SessionCommand → Prop
  | nil (i : ℕ) : ChildrenWritten installCmd i [] [] []
  | cons {i : ℕ} {file : Bytes} {files : List Bytes} {id : ℕ} {ids : List ℕ}
      {create : SessionCommand} {writes rest : List SessionCommand}
      (created : create.created = some id)
      (wrote : WroteFiles (splitWords installCmd (decimal id) i) (split 58 file) writes)
      (others : ChildrenWritten installCmd (i + 1) files ids rest) :
      ChildrenWritten installCmd i (file :: files) (id :: ids) (create :: writes ++ rest)

theorem writeSplits_eq_allM (installCmd session : Bytes) (i : ℕ) (splits : List Bytes) :
    writeSplits env installCmd session i splits = Prog.allM (fun split =>
      writeToSession env split split (splitWords installCmd session i split)) splits := by
  induction splits with
  | nil => rfl
  | cons split splits ih =>
    rw [writeSplits, ih]
    rfl

/-- Commands that write files ask for that. -/
theorem verb_of_writes {words : Bytes → ℤ → List Bytes} {writes : List SessionCommand}
    (hverb : ∀ file size, (words file size)[1]? = some (lit "install-write"))
    (h : ∀ c ∈ writes, ∃ file size, c.words = words file size) :
    ∀ c ∈ writes, c.words[1]? = some (lit "install-write") := by
  intro c hc
  obtain ⟨file, size, hwords⟩ := h c hc
  rw [hwords, hverb]

/-- Commands that only write create nothing. -/
theorem created_of_writes {installCmd session : Bytes} {i : ℕ} {writes : List SessionCommand}
    (h : ∀ c ∈ writes, ∃ file size, c.words = splitWords installCmd session i file size) :
    writes.filterMap SessionCommand.created = [] ∧ ∀ c ∈ writes, ¬ c.IsFinal := by
  have hverb := verb_of_writes (fun _ _ => rfl) h
  exact ⟨List.filterMap_eq_nil_iff.mpr fun c hc => created_of_verb (hverb c hc) (by decide),
    fun c hc => not_isFinal_of_verb (hverb c hc) (by decide) (by decide)⟩

/-- The sessions that were created are those whose ids come back, whatever goes wrong. -/
theorem asksFor_childSessions (installCmd : Bytes) {cmdArgs apexCmdArgs : List Bytes}
    (hcmd : cmdArgs[1]? = some (lit "install-create"))
    (hapex : apexCmdArgs[1]? = some (lit "install-create")) (files : List Bytes) :
    ∀ {s : DeviceState} (sessions : List ℕ) (i : ℕ),
      AsksFor (childSessions env installCmd cmdArgs apexCmdArgs sessions i files) s fun r cs =>
        r.2 = sessions ++ cs.filterMap SessionCommand.created ∧
          (r.1 = true →
            ChildrenWritten installCmd i files (cs.filterMap SessionCommand.created) cs) ∧
          ∀ c ∈ cs, ¬ c.IsFinal := by
  induction files with
  | nil =>
    exact fun sessions i => .pure ⟨(List.append_nil _).symm, fun _ => .nil i, fun _ h =>
      absurd h List.not_mem_nil⟩
  | cons file files ih =>
    intro s sessions i
    generalize hcreate : (if endsWithIgnoreCase file (lit ".apex") then apexCmdArgs else cmdArgs) =
      create
    have hverb : create[1]? = some (lit "install-create") := by
      rw [← hcreate]
      split
      · exact hapex
      · exact hcmd
    have hopens : ∀ answer, ¬ (SessionCommand.mk create answer).IsFinal := fun answer =>
      not_isFinal_of_verb hverb (by decide) (by decide)
    -- The first command alone, where it creates no session.
    have hfailed : ∀ answer, (SessionCommand.mk create answer).created = none →
        sessions = sessions ++ [SessionCommand.mk create answer].filterMap SessionCommand.created ∧
          (false = true → ChildrenWritten installCmd i (file :: files)
            ([SessionCommand.mk create answer].filterMap SessionCommand.created)
            [SessionCommand.mk create answer]) ∧
          ∀ c ∈ [SessionCommand.mk create answer], ¬ c.IsFinal := by
      intro answer hnone
      rw [List.filterMap_cons_none hnone, List.filterMap_nil, List.append_nil]
      exact ⟨rfl, fun h => (by cases h), fun c hc => List.mem_singleton.mp hc ▸ hopens answer⟩
    rw [childSessions, hcreate]
    refine .bind (asksFor_sessionCommand _ _) fun r s cs hcs => ?_
    subst hcs
    cases r with
    | none => exact .pure (hfailed none (created_of_create hverb none))
    | some buf =>
      have hcreated : (SessionCommand.mk create (some buf)).created = sessionId buf :=
        created_of_create hverb _
      dsimp only
      cases hid : sessionId buf with
      | none =>
        exact .quiet_bind (asksFor_onWire _) fun _ _ =>
          .pure (hfailed (some buf) (hcreated.trans hid))
      | some id =>
        rw [hid] at hcreated
        dsimp only
        rw [writeSplits_eq_allM]
        refine .bind (asksFor_writeFiles _) fun ok s writes ⟨hall, hwrites⟩ => ?_
        obtain ⟨hnone, hnotFinal⟩ := created_of_writes hwrites
        have hchild : ∀ rest, (SessionCommand.mk create (some buf) :: (writes ++ rest)).filterMap
            SessionCommand.created = id :: rest.filterMap SessionCommand.created := by
          intro rest
          rw [List.filterMap_cons_some hcreated, List.filterMap_append, hnone, List.nil_append]
        refine .ite (fun hok => (ih _ _).mono fun r rest ⟨hids, hrest, hrestNotFinal⟩ => ?_)
          fun _ => .pure ⟨?_, fun h => (by cases h), ?_⟩
        · refine ⟨?_, fun hr => ?_, ?_⟩
          · rw [List.singleton_append, hchild, hids]
            exact List.append_assoc sessions [id] _
          · rw [List.singleton_append, hchild]
            exact .cons hcreated (hall hok) (hrest hr)
          · rw [List.singleton_append]
            intro c hc
            obtain rfl | hc := List.mem_cons.mp hc
            · exact hopens _
            · exact (List.mem_append.mp hc).elim (hnotFinal c) (hrestNotFinal c)
        · have hids := hchild []
          rw [List.append_nil] at hids
          rw [List.append_nil, List.singleton_append, hids]
          rfl
        · rw [List.append_nil]
          exact List.forall_mem_cons.mpr ⟨hopens _, hnotFinal⟩

/-- A list of sessions is abandoned with a command for each. -/
def AbandonAll (installCmd : Bytes) : List ℕ → List SessionCommand → Prop :=
  List.Forall₂ fun id c => c.words = [installCmd, lit "install-abandon", decimal id]

theorem asksFor_abandonSessions (installCmd : Bytes) (ids : List ℕ) : ∀ {s : DeviceState},
    AsksFor (abandonSessions env installCmd ids) s fun _ cs => AbandonAll installCmd ids cs := by
  induction ids with
  | nil => exact .pure .nil
  | cons id ids ih =>
    intro s
    refine .quiet_bind (asksFor_onWire _) fun _ s => .bind (asksFor_sessionCommand _ _)
      fun r s cs hcs => ?_
    subst hcs
    exact ih.mono fun _ cs hcs => .cons rfl hcs

/-- The command that links sessions to their parent. -/
def linkWords (installCmd : Bytes) (parent : ℕ) (ids : List ℕ) : List Bytes :=
  [installCmd, lit "install-add-session", decimal parent] ++ ids.map decimal

/-- The sessions are linked where the device says so. -/
theorem asksFor_linkSessions (created : Bool) (installCmd : Bytes) (parent : ℕ) (ids : List ℕ) :
    AsksFor (linkSessions env created installCmd (decimal parent) ids) s fun linked cs =>
      (linked = true → created = true ∧
        ∃ link, cs = [link] ∧ link.words = linkWords installCmd parent ids ∧ link.Succeeds) ∧
        ∀ c ∈ cs, c.words = linkWords installCmd parent ids := by
  refine .ite (fun hcreated => ?_) fun _ => .pure ⟨fun h => (by cases h), fun _ h =>
    absurd h List.not_mem_nil⟩
  refine .bind (asksFor_sessionCommand _ _) fun r s cs hcs => ?_
  subst hcs
  have hone : ∀ c ∈ [SessionCommand.mk (linkWords installCmd parent ids) r],
      c.words = linkWords installCmd parent ids := fun c hc => List.mem_singleton.mp hc ▸ rfl
  cases r with
  | none => exact .pure ⟨fun h => (by cases h), hone⟩
  | some buf =>
    refine .ite (fun _ => .quiet_bind (asksFor_onWire _) fun _ _ => .pure ⟨fun h => (by cases h), hone⟩)
      fun hsuccess => .pure ⟨fun _ => ⟨hcreated, _, rfl, rfl, buf, rfl, ?_⟩, hone⟩
    simpa using hsuccess

/-- The options before the packages. -/
def packageOptions (args : List Bytes) : List Bytes :=
  (args.take (args.length - (packages args).length)).drop 1

/-- The words that end a session of `install_multi_package`. -/
def finalWords (args : List Bytes) (installCmd : Bytes) (linked : Bool) (parent : ℕ) : List Bytes :=
  if linked then
    [installCmd, lit "install-commit"] ++ commitArgs (packageOptions args) ++ [decimal parent]
  else [installCmd, lit "install-abandon", decimal parent]

/-- What is asked of the device before the session of all packages comes to its end. -/
structure MultiSession (args : List Bytes) (installCmd : Bytes) (linked : Bool) (parent : ℕ)
    (create : SessionCommand) (body : List SessionCommand) : Prop where
  created : create.created = some parent
  notFinal : ∀ c ∈ body, ¬ c.IsFinal
  written : linked = true → ∃ children link, body = children ++ [link] ∧
    ChildrenWritten installCmd (args.length - (packages args).length) (packages args)
      (children.filterMap SessionCommand.created) children ∧
    link.words = linkWords installCmd parent (children.filterMap SessionCommand.created) ∧
    link.Succeeds

/-- The commands of a run of `install_multi_package` that returns. -/
inductive MultiRun (args : List Bytes) : ℤ → List SessionCommand → Prop
  /-- The device does not support it. -/
  | refused : MultiRun args 1 []
  /-- There is no session. -/
  | uncreated {create : SessionCommand} (verb : create.words[1]? = some (lit "install-create"))
      (created : create.created = none) : MultiRun args 1 [create]
  /-- The last command cannot be sent, and nothing comes after it. -/
  | stranded {installCmd : Bytes} {linked : Bool} {parent : ℕ} {create final : SessionCommand}
      {body : List SessionCommand} (session : MultiSession args installCmd linked parent create body)
      (words : final.words = finalWords args installCmd linked parent) (answer : final.answer = none) :
      MultiRun args 1 (create :: body ++ [final])
  /-- Everything is linked, and the session is committed. -/
  | committed {installCmd : Bytes} {parent : ℕ} {create final : SessionCommand}
      {body : List SessionCommand} (session : MultiSession args installCmd true parent create body)
      (words : final.words = finalWords args installCmd true parent) (succeeds : final.Succeeds) :
      MultiRun args 0 (create :: body ++ [final])
  /-- All sessions are abandoned, the one of all packages last. -/
  | abandoned {installCmd : Bytes} {linked : Bool} {parent : ℕ} {create final : SessionCommand}
      {body others : List SessionCommand}
      (session : MultiSession args installCmd linked parent create body)
      (words : final.words = finalWords args installCmd linked parent)
      (answer : final.answer.isSome = true)
      (abandons : AbandonAll installCmd (body.filterMap SessionCommand.created ++ [parent]) others) :
      MultiRun args 1 (create :: body ++ final :: others)

/-- The end of `install_multi_package`. -/
theorem asksFor_finalizeMultiPackage {args : List Bytes} {installCmd : Bytes} {linked : Bool}
    {parent : ℕ} {create : SessionCommand} {body : List SessionCommand}
    (h : MultiSession args installCmd linked parent create body) :
    AsksFor (finalizeMultiPackage env installCmd linked (packageOptions args) parent
      (body.filterMap SessionCommand.created)) s fun code cs =>
        MultiRun args code (create :: body ++ cs) := by
  unfold finalizeMultiPackage
  refine .bind (asksFor_sessionCommand _ _) fun r s cs hcs => ?_
  subst hcs
  cases r with
  | none => exact .pure (.stranded h rfl rfl)
  | some buf =>
    refine .ite (fun hok => .pure ?_) fun _ => ?_
    · obtain ⟨hsuccess, rfl⟩ := hok
      exact .committed h rfl ⟨buf, rfl, hsuccess⟩
    · have hprint : AsksFor (onWire (if isSuccess buf then pure () else
          stderr (lit "adb: failed to finalize session\n" ++ buf))) s fun _ cs => cs = [] :=
        asksFor_onWire _
      exact .quiet_bind hprint fun _ s => .bind (asksFor_abandonSessions _ _) fun _ s cs hcs =>
        .pure (by rw [List.append_nil]; exact .abandoned h rfl rfl hcs)

/-- A run of `install_multi_package`. -/
theorem multi_run (args : List Bytes) :
    SessionRun (MultiRun args) (installMultiPackage env args s) := by
  have hpackages : args.drop (args.length - (args.reverse.takeWhile isPackage).length) =
      packages args := drop_rtakeWhile isPackage args
  have hlength : (args.reverse.takeWhile isPackage).length = (packages args).length :=
    List.length_reverse.symm
  unfold installMultiPackage
  dsimp only
  rw [hpackages, hlength]
  split
  · exact sessionRun_errorExit _
  refine sessionRun_bind (quiet_bestInstallMode env) fun mode _ => ?_
  split
  · refine sessionRun_bind (quiet_onWire _) fun _ _ => .inr ⟨1, rfl, .refused⟩
  refine sessionRun_isAbbExecSupported fun useAbbExec s => ?_
  refine .bind (asksFor_sessionCommand _ _) fun r s cs hcs => ?_
  subst hcs
  cases r with
  | none => exact .pure (.uncreated rfl (created_of_create rfl none))
  | some buf =>
    dsimp only
    have hcreated : ∀ words : List Bytes, words[1]? = some (lit "install-create") →
        (SessionCommand.mk words (some buf)).created = sessionId buf := fun _ h =>
      created_of_create h _
    cases hid : sessionId buf with
    | none =>
      exact .quiet_bind (asksFor_onWire _) fun _ _ =>
        .pure (.uncreated rfl ((hcreated _ rfl).trans hid))
    | some parent =>
      rw [hid] at hcreated
      dsimp only
      refine .bind (asksFor_childSessions _ rfl rfl _ [] _) fun r s children ⟨hids, hwritten,
        hnotFinal⟩ => ?_
      obtain ⟨created, ids⟩ := r
      obtain rfl : ids = children.filterMap SessionCommand.created := hids
      refine .bind (asksFor_linkSessions _ _ _ _) fun linked s link ⟨hlinked, hlink⟩ => ?_
      -- The command that links creates nothing, so the ids of the children are those of all.
      have hverb : ∀ c ∈ link, c.words[1]? = some (lit "install-add-session") := fun c hc => by
        rw [hlink c hc]
        rfl
      have hids : children.filterMap SessionCommand.created =
          (children ++ link).filterMap SessionCommand.created := by
        have hnone : link.filterMap SessionCommand.created = [] :=
          List.filterMap_eq_nil_iff.mpr fun c hc => created_of_verb (hverb c hc) (by decide)
        rw [List.filterMap_append, hnone, List.append_nil]
      rw [hids]
      -- What was asked for so far, behind the command that created the session.
      have hfinalize : ∀ create : SessionCommand, create.created = some parent →
          AsksFor (finalizeMultiPackage env (if useAbbExec then lit "package" else lit "exec:cmd package")
            linked (packageOptions args) parent
            ((children ++ link).filterMap SessionCommand.created)) s fun code cs =>
              MultiRun args code ([create] ++ (children ++ (link ++ cs))) := by
        intro create hcreate
        have hsession : MultiSession args (if useAbbExec then lit "package" else lit "exec:cmd package")
            linked parent create (children ++ link) := by
          refine ⟨hcreate, fun c hc => ?_, fun hok => ?_⟩
          · obtain hc | hc := List.mem_append.mp hc
            · exact hnotFinal c hc
            · exact not_isFinal_of_verb (hverb c hc) (by decide) (by decide)
          · obtain ⟨hcreated, link', rfl, hwords, hsucceeds⟩ := hlinked hok
            exact ⟨children, link', rfl, hwritten hcreated, hwords, hsucceeds⟩
        refine (asksFor_finalizeMultiPackage hsession).mono fun code cs h => ?_
        rwa [List.singleton_append, ← List.append_assoc]
      exact hfinalize _ (hcreated _ rfl)

end Known

/-! ## How a run ends -/

/-- What creates a session does not end one. -/
theorem not_isFinal_of_create {c : SessionCommand} (h : c.words[1]? = some (lit "install-create")) :
    ¬ c.IsFinal := not_isFinal_of_verb h (by decide) (by decide)

/-- What creates a session and writes to it does not end it. -/
theorem before_notFinal {create : SessionCommand} {id : ℕ} {writes : List SessionCommand}
    (hcreate : create.created = some id)
    (hwrites : ∀ c ∈ writes, c.words[1]? = some (lit "install-write")) :
    ∀ c ∈ create :: writes, ¬ c.IsFinal :=
  List.forall_mem_cons.mpr ⟨not_isFinal_of_create (verb_of_created hcreate), fun c hc =>
    not_isFinal_of_verb (hwrites c hc) (by decide) (by decide)⟩

/-- Files that were written were written with these words. -/
theorem writes_of_wroteFiles {words : Bytes → ℤ → List Bytes} {files : List Bytes}
    {writes : List SessionCommand} (h : WroteFiles words files writes) :
    ∀ c ∈ writes, ∃ file size, c.words = words file size := by
  induction h with
  | nil => exact fun _ h => absurd h List.not_mem_nil
  | cons hc _ ih => exact List.forall_mem_cons.mpr ⟨⟨_, hc.1⟩, ih⟩

theorem SessionCommand.IsAbandon.not_isCommit {c : SessionCommand} (h : c.IsAbandon) :
    ¬ c.IsCommit := fun hcommit =>
  have hne : lit "install-abandon" ≠ lit "install-commit" := by decide
  hne (Option.some.inj (h.symm.trans hcommit))

/-- A command that asks to commit commits. -/
theorem isCommit_of_words {c : SessionCommand} {installCmd : Bytes} {rest : List Bytes}
    (h : c.words = installCmd :: lit "install-commit" :: rest) : c.IsCommit := by
  rw [SessionCommand.IsCommit, SessionCommand.verb, h]
  rfl

/-- A command that abandons a session abandons the one it names. -/
theorem abandons_of_words {c : SessionCommand} {installCmd : Bytes} {id : ℕ}
    (h : c.words = [installCmd, lit "install-abandon", decimal id]) : c.Abandons id := by
  rw [SessionCommand.Abandons, SessionCommand.IsAbandon, SessionCommand.verb, h]
  exact ⟨rfl, rfl⟩

/-- Commands that abandon sessions ask for nothing else. -/
theorem isAbandon_of_abandonAll {installCmd : Bytes} {ids : List ℕ} {others : List SessionCommand}
    (h : AbandonAll installCmd ids others) : ∀ c ∈ others, c.IsAbandon := by
  induction h with
  | nil => exact fun _ h => absurd h List.not_mem_nil
  | cons hc _ ih => exact List.forall_mem_cons.mpr ⟨(abandons_of_words hc).1, ih⟩

/-- What comes before the last command of a session of several packages ends no session. -/
theorem MultiSession.before_notFinal {args : List Bytes} {installCmd : Bytes} {linked : Bool}
    {parent : ℕ} {create : SessionCommand} {body : List SessionCommand}
    (h : MultiSession args installCmd linked parent create body) :
    ∀ c ∈ create :: body, ¬ c.IsFinal :=
  List.forall_mem_cons.mpr ⟨not_isFinal_of_create (verb_of_created h.created), h.notFinal⟩

/-! ## Commits -/

/-- Of these commands one commits at most, only after `complete`, and where there is success, with
success. -/
structure CommitsOnce (complete : SessionCommand → List SessionCommand → Prop) (success : Prop)
    (cs : List SessionCommand) : Prop where
  commit : ∀ before c after, cs = before ++ c :: after → c.IsCommit →
    (∀ c' ∈ before ++ after, ¬ c'.IsCommit) ∧ complete c before
  success : success → ∃ c ∈ cs, c.IsCommit ∧ c.Succeeds

/-- A run of a function commits once at most, only after `complete`, and is a success only if that
was one. -/
def CommitsWhenComplete (complete : SessionCommand → List SessionCommand → Prop)
    (o : Outcome DeviceState DeviceEvent ClientStop ℤ) : Prop :=
  CommitsOnce complete (o.result = .ok 0) (commandsIn o.trace)

/-- Before the commit, a session was created, and every file was written to it with success. -/
def StreamedComplete (args : List Bytes) (commit : SessionCommand) (before : List SessionCommand) :
    Prop :=
  ∃ installCmd id create writes, before = create :: writes ∧ create.created = some id ∧
    WroteFiles (apkWords installCmd (decimal id)) (apkFiles args) writes ∧
    commit.words = [installCmd, lit "install-commit", decimal id]

/-- Before the commit, the parent session was created, then for every package a session to which
every split was written with success, and then all of these were linked to the parent with
success. -/
def MultiComplete (args : List Bytes) (commit : SessionCommand)
    (before : List SessionCommand) : Prop :=
  ∃ installCmd parent create children link, before = create :: children ++ [link] ∧
    create.created = some parent ∧
    ChildrenWritten installCmd (args.length - (packages args).length) (packages args)
      (children.filterMap SessionCommand.created) children ∧
    link.words = linkWords installCmd parent (children.filterMap SessionCommand.created) ∧
    link.Succeeds ∧ commit.words = finalWords args installCmd true parent

/-- The only element of its kind is where it is. -/
theorem append_cons_unique {α : Type} {P : α → Prop} {l r before after : List α} {x c : α}
    (hl : ∀ a ∈ l, ¬ P a) (hr : ∀ a ∈ r, ¬ P a) (h : l ++ x :: r = before ++ c :: after) (hc : P c) :
    before = l ∧ c = x ∧ after = r := by
  induction l generalizing before with
  | nil =>
    cases before with
    | nil =>
      obtain ⟨rfl, rfl⟩ := List.cons.inj h
      exact ⟨rfl, rfl, rfl⟩
    | cons b before =>
      obtain ⟨-, rfl⟩ := List.cons.inj h
      exact absurd hc (hr c (List.mem_append_right _ List.mem_cons_self))
  | cons a l ih =>
    cases before with
    | nil =>
      obtain ⟨rfl, -⟩ := List.cons.inj h
      exact absurd hc (hl a List.mem_cons_self)
    | cons b before =>
      obtain ⟨rfl, hrest⟩ := List.cons.inj h
      obtain ⟨rfl, rfl, rfl⟩ := ih (fun a ha => hl a (List.mem_cons_of_mem _ ha)) hrest
      exact ⟨rfl, rfl, rfl⟩

section CommitsOnce

variable {complete : SessionCommand → List SessionCommand → Prop} {success : Prop}
  {before after cs : List SessionCommand} {final : SessionCommand}

/-- Where no command commits, there is nothing to show. -/
theorem CommitsOnce.of_none (hnone : ∀ c ∈ cs, ¬ c.IsCommit) (hfails : ¬ success) :
    CommitsOnce complete success cs where
  commit _ c _ heq hc := absurd hc (hnone c (heq ▸ List.mem_append_right _ List.mem_cons_self))
  success h := absurd h hfails

/-- Where one does, it is the only one. -/
theorem CommitsOnce.of_final (hbefore : ∀ c ∈ before, ¬ c.IsFinal)
    (hafter : ∀ c ∈ after, ¬ c.IsCommit)
    (hcommit : final.IsCommit) (hcomplete : complete final before)
    (hsuccess : success → final.Succeeds) :
    CommitsOnce complete success (before ++ final :: after) where
  commit before' c after' heq hc := by
    have hbefore' : ∀ c ∈ before, ¬ c.IsCommit := fun c hc h => hbefore c hc (.inl h)
    obtain ⟨rfl, rfl, rfl⟩ := append_cons_unique hbefore' hafter heq hc
    exact ⟨fun c' hc' => (List.mem_append.mp hc').elim (hbefore' c') (hafter c'), hcomplete⟩
  success h := ⟨final, List.mem_append_right _ List.mem_cons_self, hcommit, hsuccess h⟩

/-- Where the session is abandoned, there is none. -/
theorem CommitsOnce.of_abandon (hbefore : ∀ c ∈ before, ¬ c.IsFinal)
    (hafter : ∀ c ∈ after, ¬ c.IsCommit)
    (hfinal : final.IsAbandon) (hfails : ¬ success) :
    CommitsOnce complete success (before ++ final :: after) := by
  refine .of_none (fun c hc hcommit => ?_) hfails
  obtain hc | hc := List.mem_append.mp hc
  · exact hbefore c hc (.inl hcommit)
  obtain rfl | hc := List.mem_cons.mp hc
  · exact hfinal.not_isCommit hcommit
  · exact hafter c hc hcommit

/-- It is enough to look at the commands of the runs that return. -/
theorem commitsWhenComplete_of_run {Q : ℤ → List SessionCommand → Prop}
    {o : Outcome DeviceState DeviceEvent ClientStop ℤ} (ho : SessionRun Q o)
    (hQ : ∀ code cs, Q code cs → CommitsOnce complete (code = 0) cs) :
    CommitsWhenComplete complete o := by
  rw [CommitsWhenComplete]
  obtain ⟨x, hresult, hcommands⟩ | ⟨code, hresult, hrun⟩ := ho
  · rw [hcommands, hresult]
    exact .of_none (fun _ h => absurd h List.not_mem_nil) nofun
  · have hcode : o.result = .ok 0 ↔ code = 0 :=
      ⟨fun h => Except.ok.inj (hresult.symm.trans h), fun h => h ▸ hresult⟩
    rw [hcode]
    exact hQ code _ hrun

end CommitsOnce

section Commits

variable (env : ClientEnv) (args : List Bytes) (s : DeviceState)

/-- One package: the commit comes after everything was written. -/
theorem commitsOnce_of_streamedRun {code : ℤ} {cs : List SessionCommand}
    (h : StreamedRun args code cs) :
    CommitsOnce (StreamedComplete args) (code = 0) cs := by
  cases h with
  | @uncreated create verb created =>
    refine .of_none (fun c hc hcommit => ?_) one_ne_zero
    obtain rfl := List.mem_singleton.mp hc
    exact not_isFinal_of_create verb (.inl hcommit)
  | @committed installCmd id create final writes _ created wrote words succeeds =>
    have hbefore := before_notFinal created
      (verb_of_writes (fun _ _ => rfl) (writes_of_wroteFiles wrote))
    exact .of_final hbefore (fun _ h => absurd h List.not_mem_nil) (isCommit_of_words words)
      ⟨installCmd, id, create, writes, rfl, created, wrote, words⟩ succeeds.mp
  | abandoned created wrote words =>
    exact .of_abandon (before_notFinal created (verb_of_writes (fun _ _ => rfl) wrote))
      (fun _ h => absurd h List.not_mem_nil) (abandons_of_words words).1 one_ne_zero

/-- A session of several packages is committed where everything is linked, and only there. -/
theorem MultiSession.commitsOnce {installCmd : Bytes} {linked : Bool} {parent : ℕ} {code : ℤ}
    {create final : SessionCommand} {body after : List SessionCommand}
    (h : MultiSession args installCmd linked parent create body)
    (hwords : final.words = finalWords args installCmd linked parent)
    (hafter : ∀ c ∈ after, ¬ c.IsCommit) (hsuccess : code = 0 → linked = true ∧ final.Succeeds) :
    CommitsOnce (MultiComplete args) (code = 0) (create :: body ++ final :: after) := by
  have hbefore := h.before_notFinal
  cases linked with
  | true =>
    obtain ⟨children, link, rfl, hwritten, hlink, hlinks⟩ := h.written rfl
    exact .of_final hbefore hafter (isCommit_of_words hwords)
      ⟨installCmd, parent, create, children, link, rfl, h.created, hwritten, hlink, hlinks, hwords⟩
      fun h => (hsuccess h).2
  | false =>
    exact .of_abandon hbefore hafter (abandons_of_words hwords).1 fun h =>
      absurd (hsuccess h).1 Bool.false_ne_true

/-- Several packages: the commit comes after everything was written and linked. -/
theorem commitsOnce_of_multiRun {code : ℤ} {cs : List SessionCommand} (h : MultiRun args code cs) :
    CommitsOnce (MultiComplete args) (code = 0) cs := by
  cases h with
  | refused => exact .of_none (fun _ h => absurd h List.not_mem_nil) one_ne_zero
  | @uncreated create verb created =>
    refine .of_none (fun c hc hcommit => ?_) one_ne_zero
    obtain rfl := List.mem_singleton.mp hc
    exact not_isFinal_of_create verb (.inl hcommit)
  | stranded session words answer =>
    exact session.commitsOnce args words (fun _ h => absurd h List.not_mem_nil) fun h =>
      absurd h one_ne_zero
  | committed session words succeeds =>
    exact session.commitsOnce args words (fun _ h => absurd h List.not_mem_nil) fun _ =>
      ⟨rfl, succeeds⟩
  | abandoned session words answer abandons =>
    exact session.commitsOnce args words
      (fun c hc => (isAbandon_of_abandonAll abandons c hc).not_isCommit) fun h =>
        absurd h one_ne_zero

/-- Both functions commit a session once at most, and only when it is complete: when every file was
written with success and, where there are several packages, every session that was created was
linked with success. They succeed only if that commit does. -/
theorem sessions_committed_complete :
    CommitsWhenComplete (StreamedComplete args) (installMultipleAppStreamed env args s) ∧
      CommitsWhenComplete (MultiComplete args) (installMultiPackage env args s) :=
  ⟨commitsWhenComplete_of_run (streamed_run args) fun _ _ => commitsOnce_of_streamedRun args,
    commitsWhenComplete_of_run (multi_run args) fun _ _ => commitsOnce_of_multiRun args⟩

/-! ## Abandoned sessions -/

/-- Where there was no success, every session that was created was asked to be abandoned. -/
def AllAbandoned (code : ℤ) (cs : List SessionCommand) : Prop :=
  code ≠ 0 → ∀ c ∈ cs, ∀ id, c.created = some id → ∃ c' ∈ cs, c'.Abandons id

/-- A run of a function that fails abandons its sessions. -/
def AbandonsSessions (o : Outcome DeviceState DeviceEvent ClientStop ℤ) : Prop :=
  ∀ code, o.result = .ok code → AllAbandoned code (commandsIn o.trace)

/-- The device answers a commit with success, if it is asked for one. -/
def CommitSucceeds (cs : List SessionCommand) : Prop := ∀ c ∈ cs, c.IsCommit → c.Succeeds

/-- The device answers the first command that commits a session or abandons one, or else that
command abandons every session there is. -/
def FinalAnswered (cs : List SessionCommand) : Prop :=
  ∀ final, cs.find? (fun c => decide c.IsFinal) = some final →
    final.answer.isSome = true ∨ ∀ c ∈ cs, ∀ id, c.created = some id → final.Abandons id

/-- It is enough to look at the commands of the runs that return. -/
theorem abandonsSessions_iff {Q : ℤ → List SessionCommand → Prop} {P : List SessionCommand → Prop}
    {o : Outcome DeviceState DeviceEvent ClientStop ℤ} (ho : SessionRun Q o) (hnone : P [])
    (hQ : ∀ code cs, Q code cs → (AllAbandoned code cs ↔ P cs)) :
    AbandonsSessions o ↔ P (commandsIn o.trace) := by
  obtain ⟨x, hresult, hcommands⟩ | ⟨code, hresult, hrun⟩ := ho
  · rw [hcommands]
    refine iff_of_true (fun code h => ?_) hnone
    rw [hresult] at h
    cases h
  · refine Iff.trans ⟨fun h => h code hresult, fun h code' hcode' => ?_⟩ (hQ code _ hrun)
    obtain rfl := Except.ok.inj (hresult.symm.trans hcode')
    exact h

/-- Only what asks for a session creates one. -/
theorem created_of_isFinal {c : SessionCommand} (h : c.IsFinal) : c.created = none := by
  refine if_neg fun hverb => ?_
  have hcreate : c.words[1]? = some (lit "install-create") := hverb
  exact not_isFinal_of_create hcreate h

/-- One package: only a commit that fails leaves the session behind. -/
theorem allAbandoned_of_streamedRun {code : ℤ} {cs : List SessionCommand}
    (h : StreamedRun args code cs) :
    AllAbandoned code cs ↔ CommitSucceeds cs := by
  cases h with
  | @uncreated create verb created =>
    have hcommit : CommitSucceeds [create] := fun c hc hcommit => by
      obtain rfl := List.mem_singleton.mp hc
      exact absurd (.inl hcommit) (not_isFinal_of_create verb)
    refine iff_of_true (fun _ c hc id hid => ?_) hcommit
    obtain rfl := List.mem_singleton.mp hc
    rw [created] at hid
    cases hid
  | @committed installCmd id create final writes _ created wrote words succeeds =>
    have hbefore := before_notFinal created
      (verb_of_writes (fun _ _ => rfl) (writes_of_wroteFiles wrote))
    have hfinal : final.IsCommit := isCommit_of_words words
    have hlast : final ∈ create :: writes ++ [final] :=
      List.mem_append_right _ (List.mem_singleton.mpr rfl)
    constructor
    · intro h c hc hcommit
      -- A failed commit would have to be followed by a command that abandons, which there is not.
      by_contra hfails
      have hcode : code ≠ 0 := fun hcode => hfails (by
        obtain hc | hc := List.mem_append.mp hc
        · exact absurd (.inl hcommit) (hbefore c hc)
        · obtain rfl := List.mem_singleton.mp hc
          exact succeeds.mp hcode)
      obtain ⟨c', hc', habandon, -⟩ :=
        h hcode create (List.mem_append_left _ List.mem_cons_self) id created
      obtain hc' | hc' := List.mem_append.mp hc'
      · exact hbefore c' hc' (.inr habandon)
      · obtain rfl := List.mem_singleton.mp hc'
        exact habandon.not_isCommit hfinal
    · exact fun h hcode => absurd (succeeds.mpr (h final hlast hfinal)) hcode
  | @abandoned installCmd id create final writes created wrote words =>
    have hverb := verb_of_writes (fun _ _ => rfl) wrote
    have hbefore := before_notFinal created hverb
    have hfinal : final.Abandons id := abandons_of_words words
    have hlast : final ∈ create :: writes ++ [final] :=
      List.mem_append_right _ (List.mem_singleton.mpr rfl)
    refine iff_of_true (fun _ c hc id' hid' => ?_) fun c hc hcommit => ?_
    · have hid : id' = id := by
        obtain hc | hc := List.mem_append.mp hc
        · obtain rfl | hc := List.mem_cons.mp hc
          · exact Option.some.inj (hid'.symm.trans created)
          · rw [created_of_verb (hverb c hc) (by decide)] at hid'
            cases hid'
        · obtain rfl := List.mem_singleton.mp hc
          rw [created_of_isFinal (.inr hfinal.1)] at hid'
          cases hid'
      exact ⟨final, hlast, hid ▸ hfinal⟩
    · obtain hc | hc := List.mem_append.mp hc
      · exact absurd (.inl hcommit) (hbefore c hc)
      · obtain rfl := List.mem_singleton.mp hc
        exact absurd hcommit hfinal.1.not_isCommit

/-- The first command that ends a session is where it is. -/
theorem find_isFinal {before after : List SessionCommand} {final : SessionCommand}
    (hbefore : ∀ c ∈ before, ¬ c.IsFinal) (hfinal : final.IsFinal) :
    (before ++ final :: after).find? (fun c => decide c.IsFinal) = some final := by
  refine List.find?_eq_some_iff_append.mpr ⟨decide_eq_true hfinal, before, after, rfl,
    fun c hc => ?_⟩
  rw [decide_eq_false (hbefore c hc)]
  rfl

/-- Where that command was answered, nothing else is asked for. -/
theorem finalAnswered_iff {before after : List SessionCommand} {final : SessionCommand}
    (hbefore : ∀ c ∈ before, ¬ c.IsFinal) (hfinal : final.IsFinal) :
    FinalAnswered (before ++ final :: after) ↔ final.answer.isSome = true ∨
      ∀ c ∈ before ++ final :: after, ∀ id, c.created = some id → final.Abandons id := by
  have hfind : (before ++ final :: after).find? (fun c => decide c.IsFinal) = some final :=
    find_isFinal hbefore hfinal
  refine ⟨fun h => h final hfind, fun h final' hfinal' => ?_⟩
  obtain rfl := Option.some.inj (hfind.symm.trans hfinal')
  exact h

/-- The last one commits it or abandons it. -/
theorem isFinal_of_finalWords {installCmd : Bytes} {linked : Bool} {parent : ℕ}
    {final : SessionCommand} (h : final.words = finalWords args installCmd linked parent) :
    final.IsFinal := by
  cases linked with
  | true => exact .inl (isCommit_of_words h)
  | false => exact .inr (abandons_of_words h).1

/-- A session of a list that is abandoned is abandoned. -/
theorem abandons_of_abandonAll {installCmd : Bytes} {ids : List ℕ} {others : List SessionCommand}
    (h : AbandonAll installCmd ids others) : ∀ id ∈ ids, ∃ c ∈ others, c.Abandons id := by
  induction h with
  | nil => exact fun _ h => absurd h List.not_mem_nil
  | cons hc _ ih =>
    refine List.forall_mem_cons.mpr ⟨⟨_, List.mem_cons_self, abandons_of_words hc⟩,
      fun id hid => ?_⟩
    obtain ⟨c, hc', habandons⟩ := ih id hid
    exact ⟨c, List.mem_cons_of_mem _ hc', habandons⟩

/-- Several packages: the sessions are left behind where the last command finds no connection. -/
theorem allAbandoned_of_multiRun {code : ℤ} {cs : List SessionCommand} (h : MultiRun args code cs) :
    AllAbandoned code cs ↔ FinalAnswered cs := by
  cases h with
  | refused => exact iff_of_true (fun _ c hc => absurd hc List.not_mem_nil) fun _ h => by cases h
  | @uncreated create verb created =>
    refine iff_of_true (fun _ c hc id hid => ?_) fun final hfinal => ?_
    · obtain rfl := List.mem_singleton.mp hc
      rw [created] at hid
      cases hid
    · rw [List.find?_singleton, decide_eq_false (not_isFinal_of_create verb)] at hfinal
      cases hfinal
  | @stranded installCmd linked parent create final body session words answer =>
    have hbefore := session.before_notFinal
    rw [finalAnswered_iff hbefore (isFinal_of_finalWords args words), answer]
    constructor
    · intro h
      -- Only the last command can abandon anything.
      refine .inr fun c hc id hid => ?_
      obtain ⟨c', hc', habandons⟩ := h (by decide) c hc id hid
      obtain hc' | hc' := List.mem_append.mp hc'
      · exact absurd (.inr habandons.1) (hbefore c' hc')
      · exact List.mem_singleton.mp hc' ▸ habandons
    · rintro (h | h) _ c hc id hid
      · cases h
      · exact ⟨final, List.mem_append_right _ (List.mem_singleton.mpr rfl), h c hc id hid⟩
  | @committed installCmd parent create final body session words succeeds =>
    obtain ⟨line, hline, -⟩ := succeeds
    refine iff_of_true (fun h => absurd rfl h) ?_
    rw [finalAnswered_iff session.before_notFinal (isFinal_of_finalWords args words), hline]
    exact .inl rfl
  | @abandoned installCmd linked parent create final body others session words answer abandons =>
    have hfinal := isFinal_of_finalWords args words
    refine iff_of_true (fun _ c hc id hid => ?_)
      ((finalAnswered_iff session.before_notFinal hfinal).mpr (.inl answer))
    have hid' : id ∈ body.filterMap SessionCommand.created ++ [parent] := by
      obtain hc | hc := List.mem_append.mp hc
      · obtain rfl | hc := List.mem_cons.mp hc
        · rw [session.created] at hid
          exact List.mem_append_right _ (List.mem_singleton.mpr (Option.some.inj hid).symm)
        · exact List.mem_append_left _ (List.mem_filterMap.mpr ⟨c, hc, hid⟩)
      · have hends : c.IsFinal := (List.mem_cons.mp hc).elim (fun h => h ▸ hfinal) fun hc =>
          .inr (isAbandon_of_abandonAll abandons c hc)
        rw [created_of_isFinal hends] at hid
        cases hid
    obtain ⟨c', hc', habandons⟩ := abandons_of_abandonAll abandons id hid'
    exact ⟨c', List.mem_append_right _ (List.mem_cons_of_mem _ hc'), habandons⟩

/-- The sessions of a failed install are abandoned, in the one function exactly where its commit, if
it comes to one, succeeds, and in the other one exactly where the command that ends the session is
answered or has no other session to leave behind. -/
theorem sessions_abandoned_iff :
    (AbandonsSessions (installMultipleAppStreamed env args s) ↔
      CommitSucceeds (commandsIn (installMultipleAppStreamed env args s).trace)) ∧
    (AbandonsSessions (installMultiPackage env args s) ↔
      FinalAnswered (commandsIn (installMultiPackage env args s).trace)) :=
  ⟨abandonsSessions_iff (streamed_run args) (fun _ h => absurd h List.not_mem_nil)
      fun _ _ => allAbandoned_of_streamedRun args,
    abandonsSessions_iff (multi_run args) (fun _ h => by cases h)
      fun _ _ => allAbandoned_of_multiRun args⟩

end Commits

/-- A connection that accepts what is sent, over which this string and these bytes come. -/
def Connection.replying (string line : Bytes) : Connection :=
  { Connection.closed with
    switchSent := true
    serviceSent := true
    statuses := [some (lit "OKAY"), some (lit "OKAY")]
    transportId := some 1
    strings := [.ok string]
    reads := [some line]
    writes := [true] }

/-- The answers of a device with the `cmd` feature to one package of one byte: the session is
created, the package is written, and the commit fails. In front of each one the server tells its
version. -/
def commitRefused : List Connection :=
  let version := Connection.replying (lit "0029") []
  [version, .replying (lit "cmd") [],
    version, .replying [] (lit "Success: created install session [7]"),
    version, .replying [] (lit "Success: streamed 1 bytes"),
    version, .replying [] (lit "Failure [INSTALL_FAILED_INVALID_APK]")]

/-- After a commit that the device refuses, the session is not abandoned. -/
theorem commitRefused_not_abandoned :
    ¬ ∀ (env : ClientEnv) (args : List Bytes) (s : DeviceState),
      AbandonsSessions (installMultipleAppStreamed env args s) ∧
        AbandonsSessions (installMultiPackage env args s) := by
  intro hall
  let env : ClientEnv := { ClientEnv.bare with
    stat := fun _ _ => .ok 1
    openFile := fun _ _ => .ok [some (lit "a")] }
  let o := installMultipleAppStreamed env [lit "a.apk"] (ClientState.new commitRefused []).device
  have hresult : o.result = .ok 1 := by decide +kernel
  have hcreated : ∃ c ∈ commandsIn o.trace, c.created = some 7 := by decide +kernel
  have habandons : ∀ c ∈ commandsIn o.trace, ¬ c.IsAbandon := by decide +kernel
  obtain ⟨c, hc, hid⟩ := hcreated
  obtain ⟨c', hc', habandoned⟩ := (hall env [lit "a.apk"] _).1 1 hresult (by decide) c hc 7 hid
  exact habandons c' hc' habandoned.1

end AdbMobile.Client
