import AdbMobile.Lib.Batches
import AdbMobile.Client.Sync.Emits
import AdbMobile.Client.Sync.Walk

/-!
# The commands that make directories

A device with `shell_v2` and without `fixed_push_mkdir` has its directories made by `mkdir` commands
before the files are sent. A command takes as many directories as fit: one that would make it too
long goes into the next. So the commands are the batches of a greedy cut (`Batches`), each of them
has a directory, and what no single path makes too long does not get too long at all
(`mkdirDirectories_inBatches`).

`directory_list` has the directories on the way to the destination and then those of the walk
(`directoryList`), and nothing else in `copy_local_dir_remote` sends a command
(`copyLocalDirRemote_commands`).
-/

namespace AdbMobile.Sync

open ByteString PosixPath Batches

/-- The `mkdir` command for a batch of directories. -/
def mkdirCommand (env : SyncEnv) (batch : List Bytes) : Bytes :=
  lit "mkdir" ++ batch.flatMap fun dir => lit " " ++ env.escapeArg dir

/-- The command of a call of `send_shell_command`. -/
def SyncEvent.command : SyncEvent → Option Bytes
  | .shellCommand cmd => some cmd
  | _ => none

/-- The commands that a run sends. -/
def shellCommands (t : List SyncEvent) : List Bytes := t.filterMap SyncEvent.command

/-- What the commands should be for a list of directories: `mkdir` with one directory or more, none
of them too long, and all together with the directories of the list, in order. -/
def InBatches (env : SyncEnv) (directoryList commands : List Bytes) : Prop :=
  ∃ batches : List (List Bytes), batches.flatten = directoryList ∧
    commands = batches.map (mkdirCommand env) ∧ (∀ batch ∈ batches, batch ≠ []) ∧
    ∀ command ∈ commands, command.length ≤ 32769

/-- The path of the directory is not too long. -/
def SyncEnv.Short (env : SyncEnv) (dir : Bytes) : Prop := (env.escapeArg dir).length ≤ 16384

/-- The directory goes into the command so far. -/
def SyncEnv.fits (env : SyncEnv) (batch : List Bytes) (dir : Bytes) : Bool :=
  (mkdirCommand env batch).length + (env.escapeArg dir).length ≤ 32768

/-! ## The loop -/

section Loop

variable (env : SyncEnv)

@[simp] theorem shellCommands_append (t t' : List SyncEvent) :
    shellCommands (t ++ t') = shellCommands t ++ shellCommands t' := List.filterMap_append

theorem mkdirCommand_nil : mkdirCommand env [] = lit "mkdir" := List.append_nil _

theorem mkdirCommand_concat (batch : List Bytes) (dir : Bytes) :
    mkdirCommand env (batch ++ [dir]) = mkdirCommand env batch ++ lit " " ++ env.escapeArg dir := by
  simp only [mkdirCommand, List.flatMap_append, List.flatMap_singleton, List.append_assoc]

theorem length_mkdirCommand_concat (batch : List Bytes) (dir : Bytes) :
    (mkdirCommand env (batch ++ [dir])).length =
      (mkdirCommand env batch).length + (env.escapeArg dir).length + 1 := by
  have hspace : (lit " ").length = 1 := by decide
  rw [mkdirCommand_concat, List.length_append, List.length_append, hspace]
  omega

/-- A command is `mkdir` alone only where it has no directory. -/
theorem mkdirCommand_eq_iff (batch : List Bytes) :
    mkdirCommand env batch = lit "mkdir" ↔ batch = [] := by
  constructor
  · intro h
    cases batch with
    | nil => rfl
    | cons dir batch =>
      have hlength := congrArg List.length h
      have hspace : (lit " ").length = 1 := by decide
      rw [mkdirCommand, List.length_append, List.flatMap_cons, List.length_append,
        List.length_append, hspace] at hlength
      omega
  · rintro rfl
    exact mkdirCommand_nil env

/-- The loop emits commands and errors, and leaves everything as it is. -/
theorem mkdirDirectories_runs (dirs : List Bytes) : ∀ cmd c,
    Prog.Runs (mkdirDirectories env cmd dirs) c fun _ c' t => c' = c ∧ ∀ e ∈ t,
      (∃ cmd, e = .shellCommand cmd) ∨ (∃ text, e = .captured text) ∨ ∃ text, e = .error text := by
  induction dirs with
  | nil =>
    intro cmd c
    unfold mkdirDirectories
    split
    · exact ⟨true, rfl, rfl, fun e he => .inl ⟨cmd, List.mem_singleton.mp he⟩⟩
    · exact ⟨true, rfl, rfl, fun e he => absurd he List.not_mem_nil⟩
  | cons dir dirs ih =>
    intro cmd c
    unfold mkdirDirectories
    dsimp only
    split
    · refine ⟨false, rfl, rfl, fun e he => ?_⟩
      obtain rfl | he := List.mem_cons.mp he
      · exact .inr (.inl ⟨_, rfl⟩)
      · exact .inr (.inr ⟨_, List.mem_singleton.mp he⟩)
    · unfold dispatchLong
      split
      · refine .bind (M := fun _ c' t => c' = c ∧ t = [.shellCommand cmd]) ⟨_, rfl, rfl, rfl⟩
          fun cmd' c₁ t₁ ⟨hc₁, ht₁⟩ => ?_
        subst hc₁ ht₁
        refine (ih _ c₁).mono fun _ c' t ⟨hc', h⟩ => ⟨hc', fun e he => ?_⟩
        obtain rfl | he := List.mem_cons.mp he
        · exact .inl ⟨cmd, rfl⟩
        · exact h e he
      · exact ih _ c

section Emits

variable {A : SyncEvent → Prop} [AllowsTransfer A] (hshell : ∀ cmd, A (.shellCommand cmd))

include hshell

theorem emits_mkdirDirectories (cmd : Bytes) (dirs : List Bytes) :
    Prog.Keeps (EmitsOnly A) (mkdirDirectories env cmd dirs) := fun c e he => by
  obtain ⟨_, _, _, hevents⟩ := mkdirDirectories_runs env dirs cmd c
  obtain ⟨cmd, rfl⟩ | ⟨_, rfl⟩ | ⟨_, rfl⟩ := hevents e he
  · exact hshell cmd
  · exact AllowsTransfer.of_transfer _ rfl
  · exact AllowsTransfer.of_transfer _ rfl

/-- A directory is copied by commands, requests for status, and what is done with the list. -/
theorem emits_copyLocalDirRemote {P : SyncMessage → Prop} [AllowsWrites P A] [AllowsWalk A]
    (hP : AllowsStat P) {lpath rpath : Bytes} (hl : A (.back lpath)) (hr : A (.back rpath))
    {listOnly : Bool} {compression : CompressionType} {dryRun : Bool} (hpush : ∀ fileList,
      Prog.Keeps (EmitsOnly A) (pushList env listOnly compression dryRun fileList))
    (tree : LocalTree) (checkTimes : Bool) :
    Prog.Keeps (EmitsOnly A)
      (copyLocalDirRemote env lpath rpath tree checkTimes listOnly compression dryRun) := by
  have hancestors : ∀ path, Prog.Keeps (EmitsOnly A) (remoteAncestors path) := by
    intro path
    unfold remoteAncestors
    cases ancestors (path.length + 1) path with
    | none => exact .exit emits_composes _
    | some paths => exact emits_pure _
  refine emits_ensure_bind hl hr (emits_bind (hancestors _) fun directoryList => emits_bind
    (emits_localBuildList env (emits_withSeparator _) (emits_withSeparator _) _ _) fun r =>
      .ite (fun _ => emits_pure false) fun _ => ?_)
  refine .ite (fun _ => emits_bind (emits_mkdirDirectories env hshell _ _) fun made => ?_) fun _ =>
    emits_bind (emits_pure true) fun made => ?_
  -- What follows the directories is the same, whether or not they were made.
  all_goals
    exact .ite (fun _ => emits_pure false) fun _ => emits_checkAndPush env hP hpush _ _

end Emits

/-- Where no path is too long, the loop sends the batches of the directories, from the command so
far on. -/
theorem mkdirDirectories_short (dirs : List Bytes) (hshort : ∀ dir ∈ dirs, env.Short dir) :
    ∀ batch c, mkdirDirectories env (mkdirCommand env batch) dirs c =
      ⟨.ok true, c, (batches env.fits batch dirs).map fun b => .shellCommand (mkdirCommand env b)⟩ := by
  induction dirs with
  | nil =>
    intro batch c
    rw [mkdirDirectories, batches]
    by_cases hbatch : batch = []
    · subst hbatch
      rw [if_neg (not_not.mpr (mkdirCommand_nil env))]
      rfl
    · rw [if_pos (mt (mkdirCommand_eq_iff env batch).mp hbatch), if_neg (by simpa using hbatch)]
      rfl
  | cons dir dirs ih =>
    intro batch c
    have hdir : ¬ 16384 < (env.escapeArg dir).length := Nat.not_lt.mpr (hshort dir List.mem_cons_self)
    have hrest := ih fun d hd => hshort d (List.mem_cons_of_mem dir hd)
    rw [mkdirDirectories, if_neg hdir, dispatchLong, batches]
    by_cases hfits : env.fits batch dir = true
    · have hroom : ¬ 32768 < (mkdirCommand env batch).length + (env.escapeArg dir).length :=
        Nat.not_lt.mpr (of_decide_eq_true hfits)
      rw [if_neg hroom, if_pos hfits, Prog.bind_pure_apply, ← mkdirCommand_concat]
      exact hrest _ c
    · have hlong : 32768 < (mkdirCommand env batch).length + (env.escapeArg dir).length :=
        Nat.lt_of_not_le fun h => hfits (decide_eq_true h)
      have hopen := mkdirCommand_concat env [] dir
      rw [mkdirCommand_nil] at hopen
      rw [if_pos hlong, if_neg hfits, Prog.bind_bind_apply, Prog.bind_emit_apply,
        Prog.bind_pure_apply, ← hopen, List.nil_append, hrest]
      rfl

/-- The workaround sends the directories in batches. -/
theorem mkdirDirectories_inBatches (dirs : List Bytes) (hshort : ∀ dir ∈ dirs, env.Short dir)
    (c : SyncConnection) :
    Prog.Runs (mkdirDirectories env (lit "mkdir") dirs) c fun made c' t =>
      made = true ∧ c' = c ∧ InBatches env dirs (shellCommands t) := by
  have hrun := mkdirDirectories_short env dirs hshort [] c
  rw [mkdirCommand_nil] at hrun
  rw [Prog.Runs, hrun]
  have hcommands : shellCommands ((batches env.fits [] dirs).map fun b =>
      .shellCommand (mkdirCommand env b)) = (batches env.fits [] dirs).map (mkdirCommand env) := by
    rw [shellCommands, List.filterMap_map]
    exact congrFun List.filterMap_eq_map' _
  -- An empty command has room for any path that is not too long.
  have halone : ∀ dir ∈ dirs, env.fits [] dir := by
    intro dir hdir
    have hlength := hshort dir hdir
    have hmkdir : (mkdirCommand env []).length = 5 := by rw [mkdirCommand_nil]; decide
    rw [SyncEnv.Short] at hlength
    rw [SyncEnv.fits, decide_eq_true_eq, hmkdir]
    omega
  have hkeep := batches_keep (P := fun b => (mkdirCommand env b).length ≤ 32769) halone
    (fun batch dir _ hfits => by
      rw [SyncEnv.fits, decide_eq_true_eq] at hfits
      rw [length_mkdirCommand_concat]
      omega) (fun h => absurd rfl h)
  refine ⟨true, rfl, rfl, rfl, batches env.fits [] dirs, batches_flatten env.fits dirs [], hcommands,
    fun b hb => (hkeep b hb).1, fun command hcommand => ?_⟩
  rw [hcommands] at hcommand
  obtain ⟨b, hb, rfl⟩ := List.mem_map.mp hcommand
  exact (hkeep b hb).2

end Loop

/-! ## The list of directories -/

/-- The directories below a directory that the walk puts on its list. -/
def LocalTree.directories (rpath : Bytes) : LocalTree → List Bytes
  | .failed _ | .nil => []
  | .entry name lstat _ sub rest =>
    (if isSubdirectory name lstat then
      subdirectory rpath name :: sub.directories (subdirectory rpath name)
    else []) ++ rest.directories rpath

/-- `directory_list` after the walk, where the loop to the root ends. -/
def directoryList (rpath : Bytes) (tree : LocalTree) : Option (List Bytes) :=
  (ancestors ((withSeparator rpath).length + 1) (withSeparator rpath)).map fun paths =>
    paths.reverse ++ tree.directories (withSeparator rpath)

/-- The directories that `copy_local_dir_remote` makes with commands. -/
def SyncEnv.madeDirectories (env : SyncEnv) (rpath : Bytes) (tree : LocalTree) : List Bytes :=
  if env.needsMkdir && tree.opens then (directoryList rpath tree).getD [] else []

section Walk

variable (env : SyncEnv)

theorem openAndList_yields (lpath rpath : Bytes) (lists : LocalLists) (tree : LocalTree) :
    Prog.Yields (openAndList env lpath rpath lists tree) fun r =>
      r.1 = tree.opens ∧ r.2.directoryList = lists.directoryList := by
  cases tree with
  | failed e =>
    exact .bind (.trivial _) fun _ _ => .bind (.trivial _) fun _ _ => .bind (.trivial _) fun _ _ =>
      .pure ⟨rfl, rfl⟩
  | nil => exact .bind (.trivial _) fun _ _ => .pure ⟨rfl, rfl⟩
  | entry => exact .bind (.trivial _) fun _ _ => .pure ⟨rfl, rfl⟩

theorem recurseDirs_yields (tree : LocalTree) : ∀ lpath rpath lists,
    Prog.Yields (recurseDirs env lpath rpath lists tree) fun lists' =>
      lists'.directoryList = lists.directoryList ++ tree.directories rpath := by
  induction tree with
  | failed e => exact fun _ _ _ => .pure (List.append_nil _).symm
  | nil => exact fun _ _ _ => .pure (List.append_nil _).symm
  | entry name lstat file sub rest ihsub ihrest =>
    intro lpath rpath lists
    unfold recurseDirs LocalTree.directories
    split
    · refine .bind (openAndList_yields env _ _ _ sub) ?_
      rintro ⟨ok, lists₁⟩ h₁
      refine .bind (ihsub _ _ lists₁) fun lists₂ h₂ s lists₃ h₃ => ?_
      calc lists₃.directoryList
          = lists₂.directoryList ++ rest.directories rpath := ihrest lpath rpath lists₂ s lists₃ h₃
        _ = lists.directoryList ++ [subdirectory rpath name] ++
              sub.directories (subdirectory rpath name) ++ rest.directories rpath := by rw [h₂, h₁.2]
        _ = _ := by simp only [List.append_assoc, List.cons_append, List.nil_append]
    · exact ihrest lpath rpath lists

/-- The walk puts the directories of the tree behind those of the list. -/
theorem localBuildList_yields (lists : LocalLists) (lpath rpath : Bytes) (tree : LocalTree) :
    Prog.Yields (localBuildList env lists lpath rpath tree) fun r =>
      r.1 = tree.opens ∧
        (r.1 = true → r.2.directoryList = lists.directoryList ++ tree.directories rpath) := by
  refine .bind (openAndList_yields env lpath rpath lists tree) ?_
  rintro ⟨ok, lists₁⟩ h₁
  refine .ite (fun hfailed => ?_) fun hok => ?_
  · have hfalse : ok = false := by simpa using hfailed
    exact .pure ⟨hfalse ▸ h₁.1, fun h => by cases h⟩
  · have htrue : ok = true := by simpa using hok
    refine .bind (recurseDirs_yields env tree lpath rpath lists₁) fun lists₂ h₂ =>
      .pure ⟨htrue ▸ h₁.1, fun _ => ?_⟩
    rw [h₂, h₁.2]

end Walk

/-! ## The whole function -/

/-- The event sends no command. -/
def SyncEvent.NoCommand (e : SyncEvent) : Prop := e.command = none

instance : AllowsTransfer SyncEvent.NoCommand where
  of_transfer e he := by
    cases e with
    | shellCommand => cases he
    | _ => rfl

instance : AllowsWrites (fun _ => True) SyncEvent.NoCommand where
  of_wrote _ _ := rfl

theorem shellCommands_eq_nil {t : List SyncEvent} :
    shellCommands t = [] ↔ ∀ e ∈ t, e.NoCommand := List.filterMap_eq_nil_iff

/-- After a run that sends no command, the commands are those of the rest. -/
theorem commands_bind {α β : Type} {p : SyncM α} {f : α → SyncM β} {c : SyncConnection}
    {Q : List Bytes → Prop}
    (h : Prog.Runs p c fun a c' t => shellCommands t = [] ∧ Q (shellCommands (f a c').trace)) :
    Q (shellCommands ((p >>= f) c).trace) := by
  obtain ⟨a, ha, hnone, hQ⟩ := h
  rwa [Prog.bind_apply_ok ha, Prog.after_trace, shellCommands_append, hnone, List.nil_append]

/-- Before a run that sends no command, they are those of the start. -/
theorem commands_bind_left {α β : Type} {p : SyncM α} {f : α → SyncM β} (c : SyncConnection)
    (hf : ∀ a, Prog.Keeps (EmitsOnly SyncEvent.NoCommand) (f a)) :
    shellCommands ((p >>= f) c).trace = shellCommands (p c).trace := by
  cases hp : (p c).result with
  | error x => rw [Prog.bind_apply_error hp]
  | ok a =>
    rw [Prog.bind_apply_ok hp, Prog.after_trace, shellCommands_append,
      shellCommands_eq_nil.mpr (hf a _), List.append_nil]

section Function

variable (env : SyncEnv)

/-- The walk sends no command. -/
theorem Walked.commands {us : List Bytes} {c c' : SyncConnection} {t : List SyncEvent}
    (h : Walked us c t c') : shellCommands t = [] := by
  refine shellCommands_eq_nil.mpr fun e he => ?_
  obtain hback | ⟨path, rfl⟩ := h.events e he
  · cases e <;> first | rfl | cases hback
  · rfl

theorem inBatches_nil : InBatches env [] [] := ⟨[], rfl, rfl, by simp, by simp⟩

/-- After the walk, the commands are those of the workaround. -/
theorem commands_afterWalk {rest : Bool → SyncM Bool}
    (hrest : ∀ made, Prog.Keeps (EmitsOnly SyncEvent.NoCommand) (rest made)) {dirs : List Bytes}
    (hshort : env.needsMkdir = true → ∀ dir ∈ dirs, env.Short dir) (c : SyncConnection) :
    InBatches env (if env.needsMkdir then dirs else []) (shellCommands ((if env.needsMkdir then
      mkdirDirectories env (lit "mkdir") dirs >>= rest else pure true >>= rest) c).trace) := by
  cases hneeds : env.needsMkdir with
  | false =>
    rw [if_neg Bool.false_ne_true, if_neg Bool.false_ne_true, Prog.bind_pure_apply,
      shellCommands_eq_nil.mpr (hrest true c)]
    exact inBatches_nil env
  | true =>
    obtain ⟨made, -, -, -, hbatches⟩ := mkdirDirectories_inBatches env dirs (hshort hneeds) c
    rwa [if_pos rfl, if_pos rfl, commands_bind_left c hrest]

/-- `copy_local_dir_remote` sends the directories that it makes in batches, and no other
command. -/
theorem copyLocalDirRemote_commands (lpath rpath : Bytes) (tree : LocalTree)
    (checkTimes listOnly : Bool) (compression : CompressionType) (dryRun : Bool)
    (hshort : ∀ dir ∈ env.madeDirectories rpath tree, env.Short dir) (c : SyncConnection) :
    InBatches env (env.madeDirectories rpath tree) (shellCommands
      (copyLocalDirRemote env lpath rpath tree checkTimes listOnly compression dryRun c).trace) := by
  rw [SyncEnv.madeDirectories, directoryList] at *
  refine commands_bind ⟨(withSeparator lpath, withSeparator rpath), rfl, rfl, ?_⟩
  dsimp only
  rw [remoteAncestors]
  cases hroot : ancestors ((withSeparator rpath).length + 1) (withSeparator rpath) with
  | none =>
    simp only [Option.map_none, Option.getD_none, ite_self, Prog.bind_exit_apply]
    exact inBatches_nil env
  | some paths =>
    rw [hroot] at hshort
    refine commands_bind ⟨paths.reverse, rfl, rfl, ?_⟩
    obtain ⟨⟨ok, lists⟩, hwalk, ⟨hopens, -⟩, hwalked⟩ :=
      localBuildList_runs env ⟨[], paths.reverse⟩ (withSeparator lpath) (withSeparator rpath) tree c
    obtain ⟨-, hlist⟩ := localBuildList_yields env _ _ _ _ _ _ hwalk
    refine commands_bind ⟨_, hwalk, hwalked.commands, ?_⟩
    dsimp only at hopens hlist ⊢
    subst hopens
    cases hopens : tree.opens with
    | false =>
      rw [Bool.and_false]
      exact inBatches_nil env
    | true =>
      rw [hopens, Bool.and_true, Option.map_some, Option.getD_some, ← hlist hopens] at hshort
      rw [Bool.and_true, Option.map_some, Option.getD_some, ← hlist hopens]
      refine commands_afterWalk env (fun made => ?_) (fun hneeds => ?_) _
      · exact .ite (fun _ => emits_pure false) fun _ =>
          emits_checkAndPush env (fun _ _ _ _ => trivial)
            (emits_pushList env (fun _ => trivial) _ _ _) _ _
      · rwa [if_pos hneeds] at hshort

end Function

/-- Where no path is too long, the workaround sends every list of directories in batches; and the
commands of `copy_local_dir_remote` are those for its own list. -/
theorem mkdir_commands_cover (env : SyncEnv) :
    (∀ (directoryList : List Bytes) (c : SyncConnection),
      (∀ dir ∈ directoryList, (env.escapeArg dir).length ≤ 16384) →
        Prog.Runs (mkdirDirectories env (lit "mkdir") directoryList) c fun made c' t =>
          made = true ∧ c' = c ∧ InBatches env directoryList (shellCommands t)) ∧
    ∀ (lpath rpath : Bytes) (tree : LocalTree) (checkTimes listOnly : Bool)
      (compression : CompressionType) (dryRun : Bool) (c : SyncConnection),
      (∀ dir ∈ env.madeDirectories rpath tree, (env.escapeArg dir).length ≤ 16384) →
        InBatches env (env.madeDirectories rpath tree) (shellCommands
          (copyLocalDirRemote env lpath rpath tree checkTimes listOnly compression dryRun c).trace) :=
  ⟨fun directoryList c hshort => mkdirDirectories_inBatches env directoryList hshort c,
    fun lpath rpath tree checkTimes listOnly compression dryRun c hshort =>
      copyLocalDirRemote_commands env lpath rpath tree checkTimes listOnly compression dryRun hshort c⟩

/-- An argument in quotes, with each quote in it outside of them. -/
def quoteArg (arg : Bytes) : Bytes :=
  lit "'" ++ (arg.flatMap fun b => if b = 39 then lit "'\\''" else [b]) ++ lit "'"

/-- A device that needs its directories made. -/
def shellV2Env : SyncEnv := { SyncEnv.calm [lit "shell_v2"] with escapeArg := quoteArg }

/-- An entry that is a directory, with what is in it. -/
def directoryEntry (name : Bytes) (sub : LocalTree) : LocalTree :=
  .entry name (.ok ⟨sIfdir, 0, 0⟩) {
    target := .error (.other 22)
    stat := .ok ⟨sIfdir, 0, 0⟩
    contents := .error (.other 21)
    statAgain := .ok ⟨sIfdir, 0, 0⟩
    openError := some (.other 21)
    reads := []
    readError := none
    encodes := fun _ => ⟨[], false⟩ } sub .nil

theorem length_quoteArg_replicate (n : ℕ) {b : UInt8} (hb : b ≠ 39) :
    (quoteArg (List.replicate n b)).length = n + 2 := by
  have hquote : (lit "'").length = 1 := by decide
  rw [quoteArg, List.flatMap_replicate, if_neg hb]
  simp only [List.length_append, hquote, List.flatten_replicate_singleton, List.length_replicate]
  omega

/-- Three paths of which only two fit into one command. -/
def longPaths : List Bytes := [97, 98, 99].map (List.replicate 16000)

/-- Two directories, one in the other. -/
def nestedTree : LocalTree := directoryEntry (lit "a") (directoryEntry (lit "b") .nil)

/-- The long paths are sent in batches, and so are the directories of a tree. -/
theorem mkdir_commands_cover_nested :
    (Prog.Runs (mkdirDirectories shellV2Env (lit "mkdir") longPaths) (.new [] [] fun _ => none)
      fun made c' t => made = true ∧ c' = .new [] [] (fun _ => none) ∧
        InBatches shellV2Env longPaths (shellCommands t)) ∧
    InBatches shellV2Env [lit "/sdcard/", lit "/sdcard/a/", lit "/sdcard/a/b/"] (shellCommands
      (copyLocalDirRemote shellV2Env (lit "d") (lit "/sdcard") nestedTree false false .none false
        (.new [] [] fun _ => none)).trace) := by
  have hlong : ∀ dir ∈ longPaths, (shellV2Env.escapeArg dir).length ≤ 16384 := by
    intro dir hdir
    obtain ⟨b, hb, rfl⟩ := List.mem_map.mp hdir
    have hquote : b ≠ 39 := by
      rintro rfl
      exact absurd hb (by decide)
    calc (quoteArg (List.replicate 16000 b)).length
        = 16000 + 2 := length_quoteArg_replicate 16000 hquote
      _ ≤ 16384 := by decide
  have hmade : shellV2Env.madeDirectories (lit "/sdcard") nestedTree =
      [lit "/sdcard/", lit "/sdcard/a/", lit "/sdcard/a/b/"] := by decide +kernel
  have hshort : ∀ dir ∈ shellV2Env.madeDirectories (lit "/sdcard") nestedTree,
      (shellV2Env.escapeArg dir).length ≤ 16384 := by
    rw [hmade]
    decide +kernel
  refine ⟨(mkdir_commands_cover shellV2Env).1 longPaths _ hlong, ?_⟩
  rw [← hmade]
  exact (mkdir_commands_cover shellV2Env).2 _ _ nestedTree false false .none false _ hshort

end AdbMobile.Sync
