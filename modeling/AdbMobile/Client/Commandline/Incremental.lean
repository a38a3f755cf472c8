import Mathlib.Data.List.DropRight
import AdbMobile.Client.Commandline.HandledQuery

/-!
# The arguments of an incremental install

`install_app_incremental` sorts its arguments in two ways at once. The files are a range, from the
first APK to the last, and the arguments passed on are chosen one by one: what is neither an APK nor
starts with `install`. A command that would keep every argument gives the APKs as files and passes
the rest on (`keepingInstall`). The two are the same exactly where the APKs stand together and no
other argument starts with `install` (`keepsArguments_iff`).
-/

namespace AdbMobile.Client

open ByteString

/-! ## The two commands -/

/-- An argument that is taken for an APK. -/
def isApk (arg : Bytes) : Bool := endsWithIgnoreCase arg (lit ".apk")

/-- The arguments from the first APK to the last. -/
def apkRange (args : List Bytes) : List Bytes :=
  (args.dropWhile fun arg => !isApk arg).rdropWhile fun arg => !isApk arg

/-- The end of `install_app_incremental`: the call of `incremental::install`, after the check that a
silent installation makes. -/
def passIncremental (env : ClientEnv) (files passthroughArgs : List Bytes) (silent : Bool) :
    DeviceM ℤ := do
  if silent && !env.canInstall files then return -1
  else if !env.incrementalInstall files passthroughArgs silent then return -1
  else return 0

/-- Where no argument is an APK. -/
def refuseNoApk (silent : Bool) : DeviceM ℤ := do
  onWire (if silent then pure ()
    else stderr (lit "error: need at least one APK file on command line\n"))
  return -1

/-- An incremental install that keeps every argument: the APKs are the files, and the others are
passed on. -/
def keepingInstall (env : ClientEnv) (args : List Bytes) (silent : Bool) : DeviceM ℤ :=
  if args.any isApk then
    passIncremental env (args.filter isApk) (args.filter fun arg => !isApk arg) silent
  else refuseNoApk silent

/-- `install_app_incremental`, given the command name or none before the arguments, keeps each of
the arguments, whatever `incremental::install` does with them. -/
def KeepsArguments (command args : List Bytes) : Prop :=
  ∀ (env : ClientEnv) (silent : Bool),
    installAppIncremental env (command ++ args) silent = keepingInstall env args silent

/-- The name of an install command, or no argument where it has been removed. -/
def IsCommandName (command : List Bytes) : Prop :=
  command = [] ∨ ∃ name, command = [name] ∧ lit "install" <+: name ∧ isApk name = false

/-- The APKs stand together. -/
def ApksTogether (args : List Bytes) : Prop :=
  ∃ before apks after, args = before ++ apks ++ after ∧
    (∀ arg ∈ before, isApk arg = false) ∧ (∀ arg ∈ apks, isApk arg = true) ∧
      ∀ arg ∈ after, isApk arg = false

/-! ## What the code passes -/

/-- The range that the code takes out of its array. -/
theorem take_drop_apks {args : List Bytes} (hapk : ∃ arg ∈ args, isApk arg = true) :
    (args.drop (args.findIdx isApk)).take
        (args.length - 1 - args.reverse.findIdx isApk + 1 - args.findIdx isApk) =
      apkRange args := by
  -- The code counts the arguments before the first APK, and those behind the last.
  have hfirst : args.findIdx isApk < args.length := List.findIdx_lt_length_of_exists hapk
  have hdrop : (args.dropWhile fun arg => !isApk arg) = args.drop (args.findIdx isApk) := by
    rw [List.dropWhile_eq_drop_findIdx_not]
    simp
  have hhead : isApk args[args.findIdx isApk] = true := List.findIdx_getElem
  have hin : ∃ arg ∈ (args.drop (args.findIdx isApk)).reverse, isApk arg = true := by
    refine ⟨_, ?_, hhead⟩
    rw [List.mem_reverse, List.drop_eq_getElem_cons hfirst]
    exact List.mem_cons_self
  have hlast := List.findIdx_lt_length_of_exists hin
  have hreverse : args.reverse.findIdx isApk =
      (args.drop (args.findIdx isApk)).reverse.findIdx isApk := by
    conv_lhs => rw [← List.take_append_drop (args.findIdx isApk) args, List.reverse_append,
      List.findIdx_append, if_pos hlast]
  have hrdrop : apkRange args = (args.drop (args.findIdx isApk)).take
      ((args.drop (args.findIdx isApk)).length -
        (args.drop (args.findIdx isApk)).reverse.findIdx isApk) := by
    rw [apkRange, hdrop, List.rdropWhile, List.dropWhile_eq_drop_findIdx_not, List.reverse_drop]
    simp
  rw [hrdrop, hreverse]
  rw [List.length_reverse, List.length_drop] at hlast
  rw [List.length_drop]
  congr 1
  omega

/-- The code passes the range of the APKs, and what is neither an APK nor starts with `install`. -/
theorem installAppIncremental_eq (env : ClientEnv) (args : List Bytes) (silent : Bool) :
    installAppIncremental env args silent =
      if args.any isApk then
        passIncremental env (apkRange args)
          (args.filter fun arg => !isApk arg && !(lit "install").isPrefixOf arg) silent
      else refuseNoApk silent := by
  unfold installAppIncremental
  dsimp only
  split
  · rename_i hnone
    have hnoApk : ¬ args.any isApk = true := by
      rw [Bool.not_eq_true, List.any_eq_false]
      intro arg harg hapk
      have hno : isApk arg = false := List.findIdx?_eq_none_iff.mp hnone arg harg
      rw [hno] at hapk
      cases hapk
    rw [if_neg hnoApk]
    rfl
  · rename_i firstApk hfirst
    obtain ⟨hlt, hfirstApk⟩ := List.findIdx?_eq_some_iff_findIdx_eq.mp hfirst
    have hapk : ∃ arg ∈ args, isApk arg = true :=
      ⟨args[firstApk], List.getElem_mem hlt, by subst hfirstApk; exact List.findIdx_getElem⟩
    rw [if_pos (List.any_eq_true.mpr hapk), ← take_drop_apks hapk, ← hfirstApk]
    rfl

/-! ## What is kept -/

/-- Arguments that are no APKs in front do not change the range. -/
theorem apkRange_append {command : List Bytes} (args : List Bytes)
    (hcommand : ∀ arg ∈ command, isApk arg = false) :
    apkRange (command ++ args) = apkRange args := by
  unfold apkRange
  rw [List.dropWhile_append_of_pos fun arg harg => by rw [hcommand arg harg]; rfl]

/-- The range is the APKs exactly where they stand together. -/
theorem apkRange_eq_filter_iff (args : List Bytes) :
    apkRange args = args.filter isApk ↔ ApksTogether args := by
  constructor
  · -- What stands around the range is what the two searches passed over.
    intro heq
    refine ⟨args.takeWhile fun arg => !isApk arg, apkRange args,
      (args.dropWhile fun arg => !isApk arg).rtakeWhile fun arg => !isApk arg, ?_, ?_, ?_, ?_⟩
    · rw [List.append_assoc, apkRange, List.rdropWhile_append_rtakeWhile,
        List.takeWhile_append_dropWhile]
    · intro arg harg
      simpa using List.mem_takeWhile_imp harg
    · intro arg harg
      rw [heq] at harg
      exact (List.mem_filter.mp harg).2
    · intro arg harg
      simpa using List.mem_rtakeWhile_imp harg
  · rintro ⟨before, apks, after, rfl, hbefore, hapks, hafter⟩
    have hfilter : (before ++ apks ++ after).filter isApk = apks := by
      rw [List.filter_append, List.filter_append, List.filter_eq_self.mpr hapks,
        List.filter_eq_nil_iff.mpr fun arg harg => by simp [hbefore arg harg],
        List.filter_eq_nil_iff.mpr fun arg harg => by simp [hafter arg harg],
        List.nil_append, List.append_nil]
    have hdropAfter : ∀ l : List Bytes, (l ++ after).rdropWhile (fun arg => !isApk arg) =
        l.rdropWhile fun arg => !isApk arg := by
      intro l
      rw [List.rdropWhile, List.reverse_append, List.dropWhile_append_of_pos, List.rdropWhile]
      intro arg harg
      rw [hafter arg (List.mem_reverse.mp harg)]
      rfl
    rw [hfilter, List.append_assoc, apkRange_append _ hbefore, apkRange]
    -- Without an APK the search from the front passes over everything.
    cases apks with
    | nil =>
      have hnone : (after.dropWhile fun arg => !isApk arg) = [] :=
        List.dropWhile_eq_nil_iff.mpr fun arg harg => by simp [hafter arg harg]
      rw [List.nil_append, hnone, List.rdropWhile_nil]
    | cons apk apks =>
      have hfirst : isApk apk = true := hapks apk List.mem_cons_self
      rw [List.cons_append, List.dropWhile_cons_of_neg (by simp [hfirst]), ← List.cons_append,
        hdropAfter, List.rdropWhile_eq_self_iff]
      intro hne
      rw [hapks _ (List.getLast_mem hne)]
      simp

/-- What is passed on is every other argument exactly where none of them starts with `install`. -/
theorem passthrough_eq_filter_iff {command : List Bytes} (args : List Bytes)
    (hcommand : IsCommandName command) :
    ((command ++ args).filter fun arg => !isApk arg && !(lit "install").isPrefixOf arg) =
        args.filter (fun arg => !isApk arg) ↔
      ∀ arg ∈ args, isApk arg = false → ¬ lit "install" <+: arg := by
  have hnone : command.filter (fun arg => !isApk arg && !(lit "install").isPrefixOf arg) = [] := by
    obtain rfl | ⟨name, rfl, hinstall, -⟩ := hcommand
    · rfl
    · simp [hinstall]
  have hfilter : (args.filter fun arg => !isApk arg && !(lit "install").isPrefixOf arg) =
      (args.filter fun arg => !isApk arg).filter fun arg => !(lit "install").isPrefixOf arg := by
    rw [List.filter_filter]
    exact List.filter_congr fun arg _ => Bool.and_comm _ _
  rw [List.filter_append, hnone, List.nil_append, hfilter, List.filter_eq_self]
  constructor
  · intro hkept arg harg hapk
    have hno := hkept arg (List.mem_filter.mpr ⟨harg, by simp [hapk]⟩)
    rwa [Bool.not_eq_true', Bool.eq_false_iff, ne_eq, List.isPrefixOf_iff_prefix] at hno
  · intro hno arg harg
    obtain ⟨hmem, hapk⟩ := List.mem_filter.mp harg
    rw [Bool.not_eq_true', Bool.eq_false_iff, ne_eq, List.isPrefixOf_iff_prefix]
    exact hno arg hmem (by simpa using hapk)

/-- Two calls of `incremental::install` are the same for every environment only if they have the
same files and arguments. -/
theorem passIncremental_inj {files files' args args' : List Bytes}
    (heq : ∀ env, passIncremental env files args false = passIncremental env files' args' false) :
    files = files' ∧ args = args' := by
  -- An environment in which only the second call succeeds.
  let env : ClientEnv := { ClientEnv.bare with
    incrementalInstall := fun f a _ => decide (f = files' ∧ a = args') }
  by_contra hne
  have hfails : passIncremental env files args false = pure (-1) := by
    simp [passIncremental, env, hne]
  have hworks : passIncremental env files' args' false = pure 0 := by
    simp [passIncremental, env]
  have hpure : (pure (-1) : DeviceM ℤ) = pure 0 := by rw [← hfails, heq, hworks]
  have hresult := congrArg Outcome.result (congrFun hpure (ClientState.new [] []).device)
  exact absurd (Except.ok.inj hresult) (by decide)

/-- `install_app_incremental` keeps its arguments exactly where there is no APK, or else the APKs
stand together and no other argument starts with `install`. -/
theorem keepsArguments_iff {command : List Bytes} (args : List Bytes)
    (hcommand : IsCommandName command) :
    KeepsArguments command args ↔
      (∀ arg ∈ args, isApk arg = false) ∨
        (ApksTogether args ∧ ∀ arg ∈ args, isApk arg = false → ¬ lit "install" <+: arg) := by
  have hnoApk : ∀ arg ∈ command, isApk arg = false := by
    obtain rfl | ⟨name, rfl, -, hname⟩ := hcommand
    · simp
    · simpa using hname
  have hany : (command ++ args).any isApk = args.any isApk := by
    rw [List.any_append, List.any_eq_false.mpr fun arg harg => by simp [hnoApk arg harg],
      Bool.false_or]
  rw [← apkRange_eq_filter_iff, ← passthrough_eq_filter_iff args hcommand]
  by_cases hapk : args.any isApk = true
  · have hsome : ¬ ∀ arg ∈ args, isApk arg = false := by
      obtain ⟨arg, harg, htrue⟩ := List.any_eq_true.mp hapk
      intro hall
      rw [hall arg harg] at htrue
      cases htrue
    have hboth : ∀ env silent, (installAppIncremental env (command ++ args) silent =
        passIncremental env (apkRange args) ((command ++ args).filter fun arg =>
          !isApk arg && !(lit "install").isPrefixOf arg) silent) ∧
        keepingInstall env args silent = passIncremental env (args.filter isApk)
          (args.filter fun arg => !isApk arg) silent := by
      intro env silent
      constructor
      · rw [installAppIncremental_eq, hany, if_pos hapk, apkRange_append args hnoApk]
      · rw [keepingInstall, if_pos hapk]
    constructor
    · -- The two calls are the same in every environment, so they have the same arguments.
      intro hkeeps
      refine .inr (passIncremental_inj fun env => ?_)
      rw [← (hboth env false).1, ← (hboth env false).2]
      exact hkeeps env false
    · rintro (hnone | ⟨hfiles, hpassed⟩)
      · exact absurd hnone hsome
      · intro env silent
        rw [(hboth env silent).1, (hboth env silent).2, hfiles, hpassed]
  · -- Without an APK both refuse.
    have hnone : ∀ arg ∈ args, isApk arg = false := fun arg harg =>
      Bool.eq_false_iff.mpr fun htrue => hapk (List.any_eq_true.mpr ⟨arg, harg, htrue⟩)
    refine iff_of_true (fun env silent => ?_) (.inl hnone)
    rw [installAppIncremental_eq, hany, if_neg hapk, keepingInstall, if_neg hapk]

/-- Options in front of the APKs are kept. -/
theorem optionsFirst_kept : KeepsArguments [lit "install"]
    [lit "-r", lit "-t", lit "base.apk", lit "split.apk"] := by
  refine (keepsArguments_iff _ ?_).mpr (.inr ⟨?_, by decide⟩)
  · exact .inr ⟨_, rfl, by decide, by decide⟩
  · exact ⟨[lit "-r", lit "-t"], [lit "base.apk", lit "split.apk"], [], by decide, by decide,
      by decide, by decide⟩

/-- The installer that `-i` names is dropped where its name starts with `install`. -/
theorem installerName_dropped :
    ¬ KeepsArguments [] [lit "-i", lit "install.er", lit "base.apk"] := by
  intro hkeeps
  let env : ClientEnv := { ClientEnv.bare with
    incrementalInstall := fun _ args _ => decide (lit "install.er" ∈ args) }
  have hresult := congrArg Outcome.result
    (congrFun (hkeeps env false) (ClientState.new [] []).device)
  have hfails : (installAppIncremental env [lit "-i", lit "install.er", lit "base.apk"] false
      (ClientState.new [] []).device).result = .ok (-1) := rfl
  have hworks : (keepingInstall env [lit "-i", lit "install.er", lit "base.apk"] false
      (ClientState.new [] []).device).result = .ok 0 := rfl
  rw [List.nil_append, hfails, hworks] at hresult
  exact absurd (Except.ok.inj hresult) (by decide)

end AdbMobile.Client
