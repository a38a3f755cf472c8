import AdbMobile.Client.Bugreport

/-!
# The progress of a bug report

`ProcessLine` of `client/bugreport.cpp` computes a percentage from a line `PROGRESS:p/t` and hands
it to `UpdateProgress`, unless it is not zero and not more than the last one. The two numbers are
read by `std::stoi`, which throws where there is no number or one that is no `int`. They are
multiplied and divided as `int`s.

The callback ends without a fault exactly when the numbers of every such line can be read and used.
The percentages then increase, except that a zero is always shown: they decrease exactly when a zero
comes after a positive percentage (`bugreport_forward_iff`).
-/

namespace AdbMobile

open ByteString

/-! ## The percentages of the lines -/

/-- The percentages that are shown. -/
def percentages (t : List BugreportEvent) : List ℤ :=
  t.filterMap fun e => if let .progress _ percentage := e then some percentage else none

theorem percentages_append (t t' : List BugreportEvent) :
    percentages (t ++ t') = percentages t ++ percentages t' := List.filterMap_append

/-- Which of the percentages are shown after one. -/
def shownAfter : ℤ → List ℤ → List ℤ
  | _, [] => []
  | last, p :: ps => if p ≠ 0 ∧ p ≤ last then shownAfter last ps else p :: shownAfter p ps

/-- A negative percentage is not shown. -/
theorem shownAfter_nonneg (ps : List ℤ) : ∀ {last : ℤ}, 0 ≤ last → ∀ q ∈ shownAfter last ps,
    0 ≤ q := by
  induction ps with
  | nil => exact fun _ _ hq => absurd hq List.not_mem_nil
  | cons p ps ih =>
    intro last hlast q hq
    rw [shownAfter] at hq
    split at hq
    · exact ih hlast q hq
    · have hp : 0 ≤ p := by omega
      obtain rfl | hq := List.mem_cons.mp hq
      · exact hp
      · exact ih hp q hq

/-- The percentages increase exactly when no zero comes after a positive one. -/
theorem shownAfter_pairwise_iff (ps : List ℤ) : ∀ {last : ℤ}, 0 ≤ last →
    ((∀ q ∈ shownAfter last ps, last ≤ q) ∧ (shownAfter last ps).Pairwise (· ≤ ·) ↔
      (0 < last → ∀ q ∈ ps, q ≠ 0) ∧ ps.Pairwise fun p q => 0 < p → q ≠ 0) := by
  induction ps with
  | nil => simp [shownAfter]
  | cons p ps ih =>
    intro last hlast
    rw [shownAfter, List.pairwise_cons, List.forall_mem_cons]
    split
    · -- What is not shown is not zero, and positive only where what is shown is.
      obtain ⟨hp, hle⟩ := ‹p ≠ 0 ∧ p ≤ last›
      rw [ih hlast]
      constructor
      · rintro ⟨hzero, hrest⟩
        exact ⟨fun h => ⟨hp, hzero h⟩, fun q hq h => hzero (by omega) q hq, hrest⟩
      · rintro ⟨hzero, -, hrest⟩
        exact ⟨fun h => (hzero h).2, hrest⟩
    · -- What is shown takes the place of the last one.
      have hp : p = 0 ∨ last < p := by
        have := ‹¬ (p ≠ 0 ∧ p ≤ last)›
        omega
      have hrest := ih (show 0 ≤ p by omega)
      rw [List.pairwise_cons, List.forall_mem_cons]
      constructor
      · rintro ⟨⟨hle, -⟩, hshown⟩
        obtain ⟨hzero, hpairs⟩ := hrest.mp hshown
        exact ⟨fun h => ⟨by omega, hzero (by omega)⟩, fun q hq h => hzero h q hq, hpairs⟩
      · rintro ⟨hlast', hzero, hpairs⟩
        obtain ⟨hle, hshown⟩ := hrest.mpr ⟨fun h q hq => hzero q hq h, hpairs⟩
        have hstep : last ≤ p := by
          by_cases h : 0 < last
          · have := (hlast' h).1
            omega
          · omega
        exact ⟨⟨hstep, fun q hq => hstep.trans (hle q hq)⟩, hle, hshown⟩

/-- The percentage of a line that reports progress. -/
def linePercentage (showProgress : Bool) (line : Bytes) : Option ℤ :=
  if ProgressLine showProgress line then (progressPercentage line).toOption else none

/-- The program shows no progress, and leaves what is known of it. -/
def Silent {α : Type} (p : BugreportM α) : Prop := Prog.Obeys (fun c t c' =>
  (c'.showProgress = c.showProgress ∧ c'.lastProgressPercentage = c.lastProgressPercentage) ∧
    percentages t = []) p

theorem silent_composes : Prog.Composes fun (c : BugreportCallback) t c' =>
    (c'.showProgress = c.showProgress ∧ c'.lastProgressPercentage = c.lastProgressPercentage) ∧
      percentages t = [] where
  nil c := ⟨⟨rfl, rfl⟩, rfl⟩
  append h h' := ⟨⟨h'.1.1.trans h.1.1, h'.1.2.trans h.1.2⟩, by
    rw [percentages_append, h.2, h'.2, List.nil_append]⟩

theorem silent_modify {f : BugreportCallback → BugreportCallback}
    (hshow : ∀ c, (f c).showProgress = c.showProgress)
    (hlast : ∀ c, (f c).lastProgressPercentage = c.lastProgressPercentage) :
    Silent (Prog.modify f : BugreportM Unit) := fun c => ⟨(), rfl, ⟨hshow c, hlast c⟩, rfl⟩

theorem silent_emit {e : BugreportEvent} (h : percentages [e] = []) :
    Silent (Prog.emit e : BugreportM Unit) := fun _ => ⟨(), rfl, ⟨rfl, rfl⟩, h⟩

theorem silent_setSrcFile (path : Bytes) : Silent (setSrcFile path) := by
  have hmessage : ∀ action, Silent (setLineMessage action) := fun action =>
    silent_modify (fun _ => rfl) fun _ => rfl
  refine .bind silent_composes (silent_modify (fun _ => rfl) fun _ => rfl) fun _ => ?_
  refine .bind silent_composes (.get silent_composes) fun c => .ite (fun _ => ?_) fun _ => ?_
  · exact .bind silent_composes (silent_modify (fun _ => rfl) fun _ => rfl) fun _ => hmessage _
  · exact .pure silent_composes ()

/-- A line that reports no progress. -/
theorem processLine_silent {line : Bytes} {c : BugreportCallback}
    (h : ¬ ProgressLine c.showProgress line) : Prog.Runs (processLine line) c fun _ c' t =>
      (c'.showProgress = c.showProgress ∧ c'.lastProgressPercentage = c.lastProgressPercentage) ∧
        percentages t = [] := by
  by_cases hnil : line = []
  · rw [hnil]
    exact Prog.Obeys.pure silent_composes () c
  cases hpath : linePath line with
  | some path =>
    rw [processLine_path hpath]
    exact silent_setSrcFile path c
  | none =>
  by_cases hfail : FailLine line
  · obtain ⟨text, hfails⟩ := processLine_fail hfail c
    rw [Prog.Runs, hfails]
    exact ⟨(), rfl, ⟨rfl, rfl⟩, rfl⟩
  · rw [Prog.Runs, processLine_invalid hnil hpath hfail h]
    exact ⟨(), rfl, ⟨rfl, rfl⟩, rfl⟩

theorem linePercentage_of_ok {showProgress : Bool} {line : Bytes} {percentage : ℤ}
    (h : ProgressLine showProgress line) (hok : progressPercentage line = .ok percentage) :
    linePercentage showProgress line = some percentage := by
  rw [linePercentage, if_pos h, hok]
  rfl

/-- A line that is not faulty: what is shown from it on. -/
theorem processLine_percentages {line : Bytes} {c : BugreportCallback}
    (hfault : ¬ FaultyLine c.showProgress line) :
    Prog.Runs (processLine line) c fun _ c' t => c'.showProgress = c.showProgress ∧
      ∀ ps, shownAfter c.lastProgressPercentage
          ((linePercentage c.showProgress line).toList ++ ps) =
        percentages t ++ shownAfter c'.lastProgressPercentage ps := by
  by_cases hline : ProgressLine c.showProgress line
  · obtain ⟨percentage, hok⟩ : ∃ percentage, progressPercentage line = .ok percentage := by
      by_contra hnone
      exact hfault ⟨hline.1, hline.2, fun percentage hok => hnone ⟨percentage, hok⟩⟩
    rw [linePercentage_of_ok hline hok, Prog.Runs, (processLine_progress hline).2 percentage hok]
    split
    · exact ⟨(), rfl, rfl, fun ps => if_pos ‹_›⟩
    · exact ⟨(), rfl, rfl, fun ps => if_neg ‹_›⟩
  · refine (processLine_silent hline).mono ?_
    rintro _ c' t ⟨⟨hshow, hlast⟩, ht⟩
    refine ⟨hshow, fun ps => ?_⟩
    rw [linePercentage, if_neg hline, ht, hlast]
    rfl

/-- A line that is faulty ends the process. -/
theorem processLine_fault {line : Bytes} {c : BugreportCallback}
    (hfault : FaultyLine c.showProgress line) :
    ∃ fault, (processLine line c).result = .error fault := by
  obtain ⟨hshow, hstarts, hnone⟩ := hfault
  cases hpercentage : progressPercentage line with
  | error fault =>
    exact ⟨fault, by rw [(processLine_progress ⟨hshow, hstarts⟩).1 fault hpercentage]⟩
  | ok percentage => exact absurd hpercentage (hnone percentage)

/-- Lines that are not faulty are processed, and show their percentages; the first that is faulty
ends the process. -/
theorem processLines_percentages (lines : List Bytes) : ∀ c : BugreportCallback,
    ((∀ line ∈ lines, ¬ FaultyLine c.showProgress line) →
      Prog.Runs (processLines lines) c fun _ _ t => percentages t =
        shownAfter c.lastProgressPercentage (lines.filterMap (linePercentage c.showProgress))) ∧
    ((∃ line ∈ lines, FaultyLine c.showProgress line) →
      ∃ fault, (processLines lines c).result = .error fault) := by
  induction lines with
  | nil =>
    intro c
    exact ⟨fun _ => .pure rfl, fun ⟨_, hmem, _⟩ => absurd hmem List.not_mem_nil⟩
  | cons line lines ih =>
    intro c
    have hcons : processLines (line :: lines) c =
        (processLine line >>= fun _ => processLines lines) c := rfl
    -- The first line that is faulty ends the process, whatever the others are.
    by_cases hfault : FaultyLine c.showProgress line
    · obtain ⟨fault, hresult⟩ := processLine_fault hfault
      refine ⟨fun h => absurd hfault (h line List.mem_cons_self), fun _ => ⟨fault, ?_⟩⟩
      rw [hcons, Prog.bind_apply_error hresult]
    · obtain ⟨_, hok, hshow, hshown⟩ := processLine_percentages hfault
      obtain ⟨hruns, hfaults⟩ := ih (processLine line c).state
      rw [hshow] at hruns hfaults
      constructor
      · intro h
        obtain ⟨_, hok', ht⟩ := hruns fun line' hmem => h line' (List.mem_cons_of_mem _ hmem)
        rw [Prog.Runs, hcons, Prog.bind_apply_ok hok]
        refine ⟨(), hok', ?_⟩
        have hnext := hshown (lines.filterMap (linePercentage c.showProgress))
        rw [List.filterMap_cons]
        cases hline : linePercentage c.showProgress line <;> rw [hline] at hnext
        · exact (percentages_append _ _).trans (ht ▸ hnext.symm)
        · exact (percentages_append _ _).trans (ht ▸ hnext.symm)
      · rintro ⟨line', hmem, hfault'⟩
        obtain rfl | hmem := List.mem_cons.mp hmem
        · exact absurd hfault' hfault
        · obtain ⟨fault, hresult⟩ := hfaults ⟨line', hmem, hfault'⟩
          exact ⟨fault, by rw [hcons, Prog.bind_apply_ok hok]; exact hresult⟩

/-- The warning and the pull show no percentage. -/
theorem silent_reportEnd (pullSucceeds : Bytes → Bytes → Bool) :
    Silent (reportEnd pullSucceeds) := by
  have hstderr : ∀ text, Silent (Prog.emit (.stderr text) : BugreportM Unit) := fun _ =>
    silent_emit rfl
  have hwarn : ∀ invalidLines, Silent (warnInvalidLines invalidLines) := fun invalidLines => by
    refine .ite (fun _ => ?_) fun _ => .pure silent_composes ()
    refine .bind silent_composes (hstderr _) fun _ => .bind silent_composes ?_ fun _ => hstderr _
    exact .foldM silent_composes (fun _ _ _ => hstderr _) ()
  have hpull : ∀ src destination, Silent (pullReport pullSucceeds src destination) := by
    intro src destination
    refine .bind silent_composes (silent_modify (fun _ => rfl) fun _ => rfl) fun _ => ?_
    refine .bind silent_composes (.get silent_composes) fun c => ?_
    refine .bind silent_composes (silent_emit rfl) fun _ => ?_
    refine .bind silent_composes (silent_modify (fun _ => rfl) fun _ => rfl) fun _ => ?_
    refine .bind silent_composes (silent_emit ?_) fun _ => .pure silent_composes _
    split <;> rfl
  refine .bind silent_composes (.get silent_composes) fun c => ?_
  refine .bind silent_composes (hwarn _) fun _ => .bind silent_composes (.get silent_composes) ?_
  intro c
  refine .ite (fun _ => .pure silent_composes _) fun _ => .ite (fun _ => ?_) fun _ => hpull _ _
  exact .bind silent_composes (hstderr _) fun _ => .pure silent_composes _

/-- A report whose lines are not faulty shows their percentages, and ends; one with a faulty line
ends the process. -/
theorem bugreport_percentages (pullSucceeds : Bytes → Bytes → Bool) (chunks : List Bytes)
    {c : BugreportCallback} (hline : c.line = []) :
    ((∀ line ∈ split newline chunks.flatten, ¬ FaultyLine c.showProgress line) →
      Prog.Runs (bugreport pullSucceeds chunks) c fun _ _ t => percentages t =
        shownAfter c.lastProgressPercentage
          ((split newline chunks.flatten).filterMap (linePercentage c.showProgress))) ∧
    ((∃ line ∈ split newline chunks.flatten, FaultyLine c.showProgress line) →
      ∃ fault, (bugreport pullSucceeds chunks c).result = .error fault) := by
  have hsame : SameButLine c c := ⟨c.line, rfl⟩
  have halike := processOutput_alike chunks.flatten hsame (by simp [hline])
  rw [hline, List.nil_append] at halike
  obtain ⟨hresult, htrace, -⟩ := halike
  obtain ⟨hruns, hfaults⟩ := processLines_percentages (split newline chunks.flatten) c
  constructor
  · intro h
    obtain ⟨_, hok, hshown⟩ := hruns h
    obtain ⟨status, hstatus, -, ht⟩ :=
      silent_reportEnd pullSucceeds (processOutput chunks.flatten c).state
    rw [Prog.Runs, bugreport_apply, Prog.bind_apply_ok (hresult.trans hok)]
    refine ⟨status, hstatus, ?_⟩
    rw [Prog.after_trace, percentages_append, ht, List.append_nil, htrace, hshown]
  · intro h
    obtain ⟨fault, hfault⟩ := hfaults h
    exact ⟨fault, by rw [bugreport_apply, Prog.bind_apply_error (hresult.trans hfault)]⟩

/-! ## The numbers of a line -/

/-- What is read as the progress: the text between the last prefix and the last slash. -/
def progressText (line : Bytes) : Bytes :=
  let idx1 := rfind line (lit "PROGRESS:") + (lit "PROGRESS:").length
  let idx2 := rfind line (lit "/")
  (line.drop idx1).take ((idx2 + 2 ^ 64 - idx1) % 2 ^ 64)

/-- What is read as the total: the text after the last slash, or the line where there is none. -/
def totalText (line : Bytes) : Bytes := line.drop ((rfind line (lit "/") + 1) % 2 ^ 64)

/-- The line reports a progress and a total. -/
def Numbers (line : Bytes) (progress total : ℤ) : Prop :=
  stoi (progressText line) = .ok progress ∧ stoi (totalText line) = .ok total

/-- A percentage is computed from two numbers, where neither the product leaves an `int` nor the
total is zero. -/
theorem progressPercentage_eq_ok_iff (line : Bytes) (percentage : ℤ) :
    progressPercentage line = .ok percentage ↔ ∃ progress total, Numbers line progress total ∧
      (-2 ^ 31 ≤ progress * 100 ∧ progress * 100 < 2 ^ 31) ∧ total ≠ 0 ∧
        percentage = (progress * 100).tdiv total := by
  -- The steps that can fail, in the order of the code.
  have hcompute : progressPercentage line = stoi (progressText line) >>= fun progress =>
      stoi (totalText line) >>= fun total =>
        if progress * 100 < -2 ^ 31 ∨ 2 ^ 31 ≤ progress * 100 then .error .overflow
        else if total = 0 then .error .divisionByZero
        else .ok ((progress * 100).tdiv total) := rfl
  have hnone : ∀ {fault : BugreportFault},
      (Except.error fault : Except BugreportFault ℤ) ≠ .ok percentage := nofun
  rw [hcompute]
  constructor
  · intro h
    cases hprogress : stoi (progressText line) with
    | error fault =>
      rw [hprogress] at h
      exact absurd h hnone
    | ok progress =>
    cases htotal : stoi (totalText line) with
    | error fault =>
      rw [hprogress, htotal] at h
      exact absurd h hnone
    | ok total =>
    rw [hprogress, htotal] at h
    change (if _ then _ else if _ then _ else _) = _ at h
    split at h
    · exact absurd h hnone
    · rename_i hint
      split at h
      · exact absurd h hnone
      · exact ⟨progress, total, ⟨hprogress, htotal⟩, by omega, ‹_›, (Except.ok.inj h).symm⟩
  · rintro ⟨progress, total, ⟨hprogress, htotal⟩, hint, hzero, rfl⟩
    rw [hprogress, htotal]
    change (if _ then _ else if _ then _ else _) = _
    rw [if_neg (by omega), if_neg hzero]

/-- A quotient that is not zero. -/
theorem tdiv_ne_zero_iff (a : ℤ) {b : ℤ} (hb : b ≠ 0) : a.tdiv b ≠ 0 ↔ b.natAbs ≤ a.natAbs := by
  have hzero : a.tdiv b = 0 ↔ a.natAbs / b.natAbs = 0 := by
    rw [← Int.natAbs_eq_zero, Int.natAbs_tdiv]
    exact Iff.rfl
  rw [Ne, hzero, Nat.div_eq_zero_iff]
  omega

/-- A quotient that is positive. -/
theorem tdiv_pos_iff (a : ℤ) {b : ℤ} : 0 < a.tdiv b ↔ b.natAbs ≤ a.natAbs ∧ 0 < a * b := by
  rw [← Int.sign_eq_one_iff_pos, Int.sign_tdiv, ← Int.sign_eq_one_iff_pos, Int.sign_mul]
  split
  · exact iff_of_false (by decide) fun h => by omega
  · exact ⟨fun h => ⟨by omega, h⟩, fun h => h.2⟩

/-! ## When the progress moves forward -/

/-- The numbers make one percent or more, or less than minus one percent. -/
def ShowsSome (progress total : ℤ) : Prop := total.natAbs ≤ (progress * 100).natAbs

/-- No line has numbers that make a fault, and no line whose numbers make zero percent comes after
one whose numbers make a positive percentage. -/
structure ForwardLines (showProgress : Bool) (lines : List Bytes) : Prop where
  usable : ∀ line ∈ lines, ProgressLine showProgress line → ∃ progress total,
    Numbers line progress total ∧ (-2 ^ 31 ≤ progress * 100 ∧ progress * 100 < 2 ^ 31) ∧ total ≠ 0
  nonzero : lines.Pairwise fun line line' =>
    ProgressLine showProgress line → ProgressLine showProgress line' → ∀ progress total,
      Numbers line progress total → ShowsSome progress total ∧ 0 < progress * total →
        ∀ progress' total', Numbers line' progress' total' → ShowsSome progress' total'

/-- What is to hold of a report: it ends without a fault, the percentages do not decrease, and the
cut of the output into chunks does not matter. -/
structure ForwardReport (pullSucceeds : Bytes → Bytes → Bool) (destDir destFile : Bytes)
    (showProgress : Bool) (chunks : List Bytes) : Prop where
  ends : ∃ status, (bugreport pullSucceeds chunks (.new destDir destFile showProgress)).result =
    .ok status
  forward : (percentages (bugreport pullSucceeds chunks
    (.new destDir destFile showProgress)).trace).Pairwise (· ≤ ·)
  whole : ∀ chunks' : List Bytes, chunks'.flatten = chunks.flatten →
    bugreport pullSucceeds chunks' (.new destDir destFile showProgress) =
      bugreport pullSucceeds chunks (.new destDir destFile showProgress)

/-- The lines that are not faulty are those whose numbers can be used. -/
theorem not_faultyLine_iff (showProgress : Bool) (line : Bytes) :
    ¬ FaultyLine showProgress line ↔ (ProgressLine showProgress line → ∃ progress total,
      Numbers line progress total ∧ (-2 ^ 31 ≤ progress * 100 ∧ progress * 100 < 2 ^ 31) ∧
        total ≠ 0) := by
  constructor
  · intro hfault ⟨hshow, hstarts⟩
    by_contra hnone
    refine hfault ⟨hshow, hstarts, fun percentage hok => hnone ?_⟩
    obtain ⟨progress, total, hnumbers, hint, hzero, -⟩ :=
      (progressPercentage_eq_ok_iff line percentage).mp hok
    exact ⟨progress, total, hnumbers, hint, hzero⟩
  · rintro hused ⟨hshow, hstarts, hnone⟩
    obtain ⟨progress, total, hnumbers, hint, hzero⟩ := hused ⟨hshow, hstarts⟩
    exact hnone _ ((progressPercentage_eq_ok_iff line _).mpr
      ⟨progress, total, hnumbers, hint, hzero, rfl⟩)

theorem linePercentage_eq_some_iff (showProgress : Bool) (line : Bytes) (percentage : ℤ) :
    linePercentage showProgress line = some percentage ↔
      ProgressLine showProgress line ∧ progressPercentage line = .ok percentage := by
  constructor
  · intro h
    rw [linePercentage] at h
    split at h
    · cases hpercentage : progressPercentage line with
      | error fault =>
        rw [hpercentage] at h
        exact absurd h nofun
      | ok p =>
        rw [hpercentage] at h
        exact ⟨‹_›, congrArg _ (Option.some.inj h)⟩
    · exact absurd h nofun
  · exact fun h => linePercentage_of_ok h.1 h.2

/-- Two numbers of a line are its only ones. -/
theorem Numbers.unique {line : Bytes} {p t p' t' : ℤ} (h : Numbers line p t)
    (h' : Numbers line p' t') : p = p' ∧ t = t' :=
  ⟨Except.ok.inj (h.1.symm.trans h'.1), Except.ok.inj (h.2.symm.trans h'.2)⟩

/-- Where the numbers can be used: no zero percentage comes after a positive one exactly when no
such numbers do. -/
theorem percentages_pairwise_iff {showProgress : Bool} {lines : List Bytes}
    (hused : ∀ line ∈ lines, ProgressLine showProgress line → ∃ progress total,
      Numbers line progress total ∧ (-2 ^ 31 ≤ progress * 100 ∧ progress * 100 < 2 ^ 31) ∧
        total ≠ 0) :
    (lines.filterMap (linePercentage showProgress)).Pairwise (fun p q => 0 < p → q ≠ 0) ↔
      lines.Pairwise fun line line' =>
        ProgressLine showProgress line → ProgressLine showProgress line' → ∀ progress total,
          Numbers line progress total → ShowsSome progress total ∧ 0 < progress * total →
            ∀ progress' total', Numbers line' progress' total' → ShowsSome progress' total' := by
  -- A line has one percentage, the quotient of its numbers.
  have hpercentage : ∀ {line : Bytes} {p t : ℤ}, line ∈ lines → ProgressLine showProgress line →
      Numbers line p t → t ≠ 0 ∧ linePercentage showProgress line = some ((p * 100).tdiv t) := by
    intro line p t hmem hline hnumbers
    obtain ⟨progress, total, hnumbers', hint, hzero⟩ := hused line hmem hline
    obtain ⟨rfl, rfl⟩ := hnumbers.unique hnumbers'
    exact ⟨hzero, (linePercentage_eq_some_iff _ _ _).mpr
      ⟨hline, (progressPercentage_eq_ok_iff _ _).mpr ⟨p, t, hnumbers, hint, hzero, rfl⟩⟩⟩
  have hpos : ∀ p t : ℤ, 0 < (p * 100).tdiv t ↔ ShowsSome p t ∧ 0 < p * t := by
    intro p t
    have hscale : 0 < p * 100 * t ↔ 0 < p * t := by
      rw [Int.mul_right_comm]
      omega
    rw [tdiv_pos_iff, hscale, ShowsSome]
  rw [List.pairwise_filterMap]
  refine List.Pairwise.iff_of_mem fun {line line'} hmem hmem' => ?_
  constructor
  · intro h hline hline' p t hnumbers hshows p' t' hnumbers'
    obtain ⟨-, hsome⟩ := hpercentage hmem hline hnumbers
    obtain ⟨hzero', hsome'⟩ := hpercentage hmem' hline' hnumbers'
    exact (tdiv_ne_zero_iff _ hzero').mp (h _ hsome _ hsome' ((hpos p t).mpr hshows))
  · intro h q hq q' hq' hqpos
    obtain ⟨hline, hok⟩ := (linePercentage_eq_some_iff _ _ _).mp hq
    obtain ⟨hline', hok'⟩ := (linePercentage_eq_some_iff _ _ _).mp hq'
    obtain ⟨p, t, hnumbers, -, -, rfl⟩ := (progressPercentage_eq_ok_iff _ _).mp hok
    obtain ⟨p', t', hnumbers', -, hzero', rfl⟩ := (progressPercentage_eq_ok_iff _ _).mp hok'
    have hshows := h hline hline' p t hnumbers ((hpos p t).mp hqpos) p' t' hnumbers'
    exact (tdiv_ne_zero_iff _ hzero').mpr hshows

/-- The report of a device ends without a fault, its percentages do not decrease and the cut into
chunks does not matter, exactly when its lines have numbers that can be used, and none of zero
percent after a positive percentage. -/
theorem bugreport_forward_iff (pullSucceeds : Bytes → Bytes → Bool) (destDir destFile : Bytes)
    (showProgress : Bool) (chunks : List Bytes) :
    ForwardReport pullSucceeds destDir destFile showProgress chunks ↔
      ForwardLines showProgress (split newline chunks.flatten) := by
  obtain ⟨hruns, hfaults⟩ := bugreport_percentages pullSucceeds chunks
    (show (BugreportCallback.new destDir destFile showProgress).line = [] from rfl)
  -- What is shown after nothing was.
  have hshown := shownAfter_pairwise_iff
    ((split newline chunks.flatten).filterMap (linePercentage showProgress)) (le_refl 0)
  constructor
  · intro h
    have hfault : ∀ line ∈ split newline chunks.flatten, ¬ FaultyLine showProgress line := by
      intro line hmem hfault
      obtain ⟨fault, herror⟩ := hfaults ⟨line, hmem, hfault⟩
      obtain ⟨status, hok⟩ := h.ends
      exact absurd (herror.symm.trans hok) nofun
    have hused := fun line hmem => (not_faultyLine_iff showProgress line).mp (hfault line hmem)
    refine ⟨hused, (percentages_pairwise_iff hused).mp ?_⟩
    obtain ⟨_, -, hpercentages⟩ := hruns hfault
    have hforward := hpercentages ▸ h.forward
    exact (hshown.mp ⟨shownAfter_nonneg _ (le_refl 0), hforward⟩).2
  · intro h
    have hfault : ∀ line ∈ split newline chunks.flatten, ¬ FaultyLine showProgress line :=
      fun line hmem => (not_faultyLine_iff showProgress line).mpr (h.usable line hmem)
    obtain ⟨status, hok, hpercentages⟩ := hruns hfault
    have hpairs := (percentages_pairwise_iff h.usable).mpr h.nonzero
    refine ⟨⟨status, hok⟩, ?_, fun chunks' hchunks => ?_⟩
    · rw [hpercentages]
      exact (hshown.mpr ⟨fun h => absurd h (lt_irrefl 0), hpairs⟩).2
    · rw [bugreport_apply, bugreport_apply, hchunks]

/-- A line without numbers ends the process, and zero percent is shown after fifty. -/
theorem receding_not_forward :
    ¬ ForwardReport (fun _ _ => true) [] (lit "bugreport.zip") true [lit "PROGRESS:x\n"] ∧
    ¬ ForwardReport (fun _ _ => true) [] (lit "bugreport.zip") true
      [lit "PROGRESS:50/100\n", lit "PROGRESS:0/100\n"] := by
  constructor
  · intro h
    obtain ⟨status, hok⟩ := h.ends
    have hthrows : (bugreport (fun _ _ => true) [lit "PROGRESS:x\n"]
        (.new [] (lit "bugreport.zip") true)).result = .error .invalidArgument := by decide +kernel
    exact absurd (hthrows.symm.trans hok) nofun
  · intro h
    have hshown : percentages (bugreport (fun _ _ => true)
        [lit "PROGRESS:50/100\n", lit "PROGRESS:0/100\n"]
        (.new [] (lit "bugreport.zip") true)).trace = [50, 0] := by decide +kernel
    exact absurd (hshown ▸ h.forward) (by decide)

end AdbMobile
