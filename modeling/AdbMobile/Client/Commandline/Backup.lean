import AdbMobile.Client.Commandline.Files

/-!
# The array that `backup` works on

`backup` takes `-f FILE` out of the array of its caller by moving the later words down, in place.
Here the array is memory: a word at every index, of which the caller has vouched for the first
`argc`, and the list of the indices that were read or written.

The loop that moves the words runs up to the index `argc` itself, which a terminated array would
have. So every `-f` with a file reads one word too many (`extractLoop_flag`), and it also ends the
search, since the index has come to the end (`backup_inBounds_iff`). What the array holds after it
is what `extractFile` says (`extractLoop_extractFile`).
-/

namespace AdbMobile.Client

open ByteString

/-! ## The function -/

/-- The caller's array, and the indices of it that have been read or written. -/
structure ArgvMemory where
  word : ℕ → Option Bytes
  accesses : List ℕ

namespace ArgvMemory

/-- Exactly the words of `args`, with anything behind them. -/
def ofArgs (args : List Bytes) (beyond : ℕ → Option Bytes) : ArgvMemory where
  word i := if i < args.length then args[i]? else beyond i
  accesses := []

/-- Accesses to the array. -/
def touch (m : ArgvMemory) (is : List ℕ) : ArgvMemory := { m with accesses := m.accesses ++ is }

/-- `argv[i] = w`. -/
def write (m : ArgvMemory) (i : ℕ) (w : Option Bytes) : ArgvMemory :=
  { m.touch [i] with word := Function.update m.word i w }

end ArgvMemory

/-- The inner loop, from `i` and `j` on: the array and `i` after it. -/
def shiftArgs (argc : ℕ) (m : ArgvMemory) (i j : ℕ) : ArgvMemory × ℕ :=
  if j ≤ argc then shiftArgs argc ((m.touch [j]).write i (m.word j)) (i + 1) (j + 1) else (m, i)
termination_by argc + 1 - j

/-- The loop moves `i` as far as `j`. -/
theorem shiftArgs_snd (argc : ℕ) (m : ArgvMemory) (i j : ℕ) :
    (shiftArgs argc m i j).2 = i + (argc + 1 - j) := by
  fun_induction shiftArgs argc m i j with
  | case1 m i j hle ih =>
    rw [ih]
    omega
  | case2 m i j hlt =>
    dsimp only
    omega

/-- The outer loop, from `i` on: the file and `argc` after it, or the text to exit with. -/
def extractLoop (m : ArgvMemory) (i argc : ℕ) (filename : Option Bytes) :
    Except Bytes (Option Bytes × ℕ) × ArgvMemory :=
  if i < argc then
    if m.word i = some (lit "-f") then
      if i = argc - 1 then (.error (lit "backup -f passed with no filename"), m.touch [i])
      else
        let shifted := shiftArgs argc (m.touch [i, i + 1]) i (i + 2)
        extractLoop (shifted.1.write (argc - 2) none) (shifted.2 + 1) (argc - 2) (m.word (i + 1))
    else extractLoop (m.touch [i]) (i + 1) argc filename
  else (.ok (filename, argc), m)
termination_by argc - i
decreasing_by
  · rw [shiftArgs_snd]
    omega
  · omega

/-- The loop that makes the command: the words at `count` indices from `i` on. -/
def forwardedWords (m : ArgvMemory) : ℕ → ℕ → List (Option Bytes) × ArgvMemory
  | 0, _ => ([], m)
  | count + 1, i =>
    let rest := forwardedWords (m.touch [i]) count (i + 1)
    (m.word i :: rest.1, rest.2)

/-- What becomes of `backup` before its connection. -/
inductive BackupOutcome
  | exits (message : Bytes)
  /-- The file cannot be created. -/
  | failsToCreate
  | forwards (filename : Option Bytes) (words : List (Option Bytes))
  deriving DecidableEq, Repr

/-- `backup` on exactly the words of `args`, up to its connection, and the indices that it reads or
writes. -/
def backupRun (args : List Bytes) (beyond : ℕ → Option Bytes) (created : Bool) :
    BackupOutcome × List ℕ :=
  match extractLoop (.ofArgs args beyond) 1 args.length (some (lit "backup.ab")) with
  | (.error message, m) => (.exits message, m.accesses)
  | (.ok (filename, argc), m) =>
    if argc < 2 then
      (.exits (lit "backup either needs a list of packages or -all/-shared"), m.accesses)
    else if !created then (.failsToCreate, m.accesses)
    else
      let forwarded := forwardedWords m (argc - 1) 1
      (.forwards filename forwarded.1, forwarded.2.accesses)

/-- The words without any `-f FILE`. -/
def withoutFile : List Bytes → List Bytes
  | flag :: file :: rest =>
    if flag = lit "-f" then withoutFile rest else flag :: withoutFile (file :: rest)
  | args => args

/-- `backup` stays in the array, whatever is behind it, and forwards the words after the command
without any `-f FILE`. -/
def BackupInBounds (args : List Bytes) (created : Bool) : Prop :=
  ∀ beyond : ℕ → Option Bytes,
    (∀ i ∈ (backupRun args beyond created).2, i < args.length) ∧
    ∀ filename words, (backupRun args beyond created).1 = .forwards filename words →
      words = (withoutFile args.tail).map some

/-! ## The loops -/

namespace ArgvMemory

@[simp] theorem touch_word (m : ArgvMemory) (is : List ℕ) : (m.touch is).word = m.word := rfl

@[simp] theorem touch_accesses (m : ArgvMemory) (is : List ℕ) :
    (m.touch is).accesses = m.accesses ++ is := rfl

@[simp] theorem write_word (m : ArgvMemory) (i : ℕ) (w : Option Bytes) :
    (m.write i w).word = Function.update m.word i w := rfl

@[simp] theorem write_accesses (m : ArgvMemory) (i : ℕ) (w : Option Bytes) :
    (m.write i w).accesses = m.accesses ++ [i] := rfl

theorem touch_touch (m : ArgvMemory) (is js : List ℕ) :
    (m.touch is).touch js = m.touch (is ++ js) := by
  simp [touch]

end ArgvMemory

/-- The inner loop moves the words from `j` up to the index `argc` down. -/
theorem shiftArgs_word {argc : ℕ} (m : ArgvMemory) {i j : ℕ} (hij : i < j) (k : ℕ) :
    (shiftArgs argc m i j).1.word k =
      if i ≤ k ∧ k < i + (argc + 1 - j) then m.word (k + (j - i)) else m.word k := by
  fun_induction shiftArgs argc m i j with
  | case1 m i j hle ih =>
    rw [ih (by omega), ArgvMemory.write_word, ArgvMemory.touch_word]
    rcases Nat.lt_trichotomy k i with hlt | rfl | hgt
    · rw [if_neg (by omega), if_neg (by omega), Function.update_of_ne (by omega)]
    · -- The word that this step writes.
      rw [if_neg (by omega), if_pos (by omega), Function.update_self]
      congr 1
      omega
    · by_cases hin : k < i + (argc + 1 - j)
      · rw [if_pos (by omega), if_pos (by omega), Function.update_of_ne (by omega)]
        congr 1
        omega
      · rw [if_neg (by omega), if_neg (by omega), Function.update_of_ne (by omega)]
  | case2 m i j hlt => rw [if_neg (by omega)]

/-- It touches the index `argc`, where it runs at all, and forgets no access. -/
theorem shiftArgs_accesses (argc : ℕ) (m : ArgvMemory) (i j : ℕ) :
    m.accesses ⊆ (shiftArgs argc m i j).1.accesses ∧
      (j ≤ argc → argc ∈ (shiftArgs argc m i j).1.accesses) := by
  fun_induction shiftArgs argc m i j with
  | case1 m i j hle ih =>
    obtain ⟨hkept, hlast⟩ := ih
    have hj : j ∈ (shiftArgs argc ((m.touch [j]).write i (m.word j)) (i + 1) (j + 1)).1.accesses :=
      hkept (by simp)
    refine ⟨fun k hk => hkept (by simp [hk]), fun _ => ?_⟩
    by_cases hend : j = argc
    · exact hend ▸ hj
    · exact hlast (by omega)
  | case2 m i j hlt => exact ⟨fun _ hk => hk, fun hle => absurd hle hlt⟩

/-- Words that are no `-f` are passed over. -/
theorem extractLoop_skip {argc : ℕ} (filename : Option Bytes) (count : ℕ) :
    ∀ {m : ArgvMemory} {i : ℕ}, i + count ≤ argc →
      (∀ k, i ≤ k → k < i + count → m.word k ≠ some (lit "-f")) →
      extractLoop m i argc filename =
        extractLoop (m.touch (List.range' i count)) (i + count) argc filename := by
  induction count with
  | zero =>
    intro m i _ _
    simp [ArgvMemory.touch]
  | succ count ih =>
    intro m i hle hskip
    have hrest : extractLoop (m.touch [i]) (i + 1) argc filename = extractLoop
        ((m.touch [i]).touch (List.range' (i + 1) count)) (i + 1 + count) argc filename :=
      ih (by omega) fun k hk hlt => hskip k (by omega) (by omega)
    rw [extractLoop, if_pos (by omega), if_neg (hskip i (by omega) (by omega)), hrest,
      ArgvMemory.touch_touch, show i + (count + 1) = i + 1 + count by omega]
    rfl

/-- An array without `-f` is only looked through. -/
theorem extractLoop_none {m : ArgvMemory} {argc : ℕ} (filename : Option Bytes)
    (hnone : ∀ k, 1 ≤ k → k < argc → m.word k ≠ some (lit "-f")) :
    extractLoop m 1 argc filename =
      (.ok (filename, argc), m.touch (List.range' 1 (argc - 1))) := by
  by_cases hargc : argc = 0
  · rw [extractLoop, if_neg (by omega), hargc]
    simp [ArgvMemory.touch]
  · rw [extractLoop_skip filename (argc - 1) (by omega)
      (fun k hk hlt => hnone k hk (by omega)), extractLoop, if_neg (by omega)]

/-! ## The first `-f` -/

/-- The word at `i` is the first `-f` behind the command. -/
structure FirstFlag (m : ArgvMemory) (i : ℕ) : Prop where
  pos : 1 ≤ i
  flag : m.word i = some (lit "-f")
  first : ∀ k, 1 ≤ k → k < i → m.word k ≠ some (lit "-f")

namespace FirstFlag

variable {m : ArgvMemory} {i argc : ℕ} (hf : FirstFlag m i) (filename : Option Bytes)
include hf

/-- The loop comes to the first `-f`. -/
theorem extractLoop_eq (hi : i < argc) : extractLoop m 1 argc filename =
    extractLoop (m.touch (List.range' 1 (i - 1))) i argc filename := by
  have hpos := hf.pos
  have hskip : extractLoop m 1 argc filename =
      extractLoop (m.touch (List.range' 1 (i - 1))) (1 + (i - 1)) argc filename :=
    extractLoop_skip filename (i - 1) (by omega) fun k hk hlt => hf.first k hk (by omega)
  rwa [show 1 + (i - 1) = i by omega] at hskip

/-- A last word `-f` is an error. -/
theorem extractLoop_last (hlast : i + 1 = argc) : extractLoop m 1 argc filename =
    (.error (lit "backup -f passed with no filename"), m.touch (List.range' 1 i)) := by
  have hpos := hf.pos
  have hrange : List.range' 1 (i - 1) ++ [i] = List.range' 1 i := by
    obtain ⟨n, rfl⟩ : ∃ n, i = n + 1 := ⟨i - 1, by omega⟩
    rw [List.range'_1_concat, Nat.add_comm 1 n]
    rfl
  rw [hf.extractLoop_eq filename (by omega), extractLoop, if_pos (by omega),
    ArgvMemory.touch_word, if_pos hf.flag, if_pos (by omega), ArgvMemory.touch_touch, hrange]

/-- A `-f` with a file moves the words behind the two down, ends the array with a null pointer, and
ends the loop: the inner loop has taken `i` to the end. -/
theorem extractLoop_flag (hfile : i + 1 < argc) : extractLoop m 1 argc filename =
    (.ok (m.word (i + 1), argc - 2),
      (shiftArgs argc (m.touch (List.range' 1 (i - 1) ++ [i, i + 1])) i (i + 2)).1.write
        (argc - 2) none) := by
  have hpos := hf.pos
  rw [hf.extractLoop_eq filename (by omega), extractLoop, if_pos (by omega),
    ArgvMemory.touch_word, if_pos hf.flag, if_neg (by omega), ArgvMemory.touch_touch]
  dsimp only
  rw [extractLoop, if_neg (by rw [shiftArgs_snd]; omega)]

end FirstFlag

section Args

variable (args : List Bytes) (beyond : ℕ → Option Bytes)

/-- The words of the caller. -/
theorem ofArgs_word {i : ℕ} (hi : i < args.length) :
    (ArgvMemory.ofArgs args beyond).word i = args[i]? := if_pos hi

/-- No `-f` behind the command comes before the one that `extractFile` finds. -/
theorem idxOf_flag_le {k : ℕ} (hpos : 1 ≤ k) (hflag : args[k]? = some (lit "-f")) :
    1 + args.tail.idxOf (lit "-f") ≤ k := by
  have hget : args.tail[k - 1]? = some (lit "-f") := by
    rw [List.getElem?_tail, show k - 1 + 1 = k by omega, hflag]
  have htake : lit "-f" ∈ args.tail.take k :=
    List.mem_of_getElem? (i := k - 1) (by rw [List.getElem?_take, if_pos (by omega), hget])
  have hlt := (List.mem_take_iff_idxOf_lt (List.mem_of_getElem? hget)).mp htake
  omega

/-- The one that it finds is the first. -/
theorem firstFlag_idxOf (hi : 1 + args.tail.idxOf (lit "-f") < args.length) :
    FirstFlag (.ofArgs args beyond) (1 + args.tail.idxOf (lit "-f")) := by
  have hlt : args.tail.idxOf (lit "-f") < args.tail.length := by
    rw [List.length_tail]
    omega
  constructor
  · omega
  · rw [ofArgs_word args beyond hi, Nat.add_comm 1, ← List.getElem?_tail,
      List.getElem?_eq_getElem hlt, List.getElem_idxOf]
  · intro k hk hbefore hflag
    rw [ofArgs_word args beyond (by omega)] at hflag
    have hle := idxOf_flag_le args hk hflag
    omega

/-- The words that are forwarded are those at the indices, which are touched. -/
theorem forwardedWords_eq (count : ℕ) : ∀ (m : ArgvMemory) (i : ℕ),
    forwardedWords m count i =
      ((List.range' i count).map m.word, m.touch (List.range' i count)) := by
  induction count with
  | zero =>
    intro m i
    simp [forwardedWords, ArgvMemory.touch]
  | succ count ih =>
    intro m i
    rw [forwardedWords, ih, ArgvMemory.touch_touch]
    rfl

/-- The words behind the command, read one by one. -/
theorem map_word_range : (List.range' 1 (args.length - 1)).map (ArgvMemory.ofArgs args beyond).word =
    args.tail.map some := by
  refine List.ext_getElem (by simp) fun k hk hk' => ?_
  have hlt : k + 1 < args.length := by
    simp at hk
    omega
  rw [List.getElem_map, List.getElem_map, List.getElem_range', List.getElem_tail]
  rw [show 1 + 1 * k = k + 1 by omega, ofArgs_word args beyond hlt, List.getElem?_eq_getElem hlt]

/-- Words among which there is no `-f` have none to lose. -/
theorem withoutFile_eq_self {args : List Bytes} (hnone : lit "-f" ∉ args) :
    withoutFile args = args := by
  fun_induction withoutFile args with
  | case1 file rest ih => exact absurd List.mem_cons_self hnone
  | case2 flag file rest hflag ih =>
    rw [ih fun h => hnone (List.mem_cons_of_mem flag h)]
  | case3 args => rfl

/-- On an array without `-f` nothing is moved: the run stays in the array, and forwards the words
behind the command. -/
theorem backupRun_none (created : Bool)
    (hnone : ∀ k, 1 ≤ k → k < args.length → args[k]? ≠ some (lit "-f")) :
    (∀ i ∈ (backupRun args beyond created).2, i < args.length) ∧
    ∀ filename words, (backupRun args beyond created).1 = .forwards filename words →
      words = args.tail.map some := by
  have hextract := extractLoop_none (m := .ofArgs args beyond) (some (lit "backup.ab"))
    fun k hk hlt => by rw [ofArgs_word args beyond hlt]; exact hnone k hk hlt
  have hin : ∀ i ∈ List.range' 1 (args.length - 1), i < args.length := by
    intro i hi
    rw [List.mem_range'_1] at hi
    omega
  unfold backupRun
  rw [hextract]
  dsimp only
  split
  · exact ⟨by simpa [ArgvMemory.ofArgs] using hin, fun _ _ h => nomatch h⟩
  · split
    · exact ⟨by simpa [ArgvMemory.ofArgs] using hin, fun _ _ h => nomatch h⟩
    · -- The words are read twice: once by the search, and once for the command.
      rw [forwardedWords_eq, ArgvMemory.touch_touch]
      constructor
      · intro i hi
        have hi' : i ∈ List.range' 1 (args.length - 1) := by
          simpa [ArgvMemory.ofArgs] using hi
        exact hin i hi'
      · intro filename words hforwards
        cases hforwards
        exact map_word_range args beyond

/-- What the search touches, the run has touched. -/
theorem extractLoop_accesses_subset (created : Bool) :
    (extractLoop (.ofArgs args beyond) 1 args.length (some (lit "backup.ab"))).2.accesses ⊆
      (backupRun args beyond created).2 := by
  unfold backupRun
  split
  · rename_i hextract
    rw [hextract]
    exact List.Subset.refl _
  · rename_i hextract
    rw [hextract]
    split
    · exact List.Subset.refl _
    · split
      · exact List.Subset.refl _
      · rw [forwardedWords_eq]
        exact List.subset_append_left _ _

/-- On an array whose last word is the only `-f`, the run stays in the array and exits. -/
theorem backupRun_last (created : Bool) {i : ℕ} (hf : FirstFlag (.ofArgs args beyond) i)
    (hlast : i + 1 = args.length) :
    backupRun args beyond created =
      (.exits (lit "backup -f passed with no filename"), List.range' 1 i) := by
  rw [backupRun, hf.extractLoop_last _ hlast]
  rfl

/-- `backup` stays in the array and forwards what it should exactly where no `-f` behind the command
has a file. -/
theorem backup_inBounds_iff (args : List Bytes) (created : Bool) :
    BackupInBounds args created ↔
      ¬ ∃ i, 1 ≤ i ∧ i + 1 < args.length ∧ args[i]? = some (lit "-f") := by
  constructor
  · rintro hbounds ⟨i, hpos, hi, hflag⟩
    -- The first `-f` has a file too, so the words behind it are moved, up to the index `argc`.
    have hk := idxOf_flag_le args hpos hflag
    have hfirst := firstFlag_idxOf args (fun _ => none) (by omega)
    have hextract := hfirst.extractLoop_flag (some (lit "backup.ab"))
      (show 1 + args.tail.idxOf (lit "-f") + 1 < args.length by omega)
    have hend : args.length ∈ (backupRun args (fun _ => none) created).2 := by
      refine extractLoop_accesses_subset args _ created ?_
      rw [hextract]
      exact List.mem_append_left _ ((shiftArgs_accesses _ _ _ _).2 (by omega))
    exact absurd ((hbounds fun _ => none).1 _ hend) (by omega)
  · intro hno beyond
    by_cases hany : ∃ i, 1 ≤ i ∧ i < args.length ∧ args[i]? = some (lit "-f")
    · obtain ⟨i, hpos, hi, hflag⟩ := hany
      have hk := idxOf_flag_le args hpos hflag
      have hfirst := firstFlag_idxOf args beyond (by omega)
      have hword := hfirst.flag
      rw [ofArgs_word args beyond (by omega)] at hword
      have hlast : 1 + args.tail.idxOf (lit "-f") + 1 = args.length := by
        by_contra hne
        exact hno ⟨_, hfirst.pos, by omega, hword⟩
      rw [backupRun_last args beyond created hfirst hlast]
      constructor
      · intro j hj
        rw [List.mem_range'_1] at hj
        omega
      · intro filename words hforwards
        cases hforwards
    · have hnone : ∀ k, 1 ≤ k → k < args.length → args[k]? ≠ some (lit "-f") :=
        fun k hk hlt hflag => hany ⟨k, hk, hlt, hflag⟩
      obtain ⟨hin, hwords⟩ := backupRun_none args beyond created hnone
      refine ⟨hin, fun filename words hforwards => ?_⟩
      have hfree : lit "-f" ∉ args.tail := by
        intro hmem
        obtain ⟨k, hk, hget⟩ := List.getElem_of_mem hmem
        rw [List.getElem_tail] at hget
        rw [List.length_tail] at hk
        exact hnone (k + 1) (by omega) (by omega) (by rw [← hget, List.getElem?_eq_getElem])
      rw [withoutFile_eq_self hfree]
      exact hwords filename words hforwards

/-- `backup -f out.ab -all`, with no terminator behind it, is read past its end. -/
theorem flaggedBackup_not_inBounds :
    ¬ BackupInBounds [lit "backup", lit "-f", lit "out.ab", lit "-all"] true := by
  intro hbounds
  let args : List Bytes := [lit "backup", lit "-f", lit "out.ab", lit "-all"]
  have hfirst : FirstFlag (.ofArgs args fun _ => none) 1 :=
    ⟨le_refl 1, by decide, fun k hk hlt => absurd hk (by omega)⟩
  have hend : 4 ∈ (backupRun args (fun _ => none) true).2 := by
    refine extractLoop_accesses_subset args _ true ?_
    rw [hfirst.extractLoop_flag _ (by decide)]
    exact List.mem_append_left _ ((shiftArgs_accesses 4 _ 1 3).2 (by omega))
  exact absurd ((hbounds fun _ => none).1 4 hend) (by decide)

/-! ## The words that are left -/

/-- The array after the words behind `-f FILE` have moved down, word by word. -/
theorem moved_word {i : ℕ} (hi : i + 1 < args.length) (is : List ℕ) {k : ℕ} (hk : k < args.length) :
    ((args.take i ++ args.drop (i + 2)).map some ++ [none, args.getLast?])[k]? = some
      (((shiftArgs args.length ((ArgvMemory.ofArgs args beyond).touch is) i (i + 2)).1.write
        (args.length - 2) none).word k) := by
  have hlen : ((args.take i ++ args.drop (i + 2)).map some).length = args.length - 2 := by
    rw [List.length_map, List.length_append, List.length_take, List.length_drop]
    omega
  rw [ArgvMemory.write_word]
  rcases Nat.lt_trichotomy k (args.length - 2) with hlt | rfl | hgt
  · -- A word that is left, from `k` or from two places on.
    rw [Function.update_of_ne (by omega), shiftArgs_word _ (by omega), ArgvMemory.touch_word,
      List.getElem?_append_left (by omega), List.getElem?_map]
    by_cases hki : k < i
    · rw [if_neg (by omega), ofArgs_word args beyond hk,
        List.getElem?_append_left (by rw [List.length_take]; omega), List.getElem?_take,
        if_pos hki, List.getElem?_eq_getElem hk]
      rfl
    · have hk2 : k + 2 < args.length := by omega
      rw [if_pos (by omega), show k + (i + 2 - i) = k + 2 by omega, ofArgs_word args beyond hk2,
        List.getElem?_append_right (by rw [List.length_take]; omega), List.getElem?_drop,
        List.length_take, show i + 2 + (k - min i args.length) = k + 2 by omega,
        List.getElem?_eq_getElem hk2]
      rfl
  · rw [Function.update_self, List.getElem?_append_right (by omega), hlen, Nat.sub_self]
    rfl
  · -- The last word, which stays where it was.
    obtain rfl : k = args.length - 1 := by omega
    rw [Function.update_of_ne (by omega), shiftArgs_word _ (by omega), ArgvMemory.touch_word,
      if_neg (by omega), ofArgs_word args beyond hk, List.getElem?_append_right (by omega), hlen,
      show args.length - 1 - (args.length - 2) = 1 by omega, List.getLast?_eq_getElem?]
    rfl

/-- What the loop leaves is what `extractFile` says: the file, the number of words, and the
array. -/
theorem extractLoop_extractFile :
    (∀ message, extractFile args = .error message →
      (extractLoop (.ofArgs args beyond) 1 args.length (some (lit "backup.ab"))).1 =
        .error message) ∧
    ∀ filename left argv, extractFile args = .ok (filename, left, argv) →
      (extractLoop (.ofArgs args beyond) 1 args.length (some (lit "backup.ab"))).1 =
        .ok (some filename, left.length) ∧
      ∀ k, k < args.length → argv[k]? = some
        ((extractLoop (.ofArgs args beyond) 1 args.length (some (lit "backup.ab"))).2.word k) := by
  unfold extractFile
  by_cases hnone : args.length ≤ 1 + args.tail.idxOf (lit "-f")
  · -- There is no `-f`.
    have hnoFlag : ∀ k, 1 ≤ k → k < args.length →
        (ArgvMemory.ofArgs args beyond).word k ≠ some (lit "-f") := by
      intro k hk hlt hflag
      rw [ofArgs_word args beyond hlt] at hflag
      have hle := idxOf_flag_le args hk hflag
      omega
    have hextract := extractLoop_none (some (lit "backup.ab")) hnoFlag
    dsimp only
    rw [if_pos hnone, hextract]
    constructor
    · intro message h
      cases h
    · intro filename left argv h
      cases h
      refine ⟨rfl, fun k hk => ?_⟩
      rw [ArgvMemory.touch_word, ofArgs_word args beyond hk]
      simp [hk]
  · have hfirst := firstFlag_idxOf args beyond (by omega)
    dsimp only
    rw [if_neg hnone]
    by_cases hfile : 1 + args.tail.idxOf (lit "-f") + 1 < args.length
    · rw [hfirst.extractLoop_flag _ hfile, List.getElem?_eq_getElem hfile]
      constructor
      · intro message h
        cases h
      · intro filename left argv h
        cases h
        refine ⟨?_, fun k hk => moved_word args beyond hfile _ hk⟩
        have hlen : (args.take (1 + args.tail.idxOf (lit "-f")) ++
            args.drop (1 + args.tail.idxOf (lit "-f") + 2)).length = args.length - 2 := by
          rw [List.length_append, List.length_take, List.length_drop]
          omega
        rw [ofArgs_word args beyond hfile, List.getElem?_eq_getElem hfile, hlen]
    · rw [hfirst.extractLoop_last _ (by omega), List.getElem?_eq_none (by omega)]
      constructor
      · intro message h
        cases h
        rfl
      · intro filename left argv h
        cases h

end Args

end AdbMobile.Client
