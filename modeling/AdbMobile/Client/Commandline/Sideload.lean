import AdbMobile.Client.Commandline.Services

/-!
# The slices that a sideload serves

The device asks for a block of the package by a text of eight bytes. `strtoll` takes spaces, a sign
and trailing junk, so the number may be anything that eight characters can say, and the block is at
an offset of the package that may be negative or behind its end. The loop refuses what is behind the
end itself, and `lseek` refuses what is negative. What it replies is therefore a slice of the
package that starts at a block (`sideloadServe_slices`).

Here the package has bytes, which `Commandline.Services` leaves out, and an exchange has the answer
that goes to the device. The results are the same (`sideloadLoop_result`).
-/

namespace AdbMobile.Client

open ByteString

/-! ## The loop -/

/-- A command of the device and what becomes of it. -/
structure SideloadExchange where
  command : Bytes
  /-- The number of the block that `strtoll` reads, where the command is not the last. -/
  block : Option ℤ
  /-- The offset and the amount that are asked of the package. -/
  access : Option (ℤ × ℤ)
  /-- What is written to the device. -/
  reply : Bytes
  /-- What `adb_sideload_install` returns, if it returns. -/
  result : Option ℤ
  deriving DecidableEq, Repr

/-- `ReadFdExactly` of `count` bytes at an offset of the package: all of them or none. -/
def readPackage (package : Bytes) (offset count : ℤ) (works : Bool) : Option Bytes :=
  let data := (package.drop offset.toNat).take count.toNat
  if works ∧ data.length = count.toNat then some data else none

/-- The amount that is read for a block. -/
def toWrite (size offset : ℤ) : ℤ :=
  if size < offset + sideloadHostBlockSize then size - offset else sideloadHostBlockSize

/-- The exchange for a block whose offset is not behind the end. The results of `lseek`, which fails
for a negative offset, and of the read and the write are given. -/
def blockExchange (package : Bytes) (seekWorks readWorks writeWorks : Bool) (command : Bytes)
    (block : ℤ) : SideloadExchange :=
  let offset := block * sideloadHostBlockSize
  let count := toWrite package.length offset
  let failed : SideloadExchange := ⟨command, some block, some (offset, count), [], some (-1)⟩
  if offset < 0 ∨ !seekWorks then failed
  else
    match readPackage package offset count readWorks with
    | none => failed
    | some data =>
      if writeWorks then ⟨command, some block, some (offset, count), data, none⟩ else failed

/-- One round of the loop of `adb_sideload_install`. -/
def sideloadExchange (package : Bytes) (seekWorks : ℤ → Bool) (readWorks writeWorks : Bool)
    (command : Bytes) : SideloadExchange :=
  let buf := cString command
  if buf = lit "DONEDONE" ∨ buf = lit "FAILFAIL" then
    ⟨command, none, none, [], some (if buf = lit "FAILFAIL" then 1 else 0)⟩
  else
    let block := (strtoll buf).1
    if package.length ≤ block * sideloadHostBlockSize then
      ⟨command, some block, none, [], some (-1)⟩
    else
      blockExchange package (seekWorks (block * sideloadHostBlockSize)) readWorks writeWorks command
        block

/-- The loop of `adb_sideload_install`: its exchanges, and what it returns. `calls` is the number of
the next call on the package. -/
def sideloadServe (package : Bytes) (seeks : ℕ → ℤ → Bool) (readsFile : ℕ → Bool) :
    ℕ → List Bool → List (Option Bytes) → List SideloadExchange × ℤ
  | _, _, [] => ([], -1)
  | _, _, none :: _ => ([], -1)
  | calls, writes, some command :: reads =>
    let e := sideloadExchange package (seeks calls) (readsFile (calls + 1)) (writes.headD false)
      command
    match e.result with
    | some result => ([e], result)
    | none =>
      let rest := sideloadServe package seeks readsFile (calls + 2) writes.tail reads
      (e :: rest.1, rest.2)

/-! ## The number of a block -/

/-- What the digits of a string denote has no more digits than the string. -/
theorem digitsValue_lt {digits : Bytes} (hdigits : ∀ d ∈ digits, isDigit d = true) :
    digitsValue digits < 10 ^ digits.length := by
  induction digits using List.reverseRecOn with
  | nil => decide
  | append_singleton digits d ih =>
    have hvalue : digitsValue (digits ++ [d]) = 10 * digitsValue digits + (d.toNat - 48) := by
      simp [digitsValue]
    have hprev := ih fun c hc => hdigits c (List.mem_append_left _ hc)
    have hd : d ≤ 57 := by
      have hdigit := hdigits d (by simp)
      simp only [isDigit, decide_eq_true_eq] at hdigit
      exact hdigit.2
    have hle : d.toNat ≤ 57 := UInt8.le_iff_toNat_le.mp hd
    rw [hvalue, List.length_append, List.length_singleton, Nat.pow_succ]
    omega

/-- What `strtoll` reads: the digits behind the spaces and a sign, if there are any. -/
theorem strtoll_eq (s : Bytes) : ∃ (negative : Bool) (t : Bytes), t.length ≤ s.length ∧
    (strtoll s).1 = if t.takeWhile isDigit = [] then 0 else
      max (-2 ^ 63) (min (if negative then -(digitsValue (t.takeWhile isDigit) : ℤ)
        else digitsValue (t.takeWhile isDigit)) (2 ^ 63 - 1)) := by
  have hdrop : (s.dropWhile isSpace).length ≤ s.length := (List.dropWhile_suffix _).length_le
  unfold strtoll
  split
  rename_i negative t hsign
  refine ⟨negative, t, ?_, ?_⟩
  · split at hsign
    · rename_i u hu
      obtain ⟨-, rfl⟩ := Prod.mk.inj hsign
      rw [hu, List.length_cons] at hdrop
      omega
    · rename_i u hu
      obtain ⟨-, rfl⟩ := Prod.mk.inj hsign
      rw [hu, List.length_cons] at hdrop
      omega
    · obtain ⟨-, rfl⟩ := Prod.mk.inj hsign
      exact hdrop
  · dsimp only
    split <;> rfl

/-- A string of at most `n` bytes denotes a number of at most `n` digits. -/
theorem strtoll_natAbs_lt (s : Bytes) {n : ℕ} (hs : s.length ≤ n) :
    (strtoll s).1.natAbs < 10 ^ n := by
  obtain ⟨negative, t, ht, hvalue⟩ := strtoll_eq s
  have hdigits : digitsValue (t.takeWhile isDigit) < 10 ^ n :=
    calc digitsValue (t.takeWhile isDigit) < 10 ^ (t.takeWhile isDigit).length :=
          digitsValue_lt fun d hd => List.mem_takeWhile_imp hd
      _ ≤ 10 ^ n := by
          have hle : (t.takeWhile isDigit).length ≤ t.length := (List.takeWhile_prefix _).length_le
          exact Nat.pow_le_pow_right (by omega) (by omega)
  rw [hvalue]
  split
  · exact Nat.pow_pos (by omega)
  · split <;> omega

/-- A string of digits denotes their value. -/
theorem strtoll_digits {s : Bytes} (hs : ∀ d ∈ s, isDigit d = true) (hlen : s.length ≤ 18) :
    (strtoll s).1 = digitsValue s := by
  cases s with
  | nil => rfl
  | cons d ds =>
    have hd : 48 ≤ d ∧ d ≤ 57 := by
      have hdigit := hs d List.mem_cons_self
      simpa only [isDigit, decide_eq_true_eq] using hdigit
    have hspace : isSpace d = false := by
      rw [isSpace, decide_eq_false_iff_not]
      rintro (rfl | ⟨-, hle⟩)
      · exact absurd hd.1 (by decide)
      · exact absurd (UInt8.le_trans hd.1 hle) (by decide)
    have hdrop : (d :: ds).dropWhile isSpace = d :: ds := by
      rw [List.dropWhile_cons_of_neg (by simp [hspace])]
    have htake : (d :: ds).takeWhile isDigit = d :: ds :=
      List.takeWhile_eq_self_iff.mpr hs
    have hbound : digitsValue (d :: ds) < 10 ^ 18 :=
      lt_of_lt_of_le (digitsValue_lt hs) (Nat.pow_le_pow_right (by omega) hlen)
    unfold strtoll
    rw [hdrop]
    split
    rename_i negative t hsign
    -- A digit is neither of the signs.
    split at hsign
    · rename_i heq
      obtain ⟨rfl, -⟩ := List.cons.inj heq
      exact absurd hd.1 (by decide)
    · rename_i heq
      obtain ⟨rfl, -⟩ := List.cons.inj heq
      exact absurd hd.1 (by decide)
    · obtain ⟨rfl, rfl⟩ := Prod.mk.inj hsign
      dsimp only
      rw [htake, if_neg (by simp)]
      simp only [Bool.false_eq_true, if_false]
      omega

/-! ## The exchanges -/

/-- An offset fits an `int64_t`. -/
def InInt64 (n : ℤ) : Prop := -2 ^ 63 ≤ n ∧ n < 2 ^ 63

/-- What an exchange is, for a package of the length `size`. -/
structure SideloadExchange.Sound (package : Bytes) (e : SideloadExchange) : Prop where
  /-- The arithmetic on the offset stays in an `int64_t`. -/
  inInt64 : ∀ block ∈ e.block, InInt64 (block * sideloadHostBlockSize) ∧
    InInt64 (block * sideloadHostBlockSize + sideloadHostBlockSize)
  /-- What is asked of the package is not empty and fits the buffer. -/
  access : ∀ access ∈ e.access, 0 < access.2 ∧ access.2 ≤ sideloadHostBlockSize
  /-- The reply is nothing, or the slice of the package at a block of it. -/
  reply : e.reply = [] ∨ ∃ k : ℕ, k * sideloadHostBlockSize.toNat < package.length ∧
    e.reply = package.extract (k * sideloadHostBlockSize.toNat)
      (min (k * sideloadHostBlockSize.toNat + sideloadHostBlockSize.toNat) package.length) ∧
    ((∀ d ∈ e.command, isDigit d = true) → k = digitsValue e.command)
  /-- `DONEDONE` and `FAILFAIL` return, without a reply. -/
  last : e.command = lit "DONEDONE" ∨ e.command = lit "FAILFAIL" → e.reply = [] ∧
    e.result = some (if e.command = lit "FAILFAIL" then 1 else 0)

/-- A part of a block is read, and all of it but at the end. -/
theorem toWrite_bounds {size offset : ℤ} (hoffset : offset < size) :
    0 < toWrite size offset ∧ toWrite size offset ≤ sideloadHostBlockSize := by
  unfold toWrite
  have hpos : 0 < sideloadHostBlockSize := by decide
  split <;> omega

/-- What is read for a block in the package is the slice. -/
theorem readPackage_slice {package data : Bytes} {k : ℕ} {works : Bool}
    (hdata : readPackage package (k * sideloadHostBlockSize)
      (toWrite package.length (k * sideloadHostBlockSize)) works = some data) :
    data = package.extract (k * sideloadHostBlockSize.toNat)
      (min (k * sideloadHostBlockSize.toNat + sideloadHostBlockSize.toNat) package.length) := by
  have hsize : sideloadHostBlockSize = 65536 := rfl
  have hnat : sideloadHostBlockSize.toNat = 65536 := rfl
  have hoffset : (k * sideloadHostBlockSize : ℤ).toNat = k * sideloadHostBlockSize.toNat := by
    rw [hnat, hsize]
    omega
  have hcount : (toWrite package.length (k * sideloadHostBlockSize)).toNat =
      min (k * sideloadHostBlockSize.toNat + sideloadHostBlockSize.toNat) package.length -
        k * sideloadHostBlockSize.toNat := by
    rw [toWrite, hnat, hsize]
    split <;> omega
  unfold readPackage at hdata
  dsimp only at hdata
  split at hdata
  · rw [← Option.some.inj hdata, hoffset, hcount, List.extract_eq_take_drop]
  · cases hdata

/-- Digits are no NULs. -/
theorem cString_digits {s : Bytes} (hs : ∀ d ∈ s, isDigit d = true) : cString s = s := by
  rw [cString_eq_self_iff]
  intro hmem
  exact absurd (hs 0 hmem) (by decide)

/-- The number of a block is far from the bounds of an `int64_t`. -/
theorem block_inInt64 {block : ℤ} (hblock : block.natAbs < 10 ^ 8) :
    InInt64 (block * sideloadHostBlockSize) ∧
      InInt64 (block * sideloadHostBlockSize + sideloadHostBlockSize) := by
  unfold InInt64 sideloadHostBlockSize
  omega

/-- The exchange for a block, where the number of the block is one of eight characters. -/
theorem blockExchange_sound (package : Bytes) (seekWorks readWorks writeWorks : Bool)
    {command : Bytes} {block : ℤ}
    (hno : ¬ (command = lit "DONEDONE" ∨ command = lit "FAILFAIL"))
    (hblock : block.natAbs < 10 ^ 8) (hin : block * sideloadHostBlockSize < package.length)
    (hdigits : (∀ d ∈ command, isDigit d = true) → block = digitsValue command) :
    (blockExchange package seekWorks readWorks writeWorks command block).Sound package := by
  have hint64 := block_inInt64 hblock
  have haccess := toWrite_bounds hin
  unfold blockExchange
  dsimp only
  split
  · exact ⟨by simpa using hint64, by simpa using haccess, .inl rfl,
      fun hdone => absurd hdone hno⟩
  · rename_i hseek
    split
    · exact ⟨by simpa using hint64, by simpa using haccess, .inl rfl,
        fun hdone => absurd hdone hno⟩
    · rename_i data hdata
      split
      · refine ⟨by simpa using hint64, by simpa using haccess, .inr ?_,
          fun hdone => absurd hdone hno⟩
        -- The offset is not negative, so the block has a natural number.
        obtain ⟨hpos, -⟩ := not_or.mp hseek
        have hsize : sideloadHostBlockSize = 65536 := rfl
        have hnat : sideloadHostBlockSize.toNat = 65536 := rfl
        rw [hsize] at hpos hin
        obtain ⟨k, rfl⟩ : ∃ k : ℕ, block = k := Int.eq_ofNat_of_zero_le (by omega)
        refine ⟨k, by rw [hnat]; omega, readPackage_slice hdata, fun hdecimal => ?_⟩
        exact Int.ofNat.inj (hdigits hdecimal)
      · exact ⟨by simpa using hint64, by simpa using haccess, .inl rfl,
          fun hdone => absurd hdone hno⟩

/-- Every exchange for a command of eight bytes is sound, whatever the calls return. -/
theorem sideloadExchange_sound (package : Bytes) (seekWorks : ℤ → Bool)
    (readWorks writeWorks : Bool) {command : Bytes} (hcommand : command.length = 8) :
    (sideloadExchange package seekWorks readWorks writeWorks command).Sound package := by
  have hbuf : (cString command).length ≤ 8 := by
    rw [← hcommand]
    exact (cString_isPrefix command).length_le
  have hblock := strtoll_natAbs_lt (cString command) hbuf
  have hlast : command = lit "DONEDONE" ∨ command = lit "FAILFAIL" → cString command = command := by
    rintro (rfl | rfl) <;> decide
  unfold sideloadExchange
  dsimp only
  split
  · -- The last command.
    refine ⟨by simp, by simp, .inl rfl, fun hdone => ⟨rfl, ?_⟩⟩
    rw [hlast hdone]
  · rename_i hnotEnd
    have hno : ¬ (command = lit "DONEDONE" ∨ command = lit "FAILFAIL") := fun hdone =>
      hnotEnd ((hlast hdone).symm ▸ hdone)
    split
    · -- Behind the end.
      exact ⟨by simpa using block_inInt64 hblock, by simp, .inl rfl,
        fun hdone => absurd hdone hno⟩
    · rename_i hin
      refine blockExchange_sound package _ _ _ hno hblock (not_le.mp hin) fun hdecimal => ?_
      rw [cString_digits hdecimal, strtoll_digits hdecimal (by omega)]

/-! ## The run -/

/-- The exchanges of a run are sound, and one for `DONEDONE` or `FAILFAIL` is the last of the run
and decides what it returns. -/
structure SideloadSound (package : Bytes) (run : List SideloadExchange × ℤ) : Prop where
  exchanges : ∀ e ∈ run.1, e.Sound package
  last : ∀ before e after, run.1 = before ++ e :: after →
    e.command = lit "DONEDONE" ∨ e.command = lit "FAILFAIL" →
      after = [] ∧ run.2 = if e.command = lit "FAILFAIL" then 1 else 0

/-- A run without an exchange. -/
theorem SideloadSound.nil (package : Bytes) (result : ℤ) : SideloadSound package ([], result) :=
  ⟨by simp, fun before e after h => by simp at h⟩

/-- An exchange that returns is the whole run. -/
theorem SideloadSound.singleton {package : Bytes} {e : SideloadExchange} {result : ℤ}
    (he : e.Sound package) (hresult : e.result = some result) :
    SideloadSound package ([e], result) := by
  constructor
  · simpa using he
  · intro before e' after heq hdone
    cases before with
    | nil =>
      obtain ⟨rfl, rfl⟩ := List.cons.inj heq
      refine ⟨rfl, Option.some.inj ?_⟩
      rw [← hresult, (he.last hdone).2]
    | cons _ before => exact absurd (List.cons.inj heq).2 (by simp)

/-- An exchange that does not return is one for a block. -/
theorem SideloadSound.cons {package : Bytes} {e : SideloadExchange}
    {run : List SideloadExchange × ℤ} (he : e.Sound package) (hresult : e.result = none)
    (hrun : SideloadSound package run) : SideloadSound package (e :: run.1, run.2) := by
  constructor
  · exact List.forall_mem_cons.mpr ⟨he, hrun.exchanges⟩
  · intro before e' after heq hdone
    cases before with
    | nil =>
      obtain ⟨rfl, -⟩ := List.cons.inj heq
      have hreturns := (he.last hdone).2
      rw [hresult] at hreturns
      cases hreturns
    | cons _ before => exact hrun.last before e' after (List.cons.inj heq).2 hdone

/-- Every reply of a sideload is nothing, or the slice of the package at a block of it. The amounts
that are read are not 0 and fit the buffer, the arithmetic stays in 64 bits, and `DONEDONE` or
`FAILFAIL` is the last command and returns. -/
theorem sideloadServe_slices (package : Bytes) (seeks : ℕ → ℤ → Bool) (readsFile : ℕ → Bool)
    (calls : ℕ) (writes : List Bool) (reads : List (Option Bytes))
    (hcommands : ∀ read ∈ reads, ∀ command ∈ read, command.length = 8) :
    SideloadSound package (sideloadServe package seeks readsFile calls writes reads) := by
  induction reads generalizing calls writes with
  | nil => exact .nil package _
  | cons read reads ih =>
    cases read with
    | none => exact .nil package _
    | some command =>
      have he := sideloadExchange_sound package (seeks calls) (readsFile (calls + 1))
        (writes.headD false) (hcommands _ List.mem_cons_self command rfl)
      rw [sideloadServe]
      split
      · rename_i result hresult
        exact .singleton he hresult
      · rename_i hresult
        exact .cons he hresult (ih (calls + 2) writes.tail fun read hread =>
          hcommands read (List.mem_cons_of_mem _ hread))

/-- The second block of a package is short, and then the device is done. -/
theorem shortBlock_sound : SideloadSound (List.replicate 65537 7)
    (sideloadServe (List.replicate 65537 7) (fun _ _ => true) (fun _ => true) 0 [true]
      [some (lit "00000001"), some (lit "DONEDONE")]) :=
  sideloadServe_slices _ _ _ _ _ _ (by decide)

/-! ## The program of the command -/

section Program

variable (env : ClientEnv) (out : Bool) (filename : Bytes)

/-- A text leaves the connections as they are. -/
theorem capture_stays (text : Bytes) (w : Wire) :
    Prog.Runs (capture out text) w fun _ w' _ => w' = w := by
  cases out <;> exact ⟨(), rfl, rfl⟩

theorem stderr_stays (text : Bytes) (w : Wire) :
    Prog.Runs (stderr text) w fun _ w' _ => w' = w := ⟨(), rfl, rfl⟩

theorem report_stays (text : Bytes) (w : Wire) :
    Prog.Runs (report out text) w fun _ w' _ => w' = w := by
  refine (capture_stays out text w).bind fun _ w' _ hw => ?_
  subst hw
  exact stderr_stays text w'

theorem nextCall_runs (w : Wire) : Prog.Runs nextCall w fun k w' _ =>
    k = w.calls ∧ w' = { w with calls := w.calls + 1 } := ⟨w.calls, rfl, rfl, rfl⟩

/-- A round of the program agrees with an exchange: it returns as the exchange does, or goes on with
the rest of the reads and of the writes. -/
def Agrees (e : SideloadExchange) (s : SideloadState) (reads : List (Option Bytes)) (w : Wire)
    (r : SideloadState ⊕ ℤ) (w' : Wire) : Prop :=
  (∀ result, e.result = some result → r = .inr result) ∧
  (e.result = none → ∃ s', r = .inl s' ∧ s'.fd.reads = reads ∧
    s'.fd.writes = s.fd.writes.tail ∧ w'.calls = w.calls + 2)

/-- A round that returns as the exchange does. -/
theorem Agrees.returns {e : SideloadExchange} {s : SideloadState} {reads : List (Option Bytes)}
    {w w' : Wire} {result : ℤ} (he : e.result = some result) :
    Agrees e s reads w (.inr result) w' := by
  constructor
  · intro result' he'
    rw [he] at he'
    rw [Option.some.inj he']
  · intro he'
    rw [he] at he'
    cases he'

/-- A round that goes on as the exchange does. -/
theorem Agrees.goesOn {e : SideloadExchange} {s s' : SideloadState} {reads : List (Option Bytes)}
    {w w' : Wire} (he : e.result = none) (hreads : s'.fd.reads = reads)
    (hwrites : s'.fd.writes = s.fd.writes.tail) (hcalls : w'.calls = w.calls + 2) :
    Agrees e s reads w (.inl s') w' := by
  refine ⟨fun result he' => ?_, fun _ => ⟨s', rfl, hreads, hwrites, hcalls⟩⟩
  rw [he] at he'
  cases he'

/-- A percentage that may be shown, and then the next round. -/
theorem Agrees.shows {e : SideloadExchange} {s s' : SideloadState} {reads : List (Option Bytes)}
    {w w' : Wire} {c : Prop} [Decidable c] (text : Bytes)
    (h : Agrees e s reads w (.inl s') w') :
    Prog.Runs (if c then (do capture out text; return .inl s') else return .inl s') w'
      fun r w'' _ => Agrees e s reads w r w'' := by
  split
  · refine (capture_stays out text w').bind ?_
    rintro _ w'' _ rfl
    exact .pure h
  · exact .pure h

/-- A text, and then the end of the round. -/
theorem Agrees.report_pure {e : SideloadExchange} {s : SideloadState}
    {reads : List (Option Bytes)} {w w' : Wire} {result : ℤ} {p : WireM Unit}
    (hp : Prog.Runs p w' fun _ w'' _ => w'' = w') (he : e.result = some result) :
    Prog.Runs (do p; return .inr result) w' fun r w'' _ => Agrees e s reads w r w'' :=
  hp.bind fun _ _ _ _ => .pure (.returns he)

/-- A block in the package is read, unless the call fails. -/
theorem readPackage_eq_none_iff {package : Bytes} {offset : ℤ} (works : Bool) (hpos : 0 ≤ offset)
    (hin : offset < package.length) :
    readPackage package offset (toWrite package.length offset) works = none ↔ works = false := by
  have hlen : ((package.drop offset.toNat).take (toWrite package.length offset).toNat).length =
      (toWrite package.length offset).toNat := by
    rw [List.length_take, List.length_drop, toWrite]
    split <;> omega
  unfold readPackage
  dsimp only
  rw [hlen]
  cases works <;> simp

/-- A block of the program agrees with the exchange. -/
theorem sideloadBlock_runs (package command : Bytes) (block : ℤ)
    (hseek : ∀ call offset, offset < 0 → env.seeks call offset = false) (s : SideloadState)
    (hin : block * sideloadHostBlockSize < package.length) (w : Wire) :
    Prog.Runs (sideloadBlock env out filename package.length (block * sideloadHostBlockSize) s) w
      fun r w' _ => Agrees (blockExchange package
        (env.seeks w.calls (block * sideloadHostBlockSize)) (env.readsFile (w.calls + 1))
        (s.fd.writes.headD false) command block) s s.fd.reads w r w' := by
  unfold sideloadBlock blockExchange
  dsimp only
  refine (nextCall_runs w).bind ?_
  rintro k w₁ t₁ ⟨rfl, rfl⟩
  by_cases hsought : env.seeks w.calls (block * sideloadHostBlockSize) = true
  · have hpos : 0 ≤ block * sideloadHostBlockSize := by
      by_contra hneg
      rw [hseek _ _ (not_le.mp hneg)] at hsought
      cases hsought
    have hgo : ¬ (block * sideloadHostBlockSize < 0 ∨ (!true) = true) :=
      not_or.mpr ⟨not_lt.mpr hpos, by decide⟩
    rw [hsought, if_neg (show ¬ (!true) = true by decide), if_neg hgo]
    refine (nextCall_runs _).bind ?_
    rintro k w₂ t₂ ⟨rfl, rfl⟩
    dsimp only
    have hread := readPackage_eq_none_iff (env.readsFile (w.calls + 1)) hpos hin
    cases hdata : readPackage package (block * sideloadHostBlockSize)
        (toWrite package.length (block * sideloadHostBlockSize)) (env.readsFile (w.calls + 1)) with
    | none =>
      rw [hread.mp hdata]
      exact Agrees.report_pure (report_stays out _ _) rfl
    | some data =>
      have hworks : env.readsFile (w.calls + 1) = true := by
        rw [← Bool.not_eq_false, ← hread, hdata]
        simp
      rw [hworks, if_neg (show ¬ (!true) = true by decide)]
      cases s.fd.writes.headD false with
      | false =>
        rw [if_pos (show (!false) = true from rfl)]
        refine (capture_stays out _ _).bind ?_
        rintro _ w₃ _ rfl
        exact Agrees.report_pure (stderr_stays _ _) rfl
      | true =>
        rw [if_neg (show ¬ (!true) = true by decide)]
        -- The block is sent, and the percentage may be shown.
        exact Agrees.shows out _ (.goesOn rfl rfl rfl rfl)
  · rw [Bool.not_eq_true] at hsought
    rw [hsought, if_pos (show (!false) = true from rfl),
      if_pos (show _ ∨ (!false) = true from .inr rfl)]
    refine (capture_stays out _ _).bind ?_
    rintro _ w₃ _ rfl
    exact Agrees.report_pure (stderr_stays _ _) rfl

/-- A round for a command agrees with the exchange. -/
theorem sideloadRound_runs (package : Bytes)
    (hseek : ∀ call offset, offset < 0 → env.seeks call offset = false) (s : SideloadState)
    {command : Bytes} {reads : List (Option Bytes)} (hreads : s.fd.reads = some command :: reads)
    (w : Wire) :
    Prog.Runs (sideloadRound env out filename package.length s) w fun r w' _ =>
      Agrees (sideloadExchange package (env.seeks w.calls) (env.readsFile (w.calls + 1))
        (s.fd.writes.headD false) command) s reads w r w' := by
  unfold sideloadRound sideloadExchange
  rw [hreads]
  dsimp only
  by_cases hend : cString command = lit "DONEDONE" ∨ cString command = lit "FAILFAIL"
  · rw [if_pos hend, if_pos hend]
    exact Agrees.report_pure (capture_stays out _ w) rfl
  · rw [if_neg hend, if_neg hend]
    by_cases hpast : (package.length : ℤ) ≤ (strtoll (cString command)).1 * sideloadHostBlockSize
    · rw [if_pos hpast, if_pos hpast]
      exact Agrees.report_pure (report_stays out _ w) rfl
    · rw [if_neg hpast, if_neg hpast]
      exact sideloadBlock_runs env out filename package command _ hseek
        { s with fd := { s.fd with reads := reads } } (not_le.mp hpast) w

/-- Without a command the round returns. -/
theorem sideloadRound_noCommand (size : ℤ) {s : SideloadState}
    (hreads : s.fd.reads = [] ∨ ∃ reads, s.fd.reads = none :: reads) (w : Wire) :
    Prog.Runs (sideloadRound env out filename size s) w fun r _ _ => r = .inr (-1) := by
  unfold sideloadRound
  rcases hreads with hreads | ⟨reads, hreads⟩
  · rw [hreads]
    exact (report_stays out _ w).bind fun _ _ _ _ => .pure rfl
  · rw [hreads]
    exact (report_stays out _ w).bind fun _ _ _ _ => .pure rfl

/-- The loop of the program returns what the run of the exchanges does, if `lseek` fails for
negative offsets. -/
theorem sideloadLoop_result (package : Bytes)
    (hseek : ∀ call offset, offset < 0 → env.seeks call offset = false)
    (reads : List (Option Bytes)) :
    ∀ (s : SideloadState) (w : Wire) (fuel : ℕ), s.fd.reads = reads → reads.length < fuel →
      Prog.Runs (Prog.loop (sideloadRound env out filename package.length) (-1) fuel s) w
        fun result _ _ => result =
          (sideloadServe package env.seeks env.readsFile w.calls s.fd.writes reads).2 := by
  induction reads with
  | nil =>
    intro s w fuel hreads hfuel
    obtain ⟨fuel, rfl⟩ : ∃ n, fuel = n + 1 := ⟨fuel - 1, by omega⟩
    refine (sideloadRound_noCommand env out filename _ (.inl hreads) w).bind ?_
    rintro _ w' _ rfl
    exact .pure rfl
  | cons read reads ih =>
    intro s w fuel hreads hfuel
    obtain ⟨fuel, rfl⟩ : ∃ n, fuel = n + 1 := ⟨fuel - 1, by omega⟩
    rw [List.length_cons] at hfuel
    cases read with
    | none =>
      refine (sideloadRound_noCommand env out filename _ (.inr ⟨reads, hreads⟩) w).bind ?_
      rintro _ w' _ rfl
      exact .pure rfl
    | some command =>
      refine (sideloadRound_runs env out filename package hseek s hreads w).bind ?_
      rintro r w' _ ⟨hreturns, hgoesOn⟩
      rw [sideloadServe]
      cases hresult : (sideloadExchange package (env.seeks w.calls) (env.readsFile (w.calls + 1))
          (s.fd.writes.headD false) command).result with
      | some result =>
        rw [hreturns result hresult]
        exact .pure rfl
      | none =>
        -- The next round starts with what this one left to read and write.
        obtain ⟨s', rfl, hreads', hwrites, hcalls⟩ := hgoesOn hresult
        have hrest := ih s' w' fuel hreads' (by omega)
        rw [hwrites, hcalls] at hrest
        exact hrest

end Program

end AdbMobile.Client
