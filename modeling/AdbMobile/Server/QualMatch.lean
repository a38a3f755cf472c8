import AdbMobile.Server.Acquire

/-!
# The pointer of `qual_match`

`qual_match` compares a target with a prefix and a value of the device by advancing one pointer over
the target. Here the memory of the target is a function of the offset, with a NUL at the target's
length and anything behind it, and a run returns the offsets that it read.

A mismatch stops the pointer, and the target's NUL is a mismatch for every byte but a NUL. A value
that holds a NUL can match the terminator, and then the pointer goes on behind it. In every other
case the answer is exact and the pointer stays in bounds (`qualMatch_exact_iff`).
-/

namespace AdbMobile

open ByteString

/-! ## The function -/

/-- What is at an offset from `toTest.c_str()`. -/
def memoryOf (toTest : Bytes) (beyond : ℕ → UInt8) (i : ℕ) : UInt8 :=
  if i < toTest.length then toTest.getD i 0 else if i = toTest.length then 0 else beyond i

/-- Compares each byte with `*ptr++`: the pointer after the bytes where all are equal, and the
offsets that were read. -/
def compareFrom (mem : ℕ → UInt8) : Bytes → ℕ → Option ℕ × List ℕ
  | [], ptr => (some ptr, [])
  | c :: cs, ptr =>
    if c ≠ mem ptr then (none, [ptr])
    else
      let (ptr', reads) := compareFrom mem cs (ptr + 1)
      (ptr', ptr :: reads)

/-- The bytes that the first loop goes over: those of a C string, or none for a null pointer. -/
def prefixBytes (pfx : Option Bytes) : Bytes := pfx.elim [] cString

/-- The bytes that the second loop compares. -/
def qualBytes (qual : Bytes) (sanitizeQual : Bool) : Bytes :=
  qual.map fun ch => if sanitizeQual && !isAlnum ch then 95 else ch

/-- `qual_match`: its answer, and the offsets in `toTest` that it read. -/
def qualMatchAt (toTest : Bytes) (beyond : ℕ → UInt8) (pfx : Option Bytes) (qual : Bytes)
    (sanitizeQual : Bool) : Bool × List ℕ :=
  if toTest = [] then (decide (qual = []), [])
  else if qual = [] then (false, [])
  else
    let mem := memoryOf toTest beyond
    match compareFrom mem (prefixBytes pfx) 0 with
    | (none, reads) => (false, reads)
    | (some ptr, reads) =>
      match compareFrom mem (qualBytes qual sanitizeQual) ptr with
      | (none, reads') => (false, reads ++ reads')
      | (some ptr, reads') => (mem ptr == 0, reads ++ reads' ++ [ptr])

/-- The answer of `qual_match` is exact, and it reads nothing behind the NUL of the target, whatever
is there. -/
def MatchesExactly (toTest : Bytes) (pfx : Option Bytes) (qual : Bytes) (sanitizeQual : Bool) :
    Prop :=
  ∀ beyond : ℕ → UInt8,
    ((qualMatchAt toTest beyond pfx qual sanitizeQual).1 = true ↔
      toTest = prefixBytes pfx ++ qualBytes qual sanitizeQual) ∧
    ∀ i ∈ (qualMatchAt toTest beyond pfx qual sanitizeQual).2, i ≤ toTest.length

/-! ## C strings in memory -/

/-- The memory at `ptr` holds the C string `s`. -/
def CStringAt (mem : ℕ → UInt8) : ℕ → Bytes → Prop
  | ptr, [] => mem ptr = 0
  | ptr, c :: s => mem ptr = c ∧ c ≠ 0 ∧ CStringAt mem (ptr + 1) s

/-- The bytes of a C string are followed by its NUL, and none of them is one. -/
theorem cStringAt_of_reads {mem : ℕ → UInt8} {s : Bytes} {ptr : ℕ} (hnul : 0 ∉ s)
    (hreads : ∀ i, i < s.length → mem (ptr + i) = s.getD i 0) (hend : mem (ptr + s.length) = 0) :
    CStringAt mem ptr s := by
  induction s generalizing ptr with
  | nil => exact hend
  | cons c s ih =>
    have hc : mem ptr = c := hreads 0 (by simp)
    have hrest : CStringAt mem (ptr + 1) s := by
      refine ih (fun h => hnul (List.mem_cons_of_mem c h)) (fun i hi => ?_) ?_
      · have hread := hreads (i + 1) (by simpa using hi)
        rw [show ptr + 1 + i = ptr + (i + 1) by omega, hread]
        rfl
      · rw [show ptr + 1 + s.length = ptr + (s.length + 1) by omega]
        exact hend
    exact ⟨hc, fun h => hnul (h ▸ List.mem_cons_self), hrest⟩

/-- A target without a NUL is the C string at the start of its memory. -/
theorem memoryOf_cStringAt {toTest : Bytes} (hnul : 0 ∉ toTest) (beyond : ℕ → UInt8) :
    CStringAt (memoryOf toTest beyond) 0 toTest := by
  refine cStringAt_of_reads hnul (fun i hi => ?_) ?_
  · simp [memoryOf, hi]
  · simp [memoryOf]

/-- The NUL of a C string is the first one. -/
theorem CStringAt.read_eq_zero_iff {mem : ℕ → UInt8} {ptr i : ℕ} {s : Bytes}
    (hs : CStringAt mem ptr s) (hi : i ≤ s.length) : mem (ptr + i) = 0 ↔ i = s.length := by
  induction s generalizing ptr i with
  | nil =>
    obtain rfl : i = 0 := by simpa using hi
    have hend : mem ptr = 0 := hs
    simp [hend]
  | cons c s ih =>
    obtain ⟨hc, hne, hrest⟩ := hs
    cases i with
    | zero => simp [hc, hne]
    | succ i =>
      have hread := ih hrest (i := i) (by simpa using hi)
      rw [show ptr + (i + 1) = ptr + 1 + i by omega, hread]
      simp

/-! ## The loops -/

section Loops

variable {mem : ℕ → UInt8}

/-- Past a mismatch nothing is compared. -/
theorem compareFrom_append_none {cs : Bytes} {ptr : ℕ} (ds : Bytes)
    (hstop : (compareFrom mem cs ptr).1 = none) :
    compareFrom mem (cs ++ ds) ptr = (none, (compareFrom mem cs ptr).2) := by
  induction cs generalizing ptr with
  | nil => cases hstop
  | cons c cs ih =>
    simp only [List.cons_append, compareFrom] at hstop ⊢
    split
    · rfl
    · rename_i heq
      rw [if_neg heq] at hstop
      rw [ih hstop]

/-- Comparing two strings one after the other is comparing them together. -/
theorem compareFrom_append_some {cs : Bytes} {ptr ptr' : ℕ} (ds : Bytes)
    (hgo : (compareFrom mem cs ptr).1 = some ptr') :
    compareFrom mem (cs ++ ds) ptr =
      ((compareFrom mem ds ptr').1, (compareFrom mem cs ptr).2 ++ (compareFrom mem ds ptr').2) := by
  induction cs generalizing ptr with
  | nil =>
    obtain rfl : ptr = ptr' := Option.some.inj hgo
    rfl
  | cons c cs ih =>
    simp only [List.cons_append, compareFrom] at hgo ⊢
    split
    · rename_i hne
      rw [if_pos hne] at hgo
      cases hgo
    · rename_i heq
      rw [if_neg heq] at hgo
      rw [ih hgo]
      rfl

/-- Comparing with a C string, the NUL included in the bytes or not: the pointer stays in it unless
the bytes go through its NUL, and it comes out exactly where they start the string. -/
theorem compareFrom_spec {s cs : Bytes} {ptr : ℕ} (hs : CStringAt mem ptr s)
    (hin : ¬ s ++ [0] <+: cs) :
    (compareFrom mem cs ptr).1 = (if cs <+: s then some (ptr + cs.length) else none) ∧
      ∀ i ∈ (compareFrom mem cs ptr).2, i ≤ ptr + s.length := by
  induction cs generalizing ptr s with
  | nil => simp [compareFrom]
  | cons c cs ih =>
    cases s with
    | nil =>
      -- At the NUL: the byte is another one.
      have hend : mem ptr = 0 := hs
      have hc : c ≠ 0 := fun h => hin (by simp [h])
      simp [compareFrom, hend, hc]
    | cons d s =>
      obtain ⟨hd, -, hrest⟩ := hs
      by_cases hcd : c = d
      · subst hcd
        have hin' : ¬ s ++ [0] <+: cs := fun h => hin (by simpa using h)
        obtain ⟨hptr, hreads⟩ := ih hrest hin'
        have hstep : compareFrom mem (c :: cs) ptr =
            ((compareFrom mem cs (ptr + 1)).1, ptr :: (compareFrom mem cs (ptr + 1)).2) := by
          rw [compareFrom, if_neg (not_not.mpr hd.symm)]
        rw [hstep]
        constructor
        · rw [hptr]
          simp only [List.cons_prefix_cons, true_and, List.length_cons]
          rw [show ptr + 1 + cs.length = ptr + (cs.length + 1) by omega]
        · intro i hi
          rcases List.mem_cons.mp hi with rfl | hi
          · omega
          · have hle := hreads i hi
            simp only [List.length_cons]
            omega
      · simp [compareFrom, hd, hcd]

/-- Bytes that go through the NUL of a C string take the pointer behind it. -/
theorem compareFrom_past {s cs : Bytes} {ptr : ℕ} (hs : CStringAt mem ptr s)
    (hpast : s ++ [0] <+: cs) :
    (∃ i ∈ (compareFrom mem cs ptr).2, ptr + s.length < i) ∨
      ∃ ptr', (compareFrom mem cs ptr).1 = some ptr' ∧ ptr + s.length < ptr' := by
  induction s generalizing ptr cs with
  | nil =>
    have hend : mem ptr = 0 := hs
    obtain ⟨ds, rfl⟩ := hpast
    have hstep : compareFrom mem ([] ++ [0] ++ ds) ptr =
        ((compareFrom mem ds (ptr + 1)).1, ptr :: (compareFrom mem ds (ptr + 1)).2) := by
      simp [compareFrom, hend]
    rw [hstep]
    cases ds with
    | nil => exact .inr ⟨ptr + 1, rfl, by simp⟩
    | cons d ds =>
      -- The next comparison reads behind the NUL, whatever it finds.
      refine .inl ⟨ptr + 1, List.mem_cons_of_mem _ ?_, by simp⟩
      rw [compareFrom]
      split
      · simp
      · simp
  | cons c s ih =>
    obtain ⟨hc, -, hrest⟩ := hs
    obtain ⟨ds, rfl⟩ := hpast
    have hstep : compareFrom mem (c :: s ++ [0] ++ ds) ptr =
        ((compareFrom mem (s ++ [0] ++ ds) (ptr + 1)).1,
          ptr :: (compareFrom mem (s ++ [0] ++ ds) (ptr + 1)).2) := by
      simp [compareFrom, hc]
    rw [hstep, List.length_cons]
    rcases ih hrest ⟨ds, rfl⟩ with ⟨i, hi, hlt⟩ | ⟨ptr', hptr, hlt⟩
    · exact .inl ⟨i, List.mem_cons_of_mem _ hi, by omega⟩
    · exact .inr ⟨ptr', hptr, by omega⟩

end Loops

/-! ## The answer -/

section Answer

variable {toTest qual : Bytes} (beyond : ℕ → UInt8) (pfx : Option Bytes) (sanitizeQual : Bool)

/-- The two loops are one comparison with the prefix and the value, and then the check for the end
of the target. -/
theorem qualMatchAt_eq (hne : toTest ≠ []) (hqual : qual ≠ []) :
    let r := compareFrom (memoryOf toTest beyond) (prefixBytes pfx ++ qualBytes qual sanitizeQual) 0
    qualMatchAt toTest beyond pfx qual sanitizeQual =
      (r.1.any fun ptr => memoryOf toTest beyond ptr == 0, r.2 ++ r.1.toList) := by
  intro r
  rw [qualMatchAt, if_neg hne, if_neg hqual]
  dsimp only
  rcases hfirst : compareFrom (memoryOf toTest beyond) (prefixBytes pfx) 0 with ⟨ptr, reads⟩
  cases ptr with
  | none =>
    have hr : r = (none, (compareFrom (memoryOf toTest beyond) (prefixBytes pfx) 0).2) :=
      compareFrom_append_none _ (congrArg Prod.fst hfirst)
    rw [hfirst] at hr
    simp [hr]
  | some ptr =>
    dsimp only
    have hr : r = ((compareFrom (memoryOf toTest beyond) (qualBytes qual sanitizeQual) ptr).1,
        (compareFrom (memoryOf toTest beyond) (prefixBytes pfx) 0).2 ++
          (compareFrom (memoryOf toTest beyond) (qualBytes qual sanitizeQual) ptr).2) :=
      compareFrom_append_some _ (congrArg Prod.fst hfirst)
    rw [hfirst] at hr
    rcases hsecond : compareFrom (memoryOf toTest beyond) (qualBytes qual sanitizeQual) ptr with
      ⟨ptr', reads'⟩
    rw [hr, hsecond]
    cases ptr' with
    | none => simp
    | some ptr' => simp

/-- Where the prefix and the value do not go through the NUL of the target, the answer is whether
they are the target, and nothing behind the NUL is read. -/
theorem qualMatchAt_inBounds (hne : toTest ≠ []) (hnul : 0 ∉ toTest) (hqual : qual ≠ [])
    (hin : ¬ toTest ++ [0] <+: prefixBytes pfx ++ qualBytes qual sanitizeQual) :
    (qualMatchAt toTest beyond pfx qual sanitizeQual).1 =
        decide (toTest = prefixBytes pfx ++ qualBytes qual sanitizeQual) ∧
      ∀ i ∈ (qualMatchAt toTest beyond pfx qual sanitizeQual).2, i ≤ toTest.length := by
  have hs := memoryOf_cStringAt hnul beyond
  obtain ⟨hptr, hreads⟩ := compareFrom_spec hs hin
  have heq := qualMatchAt_eq beyond pfx sanitizeQual hne hqual
  dsimp only at heq
  rw [heq, hptr]
  rw [Nat.zero_add] at hreads
  -- If all of it compares equal, the byte behind it is read once more.
  by_cases hstarts : prefixBytes pfx ++ qualBytes qual sanitizeQual <+: toTest
  · have hle := hstarts.length_le
    have hend := hs.read_eq_zero_iff hle
    rw [if_pos hstarts]
    constructor
    · have hall : (prefixBytes pfx ++ qualBytes qual sanitizeQual).length = toTest.length ↔
          toTest = prefixBytes pfx ++ qualBytes qual sanitizeQual :=
        ⟨fun h => (hstarts.eq_of_length h).symm, fun h => congrArg List.length h.symm⟩
      rw [Option.any_some, beq_eq_decide, decide_eq_decide, hend, hall]
    · intro i hi
      rcases List.mem_append.mp hi with hi | hi
      · exact hreads i hi
      · have hi' : i = 0 + (prefixBytes pfx ++ qualBytes qual sanitizeQual).length := by
          simpa using hi
        omega
  · have hother : toTest ≠ prefixBytes pfx ++ qualBytes qual sanitizeQual :=
      fun h => hstarts (h ▸ List.prefix_rfl)
    rw [if_neg hstarts]
    simpa [hother] using hreads

/-- Where they go through it, something behind the NUL is read. -/
theorem qualMatchAt_past (hne : toTest ≠ []) (hnul : 0 ∉ toTest) (hqual : qual ≠ [])
    (hpast : toTest ++ [0] <+: prefixBytes pfx ++ qualBytes qual sanitizeQual) :
    ∃ i ∈ (qualMatchAt toTest beyond pfx qual sanitizeQual).2, toTest.length < i := by
  have heq := qualMatchAt_eq beyond pfx sanitizeQual hne hqual
  dsimp only at heq
  rw [heq]
  rcases compareFrom_past (memoryOf_cStringAt hnul beyond) hpast with
    ⟨i, hi, hlt⟩ | ⟨ptr, hptr, hlt⟩
  · exact ⟨i, List.mem_append_left _ hi, by omega⟩
  · exact ⟨ptr, by simp [hptr], by omega⟩

end Answer

/-- The answer of the model without pointers is always the exact one. -/
theorem qualMatch_iff {toTest qual : Bytes} (pfx : Bytes) (sanitizeQual : Bool)
    (hne : toTest ≠ []) (hnul : 0 ∉ toTest) (hqual : qual ≠ []) :
    qualMatch toTest pfx qual sanitizeQual = true ↔
      toTest = pfx ++ qualBytes qual sanitizeQual := by
  have hbytes : (if sanitizeQual then qual.map fun c => if isAlnum c then c else 95 else qual) =
      qualBytes qual sanitizeQual := by
    cases sanitizeQual with
    | false => simp [qualBytes]
    | true =>
      refine List.map_congr_left fun c _ => ?_
      cases isAlnum c <;> rfl
  rw [qualMatch, if_neg hne, if_neg hqual]
  dsimp only
  rw [hbytes]
  constructor
  · intro hmatch
    split at hmatch
    · rename_i rest hrest
      rw [consumePrefix_eq_some_iff] at hrest
      obtain ⟨tail, rfl⟩ : ∃ tail, rest = 0 :: tail :=
        List.head?_eq_some_iff.mp (of_decide_eq_true hmatch)
      -- The only NUL is the last byte.
      have htail : tail = [] := by
        by_contra hcons
        obtain ⟨init, last, rfl⟩ := List.eq_nil_or_concat' tail |>.resolve_left hcons
        have hinit : toTest ++ [0] = pfx ++ qualBytes qual sanitizeQual ++ 0 :: init ++ [last] := by
          simpa using hrest
        exact hnul (by simp [List.append_inj_left' hinit rfl])
      subst htail
      exact List.append_cancel_right hrest
    · cases hmatch
  · intro heq
    have hrest : consumePrefix (toTest ++ [0]) (pfx ++ qualBytes qual sanitizeQual) = some [0] :=
      consumePrefix_eq_some_iff.mpr (by rw [heq])
    rw [hrest]
    rfl

/-- Where the pointer stays in bounds, the answer is that of the model without pointers. -/
theorem qualMatchAt_eq_qualMatch {toTest qual : Bytes} (beyond : ℕ → UInt8) (pfx : Bytes)
    (sanitizeQual : Bool) (hnul : 0 ∉ toTest)
    (hin : ¬ toTest ++ [0] <+: prefixBytes (some pfx) ++ qualBytes qual sanitizeQual) :
    (qualMatchAt toTest beyond (some pfx) qual sanitizeQual).1 =
      qualMatch toTest (cString pfx) qual sanitizeQual := by
  by_cases hne : toTest = []
  · rw [qualMatchAt, qualMatch, if_pos hne, if_pos hne]
  · by_cases hqual : qual = []
    · rw [qualMatchAt, qualMatch, if_neg hne, if_neg hne, if_pos hqual, if_pos hqual]
    · have hanswer := (qualMatchAt_inBounds beyond (some pfx) sanitizeQual hne hnul hqual hin).1
      rw [hanswer, Bool.eq_iff_iff, decide_eq_true_iff, qualMatch_iff _ _ hne hnul hqual]
      rfl

/-! ## The condition -/

/-- A sanitized value holds no NUL. -/
theorem qualBytes_true_ne_zero (qual : Bytes) : 0 ∉ qualBytes qual true := by
  intro hmem
  obtain ⟨ch, -, hch⟩ := List.mem_map.mp hmem
  revert hch
  cases halnum : isAlnum ch with
  | false => simp
  | true =>
    intro hzero
    obtain rfl : ch = 0 := by simpa using hzero
    revert halnum
    decide

/-- A C string holds no NUL. -/
theorem zero_not_mem_cString (mem : Bytes) : 0 ∉ cString mem := fun hmem => by
  simpa using List.mem_takeWhile_imp hmem

theorem zero_not_mem_prefixBytes (pfx : Option Bytes) : 0 ∉ prefixBytes pfx := by
  cases pfx with
  | none => exact List.not_mem_nil
  | some pfx => exact zero_not_mem_cString pfx

/-- A C string goes on over bytes that are not NULs. -/
theorem cString_append {s : Bytes} (hnul : 0 ∉ s) (rest : Bytes) :
    cString (s ++ rest) = s ++ cString rest := by
  refine List.takeWhile_append_of_pos fun c hc => ?_
  have hne : c ≠ 0 := fun h => hnul (h ▸ hc)
  simpa using hne

/-- A string with a NUL is its C string, that NUL, and the rest. -/
theorem eq_cString_append {s : Bytes} (hmem : 0 ∈ s) : ∃ rest, s = cString s ++ 0 :: rest := by
  obtain ⟨a, rest, rfl, ha⟩ := List.eq_append_cons_of_mem hmem
  refine ⟨rest, ?_⟩
  rw [cString_append ha]
  simp [cString]

/-- The prefix and the value go through the NUL of the target exactly where the value is compared
as it is and holds a NUL, and the target is the prefix and what the value has before the NUL. -/
theorem through_nul_iff {toTest : Bytes} (hnul : 0 ∉ toTest) (pfx : Option Bytes) (qual : Bytes)
    (sanitizeQual : Bool) :
    toTest ++ [0] <+: prefixBytes pfx ++ qualBytes qual sanitizeQual ↔
      sanitizeQual = false ∧ 0 ∈ qual ∧ toTest = prefixBytes pfx ++ cString qual := by
  have hpfx := zero_not_mem_prefixBytes pfx
  cases sanitizeQual with
  | true =>
    -- What is compared in place of a NUL is an underscore.
    have hnone : 0 ∉ prefixBytes pfx ++ qualBytes qual true :=
      List.not_mem_append hpfx (qualBytes_true_ne_zero qual)
    constructor
    · intro hpast
      exact absurd (hpast.subset (by simp)) hnone
    · rintro ⟨hfalse, -⟩
      cases hfalse
  | false =>
    have hplain : qualBytes qual false = qual := by simp [qualBytes]
    rw [hplain]
    constructor
    · rintro ⟨rest, heq⟩
      have hmem : 0 ∈ qual := by
        have hall : (0 : UInt8) ∈ prefixBytes pfx ++ qual := by simp [← heq]
        exact (List.mem_append.mp hall).resolve_left hpfx
      refine ⟨rfl, hmem, ?_⟩
      calc toTest = cString (toTest ++ [0] ++ rest) := by
            rw [List.append_assoc, cString_append hnul]
            simp [cString]
        _ = cString (prefixBytes pfx ++ qual) := by rw [heq]
        _ = prefixBytes pfx ++ cString qual := cString_append hpfx qual
    · rintro ⟨-, hmem, rfl⟩
      obtain ⟨rest, hrest⟩ := eq_cString_append hmem
      refine ⟨rest, ?_⟩
      nth_rewrite 2 [hrest]
      simp

/-- `qual_match` is exact and in bounds, unless a value that is compared as it is has a NUL, and
before it the rest of the target. -/
theorem qualMatch_exact_iff {toTest qual : Bytes} (hne : toTest ≠ []) (hnul : 0 ∉ toTest)
    (hqual : qual ≠ []) (pfx : Option Bytes) (sanitizeQual : Bool) :
    MatchesExactly toTest pfx qual sanitizeQual ↔
      ¬ (sanitizeQual = false ∧ 0 ∈ qual ∧ toTest = prefixBytes pfx ++ cString qual) := by
  rw [← through_nul_iff hnul]
  constructor
  · intro hexact hpast
    obtain ⟨i, hi, hlt⟩ := qualMatchAt_past (fun _ => 0) pfx sanitizeQual hne hnul hqual hpast
    exact absurd ((hexact fun _ => 0).2 i hi) (by omega)
  · intro hin beyond
    obtain ⟨hanswer, hreads⟩ := qualMatchAt_inBounds beyond pfx sanitizeQual hne hnul hqual hin
    exact ⟨by rw [hanswer, decide_eq_true_iff], hreads⟩

/-- A product without a NUL is matched exactly. -/
theorem taimen_exact : MatchesExactly (lit "product:taimen") (some (lit "product:")) (lit "taimen")
    false := by
  refine (qualMatch_exact_iff (by decide) (by decide) (by decide) _ false).mpr ?_
  rintro ⟨-, hmem, -⟩
  revert hmem
  decide

/-- The banner of a device whose product ends with a NUL. -/
def nulBanner : Bytes := lit "device::ro.product.name=a" ++ [0] ++ lit ";"

/-- The banner is parsed with the NUL, and the target `product:a` is compared past its own. -/
theorem nulProduct_not_exact :
    let t := (ATransport.new .usb [] .connecting false).parseBannerProps false nulBanner
    ¬ MatchesExactly (lit "product:a") (some (lit "product:")) t.product false := by
  intro t hexact
  have hproduct : t.product = lit "a" ++ [0] := by decide
  rw [hproduct] at hexact
  -- The offset 10 is the one behind the NUL of `product:a`.
  have hread : 10 ∈ (qualMatchAt (lit "product:a") (fun _ => 0) (some (lit "product:"))
      (lit "a" ++ [0]) false).2 := by decide
  exact absurd ((hexact fun _ => 0).2 10 hread) (by decide)

end AdbMobile
