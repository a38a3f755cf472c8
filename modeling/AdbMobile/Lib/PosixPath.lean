import AdbMobile.Lib.ByteString

/-!
# POSIX paths

A path is a byte string whose components are separated by slashes. `dirname` and `basename` are
those of POSIX. What a path denotes lexically is whether it is absolute, and its components without
the empty ones and `.` (`location`): two paths with one location lead to the same place, and a path
is inside a directory when its location is the directory's followed by components none of which is
`..` (`Inside`).
-/

namespace PosixPath

open ByteString

/-- `/`. -/
abbrev slash : UInt8 := 47

/-- The path without the slashes that end it. -/
def stripSlashes (p : Bytes) : Bytes := p.rdropWhile (· = slash)

/-- The root that a path of slashes alone denotes: exactly two of them are kept. -/
def rootOf (slashes : Bytes) : Bytes := if slashes.length = 2 then [slash, slash] else [slash]

/-- `dirname`. -/
def dirname (p : Bytes) : Bytes :=
  let body := stripSlashes p
  if body = [] then if p = [] then lit "." else rootOf p
  else
    let parent := body.rdropWhile (· ≠ slash)
    if parent = [] then lit "."
    else
      let dir := stripSlashes parent
      if dir = [] then rootOf parent else dir

/-- `basename`. -/
def basename (p : Bytes) : Bytes :=
  let body := stripSlashes p
  if body = [] then if p = [] then lit "." else [slash]
  else body.rtakeWhile (· ≠ slash)

/-- The path with a separator at its end. -/
def withSeparator (p : Bytes) : Bytes := if p.getLast? = some slash then p else p ++ [slash]

/-- The components that say where a path leads. -/
def components (p : Bytes) : List Bytes :=
  (split slash p).filter fun c => c ≠ [] ∧ c ≠ lit "."

/-- Where a path leads: from the root or not, and through which components. -/
def location (p : Bytes) : Bool × List Bytes := (p.head? = some slash, components p)

/-- A component of a path that stays where it is put: one name, neither `.` nor `..`. -/
def SafeName (n : Bytes) : Prop := slash ∉ n ∧ n ≠ lit "." ∧ n ≠ lit ".."

/-- The path is `dir` followed by components none of which is `..`. -/
def Inside (dir p : Bytes) : Prop :=
  ∃ ns, lit ".." ∉ ns ∧ location p = ((location dir).1, (location dir).2 ++ ns)

/-- The path is the path `dir` extended by names, with an optional separator at the end. -/
def Extends (dir p : Bytes) : Prop :=
  ∃ ns, ns ≠ [] ∧ (∀ n ∈ ns, SafeName n) ∧
    (p = withSeparator dir ++ join slash ns ∨ p = withSeparator dir ++ join slash ns ++ [slash])

/-! ## Components -/

/-- Splitting at a separator splits each side. -/
theorem split_append_cons (sep : UInt8) (p q : Bytes) :
    split sep (p ++ sep :: q) = split sep p ++ split sep q :=
  List.splitOn_append_cons_self p q

@[simp] theorem components_nil : components [] = [] := by decide

/-- The components on both sides of a slash. -/
theorem components_append_slash (p q : Bytes) :
    components (p ++ slash :: q) = components p ++ components q := by
  simp only [components, split_append_cons, List.filter_append]

/-- A slash at the end adds no component. -/
@[simp] theorem components_concat_slash (p : Bytes) : components (p ++ [slash]) = components p := by
  rw [components_append_slash, components_nil, List.append_nil]

/-- A slash at the start adds no component. -/
@[simp] theorem components_cons_slash (p : Bytes) : components (slash :: p) = components p := by
  have h := components_append_slash [] p
  rwa [List.nil_append, components_nil, List.nil_append] at h

/-- A name without a slash is one component, where it is one at all. -/
theorem components_name {n : Bytes} (h : slash ∉ n) :
    components n = [n].filter fun c => c ≠ [] ∧ c ≠ lit "." := by
  rw [components, split_eq_singleton_iff.mpr ⟨rfl, h⟩]

/-- Slashes alone have no components. -/
theorem components_slashes {p : Bytes} (h : ∀ b ∈ p, b = slash) : components p = [] := by
  induction p with
  | nil => exact components_nil
  | cons b p ih =>
    rw [h b List.mem_cons_self, components_cons_slash]
    exact ih fun c hc => h c (List.mem_cons_of_mem b hc)

/-- Slashes at the end add no components. -/
theorem components_append_slashes (p : Bytes) {q : Bytes} (h : ∀ b ∈ q, b = slash) :
    components (p ++ q) = components p := by
  cases q with
  | nil => rw [List.append_nil]
  | cons b q =>
    rw [h b List.mem_cons_self, components_append_slash,
      components_slashes fun c hc => h c (List.mem_cons_of_mem b hc), List.append_nil]

@[simp] theorem components_withSeparator (p : Bytes) :
    components (withSeparator p) = components p := by
  unfold withSeparator
  split
  · rfl
  · exact components_concat_slash p

/-- A separator at the end of a path that is not empty leaves it relative or absolute. -/
theorem head_withSeparator {p : Bytes} (h : p ≠ []) : (withSeparator p).head? = p.head? := by
  unfold withSeparator
  split
  · rfl
  · exact List.head?_append_of_ne_nil p h

/-- A separator at the end of a path that is not empty leaves where it leads. -/
theorem location_withSeparator {p : Bytes} (h : p ≠ []) :
    location (withSeparator p) = location p := by
  rw [location, head_withSeparator h, components_withSeparator, location]

/-- The path with a separator ends with it. -/
theorem withSeparator_eq (p : Bytes) : ∃ q, withSeparator p = q ++ [slash] ∧
    components q = components p := by
  unfold withSeparator
  split
  · rename_i h
    obtain ⟨q, hq⟩ := List.getLast?_eq_some_iff.mp h
    exact ⟨q, hq, by rw [hq, components_concat_slash]⟩
  · exact ⟨p, rfl, rfl⟩

theorem withSeparator_ne_nil (p : Bytes) : withSeparator p ≠ [] := by
  obtain ⟨q, hq, -⟩ := withSeparator_eq p
  rw [hq]
  exact List.append_ne_nil_of_right_ne_nil q (List.cons_ne_nil slash [])

/-- The components of a path below a directory. -/
theorem components_below (dir p : Bytes) :
    components (withSeparator dir ++ p) = components dir ++ components p := by
  obtain ⟨q, hq, hcomp⟩ := withSeparator_eq dir
  rw [hq, List.append_assoc, List.singleton_append, components_append_slash, hcomp]

/-- Where a path below a directory leads. -/
theorem location_below {dir : Bytes} (hdir : dir ≠ []) (p : Bytes) :
    location (withSeparator dir ++ p) = ((location dir).1, (location dir).2 ++ components p) := by
  rw [location, List.head?_append_of_ne_nil _ (withSeparator_ne_nil dir), head_withSeparator hdir,
    components_below]
  rfl

/-- The components of names joined by slashes are those of the names. -/
theorem components_join {ns : List Bytes} (h : ∀ n ∈ ns, slash ∉ n) :
    components (join slash ns) = ns.filter fun c => c ≠ [] ∧ c ≠ lit "." := by
  cases ns with
  | nil => exact components_nil
  | cons n ns =>
    rw [components, split, join, List.splitOn_intercalate]
    · exact h
    · exact List.cons_ne_nil n ns

/-! ## Extending a path -/

/-- Joining two lists of names. -/
theorem join_append {ns ms : List Bytes} (hn : ns ≠ []) (hm : ms ≠ []) :
    join slash (ns ++ ms) = join slash ns ++ slash :: join slash ms := by
  induction ns with
  | nil => exact absurd rfl hn
  | cons n ns ih =>
    cases ns with
    | nil =>
      obtain ⟨m, ms, rfl⟩ := List.exists_cons_of_ne_nil hm
      simp [join, List.intercalate, List.intersperse]
    | cons n' ns =>
      have ih := ih (List.cons_ne_nil n' ns)
      simp only [join, List.intercalate, List.cons_append, List.intersperse, List.flatten_cons]
        at ih ⊢
      rw [ih]
      simp

theorem join_singleton (n : Bytes) : join slash [n] = n := by
  simp [join, List.intercalate, List.intersperse]

/-- A name in a directory, with or without a separator after it. -/
theorem Extends.name (dir : Bytes) {n : Bytes} (h : SafeName n) :
    Extends dir (withSeparator dir ++ n) ∧
      Extends dir (withSeparator (withSeparator dir ++ n)) := by
  have hall : ∀ m ∈ [n], SafeName m := fun m hm => List.mem_singleton.mp hm ▸ h
  have hpath : withSeparator dir ++ n = withSeparator dir ++ join slash [n] := by
    rw [join_singleton]
  refine ⟨⟨[n], List.cons_ne_nil n [], hall, .inl hpath⟩, [n], List.cons_ne_nil n [], hall, ?_⟩
  rw [← hpath, withSeparator.eq_def (withSeparator dir ++ n)]
  split
  · exact .inl rfl
  · exact .inr rfl

/-- Where a path that extends a directory is itself the directory: a slash follows its names, unless
the last of them is empty. -/
theorem Extends.below {dir d : Bytes} (h : Extends dir d) :
    ∃ ns, (∀ n ∈ ns, SafeName n) ∧ ∀ ms, ms ≠ [] →
      withSeparator d ++ join slash ms = withSeparator dir ++ join slash (ns ++ ms) := by
  obtain ⟨ns, hne, hsafe, hd⟩ := h
  have hslash : ∀ ms, ms ≠ [] → withSeparator dir ++ join slash ns ++ [slash] ++
      join slash ms = withSeparator dir ++ join slash (ns ++ ms) := by
    intro ms hm
    simp [join_append hne hm]
  obtain rfl | rfl := hd
  · by_cases hlast : (withSeparator dir ++ join slash ns).getLast? = some slash
    · -- Only an empty name at the end leaves a slash there, so the names before it are meant.
      obtain ⟨front, n, hconcat⟩ := (List.eq_nil_or_concat ns).resolve_left hne
      rw [List.concat_eq_append] at hconcat
      subst hconcat
      have hn := hsafe n (by simp)
      have hnil : n = [] := by
        by_contra hn'
        have hin : n.getLast? = some slash := by
          cases front with
          | nil =>
            rw [List.nil_append, join_singleton, List.getLast?_append_of_ne_nil _ hn'] at hlast
            exact hlast
          | cons m front =>
            rw [join_append (List.cons_ne_nil m front) (List.cons_ne_nil n []), join_singleton,
              ← List.append_assoc, List.getLast?_append_of_ne_nil _ (List.cons_ne_nil slash n),
              List.getLast?_cons_of_ne_nil hn'] at hlast
            exact hlast
        exact hn.1 (List.mem_of_getLast? hin)
      subst hnil
      refine ⟨front, fun m hm => hsafe m (List.mem_append_left _ hm), fun ms hm => ?_⟩
      rw [withSeparator.eq_def (withSeparator dir ++ _), if_pos hlast]
      cases front with
      | nil => simp [join_singleton]
      | cons m front =>
        rw [join_append (List.cons_ne_nil m front) (List.cons_ne_nil [] []),
          join_append (List.cons_ne_nil m front) hm, join_singleton]
        simp
    · refine ⟨ns, hsafe, fun ms hm => ?_⟩
      rw [withSeparator.eq_def (withSeparator dir ++ _), if_neg hlast]
      exact hslash ms hm
  · refine ⟨ns, hsafe, fun ms hm => ?_⟩
    rw [withSeparator.eq_def (_ ++ [slash]), if_pos (by simp)]
    exact hslash ms hm

/-- A path that extends one that extends a directory extends the directory. -/
theorem Extends.trans {dir d p : Bytes} (h : Extends dir d) (hp : Extends d p) :
    Extends dir p := by
  obtain ⟨ns, hns, hsep⟩ := h.below
  obtain ⟨ms, hne, hms, hp⟩ := hp
  rw [hsep ms hne] at hp
  refine ⟨ns ++ ms, by simp [hne], fun n hn => ?_, hp⟩
  exact (List.mem_append.mp hn).elim (hns n) (hms n)

/-- What extends a directory is inside it. -/
theorem Extends.inside {dir p : Bytes} (hdir : dir ≠ []) (h : Extends dir p) : Inside dir p := by
  obtain ⟨ns, -, hsafe, hp⟩ := h
  refine ⟨ns.filter fun c => c ≠ [] ∧ c ≠ lit ".", ?_, ?_⟩
  · exact fun hmem => (hsafe _ (List.mem_of_mem_filter hmem)).2.2 rfl
  · have hsep := withSeparator_ne_nil dir
    have hloc : location (withSeparator dir ++ join slash ns) =
        ((location dir).1, (location dir).2 ++ ns.filter fun c => c ≠ [] ∧ c ≠ lit ".") := by
      rw [location_below hdir, components_join fun n hn => (hsafe n hn).1]
    obtain rfl | rfl := hp
    · exact hloc
    · rw [← hloc, location, location, components_concat_slash, List.head?_append_of_ne_nil]
      simp [hsep]

/-- What leads to a directory is inside it. -/
theorem Inside.of_location {dir p : Bytes} (h : location p = location dir) : Inside dir p :=
  ⟨[], List.not_mem_nil, by rw [h, List.append_nil]⟩

/-- What is inside a directory inside another one is inside that one. -/
theorem Inside.trans {dir d p : Bytes} (hd : Inside dir d) (hp : Inside d p) : Inside dir p := by
  obtain ⟨ns, hns, hd⟩ := hd
  obtain ⟨ms, hms, hp⟩ := hp
  refine ⟨ns ++ ms, fun hmem => (List.mem_append.mp hmem).elim hns hms, ?_⟩
  rw [hp, hd, List.append_assoc]

/-- A path below a directory is inside it, unless it goes up. -/
theorem inside_below_iff {dir : Bytes} (hdir : dir ≠ []) (p : Bytes) :
    Inside dir (withSeparator dir ++ p) ↔ lit ".." ∉ components p := by
  rw [Inside, location_below hdir]
  constructor
  · rintro ⟨ns, hns, hloc⟩
    rwa [List.append_cancel_left (Prod.mk.inj hloc).2]
  · exact fun h => ⟨components p, h, rfl⟩

/-- Being inside depends on where the directory leads. -/
theorem Inside.of_dir {dir dir' p : Bytes} (h : Inside dir' p)
    (hdir : location dir = location dir') :
    Inside dir p := by
  unfold Inside
  rwa [hdir]

/-- Being inside depends on where a path leads. -/
theorem Inside.congr {dir p q : Bytes} (h : Inside dir q) (hp : location p = location q) :
    Inside dir p := by
  obtain ⟨ns, hns, hq⟩ := h
  exact ⟨ns, hns, hp.trans hq⟩

/-! ## `dirname` and `basename` -/

/-- What `stripSlashes` takes off are slashes. -/
theorem stripSlashes_spec (p : Bytes) : ∃ q, (∀ b ∈ q, b = slash) ∧ p = stripSlashes p ++ q :=
  ⟨p.rtakeWhile (· = slash), fun b hb => by simpa using List.mem_rtakeWhile_imp hb,
    List.rdropWhile_append_rtakeWhile.symm⟩

@[simp] theorem components_stripSlashes (p : Bytes) :
    components (stripSlashes p) = components p := by
  obtain ⟨q, hq, hp⟩ := stripSlashes_spec p
  conv_rhs => rw [hp]
  exact (components_append_slashes _ hq).symm

/-- A path that is slashes alone is its own `rootOf`, as far as it leads. -/
theorem location_rootOf {p : Bytes} (hp : p ≠ []) (hstrip : stripSlashes p = []) :
    location (rootOf p) = location p := by
  have hall : ∀ b ∈ p, b = slash := by
    simpa [stripSlashes, List.rdropWhile_eq_nil_iff] using hstrip
  have hhead : p.head? = some slash := by
    cases p with
    | nil => exact absurd rfl hp
    | cons b p => rw [hall b List.mem_cons_self, List.head?_cons]
  have hroot : location (rootOf p) = (true, []) := by
    unfold rootOf
    split <;> decide
  rw [hroot, location, components_slashes hall, hhead]
  rfl

/-- What is left of a path that is stripped of its slashes starts as the path does. -/
theorem head_stripSlashes {p : Bytes} (h : stripSlashes p ≠ []) :
    (stripSlashes p).head? = p.head? := by
  obtain ⟨q, -, hp⟩ := stripSlashes_spec p
  conv_rhs => rw [hp]
  exact (List.head?_append_of_ne_nil _ h).symm

/-- Stripping leaves where a path leads, unless nothing is left. -/
theorem location_stripSlashes {p : Bytes} (h : stripSlashes p ≠ []) :
    location (stripSlashes p) = location p := by
  rw [location, location, head_stripSlashes h, components_stripSlashes]

/-- A stripped path is a parent, which is empty or ends with a slash, and a name. -/
theorem stripSlashes_split {p : Bytes} (h : stripSlashes p ≠ []) :
    ∃ parent name, stripSlashes p = parent ++ name ∧ slash ∉ name ∧ name ≠ [] ∧
      (stripSlashes p).rdropWhile (· ≠ slash) = parent ∧
      (stripSlashes p).rtakeWhile (· ≠ slash) = name ∧
      (parent ≠ [] → ∃ r, parent = r ++ [slash]) := by
  set body := stripSlashes p with hbody
  refine ⟨body.rdropWhile (· ≠ slash), body.rtakeWhile (· ≠ slash),
    List.rdropWhile_append_rtakeWhile.symm, ?_, ?_, rfl, rfl, ?_⟩
  · intro hmem
    simpa using List.mem_rtakeWhile_imp hmem
  · -- The last byte of a stripped path is no slash.
    rw [Ne, List.rtakeWhile_eq_nil_iff]
    intro hall
    have hlast := hall h
    have hne := List.rdropWhile_last_not (· = slash) p h
    simp only [decide_eq_true_eq] at hne
    simp only [decide_eq_true_eq, not_not] at hlast
    exact hne hlast
  · intro hne
    have hlast := List.rdropWhile_last_not (· ≠ slash) body hne
    simp only [decide_eq_true_eq, not_not] at hlast
    refine ⟨(body.rdropWhile (· ≠ slash)).dropLast, ?_⟩
    have hconcat := List.dropLast_concat_getLast hne
    rw [hlast] at hconcat
    exact hconcat.symm

/-- `dirname` is never empty. -/
theorem dirname_ne_nil (p : Bytes) : dirname p ≠ [] := by
  have hroot : ∀ q, rootOf q ≠ [] := by
    intro q
    unfold rootOf
    split <;> exact List.cons_ne_nil _ _
  unfold dirname
  dsimp only
  split_ifs
  · decide
  · exact hroot _
  · decide
  · exact hroot _
  · assumption

/-- The parent of a path is absolute exactly if the path is. -/
theorem head_dirname_iff {p : Bytes} (hp : p ≠ []) :
    (dirname p).head? = some slash ↔ p.head? = some slash := by
  have hroot : ∀ q, (rootOf q).head? = some slash := by
    intro q
    unfold rootOf
    split <;> rfl
  -- A path that starts with slashes, if nothing else.
  have hslashes : ∀ q, q ≠ [] → stripSlashes q = [] → q.head? = some slash := by
    intro q hq hstrip
    have hall : ∀ b ∈ q, b = slash := by
      simpa [stripSlashes, List.rdropWhile_eq_nil_iff] using hstrip
    cases q with
    | nil => exact absurd rfl hq
    | cons b q => rw [hall b List.mem_cons_self, List.head?_cons]
  unfold dirname
  dsimp only
  by_cases hbody : stripSlashes p = []
  · rw [if_pos hbody, if_neg hp, hroot, hslashes p hp hbody]
  · rw [if_neg hbody, ← head_stripSlashes hbody]
    obtain ⟨parent, name, hsplit, hslash, hname, hparent, -, -⟩ := stripSlashes_split hbody
    rw [hparent, hsplit]
    by_cases hnil : parent = []
    · rw [if_pos hnil, hnil, List.nil_append]
      exact iff_of_false (by decide) fun h => hslash (List.mem_of_mem_head? h)
    · rw [if_neg hnil, List.head?_append_of_ne_nil _ hnil]
      by_cases hdir : stripSlashes parent = []
      · rw [if_pos hdir, hroot, hslashes parent hnil hdir]
      · rw [if_neg hdir, head_stripSlashes hdir]

/-- The parent of an absolute path is shorter, unless the path is slashes alone. -/
theorem length_dirname_lt {p : Bytes} (hhead : p.head? = some slash) (hbody : stripSlashes p ≠ []) :
    (dirname p).length < p.length := by
  obtain ⟨parent, name, hsplit, hslash, hname, hparent, -, -⟩ := stripSlashes_split hbody
  have hstrip : ∀ q, (stripSlashes q).length ≤ q.length := fun q =>
    (List.rdropWhile_prefix _ q).length_le
  have hshorter : parent.length < p.length := by
    have hlen := congrArg List.length hsplit
    have hpos := List.length_pos_iff.mpr hname
    have hle := hstrip p
    rw [List.length_append] at hlen
    omega
  have hnil : parent ≠ [] := by
    rintro rfl
    rw [← head_stripSlashes hbody, hsplit, List.nil_append] at hhead
    exact hslash (List.mem_of_mem_head? hhead)
  have hroot : (rootOf parent).length ≤ parent.length := by
    have hpos := List.length_pos_iff.mpr hnil
    unfold rootOf
    split_ifs with htwo
    · exact htwo.ge
    · exact hpos
  unfold dirname
  dsimp only
  rw [if_neg hbody, hparent, if_neg hnil]
  split
  · omega
  · have hle := hstrip parent
    omega

/-- A base name is at most one component. -/
theorem mem_components_basename {p n : Bytes} (h : n ∈ components (basename p)) :
    n = basename p := by
  unfold basename at h ⊢
  dsimp only at h ⊢
  split_ifs at h ⊢ with hbody hp
  · rw [show components (lit ".") = [] by decide] at h
    cases h
  · rw [components_slashes (by simp)] at h
    cases h
  · obtain ⟨-, name, -, hslash, -, -, hbase, -⟩ := stripSlashes_split hbody
    rw [hbase] at h ⊢
    rw [components_name hslash] at h
    exact List.mem_singleton.mp (List.mem_of_mem_filter h)

/-- A base name goes up only where it is `..`. -/
theorem dotdot_mem_components_basename_iff {p : Bytes} :
    lit ".." ∈ components (basename p) ↔ basename p = lit ".." := by
  constructor
  · exact fun h => (mem_components_basename h).symm
  · intro h
    rw [h]
    decide

/-- A path leads to its `basename` in its `dirname`. -/
theorem location_dirname_basename (p : Bytes) :
    location (withSeparator (dirname p) ++ basename p) = location p := by
  rw [location_below (dirname_ne_nil p)]
  unfold dirname basename
  dsimp only
  by_cases hbody : stripSlashes p = []
  · rw [if_pos hbody, if_pos hbody]
    by_cases hp : p = []
    · subst hp
      decide
    · rw [if_neg hp, if_neg hp, location_rootOf hp hbody]
      rw [components_slashes (p := [slash]) (by simp), List.append_nil]
  · rw [if_neg hbody, if_neg hbody]
    obtain ⟨parent, name, hsplit, hslash, hname, hparent, hbase, hend⟩ := stripSlashes_split hbody
    rw [hparent, hbase, ← location_stripSlashes hbody, hsplit]
    -- Without a parent the directory is the dot, and with one of slashes only it is the root.
    by_cases hnil : parent = []
    · rw [if_pos hnil, hnil, List.nil_append, location, location]
      have hhead : name.head? ≠ some slash := fun h =>
        hslash (List.mem_of_mem_head? (Option.mem_def.mpr h))
      rw [decide_eq_false hhead]
      rfl
    · rw [if_neg hnil]
      obtain ⟨r, hr⟩ := hend hnil
      have hlocation : location (parent ++ name) =
          ((location parent).1, (location parent).2 ++ components name) := by
        rw [location, List.head?_append_of_ne_nil _ hnil, hr, List.append_assoc,
          List.singleton_append, components_append_slash, location, components_concat_slash]
      rw [hlocation]
      by_cases hdir : stripSlashes parent = []
      · rw [if_pos hdir, location_rootOf hnil hdir]
      · rw [if_neg hdir, location_stripSlashes hdir]

/-! ## Names below a directory -/

/-- A path that ends with a name has no slashes at its end. -/
theorem stripSlashes_name (dir : Bytes) {n : Bytes} (hslash : slash ∉ n) (hn : n ≠ []) :
    stripSlashes (dir ++ n) = dir ++ n := by
  rw [stripSlashes, List.rdropWhile_eq_self_iff]
  intro hne
  have hlast : (dir ++ n).getLast hne ∈ n := by
    rw [List.getLast_append_of_ne_nil _ hn]
    exact List.getLast_mem hn
  simp only [decide_eq_true_eq]
  exact fun h => hslash (h ▸ hlast)

/-- The base name of a path below a directory is the name. -/
theorem basename_name (dir : Bytes) {n : Bytes} (hslash : slash ∉ n) (hn : n ≠ []) :
    basename (withSeparator dir ++ n) = n := by
  obtain ⟨q, hq, -⟩ := withSeparator_eq dir
  have hstrip := stripSlashes_name (withSeparator dir) hslash hn
  have hne : withSeparator dir ++ n ≠ [] := List.append_ne_nil_of_right_ne_nil _ hn
  have htake : (withSeparator dir ++ n).rtakeWhile (· ≠ slash) = n := by
    have hall : ∀ b ∈ n.reverse, decide (b ≠ slash) = true := by
      intro b hb
      have hb := List.mem_reverse.mp hb
      exact decide_eq_true fun h => hslash (h ▸ hb)
    rw [hq, List.rtakeWhile, List.reverse_append, List.takeWhile_append_of_pos hall]
    simp
  unfold basename
  dsimp only
  rw [hstrip, if_neg hne, htake]

/-- A slash at the end of a path does not change its base name. -/
theorem basename_concat_slash {p : Bytes} (hp : p ≠ []) : basename (p ++ [slash]) = basename p := by
  have hstrip : stripSlashes (p ++ [slash]) = stripSlashes p :=
    List.rdropWhile_concat_pos _ _ _ (by simp)
  unfold basename
  dsimp only
  rw [hstrip]
  simp [hp]

/-- A path that ends with a name gets a slash at its end. -/
theorem withSeparator_name (dir : Bytes) {n : Bytes} (hslash : slash ∉ n) (hn : n ≠ []) :
    withSeparator (dir ++ n) = dir ++ n ++ [slash] := by
  have hlast : (dir ++ n).getLast? ≠ some slash := by
    rw [List.getLast?_append_of_ne_nil _ hn]
    exact fun h => hslash (List.mem_of_getLast? h)
  rw [withSeparator, if_neg hlast]

end PosixPath
