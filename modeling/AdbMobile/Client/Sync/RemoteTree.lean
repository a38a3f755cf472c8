import Mathlib.Data.List.Perm.Basic
import AdbMobile.Client.Sync.Device

/-!
# The list for a remote tree

A device that serves a finite tree of files, directories and links answers each list request with
the entries of a directory, and each status request for a link with what the link leads to. The
names are distinct in each directory, and none is empty, `.` or `..`, nor has it a slash.

`remote_build_list` records files on the spot, keeps the directories and the links apart, and goes
into the directories from the back of its worklist. What it returns has the directory itself first,
and besides exactly one entry for each node of the tree, and no entry comes before that of a
directory above it (`remoteBuildList_complete`).
-/

namespace AdbMobile.Sync

open ByteString PosixPath DepthFirst
open scoped List

/-- The entries of a remote directory. -/
inductive RemoteTree
  | nil
  /-- A regular or a special file. -/
  | file (d : Dent) (rest : RemoteTree)
  | directory (d : Dent) (below rest : RemoteTree)
  /-- A link that does not lead to a directory, with the status of what it leads to, if there is
  one. -/
  | link (d : Dent) (target : Option Stat) (rest : RemoteTree)
  /-- A link to a directory. -/
  | directoryLink (d : Dent) (target : Stat) (below rest : RemoteTree)

namespace RemoteTree

/-- The entries as the device lists them. -/
def dents : RemoteTree → List Dent
  | nil => []
  | file d rest | directory d _ rest | link d _ rest | directoryLink d _ _ rest => d :: rest.dents

/-- The directories, and the links to directories, with what is below them. -/
def subtrees (links : Bool) : RemoteTree → List (Dent × RemoteTree)
  | nil => []
  | file _ rest | link _ _ rest => rest.subtrees links
  | directory d below rest =>
    if links then rest.subtrees links else (d, below) :: rest.subtrees links
  | directoryLink d _ below rest =>
    if links then (d, below) :: rest.subtrees links else rest.subtrees links

/-- A name that a file system can hold, as the C string that it is sent as. -/
def GoodName (name : Bytes) : Prop := name ≠ [] ∧ 0 ∉ name ∧ SafeName name

instance (name : Bytes) : Decidable (GoodName name) :=
  inferInstanceAs (Decidable
    (name ≠ [] ∧ 0 ∉ name ∧ slash ∉ name ∧ name ≠ lit "." ∧ name ≠ lit ".."))

/-- The modes say what the entries are, the names are good, and distinct in each directory. -/
def Valid : RemoteTree → Prop
  | nil => True
  | file d rest =>
    GoodName d.name ∧ isDir d.mode = false ∧ isLnk d.mode = false ∧
      (∀ e ∈ rest.dents, e.name ≠ d.name) ∧ rest.Valid
  | directory d below rest =>
    GoodName d.name ∧ isDir d.mode = true ∧ below.Valid ∧
      (∀ e ∈ rest.dents, e.name ≠ d.name) ∧ rest.Valid
  | link d target rest =>
    GoodName d.name ∧ isDir d.mode = false ∧ isLnk d.mode = true ∧
      (∀ st, target = some st → isDir st.mode = false) ∧
      (∀ e ∈ rest.dents, e.name ≠ d.name) ∧ rest.Valid
  | directoryLink d target below rest =>
    GoodName d.name ∧ isDir d.mode = false ∧ isLnk d.mode = true ∧ isDir target.mode = true ∧
      below.Valid ∧ (∀ e ∈ rest.dents, e.name ≠ d.name) ∧ rest.Valid

/-- A node of a tree: its names from the top on, whether it is a directory, and whether it is
skipped. -/
structure Node where
  names : List Bytes
  directory : Bool
  skip : Bool
  deriving DecidableEq, Repr

/-- The node in a tree that is below a name. -/
def Node.under (name : Bytes) (n : Node) : Node := { n with names := name :: n.names }

/-- What a pull has to list: each file, special files to be skipped, each link that leads somewhere,
and each directory or link to one. -/
def nodes : RemoteTree → List Node
  | nil => []
  | file d rest => ⟨[d.name], false, !shouldPullFile d.mode⟩ :: rest.nodes
  | directory d below rest | directoryLink d _ below rest =>
    ⟨[d.name], true, false⟩ :: (below.nodes.map (.under d.name) ++ rest.nodes)
  | link d target rest =>
    if target.isSome then ⟨[d.name], false, false⟩ :: rest.nodes else rest.nodes

/-- The names of a tree are good. -/
theorem good_of_mem_dents (tree : RemoteTree) (h : tree.Valid) : ∀ d ∈ tree.dents,
    GoodName d.name := by
  induction tree with
  | nil => exact fun d hd => absurd hd List.not_mem_nil
  | file d rest ih =>
    obtain ⟨hgood, -, -, -, hrest⟩ := h
    exact List.forall_mem_cons.mpr ⟨hgood, ih hrest⟩
  | directory d below rest _ ih =>
    obtain ⟨hgood, -, -, -, hrest⟩ := h
    exact List.forall_mem_cons.mpr ⟨hgood, ih hrest⟩
  | link d target rest ih =>
    obtain ⟨hgood, -, -, -, -, hrest⟩ := h
    exact List.forall_mem_cons.mpr ⟨hgood, ih hrest⟩
  | directoryLink d target below rest _ ih =>
    obtain ⟨hgood, -, -, -, -, -, hrest⟩ := h
    exact List.forall_mem_cons.mpr ⟨hgood, ih hrest⟩

/-- The files of a directory, or its links that lead to files. -/
def leaves (links : Bool) : RemoteTree → List Node
  | nil => []
  | file d rest =>
    if links then rest.leaves links
    else ⟨[d.name], false, !shouldPullFile d.mode⟩ :: rest.leaves links
  | directory _ _ rest | directoryLink _ _ _ rest => rest.leaves links
  | link d target rest =>
    if links && target.isSome then ⟨[d.name], false, false⟩ :: rest.leaves links
    else rest.leaves links

/-- For each directory, or link to one, the nodes from it on in the order of the list. -/
def branches : RemoteTree → Bool → List (List Node)
  | nil, _ => []
  | file _ rest, links | link _ _ rest, links => rest.branches links
  | directory d below rest, links =>
    if links then rest.branches links
    else
      (⟨[d.name], true, false⟩ ::
        (below.leaves false ++ below.leaves true ++
          (below.branches false ++ below.branches true).reverse.flatten).map (.under d.name)) ::
        rest.branches links
  | directoryLink d _ below rest, links =>
    if links then
      (⟨[d.name], true, false⟩ ::
        (below.leaves false ++ below.leaves true ++
          (below.branches false ++ below.branches true).reverse.flatten).map (.under d.name)) ::
        rest.branches links
    else rest.branches links

/-- The nodes in the order in which they come to the list. -/
def inOrder (tree : RemoteTree) : List Node :=
  tree.leaves false ++ tree.leaves true ++
    (tree.branches false ++ tree.branches true).reverse.flatten

/-- The nodes from a directory on. -/
def branch (d : Dent) (below : RemoteTree) : List Node :=
  ⟨[d.name], true, false⟩ :: below.inOrder.map (.under d.name)

/-! ## The order -/

/-- The nodes of the first entry come in one piece, with those of the other entries before and
behind it. -/
theorem inOrder_file (d : Dent) (rest : RemoteTree) :
    (file d rest).inOrder = ⟨[d.name], false, !shouldPullFile d.mode⟩ :: rest.inOrder := by
  simp [inOrder, leaves, branches]

theorem inOrder_directory (d : Dent) (below rest : RemoteTree) :
    (directory d below rest).inOrder = rest.inOrder ++ branch d below := by
  simp [inOrder, branch, leaves, branches]

theorem inOrder_link (d : Dent) (target : Option Stat) (rest : RemoteTree) :
    ∃ before behind, rest.inOrder = before ++ behind ∧ (link d target rest).inOrder =
      before ++ (if target.isSome then [⟨[d.name], false, false⟩] else []) ++ behind := by
  refine ⟨rest.leaves false, rest.leaves true ++
    (rest.branches false ++ rest.branches true).reverse.flatten, ?_, ?_⟩
  · rw [inOrder, List.append_assoc]
  · cases target <;> simp [inOrder, leaves, branches]

theorem inOrder_directoryLink (d : Dent) (target : Stat) (below rest : RemoteTree) :
    ∃ before behind, rest.inOrder = before ++ behind ∧
      (directoryLink d target below rest).inOrder = before ++ branch d below ++ behind := by
  refine ⟨rest.leaves false ++ rest.leaves true ++ (rest.branches true).reverse.flatten,
    (rest.branches false).reverse.flatten, ?_, ?_⟩
  · simp [inOrder]
  · simp [inOrder, branch, leaves, branches]

/-- In order there are exactly the nodes of the tree. -/
theorem inOrder_perm (tree : RemoteTree) : tree.inOrder ~ tree.nodes := by
  have hbranch : ∀ (d : Dent) (below : RemoteTree), below.inOrder ~ below.nodes →
      branch d below ~ ⟨[d.name], true, false⟩ :: below.nodes.map (.under d.name) :=
    fun d below h => (h.map _).cons _
  induction tree with
  | nil => exact .refl _
  | file d rest ih =>
    rw [inOrder_file]
    exact ih.cons _
  | directory d below rest ihbelow ihrest =>
    rw [inOrder_directory]
    calc rest.inOrder ++ branch d below
      _ ~ branch d below ++ rest.inOrder := List.perm_append_comm
      _ ~ _ := (hbranch d below ihbelow).append ihrest
  | link d target rest ih =>
    -- The link stands somewhere among the rest.
    obtain ⟨before, behind, hrest, horder⟩ := inOrder_link d target rest
    rw [hrest] at ih
    rw [horder, nodes]
    split
    · rw [List.append_assoc, List.singleton_append]
      exact List.perm_middle.trans (ih.cons _)
    · rwa [List.append_nil]
  | directoryLink d target below rest ihbelow ihrest =>
    obtain ⟨before, behind, hrest, horder⟩ := inOrder_directoryLink d target below rest
    rw [hrest] at ihrest
    rw [horder, nodes]
    calc before ++ branch d below ++ behind
      _ ~ branch d below ++ before ++ behind := List.perm_append_comm.append_right behind
      _ = branch d below ++ (before ++ behind) := List.append_assoc _ _ _
      _ ~ _ := (hbranch d below ihbelow).append ihrest

/-- Each node has a name at least, and the first is that of an entry. -/
theorem names_of_mem_nodes {tree : RemoteTree} {x : Node} (hx : x ∈ tree.nodes) :
    ∃ d ∈ tree.dents, ∃ names, x.names = d.name :: names := by
  induction tree with
  | nil => cases hx
  | file d rest ih =>
    obtain rfl | hx := List.mem_cons.mp hx
    · exact ⟨d, List.mem_cons_self, [], rfl⟩
    · obtain ⟨e, he, hnames⟩ := ih hx
      exact ⟨e, List.mem_cons_of_mem d he, hnames⟩
  | directory d below rest _ ih | directoryLink d _ below rest _ ih =>
    obtain rfl | hx := List.mem_cons.mp hx
    · exact ⟨d, List.mem_cons_self, [], rfl⟩
    · obtain hx | hx := List.mem_append.mp hx
      · obtain ⟨y, -, rfl⟩ := List.mem_map.mp hx
        exact ⟨d, List.mem_cons_self, y.names, rfl⟩
      · obtain ⟨e, he, hnames⟩ := ih hx
        exact ⟨e, List.mem_cons_of_mem d he, hnames⟩
  | link d target rest ih =>
    have hcases : x = ⟨[d.name], false, false⟩ ∨ x ∈ rest.nodes := by
      rw [nodes] at hx
      split at hx
      · exact List.mem_cons.mp hx
      · exact .inr hx
    obtain rfl | hx := hcases
    · exact ⟨d, List.mem_cons_self, [], rfl⟩
    · obtain ⟨e, he, hnames⟩ := ih hx
      exact ⟨e, List.mem_cons_of_mem d he, hnames⟩

/-- Of two nodes, the second is not at the first, nor above it. -/
def NotAbove (a b : Node) : Prop := ¬ b.names <+: a.names

/-- Nodes with different first names are not above each other. -/
theorem notAbove_of_ne {a b : Node} {n m : Bytes} {ns ms : List Bytes} (ha : a.names = n :: ns)
    (hb : b.names = m :: ms) (hne : m ≠ n) : NotAbove a b := by
  rw [NotAbove, ha, hb, List.cons_prefix_cons]
  exact fun h => hne h.1

/-- A piece put into a sequence in order keeps it in order, when what is in it has nothing to do
with the rest. -/
theorem pairwise_insert {before piece behind : List Node}
    (hrest : (before ++ behind).Pairwise NotAbove) (hpiece : piece.Pairwise NotAbove)
    (happart : ∀ x ∈ before ++ behind, ∀ y ∈ piece, NotAbove x y ∧ NotAbove y x) :
    (before ++ piece ++ behind).Pairwise NotAbove := by
  obtain ⟨hbefore, hbehind, hcross⟩ := List.pairwise_append.mp hrest
  refine List.pairwise_append.mpr ⟨List.pairwise_append.mpr ⟨hbefore, hpiece, ?_⟩, hbehind, ?_⟩
  · exact fun x hx y hy => (happart x (List.mem_append_left _ hx) y hy).1
  · intro x hx y hy
    obtain hx | hx := List.mem_append.mp hx
    · exact hcross x hx y hy
    · exact (happart y (List.mem_append_right _ hy) x hx).2

/-- The nodes from a directory on start with its name. -/
theorem names_of_mem_branch {d : Dent} {below : RemoteTree} {x : Node} (hx : x ∈ branch d below) :
    ∃ names, x.names = d.name :: names := by
  obtain rfl | hx := List.mem_cons.mp hx
  · exact ⟨[], rfl⟩
  · obtain ⟨y, -, rfl⟩ := List.mem_map.mp hx
    exact ⟨y.names, rfl⟩

/-- A directory comes before what is below it. -/
theorem pairwise_branch {d : Dent} {below : RemoteTree} (h : below.inOrder.Pairwise NotAbove) :
    (branch d below).Pairwise NotAbove := by
  refine List.pairwise_cons.mpr ⟨fun x hx => ?_, ?_⟩
  · obtain ⟨y, hy, rfl⟩ := List.mem_map.mp hx
    obtain ⟨e, -, names, hnames⟩ := names_of_mem_nodes (below.inOrder_perm.mem_iff.mp hy)
    simp [NotAbove, Node.under, hnames]
  · refine List.pairwise_map.mpr (h.imp fun {a b} hab => ?_)
    rw [NotAbove, Node.under, Node.under, List.cons_prefix_cons]
    exact fun h => hab h.2

/-- No node comes before one that is above it, nor twice. -/
theorem inOrder_pairwise {tree : RemoteTree} (h : tree.Valid) : tree.inOrder.Pairwise NotAbove := by
  -- The nodes of one entry, and those of the others in the directory.
  have happart : ∀ (d : Dent) (rest : RemoteTree) (before piece behind : List Node),
      (∀ e ∈ rest.dents, e.name ≠ d.name) → rest.inOrder = before ++ behind →
      (∀ x ∈ piece, ∃ names, x.names = d.name :: names) →
      ∀ x ∈ before ++ behind, ∀ y ∈ piece, NotAbove x y ∧ NotAbove y x := by
    intro d rest before piece behind hne hrest hpiece x hx y hy
    rw [← hrest, rest.inOrder_perm.mem_iff] at hx
    obtain ⟨e, he, ns, hxnames⟩ := names_of_mem_nodes hx
    obtain ⟨ms, hynames⟩ := hpiece y hy
    exact ⟨notAbove_of_ne hxnames hynames (hne e he).symm,
      notAbove_of_ne hynames hxnames (hne e he)⟩
  have hleaf : ∀ (d : Dent) (skip : Bool),
      ∀ x ∈ [(⟨[d.name], false, skip⟩ : Node)], ∃ names, x.names = d.name :: names := by
    intro d skip x hx
    rw [List.mem_singleton.mp hx]
    exact ⟨[], rfl⟩
  induction tree with
  | nil => exact .nil
  | file d rest ih =>
    obtain ⟨-, -, -, hne, hrest⟩ := h
    rw [inOrder_file]
    exact @pairwise_insert [] _ _ (ih hrest) (List.pairwise_singleton _ _)
      (happart d rest [] _ _ hne rfl (hleaf d _))
  | directory d below rest ihbelow ihrest =>
    obtain ⟨-, -, hbelow, hne, hrest⟩ := h
    have hparts : rest.inOrder = rest.inOrder ++ [] := (List.append_nil _).symm
    have hinsert := pairwise_insert (hparts ▸ ihrest hrest) (pairwise_branch (ihbelow hbelow))
      (happart d rest _ _ [] hne hparts fun x hx => names_of_mem_branch hx)
    rwa [List.append_nil, ← inOrder_directory] at hinsert
  | link d target rest ih =>
    obtain ⟨-, -, -, -, hne, hrest⟩ := h
    obtain ⟨before, behind, hparts, horder⟩ := inOrder_link d target rest
    rw [horder]
    refine pairwise_insert (hparts ▸ ih hrest) ?_ (happart d rest _ _ _ hne hparts ?_)
    · split
      · exact List.pairwise_singleton _ _
      · exact .nil
    · split
      · exact hleaf d _
      · exact fun x hx => absurd hx List.not_mem_nil
  | directoryLink d target below rest ihbelow ihrest =>
    obtain ⟨-, -, -, -, hbelow, hne, hrest⟩ := h
    obtain ⟨before, behind, hparts, horder⟩ := inOrder_directoryLink d target below rest
    rw [horder]
    exact pairwise_insert (hparts ▸ ihrest hrest) (pairwise_branch (ihbelow hbelow))
      (happart d rest _ _ _ hne hparts fun x hx => names_of_mem_branch hx)

end RemoteTree

namespace Device

variable (D : Device)

/-- The entries in the list reply for a path, without `.` and `..`, are these. -/
def Lists (path : Bytes) (ds : List Dent) : Prop :=
  ((D.listing path).1.filter fun d => !isDotOrDotDot d.name) = ds

instance (path : Bytes) (ds : List Dent) : Decidable (D.Lists path ds) :=
  inferInstanceAs (Decidable (_ = ds))

/-- The device answers for what is below a path as a tree says. -/
def ServesBelow (path : Bytes) : RemoteTree → Prop
  | .nil => True
  | .file _ rest => ServesBelow path rest
  | .directory d below rest =>
    D.Lists (subPath path d) below.dents ∧ ServesBelow (subPath path d) below ∧
      ServesBelow path rest
  | .link d target rest => D.target path d = target ∧ ServesBelow path rest
  | .directoryLink d target below rest =>
    D.target path d = some target ∧ D.Lists (subPath path d) below.dents ∧
      ServesBelow (subPath path d) below ∧ ServesBelow path rest

/-- The device serves a tree at a path. -/
def Serves (path : Bytes) (tree : RemoteTree) : Prop :=
  D.Lists path tree.dents ∧ D.ServesBelow path tree

variable {D}

/-! ## What the device lists -/

/-- Where `FinishLs` succeeds, it has let everything through, as C strings. -/
theorem finishLs_true {done : Bool} {ds : List Dent} : ∀ {pre found : List Dent},
    finishLs (fun ds d => ds ++ [d]) done ds pre = (true, found) →
      found = pre ++ ds.map fun d => { d with name := cString d.name } := by
  induction ds with
  | nil =>
    intro pre found h
    rw [List.map_nil, List.append_nil]
    exact (Prod.mk.inj h).2.symm
  | cons d ds ih =>
    intro pre found h
    simp only [finishLs] at h
    split_ifs at h
    · cases (Prod.mk.inj h).1
    · cases (Prod.mk.inj h).1
    · rw [ih h, List.append_assoc]
      rfl

/-- The entries of a directory, when its list has been read. -/
theorem accepted_of_lists {path : Bytes} {tree : RemoteTree} (hlists : D.Lists path tree.dents)
    (hvalid : tree.Valid) (hok : (D.accepted path).1 = true) :
    ((D.accepted path).2.filter fun d => !isDotOrDotDot d.name) = tree.dents := by
  have hlisting : (D.accepted path).2 =
      (D.listing path).1.map fun d => { d with name := cString d.name } := by
    unfold accepted syncLs at hok ⊢
    split_ifs at hok ⊢
    exact finishLs_true (Prod.ext hok rfl)
  have hself : ∀ d ∈ (D.listing path).1, { d with name := cString d.name } = d := by
    intro d hd
    have hname : cString d.name = d.name := by
      rw [cString_eq_self_iff]
      by_cases hdot : isDotOrDotDot d.name = true
      · obtain hdot | hdot := Bool.or_eq_true .. ▸ hdot
        · rw [of_decide_eq_true hdot]
          decide
        · rw [of_decide_eq_true hdot]
          decide
      · have hmem : d ∈ tree.dents := by
          rw [← hlists]
          exact List.mem_filter.mpr ⟨hd, by simpa using hdot⟩
        exact (tree.good_of_mem_dents hvalid d hmem).2.1
    rw [hname]
  rw [hlisting, List.map_congr_left hself, List.map_id', hlists]

variable {path : Bytes} {ds : List Dent} {tree : RemoteTree}

/-- The files, the directories and the links among the entries of a tree. -/
theorem plainFiles_of_tree (hvalid : tree.Valid)
    (hds : (ds.filter fun d => !isDotOrDotDot d.name) = tree.dents) :
    (plainFiles ds).map (fun d => ⟨[d.name], false, !shouldPullFile d.mode⟩) = tree.leaves false := by
  have hfilter : plainFiles ds = tree.dents.filter fun d => !isDir d.mode && !isLnk d.mode := by
    rw [← hds, List.filter_filter, plainFiles]
    congr 1
    funext d
    cases isDotOrDotDot d.name <;> simp
  rw [hfilter]
  clear hds hfilter
  induction tree with
  | nil => rfl
  | file d rest ih =>
    obtain ⟨-, hdir, hlink, -, hrest⟩ := hvalid
    simp [RemoteTree.dents, RemoteTree.leaves, hdir, hlink, ih hrest]
  | directory d below rest _ ih =>
    obtain ⟨-, hdir, -, -, hrest⟩ := hvalid
    simp [RemoteTree.dents, RemoteTree.leaves, hdir, ih hrest]
  | link d target rest ih =>
    obtain ⟨-, -, hlink, -, -, hrest⟩ := hvalid
    simp [RemoteTree.dents, RemoteTree.leaves, hlink, ih hrest]
  | directoryLink d target below rest _ ih =>
    obtain ⟨-, -, hlink, -, -, -, hrest⟩ := hvalid
    simp [RemoteTree.dents, RemoteTree.leaves, hlink, ih hrest]

theorem directories_of_tree (hvalid : tree.Valid)
    (hds : (ds.filter fun d => !isDotOrDotDot d.name) = tree.dents) :
    directories ds = (tree.subtrees false).map Prod.fst := by
  have hfilter : directories ds = tree.dents.filter fun d => isDir d.mode := by
    rw [← hds, List.filter_filter, directories]
    congr 1
    funext d
    cases isDotOrDotDot d.name <;> simp
  rw [hfilter]
  clear hds hfilter
  induction tree with
  | nil => rfl
  | file d rest ih =>
    obtain ⟨-, hdir, -, -, hrest⟩ := hvalid
    simp [RemoteTree.dents, RemoteTree.subtrees, hdir, ih hrest]
  | directory d below rest _ ih =>
    obtain ⟨-, hdir, -, -, hrest⟩ := hvalid
    simp [RemoteTree.dents, RemoteTree.subtrees, hdir, ih hrest]
  | link d target rest ih =>
    obtain ⟨-, hdir, -, -, -, hrest⟩ := hvalid
    simp [RemoteTree.dents, RemoteTree.subtrees, hdir, ih hrest]
  | directoryLink d target below rest _ ih =>
    obtain ⟨-, hdir, -, -, -, -, hrest⟩ := hvalid
    simp [RemoteTree.dents, RemoteTree.subtrees, hdir, ih hrest]

theorem links_of_tree (hds : (ds.filter fun d => !isDotOrDotDot d.name) = tree.dents) :
    links ds = tree.dents.filter fun d => !isDir d.mode && isLnk d.mode := by
  rw [← hds, List.filter_filter, links]
  congr 1
  funext d
  cases isDotOrDotDot d.name <;> simp

theorem fileLinks_of_tree (hvalid : tree.Valid) (hserves : D.ServesBelow path tree)
    (hds : (ds.filter fun d => !isDotOrDotDot d.name) = tree.dents) :
    (D.fileLinks path ds).map (fun d => ⟨[d.name], false, false⟩) = tree.leaves true := by
  rw [fileLinks, links_of_tree hds, List.filter_filter]
  clear hds
  induction tree with
  | nil => rfl
  | file d rest ih =>
    obtain ⟨-, hdir, hlink, -, hrest⟩ := hvalid
    simp [RemoteTree.dents, RemoteTree.leaves, hdir, hlink, ih hrest hserves]
  | directory d below rest _ ih =>
    obtain ⟨-, hdir, -, -, hrest⟩ := hvalid
    simp [RemoteTree.dents, RemoteTree.leaves, hdir, ih hrest hserves.2.2]
  | link d target rest ih =>
    obtain ⟨-, hdir, hlink, htarget, -, hrest⟩ := hvalid
    have ih := ih hrest hserves.2
    cases target with
    | none => simp [RemoteTree.dents, RemoteTree.leaves, hdir, hlink, hserves.1, ih]
    | some st =>
      simp [RemoteTree.dents, RemoteTree.leaves, hdir, hlink, hserves.1, htarget st rfl, ih]
  | directoryLink d target below rest _ ih =>
    obtain ⟨-, hdir, hlink, htarget, -, -, hrest⟩ := hvalid
    have ih := ih hrest hserves.2.2.2
    simp [RemoteTree.dents, RemoteTree.leaves, hdir, hlink, hserves.1, htarget, ih]

theorem directoryLinks_of_tree (hvalid : tree.Valid) (hserves : D.ServesBelow path tree)
    (hds : (ds.filter fun d => !isDotOrDotDot d.name) = tree.dents) :
    D.directoryLinks path ds = (tree.subtrees true).map Prod.fst := by
  rw [directoryLinks, links_of_tree hds, List.filter_filter]
  clear hds
  induction tree with
  | nil => rfl
  | file d rest ih =>
    obtain ⟨-, hdir, hlink, -, hrest⟩ := hvalid
    simp [RemoteTree.dents, RemoteTree.subtrees, hdir, hlink, ih hrest hserves]
  | directory d below rest _ ih =>
    obtain ⟨-, hdir, -, -, hrest⟩ := hvalid
    simp [RemoteTree.dents, RemoteTree.subtrees, hdir, ih hrest hserves.2.2]
  | link d target rest ih =>
    obtain ⟨-, hdir, hlink, htarget, -, hrest⟩ := hvalid
    have ih := ih hrest hserves.2
    cases target with
    | none => simp [RemoteTree.dents, RemoteTree.subtrees, hdir, hlink, hserves.1, ih]
    | some st =>
      simp [RemoteTree.dents, RemoteTree.subtrees, hdir, hlink, hserves.1, htarget st rfl, ih]
  | directoryLink d target below rest _ ih =>
    obtain ⟨-, hdir, hlink, htarget, -, -, hrest⟩ := hvalid
    have ih := ih hrest hserves.2.2.2
    simp [RemoteTree.dents, RemoteTree.subtrees, hdir, hlink, hserves.1, htarget, ih]

/-- A directory in a tree is itself a tree that the device serves. -/
theorem serves_of_mem_subtrees {links : Bool} {d : Dent} {below : RemoteTree} (hvalid : tree.Valid)
    (hserves : D.ServesBelow path tree) (hmem : (d, below) ∈ tree.subtrees links) :
    RemoteTree.GoodName d.name ∧ below.Valid ∧ D.Serves (subPath path d) below := by
  induction tree with
  | nil => cases hmem
  | file d' rest ih =>
    obtain ⟨-, -, -, -, hrest⟩ := hvalid
    exact ih hrest hserves hmem
  | directory d' below' rest _ ih =>
    obtain ⟨hgood, -, hbelow, -, hrest⟩ := hvalid
    rw [RemoteTree.subtrees] at hmem
    split at hmem
    · exact ih hrest hserves.2.2 hmem
    · obtain heq | hmem := List.mem_cons.mp hmem
      · cases heq
        exact ⟨hgood, hbelow, hserves.1, hserves.2.1⟩
      · exact ih hrest hserves.2.2 hmem
  | link d' target rest ih =>
    obtain ⟨-, -, -, -, -, hrest⟩ := hvalid
    exact ih hrest hserves.2 hmem
  | directoryLink d' target below' rest _ ih =>
    obtain ⟨hgood, -, -, -, hbelow, -, hrest⟩ := hvalid
    rw [RemoteTree.subtrees] at hmem
    split at hmem
    · obtain heq | hmem := List.mem_cons.mp hmem
      · cases heq
        exact ⟨hgood, hbelow, hserves.2.1, hserves.2.2.1⟩
      · exact ih hrest hserves.2.2.2 hmem
    · exact ih hrest hserves.2.2.2 hmem

/-! ## Where the entries lead -/

/-- What an item of the list says: where its two paths lead, whether it is a directory, and whether
it is skipped. -/
structure Place where
  lpath : Bool × List Bytes
  rpath : Bool × List Bytes
  directory : Bool
  skip : Bool
  deriving DecidableEq

/-- The item of the list for a node, below two directories. -/
def place (rpath lpath : Bytes) (x : RemoteTree.Node) : Place :=
  ⟨((location lpath).1, (location lpath).2 ++ x.names),
    ((location rpath).1, (location rpath).2 ++ x.names), x.directory, x.skip⟩

end Device

/-- What an item of the list says. -/
def CopyInfo.place (ci : CopyInfo) : Device.Place :=
  ⟨location ci.lpath, location ci.rpath, isDir ci.mode, ci.skip⟩

namespace Device

variable {D : Device} {rpath lpath : Bytes} {d : Dent}

theorem entryInfo_lpath (rpath lpath : Bytes) (d : Dent) :
    (entryInfo rpath lpath d).lpath = subPath lpath d := by
  unfold entryInfo CopyInfo.new subPath
  split <;> rfl

theorem entryInfo_mode (rpath lpath : Bytes) (d : Dent) :
    (entryInfo rpath lpath d).mode = d.mode ∧ (entryInfo rpath lpath d).skip = false := by
  unfold entryInfo CopyInfo.new
  dsimp only
  split <;> exact ⟨rfl, rfl⟩

theorem subPath_ne_nil (path : Bytes) (d : Dent) : subPath path d ≠ [] := by
  unfold subPath
  split
  · exact withSeparator_ne_nil _
  · exact List.append_ne_nil_of_left_ne_nil (withSeparator_ne_nil path) _

/-- The path of an entry leads to its name. -/
theorem location_subPath {path : Bytes} (hpath : path ≠ []) (hgood : RemoteTree.GoodName d.name) :
    location (subPath path d) = ((location path).1, (location path).2 ++ [d.name]) := by
  obtain ⟨hname, -, hslash, hdot, -⟩ := hgood
  have hne : withSeparator path ++ d.name ≠ [] :=
    List.append_ne_nil_of_left_ne_nil (withSeparator_ne_nil path) _
  have hloc : location (withSeparator path ++ d.name) =
      ((location path).1, (location path).2 ++ [d.name]) := by
    rw [location_below hpath, components_name hslash]
    simp [hname, hdot]
  unfold subPath
  split
  · rw [location_withSeparator hne, hloc]
  · exact hloc

/-- The base name of the path of an entry is its name, with or without a separator behind it. -/
theorem basename_subPath (path : Bytes) (hgood : RemoteTree.GoodName d.name) :
    basename (subPath path d) = d.name := by
  obtain ⟨hname, -, hslash, -, -⟩ := hgood
  have hbase := basename_name path hslash hname
  unfold subPath
  split
  · rw [withSeparator_name _ hslash hname, basename_concat_slash, hbase]
    exact List.append_ne_nil_of_left_ne_nil (withSeparator_ne_nil path) _
  · exact hbase

/-- The item of an entry that is no directory. -/
theorem place_entryInfo (hrpath : rpath ≠ []) (hlpath : lpath ≠ [])
    (hgood : RemoteTree.GoodName d.name) (hdir : isDir d.mode = false) :
    (entryInfo rpath lpath d).place = place rpath lpath ⟨[d.name], false, false⟩ := by
  obtain ⟨hmode, hskip⟩ := entryInfo_mode rpath lpath d
  rw [CopyInfo.place, entryInfo_lpath, entryInfo_rpath, location_subPath hlpath hgood,
    location_subPath hrpath hgood, hmode, hskip, hdir]
  rfl

/-- The item of an entry that is neither a directory nor a link, field by field. -/
theorem fileInfo_eq (rpath lpath : Bytes) (d : Dent) : fileInfo rpath lpath d =
    ⟨(entryInfo rpath lpath d).lpath, (entryInfo rpath lpath d).rpath, signedLong d.time,
      (entryInfo rpath lpath d).mode, d.size, !shouldPullFile d.mode⟩ := by
  unfold fileInfo
  rfl

theorem place_fileInfo (hrpath : rpath ≠ []) (hlpath : lpath ≠ [])
    (hgood : RemoteTree.GoodName d.name) (hdir : isDir d.mode = false) :
    (fileInfo rpath lpath d).place =
      place rpath lpath ⟨[d.name], false, !shouldPullFile d.mode⟩ := by
  have hentry := place_entryInfo hrpath hlpath hgood hdir
  obtain ⟨hl, hr, hmode, -⟩ := Place.mk.inj hentry
  rw [fileInfo_eq, CopyInfo.place, hl, hr, hmode]
  rfl

/-- The item that a call puts on the list for its directory leads to its local path. -/
theorem location_ownInfo (rpath lpath : Bytes) :
    location (ownInfo rpath lpath).lpath = location lpath := by
  have hown : (ownInfo rpath lpath).lpath =
      withSeparator (withSeparator (dirname lpath) ++ basename lpath) := rfl
  rw [hown, location_withSeparator, location_dirname_basename]
  exact List.append_ne_nil_of_left_ne_nil (withSeparator_ne_nil _) _

/-- And to its remote path, where the two end with the same name. -/
theorem location_ownInfo_rpath (h : basename lpath = basename rpath) :
    location (ownInfo rpath lpath).rpath = location rpath := by
  have hown : (ownInfo rpath lpath).rpath =
      withSeparator (withSeparator (dirname rpath) ++ basename lpath) := rfl
  rw [hown, h, location_withSeparator, location_dirname_basename]
  exact List.append_ne_nil_of_left_ne_nil (withSeparator_ne_nil _) _

/-- It is the item of a directory. -/
theorem ownInfo_mode (rpath lpath : Bytes) :
    isDir (ownInfo rpath lpath).mode = true ∧ (ownInfo rpath lpath).skip = false := by
  have hdir : isDir sIfdir = true := by decide
  simp [ownInfo, CopyInfo.new, hdir]

/-- The item of a subdirectory is the one for the call that is made for it. -/
theorem place_ownInfo (hrpath : rpath ≠ []) (hlpath : lpath ≠ [])
    (hgood : RemoteTree.GoodName d.name) :
    (ownInfo (subPath rpath d) (subPath lpath d)).place =
      place rpath lpath ⟨[d.name], true, false⟩ := by
  have hsame : basename (subPath lpath d) = basename (subPath rpath d) := by
    rw [basename_subPath lpath hgood, basename_subPath rpath hgood]
  obtain ⟨hmode, hskip⟩ := ownInfo_mode (subPath rpath d) (subPath lpath d)
  rw [CopyInfo.place, location_ownInfo, location_ownInfo_rpath hsame, location_subPath hlpath hgood,
    location_subPath hrpath hgood, hmode, hskip]
  rfl

/-- What is below a subdirectory is below the directory. -/
theorem place_under (hrpath : rpath ≠ []) (hlpath : lpath ≠ [])
    (hgood : RemoteTree.GoodName d.name) (x : RemoteTree.Node) :
    place (subPath rpath d) (subPath lpath d) x = place rpath lpath (x.under d.name) := by
  rw [place, location_subPath hlpath hgood, location_subPath hrpath hgood]
  simp [place, RemoteTree.Node.under]

/-! ## The list -/

/-- The branches of a tree, by its subdirectories. -/
theorem branches_eq (tree : RemoteTree) (links : Bool) : tree.branches links =
    (tree.subtrees links).map fun s => RemoteTree.branch s.1 s.2 := by
  induction tree with
  | nil => rfl
  | file d rest ih | link d _ rest ih => exact ih
  | directory d below rest _ ih | directoryLink d _ below rest _ ih =>
    rw [RemoteTree.branches, RemoteTree.subtrees, ih]
    split <;> rfl

/-- What a call for the directory of a tree does, when its list has been read. -/
theorem expand_of_tree {tree : RemoteTree} (hvalid : tree.Valid) (hserves : D.Serves rpath tree)
    (hok : (D.accepted rpath).1 = true) :
    D.expand (rpath, lpath) = (ownInfo rpath lpath ::
        ((plainFiles (D.accepted rpath).2).map (fileInfo rpath lpath) ++
          (D.fileLinks rpath (D.accepted rpath).2).map (entryInfo rpath lpath)),
      some ((tree.subtrees false ++ tree.subtrees true).reverse.map fun s =>
        (subPath rpath s.1, subPath lpath s.1))) := by
  obtain ⟨hlists, hbelow⟩ := hserves
  have hds := accepted_of_lists hlists hvalid hok
  have hsubs : D.subdirectories rpath =
      some ((tree.subtrees false ++ tree.subtrees true).map Prod.fst).reverse := by
    rw [subdirectories, if_pos hok, directories_of_tree hvalid hds,
      directoryLinks_of_tree hvalid hbelow hds, List.map_append]
  simp [expand, hok, hsubs, entryInfo_rpath, entryInfo_lpath, Function.comp_def]

/-- The items for what is not a directory. -/
theorem places_of_leaves {tree : RemoteTree} (hrpath : rpath ≠ []) (hlpath : lpath ≠ [])
    (hvalid : tree.Valid) (hserves : D.Serves rpath tree) (hok : (D.accepted rpath).1 = true) :
    ((plainFiles (D.accepted rpath).2).map (fileInfo rpath lpath) ++
        (D.fileLinks rpath (D.accepted rpath).2).map (entryInfo rpath lpath)).map CopyInfo.place =
      (tree.leaves false ++ tree.leaves true).map (place rpath lpath) := by
  obtain ⟨hlists, hbelow⟩ := hserves
  have hds := accepted_of_lists hlists hvalid hok
  have hgood : ∀ d ∈ (D.accepted rpath).2, isDotOrDotDot d.name = false →
      RemoteTree.GoodName d.name := by
    intro d hd hdot
    refine tree.good_of_mem_dents hvalid d ?_
    rw [← hds, List.mem_filter, hdot]
    exact ⟨hd, rfl⟩
  rw [← plainFiles_of_tree hvalid hds, ← fileLinks_of_tree hvalid hbelow hds]
  simp only [List.map_append, List.map_map]
  congr 1
  · refine List.map_congr_left fun d hd => ?_
    obtain ⟨hd, hcond⟩ := List.mem_filter.mp hd
    simp only [Bool.and_eq_true, Bool.not_eq_true'] at hcond
    exact place_fileInfo hrpath hlpath (hgood d hd hcond.1.1) hcond.1.2
  · refine List.map_congr_left fun d hd => ?_
    obtain ⟨hd, hcond⟩ := List.mem_filter.mp (List.mem_of_mem_filter hd)
    simp only [Bool.and_eq_true, Bool.not_eq_true'] at hcond
    exact place_entryInfo hrpath hlpath (hgood d hd hcond.1.1) hcond.1.2

/-- What a call that succeeds puts on the list: its own directory, and the nodes of the tree in
order. -/
theorem walk_found {n : ℕ} : ∀ {rpath lpath : Bytes} {tree : RemoteTree} {found : List CopyInfo},
    rpath ≠ [] → lpath ≠ [] → tree.Valid → D.Serves rpath tree →
    walk D.expand n (rpath, lpath) = some (true, found) →
    ∃ rest, found = ownInfo rpath lpath :: rest ∧
      rest.map CopyInfo.place = tree.inOrder.map (place rpath lpath) := by
  induction n with
  | zero => exact fun _ _ _ _ h => nomatch h
  | succ n ih =>
    intro rpath lpath tree found hrpath hlpath hvalid hserves h
    have hok : (D.accepted rpath).1 = true := by
      by_contra hfails
      rw [walk] at h
      simp only [expand, subdirectories, hfails] at h
      cases h
    rw [walk, expand_of_tree hvalid hserves hok] at h
    obtain ⟨⟨ok, under⟩, hunder, heq⟩ := Option.map_eq_some_iff.mp h
    cases heq
    rw [List.cons_append]
    refine ⟨_, rfl, ?_⟩
    -- Each subdirectory puts its branch on the list.
    have hbranch : ∀ s ∈ (tree.subtrees false ++ tree.subtrees true).reverse,
        (((walk D.expand n (subPath rpath s.1, subPath lpath s.1)).map Prod.snd).getD []).map
          CopyInfo.place = (RemoteTree.branch s.1 s.2).map (place rpath lpath) := by
      rintro ⟨d, below⟩ hs
      obtain ⟨foundBelow, hwalk⟩ := walkAll_true hunder _ (List.mem_map_of_mem hs)
      have hmem : ∃ links, (d, below) ∈ tree.subtrees links := by
        obtain hs | hs := List.mem_append.mp (List.mem_reverse.mp hs)
        · exact ⟨false, hs⟩
        · exact ⟨true, hs⟩
      obtain ⟨links, hmem⟩ := hmem
      obtain ⟨hgood, hvalid', hserves'⟩ := serves_of_mem_subtrees hvalid hserves.2 hmem
      obtain ⟨rest, rfl, hrest⟩ :=
        ih (subPath_ne_nil rpath d) (subPath_ne_nil lpath d) hvalid' hserves' hwalk
      have hunder : below.inOrder.map (place (subPath rpath d) (subPath lpath d)) =
          (below.inOrder.map (.under d.name)).map (place rpath lpath) := by
        rw [List.map_map]
        exact List.map_congr_left fun x _ => place_under hrpath hlpath hgood x
      rw [hwalk]
      simp only [Option.map_some, Option.getD_some, List.map_cons, RemoteTree.branch, hrest, hunder,
        place_ownInfo hrpath hlpath hgood]
    have hunderPlaces : under.map CopyInfo.place =
        (tree.branches false ++ tree.branches true).reverse.flatten.map (place rpath lpath) := by
      rw [walkAll_found hunder, branches_eq, branches_eq, ← List.map_append, ← List.map_reverse,
        ← List.flatMap_def, List.map_flatMap, List.flatMap_map, List.map_flatMap]
      exact List.flatMap_congr hbranch
    rw [List.map_append, places_of_leaves hrpath hlpath hvalid hserves hok, hunderPlaces,
      ← List.map_append]
    rfl

/-- The names of the directory itself, and of the nodes below it in order. -/
theorem pairwise_names {tree : RemoteTree} (hvalid : tree.Valid) :
    ([] :: tree.inOrder.map RemoteTree.Node.names).Pairwise fun a b => ¬ b <+: a := by
  refine List.pairwise_cons.mpr ⟨fun names hnames => ?_, ?_⟩
  · obtain ⟨x, hx, rfl⟩ := List.mem_map.mp hnames
    obtain ⟨d, -, names, hx⟩ :=
      RemoteTree.names_of_mem_nodes (tree.inOrder_perm.mem_iff.mp hx)
    simp [hx]
  · exact List.pairwise_map.mpr (RemoteTree.inOrder_pairwise hvalid)

/-- The items that a walk puts on the list lead to the directory itself and to the nodes below it in
order. -/
theorem walk_locations {n : ℕ} {tree : RemoteTree} {found : List CopyInfo} (hrpath : rpath ≠ [])
    (hlpath : lpath ≠ []) (hvalid : tree.Valid) (hserves : D.Serves rpath tree)
    (h : walk D.expand n (rpath, lpath) = some (true, found)) :
    (found.map fun ci => location ci.lpath) =
      ([] :: tree.inOrder.map RemoteTree.Node.names).map fun names =>
        ((location lpath).1, (location lpath).2 ++ names) := by
  obtain ⟨rest, rfl, hrest⟩ := walk_found hrpath hlpath hvalid hserves h
  have hlpaths := congrArg (List.map Place.lpath) hrest
  rw [List.map_map, List.map_map] at hlpaths
  rw [List.map_cons, List.map_cons, location_ownInfo, List.append_nil, List.map_map]
  exact congrArg _ hlpaths

/-- No two of the items lead to the same place. -/
theorem walk_nodup {n : ℕ} {tree : RemoteTree} {found : List CopyInfo} (hrpath : rpath ≠ [])
    (hlpath : lpath ≠ []) (hvalid : tree.Valid) (hserves : D.Serves rpath tree)
    (h : walk D.expand n (rpath, lpath) = some (true, found)) :
    (found.map fun ci => location ci.lpath).Nodup := by
  rw [walk_locations hrpath hlpath hvalid hserves h]
  refine List.pairwise_map.mpr ((pairwise_names hvalid).imp fun {a b} hab heq => hab ?_)
  rw [List.append_cancel_left (Prod.mk.inj heq).2]

/-- The list that `remote_build_list` returns for a tree of files, directories and links: its own
directory comes first, and then one item for each node of the tree. No two items lead to the same
place, and no item comes before that of a directory above it. -/
theorem remoteBuildList_complete {tree : RemoteTree} {depth : ℕ} {fileList : List CopyInfo}
    (hrpath : rpath ≠ []) (hlpath : lpath ≠ []) (hvalid : tree.Valid) (hserves : D.Serves rpath tree)
    (h : D.remoteBuildList depth [] rpath lpath = some (true, fileList)) :
    (∃ own rest, fileList = own :: rest ∧ location own.lpath = location lpath ∧
      isDir own.mode = true ∧ own.skip = false ∧
      rest.map CopyInfo.place ~ tree.nodes.map (place rpath lpath)) ∧
    (fileList.map fun ci => location ci.lpath).Nodup ∧
    fileList.Pairwise fun a b => ∀ names ≠ [],
      location a.lpath ≠ ((location b.lpath).1, (location b.lpath).2 ++ names) := by
  rw [remoteBuildList_eq_walk, Option.map_eq_some_iff] at h
  obtain ⟨⟨ok, found⟩, hwalk, heq⟩ := h
  cases heq
  have hlocations := walk_locations hrpath hlpath hvalid hserves hwalk
  have hnodup := walk_nodup hrpath hlpath hvalid hserves hwalk
  obtain ⟨rest, rfl, hrest⟩ := walk_found hrpath hlpath hvalid hserves hwalk
  obtain ⟨hmode, hskip⟩ := ownInfo_mode rpath lpath
  rw [List.nil_append]
  refine ⟨⟨_, rest, rfl, location_ownInfo rpath lpath, hmode, hskip, ?_⟩, hnodup, ?_⟩
  · rw [hrest]
    exact tree.inOrder_perm.map _
  · have hbelow : ((ownInfo rpath lpath :: rest).map fun ci => location ci.lpath).Pairwise
        fun p q => ∀ names ≠ [], p ≠ (q.1, q.2 ++ names) := by
      rw [hlocations]
      refine List.pairwise_map.mpr ((pairwise_names hvalid).imp fun {a b} hab names _ heq =>
        hab ?_)
      have hnames := (Prod.mk.inj heq).2
      rw [List.append_assoc] at hnames
      exact ⟨names, (List.append_cancel_left hnames).symm⟩
    exact List.pairwise_map.mp hbelow

/-- A directory with a file, a directory with a socket in it, a link to a directory, and a link that
leads nowhere. -/
def sharedTree : RemoteTree :=
  .file ⟨sIfreg, 5, 0, lit "a"⟩ <|
  .directory ⟨sIfdir, 0, 0, lit "d"⟩ (.file ⟨0o140000, 0, 0, lit "s"⟩ .nil) <|
  .directoryLink ⟨0o120000, 0, 0, lit "l"⟩ ⟨sIfdir, 0, 0⟩ .nil <|
  .link ⟨0o120000, 0, 0, lit "x"⟩ none .nil

/-- A device that has this tree at `/r`. -/
def sharedDevice : Device where
  haveStatV2 := true
  listing path :=
    if path = lit "/r/" then (⟨sIfdir, 0, 0, lit "."⟩ :: sharedTree.dents, true)
    else if path = lit "/r/d/" then ([⟨0o140000, 0, 0, lit "s"⟩], true)
    else ([], true)
  stat path := if path = lit "/r/l" then .ok ⟨sIfdir, 0, 0⟩ else .error .enoent
  lstat _ := .error .enoent

theorem sharedDevice_complete : ∃ fileList,
    sharedDevice.remoteBuildList 2 [] (lit "/r/") (lit "r/") = some (true, fileList) ∧
    (∃ own rest, fileList = own :: rest ∧
      rest.map CopyInfo.place ~ sharedTree.nodes.map (place (lit "/r/") (lit "r/"))) ∧
    (fileList.map fun ci => location ci.lpath).Nodup := by
  have hvalid : sharedTree.Valid := by
    refine ⟨by decide, by decide, by decide, by decide, by decide, by decide, ?_, by decide,
      by decide, by decide, by decide, by decide, trivial, by decide, by decide, by decide, by decide,
      nofun, by decide, trivial⟩
    exact ⟨by decide, by decide, by decide, by decide, trivial⟩
  have hserves : sharedDevice.Serves (lit "/r/") sharedTree :=
    ⟨by decide, by decide, trivial, by decide, by decide, trivial, by decide, trivial⟩
  have hends : (sharedDevice.remoteBuildList 2 [] (lit "/r/") (lit "r/")).map Prod.fst = some true := by
    decide
  obtain ⟨⟨ok, fileList⟩, hlist, rfl⟩ := Option.map_eq_some_iff.mp hends
  obtain ⟨⟨own, rest, heq, -, -, -, hrest⟩, hnodup, -⟩ :=
    remoteBuildList_complete (by decide) (by decide) hvalid hserves hlist
  exact ⟨fileList, hlist, ⟨own, rest, heq, hrest⟩, hnodup⟩

end Device

end AdbMobile.Sync
