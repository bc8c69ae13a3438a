import AvoCorrelate.Git.ChangedPaths
/-!
# Candidate patches

The patch of a candidate is made with a Git index outside both trees: the baseline is added to
it and the candidate compared with it. Git looks at nothing that is not in the index, so the
patch says nothing of a file that the candidate adds, nor of one that the baseline ignores.
`patch_reproduces_iff`: applied to the baseline it gives the candidate if there is no such
change. The direct walk that the risk is derived from sees them all.
-/
open AvoLib

namespace AvoCorrelate.Git

/-! ## Trees -/

/-- What stands at a path of a workspace, with its permission bits. -/
inductive Node
  | file (content : Bytes) (mode : Nat)
  | symlink (target : Text) (mode : Nat)
  | directory
  | other
  deriving DecidableEq

/-- A workspace tree, by POSIX paths relative to the root. -/
structure Workspace where
  nodes : List (Text × Node)
  distinct : (nodes.map Prod.fst).Nodup

inductive Kind
  | file
  | symlink
  deriving DecidableEq

/-- What Git records of a file or a link: the content, and whether the owner may execute it. -/
structure View where
  kind : Kind
  content : Bytes
  executable : Bool
  deriving DecidableEq

def Node.view : Node → Option View
  | .file content mode => some ⟨.file, content, mode / 64 % 2 = 1⟩
  | .symlink target _ => some ⟨.symlink, Text.utf8 target, false⟩
  | .directory => none
  | .other => none

namespace Workspace

def view (t : Workspace) (path : Text) : Option View := (t.nodes.lookup path).bind Node.view

/-- The files and links of a tree and what is in them. -/
def content (t : Workspace) (path : Text) : Option (Kind × Bytes) := (t.view path).map fun v => (v.kind, v.content)

end Workspace

/-! ## Git -/

/-- What is assumed of Git: `add --all` puts what no ignore rule of the tree excludes into the
index; `diff` compares the index with the work tree and mentions nothing that is not in the index;
and a diff gives back on the paths it mentions the tree it was made for, and changes no others. -/
structure GitTool where
  Patch : Type
  ignored : Workspace → Text → Bool
  add : Workspace → Text → Option View
  diff : (Text → Option View) → Workspace → Patch
  mentions : Patch → Text → Prop
  apply : Patch → Workspace → Text → Option View
  add_view : ∀ t path, add t path = if ignored t path then none else t.view path
  diff_mentions : ∀ index t path, mentions (diff index t) path ↔ index path ≠ none ∧ index path ≠ t.view path
  apply_mentioned : ∀ index base t path, (∀ p, mentions (diff index t) p → index p = base.view p) →
    mentions (diff index t) path → apply (diff index t) base path = t.view path
  apply_other : ∀ patch base path, ¬ mentions patch path → apply patch base path = base.view path

inductive WorkspaceError
  | workspace (message : String)
  | authorityPath (message : String)
  deriving DecidableEq

/-- What stands at the place of the Git metadata before the call. -/
inductive Metadata
  | missing
  | directory (empty : Bool)
  | other
  deriving DecidableEq

/-- The paths of the call, resolved. -/
structure Roots where
  baseline : List Text
  candidate : List Text
  metadata : List Text

variable (G : GitTool)

/-- `create_vcs_free_binary_patch`; `runs` says whether the commands of Git end with the codes
that are accepted. -/
def createVcsFreeBinaryPatch (roots : Roots) (metadata : Metadata) (runs : Bool) (baseline candidate : Workspace) :
    Except WorkspaceError G.Patch := do
  require (¬ roots.baseline <+: roots.metadata ∧ ¬ roots.candidate <+: roots.metadata)
    (.workspace "Git metadata must be outside candidate workspaces")
  require (∀ t ∈ [baseline, candidate], ∀ node ∈ t.nodes, (node.1.splitOn '/').getLast? ≠ some ['.', 'g', 'i', 't'])
    (.workspace "candidate workspaces must be VCS-free")
  require (metadata = .missing ∨ metadata = .directory true)
    (.workspace "Git metadata target must be an empty directory")
  require (runs = true) (.workspace "external Git metadata operation failed")
  return G.diff (G.add baseline) candidate

/-! ## The direct walk -/

/-- What the walk compares: the digest of a file or the text of a link, and the mode. -/
structure WalkEntry where
  kind : Kind
  value : Text
  mode : Nat
  deriving DecidableEq

/-- The entries of a tree, directories left out. -/
def entries (sha : Bytes → Bytes) : List (Text × Node) → Except WorkspaceError (List (Text × WalkEntry))
  | [] => .ok []
  | (path, .file content mode) :: rest => do
    return (path, ⟨.file, Text.hexdigest (sha content), mode⟩) :: (← entries sha rest)
  | (path, .symlink target mode) :: rest => do
    return (path, ⟨.symlink, target, mode⟩) :: (← entries sha rest)
  | (_, .directory) :: rest => entries sha rest
  | (path, .other) :: _ =>
    .error (.authorityPath ("candidate contains unsupported workspace entry: " ++ String.ofList path))

def changedWorkspacePaths (sha : Bytes → Bytes) (baseline candidate : Workspace) : Except WorkspaceError (List Text) := do
  let baselineEntries ← entries sha baseline.nodes
  let candidateEntries ← entries sha candidate.nodes
  let keys := (baselineEntries.map Prod.fst ++ candidateEntries.map Prod.fst).dedup
  return (keys.filter fun path => baselineEntries.lookup path ≠ candidateEntries.lookup path).insertionSort (· ≤ ·)

/-! ## What a patch says -/

/-- The patch turns the baseline into the candidate, and mentions what the walk finds changed in
content or on one side only. -/
structure Reproduces (sha : Bytes → Bytes) (baseline candidate : Workspace) (patch : G.Patch) : Prop where
  tree : ∀ path, (G.apply patch baseline path).map (fun v => (v.kind, v.content)) = candidate.content path
  paths : ∀ changed, changedWorkspacePaths sha baseline candidate = .ok changed → ∀ path ∈ changed,
    baseline.content path ≠ candidate.content path → G.mentions patch path

/-- No file is added, and none that the baseline ignores is changed or removed. -/
def OnlyIndexed (baseline candidate : Workspace) : Prop :=
  ∀ path, baseline.content path = none ∨ G.ignored baseline path = true →
    baseline.content path = candidate.content path

variable {G}

theorem content_eq_none {t : Workspace} {path : Text} : t.content path = none ↔ t.view path = none := by
  simp [Workspace.content]

theorem apply_content (baseline candidate : Workspace) (path : Text) :
    (G.apply (G.diff (G.add baseline) candidate) baseline path).map (fun v => (v.kind, v.content)) =
      if baseline.content path = none ∨ G.ignored baseline path = true then baseline.content path
      else candidate.content path := by
  have hindexed : ∀ p, G.mentions (G.diff (G.add baseline) candidate) p → G.add baseline p = baseline.view p := by
    intro p hp
    have hsome := ((G.diff_mentions _ _ p).mp hp).1
    rw [G.add_view] at hsome ⊢
    split at hsome
    · exact absurd rfl hsome
    · next hkept => rw [if_neg hkept]
  by_cases hmentions : G.mentions (G.diff (G.add baseline) candidate) path
  · have hview := hindexed path hmentions
    have hsome := ((G.diff_mentions _ _ path).mp hmentions).1
    have hkept : ¬ G.ignored baseline path = true := by
      intro hignored
      rw [G.add_view, if_pos hignored] at hsome
      exact hsome rfl
    rw [hview] at hsome
    have hbase : ¬ baseline.content path = none := fun h => hsome (content_eq_none.mp h)
    rw [G.apply_mentioned _ _ _ path hindexed hmentions, if_neg (by simp [hbase, hkept])]
    rfl
  · rw [G.apply_other _ _ path hmentions]
    split
    · rfl
    · next hkept =>
      -- The path is indexed, and the diff passes it over since nothing changed there.
      obtain ⟨hbase, hignored⟩ := not_or.mp hkept
      have hindex : G.add baseline path = baseline.view path := by rw [G.add_view, if_neg hignored]
      have hsame : baseline.view path = candidate.view path := by
        by_contra hne
        refine hmentions ((G.diff_mentions _ _ path).mpr ?_)
        rw [hindex]
        exact ⟨fun h => hbase (content_eq_none.mpr h), hne⟩
      rw [hsame]
      rfl

theorem mentions_of_content {baseline candidate : Workspace} {path : Text} (hbase : baseline.content path ≠ none)
    (hignored : ¬ G.ignored baseline path = true) (h : baseline.content path ≠ candidate.content path) :
    G.mentions (G.diff (G.add baseline) candidate) path := by
  refine (G.diff_mentions _ _ path).mpr ?_
  rw [G.add_view, if_neg hignored]
  refine ⟨fun hnone => hbase (content_eq_none.mpr hnone), ?_⟩
  intro hview
  exact h (by rw [Workspace.content, Workspace.content, hview])

variable (G) in
/-- A patch turns the baseline into the candidate exactly if it adds no file and leaves the files
alone that the baseline ignores. -/
theorem patch_reproduces_iff (sha : Bytes → Bytes) (roots : Roots) (metadata : Metadata) (runs : Bool)
    (baseline candidate : Workspace) (patch : G.Patch)
    (h : createVcsFreeBinaryPatch G roots metadata runs baseline candidate = .ok patch) :
    Reproduces G sha baseline candidate patch ↔ OnlyIndexed G baseline candidate := by
  simp only [createVcsFreeBinaryPatch, bind_ok, require_ok, pure_ok] at h
  obtain ⟨_, -, _, -, _, -, _, -, rfl⟩ := h
  constructor
  · rintro ⟨htree, -⟩ path hpath
    have hat := htree path
    rwa [apply_content, if_pos hpath] at hat
  · intro hindexed
    constructor
    · intro path
      rw [apply_content]
      split
      · next hpath => exact hindexed path hpath
      · rfl
    · intro changed _ path _ hdiffers
      have hpath : ¬ (baseline.content path = none ∨ G.ignored baseline path = true) :=
        fun h => hdiffers (hindexed path h)
      obtain ⟨hbase, hignored⟩ := not_or.mp hpath
      exact mentions_of_content hbase hignored hdiffers

/-! ## An added file -/

namespace Sample

/-- A Git whose diffs say of a path what is to stand there; `ignored` is by the name. -/
def git : GitTool where
  Patch := Text → Option (Option View)
  ignored _ path := path = ['i']
  add t path := if path = ['i'] then none else t.view path
  diff index t path := if index path ≠ none ∧ index path ≠ t.view path then some (t.view path) else none
  mentions patch path := patch path ≠ none
  apply patch base path := (patch path).getD (base.view path)
  add_view t path := by simp
  diff_mentions index t path := by simp
  apply_mentioned index base t path _ h := by
    by_cases hmentioned : index path ≠ none ∧ index path ≠ t.view path
    · simp only [if_pos hmentioned, Option.getD_some]
    · exact absurd (if_neg hmentioned) h
  apply_other patch base path h := by
    rw [not_not] at h
    rw [h]
    rfl

/-- One file `f` with one byte. -/
def before : Workspace where
  nodes := [(['f'], .file [97] 420)]
  distinct := by decide

def edited : Workspace where
  nodes := [(['f'], .file [98] 420)]
  distinct := by decide

/-- The file, and an empty one beside it. -/
def grown : Workspace where
  nodes := [(['f'], .file [97] 420), (['n'], .file [] 420)]
  distinct := by decide

def roots : Roots := ⟨[['b']], [['c']], [['m']]⟩

end Sample

/-- The patch of a candidate with one more file does not have the file. -/
theorem added_file_lost :
    ¬ ∀ (G : GitTool) sha roots metadata runs baseline candidate patch,
      createVcsFreeBinaryPatch G roots metadata runs baseline candidate = .ok patch →
        Reproduces G sha baseline candidate patch := by
  intro hclaim
  have hpatch : createVcsFreeBinaryPatch Sample.git Sample.roots .missing true Sample.before Sample.grown =
      .ok (Sample.git.diff (Sample.git.add Sample.before) Sample.grown) := by
    simp only [createVcsFreeBinaryPatch, bind_ok, require_ok, pure_ok]
    exact ⟨(), by decide, (), by decide, (), by decide, (), trivial, trivial⟩
  have h := (hclaim _ id _ _ _ _ _ _ hpatch).tree ['n']
  rw [apply_content] at h
  exact absurd h (by decide)

theorem patch_reproduces_iff_edited :
    Reproduces Sample.git id Sample.before Sample.edited (Sample.git.diff (Sample.git.add Sample.before) Sample.edited) ↔
      OnlyIndexed Sample.git Sample.before Sample.edited :=
  patch_reproduces_iff Sample.git id Sample.roots .missing true _ _ _ (by
    simp only [createVcsFreeBinaryPatch, bind_ok, require_ok, pure_ok]
    exact ⟨(), by decide, (), by decide, (), by decide, (), trivial, trivial⟩)

end AvoCorrelate.Git
