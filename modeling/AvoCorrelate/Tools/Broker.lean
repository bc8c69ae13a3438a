import AvoCorrelate.Capabilities
import AvoCorrelate.Git.Patch
import AvoCorrelate.Tools.Edit
/-!
# The workspace tools

The two tools that change a workspace look at what they made of it afterwards, and raise if it
is not allowed. `replace_text` then puts the file back; `apply_patch` leaves the patch applied.
`refused_edit_iff` says which calls that raise leave every file as it was, the failures of the
operating system included.
-/
open AvoLib

namespace AvoCorrelate.Tools

open Git (Workspace Node)

abbrev Bytes := List UInt8

inductive ToolError
  | policy (message : String)
  | value (message : String)
  | token (error : Capabilities.InvalidCapabilityToken)
  | os
  | timeout
  deriving DecidableEq

structure WorkspaceSpec where
  allowedPaths : List Text
  forbiddenPaths : List Text
  maxFileBytes : Nat
  maxTreeBytes : Nat

/-- `WorkspaceToolBroker`, with the parts of its root and the tables of `unicodedata`. -/
structure WorkspaceToolBroker where
  root : List Text
  spec : WorkspaceSpec
  issuer : Capabilities.CapabilityIssuer
  sessionId : String
  workspaceDigest : String
  hasBaseline : Bool
  nfc : Text → Text
  casefold : Text → Text

variable (B : WorkspaceToolBroker)

/-! ## Admission -/

/-- `_authorize`, at the time of the call. -/
def authorize (token : Text) (toolId : String) (checkedAt : Instant) : Except ToolError Unit := do
  let _ ← (Capabilities.verify B.issuer token B.sessionId B.workspaceDigest toolId checkedAt).mapError .token
  return ()

def drivePrefix (value : Text) : Bool :=
  match value with
  | c :: ':' :: _ => c.isAlpha
  | _ => false

def validateManifestPath (value : Text) : Except ToolError Text := do
  require (B.nfc value = value) (.value "manifest paths must already be NFC-normalized")
  require (value ≠ [] ∧ '\x00' ∉ value) (.value "manifest paths must be non-empty and contain no NUL")
  require ('\\' ∉ value ∧ ¬ ['/'] <+: value ∧ drivePrefix value = false)
    (.value "manifest paths must be relative POSIX paths")
  require (∀ segment ∈ value.splitOn '/', segment ≠ [] ∧ segment ≠ ['.'] ∧ segment ≠ ['.', '.'])
    (.value "manifest paths contain an unsafe segment")
  return value

def pathIsPermitted (relativePath : Text) : Bool :=
  (∃ item ∈ B.spec.allowedPaths, Text.posixParts item <+: Text.posixParts relativePath) ∧
    ¬ ∃ item ∈ B.spec.forbiddenPaths, Text.posixParts item <+: Text.posixParts relativePath

def isSymlink (w : Workspace) (path : Text) : Bool :=
  match w.nodes.lookup path with
  | some (.symlink _ _) => true
  | _ => false

/-- `_resolve`. With no link on the way, a path resolves to itself. -/
def resolve (w : Workspace) (relativePath : Text) : Except ToolError Text := do
  let normalized ← validateManifestPath B relativePath
  require (pathIsPermitted B normalized = true)
    (.policy ("workspace path is not permitted: " ++ String.ofList normalized))
  let parts := Text.posixParts normalized
  require (∀ n ∈ List.range parts.length, isSymlink w (['/'].intercalate (parts.take (n + 1))) = false)
    (.policy "symlinks are not permitted in workspace paths")
  match w.nodes.lookup normalized with
  | some (.file _ _) => return normalized
  | none => .error .os
  | _ => .error (.policy "path is not a permitted regular file")

/-- The path a header line names, if it names a file. -/
def headerPath (header : Text) : Except ToolError (Option Text) := do
  let raw := Text.before ['\t'] header
  if raw = ['/', 'd', 'e', 'v', '/', 'n', 'u', 'l', 'l'] then return none
  else
    require (['a', '/'] <+: raw ∨ ['b', '/'] <+: raw) (.policy "patch paths must use a/ and b/ prefixes")
    return some (raw.drop 2)

def checkHeaders : List Text → Except ToolError Unit
  | [] => .ok ()
  | header :: rest => do
    match ← headerPath header with
    | none => checkHeaders rest
    | some path =>
      let relative ← validateManifestPath B path
      require (pathIsPermitted B relative = true) (.policy ("patch path is not permitted: " ++ String.ofList relative))
      checkHeaders rest

/-- The lines that the check takes for headers, without their marks. -/
def headersOf (patch : Text) : List Text :=
  ((Text.textLines patch).filter fun line => ['-', '-', '-', ' '] <+: line ∨ ['+', '+', '+', ' '] <+: line).map (·.drop 4)

def validatePatchPaths (patch : Bytes) : Except ToolError Unit := do
  let text ← orRaise (Text.decodeUtf8 patch) (.policy "patch must be UTF-8")
  let headers := headersOf text
  require (headers ≠ []) (.policy "patch has no file headers")
  checkHeaders B headers

/-! ## The scan -/

local instance lawfulText : LawfulBEq Text := inferInstance

/-- The scan of the entries after those with the folded names `seen` and `total` bytes. -/
def scanFrom : List Text → Nat → List (Text × Node) → Except ToolError Unit
  | _, total, [] => require (total ≤ B.spec.maxTreeBytes) (.policy "workspace exceeds tree limit after patch")
  | seen, total, (path, node) :: rest => do
    let parts := Text.posixParts path
    require (¬ (B.hasBaseline = true ∧ parts.getLast? = some ['.', 'g', 'i', 't']))
      (.policy "VCS metadata was created in the candidate workspace")
    if ['.', 'g', 'i', 't'] ∈ B.root ++ parts then scanFrom seen total rest
    else
      let relative := B.nfc path
      let collisionKey := B.casefold relative
      require (collisionKey ∉ seen) (.policy ("path normalization collision: " ++ String.ofList relative))
      match node with
      | .symlink _ _ => .error (.policy ("symlink created by patch: " ++ String.ofList relative))
      | .file content _ =>
        require (content.length ≤ B.spec.maxFileBytes)
          (.policy ("file exceeds limit after patch: " ++ String.ofList relative))
        scanFrom (collisionKey :: seen) (total + content.length) rest
      | _ => scanFrom (collisionKey :: seen) total rest

/-- `_scan_after_mutation`; `fails` says whether the operating system stops it. -/
def scanAfterMutation (fails : Bool) (w : Workspace) : Except ToolError Unit :=
  if fails then .error .os else scanFrom B [] 0 w.nodes

/-! ## Files -/

def put (path : Text) (node : Node) (w : Workspace) : Workspace where
  nodes := (path, node) :: w.nodes.filter (·.1 ≠ path)
  distinct := by
    rw [List.map_cons, List.nodup_cons]
    refine ⟨by simp, ?_⟩
    exact w.distinct.sublist (List.filter_sublist.map Prod.fst)

/-- The steps of `_atomic_replace` that may fail. -/
inductive Step
  | create
  | write
  | chmod
  | replace
  deriving DecidableEq

/-- What the operating system does with one call of `_atomic_replace`: the name of the temporary
file, the step that fails and what was written by then, and whether the file can be unlinked. -/
structure Replacement where
  temporary : Text
  fails : Option Step
  written : Bytes
  unlinks : Bool

/-- `_atomic_replace`. The temporary file is known by its path only after it was written. -/
def atomicReplace (r : Replacement) (path : Text) (payload : Bytes) (mode : Nat) (w : Workspace) :
    Except ToolError Unit × Workspace :=
  match r.fails with
  | some .create => (.error .os, w)
  | some .write => (.error .os, put r.temporary (.file r.written 384) w)
  | some .chmod => (.error .os, if r.unlinks then w else put r.temporary (.file payload 384) w)
  | some .replace => (.error .os, if r.unlinks then w else put r.temporary (.file payload mode) w)
  | none => (.ok (), put path (.file payload mode) w)

/-! ## The tools -/

/-- How a command of Git ends. -/
inductive Run
  | exit (code : Nat) (stderr : Text)
  | timedOut
  | failed

/-- What is assumed of `git apply`: it applies the whole patch or nothing, and nothing when it
exits with an error. -/
structure GitApply where
  check : Bytes → Workspace → Run
  run : Bytes → Workspace → Run × Workspace
  whole : Bytes → Workspace → Workspace
  atomic : ∀ patch w, (run patch w).2 = w ∨ (run patch w).2 = whole patch w
  refused : ∀ patch w code stderr, (run patch w).1 = .exit code stderr → code ≠ 0 → (run patch w).2 = w

def Run.result : Run → Except ToolError Unit
  | .exit code stderr =>
    let shown := String.ofList (stderr.take 1000)
    require (code = 0) (.policy (if shown = "" then "git apply failed" else shown))
  | .timedOut => .error .timeout
  | .failed => .error .os

/-- What `apply_patch` checks before it runs Git. -/
def admitPatch (token : Text) (patch : Bytes) (checkedAt : Instant) : Except ToolError Unit := do
  authorize B token "apply_patch" checkedAt
  require (patch.length ≤ B.spec.maxTreeBytes) (.policy "patch exceeds workspace limit")
  validatePatchPaths B patch

def applyPatch (G : GitApply) (scanFails : Bool) (token : Text) (patch : Bytes) (checkedAt : Instant) (w : Workspace) :
    Except ToolError Unit × Workspace :=
  match admitPatch B token patch checkedAt with
  | .error e => (.error e, w)
  | .ok () =>
    match (G.check patch w).result with
    | .error e => (.error e, w)
    | .ok () =>
      match (G.run patch w).1.result with
      | .error e => (.error e, (G.run patch w).2)
      | .ok () => (scanAfterMutation B scanFails (G.run patch w).2, (G.run patch w).2)

/-- What the operating system does with a call of `replace_text`. -/
structure ReplaceIo where
  readFails : Bool
  statFails : Bool
  first : Replacement
  scanFails : Bool
  undo : Replacement

/-- What `replace_text` is about to write. -/
structure Replacing where
  path : Text
  original : Bytes
  updated : Bytes
  mode : Nat

/-- `replace_text` up to the write. -/
def prepare (io : ReplaceIo) (token relativePath old new : Text) (checkedAt : Instant) (w : Workspace) :
    Except ToolError Replacing := do
  authorize B token "replace_text" checkedAt
  let path ← resolve B w relativePath
  match w.nodes.lookup path with
  | some (.file content mode) => do
    require (io.readFails = false) .os
    let original ← orRaise (Text.decodeUtf8 content) (.policy "replace_text requires a UTF-8 file")
    let updated ← (edit original old new).mapError fun | .policy message => .policy message
    let updatedBytes := Text.utf8 updated
    require (updatedBytes.length ≤ B.spec.maxFileBytes) (.policy "replacement exceeds workspace file limit")
    require (io.statFails = false) .os
    return ⟨path, content, updatedBytes, mode⟩
  | _ => .error .os

def replaceText (io : ReplaceIo) (token relativePath old new : Text) (checkedAt : Instant) (w : Workspace) :
    Except ToolError Bytes × Workspace :=
  match prepare B io token relativePath old new checkedAt w with
  | .error e => (.error e, w)
  | .ok r =>
    match atomicReplace io.first r.path r.updated r.mode w with
    | (.error e, w₁) => (.error e, w₁)
    | (.ok (), w₁) =>
      match scanAfterMutation B io.scanFails w₁ with
      | .ok () => (.ok r.updated, w₁)
      | .error e =>
        match atomicReplace io.undo r.path r.original r.mode w₁ with
        | (.error e', w₂) => (.error e', w₂)
        | (.ok (), w₂) => (.error e, w₂)

/-! ## Files as they were -/

/-- The file, link or other node at a path. -/
def standing (w : Workspace) (path : Text) : Option Node := (w.nodes.lookup path).filter fun node => node ≠ .directory

/-- Every file has the same existence, bytes and mode. -/
def SameFiles (w w' : Workspace) : Prop := ∀ path, standing w path = standing w' path

theorem lookup_put (path : Text) (node : Node) (w : Workspace) (q : Text) :
    (put path node w).nodes.lookup q = if q = path then some node else w.nodes.lookup q := by
  have hfilter : ∀ nodes : List (Text × Node), q ≠ path → (nodes.filter (·.1 ≠ path)).lookup q = nodes.lookup q := by
    intro nodes hq
    induction nodes with
    | nil => rfl
    | cons n nodes ih =>
      obtain ⟨p, m⟩ := n
      by_cases hp : p = path
      · have hne : (q == p) = false := by simpa [hp] using hq
        rw [List.filter_cons_of_neg (by simpa using hp), ih, List.lookup_cons, hne]
      · rw [List.filter_cons_of_pos (by simpa using hp), List.lookup_cons, List.lookup_cons, ih]
  by_cases hq : q = path
  · simp [put, hq]
  · have hne : (q == path) = false := by simpa using hq
    rw [put, List.lookup_cons, hne, hfilter _ hq, if_neg hq]

variable {content : Bytes} {mode : Nat} {w : Workspace} {r : Replacement}

theorem standing_put_file {path : Text} {q : Text} :
    standing (put path (.file content mode) w) q = if q = path then some (.file content mode) else standing w q := by
  rw [standing, lookup_put]
  split
  · rfl
  · rfl

theorem standing_file {path : Text} (h : w.nodes.lookup path = some (.file content mode)) :
    standing w path = some (.file content mode) := by
  rw [standing, h]
  rfl

/-- A failed replacement leaves its temporary file behind. -/
def Replacement.Leaves (r : Replacement) : Prop :=
  r.fails = some .write ∨ (r.fails = some .chmod ∨ r.fails = some .replace) ∧ r.unlinks = false

theorem atomicReplace_failed (hfails : r.fails ≠ none) (path : Text) (payload : Bytes) (mode : Nat) (w : Workspace) :
    (¬ r.Leaves ∧ (atomicReplace r path payload mode w).2 = w) ∨
      r.Leaves ∧ ∃ content m, (atomicReplace r path payload mode w).2 = put r.temporary (.file content m) w := by
  cases hf : r.fails with
  | none => exact absurd hf hfails
  | some step =>
    cases step with
    | create => exact .inl ⟨by simp [Replacement.Leaves, hf], by simp [atomicReplace, hf]⟩
    | write => exact .inr ⟨.inl hf, r.written, 384, by simp [atomicReplace, hf]⟩
    | chmod =>
      cases hu : r.unlinks with
      | true => exact .inl ⟨by simp [Replacement.Leaves, hf, hu], by simp [atomicReplace, hf, hu]⟩
      | false => exact .inr ⟨.inr ⟨.inl hf, hu⟩, payload, 384, by simp [atomicReplace, hf, hu]⟩
    | replace =>
      cases hu : r.unlinks with
      | true => exact .inl ⟨by simp [Replacement.Leaves, hf, hu], by simp [atomicReplace, hf, hu]⟩
      | false => exact .inr ⟨.inr ⟨.inr hf, hu⟩, payload, mode, by simp [atomicReplace, hf, hu]⟩

theorem atomicReplace_raised {path : Text} {payload : Bytes} :
    (∃ e, (atomicReplace r path payload mode w).1 = .error e) ↔ r.fails ≠ none := by
  rw [atomicReplace.eq_def]
  split <;> simp_all

theorem not_sameFiles_temporary {w' : Workspace} {temporary : Text} (hfresh : w.nodes.lookup temporary = none)
    (h : standing w' temporary = some (.file content mode)) : ¬ SameFiles w w' := by
  intro hsame
  have := hsame temporary
  rw [h, standing, hfresh] at this
  cases this

section Unchanged
variable {B} {token relativePath old new patch : Text} {checkedAt : Instant} {w : Workspace} {io : ReplaceIo}

theorem prepare_ok {r : Replacing} (h : prepare B io token relativePath old new checkedAt w = .ok r) :
    w.nodes.lookup r.path = some (.file r.original r.mode) := by
  simp only [prepare, bind_ok] at h
  obtain ⟨_, -, path, -, h⟩ := h
  split at h
  · next content mode hlookup =>
    simp only [bind_ok, require_ok, orRaise_ok, pure_ok] at h
    obtain ⟨_, -, _, -, _, -, _, -, _, -, rfl⟩ := h
    exact hlookup
  · cases h

theorem not_leaves_of_none {r : Replacement} (h : r.fails = none) : ¬ r.Leaves := by simp [Replacement.Leaves, h]

theorem undo_sameFiles {r : Replacing} {undo : Replacement} (hfile : w.nodes.lookup r.path = some (.file r.original r.mode))
    (hfresh : w.nodes.lookup undo.temporary = none) :
    SameFiles w (atomicReplace undo r.path r.original r.mode (put r.path (.file r.updated r.mode) w)).2 ↔
      ¬ undo.Leaves ∧ (undo.fails = none ∨ r.updated = r.original) := by
  have hstanding := standing_file hfile
  by_cases hfails : undo.fails = none
  · refine iff_of_true ?_ ⟨not_leaves_of_none hfails, .inl hfails⟩
    intro q
    simp only [atomicReplace, hfails, standing_put_file]
    split
    · next hq => rw [hq, hstanding]
    · rfl
  · rcases atomicReplace_failed hfails r.path r.original r.mode (put r.path (.file r.updated r.mode) w) with
      ⟨hkept, heq⟩ | ⟨hleaves, content, mode, heq⟩
    · rw [heq]
      constructor
      · intro hsame
        have := hsame r.path
        rw [hstanding, standing_put_file, if_pos rfl] at this
        have hback := (Node.file.inj (Option.some.inj this)).1
        exact ⟨hkept, .inr hback.symm⟩
      · rintro ⟨-, hnone | hback⟩
        · exact absurd hnone hfails
        · intro q
          rw [standing_put_file, hback]
          split
          · next hq => rw [hq, hstanding]
          · rfl
    · rw [heq]
      refine iff_of_false ?_ fun h => h.1 hleaves
      exact not_sameFiles_temporary hfresh (by rw [standing_put_file, if_pos rfl])

/-- `replace_text` puts back what it wrote, unless the operating system fails it: in a way that
leaves a temporary file behind, or while it puts back something else. -/
theorem replaceText_unchanged (hfirst : w.nodes.lookup io.first.temporary = none)
    (hundo : w.nodes.lookup io.undo.temporary = none) :
    (∀ e, (replaceText B io token relativePath old new checkedAt w).1 = .error e →
        SameFiles w (replaceText B io token relativePath old new checkedAt w).2) ↔
      ∀ r, prepare B io token relativePath old new checkedAt w = .ok r →
        ¬ io.first.Leaves ∧
        (io.first.fails = none →
          (∃ e, scanAfterMutation B io.scanFails (put r.path (.file r.updated r.mode) w) = .error e) →
            ¬ io.undo.Leaves ∧ (io.undo.fails = none ∨ r.updated = r.original)) := by
  cases hprepare : prepare B io token relativePath old new checkedAt w with
  | error e =>
    refine iff_of_true ?_ (by simp)
    intro e' _
    simp only [replaceText, hprepare]
    exact fun _ => rfl
  | ok r =>
    have hfile := prepare_ok hprepare
    simp only [Except.ok.injEq, forall_eq']
    by_cases hfails : io.first.fails = none
    · have hwritten : atomicReplace io.first r.path r.updated r.mode w = (.ok (), put r.path (.file r.updated r.mode) w) := by
        simp [atomicReplace, hfails]
      cases hscan : scanAfterMutation B io.scanFails (put r.path (.file r.updated r.mode) w) with
      | ok _ =>
        have hdone : (replaceText B io token relativePath old new checkedAt w).1 = .ok r.updated := by
          simp [replaceText, hprepare, hwritten, hscan]
        rw [hdone]
        exact iff_of_true (by simp) ⟨not_leaves_of_none hfails, by simp⟩
      | error e =>
        rw [← undo_sameFiles hfile hundo]
        have hcall : (replaceText B io token relativePath old new checkedAt w).2 =
              (atomicReplace io.undo r.path r.original r.mode (put r.path (.file r.updated r.mode) w)).2 ∧
            ∃ e', (replaceText B io token relativePath old new checkedAt w).1 = .error e' := by
          simp only [replaceText, hprepare, hwritten, hscan]
          cases atomicReplace io.undo r.path r.original r.mode (put r.path (.file r.updated r.mode) w) with
          | mk result w₂ =>
            cases result with
            | error e' => exact ⟨rfl, e', rfl⟩
            | ok _ => exact ⟨rfl, e, rfl⟩
        obtain ⟨hw, e', he'⟩ := hcall
        rw [hw, he']
        constructor
        · intro h
          exact ⟨not_leaves_of_none hfails, fun _ _ => h e' rfl⟩
        · intro h _ _
          exact h.2 hfails ⟨e, rfl⟩
    · -- The first replacement fails: nothing is undone.
      have hraised : ∃ e, (atomicReplace io.first r.path r.updated r.mode w).1 = .error e :=
        atomicReplace_raised.mpr hfails
      obtain ⟨e, he⟩ := hraised
      have hcall : replaceText B io token relativePath old new checkedAt w =
          (.error e, (atomicReplace io.first r.path r.updated r.mode w).2) := by
        simp only [replaceText, hprepare]
        cases hrep : atomicReplace io.first r.path r.updated r.mode w with
        | mk result w₁ =>
          rw [hrep] at he
          obtain rfl : result = .error e := he
          rfl
      rw [hcall]
      rcases atomicReplace_failed hfails r.path r.updated r.mode w with ⟨hkept, heq⟩ | ⟨hleaves, content, mode, heq⟩
      · refine iff_of_true ?_ ⟨hkept, fun hnone => absurd hnone hfails⟩
        intro _ _
        rw [heq]
        exact fun _ => rfl
      · refine iff_of_false ?_ fun h => h.1 hleaves
        intro h
        have hsame := h e rfl
        rw [heq] at hsame
        exact not_sameFiles_temporary hfirst (by rw [standing_put_file, if_pos rfl]) hsame

/-- The patch was applied, changes some file, and the call raises all the same. -/
def LeftApplied (B : WorkspaceToolBroker) (G : GitApply) (scanFails : Bool) (patch : Bytes) (w : Workspace) : Prop :=
  (G.run patch w).2 = G.whole patch w ∧ ¬ SameFiles w (G.whole patch w) ∧
    ((G.run patch w).1 = .timedOut ∨ (G.run patch w).1 = .failed ∨
      (∃ stderr, (G.run patch w).1 = .exit 0 stderr) ∧ ∃ e, scanAfterMutation B scanFails (G.whole patch w) = .error e)

theorem applyPatch_unchanged (G : GitApply) (scanFails : Bool) (patch : Bytes) :
    (∀ e, (applyPatch B G scanFails token patch checkedAt w).1 = .error e →
        SameFiles w (applyPatch B G scanFails token patch checkedAt w).2) ↔
      (admitPatch B token patch checkedAt = .ok () → (G.check patch w).result = .ok () →
        ¬ LeftApplied B G scanFails patch w) := by
  cases hadmit : admitPatch B token patch checkedAt with
  | error e =>
    refine iff_of_true ?_ (by simp)
    intro _ _
    simp only [applyPatch, hadmit]
    exact fun _ => rfl
  | ok _ =>
    cases hcheck : (G.check patch w).result with
    | error e =>
      refine iff_of_true ?_ (by simp)
      intro _ _
      simp only [applyPatch, hadmit, hcheck]
      exact fun _ => rfl
    | ok _ =>
      have hstate : (applyPatch B G scanFails token patch checkedAt w).2 = (G.run patch w).2 := by
        simp only [applyPatch, hadmit, hcheck]
        split <;> rfl
      have hraises : (∃ e, (applyPatch B G scanFails token patch checkedAt w).1 = .error e) ↔
          (∃ e, (G.run patch w).1.result = .error e) ∨ ((G.run patch w).1.result = .ok () ∧
            ∃ e, scanAfterMutation B scanFails (G.run patch w).2 = .error e) := by
        simp only [applyPatch, hadmit, hcheck]
        split
        · next e he => simp [he]
        · next he => simp [he]
      rw [hstate]
      constructor
      · rintro h - - ⟨hwhole, hchanged, hended⟩
        have hraised : ∃ e, (applyPatch B G scanFails token patch checkedAt w).1 = .error e := by
          rw [hraises]
          rcases hended with hrun | hrun | ⟨⟨stderr, hrun⟩, hscan⟩
          · exact .inl ⟨.timeout, by rw [hrun]; rfl⟩
          · exact .inl ⟨.os, by rw [hrun]; rfl⟩
          · refine .inr ⟨by rw [hrun]; rfl, ?_⟩
            rw [hwhole]
            exact hscan
        obtain ⟨e, he⟩ := hraised
        rw [← hwhole] at hchanged
        exact hchanged (h e he)
      · intro h e he
        by_contra hchanged
        rcases G.atomic patch w with hsame | hwhole
        · rw [hsame] at hchanged
          exact hchanged fun _ => rfl
        · refine h rfl rfl ⟨hwhole, by rwa [← hwhole], ?_⟩
          have hraised := hraises.mp ⟨e, he⟩
          cases hrun : (G.run patch w).1 with
          | timedOut => exact .inl rfl
          | failed => exact .inr (.inl rfl)
          | exit code stderr =>
            by_cases hcode : code = 0
            · subst hcode
              refine .inr (.inr ⟨⟨stderr, rfl⟩, ?_⟩)
              rw [← hwhole]
              rcases hraised with ⟨e', he'⟩ | ⟨-, hscan⟩
              · rw [hrun] at he'
                cases he'
              · exact hscan
            · rw [G.refused patch w code stderr hrun hcode] at hchanged
              exact absurd (fun _ => rfl) hchanged

end Unchanged

/-! ## Calls on one file -/

namespace Sample

def claims : Capabilities.CapabilityClaims where
  tokenId := "t"
  sessionId := "s"
  actorId := "a"
  workspaceDigest := "sha256:0000000000000000000000000000000000000000000000000000000000000000"
  tools := ["apply_patch", "replace_text"]
  policyDecisionId := "p"
  expiresAt := 1767225600

/-- The canonical JSON of the claims. -/
def payload : Bytes :=
  [
    123, 34, 97, 99, 116, 111, 114, 95, 105, 100, 34, 58, 34, 97, 34, 44, 34, 101, 120, 112, 105, 114, 101, 115,
    95, 97, 116, 34, 58, 34, 50, 48, 50, 54, 45, 48, 49, 45, 48, 49, 84, 48, 48, 58, 48, 48, 58, 48, 48, 90, 34,
    44, 34, 112, 111, 108, 105, 99, 121, 95, 100, 101, 99, 105, 115, 105, 111, 110, 95, 105, 100, 34, 58, 34,
    112, 34, 44, 34, 115, 99, 104, 101, 109, 97, 95, 118, 101, 114, 115, 105, 111, 110, 34, 58, 49, 44, 34, 115,
    101, 115, 115, 105, 111, 110, 95, 105, 100, 34, 58, 34, 115, 34, 44, 34, 116, 111, 107, 101, 110, 95, 105,
    100, 34, 58, 34, 116, 34, 44, 34, 116, 111, 111, 108, 115, 34, 58, 91, 34, 97, 112, 112, 108, 121, 95, 112,
    97, 116, 99, 104, 34, 44, 34, 114, 101, 112, 108, 97, 99, 101, 95, 116, 101, 120, 116, 34, 93, 44, 34, 119,
    111, 114, 107, 115, 112, 97, 99, 101, 95, 100, 105, 103, 101, 115, 116, 34, 58, 34, 115, 104, 97, 50, 53,
    54, 58] ++
    List.replicate 64 48 ++ [34, 125]

def signature : Bytes :=
  [
    88, 246, 150, 193, 219, 239, 182, 241, 206, 62, 234, 98, 49, 122, 210, 132, 173, 102, 110, 190, 255, 69, 21,
    234, 37, 142, 77, 32, 98, 151, 3, 165]

/-- The issuer whose key is 32 times `k`, on these claims. -/
def issuer : Capabilities.CapabilityIssuer where
  canon := { nfc := id, dumps := fun _ => .ok payload }
  hmac _ _ := signature
  isoformat _ := "2026-01-01T00:00:00Z"
  validateJson _ := some claims
  signingKey := List.replicate 32 107
  long := Capabilities.Sample.issuer.long

def token : Text := Capabilities.token payload signature

/-- A broker that permits `src`. -/
def broker : WorkspaceToolBroker where
  root := [['w']]
  spec := ⟨[['s', 'r', 'c']], [], 1000, 1000⟩
  issuer := issuer
  sessionId := "s"
  workspaceDigest := claims.workspaceDigest
  hasBaseline := false
  nfc := id
  casefold path := path.map Char.toLower

theorem authorize_ok {toolId : String} (h : toolId ∈ claims.tools) : authorize broker token toolId 0 = .ok () := by
  have hverify : Capabilities.verify issuer token "s" claims.workspaceDigest toolId 0 = .ok claims :=
    Capabilities.verify_ok.mpr ⟨⟨_, _, payload, Capabilities.segments_token _ _, Capabilities.decode_encode _,
      Capabilities.decode_encode _, rfl⟩, by decide, rfl, rfl, h⟩
  simp only [authorize, bind_ok, mapError_ok]
  exact ⟨claims, hverify, rfl⟩

def path : Text := ['s', 'r', 'c', '/', 'a', '.', 'p', 'y']

def workspace (content : Text) : Workspace where
  nodes := [(['s', 'r', 'c'], .directory), (path, .file (Text.utf8 content) 420)]
  distinct := by
    change [['s', 'r', 'c'], path].Nodup
    decide

theorem scan_ok {content written : Text} (hsize : (Text.utf8 written).length ≤ 1000) :
    scanAfterMutation broker false (put path (.file (Text.utf8 written) 420) (workspace content)) = .ok () := by
  have hnodes : (put path (.file (Text.utf8 written) 420) (workspace content)).nodes =
      [(path, .file (Text.utf8 written) 420), (['s', 'r', 'c'], .directory)] := rfl
  have hfile : ¬ ['.', 'g', 'i', 't'] ∈ broker.root ++ Text.posixParts path := by decide
  have hdirectory : ¬ ['.', 'g', 'i', 't'] ∈ broker.root ++ Text.posixParts ['s', 'r', 'c'] := by decide
  have hfolded : broker.casefold (broker.nfc ['s', 'r', 'c']) ∉ [broker.casefold (broker.nfc path)] := by decide
  simp only [scanAfterMutation, Bool.false_eq_true, if_false, hnodes, scanFrom, hfile, hdirectory, bind_ok, require_ok]
  exact ⟨(), by decide, (), by simp, (), hsize, (), by decide, (), hfolded, by simpa [broker] using hsize⟩

/-- The patch that adds `src/A.py`. -/
def patchText : Text :=
  ['-', '-', '-', ' ', '/', 'd', 'e', 'v', '/', 'n', 'u', 'l', 'l', '\n', '+', '+', '+', ' ', 'b', '/', 's', 'r', 'c', '/',
    'A', '.', 'p', 'y', '\n', '@', '@', ' ', '-', '0', ',', '0', ' ', '+', '1', ' ', '@', '@', '\n', '+', 'x', '\n']

def added : Text := ['s', 'r', 'c', '/', 'A', '.', 'p', 'y']

def git : GitApply where
  check _ _ := .exit 0 []
  run _ w := (.exit 0 [], put added (.file [120, 10] 420) w)
  whole _ w := put added (.file [120, 10] 420) w
  atomic _ _ := .inr rfl
  refused _ _ _ _ h hcode := absurd (Run.exit.inj h).1.symm hcode

theorem admitPatch_ok : admitPatch broker token (Text.utf8 patchText) 0 = .ok () := by
  simp only [admitPatch, validatePatchPaths, bind_ok, require_ok, orRaise_ok]
  exact ⟨(), authorize_ok (by decide), (), by decide, patchText, Text.decodeUtf8_utf8 _, (), by decide,
    by decide⟩

/-- An operating system that fails nothing. -/
def io : ReplaceIo where
  readFails := false
  statFails := false
  first := ⟨['s', 'r', 'c', '/', 't'], none, [], true⟩
  scanFails := false
  undo := ⟨['s', 'r', 'c', '/', 't'], none, [], true⟩

theorem replaceText_workspace {content old new written : Text} (hedit : edit content old new = .ok written)
    (hsize : (Text.utf8 written).length ≤ 1000) :
    (replaceText broker io token path old new 0 (workspace content)).1 = .ok (Text.utf8 written) := by
  have hprepare : prepare broker io token path old new 0 (workspace content) =
      .ok ⟨path, Text.utf8 content, Text.utf8 written, 420⟩ := by
    simp only [prepare, bind_ok]
    refine ⟨(), authorize_ok (by decide), path, ?_, ?_⟩
    · simp only [resolve, validateManifestPath, bind_ok, require_ok, pure_ok]
      refine ⟨path, ⟨(), rfl, (), by decide, (), by decide, (), by decide, rfl⟩, (), by decide, (), ?_, rfl⟩
      have hparts : (List.range (Text.posixParts path).length).map
          (fun n => ['/'].intercalate ((Text.posixParts path).take (n + 1))) = [['s', 'r', 'c'], path] := by decide
      intro n hn
      have hmem := List.mem_map_of_mem (f := fun n => ['/'].intercalate ((Text.posixParts path).take (n + 1))) hn
      rw [hparts] at hmem
      rcases List.mem_pair.mp hmem with hat | hat
      · rw [hat]
        rfl
      · rw [hat]
        rfl
    · have hlookup : (workspace content).nodes.lookup path = some (.file (Text.utf8 content) 420) := rfl
      simp only [hlookup, bind_ok, require_ok, orRaise_ok, pure_ok, mapError_ok]
      exact ⟨(), rfl, content, Text.decodeUtf8_utf8 _, written, hedit, (), hsize, (), rfl, rfl⟩
  have hreplace : atomicReplace io.first path (Text.utf8 written) 420 (workspace content) =
      (.ok (), put path (.file (Text.utf8 written) 420) (workspace content)) := rfl
  have hscan : scanAfterMutation broker io.scanFails (put path (.file (Text.utf8 written) 420) (workspace content)) = .ok () :=
    scan_ok hsize
  rw [replaceText, hprepare]
  simp only [hreplace, hscan]

theorem edit_once {old new text : Text} (hcr : '\r' ∉ text) (hold : normalizeNewlines old = old)
    (hnew : normalizeNewlines new = new) (hcount : old ≠ [] ∧ Text.count old text = 1) :
    edit text old new = .ok (Text.replace ['\n'] ['\n'] (trim (['\n'] <:+ text) (Text.replaceFirst old new text))) := by
  have htext : normalizeNewlines text = text := by
    have := normalize_expand .lf hcr
    rwa [expand_lf] at this
  have hends : usesCrlfExclusively text = false := by
    have := (usesCrlf_expand .lf hcr).not.mpr (by simp)
    rwa [expand_lf, Bool.not_eq_true] at this
  simp only [edit, htext, hold, hnew, hends, bind_ok, require_ok, pure_ok]
  exact ⟨(), hcount, rfl⟩

theorem edit_overlapping : edit ['a', 'a', 'a'] ['a', 'a'] ['b'] = .ok ['b', 'a'] :=
  edit_once (by decide) (by decide) (by decide) (by decide)

theorem edit_line : edit ['a', '\n', 'b', '\n'] ['a'] ['c'] = .ok ['c', '\n', 'b', '\n'] :=
  edit_once (by decide) (by decide) (by decide) (by decide)

end Sample

/-- A call that raises leaves every file as it was: of `apply_patch` unless Git applied a patch that
changes something and the scan refuses the result or Git does not end in time; of `replace_text`
unless the operating system fails a write or the undoing of one. -/
theorem refused_edit_iff (B : WorkspaceToolBroker) (w : Workspace) :
    (∀ (G : GitApply) scanFails token patch checkedAt,
      (∀ e, (applyPatch B G scanFails token patch checkedAt w).1 = .error e →
          SameFiles w (applyPatch B G scanFails token patch checkedAt w).2) ↔
        (admitPatch B token patch checkedAt = .ok () → (G.check patch w).result = .ok () →
          ¬ LeftApplied B G scanFails patch w)) ∧
    ∀ (io : ReplaceIo) token relativePath old new checkedAt,
      w.nodes.lookup io.first.temporary = none → w.nodes.lookup io.undo.temporary = none →
      ((∀ e, (replaceText B io token relativePath old new checkedAt w).1 = .error e →
          SameFiles w (replaceText B io token relativePath old new checkedAt w).2) ↔
        ∀ r, prepare B io token relativePath old new checkedAt w = .ok r →
          ¬ io.first.Leaves ∧
          (io.first.fails = none →
            (∃ e, scanAfterMutation B io.scanFails (put r.path (.file r.updated r.mode) w) = .error e) →
              ¬ io.undo.Leaves ∧ (io.undo.fails = none ∨ r.updated = r.original))) := by
  constructor
  · intro G scanFails token patch checkedAt
    exact applyPatch_unchanged G scanFails patch
  · intro io token relativePath old new checkedAt hfirst hundo
    exact replaceText_unchanged hfirst hundo

/-- A patch that is refused for a collision stays applied. -/
theorem refused_patch_stays :
    ¬ ∀ (B : WorkspaceToolBroker) (w : Workspace),
      (∀ (G : GitApply) scanFails token patch checkedAt e,
        (applyPatch B G scanFails token patch checkedAt w).1 = .error e →
          SameFiles w (applyPatch B G scanFails token patch checkedAt w).2) ∧
      ∀ (io : ReplaceIo) token relativePath old new checkedAt e,
        (replaceText B io token relativePath old new checkedAt w).1 = .error e →
          SameFiles w (replaceText B io token relativePath old new checkedAt w).2 := by
  intro hclaim
  have h := (hclaim Sample.broker (Sample.workspace ['x'])).1 Sample.git false Sample.token (Text.utf8 Sample.patchText) 0
  have hafter : (Sample.git.run (Text.utf8 Sample.patchText) (Sample.workspace ['x'])).2 =
      put Sample.added (.file [120, 10] 420) (Sample.workspace ['x']) := rfl
  refine (applyPatch_unchanged Sample.git false (Text.utf8 Sample.patchText)).mp h Sample.admitPatch_ok rfl ⟨rfl, ?_, ?_⟩
  · intro hsame
    exact absurd (hsame Sample.added) (by decide)
  · have hscan : scanAfterMutation Sample.broker false (put Sample.added (.file [120, 10] 420) (Sample.workspace ['x'])) =
        .error (.policy ("path normalization collision: " ++ String.ofList Sample.path)) := by rfl
    exact .inr (.inr ⟨⟨[], rfl⟩, _, hscan⟩)

theorem refused_edit_iff_sample :
    ((∀ e, (replaceText Sample.broker Sample.io Sample.token Sample.path ['x'] ['y'] 0 (Sample.workspace ['x'])).1 = .error e →
        SameFiles (Sample.workspace ['x'])
          (replaceText Sample.broker Sample.io Sample.token Sample.path ['x'] ['y'] 0 (Sample.workspace ['x'])).2) ↔
      ∀ r, prepare Sample.broker Sample.io Sample.token Sample.path ['x'] ['y'] 0 (Sample.workspace ['x']) = .ok r →
        ¬ Sample.io.first.Leaves ∧
        (Sample.io.first.fails = none →
          (∃ e, scanAfterMutation Sample.broker Sample.io.scanFails
              (put r.path (.file r.updated r.mode) (Sample.workspace ['x'])) = .error e) →
            ¬ Sample.io.undo.Leaves ∧ (Sample.io.undo.fails = none ∨ r.updated = r.original))) :=
  (refused_edit_iff Sample.broker (Sample.workspace ['x'])).2 Sample.io Sample.token Sample.path ['x'] ['y'] 0 (by decide)
    (by decide)

/-! ## What `replace_text` writes -/

section Replaced
variable {B : WorkspaceToolBroker} {io : ReplaceIo} {token relativePath old new : Text} {checkedAt : Instant} {w : Workspace}

theorem resolve_ok {path : Text} (h : resolve B w relativePath = .ok path) : path = relativePath := by
  simp only [resolve, validateManifestPath, bind_ok, require_ok, pure_ok] at h
  obtain ⟨_, ⟨_, -, _, -, _, -, _, -, rfl⟩, _, -, _, -, h⟩ := h
  split at h
  · exact (Except.ok.inj h).symm
  · cases h
  · cases h

theorem replaceText_ok {bytes content : Bytes} {mode : Nat} {original : Text}
    (hfile : w.nodes.lookup relativePath = some (.file content mode)) (hcontent : Text.decodeUtf8 content = some original)
    (h : (replaceText B io token relativePath old new checkedAt w).1 = .ok bytes) :
    ∃ written, edit original old new = .ok written ∧ bytes = Text.utf8 written ∧
      (replaceText B io token relativePath old new checkedAt w).2 = put relativePath (.file bytes mode) w := by
  revert h
  rw [replaceText]
  cases hprepare : prepare B io token relativePath old new checkedAt w with
  | error e => rintro ⟨⟩
  | ok r =>
    simp only [prepare, bind_ok] at hprepare
    obtain ⟨_, -, path, hpath, hprepare⟩ := hprepare
    obtain rfl := resolve_ok hpath
    rw [hfile] at hprepare
    simp only [bind_ok, require_ok, orRaise_ok, pure_ok, hcontent, mapError_ok] at hprepare
    obtain ⟨_, -, _, hsome, written, hedit, _, -, _, -, rfl⟩ := hprepare
    obtain rfl := Option.some.inj hsome
    simp only []
    by_cases hfails : io.first.fails = none
    · have hput : atomicReplace io.first path (Text.utf8 written) mode w =
          (.ok (), put path (.file (Text.utf8 written) mode) w) := by simp [atomicReplace, hfails]
      rw [hput]
      simp only []
      cases hscan : scanAfterMutation B io.scanFails (put path (.file (Text.utf8 written) mode) w) with
      | ok _ =>
        rintro ⟨⟩
        exact ⟨written, hedit, rfl, rfl⟩
      | error e =>
        simp only []
        split <;> rintro ⟨⟩
    · obtain ⟨e, he⟩ : ∃ e, (atomicReplace io.first path (Text.utf8 written) mode w).1 = .error e :=
        atomicReplace_raised.mpr hfails
      cases hrep : atomicReplace io.first path (Text.utf8 written) mode w with
      | mk result w₁ =>
        rw [hrep] at he
        obtain rfl : result = .error e := he
        rintro ⟨⟩

end Replaced

/-- Of a file with one kind of line end, a call that succeeds changes the one span of the old text
exactly if the old text does not overlap itself there and trimming the end meets only what was
put in. -/
theorem replaced_span_iff (B : WorkspaceToolBroker) (io : ReplaceIo) (token relativePath old new : Text)
    (checkedAt : Instant) (w : Workspace) (e : Ending) (text : Text) (mode : Nat) (bytes : Bytes) (htext : '\r' ∉ text)
    (hfile : w.nodes.lookup relativePath = some (.file (Text.utf8 (e.expand text)) mode))
    (h : (replaceText B io token relativePath old new checkedAt w).1 = .ok bytes) :
    (∃ written, bytes = Text.utf8 written ∧
        (replaceText B io token relativePath old new checkedAt w).2.nodes.lookup relativePath = some (.file bytes mode) ∧
        SpanOnly e text (normalizeNewlines old) (normalizeNewlines new) written) ↔
      ¬ SelfOverlaps (normalizeNewlines old) text ∧
        TrimsInside text (normalizeNewlines old) (normalizeNewlines new) := by
  obtain ⟨written, hedit, rfl, hstate⟩ := replaceText_ok hfile (Text.decodeUtf8_utf8 _) h
  rw [← edit_spanOnly_iff htext hedit, hstate, lookup_put, if_pos rfl]
  constructor
  · rintro ⟨written', hbytes, -, hspan⟩
    rwa [Text.utf8_injective hbytes]
  · intro hspan
    exact ⟨written, rfl, rfl, hspan⟩

/-- A text that overlaps itself is found at two places, and one of them is replaced. -/
theorem overlapping_text_replaced :
    ¬ ∀ (B : WorkspaceToolBroker) (io : ReplaceIo) (token relativePath old new : Text) (checkedAt : Instant)
        (w : Workspace) (e : Ending) (text : Text) (mode : Nat) (bytes : Bytes), '\r' ∉ text →
      w.nodes.lookup relativePath = some (.file (Text.utf8 (e.expand text)) mode) →
      (replaceText B io token relativePath old new checkedAt w).1 = .ok bytes →
        ∃ written, bytes = Text.utf8 written ∧
          (replaceText B io token relativePath old new checkedAt w).2.nodes.lookup relativePath = some (.file bytes mode) ∧
          SpanOnly e text (normalizeNewlines old) (normalizeNewlines new) written := by
  intro hclaim
  obtain ⟨written, hbytes, -, hspan⟩ := hclaim Sample.broker Sample.io Sample.token Sample.path ['a', 'a'] ['b'] 0
    (Sample.workspace ['a', 'a', 'a']) .lf ['a', 'a', 'a'] 420 _ (by decide) rfl
    (Sample.replaceText_workspace Sample.edit_overlapping (by decide))
  obtain ⟨before, after, -, hone⟩ := hspan.one
  have hfirst := hone [] ['a'] (by decide)
  have hsecond := hone ['a'] [] (by decide)
  rw [← hfirst] at hsecond
  cases hsecond

theorem replaced_span_iff_line :
    (∃ written, Text.utf8 ['c', '\n', 'b', '\n'] = Text.utf8 written ∧
        (replaceText Sample.broker Sample.io Sample.token Sample.path ['a'] ['c'] 0
          (Sample.workspace ['a', '\n', 'b', '\n'])).2.nodes.lookup Sample.path =
          some (.file (Text.utf8 ['c', '\n', 'b', '\n']) 420) ∧
        SpanOnly .lf ['a', '\n', 'b', '\n'] (normalizeNewlines ['a']) (normalizeNewlines ['c']) written) ↔
      ¬ SelfOverlaps (normalizeNewlines ['a']) ['a', '\n', 'b', '\n'] ∧
        TrimsInside ['a', '\n', 'b', '\n'] (normalizeNewlines ['a']) (normalizeNewlines ['c']) :=
  replaced_span_iff Sample.broker Sample.io Sample.token Sample.path ['a'] ['c'] 0 _ .lf _ 420 _ (by decide) rfl
    (Sample.replaceText_workspace Sample.edit_line (by decide))

end AvoCorrelate.Tools
