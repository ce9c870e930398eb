import DeployGuard.Lib.Resolve
import DeployGuard.Verify.Cli

/-!
# The initializer

`_init` of `cli.py` writes a policy, a workflow and a section of `AGENTS.md` into a
repository. It meets whatever symbolic links the repository holds: a target must be no link,
and the nearest directory above it that exists must resolve inside the repository.

A step that raises leaves what was written before it. `Inside` is what every step keeps, and
`Settled` is what makes a second run find nothing to do.

> `init_confined`: whatever the tree holds and however the run ends, nothing changes outside
> the repository, no node goes and no link appears; without `--force` no file but `AGENTS.md`
> is rewritten;
> `init_again`: after a run that exits with 0, a run without `--force` changes nothing.
-/

namespace DeployGuard.Verify

open FileSystem Raise

/-! ## Files -/

/-- The file system the command works on. -/
abbrev Disk := Tree String (List UInt8)

/-- Code that works on the file system and may raise; what it wrote stays. -/
def Files (α : Type) : Type := Disk → Except VerifyError α × Disk

namespace Files

variable {α β : Type}

instance : Monad Files where
  pure a := fun t => (.ok a, t)
  bind x f := fun t =>
    match x t with
    | (.ok a, t') => f a t'
    | (.error e, t') => (.error e, t')

/-- A look at the file system. -/
def query (f : Disk → Except VerifyError α) : Files α := fun t => (f t, t)

/-- A system call that takes effect or fails. -/
def change (f : Disk → Except VerifyError Disk) : Files Unit := fun t =>
  match f t with
  | .ok t' => (.ok (), t')
  | .error e => (.error e, t)

/-- A sequence ended: its first part raised, or its second part ended. -/
theorem bind_cases {x : Files α} {f : α → Files β} {t t'' : Disk} {r : Except VerifyError β}
    (h : (x >>= f) t = (r, t'')) :
    (∃ e, x t = (.error e, t'') ∧ r = .error e) ∨
      ∃ a t', x t = (.ok a, t') ∧ f a t' = (r, t'') := by
  cases hx : x t with
  | mk result t' =>
    have hbind : (match x t with
      | (.ok a, t') => f a t'
      | (.error e, t') => (.error e, t')) = (r, t'') := h
    rw [hx] at hbind
    cases result with
    | error e =>
      cases hbind
      exact Or.inl ⟨e, rfl, rfl⟩
    | ok a => exact Or.inr ⟨a, t', rfl, hbind⟩

/-- A command goes on with what its first part returned. -/
theorem bind_of_ok {x : Files α} {f : α → Files β} {t t' : Disk} {a : α} (h : x t = (.ok a, t')) :
    (x >>= f) t = f a t' := by
  show (match x t with
    | (.ok a, t') => f a t'
    | (.error e, t') => (.error e, t')) = _
  rw [h]

/-- Returning leaves the disk as it is. -/
theorem pure_eq {a : α} {t t' : Disk} {r : Except VerifyError α}
    (h : (pure a : Files α) t = (r, t')) : r = .ok a ∧ t' = t := by
  cases h
  exact ⟨rfl, rfl⟩

theorem query_eq {f : Disk → Except VerifyError α} {t t' : Disk} {r : Except VerifyError α}
    (h : query f t = (r, t')) : f t = r ∧ t' = t := by
  cases h
  exact ⟨rfl, rfl⟩

/-- A look that succeeds. -/
theorem query_of_ok {f : Disk → Except VerifyError α} {t : Disk} {a : α} (h : f t = .ok a) :
    query f t = (.ok a, t) := by
  unfold query
  rw [h]

end Files

def errnoNumber : Errno → Nat
  | .enoent => 2
  | .eexist => 17
  | .enotdir => 20
  | .eisdir => 21
  | .eloop => 40

def errnoText : Errno → String
  | .enoent => "No such file or directory"
  | .eexist => "File exists"
  | .enotdir => "Not a directory"
  | .eisdir => "Is a directory"
  | .eloop => "Too many levels of symbolic links"

/-- `path.as_posix()` of an absolute path of plain names. -/
def asPosix (path : List String) : String := "/" ++ "/".intercalate path.reverse

/-- The `OSError` of a system call. -/
def osErrorOf (path : List String) (e : Errno) : VerifyError :=
  .osError s!"[Errno {errnoNumber e}] {errnoText e}: '{asPosix path}'"

def encode (text : String) : List UInt8 := text.toUTF8.data.toList

/-- `raw.decode("utf-8")`. -/
def decode (raw : List UInt8) : Option String := String.fromUTF8? ⟨raw.toArray⟩

/-- What is written as UTF-8 reads back. -/
theorem decode_encode (text : String) : decode (encode text) = some text := by
  unfold decode encode
  rw [Array.toArray_toList]
  exact dif_pos text.isValidUTF8

/-- `path.mkdir(parents=True, exist_ok=True)`. -/
def makeParents (path : List String) : Files Unit := fun t =>
  match Tree.mkdirs (trailOf path) t with
  | (.ok _, t') => (.ok (), t')
  | (.error e, t') => (.error (osErrorOf path e), t')

/-- `path.write_text(content, encoding="utf-8", newline="\n")`. -/
def writeText (path : List String) (content : String) : Files Unit :=
  Files.change fun t => (t.write (trailOf path) (encode content)).mapError (osErrorOf path)

/-- `path.read_text(encoding="utf-8")`, in universal newlines mode. -/
def readText (path : List String) (t : Disk) : Except VerifyError String := do
  let raw ← (t.read (trailOf path)).mapError (osErrorOf path)
  match decode raw with
  | some text => .ok (String.ofList (Text.universalNewlines text.toList))
  | none => .error (.valueError "'utf-8' codec can't decode bytes")

/-! ## The initializer -/

/-- The parts of a path: `..` or a name. -/
def parsePath (text : String) : Path String where
  absolute := Text.startswith text "/"
  steps := (Text.split '/' text).filterMap fun part =>
    if part = "" ∨ part = "." then none else if part = ".." then some .up else some (.down part)

/-- `path.resolve(strict=True)`; in Python 3.12 a loop is no `OSError`. -/
def resolveStrict (cwd : Place String) (path : Path String) (t : Disk) :
    Except VerifyError (Place String) :=
  match t.realpath true cwd path with
  | .ok (.place p) => .ok p
  | .ok (.stuck ..) | .error .eloop => .error (.other "RuntimeError")
  | .error e => .error (.osError s!"[Errno {errnoNumber e}] {errnoText e}")

/-- An absolute path of plain names. -/
def absolutePath (names : List String) : Path String := ⟨true, (trailOf names).reverse⟩

/-- The loop `while not existing_parent.exists() and existing_parent != root`. -/
def existingParent (t : Disk) (root : Place String) : List String → List String
  | [] => []
  | name :: parent =>
    if t.pathExists (trailOf (name :: parent)) ∨ name :: parent = root then name :: parent
    else existingParent t root parent

/-- `root / relative_path`, of a path of plain names. -/
def joined (root : Place String) (relativePath : String) : List String :=
  (Text.split '/' relativePath).reverse ++ root

/-- `_safe_init_target`. -/
def safeInitTarget (root : Place String) (relativePath : String) (t : Disk) :
    Except VerifyError (List String) := do
  let candidate := joined root relativePath
  raiseIf (t.isSymlink (trailOf candidate))
    (.valueError s!"initializer target must not be a symbolic link: {relativePath}")
  let resolvedParent ← resolveStrict [] (absolutePath (existingParent t root candidate.tail)) t
  raiseIf (root.isSuffixOf resolvedParent = false)
    (.valueError s!"initializer target escaped the repository: {relativePath}")
  pure candidate

/-- `_create_file`. -/
def createFile (path : List String) (content : String) (force : Bool) : Files String := do
  let present ← Files.query fun t => .ok (t.pathExists (trailOf path))
  if present = true ∧ force = false then pure s!"kept existing {asPosix path}"
  else do
    makeParents path.tail
    writeText path content
    pure s!"created {asPosix path}"

def defaultPolicyPath : String := ".deployguard/policy.yml"

def workflowPath : String := ".github/workflows/deployguard.yml"

def agentsPath : String := "AGENTS.md"

/-- `WORKFLOW_TEMPLATE`. -/
def workflowTemplate : String :=
  "name: DeployGuard Verify\n\non:\n  pull_request:\n    branches: [main]\n\n" ++
  "permissions:\n  contents: read\n\njobs:\n  evidence-receipt:\n    name: Evidence receipt\n" ++
  "    runs-on: ubuntu-latest\n    steps:\n      - name: Check out the pull request head\n" ++
  "        uses: actions/checkout@v7\n        with:\n" ++
  "          ref: $\x7b\x7b github.event.pull_request.head.sha \x7d\x7d\n" ++
  "          fetch-depth: 0\n          persist-credentials: false\n\n" ++
  "      # Run your repository's tests here and write JUnit XML. Until this is\n" ++
  "      # configured, DeployGuard deliberately returns REVIEW rather than PASS.\n\n" ++
  "      - name: Verify change evidence\n        uses: kingggg5/deployguardai@v1\n        with:\n" ++
  "          base-sha: $\x7b\x7b github.event.pull_request.base.sha \x7d\x7d\n" ++
  "          head-sha: $\x7b\x7b github.event.pull_request.head.sha \x7d\x7d\n" ++
  "          evidence-sha: $\x7b\x7b github.event.pull_request.head.sha \x7d\x7d\n" ++
  "          junit: path/to/junit.xml\n"

def agentsMarker : String := "<!-- deployguard:start -->"

/-- `AGENTS_SNIPPET`. -/
def agentsSnippet : String :=
  agentsMarker ++ ("\n## DeployGuard change safety\n\n" ++
  "Before declaring a change ready, run `deployguard verify` against the protected\n" ++
  "base revision and cite the generated receipt ID. Never invent test, coverage,\n" ++
  "security, or deployment evidence. Treat missing or SHA-mismatched evidence as\n" ++
  "UNKNOWN/REVIEW. Do not merge, deploy, roll back, or change a DeployGuard decision\n" ++
  "without verified evidence and explicit human authorization.\n" ++
  "<!-- deployguard:end -->\n")

/-- The arguments of the init command. -/
structure InitArguments where
  repositoryRoot : String
  github : Bool
  /-- `args.agent == "codex"` -/
  codex : Bool
  force : Bool

/-- What the command meets: the working directory, and the policy that PyYAML dumps. -/
structure InitWorld where
  cwd : Place String
  policyTemplate : String

/-- A target checked and created. -/
def createTarget (root : Place String) (relativePath content : String) (force : Bool) :
    Files (List String) := do
  let path ← Files.query (safeInitTarget root relativePath)
  let message ← createFile path content force
  pure [message]

def addWorkflow (root : Place String) (args : InitArguments) : Files (List String) :=
  if args.github then createTarget root workflowPath workflowTemplate args.force else pure []

/-- What `AGENTS.md` is rewritten to. -/
def withGuidance (existing : String) : String :=
  existing ++ (if existing ≠ "" ∧ Text.endswith existing "\n\n" = false then "\n" else "") ++
    agentsSnippet

def existingText (path : List String) (t : Disk) : Except VerifyError String :=
  if t.pathExists (trailOf path) then readText path t else .ok ""

def addGuidance (root : Place String) (args : InitArguments) : Files (List String) :=
  if args.codex then do
    let path ← Files.query (safeInitTarget root agentsPath)
    let existing ← Files.query (existingText path)
    if Text.contains existing agentsMarker = false then do
      writeText path (withGuidance existing)
      pure ["added DeployGuard guidance to AGENTS.md"]
    else pure ["kept existing DeployGuard guidance in AGENTS.md"]
  else pure []

/-- `_init`, up to the lines it prints. -/
def init (world : InitWorld) (args : InitArguments) : Files (List String) := do
  let root ← Files.query (resolveStrict world.cwd (parsePath args.repositoryRoot))
  let policy ← createTarget root defaultPolicyPath world.policyTemplate args.force
  let workflow ← addWorkflow root args
  let guidance ← addGuidance root args
  pure (policy ++ workflow ++ guidance ++
    if args.github then
      ["The generated workflow fails closed with REVIEW until its JUnit path is configured."]
    else [])

/-- `main`, of the init command. -/
def initMain (world : InitWorld) (args : InitArguments) (t : Disk) : Ending × Disk :=
  match init world args t with
  | (.ok _, t') => (.exit 0, t')
  | (.error e, t') => (if e.caught then .exit (exitCode .error) else .uncaught e, t')

/-! ## What a step keeps -/

/-- Nothing is gone and no link is new; what differs is inside `root`; files that are not free
are as they were. -/
structure Inside (root : Place String) (free : Place String → Prop) (t t' : Disk) : Prop where
  grown : Grown t t'
  inside : ∀ p, t'.node p ≠ t.node p → root <:+ p
  kept : ∀ p, ¬free p → ∀ content, t.node p = some (.file content) →
    t'.node p = some (.file content)

/-- Doing nothing changes nothing outside the root. -/
theorem Inside.refl (root : Place String) (free : Place String → Prop) (t : Disk) :
    Inside root free t t := ⟨.refl t, fun _ h => absurd rfl h, fun _ _ _ h => h⟩

/-- Two changes inside the root are one. -/
theorem Inside.trans {root : Place String} {free : Place String → Prop} {t t' t'' : Disk}
    (h : Inside root free t t') (h' : Inside root free t' t'') : Inside root free t t'' := by
  refine ⟨h.grown.trans h'.grown, fun p hp => ?_, fun p hfree content hfile =>
    h'.kept p hfree content (h.kept p hfree content hfile)⟩
  by_cases hsame : t'.node p = t.node p
  · exact h'.inside p (hsame ▸ hp)
  · exact h.inside p hsame

/-- A file written under a name that is no link, in a directory inside `root`. -/
theorem Inside.write {root d : Place String} {free : Place String → Prop} {t t' : Disk}
    {name : String} {raw : List UInt8} (hroot : root <:+ d)
    (hset : Sets t t' (name :: d) (.file raw))
    (hold : t.node (name :: d) = none ∨
      ((∃ old, t.node (name :: d) = some (.file old)) ∧ free (name :: d))) :
    Inside root free t t' := by
  refine ⟨hset.grown ?_ nofun, fun p hp => ?_, fun p hfree content hfile => ?_⟩
  · rcases hold with hnone | ⟨⟨old, hfile⟩, -⟩
    · exact Or.inl hnone
    · refine Or.inr ?_
      rw [hfile]
      rfl
  · rw [← hset.eq_of_ne hp]
    exact hroot.trans (List.suffix_cons name d)
  · by_cases hself : name :: d = p
    · subst hself
      rcases hold with hnone | ⟨-, hmay⟩
      · cases hnone.symm.trans hfile
      · exact absurd hmay hfree
    · rw [hset.other hself]
      exact hfile

/-- A resolved root: no link leads to it, and it is there. -/
structure Rooted (t : Disk) (root : Place String) : Prop where
  physical : Physical t root
  present : t.node root ≠ none

/-- A resolved root is found at itself, no link in the way. -/
theorem Rooted.find {t : Disk} {root : Place String} (h : Rooted t root) :
    t.find true (trailOf root) = .ok root := by
  refine h.physical.find ?_ true
  cases root with
  | nil => rfl
  | cons name root => exact Tree.parent h.present

/-- A resolved root stays one. -/
theorem Rooted.grown {t t' : Disk} {root : Place String} (h : Rooted t root) (hgrown : Grown t t') :
    Rooted t' root :=
  ⟨h.physical.grown hgrown, fun hnone => h.present (hgrown.missing hnone)⟩

/-- The directory a process works in: a place no link leads to. -/
structure IsCwd (t : Disk) (cwd : Place String) : Prop where
  physical : Physical t cwd
  dir : t.node cwd = some .dir

/-- A path that resolves is followed to its end. -/
theorem resolveStrict_ok {t : Disk} {cwd p : Place String} {path : Path String}
    (h : resolveStrict cwd path t = .ok p) :
    ∃ k, Follows t true k (path.start cwd) path.steps p := by
  unfold resolveStrict at h
  split at h
  · next hreal =>
    cases h
    exact Tree.realpath_iff.mp hreal
  all_goals cases h

theorem resolveStrict_rooted {t : Disk} {cwd p : Place String} {path : Path String}
    (hcwd : IsCwd t cwd) (h : resolveStrict cwd path t = .ok p) : Rooted t p := by
  obtain ⟨k, hfollows⟩ := resolveStrict_ok h
  refine ⟨hfollows.physical (hcwd.physical.start path), hfollows.exists ?_⟩
  rw [Path.start_dir hcwd.dir]
  nofun

/-- A path that the kernel finds is resolved to the same place. -/
theorem resolveStrict_of_find {t : Disk} {names : List String} {p : Place String}
    {n : Node String (List UInt8)} (hfind : t.find true (trailOf names) = .ok p)
    (hnode : t.node p = some n) : resolveStrict [] (absolutePath names) t = .ok p := by
  have hsome : true = true → t.node p ≠ none := fun _ => by
    rw [hnode]
    nofun
  obtain ⟨k, -, hfollows⟩ := Tree.locate_follows hsome hfind
  unfold resolveStrict
  rw [Tree.realpath_iff.mpr ⟨k, hfollows⟩]

/-- It resolves to the same place in a grown tree. -/
theorem resolveStrict_grown {t t' : Disk} {cwd p : Place String} {path : Path String}
    (hgrown : Grown t t') (h : resolveStrict cwd path t = .ok p) :
    resolveStrict cwd path t' = .ok p := by
  obtain ⟨k, hfollows⟩ := resolveStrict_ok h
  unfold resolveStrict
  rw [Tree.realpath_iff.mpr ⟨k, hfollows.grown hgrown⟩]

/-! ## The targets -/

/-- A target that passed the check, at the name `name`: of the directories above it those at
`names` are missing, and the one above them is there, inside `root`. -/
structure Target (t : Disk) (root : Place String) (path : List String) (name : String)
    (names base : List String) (q : Place String) : Prop where
  path_eq : path = name :: (names ++ base)
  found : t.find true (trailOf base) = .ok q
  node : ∃ n, t.node q = some n
  inside : root <:+ q
  missing : ∀ above, above ≠ [] → above <:+ names → t.pathExists (trailOf (above ++ base)) = false
  plain : t.isSymlink (trailOf path) = false

/-- The loop ends at the nearest directory above that exists, at the root at the latest. -/
theorem existingParent_spec {t : Disk} {root : Place String} (hroot : Rooted t root)
    (names : List String) :
    ∃ above base q, names ++ root = above ++ base ∧ existingParent t root (names ++ root) = base ∧
      t.find true (trailOf base) = .ok q ∧ (∃ n, t.node q = some n) ∧
      ∀ missing, missing ≠ [] → missing <:+ above →
        t.pathExists (trailOf (missing ++ base)) = false := by
  have hnone : ∀ missing : List String, missing ≠ [] → missing <:+ [] →
      t.pathExists (trailOf (missing ++ root)) = false :=
    fun missing hne h => absurd (List.suffix_nil.mp h) hne
  induction names with
  | nil =>
    refine ⟨[], root, root, rfl, ?_, hroot.find, Option.ne_none_iff_exists'.mp hroot.present, hnone⟩
    cases root with
    | nil => rfl
    | cons name root => exact if_pos (Or.inr rfl)
  | cons name names ih =>
    obtain ⟨above, base, q, hnames, hloop, hfound, hnode, hmissing⟩ := ih
    by_cases hstop : t.pathExists (trailOf (name :: (names ++ root))) = true ∨
        name :: (names ++ root) = root
    · have hexists : ∃ p, t.find true (trailOf (name :: (names ++ root))) = .ok p ∧
          ∃ n, t.node p = some n := by
        rcases hstop with hexists | hself
        · obtain ⟨p, n, hfind, hn⟩ := Tree.pathExists_iff.mp hexists
          exact ⟨p, hfind, n, hn⟩
        · rw [hself]
          exact ⟨root, hroot.find, Option.ne_none_iff_exists'.mp hroot.present⟩
      obtain ⟨p, hfind, hn⟩ := hexists
      refine ⟨[], name :: (names ++ root), p, rfl, if_pos hstop, hfind, hn, ?_⟩
      exact fun missing hne h => absurd (List.suffix_nil.mp h) hne
    · refine ⟨name :: above, base, q, congrArg (name :: ·) hnames, (if_neg hstop).trans hloop,
        hfound, hnode, fun missing hne h => ?_⟩
      rcases List.suffix_cons_iff.mp h with rfl | h
      · rw [List.cons_append, ← hnames]
        exact Bool.eq_false_iff.mpr fun hexists => hstop (Or.inl hexists)
      · exact hmissing missing hne h

/-- A target has a last name below the root. -/
theorem joined_cons (root : Place String) (relativePath : String) :
    ∃ name names, joined root relativePath = name :: (names ++ root) := by
  unfold joined
  cases hparts : (Text.split '/' relativePath).reverse with
  | nil =>
    rw [List.reverse_eq_nil_iff, Text.split, List.map_eq_nil_iff] at hparts
    exact absurd hparts (List.splitOn_ne_nil _ _)
  | cons name names => exact ⟨name, names, rfl⟩

/-- A target that is safe is the joined path, and its existing parent resolves inside the
root. -/
theorem safeInitTarget_ok {t : Disk} {root : Place String} {relativePath : String}
    {path : List String} (hroot : Rooted t root)
    (h : safeInitTarget root relativePath t = .ok path) :
    path = joined root relativePath ∧
      ∃ name names base q, Target t root path name names base q := by
  obtain ⟨name, names, hjoined⟩ := joined_cons root relativePath
  obtain ⟨above, base, q, hnames, hloop, hfound, hnode, hmissing⟩ := existingParent_spec hroot names
  simp only [safeInitTarget, bind_eq_ok, raiseIf_eq_ok, pure_eq_ok] at h
  obtain ⟨-, hplain, p, hp, -, hinside, rfl⟩ := h
  rw [hjoined, List.tail_cons, hloop] at hp
  obtain ⟨n, hn⟩ := hnode
  obtain rfl := Except.ok.inj (hp.symm.trans (resolveStrict_of_find hfound hn))
  refine ⟨rfl, name, above, base, p, ?_, hfound, ⟨n, hn⟩, ?_, hmissing, ?_⟩
  · rw [hjoined, hnames]
  · exact List.isSuffixOf_iff_suffix.mp (Bool.not_eq_false _ |>.mp hinside)
  · exact Bool.eq_false_iff.mpr hplain

/-- The directory of the target is there, inside `root`, and the target in it, no link. -/
structure Settled (t : Disk) (root : Place String) (path : List String) : Prop where
  intro ::
  spot : ∃ name parent d n, path = name :: parent ∧ t.find true (trailOf parent) = .ok d ∧
    root <:+ d ∧ t.node d = some .dir ∧ t.node (name :: d) = some n ∧ ¬t.LinkAt (name :: d)

/-- A settled target stays settled. -/
theorem Settled.grown {t t' : Disk} {root : Place String} {path : List String}
    (h : Settled t root path) (hgrown : Grown t t') : Settled t' root path := by
  obtain ⟨name, parent, d, n, hpath, hfound, hroot, hdir, hnode, hplain⟩ := h.spot
  have hsome : ∃ n', t'.node (name :: d) = some n' := by
    refine Option.ne_none_iff_exists'.mp fun hnone => ?_
    cases (hgrown.missing hnone).symm.trans hnode
  obtain ⟨n', hnode'⟩ := hsome
  exact ⟨name, parent, d, n', hpath, Tree.find_grown hgrown hfound, hroot, hgrown.dir hdir, hnode',
    fun hlink => hplain (hgrown.linkAt.mp hlink)⟩

/-- The last name of a safe target is no link. -/
theorem Target.not_link {t : Disk} {root q d : Place String} {path names base : List String}
    {name : String} (h : Target t root path name names base q)
    (hfound : t.find true (trailOf (names ++ base)) = .ok d) : ¬t.LinkAt (name :: d) := by
  rintro ⟨target, hlink⟩
  have hdir : t.node d = some .dir := by
    have hsome : t.node (name :: d) ≠ none := by
      rw [hlink]
      nofun
    exact Tree.parent hsome
  have hsymlink : t.isSymlink (trailOf path) = true := by
    rw [h.path_eq]
    exact Tree.isSymlink_iff.mpr ⟨_, Tree.find_cons_of hdir (Or.inl rfl) hfound, target, hlink⟩
  cases hsymlink.symm.trans h.plain

/-- Where the parent of the target is there, no directory is missing. -/
theorem Target.names_nil {t : Disk} {root q d : Place String} {path names base : List String}
    {name : String} (h : Target t root path name names base q)
    {n : Node String (List UInt8)} (hfound : t.find true (trailOf (names ++ base)) = .ok d)
    (hnode : t.node d = some n) : names = [] := by
  by_contra hne
  have hno := h.missing names hne List.suffix_rfl
  rw [Tree.pathExists_iff.mpr ⟨d, n, hfound, hnode⟩] at hno
  cases hno

/-- A write changes nothing or writes the whole content. -/
theorem writeText_cases {t t' : Disk} {path : List String} {content : String}
    {r : Except VerifyError Unit} (h : writeText path content t = (r, t')) :
    (∃ e, r = .error e ∧ t' = t) ∨
      r = .ok () ∧ t.write (trailOf path) (encode content) = .ok t' := by
  unfold writeText Files.change at h
  cases hwrite : t.write (trailOf path) (encode content) with
  | error e =>
    simp only [hwrite, Except.mapError] at h
    cases h
    exact Or.inl ⟨_, rfl, rfl⟩
  | ok t₁ =>
    simp only [hwrite, Except.mapError] at h
    cases h
    exact Or.inr ⟨rfl, rfl⟩

/-- Writing below the root at a plain name stays inside it. -/
theorem writeText_spec {t t' : Disk} {root d : Place String} {free : Place String → Prop}
    {name content : String} {parent : List String} {r : Except VerifyError Unit}
    (hfound : t.find true (trailOf parent) = .ok d) (hplain : ¬t.LinkAt (name :: d))
    (hroot : root <:+ d) (hfree : t.node (name :: d) = none ∨ free (name :: d))
    (h : writeText (name :: parent) content t = (r, t')) :
    Inside root free t t' ∧ (r = .ok () → Settled t' root (name :: parent) ∧
      t'.node (name :: d) = some (.file (encode content))) := by
  rcases writeText_cases h with ⟨e, rfl, rfl⟩ | ⟨rfl, hwrite⟩
  · exact ⟨.refl root free t', nofun⟩
  · obtain ⟨p, hfind, hold, hset⟩ := Tree.write_ok hwrite
    obtain ⟨d', hd', hdir, hp⟩ := Tree.find_cons hfind
    obtain rfl := Except.ok.inj (hfound.symm.trans hd')
    obtain rfl := hp.resolve_right fun hlink => hplain hlink.2
    have hinside : Inside root free t t' := by
      refine Inside.write hroot hset ?_
      rcases hold with hnone | ⟨old, hfile⟩
      · exact Or.inl hnone
      · refine hfree.imp id fun hmay => ⟨⟨old, hfile⟩, hmay⟩
    have hplain' : ¬t'.LinkAt (name :: d) := fun hlink => hplain (hinside.grown.linkAt.mp hlink)
    exact ⟨hinside, fun _ => ⟨⟨name, parent, d, _, rfl, Tree.find_grown hinside.grown hfound,
      hroot, hinside.grown.dir hdir, hset.self, hplain'⟩, hset.self⟩⟩

/-- The directories made on the way lie below the root. -/
theorem Inside.onTheWay {t t' : Disk} {root q : Place String} {names : List String}
    {free : Place String → Prop} (h : OnTheWay t t' names q) (hroot : root <:+ q) :
    Inside root free t t' := by
  refine ⟨h.grown, fun p hp => ?_, fun p _ content hfile => ?_⟩
  · obtain ⟨above, -, -, rfl, -⟩ := h.made p hp
    exact hroot.trans (List.suffix_append above q)
  · by_contra hp
    obtain ⟨above, -, -, -, hnone⟩ := h.made p (fun hsame => hp (hsame.trans hfile))
    cases hnone.symm.trans hfile

/-- `mkdir(parents=True)` may have made some directories even when it fails. -/
theorem makeParents_cases {t t' : Disk} {path : List String} {r : Except VerifyError Unit}
    (h : makeParents path t = (r, t')) :
    (Tree.mkdirs (trailOf path) t).2 = t' ∧
      (r = .ok () → (Tree.mkdirs (trailOf path) t).1 = .ok ()) := by
  unfold makeParents at h
  split at h
  · next hmkdirs =>
    cases h
    rw [hmkdirs]
    exact ⟨rfl, fun _ => rfl⟩
  · next hmkdirs =>
    cases h
    rw [hmkdirs]
    exact ⟨rfl, nofun⟩

/-- What is at the target's place once its parents are made: if it was there before, so was its
directory. -/
theorem Target.before {t t' : Disk} {root q : Place String} {path names base : List String}
    {name : String} {n : Node String (List UInt8)} (h : Target t root path name names base q)
    (hopen : Opened t t' base names q) (hnode : t.node (name :: (names ++ q)) = some n) :
    t.find true (trailOf (names ++ base)) = .ok (names ++ q) ∧ t.node (names ++ q) = some .dir := by
  have hsome : t.node (name :: (names ++ q)) ≠ none := by
    rw [hnode]
    nofun
  have hdir : t.node (names ++ q) = some .dir := Tree.parent hsome
  have hnil : names = [] := by
    by_contra hne
    cases (hopen.fresh hne).symm.trans hdir
  subst hnil
  exact ⟨h.found, hdir⟩

/-- Making the parents makes no link of the target. -/
theorem Target.not_link_after {t t' : Disk} {root q : Place String} {path names base : List String}
    {name : String} (h : Target t root path name names base q) (hway : OnTheWay t t' names q)
    (hopen : Opened t t' base names q) : ¬t'.LinkAt (name :: (names ++ q)) := by
  rw [hway.grown.linkAt]
  rintro ⟨target, hlink⟩
  exact h.not_link (h.before hopen hlink).1 ⟨target, hlink⟩

theorem Target.missing_after {t t' : Disk} {root q : Place String} {path names base : List String}
    {name : String} (h : Target t root path name names base q) (hway : OnTheWay t t' names q)
    (hopen : Opened t t' base names q) (habsent : t.pathExists (trailOf path) ≠ true) :
    t'.node (name :: (names ++ q)) = none := by
  by_contra hsome
  obtain ⟨n, hn⟩ := Option.ne_none_iff_exists'.mp hsome
  -- the parents end above the target's place
  have hold : t.node (name :: (names ++ q)) = some n := by
    by_contra hnew
    obtain ⟨above, -, habove, hplace, -⟩ := hway.made _ fun hsame => hnew (hsame ▸ hn)
    have hlength := congrArg List.length hplace
    have hle := habove.length_le
    simp only [List.length_cons, List.length_append] at hlength
    omega
  obtain ⟨hfound, hdir⟩ := h.before hopen hold
  refine habsent (Tree.pathExists_iff.mpr ⟨name :: (names ++ q), n, ?_, hold⟩)
  rw [h.path_eq]
  exact Tree.find_cons_of hdir (Or.inr (h.not_link hfound)) hfound

/-- A target that exists is settled. -/
theorem Target.settled {t : Disk} {root q : Place String} {path names base : List String}
    {name : String} (h : Target t root path name names base q)
    (hexists : t.pathExists (trailOf path) = true) : Settled t root path := by
  obtain ⟨p, n, hfind, hnode⟩ := Tree.pathExists_iff.mp hexists
  rw [h.path_eq] at hfind
  obtain ⟨d, hd, hdir, hp⟩ := Tree.find_cons hfind
  obtain rfl := h.names_nil hd hdir
  obtain rfl := Except.ok.inj (h.found.symm.trans hd)
  have hplain := h.not_link hd
  obtain rfl := hp.resolve_right fun hlink => hplain hlink.2
  exact ⟨name, base, q, n, h.path_eq, hd, h.inside, hdir, hnode, hplain⟩

/-- A target is created inside the root, or kept. -/
theorem createFile_spec {t t' : Disk} {root q : Place String} {free : Place String → Prop}
    {path names base : List String} {name content : String} {force : Bool}
    {r : Except VerifyError String} (htarget : Target t root path name names base q)
    (hforce : force = true → ∀ p, free p) (h : createFile path content force t = (r, t')) :
    Inside root free t t' ∧ ∀ message, r = .ok message → Settled t' root path := by
  rcases Files.bind_cases h with ⟨e, hquery, -⟩ | ⟨present, t₁, hquery, h⟩
  · cases (Files.query_eq hquery).1
  · obtain ⟨hpresent, rfl⟩ := Files.query_eq hquery
    obtain rfl := Except.ok.inj hpresent
    split at h
    · next hkept =>
      obtain ⟨-, rfl⟩ := Files.pure_eq h
      exact ⟨.refl root free t', fun _ _ => htarget.settled hkept.1⟩
    · next hmake =>
      obtain ⟨n, hn⟩ := htarget.node
      obtain ⟨hway, hopened⟩ := Tree.mkdirs_spec htarget.found hn htarget.missing
      rw [show path.tail = names ++ base by rw [htarget.path_eq, List.tail_cons]] at h
      rcases Files.bind_cases h with ⟨e, hparents, rfl⟩ | ⟨_, t₂, hparents, h⟩
      · obtain ⟨rfl, -⟩ := makeParents_cases hparents
        exact ⟨.onTheWay hway htarget.inside, nofun⟩
      · obtain ⟨rfl, hmade⟩ := makeParents_cases hparents
        have hopen := hopened (hmade rfl)
        have hplain := htarget.not_link_after hway hopen
        have hinside : Inside root free t₁ _ := .onTheWay hway htarget.inside
        have hroot : root <:+ names ++ q := htarget.inside.trans (List.suffix_append names q)
        have hfree := (Bool.eq_false_or_eq_true force).symm.imp
          (fun hno => htarget.missing_after hway hopen fun hexists => hmake ⟨hexists, hno⟩)
          fun hforced => hforce hforced (name :: (names ++ q))
        rw [htarget.path_eq] at h ⊢
        rcases Files.bind_cases h with ⟨e, hwrite, rfl⟩ | ⟨_, t₃, hwrite, h⟩
        · exact ⟨hinside.trans (writeText_spec hopen.found hplain hroot hfree hwrite).1, nofun⟩
        · obtain ⟨hwritten, hsettled⟩ := writeText_spec hopen.found hplain hroot hfree hwrite
          obtain ⟨-, rfl⟩ := Files.pure_eq h
          exact ⟨hinside.trans hwritten, fun _ _ => (hsettled rfl).1⟩

/-- One target, whether it is created, kept or refused. -/
theorem createTarget_spec {t t' : Disk} {root : Place String} {free : Place String → Prop}
    {relativePath content : String} {force : Bool} {r : Except VerifyError (List String)}
    (hroot : Rooted t root) (hforce : force = true → ∀ p, free p)
    (h : createTarget root relativePath content force t = (r, t')) :
    Inside root free t t' ∧ ∀ messages, r = .ok messages →
      Settled t' root (joined root relativePath) := by
  rcases Files.bind_cases h with ⟨e, hquery, rfl⟩ | ⟨path, t₁, hquery, h⟩
  · obtain ⟨-, rfl⟩ := Files.query_eq hquery
    exact ⟨.refl root free t', nofun⟩
  · obtain ⟨htarget, rfl⟩ := Files.query_eq hquery
    obtain ⟨rfl, name, names, base, q, htarget⟩ := safeInitTarget_ok hroot htarget
    rcases Files.bind_cases h with ⟨e, hcreate, rfl⟩ | ⟨message, t₂, hcreate, h⟩
    · exact ⟨(createFile_spec htarget hforce hcreate).1, nofun⟩
    · obtain ⟨-, rfl⟩ := Files.pure_eq h
      obtain ⟨hinside, hsettled⟩ := createFile_spec htarget hforce hcreate
      exact ⟨hinside, fun _ _ => hsettled message rfl⟩

/-! ## The guidance -/

/-- `AGENTS.md` is a file that has the marker when it is read. -/
def Guided (t : Disk) (root : Place String) : Prop :=
  ∃ raw text, t.node (agentsPath :: root) = some (.file raw) ∧ decode raw = some text ∧
    Text.contains (String.ofList (Text.universalNewlines text.toList)) agentsMarker = true

/-- `AGENTS.md` lies directly in the root. -/
theorem joined_agents (root : Place String) : joined root agentsPath = agentsPath :: root := by
  unfold joined
  rw [show (Text.split '/' agentsPath).reverse = [agentsPath] by decide]
  rfl

/-- Text mode leaves no carriage return. -/
theorem universalNewlines_clean (cs : List Char) : '\r' ∉ Text.universalNewlines cs := by
  fun_induction Text.universalNewlines cs with
  | case1 => exact List.not_mem_nil
  | case2 cs ih => simpa using ih
  | case3 cs _ ih => simpa using ih
  | case4 c cs _ hc ih =>
    intro hmem
    rcases List.mem_cons.mp hmem with heq | hmem
    · exact hc heq.symm
    · exact ih hmem

/-- What `AGENTS.md` is rewritten to reads back with the marker. -/
theorem withGuidance_marked {existing : String} (hclean : '\r' ∉ existing.toList) :
    Text.contains (String.ofList (Text.universalNewlines (withGuidance existing).toList))
      agentsMarker = true := by
  have hsnippet : '\r' ∉ agentsSnippet.toList := by
    simp only [agentsSnippet, agentsMarker, String.toList_append, List.mem_append, not_or]
    decide +kernel
  have hseparator : ∀ c : Prop, [Decidable c] → '\r' ∉ (if c then "\n" else "").toList := by
    intro c _
    split <;> decide
  rw [Text.universalNewlines_of_not_mem, String.ofList_toList]
  · refine List.any_eq_true.mpr ⟨agentsSnippet.toList, ?_, ?_⟩
    · rw [List.mem_tails, withGuidance, String.toList_append]
      exact List.suffix_append _ _
    · rw [List.isPrefixOf_iff_prefix, agentsSnippet, String.toList_append]
      exact List.prefix_append _ _
  · simp only [withGuidance, String.toList_append, List.mem_append, not_or]
    exact ⟨⟨hclean, hseparator _⟩, hsnippet⟩

/-- What is read is a file of UTF-8, its line ends translated. -/
theorem readText_ok {t : Disk} {path : List String} {text : String}
    (h : readText path t = .ok text) :
    ∃ p raw written, t.find true (trailOf path) = .ok p ∧ t.node p = some (.file raw) ∧
      decode raw = some written ∧ text = String.ofList (Text.universalNewlines written.toList) := by
  unfold readText at h
  obtain ⟨raw, hread, h⟩ := bind_eq_ok.mp h
  have hread := mapError_eq_ok.mp hread
  unfold Tree.read at hread
  split at hread
  · cases hread
  · next content hstat =>
    obtain rfl := Except.ok.inj hread
    obtain ⟨p, hfind, hnode⟩ := Tree.stat_eq_ok.mp hstat
    split at h
    · next written hdecode =>
      exact ⟨p, content, written, hfind, hnode, hdecode, (Except.ok.inj h).symm⟩
    · cases h
  · cases hread
  · cases hread

/-- The guidance is appended inside the root, or was there. -/
theorem addGuidance_spec {t t' : Disk} {root : Place String} {free : Place String → Prop}
    {args : InitArguments} {r : Except VerifyError (List String)} (hroot : Rooted t root)
    (hfree : free (agentsPath :: root)) (h : addGuidance root args t = (r, t')) :
    Inside root free t t' ∧ ∀ messages, r = .ok messages → args.codex = true →
      Settled t' root (agentsPath :: root) ∧ Guided t' root := by
  unfold addGuidance at h
  split at h
  · next hcodex =>
    rcases Files.bind_cases h with ⟨e, hquery, rfl⟩ | ⟨path, t₁, hquery, h⟩
    · obtain ⟨-, rfl⟩ := Files.query_eq hquery
      exact ⟨.refl root free t', nofun⟩
    obtain ⟨hcheck, rfl⟩ := Files.query_eq hquery
    obtain ⟨rfl, name, names, base, q, htarget⟩ := safeInitTarget_ok hroot hcheck
    have hpath := htarget.path_eq
    rw [joined_agents] at h hpath
    obtain ⟨rfl, hbase⟩ := List.cons.inj hpath
    have hplain : ¬t₁.LinkAt (agentsPath :: root) := htarget.not_link (hbase ▸ hroot.find)
    rcases Files.bind_cases h with ⟨e, hquery, rfl⟩ | ⟨existing, t₂, hquery, hgoes⟩
    · obtain ⟨-, rfl⟩ := Files.query_eq hquery
      exact ⟨.refl root free t', nofun⟩
    obtain ⟨hexisting, rfl⟩ := Files.query_eq hquery
    unfold existingText at hexisting
    split at hgoes
    · have hclean : '\r' ∉ existing.toList := by
        split at hexisting
        · obtain ⟨-, -, written, -, -, -, rfl⟩ := readText_ok hexisting
          rw [String.toList_ofList]
          exact universalNewlines_clean _
        · obtain rfl := Except.ok.inj hexisting
          decide
      rcases Files.bind_cases hgoes with ⟨e, hwrite, rfl⟩ | ⟨_, t₃, hwrite, hgoes⟩
      · exact ⟨(writeText_spec hroot.find hplain List.suffix_rfl (Or.inr hfree) hwrite).1, nofun⟩
      · obtain ⟨-, rfl⟩ := Files.pure_eq hgoes
        obtain ⟨hinside, hwritten⟩ :=
          writeText_spec hroot.find hplain List.suffix_rfl (Or.inr hfree) hwrite
        obtain ⟨hsettled, hnode⟩ := hwritten rfl
        exact ⟨hinside, fun _ _ _ => ⟨hsettled, _, _, hnode, decode_encode _,
          withGuidance_marked hclean⟩⟩
    · next hmarked =>
      obtain ⟨-, rfl⟩ := Files.pure_eq hgoes
      refine ⟨.refl root free t', fun _ _ _ => ?_⟩
      split at hexisting
      · obtain ⟨p, raw, written, hfind, hnode, hdecode, rfl⟩ := readText_ok hexisting
        obtain ⟨d, hd, hdir, hp⟩ := Tree.find_cons hfind
        obtain rfl := Except.ok.inj (hroot.find.symm.trans hd)
        obtain rfl := hp.resolve_right fun hlink => hplain hlink.2
        exact ⟨⟨agentsPath, root, root, _, rfl, hd, List.suffix_rfl, hdir, hnode, hplain⟩,
          raw, written, hnode, hdecode, Bool.not_eq_false _ |>.mp hmarked⟩
      · obtain rfl := Except.ok.inj hexisting
        exact absurd (by decide) hmarked
  · next hno =>
    obtain ⟨-, rfl⟩ := Files.pure_eq h
    exact ⟨.refl root free t', fun _ _ hcodex => absurd hcodex hno⟩

/-- The workflow is created inside the root, or was there. -/
theorem addWorkflow_spec {t t' : Disk} {root : Place String} {free : Place String → Prop}
    {args : InitArguments} {r : Except VerifyError (List String)} (hroot : Rooted t root)
    (hforce : args.force = true → ∀ p, free p) (h : addWorkflow root args t = (r, t')) :
    Inside root free t t' ∧ ∀ messages, r = .ok messages → args.github = true →
      Settled t' root (joined root workflowPath) := by
  unfold addWorkflow at h
  split at h
  · obtain ⟨hinside, hsettled⟩ := createTarget_spec hroot hforce h
    exact ⟨hinside, fun messages hr _ => hsettled messages hr⟩
  · next hno =>
    obtain ⟨-, rfl⟩ := Files.pure_eq h
    exact ⟨.refl root free t', fun _ _ hgithub => absurd hgithub hno⟩

/-! ## A run -/

/-- The files that a run may rewrite. -/
def Rewritable (args : InitArguments) (root p : Place String) : Prop :=
  args.force = true ∨ p = agentsPath :: root

/-- What a run that resolved its root leaves. -/
structure Initialized (args : InitArguments) (root : Place String) (t' : Disk) : Prop where
  policy : Settled t' root (joined root defaultPolicyPath)
  workflow : args.github = true → Settled t' root (joined root workflowPath)
  guidance : args.codex = true → Settled t' root (agentsPath :: root) ∧ Guided t' root

/-- The whole command, its three targets in order. -/
theorem init_spec {world : InitWorld} {args : InitArguments} {t t' : Disk} {root : Place String}
    {r : Except VerifyError (List String)} (hcwd : IsCwd t world.cwd)
    (hresolve : resolveStrict world.cwd (parsePath args.repositoryRoot) t = .ok root)
    (h : init world args t = (r, t')) :
    Inside root (Rewritable args root) t t' ∧
      ∀ lines, r = .ok lines → Initialized args root t' := by
  have hroot : Rooted t root := resolveStrict_rooted hcwd hresolve
  have hforce : args.force = true → ∀ p, Rewritable args root p := fun hforced _ => Or.inl hforced
  have hagents : Rewritable args root (agentsPath :: root) := Or.inr rfl
  rcases Files.bind_cases h with ⟨e, hquery, rfl⟩ | ⟨root', t₁, hquery, h⟩
  · obtain ⟨herror, -⟩ := Files.query_eq hquery
    cases hresolve.symm.trans herror
  obtain ⟨hsame, rfl⟩ := Files.query_eq hquery
  obtain rfl := Except.ok.inj (hresolve.symm.trans hsame)
  rcases Files.bind_cases h with ⟨e, hpolicy, rfl⟩ | ⟨policy, t₂, hpolicy, h⟩
  · exact ⟨(createTarget_spec hroot hforce hpolicy).1, nofun⟩
  obtain ⟨hinside₂, hsettled₂⟩ := createTarget_spec hroot hforce hpolicy
  have hroot₂ := hroot.grown hinside₂.grown
  rcases Files.bind_cases h with ⟨e, hworkflow, rfl⟩ | ⟨workflow, t₃, hworkflow, h⟩
  · exact ⟨hinside₂.trans (addWorkflow_spec hroot₂ hforce hworkflow).1, nofun⟩
  obtain ⟨hinside₃, hsettled₃⟩ := addWorkflow_spec hroot₂ hforce hworkflow
  have hroot₃ := hroot₂.grown hinside₃.grown
  rcases Files.bind_cases h with ⟨e, hguidance, rfl⟩ | ⟨guidance, t₄, hguidance, h⟩
  · exact ⟨(hinside₂.trans hinside₃).trans (addGuidance_spec hroot₃ hagents hguidance).1, nofun⟩
  obtain ⟨hinside₄, hsettled₄⟩ := addGuidance_spec hroot₃ hagents hguidance
  obtain ⟨-, rfl⟩ := Files.pure_eq h
  refine ⟨(hinside₂.trans hinside₃).trans hinside₄, fun _ _ => ⟨?_, fun hgithub => ?_, ?_⟩⟩
  · exact (hsettled₂ _ rfl).grown (hinside₃.grown.trans hinside₄.grown)
  · exact (hsettled₃ _ rfl hgithub).grown hinside₄.grown
  · exact hsettled₄ _ rfl

/-- **The initializer stays inside the repository.** Whatever links the tree holds and however
the run ends: nothing changes outside the resolved root, no node goes and no link appears;
without `--force` no file but `AGENTS.md` is rewritten; and where the root does not resolve,
nothing changes at all. -/
theorem init_confined {world : InitWorld} {args : InitArguments} {t : Disk}
    (hcwd : IsCwd t world.cwd) :
    (∀ root, resolveStrict world.cwd (parsePath args.repositoryRoot) t = .ok root →
      Inside root (Rewritable args root) t (initMain world args t).2) ∧
    ∀ e, resolveStrict world.cwd (parsePath args.repositoryRoot) t = .error e →
      (initMain world args t).2 = t := by
  have hmain : (initMain world args t).2 = (init world args t).2 := by
    unfold initMain
    split <;> next hrun => rw [hrun]
  rw [hmain]
  refine ⟨fun root hroot => (init_spec hcwd hroot rfl).1, fun e he => ?_⟩
  cases hrun : init world args t with
  | mk r t' =>
    rcases Files.bind_cases hrun with ⟨e', hquery, -⟩ | ⟨root, t₁, hquery, -⟩
    · exact (Files.query_eq hquery).2
    · cases he.symm.trans (Files.query_eq hquery).1

/-- A repository whose `.github` is a link out of it. -/
def linkedTree : Disk where
  entries := [(["repo"], .dir), (["outside"], .dir),
    ([".github", "repo"], .link ⟨true, [.down "outside"]⟩)]
  closed := by decide

def linkedWorld : InitWorld := ⟨["repo"], "version: 1\n"⟩

def linkedArguments : InitArguments := ⟨".", true, true, false⟩

/-- A repository reached through a link, with a link inside it. -/
theorem init_confined_linked :
    resolveStrict linkedWorld.cwd (parsePath linkedArguments.repositoryRoot) linkedTree =
      .ok ["repo"] ∧
    Inside ["repo"] (Rewritable linkedArguments ["repo"]) linkedTree
      (initMain linkedWorld linkedArguments linkedTree).2 := by
  have hplain : ¬linkedTree.LinkAt ["repo"] := by
    rintro ⟨target, hlink⟩
    cases hlink
  have hcwd : IsCwd linkedTree linkedWorld.cwd := ⟨(Physical.nil linkedTree).cons hplain, rfl⟩
  have hroot : resolveStrict linkedWorld.cwd (parsePath linkedArguments.repositoryRoot)
      linkedTree = .ok ["repo"] := by rfl
  exact ⟨hroot, (init_confined hcwd).1 ["repo"] hroot⟩

/-! ## A second run -/

/-- A command that returns exits with 0. -/
theorem initMain_of_ok {world : InitWorld} {args : InitArguments} {t t' : Disk}
    {lines : List String} (h : init world args t = (.ok lines, t')) :
    initMain world args t = (.exit 0, t') := by
  unfold initMain
  rw [h]

/-- A path that exists is its own existing parent. -/
theorem existingParent_of_exists {t : Disk} {root : Place String} {names : List String}
    (h : t.pathExists (trailOf names) = true) : existingParent t root names = names := by
  cases names with
  | nil => rfl
  | cons name names => exact if_pos (Or.inl h)

/-- A settled target exists. -/
theorem Settled.pathExists {t : Disk} {root : Place String} {path : List String}
    (h : Settled t root path) : t.pathExists (trailOf path) = true := by
  obtain ⟨name, parent, d, n, rfl, hfound, -, hdir, hnode, hplain⟩ := h.spot
  exact Tree.pathExists_iff.mpr ⟨name :: d, n, Tree.find_cons_of hdir (Or.inr hplain) hfound, hnode⟩

/-- A settled target passes the check. -/
theorem Settled.safeInitTarget_eq {t : Disk} {root : Place String} {relativePath : String}
    (h : Settled t root (joined root relativePath)) :
    safeInitTarget root relativePath t = .ok (joined root relativePath) := by
  obtain ⟨name, parent, d, n, hpath, hfound, hroot, hdir, -, hplain⟩ := h.spot
  have hsymlink : ¬t.isSymlink (trailOf (joined root relativePath)) = true := by
    rw [Tree.isSymlink_iff, hpath]
    rintro ⟨p, hfind, hlink⟩
    have hp := (Tree.find_cons_of hdir (Or.inl rfl) hfound).symm.trans hfind
    exact hplain (Except.ok.inj hp ▸ hlink)
  have hparent : resolveStrict []
      (absolutePath (existingParent t root (joined root relativePath).tail)) t = .ok d := by
    rw [hpath, List.tail_cons,
      existingParent_of_exists (Tree.pathExists_iff.mpr ⟨d, .dir, hfound, hdir⟩)]
    exact resolveStrict_of_find hfound hdir
  have hinside : ¬root.isSuffixOf d = false := by
    rw [Bool.not_eq_false, List.isSuffixOf_iff_suffix]
    exact hroot
  refine bind_eq_ok.mpr ⟨(), raiseIf_neg hsymlink _, bind_eq_ok.mpr ⟨d, hparent, ?_⟩⟩
  exact bind_eq_ok.mpr ⟨(), raiseIf_neg hinside _, rfl⟩

/-- A settled target is kept. -/
theorem createTarget_kept {t : Disk} {root : Place String} {relativePath : String}
    (h : Settled t root (joined root relativePath)) (content : String) :
    ∃ messages, createTarget root relativePath content false t = (.ok messages, t) := by
  have hcreate : ∃ message, createFile (joined root relativePath) content false t =
      (.ok message, t) := by
    have hpresent : Files.query
        (fun t => .ok (t.pathExists (trailOf (joined root relativePath)))) t = (.ok true, t) :=
      Files.query_of_ok (congrArg Except.ok h.pathExists)
    unfold createFile
    rw [Files.bind_of_ok hpresent, if_pos ⟨rfl, rfl⟩]
    exact ⟨_, rfl⟩
  obtain ⟨message, hcreate⟩ := hcreate
  unfold createTarget
  rw [Files.bind_of_ok (Files.query_of_ok h.safeInitTarget_eq), Files.bind_of_ok hcreate]
  exact ⟨_, rfl⟩

/-- A settled workflow is not written again. -/
theorem addWorkflow_kept {t : Disk} {root : Place String} {args : InitArguments}
    (hforce : args.force = false)
    (h : args.github = true → Settled t root (joined root workflowPath)) :
    ∃ messages, addWorkflow root args t = (.ok messages, t) := by
  unfold addWorkflow
  rw [hforce]
  split
  · next hgithub => exact createTarget_kept (h hgithub) workflowTemplate
  · exact ⟨_, rfl⟩

/-- Guidance that is there is read back with its marker. -/
theorem Guided.existingText {t : Disk} {root : Place String} (hroot : Rooted t root)
    (h : Guided t root) : ∃ text, existingText (agentsPath :: root) t = .ok text ∧
      Text.contains text agentsMarker = true := by
  obtain ⟨raw, text, hnode, hdecode, hmarked⟩ := h
  have hsome : t.node (agentsPath :: root) ≠ none := by
    rw [hnode]
    nofun
  have hplain : ¬t.LinkAt (agentsPath :: root) := by
    rintro ⟨target, hlink⟩
    cases hnode.symm.trans hlink
  have hfind : t.find true (trailOf (agentsPath :: root)) = .ok (agentsPath :: root) :=
    Tree.find_cons_of (Tree.parent hsome) (Or.inr hplain) hroot.find
  have hread : t.read (trailOf (agentsPath :: root)) = .ok raw := by
    unfold Tree.read
    rw [Tree.stat_eq_ok.mpr ⟨_, hfind, hnode⟩]
  refine ⟨_, (if_pos (Tree.pathExists_iff.mpr ⟨_, _, hfind, hnode⟩)).trans ?_, hmarked⟩
  refine bind_eq_ok.mpr ⟨raw, mapError_eq_ok.mpr hread, ?_⟩
  rw [hdecode]

/-- Guidance that is there is not appended again. -/
theorem addGuidance_kept {t : Disk} {root : Place String} {args : InitArguments}
    (hroot : Rooted t root)
    (h : args.codex = true → Settled t root (agentsPath :: root) ∧ Guided t root) :
    ∃ messages, addGuidance root args t = (.ok messages, t) := by
  unfold addGuidance
  split
  · next hcodex =>
    obtain ⟨hsettled, hguided⟩ := h hcodex
    obtain ⟨text, htext, hmarked⟩ := hguided.existingText hroot
    rw [← joined_agents] at hsettled htext
    rw [Files.bind_of_ok (Files.query_of_ok hsettled.safeInitTarget_eq),
      Files.bind_of_ok (Files.query_of_ok htext), if_neg (by rw [hmarked]; nofun)]
    exact ⟨_, rfl⟩
  · exact ⟨_, rfl⟩

/-- A run without `--force` where there is nothing to do. -/
theorem Initialized.init_kept {world : InitWorld} {args : InitArguments} {t : Disk}
    {root : Place String} (h : Initialized args root t) (hroot : Rooted t root)
    (hresolve : resolveStrict world.cwd (parsePath args.repositoryRoot) t = .ok root) :
    ∃ lines, init world { args with force := false } t = (.ok lines, t) := by
  obtain ⟨policy, hpolicy⟩ := createTarget_kept h.policy world.policyTemplate
  have hworkflow : ∃ messages, addWorkflow root { args with force := false } t =
      (.ok messages, t) := addWorkflow_kept rfl h.workflow
  have hguidance : ∃ messages, addGuidance root { args with force := false } t =
      (.ok messages, t) := addGuidance_kept hroot h.guidance
  obtain ⟨workflow, hworkflow⟩ := hworkflow
  obtain ⟨guidance, hguidance⟩ := hguidance
  unfold init
  rw [Files.bind_of_ok (Files.query_of_ok hresolve), Files.bind_of_ok hpolicy,
    Files.bind_of_ok hworkflow, Files.bind_of_ok hguidance]
  exact ⟨_, rfl⟩

/-- **A second run finds nothing to do.** After a run that exits with 0, a run without
`--force` exits with 0 and leaves the tree as it is. -/
theorem init_again {world : InitWorld} {args : InitArguments} {t : Disk}
    (hcwd : IsCwd t world.cwd) (h : (initMain world args t).1 = .exit 0) :
    initMain world { args with force := false } (initMain world args t).2 =
      (.exit 0, (initMain world args t).2) := by
  cases hrun : init world args t with
  | mk r t' =>
    cases r with
    | error e =>
      have hexit : (if e.caught then Ending.exit (exitCode .error) else .uncaught e) = .exit 0 := by
        unfold initMain at h
        rw [hrun] at h
        exact h
      split at hexit <;> cases hexit
    | ok lines =>
      have hmain : (initMain world args t).2 = t' := by
        rw [initMain_of_ok hrun]
      rcases Files.bind_cases hrun with ⟨e, -, herror⟩ | ⟨root, t₁, hquery, -⟩
      · cases herror
      obtain ⟨hresolve, -⟩ := Files.query_eq hquery
      obtain ⟨hinside, hdone⟩ := init_spec hcwd hresolve hrun
      have hroot : Rooted t' root := (resolveStrict_rooted hcwd hresolve).grown hinside.grown
      obtain ⟨lines, hsecond⟩ :=
        (hdone lines rfl).init_kept hroot (resolveStrict_grown hinside.grown hresolve)
      rw [hmain]
      exact initMain_of_ok hsecond

/-- A repository that was initialized with the guidance. -/
def guidedTree : Disk where
  entries := [(["repo"], .dir), ([".deployguard", "repo"], .dir),
    (["policy.yml", ".deployguard", "repo"], .file (encode "version: 1\n")),
    (["AGENTS.md", "repo"], .file (encode (withGuidance "")))]
  closed := by decide

def codexArguments : InitArguments := ⟨".", false, true, false⟩

/-- A second run without `--force` after one with it. -/
theorem init_again_guided :
    initMain linkedWorld { codexArguments with force := false }
        (initMain linkedWorld codexArguments guidedTree).2 =
      (.exit 0, (initMain linkedWorld codexArguments guidedTree).2) := by
  have hplain : ∀ {name : String} {place : Place String} {content : List UInt8},
      guidedTree.node (name :: place) = some (.file content) → ¬guidedTree.LinkAt (name :: place) := by
    rintro name place content hfile ⟨target, hlink⟩
    cases hfile.symm.trans hlink
  have hrepo : ¬guidedTree.LinkAt ["repo"] := by
    rintro ⟨target, hlink⟩
    cases hlink
  have hcwd : IsCwd guidedTree linkedWorld.cwd := ⟨(Physical.nil guidedTree).cons hrepo, rfl⟩
  have hresolve : resolveStrict linkedWorld.cwd (parsePath codexArguments.repositoryRoot)
      guidedTree = .ok ["repo"] := by rfl
  have hjoined : joined ["repo"] defaultPolicyPath = ["policy.yml", ".deployguard", "repo"] := by
    decide +kernel
  have hpolicy : Settled guidedTree ["repo"] (joined ["repo"] defaultPolicyPath) :=
    ⟨"policy.yml", [".deployguard", "repo"], [".deployguard", "repo"], _, hjoined, rfl,
      List.suffix_cons _ _, rfl, rfl, hplain rfl⟩
  have hagents : Settled guidedTree ["repo"] [agentsPath, "repo"] :=
    ⟨agentsPath, ["repo"], ["repo"], _, rfl, rfl, List.suffix_rfl, rfl, rfl, hplain rfl⟩
  have hguided : Guided guidedTree ["repo"] :=
    ⟨_, _, rfl, decode_encode (withGuidance ""), withGuidance_marked (by decide)⟩
  have hdone : Initialized codexArguments ["repo"] guidedTree :=
    ⟨hpolicy, nofun, fun _ => ⟨hagents, hguided⟩⟩
  obtain ⟨lines, hrun⟩ := hdone.init_kept (resolveStrict_rooted hcwd hresolve) hresolve
  have hexit : (initMain linkedWorld codexArguments guidedTree).1 = .exit 0 :=
    congrArg Prod.fst (initMain_of_ok hrun)
  exact init_again hcwd hexit

end DeployGuard.Verify
