import DeployGuard.Verify.Policy

/-!
# Changes from git

`git_change.py`. Git is what its commands come to (`Git`): a command may time out,
fail to start, or exit with a code, a text and an error text. Text is as decoded;
reading it in universal newlines mode is `_git`'s part.
-/

namespace DeployGuard.Verify

open Raise

/-- What running a command comes to. -/
inductive GitRun (α : Type) where
  | timedOut
  | notStarted (message : String)
  | completed (returncode : Int) (stdout : α) (stderr : String)

/-- The git of a repository: its commands by their arguments, captured as text or
as bytes. -/
structure Git where
  text : List String → GitRun String
  raw : List String → GitRun (List UInt8)
  /-- `repository_root.name` -/
  rootName : String

def zeroSha : String := String.ofList (List.replicate 40 '0')

/-- A stream captured as text. -/
def captured (stream : String) : String := String.ofList (Text.universalNewlines stream.toList)

/-- `completed.stderr.strip() or completed.stdout.strip() or "unknown git error"`. -/
def failureDetail (stdout stderr : String) : String :=
  Text.orElse (Text.strip (captured stderr))
    (Text.orElse (Text.strip (captured stdout)) "unknown git error")

/-- `_git`. -/
def Git.git (git : Git) (args : List String) : Except VerifyError String :=
  match git.text args with
  | .timedOut => .error .timeoutExpired
  | .notStarted message => .error (.osError message)
  | .completed returncode stdout stderr =>
    if returncode = 0 then .ok (captured stdout)
    else
      let command := " ".intercalate args
      .error (.gitError s!"git {command} failed: {failureDetail stdout stderr}")

/-- `_git(…, allow_failure=True)`. -/
def Git.gitAllowFailure (git : Git) (args : List String) : Except VerifyError (Option String) :=
  match git.git args with
  | .ok stdout => .ok (some stdout)
  | .error (.gitError _) => .ok none
  | .error e => .error e

/-- `resolve_commit`. -/
def Git.resolveCommit (git : Git) (revision : String) : Except VerifyError String := do
  raiseIf (revision = "" ∨ revision = zeroSha)
    (.gitError "a non-zero base and head revision are required")
  let resolved ← git.git ["rev-parse", "--verify", revision ++ "^\x7bcommit\x7d"]
  pure (Text.lower (Text.strip resolved))

/-- The match of `github\.com[:/]([^/]+/[^/]+)$` at the beginning of a text. -/
def githubMatch (cs : List Char) : Option String :=
  let domain := "github.com".toList
  if domain.isPrefixOf cs then
    match cs.drop domain.length with
    | c :: rest =>
      if c = ':' ∨ c = '/' then
        match rest.splitOn '/' with
        | [owner, name] => if owner ≠ [] ∧ name ≠ [] then some (String.ofList rest) else none
        | _ => none
      else none
    | [] => none
  else none

/-- `value.rsplit("/", 2)[-2] + "/" + value.rsplit("/", 1)[-1]`. -/
def lastComponents (value : String) : Except VerifyError String :=
  match (Text.split '/' value).reverse with
  | name :: owner :: _ => .ok (owner ++ "/" ++ name)
  | _ => .error .indexError

/-- `_repository_name`. -/
def Git.repositoryName (git : Git) (explicit : Option String) : Except VerifyError String := do
  if explicit.getD "" ≠ "" then pure (explicit.getD "")
  else
    let remote ← git.gitAllowFailure ["config", "--get", "remote.origin.url"]
    if remote.getD "" ≠ "" then
      let value := Text.removesuffix (Text.strip (remote.getD "")) ".git"
      match value.toList.tails.findSome? githubMatch with
      | some name => pure name
      | none => lastComponents value
    else pure git.rootName

/-! ## Flags -/

def docsSuffixes : List String := [".md", ".mdx", ".rst", ".txt"]

def dependencySuffixes : List String :=
  ["requirements.txt", "requirements-prod.txt", "pyproject.toml", "package.json",
    "package-lock.json", ".csproj"]

def configurationSuffixes : List String := ["dockerfile", ".yml", ".yaml", ".toml", ".json"]

/-- The path, in lower case, is in a migrations directory or an SQL file. -/
def isMigration (path : String) : Bool :=
  Text.contains ("/" ++ path) "/migrations/" || Text.endswith path ".sql"

def isDependency (path : String) : Bool := dependencySuffixes.any (Text.endswith path)

def isAuthOrSecurity (path : String) : Bool :=
  Text.contains ("/" ++ path) "/auth/" || Text.contains path "security"

/-- A documentation path, as `_change_flags` tells it of a path in lower case. -/
def isDocs (path : String) : Bool :=
  docsSuffixes.any (Text.endswith path) || Text.startswith path "docs/"

/-- `_change_flags`. -/
def changeFlags (paths : List String) : List String :=
  let lowered := paths.map Text.lower
  ((if paths ≠ [] ∧ lowered.all isDocs then ["docs-only"] else []) ++
    (if lowered.any isMigration then ["database-migration"] else []) ++
    (if lowered.any isAuthOrSecurity then ["auth-or-security-change"] else []) ++
    (if lowered.any (Text.startswith · ".github/workflows/") then ["ci-workflow-change"] else []) ++
    (if lowered.any fun path => configurationSuffixes.any (Text.endswith path) then
      ["configuration-change"] else []) ++
    (if lowered.any isDependency then ["dependency-change"] else [])).mergeSort fun a b => a ≤ b

/-! ## The change -/

/-- `fields[i].isdigit()` and `int(fields[i])`, of ASCII text. -/
def lineCount (field : String) : Except VerifyError Int :=
  if field ≠ "" ∧ field.toList.all Char.isDigit then toInt (.str field) else .ok 0

/-- The loop over the lines of `git diff --numstat`: lines added and deleted. -/
def numstatTotals (added deleted : Int) : List String → Except VerifyError (Int × Int)
  | [] => .ok (added, deleted)
  | line :: lines =>
    match Text.split '\t' line with
    | first :: second :: _ => do
      let more ← lineCount first
      let fewer ← lineCount second
      numstatTotals (added + more) (deleted + fewer) lines
    | _ => numstatTotals added deleted lines

/-- The paths in the output of `git diff --name-only -z`. -/
def listedPaths (output : String) : List String :=
  (((Text.split '\x00' output).filter fun path => path ≠ "").map
    fun path => Text.replace path "\\" "/").mergeSort fun a b => a ≤ b

/-- `collect_git_change`. -/
def Git.collectGitChange (git : Git) (baseRevision headRevision : String)
    (repository : Option String) : Except VerifyError GitChange := do
  let inside ← git.git ["rev-parse", "--is-inside-work-tree"]
  raiseIf (Text.strip inside ≠ "true") (.gitError s!"{git.rootName} is not a Git work tree")
  let baseSha ← git.resolveCommit baseRevision
  let headSha ← git.resolveCommit headRevision
  let mergeBase ← git.git ["merge-base", baseSha, headSha]
  raiseIf (mergeBase = "") (.gitError "base and head do not share a merge base")
  let mergeBaseSha := Text.lower (Text.strip mergeBase)
  let rawPaths ← git.git ["diff", "--name-only", "-z", mergeBaseSha, headSha]
  let paths := listedPaths rawPaths
  let rawNumstat ← git.git ["diff", "--numstat", mergeBaseSha, headSha]
  let (linesAdded, linesDeleted) ← numstatTotals 0 0 (Text.splitlines rawNumstat)
  let generatedAt ← git.git ["show", "-s", "--format=%cI", headSha]
  raiseIf (generatedAt = "") (.gitError "head commit does not have a commit timestamp")
  let name ← git.repositoryName repository
  pure
    { repository := name
      baseSha, headSha, mergeBaseSha
      generatedAt := Text.strip generatedAt
      paths
      filesChanged := paths.length
      linesAdded, linesDeleted
      flags := changeFlags paths }

/-! ## The policy of the base -/

/-- `Path(policy_path).as_posix().lstrip("/")`. -/
def normalizedPath (path : String) : String :=
  let parts := (Text.split '/' path).filter fun part => part ≠ "" ∧ part ≠ "."
  if parts = [] then (if Text.startswith path "/" then "" else ".") else "/".intercalate parts

/-- `load_policy_from_base`; `none` is a policy that is not there. -/
def Git.loadPolicyFromBase (git : Git) (safeLoad : List UInt8 → Except VerifyError Yaml)
    (digest : Yaml → String) (baseSha policyPath : String) :
    Except VerifyError (Option LoadedPolicy) := do
  let normalized := normalizedPath policyPath
  raiseIf (Text.startswith normalized "../" ∨ Text.contains normalized "/../")
    (.valueError "policy path must remain inside the repository")
  match git.raw ["show", s!"{baseSha}:{normalized}"] with
  | .timedOut => .error .timeoutExpired
  | .notStarted message => .error (.osError message)
  | .completed returncode stdout _ =>
    if returncode = 0 then do
      let policy ← parsePolicy safeLoad digest stdout s!"git:{baseSha}:{normalized}"
      pure (some policy)
    else pure none

/-! ## A topic branch -/

/-- A git that answers the commands of a script, and fails at every other. -/
def scriptedGit (script : List (List String × String)) : Git where
  text args :=
    match script.lookup args with
    | some stdout => .completed 0 stdout ""
    | none => .completed 1 "" ""
  raw _ := .completed 1 [] ""
  rootName := "shop"

def mainSha : String := String.ofList (List.replicate 40 'b')
def topicSha : String := String.ofList (List.replicate 40 'a')

/-- A topic branch on main; what it changed is given as git lists it. -/
def topicGit (names : String) : Git :=
  scriptedGit
    [(["rev-parse", "--is-inside-work-tree"], "true\n"),
      (["rev-parse", "--verify", "main^\x7bcommit\x7d"], mainSha ++ "\n"),
      (["rev-parse", "--verify", "topic^\x7bcommit\x7d"], topicSha ++ "\n"),
      (["merge-base", mainSha, topicSha], mainSha ++ "\n"),
      (["diff", "--name-only", "-z", mainSha, topicSha], names),
      (["diff", "--numstat", mainSha, topicSha], ""),
      (["show", "-s", "--format=%cI", topicSha], "2026-01-01T00:00:00+00:00\n")]

/-- The change of the topic branch. -/
def topicChange (names : String) : GitChange :=
  let paths := listedPaths names
  { repository := "acme/shop"
    baseSha := mainSha
    headSha := topicSha
    mergeBaseSha := mainSha
    generatedAt := "2026-01-01T00:00:00+00:00"
    paths
    filesChanged := paths.length
    linesAdded := 0
    linesDeleted := 0
    flags := changeFlags paths }

theorem topicGit_collect (names : String) :
    (topicGit names).collectGitChange "main" "topic" (some "acme/shop") =
      .ok (topicChange (captured names)) := by
  have hinside : (topicGit names).git ["rev-parse", "--is-inside-work-tree"] = .ok "true\n" := rfl
  have hmain : (topicGit names).resolveCommit "main" = .ok mainSha := rfl
  have htopic : (topicGit names).resolveCommit "topic" = .ok topicSha := rfl
  have hbase : (topicGit names).git ["merge-base", mainSha, topicSha] = .ok (mainSha ++ "\n") := rfl
  have hnames : (topicGit names).git ["diff", "--name-only", "-z", mainSha, topicSha] =
      .ok (captured names) := rfl
  have hlines : (topicGit names).git ["diff", "--numstat", mainSha, topicSha] = .ok "" := rfl
  have hshow : (topicGit names).git ["show", "-s", "--format=%cI", topicSha] =
      .ok "2026-01-01T00:00:00+00:00\n" := rfl
  have hsha : Text.lower (Text.strip (mainSha ++ "\n")) = mainSha := rfl
  unfold Git.collectGitChange
  simp only [hinside, hmain, htopic, hbase, bind_ok, hsha, hnames, hlines, hshow]
  rfl
end DeployGuard.Verify
