import BitBrat.Release.Changelog
import BitBrat.Types.Event

/-! A release: a new version is written, committed, tagged, pushed and offered for review. -/

namespace BitBrat

open Js Git

def CHANGELOG_FILE : String := "CHANGELOG.md"

/-- When a command is run: before the version is written, or after. -/
inductive ReleaseMoment where
  | beforeBump
  | afterBump
  deriving DecidableEq

inductive ReleaseCommand where
  | status (moment : ReleaseMoment)
  | add (moment : ReleaseMoment)
  | commit (moment : ReleaseMoment)
  | tag
  | push
  | branch
  | ghVersion
  | prCreate
  deriving DecidableEq

/-- What a release relies on: the version files, and how commands and the user answer. -/
structure ReleaseEnv extends VersionFilesEnv where
  /-- Whether a command fails that could succeed by the state of the repository. -/
  fails : ReleaseCommand → Bool := fun _ => false
  answer : Option String := none
  branchOutput : String
  prOutput : String
  now : Int

structure ReleaseOptions where
  bump : String
  dryRun : Bool := false
  tag : Option Bool := none
  push : Option Bool := none
  createPr : Option Bool := none
  yes : Bool := false
  now : Option Int := none

structure ReleaseResult where
  previousVersion : String
  nextVersion : String
  dryRun : Bool
  uncommittedChanges : Bool
  changesCommitted : Bool
  tagged : Bool
  pushed : Bool
  prCreated : Bool
  prUrl : Option String
  changelogRolled : Bool
  consistency : Option VersionConsistency
  deriving DecidableEq

section

variable (env : ReleaseEnv)

def hasUncommittedChanges (moment : ReleaseMoment) (repo : Repository) : Bool :=
  !env.fails (.status moment) && repo.dirty

def promptUser : Bool :=
  match env.answer with
  | none => false
  | some answer =>
    let normalized := ((trimBlanks answer.toList).map Char.toLower)
    normalized = ['y'] ∨ normalized = ['y', 'e', 's']

/-- Commit all changes, and whether that succeeded. -/
def commitChanges (moment : ReleaseMoment) (dryRun : Bool) (repo : Repository) :
    Bool × Repository :=
  if dryRun then (true, repo)
  else if env.fails (.add moment) then (false, repo)
  else if env.fails (.commit moment) then (false, repo.addAll)
  else
    match repo.addAll.commit with
    | some committed => (true, committed)
    | none => (false, repo.addAll)

/-- Commit what is there before the version is written, if the user agrees. -/
def commitUncommitted (opts : ReleaseOptions) (uncommittedChanges : Bool) (repo : Repository) :
    Except String (Bool × Repository) :=
  if uncommittedChanges ∧ opts.dryRun = false then
    let shouldCommit := if opts.yes then true else promptUser env
    if shouldCommit then
      let (changesCommitted, repo) := commitChanges env .beforeBump opts.dryRun repo
      if changesCommitted then .ok (true, repo)
      else .error "Failed to commit uncommitted changes"
    else
      .error ("Uncommitted changes detected. Commit or stash them before releasing, " ++
        "or use --yes to auto-commit")
  else .ok (false, repo)

/-- Roll the log of changes, if there is one, and whether that changed it. -/
def rollChangelogFile (version : String) (now : Int) (dryRun : Bool) (tree : FileTree) :
    Except String (Bool × FileTree) :=
  match tree.get? CHANGELOG_FILE with
  | none => .ok (false, tree)
  | some before => do
    let after ← rollChangelog before version now
    if after = before then return (false, tree)
    else if dryRun then return (true, tree)
    else return (true, tree.set CHANGELOG_FILE after)

/-- Write a version to the three files, compare them, and roll the log of changes. -/
def bumpFiles (version : String) (now : Int) (dryRun : Bool) (tree : FileTree) :
    Except String (Option VersionConsistency × Bool × FileTree) := do
  let tree ← writeArchitectureVersion env.toVersionFilesEnv version dryRun tree
  let tree ← writePackageJsonVersion env.toVersionFilesEnv version dryRun tree
  let tree ← syncLockfileVersion env.toVersionFilesEnv version dryRun tree
  let consistency ←
    if dryRun then Except.ok none
    else (assertVersionsConsistent env.toVersionFilesEnv tree).map some
  let (changelogRolled, tree) ← rollChangelogFile version now dryRun tree
  return (consistency, changelogRolled, tree)

/-- Commit the version that was written, unless there was a commit already. -/
def commitBump (dryRun changesCommitted : Bool) (repo : Repository) : Bool × Repository :=
  if hasUncommittedChanges env .afterBump repo ∧ dryRun = false ∧ changesCommitted = false then
    commitChanges env .afterBump dryRun repo
  else (changesCommitted, repo)

/-- Tag the last commit with a version, and whether that succeeded. -/
def createGitTag (version : String) (dryRun : Bool) (repo : Repository) : Bool × Repository :=
  if dryRun then (true, repo)
  else if env.fails .tag then (false, repo)
  else
    match repo.tag ("v" ++ version) with
    | some tagged => (true, tagged)
    | none => (false, repo)

def pushChanges (dryRun : Bool) : Bool := if dryRun then true else !env.fails .push

def getCurrentBranch : String :=
  if env.fails .branch then "main"
  else if trimmedText env.branchOutput = "" then "main"
  else trimmedText env.branchOutput

/-- Offer the release for review, and whether and where that succeeded. -/
def createGitHubPR (currentBranch : String) (dryRun : Bool) : Bool × Option String :=
  if dryRun then (true, none)
  else if env.fails .ghVersion then (false, none)
  else if currentBranch = "main" ∨ currentBranch = "master" then (false, none)
  else if env.fails .prCreate then (false, none)
  else (true, some (trimmedText env.prOutput))

def runRelease (opts : ReleaseOptions) (repo : Repository) :
    Except String (ReleaseResult × Repository) := do
  if opts.createPr = some true ∧ opts.tag = some false then
    .error ("GitHub PRs require git tags. Use --tag with --createPr, or omit --createPr.")
  else
    let previousVersion ← readArchitectureVersion env.toVersionFilesEnv repo.work
    let nextVersion ← computeNextVersion previousVersion opts.bump
    -- What is uncommitted before the version is written is committed without it.
    let uncommittedChanges := hasUncommittedChanges env .beforeBump repo
    let (changesCommitted, repo) ← commitUncommitted env opts uncommittedChanges repo
    let (consistency, changelogRolled, work) ←
      bumpFiles env nextVersion (opts.now.getD env.now) opts.dryRun repo.work
    let (changesCommitted, repo) :=
      commitBump env opts.dryRun changesCommitted { repo with work }
    let (tagged, repo) :=
      if opts.tag ≠ some false then createGitTag env nextVersion opts.dryRun repo
      else (false, repo)
    let pushed := opts.push ≠ some false && !opts.dryRun && pushChanges env opts.dryRun
    let (prCreated, prUrl) :=
      if opts.createPr ≠ some false then createGitHubPR env (getCurrentBranch env) opts.dryRun
      else (false, none)
    return ({
      previousVersion, nextVersion, dryRun := opts.dryRun, uncommittedChanges, changesCommitted
      tagged, pushed, prCreated, prUrl, changelogRolled, consistency }, repo)

end

end BitBrat
