import BitBrat.Release.Release

/-! Release integrity: when a tag points to the release, and a review is of a tagged one. -/

namespace BitBrat

open Js Git

def releaseFiles : List String := [ARCH_FILE, PKG_FILE, LOCK_FILE, CHANGELOG_FILE]

/-- The commit of the tag has the release, and nothing of the release is uncommitted. -/
structure ReleaseIntegrity (env : VersionFilesEnv) (version : String) (repo : Repository) :
    Prop where
  contains : ∃ tree, repo.tags.get? ("v" ++ version) = some tree ∧
    readAllVersions env tree = .ok {
      ok := true, architecture := version, packageJson := version, packageLock := version } ∧
    tree.get? CHANGELOG_FILE = repo.work.get? CHANGELOG_FILE ∧
    ∀ log, tree.get? CHANGELOG_FILE = some log → hasVersionHeading log version = true
  committed : ∀ file ∈ releaseFiles, repo.Kept file

section

variable (env : ReleaseEnv) (opts : ReleaseOptions) (repo : Repository)

def plannedVersion : Except String String := do
  computeNextVersion (← readArchitectureVersion env.toVersionFilesEnv repo.work) opts.bump

/-- The repository that the version is written to: what was uncommitted is committed in it. -/
def bumpBase : Repository :=
  if hasUncommittedChanges env .beforeBump repo then
    { repo with head := repo.addAll.index, index := repo.addAll.index }
  else repo

/--
A file of the release is committed as it is written.

Either the commit after the writing takes it, or it was in the last commit like this before.
-/
def FileCommitted (work : FileTree) (file : String) : Prop :=
  if hasUncommittedChanges env .beforeBump repo = false ∧
      env.fails (.status .afterBump) = false ∧ env.fails (.add .afterBump) = false then
    (repo.sees file = true ∨ work.get? file = none) ∧
      (env.fails (.commit .afterBump) = true → repo.head.get? file = work.get? file)
  else
    (bumpBase env repo).head.get? file = work.get? file ∧
      (bumpBase env repo).index.get? file = work.get? file

def FilesCommitted : Prop :=
  ∀ version written, plannedVersion env opts repo = .ok version →
    bumpFiles env version (opts.now.getD env.now) false repo.work = .ok written →
    ∀ file ∈ releaseFiles, FileCommitted env repo written.2.2 file

/-- A tag is made: it is asked for, the command succeeds, and there is no such tag. -/
def TagMade : Prop :=
  opts.tag ≠ some false ∧ env.fails .tag = false ∧
    ∀ version, plannedVersion env opts repo = .ok version →
      repo.tags.get? ("v" ++ version) = none

/-- A review is opened: it is asked for, from another branch, and both commands succeed. -/
def ReviewOpened : Prop :=
  opts.createPr ≠ some false ∧ env.fails .ghVersion = false ∧
    ¬ (getCurrentBranch env = "main" ∨ getCurrentBranch env = "master") ∧
    env.fails .prCreate = false

end

section Files

variable {env : VersionFilesEnv} {version : String} {tree : FileTree}

theorem get?_set_apart {file other text : String} (apart : other ≠ file) :
    (tree.set file text).get? other = tree.get? other := OrderedMap.get?_set_of_ne tree apart text

theorem readAllVersions_congr {other : FileTree}
    (same : ∀ file ∈ [ARCH_FILE, PKG_FILE, LOCK_FILE], tree.get? file = other.get? file) :
    readAllVersions env tree = readAllVersions env other := by
  have arch := same ARCH_FILE (by simp)
  have pkg := same PKG_FILE (by simp)
  have lock := same LOCK_FILE (by simp)
  simp only [readAllVersions, readArchitectureVersion, readPackageJsonVersion,
    readPackageLockVersion, readJsonVersion, readFileSync, arch, pkg, lock]

theorem get?_writeArchitectureVersion {written : FileTree}
    (done : writeArchitectureVersion env version false tree = .ok written) :
    ∃ text reparsed, written = tree.set ARCH_FILE text ∧ env.yamlLoad text = .ok reparsed ∧
      (reparsed.get "project").get "version" = .str version := by
  unfold writeArchitectureVersion at done
  cases read : readFileSync env tree ARCH_FILE with
  | error message => simp [read, bind, Except.bind] at done
  | ok before =>
    cases replaced : setArchitectureVersionInSource before version with
    | error message => simp [read, replaced, bind, Except.bind] at done
    | ok text =>
      cases parsed : env.yamlLoad text with
      | error message => simp [read, replaced, parsed, bind, Except.bind] at done
      | ok reparsed =>
        simp only [read, replaced, parsed, bind, Except.bind, pure, Except.pure,
          Bool.false_eq_true, if_false] at done
        split at done
        · rename_i same
          exact ⟨text, reparsed, (Except.ok.inj done).symm, parsed, same⟩
        · cases done

theorem get?_writePackageJsonVersion {written : FileTree}
    (done : writePackageJsonVersion env version false tree = .ok written) :
    ∃ text, written = tree.set PKG_FILE text := by
  unfold writePackageJsonVersion at done
  cases read : readFileSync env tree PKG_FILE with
  | error message => simp [read, bind, Except.bind] at done
  | ok before =>
    cases replaced : setPackageJsonVersionInSource before version with
    | error message => simp [read, replaced, bind, Except.bind] at done
    | ok text =>
      simp only [read, replaced, bind, Except.bind, pure, Except.pure, Bool.false_eq_true,
        if_false] at done
      exact ⟨text, (Except.ok.inj done).symm⟩

theorem get?_syncLockfileVersion {written : FileTree} {file : String}
    (apart : file ≠ LOCK_FILE) (done : syncLockfileVersion env version false tree = .ok written) :
    written.get? file = tree.get? file := by
  have installed : (((env.npmInstall tree).map fun text => tree.set LOCK_FILE text).getD
      tree).get? file = tree.get? file := by
    cases env.npmInstall tree with
    | none => rfl
    | some text => exact get?_set_apart apart
  unfold syncLockfileVersion at done
  simp only [Bool.false_eq_true, if_false, bind, Except.bind, pure, Except.pure] at done
  repeat' split at done
  all_goals first
    | (rw [← Except.ok.inj done]; exact installed)
    | (rw [← Except.ok.inj done]; exact (get?_set_apart apart).trans installed)
    | cases done

theorem versions_of_consistent {found : VersionConsistency}
    (done : assertVersionsConsistent env tree = .ok found) :
    readArchitectureVersion env tree = .ok found.architecture ∧
      readAllVersions env tree = .ok {
        ok := true, architecture := found.architecture, packageJson := found.architecture
        packageLock := found.architecture } := by
  unfold assertVersionsConsistent at done
  cases all : readAllVersions env tree with
  | error message => simp [all, bind, Except.bind] at done
  | ok versions =>
    simp only [all, bind, Except.bind, pure, Except.pure] at done
    split at done
    · rename_i consistent
      cases done
      unfold readAllVersions at all
      cases arch : readArchitectureVersion env tree with
      | error message => simp [arch, bind, Except.bind] at all
      | ok architecture =>
        cases pkg : readPackageJsonVersion env tree with
        | error message => simp [arch, pkg, bind, Except.bind] at all
        | ok packageJson =>
          cases lock : readPackageLockVersion env tree with
          | error message => simp [arch, pkg, lock, bind, Except.bind] at all
          | ok packageLock =>
            simp only [arch, pkg, lock, bind, Except.bind, pure, Except.pure] at all
            cases all
            simp only [decide_eq_true_eq] at consistent
            obtain ⟨rfl, rfl⟩ := consistent
            simp
    · cases done

theorem architecture_of_read {text found : String} {reparsed : Value}
    (there : tree.get? ARCH_FILE = some text) (parsed : env.yamlLoad text = .ok reparsed)
    (holds : (reparsed.get "project").get "version" = .str version)
    (read : readArchitectureVersion env tree = .ok found) : found = trimmedText version := by
  have loaded : (readFileSync env tree ARCH_FILE >>= env.yamlLoad) = .ok reparsed := by
    rw [readFileSync, there]
    exact parsed
  unfold readArchitectureVersion at read
  simp only [loaded, holds] at read
  split at read
  · exact (Except.ok.inj read).symm
  · cases read

theorem get?_rollChangelogFile {now : Int} {rolled : Bool} {written : FileTree}
    (done : rollChangelogFile version now false tree = .ok (rolled, written)) :
    (∀ file, file ≠ CHANGELOG_FILE → written.get? file = tree.get? file) ∧
      ∀ log, written.get? CHANGELOG_FILE = some log → hasVersionHeading log version = true := by
  unfold rollChangelogFile at done
  split at done
  · rename_i missing
    cases done
    refine ⟨fun _ _ => rfl, fun log there => ?_⟩
    rw [missing] at there
    cases there
  · rename_i before there
    cases rolls : rollChangelog before version now with
    | error message => simp [rolls, bind, Except.bind] at done
    | ok after =>
      have heading := hasVersionHeading_rollChangelog rolls
      simp only [rolls, bind, Except.bind, pure, Except.pure, Bool.false_eq_true, if_false] at done
      split at done
      · rename_i same
        cases done
        refine ⟨fun _ _ => rfl, fun log found => ?_⟩
        rw [there] at found
        rw [← Option.some.inj found, ← same]
        exact heading
      · cases done
        refine ⟨fun file apart => get?_set_apart apart, fun log found => ?_⟩
        rw [OrderedMap.get?_set_self] at found
        rw [← Option.some.inj found]
        exact heading

theorem versions_of_bumpFiles {env : ReleaseEnv} {now : Int}
    {written : Option VersionConsistency × Bool × FileTree}
    (trimmed : trimmedText version = version)
    (done : bumpFiles env version now false tree = .ok written) :
    readAllVersions env.toVersionFilesEnv written.2.2 = .ok {
        ok := true, architecture := version, packageJson := version, packageLock := version } ∧
      ∀ log, written.2.2.get? CHANGELOG_FILE = some log →
        hasVersionHeading log version = true := by
  unfold bumpFiles at done
  cases arch : writeArchitectureVersion env.toVersionFilesEnv version false tree with
  | error message => simp [arch, bind, Except.bind] at done
  | ok withArch =>
    cases pkg : writePackageJsonVersion env.toVersionFilesEnv version false withArch with
    | error message => simp [arch, pkg, bind, Except.bind] at done
    | ok withPkg =>
      cases lock : syncLockfileVersion env.toVersionFilesEnv version false withPkg with
      | error message => simp [arch, pkg, lock, bind, Except.bind] at done
      | ok withLock =>
        cases checks : assertVersionsConsistent env.toVersionFilesEnv withLock with
        | error message => simp [arch, pkg, lock, checks, bind, Except.bind, Except.map] at done
        | ok found =>
          cases rolls : rollChangelogFile version now false withLock with
          | error message =>
            simp [arch, pkg, lock, checks, rolls, bind, Except.bind, Except.map] at done
          | ok rolled =>
            simp only [arch, pkg, lock, checks, rolls, bind, Except.bind, Except.map, pure,
              Except.pure, Bool.false_eq_true, if_false] at done
            cases done
            -- The file of the architecture is not touched after it is written.
            obtain ⟨text, reparsed, rfl, parsed, holds⟩ := get?_writeArchitectureVersion arch
            obtain ⟨json, rfl⟩ := get?_writePackageJsonVersion pkg
            have there : withLock.get? ARCH_FILE = some text := by
              rw [get?_syncLockfileVersion (by decide) lock, get?_set_apart (by decide),
                OrderedMap.get?_set_self]
            obtain ⟨read, all⟩ := versions_of_consistent checks
            have same := architecture_of_read there parsed holds read
            rw [trimmed] at same
            obtain ⟨others, heading⟩ := get?_rollChangelogFile rolls
            refine ⟨?_, heading⟩
            rw [same] at all
            rw [← all]
            apply readAllVersions_congr
            intro file listed
            apply others
            rintro rfl
            exact absurd listed (by decide)

end Files

section Steps

variable {env : ReleaseEnv} {opts : ReleaseOptions} {repo : Repository}

theorem commitChanges_true {moment : ReleaseMoment} {committed : Repository}
    (done : commitChanges env moment false repo = (true, committed)) :
    committed = { repo with head := repo.addAll.index, index := repo.addAll.index } := by
  unfold commitChanges at done
  simp only [Bool.false_eq_true, if_false] at done
  split at done
  · cases done
  · split at done
    · cases done
    · split at done
      · rename_i found commits
        cases done
        rw [Repository.get?_head_of_commit commits]
        rfl
      · cases done

theorem commitUncommitted_ok (wet : opts.dryRun = false) {early : Bool} {base : Repository}
    (done : commitUncommitted env opts (hasUncommittedChanges env .beforeBump repo) repo =
      .ok (early, base)) :
    early = hasUncommittedChanges env .beforeBump repo ∧ base = bumpBase env repo := by
  unfold commitUncommitted at done
  unfold bumpBase
  rw [wet] at done
  cases uncommitted : hasUncommittedChanges env .beforeBump repo with
  | false =>
    simp only [uncommitted, Bool.false_eq_true, false_and, if_false] at done
    cases done
    exact ⟨rfl, rfl⟩
  | true =>
    simp only [uncommitted, true_and, if_true] at done
    generalize agreed : (if opts.yes = true then true else promptUser env) = shouldCommit at done
    cases shouldCommit with
    | false => cases done
    | true =>
      cases commits : commitChanges env .beforeBump false repo with
      | mk success committed =>
        rw [commits] at done
        cases success with
        | false => cases done
        | true =>
          cases done
          exact ⟨rfl, commitChanges_true commits⟩

theorem kept_commitBump_iff (work : FileTree) (file : String) :
    (commitBump env false (hasUncommittedChanges env .beforeBump repo)
        { bumpBase env repo with work }).2.Kept file ↔ FileCommitted env repo work file := by
  unfold commitBump FileCommitted
  cases early : hasUncommittedChanges env .beforeBump repo with
  | true => simp [Repository.Kept]
  | false =>
    have base : bumpBase env repo = repo := by
      rw [bumpBase, early]
      rfl
    rw [base]
    obtain ⟨bumped, is⟩ : ∃ bumped, bumped = { repo with work } := ⟨_, rfl⟩
    have seen : bumped.sees file = repo.sees file := by
      rw [is]
      rfl
    have head : bumped.head = repo.head := by rw [is]
    have index : bumped.index = repo.index := by rw [is]
    have files : bumped.work = work := by rw [is]
    rw [← is, ← seen, ← head, ← index, ← files]
    unfold hasUncommittedChanges
    cases asked : env.fails (.status .afterBump) with
    | true => simp [Repository.Kept]
    | false =>
      cases dirty : bumped.dirty with
      | false =>
        -- Where nothing has changed, there is nothing to commit.
        have clean := @Repository.kept_iff_of_clean bumped file dirty
        cases added : env.fails (.add .afterBump) with
        | true => simp [Repository.Kept]
        | false =>
          simp only [Bool.not_false, Bool.true_and, Bool.false_eq_true, false_and, if_false,
            and_self, if_true]
          exact ⟨fun kept => ⟨clean.mp kept, fun _ => kept.1⟩, fun both => clean.mpr both.1⟩
      | true =>
        simp only [Bool.not_false, Bool.and_self, and_self, if_true, true_and]
        unfold commitChanges
        cases added : env.fails (.add .afterBump) with
        | true => simp [Repository.Kept]
        | false =>
          have staged := @Repository.get?_addAll_eq_iff bumped file
          cases commits : env.fails (.commit .afterBump) with
          | true =>
            simp only [Bool.false_eq_true, if_false, if_true, forall_const]
            rw [← staged]
            exact and_comm
          | false =>
            simp only [Bool.false_eq_true, if_false, if_true, false_imp_iff, and_true]
            rw [← staged]
            cases made : bumped.addAll.commit with
            | some committed =>
              rw [Repository.get?_head_of_commit made]
              exact and_self_iff
            | none =>
              have same := Repository.get?_head_of_commit_eq_none made file
              exact ⟨fun kept => kept.2, fun kept => ⟨same.trans kept, kept⟩⟩

theorem work_commitChanges (moment : ReleaseMoment) (dryRun : Bool) :
    (commitChanges env moment dryRun repo).2.work = repo.work ∧
      (commitChanges env moment dryRun repo).2.tags = repo.tags := by
  unfold commitChanges
  split
  · exact ⟨rfl, rfl⟩
  · split
    · exact ⟨rfl, rfl⟩
    · split
      · exact ⟨rfl, rfl⟩
      · split
        · rename_i committed commits
          rw [Repository.get?_head_of_commit commits]
          exact ⟨rfl, rfl⟩
        · exact ⟨rfl, rfl⟩

theorem work_commitBump (dryRun early : Bool) :
    (commitBump env dryRun early repo).2.work = repo.work ∧
      (commitBump env dryRun early repo).2.tags = repo.tags := by
  unfold commitBump
  split
  · exact work_commitChanges _ _
  · exact ⟨rfl, rfl⟩

theorem work_bumpBase :
    (bumpBase env repo).work = repo.work ∧ (bumpBase env repo).tags = repo.tags := by
  unfold bumpBase
  split <;> exact ⟨rfl, rfl⟩

theorem createGitTag_cases (version : String) :
    ((createGitTag env version false repo).1 = true ↔
      env.fails .tag = false ∧ repo.tags.get? ("v" ++ version) = none) ∧
    ((createGitTag env version false repo).1 = true →
      (createGitTag env version false repo).2.tags.get? ("v" ++ version) = some repo.head) ∧
    (createGitTag env version false repo).2.head = repo.head ∧
    (createGitTag env version false repo).2.index = repo.index ∧
    (createGitTag env version false repo).2.work = repo.work := by
  unfold createGitTag Repository.tag
  cases env.fails .tag with
  | true => simp
  | false =>
    cases repo.tags.get? ("v" ++ version) with
    | none => simp
    | some tree => simp

theorem createGitHubPR_fst (branch : String) :
    (createGitHubPR env branch false).1 = true ↔
      env.fails .ghVersion = false ∧ ¬ (branch = "main" ∨ branch = "master") ∧
        env.fails .prCreate = false := by
  unfold createGitHubPR
  cases env.fails .ghVersion <;> cases env.fails .prCreate <;>
    by_cases branch = "main" ∨ branch = "master" <;> simp_all

/-- The repository after the version was written, and committed as far as that succeeded. -/
def bumpedRepository (env : ReleaseEnv) (repo : Repository) (work : FileTree) : Repository :=
  (commitBump env false (hasUncommittedChanges env .beforeBump repo)
    { bumpBase env repo with work }).2

theorem runRelease_ok (wet : opts.dryRun = false) {result : ReleaseResult}
    {after : Repository} (returned : runRelease env opts repo = .ok (result, after)) :
    ∃ version written, plannedVersion env opts repo = .ok version ∧
      bumpFiles env version (opts.now.getD env.now) false repo.work = .ok written ∧
      result.nextVersion = version ∧
      (result.tagged, after) =
        (if opts.tag ≠ some false then
          createGitTag env version false (bumpedRepository env repo written.2.2)
        else (false, bumpedRepository env repo written.2.2)) ∧
      result.prCreated =
        (if opts.createPr ≠ some false then
          createGitHubPR env (getCurrentBranch env) false
        else (false, none)).1 := by
  unfold runRelease at returned
  rw [wet] at returned
  split at returned
  · cases returned
  · cases read : readArchitectureVersion env.toVersionFilesEnv repo.work with
    | error message => simp [read, bind, Except.bind] at returned
    | ok previous =>
      cases next : computeNextVersion previous opts.bump with
      | error message => simp [read, next, bind, Except.bind] at returned
      | ok version =>
        cases early : commitUncommitted env opts
            (hasUncommittedChanges env .beforeBump repo) repo with
        | error message => simp [read, next, early, bind, Except.bind] at returned
        | ok committed =>
          obtain ⟨success, base⟩ := committed
          obtain ⟨rfl, rfl⟩ := commitUncommitted_ok wet early
          cases bump : bumpFiles env version (opts.now.getD env.now) false
              (bumpBase env repo).work with
          | error message => simp [read, next, early, bump, bind, Except.bind] at returned
          | ok written =>
            obtain ⟨consistency, rolled, work⟩ := written
            simp only [read, next, early, bump, bind, Except.bind, pure, Except.pure] at returned
            rw [work_bumpBase.1] at bump
            refine ⟨version, _, ?_, bump, ?_⟩
            · rw [plannedVersion, read]
              exact next
            · cases returned
              exact ⟨rfl, rfl, rfl⟩

theorem tags_bumpedRepository (work : FileTree) :
    (bumpedRepository env repo work).tags = repo.tags :=
  (work_commitBump false _).2.trans work_bumpBase.2

private theorem work_bumpedRepository (work : FileTree) :
    (bumpedRepository env repo work).work = work :=
  (work_commitBump false _).1

variable {result : ReleaseResult} {after : Repository}

theorem tagged_iff (wet : opts.dryRun = false)
    (returned : runRelease env opts repo = .ok (result, after)) :
    result.tagged = true ↔ TagMade env opts repo := by
  obtain ⟨version, written, planned, -, -, tag, -⟩ := runRelease_ok wet returned
  have only : (∀ other, plannedVersion env opts repo = .ok other →
      repo.tags.get? ("v" ++ other) = none) ↔ repo.tags.get? ("v" ++ version) = none := by
    constructor
    · exact fun all => all version planned
    · intro free other same
      rw [planned] at same
      rwa [← Except.ok.inj same]
  have flag : result.tagged = (if opts.tag ≠ some false then
      createGitTag env version false (bumpedRepository env repo written.2.2)
      else (false, bumpedRepository env repo written.2.2)).1 := congrArg Prod.fst tag
  rw [TagMade, only]
  by_cases asked : opts.tag = some false
  · rw [if_neg (not_not.mpr asked)] at flag
    simp [flag, asked]
  · rw [if_pos asked] at flag
    have made := (@createGitTag_cases env (bumpedRepository env repo written.2.2) version).1
    rw [tags_bumpedRepository] at made
    rw [flag, made]
    exact ⟨fun both => ⟨asked, both⟩, fun all => all.2⟩

theorem prCreated_iff (wet : opts.dryRun = false)
    (returned : runRelease env opts repo = .ok (result, after)) :
    result.prCreated = true ↔ ReviewOpened env opts := by
  obtain ⟨_, _, -, -, -, -, review⟩ := runRelease_ok wet returned
  rw [review, ReviewOpened]
  by_cases asked : opts.createPr = some false
  · rw [if_neg (not_not.mpr asked)]
    simp [asked]
  · rw [if_pos asked, createGitHubPR_fst]
    exact ⟨fun all => ⟨asked, all⟩, fun all => all.2⟩

theorem integrity_iff_of_tagged (wet : opts.dryRun = false)
    (returned : runRelease env opts repo = .ok (result, after)) (tagged : result.tagged = true) :
    ReleaseIntegrity env.toVersionFilesEnv result.nextVersion after ↔
      FilesCommitted env opts repo := by
  obtain ⟨version, written, planned, bumped, rfl, tag, -⟩ := runRelease_ok wet returned
  have asked : opts.tag ≠ some false := ((tagged_iff wet returned).mp tagged).1
  rw [if_pos asked] at tag
  obtain ⟨-, points, head, index, work⟩ :=
    @createGitTag_cases env (bumpedRepository env repo written.2.2) result.nextVersion
  have made : after = (createGitTag env result.nextVersion false
      (bumpedRepository env repo written.2.2)).2 := congrArg Prod.snd tag
  have tree := points ((congrArg Prod.fst tag).symm.trans tagged)
  rw [← made] at tree head index work
  -- The tag changes no file, so a file is kept as it was before.
  have kept : ∀ file, after.Kept file ↔ FileCommitted env repo written.2.2 file := by
    intro file
    rw [← kept_commitBump_iff]
    unfold Repository.Kept
    rw [head, index, work]
    rfl
  constructor
  · intro integrity other others known wrote file listed
    rw [planned] at known
    rw [← Except.ok.inj known, bumped] at wrote
    rw [← Except.ok.inj wrote]
    exact (kept file).mp (integrity.committed file listed)
  · intro files
    have committed : ∀ file ∈ releaseFiles, after.Kept file :=
      fun file listed => (kept file).mpr (files _ _ planned bumped file listed)
    rw [work_bumpedRepository] at work
    have trimmed : trimmedText result.nextVersion = result.nextVersion := by
      unfold plannedVersion at planned
      cases read : readArchitectureVersion env.toVersionFilesEnv repo.work with
      | error message => simp [read, bind, Except.bind] at planned
      | ok previous =>
        rw [read] at planned
        exact trimmedText_computeNextVersion planned
    obtain ⟨versions, heading⟩ := versions_of_bumpFiles trimmed bumped
    have same : ∀ file ∈ releaseFiles,
        (bumpedRepository env repo written.2.2).head.get? file = written.2.2.get? file := by
      intro file listed
      rw [← head, ← work]
      exact (committed file listed).1
    have log := same CHANGELOG_FILE (by simp [releaseFiles])
    refine ⟨⟨_, tree, ?_, ?_, ?_⟩, committed⟩
    · rw [← versions]
      apply readAllVersions_congr
      intro file listed
      apply same
      -- The files that have a version are among those of a release.
      simp only [List.mem_cons, List.not_mem_nil, or_false] at listed
      rcases listed with rfl | rfl | rfl | rfl <;> simp [releaseFiles]
    · rw [log, work]
    · rw [log]
      exact heading

/--
A tag points to the release, and a review is of a tagged one: exactly if what is written is
committed wherever a tag is made, and a tag is made wherever a review is opened.
-/
theorem releaseIntegrity_iff (wet : opts.dryRun = false)
    (returned : runRelease env opts repo = .ok (result, after)) :
    ((result.tagged = true → ReleaseIntegrity env.toVersionFilesEnv result.nextVersion after) ∧
        (result.prCreated = true → result.tagged = true)) ↔
      (TagMade env opts repo → FilesCommitted env opts repo) ∧
        (ReviewOpened env opts → TagMade env opts repo) := by
  rw [prCreated_iff wet returned, tagged_iff wet returned]
  refine and_congr_left fun _ => forall_congr' fun made => ?_
  exact integrity_iff_of_tagged wet returned ((tagged_iff wet returned).mpr made)

end Steps

def archText (version : String) : String := "project:\n  version: " ++ version ++ "\n"

def packageText (version : String) : String := "\x7b\"version\": \"" ++ version ++ "\"\x7d\n"

def releaseEnv : ReleaseEnv where
  rootDir := "/repo"
  yamlLoad text :=
    if text = archText "0.1.0" then
      .ok (.obj [("project", .obj [("version", .str "0.1.0")])])
    else if text = archText "0.2.0" then
      .ok (.obj [("project", .obj [("version", .str "0.2.0")])])
    else .error "unexpected text"
  jsonParse text :=
    if text = packageText "0.1.0" then .ok (.obj [("version", .str "0.1.0")])
    else if text = packageText "0.2.0" then .ok (.obj [("version", .str "0.2.0")])
    else .error "unexpected text"
  jsonText value := "\"" ++ value.toText ++ "\""
  jsonPretty _ := packageText "0.2.0"
  npmInstall tree := tree.get? PKG_FILE
  npmFails _ := false
  branchOutput := "release-branch\n"
  prOutput := "https://github.example/pull/1\n"
  now := 0

def firstTree : FileTree where
  entries := [(ARCH_FILE, archText "0.1.0"), (PKG_FILE, packageText "0.1.0"),
    (LOCK_FILE, packageText "0.1.0"), (CHANGELOG_FILE, "## [Unreleased]\n\n- news\n")]
  distinct := by decide

def cleanRepository : Repository where
  head := firstTree
  index := firstTree
  work := firstTree

def dirtyRepository : Repository :=
  { cleanRepository with work := firstTree.set "README.md" "news" }

theorem exists_of_map {ε α β : Type} {outcome : Except ε α} {fact : α → β} {value : β}
    (returns : outcome.toOption.map fact = some value) :
    ∃ result, outcome = .ok result ∧ fact result = value := by
  cases outcome with
  | ok result => exact ⟨result, rfl, Option.some.inj returns⟩
  | error error => cases returns

/-- From a repository in which all is committed, the tag points to the release. -/
theorem releaseIntegrity_clean :
    ∃ result after,
      runRelease releaseEnv { bump := "minor" } cleanRepository = .ok (result, after) ∧
      result.tagged = true ∧
      ReleaseIntegrity releaseEnv.toVersionFilesEnv result.nextVersion after := by
  have facts : (runRelease releaseEnv { bump := "minor" } cleanRepository).toOption.map
      (fun pair => pair.1.tagged) = some true := by
    decide +kernel
  obtain ⟨⟨result, after⟩, returned, tagged⟩ := exists_of_map facts
  have made : TagMade releaseEnv { bump := "minor" } cleanRepository :=
    ⟨by decide, rfl, fun _ _ => rfl⟩
  refine ⟨result, after, returned, tagged, ((releaseIntegrity_iff rfl returned).mpr
    ⟨fun _ => ?_, fun _ => made⟩).1 tagged⟩
  intro version written _ _ file listed
  have clean : hasUncommittedChanges releaseEnv .beforeBump cleanRepository = false := by
    decide +kernel
  have seen : ∀ file ∈ releaseFiles, cleanRepository.sees file = true := by decide +kernel
  rw [FileCommitted, if_pos ⟨clean, rfl, rfl⟩]
  exact ⟨.inl (seen file listed), nofun⟩

/--
Where something was uncommitted, the tag points to the version before; and a review is opened
without a tag.
-/
theorem releaseIntegrity_fails :
    (∃ result after,
      runRelease releaseEnv { bump := "minor", yes := true } dirtyRepository =
        .ok (result, after) ∧
      result.tagged = true ∧
      (after.tags.get? "v0.2.0").bind (fun tree => tree.get? PKG_FILE) =
        some (packageText "0.1.0") ∧
      ¬ ReleaseIntegrity releaseEnv.toVersionFilesEnv result.nextVersion after) ∧
    ∃ result after,
      runRelease releaseEnv { bump := "minor", tag := some false } cleanRepository =
        .ok (result, after) ∧
      result.prCreated = true ∧ result.tagged = false := by
  constructor
  · have facts : (runRelease releaseEnv { bump := "minor", yes := true }
        dirtyRepository).toOption.map (fun pair => (pair.1.tagged,
          (pair.2.tags.get? "v0.2.0").bind (fun tree => tree.get? PKG_FILE),
          decide (pair.2.head.get? PKG_FILE = pair.2.work.get? PKG_FILE))) =
        some (true, some (packageText "0.1.0"), false) := by
      decide +kernel
    obtain ⟨⟨result, after⟩, returned, holds⟩ := exists_of_map facts
    simp only [Prod.mk.injEq, decide_eq_false_iff_not] at holds
    refine ⟨result, after, returned, holds.1, holds.2.1, fun integrity => ?_⟩
    exact holds.2.2 (integrity.committed PKG_FILE (by simp [releaseFiles])).1
  · have facts : (runRelease releaseEnv { bump := "minor", tag := some false }
        cleanRepository).toOption.map (fun pair => (pair.1.prCreated, pair.1.tagged)) =
        some (true, false) := by
      decide +kernel
    obtain ⟨⟨result, after⟩, returned, holds⟩ := exists_of_map facts
    simp only [Prod.mk.injEq] at holds
    exact ⟨result, after, returned, holds.1, holds.2⟩

end BitBrat
