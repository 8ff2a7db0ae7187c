import BitBrat.Brat.AgentDevContext

/-! What agents can remove: the files of their own context, and its entry. -/

namespace BitBrat

open Js Js.Value

section

variable (env : AgentDevEnv)

/-- A file of a context: in its directory, or the one of its containers. -/
def OwnFile (name : String) (path : FilePath) : Prop :=
  locate env.repoRoot ++ ["env".toList, name.toList] <+: path ∨
    path = locate env.repoRoot ++ ["infrastructure".toList, "docker-compose".toList,
      ("docker-compose." ++ name ++ ".yaml").toList]

structure AgentDevName (name : String) : Prop where
  accepted : validateAgentDevContext name = true
  single : '/' ∉ name.toList

/-- The file of the contexts is not there yet, or it can be read. -/
def Legible (files : RepoFiles) : Prop :=
  files (registryPath env) = none ∨ (loadRegistry env files).isSome

/-- What is owed to the rest of the repository, and to the other contexts. -/
structure AgentDevLaw (files : RepoFiles) (name : String) : Prop where
  confined : ∀ path, files path ≠ none →
    AgentDevContextManager.destroy env files name path = none → OwnFile env name path
  apart : ∀ other path, other ≠ name → OwnFile env other path →
    AgentDevContextManager.destroy env files name path = files path
  kept : ∀ other, other ≠ name →
    contextEntry env (AgentDevContextManager.destroy env files name) other =
      contextEntry env files other
  textKept : loadRegistry env files = none →
    AgentDevContextManager.destroy env files name (registryPath env) = files (registryPath env)
  idempotent :
    AgentDevContextManager.destroy env (AgentDevContextManager.destroy env files name) name =
      AgentDevContextManager.destroy env files name
  provisioned : ∀ config written path, files path ≠ none →
    AgentDevContextManager.provision env files name config written path ≠ none
  provisionKept : ∀ config written other, Legible env files → other ≠ name →
    contextEntry env (AgentDevContextManager.provision env files name config written) other =
      contextEntry env files other
  provisionAfresh : ∀ config written other, ¬ Legible env files → other ≠ name →
    contextEntry env (AgentDevContextManager.provision env files name config written) other =
      .undefined

structure CleanupLaw (files : RepoFiles) : Prop where
  confined : ∀ path, files path ≠ none → AgentDevContextManager.cleanupAll env files path = none →
    ∃ name ∈ agentDevContexts env files, OwnFile env name path
  kept : ∀ other, other ∉ agentDevContexts env files →
    contextEntry env (AgentDevContextManager.cleanupAll env files) other =
      contextEntry env files other
  textKept : loadRegistry env files = none → AgentDevContextManager.cleanupAll env files = files

end

section

variable {env : AgentDevEnv} {files : RepoFiles} {name other : String}

theorem AgentDevName.plain (own : AgentDevName name) : Segment.Plain name.toList := by
  obtain ⟨rest, chars⟩ := List.isPrefixOf_iff_prefix.mp own.accepted
  refine ⟨?_, ?_, ?_, own.single⟩ <;> rw [← chars] <;> intro same <;>
    · have letter := congrArg List.head? same
      cases letter

theorem plain_composeName (single : '/' ∉ name.toList) :
    Segment.Plain ("docker-compose." ++ name ++ ".yaml").toList := by
  rw [String.toList_append, String.toList_append]
  refine ⟨?_, ?_, ?_, ?_⟩
  · exact fun same => absurd (congrArg List.head? same) (by simp)
  · exact fun same => absurd (congrArg List.head? same) (by simp [hereSegment])
  · exact fun same => absurd (congrArg List.head? same) (by simp [upSegment])
  · simpa using single

theorem plain_fixed (segment : Segment) (member : segment ∈ ["env".toList,
    "infrastructure".toList, "docker-compose".toList, ".brat".toList,
    "ephemeral-contexts.yaml".toList, "global.yaml".toList, "infra.yaml".toList]) :
    segment.Plain := by
  have checked : ∀ segment ∈ ["env".toList, "infrastructure".toList, "docker-compose".toList,
      ".brat".toList, "ephemeral-contexts.yaml".toList, "global.yaml".toList,
      "infra.yaml".toList], segment ≠ [] ∧ segment ≠ hereSegment ∧ segment ≠ upSegment ∧
        '/' ∉ segment := by
    decide +kernel
  obtain ⟨nonempty, moves, down, single⟩ := checked segment member
  exact ⟨nonempty, moves, down, single⟩

theorem locate_envDir (own : AgentDevName name) :
    locate (envDir env name) = locate env.repoRoot ++ ["env".toList, name.toList] := by
  apply locate_joinPath_of_plain env.repoRoot_absolute
  · rw [List.flatMap_cons, List.flatMap_cons, List.flatMap_nil,
      List.splitOn_eq_singleton own.single]
    rfl
  · intro segment member
    rcases List.mem_cons.mp member with rfl | last
    · exact plain_fixed _ (by simp)
    · rw [List.mem_singleton.mp last]
      exact own.plain

theorem head?_envDir (own : AgentDevName name) :
    (envDir env name).toList.head? = some '/' := by
  apply head?_joinPath env.repoRoot_absolute
  intro part member
  rcases List.mem_cons.mp member with rfl | last
  · decide
  · rw [List.mem_singleton.mp last]
    exact own.plain.nonempty

theorem locate_composeFile (single : '/' ∉ name.toList) :
    locate (composeFile env name) = locate env.repoRoot ++ ["infrastructure".toList,
      "docker-compose".toList, ("docker-compose." ++ name ++ ".yaml").toList] := by
  apply locate_joinPath_of_plain env.repoRoot_absolute
  · rw [List.flatMap_cons, List.flatMap_cons, List.flatMap_nil,
      List.splitOn_eq_singleton (plain_composeName single).single]
    rfl
  · intro segment member
    rcases List.mem_cons.mp member with rfl | later
    · exact plain_fixed _ (by simp)
    rcases List.mem_cons.mp later with rfl | last
    · exact plain_fixed _ (by simp)
    · rw [List.mem_singleton.mp last]
      exact plain_composeName single

theorem registryPath_eq : registryPath env =
    locate env.repoRoot ++ [".brat".toList, "ephemeral-contexts.yaml".toList] := by
  apply locate_joinPath_of_plain env.repoRoot_absolute
  · rfl
  · intro segment member
    exact plain_fixed segment (by
      rcases List.mem_cons.mp member with rfl | last
      · simp
      · rw [List.mem_singleton.mp last]
        simp)

theorem ownFile_iff (own : AgentDevName name) (path : FilePath) :
    OwnFile env name path ↔
      locate (envDir env name) <+: path ∨ path = locate (composeFile env name) := by
  rw [locate_envDir own, locate_composeFile own.single, OwnFile]

theorem not_ownFile_registryPath (name : String) :
    ¬ OwnFile env name (registryPath env) := by
  rw [registryPath_eq]
  rintro (inside | same)
  · have below := (List.prefix_append_right_inj _).mp inside
    have first := (List.cons_prefix_cons.mp below).1
    exact absurd first (by decide)
  · have lists := List.append_cancel_left same
    exact absurd (congrArg List.length lists) (by simp)

variable {path : FilePath}

theorem eq_of_ownFile (mine : OwnFile env name path) (theirs : OwnFile env other path) :
    name = other := by
  have named : ∀ left right : String, OwnFile env left path → OwnFile env right path →
      (locate env.repoRoot ++ ["env".toList, left.toList] <+: path) → left = right := by
    rintro left right - theirs mine
    rcases theirs with inside | same
    · have lists := List.prefix_of_prefix_length_le mine inside (by simp)
      have tails := (List.prefix_append_right_inj _).mp lists
      simpa [String.toList_inj] using tails
    · rw [same] at mine
      have below := (List.prefix_append_right_inj _).mp mine
      exact absurd (List.cons_prefix_cons.mp below).1 (by decide)
  rcases mine with inside | same
  · exact named name other (.inl inside) theirs inside
  rcases theirs with inside | equal
  · exact (named other name (.inl inside) (.inr same) inside).symm
  · have lists := List.append_cancel_left (same.symm.trans equal)
    have texts : ("docker-compose." ++ name ++ ".yaml").toList =
        ("docker-compose." ++ other ++ ".yaml").toList := by simpa using lists
    simpa [String.toList_append, String.toList_inj] using texts

theorem loadRegistry_congr {after : RepoFiles}
    (same : after (registryPath env) = files (registryPath env)) :
    loadRegistry env after = loadRegistry env files := by
  rw [loadRegistry, loadRegistry, same]

theorem contextEntry_congr {after : RepoFiles}
    (same : after (registryPath env) = files (registryPath env)) (name : String) :
    contextEntry env after name = contextEntry env files name := by
  rw [contextEntry, contextEntry, loadRegistry_congr same]

variable {ephemeral : Value}

theorem contextEntry_of_load (loads : loadRegistry env files = some ephemeral)
    (name : String) : contextEntry env files name = entryOf ephemeral name := by
  rw [contextEntry, loads]
  rfl

theorem contextEntry_of_none (unread : loadRegistry env files = none) (name : String) :
    contextEntry env files name = .undefined := by
  rw [contextEntry, unread]
  rfl

theorem plainData_of_load (loads : loadRegistry env files = some ephemeral)
    (name : String) : env.plainData (entryOf ephemeral name) = true := by
  unfold loadRegistry at loads
  split at loads
  case h_1 read =>
    cases loads
    obtain ⟨text, -, parsed⟩ := Option.map_eq_some_iff.mp read
    exact env.plainData_load text _ name parsed
  case h_2 => cases loads

theorem contextEntry_writeFile {value : Value} {text : String}
    (written : env.yamlDump value = some text)
    (plain : env.plainData (entryOf value name) = true) :
    contextEntry env (writeFile files (registryPath env) text) name = entryOf value name := by
  obtain ⟨loaded, parsed, same⟩ := env.yamlLoad_dump value text written
  have loads : loadRegistry env (writeFile files (registryPath env) text) = some loaded := by
    simp [loadRegistry, writeFile, parsed]
  rw [contextEntry_of_load loads, same name plain]

theorem entryOf_extend (base : Value) (entries : List (String × Value)) (name : String) :
    entryOf (base.extend [("executionContexts", .obj entries)]) name =
      (Value.obj entries).get name := by
  rw [entryOf, extend_cons, extend_nil, get_obj_fields, get_setEntry, if_pos rfl]

theorem entryOf_putEntry {changed config : Value} (apart : other ≠ name)
    (put : putEntry ephemeral name config = some changed) :
    entryOf changed other = entryOf ephemeral other := by
  unfold putEntry at put
  split at put
  case h_1 fields =>
    split at put
    case h_1 entries listed =>
      cases put
      rw [entryOf_extend, get_setEntry, if_neg apart, entryOf, listed]
    case h_2 => cases put; rfl
    case h_3 => cases put; rfl
    case h_4 contexts notObject _ _ =>
      -- What is no object has no entries, and is replaced only if it is nothing.
      split at put
      case isTrue => cases put
      case isFalse =>
        cases put
        rw [entryOf_extend, get_obj_cons, if_neg apart, get_obj_nil, entryOf]
        cases same : (Value.obj fields).get "executionContexts" with
        | obj entries => exact absurd same (notObject entries)
        | _ => rfl
  case h_2 => cases put; rfl
  case h_3 => cases put; rfl
  case h_4 => cases put

theorem entryOf_dropEntry (ephemeral : Value) (name other : String) :
    entryOf (dropEntry ephemeral name) other =
      if other = name then .undefined else entryOf ephemeral other := by
  rw [dropEntry, entryOf_extend, Value.get, fields_obj, lookup_eraseKey]
  split <;> rfl

theorem removeFromEphemeralStorage_cases (env : AgentDevEnv) (files : RepoFiles)
    (name : String) : removeFromEphemeralStorage env files name = files ∨
      ∃ ephemeral text, loadRegistry env files = some ephemeral ∧
        env.yamlDump (dropEntry ephemeral name) = some text ∧
        removeFromEphemeralStorage env files name = writeFile files (registryPath env) text := by
  unfold removeFromEphemeralStorage
  split
  case h_1 ephemeral loads =>
    split
    case isTrue =>
      split
      case h_1 text written => exact .inr ⟨ephemeral, text, loads, written, rfl⟩
      case h_2 => exact .inl rfl
    case isFalse => exact .inl rfl
  case h_2 => exact .inl rfl

theorem removeFromEphemeralStorage_of_ne (apart : path ≠ registryPath env) :
    removeFromEphemeralStorage env files name path = files path := by
  rcases removeFromEphemeralStorage_cases env files name with same | ⟨_, text, -, -, written⟩
  · rw [same]
  · rw [written]
    exact if_neg apart

theorem removeFromEphemeralStorage_registryPath (there : files (registryPath env) ≠ none) :
    removeFromEphemeralStorage env files name (registryPath env) ≠ none := by
  rcases removeFromEphemeralStorage_cases env files name with same | ⟨_, text, -, -, written⟩
  · rwa [same]
  · simp [written, writeFile]

theorem contextEntry_removeFromEphemeralStorage (apart : other ≠ name) :
    contextEntry env (removeFromEphemeralStorage env files name) other =
      contextEntry env files other := by
  rcases removeFromEphemeralStorage_cases env files name with
    same | ⟨ephemeral, text, loads, dumped, written⟩
  · rw [same]
  · have kept : entryOf (dropEntry ephemeral name) other = entryOf ephemeral other := by
      rw [entryOf_dropEntry, if_neg apart]
    rw [written, contextEntry_writeFile dumped (by rw [kept]; exact plainData_of_load loads other),
      kept, contextEntry_of_load loads]

theorem removeFromEphemeralStorage_of_falsy
    (falsy : (contextEntry env files name).truthy = false) :
    removeFromEphemeralStorage env files name = files := by
  unfold removeFromEphemeralStorage
  split
  case h_1 ephemeral loads =>
    rw [contextEntry_of_load loads] at falsy
    rw [if_neg (by simp [falsy])]
  case h_2 => rfl

theorem removeFromEphemeralStorage_idem (env : AgentDevEnv) (files : RepoFiles)
    (name : String) :
    removeFromEphemeralStorage env (removeFromEphemeralStorage env files name) name =
      removeFromEphemeralStorage env files name := by
  rcases removeFromEphemeralStorage_cases env files name with
    same | ⟨ephemeral, text, loads, dumped, written⟩
  · rw [same, same]
  · -- What was written has the entry no more.
    have gone : entryOf (dropEntry ephemeral name) name = .undefined := by
      rw [entryOf_dropEntry, if_pos rfl]
    apply removeFromEphemeralStorage_of_falsy
    rw [written, contextEntry_writeFile dumped (by rw [gone]; exact env.plainData_undefined), gone,
      truthy_undefined]

def clearedFiles (env : AgentDevEnv) (files : RepoFiles) (name : String) : RepoFiles :=
  removeFile (removeTree files (locate (envDir env name))) (locate (composeFile env name))

theorem destroy_eq (own : AgentDevName name) (files : RepoFiles) :
    AgentDevContextManager.destroy env files name =
      removeFromEphemeralStorage env (clearedFiles env files name) name := by
  simp [AgentDevContextManager.destroy, clearedFiles, own.accepted]

theorem clearedFiles_of_own (own : AgentDevName name) (mine : OwnFile env name path) :
    clearedFiles env files name path = none := by
  unfold clearedFiles removeFile removeTree
  rcases (ownFile_iff own path).mp mine with inside | same
  · simp [List.isPrefixOf_iff_prefix.mpr inside]
  · simp [same]

theorem clearedFiles_of_not_own (own : AgentDevName name)
    (foreign : ¬ OwnFile env name path) : clearedFiles env files name path = files path := by
  rw [ownFile_iff own, not_or] at foreign
  unfold clearedFiles removeFile removeTree
  rw [if_neg foreign.2, if_neg (by simpa using foreign.1)]

theorem clearedFiles_registryPath (own : AgentDevName name) :
    clearedFiles env files name (registryPath env) = files (registryPath env) :=
  clearedFiles_of_not_own own (not_ownFile_registryPath name)

theorem destroy_of_own (own : AgentDevName name) (mine : OwnFile env name path) :
    AgentDevContextManager.destroy env files name path = none := by
  have apart : path ≠ registryPath env := by
    intro same
    rw [same] at mine
    exact not_ownFile_registryPath name mine
  rw [destroy_eq own, removeFromEphemeralStorage_of_ne apart, clearedFiles_of_own own mine]

theorem destroy_of_not_own (own : AgentDevName name) (foreign : ¬ OwnFile env name path)
    (apart : path ≠ registryPath env) :
    AgentDevContextManager.destroy env files name path = files path := by
  rw [destroy_eq own, removeFromEphemeralStorage_of_ne apart, clearedFiles_of_not_own own foreign]

theorem destroy_registryPath (own : AgentDevName name)
    (there : files (registryPath env) ≠ none) :
    AgentDevContextManager.destroy env files name (registryPath env) ≠ none := by
  rw [destroy_eq own]
  apply removeFromEphemeralStorage_registryPath
  rwa [clearedFiles_registryPath own]

theorem destroy_confined (own : AgentDevName name) (there : files path ≠ none)
    (gone : AgentDevContextManager.destroy env files name path = none) :
    OwnFile env name path := by
  by_contra foreign
  by_cases same : path = registryPath env
  · rw [same] at there gone
    exact destroy_registryPath own there gone
  · rw [destroy_of_not_own own foreign same] at gone
    exact there gone

theorem contextEntry_destroy (own : AgentDevName name) (apart : other ≠ name) :
    contextEntry env (AgentDevContextManager.destroy env files name) other =
      contextEntry env files other := by
  rw [destroy_eq own, contextEntry_removeFromEphemeralStorage apart,
    contextEntry_congr (clearedFiles_registryPath own)]

theorem destroy_textKept (own : AgentDevName name)
    (unread : loadRegistry env files = none) :
    AgentDevContextManager.destroy env files name (registryPath env) =
      files (registryPath env) := by
  have falsy : (contextEntry env (clearedFiles env files name) name).truthy = false := by
    rw [contextEntry_congr (clearedFiles_registryPath own), contextEntry_of_none unread]
    rfl
  rw [destroy_eq own, removeFromEphemeralStorage_of_falsy falsy, clearedFiles_registryPath own]

theorem destroy_idem (own : AgentDevName name) :
    AgentDevContextManager.destroy env (AgentDevContextManager.destroy env files name) name =
      AgentDevContextManager.destroy env files name := by
  have cleared : clearedFiles env (AgentDevContextManager.destroy env files name) name =
      AgentDevContextManager.destroy env files name := by
    funext path
    by_cases mine : OwnFile env name path
    · rw [clearedFiles_of_own own mine, destroy_of_own own mine]
    · exact clearedFiles_of_not_own own mine
  rw [destroy_eq own (AgentDevContextManager.destroy env files name), cleared, destroy_eq own,
    removeFromEphemeralStorage_idem]

theorem scaffold_there (writes : List ScaffoldWrite) (there : files path ≠ none) :
    writes.foldl ScaffoldWrite.run files path ≠ none := by
  induction writes generalizing files with
  | nil => exact there
  | cons write rest ih =>
    refine ih ?_
    unfold ScaffoldWrite.run writeFile
    split
    · dsimp only
      split
      · simp
      · exact there
    · exact there

theorem scaffold_same {writes : List ScaffoldWrite} (there : files path ≠ none)
    (spared : ∀ write ∈ writes, write.path = path → write.force = false) :
    writes.foldl ScaffoldWrite.run files path = files path := by
  induction writes generalizing files with
  | nil => rfl
  | cons write rest ih =>
    have first : ScaffoldWrite.run files write path = files path := by
      unfold ScaffoldWrite.run
      by_cases same : write.path = path
      · -- The file is there, and so it is skipped.
        have present : (files write.path).isNone = false := by
          rw [same, Option.isNone_eq_false_iff, Option.isSome_iff_ne_none]
          exact there
        simp [spared write List.mem_cons_self same, present]
      · split
        · exact if_neg (Ne.symm same)
        · rfl
    rw [List.foldl_cons, ih (by rwa [first]) fun other member => spared other
      (List.mem_cons_of_mem _ member), first]

theorem scaffoldEnvironment_spares (own : AgentDevName name) (config : Value) :
    ∀ write ∈ scaffoldEnvironment env files name config,
      write.path = registryPath env → write.force = false := by
  have place : ∀ file ∈ ["global.yaml", "infra.yaml"],
      locate (joinPath [envDir env name, file]) ≠ registryPath env := by
    intro file member same
    -- A file of the context is one of its own.
    apply @not_ownFile_registryPath env name
    have leads : locate (joinPath [envDir env name, file]) =
        locate (envDir env name) ++ [file.toList] := by
      have plain : Segment.Plain file.toList := plain_fixed _ (by
        rcases List.mem_cons.mp member with rfl | last
        · simp
        · rw [List.mem_singleton.mp last]
          simp)
      apply locate_joinPath_of_plain (head?_envDir own)
      · rw [List.flatMap_cons, List.flatMap_nil, List.splitOn_eq_singleton plain.single]
        rfl
      · intro segment among
        rwa [List.mem_singleton.mp among]
    rw [← same, ownFile_iff own, leads]
    exact .inl (List.prefix_append _ _)
  intro write member same
  unfold scaffoldEnvironment at member
  simp only [List.mem_append, List.mem_cons, List.not_mem_nil, or_false, List.mem_map] at member
  rcases member with ((rfl | rfl) | ⟨service, -, rfl⟩) | rfl
  · dsimp only at same
    exact absurd same (place "global.yaml" List.mem_cons_self)
  · dsimp only at same
    exact absurd same (place "infra.yaml" (List.mem_cons_of_mem _ List.mem_cons_self))
  · rfl
  · dsimp only at same
    have mine : OwnFile env name (registryPath env) := by
      rw [ownFile_iff own, same]
      exact .inr rfl
    exact absurd mine (not_ownFile_registryPath name)

theorem provision_cases (own : AgentDevName name) (env : AgentDevEnv) (files : RepoFiles)
    (config : Value) (written : Nat) :
    AgentDevContextManager.provision env files name config written = files ∨
      ∃ changed text, putEntry ((loadRegistry env files).getD
          (.obj [("executionContexts", .obj [])])) name config = some changed ∧
        env.yamlDump changed = some text ∧
        AgentDevContextManager.provision env files name config written =
          ((scaffoldEnvironment env (writeFile files (registryPath env) text) name config).take
            written).foldl ScaffoldWrite.run (writeFile files (registryPath env) text) := by
  unfold AgentDevContextManager.provision
  rw [own.accepted]
  simp only [Bool.not_true, Bool.false_eq_true, ↓reduceIte]
  split
  case isTrue => exact .inl rfl
  case isFalse =>
    split
    case h_1 => exact .inl rfl
    case h_2 stored wrote =>
      obtain ⟨text, dumped, rfl⟩ := Option.map_eq_some_iff.mp wrote
      obtain ⟨changed, put, dumped⟩ := Option.bind_eq_some_iff.mp dumped
      exact .inr ⟨changed, text, put, dumped, rfl⟩

theorem provision_there (own : AgentDevName name) (config : Value) (written : Nat)
    (there : files path ≠ none) :
    AgentDevContextManager.provision env files name config written path ≠ none := by
  rcases provision_cases own env files config written with same | ⟨_, text, -, -, wrote⟩
  · rwa [same]
  · rw [wrote]
    apply scaffold_there
    unfold writeFile
    split
    · simp
    · exact there

theorem contextEntry_provision (own : AgentDevName name) (config : Value) (written : Nat)
    (apart : other ≠ name) :
    contextEntry env (AgentDevContextManager.provision env files name config written) other =
      contextEntry env files other := by
  rcases provision_cases own env files config written with
    same | ⟨changed, text, put, dumped, wrote⟩
  · rw [same]
  · have stays : AgentDevContextManager.provision env files name config written
        (registryPath env) = writeFile files (registryPath env) text (registryPath env) := by
      rw [wrote]
      apply scaffold_same (by simp [writeFile])
      intro write member
      exact scaffoldEnvironment_spares own config write (List.mem_of_mem_take member)
    have kept := entryOf_putEntry apart put
    -- A file that cannot be read counts as one without entries.
    let empty : Value := .obj [("executionContexts", .obj [])]
    have before :
        contextEntry env files other = entryOf ((loadRegistry env files).getD empty) other ∧
          env.plainData (entryOf ((loadRegistry env files).getD empty) other) = true := by
      cases loads : loadRegistry env files with
      | some ephemeral =>
        exact ⟨contextEntry_of_load loads other, plainData_of_load loads other⟩
      | none => exact ⟨contextEntry_of_none loads other, env.plainData_undefined⟩
    rw [contextEntry_congr stays, contextEntry_writeFile dumped (by rw [kept]; exact before.2),
      kept, before.1]

theorem contextEntry_of_not_legible (unread : ¬ Legible env files) (name : String) :
    contextEntry env files name = .undefined := by
  rw [Legible, not_or, Option.not_isSome_iff_eq_none] at unread
  exact contextEntry_of_none unread.2 name

theorem agentDevLaw_of_name (own : AgentDevName name) : AgentDevLaw env files name where
  confined path there gone := destroy_confined own there gone
  apart other path different theirs := by
    have foreign : ¬ OwnFile env name path := fun mine =>
      different (eq_of_ownFile mine theirs).symm
    apply destroy_of_not_own own foreign
    intro same
    rw [same] at theirs
    exact not_ownFile_registryPath other theirs
  kept other different := contextEntry_destroy own different
  textKept unread := destroy_textKept own unread
  idempotent := destroy_idem own
  provisioned config written path there := provision_there own config written there
  provisionKept config written other _ different :=
    contextEntry_provision own config written different
  provisionAfresh config written other unread different := by
    rw [contextEntry_provision own config written different, contextEntry_of_not_legible unread]

theorem foldl_destroy {names : List String} (own : ∀ name ∈ names, AgentDevName name)
    (files : RepoFiles) :
    (∀ path, files path ≠ none →
      names.foldl (AgentDevContextManager.destroy env) files path = none →
        ∃ name ∈ names, OwnFile env name path) ∧
    ∀ other, other ∉ names →
      contextEntry env (names.foldl (AgentDevContextManager.destroy env) files) other =
        contextEntry env files other := by
  induction names generalizing files with
  | nil => exact ⟨fun path there gone => absurd gone there, fun _ _ => rfl⟩
  | cons name rest ih =>
    obtain ⟨confined, kept⟩ := ih (fun later member => own later (List.mem_cons_of_mem _ member))
      (AgentDevContextManager.destroy env files name)
    have first := own name List.mem_cons_self
    constructor
    · intro path there gone
      by_cases still : AgentDevContextManager.destroy env files name path = none
      · exact ⟨name, List.mem_cons_self, destroy_confined first there still⟩
      · obtain ⟨later, member, mine⟩ := confined path still gone
        exact ⟨later, List.mem_cons_of_mem _ member, mine⟩
    · intro other absent
      rw [List.mem_cons, not_or] at absent
      rw [List.foldl_cons, kept other absent.2, contextEntry_destroy first absent.1]

theorem cleanupLaw_of_names
    (single : ∀ name ∈ agentDevContexts env files, '/' ∉ name.toList) : CleanupLaw env files := by
  have own : ∀ name ∈ agentDevContexts env files, AgentDevName name := by
    intro name member
    refine ⟨?_, single name member⟩
    unfold agentDevContexts at member
    split at member
    · exact (List.mem_filter.mp member).2
    · cases member
  obtain ⟨confined, kept⟩ := @foldl_destroy env _ own files
  refine ⟨confined, kept, fun unread => ?_⟩
  rw [AgentDevContextManager.cleanupAll, agentDevContexts, unread]
  rfl

end

def contextsListing (names : List String) : String :=
  "executionContexts:\n" ++
    String.join (names.map fun name => "  " ++ name ++ ":\n    tags: dev\n")

def contextsListed (names : List String) : Value :=
  .obj [("executionContexts", .obj (names.map fun name => (name, .obj [("tags", .str "dev")])))]

def listingEnv : AgentDevEnv where
  repoRoot := "/repo"
  repoRoot_absolute := by decide
  yamlLoad text :=
    if text = contextsListing ["agent-dev-a"] then .ok (contextsListed ["agent-dev-a"])
    else if text = contextsListing ["agent-dev-a", "agent-dev-b"] then
      .ok (contextsListed ["agent-dev-a", "agent-dev-b"])
    else .error "unexpected text"
  yamlDump value :=
    if value = contextsListed ["agent-dev-a"] then some (contextsListing ["agent-dev-a"])
    else none
  plainData _ := true
  plainData_undefined := rfl
  plainData_load _ _ _ _ := rfl
  yamlLoad_dump value text dumped := by
    split at dumped
    case isTrue same =>
      cases dumped
      exact ⟨contextsListed ["agent-dev-a"], if_pos rfl, fun name _ => by rw [same]⟩
    case isFalse => cases dumped
  generateGlobalYaml _ _ := "LOG_LEVEL: info\n"
  generateInfraYaml _ _ := "NATS_URL: nats\n"
  serviceConfigs _ _ := []
  generateDockerCompose _ _ := "services:\n"

/-- A repository with a file of the local context, and with a file of the contexts of agents. -/
def sampleRepo (listing : String) : RepoFiles := fun path =>
  if path = ["repo".toList, "env".toList, "local".toList, "global.yaml".toList] then
    some "LOG_LEVEL: debug\n"
  else if path = ["repo".toList, ".brat".toList, "ephemeral-contexts.yaml".toList] then
    some listing
  else none

end BitBrat
