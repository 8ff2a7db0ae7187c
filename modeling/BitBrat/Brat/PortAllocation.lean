import BitBrat.Brat.PortManager

/-! Which ports services are given: those that are in use are seen only in part. -/

namespace BitBrat

open Js Machine

def implicitCount (assignments : List PortAssignment) : Nat :=
  assignments.countP (!·.explicit)

theorem ports_assignFree (usedPorts : List Int) (next : Int)
    (assignments : List PortAssignment) :
    ((assignFree usedPorts next assignments).filter (!·.explicit)).map PortAssignment.port =
      (allocate usedPorts next (implicitCount assignments)).map some := by
  induction assignments generalizing usedPorts next with
  | nil => rfl
  | cons assignment rest ih =>
    cases asked : assignment.explicit with
    | true => simp [assignFree, asked, implicitCount, ih]
    | false => simp [assignFree, asked, implicitCount, ih, allocate]

variable {usedPorts : List Int} {assignments : List PortAssignment}

theorem fresh_of_assignFree {next : Int} {given : PortAssignment}
    (member : given ∈ assignFree usedPorts next assignments) (implicit : given.explicit = false) :
    ∃ port, given.port = some port ∧ port ∉ usedPorts := by
  have listed : given.port ∈
      ((assignFree usedPorts next assignments).filter (!·.explicit)).map PortAssignment.port :=
    List.mem_map_of_mem (List.mem_filter.mpr ⟨member, by simp [implicit]⟩)
  rw [ports_assignFree] at listed
  obtain ⟨port, allocated, same⟩ := List.mem_map.mp listed
  exact ⟨port, same.symm, (mem_allocate_iff.mp allocated).2.1⟩

theorem explicit_of_assignFree {next : Int} {given : PortAssignment}
    (member : given ∈ assignFree usedPorts next assignments) (asked : given.explicit = true) :
    given ∈ assignments := by
  induction assignments generalizing usedPorts next with
  | nil => cases member
  | cons assignment rest ih =>
    unfold assignFree at member
    split at member
    · rcases List.mem_cons.mp member with rfl | later
      · exact List.mem_cons_self
      · exact List.mem_cons_of_mem _ (ih later)
    · rename_i implicit
      rcases List.mem_cons.mp member with rfl | later
      · exact absurd asked implicit
      · exact List.mem_cons_of_mem _ (ih later)

theorem services_assignFree (usedPorts : List Int) (next : Int)
    (assignments : List PortAssignment) :
    (assignFree usedPorts next assignments).map PortAssignment.service =
      assignments.map PortAssignment.service := by
  induction assignments generalizing usedPorts next with
  | nil => rfl
  | cons assignment rest ih =>
    unfold assignFree
    split <;> rw [List.map_cons, List.map_cons, ih]

theorem pairwise_assignFree (next : Int)
    (held : ∀ assignment ∈ assignments, assignment.explicit = true →
      ∀ port, assignment.port = some port → port ∈ usedPorts) :
    (assignFree usedPorts next assignments).Pairwise fun first second =>
      first.explicit = false ∨ second.explicit = false → first.port ≠ second.port := by
  induction assignments generalizing usedPorts next with
  | nil => exact List.Pairwise.nil
  | cons assignment rest ih =>
    have later := fun other member => held other (List.mem_cons_of_mem _ member)
    unfold assignFree
    split
    · rename_i asked
      refine List.pairwise_cons.mpr ⟨fun other member some_implicit same => ?_, ih next later⟩
      have implicit : other.explicit = false := by
        rcases some_implicit with first | second
        · rw [asked] at first
          cases first
        · exact second
      obtain ⟨port, given, free⟩ := fresh_of_assignFree member implicit
      exact free (held assignment List.mem_cons_self asked port (same.trans given))
    · rename_i implicit
      have free : firstFree usedPorts next ∉ usedPorts := firstFree_not_mem
      refine List.pairwise_cons.mpr ⟨fun other member _ same => ?_,
        ih _ fun other listed asked port given =>
          List.mem_cons_of_mem _ (later other listed asked port given)⟩
      cases kind : other.explicit with
      | true =>
        -- A port that is asked for is in use from the beginning.
        exact free (later other (explicit_of_assignFree member kind) kind _ same.symm)
      | false =>
        obtain ⟨port, given, apart⟩ := fresh_of_assignFree member kind
        obtain rfl := Option.some.inj (same.trans given)
        exact apart List.mem_cons_self

theorem parseInt_toString (number : Nat) :
    parseInt (toString (number : Int)) = some number := by
  have digit : ∀ char ∈ (toString number).toList, char.isDigit = true :=
    fun _ => isDigit_of_mem_toString
  have same : (toString (number : Int)).toList = (toString number).toList := rfl
  have nonempty : (toString number).toList ≠ [] := by simp [Nat.toDigits_ne_nil]
  have size : Nat.ofDigitChars 10 (toString number).toList 0 = number := by
    have digits : (toString number).toList = Nat.toDigits 10 number := by simp
    rw [digits, Nat.ofDigitChars_ten_toDigits]
  have dark : (toString number).toList.dropWhile isBlank = (toString number).toList := by
    rw [List.dropWhile_eq_self_iff]
    intro positive
    rw [isBlank_of_isDigit (digit _ (List.getElem_mem positive))]
    exact Bool.false_ne_true
  have all : (toString number).toList.takeWhile Char.isDigit = (toString number).toList :=
    List.takeWhile_eq_self_iff.mpr digit
  unfold parseInt
  rw [same, dark, signed_of_digits digit]
  dsimp only
  rw [all, if_neg nonempty, size]
  rfl

section

variable (toUpperCase : String → String)

/-- What comes of the ports of services: every service has one, those that are given out are used
nowhere else, and every variable tells the port of its service. -/
structure PortsAllocated (serviceFiles : List String) (env : OrderedMap String Value)
    (containers : List (List PortMapping)) (assignments : List PortAssignment) : Prop where
  services : assignments.map PortAssignment.service = serviceFiles.map serviceOfFile
  apart : assignments.Pairwise fun first second =>
    first.explicit = false ∨ second.explicit = false → first.port ≠ second.port
  unpublished : ∀ assignment ∈ assignments, assignment.explicit = false →
    ∃ port, assignment.port = some port ∧ ¬ Published containers port
  told : ∀ assignment ∈ assignments,
    parseInt (((env.spread (getEnvOverrides toUpperCase assignments)).get?
      (portVariable toUpperCase assignment.service)).getD .undefined).toText = assignment.port

def askedPorts (serviceFiles : List String) (env : OrderedMap String Value) :
    List PortAssignment :=
  serviceFiles.map (explicitAssignment toUpperCase env)

/-- Ports that containers are published on do no harm: each is seen or asked for, or is not among
the first free ports, one of which each other service gets. -/
def PublishedPortsLeft (serviceFiles : List String) (env : OrderedMap String Value)
    (containers : List (List PortMapping)) : Prop :=
  let usedPorts := seenPorts containers ++ explicitPorts (askedPorts toUpperCase serviceFiles env)
  ∀ port, Published containers port → port < defaultStartPort ∨ port ∈ usedPorts ∨
    implicitCount (askedPorts toUpperCase serviceFiles env) ≤
      (freeBetween usedPorts defaultStartPort port).card

variable {toUpperCase} {serviceFiles : List String} {env : OrderedMap String Value}

theorem service_explicitAssignment (file : String) :
    (explicitAssignment toUpperCase env file).service = serviceOfFile file := by
  unfold explicitAssignment
  dsimp only
  split <;> rfl

theorem parseInt_of_explicit {file : String}
    (asked : (explicitAssignment toUpperCase env file).explicit = true) :
    parseInt ((env.get? (portVariable toUpperCase
      (explicitAssignment toUpperCase env file).service)).getD .undefined).toText =
        (explicitAssignment toUpperCase env file).port := by
  rw [service_explicitAssignment]
  unfold explicitAssignment at asked ⊢
  dsimp only at asked ⊢
  split at asked
  · cases asked
  · rfl

theorem get?_getEnvOverrides {assignments : List PortAssignment}
    (distinct : (assignments.map fun assignment =>
      portVariable toUpperCase assignment.service).Nodup)
    {assignment : PortAssignment} (member : assignment ∈ assignments) :
    (getEnvOverrides toUpperCase assignments).get?
        (portVariable toUpperCase assignment.service) =
      if assignment.explicit then none else some (.str (portText assignment.port)) := by
  let entry (given : PortAssignment) : String × Value :=
    (portVariable toUpperCase given.service, .str (portText given.port))
  have once : (((assignments.filter (!·.explicit)).map entry).map Prod.fst).Nodup := by
    rw [List.map_map]
    exact List.Nodup.sublist (List.filter_sublist.map _) distinct
  have written := OrderedMap.get?_foldl_set
    ((assignments.filter (!·.explicit)).map entry) .empty
    (portVariable toUpperCase assignment.service) once
  rw [List.foldl_map] at written
  have empty : (OrderedMap.empty : OrderedMap String Value).get?
      (portVariable toUpperCase assignment.service) = none := rfl
  rw [empty, Option.or_none] at written
  refine Eq.trans written ?_
  cases kind : assignment.explicit with
  | true =>
    rw [if_pos rfl, lookup_eq_none_iff_not_mem]
    intro listed
    obtain ⟨pair, paired, name⟩ := List.mem_map.mp listed
    obtain ⟨other, kept, rfl⟩ := List.mem_map.mp paired
    obtain ⟨there, implicit⟩ := List.mem_filter.mp kept
    -- The variable is that of one service only.
    obtain rfl := List.inj_on_of_nodup_map distinct there member name
    simp [kind] at implicit
  | false =>
    rw [if_neg Bool.false_ne_true]
    exact lookup_of_mem once (List.mem_map.mpr
      ⟨assignment, List.mem_filter.mpr ⟨member, by simp [kind]⟩, rfl⟩)

theorem implicit_of_allocate {usedPorts : List Int} {assignments : List PortAssignment}
    {port : Int} (allocated : port ∈ allocate usedPorts defaultStartPort
      (implicitCount assignments)) :
    ∃ given ∈ assignFree usedPorts defaultStartPort assignments,
      given.explicit = false ∧ given.port = some port := by
  have listed : some port ∈ ((assignFree usedPorts defaultStartPort assignments).filter
      (!·.explicit)).map PortAssignment.port := by
    rw [ports_assignFree]
    exact List.mem_map_of_mem allocated
  obtain ⟨given, kept, same⟩ := List.mem_map.mp listed
  obtain ⟨member, implicit⟩ := List.mem_filter.mp kept
  exact ⟨given, member, by simpa using implicit, same⟩

theorem allocate_of_implicit {usedPorts : List Int} {assignments : List PortAssignment}
    {given : PortAssignment} (member : given ∈ assignFree usedPorts defaultStartPort assignments)
    (implicit : given.explicit = false) :
    ∃ port ∈ allocate usedPorts defaultStartPort (implicitCount assignments),
      given.port = some port := by
  have listed : given.port ∈ ((assignFree usedPorts defaultStartPort assignments).filter
      (!·.explicit)).map PortAssignment.port :=
    List.mem_map_of_mem (List.mem_filter.mpr ⟨member, by simp [implicit]⟩)
  rw [ports_assignFree] at listed
  obtain ⟨port, allocated, same⟩ := List.mem_map.mp listed
  exact ⟨port, allocated, same.symm⟩

theorem told_of_resolvePorts (usedPorts : List Int)
    (distinct : (serviceFiles.map fun file =>
      portVariable toUpperCase (serviceOfFile file)).Nodup)
    {assignment : PortAssignment}
    (member : assignment ∈ resolvePorts toUpperCase serviceFiles env usedPorts) :
    parseInt (((env.spread (getEnvOverrides toUpperCase
      (resolvePorts toUpperCase serviceFiles env usedPorts))).get?
        (portVariable toUpperCase assignment.service)).getD .undefined).toText =
          assignment.port := by
  have once : ((resolvePorts toUpperCase serviceFiles env usedPorts).map fun assignment =>
      portVariable toUpperCase assignment.service).Nodup := by
    have services := services_assignFree (usedPorts ++ explicitPorts
      (serviceFiles.map (explicitAssignment toUpperCase env))) defaultStartPort
        (serviceFiles.map (explicitAssignment toUpperCase env))
    have names := congrArg (List.map (portVariable toUpperCase)) services
    rw [List.map_map, List.map_map, List.map_map] at names
    refine names ▸ ?_
    simpa only [Function.comp_def, service_explicitAssignment] using distinct
  rw [OrderedMap.get?_spread, get?_getEnvOverrides once member]
  cases kind : assignment.explicit with
  | true =>
    rw [if_pos rfl, Option.none_or]
    obtain ⟨file, -, rfl⟩ := List.mem_map.mp (explicit_of_assignFree member kind)
    exact parseInt_of_explicit kind
  | false =>
    rw [if_neg Bool.false_ne_true, Option.some_or]
    obtain ⟨port, allocated, given⟩ := allocate_of_implicit member kind
    obtain ⟨high, -⟩ := mem_allocate_iff.mp allocated
    unfold defaultStartPort at high
    obtain ⟨number, rfl⟩ := Int.eq_ofNat_of_zero_le (show 0 ≤ port by omega)
    rw [given]
    exact parseInt_toString number

end

/-- Every service without a port is given one that is used nowhere else just if the ports that
containers are published on do no harm. -/
theorem resolvePorts_iff (toUpperCase : String → String) (serviceFiles : List String)
    (env : OrderedMap String Value) (containers : List (List PortMapping))
    (distinct : (serviceFiles.map fun file =>
      portVariable toUpperCase (serviceOfFile file)).Nodup) :
    PortsAllocated toUpperCase serviceFiles env containers
        (resolvePorts toUpperCase serviceFiles env
          (discoverUsedPorts (some (dockerPsOutput containers)))) ↔
      PublishedPortsLeft toUpperCase serviceFiles env containers := by
  rw [discoverUsedPorts_output]
  have asked : ∀ assignment ∈ askedPorts toUpperCase serviceFiles env,
      assignment.explicit = true → ∀ port, assignment.port = some port →
        port ∈ seenPorts containers ++ explicitPorts (askedPorts toUpperCase serviceFiles env) := by
    intro assignment member explicit port given
    exact List.mem_append_right _ (List.mem_filterMap.mpr
      ⟨assignment, List.mem_filter.mpr ⟨member, explicit⟩, given⟩)
  constructor
  · intro law port published
    by_contra harm
    rw [not_or, not_or] at harm
    obtain ⟨high, unused, fewer⟩ := harm
    have allocated := mem_allocate_iff.mpr ⟨not_lt.mp high, unused, not_le.mp fewer⟩
    obtain ⟨given, member, implicit, same⟩ := implicit_of_allocate allocated
    obtain ⟨other, held, apart⟩ := law.unpublished given member implicit
    obtain rfl := Option.some.inj (same.symm.trans held)
    exact apart published
  · intro left
    refine ⟨?_, pairwise_assignFree _ asked, fun assignment member implicit => ?_,
      fun assignment member => told_of_resolvePorts _ distinct member⟩
    · have services := services_assignFree (seenPorts containers ++ explicitPorts
        (askedPorts toUpperCase serviceFiles env)) defaultStartPort
          (askedPorts toUpperCase serviceFiles env)
      refine services.trans ?_
      rw [askedPorts, List.map_map]
      exact List.map_congr_left fun file _ => service_explicitAssignment file
    · obtain ⟨port, allocated, given⟩ := allocate_of_implicit member implicit
      obtain ⟨high, unused, fewer⟩ := mem_allocate_iff.mp allocated
      refine ⟨port, given, fun published => ?_⟩
      rcases left port published with low | held | many
      · omega
      · exact unused held
      · exact absurd many (not_le.mpr fewer)

def publishedOn (address : BindAddress) (port : Nat) : PortMapping where
  host := some (address, ⟨port, port, le_refl port⟩)
  container := ⟨3000, 3000, le_refl 3000⟩
  protocol := .tcp

def allAddresses : BindAddress where
  chars := anyAddress
  valid := by
    intro front back split
    have colon : ':' ∈ anyAddress := by simp [split]
    exact absurd colon (by decide)

def loopback : BindAddress where
  chars := "127.0.0.1".toList
  valid := by
    intro front back split
    have colon : ':' ∈ "127.0.0.1".toList := by simp [split]
    exact absurd colon (by decide)

def plainUpperCase (text : String) : String := text.map Char.toUpper

theorem resolvePorts_iff_bot :
    PortsAllocated plainUpperCase ["services/api.compose.yaml", "services/llm-bot.compose.yaml"]
      ⟨[("API_HOST_PORT", .str "3002")], by decide⟩ [[publishedOn allAddresses 3001]]
      (resolvePorts plainUpperCase ["services/api.compose.yaml", "services/llm-bot.compose.yaml"]
        ⟨[("API_HOST_PORT", .str "3002")], by decide⟩
        (discoverUsedPorts (some (dockerPsOutput [[publishedOn allAddresses 3001]])))) := by
  refine (resolvePorts_iff plainUpperCase
    ["services/api.compose.yaml", "services/llm-bot.compose.yaml"]
    ⟨[("API_HOST_PORT", .str "3002")], by decide⟩ [[publishedOn allAddresses 3001]]
    (by decide +kernel)).mpr ?_
  rintro port ⟨mappings, listed, mapping, member, address, range, published, low, high⟩
  obtain rfl := List.mem_singleton.mp listed
  obtain rfl := List.mem_singleton.mp member
  obtain ⟨rfl, rfl⟩ := Prod.mk.inj (Option.some.inj published)
  obtain rfl : port = 3001 := le_antisymm high low
  exact .inr (.inl (by decide +kernel))

/-- A port that is published on the machine itself only is not seen, and given out again. -/
theorem not_portsAllocated : ¬ ∀ toUpperCase serviceFiles env containers,
    (serviceFiles.map fun file => portVariable toUpperCase (serviceOfFile file)).Nodup →
      PortsAllocated toUpperCase serviceFiles env containers
        (resolvePorts toUpperCase serviceFiles env
          (discoverUsedPorts (some (dockerPsOutput containers)))) := by
  intro general
  have law := general plainUpperCase ["services/api.compose.yaml"] .empty
    [[publishedOn loopback 3001]] (by decide)
  have given : resolvePorts plainUpperCase ["services/api.compose.yaml"] .empty
      (discoverUsedPorts (some (dockerPsOutput [[publishedOn loopback 3001]]))) =
        [{ service := "api", port := some 3001, explicit := false }] := by decide +kernel
  rw [given] at law
  obtain ⟨port, same, apart⟩ := law.unpublished _ List.mem_cons_self rfl
  obtain rfl := Option.some.inj same
  exact apart ⟨_, List.mem_cons_self, _, List.mem_cons_self, _, _, rfl, le_refl _, le_refl _⟩

end BitBrat
