import BitBrat.Brat.SecureFileDeployment
import BitBrat.Js.NumberText
import BitBrat.Js.Spread
import BitBrat.Js.Substitution
import BitBrat.Machine.While

/-! The ports of the machine that services are given. -/

namespace BitBrat

open Js Machine

/-- The number that a text begins with, behind blanks, if it begins with one. -/
def parseInt (text : String) : Option Int :=
  let (negative, unsigned) := signed (text.toList.dropWhile isBlank)
  let digits := unsigned.takeWhile Char.isDigit
  if digits = [] then none
  else
    let size : Int := Nat.ofDigitChars 10 digits 0
    some (if negative then -size else size)

/-- The port of a service, which is no number where the one that was asked for is none. -/
structure PortAssignment where
  service : String
  port : Option Int
  explicit : Bool
  deriving DecidableEq

def anyAddress : List Char := ['0', '.', '0', '.', '0', '.', '0']

def portDigitsAt (chars : List Char) : Option (List Char) :=
  let digits := (chars.drop 8).takeWhile Char.isDigit
  if (anyAddress ++ [':']).isPrefixOf chars ∧ digits ≠ [] then some digits else none

/-- The ports behind the address, some characters that are matched already left out. -/
def portsBehind (skip : Nat) : List Char → List Int
  | [] => []
  | char :: rest =>
    match skip with
    | left + 1 => portsBehind left rest
    | 0 =>
      match portDigitsAt (char :: rest) with
      | some digits => (Nat.ofDigitChars 10 digits 0 : Int) :: portsBehind (digits.length + 7) rest
      | none => portsBehind 0 rest

/-- The ports in use, if the containers that run can be listed. -/
def discoverUsedPorts (stdout : Option String) : List Int :=
  match stdout with
  | some text => portsBehind 0 text.toList
  | none => []

section

variable (toUpperCase : String → String)

def portVariable (service : String) : String :=
  String.ofList ((toUpperCase service).toList.flatMap fun char =>
    if char.isDigit || char.isUpper then [char] else (unitsOfChar char).map fun _ => '_') ++
      "_HOST_PORT"

def serviceOfFile (file : String) : String := replaceFirst (pathBasename file) ".compose.yaml" ""

/-- What a service is given before the free ports are given out. -/
def explicitAssignment (env : OrderedMap String Value) (file : String) : PortAssignment :=
  let service := serviceOfFile file
  match (env.get? (portVariable toUpperCase service)).getD .undefined with
  | .undefined => { service, port := some (-1), explicit := false }
  | hostPort => { service, port := parseInt hostPort.toText, explicit := true }

/-- Give each service without a port the next one that is free. -/
def assignFree (usedPorts : List Int) (nextFreePort : Int) :
    List PortAssignment → List PortAssignment
  | [] => []
  | assignment :: rest =>
    if assignment.explicit then assignment :: assignFree usedPorts nextFreePort rest
    else
      let port := firstFree usedPorts nextFreePort
      { assignment with port := some port } :: assignFree (port :: usedPorts) (port + 1) rest

def defaultStartPort : Int := 3001

def explicitPorts (assignments : List PortAssignment) : List Int :=
  (assignments.filter PortAssignment.explicit).filterMap PortAssignment.port

/-- Give each service a port: the one that it asks for, or one that is free. -/
def resolvePorts (serviceFiles : List String) (env : OrderedMap String Value)
    (usedPorts : List Int) : List PortAssignment :=
  let assignments := serviceFiles.map (explicitAssignment toUpperCase env)
  assignFree (usedPorts ++ explicitPorts assignments) defaultStartPort assignments

def portText : Option Int → String
  | some port => toString port
  | none => "NaN"

def getEnvOverrides (assignments : List PortAssignment) : OrderedMap String Value :=
  (assignments.filter (!·.explicit)).foldl (fun overrides assignment =>
    overrides.set (portVariable toUpperCase assignment.service) (.str (portText assignment.port)))
      .empty

end

/-! What is printed of the ports of containers. -/

structure PortRange where
  first : Nat
  last : Nat
  ordered : first ≤ last

def PortRange.text (range : PortRange) : String :=
  if range.first = range.last then toString range.first
  else toString range.first ++ "-" ++ toString range.last

inductive Protocol where
  | tcp
  | udp
  | sctp
  deriving DecidableEq

def Protocol.text : Protocol → String
  | tcp => "tcp"
  | udp => "udp"
  | sctp => "sctp"

/-- An address of the machine: a colon never stands behind a dot in it. -/
structure BindAddress where
  chars : List Char
  valid : ∀ front back, chars = front ++ ':' :: back → '.' ∉ front

/-- The ports of a container, with those of the machine that they are published on, if they are. -/
structure PortMapping where
  host : Option (BindAddress × PortRange) := none
  container : PortRange
  protocol : Protocol

def PortMapping.inner (mapping : PortMapping) : List Char :=
  mapping.container.text.toList ++ '/' :: mapping.protocol.text.toList

def PortMapping.chars (mapping : PortMapping) : List Char :=
  match mapping.host with
  | some (address, range) =>
    address.chars ++ ':' :: (range.text.toList ++ ['-', '>'] ++ mapping.inner)
  | none => mapping.inner

/-- The output for containers that run, one line for each. -/
def dockerPsOutput (containers : List (List PortMapping)) : String :=
  String.ofList (containers.flatMap fun mappings =>
    ", ".toList.intercalate (mappings.map PortMapping.chars) ++ ['\n'])

def Published (containers : List (List PortMapping)) (port : Int) : Prop :=
  ∃ mappings ∈ containers, ∃ mapping ∈ mappings, ∃ address range,
    mapping.host = some (address, range) ∧ (range.first : Int) ≤ port ∧ port ≤ range.last

/-- The port of a mapping that is seen: the first one, if the address ends with the one that is
looked for. -/
def PortMapping.seen (mapping : PortMapping) : Option Int :=
  match mapping.host with
  | some (address, range) =>
    if anyAddress.isSuffixOf address.chars then some range.first else none
  | none => none

def seenPorts (containers : List (List PortMapping)) : List Int :=
  containers.flatten.filterMap PortMapping.seen

theorem portsBehind_append {front rest : List Char}
    (passed : ∀ before char after, front = before ++ char :: after →
      portDigitsAt (char :: after ++ rest) = none) :
    portsBehind 0 (front ++ rest) = portsBehind 0 rest := by
  induction front with
  | nil => rfl
  | cons char front ih =>
    have here := passed [] char front rfl
    rw [List.cons_append] at here ⊢
    rw [portsBehind, here]
    exact ih fun before other after same =>
      passed (char :: before) other after (by rw [same, List.cons_append])

theorem portsBehind_skip (front rest : List Char) :
    portsBehind front.length (front ++ rest) = portsBehind 0 rest := by
  induction front with
  | nil => rfl
  | cons char front ih => exact ih

theorem portDigitsAt_eq_none {chars : List Char}
    (other : ¬ (anyAddress ++ [':']) <+: chars) : portDigitsAt chars = none := by
  have missing : ¬ (anyAddress ++ [':']).isPrefixOf chars = true :=
    fun found => other (List.isPrefixOf_iff_prefix.mp found)
  rw [portDigitsAt, if_neg fun both => missing both.1]

theorem portsBehind_dotless {front : List Char} (dotless : '.' ∉ front)
    (ends : front.getLast? ≠ some '0') (rest : List Char) :
    portsBehind 0 (front ++ rest) = portsBehind 0 rest := by
  refine portsBehind_append fun before char after same => portDigitsAt_eq_none fun found => ?_
  obtain ⟨behind, parts⟩ := found
  obtain ⟨rfl, dots⟩ := List.cons.inj parts
  cases after with
  | nil => simp [same] at ends
  | cons second after =>
    obtain ⟨rfl, -⟩ := List.cons.inj dots
    exact dotless (by simp [same])

theorem anyAddress_of_starts (address : BindAddress) {before place tail : List Char}
    (split : address.chars = before ++ place)
    (found : (anyAddress ++ [':']) <+: place ++ ':' :: tail) : place = anyAddress := by
  obtain ⟨rest, parts⟩ := found
  rw [List.append_assoc, List.singleton_append] at parts
  rcases List.append_eq_append_iff.mp parts with ⟨more, longer, behind⟩ | ⟨more, shorter, behind⟩
  · cases more with
    | nil => simpa using longer
    | cons colon more =>
      -- A dot would stand in front of a colon.
      obtain ⟨rfl, -⟩ := List.cons.inj behind
      have dotted : '.' ∈ before ++ anyAddress := List.mem_append_right _ (by decide)
      refine absurd dotted (address.valid (before ++ anyAddress) more ?_)
      rw [split, longer, List.append_assoc]
  · cases more with
    | nil => simpa using shorter.symm
    | cons colon more =>
      obtain ⟨rfl, -⟩ := List.cons.inj behind
      have inside : ':' ∈ anyAddress := by simp [shorter]
      exact absurd inside (by decide)

theorem dot_not_mem_rangeText (range : PortRange) : '.' ∉ range.text.toList := by
  unfold PortRange.text
  split
  · exact not_mem_toString (by decide) _
  · simp only [String.toList_append, List.mem_append, not_or]
    exact ⟨⟨not_mem_toString (by decide) _, by decide⟩, not_mem_toString (by decide) _⟩

theorem exists_rangeText (range : PortRange) :
    ∃ more : List Char, range.text.toList ++ ['-', '>'] =
      (toString range.first).toList ++ '-' :: more := by
  unfold PortRange.text
  split
  · exact ⟨['>'], rfl⟩
  · exact ⟨(toString range.last).toList ++ ['-', '>'], by simp⟩

theorem inner_dotless (mapping : PortMapping) :
    '.' ∉ mapping.inner ∧ ∀ front : List Char, (front ++ mapping.inner).getLast? ≠ some '0' := by
  constructor
  · rw [PortMapping.inner, List.mem_append, not_or]
    refine ⟨dot_not_mem_rangeText _, ?_⟩
    cases mapping.protocol <;> decide
  · intro front
    rw [PortMapping.inner]
    cases mapping.protocol <;> simp [Protocol.text]

theorem portsBehind_anyAddress (port : Nat) (more rest : List Char) :
    portsBehind 0 (anyAddress ++ ':' :: ((toString port).toList ++ '-' :: more ++ rest)) =
      (port : Int) :: portsBehind 0 ('-' :: more ++ rest) := by
  have digit : ∀ char ∈ (toString port).toList, char.isDigit = true :=
    fun _ => isDigit_of_mem_toString
  have nonempty : (toString port).toList ≠ [] := by simp [Nat.toDigits_ne_nil]
  have size : Nat.ofDigitChars 10 (toString port).toList 0 = port := by
    have digits : (toString port).toList = Nat.toDigits 10 port := by simp
    rw [digits, Nat.ofDigitChars_ten_toDigits]
  have matched : portDigitsAt
      (anyAddress ++ ':' :: ((toString port).toList ++ '-' :: more ++ rest)) =
        some (toString port).toList := by
    have begins : (anyAddress ++ [':']).isPrefixOf
        (anyAddress ++ ':' :: ((toString port).toList ++ '-' :: more ++ rest)) = true := by
      rw [List.isPrefixOf_iff_prefix]
      exact ⟨_, by rw [List.append_assoc, List.singleton_append]⟩
    have eight : (anyAddress ++ ':' :: ((toString port).toList ++ '-' :: more ++ rest)).drop 8 =
        (toString port).toList ++ '-' :: (more ++ rest) := by
      simp [anyAddress]
    have dash : Char.isDigit '-' = false := by decide
    unfold portDigitsAt
    dsimp only
    rw [eight, List.takeWhile_append_of_pos digit, List.takeWhile_cons_of_neg (by simp [dash]),
      List.append_nil, if_pos ⟨begins, nonempty⟩]
  have skipped := portsBehind_skip (anyAddress.tail ++ ':' :: (toString port).toList)
    ('-' :: more ++ rest)
  have whole : anyAddress ++ ':' :: ((toString port).toList ++ '-' :: more ++ rest) =
      '0' :: (anyAddress.tail ++ ':' :: (toString port).toList ++ ('-' :: more ++ rest)) := by
    simp [anyAddress]
  have long : (anyAddress.tail ++ ':' :: (toString port).toList).length =
      (toString port).toList.length + 7 := by
    simp [anyAddress]
  rw [long] at skipped
  rw [whole] at matched ⊢
  rw [portsBehind, matched]
  dsimp only
  rw [skipped, size]

theorem portsBehind_mapping (mapping : PortMapping) (rest : List Char) :
    portsBehind 0 (mapping.chars ++ rest) = mapping.seen.toList ++ portsBehind 0 rest := by
  obtain ⟨dotless, ends⟩ := inner_dotless mapping
  unfold PortMapping.chars PortMapping.seen
  match mapping.host with
  | none => exact portsBehind_dotless dotless (by simpa using ends []) rest
  | some (address, range) =>
    dsimp only
    obtain ⟨more, begins⟩ := exists_rangeText range
    have plain : '.' ∉ range.text.toList ++ ['-', '>'] ++ mapping.inner := by
      simp [dot_not_mem_rangeText, dotless]
    by_cases seen : anyAddress.isSuffixOf address.chars = true
    · rw [if_pos seen]
      obtain ⟨front, split⟩ := List.isSuffixOf_iff_suffix.mp seen
      have behind : '.' ∉ '-' :: more ++ mapping.inner := by
        intro member
        rw [begins, List.append_assoc] at plain
        exact plain (List.mem_append_right _ member)
      have passed := portsBehind_dotless behind (ends ('-' :: more)) rest
      have found := portsBehind_anyAddress range.first (more ++ mapping.inner) rest
      have whole : address.chars ++
          ':' :: (range.text.toList ++ ['-', '>'] ++ mapping.inner) ++ rest =
            front ++ (anyAddress ++ ':' :: ((toString range.first).toList ++
              '-' :: (more ++ mapping.inner) ++ rest)) := by
        rw [begins, ← split]
        simp
      rw [whole, portsBehind_append, found, ← List.cons_append, passed]
      · rfl
      · intro before char after same
        refine portDigitsAt_eq_none fun stands => ?_
        have place := @anyAddress_of_starts address before (char :: after ++ anyAddress) _
          (by rw [← split, same, List.append_assoc]) (by rwa [List.append_assoc])
        have long := congrArg List.length place
        simp at long
        omega
    · have passed := portsBehind_dotless (by simpa using plain)
        (ends (':' :: (range.text.toList ++ ['-', '>']))) rest
      rw [if_neg seen, List.append_assoc, portsBehind_append]
      · exact passed
      · intro before char after same
        refine portDigitsAt_eq_none fun found => seen ?_
        have place := anyAddress_of_starts address same found
        exact List.isSuffixOf_iff_suffix.mpr ⟨before, by rw [same, place]⟩

theorem portsBehind_mappings (mappings : List PortMapping) (rest : List Char) :
    portsBehind 0 (", ".toList.intercalate (mappings.map PortMapping.chars) ++ rest) =
      mappings.filterMap PortMapping.seen ++ portsBehind 0 rest := by
  have toList (mapping : PortMapping) :
      mapping.seen.toList = [mapping].filterMap PortMapping.seen := by
    cases seen : mapping.seen <;> simp [seen]
  induction mappings with
  | nil => rfl
  | cons mapping others ih =>
    cases others with
    | nil =>
      rw [List.map_cons, List.map_nil, List.intercalate_singleton, portsBehind_mapping, toList]
    | cons other others =>
      have comma := @portsBehind_dotless [',', ' '] (by decide) (by decide)
      rw [List.map_cons, List.map_cons, List.intercalate_cons_cons, List.append_assoc,
        List.append_assoc, portsBehind_mapping, ← List.map_cons]
      have later := comma
        (", ".toList.intercalate ((other :: others).map PortMapping.chars) ++ rest)
      rw [show ", ".toList = [',', ' '] from rfl] at later ih ⊢
      rw [later, ih, toList, ← List.append_assoc, ← List.filterMap_append, List.singleton_append]

theorem discoverUsedPorts_output (containers : List (List PortMapping)) :
    discoverUsedPorts (some (dockerPsOutput containers)) = seenPorts containers := by
  rw [discoverUsedPorts, dockerPsOutput, String.toList_ofList, seenPorts]
  induction containers with
  | nil => rfl
  | cons mappings others ih =>
    have line := @portsBehind_dotless ['\n'] (by decide) (by decide)
    rw [List.flatMap_cons, List.append_assoc, portsBehind_mappings, line, ih, List.flatten_cons,
      List.filterMap_append]

end BitBrat
