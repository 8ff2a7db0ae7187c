import BitBrat.Machine.Run
import BitBrat.Mcp.Rbac

/-! Tool calls through the gateway, where calls of one tool with the same arguments share an
execution. -/

namespace BitBrat

open Js

def splitRoles (text : String) : List Value :=
  ((text.toList.splitOnP fun char => isBlank char || char = ',').filter (· ≠ [])).map fun role =>
    .str (String.ofList role)

/-- The context of a request: what its headers say goes before what its session says, and what its
metadata says goes before both. -/
def getRequestContext (headers metadata : Value) (sessionContext : SessionContext) :
    SessionContext :=
  let fromHeaders : SessionContext :=
    { sessionContext with
      roles := if (headers.get "x-roles").truthy then splitRoles (headers.get "x-roles").toText
        else sessionContext.roles
      userId := if (headers.get "x-user-id").truthy then .str (headers.get "x-user-id").toText
        else sessionContext.userId }
  { fromHeaders with
    roles := match metadata.get "userRoles" with
      | .arr roles => roles
      | .str text => splitRoles text
      | _ => fromHeaders.roles
    userId := if (metadata.get "userId").truthy then metadata.get "userId" else fromHeaders.userId }

/-- A request for a tool, with the session that it comes through. -/
structure CallRequest where
  requestId : Nat
  sessionId : String
  sessionContext : SessionContext
  name : String
  arguments : Value
  metadata : Value := .undefined
  headers : Value := .undefined
  deriving DecidableEq

def CallRequest.context (request : CallRequest) : SessionContext :=
  getRequestContext request.headers request.metadata request.sessionContext

def CallRequest.dedupKey (stringify : Value → String) (request : CallRequest) : String :=
  -- Neither the session nor its roles are part of the key.
  request.name ++ ":" ++ stringify (request.arguments.or (.obj []))

/-- An execution of a tool, with the context that the tool is given. -/
structure ToolExecution where
  number : Nat
  dedupKey : String
  tool : BitBratTool
  arguments : Value
  sessionId : String
  userRoles : List Value
  userId : Value
  agentName : Option String
  deriving DecidableEq

inductive CallOutcome where
  | error (message : String)
  | result (text : String) (execution : ToolExecution)
  deriving DecidableEq

structure CallAnswer where
  request : CallRequest
  allowed : Bool
  outcome : CallOutcome
  deriving DecidableEq

structure PendingCall where
  request : CallRequest
  allowed : Bool
  execution : ToolExecution
  deriving DecidableEq

structure GatewaySystem where
  clock : Nat := 0
  tools : OrderedMap String BitBratTool
  serverConfigs : OrderedMap String McpServerConfig
  inFlightRequests : OrderedMap String ToolExecution := .empty
  completedRequests : OrderedMap String Nat := .empty
  running : List ToolExecution := []
  nextExecution : Nat := 0
  pending : List PendingCall := []
  answers : List CallAnswer := []

inductive GatewayInput where
  | elapse (duration : Nat)
  | registered (tools : OrderedMap String BitBratTool)
      (serverConfigs : OrderedMap String McpServerConfig)
  | callTool (request : CallRequest)
  | executed (number : Nat) (result : Except String Value)
  | cleanup

namespace GatewaySystem

def allows (system : GatewaySystem) (request : CallRequest) : Bool :=
  match system.tools.get? request.name with
  | none => false
  | some tool => isAllowedTool tool (tool.originServer.bind system.serverConfigs.get?)
      request.context

def callTool (stringify : Value → String) (system : GatewaySystem) (request : CallRequest) :
    GatewaySystem :=
  let dedupKey := request.dedupKey stringify
  let allowed := system.allows request
  match system.inFlightRequests.get? dedupKey with
  -- This request is already being executed.
  | some execution =>
    { system with pending := system.pending ++ [{ request, allowed, execution }] }
  | none =>
    match system.tools.get? request.name with
    | none => { system with answers := system.answers ++
        [{ request, allowed, outcome := .error ("Tool not found: " ++ request.name) }] }
    | some tool =>
      if ¬ isAllowedTool tool (tool.originServer.bind system.serverConfigs.get?)
          request.context then
        { system with answers := system.answers ++
          [{ request, allowed, outcome := .error "Forbidden" }] }
      else
        -- The tool runs in the context of the first request that has the key.
        let execution : ToolExecution :=
          { number := system.nextExecution, dedupKey, tool
            arguments := request.arguments.or (.obj [])
            sessionId := request.sessionId
            userRoles := request.context.roles
            userId := request.context.userId
            agentName := request.context.agentName }
        { system with
          inFlightRequests := system.inFlightRequests.set dedupKey execution
          running := system.running ++ [execution]
          nextExecution := system.nextExecution + 1
          pending := system.pending ++ [{ request, allowed, execution }] }

def answer (stringify : Value → String) (result : Except String Value) (call : PendingCall) :
    CallAnswer where
  request := call.request
  allowed := call.allowed
  outcome := match result with
    | .error message => .error message
    | .ok (.str text) => .result text call.execution
    | .ok value => .result (stringify value) call.execution

/-- An execution comes back, and every request that waits for it is answered. -/
def executed (stringify : Value → String) (system : GatewaySystem) (number : Nat)
    (result : Except String Value) : GatewaySystem :=
  match system.running.find? (·.number = number) with
  | none => system
  | some execution =>
    { system with
      -- The entry goes at once, whether the execution succeeded or not.
      inFlightRequests := system.inFlightRequests.erase execution.dedupKey
      completedRequests := system.completedRequests.set execution.dedupKey system.clock
      running := system.running.filter (·.number ≠ number)
      pending := system.pending.filter (·.execution.number ≠ number)
      answers := system.answers ++
        (system.pending.filter (·.execution.number = number)).map (answer stringify result) }

def cleanup (system : GatewaySystem) : GatewaySystem :=
  let expired (key : String) : Bool :=
    (system.completedRequests.get? key).any fun completedAt => 60000 < system.clock - completedAt
  { system with
    inFlightRequests := system.inFlightRequests.filter fun entry => !expired entry.1
    completedRequests := system.completedRequests.filter fun entry => !expired entry.1 }

def step (stringify : Value → String) (system : GatewaySystem) : GatewayInput → GatewaySystem
  | .elapse duration => { system with clock := system.clock + duration }
  | .registered tools serverConfigs => { system with tools, serverConfigs }
  | .callTool request => system.callTool stringify request
  | .executed number result => system.executed stringify number result
  | .cleanup => system.cleanup

end GatewaySystem

/-! Who receives the result of a tool, and whether requests that are turned away are noticed. -/

open Js Machine

def ToolExecution.CarriedFor (execution : ToolExecution) (request : CallRequest) : Prop :=
  execution.userId = request.context.userId ∧ execution.userRoles = request.context.roles

instance (execution : ToolExecution) (request : CallRequest) :
    Decidable (execution.CarriedFor request) :=
  inferInstanceAs (Decidable (_ ∧ _))

/-- A result goes to a request that was allowed, from an execution in its own name. -/
def CallAnswer.Rightful (answer : CallAnswer) : Prop :=
  match answer.outcome with
  | .error _ => True
  | .result _ execution => answer.allowed = true ∧ execution.CarriedFor answer.request

instance (answer : CallAnswer) : Decidable answer.Rightful := by
  unfold CallAnswer.Rightful
  split <;> infer_instance

/-- A request that finds its execution under way is allowed, and is of the user and with the roles
that the execution was given. -/
def JoinsOwn (stringify : Value → String) (system : GatewaySystem) : GatewayInput → Prop
  | .callTool request =>
    ∀ execution ∈ system.inFlightRequests.get? (request.dedupKey stringify),
      system.allows request = true ∧ execution.CarriedFor request
  | _ => True

instance (stringify : Value → String) :
    ∀ system input, Decidable (JoinsOwn stringify system input)
  | system, .callTool request => inferInstanceAs (Decidable
      (∀ execution ∈ system.inFlightRequests.get? (request.dedupKey stringify),
        system.allows request = true ∧ execution.CarriedFor request))
  | _, .elapse _ => inferInstanceAs (Decidable True)
  | _, .registered _ _ => inferInstanceAs (Decidable True)
  | _, .executed _ _ => inferInstanceAs (Decidable True)
  | _, .cleanup => inferInstanceAs (Decidable True)

/-- The gateway if the requests that the access rules turn away never came. -/
def GatewaySystem.stepAllowed (stringify : Value → String) (system : GatewaySystem) :
    GatewayInput → GatewaySystem
  | .callTool request =>
    if system.allows request then system.callTool stringify request else system
  | input => system.step stringify input

structure AnswersOwn (system : GatewaySystem) : Prop where
  pending : ∀ call ∈ system.pending, call.allowed = true ∧ call.execution.CarriedFor call.request
  answers : ∀ answer ∈ system.answers, answer.Rightful

/-- The gateway without the requests that were turned away differs in their answers alone. -/
structure Unnoticed (system quiet : GatewaySystem) : Prop where
  own : AnswersOwn system
  same : quiet = { system with answers := system.answers.filter (·.allowed) }

section

variable {stringify : Value → String} {system : GatewaySystem}

private theorem AnswersOwn.callTool (own : AnswersOwn system) (request : CallRequest)
    (joins : JoinsOwn stringify system (.callTool request)) :
    AnswersOwn (system.callTool stringify request) := by
  -- A request that joins nothing is checked, and its execution carries its own context.
  unfold GatewaySystem.callTool
  simp only
  cases shared : system.inFlightRequests.get? (request.dedupKey stringify) with
  | some execution =>
    -- The request waits for an execution that is its own.
    refine ⟨fun call member => ?_, own.answers⟩
    rcases List.mem_append.mp member with before | new
    · exact own.pending call before
    · rw [List.mem_singleton.mp new]
      exact joins execution shared
  | none =>
    -- A refusal is an error, and carries no result.
    have refused : ∀ message, AnswersOwn { system with answers := system.answers ++
        [{ request, allowed := system.allows request, outcome := .error message }] } := by
      intro message
      refine ⟨own.pending, fun answer member => ?_⟩
      rcases List.mem_append.mp member with before | new
      · exact own.answers answer before
      · rw [List.mem_singleton.mp new]
        trivial
    cases found : system.tools.get? request.name with
    | none => exact refused _
    | some tool =>
      simp only
      split
      · exact refused _
      · rename_i allowed
        -- The execution that begins is given the context of the request.
        refine ⟨fun call member => ?_, own.answers⟩
        rcases List.mem_append.mp member with before | new
        · exact own.pending call before
        · rw [List.mem_singleton.mp new]
          refine ⟨?_, rfl, rfl⟩
          simpa [GatewaySystem.allows, found] using allowed

theorem AnswersOwn.executed (own : AnswersOwn system) (number : Nat)
    (result : Except String Value) : AnswersOwn (system.executed stringify number result) := by
  unfold GatewaySystem.executed
  split
  · exact own
  · refine ⟨fun call member => own.pending call (List.mem_of_mem_filter member),
      fun answer member => ?_⟩
    rcases List.mem_append.mp member with before | new
    · exact own.answers answer before
    · obtain ⟨call, waited, rfl⟩ := List.mem_map.mp new
      obtain ⟨allowed, carried⟩ := own.pending call (List.mem_of_mem_filter waited)
      -- Whatever the text is, the execution is the one waited for.
      cases result with
      | error message => trivial
      | ok value => cases value <;> exact ⟨allowed, carried⟩

theorem AnswersOwn.step (own : AnswersOwn system) (input : GatewayInput)
    (joins : JoinsOwn stringify system input) : AnswersOwn (system.step stringify input) := by
  cases input with
  | elapse duration => exact ⟨own.pending, own.answers⟩
  | registered tools serverConfigs => exact ⟨own.pending, own.answers⟩
  | callTool request => exact own.callTool request joins
  | executed number result => exact own.executed number result
  | cleanup => exact ⟨own.pending, own.answers⟩

/-- The gateway without the answers of the requests that were turned away. -/
def GatewaySystem.quiet (system : GatewaySystem) : GatewaySystem :=
  { system with answers := system.answers.filter (·.allowed) }

theorem quiet_callTool_of_allowed {request : CallRequest}
    (allowed : system.allows request = true) :
    system.quiet.callTool stringify request = (system.callTool stringify request).quiet := by
  -- Nothing that decides on the request depends on the answers given so far.
  unfold GatewaySystem.callTool GatewaySystem.quiet
  simp only
  cases system.inFlightRequests.get? (request.dedupKey stringify) with
  | some execution => rfl
  | none =>
    cases found : system.tools.get? request.name with
    | none => simp [GatewaySystem.allows, found] at allowed
    | some tool =>
      have permitted : isAllowedTool tool (tool.originServer.bind system.serverConfigs.get?)
          request.context = true := by
        simpa [GatewaySystem.allows, found] using allowed
      simp only [permitted, not_true_eq_false, ↓reduceIte]
      rfl

theorem quiet_callTool_of_turned_away {request : CallRequest}
    (turned_away : system.allows request = false)
    (alone : system.inFlightRequests.get? (request.dedupKey stringify) = none) :
    (system.callTool stringify request).quiet = system.quiet := by
  -- Without an execution to join, the handler gets to the check and refuses.
  have dropped : ∀ message, (system.answers ++
      [({ request, allowed := system.allows request, outcome := .error message } :
        CallAnswer)]).filter (·.allowed) = system.answers.filter (·.allowed) := by
    intro message
    simp [List.filter_append, turned_away]
  unfold GatewaySystem.callTool GatewaySystem.quiet
  simp only [alone]
  cases found : system.tools.get? request.name with
  | none => simp only [dropped]
  | some tool =>
    have forbidden : isAllowedTool tool (tool.originServer.bind system.serverConfigs.get?)
        request.context = false := by
      simpa [GatewaySystem.allows, found] using turned_away
    simp only [forbidden, Bool.false_eq_true, not_false_eq_true, ↓reduceIte, dropped]

private theorem AnswersOwn.quiet_executed (own : AnswersOwn system) (number : Nat)
    (result : Except String Value) :
    system.quiet.executed stringify number result =
      (system.executed stringify number result).quiet := by
  unfold GatewaySystem.executed GatewaySystem.quiet
  simp only
  cases system.running.find? (·.number = number) with
  | none => rfl
  | some execution =>
    -- Everyone who waits was allowed.
    have kept : ((system.pending.filter (·.execution.number = number)).map
        (GatewaySystem.answer stringify result)).filter (·.allowed) =
        (system.pending.filter (·.execution.number = number)).map
          (GatewaySystem.answer stringify result) := by
      refine List.filter_eq_self.mpr fun answer member => ?_
      obtain ⟨call, waited, rfl⟩ := List.mem_map.mp member
      exact (own.pending call (List.mem_of_mem_filter waited)).1
    simp only [List.filter_append, kept]

theorem Unnoticed.step {quiet : GatewaySystem} (unnoticed : Unnoticed system quiet)
    (input : GatewayInput) (joins : JoinsOwn stringify system input) :
    Unnoticed (system.step stringify input) (quiet.stepAllowed stringify input) := by
  obtain ⟨own, rfl⟩ := unnoticed
  refine ⟨own.step input joins, ?_⟩
  cases input with
  | elapse duration => rfl
  | registered tools serverConfigs => rfl
  | cleanup => rfl
  | executed number result => exact own.quiet_executed number result
  | callTool request =>
    change (if system.allows request then system.quiet.callTool stringify request
      else system.quiet) = (system.callTool stringify request).quiet
    by_cases allowed : system.allows request = true
    · rw [if_pos allowed]
      exact quiet_callTool_of_allowed allowed
    · rw [if_neg allowed]
      -- What is under way under its key would be for an allowed request.
      have alone : system.inFlightRequests.get? (request.dedupKey stringify) = none := by
        cases shared : system.inFlightRequests.get? (request.dedupKey stringify) with
        | none => rfl
        | some execution => exact absurd (joins execution shared).1 allowed
      exact (quiet_callTool_of_turned_away (by simpa using allowed) alone).symm

end

def GatewaySystem.start (tools : OrderedMap String BitBratTool)
    (serverConfigs : OrderedMap String McpServerConfig) : GatewaySystem :=
  { tools, serverConfigs }

/-- Where requests join only executions that are their own, every result goes to a request that
was allowed, from an execution in its own name; and requests that are turned away are not
noticed by the others. -/
theorem answers_rightful_and_unnoticed (stringify : Value → String)
    (tools : OrderedMap String BitBratTool) (serverConfigs : OrderedMap String McpServerConfig)
    (inputs : List GatewayInput)
    (joins : Along (GatewaySystem.step stringify) (JoinsOwn stringify)
      (.start tools serverConfigs) inputs) :
    (∀ answer ∈ (run (GatewaySystem.step stringify) (.start tools serverConfigs) inputs).answers,
      answer.Rightful) ∧
    (run (GatewaySystem.step stringify) (.start tools serverConfigs) inputs).answers.filter
        (·.allowed) =
      (run (GatewaySystem.stepAllowed stringify) (.start tools serverConfigs) inputs).answers := by
  have initial : Unnoticed (.start tools serverConfigs) (.start tools serverConfigs) :=
    ⟨⟨by simp [GatewaySystem.start], by simp [GatewaySystem.start]⟩, rfl⟩
  -- The two gateways take every input together.
  have together : Unnoticed
      (run (GatewaySystem.step stringify) (.start tools serverConfigs) inputs)
      (run (GatewaySystem.stepAllowed stringify) (.start tools serverConfigs) inputs) :=
    run_simulation (fun _ _ input holds joins => holds.step input joins) initial joins
  refine ⟨together.own.answers, ?_⟩
  rw [together.same]

def vaultTool : BitBratTool := { id := "mcp:vault.read", requiredRoles := some ["admin"] }

def vaultRequest (requestId : Nat) (user role : String) : CallRequest where
  requestId
  sessionId := "llm-bot-1"
  sessionContext := { agentName := some "llm-bot" }
  name := "mcp:vault.read"
  arguments := .obj [("key", .str "token")]
  metadata := .obj [("userId", .str user), ("userRoles", .arr [.str role])]

/-- A request that is repeated shares its execution, and one without the role is turned away. -/
theorem answers_rightful_repeated :
    let inputs : List GatewayInput := [.callTool (vaultRequest 1 "alice" "admin"),
      .callTool (vaultRequest 2 "alice" "admin"), .executed 0 (.ok (.str "hunter2")),
      .callTool (vaultRequest 3 "mallory" "viewer")]
    let system := run (GatewaySystem.step stringifyTexts)
      (.start (OrderedMap.empty.set "mcp:vault.read" vaultTool) .empty) inputs
    (∀ answer ∈ system.answers, answer.Rightful) ∧
      system.answers.filter (·.allowed) = (run (GatewaySystem.stepAllowed stringifyTexts)
        (.start (OrderedMap.empty.set "mcp:vault.read" vaultTool) .empty) inputs).answers :=
  answers_rightful_and_unnoticed _ _ _ _ (by decide +kernel)

/-- A user without the role receives the result of an execution that is under way for another. -/
theorem joined_execution_leaks :
    ¬ ∀ (stringify : Value → String) (tools : OrderedMap String BitBratTool)
      (serverConfigs : OrderedMap String McpServerConfig) (inputs : List GatewayInput),
      (∀ answer ∈ (run (GatewaySystem.step stringify) (.start tools serverConfigs)
        inputs).answers, answer.Rightful) ∧
      (run (GatewaySystem.step stringify) (.start tools serverConfigs) inputs).answers.filter
          (·.allowed) =
        (run (GatewaySystem.stepAllowed stringify) (.start tools serverConfigs)
          inputs).answers := by
  intro claim
  have rightful := (claim stringifyTexts (OrderedMap.empty.set "mcp:vault.read" vaultTool) .empty
    [.callTool (vaultRequest 1 "alice" "admin"), .callTool (vaultRequest 2 "mallory" "viewer"),
      .executed 0 (.ok (.str "hunter2"))]).1
  -- The second answer is a result, and its request was not allowed.
  revert rightful
  decide +kernel

end BitBrat
