import SecurityScan.Backend.Manager
import SecurityScan.Proofs.Attempt
import SecurityScan.Proofs.Recording

/-!
# The connection of a manager

A manager is connected by what opens a client and by nothing else, and then its client, its provider
and its model are replaced together. So whatever is done with a manager, they are those of the last
client that was opened.
-/

namespace SecurityScan

open Backend

/-- What a manager asks, by which name it goes and which model it asks for. -/
structure Connection where
  client : Client
  provider : String
  model : String

namespace Manager

def connection? (m : Manager) : Option Connection := do
  return ⟨← m.client, ← m.provider, ← m.model⟩

/-- The manager with a connection in the place of its own, or with none. -/
def connected (m : Manager) (c : Option Connection) : Manager where
  config := m.config
  client := c.map (·.client)
  provider := c.map (·.provider)
  model := c.map (·.model)

@[simp] theorem connection?_connected (m : Manager) (c : Option Connection) :
    (m.connected c).connection? = c := by
  cases c <;> rfl

@[simp] theorem connected_connected (m : Manager) (c d : Option Connection) :
    (m.connected c).connected d = m.connected d := rfl

@[simp] theorem config_connected (m : Manager) (c : Option Connection) :
    (m.connected c).config = m.config := rfl

theorem isReady_connected (m : Manager) (c : Option Connection) :
    (m.connected c).isReady = c.isSome := by
  cases c <;> rfl

end Manager

/-! ## Clients -/

/-- The form in which a client is asked for answers. -/
def Client.form : Client → AnswerForm
  | .anthropic _ => .tool
  | .openai _ => .schemaText
  | .ollama _ => .objectText

/-- A client that is opened for a provider with what is configured for it. -/
inductive Client.IsFor (config : Config) : String → Client → Prop
  | anthropic : config.anthropicKey.holds = true →
    IsFor config "anthropic" (.anthropic config.anthropicKey)
  | openai : config.openaiKey.holds = true → IsFor config "openai" (.openai config.openaiKey)
  | ollama {address : String} :
    Manager.withoutSlashes (config.ollamaEndpoint.orElse (.str Manager.usualAddress)) = .ok address →
    IsFor config "ollama" (.ollama (address ++ "/v1"))

namespace Connection

/-- A connection by what is configured: the provider's client, and the configured model or else the
usual one of the provider. -/
structure IsFor (config : Config) (c : Connection) : Prop where
  client : c.client.IsFor config c.provider
  model : c.model = if config.model ≠ "" ∧ config.model ≠ "auto" then config.model
    else Manager.usualModel c.provider

def request (config : Config) (c : Connection) (prompt : String) (schema : Value) : Request :=
  ⟨c.client, c.client.form, some c.model, config.maxTokens, prompt, schema, config.requestTimeout⟩

end Connection

namespace Manager

section
variable {m : Manager} {link : Link} {provider : String}

theorem value_after_note {α : Type} (quiet : Bool) (text : String) (f : Fault) :
    ((if quiet then Attempt.note .error text else pure ()) >>= fun _ => throw f :
      Attempt α).run.value = .error f := by
  rw [Attempt.value_bind]
  cases quiet <;> rfl

theorem value_withPackage {α : Type} (link : Link) (p : Package) (step : Attempt α) :
    (withPackage link p step).run.value =
      if link.isMissing p then .error (missingPackage p) else step.run.value := by
  unfold withPackage
  by_cases hmissing : link.isMissing p = true
  · rw [if_pos hmissing, if_pos hmissing, value_after_note]
  · rw [if_neg hmissing, if_neg hmissing]
    have hcaught : ∀ handler : Fault → Attempt α, (∀ f, (handler f).run.value = .error f) →
        (tryCatch step handler).run.value = step.run.value := by
      intro handler hhandler
      show (ExceptT.run (ExceptT.tryCatch step handler)).value = _
      rw [ExceptT.tryCatch, ExceptT.run_mk, Noted.value_bind]
      cases hstep : step.run.value with
      | ok a =>
        have hmatch : Noted.value step = .ok a := hstep
        rw [hmatch]
        rfl
      | error f =>
        have hmatch : Noted.value step = .error f := hstep
        rw [hmatch]
        exact hhandler f
    exact hcaught _ fun f => value_after_note _ _ f

theorem value_opened {c d : Client} (h : (opened link c).run.value = .ok d) : c = d := by
  unfold opened at h
  split at h <;> cases h
  rfl

theorem holds_of_keyOrFault {key key' : Value} {name : String} (h : keyOrFault key name = .ok key') :
    key = key' ∧ key.holds = true := by
  unfold keyOrFault at h
  split at h
  · next hholds => exact ⟨Except.ok.inj h, hholds⟩
  · cases h

/-- A client is opened after what it needs has been found. -/
theorem exists_of_withPackage {α : Type} {p : Package} {x : Except Fault α} {text : α → String}
    {client : α → Client} {c : Client}
    (h : (withPackage link p do
      let a ← Attempt.ofExcept x
      Attempt.note .info (text a)
      opened link (client a)).run.value = .ok c) : ∃ a, x = .ok a ∧ c = client a := by
  rw [value_withPackage] at h
  split at h
  · cases h
  · rw [Attempt.value_bind] at h
    cases x with
    | error f => cases h
    | ok a => exact ⟨a, rfl, (value_opened h).symm⟩

theorem isFor_clientFor {c : Client} (h : (m.clientFor link provider).run.value = .ok c) :
    c.IsFor m.config provider := by
  unfold clientFor at h
  split at h
  · obtain ⟨key, hkey, rfl⟩ := exists_of_withPackage h
    obtain ⟨rfl, hholds⟩ := holds_of_keyOrFault hkey
    exact .anthropic hholds
  · obtain ⟨key, hkey, rfl⟩ := exists_of_withPackage h
    obtain ⟨rfl, hholds⟩ := holds_of_keyOrFault hkey
    exact .openai hholds
  · obtain ⟨address, haddress, rfl⟩ := exists_of_withPackage h
    exact .ollama haddress
  · rw [Attempt.value_bind] at h
    cases h

theorem modelFor_some (m : Manager) (provider : String) : m.modelFor (some provider) =
    if m.config.model ≠ "" ∧ m.config.model ≠ "auto" then m.config.model
    else usualModel provider := by
  simp [modelFor]

/-- A connection that is opened for a provider; none when that fails. -/
def opening? (m : Manager) (link : Link) (provider : String) : Option Connection :=
  match (m.clientFor link provider).run.value with
  | .ok client => some ⟨client, provider, m.modelFor (some provider)⟩
  | .error _ => none

theorem value_connect : (m.connect link provider).value =
    match m.opening? link provider with
    | some c => (true, m.connected (some c))
    | none => (false, m) := by
  rw [connect, Noted.value_bind, opening?]
  cases (m.clientFor link provider).run.value <;> rfl

theorem isFor_opening? {c : Connection} (h : m.opening? link provider = some c) :
    c.IsFor m.config := by
  unfold opening? at h
  split at h
  · next client hclient =>
    cases h
    exact ⟨isFor_clientFor hclient, modelFor_some m provider⟩
  · cases h

end

/-- The connection that opening a client leaves in a manager which had none. -/
def initialConnection? (config : Config) (link : Link) (provider : Option String) :
    Option Connection :=
  ((ofConfig config).initialized link provider).value.2.connection?

section
variable (m : Manager) (link : Link) (provider : Option String)

theorem value_initialized_connect : (m.initialized link provider).value =
    match provider.or m.detect.value with
    | some p => (m.connect link p).value
    | none => (false, m) := by
  unfold initialized
  cases provider with
  | some p => rfl
  | none =>
    rw [Noted.value_bind, Option.none_or]
    cases m.detect.value <;> rfl

theorem value_initialized_chosen : (m.initialized link provider).value =
    match (provider.or m.detect.value).bind (m.opening? link) with
    | some c => (true, m.connected (some c))
    | none => (false, m) := by
  rw [value_initialized_connect]
  cases provider.or m.detect.value with
  | none => rfl
  | some p => exact value_connect

theorem initialConnection?_eq : initialConnection? m.config link provider =
    (provider.or m.detect.value).bind (m.opening? link) := by
  have hchosen := value_initialized_chosen (ofConfig m.config) link provider
  have hsame : (ofConfig m.config).opening? link = m.opening? link := rfl
  have hdetect : (ofConfig m.config).detect.value = m.detect.value := rfl
  rw [hsame, hdetect] at hchosen
  rw [initialConnection?, hchosen]
  cases (provider.or m.detect.value).bind (m.opening? link) with
  | none => rfl
  | some c => exact connection?_connected _ _

/-- Opening a client replaces the connection by the one that a manager without any would get, and
changes nothing when there is none to be had. -/
theorem value_initialized : (m.initialized link provider).value =
    match initialConnection? m.config link provider with
    | some c => (true, m.connected (some c))
    | none => (false, m) := by
  rw [initialConnection?_eq, value_initialized_chosen]

end

theorem isFor_initialConnection? {config : Config} {link : Link} {provider : Option String}
    {c : Connection} (h : initialConnection? config link provider = some c) : c.IsFor config := by
  rw [← show (ofConfig config).config = config from rfl, initialConnection?_eq,
    Option.bind_eq_some_iff] at h
  obtain ⟨p, -, hp⟩ := h
  exact isFor_opening? hp

/-! ## Requests -/

section
variable {m : Manager} {c : Connection}

theorem request_connected (h : c.IsFor m.config) (prompt : String) (schema : Value) :
    (m.connected (some c)).request prompt schema = .ok (c.request m.config prompt schema) := by
  obtain ⟨client, provider, model⟩ := c
  cases h.client <;> rfl

end

section
variable {σ : Type} (m : Manager) (send : Request → Session σ Sent) (prompt : String) (schema : Value)

/-- A call sends the request for its prompt, if there is one, and nothing else. -/
theorem call_writes : Session.Writes (m.call (Session.recorded send) prompt schema)
    fun _ es => es.map (·.1) = (m.request prompt schema).toOption.toList := by
  unfold call
  cases m.request prompt schema with
  | error f => exact (Session.writes_nothing_pure _).imp fun _ _ h => by rw [h]; rfl
  | ok r =>
    have hsent : Session.Writes (Session.recorded send r) fun _ es => es.map (·.1) = [r] :=
      (Session.writes_recorded send r).imp fun _ _ h => by rw [h]; rfl
    refine hsent.before fun sent => ?_
    cases sent <;> exact Session.writes_nothing_pure _

theorem analyze_writes : Session.Writes (m.analyze (Session.recorded send) prompt schema)
    fun _ es => es.map (·.1) = (m.request prompt schema).toOption.toList := by
  unfold analyze
  refine (m.call_writes send prompt schema).before fun r => ?_
  cases r with
  | error f =>
    exact (Session.writes_nothing_ofNoted _).before fun _ => Session.writes_nothing_pure _
  | ok raw =>
    refine (Session.writes_nothing_ofNoted _).before fun reply => ?_
    cases reply <;> exact Session.writes_nothing_pure _

end

end Manager

/-! ## Operations -/

namespace Manager

/-- What may be asked of a manager, opening a client with what the packages and the client do then. -/
inductive Operation
  | detect
  | connect (link : Link) (provider : Option String)
  | modelName (provider : Option String)
  | call (prompt : String) (schema : Value)
  | analyze (prompt : String) (schema : Value)

inductive Outcome
  | detected (provider : Option String)
  | connected (success : Bool)
  | named (model : String)
  | answered (result : Except Fault Value)

namespace Operation

def connection? (config : Config) : Operation → Option Connection
  | .connect link provider => initialConnection? config link provider
  | _ => none

/-- The prompt and the schema of an operation that asks. -/
def question? : Operation → Option (String × Value)
  | .call prompt schema | .analyze prompt schema => some (prompt, schema)
  | _ => none

def run {σ : Type} (send : Request → Session σ Sent) (m : Manager) :
    Operation → Session σ (Outcome × Manager)
  | .detect => do return (.detected (← Session.ofNoted m.detect), m)
  | .connect link provider => do
    let (success, m') ← Session.ofNoted (m.initialized link provider)
    return (.connected success, m')
  | .modelName provider => return (.named (m.modelFor provider), m)
  | .call prompt schema => do return (.answered (← m.call send prompt schema), m)
  | .analyze prompt schema => do return (.answered (← m.analyze send prompt schema), m)

/-- Operations one after the other, each with the manager that the one before leaves. -/
def runAll {σ : Type} (send : Request → Session σ Sent) :
    Manager → List Operation → Session σ (List Outcome × Manager)
  | m, [] => return ([], m)
  | m, op :: ops => do
    let (outcome, m') ← op.run send m
    let (outcomes, final) ← runAll send m' ops
    return (outcome :: outcomes, final)

/-! ## Steps and runs -/

section
variable {σ : Type} (send : Request → Session σ Sent) (m : Manager)

/-- What one operation does: it puts the connection that it opens, if any, in the place of the one
that there is, and comes back as a success exactly when it opens one. -/
theorem value_run (op : Operation) (w : σ) :
    (op.run send m w).value.1.2 =
        (match op.connection? m.config with
          | some c => m.connected (some c)
          | none => m) ∧
      ((op.run send m w).value.1.1 = .connected true ↔ (op.connection? m.config).isSome) := by
  cases op with
  | connect link provider =>
    have hrun : (run send m (.connect link provider) w).value.1 =
        (.connected (m.initialized link provider).value.1,
          (m.initialized link provider).value.2) := rfl
    rw [hrun, value_initialized, connection?]
    cases initialConnection? m.config link provider <;> simp
  | _ => exact ⟨rfl, iff_of_false (fun h => Outcome.noConfusion h) Bool.false_ne_true⟩

/-- The connections that operations open, in order. -/
def connections (config : Config) (ops : List Operation) : List Connection :=
  ops.filterMap (connection? config)

theorem connections_cons (config : Config) (op : Operation) (ops : List Operation) :
    connections config (op :: ops) = (op.connection? config).toList ++ connections config ops := by
  rw [connections, List.filterMap_cons]
  cases op.connection? config <;> rfl

theorem value_runAll (ops : List Operation) (w : σ) :
    (runAll send m ops w).value.1.2 =
        (match (connections m.config ops).getLast? with
          | some c => m.connected (some c)
          | none => m) ∧
      (.connected true ∈ (runAll send m ops w).value.1.1 ↔ connections m.config ops ≠ []) := by
  induction ops generalizing m w with
  | nil => exact ⟨rfl, iff_of_false (List.not_mem_nil) (fun h => h rfl)⟩
  | cons op ops ih =>
    have hrun : (runAll send m (op :: ops) w).value.1 =
        ((op.run send m w).value.1.1 ::
            (runAll send (op.run send m w).value.1.2 ops (op.run send m w).value.2).value.1.1,
          (runAll send (op.run send m w).value.1.2 ops (op.run send m w).value.2).value.1.2) := rfl
    obtain ⟨hstep, hsuccess⟩ := value_run send m op w
    obtain ⟨hfinal, hlater⟩ := ih (op.run send m w).value.1.2 (op.run send m w).value.2
    rw [hrun, List.mem_cons, hlater, eq_comm (a := Outcome.connected true), hsuccess, hfinal,
      connections_cons, hstep]
    -- a connection of this operation stays unless a later one takes its place
    cases op.connection? m.config with
    | none => simp
    | some c =>
      rw [List.getLast?_append]
      cases hlast : (connections m.config ops).getLast? <;> simp [hlast]

theorem run_writes (op : Operation) : Session.Writes (op.run (Session.recorded send) m) fun _ es =>
    es.map (·.1) = (op.question?.bind fun q => (m.request q.1 q.2).toOption).toList := by
  have hquiet : ∀ {x : Session (σ × List (Request × Sent)) (Outcome × Manager)},
      Session.Writes x (fun _ es => es = []) → Session.Writes x fun _ es => es.map (·.1) = [] :=
    fun hx => hx.imp fun _ _ h => by rw [h]; rfl
  cases op with
  | detect =>
    exact hquiet ((Session.writes_nothing_ofNoted _).before fun _ => Session.writes_nothing_pure _)
  | connect link provider =>
    exact hquiet ((Session.writes_nothing_ofNoted _).before fun _ => Session.writes_nothing_pure _)
  | modelName provider => exact hquiet (Session.writes_nothing_pure _)
  | call prompt schema =>
    exact (m.call_writes send prompt schema).before fun _ => Session.writes_nothing_pure _
  | analyze prompt schema =>
    exact (m.analyze_writes send prompt schema).before fun _ => Session.writes_nothing_pure _

end

end Operation

/-- A manager on which operations have been carried out since it was new. -/
def Reached (config : Config) (m : Manager) : Prop :=
  ∃ (σ : Type) (send : Request → Session σ Sent) (ops : List Operation) (w : σ),
    (Operation.runAll send (ofConfig config) ops w).value.1.2 = m

section
variable {config : Config}

theorem isFor_connections {ops : List Operation} :
    ∀ c ∈ (Operation.connections config ops).getLast?, c.IsFor config := by
  intro c hc
  obtain ⟨op, -, hop⟩ := List.mem_filterMap.mp (List.mem_of_getLast? hc)
  cases op with
  | connect link provider => exact isFor_initialConnection? hop
  | _ => cases hop

theorem final_runAll {σ : Type} (send : Request → Session σ Sent) (ops : List Operation) (w : σ) :
    (Operation.runAll send (ofConfig config) ops w).value.1.2 =
      (ofConfig config).connected (Operation.connections config ops).getLast? := by
  rw [(Operation.value_runAll send (ofConfig config) ops w).1]
  show (match (Operation.connections config ops).getLast? with | some c => _ | none => _) = _
  cases (Operation.connections config ops).getLast? <;> rfl

/-- A manager that is ready has a request for every question. -/
theorem Reached.exists_request {m : Manager} (h : m.Reached config) (hready : m.isReady = true)
    (prompt : String) (schema : Value) : ∃ r, m.request prompt schema = .ok r := by
  obtain ⟨σ, send, ops, w, rfl⟩ := h
  rw [final_runAll] at hready ⊢
  cases hlast : (Operation.connections config ops).getLast? with
  | none =>
    rw [hlast] at hready
    cases hready
  | some c =>
    have hfor : c.IsFor (ofConfig config).config := isFor_connections c hlast
    exact ⟨_, request_connected hfor prompt schema⟩

end

open Operation in
/-- **A manager has the connection that was opened last, whole.** Whatever is done with a new manager,
its client, provider and model are together those of the last client that was opened, it is ready when
there is one, and the client and the model are right for the provider. Failing to open another one
changes nothing. A ready manager sends one request for each question, over its connection; one that is
not ready sends none, and no other operation sends any. -/
theorem runAll_last_connection {σ : Type} (config : Config) (send : Request → Session σ Sent)
    (ops : List Operation) (w : σ) :
    let m := (runAll send (ofConfig config) ops w).value.1.2
    let last := (connections config ops).getLast?
    m = (ofConfig config).connected last ∧
      (m.isReady = true ↔ .connected true ∈ (runAll send (ofConfig config) ops w).value.1.1) ∧
      (∀ c ∈ last, c.IsFor config) ∧
      (∀ link provider, (m.initialized link provider).value =
        match initialConnection? config link provider with
        | some c => (true, (ofConfig config).connected (some c))
        | none => (false, m)) ∧
      (∀ prompt schema, m.request prompt schema =
        last.elim (.error notInitialized) fun c => .ok (c.request config prompt schema)) ∧
      ∀ (op : Operation) (w' : σ),
        ((op.run (Session.recorded send) m (w', [])).value.2.2).map (·.1) =
          (last.bind fun c => op.question?.map fun q => c.request config q.1 q.2).toList := by
  intro m last
  obtain ⟨-, hsuccess⟩ := value_runAll send (ofConfig config) ops w
  have hm : m = (ofConfig config).connected last := final_runAll send ops w
  have hfor : ∀ c ∈ last, c.IsFor config := isFor_connections
  have hrequest : ∀ prompt schema, m.request prompt schema =
      last.elim (.error notInitialized) fun c => .ok (c.request config prompt schema) := by
    intro prompt schema
    rw [hm]
    cases hlast : last with
    | none => rfl
    | some c => exact request_connected (hfor c hlast) prompt schema
  refine ⟨hm, ?_, hfor, ?_, hrequest, ?_⟩
  · rw [hsuccess, hm, isReady_connected, List.getLast?_isSome]
    rfl
  · intro link provider
    rw [value_initialized, hm]
    rfl
  · intro op w'
    obtain ⟨es, hes, hrequests⟩ := run_writes send m op w' []
    rw [hes, List.nil_append, hrequests]
    simp only [hrequest]
    cases last with
    | none => cases op.question? <;> rfl
    | some c => cases op.question? <;> rfl

end Manager

end SecurityScan
