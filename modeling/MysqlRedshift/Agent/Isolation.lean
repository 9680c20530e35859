import MysqlRedshift.Agent.ImportTest

/-!
# Isolation of translation requests

The process has one agent, and every request that translates calls it: `/translate`
itself, and `import_test` through its first step. What the model is sent for a request
is therefore a function of the requests before it. The conversation is stated below as
an abstract one, of prompts only; the endpoints are shown to move the agent as it does.
-/

namespace MysqlRedshift.Agent

open MysqlRedshift.Misc

/-! ## The conversation -/

/-- The messages after some prompts, for the messages before them. -/
def converse (model : Model) (messages : List Message) : List String → List Message
  | [] => messages
  | prompt :: prompts =>
    let delivered := messages ++ [⟨.user, prompt⟩]
    converse model (delivered ++ (model systemPrompt delivered).1) prompts

variable (model : Model)

/-- Messages are never dropped. -/
theorem prefix_converse (messages : List Message) (prompts : List String) :
    messages <+: converse model messages prompts := by
  induction prompts generalizing messages with
  | nil => exact List.prefix_refl messages
  | cons prompt prompts ih =>
    have grown : messages <+: messages ++ [⟨.user, prompt⟩] ++
        (model systemPrompt (messages ++ [⟨.user, prompt⟩])).1 := by
      rw [List.append_assoc]
      exact List.prefix_append ..
    exact grown.trans (ih _)

/-- The first prompt stands right after the messages before it. -/
theorem prefix_converse_cons (messages : List Message) (prompt : String) (prompts : List String) :
    messages ++ [⟨.user, prompt⟩] <+: converse model messages (prompt :: prompts) :=
  (List.prefix_append ..).trans (prefix_converse model _ prompts)

theorem converse_cons_ne (messages : List Message) (prompt : String) (prompts : List String) :
    converse model messages (prompt :: prompts) ≠ messages := by
  intro same
  have shorter := (prefix_converse_cons model messages prompt prompts).length_le
  rw [same, List.length_append, List.length_singleton] at shorter
  omega

variable {model}

/-- The prompts can be read off the conversation. -/
theorem converse_inj {messages : List Message} {prompts prompts' : List String}
    (same : converse model messages prompts = converse model messages prompts') :
    prompts = prompts' := by
  induction prompts generalizing messages prompts' with
  | nil =>
    cases prompts' with
    | nil => rfl
    | cons prompt' prompts' => cases converse_cons_ne _ _ _ _ same.symm
  | cons prompt prompts ih =>
    cases prompts' with
    | nil => cases converse_cons_ne _ _ _ _ same
    | cons prompt' prompts' =>
      -- both first prompts stand at the same place of the same list
      have here := prefix_converse_cons model messages prompt prompts
      have here' := prefix_converse_cons model messages prompt' prompts'
      rw [← same] at here'
      have delivered : messages ++ [⟨Role.user, prompt⟩] = messages ++ [⟨.user, prompt'⟩] := by
        apply (List.prefix_of_prefix_length_le here here' _).eq_of_length
        · simp
        · simp
      obtain rfl : prompt = prompt' := by simpa using delivered
      rw [ih same]

/-- Where the model adds as many messages to each call, they can be counted. -/
theorem length_converse {k : Nat} (adds : ∀ sys delivered, (model sys delivered).1.length = k)
    (messages : List Message) (prompts : List String) :
    (converse model messages prompts).length = messages.length + (k + 1) * prompts.length := by
  induction prompts generalizing messages with
  | nil => simp [converse]
  | cons prompt prompts ih =>
    rw [converse, ih, List.length_append, List.length_append, adds]
    simp only [List.length_cons, List.length_nil, Nat.mul_add]
    omega

/-! ## The requests -/

/-- The two requests that translate. -/
inductive Request where
  | translate (req : TranslateReq)
  | importTest (req : ImportTestReq)
  deriving DecidableEq, Repr

/-- A request, and what it is handled with: the rule files, what the knowledge base
answers, the time it takes and, for `import_test`, what the two databases, `compare` and
the save return. -/
structure Handled (α S : Type) where
  request : Request
  env : TranslateEnv S
  retrieved : List (Knowledge.Example S) := []
  ms : Int := 0
  runMysql : String → Except String (Executed α) := fun _ => .error ""
  runRedshift : String → Except String (Executed α) := fun _ => .error ""
  compare : List (List α) → List (List α) → List String → List String → String →
    Except String Compared := fun _ _ _ _ _ => .ok ⟨true, ""⟩
  saveExample : Knowledge.SaveArgs → Option Nat := fun _ => none

variable {α S : Type}

/-- The parties of an import, of which only the translation is at the agent. -/
def Handled.importEnv (r : Handled α S) (model : Model) :
    ImportEnv (Option StrandsAgent) α S where
  translate req agent :=
    match translate r.env model req r.retrieved r.ms agent with
    | (.error e, agent) => (.error (.http e), agent)
    | (.ok resp, agent) => (.ok resp, agent)
  runMysql sql agent := (r.runMysql sql, agent)
  runRedshift sql agent := (r.runRedshift sql, agent)
  compare := r.compare
  saveExample args agent := (r.saveExample args, agent)

/-- `_agent` after a request. -/
def Handled.handle (model : Model) (agent : Option StrandsAgent) (r : Handled α S) :
    Option StrandsAgent :=
  match r.request with
  | .translate req => (translate r.env model req r.retrieved r.ms agent).2
  | .importTest req => (apiKnowledgeImportTest (r.importEnv model) req agent).2

/-- The request that `translate` is called with. -/
def Request.translateReq : Request → TranslateReq
  | .translate req => req
  | .importTest req => { sql := req.mysqlSQL }

/-- What the user message of the request is. -/
def Handled.prompt (r : Handled α S) : String := userMsg r.env r.request.translateReq r.retrieved

/-- `_agent` after a history, oldest request first. -/
def agentAfter (model : Model) (history : List (Handled α S)) : Option StrandsAgent :=
  history.foldl (Handled.handle model) none

/-- What the model is sent for a request after a history: the system prompt and the messages. -/
def deliveredFor (model : Model) (history : List (Handled α S)) (r : Handled α S) :
    String × List Message :=
  let agent := getAgent (agentAfter model history)
  (agent.systemPrompt, agent.delivery r.prompt)

/-! ## What a request does to the agent -/

theorem translate_agent (env : TranslateEnv S) (model : Model) (req : TranslateReq)
    (retrieved : List (Knowledge.Example S)) (ms : Int) (agent : Option StrandsAgent) :
    (translate env model req retrieved ms agent).2 =
      some ((getAgent agent).call model (userMsg env req retrieved)).2 := rfl

/-- Of an import, only the translation touches the agent, wherever it returns. -/
theorem importTest_agent (r : Handled α S) (model : Model) (req : ImportTestReq)
    (agent : Option StrandsAgent) :
    (apiKnowledgeImportTest (r.importEnv model) req agent).2 =
      (translate r.env model { sql := req.mysqlSQL } r.retrieved r.ms agent).2 := by
  have verified : (importVerify (r.importEnv model) req agent).2 =
      (translate r.env model { sql := req.mysqlSQL } r.retrieved r.ms agent).2 := by
    simp only [importVerify, Handled.importEnv]
    rcases translate r.env model { sql := req.mysqlSQL } r.retrieved r.ms agent with
      ⟨e | tr, agent'⟩
    · rfl
    simp only [importMysql]
    cases r.runMysql req.mysqlSQL with
    | error e => rfl
    | ok my =>
      simp only [importRedshift]
      cases r.runRedshift tr.redshiftSQL with
      | error e => rfl
      | ok rs => rfl
  rw [← verified, apiKnowledgeImportTest]
  rcases importVerify (r.importEnv model) req agent with ⟨_ | ⟨resp, _ | args⟩, agent'⟩ <;> rfl

/-- Every request is one call of the agent, with its prompt. -/
theorem handle_eq (r : Handled α S) (model : Model) (agent : Option StrandsAgent) :
    r.handle model agent = some ((getAgent agent).call model r.prompt).2 := by
  unfold Handled.handle Handled.prompt
  cases r.request with
  | translate req => exact translate_agent ..
  | importTest req => exact (importTest_agent ..).trans (translate_agent ..)

/-- The agent of a history holds the conversation of its prompts. -/
theorem getAgent_agentAfter (model : Model) (history : List (Handled α S)) :
    getAgent (agentAfter model history) =
      ⟨systemPrompt, converse model [] (history.map Handled.prompt)⟩ := by
  have grown : ∀ (messages : List Message) (agent : Option StrandsAgent),
      getAgent agent = ⟨systemPrompt, messages⟩ →
      getAgent (history.foldl (Handled.handle model) agent) =
        ⟨systemPrompt, converse model messages (history.map Handled.prompt)⟩ := by
    induction history with
    | nil =>
      intro messages agent held
      exact held
    | cons r history ih =>
      intro messages agent held
      rw [List.foldl_cons, handle_eq, held]
      exact ih _ _ rfl
  exact grown [] none rfl

/-! ## Two histories -/

theorem deliveredFor_eq (model : Model) (history : List (Handled α S)) (r : Handled α S) :
    deliveredFor model history r =
      (systemPrompt, converse model [] (history.map Handled.prompt) ++ [⟨.user, r.prompt⟩]) := by
  unfold deliveredFor
  rw [getAgent_agentAfter]
  rfl

/-- What is sent for a request shows the conversation before it. -/
theorem converse_of_deliveredFor {model₁ model₂ : Model} {h₁ h₂ : List (Handled α S)}
    {r : Handled α S} (same : deliveredFor model₁ h₁ r = deliveredFor model₂ h₂ r) :
    converse model₁ [] (h₁.map Handled.prompt) = converse model₂ [] (h₂.map Handled.prompt) := by
  rw [deliveredFor_eq, deliveredFor_eq] at same
  exact List.append_cancel_right (Prod.mk.inj same).2

/-- A model that adds no message to those it is sent. -/
def silent : Model := fun _ _ => ([], .ok "SELECT 1")

/-- A model that adds its answer. -/
def answering : Model := fun _ _ => ([⟨.assistant, "SELECT 1"⟩], .ok "SELECT 1")

/-- Where the model need not answer alike in both, only empty histories are as good as
any other. -/
theorem deliveredFor_eq_anyAnswers_iff (h₁ h₂ : List (Handled α S)) (r : Handled α S) :
    (∀ model₁ model₂, deliveredFor model₁ h₁ r = deliveredFor model₂ h₂ r) ↔
      h₁ = [] ∧ h₂ = [] := by
  constructor
  · intro same
    have count : ∀ model₁ model₂, (converse model₁ [] (h₁.map Handled.prompt)).length =
        (converse model₂ [] (h₂.map Handled.prompt)).length := by
      intro model₁ model₂
      exact congrArg List.length (converse_of_deliveredFor (same model₁ model₂))
    have silently := count silent silent
    have aloud := count silent answering
    have adds_none : ∀ sys delivered, (silent sys delivered).1.length = 0 := fun _ _ => rfl
    have adds_one : ∀ sys delivered, (answering sys delivered).1.length = 1 := fun _ _ => rfl
    rw [length_converse adds_none, length_converse adds_none] at silently
    rw [length_converse adds_none, length_converse adds_one] at aloud
    simp only [List.length_nil, List.length_map] at silently aloud
    exact ⟨List.length_eq_zero_iff.mp (by omega), List.length_eq_zero_iff.mp (by omega)⟩
  · rintro ⟨rfl, rfl⟩ model₁ model₂
    rfl

/-- After two histories the model is sent the same for a request exactly when the
histories have sent it the same prompts. -/
theorem deliveredFor_eq_iff (model : Model) (h₁ h₂ : List (Handled α S)) (r : Handled α S) :
    deliveredFor model h₁ r = deliveredFor model h₂ r ↔
      h₁.map Handled.prompt = h₂.map Handled.prompt := by
  constructor
  · intro same
    exact converse_inj (converse_of_deliveredFor same)
  · intro same
    rw [deliveredFor_eq, deliveredFor_eq, same]

def atAscii (sql : String) : Handled Nat Nat :=
  { request := .translate { sql }, env := ⟨.ascii, fun _ => none, fun _ => ""⟩ }

/-- One client's query is sent to the model along with another's. -/
theorem not_deliveredFor_eq_salaries :
    deliveredFor silent [] (atAscii "SELECT 1") ≠
      deliveredFor silent [atAscii "SELECT salary FROM staff"] (atAscii "SELECT 1") := by
  intro same
  exact converse_cons_ne silent [] _ [] (converse_of_deliveredFor same).symm

end MysqlRedshift.Agent
