import SecurityScan.Config.Basic
import SecurityScan.Value.Convert

/-!
# Freezing settings

A configuration made of settings: each value is converted to the type of its field, in the order
of the fields, and the first that cannot be is a fault.
-/

namespace SecurityScan

namespace Config

/-- The plain form of a value that holds. -/
def displayedIfHolds (v : Value) : Except Fault (Option String) :=
  if v.holds then v.displayed.map some else .ok none

/-- The configuration that settings stand for, the usual ones filling the gaps. -/
def ofSettings (s : Settings) : Except Fault Config := do
  let known := s.filter fun e => (Settings.usual.get? e.1).isSome
  let all : Settings := Settings.usual.insertAll known
  let value := all.value
  let textOr (v : Value) : Value := if v.holds then v else .str ""
  return {
    provider := ← (value "ai_provider").displayed
    model := ← (value "model").displayed
    anthropicKey := textOr (value "anthropic_api_key")
    openaiKey := textOr (value "openai_api_key")
    ollamaEndpoint := textOr (value "ollama_endpoint")
    maxTokens := ← (value "max_tokens").toWhole
    requestTimeout := ← (value "request_timeout").toDouble
    checks := ← (← (value "checks").members).mapM Value.displayed
    language := ← (value "language").displayed
    promptTemplates := ← (value "prompt_templates").toEntries
    chunkSize := ← (value "chunk_size").toWhole
    sourceExtensions := ← (value "source_extensions").members
    ignoreFile := ← (value "ignore_file").displayed
    brakemanOptions := ← (value "brakeman_options").toEntries
    bundlerAuditOptions := ← (value "bundler_audit_options").toEntries
    toolTimeout := ← (value "tool_timeout").toWhole
    reportPath := ← (value "report_output_path").displayed
    htmlTemplate := ← displayedIfHolds (value "html_template")
    githubActionsPath := ← (value "github_actions_path").displayed
    gitlabPath := ← (value "gitlab_ci_path").displayed }

/-- The configuration of a scan that nothing was said about. -/
def usual : Config where
  provider := "auto"
  model := "auto"
  anthropicKey := .str ""
  openaiKey := .str ""
  ollamaEndpoint := .str ""
  maxTokens := 4096
  requestTimeout := .ofRatio false 300 1
  checks := Risk.usualNames
  language := "en"
  promptTemplates := []
  chunkSize := 8000
  sourceExtensions := [.str ".rb"]
  ignoreFile := ".codewardignore"
  brakemanOptions := []
  bundlerAuditOptions := []
  toolTimeout := 600
  reportPath := "./codeward_report"
  htmlTemplate := none
  githubActionsPath := ".github/workflows/codeward_scan.yml"
  gitlabPath := ".gitlab-ci.yml"

end Config

end SecurityScan
