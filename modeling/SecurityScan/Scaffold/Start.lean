import SecurityScan.Files.Edit
import SecurityScan.Ignore.File

/-!
# First files

The settings and the ignore rules that a project starts with. A file that is there already is
left as it is.
-/

namespace SecurityScan.Scaffold

def settingsText : String :=
  "# .codewardrc\n" ++
  "# Configuration file for codeward.\n" ++
  "\n" ++
  "# AI backend (optional).  API keys are best provided through the\n" ++
  "# ANTHROPIC_API_KEY / OPENAI_API_KEY / OLLAMA_ENDPOINT environment variables.\n" ++
  "# ai:\n" ++
  "#   provider: auto        # auto, anthropic, openai or ollama\n" ++
  "#   model: auto\n" ++
  "#   max_tokens: 4096\n" ++
  "#   request_timeout: 300\n" ++
  "\n" ++
  "# Security checks to enable (optional, default: xss, csrf, idor,\n" ++
  "# open_redirect, ssrf, session_fixation).\n" ++
  "# checks:\n" ++
  "#   - xss\n" ++
  "#   - csrf\n" ++
  "#   - idor\n" ++
  "#   - open_redirect\n" ++
  "\n" ++
  "# Custom prompt templates (optional).  Placeholders: \x7brisk_list\x7d,\n" ++
  "# \x7bjson_schema\x7d, \x7blanguage\x7d, \x7bcode_content\x7d, \x7bfile_label\x7d.\n" ++
  "# prompt_templates:\n" ++
  "#   default: |\n" ++
  "#     Analyze the following Ruby code for security vulnerabilities.\n" ++
  "#     Focus on: \x7brisk_list\x7d.\n" ++
  "#     Report in JSON format: \x7bjson_schema\x7d.\n" ++
  "#     Code:\n" ++
  "#     \x7bcode_content\x7d\n" ++
  "\n" ++
  "# Language for the finding details (optional, default: \"en\").\n" ++
  "# language: \"ja\"\n" ++
  "\n" ++
  "# Characters per analysis unit for large content (optional, default: 8000).\n" ++
  "# chunk_size: 10000\n" ++
  "\n" ++
  "# Files to analyze (optional).\n" ++
  "# files:\n" ++
  "#   source_extensions: [\".rb\"]\n" ++
  "#   ignore_file: \".codewardignore\"\n" ++
  "\n" ++
  "# Report output settings (optional).\n" ++
  "# report:\n" ++
  "#   output_path: \"./codeward_report\"   # prefix for json/markdown/html reports\n" ++
  "#   html_template: \"config/codeward_report.html.j2\"   # Jinja2 template for --format html\n" ++
  "\n" ++
  "# Static analyser options (optional).\n" ++
  "# static_analysers:\n" ++
  "#   timeout: 600\n" ++
  "#   brakeman:\n" ++
  "#     options: \x7b\"--skip-checks\": \"BasicAuth\", \"--no-progress\": true\x7d\n" ++
  "#   bundler_audit:\n" ++
  "#     options: \x7b\"--quiet\": true\x7d\n" ++
  "\n" ++
  "# CI setup file paths (optional).\n" ++
  "# ci_setup:\n" ++
  "#   github_actions_path: \".github/workflows/codeward_scan.yml\"\n" ++
  "#   gitlab_ci_path: \".gitlab-ci.yml\"\n"

def ignoreText : String :=
  "# codeward ignore file\n" ++
  "# Files and directories to skip during scans, one pattern per line.\n" ++
  "# Lines starting with # are comments.\n" ++
  "# Globs are supported (e.g. *.tmp); a trailing / matches a whole directory\n" ++
  "# relative to the project root.  A leading ! re-includes a path; the first\n" ++
  "# matching line wins.\n" ++
  "\n" ++
  "# Log files\n" ++
  "log/\n" ++
  "*.log\n" ++
  "\n" ++
  "# Temporary files\n" ++
  "tmp/\n" ++
  "*.tmp\n" ++
  "*.swp\n" ++
  "*.swo\n" ++
  "\n" ++
  "# OS-specific files\n" ++
  ".DS_Store\n" ++
  "Thumbs.db\n" ++
  "\n" ++
  "# Vendored gems\n" ++
  "vendor/bundle/\n" ++
  "\n" ++
  "# Coverage reports\n" ++
  "coverage/\n" ++
  "\n" ++
  "# Node.js dependencies\n" ++
  "node_modules/\n" ++
  "\n" ++
  "# Build artifacts\n" ++
  "pkg/\n"

/-- A file to start with: its name, its text and what notes call it. -/
structure FirstFile where
  name : String
  text : String
  description : String

def firstFiles : List FirstFile := [
  ⟨".codewardrc", settingsText, "Config file"⟩,
  ⟨".codewardignore", ignoreText, "Ignore file"⟩]

/-- Writes a file unless there is one; whether it was written. -/
def writeNew (f : FirstFile) (path : String) : Edit Bool := do
  if (← Edit.ofExcept ((← Edit.files).place? path)).isSome then
    Edit.note .warning
      ("⚠️  " ++ f.description ++ " already exists at " ++ path ++ "; leaving it untouched")
    return false
  else
    Edit.saveText path f.text
    Edit.note .info ("   ✅ " ++ f.description ++ " generated: " ++ path)
    return true

/-- Writes those files that are not there yet, and gives their paths. -/
def writeFiles (root : String) : List FirstFile → Edit (List String)
  | [] => pure []
  | f :: rest => do
    let path := Path.below root f.name
    let written ← writeNew f path
    let more ← writeFiles root rest
    return if written then path :: more else more

/-- Writes the files that a project starts with. -/
def start (root : String) : Edit (List String) := writeFiles root firstFiles

end SecurityScan.Scaffold
