import SecurityScan.Config.Basic
import SecurityScan.Files.Edit

/-!
# Workflows

The workflow files that make a continuous integration service run scans. A file that is there is
written anew.
-/

namespace SecurityScan

/-- The services that workflows can be written for. -/
inductive CiService
  | githubActions
  | gitlabCi
deriving DecidableEq

namespace CiService

def all : List CiService := [.githubActions, .gitlabCi]

def name : CiService → String
  | .githubActions => "github_actions"
  | .gitlabCi => "gitlab_ci"

/-- The service of a name. -/
def ofName (s : String) : Except Fault CiService :=
  match all.find? (·.name == s) with
  | some c => .ok c
  | none => .error (.badValue ("Unsupported CI service: " ++ s ++ ". Supported: " ++
      commaSeparated (all.map name)))

/-- Where the workflow of a service goes. -/
def path (config : Config) : CiService → String
  | .githubActions => config.githubActionsPath
  | .gitlabCi => config.gitlabPath

end CiService

namespace Scaffold

def githubWorkflow : String :=
  "# .github/workflows/codeward_scan.yml\n" ++
  "name: Codeward Security Scan\n" ++
  "\n" ++
  "on: [push, pull_request]\n" ++
  "\n" ++
  "jobs:\n" ++
  "  security_scan:\n" ++
  "    runs-on: ubuntu-latest\n" ++
  "\n" ++
  "    steps:\n" ++
  "    - name: Checkout code\n" ++
  "      uses: actions/checkout@v4\n" ++
  "\n" ++
  "    - name: Set up Ruby\n" ++
  "      uses: ruby/setup-ruby@v1\n" ++
  "      with:\n" ++
  "        ruby-version: '3.3'\n" ++
  "        bundler-cache: true\n" ++
  "\n" ++
  "    - name: Set up Python\n" ++
  "      uses: actions/setup-python@v5\n" ++
  "      with:\n" ++
  "        python-version: '3.11'\n" ++
  "\n" ++
  "    - name: Install scanners\n" ++
  "      run: |\n" ++
  "        gem install brakeman bundler-audit --no-document\n" ++
  "        pip install codeward\n" ++
  "\n" ++
  "    - name: Run codeward scan\n" ++
  "      env:\n" ++
  "        ANTHROPIC_API_KEY: $\x7b\x7b secrets.ANTHROPIC_API_KEY \x7d\x7d\n" ++
  "      run: |\n" ++
  "        if [ \"$GITHUB_EVENT_NAME\" == \"pull_request\" ]; then\n" ++
  "          codeward scan --diff --format console\n" ++
  "        else\n" ++
  "          codeward scan --all --format console\n" ++
  "        fi\n"

def gitlabWorkflow : String :=
  "# .gitlab-ci.yml\n" ++
  "stages:\n" ++
  "  - security_scan\n" ++
  "\n" ++
  "codeward_security_scan:\n" ++
  "  stage: security_scan\n" ++
  "  image: ruby:3.3\n" ++
  "  before_script:\n" ++
  "    - apt-get update -qq && apt-get install -y --no-install-recommends python3-pip\n" ++
  "    - gem install brakeman bundler-audit --no-document\n" ++
  "    - pip3 install --break-system-packages codeward\n" ++
  "    - bundle install --jobs $(nproc)\n" ++
  "  script:\n" ++
  "    - |\n" ++
  "      if [ \"$CI_PIPELINE_SOURCE\" == \"merge_request_event\" ]; then\n" ++
  "        codeward scan --diff --format console\n" ++
  "      else\n" ++
  "        codeward scan --all --format console\n" ++
  "      fi\n" ++
  "  variables:\n" ++
  "    ANTHROPIC_API_KEY: $ANTHROPIC_API_KEY\n" ++
  "  rules:\n" ++
  "    - if: '$CI_COMMIT_BRANCH == $CI_DEFAULT_BRANCH'\n" ++
  "    - if: '$CI_PIPELINE_SOURCE == \"merge_request_event\"'\n"

def workflow : CiService → String
  | .githubActions => githubWorkflow
  | .gitlabCi => gitlabWorkflow

/-- Writes the workflow of the service of a name, and gives its path. -/
def writeWorkflow (service : String) (config : Config) (root : String) : Edit String := do
  let c ← Edit.ofExcept (CiService.ofName service)
  let path := Path.below root (c.path config)
  Edit.saveText path (workflow c)
  Edit.note .info ("   ✅ " ++ c.name ++ " workflow generated: " ++ path)
  return path

end Scaffold

end SecurityScan
