/-!
# Risks

The kinds of vulnerability that a scan can be asked to look for, each with the description that a
prompt gives of it.
-/

namespace SecurityScan

structure Risk where
  name : String
  description : String

namespace Risk

def catalogue : List Risk := [
  ⟨"xss",
    "Cross-Site Scripting (XSS): user input reaches HTML or JavaScript output " ++
    "without escaping, letting an attacker run script in a victim's browser. " ++
    "Look for unsanitized input, html_safe/raw calls and missing output " ++
    "encoding."⟩,
  ⟨"csrf",
    "Cross-Site Request Forgery (CSRF): state-changing requests accepted " ++
    "without a CSRF token or origin check, so a forged request runs with the " ++
    "victim's session."⟩,
  ⟨"idor",
    "Insecure Direct Object Reference (IDOR): records looked up by a " ++
    "user-supplied identifier without checking that the current user may access " ++
    "them."⟩,
  ⟨"open_redirect",
    "Open Redirect: redirects to a URL taken from user input without " ++
    "restricting the destination host."⟩,
  ⟨"ssrf",
    "Server-Side Request Forgery (SSRF): the server fetches a URL chosen by the " ++
    "user, exposing internal services or cloud metadata endpoints."⟩,
  ⟨"session_fixation",
    "Session Fixation: the session identifier is not regenerated after login, " ++
    "so a pre-set session ID can be hijacked."⟩,
  ⟨"inappropriate_cookie_attributes",
    "Insecure Cookie Attributes: cookies without HttpOnly, Secure or SameSite " ++
    "flags."⟩,
  ⟨"insufficient_encryption",
    "Insufficient Encryption: weak algorithms such as MD5 or SHA1 for secrets, " ++
    "or sensitive data stored or sent in plain text."⟩,
  ⟨"insecure_deserialization_rce",
    "Insecure Deserialization: Marshal.load, YAML.load or similar applied to " ++
    "untrusted data, which can lead to remote code execution."⟩,
  ⟨"directory_traversal",
    "Directory Traversal: file paths built from user input without " ++
    "canonicalization, allowing ../ sequences to escape the intended directory."⟩,
  ⟨"dangerous_eval",
    "Dangerous Code Execution: eval, instance_eval, send, system or backticks " ++
    "called with untrusted input."⟩,
  ⟨"inappropriate_file_permissions",
    "Insecure File Permissions: files or directories created with overly " ++
    "permissive modes such as 0777."⟩,
  ⟨"temporary_backup_file_leak",
    "Temporary or Backup File Exposure: .bak, .tmp or editor backup files that " ++
    "end up publicly reachable."⟩,
  ⟨"overly_detailed_errors",
    "Excessive Error Disclosure: stack traces or internal error messages " ++
    "returned to users."⟩,
  ⟨"csp_not_set",
    "Missing Content Security Policy: no Content-Security-Policy header, which " ++
    "widens the impact of XSS."⟩,
  ⟨"mime_sniffing_vulnerability",
    "MIME Sniffing: responses without X-Content-Type-Options: nosniff."⟩,
  ⟨"clickjacking_vulnerability",
    "Clickjacking: pages served without X-Frame-Options or a frame-ancestors " ++
    "directive."⟩,
  ⟨"auto_index_exposure",
    "Directory Listing Enabled: automatic indexes expose files and internal " ++
    "structure."⟩,
  ⟨"inappropriate_password_policy",
    "Weak Password Policy: short or simple passwords accepted, or no " ++
    "brute-force protection."⟩,
  ⟨"two_factor_auth_missing",
    "Missing Two-Factor Authentication for sensitive operations."⟩,
  ⟨"race_condition",
    "Race Condition: concurrent access to shared state without locking or " ++
    "transactions, leading to inconsistent data or privilege escalation."⟩,
  ⟨"server_error_information_exposure",
    "Server Error Information Exposure: 500 responses that reveal stack traces " ++
    "or server details."⟩,
  ⟨"dependency_trojan_package",
    "Malicious Dependency: gems installed from untrusted sources or with " ++
    "typosquatted names."⟩,
  ⟨"api_overexposure",
    "Excessive API Exposure: endpoints reachable without authentication or " ++
    "returning more data than needed."⟩,
  ⟨"security_middleware_disabled",
    "Security Middleware Disabled: protections such as forgery protection or " ++
    "parameter filtering switched off."⟩,
  ⟨"security_header_inconsistency",
    "Security Header Inconsistency: security headers missing on some routes or " ++
    "environments."⟩,
  ⟨"excessive_login_attempts",
    "Unlimited Login Attempts: no rate limiting or lockout on authentication " ++
    "endpoints."⟩,
  ⟨"inappropriate_cache_settings",
    "Insecure Cache Settings: pages with sensitive data marked as publicly " ++
    "cacheable."⟩,
  ⟨"secret_key_committed",
    "Committed Secrets: credentials, API keys or signing secrets hardcoded in " ++
    "the source."⟩,
  ⟨"third_party_script_validation_missing",
    "Unverified Third-Party Scripts: external scripts loaded without " ++
    "Subresource Integrity checks."⟩,
  ⟨"over_logging",
    "Over-Logging: passwords, tokens or personal data written to logs."⟩,
  ⟨"fail_open_design",
    "Fail-Open Design: access granted when an error or exception occurs instead " ++
    "of being denied."⟩,
  ⟨"environment_differences",
    "Uncontrolled Environment Differences: security settings that differ " ++
    "between development and production."⟩,
  ⟨"audit_log_missing",
    "Missing Audit Logging: critical actions or authorization decisions are not " ++
    "logged."⟩,
  ⟨"time_based_side_channel",
    "Timing Side Channel: secrets compared with non-constant-time operations."⟩]

/-- The names of the risks looked for when nothing else is asked. -/
def usualNames : List String :=
  ["xss", "csrf", "idor", "open_redirect", "ssrf", "session_fixation"]

def descriptionOf? (name : String) : Option String :=
  (catalogue.find? fun r => r.name == name).map (·.description)

def isKnown (name : String) : Bool := (descriptionOf? name).isSome

end Risk

end SecurityScan
