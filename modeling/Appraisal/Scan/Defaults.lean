import Appraisal.Scan.Rule

set_option autoImplicit false

namespace Appraisal.Scan

def defaultSecretRules : List Rule := [
  ⟨"secret-api-key", .secret,
    "(?i)(api[_-]?key|apikey)\\s*[:=]\\s*['\"][a-zA-Z0-9]\x7b20,\x7d['\"]", .high⟩,
  ⟨"secret-password", .secret,
    "(?i)(secret|password|passwd|pwd)\\s*[:=]\\s*['\"][^'\"]\x7b8,\x7d['\"]", .high⟩,
  ⟨"secret-token", .secret,
    "(?i)(token|auth)\\s*[:=]\\s*['\"][a-zA-Z0-9]\x7b20,\x7d['\"]", .high⟩,
  ⟨"secret-private-key", .secret, "(?i)(private[_-]?key)\\s*[:=]", .critical⟩,
  ⟨"secret-aws-credential", .secret, "(?i)(aws[_-]?access[_-]?key|aws[_-]?secret)", .high⟩,
  ⟨"secret-github-token", .secret, "(?i)(github[_-]?token|gh[_-]?token)", .high⟩]

def defaultSuspiciousRules : List Rule := [
  ⟨"suspicious-eval", .suspicious, "eval\\s*\\(", .high⟩,
  ⟨"suspicious-exec", .suspicious, "exec\\s*\\(", .high⟩,
  ⟨"suspicious-dynamic-import", .suspicious, "__import__\\s*\\(", .medium⟩,
  ⟨"suspicious-subprocess", .suspicious, "subprocess\\.", .medium⟩,
  ⟨"suspicious-os-system", .suspicious, "os\\.system\\s*\\(", .high⟩,
  ⟨"suspicious-os-popen", .suspicious, "os\\.popen\\s*\\(", .high⟩,
  ⟨"suspicious-commands-getoutput", .suspicious, "commands\\.getoutput", .medium⟩,
  ⟨"suspicious-pickle-loads", .suspicious, "pickle\\.loads", .medium⟩,
  ⟨"suspicious-marshal-loads", .suspicious, "marshal\\.loads", .medium⟩]

def defaultRules : List Rule := defaultSecretRules ++ defaultSuspiciousRules

end Appraisal.Scan
