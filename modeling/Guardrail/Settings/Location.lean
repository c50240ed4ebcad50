import Guardrail.Files
import Guardrail.Settings.Overlay

/-! Where settings and policy modules are kept: in a hidden directory below the home directory, one
for each environment that is named. -/

namespace Guardrail.Settings

/-- The directory's name when no environment is named. -/
def directoryName : String := ".aiguard-dev"

/-- A variable that is set but empty names the empty environment. -/
def directory (home : String) (env : Environment) : String :=
  Files.join home (match env "AIGUARD_ENV" with
    | some name => ".aiguard-" ++ name
    | none => directoryName)

def file (home : String) (env : Environment) : String :=
  Files.join (directory home env) "settings.yaml"

def policyDirectory (home : String) (env : Environment) : String :=
  Files.join (directory home env) "policies"

end Guardrail.Settings
