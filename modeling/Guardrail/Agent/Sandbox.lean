import Guardrail.Agent.Fault
import Guardrail.Text.Search

/-! Which tools may run and within which limits. The deny list wins over the allow list and can only
grow. A name is denied if it mentions an entry; it is allowed if it equals one, in any case. -/

namespace Guardrail.Agent

/-- Denied in every sandbox. -/
def builtinDenied : List String := [
  "rm", "del", "format", "shutdown", "reboot", "dd", "mkfs", "fdisk", "kill", "pkill", "chmod",
  "chown", "sudo", "su"]

structure Sandbox where
  /-- Ticks that a tool is waited for. -/
  timeout : Nat := 30000
  /-- Bytes of a call's arguments. -/
  memoryLimit : Nat := 128 * 1024 * 1024
  /-- No entry allows every tool that is not denied. -/
  allowed : List String := []
  /-- Entries beside the built-in ones. -/
  extraDenied : List String := []
  deriving DecidableEq

namespace Sandbox

def denied (s : Sandbox) : List String := builtinDenied ++ s.extraDenied

def allow (s : Sandbox) (tools : List String) : Sandbox := { s with allowed := s.allowed ++ tools }

def deny (s : Sandbox) (tools : List String) : Sandbox :=
  { s with extraDenied := s.extraDenied ++ tools }

def isAllowed (s : Sandbox) (tool : String) : Bool :=
  s.allowed.isEmpty || s.allowed.any fun a => Text.lower a == Text.lower tool

def check (s : Sandbox) (tool : String) : Except Fault Unit :=
  if (Text.firstMentioned tool s.denied).isSome || !s.isAllowed tool then .error .toolNotAllowed
  else .ok ()

end Sandbox
end Guardrail.Agent
