import Permits.Policy.Identity
import Permits.Text.Lowercase

namespace Permits

/-- What a call does when a permission document fails to apply. -/
inductive FailurePolicy where
  /-- It reports a warning and succeeds. -/
  | bestEffort
  /-- It fails. -/
  | strict
  deriving DecidableEq, Repr

namespace FailurePolicy

def word : FailurePolicy → String
  | bestEffort => "best_effort"
  | strict => "strict"

def ofWord? : String → Option FailurePolicy
  | "best_effort" => some bestEffort
  | "strict" => some strict
  | _ => none

/-- Reads a name in either case; a hyphen may stand for the low line. -/
def parse (s : String) : Except String FailurePolicy :=
  match Text.lowercase s with
  | "best_effort" | "best-effort" => .ok bestEffort
  | "strict" => .ok strict
  | _ => .error s!"Invalid failure policy: {s}"

def described : FailurePolicy → String
  | bestEffort => "BestEffort"
  | strict => "Strict"

end FailurePolicy

structure ProvisionSettings where
  /-- The identity that stands for anyone. -/
  publicUser : Identity := ⟨"public"⟩
  onProvision : FailurePolicy := .bestEffort
  onUpdate : FailurePolicy := .bestEffort
  deriving DecidableEq, Repr

def ProvisionSettings.described (s : ProvisionSettings) : String :=
  "ProvisionSettings \x7b public_user: " ++ s.publicUser.described ++
    ", provision_failure_policy: " ++ s.onProvision.described ++
    ", update_failure_policy: " ++ s.onUpdate.described ++ " \x7d"

end Permits
