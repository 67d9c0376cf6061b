import Permits.Text.Quoted

namespace Permits

/-- What is wrong with a text that should be a DID. -/
inductive DidFault where
  | noScheme
  | noMethod
  | badMethod
  | noId
  | badId
  deriving DecidableEq, Repr

def DidFault.message : DidFault → String
  | noScheme => "must start with \"did:\""
  | noMethod => "missing method"
  | badMethod => "method must be lowercase alphanumeric"
  | noId => "missing method-specific id"
  | badId => "method-specific id contains whitespace or control characters"

/-- Why a policy has no user sets. -/
inductive PolicyError where
  | invalidOwner (name : String)
  | emptyNamespace
  | malformedDid (did : String) (fault : DidFault)
  | translation (reason : String)
  | invalidPublicIdentity (name : String)
  deriving DecidableEq, Repr

def PolicyError.message : PolicyError → String
  | invalidOwner name => s!"Invalid owner identity: {name}"
  | emptyNamespace => "Application namespace must not be empty"
  | malformedDid did fault => s!"Malformed DID {Text.quoted did}: {fault.message}"
  | translation reason => s!"Identity translation failed: {reason}"
  | invalidPublicIdentity name => s!"Invalid public identity: {name}"

end Permits
