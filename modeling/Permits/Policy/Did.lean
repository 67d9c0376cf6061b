import Permits.Policy.Error
import Permits.Policy.Identity
import Permits.Hash.Sha256
import Permits.Text.Lowercase

namespace Permits

namespace Did

def splitColon : List Char → Option (List Char × List Char)
  | [] => none
  | ':' :: rest => some ([], rest)
  | c :: rest => (splitColon rest).map fun (method, id) => (c :: method, id)

def isMethodChar (c : Char) : Bool :=
  (0x61 ≤ c.toNat && c.toNat ≤ 0x7A) || (0x30 ≤ c.toNat && c.toNat ≤ 0x39)

def isIdChar (c : Char) : Bool := !Text.isBlank c && !Text.isControl c

/-- Looks for the first fault of `method:id`. -/
def checkRest (rest : List Char) : Except DidFault Unit :=
  match splitColon rest with
  | none => .error .noId
  | some (method, id) =>
    if method.isEmpty then .error .noMethod
    else if !method.all isMethodChar then .error .badMethod
    else if id.isEmpty then .error .noId
    else if !id.all isIdChar then .error .badId
    else .ok ()

def check (did : String) : Except DidFault Unit :=
  match did.toList with
  | 'd' :: 'i' :: 'd' :: ':' :: rest => checkRest rest
  | _ => .error .noScheme

def validate (did : String) : Except PolicyError Unit :=
  (check did).mapError (.malformedDid did)

/-- What the name of a principal is made from: the DID in small letters, a slash, the namespace. -/
def subject (did space : String) : String := Text.lowercase did ++ "/" ++ space

/-- The store name of a DID within an application: `v` and the digest in hexadecimal. -/
def username (did space : String) : Except PolicyError Identity := do
  validate did
  if space = "" then throw .emptyNamespace
  return ⟨String.ofList ('v' :: Text.hexBytes (Hash.sha256 (subject did space).toUTF8.toList))⟩

end Did

/-- Gives the store identities for DIDs within an application: for all of them or for none. -/
abbrev Translator := List String → String → Except PolicyError (List Identity)

def hashedTranslator : Translator := fun dids space => dids.mapM (Did.username · space)

end Permits
