import Permits.Policy.Identity

namespace Permits

inductive GuardKind where
  /-- All of them, deletions too. -/
  | write
  /-- Deletions only. -/
  | delete
  deriving DecidableEq, Repr

namespace GuardKind

def word : GuardKind → String
  | write => "write"
  | delete => "delete"

def refusal : GuardKind → String
  | write => "User is not permitted to write to database"
  | delete => "User is not permitted to delete from database"

/-- What the condition of the guard asks beside the name. -/
def extraCondition : GuardKind → String
  | write => ""
  | delete => " && newDoc._deleted"

end GuardKind

inductive Decision where
  | allow
  | deny (message : String)
  deriving DecidableEq, Repr

structure GuardRule where
  kind : GuardKind
  allowed : IdentitySet
  deriving DecidableEq

namespace GuardRule

/-- Decides a change by `name`, which is absent for an anonymous user. -/
def evaluate (r : GuardRule) (name : Option String) (deleting : Bool) : Decision :=
  let listed := name.any r.allowed.containsName
  match r.kind with
  | .write => if listed then .allow else .deny r.kind.refusal
  | .delete => if listed || !deleting then .allow else .deny r.kind.refusal

def json (r : GuardRule) : Json :=
  .object [("kind", .string r.kind.word), ("allowed", r.allowed.json)]

end GuardRule

namespace Guard

/-- A character inside a string of a script: as in JSON, and the two separators that end a line in
older engines by number. -/
def escape (c : Char) : List Char :=
  if c.toNat = 0x2028 ∨ c.toNat = 0x2029 then '\\' :: 'u' :: Text.hex4 c.toNat else Json.escape c

def nameChars (name : String) : List Char := '"' :: name.toList.flatMap escape ++ ['"']

def literalChars (s : IdentitySet) : List Char :=
  '[' :: [','].intercalate (s.names.map nameChars) ++ [']']

def literal (s : IdentitySet) : String := String.ofList (literalChars s)

def opening : String :=
  "\n    function(newDoc, oldDoc, userCtx, secObj) \x7b\n        if ("

def closing (k : GuardKind) : String :=
  ".indexOf(userCtx.name) == -1" ++ k.extraCondition ++ ") throw(\x7b unauthorized: '" ++ k.refusal
    ++ "' \x7d);\n\x7d"

end Guard

/-- The rule as the function that the store runs on every change. -/
def GuardRule.source (r : GuardRule) : String :=
  Guard.opening ++ Guard.literal r.allowed ++ Guard.closing r.kind

/-- What a document that holds a rule says. -/
def GuardRule.body (r : GuardRule) : Members := [("validate_doc_update", .string r.source)]

end Permits
