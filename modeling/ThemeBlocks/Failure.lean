/-! What can go wrong in the library, as causes. `message` is the wording that an operator reads and
`help?` the advice that goes with it. -/

namespace ThemeBlocks

inductive NamingRule
  | capitals (found : Nat)
  | slash
  deriving Repr, DecidableEq, Inhabited

inductive FetchError
  | transport (status : Option Nat) (cause : String)
  | unreadable (cause : String)
  deriving Repr, DecidableEq, Inhabited

def FetchError.message : FetchError → String
  | .transport none cause => "Transport error: " ++ cause
  | .transport (some status) cause => "Transport error (HTTP " ++ toString status ++ "): " ++ cause
  | .unreadable cause => "Failed to parse CMS response: " ++ cause

inductive Failure
  | naming (block typeName : String) (rule : NamingRule)
  | duplicateType (typeName first second : String)
  | duplicateBlock (name : String)
  | keyCollision (block identifier first second : String)
  | fetch (error : FetchError)
  | unreachable (cause : String)
  | regeneration (cause : String)
  | configuration (cause : String)
  deriving Repr, DecidableEq, Inhabited

namespace Failure

def message : Failure → String
  | .naming block typeName (.capitals found) =>
    s!"gqlTypeName '{typeName}' of block '{block}' must have exactly 2 uppercase letters " ++
      s!"(found {found})"
  | .naming block typeName .slash =>
    s!"gqlTypeName '{typeName}' of block '{block}' cannot contain a '/'"
  | .duplicateType typeName first second =>
    s!"gqlTypeName '{typeName}' is used by both '{first}' and '{second}'"
  | .duplicateBlock name => s!"Block name '{name}' is registered more than once"
  | .keyCollision block identifier first second =>
    s!"Attributes '{first}' and '{second}' of block '{block}' both become ${identifier}"
  | .fetch error => error.message
  | .unreachable cause => s!"Got no data from CMS: {cause}"
  | .regeneration cause => s!"Failed to regenerate block files: {cause}"
  | .configuration cause => s!"Configuration error: {cause}"

def help? : Failure → Option String
  | .naming .. => some <|
    "Block type names are prefixed by the CMS and must look like 'ACHero': " ++
      "exactly two uppercase letters, no '/'"
  | .duplicateType .. => some "Every block needs its own gql_type_name"
  | .duplicateBlock .. =>
    some "Every block needs its own block_name, it is used as the template file name"
  | .keyCollision .. => some <|
    "Attribute keys become PHP variables with every character other than " ++
      "letters and digits replaced by '_', rename one of them"
  | .fetch .. => some "Check the GraphQL endpoint URL and your network connection"
  | .unreachable .. => some <|
    "Even the minimal query failed. Check that the CMS is up and WPGraphQL " ++
      "is active, then reupload the theme and try again"
  | .regeneration .. => some "Check that the theme directory is writable"
  | .configuration .. => none

def isRegistryError : Failure → Bool
  | .naming .. | .duplicateType .. | .duplicateBlock .. | .keyCollision .. => true
  | _ => false

end Failure

end ThemeBlocks
