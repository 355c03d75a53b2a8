import ThemeBlocks.Cms.Response
import ThemeBlocks.Failure
import ThemeBlocks.Host
import ThemeBlocks.Text.Encoding
import ThemeBlocks.Web.Exchange

/-! The client of a CMS. A query goes out as one request; an answer of success is decoded as a GraphQL
response, any other answer is a failure that tells what the server said. -/

namespace ThemeBlocks.Cms

open Web

structure Client where
  endpoint : Url
  token : Option String := none
  deriving Repr, DecidableEq

namespace Client

/-- The endpoint is looked at before the token. -/
def ofTexts (endpoint : String) (token : Option String) : Except Failure Client :=
  match Url.ofText endpoint with
  | .error error => .error <| .configuration
      ("Invalid GraphQL endpoint '" ++ endpoint ++ "': " ++ error.message)
  | .ok url =>
    if token.all isHeaderValue then .ok ⟨url, token⟩
    else .error (.configuration "Auth token contains invalid characters")

def agent : String := "blockgen/0.1.0"

def requestBody (query : String) : String :=
  (Json.Value.object [("query", .string query), ("variables", .object [])]).compact

/-- A user in the endpoint goes before the token. -/
def credentials (client : Client) : Option String :=
  userCredentials client.endpoint <|> client.token.map ("Bearer " ++ ·)

def request (client : Client) (query : String) : Request where
  url := client.endpoint
  headers := [("content-type", "application/json"), ("user-agent", agent)] ++
    (client.credentials.map fun text => ("authorization", text)).toList
  body := requestBody query

def bodyLimit : Nat := 200

/-- What a server said: its body if that can be seen, shortened, else the reason of its status. -/
def summary (body : String) (status : Nat) : String :=
  let told := (Text.trim body).toList
  if told.isEmpty then (reason? status).getD "request failed"
  else if bodyLimit < told.length then .ofList (told.take bodyLimit) ++ "..."
  else .ofList told

def interpret (url : Url) : Delivery → Except FetchError Response
  | .dropped => .error (.transport none (unanswered url))
  | .answer status body =>
    if isSuccess status then
      match body with
      | none => .error (.unreadable brokenBody)
      | some bytes =>
        match Response.ofSource (.ofBytes bytes) with
        | .ok response => .ok response
        | .error message => .error (.unreadable message)
    else .error (.transport (some status) (summary (Text.decodeBytes (body.getD [])) status))

def entry (level : Level) (message : String) : Entry :=
  ⟨level, "blockgen_sdk::client", message⟩

def sendingEntry (client : Client) (query : String) : Entry :=
  entry .debug ("Sending GraphQL query endpoint=" ++ client.endpoint.render ++ " bytes=" ++
    toString query.utf8ByteSize)

def errorEntries : Except FetchError Response → List Entry
  | .ok response => response.errorMessages.map fun message => entry .warn ("GraphQL error: " ++ message)
  | .error _ => []

variable {m : Type → Type} [Monad m] [Journal m] [Network m]

def fetch (client : Client) (query : String) : m (Except FetchError Response) := do
  Journal.note (sendingEntry client query)
  if isReachable client.endpoint then
    let result := interpret client.endpoint (← Network.exchange (client.request query))
    noteAll (errorEntries result)
    pure result
  else
    pure (.error (.transport none (unsendable client.endpoint)))

end Client

end ThemeBlocks.Cms
