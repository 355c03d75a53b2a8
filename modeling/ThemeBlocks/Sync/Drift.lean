import ThemeBlocks.Cms.Response
import ThemeBlocks.Cms.Snapshot
import ThemeBlocks.Host
import ThemeBlocks.Query.Template
import ThemeBlocks.Theme.Bundle

/-! The drift detector. It asks the full query first. When that brings no data it asks the minimal
query; data from there show that the CMS does not know the block types, so the theme is generated anew.
Every way out leaves a state behind, and the next run starts over from it. -/

namespace ThemeBlocks.Sync

open Cms

def hasData : Option Json.Value → Bool
  | none | some .null => false
  | some (.bool flag) => flag
  | some (.number n) => !n.isZero
  | some (.string text) => !text.isEmpty
  | some (.array _) | some (.object _) => true

inductive State
  | querying
  | degraded
  | resolved
  deriving Repr, DecidableEq, Inhabited

def State.name : State → String
  | .querying => "Querying"
  | .degraded => "Degraded"
  | .resolved => "Resolved"

inductive Resolution
  | full
  | degraded (regenerated : Theme.WrittenFiles)
  deriving Repr, DecidableEq, Inhabited

def Resolution.name : Resolution → String
  | .full => "full"
  | .degraded _ => "degraded"

structure Context where
  snapshot : Snapshot
  resolution : Resolution
  warnings : List Warning
  deriving Repr, Inhabited

namespace Context

def templatesOutdated (context : Context) : Bool :=
  match context.resolution with
  | .full => false
  | .degraded _ => true

def redeployNotice (context : Context) : Option String :=
  match context.resolution with
  | .full => none
  | .degraded regenerated => some <|
    s!"Block templates were outdated and {regenerated.files.length} files were regenerated. " ++
      "Upload the theme to the CMS and run again to fetch block data."

end Context

structure Plan where
  registry : Registry
  template : Query.Template
  options : Theme.Options

/-- The two ends of a run: who answers queries, and who takes a generated theme. -/
structure Gateway (m : Type → Type) where
  fetch : String → m (Except FetchError Response)
  write : Theme.Bundle → m (Except Failure Theme.WrittenFiles)

def describeEmpty (response : Response) : String :=
  match response.errorMessages with
  | [] => "response contained no data"
  | messages => "; ".intercalate messages

section Run

variable {m : Type → Type} [Monad m] [Journal m]

abbrev Running (m : Type → Type) := ExceptT Failure (StateT State m)

def ask {α : Type} (action : m α) : Running m α :=
  ExceptT.lift (StateT.lift action)

def driftEntry (level : Level) (message : String) : Entry :=
  ⟨level, "blockgen_sdk::drift", message⟩

def note (entry : Entry) : Running m Unit :=
  ask (Journal.note entry)

def moveTo (next : State) : Running m Unit := do
  let current ← get
  note <| driftEntry .debug
    ("Drift detector state change from=" ++ current.name ++ " to=" ++ next.name)
  set next

def warningEntry (warning : Warning) : Entry :=
  ⟨.warn, "blockgen_sdk::snapshot", warning.text⟩

def decode (response : Response) : Running m (Snapshot × List Warning) :=
  match Snapshot.decode (response.data.getD .null) with
  | .error error => throw (.fetch error)
  | .ok (snapshot, warnings) => do
    ask (noteAll (warnings.map warningEntry))
    pure (snapshot, warnings)

def finish (snapshot : Snapshot) (warnings : List Warning) (resolution : Resolution) :
    Running m Context := do
  moveTo .resolved
  note <| driftEntry .info
    ("Fetched data from CMS blocks=" ++ toString snapshot.blockCount ++ " warnings=" ++
      toString warnings.length)
  pure ⟨snapshot, resolution, warnings⟩

def usable : Except FetchError Response → Except (FetchError ⊕ Response) Response
  | .error error => .error (.inl error)
  | .ok response => if hasData response.data then .ok response else .error (.inr response)

def noteUseless : FetchError ⊕ Response → Entry
  | .inl error => driftEntry .warn ("Full query failed: " ++ error.message)
  | .inr response =>
    driftEntry .info ("Full query returned no data (" ++ describeEmpty response ++ ")")

def unreachable : FetchError ⊕ Response → Failure
  | .inl error => .unreachable error.message
  | .inr response => .unreachable (describeEmpty response)

def regenerate (gateway : Gateway m) (plan : Plan) : Running m Theme.WrittenFiles := do
  note <| driftEntry .warn
    "CMS answered the minimal query but not the block query, block templates are outdated"
  match ← ask (gateway.write (.ofRegistry plan.registry plan.options)) with
  | .error failure => throw failure
  | .ok written =>
    note <| driftEntry .warn
      ("Regenerated " ++ toString written.files.length ++
        " block files, re-deploy the theme to the CMS")
    pure written

def runMinimal (gateway : Gateway m) (plan : Plan) : Running m Context := do
  moveTo .degraded
  match usable (← ask (gateway.fetch plan.template.minimalQuery)) with
  | .error useless => throw (unreachable useless)
  | .ok response =>
    let (snapshot, warnings) ← decode response
    let written ← regenerate gateway plan
    finish snapshot warnings (.degraded written)

def run (gateway : Gateway m) (plan : Plan) : Running m Context := do
  moveTo .querying
  match plan.template.fullQuery plan.registry with
  | .error failure => throw failure
  | .ok query =>
    match usable (← ask (gateway.fetch query)) with
    | .ok response =>
      let (snapshot, warnings) ← decode response
      finish snapshot warnings .full
    | .error useless =>
      note (noteUseless useless)
      runMinimal gateway plan

end Run

end ThemeBlocks.Sync
