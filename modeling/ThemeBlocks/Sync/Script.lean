import ThemeBlocks.Sync.Drift

/-! A gateway that is played from prepared answers. It keeps what was asked, what was handed over and
what was noted, so that a run over it can be looked at as a whole. -/

namespace ThemeBlocks.Sync

open Cms

structure Script where
  answers : List (Except FetchError Response) := []
  /-- The answer when no prepared one is left. -/
  ending : FetchError
  /-- Why bundles are refused, if they are. -/
  refusal : Option Failure := none
  queries : List String := []
  bundles : List Theme.Bundle := []
  journal : List Entry := []

namespace Script

abbrev Play := StateM Script

instance : Journal Play where
  note entry := modify fun script => { script with journal := script.journal ++ [entry] }

def fetch (query : String) : Play (Except FetchError Response) := do
  let script ← get
  let asked := { script with queries := script.queries ++ [query] }
  match script.answers with
  | [] =>
    set asked
    pure (.error script.ending)
  | answer :: answers =>
    set { asked with answers }
    pure answer

/-- Takes a bundle, and reports its paths unless bundles are refused. -/
def write (bundle : Theme.Bundle) : Play (Except Failure Theme.WrittenFiles) := do
  let script ← get
  set { script with bundles := script.bundles ++ [bundle] }
  match script.refusal with
  | some failure => pure (.error failure)
  | none => pure (.ok ⟨bundle.files.map (·.path)⟩)

def gateway : Gateway Play := ⟨fetch, write⟩

def play (plan : Plan) (state : State) (script : Script) :
    (Except Failure Context × State) × Script :=
  ((run gateway plan).run.run state).run script

end Script

end ThemeBlocks.Sync
