import ThemeBlocks.Proofs.Json.Printed
import ThemeBlocks.Proofs.Project.Synced

/-! The commands agree. A sync that regenerates leaves the files that `generate` leaves, with the same
report, and what it asks are the queries that `queryText` tells. -/

namespace ThemeBlocks.Project

open Files (Path)
open Settings (Task settle)
open Sync (Act Course Happens)

def compiled (settings : Settings) : Task Machine.Run Theme.Bundle := do
  let registry ← settle settings.registry
  let options ← settings.options
  pure (.ofRegistry registry options)

def writeOut (settings : Settings) (bundle : Theme.Bundle) : Task Machine.Run Theme.WrittenFiles := do
  let result ← ExceptT.lift (writeTheme settings.themePath bundle)
  settle (attempt ("Failed to write theme files to " ++ settings.themePath.text) result)

theorem generate_eq (settings : Settings) :
    (generate settings : Task Machine.Run _) = compiled settings >>= writeOut settings := by
  simp only [compiled, bind_assoc, pure_bind]
  rfl

theorem gathers_compiled (settings : Settings) : Gathers (compiled settings) :=
  (gathers_registry settings).bind fun _ => (gathers_options settings).bind fun _ => .pure _

theorem local_compiled (settings : Settings) : Local (compiled settings) :=
  (local_settle _).bind fun _ => (local_options settings).bind fun _ => .pure _

theorem run_writeOut (settings : Settings) (bundle : Theme.Bundle) (machine : Machine) :
    (writeOut settings bundle).run.run machine =
      (attempt ("Failed to write theme files to " ++ settings.themePath.text)
          ((writeTheme settings.themePath bundle : Machine.Run _).run machine).1,
        ((writeTheme settings.themePath bundle : Machine.Run _).run machine).2) := by
  unfold writeOut
  rw [run_bind_of_ok (run_lift _ machine)]
  rfl

theorem run_generate {settings : Settings} {bundle : Theme.Bundle} {machine after : Machine}
    {written : Theme.WrittenFiles}
    (hcompiled : (compiled settings).run.run machine = (.ok bundle, machine)) :
    (generate settings : Task Machine.Run _).run.run machine = (.ok written, after) ↔
      (writeTheme settings.themePath bundle : Machine.Run _).run machine = (.ok written, after) := by
  rw [generate_eq, run_bind_of_ok hcompiled, run_writeOut]
  generalize (writeTheme settings.themePath bundle : Machine.Run _).run machine = out
  obtain ⟨_ | given, last⟩ := out
  · constructor <;> (intro h; cases h)
  · constructor <;> (intro h; cases h; rfl)

theorem compiled_of_gathered {settings : Settings} {machine : Machine} {plan : Sync.Plan}
    {client : Cms.Client} (h : Gathered settings machine plan client) :
    (compiled settings).run.run machine = (.ok (.ofRegistry plan.registry plan.options), machine) := by
  unfold compiled
  rw [run_bind_of_ok (run_registry h.registry machine), run_bind_of_ok h.options]
  rfl

theorem writeTheme_of_sameFiles (root : Path) (bundle : Theme.Bundle) {machine other : Machine}
    (hsame : SameFiles machine other) :
    ((writeTheme root bundle : Machine.Run _).run machine).1 =
        ((writeTheme root bundle : Machine.Run _).run other).1 ∧
      SameFiles ((writeTheme root bundle : Machine.Run _).run machine).2
        ((writeTheme root bundle : Machine.Run _).run other).2 := by
  obtain ⟨hresult, hfiles⟩ := (local_writeThemeFiles root bundle.files).agrees machine other hsame
  rw [run_writeTheme_eq, run_writeTheme_eq, hresult]
  exact ⟨rfl, hfiles⟩

theorem local_writeOut (settings : Settings) (bundle : Theme.Bundle) :
    Local (writeOut settings bundle) := by
  constructor
  · intro machine other hsame
    obtain ⟨hresult, hfiles⟩ := writeTheme_of_sameFiles settings.themePath bundle hsame
    rw [run_writeOut, run_writeOut, hresult]
    exact ⟨rfl, hfiles⟩
  · intro machine
    rw [run_writeOut]
    exact requests_writeTheme settings.themePath bundle machine

/-- What `generate` reports and what it leaves depends on the files it finds. -/
theorem local_generate (settings : Settings) :
    Local (generate settings : Task Machine.Run Theme.WrittenFiles) := by
  rw [generate_eq]
  exact (local_compiled settings).bind (local_writeOut settings)

def sentQuery? (request : Web.Request) : Option String :=
  match Json.treeOf request.body with
  | .ok body => (body.member? "query").bind Json.Value.text?
  | .error _ => none

theorem treeOf_requestBody (query : String) :
    Json.treeOf (Cms.Client.requestBody query) =
      .ok (.object [("query", .string query), ("variables", .object [])]) :=
  Json.treeOf_of_readable (Json.Value.readable_compact (by simp [Json.Value.ReadsBack]))

theorem sentQuery?_request (client : Cms.Client) (query : String) :
    sentQuery? (client.request query) = some query := by
  unfold sentQuery? Cms.Client.request
  rw [treeOf_requestBody]
  rfl

theorem run_queryText {settings : Settings} {machine : Machine} {plan : Sync.Plan}
    {client : Cms.Client} (h : Gathered settings machine plan client) {query : String}
    (hquery : plan.template.fullQuery plan.registry = .ok query) :
    (queryText settings false : Task Machine.Run _).run.run machine = (.ok query, machine) ∧
      (queryText settings true : Task Machine.Run _).run.run machine =
        (.ok plan.template.minimalQuery, machine) := by
  unfold queryText
  refine ⟨?_, ?_⟩
  · rw [run_bind_of_ok h.template, if_neg (by simp), run_bind_of_ok (run_registry h.registry machine), hquery]
    rfl
  · rw [run_bind_of_ok h.template, if_pos rfl]
    rfl

theorem sentQuery?_requestsFor (client : Cms.Client) (queries : List String) :
    (requestsFor client queries).map sentQuery? <+: queries.map some := by
  unfold requestsFor
  split
  · simp only [List.map_map, Function.comp_def, sentQuery?_request]
    exact List.prefix_rfl
  · exact List.nil_prefix

theorem exists_written_of_degraded {client : Cms.Client} {root : Path} {plan : Sync.Plan}
    {query : String} {acts : List Act} {result : Except Failure Sync.Context}
    {machine after : Machine} (hcourse : Course plan query acts result)
    (hacts : Happens (gateway client root) machine acts after) {context : Sync.Context}
    {written : Theme.WrittenFiles} (hcontext : result = .ok context)
    (hresolution : context.resolution = .degraded written) :
    ∃ world, SameFiles world machine ∧
      ((writeTheme root (.ofRegistry plan.registry plan.options) : Machine.Run _).run world).1 =
        .ok written ∧
      after.tree = ((writeTheme root (.ofRegistry plan.registry plan.options) :
        Machine.Run _).run world).2.tree := by
  rcases course_cases hcourse with ⟨-, hfull, -⟩ | ⟨asked, receipt, rfl, hnone, hresult⟩
  · cases (hfull context hcontext).symm.trans hresolution
  · obtain ⟨world, hasked, hreceipt, htree⟩ := exists_writing hacts
    refine ⟨world, files_of_happens hasked hnone, ?_, htree⟩
    subst hcontext
    cases receipt with
    | error failure => cases hresult
    | ok given =>
      cases hresolution.symm.trans (Except.ok.inj hresult)
      exact hreceipt

/-- What a sync does to the files when it ends in a regeneration, `generate` does too, on any machine
with these files; and whatever a sync sends, the full query goes first and then the minimal one. -/
theorem sync_agrees (settings : Settings) (machine : Machine) :
    let out := (sync settings : Task Machine.Run _).run.run machine
    (∀ context written, out.1 = .ok context → context.resolution = .degraded written →
      ∀ other, SameFiles machine other →
        ∃ last, (generate settings : Task Machine.Run _).run.run other = (.ok written, last) ∧
          last.tree = out.2.tree) ∧
      ∃ sent, out.2.requests = machine.requests ++ sent ∧ (sent ≠ [] →
        ∃ full minimal,
          (queryText settings false : Task Machine.Run _).run.run machine = (.ok full, machine) ∧
          (queryText settings true : Task Machine.Run _).run.run machine = (.ok minimal, machine) ∧
          sent.map sentQuery? <+: [some full, some minimal]) := by
  intro out
  have hsynced : Synced settings machine out.1 out.2 := synced_run settings machine
  generalize out.1 = result at hsynced ⊢
  generalize out.2 = after at hsynced ⊢
  cases hsynced with
  | ungathered _ _ =>
    exact ⟨fun _ _ h => (by cases h), [], (List.append_nil _).symm, fun h => absurd rfl h⟩
  | @ran plan client query acts result _ hgathered hquery hcourse hacts =>
    refine ⟨fun context written hcontext hresolution other hsame => ?_,
      requestsFor client (queriesOf acts), requests_of_happens hacts, fun _ => ?_⟩
    · cases result with
      | error failure => cases hcontext
      | ok given =>
        cases hcontext
        obtain ⟨world, hworld, hwritten, htree⟩ :=
          exists_written_of_degraded hcourse hacts rfl hresolution
        obtain ⟨hresult, hfiles⟩ := writeTheme_of_sameFiles settings.themePath
          (.ofRegistry plan.registry plan.options) hworld
        have hgenerated := (run_generate (compiled_of_gathered hgathered)).2
          (Prod.ext (hresult.symm.trans hwritten) rfl)
        obtain ⟨hagrees, hlast⟩ := (local_generate settings).agrees machine other hsame
        rw [hgenerated] at hagrees hlast
        refine ⟨((generate settings : Task Machine.Run _).run.run other).2,
          Prod.ext hagrees.symm rfl, ?_⟩
        exact hlast.1.symm.trans (hfiles.1.symm.trans htree.symm)
    · obtain ⟨hfull, hminimal⟩ := run_queryText hgathered hquery
      exact ⟨query, plan.template.minimalQuery, hfull, hminimal,
        (sentQuery?_requestsFor client _).trans ((queriesOf_course hcourse).map some)⟩

-- A CMS that leaves the full query without an answer, and answers the minimal one by an empty object.
example : ((sync { endpoint := some "http://a/", themeDirectory := some ⟨"theme"⟩ } :
      Task Machine.Run _).run.run
    { directory := ⟨"/"⟩, place := [],
      deliveries := [.dropped,
        .answer 200 (some "\x7b\"data\":\x7b\x7d\x7d".toUTF8.toList)] }).1.toOption.map
    (·.resolution) = some (.degraded ⟨[⟨"theme/functions.php"⟩]⟩) := by decide +kernel

end ThemeBlocks.Project
