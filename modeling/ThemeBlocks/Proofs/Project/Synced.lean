import ThemeBlocks.Proofs.Project.Runs
import ThemeBlocks.Proofs.Sync.Course

/-! A sync on a machine. It first gathers what it needs, which leaves the machine as it is; then the
detector runs, and its acts tell what is sent and when the files can change. -/

namespace ThemeBlocks.Project

open Files (Path)
open Settings (Task settle)
open Sync (Act Course Fallback Happens)

theorem run_noteAll (entries : List Entry) (machine : Machine) :
    (noteAll entries : Machine.Run Unit).run machine =
      ((), { machine with journal := machine.journal ++ entries }) := by
  induction entries generalizing machine with
  | nil =>
    rw [List.append_nil]
    rfl
  | cons entry entries ih =>
    change (noteAll entries : Machine.Run Unit).run
      { machine with journal := machine.journal ++ [entry] } = _
    rw [ih]
    simp

/-- The requests that a client makes of queries; without a way to the endpoint there are none. -/
def requestsFor (client : Cms.Client) (queries : List String) : List Web.Request :=
  if Web.isReachable client.endpoint then queries.map client.request else []

theorem requestsFor_append (client : Cms.Client) (front back : List String) :
    requestsFor client (front ++ back) = requestsFor client front ++ requestsFor client back := by
  unfold requestsFor
  split <;> simp

theorem run_fetch_of_reachable {client : Cms.Client} (h : Web.isReachable client.endpoint)
    (query : String) (machine : Machine) :
    ∃ journal, (client.fetch query : Machine.Run _).run machine =
      (Cms.Client.interpret client.endpoint (nextDelivery machine),
        { machine with
          requests := machine.requests ++ [client.request query]
          deliveries := machine.deliveries.tail
          journal }) := by
  let noted : Machine := { machine with journal := machine.journal ++ [client.sendingEntry query] }
  let remarks := Cms.Client.errorEntries
    (Cms.Client.interpret client.endpoint (nextDelivery machine))
  refine ⟨noted.journal ++ remarks, ?_⟩
  unfold Cms.Client.fetch
  rw [if_pos h]
  let out := (Machine.exchange (client.request query)).run noted
  change (Cms.Client.interpret client.endpoint out.1, ((noteAll (Cms.Client.errorEntries
    (Cms.Client.interpret client.endpoint out.1)) : Machine.Run Unit).run out.2).2) = _
  have hout : out = (nextDelivery machine, { noted with
      requests := machine.requests ++ [client.request query], deliveries := machine.deliveries.tail }) :=
    run_exchange (client.request query) noted
  rw [hout, run_noteAll]

theorem run_fetch_of_not_reachable {client : Cms.Client} (h : ¬ Web.isReachable client.endpoint)
    (query : String) (machine : Machine) :
    (client.fetch query : Machine.Run _).run machine =
      (.error (.transport none (Web.unsendable client.endpoint)),
        { machine with journal := machine.journal ++ [client.sendingEntry query] }) := by
  unfold Cms.Client.fetch
  rw [if_neg h]
  rfl

theorem run_fetch (client : Cms.Client) (query : String) (machine : Machine) :
    SameFiles ((client.fetch query : Machine.Run _).run machine).2 machine ∧
      ((client.fetch query : Machine.Run _).run machine).2.requests =
        machine.requests ++ requestsFor client [query] := by
  unfold requestsFor
  by_cases h : Web.isReachable client.endpoint
  · obtain ⟨journal, hrun⟩ := run_fetch_of_reachable h query machine
    rw [hrun, if_pos h]
    exact ⟨⟨rfl, rfl⟩, rfl⟩
  · rw [run_fetch_of_not_reachable h query machine, if_neg h]
    exact ⟨⟨rfl, rfl⟩, (List.append_nil _).symm⟩

theorem requests_writeTheme (root : Path) (bundle : Theme.Bundle) (machine : Machine) :
    ((writeTheme root bundle : Machine.Run _).run machine).2.requests = machine.requests := by
  rw [run_writeTheme_eq]
  exact (local_writeThemeFiles root bundle.files).requests machine

def queriesOf (acts : List Act) : List String :=
  acts.filterMap fun
    | .asked query _ => some query
    | .handed _ _ => none

theorem queriesOf_asked (acts : List Act) (query : String) (answer : Sync.Answer) :
    queriesOf (acts ++ [.asked query answer]) = queriesOf acts ++ [query] := by
  simp [queriesOf]

theorem queriesOf_handed (acts : List Act) (bundle : Theme.Bundle) (receipt : Sync.Receipt) :
    queriesOf (acts ++ [.handed bundle receipt]) = queriesOf acts := by
  simp [queriesOf]

section Acts

variable {client : Cms.Client} {root : Path} {start last : Machine} {acts : List Act}

theorem requests_of_happens (h : Happens (gateway client root) start acts last) :
    last.requests = start.requests ++ requestsFor client (queriesOf acts) := by
  induction h with
  | idle => simp [queriesOf, requestsFor]
  | noted entry _ ih => exact ih
  | @asked acts world query _ ih =>
    rw [queriesOf_asked, requestsFor_append, ← List.append_assoc, ← ih]
    exact (run_fetch client query world).2
  | @handed acts world bundle _ ih =>
    rw [queriesOf_handed, ← ih]
    exact requests_writeTheme root bundle world

theorem files_of_happens (h : Happens (gateway client root) start acts last)
    (hnone : ∀ bundle receipt, .handed bundle receipt ∉ acts) : SameFiles last start := by
  induction h with
  | idle => exact ⟨rfl, rfl⟩
  | noted entry _ ih => exact ih hnone
  | @asked acts world query _ ih =>
    obtain ⟨htree, hplace⟩ := ih fun bundle receipt hmem =>
      hnone bundle receipt (List.mem_append_left _ hmem)
    obtain ⟨htree', hplace'⟩ := (run_fetch client query world).1
    exact ⟨htree'.trans htree, hplace'.trans hplace⟩
  | handed bundle _ _ => exact absurd (List.mem_append_right _ List.mem_cons_self) (hnone bundle _)

/-- A bundle that is handed over last is written where nothing but the acts before it has happened. -/
theorem exists_writing {bundle : Theme.Bundle} {receipt : Sync.Receipt}
    (h : Happens (gateway client root) start (acts ++ [.handed bundle receipt]) last) :
    ∃ world, Happens (gateway client root) start acts world ∧
      ((writeTheme root bundle : Machine.Run _).run world).1 = receipt ∧
      last.tree = ((writeTheme root bundle : Machine.Run _).run world).2.tree := by
  -- What is noted leaves no act, so the last act need not be the last step.
  generalize hall : acts ++ [.handed bundle receipt] = all at h
  induction h with
  | idle => simp at hall
  | noted entry _ ih => exact ih hall
  | asked query _ _ =>
    cases (List.append_inj' hall rfl).2
  | @handed before world given hbefore _ =>
    obtain ⟨rfl, hact⟩ := List.append_inj' hall rfl
    cases hact
    exact ⟨world, hbefore, rfl, rfl⟩

end Acts

/-- Nothing is handed over, or the bundle of the plan is, last of all, and its receipt is what comes of
the run. -/
theorem course_cases {plan : Sync.Plan} {query : String} {acts : List Act}
    {result : Except Failure Sync.Context} (h : Course plan query acts result) :
    ((∀ bundle receipt, .handed bundle receipt ∉ acts) ∧
        (∀ context, result = .ok context → context.resolution = .full) ∧
        ∀ failure, result = .error failure → ¬ IsRegeneration failure) ∨
      ∃ asked receipt,
        acts = asked ++ [.handed (.ofRegistry plan.registry plan.options) receipt] ∧
        (∀ bundle receipt, .handed bundle receipt ∉ asked) ∧
        result.map (·.resolution) = receipt.map .degraded := by
  cases h with
  | full => exact .inl ⟨by simp, by rintro _ ⟨⟩; rfl, by rintro _ ⟨⟩⟩
  | unreadable => exact .inl ⟨by simp, by rintro _ ⟨⟩, by rintro _ ⟨⟩ ⟨_, ⟨⟩⟩⟩
  | fallback _ hfallback =>
    cases hfallback with
    | @unreachable _ useless =>
      refine .inl ⟨by simp, by rintro _ ⟨⟩, ?_⟩
      rintro _ ⟨⟩ ⟨cause, hcause⟩
      cases useless <;> cases hcause
    | unreadable => exact .inl ⟨by simp, by rintro _ ⟨⟩, by rintro _ ⟨⟩ ⟨_, ⟨⟩⟩⟩
    | refused => exact .inr ⟨[_, _], _, rfl, by simp, rfl⟩
    | regenerated => exact .inr ⟨[_, _], _, rfl, by simp, rfl⟩

theorem queriesOf_course {plan : Sync.Plan} {query : String} {acts : List Act}
    {result : Except Failure Sync.Context} (h : Course plan query acts result) :
    queriesOf acts <+: [query, plan.template.minimalQuery] := by
  cases h with
  | full => exact ⟨[_], rfl⟩
  | unreadable => exact ⟨[_], rfl⟩
  | fallback _ hfallback => cases hfallback <;> exact ⟨[], rfl⟩

structure Gathered (settings : Settings) (machine : Machine) (plan : Sync.Plan) (client : Cms.Client) :
    Prop where
  registry : settings.registry = .ok plan.registry
  template : (settings.template : Task Machine.Run _).run.run machine = (.ok plan.template, machine)
  options : (settings.options : Task Machine.Run _).run.run machine = (.ok plan.options, machine)
  client : (settings.client : Task Machine.Run _).run.run machine = (.ok client, machine)

inductive Synced (settings : Settings) (machine : Machine) :
    Except Trouble Sync.Context → Machine → Prop
  | ungathered {trouble : Trouble} : (∀ plan client, ¬ Gathered settings machine plan client) →
      IsOwn trouble → Synced settings machine (.error trouble) machine
  | ran {plan : Sync.Plan} {client : Cms.Client} {query : String} {acts : List Act}
      {result : Except Failure Sync.Context} {after : Machine} :
      Gathered settings machine plan client → plan.template.fullQuery plan.registry = .ok query →
      Course plan query acts result →
      Happens (gateway client settings.themePath) machine acts after →
      Synced settings machine (result.mapError .ofFailure) after

def detect (settings : Settings) (plan : Sync.Plan) (client : Cms.Client) :
    Task Machine.Run Sync.Context := do
  ExceptT.lift (Journal.note (fetchingEntry plan.registry client))
  let (result, _) ← ExceptT.lift <|
    (Sync.run (gateway client settings.themePath) plan).run.run .querying
  match result with
  | .ok context => pure context
  | .error failure => throw (.ofFailure failure)

theorem run_detect (settings : Settings) (plan : Sync.Plan) (client : Cms.Client) (machine : Machine) :
    ∃ query acts result after, plan.template.fullQuery plan.registry = .ok query ∧
      Course plan query acts result ∧
      Happens (gateway client settings.themePath) machine acts after ∧
      (detect settings plan client).run.run machine = (result.mapError .ofFailure, after) := by
  obtain ⟨query, hquery⟩ := Sync.fullQuery_eq_ok plan
  let noted : Machine :=
    { machine with journal := machine.journal ++ [fetchingEntry plan.registry client] }
  obtain ⟨acts, hacts, hcourse⟩ := Sync.does_run (gateway client settings.themePath) hquery
    .querying noted
  have hnoted : (ExceptT.lift (Journal.note (fetchingEntry plan.registry client)) :
      Task Machine.Run Unit).run.run machine = (.ok (), noted) := rfl
  refine ⟨query, acts, _, _, hquery, hcourse, (Happens.noted _ .idle).trans hacts, ?_⟩
  unfold detect
  rw [run_bind_of_ok hnoted, run_bind_of_ok (run_lift _ _)]
  generalize StateT.run ((Sync.run (gateway client settings.themePath) plan).run.run .querying :
    Machine.Run _) noted = out
  obtain ⟨⟨_ | _, _⟩, _⟩ := out <;> rfl

def gather (settings : Settings) : Task Machine.Run (Sync.Plan × Cms.Client) := do
  let registry ← settle settings.registry
  let template ← settings.template
  let options ← settings.options
  let client ← settings.client
  pure (⟨registry, template, options⟩, client)

theorem sync_eq (settings : Settings) :
    (sync settings : Task Machine.Run _) =
      gather settings >>= fun gathered => detect settings gathered.1 gathered.2 := by
  simp only [gather, bind_assoc, pure_bind]
  rfl

theorem gathers_gather (settings : Settings) : Gathers (gather settings) :=
  (gathers_registry settings).bind fun _ => (gathers_template settings).bind fun _ =>
    (gathers_options settings).bind fun _ => (gathers_client settings).bind fun _ => .pure _

theorem run_gather_iff {settings : Settings} {machine : Machine} {plan : Sync.Plan}
    {client : Cms.Client} :
    (gather settings).run.run machine = (.ok (plan, client), machine) ↔
      Gathered settings machine plan client := by
  constructor
  · intro h
    obtain ⟨registry, middle, hregistry, h⟩ := exists_run_of_bind h
    obtain rfl := (gathers_registry settings).machine_eq hregistry
    obtain ⟨template, middle, htemplate, h⟩ := exists_run_of_bind h
    obtain rfl := (gathers_template settings).machine_eq htemplate
    obtain ⟨options, middle, hoptions, h⟩ := exists_run_of_bind h
    obtain rfl := (gathers_options settings).machine_eq hoptions
    obtain ⟨given, middle, hclient, h⟩ := exists_run_of_bind h
    obtain rfl := (gathers_client settings).machine_eq hclient
    cases h
    exact ⟨(Prod.mk.inj hregistry).1, htemplate, hoptions, hclient⟩
  · rintro ⟨hregistry, htemplate, hoptions, hclient⟩
    unfold gather
    rw [run_bind_of_ok (run_registry hregistry machine), run_bind_of_ok htemplate, run_bind_of_ok hoptions,
      run_bind_of_ok hclient]
    rfl

theorem synced_run (settings : Settings) (machine : Machine) :
    Synced settings machine ((sync settings : Task Machine.Run _).run.run machine).1
      ((sync settings : Task Machine.Run _).run.run machine).2 := by
  have hgather := gathers_gather settings
  rw [sync_eq, run_bind, hgather.run_eq]
  cases hresult : ((gather settings).run.run machine).1 with
  | error trouble =>
    refine .ungathered (fun plan client h => ?_) (hgather.own machine _ hresult)
    rw [run_gather_iff.2 h] at hresult
    cases hresult
  | ok gathered =>
    have hrun := hgather.run_eq machine
    rw [hresult] at hrun
    obtain ⟨query, acts, result, after, hquery, hcourse, hacts, hdetect⟩ :=
      run_detect settings gathered.1 gathered.2 machine
    dsimp only
    rw [hdetect]
    exact .ran (run_gather_iff.1 hrun) hquery hcourse hacts

end ThemeBlocks.Project
