import ThemeBlocks.Proofs.Cms.Accounting
import ThemeBlocks.Proofs.Query.Slots
import ThemeBlocks.Proofs.Sync.Course
import ThemeBlocks.Sync.Script

/-! How a run is conducted, in terms of what its answers bring. A gateway is watched by one that keeps a
record of what passes through it; a run through either comes to the same. -/

namespace ThemeBlocks.Sync

open Cms

def BringsData (answer : Answer) : Prop :=
  ∃ response, answer = .ok response ∧ hasData response.data

def BringsObject (answer : Answer) : Prop :=
  ∃ response entries, answer = .ok response ∧ response.data = some (.object entries)

theorem usable_eq_ok_iff {answer : Answer} {response : Response} :
    usable answer = .ok response ↔ answer = .ok response ∧ hasData response.data := by
  cases answer with
  | error error => simp [usable]
  | ok given =>
    by_cases hdata : hasData given.data
    · simp only [usable, hdata, if_true, Except.ok.injEq]
      exact ⟨fun h => ⟨h, h ▸ hdata⟩, fun h => h.1⟩
    · simp only [usable, hdata, Except.ok.injEq]
      constructor
      · intro h
        cases h
      · rintro ⟨rfl, hfull⟩
        exact absurd hfull hdata

theorem bringsData_of_usable {answer : Answer} {response : Response} (h : usable answer = .ok response) :
    BringsData answer :=
  ⟨response, usable_eq_ok_iff.1 h⟩

theorem not_bringsData_of_useless {answer : Answer} {useless : FetchError ⊕ Response}
    (h : usable answer = .error useless) : ¬ BringsData answer := by
  rintro ⟨response, hbrings⟩
  rw [usable_eq_ok_iff.2 hbrings] at h
  cases h

theorem BringsObject.bringsData {answer : Answer} (h : BringsObject answer) : BringsData answer := by
  obtain ⟨response, entries, hanswer, hdata⟩ := h
  exact ⟨response, hanswer, by rw [hdata]; rfl⟩

theorem not_bringsObject_of_useless {answer : Answer} {useless : FetchError ⊕ Response}
    (h : usable answer = .error useless) : ¬ BringsObject answer :=
  fun hobject => not_bringsData_of_useless h hobject.bringsData

theorem bringsObject_of_decoded {answer : Answer} {response : Response}
    {decoded : Snapshot × List Warning} (husable : usable answer = .ok response)
    (hdecode : Snapshot.decode (response.data.getD .null) = .ok decoded) : BringsObject answer := by
  by_contra hnone
  have hother : ∀ entries, response.data.getD .null ≠ .object entries := by
    intro entries hentries
    refine hnone ⟨response, entries, (usable_eq_ok_iff.1 husable).1, ?_⟩
    cases hdata : response.data with
    | none => simp [hdata] at hentries
    | some data => simpa [hdata] using hentries
  rw [decode_eq_error_iff.2 ⟨hother, rfl⟩] at hdecode
  cases hdecode

theorem not_bringsObject_of_undecoded {answer : Answer} {response : Response} {error : FetchError}
    (husable : usable answer = .ok response)
    (hdecode : Snapshot.decode (response.data.getD .null) = .error error) :
    ¬ BringsObject answer ∧ ∃ cause, error = .unreadable cause := by
  obtain ⟨hother, rfl⟩ := decode_eq_error_iff.1 hdecode
  refine ⟨?_, _, rfl⟩
  rintro ⟨given, entries, hanswer, hdata⟩
  have hgiven : Except.ok given = .ok response := hanswer.symm.trans (usable_eq_ok_iff.1 husable).1
  cases hgiven
  exact hother entries (by rw [hdata]; rfl)

/-- The acts behind the first query, and the result, as the answers and the receipt make them. -/
structure Conducted (plan : Plan) (first : Answer) (rest : List Act)
    (result : Except Failure Context) : Prop where
  no_second : BringsData first → rest = []
  second : ¬ BringsData first → ∃ answer more,
    rest = .asked plan.template.minimalQuery answer :: more ∧
      (BringsObject answer →
        ∃ receipt, more = [.handed (.ofRegistry plan.registry plan.options) receipt]) ∧
      (¬ BringsObject answer → more = [])
  full_iff : (∃ context, result = .ok context ∧ context.resolution = .full) ↔ BringsObject first
  degraded_iff : ∀ written,
    (∃ context, result = .ok context ∧ context.resolution = .degraded written) ↔
      .handed (.ofRegistry plan.registry plan.options) (.ok written) ∈ rest
  refused_iff : ∀ failure,
    (result = .error failure ∧ ∃ cause, failure = .regeneration cause) ↔
      .handed (.ofRegistry plan.registry plan.options) (.error failure) ∈ rest
  unreachable_iff : (∃ cause, result = .error (.unreachable cause)) ↔
    ∃ answer, rest = [.asked plan.template.minimalQuery answer] ∧ ¬ BringsData answer
  unreadable_iff : (∃ cause, result = .error (.fetch (.unreadable cause))) ↔
    (BringsData first ∧ ¬ BringsObject first) ∨
      ∃ answer, rest = [.asked plan.template.minimalQuery answer] ∧
        BringsData answer ∧ ¬ BringsObject answer

theorem exists_unreachable (useless : FetchError ⊕ Response) :
    ∃ cause, unreachable useless = .unreachable cause := by
  cases useless <;> exact ⟨_, rfl⟩

theorem conducted_of_fallback {plan : Plan} {first : Answer} {rest : List Act}
    {result : Except Failure Context} (hdata : ¬ BringsData first) (h : Fallback plan rest result)
    (refuses : ∀ bundle failure, .handed bundle (.error failure) ∈ rest →
      ∃ cause, failure = .regeneration cause) : Conducted plan first rest result := by
  have hobject : ¬ BringsObject first := fun h => hdata h.bringsData
  cases h with
  | unreachable hsecond =>
    have hdata' := not_bringsData_of_useless hsecond
    have hobject' := not_bringsObject_of_useless hsecond
    obtain ⟨cause, hcause⟩ := exists_unreachable _
    rw [hcause]
    exact
      { no_second := by simp [hdata]
        second := fun _ => ⟨_, _, rfl, by simp [hobject'], by simp⟩
        full_iff := by simp [hobject]
        degraded_iff := by simp
        refused_iff := by simp
        unreachable_iff := by simp [hdata']
        unreadable_iff := by simp [hdata, hdata'] }
  | unreadable hsecond hdecode =>
    have hdata' := bringsData_of_usable hsecond
    obtain ⟨hobject', cause, rfl⟩ := not_bringsObject_of_undecoded hsecond hdecode
    exact
      { no_second := by simp [hdata]
        second := fun _ => ⟨_, _, rfl, by simp [hobject'], by simp⟩
        full_iff := by simp [hobject]
        degraded_iff := by simp
        refused_iff := by simp
        unreachable_iff := by simp [hdata']
        unreadable_iff := by simp [hdata', hobject'] }
  | refused hsecond hdecode =>
    have hobject' := bringsObject_of_decoded hsecond hdecode
    -- A refusal for another cause could pass for one of the other ways out.
    obtain ⟨cause, rfl⟩ := refuses _ _ (List.mem_cons_of_mem _ (List.mem_singleton_self _))
    exact
      { no_second := by simp [hdata]
        second := fun _ => ⟨_, _, rfl, by simp, by simp [hobject']⟩
        full_iff := by simp [hobject]
        degraded_iff := by simp
        refused_iff := by
          intro failure
          constructor
          · rintro ⟨hresult, -⟩
            cases hresult
            simp
          · intro h
            obtain rfl : failure = .regeneration cause := by simpa using h
            exact ⟨rfl, cause, rfl⟩
        unreachable_iff := by simp
        unreadable_iff := by simp [hdata] }
  | regenerated hsecond hdecode =>
    have hobject' := bringsObject_of_decoded hsecond hdecode
    exact
      { no_second := by simp [hdata]
        second := fun _ => ⟨_, _, rfl, by simp, by simp [hobject']⟩
        full_iff := by simp [hobject]
        degraded_iff := by simp [eq_comm]
        refused_iff := by simp
        unreachable_iff := by simp
        unreadable_iff := by simp [hdata] }

theorem conducted_of_course {plan : Plan} {query : String} {acts : List Act}
    {result : Except Failure Context} (h : Course plan query acts result)
    (refuses : ∀ bundle failure, .handed bundle (.error failure) ∈ acts →
      ∃ cause, failure = .regeneration cause) :
    ∃ first rest, acts = .asked query first :: rest ∧ Conducted plan first rest result := by
  cases h with
  | full husable hdecode =>
    have hdata := bringsData_of_usable husable
    have hobject := bringsObject_of_decoded husable hdecode
    refine ⟨_, _, rfl, ?_⟩
    constructor <;> simp [hdata, hobject]
  | unreadable husable hdecode =>
    have hdata := bringsData_of_usable husable
    obtain ⟨hobject, cause, rfl⟩ := not_bringsObject_of_undecoded husable hdecode
    refine ⟨_, _, rfl, ?_⟩
    constructor <;> simp [hdata, hobject]
  | fallback huseless hrest =>
    exact ⟨_, _, rfl, conducted_of_fallback (not_bringsData_of_useless huseless) hrest
      fun bundle failure hmem => refuses bundle failure (List.mem_cons_of_mem _ hmem)⟩

structure Watched (σ : Type) where
  world : σ
  acts : List Act := []

section Watching

variable {σ : Type} [Journal (StateM σ)]

instance : Journal (StateM (Watched σ)) where
  note entry := modify fun watched =>
    { watched with world := ((Journal.note entry : StateM σ Unit).run watched.world).2 }

/-- The same two ends, with a record of what passes through them. -/
def watch (gateway : Gateway (StateM σ)) : Gateway (StateM (Watched σ)) where
  fetch query := do
    let watched ← get
    let (answer, world) := (gateway.fetch query).run watched.world
    set (⟨world, watched.acts ++ [.asked query answer]⟩ : Watched σ)
    pure answer
  write bundle := do
    let watched ← get
    let (receipt, world) := (gateway.write bundle).run watched.world
    set (⟨world, watched.acts ++ [.handed bundle receipt]⟩ : Watched σ)
    pure receipt

def actsOfRun (gateway : Gateway (StateM σ)) (plan : Plan) (state : State) (world : σ) : List Act :=
  (((run (watch gateway) plan).run.run state).run ⟨world, []⟩).2.acts

variable {gateway : Gateway (StateM σ)}

theorem acts_of_happens {start last : Watched σ} {acts : List Act}
    (h : Happens (watch gateway) start acts last) : last.acts = start.acts ++ acts := by
  induction h with
  | idle => simp
  | noted entry _ ih => exact ih
  | @asked acts watched query _ ih =>
    change watched.acts ++ _ = _
    rw [ih, List.append_assoc]
    rfl
  | @handed acts watched bundle _ ih =>
    change watched.acts ++ _ = _
    rw [ih, List.append_assoc]
    rfl

/-- What is done through the watched gateway is what is done through the gateway itself. -/
def Mirrors {α : Type} (watched : Running (StateM (Watched σ)) α) (plain : Running (StateM σ) α) :
    Prop :=
  ∀ state start, (plain.run.run state).run start.world =
    (((watched.run.run state).run start).1, ((watched.run.run state).run start).2.world)

namespace Mirrors

variable {α β : Type}

omit [Journal (StateM σ)] in
theorem bind {watched : Running (StateM (Watched σ)) α} {plain : Running (StateM σ) α}
    {more : α → Running (StateM (Watched σ)) β} {next : α → Running (StateM σ) β}
    (hx : Mirrors watched plain) (hnext : ∀ value, Mirrors (more value) (next value)) :
    Mirrors (watched >>= more) (plain >>= next) := by
  intro state start
  have hfirst := hx state start
  rw [run_bind, run_bind, hfirst]
  generalize (watched.run.run state).run start = out
  obtain ⟨⟨result, state⟩, start⟩ := out
  cases result with
  | error failure => rfl
  | ok value => exact hnext value state start

omit [Journal (StateM σ)] in
theorem pure (value : α) : Mirrors (Pure.pure value : Running (StateM (Watched σ)) α) (Pure.pure value) :=
  fun _ _ => rfl

omit [Journal (StateM σ)] in
theorem throw (failure : Failure) :
    Mirrors (MonadExcept.throw failure : Running (StateM (Watched σ)) α) (MonadExcept.throw failure) :=
  fun _ _ => rfl

end Mirrors

theorem mirrors_note (entry : Entry) :
    Mirrors (note entry : Running (StateM (Watched σ)) Unit) (note entry) :=
  fun _ _ => rfl

theorem mirrors_noteAll (entries : List Entry) :
    Mirrors (ask (noteAll entries) : Running (StateM (Watched σ)) Unit) (ask (noteAll entries)) := by
  induction entries with
  | nil => exact fun _ _ => rfl
  | cons entry entries ih =>
    intro state start
    exact ih state
      { start with world := ((Journal.note entry : StateM σ Unit).run start.world).2 }

theorem mirrors_moveTo (next : State) :
    Mirrors (moveTo next : Running (StateM (Watched σ)) Unit) (moveTo next) :=
  fun _ _ => rfl

theorem mirrors_decode (response : Response) :
    Mirrors (decode response : Running (StateM (Watched σ)) _) (decode response) := by
  unfold decode
  cases Snapshot.decode (response.data.getD .null) with
  | error error => exact .throw _
  | ok decoded => exact (mirrors_noteAll _).bind fun _ => .pure _

theorem mirrors_finish (snapshot : Snapshot) (warnings : List Warning) (resolution : Resolution) :
    Mirrors (finish snapshot warnings resolution : Running (StateM (Watched σ)) _)
      (finish snapshot warnings resolution) :=
  (mirrors_moveTo _).bind fun _ => (mirrors_note _).bind fun _ => .pure _

variable (gateway : Gateway (StateM σ)) (plan : Plan)

theorem mirrors_regenerate : Mirrors (regenerate (watch gateway) plan) (regenerate gateway plan) := by
  refine (mirrors_note _).bind fun _ => Mirrors.bind (fun _ _ => rfl) fun receipt => ?_
  cases receipt with
  | error failure => exact .throw _
  | ok written => exact (mirrors_note _).bind fun _ => .pure _

theorem mirrors_runMinimal : Mirrors (runMinimal (watch gateway) plan) (runMinimal gateway plan) := by
  refine (mirrors_moveTo _).bind fun _ => Mirrors.bind (fun _ _ => rfl) fun answer => ?_
  cases usable answer with
  | error useless => exact .throw _
  | ok response =>
    exact (mirrors_decode response).bind fun decoded =>
      (mirrors_regenerate gateway plan).bind fun written => mirrors_finish _ _ _

theorem mirrors_run : Mirrors (run (watch gateway) plan) (run gateway plan) := by
  refine (mirrors_moveTo _).bind fun _ => ?_
  cases plan.template.fullQuery plan.registry with
  | error failure => exact .throw _
  | ok query =>
    refine Mirrors.bind (fun _ _ => rfl) fun answer => ?_
    cases usable answer with
    | error useless => exact (mirrors_note _).bind fun _ => mirrors_runMinimal gateway plan
    | ok response =>
      exact (mirrors_decode response).bind fun decoded => mirrors_finish _ _ _

/-- A run asks the full query first, asks the minimal query once if the first answer brings no data, and
hands the theme over once if the second answer then brings an object; its result tells which of this
happened. The state that an earlier run left does not matter. -/
theorem run_conducted (state : State) (world : σ)
    (refuses : ∀ bundle world failure, ((gateway.write bundle).run world).1 = .error failure →
      ∃ cause, failure = .regeneration cause) :
    ∃ query first rest, plan.template.fullQuery plan.registry = .ok query ∧
      actsOfRun gateway plan state world = .asked query first :: rest ∧
      Conducted plan first rest (((run gateway plan).run.run state).run world).1.1 := by
  obtain ⟨query, hquery⟩ := fullQuery_eq_ok plan
  obtain ⟨acts, hhappens, hcourse⟩ := does_run (watch gateway) hquery state ⟨world, []⟩
  have hacts : actsOfRun gateway plan state world = acts := acts_of_happens hhappens
  have hrefuses : ∀ bundle failure, .handed bundle (.error failure) ∈ acts →
      ∃ cause, failure = .regeneration cause := by
    intro bundle failure hmem
    obtain ⟨watched, hreceipt⟩ := exists_world_of_handed hhappens hmem
    exact refuses bundle watched.world failure hreceipt
  obtain ⟨first, rest, rfl, hconducted⟩ := conducted_of_course hcourse hrefuses
  have hmirrors := mirrors_run gateway plan state ⟨world, []⟩
  refine ⟨query, first, rest, hquery, hacts, ?_⟩
  rw [hmirrors]
  exact hconducted

end Watching

def regenerating : Gateway Script.Play where
  fetch := Script.fetch
  write bundle := do
    let receipt ← Script.write bundle
    pure (receipt.mapError fun failure => .regeneration failure.message)

theorem regenerating_refuses (bundle : Theme.Bundle) (script : Script) (failure : Failure)
    (h : ((regenerating.write bundle).run script).1 = .error failure) :
    ∃ cause, failure = .regeneration cause := by
  have hreceipt : ((regenerating.write bundle).run script).1 =
      ((Script.write bundle).run script).1.mapError fun failure => .regeneration failure.message := rfl
  rw [hreceipt] at h
  cases hwrite : ((Script.write bundle).run script).1 with
  | ok written =>
    rw [hwrite] at h
    cases h
  | error cause =>
    rw [hwrite] at h
    cases h
    exact ⟨_, rfl⟩

def refusedScript : Script where
  answers := [.error (.unreadable "no JSON"), .ok { data := some (.object []) }]
  ending := .unreadable "no answer"
  refusal := some (.regeneration "disk full")

def heroPlan : Plan where
  registry := {
    blocks := [{ blockName := "hero", displayName := "Hero", typeName := "AcfHero" }]
    accepted := rfl }
  template := .default
  options := { blocksDirectory := "parts" }

theorem run_conducted_refused :
    ∃ query first rest, heroPlan.template.fullQuery heroPlan.registry = .ok query ∧
      query ≠ heroPlan.template.minimalQuery ∧
      actsOfRun regenerating heroPlan .resolved refusedScript = .asked query first :: rest ∧
      Conducted heroPlan first rest
        (((run regenerating heroPlan).run.run .resolved).run refusedScript).1.1 := by
  obtain ⟨query, first, rest, hquery, hacts, hconducted⟩ :=
    run_conducted regenerating heroPlan .resolved refusedScript regenerating_refuses
  refine ⟨query, first, rest, hquery, ?_, hacts, hconducted⟩
  rintro rfl
  exact absurd ((heroPlan.template.fullQuery_eq_minimalQuery_iff heroPlan.registry).1 hquery)
    (List.cons_ne_nil _ _)

end ThemeBlocks.Sync
