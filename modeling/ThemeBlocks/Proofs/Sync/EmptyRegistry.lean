import ThemeBlocks.Proofs.Sync.Conduct

/-! Runs over a registry without blocks. There both queries are one text, and no block type can be
unknown to the CMS. A run does not look at that: it takes a failure of the first answer for drift as soon
as the second answer to the same query brings an object, and the theme is generated anew. -/

namespace ThemeBlocks.Sync

open Cms

def Regenerates (acts : List Act) : Prop :=
  ∃ bundle receipt, .handed bundle receipt ∈ acts

def ReportsDrift (result : Except Failure Context) : Prop :=
  ∃ context written, result = .ok context ∧ context.resolution = .degraded written

/-- What a run behind its first answer comes to: which queries are sent, and when a theme is handed over
and drift is reported. -/
structure Regeneration (plan : Plan) (first : Answer) (rest : List Act)
    (result : Except Failure Context) : Prop where
  queries : ∀ query answer, .asked query answer ∈ rest → query = plan.template.minimalQuery
  regenerates_iff : Regenerates rest ↔ ¬ BringsData first ∧
    ∃ second, .asked plan.template.minimalQuery second ∈ rest ∧ BringsObject second
  reports_iff : ReportsDrift result ↔ ∃ bundle written, .handed bundle (.ok written) ∈ rest

theorem regeneration_of_fallback {plan : Plan} {first : Answer} {rest : List Act}
    {result : Except Failure Context} (hdata : ¬ BringsData first) (h : Fallback plan rest result) :
    Regeneration plan first rest result := by
  cases h with
  | unreachable hsecond =>
    have hobject := not_bringsObject_of_useless hsecond
    constructor <;> simp [Regenerates, ReportsDrift, hobject]
  | unreadable hsecond hdecode =>
    have hobject := (not_bringsObject_of_undecoded hsecond hdecode).1
    constructor <;> simp [Regenerates, ReportsDrift, hobject]
  | refused hsecond hdecode =>
    have hobject := bringsObject_of_decoded hsecond hdecode
    constructor <;> simp [Regenerates, ReportsDrift, hdata, hobject]
  | regenerated hsecond hdecode =>
    have hobject := bringsObject_of_decoded hsecond hdecode
    constructor <;> simp [Regenerates, ReportsDrift, hdata, hobject]

theorem regeneration_of_course {plan : Plan} {query : String} {acts : List Act}
    {result : Except Failure Context} (h : Course plan query acts result) :
    ∃ first rest, acts = .asked query first :: rest ∧ Regeneration plan first rest result := by
  cases h with
  | full husable hdecode =>
    refine ⟨_, _, rfl, ?_⟩
    constructor <;> simp [Regenerates, ReportsDrift]
  | unreadable husable hdecode =>
    refine ⟨_, _, rfl, ?_⟩
    constructor <;> simp [Regenerates, ReportsDrift]
  | fallback huseless hrest =>
    exact ⟨_, _, rfl, regeneration_of_fallback (not_bringsData_of_useless huseless) hrest⟩

section Runs

variable {σ : Type} [Journal (StateM σ)] (gateway : Gateway (StateM σ)) (template : Query.Template)
  (options : Theme.Options) (state : State) (world : σ)

/-- Without blocks a run asks the minimal query, and the minimal query again if the first answer brings
no data. It hands a theme over exactly if that second answer brings an object, and reports drift
exactly if the theme is taken. -/
theorem run_without_blocks :
    ∃ first rest,
      actsOfRun gateway ⟨.empty, template, options⟩ state world =
        .asked template.minimalQuery first :: rest ∧
      Regeneration ⟨.empty, template, options⟩ first rest
        (((run gateway ⟨.empty, template, options⟩).run.run state).run world).1.1 := by
  have hquery : (Plan.mk .empty template options).template.fullQuery
      (Plan.mk .empty template options).registry = .ok template.minimalQuery := rfl
  obtain ⟨acts, hhappens, hcourse⟩ := does_run (watch gateway) hquery state ⟨world, []⟩
  have hacts : actsOfRun gateway ⟨.empty, template, options⟩ state world = acts :=
    acts_of_happens hhappens
  obtain ⟨first, rest, rfl, hregeneration⟩ := regeneration_of_course hcourse
  refine ⟨first, rest, hacts, ?_⟩
  rw [mirrors_run gateway ⟨.empty, template, options⟩ state ⟨world, []⟩]
  exact hregeneration

end Runs

/-- The first answer is lost on the way; the second one is good. -/
def lateScript : Script where
  answers := [.error (.transport none "connection reset"), .ok { data := some (.object []) }]
  ending := .unreadable "no answer"

theorem lateAnswer_regenerates :
    (Script.play ⟨.empty, .default, {}⟩ .querying lateScript).1.1 =
        .ok ⟨⟨[], []⟩, .degraded ⟨[⟨"functions.php"⟩]⟩, []⟩ ∧
      (Script.play ⟨.empty, .default, {}⟩ .querying lateScript).2.queries =
        [Query.Template.default.minimalQuery, Query.Template.default.minimalQuery] ∧
      (Script.play ⟨.empty, .default, {}⟩ .querying lateScript).2.bundles =
        [.ofRegistry .empty {}] :=
  ⟨rfl, rfl, rfl⟩

end ThemeBlocks.Sync
