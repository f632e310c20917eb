import Dossier.Fetch.Basic

/-!
Fetches in lockstep.

Two fetches of one configuration, on stores, states and caches of their own, go on alike as long as
they get the same answers.  That they do is known of single calls: a relation between their states
which every call keeps, and in which every call is answered alike, is kept by the fetches as a whole,
and they have the same result.
-/

namespace Dossier.Fetching

variable {σ τ α β : Type}

/-- In related states the fields of a type are the same, queries are answered alike and the warnings
agree; and the states after that are related. -/
structure Paired (related : FetchState τ → FetchState σ → Prop) (outer : Store τ) (inner : Store σ) :
    Prop where
  warnings : ∀ {state other}, related state other → state.warnings = other.warnings
  warn : ∀ {state other}, related state other → ∀ warnings,
    related { state with warnings } { other with warnings }
  fields : ∀ {state other}, related state other → ∀ object,
    let told := state.cache.fields outer object state.store
    let heard := other.cache.fields inner object other.store
    told.1 = heard.1 ∧ related { state with cache := told.2.1, store := told.2.2 }
      { other with cache := heard.2.1, store := heard.2.2 }
  query : ∀ {state other}, related state other → ∀ query,
    let told := outer.query query state.store
    let heard := inner.query query other.store
    told.1 = heard.1 ∧
      related { state with store := told.2 } { other with store := heard.2 }

/-- From related states the steps give the same, and end in related states. -/
def Lockstep (related : FetchState τ → FetchState σ → Prop) (step : Fetching τ α)
    (twin : Fetching σ α) : Prop :=
  ∀ state other, related state other →
    (step.run.run state).1 = (twin.run.run other).1 ∧
      related (step.run.run state).2 (twin.run.run other).2

variable {related : FetchState τ → FetchState σ → Prop}

section Steps

variable {step : Fetching τ α} {twin : Fetching σ α} {next : α → Fetching τ β}
  {next' : α → Fetching σ β}

theorem pure_lockstep (value : α) : Lockstep related (pure value) (pure value) :=
  fun _ _ start => ⟨rfl, start⟩

theorem Lockstep.bind (first : Lockstep related step twin)
    (rest : ∀ value, Lockstep related (next value) (next' value)) :
    Lockstep related (step >>= next) (twin >>= next') := by
  intro state other start
  obtain ⟨same, reached⟩ := first state other start
  rw [ExceptT.run_bind, StateT.run_bind, ExceptT.run_bind, StateT.run_bind]
  generalize step.run.run state = ended at same reached
  generalize twin.run.run other = ended' at same reached
  obtain ⟨result, last⟩ := ended
  obtain ⟨result', last'⟩ := ended'
  cases same
  cases result with
  | error error => exact ⟨rfl, reached⟩
  | ok value => exact rest value last last' reached

theorem get_bind_lockstep {next : FetchState τ → Fetching τ β}
    {next' : FetchState σ → Fetching σ β}
    (rest : ∀ state other, related state other → Lockstep related (next state) (next' other)) :
    Lockstep related (get >>= next) (get >>= next') :=
  fun state other start => rest state other start state other start

end Steps

variable {outer : Store τ} {inner : Store σ} (paired : Paired related outer inner) (config : Config)

include paired

theorem degrade_lockstep (object : String) (error : StoreError) (need : Need) :
    Lockstep related (degrade ⟨outer, config⟩ object error need)
      (degrade ⟨inner, config⟩ object error need) := by
  intro state other start
  unfold degrade
  split
  · exact ⟨rfl, start⟩
  · split
    · exact ⟨rfl, start⟩
    · have warned := paired.warn start
        (state.warnings.insert object (error.warning (config.registry.label object)))
      refine ⟨rfl, ?_⟩
      conv at warned => arg 2; rw [paired.warnings start]
      exact warned

theorem describe_lockstep (object : String) :
    Lockstep related (describe ⟨outer, config⟩ object) (describe ⟨inner, config⟩ object) := by
  intro state other start
  obtain ⟨same, reached⟩ := paired.fields start object
  exact ⟨congrArg Except.ok same, reached⟩

theorem ask_lockstep (query : Query) :
    Lockstep related (ask ⟨outer, config⟩ query) (ask ⟨inner, config⟩ query) := by
  intro state other start
  obtain ⟨same, reached⟩ := paired.query start query
  exact ⟨congrArg Except.ok same, reached⟩

theorem plan_lockstep (object : String) (need : Need) :
    Lockstep related (plan ⟨outer, config⟩ object need) (plan ⟨inner, config⟩ object need) := by
  refine (describe_lockstep paired config object).bind fun answer => ?_
  cases answer with
  | ok available => exact pure_lockstep _
  | error error =>
      exact (degrade_lockstep paired config object error need).bind fun _ => pure_lockstep _

theorem queryChunks_lockstep (object : String) (fields : List String) (idField : String) (need : Need)
    (records : List Record) (chunks : List (List String)) :
    Lockstep related (queryChunks ⟨outer, config⟩ object fields idField need records chunks)
      (queryChunks ⟨inner, config⟩ object fields idField need records chunks) := by
  induction chunks generalizing records with
  | nil => exact pure_lockstep _
  | cons chunk rest ih =>
      refine get_bind_lockstep fun state other start => ?_
      rw [paired.warnings start]
      by_cases warned : other.warnings.contains object = true
      · rw [if_pos warned, if_pos warned]
        exact pure_lockstep _
      · rw [if_neg warned, if_neg warned]
        refine (ask_lockstep paired config _).bind fun answer => ?_
        cases answer with
        | ok more => exact ih (records ++ more)
        | error error =>
            exact (degrade_lockstep paired config object error need).bind fun _ => pure_lockstep _

theorem fetchType_lockstep (object idField : String) (ids : List String) (need : Need) :
    Lockstep related (fetchType ⟨outer, config⟩ object idField ids need)
      (fetchType ⟨inner, config⟩ object idField ids need) := by
  refine (plan_lockstep paired config object need).bind fun planned => ?_
  cases planned with
  | none => exact pure_lockstep _
  | some plan =>
      exact (queryChunks_lockstep paired config object _ _ _ _ _).bind fun _ => pure_lockstep _

theorem queryPaths_lockstep (plan : ObjectPlan) (owners : LinkPath → List String)
    (pool : List Record) (sources : List LinkSource) :
    Lockstep related (queryPaths ⟨outer, config⟩ plan owners pool sources)
      (queryPaths ⟨inner, config⟩ plan owners pool sources) := by
  induction sources generalizing pool with
  | nil => exact pure_lockstep _
  | cons source rest ih =>
      refine (queryChunks_lockstep paired config plan.object _ _ _ _ _).bind fun selected => ?_
      cases selected with
      | none => exact pure_lockstep _
      | some records => exact ih (addNew pool records)

theorem fetchContactPoint_lockstep (object : String) (contactField individualField : Option String)
    (owners : LinkPath → List String) :
    Lockstep related (fetchContactPoint ⟨outer, config⟩ object contactField individualField owners)
      (fetchContactPoint ⟨inner, config⟩ object contactField individualField owners) := by
  refine (plan_lockstep paired config object .optional).bind fun planned => ?_
  cases planned with
  | none => exact pure_lockstep _
  | some plan =>
      exact (queryPaths_lockstep paired config plan owners _ _).bind fun _ => pure_lockstep _

omit paired in
theorem fetchAll_lockstep {fetch : EntityType → Option (Fetching τ Part)}
    {fetch' : EntityType → Option (Fetching σ Part)}
    (each : ∀ type, Option.Rel (Lockstep related) (fetch type) (fetch' type))
    (types : List EntityType) :
    Lockstep related (fetchAll fetch types) (fetchAll fetch' types) := by
  induction types with
  | nil => exact pure_lockstep _
  | cons type rest ih =>
      have first := each type
      rw [fetchAll, fetchAll]
      generalize fetch type = started at first
      generalize fetch' type = started' at first
      cases first with
      | none => exact ih
      | some step => exact step.bind fun part => ih.bind fun parts => pure_lockstep _

theorem direct_lockstep (accountIds : List String) (type : EntityType) :
    Option.Rel (Lockstep related) (direct ⟨outer, config⟩ accountIds type)
      (direct ⟨inner, config⟩ accountIds type) := by
  unfold direct
  split
  · exact .some (fetchType_lockstep paired config _ _ _ _)
  · exact .none

theorem referenced_lockstep (contacts : List Record) (type : EntityType) :
    Option.Rel (Lockstep related) (referenced ⟨outer, config⟩ contacts type)
      (referenced ⟨inner, config⟩ contacts type) := by
  unfold referenced
  split
  · exact .some (fetchType_lockstep paired config _ _ _ _)
  · exact .none

theorem contactPoint_lockstep (owners : LinkPath → List String) (type : EntityType) :
    Option.Rel (Lockstep related) (contactPoint ⟨outer, config⟩ owners type)
      (contactPoint ⟨inner, config⟩ owners type) := by
  unfold contactPoint
  split
  · exact .some (fetchContactPoint_lockstep paired config _ _ _ _)
  · exact .none

theorem stages_lockstep (accountIds : List String) :
    Lockstep related (stages ⟨outer, config⟩ accountIds) (stages ⟨inner, config⟩ accountIds) := by
  refine (fetchType_lockstep paired config _ _ _ _).bind fun accounts => ?_
  refine (fetchAll_lockstep (direct_lockstep paired config accountIds) _).bind fun direct => ?_
  refine (fetchAll_lockstep (referenced_lockstep paired config _) _).bind fun referenced => ?_
  exact (fetchAll_lockstep (contactPoint_lockstep paired config _) _).bind fun points =>
    pure_lockstep _

/-- Fetches which start in related states have the same result, and leave related ones. -/
theorem Paired.fetch (accountIds : List String) (cache : FieldCache) (state : τ)
    (cache' : FieldCache) (other : σ)
    (start : related ⟨state, cache, Warnings.empty⟩ ⟨other, cache', Warnings.empty⟩) :
    let told := fetch outer config accountIds cache state
    let heard := fetch inner config accountIds cache' other
    told.1 = heard.1 ∧
      ∃ warnings, related ⟨told.2.2, told.2.1, warnings⟩ ⟨heard.2.2, heard.2.1, warnings⟩ := by
  obtain ⟨same, reached⟩ := stages_lockstep paired config accountIds _ _ start
  have warnings := paired.warnings reached
  unfold Dossier.fetch
  generalize (stages ⟨outer, config⟩ accountIds).run.run _ = ended at same reached warnings
  generalize (stages ⟨inner, config⟩ accountIds).run.run _ = ended' at same reached warnings
  obtain ⟨result, last⟩ := ended
  obtain ⟨result', store, cache, warned⟩ := ended'
  cases same
  cases warnings
  exact ⟨rfl, _, reached⟩

end Dossier.Fetching
