import Dossier.Proofs.Join.Rows

/-!
What is fetched of a fixture, as rows.

A plan decides what is shown of a row, but not which rows are selected: that depends on the
identifiers which are asked for and on the fields which the store knows.
-/

namespace Dossier.Fixture

open Fetching (chunked chunksOf addNew)

variable (fixture : Fixture) (config : Config)

/-- The configuration has the store queried for the field. -/
def Queries (object field : String) : Prop :=
  ∃ plan, fixture.answers.plan object config = .ok plan ∧ field ∈ plan.queryFields

/-- What is fetched of a row of a type. -/
def shown (object : String) (row : Row) : Record :=
  match fixture.answers.plan object config with
  | .ok plan => project plan.queryFields row
  | .error _ => Record.empty

/-- The rows of a type which are asked for by texts of a field.  There are none where the store knows
no identifiers, or not the field. -/
def rowsBy (object idField : String) (ids : List String) : List Row :=
  if fixture.knows object Record.idField && fixture.knows object idField then
    chunked (Row.text? · idField) (fixture.rowsOf object) (chunksOf chunkSize ids)
  else []

/-- The identifier of a row, if it has one. -/
def rowId? (row : Row) : Option String :=
  (project [Record.idField] row).id?

/-- Rows which were not reached before. -/
def addNewRows (pool more : List Row) : List Row :=
  more.foldl (fun pool row =>
    match rowId? row with
    | some id => if pool.any (rowId? · == some id) then pool else pool ++ [row]
    | none => pool ++ [row]) pool

/-- The rows to which one path after the other leads. -/
def reachedRows (object : String) (owners : LinkPath → List String) :
    List Row → List LinkSource → List Row
  | pool, [] => pool
  | pool, source :: rest =>
      reachedRows object owners
        (addNewRows pool (fixture.rowsBy object source.field (owners source.path))) rest

variable {fixture config} {object : String}

theorem not_knows_of_unplanned {error : StoreError}
    (unplanned : fixture.answers.plan object config = .error error) (field : String) :
    fixture.knows object field = false := by
  unfold Answers.plan at unplanned
  unfold knows
  cases described : fixture.fieldsOf object with
  | error reason => rfl
  | ok available =>
      have answered : fixture.answers.describe object = .ok available := described
      simp [answered, Except.map] at unplanned

theorem planned_of_knows {field : String} (known : fixture.knows object field = true) :
    ∃ plan, fixture.answers.plan object config = .ok plan := by
  cases planned : fixture.answers.plan object config with
  | error error => simp [not_knows_of_unplanned planned] at known
  | ok plan => exact ⟨plan, rfl⟩

section Planned

variable {plan : ObjectPlan} (planned : fixture.answers.plan object config = .ok plan)

include planned

theorem shown_eq (row : Row) : fixture.shown config object row = project plan.queryFields row := by
  rw [shown, planned]

theorem queries_iff (field : String) :
    fixture.Queries config object field ↔ field ∈ plan.queryFields := by
  simp [Queries, planned]

theorem shown_id? (row : Row) : (project plan.queryFields row).id? = rowId? row := by
  have asked : Record.idField ∈ plan.queryFields := (mem_plan planned).mpr (.inl rfl)
  rw [rowId?, Record.id?, Record.id?, project_get?, project_get?, if_pos asked,
    if_pos (List.mem_singleton_self _)]

end Planned

/-- What stands in a row is told of a field which the store knows and which is always queried. -/
theorem shown_text? {row : Row} {field : String} (known : fixture.knows object field = true)
    (asked : field = Record.idField ∨ field ∈ config.registry.linkFields object)
    (scalar : row.Scalar field) :
    (fixture.shown config object row).text? field = row.text? field := by
  obtain ⟨plan, planned⟩ := @planned_of_knows fixture config object _ known
  have queried : field ∈ plan.queryFields :=
    (mem_plan planned).mpr (asked.imp_right fun link => ⟨known, .inl link⟩)
  rw [shown_eq planned, project_text? scalar, if_pos queried]

section Selected

variable {idField : String} {ids : List String}

theorem select_known {query : Query}
    (known : ∀ field ∈ query.fields ++ [query.idField], fixture.knows query.object field = true) :
    ∃ records, fixture.select query = .ok records := by
  unfold select
  have own := known query.idField (List.mem_append_right _ List.mem_cons_self)
  unfold knows at known own
  cases described : fixture.fieldsOf query.object with
  | error error => simp [described] at own
  | ok available =>
      have found : ((query.fields ++ [query.idField]).find? fun field => !available.contains field) =
          none := by
        refine List.find?_eq_none.mpr fun field member => ?_
        have contained := known field member
        simp only [described] at contained
        rw [contained]
        decide
      simp only [found]
      exact ⟨_, rfl⟩

theorem selectChunks_known {fields : List String}
    (known : ∀ field ∈ fields ++ [idField], fixture.knows object field = true)
    (chunks : List (List String)) :
    ∃ records, fixture.answers.selectChunks object fields idField chunks = .ok records := by
  induction chunks with
  | nil => exact ⟨[], rfl⟩
  | cons chunk rest ih =>
      have asked : ∃ records, fixture.select ⟨object, fields, idField, chunk⟩ = .ok records :=
        select_known known
      obtain ⟨first, answered⟩ := asked
      obtain ⟨others, later⟩ := ih
      have told : fixture.answers.query ⟨object, fields, idField, chunk⟩ = .ok first := answered
      rw [Answers.selectChunks, told]
      simp [later, Except.map]

theorem knows_queryFields {plan : ObjectPlan} (planned : fixture.answers.plan object config = .ok plan)
    (knowsId : fixture.knows object Record.idField = true) :
    ∀ field ∈ plan.queryFields, fixture.knows object field = true := by
  intro field member
  rcases (mem_plan planned).mp member with rfl | ⟨known, -⟩
  · exact knowsId
  · exact known

/-- Where the store knows identifiers and the field, a query is answered with shown rows. -/
theorem select_ok_of_knows {plan : ObjectPlan}
    (planned : fixture.answers.plan object config = .ok plan)
    (knowsId : fixture.knows object Record.idField = true)
    (knowsField : fixture.knows object idField = true) :
    fixture.answers.select object plan.queryFields idField ids =
      .ok ((fixture.rowsBy object idField ids).map (project plan.queryFields)) := by
  have known : ∀ field ∈ plan.queryFields ++ [idField], fixture.knows object field = true := by
    refine List.forall_mem_append.mpr ⟨knows_queryFields planned knowsId, ?_⟩
    exact List.forall_mem_singleton.mpr knowsField
  obtain ⟨records, answered⟩ := selectChunks_known known (chunksOf chunkSize ids)
  have selected : fixture.answers.select object plan.queryFields idField ids = .ok records := answered
  rw [selected, (select_rows selected).2, rowsBy, knowsId, knowsField]
  rfl

/-- Otherwise a query fails, or nothing was asked for. -/
theorem select_of_not_knows {plan : ObjectPlan}
    (planned : fixture.answers.plan object config = .ok plan)
    (unknown : (fixture.knows object Record.idField && fixture.knows object idField) = false) :
    (fixture.answers.select object plan.queryFields idField ids).toOption.getD [] = [] := by
  cases selected : fixture.answers.select object plan.queryFields idField ids with
  | error error => rfl
  | ok records =>
      obtain ⟨known, rfl⟩ := select_rows selected
      by_cases filled : ids = []
      · rw [filled, Fetching.chunksOf_nil (by decide)]
        rfl
      · have knowsId := known filled Record.idField
          (List.mem_append_left _ ((mem_plan planned).mpr (.inl rfl)))
        have knowsField := known filled idField
          (List.mem_append_right _ (List.mem_singleton_self _))
        simp [knowsId, knowsField] at unknown

/-- A type is not degraded where the store knows what it is asked for. -/
theorem typeYield_kept (need : Fetching.Need)
    (knowsId : fixture.knows object Record.idField = true)
    (knowsField : fixture.knows object idField = true) :
    (fixture.answers.typeYield config need object idField ids).failure = none := by
  obtain ⟨plan, planned⟩ := @planned_of_knows fixture config object _ knowsId
  rw [Answers.typeYield, planned]
  simp only [Fetching.Yield.ofPlan, select_ok_of_knows planned knowsId knowsField, failure?]

/-- What a type yields are rows which are shown. -/
theorem typeYield_shown (need : Fetching.Need) :
    (fixture.answers.typeYield config need object idField ids).part.records =
      (fixture.rowsBy object idField ids).map (fixture.shown config object) := by
  unfold Answers.typeYield
  cases planned : fixture.answers.plan object config with
  | error error =>
      rw [rowsBy, not_knows_of_unplanned planned]
      rfl
  | ok plan =>
      have same : fixture.shown config object = project plan.queryFields := funext (shown_eq planned)
      rw [same]
      cases known : fixture.knows object Record.idField && fixture.knows object idField with
      | true =>
          obtain ⟨knowsId, knowsField⟩ := Bool.and_eq_true_iff.mp known
          change (fixture.answers.select object plan.queryFields idField ids).toOption.getD [] = _
          rw [select_ok_of_knows planned knowsId knowsField]
          rfl
      | false =>
          rw [rowsBy, known]
          exact select_of_not_knows planned known

end Selected

section Reached

variable {plan : ObjectPlan} (planned : fixture.answers.plan object config = .ok plan)

include planned

theorem addNew_map (pool more : List Row) :
    addNew (pool.map (project plan.queryFields)) (more.map (project plan.queryFields)) =
      (addNewRows pool more).map (project plan.queryFields) := by
  induction more generalizing pool with
  | nil => rfl
  | cons row rest ih =>
      have later : ∀ pool : List Row,
          addNewRows pool (row :: rest) = addNewRows (addNewRows pool [row]) rest := fun _ => rfl
      have laterNew : ∀ pool : List Record, addNew pool ((row :: rest).map (project plan.queryFields)) =
          addNew (addNew pool [project plan.queryFields row]) (rest.map (project plan.queryFields)) :=
        fun _ => rfl
      have one : addNew (pool.map (project plan.queryFields)) [project plan.queryFields row] =
          (addNewRows pool [row]).map (project plan.queryFields) := by
        simp only [addNew, addNewRows, List.foldl_cons, List.foldl_nil, shown_id? planned,
          List.any_map, Function.comp_def]
        have appended : pool.map (project plan.queryFields) ++ [project plan.queryFields row] =
            (pool ++ [row]).map (project plan.queryFields) := by
          rw [List.map_append, List.map_singleton]
        cases rowId? row with
        | none => exact appended
        | some id =>
            simp only [appended]
            split <;> rfl
      rw [later, laterNew, one, ih]

/-- Along paths whose fields the store knows, the rows which are reached are shown. -/
theorem selectPaths_shown {owners : LinkPath → List String} {sources : List LinkSource}
    (knowsId : fixture.knows object Record.idField = true)
    (active : ∀ source ∈ sources, fixture.knows object source.field = true) (pool : List Row) :
    fixture.answers.selectPaths plan owners (pool.map (project plan.queryFields)) sources =
      .ok ((fixture.reachedRows object owners pool sources).map (project plan.queryFields)) := by
  induction sources generalizing pool with
  | nil => rfl
  | cons source rest ih =>
      obtain ⟨known, others⟩ := List.forall_mem_cons.mp active
      rw [Answers.selectPaths, Answers.plan_object planned, select_ok_of_knows planned knowsId known]
      simp only [addNew_map planned]
      exact ih others _

omit planned in
theorem reachedRows_unknown {owners : LinkPath → List String}
    (unknown : fixture.knows object Record.idField = false) (pool : List Row)
    (sources : List LinkSource) : fixture.reachedRows object owners pool sources = pool := by
  induction sources generalizing pool with
  | nil => rfl
  | cons source rest ih =>
      have nothing : fixture.rowsBy object source.field (owners source.path) = [] := by
        rw [rowsBy, unknown]
        rfl
      rw [reachedRows, nothing]
      exact ih pool

theorem selectPaths_unknown {owners : LinkPath → List String}
    (unknown : fixture.knows object Record.idField = false) (sources : List LinkSource) :
    (fixture.answers.selectPaths plan owners [] sources).toOption.getD [] = [] := by
  induction sources with
  | nil => rfl
  | cons source rest ih =>
      have nothing : (fixture.answers.select object plan.queryFields source.field
          (owners source.path)).toOption.getD [] = [] :=
        select_of_not_knows planned (by simp [unknown])
      rw [Answers.selectPaths, Answers.plan_object planned]
      cases selected : fixture.answers.select object plan.queryFields source.field
          (owners source.path) with
      | error error => rfl
      | ok records =>
          rw [selected] at nothing
          have empty : records = [] := nothing
          rw [empty]
          exact ih

end Reached

/-- Contact points are not degraded where the store knows their identifiers: other paths are not
followed. -/
theorem pointYield_kept (contactField individualField : Option String)
    (owners : LinkPath → List String) (knowsId : fixture.knows object Record.idField = true) :
    (fixture.answers.pointYield config object contactField individualField owners).failure = none := by
  obtain ⟨plan, planned⟩ := @planned_of_knows fixture config object _ knowsId
  have active : ∀ source ∈ fixture.sourcesOf config object contactField individualField,
      fixture.knows object source.field = true := fun _ active => (mem_sourcesOf.mp active).2.2
  have reached := @selectPaths_shown fixture config object plan planned owners _ knowsId active []
  rw [List.map_nil] at reached
  rw [Answers.pointYield, planned]
  simp only [Fetching.Yield.ofPlan, sourcesOf_eq planned, reached, failure?]

/-- What a contact point yields are rows which are shown, and the paths whose fields are known. -/
theorem pointYield_shown (contactField individualField : Option String)
    (owners : LinkPath → List String) :
    (fixture.answers.pointYield config object contactField individualField owners).part.records =
        (fixture.reachedRows object owners []
          (fixture.sourcesOf config object contactField individualField)).map
            (fixture.shown config object) ∧
      (fixture.answers.pointYield config object contactField individualField owners).part.linkSources =
        some (fixture.sourcesOf config object contactField individualField) := by
  unfold Answers.pointYield
  cases planned : fixture.answers.plan object config with
  | error error =>
      have unknown : fixture.sourcesOf config object contactField individualField = [] := by
        refine List.filterMap_eq_nil_iff.mpr fun path _ => ?_
        have none : ∀ field, fixture.knows object field = false := not_knows_of_unplanned planned
        simp [none]
      rw [unknown]
      exact ⟨rfl, rfl⟩
  | ok plan =>
      have same : fixture.shown config object = project plan.queryFields := funext (shown_eq planned)
      rw [same]
      simp only [sourcesOf_eq planned]
      refine ⟨?_, rfl⟩
      change (fixture.answers.selectPaths plan owners [] _).toOption.getD [] = _
      cases known : fixture.knows object Record.idField with
      | true =>
          have active : ∀ source ∈ fixture.sourcesOf config object contactField individualField,
              fixture.knows object source.field = true := fun _ active => (mem_sourcesOf.mp active).2.2
          have reached := @selectPaths_shown fixture config object plan planned owners _ known active []
          rw [List.map_nil] at reached
          rw [reached]
          rfl
      | false =>
          rw [reachedRows_unknown known]
          exact selectPaths_unknown planned known _

end Dossier.Fixture
