import Dossier.Proofs.Join.Rows

/-!
What is fetched of a fixture, as rows.

The records of a type are shown rows: those which the queries select, each of them once.
-/

namespace Dossier.Fixture

open Fetching (chunked chunksOf addNew)

variable {fixture : Fixture} {config : Config}

/-- The records of a type which is not degraded are the rows which its one query selects. -/
theorem typeYield_rows {need : Fetching.Need} {object idField : String} {ids : List String}
    (sound : (fixture.answers.typeYield config need object idField ids).failure = none) :
    ∃ plan, fixture.answers.plan object config = .ok plan ∧
      (fixture.answers.typeYield config need object idField ids).part =
        ⟨object, some plan, none,
          (chunked (Row.text? · idField) (fixture.rowsOf object) (chunksOf chunkSize ids)).map
            (project plan.queryFields)⟩ ∧
      (ids ≠ [] →
        fixture.knows object Record.idField = true ∧ fixture.knows object idField = true) := by
  obtain ⟨plan, records, planned, selected, whole⟩ := Answers.typeYield_sound sound
  obtain ⟨known, rfl⟩ := select_rows selected
  refine ⟨plan, planned, whole, fun filled => ⟨known filled _ ?_, known filled _ ?_⟩⟩
  · exact List.mem_append_left _ ((mem_plan planned).mpr (.inl rfl))
  · exact List.mem_append_right _ (List.mem_singleton_self _)

theorem filter_filled {text : Option String} {wanted : String} (filled : wanted ≠ "") :
    text.filter (· != "") = some wanted ↔ text = some wanted := by
  simp [Option.filter_eq_some_iff, filled]

theorem text?_of_knows {object field : String} (known : fixture.knows object field = true)
    (row : Row) : fixture.text? object field row = row.text? field := by
  rw [text?, if_pos known]

theorem knows_of_text? {object field text : String} {row : Row}
    (given : fixture.text? object field row = some text) :
    fixture.knows object field = true ∧ row.text? field = some text := by
  unfold text? at given
  split at given
  · rename_i known
    exact ⟨known, given⟩
  · contradiction

/-- Of what is fetched by the account identifiers, each account has its rows as they stand. -/
theorem typeYield_direct (sound : fixture.Sound config.registry) {object field : String}
    (link : field ∈ config.registry.linkFields object) {ids : List String} (unique : ids.Nodup)
    {account : String} (requested : account ∈ ids) (filled : account ≠ "")
    (kept : (fixture.answers.typeYield config .optional object field ids).failure = none) :
    ∃ plan, fixture.answers.plan object config = .ok plan ∧
      (fixture.answers.typeYield config .optional object field ids).part.plan = some plan ∧
      fixture.knows object Record.idField = true ∧
      (fixture.answers.typeYield config .optional object field ids).part.records.filter
          (fun record => record.reference? field == some account) =
        ((fixture.rowsOf object).filter fun row => fixture.text? object field row == some account).map
          (project plan.queryFields) := by
  obtain ⟨plan, planned, whole, known⟩ := typeYield_rows kept
  obtain ⟨knowsId, knowsField⟩ := known (List.ne_nil_of_mem requested)
  refine ⟨plan, planned, by rw [whole], knowsId, ?_⟩
  have flat : (chunksOf chunkSize ids).flatten = ids := Fetching.flatten_chunksOf (by decide) ids
  have once : (chunked (Row.text? · field) (fixture.rowsOf object) (chunksOf chunkSize ids)).filter
      (Row.text? · field == some account) = _ := Fetching.filter_chunked (flat.symm ▸ unique) account
  rw [flat, if_pos requested] at once
  simp only [text?_of_knows knowsField]
  rw [whole, ← once, List.filter_map]
  congr 1
  refine List.filter_congr fun row member => ?_
  have inside := (Fetching.mem_chunked.mp member).1
  rw [Function.comp_apply, plan_reference? planned knowsId (sound.scalar object row inside field link)
    (.inr link), text?_of_knows knowsField, Bool.eq_iff_iff, beq_iff_eq, beq_iff_eq,
    filter_filled filled]

theorem project_unique (sound : fixture.Sound config.registry) {object : String} {plan : ObjectPlan}
    (planned : fixture.answers.plan object config = .ok plan) {rows : List Row}
    (inside : ∀ row ∈ rows, row ∈ fixture.rowsOf object) (distinct : rows.Nodup) :
    ((rows.map (project plan.queryFields)).map (·.id?)).Nodup := by
  rw [List.map_map]
  refine List.Nodup.map_on (fun row member other otherMember same => ?_) distinct
  obtain ⟨id, identified⟩ := sound.identified object row (inside row member)
  obtain ⟨otherId, otherIdentified⟩ := sound.identified object other (inside other otherMember)
  simp only [Function.comp_apply, plan_id? planned identified, plan_id? planned otherIdentified]
    at same
  refine sound.same (inside row member) (inside other otherMember) ?_
  rw [identified.text?, otherIdentified.text?, same]

/-- Of what is fetched by identifier, each account has the rows to which its contacts refer. -/
theorem typeYield_referenced (sound : fixture.Sound config.registry) {object : String}
    {ids references : List String} (unique : ids.Nodup) (among : ∀ text ∈ references, text ∈ ids)
    (kept : (fixture.answers.typeYield config .optional object Record.idField ids).failure = none) :
    ∃ plan, ∃ rows : List Row, fixture.answers.plan object config = .ok plan ∧
      (fixture.answers.typeYield config .optional object Record.idField ids).part.plan = some plan ∧
      ((fixture.answers.typeYield config .optional object Record.idField ids).part.records.map
        (·.id?)).Nodup ∧
      rows.Perm ((fixture.rowsOf object).filter fun row =>
        (fixture.text? object Record.idField row).any references.contains) ∧
      (fixture.answers.typeYield config .optional object Record.idField ids).part.records.filter
          (fun record => record.id?.any references.contains) =
        rows.map (project plan.queryFields) := by
  obtain ⟨plan, planned, whole, known⟩ := typeYield_rows kept
  have flat : (chunksOf chunkSize ids).flatten = ids := Fetching.flatten_chunksOf (by decide) ids
  have distinct := sound.nodup object
  refine ⟨plan, (chunked (Row.text? · Record.idField) (fixture.rowsOf object)
    (chunksOf chunkSize ids)).filter fun row => (row.text? Record.idField).any references.contains,
    planned, by rw [whole], ?_, ?_, ?_⟩
  · rw [whole]
    have selected : (chunked (Row.text? · Record.idField) (fixture.rowsOf object)
        (chunksOf chunkSize ids)).Nodup := Fetching.nodup_chunked distinct (flat.symm ▸ unique)
    exact project_unique sound planned (fun row member => (Fetching.mem_chunked.mp member).1) selected
  · refine (List.perm_ext_iff_of_nodup
      ((Fetching.nodup_chunked distinct (flat.symm ▸ unique)).filter _) (distinct.filter _)).mpr
      fun row => ?_
    simp only [List.mem_filter, Fetching.mem_chunked, flat, Option.any_eq_true,
      List.contains_iff_mem]
    constructor
    · rintro ⟨⟨inside, text, asked, given⟩, other, same, referred⟩
      have knowsId := (known (List.ne_nil_of_mem asked)).1
      exact ⟨inside, other, by rw [text?_of_knows knowsId, same], referred⟩
    · rintro ⟨inside, text, given, referred⟩
      have same := (knows_of_text? given).2
      exact ⟨⟨inside, text, among text referred, same⟩, text, same, referred⟩
  · rw [whole, List.filter_map]
    congr 1
    refine List.filter_congr fun row member => ?_
    obtain ⟨id, identified⟩ := sound.identified object row (Fetching.mem_chunked.mp member).1
    rw [Function.comp_apply, plan_id? planned identified, identified.text?]

/-- Does one of the sources lead to the row from an owner? -/
def Reached (owners : LinkPath → List String) (sources : List LinkSource) (row : Row) : Prop :=
  ∃ source ∈ sources, ∃ owner ∈ owners source.path, row.text? source.field = some owner

theorem reached_cons {owners : LinkPath → List String} {source : LinkSource}
    {rest : List LinkSource} {row : Row} :
    Reached owners (source :: rest) row ↔
      (∃ owner ∈ owners source.path, row.text? source.field = some owner) ∨
        Reached owners rest row := by
  simp only [Reached, List.mem_cons, or_and_right, exists_or, exists_eq_left]

section Paths

variable (sound : fixture.Sound config.registry) {object : String} {plan : ObjectPlan}
  (planned : fixture.answers.plan object config = .ok plan)

include sound planned

theorem any_id?_iff {pool : List Row} (inPool : ∀ row ∈ pool, row ∈ fixture.rowsOf object)
    {row : Row} (inside : row ∈ fixture.rowsOf object) {id : String} (identified : row.Identified id) :
    (pool.map (project plan.queryFields)).any (·.id? == some id) = true ↔ row ∈ pool := by
  rw [List.any_map, List.any_eq_true]
  constructor
  · rintro ⟨other, member, known⟩
    obtain ⟨otherId, otherIdentified⟩ := sound.identified object other (inPool other member)
    simp only [Function.comp_apply, plan_id? planned otherIdentified, beq_iff_eq] at known
    have ids : Row.text? other Record.idField = row.text? Record.idField := by
      rw [otherIdentified.text?, identified.text?, known]
    rw [← sound.same (inPool other member) inside ids]
    exact member
  · intro member
    exact ⟨row, member, by simp [plan_id? planned identified]⟩

theorem addNew_rows {pool more : List Row} (inPool : ∀ row ∈ pool, row ∈ fixture.rowsOf object)
    (inMore : ∀ row ∈ more, row ∈ fixture.rowsOf object) (distinct : pool.Nodup) :
    ∃ rows : List Row, rows.Nodup ∧ (∀ row, row ∈ rows ↔ row ∈ pool ∨ row ∈ more) ∧
      addNew (pool.map (project plan.queryFields)) (more.map (project plan.queryFields)) =
        rows.map (project plan.queryFields) := by
  induction more generalizing pool with
  | nil => exact ⟨pool, distinct, by simp, rfl⟩
  | cons first rest ih =>
      obtain ⟨inside, others⟩ := List.forall_mem_cons.mp inMore
      obtain ⟨id, identified⟩ := sound.identified object first inside
      have known := any_id?_iff sound planned inPool inside identified
      rw [List.map_cons, addNew, List.foldl_cons, plan_id? planned identified]
      by_cases reached : first ∈ pool
      · obtain ⟨rows, unique, exact, same⟩ := ih inPool others distinct
        refine ⟨rows, unique, fun row => ?_, ?_⟩
        · rw [exact, List.mem_cons]
          constructor
          · exact Or.imp_right .inr
          · rintro (earlier | rfl | later)
            · exact .inl earlier
            · exact .inl reached
            · exact .inr later
        · simp only [known.mpr reached, if_true]
          exact same
      · have inLonger : ∀ row ∈ pool ++ [first], row ∈ fixture.rowsOf object := by
          intro row member
          rcases List.mem_append.mp member with earlier | last
          · exact inPool row earlier
          · rw [List.mem_singleton.mp last]
            exact inside
        have longer : (pool ++ [first]).Nodup := by
          rw [← List.concat_eq_append]
          exact List.Nodup.concat reached distinct
        obtain ⟨rows, unique, exact, same⟩ := ih inLonger others longer
        refine ⟨rows, unique, fun row => ?_, ?_⟩
        · rw [exact, List.mem_append, List.mem_singleton, List.mem_cons, or_assoc]
        · simp only [Bool.eq_false_iff.mpr fun there => reached (known.mp there),
            Bool.false_eq_true, if_false]
          rw [← same, List.map_append]
          rfl

theorem selectPaths_rows {owners : LinkPath → List String} {sources : List LinkSource}
    {pool : List Row} (inPool : ∀ row ∈ pool, row ∈ fixture.rowsOf object) (distinct : pool.Nodup)
    {records : List Record}
    (answered : fixture.answers.selectPaths plan owners (pool.map (project plan.queryFields)) sources =
      .ok records) :
    ∃ rows : List Row, rows.Nodup ∧
      (∀ row, row ∈ rows ↔
        row ∈ pool ∨ row ∈ fixture.rowsOf object ∧ Reached owners sources row) ∧
      records = rows.map (project plan.queryFields) := by
  induction sources generalizing pool with
  | nil =>
      cases answered
      exact ⟨pool, distinct, by simp [Reached], rfl⟩
  | cons source rest ih =>
      rw [Answers.selectPaths, Answers.plan_object planned] at answered
      split at answered
      · contradiction
      · rename_i more selected
        obtain ⟨-, rfl⟩ := select_rows selected
        have inMore : ∀ row ∈ chunked (Row.text? · source.field) (fixture.rowsOf object)
            (chunksOf chunkSize (owners source.path)), row ∈ fixture.rowsOf object :=
          fun row member => (Fetching.mem_chunked.mp member).1
        obtain ⟨reached, unique, exact, same⟩ := addNew_rows sound planned inPool inMore distinct
        rw [same] at answered
        have inReached : ∀ row ∈ reached, row ∈ fixture.rowsOf object := by
          intro row member
          rcases (exact row).mp member with earlier | new
          · exact inPool row earlier
          · exact inMore row new
        obtain ⟨rows, distinctRows, members, whole⟩ := ih inReached unique answered
        refine ⟨rows, distinctRows, fun row => ?_, whole⟩
        rw [members, exact, Fetching.mem_chunked, Fetching.flatten_chunksOf (by decide)]
        rw [reached_cons, and_or_left, or_assoc]

omit sound in
theorem selectPaths_ok {owners : LinkPath → List String} {sources : List LinkSource}
    {pool records : List Record}
    (answered : fixture.answers.selectPaths plan owners pool sources = .ok records) :
    ∀ source ∈ sources, owners source.path ≠ [] → fixture.knows object Record.idField = true := by
  induction sources generalizing pool with
  | nil => simp
  | cons first rest ih =>
      rw [Answers.selectPaths, Answers.plan_object planned] at answered
      split at answered
      · contradiction
      · rename_i more selected
        refine List.forall_mem_cons.mpr ⟨fun filled => ?_, ih answered⟩
        exact (select_rows selected).1 filled _
          (List.mem_append_left _ ((mem_plan planned).mpr (.inl rfl)))

end Paths

/-- Of the contact points which are fetched, each account has those which its own owners have. -/
theorem pointYield_reached (sound : fixture.Sound config.registry) {object : String}
    {contactField individualField : Option String}
    (links : ∀ field ∈ contactField.toList ++ individualField.toList,
      field ∈ config.registry.linkFields object)
    {all own : LinkPath → List String} (among : ∀ path, ∀ owner ∈ own path, owner ∈ all path)
    (kept : (fixture.answers.pointYield config object contactField individualField all).failure =
      none) :
    ∃ plan, ∃ rows : List Row, fixture.answers.plan object config = .ok plan ∧
      (fixture.answers.pointYield config object contactField individualField all).part.plan =
        some plan ∧
      (fixture.answers.pointYield config object contactField individualField all).part.linkSources =
        some (Fetching.activeSources config plan object contactField individualField) ∧
      rows.Perm ((fixture.rowsOf object).filter fun row =>
        (Fetching.activeSources config plan object contactField individualField).any fun source =>
          (fixture.text? object source.field row).any fun owner =>
            owner != "" && (own source.path).contains owner) ∧
      (fixture.answers.pointYield config object contactField individualField
          all).part.records.filter (fun record =>
            (Fetching.activeSources config plan object contactField individualField).any fun source =>
              (record.reference? source.field).any (own source.path).contains) =
        rows.map (project plan.queryFields) := by
  obtain ⟨plan, records, planned, answered, whole⟩ := Answers.pointYield_sound kept
  have start : fixture.answers.selectPaths plan all (([] : List Row).map (project plan.queryFields))
      (Fetching.activeSources config plan object contactField individualField) = .ok records := answered
  obtain ⟨rows, distinct, members, rfl⟩ := selectPaths_rows sound planned (by simp) .nil start
  simp only [List.not_mem_nil, false_or] at members
  refine ⟨plan, rows.filter fun row =>
    (Fetching.activeSources config plan object contactField individualField).any fun source =>
      (fixture.text? object source.field row).any fun owner =>
        owner != "" && (own source.path).contains owner,
    planned, by rw [whole], by rw [whole], ?_, ?_⟩
  · refine (List.perm_ext_iff_of_nodup (distinct.filter _)
      ((sound.nodup object).filter _)).mpr fun row => ?_
    simp only [List.mem_filter, members]
    refine ⟨fun ⟨⟨inside, _⟩, kept⟩ => ⟨inside, kept⟩, fun ⟨inside, kept⟩ => ⟨⟨inside, ?_⟩, kept⟩⟩
    simp only [List.any_eq_true, Option.any_eq_true, Bool.and_eq_true, List.contains_iff_mem] at kept
    obtain ⟨source, active, owner, given, -, owned⟩ := kept
    exact ⟨source, active, owner, among _ owner owned, (knows_of_text? given).2⟩
  · rw [whole, List.filter_map]
    congr 1
    refine List.filter_congr fun row member => ?_
    obtain ⟨inside, source, active, owner, owned, given⟩ := (members row).mp member
    have knowsId := selectPaths_ok planned answered source active (List.ne_nil_of_mem owned)
    rw [Function.comp_apply, Bool.eq_iff_iff, List.any_eq_true, List.any_eq_true]
    refine exists_congr fun other => and_congr_right fun otherActive => ?_
    have link : other.field ∈ config.registry.linkFields object :=
      links other.field (mem_of_pathField ((mem_activeSources planned).mp otherActive).2.1)
    rw [plan_reference? planned knowsId (sound.scalar object row inside _ link) (.inr link)]
    cases fixture.text? object other.field row with
    | none => rfl
    | some text => simp [Option.filter_some, Option.any_eq_true]

end Dossier.Fixture
