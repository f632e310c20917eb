import Mathlib.Data.List.Infix
import Dossier.Proofs.Fetch.Failure
import Dossier.Proofs.Fetch.Tour
import Dossier.Proofs.Graph.Belonging

/-!
The discipline of a fetch.

Whatever a store answers, and even if it changes its mind, a fetch asks it in order and for nothing
twice: no type is described again, types are queried when their fields are known, identifiers are
asked for in chunks which are no repetitions of each other, and a failure is the last that is heard
of its type.
-/

namespace Dossier

variable {σ : Type}

namespace Fetching

/-- Queries which run an errand: each one asks for a chunk of its identifiers, in their order. -/
structure Runs (errand : Errand) (asked : List Query) : Prop where
  field : ∀ query ∈ asked, query.idField = errand.field
  filled : ∀ query ∈ asked, query.ids ≠ []
  bounded : ∀ query ∈ asked, query.ids.length ≤ 100
  unique : (asked.flatMap (·.ids)).Nodup
  ahead : asked.flatMap (·.ids) <+: errand.ids

section Visits

variable {object idField : String} {fields : List String} {chunks : List (List String)}
  {said : List Turn} {found : Option (List Record)} {errands : List Errand}

theorem Asked.queries_ahead (asked : Asked object fields idField chunks said found) :
    (∀ query ∈ said.filterMap (·.query?), query.idField = idField) ∧
      (said.filterMap (·.query?)).map (·.ids) <+: chunks ∧
      ((∀ turn ∈ said, turn.failure = none) → (said.filterMap (·.query?)).map (·.ids) = chunks) := by
  induction asked with
  | done => simp
  | failed chunk rest error => simp [failure?]
  | answered chunk records later ih =>
      obtain ⟨field, ahead, whole⟩ := ih
      refine ⟨?_, ?_, ?_⟩
      · simpa using field
      · simpa using ahead
      · simpa [failure?] using whole

theorem Asked.runs {errand : Errand}
    (asked : Asked object fields errand.field (chunksOf chunkSize errand.ids) said found)
    (unique : errand.ids.Nodup) :
    Runs errand (said.filterMap (·.query?)) ∧ ((∀ turn ∈ said, turn.failure = none) →
      (said.filterMap (·.query?)).flatMap (·.ids) = errand.ids) := by
  obtain ⟨field, ahead, whole⟩ := asked.queries_ahead
  have positive : 0 < chunkSize := by decide
  have along := ahead.flatten
  rw [flatten_chunksOf positive, ← List.flatMap_def] at along
  have bounds : ∀ query ∈ said.filterMap (·.query?), query.ids ≠ [] ∧ query.ids.length ≤ 100 :=
    fun query member =>
      chunksOf_bounded positive errand.ids _ (ahead.subset (List.mem_map_of_mem member))
  refine ⟨⟨field, fun query member => (bounds query member).1,
    fun query member => (bounds query member).2, along.sublist.nodup unique, along⟩, fun well => ?_⟩
  rw [List.flatMap_def, whole well, flatten_chunksOf positive]

/-- Queries which run one errand after the other, and to their end if all goes well. -/
def RunAll (well : Prop) (errands : List Errand) (queries : List Query) : Prop :=
  ∃ asked : List (List Query), queries = asked.flatten ∧
    List.Forall₂ (fun errand queries =>
      Runs errand queries ∧ (well → queries.flatMap (·.ids) = errand.ids)) errands asked

theorem runAll_nil {well : Prop} (ill : ¬ well) (errands : List Errand) : RunAll well errands [] := by
  refine ⟨errands.map fun _ => [], by simp, ?_⟩
  rw [List.forall₂_map_right_iff, List.forall₂_same]
  exact fun errand _ => ⟨⟨by simp, by simp, by simp, .nil, List.nil_prefix⟩,
    fun good => absurd good ill⟩

theorem RunAll.imp {well better : Prop} {queries : List Query} (runs : RunAll well errands queries)
    (implies : better → well) : RunAll better errands queries := by
  obtain ⟨asked, flat, runs⟩ := runs
  exact ⟨asked, flat, runs.imp fun _ _ ⟨run, whole⟩ => ⟨run, fun good => whole (implies good)⟩⟩

theorem RunAll.cons {well : Prop} {errand : Errand} {first others : List Query}
    (run : Runs errand first) (whole : well → first.flatMap (·.ids) = errand.ids)
    (rest : RunAll well errands others) : RunAll well (errand :: errands) (first ++ others) := by
  obtain ⟨asked, rfl, runs⟩ := rest
  exact ⟨first :: asked, rfl, .cons ⟨run, whole⟩ runs⟩

/-- The queries of a visit run its errands, and all of them if no call fails. -/
theorem Ran.runs (ran : Ran object fields errands said)
    (unique : ∀ errand ∈ errands, errand.ids.Nodup) :
    RunAll (∀ turn ∈ said, turn.failure = none) errands (said.filterMap (·.query?)) := by
  induction ran with
  | done => exact ⟨[], rfl, .nil⟩
  | @failed errand said rest asked =>
      have failing : ¬ ∀ turn ∈ said, turn.failure = none := by
        simpa using asked.failing_iff.mp rfl
      have run := (asked.runs (List.forall_mem_cons.mp unique).1).1
      have rest := RunAll.cons run (fun well => absurd well failing) (runAll_nil failing rest)
      rwa [List.append_nil] at rest
  | answered asked later ih =>
      obtain ⟨first, others⟩ := List.forall_mem_cons.mp unique
      obtain ⟨run, whole⟩ := asked.runs first
      rw [List.filterMap_append]
      refine .cons run (fun well => whole (List.forall_mem_append.mp well).1) ?_
      exact (ih others).imp fun well => (List.forall_mem_append.mp well).2

end Visits

theorem errandsOf_unique {config : Config} {accountIds : List String} (distinct : accountIds.Nodup)
    (contacts : List Record) (type : EntityType) (fields : List String) :
    ∀ errand ∈ errandsOf config accountIds contacts type fields, errand.ids.Nodup := by
  have values : ∀ field, (distinctValues contacts field).Nodup := fun _ => nodup_distinct _
  unfold errandsOf
  split
  · simpa using distinct
  · simpa using distinct
  · simpa using values _
  · rintro errand member
    obtain ⟨source, -, rfl⟩ := List.mem_map.mp member
    unfold owners
    split
    · exact values _
    · split
      · exact values _
      · exact List.nodup_nil

section Visited

variable {object : String} {fields : List String} {remembered : String → Option (List String)}
  {said more : List Turn} {config : Config} {errands : List String → List Errand}

theorem Introduced.knownFields_eq {answer : Except StoreError (List String)}
    (introduced : Introduced object (remembered object) said answer)
    (asks : ∀ turn ∈ more, ∃ query answer, turn = .queried query answer) :
    knownFields remembered (said ++ more) object = answer.toOption := by
  have silent : more.findSome? (·.fields? object) = none := by
    refine List.findSome?_eq_none_iff.mpr fun turn member => ?_
    obtain ⟨query, told, rfl⟩ := asks turn member
    rfl
  rw [knownFields, List.findSome?_append, silent, Option.or_none]
  cases introduced with
  | known remembers =>
      rw [remembers]
      rfl
  | told unknown =>
      rw [unknown]
      cases answer <;> simp [Turn.fields?, Except.toOption]

theorem Ran.asks {visited : List Errand} (ran : Ran object fields visited said) :
    ∀ turn ∈ said, ∃ query answer, turn = .queried query answer := by
  intro turn member
  obtain ⟨errand, -, ids, answer, same⟩ := ran.queries turn member
  exact ⟨_, _, same⟩

/-- In a visit only the last call fails, and all calls but the first are queries. -/
theorem Visited.stops {remembers : Option (List String)}
    (visited : Visited config object errands remembers said) :
    said.Pairwise fun earlier later => earlier.failure = none ∧
      ∃ query answer, later = .queried query answer := by
  cases visited with
  | refused introduced =>
      cases introduced with
      | told unknown => exact List.pairwise_singleton _ _
  | @described fields first more introduced ran =>
      have own := ran.stops.imp_of_mem fun {earlier later} _ member unfailed =>
        (⟨unfailed, ran.asks later member⟩ : earlier.failure = none ∧ _)
      cases introduced with
      | known remembers => exact own
      | told unknown =>
          exact List.pairwise_cons.mpr ⟨fun turn member => ⟨rfl, ran.asks turn member⟩, own⟩

/-- A type is not queried before its fields are known. -/
theorem Visited.queried_known (visited : Visited config object errands (remembered object) said)
    {earlier later : List Turn} {query : Query} {answer : Except StoreError (List Record)}
    (split : said = earlier ++ .queried query answer :: later) :
    (knownFields remembered earlier object).isSome = true := by
  cases visited with
  | refused introduced =>
      have member : Turn.queried query answer ∈ said := by simp [split]
      have told := introduced.only _ member
      contradiction
  | @described fields first more introduced ran =>
      cases introduced with
      | known remembers => simp [knownFields, remembers]
      | told unknown =>
          cases earlier with
          | nil => simp at split
          | cons head rest =>
              obtain ⟨rfl, -⟩ := List.cons.inj split
              simp [knownFields, unknown, Turn.fields?]

theorem Introduced.queries {remembers : Option (List String)}
    {answer : Except StoreError (List String)}
    (introduced : Introduced object remembers said answer) : said.filterMap (·.query?) = [] := by
  cases introduced <;> rfl

/-- A visit runs the errands which its type has by its fields. -/
theorem Visited.runs (visited : Visited config object errands (remembered object) said)
    (unique : ∀ fields, ∀ errand ∈ errands fields, errand.ids.Nodup) :
    RunAll (∀ turn ∈ said, turn.failure = none)
        (errands ((knownFields remembered said object).getD [])) (said.filterMap (·.query?)) ∧
      ((∀ turn ∈ said, turn.failure = none) →
        (knownFields remembered said object).isSome = true) := by
  cases visited with
  | @refused said error introduced =>
      have failing : ¬ ∀ turn ∈ said, turn.failure = none := by
        cases introduced with
        | told unknown => simp [failure?]
      rw [introduced.queries]
      exact ⟨runAll_nil failing _, fun well => absurd well failing⟩
  | @described fields first more introduced ran =>
      have known : knownFields remembered (first ++ more) object = some fields :=
        introduced.knownFields_eq ran.asks
      rw [known, List.filterMap_append, introduced.queries]
      exact ⟨(ran.runs (unique fields)).imp fun well => (List.forall_mem_append.mp well).2,
        fun _ => rfl⟩

end Visited

end Fetching

open Fetching (RunAll errandsOf)

/-- How the turns of a fetch follow each other, by what was remembered before it and what came of
it. -/
structure Disciplined (config : Config) (accountIds : List String)
    (remembered : String → Option (List String)) (log : List Turn)
    (result : Except FetchError Fetched) : Prop where
  /-- No type is described twice. -/
  described : log.Pairwise fun earlier later =>
    ∀ object, earlier.call = .describe object → later.call ≠ .describe object
  /-- The fields of a type are known before it is queried. -/
  queried : ∀ earlier query answer later, log = earlier ++ .queried query answer :: later →
    (knownFields remembered earlier query.object).isSome = true
  accounts : log.Pairwise fun earlier later =>
    later.object = EntityType.account → earlier.object = EntityType.account
  /-- What is reached through contacts comes after all that links to accounts. -/
  direct : log.Pairwise fun earlier later =>
    later.object ∈ config.registry.reachedBy Link.isDirect →
      earlier.object ∉ config.registry.reachedBy Link.isContactReference ∧
        earlier.object ∉ config.registry.reachedBy Link.isContactPoint
  /-- After a failure no further call is made for the type. -/
  failed : log.Pairwise fun earlier later =>
    earlier.failure ≠ none → later.object ≠ earlier.object
  /-- The queries for a type run its errands, and all of them to their end if the fetch succeeds and
  does not warn of the type. -/
  runs : ∀ type ∈ config.registry.objects,
    RunAll (∃ fetched, result = .ok fetched ∧ fetched.warnings.contains type.name = false)
      (errandsOf config accountIds (gathered EntityType.contact log) type
        ((knownFields remembered log type.name).getD []))
      ((log.filterMap (·.query?)).filter (·.object == type.name))
  known : ∀ fetched, result = .ok fetched → ∀ type ∈ config.registry.objects,
    fetched.warnings.contains type.name = false →
      (knownFields remembered log type.name).isSome = true
  contacts : ∀ fetched, result = .ok fetched →
    fetched.pool EntityType.contact = gathered EntityType.contact log

theorem pairwise_of_about {related : Turn → Turn → Prop} {log : List Turn}
    (own : ∀ object, (about object log).Pairwise related) :
    log.Pairwise fun earlier later => earlier.object = later.object → related earlier later := by
  induction log with
  | nil => exact .nil
  | cons turn rest ih =>
      refine List.pairwise_cons.mpr ⟨fun later member same => ?_, ih fun object => ?_⟩
      · have first := own turn.object
        rw [about, List.filter_cons_of_pos (by simp), List.pairwise_cons] at first
        exact first.1 later (List.mem_filter.mpr ⟨member, by simp [same]⟩)
      · exact (own object).sublist ((List.sublist_cons_self turn rest).filter _)

theorem queries_about (object : String) (log : List Turn) :
    (about object log).filterMap (·.query?) =
      (log.filterMap (·.query?)).filter (·.object == object) := by
  induction log with
  | nil => rfl
  | cons turn rest ih =>
      rw [about] at ih ⊢
      cases turn with
      | described named answer =>
          by_cases same : named = object <;> simp [same, ih, List.filterMap_cons]
      | queried query answer =>
          by_cases same : query.object = object <;> simp [same, ih]

section Discipline

variable {config : Config} {accountIds : List String} {remembered : String → Option (List String)}
  {said : List Turn} {result : Except FetchError (List Fetching.Part × List String)}

open Fetching (Toured Visited)

theorem Fetching.Toured.stops (toured : Toured config accountIds remembered said result) :
    said.Pairwise fun earlier later => earlier.object = later.object →
      earlier.failure = none ∧ ∃ query answer, later = .queried query answer := by
  refine pairwise_of_about fun object => ?_
  by_cases listed : object ∈ config.registry.objects.map (·.name)
  · obtain ⟨type, member, rfl⟩ := List.mem_map.mp listed
    rcases toured.tour.visited type member with visited | ⟨silent, -⟩
    · exact Visited.stops visited
    · rw [silent]
      exact .nil
  · rw [Fetching.about_of_among toured.tour.among listed]
    exact .nil

theorem Fetching.Toured.queried (toured : Toured config accountIds remembered said result)
    {earlier later : List Turn} {query : Query} {answer : Except StoreError (List Record)}
    (split : said = earlier ++ .queried query answer :: later) :
    (knownFields remembered earlier query.object).isSome = true := by
  have member : Turn.queried query answer ∈ said := by simp [split]
  obtain ⟨type, inside, named⟩ := List.mem_map.mp (toured.tour.among _ member)
  have named : type.name = query.object := named
  have own : about type.name said =
      about type.name earlier ++ .queried query answer :: about type.name later := by
    rw [split, about_append, about, about, about, List.filter_cons_of_pos (by simp [named])]
  rcases toured.tour.visited type inside with visited | ⟨silent, -⟩
  · rw [← named, ← knownFields_about]
    exact Visited.queried_known visited own
  · simp [silent] at own

theorem Fetching.Toured.runs (toured : Toured config accountIds remembered said result)
    (distinct : accountIds.Nodup) {type : EntityType} (member : type ∈ config.registry.objects)
    (well : Prop) (ended : well → ∃ value, result = .ok value)
    (unfailed : well → ∀ turn ∈ said, turn.object = type.name → turn.failure = none) :
    RunAll well (errandsOf config accountIds (gathered EntityType.contact said) type
        ((knownFields remembered said type.name).getD []))
      ((said.filterMap (·.query?)).filter (·.object == type.name)) ∧
    (well → (knownFields remembered said type.name).isSome = true) := by
  rw [← queries_about]
  rcases toured.tour.visited type member with visited | ⟨silent, error, stopped⟩
  · obtain ⟨runs, known⟩ := Visited.runs visited (Fetching.errandsOf_unique distinct _ type)
    rw [knownFields_about] at runs known
    have fine : well → ∀ turn ∈ about type.name said, turn.failure = none := fun good turn inside =>
      unfailed good turn (mem_about.mp inside).1 (mem_about.mp inside).2
    exact ⟨runs.imp fine, fun good => known (fine good)⟩
  · have ill : ¬ well := fun good => by
      obtain ⟨value, same⟩ := ended good
      simp [stopped] at same
    rw [silent]
    exact ⟨Fetching.runAll_nil ill _, fun good => absurd good ill⟩

theorem Fetching.InOrder.accounts {registry : Registry} (valid : registry.Valid)
    (inOrder : InOrder registry said) :
    said.Pairwise fun earlier later =>
      later.object = EntityType.account → earlier.object = EntityType.account := by
  obtain ⟨accounts, direct, later, rfl, own, linked, through⟩ := inOrder
  have absent := (List.nodup_cons.mp (valid.names_perm.nodup_iff.mpr valid.unique)).1
  have others : ∀ turn ∈ direct ++ later, turn.object ≠ EntityType.account := by
    refine List.forall_mem_append.mpr ⟨fun turn member same => ?_, fun turn member same => ?_⟩
    · exact absent (List.mem_append_left _ (same ▸ linked turn member))
    · exact absent (List.mem_append_right _ (List.mem_append.mpr (same ▸ through turn member)))
  rw [List.append_assoc, List.pairwise_append]
  refine ⟨?_, ?_, fun earlier member _ _ _ => own earlier member⟩
  · exact List.pairwise_of_forall_mem_list fun earlier member _ _ _ => own earlier member
  · exact List.pairwise_of_forall_mem_list fun _ _ next member same =>
      absurd same (others next member)

theorem Fetching.InOrder.direct {registry : Registry} (valid : registry.Valid)
    (inOrder : InOrder registry said) :
    said.Pairwise fun earlier later =>
      later.object ∈ registry.reachedBy Link.isDirect →
        earlier.object ∉ registry.reachedBy Link.isContactReference ∧
          earlier.object ∉ registry.reachedBy Link.isContactPoint := by
  obtain ⟨accounts, direct, later, rfl, own, linked, through⟩ := inOrder
  have unique := valid.names_perm.nodup_iff.mpr valid.unique
  have absent := (List.nodup_cons.mp unique).1
  have apart := List.disjoint_of_nodup_append (List.nodup_cons.mp unique).2
  have early : ∀ turn ∈ accounts ++ direct,
      turn.object ∉ registry.reachedBy Link.isContactReference ++
        registry.reachedBy Link.isContactPoint := by
    refine List.forall_mem_append.mpr ⟨fun turn member listed => ?_, fun turn member listed => ?_⟩
    · exact absent (List.mem_append_right _ (own turn member ▸ listed))
    · exact apart (linked turn member) listed
  have late : ∀ turn ∈ later, turn.object ∉ registry.reachedBy Link.isDirect :=
    fun turn member listed => apart listed (List.mem_append.mpr (through turn member))
  simp only [List.mem_append, not_or] at early
  rw [List.pairwise_append]
  refine ⟨?_, ?_, fun earlier member _ _ _ => early earlier (List.mem_append.mp member)⟩
  · exact List.pairwise_of_forall_mem_list fun earlier member _ _ _ =>
      early earlier (List.mem_append.mp member)
  · exact List.pairwise_of_forall_mem_list fun _ _ next member same => absurd same (late next member)

end Discipline

/-- A fetch which succeeds warns of the types of which a call has failed. -/
theorem Fetched.Reflects.warned_iff {config : Config} {log : List Turn} {fetched : Fetched}
    (reflects : fetched.Reflects config (log.map (·.event))) (object : String) :
    fetched.warnings.contains object = true ↔
      ∃ turn ∈ log, turn.object = object ∧ turn.failure ≠ none := by
  rw [Warnings.contains_iff, reflects.keys]
  simp [Turn.object, Turn.failure]

theorem Fetched.Reflects.unfailed {config : Config} {log : List Turn} {fetched : Fetched}
    (reflects : fetched.Reflects config (log.map (·.event))) {object : String}
    (clean : fetched.warnings.contains object = false) :
    ∀ turn ∈ log, turn.object = object → turn.failure = none := by
  intro turn member named
  by_contra failed
  simp [(reflects.warned_iff object).mpr ⟨turn, member, named, failed⟩] at clean

theorem lookup_recordsOf (parts : List Fetching.Part) (object : String) :
    ((parts.map fun part => (part.object, part.records)).lookup object).getD [] =
      Fetching.recordsOf parts object := by
  unfold Fetching.recordsOf
  induction parts with
  | nil => rfl
  | cons part rest ih =>
      rw [List.map_cons, List.lookup_cons, List.find?_cons]
      by_cases same : part.object = object
      · simp [same]
      · have other : (object == part.object) = false := by simpa using fun equal => same equal.symm
        have apart : (part.object == object) = false := by simpa using same
        rw [other, apart]
        exact ih

section Fetch

variable (store : Store σ) {config : Config} {accountIds : List String} (cache : FieldCache)
  (state : σ)

/-- What was said in a fetch, and what came of it, are those of its tour. -/
theorem fetch_toured (valid : config.registry.Valid) (accountIds : List String) :
    ∃ result,
      Fetching.Toured config accountIds (cache.fields? store.org)
        (conversation store config accountIds cache state) result ∧
      ∀ fetched, (fetch store config accountIds cache state).1 = .ok fetched →
        (∃ value, result = .ok value) ∧ fetched.pool EntityType.contact =
          gathered EntityType.contact (conversation store config accountIds cache state) := by
  obtain ⟨said, result, last, ran, grown, -, toured⟩ :=
    Fetching.stages_converses valid accountIds ⟨(state, []), cache, Warnings.empty⟩
      (.start store.org cache state) rfl
  have whole : conversation store config accountIds cache state = said := by
    simp only [conversation, fetch, ran]
    exact grown
  rw [whole, ← fetch_overheard, fetch, ran]
  refine ⟨result, toured, fun fetched succeeded => ?_⟩
  cases result with
  | error error => contradiction
  | ok found =>
      obtain ⟨parts, missing⟩ := found
      cases succeeded
      exact ⟨⟨_, rfl⟩, (lookup_recordsOf parts EntityType.contact).trans
        (toured.contacts parts missing rfl)⟩

/-- What was fetched reflects what was said. -/
theorem fetch_reflects (valid : config.registry.Valid) {fetched : Fetched}
    (succeeded : (fetch store config accountIds cache state).1 = .ok fetched) :
    fetched.Reflects config
      ((conversation store config accountIds cache state).map (·.event)) := by
  rw [conversation_events]
  rcases fetch_reported store accountIds cache state valid with
    ⟨found, also, reflects, -⟩ | ⟨error, failed, -⟩
  · rw [succeeded] at also
    cases also
    exact reflects
  · simp [failed] at succeeded

/-- A fetch is disciplined, whatever the store answers. -/
theorem fetch_disciplined (validated : config.registry.validate = .ok ())
    (distinct : accountIds.Nodup) :
    Disciplined config accountIds (cache.fields? store.org)
      (conversation store config accountIds cache state)
      (fetch store config accountIds cache state).1 := by
  have valid := Registry.validate_eq_ok.mp validated
  obtain ⟨result, toured, succeeds⟩ := fetch_toured store cache state valid accountIds
  have runs := fun (type : EntityType) member => toured.runs distinct member
    (∃ fetched, (fetch store config accountIds cache state).1 = .ok fetched ∧
      fetched.warnings.contains type.name = false)
    (fun ⟨fetched, same, _⟩ => (succeeds fetched same).1)
    (fun ⟨fetched, same, clean⟩ => (fetch_reflects store cache state valid same).unfailed clean)
  refine ⟨?_, fun _ _ _ _ => toured.queried, toured.inOrder.accounts valid,
    toured.inOrder.direct valid, ?_, fun type member => (runs type member).1,
    fun fetched same type member clean => (runs type member).2 ⟨fetched, same, clean⟩,
    fun fetched same => (succeeds fetched same).2⟩
  · refine toured.stops.imp fun {earlier later} step object first second => ?_
    have same : earlier.object = later.object :=
      (congrArg Call.object first).trans (congrArg Call.object second).symm
    obtain ⟨query, answer, rfl⟩ := (step same).2
    contradiction
  · exact toured.stops.imp fun step failed same => failed (step same.symm).1

end Fetch

/-- A query which fails is the last one for its type, though another path led to the type before. -/
theorem fetch_disciplined_lapse :
    let store := (Fixture.households []).store.withOutages
    let log := conversation store Config.empty ["001", "002"] FieldCache.empty ((), [.lapse])
    Config.empty.registry.validate = .ok () ∧ ["001", "002"].Nodup ∧
      Disciplined Config.empty ["001", "002"] (FieldCache.empty.fields? store.org) log
        (fetch store Config.empty ["001", "002"] FieldCache.empty ((), [.lapse])).1 ∧
      ((about "ContactPointEmail" log).filterMap (·.query?)).map (fun query =>
          (query.idField, query.ids)) =
        [("Contact__c", ["003", "004"]), ("ParentId", ["0PK"])] :=
  ⟨rfl, by decide, fetch_disciplined _ _ _ rfl (by decide), by decide +kernel⟩

/-- Contact points are not asked for along paths which are not selected, even if the path leads from
the contacts and nothing fails. -/
theorem conversation_unselected :
    let config := { Config.empty with contactPointLinks := [("ContactPointEmail", [.contact])] }
    let store := (Fixture.households []).store
    let log := conversation store config ["001", "002"] FieldCache.empty ()
    config.registry.validate = .ok () ∧
      (∃ fetched, (fetch store config ["001", "002"] FieldCache.empty ()).1 = .ok fetched ∧
        fetched.warnings.contains "ContactPointEmail" = false) ∧
      (config.registry.get? "ContactPointEmail").map (·.link) =
        some (.contactPoint (some "Contact__c") (some "ParentId")) ∧
      Fetching.owners config.registry (gathered "Contact" log) .individual = ["0PK"] ∧
      ∀ query ∈ log.filterMap (·.query?),
        query.object = "ContactPointEmail" → query.idField ≠ "ParentId" := by
  intro config store log
  refine ⟨rfl, ?_, by decide +kernel, by decide +kernel, by decide +kernel⟩
  obtain ⟨fetched, succeeded, clean⟩ := @Fixture.succeeds _ _
    (fetch store config ["001", "002"] FieldCache.empty ()).1
    (fun fetched => !fetched.warnings.contains "ContactPointEmail") (by decide +kernel)
  exact ⟨fetched, succeeded, by simpa using clean⟩

end Dossier
