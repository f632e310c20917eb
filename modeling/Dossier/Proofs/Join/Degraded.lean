import Dossier.Proofs.Fetch.Discipline
import Dossier.Proofs.Join.Rows

/-!
Which types of a fixture are degraded.

A fixture fails for types which it does not know and for fields which it does not have.  The fields
which are planned for are there, so that only two of those which are asked for can be missing: the
identifier, which every query asks for, and the field which holds the account.  And they are missed by
those types alone of which something is asked.
-/

namespace Dossier

open Fetching (Asked Ran Visited Introduced Errand IsQuery errandsOf chunksOf)

namespace Fixture

variable (fixture : Fixture)

/-- The fixture has no such type. -/
def Unknown (object : String) : Prop :=
  fixture.fieldsOf object = .error (unknownType object)

/-- The type is known, but not this field of it. -/
def LacksField (object field : String) : Prop :=
  ∃ fields, fixture.fieldsOf object = .ok fields ∧ field ∉ fields

/-- Is a linked type degraded, if these are the contacts which were fetched? -/
def Degrades (config : Config) (contacts : List Record) (type : EntityType) : Prop :=
  fixture.Unknown type.name ∨
    match type.link with
    | .root => fixture.LacksField type.name Record.idField
    | .direct field =>
        fixture.LacksField type.name Record.idField ∨ fixture.LacksField type.name field
    | .contactReference field =>
        fixture.LacksField type.name Record.idField ∧
          ∃ contact ∈ contacts, (contact.reference? field).isSome = true
    | .contactPoint contactField individualField =>
        fixture.LacksField type.name Record.idField ∧
          ∃ path ∈ config.linkPaths type.name, ∃ field,
            pathField contactField individualField path = some field ∧
              fixture.knows type.name field = true ∧
                Fetching.owners config.registry contacts path ≠ []

variable {fixture}

theorem fieldsOf_error {object : String} {error : StoreError}
    (failed : fixture.fieldsOf object = .error error) : error = unknownType object := by
  unfold fieldsOf at failed
  split at failed
  · contradiction
  · contradiction
  · cases failed
    rfl

/-- A query fails for the first field which its type does not have. -/
theorem failure?_select {query : Query} {fields : List String}
    (described : fixture.fieldsOf query.object = .ok fields) :
    failure? (fixture.select query) =
      ((query.fields ++ [query.idField]).find? fun field => !fields.contains field).map
        (unknownField query.object) := by
  unfold select
  rw [described]
  dsimp only
  split
  · rename_i found
    rw [found]
    rfl
  · rename_i found
    rw [found]
    rfl

section Planned

variable {config : Config} {object idField : String} {fields : List String}

/-- Of the fields which are planned for, only the identifier can be missing. -/
theorem missing_iff {field : String} :
    field ∈ (ObjectPlan.make config object fields).queryFields ++ [idField] ∧ field ∉ fields ↔
      (field = Record.idField ∨ field = idField) ∧ field ∉ fields := by
  rw [List.mem_append, List.mem_singleton, ObjectPlan.mem_queryFields]
  tauto

theorem select_failing_iff (described : fixture.fieldsOf object = .ok fields) (ids : List String) :
    failure? (fixture.select
        ⟨object, (ObjectPlan.make config object fields).queryFields, idField, ids⟩) ≠ none ↔
      Record.idField ∉ fields ∨ idField ∉ fields := by
  have missing : failure? (fixture.select
        ⟨object, (ObjectPlan.make config object fields).queryFields, idField, ids⟩) ≠ none ↔
      ∃ field, field ∈ (ObjectPlan.make config object fields).queryFields ++ [idField] ∧
        field ∉ fields := by
    rw [failure?_select described, ← Option.isSome_iff_ne_none, Option.isSome_map, List.find?_isSome]
    simp only [Bool.not_eq_true', List.contains_eq_mem, decide_eq_false_iff_not]
  rw [missing]
  simp only [missing_iff]
  simp [or_and_right, exists_or]

theorem blamed_of_select (described : fixture.fieldsOf object = .ok fields) {ids : List String}
    {error : StoreError}
    (failed : fixture.select
      ⟨object, (ObjectPlan.make config object fields).queryFields, idField, ids⟩ = .error error) :
    ∃ field, error = unknownField object field ∧ (field = Record.idField ∨ field = idField) ∧
      field ∉ fields := by
  have told := @failure?_select fixture
    ⟨object, (ObjectPlan.make config object fields).queryFields, idField, ids⟩ fields described
  rw [failed] at told
  obtain ⟨field, found, same⟩ := Option.map_eq_some_iff.mp told.symm
  have missing : field ∉ fields := by simpa using List.find?_some found
  exact ⟨field, same.symm, missing_iff.mp ⟨List.mem_of_find?_eq_some found, missing⟩⟩

end Planned

end Fixture

namespace Fetching

variable {object idField : String} {fields : List String} {chunks : List (List String)}
  {said : List Turn} {found : Option (List Record)} {errands : List Errand}

/-- Where all queries for a field fail or none does, chunks are missed if there are any. -/
theorem Asked.misses_iff {missing : Prop} (asked : Asked object fields idField chunks said found)
    (verdict : ∀ turn ∈ said, turn.failure ≠ none ↔ missing) :
    (∃ turn ∈ said, turn.failure ≠ none) ↔ chunks ≠ [] ∧ missing := by
  cases asked with
  | done => simp
  | failed chunk rest error => simpa [failure?] using verdict
  | answered chunk records later =>
      have well : ¬ missing := by
        rw [← verdict _ List.mem_cons_self]
        simp [failure?]
      refine iff_of_false ?_ fun both => well both.2
      rintro ⟨turn, member, fails⟩
      exact well ((verdict turn member).mp fails)

theorem chunksOf_ne_nil {ids : List String} : chunksOf chunkSize ids ≠ [] ↔ ids ≠ [] := by
  have positive : 0 < chunkSize := by decide
  refine ⟨fun chunked empty => chunked ?_, fun filled => ?_⟩
  · rw [empty, chunksOf_nil positive]
  · rw [chunksOf_cons positive filled]
    exact List.cons_ne_nil _ _

/-- Errands which ask for something are missed where their field is missing. -/
theorem Ran.misses_iff (missing : String → Prop) (ran : Ran object fields errands said)
    (verdict : ∀ turn ∈ said, ∀ field, IsQuery object fields field turn →
      (turn.failure ≠ none ↔ missing field)) :
    (∃ turn ∈ said, turn.failure ≠ none) ↔
      ∃ errand ∈ errands, errand.ids ≠ [] ∧ missing errand.field := by
  induction ran with
  | done => simp
  | @failed errand said rest asked =>
      have missed := asked.misses_iff fun turn member =>
        verdict turn member _ (asked.queries turn member)
      have failing := asked.failing_iff.mp rfl
      rw [chunksOf_ne_nil] at missed
      exact iff_of_true failing ⟨errand, List.mem_cons_self, missed.mp failing⟩
  | @answered errand rest said more records asked later ih =>
      obtain ⟨own, others⟩ := List.forall_mem_append.mp verdict
      have missed := asked.misses_iff fun turn member => own turn member _ (asked.queries turn member)
      have well : ¬ ∃ turn ∈ said, turn.failure ≠ none := by
        rw [← asked.failing_iff]
        simp
      rw [chunksOf_ne_nil] at missed
      simp only [List.mem_append, or_and_right, exists_or, well, false_or, ih others,
        List.exists_mem_cons_iff, ← missed]

end Fetching

namespace Fixture

variable {fixture : Fixture} {config : Config} {accountIds : List String} {contacts : List Record}
  {type : EntityType} {said : List Turn}

/-- A visit to a type of a fixture meets a failure if the type is unknown, or if an errand asks for
something by a field which the type does not have. -/
theorem visit_misses_iff
    (visited : Visited config type.name (errandsOf config accountIds contacts type) none said)
    (agrees : ∀ turn ∈ said, turn.Agrees fixture.answers) :
    (∃ turn ∈ said, turn.failure ≠ none) ↔ fixture.Unknown type.name ∨
      ∃ fields, fixture.fieldsOf type.name = .ok fields ∧
        ∃ errand ∈ errandsOf config accountIds contacts type fields, errand.ids ≠ [] ∧
          (Record.idField ∉ fields ∨ errand.field ∉ fields) := by
  cases visited with
  | refused introduced =>
      cases introduced with
      | told unknown =>
          have told : _ = fixture.fieldsOf type.name := agrees _ List.mem_cons_self
          have known := fieldsOf_error told.symm
          refine iff_of_true ⟨_, List.mem_cons_self, by simp [failure?]⟩ (.inl ?_)
          rw [Unknown, ← told, known]
  | @described fields first more introduced ran =>
      cases introduced with
      | known remembers => contradiction
      | told unknown =>
          have told : _ = fixture.fieldsOf type.name := agrees _ List.mem_cons_self
          have known : ¬ fixture.Unknown type.name := by simp [Unknown, ← told]
          have missed := Ran.misses_iff (fun field => Record.idField ∉ fields ∨ field ∉ fields) ran
            fun turn member field query => by
              obtain ⟨ids, answer, rfl⟩ := query
              have answered : answer = fixture.select _ := agrees _ (List.mem_cons_of_mem _ member)
              rw [Turn.failure_queried, answered, select_failing_iff told.symm]
          simp only [List.singleton_append, List.exists_mem_cons_iff, Turn.failure_described, failure?,
            ne_eq, not_true, false_or, known]
          rw [missed]
          constructor
          · exact fun errand => ⟨fields, told.symm, errand⟩
          · rintro ⟨others, same, errand⟩
            cases told.trans same
            exact errand

theorem lacksField_iff {object : String} {fields : List String}
    (described : fixture.fieldsOf object = .ok fields) (field : String) :
    fixture.LacksField object field ↔ field ∉ fields := by
  simp [LacksField, described]

theorem distinctValues_ne_nil {field : String} :
    Fetching.distinctValues contacts field ≠ [] ↔
      ∃ contact ∈ contacts, (contact.reference? field).isSome = true := by
  simp only [Fetching.distinctValues, ne_eq, List.eq_nil_iff_forall_not_mem, mem_distinct,
    List.mem_filterMap, not_forall, not_not, Option.isSome_iff_exists]
  constructor
  · rintro ⟨value, contact, member, given⟩
    exact ⟨contact, member, value, given⟩
  · rintro ⟨contact, member, value, given⟩
    exact ⟨value, contact, member, given⟩

/-- The errands which are missed are those for which a type is degraded. -/
theorem degrades_iff (filled : accountIds ≠ []) :
    (fixture.Unknown type.name ∨ ∃ fields, fixture.fieldsOf type.name = .ok fields ∧
      ∃ errand ∈ errandsOf config accountIds contacts type fields, errand.ids ≠ [] ∧
        (Record.idField ∉ fields ∨ errand.field ∉ fields)) ↔
      fixture.Degrades config contacts type := by
  cases described : fixture.fieldsOf type.name with
  | error error =>
      have unknown : fixture.Unknown type.name := by rw [Unknown, described, fieldsOf_error described]
      exact iff_of_true (.inl unknown) (.inl unknown)
  | ok fields =>
      have lacks := lacksField_iff described
      unfold Degrades errandsOf
      refine or_congr_right ?_
      simp only [Except.ok.injEq, exists_eq_left']
      cases link : type.link with
      | root => simp [lacks, filled]
      | direct field => simp [lacks, filled]
      | contactReference field => simp [lacks, distinctValues_ne_nil, and_comm]
      | contactPoint contactField individualField =>
          have planned : fixture.answers.plan type.name config =
              .ok (ObjectPlan.make config type.name fields) :=
            Answers.plan_eq_ok.mpr ⟨fields, described, rfl⟩
          have known : ∀ field, fixture.knows type.name field = true ↔ field ∈ fields := by
            simp [knows, described]
          simp only [lacks, List.mem_map, mem_activeSources planned, exists_exists_and_eq_and, known]
          constructor
          · rintro ⟨source, ⟨selected, given, inside⟩, asked, missing⟩
            exact ⟨missing.resolve_right (not_not.mpr inside),
              source.path, selected, source.field, given, inside, asked⟩
          · rintro ⟨missing, path, selected, field, given, inside, asked⟩
            exact ⟨⟨path, field⟩, ⟨selected, given, inside⟩, asked, .inl missing⟩

/-- What a fixture can be blamed for: a type which it does not have, or a field which every query
asks for, or the field by which a type links to accounts. -/
def Blamed (fixture : Fixture) (registry : Registry) (object : String) (error : StoreError) : Prop :=
  error = unknownType object ∧ fixture.Unknown object ∨
    ∃ field, error = unknownField object field ∧ fixture.LacksField object field ∧
      (field = Record.idField ∨
        ∃ type ∈ registry.objects, type.name = object ∧ type.link = .direct field)

theorem Blamed.recoverable {registry : Registry} {object : String} {error : StoreError}
    (blamed : fixture.Blamed registry object error) : error.isRecoverable = true := by
  rcases blamed with ⟨rfl, -⟩ | ⟨field, rfl, -⟩ <;> rfl

/-- By what a type is asked for: what its link says, unless that is known to be there. -/
theorem errandsOf_field {fields : List String} {errand : Errand}
    (listed : errand ∈ errandsOf config accountIds contacts type fields) :
    errand.field = Record.idField ∨ type.link = .direct errand.field ∨ errand.field ∈ fields := by
  unfold errandsOf at listed
  cases link : type.link with
  | root =>
      simp only [link, List.mem_singleton] at listed
      exact .inl (listed ▸ rfl)
  | direct field =>
      simp only [link, List.mem_singleton] at listed
      exact .inr (.inl (listed ▸ rfl))
  | contactReference field =>
      simp only [link, List.mem_singleton] at listed
      exact .inl (listed ▸ rfl)
  | contactPoint contactField individualField =>
      simp only [link, List.mem_map] at listed
      obtain ⟨source, active, rfl⟩ := listed
      obtain ⟨path, -, kept⟩ := List.mem_filterMap.mp active
      obtain ⟨field, given, rfl⟩ := Option.map_eq_some_iff.mp kept
      have known := (Option.filter_eq_some_iff.mp given).2
      exact .inr (.inr (List.contains_iff_mem.mp known))

theorem visit_blamed (member : type ∈ config.registry.objects)
    (visited : Visited config type.name (errandsOf config accountIds contacts type) none said)
    (agrees : ∀ turn ∈ said, turn.Agrees fixture.answers) :
    ∀ turn ∈ said, ∀ error, turn.failure = some error →
      fixture.Blamed config.registry type.name error := by
  intro turn inside error failed
  cases visited with
  | refused introduced =>
      cases introduced with
      | told unknown =>
          obtain rfl := List.mem_singleton.mp inside
          have told : _ = fixture.fieldsOf type.name := agrees _ inside
          obtain rfl := Option.some.inj failed
          have known := fieldsOf_error told.symm
          exact .inl ⟨known, by rw [Unknown, ← told, known]⟩
  | @described fields first more introduced ran =>
      cases introduced with
      | known remembers => contradiction
      | told unknown =>
          have told : _ = fixture.fieldsOf type.name := agrees _ List.mem_cons_self
          rcases List.mem_cons.mp inside with rfl | later
          · contradiction
          · obtain ⟨errand, listed, ids, answer, rfl⟩ := ran.queries turn later
            have answered : answer = fixture.select _ := agrees _ inside
            rw [Turn.failure_queried, failure?_eq_some, answered] at failed
            obtain ⟨field, rfl, which, missing⟩ := blamed_of_select told.symm failed
            refine .inr ⟨field, rfl, (lacksField_iff told.symm field).mpr missing, ?_⟩
            rcases which with rfl | rfl
            · exact .inl rfl
            · rcases errandsOf_field listed with id | linked | present
              · exact .inl id
              · exact .inr ⟨type, member, rfl, linked⟩
              · exact absurd present missing

section Toured

variable {log : List Turn} {result : Except FetchError (List Fetching.Part × List String)}
  (toured : Fetching.Toured config accountIds (FieldCache.empty.fields? fixture.org) log result)
  (agrees : ∀ turn ∈ log, turn.Agrees fixture.answers) (member : type ∈ config.registry.objects)

include toured agrees member

theorem toured_misses_iff (filled : accountIds ≠ [])
    (reached : (∃ value, result = .ok value) ∨ about type.name log ≠ []) :
    (∃ turn ∈ log, turn.object = type.name ∧ turn.failure ≠ none) ↔
      fixture.Degrades config (gathered EntityType.contact log) type := by
  rcases toured.tour.visited type member with visited | ⟨silent, error, stopped⟩
  · rw [← degrades_iff filled, ← visit_misses_iff visited fun turn inside =>
      agrees turn (mem_about.mp inside).1]
    simp only [mem_about, and_assoc]
  · rcases reached with ⟨value, same⟩ | heard
    · simp [stopped] at same
    · exact absurd silent heard

theorem toured_blamed {turn : Turn} (inside : turn ∈ log) (named : turn.object = type.name)
    {error : StoreError} (failed : turn.failure = some error) :
    fixture.Blamed config.registry type.name error := by
  have own := mem_about.mpr ⟨inside, named⟩
  rcases toured.tour.visited type member with visited | ⟨silent, -⟩
  · exact visit_blamed member visited (fun turn inside => agrees turn (mem_about.mp inside).1)
      turn own error failed
  · simp [silent] at own

end Toured

section Fetch

variable (valid : config.registry.Valid)

include valid

theorem fetch_blamed : ∀ turn ∈ conversation fixture.store config accountIds FieldCache.empty (),
    ∀ error, turn.failure = some error → fixture.Blamed config.registry turn.object error := by
  intro turn inside error failed
  obtain ⟨result, toured, -⟩ := fetch_toured fixture.store FieldCache.empty () valid accountIds
  have agrees := conversation_agrees fixture.gives config accountIds FieldCache.empty ()
  obtain ⟨type, listed, called⟩ := List.mem_map.mp (toured.tour.among turn inside)
  exact called ▸ toured_blamed toured agrees listed inside called.symm failed

variable (filled : accountIds ≠ [])

include filled

theorem fetch_fails_iff :
    (∃ error, (fetch fixture.store config accountIds FieldCache.empty ()).1 = .error error) ↔
      fixture.Unknown EntityType.account ∨ fixture.LacksField EntityType.account Record.idField := by
  obtain ⟨result, toured, succeeds⟩ :=
    fetch_toured fixture.store FieldCache.empty () valid accountIds
  have agrees := conversation_agrees fixture.gives config accountIds FieldCache.empty ()
  obtain ⟨root, member, named, unlinked⟩ := valid.account
  have degrades : fixture.Degrades config (gathered EntityType.contact
      (conversation fixture.store config accountIds FieldCache.empty ())) root ↔
        fixture.Unknown EntityType.account ∨
          fixture.LacksField EntityType.account Record.idField := by
    rw [Degrades, unlinked, named]
  have reported := fetch_reported fixture.store accountIds FieldCache.empty () valid
  rw [← conversation_events] at reported
  rw [← degrades]
  rcases reported with ⟨fetched, succeeded, -, spared⟩ | ⟨error, failed, ended⟩
  · refine iff_of_false (by simp [succeeded]) fun degrades => ?_
    obtain ⟨turn, inside, called, fails⟩ := (toured_misses_iff toured agrees member filled
      (.inl (succeeds fetched succeeded).1)).mpr degrades
    have spared := Event.fatal?_eq_none.mp (spared turn.event (List.mem_map_of_mem inside))
    exact fails (spared.1 (called.trans named))
  · refine iff_of_true ⟨error, failed⟩ ?_
    obtain ⟨earlier, last, whole, -, fatal⟩ := ended
    have listed : last ∈ (conversation fixture.store config accountIds FieldCache.empty ()).map
        (·.event) := by simp [whole]
    obtain ⟨turn, inside, rfl⟩ := List.mem_map.mp listed
    cases error with
    | required object source =>
        obtain ⟨called, account, missed⟩ := Event.fatal?_eq_required.mp fatal
        have called : turn.object = root.name := called.trans (account.trans named.symm)
        refine (toured_misses_iff toured agrees member filled (.inr ?_)).mp
          ⟨turn, inside, called, by simp [Turn.failure, missed]⟩
        exact List.ne_nil_of_mem (mem_about.mpr ⟨inside, called⟩)
    | store object source =>
        -- Whatever a fixture can be blamed for concerns one type alone.
        obtain ⟨-, -, missed, severe⟩ := Event.fatal?_eq_store.mp fatal
        have mild := (fetch_blamed valid turn inside source missed).recoverable
        simp [Event.isSevere, missed, mild] at severe

theorem fetch_warned_iff {fetched : Fetched}
    (succeeded : (fetch fixture.store config accountIds FieldCache.empty ()).1 = .ok fetched)
    (linked : type ∈ config.registry.linked) :
    fetched.warnings.contains type.name = true ↔
      fixture.Degrades config (fetched.pool EntityType.contact) type := by
  obtain ⟨result, toured, succeeds⟩ :=
    fetch_toured fixture.store FieldCache.empty () valid accountIds
  have agrees := conversation_agrees fixture.gives config accountIds FieldCache.empty ()
  obtain ⟨found, same⟩ := succeeds fetched succeeded
  rw [same, (fetch_reflects fixture.store FieldCache.empty () valid succeeded).warned_iff]
  exact toured_misses_iff toured agrees (Registry.mem_linked.mp linked).1 filled (.inl found)

end Fetch

/-- What comes of a fetch from a fixture, and which types it warns of. -/
structure Degradation (fixture : Fixture) (config : Config) (log : List Turn)
    (result : Except FetchError Fetched) : Prop where
  fails_iff : (∃ error, result = .error error) ↔
    fixture.Unknown EntityType.account ∨ fixture.LacksField EntityType.account Record.idField
  warned_iff : ∀ fetched, result = .ok fetched → ∀ type ∈ config.registry.linked,
    (fetched.warnings.contains type.name = true ↔
      fixture.Degrades config (fetched.pool EntityType.contact) type)
  /-- No other field is ever missed. -/
  blamed : ∀ turn ∈ log, ∀ error, turn.failure = some error →
    fixture.Blamed config.registry turn.object error

/-- Field selection never degrades a type: a fetch from a fixture fails for its accounts alone, and
it warns of just those types which are unknown, or which miss the identifier or the field of their
account where they are asked for it. -/
theorem fetch_degrades (validated : config.registry.validate = .ok ()) (filled : accountIds ≠ []) :
    fixture.Degradation config
      (conversation fixture.store config accountIds FieldCache.empty ())
      (fetch fixture.store config accountIds FieldCache.empty ()).1 := by
  have valid := Registry.validate_eq_ok.mp validated
  exact ⟨fetch_fails_iff valid filled,
    fun fetched succeeded type linked => fetch_warned_iff valid filled succeeded linked,
    fetch_blamed valid⟩

/-- Contact points without identifiers are missed, individuals without any displayed field are not. -/
theorem fetch_degrades_unidentified :
    let fixture := households [("ContactPointEmail", ["Contact__c", "ParentId"]),
      (EntityType.individual, ["Id"])]
    Config.empty.registry.validate = .ok () ∧ ["001", "002"] ≠ [] ∧
      fixture.Degradation Config.empty
        (conversation fixture.store Config.empty ["001", "002"] FieldCache.empty ())
        (fetch fixture.store Config.empty ["001", "002"] FieldCache.empty ()).1 ∧
      ∃ fetched, (fetch fixture.store Config.empty ["001", "002"] FieldCache.empty ()).1 = .ok fetched ∧
        fetched.warnings.contains "ContactPointEmail" = true ∧
          fetched.warnings.contains EntityType.individual = false := by
  intro fixture
  refine ⟨rfl, by decide, fetch_degrades rfl (by decide), ?_⟩
  obtain ⟨fetched, succeeded, warned⟩ := @succeeds _ _
    (fetch fixture.store Config.empty ["001", "002"] FieldCache.empty ()).1
    (fun fetched => fetched.warnings.contains "ContactPointEmail" &&
      !fetched.warnings.contains EntityType.individual) (by decide +kernel)
  simp only [Bool.and_eq_true, Bool.not_eq_true'] at warned
  exact ⟨fetched, succeeded, warned⟩

end Fixture

end Dossier
