import Dossier.Proofs.Fetch.Chunks
import Dossier.Proofs.Fetch.Conversation

/-!
The turns of a fetch which are about one type.

A type is visited once: it is described unless its fields are known, and then one errand after the
other is run, each of which asks for chunk after chunk of its identifiers.  The first call which
fails is the last one of the visit.
-/

namespace Dossier.Fetching

variable {σ α β : Type}

/-- Chunk after chunk is asked for, until a call fails; these are the records which were found. -/
inductive Asked (object : String) (fields : List String) (idField : String) :
    List (List String) → List Turn → Option (List Record) → Prop where
  | done : Asked object fields idField [] [] (some [])
  | failed (chunk : List String) (rest : List (List String)) (error : StoreError) :
      Asked object fields idField (chunk :: rest)
        [.queried ⟨object, fields, idField, chunk⟩ (.error error)] none
  | answered {rest : List (List String)} {said : List Turn} {found : Option (List Record)}
      (chunk : List String) (records : List Record)
      (later : Asked object fields idField rest said found) :
      Asked object fields idField (chunk :: rest)
        (.queried ⟨object, fields, idField, chunk⟩ (.ok records) :: said)
        (found.map (records ++ ·))

/-- What is asked for of a type: the records whose field is one of these. -/
structure Errand where
  field : String
  ids : List String
deriving DecidableEq

/-- One errand after the other is run, until a call fails. -/
inductive Ran (object : String) (fields : List String) : List Errand → List Turn → Prop where
  | done : Ran object fields [] []
  | failed {errand : Errand} {said : List Turn} (rest : List Errand)
      (asked : Asked object fields errand.field (chunksOf chunkSize errand.ids) said none) :
      Ran object fields (errand :: rest) said
  | answered {errand : Errand} {rest : List Errand} {said more : List Turn} {records : List Record}
      (asked : Asked object fields errand.field (chunksOf chunkSize errand.ids) said (some records))
      (later : Ran object fields rest more) :
      Ran object fields (errand :: rest) (said ++ more)

/-- A type is visited, of which these fields are remembered.  The errands depend on its fields. -/
inductive Visited (config : Config) (object : String) (errands : List String → List Errand)
    (remembered : Option (List String)) : List Turn → Prop where
  | refused {said : List Turn} {error : StoreError}
      (introduced : Introduced object remembered said (.error error)) :
      Visited config object errands remembered said
  | described {fields : List String} {said more : List Turn}
      (introduced : Introduced object remembered said (.ok fields))
      (ran : Ran object (ObjectPlan.make config object fields).queryFields (errands fields) more) :
      Visited config object errands remembered (said ++ more)

section Turns

variable {object idField : String} {fields : List String} {chunks : List (List String)}
  {said : List Turn} {found : Option (List Record)} {errands : List Errand}

/-- A query for fields of a type, whatever identifiers it asks for and however it is answered. -/
def IsQuery (object : String) (fields : List String) (idField : String) (turn : Turn) : Prop :=
  ∃ ids answer, turn = .queried ⟨object, fields, idField, ids⟩ answer

theorem Asked.queries (asked : Asked object fields idField chunks said found) :
    ∀ turn ∈ said, IsQuery object fields idField turn := by
  induction asked with
  | done => simp
  | failed chunk rest error => simp [IsQuery]
  | answered chunk records later ih => exact List.forall_mem_cons.mpr ⟨⟨_, _, rfl⟩, ih⟩

theorem Asked.failing_iff (asked : Asked object fields idField chunks said found) :
    found = none ↔ ∃ turn ∈ said, turn.failure ≠ none := by
  induction asked with
  | done => simp
  | failed chunk rest error => simp [failure?]
  | answered chunk records later ih => simp [ih, failure?]

/-- Only the last call fails. -/
theorem Asked.stops (asked : Asked object fields idField chunks said found) :
    said.Pairwise fun earlier _ => earlier.failure = none := by
  induction asked with
  | done => exact .nil
  | failed chunk rest error => exact List.pairwise_singleton _ _
  | answered chunk records later ih => exact List.pairwise_cons.mpr ⟨fun _ _ => rfl, ih⟩

theorem Ran.queries (ran : Ran object fields errands said) :
    ∀ turn ∈ said, ∃ errand ∈ errands, IsQuery object fields errand.field turn := by
  induction ran with
  | done => simp
  | failed rest asked => exact fun turn member => ⟨_, List.mem_cons_self, asked.queries turn member⟩
  | answered asked later ih =>
      refine List.forall_mem_append.mpr ⟨fun turn member => ?_, fun turn member => ?_⟩
      · exact ⟨_, List.mem_cons_self, asked.queries turn member⟩
      · obtain ⟨errand, listed, query⟩ := ih turn member
        exact ⟨errand, List.mem_cons_of_mem _ listed, query⟩

theorem Ran.stops (ran : Ran object fields errands said) :
    said.Pairwise fun earlier _ => earlier.failure = none := by
  induction ran with
  | done => exact .nil
  | failed rest asked => exact asked.stops
  | answered asked later ih =>
      refine List.pairwise_append.mpr ⟨asked.stops, ih, fun turn member _ _ => ?_⟩
      by_contra fails
      have failing := asked.failing_iff.mpr ⟨turn, member, fails⟩
      contradiction

theorem IsQuery.object_eq {turn : Turn} (query : IsQuery object fields idField turn) :
    turn.object = object := by
  obtain ⟨ids, answer, rfl⟩ := query
  rfl

theorem Ran.object_eq (ran : Ran object fields errands said) :
    ∀ turn ∈ said, turn.object = object := by
  intro turn member
  obtain ⟨errand, -, query⟩ := ran.queries turn member
  exact query.object_eq

/-- The records which were found are those which were answered. -/
theorem Asked.flatMap_records (asked : Asked object fields idField chunks said found)
    {records : List Record}
    (some : found = some records) : said.flatMap (·.records) = records := by
  induction asked generalizing records with
  | done =>
      cases some
      rfl
  | failed chunk rest error => contradiction
  | answered chunk more later ih =>
      obtain ⟨others, given, rfl⟩ := Option.map_eq_some_iff.mp some
      rw [List.flatMap_cons, ih given]
      rfl

theorem Asked.gathered_eq (asked : Asked object fields idField chunks said found) :
    gathered object said = found.getD [] := by
  have own : about object said = said :=
    about_of_all fun turn member => (asked.queries turn member).object_eq
  have failing : (said.any (·.failure.isSome)) = true ↔ found = none := by
    rw [asked.failing_iff, List.any_eq_true]
    simp only [Option.isSome_iff_ne_none]
  rw [gathered, own]
  cases found with
  | none => rw [if_pos (failing.mpr rfl), Option.getD_none]
  | some records => rw [if_neg (by simp [failing]), asked.flatMap_records rfl, Option.getD_some]

theorem Introduced.only {remembered : Option (List String)}
    {answer : Except StoreError (List String)}
    (introduced : Introduced object remembered said answer) :
    ∀ turn ∈ said, turn = .described object answer := by
  cases introduced with
  | known remembers => simp
  | told unknown => simp

theorem Introduced.gathered_append {remembered : Option (List String)}
    (introduced : Introduced object remembered said (.ok fields)) (more : List Turn) :
    gathered object (said ++ more) = gathered object more := by
  cases introduced with
  | known remembers => rfl
  | told unknown => simp [gathered, about, failure?, Turn.records]

theorem Introduced.gathered_error {remembered : Option (List String)} {error : StoreError}
    (introduced : Introduced object remembered said (.error error)) : gathered object said = [] := by
  cases introduced with
  | told unknown => simp [gathered, about, failure?]

end Turns

section Steps

variable {store : Store σ} {config : Config} {before : FieldCache}
  {earlier : List Turn → Prop}

/-- What a step gives of something which was found, unless a call failed and the fetch is over. -/
inductive Outcome (found : Option α) : Except FetchError (Option α) → Prop where
  | back : Outcome found (.ok found)
  | stopped (nothing : found = none) (error : FetchError) : Outcome found (.error error)

/-- A call for the type has just failed, and it is degraded. -/
theorem degrade_converses {object : String} (need : Need) {turn : Turn} {error : StoreError}
    (named : turn.object = object) (failed : turn.failure = some error) :
    Converses store.org before (fun log => ∃ prior, earlier prior ∧ log = prior ++ [turn])
      (do degrade ⟨store.overheard, config⟩ object error need; return (none : Option α))
      fun said result => said = [] ∧ Outcome none result := by
  rintro state abreast ⟨prior, started, logged⟩
  rw [degrade_eq]
  cases fatal? object need error with
  | some fatal => exact ⟨[], _, _, rfl, (List.append_nil _).symm, abreast, rfl, .stopped rfl fatal⟩
  | none =>
      refine ⟨[], _, _, rfl, (List.append_nil _).symm, ⟨fun name warned => ?_, abreast.known⟩, rfl,
        .back⟩
      rw [Warnings.contains_insert, Bool.or_eq_true, beq_iff_eq] at warned
      rcases warned with warned | rfl
      · exact abreast.warned name warned
      · exact ⟨turn, by simp [logged], named, by simp [failed]⟩

/-- No call for the type has failed so far. -/
def Unharmed (object : String) (log : List Turn) : Prop :=
  ∀ turn ∈ log, turn.object = object → turn.failure = none

theorem Unharmed.concat {object : String} {log : List Turn} (unharmed : Unharmed object log)
    {said : List Turn} (well : ∀ turn ∈ said, turn.failure = none) : Unharmed object (log ++ said) :=
  List.forall_mem_append.mpr ⟨unharmed, fun turn member _ => well turn member⟩

theorem queryChunks_converses {object : String} (fields : List String) (idField : String)
    (need : Need) (records : List Record) (chunks : List (List String))
    (unharmed : ∀ log, earlier log → Unharmed object log) :
    Converses store.org before earlier
      (queryChunks ⟨store.overheard, config⟩ object fields idField need records chunks)
      fun said result => ∃ found, Asked object fields idField chunks said found ∧
        Outcome (found.map (records ++ ·)) result := by
  induction chunks generalizing records earlier with
  | nil =>
      refine pure_converses ⟨_, .done, ?_⟩
      rw [Option.map_some, List.append_nil]
      exact .back
  | cons chunk rest ih =>
      refine get_bind_converses fun state abreast started => ?_
      simp only [abreast.clean (unharmed _ started), Bool.false_eq_true, if_false]
      refine (ask_converses ⟨object, fields, idField, chunk⟩).bind (fun said answer asked => ?_) ?_
      · obtain ⟨answer, rfl, same⟩ := asked
        cases same
        cases answer with
        | error error =>
            refine (degrade_converses need rfl rfl).imp (fun _ same => same) ?_
            rintro said result ⟨rfl, outcome⟩
            exact ⟨none, .failed chunk rest error, outcome⟩
        | ok more =>
            have still : ∀ log, (∃ prior, earlier prior ∧
                log = prior ++ [.queried ⟨object, fields, idField, chunk⟩ (.ok more)]) →
                Unharmed object log := by
              rintro _ ⟨prior, started, rfl⟩
              exact (unharmed prior started).concat (by simp [failure?])
            refine (ih (records ++ more) still).imp (fun _ same => same) ?_
            rintro said result ⟨found, later, outcome⟩
            refine ⟨_, .answered chunk more later, ?_⟩
            simpa [Option.map_map, Function.comp_def] using outcome
      · rintro said error ⟨answer, -, same⟩
        contradiction

theorem query_converses {object : String} (fields : List String) (errand : Errand) (need : Need)
    (unharmed : ∀ log, earlier log → Unharmed object log) :
    Converses store.org before earlier
      (query ⟨store.overheard, config⟩ object fields errand.field errand.ids need)
      fun said result => ∃ found,
        Asked object fields errand.field (chunksOf chunkSize errand.ids) said found ∧
          Outcome found result := by
  refine (queryChunks_converses fields errand.field need [] _ unharmed).imp (fun _ same => same) ?_
  rintro said result ⟨found, asked, outcome⟩
  refine ⟨found, asked, ?_⟩
  simpa using outcome

theorem queryPaths_converses (plan : ObjectPlan) (owners : LinkPath → List String)
    (pool : List Record) (sources : List LinkSource)
    (unharmed : ∀ log, earlier log → Unharmed plan.object log) :
    Converses store.org before earlier
      (queryPaths ⟨store.overheard, config⟩ plan owners pool sources)
      fun said _ => Ran plan.object plan.queryFields
        (sources.map fun source => ⟨source.field, owners source.path⟩) said := by
  induction sources generalizing pool earlier with
  | nil => exact pure_converses .done
  | cons source rest ih =>
      refine (query_converses plan.queryFields ⟨source.field, owners source.path⟩ .optional
        unharmed).bind (fun said selected ended => ?_) fun said error ended => ?_
      · obtain ⟨found, asked, outcome⟩ := ended
        cases outcome
        cases selected with
        | none =>
            refine pure_converses ?_
            rw [List.append_nil]
            exact .failed _ asked
        | some records =>
            have still : ∀ log, (∃ prior, earlier prior ∧ log = prior ++ said) →
                Unharmed plan.object log := by
              rintro _ ⟨prior, started, rfl⟩
              refine (unharmed prior started).concat fun turn member => ?_
              by_contra fails
              have failing := asked.failing_iff.mpr ⟨turn, member, fails⟩
              contradiction
            exact (ih (addNew pool records) still).imp (fun _ same => same)
              fun more result ran => .answered asked ran
      · obtain ⟨found, asked, outcome⟩ := ended
        cases outcome with
        | stopped nothing _ => exact .failed _ (nothing ▸ asked)

/-- No call about the type was made so far. -/
def Unmet (object : String) (log : List Turn) : Prop :=
  ∀ turn ∈ log, turn.object ≠ object

theorem Unmet.knownFields {object : String} {log : List Turn} (unmet : Unmet object log)
    (remembered : String → Option (List String)) :
    knownFields remembered log object = remembered object := by
  rw [← knownFields_about, about_of_none unmet]
  exact Option.or_none

/-- The plan of a type which was not met yet is made of the fields which are remembered or told. -/
theorem plan_converses {object : String} (need : Need)
    (unmet : ∀ log, earlier log → Unmet object log) :
    Converses store.org before earlier (plan ⟨store.overheard, config⟩ object need)
      fun said result =>
        ∃ answer, Introduced object (before.fields? store.org object) said answer ∧
          Outcome (answer.toOption.map (ObjectPlan.make config object)) result := by
  refine (describe_converses fun log started => (unmet log started).knownFields _).bind
    (fun said answer told => ?_) fun said error told => ?_
  · obtain ⟨answer, introduced, same⟩ := told
    cases same
    cases introduced with
    | known remembers => exact pure_converses ⟨_, .known remembers, .back⟩
    | told unknown answer =>
        cases answer with
        | ok fields => exact pure_converses ⟨_, .told unknown (.ok fields), .back⟩
        | error error =>
            refine (degrade_converses need rfl rfl).imp (fun _ same => same) ?_
            rintro said result ⟨rfl, outcome⟩
            exact ⟨_, .told unknown (.error error), outcome⟩
  · obtain ⟨answer, -, same⟩ := told
    contradiction

/-- What the visit to a type leaves: the turns of the visit and, if the fetch goes on, a part.  Its
records are those which were answered, if there is but one way to them. -/
structure Leaves (config : Config) (object : String) (errands : List String → List Errand)
    (remembered : Option (List String)) (plain : Bool) (said : List Turn)
    (result : Except FetchError Part) : Prop where
  visited : Visited config object errands remembered said
  part : ∀ part, result = .ok part → part.object = object ∧
    (plain = true → part.records = gathered object said)

theorem planned_converses {object : String} (need : Need) {plain : Bool}
    {errands : List String → List Errand}
    (unmet : ∀ log, earlier log → Unmet object log)
    {next : Option ObjectPlan → Fetching (σ × List Turn) Part}
    {linkSources : Option (List LinkSource)}
    (absent : next none = pure ⟨object, none, linkSources, []⟩)
    (planned : ∀ fields (prior : List Turn → Prop), (∀ log, prior log → Unharmed object log) →
      Converses store.org before prior (next (some (ObjectPlan.make config object fields)))
        fun said result =>
          Ran object (ObjectPlan.make config object fields).queryFields (errands fields) said ∧
          ∀ part, result = .ok part → part.object = object ∧
            (plain = true → part.records = gathered object said)) :
    Converses store.org before earlier (plan ⟨store.overheard, config⟩ object need >>= next)
      (Leaves config object errands (before.fields? store.org object) plain) := by
  refine (plan_converses need unmet).bind (fun said value told => ?_) fun said error told => ?_
  · obtain ⟨answer, introduced, outcome⟩ := told
    cases outcome
    cases answer with
    | error error =>
        rw [Except.toOption, Option.map_none, absent]
        refine pure_converses ⟨.refused (List.append_nil said ▸ introduced), fun part same => ?_⟩
        cases same
        rw [List.append_nil]
        exact ⟨rfl, fun _ => introduced.gathered_error.symm⟩
    | ok fields =>
        have unharmed : ∀ log, (∃ prior, earlier prior ∧ log = prior ++ said) →
            Unharmed object log := by
          rintro _ ⟨prior, started, rfl⟩
          refine Unharmed.concat (fun turn member named => ?_) fun turn member => ?_
          · exact absurd named (unmet prior started turn member)
          · rw [introduced.only turn member]
            rfl
        refine (planned fields _ unharmed).imp (fun _ same => same) fun more result told => ?_
        obtain ⟨ran, part⟩ := told
        refine ⟨.described introduced ran, fun given same => ?_⟩
        rw [introduced.gathered_append]
        exact part given same
  · obtain ⟨answer, introduced, outcome⟩ := told
    cases answer with
    | error reason => exact ⟨.refused introduced, by simp⟩
    | ok fields =>
        cases outcome with
        | stopped nothing => contradiction

theorem fetchType_converses {object : String} (errand : Errand) (need : Need)
    (unmet : ∀ log, earlier log → Unmet object log) :
    Converses store.org before earlier
      (fetchType ⟨store.overheard, config⟩ object errand.field errand.ids need)
      (Leaves config object (fun _ => [errand]) (before.fields? store.org object) true) := by
  refine planned_converses need unmet rfl fun fields prior unharmed => ?_
  refine (query_converses (ObjectPlan.make config object fields).queryFields errand need
    unharmed).map _ (fun said selected ended => ?_) fun said error ended => ?_
  · obtain ⟨found, asked, outcome⟩ := ended
    cases outcome
    refine ⟨?_, fun part same => ?_⟩
    · cases selected with
      | none => exact .failed _ asked
      | some records => simpa using Ran.answered asked .done
    · cases same
      exact ⟨rfl, fun _ => asked.gathered_eq.symm⟩
  · obtain ⟨found, asked, outcome⟩ := ended
    cases outcome with
    | stopped nothing _ => exact ⟨.failed _ (nothing ▸ asked), by simp⟩

theorem fetchContactPoint_converses {object : String} (contactField individualField : Option String)
    (owners : LinkPath → List String) (unmet : ∀ log, earlier log → Unmet object log) :
    Converses store.org before earlier
      (fetchContactPoint ⟨store.overheard, config⟩ object contactField individualField owners)
      (Leaves config object
        (fun fields => (activeSources config (ObjectPlan.make config object fields) object contactField
          individualField).map fun source => ⟨source.field, owners source.path⟩)
        (before.fields? store.org object) false) := by
  refine planned_converses .optional unmet rfl fun fields prior unharmed => ?_
  refine (queryPaths_converses (ObjectPlan.make config object fields) owners [] _ unharmed).map _
    (fun said pool ran => ⟨ran, fun part same => ?_⟩) fun said error ran => ⟨ran, by simp⟩
  cases same
  exact ⟨rfl, by simp⟩

end Steps

end Dossier.Fetching
