import Dossier.Proofs.Fetch.Transcript

/-!
What a fetch and its store say to each other.

A turn of their conversation is a call with the answer to it.  What the state of a fetch knows, it
knows from the turns so far: the fields of a type, apart from those which its cache had before, and
that a call for a type has failed.
-/

namespace Dossier

variable {σ α β : Type}

/-- A call, and the answer to it. -/
inductive Turn where
  | described (object : String) (answer : Except StoreError (List String))
  | queried (query : Query) (answer : Except StoreError (List Record))

namespace Turn

def event : Turn → Event
  | described object answer => ⟨.describe object, failure? answer⟩
  | queried query answer => ⟨.query query, failure? answer⟩

def call (turn : Turn) : Call := turn.event.call

def object (turn : Turn) : String := turn.event.object

def failure (turn : Turn) : Option StoreError := turn.event.failure

@[simp] theorem object_described (object : String) (answer : Except StoreError (List String)) :
    (described object answer).object = object := rfl

@[simp] theorem object_queried (query : Query) (answer : Except StoreError (List Record)) :
    (queried query answer).object = query.object := rfl

@[simp] theorem failure_described (object : String) (answer : Except StoreError (List String)) :
    (described object answer).failure = failure? answer := rfl

@[simp] theorem failure_queried (query : Query) (answer : Except StoreError (List Record)) :
    (queried query answer).failure = failure? answer := rfl

def query? : Turn → Option Query
  | described _ _ => none
  | queried query _ => some query

@[simp] theorem query?_described (object : String) (answer : Except StoreError (List String)) :
    (described object answer).query? = none := rfl

@[simp] theorem query?_queried (query : Query) (answer : Except StoreError (List Record)) :
    (queried query answer).query? = some query := rfl

/-- What the turn tells of the fields of a type. -/
def fields? (object : String) : Turn → Option (List String)
  | described named (.ok fields) => if named = object then some fields else none
  | _ => none

def records : Turn → List Record
  | queried _ (.ok records) => records
  | _ => []

theorem object_of_fields? {turn : Turn} {object : String} {fields : List String}
    (told : turn.fields? object = some fields) : turn = described object (.ok fields) := by
  unfold fields? at told
  split at told
  · split at told
    · rename_i same
      cases told
      rw [same]
    · contradiction
  · contradiction

end Turn

/-- The store with a log of what was said. -/
def Store.overheard (store : Store σ) : Store (σ × List Turn) where
  org := store.org
  responsive := store.responsive
  describe object state :=
    let (answer, inner) := store.describe object state.1
    (answer, inner, state.2 ++ [.described object answer])
  query query state :=
    let (answer, inner) := store.query query state.1
    (answer, inner, state.2 ++ [.queried query answer])

theorem Store.overheard_mirrors (store : Store σ) : store.overheard.Mirrors store Prod.fst :=
  ⟨rfl, fun _ _ => rfl, fun _ _ => rfl⟩

theorem Store.overheard_mirrors_recorded (store : Store σ) :
    store.overheard.Mirrors store.recorded fun state => (state.1, state.2.map (·.event)) :=
  ⟨rfl, fun _ _ => by simp [overheard, recorded, Turn.event],
    fun _ _ => by simp [overheard, recorded, Turn.event]⟩

/-- What a fetch and its store say to each other, in order. -/
def conversation (store : Store σ) (config : Config) (accountIds : List String) (cache : FieldCache)
    (state : σ) : List Turn :=
  (fetch store.overheard config accountIds cache (state, [])).2.2.2

section Fetch

variable (store : Store σ) (config : Config) (accountIds : List String) (cache : FieldCache)
  (state : σ)

theorem fetch_overheard :
    (fetch store.overheard config accountIds cache (state, [])).1 =
      (fetch store config accountIds cache state).1 := by
  have mirrored := fetch_mirrors store.overheard_mirrors config accountIds cache (state, [])
  rw [mirrored]
  rfl

theorem conversation_events :
    (conversation store config accountIds cache state).map (·.event) =
      transcript store config accountIds cache state := by
  have mirrored := fetch_mirrors store.overheard_mirrors_recorded config accountIds cache (state, [])
  simp only [List.map_nil] at mirrored
  rw [transcript, mirrored]
  rfl

/-- The calls are those which a log of the store has. -/
theorem conversation_calls :
    (conversation store config accountIds cache state).map (·.call) =
      (fetch store.logged config accountIds cache (state, [])).2.2.2 := by
  rw [← transcript_calls, ← conversation_events, List.map_map]
  rfl

end Fetch

/-- The turn is answered as these answers say. -/
def Turn.Agrees (answers : Answers) : Turn → Prop
  | .described object answer => answer = answers.describe object
  | .queried query answer => answer = answers.query query

/-- A steady store says the same all the time. -/
theorem conversation_agrees {store : Store σ} {answers : Answers} (gives : store.Gives answers)
    (config : Config) (accountIds : List String) (cache : FieldCache) (state : σ) :
    ∀ turn ∈ conversation store config accountIds cache state, turn.Agrees answers := by
  have paired : Fetching.Paired (fun state other => state = other ∧
      ∀ turn ∈ state.store.2, turn.Agrees answers) store.overheard store.overheard := by
    refine ⟨fun start => start.1 ▸ rfl, fun start _ => start.1 ▸ ⟨rfl, start.2⟩, ?_, ?_⟩
    · rintro state _ ⟨rfl, agrees⟩ object
      refine ⟨rfl, rfl, ?_⟩
      cases known : state.cache.fields? store.org object with
      | some fields =>
          rw [@FieldCache.fields_of_known _ state.cache store.overheard object fields known]
          exact agrees
      | none =>
          rw [@FieldCache.fields_of_unknown _ state.cache store.overheard object known]
          exact List.forall_mem_append.mpr
            ⟨agrees, by simpa [Turn.Agrees] using gives.describe object state.store.1⟩
    · rintro state _ ⟨rfl, agrees⟩ query
      exact ⟨rfl, rfl, List.forall_mem_append.mpr
        ⟨agrees, by simpa [Turn.Agrees] using gives.query query state.store.1⟩⟩
  obtain ⟨-, warnings, -, agrees⟩ :=
    paired.fetch config accountIds cache (state, []) cache (state, []) ⟨rfl, by simp⟩
  exact agrees

/-- The turns about a type. -/
def about (object : String) (log : List Turn) : List Turn :=
  log.filter (·.object == object)

theorem mem_about {object : String} {log : List Turn} {turn : Turn} :
    turn ∈ about object log ↔ turn ∈ log ∧ turn.object = object := by
  simp [about]

@[simp] theorem about_append (object : String) (log more : List Turn) :
    about object (log ++ more) = about object log ++ about object more :=
  List.filter_append ..

theorem about_of_all {object : String} {log : List Turn}
    (all : ∀ turn ∈ log, turn.object = object) : about object log = log := by
  simpa [about, List.filter_eq_self] using all

theorem about_of_none {object : String} {log : List Turn}
    (none : ∀ turn ∈ log, turn.object ≠ object) : about object log = [] := by
  simpa [about, List.filter_eq_nil_iff] using none

/-- The fields of a type as far as they are known: they were remembered, or they were told. -/
def knownFields (remembered : String → Option (List String)) (log : List Turn)
    (object : String) : Option (List String) :=
  (remembered object).or (log.findSome? (·.fields? object))

theorem findSome?_fields_about (object : String) (log : List Turn) :
    (about object log).findSome? (·.fields? object) = log.findSome? (·.fields? object) := by
  induction log with
  | nil => rfl
  | cons turn rest ih =>
      rw [about, List.filter_cons, List.findSome?_cons]
      split
      · rw [List.findSome?_cons, ← about, ih]
      · rename_i other
        have silent : turn.fields? object = none := by
          cases told : turn.fields? object with
          | none => rfl
          | some fields => simp [Turn.object_of_fields? told] at other
        rw [silent, ← about, ih]

theorem knownFields_about (remembered : String → Option (List String)) (log : List Turn)
    (object : String) :
    knownFields remembered (about object log) object = knownFields remembered log object := by
  rw [knownFields, findSome?_fields_about, knownFields]

/-- The records of a type which were answered, unless a call for the type has failed. -/
def gathered (object : String) (log : List Turn) : List Record :=
  if (about object log).any (·.failure.isSome) then []
  else (about object log).flatMap (·.records)

theorem gathered_congr {object : String} {log other : List Turn}
    (same : about object log = about object other) : gathered object log = gathered object other := by
  rw [gathered, gathered, same]

namespace Fetching

/-- The state of a fetch is abreast of what was said: it warns of no type without a failure, and its
cache has what it had before and what was told since. -/
structure Abreast (org : String) (before : FieldCache) (state : FetchState (σ × List Turn)) :
    Prop where
  warned : ∀ object, state.warnings.contains object = true →
    ∃ turn ∈ state.store.2, turn.object = object ∧ turn.failure ≠ none
  known : ∀ object, state.cache.fields? org object =
    knownFields (before.fields? org) state.store.2 object

theorem Abreast.start (org : String) (before : FieldCache) (state : σ) :
    Abreast org before ⟨(state, []), before, Warnings.empty⟩ :=
  ⟨by simp, fun _ => by simp [knownFields]⟩

theorem Abreast.clean {org : String} {before : FieldCache} {state : FetchState (σ × List Turn)}
    (abreast : Abreast org before state) {object : String}
    (unfailed : ∀ turn ∈ state.store.2, turn.object = object → turn.failure = none) :
    state.warnings.contains object = false := by
  refine Bool.eq_false_iff.mpr fun warned => ?_
  obtain ⟨turn, member, named, failed⟩ := abreast.warned object warned
  exact failed (unfailed turn member named)

/-- After a log of which `before` holds a step adds what goes with its outcome, whatever the store
answers. -/
def Converses (org : String) (before : FieldCache) (earlier : List Turn → Prop)
    (step : Fetching (σ × List Turn) α)
    (told : List Turn → Except FetchError α → Prop) : Prop :=
  ∀ state, Abreast org before state → earlier state.store.2 →
    ∃ said result last, step.run.run state = (result, last) ∧
      last.store.2 = state.store.2 ++ said ∧ Abreast org before last ∧ told said result

section Steps

variable {org : String} {before : FieldCache} {earlier : List Turn → Prop}
  {step : Fetching (σ × List Turn) α} {next : α → Fetching (σ × List Turn) β}
  {told : List Turn → Except FetchError α → Prop}
  {goal : List Turn → Except FetchError β → Prop}

theorem pure_converses {value : α} (holds : told [] (.ok value)) :
    Converses org before earlier (pure value : Fetching (σ × List Turn) α) told :=
  fun state abreast _ => ⟨[], _, state, rfl, (List.append_nil _).symm, abreast, holds⟩

theorem Converses.imp {prior : List Turn → Prop}
    {weaker : List Turn → Except FetchError α → Prop}
    (converses : Converses org before earlier step told) (fits : ∀ log, prior log → earlier log)
    (holds : ∀ said result, told said result → weaker said result) :
    Converses org before prior step weaker := by
  intro state abreast started
  obtain ⟨said, result, last, ran, grown, abreast, ended⟩ := converses state abreast (fits _ started)
  exact ⟨said, result, last, ran, grown, abreast, holds _ _ ended⟩

/-- What follows a step goes on from its log, and a failure of the step is that of the whole. -/
theorem Converses.bind (converses : Converses org before earlier step told)
    (rest : ∀ said value, told said (.ok value) →
      Converses org before (fun log => ∃ prior, earlier prior ∧ log = prior ++ said) (next value)
        fun more result => goal (said ++ more) result)
    (stop : ∀ said error, told said (.error error) → goal said (.error error)) :
    Converses org before earlier (step >>= next) goal := by
  intro state abreast started
  obtain ⟨said, result, middle, ran, grown, abreast, ended⟩ := converses state abreast started
  rw [ExceptT.run_bind, StateT.run_bind, ran]
  cases result with
  | error error => exact ⟨said, _, middle, rfl, grown, abreast, stop said error ended⟩
  | ok value =>
      obtain ⟨more, result, last, completed, further, abreast, holds⟩ :=
        rest said value ended middle abreast ⟨_, started, grown⟩
      refine ⟨said ++ more, result, last, completed, ?_, abreast, holds⟩
      rw [further, grown, List.append_assoc]

theorem Converses.map (converses : Converses org before earlier step told) (f : α → β)
    (holds : ∀ said value, told said (.ok value) → goal said (.ok (f value)))
    (stop : ∀ said error, told said (.error error) → goal said (.error error)) :
    Converses org before earlier (do return f (← step)) goal := by
  refine converses.bind (fun said value ended => pure_converses ?_) stop
  rw [List.append_nil]
  exact holds said value ended

theorem get_bind_converses
    {next : FetchState (σ × List Turn) → Fetching (σ × List Turn) β}
    (rest : ∀ state, Abreast org before state → earlier state.store.2 →
      Converses org before earlier (next state) goal) :
    Converses org before earlier (get >>= next) goal :=
  fun state abreast started => rest state abreast started state abreast started

end Steps

/-- How a fetch comes to know the fields of a type: it remembers them, or it asks for them. -/
inductive Introduced (object : String) (remembered : Option (List String)) :
    List Turn → Except StoreError (List String) → Prop where
  | known {fields : List String} (remembers : remembered = some fields) :
      Introduced object remembered [] (.ok fields)
  | told (unknown : remembered = none) (answer : Except StoreError (List String)) :
      Introduced object remembered [.described object answer] answer

section Calls

variable {store : Store σ} {config : Config} {before : FieldCache}
  {earlier : List Turn → Prop}

theorem Abreast.query {org : String} {state : FetchState (σ × List Turn)}
    (abreast : Abreast org before state) (inner : σ) (query : Query)
    (answer : Except StoreError (List Record)) :
    Abreast org before { state with store := (inner, state.store.2 ++ [.queried query answer]) } := by
  constructor
  · intro object warned
    obtain ⟨turn, member, fails⟩ := abreast.warned object warned
    exact ⟨turn, List.mem_append_left _ member, fails⟩
  · intro object
    rw [abreast.known object]
    simp [knownFields, Turn.fields?]

theorem ask_converses (query : Query) :
    Converses store.org before earlier (ask ⟨store.overheard, config⟩ query) fun said result =>
      ∃ answer, said = [.queried query answer] ∧ result = .ok answer :=
  fun _ abreast _ => ⟨_, _, _, rfl, rfl, abreast.query _ query _, _, rfl, rfl⟩

theorem Abreast.describe {org object : String} {state : FetchState (σ × List Turn)}
    (abreast : Abreast org before state) (unknown : state.cache.fields? org object = none) (inner : σ)
    (answer : Except StoreError (List String)) :
    Abreast org before
      { state with
        cache := state.cache.learn org object answer
        store := (inner, state.store.2 ++ [.described object answer]) } := by
  constructor
  · intro name warned
    obtain ⟨turn, member, fails⟩ := abreast.warned name warned
    exact ⟨turn, List.mem_append_left _ member, fails⟩
  · intro name
    have known := abreast.known name
    cases answer with
    | error error => simp [FieldCache.learn, known, knownFields, Turn.fields?]
    | ok fields =>
        rw [FieldCache.learn, FieldCache.fields?_insert]
        by_cases same : name = object
        · subst same
          rw [unknown] at known
          obtain ⟨unremembered, untold⟩ := Option.or_eq_none_iff.mp known.symm
          rw [knownFields, List.findSome?_append, unremembered, untold]
          simp [Turn.fields?]
        · have other : object ≠ name := fun equal => same equal.symm
          simp [known, same, other, knownFields, Turn.fields?]

/-- A type is described unless its fields are known. -/
theorem describe_converses {object : String} {known : Option (List String)}
    (knows : ∀ log, earlier log → knownFields (before.fields? store.org) log object = known) :
    Converses store.org before earlier (describe ⟨store.overheard, config⟩ object) fun said result =>
      ∃ answer, Introduced object known said answer ∧ result = .ok answer := by
  intro state abreast started
  have cached := (abreast.known object).trans (knows _ started)
  rw [describe_run]
  cases known with
  | some fields =>
      rw [@FieldCache.fields_of_known _ state.cache store.overheard object fields cached]
      exact ⟨[], _, _, rfl, (List.append_nil _).symm, abreast, _, .known rfl, rfl⟩
  | none =>
      rw [@FieldCache.fields_of_unknown _ state.cache store.overheard object cached]
      exact ⟨_, _, _, rfl, rfl, abreast.describe cached _ _, _, .told rfl _, rfl⟩

end Calls

end Fetching

end Dossier
