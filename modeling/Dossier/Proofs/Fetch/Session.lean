import Dossier.Proofs.Fetch.Fate
import Dossier.Proofs.Fetch.Transcript
import Dossier.Proofs.Store.Fixture

/-!
Fetches which share a cache.

A session is a sequence of fetches, on whatever stores and in whatever orders of their turns, of which
each one leaves its cache to the next.  The cache knows just the types which were described in the
session, and it is not noticed: whatever may come of a fetch may come of it without a cache, except
that a store is not asked again for what it has told.
-/

namespace Dossier

variable {σ : Type}

namespace Log

/-- The type was described for the organization, and not in vain. -/
abbrev Described (log : Log) (org object : String) : Prop :=
  (org, .told object none) ∈ log

/-- Stores are asked for the fields of those types, and only those, which were not described before. -/
def Economical (log : Log) : Prop :=
  ∀ index org object asked, log[index]? = some (org, .sought object asked) →
    (asked = true ↔ ¬Described (log.take index) org object)

theorem Economical.concat {log : Log} (economical : log.Economical) {org : String} {notice : Notice}
    (fits : ∀ object asked, notice = .sought object asked →
      (asked = true ↔ ¬Described log org object)) :
    Economical (log ++ [(org, notice)]) := by
  intro index other object asked found
  rcases Nat.lt_trichotomy index log.length with earlier | rfl | later
  · rw [List.getElem?_append_left earlier] at found
    rw [List.take_append_of_le_length (Nat.le_of_lt earlier)]
    exact economical index other object asked found
  · rw [List.getElem?_concat_length] at found
    obtain ⟨rfl, same⟩ := Prod.mk.inj (Option.some.inj found)
    rw [List.take_left]
    exact fits object asked same
  · rw [List.getElem?_eq_none (by simp; omega)] at found
    contradiction

/-- What stores have told. -/
def descriptions (log : Log) : List Event :=
  log.filterMap fun
    | (_, .told object failure) => some ⟨.describe object, failure⟩
    | (_, .sought _ _) => none

end Log

/-- The calls which describe types. -/
def describing (events : List Event) : List Event :=
  events.filter fun event => event.call matches .describe _

/-- The store is asked for fields when the log says so, and not besides. -/
theorem Fetching.Course.descriptions {store : Store σ} {stages parts state log outcome after later}
    (course : Course store.recorded stages parts state log outcome after later)
    (start : Log.descriptions log = describing state.store.2) :
    Log.descriptions later = describing after.store.2 := by
  refine Course.keeps (fun state log => Log.descriptions log = describing state.store.2)
    (fun job state log kept => ?_) course start
  cases job with
  | describe object next =>
      cases known : state.cache.fields? store.recorded.org object with
      | some fields =>
          rw [Job.turn_of_known known]
          simpa [Log.descriptions] using kept
      | none =>
          rw [Job.turn_of_unknown known]
          simpa [Log.descriptions] using kept
  | await object next => simpa [Job.turn, Store.recorded, Log.descriptions, describing] using kept
  | ask query next => simpa [Job.turn, Store.recorded, Log.descriptions, describing] using kept
  | done _ | warned _ _ | warn _ _ _ => simpa [Job.turn, Log.descriptions] using kept

/-- The cache knows the types which were described, and nobody asked in vain for them. -/
structure Remembered (log : Log) (cache : FieldCache) : Prop where
  known : ∀ org object, (cache.fields? org object).isSome = true ↔ Log.Described log org object
  economical : Log.Economical log

namespace Remembered

variable {log : Log} {cache : FieldCache} {org object : String}

theorem sought (remembered : Remembered log cache) {asked : Bool}
    (fits : asked = true ↔ (cache.fields? org object).isSome = false) :
    Remembered (log ++ [(org, .sought object asked)]) cache := by
  refine ⟨fun other name => ?_, remembered.economical.concat fun name answer same => ?_⟩
  · rw [remembered.known]
    simp [Log.Described]
  · cases same
    rw [fits, ← remembered.known, Bool.not_eq_true]

theorem told (remembered : Remembered log cache) (answer : Except StoreError (List String)) :
    Remembered (log ++ [(org, .told object (failure? answer))]) (cache.learn org object answer) := by
  refine ⟨fun other name => ?_, remembered.economical.concat fun name answer same => by cases same⟩
  cases answer with
  | error error =>
      rw [FieldCache.learn, remembered.known]
      simp [Log.Described, failure?]
  | ok fields =>
      rw [FieldCache.learn, FieldCache.fields?_insert]
      split
      · rename_i same
        simp [Log.Described, failure?, same]
      · rename_i apart
        rw [remembered.known]
        simp [Log.Described, failure?, apart]

/-- Whatever a job does, the cache is up to date. -/
theorem turn {store : Store σ} {state : FetchState σ} (job : Fetching.Job Fetching.Part)
    (remembered : Remembered log state.cache) :
    Remembered (log ++ (job.turn store state).2.2.map (store.org, ·))
      (job.turn store state).2.1.cache := by
  cases job with
  | describe object next =>
      cases known : state.cache.fields? store.org object with
      | some fields =>
          rw [Fetching.Job.turn_of_known known]
          exact remembered.sought (by simp [known])
      | none =>
          rw [Fetching.Job.turn_of_unknown known]
          exact remembered.sought (by simp [known])
  | await object next => exact remembered.told _
  | done _ | ask _ _ | warned _ _ | warn _ _ _ =>
      rw [← List.append_nil log] at remembered
      exact remembered

end Remembered

/-- All that is remembered is of this kind. -/
def FieldCache.Holds (cache : FieldCache) (told : String → String → List String → Prop) : Prop :=
  ∀ org object fields, cache.fields? org object = some fields → told org object fields

theorem FieldCache.Holds.imp {cache : FieldCache}
    {told heard : String → String → List String → Prop} (holds : cache.Holds told)
    (more : ∀ org object fields, told org object fields → heard org object fields) :
    cache.Holds heard :=
  fun org object fields found => more org object fields (holds org object fields found)

theorem FieldCache.Holds.turn {store : Store σ} {answers : Answers} (gives : store.Gives answers)
    {told : String → String → List String → Prop}
    (tells : ∀ object fields, answers.describe object = .ok fields → told store.org object fields)
    {state : FetchState σ} (holds : state.cache.Holds told) (job : Fetching.Job Fetching.Part) :
    (job.turn store state).2.1.cache.Holds told := by
  cases job with
  | describe object next =>
      cases known : state.cache.fields? store.org object with
      | some fields =>
          rw [Fetching.Job.turn_of_known known]
          exact holds
      | none =>
          rw [Fetching.Job.turn_of_unknown known]
          exact holds
  | await object next =>
      intro org name fields found
      change (state.cache.learn store.org object (store.describe object state.store).1).fields?
        org name = some fields at found
      rw [gives.describe] at found
      cases answered : answers.describe object with
      | error error =>
          rw [answered] at found
          exact holds org name fields found
      | ok known =>
          rw [answered, learn, fields?_insert] at found
          split at found
          · rename_i same
            cases found
            rw [same.1, same.2]
            exact tells object fields answered
          · exact holds org name fields found
  | done _ | ask _ _ | warned _ _ | warn _ _ _ => exact holds

/-- Caches which hold what the store would say, and no more, are not noticed. -/
theorem FieldCache.Truthful.paired {store : Store σ} {answers : Answers}
    (gives : store.Gives answers) :
    Fetching.Paired (fun state other => state.warnings = other.warnings ∧
        state.cache.Truthful store.org answers ∧ other.cache.Truthful store.org answers)
      store store where
  warnings start := start.1
  warn start _ := ⟨rfl, start.2⟩
  query {state other} start query :=
    ⟨(gives.query query state.store).trans (gives.query query other.store).symm, start⟩
  fields := by
    rintro state other ⟨same, truthful, otherTruthful⟩ object
    obtain ⟨told, kept⟩ := FieldCache.fields_truthful gives truthful object state.store
    obtain ⟨heard, otherKept⟩ := FieldCache.fields_truthful gives otherTruthful object other.store
    exact ⟨told.trans heard.symm, same, kept, otherKept⟩

/-- A fetch which is asked for, on a store with steady answers. -/
structure Request where
  State : Type
  store : Store State
  answers : Answers
  gives : store.Gives answers
  state : State
  config : Config
  accountIds : List String

namespace Request

variable (request : Request)

def org : String := request.store.org

/-- The result of the fetch which does one thing after the other. -/
def result (cache : FieldCache) : Except FetchError Fetched :=
  (fetch request.store request.config request.accountIds cache request.state).1

/-- In some order of its turns the fetch has this result, and leaves this cache and this log. -/
def Fetches (cache : FieldCache) (log : Log) (result : Except FetchError Fetched)
    (after : FieldCache) (later : Log) : Prop :=
  Interleaved request.store request.config request.accountIds cache request.state log result after
    later

/-- In some order of its turns the fetch has this result. -/
def Possible (cache : FieldCache) (result : Except FetchError Fetched) : Prop :=
  ∃ log after later, request.Fetches cache log result after later

/-- What the store of a request tells of types of its organization, another one tells as well. -/
def Agrees (next : Request) : Prop :=
  request.org = next.org → ∀ object fields, request.answers.describe object = .ok fields →
    next.answers.describe object = .ok fields

theorem possible (cache : FieldCache) : request.Possible cache (request.result cache) := by
  obtain ⟨later, interleaved⟩ := fetch_interleaved request.store request.config request.accountIds
    cache request.state []
  exact ⟨[], _, later, interleaved⟩

variable {request} {cache other : FieldCache}

theorem result_of_truthful (truthful : cache.Truthful request.org request.answers)
    (otherTruthful : other.Truthful request.org request.answers) :
    request.result cache = request.result other :=
  ((FieldCache.Truthful.paired request.gives).fetch request.config request.accountIds
    cache request.state other request.state ⟨rfl, truthful, otherTruthful⟩).1

theorem Possible.of_truthful {result : Except FetchError Fetched}
    (possible : request.Possible cache result)
    (truthful : cache.Truthful request.org request.answers)
    (otherTruthful : other.Truthful request.org request.answers) : request.Possible other result := by
  obtain ⟨log, after, later, fetches⟩ := possible
  obtain ⟨otherAfter, otherLater, otherwise⟩ :=
    fetches.of_truthful request.gives truthful otherTruthful request.state log
  exact ⟨log, otherAfter, otherLater, otherwise⟩

end Request

/-- Fetches one after the other, with the cache and the log which they leave in the end. -/
inductive Session : List Request → FieldCache → Log → Prop where
  | start : Session [] FieldCache.empty []
  | add {requests : List Request} {cache after : FieldCache} {log later : Log}
      (session : Session requests cache log) (request : Request)
      {result : Except FetchError Fetched}
      (fetches : request.Fetches cache log result after later) :
      Session (requests ++ [request]) after later

namespace Session

variable {requests : List Request} {cache : FieldCache} {log : Log}

theorem remembered (session : Session requests cache log) : Remembered log cache := by
  induction session with
  | start => exact ⟨fun _ _ => by simp [FieldCache.fields?, FieldCache.empty], by simp [Log.Economical]⟩
  | add session request fetches ih =>
      obtain ⟨outcome, last, course, -, rfl⟩ := fetches
      exact Fetching.Course.keeps (fun state log => Remembered log state.cache)
        (fun job state log => .turn job) course ih

/-- What is remembered was told by the store of one of the requests. -/
theorem holds (session : Session requests cache log) :
    cache.Holds fun org object fields =>
      ∃ request ∈ requests, request.org = org ∧ request.answers.describe object = .ok fields := by
  induction session with
  | start => exact fun _ _ _ found => by contradiction
  | @add requests cache after log later session request result fetches ih =>
      obtain ⟨outcome, last, course, -, rfl⟩ := fetches
      refine Fetching.Course.keeps (fun state _ => state.cache.Holds _)
        (fun job state _ holds => holds.turn request.gives ?_ job) course (ih.imp ?_)
      · exact fun object fields told => ⟨request, by simp, rfl, told⟩
      · rintro org object fields ⟨teller, member, told⟩
        exact ⟨teller, List.mem_append_left [request] member, told⟩

theorem truthful (session : Session requests cache log) {next : Request}
    (agrees : ∀ request ∈ requests, request.Agrees next) : cache.Truthful next.org next.answers := by
  intro object fields remembered
  obtain ⟨request, member, named, told⟩ := session.holds next.org object fields remembered
  exact agrees request member named object fields told

end Session

/-- Whatever fetches are asked for, there is a session of them. -/
theorem Session.exists (requests : List Request) : ∃ cache log, Session requests cache log := by
  induction requests using List.reverseRecOn with
  | nil => exact ⟨_, _, .start⟩
  | append_singleton requests last ih =>
      obtain ⟨cache, log, session⟩ := ih
      obtain ⟨later, fetches⟩ := fetch_interleaved last.store last.config last.accountIds cache
        last.state log
      exact ⟨_, later, session.add last fetches⟩

/-- Accounts, their contacts and their cases. -/
def peopleConfig : Config :=
  { Config.empty with override := some ⟨[⟨EntityType.account, "Account", [], .root, []⟩,
    ⟨EntityType.contact, "Contact", [], .direct "AccountId", []⟩,
    ⟨"Case", "Case", [], .direct "AccountId", []⟩]⟩ }

/-- A fetch of one account from an organization which has described these types. -/
def peopleRequest (described : List (String × List String)) : Request :=
  let fixture : Fixture := ⟨"fixture", described, []⟩
  ⟨Unit, fixture.store, fixture.answers, fixture.gives, (), peopleConfig, ["001"]⟩

/-- A fetch from an organization which has no types but accounts, and fails for others. -/
def lonelyRequest : Request where
  State := Unit
  store := ⟨"lonely", true, fun object state =>
    (if object = EntityType.account then .ok ["Id"] else .error (.transport object), state),
    fun _ state => (.ok [], state)⟩
  answers := ⟨fun object =>
    if object = EntityType.account then .ok ["Id"] else .error (.transport object), fun _ => .ok []⟩
  gives := ⟨fun _ _ => rfl, fun _ _ => rfl⟩
  state := ()
  config := peopleConfig
  accountIds := []

/-- Which failure ends a fetch may depend on the order of its turns. -/
theorem lonelyRequest_fails :
    lonelyRequest.Possible FieldCache.empty (.error (.store "Contact" (.transport "Contact"))) ∧
      lonelyRequest.Possible FieldCache.empty (.error (.store "Case" (.transport "Case"))) := by
  refine ⟨⟨[], _, _, _, _, .done [0, 0] (by decide +kernel) <| .failed [0, 0] rfl (.one ?_), rfl, rfl⟩,
    ⟨[], _, _, _, _, .done [0, 0] (by decide +kernel) <| .failed [1, 1] rfl (.one ?_), rfl, rfl⟩⟩
  · exact List.Mem.head _
  · exact List.Mem.tail _ (List.Mem.head _)

end Dossier
