import Dossier.Proofs.Fetch.Transcript
import Dossier.Proofs.Registry

/-!
What the calls for a type leave of it.

Each type has its own calls: one which describes it, and queries for chunk after chunk along path
after path.  One which fails is the last one, and nothing is left of the records which were reached
before it.  The stages of a fetch cover all types in this way, each of them once.
-/

namespace Dossier

variable {σ α : Type}

def Failing (events : List Event) : Prop :=
  ∃ event ∈ events, event.failure ≠ none

theorem failing_append {events more : List Event} :
    Failing (events ++ more) ↔ Failing events ∨ Failing more := by
  simp only [Failing, List.mem_append, or_and_right, exists_or]

theorem not_failing {events : List Event} :
    ¬ Failing events ↔ ∀ event ∈ events, event.failure = none := by
  simp [Failing]

namespace Fetching

/-- Calls of one kind, and an answer to them unless one of them failed. -/
structure Answered (asked : Call → Prop) (events : List Event) (value : Option α) : Prop where
  calls : ∀ event ∈ events, asked event.call
  absent_iff : value = none ↔ Failing events

/-- What a part shows of the calls for its type. -/
structure Part.Shows (events : List Event) (part : Part) : Prop where
  emptied : ∀ event ∈ events, event.object = part.object → event.failure ≠ none → part.records = []
  unplanned_iff : part.plan = none ↔ ∃ error, ⟨.describe part.object, some error⟩ ∈ events

theorem Answered.after {asked : Call → Prop} {call : Call} {events more : List Event}
    {value : Option α} (quiet : ∀ event ∈ events, event = ⟨call, none⟩) (kind : asked call)
    (answered : Answered asked more value) : Answered asked (events ++ more) value := by
  constructor
  · refine List.forall_mem_append.mpr ⟨fun event earlier => ?_, answered.calls⟩
    rw [quiet event earlier]
    exact kind
  · have unfailed : ¬ Failing events := not_failing.mpr fun event earlier => by rw [quiet event earlier]
    simp [answered.absent_iff, failing_append, unfailed]

section Types

variable (store : Store σ) (config : Config)

theorem plan_reports {object : String} {need : Need} (fits : needOf object = need) :
    Reports config [object] (plan ⟨store.recorded, config⟩ object need)
      fun events planned => Answered (· = .describe object) events planned ∧
        ∀ plan, planned = some plan → plan.object = object := by
  subst fits
  refine (describe_asks store config object).reports (fun available events quiet => ?_)
    (fun _ => rfl) fun error => ⟨⟨by simp, by simp [Failing]⟩, by simp⟩
  refine pure_reports ⟨.after quiet rfl ⟨by simp, by simp [Failing]⟩, fun plan same => ?_⟩
  cases same
  rfl

theorem queryChunks_reports {object : String} {need : Need} (fits : needOf object = need)
    (fields : List String) (idField : String) (records : List Record) (chunks : List (List String)) :
    Reports config [object]
      (queryChunks ⟨store.recorded, config⟩ object fields idField need records chunks)
      (Answered fun call => ∃ query, call = .query query) := by
  subst fits
  induction chunks generalizing records with
  | nil => exact pure_reports ⟨by simp, by simp [Failing]⟩
  | cons chunk rest ih =>
      refine get_bind_reports fun state clean => ?_
      simp only [clean object List.mem_cons_self, Bool.false_eq_true, if_false]
      refine (ask_asks store config ⟨object, fields, idField, chunk⟩).reports
        (fun more events quiet => ?_) (fun _ => rfl) fun error => ⟨by simp, by simp [Failing]⟩
      exact (ih (records ++ more)).imp fun _ _ _ answered => answered.after quiet ⟨_, rfl⟩

/-- A path which fails leaves nothing of those before it. -/
theorem queryPaths_reports {plan : ObjectPlan} (optional : needOf plan.object = .optional)
    (owners : LinkPath → List String) (pool : List Record) (sources : List LinkSource) :
    Reports config [plan.object] (queryPaths ⟨store.recorded, config⟩ plan owners pool sources)
      fun events reached => (∀ event ∈ events, ∃ query, event.call = .query query) ∧
        (Failing events → reached = []) := by
  induction sources generalizing pool with
  | nil => exact pure_reports ⟨by simp, by simp [Failing]⟩
  | cons source rest ih =>
      have queried := queryChunks_reports store config optional plan.queryFields source.field []
        (chunksOf chunkSize (owners source.path))
      refine queried.bind (List.Subset.refl _) fun events selected about answered => ?_
      cases selected with
      | none =>
          refine ⟨[], List.nil_subset _, by simp, pure_reports ⟨?_, fun _ => rfl⟩⟩
          simpa using answered.calls
      | some records =>
          have unfailed : ¬ Failing events := by simp [← answered.absent_iff]
          refine ⟨[plan.object], List.Subset.refl _,
            fun event member _ => not_failing.mp unfailed event member, ?_⟩
          refine (ih (addNew pool records)).imp fun more reached _ told => ?_
          obtain ⟨calls, emptied⟩ := told
          refine ⟨List.forall_mem_append.mpr ⟨answered.calls, calls⟩, fun failing => ?_⟩
          exact emptied ((failing_append.mp failing).resolve_left unfailed)

/-- A part whose plan is known, after the queries for it. -/
structure Part.Queried (object : String) (events : List Event) (part : Part) : Prop where
  object_eq : part.object = object
  planned : part.plan ≠ none
  calls : ∀ event ∈ events, ∃ query, event.call = .query query
  emptied : Failing events → part.records = []

theorem planned_reports {object : String} {need : Need} (fits : needOf object = need)
    {next : Option ObjectPlan → Fetching (σ × List Event) Part}
    {linkSources : Option (List LinkSource)} (absent : next none = pure ⟨object, none, linkSources, []⟩)
    (queried : ∀ plan, plan.object = object →
      Reports config [object] (next (some plan)) (Part.Queried object)) :
    Reports config [object] (plan ⟨store.recorded, config⟩ object need >>= next)
      fun events part => part.object = object ∧ part.Shows events := by
  refine (plan_reports store config fits).bind (List.Subset.refl _)
    fun events planned about told => ?_
  obtain ⟨answered, named⟩ := told
  cases planned with
  | none =>
      refine ⟨[], List.nil_subset _, by simp, ?_⟩
      rw [absent]
      refine pure_reports ⟨rfl, ⟨fun _ _ _ _ => rfl, ?_⟩⟩
      -- What failed was the only kind of call so far, that which describes the type.
      obtain ⟨event, member, failed⟩ := answered.absent_iff.mp rfl
      obtain ⟨error, failed⟩ := Option.ne_none_iff_exists'.mp failed
      have same : event = ⟨.describe object, some error⟩ := by
        rw [← answered.calls event member, ← failed]
      simp only [List.append_nil, true_iff]
      exact ⟨error, same ▸ member⟩
  | some plan =>
      have unfailed : ¬ Failing events := by simp [← answered.absent_iff]
      refine ⟨[object], List.Subset.refl _,
        fun event member _ => not_failing.mp unfailed event member, ?_⟩
      refine (queried plan (named plan rfl)).imp fun more part _ queried => ⟨queried.object_eq, ?_, ?_⟩
      · intro event member _ failed
        exact queried.emptied ((failing_append.mp ⟨event, member, failed⟩).resolve_left unfailed)
      · refine iff_of_false queried.planned fun ⟨error, member⟩ => ?_
        rcases List.mem_append.mp member with earlier | now
        · exact unfailed ⟨_, earlier, by simp⟩
        · obtain ⟨query, same⟩ := queried.calls _ now
          contradiction

theorem fetchType_reports {object : String} {need : Need} (fits : needOf object = need)
    (idField : String) (ids : List String) :
    Reports config [object] (fetchType ⟨store.recorded, config⟩ object idField ids need)
      fun events part => part.object = object ∧ part.Shows events := by
  refine planned_reports store config fits rfl fun plan _ => ?_
  have queried := queryChunks_reports store config fits plan.queryFields idField []
    (chunksOf chunkSize ids)
  refine queried.map _ fun events records answered => ⟨rfl, by simp, answered.calls, ?_⟩
  intro failing
  rw [answered.absent_iff.mpr failing]
  rfl

theorem fetchContactPoint_reports {object : String} (optional : needOf object = .optional)
    (contactField individualField : Option String) (owners : LinkPath → List String) :
    Reports config [object]
      (fetchContactPoint ⟨store.recorded, config⟩ object contactField individualField owners)
      fun events part => part.object = object ∧ part.Shows events := by
  refine planned_reports store config optional rfl fun plan named => ?_
  subst named
  have reached := queryPaths_reports store config optional owners []
    (activeSources config plan plan.object contactField individualField)
  exact reached.map _ fun events pool ⟨calls, emptied⟩ => ⟨rfl, by simp, calls, emptied⟩

end Types

section Parts

variable {names later : List String} {events more : List Event} {parts others : List Part}

/-- Events about other types are nothing to a part. -/
theorem Part.Shows.among {part : Part} (shows : part.Shows more) (earlier after : List Event)
    (other : ∀ event ∈ earlier, event.object ≠ part.object)
    (foreign : ∀ event ∈ after, event.object ≠ part.object) :
    part.Shows (earlier ++ more ++ after) := by
  have own : ∀ event ∈ earlier ++ more ++ after, event.object = part.object → event ∈ more := by
    intro event member same
    simp only [List.mem_append] at member
    rcases member with (before | now) | behind
    · exact absurd same (other event before)
    · exact now
    · exact absurd same (foreign event behind)
  constructor
  · intro event member same
    exact shows.emptied event (own event member same) same
  · rw [shows.unplanned_iff]
    refine exists_congr fun error => ⟨fun member => ?_, fun member => own _ member rfl⟩
    simp [member]

/-- The parts of the types of these names, by the events about them. -/
structure Covers (names : List String) (events : List Event) (parts : List Part) : Prop where
  objects : parts.map (·.object) = names
  about : ∀ event ∈ events, event.object ∈ names
  shows : ∀ part ∈ parts, part.Shows events

theorem Covers.single {object : String} {part : Part} (named : part.object = object)
    (about : ∀ event ∈ events, event.object ∈ [object]) (shows : part.Shows events) :
    Covers [object] events [part] :=
  ⟨by simp [named], about, by simpa using shows⟩

theorem Covers.append (first : Covers names events parts) (rest : Covers later more others)
    (apart : names.Disjoint later) :
    Covers (names ++ later) (events ++ more) (parts ++ others) := by
  refine ⟨by rw [List.map_append, first.objects, rest.objects], ?_, ?_⟩
  · refine List.forall_mem_append.mpr ⟨fun event early => ?_, fun event late => ?_⟩
    · exact List.mem_append_left _ (first.about event early)
    · exact List.mem_append_right _ (rest.about event late)
  · refine List.forall_mem_append.mpr ⟨fun part early => ?_, fun part late => ?_⟩
    · have named : part.object ∈ names := first.objects ▸ List.mem_map_of_mem early
      refine ((first.shows part early).among [] more (by simp) fun event there same => ?_)
      exact apart named (same ▸ rest.about event there)
    · have named : part.object ∈ later := rest.objects ▸ List.mem_map_of_mem late
      have shown := (rest.shows part late).among events []
        (fun event there same => apart (first.about event there) (same ▸ named)) (by simp)
      rwa [List.append_nil] at shown

end Parts

/-- A stage fetches the types which links of one kind reach, and no others. -/
def Staged (config : Config) (kind : Link → Bool)
    (fetch : EntityType → Option (Fetching (σ × List Event) Part)) (type : EntityType) : Prop :=
  match fetch type with
  | none => kind type.link = false
  | some step => kind type.link = true ∧
      Reports config [type.name] step fun events part => part.object = type.name ∧ part.Shows events

theorem fetchAll_reports {config : Config} {kind : Link → Bool}
    {fetch : EntityType → Option (Fetching (σ × List Event) Part)} {types : List EntityType}
    (staged : ∀ type ∈ types, Staged config kind fetch type)
    (unique : (types.map (·.name)).Nodup) :
    Reports config ((types.filter fun type => kind type.link).map (·.name)) (fetchAll fetch types)
      (Covers ((types.filter fun type => kind type.link).map (·.name))) := by
  induction types with
  | nil => exact pure_reports ⟨rfl, by simp, by simp⟩
  | cons type rest ih =>
      obtain ⟨first, others⟩ := List.forall_mem_cons.mp staged
      obtain ⟨new, uniqueRest⟩ := List.nodup_cons.mp unique
      unfold Staged at first
      cases started : fetch type with
      | none =>
          simp only [started] at first
          simp only [fetchAll, started, List.filter_cons, first, Bool.false_eq_true, if_false]
          exact ih others uniqueRest
      | some step =>
          simp only [started] at first
          obtain ⟨reached, reports⟩ := first
          simp only [fetchAll, started, List.filter_cons, reached, if_true, List.map_cons]
          have apart : [type.name].Disjoint
              ((rest.filter fun type => kind type.link).map (·.name)) :=
            List.singleton_disjoint.mpr fun listed => new ((List.filter_sublist.map _).subset listed)
          refine reports.andThen apart fun events part about told => ?_
          obtain ⟨named, shows⟩ := told
          refine (ih others uniqueRest).map _ fun more parts covers => ?_
          exact (Covers.single named about shows).append covers apart

section Stages

variable (store : Store σ) {config : Config} (valid : config.registry.Valid)

theorem needOf_linked (valid : config.registry.Valid) {type : EntityType}
    (member : type ∈ config.registry.linked) : needOf type.name = .optional :=
  if_neg (valid.linked_ne_account member)

include valid

theorem direct_staged (accountIds : List String) :
    ∀ type ∈ config.registry.linked,
      Staged config Link.isDirect (direct ⟨store.recorded, config⟩ accountIds) type := by
  intro type member
  unfold Staged direct
  cases link : type.link with
  | direct field => exact ⟨rfl, fetchType_reports store config (needOf_linked valid member) _ _⟩
  | root | contactReference _ | contactPoint _ _ => rfl

theorem referenced_staged (contacts : List Record) :
    ∀ type ∈ config.registry.linked,
      Staged config Link.isContactReference (referenced ⟨store.recorded, config⟩ contacts) type := by
  intro type member
  unfold Staged referenced
  cases link : type.link with
  | contactReference field =>
      exact ⟨rfl, fetchType_reports store config (needOf_linked valid member) _ _⟩
  | root | direct _ | contactPoint _ _ => rfl

theorem contactPoint_staged (owners : LinkPath → List String) :
    ∀ type ∈ config.registry.linked,
      Staged config Link.isContactPoint (contactPoint ⟨store.recorded, config⟩ owners) type := by
  intro type member
  unfold Staged contactPoint
  cases link : type.link with
  | contactPoint contactField individualField =>
      exact ⟨rfl, fetchContactPoint_reports store config (needOf_linked valid member) _ _ _⟩
  | root | direct _ | contactReference _ => rfl

/-- The stages of a fetch cover all types. -/
theorem stages_reports (accountIds : List String) :
    ∃ names, names.Perm (config.registry.objects.map (·.name)) ∧
      Reports config names (stages ⟨store.recorded, config⟩ accountIds)
        fun events (parts, _) => Covers names events parts := by
  refine ⟨_, valid.names_perm, ?_⟩
  -- No stage warns of a type of a later one, because names are not repeated.
  have unique := valid.names_perm.nodup_iff.mpr valid.unique
  have afterAccount := List.singleton_disjoint.mpr (List.nodup_cons.mp unique).1
  have linked := (List.nodup_cons.mp unique).2
  have afterDirect := List.disjoint_of_nodup_append linked
  have afterReferenced := List.disjoint_of_nodup_append linked.of_append_right
  refine Reports.andThen (fetchType_reports store config (if_pos rfl) _ _) afterAccount
    fun events accounts about ⟨named, shows⟩ => ?_
  have coversAccount := Covers.single named about shows
  refine Reports.andThen (fetchAll_reports (direct_staged store valid accountIds) valid.linked_unique)
    afterDirect fun events direct _ coversDirect => ?_
  refine Reports.andThen (fetchAll_reports (referenced_staged store valid _) valid.linked_unique)
    afterReferenced fun events referenced _ coversReferenced => ?_
  refine (fetchAll_reports (contactPoint_staged store valid _) valid.linked_unique).map _
    fun events points coversPoints => ?_
  have whole := coversAccount.append (coversDirect.append
    (coversReferenced.append coversPoints afterReferenced) afterDirect) afterAccount
  simpa [Registry.reachedBy] using whole

end Stages

end Fetching

end Dossier
