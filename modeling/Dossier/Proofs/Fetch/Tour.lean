import Dossier.Proofs.Fetch.Survey
import Dossier.Proofs.Fetch.Visit

/-!
The turns of a fetch, stage by stage.

A fetch tours the types of its registry, of which it visits each one once, as long as it goes on.
Types which are reached through contacts are visited with the contacts which were answered before.
-/

namespace Dossier

/-- The linked types which links of one kind reach. -/
def Registry.reached (registry : Registry) (kind : Link → Bool) : List EntityType :=
  registry.linked.filter fun type => kind type.link

namespace Fetching

variable {σ : Type}

/-- What is asked for of a type whose fields are these. -/
def errandsOf (config : Config) (accountIds : List String) (contacts : List Record)
    (type : EntityType) (fields : List String) : List Errand :=
  match type.link with
  | .root => [⟨Record.idField, accountIds⟩]
  | .direct field => [⟨field, accountIds⟩]
  | .contactReference field => [⟨Record.idField, distinctValues contacts field⟩]
  | .contactPoint contactField individualField =>
      (activeSources config (ObjectPlan.make config type.name fields) type.name contactField
        individualField).map fun source =>
          ⟨source.field, owners config.registry contacts source.path⟩

/-- Types are visited, as long as the fetch is not over. -/
structure Tour (visits : EntityType → List Turn → Prop) (types : List EntityType)
    (said : List Turn) (stopped : Prop) : Prop where
  among : ∀ turn ∈ said, turn.object ∈ types.map (·.name)
  visited : ∀ type ∈ types, visits type (about type.name said) ∨ about type.name said = [] ∧ stopped

/-- The records of the parts are those which were answered. -/
structure Gathers (names : List String) (said : List Turn) (parts : List Part) : Prop where
  objects : parts.map (·.object) = names
  among : ∀ turn ∈ said, turn.object ∈ names
  records : ∀ part ∈ parts, part.records = gathered part.object said

theorem about_of_among {names : List String} {said : List Turn}
    (among : ∀ turn ∈ said, turn.object ∈ names) {object : String} (apart : object ∉ names) :
    about object said = [] :=
  about_of_none fun turn member same => apart (same ▸ among turn member)

section Tours

variable {visits : EntityType → List Turn → Prop} {types others : List EntityType}
  {said more : List Turn} {stopped : Prop}

theorem Tour.absent (types : List EntityType) (ended : stopped) : Tour visits types [] stopped :=
  ⟨by simp, fun _ _ => .inr ⟨rfl, ended⟩⟩

theorem Tour.single {type : EntityType} (visited : visits type said)
    (own : ∀ turn ∈ said, turn.object = type.name) : Tour visits [type] said stopped := by
  refine ⟨by simpa using own, fun other member => .inl ?_⟩
  rw [List.mem_singleton.mp member, about_of_all own]
  exact visited

theorem Tour.imp {weaker : Prop} (tour : Tour visits types said stopped)
    (implies : stopped → weaker) :
    Tour visits types said weaker :=
  ⟨tour.among, fun type member => (tour.visited type member).imp_right fun ⟨silent, ended⟩ =>
    ⟨silent, implies ended⟩⟩

theorem Tour.reorder (tour : Tour visits types said stopped)
    (same : ∀ type, type ∈ others ↔ type ∈ types) : Tour visits others said stopped := by
  refine ⟨fun turn member => ?_, fun type member => tour.visited type ((same type).mp member)⟩
  obtain ⟨type, listed, named⟩ := List.mem_map.mp (tour.among turn member)
  exact List.mem_map.mpr ⟨type, (same type).mpr listed, named⟩

theorem Tour.append (first : Tour visits types said stopped) (rest : Tour visits others more stopped)
    (apart : (types.map (·.name)).Disjoint (others.map (·.name))) :
    Tour visits (types ++ others) (said ++ more) stopped := by
  constructor
  · rw [List.map_append]
    refine List.forall_mem_append.mpr ⟨fun turn early => ?_, fun turn late => ?_⟩
    · exact List.mem_append_left _ (first.among turn early)
    · exact List.mem_append_right _ (rest.among turn late)
  · refine List.forall_mem_append.mpr ⟨fun type early => ?_, fun type late => ?_⟩
    · have silent := about_of_among rest.among (apart (List.mem_map_of_mem early))
      rw [about_append, silent, List.append_nil]
      exact first.visited type early
    · have silent := about_of_among first.among fun early => apart early (List.mem_map_of_mem late)
      rw [about_append, silent, List.nil_append]
      exact rest.visited type late

variable {names later : List String} {parts rest : List Part}

theorem gathered_append_left {object : String} (silent : about object more = []) :
    gathered object (said ++ more) = gathered object said :=
  gathered_congr (by rw [about_append, silent, List.append_nil])

theorem gathered_append_right {object : String} (silent : about object said = []) :
    gathered object (said ++ more) = gathered object more :=
  gathered_congr (by rw [about_append, silent, List.nil_append])

theorem Gathers.append (first : Gathers names said parts) (second : Gathers later more rest)
    (apart : names.Disjoint later) : Gathers (names ++ later) (said ++ more) (parts ++ rest) := by
  refine ⟨by rw [List.map_append, first.objects, second.objects], ?_, ?_⟩
  · refine List.forall_mem_append.mpr ⟨fun turn early => ?_, fun turn late => ?_⟩
    · exact List.mem_append_left _ (first.among turn early)
    · exact List.mem_append_right _ (second.among turn late)
  · refine List.forall_mem_append.mpr ⟨fun part early => ?_, fun part late => ?_⟩
    · have named : part.object ∈ names := first.objects ▸ List.mem_map_of_mem early
      rw [gathered_append_left (about_of_among second.among (apart named)), first.records part early]
    · have named : part.object ∈ later := second.objects ▸ List.mem_map_of_mem late
      rw [gathered_append_right (about_of_among first.among fun early => apart early named),
        second.records part late]

theorem Gathers.recordsOf (gathers : Gathers names said parts) (object : String) :
    recordsOf parts object = gathered object said := by
  unfold Fetching.recordsOf
  split
  · rename_i part found
    have named : part.object = object := by simpa using List.find?_some found
    rw [gathers.records part (List.mem_of_find?_eq_some found), named]
  · rename_i missing
    have absent : object ∉ names := by
      rw [← gathers.objects]
      simpa using missing
    simp [gathered, about_of_among gathers.among absent]

end Tours

section Stages

variable {store : Store σ} {config : Config} {before : FieldCache} {earlier : List Turn → Prop}

/-- A type is visited by its own errands. -/
def Visits (config : Config) (accountIds : List String) (remembered : String → Option (List String))
    (contacts : List Record) (type : EntityType) (said : List Turn) : Prop :=
  Visited config type.name (errandsOf config accountIds contacts type) (remembered type.name) said

theorem Introduced.object_eq {object : String} {remembered : Option (List String)} {said : List Turn}
    {answer : Except StoreError (List String)}
    (introduced : Introduced object remembered said answer) :
    ∀ turn ∈ said, turn.object = object := by
  intro turn member
  rw [introduced.only turn member]
  rfl

theorem Visited.object_eq {object : String} {errands : List String → List Errand}
    {remembered : Option (List String)} {said : List Turn}
    (visited : Visited config object errands remembered said) :
    ∀ turn ∈ said, turn.object = object := by
  cases visited with
  | refused introduced => exact introduced.object_eq
  | described introduced ran =>
      exact List.forall_mem_append.mpr ⟨introduced.object_eq, ran.object_eq⟩

/-- A stage visits the types which links of one kind reach, and no others. -/
def Staging (config : Config) (accountIds : List String) (before : FieldCache) (org : String)
    (contacts : List Record) (plain : Bool) (kind : Link → Bool)
    (fetch : EntityType → Option (Fetching (σ × List Turn) Part)) (type : EntityType) : Prop :=
  match fetch type with
  | none => kind type.link = false
  | some step => kind type.link = true ∧ ∀ earlier, (∀ log, earlier log → Unmet type.name log) →
      Converses org before earlier step
        (Leaves config type.name (errandsOf config accountIds contacts type)
          (before.fields? org type.name) plain)

/-- What a stage leaves of the types which it visits. -/
structure Stage (config : Config) (accountIds : List String)
    (remembered : String → Option (List String)) (contacts : List Record) (plain : Bool)
    (types : List EntityType) (said : List Turn) (result : Except FetchError (List Part)) : Prop where
  tour : Tour (Visits config accountIds remembered contacts) types said
    (∃ error, result = .error error)
  objects : ∀ parts, result = .ok parts → parts.map (·.object) = types.map (·.name)
  gathers : plain = true → ∀ parts, result = .ok parts → Gathers (types.map (·.name)) said parts

theorem Leaves.stage {accountIds : List String} {remembered : String → Option (List String)}
    {contacts : List Record} {plain : Bool} {type : EntityType} {said : List Turn}
    {result : Except FetchError Part}
    (leaves : Leaves config type.name (errandsOf config accountIds contacts type)
      (remembered type.name) plain said result) :
    Stage config accountIds remembered contacts plain [type] said (result.map ([·])) := by
  have own := leaves.visited.object_eq
  refine ⟨.single leaves.visited own, fun parts same => ?_, fun single parts same => ?_⟩
  · cases result with
    | error error => contradiction
    | ok part =>
        cases same
        simp [(leaves.part part rfl).1]
  · cases result with
    | error error => contradiction
    | ok part =>
        cases same
        obtain ⟨named, records⟩ := leaves.part part rfl
        exact ⟨by simp [named], by simpa using own, by simpa [named] using records single⟩

section Stage

variable {accountIds : List String} {remembered : String → Option (List String)}
  {contacts : List Record} {plain : Bool} {types others : List EntityType} {said more : List Turn}

theorem Stage.append {parts : List Part} {result : Except FetchError (List Part)}
    (first : Stage config accountIds remembered contacts plain types said (.ok parts))
    (rest : Stage config accountIds remembered contacts plain others more result)
    (apart : (types.map (·.name)).Disjoint (others.map (·.name))) :
    Stage config accountIds remembered contacts plain (types ++ others) (said ++ more)
      (result.map (parts ++ ·)) := by
  constructor
  · refine (first.tour.imp ?_).append (rest.tour.imp ?_) apart
    · rintro ⟨error, same⟩
      contradiction
    · rintro ⟨error, rfl⟩
      exact ⟨error, rfl⟩
  · rintro whole same
    cases result with
    | error error => contradiction
    | ok later =>
        cases same
        rw [List.map_append, List.map_append, first.objects parts rfl, rest.objects later rfl]
  · rintro single whole same
    cases result with
    | error error => contradiction
    | ok later =>
        cases same
        rw [List.map_append]
        exact (first.gathers single parts rfl).append (rest.gathers single later rfl) apart

/-- Types which the fetch did not get to. -/
theorem Stage.stop {error : FetchError}
    (stage : Stage config accountIds remembered contacts plain types said (.error error))
    (others : List EntityType) (apart : (types.map (·.name)).Disjoint (others.map (·.name))) :
    Stage config accountIds remembered contacts plain (types ++ others) said (.error error) := by
  refine ⟨?_, by simp, by simp⟩
  have whole := stage.tour.append (.absent others ⟨error, rfl⟩) apart
  rwa [List.append_nil] at whole

theorem Stage.weaken {result : Except FetchError (List Part)}
    (stage : Stage config accountIds remembered contacts plain types said result) :
    Stage config accountIds remembered contacts false types said result :=
  ⟨stage.tour, stage.objects, by simp⟩

/-- The contacts only matter to types which are reached through them. -/
theorem Stage.through {result : Except FetchError (List Part)}
    (stage : Stage config accountIds remembered contacts plain types said result)
    {found : List Record}
    (same : ∀ type ∈ types,
      errandsOf config accountIds contacts type = errandsOf config accountIds found type) :
    Stage config accountIds remembered found plain types said result := by
  refine ⟨⟨stage.tour.among, fun type member => ?_⟩, stage.objects, stage.gathers⟩
  have visited := stage.tour.visited type member
  rwa [Visits, same type member] at visited

end Stage

theorem fetchAll_converses {accountIds : List String} {contacts : List Record} {plain : Bool}
    {kind : Link → Bool} {fetch : EntityType → Option (Fetching (σ × List Turn) Part)}
    {types : List EntityType}
    (staging : ∀ type ∈ types,
      Staging config accountIds before store.org contacts plain kind fetch type)
    (unique : (types.map (·.name)).Nodup)
    (unmet : ∀ log, earlier log → ∀ type ∈ types, kind type.link = true → Unmet type.name log) :
    Converses store.org before earlier (fetchAll fetch types)
      (Stage config accountIds (before.fields? store.org) contacts plain
        (types.filter fun type => kind type.link)) := by
  induction types generalizing earlier with
  | nil =>
      refine pure_converses ⟨⟨by simp, by simp⟩, fun parts same => ?_, fun _ parts same => ?_⟩
      · cases same
        rfl
      · cases same
        exact ⟨rfl, by simp, by simp⟩
  | cons type rest ih =>
      obtain ⟨first, others⟩ := List.forall_mem_cons.mp staging
      obtain ⟨new, uniqueRest⟩ := List.nodup_cons.mp unique
      have unmetRest : ∀ log, earlier log → ∀ other ∈ rest, kind other.link = true →
          Unmet other.name log :=
        fun log started other member => unmet log started other (List.mem_cons_of_mem _ member)
      unfold Staging at first
      cases started : fetch type with
      | none =>
          simp only [started] at first
          simp only [fetchAll, started, List.filter_cons, first, Bool.false_eq_true, if_false]
          exact ih others uniqueRest unmetRest
      | some step =>
          simp only [started] at first
          obtain ⟨reached, converses⟩ := first
          simp only [fetchAll, started, List.filter_cons, reached, if_true]
          have apart : ([type].map (·.name)).Disjoint
              ((rest.filter fun type => kind type.link).map (·.name)) :=
            List.singleton_disjoint.mpr fun listed => new ((List.filter_sublist.map _).subset listed)
          have unmetType := fun log started => unmet log started type List.mem_cons_self reached
          refine (converses earlier unmetType).bind (fun said part leaves => ?_)
            fun said error leaves => leaves.stage.stop _ apart
          have still : ∀ log, (∃ prior, earlier prior ∧ log = prior ++ said) → ∀ other ∈ rest,
              kind other.link = true → Unmet other.name log := by
            rintro _ ⟨prior, started, rfl⟩ other member kept
            refine List.forall_mem_append.mpr ⟨unmetRest prior started other member kept, ?_⟩
            intro turn there same
            have repeated : type.name = other.name :=
              (leaves.visited.object_eq turn there).symm.trans same
            exact new (List.mem_map.mpr ⟨other, member, repeated.symm⟩)
          refine (ih others uniqueRest still).map _ (fun more parts stage => ?_)
            fun more error stage => ?_
          · exact leaves.stage.append stage apart
          · exact leaves.stage.append stage apart

variable (store) in
theorem direct_staging (accountIds : List String) (contacts : List Record) (type : EntityType) :
    Staging config accountIds before store.org contacts true Link.isDirect
      (direct ⟨store.overheard, config⟩ accountIds) type := by
  unfold Staging direct errandsOf
  cases link : type.link with
  | direct field =>
      exact ⟨rfl, fun _ unmet => fetchType_converses ⟨field, accountIds⟩ .optional unmet⟩
  | root | contactReference _ | contactPoint _ _ => rfl

variable (store) in
theorem referenced_staging (accountIds : List String) (contacts : List Record) (type : EntityType) :
    Staging config accountIds before store.org contacts true Link.isContactReference
      (referenced ⟨store.overheard, config⟩ contacts) type := by
  unfold Staging referenced errandsOf
  cases link : type.link with
  | contactReference field =>
      exact ⟨rfl, fun _ unmet =>
        fetchType_converses ⟨Record.idField, distinctValues contacts field⟩ .optional unmet⟩
  | root | direct _ | contactPoint _ _ => rfl

variable (store) in
theorem contactPoint_staging (accountIds : List String) (contacts : List Record)
    (type : EntityType) :
    Staging config accountIds before store.org contacts false Link.isContactPoint
      (contactPoint ⟨store.overheard, config⟩ (owners config.registry contacts)) type := by
  unfold Staging contactPoint errandsOf
  cases link : type.link with
  | contactPoint contactField individualField =>
      exact ⟨rfl, fun _ unmet => fetchContactPoint_converses contactField individualField _ unmet⟩
  | root | direct _ | contactReference _ => rfl

/-- What was said is about the accounts first, then about types which link to them, and then about
types which are reached through contacts. -/
def InOrder (registry : Registry) (said : List Turn) : Prop :=
  ∃ accounts direct later, said = accounts ++ direct ++ later ∧
    (∀ turn ∈ accounts, turn.object = EntityType.account) ∧
    (∀ turn ∈ direct, turn.object ∈ registry.reachedBy Link.isDirect) ∧
    ∀ turn ∈ later, turn.object ∈ registry.reachedBy Link.isContactReference ∨
      turn.object ∈ registry.reachedBy Link.isContactPoint

/-- The tour of a fetch through the types of its registry. -/
structure Toured (config : Config) (accountIds : List String)
    (remembered : String → Option (List String)) (said : List Turn)
    (result : Except FetchError (List Part × List String)) : Prop where
  inOrder : InOrder config.registry said
  tour : Tour (Visits config accountIds remembered (gathered EntityType.contact said))
    config.registry.objects said (∃ error, result = .error error)
  contacts : ∀ parts missing, result = .ok (parts, missing) →
    recordsOf parts EntityType.contact = gathered EntityType.contact said

theorem Stage.toured {accountIds : List String} {remembered : String → Option (List String)}
    {contacts : List Record} {plain : Bool} {types : List EntityType} {said : List Turn}
    {error : FetchError}
    (stage : Stage config accountIds remembered contacts plain types said (.error error))
    (all : ∀ type, type ∈ config.registry.objects ↔ type ∈ types)
    (found : contacts = gathered EntityType.contact said) (inOrder : InOrder config.registry said) :
    Toured config accountIds remembered said (.error error) := by
  subst found
  exact ⟨inOrder, (stage.tour.reorder all).imp fun _ => ⟨error, rfl⟩, by simp⟩

/-- The types of a registry, as a fetch comes to them. -/
structure Route (registry : Registry) (root : EntityType) : Prop where
  named : root.name = EntityType.account
  unlinked : root.link = .root
  all : ∀ type, type ∈ registry.objects ↔ type ∈ [root] ++ registry.reached Link.isDirect ++
    registry.reached Link.isContactReference ++ registry.reached Link.isContactPoint
  beforeDirect : ([root].map (·.name)).Disjoint ((registry.reached Link.isDirect).map (·.name))
  beforeReferenced : (([root] ++ registry.reached Link.isDirect).map (·.name)).Disjoint
    ((registry.reached Link.isContactReference).map (·.name))
  beforePoints : (([root] ++ registry.reached Link.isDirect ++
    registry.reached Link.isContactReference).map (·.name)).Disjoint
      ((registry.reached Link.isContactPoint).map (·.name))

theorem mem_objects_iff {registry : Registry} (valid : registry.Valid) {root : EntityType}
    (member : root ∈ registry.objects) (named : root.name = EntityType.account)
    (unlinked : root.link = .root) (type : EntityType) :
    type ∈ registry.objects ↔ type ∈ [root] ++ registry.reached Link.isDirect ++
      registry.reached Link.isContactReference ++ registry.reached Link.isContactPoint := by
  simp only [List.mem_append, List.mem_singleton, Registry.reached, List.mem_filter,
    Registry.mem_linked]
  constructor
  · intro inside
    cases link : type.link with
    | root =>
        have rooted : type.name ∈ registry.roots :=
          List.mem_map_of_mem (List.mem_filter.mpr ⟨inside, by simp [EntityType.isLinked, link]⟩)
        rw [valid.roots, List.mem_singleton] at rooted
        exact .inl (.inl (.inl (valid.same inside member (rooted.trans named.symm))))
    | direct _ => exact .inl (.inl (.inr ⟨⟨inside, by simp⟩, rfl⟩))
    | contactReference _ => exact .inl (.inr ⟨⟨inside, by simp⟩, rfl⟩)
    | contactPoint _ _ => exact .inr ⟨⟨inside, by simp⟩, rfl⟩
  · rintro (((rfl | ⟨inside, -⟩) | ⟨inside, -⟩) | ⟨inside, -⟩)
    · exact member
    all_goals exact inside.1

theorem exists_route {registry : Registry} (valid : registry.Valid) :
    ∃ root, Route registry root := by
  obtain ⟨root, member, named, unlinked⟩ := valid.account
  have unique : (([root] ++ registry.reached Link.isDirect ++
      registry.reached Link.isContactReference ++
      registry.reached Link.isContactPoint).map (·.name)).Nodup := by
    have known := valid.names_perm.nodup_iff.mpr valid.unique
    rw [← named] at known
    simpa [Registry.reached, Registry.reachedBy] using known
  rw [List.map_append] at unique
  have referenced := unique.of_append_left
  rw [List.map_append] at referenced
  have direct := referenced.of_append_left
  rw [List.map_append] at direct
  exact ⟨root, named, unlinked, mem_objects_iff valid member named unlinked,
    List.disjoint_of_nodup_append direct, List.disjoint_of_nodup_append referenced,
    List.disjoint_of_nodup_append unique⟩

/-- Contacts are not reached through contacts. -/
theorem contact_not_through {registry : Registry} (valid : registry.Valid) {kind : Link → Bool}
    (through : ∀ link, kind link = true → (∃ field, link = .contactReference field) ∨
      ∃ contactField individualField, link = .contactPoint contactField individualField) :
    EntityType.contact ∉ registry.reachedBy kind := by
  intro listed
  obtain ⟨type, kept, named⟩ := List.mem_map.mp listed
  obtain ⟨linked, reached⟩ := List.mem_filter.mp kept
  have member := (Registry.mem_linked.mp linked).1
  obtain ⟨field, contact, inside, called, direct⟩ :=
    valid.contact_direct member (through type.link reached)
  obtain rfl := valid.same member inside (named.trans called.symm)
  rcases through type.link reached with ⟨other, same⟩ | ⟨contactField, individualField, same⟩
  · simp [same] at direct
  · simp [same] at direct

theorem contact_not_referenced {registry : Registry} (valid : registry.Valid) :
    EntityType.contact ∉ registry.reachedBy Link.isContactReference :=
  contact_not_through valid fun link reached => by
    cases link <;> simp_all [Link.isContactReference]

theorem contact_not_point {registry : Registry} (valid : registry.Valid) :
    EntityType.contact ∉ registry.reachedBy Link.isContactPoint :=
  contact_not_through valid fun link reached => by
    cases link <;> simp_all [Link.isContactPoint]

theorem Route.errandsOf_root {config : Config} {root : EntityType}
    (route : Route config.registry root) (accountIds : List String) (contacts : List Record) :
    errandsOf config accountIds contacts root = fun _ => [⟨Record.idField, accountIds⟩] := by
  funext fields
  simp [errandsOf, route.unlinked]

/-- Contacts do not matter to what links to accounts. -/
theorem Route.errandsOf_direct {config : Config} {root : EntityType}
    (route : Route config.registry root) (accountIds : List String) (contacts found : List Record) :
    ∀ type ∈ [root] ++ config.registry.reached Link.isDirect,
      errandsOf config accountIds contacts type = errandsOf config accountIds found type := by
  refine List.forall_mem_append.mpr ⟨fun type only => ?_, fun type member => ?_⟩
  · rw [List.mem_singleton.mp only, route.errandsOf_root, route.errandsOf_root]
  · have direct := (List.mem_filter.mp member).2
    unfold errandsOf
    cases link : type.link with
    | direct field => rfl
    | root | contactReference _ | contactPoint _ _ => simp [link, Link.isDirect] at direct

theorem unmet_of_among {registry : Registry} {kind : Link → Bool} {names : List String}
    {said : List Turn} (among : ∀ turn ∈ said, turn.object ∈ names)
    (apart : names.Disjoint ((registry.reached kind).map (·.name))) :
    ∀ type ∈ registry.linked, kind type.link = true → Unmet type.name said := by
  intro type linked reached turn member same
  have listed := among turn member
  rw [same] at listed
  exact apart listed (List.mem_map_of_mem (List.mem_filter.mpr ⟨linked, reached⟩))

/-- After some types were visited, the fetch goes on with those which links of one kind reach. -/
theorem stage_converses (valid : config.registry.Valid) {accountIds : List String}
    {contacts : List Record} {plain : Bool} {kind : Link → Bool}
    {fetch : EntityType → Option (Fetching (σ × List Turn) Part)} {types : List EntityType}
    {said : List Turn} {parts : List Part} {β : Type}
    {next : List Part → Fetching (σ × List Turn) β} (goal : List Turn → Except FetchError β → Prop)
    (stage : Stage config accountIds (before.fields? store.org) contacts plain types said (.ok parts))
    (staging : ∀ type, Staging config accountIds before store.org contacts plain kind fetch type)
    (apart : (types.map (·.name)).Disjoint ((config.registry.reached kind).map (·.name)))
    (rest : ∀ more others,
      Stage config accountIds (before.fields? store.org) contacts plain
        (config.registry.reached kind) more (.ok others) →
      Stage config accountIds (before.fields? store.org) contacts plain
        (types ++ config.registry.reached kind) (said ++ more) (.ok (parts ++ others)) →
      Converses store.org before (· = said ++ more) (next others)
        fun later result => goal (said ++ more ++ later) result)
    (stop : ∀ more error,
      Stage config accountIds (before.fields? store.org) contacts plain
        (config.registry.reached kind) more (.error error) →
      Stage config accountIds (before.fields? store.org) contacts plain
        (types ++ config.registry.reached kind) (said ++ more) (.error error) →
      goal (said ++ more) (.error error)) :
    Converses store.org before (· = said) (fetchAll fetch config.registry.linked >>= next)
      fun more result => goal (said ++ more) result := by
  have unmet : ∀ log, log = said → ∀ type ∈ config.registry.linked, kind type.link = true →
      Unmet type.name log := by
    rintro _ rfl
    exact unmet_of_among stage.tour.among apart
  refine (fetchAll_converses (fun type _ => staging type) valid.linked_unique unmet).bind
    (fun more others later => ?_) fun more error later => ?_
  · refine (rest more others later (stage.append later apart)).imp ?_ ?_
    · rintro _ ⟨_, rfl, rfl⟩
      rfl
    · intro further result holds
      rwa [List.append_assoc] at holds
  · exact stop more error later (stage.append later apart)

section Route

variable (valid : config.registry.Valid) {root : EntityType} (route : Route config.registry root)
  {accountIds : List String} {accounts direct : List Turn}
  (own : ∀ turn ∈ accounts, turn.object = EntityType.account)
  (linked : ∀ turn ∈ direct, turn.object ∈ config.registry.reachedBy Link.isDirect)

include valid route own linked

/-- The last stage of a fetch. -/
theorem points_converses {others : List Turn} {parts : List Part} (missing : List String)
    (through : ∀ turn ∈ others, turn.object ∈ config.registry.reachedBy Link.isContactReference)
    (stage : Stage config accountIds (before.fields? store.org) (recordsOf parts EntityType.contact)
      true ([root] ++ config.registry.reached Link.isDirect ++
        config.registry.reached Link.isContactReference) (accounts ++ direct ++ others) (.ok parts)) :
    Converses store.org before (· = accounts ++ direct ++ others)
      (do
        let points ← fetchAll (contactPoint ⟨store.overheard, config⟩
          (owners config.registry (recordsOf parts EntityType.contact))) config.registry.linked
        return (parts ++ points, missing))
      fun more result =>
        Toured config accountIds (before.fields? store.org) (accounts ++ direct ++ others ++ more)
          result := by
  have inOrder : ∀ last : List Turn,
      (∀ turn ∈ last, turn.object ∈ config.registry.reachedBy Link.isContactPoint) →
        InOrder config.registry (accounts ++ direct ++ others ++ last) := by
    intro last owned
    refine ⟨accounts, direct, others ++ last, by simp, own, linked, ?_⟩
    exact List.forall_mem_append.mpr ⟨fun turn early => .inl (through turn early),
      fun turn late => .inr (owned turn late)⟩
  have found : ∀ last : List Turn,
      (∀ turn ∈ last, turn.object ∈ config.registry.reachedBy Link.isContactPoint) →
        recordsOf parts EntityType.contact =
          gathered EntityType.contact (accounts ++ direct ++ others ++ last) := by
    intro last owned
    rw [gathered_append_left (about_of_among owned (contact_not_point valid))]
    exact (stage.gathers rfl _ rfl).recordsOf EntityType.contact
  refine stage_converses valid (Toured config accountIds (before.fields? store.org)) stage.weaken
    (contactPoint_staging store accountIds _) route.beforePoints
    (fun last points owned stage => pure_converses ?_) fun last error owned stage => ?_
  · rw [List.append_nil]
    refine ⟨inOrder last owned.tour.among, ?_, ?_⟩
    · rw [← found last owned.tour.among]
      exact (stage.tour.reorder route.all).imp (by simp)
    · intro whole absent same
      cases same
      have apart : ∀ part ∈ points, part.object ≠ EntityType.contact := by
        intro part listed called
        refine contact_not_point valid ?_
        rw [← called, Registry.reachedBy, ← Registry.reached, ← owned.objects points rfl]
        exact List.mem_map_of_mem listed
      rw [recordsOf_append apart, found last owned.tour.among]
  · exact stage.toured route.all (found last owned.tour.among) (inOrder last owned.tour.among)

/-- The last two stages of a fetch. -/
theorem through_converses {parts : List Part} (missing : List String)
    (stage : Stage config accountIds (before.fields? store.org) [] true
      ([root] ++ config.registry.reached Link.isDirect) (accounts ++ direct) (.ok parts)) :
    Converses store.org before (· = accounts ++ direct)
      (do
        let referenced ← fetchAll (referenced ⟨store.overheard, config⟩
          (recordsOf parts EntityType.contact)) config.registry.linked
        let points ← fetchAll (contactPoint ⟨store.overheard, config⟩
          (owners config.registry (recordsOf (parts ++ referenced) EntityType.contact)))
          config.registry.linked
        return (parts ++ referenced ++ points, missing))
      fun more result =>
        Toured config accountIds (before.fields? store.org) (accounts ++ direct ++ more) result := by
  have found := (stage.gathers rfl _ rfl).recordsOf EntityType.contact
  have later : ∀ others : List Turn,
      (∀ turn ∈ others, turn.object ∈ config.registry.reachedBy Link.isContactReference) →
        recordsOf parts EntityType.contact =
          gathered EntityType.contact (accounts ++ direct ++ others) := by
    intro others through
    rw [gathered_append_left (about_of_among through (contact_not_referenced valid)), found]
  refine stage_converses valid (Toured config accountIds (before.fields? store.org))
    (stage.through (route.errandsOf_direct accountIds [] (recordsOf parts EntityType.contact)))
    (referenced_staging store accountIds _) route.beforeReferenced
    (fun others referenced through stage => ?_) fun others error through stage => ?_
  · -- The contacts are still those of the stage before.
    have same := (stage.gathers rfl _ rfl).recordsOf EntityType.contact
    rw [later others through.tour.among, ← same] at stage
    exact points_converses valid route own linked missing through.tour.among stage
  · refine (stage.stop _ route.beforePoints).toured route.all (later others through.tour.among)
      ⟨accounts, direct, others, rfl, own, linked,
        fun turn late => .inl (through.tour.among turn late)⟩

end Route

/-- A fetch tours its types, whatever the store answers. -/
theorem stages_converses (valid : config.registry.Valid) (accountIds : List String) :
    Converses store.org before (· = []) (stages ⟨store.overheard, config⟩ accountIds)
      (Toured config accountIds (before.fields? store.org)) := by
  obtain ⟨root, route⟩ := exists_route valid
  have started : Converses store.org before (· = [])
      (fetchType ⟨store.overheard, config⟩ EntityType.account Record.idField accountIds .required)
      (Leaves config root.name (errandsOf config accountIds [] root)
        (before.fields? store.org root.name) true) := by
    rw [route.errandsOf_root, route.named]
    exact fetchType_converses ⟨Record.idField, accountIds⟩ .required (by rintro _ rfl; simp [Unmet])
  have fits := route.errandsOf_direct accountIds []
  refine started.bind (fun said accounts leaves => ?_) fun said error leaves => ?_
  · have own : ∀ turn ∈ said, turn.object = EntityType.account :=
      route.named ▸ leaves.visited.object_eq
    refine (stage_converses valid (Toured config accountIds (before.fields? store.org))
      leaves.stage (direct_staging store accountIds []) route.beforeDirect
      (fun more direct linked stage => ?_) fun more error linked stage => ?_).imp ?_
        fun _ _ same => same
    · exact through_converses valid route own linked.tour.among _ stage
    · have fitting := stage.through (fits (gathered EntityType.contact (said ++ more)))
      have whole := (fitting.stop _ route.beforeReferenced).stop _ route.beforePoints
      exact whole.toured route.all rfl ⟨said, more, [], by simp, own, linked.tour.among, by simp⟩
    · rintro _ ⟨_, rfl, rfl⟩
      rfl
  · have own : ∀ turn ∈ said, turn.object = EntityType.account :=
      route.named ▸ leaves.visited.object_eq
    have fitting := (leaves.stage.stop _ route.beforeDirect).through
      (fits (gathered EntityType.contact said))
    have whole := (fitting.stop _ route.beforeReferenced).stop _ route.beforePoints
    exact whole.toured route.all rfl ⟨said, [], [], by simp, own, by simp, by simp⟩

end Stages

end Fetching

end Dossier
