import Dossier.Proofs.Fetch.Yield
import Dossier.Proofs.Registry
import Dossier.Proofs.Table

/-!
What a fetch finds on a steady store.

A survey holds the yields of all types, stage by stage.  A fetch settles them one after the other:
either one of them ends it, or their parts are what was fetched.
-/

namespace Dossier

variable {σ : Type}

namespace Fetching

variable {setting : Setting σ} {answers : Answers}

/-- Yields which are settled one after the other, until one ends the fetch. -/
def settleAll (config : Config) : List Yield → Warnings → Except FetchError (List Part × Warnings)
  | [], before => .ok ([], before)
  | yield :: rest, before => do
      let (part, between) ← yield.settle config before
      let (parts, after) ← settleAll config rest between
      return (part :: parts, after)

/-- A type either takes no part in a stage, or it is fetched and yields what it should. -/
inductive Finds (setting : Setting σ) (answers : Answers)
    (fetch : EntityType → Option (Fetching σ Part)) (yieldOf : EntityType → Option Yield)
    (type : EntityType) : Prop where
  | apart (unfetched : fetch type = none) (nothing : yieldOf type = none)
  | fetched {step : Fetching σ Part} {yield : Yield} (started : fetch type = some step)
      (found : yieldOf type = some yield) (named : yield.part.object = type.name)
      (ends : ∀ before, before.contains type.name = false →
        Ends setting answers before step (yield.settle setting.config before))

/-- What is left of yields where none of them ended the fetch. -/
structure Settled (yields : List Yield) (before : Warnings) (parts : List Part) (after : Warnings) :
    Prop where
  parts : parts = yields.map (·.part)
  warned : ∀ key, after.contains key = true ↔
    before.contains key = true ∨ ∃ yield ∈ yields, yield.part.object = key ∧ yield.failure ≠ none

theorem Yield.settle_ok {config : Config} {yield : Yield} {before after : Warnings} {part : Part}
    (settled : yield.settle config before = .ok (part, after)) :
    Settled [yield] before [part] after := by
  unfold Yield.settle Fetching.settle at settled
  split at settled
  · rename_i sound
    cases settled
    exact ⟨rfl, by simp [sound]⟩
  · rename_i error failed
    split at settled
    · contradiction
    · cases settled
      refine ⟨rfl, fun key => ?_⟩
      simp [failed, eq_comm (a := key)]

theorem Settled.append {first rest : List Yield} {before between after : Warnings}
    {parts others : List Part} (settled : Settled first before parts between)
    (later : Settled rest between others after) :
    Settled (first ++ rest) before (parts ++ others) after := by
  constructor
  · rw [settled.parts, later.parts, List.map_append]
  · intro key
    rw [later.warned, settled.warned]
    simp only [List.mem_append, or_and_right, exists_or, or_assoc]

theorem Settled.clean {yields : List Yield} {before after : Warnings} {parts : List Part}
    (settled : Settled yields before parts after) {key : String}
    (clean : before.contains key = false) (other : ∀ yield ∈ yields, yield.part.object ≠ key) :
    after.contains key = false := by
  refine Bool.eq_false_iff.mpr fun told => ?_
  rcases (settled.warned key).mp told with earlier | ⟨yield, member, named, _⟩
  · simp [clean] at earlier
  · exact other yield member named

theorem settleAll_ok {config : Config} {yields : List Yield} {before after : Warnings}
    {parts : List Part} (settled : settleAll config yields before = .ok (parts, after)) :
    Settled yields before parts after := by
  induction yields generalizing before parts with
  | nil =>
      cases settled
      exact ⟨rfl, by simp⟩
  | cons yield rest ih =>
      rw [settleAll] at settled
      cases first : yield.settle config before with
      | error error => simp [first, Except.bind, Bind.bind] at settled
      | ok ended =>
          obtain ⟨part, between⟩ := ended
          cases later : settleAll config rest between with
          | error error => simp [first, later, Except.bind, Bind.bind] at settled
          | ok others =>
              obtain ⟨others, last⟩ := others
              simp only [first, later, Except.bind, Bind.bind] at settled
              cases settled
              exact (Yield.settle_ok first).append (ih later)

theorem fetchAll_ends {fetch : EntityType → Option (Fetching σ Part)}
    {yieldOf : EntityType → Option Yield} {types : List EntityType} {before : Warnings}
    (finds : ∀ type ∈ types, Finds setting answers fetch yieldOf type)
    (unique : (types.map (·.name)).Nodup)
    (clean : ∀ type ∈ types, (yieldOf type).isSome → before.contains type.name = false) :
    Ends setting answers before (fetchAll fetch types)
      (settleAll setting.config (types.filterMap yieldOf) before) := by
  induction types generalizing before with
  | nil => exact pure_ends []
  | cons type rest ih =>
      obtain ⟨first, others⟩ := List.forall_mem_cons.mp finds
      obtain ⟨unwarned, cleanRest⟩ := List.forall_mem_cons.mp clean
      obtain ⟨new, uniqueRest⟩ := List.nodup_cons.mp unique
      cases first with
      | apart unfetched nothing =>
          rw [fetchAll, unfetched, List.filterMap_cons, nothing]
          exact ih others uniqueRest cleanRest
      | @fetched step yield started found named ends =>
          rw [fetchAll, started, List.filterMap_cons, found]
          refine (ends before (unwarned (by simp [found]))).bind fun part between settled => ?_
          have cleanAfter : ∀ other ∈ rest, (yieldOf other).isSome →
              between.contains other.name = false := by
            intro other member yields
            refine (Yield.settle_ok settled).clean (cleanRest other member yields)
              fun known only same => ?_
            rw [List.mem_singleton.mp only, named] at same
            have repeated : type.name ∈ rest.map (·.name) := by
              rw [same]
              exact List.mem_map_of_mem member
            exact new repeated
          exact (ih others uniqueRest cleanAfter).bind fun parts after _ => pure_ends _

theorem settleAll_append (config : Config) (first rest : List Yield) (before : Warnings) :
    settleAll config (first ++ rest) before = do
      let (parts, between) ← settleAll config first before
      let (others, after) ← settleAll config rest between
      return (parts ++ others, after) := by
  induction first generalizing before with
  | nil => exact (bind_pure _).symm
  | cons yield others ih => simp [settleAll, ih, bind_assoc]

end Fetching

namespace Answers

open Fetching (Need Yield Part recordsOf distinctValues owners)

variable (answers : Answers) (config : Config) (accountIds : List String)

def directYield (type : EntityType) : Option Yield :=
  match type.link with
  | .direct field => some (answers.typeYield config .optional type.name field accountIds)
  | _ => none

def referencedYield (contacts : List Record) (type : EntityType) : Option Yield :=
  match type.link with
  | .contactReference field =>
      some (answers.typeYield config .optional type.name Record.idField
        (distinctValues contacts field))
  | _ => none

def contactPointYield (contacts : List Record) (type : EntityType) : Option Yield :=
  match type.link with
  | .contactPoint contactField individualField =>
      some (answers.pointYield config type.name contactField individualField
        (owners config.registry contacts))
  | _ => none

/-- The yields of the types, stage by stage. -/
structure Survey where
  accounts : Yield
  direct : List Yield
  /-- The contacts which the first stage found. -/
  contacts : List Record
  referenced : List Yield
  points : List Yield

def survey : Survey :=
  let accounts := answers.typeYield config .required EntityType.account Record.idField accountIds
  let direct := config.registry.linked.filterMap (answers.directYield config accountIds)
  let contacts := recordsOf ((accounts :: direct).map (·.part)) EntityType.contact
  { accounts, direct, contacts
    referenced := config.registry.linked.filterMap (answers.referencedYield config contacts)
    points := config.registry.linked.filterMap (answers.contactPointYield config contacts) }

/-- All yields, in the order in which the types are fetched. -/
def Survey.yields (survey : Survey) : List Yield :=
  survey.accounts :: survey.direct ++ survey.referenced ++ survey.points

variable {answers config accountIds}

theorem directYield_link {type : EntityType} {yield : Yield}
    (found : answers.directYield config accountIds type = some yield) :
    yield.part.object = type.name ∧ ∃ field, type.link = .direct field := by
  unfold directYield at found
  split at found
  · rename_i field linked
    cases found
    exact ⟨typeYield_object .., field, linked⟩
  · contradiction

theorem referencedYield_link {contacts : List Record} {type : EntityType} {yield : Yield}
    (found : answers.referencedYield config contacts type = some yield) :
    yield.part.object = type.name ∧ ∃ field, type.link = .contactReference field := by
  unfold referencedYield at found
  split at found
  · rename_i field linked
    cases found
    exact ⟨typeYield_object .., field, linked⟩
  · contradiction

theorem contactPointYield_link {contacts : List Record} {type : EntityType} {yield : Yield}
    (found : answers.contactPointYield config contacts type = some yield) :
    yield.part.object = type.name ∧
      ∃ contactField individualField, type.link = .contactPoint contactField individualField := by
  unfold contactPointYield at found
  split at found
  · rename_i contactField individualField linked
    cases found
    exact ⟨pointYield_object .., contactField, individualField, linked⟩
  · contradiction

end Answers

namespace Fetching

variable {setting : Setting σ} {answers : Answers} (gives : setting.store.Gives answers)

include gives

theorem direct_finds (accountIds : List String) (type : EntityType) :
    Finds setting answers (direct setting accountIds)
      (answers.directYield setting.config accountIds) type := by
  cases linked : type.link with
  | direct field =>
      refine .fetched (by rw [direct, linked]) (by rw [Answers.directYield, linked])
        (Answers.typeYield_object ..) fun before clean => ?_
      exact fetchType_ends gives clean field accountIds .optional
  | root | contactReference _ | contactPoint _ _ =>
      exact .apart (by rw [direct, linked]) (by rw [Answers.directYield, linked])

theorem referenced_finds (contacts : List Record) (type : EntityType) :
    Finds setting answers (referenced setting contacts)
      (answers.referencedYield setting.config contacts) type := by
  cases linked : type.link with
  | contactReference field =>
      refine .fetched (by rw [referenced, linked]) (by rw [Answers.referencedYield, linked])
        (Answers.typeYield_object ..) fun before clean => ?_
      exact fetchType_ends gives clean _ _ .optional
  | root | direct _ | contactPoint _ _ =>
      exact .apart (by rw [referenced, linked]) (by rw [Answers.referencedYield, linked])

theorem contactPoint_finds (contacts : List Record) (type : EntityType) :
    Finds setting answers (contactPoint setting (owners setting.config.registry contacts))
      (answers.contactPointYield setting.config contacts) type := by
  cases linked : type.link with
  | contactPoint contactField individualField =>
      refine .fetched (by rw [contactPoint, linked]) (by rw [Answers.contactPointYield, linked])
        (Answers.pointYield_object ..) fun before clean => ?_
      exact fetchContactPoint_ends gives clean _ _ _
  | root | direct _ | contactReference _ =>
      exact .apart (by rw [contactPoint, linked]) (by rw [Answers.contactPointYield, linked])

omit gives in
theorem recordsOf_append {parts others : List Part} {object : String}
    (apart : ∀ part ∈ others, part.object ≠ object) :
    recordsOf (parts ++ others) object = recordsOf parts object := by
  have absent : others.find? (·.object == object) = none := by
    simpa [List.find?_eq_none] using apart
  rw [recordsOf, List.find?_append, absent, Option.or_none]
  rfl

omit gives in
/-- What a stage yields is not of a type of another stage. -/
theorem stage_apart (stage : Link → Prop) {registry : Registry} (valid : registry.Valid)
    {yieldOf : EntityType → Option Yield}
    (links : ∀ type yield, yieldOf type = some yield →
      yield.part.object = type.name ∧ stage type.link)
    {type : EntityType} (member : type ∈ registry.objects) (other : ¬ stage type.link) :
    ∀ yield ∈ registry.linked.filterMap yieldOf, yield.part.object ≠ type.name := by
  intro yield listed same
  obtain ⟨owner, linked, found⟩ := List.mem_filterMap.mp listed
  obtain ⟨named, staged⟩ := links owner yield found
  have equal := valid.same (Registry.mem_linked.mp linked).1 member (named.symm.trans same)
  exact other (equal ▸ staged)

omit gives in
theorem referenced_not_contact {config : Config} (valid : config.registry.Valid)
    (contacts : List Record) :
    ∀ yield ∈ config.registry.linked.filterMap (answers.referencedYield config contacts),
      yield.part.object ≠ EntityType.contact := by
  intro yield listed
  obtain ⟨owner, linked, found⟩ := List.mem_filterMap.mp listed
  obtain ⟨-, field, references⟩ := Answers.referencedYield_link found
  obtain ⟨_, contact, member, named, direct⟩ :=
    valid.contact_direct (Registry.mem_linked.mp linked).1 (.inl ⟨field, references⟩)
  rw [← named]
  exact stage_apart (∃ field, · = .contactReference field) valid
    (fun _ _ => Answers.referencedYield_link) member (by simp [direct]) yield listed

theorem stages_ends (valid : setting.config.registry.Valid) (accountIds : List String) :
    Ends setting answers Warnings.empty (stages setting accountIds) (do
      let survey := answers.survey setting.config accountIds
      let (parts, after) ← settleAll setting.config survey.yields Warnings.empty
      return ((parts, missing accountIds survey.accounts.part.records), after)) := by
  simp only [Answers.Survey.yields, settleAll, settleAll_append, bind_assoc, pure_bind]
  refine (fetchType_ends gives rfl Record.idField accountIds .required).bind
    fun accounts afterAccounts first => ?_
  have settledAccounts := Yield.settle_ok first
  obtain ⟨rfl, -⟩ := List.cons.inj settledAccounts.parts
  have cleanLinked : ∀ type ∈ setting.config.registry.linked,
      afterAccounts.contains type.name = false := by
    refine fun type member => settledAccounts.clean rfl fun yield only same => ?_
    rw [List.mem_singleton.mp only, Answers.typeYield_object] at same
    exact valid.linked_ne_account member same.symm
  refine (fetchAll_ends (fun type _ => direct_finds gives accountIds type) valid.linked_unique
    fun type member _ => cleanLinked type member).bind fun direct afterDirect second => ?_
  have settledDirect := settleAll_ok second
  obtain rfl := settledDirect.parts
  have cleanReferenced : ∀ type ∈ setting.config.registry.linked,
      (∀ field, type.link ≠ .direct field) → afterDirect.contains type.name = false := by
    intro type member other
    refine settledDirect.clean (cleanLinked type member) ?_
    exact stage_apart (∃ field, · = .direct field) valid (fun _ _ => Answers.directYield_link)
      (Registry.mem_linked.mp member).1 fun ⟨field, linked⟩ => other field linked
  refine (fetchAll_ends (fun type _ => referenced_finds gives _ type) valid.linked_unique
    fun type member yields => ?_).bind fun referenced afterReferenced third => ?_
  · obtain ⟨yield, found⟩ := Option.isSome_iff_exists.mp yields
    obtain ⟨-, field, linked⟩ := Answers.referencedYield_link found
    exact cleanReferenced type member (by simp [linked])
  · have settledReferenced := settleAll_ok third
    obtain rfl := settledReferenced.parts
    have kept (parts : List Part) (contacts : List Record) :
        recordsOf (parts ++ (setting.config.registry.linked.filterMap
          (answers.referencedYield setting.config contacts)).map (·.part)) EntityType.contact =
            recordsOf parts EntityType.contact :=
      recordsOf_append (List.forall_mem_map.mpr (referenced_not_contact valid contacts))
    rw [kept]
    refine (fetchAll_ends (fun type _ => contactPoint_finds gives _ type) valid.linked_unique
      fun type member yields => ?_).bind fun points afterPoints fourth => ?_
    · obtain ⟨yield, found⟩ := Option.isSome_iff_exists.mp yields
      obtain ⟨-, contactField, individualField, linked⟩ := Answers.contactPointYield_link found
      refine settledReferenced.clean (cleanReferenced type member (by simp [linked])) ?_
      exact stage_apart (∃ field, · = .contactReference field) valid
        (fun _ _ => Answers.referencedYield_link) (Registry.mem_linked.mp member).1
        (by simp [linked])
    · obtain rfl := (settleAll_ok fourth).parts
      exact pure_ends _

end Fetching

namespace Answers

open Fetching (Yield)

variable {answers : Answers} {config : Config} {accountIds : List String}

/-- The yield of one type, in whatever stage it is fetched. -/
def yieldOf? (answers : Answers) (config : Config) (accountIds : List String) (type : EntityType) :
    Option Yield :=
  let contacts := (answers.survey config accountIds).contacts
  (answers.directYield config accountIds type).or <|
    (answers.referencedYield config contacts type).or (answers.contactPointYield config contacts type)

theorem mem_yields {type : EntityType} (linked : type ∈ config.registry.linked) {yield : Yield}
    (found : answers.yieldOf? config accountIds type = some yield) :
    yield ∈ (answers.survey config accountIds).yields := by
  simp only [yieldOf?, Option.or_eq_some_iff] at found
  simp only [Survey.yields, survey, List.mem_append, List.mem_cons, List.mem_filterMap]
  rcases found with direct | ⟨-, referenced | ⟨-, point⟩⟩
  · exact .inl (.inl (.inr ⟨type, linked, direct⟩))
  · exact .inl (.inr ⟨type, linked, referenced⟩)
  · exact .inr ⟨type, linked, point⟩

theorem yields_only (valid : config.registry.Valid) {type : EntityType}
    (linked : type ∈ config.registry.linked) {yield : Yield}
    (member : yield ∈ (answers.survey config accountIds).yields)
    (named : yield.part.object = type.name) :
    answers.yieldOf? config accountIds type = some yield := by
  have inside := (Registry.mem_linked.mp linked).1
  have same : ∀ owner ∈ config.registry.linked, yield.part.object = owner.name → owner = type :=
    fun owner member ownNamed => valid.same (Registry.mem_linked.mp member).1 inside
      (ownNamed.symm.trans named)
  simp only [Survey.yields, survey, List.mem_append, List.mem_cons, List.mem_filterMap] at member
  rcases member with ((rfl | ⟨owner, ownLinked, found⟩) | ⟨owner, ownLinked, found⟩) |
    ⟨owner, ownLinked, found⟩
  · rw [typeYield_object] at named
    exact absurd named.symm (valid.linked_ne_account linked)
  · obtain ⟨ownNamed, -⟩ := directYield_link found
    obtain rfl := same owner ownLinked ownNamed
    simp [yieldOf?, found]
  · obtain ⟨ownNamed, field, references⟩ := referencedYield_link found
    obtain rfl := same owner ownLinked ownNamed
    have apart : answers.directYield config accountIds owner = none := by
      simp [directYield, references]
    have whole : answers.referencedYield config (answers.survey config accountIds).contacts owner =
        some yield := found
    rw [yieldOf?, apart, whole]
    rfl
  · obtain ⟨ownNamed, contactField, individualField, points⟩ := contactPointYield_link found
    obtain rfl := same owner ownLinked ownNamed
    have whole : answers.contactPointYield config (answers.survey config accountIds).contacts owner =
        some yield := found
    simp [yieldOf?, directYield, referencedYield, points, whole]

end Answers

namespace Fetching

theorem recordsOf_only {yields : List Yield} {yield : Yield} (member : yield ∈ yields)
    (only : ∀ other ∈ yields, other.part.object = yield.part.object → other = yield) :
    recordsOf (yields.map (·.part)) yield.part.object = yield.part.records := by
  rw [recordsOf]
  split
  · rename_i part found
    obtain ⟨other, there, rfl⟩ := List.mem_map.mp (List.mem_of_find?_eq_some found)
    rw [only other there (by simpa using List.find?_some found)]
  · rename_i missing
    have absent := List.find?_eq_none.mp missing yield.part (List.mem_map_of_mem member)
    simp at absent

end Fetching

theorem Answers.survey_contacts {answers : Answers} {config : Config} {accountIds : List String}
    (valid : config.registry.Valid) {contact : EntityType} (member : contact ∈ config.registry.objects)
    (named : contact.name = EntityType.contact) {field : String}
    (direct : contact.link = .direct field) :
    (answers.survey config accountIds).contacts =
      (answers.typeYield config .optional EntityType.contact field accountIds).part.records := by
  have linked : contact ∈ config.registry.linked :=
    Registry.mem_linked.mpr ⟨member, by simp [direct]⟩
  have found : answers.directYield config accountIds contact =
      some (answers.typeYield config .optional contact.name field accountIds) := by
    rw [directYield, direct]
  have listed : answers.typeYield config .optional contact.name field accountIds ∈
      (answers.survey config accountIds).accounts :: (answers.survey config accountIds).direct :=
    List.mem_cons_of_mem _ (List.mem_filterMap.mpr ⟨contact, linked, found⟩)
  have sole := Fetching.recordsOf_only listed fun other there same => ?_
  · rw [typeYield_object, named] at sole
    exact sole
  · rw [typeYield_object] at same
    have inside : other ∈ (answers.survey config accountIds).yields := by
      rw [Survey.yields]
      exact List.mem_append_left _ (List.mem_append_left _ there)
    have whole := yields_only valid linked inside same
    rw [yieldOf?, found] at whole
    exact (Option.some.inj whole).symm

/-- What was fetched, by the parts of which it consists. -/
def Fetched.ofParts (accountIds missing : List String) (parts : List Fetching.Part)
    (warnings : Warnings) : Fetched where
  accountIds := accountIds
  missingAccountIds := missing
  records := parts.map fun part => (part.object, part.records)
  plans := parts.filterMap fun part => part.plan.map fun plan => (part.object, plan)
  linkSources := parts.filterMap fun part =>
    part.linkSources.map fun sources => (part.object, sources)
  warnings := warnings

namespace Fetched

variable {parts : List Fetching.Part} {part : Fetching.Part} (member : part ∈ parts)
  (only : ∀ other ∈ parts, other.object = part.object → other = part)

include member only

/-- What is known of the parts by type is known of a type which has one part. -/
theorem lookup_parts {β : Type} (known : Fetching.Part → Option β) :
    (parts.filterMap fun part =>
      (known part).map fun value => (part.object, value)).lookup part.object = known part := by
  have entries : ∀ value, (part.object, value) ∈ (parts.filterMap fun part =>
      (known part).map fun value => (part.object, value)) ↔ known part = some value := by
    intro value
    simp only [List.mem_filterMap, Option.map_eq_some_iff, Prod.mk.injEq]
    constructor
    · rintro ⟨other, there, found, given, named, rfl⟩
      rw [← only other there named, given]
    · intro given
      exact ⟨part, member, value, given, rfl, rfl⟩
  cases given : known part with
  | none =>
      refine Table.lookup_eq_none fun listed => ?_
      obtain ⟨⟨object, value⟩, inside, rfl⟩ := List.mem_map.mp listed
      simpa [given] using (entries value).mp inside
  | some value =>
      refine Table.lookup_of_only ((entries value).mpr given) fun other listed => ?_
      exact Option.some.inj (((entries other).mp listed).symm.trans given)

theorem lookup_records (accountIds missing : List String) (warnings : Warnings) :
    (ofParts accountIds missing parts warnings).records.lookup part.object = some part.records := by
  have found := lookup_parts member only (fun part => some part.records)
  rw [ofParts, ← List.filterMap_eq_map']
  exact found

end Fetched

section Steady

variable {store : Store σ} {answers : Answers} (gives : store.Gives answers) {config : Config}
  (valid : config.registry.Valid) {cache : FieldCache} (truthful : cache.Truthful store.org answers)

include gives valid truthful

/-- On a steady store a fetch settles the yields of its survey, whatever the cache remembers. -/
theorem fetch_steady (accountIds : List String) (state : σ) :
    (fetch store config accountIds cache state).1 =
      (Fetching.settleAll config (answers.survey config accountIds).yields Warnings.empty).map
        fun (parts, warnings) => Fetched.ofParts accountIds
          (Fetching.missing accountIds (answers.survey config accountIds).accounts.part.records)
          parts warnings := by
  have staged : Fetching.Ends ⟨store, config⟩ answers _ _ _ :=
    Fetching.stages_ends gives valid accountIds
  obtain ⟨last, ran, -, ended⟩ := staged ⟨state, cache, Warnings.empty⟩ truthful rfl
  simp only [fetch, ran]
  cases settled : Fetching.settleAll config (answers.survey config accountIds).yields
      Warnings.empty with
  | error error => rfl
  | ok whole =>
      have warned : last.warnings = whole.2 := ended _ _ (by simp only [settled]; rfl)
      rw [warned]
      rfl

/-- What a fetch on a steady store found, and which types it warns of. -/
theorem fetch_found {accountIds : List String} {state : σ} {fetched : Fetched}
    (succeeded : (fetch store config accountIds cache state).1 = .ok fetched) :
    ∃ missing, fetched = Fetched.ofParts accountIds missing
        ((answers.survey config accountIds).yields.map (·.part)) fetched.warnings ∧
      ∀ key, fetched.warnings.contains key = true ↔
        ∃ yield ∈ (answers.survey config accountIds).yields,
          yield.part.object = key ∧ yield.failure ≠ none := by
  rw [fetch_steady gives valid truthful] at succeeded
  cases settled : Fetching.settleAll config (answers.survey config accountIds).yields
      Warnings.empty with
  | error error =>
      rw [settled] at succeeded
      contradiction
  | ok whole =>
      obtain ⟨parts, after⟩ := whole
      rw [settled] at succeeded
      cases succeeded
      have found := Fetching.settleAll_ok settled
      obtain rfl := found.parts
      exact ⟨_, rfl, fun key => (found.warned key).trans (by simp)⟩

end Steady

end Dossier
