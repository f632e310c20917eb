import Dossier.Fetch.Basic

/-!
What a fetch returns, whatever it starts from.

Some things are so of every part which is fetched, whether the store gives much or little, and whatever
is known of its types.  They are shown of one step after the other.
-/

namespace Dossier

variable {σ : Type}

namespace Fetching

variable {α β : Type}

/-- Whatever the step starts from, this is so of the values which it returns. -/
def Returns (step : Fetching σ α) (told : α → Prop) : Prop :=
  ∀ state value, (step.run.run state).1 = .ok value → told value

theorem pure_returns {told : α → Prop} {value : α} (holds : told value) :
    Returns (pure value : Fetching σ α) told := by
  intro state other same
  cases same
  exact holds

theorem any_returns (step : Fetching σ α) : Returns step fun _ => True :=
  fun _ _ _ => trivial

theorem Returns.bind {step : Fetching σ α} {told : α → Prop} {next : α → Fetching σ β}
    {goal : β → Prop} (returns : Returns step told)
    (rest : ∀ value, told value → Returns (next value) goal) : Returns (step >>= next) goal := by
  intro state value ran
  rw [ExceptT.run_bind, StateT.run_bind] at ran
  have first := returns state
  generalize step.run.run state = ended at ran first
  obtain ⟨outcome, between⟩ := ended
  cases outcome with
  | error error => contradiction
  | ok found => exact rest found (first found rfl) between value ran

/-- The plan of a part, where it has one, is made of what the store knows of its type. -/
def Part.Planned (config : Config) (part : Part) : Prop :=
  ∀ plan, part.plan = some plan → ∃ available, plan = ObjectPlan.make config part.object available

section Steps

variable (setting : Setting σ)

theorem plan_returns (object : String) (need : Need) :
    Returns (plan setting object need) fun planned => ∀ plan, planned = some plan →
      ∃ available, plan = ObjectPlan.make setting.config object available := by
  refine (any_returns _).bind fun answer _ => ?_
  cases answer with
  | ok available =>
      apply pure_returns
      intro plan made
      exact ⟨available, (Option.some.inj made).symm⟩
  | error error =>
      refine (any_returns _).bind fun _ _ => pure_returns fun _ none => ?_
      contradiction

theorem fetchType_returns (object idField : String) (ids : List String) (need : Need) :
    Returns (fetchType setting object idField ids need) fun part =>
      part.object = object ∧ part.Planned setting.config := by
  refine (plan_returns setting object need).bind fun planned made => ?_
  cases planned with
  | none => exact pure_returns ⟨rfl, fun _ none => nomatch none⟩
  | some plan => exact (any_returns _).bind fun records _ => pure_returns ⟨rfl, made⟩

theorem fetchType_planned (object idField : String) (ids : List String) (need : Need) :
    Returns (fetchType setting object idField ids need) (Part.Planned setting.config) :=
  fun state part ran => (fetchType_returns setting object idField ids need state part ran).2

theorem fetchContactPoint_planned (object : String) (contactField individualField : Option String)
    (owners : LinkPath → List String) :
    Returns (fetchContactPoint setting object contactField individualField owners)
      (Part.Planned setting.config) := by
  refine (plan_returns setting object .optional).bind fun planned made => ?_
  cases planned with
  | none => exact pure_returns fun _ none => nomatch none
  | some plan => exact (any_returns _).bind fun pool _ => pure_returns made

theorem fetchAll_returns {fetch : EntityType → Option (Fetching σ Part)} {told : Part → Prop}
    (each : ∀ type step, fetch type = some step → Returns step told) (types : List EntityType) :
    Returns (fetchAll fetch types) fun parts => ∀ part ∈ parts, told part := by
  induction types with
  | nil => exact pure_returns (List.forall_mem_nil _)
  | cons type rest ih =>
      rw [fetchAll]
      cases found : fetch type with
      | none => exact ih
      | some step =>
          refine (each type step found).bind fun part first => ih.bind fun parts others => ?_
          exact pure_returns (List.forall_mem_cons.mpr ⟨first, others⟩)

theorem direct_planned (accountIds : List String) (types : List EntityType) :
    Returns (fetchAll (direct setting accountIds) types) fun parts =>
      ∀ part ∈ parts, part.Planned setting.config := by
  refine fetchAll_returns (fun type step found => ?_) types
  unfold direct at found
  split at found <;> cases found
  exact fetchType_planned setting _ _ _ _

theorem referenced_planned (contacts : List Record) (types : List EntityType) :
    Returns (fetchAll (referenced setting contacts) types) fun parts =>
      ∀ part ∈ parts, part.Planned setting.config := by
  refine fetchAll_returns (fun type step found => ?_) types
  unfold referenced at found
  split at found <;> cases found
  exact fetchType_planned setting _ _ _ _

theorem contactPoint_planned (owners : LinkPath → List String) (types : List EntityType) :
    Returns (fetchAll (contactPoint setting owners) types) fun parts =>
      ∀ part ∈ parts, part.Planned setting.config := by
  refine fetchAll_returns (fun type step found => ?_) types
  unfold contactPoint at found
  split at found <;> cases found
  exact fetchContactPoint_planned setting _ _ _ _

theorem stages_planned (accountIds : List String) :
    Returns (stages setting accountIds) fun found => ∀ part ∈ found.1, part.Planned setting.config := by
  refine (fetchType_planned setting EntityType.account Record.idField accountIds .required).bind
    fun accounts first => ?_
  refine (direct_planned setting accountIds _).bind fun direct second => ?_
  refine (referenced_planned setting _ _).bind fun referenced third => ?_
  refine (contactPoint_planned setting _ _).bind fun points last => pure_returns ?_
  simp only [List.cons_append, List.append_assoc, List.forall_mem_cons, List.forall_mem_append]
  exact ⟨first, second, third, last⟩

end Steps

/-- What was fetched for the accounts is put together of these parts. -/
structure Assembled (accountIds : List String) (parts : List Part) (missing : List String)
    (fetched : Fetched) : Prop where
  accountIds : fetched.accountIds = accountIds
  missingAccountIds : fetched.missingAccountIds = missing
  records : fetched.records = parts.map fun part => (part.object, part.records)
  plans : fetched.plans = parts.filterMap fun part => part.plan.map fun plan => (part.object, plan)

/-- What the stages return is what was fetched. -/
theorem Returns.fetch {store : Store σ} {config : Config} {accountIds : List String}
    {told : List Part × List String → Prop}
    (returns : Returns (stages ⟨store, config⟩ accountIds) told) {cache : FieldCache} {state : σ}
    {fetched : Fetched}
    (succeeded : (Dossier.fetch store config accountIds cache state).1 = .ok fetched) :
    ∃ parts missing, told (parts, missing) ∧ Assembled accountIds parts missing fetched := by
  have first := returns ⟨state, cache, Warnings.empty⟩
  unfold Dossier.fetch at succeeded
  generalize (stages ⟨store, config⟩ accountIds).run.run ⟨state, cache, Warnings.empty⟩ = ended
    at succeeded first
  obtain ⟨outcome, last⟩ := ended
  cases outcome with
  | error error => contradiction
  | ok found =>
      cases succeeded
      exact ⟨found.1, found.2, first found rfl, rfl, rfl, rfl, rfl⟩

end Fetching

section Fetch

variable {store : Store σ} {config : Config} {accountIds : List String} {cache : FieldCache}
  {state : σ} {fetched : Fetched}
  (succeeded : (fetch store config accountIds cache state).1 = .ok fetched)

include succeeded

theorem fetch_accountIds : fetched.accountIds = accountIds := by
  obtain ⟨parts, missing, -, told⟩ := (Fetching.any_returns _).fetch succeeded
  exact told.accountIds

/-- Every plan is made of what the store knows of its type. -/
theorem fetch_plans :
    ∀ entry ∈ fetched.plans, ∃ available, entry.2 = ObjectPlan.make config entry.1 available := by
  obtain ⟨parts, missing, planned, told⟩ :=
    (Fetching.stages_planned ⟨store, config⟩ accountIds).fetch succeeded
  intro entry member
  rw [told.plans] at member
  obtain ⟨part, listed, found⟩ := List.mem_filterMap.mp member
  obtain ⟨plan, made, rfl⟩ := Option.map_eq_some_iff.mp found
  exact planned part listed plan made

end Fetch

end Dossier
