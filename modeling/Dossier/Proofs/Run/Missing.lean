import Dossier.Proofs.Fetch.Returns
import Dossier.Proofs.Graph.Belonging
import Dossier.Proofs.Payload.Attaching
import Dossier.Proofs.Run.Exploring
import Dossier.Proofs.Run.Likeness
import Dossier.Proofs.Store.Fixture

/-!
Accounts which the store does not have.

A fetch looks for the requested accounts among the identifiers of what it was given; a resolver
looks each of them up in the pool of accounts.  Both come to the same, whatever the store returns:
an account is missing just where its graph has a record of no fields, and it is displayed still.
-/

namespace Dossier

variable {σ : Type}

namespace Fetching

/-- The accounts come first, and those are missing which are not among them. -/
theorem stages_returns (setting : Setting σ) (accountIds : List String) :
    Returns (stages setting accountIds) fun found => ∃ accounts rest,
      found.1 = accounts :: rest ∧ accounts.object = EntityType.account ∧
        found.2 = missing accountIds accounts.records := by
  refine (fetchType_returns setting EntityType.account Record.idField accountIds .required).bind
    fun accounts named => ?_
  refine (any_returns _).bind fun direct _ => (any_returns _).bind fun referenced _ =>
    (any_returns _).bind fun points _ => pure_returns ?_
  exact ⟨accounts, direct ++ referenced ++ points, by simp, named.1, rfl⟩

end Fetching

section Fetch

variable {store : Store σ} {config : Config} {accountIds : List String} {cache : FieldCache}
  {state : σ} {fetched : Fetched}
  (succeeded : (fetch store config accountIds cache state).1 = .ok fetched)

include succeeded

/-- What is missing is told by the pool of accounts, from which graphs are resolved. -/
theorem fetch_missing :
    fetched.missingAccountIds =
      Fetching.missing accountIds (fetched.pool EntityType.account) := by
  obtain ⟨parts, missing, ⟨accounts, rest, rfl, named, rfl⟩, told⟩ :=
    (Fetching.stages_returns ⟨store, config⟩ accountIds).fetch succeeded
  rw [told.missingAccountIds, Fetched.pool, told.records, List.map_cons, List.lookup_cons, named]
  rfl

theorem mem_missing {accountId : String} (asked : accountId ∈ accountIds) :
    accountId ∈ fetched.missingAccountIds ↔
      ¬∃ record ∈ fetched.pool EntityType.account, record.id? = some accountId := by
  rw [fetch_missing succeeded, Fetching.missing, List.mem_filter, Bool.not_eq_true',
    Bool.eq_false_iff, Ne, List.contains_iff_mem, List.mem_filterMap]
  exact and_iff_right asked

end Fetch

/-- The record which stands for an account that was not found. -/
def GraphRecord.isSynthetic (record : GraphRecord) : Bool :=
  record.key == "Account:0" && record.record.isEmpty

theorem Record.isEmpty_of_id? {record : Record} {id : String} (identified : record.id? = some id) :
    record.isEmpty = false := by
  cases blank : record.isEmpty with
  | false => rfl
  | true =>
      have bare : record.get? Record.idField = none := by
        rw [get?, List.isEmpty_iff.mp blank]
        rfl
      simp [id?, bare] at identified

namespace Fetched

/-- What was found is what graphs have: of the requested accounts, those are missing whose graph has
a synthetic record, and the others have a record of their own. -/
structure Accounts (fetched : Fetched) (registry : Registry) (accountIds : List String) : Prop where
  missing : fetched.missingAccountIds = accountIds.filter fun id =>
    ((fetched.resolver registry).resolve id).account.isSynthetic
  found : ∀ id ∈ accountIds, id ∉ fetched.missingAccountIds →
    ((fetched.resolver registry).resolve id).account.id? = some id ∧
      ((fetched.resolver registry).resolve id).account.key = id

variable {fetched : Fetched} {registry : Registry} {accountId : String}

/-- It is the missing fields which tell a synthetic record: another one may have its key. -/
theorem accountRecord_isSynthetic :
    (fetched.accountRecord accountId).isSynthetic = true ↔
      ¬∃ record ∈ fetched.pool EntityType.account, record.id? = some accountId := by
  constructor
  · rintro synthetic ⟨record, member, identified⟩
    obtain ⟨first, -, named, stands⟩ := accountRecord_of_mem member identified
    rw [stands, GraphRecord.isSynthetic, Record.isEmpty_of_id? named, Bool.and_false] at synthetic
    contradiction
  · intro unknown
    rw [accountRecord_of_not_mem fun record member identified =>
      unknown ⟨record, member, identified⟩]
    rfl

/-- The key of an account is its identifier, unless it was not found. -/
theorem accountRecord_key {store : Store σ} {config : Config} {accountIds : List String}
    {cache : FieldCache} {state : σ}
    (succeeded : (fetch store config accountIds cache state).1 = .ok fetched)
    (asked : accountId ∈ accountIds) :
    (fetched.accountRecord accountId).key =
      if accountId ∈ fetched.missingAccountIds then "Account:0" else accountId := by
  by_cases known : ∃ record ∈ fetched.pool EntityType.account, record.id? = some accountId
  · rw [if_neg fun missing => (mem_missing succeeded asked).mp missing known]
    obtain ⟨record, member, identified⟩ := known
    obtain ⟨first, -, -, stands⟩ := accountRecord_of_mem member identified
    rw [stands]
  · rw [if_pos ((mem_missing succeeded asked).mpr known),
      accountRecord_of_not_mem fun record member identified => known ⟨record, member, identified⟩]
    rfl

/-- The two decisions agree on every account. -/
theorem accounts_of_fetch {store : Store σ} {config : Config} {accountIds : List String}
    {cache : FieldCache} {state : σ}
    (succeeded : (fetch store config accountIds cache state).1 = .ok fetched) :
    fetched.Accounts config.registry accountIds where
  missing := by
    rw [fetch_missing succeeded, Fetching.missing]
    refine List.filter_congr fun id asked => ?_
    have same := (mem_missing succeeded asked).trans accountRecord_isSynthetic.symm
    rw [fetch_missing succeeded, Fetching.missing, List.mem_filter, and_iff_right asked] at same
    rw [resolve_account]
    exact Bool.eq_iff_iff.mpr same
  found id asked found := by
    rw [mem_missing succeeded asked, not_not] at found
    obtain ⟨record, member, identified⟩ := found
    obtain ⟨first, -, named, stands⟩ := accountRecord_of_mem member identified
    rw [resolve_account, stands]
    exact ⟨named, rfl⟩

end Fetched

namespace RunResult

/-- Every account is displayed once, in its place, whether it was found or not; its key tells. -/
structure Accounts (result : RunResult) (accountIds : List String) : Prop where
  asked : result.accountIds = accountIds
  payloads : result.data.accounts.map (·.id) = accountIds
  keys : ∀ payload ∈ result.data.accounts, payload.recordKey =
    if payload.id ∈ result.missingAccountIds then "Account:0" else payload.id

end RunResult

namespace Run

theorem exploreAccount_recordKey (layout : Layout) (resolver : Resolver)
    (alerts : List AlertDefinition) (accountId : String) :
    (exploreAccount layout resolver alerts accountId).recordKey =
      (resolver.resolve accountId).account.key :=
  AccountPayload.attachAlerts_recordKey _ _

theorem nothing_accounts (config : Config) (alerts : List AlertDefinition) :
    (nothing config alerts).Accounts [] :=
  ⟨rfl, rfl, fun _ member => absurd member List.not_mem_nil⟩

theorem explore_accounts {store : Store σ} {config : Config} {accountIds : List String}
    {cache : FieldCache} {state : σ} {fetched : Fetched}
    (succeeded : (fetch store config accountIds cache state).1 = .ok fetched)
    (alerts : List AlertDefinition) : (explore config alerts fetched).Accounts accountIds := by
  have asked := fetch_accountIds succeeded
  refine ⟨asked, ?_, fun payload member => ?_⟩
  · simp only [explore, List.map_map, Function.comp_def, exploreAccount_id, List.map_id', asked]
  · obtain ⟨accountId, listed, rfl⟩ := List.mem_map.mp member
    rw [exploreAccount_recordKey, exploreAccount_id]
    exact (congrArg GraphRecord.key Fetched.resolve_account).trans
      (Fetched.accountRecord_key succeeded (asked ▸ listed))

end Run

section Run

variable (store : Store σ) (config : Config)

/-- Whatever a store returns, fetching and resolving agree on which accounts it has, and a run
displays all of them. -/
theorem missing_accounts_agree :
    (∀ accountIds cache state fetched,
      (fetch store config accountIds cache state).1 = .ok fetched →
        fetched.Accounts config.registry accountIds) ∧
    ∀ alerts candidates timeout state,
      (∀ result, (run store config alerts candidates timeout state).1 = .ok result →
        result.Accounts (AccountId.sanitize candidates)) ∧
      ∀ fetched, store.responsive = true →
        (fetch store config (AccountId.sanitize candidates) FieldCache.empty state).1 = .ok fetched →
          ∃ result, (run store config alerts candidates timeout state).1 = .ok result ∧
            result.missingAccountIds = fetched.missingAccountIds := by
  refine ⟨fun accountIds cache state fetched => Fetched.accounts_of_fetch,
    fun alerts candidates timeout state => ⟨fun result ran => ?_,
      fun fetched responsive succeeded => ?_⟩⟩
  · by_cases none : AccountId.sanitize candidates = []
    · rw [none]
      simp only [run, none, List.isEmpty_nil, if_true] at ran
      cases ran
      exact Run.nothing_accounts config alerts
    · obtain ⟨-, fetched, succeeded, rfl⟩ := (run_eq_ok none).mp ran
      exact Run.explore_accounts succeeded alerts
  · by_cases none : AccountId.sanitize candidates = []
    · refine ⟨Run.nothing config alerts, by simp [run, none], ?_⟩
      rw [fetch_missing succeeded, none]
      rfl
    · exact ⟨_, (run_eq_ok none).mpr ⟨responsive, fetched, succeeded, rfl⟩, rfl⟩

/-- A store which forgets to select: its accounts are repeated, unknown, or not identified. -/
def Store.unruly : Store Unit where
  org := "unruly"
  responsive := true
  describe _ _ := (.ok [Record.idField], ())
  query query _ := (.ok (if query.object == EntityType.account then
    [.ofFields [("Id", .text "")], .ofFields [("Id", .number (.integer 7))], .empty,
      .ofFields [("Id", .text "001000000000002")], .ofFields [("Id", .text "Account:0")],
      .ofFields [("Id", .text "001000000000009")], .ofFields [("Id", .text "001000000000002")]]
    else []), ())

/-- A requested account may have the key of synthetic records; a run would not take it. -/
theorem missing_accounts_agree_unruly :
    ∃ fetched,
      (fetch Store.unruly Config.empty ["", "001000000000002", "Account:0", "7"] FieldCache.empty
        ()).1 = .ok fetched ∧
      fetched.Accounts Config.empty.registry ["", "001000000000002", "Account:0", "7"] ∧
      fetched.missingAccountIds = ["", "7"] ∧
      ∃ result,
        (run Store.unruly Config.empty [] ["001000000000001", "Account:0", "001000000000002"]
          Run.defaultTimeout ()).1 = .ok result ∧
        result.Accounts ["001000000000001", "001000000000002"] ∧
        result.missingAccountIds = ["001000000000001"] := by
  obtain ⟨fetched, succeeded, absent⟩ := @Fixture.succeeds _ _
    (fetch Store.unruly Config.empty ["", "001000000000002", "Account:0", "7"] FieldCache.empty ()).1
    (fun fetched => fetched.missingAccountIds == ["", "7"]) (by decide +kernel)
  have taken : AccountId.sanitize ["001000000000001", "Account:0", "001000000000002"] =
      ["001000000000001", "001000000000002"] := by decide +kernel
  obtain ⟨own, ownSucceeded, ownAbsent⟩ := @Fixture.succeeds _ _
    (fetch Store.unruly Config.empty
      (AccountId.sanitize ["001000000000001", "Account:0", "001000000000002"]) FieldCache.empty ()).1
    (fun fetched => fetched.missingAccountIds == ["001000000000001"]) (by decide +kernel)
  obtain ⟨fetches, runs⟩ := missing_accounts_agree Store.unruly Config.empty
  obtain ⟨shows, succeeds⟩ := runs [] ["001000000000001", "Account:0", "001000000000002"]
    Run.defaultTimeout ()
  obtain ⟨result, ran, missing⟩ := succeeds own rfl ownSucceeded
  exact ⟨fetched, succeeded, fetches _ _ _ fetched succeeded, eq_of_beq absent, result, ran,
    taken ▸ shows result ran, missing.trans (eq_of_beq ownAbsent)⟩

end Run

end Dossier
