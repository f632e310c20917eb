import Dossier.Proofs.AccountId
import Dossier.Proofs.Fetch.Isolation
import Dossier.Proofs.Join.Batch
import Dossier.Proofs.Layout
import Dossier.Proofs.Run.Likeness
import Dossier.Proofs.Run.Missing

/-!
Runs over a batch, and over one of its accounts.

Accounts do not influence each other.  What a run renders of one of its accounts is what a run over
this account alone renders of it, but for the order in which records were reached.
-/

namespace Dossier

namespace Fixture

variable {fixture : Fixture} {config : Config} {accountIds others : List String}

/-- Whether a type is known to the store does not depend on what is asked of it. -/
theorem accounts_sound_other {need : Fetching.Need} {object : String} (filled : accountIds ≠ [])
    (kept : (fixture.answers.typeYield config need object Record.idField accountIds).failure = none) :
    (fixture.answers.typeYield config need object Record.idField others).failure = none := by
  obtain ⟨-, -, -, known⟩ := typeYield_rows kept
  obtain ⟨knowsId, -⟩ := known filled
  exact typeYield_kept need knowsId knowsId

section Succeeds

variable (valid : config.registry.Valid)

include valid

/-- A fetch for some accounts goes through just as one for others: the accounts did not fail, and
whether they do has nothing to do with who is asked for. -/
theorem fetch_other {fetched : Fetched} (filled : accountIds ≠ [])
    (succeeded : (fetch fixture.store config accountIds FieldCache.empty ()).1 = .ok fetched) :
    ∃ other, (fetch fixture.store config others FieldCache.empty ()).1 = .ok other := by
  have truthful := FieldCache.truthful_empty fixture.org fixture.answers
  obtain ⟨type, -, named, root⟩ := valid.account
  have required : (fixture.answers.typeYield config .required EntityType.account Record.idField
      accountIds).failure = none := by
    rw [fetch_steady fixture.gives valid truthful] at succeeded
    cases settled : Fetching.settleAll config (fixture.answers.survey config accountIds).yields
        Warnings.empty with
    | error error => simp [settled, Except.map] at succeeded
    | ok whole =>
        have yields : fixture.Yields config accountIds type _ := accounts_yields valid named root
        have spared := Fetching.spared_of_settleAll settled _ yields.member
        unfold Fetching.Yield.fatal? at spared
        rw [Option.bind_eq_none_iff] at spared
        refine Option.eq_none_iff_forall_ne_some.mpr fun error failed => ?_
        have fatal := spared error failed
        simp [Answers.typeYield_need, Fetching.fatal?] at fatal
  exact fetch_of_accounts valid (accounts_sound_other filled required)

end Succeeds

/-- The plans for the types of the registry, as far as the store describes them. -/
def plans (fixture : Fixture) (config : Config) : List (String × ObjectPlan) :=
  config.registry.objects.filterMap fun type =>
    (fixture.answers.plan type.name config).toOption.map fun plan => (type.name, plan)

/-- How records of the store are displayed. -/
def layout (fixture : Fixture) (config : Config) : Layout :=
  Layout.make config (fixture.plans config)

theorem lookup_plans {type : EntityType}
    (member : type ∈ config.registry.objects) :
    (fixture.plans config).lookup type.name = (fixture.answers.plan type.name config).toOption := by
  have only : ∀ plan, (type.name, plan) ∈ fixture.plans config →
      (fixture.answers.plan type.name config).toOption = some plan := by
    intro plan listed
    obtain ⟨other, -, given⟩ := List.mem_filterMap.mp listed
    obtain ⟨own, planned, same⟩ := Option.map_eq_some_iff.mp given
    obtain ⟨named, rfl⟩ := Prod.mk.inj same
    exact named ▸ planned
  cases planned : (fixture.answers.plan type.name config).toOption with
  | none =>
      refine Table.lookup_eq_none fun listed => ?_
      obtain ⟨⟨key, plan⟩, there, named⟩ := List.mem_map.mp listed
      cases named
      simp [only plan there] at planned
  | some plan =>
      have entry : (type.name, plan) ∈ fixture.plans config :=
        List.mem_filterMap.mpr ⟨type, member, by rw [planned]; rfl⟩
      exact Table.lookup_of_only entry fun other there =>
        Option.some.inj ((only other there).symm.trans planned)

theorem layout_eq (valid : config.registry.Valid) {fetched : Fetched}
    (succeeded : (fetch fixture.store config accountIds FieldCache.empty ()).1 = .ok fetched) :
    Layout.make config fetched.plans = fixture.layout config := by
  refine Layout.make_congr fun key known => ?_
  have listed : ∃ type ∈ config.registry.objects, type.name = key := by
    rcases known with rfl | linked
    · obtain ⟨type, listed, named, -⟩ := valid.account
      exact ⟨type, listed, named⟩
    · obtain ⟨type, linked, named⟩ := List.mem_map.mp linked
      exact ⟨type, (Registry.mem_linked.mp linked).1, named⟩
  obtain ⟨type, member, rfl⟩ := listed
  rw [plan_eq valid succeeded member, lookup_plans member]

end Fixture

/-- The same is seen of an account in both payloads: the alerts which it triggers and, of every
displayed type, the records with what is displayed of them, whatever their order. -/
structure AccountPayload.SeenAlike (layout : Layout) (payload other : AccountPayload) : Prop where
  alerts : payload.alertIds = other.alertIds
  types : payload.related.map (·.1) = layout.visible.map (·.key)
  otherTypes : other.related.map (·.1) = layout.visible.map (·.key)
  records : ∀ object ∈ layout.visible,
    ((payload.records object.key).map (·.view object.fields)).Perm
      ((other.records object.key).map (·.view object.fields))

namespace Fixture

variable {fixture : Fixture} {config : Config} (valid : config.registry.Valid)
  (sound : fixture.Sound config.registry) {accountIds others : List String} {fetched other : Fetched}
  (here : fixture.Fetches config accountIds fetched) (there : fixture.Fetches config others other)
  {accountId : String}

include valid sound here

theorem render_addressed : Addressed
    ((fixture.layout config).render ((fetched.resolver config.registry).resolve accountId)).related := by
  refine Layout.render_addressed Layout.visible_unique (fun listed => ?_) fun object visible => ?_
  · obtain ⟨object, visible, account⟩ := List.mem_map.mp listed
    obtain ⟨type, linked, named⟩ := List.mem_map.mp (Layout.visible_linked object visible)
    exact valid.linked_ne_account linked (named.trans account)
  · obtain ⟨type, linked, named⟩ := List.mem_map.mp (Layout.visible_linked object visible)
    rw [← named, Fetched.records_eq_belonging valid linked]
    exact belonging_keys valid sound here (Registry.mem_linked.mp linked).1

include there

/-- Whoever else is asked for, the same is seen of an account. -/
theorem exploreAccount_other (asked : accountId ∈ accountIds) (askedThere : accountId ∈ others)
    (alerts : List AlertDefinition) :
    (Run.exploreAccount (fixture.layout config) (fetched.resolver config.registry) alerts
      accountId).SeenAlike (fixture.layout config)
        (Run.exploreAccount (fixture.layout config) (other.resolver config.registry) alerts
          accountId) := by
  have alike := resolve_other valid sound here there asked askedThere
  have triggered : List.Forall₂ Triggered.Alike
      (Run.triggered alerts ((fetched.resolver config.registry).resolve accountId))
      (Run.triggered alerts ((other.resolver config.registry).resolve accountId)) := by
    have every := @Run.triggered_alike _ _ _ alike (fun _ => true) alerts fun _ _ _ _ _ _ => trivial
    simpa only [List.filter_true] using every
  have addressed := @render_addressed fixture config valid sound accountIds fetched here accountId
  have addressedThere := @render_addressed fixture config valid sound others other there accountId
  refine ⟨?_, Run.exploreAccount_types addressed alerts, Run.exploreAccount_types addressedThere alerts,
    fun object visible => ?_⟩
  · rw [Run.exploreAccount_alertIds, Run.exploreAccount_alertIds]
    exact map_eq_of_forall₂ triggered fun _ _ same => same.id
  · obtain ⟨type, linked, named⟩ := List.mem_map.mp (Layout.visible_linked object visible)
    have records := belonging_perm valid sound here there (Registry.mem_linked.mp linked).1 asked
      askedThere
    rw [← Fetched.records_eq_belonging valid linked, ← Fetched.records_eq_belonging valid linked,
      named] at records
    rw [Run.exploreAccount_records addressed alerts visible,
      Run.exploreAccount_records addressedThere alerts visible, List.map_map, List.map_map]
    refine (records.map _).trans (List.Perm.of_eq (List.map_congr_left fun record _ => ?_))
    simp only [Function.comp_apply, ObjectLayout.view_render, RecordPayload.hits_alike triggered]

end Fixture

/-- The payload of an account stands among those of its batch, and once. -/
theorem Run.filter_accounts {accountIds : List String} (unique : accountIds.Nodup)
    {accountId : String} (asked : accountId ∈ accountIds) (layout : Layout) (resolver : Resolver)
    (alerts : List AlertDefinition) :
    (accountIds.map (exploreAccount layout resolver alerts)).filter (·.id == accountId) =
      [exploreAccount layout resolver alerts accountId] := by
  have own : ((fun payload : AccountPayload => payload.id == accountId) ∘
      exploreAccount layout resolver alerts) = (· == accountId) := by
    funext id
    rw [Function.comp_apply, exploreAccount_id]
  rw [List.filter_map, own, List.filter_beq, List.count_eq_one_of_mem unique asked]
  rfl

theorem Run.filter_accounts_untaken {accountIds : List String} {accountId : String}
    (untaken : accountId ∉ accountIds) (layout : Layout) (resolver : Resolver)
    (alerts : List AlertDefinition) :
    (accountIds.map (exploreAccount layout resolver alerts)).filter (·.id == accountId) = [] := by
  refine List.filter_eq_nil_iff.mpr fun payload member own => untaken ?_
  obtain ⟨id, taken, rfl⟩ := List.mem_map.mp member
  rw [exploreAccount_id, beq_iff_eq] at own
  exact own ▸ taken

/-- Accounts do not influence each other.  What a run over a batch finds of an account, as far as it
takes it, is what a run over this account alone finds of it. -/
theorem run_alone {fixture : Fixture} {config : Config} (valid : config.registry.validate = .ok ())
    (sound : fixture.Sound config.registry) {alerts : List AlertDefinition} {batch : List String}
    (identifiers : ∀ id ∈ batch, AccountId.isIdentifier id = true) {timeout : Duration}
    {result : RunResult} (ran : (run fixture.store config alerts batch timeout ()).1 = .ok result)
    {account : String} (taken : account ∈ (distinct batch).take AccountId.limit) :
    ∃ alone payload single,
      (run fixture.store config alerts [account] timeout ()).1 = .ok alone ∧
      (account ∈ result.missingAccountIds ↔ account ∈ alone.missingAccountIds) ∧
      result.data.objects = (fixture.layout config).views ∧
      alone.data.objects = (fixture.layout config).views ∧
      result.data.accounts.filter (·.id == account) = [payload] ∧
      alone.data.accounts = [single] ∧
      payload.SeenAlike (fixture.layout config) single := by
  have registered := Registry.validate_eq_ok.mp valid
  have asked : account ∈ AccountId.sanitize batch := by
    rw [AccountId.sanitize_of_identifiers identifiers]
    exact taken
  have identifier : AccountId.isIdentifier account = true :=
    identifiers account (mem_distinct.mp (List.mem_of_mem_take taken))
  have single : AccountId.sanitize [account] = [account] := AccountId.sanitize_singleton identifier
  obtain ⟨-, fetched, succeeded, rfl⟩ := (run_eq_ok (List.ne_nil_of_mem asked)).mp ran
  obtain ⟨other, otherSucceeded⟩ := @Fixture.fetch_other fixture config _ [account] registered fetched
    (List.ne_nil_of_mem asked) succeeded
  have here : fixture.Fetches config (AccountId.sanitize batch) fetched :=
    ⟨AccountId.sanitize_nodup batch, succeeded⟩
  have there : fixture.Fetches config [account] other := ⟨List.nodup_singleton account, otherSucceeded⟩
  have layout := Fixture.layout_eq registered succeeded
  have layoutThere := Fixture.layout_eq registered otherSucceeded
  have accounts := fetch_accountIds succeeded
  have accountsThere := fetch_accountIds otherSucceeded
  have alone : account ∈ [account] := List.mem_singleton_self account
  refine ⟨Run.explore config alerts other, _, _, (run_eq_ok (by simp [single])).mpr
    ⟨rfl, other, by rw [single]; exact otherSucceeded, rfl⟩, ?_, congrArg Layout.views layout,
    congrArg Layout.views layoutThere, ?_, ?_,
    Fixture.exploreAccount_other registered sound here there asked alone alerts⟩
  · refine (mem_missing succeeded asked).trans ?_
    refine Iff.trans (not_congr ?_) (mem_missing otherSucceeded alone).symm
    constructor
    · rintro ⟨record, member, identified⟩
      exact ⟨record, Fixture.mem_account_other registered sound here there alone member identified,
        identified⟩
    · rintro ⟨record, member, identified⟩
      exact ⟨record, Fixture.mem_account_other registered sound there here asked member identified,
        identified⟩
  · simp only [Run.explore, layout, accounts]
    exact Run.filter_accounts here.unique asked _ _ alerts
  · simp only [Run.explore, layoutThere, accountsThere]
    rfl

/-- Of two emails of an individual, the second one belongs to a contact of another account, too. -/
def sharedEmails : Fixture where
  org := "fixture"
  described := []
  rows := [
    (EntityType.account, [.object [("Id", .text "001000000000001")],
      .object [("Id", .text "001000000000002")]]),
    (EntityType.contact, [
      .object [("Id", .text "c1"), ("AccountId", .text "001000000000001"), ("Person", .text "i1")],
      .object [("Id", .text "c2"), ("AccountId", .text "001000000000002"), ("Person", .null)]]),
    (EntityType.individual, [.object [("Id", .text "i1")]]),
    ("Email", [.object [("Id", .text "e1"), ("Contact", .null), ("Owner", .text "i1")],
      .object [("Id", .text "e2"), ("Contact", .text "c2"), ("Owner", .text "i1")]])]

/-- Nothing is chosen but the registry. -/
def kinConfig : Config := { Config.empty with override := some Fetched.kin }

/-- An alert on emails of contacts. -/
def ownedEmail : AlertDefinition :=
  ⟨"owned", "Owned", none, .simple, .simple [⟨"Email", [⟨"Contact", .notBlank, none⟩]⟩]⟩

/-- In a batch the contacts of the other account come first, so that the emails change their places. -/
theorem run_alone_sharedEmails :
    ∃ result alone payload single,
      (run sharedEmails.store kinConfig [ownedEmail] ["001000000000001", "001000000000002"]
        Run.defaultTimeout ()).1 = .ok result ∧
      (run sharedEmails.store kinConfig [ownedEmail] ["001000000000001"]
        Run.defaultTimeout ()).1 = .ok alone ∧
      result.data.accounts.filter (·.id == "001000000000001") = [payload] ∧
      alone.data.accounts = [single] ∧
      payload.SeenAlike (sharedEmails.layout kinConfig) single ∧
      (payload.records "Email").map (·.recordKey) = ["e2", "e1"] ∧
      (single.records "Email").map (·.recordKey) = ["e1", "e2"] := by
  obtain ⟨result, ran, reordered⟩ := @Fixture.succeeds _ _
    (run sharedEmails.store kinConfig [ownedEmail] ["001000000000001", "001000000000002"]
      Run.defaultTimeout ()).1 (fun result =>
        (result.data.accounts.filter (·.id == "001000000000001")).map (fun payload =>
          (payload.records "Email").map (·.recordKey)) == [["e2", "e1"]]) (by decide +kernel)
  obtain ⟨known, knownRan, ordered⟩ := @Fixture.succeeds _ _
    (run sharedEmails.store kinConfig [ownedEmail] ["001000000000001"] Run.defaultTimeout ()).1
    (fun alone => alone.data.accounts.map (fun payload =>
      (payload.records "Email").map (·.recordKey)) == [["e1", "e2"]]) (by decide +kernel)
  have taken : "001000000000001" ∈
      (distinct ["001000000000001", "001000000000002"]).take AccountId.limit := by decide +kernel
  obtain ⟨alone, payload, single, aloneRan, -, -, -, found, only, alike⟩ :=
    run_alone (by decide +kernel) (by decide +kernel) (by decide +kernel) ran taken
  cases Except.ok.inj (knownRan.symm.trans aloneRan)
  rw [found] at reordered
  rw [only] at ordered
  exact ⟨result, known, payload, single, ran, knownRan, found, only, alike,
    List.singleton_inj.mp (eq_of_beq reordered), List.singleton_inj.mp (eq_of_beq ordered)⟩

/-- What the identifiers of a crowd have in common. -/
def accountStart : List Char :=
  ['0', '0', '1', '0', '0', '0', '0', '0', '0', '0', '0']

/-- An account for each number. -/
def numberedAccount (n : Nat) : String :=
  String.ofList (accountStart ++ Nat.toDigits 10 (1000 + n))

theorem numberedAccount_injective : Function.Injective numberedAccount := by
  intro n m same
  have digits : Nat.toDigits 10 (1000 + n) = Nat.toDigits 10 (1000 + m) :=
    List.append_cancel_left (String.ofList_injective same)
  have read := congrArg (Nat.ofDigitChars 10 · 0) digits
  simp only [Nat.ofDigitChars_toDigits (by decide : 1 < 10) (by decide : 10 ≤ 10)] at read
  exact Nat.add_left_cancel read

/-- One account more than a run takes. -/
def crowd : List String :=
  (List.range (AccountId.limit + 1)).map numberedAccount

theorem isIdentifier_digits {digits : List Char} (length : digits.length = 4)
    (alphanum : digits.all Char.isAlphanum = true) :
    AccountId.isIdentifier (String.ofList (accountStart ++ digits)) = true := by
  have start : accountStart.length = 11 ∧ accountStart.all Char.isAlphanum = true := by decide
  rw [AccountId.isIdentifier, String.toList_ofList]
  simp [start, length, alphanum]

theorem crowd_identifiers : ∀ id ∈ crowd, AccountId.isIdentifier id = true := by
  have digits : ∀ n ∈ List.range (AccountId.limit + 1),
      (Nat.toDigits 10 (1000 + n)).length = 4 ∧
        (Nat.toDigits 10 (1000 + n)).all Char.isAlphanum = true := by decide +kernel
  rw [crowd, List.forall_mem_map]
  exact fun n member => isIdentifier_digits (digits n member).1 (digits n member).2

theorem sanitize_crowd :
    AccountId.sanitize crowd = (List.range AccountId.limit).map numberedAccount := by
  have unique : crowd.Nodup := List.nodup_range.map numberedAccount_injective
  rw [AccountId.sanitize_of_identifiers crowd_identifiers, distinct_of_nodup unique, crowd,
    ← List.map_take, List.take_range]
  rfl

/-- The last account of the crowd. -/
def lastAccount : String := numberedAccount AccountId.limit

theorem lastAccount_untaken : lastAccount ∉ AccountId.sanitize crowd := by
  rw [sanitize_crowd]
  intro taken
  obtain ⟨n, member, same⟩ := List.mem_map.mp taken
  rw [numberedAccount_injective same] at member
  exact absurd (List.mem_range.mp member) (Nat.lt_irrefl _)

/-- The last account has a contact. -/
def crowded : Fixture where
  org := "fixture"
  described := [(EntityType.account, ["Id"]), (EntityType.contact, ["Id", "AccountId", "Person"])]
  rows := [(EntityType.contact, [.object [("Id", .text "c1"), ("AccountId", .text lastAccount)]])]

/-- An alert on contacts of the account. -/
def anyContact : AlertDefinition :=
  ⟨"contacted", "Contacted", none, .simple, .simple [⟨"Contact", [⟨"Id", .notBlank, none⟩]⟩]⟩

/-- Of more accounts than a run takes, the last one is explored by a run of its own only. -/
theorem run_alone_crowd :
    kinConfig.registry.validate = .ok () ∧ crowded.Sound kinConfig.registry ∧
      (∀ id ∈ crowd, AccountId.isIdentifier id = true) ∧ lastAccount ∈ crowd ∧
      ∃ result alone,
        (run crowded.store kinConfig [anyContact] crowd Run.defaultTimeout ()).1 = .ok result ∧
        (run crowded.store kinConfig [anyContact] [lastAccount] Run.defaultTimeout ()).1 =
          .ok alone ∧
        result.data.accounts.filter (·.id == lastAccount) = [] ∧
        alone.data.accounts.map (fun payload => (payload.id, payload.alertIds)) =
          [(lastAccount, ["contacted"])] := by
  have valid : kinConfig.registry.validate = .ok () := by decide +kernel
  have listed : lastAccount ∈ crowd := List.mem_map_of_mem List.self_mem_range_succ
  have single : AccountId.sanitize [lastAccount] = [lastAccount] :=
    AccountId.sanitize_singleton (crowd_identifiers lastAccount listed)
  obtain ⟨alone, aloneRan, present⟩ := @Fixture.succeeds _ _
    (run crowded.store kinConfig [anyContact] [lastAccount] Run.defaultTimeout ()).1
    (fun alone => alone.data.accounts.map (fun payload => (payload.id, payload.alertIds)) ==
      [(lastAccount, ["contacted"])]) (by decide +kernel)
  obtain ⟨-, own, succeeded, -⟩ := (run_eq_ok (by simp [single])).mp aloneRan
  obtain ⟨fetched, crowdSucceeded⟩ := @Fixture.fetch_other crowded kinConfig _
    (AccountId.sanitize crowd) (Registry.validate_eq_ok.mp valid) own (by simp [single]) succeeded
  have filled : AccountId.sanitize crowd ≠ [] := by
    rw [sanitize_crowd]
    decide
  refine ⟨valid, by decide +kernel, crowd_identifiers, listed,
    Run.explore kinConfig [anyContact] fetched, alone,
    (run_eq_ok filled).mpr ⟨rfl, fetched, crowdSucceeded, rfl⟩, aloneRan, ?_, eq_of_beq present⟩
  simp only [Run.explore, fetch_accountIds crowdSucceeded]
  exact Run.filter_accounts_untaken lastAccount_untaken _ _ _

end Dossier
