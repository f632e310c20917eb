import Dossier.Proofs.Graph.Resolving

/-!
What an account has of a type does not depend on other types.

It is found in the pool of that type, through nothing but the account's contacts.
-/

namespace Dossier.Resolver

variable {registry : Registry} {records others : List (String × List Record)}
  {linkSources otherSources : List (String × List LinkSource)} {object : String}

theorem pool_congr (same : others.lookup object = records.lookup object) :
    (Pools.ofRecords others).pool object = (Pools.ofRecords records).pool object := by
  have pooled := fun records => Table.lookup_map_snd records Pool.ofRecords object
  simp only [Pools.pool, Pools.ofRecords, pooled, same]

theorem route?_congr {type : EntityType} (same : others.lookup type.name = records.lookup type.name)
    (sources : otherSources.lookup type.name = linkSources.lookup type.name) :
    route? (Pools.ofRecords others) otherSources type =
      route? (Pools.ofRecords records) linkSources type := by
  simp only [route?, pool_congr same, sources]

theorem related_congr {resolver changed : Resolver}
    (pool : changed.pools.pool object = resolver.pools.pool object)
    (individual : changed.individualField = resolver.individualField) (accountId : String)
    (contacts : List Record) :
    changed.related accountId contacts object = resolver.related accountId contacts object := by
  have owners : changed.owners contacts = resolver.owners contacts := by
    funext path
    cases path with
    | contact => rfl
    | individual => simp only [Resolver.owners, individual]
  funext route
  cases route with
  | direct byAccount => simp only [related, collect, pool]
  | contactReference field => simp only [related, collect, pool]
  | contactPoint paths => simp only [related, collect, pool, owners]

theorem contacts_congr
    (same : others.lookup EntityType.contact = records.lookup EntityType.contact)
    (accountId : String) :
    (make registry others otherSources).contacts accountId =
      (make registry records linkSources).contacts accountId := by
  simp only [contacts, make, pool_congr same]

theorem account_congr
    (same : others.lookup EntityType.account = records.lookup EntityType.account)
    (accountId : String) :
    (make registry others otherSources).account accountId =
      (make registry records linkSources).account accountId := by
  simp only [account, make, pool_congr same]

/-- Whatever is known of one type, accounts have the same of every other one. -/
theorem resolve_apart (unique : (registry.objects.map (·.name)).Nodup) {removed : String}
    (notAccount : EntityType.account ≠ removed) (notContact : EntityType.contact ≠ removed)
    (same : ∀ object, object ≠ removed → others.lookup object = records.lookup object)
    (sources : ∀ object, object ≠ removed →
      otherSources.lookup object = linkSources.lookup object)
    (accountId : String) (apart : object ≠ removed) :
    ((make registry others otherSources).resolve accountId).records object =
      ((make registry records linkSources).resolve accountId).records object := by
  by_cases root : object = EntityType.account
  · subst root
    have account : (make registry others otherSources).account accountId =
        (make registry records linkSources).account accountId :=
      account_congr (same _ notAccount) accountId
    simp only [AccountGraph.records, resolve, AccountGraph.make, beq_self_eq_true, if_true, account]
  · have routes : (make registry others otherSources).routes.lookup object =
        (make registry records linkSources).routes.lookup object := by
      refine Table.lookup_of_filter_eq ?_ apart
      refine Table.filter_filterMap_congr (fun type other => ?_) (fun _ _ => route?_fst)
        (fun _ _ => route?_fst) _
      exact route?_congr (same _ other) (sources _ other)
    have contacts : (make registry others otherSources).contacts accountId =
        (make registry records linkSources).contacts accountId :=
      contacts_congr (same _ notContact) accountId
    have pool : (make registry others otherSources).pools.pool object =
        (make registry records linkSources).pools.pool object := pool_congr (same _ apart)
    rw [records_resolve unique accountId root, records_resolve unique accountId root, routes,
      contacts, related_congr pool rfl]

end Dossier.Resolver
