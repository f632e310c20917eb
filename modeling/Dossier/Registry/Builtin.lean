import Dossier.Registry

/-!
The registry which is used where a configuration brings none of its own.
-/

namespace Dossier.Registry

private def linkedTo (name label field : String) (others defaults : List String) : EntityType :=
  ⟨name, label, field :: others, .direct field, defaults⟩

private def contactPoint (name label value : String) : EntityType :=
  ⟨name, label, [], .contactPoint (some "Contact__c") (some "ParentId"),
    [value, "IsPrimary", "UsageType", "Status__c"]⟩

def builtin : Registry := ⟨[
  ⟨EntityType.account, "Account", [], .root,
    ["Name", "Type", "Industry", "BillingCity", "BillingCountry"]⟩,
  linkedTo "BillingProfile__c" "Billing Profile" "Account__c" []
    ["Name", "OwnerId", "CreatedDate", "LastModifiedDate"],
  linkedTo EntityType.contact "Contact" "AccountId" ["IndividualId"]
    ["FirstName", "LastName", "Email", "Phone", "Title"],
  linkedTo "Contract" "Contract" "AccountId" []
    ["ContractNumber", "Status", "StartDate", "EndDate", "OwnerId"],
  linkedTo "AccountContactRelation" "Account Contact Relation" "AccountId" ["ContactId"]
    ["Roles", "IsActive", "IsDirect", "StartDate", "EndDate"],
  linkedTo "Case" "Case" "AccountId" []
    ["CaseNumber", "Status", "Priority", "Origin", "Subject"],
  linkedTo "Order" "Order" "AccountId" []
    ["OrderNumber", "Status", "EffectiveDate", "TotalAmount", "OwnerId"],
  linkedTo "Sale__c" "Sale" "Account__c" []
    ["Name", "Account__c", "Status__c", "SaleStartDate__c", "CreatedDate"],
  ⟨EntityType.individual, "Individual", [], .contactReference "IndividualId",
    ["FirstName", "LastName", "HasOptedOutTracking", "HasOptedOutProfiling"]⟩,
  contactPoint "ContactPointPhone" "Contact Point Phone" "TelephoneNumber",
  contactPoint "ContactPointEmail" "Contact Point Email" "EmailAddress"]⟩

end Dossier.Registry
