import Dossier.Proofs.Alert.Sanitize.Rule

/-!
Definitions with identifiers of their own.

Cleaning goes through the alerts of a document with the definitions before the next one in hand.
Each step adds at most one definition, which is well formed and whose identifier none before it has,
as long as the supply of identifiers is what it should be.
-/

namespace Dossier.Sanitize

structure Draft.WellFormed (draft : Draft) : Prop where
  id : ∀ id, draft.id = some id → Text.Tidy id
  label : Text.Tidy draft.label
  description : ∀ text, draft.description = some text → Text.Tidy text
  rule : draft.rule.WellFormed

theorem simple_wellFormed {cleaned : Cleaned (List FilterGroup)} {rule : AlertRule}
    (sound : ∀ groups, cleaned.value = some groups → ∀ group ∈ groups, group.WellFormed)
    (left : (AlertRule.simple <$> cleaned.nonEmpty).value = some rule) : rule.WellFormed := by
  rw [Cleaned.map_value, Option.map_eq_some_iff] at left
  obtain ⟨groups, kept, rfl⟩ := left
  obtain ⟨collected, filled⟩ := Cleaned.nonEmpty_value.mp kept
  exact .simple filled (sound groups collected)

theorem writtenRule_wellFormed {location : Location} {members : Members} {cleaned : AlertRule}
    (left : (writtenRule location members).value = some cleaned) : cleaned.WellFormed := by
  unfold writtenRule at left
  split at left
  · exact simple_wellFormed (fun groups => filterGroups_wellFormed) left
  · rw [Cleaned.map_value, Option.map_eq_some_iff] at left
    obtain ⟨root, left, rfl⟩ := left
    exact .advanced (node_wellFormed left)
  · exact simple_wellFormed (fun groups => ownFilters_wellFormed) left
  · exact simple_wellFormed (fun groups => ownFilters_wellFormed) left
  · contradiction

theorem draft_wellFormed {location : Location} {json : Json} {cleaned : Draft}
    (left : (draft location json).value = some cleaned) : cleaned.WellFormed := by
  simp only [draft, Cleaned.bind_value, Cleaned.pure_value, Cleaned.ofOption_value,
    Option.bind_eq_bind, Option.bind_eq_some_iff, Option.some.injEq] at left
  obtain ⟨members, _, label, ⟨_, _, labelled⟩, cleanedRule, ruled, rfl⟩ := left
  rw [rule, Cleaned.needed_value] at ruled
  exact ⟨fun id => member_tidy, nonBlank?_tidy labelled, fun text => member_tidy,
    writtenRule_wellFormed ruled⟩

/-- Does the definition receive an identifier of the supply? -/
def Draft.isSupplied (before : List AlertDefinition) (draft : Draft) : Bool :=
  match draft.id with
  | none => true
  | some id => inUse before id

/-- An identifier which may be given to the next definition. -/
def Available (before : List AlertDefinition) (id : String) : Prop :=
  Text.Tidy id ∧ inUse before id = false

instance (before : List AlertDefinition) (id : String) : Decidable (Available before id) :=
  inferInstanceAs (Decidable (_ ∧ _))

/-- The supply is fresh for alerts from the one at `index` on: an identifier is trimmed, not empty
and not in use when it is handed out. -/
def FreshFrom (fresh : Nat → String) (index next : Nat) (before : List AlertDefinition) :
    List Json → Prop
  | [] => True
  | json :: rest =>
      match (draft (Location.root.item index) json).value with
      | none => FreshFrom fresh (index + 1) next before rest
      | some draft =>
          let identified := identify fresh before next (Location.root.item index) draft
          (draft.isSupplied before = true → Available before (fresh next)) ∧
            FreshFrom fresh (index + 1) identified.2.2 (before ++ [identified.1]) rest

/-- The supply is fresh for a document. -/
def FreshFor (fresh : Nat → String) : Json → Prop
  | .array alerts => FreshFrom fresh 0 0 [] alerts
  | _ => True

instance decidableFreshFrom (fresh : Nat → String) :
    ∀ (index next : Nat) (before : List AlertDefinition) (alerts : List Json),
      Decidable (FreshFrom fresh index next before alerts)
  | _, _, _, [] => .isTrue trivial
  | index, next, before, json :: rest =>
      match left : (draft (Location.root.item index) json).value with
      | none =>
          have := decidableFreshFrom fresh (index + 1) next before rest
          decidable_of_iff (FreshFrom fresh (index + 1) next before rest) (by rw [FreshFrom, left])
      | some draft =>
          let identified := identify fresh before next (Location.root.item index) draft
          have := decidableFreshFrom fresh (index + 1) identified.2.2 (before ++ [identified.1]) rest
          decidable_of_iff
            ((draft.isSupplied before = true → Available before (fresh next)) ∧
              FreshFrom fresh (index + 1) identified.2.2 (before ++ [identified.1]) rest)
            (by rw [FreshFrom, left])

instance (fresh : Nat → String) : ∀ document, Decidable (FreshFor fresh document)
  | .array alerts => decidableFreshFrom fresh 0 0 [] alerts
  | .scalar _ | .object _ => .isTrue trivial

theorem identify_withId (fresh : Nat → String) (before : List AlertDefinition) (next : Nat)
    (location : Location) (draft : Draft) :
    (identify fresh before next location draft).1 =
      draft.withId (identify fresh before next location draft).1.id := by
  unfold identify
  split
  · rfl
  · split <;> rfl

theorem identify_available {fresh : Nat → String} {before : List AlertDefinition} {next : Nat}
    (location : Location) {draft : Draft} (sound : draft.WellFormed)
    (supply : draft.isSupplied before = true → Available before (fresh next)) :
    Available before (identify fresh before next location draft).1.id := by
  cases given : draft.id with
  | none =>
      simp only [identify, given]
      exact supply (by simp [Draft.isSupplied, given])
  | some id =>
      cases taken : inUse before id with
      | true =>
          simp only [identify, given, taken, if_true]
          exact supply (by simp [Draft.isSupplied, given, taken])
      | false =>
          simp only [identify, given, taken, Bool.false_eq_true, if_false]
          exact ⟨sound.id id given, taken⟩

theorem alertsFrom_wellFormed {fresh : Nat → String} {index next : Nat}
    {before : List AlertDefinition} {alerts : List Json}
    (sound : ∀ alert ∈ before, alert.WellFormed) :
    ∀ alert ∈ (alertsFrom fresh index next before alerts).alerts, alert.WellFormed := by
  induction alerts generalizing index next before with
  | nil => exact sound
  | cons json rest ih =>
      rw [alertsFrom]
      cases left : (draft (Location.root.item index) json).value with
      | none => exact ih sound
      | some draft =>
          have whole := draft_wellFormed left
          refine ih fun alert member => ?_
          rcases List.mem_append.mp member with earlier | last
          · exact sound alert earlier
          · rw [List.mem_singleton.mp last, identify_withId]
            exact ⟨whole.label, whole.description, rfl, whole.rule⟩

theorem sanitizeAlerts_wellFormed (fresh : Nat → String) (document : Json) :
    ∀ alert ∈ (sanitizeAlerts fresh document).alerts, alert.WellFormed := by
  unfold sanitizeAlerts
  split
  · simp
  · exact alertsFrom_wellFormed (by simp)
  · simp

/-- Identifiers which are trimmed and not empty, no two of them the same. -/
structure Identified (alerts : List AlertDefinition) : Prop where
  named : ∀ alert ∈ alerts, Text.Tidy alert.id
  unique : (alerts.map (·.id)).Nodup

theorem not_mem_of_not_inUse {alerts : List AlertDefinition} {id : String}
    (free : inUse alerts id = false) : id ∉ alerts.map (·.id) := by
  intro member
  obtain ⟨alert, inside, rfl⟩ := List.mem_map.mp member
  have different := List.any_eq_false.mp free alert inside
  simp at different

theorem not_inUse_of_unique {before rest : List AlertDefinition} {alert : AlertDefinition}
    (unique : ((before ++ alert :: rest).map (·.id)).Nodup) : inUse before alert.id = false := by
  refine List.any_eq_false.mpr fun other member => ?_
  rw [List.map_append, List.map_cons, List.nodup_append] at unique
  have different := unique.2.2 other.id (List.mem_map_of_mem member) alert.id List.mem_cons_self
  simpa using different

theorem Identified.add {before : List AlertDefinition} (identified : Identified before)
    {alert : AlertDefinition} (available : Available before alert.id) :
    Identified (before ++ [alert]) := by
  constructor
  · intro other member
    rcases List.mem_append.mp member with earlier | last
    · exact identified.named other earlier
    · rw [List.mem_singleton.mp last]
      exact available.1
  · rw [List.map_append, List.map_singleton, ← List.concat_eq_append]
    exact List.Nodup.concat (not_mem_of_not_inUse available.2) identified.unique

theorem alertsFrom_identified {fresh : Nat → String} {index next : Nat}
    {before : List AlertDefinition} {alerts : List Json}
    (supply : FreshFrom fresh index next before alerts) (identified : Identified before) :
    Identified (alertsFrom fresh index next before alerts).alerts := by
  induction alerts generalizing index next before with
  | nil => exact identified
  | cons json rest ih =>
      rw [FreshFrom] at supply
      rw [alertsFrom]
      cases left : (draft (Location.root.item index) json).value with
      | none =>
          simp only [left] at supply ⊢
          exact ih supply identified
      | some draft =>
          simp only [left] at supply ⊢
          have available := identify_available (Location.root.item index)
            (draft_wellFormed left) supply.1
          exact ih supply.2 (identified.add available)

theorem sanitizeAlerts_identified {fresh : Nat → String} {document : Json}
    (supply : FreshFor fresh document) : Identified (sanitizeAlerts fresh document).alerts := by
  have empty : Identified [] := ⟨by simp, by simp⟩
  unfold sanitizeAlerts
  split
  · exact empty
  · exact alertsFrom_identified supply empty
  · exact empty

/-- A supply which numbers its identifiers. -/
def numbered (n : Nat) : String := "generated:" ++ toString n

/-- A simple rule with a filter that is dropped, a tree, an alert of the older form whose identifier
is in use, and an alert without a label. -/
def watchlist : Json := .array [
  .object [("label", .text " Open cases "), ("rule", .array [
    .object [("object", .text "Case"), ("filters", .array [
      .object [("field", .text " Status"), ("operator", .text "Equals"), ("value", .text " open ")],
      .object [("field", .text "Status"), ("operator", .text "resembles")]])]])],
  .object [("id", .text "phones"), ("label", .text "Phones"), ("description", .text " All of them "),
    ("rule", .object [("logic", .text "or"), ("children", .array [
      .object [("object", .text "ContactPointPhone"), ("match", .text "not-all"),
        ("children", .array [.object [("object", .text "ContactPointPhone"),
          ("field", .text "IsPrimary"), ("operator", .text "not_null"), ("value", .text "x")]])],
      .object [("minCount", .text " 3 "), ("object", .text "Contact"), ("field", .text "Email"),
        ("distinctField", .text "LastName"), ("criteria", .object [("object", .text "Contact"),
          ("field", .text "Email"), ("operator", .text "not_blank")])]])])],
  .object [("id", .text " phones "), ("label", .text "Again"), ("filters", .array [
    .object [("object", .text "Case"), ("field", .text "Status"), ("operator", .text "blank")]])],
  .object [("id", .text "silent")]]

end Dossier.Sanitize
