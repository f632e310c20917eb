import Dossier.Proofs.Alert.Sanitize.Supply
import Dossier.Proofs.Alert.SimpleAsTree

/-!
Filters may be grouped in any way.

A simple rule gathers its filters by object before it looks at a record, so that it says the same
with one group for each object.  Filters of the older form are gathered when they are cleaned, and
those of groups when they are evaluated: an alert of the older form says what it says with a group
for each of its filters.
-/

namespace Dossier

namespace FilterGroup

variable {groups : List FilterGroup}

/-- One group for each object, in order of first appearance, with all filters on it. -/
def gathered (groups : List FilterGroup) : List FilterGroup :=
  (objects groups).map fun object => ⟨object, filtersOf groups object⟩

theorem objects_gathered (groups : List FilterGroup) :
    objects (gathered groups) = objects groups := by
  have named : (gathered groups).map (·.object) = objects groups := by
    simp [gathered, Function.comp_def]
  rw [objects, named]
  exact distinct_of_nodup (nodup_distinct _)

theorem filtersOf_gathered {object : String} (about : object ∈ objects groups) :
    filtersOf (gathered groups) object = filtersOf groups object := by
  have unique : (objects groups).Nodup := nodup_distinct _
  have once : (objects groups).filter (· == object) = [object] := by
    rw [List.filter_beq, List.count_eq_one_of_mem unique about, List.replicate_one]
  rw [filtersOf, gathered, List.filter_map]
  simp only [Function.comp_def, once, List.map_singleton, List.flatMap_singleton]

theorem gathered_isEmpty (groups : List FilterGroup) :
    (gathered groups).isEmpty = groups.isEmpty := by
  cases groups with
  | nil => rfl
  | cons group rest => simpa [gathered] using objects_ne_nil (List.cons_ne_nil group rest)

theorem byObject_gathered (groups : List FilterGroup) :
    byObject (gathered groups) = byObject groups := by
  rw [byObject_eq, byObject_eq, objects_gathered]
  exact List.map_congr_left fun object about => by rw [filtersOf_gathered about]

theorem verdict_gathered (groups : List FilterGroup) (graph : AccountGraph) :
    FilterGroup.verdict (gathered groups) graph = FilterGroup.verdict groups graph := by
  rw [FilterGroup.verdict, FilterGroup.verdict, byObject_gathered]

theorem check_gathered (checked : (AlertRule.simple groups).check = .ok ()) :
    (AlertRule.simple (gathered groups)).check = .ok () := by
  obtain ⟨some, sound⟩ := AlertRule.check_simple_eq_ok.mp checked
  refine AlertRule.check_simple_eq_ok.mpr ⟨?_, fun group member filter inside => ?_⟩
  · simpa [gathered] using objects_ne_nil some
  · obtain ⟨object, -, rfl⟩ := List.mem_map.mp member
    obtain ⟨written, listed, rfl, stated⟩ := mem_filtersOf.mp inside
    exact sound written listed filter stated

/-- A group as an entry of the table in which the evaluator gathers filters. -/
def entry (group : FilterGroup) : String × List Filter :=
  (group.object, group.filters)

theorem joinGroup_entries (groups : List FilterGroup) (group : FilterGroup) :
    (Sanitize.joinGroup groups group).map entry =
      Table.put group.object
        (((groups.map entry).lookup group.object).getD [] ++ group.filters) (groups.map entry) := by
  induction groups with
  | nil => rfl
  | cons first rest ih =>
      rw [Sanitize.joinGroup, List.map_cons, Table.put, List.lookup_cons]
      by_cases same : first.object = group.object
      · simp [entry, same]
      · have apart : (group.object == first.object) = false := beq_false_of_ne (Ne.symm same)
        simp [entry, same, apart, ih]

/-- The sanitizer gathers as the evaluator does. -/
theorem foldl_joinGroup (groups : List FilterGroup) :
    groups.foldl Sanitize.joinGroup [] = gathered groups := by
  have steps (start : List FilterGroup) :
      (groups.foldl Sanitize.joinGroup start).map entry =
        groups.foldl (fun objects group =>
          Table.put group.object ((objects.lookup group.object).getD [] ++ group.filters) objects)
          (start.map entry) := by
    induction groups generalizing start with
    | nil => rfl
    | cons group rest ih => rw [List.foldl_cons, ih, joinGroup_entries, List.foldl_cons]
  have injective : Function.Injective entry := by
    rintro ⟨object, filters⟩ ⟨_, _⟩ ⟨⟩
    rfl
  apply List.map_injective_iff.mpr injective
  calc
    (groups.foldl Sanitize.joinGroup []).map entry = byObject groups := steps []
    _ = (gathered groups).map entry := by
      rw [byObject_eq, gathered, List.map_map]
      rfl

end FilterGroup

namespace Sanitize

/-- An alert of the older form, all of whose filters are objects. -/
structure Older (members : Members) (filters : List Members) : Prop where
  ruleless : members.lookup "rule" = none ∨ members.lookup "rule" = some .null
  given : members.lookup "filters" = some (.array (filters.map .object))

/-- The members of these names. -/
def chosen (names : List String) (members : Members) : Members :=
  members.filter fun member => names.contains member.1

/-- A filter of the older form as a group, with the object for the group and the rest for its one
filter. -/
def asGroup (members : Members) : Json :=
  .object (("filters", .array [.object (chosen ["field", "operator", "value"] members)]) ::
    chosen ["object"] members)

/-- The alert with a rule of one group for each of its filters. -/
def withGroups (members : Members) (filters : List Members) : Json :=
  .object (Table.put "rule" (.array (filters.map asGroup)) members)

theorem lookup_chosen {names : List String} {wanted : String} (among : wanted ∈ names)
    (members : Members) : (chosen names members).lookup wanted = members.lookup wanted := by
  induction members with
  | nil => rfl
  | cons member rest ih =>
      obtain ⟨name, json⟩ := member
      rw [chosen, List.filter_cons]
      by_cases own : wanted = name
      · subst own
        simp [among]
      · have skipped : (wanted == name) = false := beq_false_of_ne own
        split <;> simpa only [List.lookup_cons, skipped, chosen] using ih

section Values

variable {members others : Members} {place elsewhere : Location}

theorem name_value (place : Location) (property what : String) (members : Members) :
    (name place property what members).value = (members.lookup property >>= nonBlank?) := by
  rw [name, Cleaned.ofOption_value]

theorem operator_value_congr (same : others.lookup "operator" = members.lookup "operator") :
    (operator elsewhere others).value = (operator place members).value := by
  unfold operator
  rw [same]
  split <;> simp only [Cleaned.ofOption_value, Cleaned.drop]

theorem value_value_congr (same : others.lookup "value" = members.lookup "value")
    (operator : Operator) :
    (value elsewhere operator others).value = (value place operator members).value := by
  unfold value
  rw [same]
  split
  · split
    · split <;> rfl
    · rfl
  · rfl

/-- What is left of a filter depends on three members, and not on where it stands. -/
theorem filter_value_congr
    (same : ∀ name ∈ ["field", "operator", "value"], others.lookup name = members.lookup name) :
    (filter elsewhere others).value = (filter place members).value := by
  have field := same "field" (by decide)
  have operator : (operator elsewhere others).value = (operator place members).value :=
    operator_value_congr (same "operator" (by decide))
  have value : ∀ operator, (value elsewhere operator others).value =
      (value place operator members).value :=
    value_value_congr (same "value" (by decide))
  simp only [filter, Cleaned.bind_value, name_value, field, operator, value]

theorem collectSome_singleton_value {α : Type} (place : Location) (kind : String)
    (cleaned : Cleaned α) :
    (Cleaned.collectSome place kind [cleaned]).value = cleaned.value.map fun value => [value] := by
  rw [Cleaned.collectSome, Cleaned.needed_value, Cleaned.nonEmpty, Cleaned.collect_value]
  cases found : cleaned.value <;> simp [found]

/-- What is left of a filter of the older form is left of its group. -/
theorem asGroup_value (members : Members) (place elsewhere : Location) :
    (filterGroup elsewhere (asGroup members)).value = (ownFilter place (.object members)).value := by
  have named : List.lookup "object" (("filters",
      Json.array [.object (chosen ["field", "operator", "value"] members)]) ::
        chosen ["object"] members) = members.lookup "object" :=
    lookup_chosen (List.mem_singleton_self _) members
  have listed : items (List.lookup "filters" (("filters",
      Json.array [.object (chosen ["field", "operator", "value"] members)]) ::
        chosen ["object"] members)) =
      [.object (chosen ["field", "operator", "value"] members)] := rfl
  have kept : (filter ((elsewhere.property "filters").item 0)
      (chosen ["field", "operator", "value"] members)).value = (filter place members).value :=
    filter_value_congr fun _ among => lookup_chosen among members
  simp only [filterGroup, ownFilter, asGroup, object, Cleaned.sound_bind, Cleaned.bind_value,
    name_value, named, listed, each, List.mapIdx_cons, List.mapIdx_nil,
    collectSome_singleton_value, kept, Cleaned.pure_value]
  cases members.lookup "object" >>= nonBlank? with
  | none => rfl
  | some type => cases (filter place members).value <;> rfl

theorem each_values {α β γ δ : Type} {clean : Location → α → Cleaned γ}
    {cleanOther : Location → β → Cleaned γ} {write : δ → α} {writeOther : δ → β} {items : List δ}
    (same : ∀ item place elsewhere,
      (cleanOther elsewhere (writeOther item)).value = (clean place (write item)).value)
    (place elsewhere : Location) :
    (each elsewhere cleanOther (items.map writeOther)).filterMap (·.value) =
      (each place clean (items.map write)).filterMap (·.value) := by
  have values : (each elsewhere cleanOther (items.map writeOther)).map (·.value) =
      (each place clean (items.map write)).map (·.value) := by
    refine List.ext_getElem (by simp [each]) fun index _ _ => ?_
    simp only [each, List.getElem_map, List.getElem_mapIdx]
    exact same _ _ _
  have kept := congrArg (·.filterMap id) values
  simpa only [List.filterMap_map, Function.comp_def, id] using kept

end Values

section Rules

variable {members : Members} {filters : List Members} {place : Location}

/-- The groups of one filter each which are left. -/
def singles (place : Location) (filters : List Members) : List FilterGroup :=
  (each place ownFilter (filters.map .object)).filterMap (·.value)

theorem simple_nonEmpty_value {cleaned : Cleaned (List FilterGroup)} {groups : List FilterGroup}
    (left : cleaned.value = some groups) :
    (AlertRule.simple <$> cleaned.nonEmpty).value =
      if groups.isEmpty then none else some (.simple groups) := by
  rw [Cleaned.map_value, Cleaned.nonEmpty, left]
  cases groups <;> rfl

theorem older_value (older : Older members filters) :
    (writtenRule place members).value =
      if (singles (place.property "filters") filters).isEmpty then none
      else some (.simple (FilterGroup.gathered (singles (place.property "filters") filters))) := by
  have left : (ownFilters (place.property "filters") (filters.map .object)).value =
      some (FilterGroup.gathered (singles (place.property "filters") filters)) := by
    rw [ownFilters, Cleaned.bind_value, Cleaned.collect_value, ← FilterGroup.foldl_joinGroup]
    rfl
  have written : writtenRule place members = AlertRule.simple <$>
      (ownFilters (place.property "filters") (filters.map .object)).nonEmpty := by
    rcases older.ruleless with missing | null
    · simp only [writtenRule, missing, older.given]
    · simp only [writtenRule, null, older.given]
  rw [written, simple_nonEmpty_value left, FilterGroup.gathered_isEmpty]

theorem withGroups_value (place : Location) (members : Members) (filters : List Members) :
    (writtenRule place (Table.put "rule" (.array (filters.map asGroup)) members)).value =
      if (singles (place.property "filters") filters).isEmpty then none
      else some (.simple (singles (place.property "filters") filters)) := by
  have left : (filterGroups (place.property "rule") (filters.map asGroup)).value =
      some (singles (place.property "filters") filters) := by
    rw [filterGroups, Cleaned.collect_value, singles]
    exact congrArg some (each_values (fun item _ _ => asGroup_value item _ _) _ _)
  have written : writtenRule place (Table.put "rule" (.array (filters.map asGroup)) members) =
      AlertRule.simple <$>
        (filterGroups (place.property "rule") (filters.map asGroup)).nonEmpty := by
    simp only [writtenRule, Table.lookup_put, BEq.rfl, if_true]
  rw [written, simple_nonEmpty_value left]

end Rules

/-- The first rule is the second one with its filters gathered by object, or the same. -/
inductive Gathers : AlertRule → AlertRule → Prop where
  | same (rule : AlertRule) : Gathers rule rule
  | gathered (groups : List FilterGroup) :
      Gathers (.simple (FilterGroup.gathered groups)) (.simple groups)

/-- Drafts of which the one says what the other says, with its filters gathered. -/
structure Draft.Gathers (first second : Draft) : Prop where
  id : first.id = second.id
  label : first.label = second.label
  description : first.description = second.description
  rule : Sanitize.Gathers first.rule second.rule
  checked : second.rule.check = .ok ()

/-- An alert, and the same alert or what it is with groups if it is of the older form. -/
inductive Restated : Json → Json → Prop where
  | same (json : Json) : Restated json json
  | older {members : Members} {filters : List Members} (older : Older members filters) :
      Restated (.object members) (withGroups members filters)

section Drafts

variable {json other : Json} {place : Location}

theorem draft_value (place : Location) (members : Members) :
    (draft place (.object members)).value =
      (members.lookup "label" >>= nonBlank?).bind fun label =>
        (writtenRule place members).value.map fun rule =>
          ⟨members.lookup "id" >>= nonBlank?, label, members.lookup "description" >>= nonBlank?,
            rule⟩ := by
  simp only [draft, object, rule, Cleaned.sound_bind, Cleaned.bind_value, Cleaned.ofOption_value,
    Cleaned.needed_value, Cleaned.pure_value]
  cases members.lookup "label" >>= nonBlank? with
  | none => rfl
  | some label => cases (writtenRule place members).value <;> rfl

theorem draft_check {cleaned : Draft} (left : (draft place json).value = some cleaned) :
    cleaned.rule.check = .ok () :=
  (draft_wellFormed left).rule.check

/-- Either nothing is left of both, or what is left of the one gathers what is left of the other. -/
theorem draft_restated (restated : Restated json other) (place : Location) :
    Option.Rel Draft.Gathers (draft place json).value (draft place other).value := by
  cases restated with
  | same =>
      cases left : (draft place json).value with
      | none => exact .none
      | some cleaned => exact .some ⟨rfl, rfl, rfl, .same _, draft_check left⟩
  | @older members filters older =>
      have kept (name : String) (apart : (name == "rule") = false) :
          (Table.put "rule" (.array (filters.map asGroup)) members).lookup name =
            members.lookup name := by
        rw [Table.lookup_put, apart]
        rfl
      have last := @draft_check (withGroups members filters) place
      simp only [withGroups, draft_value, withGroups_value, kept "label" (by decide),
        kept "id" (by decide), kept "description" (by decide)] at last ⊢
      rw [older_value older]
      cases labelled : members.lookup "label" >>= nonBlank? with
      | none => exact .none
      | some label =>
          cases gone : (singles (place.property "filters") filters).isEmpty with
          | true => exact .none
          | false =>
              simp only [gone, labelled] at last
              exact .some ⟨rfl, rfl, rfl, .gathered _, last rfl⟩

end Drafts

end Sanitize

/-- Definitions which tell the same of themselves and come to the same outcome on every account. -/
structure AlertDefinition.Agrees (first second : AlertDefinition) : Prop where
  id : first.id = second.id
  label : first.label = second.label
  description : first.description = second.description
  mode : first.mode = second.mode
  outcome : ∀ graph, ∃ outcome, first.evaluate graph = .ok outcome ∧
    second.evaluate graph = .ok outcome

theorem AlertDefinition.evaluate_gathers {first second : AlertDefinition}
    (gathers : Sanitize.Gathers first.rule second.rule) (checked : second.rule.check = .ok ())
    (graph : AccountGraph) :
    ∃ outcome, first.evaluate graph = .ok outcome ∧ second.evaluate graph = .ok outcome := by
  have both : first.rule.check = .ok () ∧ first.rule.verdict graph = second.rule.verdict graph := by
    generalize first.rule = rule, second.rule = other at gathers checked
    cases gathers with
    | same => exact ⟨checked, rfl⟩
    | gathered groups =>
        exact ⟨FilterGroup.check_gathered checked, FilterGroup.verdict_gathered groups graph⟩
  refine ⟨_, evaluate_of_check both.1 graph, ?_⟩
  rw [evaluate_of_check checked, both.2]

namespace Sanitize

section Documents

variable {before prior : List AlertDefinition} {draft other : Draft}

theorem withId_agrees (gathers : draft.Gathers other) (id : String) :
    (draft.withId id).Agrees (other.withId id) where
  id := rfl
  label := gathers.label
  description := gathers.description
  mode := by
    have rule := gathers.rule
    simp only [Draft.withId]
    generalize draft.rule = first, other.rule = second at rule
    cases rule <;> rfl
  outcome := AlertDefinition.evaluate_gathers gathers.rule gathers.checked

theorem inUse_congr (alike : List.Forall₂ AlertDefinition.Agrees before prior) (id : String) :
    inUse before id = inUse prior id := by
  induction alike with
  | nil => rfl
  | cons first _ ih =>
      rw [inUse] at ih ⊢
      rw [List.any_cons, first.id, ih]
      rfl

theorem identify_agrees (fresh : Nat → String)
    (alike : List.Forall₂ AlertDefinition.Agrees before prior) (next : Nat) (place : Location)
    (gathers : draft.Gathers other) :
    (identify fresh before next place draft).1.Agrees (identify fresh prior next place other).1 ∧
      (identify fresh before next place draft).2.2 = (identify fresh prior next place other).2.2 := by
  unfold identify
  rw [gathers.id]
  cases other.id with
  | none => exact ⟨withId_agrees gathers _, rfl⟩
  | some id =>
      simp only [inUse_congr alike id]
      split <;> exact ⟨withId_agrees gathers _, rfl⟩

theorem alertsFrom_agrees {alerts others : List Json} (fresh : Nat → String)
    (restated : List.Forall₂ Restated alerts others) (index next : Nat)
    (alike : List.Forall₂ AlertDefinition.Agrees before prior) :
    List.Forall₂ AlertDefinition.Agrees (alertsFrom fresh index next before alerts).alerts
      (alertsFrom fresh index next prior others).alerts := by
  induction restated generalizing index next before prior with
  | nil => exact alike
  | @cons json other _ _ first _ ih =>
      have drafted := draft_restated first (Location.root.item index)
      rw [alertsFrom, alertsFrom]
      generalize (Sanitize.draft (Location.root.item index) json).value = left,
        (Sanitize.draft (Location.root.item index) other).value = kept at drafted
      cases drafted with
      | none => exact ih _ _ alike
      | some gathers =>
          obtain ⟨agrees, same⟩ :=
          identify_agrees fresh alike next (Location.root.item index) gathers
          simp only [same]
          exact ih _ _ (List.rel_append alike (.cons agrees .nil))

end Documents

end Sanitize

/-- Filters on one object say the same in one group and in many.  So a simple rule which passes check
comes to the same outcome with its groups joined by object, and a document to the same alerts with
one group for each filter of an alert of the older form. -/
theorem FilterGroup.grouping_immaterial (fresh : Nat → String) :
    (∀ (alert : AlertDefinition) (groups : List FilterGroup), alert.rule = .simple groups →
      alert.rule.check = .ok () → ∀ graph, ∃ outcome, alert.evaluate graph = .ok outcome ∧
        ({ alert with rule := .simple (gathered groups) } : AlertDefinition).evaluate graph =
          .ok outcome) ∧
    ∀ alerts others, List.Forall₂ Sanitize.Restated alerts others →
      List.Forall₂ AlertDefinition.Agrees (sanitizeAlerts fresh (.array alerts)).alerts
        (sanitizeAlerts fresh (.array others)).alerts := by
  constructor
  · intro alert groups simple checked graph
    have gathers : Sanitize.Gathers (.simple (gathered groups)) alert.rule :=
      simple ▸ .gathered groups
    obtain ⟨outcome, joined, written⟩ :=
      @AlertDefinition.evaluate_gathers { alert with rule := .simple (gathered groups) } alert
        gathers checked graph
    exact ⟨outcome, written, joined⟩
  · intro alerts others restated
    exact Sanitize.alertsFrom_agrees fresh restated 0 0 .nil

namespace Sanitize

/-- Filters on two objects in turn; the third has no object, and the fourth no value. -/
def urgentFilters : List Members := [
  [("object", .text "Case"), ("field", .text "Status"), ("operator", .text "equals"),
    ("value", .text "Open")],
  [("object", .text "Contact"), ("field", .text "Email"), ("operator", .text "not blank")],
  [("object", .text " "), ("field", .text "Origin"), ("operator", .text "blank")],
  [("object", .text "Case"), ("field", .text "Origin"), ("operator", .text "equals")],
  [("object", .text "Case"), ("field", .text "Priority"), ("operator", .text "not_null")]]

def urgentMembers : Members :=
  [("label", .text "Urgent case"), ("filters", .array (urgentFilters.map .object))]

theorem urgentFilters_grouping :
    (∃ outcome, urgentCaseAlert.evaluate urgentAccount = .ok outcome ∧
      ({ urgentCaseAlert with rule := .simple (FilterGroup.gathered urgentCase) } :
        AlertDefinition).evaluate urgentAccount = .ok outcome) ∧
    (sanitizeAlerts numbered (.array [.object urgentMembers])).alerts.map (·.id) =
      ["generated:0"] ∧
    List.Forall₂ AlertDefinition.Agrees
      (sanitizeAlerts numbered (.array [.object urgentMembers])).alerts
      (sanitizeAlerts numbered (.array [withGroups urgentMembers urgentFilters])).alerts := by
  obtain ⟨joined, restated⟩ := FilterGroup.grouping_immaterial numbered
  have older : Older urgentMembers urgentFilters := ⟨.inl rfl, rfl⟩
  refine ⟨joined urgentCaseAlert urgentCase rfl (by rfl) urgentAccount, by decide +kernel, ?_⟩
  exact restated _ _ (.cons (.older older) .nil)

end Sanitize

end Dossier
