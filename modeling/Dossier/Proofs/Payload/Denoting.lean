import Dossier.Proofs.Alert.Provenance
import Dossier.Proofs.Graph.Keys
import Dossier.Proofs.Payload.Attaching
import Dossier.Proofs.Payload.Repeating
import Dossier.Proofs.Store.Fixture

/-!
Which record a match is about.

A match names its record by a key.  On the graphs of a run no two records of a type have one key, so
that every match is about one record, and where that is displayed, it is the one which is annotated.
-/

namespace Dossier

/-- The record at the index, of the type of the match, has the key which the match names. -/
def Match.denotes (graph : AccountGraph) (m : Match) (index : Nat) : Bool :=
  ((graph.records m.object)[index]?).map (·.key) == some m.recordKey

/-- What the alerts have found of the record at an index of a type. -/
def AccountGraph.findings (graph : AccountGraph) (triggered : List Triggered) (object : String)
    (index : Nat) : List (Triggered × Match) :=
  (AccountPayload.findingsOf triggered).filter fun (_, m) =>
    m.object == object && m.denotes graph index

namespace RecordPayload

/-- A record which is annotated with findings, one after the other. -/
def annotateAll (record : RecordPayload) (findings : List (Triggered × Match)) : RecordPayload :=
  findings.foldl (fun record finding => record.annotate finding.1 finding.2) record

theorem foldl_note_annotateAll (object : String) (findings : List (Triggered × Match))
    (record : RecordPayload) :
    findings.foldl (fun record finding => record.note object finding.1 finding.2) record =
      record.annotateAll (findings.filter fun (_, m) => m.key == (object, record.recordKey)) := by
  induction findings generalizing record with
  | nil => rfl
  | cons finding rest ih =>
      obtain ⟨alert, m⟩ := finding
      have kept := (Kept.note object alert record m).recordKey
      rw [List.foldl_cons, ih, kept, List.filter_cons]
      by_cases own : m.key = (object, record.recordKey) <;> simp [own, note, annotateAll]

theorem noteAll_annotateAll (object : String) (triggered : List Triggered) (record : RecordPayload) :
    record.noteAll object triggered =
      record.annotateAll ((AccountPayload.findingsOf triggered).filter fun (_, m) =>
        m.key == (object, record.recordKey)) := by
  rw [← foldl_note_annotateAll, AccountPayload.findingsOf, List.foldl_flatMap]
  simp only [List.foldl_map]
  rfl

end RecordPayload

namespace AccountGraph

variable {graph : AccountGraph} (keyed : ∀ object, ((graph.records object).map (·.key)).Nodup)

theorem findings_of_getElem? {object : String} {index : Nat} {record : GraphRecord}
    (place : (graph.records object)[index]? = some record) (triggered : List Triggered) :
    graph.findings triggered object index =
      (AccountPayload.findingsOf triggered).filter fun (_, m) => m.key == (object, record.key) := by
  refine List.filter_congr fun (_, m) _ => ?_
  by_cases named : m.object = object
  · subst named
    simp [Match.denotes, Match.key, place, @eq_comm _ record.key]
  · have other : (m.key == (object, record.key)) = false :=
      beq_false_of_ne fun same => named (Prod.mk.inj same).1
    simp only [other, beq_false_of_ne named, Bool.false_and]

include keyed

/-- A match which is about a record of the graph denotes one record of it. -/
theorem denotes_unique {asks : RuleNode → Prop} {m : Match} (grounded : m.Grounded asks graph) :
    ∃! index, m.denotes graph index = true := by
  obtain ⟨record, member, about⟩ := grounded
  obtain ⟨index, place⟩ := List.getElem?_of_mem member
  refine ⟨index, ?_, fun other denoted => ?_⟩
  · simp [Match.denotes, place, about.recordKey]
  · simp only [Match.denotes, beq_iff_eq, about.recordKey] at denoted
    have here : ((graph.records m.object).map (·.key))[index]? = some record.key := by
      rw [List.getElem?_map, place, Option.map_some]
    rw [← List.getElem?_map] at denoted
    obtain ⟨inside, -⟩ := List.getElem?_eq_some_iff.mp denoted
    exact (List.getElem?_inj inside (keyed m.object)).mp (denoted.trans here.symm)

theorem evaluate_denotes {alert : AlertDefinition} {outcome : Outcome}
    (evaluated : alert.evaluate graph = .ok outcome) :
    ∀ m ∈ outcome.found, ∃! index, m.denotes graph index = true := by
  intro m found
  unfold AlertDefinition.evaluate at evaluated
  split at evaluated
  · cases evaluated
    cases passed : (alert.rule.verdict graph).passed with
    | false =>
        rw [Outcome.ofVerdict_nothing passed] at found
        contradiction
    | true =>
        rw [Outcome.ofVerdict_found passed] at found
        exact denotes_unique keyed (Match.dedup_grounded keyed (alert.rule.verdict_grounded graph) m found)
  · contradiction

end AccountGraph

/-- A graph as it is displayed with all that was found: the account has what was found of it, and every
record of another type what was found of the record at its index. -/
def Layout.annotated (layout : Layout) (graph : AccountGraph) (triggered : List Triggered) :
    AccountPayload :=
  let own := (layout.render graph).own.annotateAll (graph.findings triggered EntityType.account 0)
  { layout.render graph with
    fields := own.fields
    alerts := listed triggered
    alertDetails := own.alertDetails
    related := layout.visible.map fun object =>
      (object.key, (graph.records object.key).mapIdx fun index record =>
        if object.key == EntityType.account then object.render record
        else (object.render record).annotateAll (graph.findings triggered object.key index)) }

namespace Layout

variable {config : Config} {plans : List (String × ObjectPlan)} {graph : AccountGraph}
  (keyed : ∀ object, ((graph.records object).map (·.key)).Nodup)

include keyed

theorem render_keyed : ((make config plans).render graph).Keyed where
  types := by
    rw [render, List.map_map]
    exact visible_unique
  keys := by
    simp only [render, List.forall_mem_map, List.map_map]
    exact fun object _ => keyed object.key
  own := by
    simp only [render, List.forall_mem_map]
    intro object _ account record member
    rw [account, AccountGraph.records, if_pos BEq.rfl, List.mem_singleton] at member
    rw [member]
    rfl

/-- Every match annotates the record which it denotes, if that is displayed, and no other. -/
theorem attachAlerts_denoted (triggered : List Triggered) :
    ((make config plans).render graph).attachAlerts triggered =
      (make config plans).annotated graph triggered := by
  have account : (graph.records EntityType.account)[0]? = some graph.account := rfl
  have related : AccountPayload.mapRecords (fun object record =>
      if object == EntityType.account then record else record.noteAll object triggered)
        ((make config plans).render graph).related =
      ((make config plans).annotated graph triggered).related := by
    rw [render, AccountPayload.mapRecords, List.map_map, annotated]
    refine List.map_congr_left fun object _ => congrArg (Prod.mk object.key) ?_
    refine List.ext_getElem? fun index => ?_
    simp only [List.map_map, List.getElem?_map, List.getElem?_mapIdx]
    cases place : (graph.records object.key)[index]? with
    | none => rfl
    | some record =>
        rw [Option.map_some, Option.map_some, AccountGraph.findings_of_getElem? place,
          Function.comp_apply, RecordPayload.noteAll_annotateAll]
        rfl
  rw [AccountPayload.attachAlerts_own rfl, AccountPayload.attachAlerts_keyed (render_keyed keyed),
    related, RecordPayload.noteAll_annotateAll, annotated, AccountGraph.findings_of_getElem? account]
  rfl

end Layout

/-- Keys are stable in a run.  Within a graph and across all graphs they name records as their places in
the pools do; so every match of an alert is about one record of the graph, and it annotates this one
where it is displayed, and no other. -/
theorem keys_stable {fetched : Fetched} {registry : Registry}
    (unique : (registry.objects.map (·.name)).Nodup) (distinguished : fetched.Distinguished) :
    fetched.Identifies registry ∧ ∀ accountId,
      let graph := (fetched.resolver registry).resolve accountId
      (∀ (alert : AlertDefinition) (outcome : Outcome), alert.evaluate graph = .ok outcome →
        ∀ m ∈ outcome.found, ∃! index, m.denotes graph index = true) ∧
      ∀ (config : Config) (plans : List (String × ObjectPlan)) (triggered : List Triggered),
        ((Layout.make config plans).render graph).attachAlerts triggered =
          (Layout.make config plans).annotated graph triggered := by
  refine ⟨distinguished.identifies unique, fun accountId => ?_⟩
  have keyed := Fetched.resolve_keys_unique unique distinguished accountId
  constructor
  · intro alert outcome evaluated
    exact AccountGraph.evaluate_denotes keyed evaluated
  · intro config plans triggered
    exact Layout.attachAlerts_denoted keyed triggered

/-- Contacts of two accounts refer to one individual, who owns an email without an identifier; nor has
the contact of the second account one, which was not found. -/
def housemates : Fetched where
  accountIds := ["001", "002"]
  missingAccountIds := ["002"]
  records := [(EntityType.account, [.ofFields [("Id", .text "001")]]),
    (EntityType.contact,
      [.ofFields [("Id", .text "c1"), ("AccountId", .text "001"), ("Person", .text "i1")],
        .ofFields [("AccountId", .text "002"), ("Person", .text "i1")]]),
    (EntityType.individual, [.ofFields [("Id", .text "i1")]]),
    ("Email", [.ofFields [("Owner", .text "i1")]])]
  plans := []
  linkSources := [("Email", [⟨.individual, "Owner"⟩])]
  warnings := Warnings.empty

/-- An email with an owner, and a contact who refers to the individual. -/
def inTouch : AlertDefinition :=
  ⟨"touch", "In touch", none, .simple, .simple [⟨"Email", [⟨"Owner", .notBlank, none⟩]⟩,
    ⟨"Contact", [⟨"Person", .equals, some "i1"⟩]⟩]⟩

/-- What is displayed of the housemates: their contacts and emails, with the fields these have. -/
def householdLayout : Layout :=
  let config : Config := { Config.empty with override := some Fetched.kin }
  .make config [("Contact", .make config "Contact" ["AccountId", "Id", "Person"]),
    ("Email", .make config "Email" ["Id", "Owner"])]

/-- The accounts share the individual and the email, and do not share their contacts.  Of the second
account the alert finds the email and the contact, and it is these which are annotated. -/
theorem keys_stable_housemates :
    let graph := (housemates.resolver Fetched.kin).resolve "002"
    (Fetched.kin.objects.map (·.name)).Nodup ∧ housemates.Distinguished ∧
      housemates.Identifies Fetched.kin ∧
      ["001", "002"].map (fun accountId => (((housemates.resolver Fetched.kin).resolve
        accountId).objects.map fun entry => (entry.1, entry.2.map (·.key)))) =
        [[("Account", ["001"]), ("Contact", ["c1"]), ("Individual", ["i1"]), ("Email", ["Email:0"])],
          [("Account", ["Account:0"]), ("Contact", ["Contact:1"]), ("Individual", ["i1"]),
            ("Email", ["Email:0"])]] ∧
      ∃ outcome, inTouch.evaluate graph = .ok outcome ∧
        outcome.found.map Match.key = [("Email", "Email:0"), ("Contact", "Contact:1")] ∧
        (∀ m ∈ outcome.found, ∃! index, m.denotes graph index = true) ∧
        let triggered := [Triggered.ofAlert inTouch outcome.found]
        let payload := (householdLayout.render graph).attachAlerts triggered
        payload = householdLayout.annotated graph triggered ∧
          payload.related.map (fun entry =>
            (entry.1, entry.2.map fun record => (record.recordKey, record.alerts))) =
            [("Contact", [("Contact:1", some ["touch"])]), ("Individual", [("i1", none)]),
              ("Email", [("Email:0", some ["touch"])])] := by
  intro graph
  have unique : (Fetched.kin.objects.map (·.name)).Nodup := by decide
  have distinguished : housemates.Distinguished := .of_records (by decide +kernel)
  obtain ⟨identifies, graphs⟩ := keys_stable unique distinguished
  obtain ⟨denoted, attached⟩ := graphs "002"
  obtain ⟨outcome, evaluated, found⟩ := @Fixture.succeeds _ _ (inTouch.evaluate graph)
    (fun outcome => outcome.found.map Match.key == [("Email", "Email:0"), ("Contact", "Contact:1")] &&
      (householdLayout.annotated graph [Triggered.ofAlert inTouch outcome.found]).related.map
        (fun entry => (entry.1, entry.2.map fun record => (record.recordKey, record.alerts))) ==
          [("Contact", [("Contact:1", some ["touch"])]), ("Individual", [("i1", none)]),
            ("Email", [("Email:0", some ["touch"])])]) (by decide +kernel)
  obtain ⟨matched, annotated⟩ := Bool.and_eq_true_iff.mp found
  refine ⟨unique, distinguished, identifies, by decide +kernel, outcome, evaluated,
    eq_of_beq matched, denoted _ outcome evaluated, attached _ _ _, ?_⟩
  rw [householdLayout, attached]
  exact eq_of_beq annotated

end Dossier
