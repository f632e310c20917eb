import Dossier.Proofs.Alert.Provenance
import Dossier.Proofs.Alert.Sanitize.Usable

/-!
What there is to show for an alert.

A triggered alert names a record.  Where a scope passes without a record to name, it is the account
that is named with a summary.  Only a conjunction of nothing passes without evidence, and the
sanitizer does not let one through.
-/

namespace Dossier

/-- If it passes, there is evidence. -/
def Verdict.Explained (verdict : Verdict) : Prop :=
  verdict.passed = true → verdict.found ≠ []

/-- The alert has an outcome on the account, which has matches just where it passes. -/
def AlertDefinition.Explained (alert : AlertDefinition) (graph : AccountGraph) : Prop :=
  ∃ outcome, alert.evaluate graph = .ok outcome ∧ (outcome.passed = true ↔ outcome.found ≠ [])

/-- No part of the tree asks that all of no children hold. -/
def RuleNode.Substantial (root : RuleNode) : Prop :=
  ¬(RuleNode.group .and []).Within root

theorem Condition.verdict_explained (tested : Condition) (context : Context) :
    (tested.verdict context).Explained := by
  unfold Condition.verdict
  split
  · exact fun _ => List.cons_ne_nil _ _
  · intro passed
    simpa using passed

theorem Logic.verdict_explained {logic : Logic} {verdicts : List Verdict}
    (filled : logic = .and → verdicts ≠ []) (each : ∀ verdict ∈ verdicts, verdict.Explained) :
    (logic.verdict verdicts).Explained := by
  intro passed
  have some : ∃ verdict ∈ verdicts, verdict.passed = true := by
    have told := (Logic.verdict_passed logic verdicts).mp passed
    cases logic with
    | and =>
        obtain ⟨verdict, member⟩ := List.exists_mem_of_ne_nil _ (filled rfl)
        exact ⟨verdict, member, told verdict member⟩
    | or => exact told
  obtain ⟨verdict, member, held⟩ := some
  obtain ⟨m, there⟩ := List.exists_mem_of_ne_nil _ (each verdict member held)
  exact List.ne_nil_of_mem (Logic.mem_verdict.mpr ⟨passed, verdict, member, held, there⟩)

/-- A scope needs nothing of its children: what they do not show, the summary does. -/
theorem Quantifier.verdict_explained (quantifier : Quantifier) (graph : AccountGraph)
    (object : String) (sightings : List Sighting) :
    (quantifier.verdict graph object sightings).Explained := by
  unfold Quantifier.verdict
  simp only
  split
  · intro _
    simp only
    split
    · exact List.cons_ne_nil _ _
    · rename_i filled
      simpa using filled
  · exact fun passed => absurd passed Bool.false_ne_true

theorem Duplicates.verdict_explained (duplicates : Duplicates) (records : List GraphRecord) :
    (duplicates.verdict records).Explained := by
  intro passed
  simpa [Duplicates.verdict] using passed

namespace RuleNode

theorem Substantial.child {logic : Logic} {children : List RuleNode}
    (substantial : (RuleNode.group logic children).Substantial) :
    (logic = .and → children ≠ []) ∧ ∀ child ∈ children, child.Substantial := by
  refine ⟨?_, fun child member inside => substantial (.group member inside)⟩
  rintro rfl rfl
  exact substantial .root

/-- A tree without conjunctions of nothing shows why it passes, in every context. -/
theorem verdict_explained {node : RuleNode} (substantial : node.Substantial) (context : Context) :
    (node.verdict context).Explained := by
  induction node using induct generalizing context with
  | condition tested => exact tested.verdict_explained context
  | group logic children ih =>
      obtain ⟨filled, sound⟩ := substantial.child
      rw [verdict, verdicts_eq_map]
      refine Logic.verdict_explained (fun conjunction => ?_) (List.forall_mem_map.mpr ?_)
      · simpa using filled conjunction
      · exact fun child member => ih child member (sound child member) context
  | scope object quantifier children _ =>
      rw [verdict]
      exact quantifier.verdict_explained _ _ _
  | aggregate duplicates criteria _ =>
      rw [verdict]
      exact duplicates.verdict_explained _

/-- All parts of a well-formed tree are well formed. -/
theorem WellFormed.within {node root : RuleNode} (sound : root.WellFormed)
    (inside : node.Within root) : node.WellFormed := by
  induction inside with
  | root => exact sound
  | group member _ ih =>
      cases sound with
      | group _ children => exact ih (children _ member)
  | scope member _ ih =>
      cases sound with
      | scope _ _ _ children => exact ih (children _ member)
  | criteria _ ih =>
      cases sound with
      | aggregate _ criteria => exact ih (criteria _ rfl)

theorem WellFormed.substantial {root : RuleNode} (sound : root.WellFormed) : root.Substantial := by
  intro inside
  cases sound.within inside with
  | group filled _ => exact filled rfl

end RuleNode

/-- A simple rule passes on account of a record of each of its types, and it has a type at least. -/
theorem FilterGroup.verdict_explained (groups : List FilterGroup) (graph : AccountGraph) :
    (FilterGroup.verdict groups graph).Explained := by
  intro passed
  obtain ⟨some, each⟩ := verdict_passed.mp passed
  obtain ⟨object, about⟩ := List.exists_mem_of_ne_nil _ some
  obtain ⟨record, satisfies⟩ := List.exists_mem_of_ne_nil _ (each object about)
  exact List.ne_nil_of_mem (mem_found.mpr ⟨object, about, record, satisfies, rfl⟩)

theorem Outcome.ofVerdict_explained {verdict : Verdict} (explained : verdict.Explained) :
    (Outcome.ofVerdict verdict).passed = true ↔ (Outcome.ofVerdict verdict).found ≠ [] := by
  change verdict.passed = true ↔ _
  cases passed : verdict.passed with
  | false => simp [Outcome.ofVerdict_nothing passed]
  | true =>
      obtain ⟨m, member⟩ := List.exists_mem_of_ne_nil _ (explained passed)
      have named : m.key ∈ (Outcome.ofVerdict verdict).found.map Match.key := by
        rw [Outcome.ofVerdict_keys passed, mem_distinct]
        exact List.mem_map_of_mem member
      have filled : (Outcome.ofVerdict verdict).found ≠ [] := by
        intro nothing
        simp [nothing] at named
      simpa using filled

theorem AlertDefinition.explained_of_check {alert : AlertDefinition}
    (checked : alert.rule.check = .ok ())
    (substantial : ∀ root, alert.rule = .advanced root → root.Substantial) (graph : AccountGraph) :
    alert.Explained graph := by
  refine ⟨_, evaluate_of_check checked graph, Outcome.ofVerdict_explained ?_⟩
  cases written : alert.rule with
  | simple groups => exact FilterGroup.verdict_explained groups graph
  | advanced root => exact RuleNode.verdict_explained (substantial root written) _

theorem AlertRule.WellFormed.substantial {rule : AlertRule} (sound : rule.WellFormed) :
    ∀ root, rule = .advanced root → root.Substantial := by
  rintro root rfl
  cases sound with
  | advanced sound => exact sound.substantial

/-- A triggered alert is always explained, if it comes from the sanitizer, if its rule is simple, or if
its tree has no conjunction of nothing. -/
theorem AlertDefinition.evaluate_explained :
    (∀ (fresh : Nat → String) (document : Json),
      ∀ alert ∈ (sanitizeAlerts fresh document).alerts, ∀ graph, alert.Explained graph) ∧
    (∀ (alert : AlertDefinition) (groups : List FilterGroup), alert.rule = .simple groups →
      alert.rule.check = .ok () → ∀ graph, alert.Explained graph) ∧
    (∀ (alert : AlertDefinition) (root : RuleNode), alert.rule = .advanced root →
      alert.rule.check = .ok () → root.Substantial → ∀ graph, alert.Explained graph) := by
  refine ⟨fun fresh document alert member graph => ?_, fun alert groups simple checked graph => ?_,
    fun alert root advanced checked substantial graph => ?_⟩
  · have sound := (Sanitize.sanitizeAlerts_wellFormed fresh document alert member).rule
    exact explained_of_check sound.check sound.substantial graph
  · refine explained_of_check checked (fun root advanced => ?_) graph
    rw [simple] at advanced
    contradiction
  · refine explained_of_check checked (fun other written => ?_) graph
    rw [advanced] at written
    cases written
    exact substantial

/-- A conjunction of nothing passes the check and passes on every account, with no match. -/
example (graph : AccountGraph) :
    (RuleNode.group .and []).check = .ok () ∧
      (Outcome.ofVerdict ((AlertRule.advanced (.group .and [])).verdict graph)).passed = true ∧
      (Outcome.ofVerdict ((AlertRule.advanced (.group .and [])).verdict graph)).found = [] :=
  ⟨rfl, rfl, rfl⟩

/-- No contact is without an address, or else some case is urgent. -/
def reachable : RuleNode :=
  .group .or [
    .scope "Contact" .none [.condition ⟨"Contact", ⟨"Email", .blank, none⟩⟩],
    .condition ⟨"Case", ⟨"Priority", .equals, some "High"⟩⟩]

def reachableAlert : AlertDefinition :=
  ⟨"reachable", "Reachable", none, .advanced, .advanced reachable⟩

theorem reachable_substantial : reachable.Substantial := by
  intro inside
  cases inside with
  | group member inside =>
      simp only [List.mem_cons, List.not_mem_nil, or_false] at member
      rcases member with rfl | rfl
      · cases inside with
        | scope member inside =>
            cases List.mem_singleton.mp member
            cases inside
      · cases inside

/-- Of a sanitized alert, of a simple rule, and of a tree which passes without a record to name. -/
theorem evaluate_explained_reachable :
    (∃ alert ∈ (sanitizeAlerts Sanitize.numbered Sanitize.watchlist).alerts,
        alert.label = "Phones" ∧ alert.Explained openAccount) ∧
      urgentCaseAlert.rule.check = .ok () ∧ urgentCaseAlert.Explained urgentAccount ∧
      reachableAlert.rule.check = .ok () ∧ reachable.Substantial ∧
      ∃ outcome, reachableAlert.evaluate openAccount = .ok outcome ∧ outcome.passed = true ∧
        outcome.found ≠ [] := by
  obtain ⟨sanitized, simple, advanced⟩ := AlertDefinition.evaluate_explained
  have listed : (sanitizeAlerts Sanitize.numbered Sanitize.watchlist).alerts.any
      (·.label == "Phones") = true := by decide +kernel
  obtain ⟨phones, member, labelled⟩ := List.any_eq_true.mp listed
  have checked : reachableAlert.rule.check = .ok () := by rfl
  obtain ⟨outcome, evaluated, explained⟩ :=
    advanced reachableAlert reachable rfl checked reachable_substantial openAccount
  have passed : (reachableAlert.evaluate openAccount).toOption.map (·.passed) = some true := by
    decide +kernel
  rw [evaluated] at passed
  have triggered : outcome.passed = true := Option.some.inj passed
  exact ⟨⟨phones, member, eq_of_beq labelled, sanitized _ _ phones member openAccount⟩, rfl,
    simple urgentCaseAlert urgentCase rfl rfl urgentAccount, checked, reachable_substantial, outcome,
    evaluated, triggered, explained.mp triggered⟩

end Dossier
