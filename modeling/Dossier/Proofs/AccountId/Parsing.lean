import Dossier.Proofs.AccountId
import Dossier.Proofs.Run.Exploring
import Dossier.Proofs.Store.Fixture
import Dossier.Proofs.Text.Runs

/-!
Which identifiers stand in a text.

They are found among the maximal runs of characters which separate nothing, each of them once and in
their order, up to a limit.  What is taken of any candidates has this form already: it is taken
again as it is, and it is found again in a text which joins it by separators.
-/

namespace Dossier.AccountId

/-- Fifteen to eighteen ASCII letters and digits. -/
structure Identifies (token : String) : Prop where
  length : 15 ≤ token.length ∧ token.length ≤ 18
  characters : ∀ c ∈ token.toList,
    ('0' ≤ c ∧ c ≤ '9') ∨ ('A' ≤ c ∧ c ≤ 'Z') ∨ ('a' ≤ c ∧ c ≤ 'z')

theorem isIdentifier_iff {token : String} : isIdentifier token = true ↔ Identifies token := by
  simp only [isIdentifier, Bool.and_eq_true, decide_eq_true_eq, List.all_eq_true, isAlphanum_iff,
    String.length_toList]
  exact ⟨fun identifier => ⟨identifier.1, identifier.2⟩,
    fun identifies => ⟨identifies.length, identifies.characters⟩⟩

instance (token : String) : Decidable (Identifies token) :=
  decidable_of_iff _ isIdentifier_iff

/-- At least one character, and none but white space, commas and semicolons. -/
def Separates (text : String) : Prop :=
  text ≠ "" ∧ ∀ c ∈ text.toList, isSeparator c = true

instance (text : String) : Decidable (Separates text) :=
  decidable_of_iff (text ≠ "" ∧ text.toList.all isSeparator = true)
    (and_congr_right fun _ => List.all_eq_true)

/-- The items one after the other, with separators between them. -/
def joined (separator : Nat → String) : List String → String
  | [] => ""
  | [item] => item
  | item :: next :: rest =>
      item ++ (separator 0 ++ joined (fun place => separator (place + 1)) (next :: rest))

theorem not_isSeparator_of_isAlphanum {c : Char} (alphanum : c.isAlphanum = true) :
    isSeparator c = false := by
  have comma : c ≠ ',' := fun same => absurd alphanum (by rw [same]; decide)
  have semicolon : c ≠ ';' := fun same => absurd alphanum (by rw [same]; decide)
  simp [isSeparator, isBlank_of_isAlphanum alphanum, comma, semicolon]

theorem tokens_joined {ids : List String} (identifiers : ∀ id ∈ ids, isIdentifier id = true)
    {separator : Nat → String} (separates : ∀ place, Separates (separator place)) :
    tokens (joined separator ids) = ids := by
  induction ids generalizing separator with
  | nil => rfl
  | cons id rest ih =>
      obtain ⟨identifier, others⟩ := List.forall_mem_cons.mp identifiers
      have identified := isIdentifier_iff.mp identifier
      have filled : id.toList ≠ [] := by
        have length := identified.length
        rw [← String.length_toList] at length
        exact List.length_pos_iff.mp (by omega)
      have inside : ∀ c ∈ id.toList, (!isSeparator c) = true := by
        intro c member
        rw [not_isSeparator_of_isAlphanum (isAlphanum_iff.mpr (identified.characters c member))]
        rfl
      cases rest with
      | nil =>
          rw [tokens, joined, Text.runs_word filled inside, List.map_singleton,
            String.ofList_toList]
      | cons next rest =>
          obtain ⟨apart, outside⟩ := separates 0
          have found := ih others fun place => separates (place + 1)
          rw [tokens] at found
          rw [tokens, joined, String.toList_append, String.toList_append,
            Text.runs_word_gap filled inside (by simpa using apart)
              (fun c member => by simp [outside c member]),
            List.map_cons, found, String.ofList_toList]

/-- Identifiers as they are taken: not too many, none of them twice, and so that they are taken and
found again. -/
structure Taken (ids : List String) : Prop where
  few : ids.length ≤ limit
  unique : ids.Nodup
  identifiers : ∀ id ∈ ids, Identifies id
  fixed : sanitize ids = ids
  found : ∀ separator : Nat → String, (∀ place, Separates (separator place)) →
    parse (joined separator ids) = ids

theorem isIdentifier_of_mem {candidates : List String} {id : String}
    (member : id ∈ sanitize candidates) : isIdentifier id = true := by
  rw [sanitize_eq] at member
  have among := mem_distinct.mp (List.mem_of_mem_take member)
  exact (List.mem_filter.mp among).2

theorem length_sanitize (candidates : List String) : (sanitize candidates).length ≤ limit := by
  rw [sanitize_eq]
  exact List.length_take_le _ _

theorem sanitize_sanitize (candidates : List String) :
    sanitize (sanitize candidates) = sanitize candidates := by
  rw [sanitize_of_identifiers fun _ member => isIdentifier_of_mem member,
    distinct_of_nodup (sanitize_nodup candidates), List.take_of_length_le (length_sanitize candidates)]

theorem sanitize_taken (candidates : List String) : Taken (sanitize candidates) where
  few := length_sanitize candidates
  unique := sanitize_nodup candidates
  identifiers _ member := isIdentifier_iff.mp (isIdentifier_of_mem member)
  fixed := sanitize_sanitize candidates
  found separator separates := by
    rw [parse, tokens_joined (fun _ member => isIdentifier_of_mem member) separates,
      sanitize_sanitize]

theorem trim_of_mem_tokens {text token : String} (found : token ∈ tokens text) :
    Text.trim token = token := by
  obtain ⟨run, member, rfl⟩ := List.mem_map.mp found
  refine Text.trim_of_not_blank fun c inside => ?_
  rw [String.toList_ofList] at inside
  have other := Text.forall_mem_runs member c inside
  simp only [isSeparator, Bool.not_eq_true', Bool.or_eq_false_iff] at other
  exact other.1.1

theorem parse_eq (text : String) :
    parse text = (distinct ((tokens text).filter isIdentifier)).take limit := by
  have trimmed : (tokens text).map Text.trim = tokens text :=
    (List.map_congr_left fun _ found => trim_of_mem_tokens found).trans (List.map_id _)
  rw [parse, sanitize_eq, tokensOf, trimmed]

/-- Parsing finds the first identifiers of a text.  What is taken of any candidates is taken again as
it is, so that a run explores just the identifiers which were found. -/
theorem parse_exact :
    (∀ text, ∃ found,
      Text.MaximalRuns (fun c => !isSeparator c) text.toList found ∧
        parse text = (distinct ((found.map String.ofList).filter (Identifies ·))).take limit) ∧
    (∀ candidates, Taken (sanitize candidates)) ∧
    ∀ text, sanitize (parse text) = parse text ∧
      ∀ {σ : Type} (store : Store σ) config alerts timeout state result,
        (run store config alerts (parse text) timeout state).1 = .ok result →
          result.accountIds = parse text := by
  have again : ∀ text, sanitize (parse text) = parse text :=
    fun text => sanitize_sanitize (tokens text)
  refine ⟨fun text => ⟨_, Text.runs_maximal _ _, ?_⟩, sanitize_taken, fun text => ⟨again text, ?_⟩⟩
  · have same : isIdentifier = fun token => decide (Identifies token) := by
      funext token
      rw [Bool.eq_iff_iff, decide_eq_true_iff, isIdentifier_iff]
    rw [parse_eq, same, tokens]
  · intro σ store config alerts timeout state result ran
    exact (run_accountIds ran).trans (again text)

/-- Identifiers between separators of many kinds, one of them twice, and tokens of other forms. -/
def pasted : String :=
  ";001000000000001AAA,\u2003001000000000002\n;001000000000001AAA  bad-id 0010000000000\t001000000000003BBBX"

def mixed (place : Nat) : String :=
  if place = 0 then ",\u2003\n" else ";"

/-- A store which has no records. -/
def vacant : Store Unit where
  org := "vacant"
  responsive := true
  describe _ _ := (.ok [Record.idField], ())
  query _ _ := (.ok [], ())

theorem parse_exact_pasted :
    parse pasted = ["001000000000001AAA", "001000000000002"] ∧
      (∀ place, Separates (mixed place)) ∧
      parse (joined mixed ["001000000000001AAA", "001000000000002"]) =
        ["001000000000001AAA", "001000000000002"] ∧
      ∃ result, (run vacant Config.empty [] (parse pasted) Run.defaultTimeout ()).1 = .ok result ∧
        result.accountIds = ["001000000000001AAA", "001000000000002"] := by
  have parsed : parse pasted = ["001000000000001AAA", "001000000000002"] := by decide +kernel
  have separates : ∀ place, Separates (mixed place) := by
    intro place
    unfold mixed
    split <;> decide +kernel
  obtain ⟨-, taken, runs⟩ := parse_exact
  have found := (taken (tokens pasted)).found mixed separates
  have same : sanitize (tokens pasted) = parse pasted := rfl
  rw [same, parsed] at found
  obtain ⟨result, ran, -⟩ := @Fixture.succeeds _ _
    (run vacant Config.empty [] ["001000000000001AAA", "001000000000002"] Run.defaultTimeout ()).1
    (fun _ => true) (by decide +kernel)
  rw [← parsed] at ran
  have explored := (runs pasted).2 vacant Config.empty [] Run.defaultTimeout () result ran
  exact ⟨parsed, separates, found, result, ran, explored.trans parsed⟩

end Dossier.AccountId
