import Dossier.Text.Blank

/-!
Runs of characters.

A text is cut into its maximal runs of characters of one kind: those which are preceded and followed
by no character of the kind.  All of them are found, in the order in which they stand in the text.
-/

namespace Dossier.Text

/-- A character of the kind stands at this place. -/
def HoldsAt (p : Char → Bool) (cs : List Char) (place : Nat) : Prop :=
  (cs[place]?).any p = true

/-- From `start` up to `stop` there are characters of the kind, and none before them or after them. -/
structure MaximalRun (p : Char → Bool) (cs : List Char) (start stop : Nat) : Prop where
  filled : start < stop
  inside : ∀ place, start ≤ place → place < stop → HoldsAt p cs place
  before : start = 0 ∨ ¬HoldsAt p cs (start - 1)
  after : ¬HoldsAt p cs stop

/-- The characters of a span. -/
def cut (cs : List Char) (span : Nat × Nat) : List Char :=
  (cs.drop span.1).take (span.2 - span.1)

/-- These are the maximal runs of characters of the kind, in their order. -/
def MaximalRuns (p : Char → Bool) (cs : List Char) (found : List (List Char)) : Prop :=
  ∃ spans : List (Nat × Nat),
    spans.Pairwise (fun span later => span.2 < later.1) ∧
      (∀ start stop, (start, stop) ∈ spans ↔ MaximalRun p cs start stop) ∧
        found = spans.map (cut cs)

variable {p : Char → Bool} {cs : List Char}

/-- Runs which touch each other are one run. -/
theorem MaximalRun.eq_of_touching {start stop first last : Nat} (run : MaximalRun p cs start stop)
    (other : MaximalRun p cs first last) (later : start ≤ first) (reached : first ≤ stop) :
    first = start ∧ last = stop := by
  have filled := run.filled
  have ends := other.filled
  have begins : first ≤ start := by
    refine Nat.le_of_not_lt fun apart => ?_
    rcases other.before with zero | outside
    · omega
    · exact outside (run.inside (first - 1) (by omega) (by omega))
  have longer : ¬stop < last := fun further => run.after (other.inside stop reached further)
  have shorter : ¬last < stop := fun sooner => other.after (run.inside last (by omega) sooner)
  omega

theorem holdsAt_append_left {front back : List Char} {place : Nat} (inside : place < front.length) :
    HoldsAt p (front ++ back) place ↔ HoldsAt p front place := by
  rw [HoldsAt, HoldsAt, List.getElem?_append_left inside]

theorem holdsAt_append_right {front back : List Char} (place : Nat) :
    HoldsAt p (front ++ back) (front.length + place) ↔ HoldsAt p back place := by
  rw [HoldsAt, HoldsAt, List.getElem?_append_right (by omega), Nat.add_sub_cancel_left]

/-- Characters of the kind, up to where there is no more of them. -/
theorem MaximalRun.of_append {passed run rest : List Char} (filled : run ≠ [])
    (inside : ∀ c ∈ run, p c = true)
    (before : passed = [] ∨ ¬HoldsAt p passed (passed.length - 1))
    (after : ¬HoldsAt p rest 0) :
    MaximalRun p (passed ++ (run ++ rest)) passed.length (passed.length + run.length) where
  filled := Nat.lt_add_of_pos_right (List.length_pos_iff.mpr filled)
  inside place later sooner := by
    obtain ⟨offset, rfl⟩ := Nat.exists_eq_add_of_le later
    have within : offset < run.length := by omega
    rw [holdsAt_append_right, holdsAt_append_left within, HoldsAt, List.getElem?_eq_getElem within]
    exact inside _ (List.getElem_mem within)
  before := by
    rcases before with rfl | apart
    · exact .inl rfl
    · by_cases empty : passed.length = 0
      · exact .inl empty
      · refine .inr ?_
        rw [holdsAt_append_left (by omega)]
        exact apart
  after := by
    have ends : HoldsAt p (run ++ rest) (run.length + 0) ↔ HoldsAt p rest 0 := holdsAt_append_right 0
    rw [holdsAt_append_right, ← Nat.add_zero run.length, ends]
    exact after

theorem MaximalRun.forall_mem_cut {start stop : Nat} (run : MaximalRun p cs start stop) :
    ∀ c ∈ cut cs (start, stop), p c = true := by
  intro c member
  obtain ⟨offset, found⟩ := List.mem_iff_getElem?.mp member
  rw [cut, List.getElem?_take] at found
  split at found
  · rename_i within
    have holds := run.inside (start + offset) (Nat.le_add_right start offset) (by omega)
    rw [List.getElem?_drop] at found
    rw [HoldsAt, found] at holds
    exact holds
  · contradiction

/-- These are the spans of the runs which begin at a place or behind it. -/
structure Spans (p : Char → Bool) (cs : List Char) (place : Nat) (spans : List (Nat × Nat)) :
    Prop where
  apart : spans.Pairwise fun span later => span.2 < later.1
  mem_iff : ∀ start stop, (start, stop) ∈ spans ↔ MaximalRun p cs start stop ∧ place ≤ start

namespace Spans

variable {place stop : Nat} {spans : List (Nat × Nat)}

theorem nil (ended : cs.length ≤ place) : Spans p cs place [] where
  apart := .nil
  mem_iff start last := by
    refine iff_of_false List.not_mem_nil fun ⟨run, behind⟩ => ?_
    have holds := run.inside start (Nat.le_refl start) run.filled
    rw [HoldsAt, List.getElem?_eq_none (by omega)] at holds
    contradiction

theorem skip (other : ¬HoldsAt p cs place) (spanned : Spans p cs (place + 1) spans) :
    Spans p cs place spans where
  apart := spanned.apart
  mem_iff start last := by
    rw [spanned.mem_iff]
    refine and_congr_right fun run => ⟨Nat.le_of_succ_le, fun later => ?_⟩
    refine Nat.lt_of_le_of_ne later fun same => other ?_
    exact same ▸ run.inside start (Nat.le_refl start) run.filled

theorem cons (run : MaximalRun p cs place stop) (spanned : Spans p cs (stop + 1) spans) :
    Spans p cs place ((place, stop) :: spans) where
  apart := by
    refine List.pairwise_cons.mpr ⟨fun (start, last) member => ?_, spanned.apart⟩
    exact ((spanned.mem_iff start last).mp member).2
  mem_iff start last := by
    rw [List.mem_cons, spanned.mem_iff, Prod.mk.injEq]
    constructor
    · rintro (⟨rfl, rfl⟩ | ⟨other, behind⟩)
      · exact ⟨run, Nat.le_refl start⟩
      · exact ⟨other, by have filled := run.filled; omega⟩
    · rintro ⟨other, later⟩
      rcases Nat.lt_or_ge stop start with behind | reached
      · exact .inr ⟨other, behind⟩
      · exact .inl (run.eq_of_touching other later reached)

end Spans

theorem cut_append (passed run rest : List Char) :
    cut (passed ++ (run ++ rest)) (passed.length, passed.length + run.length) = run := by
  rw [cut, List.drop_left, Nat.add_sub_cancel_left, List.take_left]

section Reading

variable {passed run rest : List Char} (whole : cs = passed ++ (run.reverse ++ rest))
  (inside : ∀ c ∈ run, p c = true) (before : passed = [] ∨ ¬HoldsAt p passed (passed.length - 1))

include whole inside before

/-- Where no character of the kind follows, the run which was read is a maximal one. -/
theorem Spans.close (after : ¬HoldsAt p rest 0) {spans : List (Nat × Nat)}
    (behind : Spans p cs (passed.length + run.length + 1) spans) :
    ∃ found, Spans p cs passed.length found ∧
      found.map (cut cs) = (if run.isEmpty then [] else [run.reverse]) ++ spans.map (cut cs) := by
  cases run with
  | nil =>
      refine ⟨spans, .skip ?_ behind, rfl⟩
      rw [whole, ← Nat.add_zero passed.length, holdsAt_append_right]
      exact after
  | cons last run =>
      have reversed : ∀ c ∈ (last :: run).reverse, p c = true := fun c member =>
        inside c (List.mem_reverse.mp member)
      have maximal := MaximalRun.of_append (by simp) reversed before after
      have found := cut_append passed (last :: run).reverse rest
      rw [List.length_reverse, ← whole] at maximal found
      exact ⟨_, .cons maximal behind, congrArg (· :: spans.map (cut cs)) found⟩

/-- Every run is found which does not begin before the one which is being read. -/
theorem runsFrom_spans :
    ∃ spans, Spans p cs passed.length spans ∧ runsFrom p run rest = spans.map (cut cs) := by
  induction rest generalizing passed run with
  | nil =>
      have ended : cs.length ≤ passed.length + run.length + 1 := by simp [whole]
      obtain ⟨spans, spanned, cuts⟩ := Spans.close whole inside before (by simp [HoldsAt]) (.nil ended)
      exact ⟨spans, spanned, by rw [runsFrom, cuts, List.map_nil, List.append_nil]⟩
  | cons c rest ih =>
      cases holds : p c with
      | true =>
          have further : cs = passed ++ ((c :: run).reverse ++ rest) := by simp [whole]
          obtain ⟨spans, spanned, cuts⟩ :=
            ih further (List.forall_mem_cons.mpr ⟨holds, inside⟩) before
          exact ⟨spans, spanned, by rw [runsFrom, if_pos holds, cuts]⟩
      | false =>
          have other : ¬HoldsAt p (c :: rest) 0 := by simp [HoldsAt, holds]
          have further : cs = (passed ++ run.reverse ++ [c]) ++ ([].reverse ++ rest) := by
            simp [whole]
          obtain ⟨behind, spanned, cuts⟩ := ih further (by simp) (.inr (by simp [HoldsAt, holds]))
          have length : (passed ++ run.reverse ++ [c]).length = passed.length + run.length + 1 := by
            simp [Nat.add_assoc]
          rw [length] at spanned
          obtain ⟨spans, whole, found⟩ := Spans.close whole inside before other spanned
          refine ⟨spans, whole, ?_⟩
          rw [runsFrom, if_neg (by simp [holds]), found, ← cuts]
          cases run <;> rfl

end Reading

/-- A text is cut into its maximal runs. -/
theorem runs_maximal (p : Char → Bool) (cs : List Char) : MaximalRuns p cs (runs p cs) := by
  have whole : cs = [] ++ ([].reverse ++ cs) := rfl
  obtain ⟨spans, spanned, cuts⟩ := runsFrom_spans (p := p) whole (by simp) (.inl rfl)
  refine ⟨spans, spanned.apart, fun start stop => ?_, cuts⟩
  rw [spanned.mem_iff]
  exact and_iff_left (Nat.zero_le start)

theorem forall_mem_runs {run : List Char} (found : run ∈ runs p cs) : ∀ c ∈ run, p c = true := by
  obtain ⟨spans, -, maximal, cuts⟩ := runs_maximal p cs
  rw [cuts] at found
  obtain ⟨span, member, rfl⟩ := List.mem_map.mp found
  exact ((maximal span.1 span.2).mp member).forall_mem_cut

theorem runsFrom_append {word : List Char} (inside : ∀ c ∈ word, p c = true) (run rest : List Char) :
    runsFrom p run (word ++ rest) = runsFrom p (word.reverse ++ run) rest := by
  induction word generalizing run with
  | nil => rfl
  | cons c word ih =>
      obtain ⟨holds, others⟩ := List.forall_mem_cons.mp inside
      rw [List.cons_append, runsFrom, if_pos holds, ih others, List.reverse_cons, List.append_assoc]
      rfl

theorem runs_gap {gap : List Char} (outside : ∀ c ∈ gap, p c = false) (rest : List Char) :
    runs p (gap ++ rest) = runs p rest := by
  induction gap with
  | nil => rfl
  | cons c gap ih =>
      obtain ⟨other, others⟩ := List.forall_mem_cons.mp outside
      rw [List.cons_append, runs, runsFrom, if_neg (by simp [other])]
      exact ih others

section Word

variable {word : List Char} (filled : word ≠ []) (inside : ∀ c ∈ word, p c = true)

include filled inside

theorem runs_word : runs p word = [word] := by
  have read := runsFrom_append inside [] []
  rw [List.append_nil, List.append_nil] at read
  rw [runs, read, runsFrom, if_neg (by simpa using filled), List.reverse_reverse]

/-- A word ends where a gap begins. -/
theorem runs_word_gap {gap : List Char} (apart : gap ≠ []) (outside : ∀ c ∈ gap, p c = false)
    (rest : List Char) : runs p (word ++ (gap ++ rest)) = word :: runs p rest := by
  cases gap with
  | nil => contradiction
  | cons c gap =>
      obtain ⟨other, others⟩ := List.forall_mem_cons.mp outside
      rw [runs, runsFrom_append inside, List.append_nil, List.cons_append, runsFrom,
        if_neg (by simp [other]), if_neg (by simpa using filled), List.reverse_reverse]
      exact congrArg (word :: ·) (runs_gap others rest)

end Word

end Dossier.Text
