import Mathlib.Data.Nat.Find
import Mathlib.Logic.ExistsUnique
import TypeContracts.Proofs.Watching.Snapshot

/-!
# When a watcher fires

A watcher starts on a state and is shown further states, each at a time. What it keeps between two
polls is the state shown last and the time of the change that still waits to be answered. That
change is the last one, the state has been the same since, and no poll since has fired
(`Watcher.Waits`). Every poll keeps this (`Watcher.changedAt_eq_some_iff`).

So a poll fires exactly when it shows no change and the last change has waited long enough without
being answered. Every change that comes to rest is answered once, at the first poll that finds it
long enough ago, unless a further change comes before that poll and waits in its place
(`Watcher.fires_iff_rested`). Nothing is asked of the times: the statement holds for every clock
and for every notion of a difference. The states of a watcher of files are snapshots, and a file
that is deleted, made or touched between two polls changes them, also when this happens while a
poll is being answered.
-/

set_option autoImplicit false

namespace TypeContracts.Watcher

variable {State Time : Type} [DecidableEq State] [Sub Time] [LE Time] [DecidableLE Time]

/-! ## Polls -/

/-- A poll notes a change, or fires for the change that waits, or does nothing. -/
theorem poll_cases (wait : Time) (watcher : Watcher State Time) (seen : State) (now : Time) :
    (seen ≠ watcher.last ∧ watcher.poll wait seen now = (false, ⟨seen, some now⟩)) ∨
      (seen = watcher.last ∧ watcher.isDue wait now = true ∧
        watcher.poll wait seen now = (true, ⟨seen, none⟩)) ∨
      (seen = watcher.last ∧ watcher.isDue wait now = false ∧
        watcher.poll wait seen now = (false, watcher)) := by
  unfold poll
  by_cases same : seen = watcher.last
  · rw [if_neg (not_not.mpr same), same]
    cases due : watcher.isDue wait now with
    | true => exact .inr (.inl ⟨rfl, rfl, rfl⟩)
    | false => exact .inr (.inr ⟨rfl, rfl, rfl⟩)
  · exact .inl ⟨same, if_pos same⟩

omit [DecidableEq State] in
theorem isDue_iff {wait now : Time} {watcher : Watcher State Time} :
    watcher.isDue wait now = true ↔
      ∃ changedAt, watcher.changedAt = some changedAt ∧ wait ≤ now - changedAt := by
  unfold isDue
  cases watcher.changedAt <;> simp

theorem polls_append (wait : Time) (watcher : Watcher State Time)
    (front behind : List (State × Time)) :
    watcher.polls wait (front ++ behind) =
      ((watcher.polls wait front).1 ++ ((watcher.polls wait front).2.polls wait behind).1,
        ((watcher.polls wait front).2.polls wait behind).2) := by
  induction front generalizing watcher with
  | nil => rfl
  | cons first rest ih => simp only [List.cons_append, polls, ih]

/-! ## Runs -/

section Runs

variable (wait : Time) (seen : Nat → State) (time : Nat → Time)

/-- What a watcher is shown in the polls 1 to `n` of a run. -/
def shown (n : Nat) : List (State × Time) :=
  (List.range n).map fun i => (seen (i + 1), time (i + 1))

/-- The watcher behind poll `k` of a run that starts on the state 0. -/
def afterPolls : Nat → Watcher State Time
  | 0 => start (seen 0)
  | k + 1 => ((afterPolls k).poll wait (seen (k + 1)) (time (k + 1))).2

/-- Poll `k` of a run fires. There is no poll 0. -/
def fires : Nat → Bool
  | 0 => false
  | k + 1 => ((afterPolls wait seen time k).poll wait (seen (k + 1)) (time (k + 1))).1

/-- A run of polls, poll by poll. -/
theorem polls_shown (n : Nat) :
    (start (seen 0)).polls wait (shown seen time n) =
      ((List.range n).map fun i => fires wait seen time (i + 1), afterPolls wait seen time n) := by
  induction n with
  | zero => rfl
  | succ n ih =>
    have longer : shown seen time (n + 1) =
        shown seen time n ++ [(seen (n + 1), time (n + 1))] := by
      rw [shown, List.range_succ, List.map_append, List.map_singleton, shown]
    rw [longer, polls_append, ih, List.range_succ, List.map_append, List.map_singleton]
    rfl

/-- The change at poll `j` waits to be answered behind poll `k`: it was the last change, and no
poll has fired since. -/
structure Waits (k j : Nat) : Prop where
  counted : 1 ≤ j
  done : j ≤ k
  changed : seen j ≠ seen (j - 1)
  quiet : ∀ i, j ≤ i → i ≤ k → seen i = seen j
  silent : ∀ i, j < i → i ≤ k → fires wait seen time i = false

variable {wait seen time}

/-- What holds up to a poll and at the next one holds up to the next one. -/
theorem upTo_succ {holds : Nat → Prop} {j k : Nat} (before : ∀ i, j ≤ i → i ≤ k → holds i)
    (next : holds (k + 1)) : ∀ i, j ≤ i → i ≤ k + 1 → holds i := by
  intro i above below
  rcases Nat.eq_or_lt_of_le below with rfl | earlier
  · exact next
  · exact before i above (Nat.le_of_lt_succ earlier)

theorem last_afterPolls (k : Nat) : (afterPolls wait seen time k).last = seen k := by
  cases k with
  | zero => rfl
  | succ k => exact last_poll wait _ (seen (k + 1)) (time (k + 1))

/-- What poll `k + 1` of a run does. -/
theorem step_cases (wait : Time) (seen : Nat → State) (time : Nat → Time) (k : Nat) :
    (seen (k + 1) ≠ seen k ∧ fires wait seen time (k + 1) = false ∧
        (afterPolls wait seen time (k + 1)).changedAt = some (time (k + 1))) ∨
      (seen (k + 1) = seen k ∧ (afterPolls wait seen time k).isDue wait (time (k + 1)) = true ∧
        fires wait seen time (k + 1) = true ∧
        (afterPolls wait seen time (k + 1)).changedAt = none) ∨
      (seen (k + 1) = seen k ∧ (afterPolls wait seen time k).isDue wait (time (k + 1)) = false ∧
        fires wait seen time (k + 1) = false ∧
        afterPolls wait seen time (k + 1) = afterPolls wait seen time k) := by
  have last : (afterPolls wait seen time k).last = seen k := last_afterPolls k
  rw [fires, afterPolls]
  rcases poll_cases wait (afterPolls wait seen time k) (seen (k + 1)) (time (k + 1)) with
    ⟨changed, polled⟩ | ⟨same, due, polled⟩ | ⟨same, due, polled⟩
  · rw [last] at changed
    exact .inl ⟨changed, by rw [polled], by rw [polled]⟩
  · rw [last] at same
    exact .inr (.inl ⟨same, due, by rw [polled], by rw [polled]⟩)
  · rw [last] at same
    exact .inr (.inr ⟨same, due, by rw [polled], by rw [polled]⟩)

/-- A change that waits behind a poll is noted there, or has waited before and was not answered. -/
theorem waits_succ_iff {k j : Nat} :
    Waits wait seen time (k + 1) j ↔
      (j = k + 1 ∧ seen (k + 1) ≠ seen k) ∨
        (seen (k + 1) = seen k ∧ fires wait seen time (k + 1) = false ∧
          Waits wait seen time k j) := by
  constructor
  · intro waits
    rcases Nat.eq_or_lt_of_le waits.done with rfl | earlier
    · exact .inl ⟨rfl, waits.changed⟩
    · have same : seen (k + 1) = seen k :=
        (waits.quiet (k + 1) waits.done le_rfl).trans
          (waits.quiet k (by omega) (Nat.le_succ k)).symm
      exact .inr ⟨same, waits.silent (k + 1) earlier le_rfl, waits.counted, by omega,
        waits.changed, fun i above below => waits.quiet i above (by omega),
        fun i above below => waits.silent i above (by omega)⟩
  · rintro (⟨rfl, changed⟩ | ⟨same, silent, waits⟩)
    · refine ⟨by omega, le_rfl, changed, fun i above below => ?_, fun i above below => by omega⟩
      rw [Nat.le_antisymm below above]
    · refine ⟨waits.counted, Nat.le_succ_of_le waits.done, waits.changed, ?_, ?_⟩
      · exact upTo_succ waits.quiet (same.trans (waits.quiet k waits.done le_rfl))
      · exact upTo_succ waits.silent silent

/-- What a watcher keeps is the time of the change that waits. -/
theorem changedAt_eq_some_iff {k : Nat} {changedAt : Time} :
    (afterPolls wait seen time k).changedAt = some changedAt ↔
      ∃ j, Waits wait seen time k j ∧ time j = changedAt := by
  induction k with
  | zero =>
    constructor
    · intro noted
      cases noted
    · rintro ⟨j, waits, _⟩
      have := waits.counted
      have := waits.done
      omega
  | succ k ih =>
    simp only [waits_succ_iff]
    rcases step_cases wait seen time k with
      ⟨changed, _, noted⟩ | ⟨same, _, fired, noted⟩ | ⟨same, _, silent, kept⟩
    · simp [noted, changed]
    · simp [noted, same, fired]
    · simp [kept, ih, same, silent]

/-- A poll fires when it shows no change and the change that waits is long enough ago. -/
theorem fires_succ_iff {k : Nat} :
    fires wait seen time (k + 1) = true ↔
      seen (k + 1) = seen k ∧
        ∃ j, Waits wait seen time k j ∧ wait ≤ time (k + 1) - time j := by
  have due : (afterPolls wait seen time k).isDue wait (time (k + 1)) = true ↔
      ∃ j, Waits wait seen time k j ∧ wait ≤ time (k + 1) - time j := by
    rw [isDue_iff]
    simp only [changedAt_eq_some_iff]
    constructor
    · rintro ⟨_, ⟨j, waits, rfl⟩, rested⟩
      exact ⟨j, waits, rested⟩
    · rintro ⟨j, waits, rested⟩
      exact ⟨_, ⟨j, waits, rfl⟩, rested⟩
  rw [← due]
  rcases step_cases wait seen time k with
    ⟨changed, silent, _⟩ | ⟨same, isDue, fired, _⟩ | ⟨same, isDue, silent, _⟩
  · simp [changed, silent]
  · simp [same, isDue, fired]
  · simp [same, isDue, silent]

/-- Poll `k` answers the change at poll `j`: that was the last change, no poll between them has
fired, and it is long enough ago. -/
structure Answers (wait : Time) (seen : Nat → State) (time : Nat → Time) (fired : Nat → Prop)
    (k j : Nat) : Prop where
  counted : 1 ≤ j
  before : j < k
  changed : seen j ≠ seen (j - 1)
  quiet : ∀ i, j ≤ i → i ≤ k → seen i = seen j
  silent : ∀ i, j < i → i < k → ¬ fired i
  rested : wait ≤ time k - time j

/-- A poll fires exactly when it answers a change. -/
theorem fires_iff_answers {k : Nat} :
    fires wait seen time k = true ↔
      ∃ j, Answers wait seen time (fun i => fires wait seen time i = true) k j := by
  cases k with
  | zero =>
    refine ⟨fun fired => absurd fired (by simp [fires]), ?_⟩
    rintro ⟨j, answers⟩
    exact absurd answers.before (Nat.not_lt_zero j)
  | succ k =>
    rw [fires_succ_iff]
    constructor
    · rintro ⟨same, j, waits, rested⟩
      refine ⟨j, waits.counted, Nat.lt_succ_of_le waits.done, waits.changed, ?_, ?_, rested⟩
      · exact upTo_succ waits.quiet (same.trans (waits.quiet k waits.done le_rfl))
      · intro i above below
        simp [waits.silent i above (by omega)]
    · rintro ⟨j, answers⟩
      have before := answers.before
      have last := answers.quiet (k + 1) (Nat.le_of_lt before) le_rfl
      refine ⟨last.trans (answers.quiet k (by omega) (Nat.le_succ k)).symm, j, ?_, answers.rested⟩
      refine ⟨answers.counted, by omega, answers.changed, ?_, ?_⟩
      · exact fun i above below => answers.quiet i above (by omega)
      · exact fun i above below => by simpa using answers.silent i above (by omega)

omit [DecidableEq State] [DecidableLE Time] in
/-- Only the last change can be answered. -/
theorem Answers.eq {fired : Nat → Prop} {k j j' : Nat}
    (answers : Answers wait seen time fired k j) (counted : 1 ≤ j') (before : j' < k)
    (changed : seen j' ≠ seen (j' - 1)) (quiet : ∀ i, j' ≤ i → i ≤ k → seen i = seen j') :
    j = j' := by
  have before' := answers.before
  rcases Nat.lt_trichotomy j j' with less | same | less
  · refine absurd ?_ changed
    rw [answers.quiet j' (by omega) (by omega), answers.quiet (j' - 1) (by omega) (by omega)]
  · exact same
  · have := answers.counted
    refine absurd ?_ answers.changed
    rw [quiet j (by omega) (by omega), quiet (j - 1) (by omega) (by omega)]

/-- While nothing changes after a change, exactly one poll fires, if any poll comes long enough
after the change, and none otherwise. -/
theorem existsUnique_fires_iff {j m : Nat} (counted : 1 ≤ j) (changed : seen j ≠ seen (j - 1))
    (quiet : ∀ i, j ≤ i → i ≤ m → seen i = seen j) :
    (∃! k, j < k ∧ k ≤ m ∧ fires wait seen time k = true) ↔
      ∃ k, j < k ∧ k ≤ m ∧ wait ≤ time k - time j := by
  classical
  -- In the quiet period, a poll that fires answers this change and no other.
  have own : ∀ k, j < k → k ≤ m → fires wait seen time k = true →
      Answers wait seen time (fun i => fires wait seen time i = true) k j := by
    intro k above below fired
    obtain ⟨j', answers⟩ := fires_iff_answers.mp fired
    have same : j' = j :=
      answers.eq counted above changed fun i above below' => quiet i above (by omega)
    exact same ▸ answers
  constructor
  · rintro ⟨k, ⟨above, below, fired⟩, _⟩
    exact ⟨k, above, below, (own k above below fired).rested⟩
  · intro rests
    obtain ⟨above, below, rested⟩ := Nat.find_spec rests
    have fired : fires wait seen time (Nat.find rests) = true := by
      refine fires_iff_answers.mpr ⟨j, counted, above, changed, ?_, ?_, rested⟩
      · exact fun i above below' => quiet i above (by omega)
      · intro i above' below' fired
        exact Nat.find_min rests below'
          ⟨above', by omega, (own i above' (by omega) fired).rested⟩
    refine ⟨Nat.find rests, ⟨above, below, fired⟩, ?_⟩
    rintro k ⟨above', below', fired'⟩
    -- Of two polls that fire, the later one would answer a change that was answered.
    rcases Nat.lt_trichotomy k (Nat.find rests) with less | same | less
    · exact absurd fired' ((own _ above below fired).silent k above' less)
    · exact same
    · exact absurd fired ((own k above' below' fired').silent _ above less)

end Runs

/-! ## The answers of a run -/

/-- Poll `k` fires by the answers of a run, which begin with poll 1. -/
def FiresAt (answers : List Bool) : Nat → Prop
  | 0 => False
  | k + 1 => answers[k]? = some true

theorem firesAt_polls_iff (wait : Time) (seen : Nat → State) (time : Nat → Time) {n k : Nat}
    (asked : k ≤ n) :
    FiresAt ((start (seen 0)).polls wait (shown seen time n)).1 k ↔
      fires wait seen time k = true := by
  rw [polls_shown]
  cases k with
  | zero => simp [FiresAt, fires]
  | succ k => simp [FiresAt, List.getElem?_map, List.getElem?_range (show k < n from asked)]

/-- In a run of polls on any clock, a poll fires exactly when it shows no change and the last
change before it has been quiet, unanswered and long enough ago. Hence every change with a quiet
period behind it that is polled long enough after it is answered by exactly one poll of that
period. Where the states are snapshots, they change exactly when a watched file is seen in one of
them and not in the other, or with another modification time. -/
theorem fires_iff_rested (wait : Time) (seen : Nat → State) (time : Nat → Time) (n : Nat) :
    let answers := ((start (seen 0)).polls wait (shown seen time n)).1
    answers.length = n ∧
      (∀ k, 1 ≤ k → k ≤ n → (FiresAt answers k ↔
        seen k = seen (k - 1) ∧ ∃ j, 1 ≤ j ∧ j < k ∧ seen j ≠ seen (j - 1) ∧
          (∀ i, j ≤ i → i ≤ k → seen i = seen j) ∧
          (∀ i, j < i → i < k → ¬ FiresAt answers i) ∧ wait ≤ time k - time j)) ∧
      (∀ j m, 1 ≤ j → m ≤ n → seen j ≠ seen (j - 1) →
        (∀ i, j ≤ i → i ≤ m → seen i = seen j) →
          ((∃! k, j < k ∧ k ≤ m ∧ FiresAt answers k) ↔
            ∃ k, j < k ∧ k ≤ m ∧ wait ≤ time k - time j)) ∧
      ∀ (stamps stamps' : List (String × Int)) (watched watched' : List String)
        (before after : Snapshot), Scene.snapshotOf stamps watched = .ok before →
          Scene.snapshotOf stamps' watched' = .ok after →
            (before ≠ after ↔ ∃ entry, ¬ (Scene.Sees stamps watched entry ↔
              Scene.Sees stamps' watched' entry)) := by
  intro answers
  have fired : ∀ k ≤ n, (FiresAt answers k ↔ fires wait seen time k = true) :=
    fun k asked => firesAt_polls_iff wait seen time asked
  refine ⟨by simp [answers, polls_shown], fun k counted asked => ?_, ?_, ?_⟩
  · rw [fired k asked, fires_iff_answers]
    constructor
    · rintro ⟨j, a⟩
      have before := a.before
      refine ⟨?_, j, a.counted, before, a.changed, a.quiet, fun i above below => ?_, a.rested⟩
      · rw [a.quiet k (Nat.le_of_lt before) le_rfl, a.quiet (k - 1) (by omega) (by omega)]
      · rw [fired i (by omega)]
        exact a.silent i above below
    · rintro ⟨_, j, counted', before, changed, quiet, silent, rested⟩
      refine ⟨j, counted', before, changed, quiet, fun i above below => ?_, rested⟩
      rw [← fired i (by omega)]
      exact silent i above below
  · intro j m counted asked changed quiet
    rw [← existsUnique_fires_iff counted changed quiet]
    refine existsUnique_congr fun k => ?_
    constructor
    · rintro ⟨above, below, answered⟩
      exact ⟨above, below, (fired k (by omega)).mp answered⟩
    · rintro ⟨above, below, answered⟩
      exact ⟨above, below, (fired k (by omega)).mpr answered⟩
  · intro stamps stamps' watched watched' before after looked looked'
    rw [ne_eq, Scene.snapshotOf_eq_iff looked looked', not_forall]

/-- A change at poll 2 makes the change at poll 1 wait again; the answer comes at poll 4. -/
theorem fires_iff_rested_burst :
    let seen : Nat → Nat := fun k => min k 2
    let time : Nat → Int := fun k => k
    let answers := ((start (seen 0)).polls 2 (shown seen time 5)).1
    answers = [false, false, false, true, false] ∧
      ∃! k, 2 < k ∧ k ≤ 5 ∧ FiresAt answers k := by
  intro seen time answers
  refine ⟨by decide, ?_⟩
  have quiet : ∀ i, 2 ≤ i → i ≤ 5 → seen i = seen 2 := fun i above _ => Nat.min_eq_right above
  have rests : ∃ k, 2 < k ∧ k ≤ 5 ∧ 2 ≤ time k - time 2 := ⟨4, by decide⟩
  exact ((fires_iff_rested 2 seen time 5).2.2.1 2 5 (by decide) le_rfl (by decide) quiet).mpr rests

end TypeContracts.Watcher
