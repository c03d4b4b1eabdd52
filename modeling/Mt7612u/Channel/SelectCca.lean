import Mt7612u.Channel.SelectApCnt

/-! The channel taken by false CCAs, and both algorithms together. -/

namespace Mt7612u.Channel.AutoChSel
open Regions BuildList

namespace Setup

/-- The channel of an entry of the table is listed, and so is each one that its loop above comes
to: the list goes on far enough, or has a gap. -/
def NeighboursInside (s : Setup) (entry : BssEntry) : Prop :=
  ∃ idx < s.num, s.channelAt idx = entry.channel ∧
    (idx + s.aboveBound entry < s.num ∨
      ∃ gap, idx < gap ∧ gap < s.num ∧ s.channelAt (gap - 1) + 4 < s.channelAt gap)

/-- The channel passes the checks of the first two rules. -/
def Passing (s : Setup) (channel : Nat) : Prop :=
  s.skipListCheck channel = false ∧ s.passes channel = true

/-- The condition for the algorithm by false CCAs. -/
structure CcaSound (s : Setup) (table : BssInfo) : Prop where
  seen : ∀ entry ∈ table.entries, s.NeighboursInside entry
  groups : s.wide80 = true → ∀ k < s.num, s.Passing (s.channelAt k) → s.GroupInside k
  passing : s.SomeGood → ∀ k < s.num, s.Passing (s.channelAt k) → s.Good (s.channelAt k)
  admitted : s.SomeGood → (∀ k < s.num, ¬ s.Passing (s.channelAt k)) →
    ∀ k < s.num, s.Admissible (s.channelAt k) → s.Good (s.channelAt k)

end Setup

section Picks
variable {eligible stops : Nat → Bool} {weight : Nat → Nat} {near : Nat → List Int}

/-- One round for an entry that the rule looks at. -/
theorem pickLoop_eligible {k : Nat} (here : eligible k = true) (goes : stops k = false)
    (rest : List Nat) (pick : Pick) :
    ∃ next : Pick, pickLoop eligible stops weight near (k :: rest) pick =
        pickLoop eligible stops weight near rest next ∧
      next.used = near k ++ pick.used ∧ next.min ≤ weight k ∧ next.min ≤ pick.min ∧
      ((next.candidate = some k ∧ next.min = weight k) ∨
        (next.candidate = pick.candidate ∧ next.min = pick.min)) := by
  rw [pickLoop, if_pos here, if_neg (Bool.eq_false_iff.mp goes)]
  by_cases less : weight k < pick.min
  · rw [if_pos less]
    exact ⟨_, rfl, rfl, Nat.le_refl _, Nat.le_of_lt less, .inl ⟨rfl, rfl⟩⟩
  · rw [if_neg less]
    exact ⟨_, rfl, rfl, Nat.le_of_not_lt less, Nat.le_refl _, .inr ⟨rfl, rfl⟩⟩

theorem pickLoop_other {k : Nat} (other : eligible k = false) (rest : List Nat) (pick : Pick) :
    pickLoop eligible stops weight near (k :: rest) pick =
      pickLoop eligible stops weight near rest pick := by
  rw [pickLoop, if_neg (Bool.eq_false_iff.mp other)]

theorem pickLoop_stops {k : Nat} (here : eligible k = true) (ends : stops k = true)
    (rest : List Nat) (pick : Pick) :
    pickLoop eligible stops weight near (k :: rest) pick = pick := by
  rw [pickLoop, if_pos here, if_pos ends]

/-- The candidate is one that the rule looked at. -/
theorem pickLoop_candidate {k : Nat} : ∀ (loop : List Nat) (pick : Pick),
    (pickLoop eligible stops weight near loop pick).candidate = some k →
      pick.candidate = some k ∨ k ∈ loop ∧ eligible k = true := by
  intro loop
  induction loop with
  | nil => exact fun pick found => .inl found
  | cons j rest ih =>
    intro pick found
    cases here : eligible j with
    | false =>
      rw [pickLoop_other here] at found
      exact (ih pick found).imp_right fun known => ⟨List.mem_cons_of_mem _ known.1, known.2⟩
    | true =>
      cases ends : stops j with
      | true =>
        rw [pickLoop_stops here ends] at found
        exact .inl found
      | false =>
        obtain ⟨next, step, _, _, _, taken⟩ :=
          @pickLoop_eligible _ _ weight near j here ends rest pick
        rw [step] at found
        rcases ih next found with before | known
        · rcases taken with ⟨new, _⟩ | ⟨kept, _⟩
          · have same : j = k := Option.some.inj (new.symm.trans before)
            subst same
            exact .inr ⟨List.mem_cons_self, here⟩
          · exact .inl (kept.symm.trans before)
        · exact .inr ⟨List.mem_cons_of_mem _ known.1, known.2⟩

/-- Without a candidate the rule looked at nothing before it stopped. -/
theorem pickLoop_none {bound : Nat} (light : ∀ k, weight k < bound) :
    ∀ (loop : List Nat) (pick : Pick), (pick.candidate = none → bound ≤ pick.min) →
      (pickLoop eligible stops weight near loop pick).candidate = none →
        (∀ k ∈ loop, eligible k = false) ∨ ∃ k ∈ loop, eligible k = true ∧ stops k = true := by
  intro loop
  induction loop with
  | nil => exact fun pick _ _ => .inl fun k member => absurd member List.not_mem_nil
  | cons j rest ih =>
    intro pick free none_left
    cases here : eligible j with
    | false =>
      rw [pickLoop_other here] at none_left
      rcases ih pick free none_left with others | ⟨k, member, known⟩
      · refine .inl fun k member => ?_
        rcases List.mem_cons.mp member with rfl | behind
        · exact here
        · exact others k behind
      · exact .inr ⟨k, List.mem_cons_of_mem _ member, known⟩
    | true =>
      cases ends : stops j with
      | true => exact .inr ⟨j, List.mem_cons_self, here, ends⟩
      | false =>
        exfalso
        -- the weight is below the start of the minimum, so that a candidate is there from now on
        have stays : ∀ (loop : List Nat) (pick : Pick), pick.candidate ≠ none →
            (pickLoop eligible stops weight near loop pick).candidate ≠ none := by
          intro loop
          induction loop with
          | nil => exact fun pick some_left => some_left
          | cons i loop ih =>
            intro pick some_left
            rw [pickLoop]
            split_ifs
            · exact some_left
            · exact ih _ (Option.some_ne_none _)
            · exact ih _ some_left
            · exact ih _ some_left
        rw [pickLoop, if_pos here, if_neg (Bool.eq_false_iff.mp ends)] at none_left
        split at none_left
        · exact stays rest _ (Option.some_ne_none _) none_left
        · rename_i heavy
          refine stays rest _ (fun nothing => ?_) none_left
          have above := free nothing
          have below := light j
          omega

/-- A rule that never stops takes one of the least weight. -/
theorem pickLoop_least (goes : ∀ k, stops k = false) : ∀ (loop : List Nat) (pick : Pick),
    (pickLoop eligible stops weight near loop pick).min ≤ pick.min ∧
      (∀ k ∈ loop, eligible k = true →
        (pickLoop eligible stops weight near loop pick).min ≤ weight k) ∧
      ((∀ k, pick.candidate = some k → pick.min = weight k) →
        ∀ k, (pickLoop eligible stops weight near loop pick).candidate = some k →
          (pickLoop eligible stops weight near loop pick).min = weight k) := by
  intro loop
  induction loop with
  | nil => exact fun pick =>
      ⟨Nat.le_refl _, fun k member => absurd member List.not_mem_nil, fun known => known⟩
  | cons j rest ih =>
    intro pick
    cases here : eligible j with
    | false =>
      rw [pickLoop_other here]
      refine ⟨(ih pick).1, fun k member known => ?_, (ih pick).2.2⟩
      rcases List.mem_cons.mp member with rfl | behind
      · rw [here] at known
        cases known
      · exact (ih pick).2.1 k behind known
    | true =>
      obtain ⟨next, step, _, light, less, taken⟩ :=
        @pickLoop_eligible _ _ weight near j here (goes j) rest pick
      rw [step]
      refine ⟨Nat.le_trans (ih next).1 less, fun k member known => ?_, fun known => ?_⟩
      · rcases List.mem_cons.mp member with rfl | behind
        · exact Nat.le_trans (ih next).1 light
        · exact (ih next).2.1 k behind known
      · refine (ih next).2.2 fun k found => ?_
        rcases taken with ⟨new, at_new⟩ | ⟨kept, at_kept⟩
        · have same : j = k := Option.some.inj (new.symm.trans found)
          rw [← same]
          exact at_new
        · exact at_kept.trans (known k (kept.symm.trans found))

/-- Only entries near one that the rule looked at are read. -/
theorem pickLoop_used {index : Int} : ∀ (loop : List Nat) (pick : Pick),
    index ∈ (pickLoop eligible stops weight near loop pick).used →
      index ∈ pick.used ∨ ∃ k ∈ loop, eligible k = true ∧ index ∈ near k := by
  intro loop
  induction loop with
  | nil => exact fun pick used => .inl used
  | cons j rest ih =>
    intro pick used
    cases here : eligible j with
    | false =>
      rw [pickLoop_other here] at used
      exact (ih pick used).imp_right fun ⟨k, member, known⟩ =>
        ⟨k, List.mem_cons_of_mem _ member, known⟩
    | true =>
      cases ends : stops j with
      | true =>
        rw [pickLoop_stops here ends] at used
        exact .inl used
      | false =>
        obtain ⟨next, step, reads, _⟩ := @pickLoop_eligible _ _ weight near j here ends rest pick
        rw [step] at used
        rcases ih next used with before | ⟨k, member, known⟩
        · rw [reads] at before
          rcases List.mem_append.mp before with read | earlier
          · exact .inr ⟨j, List.mem_cons_self, here, read⟩
          · exact .inl earlier
        · exact .inr ⟨k, List.mem_cons_of_mem _ member, known⟩

/-- A rule that never stops reads near each entry that it looks at. -/
theorem pickLoop_reads (goes : ∀ k, stops k = false) {index : Int} :
    ∀ (loop : List Nat) (pick : Pick),
      (index ∈ pick.used ∨ ∃ k ∈ loop, eligible k = true ∧ index ∈ near k) →
        index ∈ (pickLoop eligible stops weight near loop pick).used := by
  intro loop
  induction loop with
  | nil =>
    intro pick used
    rcases used with before | ⟨k, member, _⟩
    · exact before
    · exact absurd member List.not_mem_nil
  | cons j rest ih =>
    intro pick used
    cases here : eligible j with
    | false =>
      rw [pickLoop_other here]
      refine ih pick (used.imp_right fun ⟨k, member, known⟩ => ⟨k, ?_, known⟩)
      rcases List.mem_cons.mp member with rfl | behind
      · rw [here] at known
        cases known.1
      · exact behind
    | true =>
      obtain ⟨next, step, reads, _⟩ := @pickLoop_eligible _ _ weight near j here (goes j) rest pick
      rw [step]
      apply ih next
      rcases used with before | ⟨k, member, known⟩
      · rw [reads]
        exact .inl (List.mem_append_right _ before)
      · rcases List.mem_cons.mp member with rfl | behind
        · rw [reads]
          exact .inl (List.mem_append_left _ known.2)
        · exact .inr ⟨k, behind, known⟩

/-- The only entry that the rule looks at is taken. -/
theorem pickLoop_only {k : Nat} (light : ∀ j, weight j < 0xffffffff) {loop : List Nat}
    (member : k ∈ loop) (here : eligible k = true) (goes : stops k = false)
    (only : ∀ j ∈ loop, eligible j = true → j = k) :
    (pickLoop eligible stops weight near loop noPick).candidate = some k := by
  cases found : (pickLoop eligible stops weight near loop noPick).candidate with
  | none =>
    exfalso
    rcases pickLoop_none light loop noPick (fun _ => Nat.le_refl _) found with
      others | ⟨j, known, looked, ends⟩
    · rw [others k member] at here
      cases here
    · rw [only j known looked, goes] at ends
      cases ends
  | some j =>
    rcases pickLoop_candidate loop noPick found with start | ⟨known, looked⟩
    · cases start
    · rw [only j known looked]

end Picks

section Table
variable {s : Setup}

theorem grows_aboveLoop (idx : Nat) : ∀ (loop : List Nat) (info : Info),
    Info.Grows info (s.aboveLoop idx loop info) := by
  intro loop
  induction loop with
  | nil => exact Info.Grows.refl
  | cons d rest ih =>
    intro info
    rw [Setup.aboveLoop]
    split_ifs
    · exact Info.Grows.refl info
    · exact Info.Grows.refl info
    · exact (info.grows_add _ _).trans (ih _)

theorem grows_belowTurn (idx : Nat) (info : Info) (d : Nat) :
    Info.Grows info (s.belowTurn idx info d) := by
  unfold Setup.belowTurn
  split
  · exact info.grows_add _ _
  · exact Info.Grows.refl info

/-- What the loop above leaves in the end. -/
theorem bssTurn_above (info : Info) (entry : BssEntry) : ∃ marked : Info,
    Info.Grows (info.add (s.getChIdx entry.channel) 40) marked ∧
      Info.Grows (s.aboveLoop (s.getChIdx entry.channel)
        (List.range' 1 (s.aboveBound entry)) marked) (s.bssTurn info entry) := by
  refine ⟨((info.add _ _).add _ 40), ?_, Info.grows_foldl (grows_belowTurn _) _ _⟩
  refine ⟨fun index used => ?_, fun index => ?_⟩
  · rcases List.mem_cons.mp used with rfl | before
    · exact List.mem_cons_self
    · exact List.mem_cons_of_mem _ (List.mem_cons_of_mem _ before)
  · by_cases same : index = s.getChIdx entry.channel
    · rw [same, Info.add_at, Info.add_at, Info.add_at]
      omega
    · rw [Info.add_other _ _ same, Info.add_other _ _ same, Info.add_other _ _ same]

theorem grows_bssTurn (info : Info) (entry : BssEntry) :
    Info.Grows info (s.bssTurn info entry) := by
  obtain ⟨marked, early, late⟩ := @bssTurn_above s info entry
  exact (info.grows_add _ 40).trans (early.trans ((grows_aboveLoop _ _ marked).trans late))

theorem aboveLoop_inside {idx : Nat} : ∀ count start (info : Info),
    (idx + start + count ≤ s.num ∨ ∃ gap, idx + start ≤ gap ∧ gap < s.num ∧
      s.channelAt (gap - 1) + 4 < s.channelAt gap) →
    Info.Inside s.num info →
      Info.Inside s.num (s.aboveLoop idx (List.range' start count) info) := by
  intro count
  induction count with
  | zero => exact fun start info _ before => before
  | succ count ih =>
    intro start info reaches before
    rw [List.range'_succ, Setup.aboveLoop]
    split_ifs with _ no_gap
    · exact before
    · exact before
    · have listed : idx + start < s.num := by
        rcases reaches with ends | ⟨gap, above, known, _⟩
        · omega
        · omega
      refine ih (start + 1) _ ?_ (before.add (by omega) (by omega) _)
      rcases reaches with ends | ⟨gap, above, known, apart⟩
      · exact .inl (by omega)
      · refine .inr ⟨gap, ?_, known, apart⟩
        have other : gap ≠ idx + start := by
          rintro rfl
          exact no_gap apart
        omega

/-- Without a gap the loop comes to the entry behind the list. -/
theorem aboveLoop_behind (sane : s.Sane) {idx : Nat} : ∀ count start (info : Info),
    idx + start ≤ s.num → s.num < idx + start + count → 1 ≤ start →
    (∀ gap, idx + start ≤ gap → gap < s.num → ¬ s.channelAt (gap - 1) + 4 < s.channelAt gap) →
      (s.num : Int) ∈ (s.aboveLoop idx (List.range' start count) info).used := by
  have few := sane.few
  intro count
  induction count with
  | zero =>
    intro start info low high
    omega
  | succ count ih =>
    intro start info low high positive no_gap
    rw [List.range'_succ, Setup.aboveLoop, if_neg (by omega)]
    by_cases last : idx + start = s.num
    · have zero := sane.behind s.num (Nat.le_refl _) few
      rw [last, zero, if_neg (Nat.not_lt_zero _)]
      exact (grows_aboveLoop idx _ _).used _ List.mem_cons_self
    · rw [if_neg (no_gap _ (Nat.le_refl _) (by omega))]
      exact ih (start + 1) _ (by omega) (by omega) (by omega)
        fun gap above below => no_gap gap (by omega) below

theorem bssTurn_inside (sane : s.Sane) {info : Info} {entry : BssEntry}
    (near : s.NeighboursInside entry) (before : Info.Inside s.num info) :
    Info.Inside s.num (s.bssTurn info entry) := by
  obtain ⟨idx, listed, same, reaches⟩ := near
  have found : s.getChIdx entry.channel = idx := by
    rw [← same]
    exact getChIdx_at sane listed
  unfold Setup.bssTurn
  rw [found]
  dsimp only
  refine Info.Inside.foldl ?_ ?_
  · intro info d _ before
    unfold Setup.belowTurn
    split
    · exact before.add (by omega) (by omega) _
    · exact before
  · apply aboveLoop_inside
    · rcases reaches with ends | ⟨gap, above, known, apart⟩
      · exact .inl (by omega)
      · exact .inr ⟨gap, by omega, known, apart⟩
    · exact (before.add (by omega) (by omega) _).add (by omega) (by omega) _

theorem neighboursInside_of_turn (sane : s.Sane) {info : Info} {entry : BssEntry}
    (inside : Info.Inside s.num (s.bssTurn info entry)) : s.NeighboursInside entry := by
  obtain ⟨marked, early, late⟩ := @bssTurn_above s info entry
  have own := inside _ (late.used _ ((grows_aboveLoop _ _ marked).used _
    (early.used _ List.mem_cons_self)))
  rcases getChIdx_cases (s := s) entry.channel with ⟨listed, same⟩ | ⟨behind, _⟩
  · refine ⟨_, listed, same, ?_⟩
    by_contra runs_out
    rw [not_or, not_exists] at runs_out
    have reached := @aboveLoop_behind s sane (s.getChIdx entry.channel) (s.aboveBound entry)
      1 marked (by omega) (by omega) (Nat.le_refl _) fun gap above below apart =>
        runs_out.2 gap ⟨by omega, below, apart⟩
    have bounds := inside _ (late.used _ reached)
    omega
  · omega

theorem ccaDirty_inside_iff (sane : s.Sane) (table : BssInfo) :
    Info.Inside s.num (s.ccaDirty table) ↔ ∀ entry ∈ table.entries, s.NeighboursInside entry := by
  constructor
  · intro inside entry member
    obtain ⟨reached, grows⟩ := Info.foldl_at grows_bssTurn member Info.reset
    exact neighboursInside_of_turn sane fun index used => inside index (grows.used index used)
  · intro seen
    exact Info.Inside.foldl (fun info entry member => bssTurn_inside sane (seen entry member))
      (Info.inside_reset _)

/-- What a loop over the channels near an entry adds at most. -/
def spent (loop : List Nat) : Nat := loop.foldr (fun d sum => (9 - d) * 4 + sum) 0

theorem aboveLoop_dirty (idx : Nat) (index : Int) : ∀ (loop : List Nat) (info : Info),
    (s.aboveLoop idx loop info).dirtyness index ≤ info.dirtyness index + spent loop := by
  intro loop
  induction loop with
  | nil => exact fun info => Nat.le_refl _
  | cons d rest ih =>
    intro info
    rw [Setup.aboveLoop]
    split_ifs
    · exact Nat.le_add_right _ _
    · exact Nat.le_add_right _ _
    · have added := info.add_le (idx + d : Nat) index ((9 - d) * 4)
      have later := ih (info.add (idx + d : Nat) ((9 - d) * 4))
      calc (s.aboveLoop idx rest (info.add (idx + d : Nat) ((9 - d) * 4))).dirtyness index
        _ ≤ (info.add (idx + d : Nat) ((9 - d) * 4)).dirtyness index + spent rest := later
        _ ≤ info.dirtyness index + (9 - d) * 4 + spent rest := Nat.add_le_add_right added _
        _ = info.dirtyness index + spent (d :: rest) := Nat.add_assoc _ _ _

theorem belowLoop_dirty (idx : Nat) (index : Int) : ∀ (loop : List Nat) (info : Info),
    (loop.foldl (s.belowTurn idx) info).dirtyness index ≤ info.dirtyness index + spent loop := by
  intro loop
  induction loop with
  | nil => exact fun info => Nat.le_refl _
  | cons d rest ih =>
    intro info
    have added : (s.belowTurn idx info d).dirtyness index ≤ info.dirtyness index + (9 - d) * 4 := by
      unfold Setup.belowTurn
      split
      · exact info.add_le _ _ _
      · exact Nat.le_add_right _ _
    calc ((d :: rest).foldl (s.belowTurn idx) info).dirtyness index
      _ ≤ (s.belowTurn idx info d).dirtyness index + spent rest := ih _
      _ ≤ info.dirtyness index + (9 - d) * 4 + spent rest := Nat.add_le_add_right added _
      _ = info.dirtyness index + spent (d :: rest) := Nat.add_assoc _ _ _

theorem spent_le {bound : Nat} (few : bound ≤ 8) : spent (List.range' 1 bound) ≤ 144 := by
  have all : ∀ bound < 9, spent (List.range' 1 bound) ≤ 144 := by decide
  exact all bound (by omega)

theorem bounds_le (entry : BssEntry) : s.aboveBound entry ≤ 8 ∧ s.belowBound entry ≤ 8 := by
  unfold Setup.aboveBound Setup.belowBound
  constructor
  · split_ifs <;> decide
  · split_ifs <;> decide

theorem bssTurn_dirty (info : Info) (entry : BssEntry) (index : Int) :
    (s.bssTurn info entry).dirtyness index ≤ info.dirtyness index + 378 := by
  unfold Setup.bssTurn
  dsimp only
  generalize signal_is : (if rssiToDbmOffset - 50 ≤ entry.rssi then 50
    else if entry.rssi ≤ rssiToDbmOffset - 80 then 30 else 40) = signal
  have weak : signal ≤ 50 := by
    rw [← signal_is]
    split_ifs <;> decide
  generalize s.getChIdx entry.channel = idx
  have first := info.add_le idx index signal
  have second := (info.add idx signal).add_le idx index 40
  have above := aboveLoop_dirty (s := s) idx index (List.range' 1 (s.aboveBound entry))
    ((info.add idx signal).add idx 40)
  have below := belowLoop_dirty (s := s) idx index (List.range' 1 (s.belowBound entry))
    (s.aboveLoop idx (List.range' 1 (s.aboveBound entry)) ((info.add idx signal).add idx 40))
  have above_le := spent_le (@bounds_le s entry).1
  have below_le := spent_le (@bounds_le s entry).2
  omega

theorem ccaDirty_le (table : BssInfo) (index : Int) :
    (s.ccaDirty table).dirtyness index ≤ 48384 := by
  have sum : ∀ (entries : List BssEntry) (info : Info),
      (entries.foldl s.bssTurn info).dirtyness index ≤
        info.dirtyness index + 378 * entries.length := by
    intro entries
    induction entries with
    | nil => exact fun info => Nat.le_add_right _ _
    | cons entry rest ih =>
      intro info
      have turn := @bssTurn_dirty s info entry index
      have later := ih (s.bssTurn info entry)
      rw [List.foldl_cons, List.length_cons]
      omega
  have bounded : (s.ccaDirty table).dirtyness index ≤ 0 + 378 * table.entries.length :=
    sum table.entries Info.reset
  have fits := table.fits
  unfold maxLenOfBssTable at fits
  omega

theorem sumOver_le {value : Int → Nat} {bound : Nat} (light : ∀ index, value index ≤ bound) :
    ∀ indices : List Int, sumOver value indices ≤ bound * indices.length := by
  intro indices
  induction indices with
  | nil => exact Nat.zero_le _
  | cons index rest ih =>
    have here := light index
    rw [List.length_cons, Nat.mul_succ]
    have step : sumOver value (index :: rest) = value index + sumOver value rest := rfl
    omega

theorem le_sumOver {value : Int → Nat} {index : Int} : ∀ {indices : List Int},
    index ∈ indices → value index ≤ sumOver value indices := by
  intro indices
  induction indices with
  | nil => exact fun member => absurd member List.not_mem_nil
  | cons first rest ih =>
    intro member
    have step : sumOver value (first :: rest) = value first + sumOver value rest := rfl
    rcases List.mem_cons.mp member with rfl | behind
    · omega
    · have later := ih behind
      omega

theorem length_pairAt (k : Nat) : (s.pairAt k).length ≤ 1 := by
  unfold Setup.pairAt
  dsimp only
  split
  · exact Nat.le_refl 1
  · exact Nat.zero_le 1

theorem length_dirtyNear (k : Nat) : (s.dirtyNear k).length ≤ 4 := by
  have pair := @length_pairAt s k
  unfold Setup.dirtyNear
  split_ifs
  · rw [List.length_cons]
    omega
  all_goals simp [groupAt]

theorem length_falseNear (k : Nat) : (s.falseNear k).length ≤ 4 := by
  have pair := @length_pairAt s k
  unfold Setup.falseNear
  split_ifs
  · rw [List.length_cons]
    omega
  all_goals simp [groupAt]

end Table

section Cca
variable {s : Setup} {m : Measured} {table : BssInfo}

theorem pairAt_inside {k : Nat} {index : Int} (member : index ∈ s.pairAt k) :
    0 ≤ index ∧ index < s.num := by
  unfold Setup.pairAt at member
  dsimp only at member
  split at member
  · rename_i inside
    rw [List.mem_singleton.mp member]
    exact inside
  · exact absurd member List.not_mem_nil

theorem dirtyNear_inside (groups : s.wide80 = true → ∀ k < s.num, s.Passing (s.channelAt k) →
    s.GroupInside k) {k : Nat} (listed : k < s.num) (passing : s.Passing (s.channelAt k))
    {index : Int} (member : index ∈ s.dirtyNear k) : 0 ≤ index ∧ index < s.num := by
  unfold Setup.dirtyNear at member
  split at member
  · split at member
    · rcases List.mem_cons.mp member with rfl | pair
      · omega
      · exact pairAt_inside pair
    · split at member
      · rename_i wide
        exact groups wide k listed passing index member
      · rw [List.mem_singleton.mp member]
        omega
  · rcases List.mem_append.mp member with lower | above
    · rcases List.mem_append.mp lower with own | below
      · rw [List.mem_singleton.mp own]
        omega
      · split at below
        · rw [List.mem_singleton.mp below]
          omega
        · exact absurd below List.not_mem_nil
    · split at above
      · rw [List.mem_singleton.mp above]
        omega
      · exact absurd above List.not_mem_nil

theorem falseNear_inside (groups : s.wide80 = true → ∀ k < s.num, s.Passing (s.channelAt k) →
    s.GroupInside k) {k : Nat} (listed : k < s.num) (passing : s.Passing (s.channelAt k))
    {index : Int} (member : index ∈ s.falseNear k) : 0 ≤ index ∧ index < s.num := by
  unfold Setup.falseNear at member
  split at member
  · split at member
    · rcases List.mem_cons.mp member with rfl | pair
      · omega
      · exact pairAt_inside pair
    · rw [List.mem_singleton.mp member]
      omega
  · split at member
    · rename_i wide
      exact groups wide k listed passing index member
    · rw [List.mem_singleton.mp member]
      omega

theorem eligible_iff (sane : s.Sane) {k : Nat} (listed : k < s.num) (counted : Nat → Bool) :
    s.eligible counted k = true ↔ s.Passing (s.channelAt k) ∧ counted k = true := by
  rw [Setup.eligible, skipListSetDirty_at sane listed, Setup.Passing]
  simp only [Bool.and_eq_true, Bool.not_eq_true']
  exact ⟨fun ⟨⟨skip, rule⟩, passes⟩ => ⟨⟨skip, passes⟩, rule⟩,
    fun ⟨⟨skip, passes⟩, rule⟩ => ⟨⟨skip, rule⟩, passes⟩⟩

/-- The candidate of a rule. -/
theorem rule_some (sane : s.Sane) {counted stops : Nat → Bool} {weight : Nat → Nat}
    {near : Nat → List Int} {k : Nat}
    (found : (pickLoop (s.eligible counted) stops weight near (List.range s.num)
      noPick).candidate = some k) :
    k < s.num ∧ s.Passing (s.channelAt k) ∧ counted k = true := by
  rcases pickLoop_candidate _ noPick found with start | ⟨member, looked⟩
  · cases start
  · have listed := List.mem_range.mp member
    exact ⟨listed, (eligible_iff sane listed counted).mp looked⟩

/-- A rule that reads inside the list for each channel that passes. -/
theorem rule_inside (sane : s.Sane) {counted stops : Nat → Bool} {weight : Nat → Nat}
    {near : Nat → List Int} {index : Int}
    (near_inside : ∀ k < s.num, s.Passing (s.channelAt k) → index ∈ near k →
      0 ≤ index ∧ index < s.num)
    (used : index ∈ (pickLoop (s.eligible counted) stops weight near (List.range s.num)
      noPick).used) : 0 ≤ index ∧ index < s.num := by
  rcases pickLoop_used _ noPick used with start | ⟨k, member, looked, near_k⟩
  · exact absurd start List.not_mem_nil
  · have listed := List.mem_range.mp member
    exact near_inside k listed ((eligible_iff sane listed counted).mp looked).1 near_k

theorem rule1_light (k : Nat) :
    sumOver (s.ccaDirty table).dirtyness (s.dirtyNear k) < 0xffffffff := by
  have light := sumOver_le (ccaDirty_le (s := s) table) (s.dirtyNear k)
  have few := @length_dirtyNear s k
  have four := Nat.mul_le_mul_left 48384 few
  omega

theorem false_le (m : Measured) (index : Int) :
    (s.ccaDirty table).dirtyness index + (m.falseCCA index).toNat ≤ 113919 := by
  have dirty := @ccaDirty_le s table index
  have counter := (m.falseCCA index).isLt
  omega

theorem rule2_light (k : Nat) :
    sumOver (fun i => (s.ccaDirty table).dirtyness i + (m.falseCCA i).toNat) (s.falseNear k) <
      0xffffffff := by
  have light := sumOver_le (@false_le s table m) (s.falseNear k)
  have few := @length_falseNear s k
  have four := Nat.mul_le_mul_left 113919 few
  omega

/-- When no candidate is left, no channel passes, or the first rule has stopped at channel 14. -/
theorem none_passing (sane : s.Sane)
    (none_first : (s.ccaRule1 m (s.ccaDirty table)).candidate = none)
    (none_second : (s.ccaRule2 m (s.ccaDirty table)).candidate = none) :
    (∀ k < s.num, ¬ s.Passing (s.channelAt k)) ∨
      s.isABand = false ∧ s.Passing 14 := by
  rcases pickLoop_none rule1_light _ noPick (fun _ => Nat.le_refl _) none_first with
    others | ⟨k, member, looked, stops⟩
  · refine .inl fun k listed passing => ?_
    have not_first := others k (List.mem_range.mpr listed)
    rcases pickLoop_none (@rule2_light s m table) _ noPick (fun _ => Nat.le_refl _) none_second with
      later | ⟨j, _, _, stops⟩
    · have not_second := later k (List.mem_range.mpr listed)
      by_cases quiet : (m.falseCCA k).toNat ≤ ccaThreshold
      · have looked := (eligible_iff sane listed fun k =>
          decide ((m.falseCCA k).toNat ≤ ccaThreshold)).mpr ⟨passing, decide_eq_true quiet⟩
        rw [looked] at not_first
        cases not_first
      · have looked := (eligible_iff sane listed fun k =>
          decide (ccaThreshold < (m.falseCCA k).toNat)).mpr
          ⟨passing, decide_eq_true (Nat.lt_of_not_le quiet)⟩
        rw [looked] at not_second
        cases not_second
    · cases stops
  · have listed := List.mem_range.mp member
    simp only [Bool.and_eq_true, Bool.not_eq_true', beq_iff_eq] at stops
    refine .inr ⟨stops.1, ?_⟩
    rw [← stops.2]
    exact ((eligible_iff sane listed _).mp looked).1

/-- Outside the band of 5 GHz, where channel 14 passes, each channel that is not skipped does. -/
theorem passing_of_14 (low : s.isABand = false) (passing : s.Passing 14) {channel : Nat}
    (admissible : s.Admissible channel) : s.Passing channel := by
  refine ⟨admissible.1, ?_⟩
  have wide : s.wide80 = false := by
    have known := passing.2
    unfold Setup.passes at known
    rw [show acChannelGroupCheck 14 = false by decide, Bool.or_false, Bool.and_eq_true] at known
    exact (Bool.not_eq_true' _).mp known.2
  unfold Setup.passes
  rw [low, wide, Bool.and_false, Bool.false_and]
  rfl

theorem ccaRule3_good (sound : s.CcaSound table) (some_good : s.SomeGood)
    (none_left : (∀ k < s.num, ¬ s.Passing (s.channelAt k)) ∨ s.isABand = false ∧ s.Passing 14) :
    ∃ k < s.num, s.Good (s.channelAt k) ∧ s.ccaRule3 m = s.channelAt k := by
  obtain ⟨known, known_inside, known_good⟩ := some_good.found
  have positive : 0 < s.num := Nat.zero_lt_of_lt known_inside
  have mod : ∀ i, i % s.num < s.num := fun i => Nat.mod_lt _ positive
  unfold Setup.ccaRule3
  rcases randomLoop_cases (s := s) m.randomByte.toNat (fun _ channel =>
    !s.skipListCheck channel && !s.avoided channel)
    (List.range s.num) 1 with ⟨k, _, taken, same⟩ | ⟨none, _⟩
  · simp only [Bool.and_eq_true, Bool.not_eq_true'] at taken
    refine ⟨_, mod _, ?_, same⟩
    rcases none_left with nothing | ⟨low, passing⟩
    · exact sound.admitted some_good nothing _ (mod _) taken
    · exact sound.passing some_good _ (mod _) (passing_of_14 low passing taken)
  · -- the loop comes to the good channel
    exfalso
    have turned : (m.randomByte.toNat + (known + s.num - m.randomByte.toNat % s.num) % s.num) %
        s.num = known := by
      have below := mod m.randomByte.toNat
      rw [Nat.add_mod_mod, ← Nat.mod_add_mod, Nat.add_sub_cancel' (by omega), Nat.add_mod_right,
        Nat.mod_eq_of_lt known_inside]
    have refused := none _ (List.mem_range.mpr
      (mod (known + s.num - m.randomByte.toNat % s.num)))
    rw [turned, known_good.admissible.1, known_good.admissible.2] at refused
    cases refused

theorem cca_selects (sane : s.Sane) (known : s.bssInfoTab = some table)
    (sound : s.CcaSound table) :
    (∀ index ∈ (s.selectClearChannelCCA m).used, 0 ≤ index ∧ index < s.num) ∧
      (s.SomeGood → ∃ k < s.num, s.Good (s.channelAt k) ∧
        (s.selectClearChannelCCA m).channel = s.channelAt k) := by
  have first : ∀ index ∈ s.own ++ (s.ccaDirty table).used ++
      (s.ccaRule1 m (s.ccaDirty table)).used, 0 ≤ index ∧ index < s.num := by
    intro index used
    rcases List.mem_append.mp used with before | near
    · rcases List.mem_append.mp before with own | dirty
      · obtain ⟨k, member, same⟩ := List.mem_map.mp own
        have listed := List.mem_range.mp member
        omega
      · exact (ccaDirty_inside_iff sane table).mpr sound.seen index dirty
    · exact rule_inside sane
        (fun k listed passing => dirtyNear_inside sound.groups listed passing) near
  have both : ∀ index ∈ s.own ++ (s.ccaDirty table).used ++
      (s.ccaRule1 m (s.ccaDirty table)).used ++ (s.ccaRule2 m (s.ccaDirty table)).used,
      0 ≤ index ∧ index < s.num := by
    intro index used
    rcases List.mem_append.mp used with before | near
    · exact first index before
    · exact rule_inside sane
        (fun k listed passing => falseNear_inside sound.groups listed passing) near
  unfold Setup.selectClearChannelCCA
  rw [known]
  dsimp only
  split
  · rename_i k found
    have passing := rule_some sane found
    exact ⟨first, fun some_good =>
      ⟨k, passing.1, sound.passing some_good k passing.1 passing.2.1, rfl⟩⟩
  · rename_i none_first
    split
    · rename_i k found
      have passing := rule_some sane found
      exact ⟨both, fun some_good =>
        ⟨k, passing.1, sound.passing some_good k passing.1 passing.2.1, rfl⟩⟩
    · rename_i none_second
      exact ⟨both, fun some_good =>
        ccaRule3_good sound some_good (none_passing sane none_first none_second)⟩

end Cca

section CcaNeeds
variable {s : Setup} {m : Measured} {table : BssInfo}

theorem cca_used (known : s.bssInfoTab = some table) {index : Int}
    (used : index ∈ (s.ccaDirty table).used) : index ∈ (s.selectClearChannelCCA m).used := by
  have first : index ∈ s.own ++ (s.ccaDirty table).used ++
      (s.ccaRule1 m (s.ccaDirty table)).used :=
    List.mem_append_left _ (List.mem_append_right _ used)
  unfold Setup.selectClearChannelCCA
  rw [known]
  dsimp only
  split
  · exact first
  · split
    · exact List.mem_append_left _ first
    · exact List.mem_append_left _ first

theorem cca_first (known : s.bssInfoTab = some table) {k : Nat}
    (found : (s.ccaRule1 m (s.ccaDirty table)).candidate = some k) :
    (s.selectClearChannelCCA m).channel = s.channelAt k := by
  unfold Setup.selectClearChannelCCA
  rw [known]
  dsimp only
  rw [found]

theorem cca_second (known : s.bssInfoTab = some table) {k : Nat}
    (none_first : (s.ccaRule1 m (s.ccaDirty table)).candidate = none)
    (found : (s.ccaRule2 m (s.ccaDirty table)).candidate = some k) :
    (s.selectClearChannelCCA m).channel = s.channelAt k := by
  unfold Setup.selectClearChannelCCA
  rw [known]
  dsimp only
  rw [none_first, found]

theorem cca_third (known : s.bssInfoTab = some table)
    (none_first : (s.ccaRule1 m (s.ccaDirty table)).candidate = none)
    (none_second : (s.ccaRule2 m (s.ccaDirty table)).candidate = none) :
    (s.selectClearChannelCCA m).channel = s.ccaRule3 m := by
  unfold Setup.selectClearChannelCCA
  rw [known]
  dsimp only
  rw [none_first, none_second]

theorem cca_second_used (known : s.bssInfoTab = some table)
    (none_first : (s.ccaRule1 m (s.ccaDirty table)).candidate = none) {index : Int}
    (used : index ∈ (s.ccaRule2 m (s.ccaDirty table)).used) :
    index ∈ (s.selectClearChannelCCA m).used := by
  unfold Setup.selectClearChannelCCA
  rw [known]
  dsimp only
  rw [none_first]
  dsimp only
  split
  · exact List.mem_append_right _ used
  · exact List.mem_append_right _ used

/-- Every counter is above the threshold. -/
theorem loud_rule1 (sane : s.Sane) (loud : ∀ k : Nat, ccaThreshold < (m.falseCCA k).toNat)
    (info : Info) : (s.ccaRule1 m info).candidate = none := by
  cases found : (s.ccaRule1 m info).candidate with
  | none => rfl
  | some k =>
    have quiet := (rule_some sane found).2.2
    exact absurd (loud k) (Nat.not_lt_of_le (of_decide_eq_true quiet))

/-- Counters of one value but for one entry. -/
def countersWith (k : Nat) (here others : BitVec 16) : Measured :=
  ⟨fun _ => 0, fun index => if index = k then here else others, 0⟩

theorem groups_of_selects (sane : s.Sane) (known : s.bssInfoTab = some table)
    (inside : ∀ m, ∀ index ∈ (s.selectClearChannelCCA m).used, 0 ≤ index ∧ index < s.num)
    (wide : s.wide80 = true) {k : Nat} (listed : k < s.num) (passing : s.Passing (s.channelAt k)) :
    s.GroupInside k := by
  intro index member
  have loud : ∀ i : Nat, ccaThreshold < ((countersWith 0 101 101).falseCCA i).toNat := by
    intro i
    unfold countersWith
    dsimp only
    rw [ite_self]
    decide
  apply inside (countersWith 0 101 101)
  refine cca_second_used known (loud_rule1 sane loud _) ?_
  refine pickLoop_reads (fun _ => rfl) _ noPick (.inr ⟨k, List.mem_range.mpr listed, ?_, ?_⟩)
  · exact (eligible_iff sane listed _).mpr ⟨passing, decide_eq_true (loud k)⟩
  · unfold Setup.falseNear
    rw [not_wide40_of_wide80 wide, if_neg Bool.false_ne_true, if_pos wide]
    exact member

/-- A passing channel is taken when it alone is quiet. -/
theorem quiet_taken (sane : s.Sane) (known : s.bssInfoTab = some table) {k : Nat}
    (listed : k < s.num) (passing : s.Passing (s.channelAt k))
    (goes : (!s.isABand && s.channelAt k == 14) = false) :
    (s.selectClearChannelCCA (countersWith k 0 101)).channel = s.channelAt k := by
  apply cca_first known
  refine pickLoop_only rule1_light (List.mem_range.mpr listed) ?_ goes ?_
  · refine (eligible_iff sane listed _).mpr ⟨passing, decide_eq_true ?_⟩
    unfold countersWith
    dsimp only
    rw [if_pos rfl]
    decide
  · intro j member looked
    by_contra other
    have quiet := of_decide_eq_true ((eligible_iff sane (List.mem_range.mp member) _).mp looked).2
    unfold countersWith at quiet
    dsimp only at quiet
    rw [if_neg (by omega)] at quiet
    exact absurd quiet (by decide)

/-- Channel 14, where the first rule stops, is taken by the second when the others are louder. -/
theorem loud_taken (sane : s.Sane) (known : s.bssInfoTab = some table) {k : Nat}
    (listed : k < s.num) (passing : s.Passing (s.channelAt k)) (last : s.channelAt k = 14) :
    (s.selectClearChannelCCA (countersWith k 101 65535)).channel = s.channelAt k := by
  have at_k : ((countersWith k 101 65535).falseCCA k).toNat = 101 := by
    unfold countersWith
    dsimp only
    rw [if_pos rfl]
    rfl
  have at_other : ∀ {j : Nat}, j ≠ k → ((countersWith k 101 65535).falseCCA j).toNat = 65535 := by
    intro j other
    unfold countersWith
    dsimp only
    rw [if_neg (by omega)]
    rfl
  have loud : ∀ j : Nat, ccaThreshold < ((countersWith k 101 65535).falseCCA j).toNat := by
    intro j
    by_cases same : j = k
    · rw [same, at_k]
      decide
    · rw [at_other same]
      decide
  have wide : s.wide80 = false := by
    have checked := passing.2
    unfold Setup.passes at checked
    rw [last, show acChannelGroupCheck 14 = false by decide, Bool.or_false, Bool.and_eq_true]
      at checked
    exact (Bool.not_eq_true' _).mp checked.2
  have own : ∀ j, (j : Int) ∈ s.falseNear j := by
    intro j
    unfold Setup.falseNear
    rw [wide]
    split
    · split
      · exact List.mem_cons_self
      · exact List.mem_cons_self
    · rw [if_neg Bool.false_ne_true]
      exact List.mem_cons_self
  have alone : s.falseNear k = [(k : Int)] := by
    unfold Setup.falseNear
    rw [wide, last, if_neg (not_not.mpr (by decide))]
    split <;> rfl
  have looked := (eligible_iff sane listed fun j => decide (ccaThreshold <
    ((countersWith k 101 65535).falseCCA j).toNat)).mpr ⟨passing, decide_eq_true (loud k)⟩
  have least := @pickLoop_least
    (s.eligible fun j => decide (ccaThreshold < ((countersWith k 101 65535).falseCCA j).toNat))
    (fun _ => false)
    (fun j => sumOver (fun i => (s.ccaDirty table).dirtyness i +
      ((countersWith k 101 65535).falseCCA i).toNat) (s.falseNear j))
    s.falseNear (fun _ => rfl) (List.range s.num) noPick
  have none_first := loud_rule1 (m := countersWith k 101 65535) sane loud (s.ccaDirty table)
  cases found : (s.ccaRule2 (countersWith k 101 65535) (s.ccaDirty table)).candidate with
  | none =>
    exfalso
    rcases pickLoop_none rule2_light _ noPick (fun _ => Nat.le_refl _) found with
      others | ⟨j, _, _, stops⟩
    · have refused := others k (List.mem_range.mpr listed)
      rw [looked] at refused
      cases refused
    · cases stops
  | some j =>
    have same : j = k := by
      by_contra other
      have light := least.2.1 k (List.mem_range.mpr listed) looked
      have heavy := least.2.2 (fun i (start : none = some i) => nomatch start) j found
      have at_least := @le_sumOver (fun i => (s.ccaDirty table).dirtyness i +
        ((countersWith k 101 65535).falseCCA i).toNat) j _ (own j)
      have bounded := @ccaDirty_le s table k
      have weight_k : sumOver (fun i => (s.ccaDirty table).dirtyness i +
          ((countersWith k 101 65535).falseCCA i).toNat) [(k : Int)] =
          (s.ccaDirty table).dirtyness k + ((countersWith k 101 65535).falseCCA k).toNat := rfl
      rw [alone, weight_k, at_k] at light
      rw [at_other other] at at_least
      omega
    rw [same] at found
    exact cca_second known none_first found

/-- Without a passing channel the last rule starts at any. -/
theorem random_taken (sane : s.Sane) (known : s.bssInfoTab = some table)
    (nothing : ∀ k < s.num, ¬ s.Passing (s.channelAt k)) {k : Nat} (listed : k < s.num)
    (admissible : s.Admissible (s.channelAt k)) :
    (s.selectClearChannelCCA (crowded k)).channel = s.channelAt k := by
  have none_first : (s.ccaRule1 (crowded k) (s.ccaDirty table)).candidate = none :=
    Option.eq_none_iff_forall_ne_some.mpr fun j found =>
      nothing j (rule_some sane found).1 (rule_some sane found).2.1
  have none_second : (s.ccaRule2 (crowded k) (s.ccaDirty table)).candidate = none :=
    Option.eq_none_iff_forall_ne_some.mpr fun j found =>
      nothing j (rule_some sane found).1 (rule_some sane found).2.1
  have few := sane.few
  unfold maxNumOfChannels at few
  have start : (k + 0) % s.num = k := Nat.mod_eq_of_lt listed
  rw [cca_third known none_first none_second]
  unfold Setup.ccaRule3
  rw [crowded_base (by omega), List.range_eq_range']
  have first := randomLoop_first (s := s) k (fun _ channel =>
    !s.skipListCheck channel && !s.avoided channel) (k := 0)
    (by rw [start, admissible.1, admissible.2]; rfl) s.num 0 (Nat.le_refl _) (by omega)
    (fun i _ before => absurd before (Nat.not_lt_zero i)) 1
  rw [first, start]

end CcaNeeds

/-- The algorithm by false CCAs, when there is a table. -/
theorem cca_selects_iff {s : Setup} (sane : s.Sane) {table : BssInfo}
    (known : s.bssInfoTab = some table) :
    (∀ m, (∀ index ∈ (s.selectClearChannelCCA m).used, 0 ≤ index ∧ index < s.num) ∧
      (s.SomeGood → ∃ k < s.num, s.Good (s.channelAt k) ∧
        (s.selectClearChannelCCA m).channel = s.channelAt k)) ↔ s.CcaSound table := by
  constructor
  · intro selects
    have taken : s.SomeGood → ∀ m k, (s.selectClearChannelCCA m).channel = s.channelAt k →
        s.Good (s.channelAt k) := by
      intro some_good m k chosen
      obtain ⟨_, _, good, same⟩ := (selects m).2 some_good
      rw [← chosen, same]
      exact good
    exact {
      seen := (ccaDirty_inside_iff sane table).mp fun index used =>
        (selects (crowded 0)).1 index (cca_used known used)
      groups := fun wide k listed passing =>
        groups_of_selects sane known (fun m => (selects m).1) wide listed passing
      passing := by
        intro some_good k listed passing
        cases stops : !s.isABand && s.channelAt k == 14 with
        | false => exact taken some_good _ k (quiet_taken sane known listed passing stops)
        | true =>
          simp only [Bool.and_eq_true, beq_iff_eq] at stops
          exact taken some_good _ k (loud_taken sane known listed passing stops.2)
      admitted := fun some_good nothing k listed admissible =>
        taken some_good _ k (random_taken sane known nothing listed admissible) }
  · exact fun sound m => cca_selects sane known sound

/-- The condition. -/
def Setup.Sound (s : Setup) : ChannelSelAlg → Prop
  | .random | .apCnt => s.ApCntSound
  | .cca =>
    match s.bssInfoTab with
    | none => s.SomeGood → s.Good s.chans.firstChannel
    | some table => s.CcaSound table

theorem chosen_iff {s : Setup} {channel : Nat} :
    (channel ∈ s.chans.listed ∧ s.Good channel) ↔
      ∃ k < s.num, s.Good (s.channelAt k) ∧ channel = s.channelAt k := by
  constructor
  · intro ⟨listed, good⟩
    obtain ⟨k, inside, same⟩ := mem_listed.mp listed
    exact ⟨k, inside, same.symm ▸ good, same.symm⟩
  · intro ⟨k, inside, good, same⟩
    rw [same]
    exact ⟨channelAt_mem inside, good⟩

theorem selects_iff {s : Setup} {alg : ChannelSelAlg} {m : Measured} :
    s.Selects alg m ↔
      (∀ index ∈ (s.selectBestChannel alg m).used, 0 ≤ index ∧ index < s.num) ∧
        (s.SomeGood → ∃ k < s.num, s.Good (s.channelAt k) ∧
          (s.selectBestChannel alg m).channel = s.channelAt k) := by
  constructor
  · exact fun selects => ⟨selects.inside, fun some_good => chosen_iff.mp (selects.good some_good)⟩
  · exact fun selects => ⟨selects.1, fun some_good => chosen_iff.mpr (selects.2 some_good)⟩

/-- For all that may be measured, a call does what is asked of it exactly when the condition on the
list, the configuration and the table holds. -/
theorem selectBestChannel_selects_iff (s : Setup) (built : s.Built) (alg : ChannelSelAlg) :
    (∀ m, s.Selects alg m) ↔ s.Sound alg := by
  have sane := built.sane
  rw [forall_congr' fun m => @selects_iff s alg m]
  cases alg with
  | random => exact apCnt_selects_iff sane
  | apCnt => exact apCnt_selects_iff sane
  | cca =>
    unfold Setup.Sound
    cases known : s.bssInfoTab with
    | some table => exact cca_selects_iff sane known
    | none =>
      have outcome : ∀ m, s.selectBestChannel .cca m = ⟨s.chans.firstChannel, []⟩ := by
        intro m
        unfold Setup.selectBestChannel Setup.selectClearChannelCCA
        dsimp only
        rw [known]
      constructor
      · intro selects some_good
        obtain ⟨_, _, good, same⟩ := (selects (crowded 0)).2 some_good
        rw [outcome] at same
        rw [show s.chans.firstChannel = _ from same]
        exact good
      · intro first m
        rw [outcome]
        refine ⟨fun index used => absurd used List.not_mem_nil, fun some_good => ?_⟩
        obtain ⟨k, inside, _⟩ := some_good.found
        exact ⟨0, by omega, first some_good, rfl⟩

/-- Europe at 2.4 GHz, 20 MHz, with nothing to skip. -/
def etsiSetup : Setup where
  chans := (etsi.buildChannelList etsiAlloc ⟨fun _ => cleared, 13⟩).1
  isABand := false
  bw40 := false
  vhtBw := 0
  extcha := 0
  bAvoidDfsChannel := false
  autoChannelSkipList := []
  bssInfoTab := none

theorem etsiSetup_built : etsiSetup.Built :=
  ⟨etsi, etsiAlloc, ⟨fun _ => cleared, 13⟩, etsi_contains, rfl, by decide⟩

theorem selectBestChannel_selects_etsi :
    (∀ m, etsiSetup.Selects .cca m) ↔ etsiSetup.Sound .cca :=
  selectBestChannel_selects_iff etsiSetup etsiSetup_built .cca

/-- One access point on channel 13, the last, makes the entry behind the list dirty. -/
theorem not_selects_behind : ¬ ∀ s : Setup, s.Built → ∀ alg m, s.Selects alg m := by
  intro all
  have inside := (all etsiSetup etsiSetup_built .apCnt
    ⟨fun k => if k = 12 then 1 else 0, fun _ => 0, 0⟩).inside 13 (by decide +kernel)
  exact absurd inside.2 (by decide +kernel)

end Mt7612u.Channel.AutoChSel
