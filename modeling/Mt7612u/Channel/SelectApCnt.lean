import Mathlib.Data.Nat.Find
import Mt7612u.Channel.AutoChSel

/-! The channel taken by the number of access points: when the arrays are used inside the list and
the channel is a good one, whatever is counted. The measure that decides is one where every channel
is full of access points, for then only the last rule is left. -/

namespace Mt7612u.Channel.AutoChSel
open Regions BuildList

section ApCnt
variable {s : Setup} {m : Measured}

theorem grows_foldl_add (indices : List Int) (amount : Nat) (info : Info) :
    Info.Grows info (indices.foldl (fun info index => info.add index amount) info) :=
  Info.grows_foldl (fun info index => info.grows_add index amount) indices info

theorem grows_secondaryDirty (k : Nat) (info : Info) :
    Info.Grows info (s.secondaryDirty k info) := by
  unfold Setup.secondaryDirty
  dsimp only
  split_ifs
  · exact info.grows_add _ _
  · exact Info.Grows.refl info
  · exact info.grows_add _ _
  · exact Info.Grows.refl info
  · exact Info.Grows.refl info
  · exact Info.Grows.refl info

theorem grows_above (k : Nat) (info : Info) (d : Nat) :
    Info.Grows info (if k + 1 + d < maxNumOfChannels then info.add (k + 1 + d) 1 else info) := by
  split
  · exact info.grows_add _ _
  · exact Info.Grows.refl info

theorem grows_below (k : Nat) (info : Info) (d : Nat) :
    Info.Grows info (if d + 1 ≤ k then info.add (k - 1 - d) 1 else info) := by
  split
  · exact info.grows_add _ _
  · exact Info.Grows.refl info

theorem grows_near2GHZDirty (k : Nat) (info : Info) :
    Info.Grows info (s.near2GHZDirty k info) := by
  unfold Setup.near2GHZDirty
  exact (Info.grows_foldl (grows_above k) _ info).trans (Info.grows_foldl (grows_below k) _ _)

/-- The counter of the entry itself, and of those near it. -/
theorem grows_turn_add (info : Info) {k : Nat} (seen : 0 < m.apCnt k) :
    Info.Grows (info.add k 30) (s.apCntTurn m info k) := by
  unfold Setup.apCntTurn
  rw [if_pos seen]
  dsimp only
  split_ifs
  · exact grows_secondaryDirty k _
  · exact grows_foldl_add _ 1 _
  · exact Info.Grows.refl _
  · exact grows_near2GHZDirty k _

theorem grows_apCntTurn (info : Info) (k : Nat) : Info.Grows info (s.apCntTurn m info k) := by
  by_cases seen : 0 < m.apCnt k
  · exact (info.grows_add k 30).trans (grows_turn_add info seen)
  · unfold Setup.apCntTurn
    rw [if_neg seen]
    exact Info.Grows.refl info

theorem mem_foldl_add {indices : List Int} {index : Int} (member : index ∈ indices) (amount : Nat)
    (info : Info) :
    index ∈ (indices.foldl (fun info index => info.add index amount) info).used := by
  obtain ⟨reached, grows⟩ :=
    Info.foldl_at (fun info index => info.grows_add index amount) member info
  exact grows.used index List.mem_cons_self

/-- Outside the band of 5 GHz the last entry makes the one behind the list dirty. -/
theorem near2GHZDirty_behind (sane : s.Sane) (some_listed : 0 < s.num) (info : Info) :
    (s.num : Int) ∈ (s.near2GHZDirty (s.num - 1) info).used := by
  unfold Setup.near2GHZDirty
  dsimp only
  apply (Info.grows_foldl (grows_below (s.num - 1)) _ _).used
  have member : 0 ∈ List.range (if s.bw40 && s.extcha == extchaBelow then 8 else 4) := by
    rw [List.mem_range]
    split <;> decide
  obtain ⟨reached, grows⟩ := Info.foldl_at (grows_above (s.num - 1)) member info
  apply grows.used
  have few := sane.few
  rw [if_pos (by omega)]
  refine List.mem_cons.mpr (.inl ?_)
  omega

theorem secondaryDirty_inside (sane : s.Sane) {k : Nat} (inside : k < s.num) {info : Info}
    (before : Info.Inside s.num info) : Info.Inside s.num (s.secondaryDirty k info) := by
  unfold Setup.secondaryDirty
  dsimp only
  split_ifs with _ _ above _ below
  · -- no channel stands behind the list, so that the entry above is listed
    have listed : k + 1 < s.num := by
      by_contra outside
      have zero := sane.behind (k + 1) (Nat.le_of_not_lt outside) above.1
      omega
    exact before.add (by omega) (by omega) 1
  · exact before
  · exact before.add (by omega) (by omega) 1
  · exact before
  · exact before
  · exact before

theorem apCntDirty_inside (sane : s.Sane) (sound : s.ApCntSound) :
    Info.Inside s.num (s.apCntDirty m) := by
  unfold Setup.apCntDirty
  refine Info.Inside.foldl ?_ (Info.inside_reset _)
  intro info k member before
  have inside := List.mem_range.mp member
  unfold Setup.apCntTurn
  split
  · have own : Info.Inside s.num (info.add k 30) := before.add (by omega) (by omega) 30
    rw [if_pos (sound.band (by omega))]
    split
    · exact secondaryDirty_inside sane inside own
    · split
      · rename_i wide
        refine Info.Inside.foldl ?_ own
        intro info index near before
        have listed := sound.groups wide k inside index near
        exact before.add listed.1 listed.2 1
      · exact own
  · exact before

theorem apCntRule1_admissible (sane : s.Sane) {info : Info} {k : Nat}
    (found : s.apCntRule1 info = some k) : k < s.num ∧ s.Admissible (s.channelAt k) := by
  have inside := List.mem_range.mp (List.mem_of_find?_eq_some found)
  have checks := List.find?_some found
  simp only [Bool.and_eq_true, Bool.not_eq_true'] at checks
  obtain ⟨⟨⟨unmarked, free⟩, _⟩, _⟩ := checks
  rw [skipListSetDirty_at sane inside] at unmarked
  exact ⟨inside, unmarked, free⟩

theorem apCntBetter_admissible (sane : s.Sane) (info : Info) (dirty : Nat) :
    ∀ (loop : List Nat) (best : Nat × Nat), (∀ k ∈ loop, k < s.num) →
      (loop.foldl (s.apCntBetter m info dirty) best).1 = best.1 ∨
        ∃ k < s.num, s.Admissible (s.channelAt k) ∧
          (loop.foldl (s.apCntBetter m info dirty) best).1 = s.channelAt k := by
  intro loop
  induction loop with
  | nil => exact fun best _ => .inl rfl
  | cons k rest ih =>
    intro best inside
    rw [List.foldl_cons]
    rcases ih (s.apCntBetter m info dirty best k)
      (fun j member => inside j (List.mem_cons_of_mem _ member)) with kept | found
    · rw [kept]
      unfold Setup.apCntBetter
      split_ifs with candidate _ _ avoids
      · exact .inl rfl
      · exact .inl rfl
      · exact .inl rfl
      · simp only [Bool.and_eq_true, Bool.not_eq_true'] at candidate
        have unmarked := candidate.1.1
        rw [skipListSetDirty_at sane (inside k List.mem_cons_self)] at unmarked
        exact .inr ⟨k, inside k List.mem_cons_self,
          ⟨unmarked, Bool.eq_false_iff.mpr avoids⟩, rfl⟩
      · exact .inl rfl
    · exact .inr found

theorem apCntRule2_admissible (sane : s.Sane) {info : Info} {final : Nat}
    (found : s.apCntRule2 m info = some final) :
    ∃ k < s.num, s.Admissible (s.channelAt k) ∧ final = s.channelAt k := by
  obtain ⟨dirty, _, same⟩ := List.exists_of_findSome?_eq_some found
  dsimp only at same
  split at same
  · rename_i nonzero
    have final_is := Option.some.inj same
    rcases apCntBetter_admissible sane info dirty (List.range s.num) (0, 255)
      (fun k member => List.mem_range.mp member) with kept | ⟨k, inside, admissible, taken⟩
    · exact absurd kept nonzero
    · exact ⟨k, inside, admissible, final_is.symm.trans taken⟩
  · cases same

/-- The last rule under the condition. -/
theorem apCntRule3_good (sound : s.ApCntSound) (some_good : s.SomeGood) :
    ∃ k < s.num, s.Good (s.channelAt k) ∧ s.apCntRule3 m = s.channelAt k := by
  obtain ⟨known, known_inside, _⟩ := some_good.found
  have positive : 0 < s.num := Nat.zero_lt_of_lt known_inside
  have mod : ∀ i, i % s.num < s.num := fun i => Nat.mod_lt _ positive
  have base_mod : ∀ i, (m.randomByte.toNat % s.num + i) % s.num =
      (m.randomByte.toNat + i) % s.num := fun i => Nat.mod_add_mod _ _ _
  unfold Setup.apCntRule3
  rcases randomLoop_cases (s := s) m.randomByte.toNat (fun k channel =>
    !s.skipListCheck channel && s.capable (s.channelAt k) && !s.avoided channel)
    (List.range s.num) 0 with ⟨k, _, taken, same⟩ | ⟨none, ends⟩
  · simp only [Bool.and_eq_true, Bool.not_eq_true'] at taken
    exact ⟨_, mod _, sound.admitted some_good _ (mod _) ⟨taken.1.1, taken.2⟩, same⟩
  · have last : (List.range s.num).getLast? = some (s.num - 1) := by
      rw [List.getLast?_range, if_neg (by omega)]
    refine ⟨_, mod _, ?_, ends _ last⟩
    rcases sound.started some_good (m.randomByte.toNat % s.num) (mod _) with
      ⟨k, inside, capable, good⟩ | good
    · rw [base_mod] at good
      have passed := none k (List.mem_range.mpr inside)
      simp only [good.admissible.1, good.admissible.2, capable] at passed
      cases passed
    · rw [base_mod] at good
      exact good

theorem apCnt_selects (sane : s.Sane) (sound : s.ApCntSound) :
    (∀ index ∈ (s.selectClearChannelApCnt m).used, 0 ≤ index ∧ index < s.num) ∧
      (s.SomeGood → ∃ k < s.num, s.Good (s.channelAt k) ∧
        (s.selectClearChannelApCnt m).channel = s.channelAt k) := by
  have inside : ∀ index ∈ s.own ++ (s.apCntDirty m).used, 0 ≤ index ∧ index < s.num := by
    intro index used
    rcases List.mem_append.mp used with own | near
    · obtain ⟨k, member, same⟩ := List.mem_map.mp own
      have listed := List.mem_range.mp member
      omega
    · exact apCntDirty_inside sane sound index near
  unfold Setup.selectClearChannelApCnt
  dsimp only
  split
  · rename_i k found
    have admitted := apCntRule1_admissible sane found
    exact ⟨inside, fun some_good =>
      ⟨k, admitted.1, sound.admitted some_good k admitted.1 admitted.2, rfl⟩⟩
  · split
    · rename_i final found
      obtain ⟨k, known, admissible, same⟩ := apCntRule2_admissible sane found
      exact ⟨inside, fun some_good =>
        ⟨k, known, sound.admitted some_good k known admissible, same⟩⟩
    · exact ⟨inside, fun some_good => apCntRule3_good sound some_good⟩

end ApCnt

section ApCntNeeds
variable {s : Setup}

/-- Every channel is full of access points, so that only the last rule is left. -/
def crowded (base : Nat) : Measured := ⟨fun _ => 255, fun _ => 0, BitVec.ofNat 8 base⟩

theorem crowded_base {base : Nat} (small : base < 256) :
    (crowded base).randomByte.toNat = base := by
  unfold crowded
  rw [BitVec.toNat_ofNat, Nat.mod_eq_of_lt small]

/-- What the turn of an entry leaves in the end. -/
theorem apCntDirty_turn (base : Nat) {k : Nat} (inside : k < s.num) :
    ∃ reached : Info, Info.Grows (s.apCntTurn (crowded base) reached k)
      (s.apCntDirty (crowded base)) :=
  Info.foldl_at grows_apCntTurn (List.mem_range.mpr inside) Info.reset

theorem crowded_dirty (base : Nat) {k : Nat} (inside : k < s.num) :
    30 ≤ (s.apCntDirty (crowded base)).dirtyness k := by
  obtain ⟨reached, grows⟩ := @apCntDirty_turn s base k inside
  have seen : 0 < (crowded base).apCnt k := Nat.succ_pos 254
  calc 30
    _ ≤ reached.dirtyness k + 30 := Nat.le_add_left _ _
    _ = (reached.add k 30).dirtyness k := (Info.add_at reached k 30).symm
    _ ≤ (s.apCntDirty (crowded base)).dirtyness k :=
      ((grows_turn_add reached seen).trans grows).dirty k

theorem crowded_rule1 (base : Nat) : s.apCntRule1 (s.apCntDirty (crowded base)) = none := by
  refine List.find?_eq_none.mpr fun k member passed => ?_
  have dirty := @crowded_dirty s base k (List.mem_range.mp member)
  simp only [Bool.and_eq_true, beq_iff_eq] at passed
  omega

theorem crowded_rule2 (base : Nat) (info : Info) : s.apCntRule2 (crowded base) info = none := by
  have kept : ∀ dirty (loop : List Nat),
      loop.foldl (s.apCntBetter (crowded base) info dirty) (0, 255) = (0, 255) := by
    intro dirty loop
    induction loop with
    | nil => rfl
    | cons k rest ih =>
      have step : s.apCntBetter (crowded base) info dirty (0, 255) k = (0, 255) := by
        unfold Setup.apCntBetter crowded
        rw [if_neg (by simp)]
      rw [List.foldl_cons, step]
      exact ih
  refine List.findSome?_eq_none_iff.mpr fun dirty _ => ?_
  dsimp only
  rw [kept, if_neg (by decide)]

theorem crowded_outcome (base : Nat) : s.selectClearChannelApCnt (crowded base) =
    ⟨s.apCntRule3 (crowded base), s.own ++ (s.apCntDirty (crowded base)).used⟩ := by
  unfold Setup.selectClearChannelApCnt
  dsimp only
  rw [crowded_rule1, crowded_rule2]

theorem band_of_inside (inside : ∀ base, Info.Inside s.num (s.apCntDirty (crowded base)))
    (sane : s.Sane) (some_listed : 0 < s.num) : s.isABand = true := by
  by_contra other
  have last : s.num - 1 < s.num := by omega
  obtain ⟨reached, grows⟩ := @apCntDirty_turn s 0 (s.num - 1) last
  have behind : (s.num : Int) ∈ (s.apCntTurn (crowded 0) reached (s.num - 1)).used := by
    have seen : 0 < (crowded 0).apCnt (s.num - 1) := Nat.succ_pos 254
    unfold Setup.apCntTurn
    rw [if_pos seen, if_neg other]
    exact near2GHZDirty_behind sane some_listed _
  have bounds := inside 0 _ (grows.used _ behind)
  omega

theorem groups_of_inside (inside : ∀ base, Info.Inside s.num (s.apCntDirty (crowded base)))
    (sane : s.Sane) (wide : s.wide80 = true) {k : Nat} (listed : k < s.num) : s.GroupInside k := by
  intro index member
  obtain ⟨reached, grows⟩ := @apCntDirty_turn s 0 k listed
  have near : index ∈ (s.apCntTurn (crowded 0) reached k).used := by
    have seen : 0 < (crowded 0).apCnt k := Nat.succ_pos 254
    unfold Setup.apCntTurn
    rw [if_pos seen, if_pos (band_of_inside inside sane (by omega)),
      not_wide40_of_wide80 wide, if_neg Bool.false_ne_true, if_pos wide]
    exact mem_foldl_add member 1 _
  exact inside 0 index (grows.used index near)

/-- Each admissible channel is the first that the last rule looks at, from some base on. -/
theorem admitted_of_good (good : ∀ base, ∃ k < s.num, s.Good (s.channelAt k) ∧
    s.apCntRule3 (crowded base) = s.channelAt k) (sane : s.Sane) (some_good : s.SomeGood) {k : Nat}
    (inside : k < s.num) (admissible : s.Admissible (s.channelAt k)) : s.Good (s.channelAt k) := by
  obtain ⟨known, known_inside, known_good⟩ := some_good.found
  have exists_capable : ∃ j, j < s.num ∧ s.capable (s.channelAt j) = true :=
    ⟨known, known_inside, known_good.capable⟩
  have least := Nat.find_spec exists_capable
  have least_min := fun j => @Nat.find_min _ _ exists_capable j
  generalize Nat.find exists_capable = j at least least_min
  have few := sane.few
  unfold maxNumOfChannels at few
  have small : (k + s.num - j) % s.num < s.num := Nat.mod_lt _ (by omega)
  have shifted : ((k + s.num - j) % s.num + j) % s.num = k := by
    rw [Nat.mod_add_mod, Nat.sub_add_cancel (by omega), Nat.add_mod_right, Nat.mod_eq_of_lt inside]
  have taken : s.apCntRule3 (crowded ((k + s.num - j) % s.num)) = s.channelAt k := by
    unfold Setup.apCntRule3
    rw [crowded_base (by omega), List.range_eq_range']
    have first := randomLoop_first (s := s) ((k + s.num - j) % s.num) (fun i channel =>
      !s.skipListCheck channel && s.capable (s.channelAt i) && !s.avoided channel) (k := j)
      (by rw [shifted, admissible.1, admissible.2, least.2]; rfl) s.num 0 (Nat.zero_le _)
      (by omega) (fun i _ before => by
        have not_capable : s.capable (s.channelAt i) = false :=
          Bool.eq_false_iff.mpr fun capable => least_min i before ⟨by omega, capable⟩
        rw [not_capable, Bool.and_false, Bool.false_and]) 0
    rw [first, shifted]
  obtain ⟨_, _, is_good, same⟩ := good ((k + s.num - j) % s.num)
  rw [taken] at same
  rw [same]
  exact is_good

theorem started_of_good (good : ∀ base, ∃ k < s.num, s.Good (s.channelAt k) ∧
    s.apCntRule3 (crowded base) = s.channelAt k) (sane : s.Sane) {base : Nat}
    (below : base < s.num) :
    (∃ k < s.num, s.capable (s.channelAt k) = true ∧
      s.Good (s.channelAt ((base + k) % s.num))) ∨
      s.Good (s.channelAt ((base + (s.num - 1)) % s.num)) := by
  have few := sane.few
  unfold maxNumOfChannels at few
  obtain ⟨_, _, is_good, same⟩ := good base
  unfold Setup.apCntRule3 at same
  rw [crowded_base (by omega)] at same
  rcases randomLoop_cases (s := s) base (fun k channel =>
    !s.skipListCheck channel && s.capable (s.channelAt k) && !s.avoided channel)
    (List.range s.num) 0 with ⟨k, member, taken, chosen⟩ | ⟨_, ends⟩
  · simp only [Bool.and_eq_true] at taken
    rw [← same, chosen] at is_good
    exact .inl ⟨k, List.mem_range.mp member, taken.1.2, is_good⟩
  · have last : (List.range s.num).getLast? = some (s.num - 1) := by
      rw [List.getLast?_range, if_neg (by omega)]
    rw [← same, ends _ last] at is_good
    exact .inr is_good

end ApCntNeeds

/-- The algorithm by the number of access points. -/
theorem apCnt_selects_iff {s : Setup} (sane : s.Sane) :
    (∀ m, (∀ index ∈ (s.selectClearChannelApCnt m).used, 0 ≤ index ∧ index < s.num) ∧
      (s.SomeGood → ∃ k < s.num, s.Good (s.channelAt k) ∧
        (s.selectClearChannelApCnt m).channel = s.channelAt k)) ↔ s.ApCntSound := by
  constructor
  · intro selects
    have inside : ∀ base, Info.Inside s.num (s.apCntDirty (crowded base)) := by
      intro base index used
      have bounds := (selects (crowded base)).1 index
      rw [crowded_outcome] at bounds
      exact bounds (List.mem_append_right _ used)
    have good : s.SomeGood → ∀ base, ∃ k < s.num, s.Good (s.channelAt k) ∧
        s.apCntRule3 (crowded base) = s.channelAt k := by
      intro some_good base
      have chosen := (selects (crowded base)).2 some_good
      rw [crowded_outcome] at chosen
      exact chosen
    exact {
      band := band_of_inside inside sane
      groups := fun wide k listed => groups_of_inside inside sane wide listed
      admitted := fun some_good k listed =>
        admitted_of_good (good some_good) sane some_good listed
      started := fun some_good base below => started_of_good (good some_good) sane below }
  · exact fun sound m => apCnt_selects sane sound

end Mt7612u.Channel.AutoChSel
