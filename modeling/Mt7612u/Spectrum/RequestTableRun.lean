import Mt7612u.Spectrum.RequestTable

/-! What every run of calls keeps of a request table: the chains hold the valid entries, `Size`
counts them, and a token is found as long as it was inserted and nothing has taken it out. -/

namespace Mt7612u.Spectrum
open Library.HashChains Library.Directory Library.Run

namespace ReqTab

variable {table : Table} {t : ReqTab table}

/-- The abstract table: which token an entry holds. -/
def held (t : ReqTab table) (i : table.Index) : Option DialogToken :=
  if t.Valid i then some (t.token i) else none

theorem held_eq_some {i : table.Index} {dialogToken : DialogToken} :
    t.held i = some dialogToken ↔ t.Valid i ∧ t.token i = dialogToken := by
  unfold held
  split_ifs with valid
  · simp [valid]
  · simp [valid]

structure Consistent (t : ReqTab table) : Prop where
  linked : Linked t.hash t.pNext t.bucket t.Valid
  counted : t.size.toNat = tally t.content ReqEntry.valid
  distinct : ∀ i j dialogToken, t.held i = some dialogToken → t.held j = some dialogToken → i = j
  unlinked : ∀ i, ¬t.Valid i → t.pNext i = none

/-- Only links of valid entries have changed. -/
structure Relinked (t after : ReqTab table) : Prop where
  valid : ∀ i, after.Valid i ↔ t.Valid i
  token : ∀ i, after.token i = t.token i
  size : after.size = t.size
  unlinked : ∀ i, ¬t.Valid i → after.pNext i = t.pNext i
  counted : tally after.content ReqEntry.valid = tally t.content ReqEntry.valid

theorem Relinked.held {after : ReqTab table} (relinked : Relinked t after) : after.held = t.held := by
  funext i
  unfold ReqTab.held
  rw [relinked.token i]
  exact if_congr (relinked.valid i) rfl rfl

theorem Relinked.bucket {after : ReqTab table} (relinked : Relinked t after) :
    after.bucket = t.bucket := by
  funext i
  rw [ReqTab.bucket, ReqTab.bucket, relinked.token]

theorem relinked_setHash (index : BitVec 8) (head : Option table.Index) :
    Relinked t (t.setHash index head) :=
  ⟨fun _ => Iff.rfl, fun _ => rfl, rfl, fun _ _ => rfl, rfl⟩

theorem pNext_setPNext (i : table.Index) (next : Option table.Index) :
    (t.setPNext i next).pNext = Function.update t.pNext i next := by
  funext other
  unfold setPNext setEntry pNext
  by_cases same : other = i
  · subst same
    simp only [Function.update_self]
  · simp only [Function.update_of_ne same]

theorem relinked_setPNext {i : table.Index} (known : t.Valid i) (next : Option table.Index) :
    Relinked t (t.setPNext i next) := by
  have fields (other : table.Index) :
      ((t.setPNext i next).content other).valid = (t.content other).valid ∧
        ((t.setPNext i next).content other).dialogToken = (t.content other).dialogToken := by
    unfold setPNext setEntry
    by_cases same : other = i
    · subst same
      simp only [Function.update_self, and_self]
    · simp only [Function.update_of_ne same, and_self]
  refine ⟨fun other => ?_, fun other => (fields other).2, rfl, fun other vacant => ?_, ?_⟩
  · unfold Valid
    rw [(fields other).1]
  · rw [pNext_setPNext]
    apply Function.update_of_ne
    rintro rfl
    exact vacant known
  · unfold tally
    apply Finset.sum_congr rfl
    intro other _
    rw [(fields other).1]

/-- A chain is no longer than the table. -/
theorem length_lt_walkFuel {next : table.Index → Option table.Index} {head : Option table.Index}
    {nodes : List table.Index} (chain : Chain next head nodes) : nodes.length < t.walkFuel := by
  have bound := chain.nodup.length_le_card
  rw [Fintype.card_fin] at bound
  exact Nat.lt_succ_of_le bound

/-- A lookup ends, with the entry that holds the token if there is one. -/
theorem Consistent.lookUp (consistent : t.Consistent) (dialogToken : DialogToken) :
    ∃ found, t.lookUp dialogToken = some found ∧
      (∀ i, found = some i → t.held i = some dialogToken) ∧
      (found = none → ∀ i, t.held i ≠ some dialogToken) := by
  obtain ⟨nodes, chain, members⟩ := consistent.linked (table.hashIndex dialogToken)
  have walk := follow_eq (fun pEntry => t.token pEntry == dialogToken) chain
    (length_lt_walkFuel (t := t) chain)
  refine ⟨_, walk, fun i found => ?_, fun none i held => ?_⟩
  · have member := List.mem_of_find?_eq_some found
    have same := List.find?_some found
    exact held_eq_some.mpr ⟨((members i).mp member).1, beq_iff_eq.mp same⟩
  · obtain ⟨known, same⟩ := held_eq_some.mp held
    have member : i ∈ nodes := (members i).mpr ⟨known, congrArg table.hashIndex same⟩
    have other := List.find?_eq_none.mp none i member
    exact other (beq_iff_eq.mpr same)

theorem setEntry_of_ne {i other : table.Index} (entry : ReqEntry table) (different : other ≠ i) :
    (t.setEntry i entry).content other = t.content other := by
  unfold setEntry
  exact Function.update_of_ne different ..

theorem held_setEntry (i : table.Index) (entry : ReqEntry table) :
    (t.setEntry i entry).held = Function.update t.held i
      (if entry.valid then some entry.dialogToken else none) := by
  funext other
  by_cases same : other = i
  · subst same
    simp only [Function.update_self, held, setEntry, Valid, token]
  · rw [Function.update_of_ne same]
    have entries := setEntry_of_ne (t := t) entry same
    apply if_congr
    · unfold Valid
      rw [entries]
    · unfold token
      rw [entries]
    · rfl

/-- The count when one entry changes. -/
theorem tally_setEntry (i : table.Index) (entry : ReqEntry table) :
    tally (t.setEntry i entry).content ReqEntry.valid + (if (t.content i).valid then 1 else 0) =
      tally t.content ReqEntry.valid + if entry.valid then 1 else 0 :=
  tally_update t.content ReqEntry.valid i entry

theorem unlink_linked (linked : Linked t.hash t.pNext t.bucket t.Valid) {i : table.Index}
    (known : t.Valid i) :
    ∃ after, t.unlink i = some after ∧ Relinked t after ∧
      Linked after.hash after.pNext after.bucket fun other => t.Valid other ∧ other ≠ i := by
  obtain ⟨front, back, chain, members⟩ := linked.exists_split known
  have search := findPrevious_eq chain (length_lt_walkFuel (t := t) chain) none
  unfold unlink
  cases head : t.hash (t.bucket i) with
  | none =>
    rw [head] at chain
    generalize whole : front ++ i :: back = nodes at chain
    cases chain
    exact absurd whole (List.append_ne_nil_of_right_ne_nil _ (List.cons_ne_nil _ _))
  | some pProbeEntry =>
    rw [head] at search
    simp only [search]
    rcases List.eq_nil_or_concat front with rfl | ⟨front, previous, rfl⟩
    · refine ⟨_, rfl, relinked_setHash _ _, ?_⟩
      exact linked.unlink_first chain members
    · rw [List.concat_eq_append] at chain members ⊢
      rw [List.getLast?_concat, Option.some_or]
      have valid : t.Valid previous := ((members previous).mp (by simp)).1
      refine ⟨_, rfl, relinked_setPNext valid _, ?_⟩
      rw [pNext_setPNext, (relinked_setPNext valid _).bucket]
      exact linked.unlink_behind chain members

/-- What a removal does: the entry holds no token any more. -/
theorem Consistent.remove (consistent : t.Consistent) {i : table.Index} (known : t.Valid i) :
    ∃ after, t.remove i = some after ∧ after.Consistent ∧ ¬after.Valid i ∧
      after.held = Function.update t.held i none := by
  obtain ⟨unlinked, done, relinked, chains⟩ := unlink_linked consistent.linked known
  have content (other : table.Index) (different : other ≠ i) :
      (unlinked.setEntry i (clearedReq table)).content other = unlinked.content other :=
    setEntry_of_ne _ different
  have own : (unlinked.setEntry i (clearedReq table)).content i = clearedReq table :=
    Function.update_self (f := unlinked.content) i _
  have held : (unlinked.setEntry i (clearedReq table)).held = Function.update t.held i none := by
    rw [held_setEntry, relinked.held]
    rfl
  have valid (other : table.Index) : (unlinked.setEntry i (clearedReq table)).Valid other ↔
      t.Valid other ∧ other ≠ i := by
    by_cases same : other = i
    · subst same
      unfold Valid
      rw [own]
      simp [clearedReq]
    · rw [and_iff_left same, ← relinked.valid]
      unfold Valid
      rw [content other same]
  refine ⟨(unlinked.setEntry i (clearedReq table)).setSize (unlinked.size - 1), ?_,
    ⟨?_, ?_, ?_, ?_⟩, fun still => ((valid i).mp still).2 rfl, held⟩
  · unfold ReqTab.remove
    rw [done]
    rfl
  · apply chains.congr _ _ valid
    · intro other rest
      change ((unlinked.setEntry i (clearedReq table)).content other).pNext = _
      rw [content other rest.2]
      rfl
    · intro other rest
      apply congrArg table.hashIndex
      change ((unlinked.setEntry i (clearedReq table)).content other).dialogToken = _
      rw [content other rest.2]
      rfl
  · have change := tally_setEntry (t := unlinked) i (clearedReq table)
    rw [relinked.counted, ← consistent.counted,
      if_pos (show (unlinked.content i).valid = true from (relinked.valid i).mpr known),
      if_neg (show ¬(clearedReq table).valid = true from Bool.false_ne_true), Nat.add_zero] at change
    have counts : (unlinked.size - 1).toNat + 1 = t.size.toNat := by
      rw [relinked.size]
      bv_omega
    exact Nat.add_right_cancel (counts.trans change.symm)
  · intro one other dialogToken first second
    change (unlinked.setEntry i (clearedReq table)).held one = _ at first
    change (unlinked.setEntry i (clearedReq table)).held other = _ at second
    rw [held] at first second
    have different (j : table.Index) (found : Function.update t.held i none j = some dialogToken) :
        t.held j = some dialogToken := by
      by_cases same : j = i
      · rw [same, Function.update_self] at found
        cases found
      · rwa [Function.update_of_ne same] at found
    exact consistent.distinct one other dialogToken (different one first) (different other second)
  · intro other vacant
    change ((unlinked.setEntry i (clearedReq table)).content other).pNext = none
    by_cases same : other = i
    · rw [same, own]
      rfl
    · have before : ¬t.Valid other := fun taken => vacant ((valid other).mpr ⟨taken, same⟩)
      rw [content other same]
      exact (relinked.unlinked other before).trans (consistent.unlinked other before)

theorem link_linked {valid : table.Index → Prop} {i : table.Index}
    (linked : Linked t.hash t.pNext t.bucket valid) (known : ∀ other, valid other → t.Valid other)
    (fresh : ¬valid i) (ends : t.pNext i = none) :
    ∃ after, t.link i = some after ∧ Relinked t after ∧
      Linked after.hash after.pNext after.bucket fun other => valid other ∨ other = i := by
  unfold link
  cases head : t.hash (t.bucket i) with
  | none =>
    refine ⟨_, rfl, relinked_setHash _ _, ?_⟩
    exact linked.link_empty ends head
  | some first =>
    obtain ⟨front, last, chain, members⟩ := linked.exists_last head
    have walk := follow_eq (fun pCurrEntry => (t.pNext pCurrEntry).isNone) chain
      (length_lt_walkFuel (t := t) chain)
    rw [chain.find_last, head] at walk
    simp only [walk]
    have valid : t.Valid last := known last ((members last).mp (by simp)).1
    refine ⟨_, rfl, relinked_setPNext valid _, ?_⟩
    rw [pNext_setPNext, (relinked_setPNext valid (some i)).bucket]
    exact linked.link_last fresh ends chain members

/-- What filling a vacant entry does, when no entry holds the token. -/
theorem Consistent.fill_link (consistent : t.Consistent) {i : table.Index} (vacant : ¬t.Valid i)
    (now : Time) {dialogToken : DialogToken} (fresh : ∀ j, t.held j ≠ some dialogToken) :
    ∃ after, (t.fill i now dialogToken).link i = some after ∧ after.Consistent ∧
      after.held = Function.update t.held i (some dialogToken) := by
  have content (other : table.Index) (different : other ≠ i) :
      (t.fill i now dialogToken).content other = t.content other := setEntry_of_ne _ different
  have own : (t.fill i now dialogToken).content i =
      { t.content i with lastTime := now, valid := true, dialogToken := dialogToken } :=
    Function.update_self (f := t.content) i _
  have held : (t.fill i now dialogToken).held = Function.update t.held i (some dialogToken) :=
    held_setEntry i _
  have valid (other : table.Index) : (t.fill i now dialogToken).Valid other ↔
      t.Valid other ∨ other = i := by
    by_cases same : other = i
    · subst same
      unfold Valid
      rw [own]
      simp
    · rw [or_iff_left same]
      unfold Valid
      rw [content other same]
  have different (other : table.Index) (known : t.Valid other) : other ≠ i := by
    rintro rfl
    exact vacant known
  have linked : Linked (t.fill i now dialogToken).hash (t.fill i now dialogToken).pNext
      (t.fill i now dialogToken).bucket t.Valid := by
    apply consistent.linked.congr _ _ fun other => Iff.rfl
    · intro other known
      unfold pNext
      rw [content other (different other known)]
    · intro other known
      unfold bucket token
      rw [content other (different other known)]
  have ends : (t.fill i now dialogToken).pNext i = none := by
    unfold pNext
    rw [own]
    exact consistent.unlinked i vacant
  obtain ⟨after, done, relinked, chains⟩ := link_linked linked
    (fun other known => (valid other).mpr (Or.inl known)) vacant ends
  refine ⟨after, done, ⟨?_, ?_, ?_, ?_⟩, relinked.held.trans held⟩
  · exact chains.congr (fun _ _ => rfl) (fun _ _ => rfl)
      fun other => (relinked.valid other).trans (valid other)
  · have change := tally_setEntry (t := t) i
      { t.content i with lastTime := now, valid := true, dialogToken := dialogToken }
    rw [if_neg (show ¬(t.content i).valid = true from vacant), if_pos rfl, Nat.add_zero,
      ← consistent.counted] at change
    have filled : tally (t.fill i now dialogToken).content ReqEntry.valid = t.size.toNat + 1 :=
      change
    have bound : tally (t.fill i now dialogToken).content ReqEntry.valid ≤ table.maxSize := by
      rw [tally_eq_card]
      exact (Finset.card_filter_le _ _).trans_eq (by rw [Finset.card_univ, Fintype.card_fin])
    have small := table.maxSize_lt
    have counts : (t.size + 1).toNat = t.size.toNat + 1 := by
      have below : t.size.toNat + 1 < 256 := by omega
      bv_omega
    rw [relinked.size, relinked.counted, filled, ← counts]
    rfl
  · intro one other found first second
    rw [relinked.held, held] at first second
    by_cases here : one = i <;> by_cases there : other = i
    · exact here.trans there.symm
    · rw [here, Function.update_self] at first
      rw [Function.update_of_ne there] at second
      exact absurd (second.trans first.symm) (fresh other)
    · rw [there, Function.update_self] at second
      rw [Function.update_of_ne here] at first
      exact absurd (first.trans second.symm) (fresh one)
    · rw [Function.update_of_ne here] at first
      rw [Function.update_of_ne there] at second
      exact consistent.distinct one other found first second
  · intro other still
    rw [relinked.valid, valid, not_or] at still
    rw [relinked.unlinked other fun known => ((valid other).mp known).elim still.1 still.2]
    unfold pNext
    rw [content other still.2]
    exact consistent.unlinked other still.1

theorem place_some {now : table.Index → Time} {i : table.Index} (found : t.place now = some i) :
    t.Valid i → t.isAged (now i) i = true := by
  intro known
  have test := List.find?_some found
  rw [Bool.or_eq_true, Bool.not_eq_true'] at test
  exact test.resolve_right fun vacant => by rw [known] at vacant; cases vacant

theorem place_none {now : table.Index → Time} (none : t.place now = none) (i : table.Index) :
    t.Valid i ∧ t.isAged (now i) i = false := by
  have test := List.find?_eq_none.mp none i (List.mem_finRange i)
  rw [Bool.or_eq_true, Bool.not_eq_true', not_or] at test
  exact ⟨by simpa [Valid] using test.2, by simpa using test.1⟩

/-- What an insertion does to the tokens: the token is there already, or there is no place, or an
entry that is vacant or aged out holds it now. -/
theorem Consistent.insert (consistent : t.Consistent) (now : table.Index → Time) (filled : Time)
    (dialogToken : DialogToken) :
    ∃ found after, t.insert now filled dialogToken = some (found, after) ∧ after.Consistent ∧
      ((∃ i, t.lookUp dialogToken = some (some i) ∧ found = some i ∧ after = t) ∨
        t.lookUp dialogToken = some none ∧ (∀ i, t.held i ≠ some dialogToken) ∧
          (found = none ∧ t.place now = none ∧ after = t ∨
            ∃ i, found = some i ∧ t.place now = some i ∧
              after.held = Function.update t.held i (some dialogToken))) := by
  obtain ⟨known, looked, holds, absent⟩ := consistent.lookUp dialogToken
  unfold ReqTab.insert
  rw [looked]
  cases known with
  | some i => exact ⟨some i, t, rfl, consistent, Or.inl ⟨i, rfl, rfl, rfl⟩⟩
  | none =>
    have fresh := absent rfl
    cases place : t.place now with
    | none =>
      refine ⟨none, t, ?_, consistent, Or.inr ⟨rfl, fresh, Or.inl ⟨rfl, rfl, rfl⟩⟩⟩
      rfl
    | some i =>
      have taken : ∃ after, t.takeEntry i filled dialogToken = some after ∧ after.Consistent ∧
          after.held = Function.update t.held i (some dialogToken) := by
        unfold takeEntry
        by_cases valid : t.Valid i
        · obtain ⟨middle, removed, kept, vacant, held⟩ := consistent.remove valid
          have still : ∀ j, middle.held j ≠ some dialogToken := by
            intro j found
            rw [held] at found
            by_cases same : j = i
            · rw [same, Function.update_self] at found
              cases found
            · rw [Function.update_of_ne same] at found
              exact fresh j found
          obtain ⟨after, done, keeps, holds⟩ := kept.fill_link vacant filled still
          rw [if_pos (show (t.content i).valid = true from valid), removed]
          refine ⟨after, done, keeps, ?_⟩
          rw [holds, held, Function.update_idem]
        · rw [if_neg (show ¬(t.content i).valid = true from valid)]
          exact consistent.fill_link valid filled fresh
      obtain ⟨after, done, keeps, holds⟩ := taken
      refine ⟨some i, after, ?_, keeps, Or.inr ⟨rfl, fresh, Or.inr ⟨i, rfl, rfl, holds⟩⟩⟩
      simp [done]

/-- What a deletion does: no entry holds the token any more, and the others are as they were. -/
theorem Consistent.delete (consistent : t.Consistent) (dialogToken : DialogToken) :
    ∃ after, t.delete dialogToken = some after ∧ after.Consistent ∧
      ∀ token, (∃ i, after.held i = some token) ↔
        (∃ i, t.held i = some token) ∧ token ≠ dialogToken := by
  unfold ReqTab.delete
  have unchanged (fresh : ∀ i, t.held i ≠ some dialogToken) (token : DialogToken) :
      (∃ i, t.held i = some token) ↔ (∃ i, t.held i = some token) ∧ token ≠ dialogToken := by
    constructor
    · rintro ⟨i, held⟩
      refine ⟨⟨i, held⟩, ?_⟩
      rintro rfl
      exact fresh i held
    · exact And.left
  by_cases empty : t.size = 0
  · rw [if_pos empty]
    refine ⟨t, rfl, consistent, unchanged fun i held => ?_⟩
    have counted := consistent.counted
    rw [empty, tally_eq_card] at counted
    have none := Finset.card_eq_zero.mp counted.symm
    have member : i ∈ Finset.univ.filter fun i => (t.content i).valid = true :=
      Finset.mem_filter.mpr ⟨Finset.mem_univ i, (held_eq_some.mp held).1⟩
    rw [none] at member
    exact absurd member (Finset.notMem_empty i)
  · rw [if_neg empty]
    obtain ⟨known, looked, holds, absent⟩ := consistent.lookUp dialogToken
    rw [looked]
    cases known with
    | none => exact ⟨t, rfl, consistent, unchanged (absent rfl)⟩
    | some i =>
      have own := holds i rfl
      obtain ⟨after, done, kept, _, held⟩ := consistent.remove (held_eq_some.mp own).1
      refine ⟨after, done, kept, fun token => ?_⟩
      rw [held]
      constructor
      · rintro ⟨j, found⟩
        by_cases same : j = i
        · rw [same, Function.update_self] at found
          cases found
        · rw [Function.update_of_ne same] at found
          refine ⟨⟨j, found⟩, ?_⟩
          rintro rfl
          exact same (consistent.distinct j i token found own)
      · rintro ⟨⟨j, found⟩, other⟩
        refine ⟨j, ?_⟩
        rw [Function.update_of_ne]
        · exact found
        · rintro rfl
          exact other (Option.some.inj (found.symm.trans own))

theorem consistent_empty (table : Table) : (empty table).Consistent := by
  have vacant (i : table.Index) : ¬(empty table).Valid i := Bool.false_ne_true
  refine ⟨fun bucket => ⟨[], .nil, fun i => ?_⟩, ?_, fun i _ _ held => ?_, fun _ _ => rfl⟩
  · exact iff_of_false List.not_mem_nil fun member => vacant i member.1
  · rw [tally_eq_card]
    exact (Finset.card_eq_zero.mpr (Finset.filter_eq_empty_iff.mpr fun i _ => vacant i)).symm
  · exact absurd (held_eq_some.mp held).1 (vacant i)

end ReqTab

/-- The last record decides. -/
theorem current_concat {log : List ReqRecord} {record : ReqRecord} {dialogToken : DialogToken} :
    Current (log ++ [record]) dialogToken ↔ record = .inserted dialogToken ∨
      Current log dialogToken ∧ record ≠ .deleted dialogToken ∧ record ≠ .agedOut dialogToken := by
  constructor
  · rintro ⟨before, after, split, kept, young⟩
    rcases List.eq_nil_or_concat after with rfl | ⟨after, last, rfl⟩
    · exact Or.inl (List.cons.inj (List.append_inj' split rfl).2).1
    · rw [List.concat_eq_append, ← List.cons_append, ← List.append_assoc] at split
      obtain ⟨front, back⟩ := List.append_inj' split rfl
      obtain rfl := (List.cons.inj back).1
      rw [List.concat_eq_append, List.mem_append, List.mem_singleton, not_or] at kept young
      exact Or.inr ⟨⟨before, after, front, kept.1, young.1⟩, Ne.symm kept.2, Ne.symm young.2⟩
  · rintro (rfl | ⟨⟨before, after, rfl, kept, young⟩, other, aged⟩)
    · exact ⟨log, [], rfl, List.not_mem_nil, List.not_mem_nil⟩
    · refine ⟨before, after ++ [record], by simp, ?_, ?_⟩
      · rw [List.mem_append, List.mem_singleton, not_or]
        exact ⟨kept, Ne.symm other⟩
      · rw [List.mem_append, List.mem_singleton, not_or]
        exact ⟨young, Ne.symm aged⟩

namespace ReqRun

variable {table : Table} {r : ReqRun table}

theorem lookUpOf_eq (t : ReqTab table) (dialogToken : DialogToken) :
    lookUpOf table t dialogToken = t.lookUp dialogToken := by
  cases table <;> rfl

theorem insertOf_eq (t : ReqTab table) (now : table.Index → Time) (filled : Time)
    (dialogToken : DialogToken) :
    insertOf table t now filled dialogToken = t.insert now filled dialogToken := by
  cases table <;> rfl

theorem deleteOf_eq (t : ReqTab table) (dialogToken : DialogToken) :
    deleteOf table t dialogToken = t.delete dialogToken := by
  cases table <;> rfl

/-- The tokens in the table are the current ones of the record. -/
structure Good (r : ReqRun table) : Prop where
  consistent : r.tab.Consistent
  current : ∀ dialogToken, (∃ i, r.tab.held i = some dialogToken) ↔ Current r.log dialogToken

/-- The tokens behind an insertion. -/
theorem Good.inserted (good : r.Good) {dialogToken : DialogToken} {now : table.Index → Time}
    {i : table.Index} {after : ReqTab table} (looked : r.tab.lookUp dialogToken = some none)
    (place : r.tab.place now = some i)
    (held : after.held = Function.update r.tab.held i (some dialogToken)) (token : DialogToken) :
    (∃ j, after.held j = some token) ↔
      Current (r.log ++ insertRecords r.tab dialogToken now) token := by
  have others : (∃ j, after.held j = some token) ↔
      dialogToken = token ∨ ∃ j, j ≠ i ∧ r.tab.held j = some token := by
    rw [held]
    constructor
    · rintro ⟨j, found⟩
      by_cases same : j = i
      · rw [same, Function.update_self] at found
        exact Or.inl (Option.some.inj found)
      · rw [Function.update_of_ne same] at found
        exact Or.inr ⟨j, same, found⟩
    · rintro (rfl | ⟨j, same, found⟩)
      · exact ⟨i, Function.update_self ..⟩
      · exact ⟨j, (Function.update_of_ne same ..).trans found⟩
  have inserted (log : List ReqRecord) : Current (log ++ [.inserted dialogToken]) token ↔
      dialogToken = token ∨ Current log token := by
    rw [current_concat]
    simp
  rw [others, insertRecords, looked, place]
  dsimp only
  by_cases valid : r.tab.Valid i
  · rw [if_pos (show (r.tab.content i).valid = true from valid), ← List.append_assoc, inserted,
      current_concat, ← good.current]
    apply or_congr_right
    constructor
    · rintro ⟨j, different, found⟩
      refine Or.inr ⟨⟨j, found⟩, ReqRecord.noConfusion, fun same => different ?_⟩
      have own := ReqTab.held_eq_some.mpr ⟨valid, ReqRecord.agedOut.inj same⟩
      exact good.consistent.distinct j i token found own
    · rintro (impossible | ⟨⟨j, found⟩, _, young⟩)
      · cases impossible
      · refine ⟨j, ?_, found⟩
        rintro rfl
        exact young (congrArg ReqRecord.agedOut (ReqTab.held_eq_some.mp found).2)
  · rw [if_neg (show ¬(r.tab.content i).valid = true from valid), List.nil_append, inserted, ← good.current]
    apply or_congr_right
    constructor
    · rintro ⟨j, _, found⟩
      exact ⟨j, found⟩
    · rintro ⟨j, found⟩
      refine ⟨j, ?_, found⟩
      rintro rfl
      exact valid (ReqTab.held_eq_some.mp found).1

theorem Good.perform (good : r.Good) (call : ReqCall table) :
    ∃ after, r.perform call = some after ∧ after.Good := by
  cases call with
  | lookUp dialogToken =>
    obtain ⟨found, looked, _⟩ := good.consistent.lookUp dialogToken
    refine ⟨r, ?_, good⟩
    simp only [ReqRun.perform, lookUpOf_eq, looked, Option.map_some]
  | insert dialogToken now filled =>
    obtain ⟨found, after, done, kept, change⟩ := good.consistent.insert now filled dialogToken
    refine ⟨⟨after, r.log ++ insertRecords r.tab dialogToken now⟩, ?_, kept, fun token => ?_⟩
    · simp only [ReqRun.perform, insertOf_eq, done, Option.map_some]
    · rcases change with ⟨i, looked, -, rfl⟩ | ⟨looked, -, ⟨-, place, rfl⟩ | ⟨i, -, place, held⟩⟩
      · rw [insertRecords, looked]
        simp only [List.append_nil]
        exact good.current token
      · rw [insertRecords, looked, place]
        simp only [List.append_nil]
        exact good.current token
      · exact good.inserted looked place held token
  | delete dialogToken =>
    obtain ⟨after, done, kept, tokens⟩ := good.consistent.delete dialogToken
    refine ⟨⟨after, r.log ++ [.deleted dialogToken]⟩, ?_, kept, fun token => ?_⟩
    · simp only [ReqRun.perform, deleteOf_eq, done, Option.map_some]
    · rw [tokens, current_concat, good.current]
      simp [eq_comm]

theorem good_init (table : Table) : (init table).Good := by
  refine ⟨ReqTab.consistent_empty table, fun dialogToken => iff_of_false ?_ ?_⟩
  · rintro ⟨i, held⟩
    cases held
  · rintro ⟨before, after, split, -⟩
    exact absurd split.symm (List.append_ne_nil_of_right_ne_nil _ (List.cons_ne_nil _ _))

theorem Good.run (good : r.Good) (calls : List (ReqCall table)) :
    ∃ after, runOption ReqRun.perform r calls = some after ∧ after.Good := by
  induction calls generalizing r with
  | nil => exact ⟨r, rfl, good⟩
  | cons call rest ih =>
    obtain ⟨next, done, kept⟩ := good.perform call
    obtain ⟨after, ends, keeps⟩ := ih kept
    exact ⟨after, Option.bind_eq_some_iff.mpr ⟨next, done, ends⟩, keeps⟩

/-- Every run of calls ends, and leaves a table in which a token is found exactly when it was
inserted and neither deleted nor aged out since; the next insertion fails only when every entry is
valid and none is aged out, and it ages out only what is. -/
theorem reqTab_run (table : Table) (calls : List (ReqCall table)) :
    ∃ r, runOption ReqRun.perform (init table) calls = some r ∧
      r.tab.size.toNat = (Finset.univ.filter r.tab.Valid).card ∧
      (∀ bucket, ∃ nodes, Chain r.tab.pNext (r.tab.hash bucket) nodes ∧ nodes.Nodup ∧
        ∀ i, i ∈ nodes ↔ r.tab.Valid i ∧ table.hashIndex (r.tab.token i) = bucket) ∧
      (∀ i j, r.tab.Valid i → r.tab.Valid j → r.tab.token i = r.tab.token j → i = j) ∧
      (∀ dialogToken, ∃ found, lookUpOf table r.tab dialogToken = some found ∧
        (found ≠ none ↔ Current r.log dialogToken) ∧
        ∀ i, found = some i → r.tab.Valid i ∧ r.tab.token i = dialogToken) ∧
      ∀ dialogToken now filled,
        (∃ found after, insertOf table r.tab now filled dialogToken = some (found, after) ∧
          (found = none → ∀ i, r.tab.Valid i ∧ r.tab.isAged (now i) i = false)) ∧
        ∀ token, .agedOut token ∈ insertRecords r.tab dialogToken now →
          ∃ i, r.tab.token i = token ∧ r.tab.isAged (now i) i = true := by
  obtain ⟨r, done, consistent, current⟩ := (good_init table).run calls
  refine ⟨r, done, ?_, fun bucket => ?_, fun i j known valid same => ?_, fun dialogToken => ?_,
    fun dialogToken now filled => ⟨?_, fun token aged => ?_⟩⟩
  · rw [consistent.counted, tally_eq_card]
    rfl
  · obtain ⟨nodes, chain, members⟩ := consistent.linked bucket
    exact ⟨nodes, chain, chain.nodup, members⟩
  · exact consistent.distinct i j _ (ReqTab.held_eq_some.mpr ⟨known, rfl⟩)
      (ReqTab.held_eq_some.mpr ⟨valid, same.symm⟩)
  · obtain ⟨found, looked, holds, absent⟩ := consistent.lookUp dialogToken
    rw [lookUpOf_eq, looked, ← current]
    refine ⟨found, rfl, ?_, fun i same => ReqTab.held_eq_some.mp (holds i same)⟩
    cases found with
    | none =>
      apply iff_of_false (fun known => known rfl)
      rintro ⟨i, held⟩
      exact absent rfl i held
    | some i => exact iff_of_true (Option.some_ne_none i) ⟨i, holds i rfl⟩
  · obtain ⟨found, after, inserted, _, change⟩ := consistent.insert now filled dialogToken
    rw [insertOf_eq, inserted]
    refine ⟨found, after, rfl, fun none => ?_⟩
    rcases change with ⟨i, _, same, _⟩ | ⟨_, _, ⟨_, place, _⟩ | ⟨i, same, _⟩⟩
    · rw [none] at same
      cases same
    · exact ReqTab.place_none place
    · rw [none] at same
      cases same
  · unfold insertRecords at aged
    split at aged
    next i looked place =>
      rcases List.mem_append.mp aged with early | late
      · split_ifs at early with valid
        · rw [List.mem_singleton] at early
          exact ⟨i, (ReqRecord.agedOut.inj early).symm, ReqTab.place_some place valid⟩
        · exact absurd early List.not_mem_nil
      · cases List.mem_singleton.mp late
    next => exact absurd aged List.not_mem_nil

end ReqRun

end Mt7612u.Spectrum
