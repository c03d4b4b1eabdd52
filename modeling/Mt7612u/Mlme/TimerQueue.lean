import Mt7612u.Library.HashChains
import Mt7612u.Library.Run

/-! The timer queue of `rtmp_timer.c`: timers that have fired wait in a list of nodes for the thread
that runs their handlers. -/

namespace Mt7612u.Mlme
open Library.HashChains Library.Run

def timerQueueSizeMax : Nat := 128

/-- A node of the pool `pTimerQPoll`. -/
abbrev TimerNode := Fin timerQueueSizeMax

def rtmpTaskStatInited : Nat := 1
def rtmpTaskStatRunning : Nat := 2
def rtmpTaskStatStoped : Nat := 4
def rtmpTaskCanDoInsert : Nat := rtmpTaskStatInited ||| rtmpTaskStatRunning

/-- `RTMP_TIMER_TASK_QUEUE`, with the fields of its nodes. -/
structure TimerQueue (Timer : Type) where
  status : Nat
  pQPollFreeList : Option TimerNode
  pQHead : Option TimerNode
  pQTail : Option TimerNode
  pRaTimer : TimerNode → Option Timer
  pNext : TimerNode → Option TimerNode

/-- The loop of `RtmpTimerQInit` over the pool: every node is linked to the one before it. -/
def linkPoll : Nat → (TimerNode → Option TimerNode) × Option TimerNode
  | 0 => (fun _ => none, none)
  | i + 1 =>
      let (pNext, pEntry) := linkPoll i
      if inside : i < timerQueueSizeMax then
        (Function.update pNext ⟨i, inside⟩ pEntry, some ⟨i, inside⟩)
      else (pNext, pEntry)

/-- `RtmpTimerQInit`, when there is memory for the pool. -/
def rtmpTimerQInit (Timer : Type) : TimerQueue Timer where
  status := rtmpTaskStatInited
  pQPollFreeList := (linkPoll timerQueueSizeMax).2
  pQHead := none
  pQTail := none
  pRaTimer := fun _ => none
  pNext := (linkPoll timerQueueSizeMax).1

namespace TimerQueue

variable {Timer : Type}

/-- "return this queue entry to timerQFreeList." -/
def free (q : TimerQueue Timer) (pEntry : TimerNode) : TimerQueue Timer :=
  { q with
    pNext := Function.update q.pNext pEntry q.pQPollFreeList
    pQPollFreeList := some pEntry }

/-- `RtmpTimerQInsert`, and the node that it gives back. -/
def rtmpTimerQInsert (q : TimerQueue Timer) (pTimer : Timer) :
    Option TimerNode × TimerQueue Timer :=
  if q.status &&& rtmpTaskCanDoInsert ≠ 0 then
    match q.pQPollFreeList with
    | none => (none, q)
    | some pQNode =>
        let pNext := Function.update q.pNext pQNode none
        (some pQNode,
          { q with
            pQPollFreeList := q.pNext pQNode
            pRaTimer := Function.update q.pRaTimer pQNode (some pTimer)
            pNext :=
              match q.pQTail with
              | some pQTail => Function.update pNext pQTail (some pQNode)
              | none => pNext
            pQTail := some pQNode
            pQHead := if q.pQHead = none then some pQNode else q.pQHead })
  else (none, q)

/-- What `RtmpTimerQHandle` does under the lock: the first node is taken out. -/
def dequeue (q : TimerQueue Timer) : Option TimerNode × TimerQueue Timer :=
  match q.pQHead with
  | none => (none, q)
  | some pEntry =>
      (some pEntry,
        { q with
          pQHead := q.pNext pEntry
          pQTail := if some pEntry = q.pQTail then none else q.pQTail }.free pEntry)

variable [DecidableEq Timer]

/-- The search of `RtmpTimerQRemove`: the first node of a timer and the node before it. -/
def search (q : TimerQueue Timer) (pTimer : Timer) :
    Nat → Option TimerNode → Option TimerNode → Option (Option TimerNode × TimerNode)
  | 0, _, _ => none
  | _ + 1, _, none => none
  | fuel + 1, pPrev, some pNode =>
      if q.pRaTimer pNode = some pTimer then some (pPrev, pNode)
      else q.search pTimer fuel (some pNode) (q.pNext pNode)

/-- `RtmpTimerQRemove`. -/
def rtmpTimerQRemove (q : TimerQueue Timer) (pTimer : Timer) : TimerQueue Timer :=
  if rtmpTaskStatInited ≤ q.status then
    match q.search pTimer (timerQueueSizeMax + 1) none q.pQHead with
    | none => q
    | some (pPrev, pNode) =>
        { q with
          pQHead := if some pNode = q.pQHead then q.pNext pNode else q.pQHead
          pQTail := if some pNode = q.pQTail then pPrev else q.pQTail
          pNext :=
            match pPrev with
            | some pPrev => Function.update q.pNext pPrev (q.pNext pNode)
            | none => q.pNext }.free pNode
  else q

end TimerQueue

section queue

variable {Timer : Type} {q : TimerQueue Timer} {pending spare : List TimerNode}

/-- The pending nodes and the free ones, which together are the pool. -/
structure TimerQueue.Holds (q : TimerQueue Timer) (pending spare : List TimerNode) : Prop where
  chain : Chain q.pNext q.pQHead pending
  tail : q.pQTail = pending.getLast?
  freeChain : Chain q.pNext q.pQPollFreeList spare
  once : (pending ++ spare).Nodup
  whole : ∀ node, node ∈ pending ++ spare

/-- The pool after some turns of the loop. -/
theorem linkPoll_chain (i : Nat) (short : i ≤ timerQueueSizeMax) :
    ∃ spare, Chain (linkPoll i).1 (linkPoll i).2 spare ∧ ∀ node, node ∈ spare ↔ node.val < i := by
  induction i with
  | zero =>
    refine ⟨[], .nil, fun node => ?_⟩
    exact iff_of_false List.not_mem_nil (Nat.not_lt_zero _)
  | succ i ih =>
    obtain ⟨spare, chain, members⟩ := ih (Nat.le_of_succ_le short)
    have inside : i < timerQueueSizeMax := short
    have fresh : (⟨i, inside⟩ : TimerNode) ∉ spare := by
      rw [members]
      exact Nat.lt_irrefl i
    refine ⟨⟨i, inside⟩ :: spare, ?_, fun node => ?_⟩
    · simp only [linkPoll, dif_pos inside]
      apply Chain.cons
      rw [Function.update_self]
      exact chain.update_of_notMem fresh _
    · rw [List.mem_cons, members, Fin.ext_iff]
      change node.val = i ∨ _ ↔ _
      omega

theorem holds_init : ∃ spare, (rtmpTimerQInit Timer).Holds [] spare := by
  obtain ⟨spare, chain, members⟩ := linkPoll_chain timerQueueSizeMax le_rfl
  exact ⟨spare, .nil, rfl, chain, chain.nodup, fun node => (members node).mpr node.isLt⟩

namespace TimerQueue

theorem Holds.apart (holds : q.Holds pending spare) {node : TimerNode} (waits : node ∈ pending) :
    node ∉ spare := fun free =>
  (List.disjoint_of_nodup_append holds.once) waits free

/-- A node that is neither pending nor free is put back. -/
theorem free_chains (node : TimerNode) (chain : Chain q.pNext q.pQHead pending)
    (freeChain : Chain q.pNext q.pQPollFreeList spare) (waits : node ∉ pending)
    (fresh : node ∉ spare) :
    Chain (q.free node).pNext (q.free node).pQHead pending ∧
      Chain (q.free node).pNext (q.free node).pQPollFreeList (node :: spare) := by
  refine ⟨chain.update_of_notMem waits _, ?_⟩
  apply Chain.cons
  change Chain (Function.update q.pNext node q.pQPollFreeList)
    (Function.update q.pNext node q.pQPollFreeList node) spare
  rw [Function.update_self]
  exact freeChain.update_of_notMem fresh _

/-- An insertion goes behind the last pending node. -/
theorem Holds.insert (holds : q.Holds pending spare) (pTimer : Timer) :
    (q.rtmpTimerQInsert pTimer).1 = none ∧ (q.rtmpTimerQInsert pTimer).2 = q ∨
      ∃ node rest, spare = node :: rest ∧ (q.rtmpTimerQInsert pTimer).1 = some node ∧
        (q.rtmpTimerQInsert pTimer).2.pRaTimer = Function.update q.pRaTimer node (some pTimer) ∧
        (q.rtmpTimerQInsert pTimer).2.Holds (pending ++ [node]) rest := by
  obtain ⟨chain, tail, freeChain, once, whole⟩ := holds
  unfold rtmpTimerQInsert
  by_cases running : q.status &&& rtmpTaskCanDoInsert ≠ 0
  · rw [if_pos running]
    cases head : q.pQPollFreeList with
    | none => exact Or.inl ⟨rfl, rfl⟩
    | some node =>
      right
      rw [head] at freeChain
      cases spare with
      | nil => cases freeChain
      | cons first rest =>
        cases freeChain with
        | cons later =>
          have apart : node ∉ pending ∧ node ∉ rest := by
            have middle := List.nodup_middle.mp once
            rw [List.nodup_cons, List.mem_append, not_or] at middle
            exact middle.1
          have order : (pending ++ [node] ++ rest).Nodup ∧
              ∀ other, other ∈ pending ++ [node] ++ rest := by
            rw [List.append_assoc, List.singleton_append]
            exact ⟨once, whole⟩
          refine ⟨node, rest, rfl, rfl, rfl, ⟨?_, ?_, ?_, order.1, order.2⟩⟩
          · rcases List.eq_nil_or_concat pending with rfl | ⟨front, last, rfl⟩
            · rw [tail]
              cases pQHead : q.pQHead with
              | some other =>
                rw [pQHead] at chain
                cases chain
              | none =>
                apply Chain.cons
                change Chain _ (Function.update q.pNext node none node) []
                rw [Function.update_self]
                exact .nil
            · rw [List.concat_eq_append] at chain tail apart ⊢
              rw [tail, List.getLast?_concat]
              have nonempty : q.pQHead ≠ none := by
                intro none
                rw [none] at chain
                generalize whole : front ++ [last] = nodes at chain
                cases chain
                exact List.append_ne_nil_of_right_ne_nil _ (List.cons_ne_nil _ _) whole
              dsimp only
              rw [if_neg nonempty, List.append_assoc]
              apply (chain.update_of_notMem apart.1 none).concat apart.1
              exact Function.update_self ..
          · rw [List.getLast?_concat]
          · have other := later.update_of_notMem apart.2 none
            rcases List.eq_nil_or_concat pending with rfl | ⟨front, last, rfl⟩
            · rw [tail]
              exact other
            · rw [List.concat_eq_append] at tail once
              rw [tail, List.getLast?_concat]
              apply other.update_of_notMem
              intro member
              apply List.disjoint_of_nodup_append once (a := last)
              · exact List.mem_append_right _ List.mem_cons_self
              · exact List.mem_cons_of_mem _ member
  · rw [if_neg running]
    exact Or.inl ⟨rfl, rfl⟩

/-- The first pending node is the one that is processed. -/
theorem Holds.dequeue (holds : q.Holds pending spare) :
    pending = [] ∧ q.dequeue = (none, q) ∨
      ∃ node rest, pending = node :: rest ∧ q.dequeue.1 = some node ∧
        q.dequeue.2.pRaTimer = q.pRaTimer ∧ q.dequeue.2.Holds rest (node :: spare) := by
  obtain ⟨chain, tail, freeChain, once, whole⟩ := holds
  unfold TimerQueue.dequeue
  cases pending with
  | nil =>
    generalize q.pQHead = head at chain
    cases chain
    exact Or.inl ⟨rfl, rfl⟩
  | cons node rest =>
    right
    have split := List.nodup_cons.mp (show (node :: (rest ++ spare)).Nodup from once)
    rw [List.mem_append, not_or] at split
    generalize head : q.pQHead = first at chain
    cases chain with
    | cons later =>
      obtain ⟨chains, frees⟩ := free_chains
        (q := { q with pQHead := q.pNext node
                       pQTail := if some node = q.pQTail then none else q.pQTail })
        node later freeChain split.1.1 split.1.2
      refine ⟨node, rest, rfl, rfl, rfl, ⟨chains, ?_, frees, ?_, fun other => ?_⟩⟩
      · change (if some node = q.pQTail then none else q.pQTail) = rest.getLast?
        rw [tail]
        rcases List.eq_nil_or_concat rest with rfl | ⟨front, last, rfl⟩
        · rw [List.getLast?_singleton, if_pos rfl]
          rfl
        · rw [List.concat_eq_append, ← List.cons_append, List.getLast?_concat, List.getLast?_concat,
            if_neg]
          intro same
          apply split.1.1
          rw [Option.some.inj same, List.concat_eq_append]
          exact List.mem_append_right _ List.mem_cons_self
      · exact List.nodup_middle.mpr once
      · have member := whole other
        rw [List.cons_append] at member
        exact List.perm_middle.mem_iff.mpr member

variable [DecidableEq Timer]

/-- The search ends at the first pending node of the timer. -/
theorem search_eq (pTimer : Timer) {head : Option TimerNode} (chain : Chain q.pNext head pending)
    {fuel : Nat} (enough : pending.length < fuel) (pPrev : Option TimerNode) :
    (∀ node ∈ pending, q.pRaTimer node ≠ some pTimer) ∧ q.search pTimer fuel pPrev head = none ∨
      ∃ front node back, pending = front ++ node :: back ∧
        (∀ other ∈ front, q.pRaTimer other ≠ some pTimer) ∧ q.pRaTimer node = some pTimer ∧
        q.search pTimer fuel pPrev head = some (front.getLast?.or pPrev, node) := by
  induction chain generalizing fuel pPrev with
  | nil =>
    cases fuel with
    | zero => exact absurd enough (Nat.not_lt_zero _)
    | succ fuel => exact Or.inl ⟨fun _ member => absurd member List.not_mem_nil, rfl⟩
  | @cons node rest later ih =>
    cases fuel with
    | zero => exact absurd enough (Nat.not_lt_zero _)
    | succ fuel =>
      rw [search]
      by_cases found : q.pRaTimer node = some pTimer
      · rw [if_pos found]
        exact Or.inr ⟨[], node, rest, rfl, fun _ member => absurd member List.not_mem_nil, found, rfl⟩
      · rw [if_neg found]
        rcases ih (Nat.lt_of_succ_lt_succ enough) (some node) with ⟨others, none⟩ |
          ⟨front, other, back, rfl, others, same, ends⟩
        · refine Or.inl ⟨fun other member => ?_, none⟩
          rcases List.mem_cons.mp member with rfl | inside
          · exact found
          · exact others other inside
        · refine Or.inr ⟨node :: front, other, back, rfl, fun first member => ?_, same, ?_⟩
          · rcases List.mem_cons.mp member with rfl | inside
            · exact found
            · exact others first inside
          · rw [ends, List.getLast?_cons]
            cases front.getLast? <;> rfl

/-- What a removal does: the first pending node of the timer goes back to the pool. -/
theorem Holds.remove (holds : q.Holds pending spare) (live : rtmpTaskStatInited ≤ q.status)
    (pTimer : Timer) :
    (∀ node ∈ pending, q.pRaTimer node ≠ some pTimer) ∧ q.rtmpTimerQRemove pTimer = q ∨
      ∃ front node back, pending = front ++ node :: back ∧
        (∀ other ∈ front, q.pRaTimer other ≠ some pTimer) ∧ q.pRaTimer node = some pTimer ∧
        (q.rtmpTimerQRemove pTimer).pRaTimer = q.pRaTimer ∧
        (q.rtmpTimerQRemove pTimer).Holds (front ++ back) (node :: spare) := by
  obtain ⟨chain, tail, freeChain, once, whole⟩ := holds
  have enough : pending.length < timerQueueSizeMax + 1 := by
    have bound := chain.nodup.length_le_card
    rw [Fintype.card_fin] at bound
    exact Nat.lt_succ_of_le bound
  unfold rtmpTimerQRemove
  rw [if_pos live]
  rcases search_eq pTimer chain enough none with ⟨others, none⟩ |
    ⟨front, node, back, rfl, others, same, found⟩
  · rw [none]
    exact Or.inl ⟨others, rfl⟩
  · right
    rw [found]
    rw [List.append_assoc, List.cons_append] at once
    have split := (List.nodup_cons.mp (List.nodup_middle.mp once)).1
    rw [List.mem_append, List.mem_append, not_or, not_or] at split
    have behind : node ∉ front ++ back := by
      rw [List.mem_append, not_or]
      exact ⟨split.1, split.2.1⟩
    have order : (front ++ back ++ node :: spare).Nodup ∧
        ∀ other, other ∈ front ++ back ++ node :: spare := by
      refine ⟨?_, fun other => ?_⟩
      · rw [List.nodup_middle, List.append_assoc]
        exact List.nodup_middle.mp once
      · have member := whole other
        simp only [List.mem_append, List.mem_cons] at member ⊢
        tauto
    have tails : (if some node = q.pQTail then front.getLast?.or none else q.pQTail) =
        (front ++ back).getLast? := by
      rw [tail, Option.or_none]
      rcases List.eq_nil_or_concat back with rfl | ⟨back, last, rfl⟩
      · rw [List.getLast?_concat, if_pos rfl, List.append_nil]
      · rw [List.concat_eq_append, ← List.cons_append, ← List.append_assoc, List.getLast?_concat,
          ← List.append_assoc, List.getLast?_concat, if_neg]
        intro equal
        apply split.2.1
        rw [Option.some.inj equal, List.concat_eq_append]
        exact List.mem_append_right _ List.mem_cons_self
    rcases List.eq_nil_or_concat front with rfl | ⟨front, previous, rfl⟩
    · generalize head : q.pQHead = first at chain
      cases chain with
      | cons later =>
        obtain ⟨chains, frees⟩ := free_chains
          (q := { q with pQHead := if some node = q.pQHead then q.pNext node else q.pQHead
                         pQTail := if some node = q.pQTail then none else q.pQTail })
          node (by
            dsimp only
            rw [head, if_pos rfl]
            exact later) freeChain split.2.1 split.2.2
        rw [head] at chains
        exact ⟨[], node, back, rfl, others, same, rfl, chains, tails, frees, order.1, order.2⟩
    · rw [List.concat_eq_append] at chain split tails behind order once found ⊢
      have different : some node ≠ q.pQHead := by
        intro equal
        rw [← equal] at chain
        cases front with
        | nil =>
          cases chain
          exact split.1 (List.mem_append_right _ List.mem_cons_self)
        | cons first front =>
          cases chain
          exact split.1 List.mem_cons_self
      have unlinked : Chain (Function.update q.pNext previous (q.pNext node)) q.pQHead
          (front ++ [previous] ++ back) := by
        rw [List.append_assoc] at chain ⊢
        exact chain.unlink
      have kept : Chain (Function.update q.pNext previous (q.pNext node)) q.pQPollFreeList spare := by
        apply freeChain.update_of_notMem
        intro member
        apply List.disjoint_of_nodup_append once (a := previous)
        · exact List.mem_append_right _ List.mem_cons_self
        · exact List.mem_cons_of_mem _ (List.mem_append_right _ member)
      rw [List.getLast?_concat, Option.some_or] at tails ⊢
      obtain ⟨chains, frees⟩ := free_chains
        (q := { q with pQHead := if some node = q.pQHead then q.pNext node else q.pQHead
                       pQTail := if some node = q.pQTail then some previous else q.pQTail
                       pNext := Function.update q.pNext previous (q.pNext node) })
        node (by
          dsimp only
          rw [if_neg different]
          exact unlinked) kept behind split.2.2
      exact ⟨front ++ [previous], node, back, rfl, by simpa using others, same, rfl, chains, tails,
        frees, order.1, order.2⟩

end TimerQueue

end queue

inductive TimerEvent (Timer : Type) where
  | insert (pTimer : Timer)
  | remove (pTimer : Timer)
  | dequeue
  | stop

/-- The queue in a run. The other fields are the record of the run, which the code does not keep: a
number for each timer that is queued, the numbers of the pending nodes and of the timers that were
processed. -/
structure TimerRun (Timer : Type) where
  q : TimerQueue Timer
  queued : Nat
  serial : TimerNode → Nat
  processed : List Nat

namespace TimerRun

variable {Timer : Type}

def init (Timer : Type) : TimerRun Timer := ⟨rtmpTimerQInit Timer, 0, fun _ => 0, []⟩

def insert (r : TimerRun Timer) (pTimer : Timer) : TimerRun Timer :=
  let result := r.q.rtmpTimerQInsert pTimer
  match result.1 with
  | none => { r with q := result.2 }
  | some pQNode =>
      { r with
        q := result.2
        queued := r.queued + 1
        serial := Function.update r.serial pQNode r.queued }

def dequeue (r : TimerRun Timer) : TimerRun Timer :=
  let result := r.q.dequeue
  match result.1 with
  | none => { r with q := result.2 }
  | some pEntry => { r with q := result.2, processed := r.processed ++ [r.serial pEntry] }

def remove [DecidableEq Timer] (r : TimerRun Timer) (pTimer : Timer) : TimerRun Timer :=
  { r with q := r.q.rtmpTimerQRemove pTimer }

def step [DecidableEq Timer] (r : TimerRun Timer) : TimerEvent Timer → TimerRun Timer
  | .insert pTimer => r.insert pTimer
  | .remove pTimer => r.remove pTimer
  | .dequeue => r.dequeue
  | .stop => { r with q := { r.q with status := rtmpTaskStatStoped } }

/-- The nodes are shared out, and the numbers are in order: first those of the processed timers, then
those of the pending ones. -/
structure Good (r : TimerRun Timer) (pending spare : List TimerNode) : Prop where
  holds : r.q.Holds pending spare
  live : rtmpTaskStatInited ≤ r.q.status
  ordered : (r.processed ++ pending.map r.serial).Pairwise (· < ·)
  below : ∀ number ∈ r.processed ++ pending.map r.serial, number < r.queued

variable {r : TimerRun Timer} {pending spare : List TimerNode}

theorem Good.insert (good : r.Good pending spare) (pTimer : Timer) :
    ∃ pending spare, (r.insert pTimer).Good pending spare := by
  obtain ⟨holds, live, ordered, below⟩ := good
  rcases holds.insert pTimer with ⟨none, same⟩ | ⟨node, rest, rfl, found, _, kept⟩
  · simp only [TimerRun.insert, none, same]
    exact ⟨pending, spare, holds, live, ordered, below⟩
  · have status : (r.q.rtmpTimerQInsert pTimer).2.status = r.q.status := by
      unfold TimerQueue.rtmpTimerQInsert
      by_cases running : r.q.status &&& rtmpTaskCanDoInsert ≠ 0
      · rw [if_pos running]
        cases r.q.pQPollFreeList <;> rfl
      · rw [if_neg running]
    have next : r.insert pTimer = ⟨(r.q.rtmpTimerQInsert pTimer).2, r.queued + 1,
        Function.update r.serial node r.queued, r.processed⟩ := by
      simp only [TimerRun.insert, found]
    have numbers : (pending ++ [node]).map (Function.update r.serial node r.queued) =
        pending.map r.serial ++ [r.queued] := by
      rw [List.map_append, List.map_singleton, Function.update_self]
      congr 1
      apply List.map_congr_left
      intro other member
      apply Function.update_of_ne
      rintro rfl
      exact holds.apart member List.mem_cons_self
    rw [next]
    refine ⟨pending ++ [node], rest, kept, status ▸ live, ?_, ?_⟩
    · change (r.processed ++ _).Pairwise _
      rw [numbers, ← List.append_assoc, List.pairwise_append]
      exact ⟨ordered, List.pairwise_singleton .., fun number member last same =>
        List.mem_singleton.mp same ▸ below number member⟩
    · change ∀ number ∈ r.processed ++ _, number < r.queued + 1
      intro number member
      rw [numbers, ← List.append_assoc, List.mem_append, List.mem_singleton] at member
      rcases member with before | rfl
      · exact Nat.lt_succ_of_lt (below number before)
      · exact Nat.lt_succ_self _

theorem Good.remove [DecidableEq Timer] (good : r.Good pending spare) (pTimer : Timer) :
    ∃ pending spare, (r.remove pTimer).Good pending spare := by
  obtain ⟨holds, live, ordered, below⟩ := good
  rcases holds.remove live pTimer with ⟨_, same⟩ | ⟨front, node, back, rfl, _, _, _, kept⟩
  · simp only [TimerRun.remove, same]
    exact ⟨pending, spare, holds, live, ordered, below⟩
  · have status : (r.q.rtmpTimerQRemove pTimer).status = r.q.status := by
      unfold TimerQueue.rtmpTimerQRemove
      rw [if_pos live]
      cases r.q.search pTimer (timerQueueSizeMax + 1) none r.q.pQHead <;> rfl
    have fewer : ((front ++ back).map r.serial).Sublist ((front ++ node :: back).map r.serial) := by
      apply List.Sublist.map
      exact (List.sublist_cons_self node back).append_left front
    refine ⟨front ++ back, node :: spare, kept, status ▸ live, ?_, fun number member => ?_⟩
    · exact ordered.sublist (fewer.append_left r.processed)
    · exact below number ((fewer.append_left r.processed).subset member)

theorem Good.dequeue (good : r.Good pending spare) :
    ∃ pending spare, r.dequeue.Good pending spare := by
  obtain ⟨holds, live, ordered, below⟩ := good
  rcases holds.dequeue with ⟨_, same⟩ | ⟨node, rest, rfl, found, _, kept⟩
  · simp only [TimerRun.dequeue, same]
    exact ⟨pending, spare, holds, live, ordered, below⟩
  · have status : r.q.dequeue.2.status = r.q.status := by
      unfold TimerQueue.dequeue
      cases r.q.pQHead <;> rfl
    have next : r.dequeue =
        ⟨r.q.dequeue.2, r.queued, r.serial, r.processed ++ [r.serial node]⟩ := by
      simp only [TimerRun.dequeue, found]
    have same : r.processed ++ [r.serial node] ++ rest.map r.serial =
        r.processed ++ (node :: rest).map r.serial := by
      rw [List.append_assoc, List.singleton_append, List.map_cons]
    rw [next]
    refine ⟨rest, node :: spare, kept, status ▸ live, ?_, ?_⟩
    · exact same ▸ ordered
    · exact same ▸ below

variable [DecidableEq Timer]

theorem Good.step (good : r.Good pending spare) (event : TimerEvent Timer) :
    ∃ pending spare, (r.step event).Good pending spare := by
  cases event with
  | insert pTimer => exact good.insert pTimer
  | remove pTimer => exact good.remove pTimer
  | dequeue => exact good.dequeue
  | stop =>
    obtain ⟨⟨chain, tail, freeChain, once, whole⟩, _, ordered, below⟩ := good
    exact ⟨pending, spare, ⟨chain, tail, freeChain, once, whole⟩,
      show rtmpTaskStatInited ≤ rtmpTaskStatStoped by decide, ordered, below⟩

theorem good_run (events : List (TimerEvent Timer)) :
    ∃ pending spare, (run step (init Timer) events).Good pending spare := by
  apply run_invariant (fun r : TimerRun Timer => ∃ pending spare, r.Good pending spare)
    (fun r event => fun ⟨_, _, good⟩ _ => good.step event) _ events (throughout_always _ events)
  obtain ⟨spare, holds⟩ : ∃ spare, (rtmpTimerQInit Timer).Holds [] spare := holds_init
  exact ⟨[], spare, holds, le_rfl, List.Pairwise.nil, fun _ member => absurd member List.not_mem_nil⟩

end TimerRun

end Mt7612u.Mlme
