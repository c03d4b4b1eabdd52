import Mathlib

/-! The loops of `mcu_and.c` over its queues: the two walks at shutdown, whose end test names the
head of `ackq`, the loop that kicks out commands, and the search for a sequence number. -/

namespace Mt7612u.Mcu.QueueLoops

/-- The lists of `struct mt7612u_mcu_ctrl`. -/
inductive DlHead where
  | txq
  | kickq
  | ackq
  | rxq
  | rxDoneq
  deriving DecidableEq

/-- A `DL_LIST` in memory: the head of a list, or the `list` of a message. -/
inductive Item where
  | head (list : DlHead)
  | msg (m : Nat)
  deriving DecidableEq

/-- `enum cmd_msg_state`. -/
inductive MsgState where
  | illegal
  | txStart
  | txKickoutFail
  | txTimeoutFail
  | txRetransmit
  | txDone
  | waitCmdOut
  | waitCmdOutAndAck
  | waitAck
  | rxStart
  | rxReceiveFail
  | rxDone
  deriving DecidableEq

/-- The states in which `mt7612u_mcu_usb_unlink_urb` kills the URB. -/
def MsgState.killed : MsgState → Bool
  | .waitCmdOutAndAck | .waitCmdOut | .txStart | .rxStart | .txRetransmit => true
  | _ => false

/-- The `Next` and `Prev` of every item. -/
structure Links where
  next : Item → Option Item
  prev : Item → Option Item

namespace Links

/-- `DlListDel`. There is none when it would go through NULL. -/
def dlListDel (links : Links) (item : Item) : Option Links := do
  let after ← links.next item
  let before ← links.prev item
  some {
    next := Function.update (Function.update links.next before (some after)) item none
    prev := Function.update (Function.update links.prev after (some before)) item none }

/-- `DlListAddTail`. -/
def dlListAddTail (links : Links) (list : DlHead) (item : Item) : Option Links := do
  let last ← links.prev (.head list)
  let after ← links.next last
  some {
    next := Function.update (Function.update links.next item (some after)) last (some item)
    prev := Function.update (Function.update links.prev item (some last)) after (some item) }

/-- Each item is linked with the next one of the list, in both directions. -/
def Follows (links : Links) : Item → List Item → Prop
  | _, [] => True
  | item, after :: rest =>
      links.next item = some after ∧ links.prev after = some item ∧ Follows links after rest

/-- The list of a head: its messages, and the head again. -/
structure Ring (links : Links) (list : DlHead) (content : List Nat) : Prop where
  follows : links.Follows (.head list) (content.map .msg ++ [.head list])
  nodup : content.Nodup

end Links

/-- The queues, with what stands where a message's state is read: for a list head that is some word of
`struct mt7612u_mcu_ctrl`. -/
structure McuLists where
  links : Links
  content : DlHead → List Nat
  ring : ∀ list, links.Ring list (content list)
  disjoint : ∀ list other m, m ∈ content list → m ∈ content other → list = other
  state : Item → MsgState
  /-- The URB is one of `usb_rx_cmd_msg_submit`. -/
  receives : Nat → Bool
  commands : ∀ m ∈ content .ackq, receives m = false

/-- A list walked along: what is done with an item, until the head of `ackq` comes. `tmp` is the item
after it, read before. The result is the memory and the items in their order; there is none without
enough rounds, and none when memory that is no message is used as one. -/
def walk (visit : Links → Item → Option Links) : Nat → Links → Item → Item →
    Option (Links × List Item)
  | 0, _, _, _ => none
  | rounds + 1, links, msg, tmp =>
      if msg = .head .ackq then some (links, [])
      else do
        let links ← visit links msg
        let after ← links.next tmp
        let (links, visited) ← walk visit rounds links tmp after
        some (links, msg :: visited)

/-- The loop header of both walks. -/
def walkList (visit : Links → Item → Option Links) (rounds : Nat) (links : Links) (list : DlHead) :
    Option (Links × List Item) := do
  let msg ← links.next (.head list)
  let tmp ← links.next msg
  walk visit rounds links msg tmp

/-- `usb_kill_urb` with `MCU_INIT` cleared: the completion of a command does nothing, and a received
message goes to `rx_doneq`. The head of a list has no URB. -/
def usbKillUrb (lists : McuLists) (links : Links) : Item → Option Links
  | .head _ => none
  | .msg m =>
      if lists.receives m then (links.dlListDel (.msg m)).bind fun links =>
        links.dlListAddTail .rxDoneq (.msg m)
      else some links

def unlinkVisit (lists : McuLists) (links : Links) (item : Item) : Option Links :=
  if (lists.state item).killed then usbKillUrb lists links item else some links

/-- `mt7612u_mcu_usb_unlink_urb`, as `mt7612u_mcu_ctrl_usb_exit` calls it. -/
def mt7612uMcuUsbUnlinkUrb (lists : McuLists) (rounds : Nat) (links : Links) (list : DlHead) :
    Option (Links × List Item) :=
  walkList (unlinkVisit lists) rounds links list

/-- `_mt7612u_mcu_unlink_cmd_msg` and `mt7612u_mcu_free_cmd_msg`. The head of a list was not
allocated. -/
def cleanupVisit (links : Links) (item : Item) : Option Links :=
  match item with
  | .head _ => none
  | .msg _ => links.dlListDel item

/-- `mt7612u_mcu_cleanup_cmd_msg`. The items are those that were freed. -/
def mt7612uMcuCleanupCmdMsg (rounds : Nat) (links : Links) (list : DlHead) :
    Option (Links × List Item) := do
  let (links, freed) ← walkList cleanupVisit rounds links list
  some ({
    next := Function.update links.next (.head list) (some (.head list))
    prev := Function.update links.prev (.head list) (some (.head list)) }, freed)

/-- `mt7612u_mcu_ctrl_usb_exit`: everything that was freed. -/
def mt7612uMcuCtrlUsbExit (lists : McuLists) (rounds : Nat) : Option (List Item) := do
  let (links, _) ← mt7612uMcuUsbUnlinkUrb lists rounds lists.links .txq
  let (links, _) ← mt7612uMcuUsbUnlinkUrb lists rounds links .kickq
  let (links, _) ← mt7612uMcuUsbUnlinkUrb lists rounds links .ackq
  let (links, _) ← mt7612uMcuUsbUnlinkUrb lists rounds links .rxq
  let (links, tx) ← mt7612uMcuCleanupCmdMsg rounds links .txq
  let (links, ack) ← mt7612uMcuCleanupCmdMsg rounds links .ackq
  let (links, rx) ← mt7612uMcuCleanupCmdMsg rounds links .rxq
  let (links, kick) ← mt7612uMcuCleanupCmdMsg rounds links .kickq
  let (_, done) ← mt7612uMcuCleanupCmdMsg rounds links .rxDoneq
  some (tx ++ ack ++ rx ++ kick ++ done)

/-- What `mt7612u_mcu_dequeue_and_kick_out_cmd_msgs` finds: one of `NIC_NOT_EXIST` and `SUSPEND`,
`MCU_INIT`, which messages wait for a response, and whether `usb_submit_urb` takes their URBs. -/
structure KickOut where
  gone : Bool
  mcuInit : Bool
  needRsp : Nat → Bool
  submits : Nat → Bool

/-- The loop of `mt7612u_mcu_dequeue_and_kick_out_cmd_msgs`: `txq` and `ackq` after it. While it runs
no other thread takes a message from `ackq`. A message is kicked out when that is empty, so the search
for its sequence number ends at the first one. -/
def dequeueAndKickOutCmdMsgs (env : KickOut) : Nat → List Nat → List Nat →
    Option (List Nat × List Nat)
  | 0, _, _ => none
  | _ + 1, [], ackq => some ([], ackq)
  | rounds + 1, msg :: rest, ackq =>
      if env.gone then dequeueAndKickOutCmdMsgs env rounds rest ackq
      else if ackq ≠ [] then dequeueAndKickOutCmdMsgs env rounds (msg :: rest) ackq
      else
        let waiting := if env.needRsp msg then [msg] else []
        if !env.mcuInit then some (rest, waiting)
        else if env.submits msg then dequeueAndKickOutCmdMsgs env rounds rest waiting
        else some (rest, [])

/-- `ctl->cmd_seq >= 0xf ? ctl->cmd_seq = 1 : ctl->cmd_seq++`. -/
def nextCmdSeq (cmdSeq : Nat) : Nat := if 0xf ≤ cmdSeq then 1 else cmdSeq + 1

/-- `mt7612u_mcu_get_cmd_msg_seq`, with the sequence numbers of the messages in `ackq`. -/
def mt7612uMcuGetCmdMsgSeq (ackq : List Nat) : Nat → Nat → Option Nat
  | 0, _ => none
  | rounds + 1, cmdSeq =>
      if nextCmdSeq cmdSeq ∈ ackq then mt7612uMcuGetCmdMsgSeq ackq rounds (nextCmdSeq cmdSeq)
      else some (nextCmdSeq cmdSeq)

/-- The loop ends by itself. -/
def KicksOut (env : KickOut) (txq ackq : List Nat) : Prop :=
  ∃ rounds result, dequeueAndKickOutCmdMsgs env rounds txq ackq = some result

def FindsSeq (ackq : List Nat) (cmdSeq : Nat) : Prop :=
  ∃ rounds seq, mt7612uMcuGetCmdMsgSeq ackq rounds cmdSeq = some seq

/-- No message that waits for a response is kicked out ahead of another message. -/
def WaitsLast (env : KickOut) (txq : List Nat) : Prop :=
  ∀ before m later after, txq = before ++ m :: later :: after →
    (∀ x ∈ before ++ [m], env.mcuInit = true ∧ env.submits x = true) → env.needRsp m = false

/-- The walk ends, after each message of the list once and nothing else. -/
def UnlinksExactly (lists : McuLists) (list : DlHead) : Prop :=
  ∃ rounds links, mt7612uMcuUsbUnlinkUrb lists rounds lists.links list =
    some (links, (lists.content list).map .msg)

def CleansExactly (lists : McuLists) (list : DlHead) : Prop :=
  ∃ rounds links, mt7612uMcuCleanupCmdMsg rounds lists.links list =
    some (links, (lists.content list).map .msg)

/-- Every queued message is freed once, and nothing else. -/
def FreesAll (lists : McuLists) : Prop :=
  ∃ rounds freed, mt7612uMcuCtrlUsbExit lists rounds = some freed ∧ freed.Nodup ∧
    ∀ item, item ∈ freed ↔ ∃ list, ∃ m ∈ lists.content list, item = .msg m

section Walks
variable {visit : Links → Item → Option Links}

/-- No link leads out of these items. -/
def Closed (inside : Item → Prop) (links : Links) : Prop :=
  ∀ item, inside item → (∀ after, links.next item = some after → inside after) ∧
    ∀ before, links.prev item = some before → inside before

/-- A walk that never comes to the head of `ackq` does not end. -/
theorem walk_closed (inside : Item → Prop) (outside : ¬inside (.head .ackq))
    (keeps : ∀ links item links', Closed inside links → inside item →
      visit links item = some links' → Closed inside links')
    (rounds : Nat) (links : Links) (msg tmp : Item) (closed : Closed inside links)
    (msgIn : inside msg) (tmpIn : inside tmp) : walk visit rounds links msg tmp = none := by
  induction rounds generalizing links msg tmp with
  | zero => rfl
  | succ rounds ih =>
    have notStop : msg ≠ .head .ackq := fun same => outside (same ▸ msgIn)
    unfold walk
    rw [if_neg notStop]
    cases visited : visit links msg with
    | none => rfl
    | some links' =>
      have closed' := keeps links msg links' closed msgIn visited
      cases found : links'.next tmp with
      | none => simp [found]
      | some after =>
        have later := ih links' tmp after closed' tmpIn ((closed' tmp tmpIn).1 after found)
        simp [found, later]

theorem walkList_closed (inside : Item → Prop) (outside : ¬inside (.head .ackq))
    (keeps : ∀ links item links', Closed inside links → inside item →
      visit links item = some links' → Closed inside links')
    (rounds : Nat) {links : Links} {list : DlHead} (closed : Closed inside links)
    (headIn : inside (.head list)) : walkList visit rounds links list = none := by
  unfold walkList
  cases first : links.next (.head list) with
  | none => rfl
  | some msg =>
    have msgIn := (closed _ headIn).1 msg first
    cases second : links.next msg with
    | none => simp [second]
    | some tmp =>
      have tmpIn := (closed _ msgIn).1 tmp second
      simpa [second] using walk_closed inside outside keeps rounds links msg tmp closed msgIn tmpIn

theorem Closed.update {inside : Item → Prop} {links : Links} (closed : Closed inside links)
    (next prev : Item → Option Item)
    (nextIn : ∀ item after, inside item → next item = some after →
      inside after ∨ links.next item = some after)
    (prevIn : ∀ item before, inside item → prev item = some before →
      inside before ∨ links.prev item = some before) : Closed inside ⟨next, prev⟩ := by
  intro item itemIn
  constructor
  · intro after link
    exact (nextIn item after itemIn link).elim id ((closed item itemIn).1 after)
  · intro before link
    exact (prevIn item before itemIn link).elim id ((closed item itemIn).2 before)

/-- A link that was written, or one from before. -/
theorem update_cases {f : Item → Option Item} {place item value : Item} {new : Option Item}
    (link : Function.update f place new item = some value) :
    new = some value ∨ f item = some value := by
  rw [Function.update_apply] at link
  split at link
  next => exact Or.inl link
  next => exact Or.inr link

theorem update_some_cases {f : Item → Option Item} {place item value new : Item}
    (link : Function.update f place (some new) item = some value) :
    value = new ∨ f item = some value :=
  (update_cases link).imp_left fun same => (Option.some.inj same).symm

theorem Closed.dlListDel {inside : Item → Prop} {links links' : Links} {item : Item}
    (closed : Closed inside links) (itemIn : inside item)
    (deleted : links.dlListDel item = some links') : Closed inside links' := by
  obtain ⟨after, next, rest⟩ := Option.bind_eq_some_iff.mp deleted
  obtain ⟨before, prev, result⟩ := Option.bind_eq_some_iff.mp rest
  obtain rfl := Option.some.inj result
  have afterIn := (closed item itemIn).1 after next
  have beforeIn := (closed item itemIn).2 before prev
  apply closed.update
  · intro _ value _ link
    rcases update_cases link with absent | link
    · cases absent
    · rcases update_some_cases link with same | link
      · exact Or.inl (same ▸ afterIn)
      · exact Or.inr link
  · intro _ value _ link
    rcases update_cases link with absent | link
    · cases absent
    · rcases update_some_cases link with same | link
      · exact Or.inl (same ▸ beforeIn)
      · exact Or.inr link

theorem Closed.dlListAddTail {inside : Item → Prop} {links links' : Links} {list : DlHead}
    {item : Item} (closed : Closed inside links) (itemIn : inside item)
    (headIn : inside (.head list)) (added : links.dlListAddTail list item = some links') :
    Closed inside links' := by
  obtain ⟨last, prev, rest⟩ := Option.bind_eq_some_iff.mp added
  obtain ⟨after, next, result⟩ := Option.bind_eq_some_iff.mp rest
  obtain rfl := Option.some.inj result
  have lastIn := (closed _ headIn).2 last prev
  have afterIn := (closed last lastIn).1 after next
  apply closed.update
  · intro _ value _ link
    rcases update_some_cases link with same | link
    · exact Or.inl (same ▸ itemIn)
    · rcases update_some_cases link with same | link
      · exact Or.inl (same ▸ afterIn)
      · exact Or.inr link
  · intro _ value _ link
    rcases update_some_cases link with same | link
    · exact Or.inl (same ▸ itemIn)
    · rcases update_some_cases link with same | link
      · exact Or.inl (same ▸ lastIn)
      · exact Or.inr link

end Walks

section Lists
variable {lists : McuLists}

/-- The items of the lists other than `ackq`. -/
def Elsewhere (lists : McuLists) (item : Item) : Prop :=
  ∃ list, list ≠ .ackq ∧ item ∈ Item.head list :: (lists.content list).map .msg

theorem follows_next {links : Links} {item last x : Item} {before : List Item}
    (follows : links.Follows item (before ++ [last])) (here : x ∈ item :: before) :
    ∃ after ∈ before ++ [last], links.next x = some after := by
  induction before generalizing item with
  | nil =>
    rw [List.mem_singleton.mp here]
    exact ⟨last, List.mem_singleton_self last, follows.1⟩
  | cons first rest ih =>
    rcases List.mem_cons.mp here with rfl | later
    · exact ⟨first, List.mem_cons_self, follows.1⟩
    · obtain ⟨after, found, link⟩ := ih follows.2.2 later
      exact ⟨after, List.mem_cons_of_mem first found, link⟩

theorem follows_prev {links : Links} {item last x : Item} {before : List Item}
    (follows : links.Follows item (before ++ [last])) (here : x ∈ before ++ [last]) :
    ∃ earlier ∈ item :: before, links.prev x = some earlier := by
  induction before generalizing item with
  | nil =>
    rw [List.mem_singleton.mp here]
    exact ⟨item, List.mem_singleton_self item, follows.2.1⟩
  | cons first rest ih =>
    rcases List.mem_cons.mp here with rfl | later
    · exact ⟨item, List.mem_cons_self, follows.2.1⟩
    · obtain ⟨earlier, found, link⟩ := ih follows.2.2 later
      exact ⟨earlier, List.mem_cons_of_mem item found, link⟩

theorem elsewhere_not_ackq : ¬Elsewhere lists (.head .ackq) := by
  intro ⟨list, other, here⟩
  rcases List.mem_cons.mp here with same | found
  · injection same with same
    exact other same.symm
  · obtain ⟨m, _, absent⟩ := List.mem_map.mp found
    cases absent

theorem elsewhere_closed : Closed (Elsewhere lists) lists.links := by
  intro item ⟨list, other, here⟩
  have ring := (lists.ring list).follows
  constructor
  · intro after link
    obtain ⟨after', found, link'⟩ := follows_next ring here
    obtain rfl := Option.some.inj (link.symm.trans link')
    refine ⟨list, other, ?_⟩
    rcases List.mem_append.mp found with message | head
    · exact List.mem_cons_of_mem _ message
    · rw [List.mem_singleton.mp head]
      exact List.mem_cons_self
  · intro before link
    have there : item ∈ (lists.content list).map .msg ++ [.head list] := by
      rcases List.mem_cons.mp here with head | message
      · exact List.mem_append_right _ (List.mem_singleton.mpr head)
      · exact List.mem_append_left _ message
    obtain ⟨before', found, link'⟩ := follows_prev ring there
    obtain rfl := Option.some.inj (link.symm.trans link')
    exact ⟨list, other, found⟩

theorem unlinkVisit_closed (links : Links) (item : Item) (links' : Links)
    (closed : Closed (Elsewhere lists) links) (itemIn : Elsewhere lists item)
    (visited : unlinkVisit lists links item = some links') : Closed (Elsewhere lists) links' := by
  unfold unlinkVisit at visited
  split at visited
  next =>
    cases item with
    | head list => cases visited
    | msg m =>
      simp only [usbKillUrb] at visited
      split at visited
      next =>
        obtain ⟨between, deleted, added⟩ := Option.bind_eq_some_iff.mp visited
        have doneIn : Elsewhere lists (.head .rxDoneq) :=
          ⟨.rxDoneq, by decide, List.mem_cons_self⟩
        exact (closed.dlListDel itemIn deleted).dlListAddTail itemIn doneIn added
      next => exact Option.some.inj visited ▸ closed
  next => exact Option.some.inj visited ▸ closed

theorem cleanupVisit_closed (links : Links) (item : Item) (links' : Links)
    (closed : Closed (Elsewhere lists) links) (itemIn : Elsewhere lists item)
    (visited : cleanupVisit links item = some links') : Closed (Elsewhere lists) links' := by
  cases item with
  | head list => cases visited
  | msg m => exact closed.dlListDel itemIn visited

/-- The walk along any other list never ends. -/
theorem unlink_elsewhere {list : DlHead} (other : list ≠ .ackq) (rounds : Nat) :
    mt7612uMcuUsbUnlinkUrb lists rounds lists.links list = none :=
  walkList_closed (Elsewhere lists) elsewhere_not_ackq unlinkVisit_closed rounds elsewhere_closed
    ⟨list, other, List.mem_cons_self⟩

theorem cleanup_elsewhere {list : DlHead} (other : list ≠ .ackq) (rounds : Nat) :
    mt7612uMcuCleanupCmdMsg rounds lists.links list = none := by
  have never := walkList_closed (Elsewhere lists) elsewhere_not_ackq cleanupVisit_closed rounds
    elsewhere_closed ⟨list, other, List.mem_cons_self⟩
  unfold mt7612uMcuCleanupCmdMsg
  rw [never]
  rfl

/-- A walk that changes no link comes to the messages in their order. -/
theorem walk_follows {visit : Links → Item → Option Links} {links : Links} {first second : Item}
    {wrap : Item} (content : List Item) (notHead : ∀ item ∈ content, item ≠ .head .ackq)
    (passes : ∀ item ∈ content, visit links item = some links)
    (wraps : links.next (.head .ackq) = some wrap)
    (follows : ∀ from_item rest, content ++ [.head .ackq] = from_item :: rest → first = from_item ∧
      links.next from_item = some second ∧ links.Follows from_item rest) :
    walk visit (content.length + 1) links first second = some (links, content) := by
  induction content generalizing first second with
  | nil =>
    obtain ⟨rfl, -, -⟩ := follows (.head .ackq) [] rfl
    unfold walk
    rw [if_pos rfl]
  | cons item rest ih =>
    obtain ⟨rfl, next, chain⟩ := follows item (rest ++ [.head .ackq]) rfl
    have visited := passes first List.mem_cons_self
    have after : ∃ third, links.next second = some third := by
      cases rest with
      | nil =>
        obtain rfl := Option.some.inj (next.symm.trans chain.1)
        exact ⟨wrap, wraps⟩
      | cons item' rest =>
        obtain rfl := Option.some.inj (next.symm.trans chain.1)
        cases rest with
        | nil => exact ⟨_, chain.2.2.1⟩
        | cons item'' rest => exact ⟨_, chain.2.2.1⟩
    obtain ⟨third, found⟩ := after
    have later := @ih second third (fun x inRest => notHead x (List.mem_cons_of_mem _ inRest))
      (fun x inRest => passes x (List.mem_cons_of_mem _ inRest)) (by
        intro from_item tail split
        rw [split] at chain
        obtain rfl := Option.some.inj (next.symm.trans chain.1)
        exact ⟨rfl, found, chain.2.2⟩)
    rw [List.length_cons]
    unfold walk
    rw [if_neg (notHead first List.mem_cons_self), visited]
    simp only [Option.bind_eq_bind, Option.bind_some, found, later]

/-- What the loop header finds at the head of `ackq`. -/
theorem ring_start {links : Links} {content : List Nat}
    (follows : links.Follows (.head .ackq) (content.map .msg ++ [.head .ackq])) :
    ∃ first second, links.next (.head .ackq) = some first ∧ links.next first = some second ∧
      ∀ from_item rest, content.map .msg ++ [.head .ackq] = from_item :: rest →
        first = from_item ∧ links.next from_item = some second ∧ links.Follows from_item rest := by
  cases content with
  | nil =>
    refine ⟨_, _, follows.1, follows.1, ?_⟩
    intro from_item rest split
    obtain ⟨rfl, rfl⟩ := List.cons.inj split
    exact ⟨rfl, follows.1, trivial⟩
  | cons m content =>
    have next : ∃ second, links.next (.msg m) = some second := by
      cases content with
      | nil => exact ⟨_, follows.2.2.1⟩
      | cons m' content => exact ⟨_, follows.2.2.1⟩
    obtain ⟨second, found⟩ := next
    refine ⟨_, second, follows.1, found, ?_⟩
    intro from_item rest split
    obtain ⟨rfl, rfl⟩ := List.cons.inj split
    exact ⟨rfl, found, follows.2.2⟩

theorem unlink_ackq : UnlinksExactly lists .ackq := by
  obtain ⟨first, second, head, next, split⟩ := ring_start (lists.ring .ackq).follows
  refine ⟨((lists.content .ackq).map Item.msg).length + 1, lists.links, ?_⟩
  unfold mt7612uMcuUsbUnlinkUrb walkList
  simp only [Option.bind_eq_bind, head, Option.bind_some, next]
  apply walk_follows _ _ _ head split
  · intro item found
    obtain ⟨m, _, rfl⟩ := List.mem_map.mp found
    exact Item.noConfusion
  · intro item found
    obtain ⟨m, queued, rfl⟩ := List.mem_map.mp found
    have command : lists.receives m = false := lists.commands m queued
    unfold unlinkVisit usbKillUrb
    simp [command]

theorem follows_congr {links links' : Links} {item last : Item} {before : List Item}
    (follows : links.Follows item (before ++ [last]))
    (next : ∀ x ∈ item :: before, links'.next x = links.next x)
    (prev : ∀ x ∈ before ++ [last], links'.prev x = links.prev x) :
    links'.Follows item (before ++ [last]) := by
  induction before generalizing item with
  | nil =>
    exact ⟨(next item List.mem_cons_self).trans follows.1,
      (prev last (List.mem_singleton_self last)).trans follows.2.1, trivial⟩
  | cons first rest ih =>
    exact ⟨(next item List.mem_cons_self).trans follows.1,
      (prev first List.mem_cons_self).trans follows.2.1,
      ih follows.2.2 (fun x here => next x (List.mem_cons_of_mem item here))
        fun x here => prev x (List.mem_cons_of_mem first here)⟩

theorem dlListDel_eq {links : Links} {item after before : Item} (next : links.next item = some after)
    (prev : links.prev item = some before) :
    links.dlListDel item = some {
      next := Function.update (Function.update links.next before (some after)) item none
      prev := Function.update (Function.update links.prev after (some before)) item none } := by
  simp only [Links.dlListDel, Option.bind_eq_bind, next, prev, Option.bind_some]

/-- Without its first message the list is still one. -/
theorem ring_dlListDel {links : Links} {m : Nat} {content : List Nat}
    (follows : links.Follows (.head .ackq) ((m :: content).map .msg ++ [.head .ackq]))
    (nodup : (m :: content).Nodup) :
    ∃ links', links.dlListDel (.msg m) = some links' ∧
      links'.Follows (.head .ackq) (content.map .msg ++ [.head .ackq]) := by
  obtain ⟨notIn, restNodup⟩ := List.nodup_cons.mp nodup
  obtain ⟨head, prev, chain⟩ := follows
  cases content with
  | nil =>
    refine ⟨_, dlListDel_eq chain.1 prev, ?_⟩
    exact ⟨by simp, by simp, trivial⟩
  | cons m' content =>
    refine ⟨_, dlListDel_eq chain.1 prev, ?_⟩
    have other : m' ≠ m := fun same => notIn (same ▸ List.mem_cons_self)
    refine ⟨by simp, by simp [other], follows_congr chain.2.2 ?_ ?_⟩
    · intro x here
      obtain ⟨m'', queued, rfl⟩ := List.mem_map.mp (by
        rwa [← List.map_cons] at here : x ∈ (m' :: content).map Item.msg)
      have apart : m'' ≠ m := fun same => notIn (same ▸ queued)
      simp [apart]
    · intro x here
      rcases List.mem_append.mp here with message | last
      · obtain ⟨m'', queued, rfl⟩ := List.mem_map.mp message
        have apart : m'' ≠ m := fun same => notIn (same ▸ List.mem_cons_of_mem m' queued)
        have later : m'' ≠ m' := fun same => (List.nodup_cons.mp restNodup).1 (same ▸ queued)
        simp [apart, later]
      · rw [List.mem_singleton.mp last]
        simp

theorem cleanup_walk {links : Links} {content : List Nat} {first second : Item}
    (follows : links.Follows (.head .ackq) (content.map .msg ++ [.head .ackq]))
    (nodup : content.Nodup) (head : links.next (.head .ackq) = some first)
    (next : links.next first = some second) :
    ∃ links', walk cleanupVisit (content.length + 1) links first second =
      some (links', content.map .msg) := by
  induction content generalizing links first second with
  | nil =>
    obtain rfl := Option.some.inj (head.symm.trans follows.1)
    exact ⟨links, by unfold walk; rw [if_pos rfl]; rfl⟩
  | cons m content ih =>
    obtain rfl := Option.some.inj (head.symm.trans follows.1)
    obtain ⟨links', deleted, follows'⟩ := ring_dlListDel follows nodup
    -- the item read before the deletion is now the first one
    have now_first : links'.next (.head .ackq) = some second := by
      have chain := follows.2.2
      cases content with
      | nil =>
        obtain rfl := Option.some.inj (next.symm.trans chain.1)
        exact follows'.1
      | cons m' content =>
        obtain rfl := Option.some.inj (next.symm.trans chain.1)
        exact follows'.1
    obtain ⟨first', third, head', next', _⟩ := ring_start follows'
    obtain rfl := Option.some.inj (now_first.symm.trans head')
    obtain ⟨final, later⟩ := ih follows' (List.nodup_cons.mp nodup).2 now_first next'
    refine ⟨final, ?_⟩
    rw [List.length_cons]
    unfold walk
    rw [if_neg Item.noConfusion]
    simp only [cleanupVisit, deleted, Option.bind_eq_bind, Option.bind_some, next', later,
      List.map_cons]

theorem cleanup_ackq : CleansExactly lists .ackq := by
  have ring := lists.ring .ackq
  obtain ⟨first, second, head, next, _⟩ := ring_start ring.follows
  obtain ⟨links, walked⟩ := cleanup_walk ring.follows ring.nodup head next
  refine ⟨(lists.content .ackq).length + 1, {
    next := Function.update links.next (.head .ackq) (some (.head .ackq))
    prev := Function.update links.prev (.head .ackq) (some (.head .ackq)) }, ?_⟩
  unfold mt7612uMcuCleanupCmdMsg walkList
  simp only [Option.bind_eq_bind, head, Option.bind_some, next, walked]

theorem unlinks_iff (list : DlHead) : UnlinksExactly lists list ↔ list = .ackq := by
  constructor
  · intro ⟨rounds, links, walked⟩
    by_contra other
    rw [unlink_elsewhere other rounds] at walked
    cases walked
  · rintro rfl
    exact unlink_ackq

theorem cleans_iff (list : DlHead) : CleansExactly lists list ↔ list = .ackq := by
  constructor
  · intro ⟨rounds, links, walked⟩
    by_contra other
    rw [cleanup_elsewhere other rounds] at walked
    cases walked
  · rintro rfl
    exact cleanup_ackq

/-- The first walk of the shutdown does not end. -/
theorem not_freesAll : ¬FreesAll lists := by
  intro ⟨rounds, freed, ends, _⟩
  have never : mt7612uMcuUsbUnlinkUrb lists rounds lists.links .txq = none :=
    unlink_elsewhere (by decide) rounds
  unfold mt7612uMcuCtrlUsbExit at ends
  rw [never] at ends
  cases ends

end Lists

section KickOuts
variable {env : KickOut}

theorem kicksOut_gone (gone : env.gone = true) (txq ackq : List Nat) : KicksOut env txq ackq := by
  induction txq with
  | nil => exact ⟨1, ([], ackq), rfl⟩
  | cons msg rest ih =>
    obtain ⟨rounds, result, ends⟩ := ih
    refine ⟨rounds + 1, result, ?_⟩
    unfold dequeueAndKickOutCmdMsgs
    rwa [if_pos gone]

/-- With a message in `ackq` the first message of `txq` is taken and put back for ever. -/
theorem not_kicksOut_waiting (here : env.gone = false) {msg m : Nat} {rest ackq : List Nat} :
    ¬KicksOut env (msg :: rest) (m :: ackq) := by
  intro ⟨rounds, result, ends⟩
  induction rounds with
  | zero => cases ends
  | succ rounds ih =>
    unfold dequeueAndKickOutCmdMsgs at ends
    rw [here, if_neg Bool.false_ne_true, if_pos (List.cons_ne_nil m ackq)] at ends
    exact ih ends

/-- The message that is kicked out first decides, or the rest of the queue. -/
theorem kicksOut_cons (here : env.gone = false) (msg : Nat) (rest : List Nat) :
    KicksOut env (msg :: rest) [] ↔
      (env.mcuInit = true ∧ env.submits msg = true →
        KicksOut env rest (if env.needRsp msg then [msg] else [])) := by
  have unfolded : ∀ rounds, dequeueAndKickOutCmdMsgs env (rounds + 1) (msg :: rest) [] =
      if !env.mcuInit then some (rest, if env.needRsp msg then [msg] else [])
      else if env.submits msg then
        dequeueAndKickOutCmdMsgs env rounds rest (if env.needRsp msg then [msg] else [])
      else some (rest, []) := by
    intro rounds
    rw [dequeueAndKickOutCmdMsgs]
    simp [here]
  constructor
  · intro ⟨rounds, result, ends⟩ ⟨init, taken⟩
    cases rounds with
    | zero => cases ends
    | succ rounds =>
      rw [unfolded, init, taken] at ends
      exact ⟨rounds, result, ends⟩
  · intro later
    by_cases kicked : env.mcuInit = true ∧ env.submits msg = true
    · obtain ⟨rounds, result, ends⟩ := later kicked
      refine ⟨rounds + 1, result, ?_⟩
      rw [unfolded, kicked.1, kicked.2]
      exact ends
    · unfold KicksOut
      cases init : env.mcuInit with
      | false => exact ⟨1, _, by rw [unfolded, init]; rfl⟩
      | true =>
        have refused : env.submits msg = false := by
          by_contra taken
          exact kicked ⟨init, Bool.eq_true_of_not_eq_false taken⟩
        exact ⟨1, _, by rw [unfolded, init, refused]; rfl⟩

theorem waitsLast_cons (msg : Nat) (rest : List Nat) :
    WaitsLast env (msg :: rest) ↔ (env.mcuInit = true ∧ env.submits msg = true →
      (rest = [] ∨ env.needRsp msg = false) ∧ WaitsLast env rest) := by
  constructor
  · intro last kicked
    constructor
    · cases rest with
      | nil => exact Or.inl rfl
      | cons later after =>
        refine Or.inr (last [] msg later after rfl ?_)
        intro x only
        rw [List.mem_singleton.mp only]
        exact kicked
    · intro before m later after split all
      apply last (msg :: before) m later after (congrArg (msg :: ·) split)
      intro x found
      rcases List.mem_cons.mp found with rfl | inside
      · exact kicked
      · exact all x inside
  · intro condition before m later after split all
    cases before with
    | nil =>
      obtain ⟨rfl, rfl⟩ := List.cons.inj split
      have kicked := all msg (List.mem_singleton_self msg)
      exact (condition kicked).1.resolve_left (List.cons_ne_nil later after)
    | cons first before =>
      obtain ⟨rfl, rfl⟩ := List.cons.inj split
      have kicked := all msg List.mem_cons_self
      exact (condition kicked).2 before m later after rfl
        fun x found => all x (List.mem_cons_of_mem msg found)

theorem kicksOut_empty_iff (here : env.gone = false) (txq : List Nat) :
    KicksOut env txq [] ↔ WaitsLast env txq := by
  induction txq with
  | nil =>
    apply iff_of_true ⟨1, ([], []), rfl⟩
    intro before m later after split
    exact absurd split.symm (List.append_ne_nil_of_right_ne_nil before (List.cons_ne_nil _ _))
  | cons msg rest ih =>
    rw [kicksOut_cons here, waitsLast_cons]
    apply imp_congr_right
    intro kicked
    cases waits : env.needRsp msg with
    | false => simpa using ih
    | true =>
      cases rest with
      | nil =>
        apply iff_of_true ⟨1, ([], [msg]), rfl⟩
        exact ⟨Or.inl rfl, ih.mp ⟨1, ([], []), rfl⟩⟩
      | cons later after =>
        apply iff_of_false (not_kicksOut_waiting here)
        intro condition
        rcases condition.1 with empty | never
        · cases empty
        · cases never

/-- The loop ends by itself exactly when there is nothing to do, the device is gone, or no response is
awaited while a message is left. -/
theorem kicksOut_iff (txq ackq : List Nat) :
    KicksOut env txq ackq ↔ env.gone = true ∨ txq = [] ∨ ackq = [] ∧ WaitsLast env txq := by
  cases here : env.gone with
  | true => exact iff_of_true (kicksOut_gone here txq ackq) (Or.inl rfl)
  | false =>
    cases txq with
    | nil => exact iff_of_true ⟨1, ([], ackq), rfl⟩ (Or.inr (Or.inl rfl))
    | cons msg rest =>
      cases ackq with
      | nil =>
        rw [kicksOut_empty_iff here]
        simp
      | cons m ackq =>
        apply iff_of_false (not_kicksOut_waiting here)
        simp

theorem nextCmdSeq_range (cmdSeq : Nat) : 1 ≤ nextCmdSeq cmdSeq ∧ nextCmdSeq cmdSeq ≤ 15 := by
  unfold nextCmdSeq
  split_ifs <;> omega

theorem seq_free {ackq : List Nat} {rounds cmdSeq seq : Nat}
    (ends : mt7612uMcuGetCmdMsgSeq ackq rounds cmdSeq = some seq) :
    1 ≤ seq ∧ seq ≤ 15 ∧ seq ∉ ackq := by
  induction rounds generalizing cmdSeq with
  | zero => cases ends
  | succ rounds ih =>
    unfold mt7612uMcuGetCmdMsgSeq at ends
    split at ends
    next => exact ih ends
    next free =>
      obtain rfl := Option.some.inj ends
      exact ⟨(nextCmdSeq_range cmdSeq).1, (nextCmdSeq_range cmdSeq).2, free⟩

/-- How many steps the search is away from a number. -/
def seqDistance (seq cmdSeq : Nat) : Nat :=
  if cmdSeq < seq then seq - cmdSeq else if cmdSeq < 15 then 15 - cmdSeq + seq else seq

theorem seqDistance_next {seq cmdSeq steps : Nat} (positive : 1 ≤ seq) (small : seq ≤ 15)
    (other : nextCmdSeq cmdSeq ≠ seq) (near : seqDistance seq cmdSeq ≤ steps + 1) :
    seqDistance seq (nextCmdSeq cmdSeq) ≤ steps := by
  unfold seqDistance nextCmdSeq at *
  split_ifs at * <;> omega

theorem findsSeq_of_free {ackq : List Nat} {seq : Nat} (positive : 1 ≤ seq) (small : seq ≤ 15)
    (free : seq ∉ ackq) (steps : Nat) (cmdSeq : Nat) (near : seqDistance seq cmdSeq ≤ steps) :
    FindsSeq ackq cmdSeq := by
  induction steps generalizing cmdSeq with
  | zero =>
    unfold seqDistance at near
    split_ifs at near <;> omega
  | succ steps ih =>
    by_cases used : nextCmdSeq cmdSeq ∈ ackq
    · have other : nextCmdSeq cmdSeq ≠ seq := fun same => free (same ▸ used)
      obtain ⟨rounds, found, ends⟩ := ih _ (seqDistance_next positive small other near)
      refine ⟨rounds + 1, found, ?_⟩
      unfold mt7612uMcuGetCmdMsgSeq
      rwa [if_pos used]
    · refine ⟨1, nextCmdSeq cmdSeq, ?_⟩
      unfold mt7612uMcuGetCmdMsgSeq
      exact if_neg used

theorem findsSeq_iff (ackq : List Nat) (cmdSeq : Nat) :
    FindsSeq ackq cmdSeq ↔ ∃ seq, 1 ≤ seq ∧ seq ≤ 15 ∧ seq ∉ ackq := by
  constructor
  · intro ⟨rounds, seq, ends⟩
    exact ⟨seq, seq_free ends⟩
  · intro ⟨seq, positive, small, free⟩
    exact findsSeq_of_free positive small free _ cmdSeq le_rfl

end KickOuts

/-- Where each of the loops ends as it should. -/
theorem queueLoops_iff (lists : McuLists) :
    (∀ list, UnlinksExactly lists list ↔ list = .ackq) ∧
      (∀ list, CleansExactly lists list ↔ list = .ackq) ∧ ¬FreesAll lists ∧
      (∀ env txq ackq, KicksOut env txq ackq ↔
        env.gone = true ∨ txq = [] ∨ ackq = [] ∧ WaitsLast env txq) ∧
      ∀ ackq cmdSeq, FindsSeq ackq cmdSeq ↔ ∃ seq, 1 ≤ seq ∧ seq ≤ 15 ∧ seq ∉ ackq :=
  ⟨unlinks_iff, cleans_iff, not_freesAll, fun _ => kicksOut_iff, findsSeq_iff⟩

/-- With every list empty the walk along `txq` does not end. -/
theorem not_unlinksExactly : ¬∀ lists list, UnlinksExactly lists list := by
  intro always
  let links : Links := ⟨fun item => some item, fun item => some item⟩
  have exactly := always {
    links := links
    content := fun _ => []
    ring := fun _ => ⟨⟨rfl, rfl, trivial⟩, List.nodup_nil⟩
    disjoint := fun _ _ m queued => absurd queued (List.not_mem_nil)
    state := fun _ => .illegal
    receives := fun _ => false
    commands := fun m queued => absurd queued (List.not_mem_nil) } .txq
  exact absurd ((unlinks_iff .txq).mp exactly) (by decide)

end Mt7612u.Mcu.QueueLoops
