import Mt7612u.Library.Run

/-! The queue of the command thread, `cmm_cmd.c`: elements linked by their `next`, each with a
buffer of its own. -/

namespace Mt7612u.Mlme.CmdQueue
open Library.Run

abbrev Address := Nat

/-- `struct _CmdQElmt`. -/
structure CmdQElmt where
  command : BitVec 32
  buffer : Option Address
  bufferlength : Nat
  cmdFromNdis : Bool
  setOperation : Bool
  next : Option Address
  deriving DecidableEq

/-- `struct _CmdQ`. The number of elements is that of allocations that are live together, which no
memory lets come to `2 ^ 32`. -/
structure CmdQ where
  size : Nat
  head : Option Address
  tail : Option Address
  cmdQState : BitVec 32

/-- `RTMP_TASK_CAN_DO_INSERT`: one of `RTMP_TASK_STAT_INITED` and `RTMP_TASK_STAT_RUNNING`. -/
def taskCanDoInsert : BitVec 32 := 1 ||| 2

/-- A command and its data. -/
structure Command where
  oid : BitVec 32
  information : List (BitVec 8)
  deriving DecidableEq

/-- The queue in memory, which elements the command thread has, and the commands accepted and
dequeued so far. An address without a value is not allocated. -/
structure CmdState where
  cmdQ : CmdQ
  elmt : Address → Option CmdQElmt
  data : Address → Option (List (BitVec 8))
  taken : List Address
  accepted : List Command
  dequeued : List Command

inductive NdisStatus where
  | success
  | failure
  | resources
  deriving DecidableEq

namespace CmdState

/-- After `RTInitializeCmdQ`. -/
def initial : CmdState := ⟨⟨0, none, none, 1⟩, fun _ => none, fun _ => none, [], [], []⟩

/-- What the command thread finds in an element. -/
def read (s : CmdState) (cmdqelmt : Address) : Command :=
  match s.elmt cmdqelmt with
  | none => ⟨0, []⟩
  | some e => ⟨e.command, (e.buffer.bind s.data).getD []⟩

def setElmt (s : CmdState) (cmdqelmt : Address) (value : Option CmdQElmt) : CmdState :=
  { s with elmt := Function.update s.elmt cmdqelmt value }

def setData (s : CmdState) (buffer : Address) (value : Option (List (BitVec 8))) : CmdState :=
  { s with data := Function.update s.data buffer value }

/-- `if (cmdqelmt->buffer) kfree(cmdqelmt->buffer); kfree(cmdqelmt);` -/
def freeCmd (s : CmdState) (cmdqelmt : Address) : CmdState :=
  match (s.elmt cmdqelmt).bind CmdQElmt.buffer with
  | none => s.setElmt cmdqelmt none
  | some buffer => (s.setData buffer none).setElmt cmdqelmt none

/-- `cmdq->tail->next = cmdqelmt`. -/
def linkTail (s : CmdState) (cmdqelmt : Address) : CmdState :=
  match s.cmdQ.tail with
  | none => s
  | some tail =>
      match s.elmt tail with
      | none => s
      | some e => s.setElmt tail (some { e with next := some cmdqelmt })

/-- `cmdqelmt->next = NULL`. -/
def endChain (s : CmdState) (cmdqelmt : Address) : CmdState :=
  match s.elmt cmdqelmt with
  | none => s
  | some e => s.setElmt cmdqelmt (some { e with next := none })

/-- The macro `EnqueueCmd`. -/
def enqueueCmd (s : CmdState) (cmdqelmt : Address) : CmdState :=
  let s :=
    if s.cmdQ.size = 0 then { s with cmdQ := { s.cmdQ with head := some cmdqelmt } }
    else s.linkTail cmdqelmt
  let s := { s with cmdQ := { s.cmdQ with tail := some cmdqelmt } }
  let s := s.endChain cmdqelmt
  { s with cmdQ := { s.cmdQ with size := s.cmdQ.size + 1 } }

/-- The part of `RTEnqueueInternalCmd` under `CmdQLock` and behind it. The status of the insertion is
dropped: the function returns success at its shared exit. -/
def insertOrFree (s : CmdState) (cmdqelmt : Address) (cmd : Command) : NdisStatus × CmdState :=
  let (status, s) :=
    if s.cmdQ.cmdQState &&& taskCanDoInsert ≠ 0 then
      (NdisStatus.success, { s.enqueueCmd cmdqelmt with accepted := s.accepted ++ [cmd] })
    else (NdisStatus.failure, s)
  let s := if status = .failure then s.freeCmd cmdqelmt else s
  (.success, s)

/-- `RTEnqueueInternalCmd`. `cmdqelmt` and `buffer` are what the two calls of `kmalloc` return. -/
def rtEnqueueInternalCmd (s : CmdState) (oid : BitVec 32) (information : List (BitVec 8))
    (cmdqelmt buffer : Option Address) : NdisStatus × CmdState :=
  match cmdqelmt with
  | none => (.resources, s)
  | some cmdqelmt =>
      let s := s.setElmt cmdqelmt (some ⟨0, none, 0, false, false, none⟩)
      if 0 < information.length then
        match buffer with
        | none => (.resources, s.setElmt cmdqelmt none)
        | some buffer =>
            let s := s.setData buffer (some information)
            let s := s.setElmt cmdqelmt
              (some ⟨oid, some buffer, information.length, false, false, none⟩)
            s.insertOrFree cmdqelmt ⟨oid, information⟩
      else
        let s := s.setElmt cmdqelmt (some ⟨oid, none, 0, false, false, none⟩)
        s.insertOrFree cmdqelmt ⟨oid, information⟩

/-- `RTThreadDequeueCmd`, for the command thread, which then has the element. -/
def rtThreadDequeueCmd (s : CmdState) : CmdState :=
  match s.cmdQ.head with
  | none => s
  | some cmdqelmt =>
      let head := (s.elmt cmdqelmt).bind CmdQElmt.next
      let size := s.cmdQ.size - 1
      { s with
        cmdQ := { s.cmdQ with
          head := head
          size := size
          tail := if size = 0 then none else s.cmdQ.tail }
        taken := cmdqelmt :: s.taken
        dequeued := s.dequeued ++ [s.read cmdqelmt] }

end CmdState

inductive CmdEvent where
  | enqueue (oid : BitVec 32) (information : List (BitVec 8)) (cmdqelmt buffer : Option Address)
  | dequeue
  /-- The command thread frees an element that it has. -/
  | release (cmdqelmt : Address)
  | setState (cmdQState : BitVec 32)

def cmdStep (s : CmdState) : CmdEvent → CmdState
  | .enqueue oid information cmdqelmt buffer =>
      (s.rtEnqueueInternalCmd oid information cmdqelmt buffer).2
  | .dequeue => s.rtThreadDequeueCmd
  | .release cmdqelmt =>
      if cmdqelmt ∈ s.taken then
        { s.freeCmd cmdqelmt with taken := s.taken.filter (· ≠ cmdqelmt) }
      else s
  | .setState cmdQState => { s with cmdQ := { s.cmdQ with cmdQState := cmdQState } }

/-- `kmalloc` returns memory that is not allocated. -/
def Allocates (s : CmdState) : CmdEvent → Prop
  | .enqueue _ _ cmdqelmt buffer =>
      (∀ a, cmdqelmt = some a → s.elmt a = none) ∧ ∀ b, buffer = some b → s.data b = none
  | _ => True

/-- The elements reached from a pointer by `next`, up to NULL. -/
def Chain (elmt : Address → Option CmdQElmt) : Option Address → List Address → Prop
  | pointer, [] => pointer = none
  | pointer, a :: rest => pointer = some a ∧ ∃ e, elmt a = some e ∧ Chain elmt e.next rest

/-- The queue holds the commands that were accepted and not yet dequeued, in their order, `size` and
`tail` agree with it, and what is allocated belongs to the queue or the command thread. -/
structure Kept (s : CmdState) (queue : List Address) : Prop where
  chain : Chain s.elmt s.cmdQ.head queue
  nodup : queue.Nodup
  size : s.cmdQ.size = queue.length
  tail : s.cmdQ.tail = queue.getLast?
  order : s.accepted = s.dequeued ++ queue.map s.read
  apart : ∀ a ∈ s.taken, a ∉ queue
  live : ∀ a, (∃ e, s.elmt a = some e) ↔ a ∈ queue ∨ a ∈ s.taken
  own : ∀ a b e e' p, s.elmt a = some e → s.elmt b = some e' → e.buffer = some p →
    e'.buffer = some p → a = b
  buffers : ∀ p, (∃ d, s.data p = some d) ↔ ∃ a e, s.elmt a = some e ∧ e.buffer = some p

/-- The command stands behind the elements that were queued. -/
def Queued (s s' : CmdState) (cmd : Command) : Prop :=
  ∃ queue a, Chain s.elmt s.cmdQ.head queue ∧ Chain s'.elmt s'.cmdQ.head (queue ++ [a]) ∧
    s'.read a = cmd

/-- The status is success exactly when the command was queued, and otherwise nothing stays
allocated. -/
def Answers (s : CmdState) : CmdEvent → Prop
  | .enqueue oid information cmdqelmt buffer =>
      let (status, s') := s.rtEnqueueInternalCmd oid information cmdqelmt buffer
      (status = .success ↔ Queued s s' ⟨oid, information⟩) ∧
        (¬Queued s s' ⟨oid, information⟩ → s'.elmt = s.elmt ∧ s'.data = s.data)
  | _ => True

/-- An allocation fails, or the state of the queue permits insertion. -/
def Permits (s : CmdState) : CmdEvent → Prop
  | .enqueue _ information cmdqelmt buffer =>
      cmdqelmt = none ∨ (0 < information.length ∧ buffer = none) ∨
        s.cmdQ.cmdQState &&& taskCanDoInsert ≠ 0
  | _ => True

section Chains
variable {elmt elmt' : Address → Option CmdQElmt} {pointer : Option Address}
  {queue queue' : List Address}

theorem Chain.congr (chain : Chain elmt pointer queue)
    (same : ∀ a ∈ queue, elmt' a = elmt a) : Chain elmt' pointer queue := by
  induction queue generalizing pointer with
  | nil => exact chain
  | cons a rest ih =>
    obtain ⟨first, e, found, later⟩ := chain
    have here := same a List.mem_cons_self
    exact ⟨first, e, here.trans found,
      ih later fun b inRest => same b (List.mem_cons_of_mem a inRest)⟩

theorem Chain.unique (chain : Chain elmt pointer queue) (other : Chain elmt pointer queue') :
    queue = queue' := by
  induction queue generalizing pointer queue' with
  | nil =>
    cases queue' with
    | nil => rfl
    | cons a rest => cases chain.symm.trans other.1
  | cons a rest ih =>
    obtain ⟨first, e, found, later⟩ := chain
    cases queue' with
    | nil => cases first.symm.trans other
    | cons b rest' =>
      obtain ⟨first', e', found', later'⟩ := other
      obtain rfl := Option.some.inj (first.symm.trans first')
      obtain rfl := Option.some.inj (found.symm.trans found')
      rw [ih later later']

/-- The last element gets a successor. -/
theorem Chain.concat {a last : Address} {e new : CmdQElmt} (chain : Chain elmt pointer queue)
    (ends : queue.getLast? = some last) (nodup : queue.Nodup)
    (others : ∀ b ∈ queue, b ≠ last → elmt' b = elmt b) (at_last : elmt last = some e)
    (linked : elmt' last = some { e with next := some a }) (fresh : elmt' a = some new)
    (final : new.next = none) : Chain elmt' pointer (queue ++ [a]) := by
  induction queue generalizing pointer with
  | nil => cases ends
  | cons b rest ih =>
    obtain ⟨first, eb, found, later⟩ := chain
    obtain ⟨notIn, restNodup⟩ := List.nodup_cons.mp nodup
    cases rest with
    | nil =>
      obtain rfl : b = last := by simpa using ends
      exact ⟨first, { e with next := some a }, linked, rfl, new, fresh, final⟩
    | cons c rest =>
      have lastIn : (c :: rest).getLast? = some last := by simpa using ends
      have inRest : last ∈ c :: rest := List.mem_of_getLast? lastIn
      have notLast : b ≠ last := fun same => notIn (same ▸ inRest)
      refine ⟨first, eb, (others b List.mem_cons_self notLast).trans found, ?_⟩
      exact ih later lastIn restNodup fun x inside => others x (List.mem_cons_of_mem b inside)

end Chains

/-- The element was put behind the queue. -/
structure Inserted (s s' : CmdState) (queue : List Address) (a : Address) (e : CmdQElmt)
    (cmd : Command) : Prop where
  head : s'.cmdQ.head = if queue = [] then some a else s.cmdQ.head
  tail : s'.cmdQ.tail = some a
  size : s'.cmdQ.size = s.cmdQ.size + 1
  new : s'.elmt a = some e
  others : ∀ b, b ≠ a → s'.elmt b =
    if queue.getLast? = some b then (s.elmt b).map fun old => { old with next := some a }
    else s.elmt b
  final : e.next = none
  fresh : s.elmt a = none
  taken : s'.taken = s.taken
  dequeued : s'.dequeued = s.dequeued
  accepted : s'.accepted = s.accepted ++ [cmd]
  oldData : ∀ p, e.buffer ≠ some p → s'.data p = s.data p
  newData : ∀ p, e.buffer = some p → s.data p = none ∧ ∃ d, s'.data p = some d
  content : s'.read a = cmd

section Insert
variable {s s' : CmdState} {queue : List Address} {a b : Address} {e old : CmdQElmt} {cmd : Command}

/-- An element from before keeps its command and its buffer. -/
theorem Inserted.earlier (inserted : Inserted s s' queue a e cmd) (found : s.elmt b = some old) :
    ∃ now, s'.elmt b = some now ∧ now.buffer = old.buffer ∧ now.command = old.command := by
  have other : b ≠ a := by
    intro same
    rw [same, inserted.fresh] at found
    cases found
  have link := inserted.others b other
  rw [found] at link
  split at link
  next => exact ⟨_, link, rfl, rfl⟩
  next => exact ⟨old, link, rfl, rfl⟩

theorem Inserted.elmt_cases (inserted : Inserted s s' queue a e cmd) {now : CmdQElmt}
    (found : s'.elmt b = some now) :
    (b = a ∧ now = e) ∨ ∃ old, s.elmt b = some old ∧ now.buffer = old.buffer := by
  by_cases same : b = a
  · rw [same, inserted.new] at found
    exact Or.inl ⟨same, (Option.some.inj found).symm⟩
  · have link := inserted.others b same
    rw [found] at link
    cases before : s.elmt b with
    | none =>
      rw [before] at link
      split at link <;> cases link
    | some old =>
      obtain ⟨now', found', buffer, -⟩ := inserted.earlier before
      obtain rfl := Option.some.inj (found.symm.trans found')
      exact Or.inr ⟨old, rfl, buffer⟩

theorem Kept.in_memory (kept : Kept s queue) (found : b ∈ queue) : ∃ e, s.elmt b = some e :=
  (kept.live b).mpr (Or.inl found)

theorem Inserted.unused (inserted : Inserted s s' queue a e cmd) (kept : Kept s queue) :
    a ∉ queue ∧ a ∉ s.taken := by
  constructor
  · intro found
    obtain ⟨old, before⟩ := kept.in_memory found
    cases inserted.fresh.symm.trans before
  · intro found
    obtain ⟨old, before⟩ := (kept.live a).mpr (Or.inr found)
    cases inserted.fresh.symm.trans before

theorem Inserted.chain (inserted : Inserted s s' queue a e cmd) (kept : Kept s queue) :
    Chain s'.elmt s'.cmdQ.head (queue ++ [a]) := by
  rw [inserted.head]
  cases ends : queue.getLast? with
  | none =>
    obtain rfl := List.getLast?_eq_none_iff.mp ends
    exact ⟨rfl, e, inserted.new, inserted.final⟩
  | some last =>
    have inQueue := List.mem_of_getLast? ends
    have unused := (inserted.unused kept).1
    obtain ⟨old, found⟩ := kept.in_memory inQueue
    have link := inserted.others last fun same => unused (same ▸ inQueue)
    rw [if_pos ends, found] at link
    rw [if_neg (List.ne_nil_of_mem inQueue)]
    apply kept.chain.concat ends kept.nodup _ found link inserted.new inserted.final
    intro b inside notLast
    rw [inserted.others b fun same => unused (same ▸ inside), if_neg]
    intro ends'
    exact notLast (Option.some.inj (ends'.symm.trans ends))

/-- The elements from before have the same data. -/
theorem Inserted.read (inserted : Inserted s s' queue a e cmd) (kept : Kept s queue)
    (found : s.elmt b = some old) : s'.read b = s.read b := by
  obtain ⟨now, found', buffer, command⟩ := inserted.earlier found
  unfold CmdState.read
  rw [found, found']
  simp only [buffer, command]
  cases place : old.buffer with
  | none => rfl
  | some p =>
    have notNew : e.buffer ≠ some p := by
      intro same
      obtain ⟨d, allocated⟩ := (kept.buffers p).mpr ⟨b, old, found, place⟩
      cases (inserted.newData p same).1.symm.trans allocated
    simp only [Option.bind_some, inserted.oldData p notNew]

theorem Inserted.kept (inserted : Inserted s s' queue a e cmd) (kept : Kept s queue) :
    Kept s' (queue ++ [a]) where
  chain := inserted.chain kept
  nodup := by
    rw [List.nodup_append]
    refine ⟨kept.nodup, List.nodup_singleton a, ?_⟩
    intro b inQueue c single same
    rw [List.mem_singleton.mp single] at same
    exact (inserted.unused kept).1 (same ▸ inQueue)
  size := by rw [inserted.size, kept.size, List.length_append, List.length_singleton]
  tail := by rw [inserted.tail, List.getLast?_concat]
  order := by
    have same : queue.map s'.read = queue.map s.read := by
      apply List.map_congr_left
      intro b inQueue
      obtain ⟨old, found⟩ := kept.in_memory inQueue
      exact inserted.read kept found
    rw [inserted.accepted, inserted.dequeued, kept.order, List.map_append, same, List.map_singleton,
      inserted.content, List.append_assoc]
  apart := by
    intro b inTaken inside
    rw [inserted.taken] at inTaken
    rcases List.mem_append.mp inside with inQueue | single
    · exact kept.apart b inTaken inQueue
    · exact (inserted.unused kept).2 (List.mem_singleton.mp single ▸ inTaken)
  live := by
    intro b
    rw [inserted.taken, List.mem_append, List.mem_singleton]
    constructor
    · intro ⟨now, found⟩
      rcases inserted.elmt_cases found with ⟨same, -⟩ | ⟨old, before, -⟩
      · exact Or.inl (Or.inr same)
      · exact ((kept.live b).mp ⟨old, before⟩).imp_left Or.inl
    · intro listed
      by_cases same : b = a
      · exact ⟨e, same ▸ inserted.new⟩
      · obtain ⟨old, before⟩ := (kept.live b).mpr (listed.imp_left fun either =>
          either.resolve_right same)
        obtain ⟨now, found, -⟩ := inserted.earlier before
        exact ⟨now, found⟩
  own := by
    -- the new element's buffer was not allocated, so no other element has it
    have apart : ∀ b old p, s.elmt b = some old → old.buffer = some p → e.buffer ≠ some p := by
      intro b old p found place same
      obtain ⟨d, allocated⟩ := (kept.buffers p).mpr ⟨b, old, found, place⟩
      cases (inserted.newData p same).1.symm.trans allocated
    intro b c now now' p found found' place place'
    rcases inserted.elmt_cases found with ⟨rfl, rfl⟩ | ⟨old, before, buffer⟩
    · rcases inserted.elmt_cases found' with ⟨same, -⟩ | ⟨old, before, buffer⟩
      · exact same.symm
      · exact absurd place (apart c old p before (buffer ▸ place'))
    · rcases inserted.elmt_cases found' with ⟨rfl, rfl⟩ | ⟨old', before', buffer'⟩
      · exact absurd place' (apart b old p before (buffer ▸ place))
      · exact kept.own b c old old' p before before' (buffer ▸ place) (buffer' ▸ place')
  buffers := by
    intro p
    constructor
    · intro ⟨d, allocated⟩
      by_cases new : e.buffer = some p
      · exact ⟨a, e, inserted.new, new⟩
      · rw [inserted.oldData p new] at allocated
        obtain ⟨b, old, found, place⟩ := (kept.buffers p).mp ⟨d, allocated⟩
        obtain ⟨now, found', buffer, -⟩ := inserted.earlier found
        exact ⟨b, now, found', buffer.trans place⟩
    · intro ⟨b, now, found, place⟩
      by_cases new : e.buffer = some p
      · exact (inserted.newData p new).2
      · rw [inserted.oldData p new]
        rcases inserted.elmt_cases found with ⟨-, rfl⟩ | ⟨old, before, buffer⟩
        · exact absurd place new
        · exact (kept.buffers p).mpr ⟨b, old, before, buffer ▸ place⟩

end Insert

section Enqueue
variable {s : CmdState} {queue : List Address} {a : Address} {e : CmdQElmt} {cmd : Command}

/-- The state with one more element and its buffer in memory. -/
def CmdState.prepared (s : CmdState) (a : Address) (e : CmdQElmt)
    (data : Address → Option (List (BitVec 8))) : CmdState :=
  { s with elmt := Function.update s.elmt a (some e), data := data }

theorem CmdState.prepared_elmt (s : CmdState) (a : Address) (e : CmdQElmt)
    (data : Address → Option (List (BitVec 8))) : (s.prepared a e data).elmt a = some e := by
  unfold CmdState.prepared
  exact Function.update_self ..

theorem enqueueCmd_empty {s' : CmdState} (empty : s'.cmdQ.size = 0) (found : s'.elmt a = some e)
    (final : e.next = none) :
    s'.enqueueCmd a =
      { s' with cmdQ := { s'.cmdQ with
        head := some a, tail := some a, size := s'.cmdQ.size + 1 } } := by
  have same : ({ e with next := none } : CmdQElmt) = e := by rw [← final]
  have kept : Function.update s'.elmt a (some e) = s'.elmt := by rw [← found, Function.update_eq_self]
  unfold CmdState.enqueueCmd
  simp only [if_pos empty, CmdState.endChain, found, same, CmdState.setElmt, kept]

theorem enqueueCmd_linked {s' : CmdState} {last : Address} {old : CmdQElmt}
    (size : s'.cmdQ.size ≠ 0) (tail : s'.cmdQ.tail = some last) (other : a ≠ last)
    (at_last : s'.elmt last = some old) (found : s'.elmt a = some e) (final : e.next = none) :
    s'.enqueueCmd a =
      { s' with
        cmdQ := { s'.cmdQ with tail := some a, size := s'.cmdQ.size + 1 }
        elmt := Function.update s'.elmt last (some { old with next := some a }) } := by
  have same : ({ e with next := none } : CmdQElmt) = e := by rw [← final]
  have here : Function.update s'.elmt last (some { old with next := some a }) a = some e := by
    rw [Function.update_of_ne other, found]
  have kept : Function.update (Function.update s'.elmt last (some { old with next := some a })) a
      (some e) = Function.update s'.elmt last (some { old with next := some a }) := by
    rw [← here, Function.update_eq_self]
  unfold CmdState.enqueueCmd
  simp only [if_neg size, CmdState.linkTail, tail, at_last, CmdState.endChain, CmdState.setElmt, here,
    same, kept]

/-- `EnqueueCmd` puts a new element behind the queue. -/
theorem enqueueCmd_inserted (kept : Kept s queue) {data : Address → Option (List (BitVec 8))}
    (fresh : s.elmt a = none) (final : e.next = none) (command : e.command = cmd.oid)
    (information : (e.buffer.bind data).getD [] = cmd.information)
    (oldData : ∀ p, e.buffer ≠ some p → data p = s.data p)
    (newData : ∀ p, e.buffer = some p → s.data p = none ∧ ∃ d, data p = some d) :
    Inserted s { (s.prepared a e data).enqueueCmd a with accepted := s.accepted ++ [cmd] } queue a e
      cmd := by
  have here : (s.prepared a e data).elmt a = some e := s.prepared_elmt a e data
  have content : ∀ s' : CmdState, s'.elmt a = some e → s'.data = data → s'.read a = cmd := by
    intro s' found same
    unfold CmdState.read
    rw [found]
    simp only [same, information, command]
  cases ends : queue.getLast? with
  | none =>
    have none_queued := List.getLast?_eq_none_iff.mp ends
    have empty : (s.prepared a e data).cmdQ.size = 0 := by
      rw [show (s.prepared a e data).cmdQ.size = s.cmdQ.size from rfl, kept.size, none_queued]
      rfl
    rw [enqueueCmd_empty empty here final]
    exact {
      head := by rw [if_pos none_queued]
      tail := rfl
      size := rfl
      new := here
      others := by
        intro b other
        rw [ends, if_neg (by simp)]
        exact Function.update_of_ne other (some e) s.elmt
      final := final
      fresh := fresh
      taken := rfl
      dequeued := rfl
      accepted := rfl
      oldData := oldData
      newData := newData
      content := content _ here rfl }
  | some last =>
    have inQueue := List.mem_of_getLast? ends
    obtain ⟨old, found⟩ := kept.in_memory inQueue
    have other : a ≠ last := by
      intro same
      rw [← same, fresh] at found
      cases found
    have at_last : (s.prepared a e data).elmt last = some old := by
      rw [← found]
      exact Function.update_of_ne other.symm (some e) s.elmt
    have size : (s.prepared a e data).cmdQ.size ≠ 0 := by
      rw [show (s.prepared a e data).cmdQ.size = s.cmdQ.size from rfl, kept.size]
      exact List.length_pos_iff.mpr (List.ne_nil_of_mem inQueue) |>.ne'
    have tail : (s.prepared a e data).cmdQ.tail = some last := kept.tail.trans ends
    have new : Function.update (s.prepared a e data).elmt last
        (some { old with next := some a }) a = some e := by
      rw [Function.update_of_ne other, here]
    rw [enqueueCmd_linked size tail other at_last here final]
    exact {
      head := by rw [if_neg (List.ne_nil_of_mem inQueue)]; rfl
      tail := rfl
      size := rfl
      new := new
      others := by
        intro b notNew
        simp only [ends, Option.some.injEq]
        by_cases same : last = b
        · subst same
          rw [if_pos rfl, Function.update_self, found]
          rfl
        · rw [if_neg same, Function.update_of_ne (Ne.symm same)]
          exact Function.update_of_ne notNew (some e) s.elmt
      final := final
      fresh := fresh
      taken := rfl
      dequeued := rfl
      accepted := rfl
      oldData := oldData
      newData := newData
      content := content _ new rfl }

theorem update_fresh {α : Type} {f : Address → Option α} (fresh : f a = none) (value : Option α) :
    Function.update (Function.update f a value) a none = f := by
  rw [Function.update_idem, ← fresh, Function.update_eq_self]

/-- The insertion when the state does not permit it: what was allocated is freed. -/
theorem insertOrFree_refused {data : Address → Option (List (BitVec 8))}
    (refuses : ¬s.cmdQ.cmdQState &&& taskCanDoInsert ≠ 0) (fresh : s.elmt a = none)
    (freed : ∀ p, e.buffer = some p → Function.update data p none = s.data)
    (same : e.buffer = none → data = s.data) :
    (s.prepared a e data).insertOrFree a cmd = (.success, s) := by
  have refused : ¬(s.prepared a e data).cmdQ.cmdQState &&& taskCanDoInsert ≠ 0 := refuses
  have here : (s.prepared a e data).elmt a = some e := s.prepared_elmt a e data
  unfold CmdState.insertOrFree
  rw [if_neg refused]
  simp only [if_true, CmdState.freeCmd, here, Option.bind_some]
  cases place : e.buffer with
  | none =>
    simp only [CmdState.setElmt, CmdState.prepared, update_fresh fresh, same place]
  | some p =>
    simp only [CmdState.setElmt, CmdState.setData, CmdState.prepared, update_fresh fresh, freed p place]

theorem insertOrFree_permitted {data : Address → Option (List (BitVec 8))}
    (permits : s.cmdQ.cmdQState &&& taskCanDoInsert ≠ 0) :
    (s.prepared a e data).insertOrFree a cmd =
      (.success, { (s.prepared a e data).enqueueCmd a with accepted := s.accepted ++ [cmd] }) := by
  have permitted : (s.prepared a e data).cmdQ.cmdQState &&& taskCanDoInsert ≠ 0 := permits
  unfold CmdState.insertOrFree
  rw [if_pos permitted]
  rfl

/-- What `RTEnqueueInternalCmd` does: an allocation fails, the command is queued, or everything is
freed under a success. -/
theorem rtEnqueueInternalCmd_cases (kept : Kept s queue) (oid : BitVec 32)
    (information : List (BitVec 8)) (cmdqelmt buffer : Option Address)
    (allocates : Allocates s (.enqueue oid information cmdqelmt buffer)) :
    ((cmdqelmt = none ∨ 0 < information.length ∧ buffer = none) ∧
        s.rtEnqueueInternalCmd oid information cmdqelmt buffer = (.resources, s)) ∨
      (¬(cmdqelmt = none ∨ 0 < information.length ∧ buffer = none) ∧
        s.cmdQ.cmdQState &&& taskCanDoInsert ≠ 0 ∧
        ∃ s' a e, s.rtEnqueueInternalCmd oid information cmdqelmt buffer = (.success, s') ∧
          Inserted s s' queue a e ⟨oid, information⟩) ∨
      (¬(cmdqelmt = none ∨ 0 < information.length ∧ buffer = none) ∧
        ¬s.cmdQ.cmdQState &&& taskCanDoInsert ≠ 0 ∧
        s.rtEnqueueInternalCmd oid information cmdqelmt buffer = (.success, s)) := by
  cases cmdqelmt with
  | none => exact Or.inl ⟨Or.inl rfl, rfl⟩
  | some a =>
    have fresh : s.elmt a = none := allocates.1 a rfl
    by_cases some_data : 0 < information.length
    · cases buffer with
      | none =>
        refine Or.inl ⟨Or.inr ⟨some_data, rfl⟩, ?_⟩
        simp only [CmdState.rtEnqueueInternalCmd, if_pos some_data, CmdState.setElmt,
          update_fresh fresh]
      | some b =>
        have unused : s.data b = none := allocates.2 b rfl
        let e : CmdQElmt := ⟨oid, some b, information.length, false, false, none⟩
        let data := Function.update s.data b (some information)
        have step : s.rtEnqueueInternalCmd oid information (some a) (some b) =
            (s.prepared a e data).insertOrFree a ⟨oid, information⟩ := by
          simp only [CmdState.rtEnqueueInternalCmd, if_pos some_data, CmdState.setElmt,
            CmdState.setData, Function.update_idem]
          rfl
        have both : ¬(some a = none ∨ 0 < information.length ∧ some b = none) := by simp
        rw [step]
        by_cases permits : s.cmdQ.cmdQState &&& taskCanDoInsert ≠ 0
        · refine Or.inr (Or.inl ⟨both, permits, _, a, e, insertOrFree_permitted permits, ?_⟩)
          apply enqueueCmd_inserted kept fresh rfl rfl
          · simp [e, data]
          · intro p other
            exact Function.update_of_ne (fun same => other (congrArg some same.symm)) _ _
          · intro p same
            obtain rfl := Option.some.inj same
            exact ⟨unused, information, Function.update_self b _ _⟩
        · refine Or.inr (Or.inr ⟨both, permits, insertOrFree_refused permits fresh ?_ ?_⟩)
          · intro p same
            obtain rfl := Option.some.inj same
            exact update_fresh unused _
          · intro absent
            cases absent
    · let e : CmdQElmt := ⟨oid, none, 0, false, false, none⟩
      have no_data : information = [] := List.eq_nil_of_length_eq_zero (by omega)
      have step : s.rtEnqueueInternalCmd oid information (some a) buffer =
          (s.prepared a e s.data).insertOrFree a ⟨oid, information⟩ := by
        simp only [CmdState.rtEnqueueInternalCmd, if_neg some_data, CmdState.setElmt,
          Function.update_idem]
        rfl
      have both : ¬(some a = none ∨ 0 < information.length ∧ buffer = none) := by
        intro either
        rcases either with absent | ⟨positive, -⟩
        · cases absent
        · exact some_data positive
      rw [step]
      by_cases permits : s.cmdQ.cmdQState &&& taskCanDoInsert ≠ 0
      · refine Or.inr (Or.inl ⟨both, permits, _, a, e, insertOrFree_permitted permits, ?_⟩)
        apply enqueueCmd_inserted kept fresh rfl rfl
        · simp [e, no_data]
        · exact fun p _ => rfl
        · intro p absent
          cases absent
      · refine Or.inr (Or.inr ⟨both, permits, insertOrFree_refused permits fresh ?_ fun _ => rfl⟩)
        intro p absent
        cases absent

end Enqueue

section Steps
variable {s : CmdState} {queue : List Address}

theorem initial_kept : Kept .initial [] where
  chain := rfl
  nodup := List.nodup_nil
  size := rfl
  tail := rfl
  order := rfl
  apart := fun _ _ => List.not_mem_nil
  live := by simp [CmdState.initial]
  own := by simp [CmdState.initial]
  buffers := by simp [CmdState.initial]

theorem rtThreadDequeueCmd_kept (kept : Kept s queue) :
    Kept s.rtThreadDequeueCmd queue.tail := by
  cases queue with
  | nil =>
    have empty : s.cmdQ.head = none := kept.chain
    have same : s.rtThreadDequeueCmd = s := by
      unfold CmdState.rtThreadDequeueCmd
      rw [empty]
    rw [same]
    exact kept
  | cons a rest =>
    obtain ⟨head, e, found, later⟩ := kept.chain
    obtain ⟨notIn, nodup⟩ := List.nodup_cons.mp kept.nodup
    have size : s.cmdQ.size - 1 = rest.length := by
      rw [kept.size]
      rfl
    have next : (s.elmt a).bind CmdQElmt.next = e.next := by rw [found]; rfl
    unfold CmdState.rtThreadDequeueCmd
    rw [head]
    simp only [size, next, List.tail_cons]
    exact {
      chain := later
      nodup := nodup
      size := rfl
      tail := by
        cases rest with
        | nil => rfl
        | cons b rest =>
          rw [if_neg (by simp), kept.tail]
          rfl
      order := by
        rw [kept.order, List.map_cons, List.append_assoc, List.singleton_append]
        rfl
      apart := by
        intro b inTaken inRest
        rcases List.mem_cons.mp inTaken with rfl | earlier
        · exact notIn inRest
        · exact kept.apart b earlier (List.mem_cons_of_mem a inRest)
      live := by
        intro b
        rw [kept.live b, List.mem_cons, List.mem_cons]
        tauto
      own := kept.own
      buffers := kept.buffers }

/-- Freeing an element that the command thread has leaves the queue alone. -/
theorem release_kept {a : Address} (kept : Kept s queue) (taken : a ∈ s.taken) :
    Kept { s.freeCmd a with taken := s.taken.filter (· ≠ a) } queue := by
  obtain ⟨e, found⟩ := (kept.live a).mpr (Or.inr taken)
  have notIn := kept.apart a taken
  have others : ∀ b, b ≠ a → (s.freeCmd a).elmt b = s.elmt b := by
    intro b other
    unfold CmdState.freeCmd
    split <;> exact Function.update_of_ne other ..
  have gone : (s.freeCmd a).elmt a = none := by
    unfold CmdState.freeCmd
    split <;> exact Function.update_self ..
  have data : ∀ p, (s.freeCmd a).data p = if e.buffer = some p then none else s.data p := by
    intro p
    unfold CmdState.freeCmd
    rw [found]
    cases place : e.buffer with
    | none => simp [place, CmdState.setElmt]
    | some b =>
      simp only [Option.bind_some, place, CmdState.setElmt, CmdState.setData, Option.some.injEq]
      by_cases same : b = p
      · rw [if_pos same, same, Function.update_self]
      · rw [if_neg same, Function.update_of_ne (Ne.symm same)]
  have same_queue : (s.freeCmd a).cmdQ = s.cmdQ ∧ (s.freeCmd a).accepted = s.accepted ∧
      (s.freeCmd a).dequeued = s.dequeued := by
    unfold CmdState.freeCmd
    split <;> exact ⟨rfl, rfl, rfl⟩
  have unchanged : ∀ b ∈ queue, (s.freeCmd a).elmt b = s.elmt b :=
    fun b inQueue => others b fun same => notIn (same ▸ inQueue)
  have elmt_cases : ∀ b e', (s.freeCmd a).elmt b = some e' → b ≠ a ∧ s.elmt b = some e' := by
    intro b e' before
    have other : b ≠ a := by
      intro same
      rw [same, gone] at before
      cases before
    exact ⟨other, (others b other).symm.trans before⟩
  exact {
    chain := by
      rw [same_queue.1]
      exact kept.chain.congr unchanged
    nodup := kept.nodup
    size := by
      rw [same_queue.1]
      exact kept.size
    tail := by
      rw [same_queue.1]
      exact kept.tail
    order := by
      rw [same_queue.2.1, same_queue.2.2, kept.order]
      apply congrArg (s.dequeued ++ ·)
      apply List.map_congr_left
      intro b inQueue
      obtain ⟨old, before⟩ := kept.in_memory inQueue
      unfold CmdState.read
      rw [unchanged b inQueue, before]
      cases place : old.buffer with
      | none => simp only [place, Option.bind_none]
      | some p =>
        have apart : e.buffer ≠ some p :=
          fun same => notIn (kept.own a b e old p found before same place ▸ inQueue)
        simp only [place, Option.bind_some, data, if_neg apart]
    apart := by
      intro b inTaken
      exact kept.apart b (List.mem_filter.mp inTaken).1
    live := by
      intro b
      rw [List.mem_filter, decide_eq_true_eq]
      by_cases same : b = a
      · subst same
        simp [gone, notIn]
      · rw [others b same, kept.live b]
        simp [same]
    own := by
      intro b c e₁ e₂ p first second
      exact kept.own b c e₁ e₂ p (elmt_cases b e₁ first).2 (elmt_cases c e₂ second).2
    buffers := by
      intro p
      rw [data p]
      constructor
      · intro ⟨d, allocated⟩
        split at allocated
        next => cases allocated
        next apart =>
          obtain ⟨b, e', before, place⟩ := (kept.buffers p).mp ⟨d, allocated⟩
          have other : b ≠ a := by
            intro same
            rw [same, found] at before
            exact apart (Option.some.inj before ▸ place)
          exact ⟨b, e', (others b other).trans before, place⟩
      · intro ⟨b, e', now, place⟩
        obtain ⟨other, before⟩ := elmt_cases b e' now
        rw [if_neg fun same => other (kept.own b a e' e p before found place same)]
        exact (kept.buffers p).mpr ⟨b, e', before, place⟩ }

/-- Every step keeps the queue. -/
theorem cmdStep_kept (event : CmdEvent) (kept : ∃ queue, Kept s queue) (allocates : Allocates s event) :
    ∃ queue, Kept (cmdStep s event) queue := by
  obtain ⟨queue, kept⟩ := kept
  cases event with
  | enqueue oid information cmdqelmt buffer =>
    rcases rtEnqueueInternalCmd_cases kept oid information cmdqelmt buffer allocates with
      ⟨-, step⟩ | ⟨-, -, s', a, e, step, inserted⟩ | ⟨-, -, step⟩
    · exact ⟨queue, by simpa only [cmdStep, step] using kept⟩
    · exact ⟨queue ++ [a], by simpa only [cmdStep, step] using inserted.kept kept⟩
    · exact ⟨queue, by simpa only [cmdStep, step] using kept⟩
  | dequeue => exact ⟨queue.tail, rtThreadDequeueCmd_kept kept⟩
  | release a =>
    unfold cmdStep
    simp only
    split
    next taken => exact ⟨queue, release_kept kept taken⟩
    next => exact ⟨queue, kept⟩
  | setState cmdQState =>
    exact ⟨queue, kept.chain, kept.nodup, kept.size, kept.tail, kept.order, kept.apart, kept.live,
      kept.own, kept.buffers⟩

theorem not_queued (cmd : Command) : ¬Queued s s cmd := by
  intro ⟨before, a, first, second, _⟩
  have same := first.unique second
  have lengths := congrArg List.length same
  rw [List.length_append, List.length_singleton] at lengths
  omega

/-- The status is right exactly when an allocation fails or the state permits insertion. -/
theorem answers_iff (event : CmdEvent) (kept : Kept s queue) (allocates : Allocates s event) :
    Answers s event ↔ Permits s event := by
  cases event with
  | enqueue oid information cmdqelmt buffer =>
    dsimp only [Answers, Permits]
    rcases rtEnqueueInternalCmd_cases kept oid information cmdqelmt buffer allocates with
      ⟨fails, step⟩ | ⟨-, permits, s', a, e, step, inserted⟩ | ⟨allocated, refuses, step⟩
    · rw [step]
      apply iff_of_true
      · have never : ¬Queued s s ⟨oid, information⟩ := not_queued ⟨oid, information⟩
        constructor
        · apply iff_of_false _ never
          intro status
          cases status
        · exact fun _ => ⟨rfl, rfl⟩
      · exact fails.imp_right Or.inl
    · rw [step]
      have queued : Queued s s' ⟨oid, information⟩ :=
        ⟨queue, a, kept.chain, inserted.chain kept, inserted.content⟩
      apply iff_of_true
      · exact ⟨⟨fun _ => queued, fun _ => rfl⟩, fun never => absurd queued never⟩
      · exact Or.inr (Or.inr permits)
    · rw [step]
      apply iff_of_false
      · intro answers
        exact not_queued ⟨oid, information⟩ (answers.1.mp rfl)
      · intro permits
        exact (or_assoc.mpr permits).elim allocated refuses
  | dequeue => exact Iff.rfl
  | release _ => exact Iff.rfl
  | setState _ => exact Iff.rfl

/-- In every run the queue is kept, and every call reports what it did exactly when each of them
fails to allocate or finds a state that permits insertion. -/
theorem cmdQueue_run (events : List CmdEvent)
    (allocates : Throughout cmdStep Allocates .initial events) :
    (∀ count, ∃ queue, Kept (run cmdStep .initial (events.take count)) queue) ∧
      (Throughout cmdStep Answers .initial events ↔ Throughout cmdStep Permits .initial events) := by
  have start : ∃ queue, Kept CmdState.initial queue := ⟨[], initial_kept⟩
  generalize CmdState.initial = s at start allocates
  induction events generalizing s with
  | nil =>
    refine ⟨fun count => ?_, Iff.rfl⟩
    rw [List.take_nil]
    exact start
  | cons event rest ih =>
    obtain ⟨always, right⟩ := ih (cmdStep s event) (cmdStep_kept event start allocates.1) allocates.2
    obtain ⟨queue, kept⟩ := start
    constructor
    · intro count
      cases count with
      | zero => exact ⟨queue, kept⟩
      | succ count => exact always count
    · exact and_congr (answers_iff event kept allocates.1) right

end Steps

/-- A command is queued and dequeued, and one comes when the queue is stopped. -/
def stoppedQueue : List CmdEvent :=
  [.enqueue 7 [1, 2] (some 0) (some 1), .dequeue, .release 0, .setState 4,
    .enqueue 8 [] (some 0) none]

theorem stoppedQueue_allocates : Throughout cmdStep Allocates .initial stoppedQueue := by
  simp [stoppedQueue, Throughout, Allocates, CmdState.initial, cmdStep,
    CmdState.rtEnqueueInternalCmd, CmdState.insertOrFree, CmdState.setElmt, CmdState.setData,
    CmdState.enqueueCmd, CmdState.endChain, CmdState.rtThreadDequeueCmd, CmdState.freeCmd,
    taskCanDoInsert]

theorem cmdQueue_run_stoppedQueue :
    Throughout cmdStep Allocates .initial stoppedQueue ∧
      (∀ count, ∃ queue, Kept (run cmdStep .initial (stoppedQueue.take count)) queue) ∧
      (Throughout cmdStep Answers .initial stoppedQueue ↔
        Throughout cmdStep Permits .initial stoppedQueue) :=
  ⟨stoppedQueue_allocates, cmdQueue_run stoppedQueue stoppedQueue_allocates⟩

theorem not_cmdQueue_answers :
    ¬∀ events : List CmdEvent, Throughout cmdStep Allocates .initial events →
      Throughout cmdStep Answers .initial events := by
  intro always
  have kept : Kept { CmdState.initial with cmdQ := ⟨0, none, none, 4⟩ } [] :=
    ⟨rfl, List.nodup_nil, rfl, rfl, rfl, fun _ _ => List.not_mem_nil, by simp [CmdState.initial],
      by simp [CmdState.initial], by simp [CmdState.initial]⟩
  have allocates : Allocates { CmdState.initial with cmdQ := ⟨0, none, none, 4⟩ }
      (.enqueue 8 [] (some 0) none) := by
    simp [Allocates, CmdState.initial]
  have answers := (always [.setState 4, .enqueue 8 [] (some 0) none]
    ⟨trivial, allocates, trivial⟩).2.1
  have permits := (answers_iff _ kept allocates).mp answers
  exact absurd permits (by simp [Permits, taskCanDoInsert])

end Mt7612u.Mlme.CmdQueue
