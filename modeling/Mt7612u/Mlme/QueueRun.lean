import Mt7612u.Library.Run
import Mt7612u.Mlme.Queue

/-! The queue of the MLME while `MlmeHandler` works on it: elements are put in between its steps, also by
the action of the element that it works on. -/

namespace Mt7612u.Mlme
open Library Library.Run Receive

/-- Where `MlmeHandler` is. -/
inductive Handler where
  | idle
  | looping
  | processing (slot : Nat)
  deriving DecidableEq

/-- The queue and the handler, with the elements accepted, taken out and done with so far; `owner` tells
for each slot which of the accepted elements was put there last. -/
structure MlmeState where
  queue : MlmeQueue
  handler : Handler
  accepted : List QueueElem
  dispatched : List QueueElem
  finished : List QueueElem
  owner : Nat → Nat

inductive MlmeEvent where
  | enqueue (halted : Bool) (request : EnqueueRequest)
  | enqueueForRecv (halted : Bool) (request : RecvRequest)
  /-- `MlmeHandler` is called. -/
  | call
  /-- The head of its loop; `stopped` is one of the four flags that end it. -/
  | turn (stopped : Bool)
  /-- The action of the element returns. -/
  | finish

def MlmeState.accept (s : MlmeState) (queue : MlmeQueue) : MlmeState :=
  { s with
    queue := queue
    accepted := s.accepted ++ [queue.entry s.queue.tail]
    owner := Function.update s.owner s.queue.tail s.accepted.length }

def MlmeState.dispatch (build : Build) (s : MlmeState) : MlmeState :=
  let (queue, slot) := mlmeDequeue build s.queue
  { s with
    queue := queue
    handler := .processing slot
    dispatched := s.dispatched ++ [queue.entry slot] }

def mlmeStep (build : Build) (s : MlmeState) : MlmeEvent → MlmeState
  | .enqueue halted request =>
      match mlmeEnqueue build halted s.queue request with
      | none => s
      | some queue => s.accept queue
  | .enqueueForRecv halted request =>
      match mlmeEnqueueForRecv build halted s.queue request with
      | none => s
      | some queue => s.accept queue
  | .call =>
      match s.handler with
      | .idle => { s with handler := .looping }
      | _ => s
  | .turn stopped =>
      match s.handler with
      | .looping =>
          if mlmeQueueEmpty s.queue then { s with handler := .idle }
          else if stopped then { s with handler := .idle }
          else s.dispatch build
      | _ => s
  | .finish =>
      match s.handler with
      | .processing slot =>
          { s with
            queue := s.queue.free slot
            handler := .looping
            finished := s.finished ++ [s.queue.entry slot] }
      | _ => s

def mlmeStart (build : Build) (queue : MlmeQueue) : MlmeState where
  queue := mlmeQueueInit build queue
  handler := .idle
  accepted := []
  dispatched := []
  finished := []
  owner _ := 0

/-- The element that the handler works on. -/
def MlmeState.inProcess (s : MlmeState) : List QueueElem :=
  match s.handler with
  | .processing slot => [s.queue.entry slot]
  | _ => []

/-- The queue is one, and what goes in comes out in order, once and unchanged. -/
structure InOrder (build : Build) (s : MlmeState) : Prop where
  numLe : s.queue.num ≤ maxLenOfMlmeQueue build
  numEq : s.queue.num =
      (s.queue.tail + maxLenOfMlmeQueue build - s.queue.head) % maxLenOfMlmeQueue build ∨
    s.queue.num = maxLenOfMlmeQueue build ∧ s.queue.tail = s.queue.head
  accepted : s.accepted = s.dispatched ++ s.queue.elems build
  dispatched : s.dispatched = s.finished ++ s.inProcess
  /-- No element was put into the slot of the one that the handler works on. -/
  untouched : ∀ slot, s.handler = .processing slot → s.owner slot + 1 = s.dispatched.length

/-- `MlmeEnqueue` accepts no element into the last free slot while the handler works on one. -/
def SparesInProcess (build : Build) (s : MlmeState) : MlmeEvent → Prop
  | .enqueue halted request =>
      ∀ slot, s.handler = .processing slot →
        mlmeAdmits build halted request.msgLen 1 s.queue →
          s.queue.num + 1 ≠ maxLenOfMlmeQueue build
  | _ => True

structure QueueInv (build : Build) (s : MlmeState) : Prop where
  ring : s.queue.IsRing build
  accepted : s.accepted = s.dispatched ++ s.queue.elems build
  dispatched : s.dispatched = s.finished ++ s.inProcess
  owners : Ring.window (maxLenOfMlmeQueue build) s.queue.head s.queue.num s.owner =
    List.range' s.dispatched.length s.queue.num
  behind : ∀ slot, s.handler = .processing slot →
    slot < maxLenOfMlmeQueue build ∧
      s.queue.head = Ring.next (maxLenOfMlmeQueue build) slot ∧
      s.queue.num < maxLenOfMlmeQueue build ∧ s.owner slot + 1 = s.dispatched.length

namespace QueueInv

theorem start (build : Build) (queue : MlmeQueue) : QueueInv build (mlmeStart build queue) where
  ring := MlmeQueue.isRing_init build queue
  accepted := rfl
  dispatched := rfl
  owners := rfl
  behind slot working := by cases working

variable {build : Build} {s : MlmeState}

theorem length_accepted (inv : QueueInv build s) :
    s.accepted.length = s.dispatched.length + s.queue.num := by
  rw [inv.accepted, List.length_append]
  congr 1
  exact Ring.length_window

/-- The slot behind the queue is not the one in process while another is free. -/
theorem tail_ne (inv : QueueInv build s) {slot : Nat} (working : s.handler = .processing slot)
    (spares : s.queue.num + 1 ≠ maxLenOfMlmeQueue build) : s.queue.tail ≠ slot := by
  obtain ⟨slotLt, front, room, _⟩ := inv.behind slot working
  exact inv.ring.tail_ne slotLt front (by omega)

theorem accept (inv : QueueInv build s) (room : s.queue.num < maxLenOfMlmeQueue build)
    (spares : ∀ slot, s.handler = .processing slot →
      s.queue.num + 1 ≠ maxLenOfMlmeQueue build)
    (fill : QueueElem → QueueElem) :
    QueueInv build (s.accept (s.queue.put build fill)) where
  ring := inv.ring.put room fill
  accepted := by
    have added : (s.queue.put build fill).entry s.queue.tail = fill (s.queue.entry s.queue.tail) :=
      Function.update_self ..
    change s.accepted ++ [(s.queue.put build fill).entry s.queue.tail] =
      s.dispatched ++ (s.queue.put build fill).elems build
    rw [added, inv.ring.elems_put room fill, ← List.append_assoc, inv.accepted]
  dispatched := by
    have same : (s.accept (s.queue.put build fill)).inProcess = s.inProcess := by
      unfold MlmeState.inProcess
      change (match s.handler with
        | .processing slot => [(s.queue.put build fill).entry slot]
        | _ => []) = _
      cases working : s.handler with
      | idle => rfl
      | looping => rfl
      | processing slot =>
        have apart := inv.tail_ne working (spares slot working)
        change [Function.update s.queue.entry s.queue.tail _ slot] = [s.queue.entry slot]
        rw [Function.update_of_ne apart.symm]
    rw [same]
    exact inv.dispatched
  owners := by
    change Ring.window _ s.queue.head (s.queue.num + 1)
      (Function.update s.owner s.queue.tail s.accepted.length) = _
    rw [inv.ring.tailEq, Ring.window_push room, inv.owners, inv.length_accepted]
    exact List.range'_1_concat.symm
  behind := by
    intro slot working
    obtain ⟨slotLt, front, _, owned⟩ := inv.behind slot working
    have spare := spares slot working
    refine ⟨slotLt, front, ?_, ?_⟩
    · change s.queue.num + 1 < _
      omega
    · change Function.update s.owner s.queue.tail s.accepted.length slot + 1 = _
      rw [Function.update_of_ne (inv.tail_ne working spare).symm]
      exact owned

theorem dispatch (inv : QueueInv build s) (waiting : s.handler = .looping)
    (filled : s.queue.num ≠ 0) : QueueInv build (s.dispatch build) := by
  have owners := inv.ring.window_dequeue filled s.owner
  obtain ⟨rest, numEq⟩ := Nat.exists_eq_succ_of_ne_zero filled
  rw [inv.owners, numEq, List.range'_succ] at owners
  obtain ⟨first, others⟩ := List.cons.inj owners
  constructor
  · exact inv.ring.dequeue filled
  · change s.accepted =
      (s.dispatched ++ [s.queue.entry s.queue.head]) ++ (mlmeDequeue build s.queue).1.elems build
    rw [inv.accepted, List.append_assoc, inv.ring.elems_dequeue filled]
    rfl
  · change s.dispatched ++ [s.queue.entry s.queue.head] =
      s.finished ++ [s.queue.entry s.queue.head]
    have none : s.inProcess = [] := by
      unfold MlmeState.inProcess
      rw [waiting]
    rw [inv.dispatched, none, List.append_nil]
  · change Ring.window _ (mlmeDequeue build s.queue).1.head (mlmeDequeue build s.queue).1.num
        s.owner =
      List.range' (s.dispatched ++ [s.queue.entry s.queue.head]).length (s.queue.num - 1)
    rw [← others, numEq, List.length_append]
    rfl
  · intro slot working
    obtain rfl := Handler.processing.inj working
    refine ⟨inv.ring.headLt, rfl, ?_, ?_⟩
    · change s.queue.num - 1 < _
      have := inv.ring.numLe
      omega
    · change s.owner s.queue.head + 1 = (s.dispatched ++ [s.queue.entry s.queue.head]).length
      rw [← first, List.length_append]
      rfl

theorem finish (inv : QueueInv build s) {slot : Nat} (working : s.handler = .processing slot) :
    QueueInv build (mlmeStep build s .finish) := by
  obtain ⟨slotLt, front, room, _⟩ := inv.behind slot working
  have stepped : mlmeStep build s .finish =
      { s with
        queue := s.queue.free slot
        handler := .looping
        finished := s.finished ++ [s.queue.entry slot] } := by
    simp only [mlmeStep, working]
  rw [stepped]
  constructor
  · exact ⟨inv.ring.headLt, inv.ring.tailEq, inv.ring.numLe⟩
  · change s.accepted = s.dispatched ++ (s.queue.free slot).elems build
    rw [MlmeQueue.IsRing.elems_free slotLt front room]
    exact inv.accepted
  · change s.dispatched = (s.finished ++ [s.queue.entry slot]) ++ []
    have one : s.inProcess = [s.queue.entry slot] := by
      unfold MlmeState.inProcess
      rw [working]
    rw [List.append_nil, ← one]
    exact inv.dispatched
  · exact inv.owners
  · intro slot' working'
    cases working'

/-- Where the handler stands may change while no element is in process. -/
theorem settle (inv : QueueInv build s) {handler : Handler}
    (before : ∀ slot, s.handler ≠ .processing slot) (after : ∀ slot, handler ≠ .processing slot) :
    QueueInv build { s with handler := handler } where
  ring := inv.ring
  accepted := inv.accepted
  dispatched := by
    have none : ∀ t : MlmeState, (∀ slot, t.handler ≠ .processing slot) → t.inProcess = [] := by
      intro t free
      unfold MlmeState.inProcess
      split
      next slot working => exact absurd working (free slot)
      next => rfl
    rw [none _ after, ← none s before]
    exact inv.dispatched
  owners := inv.owners
  behind slot working := absurd working (after slot)

theorem step (inv : QueueInv build s) (event : MlmeEvent) (spares : SparesInProcess build s event) :
    QueueInv build (mlmeStep build s event) := by
  cases event with
  | enqueue halted request =>
    unfold mlmeStep
    dsimp only
    split
    next => exact inv
    next queue accepted =>
      obtain ⟨admits, rfl⟩ := mlmeEnqueue_eq_some accepted
      have room := mlmeAdmits_one admits
      have bounded := inv.ring.numLe
      exact inv.accept (by omega) (fun slot working => spares slot working admits) _
  | enqueueForRecv halted request =>
    unfold mlmeStep
    dsimp only
    split
    next => exact inv
    next queue accepted =>
      obtain ⟨admits, machine, msgType, rfl⟩ := mlmeEnqueueForRecv_eq_some accepted
      have half := (mlmeAdmits_zero admits).1
      exact inv.accept (by omega) (fun slot _ => by omega) _
  | call =>
    unfold mlmeStep
    dsimp only
    split
    next idle =>
      apply inv.settle
      · simp [idle]
      · simp
    next => exact inv
  | turn stopped =>
    unfold mlmeStep
    dsimp only
    split
    next looping =>
      have leaves : QueueInv build { s with handler := .idle } := by
        apply inv.settle
        · simp [looping]
        · simp
      split_ifs with empty
      · exact leaves
      · exact leaves
      · apply inv.dispatch looping
        simpa [mlmeQueueEmpty] using empty
    next => exact inv
  | finish =>
    cases working : s.handler with
    | processing slot => exact inv.finish working
    | idle => simpa only [mlmeStep, working] using inv
    | looping => simpa only [mlmeStep, working] using inv

theorem inOrder (inv : QueueInv build s) : InOrder build s where
  numLe := inv.ring.numLe
  numEq := inv.ring.numEq
  accepted := inv.accepted
  dispatched := inv.dispatched
  untouched slot working := (inv.behind slot working).2.2.2

/-- An element that gets the last free slot stands where the handler still works. -/
theorem breaks (inv : QueueInv build s) {event : MlmeEvent}
    (overwrites : ¬ SparesInProcess build s event) : ¬ InOrder build (mlmeStep build s event) := by
  cases event with
  | enqueue halted request =>
    unfold SparesInProcess at overwrites
    simp only [not_forall, not_not] at overwrites
    obtain ⟨slot, working, admits, last⟩ := overwrites
    obtain ⟨slotLt, front, _, _⟩ := inv.behind slot working
    intro ordered
    have stepped : mlmeStep build s (.enqueue halted request) =
        s.accept (s.queue.put build request.fill) := by
      simp only [mlmeStep, mlmeEnqueue, if_pos admits]
    have kept := ordered.untouched slot (by rw [stepped]; exact working)
    rw [stepped] at kept
    change Function.update s.owner s.queue.tail s.accepted.length slot + 1 =
      s.dispatched.length at kept
    rw [inv.ring.tail_eq slotLt front last, Function.update_self, inv.length_accepted] at kept
    omega
  | enqueueForRecv halted request => exact absurd trivial overwrites
  | call => exact absurd trivial overwrites
  | turn stopped => exact absurd trivial overwrites
  | finish => exact absurd trivial overwrites

end QueueInv

/-- The queue is worked off in order in every state of a run exactly when no element is accepted into
the last free slot while the handler works on one. -/
theorem mlmeQueue_inOrder_iff (build : Build) (queue : MlmeQueue) (events : List MlmeEvent) :
    (∀ n, InOrder build (run (mlmeStep build) (mlmeStart build queue) (events.take n))) ↔
      Throughout (mlmeStep build) (SparesInProcess build) (mlmeStart build queue) events :=
  forall_take_iff_throughout (QueueInv build) (InOrder build) (fun _ inv => inv.inOrder)
    (fun _ event inv spares => inv.step event spares)
    (fun _ _ inv overwrites => inv.breaks overwrites) (.start build queue) events

section Overwritten

/-- Twenty elements are put in, the handler takes the first, and its action puts in one more. -/
def overwritingRun : List MlmeEvent :=
  (List.range 20).map (fun i => .enqueue false (smallRequest i)) ++
    [.call, .turn false, .enqueue false (smallRequest 20)]

/-- The element in process is then the one that was put in last. -/
theorem not_mlmeQueue_inOrder :
    ¬ ∀ (build : Build) (queue : MlmeQueue) (events : List MlmeEvent) (n : Nat),
      InOrder build (run (mlmeStep build) (mlmeStart build queue) (events.take n)) := by
  intro always
  have ordered := always .apOnly blankQueue overwritingRun 23
  have kept := ordered.untouched 0 (by decide +kernel)
  revert kept
  decide +kernel

end Overwritten

end Mt7612u.Mlme
