import Mt7612u.Library.Run
import Mt7612u.Mlme.Queue

/-! The queue of the MLME between producers and a consumer that run side by side: each section under its
lock is a step of its own. -/

namespace Mt7612u.Mlme
open Library Library.Run Receive

/-- A call of `MlmeEnqueue` or of `MlmeEnqueueForRecv`. -/
inductive Request where
  | enqueue (request : EnqueueRequest)
  | enqueueForRecv (request : RecvRequest)

def Request.msgLen : Request → Nat
  | .enqueue request => request.msgLen
  | .enqueueForRecv request => request.msgLen

/-- The `SendId` that `MlmeQueueFull` is asked with. -/
def Request.sendId : Request → UInt8
  | .enqueue _ => 1
  | .enqueueForRecv _ => 0

/-- What is put in, unless the type of the frame is not known. -/
def Request.fill? : Request → Option (QueueElem → QueueElem)
  | .enqueue request => some request.fill
  | .enqueueForRecv request =>
      request.subst.map fun pair => request.fill pair.1 pair.2

/-- A producer before its test, or between its test and what it puts in. -/
inductive Producer where
  | idle
  | tested (request : Request)

/-- The consumer: out of its loop, before the test of the loop, behind it, or with an element. -/
inductive Consumer where
  | idle
  | looping
  | nonempty
  | processing (slot : Nat)
  deriving DecidableEq

/-- `accepted` and `dequeued` are the elements put in and taken out so far. -/
structure RaceState where
  queue : MlmeQueue
  producer : Nat → Producer
  consumer : Consumer
  accepted : List QueueElem
  dequeued : List QueueElem

inductive RaceEvent where
  /-- A producer is called, and tests `MlmeQueueFull`. -/
  | test (who : Nat) (halted : Bool) (request : Request)
  /-- It goes on behind the test. -/
  | insert (who : Nat)
  /-- `MlmeHandler` is called. -/
  | call
  /-- It tests `MlmeQueueEmpty`. -/
  | turn
  /-- It goes on behind the test; `stopped` is one of the flags that end the loop. -/
  | take (stopped : Bool)
  /-- The action of the element returns. -/
  | finish

def raceStep (build : Build) (s : RaceState) : RaceEvent → RaceState
  | .test who halted request =>
      match s.producer who with
      | .idle =>
          if mlmeAdmits build halted request.msgLen request.sendId s.queue then
            { s with producer := Function.update s.producer who (.tested request) }
          else s
      | .tested _ => s
  | .insert who =>
      match s.producer who with
      | .idle => s
      | .tested request =>
          match request.fill? with
          | none => { s with producer := Function.update s.producer who .idle }
          | some fill =>
              { s with
                producer := Function.update s.producer who .idle
                queue := s.queue.put build fill
                accepted := s.accepted ++ [fill (s.queue.entry s.queue.tail)] }
  | .call =>
      match s.consumer with
      | .idle => { s with consumer := .looping }
      | _ => s
  | .turn =>
      match s.consumer with
      | .looping =>
          { s with consumer := if mlmeQueueEmpty s.queue then .idle else .nonempty }
      | _ => s
  | .take stopped =>
      match s.consumer with
      | .nonempty =>
          if stopped then { s with consumer := .idle }
          else
            let (queue, slot) := mlmeDequeue build s.queue
            { s with
              queue := queue
              consumer := .processing slot
              dequeued := s.dequeued ++ [queue.entry slot] }
      | _ => s
  | .finish =>
      match s.consumer with
      | .processing slot => { s with queue := s.queue.free slot, consumer := .looping }
      | _ => s

def raceStart (build : Build) (queue : MlmeQueue) : RaceState where
  queue := mlmeQueueInit build queue
  producer _ := .idle
  consumer := .idle
  accepted := []
  dequeued := []

/-- The number is in its bound, and every accepted element that was not taken out stands in the queue as
it was put in. -/
structure Undamaged (build : Build) (s : RaceState) : Prop where
  numLe : s.queue.num ≤ maxLenOfMlmeQueue build
  accepted : s.accepted = s.dequeued ++ s.queue.elems build

/-- A producer that puts something in finds a free slot, and so does the consumer when it is done with an
element. -/
def FindsRoom (build : Build) (s : RaceState) : RaceEvent → Prop
  | .insert who =>
      ∀ request, s.producer who = .tested request → request.fill?.isSome →
        s.queue.num < maxLenOfMlmeQueue build
  | .finish =>
      ∀ slot, s.consumer = .processing slot → s.queue.num < maxLenOfMlmeQueue build
  | _ => True

structure RaceInv (build : Build) (s : RaceState) : Prop where
  ring : s.queue.IsRing build
  accepted : s.accepted = s.dequeued ++ s.queue.elems build
  occupied : ∀ elem ∈ s.accepted, elem.occupied = true
  nonempty : s.consumer = .nonempty → s.queue.num ≠ 0
  behind : ∀ slot, s.consumer = .processing slot →
    slot < maxLenOfMlmeQueue build ∧ s.queue.head = Ring.next (maxLenOfMlmeQueue build) slot

theorem Request.fill?_occupied {request : Request} {fill : QueueElem → QueueElem}
    (filled : request.fill? = some fill) (elem : QueueElem) : (fill elem).occupied = true := by
  cases request with
  | enqueue request =>
    obtain rfl := Option.some.inj filled
    rfl
  | enqueueForRecv request =>
    obtain ⟨pair, _, rfl⟩ := Option.map_eq_some_iff.mp filled
    rfl

/-- In a full queue the slot in front of the head holds the last element. -/
theorem MlmeQueue.last_entry {build : Build} {queue : MlmeQueue} {slot : Nat}
    (slotLt : slot < maxLenOfMlmeQueue build)
    (front : queue.head = Ring.next (maxLenOfMlmeQueue build) slot)
    (full : queue.num = maxLenOfMlmeQueue build) :
    (queue.elems build).getLast? = some (queue.entry slot) := by
  have filled : queue.num ≠ 0 := by omega
  obtain ⟨rest, numEq⟩ := Nat.exists_eq_succ_of_ne_zero filled
  have place : (queue.head + rest) % maxLenOfMlmeQueue build = slot := by
    have whole : slot + 1 + rest = slot + maxLenOfMlmeQueue build := by omega
    rw [front, Ring.next_eq slotLt, Nat.mod_add_mod, whole, Nat.add_mod_right,
      Nat.mod_eq_of_lt slotLt]
  unfold MlmeQueue.elems Ring.window
  rw [numEq, List.range_succ, List.map_append, List.map_singleton, List.getLast?_concat, place]

namespace RaceInv

theorem start (build : Build) (queue : MlmeQueue) : RaceInv build (raceStart build queue) where
  ring := MlmeQueue.isRing_init build queue
  accepted := rfl
  occupied elem member := by cases member
  nonempty waiting := by cases waiting
  behind slot working := by cases working

variable {build : Build} {s : RaceState}

theorem undamaged (inv : RaceInv build s) : Undamaged build s := ⟨inv.ring.numLe, inv.accepted⟩

/-- The producers do not matter. -/
theorem producers (inv : RaceInv build s) (producer : Nat → Producer) :
    RaceInv build { s with producer := producer } :=
  ⟨inv.ring, inv.accepted, inv.occupied, inv.nonempty, inv.behind⟩

theorem consumers (inv : RaceInv build s) {consumer : Consumer}
    (nonempty : consumer = .nonempty → s.queue.num ≠ 0)
    (behind : ∀ slot, consumer ≠ .processing slot) :
    RaceInv build { s with consumer := consumer } :=
  ⟨inv.ring, inv.accepted, inv.occupied, nonempty, fun slot working => absurd working (behind slot)⟩

theorem insert (inv : RaceInv build s) (who : Nat)
    (room : FindsRoom build s (.insert who)) : RaceInv build (raceStep build s (.insert who)) := by
  unfold raceStep
  dsimp only
  split
  next => exact inv
  next request tested =>
    split
    next => exact inv.producers _
    next fill filled =>
      have free := room request tested (by rw [filled]; rfl)
      constructor
      · exact inv.ring.put free fill
      · change s.accepted ++ _ = s.dequeued ++ (s.queue.put build fill).elems build
        rw [inv.ring.elems_put free fill, ← List.append_assoc, inv.accepted]
      · intro elem member
        rcases List.mem_append.mp member with old | new
        · exact inv.occupied elem old
        · rw [List.mem_singleton.mp new]
          exact Request.fill?_occupied filled _
      · intro _
        exact Nat.succ_ne_zero _
      · exact inv.behind

theorem take (inv : RaceInv build s) (waiting : s.consumer = .nonempty) :
    RaceInv build (raceStep build s (.take false)) := by
  have filled := inv.nonempty waiting
  have stepped : raceStep build s (.take false) =
      { s with
        queue := (mlmeDequeue build s.queue).1
        consumer := .processing s.queue.head
        dequeued := s.dequeued ++ [s.queue.entry s.queue.head] } := by
    simp only [raceStep, waiting, mlmeDequeue, Bool.false_eq_true, if_false]
  rw [stepped]
  constructor
  · exact inv.ring.dequeue filled
  · change s.accepted =
      (s.dequeued ++ [s.queue.entry s.queue.head]) ++ (mlmeDequeue build s.queue).1.elems build
    rw [inv.accepted, List.append_assoc, inv.ring.elems_dequeue filled]
    rfl
  · exact inv.occupied
  · intro waits
    cases waits
  · intro slot working
    obtain rfl := Consumer.processing.inj working
    exact ⟨inv.ring.headLt, rfl⟩

theorem finish (inv : RaceInv build s) {slot : Nat} (working : s.consumer = .processing slot)
    (room : s.queue.num < maxLenOfMlmeQueue build) :
    RaceInv build { s with queue := s.queue.free slot, consumer := .looping } := by
  obtain ⟨slotLt, front⟩ := inv.behind slot working
  constructor
  · exact ⟨inv.ring.headLt, inv.ring.tailEq, inv.ring.numLe⟩
  · change s.accepted = s.dequeued ++ (s.queue.free slot).elems build
    rw [MlmeQueue.IsRing.elems_free slotLt front room]
    exact inv.accepted
  · exact inv.occupied
  · intro waits
    cases waits
  · intro slot' working'
    cases working'

theorem step (inv : RaceInv build s) (event : RaceEvent) (room : FindsRoom build s event) :
    RaceInv build (raceStep build s event) := by
  cases event with
  | test who halted request =>
    unfold raceStep
    dsimp only
    split
    next =>
      split_ifs
      · exact inv.producers _
      · exact inv
    next => exact inv
  | insert who => exact inv.insert who room
  | call =>
    unfold raceStep
    dsimp only
    split
    next => exact inv.consumers (by simp) (by simp)
    next => exact inv
  | turn =>
    unfold raceStep
    dsimp only
    split
    next =>
      apply inv.consumers
      · intro waits empty
        simp [mlmeQueueEmpty, empty] at waits
      · intro slot
        split_ifs <;> simp
    next => exact inv
  | take stopped =>
    cases waiting : s.consumer with
    | nonempty =>
      cases stopped with
      | false => exact inv.take waiting
      | true =>
        have left : raceStep build s (.take true) = { s with consumer := .idle } := by
          simp only [raceStep, waiting, if_true]
        rw [left]
        exact inv.consumers (by simp) (by simp)
    | idle => simpa only [raceStep, waiting] using inv
    | looping => simpa only [raceStep, waiting] using inv
    | processing slot => simpa only [raceStep, waiting] using inv
  | finish =>
    unfold raceStep
    dsimp only
    split
    next slot working => exact inv.finish working (room slot working)
    next => exact inv

/-- Without room, the number leaves its bound, or the consumer clears the last element of the queue. -/
theorem breaks (inv : RaceInv build s) {event : RaceEvent} (crowded : ¬ FindsRoom build s event) :
    ¬ Undamaged build (raceStep build s event) := by
  cases event with
  | insert who =>
    unfold FindsRoom at crowded
    simp only [not_forall, not_lt] at crowded
    obtain ⟨request, tested, filled, full⟩ := crowded
    obtain ⟨fill, filled⟩ := Option.isSome_iff_exists.mp filled
    intro undamaged
    have bound := undamaged.numLe
    simp only [raceStep, tested, filled] at bound
    change s.queue.num + 1 ≤ _ at bound
    omega
  | finish =>
    unfold FindsRoom at crowded
    simp only [not_forall, not_lt] at crowded
    obtain ⟨slot, working, full⟩ := crowded
    obtain ⟨slotLt, front⟩ := inv.behind slot working
    have bounded := inv.ring.numLe
    intro undamaged
    have kept := undamaged.accepted
    simp only [raceStep, working] at kept
    have same : (s.queue.free slot).elems build = s.queue.elems build :=
      List.append_cancel_left (kept.symm.trans inv.accepted)
    have whole : s.queue.num = maxLenOfMlmeQueue build := by omega
    have last := MlmeQueue.last_entry slotLt front whole
    have cleared : ((s.queue.free slot).elems build).getLast? =
        some ((s.queue.free slot).entry slot) := MlmeQueue.last_entry slotLt front whole
    have member : s.queue.entry slot ∈ s.accepted := by
      rw [inv.accepted]
      exact List.mem_append_right _ (List.mem_of_getLast? last)
    have occupied := inv.occupied _ member
    rw [same, last] at cleared
    rw [Option.some.inj cleared] at occupied
    simp [MlmeQueue.free] at occupied
  | test who halted request => exact absurd trivial crowded
  | call => exact absurd trivial crowded
  | turn => exact absurd trivial crowded
  | take stopped => exact absurd trivial crowded

end RaceInv

/-- In every interleaving the queue keeps what was put in, in every state, exactly when room is found
wherever a producer puts something in and wherever the consumer is done with an element. -/
theorem mlmeQueue_undamaged_iff (build : Build) (queue : MlmeQueue) (events : List RaceEvent) :
    (∀ n, Undamaged build (run (raceStep build) (raceStart build queue) (events.take n))) ↔
      Throughout (raceStep build) (FindsRoom build) (raceStart build queue) events :=
  forall_take_iff_throughout (RaceInv build) (Undamaged build) (fun _ inv => inv.undamaged)
    (fun _ event inv room => inv.step event room)
    (fun _ _ inv crowded => inv.breaks crowded) (.start build queue) events

section Crowded

/-- With one slot left, two producers pass the test before one of them puts something in. -/
def crowdedRun : List RaceEvent :=
  ((List.range 19).flatMap fun i => [.test 0 false (.enqueue (smallRequest i)), .insert 0]) ++
    [.test 0 false (.enqueue (smallRequest 19)), .test 1 false (.enqueue (smallRequest 20)),
      .insert 0, .insert 1]

theorem not_mlmeQueue_undamaged :
    ¬ ∀ (build : Build) (queue : MlmeQueue) (events : List RaceEvent) (n : Nat),
      Undamaged build (run (raceStep build) (raceStart build queue) (events.take n)) := by
  intro always
  have bound := (always .apOnly blankQueue crowdedRun 42).numLe
  revert bound
  decide +kernel

end Crowded

end Mt7612u.Mlme
