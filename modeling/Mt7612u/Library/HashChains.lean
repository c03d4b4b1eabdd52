import Mathlib

/-! Singly linked chains through a successor function, walks along them, and a family of buckets
that holds every element of a set in exactly one chain. -/

namespace Mt7612u.Library.HashChains

variable {Node Bucket : Type*}

/-- From `head` the links lead through exactly these nodes and then end. -/
inductive Chain (next : Node → Option Node) : Option Node → List Node → Prop where
  | nil : Chain next none []
  | cons {node : Node} {rest : List Node} (tail : Chain next (next node) rest) :
      Chain next (some node) (node :: rest)

namespace Chain
variable {next : Node → Option Node} {head : Option Node} {nodes : List Node}

theorem unique {others : List Node} (chain : Chain next head nodes)
    (other : Chain next head others) : nodes = others := by
  induction chain generalizing others with
  | nil => cases other with | nil => rfl
  | cons tail ih =>
    cases other with
    | cons rest => rw [ih rest]

theorem suffix {front back : List Node} {node : Node}
    (chain : Chain next head (front ++ node :: back)) : Chain next (some node) (node :: back) := by
  induction front generalizing head with
  | nil =>
    cases chain with
    | cons tail => exact .cons tail
  | cons first front ih =>
    cases chain with
    | cons tail => exact ih tail

/-- A chain that ends does not come back to a node. -/
theorem nodup (chain : Chain next head nodes) : nodes.Nodup := by
  induction chain with
  | nil => exact List.nodup_nil
  | @cons node rest tail ih =>
    refine List.nodup_cons.mpr ⟨fun again => ?_, ih⟩
    obtain ⟨front, back, split⟩ := List.append_of_mem again
    rw [split] at tail
    have same := (Chain.cons tail).unique (suffix tail)
    have longer := congrArg List.length same
    simp only [List.length_cons, List.length_append] at longer
    omega

theorem congr {next' : Node → Option Node} (chain : Chain next head nodes)
    (agree : ∀ node ∈ nodes, next' node = next node) : Chain next' head nodes := by
  induction chain with
  | nil => exact .nil
  | @cons node rest tail ih =>
    apply Chain.cons
    rw [agree node List.mem_cons_self]
    exact ih fun other member => agree other (List.mem_cons_of_mem node member)

theorem update_of_notMem [DecidableEq Node] (chain : Chain next head nodes) {node : Node}
    (outside : node ∉ nodes) (link : Option Node) :
    Chain (Function.update next node link) head nodes := by
  apply chain.congr
  intro other member
  apply Function.update_of_ne
  rintro rfl
  exact outside member

/-- A new node behind the last one. -/
theorem concat [DecidableEq Node] {front : List Node} {last new : Node}
    (chain : Chain next head (front ++ [last])) (fresh : new ∉ front ++ [last])
    (ends : next new = none) :
    Chain (Function.update next last (some new)) head (front ++ [last, new]) := by
  have once := chain.nodup
  induction front generalizing head with
  | nil =>
    cases chain with
    | cons tail =>
      apply Chain.cons
      rw [Function.update_self]
      apply Chain.cons
      have other : new ≠ last := fun same => fresh (by simp [same])
      rw [Function.update_of_ne other, ends]
      exact .nil
  | cons first front ih =>
    rw [List.cons_append, List.nodup_cons] at once
    cases chain with
    | cons tail =>
      apply Chain.cons
      have other : first ≠ last := fun same => once.1 (by simp [same])
      rw [Function.update_of_ne other]
      exact ih tail (fun member => fresh (List.mem_cons_of_mem first member)) once.2

/-- A node behind another one is passed over. -/
theorem unlink [DecidableEq Node] {front back : List Node} {previous node : Node}
    (chain : Chain next head (front ++ previous :: node :: back)) :
    Chain (Function.update next previous (next node)) head (front ++ previous :: back) := by
  have once := chain.nodup
  induction front generalizing head with
  | nil =>
    cases chain with
    | cons tail =>
      apply Chain.cons
      rw [Function.update_self]
      rw [List.nil_append, List.nodup_cons] at once
      cases link : next previous with
      | none => rw [link] at tail; cases tail
      | some other =>
        rw [link] at tail
        cases tail with
        | cons rest =>
          exact rest.update_of_notMem (fun member => once.1 (List.mem_cons_of_mem node member)) _
  | cons first front ih =>
    rw [List.cons_append, List.nodup_cons] at once
    cases chain with
    | cons tail =>
      apply Chain.cons
      have other : first ≠ previous := fun same => once.1 (by simp [same])
      rw [Function.update_of_ne other]
      exact ih tail once.2

end Chain

/-- Follow the links to the first node that meets the condition; `none` when the fuel does not
reach. -/
def follow (next : Node → Option Node) (stop : Node → Bool) :
    Nat → Option Node → Option (Option Node)
  | 0, _ => none
  | _ + 1, none => some none
  | fuel + 1, some node => if stop node then some (some node) else follow next stop fuel (next node)

theorem follow_eq {next : Node → Option Node} (stop : Node → Bool) {head : Option Node}
    {nodes : List Node} (chain : Chain next head nodes) {fuel : Nat} (enough : nodes.length < fuel) :
    follow next stop fuel head = some (nodes.find? stop) := by
  induction chain generalizing fuel with
  | nil =>
    cases fuel with
    | zero => exact absurd enough (Nat.not_lt_zero _)
    | succ fuel => rfl
  | @cons node rest tail ih =>
    cases fuel with
    | zero => exact absurd enough (Nat.not_lt_zero _)
    | succ fuel =>
      rw [follow, List.find?_cons]
      cases stop node with
      | true => rfl
      | false => exact ih (Nat.lt_of_succ_lt_succ enough)

/-- The last node is the first one whose link is empty. -/
theorem Chain.find_last {next : Node → Option Node} {front : List Node} {last : Node}
    {head : Option Node} (chain : Chain next head (front ++ [last])) :
    (front ++ [last]).find? (fun node => (next node).isNone) = some last := by
  induction front generalizing head with
  | nil =>
    cases chain with
    | cons tail =>
      cases link : next last with
      | none => simp [link]
      | some other => rw [link] at tail; cases tail
  | cons first front ih =>
    cases chain with
    | cons tail =>
      have goesOn : next first ≠ none := by
        intro ends
        rw [ends] at tail
        cases front with
        | nil => cases tail
        | cons second rest => cases tail
      rw [List.cons_append, List.find?_cons]
      cases link : next first with
      | none => exact absurd link goesOn
      | some other => exact ih tail

/-- Follow the links to a node and give back the one before it, or nothing if the node is the
first; the inner result is `none` where the chain does not hold it. -/
def findPrevious [DecidableEq Node] (next : Node → Option Node) (target : Node) :
    Nat → Option Node → Option Node → Option (Option (Option Node))
  | 0, _, _ => none
  | _ + 1, _, none => some none
  | fuel + 1, previous, some node =>
      if node = target then some (some previous)
      else findPrevious next target fuel (some node) (next node)

theorem findPrevious_eq [DecidableEq Node] {next : Node → Option Node} {front back : List Node}
    {target : Node} {head : Option Node} (chain : Chain next head (front ++ target :: back))
    {fuel : Nat} (enough : (front ++ target :: back).length < fuel) (previous : Option Node) :
    findPrevious next target fuel previous head = some (some (front.getLast?.or previous)) := by
  have once := chain.nodup
  induction front generalizing head fuel previous with
  | nil =>
    cases chain with
    | cons tail =>
      cases fuel with
      | zero => exact absurd enough (Nat.not_lt_zero _)
      | succ fuel => simp [findPrevious]
  | cons first front ih =>
    rw [List.cons_append, List.nodup_cons] at once
    cases chain with
    | cons tail =>
      cases fuel with
      | zero => exact absurd enough (Nat.not_lt_zero _)
      | succ fuel =>
        have other : first ≠ target := fun same => once.1 (by simp [same])
        rw [findPrevious, if_neg other, ih tail (Nat.lt_of_succ_lt_succ enough) _ once.2,
          List.getLast?_cons]
        cases front.getLast? <;> rfl

/-- Every bucket is a chain, and it holds the valid nodes whose key it is. -/
def Linked (hash : Bucket → Option Node) (next : Node → Option Node) (key : Node → Bucket)
    (valid : Node → Prop) : Prop :=
  ∀ bucket, ∃ nodes, Chain next (hash bucket) nodes ∧
    ∀ node, node ∈ nodes ↔ valid node ∧ key node = bucket

namespace Linked
variable {hash : Bucket → Option Node} {next : Node → Option Node} {key : Node → Bucket}
  {valid : Node → Prop}

/-- What is not linked may change. -/
theorem congr (linked : Linked hash next key valid) {next' : Node → Option Node}
    {key' : Node → Bucket} {valid' : Node → Prop} (links : ∀ node, valid node → next' node = next node)
    (keys : ∀ node, valid node → key' node = key node) (same : ∀ node, valid' node ↔ valid node) :
    Linked hash next' key' valid' := by
  intro bucket
  obtain ⟨nodes, chain, members⟩ := linked bucket
  refine ⟨nodes, chain.congr fun node member => links node ((members node).mp member).1, ?_⟩
  intro node
  rw [members node, same node]
  apply and_congr_right
  intro known
  rw [keys node known]

/-- The last node of a bucket is there as soon as the bucket is not empty. -/
theorem exists_last (linked : Linked hash next key valid) {bucket : Bucket} {head : Node}
    (some : hash bucket = some head) :
    ∃ front last, Chain next (hash bucket) (front ++ [last]) ∧
      ∀ node, node ∈ front ++ [last] ↔ valid node ∧ key node = bucket := by
  obtain ⟨nodes, chain, members⟩ := linked bucket
  rcases List.eq_nil_or_concat nodes with rfl | ⟨front, last, rfl⟩
  · rw [some] at chain
    cases chain
  · rw [List.concat_eq_append] at chain members
    exact ⟨front, last, chain, members⟩

theorem exists_split (linked : Linked hash next key valid) {node : Node} (known : valid node) :
    ∃ front back, Chain next (hash (key node)) (front ++ node :: back) ∧
      ∀ other, other ∈ front ++ node :: back ↔ valid other ∧ key other = key node := by
  obtain ⟨nodes, chain, members⟩ := linked (key node)
  obtain ⟨front, back, rfl⟩ := List.append_of_mem ((members node).mpr ⟨known, rfl⟩)
  exact ⟨front, back, chain, members⟩

/-- In the other buckets a new node changes nothing, -/
theorem with_other {new : Node} {bucket : Bucket} (other : bucket ≠ key new) (node : Node) :
    valid node ∧ key node = bucket ↔ (valid node ∨ node = new) ∧ key node = bucket := by
  constructor
  · rintro ⟨known, same⟩
    exact ⟨Or.inl known, same⟩
  · rintro ⟨known | rfl, same⟩
    · exact ⟨known, same⟩
    · exact absurd same.symm other

/-- and neither does a node that goes. -/
theorem without_other {gone : Node} {bucket : Bucket} (other : bucket ≠ key gone) (node : Node) :
    valid node ∧ key node = bucket ↔ (valid node ∧ node ≠ gone) ∧ key node = bucket := by
  constructor
  · rintro ⟨known, same⟩
    refine ⟨⟨known, ?_⟩, same⟩
    rintro rfl
    exact other same.symm
  · rintro ⟨⟨known, -⟩, same⟩
    exact ⟨known, same⟩

/-- The chain of its bucket without a node that was in it once. -/
theorem without_own {gone : Node} {front back : List Node}
    (once : (front ++ gone :: back).Nodup)
    (members : ∀ node, node ∈ front ++ gone :: back ↔ valid node ∧ key node = key gone)
    (node : Node) :
    node ∈ front ++ back ↔ (valid node ∧ node ≠ gone) ∧ key node = key gone := by
  have apart := (List.nodup_cons.mp (List.nodup_middle.mp once)).1
  have split : node ∈ front ++ gone :: back ↔ node = gone ∨ node ∈ front ++ back := by
    simp only [List.mem_append, List.mem_cons, or_left_comm]
  have member := members node
  rw [split] at member
  constructor
  · intro rest
    obtain ⟨known, same⟩ := member.mp (Or.inr rest)
    refine ⟨⟨known, ?_⟩, same⟩
    rintro rfl
    exact apart rest
  · rintro ⟨⟨known, different⟩, same⟩
    exact (member.mpr ⟨known, same⟩).resolve_left different

/-- A new node becomes the head of its empty bucket. -/
theorem link_empty [DecidableEq Bucket] (linked : Linked hash next key valid) {new : Node}
    (ends : next new = none) (empty : hash (key new) = none) :
    Linked (Function.update hash (key new) (some new)) next key
      (fun node => valid node ∨ node = new) := by
  intro bucket
  obtain ⟨nodes, chain, members⟩ := linked bucket
  by_cases own : bucket = key new
  · subst own
    rw [empty] at chain
    cases chain
    refine ⟨[new], ?_, fun node => ?_⟩
    · rw [Function.update_self]
      apply Chain.cons
      rw [ends]
      exact .nil
    · have none := members node
      rw [List.mem_singleton]
      constructor
      · rintro rfl
        exact ⟨Or.inr rfl, rfl⟩
      · rintro ⟨known | rfl, same⟩
        · exact absurd (none.mpr ⟨known, same⟩) List.not_mem_nil
        · rfl
  · refine ⟨nodes, ?_, fun node => (members node).trans (with_other own node)⟩
    rw [Function.update_of_ne own]
    exact chain

/-- A new node goes behind the last one of its bucket. -/
theorem link_last [DecidableEq Node] (linked : Linked hash next key valid) {new last : Node}
    {front : List Node} (fresh : ¬valid new) (ends : next new = none)
    (chain : Chain next (hash (key new)) (front ++ [last]))
    (members : ∀ node, node ∈ front ++ [last] ↔ valid node ∧ key node = key new) :
    Linked hash (Function.update next last (some new)) key
      (fun node => valid node ∨ node = new) := by
  intro bucket
  by_cases own : bucket = key new
  · subst own
    have outside : new ∉ front ++ [last] := fun member => fresh ((members new).mp member).1
    refine ⟨front ++ [last, new], chain.concat outside ends, fun node => ?_⟩
    have split : node ∈ front ++ [last, new] ↔ node ∈ front ++ [last] ∨ node = new := by
      simp only [List.mem_append, List.mem_cons, List.not_mem_nil, or_false, or_assoc]
    rw [split, members node]
    constructor
    · rintro (⟨known, same⟩ | rfl)
      · exact ⟨Or.inl known, same⟩
      · exact ⟨Or.inr rfl, rfl⟩
    · rintro ⟨known | rfl, same⟩
      · exact Or.inl ⟨known, same⟩
      · exact Or.inr rfl
  · obtain ⟨nodes, other, holds⟩ := linked bucket
    have lastKey := ((members last).mp (by simp)).2
    refine ⟨nodes, other.update_of_notMem ?_ _, fun node => (holds node).trans (with_other own node)⟩
    intro member
    exact own (((holds last).mp member).2.symm.trans lastKey)

/-- The first node of a bucket is taken out. -/
theorem unlink_first [DecidableEq Bucket] (linked : Linked hash next key valid) {node : Node}
    {back : List Node} (chain : Chain next (hash (key node)) (node :: back))
    (members : ∀ other, other ∈ node :: back ↔ valid other ∧ key other = key node) :
    Linked (Function.update hash (key node) (next node)) next key
      (fun other => valid other ∧ other ≠ node) := by
  have once := chain.nodup
  intro bucket
  by_cases own : bucket = key node
  · subst own
    refine ⟨[] ++ back, ?_, without_own once members⟩
    rw [Function.update_self, List.nil_append]
    generalize hash (key node) = head at chain
    cases chain with
    | cons tail => exact tail
  · obtain ⟨nodes, other, holds⟩ := linked bucket
    refine ⟨nodes, ?_, fun member => (holds member).trans (without_other own member)⟩
    rw [Function.update_of_ne own]
    exact other

/-- A node that has another one before it in its bucket is taken out. -/
theorem unlink_behind [DecidableEq Node] (linked : Linked hash next key valid)
    {node previous : Node} {front back : List Node}
    (chain : Chain next (hash (key node)) ((front ++ [previous]) ++ node :: back))
    (members : ∀ other, other ∈ (front ++ [previous]) ++ node :: back ↔
      valid other ∧ key other = key node) :
    Linked hash (Function.update next previous (next node)) key
      (fun other => valid other ∧ other ≠ node) := by
  intro bucket
  by_cases own : bucket = key node
  · subst own
    refine ⟨(front ++ [previous]) ++ back, ?_, without_own chain.nodup members⟩
    rw [List.append_assoc] at chain ⊢
    exact chain.unlink
  · obtain ⟨nodes, other, holds⟩ := linked bucket
    have previousKey := ((members previous).mp (by simp)).2
    refine ⟨nodes, other.update_of_notMem ?_ _,
      fun member => (holds member).trans (without_other own member)⟩
    intro member
    exact own (((holds previous).mp member).2.symm.trans previousKey)

end Linked

end Mt7612u.Library.HashChains
