import Mathlib.Data.List.Induction

/-!
# Hash chains

A chain starts from a fixed value and links each message to the hash before it.
Here `link` is any function of the previous hash and the message; what the
results ask of it is asked of the links that occur in the chains at hand.

The head of a chain commits to every message (`eq_of_chainHead_eq`): the proof
walks the two chains backwards from the common head, and the start value is
told apart from every hash.
-/

set_option autoImplicit false

namespace Actl.Foundation

variable {D M : Type} (link : D → M → D)

/-- The last hash of the chain over the messages, the start value if there are
none. -/
def chainHead (start : D) (messages : List M) : D := messages.foldl link start

/-- The hashes of the chain, one per message. -/
def chainHashes : D → List M → List D
  | _, [] => []
  | prev, message :: messages => link prev message :: chainHashes (link prev message) messages

/-- What is hashed along the chain: each message with the hash before it. -/
def chainLinks : D → List M → List (D × M)
  | _, [] => []
  | prev, message :: messages => (prev, message) :: chainLinks (link prev message) messages

@[simp] theorem chainHead_nil (start : D) : chainHead link start [] = start := rfl

@[simp] theorem chainHead_cons (start : D) (message : M) (messages : List M) :
    chainHead link start (message :: messages) = chainHead link (link start message) messages := rfl

theorem chainHead_append (start : D) (first second : List M) :
    chainHead link start (first ++ second) = chainHead link (chainHead link start first) second :=
  List.foldl_append

@[simp] theorem length_chainHashes (start : D) (messages : List M) :
    (chainHashes link start messages).length = messages.length := by
  induction messages generalizing start with
  | nil => rfl
  | cons message messages ih => simp only [chainHashes, List.length_cons, ih]

theorem chainHashes_append (start : D) (first second : List M) :
    chainHashes link start (first ++ second) =
      chainHashes link start first ++ chainHashes link (chainHead link start first) second := by
  induction first generalizing start with
  | nil => rfl
  | cons message first ih => simp only [List.cons_append, chainHashes, ih, chainHead_cons]

theorem chainLinks_append (start : D) (first second : List M) :
    chainLinks link start (first ++ second) =
      chainLinks link start first ++ chainLinks link (chainHead link start first) second := by
  induction first generalizing start with
  | nil => rfl
  | cons message first ih => simp only [List.cons_append, chainLinks, ih, chainHead_cons]

/-- The hash at a position is the head of the chain up to there. -/
theorem getElem?_chainHashes {start : D} {messages : List M} {i : Nat}
    (bound : i < messages.length) :
    (chainHashes link start messages)[i]? = some (chainHead link start (messages.take (i + 1))) := by
  induction messages generalizing start i with
  | nil => simp at bound
  | cons message messages ih =>
      cases i with
      | zero => rfl
      | succ i =>
          simp only [List.length_cons, Nat.add_lt_add_iff_right] at bound
          simpa only [chainHashes, List.getElem?_cons_succ, List.take_succ_cons, chainHead_cons]
            using ih bound

/-- The head is the last hash. -/
theorem getLast?_chainHashes (start : D) (messages : List M) :
    ((chainHashes link start messages).getLast?).getD start = chainHead link start messages := by
  induction messages using List.reverseRecOn with
  | nil => rfl
  | append_singleton messages message ih =>
      simp [chainHashes_append, chainHead_append, chainHashes]

/-- Two chains with the same head are the same, if no two links of theirs
collide and no link hashes to the start value. -/
theorem eq_of_chainHead_eq {start : D} {left right : List M}
    (collisionFree : ∀ l ∈ chainLinks link start left, ∀ r ∈ chainLinks link start right,
      link l.1 l.2 = link r.1 r.2 → l = r)
    (freshLeft : ∀ l ∈ chainLinks link start left, link l.1 l.2 ≠ start)
    (freshRight : ∀ r ∈ chainLinks link start right, link r.1 r.2 ≠ start)
    (sameHead : chainHead link start left = chainHead link start right) : left = right := by
  induction left using List.reverseRecOn generalizing right with
  | nil =>
      cases right using List.reverseRecOn with
      | nil => rfl
      | append_singleton right message =>
          refine absurd sameHead.symm ?_
          rw [chainHead_append]
          exact freshRight (chainHead link start right, message)
            (by simp [chainLinks_append, chainLinks])
  | append_singleton left message ih =>
      have lastLeft : (chainHead link start left, message) ∈
          chainLinks link start (left ++ [message]) := by
        simp [chainLinks_append, chainLinks]
      cases right using List.reverseRecOn with
      | nil =>
          refine absurd sameHead ?_
          rw [chainHead_append]
          exact freshLeft _ lastLeft
      | append_singleton right message' =>
          have lastRight : (chainHead link start right, message') ∈
              chainLinks link start (right ++ [message']) := by
            simp [chainLinks_append, chainLinks]
          rw [chainHead_append, chainHead_append] at sameHead
          obtain ⟨samePrev, sameMessage⟩ :=
            Prod.mk.inj (collisionFree _ lastLeft _ lastRight sameHead)
          have sameRest : left = right := by
            refine ih (fun l member r member' => collisionFree l ?_ r ?_)
              (fun l member => freshLeft l ?_) (fun r member => freshRight r ?_) samePrev
            all_goals
              rw [chainLinks_append]
              exact List.mem_append_left _ (by assumption)
          rw [sameRest, sameMessage]

/-- A function that does not identify an element of one list with an element of
the other tells the lists apart. -/
theorem eq_of_map_eq {α β : Type} {f : α → β} {left right : List α}
    (same : left.map f = right.map f)
    (injective : ∀ a ∈ left, ∀ b ∈ right, f a = f b → a = b) : left = right := by
  induction left generalizing right with
  | nil => exact (List.map_eq_nil_iff.mp same.symm).symm
  | cons a left ih =>
      cases right with
      | nil => cases same
      | cons b right =>
          obtain ⟨first, rest⟩ := List.cons.inj same
          rw [injective a (by simp) b (by simp) first,
            ih rest fun a member b member' =>
              injective a (List.mem_cons_of_mem _ member) b (List.mem_cons_of_mem _ member')]

end Actl.Foundation
