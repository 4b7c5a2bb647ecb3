import Actl.Audit.Verification
import Actl.Fixture
import Actl.Foundation.MerkleTree

/-!
# The Merkle tree of a segment

`merkle_root` folds the entry hashes of a segment level by level. This is the Merkle tree
hash of RFC 6962 (`merkleRoot_eq_mth`), and where what is hashed for two segments does not
collide, the root determines the segment, its length included
(`eq_of_merkleRoot_eq`): leaves and nodes are told apart by their first byte.
-/

set_option autoImplicit false

namespace Actl.Audit

open Foundation
open Foundation.Merkle (pairUp treeHead climb_eq_treeHead climb_rounds map_pairUp)

/-- The Merkle tree hash of RFC 6962. -/
def mth (P : Platform) (entries : List Digest) : Digest :=
  treeHead (P.sha256 []) (leafHash P) (nodeHash P) entries

section Levels

variable {P : Platform}

theorem nextLevel_eq_pairUp (level : List Digest) :
    nextLevel P level = pairUp (nodeHash P) level := by
  induction level using Foundation.Merkle.pairUp.induct with
  | case1 => simp only [nextLevel, pairUp]
  | case2 last => simp only [nextLevel, pairUp]
  | case3 left right rest ih => simp only [nextLevel, pairUp, ih]

theorem climb_of_long {level : List Digest} (long : 1 < level.length) :
    climb P level = climb P (nextLevel P level) := by
  rw [climb, if_pos long]

theorem climb_of_short {level : List Digest} (short : ¬ 1 < level.length) :
    climb P level = level := by
  rw [climb, if_neg short]

theorem climb_eq (level : List Digest) :
    climb P level = Foundation.Merkle.climb (nodeHash P) level := by
  induction level using Foundation.Merkle.climb.induct (nodeHash P) with
  | case1 level long ih =>
      rw [climb_of_long long, nextLevel_eq_pairUp, ih, Foundation.Merkle.climb_of_long long]
  | case2 level short => rw [climb_of_short short, Foundation.Merkle.climb_of_short short]

theorem climb_leaves {hashes : List Digest} (nonempty : 0 < hashes.length) :
    climb P (hashes.map (leafHash P)) = [mth P hashes] := by
  rw [climb_eq, climb_eq_treeHead (P.sha256 []) nonempty]
  rfl

end Levels

/-- For every segment the loop over the levels ends after finitely many rounds, with the
Merkle tree hash of RFC 6962 as its only value, and that is the root. -/
theorem merkleRoot_eq_mth (P : Platform) (first : Digest) (rest : List Digest) :
    merkleRoot P (first :: rest) = some (mth P (first :: rest)) ∧
      ∃ rounds, (nextLevel P)^[rounds] ((first :: rest).map (leafHash P))
          = [mth P (first :: rest)] ∧
        ∀ earlier < rounds,
          1 < ((nextLevel P)^[earlier] ((first :: rest).map (leafHash P))).length := by
  have arrived : climb P ((first :: rest).map (leafHash P)) = [mth P (first :: rest)] :=
    climb_leaves (Nat.succ_pos _)
  refine ⟨by rw [merkleRoot, arrived, List.head?_cons], ?_⟩
  have same : nextLevel P = pairUp (nodeHash P) := funext nextLevel_eq_pairUp
  rw [← arrived, climb_eq, same]
  exact climb_rounds _

/-! ## Roots determine their segments -/

section Texts

variable (P : Platform)

/-- The byte strings hashed for one level of the tree. -/
def nodeTexts : List Digest → List Bytes
  | left :: right :: rest => (1 :: (left.val ++ right.val)) :: nodeTexts rest
  | _ => []

/-- The byte strings hashed from a level up to the root. -/
def climbTexts (level : List Digest) : List Bytes :=
  if 1 < level.length then nodeTexts level ++ climbTexts (nextLevel P level) else []
termination_by level.length
decreasing_by rw [length_nextLevel]; omega

/-- The byte strings hashed for the root of a segment. -/
def merkleTexts (hashes : List Digest) : List Bytes :=
  (hashes.map fun hash => 0 :: hash.val) ++ climbTexts P (hashes.map (leafHash P))

/-- The root of a tree. -/
def treeRoot : Merkle.Tree Digest → Digest := Merkle.Tree.fold (leafHash P) (nodeHash P)

/-- The byte strings hashed for the root of a tree. -/
def treeTexts : Merkle.Tree Digest → List Bytes
  | .leaf hash => [0 :: hash.val]
  | .node left right =>
      (1 :: ((treeRoot P left).val ++ (treeRoot P right).val)) :: (treeTexts left ++ treeTexts right)

variable {P}

theorem climbTexts_of_long {level : List Digest} (long : 1 < level.length) :
    climbTexts P level = nodeTexts level ++ climbTexts P (nextLevel P level) := by
  rw [climbTexts, if_pos long]

/-- What is hashed for the trees of the next level. -/
theorem treeTexts_pairUp (forest : List (Merkle.Tree Digest)) :
    ∀ tree ∈ pairUp .node forest, ∀ text ∈ treeTexts P tree,
      text ∈ forest.flatMap (treeTexts P) ++ nodeTexts (forest.map (treeRoot P)) := by
  induction forest using Foundation.Merkle.pairUp.induct with
  | case1 => exact fun tree member => absurd member List.not_mem_nil
  | case2 last =>
      intro tree member text hashed
      cases List.mem_singleton.mp member
      exact List.mem_append_left _ (List.mem_flatMap.mpr ⟨last, List.mem_singleton.mpr rfl, hashed⟩)
  | case3 left right rest ih =>
      intro tree member text hashed
      simp only [List.flatMap_cons, List.map_cons, nodeTexts, List.mem_append, List.mem_cons]
      rcases List.mem_cons.mp member with rfl | later
      · simp only [treeTexts, List.mem_cons, List.mem_append] at hashed
        tauto
      · have inside := ih tree later text hashed
        rw [List.mem_append] at inside
        tauto

/-- What is hashed for the tree that a forest grows into. -/
theorem treeTexts_climb (forest : List (Merkle.Tree Digest)) :
    ∀ tree ∈ Foundation.Merkle.climb .node forest, ∀ text ∈ treeTexts P tree,
      text ∈ forest.flatMap (treeTexts P) ++ climbTexts P (forest.map (treeRoot P)) := by
  induction forest using Foundation.Merkle.climb.induct Merkle.Tree.node with
  | case1 forest long ih =>
      have roots : (pairUp .node forest).map (treeRoot P)
          = nextLevel P (forest.map (treeRoot P)) := by
        rw [nextLevel_eq_pairUp]
        exact map_pairUp (treeRoot P) (fun _ _ => rfl) forest
      rw [Foundation.Merkle.climb_of_long long, climbTexts_of_long (by simpa using long), ← roots]
      intro tree member text hashed
      rcases List.mem_append.mp (ih tree member text hashed) with below | above
      · obtain ⟨tree', member', hashed'⟩ := List.mem_flatMap.mp below
        have inside := treeTexts_pairUp forest tree' member' text hashed'
        rw [List.mem_append] at inside ⊢
        rw [List.mem_append]
        tauto
      · exact List.mem_append_right _ (List.mem_append_right _ above)
  | case2 forest short =>
      rw [Foundation.Merkle.climb_of_short short]
      exact fun tree member text hashed =>
        List.mem_append_left _ (List.mem_flatMap.mpr ⟨tree, member, hashed⟩)

/-- The root of a segment is the root of its tree, and hashes the same. -/
theorem merkleRoot_ofList (first : Digest) (rest : List Digest) :
    merkleRoot P (first :: rest) = some (treeRoot P (.ofList first rest)) ∧
      ∀ text ∈ treeTexts P (.ofList first rest), text ∈ merkleTexts P (first :: rest) := by
  have nonempty : 0 < (first :: rest).length := Nat.succ_pos _
  refine ⟨?_, fun text hashed => ?_⟩
  · rw [merkleRoot, climb_leaves nonempty, List.head?_cons, treeRoot,
      Merkle.Tree.fold_ofList (P.sha256 [])]
    rfl
  · have grown : Foundation.Merkle.climb Merkle.Tree.node ((first :: rest).map Merkle.Tree.leaf) = _ :=
      climb_eq_treeHead (.leaf first) nonempty
    have inside := treeTexts_climb ((first :: rest).map .leaf) (.ofList first rest)
      (by rw [grown]; exact List.mem_singleton.mpr rfl) text hashed
    rw [List.flatMap_map, List.map_map] at inside
    have single : (fun hash => treeTexts P (.leaf hash)) = fun hash : Digest => [0 :: hash.val] := rfl
    have roots : treeRoot P ∘ Merkle.Tree.leaf = leafHash P := rfl
    rw [single, roots, ← List.map_eq_flatMap] at inside
    exact inside

/-- Where what is hashed does not collide, the root determines the tree: leaves and nodes
are told apart by their first byte. -/
theorem tree_eq_of_root_eq {texts : Set Bytes} (collisionFree : Set.InjOn P.sha256 texts)
    {tree tree' : Merkle.Tree Digest} (hashed : ∀ text ∈ treeTexts P tree, text ∈ texts)
    (hashed' : ∀ text ∈ treeTexts P tree', text ∈ texts)
    (same : treeRoot P tree = treeRoot P tree') : tree = tree' := by
  induction tree generalizing tree' with
  | leaf hash =>
      cases tree' with
      | leaf hash' =>
          have equal := collisionFree (hashed _ (List.mem_singleton.mpr rfl))
            (hashed' _ (List.mem_singleton.mpr rfl)) same
          rw [Subtype.ext (List.cons.inj equal).2]
      | node left' right' =>
          have equal := collisionFree (hashed _ (List.mem_singleton.mpr rfl))
            (hashed' _ List.mem_cons_self) same
          exact absurd (List.cons.inj equal).1 (by decide)
  | node left right ihLeft ihRight =>
      cases tree' with
      | leaf hash' =>
          have equal := collisionFree (hashed _ List.mem_cons_self)
            (hashed' _ (List.mem_singleton.mpr rfl)) same
          exact absurd (List.cons.inj equal).1 (by decide)
      | node left' right' =>
          have equal := collisionFree (hashed _ List.mem_cons_self)
            (hashed' _ List.mem_cons_self) same
          obtain ⟨lefts, rights⟩ := digests_of_append_eq (List.cons.inj equal).2
          rw [ihLeft (fun text member => hashed text
              (List.mem_cons_of_mem _ (List.mem_append_left _ member)))
            (fun text member => hashed' text
              (List.mem_cons_of_mem _ (List.mem_append_left _ member))) lefts,
            ihRight (fun text member => hashed text
              (List.mem_cons_of_mem _ (List.mem_append_right _ member)))
            (fun text member => hashed' text
              (List.mem_cons_of_mem _ (List.mem_append_right _ member))) rights]

/-- Segments with the same root are the same, whatever their lengths. -/
theorem eq_of_merkleRoot_eq {hashes other : List Digest}
    (collisionFree : Set.InjOn P.sha256 {text | text ∈ merkleTexts P hashes ++ merkleTexts P other})
    (same : merkleRoot P hashes = merkleRoot P other) : hashes = other := by
  have none_nil : merkleRoot P [] = none := by
    rw [merkleRoot, List.map_nil, climb_of_short (by simp), List.head?_nil]
  match hashes, other with
  | [], [] => rfl
  | [], first' :: rest' =>
      rw [none_nil, (merkleRoot_ofList first' rest').1] at same
      cases same
  | first :: rest, [] =>
      rw [none_nil, (merkleRoot_ofList first rest).1] at same
      cases same
  | first :: rest, first' :: rest' =>
      obtain ⟨root, hashed⟩ := merkleRoot_ofList (P := P) first rest
      obtain ⟨root', hashed'⟩ := merkleRoot_ofList (P := P) first' rest'
      rw [root, root', Option.some.injEq] at same
      have trees := tree_eq_of_root_eq collisionFree
        (fun text member => List.mem_append_left _ (hashed text member))
        (fun text member => List.mem_append_right _ (hashed' text member)) same
      have leaves := congrArg Merkle.Tree.leaves trees
      rwa [Merkle.Tree.leaves_ofList, Merkle.Tree.leaves_ofList] at leaves

/-- Roots bind their lists: where what is hashed for two lists does not collide, exactly
the same lists have the same root. -/
theorem merkleRoot_binds (P : Platform) (hashes other : List Digest)
    (collisionFree :
      Set.InjOn P.sha256 {text | text ∈ merkleTexts P hashes ++ merkleTexts P other}) :
    merkleRoot P hashes = merkleRoot P other ↔ hashes = other :=
  ⟨eq_of_merkleRoot_eq collisionFree, congrArg (merkleRoot P)⟩

end Texts

namespace Fixture

open Actl.Fixture (platform)

theorem length_entryHash (byte : UInt8) : (List.replicate 32 byte).length = 32 :=
  List.length_replicate

def entryHash (byte : UInt8) : Digest := ⟨List.replicate 32 byte, length_entryHash byte⟩

/-- A list and a beginning of it have different roots. -/
theorem roots_of_prefix_differ :
    merkleRoot platform [entryHash 1, entryHash 2, entryHash 3]
      ≠ merkleRoot platform [entryHash 1, entryHash 2] := by
  have checked : ∀ text ∈ merkleTexts platform [entryHash 1, entryHash 2, entryHash 3] ++
      merkleTexts platform [entryHash 1, entryHash 2],
      ∀ text' ∈ merkleTexts platform [entryHash 1, entryHash 2, entryHash 3] ++
        merkleTexts platform [entryHash 1, entryHash 2],
        platform.sha256 text = platform.sha256 text' → text = text' := by
    decide +kernel
  have binds := merkleRoot_binds platform [entryHash 1, entryHash 2, entryHash 3]
    [entryHash 1, entryHash 2] fun text member text' member' same =>
      checked text member text' member' same
  exact fun same => absurd (binds.mp same) (by decide)

end Fixture

end Actl.Audit
