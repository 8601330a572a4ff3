import Polyglot.Proofs.Document.Strokes
import Polyglot.Proofs.Forest.Alike

/-!
# Placing a comment after a node

A new comment is placed right after a node, either in the place of the sibling that
stood there or between the node and that sibling. `Placed` says what can be looked up
in the forest after that in terms of the forest before; the strokes of the two edits
lead to such a forest (`placed_placeComment`).

If what gave way was a comment itself, an orderly forest stays orderly, the text
nodes of every subtree stay the same in the same order, and every other node that
had a sibling after it has the same one, or else the placed one.
-/

set_option autoImplicit false

namespace Polyglot.Forest

/-- A forest with a new comment right after a node, in the place of its sibling if one
is given. -/
def placeComment (forest : Forest) (node : NodeId) (sibling? : Option NodeId) (words : Text) :
    Forest :=
  let (forest, comment) := forest.add (.comment words)
  forest.after <| Edit.strokes forest <| match sibling? with
    | some sibling => .replace sibling comment
    | none => .insertAfter node comment

/-- What a new comment after a node does to a forest. -/
structure Placed (before after : Forest) (node parent : NodeId) (left right : List NodeId)
    (sibling? : Option NodeId) (words : Text) : Prop where
  split : before.children parent = left ++ node :: (sibling?.toList ++ right)
  size : after.size = before.size + 1
  content? : ∀ id, after.content? id =
    if id = before.size then some (.comment words) else before.content? id
  parent? : ∀ id, after.parent? id =
    if id = before.size then some parent
    else if sibling? = some id then none else before.parent? id
  children : ∀ id, after.children id =
    if id = parent then left ++ node :: before.size :: right else before.children id

/-! ## Siblings -/

section Siblings

variable {forest : Forest} {node parent : NodeId} {left rest : List NodeId}

theorem idxOf?_append_cons (absent : node ∉ left) :
    (left ++ node :: rest).idxOf? node = some left.length := by
  refine List.idxOf?_eq_some_iff.mpr ⟨by simp, by simp, fun index before same => absent ?_⟩
  rw [List.getElem_append_left before] at same
  exact same ▸ List.getElem_mem before

theorem WellFormed.not_mem_left (wellFormed : forest.WellFormed)
    (split : forest.children parent = left ++ node :: rest) : node ∉ left := by
  have distinct := wellFormed.nodup_children parent
  rw [split, List.nodup_append] at distinct
  exact fun listed => distinct.2.2 node listed node List.mem_cons_self rfl

theorem WellFormed.parent?_of_split (wellFormed : forest.WellFormed)
    (split : forest.children parent = left ++ node :: rest) :
    forest.parent? node = some parent :=
  wellFormed.parent?_of_mem (split ▸ List.mem_append_right left List.mem_cons_self)

theorem WellFormed.indexOf?_of_split (wellFormed : forest.WellFormed)
    (split : forest.children parent = left ++ node :: rest) :
    forest.indexOf? parent node = some left.length := by
  rw [indexOf?, split, idxOf?_append_cons (wellFormed.not_mem_left split)]

/-- The next sibling of a node is the first of those after it. -/
theorem WellFormed.nextSibling?_of_split (wellFormed : forest.WellFormed)
    (split : forest.children parent = left ++ node :: rest) :
    forest.nextSibling? node = rest.head? := by
  rw [nextSibling?, wellFormed.parent?_of_split split]
  simp only [wellFormed.indexOf?_of_split split, Option.bind_some, split]
  have past : left.length + 1 - left.length = 1 := Nat.add_sub_cancel_left ..
  rw [List.getElem?_append_right (Nat.le_succ _), past, List.getElem?_cons_succ,
    List.head?_eq_getElem?]

/-- The sibling after a node is a child of its parent. -/
theorem mem_children_of_nextSibling? {sibling : NodeId} (above : forest.parent? node = some parent)
    (next : forest.nextSibling? node = some sibling) : sibling ∈ forest.children parent := by
  rw [nextSibling?, above] at next
  obtain ⟨index, _, stands⟩ := Option.bind_eq_some_iff.mp next
  exact List.mem_of_getElem? stands

theorem mem_of_nextSibling? {id : NodeId} (next : forest.nextSibling? node = some id) :
    ∃ parent, id ∈ forest.children parent := by
  cases above : forest.parent? node with
  | none =>
    rw [nextSibling?, above] at next
    cases next
  | some parent => exact ⟨parent, mem_children_of_nextSibling? above next⟩

/-- A node with a sibling after it stands right before it. -/
theorem WellFormed.exists_split_of_nextSibling? (wellFormed : forest.WellFormed)
    {sibling : NodeId} (next : forest.nextSibling? node = some sibling) :
    ∃ parent left right, forest.children parent = (left ++ [node]) ++ sibling :: right := by
  cases above : forest.parent? node with
  | none =>
    rw [nextSibling?, above] at next
    cases next
  | some parent =>
    obtain ⟨left, rest, split⟩ := List.append_of_mem (wellFormed.mem_of_parent? above)
    rw [wellFormed.nextSibling?_of_split split] at next
    obtain ⟨right, rfl⟩ := List.head?_eq_some_iff.mp next
    exact ⟨parent, left, right, by rw [split, List.append_assoc, List.singleton_append]⟩

/-- A node is after one node at most. -/
theorem WellFormed.eq_of_nextSibling? (wellFormed : forest.WellFormed) {one other sibling : NodeId}
    (next : forest.nextSibling? one = some sibling)
    (nextOther : forest.nextSibling? other = some sibling) : one = other := by
  obtain ⟨parent, left, right, split⟩ := wellFormed.exists_split_of_nextSibling? next
  obtain ⟨parentOther, leftOther, rightOther, splitOther⟩ :=
    wellFormed.exists_split_of_nextSibling? nextOther
  have above := (wellFormed.parent?_of_split split).symm.trans
    (wellFormed.parent?_of_split splitOther)
  cases above
  have place := (wellFormed.indexOf?_of_split split).symm.trans
    (wellFormed.indexOf?_of_split splitOther)
  have front := List.append_inj_left (split.symm.trans splitOther) (Option.some.inj place)
  exact List.singleton_inj.mp (List.append_inj_right' front rfl)

/-- Whether a node has a next sibling, and which, is seen from the siblings up to one
after it. -/
theorem WellFormed.nextSibling?_of_mem_left {other : Forest} (wellFormed : forest.WellFormed)
    (wellFormedOther : other.WellFormed) {id : NodeId} (listed : id ∈ left)
    (split : forest.children parent = left ++ node :: rest) {more : List NodeId}
    (splitOther : other.children parent = left ++ node :: more) :
    forest.nextSibling? id = other.nextSibling? id := by
  obtain ⟨front, back, rfl⟩ := List.append_of_mem listed
  rw [List.append_assoc, List.cons_append] at split splitOther
  rw [wellFormed.nextSibling?_of_split split, wellFormedOther.nextSibling?_of_split splitOther]
  cases back <;> rfl

end Siblings

/-! ## The strokes of placing a comment -/

section Strokes

variable {forest : Forest} {node parent : NodeId} {left right : List NodeId}

theorem insertIdx_append_cons (fresh : NodeId) :
    (left ++ node :: right).insertIdx (left.length + 1) fresh = left ++ node :: fresh :: right := by
  induction left with
  | nil => rfl
  | cons first left ih => exact congrArg (first :: ·) ih

/-- A new node is taken out of nowhere. -/
theorem removal_add (forest : Forest) (content : Content) :
    (forest.add content).1.removal forest.size = [] := by
  rw [removal, parent?_add, forest.parent?_eq_none_of_size_le _ (Nat.le_refl _)]

/-- A forest with a new comment among the children of a node. -/
def seat (forest : Forest) (words : Text) (parent : NodeId) (list : List NodeId) : Forest :=
  ((forest.add (.comment words)).1.setChildren parent list).setParent forest.size (some parent)

section Seat

variable (words : Text) (list : List NodeId) (id : NodeId)

theorem size_seat : (forest.seat words parent list).size = forest.size + 1 := by
  rw [seat, size_setParent, size_setChildren, size_add]

theorem content?_seat :
    (forest.seat words parent list).content? id =
      if id = forest.size then some (.comment words) else forest.content? id := by
  rw [seat, content?_setParent, content?_setChildren, content?_add]

theorem parent?_seat :
    (forest.seat words parent list).parent? id =
      if id = forest.size then some parent else forest.parent? id := by
  have fresh : forest.size < ((forest.add (.comment words)).1.setChildren parent list).size := by
    rw [size_setChildren, size_add]
    exact Nat.lt_succ_self _
  rw [seat, parent?_setParent _ _ fresh, parent?_setChildren, parent?_add]

theorem children_seat (known : parent < forest.size) :
    (forest.seat words parent list).children id =
      if id = parent then list else forest.children id := by
  have bound : parent < (forest.add (.comment words)).1.size := by
    rw [size_add]
    exact Nat.lt_succ_of_lt known
  rw [seat, children_setParent, children_setChildren _ _ bound, children_add]

end Seat

variable (wellFormed : forest.WellFormed) (words : Text)
include wellFormed

theorem placed_insert (split : forest.children parent = left ++ node :: right) :
    forest.Placed (forest.placeComment node none words) node parent left right none words := by
  have listed : node ∈ forest.children parent :=
    split ▸ List.mem_append_right left List.mem_cons_self
  have found : (forest.add (.comment words)).1.indexOf? parent node = some left.length := by
    rw [indexOf?, children_add]
    exact wellFormed.indexOf?_of_split split
  have result : forest.placeComment node none words
      = forest.seat words parent (left ++ node :: forest.size :: right) := by
    change (forest.add (.comment words)).1.after
      (Edit.strokes (forest.add (.comment words)).1 (.insertAfter node forest.size)) = _
    rw [Edit.strokes, parent?_add, wellFormed.parent?_of_split split]
    simp only [removal_add, after, List.foldl_nil, List.nil_append, found]
    rw [children_add, split, insertIdx_append_cons]
    rfl
  rw [result]
  refine ⟨split, size_seat words _, fun id => content?_seat words _ id, fun id => ?_, fun id =>
    children_seat words _ id (forest.lt_size_of_mem_children parent listed)⟩
  rw [parent?_seat, if_neg (Option.some_ne_none id).symm]

theorem placed_replace {sibling : NodeId}
    (split : forest.children parent = left ++ node :: sibling :: right) :
    forest.Placed (forest.placeComment node (some sibling) words) node parent left right
      (some sibling) words := by
  have splitSibling : forest.children parent = (left ++ [node]) ++ sibling :: right := by
    rw [split, List.append_assoc, List.singleton_append]
  have listed : sibling ∈ forest.children parent :=
    splitSibling ▸ List.mem_append_right _ List.mem_cons_self
  have old := wellFormed.lt_size listed
  have different : sibling ≠ forest.size := Nat.ne_of_lt old
  have found : (forest.add (.comment words)).1.indexOf? parent sibling
      = some (left ++ [node]).length := by
    rw [indexOf?, children_add]
    exact wellFormed.indexOf?_of_split splitSibling
  have list : ((left ++ [node]) ++ sibling :: right).set (left ++ [node]).length forest.size
      = left ++ node :: forest.size :: right := by
    rw [List.set_append_right _ _ (Nat.le_refl _), Nat.sub_self, List.set_cons_zero,
      List.append_assoc, List.singleton_append]
  have result : forest.placeComment node (some sibling) words
      = (forest.seat words parent (left ++ node :: forest.size :: right)).setParent sibling
          none := by
    change (forest.add (.comment words)).1.after
      (Edit.strokes (forest.add (.comment words)).1 (.replace sibling forest.size)) = _
    rw [Edit.strokes, if_neg different, parent?_add, wellFormed.parent?_of_split splitSibling]
    simp only [removal_add, after, List.foldl_nil, List.nil_append, found]
    rw [children_add, splitSibling, list]
    rfl
  have known : sibling
      < (forest.seat words parent (left ++ node :: forest.size :: right)).size := by
    rw [size_seat]
    exact Nat.lt_succ_of_lt old
  rw [result]
  refine ⟨split, ?_, fun id => ?_, fun id => ?_, fun id => ?_⟩
  · rw [size_setParent, size_seat]
  · rw [content?_setParent, content?_seat]
  · rw [parent?_setParent _ _ known, parent?_seat]
    by_cases gone : id = sibling
    · rw [if_pos gone, if_neg (gone ▸ different), if_pos (congrArg some gone.symm)]
    · rw [if_neg gone, if_neg fun same => gone (Option.some.inj same).symm]
  · rw [children_setParent, children_seat _ _ _ (forest.lt_size_of_mem_children parent listed)]

/-- **Placing a comment after a node does what `Placed` says.** -/
theorem placed_placeComment {sibling? : Option NodeId}
    (split : forest.children parent = left ++ node :: (sibling?.toList ++ right)) :
    forest.Placed (forest.placeComment node sibling? words) node parent left right sibling?
      words := by
  cases sibling? with
  | none => exact placed_insert wellFormed words split
  | some sibling => exact placed_replace wellFormed words split

end Strokes

/-! ## After a comment was placed -/

/-- The same comment placed at the same node makes alike forests of alike ones. -/
theorem Alike.placeComment {one other : Forest} (alike : one.Alike other)
    (wellFormed : other.WellFormed) {node parent : NodeId} {left right : List NodeId}
    {sibling? : Option NodeId}
    (split : other.children parent = left ++ node :: (sibling?.toList ++ right)) (words : Text) :
    (one.placeComment node sibling? words).Alike (other.placeComment node sibling? words) := by
  have splitOne := (congrFun alike.children parent).trans split
  have first := placed_placeComment (alike.wellFormed wellFormed) words splitOne
  have second := placed_placeComment wellFormed words split
  refine ⟨?_, funext fun id => ?_, funext fun id => ?_, fun id => ?_⟩
  · rw [first.size, second.size, alike.size]
  · rw [first.parent?, second.parent?, alike.size, alike.parent?]
  · rw [first.children, second.children, alike.size, alike.children]
  · rw [first.content?, second.content?, alike.size]
    split
    · rfl
    · exact alike.content? id

namespace Placed

variable {before after : Forest} {node parent : NodeId} {left right : List NodeId}
  {sibling? : Option NodeId} {words : Text}
  (placed : before.Placed after node parent left right sibling? words)
include placed

theorem node_mem : node ∈ before.children parent :=
  placed.split ▸ List.mem_append_right left List.mem_cons_self

theorem sibling_mem {sibling : NodeId} (given : sibling? = some sibling) :
    sibling ∈ before.children parent := by
  rw [placed.split, given]
  simp

/-- The siblings after the placement are those before it, apart from the new one and
the one that gave way. -/
theorem mem_siblings_iff (wellFormed : before.WellFormed) {id : NodeId} (old : id ≠ before.size) :
    id ∈ left ++ node :: before.size :: right ↔
      id ∈ before.children parent ∧ sibling? ≠ some id := by
  have distinct := wellFormed.nodup_children parent
  rw [placed.split] at distinct ⊢
  cases sibling? with
  | none => simp [old]
  | some sibling =>
    simp only [Option.toList_some, List.singleton_append, List.nodup_append, List.nodup_cons,
      List.mem_cons, not_or] at distinct
    obtain ⟨_, ⟨notNode, notRight, _⟩, apart⟩ := distinct
    simp only [List.mem_append, List.mem_cons, old, false_or, Option.toList_some,
      List.not_mem_nil, or_false, ne_eq, Option.some.injEq]
    constructor
    · rintro (inLeft | rfl | inRight)
      · exact ⟨.inl inLeft, fun same => apart id inLeft id (.inr (.inl same.symm)) rfl⟩
      · exact ⟨.inr (.inl rfl), fun same => notNode.1 same.symm⟩
      · exact ⟨.inr (.inr (.inr inRight)), fun same => notRight (same ▸ inRight)⟩
    · rintro ⟨inLeft | rfl | rfl | inRight, different⟩
      · exact .inl inLeft
      · exact .inr (.inl rfl)
      · exact absurd rfl different
      · exact .inr (.inr inRight)

theorem wellFormed (wellFormed : before.WellFormed) : after.WellFormed where
  mem_children_iff id child := by
    rw [placed.children, placed.parent?]
    by_cases new : child = before.size
    · have loose : ∀ parent, child ∉ before.children parent := fun parent listed =>
        Nat.ne_of_lt (wellFormed.lt_size listed) new
      rw [if_pos new]
      by_cases here : id = parent
      · rw [if_pos here, here, new]
        simp
      · rw [if_neg here]
        exact ⟨fun listed => absurd listed (loose id), fun same =>
          absurd (Option.some.inj same).symm here⟩
    · rw [if_neg new]
      by_cases here : id = parent
      · rw [if_pos here, here, placed.mem_siblings_iff wellFormed new,
          wellFormed.mem_children_iff]
        by_cases gone : sibling? = some child
        · simp [gone]
        · simp [gone]
      · rw [if_neg here, wellFormed.mem_children_iff]
        by_cases gone : sibling? = some child
        · have place := wellFormed.parent?_of_mem (placed.sibling_mem gone)
          rw [if_pos gone, place]
          exact ⟨fun same => absurd (Option.some.inj same).symm here, fun same => by cases same⟩
        · rw [if_neg gone]
  nodup_children id := by
    rw [placed.children]
    split
    · have distinct := wellFormed.nodup_children parent
      have loose : before.size ∉ before.children parent := fun listed =>
        Nat.lt_irrefl _ (wellFormed.lt_size listed)
      rw [placed.split] at distinct loose
      have fewer : (left ++ node :: right).Sublist (left ++ node :: (sibling?.toList ++ right)) :=
        ((List.sublist_append_right _ _).cons_cons node).append_left left
      have swap : ((left ++ [node]) ++ before.size :: right).Perm
          (before.size :: ((left ++ [node]) ++ right)) := List.perm_middle
      rw [List.append_assoc, List.append_assoc, List.singleton_append,
        List.singleton_append] at swap
      refine swap.nodup_iff.mpr (List.nodup_cons.mpr ⟨?_, distinct.sublist fewer⟩)
      exact fun listed => loose (fewer.subset listed)
    · exact wellFormed.nodup_children id

theorem text? (id : NodeId) : after.text? id = before.text? id := by
  rw [Forest.text?, Forest.text?, placed.content?]
  split
  · next new =>
    rw [new, before.content?_eq_none_of_size_le _ (Nat.le_refl _)]
    rfl
  · rfl

theorem comment? (id : NodeId) :
    after.comment? id = if id = before.size then some words else before.comment? id := by
  rw [Forest.comment?, placed.content?]
  split <;> rfl

theorem graded {height : NodeId → Nat} (wellFormed : before.WellFormed)
    (graded : before.Graded height) :
    after.Graded fun id => if id = before.size then 0 else height id where
  falls id child listed := by
    have known : id ≠ before.size := by
      intro new
      rw [placed.children, if_neg, before.children_eq_nil_of_size_le id (Nat.le_of_eq new.symm)]
        at listed
      · exact absurd listed List.not_mem_nil
      · have bound := before.lt_size_of_mem_children parent placed.node_mem
        exact fun same => Nat.ne_of_lt bound (same.symm.trans new)
    rw [if_neg known]
    rw [placed.children] at listed
    split at listed
    · next here =>
      have lower := graded.falls parent node placed.node_mem
      by_cases new : child = before.size
      · rw [if_pos new, here]
        omega
      · rw [if_neg new, here]
        exact graded.falls parent child ((placed.mem_siblings_iff wellFormed new).mp listed).1
    · rw [if_neg (Nat.ne_of_lt (wellFormed.lt_size listed))]
      exact graded.falls id child listed
  le_size id := by
    rw [placed.size]
    split
    · exact Nat.zero_le _
    · exact Nat.le_succ_of_le (graded.le_size id)

/-- **An orderly forest stays orderly.** -/
theorem orderly (orderly : before.Orderly) : after.Orderly where
  wellFormed := placed.wellFormed orderly.wellFormed
  acyclic := by
    obtain ⟨height, graded⟩ := orderly.exists_graded
    exact (placed.graded orderly.wellFormed graded).acyclic (placed.wellFormed orderly.wellFormed)
  childless id isComment := by
    have occupied := placed.node_mem
    have bound := before.lt_size_of_mem_children parent occupied
    rw [placed.comment?] at isComment
    rw [placed.children]
    by_cases new : id = before.size
    · rw [if_neg fun same => Nat.ne_of_lt bound (same.symm.trans new)]
      exact before.children_eq_nil_of_size_le id (Nat.le_of_eq new.symm)
    · rw [if_neg new] at isComment
      have empty := orderly.childless id isComment
      rw [if_neg, empty]
      rintro rfl
      rw [empty] at occupied
      exact absurd occupied List.not_mem_nil

/-! ### Text nodes -/

/-- What a walk collects below a node does not depend on the new comment and the one
that gave way, if nothing is collected at either. -/
theorem flatMap_children {walk walkAfter : NodeId → List NodeId}
    (new : walkAfter before.size = [])
    (gone : ∀ sibling, sibling? = some sibling → walk sibling = [])
    (wellFormed : before.WellFormed)
    (same : ∀ id, id ≠ before.size → walkAfter id = walk id) (id : NodeId) :
    (after.children id).flatMap walkAfter = (before.children id).flatMap walk := by
  have agree : ∀ ids : List NodeId, (∀ id ∈ ids, id ∈ before.children parent) →
      ids.flatMap walkAfter = ids.flatMap walk := fun ids listed =>
    List.flatMap_congr fun id here =>
      same id (Nat.ne_of_lt (wellFormed.lt_size (listed id here)))
  rw [placed.children]
  split
  · next here =>
    have split := placed.split
    have sibling : sibling?.toList.flatMap walk = [] := by
      cases given : sibling? with
      | none => rfl
      | some sibling => simp [gone sibling given]
    have inLeft := agree left fun id listed => by simp [split, listed]
    have inRight := agree right fun id listed => by simp [split, listed]
    have atNode := same node (Nat.ne_of_lt (wellFormed.lt_size placed.node_mem))
    rw [here, split]
    simp only [List.flatMap_append, List.flatMap_cons, new, sibling, List.nil_append, inLeft,
      inRight, atNode]
  · exact List.flatMap_congr fun child listed =>
      same child (Nat.ne_of_lt (wellFormed.lt_size listed))

variable (isComment : ∀ sibling, sibling? = some sibling → (before.comment? sibling).isSome)
include isComment

/-- **The text nodes of every subtree stay the same, in the same order.** -/
theorem textNodes (orderly : before.Orderly) (top : NodeId) :
    after.textNodes top = before.textNodes top := by
  have fresh : (after.comment? before.size).isSome := by
    rw [placed.comment?, if_pos rfl]
    rfl
  have within : ∀ fuel id, id ≠ before.size →
      after.textNodesWithin fuel id = before.textNodesWithin fuel id := by
    intro fuel
    induction fuel with
    | zero => exact fun _ _ => rfl
    | succ fuel ih =>
      intro id _
      rw [textNodesWithin, textNodesWithin, placed.text?]
      split
      · rfl
      · exact placed.flatMap_children
          ((placed.orderly orderly).textNodesWithin_of_comment? fresh fuel)
          (fun sibling given => orderly.textNodesWithin_of_comment? (isComment sibling given) fuel)
          orderly.wellFormed ih id
  rw [← (placed.orderly orderly).textNodes_eq (Nat.le_refl _), placed.size,
    ← orderly.textNodes_eq (Nat.le_succ _)]
  exact placed.flatMap_children ((placed.orderly orderly).textNodesWithin_of_comment? fresh _)
    (fun sibling given => orderly.textNodesWithin_of_comment? (isComment sibling given) _)
    orderly.wellFormed (within _) top

omit isComment

/-! ### Next siblings -/

theorem nextSibling?_node (wellFormed : before.WellFormed) :
    after.nextSibling? node = some before.size := by
  have split : after.children parent = left ++ node :: before.size :: right := by
    rw [placed.children, if_pos rfl]
  rw [(placed.wellFormed wellFormed).nextSibling?_of_split split, List.head?_cons]

/-- Any other node has the sibling after it that it had. -/
theorem nextSibling?_of_ne (wellFormed : before.WellFormed) {id : NodeId} (different : id ≠ node)
    (old : id ≠ before.size) (stays : sibling? ≠ some id) :
    after.nextSibling? id = before.nextSibling? id := by
  have kept : after.parent? id = before.parent? id := by
    rw [placed.parent?, if_neg old, if_neg stays]
  by_cases here : before.parent? id = some parent
  · have split : after.children parent = left ++ node :: before.size :: right := by
      rw [placed.children, if_pos rfl]
    have listed : id ∈ left ++ node :: before.size :: right :=
      (placed.mem_siblings_iff wellFormed old).mpr ⟨wellFormed.mem_of_parent? here, stays⟩
    simp only [List.mem_append, List.mem_cons, different, old, false_or] at listed
    rcases listed with inLeft | inRight
    · exact (placed.wellFormed wellFormed).nextSibling?_of_mem_left wellFormed inLeft split
        placed.split
    · obtain ⟨front, back, same⟩ := List.append_of_mem inRight
      have afterwards : after.children parent
          = (left ++ node :: before.size :: front) ++ id :: back := by
        rw [split, same]
        simp
      have beforehand : before.children parent
          = (left ++ node :: (sibling?.toList ++ front)) ++ id :: back := by
        rw [placed.split, same]
        simp
      rw [(placed.wellFormed wellFormed).nextSibling?_of_split afterwards,
        wellFormed.nextSibling?_of_split beforehand]
  · unfold nextSibling? indexOf?
    rw [kept]
    cases above : before.parent? id with
    | none => rfl
    | some parent' =>
      have elsewhere : parent' ≠ parent := fun same => here (same ▸ above)
      simp only [placed.children, if_neg elsewhere]

end Placed

end Polyglot.Forest
