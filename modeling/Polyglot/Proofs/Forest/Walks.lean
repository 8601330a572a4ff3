import Mathlib.Data.List.Nodup
import Mathlib.Data.List.Perm.Subperm
import Mathlib.Logic.Relation
import Polyglot.Proofs.Forest.Lookups

/-!
# Walks in forests without cycles

A forest is orderly if parents and children agree, no node stands above itself, and
comments have nothing below them. Cycles are excluded by way of the lineage, which
is bounded; this amounts to there being a height that falls from every node to its
children (`acyclic_iff_graded`), and heights are what the facts about subtrees are
proved with.

In an orderly forest the bound on walks downwards does not matter, and wherever there are
no cycles a walk finds each text node once (`Acyclic.nodup_textNodes`).
-/

set_option autoImplicit false

namespace Polyglot.Forest

/-- No node stands above itself. -/
def Acyclic (forest : Forest) : Prop :=
  ∀ id, (forest.lineage id).Nodup

/-- A height that falls from every node to its children. -/
structure Graded (forest : Forest) (height : NodeId → Nat) : Prop where
  falls : ∀ parent child, child ∈ forest.children parent → height child < height parent
  le_size : ∀ id, height id ≤ forest.size

/-- A forest as documents have it. -/
structure Orderly (forest : Forest) : Prop where
  wellFormed : forest.WellFormed
  acyclic : forest.Acyclic
  /-- Comments have nothing below them. -/
  childless : ∀ id, (forest.comment? id).isSome → forest.children id = []

/-! ## Lineages -/

section Lineage

variable {forest : Forest} {height : NodeId → Nat}

/-- The first of a lineage is the node itself; the others are parents. -/
theorem lt_size_of_mem_lineageWithin (wellFormed : forest.WellFormed) (fuel : Nat) :
    ∀ id, id < forest.size → ∀ above ∈ forest.lineageWithin fuel id, above < forest.size := by
  induction fuel with
  | zero =>
    intro id known above listed
    exact absurd listed List.not_mem_nil
  | succ fuel ih =>
    intro id known above listed
    rw [lineageWithin] at listed
    cases found : forest.parent? id with
    | none =>
      simp only [found, List.mem_singleton] at listed
      exact listed ▸ known
    | some parent =>
      simp only [found, List.mem_cons] at listed
      rcases listed with rfl | listed
      · exact known
      · have bound := forest.lt_size_of_mem_children parent (wellFormed.mem_of_parent? found)
        exact ih parent bound above listed

/-- A lineage that ends before the bound is the same for a greater one. -/
theorem lineageWithin_succ (fuel : Nat) :
    ∀ id, (forest.lineageWithin fuel id).length < fuel →
      forest.lineageWithin (fuel + 1) id = forest.lineageWithin fuel id := by
  induction fuel with
  | zero =>
    intro id short
    exact absurd short (Nat.not_lt_zero _)
  | succ fuel ih =>
    intro id short
    rw [lineageWithin, lineageWithin]
    rw [lineageWithin] at short
    cases found : forest.parent? id with
    | none => rfl
    | some parent =>
      simp only [found, List.length_cons] at short
      simp only [ih parent (Nat.lt_of_succ_lt_succ short)]

/-- A list of nodes without repetition is no longer than the forest. -/
theorem length_le_size {ids : List NodeId} (distinct : ids.Nodup)
    (known : ∀ id ∈ ids, id < forest.size) : ids.length ≤ forest.size := by
  have within : ids ⊆ List.range forest.size :=
    fun id listed => List.mem_range.mpr (known id listed)
  have shorter := (List.subperm_of_subset distinct within).length_le
  rwa [List.length_range] at shorter

/-- The lineage of a node is the node and the lineage of its parent. -/
theorem lineage_of_parent? (wellFormed : forest.WellFormed) (acyclic : forest.Acyclic)
    {parent child : NodeId} (found : forest.parent? child = some parent) :
    forest.lineage child = child :: forest.lineage parent := by
  have distinct := acyclic child
  have known := lt_size_of_mem_lineageWithin wellFormed (forest.size + 1) child
    (forest.lt_size_of_parent? child found)
  have step : forest.lineage child = child :: forest.lineageWithin forest.size parent := by
    rw [lineage, lineageWithin, found]
  have short : (forest.lineage child).length ≤ forest.size := length_le_size distinct known
  rw [step, List.length_cons] at short
  rw [step, lineage, lineageWithin_succ forest.size parent short]

/-- The more nodes stand above a node, the lower it is. -/
theorem Acyclic.graded (wellFormed : forest.WellFormed) (acyclic : forest.Acyclic) :
    forest.Graded fun id => forest.size + 1 - (forest.lineage id).length where
  falls parent child listed := by
    have found := wellFormed.parent?_of_mem listed
    have known := lt_size_of_mem_lineageWithin wellFormed (forest.size + 1) child
      (forest.lt_size_of_parent? child found)
    have short : (forest.lineage child).length ≤ forest.size :=
      length_le_size (acyclic child) known
    rw [lineage_of_parent? wellFormed acyclic found, List.length_cons] at short ⊢
    omega
  le_size id := by
    have first : 0 < (forest.lineage id).length := by
      rw [lineage, lineageWithin, List.length_cons]
      exact Nat.succ_pos _
    omega

section Falls

variable (height) (wellFormed : forest.WellFormed)
  (falls : ∀ parent child, child ∈ forest.children parent → height child < height parent)
include wellFormed falls

theorem le_height_of_mem_lineageWithin (fuel : Nat) :
    ∀ id, ∀ above ∈ forest.lineageWithin fuel id, height id ≤ height above := by
  induction fuel with
  | zero =>
    intro id above listed
    exact absurd listed List.not_mem_nil
  | succ fuel ih =>
    intro id above listed
    rw [lineageWithin] at listed
    cases found : forest.parent? id with
    | none =>
      simp only [found, List.mem_singleton] at listed
      exact listed ▸ Nat.le_refl _
    | some parent =>
      simp only [found, List.mem_cons] at listed
      rcases listed with rfl | listed
      · exact Nat.le_refl _
      · have higher := falls parent id (wellFormed.mem_of_parent? found)
        have further := ih parent above listed
        omega

/-- There are no cycles where something falls from every node to its children. -/
theorem acyclic_of_falls : forest.Acyclic := by
  suffices distinct : ∀ fuel id, (forest.lineageWithin fuel id).Nodup from
    fun id => distinct _ id
  intro fuel
  induction fuel with
  | zero => exact fun _ => List.nodup_nil
  | succ fuel ih =>
    intro id
    rw [lineageWithin]
    cases found : forest.parent? id with
    | none => exact List.nodup_singleton id
    | some parent =>
      refine List.nodup_cons.mpr ⟨fun again => ?_, ih parent⟩
      have higher := falls parent id (wellFormed.mem_of_parent? found)
      have further := le_height_of_mem_lineageWithin height wellFormed falls fuel parent id again
      omega

end Falls

theorem Graded.acyclic (wellFormed : forest.WellFormed) (graded : forest.Graded height) :
    forest.Acyclic :=
  acyclic_of_falls height wellFormed graded.falls

/-- There are no cycles if and only if there is a height. -/
theorem acyclic_iff_graded (wellFormed : forest.WellFormed) :
    forest.Acyclic ↔ ∃ height, forest.Graded height :=
  ⟨fun acyclic => ⟨_, acyclic.graded wellFormed⟩,
    fun ⟨_, graded⟩ => graded.acyclic wellFormed⟩

theorem Orderly.exists_graded (orderly : forest.Orderly) : ∃ height, forest.Graded height :=
  (acyclic_iff_graded orderly.wellFormed).mp orderly.acyclic

end Lineage

/-! ## Whether a forest is orderly -/

/-- What an orderly forest is at one node. -/
abbrev OrderlyAt (forest : Forest) (id : NodeId) : Prop :=
  (∀ child ∈ forest.children id, forest.parent? child = some id) ∧
    (∀ parent ∈ forest.parent? id, id ∈ forest.children parent) ∧
    (forest.children id).Nodup ∧ (forest.lineage id).Nodup ∧
    ((forest.comment? id).isSome → forest.children id = [])

/-- Only nodes that are there have to be looked at. -/
theorem orderly_iff (forest : Forest) :
    forest.Orderly ↔ ∀ id < forest.size, forest.OrderlyAt id := by
  constructor
  · intro orderly id _
    exact ⟨fun child listed => orderly.wellFormed.parent?_of_mem listed,
      fun parent found => orderly.wellFormed.mem_of_parent? found,
      orderly.wellFormed.nodup_children id, orderly.acyclic id, orderly.childless id⟩
  · intro each
    have beyond : ∀ id, ¬ id < forest.size → forest.children id = [] := fun id high =>
      forest.children_eq_nil_of_size_le id (Nat.le_of_not_lt high)
    refine ⟨⟨fun parent child => ⟨fun listed => ?_, fun found => ?_⟩, fun parent => ?_⟩,
      fun id => ?_, fun id isComment => ?_⟩
    · exact (each parent (forest.lt_size_of_mem_children parent listed)).1 child listed
    · exact (each child (forest.lt_size_of_parent? child found)).2.1 parent found
    · by_cases known : parent < forest.size
      · exact (each parent known).2.2.1
      · rw [beyond parent known]
        exact List.nodup_nil
    · by_cases known : id < forest.size
      · exact (each id known).2.2.2.1
      · rw [lineage, lineageWithin,
          forest.parent?_eq_none_of_size_le id (Nat.le_of_not_lt known)]
        exact List.nodup_singleton id
    · by_cases known : id < forest.size
      · exact (each id known).2.2.2.2 isComment
      · exact beyond id known

instance (forest : Forest) : Decidable forest.Orderly :=
  decidable_of_iff _ forest.orderly_iff.symm

/-! ## Text nodes -/

section TextNodes

variable {forest : Forest} {height : NodeId → Nat}

/-- A bound above the height of a node is as good as any greater one. -/
theorem Graded.textNodesWithin_eq (graded : forest.Graded height) (fuel : Nat) :
    ∀ id more, height id < fuel → fuel ≤ more →
      forest.textNodesWithin more id = forest.textNodesWithin fuel id := by
  induction fuel with
  | zero =>
    intro id more high
    exact absurd high (Nat.not_lt_zero _)
  | succ fuel ih =>
    intro id more high greater
    obtain ⟨more, rfl⟩ := Nat.exists_eq_add_one_of_ne_zero (Nat.ne_of_gt (Nat.lt_of_lt_of_le
      (Nat.succ_pos fuel) greater))
    rw [textNodesWithin, textNodesWithin]
    split
    · rfl
    · refine List.flatMap_congr fun child listed => ?_
      have lower := graded.falls id child listed
      exact ih child more (by omega) (by omega)

theorem Orderly.textNodes_eq (orderly : forest.Orderly) {fuel : Nat} (enough : forest.size ≤ fuel)
    (top : NodeId) :
    (forest.children top).flatMap (forest.textNodesWithin fuel) = forest.textNodes top := by
  obtain ⟨height, graded⟩ := orderly.exists_graded
  refine List.flatMap_congr fun child listed => ?_
  have lower := graded.falls top child listed
  have bound := graded.le_size top
  exact graded.textNodesWithin_eq forest.size child fuel (by omega) enough

/-- A comment is no text. -/
theorem text?_eq_none_of_comment? {id : NodeId} (isComment : (forest.comment? id).isSome) :
    forest.text? id = none := by
  rw [comment?] at isComment
  rw [text?]
  cases here : forest.content? id with
  | none => rfl
  | some content =>
    rw [here] at isComment
    cases content <;> first | rfl | cases isComment

/-- Nothing is found at a comment. -/
theorem Orderly.textNodesWithin_of_comment? (orderly : forest.Orderly) {id : NodeId}
    (isComment : (forest.comment? id).isSome) (fuel : Nat) :
    forest.textNodesWithin fuel id = [] := by
  cases fuel with
  | zero => rfl
  | succ fuel =>
    rw [textNodesWithin, text?_eq_none_of_comment? isComment, orderly.childless id isComment]
    rfl

/-- One node can be reached from another by going from node to parent. -/
abbrev Climbs (forest : Forest) : NodeId → NodeId → Prop :=
  Relation.ReflTransGen fun id above => forest.parent? id = some above

theorem Graded.le_height_of_climbs (wellFormed : forest.WellFormed)
    (graded : forest.Graded height) {id above : NodeId} (climbs : forest.Climbs id above) :
    height id ≤ height above := by
  induction climbs with
  | refl => exact Nat.le_refl _
  | tail _ found ih =>
    have higher := graded.falls _ _ (wellFormed.mem_of_parent? found)
    omega

/-- From no node can one climb to two children of one node. -/
theorem Graded.eq_of_climbs (wellFormed : forest.WellFormed) (graded : forest.Graded height)
    {id parent first second : NodeId} (toFirst : forest.Climbs id first)
    (toSecond : forest.Climbs id second) (childFirst : first ∈ forest.children parent)
    (childSecond : second ∈ forest.children parent) : first = second := by
  -- A climb from one of them to the other would pass through their parent.
  have apart : ∀ {one other : NodeId}, one ∈ forest.children parent →
      other ∈ forest.children parent → forest.Climbs one other → one = other := by
    intro one other childOne childOther climbs
    rcases climbs.cases_head with same | ⟨above, found, climbs⟩
    · exact same
    · have same := (wellFormed.parent?_of_mem childOne).symm.trans found
      cases same
      have higher := graded.le_height_of_climbs wellFormed climbs
      have lower := graded.falls parent other childOther
      omega
  have unique : Relator.RightUnique fun id above => forest.parent? id = some above :=
    fun _ _ _ one other => Option.some.inj (one.symm.trans other)
  rcases Relation.ReflTransGen.total_of_right_unique unique toFirst toSecond with up | up
  · exact apart childFirst childSecond up
  · exact (apart childSecond childFirst up).symm

theorem climbs_of_mem_textNodesWithin (wellFormed : forest.WellFormed) (fuel : Nat) :
    ∀ id, ∀ node ∈ forest.textNodesWithin fuel id, forest.Climbs node id := by
  induction fuel with
  | zero =>
    intro id node listed
    exact absurd listed List.not_mem_nil
  | succ fuel ih =>
    intro id node listed
    rw [textNodesWithin] at listed
    split at listed
    · rw [List.mem_singleton.mp listed]
    · obtain ⟨child, childOf, listed⟩ := List.mem_flatMap.mp listed
      exact (ih child node listed).tail (wellFormed.parent?_of_mem childOf)

/-- A walk over subtrees of siblings finds each node once if each walk over one of
them does. -/
theorem Graded.nodup_flatMap_children (wellFormed : forest.WellFormed)
    (graded : forest.Graded height) (fuel : Nat) (id : NodeId)
    (each : ∀ child ∈ forest.children id, (forest.textNodesWithin fuel child).Nodup) :
    ((forest.children id).flatMap (forest.textNodesWithin fuel)).Nodup := by
  refine List.nodup_flatMap.mpr ⟨each, ?_⟩
  refine (wellFormed.nodup_children id).pairwise_of_forall_ne fun one childOne other childOther
    different => ?_
  intro node inOne inOther
  exact different (graded.eq_of_climbs wellFormed
    (climbs_of_mem_textNodesWithin wellFormed fuel one node inOne)
    (climbs_of_mem_textNodesWithin wellFormed fuel other node inOther) childOne childOther)

theorem Graded.nodup_textNodesWithin (wellFormed : forest.WellFormed)
    (graded : forest.Graded height) (fuel : Nat) :
    ∀ id, (forest.textNodesWithin fuel id).Nodup := by
  induction fuel with
  | zero => exact fun _ => List.nodup_nil
  | succ fuel ih =>
    intro id
    rw [textNodesWithin]
    split
    · exact List.nodup_singleton id
    · exact graded.nodup_flatMap_children wellFormed fuel id fun child _ => ih child

/-- **Each text node below a node is listed once.** -/
theorem Acyclic.nodup_textNodes (acyclic : forest.Acyclic) (wellFormed : forest.WellFormed)
    (top : NodeId) : (forest.textNodes top).Nodup := by
  have graded := acyclic.graded wellFormed
  exact graded.nodup_flatMap_children wellFormed forest.size top fun child _ =>
    graded.nodup_textNodesWithin wellFormed forest.size child

theorem Orderly.nodup_textNodes (orderly : forest.Orderly) (top : NodeId) :
    (forest.textNodes top).Nodup :=
  orderly.acyclic.nodup_textNodes orderly.wellFormed top

/-- What is listed in a walk is a text and is the topmost node or somebody's child. -/
theorem text_of_mem_textNodesWithin (fuel : Nat) :
    ∀ id, ∀ node ∈ forest.textNodesWithin fuel id,
      (forest.text? node).isSome ∧ (node = id ∨ ∃ parent, node ∈ forest.children parent) := by
  induction fuel with
  | zero =>
    intro id node listed
    exact absurd listed List.not_mem_nil
  | succ fuel ih =>
    intro id node listed
    rw [textNodesWithin] at listed
    split at listed
    · next isText =>
      rw [List.mem_singleton.mp listed]
      exact ⟨isText, .inl rfl⟩
    · obtain ⟨child, childOf, listed⟩ := List.mem_flatMap.mp listed
      obtain ⟨isText, place⟩ := ih child node listed
      refine ⟨isText, .inr ?_⟩
      rcases place with rfl | place
      · exact ⟨id, childOf⟩
      · exact place

theorem text_of_mem_textNodes {top node : NodeId} (listed : node ∈ forest.textNodes top) :
    (∃ text, forest.text? node = some text) ∧ ∃ parent, node ∈ forest.children parent := by
  obtain ⟨child, childOf, listed⟩ := List.mem_flatMap.mp listed
  obtain ⟨isText, place⟩ := text_of_mem_textNodesWithin forest.size child node listed
  refine ⟨Option.isSome_iff_exists.mp isText, ?_⟩
  rcases place with rfl | place
  · exact ⟨top, childOf⟩
  · exact place

end TextNodes

end Polyglot.Forest
