import Polyglot.Proofs.Forest.Grafting
import Polyglot.Proofs.Forest.Renumbering
import Polyglot.Proofs.Localizer.CarriersAgree
import Polyglot.Proofs.Localizer.Visits

/-!
# Texts in another order

It does not matter in which order the texts of a pass are visited. What becomes of a text is
seen from the forest before the pass, whatever was visited before it: nothing but the text
itself gets other words, and the comment that it finds after it gives way to none but its
own. So the forest after several visits can be described without saying in which order they
were made (`Toured`). Every text that was visited has the words that it was to get, and every
list of children is the one before the pass, with a new comment after each text whose
directives have moved and without the comments that gave way (`seats`). The order shows in
the numbers of the new comments only.

`Toured.snoc` is the step of one more visit, and `Localizer.toured_visits` the pass. Two
orders therefore lead to forests that differ in the numbers of new comments at most, and to
the same counts (`Localizer.localizeTree_perm`).
-/

set_option autoImplicit false

namespace Polyglot

namespace Forest

/-! ## The forest after several visits -/

/-- The directives of a text that are to move after it. -/
def movingTail? (forest : Forest) (node : NodeId) : Option Text :=
  (forest.reading? node).bind Reading.tail?

/-- The texts, of those that are visited, whose directives are to move. -/
def movers (forest : Forest) (nodes : List NodeId) : List NodeId :=
  nodes.filter fun node => (forest.movingTail? node).isSome

/-- What a text is to be. -/
def becomes? (forest : Forest) (counterpart? : Text → Option Text) (node : NodeId) : Option Text :=
  (forest.reading? node).map fun reading => (reading.localized counterpart?).1

/-- What stands in the place of a node after some directives have moved: a text with its new
comment after it, nothing where a comment gave way, and otherwise the node itself. -/
def seats (forest : Forest) (movers : List NodeId) (id : NodeId) : List NodeId :=
  if id ∈ movers then [id, forest.size + movers.idxOf id]
  else if some id ∈ movers.map (Localizer.carrier? forest) then []
  else [id]

/-- A forest in which texts of another one have been visited. -/
structure Toured (original : Forest) (counterpart? : Text → Option Text) (nodes : List NodeId)
    (forest : Forest) : Prop where
  wellFormed : forest.WellFormed
  isText : ∀ node ∈ nodes, (original.text? node).isSome
  /-- There is one new node for each text whose directives have moved. -/
  size : forest.size = original.size + (original.movers nodes).length
  content? : ∀ id < original.size, forest.content? id =
    if id ∈ nodes then (original.becomes? counterpart? id).map Content.text
    else original.content? id
  /-- New comments have the directives that have moved, in the order of the visits. -/
  comments : ∀ index, forest.content? (original.size + index) =
    ((original.movers nodes)[index]?.bind original.movingTail?).map Content.comment
  children : ∀ id, forest.children id =
    (original.children id).flatMap (original.seats (original.movers nodes))

section Seats

variable {original : Forest} {movers : List NodeId} {node id : NodeId}

theorem mem_movers {nodes : List NodeId} :
    node ∈ original.movers nodes ↔ node ∈ nodes ∧ (original.movingTail? node).isSome := by
  rw [Forest.movers, List.mem_filter]

theorem movers_append (nodes more : List NodeId) :
    original.movers (nodes ++ more) = original.movers nodes ++ original.movers more :=
  List.filter_append ..

/-- Nothing has moved before the first visit. -/
theorem seats_nil (id : NodeId) : original.seats [] id = [id] := by
  rw [seats, if_neg List.not_mem_nil, List.map_nil, if_neg List.not_mem_nil]

/-- What neither moves nor gives way stays alone in its place. -/
theorem seats_of_not_mem (absent : id ∉ movers)
    (stays : ∀ mover ∈ movers, Localizer.carrier? original mover ≠ some id) :
    original.seats movers id = [id] := by
  rw [seats, if_neg absent, if_neg fun gone => ?_]
  obtain ⟨mover, listed, same⟩ := List.mem_map.mp gone
  exact stays mover listed same

/-- A node that does not give way is the first in its place. -/
theorem head?_seats (stays : ∀ mover ∈ movers, Localizer.carrier? original mover ≠ some id) :
    (original.seats movers id).head? = some id := by
  by_cases moves : id ∈ movers
  · rw [seats, if_pos moves, List.head?_cons]
  · rw [seats_of_not_mem moves stays, List.head?_cons]

/-- One more text whose directives move has its new comment after it. -/
theorem seats_snoc_self (fresh : node ∉ movers) :
    original.seats (movers ++ [node]) node = [node, original.size + movers.length] := by
  have place : (movers ++ [node]).idxOf node = movers.length := by
    rw [List.idxOf_append_of_notMem fresh, List.idxOf_cons_self, Nat.add_zero]
  rw [seats, if_pos (List.mem_append_right _ (List.mem_singleton_self node)), place]

/-- The comment after it is gone. -/
theorem seats_snoc_carrier (found : Localizer.carrier? original node = some id)
    (absent : id ∉ movers) (different : id ≠ node) :
    original.seats (movers ++ [node]) id = [] := by
  have other : id ∉ movers ++ [node] := by
    rw [List.mem_append, List.mem_singleton]
    exact not_or.mpr ⟨absent, different⟩
  rw [seats, if_neg other, if_pos]
  rw [List.map_append, List.mem_append, ← found]
  exact .inr (List.mem_singleton_self _)

/-- All else stays in its place. -/
theorem seats_snoc_of_ne (different : id ≠ node)
    (stays : Localizer.carrier? original node ≠ some id) :
    original.seats (movers ++ [node]) id = original.seats movers id := by
  have moves : id ∈ movers ++ [node] ↔ id ∈ movers := by
    simp only [List.mem_append, List.mem_singleton, different, or_false]
  have gone : some id ∈ (movers ++ [node]).map (Localizer.carrier? original) ↔
      some id ∈ movers.map (Localizer.carrier? original) := by
    simp only [List.map_append, List.map_cons, List.map_nil, List.mem_append, List.mem_singleton,
      Ne.symm stays, or_false]
  rw [seats, seats]
  by_cases listed : id ∈ movers
  · rw [if_pos listed, if_pos (moves.mpr listed), List.idxOf_append_of_mem listed]
  · rw [if_neg listed, if_neg (moves.not.mpr listed)]
    simp only [gone]

end Seats

section Toured

variable {original forest : Forest} {counterpart? : Text → Option Text} {nodes : List NodeId}
  {node parent : NodeId} {text : Text}

/-- A text can be read. -/
theorem exists_reading (spoken : original.text? node = some text) :
    ∃ reading, original.reading? node = some reading :=
  ⟨_, by rw [Forest.reading?, spoken, Option.map_some]⟩

theorem WellFormed.toured_nil (wellFormed : original.WellFormed)
    (counterpart? : Text → Option Text) : original.Toured counterpart? [] original where
  wellFormed := wellFormed
  isText _ listed := absurd listed List.not_mem_nil
  size := rfl
  content? _ _ := (if_neg List.not_mem_nil).symm
  comments _ := original.content?_eq_none_of_size_le _ (Nat.le_add_right ..)
  children id := by
    have alone : original.seats [] = fun id => [id] := funext fun id => seats_nil id
    rw [movers, List.filter_nil, alone, List.flatMap_singleton']

/-- Comments say what they said. -/
theorem Toured.comment? (toured : original.Toured counterpart? nodes forest) {id : NodeId}
    (old : id < original.size) : forest.comment? id = original.comment? id := by
  rw [Forest.comment?, toured.content? id old]
  split
  · next visited =>
    have isText := toured.isText id visited
    cases noted : original.comment? id with
    | none => cases original.becomes? counterpart? id <;> rfl
    | some comment =>
      rw [text?_eq_none_of_comment? (noted ▸ rfl)] at isText
      cases isText
  · rfl

/-- A text that has yet to be visited is alone in its place. -/
theorem seats_of_fresh (spoken : original.text? node = some text) (fresh : node ∉ nodes) :
    original.seats (original.movers nodes) node = [node] := by
  refine seats_of_not_mem (fun listed => fresh (mem_movers.mp listed).1) fun mover _ found => ?_
  rw [text?_eq_none_of_comment? (comment?_of_carrier? found)] at spoken
  cases spoken

/-- The sibling after a text gives way to the directives of that text only. -/
theorem WellFormed.carrier?_ne_of_fresh (wellFormed : original.WellFormed) (fresh : node ∉ nodes)
    {sibling : NodeId} (next : original.nextSibling? node = some sibling) :
    ∀ mover ∈ original.movers nodes, Localizer.carrier? original mover ≠ some sibling := by
  intro mover listed found
  have same := wellFormed.eq_of_nextSibling? (Option.filter_eq_some_iff.mp found).1 next
  exact fresh (same ▸ (mem_movers.mp listed).1)

/-- Visits of other texts leave what stands after a text. -/
theorem Toured.carrier? (toured : original.Toured counterpart? nodes forest)
    (wellFormed : original.WellFormed) (spoken : original.text? node = some text)
    (child : node ∈ original.children parent) (fresh : node ∉ nodes) :
    Localizer.carrier? forest node = Localizer.carrier? original node := by
  obtain ⟨left, rest, split⟩ := List.append_of_mem child
  have here : forest.children parent =
      left.flatMap (original.seats (original.movers nodes)) ++
        node :: rest.flatMap (original.seats (original.movers nodes)) := by
    rw [toured.children, split, List.flatMap_append, List.flatMap_cons,
      seats_of_fresh spoken fresh, List.singleton_append]
  have next : forest.nextSibling? node = original.nextSibling? node := by
    rw [toured.wellFormed.nextSibling?_of_split here, wellFormed.nextSibling?_of_split split]
    cases rest with
    | nil => rfl
    | cons sibling rest =>
      have stays := wellFormed.carrier?_ne_of_fresh fresh (wellFormed.nextSibling?_of_split split)
      rw [List.flatMap_cons, List.head?_append, head?_seats stays, Option.some_or,
        List.head?_cons]
  rw [Localizer.carrier?, Localizer.carrier?, next]
  cases sibling : original.nextSibling? node with
  | none => rfl
  | some id =>
    obtain ⟨_, listed⟩ := mem_of_nextSibling? sibling
    rw [Option.filter_some, Option.filter_some, toured.comment? (wellFormed.lt_size listed)]

/-- **A text that has yet to be visited reads as before.** -/
theorem Toured.reading? (toured : original.Toured counterpart? nodes forest)
    (wellFormed : original.WellFormed) (spoken : original.text? node = some text)
    (child : node ∈ original.children parent) (fresh : node ∉ nodes) :
    forest.reading? node = original.reading? node := by
  have carrier : forest.carrierText? node = original.carrierText? node := by
    rw [carrierText?, carrierText?, toured.carrier? wellFormed spoken child fresh]
    cases found : Localizer.carrier? original node with
    | none => rfl
    | some carrier =>
      obtain ⟨next, _⟩ := Option.filter_eq_some_iff.mp found
      obtain ⟨_, listed⟩ := mem_of_nextSibling? next
      exact toured.comment? (wellFormed.lt_size listed)
  have said : forest.text? node = original.text? node := by
    rw [Forest.text?, toured.content? node (original.lt_size_of_text? node spoken), if_neg fresh,
      Forest.text?]
  rw [Forest.reading?, Forest.reading?, carrier, said]

/-- Where a text stands that has yet to be visited. -/
theorem Toured.split (toured : original.Toured counterpart? nodes forest)
    (wellFormed : original.WellFormed) (spoken : original.text? node = some text)
    (fresh : node ∉ nodes) {left right : List NodeId}
    (split : original.children parent =
      left ++ node :: ((Localizer.carrier? original node).toList ++ right)) :
    forest.children parent = left.flatMap (original.seats (original.movers nodes)) ++
      node :: ((Localizer.carrier? original node).toList ++
        right.flatMap (original.seats (original.movers nodes))) := by
  have alone : (Localizer.carrier? original node).toList.flatMap
      (original.seats (original.movers nodes)) = (Localizer.carrier? original node).toList := by
    cases found : Localizer.carrier? original node with
    | none => rfl
    | some carrier =>
      have silent : carrier ∉ original.movers nodes := by
        intro listed
        have isText := toured.isText carrier (mem_movers.mp listed).1
        rw [text?_eq_none_of_comment? (comment?_of_carrier? found)] at isText
        cases isText
      have next := (Option.filter_eq_some_iff.mp found).1
      rw [Option.toList_some, List.flatMap_singleton,
        seats_of_not_mem silent (wellFormed.carrier?_ne_of_fresh fresh next)]
  rw [toured.children, split, List.flatMap_append, List.flatMap_cons, List.flatMap_append,
    seats_of_fresh spoken fresh, alone, List.singleton_append]

/-- What stands in the places of siblings once the directives of one more text have moved. -/
theorem WellFormed.flatMap_seats_snoc (wellFormed : original.WellFormed) {movers : List NodeId}
    (texts : ∀ mover ∈ movers, (original.text? mover).isSome)
    (isText : (original.text? node).isSome) (fresh : node ∉ movers)
    {left right : List NodeId} (split : original.children parent =
      left ++ node :: ((Localizer.carrier? original node).toList ++ right)) (id : NodeId) :
    (original.children id).flatMap (original.seats (movers ++ [node])) =
      if id = parent then
        left.flatMap (original.seats movers) ++
          node :: (original.size + movers.length) :: right.flatMap (original.seats movers)
      else (original.children id).flatMap (original.seats movers) := by
  have distinct := wellFormed.nodup_children parent
  have kept : ∀ ids : List NodeId, node ∉ ids →
      (∀ carrier ∈ ids, Localizer.carrier? original node ≠ some carrier) →
      ids.flatMap (original.seats (movers ++ [node])) = ids.flatMap (original.seats movers) :=
    fun ids absent stays => List.flatMap_congr fun id listed =>
      seats_snoc_of_ne (fun same => absent (same ▸ listed)) (stays id listed)
  have gone : (Localizer.carrier? original node).toList.flatMap
      (original.seats (movers ++ [node])) = [] := by
    cases found : Localizer.carrier? original node with
    | none => rfl
    | some carrier =>
      have noted := text?_eq_none_of_comment? (comment?_of_carrier? found)
      have silent : ∀ other, (original.text? other).isSome → carrier ≠ other := by
        rintro _ isText rfl
        rw [noted] at isText
        cases isText
      rw [Option.toList_some, List.flatMap_singleton, seats_snoc_carrier found
        (fun listed => silent carrier (texts carrier listed) rfl) (silent node isText)]
  by_cases here : id = parent
  · subst here
    rw [split] at distinct
    simp only [List.nodup_append, List.nodup_cons, List.mem_append, List.mem_cons,
      Option.mem_toList, not_or] at distinct
    obtain ⟨_, ⟨⟨_, notRight⟩, _, _, apartRight⟩, apartLeft⟩ := distinct
    rw [if_pos rfl, split, List.flatMap_append, List.flatMap_cons, List.flatMap_append, gone,
      seats_snoc_self fresh,
      kept left (fun listed => apartLeft node listed node (.inl rfl) rfl)
        (fun carrier listed found => apartLeft carrier listed carrier (.inr (.inl found)) rfl),
      kept right notRight (fun carrier listed found => apartRight carrier found carrier listed rfl)]
    rfl
  · have elsewhere : ∀ other ∈ original.children parent, other ∉ original.children id := by
      intro other listed again
      have above := (wellFormed.parent?_of_mem listed).symm.trans (wellFormed.parent?_of_mem again)
      exact here (Option.some.inj above).symm
    rw [if_neg here]
    refine kept _ (elsewhere node ?_) fun carrier listed found => elsewhere carrier ?_ listed
    · rw [split]
      exact List.mem_append_right _ List.mem_cons_self
    · rw [split, found]
      simp

theorem Toured.isText_snoc (toured : original.Toured counterpart? nodes forest)
    (spoken : original.text? node = some text) :
    ∀ visited ∈ nodes ++ [node], (original.text? visited).isSome := by
  intro visited listed
  rcases List.mem_append.mp listed with listed | listed
  · exact toured.isText visited listed
  · rw [List.mem_singleton.mp listed, spoken]
    rfl

/-- A visit gives the text its words, whatever else it does. -/
theorem Toured.content?_write (toured : original.Toured counterpart? nodes forest)
    {reading : Reading} (read : original.reading? node = some reading)
    (spoken : forest.text? node = some text) {id : NodeId} (old : id < original.size) :
    (forest.write node (reading.localized counterpart?).1).content? id =
      if id ∈ nodes ++ [node] then (original.becomes? counterpart? id).map Content.text
      else original.content? id := by
  rw [Forest.content?_write spoken, toured.content? id old]
  by_cases here : id = node
  · subst here
    rw [if_pos rfl, if_pos (List.mem_append_right _ (List.mem_singleton_self id)), becomes?, read,
      Option.map_some, Option.map_some]
  · simp only [List.mem_append, List.mem_singleton, here, or_false, if_false]

theorem Toured.comments_write (toured : original.Toured counterpart? nodes forest)
    (spoken : original.text? node = some text) {old words : Text}
    (spokenHere : forest.text? node = some old) (index : Nat) :
    (forest.write node words).content? (original.size + index) =
      ((original.movers nodes)[index]?.bind original.movingTail?).map Content.comment := by
  have beyond : original.size + index ≠ node := by
    have known := original.lt_size_of_text? node spoken
    exact fun same => Nat.not_lt.mpr (Nat.le_add_right _ index) (same ▸ known)
  rw [Forest.content?_write spokenHere, if_neg beyond, toured.comments]

section Step

variable (toured : original.Toured counterpart? nodes forest) (wellFormed : original.WellFormed)
  (spoken : original.text? node = some text) (child : node ∈ original.children parent)
  (fresh : node ∉ nodes)
include toured wellFormed spoken child fresh

/-- One more visit of a text that has nothing to be moved. -/
theorem Toured.snoc_of_stays (stays : original.movingTail? node = none) :
    original.Toured counterpart? (nodes ++ [node]) (forest.localize counterpart? node) := by
  obtain ⟨reading, read⟩ := exists_reading spoken
  have readHere := (toured.reading? wellFormed spoken child fresh).trans read
  obtain ⟨_, spokenHere, _⟩ := Option.map_eq_some_iff.mp readHere
  have alike := write_alike spokenHere (reading.localized counterpart?).1
  have movers : original.movers (nodes ++ [node]) = original.movers nodes := by
    rw [movers_append, Forest.movers, Forest.movers, List.filter_singleton, stays]
    exact List.append_nil _
  rw [movingTail?, read, Option.bind_some] at stays
  rw [localize_of_tail?_eq_none readHere stays]
  refine ⟨alike.wellFormed toured.wellFormed, toured.isText_snoc spoken, ?_, fun id old => ?_,
    fun index => ?_, fun id => ?_⟩
  · rw [alike.size, toured.size, movers]
  · exact toured.content?_write read spokenHere old
  · rw [toured.comments_write spoken spokenHere, movers]
  · rw [alike.children, toured.children, movers]

/-- One more visit of a text whose directives are to move. -/
theorem Toured.snoc_of_moves {words : Text} (moves : original.movingTail? node = some words) :
    original.Toured counterpart? (nodes ++ [node]) (forest.localize counterpart? node) := by
  obtain ⟨reading, read⟩ := exists_reading spoken
  have readHere := (toured.reading? wellFormed spoken child fresh).trans read
  obtain ⟨_, spokenHere, _⟩ := Option.map_eq_some_iff.mp readHere
  have alike := write_alike spokenHere (reading.localized counterpart?).1
  have movers : original.movers (nodes ++ [node]) = original.movers nodes ++ [node] := by
    rw [movers_append, Forest.movers, Forest.movers, List.filter_singleton, moves]
    rfl
  have tail := moves
  rw [movingTail?, read, Option.bind_some] at tail
  obtain ⟨left, right, split⟩ := wellFormed.exists_split child
  have splitHere := toured.split wellFormed spoken fresh split
  rw [← alike.children] at splitHere
  have placed := placed_placeComment (alike.wellFormed toured.wellFormed) words splitHere
  have size := alike.size.trans toured.size
  rw [localize_of_tail? readHere tail, toured.carrier? wellFormed spoken child fresh]
  refine ⟨placed.wellFormed (alike.wellFormed toured.wellFormed), toured.isText_snoc spoken, ?_,
    fun id old => ?_, fun index => ?_, fun id => ?_⟩
  · rw [placed.size, size, movers, List.length_append, List.length_singleton, Nat.add_assoc]
  · have known : id ≠ (forest.write node (reading.localized counterpart?).1).size := by
      rw [size]
      exact Nat.ne_of_lt (Nat.lt_of_lt_of_le old (Nat.le_add_right ..))
    rw [placed.content?, if_neg known]
    exact toured.content?_write read spokenHere old
  · rw [placed.content?, size, movers, toured.comments_write spoken spokenHere]
    by_cases last : index = (original.movers nodes).length
    · rw [if_pos (congrArg _ last), last, List.getElem?_concat_length, Option.bind_some, moves,
        Option.map_some]
    · have earlier : (original.movers nodes ++ [node])[index]? = (original.movers nodes)[index]? := by
        rcases Nat.lt_or_gt_of_ne last with before | beyond
        · rw [List.getElem?_append_left before]
        · rw [List.getElem?_eq_none (Nat.le_of_lt beyond), List.getElem?_eq_none]
          rw [List.length_append, List.length_singleton]
          exact beyond
      rw [if_neg fun same => last (Nat.add_left_cancel same), earlier]
  · have texts : ∀ mover ∈ original.movers nodes, (original.text? mover).isSome :=
      fun mover listed => toured.isText mover (mem_movers.mp listed).1
    rw [placed.children, alike.children, toured.children, movers, size,
      wellFormed.flatMap_seats_snoc texts (spoken ▸ rfl)
        (fun listed => fresh (mem_movers.mp listed).1) split]

/-- **One more visit.** -/
theorem Toured.snoc :
    original.Toured counterpart? (nodes ++ [node]) (forest.localize counterpart? node) := by
  cases moves : original.movingTail? node with
  | none => exact toured.snoc_of_stays wellFormed spoken child fresh moves
  | some words => exact toured.snoc_of_moves wellFormed spoken child fresh moves

end Step

/-! ## Two orders -/

/-- What stands in the place of a node does not depend on the order, but for numbers. -/
theorem map_seats {first second : List NodeId} (permuted : first.Perm second)
    (distinct : first.Nodup) {id : NodeId} (old : id < original.size) :
    (original.seats first id).map (renumbering original.size permuted distinct) =
      original.seats second id := by
  rw [seats, seats]
  by_cases moves : id ∈ first
  · rw [if_pos moves, if_pos (permuted.mem_iff.mp moves), List.map_cons, List.map_singleton,
      renumbering_of_lt permuted distinct old, renumbering_place permuted distinct moves]
  · rw [if_neg moves, if_neg (permuted.mem_iff.not.mp moves)]
    have gone := (permuted.map (Localizer.carrier? original)).mem_iff (a := some id)
    by_cases givesWay : some id ∈ first.map (Localizer.carrier? original)
    · rw [if_pos givesWay, if_pos (gone.mp givesWay), List.map_nil]
    · rw [if_neg givesWay, if_neg (gone.not.mp givesWay), List.map_singleton,
        renumbering_of_lt permuted distinct old]

/-- **Texts visited in two orders leave the same forest**, but for the numbers of new
comments. -/
theorem Toured.renumbered {one other : Forest} {first second : List NodeId}
    (touredOne : original.Toured counterpart? first one)
    (touredOther : original.Toured counterpart? second other) (wellFormed : original.WellFormed)
    (permuted : first.Perm second) (distinct : first.Nodup) :
    ∃ rename : Equiv.Perm NodeId, (∀ id < original.size, rename id = id) ∧
      Renumbered rename one other := by
  have permutedMovers : (original.movers first).Perm (original.movers second) := permuted.filter _
  have distinctMovers : (original.movers first).Nodup := distinct.filter _
  have fixes : ∀ id < original.size,
      renumbering original.size permutedMovers distinctMovers id = id := fun _ old =>
    renumbering_of_lt _ _ old
  refine ⟨_, fixes, .of_children touredOne.wellFormed touredOther.wellFormed ?_ (fun id => ?_)
    fun id => ?_⟩
  · rw [touredOne.size, touredOther.size, permutedMovers.length_eq]
  · by_cases old : id < original.size
    · rw [fixes id old, touredOne.content? id old, touredOther.content? id old]
      simp only [permuted.mem_iff]
    · obtain ⟨index, rfl⟩ := Nat.exists_eq_add_of_le (Nat.le_of_not_lt old)
      obtain ⟨there, goes, same⟩ :=
        getElem?_renumbering original.size permutedMovers distinctMovers index
      rw [goes, touredOne.comments, touredOther.comments, same]
  · rw [touredOne.children, touredOther.children]
    by_cases old : id < original.size
    · rw [fixes id old, List.map_flatMap]
      exact List.flatMap_congr fun child listed =>
        (map_seats permutedMovers distinctMovers (wellFormed.lt_size listed)).symm
    · obtain ⟨index, rfl⟩ := Nat.exists_eq_add_of_le (Nat.le_of_not_lt old)
      obtain ⟨there, goes, _⟩ :=
        getElem?_renumbering original.size permutedMovers distinctMovers index
      rw [goes, original.children_eq_nil_of_size_le _ (Nat.le_add_right ..),
        original.children_eq_nil_of_size_le _ (Nat.le_add_right ..)]
      rfl

end Toured

/-- A visit of a text, as it is seen from a forest. -/
def visitOf (forest : Forest) (counterpart? : Text → Option Text) (node : NodeId) : Visit :=
  ⟨node, (forest.reading? node).map fun reading => (reading.localized counterpart?).2⟩

end Forest

/-! ## Counts -/

namespace PassStats

/-- It does not matter in which order visits are counted. -/
instance : RightCommutative PassStats.record where
  right_comm stats one other := by
    rw [record, record, record, record]
    rcases one.outcome? with _ | _ | _ | _ <;> rcases other.outcome? with _ | _ | _ | _ <;> rfl

theorem counts_add (stats : PassStats) (outcome : Outcome) :
    (stats.add outcome).visited = stats.visited + 1 ∧
      (stats.add outcome).failed = stats.failed ∧
      (stats.add outcome).localized + (stats.add outcome).missed + (stats.add outcome).ignored =
        stats.localized + stats.missed + stats.ignored + 1 := by
  cases outcome <;> refine ⟨rfl, rfl, ?_⟩ <;> dsimp only [add] <;> omega

/-- Visits that succeed are counted as such. -/
theorem foldl_record {visits : List Visit} (done : ∀ visit ∈ visits, visit.outcome?.isSome) :
    ∀ stats : PassStats,
      (visits.foldl record stats).visited = stats.visited + visits.length ∧
        (visits.foldl record stats).failed = stats.failed ∧
        (visits.foldl record stats).localized + (visits.foldl record stats).missed +
            (visits.foldl record stats).ignored =
          stats.localized + stats.missed + stats.ignored + visits.length := by
  induction visits with
  | nil => exact fun _ => ⟨rfl, rfl, rfl⟩
  | cons visit rest ih =>
    intro stats
    obtain ⟨first, others⟩ := List.forall_mem_cons.mp done
    obtain ⟨outcome, became⟩ := Option.isSome_iff_exists.mp first
    obtain ⟨visited, failed, sum⟩ := ih others (stats.record visit)
    have counts : stats.record visit = stats.add outcome := by rw [record, became]
    obtain ⟨visitedFirst, failedFirst, sumFirst⟩ := stats.counts_add outcome
    rw [List.foldl_cons, List.length_cons, visited, failed, sum, counts]
    omega

end PassStats

/-! ## Passes -/

namespace Localizer

variable (localizer : Localizer) (source : Text)

/-- **Texts are visited as if each were the first one.** -/
theorem toured_visits {original : Forest} (wellFormed : original.WellFormed)
    (rest : List NodeId) (texts : ∀ node ∈ rest,
      (∃ text, original.text? node = some text) ∧ ∃ parent, node ∈ original.children parent) :
    ∀ (document : Document) (nodes : List NodeId),
      original.Toured (localizer.counterpart? source) nodes document.forest →
      (nodes ++ rest).Nodup →
      original.Toured (localizer.counterpart? source) (nodes ++ rest)
          (rest.foldl (localizer.visited source) document).forest ∧
        localizer.visits source document rest =
          rest.map (original.visitOf (localizer.counterpart? source)) := by
  induction rest with
  | nil =>
    intro document nodes toured _
    rw [List.append_nil]
    exact ⟨toured, rfl⟩
  | cons node rest ih =>
    intro document nodes toured distinct
    obtain ⟨⟨⟨text, spoken⟩, parent, child⟩, others⟩ := List.forall_mem_cons.mp texts
    have fresh : node ∉ nodes := fun listed =>
      (List.nodup_append.mp distinct).2.2 node listed node List.mem_cons_self rfl
    have visit : localizer.visitOf source document node =
        original.visitOf (localizer.counterpart? source) node := by
      have outcome := localizer.outcome?_visitOf source document node
      rw [toured.reading? wellFormed spoken child fresh] at outcome
      exact congrArg (Visit.mk node) outcome
    have next := toured.snoc wellFormed spoken child fresh
    rw [← localizer.forest_visited] at next
    rw [List.append_cons] at distinct ⊢
    obtain ⟨last, visits⟩ := ih others _ _ next distinct
    exact ⟨last, by rw [Localizer.visits, visits, visit, List.map_cons]⟩

/-- So it is when the texts below a node are visited, in whatever order. -/
theorem toured_of_perm {document : Document} {root : NodeId}
    (wellFormed : document.forest.WellFormed) (acyclic : document.forest.Acyclic)
    {order : List NodeId} (permuted : order.Perm (document.forest.textNodes root)) :
    document.forest.Toured (localizer.counterpart? source) order
        (order.foldl (localizer.visited source) document).forest ∧
      localizer.visits source document order =
        order.map (document.forest.visitOf (localizer.counterpart? source)) :=
  localizer.toured_visits source wellFormed order
    (fun _ listed => Forest.text_of_mem_textNodes (permuted.subset listed)) document []
    (wellFormed.toured_nil _) (permuted.nodup_iff.mpr (acyclic.nodup_textNodes wellFormed root))

/-- **The order of a pass does not matter.** In a forest whose parents and children agree and
that has no cycles, visit the texts below a node in any order. The forest after that is the
one that a pass leaves, but for the numbers of the comments that are new; the same is counted;
and what is counted is that each text was visited, none failed, and each was localized, missed
or ignored. -/
theorem localizeTree_perm (document : Document) (root : NodeId)
    (wellFormed : document.forest.WellFormed) (acyclic : document.forest.Acyclic)
    {order : List NodeId} (permuted : order.Perm (document.forest.textNodes root)) :
    let pass := localizer.localizeTree document root source
    let other := localizer.visitAll source document order
    (∃ rename : Equiv.Perm NodeId, (∀ id < document.forest.size, rename id = id) ∧
      pass.2.1.forest.Renumbered rename other.1.forest) ∧
      other.2 = pass.2.2 ∧
      pass.2.2.visited = (document.forest.textNodes root).length ∧
      pass.2.2.failed = 0 ∧
      pass.2.2.localized + pass.2.2.missed + pass.2.2.ignored = pass.2.2.visited := by
  intro pass other
  have distinct := acyclic.nodup_textNodes wellFormed root
  obtain ⟨toured, visits⟩ :=
    localizer.toured_of_perm source wellFormed acyclic (List.Perm.refl _)
  obtain ⟨touredOther, visitsOther⟩ := localizer.toured_of_perm source wellFormed acyclic permuted
  have passes : pass.2 = _ :=
    localizer.visitAll_eq source document (document.forest.textNodes root)
  have others : other = _ := localizer.visitAll_eq source document order
  have done : ∀ visit ∈ (document.forest.textNodes root).map
      (document.forest.visitOf (localizer.counterpart? source)), visit.outcome?.isSome := by
    intro visit listed
    obtain ⟨node, among, rfl⟩ := List.mem_map.mp listed
    obtain ⟨⟨text, spoken⟩, _⟩ := Forest.text_of_mem_textNodes among
    rw [Forest.visitOf, Forest.reading?, spoken]
    rfl
  obtain ⟨visited, failed, sum⟩ := PassStats.foldl_record done PassStats.zero
  rw [passes, others, visits, visitsOther]
  refine ⟨toured.renumbered touredOther wellFormed permuted.symm distinct,
    (permuted.map _).foldl_eq PassStats.zero, ?_, failed, ?_⟩
  · rw [visited, List.length_map]
    exact Nat.zero_add _
  · rw [sum, visited]
    rfl

/-- A text before a comment that has a text below it, and a text after that. -/
def nested : Document :=
  .ofForest (Forest.ofTrees [.node () (.text "a I18N_K k".toList) [],
    .node () (.comment " I18N_I".toList) [.node () (.text "n I18N_K k".toList) []],
    .node () (.text "b I18N_I".toList) []]).1

/-- Visited from the last to the first, too, the texts leave the comment to give way, with the
text below it, and their new comments are numbered from the last to the first. -/
theorem localizeTree_perm_nested :
    let pass := withKey.localizeTree nested 0 ['e']
    let other := withKey.visitAll ['e'] nested [4, 3, 1]
    nested.forest.textNodes 0 = [1, 3, 4] ∧
      pass.2.1.forest.children 0 = [1, 5, 4, 7] ∧ other.1.forest.children 0 = [1, 7, 4, 5] ∧
      (∃ rename : Equiv.Perm NodeId, (∀ id < 5, rename id = id) ∧
        pass.2.1.forest.Renumbered rename other.1.forest) ∧
      other.2 = ⟨3, 1, 1, 1, 0⟩ := by
  intro pass other
  have grown : nested.forest.Grown := (Forest.grown_ofTrees _).1
  have listed : nested.forest.textNodes 0 = [1, 3, 4] := by decide
  have permuted : [4, 3, 1].Perm (nested.forest.textNodes 0) := by decide
  obtain ⟨renumbered, same, _⟩ :=
    localizeTree_perm withKey ['e'] nested 0 grown.wellFormed grown.acyclic permuted
  have counted : pass.2.2 = ⟨3, 1, 1, 1, 0⟩ := by decide
  exact ⟨listed, by decide, by decide, renumbered, same.trans counted⟩

end Localizer

end Polyglot
