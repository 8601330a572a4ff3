import Polyglot.Proofs.Document.Lingering
import Polyglot.Proofs.Forest.Ancestors

/-!
# Who hears of a change

An observer hears of a change if it lives and asked for such changes at the node that was
changed, or at a node above it together with all that is below. What it asked for at a node
is what the latest call says that registered it there, unless it was stopped since (`Stands`).
Each such observer gets the change once, and no other observer gets it (`Course.routed`).

A course is whatever becomes of a document while observers are made, let go, registered and
stopped by those who hold them, while changes are made, taken and given back, and while they
are delivered. Along a course the registrations of the observers that live are those that
stand, one for each node (`Course.registered`). Registrations of observers that live no more
are dropped at some time or other. That does no harm, since an observer that lives no more
never comes to life again: a change concerns only those that live, and only an observer that
is held gets changes back.
-/

set_option autoImplicit false

namespace Polyglot

/-- A call that registers an observer for a node, or stops it. -/
inductive Call where
  | observe (id : ObserverId) (target : NodeId) (interest : Interest)
  | disconnect (id : ObserverId)

namespace Call

/-- The observer of a call. -/
def observer : Call → ObserverId
  | observe id _ _ => id
  | disconnect id => id

/-- Whether a call puts an end to what an observer asked for at a node. -/
def Ends (id : ObserverId) (node : NodeId) (call : Call) : Prop :=
  call = .disconnect id ∨ ∃ interest, call = .observe id node interest

end Call

/-- The latest call about an observer and a node registered it there with an interest. -/
def Stands (calls : List Call) (id : ObserverId) (node : NodeId) (interest : Interest) : Prop :=
  ∃ earlier later, calls = earlier ++ .observe id node interest :: later ∧
    ∀ call ∈ later, ¬ call.Ends id node

namespace Stands

variable {calls : List Call} {call : Call} {id : ObserverId} {node : NodeId} {interest : Interest}

theorem mem (stands : Stands calls id node interest) : .observe id node interest ∈ calls := by
  obtain ⟨earlier, later, rfl, _⟩ := stands
  exact List.mem_append_right _ List.mem_cons_self

/-- One more call stands itself, or what stood before it stands if it puts no end to it. -/
theorem concat_iff :
    Stands (calls ++ [call]) id node interest ↔
      call = .observe id node interest ∨ Stands calls id node interest ∧ ¬ call.Ends id node := by
  constructor
  · rintro ⟨earlier, later, split, spared⟩
    rcases List.eq_nil_or_concat later with rfl | ⟨later, last, rfl⟩
    · obtain ⟨_, same⟩ := List.append_inj' split rfl
      exact .inl (List.singleton_inj.mp same)
    · rw [List.concat_eq_append] at split spared
      rw [← List.cons_append, ← List.append_assoc] at split
      obtain ⟨before, same⟩ := List.append_inj' split rfl
      rw [List.singleton_inj.mp same]
      refine .inr ⟨⟨earlier, later, before, fun call listed => ?_⟩, ?_⟩
      · exact spared call (List.mem_append_left _ listed)
      · exact spared last (List.mem_append_right _ List.mem_cons_self)
  · rintro (rfl | ⟨⟨earlier, later, rfl, spared⟩, ends⟩)
    · exact ⟨calls, [], rfl, fun _ listed => absurd listed List.not_mem_nil⟩
    · refine ⟨earlier, later ++ [call], by simp, fun other listed => ?_⟩
      rcases List.mem_append.mp listed with before | last
      · exact spared other before
      · rw [List.mem_singleton.mp last]
        exact ends

end Stands

/-! ## Registrations -/

/-- Two registrations of one observer for one node. -/
def Registration.Same (first second : Registration) : Prop :=
  first.observer = second.observer ∧ first.target = second.target

namespace Document

/-- No two registrations are of one observer for one node. -/
def Distinct (registrations : List Registration) : Prop :=
  registrations.Pairwise fun first second => ¬ first.Same second

variable {new registration : Registration} {registrations : List Registration}

/-- A registration takes the place of the one of its observer for its node. -/
theorem mem_insertRegistration_iff (distinct : Distinct registrations) :
    registration ∈ insertRegistration new registrations ↔
      registration = new ∨ registration ∈ registrations ∧ ¬ registration.Same new := by
  induction registrations with
  | nil => simp [insertRegistration]
  | cons first rest ih =>
    obtain ⟨apart, distinct⟩ := List.pairwise_cons.mp distinct
    rw [insertRegistration]
    split
    · next same =>
      have others : ∀ other ∈ rest, ¬ other.Same new := fun other listed here =>
        apart other listed ⟨same.1.trans here.1.symm, same.2.trans here.2.symm⟩
      rw [List.mem_cons, List.mem_cons]
      refine or_congr_right ⟨fun listed => ⟨.inr listed, others _ listed⟩, ?_⟩
      rintro ⟨rfl | listed, differs⟩
      · exact absurd same differs
      · exact listed
    · next differs =>
      rw [List.mem_cons, List.mem_cons, ih distinct]
      constructor
      · rintro (rfl | rfl | ⟨listed, other⟩)
        · exact .inr ⟨.inl rfl, differs⟩
        · exact .inl rfl
        · exact .inr ⟨.inr listed, other⟩
      · rintro (rfl | ⟨rfl | listed, other⟩)
        · exact .inr (.inl rfl)
        · exact .inl rfl
        · exact .inr (.inr ⟨listed, other⟩)

theorem distinct_insertRegistration (distinct : Distinct registrations) :
    Distinct (insertRegistration new registrations) := by
  induction registrations with
  | nil => exact List.pairwise_singleton _ _
  | cons first rest ih =>
    obtain ⟨apart, distinct⟩ := List.pairwise_cons.mp distinct
    rw [insertRegistration]
    split
    · next same =>
      refine List.pairwise_cons.mpr ⟨fun other listed here => ?_, distinct⟩
      exact apart other listed ⟨same.1.trans here.1, same.2.trans here.2⟩
    · next differs =>
      refine List.pairwise_cons.mpr ⟨fun other listed => ?_, ih distinct⟩
      rcases mem_insertRegistration listed with rfl | old
      · exact differs
      · exact apart other old

/-! ## Observers that live -/

section Live

variable (document : Document) {id other : ObserverId}

theorem isLive_eq_true_iff :
    document.isLive id = true ↔
      document.isHeld id = true ∨ id ∈ document.pending ∨ id ∈ document.batch := by
  simp [isLive, or_assoc]

/-- An observer that lives after another one was made lived before, or it is the new one. -/
theorem isLive_of_addObserver (lives : document.addObserver.1.isLive id = true) :
    document.isLive id = true ∨ ¬ document.Knows id := by
  by_cases known : document.Knows id
  · left
    have older : id ≠ document.observers.size := Nat.ne_of_lt known
    rw [isLive_eq_true_iff] at lives ⊢
    refine lives.imp_left fun held => ?_
    simpa [isHeld, observer?, addObserver, Array.getElem?_push, older] using held
  · exact .inr known

theorem isLive_of_release (lives : (document.release other).isLive id = true) :
    document.isLive id = true := by
  rw [isLive_eq_true_iff] at lives ⊢
  refine lives.imp_left fun held => ?_
  by_cases same : id = other
  · subst same
    cases found : document.observer? id <;>
      simp [isHeld, release, observer?_modifyObserver, found] at held
  · exact (isHeld_release_of_ne document same).symm.trans held

theorem isLive_of_disconnect (lives : (document.disconnect other).isLive id = true) :
    document.isLive id = true := by
  rw [isLive_eq_true_iff] at lives ⊢
  rcases lives with held | listed | delivered
  · exact .inl ((isHeld_disconnect document other id).symm.trans held)
  · exact .inr (.inl (List.mem_filter.mp listed).1)
  · exact .inr (.inr delivered)

theorem isLive_of_takeChanges (lives : (document.takeChanges other).1.isLive id = true) :
    document.isLive id = true := by
  rw [isLive_eq_true_iff] at lives ⊢
  exact lives.imp_left fun held => (isHeld_takeChanges document other id).symm.trans held

/-- A report brings nobody to life. -/
theorem isLive_of_report (change : Change) (lives : (document.report change).isLive id = true) :
    document.isLive id = true := by
  have move : Move nobody document (document.report change) := .report document change
  have lives := (isLive_eq_true_iff _).mp lives
  rw [isHeld_report, move.sameDelivery.batch] at lives
  rw [isLive_eq_true_iff]
  rcases lives with held | listed | delivered
  · exact .inl held
  · rcases mem_pending_of_report document change listed with before | concerned
    · exact .inr (.inl before)
    · obtain ⟨_, _, _, lived⟩ := exists_registration_of_mem_concerned document change concerned
      exact (isLive_eq_true_iff document).mp lived
  · exact .inr (.inr delivered)

/-- Giving changes back to an observer that is held brings nobody to life. -/
theorem isLive_of_requeue (held : document.isHeld other = true) (changes : List Change)
    (lives : (document.requeue other changes).isLive id = true) : document.isLive id = true := by
  have move : Move (· = other) document (document.requeue other changes) :=
    .giveBack document changes rfl
  have lives := (isLive_eq_true_iff _).mp lives
  rw [isHeld_requeue, move.sameDelivery.batch] at lives
  rw [isLive_eq_true_iff]
  rcases lives with held | listed | delivered
  · exact .inl held
  · rcases mem_pending_of_requeue document changes listed with before | rfl
    · exact .inr (.inl before)
    · exact .inl held
  · exact .inr (.inr delivered)

end Live

/-! ## Courses -/

/-- What may become of a document, with the calls that were made on the way. -/
inductive Course : List Call → Document → Prop where
  | start (forest : Forest) : Course [] (.ofForest forest)
  | reshape {calls : List Call} {document : Document} (course : Course calls document)
      (forest : Forest) : Course calls (document.withForest forest)
  | report {calls : List Call} {document : Document} (course : Course calls document)
      (change : Change) : Course calls (document.report change)
  | addObserver {calls : List Call} {document : Document} (course : Course calls document) :
      Course calls document.addObserver.1
  | release {calls : List Call} {document : Document} (course : Course calls document)
      (id : ObserverId) : Course calls (document.release id)
  | observe {calls : List Call} {document : Document} (course : Course calls document)
      {id : ObserverId} (held : document.isHeld id = true) (target : NodeId)
      (interest : Interest) :
      Course (calls ++ [.observe id target interest]) (document.observe id target interest)
  | disconnect {calls : List Call} {document : Document} (course : Course calls document)
      {id : ObserverId} (held : document.isHeld id = true) :
      Course (calls ++ [.disconnect id]) (document.disconnect id)
  | take {calls : List Call} {document : Document} (course : Course calls document)
      (id : ObserverId) : Course calls (document.takeChanges id).1
  | giveBack {calls : List Call} {document : Document} (course : Course calls document)
      {id : ObserverId} (held : document.isHeld id = true) (changes : List Change) :
      Course calls (document.requeue id changes)
  /-- A round of a delivery begins. -/
  | round {calls : List Call} {document : Document} (course : Course calls document) :
      Course calls { document with pending := [], batch := document.pending }
  /-- A delivery has dealt with an observer. -/
  | dealt {calls : List Call} {document : Document} (course : Course calls document)
      {id : ObserverId} {rest : List ObserverId} (first : document.batch = id :: rest) :
      Course calls { document with batch := rest }
  /-- A delivery begins, calls an observer, comes back from it, or ends. -/
  | mark {calls : List Call} {document : Document} (course : Course calls document)
      (delivering : Bool) (running : List ObserverId) :
      Course calls { document with delivering := delivering, running := running }

/-- The registrations of a document are those that its observers asked for. -/
structure Registered (calls : List Call) (document : Document) : Prop where
  registers : document.RegistersKnown
  called : ∀ call ∈ calls, document.Knows call.observer
  distinct : Distinct document.registrations
  latest : ∀ id, document.isLive id = true → ∀ node interest,
    ⟨id, node, interest⟩ ∈ document.registrations ↔ Stands calls id node interest

namespace Registered

variable {calls : List Call} {before after document : Document}

/-- What brings no old observer to life and leaves the registrations alone. -/
theorem of_silent (registered : Registered calls before)
    (same : after.registrations = before.registrations)
    (size : before.observers.size ≤ after.observers.size)
    (lives : ∀ id, after.isLive id = true → before.isLive id = true ∨ ¬ before.Knows id) :
    Registered calls after where
  registers := registered.registers.of_subset size fun _ listed => .inl (same ▸ listed)
  called call listed := Nat.lt_of_lt_of_le (registered.called call listed) size
  distinct := by
    rw [same]
    exact registered.distinct
  latest id living node interest := by
    rw [same]
    rcases lives id living with lived | unknown
    · exact registered.latest id lived node interest
    · -- an observer that was only made now is in no registration and in no call
      constructor
      · intro listed
        exact absurd (registered.registers _ listed) unknown
      · intro stands
        exact absurd (registered.called _ stands.mem) unknown

theorem observe (registered : Registered calls document) {id : ObserverId}
    (held : document.isHeld id = true) (target : NodeId) (interest : Interest) :
    Registered (calls ++ [.observe id target interest])
      (document.observe id target interest) where
  registers := by
    have move : Move (· = id) document (document.observe id target interest) :=
      .observe document target interest rfl
    exact move.registersKnown (fun _ same => same ▸ knows_of_isHeld held) registered.registers
  called call listed := by
    rcases List.mem_append.mp listed with old | new
    · exact registered.called call old
    · rw [List.mem_singleton.mp new]
      exact knows_of_isHeld held
  distinct := distinct_insertRegistration (registered.distinct.sublist List.filter_sublist)
  latest other lives node wish := by
    have kept : Distinct (document.registrations.filter fun registration =>
        document.isLive registration.observer) :=
      registered.distinct.sublist List.filter_sublist
    have lived : document.isLive other = true := lives
    -- registering drops what observers had that live no more, and this one lives
    rw [Document.observe, mem_insertRegistration_iff kept, List.mem_filter, Stands.concat_iff,
      registered.latest other lived node wish]
    simp only [Registration.mk.injEq, Registration.Same, Call.Ends, Call.observe.injEq, lived,
      and_true, reduceCtorEq, false_or]
    grind

theorem disconnect (registered : Registered calls document) {id : ObserverId}
    (held : document.isHeld id = true) :
    Registered (calls ++ [.disconnect id]) (document.disconnect id) where
  registers := by
    have move : Move (· = id) document (document.disconnect id) := .disconnect document rfl
    exact move.registersKnown (fun _ same => same ▸ knows_of_isHeld held) registered.registers
  called call listed := by
    have same : (document.disconnect id).observers.size = document.observers.size :=
      size_disconnect document id
    rw [Knows, same]
    rcases List.mem_append.mp listed with old | new
    · exact registered.called call old
    · rw [List.mem_singleton.mp new]
      exact knows_of_isHeld held
  distinct := registered.distinct.sublist List.filter_sublist
  latest other lives node wish := by
    have lived := isLive_of_disconnect document lives
    have listed : ⟨other, node, wish⟩ ∈ (document.disconnect id).registrations ↔
        ⟨other, node, wish⟩ ∈ document.registrations ∧ other ≠ id := by
      simp [Document.disconnect, takeChanges, modifyObserver, lived]
    rw [listed, Stands.concat_iff, registered.latest other lived node wish]
    simp only [Call.Ends, Call.disconnect.injEq, reduceCtorEq, exists_false, or_false, false_or]
    exact and_congr_right fun _ => not_congr eq_comm

end Registered

namespace Course

variable {calls : List Call} {document : Document} {id : ObserverId}

/-- **Along a course the registrations of the observers that live are those that stand**, one
for each node. -/
theorem registered (course : Course calls document) : Registered calls document := by
  induction course with
  | start forest =>
    exact ⟨nofun, nofun, .nil, fun id lives => by
      simp [isLive, isHeld, observer?, ofForest] at lives⟩
  | reshape course forest ih => exact ih.of_silent rfl (Nat.le_refl _) fun _ lives => .inl lives
  | report course change ih =>
    exact ih.of_silent (registrations_report _ change) (Nat.le_of_eq (size_report _ change).symm)
      fun _ lives => .inl (isLive_of_report _ change lives)
  | addObserver course ih =>
    exact ih.of_silent rfl (by simp) fun _ lives => isLive_of_addObserver _ lives
  | release course id ih =>
    exact ih.of_silent rfl (by simp [Document.release]) fun _ lives =>
      .inl (isLive_of_release _ lives)
  | observe course held target interest ih => exact ih.observe held target interest
  | disconnect course held ih => exact ih.disconnect held
  | take course id ih =>
    exact ih.of_silent rfl (by simp) fun _ lives => .inl (isLive_of_takeChanges _ lives)
  | giveBack course held changes ih =>
    exact ih.of_silent (registrations_requeue _ _ changes)
      (Nat.le_of_eq (size_requeue _ _ changes).symm)
      fun _ lives => .inl (isLive_of_requeue _ held changes lives)
  | round course ih =>
    refine ih.of_silent rfl (Nat.le_refl _) fun id lives => .inl ?_
    rw [isLive_eq_true_iff] at lives ⊢
    exact lives.imp_right fun listed => .inl (listed.resolve_left List.not_mem_nil)
  | dealt course first ih =>
    refine ih.of_silent rfl (Nat.le_refl _) fun id lives => .inl ?_
    rw [isLive_eq_true_iff] at lives ⊢
    exact lives.imp_right (Or.imp_right fun listed => first ▸ List.mem_cons_of_mem _ listed)
  | mark course delivering running ih =>
    exact ih.of_silent rfl (Nat.le_refl _) fun _ lives => .inl lives

/-- Edits go on with a course. -/
theorem of_edits {after : Document} (course : Course calls document)
    (edits : Moves nobody document after) : Course calls after := by
  induction edits with
  | refl => exact course
  | tail _ move ih =>
    cases move with
    | reshape forest => exact ih.reshape forest
    | report change => exact ih.report change
    | addObserver => exact ih.addObserver
    | release mine => exact mine.elim
    | observe target interest mine => exact mine.elim
    | disconnect mine => exact mine.elim
    | take mine => exact mine.elim
    | giveBack changes mine => exact mine.elim

/-- Any number of observers can be made and kept. -/
theorem exists_observers (forest : Forest) (count : Nat) :
    ∃ document, Course [] document ∧ document.forest = forest ∧
      document.observers.size = count ∧ ∀ id < count, document.isHeld id = true := by
  induction count with
  | zero => exact ⟨.ofForest forest, .start forest, rfl, rfl, nofun⟩
  | succ count ih =>
    obtain ⟨document, course, same, size, held⟩ := ih
    refine ⟨document.addObserver.1, course.addObserver, same, by simp [size], fun id made => ?_⟩
    rcases Nat.lt_succ_iff_lt_or_eq.mp made with older | rfl
    · exact isHeld_addObserver (held id older)
    · rw [← size]
      exact isHeld_addObserver_self document

/-- Calls of observers that are held can be made. -/
theorem exists_calls (further : List Call) :
    ∀ {calls : List Call} {document : Document}, Course calls document →
      (∀ call ∈ further, document.isHeld call.observer = true) →
      ∃ after, Course (calls ++ further) after ∧ after.forest = document.forest := by
  induction further with
  | nil =>
    intro calls document course _
    exact ⟨document, (List.append_nil calls).symm ▸ course, rfl⟩
  | cons call rest ih =>
    intro calls document course held
    rw [List.forall_mem_cons] at held
    rw [List.append_cons]
    cases call with
    | observe id target interest =>
      obtain ⟨after, done, same⟩ := ih (course.observe held.1 target interest) held.2
      exact ⟨after, done, same⟩
    | disconnect id =>
      obtain ⟨after, done, same⟩ := ih (course.disconnect held.1) fun other listed =>
        (isHeld_disconnect document id other.observer).trans (held.2 other listed)
      exact ⟨after, done, same⟩

/-- **Every list of calls is made on some course**, in any forest. -/
theorem exists_course (forest : Forest) (calls : List Call) :
    ∃ document, Course calls document ∧ document.forest = forest := by
  obtain ⟨count, enough⟩ : ∃ count, ∀ call ∈ calls, call.observer < count := by
    induction calls with
    | nil => exact ⟨0, nofun⟩
    | cons call rest ih =>
      obtain ⟨count, enough⟩ := ih
      refine ⟨max (call.observer + 1) count, List.forall_mem_cons.mpr ⟨?_, ?_⟩⟩
      · exact Nat.le_max_left _ _
      · exact fun other listed => Nat.lt_of_lt_of_le (enough other listed) (Nat.le_max_right _ _)
  obtain ⟨document, course, same, _, held⟩ := exists_observers forest count
  obtain ⟨after, done, sameThen⟩ := exists_calls calls course fun call listed =>
    held _ (enough call listed)
  exact ⟨after, done, sameThen.trans same⟩

end Course

/-! ## Who is concerned -/

/-- An observer lives, and what it asked for at the node of a change, or at a node above it with
all that is below, is such changes. -/
def Asked (document : Document) (calls : List Call) (change : Change) (id : ObserverId) : Prop :=
  document.isLive id = true ∧ ∃ node interest, Stands calls id node interest ∧
    (node = change.target ∨
      document.forest.Climbs change.target node ∧ interest.subtree = true) ∧
    interest.accepts change = true

/-- The walk upwards finds those that live and are registered on the way for such changes. -/
theorem mem_concerned_iff {document : Document} (wellFormed : document.forest.WellFormed)
    (acyclic : document.forest.Acyclic) (change : Change) (id : ObserverId) :
    id ∈ document.concerned change ↔
      document.isLive id = true ∧ ∃ node interest, ⟨id, node, interest⟩ ∈ document.registrations ∧
        (node = change.target ∨
          document.forest.Climbs change.target node ∧ interest.subtree = true) ∧
        interest.accepts change = true := by
  have above : ∀ node, node ∈ document.forest.lineage change.target ↔
      document.forest.Climbs change.target node := fun node => by
    rw [← Forest.isInclusiveAncestor_iff wellFormed acyclic, Forest.isInclusiveAncestor,
      List.contains_iff_mem]
  simp only [concerned, List.mem_eraseDups, List.mem_flatMap, concernedAt, List.mem_filterMap,
    above]
  constructor
  · rintro ⟨node, climbs, ⟨observer, target, interest⟩, listed, found⟩
    split at found
    · next wish =>
      obtain ⟨rfl, place, accepts, lives⟩ := wish
      cases found
      exact ⟨lives, target, interest, listed, place.imp_right fun subtree => ⟨climbs, subtree⟩,
        accepts⟩
    · cases found
  · rintro ⟨lives, node, interest, listed, place, accepts⟩
    have climbs : document.forest.Climbs change.target node := by
      rcases place with rfl | ⟨climbs, _⟩
      · exact .refl
      · exact climbs
    refine ⟨node, climbs, ⟨id, node, interest⟩, listed, if_pos ?_⟩
    exact ⟨rfl, place.imp_right And.right, accepts, lives⟩

/-- **A change goes once to each observer that lives and asked for such changes there, and to no
other.** No observer is ever registered twice for one node, and what it is registered for is what
the latest call says. -/
theorem Course.routed {calls : List Call} {document : Document} (course : Course calls document)
    (wellFormed : document.forest.WellFormed) (acyclic : document.forest.Acyclic)
    (change : Change) :
    (∀ id, (document.Asked calls change id →
        (document.report change).queue id = document.queue id ++ [change]) ∧
      (¬ document.Asked calls change id →
        (document.report change).queue id = document.queue id)) ∧
    Distinct document.registrations ∧
    ∀ id, document.isLive id = true → ∀ node interest,
      ⟨id, node, interest⟩ ∈ document.registrations ↔ Stands calls id node interest := by
  have registered := course.registered
  refine ⟨fun id => ?_, registered.distinct, registered.latest⟩
  have known := registered.registers.knows_of_mem_concerned change
  have asked : document.Asked calls change id ↔ id ∈ document.concerned change := by
    rw [mem_concerned_iff wellFormed acyclic, Asked]
    refine and_congr_right fun lives => ?_
    simp only [registered.latest id lives]
  rw [queue_report document change known, asked]
  exact ⟨fun member => if_pos member, fun other => if_neg other⟩

/-- Calls of three observers: the first asks for texts at a paragraph and above it and thinks
better of the latter, the second asks for them at the text itself, and the third is stopped. -/
def inquiries : List Call :=
  [.observe 0 0 .texts, .observe 0 1 .texts, .observe 0 0 .nodes,
    .observe 1 2 ⟨false, true, false⟩, .observe 2 0 .texts, .disconnect 2]

/-- A document of one paragraph after these calls. -/
def inquired : Document :=
  let document := ofForest ⟨#[⟨.document, none, [1]⟩, ⟨.element ⟨.html, ['p']⟩ [], some 0, [2]⟩,
    ⟨.text ['a'], some 1, []⟩]⟩
  let document := document.addObserver.1.addObserver.1.addObserver.1
  let document := ((document.observe 0 0 .texts).observe 0 1 .texts).observe 0 0 .nodes
  ((document.observe 1 2 ⟨false, true, false⟩).observe 2 0 .texts).disconnect 2

/-- The first two hear that the text was changed, each once, and the third does not. -/
theorem Course.routed_inquired :
    Course inquiries inquired ∧ inquired.forest.WellFormed ∧ inquired.forest.Acyclic ∧
      inquired.Asked inquiries (.text 2 ['b']) 0 ∧
      (inquired.report (.text 2 ['b'])).queue 0 = inquired.queue 0 ++ [.text 2 ['b']] ∧
      inquired.Asked inquiries (.text 2 ['b']) 1 ∧
      (inquired.report (.text 2 ['b'])).queue 1 = inquired.queue 1 ++ [.text 2 ['b']] ∧
      ¬ inquired.Asked inquiries (.text 2 ['b']) 2 ∧
      (inquired.report (.text 2 ['b'])).queue 2 = inquired.queue 2 := by
  have course : Course inquiries inquired :=
    .disconnect (.observe (.observe (.observe (.observe (.observe (.addObserver (.addObserver
      (.addObserver (.start _)))) (by decide) 0 .texts) (by decide) 1 .texts) (by decide) 0
        .nodes) (by decide) 2 ⟨false, true, false⟩) (by decide) 0 .texts) (by decide)
  have orderly : inquired.forest.Orderly := by decide
  obtain ⟨routed, _, latest⟩ :=
    course.routed orderly.wellFormed orderly.acyclic (.text 2 ['b'])
  have first : inquired.Asked inquiries (.text 2 ['b']) 0 := by
    refine ⟨by decide, 1, .texts, ⟨[.observe 0 0 .texts], _, rfl, ?_⟩, .inr ⟨?_, rfl⟩, rfl⟩
    · rintro call listed (rfl | ⟨interest, rfl⟩) <;> simp at listed
    · exact .single rfl
  have second : inquired.Asked inquiries (.text 2 ['b']) 1 := by
    refine ⟨by decide, 2, ⟨false, true, false⟩, ⟨[.observe 0 0 .texts, .observe 0 1 .texts,
      .observe 0 0 .nodes], _, rfl, ?_⟩, .inl rfl, rfl⟩
    rintro call listed (rfl | ⟨interest, rfl⟩) <;> simp at listed
  have third : ¬ inquired.Asked inquiries (.text 2 ['b']) 2 := by
    rintro ⟨lives, node, interest, stands, _⟩
    have registrations : inquired.registrations =
        [⟨0, 0, .nodes⟩, ⟨0, 1, .texts⟩, ⟨1, 2, ⟨false, true, false⟩⟩] := by decide
    have listed := (latest 2 lives node interest).mpr stands
    rw [registrations] at listed
    simp at listed
  exact ⟨course, orderly.wellFormed, orderly.acyclic, first, (routed 0).1 first, second,
    (routed 1).1 second, third, (routed 2).2 third⟩

end Document

end Polyglot
