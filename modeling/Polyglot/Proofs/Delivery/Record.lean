import Polyglot.Proofs.Delivery.Rule

/-!
# What a delivery leaves on record

Whenever a delivery calls an observer, something can be noted down of the call, by
what the observer is told and by the world that it is called in. `recordDelivery`
lists what was noted, call by call, as far as the delivery goes.

What the calls keep is kept by the whole delivery, even if they keep it only where
something holds of what is noted of them (`Stage.Keeps.deliverWithin`). Between two
calls a delivery changes its own lists only, so it is enough that no forest be
changed there.
-/

set_option autoImplicit false

namespace Polyglot.Stage

variable {World α : Type} (stage : Stage World)

/-! ## Records -/

section Record

variable (note : ObserverId → List Change → World → List α)

/-- A world in which an observer is about to be called. -/
def calling (id : ObserverId) (world : World) : World :=
  stage.update (stage.emptied id world) fun document =>
    { document with running := id :: document.running }

/-- What is noted of dealing with an observer, which is nothing if it is not called. -/
def recordOf (id : ObserverId) (world : World) : List α :=
  let (document, changes) := (stage.document world).takeChanges id
  if changes.isEmpty || document.running.contains id then []
  else note id changes (stage.calling id world)

/-- What is noted in a round. -/
def recordAll : List ObserverId → World → List α
  | [], _ => []
  | id :: rest, world => stage.recordOf note id world ++ recordAll rest (stage.deal id rest world)

/-- What is noted in some rounds at most. -/
def recordRounds : Nat → World → List α
  | 0, _ => []
  | limit + 1, world =>
    match (stage.document world).pending with
    | [] => []
    | batch =>
      stage.recordAll note batch (stage.beginRound world) ++
        recordRounds limit (stage.deliverAll batch (stage.beginRound world)).1

/-- What is noted in a delivery, which is nothing during another one. -/
def recordDelivery (limit : Nat) (world : World) : List α :=
  if (stage.document world).delivering then []
  else stage.recordRounds note limit (stage.commence world)

end Record

/-! ## What a delivery keeps -/

/-- Rounds that come to an end have reached their last world. -/
theorem afterRounds_of_rounds :
    ∀ (limit : Nat) {world after : World} {calls : Nat},
      stage.rounds limit world = some (after, calls) → stage.afterRounds limit world = after
  | 0, _, _, _, ended => by cases ended
  | limit + 1, world, after, calls, ended => by
    rw [afterRounds]
    by_cases nobody : (stage.document world).pending = []
    · rw [rounds_of_pending_eq_nil stage nobody] at ended
      cases ended
      rw [nobody]
    · rw [rounds_of_pending_ne_nil stage nobody, Option.map_eq_some_iff] at ended
      obtain ⟨⟨last, others⟩, ended, same⟩ := ended
      cases same
      split
      · next nothing => exact absurd nothing nobody
      · exact afterRounds_of_rounds limit ended

/-- The world that a delivery leads to, but for whether it is over. -/
theorem deliverWithin_fst (limit : Nat) {world : World}
    (idle : (stage.document world).delivering = false) :
    (stage.deliverWithin limit world).1 =
        stage.finish (stage.afterRounds limit (stage.commence world)) ∨
      (stage.deliverWithin limit world).1 = stage.afterRounds limit (stage.commence world) := by
  rw [deliverWithin]
  cases ended : stage.deliver? limit world with
  | none => exact .inr rfl
  | some result =>
    rw [deliver?_of_not_delivering stage idle, Option.map_eq_some_iff] at ended
    obtain ⟨⟨last, calls⟩, ended, same⟩ := ended
    cases same
    rw [stage.afterRounds_of_rounds limit ended]
    exact .inl rfl

/-- What does not depend on more of a document than its forest, and is kept by calls
of which nothing is noted but what is admitted; what is noted of such calls is sound. -/
structure Keeps (note : ObserverId → List Change → World → List α) (Admitted Sound : α → Prop)
    (Holds : World → Prop) : Prop where
  update : ∀ world change, (∀ document : Document, (change document).forest = document.forest) →
    Holds world → Holds (stage.update world change)
  call : ∀ id changes world, Holds world → (∀ item ∈ note id changes world, Admitted item) →
    Holds (stage.call id changes world) ∧ ∀ item ∈ note id changes world, Sound item
  passOver : ∀ id changes world, Holds world → Holds (stage.passOver id changes world)

namespace Keeps

variable {stage} {note : ObserverId → List Change → World → List α} {Admitted Sound : α → Prop}
  {Holds : World → Prop} (keeps : stage.Keeps note Admitted Sound Holds)
include keeps

/-- Emptying a queue changes no forest. -/
theorem emptied (id : ObserverId) {world : World} (holds : Holds world) :
    Holds (stage.emptied id world) :=
  keeps.update world (fun document => (document.takeChanges id).1) (fun _ => rfl) holds

theorem calling (id : ObserverId) {world : World} (holds : Holds world) :
    Holds (stage.calling id world) :=
  keeps.update _ (fun document => { document with running := id :: document.running })
    (fun _ => rfl) (keeps.emptied id holds)

/-- Dealing with one observer. -/
theorem deal (id : ObserverId) (rest : List ObserverId) {world : World} (holds : Holds world)
    (admitted : ∀ item ∈ stage.recordOf note id world, Admitted item) :
    Holds (stage.deal id rest world) ∧ ∀ item ∈ stage.recordOf note id world, Sound item := by
  have unnoted : ∀ item ∈ ([] : List α), Sound item :=
    fun _ listed => absurd listed List.not_mem_nil
  have told : Holds (stage.deliverTo id world).1 ∧
      ∀ item ∈ stage.recordOf note id world, Sound item := by
    unfold Stage.recordOf at admitted ⊢
    unfold Stage.deliverTo
    dsimp only at admitted ⊢
    cases nothing : ((stage.document world).takeChanges id).2.isEmpty with
    | true => exact ⟨keeps.emptied id holds, unnoted⟩
    | false =>
      cases busy : ((stage.document world).takeChanges id).1.running.contains id with
      | true => exact ⟨keeps.passOver id _ _ (keeps.emptied id holds), unnoted⟩
      | false =>
        rw [nothing, busy] at admitted
        obtain ⟨called, sound⟩ := keeps.call id _ _ (keeps.calling id holds) admitted
        refine ⟨keeps.update _ (fun document =>
          { document with running := document.running.erase id }) (fun _ => rfl) called, sound⟩
  exact ⟨keeps.update _ (fun document => { document with batch := rest }) (fun _ => rfl) told.1,
    told.2⟩

theorem deliverAll : ∀ (batch : List ObserverId) {world : World}, Holds world →
    (∀ item ∈ stage.recordAll note batch world, Admitted item) →
      Holds (stage.deliverAll batch world).1 ∧
        ∀ item ∈ stage.recordAll note batch world, Sound item
  | [], _, holds, _ => ⟨holds, fun _ listed => absurd listed List.not_mem_nil⟩
  | id :: rest, world, holds, admitted => by
    rw [recordAll, List.forall_mem_append] at admitted ⊢
    rw [deliverAll_cons]
    obtain ⟨dealt, first⟩ := keeps.deal id rest holds admitted.1
    obtain ⟨done, others⟩ := deliverAll rest dealt admitted.2
    exact ⟨done, first, others⟩

theorem afterRounds : ∀ (limit : Nat) {world : World}, Holds world →
    (∀ item ∈ stage.recordRounds note limit world, Admitted item) →
      Holds (stage.afterRounds limit world) ∧
        ∀ item ∈ stage.recordRounds note limit world, Sound item
  | 0, _, holds, _ => ⟨holds, fun _ listed => absurd listed List.not_mem_nil⟩
  | limit + 1, world, holds, admitted => by
    rw [Stage.afterRounds]
    rw [recordRounds] at admitted ⊢
    generalize queued : (stage.document world).pending = batch at admitted ⊢
    cases batch with
    | nil => exact ⟨holds, fun _ listed => absurd listed List.not_mem_nil⟩
    | cons id rest =>
      simp only [List.forall_mem_append] at admitted ⊢
      have begun : Holds (stage.beginRound world) :=
        keeps.update world (fun document =>
          { document with pending := [], batch := document.pending }) (fun _ => rfl) holds
      obtain ⟨done, first⟩ := keeps.deliverAll _ begun admitted.1
      obtain ⟨last, others⟩ := afterRounds limit done admitted.2
      exact ⟨last, first, others⟩

/-- **What the calls keep, a delivery keeps**, and what is noted of them is sound. -/
theorem deliverWithin (limit : Nat) (world : World) (holds : Holds world)
    (admitted : ∀ item ∈ stage.recordDelivery note limit world, Admitted item) :
    Holds (stage.deliverWithin limit world).1 ∧
      ∀ item ∈ stage.recordDelivery note limit world, Sound item := by
  unfold recordDelivery at admitted ⊢
  cases delivering : (stage.document world).delivering with
  | true =>
    rw [Stage.deliverWithin, deliver?_of_delivering stage delivering, if_pos rfl]
    exact ⟨holds, fun _ listed => absurd listed List.not_mem_nil⟩
  | false =>
    simp only [delivering, Bool.false_eq_true, if_false] at admitted ⊢
    have begun : Holds (stage.commence world) :=
      keeps.update world (fun document => { document with delivering := true }) (fun _ => rfl) holds
    obtain ⟨done, sound⟩ := keeps.afterRounds limit begun admitted
    refine ⟨?_, sound⟩
    rcases stage.deliverWithin_fst limit delivering with same | same
    · rw [same]
      exact keeps.update _ (fun document => { document with delivering := false }) (fun _ => rfl)
        done
    · rw [same]
      exact done

end Keeps

end Polyglot.Stage
