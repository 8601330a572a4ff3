import Polyglot.Document.Delivery
import Polyglot.Proofs.Document.Queues

/-!
# A rule for deliveries

A delivery deals with one observer after the other, and round after round. What
holds between two calls is therefore kept by a whole delivery as soon as it is
kept by the start of a round and by dealing with one observer. `Rule` names the
two obligations and the theorems after it draw the conclusion once for all
stages: for the observers of a batch, for any number of rounds, and for a
delivery.

A delivery that does not come to an end has no last world. `afterRounds` gives
the world that it has reached after a number of rounds, so that what is proved
of deliveries extends to those as far as they go.
-/

set_option autoImplicit false

namespace Polyglot.Stage

variable {World : Type} (stage : Stage World)

/-- A world in which a new round begins: those to be called are its batch. -/
def beginRound (world : World) : World :=
  stage.update world fun document =>
    { document with pending := [], batch := document.pending }

/-- A world in which the first observer of a batch has been dealt with. -/
def deal (id : ObserverId) (rest : List ObserverId) (world : World) : World :=
  stage.update (stage.deliverTo id world).1 fun document => { document with batch := rest }

/-- A world in which nothing waits for an observer any more. -/
def emptied (id : ObserverId) (world : World) : World :=
  stage.update world fun document => (document.takeChanges id).1

/-- A world in which an observer has been called. -/
def called (id : ObserverId) (changes : List Change) (world : World) : World :=
  stage.update (stage.call id changes (stage.update world fun document =>
      { document with running := id :: document.running }))
    fun document => { document with running := document.running.erase id }

/-- A world in which a delivery begins. -/
def commence (world : World) : World :=
  stage.update world fun document => { document with delivering := true }

/-- A world in which a delivery is over. -/
def finish (world : World) : World :=
  stage.update world fun document => { document with delivering := false }

/-- The world that a delivery has reached after some rounds at most. -/
def afterRounds : Nat → World → World
  | 0, world => world
  | limit + 1, world =>
    match (stage.document world).pending with
    | [] => world
    | batch => afterRounds limit (stage.deliverAll batch (stage.beginRound world)).1

/-- The world that a delivery has reached after some rounds at most, and whether
it has come to its end. -/
def deliverWithin (limit : Nat) (world : World) : World × Bool :=
  match stage.deliver? limit world with
  | some (after, _) => (after, true)
  | none => (stage.afterRounds limit (stage.commence world), false)

theorem deliverAll_cons (id : ObserverId) (rest : List ObserverId) (world : World) :
    (stage.deliverAll (id :: rest) world).1 =
      (stage.deliverAll rest (stage.deal id rest world)).1 :=
  rfl

/-- An observer that has nothing to hear of is not called. -/
theorem deal_of_queue_eq_nil {world : World} {id : ObserverId}
    (nothing : (stage.document world).queue id = []) (rest : List ObserverId) :
    stage.deal id rest world =
      stage.update (stage.emptied id world) fun document => { document with batch := rest } := by
  simp only [deal, deliverTo, Document.takeChanges_snd, nothing, List.isEmpty_nil, if_true]
  rfl

/-- An observer that has something to hear of is called when nobody else is. -/
theorem deal_of_queue_ne_nil {world : World} {id : ObserverId}
    (something : (stage.document world).queue id ≠ [])
    (idle : (stage.document world).running = []) (rest : List ObserverId) :
    stage.deal id rest world =
      stage.update
        (stage.called id ((stage.document world).queue id) (stage.emptied id world))
        fun document => { document with batch := rest } := by
  have running : ((stage.document world).takeChanges id).1.running = [] := idle
  have some : ((stage.document world).queue id).isEmpty = false := by
    simpa using something
  simp only [deal, deliverTo, called, Document.takeChanges_snd, some, running,
    List.contains_nil, Bool.false_eq_true, if_false]
  rfl

theorem rounds_of_pending_eq_nil {world : World} (nobody : (stage.document world).pending = [])
    (limit : Nat) : stage.rounds (limit + 1) world = some (world, 0) := by
  simp only [rounds, nobody]

theorem rounds_of_pending_ne_nil {world : World} (somebody : (stage.document world).pending ≠ [])
    (limit : Nat) :
    stage.rounds (limit + 1) world =
      (stage.rounds limit
        (stage.deliverAll (stage.document world).pending (stage.beginRound world)).1).map
          fun (after, others) =>
            (after, (stage.deliverAll (stage.document world).pending
              (stage.beginRound world)).2 + others) := by
  rw [rounds]
  split
  · next nobody => exact absurd nobody somebody
  · rfl

/-- Rounds that come to an end after the first have come to an end. -/
theorem rounds_eq_some {world after : World} {limit calls : Nat}
    (somebody : (stage.document world).pending ≠ [])
    (ended : stage.rounds limit
      (stage.deliverAll (stage.document world).pending (stage.beginRound world)).1
        = some (after, calls)) :
    ∃ total, stage.rounds (limit + 1) world = some (after, total) := by
  rw [rounds_of_pending_ne_nil stage somebody, ended]
  exact ⟨_, rfl⟩

/-- A delivery that is asked for during another one does nothing. -/
theorem deliver?_of_delivering {world : World}
    (delivering : (stage.document world).delivering = true) (limit : Nat) :
    stage.deliver? limit world = some (world, 0) := by
  rw [deliver?, if_pos delivering]

theorem deliver?_of_not_delivering {world : World}
    (idle : (stage.document world).delivering = false) (limit : Nat) :
    stage.deliver? limit world =
      (stage.rounds limit (stage.commence world)).map fun (after, calls) =>
        (stage.finish after, calls) := by
  rw [deliver?, if_neg (by simp [idle])]
  rfl

/-- What dealing with one observer keeps, a round keeps. -/
theorem deliverAll_induction {Busy : List ObserverId → World → Prop}
    (deal : ∀ id rest world, Busy (id :: rest) world → Busy rest (stage.deal id rest world)) :
    ∀ (batch : List ObserverId) (world : World),
      Busy batch world → Busy [] (stage.deliverAll batch world).1
  | [], _, busy => busy
  | id :: rest, world, busy => by
    rw [deliverAll_cons]
    exact deliverAll_induction deal rest _ (deal id rest world busy)

/-! ## The rule -/

/-- What holds between two calls, given those that the round has yet to deal
with, and is kept by the start of a round and by dealing with an observer. -/
structure Rule (Busy : List ObserverId → World → Prop) : Prop where
  round : ∀ world, Busy [] world → Busy (stage.document world).pending (stage.beginRound world)
  deal : ∀ id rest world, Busy (id :: rest) world → Busy rest (stage.deal id rest world)

namespace Rule

variable {stage} {Busy : List ObserverId → World → Prop} (rule : stage.Rule Busy)
include rule

theorem deliverAll (batch : List ObserverId) (world : World) (busy : Busy batch world) :
    Busy [] (stage.deliverAll batch world).1 :=
  deliverAll_induction stage rule.deal batch world busy

theorem afterRounds : ∀ (limit : Nat) (world : World),
    Busy [] world → Busy [] (stage.afterRounds limit world)
  | 0, _, busy => busy
  | limit + 1, world, busy => by
    rw [Stage.afterRounds]
    split
    · exact busy
    · exact afterRounds limit _ (rule.deliverAll _ _ (rule.round world busy))

/-- Rounds that come to an end leave nobody to be called. -/
theorem rounds : ∀ (limit : Nat) (world after : World) (calls : Nat), Busy [] world →
    stage.rounds limit world = some (after, calls) →
      Busy [] after ∧ (stage.document after).pending = []
  | 0, _, _, _, _, ended => by cases ended
  | limit + 1, world, after, calls, busy, ended => by
    by_cases nobody : (stage.document world).pending = []
    · rw [rounds_of_pending_eq_nil stage nobody] at ended
      cases ended
      exact ⟨busy, nobody⟩
    · rw [rounds_of_pending_ne_nil stage nobody, Option.map_eq_some_iff] at ended
      obtain ⟨⟨last, others⟩, ended, same⟩ := ended
      cases same
      exact rounds limit _ _ _ (rule.deliverAll _ _ (rule.round world busy)) ended

/-- **A delivery that comes to an end finishes from a world in which nobody is
left to be called.** -/
theorem deliver? {limit : Nat} {world after : World} {calls : Nat}
    (idle : (stage.document world).delivering = false) (busy : Busy [] (stage.commence world))
    (ended : stage.deliver? limit world = some (after, calls)) :
    ∃ last, Busy [] last ∧ (stage.document last).pending = [] ∧ after = stage.finish last := by
  rw [deliver?_of_not_delivering stage idle, Option.map_eq_some_iff] at ended
  obtain ⟨⟨last, others⟩, ended, same⟩ := ended
  cases same
  obtain ⟨kept, nobody⟩ := rule.rounds limit _ _ _ busy ended
  exact ⟨last, kept, nobody, rfl⟩

/-- A delivery, whether it comes to an end within the limit or not. -/
theorem deliverWithin (limit : Nat) {world : World}
    (idle : (stage.document world).delivering = false) (busy : Busy [] (stage.commence world)) :
    ((stage.deliverWithin limit world).2 = true ∧ ∃ last, Busy [] last ∧
        (stage.document last).pending = [] ∧
        (stage.deliverWithin limit world).1 = stage.finish last) ∨
      ((stage.deliverWithin limit world).2 = false ∧
        Busy [] (stage.deliverWithin limit world).1) := by
  unfold Stage.deliverWithin
  cases ended : stage.deliver? limit world with
  | none => exact .inr ⟨rfl, rule.afterRounds limit _ busy⟩
  | some result => exact .inl ⟨rfl, rule.deliver? idle busy ended⟩

end Rule

end Polyglot.Stage
