import Polyglot.Document.Basic

/-!
# Accounts of changes

The history of a document is a list of events: a change was reported to some
observers, an observer was called with changes, its changes were taken or given
back, an observer was stopped. For one observer the history tells which changes
were handed over to it, by a call or because somebody took them, and which were
to be handed over: those that came in, less those that were still waiting when
the observer was stopped (`surviving`).

`Accounts` says that the two agree when the changes that still wait are added to
those that were handed over. It is kept by an event at which changes come in, by
one that hands over all that waits, and by one that drops it.
-/

set_option autoImplicit false

namespace Polyglot

/-- What happens to the changes that observers are told of. -/
inductive Event where
  /-- An edit reported a change, which concerns some observers. -/
  | reported (change : Change) (concerned : List ObserverId)
  /-- An observer was called with changes. -/
  | called (id : ObserverId) (changes : List Change)
  /-- An observer was passed over with changes, being called already. -/
  | passedOver (id : ObserverId) (changes : List Change)
  /-- Somebody took what an observer had yet to hear of. -/
  | taken (id : ObserverId) (changes : List Change)
  /-- Somebody gave changes back to an observer. -/
  | returned (id : ObserverId) (changes : List Change)
  /-- An observer was stopped. -/
  | stopped (id : ObserverId)
  /-- A delivery came to its end. -/
  | delivered
  /-- A delivery was asked for during another one. -/
  | refused
  /-- Something else happened. -/
  | other
  deriving DecidableEq, Repr

namespace Event

/-- The changes that come in for an observer. -/
def incoming (id : ObserverId) : Event → List Change
  | reported change concerned => if id ∈ concerned then [change] else []
  | returned receiver changes => if receiver = id then changes else []
  | _ => []

/-- The changes that are handed over to an observer. -/
def handed (id : ObserverId) : Event → List Change
  | called receiver changes | taken receiver changes => if receiver = id then changes else []
  | _ => []

/-- What becomes of the changes that wait for an observer, if anything: they are
handed over, or they are dropped. -/
def fate? (id : ObserverId) : Event → Option Bool
  | called receiver _ | taken receiver _ => if receiver = id then some true else none
  | stopped receiver => if receiver = id then some false else none
  | _ => none

end Event

/-- What happened, in order. -/
abbrev History : Type := List Event

namespace History

/-- The changes that were handed over to an observer. -/
def handed (id : ObserverId) (history : History) : List Change :=
  history.flatMap (Event.handed id)

/-- Whether the changes that wait for an observer at the start of a history come
to be handed over in it: what is done to them first decides, and otherwise they
wait on, which may count either way. -/
def arrives (id : ObserverId) (waiting : Bool) : History → Bool
  | [] => waiting
  | event :: rest => (event.fate? id).getD (arrives id waiting rest)

/-- The changes that came in for an observer and were handed over to it; those
that wait on may count as well. -/
def arriving (id : ObserverId) (waiting : Bool) : History → List Change
  | [] => []
  | event :: rest =>
    (if arrives id waiting rest then event.incoming id else []) ++ arriving id waiting rest

/-- The changes that came in for an observer, in order and each as often as it
came in, less those that still waited when it was stopped. -/
def surviving (id : ObserverId) (history : History) : List Change :=
  arriving id true history

variable (id : ObserverId) (waiting : Bool) (event : Event)

theorem handed_concat (history : History) :
    handed id (history ++ [event]) = handed id history ++ event.handed id := by
  simp [handed]

theorem arrives_concat (history : History) :
    arrives id waiting (history ++ [event])
      = arrives id ((event.fate? id).getD waiting) history := by
  induction history with
  | nil => rfl
  | cons first rest ih => simp only [List.cons_append, arrives, ih]

theorem arriving_concat (history : History) :
    arriving id waiting (history ++ [event])
      = arriving id ((event.fate? id).getD waiting) history
        ++ if waiting then event.incoming id else [] := by
  induction history with
  | nil => cases waiting <;> simp [arriving, arrives]
  | cons first rest ih =>
    simp only [List.cons_append, arriving, arrives_concat, ih, List.append_assoc]

end History

/-! ## The account of an observer -/

/-- What was handed over to an observer and what waits for it are together what
survives; without those that wait, it is what was handed over. -/
structure Accounts (id : ObserverId) (history : History) (queue : List Change) : Prop where
  surviving : History.arriving id true history = history.handed id ++ queue
  handed : History.arriving id false history = history.handed id

namespace Accounts

variable {id : ObserverId} {history : History} {queue : List Change}

theorem nil (id : ObserverId) : Accounts id [] [] := ⟨rfl, rfl⟩

/-- Changes come in behind those that wait. -/
theorem arrive (accounts : Accounts id history queue) (event : Event)
    (waits : event.fate? id = none) (silent : event.handed id = []) :
    Accounts id (history ++ [event]) (queue ++ event.incoming id) where
  surviving := by
    rw [History.arriving_concat, History.handed_concat, waits, silent, Option.getD_none,
      accounts.surviving, List.append_nil, if_pos rfl, List.append_assoc]
  handed := by
    rw [History.arriving_concat, History.handed_concat, waits, silent, Option.getD_none,
      accounts.handed, if_neg (by decide)]

/-- All that waits is handed over. -/
theorem handOver (accounts : Accounts id history queue) (event : Event)
    (ends : event.fate? id = some true) (all : event.handed id = queue)
    (nothing : event.incoming id = []) : Accounts id (history ++ [event]) [] := by
  have both : ∀ waiting, History.arriving id waiting (history ++ [event])
      = (history ++ [event]).handed id := by
    intro waiting
    rw [History.arriving_concat, History.handed_concat, ends, Option.getD_some,
      accounts.surviving, all, nothing, ite_self, List.append_nil]
  exact ⟨by rw [both, List.append_nil], both false⟩

/-- All that waits is dropped. -/
theorem drop (accounts : Accounts id history queue) (event : Event)
    (ends : event.fate? id = some false) (silent : event.handed id = [])
    (nothing : event.incoming id = []) : Accounts id (history ++ [event]) [] := by
  have both : ∀ waiting, History.arriving id waiting (history ++ [event])
      = (history ++ [event]).handed id := by
    intro waiting
    rw [History.arriving_concat, History.handed_concat, ends, Option.getD_some,
      accounts.handed, silent, nothing, ite_self]
  exact ⟨by rw [both, List.append_nil], both false⟩

/-- An event that has nothing to do with the observer. -/
theorem pass (accounts : Accounts id history queue) (event : Event)
    (waits : event.fate? id = none) (silent : event.handed id = [])
    (nothing : event.incoming id = []) : Accounts id (history ++ [event]) queue := by
  have later := accounts.arrive event waits silent
  rwa [nothing, List.append_nil] at later

end Accounts

end Polyglot
