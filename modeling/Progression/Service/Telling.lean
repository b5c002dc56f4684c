import Progression.Service.Request
import Progression.Store.Basic

namespace Progression

/-- What a listener does when it is told of a notice. -/
inductive Reaction (L : Type) where
  | finish
  /-- The listener fails, which concerns nobody else. -/
  | fail
  | change (topic : Topic) (change : Change L) (rest : Reaction L)
  /-- Others may go on before the listener does. -/
  | wait (rest : Reaction L)
  | call (call : Call) (rest : Outcome → Reaction L)

/-- A listener that was told of a notice. -/
structure Delivery (L : Type) where
  listener : L
  notice : Notice
  deriving DecidableEq, Repr

/-- The rules of a service: its formula, its ranks, and how each listener reacts to a notice after what has
been told before. -/
structure Service (L : Type) where
  formula : Formula
  ranks : RankBook
  react : List (Delivery L) → L → Notice → Reaction L

/-- The state of a service and of its store. -/
structure Service.State (L : Type) where
  store : Store
  /-- The XP of the identities that were loaded. -/
  cache : Entries Identity Int := ∅
  /-- The identities that some call works on. -/
  locked : List Identity := []
  channels : Channels L := {}
  /-- What was told, in order. -/
  deliveries : List (Delivery L) := []

/-- Where a listener stops. -/
inductive Stop (L : Type) where
  | wait (rest : Reaction L)
  | call (call : Call) (rest : Outcome → Reaction L)

/-- A telling that stopped: at which notice, who is still to be told of it, and the notices after it. -/
structure Telling (L : Type) where
  notice : Notice
  listeners : List L
  notices : List Notice

namespace Service

variable {L : Type} [DecidableEq L]

/-- Let a listener go on up to its end or to where it stops. -/
def runReaction (state : State L) : Reaction L → State L × Option (Stop L)
  | .finish => (state, none)
  | .fail => (state, none)
  | .change topic change rest =>
    runReaction { state with channels := state.channels.change topic change } rest
  | .wait rest => (state, some (.wait rest))
  | .call call rest => (state, some (.call call rest))

/-- Tell listeners of a notice, up to the end or to a listener that stops. -/
def tellListeners (service : Service L) (notice : Notice) (state : State L) :
    List L → State L × Option (Stop L × List L)
  | [] => (state, none)
  | listener :: rest =>
    let told := { state with deliveries := state.deliveries ++ [⟨listener, notice⟩] }
    match runReaction told (service.react state.deliveries listener notice) with
    | (state, none) => tellListeners service notice state rest
    | (state, some stop) => (state, some (stop, rest))

/-- Tell of notices, of each the listeners that are registered for its topic when it is taken up. -/
def tell (service : Service L) (state : State L) : List Notice → State L × Option (Stop L × Telling L)
  | [] => (state, none)
  | notice :: rest =>
    match tellListeners service notice state (state.channels.get notice.topic).listeners with
    | (state, none) => tell service state rest
    | (state, some (stop, listeners)) => (state, some (stop, ⟨notice, listeners, rest⟩))

/-- Let a listener that stopped go on, and then the telling. -/
def goOn (service : Service L) (state : State L) (reaction : Reaction L) (telling : Telling L) :
    State L × Option (Stop L × Telling L) :=
  match runReaction state reaction with
  | (state, some stop) => (state, some (stop, telling))
  | (state, none) =>
    match tellListeners service telling.notice state telling.listeners with
    | (state, some (stop, listeners)) => (state, some (stop, { telling with listeners }))
    | (state, none) => tell service state telling.notices

end Service

end Progression
