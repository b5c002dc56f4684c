import Progression.Service.Telling

namespace Progression

/-- A message under the name of a channel outside. -/
structure Publication where
  channel : String
  payload : String
  deriving DecidableEq, Repr

namespace Publication

/-- A change of level as the text of an object. -/
def payloadOf (change : LevelChange) : String :=
  "\x7b\"identity\": \"" ++ change.identity ++ "\", \"old_level\": " ++ toString change.old
    ++ ", \"new_level\": " ++ toString change.new ++ "\x7d"

/-- What is published of a notice. -/
def ofNotice? : Notice → Option Publication
  | .rose change => some ⟨"pubsub:level_up", payloadOf change⟩
  | .fell change => some ⟨"pubsub:level_down", payloadOf change⟩
  | _ => none

end Publication

namespace Broadcaster

variable {L : Type} [DecidableEq L]

/-- Register a broadcaster. -/
def attach (broadcaster : L) (channels : Channels L) : Channels L :=
  (channels.change .levelUp (.register broadcaster)).change .levelDown (.register broadcaster)

/-- Take back one registration of a broadcaster. -/
def detach (broadcaster : L) (channels : Channels L) : Channels L :=
  (channels.change .levelUp (.unregister broadcaster)).change .levelDown (.unregister broadcaster)

/-- What a broadcaster does when it is told of a notice: once it has tried to publish it is done, whether or
not the attempt failed. -/
def reaction : Reaction L := .finish

/-- The attempts to publish that deliveries stand for. -/
def attempts (broadcaster : L) (deliveries : List (Delivery L)) : List Publication :=
  deliveries.filterMap fun delivery =>
    if delivery.listener = broadcaster then Publication.ofNotice? delivery.notice else none

/-- What gets through of attempts, counted from zero. -/
def published (accepts : Nat → Bool) (attempts : List Publication) : List Publication :=
  (attempts.zipIdx.filter fun attempt => accepts attempt.2).map Prod.fst

end Broadcaster

end Progression
