/-!
Channels: the listeners that are registered for one sort of notice, in the order of their registrations. A
dispatch calls the listeners that were registered when it started, whatever they change meanwhile.
-/

namespace Progression

/-- A change of the registrations of a channel. -/
inductive Change (L : Type) where
  | register (listener : L)
  /-- Remove the earliest registration of a listener, if there is one. -/
  | unregister (listener : L)
  deriving DecidableEq, Repr

/-- The listeners registered with a channel. A listener may be registered several times. -/
structure Channel (L : Type) where
  listeners : List L := []
  deriving DecidableEq, Repr

/-- What a listener did when it was called: the changes that it made, and whether it failed in the end. -/
structure Response (L : Type) where
  changes : List (Change L)
  failed : Bool := false

namespace Channel

variable {L : Type}

def size (channel : Channel L) : Nat := channel.listeners.length

def register (channel : Channel L) (listener : L) : Channel L := ⟨channel.listeners ++ [listener]⟩

variable [BEq L]

/-- Whether a listener, or an equal one, is registered. -/
def isRegistered (channel : Channel L) (listener : L) : Bool := channel.listeners.any (· == listener)

/-- Remove the earliest registration of a listener or an equal one, if there is one. -/
def unregister (channel : Channel L) (listener : L) : Channel L := ⟨channel.listeners.erase listener⟩

def change (channel : Channel L) : Change L → Channel L
  | .register listener => channel.register listener
  | .unregister listener => channel.unregister listener

/-- Make changes in their order. -/
def changeAll (channel : Channel L) (changes : List (Change L)) : Channel L := changes.foldl change channel

/-- Call one listener, after the calls made before. -/
def call (respond : List (L × Response L) → L → Response L) (state : Channel L × List (L × Response L))
    (listener : L) : Channel L × List (L × Response L) :=
  let response := respond state.2 listener
  (state.1.changeAll response.changes, state.2 ++ [(listener, response)])

/-- Call each listener that is registered now, in order. What a listener does may hang on the calls before
it, and its failure stops nothing. Gives the channel afterwards, and all calls with those made before. -/
def dispatch (respond : List (L × Response L) → L → Response L) (calls : List (L × Response L))
    (channel : Channel L) : Channel L × List (L × Response L) :=
  channel.listeners.foldl (call respond) (channel, calls)

end Channel

end Progression
