import Progression.Channel

namespace Progression

/-- The name of one whose XP is kept. -/
abbrev Identity := String

/-- XP that was added or removed. The amount is the one that was asked for. -/
structure XpChange where
  identity : Identity
  amount : Int
  old : Int
  new : Int
  deriving DecidableEq, Repr

structure LevelChange where
  identity : Identity
  old : Nat
  new : Nat
  deriving DecidableEq, Repr

/-- What listeners ask for. -/
inductive Topic where
  | levelUp
  | levelDown
  | xpGain
  | xpLoss
  deriving DecidableEq, Repr

namespace Topic

def all : List Topic := [levelUp, levelDown, xpGain, xpLoss]

def name : Topic → String
  | levelUp => "level_up"
  | levelDown => "level_down"
  | xpGain => "xp_gain"
  | xpLoss => "xp_loss"

def ofName? (name : String) : Option Topic := all.find? fun topic => topic.name = name

end Topic

inductive Notice where
  | gained (change : XpChange)
  | lost (change : XpChange)
  | rose (change : LevelChange)
  | fell (change : LevelChange)
  deriving DecidableEq, Repr

namespace Notice

def topic : Notice → Topic
  | gained _ => .xpGain
  | lost _ => .xpLoss
  | rose _ => .levelUp
  | fell _ => .levelDown

def identity : Notice → Identity
  | gained change | lost change => change.identity
  | rose change | fell change => change.identity

/-- The notice that a level rose, if it did. -/
def ofRise (identity : Identity) (old new : Nat) : List Notice :=
  if old < new then [rose ⟨identity, old, new⟩] else []

/-- The notice that a level fell, if it did. -/
def ofFall (identity : Identity) (old new : Nat) : List Notice :=
  if new < old then [fell ⟨identity, old, new⟩] else []

end Notice

/-- The channels of the topics. -/
structure Channels (L : Type) where
  levelUp : Channel L := {}
  levelDown : Channel L := {}
  xpGain : Channel L := {}
  xpLoss : Channel L := {}

namespace Channels

variable {L : Type}

def get (channels : Channels L) : Topic → Channel L
  | .levelUp => channels.levelUp
  | .levelDown => channels.levelDown
  | .xpGain => channels.xpGain
  | .xpLoss => channels.xpLoss

def set (channels : Channels L) (topic : Topic) (channel : Channel L) : Channels L :=
  match topic with
  | .levelUp => { channels with levelUp := channel }
  | .levelDown => { channels with levelDown := channel }
  | .xpGain => { channels with xpGain := channel }
  | .xpLoss => { channels with xpLoss := channel }

@[simp] theorem get_set {channels : Channels L} {topic asked : Topic} {channel : Channel L} :
    (channels.set topic channel).get asked = if topic = asked then channel else channels.get asked := by
  cases topic <;> cases asked <;> rfl

/-- Change the registrations for a topic. -/
def change [DecidableEq L] (channels : Channels L) (topic : Topic) (change : Change L) : Channels L :=
  channels.set topic ((channels.get topic).change change)

end Channels

end Progression
