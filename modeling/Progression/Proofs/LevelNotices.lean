import Progression.Proofs.Hearing

namespace Progression

namespace Notice

/-- The change of level that a notice tells of. -/
def levelChange? : Notice → Option LevelChange
  | rose change | fell change => some change
  | _ => none

def isLevel (notice : Notice) : Bool := notice.levelChange?.isSome

end Notice

/-- The changes of level that notices tell of. -/
def levelChanges (notices : List Notice) : List LevelChange := notices.filterMap Notice.levelChange?

theorem levelChanges_append {first second : List Notice} :
    levelChanges (first ++ second) = levelChanges first ++ levelChanges second := List.filterMap_append

theorem levelChanges_filter_isLevel {notices : List Notice} :
    levelChanges (notices.filter Notice.isLevel) = levelChanges notices := by
  rw [levelChanges, List.filterMap_filter]
  refine List.filterMap_congr fun notice _ => ?_
  cases notice <;> rfl

/-- The notices about an identity. -/
def noticesAbout (identity : Identity) (notices : List Notice) : List Notice :=
  notices.filter fun notice => notice.identity = identity

/-- The notices of the level of an identity. -/
def noticesOfLevel (identity : Identity) (notices : List Notice) : List Notice :=
  (noticesAbout identity notices).filter Notice.isLevel

section About

variable {identity : Identity} {first second : List Notice}

theorem noticesAbout_append :
    noticesAbout identity (first ++ second) = noticesAbout identity first ++ noticesAbout identity second := by
  rw [noticesAbout, List.filter_append]
  rfl

theorem levelChanges_noticesOfLevel {notices : List Notice} :
    levelChanges (noticesOfLevel identity notices) = levelChanges (noticesAbout identity notices) :=
  levelChanges_filter_isLevel

end About

namespace LevelChange

/-- The level after changes, if each of them starts from where the one before led to. -/
def follow (level : Nat) : List LevelChange → Option Nat
  | [] => some level
  | change :: rest => if change.old = level then follow change.new rest else none

theorem follow_append {level : Nat} {first second : List LevelChange} :
    follow level (first ++ second) = (follow level first).bind fun level => follow level second := by
  induction first generalizing level with
  | nil => rfl
  | cons change rest ih =>
    simp only [List.cons_append, follow]
    split
    · exact ih
    · rfl

end LevelChange

open LevelChange

namespace Mutation

/-- Whether a change of XP is to add some. -/
def addsXp : Mutation → Bool
  | addXp _ => true
  | _ => false

/-- Whether a change of XP is to remove some. -/
def removesXp : Mutation → Bool
  | removeXp _ => true
  | _ => false

/-- What is told of a level before and after a change: that it rose, unless the change was to remove XP, and that it
fell, unless the change was to add XP. -/
def levelNotices (identity : Identity) (old new : Nat) (mutation : Mutation) : List Notice :=
  if old < new then if mutation.removesXp then [] else [.rose ⟨identity, old, new⟩]
  else if new < old then if mutation.addsXp then [] else [.fell ⟨identity, old, new⟩]
  else []

/-- Whether the level is another one after a change, and no notice tells of it. -/
def Untold (old new : Nat) (mutation : Mutation) : Prop :=
  mutation.addsXp ∧ new < old ∨ mutation.removesXp ∧ old < new

/-- No amount below zero is added or removed. -/
def Forward : Mutation → Prop
  | addXp amount => 0 ≤ amount
  | removeXp amount => 0 ≤ amount
  | _ => True

variable {mutation : Mutation} {formula : Formula} {identity : Identity}

theorem notices_eq {old new : Int} :
    mutation.notices formula identity old new
      = (mutation.notices formula identity old new).filter (fun notice => !notice.isLevel)
        ++ mutation.levelNotices identity (formula.levelForXp old) (formula.levelForXp new) := by
  rcases lt_trichotomy (formula.levelForXp old) (formula.levelForXp new) with rises | same | falls
  · cases mutation <;>
      simp [notices, levelNotices, removesXp, Notice.ofRise, Notice.ofFall, Notice.isLevel, Notice.levelChange?, rises,
        rises.not_gt]
  · cases mutation <;>
      simp [notices, levelNotices, Notice.ofRise, Notice.ofFall, Notice.isLevel, Notice.levelChange?, same]
  · cases mutation <;>
      simp [notices, levelNotices, addsXp, Notice.ofRise, Notice.ofFall, Notice.isLevel, Notice.levelChange?, falls,
        falls.not_gt]

theorem isLevel_of_mem_levelNotices {old new : Nat} {notice : Notice}
    (member : notice ∈ mutation.levelNotices identity old new) : notice.isLevel = true := by
  rw [levelNotices] at member
  split at member <;> split at member <;> try split at member
  all_goals simp_all [Notice.isLevel, Notice.levelChange?]

theorem filter_isLevel_notices {old new : Int} :
    (mutation.notices formula identity old new).filter Notice.isLevel
      = mutation.levelNotices identity (formula.levelForXp old) (formula.levelForXp new) := by
  rw [notices_eq, List.filter_append, List.filter_filter]
  have none_left : (mutation.notices formula identity old new).filter (fun notice => notice.isLevel && !notice.isLevel)
      = [] := List.filter_eq_nil_iff.2 (by simp)
  rw [none_left, List.nil_append]
  exact List.filter_eq_self.2 fun notice member => isLevel_of_mem_levelNotices member

theorem identity_of_mem_notices {old new : Int} {notice : Notice}
    (member : notice ∈ mutation.notices formula identity old new) : notice.identity = identity := by
  cases mutation <;> grind [notices, Notice.ofRise, Notice.ofFall, Notice.identity]

/-- Who follows what is told of a level arrives where the level is, unless the change goes untold. -/
theorem follow_levelNotices {old new : Nat} :
    follow old (levelChanges (mutation.levelNotices identity old new)) = some new ↔ ¬ mutation.Untold old new := by
  rw [levelNotices, Untold]
  rcases lt_trichotomy old new with rises | rfl | falls
  · rw [if_pos rises]
    cases removes : mutation.removesXp <;>
      simp [levelChanges, Notice.levelChange?, follow, rises, rises.not_gt, rises.ne]
  · simp [levelChanges, follow]
  · rw [if_neg falls.not_gt, if_pos falls]
    cases adds : mutation.addsXp <;>
      simp [levelChanges, Notice.levelChange?, follow, falls, falls.not_gt, falls.ne']

/-- Amounts that are not below zero move the level their way or not at all. -/
theorem not_untold_of_forward {xp : Int} (forward : mutation.Forward) (inRange : 0 ≤ xp ∧ xp ≤ maxXp) :
    ¬ mutation.Untold (formula.levelForXp xp) (formula.levelForXp (mutation.apply formula xp)) := by
  rintro (⟨adds, falls⟩ | ⟨removes, rises⟩)
  · cases mutation with
    | addXp amount =>
      have more : xp ≤ (Mutation.addXp amount).apply formula xp := by
        have nonneg : 0 ≤ amount := forward
        rw [apply, target, clampXp]
        omega
      exact falls.not_ge (formula.levelForXp_monotone more)
    | _ => cases adds
  · cases mutation with
    | removeXp amount =>
      have less : (Mutation.removeXp amount).apply formula xp ≤ xp := by
        have nonneg : 0 ≤ amount := forward
        rw [apply, target, clampXp]
        omega
      exact rises.not_ge (formula.levelForXp_monotone less)
    | _ => cases removes

end Mutation

namespace Commit

variable {formula : Formula} {identity : Identity} {log : List Commit} {start : Int}

theorem new_inRange {commit : Commit} {xp : Int} (new : commit.new = clampXp xp) :
    0 ≤ commit.new ∧ commit.new ≤ maxXp := by
  rw [new]
  exact clampXp_mem

theorem last_inRange (chained : Chained formula start log) (inRange : 0 ≤ start ∧ start ≤ maxXp) :
    0 ≤ last start log ∧ last start log ≤ maxXp := by
  induction log generalizing start with
  | nil => exact inRange
  | cons commit rest ih =>
    obtain ⟨-, new, chained⟩ := chained
    exact ih chained (new_inRange new)

theorem noticesAbout_log :
    noticesAbout identity (log.flatMap (notices formula)) = (about identity log).flatMap (notices formula) := by
  induction log with
  | nil => rfl
  | cons commit rest ih =>
    rw [List.flatMap_cons, noticesAbout_append, ih]
    by_cases own : commit.identity = identity
    · have kept : noticesAbout identity (commit.notices formula) = commit.notices formula := by
        refine List.filter_eq_self.2 fun notice member => ?_
        simpa [own] using Mutation.identity_of_mem_notices member
      rw [kept]
      simp [own, about]
    · have none_kept : noticesAbout identity (commit.notices formula) = [] := by
        refine List.filter_eq_nil_iff.2 fun notice member => ?_
        simpa [Mutation.identity_of_mem_notices member] using own
      rw [none_kept]
      simp [own, about]

/-- What a log tells of the level is a chain from the level before it to the level after it, if no amount below zero
is added or removed. -/
theorem follow_levels (chained : Chained formula start log) (inRange : 0 ≤ start ∧ start ≤ maxXp)
    (forward : ∀ commit ∈ log, commit.mutation.Forward) :
    follow (formula.levelForXp start) (levelChanges (log.flatMap (notices formula)))
      = some (formula.levelForXp (last start log)) := by
  induction log generalizing start with
  | nil => rfl
  | cons commit rest ih =>
    obtain ⟨rfl, new, chained⟩ := chained
    have told : follow (formula.levelForXp commit.old) (levelChanges (commit.notices formula))
        = some (formula.levelForXp commit.new) := by
      rw [← levelChanges_filter_isLevel, notices, Mutation.filter_isLevel_notices, Mutation.follow_levelNotices, new]
      exact Mutation.not_untold_of_forward (forward commit (List.mem_cons_self ..)) inRange
    rw [List.flatMap_cons, levelChanges_append, follow_append, told]
    exact ih chained (new_inRange new) fun other member => forward other (List.mem_cons_of_mem _ member)

end Commit

/-- Who is registered once for both topics of levels is told of each change of level once. -/
theorem filter_isLevel_copies {often : Topic → Nat} (up : often .levelUp = 1) (down : often .levelDown = 1)
    {notices : List Notice} : (copies often notices).filter Notice.isLevel = notices.filter Notice.isLevel := by
  induction notices with
  | nil => rfl
  | cons notice rest ih =>
    rw [copies, List.flatMap_cons, ← copies, List.filter_append, ih]
    cases notice <;> simp [List.filter_cons, Notice.isLevel, Notice.levelChange?, Notice.topic, up, down]

theorem noticesAbout_copies {often : Topic → Nat} {notices : List Notice} {identity : Identity} :
    noticesAbout identity (copies often notices) = copies often (noticesAbout identity notices) := by
  induction notices with
  | nil => rfl
  | cons notice rest ih =>
    rw [copies, List.flatMap_cons, ← copies, noticesAbout_append, ih]
    by_cases own : notice.identity = identity <;> simp [noticesAbout, copies, own]

/-- Of the level of an identity such a listener is told just the notices that there are. -/
theorem noticesOfLevel_copies {often : Topic → Nat} (up : often .levelUp = 1) (down : often .levelDown = 1)
    {notices : List Notice} {identity : Identity} :
    noticesOfLevel identity (copies often notices) = noticesOfLevel identity notices := by
  rw [noticesOfLevel, noticesAbout_copies, filter_isLevel_copies up down, noticesOfLevel]

end Progression
