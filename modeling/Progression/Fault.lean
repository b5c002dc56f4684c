namespace Progression

inductive FaultKind where
  /-- Parameters, expressions, tables or texts of settings are wrong. -/
  | configuration
  /-- A stored description of a formula cannot be read. -/
  | descriptor
  /-- The store cannot read or write. -/
  | store
  /-- A migration was given up. -/
  | migration
  /-- A number is past the range of its representation. -/
  | overflow
  /-- A value is outside what an operation takes. -/
  | value
  | zeroDivision
  | type
  | runtime
  | timeout
  deriving DecidableEq, Repr

end Progression
