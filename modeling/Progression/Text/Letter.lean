namespace Progression.Text

/-- The letters outside ASCII whose capitals are plain letters. -/
def plainCapitals : List (Char × String) := [
  ('ß', "SS"), ('ı', "I"), ('ſ', "S"), ('ﬀ', "FF"), ('ﬁ', "FI"), ('ﬂ', "FL"),
  ('ﬃ', "FFI"), ('ﬄ', "FFL"), ('ﬅ', "ST"), ('ﬆ', "ST")]

/-- The capital of a letter. A letter with no plain capital is kept: no name in plain letters has it. -/
def capital (c : Char) : List Char :=
  match plainCapitals.lookup c with
  | some letters => letters.toList
  | none => [c.toUpper]

/-- A text in capitals. -/
def capitals (text : List Char) : List Char := text.flatMap capital

/-- A text in small letters, plain letters alone being changed. -/
def smallLetters (text : List Char) : List Char := text.map Char.toLower

end Progression.Text
