/-
  Gadfly.Text.Blank

  Blank characters and trimming.

  `isBlank` is the Unicode property White_Space: 25 characters, among them the no-break space and
  the ideographic space, but neither the zero width space nor the byte order mark. Every rule of
  the bot that trims (`trim`, `String.trimmed`), splits or asks for "something other than blanks"
  (`allBlank`) means this class.

  Main definitions: `isBlank`, `trimStart`, `trimEnd`, `trim`, `allBlank`.
-/

namespace Gadfly.Text

/-! ## The class -/

/-- The characters with the Unicode property White_Space. -/
def isBlank (c : Char) : Bool :=
  let n := c.toNat
  (9 ≤ n && n ≤ 13) || n == 0x20 || n == 0x85 || n == 0xA0 || n == 0x1680 ||
    (0x2000 ≤ n && n ≤ 0x200A) || n == 0x2028 || n == 0x2029 || n == 0x202F || n == 0x205F ||
    n == 0x3000

/-- Every character that core calls whitespace is blank. -/
theorem isBlank_of_isWhitespace {c : Char} (h : c.isWhitespace) : isBlank c := by
  simp only [Char.isWhitespace, Bool.or_eq_true, decide_eq_true_eq] at h
  rcases h with ((rfl | rfl) | rfl) | rfl <;> decide

/-! ## Trimming lists of characters -/

/-- Drops the blanks in front. -/
def trimStart (cs : List Char) : List Char :=
  cs.dropWhile isBlank

/-- Drops the blanks at the end. -/
def trimEnd (cs : List Char) : List Char :=
  (cs.reverse.dropWhile isBlank).reverse

/-- Drops the blanks at both ends. -/
def trim (cs : List Char) : List Char :=
  trimEnd (trimStart cs)

/-- Whether there is nothing but blanks. -/
def allBlank (cs : List Char) : Bool :=
  cs.all isBlank

@[simp] theorem trimStart_nil : trimStart [] = [] := rfl

@[simp] theorem trimEnd_nil : trimEnd [] = [] := rfl

@[simp] theorem trim_nil : trim [] = [] := rfl

end Gadfly.Text

namespace String

/-- The text without the blanks at both ends. -/
def trimmed (s : String) : String :=
  String.ofList (Gadfly.Text.trim s.toList)

/-- The text without the blanks in front. -/
def trimmedStart (s : String) : String :=
  String.ofList (Gadfly.Text.trimStart s.toList)

/-- Whether the text holds nothing but blanks. -/
def allBlank (s : String) : Bool :=
  Gadfly.Text.allBlank s.toList

end String
