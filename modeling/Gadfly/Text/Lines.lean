/-
  Gadfly.Text.Lines

  The lines of a stream of bytes.

  A line ends with a line feed, which belongs to it. What follows the last line feed is a line
  too, unless there is nothing. So `lines` loses no byte (`flatten_lines`), and every byte belongs
  to one line.

  Main definitions: `lines`.
-/

namespace Gadfly.Text

/-- The byte that ends a line. -/
def lineFeed : UInt8 := 0x0A

/-- The lines of a stream, each with the line feed that ends it. -/
def lines : List UInt8 → List (List UInt8)
  | [] => []
  | b :: rest =>
    if b = lineFeed then [b] :: lines rest
    else
      match lines rest with
      | [] => [[b]]
      | line :: more => (b :: line) :: more

@[simp] theorem lines_nil : lines [] = [] := rfl

/-- The `lines` one after the other are the stream. -/
@[simp] theorem flatten_lines (bytes : List UInt8) : (lines bytes).flatten = bytes := by
  induction bytes with
  | nil => rfl
  | cons b rest ih =>
    simp only [lines]
    split
    · simp [ih]
    · split
      · rename_i h
        simpa [h] using ih
      · rename_i line more h
        simpa [h] using ih

end Gadfly.Text
