import Reconcile.Text.Span

set_option autoImplicit false

/-
Blanks around a text. Two sets are in use: `isSpace` for the strings of a payload, and
`isBlank`, which also has the four separators U+001C to U+001F, for all else. Neither has the
zero width space, the Mongolian vowel separator or the byte order mark.
-/
namespace Reconcile.Text

/-- The white space of payload strings. -/
def spaceSpans : List (Nat × Nat) := [
  (0x9, 0xD), (0x20, 0x20), (0x85, 0x85), (0xA0, 0xA0), (0x1680, 0x1680), (0x2000, 0x200A),
  (0x2028, 0x2029), (0x202F, 0x202F), (0x205F, 0x205F), (0x3000, 0x3000)]

def isSpace (c : Char) : Bool := withinSpans spaceSpans c.toNat

/-- White space and the information separators. -/
def isBlank (c : Char) : Bool := isSpace c || (0x1C ≤ c.toNat && c.toNat ≤ 0x1F)

/-- Drops characters of a class from both ends. -/
def trimBy (drop : Char → Bool) (cs : List Char) : List Char :=
  ((cs.dropWhile drop).reverse.dropWhile drop).reverse

/-- The text without the blanks around it. -/
def strip (s : String) : String := String.ofList (trimBy isBlank s.toList)

/-- The text without the white space around it. -/
def trim (s : String) : String := String.ofList (trimBy isSpace s.toList)

end Reconcile.Text
