/-!
Blank characters and trimming. The blank characters are the Unicode white space characters
together with the four information separators U+001C to U+001F; trimming removes them from both
ends of a text and nowhere else.
-/
namespace ThreatAnalysis.Text

/-- The characters that trimming removes. -/
def isBlank (c : Char) : Bool :=
  let n := c.toNat
  (0x09 ≤ n && n ≤ 0x0D) || (0x1C ≤ n && n ≤ 0x20) || n == 0x85 || n == 0xA0 || n == 0x1680 ||
    (0x2000 ≤ n && n ≤ 0x200A) || n == 0x2028 || n == 0x2029 || n == 0x202F || n == 0x205F ||
    n == 0x3000

/-- Removes the blank characters at the front. -/
def trimFront (text : List Char) : List Char :=
  text.dropWhile isBlank

/-- Removes the blank characters at both ends. -/
def trim (text : List Char) : List Char :=
  (trimFront (trimFront text).reverse).reverse

/-- `trim` on strings. -/
def trimmed (text : String) : String :=
  String.ofList (trim text.toList)

@[simp] theorem trim_nil : trim [] = [] := rfl

/-- Trimming never lengthens a text. -/
theorem length_trim_le (text : List Char) : (trim text).length ≤ text.length := by
  have shorter : ∀ t : List Char, (trimFront t).length ≤ t.length := fun t =>
    (List.dropWhile_sublist isBlank).length_le
  have inner := shorter text
  have outer := shorter (trimFront text).reverse
  simp only [trim, List.length_reverse] at outer ⊢
  omega

end ThreatAnalysis.Text
