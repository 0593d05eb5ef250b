/-!
What the program runs on. How deep calls can be nested before it breaks down, which characters no
terminal can write, how wide the columns of a table are, and what the clock says are not for the
program to decide. A platform gives all of that, and what is proved of the program holds on every
platform.
-/
namespace ThreatAnalysis

/-- Whether a character is one that the program itself shows: those of its lines, the ellipsis, and
what chooses the form of an emoji. -/
def isOwnCharacter (c : Char) : Bool :=
  c.toNat < 0x80 || ['…', '\uFE0E', '\uFE0F'].contains c

/-- What the program runs on. -/
class Platform where
  /-- How deep expressions may lie within one another, the outermost one included. -/
  deepestExpression : Nat
  sixty_lt_deepestExpression : 60 < deepestExpression
  deepestExpression_lt_thousand : deepestExpression < 1000
  /-- How deep the documents in files may be nested. -/
  deepestDocument : Nat
  /-- How deep a value may be nested to be written as a text. -/
  deepestText : Nat
  /-- How deep a diagram may be nested to be copied. -/
  deepestDiagram : Nat
  /-- There is room for the findings of a cell. -/
  five_le_deepestDiagram : 5 ≤ deepestDiagram
  /-- How many directories can be made at once, one in the other. -/
  mostAtOnce : Nat
  /-- The character that stands for half a pair of sixteen-bit units, which is none itself. It is
  chosen so that no text at hand has it for another reason. -/
  half : Nat → Char
  /-- The unit that a character stands for, if it stands for half a pair. -/
  unit? : Char → Option Nat
  unit?_half : ∀ unit, 0xD800 ≤ unit → unit < 0xE000 → unit? (half unit) = some unit
  unit?_own : ∀ c, isOwnCharacter c = true → unit? c = none
  /-- The characters shown for the name of an emoji. -/
  emoji? : List Char → Option (List Char)
  unit?_emoji : ∀ name shown, emoji? name = some shown → ∀ c ∈ shown, unit? c = none
  /-- Whether a text is the name of a character. -/
  isCharacterName : List Char → Bool
  /-- How wide the columns of a table are on the terminal, by how wide they would have to be. -/
  columnWidths : List Nat → List Nat
  length_columnWidths : ∀ needed, (columnWidths needed).length = needed.length
  /-- What distinguishes the identifier of a generated finding from that of its cell. It stands for
  a time and a random number that are new for each finding, so that generated findings are known up
  to their identifiers. -/
  mark : String
  /-- The time of an analysis. -/
  timestamp : String

namespace Platform

/-- Where the characters that stand for half a pair start, among those for private use. -/
def firstHalf : Nat := 0xFA800

theorem toNat_halfAt {unit : Nat} (low : 0xD800 ≤ unit) (high : unit < 0xE000) :
    (Char.ofNat (firstHalf + (unit - 0xD800))).toNat = firstHalf + (unit - 0xD800) := by
  have valid : (firstHalf + (unit - 0xD800)).isValidChar := by
    unfold firstHalf Nat.isValidChar
    omega
  rw [Char.ofNat, dif_pos valid]
  rfl

/-- A platform on which the clock and the random source stand still, nothing has a name, and there is
room for columns of any width. -/
scoped instance usual : Platform where
  deepestExpression := 100
  sixty_lt_deepestExpression := by decide
  deepestExpression_lt_thousand := by decide
  deepestDocument := 985
  deepestText := 985
  deepestDiagram := 492
  five_le_deepestDiagram := by decide
  mostAtOnce := 980
  half unit := Char.ofNat (firstHalf + (unit - 0xD800))
  unit? c :=
    if firstHalf ≤ c.toNat ∧ c.toNat < firstHalf + 0x800 then some (c.toNat - firstHalf + 0xD800)
    else none
  unit?_half unit low high := by
    rw [toNat_halfAt low high, if_pos (by omega), Nat.add_sub_cancel_left, Nat.sub_add_cancel low]
  unit?_own c own := by
    rw [if_neg]
    unfold isOwnCharacter at own
    unfold firstHalf
    rcases Bool.or_eq_true_iff.mp own with ascii | other
    · have small := of_decide_eq_true ascii
      omega
    · have small : (['…', '\uFE0E', '\uFE0F'].all fun c => c.toNat < 0xFA800) = true := by decide
      have below := of_decide_eq_true (List.all_eq_true.mp small c (List.contains_iff_mem.mp other))
      omega
  emoji? _ := none
  unit?_emoji := nofun
  isCharacterName _ := false
  columnWidths needed := needed
  length_columnWidths _ := rfl
  mark := "1700000000000000000-01234567"
  timestamp := "<time>"

end Platform
end ThreatAnalysis
