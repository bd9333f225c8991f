import Signpost.Unicode.Category
import Signpost.Unicode.Folding
import Signpost.Unicode.Property
import Signpost.Unicode.Ranges
import Signpost.Unicode.Script

/-! Sets of characters as expressions over ranges and Unicode tables, with membership as
their only meaning. -/
namespace Signpost

inductive CharSet
  | empty
  | range (lo hi : Char)
  | table (runs : Unicode.Ranges)
  | union (a b : CharSet)
  | inter (a b : CharSet)
  | diff (a b : CharSet)
  | symmDiff (a b : CharSet)
  | compl (a : CharSet)
  | foldAscii (a : CharSet)
  | foldUnicode (a : CharSet)
  deriving Repr

namespace CharSet

/- A folded set holds each character of which some case variant is in the set below it. -/
def contains : CharSet → Char → Bool
  | empty, _ => false
  | range lo hi, c => lo ≤ c && c ≤ hi
  | table runs, c => runs.contains c.toNat
  | union a b, c => a.contains c || b.contains c
  | inter a b, c => a.contains c && b.contains c
  | diff a b, c => a.contains c && !b.contains c
  | symmDiff a b, c => a.contains c != b.contains c
  | compl a, c => !a.contains c
  | foldAscii a, c => [c, c.toLower, c.toUpper].any a.contains
  | foldUnicode a, c =>
    (Unicode.caseVariants Unicode.foldRows c.toNat).any fun n => a.contains (Char.ofNat n)

def single (c : Char) : CharSet := range c c

def unionAll : List CharSet → CharSet
  | [] => empty
  | [a] => a
  | a :: rest => union a (unionAll rest)

def chars (cs : List Char) : CharSet := unionAll (cs.map single)

theorem containsSingle (c d : Char) : (single c).contains d = (d == c) := by
  rw [Bool.eq_iff_iff]
  simp only [single, contains, Bool.and_eq_true, decide_eq_true_eq, beq_iff_eq]
  constructor
  · intro ⟨h, h'⟩; exact Char.le_antisymm h' h
  · rintro rfl; exact ⟨Char.le_refl _, Char.le_refl _⟩

end CharSet

namespace Unicode

def Category.set (c : Category) : CharSet := .table (.ofRuns c.runs)

def Property.set (p : Property) : CharSet := .table (.ofRuns p.runs)

def categories (cs : List Category) : CharSet := .unionAll (cs.map Category.set)

def letters : List Category :=
  [.uppercaseLetter, .lowercaseLetter, .titlecaseLetter, .modifierLetter, .otherLetter]

def marks : List Category := [.nonspacingMark, .spacingMark, .enclosingMark]

def lowercase : CharSet := .union (Category.set .lowercaseLetter) (Property.set .otherLowercase)

def uppercase : CharSet := .union (Category.set .uppercaseLetter) (Property.set .otherUppercase)

def alphabetic : CharSet :=
  .unionAll [lowercase, uppercase,
    categories [.titlecaseLetter, .modifierLetter, .otherLetter, .letterNumber],
    Property.set .otherAlphabetic]

def numeric : CharSet := categories [.decimalNumber, .letterNumber, .otherNumber]

def decimalDigit : CharSet := Category.set .decimalNumber

def whiteSpace : CharSet := Property.set .whiteSpace

def isBlank (c : Char) : Bool := whiteSpace.contains c

def word : CharSet :=
  .unionAll [alphabetic, categories marks, decimalDigit, Category.set .connectorPunctuation,
    Property.set .joinControl]

def graphemeExtend : CharSet :=
  .unionAll [Property.set .otherGraphemeExtend, categories [.nonspacingMark, .enclosingMark]]

/- Shown as nothing where they are not supported. Format characters with a visible form
are not among them. -/
def defaultIgnorable : CharSet :=
  .diff (.unionAll [Property.set .otherDefaultIgnorable, Category.set .format,
      Property.set .variationSelector])
    (.unionAll [whiteSpace, Property.set .prependedConcatenationMark,
      .range '\ufff9' '\ufffb', .range (Char.ofNat 0x13430) (Char.ofNat 0x1343f)])

def assigned : CharSet := categories Category.all

/- Outside it are controls, formats, private and unassigned code points, and separators
other than the space. -/
def printable : CharSet :=
  .diff assigned
    (.diff (categories [.control, .format, .privateUse, .lineSeparator,
      .paragraphSeparator, .spaceSeparator]) (.single ' '))

end Unicode
end Signpost
