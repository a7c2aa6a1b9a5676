/-!
# Blanks and words

White space is the Unicode property White_Space, so a line feed and an ideographic space
separate words alike. The words of a text are its maximal runs without a blank; trimming
takes the blanks off both ends and leaves those inside.
-/

namespace Criteria.Text

/-- Tell whether a character has the property White_Space. -/
def isBlank (c : Char) : Bool :=
  let n := c.toNat
  (0x09 ≤ n && n ≤ 0x0d) || n == 0x20 || n == 0x85 || n == 0xa0 || n == 0x1680 ||
    (0x2000 ≤ n && n ≤ 0x200a) || n == 0x2028 || n == 0x2029 || n == 0x202f || n == 0x205f ||
    n == 0x3000

/-- Cut a list of characters at its blanks and keep the pieces that hold something. -/
def wordLists (cs : List Char) : List (List Char) :=
  (cs.splitOnP isBlank).filter fun w => !w.isEmpty

/-- The words of a text, from left to right. -/
def words (text : String) : List String :=
  (wordLists text.toList).map String.ofList

/-- Take the blanks off both ends of a list of characters. -/
def trimList (cs : List Char) : List Char :=
  ((cs.dropWhile isBlank).reverse.dropWhile isBlank).reverse

/-- Take the blanks off both ends of a text. -/
def trim (text : String) : String :=
  String.ofList (trimList text.toList)

/-- A blank between two lists of characters ends the words of the first. -/
theorem wordLists_append_blank {c : Char} (hc : isBlank c = true) (x y : List Char) :
    wordLists (x ++ c :: y) = wordLists x ++ wordLists y := by
  simp [wordLists, List.splitOnP_append_cons x y hc]

/-- A space between two texts keeps their words apart. -/
theorem words_append_space (first second : String) :
    words (first ++ " " ++ second) = words first ++ words second := by
  have hspace : (first ++ " " ++ second).toList = first.toList ++ ' ' :: second.toList := by simp
  rw [words, hspace, wordLists_append_blank (by decide), List.map_append]
  rfl

example : words " a\tb\u3000c " = ["a", "b", "c"] := by decide +kernel

example : trim " a b\u00a0" = "a b" := by decide +kernel

end Criteria.Text
