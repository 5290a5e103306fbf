/-!
# Blank characters

The white space of the Unicode character database, and the words that it separates.
-/

namespace TermSync.Text

/-- Whether a character is white space. -/
def isBlank (c : Char) : Bool :=
  let n := c.toNat
  (0x09 ≤ n && n ≤ 0x0D) || n == 0x20 || n == 0x85 || n == 0xA0 || n == 0x1680 ||
    (0x2000 ≤ n && n ≤ 0x200A) || n == 0x2028 || n == 0x2029 || n == 0x202F || n == 0x205F ||
    n == 0x3000

/-- The words of a text, after the characters of the current word in `acc` (newest first). -/
def wordsFrom (acc : List Char) : List Char → List (List Char)
  | [] => if acc = [] then [] else [acc.reverse]
  | c :: cs =>
    if isBlank c then
      if acc = [] then wordsFrom [] cs else acc.reverse :: wordsFrom [] cs
    else wordsFrom (c :: acc) cs

/-- The words of a text: its longest parts without a blank. -/
def words (s : String) : List String := (wordsFrom [] s.toList).map String.ofList

end TermSync.Text
