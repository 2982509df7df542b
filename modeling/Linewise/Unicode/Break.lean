import Linewise.Unicode.Binary
import Linewise.Unicode.Script

/-!
Where text may be broken into what is perceived as characters, into words and into sentences: the
kinds of code points that decide it in Unicode 16.0.
-/
namespace Linewise.Unicode

private def extending : CodeSet := graphemeExtend.union (stored "emojimodifier")

private def hangulPairs : CodeSet :=
  CodeSet.ofRuns ((List.range 399).map fun k => ⟨0xAC00 + 28 * k, 0xAC00 + 28 * k⟩)

/-- The value of Grapheme_Cluster_Break with that name, if some code point has it. -/
def graphemeBreak? (name : String) : Option CodeSet :=
  match name with
  | "extend" | "ex" => some extending
  | "lv" => some hangulPairs
  | "lvt" => some ((CodeSet.ofRuns [⟨0xAC00, 0xD7A3⟩]).diff hangulPairs)
  | "regionalindicator" | "ri" => some (stored "regionalindicator")
  | _ => stored? Table.graphemeBreak name

private def extendingWords : CodeSet := extending.union (categoryUnion "Mc")

private def numeric : CodeSet := decimalDigits.union (CodeSet.ofTable Table.numericSigns)

private def wordLetters : CodeSet :=
  let others := CodeSet.unions
    ([stored "ideographic", extendingWords, CodeSet.ofTable Table.notWordLetters] ++
      ["katakana", "hebrewletter"].filterMap (stored? Table.wordBreak) ++
      (script? "hiragana").toList)
  (alphabetic.diff others).union (CodeSet.ofTable Table.wordLetters)

/-- The value of Word_Break with that name, if some code point has it. -/
def wordBreak? (name : String) : Option CodeSet :=
  match name with
  | "aletter" | "le" => some wordLetters
  | "extend" => some extendingWords
  | "numeric" | "nu" => some (numeric.diff (CodeSet.ofCode 0x66C))
  | "regionalindicator" | "ri" => some (stored "regionalindicator")
  | _ => stored? Table.wordBreak name

private def extendingSentences : CodeSet :=
  CodeSet.unions [graphemeExtend, categoryUnion "Mc", CodeSet.ofCode 0x200D]

/-- Lowercase letters. The letters of Georgian are no such, as sentences start with them as well. -/
private def lowerLetters : CodeSet :=
  lowercase.diff (CodeSet.ofRuns [⟨0x345, 0x345⟩, ⟨0x10D0, 0x10FA⟩, ⟨0x10FD, 0x10FF⟩])

private def upperLetters : CodeSet :=
  (uppercase.union (categoryUnion "Lt")).diff (CodeSet.ofRuns [⟨0x1C90, 0x1CBF⟩])

private def otherLetters : CodeSet :=
  (alphabetic.union (CodeSet.ofCode 0x5F3)).diff
    (CodeSet.unions [lowerLetters, upperLetters, extendingSentences])

private def sentenceEnds : CodeSet :=
  (stored "sentenceterminal").diff ((stored? Table.sentenceBreak "aterm").getD CodeSet.empty)

/-- The value of Sentence_Break with that name, if some code point has it. -/
def sentenceBreak? (name : String) : Option CodeSet :=
  match name with
  | "extend" | "ex" => some extendingSentences
  | "lower" | "lo" => some lowerLetters
  | "numeric" | "nu" => some numeric
  | "oletter" | "le" => some otherLetters
  | "sterm" | "st" => some sentenceEnds
  | "upper" | "up" => some upperLetters
  | _ => stored? Table.sentenceBreak name

end Linewise.Unicode
