import Conformance.Text.Property
import Conformance.Text.Script
/-!
# Breaks between characters

For finding the ends of user-perceived characters, words and sentences, Unicode
puts every character into one class for each of the three.  Most classes follow
from the general category and the properties; the others are short lists.  A class
that is never given to a character has a name and no set.
-/
namespace Conformance.Text

def graphemeNamesText : String := "
  Control=CN CR E_Base=EB E_Base_GAZ=EBG E_Modifier=EM Extend=EX Glue_After_Zwj=GAZ L LF LV LVT
  Prepend=PP Regional_Indicator=RI SpacingMark=SM T V Other=XX ZWJ"

def wordNamesText : String := "
  CR Double_Quote=DQ E_Base=EB E_Base_GAZ=EBG E_Modifier=EM ExtendNumLet=EX Extend Format=FO
  Glue_After_Zwj=GAZ Hebrew_Letter=HL Katakana=KA ALetter=LE LF MidNumLet=MB MidLetter=ML MidNum=MN
  Newline=NL Numeric=NU Regional_Indicator=RI Single_Quote=SQ WSegSpace Other=XX ZWJ"

def sentenceNamesText : String := "
  ATerm=AT Close=CL CR Extend=EX Format=FO OLetter=LE LF Lower=LO Numeric=NU SContinue=SC Sep=SE
  Sp=SP STerm=ST Upper=UP Other=XX"

/-- The first name of a class, by one of its names, compared as `same` says. -/
def breakName? (names : String) (same : List Char → Bool) : Option String :=
  ((tableWords names).map (splitOn '=')).findSome? fun names =>
    if names.any same then names.head?.map String.ofList else none

namespace CharSet

/-! ## User-perceived characters -/

/-- The Hangul syllables without a final consonant: every twenty-eighth one. -/
def openSyllables : CharSet :=
  of ((List.range 399).map fun i => (0xAC00 + 28 * i, 0xAC00 + 28 * i))

/-- Marks, and what changes the look of an emoji. -/
def graphemeMarks : CharSet := graphemeExtend.union (listed "Emoji_Modifier")

/-- The number signs that enclose digits, which act on what follows. -/
def numberMarks : CharSet := listed "Prepended_Concatenation_Mark"

def ofGraphemeBreak? (name : String) : Option CharSet :=
  match name with
  | "CR" => some (single '\r')
  | "LF" => some (single '\n')
  | "Control" =>
    let plain := ofKinds [('Z', 'l'), ('Z', 'p'), ('C', 'c'), ('C', 'f')]
    let kept := (ofKinds [('C', 'n')]).inter defaultIgnorable
    some ((plain.union kept).without (unions [ofTable "A D 200C-200D", numberMarks, graphemeMarks]))
  | "Extend" => some graphemeMarks
  | "L" => some (ofTable "1100-115F A960-A97C")
  | "LV" => some openSyllables
  | "LVT" => some ((ofTable "AC00-D7A3").without openSyllables)
  | "Prepend" =>
    let repha := ofTable "D4E 111C2-111C3 113D1 1193F 11941 11A3A 11A84-11A89 11D46 11F02"
    some (numberMarks.union repha)
  | "Regional_Indicator" => some (listed "Regional_Indicator")
  | "SpacingMark" =>
    let apart := ofTable "
      102B-102C 1038 1062-1064 1067-106D 1083 1087-108C 108F 109A-109C 1A61 1A63-1A64 AA7B AA7D
      11720-11721"
    some (((ofKinds [('M', 'c')]).without (graphemeExtend.union apart)).union (ofTable "E33 EB3"))
  | "T" => some (ofTable "11A8-11FF D7CB-D7FB")
  | "V" => some (ofTable "1160-11A7 D7B0-D7C6 16D63 16D67-16D6A")
  | "ZWJ" => some (ofTable "200D")
  | _ => Option.none

/-! ## Words -/

/-- Marks of all kinds, and what changes the look of an emoji. -/
def wordMarks : CharSet := graphemeMarks.union (ofKinds [('M', 'c')])

/-- Digits, and signs inside or around numbers. -/
def wordNumeric : CharSet :=
  digit.union (ofTable "66B 600-605 6DD 890-891 8E2 110BD 110CD")

def hebrewLetter : CharSet := (ofScript "Hebr".toList).inter (ofKinds [('L', 'o')])

/-- Letters of Katakana, and marks used like them. -/
def katakana : CharSet :=
  ((ofScript "Kana".toList).union (ofTable "3031-3035 309B-309C 30A0 30FC FF70")).without wordMarks

/-- The characters of the scripts that are written without blanks between words. -/
def unspaced : CharSet := ofTable "
  E01-E3A E40-E4E E81-E82 E84 E86-E8A E8C-EA3 EA5 EA7-EBD EC0-EC4 EC6 EC8-ECE EDC-EDF 1000-103F
  1050-108F 109A-109F 1780-17D3 17D7 17DC-17DD 1950-196D 1970-1974 1980-19AB 19B0-19C9 19DA
  19DE-19DF 1A20-1A5E 1A60-1A7C 1AA0-1AAD A9E0-A9EF A9FA-A9FE AA60-AAC2 AADB-AADF 11700-1171A
  1171D-1172B 1173A-1173B 1173F-11746"

/-- Letters that join into words, apart from those that have a class of their own. -/
def wordLetter : CharSet :=
  let more := ofTable "
    2C2-2C5 2D2-2D7 2DE-2DF 2E5-2EB 2ED 2EF-2FF 55A-55C 55E 58A 5F3 70F A708-A716 A720-A721
    A789-A78A AB5B"
  (alphabetic.union more).without
    (unions [listed "Ideographic", katakana, unspaced, ofScript "Hira".toList, wordMarks,
      hebrewLetter])

def ofWordBreak? (name : String) : Option CharSet :=
  match name with
  | "ALetter" => some wordLetter
  | "CR" => some (single '\r')
  | "Double_Quote" => some (single '"')
  | "Extend" => some wordMarks
  | "ExtendNumLet" => some ((ofKinds [('P', 'c')]).union (ofTable "202F"))
  | "Format" =>
    some ((ofKinds [('C', 'f')]).without (unions [ofTable "200B-200D", numberMarks, wordMarks]))
  | "Hebrew_Letter" => some hebrewLetter
  | "Katakana" => some katakana
  | "LF" => some (single '\n')
  | "MidLetter" => some (ofTable "3A B7 387 55F 5F4 2027 FE13 FE55 FF1A")
  | "MidNum" =>
    some (ofTable "2C 3B 37E 589 60C-60D 66C 7F8 2044 FE10 FE14 FE50 FE54 FF0C FF1B")
  | "MidNumLet" => some (ofTable "2E 2018-2019 2024 FE52 FF07 FF0E")
  | "Newline" => some (ofTable "B-C 85 2028-2029")
  | "Numeric" => some wordNumeric
  | "Regional_Indicator" => some (listed "Regional_Indicator")
  | "Single_Quote" => some (single '\x27')
  | "WSegSpace" => some ((ofKinds [('Z', 's')]).without (ofTable "A0 2007 202F"))
  | "ZWJ" => some (ofTable "200D")
  | _ => Option.none

/-! ## Sentences -/

/-- Marks of all kinds, and joiners. -/
def sentenceMarks : CharSet :=
  unions [graphemeExtend, ofKinds [('M', 'c')], ofTable "200C-200D"]

/-- What a sentence may end with, or a number or abbreviation. -/
def ambiguousEnds : CharSet := ofTable "2E 2024 FE52 FF0E"

def sentenceEnds : CharSet := (listed "Sentence_Terminal").without ambiguousEnds

/-- Letters in lower case that tell that a sentence goes on. -/
def sentenceLower : CharSet :=
  lowercase.without (graphemeExtend.union (ofTable "10D0-10FA 10FD-10FF"))

/-- Letters in upper case, which a sentence may start with. -/
def sentenceUpper : CharSet :=
  ((ofKinds [('L', 't')]).union uppercase).without (ofTable "1C90-1CBA 1CBD-1CBF")

def ofSentenceBreak? (name : String) : Option CharSet :=
  match name with
  | "ATerm" => some ambiguousEnds
  | "CR" => some (single '\r')
  | "Close" =>
    let quotes := ofTable "
      22 27 AB BB 2018-2019 201B-201D 201F 2039-203A 275B-2760 2E00-2E0D 2E1C-2E1D 2E20-2E21
      1F676-1F678"
    let brackets := ofKinds [('P', 's'), ('P', 'e'), ('P', 'i'), ('P', 'f')]
    some ((brackets.union quotes).without (ambiguousEnds.union sentenceEnds))
  | "Extend" => some sentenceMarks
  | "Format" => some ((ofKinds [('C', 'f')]).without (sentenceMarks.union numberMarks))
  | "LF" => some (single '\n')
  | "Lower" => some sentenceLower
  | "Numeric" => some (wordNumeric.union (ofTable "66C"))
  | "OLetter" =>
    some ((alphabetic.union (ofTable "5F3")).without
      (unions [sentenceLower, sentenceUpper, sentenceMarks]))
  | "SContinue" =>
    some (ofTable "
      2C-2D 3A-3B 37E 55D 60C-60D 7F8 1802 1808 2013-2014 3001 FE10-FE11 FE13-FE14 FE31-FE32
      FE50-FE51 FE54-FE55 FE58 FE63 FF0C-FF0D FF1A-FF1B FF64")
  | "STerm" => some sentenceEnds
  | "Sep" => some (ofTable "85 2028-2029")
  | "Sp" => some (space.without (ofTable "A D 85 2028-2029"))
  | "Upper" => some sentenceUpper
  | _ => Option.none

end CharSet

end Conformance.Text
