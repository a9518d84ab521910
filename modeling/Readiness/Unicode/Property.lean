import Readiness.Unicode.Blank
import Readiness.Unicode.Category
import Readiness.Unicode.NamedSet

/-! Properties that a code point has or lacks.

Some are given by a table, others are made of categories and of the tables of exceptions
(`Other_…`). `properties` has them all by name, and `categories` the general categories and the
groups of them that have names of their own. -/

namespace Readiness.Unicode

def joinControl (_ : Unit) : CodeSet :=
  CodeSet.ofLines
    ["200c:1"]

def otherAlphabetic (_ : Unit) : CodeSet :=
  CodeSet.ofLines
    ["363:c 240:d 1 1:1 1:1 1 48:a 30:c 1:6 10 65:6 4:3 2:1 4 23 1e:f 66:a 65:1 3:8 1:2 1:3 6a",
     "3c:b 3:6 6:13 36:1 2:e 1:1 5:2 a:1 1d:2 3a:6 2:1 2:1 a a:1 1d:2 3a:4 4:1 2:1 4 1e:1 3 b:2",
     "3a:7 1:2 1:1 15:1 16:2 4:2 3a:6 2:1 2:1 9:1 a:1 1e 3b:4 3:2 1:2 a 28:4 39:6 1:2 1:2 8:1",
     "b:1 1d:2 3a:6 1:2 1:2 8:1 b:1 f c:3 3a:6 1:2 1:2 a a:1 1d:2 4b:5 1 1:7 12:1 3d 2:6 12 63",
     "2:5 1:1 10 a3:12 9:a 1:23 6e:b 1 2:3 17:3 4:2 1:2 2:6 3:3 d:b 1 a:3 674:1 1e:1 1e:1 1e:1",
     "42:12 bc:1 22 76:b 4:8 de:4 39:9 2:13 4a:1 b:2 31:4 30:e 3c:2 1e:8 2:1 39:a 32:12 19c:21",
     "feb:1f 7874:7 22:1 162 8 17:4 58:1 32:f 1 39 26:4 1c:b 2d:3 30:b 25 43:d c 8:1 2d:2 32 1:2",
     "2:1 5 2c:4 5 ed:7 4f33 857:4 686:2 1:1 5:3 314:3 41 141:1 4f 103:2 35:d 2d:1 b:2 2d:8 9",
     "3d:2 24:b 12:1 39:2 30:c e:1 5c:8 2 6 2 9d:9 17:3 3a:6 2:1 2:1 a a:1 54:8 1 2 1:3 1:1 67:c",
     "1:2 6a:11 ed:6 2:6 1d:1 52:e 1 6a:a 67:d 101:c f7:5 1:1 2:1 3 1 8e:6 2:5 4 1c:9 2a:4 1:3",
     "12:a 2e:d 197:7 1:6 53:15 1:d 7a:5 3 1:1 1:2 1 3 42:4 1:1 1:3 15c:3 9:1 1 30:6 3:2 41dd:10",
     "e20 1:36 7:3 5d:1 4cac 2361:6 1:10 2:6 1:1 1:4 64 8b7"]

def otherGraphemeExtend (_ : Unit) : CodeSet :=
  CodeSet.ofLines
    ["9be 18 166 18 66 18 e8 1 4:1 1:1 9:1 67 18 77 f 935 1e 400 5 1 5:1 65 47:1 418 1021:1 7923",
     "6c 55dd:1 1220 74 108 e 9 60 9 2 1:2 5 e0 c f1 106 279 c 603 50ae:1 6173:1 6:5 c2ead:5f"]

def otherIdContinue (_ : Unit) : CodeSet :=
  CodeSet.ofLines
    ["b7 2cf fe1:8 668 631:1 10ed ce69"]

def otherIdStart (_ : Unit) : CodeSet :=
  CodeSet.ofLines
    ["1885:1 891 15 f6c:1"]

def otherLowercase (_ : Unit) : CodeSet :=
  CodeSet.ofLines
    ["aa f 1f5:8 7:1 1e:4 60 34 d81 c2f:3e d 22:24 2b1 d 10:c d3:f 350:19 792:1 7a1e:1 d2 81:2",
     "3:1 362:3 9 5c16 2:2 1:29 1:8 d875:3d"]

def otherMath (_ : Unit) : CodeSet :=
  CodeSet.ofLines
    ["5e 371:2 2 1a:1 2:1 1c20 1b:2 b 20:3 18:1 e:1 41:c 4 3:1 4:4 12 4 2:9 1 3:4 6 3:1 2:1 1:2",
     "1:5 3:3 5:4 4b:4 2:3 1:1 1:1 1 1:4 2:1 4:1 4:11 2:1 1 1:6 1 6:1 122:3 a8:1 1 18 11 1bd:1",
     "c:8 5:4 5:1 2:1 3:4 e 1 2:5 18:1 39 1 1d:3 9:1 156:1 1f:9 193:15 3f:3 20:1 d463 1 4 d3 1",
     "d4c1:54 1:46 1:1 2 2:1 2:3 1:b 1 1:6 1:40 1:3 2:7 1:6 1:1b 1:3 1:4 1 3:6 1:153 2:18 1:18",
     "1:1e 1:18 1:1e 1:18 1:1e 1:18 1:1e 1:18 1:7 2:31 1600:3 1:1a 1:1 1 2 1:9 1:3 1 1 6 4 1 1",
     "1:2 1:1 1 2 1 1 1 1 1:1 1 2:3 1:6 1:3 1:3 1 1:9 1:10 5:2 1:4 1:10"]

def otherUppercase (_ : Unit) : CodeSet :=
  CodeSet.ofLines
    ["2160:f 346:19 1cc60:19 6:19 6:19"]

/-- Small letters and what is written like them. -/
def lowercase (_ : Unit) : CodeSet := (Category.codes .lowercaseLetter).union (otherLowercase ())

/-- Capital letters and what is written like them. -/
def uppercase (_ : Unit) : CodeSet := (Category.codes .uppercaseLetter).union (otherUppercase ())

/-- Letters that have a case. -/
def cased (_ : Unit) : CodeSet :=
  CodeSet.unions [lowercase (), uppercase (), Category.codes .titlecaseLetter]

/-- Letters and what is written like them. -/
def alphabetic (_ : Unit) : CodeSet :=
  CodeSet.unions [lowercase (), uppercase (),
    Category.anyOf [.titlecaseLetter, .modifierLetter, .otherLetter, .letterNumber],
    otherAlphabetic ()]

/-- Signs used in mathematics. -/
def mathematical (_ : Unit) : CodeSet := (Category.codes .mathSymbol).union (otherMath ())

/-- What attaches to the code point before it. -/
def graphemeExtend (_ : Unit) : CodeSet :=
  (Category.anyOf [.enclosingMark, .nonspacingMark]).union (otherGraphemeExtend ())

/-- What stands by itself and can be seen, or is a blank. -/
def graphemeBase (_ : Unit) : CodeSet :=
  (CodeSet.unions [Category.codes .unassigned, graphemeExtend (),
    Category.anyOf [.control, .format, .surrogate,
      .privateUse, .lineSeparator, .paragraphSeparator]]).compl

/-- What a name may begin with. -/
def idStart (_ : Unit) : CodeSet :=
  ((Category.anyOf (.letterNumber :: Category.letters)).union (otherIdStart ())).diff
    (CodeSet.single 0x2E2F)

/-- What a name may go on with. -/
def idContinue (_ : Unit) : CodeSet :=
  CodeSet.unions [idStart (), otherIdContinue (),
    Category.anyOf [.nonspacingMark, .spacingMark, .decimalNumber, .connectorPunctuation]]

/-- Names that stay names in every compatible form: the start. -/
def xidStart (_ : Unit) : CodeSet :=
  (idStart ()).diff (CodeSet.ofLines
    ["37a ab8 7f 21e7:1 cbc1:5 196:1 74 1 1 1 1 1 1 1 11f:1"])

/-- Names that stay names in every compatible form: the rest. -/
def xidContinue (_ : Unit) : CodeSet :=
  (idContinue ()).diff (CodeSet.ofLines
    ["37a 2d20:1 cbc1:5 196:1 74 1 1 1 1 1 1 1"])

/-- Code points that words are made of. -/
def wordCodes : CodeSet :=
  CodeSet.unions [alphabetic (), joinControl (),
    Category.anyOf (.decimalNumber :: .connectorPunctuation :: Category.marks)]

/-- Whether a character is a letter or written like one. -/
def isAlphabetic (c : Char) : Bool :=
  if c.toNat < 0x80 then c.isAlpha else (alphabetic ()).hasChar c

/-- Whether a character is a letter or a number of any kind. -/
def isAlphanumeric (c : Char) : Bool :=
  isAlphabetic c ||
    if c.toNat < 0x80 then c.isDigit else (Category.anyOf Category.numbers).hasChar c

/-- Whether words are made of a character. -/
def isWord (c : Char) : Bool :=
  if c.toNat < 0x80 then c.isAlphanum || c = '_' else wordCodes.hasChar c

def properties : List NamedSet := [
  ⟨["White_Space", "WSpace", "Space"], fun _ => blanks⟩,
  ⟨["Alphabetic", "Alpha"], alphabetic⟩,
  ⟨["Cased"], cased⟩,
  ⟨["Grapheme_Base", "Gr_Base"], graphemeBase⟩,
  ⟨["Grapheme_Extend", "Gr_Ext"], graphemeExtend⟩,
  ⟨["ID_Continue", "IDC"], idContinue⟩,
  ⟨["ID_Start", "IDS"], idStart⟩,
  ⟨["Lowercase", "Lower"], lowercase⟩,
  ⟨["Math"], mathematical⟩,
  ⟨["Uppercase", "Upper"], uppercase⟩,
  ⟨["XID_Continue", "XIDC"], xidContinue⟩,
  ⟨["XID_Start", "XIDS"], xidStart⟩,
  ⟨["ASCII_Hex_Digit", "AHex"], fun _ => CodeSet.ofLines
    ["30:9 7:5 1a:5"]⟩,
  ⟨["Bidi_Control", "Bidi_C"], fun _ => CodeSet.ofLines
    ["61c 19f1:1 1a:4 37:3"]⟩,
  ⟨["Bidi_Mirrored", "Bidi_M"], fun _ => CodeSet.ofLines
    ["28:1 12 1 1c 1 1d 1 2d f e7e:3 75d:1 99c:1 a:1 36:1 e:1 b1 c0:3 3:5 3 3:1 3:3 1:3 1 1 4:8",
     "5 1:11 5:3 9:1 1 1:7 1:1f 2:3 5 9:1 2:12 5:1 9:4 2:1 4:17 2:f 8:3 14:1 7:1 43d:d 4a 2:3",
     "1:1 1:2 5:3 5:2 3:d 193:15 2:5 1:d 8 7:5 3 4:4 1:1 2:4 4 1:2 2:1 a:5 2:1 c:12 1:3 2 1 2",
     "1:3 5:1 6:2 18:1 b:1 4:3 1:1 2:1 4:2a 2:7 1:27 5 1 3:4 5:2 4 3:4 1 100 203:3 3:1 1:1 e:1",
     "2:9 2b:7 1ab:9 2:7 ce3d:5 5:1 a2:1 12 1 1c 1 1d 1 1:1 1:1 d777 39 39 39 39"]⟩,
  ⟨["Case_Ignorable", "CI"], fun _ => CodeSet.ofLines
    ["27 6 b 23 1 47 4 1 4 2:1 1f7:bf 4:1 4 9:1 1 fb:6 cf 5 31:2c 1 1:1 1:1 1 2c b:5 a:a 1 23",
     "a:14 10 65:7 1:9 1:3 21 1 1e:1a 5b:a 3a:a 4 2 18:17 2b:2 2c 7:1 5:8 29:39 37 1 4:7 4 3:6",
     "a:1 d f 3a 4:3 8 14:1 1a 2:1 39 4:1 4:1 2:2 3 1e:1 3 b:1 39 4:4 1:1 4 14:1 16:5 1 3a 2 1:3",
     "8 7:1 b:1 1e 3d c 32 3 37 1:2 5:2 1:3 7:1 b:1 1d 3a 2 6 5:1 14:1 1c:1 39:1 4:3 8 14:1 1d",
     "48 7:2 1 5a 2:6 b:8 62 2:8 9 1:6 49:1 1b 1 1 37:d 1:4 1:1 5:a 1:23 9 66:3 1:5 1:1 2:1 19:1",
     "4:2 10:3 d 2:1 6 f 5e 260:2 3b2:2 1d:1 1e:1 1e:1 40:1 1:6 8 2:a 3 5 2d:4 33 41:1 22 76:2",
     "4:1 9 6:2 db:1 2 3a 1:6 1 1 2:7 6:9 2 27 8:1e 31:3 30 1:4 1 5 28:8 c:1 20:3 2:1 1:2 38 1:1",
     "3 1:2 3a:7 2:1 40:5 52:2 1:c 1:6 4 6 3:1 32:3e d 22:64 1bd 1:2 b:2 d:2 d:2 d:1 c:4 8:1 a 2",
     "2:4 31:4 1:9 1 d 10:c 33:20 b8b:1 71:2 7d f 60:1f 2f 1d5 24:3 3:4 5 5d:5 5d:2 6f16 4e2:5",
     "10e 62:3 1:9 1 1c:3 50:1 e:21 4e 17:2 67:2 3:1 8 3 4 19:1 5 97:1 1a:11 d 26:7 19:a 2e:2 30",
     "2:3 2:1 11 15:1 42:5 2:1 2:1 c 8 23 b 33 1:2 2:1 5:1 1 1b e:1 5:1 1 64:4 9:2 79 2 4 4f30",
     "93:10 23d:f 3 c:f 22 2 a9 7 6 b 23 1 2f 2d:1 43 15:2 201 e2 95:4 405:5 1:29 1:8 246:2 1:1",
     "5:3 28:2 4 a5:1 23d:3 26 1a:4 1 13b:1 4f:3 46:a 31:3 7b 36:e 29 2:1 a:2 31:3 2:1 2 4 a",
     "32:2 24:4 1:7 3e c:1 34:8 a:3 2 5f:2 2 1:1 6 2 9d 3:7 15:1 39:1 3 25:6 3:4 46:5 d 1 1 e:1",
     "55:7 2:2 1 17 54:5 1 4:1 1:1 ee:3 6:1 1:1 1b:1 55:7 2 1:1 6a 1 2:5 1 65 1 2:3 1:4 103:8",
     "1:1 100:1 1 4 90:3 2:1 4 20:9 28:5 2:3 8 9:5 2:2 2e:c 1:1 196:6 1:5 1 52:15 2:6 1:1 1:1",
     "7a:5 3 1:1 1:6 1 48:1 3 1 15b:1 b:1 34:4 5 1 17 14d5:10 6:e 2cc8:b 3:2 9c0:4 3b:6 9:3",
     "1fc:2 28:1 1e2 3f:10 40:1 1:1 400b:3 1:6 1:1 c9e:1 1:3 125c:2d 2:16 220:2 9:f 2:6 1e:3",
     "94:2 7bb:36 4:31 8 e 16:4 1:e 550:6 1:10 2:6 1:1 1:4 5:3d 21 a0:d 170 3d:3 1fb:4 fe:1",
     "2e0:6 6d:7 aaf:4 c0c01 1e:5f 80:ef"]⟩,
  ⟨["Changes_When_Casefolded", "CWCF"], fun _ => CodeSet.ofLines
    ["41:19 5a a:16 1:7 20 1 1 1 1 1 1 1 1 1 1 1 1 1 1 1 1 1 1 1 1 1 1 1 1 1 1 1 2 1 1 1 1 1 1 1",
     "1:1 1 1 1 1 1 1 1 1 1 1 1 1 1 1 1 1 1 1 1 1 1 1 1:1 1 1 1 1:1 1 1:1 1:2 2:3 1:1 1:2 3:1",
     "1:1 1 1 1:1 1 2 1:1 1:2 1 1:1 3 7:1 1:1 1:1 1 1 1 1 1 1 1 1 2 1 1 1 1 1 1 1 1 2:1 1 1:2 1",
     "1 1 1 1 1 1 1 1 1 1 1 1 1 1 1 1 1 1 1 1 1 1 1 1 1 1 1 1 7:1 1:1 2 1:3 1 1 1 1 f6 2a 1 3 8",
     "6 1:2 1 1:1 1:10 1:8 16 c:2 3:1 1 1 1 1 1 1 1 1 1 1 1 1 1:1 2:1 1 1:1 2:32 30 1 1 1 1 1 1",
     "1 1 1 1 1 1 1 1 1 1 9 1 1 1 1 1 1 1 1 1 1 1 1 1 1 1 1 1 1 1 1 1 1 1 1 1 1 1:1 1 1 1 1 1 1",
     "2 1 1 1 1 1 1 1 1 1 1 1 1 1 1 1 1 1 1 1 1 1 1 1 1 1 1 1 1 1 1 1 1 1 1 1 1 1 1 1 1 1 1 1 1",
     "1 1 1 2:25 30 b18:25 1 5 32a:5 882:9 6:2a 2:2 140 1 1 1 1 1 1 1 1 1 1 1 1 1 1 1 1 1 1 1 1",
     "1 1 1 1 1 1 1 1 1 1 1 1 1 1 1 1 1 1 1 1 1 1 1 1 1 1 1 1 1 1 1 1 1 1 1 1 1 1 1 1 1 1 1 1 1",
     "1 1 1 1 1 1 1 1 1 5:1 2 1 1 1 1 1 1 1 1 1 1 1 1 1 1 1 1 1 1 1 1 1 1 1 1 1 1 1 1 1 1 1 1 1",
     "1 1 1 1 1 1 1 1 1 1 1 1 1 1 1 9:7 8:5 a:7 8:7 8:5 b 1 1 1 8:7 10:2f 2:2 2:5 5:2 2:5 b:3",
     "c:4 5:2 2:5 129 3:1 6 2d:f 13 332:19 730:2f 30 1:2 2 1 1 1:3 1 2 8:2 1 1 1 1 1 1 1 1 1 1 1",
     "1 1 1 1 1 1 1 1 1 1 1 1 1 1 1 1 1 1 1 1 1 1 1 1 1 1 1 1 1 1 1 1 1 1 1 1 1 1 8 1 4 794d 1 1",
     "1 1 1 1 1 1 1 1 1 1 1 1 1 1 1 1 1 1 1 1 13 1 1 1 1 1 1 1 1 1 1 1 1 1 87 1 1 1 1 1 1 3 1 1",
     "1 1 1 1 1 1 1 1 1 1 1 1 1 1 1 1 1 1 1 1 1 1 1 1 1 1 1 1 a 1 1:1 1 1 1 1 4 1 2 1 3 1 1 1 1",
     "1 1 1 1 1 1:4 1:4 1 1 1 1 1 1 1 1:3 1 1:1 3 5 1 1 1 18 37a:4f 4f40:6 c:4 409:19 4c5:27",
     "88:23 9c:a 1:e 1:6 1:1 6ea:32 9d:15 b3a:1f 5580:1f 7aa0:21"]⟩,
  ⟨["Changes_When_Casemapped", "CWCM"], fun _ => CodeSet.ofLines
    ["41:19 6:19 3a a:16 1:1e 1:3f 1:53 1:1b 2:d 2:1 1 4:5c 1:11 6:1a 1:1 1 1:1 3:1 1:3 1:4 2",
     "1:1 2 7 2 1:1 3:5 5 a:1 a6 2a:3 2:1 3:2 1 6 1:2 1 1:13 1:2e 3:20 1:4 1:84 8:a5 1:25 a:26",
     "b18:25 1 5 2:2a 2:2 2a0:55 2:5 882:a 5:2a 2:2 b9 3 10 71:9b 2 1:75 2:5 2:25 2:5 2:7 1 1 1",
     "1:1e 2:34 1:6 1 3:2 1:6 3:3 2:5 4:c 5:2 1:6 129 3:1 6 1b 11:1f 3:1 331:33 716:70 1:1 1:1",
     "7:65 7:3 3:1 c:25 1 5 7912:2d 12:1b 86:d 2:3d 9:e 3:2 2:4 1:18 1:1d 2:1 1 1:7 18:1 35c",
     "1c:4f 4f40:6 c:4 409:19 6:19 4a5:4f 60:23 4:23 74:a 1:e 1:6 1:1 1:a 1:e 1:6 1:1 6c3:32",
     "d:32 5d:15 a:15 b1a:3f 5560:3f 7a80:43"]⟩,
  ⟨["Changes_When_Lowercased", "CWL"], fun _ => CodeSet.ofLines
    ["41:19 65:16 1:6 21 1 1 1 1 1 1 1 1 1 1 1 1 1 1 1 1 1 1 1 1 1 1 1 1 1 1 1 2 1 1 1 1 1 1 1 2",
     "1 1 1 1 1 1 1 1 1 1 1 1 1 1 1 1 1 1 1 1 1 1 1:1 1 1 3:1 1 1:1 1:2 2:3 1:1 1:2 3:1 1:1 1 1",
     "1:1 1 2 1:1 1:2 1 1:1 3 7:1 1:1 1:1 1 1 1 1 1 1 1 1 2 1 1 1 1 1 1 1 1 2:1 1 1:2 1 1 1 1 1",
     "1 1 1 1 1 1 1 1 1 1 1 1 1 1 1 1 1 1 1 1 1 1 1 1 7:1 1:1 2 1:3 1 1 1 1 121 1 3 8 6 1:2 1",
     "1:1 1:10 1:8 23 8 1 1 1 1 1 1 1 1 1 1 1 5 2 1:1 2:32 30 1 1 1 1 1 1 1 1 1 1 1 1 1 1 1 1 9",
     "1 1 1 1 1 1 1 1 1 1 1 1 1 1 1 1 1 1 1 1 1 1 1 1 1 1 1:1 1 1 1 1 1 1 2 1 1 1 1 1 1 1 1 1 1",
     "1 1 1 1 1 1 1 1 1 1 1 1 1 1 1 1 1 1 1 1 1 1 1 1 1 1 1 1 1 1 1 1 1 1 1 1 1 2:25 b49:25 1 5",
     "2d2:55 893 6:2a 2:2 140 1 1 1 1 1 1 1 1 1 1 1 1 1 1 1 1 1 1 1 1 1 1 1 1 1 1 1 1 1 1 1 1 1",
     "1 1 1 1 1 1 1 1 1 1 1 1 1 1 1 1 1 1 1 1 1 1 1 1 1 1 1 1 1 1 1 1 1 1 1 1 1 1 1 1 1 9 1 1 1",
     "1 1 1 1 1 1 1 1 1 1 1 1 1 1 1 1 1 1 1 1 1 1 1 1 1 1 1 1 1 1 1 1 1 1 1 1 1 1 1 1 1 1 1 1 1",
     "9:7 8:5 a:7 8:7 8:5 b 1 1 1 8:7 18:7 8:7 8:7 8:4 b:4 b:3 c:4 b:4 129 3:1 6 2d:f 13 332:19",
     "730:2f 30 1:2 2 1 1 1:3 1 2 8:2 1 1 1 1 1 1 1 1 1 1 1 1 1 1 1 1 1 1 1 1 1 1 1 1 1 1 1 1 1",
     "1 1 1 1 1 1 1 1 1 1 1 1 1 1 1 1 1 1 1 1 8 1 4 794d 1 1 1 1 1 1 1 1 1 1 1 1 1 1 1 1 1 1 1 1",
     "1 1 13 1 1 1 1 1 1 1 1 1 1 1 1 1 87 1 1 1 1 1 1 3 1 1 1 1 1 1 1 1 1 1 1 1 1 1 1 1 1 1 1 1",
     "1 1 1 1 1 1 1 1 1 1 a 1 1:1 1 1 1 1 4 1 2 1 3 1 1 1 1 1 1 1 1 1 1:4 1:4 1 1 1 1 1 1 1 1:3",
     "1 1:1 3 5 1 1 1 18 572b:19 4c5:27 88:23 9c:a 1:e 1:6 1:1 6ea:32 9d:15 b3a:1f 5580:1f",
     "7aa0:21"]⟩,
  ⟨["Changes_When_Titlecased", "CWT"], fun _ => CodeSet.ofLines
    ["61:19 3a 29:17 1:7 1 1 1 1 1 1 1 1 1 1 1 1 1 1 1 1 1 1 1 1 1 1 1 1 1 1 1 1 2 1 1 1 1 1 1",
     "1:1 1 1 1 1 1 1 1 1 1 1 1 1 1 1 1 1 1 1 1 1 1 1 1 2 1 1:2 2 1 2 3 5 2 3:2 2 2 1 1 2 4 2 3",
     "1 2 3 1 4 1:1 1:1 1 1 1 1 1 1 1 1 1:1 1 1 1 1 1 1 1 1 1:2 1 1 3 1 1 1 1 1 1 1 1 1 1 1 1 1",
     "1 1 1 1 1 1 3 1 1 1 1 1 1 1 1 8 2:1 1 4 1 1 1 1:5 1:1 1 1:1 3:1 1:3 1:4 2 1:1 2 7 2 1:1",
     "3:5 5 a:1 a6 2b 1 3 3:2 12 1b:22 1:1 3:2 1 1 1 1 1 1 1 1 1 1 1 1:4 1 2 2 34:2f 1 1 1 1 1 1",
     "1 1 1 1 1 1 1 1 1 1 1 9 1 1 1 1 1 1 1 1 1 1 1 1 1 1 1 1 1 1 1 1 1 1 1 1 1 1 2 1 1 1 1 1",
     "1:1 1 1 1 1 1 1 1 1 1 1 1 1 1 1 1 1 1 1 1 1 1 1 1 1 1 1 1 1 1 1 1 1 1 1 1 1 1 1 1 1 1 1 1",
     "1 1 1 1 1 31:26 e70:5 882:8 1 ee 3 10 72 1 1 1 1 1 1 1 1 1 1 1 1 1 1 1 1 1 1 1 1 1 1 1 1 1",
     "1 1 1 1 1 1 1 1 1 1 1 1 1 1 1 1 1 1 1 1 1 1 1 1 1 1 1 1 1 1 1 1 1 1 1 1 1 1 1 1 1 1 1 1 1",
     "1 1 1 1:6 5 1 1 1 1 1 1 1 1 1 1 1 1 1 1 1 1 1 1 1 1 1 1 1 1 1 1 1 1 1 1 1 1 1 1 1 1 1 1 1",
     "1 1 1 1 1 1 1 1:8 8:5 a:7 8:7 8:5 a:7 8:7 8:d 2:7 8:7 8:7 8:4 1:1 6 3:2 1:1 8:3 2:1 8:7",
     "a:2 1:1 156 21:f 4 34b:19 746:2f 1 3:1 1 1 1 6 2 a 1 1 1 1 1 1 1 1 1 1 1 1 1 1 1 1 1 1 1 1",
     "1 1 1 1 1 1 1 1 1 1 1 1 1 1 1 1 1 1 1 1 1 1 1 1 1 1 1 1 1 8 1 4 c:25 1 5 7913 1 1 1 1 1 1",
     "1 1 1 1 1 1 1 1 1 1 1 1 1 1 1 1 13 1 1 1 1 1 1 1 1 1 1 1 1 1 87 1 1 1 1 1 1 3 1 1 1 1 1 1",
     "1 1 1 1 1 1 1 1 1 1 1 1 1 1 1 1 1 1 1 1 1 1 1 1 a 1 2 1 1 1 1 4 4 1:1 2 1 1 1 1 1 1 1 1 1",
     "b 1 1 1 1 1 1 1 4 1 2 3 1 1 1 1 1 1a 35c 1c:4f 4f40:6 c:4 429:19 4cd:27 88:23 9b:a 1:e 1:6",
     "1:1 703:32 7d:15 b3a:1f 5580:1f 7aa2:21"]⟩,
  ⟨["Changes_When_Uppercased", "CWU"], fun _ => CodeSet.ofLines
    ["61:19 3a 29:17 1:7 1 1 1 1 1 1 1 1 1 1 1 1 1 1 1 1 1 1 1 1 1 1 1 1 1 1 1 1 2 1 1 1 1 1 1",
     "1:1 1 1 1 1 1 1 1 1 1 1 1 1 1 1 1 1 1 1 1 1 1 1 1 2 1 1:2 2 1 2 3 5 2 3:2 2 2 1 1 2 4 2 3",
     "1 2 3 1 5:1 1:1 1:1 1 1 1 1 1 1 1 1:1 1 1 1 1 1 1 1 1 1:1 1:1 1 3 1 1 1 1 1 1 1 1 1 1 1 1",
     "1 1 1 1 1 1 1 3 1 1 1 1 1 1 1 1 8 2:1 1 4 1 1 1 1:5 1:1 1 1:1 3:1 1:3 1:4 2 1:1 2 7 2 1:1",
     "3:5 5 a:1 a6 2b 1 3 3:2 12 1b:22 1:1 3:2 1 1 1 1 1 1 1 1 1 1 1 1:4 1 2 2 34:2f 1 1 1 1 1 1",
     "1 1 1 1 1 1 1 1 1 1 1 9 1 1 1 1 1 1 1 1 1 1 1 1 1 1 1 1 1 1 1 1 1 1 1 1 1 1 2 1 1 1 1 1",
     "1:1 1 1 1 1 1 1 1 1 1 1 1 1 1 1 1 1 1 1 1 1 1 1 1 1 1 1 1 1 1 1 1 1 1 1 1 1 1 1 1 1 1 1 1",
     "1 1 1 1 1 31:26 b48:2a 2:2 2f8:5 882:8 1 ee 3 10 72 1 1 1 1 1 1 1 1 1 1 1 1 1 1 1 1 1 1 1",
     "1 1 1 1 1 1 1 1 1 1 1 1 1 1 1 1 1 1 1 1 1 1 1 1 1 1 1 1 1 1 1 1 1 1 1 1 1 1 1 1 1 1 1 1 1",
     "1 1 1 1 1 1 1 1 1 1:6 5 1 1 1 1 1 1 1 1 1 1 1 1 1 1 1 1 1 1 1 1 1 1 1 1 1 1 1 1 1 1 1 1 1",
     "1 1 1 1 1 1 1 1 1 1 1 1 1 1:8 8:5 a:7 8:7 8:5 a:7 8:7 8:d 2:34 1:1 4 1 3:2 1:1 4 3:3 2:1",
     "8:7 a:2 1:1 4 151 21:f 4 34b:19 746:2f 1 3:1 1 1 1 6 2 a 1 1 1 1 1 1 1 1 1 1 1 1 1 1 1 1 1",
     "1 1 1 1 1 1 1 1 1 1 1 1 1 1 1 1 1 1 1 1 1 1 1 1 1 1 1 1 1 1 1 1 8 1 4 c:25 1 5 7913 1 1 1",
     "1 1 1 1 1 1 1 1 1 1 1 1 1 1 1 1 1 1 1 13 1 1 1 1 1 1 1 1 1 1 1 1 1 87 1 1 1 1 1 1 3 1 1 1",
     "1 1 1 1 1 1 1 1 1 1 1 1 1 1 1 1 1 1 1 1 1 1 1 1 1 1 1 a 1 2 1 1 1 1 4 4 1:1 2 1 1 1 1 1 1",
     "1 1 1 b 1 1 1 1 1 1 1 4 1 2 3 1 1 1 1 1 1a 35c 1c:4f 4f40:6 c:4 429:19 4cd:27 88:23 9b:a",
     "1:e 1:6 1:1 703:32 7d:15 b3a:1f 5580:1f 7aa2:21"]⟩,
  ⟨["Dash"], fun _ => CodeSet.ofLines
    ["2d 55c 33 e41 405 809:5 3d 27 f 186 c04 2 1f:1 4 1c 1be 13 6f cd90:1 25 a a9 e60 13e"]⟩,
  ⟨["Default_Ignorable_Code_Point", "DI"], fun _ => CodeSet.ofLines
    ["ad 2a1 2cc b42:1 653:1 55:4 7fb:4 1a:4 31:f 10f4 cc9b:f ef a0 4f:8 bca7:3 14cf:7 c2e85:fff"]⟩,
  ⟨["Deprecated", "Dep"], fun _ => CodeSet.ofLines
    ["149 529 903 1 829:1 8c5:5 2b9:1 ddcd6"]⟩,
  ⟨["Diacritic", "Dia"], fun _ => CodeSet.ofLines
    ["5e 1 47 6 4 2:1 1f7:9e 1:7 5:5 11:1 4 9:1 fd:4 d1 37:2c 1 1:1 1:1 1 83:7 4:1 86:1 4:1 3:2",
     "43:1a 5b:a 3a:a 22:1 7e:7 29:9 10:1b 3d 10 3:3 1c 4a 10 6e 10 6e 10 2f:2 3c 10 7 77 6e 10",
     "6e 10 6d:1 10 7c 6f c:5 1 6b d:4 4b:1 1b 1 1 4:1 42:2 1:1 3e 70 1:1 28:1 4:4 19:6 1 a:1",
     "2c1:2 3b4:1 1e 94:a 9 15b:2 124 14:7 2 30:e 2:a 68 f 26:8 36:1 3a b:1 42:1 40:5 52:18 4 6",
     "2:2 32:3e 30:23 5:b 25:a 1bd 1:2 b:2 d:2 d:2 d:1 cf0:2 13d 1fa:5 69:3 5f 7572 c:1 1 1c:1",
     "52:1 e:21 66:2 6d:1 c 25 97 1b:11 39:3 24 5f c 24 95:2 41:3 33 64:4 9:2 80:1 4f30 301:f",
     "10e 1 2f 2d:1 43 2fc 49f:5 1:29 1:8 27d:2 4 a5:1 23b:5 26 1a:4 18f:2 46:a 31:3 c0 29 48:1",
     "78:1 3e 4c 9:2 68:1 b2:1 50:1 10 18:6 3:4 59:2 1:1 d:1 5f 3 7b:1 fb:1 7e 76:1 73 10d:1",
     "102:1 4 9c 53 12 51 1a5 102 1:1 51 1a9:1 17 14ec:e 2cd9 9c0:4 3b:6 234:1 222:10 50:1",
     "3ffe:3 1:6 1:1 1f01:2d 2:16 220:2 3:5 8:7 2:6 1e:3 e82:3d c2:6 177 3d:3 2fe:1 2e0:6 6d:2",
     "1:2"]⟩,
  ⟨["Emoji"], fun _ => CodeSet.ofLines
    ["23 6 5:9 6f 4 1f8d c d8 16 5a:5 f:1 16f:1 c a6 19:a 4:2 c7 e7:1 a 9 3a:3 1:4 9 2 2:1 2 4 2",
     "1:1 2 3 3:1 8:2 5 1 5:b b:1 2 1:1 1 12 2:1 12:5 1 1:1 3:1 5 2:1 4:1 b:1 5:1 2 5:1 1 1:1",
     "14:1 5:5 1:3 2 4 2 2:5 1 2 1 1 6 3 6 a:1 f 2 4 1 4:2 1 b:1 30:2 9 e e 174:1 1cf:2 13:1 33",
     "4 4da c 259 1 1bd6a ca a0:1 c:1 e 2:9 4b:19 1:1 17 14 2:8 15:1 ae:21 2:6f 2:1 1:2 2:52 2:2",
     "1:106 1:3e b:5 1:17 7:1 2:7 c 2:3 2 4:1 d:1 2 8:1 9 5:2 c:2 8:2 2 1 4 6 3 6:55 30:45 5:7",
     "2:2 4:9 3 1:1 3 2:9 e3:b 4 11b:2e 1:9 1:b8 70:c 3:9 5:37 7:e 2:a 6:8"]⟩,
  ⟨["Emoji_Component", "EComp"], fun _ => CodeSet.ofLines
    ["23 6 5:9 1fd3 d5 dd2b f3d6:19 1fb:4 5b0:3 c066c:5f"]⟩,
  ⟨["Emoji_Modifier", "EMod"], fun _ => CodeSet.ofLines
    ["1f3fb:4"]⟩,
  ⟨["Emoji_Modifier_Base", "EBase"], fun _ => CodeSet.ofLines
    ["261d db 10:3 1cc77 3c:2 2 2:2 75:1 2:a 15:12 3 4:2 1:2 7 1 18 c9:1 4 15 4:1 ae:2 3:4 53",
     "10:2 9 b 23f 2 8:7 6 9:9 2:2 38 3d:1 1:1 1 11:2 1:c e5:2 2a:8"]⟩,
  ⟨["Emoji_Presentation", "EPres"], fun _ => CodeSet.ofLines
    ["231a:1 cd:3 3 2 209:1 15:1 32:b 2b 13 d 8:1 11:1 5:1 8 5 15 7:1 1 4 2 7 4:1 1c 23 1 4:2 1",
     "3d:2 18 e 35b:1 33 4 1c4ae ca be 2:9 4b:19 1 18 14 2:4 1:2 15:1 ae:20 c:8 1:45 1:15 c:2a",
     "4:4 c:10 3 3:46 1 1:ba 2:3e d:3 1:17 12 1a:1 d 56:54 30:45 6 3:2 2:2 4:3 b:1 7:8 e3:b 4",
     "11b:2e 1:9 1:b8 70:c 3:9 5:37 7:e 2:a 6:8"]⟩,
  ⟨["Extended_Pictographic", "ExtPict"], fun _ => CodeSet.ofLines
    ["a9 4 1f8d c d8 16 5a:5 f:1 16f:1 c a6 19:a 4:2 c7 e7:1 a 9 3a:3 1:4 9 2 2:1 2 4 2 1:1 2 3",
     "3:1 8:2 5 1 5:b b:1 2 1:1 1 12 2:1 12:5 1 1:1 3:1 5 2:1 4:1 b:1 5:1 2 5:1 1 1:1 14:1 5:5",
     "1:3 2 4 2 2:5 1 2 1 1 6 3 6 a:1 f 2 4 1 4:2 1 b:1 30:2 9 e e 174:1 1cf:2 13:1 33 4 4da c",
     "259 1 1bd6a 27:3 64:b f:1 f e:1 25:9 70:1 c:1 e 2:9 13:37 1b:e a 14 2:8 1:3 9:16 6:bb 2:6f",
     "2:1 1:2 2:52 2:2 1:3 5:fd 1:3e b:5 1:17 7:1 2:7 c 2:3 2 4:1 d:1 2 8:1 9 5:2 c:2 8:2 2 1 4",
     "6 3 6:55 30:45 5:7 2:2 1:c 3 1:5 2:c da:25 c:3 38:7 a:5 28:7 1e:1 c:3 2:d 9:26 c:2e 1:9",
     "1:b8 58:7 e:1b 1:2 1:38 1:3 1:1b 1:3 1:f 100:3fd"]⟩,
  ⟨["Extender", "Ext"], fun _ => CodeSet.ofLines
    ["b7 218:1 36e 1b9 276 89 59 2f0 7f 943 38 263 18e 44 1389 2b:4 67:1 5d:2 6f16 5f6 3c2 16 89",
     "6c 15:1 547b 810:1 5cb 1b 4 4c7 125 74:1 1f2:2 4cf 50a9:1 49c:1 1 7158:1 4b1 354:2"]⟩,
  ⟨["Hex_Digit", "Hex"], fun _ => CodeSet.ofLines
    ["30:9 7:5 1a:5 fea9:9 7:5 1a:5"]⟩,
  ⟨["Hyphen"], fun _ => CodeSet.ofLines
    ["2d 7f 4dc 127b 809:1 e05 2e3 cd67 a9 57"]⟩,
  ⟨["IDS_Binary_Operator", "IDSB"], fun _ => CodeSet.ofLines
    ["2ff0:1 2:9 1f1"]⟩,
  ⟨["IDS_Trinary_Operator", "IDST"], fun _ => CodeSet.ofLines
    ["2ff2:1"]⟩,
  ⟨["IDS_Unary_Operator", "IDSU"], fun _ => CodeSet.ofLines
    ["2ffe:1"]⟩,
  ⟨["ID_Compat_Math_Continue"], fun _ => CodeSet.ofLines
    ["b2:1 5 1fb6 3:a 1:e 173 4 16 1b4a2 19 1f 19 1f 19 1f 19 1f 19"]⟩,
  ⟨["ID_Compat_Math_Start"], fun _ => CodeSet.ofLines
    ["2202 4 16 1b4a2 19 1f 19 1f 19 1f 19 1f 19"]⟩,
  ⟨["Ideographic", "Ideo"], fun _ => CodeSet.ofLines
    ["3006:1 19:8 e:2 3c5:19bf 40:51ff 5900:16d 2:69 750a 1b:17f7 8:4d5 29:9 2467:18b 4d04:a6df",
     "20:1039 6:dd 2:1681 e:1d30 f:26d 9a2:21d 5e2:134a 5:105f"]⟩,
  ⟨["Join_Control", "Join_C"], joinControl⟩,
  ⟨["Logical_Order_Exception", "LOE"], fun _ => CodeSet.ofLines
    ["e40:4 7b:4 af0:2 2 90fa:1 2 1:1"]⟩,
  ⟨["Modifier_Combining_Mark", "MCM"], fun _ => CodeSet.ofLines
    ["654:1 2 83 6 3:1 1e1:1 1:2 3 1f"]⟩,
  ⟨["Noncharacter_Code_Point", "NChar"], fun _ => CodeSet.ofLines
    ["fdd0:1f 20e:1 fffe:1 fffe:1 fffe:1 fffe:1 fffe:1 fffe:1 fffe:1 fffe:1 fffe:1 fffe:1 fffe:1",
     "fffe:1 fffe:1 fffe:1 fffe:1 fffe:1"]⟩,
  ⟨["Other_Alphabetic", "OAlpha"], otherAlphabetic⟩,
  ⟨["Other_Default_Ignorable_Code_Point", "ODI"], fun _ => CodeSet.ofLines
    ["34f e0f:1 653:1 8af 10fe ce3b 4f:8 d0007 1:1d 60:7f f0:e0f"]⟩,
  ⟨["Other_Grapheme_Extend", "OGr_Ext"], otherGraphemeExtend⟩,
  ⟨["Other_ID_Continue", "OIDC"], otherIdContinue⟩,
  ⟨["Other_ID_Start", "OIDS"], otherIdStart⟩,
  ⟨["Other_Lowercase", "OLower"], otherLowercase⟩,
  ⟨["Other_Math", "OMath"], otherMath⟩,
  ⟨["Other_Uppercase", "OUpper"], otherUppercase⟩,
  ⟨["Pattern_Syntax", "Pat_Syn"], fun _ => CodeSet.ofLines
    ["21:e a:6 1a:3 1 1a:3 22:6 1 1:1 1 1:1 4 4 3 17 1f 1f18:17 8:e 2:12 1:9 131:2cf a0:275",
     "1e:401 1:68 200:7f 181:2 4:18 f cd0d:1 105:1"]⟩,
  ⟨["Pattern_White_Space", "Pat_WS"], fun _ => CodeSet.ofLines
    ["9:4 12 64 1f88:1 18:1"]⟩,
  ⟨["Prepended_Concatenation_Mark", "PCM"], fun _ => CodeSet.ofLines
    ["600:5 d7 31 180:1 50 107da f"]⟩,
  ⟨["Quotation_Mark", "QMark"], fun _ => CodeSet.ofLines
    ["22 4 83 f 1f5c:7 19:1 e07 1c9:3 d:2 ce21:3 bd 4 5a:1"]⟩,
  ⟨["Radical"], fun _ => CodeSet.ofLines
    ["2e80:19 1:58 c:d5"]⟩,
  ⟨["Regional_Indicator", "RI"], fun _ => CodeSet.ofLines
    ["1f1e6:19"]⟩,
  ⟨["Sentence_Terminal", "STerm"], fun _ => CodeSet.ofLines
    ["21 c 10 549 93:2 b4 2b:2 f6 3d 1 3:1 125:1 6e4:1 316 4:1 305 c6:1 9d:1 2d 5 13a:1 162:3",
     "a2:1 a:1 2:1 1d:2 bb:1 41:1 3a4 17:1 9:2 caf:2 132 d 16:1 1ad 74fc 10e:1 e3 3 17e:1 56:1",
     "5f 98:1 93:2 90:1 f9 5226 2:1 3b 3:1 a9 c 10 41 af4:1 4fd:4 2c:3 bd:1 75:3 7f:2 81:1 6",
     "10:1 58:1 1:1 6c 12a:1 75:1 175:1 5:e 69:1 f9:2 205 1 fb:1 57:1 1a4:1 2b4:1 4a:1 4b29:1 85",
     "41:1 b 229:1 128 4e06 1de8"]⟩,
  ⟨["Soft_Dotted", "SD"], fun _ => CodeSet.ofLines
    ["69:1 c4 119 1e 34 14 140 62 1 1909 33 d 3 84 9d 1a5 d6:1 b32 1a7a5:1 32:1 32:1 32:1 32:1",
     "32:1 32:1 32:1 32:1 32:1 32:1 32:1 32:1 886 131:1 1a"]⟩,
  ⟨["Terminal_Punctuation", "Term"], fun _ => CodeSet.ofLines
    ["21 a 1 b:1 3 33e 8 201 39 48 e 1:2 b4 2b:a 1 eb:1 36:5 1:7 1f 105:1 4f4:1 ac 4:5 137:1",
     "315:7 305 7c:2 47:1 9d:2 3 27:3 2:1 13a:1 162:3 a2:1 a:1 1:2 1d:2 bb:4 3e:1 3a4 17:1 9:2",
     "caf:2 132 d 4 a 1:1 3:1 1ac:1 74fb:1 10d:2 e3:4 17e:1 56:1 5f 97:2 93:2 7f 10:1 f9 5226",
     "2:1 39:2 1:3 a9 a 1 b:1 3 41 2 43a 30 486 c7 136:1 98:5 44:5 59:3 3b8:4 2c:3 bd:6 70:3",
     "7f:2 81:1 6 10:1 58:4 6c 12a:1 75:2 c:1 166:3 3:e 69:1 f9:2 205 1 fb:1 57:1 4:1 19e:2 2d",
     "285:1 4a:1 52b:4 45f9:1 85 41:2 a 229:1 127:1 4e06 1de7:3"]⟩,
  ⟨["Unified_Ideograph", "UIdeo"], fun _ => CodeSet.ofLines
    ["3400:19bf 40:51ff 5a0e:1 1 1:1 a 1 1:1 2:2 105d6:a6df 20:1039 6:dd 2:1681 e:1d30 f:26d",
     "11a2:134a 5:105f"]⟩,
  ⟨["Variation_Selector", "VS"], fun _ => CodeSet.ofLines
    ["180b:2 1 e5f0:f d02f0:ef"]⟩]

/-- The code points that are no characters of a kind of their own: controls and what is not
assigned. -/
def Category.others (_ : Unit) : CodeSet :=
  (Category.codes .unassigned).union <|
    Category.anyOf [.control, .format, .surrogate,
      .privateUse]

/-- The general categories by name. That of surrogates is not among them: no text has one. -/
def categories : List NamedSet := [
  ⟨["Any"], fun _ => CodeSet.full⟩,
  ⟨["Assigned"], fun _ => (Category.codes .unassigned).compl⟩,
  ⟨["ASCII"], fun _ => CodeSet.range 0 0x7F⟩,
  ⟨["Other", "C"], fun _ => Category.others ()⟩,
  ⟨["Control", "Cc", "Cntrl"], fun _ => Category.codes .control⟩,
  ⟨["Format", "Cf"], fun _ => Category.codes .format⟩,
  ⟨["Unassigned", "Cn"], fun _ => Category.codes .unassigned⟩,
  ⟨["Private_Use", "Co"], fun _ => Category.codes .privateUse⟩,
  ⟨["Letter", "L"], fun _ => Category.anyOf Category.letters⟩,
  ⟨["Cased_Letter", "LC"],
    fun _ => Category.anyOf [.uppercaseLetter, .lowercaseLetter, .titlecaseLetter]⟩,
  ⟨["Lowercase_Letter", "Ll"], fun _ => Category.codes .lowercaseLetter⟩,
  ⟨["Modifier_Letter", "Lm"], fun _ => Category.codes .modifierLetter⟩,
  ⟨["Other_Letter", "Lo"], fun _ => Category.codes .otherLetter⟩,
  ⟨["Titlecase_Letter", "Lt"], fun _ => Category.codes .titlecaseLetter⟩,
  ⟨["Uppercase_Letter", "Lu"], fun _ => Category.codes .uppercaseLetter⟩,
  ⟨["Mark", "M", "Combining_Mark"], fun _ => Category.anyOf Category.marks⟩,
  ⟨["Spacing_Mark", "Mc"], fun _ => Category.codes .spacingMark⟩,
  ⟨["Enclosing_Mark", "Me"], fun _ => Category.codes .enclosingMark⟩,
  ⟨["Nonspacing_Mark", "Mn"], fun _ => Category.codes .nonspacingMark⟩,
  ⟨["Number", "N"], fun _ => Category.anyOf Category.numbers⟩,
  ⟨["Decimal_Number", "Nd", "Digit"], fun _ => Category.codes .decimalNumber⟩,
  ⟨["Letter_Number", "Nl"], fun _ => Category.codes .letterNumber⟩,
  ⟨["Other_Number", "No"], fun _ => Category.codes .otherNumber⟩,
  ⟨["Punctuation", "P", "Punct"], fun _ => Category.anyOf Category.punctuation⟩,
  ⟨["Connector_Punctuation", "Pc"], fun _ => Category.codes .connectorPunctuation⟩,
  ⟨["Dash_Punctuation", "Pd"], fun _ => Category.codes .dashPunctuation⟩,
  ⟨["Close_Punctuation", "Pe"], fun _ => Category.codes .closePunctuation⟩,
  ⟨["Final_Punctuation", "Pf"], fun _ => Category.codes .finalPunctuation⟩,
  ⟨["Initial_Punctuation", "Pi"], fun _ => Category.codes .initialPunctuation⟩,
  ⟨["Other_Punctuation", "Po"], fun _ => Category.codes .otherPunctuation⟩,
  ⟨["Open_Punctuation", "Ps"], fun _ => Category.codes .openPunctuation⟩,
  ⟨["Symbol", "S"], fun _ => Category.anyOf Category.symbols⟩,
  ⟨["Currency_Symbol", "Sc"], fun _ => Category.codes .currencySymbol⟩,
  ⟨["Modifier_Symbol", "Sk"], fun _ => Category.codes .modifierSymbol⟩,
  ⟨["Math_Symbol", "Sm"], fun _ => Category.codes .mathSymbol⟩,
  ⟨["Other_Symbol", "So"], fun _ => Category.codes .otherSymbol⟩,
  ⟨["Separator", "Z"], fun _ => Category.anyOf Category.separators⟩,
  ⟨["Line_Separator", "Zl"], fun _ => Category.codes .lineSeparator⟩,
  ⟨["Paragraph_Separator", "Zp"], fun _ => Category.codes .paragraphSeparator⟩,
  ⟨["Space_Separator", "Zs"], fun _ => Category.codes .spaceSeparator⟩]

end Readiness.Unicode
