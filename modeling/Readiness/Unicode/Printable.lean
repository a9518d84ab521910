import Readiness.Unicode.Category

/-! Which characters can be shown as they are.

A character is `isShown` unless it is a control, format, private, surrogate or unassigned code
point, a separator other than the blank, or one that joins the character before it: written alone,
none of these can be told apart by a reader. -/

namespace Readiness.Unicode

/-- Code points that attach to the one before them. -/
def joining : CodeSet :=
  CodeSet.ofLines
    ["300:6f 113:6 107:2c 1 1:1 1:1 1 48:a 30:14 10 65:6 2:5 2:1 1:3 23 1e:1a 5b:a 3a:8 9 18:3",
     "1:8 1:2 1:4 2b:2 3b:8 2a:17 1:1f 37 1 4:7 4 3:6 a:1 1d 3a 1 2:3 8 9 a:1 1a 2:1 39 4:1 4:1",
     "2:2 3 1e:1 3 b:1 39 4:4 1:1 4 14:1 16:5 1 3a 1:1 1:3 8 7:2 a:1 1e 3b 1 c 9 28 3 37 1:2 5:2",
     "1:3 7:1 b:1 1d 3a 2:1 1 3:2 1:3 7:1 b:1 1c:1 39:1 1 2:3 8 9 a:1 1d 48 4 2:2 1 8 51 2:6 c:7",
     "62 2:8 b:6 49:1 1b 1 1 37:d 1:4 1:1 5:a 1:23 9 66:3 1:5 1:1 2:1 19:1 4:2 10:3 d 2:1 6 f",
     "2bf:2 3b2:3 1c:2 1d:1 1e:1 40:1 1:6 8 2:a 9 2d:2 1 75:1 22 76:2 4:1 9 6:2 db:1 2 3a 1:6 1",
     "1 2:7 6:9 2 30:1e 31:3 30:9 4:2 26:8 c:1 20:3 2:5 38 1:1 3 1:4 38:7 2:1 98:2 1:c 1:6 4 6",
     "3:1 c6:3f 20c c3:20 bfe:2 8d 60:1f 22a:5 69:1 75d4:3 1:9 20:1 50:1 110 3 4 19:1 5 97:1",
     "1a:11 d 26:7 19:a 1 2c:2 30 2:3 2:1 2 24 43:5 2:1 2:1 c 8 2f 33 1:2 2:1 5:1 1 2a:1 8 ee 2",
     "4 4f30 2e1:f 10:f 16e:1 25d e2 95:4 686:2 1:1 5:3 28:2 4 a5:1 23d:3 41:4 13d:1 4f:3 46:a",
     "31:3 7b 36:e 29 2:1 a:2 31:3 2:1 7 3d:2 24:4 1:7 3e c:1 34:8 1 8:3 2 5f:2 2:3 6 2 9d 3:7",
     "15:1 39:1 1 1 c 9 e:6 3:4 43 2:5 1 2 1:2 4:2 1 e:1 55:7 2:2 1 17 51 2:5 1 2 1:1 1:1 eb 2:3",
     "6:1 1:1 1b:1 55:7 2 1:1 6a 1 2:7 65 1 2:3 1:4 103:8 1:1 f5 a:3 4 90:3 2:1 4 20:9 28:5 2:3",
     "8 9:5 2:2 2e:c 1:1 196:6 1:5 1 52:15 2:6 1:1 1:1 7a:5 3 1:1 1:6 1 48:1 3 1 15b:1 b:1 34:4",
     "5:2 17 14e5 6:e 2cc8:b 3:2 9c0:4 3b:6 418 3f:3 51 b:1 4cab:1 1261:2d 2:16 21e:4 3:5 8:7",
     "2:6 1e:3 94:2 7bb:36 4:31 8 e 16:4 1:e 550:6 1:10 2:6 1:1 1:4 64 a0:6 177 3d:3 1fc:3 fe:1",
     "2e0:6 6d:6 c16d5:5f 80:ef"]

/-- Code points that have no shape of their own, the blank among them. -/
def shapeless : CodeSet :=
  (Category.codes .unassigned).union <|
    Category.anyOf (Category.separators ++ [.control, .format, .surrogate, .privateUse])

/-- Characters without a visible shape of their own, the blank apart. -/
def hidden : CodeSet := (joining.union shapeless).diff (CodeSet.single 0x20)

/-- Whether a reader can tell the character from its picture. -/
def isShown (c : Char) : Bool :=
  if c.toNat < 0x7F then 0x20 ≤ c.toNat else !hidden.hasChar c

end Readiness.Unicode
