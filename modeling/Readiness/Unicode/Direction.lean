import Readiness.Unicode.CodeSet

/-! Directions of writing. -/

namespace Readiness.Unicode

/-- How a character takes part in the direction of a line. -/
inductive Direction
  | left | right | arabicNumber | europeanNumber
  /-- Takes the direction of what stands around it. -/
  | neutral
  /-- Takes the direction of what it stands on. -/
  | mark
deriving DecidableEq, Repr

namespace Direction

/-- The packed table of a direction; all other code points are written from left to right. -/
def table : Direction → List String
  | .left => []
  | .right =>
    ["5be 1 2 2 9:1a 4:5 13 2 1 d 1:2d 22:2 1:3 4:5c f:1 7:1 a:13 2 1:1d 1d:58 b e:2a 9:1 4 3:17",
     "4 9 3 7:e 1:18 5 1:a 5:1e 11:29 f2e8:10 2b0 98c:5 2 1:2b 1:1 3 2:16 1:47 8:8 30:12 1:1",
     "5:20 4:19 5 40:37 4:13 2:2e f:3 1:2 1:1c a:8 7:8 7:3f 20:24 6:b 9:35 a:15 2:1a 5:19 7:3",
     "c:6 50:48 77:32 7:29 1c:f 1f:16 8:1 f0:29 3 2:1 10:2 3b:27 8:15 b:8 16:11 4:3 26:1b 14:16",
     "d809:c4 2:8 52:21 7 4:9 4:1 311:43 4c:3c"]
  | .arabicNumber =>
    ["660:9 1:1 106c3:9 126:1e"]
  | .europeanNumber =>
    ["30:9 6b6:9 fbe7:1a"]
  | .neutral =>
    ["0:8 5:d 5:e a:6 1a:5 1a:4 21:6 1 1:1 1 1:1 4:1 3 3 17 1f 1c1:1 7:d 2:5 6:1 5:8 1:10 75 80",
     "193 2:2 76:1 1:1 1 1:1 5a 73 a 10c:3 1f8:1 7 f5 101:7 7d:6 1c0 fa:3 452:9 66 29a:1 13e",
     "14:9 6:a 135 3:1 98:21 60c:1 2 1:4 1:b 3 8:2 2 2:3 1 1:7 3:c 1:6 41:7 1:17 43 3 b 2:1 5:1",
     "3 1 1 1 4 b 6:3 5:3 3c:1 4:9b 2 2:f7 2:a 45:19 1:93 16:a a0:1c0 1:152 100:10b 1:66 3:64",
     "1:96 2:1f 1:68 e5:5 e:6 100:5d 22:19 1:3 1:52 10e 1:1 3:18 f 6 5:2 60 5a c4:25 1bda:3f",
     "5690:36 146:2 63 a:1 80:21 66 9f:3 c:1 3a:3 2f2:1 51d2:11 7f 2d:2 45:1 2ba 3e:4c 3:c 3 77e",
     "219:6 22e 2e3:13 5fa:c 968:1c 4ff0 5c1d:d5 2a:1b3 335:1 15:41 3 ba:56 fa8 bf0:1 10e:2b",
     "4:63 c:e 2:e 1:e 1:24 15:4 1f 3d:2 3d b2:5 9a:3d7 4:10 3:c 3:76 4:5e 6:b 4 f:b 4:37 8:9",
     "6:27 8:1d 2:b 4:1 3e:153 c:d 2:c 3:9 5:37 7:e 2:a 6:8 7:92 1:5b"]
  | .mark =>
    ["300:3f 2 3:8 1:1f 113:6 107:2c 1 1:1 1:1 1 48:a 30:14 10 65:6 2:5 2:1 1:3 23 1e:1a 5b:a",
     "3a:8 9 18:3 1:8 1:2 1:4 2b:2 3b:8 2a:17 1:1f 37 1 4:7 4 3:6 a:1 1d 3a 4:3 8 14:1 1a 2:1 39",
     "4:1 4:1 2:2 3 1e:1 3 b:1 39 4:4 1:1 4 14:1 16:5 1 3a 2 1:3 8 7:1 b:1 1e 3d c 32 3 37 1:2",
     "5:2 1:3 7:1 b:1 1d 3a f:1 14:1 1c:1 39:1 4:3 8 14:1 1d 48 7:2 1 5a 2:6 c:7 62 2:8 b:6 49:1",
     "1b 1 1 37:1 1 5:4 1 1:2 1:1 5:5 1:3 1:3 1:3 1:3 1:3 1:b 1:2 9 66:3 1:5 1:1 2:1 19:1 4:2",
     "10:3 d 2:1 6 f 2bf:2 3b2:2 1d:1 1e:1 1e:1 43:6 8 2:a 9 a7:1 22 76:2 4:1 9 6:2 db:1 2 3a",
     "1:6 1 1 2:7 6:9 2 30:1e 31:3 30 1:4 1 5 28:8 c:1 20:3 2:1 1:2 38 1:1 3 1:2 3a:7 2:1 98:2",
     "1:c 1:6 4 6 3:1 c6:3f 2d0:20 bfe:2 8d 60:1f 22a:3 6b:1 75d4:3 1:9 20:1 50:1 110 3 4 19:1 5",
     "97:1 1a:11 d 26:7 19:a 2e:2 30 2:3 2:1 27 43:5 2:1 2:1 c 8 2f 33 1:2 2:1 5:1 1 2a:1 8 ee 2",
     "4 4f30 301:f 3cd e2 95:4 686:2 1:1 5:3 28:2 4 a5:1 23d:3 41:4 13d:1 4f:3 46:a 31:3 7b 36:e",
     "29 2:1 a:2 31:3 2:1 7 3d:2 24:4 1:7 3e c:1 34:8 a:3 2 5f:2 2 1:1 6 2 9d 3:7 15:1 39:1 3",
     "25:6 3:4 46:5 d 1 1 e:1 55:7 2:2 1 17 54:5 1 4:1 1:1 ee:3 6:1 1:1 1b:1 55:7 2 1:1 6a 1 2:5",
     "1 65:2 2:3 1:4 103:8 1:1 100:1 1 4 90:3 2:1 4 20:5 2:1 28:5 2:3 8 9:5 2:2 2e:c 1:1 196:6",
     "1:5 54:15 2:6 1:1 1:1 7a:5 3 1:1 1:6 1 48:1 3 1 15b:1 b:1 34:4 5 1 17 14e5 6:e 2cc8:b 3:2",
     "9c0:4 3b:6 418 3f:3 51 4cb8:1 1261:2d 2:16 220:2 11:7 2:6 1e:3 94:2 7bb:36 4:31 8 e 16:4",
     "1:e 550:6 1:10 2:6 1:1 1:4 64 a0:6 177 3d:3 1fc:3 fe:1 2e0:6 6d:6"]

/-- The directions that have a table, with the code points of each. -/
def tables (_ : Unit) : List (Direction × CodeSet) :=
  [.right, .arabicNumber, .europeanNumber, .neutral, .mark].map fun d =>
    (d, CodeSet.ofLines d.table)

def ofChar (c : Char) : Direction :=
  (((tables ()).find? fun t => t.2.hasChar c).map (·.1)).getD .left

end Direction

end Readiness.Unicode
