import Readiness.Unicode.CodeSet

/-! How letters join in cursive scripts. -/

namespace Readiness.Unicode

/-- Letters that join on both sides. -/
def joiningBoth : CodeSet :=
  CodeSet.ofLines
    ["620 5 1 1:4 4:c 1:6 1:1 23:1 8:f 12:25 1:1 9 1 1:1 28:2 2 12:2 5:3 1:8 1 1 1:1 1f:a 3:e",
     "2:3 1 2:2 2:5 4a:20 56:4 2 1:9 1 a 1:3 2 1d 2:4 12:9 5:1 2:5 1:e f3e 18:58 e:21 1 8f95:31",
     "624e:4 e:3 1:4 1:2 a:3 91 1 3:2 1:1 1 2 1c:1 152:20 1 19f:1 6b:2 1:10 c:2 1c:3 2:b 2e 1:1",
     "4 2:1 1:1 1 2 5 d935:43"]

/-- Letters that join what follows them only. -/
def joiningNext : CodeSet :=
  CodeSet.ofLines
    ["a872 625a 9 228 2ca"]

/-- Letters that join what comes before them only. -/
def joiningPrevious : CodeSet :=
  CodeSet.ofLines
    ["622:3 1 1 5:3 15 28:2 1:2 10:11 26 2:8 1 1 2:1 1 18:1 20 4:4 4 9 1 1 2 1d b:2 f:1 4 1:1",
     "3:1 c6 5:1 1 a 1:2 e 1:1 5:12 b 1b:2 1 2:1 6 1020b 1 1:1 3:4 a 3 2 a 91 1:2 3 2 1:1 1 17:3",
     "175 19f 70 20 1f:1 3e:2 2:1 2 4:1 5"]

/-- What joining passes over. -/
def joiningTransparent : CodeSet :=
  CodeSet.ofLines
    ["ad 252:6f 113:6 107:2c 1 1:1 1:1 1 48:a 1 2e:14 10 65:6 2:5 2:1 1:3 21 1 1e:1a 5b:a 3a:8 9",
     "18:3 1:8 1:2 1:4 2b:2 3b:8 2a:17 1:1f 37 1 4:7 4 3:6 a:1 1d 3a 4:3 8 14:1 1a 2:1 39 4:1",
     "4:1 2:2 3 1e:1 3 b:1 39 4:4 1:1 4 14:1 16:5 1 3a 2 1:3 8 7:1 b:1 1e 3d c 32 3 37 1:2 5:2",
     "1:3 7:1 b:1 1d 3a 2 6 5:1 14:1 1c:1 39:1 4:3 8 14:1 1d 48 7:2 1 5a 2:6 c:7 62 2:8 b:6 49:1",
     "1b 1 1 37:d 1:4 1:1 5:a 1:23 9 66:3 1:5 1:1 2:1 19:1 4:2 10:3 d 2:1 6 f 2bf:2 3b2:2 1d:1",
     "1e:1 1e:1 40:1 1:6 8 2:a 9 2d:2 1 75:1 22 76:2 4:1 9 6:2 db:1 2 3a 1:6 1 1 2:7 6:9 2 30:1e",
     "31:3 30 1:4 1 5 28:8 c:1 20:3 2:1 1:2 38 1:1 3 1:2 3a:7 2:1 98:2 1:c 1:6 4 6 3:1 c6:3f 20b",
     "2:1 1a:4 31:4 5:5 60:20 bfe:2 8d 60:1f 22a:3 6b:1 75d4:3 1:9 20:1 50:1 110 3 4 19:1 5 97:1",
     "1a:11 d 26:7 19:a 2e:2 30 2:3 2:1 27 43:5 2:1 2:1 c 8 2f 33 1:2 2:1 5:1 1 2a:1 8 ee 2 4",
     "4f30 2e1:f 10:f cf f9:2 201 e2 95:4 686:2 1:1 5:3 28:2 4 a5:1 23d:3 41:4 13d:1 4f:3 46:a",
     "31:3 7b 36:e 29 2:1 a:2 31:3 2:1 7 3d:2 24:4 1:7 3e c:1 34:8 a:3 2 5f:2 2 1:1 6 2 9d 3:7",
     "15:1 39:1 3 25:6 3:4 46:5 d 1 1 e:1 55:7 2:2 1 17 54:5 1 4:1 1:1 ee:3 6:1 1:1 1b:1 55:7 2",
     "1:1 6a 1 2:5 1 65 1 2:3 1:4 103:8 1:1 100:1 1 4 90:3 2:1 4 20:9 28:5 2:3 8 9:5 2:2 2e:c",
     "1:1 196:6 1:5 1 52:15 2:6 1:1 1:1 7a:5 3 1:1 1:6 1 48:1 3 1 15b:1 b:1 34:4 5 1 17 14d5:10",
     "6:e 2cc8:b 3:2 9c0:4 3b:6 418 3f:3 51 4cb8:1 1:3 125c:2d 2:16 220:2 9:f 2:6 1e:3 94:2",
     "7bb:36 4:31 8 e 16:4 1:e 550:6 1:10 2:6 1:1 1:4 64 a0:6 177 3d:3 1fc:3 fe:1 2e0:6 6d:7",
     "c16b5 1e:5f 80:ef"]

end Readiness.Unicode
