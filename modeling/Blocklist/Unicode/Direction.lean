import Blocklist.Unicode.Table
/-!
How characters are placed in a line: the direction that they are written in, and how they join their
neighbours.
-/

namespace Blocklist.Unicode

def directionRuns : String :=
  "9 BN 1 S 1 B 1 S 1 WS 1 B e BN 3 B 1 S 1 WS 2 ON 3 ET 5 ON 1 ES 1 CS 1 ES 2 CS a EN 1 CS 6 ON
   1a L 6 ON 1a L 4 ON 6 BN 1 B 1a BN 1 CS 1 ON 4 ET 4 ON 1 L 2 ON 1 BN 2 ON 2 ET 2 EN 1 ON 1 L
   3 ON 1 EN 1 L 5 ON 17 L 1 ON 1f L 1 ON 1c1 L 2 ON 7 L e ON 2 L e ON 5 L 9 ON 1 L 11 ON 70 NSM
   4 L 2 ON 8 L 1 ON 5 L 2 ON 1 L 1 ON 6e L 1 ON 8c L 7 NSM 100 L 1 ON 2 L 2 ON 1 ET 1 R 2d NSM
   1 R 1 NSM 1 R 2 NSM 1 R 2 NSM 1 R 1 NSM 38 R 6 AN 2 ON 1 AL 2 ET 1 AL 1 CS 1 AL 2 ON b NSM 30
   AL 15 NSM a AN 1 ET 2 AN 3 AL 1 NSM 65 AL 7 NSM 1 AN 1 ON 6 NSM 2 AL 2 NSM 1 ON 4 NSM 2 AL a
   EN 17 AL 1 NSM 1e AL 1b NSM 5b AL b NSM f AL 2b R 9 NSM 2 R 4 ON 3 R 1 NSM 18 R 4 NSM 1 R 9
   NSM 1 R 3 NSM 1 R 5 NSM 2b R 3 NSM 4 R 30 AL 2 AN 5 AL 9 NSM 2a AL 18 NSM 1 AN 20 NSM 37 L 1
   NSM 1 L 1 NSM 4 L 8 NSM 4 L 1 NSM 3 L 7 NSM a L 2 NSM 1d L 1 NSM 3a L 1 NSM 4 L 4 NSM 8 L 1
   NSM 14 L 2 NSM e L 2 ET 7 L 1 ET 2 L 1 NSM 2 L 2 NSM 39 L 1 NSM 4 L 2 NSM 4 L 2 NSM 2 L 3 NSM
   3 L 1 NSM 1e L 2 NSM 3 L 1 NSM b L 2 NSM 39 L 1 NSM 4 L 5 NSM 1 L 2 NSM 4 L 1 NSM 14 L 2 NSM
   d L 1 ET 8 L 6 NSM 1 L 1 NSM 3a L 1 NSM 2 L 1 NSM 1 L 4 NSM 8 L 1 NSM 7 L 2 NSM b L 2 NSM 1e
   L 1 NSM 3d L 1 NSM c L 1 NSM 25 L 6 ON 1 ET 1 ON 5 L 1 NSM 3 L 1 NSM 37 L 1 NSM 1 L 3 NSM 5 L
   3 NSM 1 L 4 NSM 7 L 2 NSM b L 2 NSM 14 L 7 ON 2 L 1 NSM 3a L 1 NSM f L 2 NSM 14 L 2 NSM 1c L
   2 NSM 39 L 2 NSM 4 L 4 NSM 8 L 1 NSM 14 L 2 NSM 1d L 1 NSM 48 L 1 NSM 7 L 3 NSM 1 L 1 NSM 5a
   L 1 NSM 2 L 7 NSM 4 L 1 ET 7 L 8 NSM 62 L 1 NSM 2 L 9 NSM b L 7 NSM 49 L 2 NSM 1b L 1 NSM 1 L
   1 NSM 1 L 1 NSM 4 ON 33 L e NSM 1 L 5 NSM 1 L 2 NSM 5 L b NSM 1 L 24 NSM 9 L 1 NSM 66 L 4 NSM
   1 L 6 NSM 1 L 2 NSM 2 L 2 NSM 19 L 2 NSM 4 L 3 NSM 10 L 4 NSM d L 1 NSM 2 L 2 NSM 6 L 1 NSM f
   L 1 NSM 2bf L 3 NSM 30 L a ON 66 L 1 ON 27f L 1 WS 1a L 2 ON 75 L 3 NSM 1d L 2 NSM 1e L 2 NSM
   1e L 2 NSM 40 L 2 NSM 1 L 7 NSM 8 L 1 NSM 2 L b NSM 7 L 1 ET 1 L 1 NSM 12 L a ON 6 L b ON 3
   NSM 1 BN 1 NSM 75 L 2 NSM 22 L 1 NSM 76 L 3 NSM 4 L 2 NSM 9 L 1 NSM 6 L 3 NSM 4 L 1 ON 3 L 2
   ON 98 L 22 ON 17 L 2 NSM 2 L 1 NSM 3a L 1 NSM 1 L 7 NSM 1 L 1 NSM 1 L 1 NSM 2 L 8 NSM 6 L a
   NSM 2 L 1 NSM 30 L 2e NSM 2 L c NSM 14 L 4 NSM 30 L 1 NSM 1 L 5 NSM 1 L 1 NSM 5 L 1 NSM 28 L
   9 NSM c L 2 NSM 20 L 4 NSM 2 L 2 NSM 1 L 3 NSM 38 L 1 NSM 1 L 2 NSM 3 L 1 NSM 1 L 3 NSM 3a L
   8 NSM 2 L 2 NSM 98 L 3 NSM 1 L d NSM 1 L 7 NSM 4 L 1 NSM 6 L 1 NSM 3 L 2 NSM c6 L 40 NSM 1bd
   L 1 ON 1 L 3 ON b L 3 ON d L 3 ON d L 3 ON d L 2 ON 1 L b WS 3 BN 1 L 1 R 18 ON 1 WS 1 B 1
   LRE 1 RLE 1 PDF 1 LRO 1 RLO 1 CS 5 ET f ON 1 CS 1a ON 1 WS 6 BN 1 LRI 1 RLI 1 FSI 1 PDI 6 BN
   1 EN 3 L 6 EN 2 ES 3 ON 1 L a EN 2 ES 3 ON 11 L 30 ET 21 NSM f L 2 ON 1 L 4 ON 1 L 2 ON a L 1
   ON 1 L 3 ON 5 L 6 ON 1 L 1 ON 1 L 1 ON 1 L 1 ON 4 L 1 ET b L 2 ON 4 L 5 ON 5 L 4 ON 2 L 10 ON
   29 L 3 ON 4 L 82 ON 1 ES 1 ET 122 ON 45 L 1a ON 1 L 91 ON 19 L b ON 15 L 28 ON 14 EN 4e L 1c2
   ON 1 L 153 ON 100 L 274 ON 2 L 20 ON 1 L 69 ON e5 L 6 ON 4 L 3 NSM 7 L 7 ON 7f L 1 NSM 60 L
   20 NSM 5e ON 22 L 1a ON 1 L 59 ON c L d6 ON 1a L c ON 4 L 1 WS 4 ON 3 L 19 ON 9 L 4 NSM 2 L 1
   ON 5 L 2 ON 5 L 3 ON 59 L 2 NSM 2 ON 3 L 1 ON 5a L 1 ON c4 L 24 ON 39 L 2 ON 31 L 10 ON 1c L
   3 ON 32 L f ON c L 4 ON a7 L 4 ON 63 L 2 ON 1f L 1 ON 19c0 L 40 ON 5690 L 37 ON 146 L 3 ON 5f
   L 4 NSM 1 ON a NSM 2 ON 1e L 2 NSM 50 L 2 NSM e L 22 ON 66 L 1 ON 79 L 1 NSM 3 L 1 NSM 4 L 1
   NSM 19 L 2 NSM 1 L 4 ON 1 NSM b L 2 ET 3a L 4 ON 4c L 2 NSM 1a L 12 NSM d L 1 NSM 26 L 8 NSM
   19 L b NSM 2e L 3 NSM 30 L 1 NSM 2 L 4 NSM 2 L 2 NSM 27 L 1 NSM 43 L 6 NSM 2 L 2 NSM 2 L 2
   NSM c L 1 NSM 8 L 1 NSM 2f L 1 NSM 33 L 1 NSM 1 L 3 NSM 2 L 2 NSM 5 L 2 NSM 1 L 1 NSM 2a L 2
   NSM 8 L 1 NSM 73 L 2 ON 79 L 1 NSM 2 L 1 NSM 4 L 1 NSM 4f2f L 1 R 1 NSM a R 1 ES 26 R 1ee AL
   12 ON 7f AL 1 ON 20 BN d AL 3 ON 10 NSM a ON 6 L 10 NSM 20 ON 1 CS 1 ON 1 CS 1 L 1 ON 1 CS 9
   ON 1 ET 2 ON 2 ES 3 ON 1 L 1 ON 2 ET 1 ON 4 L 8f AL 1 BN 1 L 2 ON 3 ET 5 ON 1 ES 1 CS 1 ES 2
   CS a EN 1 CS 6 ON 1a L 6 ON 1a L b ON 7a L 2 ET 3 ON 2 ET 1 L 7 ON 1 L 9 BN 5 ON 2 BN 101 L 1
   ON 3e L 4d ON 3 L d ON 3 L 1 ON 5c L 1 NSM e2 L 1 NSM 1b EN 7a L 5 NSM 485 L 11f R 1 ON e1 R
   3 NSM 1 R 2 NSM 5 R 4 NSM 28 R 3 NSM 4 R 1 NSM a5 R 2 NSM 52 R 7 ON 1c0 R 24 AL 4 NSM 8 AL a
   AN 6 AL 29 R 5 NSM f2 R 1f AN 2c R 2 NSM 13 R 3a AL 6 NSM 30 R 16 AL b NSM 1f AL 12 R 4 NSM
   7a R 1 L 1 NSM 36 L f NSM b L 14 ON a L 1 NSM 2 L 2 NSM a L 3 NSM 31 L 4 NSM 2 L 2 NSM 7 L 1
   NSM 3d L 3 NSM 24 L 5 NSM 1 L 8 NSM 3e L 1 NSM c L 2 NSM 34 L 9 NSM a L 4 NSM 2 L 1 NSM 5f L
   3 NSM 2 L 1 NSM 1 L 2 NSM 6 L 1 NSM 2 L 1 NSM 9d L 1 NSM 3 L 8 NSM 15 L 2 NSM 39 L 2 NSM 3 L
   1 NSM 25 L 7 NSM 3 L 5 NSM 46 L 6 NSM 11 L 1 NSM e L 2 NSM 55 L 8 NSM 2 L 3 NSM 1 L 1 NSM 17
   L 1 NSM 54 L 6 NSM 1 L 1 NSM 4 L 2 NSM 1 L 2 NSM ee L 4 NSM 6 L 2 NSM 1 L 2 NSM 1b L 2 NSM 55
   L 8 NSM 2 L 1 NSM 1 L 2 NSM 1f L d ON 3e L 1 NSM 1 L 1 NSM 2 L 6 NSM 1 L 1 NSM 65 L 3 NSM 2 L
   4 NSM 1 L 5 NSM 103 L 9 NSM 1 L 2 NSM 100 L 2 NSM 1 L 1 NSM 4 L 1 NSM 90 L 4 NSM 2 L 2 NSM 4
   L 1 NSM 20 L 6 NSM 2 L 2 NSM 28 L 6 NSM 2 L 4 NSM 8 L 1 NSM 9 L 6 NSM 2 L 3 NSM 2e L d NSM 1
   L 2 NSM c6 L 1 NSM 1 L 3 NSM 1 L 1 NSM c9 L 7 NSM 1 L 6 NSM 54 L 16 NSM 2 L 7 NSM 1 L 2 NSM 1
   L 2 NSM 7a L 6 NSM 3 L 1 NSM 1 L 2 NSM 1 L 7 NSM 1 L 1 NSM 48 L 2 NSM 3 L 1 NSM 1 L 1 NSM 15b
   L 2 NSM b L 2 NSM 34 L 5 NSM 5 L 1 NSM 1 L 1 NSM 17 L 1 NSM 7a L 8 ON 4 ET 11 ON 144e L 1 NSM
   6 L f NSM 2cc8 L c NSM 3 L 2 NSM 9c1 L 5 NSM 3b L 7 NSM 418 L 1 NSM 3f L 4 NSM 4f L 1 ON 1 L
   1 NSM 4cb8 L 2 NSM 1 L 4 BN 125c L 2e NSM 2 L 17 NSM 220 L 3 NSM 9 L 8 BN 8 NSM 2 L 7 NSM 1e
   L 4 NSM 3b L 2 ON 15 L 42 ON 3 NSM 1 ON ba L 57 ON 384 L 1 ON 39 L 1 ON 39 L 1 ON 39 L 1 ON
   39 L 1 ON a L 32 EN 200 L 37 NSM 4 L 32 NSM 8 L 1 NSM e L 1 NSM 16 L 5 NSM 1 L f NSM 550 L 7
   NSM 1 L 11 NSM 2 L 7 NSM 1 L 2 NSM 1 L 5 NSM 64 L 1 NSM a0 L 7 NSM 177 L 1 NSM 3d L 4 NSM f L
   1 ET 1ec L 4 NSM fe L 2 NSM f3 L 1 NSM 2 L 1 NSM 7 L 2 NSM 5 L 1 NSM 10a L d0 R 7 NSM 6d R 7
   NSM 325 R 50 AL 40 R 50 AL b0 R f0 AL 2 ON e AL 100 R 2c ON 4 L 64 ON c L f ON 2 L f ON 1 L f
   ON 1 L 25 ON a L b EN 5 ON 1f L 1 ON 3a L 6 ON 3d L 1 ON b2 L 6 ON 9a L 3d8 ON 4 L 11 ON 3 L
   d ON 3 L 77 ON 4 L 5f ON 6 L c ON 4 L 1 ON f L c ON 4 L 38 ON 8 L a ON 6 L 28 ON 8 L 1e ON 2
   L 2 ON 4e L 154 ON c L e ON 2 L d ON 3 L 9 ON 7 L 2e ON 1 L 7 ON 8 L e ON 4 L 9 ON 7 L 9 ON 7
   L 93 ON 1 L 37 ON 25 L a EN 404 L 2 BN fffe L 2 BN fffe L 2 BN fffe L 2 BN fffe L 2 BN fffe L
   2 BN fffe L 2 BN fffe L 2 BN fffe L 2 BN fffe L 2 BN fffe L 2 BN fffe L 2 BN fffe L 102 BN f0
   NSM e10 BN effe L 2 BN fffe L 2 BN fffe L 2 BN"

def directionTable : RunTable :=
  RunTable.ofPacked directionRuns

def direction (n : Nat) : String :=
  directionTable.labelAt n

def joiningRuns : String :=
  "ad U 1 T 252 U 70 T 113 U 7 T 107 U 2d T 1 U 1 T 1 U 2 T 1 U 2 T 1 U 1 T 48 U b T 1 U 1 T 3 U
   1 D 1 U 4 R 1 D 1 R 1 D 1 R 5 D 4 R d D 1 C 7 D 1 R 2 D 15 T e U 2 D 1 T 3 R 1 U 3 R 10 D 12
   R 26 D 1 R 2 D 9 R 1 D 1 R 1 D 1 R 2 D 2 R 1 U 1 R 7 T 2 U 6 T 2 U 2 T 1 U 4 T 2 R a U 3 D 2
   U 1 D f U 1 T 1 R 1 T 3 D 5 R 4 D 1 R 9 D 1 R 1 D 1 R 1 D 1 R 2 D 1 R 1b T 2 U 1 R b D 3 R f
   D 2 R 4 D 1 R 1 D 2 R 3 D 2 R 6 D 26 U b T 19 U 21 D 9 T 6 U 1 C 2 U 1 T 18 U 4 T 1 U 9 T 1 U
   3 T 1 U 5 T 12 U 1 R 5 D 2 R 1 D 1 R a D 1 R 1 D 3 R 3 T 4 U 1 D 1 U 4 D 1 U 1 R 1 D 2 R 5 U
   13 R 3 C 1 D 2 U 5 D 1 R 8 U 9 T a D 3 R 1 U 1 R 2 D 2 R 6 D 1 R f D 1 U 18 T 1 U 20 T 37 U 1
   T 1 U 1 T 4 U 8 T 4 U 1 T 3 U 7 T a U 2 T 1d U 1 T 3a U 1 T 4 U 4 T 8 U 1 T 14 U 2 T 1a U 1 T
   2 U 2 T 39 U 1 T 4 U 2 T 4 U 2 T 2 U 3 T 3 U 1 T 1e U 2 T 3 U 1 T b U 2 T 39 U 1 T 4 U 5 T 1
   U 2 T 4 U 1 T 14 U 2 T 16 U 6 T 1 U 1 T 3a U 1 T 2 U 1 T 1 U 4 T 8 U 1 T 7 U 2 T b U 2 T 1e U
   1 T 3d U 1 T c U 1 T 32 U 1 T 3 U 1 T 37 U 1 T 1 U 3 T 5 U 3 T 1 U 4 T 7 U 2 T b U 2 T 1d U 1
   T 3a U 1 T 2 U 1 T 6 U 1 T 5 U 2 T 14 U 2 T 1c U 2 T 39 U 2 T 4 U 4 T 8 U 1 T 14 U 2 T 1d U 1
   T 48 U 1 T 7 U 3 T 1 U 1 T 5a U 1 T 2 U 7 T c U 8 T 62 U 1 T 2 U 9 T b U 7 T 49 U 2 T 1b U 1
   T 1 U 1 T 1 U 1 T 37 U e T 1 U 5 T 1 U 2 T 5 U b T 1 U 24 T 9 U 1 T 66 U 4 T 1 U 6 T 1 U 2 T
   2 U 2 T 19 U 2 T 4 U 3 T 10 U 4 T d U 1 T 2 U 2 T 6 U 1 T f U 1 T 2bf U 3 T 3b2 U 3 T 1d U 2
   T 1e U 2 T 1e U 2 T 40 U 2 T 1 U 7 T 8 U 1 T 2 U b T 9 U 1 T 29 U 1 D 2 U 1 C 3 T 1 U 1 T 10
   U 59 D c U 2 T 22 D 1 T 1 D 75 U 3 T 4 U 2 T 9 U 1 T 6 U 3 T db U 2 T 2 U 1 T 3a U 1 T 1 U 7
   T 1 U 1 T 1 U 1 T 2 U 8 T 6 U a T 2 U 1 T 30 U 2e T 2 U c T 14 U 4 T 30 U 1 T 1 U 5 T 1 U 1 T
   5 U 1 T 28 U 9 T c U 2 T 20 U 4 T 2 U 2 T 1 U 3 T 38 U 1 T 1 U 2 T 3 U 1 T 1 U 3 T 3a U 8 T 2
   U 2 T 98 U 3 T 1 U d T 1 U 7 T 4 U 1 T 6 U 1 T 3 U 2 T c6 U 40 T 20b U 1 T 1 U 1 C 2 T 1a U 5
   T 31 U 5 T 5 U 6 T 60 U 21 T bfe U 3 T 8d U 1 T 60 U 20 T 22a U 4 T 6b U 2 T 75d4 U 4 T 1 U a
   T 20 U 2 T 50 U 2 T 110 U 1 T 3 U 1 T 4 U 1 T 19 U 2 T 5 U 1 T 13 U 32 D 1 L 51 U 2 T 1a U 12
   T d U 1 T 26 U 8 T 19 U b T 2e U 3 T 30 U 1 T 2 U 4 T 2 U 2 T 27 U 1 T 43 U 6 T 2 U 2 T 2 U 2
   T c U 1 T 8 U 1 T 2f U 1 T 33 U 1 T 1 U 3 T 2 U 2 T 5 U 2 T 1 U 1 T 2a U 2 T 8 U 1 T ee U 1 T
   2 U 1 T 4 U 1 T 4f30 U 1 T 2e1 U 10 T 10 U 10 T cf U 1 T f9 U 3 T 201 U 1 T e2 U 1 T 95 U 5 T
   686 U 3 T 1 U 2 T 5 U 4 T 28 U 3 T 4 U 1 T 80 U 5 D 1 R 1 U 1 R 1 U 2 R 2 U 1 L 5 R 4 D 1 L 5
   D 1 R 3 D 1 R 2 U 1 R 2 T 4 U 4 D 1 R 90 U 1 D 1 R 1 D 3 R 3 D 1 R 2 D 1 R 1 D 2 R 1 D 1 R 17
   U 4 R 2 D 151 U 1 L 21 D 1 R 1 D 4 T 41 U 5 T 13d U 2 T 4d U 6 T 30 U 3 D 1 R 11 D 1 U b T 3
   D 1 R 1b U 4 D 2 R c D 4 T 2a U 1 D 1 U 2 D 3 R 1 U 1 D 2 R 2 D 1 R 2 D 1 U 1 D 2 R 1 D 4 U 1
   R 1 D 1 L 35 U 1 T 36 U f T 29 U 1 T 2 U 2 T a U 3 T 31 U 4 T 2 U 2 T 7 U 1 T 3d U 3 T 24 U 5
   T 1 U 8 T 3e U 1 T c U 2 T 34 U 9 T a U 4 T 2 U 1 T 5f U 3 T 2 U 1 T 1 U 2 T 6 U 1 T 2 U 1 T
   9d U 1 T 3 U 8 T 15 U 2 T 39 U 2 T 3 U 1 T 25 U 7 T 3 U 5 T 46 U 6 T d U 1 T 1 U 1 T 1 U 1 T
   e U 2 T 55 U 8 T 2 U 3 T 1 U 1 T 17 U 1 T 54 U 6 T 1 U 1 T 4 U 2 T 1 U 2 T ee U 4 T 6 U 2 T 1
   U 2 T 1b U 2 T 55 U 8 T 2 U 1 T 1 U 2 T 6a U 1 T 1 U 1 T 2 U 6 T 1 U 1 T 65 U 3 T 2 U 4 T 1 U
   5 T 103 U 9 T 1 U 2 T 100 U 2 T 1 U 1 T 4 U 1 T 90 U 4 T 2 U 2 T 4 U 1 T 20 U a T 28 U 6 T 2
   U 4 T 8 U 1 T 9 U 6 T 2 U 3 T 2e U d T 1 U 2 T c6 U 1 T 1 U 3 T 1 U 1 T c9 U 7 T 1 U 6 T 1 U
   1 T 52 U 16 T 2 U 7 T 1 U 2 T 1 U 2 T 7a U 6 T 3 U 1 T 1 U 2 T 1 U 7 T 1 U 1 T 48 U 2 T 3 U 1
   T 1 U 1 T 15b U 2 T b U 2 T 34 U 5 T 5 U 1 T 1 U 1 T 17 U 1 T 14d5 U 11 T 6 U f T 2cc8 U c T
   3 U 3 T 9c0 U 5 T 3b U 7 T 418 U 1 T 3f U 4 T 51 U 1 T 4cb8 U 2 T 1 U 4 T 125c U 2e T 2 U 17
   T 220 U 3 T 9 U 10 T 2 U 7 T 1e U 4 T 94 U 3 T 7bb U 37 T 4 U 32 T 8 U 1 T e U 1 T 16 U 5 T 1
   U f T 550 U 7 T 1 U 11 T 2 U 7 T 1 U 2 T 1 U 5 T 64 U 1 T a0 U 7 T 177 U 1 T 3d U 4 T 1fc U 4
   T fe U 2 T f3 U 1 T 2 U 1 T 7 U 2 T 5 U 1 T 1da U 7 T 29 U 44 D 8 T c16b5 U 1 T 1e U 60 T 80
   U f0 T 2fe10 U"

def joiningTable : RunTable :=
  RunTable.ofPacked joiningRuns

/-- The type of joining of a code point: `L`, `R` and `D` join to the one side, the other, or both;
`T` is passed over; `U` joins nothing. -/
def joining (n : Nat) : String :=
  joiningTable.labelAt n

end Blocklist.Unicode
