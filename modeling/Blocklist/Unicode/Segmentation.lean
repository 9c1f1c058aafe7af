import Blocklist.Unicode.Table
/-!
The classes of code points by which texts are cut into graphemes, words and sentences, and the names
that the classes go by. A dot stands for code points without a class.
-/

namespace Blocklist.Unicode

def graphemeBreakRuns : String :=
  "a Control 1 LF 2 Control 1 CR 12 Control 5f . 21 Control d . 1 Control 252 . 70 Extend 113 . 7
   Extend 107 . 2d Extend 1 . 1 Extend 1 . 2 Extend 1 . 2 Extend 1 . 1 Extend 38 . 6 Prepend a . b
   Extend 1 . 1 Control 2e . 15 Extend 10 . 1 Extend 65 . 7 Extend 1 Prepend 1 . 6 Extend 2 . 2
   Extend 1 . 4 Extend 21 . 1 Prepend 1 . 1 Extend 1e . 1b Extend 5b . b Extend 3a . 9 Extend 9 . 1
   Extend 18 . 4 Extend 1 . 9 Extend 1 . 3 Extend 1 . 5 Extend 2b . 3 Extend 34 . 2 Prepend 5 . 9
   Extend 2a . 18 Extend 1 Prepend 20 Extend 1 SpacingMark 36 . 1 Extend 1 SpacingMark 1 Extend 1 .
   3 SpacingMark 8 Extend 4 SpacingMark 1 Extend 2 SpacingMark 1 . 7 Extend a . 2 Extend 1d . 1
   Extend 2 SpacingMark 38 . 1 Extend 1 . 1 Extend 2 SpacingMark 4 Extend 2 . 2 SpacingMark 2 . 2
   SpacingMark 1 Extend 9 . 1 Extend a . 2 Extend 1a . 1 Extend 2 . 2 Extend 1 SpacingMark 38 . 1
   Extend 1 . 3 SpacingMark 2 Extend 4 . 2 Extend 2 . 3 Extend 3 . 1 Extend 1e . 2 Extend 3 . 1
   Extend b . 2 Extend 1 SpacingMark 38 . 1 Extend 1 . 3 SpacingMark 5 Extend 1 . 2 Extend 1
   SpacingMark 1 . 2 SpacingMark 1 Extend 14 . 2 Extend 16 . 6 Extend 1 . 1 Extend 2 SpacingMark 38
   . 1 Extend 1 . 2 Extend 1 SpacingMark 4 Extend 2 . 2 SpacingMark 2 . 2 SpacingMark 1 Extend 7 .
   3 Extend a . 2 Extend 1e . 1 Extend 3b . 1 Extend 1 SpacingMark 1 Extend 2 SpacingMark 3 . 3
   SpacingMark 1 . 3 SpacingMark 1 Extend 9 . 1 Extend 28 . 1 Extend 3 SpacingMark 1 Extend 37 . 1
   Extend 1 . 3 Extend 4 SpacingMark 1 . 3 Extend 1 . 4 Extend 7 . 2 Extend b . 2 Extend 1d . 1
   Extend 2 SpacingMark 38 . 1 Extend 1 . 1 SpacingMark 2 Extend 1 SpacingMark 1 Extend 2
   SpacingMark 1 . 3 Extend 1 . 4 Extend 7 . 2 Extend b . 2 Extend f . 1 SpacingMark c . 2 Extend 2
   SpacingMark 37 . 2 Extend 1 . 1 Extend 2 SpacingMark 4 Extend 1 . 3 SpacingMark 1 . 3
   SpacingMark 1 Extend 1 Prepend 8 . 1 Extend a . 2 Extend 1d . 1 Extend 2 SpacingMark 46 . 1
   Extend 4 . 1 Extend 2 SpacingMark 3 Extend 1 . 1 Extend 1 . 7 SpacingMark 1 Extend 12 . 2
   SpacingMark 3d . 1 Extend 1 . 1 SpacingMark 7 Extend c . 8 Extend 62 . 1 Extend 1 . 1
   SpacingMark 9 Extend b . 7 Extend 49 . 2 Extend 1b . 1 Extend 1 . 1 Extend 1 . 1 Extend 4 . 2
   SpacingMark 31 . e Extend 1 SpacingMark 5 Extend 1 . 2 Extend 5 . b Extend 1 . 24 Extend 9 . 1
   Extend 66 . 4 Extend 1 SpacingMark 6 Extend 1 . 2 Extend 2 SpacingMark 2 Extend 17 . 2
   SpacingMark 2 Extend 4 . 3 Extend 10 . 4 Extend d . 1 Extend 1 . 1 SpacingMark 2 Extend 6 . 1
   Extend f . 1 Extend 62 . 60 L 48 V 58 T 15d . 3 Extend 3b2 . 4 Extend 1c . 3 Extend 1d . 2
   Extend 1e . 2 Extend 40 . 2 Extend 1 SpacingMark 7 Extend 8 SpacingMark 1 Extend 2 SpacingMark b
   Extend 9 . 1 Extend 2d . 3 Extend 1 Control 1 Extend 75 . 2 Extend 22 . 1 Extend 76 . 3 Extend 4
   SpacingMark 2 Extend 3 SpacingMark 4 . 2 SpacingMark 1 Extend 6 SpacingMark 3 Extend db . 2
   Extend 2 SpacingMark 1 Extend 39 . 1 SpacingMark 1 Extend 1 SpacingMark 7 Extend 1 . 1 Extend 1
   . 1 Extend 2 . 8 Extend 6 SpacingMark a Extend 2 . 1 Extend 30 . 2e Extend 2 . c Extend 14 . 4
   Extend 1 SpacingMark 2f . a Extend 4 SpacingMark 3 Extend 26 . 9 Extend c . 2 Extend 1
   SpacingMark 1e . 1 SpacingMark 4 Extend 2 SpacingMark 6 Extend 38 . 1 Extend 1 SpacingMark 2
   Extend 3 SpacingMark 1 Extend 1 SpacingMark 5 Extend 30 . 8 SpacingMark 8 Extend 2 SpacingMark 2
   Extend 98 . 3 Extend 1 . d Extend 1 SpacingMark 7 Extend 4 . 1 Extend 6 . 1 Extend 2 . 1
   SpacingMark 2 Extend c6 . 40 Extend 20b . 1 Control 1 Extend 1 ZWJ 2 Control 18 . 7 Control 31 .
   10 Control 60 . 21 Extend bfe . 3 Extend 8d . 1 Extend 60 . 20 Extend 22a . 6 Extend 69 . 2
   Extend 75d4 . 4 Extend 1 . a Extend 20 . 2 Extend 50 . 2 Extend 110 . 1 Extend 3 . 1 Extend 4 .
   1 Extend 17 . 2 SpacingMark 2 Extend 1 SpacingMark 4 . 1 Extend 53 . 2 SpacingMark 32 . 10
   SpacingMark 2 Extend 1a . 12 Extend d . 1 Extend 26 . 8 Extend 19 . b Extend 1 SpacingMark 1
   Extend c . 1d L 3 . 3 Extend 1 SpacingMark 2f . 1 Extend 2 SpacingMark 4 Extend 2 SpacingMark 2
   Extend 2 SpacingMark 1 Extend 24 . 1 Extend 43 . 6 Extend 2 SpacingMark 2 Extend 2 SpacingMark 2
   Extend c . 1 Extend 8 . 1 Extend 1 SpacingMark 2e . 1 Extend 33 . 1 Extend 1 . 3 Extend 2 . 2
   Extend 5 . 2 Extend 1 . 1 Extend 29 . 1 SpacingMark 2 Extend 2 SpacingMark 5 . 1 SpacingMark 1
   Extend ec . 2 SpacingMark 1 Extend 2 SpacingMark 1 Extend 2 SpacingMark 1 . 1 SpacingMark 1
   Extend 12 . 1 LV 1b LVT 1 LV 1b LVT 1 LV 1b LVT 1 LV 1b LVT 1 LV 1b LVT 1 LV 1b LVT 1 LV 1b LVT
   1 LV 1b LVT 1 LV 1b LVT 1 LV 1b LVT 1 LV 1b LVT 1 LV 1b LVT 1 LV 1b LVT 1 LV 1b LVT 1 LV 1b LVT
   1 LV 1b LVT 1 LV 1b LVT 1 LV 1b LVT 1 LV 1b LVT 1 LV 1b LVT 1 LV 1b LVT 1 LV 1b LVT 1 LV 1b LVT
   1 LV 1b LVT 1 LV 1b LVT 1 LV 1b LVT 1 LV 1b LVT 1 LV 1b LVT 1 LV 1b LVT 1 LV 1b LVT 1 LV 1b LVT
   1 LV 1b LVT 1 LV 1b LVT 1 LV 1b LVT 1 LV 1b LVT 1 LV 1b LVT 1 LV 1b LVT 1 LV 1b LVT 1 LV 1b LVT
   1 LV 1b LVT 1 LV 1b LVT 1 LV 1b LVT 1 LV 1b LVT 1 LV 1b LVT 1 LV 1b LVT 1 LV 1b LVT 1 LV 1b LVT
   1 LV 1b LVT 1 LV 1b LVT 1 LV 1b LVT 1 LV 1b LVT 1 LV 1b LVT 1 LV 1b LVT 1 LV 1b LVT 1 LV 1b LVT
   1 LV 1b LVT 1 LV 1b LVT 1 LV 1b LVT 1 LV 1b LVT 1 LV 1b LVT 1 LV 1b LVT 1 LV 1b LVT 1 LV 1b LVT
   1 LV 1b LVT 1 LV 1b LVT 1 LV 1b LVT 1 LV 1b LVT 1 LV 1b LVT 1 LV 1b LVT 1 LV 1b LVT 1 LV 1b LVT
   1 LV 1b LVT 1 LV 1b LVT 1 LV 1b LVT 1 LV 1b LVT 1 LV 1b LVT 1 LV 1b LVT 1 LV 1b LVT 1 LV 1b LVT
   1 LV 1b LVT 1 LV 1b LVT 1 LV 1b LVT 1 LV 1b LVT 1 LV 1b LVT 1 LV 1b LVT 1 LV 1b LVT 1 LV 1b LVT
   1 LV 1b LVT 1 LV 1b LVT 1 LV 1b LVT 1 LV 1b LVT 1 LV 1b LVT 1 LV 1b LVT 1 LV 1b LVT 1 LV 1b LVT
   1 LV 1b LVT 1 LV 1b LVT 1 LV 1b LVT 1 LV 1b LVT 1 LV 1b LVT 1 LV 1b LVT 1 LV 1b LVT 1 LV 1b LVT
   1 LV 1b LVT 1 LV 1b LVT 1 LV 1b LVT 1 LV 1b LVT 1 LV 1b LVT 1 LV 1b LVT 1 LV 1b LVT 1 LV 1b LVT
   1 LV 1b LVT 1 LV 1b LVT 1 LV 1b LVT 1 LV 1b LVT 1 LV 1b LVT 1 LV 1b LVT 1 LV 1b LVT 1 LV 1b LVT
   1 LV 1b LVT 1 LV 1b LVT 1 LV 1b LVT 1 LV 1b LVT 1 LV 1b LVT 1 LV 1b LVT 1 LV 1b LVT 1 LV 1b LVT
   1 LV 1b LVT 1 LV 1b LVT 1 LV 1b LVT 1 LV 1b LVT 1 LV 1b LVT 1 LV 1b LVT 1 LV 1b LVT 1 LV 1b LVT
   1 LV 1b LVT 1 LV 1b LVT 1 LV 1b LVT 1 LV 1b LVT 1 LV 1b LVT 1 LV 1b LVT 1 LV 1b LVT 1 LV 1b LVT
   1 LV 1b LVT 1 LV 1b LVT 1 LV 1b LVT 1 LV 1b LVT 1 LV 1b LVT 1 LV 1b LVT 1 LV 1b LVT 1 LV 1b LVT
   1 LV 1b LVT 1 LV 1b LVT 1 LV 1b LVT 1 LV 1b LVT 1 LV 1b LVT 1 LV 1b LVT 1 LV 1b LVT 1 LV 1b LVT
   1 LV 1b LVT 1 LV 1b LVT 1 LV 1b LVT 1 LV 1b LVT 1 LV 1b LVT 1 LV 1b LVT 1 LV 1b LVT 1 LV 1b LVT
   1 LV 1b LVT 1 LV 1b LVT 1 LV 1b LVT 1 LV 1b LVT 1 LV 1b LVT 1 LV 1b LVT 1 LV 1b LVT 1 LV 1b LVT
   1 LV 1b LVT 1 LV 1b LVT 1 LV 1b LVT 1 LV 1b LVT 1 LV 1b LVT 1 LV 1b LVT 1 LV 1b LVT 1 LV 1b LVT
   1 LV 1b LVT 1 LV 1b LVT 1 LV 1b LVT 1 LV 1b LVT 1 LV 1b LVT 1 LV 1b LVT 1 LV 1b LVT 1 LV 1b LVT
   1 LV 1b LVT 1 LV 1b LVT 1 LV 1b LVT 1 LV 1b LVT 1 LV 1b LVT 1 LV 1b LVT 1 LV 1b LVT 1 LV 1b LVT
   1 LV 1b LVT 1 LV 1b LVT 1 LV 1b LVT 1 LV 1b LVT 1 LV 1b LVT 1 LV 1b LVT 1 LV 1b LVT 1 LV 1b LVT
   1 LV 1b LVT 1 LV 1b LVT 1 LV 1b LVT 1 LV 1b LVT 1 LV 1b LVT 1 LV 1b LVT 1 LV 1b LVT 1 LV 1b LVT
   1 LV 1b LVT 1 LV 1b LVT 1 LV 1b LVT 1 LV 1b LVT 1 LV 1b LVT 1 LV 1b LVT 1 LV 1b LVT 1 LV 1b LVT
   1 LV 1b LVT 1 LV 1b LVT 1 LV 1b LVT 1 LV 1b LVT 1 LV 1b LVT 1 LV 1b LVT 1 LV 1b LVT 1 LV 1b LVT
   1 LV 1b LVT 1 LV 1b LVT 1 LV 1b LVT 1 LV 1b LVT 1 LV 1b LVT 1 LV 1b LVT 1 LV 1b LVT 1 LV 1b LVT
   1 LV 1b LVT 1 LV 1b LVT 1 LV 1b LVT 1 LV 1b LVT 1 LV 1b LVT 1 LV 1b LVT 1 LV 1b LVT 1 LV 1b LVT
   1 LV 1b LVT 1 LV 1b LVT 1 LV 1b LVT 1 LV 1b LVT 1 LV 1b LVT 1 LV 1b LVT 1 LV 1b LVT 1 LV 1b LVT
   1 LV 1b LVT 1 LV 1b LVT 1 LV 1b LVT 1 LV 1b LVT 1 LV 1b LVT 1 LV 1b LVT 1 LV 1b LVT 1 LV 1b LVT
   1 LV 1b LVT 1 LV 1b LVT 1 LV 1b LVT 1 LV 1b LVT 1 LV 1b LVT 1 LV 1b LVT 1 LV 1b LVT 1 LV 1b LVT
   1 LV 1b LVT 1 LV 1b LVT 1 LV 1b LVT 1 LV 1b LVT 1 LV 1b LVT 1 LV 1b LVT 1 LV 1b LVT 1 LV 1b LVT
   1 LV 1b LVT 1 LV 1b LVT 1 LV 1b LVT 1 LV 1b LVT 1 LV 1b LVT 1 LV 1b LVT 1 LV 1b LVT 1 LV 1b LVT
   1 LV 1b LVT 1 LV 1b LVT 1 LV 1b LVT 1 LV 1b LVT 1 LV 1b LVT 1 LV 1b LVT 1 LV 1b LVT 1 LV 1b LVT
   1 LV 1b LVT 1 LV 1b LVT 1 LV 1b LVT 1 LV 1b LVT 1 LV 1b LVT 1 LV 1b LVT 1 LV 1b LVT 1 LV 1b LVT
   1 LV 1b LVT 1 LV 1b LVT 1 LV 1b LVT 1 LV 1b LVT 1 LV 1b LVT 1 LV 1b LVT 1 LV 1b LVT 1 LV 1b LVT
   1 LV 1b LVT 1 LV 1b LVT 1 LV 1b LVT 1 LV 1b LVT 1 LV 1b LVT 1 LV 1b LVT 1 LV 1b LVT 1 LV 1b LVT
   1 LV 1b LVT 1 LV 1b LVT 1 LV 1b LVT 1 LV 1b LVT 1 LV 1b LVT 1 LV 1b LVT 1 LV 1b LVT 1 LV 1b LVT
   1 LV 1b LVT 1 LV 1b LVT 1 LV 1b LVT 1 LV 1b LVT 1 LV 1b LVT 1 LV 1b LVT 1 LV 1b LVT 1 LV 1b LVT
   1 LV 1b LVT 1 LV 1b LVT 1 LV 1b LVT 1 LV 1b LVT 1 LV 1b LVT 1 LV 1b LVT 1 LV 1b LVT 1 LV 1b LVT
   1 LV 1b LVT 1 LV 1b LVT 1 LV 1b LVT 1 LV 1b LVT 1 LV 1b LVT 1 LV 1b LVT 1 LV 1b LVT 1 LV 1b LVT
   1 LV 1b LVT 1 LV 1b LVT 1 LV 1b LVT 1 LV 1b LVT 1 LV 1b LVT 1 LV 1b LVT 1 LV 1b LVT 1 LV 1b LVT
   1 LV 1b LVT 1 LV 1b LVT 1 LV 1b LVT 1 LV 1b LVT 1 LV 1b LVT 1 LV 1b LVT 1 LV 1b LVT 1 LV 1b LVT
   1 LV 1b LVT 1 LV 1b LVT 1 LV 1b LVT 1 LV 1b LVT 1 LV 1b LVT 1 LV 1b LVT 1 LV 1b LVT 1 LV 1b LVT
   1 LV 1b LVT 1 LV 1b LVT 1 LV 1b LVT 1 LV 1b LVT 1 LV 1b LVT 1 LV 1b LVT 1 LV 1b LVT 1 LV 1b LVT
   1 LV 1b LVT 1 LV 1b LVT 1 LV 1b LVT 1 LV 1b LVT 1 LV 1b LVT 1 LV 1b LVT 1 LV 1b LVT 1 LV 1b LVT
   1 LV 1b LVT 1 LV 1b LVT 1 LV 1b LVT 1 LV 1b LVT 1 LV 1b LVT 1 LV 1b LVT 1 LV 1b LVT 1 LV 1b LVT
   c . 17 V 4 . 31 T 2322 . 1 Extend 2e1 . 10 Extend 10 . 10 Extend cf . 1 Control 9e . 2 Extend 50
   . c Control 201 . 1 Extend e2 . 1 Extend 95 . 5 Extend 686 . 3 Extend 1 . 2 Extend 5 . 4 Extend
   28 . 3 Extend 4 . 1 Extend a5 . 2 Extend 23d . 4 Extend 41 . 5 Extend 13d . 2 Extend 4d . 6
   Extend 46 . b Extend 31 . 4 Extend 7a . 1 SpacingMark 1 Extend 1 SpacingMark 35 . f Extend 29 .
   1 Extend 2 . 2 Extend a . 3 Extend 1 SpacingMark 2d . 3 SpacingMark 4 Extend 2 SpacingMark 2
   Extend 2 . 1 Prepend 4 . 1 Extend a . 1 Prepend 32 . 3 Extend 24 . 5 Extend 1 SpacingMark 8
   Extend 10 . 2 SpacingMark 2c . 1 Extend c . 2 Extend 1 SpacingMark 30 . 3 SpacingMark 9 Extend 1
   SpacingMark 1 Extend 1 . 2 Prepend 5 . 4 Extend 1 . 1 SpacingMark 1 Extend 5c . 3 SpacingMark 3
   Extend 2 SpacingMark 4 Extend 6 . 1 Extend 2 . 1 Extend 9d . 1 Extend 3 SpacingMark 8 Extend 15
   . 2 Extend 2 SpacingMark 37 . 2 Extend 1 . 1 Extend 1 SpacingMark 1 Extend 4 SpacingMark 2 . 2
   SpacingMark 2 . 2 SpacingMark 1 Extend 9 . 1 Extend a . 2 SpacingMark 2 . 7 Extend 3 . 5 Extend
   43 . 1 Extend 2 SpacingMark 6 Extend 1 . 1 Extend 2 . 1 Extend 1 . 3 Extend 1 SpacingMark 1 . 2
   SpacingMark 3 Extend 1 Prepend 1 Extend e . 2 Extend 52 . 3 SpacingMark 8 Extend 2 SpacingMark 3
   Extend 1 SpacingMark 1 Extend 17 . 1 Extend 51 . 1 Extend 2 SpacingMark 6 Extend 1 SpacingMark 1
   Extend 2 SpacingMark 1 Extend 1 SpacingMark 2 Extend 1 SpacingMark 2 Extend eb . 1 Extend 2
   SpacingMark 4 Extend 2 . 4 SpacingMark 2 Extend 1 SpacingMark 2 Extend 1b . 2 Extend 52 . 3
   SpacingMark 8 Extend 2 SpacingMark 1 Extend 1 SpacingMark 2 Extend 6a . 1 Extend 1 SpacingMark 1
   Extend 2 SpacingMark 8 Extend 65 . 1 Extend 1 SpacingMark 1 Extend 2 . 4 Extend 1 SpacingMark 5
   Extend 100 . 3 SpacingMark 9 Extend 1 SpacingMark 2 Extend f5 . 1 Extend 5 SpacingMark 1 . 2
   SpacingMark 2 . 4 Extend 1 Prepend 1 SpacingMark 1 Prepend 1 SpacingMark 1 Extend 8d . 3
   SpacingMark 4 Extend 2 . 2 Extend 4 SpacingMark 1 Extend 3 . 1 SpacingMark 1c . a Extend 28 . 6
   Extend 1 SpacingMark 1 . 4 Extend 8 . 1 Extend 9 . 6 Extend 2 SpacingMark 3 Extend 28 . 6
   Prepend d Extend 1 SpacingMark 2 Extend c6 . 1 Extend 1 SpacingMark 3 Extend 1 SpacingMark 1
   Extend 1 SpacingMark c7 . 1 SpacingMark 7 Extend 1 . 6 Extend 1 SpacingMark 1 Extend 52 . 16
   Extend 1 . 1 SpacingMark 7 Extend 1 SpacingMark 2 Extend 1 SpacingMark 2 Extend 7a . 6 Extend 3
   . 1 Extend 1 . 2 Extend 1 . 7 Extend 1 Prepend 1 Extend 42 . 5 SpacingMark 1 . 2 Extend 1 . 2
   SpacingMark 1 Extend 1 SpacingMark 1 Extend 15b . 2 Extend 2 SpacingMark 9 . 2 Extend 1 Prepend
   1 SpacingMark 30 . 2 SpacingMark 5 Extend 3 . 2 SpacingMark 3 Extend 17 . 1 Extend 14d5 . 10
   Control 1 Extend 6 . f Extend 2cc8 . c Extend 3 SpacingMark 3 Extend 9c0 . 5 Extend 3b . 7
   Extend 22c . 1 V 3 . 4 V 1e4 . 1 Extend 1 . 37 SpacingMark 7 . 4 Extend 51 . 1 Extend b . 2
   Extend 4cab . 2 Extend 1 . 4 Control 125c . 2e Extend 2 . 17 Extend 21e . 5 Extend 3 . 6 Extend
   8 Control 8 Extend 2 . 7 Extend 1e . 4 Extend 94 . 3 Extend 7bb . 37 Extend 4 . 32 Extend 8 . 1
   Extend e . 1 Extend 16 . 5 Extend 1 . f Extend 550 . 7 Extend 1 . 11 Extend 2 . 7 Extend 1 . 2
   Extend 1 . 5 Extend 64 . 1 Extend a0 . 7 Extend 177 . 1 Extend 3d . 4 Extend 1fc . 4 Extend fe .
   2 Extend f3 . 1 Extend 2 . 1 Extend 7 . 2 Extend 5 . 1 Extend 1da . 7 Extend 6d . 7 Extend 89b .
   1a Regional_Indicator 1fb . 5 Extend c0c00 . 20 Control 60 Extend 80 Control f0 Extend e10
   Control 2f000 ."

def wordBreakRuns : String :=
  "a . 1 LF 2 Newline 1 CR 12 . 1 WSegSpace 1 . 1 Double_Quote 4 . 1 Single_Quote 4 . 1 MidNum 1 .
   1 MidNumLet 1 . a Numeric 1 MidLetter 1 MidNum 5 . 1a ALetter 4 . 1 ExtendNumLet 1 . 1a ALetter
   a . 1 Newline 24 . 1 ALetter 2 . 1 Format 7 . 1 ALetter 1 . 1 MidLetter 1 ALetter 1 . 1 ALetter
   5 . 17 ALetter 1 . 1f ALetter 1 . 1e0 ALetter 6 . 22 ALetter 70 Extend 5 ALetter 1 . 2 ALetter 2
   . 4 ALetter 1 MidNum 1 ALetter 6 . 1 ALetter 1 MidLetter 3 ALetter 1 . 1 ALetter 1 . 14 ALetter
   1 . 53 ALetter 1 . 8b ALetter 1 . 7 Extend a6 ALetter 1 . 26 ALetter 2 . 4 ALetter 1 . 1 ALetter
   1 MidLetter 29 ALetter 1 MidNum 1 ALetter 6 . 2d Extend 1 . 1 Extend 1 . 2 Extend 1 . 2 Extend 1
   . 1 Extend 8 . 1b Hebrew_Letter 4 . 4 Hebrew_Letter 1 ALetter 1 MidLetter b . 6 Numeric 6 . 2
   MidNum 2 . b Extend 1 . 1 Format 3 . 2b ALetter 15 Extend a Numeric 1 . 1 Numeric 1 MidNum 1 . 2
   ALetter 1 Extend 63 ALetter 1 . 1 ALetter 7 Extend 1 Numeric 1 . 6 Extend 2 ALetter 2 Extend 1 .
   4 Extend 2 ALetter a Numeric 3 ALetter 2 . 1 ALetter f . 2 ALetter 1 Extend 1e ALetter 1b Extend
   2 . 59 ALetter b Extend 1 ALetter e . a Numeric 21 ALetter 9 Extend 2 ALetter 2 . 1 MidNum 1 . 1
   ALetter 2 . 1 Extend 2 . 16 ALetter 4 Extend 1 ALetter 9 Extend 1 ALetter 3 Extend 1 ALetter 5
   Extend 12 . 19 ALetter 3 Extend 4 . b ALetter 5 . 18 ALetter 1 . 7 ALetter 2 Numeric 5 . 9
   Extend 2a ALetter 18 Extend 1 Numeric 21 Extend 36 ALetter 3 Extend 1 ALetter 12 Extend 1
   ALetter 7 Extend a ALetter 2 Extend 2 . a Numeric 1 . 10 ALetter 3 Extend 1 . 8 ALetter 2 . 2
   ALetter 2 . 16 ALetter 1 . 7 ALetter 1 . 1 ALetter 3 . 4 ALetter 2 . 1 Extend 1 ALetter 7 Extend
   2 . 2 Extend 2 . 3 Extend 1 ALetter 8 . 1 Extend 4 . 2 ALetter 1 . 3 ALetter 2 Extend 2 . a
   Numeric 2 ALetter a . 1 ALetter 1 . 1 Extend 2 . 3 Extend 1 . 6 ALetter 4 . 2 ALetter 2 . 16
   ALetter 1 . 7 ALetter 1 . 2 ALetter 1 . 2 ALetter 1 . 2 ALetter 2 . 1 Extend 1 . 5 Extend 4 . 2
   Extend 2 . 3 Extend 3 . 1 Extend 7 . 4 ALetter 1 . 1 ALetter 7 . a Numeric 2 Extend 3 ALetter 1
   Extend b . 3 Extend 1 . 9 ALetter 1 . 3 ALetter 1 . 16 ALetter 1 . 7 ALetter 1 . 2 ALetter 1 . 5
   ALetter 2 . 1 Extend 1 ALetter 8 Extend 1 . 3 Extend 1 . 3 Extend 2 . 1 ALetter f . 2 ALetter 2
   Extend 2 . a Numeric 9 . 1 ALetter 6 Extend 1 . 3 Extend 1 . 8 ALetter 2 . 2 ALetter 2 . 16
   ALetter 1 . 7 ALetter 1 . 2 ALetter 1 . 5 ALetter 2 . 1 Extend 1 ALetter 7 Extend 2 . 2 Extend 2
   . 3 Extend 7 . 3 Extend 4 . 2 ALetter 1 . 3 ALetter 2 Extend 2 . a Numeric 1 . 1 ALetter 10 . 1
   Extend 1 ALetter 1 . 6 ALetter 3 . 3 ALetter 1 . 4 ALetter 3 . 2 ALetter 1 . 1 ALetter 1 . 2
   ALetter 3 . 2 ALetter 3 . 3 ALetter 3 . c ALetter 4 . 5 Extend 3 . 3 Extend 1 . 4 Extend 2 . 1
   ALetter 6 . 1 Extend e . a Numeric 10 . 5 Extend 8 ALetter 1 . 3 ALetter 1 . 17 ALetter 1 . 10
   ALetter 2 . 1 Extend 1 ALetter 7 Extend 1 . 3 Extend 1 . 4 Extend 7 . 2 Extend 1 . 3 ALetter 1 .
   2 ALetter 2 . 2 ALetter 2 Extend 2 . a Numeric 10 . 1 ALetter 3 Extend 1 . 8 ALetter 1 . 3
   ALetter 1 . 17 ALetter 1 . a ALetter 1 . 5 ALetter 2 . 1 Extend 1 ALetter 7 Extend 1 . 3 Extend
   1 . 4 Extend 7 . 2 Extend 5 . 3 ALetter 1 . 2 ALetter 2 Extend 2 . a Numeric 1 . 2 ALetter 1
   Extend c . 4 Extend 9 ALetter 1 . 3 ALetter 1 . 29 ALetter 2 Extend 1 ALetter 7 Extend 1 . 3
   Extend 1 . 4 Extend 1 ALetter 5 . 3 ALetter 1 Extend 7 . 3 ALetter 2 Extend 2 . a Numeric a . 6
   ALetter 1 . 3 Extend 1 . 12 ALetter 3 . 18 ALetter 1 . 9 ALetter 1 . 1 ALetter 2 . 7 ALetter 3 .
   1 Extend 4 . 6 Extend 1 . 1 Extend 1 . 8 Extend 6 . a Numeric 2 . 2 Extend 3d . 1 Extend 2 . 7
   Extend c . 8 Extend 1 . a Numeric 57 . 1 Extend 2 . 9 Extend b . 7 Extend 1 . a Numeric 26 . 1
   ALetter 17 . 2 Extend 6 . a Numeric b . 1 Extend 1 . 1 Extend 1 . 1 Extend 4 . 2 Extend 8
   ALetter 1 . 24 ALetter 4 . 14 Extend 1 . 2 Extend 5 ALetter b Extend 1 . 24 Extend 9 . 1 Extend
   64 . 14 Extend 1 . a Numeric c . 4 Extend 4 . 3 Extend 1 . 3 Extend 2 . 7 Extend 3 . 4 Extend d
   . c Extend 1 . 1 Extend a Numeric 4 Extend 2 . 26 ALetter 1 . 1 ALetter 5 . 1 ALetter 2 . 2b
   ALetter 1 . 14d ALetter 1 . 4 ALetter 2 . 7 ALetter 1 . 1 ALetter 1 . 4 ALetter 2 . 29 ALetter 1
   . 4 ALetter 2 . 21 ALetter 1 . 4 ALetter 2 . 7 ALetter 1 . 1 ALetter 1 . 4 ALetter 2 . f ALetter
   1 . 39 ALetter 1 . 4 ALetter 2 . 43 ALetter 2 . 3 Extend 20 . 10 ALetter 10 . 56 ALetter 2 . 6
   ALetter 3 . 26c ALetter 2 . 11 ALetter 1 WSegSpace 1a ALetter 5 . 4b ALetter 3 . b ALetter 7 .
   12 ALetter 4 Extend 9 . 13 ALetter 3 Extend b . 12 ALetter 2 Extend c . d ALetter 1 . 3 ALetter
   1 . 2 Extend 40 . 20 Extend 9 . 1 Extend 2 . a Numeric 21 . 3 Extend 1 Format 1 Extend a Numeric
   6 . 59 ALetter 7 . 5 ALetter 2 Extend 22 ALetter 1 Extend 1 ALetter 5 . 46 ALetter a . 1f
   ALetter 1 . c Extend 4 . c Extend a . a Numeric 80 . b Numeric 25 . 17 ALetter 5 Extend 39 . a
   Extend 1 . 1d Extend 2 . 1 Extend a Numeric 6 . a Numeric 16 . 2e Extend 2 . c Extend 14 . 5
   Extend 2f ALetter 11 Extend 8 ALetter 3 . a Numeric 11 . 9 Extend c . 3 Extend 1e ALetter d
   Extend 2 ALetter a Numeric 2c ALetter e Extend c . 24 ALetter 14 Extend 8 . a Numeric 3 . 3
   ALetter a Numeric 24 ALetter 2 . b ALetter 5 . 2b ALetter 2 . 3 ALetter 10 . 3 Extend 1 . 15
   Extend 4 ALetter 1 Extend 6 ALetter 1 Extend 2 ALetter 3 Extend 1 ALetter 5 . c0 ALetter 40
   Extend 116 ALetter 2 . 6 ALetter 2 . 26 ALetter 2 . 6 ALetter 2 . 8 ALetter 1 . 1 ALetter 1 . 1
   ALetter 1 . 1 ALetter 1 . 1f ALetter 2 . 35 ALetter 1 . 7 ALetter 1 . 1 ALetter 3 . 3 ALetter 1
   . 7 ALetter 3 . 4 ALetter 2 . 6 ALetter 4 . d ALetter 5 . 3 ALetter 1 . 7 ALetter 3 . 7
   WSegSpace 1 . 3 WSegSpace 1 . 1 Extend 1 ZWJ 2 Format 8 . 2 MidNumLet a . 1 MidNumLet 2 . 1
   MidLetter 2 Newline 5 Format 1 ExtendNumLet f . 2 ExtendNumLet 3 . 1 MidNum f . 1 ExtendNumLet a
   . 1 WSegSpace 5 Format 1 . a Format 1 . 1 ALetter d . 1 ALetter 10 . d ALetter 33 . 21 Extend 11
   . 1 ALetter 4 . 1 ALetter 2 . a ALetter 1 . 1 ALetter 3 . 5 ALetter 6 . 1 ALetter 1 . 1 ALetter
   1 . 1 ALetter 1 . 4 ALetter 1 . b ALetter 2 . 4 ALetter 5 . 5 ALetter 4 . 1 ALetter 11 . 29
   ALetter 32d . 34 ALetter 716 . e5 ALetter 6 . 4 ALetter 3 Extend 2 ALetter c . 26 ALetter 1 . 1
   ALetter 5 . 1 ALetter 2 . 38 ALetter 7 . 1 ALetter f . 1 Extend 17 ALetter 9 . 7 ALetter 1 . 7
   ALetter 1 . 7 ALetter 1 . 7 ALetter 1 . 7 ALetter 1 . 7 ALetter 1 . 7 ALetter 1 . 7 ALetter 1 .
   20 Extend 2f . 1 ALetter 1d0 . 1 WSegSpace 4 . 1 ALetter 24 . 6 Extend 1 . 5 Katakana 5 . 2
   ALetter 5c . 2 Extend 2 Katakana 3 . 5b Katakana 1 . 4 Katakana 5 . 2b ALetter 1 . 5e ALetter 11
   . 20 ALetter 30 . 10 Katakana d0 . 2f Katakana 1 . 58 Katakana 6ca8 . 48d ALetter 43 . 2e
   ALetter 2 . 10d ALetter 3 . 10 ALetter a Numeric 2 ALetter 14 . 2f ALetter 4 Extend 1 . a Extend
   1 . 1f ALetter 2 Extend 50 ALetter 2 Extend 16 . d5 ALetter 14 . 11 ALetter 1 Extend 3 ALetter 1
   Extend 4 ALetter 1 Extend 17 ALetter 5 Extend 4 . 1 Extend 13 . 34 ALetter c . 2 Extend 32
   ALetter 12 Extend a . a Numeric 6 . 12 Extend 6 ALetter 3 . 1 ALetter 1 . 2 ALetter 1 Extend a
   Numeric 1c ALetter 8 Extend 2 . 17 ALetter d Extend c . 1d ALetter 3 . 4 Extend 2f ALetter e
   Extend e . 1 ALetter a Numeric b . 1 Extend a . a Numeric 6 . 29 ALetter e Extend 9 . 3 ALetter
   1 Extend 8 ALetter 2 Extend 2 . a Numeric 21 . 3 Extend 32 . 1 Extend 1 . 3 Extend 2 . 2 Extend
   5 . 2 Extend 1 . 1 Extend 1e . b ALetter 5 Extend 2 . 3 ALetter 2 Extend a . 6 ALetter 2 . 6
   ALetter 2 . 6 ALetter 9 . 7 ALetter 1 . 7 ALetter 1 . 3a ALetter 6 . 73 ALetter 8 Extend 1 . 2
   Extend 2 . a Numeric 6 . 2ba4 ALetter c . 17 ALetter 4 . 31 ALetter 2304 . 7 ALetter c . 5
   ALetter 5 . 1 Hebrew_Letter 1 Extend a Hebrew_Letter 1 . d Hebrew_Letter 1 . 5 Hebrew_Letter 1 .
   1 Hebrew_Letter 1 . 2 Hebrew_Letter 1 . 2 Hebrew_Letter 1 . a Hebrew_Letter 62 ALetter 21 . 16b
   ALetter 12 . 40 ALetter 2 . 36 ALetter 28 . c ALetter 4 . 10 Extend 3 . 1 MidLetter c . 10
   Extend 3 . 2 ExtendNumLet 18 . 3 ExtendNumLet 1 MidNum 1 . 1 MidNumLet 1 . 1 MidNum 1 MidLetter
   1a . 5 ALetter 1 . 87 ALetter 2 . 1 Format 7 . 1 MidNumLet 4 . 1 MidNum 1 . 1 MidNumLet 1 . a
   Numeric 1 MidLetter 1 MidNum 5 . 1a ALetter 4 . 1 ExtendNumLet 1 . 1a ALetter b . 38 Katakana 2
   Extend 1f ALetter 3 . 6 ALetter 2 . 6 ALetter 2 . 6 ALetter 2 . 3 ALetter 1c . 3 Format 4 . c
   ALetter 1 . 1a ALetter 1 . 13 ALetter 1 . 2 ALetter 1 . f ALetter 2 . e ALetter 22 . 7b ALetter
   45 . 35 ALetter 88 . 1 Extend 82 . 1d ALetter 3 . 31 ALetter f . 1 Extend 1f . 20 ALetter d . 1e
   ALetter 5 . 26 ALetter 5 Extend 5 . 1e ALetter 2 . 24 ALetter 4 . 8 ALetter 1 . 5 ALetter 2a .
   9e ALetter 2 . a Numeric 6 . 24 ALetter 4 . 24 ALetter 4 . 28 ALetter 8 . 34 ALetter c . b
   ALetter 1 . f ALetter 1 . 7 ALetter 1 . 2 ALetter 1 . b ALetter 1 . f ALetter 1 . 7 ALetter 1 .
   2 ALetter 3 . 34 ALetter c . 137 ALetter 9 . 16 ALetter a . 8 ALetter 18 . 6 ALetter 1 . 2a
   ALetter 1 . 9 ALetter 45 . 6 ALetter 2 . 1 ALetter 1 . 2c ALetter 1 . 2 ALetter 3 . 1 ALetter 2
   . 17 ALetter a . 17 ALetter 9 . 1f ALetter 41 . 13 ALetter 1 . 2 ALetter a . 16 ALetter a . 1a
   ALetter 6 . 1a ALetter 26 . 38 ALetter 6 . 2 ALetter 40 . 1 ALetter 3 Extend 1 . 2 Extend 5 . 4
   Extend 4 ALetter 1 . 3 ALetter 1 . 1d ALetter 2 . 3 Extend 4 . 1 Extend 20 . 1d ALetter 3 . 1d
   ALetter 23 . 8 ALetter 1 . 1c ALetter 2 Extend 19 . 36 ALetter a . 16 ALetter a . 13 ALetter d .
   12 ALetter 6e . 49 ALetter 37 . 33 ALetter d . 33 ALetter d . 24 ALetter 4 Extend 8 . a Numeric
   6 . a Numeric 1c ALetter 3 . 5 Extend 1 . 17 ALetter fa . 2a ALetter 1 . 2 Extend 3 . 2 ALetter
   10 . 6 ALetter 32 . 6 Extend 1d ALetter a . 1 ALetter 8 . 16 ALetter b Extend 1f . 12 ALetter 4
   Extend 2a . 15 ALetter 1b . 17 ALetter 9 . 3 Extend 35 ALetter f Extend 1f . a Numeric 1 Extend
   2 ALetter 2 Extend 1 ALetter 9 . 4 Extend 2d ALetter b Extend 2 . 1 Numeric 4 . 1 Extend a . 1
   Numeric 2 . 19 ALetter 7 . a Numeric 6 . 3 Extend 24 ALetter e Extend 1 . a Numeric 4 . 1
   ALetter 2 Extend 1 ALetter 8 . 23 ALetter 1 Extend 2 . 1 ALetter 9 . 3 Extend 30 ALetter e
   Extend 4 ALetter 4 . 4 Extend 1 . 2 Extend a Numeric 1 ALetter 1 . 1 ALetter 23 . 12 ALetter 1 .
   19 ALetter c Extend 6 . 1 Extend 2 ALetter 1 Extend 3e . 7 ALetter 1 . 1 ALetter 1 . 4 ALetter 1
   . f ALetter 1 . a ALetter 7 . 2f ALetter c Extend 5 . a Numeric 6 . 4 Extend 1 . 8 ALetter 2 . 2
   ALetter 2 . 16 ALetter 1 . 7 ALetter 1 . 2 ALetter 1 . 5 ALetter 1 . 2 Extend 1 ALetter 7 Extend
   2 . 2 Extend 2 . 3 Extend 2 . 1 ALetter 6 . 1 Extend 5 . 5 ALetter 2 Extend 2 . 7 Extend 3 . 5
   Extend b . a ALetter 1 . 1 ALetter 2 . 1 ALetter 1 . 26 ALetter 1 . 1 ALetter 9 Extend 1 . 1
   Extend 2 . 1 Extend 1 . 4 Extend 1 . 5 Extend 1 ALetter 1 Extend 1 ALetter d . 2 Extend 1d . 35
   ALetter 12 Extend 4 ALetter 5 . a Numeric 4 . 1 Extend 3 ALetter 1e . 30 ALetter 14 Extend 2
   ALetter 1 . 1 ALetter 8 . a Numeric a6 . 2f ALetter 7 Extend 2 . 9 Extend 17 . 4 ALetter 2
   Extend 22 . 30 ALetter 11 Extend 3 . 1 ALetter b . a Numeric 26 . 2b ALetter d Extend 1 ALetter
   7 . a Numeric 6 . 14 Numeric 39 . f Extend 4 . a Numeric c6 . 2c ALetter f Extend 65 . 40
   ALetter a Numeric 15 . 8 ALetter 2 . 1 ALetter 2 . 8 ALetter 1 . 2 ALetter 1 . 18 ALetter 6
   Extend 1 . 2 Extend 2 . 4 Extend 1 ALetter 1 Extend 1 ALetter 2 Extend c . a Numeric 46 . 8
   ALetter 2 . 27 ALetter 7 Extend 2 . 7 Extend 1 ALetter 1 . 1 ALetter 1 Extend 1b . 1 ALetter a
   Extend 28 ALetter 7 Extend 1 ALetter 4 Extend 8 . 1 Extend 8 . 1 ALetter b Extend 2e ALetter 10
   Extend 3 . 1 ALetter 12 . 49 ALetter 67 . 8 Extend 58 . 21 ALetter f . a Numeric 6 . 9 ALetter 1
   . 25 ALetter 8 Extend 1 . 8 Extend 1 ALetter f . a Numeric 18 . 1e ALetter 2 . 16 Extend 1 . e
   Extend 49 . 7 ALetter 1 . 2 ALetter 1 . 26 ALetter 6 Extend 3 . 1 Extend 1 . 2 Extend 1 . 7
   Extend 1 ALetter 1 Extend 8 . a Numeric 6 . 6 ALetter 1 . 2 ALetter 1 . 20 ALetter 5 Extend 1 .
   2 Extend 1 . 5 Extend 1 ALetter 7 . a Numeric 6 . 2c ALetter 4 . a Numeric f6 . 13 ALetter 4
   Extend 9 . 2 Extend 1 ALetter 1 Extend d ALetter 1 . 22 ALetter 7 Extend 3 . 5 Extend d . a
   Numeric 1 Extend 55 . 1 ALetter 4f . 39a ALetter 66 . 6f ALetter 11 . c4 ALetter a4c . 61
   ALetter f . 430 ALetter 10 Format 1 Extend 6 ALetter f Extend a . f9b ALetter 5 . 247 ALetter
   1ab9 . 1e ALetter 12 Extend a Numeric 6c6 . 239 ALetter 7 . 1f ALetter 1 . a Numeric 6 . 4f
   ALetter 1 . a Numeric 6 . 1e ALetter 2 . 5 Extend b . 30 ALetter 7 Extend 9 . 4 ALetter c . a
   Numeric 9 . 15 ALetter 5 . 13 ALetter 1b0 . 2d ALetter 3 . a Numeric c6 . 40 ALetter 20 . 19
   ALetter 2 . 19 ALetter 2c . 4b ALetter 4 . 1 Extend 1 ALetter 37 Extend 7 . 4 Extend d ALetter
   40 . 2 ALetter 1 . 1 ALetter 1 Extend b . 2 Extend 3ffe . 4 Katakana 1 . 7 Katakana 1 . 2
   Katakana 1 . 1 Katakana 11f . 3 Katakana 32 . 1 Katakana e . 4 Katakana a98 . 6b ALetter 5 . d
   ALetter 3 . 9 ALetter 7 . a ALetter 3 . 2 Extend 1 . 4 Format 104c . a Numeric 206 . 2e Extend 2
   . 17 Extend 21e . 5 Extend 3 . 6 Extend 8 Format 8 Extend 2 . 7 Extend 1e . 4 Extend 94 . 3
   Extend 1bb . 55 ALetter 1 . 47 ALetter 1 . 2 ALetter 2 . 1 ALetter 2 . 2 ALetter 2 . 4 ALetter 1
   . c ALetter 1 . 1 ALetter 1 . 7 ALetter 1 . 41 ALetter 1 . 4 ALetter 2 . 8 ALetter 1 . 7 ALetter
   1 . 1c ALetter 1 . 4 ALetter 1 . 5 ALetter 1 . 1 ALetter 3 . 7 ALetter 1 . 154 ALetter 2 . 19
   ALetter 1 . 19 ALetter 1 . 1f ALetter 1 . 19 ALetter 1 . 1f ALetter 1 . 19 ALetter 1 . 1f
   ALetter 1 . 19 ALetter 1 . 1f ALetter 1 . 19 ALetter 1 . 8 ALetter 2 . 32 Numeric 200 . 37
   Extend 4 . 32 Extend 8 . 1 Extend e . 1 Extend 16 . 5 Extend 1 . f Extend 450 . 1f ALetter 6 . 6
   ALetter d5 . 7 Extend 1 . 11 Extend 2 . 7 Extend 1 . 2 Extend 1 . 5 Extend 5 . 3e ALetter 21 . 1
   Extend 70 . 2d ALetter 3 . 7 Extend 7 ALetter 2 . a Numeric 4 . 1 ALetter 141 . 1e ALetter 1
   Extend 11 . 2c ALetter 4 Extend a Numeric 1d6 . 1c ALetter 4 Extend a Numeric d6 . 1e ALetter 2
   Extend 1 ALetter a Numeric e8 . 1 Extend 2 . 1 Extend 7 . 2 Extend 5 . 1 Extend ea . 7 ALetter 1
   . 4 ALetter 1 . 2 ALetter 1 . f ALetter 1 . c5 ALetter b . 7 Extend 29 . 44 ALetter 7 Extend 1
   ALetter 4 . a Numeric 4a6 . 4 ALetter 1 . 1b ALetter 1 . 2 ALetter 1 . 1 ALetter 2 . 1 ALetter 1
   . a ALetter 1 . 4 ALetter 1 . 1 ALetter 1 . 1 ALetter 6 . 1 ALetter 4 . 1 ALetter 1 . 1 ALetter
   1 . 1 ALetter 1 . 3 ALetter 1 . 2 ALetter 1 . 1 ALetter 2 . 1 ALetter 1 . 1 ALetter 1 . 1
   ALetter 1 . 1 ALetter 1 . 1 ALetter 1 . 2 ALetter 1 . 1 ALetter 2 . 4 ALetter 1 . 7 ALetter 1 .
   4 ALetter 1 . 4 ALetter 1 . 1 ALetter 1 . a ALetter 1 . 11 ALetter 5 . 3 ALetter 1 . 5 ALetter 1
   . 11 ALetter 274 . 1a ALetter 6 . 1a ALetter 6 . 1a ALetter 5c . 1a Regional_Indicator 1fb . 5
   Extend 7f0 . a Numeric c0407 . 1 Format 1e . 60 Extend 80 . f0 Extend 2fe10 ."

def sentenceBreakRuns : String :=
  "9 . 1 Sp 1 LF 2 Sp 1 CR 12 . 1 Sp 1 STerm 1 Close 4 . 3 Close 2 . 2 SContinue 1 ATerm 1 . a
   Numeric 2 SContinue 3 . 1 STerm 1 . 1a Upper 1 Close 1 . 1 Close 3 . 1a Lower 1 Close 1 . 1
   Close 7 . 1 Sep 1a . 1 Sp 9 . 1 Lower 1 Close 1 . 1 Format 7 . 1 Lower 4 . 1 Lower 1 Close 4 .
   17 Upper 1 . 7 Upper 18 Lower 1 . 8 Lower 1 Upper 1 Lower 1 Upper 1 Lower 1 Upper 1 Lower 1
   Upper 1 Lower 1 Upper 1 Lower 1 Upper 1 Lower 1 Upper 1 Lower 1 Upper 1 Lower 1 Upper 1 Lower 1
   Upper 1 Lower 1 Upper 1 Lower 1 Upper 1 Lower 1 Upper 1 Lower 1 Upper 1 Lower 1 Upper 1 Lower 1
   Upper 1 Lower 1 Upper 1 Lower 1 Upper 1 Lower 1 Upper 1 Lower 1 Upper 1 Lower 1 Upper 1 Lower 1
   Upper 1 Lower 1 Upper 1 Lower 1 Upper 1 Lower 1 Upper 1 Lower 1 Upper 1 Lower 1 Upper 1 Lower 1
   Upper 2 Lower 1 Upper 1 Lower 1 Upper 1 Lower 1 Upper 1 Lower 1 Upper 1 Lower 1 Upper 1 Lower 1
   Upper 1 Lower 1 Upper 1 Lower 1 Upper 2 Lower 1 Upper 1 Lower 1 Upper 1 Lower 1 Upper 1 Lower 1
   Upper 1 Lower 1 Upper 1 Lower 1 Upper 1 Lower 1 Upper 1 Lower 1 Upper 1 Lower 1 Upper 1 Lower 1
   Upper 1 Lower 1 Upper 1 Lower 1 Upper 1 Lower 1 Upper 1 Lower 1 Upper 1 Lower 1 Upper 1 Lower 1
   Upper 1 Lower 1 Upper 1 Lower 1 Upper 1 Lower 1 Upper 1 Lower 1 Upper 1 Lower 1 Upper 1 Lower 1
   Upper 1 Lower 1 Upper 1 Lower 2 Upper 1 Lower 1 Upper 1 Lower 1 Upper 3 Lower 2 Upper 1 Lower 1
   Upper 1 Lower 2 Upper 1 Lower 3 Upper 2 Lower 4 Upper 1 Lower 2 Upper 1 Lower 3 Upper 3 Lower 2
   Upper 1 Lower 2 Upper 1 Lower 1 Upper 1 Lower 1 Upper 1 Lower 2 Upper 1 Lower 1 Upper 2 Lower 1
   Upper 1 Lower 2 Upper 1 Lower 3 Upper 1 Lower 1 Upper 1 Lower 2 Upper 2 Lower 1 OLetter 1 Upper
   3 Lower 4 OLetter 2 Upper 1 Lower 2 Upper 1 Lower 2 Upper 1 Lower 1 Upper 1 Lower 1 Upper 1
   Lower 1 Upper 1 Lower 1 Upper 1 Lower 1 Upper 1 Lower 1 Upper 1 Lower 1 Upper 1 Lower 1 Upper 2
   Lower 1 Upper 1 Lower 1 Upper 1 Lower 1 Upper 1 Lower 1 Upper 1 Lower 1 Upper 1 Lower 1 Upper 1
   Lower 1 Upper 1 Lower 1 Upper 1 Lower 1 Upper 2 Lower 2 Upper 1 Lower 1 Upper 1 Lower 3 Upper 1
   Lower 1 Upper 1 Lower 1 Upper 1 Lower 1 Upper 1 Lower 1 Upper 1 Lower 1 Upper 1 Lower 1 Upper 1
   Lower 1 Upper 1 Lower 1 Upper 1 Lower 1 Upper 1 Lower 1 Upper 1 Lower 1 Upper 1 Lower 1 Upper 1
   Lower 1 Upper 1 Lower 1 Upper 1 Lower 1 Upper 1 Lower 1 Upper 1 Lower 1 Upper 1 Lower 1 Upper 1
   Lower 1 Upper 1 Lower 1 Upper 1 Lower 1 Upper 1 Lower 1 Upper 1 Lower 1 Upper 1 Lower 1 Upper 1
   Lower 1 Upper 1 Lower 1 Upper 1 Lower 1 Upper 1 Lower 1 Upper 1 Lower 1 Upper 7 Lower 2 Upper 1
   Lower 2 Upper 2 Lower 1 Upper 1 Lower 4 Upper 1 Lower 1 Upper 1 Lower 1 Upper 1 Lower 1 Upper 1
   Lower 1 Upper 45 Lower 2 OLetter 23 Lower 7 OLetter 2 Lower 4 . c OLetter e . 5 Lower 7 . 1
   OLetter 1 . 1 OLetter 11 . 70 Extend 1 Upper 1 Lower 1 Upper 1 Lower 1 OLetter 1 . 1 Upper 1
   Lower 2 . 4 Lower 1 SContinue 1 Upper 6 . 1 Upper 1 . 3 Upper 1 . 1 Upper 1 . 2 Upper 1 Lower 11
   Upper 1 . 9 Upper 23 Lower 1 Upper 2 Lower 3 Upper 3 Lower 1 Upper 1 Lower 1 Upper 1 Lower 1
   Upper 1 Lower 1 Upper 1 Lower 1 Upper 1 Lower 1 Upper 1 Lower 1 Upper 1 Lower 1 Upper 1 Lower 1
   Upper 1 Lower 1 Upper 1 Lower 1 Upper 1 Lower 1 Upper 5 Lower 1 Upper 1 Lower 1 . 1 Upper 1
   Lower 2 Upper 2 Lower 33 Upper 30 Lower 1 Upper 1 Lower 1 Upper 1 Lower 1 Upper 1 Lower 1 Upper
   1 Lower 1 Upper 1 Lower 1 Upper 1 Lower 1 Upper 1 Lower 1 Upper 1 Lower 1 Upper 1 Lower 1 Upper
   1 Lower 1 Upper 1 Lower 1 Upper 1 Lower 1 Upper 1 Lower 1 Upper 1 Lower 1 Upper 1 Lower 1 Upper
   1 Lower 1 Upper 1 Lower 1 . 7 Extend 1 Upper 1 Lower 1 Upper 1 Lower 1 Upper 1 Lower 1 Upper 1
   Lower 1 Upper 1 Lower 1 Upper 1 Lower 1 Upper 1 Lower 1 Upper 1 Lower 1 Upper 1 Lower 1 Upper 1
   Lower 1 Upper 1 Lower 1 Upper 1 Lower 1 Upper 1 Lower 1 Upper 1 Lower 1 Upper 1 Lower 1 Upper 1
   Lower 1 Upper 1 Lower 1 Upper 1 Lower 1 Upper 1 Lower 1 Upper 1 Lower 1 Upper 1 Lower 1 Upper 1
   Lower 1 Upper 1 Lower 1 Upper 1 Lower 1 Upper 1 Lower 1 Upper 1 Lower 1 Upper 1 Lower 2 Upper 1
   Lower 1 Upper 1 Lower 1 Upper 1 Lower 1 Upper 1 Lower 1 Upper 1 Lower 1 Upper 1 Lower 1 Upper 2
   Lower 1 Upper 1 Lower 1 Upper 1 Lower 1 Upper 1 Lower 1 Upper 1 Lower 1 Upper 1 Lower 1 Upper 1
   Lower 1 Upper 1 Lower 1 Upper 1 Lower 1 Upper 1 Lower 1 Upper 1 Lower 1 Upper 1 Lower 1 Upper 1
   Lower 1 Upper 1 Lower 1 Upper 1 Lower 1 Upper 1 Lower 1 Upper 1 Lower 1 Upper 1 Lower 1 Upper 1
   Lower 1 Upper 1 Lower 1 Upper 1 Lower 1 Upper 1 Lower 1 Upper 1 Lower 1 Upper 1 Lower 1 Upper 1
   Lower 1 Upper 1 Lower 1 Upper 1 Lower 1 Upper 1 Lower 1 Upper 1 Lower 1 Upper 1 Lower 1 Upper 1
   Lower 1 Upper 1 Lower 1 Upper 1 Lower 1 Upper 1 Lower 1 Upper 1 Lower 1 Upper 1 Lower 1 Upper 1
   Lower 1 Upper 1 Lower 1 Upper 1 Lower 1 Upper 1 Lower 1 Upper 1 Lower 1 Upper 1 Lower 1 Upper 1
   Lower 1 Upper 1 Lower 1 Upper 1 Lower 1 Upper 1 Lower 1 Upper 1 Lower 1 Upper 1 Lower 1 Upper 1
   Lower 1 . 26 Upper 2 . 1 OLetter 3 . 1 SContinue 2 . 29 Lower 1 STerm 7 . 2d Extend 1 . 1 Extend
   1 . 2 Extend 1 . 2 Extend 1 . 1 Extend 8 . 1b OLetter 4 . 5 OLetter c . 6 Numeric 6 . 2
   SContinue 2 . b Extend 1 . 1 Format 3 STerm 2b OLetter 15 Extend a Numeric 1 . 2 Numeric 1 . 2
   OLetter 1 Extend 63 OLetter 1 STerm 1 OLetter 7 Extend 1 Numeric 1 . 6 Extend 2 OLetter 2 Extend
   1 . 4 Extend 2 OLetter a Numeric 3 OLetter 2 . 1 OLetter 3 STerm c . 1 Format 1 OLetter 1 Extend
   1e OLetter 1b Extend 2 . 59 OLetter b Extend 1 OLetter e . a Numeric 21 OLetter 9 Extend 2
   OLetter 2 . 1 SContinue 1 STerm 1 OLetter 2 . 1 Extend 2 . 16 OLetter 4 Extend 1 OLetter 9
   Extend 1 OLetter 3 Extend 1 OLetter 5 Extend 9 . 1 STerm 1 . 1 STerm 3 . 2 STerm 1 . 19 OLetter
   3 Extend 4 . b OLetter 5 . 18 OLetter 1 . 7 OLetter 2 Numeric 5 . 9 Extend 2a OLetter 18 Extend
   1 Numeric 21 Extend 36 OLetter 3 Extend 1 OLetter 12 Extend 1 OLetter 7 Extend a OLetter 2
   Extend 2 STerm a Numeric 1 . 10 OLetter 3 Extend 1 . 8 OLetter 2 . 2 OLetter 2 . 16 OLetter 1 .
   7 OLetter 1 . 1 OLetter 3 . 4 OLetter 2 . 1 Extend 1 OLetter 7 Extend 2 . 2 Extend 2 . 3 Extend
   1 OLetter 8 . 1 Extend 4 . 2 OLetter 1 . 3 OLetter 2 Extend 2 . a Numeric 2 OLetter a . 1
   OLetter 1 . 1 Extend 2 . 3 Extend 1 . 6 OLetter 4 . 2 OLetter 2 . 16 OLetter 1 . 7 OLetter 1 . 2
   OLetter 1 . 2 OLetter 1 . 2 OLetter 2 . 1 Extend 1 . 5 Extend 4 . 2 Extend 2 . 3 Extend 3 . 1
   Extend 7 . 4 OLetter 1 . 1 OLetter 7 . a Numeric 2 Extend 3 OLetter 1 Extend b . 3 Extend 1 . 9
   OLetter 1 . 3 OLetter 1 . 16 OLetter 1 . 7 OLetter 1 . 2 OLetter 1 . 5 OLetter 2 . 1 Extend 1
   OLetter 8 Extend 1 . 3 Extend 1 . 3 Extend 2 . 1 OLetter f . 2 OLetter 2 Extend 2 . a Numeric 9
   . 1 OLetter 6 Extend 1 . 3 Extend 1 . 8 OLetter 2 . 2 OLetter 2 . 16 OLetter 1 . 7 OLetter 1 . 2
   OLetter 1 . 5 OLetter 2 . 1 Extend 1 OLetter 7 Extend 2 . 2 Extend 2 . 3 Extend 7 . 3 Extend 4 .
   2 OLetter 1 . 3 OLetter 2 Extend 2 . a Numeric 1 . 1 OLetter 10 . 1 Extend 1 OLetter 1 . 6
   OLetter 3 . 3 OLetter 1 . 4 OLetter 3 . 2 OLetter 1 . 1 OLetter 1 . 2 OLetter 3 . 2 OLetter 3 .
   3 OLetter 3 . c OLetter 4 . 5 Extend 3 . 3 Extend 1 . 4 Extend 2 . 1 OLetter 6 . 1 Extend e . a
   Numeric 10 . 5 Extend 8 OLetter 1 . 3 OLetter 1 . 17 OLetter 1 . 10 OLetter 2 . 1 Extend 1
   OLetter 7 Extend 1 . 3 Extend 1 . 4 Extend 7 . 2 Extend 1 . 3 OLetter 1 . 2 OLetter 2 . 2
   OLetter 2 Extend 2 . a Numeric 10 . 1 OLetter 3 Extend 1 . 8 OLetter 1 . 3 OLetter 1 . 17
   OLetter 1 . a OLetter 1 . 5 OLetter 2 . 1 Extend 1 OLetter 7 Extend 1 . 3 Extend 1 . 4 Extend 7
   . 2 Extend 5 . 3 OLetter 1 . 2 OLetter 2 Extend 2 . a Numeric 1 . 2 OLetter 1 Extend c . 4
   Extend 9 OLetter 1 . 3 OLetter 1 . 29 OLetter 2 Extend 1 OLetter 7 Extend 1 . 3 Extend 1 . 4
   Extend 1 OLetter 5 . 3 OLetter 1 Extend 7 . 3 OLetter 2 Extend 2 . a Numeric a . 6 OLetter 1 . 3
   Extend 1 . 12 OLetter 3 . 18 OLetter 1 . 9 OLetter 1 . 1 OLetter 2 . 7 OLetter 3 . 1 Extend 4 .
   6 Extend 1 . 1 Extend 1 . 8 Extend 6 . a Numeric 2 . 2 Extend d . 30 OLetter 1 Extend 2 OLetter
   7 Extend 5 . 7 OLetter 8 Extend 1 . a Numeric 27 . 2 OLetter 1 . 1 OLetter 1 . 5 OLetter 1 . 18
   OLetter 1 . 1 OLetter 1 . a OLetter 1 Extend 2 OLetter 9 Extend 1 OLetter 2 . 5 OLetter 1 . 1
   OLetter 1 . 7 Extend 1 . a Numeric 2 . 4 OLetter 20 . 1 OLetter 17 . 2 Extend 6 . a Numeric b .
   1 Extend 1 . 1 Extend 1 . 1 Extend 4 Close 2 Extend 8 OLetter 1 . 24 OLetter 4 . 14 Extend 1 . 2
   Extend 5 OLetter b Extend 1 . 24 Extend 9 . 1 Extend 39 . 2b OLetter 14 Extend 1 OLetter a
   Numeric 2 STerm 4 . 6 OLetter 4 Extend 4 OLetter 3 Extend 1 OLetter 3 Extend 2 OLetter 7 Extend
   3 OLetter 4 Extend d OLetter c Extend 1 OLetter 1 Extend a Numeric 4 Extend 2 . 26 Upper 1 . 1
   Upper 5 . 1 Upper 2 . 2b OLetter 1 . 1 Lower 14c OLetter 1 . 4 OLetter 2 . 7 OLetter 1 . 1
   OLetter 1 . 4 OLetter 2 . 29 OLetter 1 . 4 OLetter 2 . 21 OLetter 1 . 4 OLetter 2 . 7 OLetter 1
   . 1 OLetter 1 . 4 OLetter 2 . f OLetter 1 . 39 OLetter 1 . 4 OLetter 2 . 43 OLetter 2 . 3 Extend
   2 . 1 STerm 4 . 2 STerm 17 . 10 OLetter 10 . 56 Upper 2 . 6 Lower 3 . 26c OLetter 1 . 1 STerm 11
   OLetter 1 Sp 1a OLetter 2 Close 3 . 4b OLetter 3 . b OLetter 7 . 12 OLetter 4 Extend 9 . 13
   OLetter 3 Extend 2 STerm 9 . 12 OLetter 2 Extend c . d OLetter 1 . 3 OLetter 1 . 2 Extend c . 34
   OLetter 20 Extend 2 STerm 1 . 1 OLetter 4 . 1 OLetter 1 Extend 2 . a Numeric 18 . 1 SContinue 1
   STerm 4 . 1 SContinue 1 STerm 1 . 3 Extend 1 Format 1 Extend a Numeric 6 . 59 OLetter 7 . 5
   OLetter 2 Extend 22 OLetter 1 Extend 1 OLetter 5 . 46 OLetter a . 1f OLetter 1 . c Extend 4 . c
   Extend 8 . 2 STerm a Numeric 1e OLetter 2 . 5 OLetter b . 2c OLetter 4 . 1a OLetter 6 . b
   Numeric 25 . 17 OLetter 5 Extend 4 . 35 OLetter a Extend 1 . 1d Extend 2 . 1 Extend a Numeric 6
   . a Numeric d . 1 OLetter 4 STerm 4 . 2e Extend 2 . c Extend 14 . 5 Extend 2f OLetter 11 Extend
   8 OLetter 1 . 2 STerm a Numeric 2 STerm 2 . 2 STerm b . 9 Extend 9 . 3 STerm 3 Extend 1e OLetter
   d Extend 2 OLetter a Numeric 2c OLetter e Extend c . 24 OLetter 14 Extend 3 . 2 STerm 3 . a
   Numeric 3 . 3 OLetter a Numeric 24 OLetter 2 STerm 9 Lower 1 Upper 1 Lower 5 . 2b OLetter 2 . 3
   OLetter 10 . 3 Extend 1 . 15 Extend 4 OLetter 1 Extend 6 OLetter 1 Extend 2 OLetter 3 Extend 1
   OLetter 5 . c0 Lower 40 Extend 1 Upper 1 Lower 1 Upper 1 Lower 1 Upper 1 Lower 1 Upper 1 Lower 1
   Upper 1 Lower 1 Upper 1 Lower 1 Upper 1 Lower 1 Upper 1 Lower 1 Upper 1 Lower 1 Upper 1 Lower 1
   Upper 1 Lower 1 Upper 1 Lower 1 Upper 1 Lower 1 Upper 1 Lower 1 Upper 1 Lower 1 Upper 1 Lower 1
   Upper 1 Lower 1 Upper 1 Lower 1 Upper 1 Lower 1 Upper 1 Lower 1 Upper 1 Lower 1 Upper 1 Lower 1
   Upper 1 Lower 1 Upper 1 Lower 1 Upper 1 Lower 1 Upper 1 Lower 1 Upper 1 Lower 1 Upper 1 Lower 1
   Upper 1 Lower 1 Upper 1 Lower 1 Upper 1 Lower 1 Upper 1 Lower 1 Upper 1 Lower 1 Upper 1 Lower 1
   Upper 1 Lower 1 Upper 1 Lower 1 Upper 1 Lower 1 Upper 1 Lower 1 Upper 1 Lower 1 Upper 1 Lower 1
   Upper 1 Lower 1 Upper 1 Lower 1 Upper 1 Lower 1 Upper 1 Lower 1 Upper 1 Lower 1 Upper 1 Lower 1
   Upper 1 Lower 1 Upper 1 Lower 1 Upper 1 Lower 1 Upper 1 Lower 1 Upper 1 Lower 1 Upper 1 Lower 1
   Upper 1 Lower 1 Upper 1 Lower 1 Upper 1 Lower 1 Upper 1 Lower 1 Upper 1 Lower 1 Upper 1 Lower 1
   Upper 1 Lower 1 Upper 1 Lower 1 Upper 1 Lower 1 Upper 1 Lower 1 Upper 1 Lower 1 Upper 1 Lower 1
   Upper 1 Lower 1 Upper 1 Lower 1 Upper 1 Lower 1 Upper 1 Lower 1 Upper 1 Lower 1 Upper 1 Lower 1
   Upper 1 Lower 1 Upper 1 Lower 1 Upper 1 Lower 1 Upper 1 Lower 1 Upper 9 Lower 1 Upper 1 Lower 1
   Upper 1 Lower 1 Upper 1 Lower 1 Upper 1 Lower 1 Upper 1 Lower 1 Upper 1 Lower 1 Upper 1 Lower 1
   Upper 1 Lower 1 Upper 1 Lower 1 Upper 1 Lower 1 Upper 1 Lower 1 Upper 1 Lower 1 Upper 1 Lower 1
   Upper 1 Lower 1 Upper 1 Lower 1 Upper 1 Lower 1 Upper 1 Lower 1 Upper 1 Lower 1 Upper 1 Lower 1
   Upper 1 Lower 1 Upper 1 Lower 1 Upper 1 Lower 1 Upper 1 Lower 1 Upper 1 Lower 1 Upper 1 Lower 1
   Upper 1 Lower 1 Upper 1 Lower 1 Upper 1 Lower 1 Upper 1 Lower 1 Upper 1 Lower 1 Upper 1 Lower 1
   Upper 1 Lower 1 Upper 1 Lower 1 Upper 1 Lower 1 Upper 1 Lower 1 Upper 1 Lower 1 Upper 1 Lower 1
   Upper 1 Lower 1 Upper 1 Lower 1 Upper 1 Lower 1 Upper 1 Lower 1 Upper 1 Lower 1 Upper 1 Lower 1
   Upper 1 Lower 1 Upper 1 Lower 1 Upper 1 Lower 1 Upper 1 Lower 1 Upper 1 Lower 1 Upper 9 Lower 8
   Upper 6 Lower 2 . 6 Upper 2 . 8 Lower 8 Upper 8 Lower 8 Upper 6 Lower 2 . 6 Upper 2 . 8 Lower 1
   . 1 Upper 1 . 1 Upper 1 . 1 Upper 1 . 1 Upper 8 Lower 8 Upper e Lower 2 . 8 Lower 8 Upper 8
   Lower 8 Upper 8 Lower 8 Upper 5 Lower 1 . 2 Lower 5 Upper 1 . 1 Lower 3 . 3 Lower 1 . 2 Lower 5
   Upper 3 . 4 Lower 2 . 2 Lower 4 Upper 4 . 8 Lower 5 Upper 5 . 3 Lower 1 . 2 Lower 5 Upper 3 . b
   Sp 1 Format 2 Extend 2 Format 3 . 2 SContinue 3 . 8 Close 4 . 1 ATerm 3 . 2 Sep 5 Format 1 Sp 9
   . 2 Close 1 . 2 STerm 7 . 2 Close 3 STerm 15 . 1 Sp 5 Format 1 . a Format 1 . 1 Lower b . 2
   Close 1 Lower d . 2 Close 1 . d Lower 33 . 21 Extend 11 . 1 Upper 4 . 1 Upper 2 . 1 Lower 3
   Upper 2 Lower 3 Upper 1 Lower 1 . 1 Upper 3 . 5 Upper 6 . 1 Upper 1 . 1 Upper 1 . 1 Upper 1 . 4
   Upper 1 . 1 Lower 4 Upper 1 Lower 4 OLetter 1 Lower 2 . 2 Lower 2 Upper 5 . 1 Upper 4 Lower 4 .
   1 Lower 11 . 10 Upper 10 Lower 3 OLetter 1 Upper 1 Lower 4 OLetter 17f . 4 Close 1d . 2 Close
   18b . 1a Upper 1a Lower 271 . 6 Close 7 . e Close 4f . 2 Close 1f . a Close 193 . 16 Close 3f .
   4 Close 20 . 2 Close 202 . 30 Upper 30 Lower 1 Upper 1 Lower 3 Upper 2 Lower 1 Upper 1 Lower 1
   Upper 1 Lower 1 Upper 1 Lower 4 Upper 1 Lower 1 Upper 2 Lower 1 Upper 8 Lower 3 Upper 1 Lower 1
   Upper 1 Lower 1 Upper 1 Lower 1 Upper 1 Lower 1 Upper 1 Lower 1 Upper 1 Lower 1 Upper 1 Lower 1
   Upper 1 Lower 1 Upper 1 Lower 1 Upper 1 Lower 1 Upper 1 Lower 1 Upper 1 Lower 1 Upper 1 Lower 1
   Upper 1 Lower 1 Upper 1 Lower 1 Upper 1 Lower 1 Upper 1 Lower 1 Upper 1 Lower 1 Upper 1 Lower 1
   Upper 1 Lower 1 Upper 1 Lower 1 Upper 1 Lower 1 Upper 1 Lower 1 Upper 1 Lower 1 Upper 1 Lower 1
   Upper 1 Lower 1 Upper 1 Lower 1 Upper 1 Lower 1 Upper 1 Lower 1 Upper 1 Lower 1 Upper 1 Lower 1
   Upper 1 Lower 1 Upper 1 Lower 1 Upper 1 Lower 1 Upper 1 Lower 1 Upper 1 Lower 1 Upper 1 Lower 1
   Upper 1 Lower 1 Upper 1 Lower 1 Upper 1 Lower 1 Upper 1 Lower 1 Upper 1 Lower 1 Upper 1 Lower 1
   Upper 1 Lower 1 Upper 1 Lower 1 Upper 1 Lower 1 Upper 1 Lower 1 Upper 1 Lower 1 Upper 1 Lower 1
   Upper 2 Lower 6 . 1 Upper 1 Lower 1 Upper 1 Lower 3 Extend 1 Upper 1 Lower 5 . 3 STerm 4 . 26
   Lower 1 . 1 Lower 5 . 1 Lower 2 . 38 OLetter 7 . 1 OLetter f . 1 Extend 17 OLetter 9 . 7 OLetter
   1 . 7 OLetter 1 . 7 OLetter 1 . 7 OLetter 1 . 7 OLetter 1 . 7 OLetter 1 . 7 OLetter 1 . 7
   OLetter 1 . 20 Extend e Close e . 2 Close 2 . a Close 4 . 1 STerm 1 OLetter c . 1 STerm 5 . 1
   Close 10 . 2 STerm 8 Close 1a3 . 1 Sp 1 SContinue 1 STerm 2 . 3 OLetter a Close 2 . 8 Close 1 .
   3 Close 1 . 9 OLetter 6 Extend 1 . 5 OLetter 2 . 5 OLetter 4 . 56 OLetter 2 . 2 Extend 2 . 3
   OLetter 1 . 5a OLetter 1 . 4 OLetter 5 . 2b OLetter 1 . 5e OLetter 11 . 20 OLetter 30 . 10
   OLetter 200 . 19c0 OLetter 40 . 568d OLetter 43 . 2e OLetter 1 . 1 STerm 10d OLetter 1 . 2 STerm
   10 OLetter a Numeric 2 OLetter 14 . 1 Upper 1 Lower 1 Upper 1 Lower 1 Upper 1 Lower 1 Upper 1
   Lower 1 Upper 1 Lower 1 Upper 1 Lower 1 Upper 1 Lower 1 Upper 1 Lower 1 Upper 1 Lower 1 Upper 1
   Lower 1 Upper 1 Lower 1 Upper 1 Lower 1 Upper 1 Lower 1 Upper 1 Lower 1 Upper 1 Lower 1 Upper 1
   Lower 1 Upper 1 Lower 1 Upper 1 Lower 1 Upper 1 Lower 1 Upper 1 Lower 1 Upper 1 Lower 1 Upper 1
   Lower 1 Upper 1 Lower 1 OLetter 4 Extend 1 . a Extend 1 . 1 OLetter 1 Upper 1 Lower 1 Upper 1
   Lower 1 Upper 1 Lower 1 Upper 1 Lower 1 Upper 1 Lower 1 Upper 1 Lower 1 Upper 1 Lower 1 Upper 1
   Lower 1 Upper 1 Lower 1 Upper 1 Lower 1 Upper 1 Lower 1 Upper 1 Lower 1 Upper 1 Lower 1 Upper 3
   Lower 2 Extend 50 OLetter 2 Extend 1 . 1 STerm 3 . 1 STerm 1f . 9 OLetter 2 . 1 Upper 1 Lower 1
   Upper 1 Lower 1 Upper 1 Lower 1 Upper 1 Lower 1 Upper 1 Lower 1 Upper 1 Lower 1 Upper 3 Lower 1
   Upper 1 Lower 1 Upper 1 Lower 1 Upper 1 Lower 1 Upper 1 Lower 1 Upper 1 Lower 1 Upper 1 Lower 1
   Upper 1 Lower 1 Upper 1 Lower 1 Upper 1 Lower 1 Upper 1 Lower 1 Upper 1 Lower 1 Upper 1 Lower 1
   Upper 1 Lower 1 Upper 1 Lower 1 Upper 1 Lower 1 Upper 1 Lower 1 Upper 1 Lower 1 Upper 1 Lower 1
   Upper 1 Lower 1 Upper 1 Lower 1 Upper 1 Lower 1 Upper 1 Lower 1 Upper 1 Lower 1 Upper 1 Lower 1
   Upper 1 Lower 1 Upper 1 Lower 1 Upper 1 Lower 1 Upper 1 Lower 1 Upper 1 Lower 1 Upper 1 Lower 1
   Upper a Lower 1 Upper 1 Lower 1 Upper 1 Lower 2 Upper 1 Lower 1 Upper 1 Lower 1 Upper 1 Lower 1
   Upper 1 Lower 1 Upper 1 Lower 1 OLetter 2 . 1 Upper 1 Lower 1 Upper 1 Lower 1 OLetter 1 Upper 1
   Lower 1 Upper 3 Lower 1 Upper 1 Lower 1 Upper 1 Lower 1 Upper 1 Lower 1 Upper 1 Lower 1 Upper 1
   Lower 1 Upper 1 Lower 1 Upper 1 Lower 1 Upper 1 Lower 1 Upper 1 Lower 1 Upper 1 Lower 5 Upper 1
   Lower 5 Upper 1 Lower 1 Upper 1 Lower 1 Upper 1 Lower 1 Upper 1 Lower 1 Upper 1 Lower 1 Upper 1
   Lower 1 Upper 1 Lower 1 Upper 1 Lower 4 Upper 1 Lower 1 Upper 1 Lower 2 Upper 1 Lower 1 Upper 1
   Lower 1 Upper 1 Lower 1 Upper 1 Lower 1 Upper 1 Lower 1 Upper 1 Lower 1 Upper 1 Lower 1 Upper 1
   Lower 1 Upper 14 . 4 Lower 1 Upper 1 Lower 1 OLetter 3 Lower 7 OLetter 1 Extend 3 OLetter 1
   Extend 4 OLetter 1 Extend 17 OLetter 5 Extend 4 . 1 Extend 13 . 34 OLetter 2 . 2 STerm 8 . 2
   Extend 32 OLetter 12 Extend 8 . 2 STerm a Numeric 6 . 12 Extend 6 OLetter 3 . 1 OLetter 1 . 2
   OLetter 1 Extend a Numeric 1c OLetter 8 Extend 1 . 1 STerm 17 OLetter d Extend c . 1d OLetter 3
   . 4 Extend 2f OLetter e Extend 7 . 2 STerm 5 . 1 OLetter a Numeric 6 . 5 OLetter 1 Extend a
   OLetter a Numeric 5 OLetter 1 . 29 OLetter e Extend 9 . 3 OLetter 1 Extend 8 OLetter 2 Extend 2
   . a Numeric 3 . 3 STerm 17 OLetter 3 . 1 OLetter 3 Extend 32 OLetter 1 Extend 1 OLetter 3 Extend
   2 OLetter 2 Extend 5 OLetter 2 Extend 1 OLetter 1 Extend 1 OLetter 18 . 3 OLetter 2 . b OLetter
   5 Extend 2 STerm 3 OLetter 2 Extend a . 6 OLetter 2 . 6 OLetter 2 . 6 OLetter 9 . 7 OLetter 1 .
   7 OLetter 1 . 2b Lower 1 . e Lower 6 . 50 Lower 23 OLetter 8 Extend 1 STerm 2 Extend 2 . a
   Numeric 6 . 2ba4 OLetter c . 17 OLetter 4 . 31 OLetter 2104 . 16e OLetter 2 . 6a OLetter 26 . 7
   Lower c . 5 Lower 5 . 1 OLetter 1 Extend a OLetter 1 . d OLetter 1 . 5 OLetter 1 . 1 OLetter 1 .
   2 OLetter 1 . 2 OLetter 1 . 6c OLetter 21 . 16b OLetter 2 Close 10 . 40 OLetter 2 . 36 OLetter
   28 . c OLetter 4 . 10 Extend 2 SContinue 1 STerm 2 SContinue 2 STerm 2 Close 7 . 10 Extend 1 . 2
   SContinue 2 . 10 Close 2 . 2 Close 7 . 2 SContinue 1 ATerm 1 . 2 SContinue 2 STerm 1 SContinue 6
   Close 4 . 1 SContinue c . 5 OLetter 1 . 87 OLetter 2 . 1 Format 1 . 1 STerm 6 . 2 Close 2 . 2
   SContinue 1 ATerm 1 . a Numeric 2 SContinue 3 . 1 STerm 1 . 1a Upper 1 Close 1 . 1 Close 3 . 1a
   Lower 1 Close 1 . 1 Close 1 . 2 Close 1 STerm 2 Close 1 SContinue 1 . 38 OLetter 2 Extend 1f
   OLetter 3 . 6 OLetter 2 . 6 OLetter 2 . 6 OLetter 2 . 3 OLetter 1c . 3 Format 4 . c OLetter 1 .
   1a OLetter 1 . 13 OLetter 1 . 2 OLetter 1 . f OLetter 2 . e OLetter 22 . 7b OLetter 45 . 35
   OLetter 88 . 1 Extend 82 . 1d OLetter 3 . 31 OLetter f . 1 Extend 1f . 20 OLetter d . 1e OLetter
   5 . 26 OLetter 5 Extend 5 . 1e OLetter 2 . 24 OLetter 4 . 8 OLetter 1 . 5 OLetter 2a . 28 Upper
   28 Lower 4e OLetter 2 . a Numeric 6 . 24 Upper 4 . 24 Lower 4 . 28 OLetter 8 . 34 OLetter c . b
   Upper 1 . f Upper 1 . 7 Upper 1 . 2 Upper 1 . b Lower 1 . f Lower 1 . 7 Lower 1 . 2 Lower 3 . 34
   OLetter c . 137 OLetter 9 . 16 OLetter a . 8 OLetter 18 . 1 Lower 2 OLetter 3 Lower 1 . 2a Lower
   1 . 9 Lower 45 . 6 OLetter 2 . 1 OLetter 1 . 2c OLetter 1 . 2 OLetter 3 . 1 OLetter 2 . 17
   OLetter a . 17 OLetter 9 . 1f OLetter 41 . 13 OLetter 1 . 2 OLetter a . 16 OLetter a . 1a
   OLetter 6 . 1a OLetter 26 . 38 OLetter 6 . 2 OLetter 40 . 1 OLetter 3 Extend 1 . 2 Extend 5 . 4
   Extend 4 OLetter 1 . 3 OLetter 1 . 1d OLetter 2 . 3 Extend 4 . 1 Extend 16 . 2 STerm 8 . 1d
   OLetter 3 . 1d OLetter 23 . 8 OLetter 1 . 1c OLetter 2 Extend 19 . 36 OLetter a . 16 OLetter a .
   13 OLetter d . 12 OLetter 6e . 49 OLetter 37 . 33 Upper d . 33 Lower d . 24 OLetter 4 Extend 8 .
   a Numeric 6 . a Numeric 6 OLetter 16 Upper 3 . 5 Extend 1 . 1 OLetter 16 Lower fa . 2a OLetter 1
   . 2 Extend 3 . 2 OLetter 10 . 6 OLetter 32 . 6 Extend 1d OLetter a . 1 OLetter 8 . 16 OLetter b
   Extend 4 . 5 STerm 16 . 12 OLetter 4 Extend 4 STerm 26 . 15 OLetter 1b . 17 OLetter 9 . 3 Extend
   35 OLetter f Extend 2 STerm 1d . a Numeric 1 Extend 2 OLetter 2 Extend 1 OLetter 9 . 4 Extend 2d
   OLetter b Extend 2 . 1 Numeric 4 STerm 1 Extend a . 1 Numeric 2 . 19 OLetter 7 . a Numeric 6 . 3
   Extend 24 OLetter e Extend 1 . a Numeric 1 . 3 STerm 1 OLetter 2 Extend 1 OLetter 8 . 23 OLetter
   1 Extend 2 . 1 OLetter 9 . 3 Extend 30 OLetter e Extend 4 OLetter 2 STerm 2 . 4 Extend 1 STerm 2
   Extend a Numeric 1 OLetter 1 . 1 OLetter 1 . 2 STerm 20 . 12 OLetter 1 . 19 OLetter c Extend 2
   STerm 1 . 2 STerm 1 . 1 Extend 2 OLetter 1 Extend 3e . 7 OLetter 1 . 1 OLetter 1 . 4 OLetter 1 .
   f OLetter 1 . a OLetter 1 STerm 6 . 2f OLetter c Extend 5 . a Numeric 6 . 4 Extend 1 . 8 OLetter
   2 . 2 OLetter 2 . 16 OLetter 1 . 7 OLetter 1 . 2 OLetter 1 . 5 OLetter 1 . 2 Extend 1 OLetter 7
   Extend 2 . 2 Extend 2 . 3 Extend 2 . 1 OLetter 6 . 1 Extend 5 . 5 OLetter 2 Extend 2 . 7 Extend
   3 . 5 Extend b . a OLetter 1 . 1 OLetter 2 . 1 OLetter 1 . 26 OLetter 1 . 1 OLetter 9 Extend 1 .
   1 Extend 2 . 1 Extend 1 . 4 Extend 1 . 5 Extend 1 OLetter 1 Extend 1 OLetter 2 STerm b . 2
   Extend 1d . 35 OLetter 12 Extend 4 OLetter 2 STerm 3 . a Numeric 4 . 1 Extend 3 OLetter 1e . 30
   OLetter 14 Extend 2 OLetter 1 . 1 OLetter 8 . a Numeric a6 . 2f OLetter 7 Extend 2 . 9 Extend 1
   . 2 STerm 5 . f STerm 4 OLetter 2 Extend 22 . 30 OLetter 11 Extend 2 STerm 1 . 1 OLetter b . a
   Numeric 26 . 2b OLetter d Extend 1 OLetter 7 . a Numeric 6 . 14 Numeric 1c . 1b OLetter 2 . f
   Extend 4 . a Numeric 2 . 3 STerm 1 . 7 OLetter b9 . 2c OLetter f Extend 65 . 20 Upper 20 Lower a
   Numeric 15 . 8 OLetter 2 . 1 OLetter 2 . 8 OLetter 1 . 2 OLetter 1 . 18 OLetter 6 Extend 1 . 2
   Extend 2 . 4 Extend 1 OLetter 1 Extend 1 OLetter 2 Extend 1 STerm 1 . 1 STerm 9 . a Numeric 46 .
   8 OLetter 2 . 27 OLetter 7 Extend 2 . 7 Extend 1 OLetter 1 . 1 OLetter 1 Extend 1b . 1 OLetter a
   Extend 28 OLetter 7 Extend 1 OLetter 4 Extend 3 . 2 STerm 3 . 1 Extend 8 . 1 OLetter b Extend 2e
   OLetter 10 Extend 1 . 2 STerm 1 OLetter 12 . 49 OLetter 67 . 8 Extend 58 . 21 OLetter f . a
   Numeric 6 . 9 OLetter 1 . 25 OLetter 8 Extend 1 . 8 Extend 1 OLetter 2 STerm d . a Numeric 18 .
   1e OLetter 2 . 16 Extend 1 . e Extend 49 . 7 OLetter 1 . 2 OLetter 1 . 26 OLetter 6 Extend 3 . 1
   Extend 1 . 2 Extend 1 . 7 Extend 1 OLetter 1 Extend 8 . a Numeric 6 . 6 OLetter 1 . 2 OLetter 1
   . 20 OLetter 5 Extend 1 . 2 Extend 1 . 5 Extend 1 OLetter 7 . a Numeric 6 . 2c OLetter 4 . a
   Numeric f6 . 13 OLetter 4 Extend 2 STerm 7 . 2 Extend 1 OLetter 1 Extend d OLetter 1 . 22
   OLetter 7 Extend 3 . 5 Extend 2 STerm b . a Numeric 1 Extend 55 . 1 OLetter 4f . 39a OLetter 66
   . 6f OLetter 11 . c4 OLetter a4c . 61 OLetter f . 430 OLetter 10 Format 1 Extend 6 OLetter f
   Extend a . f9b OLetter 5 . 247 OLetter 1ab9 . 1e OLetter 12 Extend a Numeric 6c6 . 239 OLetter 7
   . 1f OLetter 1 . a Numeric 4 . 2 STerm 4f OLetter 1 . a Numeric 6 . 1e OLetter 2 . 5 Extend 1
   STerm a . 30 OLetter 7 Extend 2 STerm 7 . 4 OLetter 1 STerm b . a Numeric 9 . 15 OLetter 5 . 13
   OLetter 1b0 . 2d OLetter 1 . 2 STerm a Numeric c6 . 20 Upper 20 Lower 18 . 1 STerm 7 . 19 Upper
   2 . 19 Lower 2c . 4b OLetter 4 . 1 Extend 1 OLetter 37 Extend 7 . 4 Extend d OLetter 40 . 2
   OLetter 1 . 1 OLetter 1 Extend b . 2 Extend 5 OLetter 9 . 1cd6 OLetter 29 . 20 OLetter 61 . 73
   OLetter 21fd . 4 OLetter 1 . 7 OLetter 1 . 2 OLetter 1 . 123 OLetter f . 1 OLetter 1d . 3
   OLetter 2 . 1 OLetter e . 4 OLetter 8 . 18c OLetter 904 . 6b OLetter 5 . d OLetter 3 . 9 OLetter
   7 . a OLetter 3 . 2 Extend 1 STerm 4 Format 104c . a Numeric 206 . 2e Extend 2 . 17 Extend 21e .
   5 Extend 3 . 6 Extend 8 Format 8 Extend 2 . 7 Extend 1e . 4 Extend 94 . 3 Extend 1bb . 1a Upper
   1a Lower 1a Upper 7 Lower 1 . 12 Lower 1a Upper 1a Lower 1 Upper 1 . 2 Upper 2 . 1 Upper 2 . 2
   Upper 2 . 4 Upper 1 . 8 Upper 4 Lower 1 . 1 Lower 1 . 7 Lower 1 . b Lower 1a Upper 1a Lower 2
   Upper 1 . 4 Upper 2 . 8 Upper 1 . 7 Upper 1 . 1a Lower 2 Upper 1 . 4 Upper 1 . 5 Upper 1 . 1
   Upper 3 . 7 Upper 1 . 1a Lower 1a Upper 1a Lower 1a Upper 1a Lower 1a Upper 1a Lower 1a Upper 1a
   Lower 1a Upper 1a Lower 1a Upper 1c Lower 2 . 19 Upper 1 . 19 Lower 1 . 6 Lower 19 Upper 1 . 19
   Lower 1 . 6 Lower 19 Upper 1 . 19 Lower 1 . 6 Lower 19 Upper 1 . 19 Lower 1 . 6 Lower 19 Upper 1
   . 19 Lower 1 . 6 Lower 1 Upper 1 Lower 2 . 32 Numeric 200 . 37 Extend 4 . 32 Extend 8 . 1 Extend
   e . 1 Extend 3 . 1 STerm 12 . 5 Extend 1 . f Extend 450 . a Lower 1 OLetter 14 Lower 6 . 6 Lower
   d5 . 7 Extend 1 . 11 Extend 2 . 7 Extend 1 . 2 Extend 1 . 5 Extend 5 . 3e Lower 21 . 1 Extend 70
   . 2d OLetter 3 . 7 Extend 7 OLetter 2 . a Numeric 4 . 1 OLetter 141 . 1e OLetter 1 Extend 11 .
   2c OLetter 4 Extend a Numeric 1d6 . 1c OLetter 4 Extend a Numeric d6 . 1e OLetter 2 Extend 1
   OLetter a Numeric c5 . 1f OLetter 1 . 3 OLetter 1 Extend 2 OLetter 1 Extend 7 OLetter 2 Extend 5
   OLetter 1 Extend 8 . 2 OLetter e0 . 7 OLetter 1 . 4 OLetter 1 . 2 OLetter 1 . f OLetter 1 . c5
   OLetter b . 7 Extend 29 . 22 Upper 22 Lower 7 Extend 1 OLetter 4 . a Numeric 4a6 . 4 OLetter 1 .
   1b OLetter 1 . 2 OLetter 1 . 1 OLetter 2 . 1 OLetter 1 . a OLetter 1 . 4 OLetter 1 . 1 OLetter 1
   . 1 OLetter 6 . 1 OLetter 4 . 1 OLetter 1 . 1 OLetter 1 . 1 OLetter 1 . 3 OLetter 1 . 2 OLetter
   1 . 1 OLetter 2 . 1 OLetter 1 . 1 OLetter 1 . 1 OLetter 1 . 1 OLetter 1 . 1 OLetter 1 . 2
   OLetter 1 . 1 OLetter 2 . 4 OLetter 1 . 7 OLetter 1 . 4 OLetter 1 . 4 OLetter 1 . 1 OLetter 1 .
   a OLetter 1 . 11 OLetter 5 . 3 OLetter 1 . 5 OLetter 1 . 11 OLetter 274 . 1a Upper 6 . 1a Upper
   6 . 1a Upper 4ec . 3 Close 577 . a Numeric 406 . a6e0 OLetter 20 . 111e OLetter 2 . 168e OLetter
   2 . 1d31 OLetter f . 26e OLetter 9a2 . 21e OLetter 5e2 . 134b OLetter 5 . 212a OLetter acb87 . 1
   Format 1e . 60 Extend 80 . f0 Extend 2fe10 ."

/-- A way to cut texts. -/
inductive Segmentation where
  | grapheme
  | word
  | sentence
deriving DecidableEq, Repr

namespace Segmentation

def graphemeTable : RunTable :=
  RunTable.ofPacked graphemeBreakRuns

def wordTable : RunTable :=
  RunTable.ofPacked wordBreakRuns

def sentenceTable : RunTable :=
  RunTable.ofPacked sentenceBreakRuns

/-- The classes along the code space. -/
def table : Segmentation → RunTable
  | grapheme => graphemeTable
  | word => wordTable
  | sentence => sentenceTable

def graphemeNames : NameTable :=
  NameTable.ofPacked
    "cn:Control control:Control cr:CR ex:Extend extend:Extend l:L lf:LF lv:LV lvt:LVT pp:Prepend
     prepend:Prepend regionalindicator:Regional_Indicator ri:Regional_Indicator sm:SpacingMark
     spacingmark:SpacingMark t:T v:V zwj:ZWJ"

def wordNames : NameTable :=
  NameTable.ofPacked
    "aletter:ALetter cr:CR doublequote:Double_Quote dq:Double_Quote ex:ExtendNumLet extend:Extend
     extendnumlet:ExtendNumLet fo:Format format:Format hebrewletter:Hebrew_Letter hl:Hebrew_Letter
     ka:Katakana katakana:Katakana le:ALetter lf:LF mb:MidNumLet midletter:MidLetter midnum:MidNum
     midnumlet:MidNumLet ml:MidLetter mn:MidNum newline:Newline nl:Newline nu:Numeric
     numeric:Numeric regionalindicator:Regional_Indicator ri:Regional_Indicator
     singlequote:Single_Quote sq:Single_Quote wsegspace:WSegSpace zwj:ZWJ"

def sentenceNames : NameTable :=
  NameTable.ofPacked
    "at:ATerm aterm:ATerm cl:Close close:Close cr:CR ex:Extend extend:Extend fo:Format
     format:Format le:OLetter lf:LF lo:Lower lower:Lower nu:Numeric numeric:Numeric
     oletter:OLetter sc:SContinue scontinue:SContinue se:Sep sep:Sep sp:Sp st:STerm sterm:STerm
     up:Upper upper:Upper"

/-- The names of the classes, in lower case and without separators. -/
def classNames : Segmentation → NameTable
  | grapheme => graphemeNames
  | word => wordNames
  | sentence => sentenceNames

/-- Whether a code point has a class. -/
def hasClass (s : Segmentation) (name : String) (n : Nat) : Bool :=
  s.table.labelAt n == name

end Segmentation

end Blocklist.Unicode
