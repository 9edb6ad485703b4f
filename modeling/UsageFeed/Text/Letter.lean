import UsageFeed.Text.Runs

/-!
# `UsageFeed.Text.Letter` — letters and numbers

## Contents
- `isLetter` and `isNumber`, by the tables of Unicode.
- `isWordChar` for either.
-/

namespace UsageFeed.Text

/-- The letters of Unicode, as gaps and counts. -/
def letterGaps : String := "
  41 1A 6 1A 2F 1 A 1 4 1 5 17 1 1F 1 1CA 4 C E 5 7 1 1 1 56 1 1D 12 1 2 2 4 1 1 6 1 1 3 1 1 1
  14 1 53 1 8B 8 A6 1 26 2 1 6 29 27 E 1 1 1 2 1 2 1 1 8 1B 4 4 1D B 5 38 1 7 E 66 1 8 4 8 4 3 A
  3 2 1 10 30 D 65 18 21 9 2 4 1 5 18 2 13 13 19 7 B 5 18 1 7 7 1 8 2A A C 3 7 6 4C 1 10 1 3 4 F
  D 13 1 8 2 2 2 16 1 7 1 1 3 4 3 8 2 2 2 2 1 1 8 1 4 2 1 5 C 2 A 1 4 3 1 6 4 2 2 16 1 7 1 2 1 2
  1 2 4 5 4 2 2 2 4 1 7 4 1 1 11 6 B 3 1 9 1 3 1 16 1 7 1 2 1 5 3 9 1 3 1 2 3 1 F 4 15 4 4 3 1 8
  2 2 2 16 1 7 1 2 1 5 3 8 2 2 2 2 9 2 4 2 1 5 D 1 10 2 1 6 3 3 1 4 3 2 1 1 1 2 3 2 3 3 3 C 4 5
  3 3 1 3 3 1 6 1 28 D 1 3 1 17 1 10 3 8 1 3 1 3 8 2 1 3 1 2 2 4 1C 4 1 8 1 3 1 17 1 A 1 5 3 8 1
  3 1 3 8 2 5 3 1 4 D 3 C D 1 3 1 29 2 8 1 3 1 3 1 1 5 4 7 5 16 6 1 3 1 12 3 18 1 9 1 1 2 7 8 6
  1 1 1 8 12 2 D 3A 5 7 6 1 33 2 1 1 1 5 1 18 1 1 1 13 1 3 2 5 1 1 6 1 E 4 20 1 3F 8 1 24 4 13 4
  10 1 24 43 37 1 1 2 5 10 40 A 4 2 26 1 1 5 1 2 2B 1 14D 1 4 2 7 1 1 1 4 2 29 1 4 2 21 1 4 2 7
  1 1 1 4 2 F 1 39 1 4 2 43 25 10 10 56 2 6 3 26C 2 11 1 1A 5 4B 3 B 7 14 B 15 C 14 C D 1 3 1 2
  C 34 2 13 E 1 4 1 43 59 7 2B 5 46 A 1F 1 C 4 9 17 1E 2 5 B 2C 4 1A 36 1C 4 3F 2 14 32 1 17 2 B
  3 31 34 1 F 1 8 33 2A 2 4 A 2C 1 B E 37 16 3 A 24 2 B 5 2B 2 3 29 4 1 6 1 2 3 1 5 C0 13 22 B
  116 2 6 2 26 2 6 2 8 1 1 1 1 1 1 1 1F 2 35 1 7 1 1 3 3 1 7 3 4 2 6 4 D 5 3 1 7 74 1 D 1 10 D
  65 1 4 1 2 A 1 1 3 5 6 1 1 1 1 1 1 4 1 B 2 4 5 5 4 1 11 29 32D 34 716 E5 6 4 3 2 C 26 1 1 5 1
  2 38 7 1 10 17 9 7 1 7 1 7 1 7 1 7 1 7 1 7 1 7 1 20 2F 1 1D5 3 19 9 7 5 2 5 4 56 6 3 1 5A 1 4
  5 2B 1 5E 11 20 30 10 200 19C0 40 568D 43 2E 2 10D 3 10 A 2 14 2F 5 8 3 71 27 9 2 67 2 52 14
  15 1 21 18 34 C 44 1 1 2C 6 3 1 1 3 A 21 5 23 D 1D 3 33 1 C F 1 10 10 A 5 1 37 9 E 12 17 3 45
  1 1 1 1 18 3 2 10 2 4 B 6 2 6 2 6 9 7 1 7 1 2B 1 E 6 7B 15 2BA4 C 17 4 31 2104 16E 2 6A 26 7 C
  5 5 C 1 D 1 5 1 1 1 2 1 2 1 6C 21 16B 12 40 2 36 28 C 74 5 1 87 24 1A 6 1A B 59 3 6 2 6 2 6 2
  3 23 C 1 1A 1 13 1 2 1 F 2 E 22 7B 45 35 10B 1D 3 31 2F 20 D 1E 5 2B 5 1E 2 24 4 8 1 5 2A 9E
  12 24 4 24 4 28 8 34 C B 1 F 1 7 1 2 1 B 1 F 1 7 1 2 3 34 C 137 9 16 A 8 18 6 1 2A 1 9 45 6 2
  1 1 2C 1 2 3 1 2 17 A 17 9 1F 41 13 1 2 A 16 A 1A 6 1A 26 38 6 2 40 4 1 2 5 8 1 3 1 1D 2A 1D 3
  1D 23 8 1 1C 1B 36 A 16 A 13 D 12 6E 49 37 33 D 33 D 28 22 1C 3 1 5 17 FA 2A 1 2 3 2 10 6 32 3
  3 1D A 1 8 16 2A 12 2E 15 1B 17 9 46 2B 5 A 39 9 1 D 19 17 33 11 4 8 23 3 1 9 40 1 4 9 2 A 1 1
  1 23 12 1 22 2 1 6 4 3E 7 1 1 1 4 1 F 1 A 7 39 17 4 1 8 2 2 2 16 1 7 1 2 1 5 3 8 2 2 2 2 3 1 6
  1 5 7 1C A 1 1 2 1 1 26 1 A 1 1 2 1 1 4 1 2 3 1 1 1 2C 42 1 3 1 4 14 3 1E 42 2 2 1 1 B8 36 2 7
  19 6 22 3F 1 1 3 1 3B 36 2 1 47 1B 2 E 15 7 B9 39 67 40 1F 8 2 1 2 8 1 2 1 1E 1 2 2 2 2 4 5D 8
  2 2E 2 6 1 1 1 2 1B 33 2 A 11 48 5 1 12 49 67 8 58 21 1F 9 1 2D 1 7 1 1 31 1E 2 16 1 E 49 7 1
  2 1 2C 3 1 1 2 1 3 1 1 2 2 18 6 1 2 1 25 1 2 1 4 1 1 17 2C 104 17 9 11 1 29 3 3 6F 1 4F 39A 66
  6F 11 C4 A4C 61 F 430 11 6 19 F9B 5 247 1AB9 2F 6D1 239 7 1F 11 4F 11 1E 12 30 10 4 1F 15 5 13
  1B0 2D D3 40 20 19 2 19 2C 4B 4 39 7 11 40 2 1 1 C 7 9 1CD6 29 20 61 73 21FD 4 1 7 1 2 1 123 F
  1 1D 3 2 1 E 4 8 18C 904 6B 5 D 3 9 7 A 4 1 1761 55 1 47 1 2 2 1 2 2 2 4 1 C 1 1 1 7 1 41 1 4
  2 8 1 7 1 1C 1 4 1 5 1 1 3 7 1 154 2 19 1 19 1 1F 1 19 1 1F 1 19 1 1F 1 19 1 1F 1 19 1 8 734
  1F 6 6 D5 7 1 11 2 7 1 2 1 5 5 3E 21 1 70 2D A 7 10 1 141 1E 12 2C 1E4 1C E4 1E 2 1 CF 1F 1 16
  8 2 E0 7 1 4 1 2 1 F 1 C5 3B 44 3 1 3 1 4B4 4 1 1B 1 2 1 1 2 1 1 A 1 4 1 1 1 1 6 1 4 1 1 1 1 1
  1 3 1 2 1 1 2 1 1 1 1 1 1 1 1 1 1 2 1 1 2 4 1 7 1 4 1 4 1 1 1 A 1 11 5 3 1 5 1 11 274 1A 6 1A
  6 1A E76 A6E0 20 111E 2 168E 2 1D31 F 26E 9A2 21E 5E2 134B 5 212A"

/-- The numbers of Unicode, as gaps and counts. -/
def numberGaps : String := "
  30 A 78 2 5 1 2 3 5A1 A 86 A C6 A 19C A 76 A 4 6 6C A 76 A 76 A 2 6 6E D 73 A 8 7 67 A 68 7 7
  13 6D A 60 A 76 A 46 14 10C A 46 A 2CF 14 371 3 EF A 6 A 16 A 12C A 80 B A5 A 6 A B6 A 56 A 86
  A 6 A 416 1 3 6 6 A C6 33 2 5 2D6 3C 4E 16 276 1E 569 1 309 1 19 9 E 3 157 4 8A A 1E 8 1 F 20
  A 27 F 7360 A BC A 140 6 9A A 26 A C6 A 16 A 56 A 196 A 5316 A 1ED 2D C 39 11 2 155 1B 24 4 1D
  1 8 1 86 5 CA A 3AE 8 19 7 27 9 4B 5 16 6 A0 2 2 10 2 2E 40 9 34 2 1E 3 4B 5 68 8 18 8 29 7
  14A 6 30 A 6 A 116 1F 9E A 2A 4 70 7 86 1E 80 A 3C A 90 A 7 14 FB A 156 A 76 A 176 A 66 A 6 14
  4C C 1A4 13 5D A 296 A 56 1D E3 A 46 A 36 A 166 A 66 15 42B 6F 3CC1 A 926 A 56 A 86 A 1 7 20E
  A 106 17 15D 3 5CF9 A 5C6 14 C 14 6C 19 455 32 940 A 1A6 A 1F6 A F7 A 2CC 9 80 A 317 3B 1 3 1
  4 4C 2D 1 F 3C2 D AE3 A"

/-- The letters of Unicode. -/
def letters : Runs Unit := .ofGaps letterGaps

/-- The numbers of Unicode. -/
def numbers : Runs Unit := .ofGaps numberGaps

/-- A letter of any script. -/
def isLetter (c : Char) : Bool := letters.holds c

/-- A digit or another number of any script. -/
def isNumber (c : Char) : Bool := numbers.holds c

/-- A letter or a number. -/
def isWordChar (c : Char) : Bool := isLetter c || isNumber c

end UsageFeed.Text
