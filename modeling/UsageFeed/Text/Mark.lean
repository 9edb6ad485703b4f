import UsageFeed.Text.Runs

/-!
# `UsageFeed.Text.Mark` — marks that attach to other characters

## Contents
- `isAttached` for marks without room of their own, `isMark` for all.
- `combiningClass`, by which marks on one character are put in order; `takesVowel`, whether a mark
  takes the vowel from a letter, so that the next one joins it.
-/

namespace UsageFeed.Text

/-- The marks without room of their own, as gaps and counts. -/
def attachedGaps : String := "
  300 70 113 7 107 2D 1 1 1 2 1 2 1 1 48 B 30 15 10 1 65 7 2 6 2 2 1 4 23 1 1E 1B 5B B 3A 9 9 1
  18 4 1 9 1 3 1 5 2B 3 3B 9 2A 18 1 20 37 1 1 1 4 8 4 1 3 7 A 2 1D 1 3A 1 4 4 8 1 14 2 1A 1 2 2
  39 1 4 2 4 2 2 3 3 1 1E 2 3 1 B 2 39 1 4 5 1 2 4 1 14 2 16 6 1 1 3A 1 2 1 1 4 8 1 7 2 B 2 1E 1
  3D 1 C 1 32 1 3 1 37 1 1 3 5 3 1 4 7 2 B 2 1D 1 3A 1 2 1 6 1 5 2 14 2 1C 2 39 2 4 4 8 1 14 2
  1D 1 48 1 7 3 1 1 5A 1 2 7 C 8 62 1 2 9 B 7 49 2 1B 1 1 1 1 1 37 E 1 5 1 2 5 B 1 24 9 1 66 4 1
  6 1 2 2 2 19 2 4 3 10 4 D 1 2 2 6 1 F 1 2BF 3 3B2 3 1D 2 1E 2 1E 2 40 2 1 7 8 1 2 B 9 1 2D 3 1
  1 75 2 22 1 76 3 4 2 9 1 6 3 DB 2 2 1 3A 1 1 7 1 1 1 1 2 8 6 A 2 1 30 2E 2 C 14 4 30 1 1 5 1 1
  5 1 28 9 C 2 20 4 2 2 1 3 38 1 1 2 3 1 1 3 3A 8 2 2 98 3 1 D 1 7 4 1 6 1 3 2 C6 40 2D0 21 BFE
  3 8D 1 60 20 22A 4 6B 2 75D4 4 1 A 20 2 50 2 110 1 3 1 4 1 19 2 5 1 97 2 1A 12 D 1 26 8 19 B
  2E 3 30 1 2 4 2 2 27 1 43 6 2 2 2 2 C 1 8 1 2F 1 33 1 1 3 2 2 5 2 1 1 2A 2 8 1 EE 1 2 1 4 1
  4F30 1 2E1 10 10 10 3CD 1 E2 1 95 5 686 3 1 2 5 4 28 3 4 1 A5 2 23D 4 41 5 13D 2 4D 6 46 B 31
  4 7B 1 36 F 29 1 2 2 A 3 31 4 2 2 7 1 3D 3 24 5 1 8 3E 1 C 2 34 9 A 4 2 1 5F 3 2 1 1 2 6 1 2 1
  9D 1 3 8 15 2 39 2 3 1 25 7 3 5 46 6 D 1 1 1 1 1 E 2 55 8 2 3 1 1 17 1 54 6 1 1 4 2 1 2 EE 4 6
  2 1 2 1B 2 55 8 2 1 1 2 6A 1 1 1 2 6 1 1 65 1 1 1 2 4 1 5 103 9 1 2 100 2 1 1 4 1 90 4 2 2 4 1
  20 A 28 6 2 4 8 1 9 6 2 3 2E D 1 2 C6 1 1 3 1 1 C9 7 1 6 1 1 52 16 2 7 1 2 1 2 7A 6 3 1 1 2 1
  7 1 1 48 2 3 1 1 1 15B 2 B 2 34 5 5 1 1 1 17 1 14E5 1 6 F 2CC8 C 3 3 9C0 5 3B 7 418 1 3F 4 51
  1 4CB8 2 1261 2E 2 17 220 3 11 8 2 7 1E 4 94 3 7BB 37 4 32 8 1 E 1 16 5 1 F 550 7 1 11 2 7 1 2
  1 5 64 1 A0 7 177 1 3D 4 1FC 4 FE 2 F3 1 2 1 7 2 5 1 1DA 7 6D 7 C17B5 F0"

/-- The marks with room of their own, as gaps and counts. -/
def roomyGaps : String := "
  903 1 37 1 2 3 8 4 1 2 32 2 3A 3 6 2 2 2 A 1 2B 1 3A 3 42 1 3A 3 8 1 1 2 35 2 3A 1 1 1 6 2 2 2
  A 1 66 2 1 2 3 3 1 3 A 1 29 3 3D 4 3D 2 3A 1 1 5 2 2 1 2 9 2 1C 1 E 2 3A 3 5 3 1 3 A 1 2A 2 4B
  3 6 8 12 2 14A 2 3F 1 AB 2 4 1 6 1 2 2 19 2 A 3 2 7 15 2 2 6 2 1 A 3 678 1 1E 1 81 1 7 8 1 2
  15A 4 2 3 4 2 1 6 E0 2 3A 1 1 1 9 1 1 2 8 6 91 1 30 1 5 1 1 5 1 2 3D 1 1E 1 4 2 2 1 3C 1 2 3 1
  1 3 2 30 8 8 2 AB 1 15 1 1336 2 77F3 2 2 1 58 2 32 10 8E 2 2F 1 30 2 4 2 2 3 6E 2 2 2 18 1 2D
  1 1 1 6D 1 2 2 5 1 ED 2 1 2 1 2 1 1 6413 1 1 1 7F 1 2D 3 4 2 73 1 18 2 3B 1 30 3 9 2 D 1 5D 3
  3 2 1 1 AA 3 1F 2 3A 2 1 4 2 2 2 3 9 1 A 2 54 3 7 1 2 1 1 4 1 2 1 1 65 3 8 2 3 1 6A 3 6 1 1 4
  2 1 ED 3 6 4 2 1 71 3 8 2 1 1 6D 1 1 2 6 1 67 1 1 2 4 1 105 3 9 1 F7 6 1 2 4 1 2 1 1 1 8E 3 8
  4 4 1 54 1 1D 2 3E 1 C9 1 3 1 1 1 C7 1 E 1 6A 1 7 1 2 1 D5 5 4 2 1 1 15E 2 C 1 30 2 8 2 1 1
  41E8 3 E24 37 68 2 6173 2 6 6"

/-- The classes of marks other than zero, as gaps, counts and classes. -/
def combiningGaps : String := "
  300 15 E6 0 1 E8 0 4 DC 0 1 E8 0 1 D8 0 5 DC 0 2 CA 0 4 DC 0 2 CA 0 B DC 0 5 1 0 4 DC 0 3 E6 2
  1 E6 2 1 F0 0 1 E6 0 3 DC 0 3 E6 0 2 DC 1 3 E6 0 4 DC 0 1 E6 0 1 E8 0 2 DC 0 1 E6 0 1 E9 0 2
  EA 0 1 E9 0 2 EA 0 1 E9 0 D E6 113 5 E6 109 1 DC 0 4 E6 0 1 DC 0 3 E6 0 1 DE 0 1 DC 0 6 E6 0 6
  DC 0 2 E6 0 1 DC 0 2 E6 0 1 DE 0 1 E4 0 1 E6 0 1 A 0 1 B 0 1 C 0 1 D 0 1 E 0 1 F 0 1 10 0 1 11
  0 1 12 0 2 13 0 1 14 0 1 15 0 1 16 1 1 17 1 1 18 0 1 19 1 1 E6 0 1 DC 1 1 12 48 8 E6 0 1 1E 0
  1 1F 0 1 20 30 1 1B 0 1 1C 0 1 1D 0 1 1E 0 1 1F 0 1 20 0 1 21 0 1 22 0 2 E6 0 2 DC 0 5 E6 0 1
  DC 0 2 E6 0 1 DC 10 1 23 65 7 E6 2 4 E6 0 1 DC 0 1 E6 2 2 E6 1 1 DC 0 2 E6 0 1 DC 23 1 24 1E 1
  E6 0 1 DC 0 2 E6 0 1 DC 0 2 E6 0 3 DC 0 1 E6 0 2 DC 0 1 E6 0 1 DC 0 3 E6 0 1 DC 0 1 E6 0 1 DC
  0 1 E6 0 1 DC 0 1 E6 0 1 DC 0 2 E6 A0 7 E6 0 1 DC 0 1 E6 9 1 DC 18 4 E6 1 9 E6 1 3 E6 1 5 E6
  2B 3 DC 3B 2 E6 0 3 DC 0 4 E6 2A 5 E6 0 5 DC 0 E E6 1 1 DC 0 2 E6 0 1 DC 0 2 E6 0 1 DC 0 3 E6
  0 3 DC 0 1 1B 0 1 1C 0 1 1D 0 3 E6 0 1 DC 0 2 E6 0 2 DC 0 5 E6 3C 1 7 10 1 9 3 1 E6 0 1 DC 0 2
  E6 67 1 7 10 1 9 30 1 E6 3D 1 7 10 1 9 6E 1 7 10 1 9 6E 1 7 10 1 9 7F 1 9 6E 1 7 10 1 9 7 1 54
  0 1 5B 65 1 7 10 1 9 6D 2 9 10 1 9 7C 1 9 6D 2 67 0 1 9 D 4 6B 6C 2 76 0 1 9 D 4 7A 4C 2 DC 1B
  1 DC 1 1 DC 1 1 D8 37 1 81 0 1 82 1 1 84 5 4 82 2 1 82 1 2 E6 0 1 9 1 2 E6 3E 1 DC 70 1 7 1 2
  9 52 1 DC 2CF 3 E6 3B4 2 9 1E 1 9 9D 1 9 A 1 E6 CB 1 E4 8F 1 DE 0 1 E6 0 1 DC DB 1 E6 0 1 DC
  47 1 9 14 8 E6 2 1 DC 30 5 E6 0 6 DC 0 2 E6 0 1 DC 1 2 DC 0 2 E6 0 2 DC 0 5 E6 0 1 DC 0 12 E6
  0 1 DC 2 6 E6 0 1 DC 0 4 E6 0 1 EA 48 1 7 F 1 9 26 1 E6 0 1 DC 0 7 E6 36 2 9 3A 1 7 B 2 9 43 1
  7 98 3 E6 1 1 1 0 5 DC 0 2 E6 0 4 DC 0 1 E6 1 7 1 4 1 DC 6 1 E6 3 2 E6 C6 2 E6 0 1 DC 0 7 E6 0
  1 DC 0 2 E6 0 1 EA 0 1 D6 0 1 DC 0 1 CA 0 25 E6 0 1 E8 0 2 E4 0 1 DC 0 1 DA 0 1 E6 0 1 E9 0 1
  DC 0 1 E6 0 1 DC 2D0 2 E6 0 2 1 0 4 E6 0 3 1 0 2 E6 4 1 E6 3 2 1 0 1 E6 0 1 DC 0 1 E6 0 2 1 0
  4 DC 0 1 E6 BFE 3 E6 8D 1 9 60 20 E6 22A 1 DA 0 1 E4 0 1 E8 0 1 DE 0 2 E0 69 2 8 75D4 1 E6 4 A
  E6 20 2 E6 50 2 E6 114 1 9 25 1 9 97 1 9 1B 12 E6 39 3 DC 25 1 9 5F 1 7 C 1 9 EF 1 E6 1 2 E6 0
  1 DC 2 2 E6 5 2 E6 1 1 E6 34 1 9 F6 1 9 4F30 1 1A 301 7 E6 0 7 DC 0 2 E6 3CD 1 DC E2 1 DC 95 5
  E6 692 1 DC 1 1 E6 28 1 E6 0 1 1 0 1 DC 4 1 9 A5 1 E6 0 1 DC 23D 4 E6 41 5 E6 13D 2 E6 4D 2 DC
  1 3 DC 46 2 DC 0 3 E6 0 1 DC 0 1 E6 0 4 DC 31 1 E6 0 1 DC 0 1 E6 0 1 DC C0 1 9 29 1 9 E 1 9 39
  1 9 0 1 7 45 3 E6 30 2 9 3E 1 7 4C 1 9 9 1 7 6A 1 9 0 1 7 B2 1 7 0 1 9 50 2 7 10 1 9 18 7 E6 3
  5 E6 59 3 9 71 1 9 3 1 7 17 1 E6 63 1 9 0 1 7 FB 1 9 0 1 7 7E 1 9 76 1 9 0 1 7 73 1 9 10D 1 9
  0 1 7 102 2 9 4 1 7 9C 1 9 53 1 9 12 1 9 51 1 9 1A5 1 9 102 1 7 1 2 9 51 1 9 1A9 2 9 41EC 1 9
  9C0 5 1 3B 7 E6 4B9 2 6 4CAC 1 1 14C6 2 D8 0 3 1 3 1 E2 0 5 D8 8 8 DC 2 5 E6 0 2 DC 1E 4 E6 94
  3 E6 DBB 7 E6 1 11 E6 2 7 E6 1 2 E6 1 5 E6 64 1 E6 A0 7 E6 177 1 E6 3D 4 E6 1FC 2 E8 0 1 DC 0
  1 E6 FE 1 E6 0 1 DC F3 1 E6 2 1 E6 7 2 E6 5 1 E6 1DA 7 DC 6D 6 E6 0 1 7"

/-- The marks without room of their own. -/
def attached : Runs Unit := .ofGaps attachedGaps

/-- The marks with room of their own. -/
def roomy : Runs Unit := .ofGaps roomyGaps

/-- The classes of marks. -/
def combining : Runs Nat := .ofMarkedGaps combiningGaps

/-- A mark without room of its own. -/
def isAttached (c : Char) : Bool := attached.holds c

/-- A mark. -/
def isMark (c : Char) : Bool := isAttached c || roomy.holds c

/-- Where a mark comes among the marks on one character; zero for all that stays in its place. -/
def combiningClass (c : Char) : Nat := (combining.value? c).getD 0

/-- A mark that takes the vowel from the letter before. -/
def takesVowel (c : Char) : Bool := combiningClass c == 9

end UsageFeed.Text
