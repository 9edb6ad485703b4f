/-!
# `UsageFeed.Text.Charset.Taken` — characters taken off bytes

## Contents
- `Taken`, what is taken off the front of bytes; `Taken.char`, `Taken.bad` and `Taken.ofPair`.
- `readAll`, which takes characters until no bytes are left.
-/

namespace UsageFeed.Text.Charset

/-- What is taken off the front of bytes: characters, and how many bytes after the first one. -/
structure Taken where
  chars : List Char
  more : Nat
  deriving Repr

namespace Taken

/-- A character of one byte. -/
def char (c : Char) : Taken := ⟨[c], 0⟩

/-- One byte that stands for no character. -/
def bad : Taken := ⟨['\uFFFD'], 0⟩

/-- What two bytes stand for. If it is nothing, an ASCII byte after the first one is left to stand
for itself. -/
def ofPair (found : Option (List Char)) (trail : UInt8) : Taken :=
  match found with
  | some chars => ⟨chars, 1⟩
  | none => if trail < 0x80 then .bad else ⟨['\uFFFD'], 1⟩

end Taken

/-- Takes characters until no bytes are left. -/
def readAll (take : UInt8 → List UInt8 → Taken) : List UInt8 → List Char
  | [] => []
  | b :: s => (take b s).chars ++ readAll take (s.drop (take b s).more)
termination_by s => s.length
decreasing_by simp only [List.length_drop, List.length_cons]; omega

end UsageFeed.Text.Charset
