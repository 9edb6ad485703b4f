/-!
# `UsageFeed.Url.Punycode` — labels of any letters in ASCII

## Contents
- `threshold` and `adapt`, how digits are weighed.
- `encode`, which lists a label's other letters as distances after its ASCII letters.
- `decode?`, which reads them back.
-/

namespace UsageFeed.Url.Punycode

/-! ## Digits -/

/-- A digit of base thirty-six: letters, then figures. -/
def digitChar (d : Nat) : Char := Char.ofNat (if d < 26 then 97 + d else 22 + d)

/-- The value of a digit. -/
def digitValue? (c : Char) : Option Nat :=
  let n := c.toNat
  if 97 ≤ n && n ≤ 122 then some (n - 97)
  else if 65 ≤ n && n ≤ 90 then some (n - 65)
  else if 48 ≤ n && n ≤ 57 then some (n - 22)
  else none

/-- From which value on a digit is not the last, at a place. -/
def threshold (place bias : Nat) : Nat :=
  if place ≤ bias then 1 else if bias + 26 ≤ place then 26 else place - bias

/-- A threshold is not zero. -/
theorem threshold_pos (place bias : Nat) : 1 ≤ threshold place bias := by
  unfold threshold
  repeat' split
  all_goals omega

/-- A threshold is at most twenty-six. -/
theorem threshold_le (place bias : Nat) : threshold place bias ≤ 26 := by
  unfold threshold
  repeat' split
  all_goals omega

/-- Scales a distance down and counts how often. -/
def scaleDown (delta place : Nat) : Nat × Nat :=
  if 455 < delta then scaleDown (delta / 35) (place + 36) else (delta, place)
termination_by delta
decreasing_by omega

/-- The bias after a distance, once so many letters are placed. -/
def adapt (delta letters : Nat) (first : Bool) : Nat :=
  let delta := if first then delta / 700 else delta / 2
  let (delta, place) := scaleDown (delta + delta / letters) 0
  place + 36 * delta / (delta + 38)

/-! ## Writing -/

/-- A distance in digits. -/
def digits (bias place q : Nat) : List Char :=
  let t := threshold place bias
  if q < t then [digitChar q]
  else digitChar (t + (q - t) % (36 - t)) :: digits bias (place + 36) ((q - t) / (36 - t))
termination_by q
decreasing_by
  have hp := threshold_pos place bias
  have hl := threshold_le place bias
  have := Nat.div_le_self (q - threshold place bias) (36 - threshold place bias)
  omega

/-- How far writing has come. -/
structure Written where
  out : List Char
  delta : Nat
  bias : Nat
  letters : Nat

/-- Goes past one letter of the label while the letter `m` is being placed. -/
def Written.pass (basic m : Nat) (w : Written) (c : Char) : Written :=
  if c.toNat < m then { w with delta := w.delta + 1 }
  else if c.toNat = m then
    { out := w.out ++ digits w.bias 36 w.delta, delta := 0,
      bias := adapt w.delta (w.letters + 1) (w.letters == basic), letters := w.letters + 1 }
  else w

/-- Places letters in order of their numbers, from `n` on. -/
def place (label : List Char) (basic : Nat) : List Nat → Nat → Written → Written
  | [], _, w => w
  | m :: more, n, w =>
    let w := { w with delta := w.delta + (m - n) * (w.letters + 1) }
    let w := label.foldl (Written.pass basic m) w
    place label basic more (m + 1) { w with delta := w.delta + 1 }

/-- The numbers of the letters that are not ASCII, each once and in order. -/
def otherLetters (label : List Char) : List Nat :=
  (((label.map Char.toNat).filter (0x80 ≤ ·)).mergeSort (· ≤ ·)).eraseDups

/-- A label in ASCII. -/
def encode (label : List Char) : List Char :=
  let basic := label.filter (·.toNat < 0x80)
  let opening := if basic.isEmpty then [] else basic ++ ['-']
  (place label basic.length (otherLetters label) 0x80 ⟨opening, 0, 72, basic.length⟩).out

/-! ## Reading -/

/-- What a digit's weight stays below. -/
def weightLimit : Nat := Nat.pow 2 32

/-- Reads a distance: its value and the digits after it. -/
def readDistance? (bias place weight sum : Nat) : List Char → Option (Nat × List Char)
  | [] => none
  | c :: s =>
    match digitValue? c with
    | none => none
    | some d =>
      let t := threshold place bias
      let sum := sum + d * weight
      let next := weight * (36 - t)
      if d < t then some (sum, s)
      else if next < weightLimit then readDistance? bias (place + 36) next sum s
      else none

/-- Reading a distance shortens the digits. -/
theorem readDistance?_shorter {bias place weight sum v : Nat} {s rest : List Char}
    (h : readDistance? bias place weight sum s = some (v, rest)) : rest.length < s.length := by
  induction s generalizing place weight sum with
  | nil => simp [readDistance?] at h
  | cons c s ih =>
    simp only [readDistance?] at h
    split at h
    · simp at h
    · split at h
      · simp only [Option.some.injEq, Prod.mk.injEq] at h
        simp [← h.2]
      · split at h
        · have := ih h
          simp only [List.length_cons]
          omega
        · simp at h

/-- Puts letters into a label at the distances that are left, from the letter `n` and place `i`
on. -/
def insertAll? (out : List Char) (n i bias : Nat) (s : List Char) : Option (List Char) :=
  match s with
  | [] => some out
  | c :: more =>
    match _h : readDistance? bias 36 1 0 (c :: more) with
    | none => none
    | some (distance, rest) =>
      let letters := out.length + 1
      let m := n + (i + distance) / letters
      let spot := (i + distance) % letters
      if m.isValidChar then
        insertAll? (out.take spot ++ [Char.ofNat m] ++ out.drop spot) m (spot + 1)
          (adapt distance letters (i == 0)) rest
      else none
termination_by s.length
decreasing_by exact readDistance?_shorter _h

/-- Reads a label: its ASCII letters stand before the last hyphen, which is not the first
character. -/
def decode? (s : List Char) : Option (List Char) :=
  let tail := (s.reverse.takeWhile (· != '-')).reverse
  let opening := s.take (s.length - tail.length)
  if opening = ['-'] || !s.all (·.toNat < 0x80) then none
  else insertAll? opening.dropLast 0x80 0 72 tail

end UsageFeed.Url.Punycode
