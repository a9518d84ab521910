/-! Any text in letters, digits and hyphens.

`Punycode.encode` writes a text with its ASCII characters first and then, after a hyphen, where the
others go: by code point and, for each, by place. `Punycode.decode?` reads it back. The numbers are
written with digits of varying base, which adapts to the ones before. -/

namespace Readiness.Url.Punycode

/-- The number of digits. -/
def base : Nat := 36

/-- The first code point that is not written as it is. -/
def firstCode : Nat := 0x80

/-- The bias of the first number. -/
def firstBias : Nat := 72

/-- The limit below which a digit is the last one of a number, `place` digits from its start. -/
def threshold (bias place : Nat) : Nat := min (max (base * (place + 1) - bias) 1) 26

/-- No digit ends a number at once. -/
theorem threshold_pos (bias place : Nat) : 0 < threshold bias place := by
  simp only [threshold]; omega

/-- Counts how often `delta` has to be scaled down until it is small. -/
def scale (delta rounds : Nat) : Nat :=
  if _h : 455 < delta then scale (delta / 35) (rounds + base)
  else rounds + base * delta / (delta + 38)
termination_by delta

/-- The bias after a number `delta` with `count` characters written, where the first number counts
for less. -/
def adapt (delta count : Nat) (first : Bool) : Nat :=
  let delta := if first then delta / 700 else delta / 2
  scale (delta + delta / count) 0

/-- A digit. -/
def digit (n : Nat) : Char := Char.ofNat (if n < 26 then 'a'.toNat + n else '0'.toNat + (n - 26))

/-- The value of a digit. -/
def digit? (c : Char) : Option Nat :=
  if 'a' ≤ c && c ≤ 'z' then some (c.toNat - 'a'.toNat)
  else if '0' ≤ c && c ≤ '9' then some (c.toNat - '0'.toNat + 26)
  else none

/-- Writes a number from its place `place` on. -/
def number (bias place n : Nat) : List Char :=
  let t := threshold bias place
  if _h : n < t then [digit n]
  else digit (t + (n - t) % (base - t)) :: number bias (place + 1) ((n - t) / (base - t))
termination_by n
decreasing_by
  have := threshold_pos bias place
  exact Nat.lt_of_le_of_lt (Nat.div_le_self ..) (by omega)

/-- What has been written so far. -/
structure Encoder where
  output : List Char
  /-- How many characters are in it. -/
  count : Nat
  delta : Nat := 0
  bias : Nat := firstBias
deriving Repr

/-- Passes over a character, or writes its place if it is the one whose turn it is. -/
def Encoder.visit (basic code : Nat) (e : Encoder) (c : Char) : Encoder :=
  if c.toNat < code then { e with delta := e.delta + 1 }
  else if c.toNat = code then
    { output := e.output ++ number e.bias 0 e.delta
      count := e.count + 1
      delta := 0
      bias := adapt e.delta (e.count + 1) (e.count == basic) }
  else e

/-- Writes all places of one code point; `next` is the first one not dealt with. -/
def Encoder.turn (basic : Nat) (text : List Char) (state : Encoder × Nat) (code : Nat) :
    Encoder × Nat :=
  let (e, next) := state
  let e := { e with delta := e.delta + (code - next) * (e.count + 1) }
  let e := text.foldl (Encoder.visit basic code) e
  ({ e with delta := e.delta + 1 }, code + 1)

/-- The code points beyond ASCII, each once, in ascending order. -/
def turns (text : List Char) : List Nat :=
  (text.filterMap fun c => if firstCode ≤ c.toNat then some c.toNat else none).foldr insert []
where
  insert (code : Nat) : List Nat → List Nat
    | [] => [code]
    | x :: rest =>
      if code < x then code :: x :: rest else if code = x then x :: rest else x :: insert code rest

/-- A text in letters, digits and hyphens. -/
def encode (text : List Char) : List Char :=
  let basic := text.filter fun c => c.toNat < firstCode
  let start : Encoder := ⟨if basic.isEmpty then [] else basic ++ ['-'], basic.length, 0, firstBias⟩
  ((turns text).foldl (Encoder.turn basic.length text) (start, firstCode)).1.output

/-- Numbers that are read have at most 32 bits. -/
def numberLimit : Nat := 0x100000000

/-- Reads a number, added to `sum`, and what follows it. -/
def number? (bias place weight sum : Nat) : List Char → Option (Nat × List Char)
  | [] => none
  | c :: rest => do
    let d ← digit? c
    let sum := sum + d * weight
    let t := threshold bias place
    if numberLimit ≤ sum then none
    else if d < t then return (sum, rest)
    else if numberLimit ≤ weight * (base - t) then none
    else number? bias (place + 1) (weight * (base - t)) sum rest

/-- Reading a number takes at least one character. -/
theorem length_number? {bias place weight sum n : Nat} {s rest : List Char}
    (h : number? bias place weight sum s = some (n, rest)) : rest.length < s.length := by
  induction s generalizing place weight sum with
  | nil => simp [number?] at h
  | cons c s ih =>
    rw [number?] at h
    cases hd : digit? c with
    | none => simp [hd] at h
    | some d =>
      simp only [hd, Option.bind_eq_bind, Option.bind_some] at h
      split at h
      · simp at h
      · split at h
        · simp at h; simp [h.2]
        · split at h
          · simp at h
          · have := ih h
            simp; omega

/-- Reads the places: `code` and `place` are those of the character before. -/
def insertAll (output : List Char) (code place bias : Nat) (s : List Char) : Option (List Char) :=
  match s with
  | [] => some output
  | c :: s =>
    match h : number? bias 0 1 place (c :: s) with
    | none => none
    | some (n, rest) =>
      have := length_number? h
      let count := output.length + 1
      let code := code + n / count
      if code.isValidChar then
        insertAll (output.insertIdx (n % count) (Char.ofNat code)) code (n % count + 1)
          (adapt (n - place) count (place == 0)) rest
      else none
termination_by s.length
decreasing_by exact this

/-- The text that was written as `s`. -/
def decode? (s : List Char) : Option (List Char) :=
  let after := (s.reverse.takeWhile (· != '-')).reverse
  let before := (s.take (s.length - after.length)).dropLast
  let places := if before.isEmpty then s else after
  if before.all fun c => c.toNat < firstCode then insertAll before firstCode 0 firstBias places
  else none

example : encode "b\u00fccher".toList = "bcher-kva".toList := by decide +kernel
example : decode? "bcher-kva".toList = some "b\u00fccher".toList := by decide +kernel
example : decode? "-".toList = none := by decide +kernel

end Readiness.Url.Punycode
