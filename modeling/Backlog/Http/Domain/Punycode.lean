import Backlog.Text
/-!
Labels in ASCII: the ASCII characters of a label, and behind a hyphen the other ones as numbers. In the
order of their code points, each number tells how many places in the label, and how many rounds over
all of its places, lie between one insertion and the next.

- `Punycode.encode`: the ASCII form of a label;
- `Punycode.decode?`: the label of an ASCII form.
-/
namespace Backlog.Http.Domain.Punycode
set_option autoImplicit false

/-! ## Digits -/

/-- The digit of a value below 36: letters, then figures. -/
def digit (n : Nat) : Char := if n < 26 then Char.ofNat (97 + n) else Char.ofNat (22 + n)

def value? (c : Char) : Option Nat :=
  if 'a' ≤ c ∧ c ≤ 'z' then some (c.toNat - 97)
  else if 'A' ≤ c ∧ c ≤ 'Z' then some (c.toNat - 65)
  else if '0' ≤ c ∧ c ≤ '9' then some (c.toNat - 22)
  else none

/-- A number ends with the first digit below the threshold of its place. Places are counted by 36.
-/
def threshold (bias place : Nat) : Nat := min 26 (max 1 (place - bias))

theorem threshold_pos (bias place : Nat) : 0 < threshold bias place := by
  unfold threshold; omega

/-- The digits of a number, the lowest first. -/
def digits (bias place n : Nat) : Text :=
  let t := threshold bias place
  if n < t then [digit n]
  else digit (t + (n - t) % (36 - t)) :: digits bias (place + 36) ((n - t) / (36 - t))
termination_by n
decreasing_by
  have := threshold_pos bias place
  exact Nat.lt_of_le_of_lt (Nat.div_le_self _ _) (by omega)

/-- A number read from digits, the first one of the worth given, and what follows it. -/
def number? (bias : Nat) : Nat → Nat → Text → Option (Nat × Text)
  | _, _, [] => none
  | place, worth, c :: rest =>
    match value? c with
    | none => none
    | some n =>
      if n < threshold bias place then some (n * worth, rest)
      else
        (number? bias (place + 36) (worth * (36 - threshold bias place)) rest).map
          fun r => (n * worth + r.1, r.2)

theorem number_rest_shorter (bias : Nat) :
    ∀ (t : Text) (place worth : Nat) (r : Nat × Text),
      number? bias place worth t = some r → r.2.length < t.length := by
  intro t
  induction t with
  | nil => intro place worth r h; simp [number?] at h
  | cons c rest ih =>
    intro place worth r h
    rw [number?] at h
    split at h
    · cases h
    · split at h
      · cases h
        exact Nat.lt_succ_self _
      · obtain ⟨r', hr, rfl⟩ := Option.map_eq_some_iff.1 h
        exact Nat.lt_succ_of_lt (ih _ _ r' hr)

/-! ## Bias -/

/-- The bias after a number that has been damped, in steps of 36. -/
def biasOf (n steps : Nat) : Nat :=
  if 455 < n then biasOf (n / 35) (steps + 36) else steps + 36 * n / (n + 38)
termination_by n
decreasing_by exact Nat.div_lt_self (by omega) (by omega)

/-- The bias for the number after this one, which made the label `length` characters long. -/
def nextBias (first : Bool) (n length : Nat) : Nat :=
  let n := if first then n / 700 else n / 2
  biasOf (n + n / length) 0

/-! ## Encoding -/

def isAscii (c : Char) : Bool := c.toNat < 0x80

structure Encoder where
  output : Text
  /-- Places passed since the last insertion. -/
  passed : Nat
  bias : Nat
  written : Nat
  /-- Whether no number has been written. -/
  fresh : Bool

/-- One place of the label, in the round for the character `turn`. -/
def Encoder.visit (turn : Char) (e : Encoder) (c : Char) : Encoder :=
  if c < turn then { e with passed := e.passed + 1 }
  else if c = turn then
    { output := e.output ++ digits e.bias 36 e.passed
      passed := 0
      bias := nextBias e.fresh e.passed (e.written + 1)
      written := e.written + 1
      fresh := false }
  else e

/-- The rounds for the characters that are left, from the code point `n` on. -/
def Encoder.rounds (label : Text) : Nat → Text → Encoder → Encoder
  | _, [], e => e
  | n, turn :: turns, e =>
    let e := { e with passed := e.passed + (turn.toNat - n) * (e.written + 1) }
    let e := label.foldl (Encoder.visit turn) e
    rounds label (turn.toNat + 1) turns { e with passed := e.passed + 1 }

/-- The characters of a label that are not of ASCII, each once and in order. -/
def turns (label : Text) : Text :=
  ((label.filter fun c => !isAscii c).mergeSort fun a b => a ≤ b).eraseReps

def encode (label : Text) : Text :=
  let plain := label.filter isAscii
  let lead := if plain.isEmpty then [] else plain ++ ['-']
  (Encoder.rounds label 0x80 (turns label) ⟨lead, 0, 72, plain.length, true⟩).output

/-! ## Decoding -/

def char? (n : Nat) : Option Char := if n.isValidChar then some (Char.ofNat n) else none

/-- The label with the insertions that the numbers tell of: the next one is of the code point `n` or
a later one, at the place `place` or a later one. -/
def insertions? (bias n place : Nat) (first : Bool) (label t : Text) : Option Text :=
  if t.isEmpty then some label
  else
    match _h : number? bias 36 1 t with
    | none => none
    | some (passed, rest) =>
      let length := label.length + 1
      let n := n + (place + passed) / length
      let place := (place + passed) % length
      match char? n with
      | none => none
      | some c =>
        insertions? (nextBias first passed length) n (place + 1) false (label.insertIdx place c) rest
termination_by t.length
decreasing_by exact number_rest_shorter _ _ _ _ _ _h

def decode? (t : Text) : Option Text :=
  let behind := (t.reverse.takeWhile (· != '-')).reverse
  if behind.length = t.length then insertions? 72 0x80 0 true [] t
  else
    let plain := t.take (t.length - behind.length - 1)
    if plain.isEmpty || !plain.all isAscii then none else insertions? 72 0x80 0 true plain behind

end Backlog.Http.Domain.Punycode
