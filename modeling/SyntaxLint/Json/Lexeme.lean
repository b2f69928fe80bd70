import SyntaxLint.Json.Value

/-!
# The scalars of a JSON text

Each scanner takes the text from where a scalar starts, and gives what the scalar stands for and
the text that follows it, or nothing where the text breaks the grammar.

A scalar can be well formed and still stand for no value: a string one of whose `\u` escapes is
half of a surrogate pair without the other half, or a number whose magnitude is beyond the range of
a double.  Its value is `none` then.  Such a scalar may stand where nothing reads it, and is an
error wherever it is read.

The range rule of numbers takes as significand the leading digits that fit 64 bits, and multiplies
the double nearest to it by the double nearest to the power of ten; a number is out of range if
this product overflows.  Doubles that are whole numbers are natural numbers of 53 significant bits
here (`nearestDouble`), so the rule needs no floating-point arithmetic.

Every scanner consumes at least one character (`scalar?_length`).
-/

namespace SyntaxLint.Lexeme

/-! ## Strings -/

/-- A piece of a string as written: a character, or a 16-bit unit given by a `\u` escape. -/
inductive Piece where
  | char (c : Char)
  | unit (code : Nat)
  deriving DecidableEq

/-- The value of a hexadecimal digit of either case. -/
def hexDigit? (c : Char) : Option Nat :=
  if '0' ≤ c ∧ c ≤ '9' then some (c.toNat - '0'.toNat)
  else if 'a' ≤ c ∧ c ≤ 'f' then some (c.toNat - 'a'.toNat + 10)
  else if 'A' ≤ c ∧ c ≤ 'F' then some (c.toNat - 'A'.toNat + 10)
  else none

/-- The 16-bit unit of four hexadecimal digits. -/
def hexUnit? (a b c d : Char) : Option Nat := do
  return (((← hexDigit? a) * 16 + (← hexDigit? b)) * 16 + (← hexDigit? c)) * 16 + (← hexDigit? d)

/-- The character that a letter after a backslash stands for. -/
def shortEscape? (c : Char) : Option Char :=
  if c = '"' then some '"'
  else if c = '\\' then some '\\'
  else if c = '/' then some '/'
  else if c = 'b' then some '\x08'
  else if c = 'f' then some '\x0c'
  else if c = 'n' then some '\n'
  else if c = 'r' then some '\r'
  else if c = 't' then some '\t'
  else none

/-- The pieces of a string after its opening quote, and the text after its closing quote. -/
def pieces? : List Char → Option (List Piece × List Char)
  | [] => none
  | c :: cs =>
    if c = '"' then some ([], cs)
    else if c = '\\' then
      match cs with
      | 'u' :: h₁ :: h₂ :: h₃ :: h₄ :: cs => do
        let code ← hexUnit? h₁ h₂ h₃ h₄
        let (pieces, rest) ← pieces? cs
        return (.unit code :: pieces, rest)
      | letter :: cs => do
        let escaped ← shortEscape? letter
        let (pieces, rest) ← pieces? cs
        return (.char escaped :: pieces, rest)
      | [] => none
    else if c.toNat < 0x20 then none
    else do
      let (pieces, rest) ← pieces? cs
      return (.char c :: pieces, rest)

/-- Whether a unit is the first half of a surrogate pair. -/
def isHighHalf (code : Nat) : Bool := 0xd800 ≤ code && code < 0xdc00

/-- Whether a unit is the second half of a surrogate pair. -/
def isLowHalf (code : Nat) : Bool := 0xdc00 ≤ code && code < 0xe000

/-- The characters of the pieces, if every half of a surrogate pair has its other half. -/
def chars? : List Piece → Option (List Char)
  | [] => some []
  | .char c :: pieces => (chars? pieces).map (c :: ·)
  | .unit code :: pieces =>
    if isHighHalf code then
      match pieces with
      | .unit low :: pieces =>
        if isLowHalf low then
          (chars? pieces).map
            (Char.ofNat (0x10000 + (code - 0xd800) * 0x400 + (low - 0xdc00)) :: ·)
        else none
      | _ => none
    else if isLowHalf code then none
    else (chars? pieces).map (Char.ofNat code :: ·)

/-- A string after its opening quote: its text, if it has one, and what follows it. -/
def string? (cs : List Char) : Option (Option String × List Char) := do
  let (pieces, rest) ← pieces? cs
  return ((chars? pieces).map String.ofList, rest)

/-! ## Numbers -/

/-- A text split after its leading decimal digits. -/
def digits (cs : List Char) : List Char × List Char :=
  (cs.takeWhile Char.isDigit, cs.dropWhile Char.isDigit)

/-- The whole part of a number: digits, without a leading zero unless it is the only one. -/
def whole? (cs : List Char) : Option (List Char × List Char) :=
  match digits cs with
  | ([], _) => none
  | ('0' :: _ :: _, _) => none
  | found => some found

/-- The digits after a decimal point, none if there is no point. -/
def fraction? : List Char → Option (List Char × List Char)
  | '.' :: cs =>
    match digits cs with
    | ([], _) => none
    | found => some found
  | cs => some ([], cs)

/-- The digits of an exponent after its sign. -/
def exponentDigits? (negative : Bool) (cs : List Char) : Option (Option Int × List Char) :=
  match digits cs with
  | ([], _) => none
  | (found, rest) =>
    let value : Int := Nat.ofDigitChars 10 found 0
    some (some (if negative then -value else value), rest)

/-- The exponent of a number, if it has one. -/
def exponent? : List Char → Option (Option Int × List Char)
  | c :: cs =>
    if c = 'e' ∨ c = 'E' then
      match cs with
      | '+' :: cs => exponentDigits? false cs
      | '-' :: cs => exponentDigits? true cs
      | cs => exponentDigits? false cs
    else some (none, c :: cs)
  | [] => some (none, [])

/-- Round a natural number to 53 significant bits, a half to the even neighbour. -/
def nearestDouble (n : Nat) : Nat :=
  let unit := Nat.pow 2 (n.log2 + 1 - 53)
  let down := n / unit
  let twice := 2 * (n % unit)
  if twice > unit ∨ twice = unit ∧ down % 2 = 1 then (down + 1) * unit else down * unit

/-- The least natural number that is rounded to infinity: the greatest double and half the gap
above it. -/
def doubleOverflow : Nat := Nat.pow 2 1024 - Nat.pow 2 970

/-- Append digits to a significand as long as it fits 64 bits; the second component counts the
digits left over. -/
def appendDigits (significand : Nat) : List Char → Nat × Nat
  | [] => (significand, 0)
  | c :: cs =>
    let longer := significand * 10 + (c.toNat - '0'.toNat)
    if longer < UInt64.size then appendDigits longer cs else (significand, (c :: cs).length)

/-- Whether a number with these digits before and after its point and this exponent is within the
range of a double. -/
def inRange (whole fraction : List Char) (exponent : Int) : Bool :=
  let (significand, wholeLeft) := appendDigits 0 whole
  let (significand, fractionLeft) := appendDigits significand fraction
  let power := exponent + wholeLeft - (fraction.length - fractionLeft)
  significand = 0 || power < 0 ||
    (power ≤ 308 &&
      nearestDouble significand * nearestDouble (Nat.pow 10 power.toNat) < doubleOverflow)

/-- The integer of a sign and digits, if it fits 64 bits; a minus sign rules out zero. -/
def integer? (negative : Bool) (whole : List Char) : Option Int :=
  let value := Nat.ofDigitChars 10 whole 0
  if negative then
    if 0 < value ∧ value ≤ UInt64.size / 2 then some (-value) else none
  else
    if value < UInt64.size then some value else none

/-- The value of a number from its sign and parts, `none` if it is out of range. -/
def numberValue? (negative : Bool) (whole fraction : List Char) (exponent : Option Int) :
    Option Number :=
  let real :=
    let mantissa : Int := Nat.ofDigitChars 10 (whole ++ fraction) 0
    if inRange whole fraction (exponent.getD 0) then
      some (.real (if negative then -mantissa else mantissa) (exponent.getD 0 - fraction.length))
    else none
  match fraction, exponent with
  | [], none =>
    match integer? negative whole with
    | some value => some (.integer value)
    | none => real
  | _, _ => real

/-- A number after its sign. -/
def number? (negative : Bool) (cs : List Char) : Option (Option Number × List Char) := do
  let (whole, rest) ← whole? cs
  let (fraction, rest) ← fraction? rest
  let (exponent, rest) ← exponent? rest
  return (numberValue? negative whole fraction exponent, rest)

/-! ## Scalars -/

/-- The scalar at the start of a text. -/
def scalar? : List Char → Option (Option Scalar × List Char)
  | 'n' :: 'u' :: 'l' :: 'l' :: rest => some (some .null, rest)
  | 't' :: 'r' :: 'u' :: 'e' :: rest => some (some (.bool true), rest)
  | 'f' :: 'a' :: 'l' :: 's' :: 'e' :: rest => some (some (.bool false), rest)
  | '"' :: cs => (string? cs).map fun (text, rest) => (text.map .string, rest)
  | '-' :: cs => (number? true cs).map fun (value, rest) => (value.map .number, rest)
  | cs => (number? false cs).map fun (value, rest) => (value.map .number, rest)

/-! ## Every scanner consumes something -/

theorem length_dropWhile_le (p : Char → Bool) (cs : List Char) :
    (cs.dropWhile p).length ≤ cs.length :=
  (List.dropWhile_sublist p).length_le

theorem digits_length_le (cs : List Char) : (digits cs).2.length ≤ cs.length :=
  length_dropWhile_le _ _

theorem digits_length_lt {cs : List Char} (h : (digits cs).1 ≠ []) :
    (digits cs).2.length < cs.length := by
  cases cs with
  | nil => simp [digits] at h
  | cons c cs =>
    by_cases hc : c.isDigit
    · have := length_dropWhile_le Char.isDigit cs
      simp [digits, hc]
      omega
    · simp [digits, hc] at h

theorem pieces?_length {cs : List Char} {pieces : List Piece} {rest : List Char}
    (h : pieces? cs = some (pieces, rest)) : rest.length < cs.length := by
  fun_induction pieces? cs generalizing pieces rest with
  | case1 => simp at h
  | case2 => simp_all
  | case3 h₁ h₂ h₃ h₄ cs hb ih =>
    simp only [Option.bind_eq_bind, Option.bind_eq_some_iff, Option.pure_def] at h
    obtain ⟨code, -, ⟨ps, r⟩, hr, hrest⟩ := h
    have := ih hr
    simp at hrest
    simp [← hrest.2]
    omega
  | case4 letter cs hu hb ih =>
    simp only [Option.bind_eq_bind, Option.bind_eq_some_iff, Option.pure_def] at h
    obtain ⟨code, -, ⟨ps, r⟩, hr, hrest⟩ := h
    have := ih hr
    simp at hrest
    simp [← hrest.2]
    omega
  | case5 => simp at h
  | case6 => simp at h
  | case7 c cs hq hb hc ih =>
    simp only [Option.bind_eq_bind, Option.bind_eq_some_iff, Option.pure_def] at h
    obtain ⟨⟨ps, r⟩, hr, hrest⟩ := h
    have := ih hr
    simp at hrest
    simp [← hrest.2]
    omega

theorem string?_length {cs : List Char} {text : Option String} {rest : List Char}
    (h : string? cs = some (text, rest)) : rest.length < cs.length := by
  simp only [string?, Option.bind_eq_bind, Option.bind_eq_some_iff, Option.pure_def] at h
  obtain ⟨⟨pieces, r⟩, hr, hrest⟩ := h
  have := pieces?_length hr
  simp at hrest
  simpa [← hrest.2] using this

theorem whole?_length {cs found rest : List Char} (h : whole? cs = some (found, rest)) :
    rest.length < cs.length := by
  unfold whole? at h
  split at h
  · simp at h
  · simp at h
  · next hne _ =>
    have hd : digits cs = (found, rest) := Option.some.inj h
    have hdigits : (digits cs).1 ≠ [] := fun hnil => hne (digits cs).2 (by rw [← hnil])
    simpa [hd] using digits_length_lt hdigits

theorem fraction?_length {cs found rest : List Char} (h : fraction? cs = some (found, rest)) :
    rest.length ≤ cs.length := by
  unfold fraction? at h
  split at h
  · next cs =>
    split at h
    · simp at h
    · have hd : digits cs = (found, rest) := Option.some.inj h
      have := digits_length_le cs
      simp only [hd] at this
      simp only [List.length_cons]
      omega
  · simp at h
    simp [← h.2]

theorem exponentDigits?_length {negative : Bool} {cs rest : List Char} {value : Option Int}
    (h : exponentDigits? negative cs = some (value, rest)) : rest.length ≤ cs.length := by
  unfold exponentDigits? at h
  split at h
  · simp at h
  · next hd =>
    simp at h
    have := digits_length_le cs
    rw [hd] at this
    simpa [← h.2] using this

theorem exponent?_length {cs rest : List Char} {value : Option Int}
    (h : exponent? cs = some (value, rest)) : rest.length ≤ cs.length := by
  unfold exponent? at h
  split at h
  · split at h
    · split at h
      all_goals
        have := exponentDigits?_length h
        simp only [List.length_cons] at *
        omega
    · simp at h
      simp [← h.2]
  · simp at h
    simp [← h.2]

theorem number?_length {negative : Bool} {cs rest : List Char} {value : Option Number}
    (h : number? negative cs = some (value, rest)) : rest.length < cs.length := by
  simp only [number?, Option.bind_eq_bind, Option.bind_eq_some_iff, Option.pure_def] at h
  obtain ⟨⟨w, r₁⟩, h₁, ⟨f, r₂⟩, h₂, ⟨e, r₃⟩, h₃, h₄⟩ := h
  have := whole?_length h₁
  have := fraction?_length h₂
  have := exponent?_length h₃
  simp at h₄
  simp only [← h₄.2] at *
  omega

/-- A scalar takes up at least one character of the text. -/
theorem scalar?_length {cs rest : List Char} {value : Option Scalar}
    (h : scalar? cs = some (value, rest)) : rest.length < cs.length := by
  unfold scalar? at h
  split at h
  · simp at h; simp [← h.2]; omega
  · simp at h; simp [← h.2]; omega
  · simp at h; simp [← h.2]; omega
  · simp only [Option.map_eq_some_iff] at h
    obtain ⟨⟨text, r⟩, hr, hrest⟩ := h
    have := string?_length hr
    simp at hrest
    simp only [← hrest.2, List.length_cons]
    omega
  · simp only [Option.map_eq_some_iff] at h
    obtain ⟨⟨n, r⟩, hr, hrest⟩ := h
    have := number?_length hr
    simp at hrest
    simp only [← hrest.2, List.length_cons]
    omega
  · simp only [Option.map_eq_some_iff] at h
    obtain ⟨⟨n, r⟩, hr, hrest⟩ := h
    have := number?_length hr
    simp at hrest
    simpa only [← hrest.2] using this

end SyntaxLint.Lexeme
