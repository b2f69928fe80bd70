import Mathlib
import SyntaxLint.Json.Lexeme

/-!
# Written scalars are scanned back

What the compact form writes for a string or for a natural number of 64 bits is scanned as that string
or number, and the scanner stops where the scalar ends (`Lexeme.scalar?_stringChars`,
`Lexeme.scalar?_toDigits`).

A string ends at its quote, whatever follows it.  A number has no such end: it is over where no
character that could prolong it follows.  In a compact text that is so, because after a value comes
a comma, a closing bracket or brace, or nothing (`Delimited`).
-/

namespace SyntaxLint

/-- What may follow a value in a compact text. -/
def Delimited (rest : List Char) : Prop :=
  ∀ c ∈ rest.head?, c = ',' ∨ c = ']' ∨ c = '\x7d'

lemma delimited_nil : Delimited [] := by
  simp [Delimited]

lemma delimited_cons {c : Char} (rest : List Char) (h : c = ',' ∨ c = ']' ∨ c = '\x7d') :
    Delimited (c :: rest) := by
  simpa [Delimited] using h

namespace Lexeme

/-! ## Strings -/

section Pieces

variable (cs : List Char)

lemma pieces?_escape {letter c : Char} (h : shortEscape? letter = some c) (hu : letter ≠ 'u') :
    pieces? ('\\' :: letter :: cs) =
      (pieces? cs).map fun found => (.char c :: found.1, found.2) := by
  rw [pieces?]
  · simp only [Char.reduceEq, if_false, if_true, h]
    cases pieces? cs <;> rfl
  · intro h₁ h₂ h₃ h₄ cs' hletter
    exact absurd hletter hu

lemma pieces?_unit {h₁ h₂ h₃ h₄ : Char} {code : Nat} (h : hexUnit? h₁ h₂ h₃ h₄ = some code) :
    pieces? ('\\' :: 'u' :: h₁ :: h₂ :: h₃ :: h₄ :: cs) =
      (pieces? cs).map fun found => (.unit code :: found.1, found.2) := by
  rw [pieces?]
  simp only [Char.reduceEq, if_false, if_true, h]
  cases pieces? cs <;> rfl

lemma pieces?_plain {c : Char} (hquote : c ≠ '"') (hslash : c ≠ '\\') (hc : ¬ c.toNat < 0x20) :
    pieces? (c :: cs) = (pieces? cs).map fun found => (.char c :: found.1, found.2) := by
  rw [pieces?.eq_def]
  simp only [hquote, hslash, hc, if_false]
  cases pieces? cs <;> rfl

end Pieces

lemma chars?_unit_of_lt {code : Nat} (h : code < 0x20) (pieces : List Piece) :
    chars? (.unit code :: pieces) = (chars? pieces).map (Char.ofNat code :: ·) := by
  have hhigh : isHighHalf code = false := by simp [isHighHalf]; omega
  have hlow : isLowHalf code = false := by simp [isLowHalf]; omega
  rw [chars?.eq_def]
  simp [hhigh, hlow]

lemma hexUnit?_hexPair : ∀ n < 0x20,
    hexUnit? '0' '0' (Nat.digitChar (n / 16)) (Nat.digitChar (n % 16)) = some n := by
  decide

/-- Each character of a text is written as one piece, which stands for that character again. -/
lemma exists_piece (c : Char) :
    ∃ piece, (∀ cs, pieces? (Json.stringChar c ++ cs) =
        (pieces? cs).map fun found => (piece :: found.1, found.2)) ∧
      ∀ pieces, chars? (piece :: pieces) = (chars? pieces).map (c :: ·) := by
  by_cases hshort : ∃ letter, shortEscape? letter = some c ∧ letter ≠ 'u' ∧
      Json.stringChar c = ['\\', letter]
  · obtain ⟨letter, hletter, hu, hchar⟩ := hshort
    refine ⟨.char c, fun cs => ?_, fun pieces => rfl⟩
    rw [hchar]
    exact pieces?_escape cs hletter hu
  · -- The characters with a short escape are the seven that are written so.
    have hne : ∀ d letter, shortEscape? letter = some d → letter ≠ 'u' →
        Json.stringChar d = ['\\', letter] → c ≠ d := by
      rintro d letter hletter hu hchar rfl
      exact hshort ⟨letter, hletter, hu, hchar⟩
    have hquote := hne '"' '"' (by decide) (by decide) (by decide)
    have hslash := hne '\\' '\\' (by decide) (by decide) (by decide)
    have hwritten : Json.stringChar c =
        if c.toNat < 0x20 then ['\\', 'u', '0', '0'] ++ Json.hexPair c.toNat else [c] := by
      rw [Json.stringChar, if_neg hquote, if_neg hslash,
        if_neg (hne '\x08' 'b' (by decide) (by decide) (by decide)),
        if_neg (hne '\x0c' 'f' (by decide) (by decide) (by decide)),
        if_neg (hne '\n' 'n' (by decide) (by decide) (by decide)),
        if_neg (hne '\r' 'r' (by decide) (by decide) (by decide)),
        if_neg (hne '\t' 't' (by decide) (by decide) (by decide))]
    rw [hwritten]
    by_cases hcontrol : c.toNat < 0x20
    · refine ⟨.unit c.toNat, fun cs => ?_, fun pieces => ?_⟩
      · rw [if_pos hcontrol]
        exact pieces?_unit cs (hexUnit?_hexPair c.toNat hcontrol)
      · rw [chars?_unit_of_lt hcontrol, Char.ofNat_toNat]
    · refine ⟨.char c, fun cs => ?_, fun pieces => rfl⟩
      rw [if_neg hcontrol]
      exact pieces?_plain cs hquote hslash hcontrol

lemma exists_pieces (text rest : List Char) :
    ∃ pieces, pieces? (text.flatMap Json.stringChar ++ '"' :: rest) = some (pieces, rest) ∧
      chars? pieces = some text := by
  induction text with
  | nil => exact ⟨[], by rw [pieces?.eq_def]; rfl, rfl⟩
  | cons c text ih =>
    obtain ⟨pieces, hpieces, hchars⟩ := ih
    obtain ⟨piece, hpiece, hchar⟩ := exists_piece c
    refine ⟨piece :: pieces, ?_, by rw [hchar, hchars, Option.map_some]⟩
    rw [List.flatMap_cons, List.append_assoc, hpiece, hpieces, Option.map_some]

/-- A text between its quotes is scanned as that text. -/
lemma string?_of_stringChars (text : String) (rest : List Char) :
    string? (text.toList.flatMap Json.stringChar ++ '"' :: rest) = some (some text, rest) := by
  obtain ⟨pieces, hpieces, hchars⟩ := exists_pieces text.toList rest
  simp [string?, hpieces, hchars]

lemma scalar?_stringChars (text : String) (rest : List Char) :
    scalar? (Json.stringChars text ++ rest) = some (some (.string text), rest) := by
  have hstring := string?_of_stringChars text rest
  simp [Json.stringChars, scalar?, hstring]

/-! ## Natural numbers -/

lemma digits_append {found rest : List Char} (hfound : ∀ c ∈ found, c.isDigit = true)
    (hrest : Delimited rest) : digits (found ++ rest) = (found, rest) := by
  have hstop : ∀ c ∈ rest.head?, c.isDigit = false := by
    intro c hc
    rcases hrest c hc with rfl | rfl | rfl <;> decide
  rw [digits, List.takeWhile_append_of_pos hfound, List.dropWhile_append_of_pos hfound]
  cases rest with
  | nil => simp
  | cons c rest => simp [hstop c rfl]

/-- A number is written with at least one digit. -/
lemma exists_cons_toDigits (n : Nat) :
    ∃ d ds, Nat.toDigits 10 n = d :: ds ∧ d.isDigit = true := by
  obtain ⟨d, ds, hdigits⟩ := List.exists_cons_of_ne_nil (Nat.toDigits_ne_nil (b := 10) (n := n))
  have hd : d ∈ Nat.toDigits 10 n := by simp [hdigits]
  exact ⟨d, ds, hdigits, Nat.isDigit_of_mem_toDigits (by decide) (by decide) hd⟩

/-- Only zero is written with a leading zero. -/
lemma head?_toDigits_ne_zero {n : Nat} (hn : 0 < n) : (Nat.toDigits 10 n).head? ≠ some '0' := by
  induction n using Nat.strongRecOn with
  | ind n ih =>
    rcases Nat.lt_or_ge n 10 with hlt | hge
    · rw [Nat.toDigits_of_lt_base hlt]
      interval_cases n <;> decide
    · rw [Nat.toDigits_of_base_le (by decide) hge,
        List.head?_append_of_ne_nil _ Nat.toDigits_ne_nil]
      exact ih (n / 10) (Nat.div_lt_self hn (by decide)) (Nat.div_pos hge (by decide))

lemma whole?_toDigits (n : Nat) {rest : List Char} (hrest : Delimited rest) :
    whole? (Nat.toDigits 10 n ++ rest) = some (Nat.toDigits 10 n, rest) := by
  have hdigits := digits_append
    (fun c hc => Nat.isDigit_of_mem_toDigits (by decide) (by decide) hc : ∀ c ∈ Nat.toDigits 10 n, _)
    hrest
  rw [whole?, hdigits]
  split
  · next hnil => exact absurd (Prod.mk.inj hnil).1 Nat.toDigits_ne_nil
  · next c cs _ hzero =>
    rcases Nat.eq_zero_or_pos n with rfl | hn
    · simp at hzero
    · refine absurd ?_ (head?_toDigits_ne_zero hn)
      rw [(Prod.mk.inj hzero).1]
      rfl
  · rfl

lemma fraction?_of_delimited {rest : List Char} (hrest : Delimited rest) :
    fraction? rest = some ([], rest) := by
  unfold fraction?
  split
  · have := hrest '.' rfl
    simp at this
  · rfl

lemma exponent?_of_delimited {rest : List Char} (hrest : Delimited rest) :
    exponent? rest = some (none, rest) := by
  cases rest with
  | nil => rfl
  | cons c rest =>
    have hc : ¬ (c = 'e' ∨ c = 'E') := by
      rcases hrest c rfl with rfl | rfl | rfl <;> decide
    exact if_neg hc

/-- The digits of a number of 64 bits are scanned as that number. -/
lemma number?_toDigits {n : Nat} (hn : n < UInt64.size) {rest : List Char} (hrest : Delimited rest) :
    number? false (Nat.toDigits 10 n ++ rest) = some (some (.integer n), rest) := by
  have hinteger : integer? false (Nat.toDigits 10 n) = some (n : Int) := by
    simp only [integer?, Nat.ofDigitChars_ten_toDigits, Bool.false_eq_true, if_false, if_pos hn]
  have hvalue : numberValue? false (Nat.toDigits 10 n) [] none = some (.integer n) := by
    simp only [numberValue?, hinteger]
  simp [number?, whole?_toDigits n hrest, fraction?_of_delimited hrest,
    exponent?_of_delimited hrest, hvalue]

lemma scalar?_toDigits {n : Nat} (hn : n < UInt64.size) {rest : List Char} (hrest : Delimited rest) :
    scalar? (Nat.toDigits 10 n ++ rest) = some (some (.number (.integer n)), rest) := by
  have hnumber := number?_toDigits hn hrest
  obtain ⟨d, ds, hdigits, hd⟩ := exists_cons_toDigits n
  rw [hdigits, List.cons_append] at hnumber ⊢
  -- A digit starts none of the other scalars.
  unfold scalar?
  split <;> simp_all

end Lexeme

end SyntaxLint
