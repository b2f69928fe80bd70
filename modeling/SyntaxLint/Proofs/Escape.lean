import Mathlib
import SyntaxLint.Text.Escape

/-!
# Escaped texts

Escaping loses nothing: what it writes is read back as the text it was written for
(`Text.unescapeChars_escapeChars`).  The other way round is different.  Reading takes every text, so
several texts may be read as the same one, and of these only one is what escaping writes.  For
instance a raw tab and its escape are both read as a tab, and so are a lone backslash and two of
them, each as a backslash.

`Text.WellEscaped` tells the written texts from the others without running either function: there
is no raw blank, and each backslash that opens an escape has its letter.  Which backslashes open an
escape is seen from the left only, because in a run of backslashes every second one is the letter
of the one before it.

Both functions handle a text one escape at a time, and the four letters are assigned to the four
characters one to one (`Text.escapeLetter?_eq_some_iff`), so each fact is carried through a text by
one step for an escape and one for a character that stands for itself.
-/

namespace SyntaxLint.Text

/-- The characters that are never written as they are. -/
def rawBlanks : List Char := ['\n', '\r', '\t']

/-- The letters of the escapes. -/
def escapeLetters : List Char := ['\\', 'n', 'r', 't']

/-- Whether each backslash that opens an escape has a letter of an escape after it.  The text is
read from the left, and the letter of an escape opens no other escape, not even if it is a
backslash. -/
def escapesHaveLetters : List Char → Bool
  | [] => true
  | [c] => c ≠ '\\'
  | c :: d :: cs =>
    if c = '\\' then d ∈ escapeLetters && escapesHaveLetters cs else escapesHaveLetters (d :: cs)

/-- A text with its blanks escaped: there is none left, and every backslash is part of an
escape. -/
structure WellEscaped (text : List Char) : Prop where
  no_blank : ∀ c ∈ text, c ∉ rawBlanks
  have_letters : escapesHaveLetters text = true

instance (text : List Char) : Decidable (WellEscaped text) :=
  decidable_of_iff (text.all (· ∉ rawBlanks) = true ∧ escapesHaveLetters text = true)
    ⟨fun h => ⟨by simpa using h.1, h.2⟩, fun h => ⟨by simpa using h.no_blank, h.have_letters⟩⟩

/-! ## Letters -/

/-- Letters and the characters they name belong together one to one. -/
lemma escapeLetter?_eq_some_iff {c letter : Char} :
    escapeLetter? c = some letter ↔ escapedBy? letter = some c := by
  unfold escapeLetter? escapedBy?
  constructor
  · intro h
    split_ifs at h <;> obtain rfl := Option.some.inj h <;> simp_all
  · intro h
    split_ifs at h <;> obtain rfl := Option.some.inj h <;> simp_all

lemma escapeLetter?_eq_none_iff {c : Char} :
    escapeLetter? c = none ↔ c ≠ '\\' ∧ c ∉ rawBlanks := by
  unfold escapeLetter?
  split_ifs <;> simp_all [rawBlanks]

/-- The letters of the escapes are those that name a character. -/
lemma mem_escapeLetters_iff {letter : Char} :
    letter ∈ escapeLetters ↔ ∃ c, escapeLetter? c = some letter := by
  simp only [escapeLetter?_eq_some_iff]
  unfold escapedBy?
  split_ifs <;> simp_all [escapeLetters]

lemma not_mem_rawBlanks_of_mem_escapeLetters {letter : Char} (h : letter ∈ escapeLetters) :
    letter ∉ rawBlanks := by
  simp only [escapeLetters, List.mem_cons, List.not_mem_nil, or_false] at h
  rcases h with rfl | rfl | rfl | rfl <;> decide

/-! ## One step -/

section Step

variable {c letter : Char} (cs : List Char)

lemma escapeChars_of_letter (h : escapeLetter? c = some letter) :
    escapeChars (c :: cs) = '\\' :: letter :: escapeChars cs := by
  rw [escapeChars, h]

lemma escapeChars_of_no_letter (h : escapeLetter? c = none) :
    escapeChars (c :: cs) = c :: escapeChars cs := by
  rw [escapeChars, h]

lemma unescapeChars_of_escapedBy (h : escapedBy? letter = some c) :
    unescapeChars ('\\' :: letter :: cs) = c :: unescapeChars cs := by
  rw [unescapeChars, if_pos rfl, h]

lemma unescapeChars_of_ne (h : c ≠ '\\') : unescapeChars (c :: cs) = c :: unescapeChars cs := by
  cases cs with
  | nil => rfl
  | cons d cs => rw [unescapeChars, if_neg h]

lemma escapesHaveLetters_of_letter (h : letter ∈ escapeLetters) :
    escapesHaveLetters ('\\' :: letter :: cs) = escapesHaveLetters cs := by
  simp [escapesHaveLetters, h]

lemma escapesHaveLetters_of_ne (h : c ≠ '\\') :
    escapesHaveLetters (c :: cs) = escapesHaveLetters cs := by
  cases cs with
  | nil => simp [escapesHaveLetters, h]
  | cons d cs => rw [escapesHaveLetters, if_neg h]

end Step

/-! ## Whole texts -/

/-- Escapes are read back. -/
lemma unescapeChars_escapeChars (text : List Char) : unescapeChars (escapeChars text) = text := by
  induction text with
  | nil => rfl
  | cons c cs ih =>
    cases hletter : escapeLetter? c with
    | some letter =>
      rw [escapeChars_of_letter cs hletter,
        unescapeChars_of_escapedBy _ (escapeLetter?_eq_some_iff.1 hletter), ih]
    | none =>
      obtain ⟨hc, -⟩ := escapeLetter?_eq_none_iff.1 hletter
      rw [escapeChars_of_no_letter cs hletter, unescapeChars_of_ne _ hc, ih]

/-- What escaping writes is well escaped. -/
lemma wellEscaped_escapeChars (text : List Char) : WellEscaped (escapeChars text) := by
  induction text with
  | nil => exact ⟨by simp, rfl⟩
  | cons c cs ih =>
    cases hletter : escapeLetter? c with
    | some letter =>
      have hmem : letter ∈ escapeLetters := mem_escapeLetters_iff.2 ⟨c, hletter⟩
      rw [escapeChars_of_letter cs hletter]
      refine ⟨?_, (escapesHaveLetters_of_letter _ hmem).trans ih.have_letters⟩
      rw [List.forall_mem_cons, List.forall_mem_cons]
      exact ⟨by decide, not_mem_rawBlanks_of_mem_escapeLetters hmem, ih.no_blank⟩
    | none =>
      obtain ⟨hc, hblank⟩ := escapeLetter?_eq_none_iff.1 hletter
      rw [escapeChars_of_no_letter cs hletter]
      refine ⟨?_, (escapesHaveLetters_of_ne _ hc).trans ih.have_letters⟩
      rw [List.forall_mem_cons]
      exact ⟨hblank, ih.no_blank⟩

/-- A well-escaped text is written again as it was read. -/
lemma WellEscaped.escapeChars_unescapeChars {text : List Char} (h : WellEscaped text) :
    escapeChars (unescapeChars text) = text := by
  obtain ⟨hblank, hletters⟩ := h
  -- The induction follows the scan: an escape is one step, and so is any other character.
  fun_induction escapesHaveLetters text with
  | case1 => rfl
  | case2 c =>
    have hplain : escapeLetter? c = none :=
      escapeLetter?_eq_none_iff.2 ⟨by simpa using hletters, hblank c (by simp)⟩
    rw [unescapeChars, escapeChars_of_no_letter _ hplain, escapeChars_nil]
  | case3 d cs ih =>
    rw [Bool.and_eq_true, decide_eq_true_eq] at hletters
    obtain ⟨c, hc⟩ := mem_escapeLetters_iff.1 hletters.1
    rw [unescapeChars_of_escapedBy cs (escapeLetter?_eq_some_iff.1 hc),
      escapeChars_of_letter _ hc, ih (fun e he => hblank e (by simp [he])) hletters.2]
  | case4 c d cs hc ih =>
    rw [List.forall_mem_cons] at hblank
    have hplain : escapeLetter? c = none := escapeLetter?_eq_none_iff.2 ⟨hc, hblank.1⟩
    rw [unescapeChars_of_ne _ hc, escapeChars_of_no_letter _ hplain, ih hblank.2 hletters]

/-- The well-escaped texts are those that escaping writes. -/
lemma exists_escapeChars_eq_iff {text : List Char} :
    (∃ source, escapeChars source = text) ↔ WellEscaped text := by
  constructor
  · rintro ⟨source, rfl⟩
    exact wellEscaped_escapeChars source
  · intro h
    exact ⟨unescapeChars text, h.escapeChars_unescapeChars⟩

/-- Different texts are escaped differently. -/
lemma escapeChars_injective : Function.Injective escapeChars :=
  Function.LeftInverse.injective unescapeChars_escapeChars

/-- **Escaping and reading back, in both orders.**  Every text is read back from its escaped form.
A text is written again as it was read exactly if it is well escaped, and the well-escaped texts are
exactly those that escaping writes. -/
theorem escape_and_unescape_round_trips :
    (∀ text, unescape (escape text) = text) ∧
      ∀ text, (escape (unescape text) = text ↔ WellEscaped text.toList) ∧
        ((∃ source, escape source = text) ↔ WellEscaped text.toList) := by
  have hescape : ∀ source text : String,
      escape source = text ↔ escapeChars source.toList = text.toList := by
    intro source text
    rw [← String.toList_inj, escape, String.toList_ofList]
  refine ⟨fun text => ?_, fun text => ⟨?_, ?_⟩⟩
  · rw [unescape, escape, String.toList_ofList, unescapeChars_escapeChars, String.ofList_toList]
  · rw [hescape, unescape, String.toList_ofList]
    exact ⟨fun h => h ▸ wellEscaped_escapeChars _, fun h => h.escapeChars_unescapeChars⟩
  · rw [← exists_escapeChars_eq_iff]
    constructor
    · rintro ⟨source, hsource⟩
      exact ⟨source.toList, (hescape source text).1 hsource⟩
    · rintro ⟨source, hsource⟩
      exact ⟨String.ofList source, (hescape _ text).2 (by rwa [String.toList_ofList])⟩

/-- In a run of backslashes every second one is a letter, so what counts is where the run starts. -/
example : WellEscaped ['\\', '\\', '\\', 'n'] ∧ ¬ WellEscaped ['\\', '\\', '\\', 'q'] ∧
    WellEscaped ['\\', '\\', 'q'] ∧ ¬ WellEscaped ['\\', '\\', '\\'] := by
  decide

end SyntaxLint.Text
