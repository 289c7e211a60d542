import Taskboard.Json.Reader
import Taskboard.Json.Writer
import Taskboard.Proofs.Number.Decimal
import Taskboard.Proofs.Number.Hexadecimal

/-! Reading the leaves of a JSON text: texts, words and whole numbers. A character of a text may be spelled in several
    ways (`Stands`); all of them are read as the character. Each reader leaves what stands behind the leaf. -/

namespace Taskboard
namespace Json

/-! ### Texts -/

/-- The letters that stand behind a backslash, each with the character it means. -/
def letters : List (Char × Char) :=
  [('"', '"'), ('\\', '\\'), ('/', '/'), ('b', '\x08'), ('f', '\x0c'), ('n', '\n'), ('r', '\r'), ('t', '\t')]

/-- The UTF-16 code units of a character. -/
def codeUnits (c : Char) : List Nat :=
  if c.toNat < 0x10000 then [c.toNat]
  else [0xD800 + (c.toNat - 0x10000) / 0x400, 0xDC00 + (c.toNat - 0x10000) % 0x400]

/-- What may stand for a character: itself, a letter behind a backslash, or its code units, each of them in four
    hexadecimal digits behind `\u`. -/
inductive Stands (c : Char) : List Char → Prop
  | self (hquote : c ≠ '"') (hslash : c ≠ '\\') (hc : 0x20 ≤ c.toNat) : Stands c [c]
  | letter {x : Char} (h : (x, c) ∈ letters) : Stands c ['\\', x]
  | units {digits : List (List Char)} (h : List.Forall₂ (Numeral.Hexadecimal 4) (codeUnits c) digits) :
    Stands c (digits.flatMap (['\\', 'u'] ++ ·))

/-- A text between its quotes. -/
def Quotes (s t : List Char) : Prop := ∃ parts, List.Forall₂ Stands s parts ∧ t = '"' :: (parts.flatten ++ ['"'])

section Texts
variable {c : Char} {s t p : List Char}

theorem letters_read : ∀ p ∈ letters, p.1 ≠ 'u' ∧ letter? p.1 = some p.2 :=
  List.forall_iff_forall_mem.mp (by decide)

theorem unit?_of_hexadecimal {n : Nat} (h : Numeral.Hexadecimal 4 n s) :
    ∃ a b c d, s = [a, b, c, d] ∧ unit? a b c d = some n := by
  obtain ⟨hlength, ds, hds, hvalue⟩ := h
  obtain ⟨a, b, c, d, rfl⟩ := List.length_eq_four.mp hlength
  rcases Text.mapM_eq_some_iff.mp hds with _ | ⟨ha, _ | ⟨hb, _ | ⟨hc, _ | ⟨hd, _ | _⟩⟩⟩⟩
  refine ⟨a, b, c, d, rfl, ?_⟩
  simp only [unit?, ha, hb, hc, hd, Option.bind_eq_bind, Option.bind_some, Option.pure_def, ← hvalue,
    Numeral.ofDigits, List.foldl_cons, List.foldl_nil, Nat.zero_mul, Nat.zero_add]

theorem isHighSurrogate_iff {n : Nat} : isHighSurrogate n = true ↔ 0xD800 ≤ n ∧ n < 0xDC00 := by
  simp [isHighSurrogate]

theorem isLowSurrogate_iff {n : Nat} : isLowSurrogate n = true ↔ 0xDC00 ≤ n ∧ n < 0xE000 := by
  simp [isLowSurrogate]

/-- No character is half of a surrogate pair. -/
theorem toNat_cases (c : Char) : c.toNat < 0xD800 ∨ 0xDFFF < c.toNat ∧ c.toNat < 0x110000 := c.valid

/-- A character has one code unit, or two that make a surrogate pair. -/
theorem codeUnits_cases (c : Char) : codeUnits c = [c.toNat] ∨
    ∃ high low, codeUnits c = [high, low] ∧ isHighSurrogate high = true ∧ isLowSurrogate low = true ∧
      0x10000 + (high - 0xD800) * 0x400 + (low - 0xDC00) = c.toNat := by
  have hc := toNat_cases c
  unfold codeUnits
  split
  · exact .inl rfl
  · refine .inr ⟨_, _, rfl, ?_, ?_, ?_⟩
    · rw [isHighSurrogate_iff]
      omega
    · rw [isLowSurrogate_iff]
      omega
    · omega

theorem readChars_self (hquote : c ≠ '"') (hslash : c ≠ '\\') (hc : 0x20 ≤ c.toNat) (rest : List Char) :
    readChars (c :: rest) = (readChars rest).map fun (s, r) => (c :: s, r) := by
  rw [readChars]
  · rw [if_neg (by simp only [hslash, false_or]; omega)]
  · exact fun h => absurd h hquote
  · exact fun _ _ _ _ _ h => absurd h hslash
  · exact fun _ _ h => absurd h hslash

theorem readChars_letter {x : Char} (hu : x ≠ 'u') (hx : letter? x = some c) (rest : List Char) :
    readChars ('\\' :: x :: rest) = (readChars rest).map fun (s, r) => (c :: s, r) := by
  rw [readChars]
  · rw [hx]
  · intro a b c' d rest' h
    exact absurd h hu

/-- A character of one code unit. -/
theorem readChars_unit (h : Numeral.Hexadecimal 4 c.toNat s) (rest : List Char) :
    readChars ('\\' :: 'u' :: (s ++ rest)) = (readChars rest).map fun (s, r) => (c :: s, r) := by
  obtain ⟨a, b, x, d, rfl, hunit⟩ := unit?_of_hexadecimal h
  have hc := toNat_cases c
  have hhigh : ¬isHighSurrogate c.toNat = true := by rw [isHighSurrogate_iff]; omega
  have hlow : ¬isLowSurrogate c.toNat = true := by rw [isLowSurrogate_iff]; omega
  simp only [List.cons_append, List.nil_append, readChars, hunit, hhigh, hlow, Bool.false_eq_true, if_false,
    Char.ofNat_toNat]

/-- A character of two code units. -/
theorem readChars_pair {high low : Nat} (hs : Numeral.Hexadecimal 4 high s) (ht : Numeral.Hexadecimal 4 low t)
    (hhigh : isHighSurrogate high = true) (hlow : isLowSurrogate low = true)
    (hc : 0x10000 + (high - 0xD800) * 0x400 + (low - 0xDC00) = c.toNat) (rest : List Char) :
    readChars ('\\' :: 'u' :: (s ++ ('\\' :: 'u' :: (t ++ rest)))) =
      (readChars rest).map fun (s, r) => (c :: s, r) := by
  obtain ⟨a, b, x, d, rfl, hunit⟩ := unit?_of_hexadecimal hs
  obtain ⟨a', b', x', d', rfl, hunit'⟩ := unit?_of_hexadecimal ht
  simp only [List.cons_append, List.nil_append, readChars, hunit, hunit', hhigh, hlow, if_true, hc, Char.ofNat_toNat]

/-- However a character is spelled, it is read as itself. -/
theorem Stands.read (h : Stands c p) (rest : List Char) :
    readChars (p ++ rest) = (readChars rest).map fun (s, r) => (c :: s, r) := by
  cases h with
  | self hquote hslash hc => exact readChars_self hquote hslash hc rest
  | letter h =>
    obtain ⟨hu, hx⟩ := letters_read _ h
    exact readChars_letter hu hx rest
  | units h =>
    rcases codeUnits_cases c with heq | ⟨high, low, heq, hhigh, hlow, hc⟩
    · rw [heq] at h
      rcases h with _ | ⟨hs, _ | _⟩
      simpa using readChars_unit hs rest
    · rw [heq] at h
      rcases h with _ | ⟨hs, _ | ⟨ht, _ | _⟩⟩
      simpa using readChars_pair hs ht hhigh hlow hc rest

/-- A text is read up to the quote that ends it. -/
theorem Quotes.read (h : Quotes s t) : ∃ u, t = '"' :: u ∧ ∀ rest, readChars (u ++ rest) = some (s, rest) := by
  obtain ⟨parts, hparts, rfl⟩ := h
  refine ⟨_, rfl, fun rest => ?_⟩
  rw [List.append_assoc]
  induction hparts with
  | nil => rfl
  | cons hpart _ ih => rw [List.flatten_cons, List.append_assoc, hpart.read, ih, Option.map_some]

/-- An escaped character stands for the character. -/
theorem stands_escape (c : Char) : Stands c (escape c) := by
  unfold escape
  iterate 7
    split
    next h => exact .letter (by rw [h]; decide)
  split
  next h =>
    have hunits : codeUnits c = [c.toNat] := if_pos (by omega)
    have hdigits : Numeral.Hexadecimal 4 c.toNat (Text.hexDigits 4 c.toNat) := Numeral.hexadecimal_hexDigits (by omega)
    have hstands : Stands c ([Text.hexDigits 4 c.toNat].flatMap (['\\', 'u'] ++ ·)) :=
      .units (hunits ▸ .cons hdigits .nil)
    simpa using hstands
  next hquote hslash _ _ _ _ _ hc => exact .self hquote hslash (Nat.not_lt.mp hc)

theorem quotes_quote (s : List Char) : Quotes s (quote s) := by
  refine ⟨s.map escape, ?_, by rw [quote, List.flatMap_def]⟩
  rw [List.forall₂_map_right_iff]
  exact List.forall₂_same.mpr fun c _ => stands_escape c

end Texts

/-! ### Numbers and words -/

/-- A text that does not go on with a number that stands before it. -/
def Ends (rest : List Char) : Prop := ∀ c, rest.head? = some c → c.isDigit = false ∧ c ≠ '.' ∧ c ≠ 'e' ∧ c ≠ 'E'

theorem Ends.nil : Ends [] := fun _ h => nomatch h

theorem Ends.cons {c : Char} (h : c.isDigit = false ∧ c ≠ '.' ∧ c ≠ 'e' ∧ c ≠ 'E') (rest : List Char) :
    Ends (c :: rest) := fun _ hd => Option.some.inj hd ▸ h

section Numbers
open Numeral
variable {ds rest : List Char}

theorem readDigits_append (h : IsPlain ds) (hrest : Ends rest) : readDigits (ds ++ rest) = (ds, rest) := by
  have hstop : rest.takeWhile Char.isDigit = [] ∧ rest.dropWhile Char.isDigit = rest := by
    cases rest with
    | nil => exact ⟨rfl, rfl⟩
    | cons c cs =>
      have hc : ¬c.isDigit = true := by rw [(hrest c rfl).1]; exact Bool.false_ne_true
      exact ⟨List.takeWhile_cons_of_neg hc, List.dropWhile_cons_of_neg hc⟩
  rw [readDigits, List.span_eq_takeWhile_dropWhile, List.takeWhile_append_of_pos h.isDigit,
    List.dropWhile_append_of_pos h.isDigit, hstop.1, hstop.2, List.append_nil]

theorem readFraction_of_ends (hrest : Ends rest) : readFraction rest = some ([], rest) := by
  cases rest with
  | nil => rfl
  | cons c cs =>
    unfold readFraction
    split
    · next heq => exact absurd (List.cons.inj heq).1 (hrest c rfl).2.1
    · rfl

theorem readExponent_of_ends (hrest : Ends rest) : readExponent rest = some (none, rest) := by
  cases rest with
  | nil => rfl
  | cons c cs =>
    obtain ⟨-, -, he, hE⟩ := hrest c rfl
    unfold readExponent
    exact if_neg (not_or.mpr ⟨he, hE⟩)

theorem readMagnitude_append (negative : Bool) (h : IsPlain ds) (hlen : ds.length ≤ maxDigits) (hrest : Ends rest) :
    readMagnitude negative (ds ++ rest) = some (.int (if negative then -(natOf ds : Int) else natOf ds), rest) := by
  have hguard : ds ≠ [] ∧ (ds.head? ≠ some '0' ∨ ds.length = 1) ∧ ds.length ≤ maxDigits :=
    ⟨h.ne_nil, Decidable.not_or_of_imp h.head, hlen⟩
  simp only [readMagnitude, readDigits_append h hrest, guard, if_pos hguard, readFraction_of_ends hrest,
    readExponent_of_ends hrest, Option.bind_eq_bind, Option.pure_def, Option.bind_some, and_self, ↓reduceIte]

theorem natOf_decimal (n : Nat) : natOf (decimal n) = n := ofDigits_decimal n

theorem after?_of_ne {c d : Char} {word s : List Char} (h : c ≠ d) : after? (c :: word) (d :: s) = none := if_neg h

theorem after?_infinity (h : IsPlain ds) : after? "Infinity".toList (ds ++ rest) = none := by
  obtain ⟨c, cs, rfl⟩ := List.exists_cons_of_ne_nil h.ne_nil
  have hc := h.isDigit c List.mem_cons_self
  exact after?_of_ne (by rintro rfl; revert hc; decide)

/-- A text that begins with no minus sign is read as a magnitude, unless it is a word. -/
theorem readNumber_of_ne {c : Char} {s : List Char} (hc : c ≠ '-') (hinf : after? "Infinity".toList (c :: s) = none) :
    readNumber (c :: s) = readMagnitude false (c :: s) := by
  unfold readNumber
  split
  next negative s' hmatch =>
    split at hmatch
    · next heq => exact absurd (List.cons.inj heq).1 hc
    · obtain ⟨rfl, rfl⟩ := Prod.mk.inj hmatch
      simp only [hinf]

theorem readNumber_ofInt {n : Int} (hn : n.natAbs < 10 ^ maxDigits) (hrest : Ends rest) :
    readNumber (ofInt n ++ rest) = some (.int n, rest) := by
  have hplain := isPlain_decimal n.natAbs
  have hread := fun negative => readMagnitude_append negative hplain (length_decimal_le hn) hrest
  rw [natOf_decimal] at hread
  have hinf : after? "Infinity".toList (decimal n.natAbs ++ rest) = none := after?_infinity hplain
  rcases ofInt_eq n with ⟨hsign, heq⟩ | ⟨hsign, heq⟩
  · obtain ⟨c, cs, hcons, hminus, -⟩ := hplain.exists_cons
    rw [hcons, List.cons_append] at hinf hread
    rw [heq, hcons, List.cons_append, readNumber_of_ne hminus hinf, hread, if_neg Bool.false_ne_true,
      Int.natAbs_of_nonneg hsign]
  · simp only [readNumber, heq, List.cons_append, hinf, hread, ↓reduceIte, Int.ofNat_natAbs_of_nonpos hsign.le,
      Int.neg_neg]

/-- A text that begins with no letter of a word is read as a number. -/
theorem readPlain_of_ne {c : Char} {s : List Char} (hnull : c ≠ 'n') (htrue : c ≠ 't') (hfalse : c ≠ 'f')
    (hnan : c ≠ 'N') : readPlain (c :: s) = readNumber (c :: s) := by
  have hn : after? "null".toList (c :: s) = none := after?_of_ne hnull.symm
  have ht : after? "true".toList (c :: s) = none := after?_of_ne htrue.symm
  have hf : after? "false".toList (c :: s) = none := after?_of_ne hfalse.symm
  have hN : after? "NaN".toList (c :: s) = none := after?_of_ne hnan.symm
  simp only [readPlain, hn, ht, hf, hN]

/-- A printed number begins with a digit or a minus sign. -/
theorem ofInt_eq_cons (n : Int) : ∃ c cs, ofInt n = c :: cs ∧ (c.isDigit = true ∨ c = '-') := by
  rcases ofInt_eq n with ⟨-, heq⟩ | ⟨-, heq⟩
  · obtain ⟨c, cs, hcons⟩ := List.exists_cons_of_ne_nil (isPlain_decimal n.natAbs).ne_nil
    refine ⟨c, cs, heq.trans hcons, Or.inl ?_⟩
    exact (isPlain_decimal n.natAbs).isDigit c (hcons ▸ List.mem_cons_self)
  · exact ⟨_, _, heq, Or.inr rfl⟩

/-- A character that a number begins with is no other one. -/
theorem ne_of_isDigit_or {c d : Char} (hc : c.isDigit = true ∨ c = '-') (hd : d.isDigit = false) (hminus : d ≠ '-') :
    c ≠ d := by
  rintro rfl
  rcases hc with hc | hc
  · rw [hd] at hc
    exact Bool.false_ne_true hc
  · exact hminus hc

/-- A whole number is read as itself. -/
theorem readPlain_ofInt {n : Int} (hn : n.natAbs < 10 ^ maxDigits) (hrest : Ends rest) :
    readPlain (ofInt n ++ rest) = some (.int n, rest) := by
  have hread := readNumber_ofInt hn hrest
  obtain ⟨c, cs, hcons, hc⟩ := ofInt_eq_cons n
  rw [hcons, List.cons_append] at hread ⊢
  rw [readPlain_of_ne (ne_of_isDigit_or hc (by decide) (by decide)) (ne_of_isDigit_or hc (by decide) (by decide))
    (ne_of_isDigit_or hc (by decide) (by decide)) (ne_of_isDigit_or hc (by decide) (by decide)), hread]

end Numbers

end Json
end Taskboard
