import Mathlib.Data.List.Forall2
import Mathlib.Tactic.IntervalCases
import Taskboard.Proofs.Number.Written
import Taskboard.Proofs.Text.Digit

/-! Numbers in plain hexadecimal digits. A text of ASCII digits and letters up to `f`, in either case, is read as the
    number that its digits denote, whatever else may stand in a number (`Numeral.read?_of_mapM`); and a number is
    written so exactly if nothing else does stand there (`Numeral.Written.hexadecimal_iff`). -/

namespace Taskboard
namespace Text
variable {value : Char → Option Nat} {c : Char} {s : List Char} {ds : List Nat}

/-- Characters and what each of them is worth. -/
theorem mapM_eq_some_iff : s.mapM value = some ds ↔ List.Forall₂ (fun c d => value c = some d) s ds := by
  induction s generalizing ds with
  | nil =>
    rw [List.mapM_nil, List.forall₂_nil_left_iff]
    exact Option.some_inj.trans eq_comm
  | cons c s ih =>
    rw [List.mapM_cons, List.forall₂_cons_left_iff]
    constructor
    · intro h
      obtain ⟨d, hd, h⟩ := Option.bind_eq_some_iff.mp h
      obtain ⟨ds', hds, h⟩ := Option.bind_eq_some_iff.mp h
      exact ⟨d, ds', hd, ih.mp hds, (Option.some.inj h).symm⟩
    · rintro ⟨d, ds', hd, hds, rfl⟩
      rw [hd, ih.mpr hds]
      rfl

/-- The hexadecimal digits. -/
def hexChars : List Char := "0123456789abcdefABCDEF".toList

theorem mem_hexChars {d : Nat} (h : hexDigit? c = some d) : c ∈ hexChars := by
  have hbetween {low high : Char} (hc : low ≤ c ∧ c ≤ high) : low.toNat ≤ c.toNat ∧ c.toNat ≤ high.toNat := hc
  unfold hexDigit? at h
  rw [(Char.ofNat_toNat c).symm]
  split at h
  next hc =>
    obtain ⟨hlow, hhigh⟩ : 48 ≤ c.toNat ∧ c.toNat ≤ 57 := hbetween hc
    interval_cases c.toNat <;> decide
  split at h
  next hc =>
    obtain ⟨hlow, hhigh⟩ : 97 ≤ c.toNat ∧ c.toNat ≤ 102 := hbetween hc
    interval_cases c.toNat <;> decide
  split at h
  next hc =>
    obtain ⟨hlow, hhigh⟩ : 65 ≤ c.toNat ∧ c.toNat ≤ 70 := hbetween hc
    interval_cases c.toNat <;> decide
  next => cases h

theorem mem_hexChars_of_mapM (h : s.mapM hexDigit? = some ds) : ∀ c ∈ s, c ∈ hexChars := by
  intro c hc
  induction mapM_eq_some_iff.mp h with
  | nil => cases hc
  | cons hd hds ih =>
    rcases List.mem_cons.mp hc with rfl | hc
    · exact mem_hexChars hd
    · exact ih (mapM_eq_some_iff.mpr hds) hc

theorem isBlank_of_mem_hexChars : ∀ c ∈ hexChars, isBlank c = false := List.forall_iff_forall_mem.mp (by decide)

/-- Signs, marks and separators are no digits. -/
theorem notMem_of_mem_hexChars : ∀ c ∈ hexChars, c ∉ "-+_xX,{}u".toList :=
  List.forall_iff_forall_mem.mp (by decide)

end Text

namespace Numeral
open Text
variable {value : Char → Option Nat} {s : List Char} {ds : List Nat}

/-- So many hexadecimal digits, in either case, that denote a number. -/
structure Hexadecimal (width n : Nat) (s : List Char) : Prop where
  length : s.length = width
  value : ∃ ds, s.mapM hexDigit? = some ds ∧ ofDigits 16 ds = n

theorem Hexadecimal.mem_hexChars {width n : Nat} (h : Hexadecimal width n s) : ∀ c ∈ s, c ∈ hexChars := by
  obtain ⟨ds, hds, -⟩ := h.value
  exact mem_hexChars_of_mapM hds

theorem hexadecimal_hexDigits {width n : Nat} (h : n < 16 ^ width) : Hexadecimal width n (hexDigits width n) := by
  obtain ⟨ds, hds, hvalue⟩ := mapM_hexDigits width n
  exact ⟨length_hexDigits width n, ds, hds, hvalue.trans (Nat.mod_eq_of_lt h)⟩

theorem digit?_of_mem_hexChars : ∀ c ∈ hexChars, digit? 16 c = hexDigit? c :=
  List.forall_iff_forall_mem.mp (by decide)

/-- Digits alone have nothing between them. -/
theorem spaced_of_mapM (hne : s ≠ []) (h : s.mapM value = some ds) : Spaced value s ds := by
  induction mapM_eq_some_iff.mp h with
  | nil => exact absurd rfl hne
  | @cons c d s ds hd hds ih =>
    cases hds with
    | nil => exact .last hd
    | @cons c' d' s ds hd' hds =>
      exact .next hd (ih (List.cons_ne_nil c' s) (mapM_eq_some_iff.mpr (.cons hd' hds)))

/-- Hexadecimal digits are one way to write the number that they denote. -/
theorem written_of_mapM (hne : s ≠ []) (h : s.mapM hexDigit? = some ds) : Written (ofDigits 16 ds) s := by
  have hvalue : s.mapM (digit? 16) = some ds := by
    refine mapM_eq_some_iff.mpr ((mapM_eq_some_iff.mp h).imp fun c d hd => ?_)
    rw [digit?_of_mem_hexChars c (mem_hexChars hd), hd]
  have hwritten : Written (ofDigits 16 ds) ([] ++ s ++ []) :=
    .plain nofun (.plain (spaced_of_mapM hne hvalue) rfl) nofun
  rwa [List.nil_append, List.append_nil] at hwritten

/-- Hexadecimal digits are read as the number that they denote. -/
theorem read?_of_mapM (hne : s ≠ []) (h : s.mapM hexDigit? = some ds) : read? 16 s = some (ofDigits 16 ds : Nat) :=
  read?_of_written (written_of_mapM hne h)

/-! ### Other ways to write a number -/

/-- What may stand in a number of base sixteen besides plain digits: white space, a plus sign, an underscore, the letter
    of a base mark, and the decimal digits of other scripts than ASCII. -/
def Foreign (c : Char) : Prop :=
  isWhiteSpace c = true ∨ c ∈ "+_xX".toList ∨ 0x80 ≤ c.toNat ∧ (decimalDigit? c).isSome

instance (c : Char) : Decidable (Foreign c) := inferInstanceAs (Decidable (_ ∨ _ ∨ _ ∧ _))

theorem not_foreign_of_mem_hexChars : ∀ c ∈ hexChars, ¬Foreign c := List.forall_iff_forall_mem.mp (by decide)

/-- The digits of a script stand behind its nought, and ASCII has one nought. -/
theorem mem_hexChars_or_of_decimalDigit? {c : Char} {d : Nat} (h : decimalDigit? c = some d) :
    c ∈ hexChars ∨ 0x80 ≤ c.toNat := by
  obtain ⟨z, hfind, -⟩ := Option.map_eq_some_iff.mp h
  have hbounds : z ≤ c.toNat ∧ c.toNat < z + 10 := by simpa using List.find?_some hfind
  have hzero : z = 0x30 ∨ 0x80 ≤ z :=
    (List.forall_iff_forall_mem.mp (by decide) : ∀ z ∈ zeros, z = 0x30 ∨ 0x80 ≤ z) z (List.mem_of_find?_eq_some hfind)
  obtain ⟨hlow, hhigh⟩ := hbounds
  rcases hzero with rfl | hz
  · left
    rw [← Char.ofNat_toNat c]
    interval_cases c.toNat <;> decide
  · exact .inr (hz.trans hlow)

theorem digit?_cases {c : Char} (h : (digit? 16 c).isSome) : c ∈ hexChars ∨ Foreign c := by
  unfold digit? at h
  split at h
  next d hd =>
    exact (mem_hexChars_or_of_decimalDigit? hd).imp_right fun hc => .inr (.inr ⟨hc, by rw [hd]; rfl⟩)
  next =>
    obtain ⟨d, hd⟩ := Option.isSome_iff_exists.mp h
    exact .inl (mem_hexChars (Option.filter_eq_some_iff.mp hd).1)

theorem Marked.mem_cases {n : Nat} {c : Char} (h : Marked n s) (hc : c ∈ s) : c ∈ hexChars ∨ Foreign c := by
  rcases h.mem hc with hdigit | hmark
  · exact digit?_cases hdigit
  · exact .inr (.inr (.inl (List.mem_cons_of_mem '+' hmark)))

theorem Written.mem_cases {n : Nat} {c : Char} (h : Written n s) (hc : c ∈ s) : c ∈ hexChars ∨ Foreign c := by
  obtain ⟨core, hmarked, -, hmem⟩ := h.exists_marked
  rcases hmem c hc with hblank | rfl | hcore
  · exact .inr (.inl hblank)
  · exact .inr (.inr (.inl List.mem_cons_self))
  · exact hmarked.mem_cases hcore

theorem exists_mapM (h : ∀ c ∈ s, c ∈ hexChars) : ∃ ds, s.mapM hexDigit? = some ds := by
  induction s with
  | nil => exact ⟨[], rfl⟩
  | cons c s ih =>
    obtain ⟨hc, hs⟩ := List.forall_mem_cons.mp h
    obtain ⟨ds, hds⟩ := ih hs
    have hvalue : (hexDigit? c).isSome :=
      (List.forall_iff_forall_mem.mp (by decide) : ∀ c ∈ hexChars, (hexDigit? c).isSome) c hc
    obtain ⟨d, hd⟩ := Option.isSome_iff_exists.mp hvalue
    exact ⟨d :: ds, mapM_eq_some_iff.mpr (.cons hd (mapM_eq_some_iff.mp hds))⟩

/-- A number is written in plain digits exactly if nothing else stands in its text. -/
theorem Written.hexadecimal_iff {n : Nat} (h : Written n s) : Hexadecimal s.length n s ↔ ∀ c ∈ s, ¬Foreign c := by
  constructor
  · exact fun hplain c hc => not_foreign_of_mem_hexChars c (hplain.mem_hexChars c hc)
  · intro hplain
    obtain ⟨ds, hds⟩ := exists_mapM fun c hc => (h.mem_cases hc).resolve_right (hplain c hc)
    exact ⟨rfl, ds, hds, (written_of_mapM h.ne_nil hds).unique h⟩

end Numeral
end Taskboard
