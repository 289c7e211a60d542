import Taskboard.Proofs.Uuid.Spelling

/-! What the loose reading takes for an identifier. Thirty-two characters have to be left that are a number of base
    sixteen, and then there is an identifier of that number, which is never too large (`readLoose?_eq_some_iff`,
    `exists_named`). Its own text is one of the texts that are read as it, with its letters in either case and with its
    hyphens or without (`denoted_variant`). -/

namespace Taskboard
namespace Uuid
open Text
variable {u : Uuid} {s : List Char}

/-! ### Numbers in thirty-two characters -/

/-- A text names an identifier: thirty-two characters of it are left, and they are the number of the identifier. -/
structure Named (u : Uuid) (s : List Char) : Prop where
  length : (bare s).length = 32
  written : Numeral.Written u.toNat (bare s)

theorem notMem_bare (s : List Char) : '-' ∉ bare s := fun h => by simpa using (List.mem_filter.mp h).2

theorem lt_of_written {n : Nat} (hlen : (bare s).length = 32) (h : Numeral.Written n (bare s)) : n < Nat.pow 2 128 := by
  have hlt := h.lt
  rw [hlen] at hlt
  exact hlt.trans_eq (by decide)

/-- No number in thirty-two characters is too large for an identifier. -/
theorem exists_named {n : Nat} (hlen : (bare s).length = 32) (h : Numeral.Written n (bare s)) :
    ∃ u : Uuid, u.toNat = n ∧ Named u s := ⟨⟨n, lt_of_written hlen h⟩, rfl, hlen, h⟩

theorem Named.readLoose? (h : Named u s) : Uuid.readLoose? s = some u := by
  rw [Uuid.readLoose?, if_pos h.length, Numeral.read?_of_written h.written]
  exact dif_pos u.isLt

theorem readLoose?_eq_some_iff : readLoose? s = some u ↔ Named u s := by
  constructor
  · intro h
    obtain ⟨hlen, h⟩ := Option.ite_none_right_eq_some.mp h
    split at h
    next z hz =>
      obtain ⟨n, hn, hwritten⟩ := (Numeral.read?_eq_some_iff (notMem_bare s)).mp hz
      obtain rfl := Int.ofNat_inj.mp hn
      obtain ⟨v, rfl, hnamed⟩ := exists_named hlen hwritten
      rw [ofNat?, dif_pos v.isLt, Option.some_inj] at h
      exact h ▸ hnamed
    next => cases h
  · exact Named.readLoose?

theorem readLoose?_eq_none_iff : readLoose? s = none ↔ ¬∃ u, Named u s := by
  simp only [Option.eq_none_iff_forall_ne_some, ne_eq, readLoose?_eq_some_iff, not_exists]

theorem readLoose?_isSome_iff : (readLoose? s).isSome ↔ ∃ u, Named u s := by
  simp only [Option.isSome_iff_exists, readLoose?_eq_some_iff]

/-- Thirty-two plain digits are left of the texts that name an identifier and have nothing else among the digits that a
    number may have. -/
theorem hexadecimal_bare_iff {n : Nat} : Numeral.Hexadecimal 32 n (bare s) ↔
    (∃ u : Uuid, u.toNat = n ∧ Named u s) ∧ ∀ c ∈ bare s, ¬Numeral.Foreign c := by
  constructor
  · intro h
    obtain ⟨ds, hds, hn⟩ := h.value
    have hne : bare s ≠ [] := List.ne_nil_of_length_pos (by rw [h.length]; decide)
    refine ⟨exists_named h.length (hn ▸ Numeral.written_of_mapM hne hds), fun c hc => ?_⟩
    exact Numeral.not_foreign_of_mem_hexChars c (h.mem_hexChars c hc)
  · rintro ⟨⟨u, rfl, hnamed⟩, hplain⟩
    have h := hnamed.written.hexadecimal_iff.mpr hplain
    rwa [hnamed.length] at h

/-! ### The text of an identifier -/

/-- A number in thirty-two small hexadecimal digits, in groups of eight, four, four, four and twelve. -/
inductive Canonical (n : Nat) : List Char → Prop
  | intro {a b c d e : List Char} (sizes : [a, b, c, d, e].map List.length = [8, 4, 4, 4, 12])
    (small : ∀ x ∈ a ++ (b ++ (c ++ (d ++ e))), x ∈ "0123456789abcdef".toList)
    (value : Numeral.Hexadecimal 32 n (a ++ (b ++ (c ++ (d ++ e))))) :
    Canonical n (a ++ '-' :: (b ++ '-' :: (c ++ '-' :: (d ++ '-' :: e))))

theorem canonical_text (u : Uuid) : Canonical u.toNat u.text.toList := by
  have hgroups (ds : List Char) : hyphenate groups ds =
      ds.take 8 ++ '-' :: ((ds.drop 8).take 4 ++ '-' :: (((ds.drop 8).drop 4).take 4 ++
        '-' :: ((((ds.drop 8).drop 4).drop 4).take 4 ++ '-' :: (((ds.drop 8).drop 4).drop 4).drop 4))) := rfl
  have hjoined (ds : List Char) : ds.take 8 ++ ((ds.drop 8).take 4 ++ (((ds.drop 8).drop 4).take 4 ++
      ((((ds.drop 8).drop 4).drop 4).take 4 ++ (((ds.drop 8).drop 4).drop 4).drop 4))) = ds := by
    simp only [List.take_append_drop]
  have hsmall : ∀ x ∈ u.digits, x ∈ "0123456789abcdef".toList := by
    intro x hx
    obtain ⟨k, hk, rfl⟩ := mem_hexDigits hx
    interval_cases k <;> decide
  rw [toList_text, hgroups]
  refine .intro ?_ (by rwa [hjoined]) (by rw [hjoined]; exact u.hexadecimal_digits)
  simp [u.hexadecimal_digits.length]

/-- The text of an identifier, with its letters in capitals or not and with its hyphens or without. -/
def variant (u : Uuid) (capitals hyphens : Bool) : String :=
  let s := if hyphens then u.text.toList else u.text.toList.filter (· ≠ '-')
  String.ofList (if capitals then s.map Char.toUpper else s)

theorem denoted_text (u : Uuid) : Denoted u u.text.toList := by
  rw [toList_text]
  exact denoted_of_hexadecimal u.hexadecimal_digits ((filter_hyphenate groups _).trans
    (filter_of_hexadecimal u.hexadecimal_digits))

theorem Denoted.filter (h : Denoted u s) : Denoted u (s.filter (· ≠ '-')) := by
  have hsame : (s.filter (· ≠ '-')).filter (· ≠ '-') = s.filter (· ≠ '-') := by simp [List.filter_filter]
  exact ⟨by rw [hsame]; exact h.length, by rw [hsame]; exact h.value⟩

/-- Capitals denote what small letters do. -/
theorem Denoted.map_toUpper (h : Denoted u s) : Denoted u (s.map Char.toUpper) := by
  have hupper : ∀ c ∈ hexChars, hexDigit? c.toUpper = hexDigit? c ∧ c.toUpper ≠ '-' ∧ c ≠ '-' :=
    List.forall_iff_forall_mem.mp (by decide)
  have hfilter : (s.map Char.toUpper).filter (· ≠ '-') = (s.filter (· ≠ '-')).map Char.toUpper := by
    rw [List.filter_map]
    refine congrArg _ (List.filter_congr fun c hc => ?_)
    rcases h.mem hc with hc | rfl
    · obtain ⟨-, hc, hc'⟩ := hupper c hc
      simp [hc, hc']
    · rfl
  obtain ⟨hlen, ds, hmap, hvalue⟩ := h
  refine ⟨by rw [hfilter, List.length_map, hlen], ds, ?_, hvalue⟩
  rw [hfilter, mapM_eq_some_iff, List.forall₂_map_left_iff]
  refine (mapM_eq_some_iff.mp hmap).imp fun c d hd => ?_
  rw [(hupper c (mem_hexChars hd)).1, hd]

theorem denoted_variant (u : Uuid) (capitals hyphens : Bool) : Denoted u (u.variant capitals hyphens).toList := by
  have hplain : Denoted u (if hyphens then u.text.toList else u.text.toList.filter (· ≠ '-')) := by
    cases hyphens with
    | true => exact u.denoted_text
    | false => exact u.denoted_text.filter
  rw [variant, String.toList_ofList]
  cases capitals with
  | true => exact hplain.map_toUpper
  | false => exact hplain

end Uuid
end Taskboard
