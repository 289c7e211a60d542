import Taskboard.Proofs.Number.Hexadecimal
import Taskboard.Proofs.Uuid.Text

/-! The spellings of an identifier. The digits, alone or in their groups, may stand by themselves, and the groups also
    in braces or behind `urn:uuid:`. Reading in four shapes takes nothing else (`spells_of_read?`), and the reading that
    takes marks, braces and hyphens away comes to the same identifier (`Spells.readLoose?`). -/

namespace Taskboard
namespace Uuid
open Text
variable {u : Uuid} {s ds : List Char}

/-! ### Digits and hyphens -/

/-- A text of hexadecimal digits with hyphens between them, and the identifier that the digits denote. -/
structure Denoted (u : Uuid) (s : List Char) : Prop where
  length : (s.filter (· ≠ '-')).length = 32
  value : ∃ ds, (s.filter (· ≠ '-')).mapM hexDigit? = some ds ∧ ofNat? (Numeral.ofDigits 16 ds) = some u

theorem denoted_of_hexadecimal (h : Numeral.Hexadecimal 32 u.toNat ds) (hs : s.filter (· ≠ '-') = ds) :
    Denoted u s := by
  obtain ⟨hlen, values, hvalues, hu⟩ := h
  exact ⟨by rw [hs, hlen], values, by rw [hs, hvalues], by rw [hu, ofNat?, dif_pos u.isLt]⟩

/-- Digits are what is left of them without hyphens. -/
theorem filter_of_hexadecimal {width n : Nat} (h : Numeral.Hexadecimal width n ds) : ds.filter (· ≠ '-') = ds := by
  refine List.filter_eq_self.mpr fun c hc => ?_
  rw [decide_eq_true_iff]
  rintro rfl
  exact notMem_of_mem_hexChars _ (h.mem_hexChars _ hc) (by decide)

theorem filter_hyphenate (sizes : List Nat) (ds : List Char) :
    (hyphenate sizes ds).filter (· ≠ '-') = ds.filter (· ≠ '-') := by
  induction sizes, ds using hyphenate.induct with
  | case1 => rw [hyphenate]
  | case2 => rw [hyphenate]
  | case3 n n' sizes ds ih =>
    rw [hyphenate, List.filter_append, List.filter_cons_of_neg (by decide), ih, ← List.filter_append,
      List.take_append_drop]

theorem Denoted.mem {c : Char} (h : Denoted u s) (hc : c ∈ s) : c ∈ hexChars ∨ c = '-' := by
  obtain ⟨-, ds, hmap, -⟩ := h
  by_cases hhyphen : c = '-'
  · exact .inr hhyphen
  · exact .inl (mem_hexChars_of_mapM hmap c (List.mem_filter.mpr ⟨hc, decide_eq_true hhyphen⟩))

theorem Denoted.ne {c d : Char} (h : Denoted u s) (hc : c ∈ s) (hd : d ∈ "+_xX,{}u".toList) : c ≠ d := by
  rintro rfl
  rcases h.mem hc with hhex | rfl
  · exact notMem_of_mem_hexChars c hhex (List.mem_cons_of_mem '-' hd)
  · revert hd
    decide

/-! ### Spellings -/

/-- The spellings of an identifier. -/
inductive Spells (u : Uuid) : List Char → Prop
  | plain {body : List Char} (h : Denoted u body) : Spells u body
  | braced {body : List Char} (h : Denoted u body) : Spells u ('{' :: (body ++ ['}']))
  | long {body : List Char} (h : Denoted u body) : Spells u (urn ++ body)

theorem spells_of_read? (h : read? s = some u) : Spells u s := by
  have hgroups {ds : List Char} (hds : Numeral.Hexadecimal 32 u.toNat ds) : Denoted u (hyphenate groups ds) :=
    denoted_of_hexadecimal hds ((filter_hyphenate groups ds).trans (filter_of_hexadecimal hds))
  cases shape_of_read? h with
  | plain hds => exact .plain (denoted_of_hexadecimal hds (filter_of_hexadecimal hds))
  | grouped hds => exact .plain (hgroups hds)
  | braced hds => exact .braced (hgroups hds)
  | long hds => exact .long (hgroups hds)

/-! ### What is taken away -/

theorem without_of_notMem {c : Char} {word : List Char} (h : c ∉ s) : without (c :: word) 0 s = s := by
  induction s with
  | nil => rfl
  | cons d s ih =>
    rw [List.mem_cons, not_or] at h
    have hprefix : (c :: word).isPrefixOf (d :: s) = false := by
      rw [List.isPrefixOf_cons_cons, beq_false_of_ne h.1, Bool.false_and]
    rw [without, hprefix, if_neg Bool.false_ne_true, ih h.2]

theorem bare_of_notMem (h : 'u' ∉ s) : bare s = (trim isBrace s).filter (· ≠ '-') := by
  have hurn : without "urn:".toList 0 s = s := without_of_notMem h
  have huuid : without "uuid:".toList 0 s = s := without_of_notMem h
  rw [bare, hurn, huuid]

-- A long form has one mark of each kind, and the second is whole once the first is gone.
theorem bare_urn_append (h : 'u' ∉ s) : bare (urn ++ s) = bare s := by
  have hurn : without "urn:".toList 0 (urn ++ s) = "uuid:".toList ++ without "urn:".toList 0 s := rfl
  have huuid : without "uuid:".toList 0 ("uuid:".toList ++ s) = without "uuid:".toList 0 s := rfl
  have hnone : without "urn:".toList 0 s = s := without_of_notMem h
  rw [bare, hurn, hnone, huuid, bare, hnone]

theorem Denoted.notMem (h : Denoted u s) : 'u' ∉ s := fun hc => h.ne hc (by decide) rfl

theorem Denoted.trim (h : Denoted u s) : Text.trim isBrace s = s :=
  trim_eq_self fun c hc => by
    rw [isBrace, decide_eq_false (h.ne hc (by decide)), decide_eq_false (h.ne hc (by decide)), Bool.false_or]

/-- What is left of a spelling are the digits. -/
theorem Spells.bare (h : Spells u s) : ∃ body, Denoted u body ∧ Uuid.bare s = body.filter (· ≠ '-') := by
  cases h with
  | plain h => exact ⟨s, h, by rw [bare_of_notMem h.notMem, h.trim]⟩
  | @braced body h =>
    have hnot : 'u' ∉ '{' :: (body ++ ['}']) := by simp [h.notMem]
    have hbraces : Text.trim isBrace (['{'] ++ body ++ ['}']) = body :=
      (trim_append (List.forall_mem_singleton.mpr rfl) (List.forall_mem_singleton.mpr rfl) body).trans h.trim
    exact ⟨body, h, (bare_of_notMem hnot).trans (congrArg (List.filter (· ≠ '-')) hbraces)⟩
  | @long body h => exact ⟨body, h, by rw [bare_urn_append h.notMem, bare_of_notMem h.notMem, h.trim]⟩

theorem Spells.readLoose? (h : Spells u s) : Uuid.readLoose? s = some u := by
  obtain ⟨body, hbody, hbare⟩ := h.bare
  obtain ⟨hlen, ds, hmap, hvalue⟩ := hbody
  have hne : body.filter (· ≠ '-') ≠ [] := List.ne_nil_of_length_pos (hlen ▸ by decide)
  rw [Uuid.readLoose?, hbare, if_pos hlen, Numeral.read?_of_mapM hne hmap]
  exact hvalue

theorem readLoose?_of_read? (h : read? s = some u) : Uuid.readLoose? s = some u := (spells_of_read? h).readLoose?

/-- Neither blanks nor commas are in a spelling. -/
theorem Spells.no_separator (h : Spells u s) : ∀ c ∈ s, Text.isBlank c = false ∧ c ≠ ',' := by
  have hbody {body : List Char} (h : Denoted u body) : ∀ c ∈ body, Text.isBlank c = false ∧ c ≠ ',' := by
    intro c hc
    refine ⟨?_, h.ne hc (by decide)⟩
    rcases h.mem hc with hc | rfl
    · exact isBlank_of_mem_hexChars c hc
    · decide
  cases h with
  | plain h => exact hbody h
  | braced h =>
    have hclose : ∀ c ∈ ['}'], Text.isBlank c = false ∧ c ≠ ',' := List.forall_mem_singleton.mpr (by decide)
    exact List.forall_mem_cons.mpr ⟨by decide, List.forall_mem_append.mpr ⟨hbody h, hclose⟩⟩
  | long h =>
    have hmark : ∀ c ∈ urn, Text.isBlank c = false ∧ c ≠ ',' := List.forall_iff_forall_mem.mp (by decide)
    exact List.forall_mem_append.mpr ⟨hmark, hbody h⟩

end Uuid
end Taskboard
