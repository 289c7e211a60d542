import Taskboard.Proofs.Json.Spelling

/-! A written value is read as itself: what is written is one of the texts of the value. The values are those a document
    may hold: whole numbers that are not too long, and arrays and objects that hold something at most so deep in each
    other. -/

namespace Taskboard
namespace Json

/-! ### What is written -/

section Writing
variable {depth : Nat} {v : Value}

theorem spellsItems_writeItems {vs : List Value} (h : ∀ v ∈ vs, Spells v v.write) : SpellsItems vs (writeItems vs) := by
  induction vs with
  | nil =>
    rw [writeItems]
    exact .nil
  | cons v vs ih =>
    obtain ⟨hv, hvs⟩ := List.forall_mem_cons.mp h
    rw [writeItems]
    exact .cons hv (ih hvs)

theorem spellsMembers_writeMembers {ms : List (String × Value)} (h : ∀ m ∈ ms, Spells m.2 m.2.write) :
    SpellsMembers ms (writeMembers ms) := by
  induction ms with
  | nil =>
    rw [writeMembers]
    exact .nil
  | cons m ms ih =>
    obtain ⟨hv, hms⟩ := List.forall_mem_cons.mp h
    rw [writeMembers]
    exact .cons (quotes_quote _) hv (ih hms)

theorem Value.Fits.spells_write (h : v.Fits depth) : Spells v v.write := by
  induction h with
  | null => rw [Value.write]; exact .null
  | bool b => cases b <;> rw [Value.write] <;> constructor
  | @int _ n _ => rw [Value.write]; exact .int n
  | string s => rw [Value.write]; exact .string (quotes_quote _)
  | emptyArray => rw [Value.write]; exact .emptyArray
  | emptyObject => rw [Value.write]; exact .emptyObject
  | @array _ vs _ ih =>
    cases vs with
    | nil => rw [Value.write]; exact .emptyArray
    | cons v vs =>
      obtain ⟨hv, hvs⟩ := List.forall_mem_cons.mp ih
      rw [Value.write]
      exact .array hv (spellsItems_writeItems hvs)
  | @object _ ms _ ih =>
    cases ms with
    | nil => rw [Value.write]; exact .emptyObject
    | cons m ms =>
      obtain ⟨hv, hms⟩ := List.forall_mem_cons.mp ih
      rw [Value.write]
      exact .object (quotes_quote _) hv (spellsMembers_writeMembers hms)

/-- What follows a member is no part of a number. -/
theorem ends_writeMembers (ms : List (String × Value)) (rest : List Char) : Ends (writeMembers ms ++ rest) := by
  rcases ms with - | ⟨⟨k, v⟩, ms⟩ <;> rw [writeMembers] <;> exact Ends.cons (by decide) _

end Writing

/-! ### What is read -/

/-- A text that begins with a value says which, and where it ends. -/
theorem Value.Fits.write_append_inj {depth : Nat} {v w : Value} {x y : List Char} (hv : v.Fits depth)
    (hw : w.Fits depth) (hx : Ends x) (hy : Ends y) (h : v.write ++ x = w.write ++ y) : v = w ∧ x = y := by
  have hfirst := hv.spells_write.readValue hv (Nat.le_max_left _ w.write.length) hx
  have hsecond := hw.spells_write.readValue hw (Nat.le_max_right v.write.length _) hy
  rw [h, hsecond] at hfirst
  obtain ⟨rfl, rfl⟩ := Prod.mk.inj (Option.some.inj hfirst)
  exact ⟨rfl, rfl⟩

/-- The text of a value is read as the value. -/
theorem Value.Fits.read_write {depth : Nat} {v : Value} (h : v.Fits depth) : read depth v.write = some v :=
  h.spells_write.read h

/-! ### Which characters are written -/

/-- A text without control characters. -/
def Printable (s : List Char) : Prop := ∀ c ∈ s, 0x20 ≤ c.toNat

instance (s : List Char) : Decidable (Printable s) := List.decidableBAll (fun c : Char => 0x20 ≤ c.toNat) s

theorem printable_append {s t : List Char} : Printable (s ++ t) ↔ Printable s ∧ Printable t :=
  List.forall_mem_append

theorem printable_cons {c : Char} {s : List Char} : Printable (c :: s) ↔ 0x20 ≤ c.toNat ∧ Printable s :=
  List.forall_mem_cons

theorem printable_hexDigits (width n : Nat) : Printable (Text.hexDigits width n) := by
  intro c hc
  obtain ⟨d, hd, rfl⟩ := Text.mem_hexDigits hc
  interval_cases d <;> decide

theorem printable_escape (c : Char) : Printable (escape c) := by
  unfold escape
  iterate 7 (split; exact by decide)
  split
  · exact printable_cons.mpr ⟨by decide, printable_cons.mpr ⟨by decide, printable_hexDigits 4 c.toNat⟩⟩
  · next h => exact List.forall_mem_singleton.mpr (Nat.not_lt.mp h)

theorem printable_quote (s : List Char) : Printable (quote s) := by
  refine printable_cons.mpr ⟨by decide, printable_append.mpr ⟨fun c hc => ?_, by decide⟩⟩
  obtain ⟨d, -, hd⟩ := List.mem_flatMap.mp hc
  exact printable_escape d c hd

theorem printable_ofInt (n : Int) : Printable (Numeral.ofInt n) := by
  have hdigits : Printable (Numeral.decimal n.natAbs) := fun c hc => by
    have hc := Char.isDigit_iff_toNat.mp ((Numeral.isPlain_decimal n.natAbs).isDigit c hc)
    exact Nat.le_trans (by decide) hc.1
  rcases Numeral.ofInt_eq n with ⟨-, heq⟩ | ⟨-, heq⟩
  · exact heq ▸ hdigits
  · exact heq ▸ printable_cons.mpr ⟨by decide, hdigits⟩

theorem printable_writeItems {vs : List Value} (h : ∀ v ∈ vs, Printable v.write) : Printable (writeItems vs) := by
  induction vs with
  | nil => rw [writeItems]; decide
  | cons v vs ih =>
    rw [writeItems]
    exact printable_cons.mpr ⟨by decide, printable_append.mpr
      ⟨h v List.mem_cons_self, ih fun w hw => h w (List.mem_cons_of_mem v hw)⟩⟩

/-- A member that follows the text before it. -/
theorem printable_member {k : String} {v : Value} {s : List Char} (hv : Printable v.write) (hs : Printable s) :
    Printable (quote k.toList ++ ':' :: (v.write ++ s)) :=
  printable_append.mpr ⟨printable_quote _, printable_cons.mpr ⟨by decide, printable_append.mpr ⟨hv, hs⟩⟩⟩

theorem printable_writeMembers {ms : List (String × Value)} (h : ∀ m ∈ ms, Printable m.2.write) :
    Printable (writeMembers ms) := by
  induction ms with
  | nil => rw [writeMembers]; decide
  | cons m ms ih =>
    obtain ⟨k, v⟩ := m
    rw [writeMembers]
    exact printable_cons.mpr ⟨by decide, printable_member (h _ List.mem_cons_self)
      (ih fun m hm => h m (List.mem_cons_of_mem _ hm))⟩

/-- The text of a value has no control character. -/
theorem Value.Fits.printable_write {depth : Nat} {v : Value} (h : v.Fits depth) : Printable v.write := by
  induction h with
  | null => rw [Value.write]; decide
  | bool b => cases b <;> (rw [Value.write]; decide)
  | int _ => rw [Value.write]; exact printable_ofInt _
  | string s => rw [Value.write]; exact printable_quote _
  | emptyArray => rw [Value.write]; decide
  | emptyObject => rw [Value.write]; decide
  | @array _ vs _ ih =>
    cases vs with
    | nil => rw [Value.write]; decide
    | cons v vs =>
      rw [Value.write]
      exact printable_cons.mpr ⟨by decide, printable_append.mpr
        ⟨ih v List.mem_cons_self, printable_writeItems fun w hw => ih w (List.mem_cons_of_mem v hw)⟩⟩
  | @object _ ms _ ih =>
    rcases ms with - | ⟨⟨k, v⟩, ms⟩
    · rw [Value.write]; decide
    · rw [Value.write]
      exact printable_cons.mpr ⟨by decide, printable_member (ih _ List.mem_cons_self)
        (printable_writeMembers fun m hm => ih m (List.mem_cons_of_mem _ hm))⟩

end Json
end Taskboard
