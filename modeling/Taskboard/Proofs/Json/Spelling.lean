import Taskboard.Proofs.Json.Reading

/-! The texts of a value: no blanks, every character of a text spelled in any way, whole numbers in decimal digits. A
    reader that meets one of them takes it for the value and stops behind it (`Spells.read`). -/

namespace Taskboard
namespace Json

/-- The values without fractions that are read to the given depth. -/
inductive Value.Fits : Nat → Value → Prop where
  | null {depth : Nat} : Fits depth .null
  | bool {depth : Nat} (b : Bool) : Fits depth (.bool b)
  | int {depth : Nat} {n : Int} (h : n.natAbs < 10 ^ Numeral.maxDigits) : Fits depth (.int n)
  | string {depth : Nat} (s : String) : Fits depth (.string s)
  | emptyArray {depth : Nat} : Fits depth (.array [])
  | emptyObject {depth : Nat} : Fits depth (.object [])
  | array {depth : Nat} {vs : List Value} (h : ∀ v ∈ vs, Fits depth v) : Fits (depth + 1) (.array vs)
  | object {depth : Nat} {ms : List (String × Value)} (h : ∀ m ∈ ms, Fits depth m.2) : Fits (depth + 1) (.object ms)

mutual

/-- A text of a value. -/
inductive Spells : Value → List Char → Prop
  | null : Spells .null "null".toList
  | true : Spells (.bool true) "true".toList
  | false : Spells (.bool false) "false".toList
  | int (n : Int) : Spells (.int n) (Numeral.ofInt n)
  | string {s : String} {t : List Char} (h : Quotes s.toList t) : Spells (.string s) t
  | emptyArray : Spells (.array []) ['[', ']']
  | array {v : Value} {vs : List Value} {t ts : List Char} (first : Spells v t) (others : SpellsItems vs ts) :
    Spells (.array (v :: vs)) ('[' :: (t ++ ts))
  | emptyObject : Spells (.object []) ['{', '}']
  | object {k : String} {v : Value} {ms : List (String × Value)} {q t ts : List Char} (key : Quotes k.toList q)
    (first : Spells v t) (others : SpellsMembers ms ts) :
    Spells (.object ((k, v) :: ms)) ('{' :: (q ++ ':' :: (t ++ ts)))

/-- A text of the items that follow one, and of the end of their array. -/
inductive SpellsItems : List Value → List Char → Prop
  | nil : SpellsItems [] [']']
  | cons {v : Value} {vs : List Value} {t ts : List Char} (first : Spells v t) (others : SpellsItems vs ts) :
    SpellsItems (v :: vs) (',' :: (t ++ ts))

/-- A text of the members that follow one, and of the end of their object. -/
inductive SpellsMembers : List (String × Value) → List Char → Prop
  | nil : SpellsMembers [] ['}']
  | cons {k : String} {v : Value} {ms : List (String × Value)} {q t ts : List Char} (key : Quotes k.toList q)
    (first : Spells v t) (others : SpellsMembers ms ts) : SpellsMembers ((k, v) :: ms) (',' :: (q ++ ':' :: (t ++ ts)))

end

/-! ### How a text begins and goes on -/

/-- A character that a value may begin with. -/
structure Opens (c : Char) : Prop where
  notBlank : isBlank c = false
  notEnd : c ≠ ']'

theorem opens_of_isDigit_or {c : Char} (h : c.isDigit = true ∨ c = '-') : Opens c where
  notBlank := by
    simp only [isBlank, Bool.or_eq_false_iff, decide_eq_false_iff_not]
    refine ⟨⟨⟨?_, ?_⟩, ?_⟩, ?_⟩ <;> exact ne_of_isDigit_or h (by decide) (by decide)
  notEnd := ne_of_isDigit_or h (by decide) (by decide)

theorem skip_cons {c : Char} (h : isBlank c = false) (s : List Char) : skip (c :: s) = c :: s :=
  List.dropWhile_cons_of_neg (by rw [h]; exact Bool.false_ne_true)

section Beginning
variable {v : Value} {vs : List Value} {ms : List (String × Value)} {s t q : List Char}

theorem Quotes.eq_cons (h : Quotes s q) : ∃ cs, q = '"' :: cs := by
  obtain ⟨parts, -, rfl⟩ := h
  exact ⟨_, rfl⟩

theorem Spells.eq_cons (h : Spells v t) : ∃ c cs, t = c :: cs ∧ Opens c := by
  cases h with
  | int n =>
    obtain ⟨c, cs, hcons, hc⟩ := ofInt_eq_cons n
    exact ⟨c, cs, hcons, opens_of_isDigit_or hc⟩
  | string h =>
    obtain ⟨cs, rfl⟩ := h.eq_cons
    exact ⟨_, cs, rfl, by decide, by decide⟩
  | _ => exact ⟨_, _, rfl, by decide, by decide⟩

theorem Spells.ne_nil (h : Spells v t) : t ≠ [] := by
  obtain ⟨c, cs, rfl, -⟩ := h.eq_cons
  exact List.cons_ne_nil c cs

theorem Spells.skip (h : Spells v t) (rest : List Char) : skip (t ++ rest) = t ++ rest := by
  obtain ⟨c, cs, rfl, hc⟩ := h.eq_cons
  rw [List.cons_append, skip_cons hc.notBlank]

/-- What follows an item is no part of a number. -/
theorem SpellsItems.ends (h : SpellsItems vs t) (rest : List Char) : Ends (t ++ rest) := by
  cases h <;> exact Ends.cons (by decide) _

theorem SpellsMembers.ends (h : SpellsMembers ms t) (rest : List Char) : Ends (t ++ rest) := by
  cases h <;> exact Ends.cons (by decide) _

end Beginning

/-! ### What is read -/

section Reading
variable {fuel depth : Nat} {v : Value} {vs : List Value} {ms : List (String × Value)} {s t rest : List Char}

/-- A key with its quotes and the colon behind it, before a value. -/
theorem readKey_quotes {k : String} {q : List Char} (hk : Quotes k.toList q) (hv : Spells v t) (rest : List Char) :
    readKey (q ++ ':' :: (t ++ rest)) = some (k, t ++ rest) := by
  obtain ⟨u, rfl, hread⟩ := hk.read
  simp only [List.cons_append, readKey, hread, skip_cons (show isBlank ':' = false by decide), hv.skip,
    String.ofList_toList, Option.bind_eq_bind, Option.bind_some]

theorem readValue_string {s : String} (h : Quotes s.toList t) (rest : List Char) :
    readValue (fuel + 1) depth (t ++ rest) = some (.string s, rest) := by
  obtain ⟨u, rfl, hread⟩ := h.read
  simp only [List.cons_append, readValue, hread, Option.map_some, String.ofList_toList]

theorem readValue_int {n : Int} (hn : n.natAbs < 10 ^ Numeral.maxDigits) (hrest : Ends rest) :
    readValue (fuel + 1) depth (Numeral.ofInt n ++ rest) = some (.int n, rest) := by
  have hread := readPlain_ofInt hn hrest
  obtain ⟨c, cs, hcons, hc⟩ := ofInt_eq_cons n
  rw [hcons, List.cons_append] at hread ⊢
  rw [readValue]
  · exact hread
  · exact fun _ h => ne_of_isDigit_or hc (by decide) (by decide) (List.cons.inj h).1
  · exact fun _ h => ne_of_isDigit_or hc (by decide) (by decide) (List.cons.inj h).1
  · exact fun _ h => ne_of_isDigit_or hc (by decide) (by decide) (List.cons.inj h).1

theorem readValue_array (hv : Spells v t) (hfirst : readValue fuel depth (t ++ s) = some (v, s))
    (hothers : readItems fuel depth s = some (vs, rest)) :
    readValue (fuel + 1) (depth + 1) ('[' :: (t ++ s)) = some (.array (v :: vs), rest) := by
  obtain ⟨c, cs, rfl, hc⟩ := hv.eq_cons
  rw [List.cons_append] at hfirst ⊢
  rw [readValue.eq_def]
  simp only [skip_cons hc.notBlank]
  split
  · next heq => exact absurd (List.cons.inj heq).1 hc.notEnd
  · next hdepth _ => exact absurd hdepth (Nat.succ_ne_zero depth)
  · next hdepth _ =>
    obtain rfl := Nat.succ.inj hdepth
    simp only [hfirst, hothers, Option.bind_eq_bind, Option.bind_some, Option.pure_def]

theorem readValue_object {k : String} {q : List Char} (hk : Quotes k.toList q) (hv : Spells v t)
    (hfirst : readValue fuel depth (t ++ s) = some (v, s)) (hothers : readMembers fuel depth s = some (ms, rest)) :
    readValue (fuel + 1) (depth + 1) ('{' :: (q ++ ':' :: (t ++ s))) = some (.object ((k, v) :: ms), rest) := by
  have hkey := readKey_quotes hk hv s
  obtain ⟨cs, rfl⟩ := hk.eq_cons
  rw [List.cons_append] at hkey ⊢
  rw [readValue.eq_def]
  simp only [skip_cons (show isBlank '"' = false by decide)]
  split
  · next heq => exact absurd (List.cons.inj heq).1 (by decide)
  · next hdepth _ => exact absurd hdepth (Nat.succ_ne_zero depth)
  · next hdepth _ =>
    obtain rfl := Nat.succ.inj hdepth
    simp only [hkey, hfirst, hothers, Option.bind_eq_bind, Option.bind_some, Option.pure_def]

theorem readItems_cons (hv : Spells v t) (hfirst : readValue fuel depth (t ++ s) = some (v, s))
    (hothers : readItems fuel depth s = some (vs, rest)) :
    readItems (fuel + 1) depth (',' :: (t ++ s)) = some (v :: vs, rest) := by
  rw [readItems, skip_cons (by decide)]
  simp only [hv.skip, hfirst, hothers, Option.bind_eq_bind, Option.bind_some, Option.pure_def]

theorem readMembers_cons {k : String} {q : List Char} (hk : Quotes k.toList q) (hv : Spells v t)
    (hfirst : readValue fuel depth (t ++ s) = some (v, s)) (hothers : readMembers fuel depth s = some (ms, rest)) :
    readMembers (fuel + 1) depth (',' :: (q ++ ':' :: (t ++ s))) = some ((k, v) :: ms, rest) := by
  have hskip : skip (q ++ ':' :: (t ++ s)) = q ++ ':' :: (t ++ s) := by
    obtain ⟨cs, rfl⟩ := hk.eq_cons
    rw [List.cons_append, skip_cons (by decide)]
  rw [readMembers, skip_cons (by decide)]
  simp only [hskip, readKey_quotes hk hv, hfirst, hothers, Option.bind_eq_bind, Option.bind_some, Option.pure_def]

end Reading

/-- A text is not empty, so that there is fuel for a first call where there is some for all its characters. -/
theorem exists_fuel {fuel : Nat} {t : List Char} (ht : t ≠ []) (hfuel : t.length ≤ fuel) :
    ∃ fuel', fuel = fuel' + 1 :=
  Nat.exists_eq_add_of_le' (Nat.le_trans (List.length_pos_of_ne_nil ht) hfuel)

-- The bracket or the comma in front pays for the call, and what is left is enough for the first part and the others.
mutual

/-- A value is read off a text that begins with one of its texts, with fuel for each character of it. -/
theorem Spells.readValue {v : Value} {t : List Char} : Spells v t → ∀ {depth fuel : Nat} {rest : List Char},
    v.Fits depth → t.length ≤ fuel → Ends rest → readValue fuel depth (t ++ rest) = some (v, rest)
  | .null, _, _, _, _, hfuel, _ => by
    obtain ⟨fuel, rfl⟩ := exists_fuel (by decide) hfuel
    rfl
  | .true, _, _, _, _, hfuel, _ => by
    obtain ⟨fuel, rfl⟩ := exists_fuel (by decide) hfuel
    rfl
  | .false, _, _, _, _, hfuel, _ => by
    obtain ⟨fuel, rfl⟩ := exists_fuel (by decide) hfuel
    rfl
  | .int n, _, _, _, .int hn, hfuel, hrest => by
    obtain ⟨fuel, rfl⟩ := exists_fuel (Spells.int n).ne_nil hfuel
    exact readValue_int hn hrest
  | .string h, _, _, rest, _, hfuel, _ => by
    obtain ⟨fuel, rfl⟩ := exists_fuel (Spells.string h).ne_nil hfuel
    exact readValue_string h rest
  | .emptyArray, _, _, _, _, hfuel, _ => by
    obtain ⟨fuel, rfl⟩ := exists_fuel (by decide) hfuel
    rfl
  | .emptyObject, _, _, _, _, hfuel, _ => by
    obtain ⟨fuel, rfl⟩ := exists_fuel (by decide) hfuel
    rfl
  | .array first others, _, _, rest, .array hfit, hfuel, _ => by
    obtain ⟨fuel, rfl⟩ := exists_fuel (List.cons_ne_nil _ _) hfuel
    obtain ⟨hv, hvs⟩ := List.forall_mem_cons.mp hfit
    rw [List.length_cons, List.length_append] at hfuel
    rw [List.cons_append, List.append_assoc]
    exact readValue_array first (first.readValue hv (by omega) (others.ends rest)) (others.readItems hvs (by omega))
  | .object key first others, _, _, rest, .object hfit, hfuel, _ => by
    obtain ⟨fuel, rfl⟩ := exists_fuel (List.cons_ne_nil _ _) hfuel
    obtain ⟨hv, hms⟩ := List.forall_mem_cons.mp hfit
    simp only [List.length_cons, List.length_append] at hfuel
    rw [List.cons_append, List.append_assoc, List.cons_append, List.append_assoc]
    exact readValue_object key first (first.readValue hv (by omega) (others.ends rest))
      (others.readMembers hms (by omega))

theorem SpellsItems.readItems {vs : List Value} {t : List Char} : SpellsItems vs t →
    ∀ {depth fuel : Nat} {rest : List Char}, (∀ v ∈ vs, v.Fits depth) → t.length ≤ fuel →
      readItems fuel depth (t ++ rest) = some (vs, rest)
  | .nil, _, _, _, _, hfuel => by
    obtain ⟨fuel, rfl⟩ := exists_fuel (by decide) hfuel
    rfl
  | .cons first others, _, _, rest, hfit, hfuel => by
    obtain ⟨fuel, rfl⟩ := exists_fuel (List.cons_ne_nil _ _) hfuel
    obtain ⟨hv, hvs⟩ := List.forall_mem_cons.mp hfit
    rw [List.length_cons, List.length_append] at hfuel
    rw [List.cons_append, List.append_assoc]
    exact readItems_cons first (first.readValue hv (by omega) (others.ends rest)) (others.readItems hvs (by omega))

theorem SpellsMembers.readMembers {ms : List (String × Value)} {t : List Char} : SpellsMembers ms t →
    ∀ {depth fuel : Nat} {rest : List Char}, (∀ m ∈ ms, m.2.Fits depth) → t.length ≤ fuel →
      readMembers fuel depth (t ++ rest) = some (ms, rest)
  | .nil, _, _, _, _, hfuel => by
    obtain ⟨fuel, rfl⟩ := exists_fuel (by decide) hfuel
    rfl
  | .cons key first others, _, _, rest, hfit, hfuel => by
    obtain ⟨fuel, rfl⟩ := exists_fuel (List.cons_ne_nil _ _) hfuel
    obtain ⟨hv, hms⟩ := List.forall_mem_cons.mp hfit
    simp only [List.length_cons, List.length_append] at hfuel
    rw [List.cons_append, List.append_assoc, List.cons_append, List.append_assoc]
    exact readMembers_cons key first (first.readValue hv (by omega) (others.ends rest))
      (others.readMembers hms (by omega))

end

/-- The whole of a text of a value is read as the value. -/
theorem Spells.read {depth : Nat} {v : Value} {t : List Char} (h : Spells v t) (hfit : v.Fits depth) :
    read depth t = some v := by
  have hskip := h.skip []
  have hread := h.readValue hfit (Nat.le_succ _) Ends.nil
  rw [List.append_nil] at hskip hread
  rw [Json.read, hskip, hread]
  rfl

end Json
end Taskboard
