import Taskboard.Proofs.Task.Filter
import Taskboard.Proofs.Text.Split
import Taskboard.Proofs.Text.Trim

/-! A written filter and its items. Whether the items stand in one text with commas or in several texts does not matter,
    nor do blank ones; two filters one after the other come to what both choose, or to the first error of the two; and
    a filter without error depends on which items it has and on nothing else (`Filter.parse_by_items`). -/

namespace Taskboard

/-! ### Sets -/

namespace IdSet
variable {ids ids' : IdSet} {u : Uuid} {us : List Uuid}

theorem mem_foldl_insert : u ∈ us.foldl (fun s v => s.insert v) ids ↔ u ∈ us ∨ u ∈ ids := by
  induction us generalizing ids with
  | nil => simp
  | cons v us ih => rw [List.foldl_cons, ih, mem_insert, List.mem_cons, or_left_comm, or_assoc]

/-- The identifiers that are in one of two sets. -/
def union (ids ids' : IdSet) : IdSet := ids'.toList.foldl (fun s u => s.insert u) ids

instance : Union IdSet := ⟨union⟩

@[simp] theorem mem_union : u ∈ ids ∪ ids' ↔ u ∈ ids ∨ u ∈ ids' := mem_foldl_insert.trans or_comm

theorem mem_ofList : u ∈ ofList us ↔ u ∈ us := by
  rw [ofList, mem_foldl_insert, or_iff_left (not_mem_empty u)]

theorem ofList_singleton_inj {v : Uuid} (h : ofList [u] = ofList [v]) : u = v := by
  have hmem : u ∈ ofList [v] := h ▸ mem_ofList.mpr (List.mem_singleton_self u)
  exact List.mem_singleton.mp (mem_ofList.mp hmem)

end IdSet

namespace Filter
variable {values values' : List String} {ids : IdSet} {e : BadItem}

/-! ### Items -/

theorem items_append (values values' : List String) : items (values ++ values') = items values ++ items values' := by
  simp [items]

theorem items_cons (value : String) (values : List String) : items (value :: values) = items [value] ++ items values :=
  items_append [value] values

theorem items_intercalate (values : List String) : items [",".intercalate values] = items values := by
  rcases eq_or_ne values [] with rfl | hne
  · rfl
  · have hcut : (",".intercalate values).toList.splitOn ',' = values.flatMap (·.toList.splitOn ',') := by
      rw [String.toList_intercalate, show ",".toList = [','] from rfl,
        Text.splitOn_intercalate_eq_flatMap (by simpa using hne), List.flatMap_map]
    simp only [items, List.flatMap_singleton, hcut, List.map_flatMap]

theorem items_of_blank {blank : String} (h : ∀ c ∈ blank.toList, Text.isBlank c = true ∨ c = ',') :
    items [blank] = [] := by
  rw [items, List.filter_eq_nil_iff]
  intro item hitem
  simp only [List.flatMap_cons, List.flatMap_nil, List.append_nil, List.mem_map] at hitem
  obtain ⟨piece, hpiece, rfl⟩ := hitem
  have hblank : ∀ c ∈ piece, Text.isBlank c = true := fun c hc =>
    (h c (Text.mem_of_mem_splitOn hpiece hc)).resolve_right fun hcomma =>
      Text.notMem_of_mem_splitOn hpiece (hcomma ▸ hc)
  simp [Text.trim_eq_nil hblank]

/-- An item alone is the same item. -/
theorem items_of_mem {item : List Char} (h : item ∈ items values) : items [String.ofList item] = [item] := by
  obtain ⟨hitem, hne⟩ := List.mem_filter.mp h
  obtain ⟨value, -, hitem⟩ := List.mem_flatMap.mp hitem
  obtain ⟨piece, hpiece, rfl⟩ := List.mem_map.mp hitem
  have hcomma : ',' ∉ Text.trim Text.isBlank piece := by
    obtain ⟨before, after, -, -, hpiece'⟩ := Text.exists_eq_append_trim Text.isBlank piece
    intro hc
    refine Text.notMem_of_mem_splitOn hpiece ?_
    rw [hpiece']
    exact List.mem_append_left _ (List.mem_append_right _ hc)
  rw [items, List.flatMap_singleton, String.toList_ofList, List.splitOn_eq_singleton hcomma, List.map_singleton,
    Text.trim_trim, List.filter_singleton, hne]
  rfl

/-! ### Results -/

theorem parse_eq_error_iff : parse values = .error e ↔ ∃ good rest, items values = good ++ e.item :: rest ∧
    (∀ item ∈ good, (Uuid.readLoose? item).isSome) ∧ Uuid.readLoose? e.item = none := by
  constructor
  · intro h
    have hbad : ¬∀ item ∈ items values, (Uuid.readLoose? item).isSome := fun hall => by
      obtain ⟨ids, hids, -⟩ := parse_ok hall
      rw [hids] at h
      cases h
    obtain ⟨good, bad, rest, hitems, hgood, hnone⟩ := exists_first_bad hbad
    rw [parse_error hitems hgood hnone] at h
    cases h
    exact ⟨good, rest, hitems, hgood, hnone⟩
  · rintro ⟨good, rest, hitems, hgood, hnone⟩
    exact parse_error hitems hgood hnone

theorem parse_of_reads (us : List Uuid) (text : Uuid → List Char) (hitems : items values = us.map text)
    (hread : ∀ u ∈ us, Uuid.readLoose? (text u) = some u) : parse values = .ok (IdSet.ofList us) := by
  refine parse_eq_ok_iff.mpr ⟨?_, fun u => ?_⟩
  · rw [hitems, List.forall_mem_map]
    intro v hv
    rw [hread v hv]
    rfl
  · rw [hitems, IdSet.mem_ofList]
    constructor
    · exact fun hu => ⟨text u, List.mem_map_of_mem hu, hread u hu⟩
    · rintro ⟨item, hitem, hu⟩
      obtain ⟨v, hv, rfl⟩ := List.mem_map.mp hitem
      rw [hread v hv] at hu
      exact Option.some.inj hu ▸ hv

theorem parse_congr (h : items values' = items values) : parse values' = parse values := by
  rw [parse, h, parse]

/-- Two filters one after the other. -/
theorem parse_append (values values' : List String) :
    parse (values ++ values') = do return (← parse values) ∪ (← parse values') := by
  cases hleft : parse values with
  | error e =>
    obtain ⟨good, rest, hitems, hgood, hnone⟩ := parse_eq_error_iff.mp hleft
    refine parse_eq_error_iff.mpr ⟨good, rest ++ items values', ?_, hgood, hnone⟩
    rw [items_append, hitems, List.append_assoc, List.cons_append]
  | ok ids =>
    obtain ⟨hall, hmem⟩ := parse_eq_ok_iff.mp hleft
    cases hright : parse values' with
    | error e =>
      obtain ⟨good, rest, hitems, hgood, hnone⟩ := parse_eq_error_iff.mp hright
      refine parse_eq_error_iff.mpr ⟨items values ++ good, rest, ?_, ?_, hnone⟩
      · rw [items_append, hitems, List.append_assoc]
      · exact List.forall_mem_append.mpr ⟨hall, hgood⟩
    | ok ids' =>
      obtain ⟨hall', hmem'⟩ := parse_eq_ok_iff.mp hright
      refine parse_eq_ok_iff.mpr ⟨?_, fun u => ?_⟩
      · rw [items_append]
        exact List.forall_mem_append.mpr ⟨hall, hall'⟩
      · simp only [IdSet.mem_union, hmem, hmem', items_append, List.mem_append, or_and_right, exists_or]

theorem parse_of_same_items (h : parse values = .ok ids) (hsame : ∀ item, item ∈ items values' ↔ item ∈ items values) :
    parse values' = .ok ids := by
  rw [parse_eq_ok_iff] at h ⊢
  simpa only [hsame] using h

end Filter

/-- A filter is told by its items in order. If all of them are identifiers it is the set of these, and otherwise the
    first that is none is the error. So it does not matter which of the texts come one by one and which joined by
    commas, nor where blanks and commas stand between them; two filters one after the other come to the union of their
    sets, or to the error of the first that has one; and as long as there is no error, only which items there are
    matters, not how often or in what order. -/
theorem Filter.parse_by_items (values : List String) :
    (∀ values', items values' = items values → parse values' = parse values) ∧
    (∀ ids, parse values = .ok ids ↔ (∀ item ∈ items values, (Uuid.readLoose? item).isSome) ∧
      ∀ u, u ∈ ids ↔ ∃ item ∈ items values, Uuid.readLoose? item = some u) ∧
    (∀ e, parse values = .error e ↔ ∃ good rest, items values = good ++ e.item :: rest ∧
      (∀ item ∈ good, (Uuid.readLoose? item).isSome) ∧ Uuid.readLoose? e.item = none) ∧
    parse [",".intercalate values] = parse values ∧
    (∀ a b c, values = a ++ b ++ c → parse (a ++ ",".intercalate b :: c) = parse values) ∧
    (∀ a b, values = a ++ b → parse values = do return (← parse a) ∪ (← parse b)) ∧
    (∀ a b blank, values = a ++ b → (∀ c ∈ blank.toList, Text.isBlank c = true ∨ c = ',') →
      parse (a ++ blank :: b) = parse values) ∧
    ∀ ids values', parse values = .ok ids → (∀ item, item ∈ items values' ↔ item ∈ items values) →
      parse values' = .ok ids := by
  refine ⟨fun _ => parse_congr, fun _ => parse_eq_ok_iff, fun _ => parse_eq_error_iff,
    parse_congr (items_intercalate values), ?_, ?_, ?_, fun _ _ => parse_of_same_items⟩
  · rintro a b c rfl
    refine parse_congr ?_
    rw [items_append, items_cons, items_intercalate, items_append, items_append, List.append_assoc]
  · rintro a b rfl
    exact parse_append a b
  · rintro a b blank rfl hblank
    refine parse_congr ?_
    rw [items_append, items_cons, items_of_blank hblank, List.nil_append, items_append]

/-- The same two identifiers with blanks between them, and the other way round with one of them twice; and a filter in
    which the second item is the first error. -/
theorem Filter.parse_by_items_blank :
    let u : Uuid := ⟨1, by decide⟩
    let values := [(default : Uuid).text, u.text]
    let ids := IdSet.ofList [default, u]
    (∀ c ∈ " ,\t".toList, Text.isBlank c = true ∨ c = ',') ∧
    parse [(default : Uuid).text, " ,\t", u.text] = .ok ids ∧
    (∀ item, item ∈ items [u.text, (default : Uuid).text, u.text] ↔ item ∈ items values) ∧
    parse [u.text, (default : Uuid).text, u.text] = .ok ids ∧
    parse [u.text ++ ",x", "y"] = .error ⟨['x']⟩ := by
  intro u values ids
  have hblank : ∀ c ∈ " ,\t".toList, Text.isBlank c = true ∨ c = ',' := List.forall_iff_forall_mem.mp (by decide)
  have hitems : items values = [(default : Uuid).text.toList, u.text.toList] := by decide
  have hagain : items [u.text, (default : Uuid).text, u.text] =
    [u.text.toList, (default : Uuid).text.toList, u.text.toList] := by decide
  have hvalues : parse values = .ok ids :=
    parse_of_reads [default, u] (·.text.toList) hitems (by decide)
  have hsame : ∀ item, item ∈ items [u.text, (default : Uuid).text, u.text] ↔ item ∈ items values := by
    intro item
    rw [hitems, hagain]
    simp only [List.mem_cons, List.not_mem_nil, or_false]
    exact ⟨fun h => h.elim .inr id, .inr⟩
  obtain ⟨-, -, -, -, -, -, hinsert, hset⟩ := parse_by_items values
  obtain ⟨-, -, herror, -⟩ := parse_by_items [u.text ++ ",x", "y"]
  refine ⟨hblank, (hinsert [_] [_] " ,\t" rfl hblank).trans hvalues, hsame, hset ids _ hvalues hsame, ?_⟩
  exact (herror ⟨['x']⟩).mpr ⟨[u.text.toList], [['y']], by decide, by decide, by decide⟩

end Taskboard
