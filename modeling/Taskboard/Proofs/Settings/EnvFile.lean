import Mathlib.Data.List.Basic
import Mathlib.Data.List.Induction
import Taskboard.Settings.Sources

/-! What the statements of an env file come to. Each spelling of a name is a name of its own in the file; of those
    that differ in case only, the one that comes up last is taken (`spelling?`), with what the last statement of it
    says (`Says`). A change of statements that none behind them reads a name of leaves all other names as they are
    (`Agree.foldl`). -/

namespace Taskboard

/-- Names that differ in nothing but case. -/
def SameName (a b : String) : Prop := Sources.fold a = Sources.fold b

instance (a b : String) : Decidable (SameName a b) := inferInstanceAs (Decidable (Sources.fold a = Sources.fold b))

namespace EnvFile
variable {outside outside' : String → Option String} {t t' : Table} {S : List Statement} {d : Statement}
  {n m name : String} {value : Option String}

/-! ### Names and values of a table -/

/-- What a table has under a name: a value or that there is none, or nothing at all. -/
def lookup (t : Table) (name : String) : Option (Option String) := (t.find? (·.1 = name)).map (·.2)

theorem lookup_cons (entry : String × Option String) (t : Table) (n : String) :
    lookup (entry :: t) n = if entry.1 = n then some entry.2 else lookup t n := by
  by_cases h : entry.1 = n
  · rw [lookup, List.find?_cons_of_pos (by simpa using h), if_pos h, Option.map_some]
  · rw [lookup, List.find?_cons_of_neg (by simpa using h), if_neg h, lookup]

theorem lookup_put (n : String) (value : Option String) (t : Table) (m : String) :
    lookup (put n value t) m = if n = m then some value else lookup t m := by
  induction t with
  | nil => rw [put, lookup_cons]
  | cons entry t ih =>
    rw [put]
    by_cases h : entry.1 = n
    · rw [if_pos h, lookup_cons, lookup_cons, h]
      split <;> rfl
    · rw [if_neg h, lookup_cons, lookup_cons, ih]
      by_cases hm : entry.1 = m
      · rw [if_pos hm, if_pos hm, if_neg fun hn => h (hm.trans hn.symm)]
      · rw [if_neg hm, if_neg hm]

theorem map_fst_put (n : String) (value : Option String) (t : Table) :
    (put n value t).map (·.1) = if n ∈ t.map (·.1) then t.map (·.1) else t.map (·.1) ++ [n] := by
  induction t with
  | nil => rfl
  | cons entry t ih =>
    rw [put, List.map_cons]
    by_cases h : entry.1 = n
    · rw [if_pos h, if_pos (h ▸ List.mem_cons_self), List.map_cons, h]
    · rw [if_neg h, List.map_cons, ih]
      by_cases hn : n ∈ t.map (·.1)
      · rw [if_pos hn, if_pos (List.mem_cons_of_mem _ hn)]
      · rw [if_neg hn, if_neg (List.not_mem_cons_of_ne_of_not_mem (Ne.symm h) hn), List.cons_append]

theorem valueOf_eq (outside : String → Option String) (t : Table) (n : String) :
    valueOf outside t n = match lookup t n with
      | some value => some (value.getD "")
      | none => outside n := by
  rw [valueOf, lookup]
  cases t.find? (·.1 = n) <;> rfl

theorem lookup_eq_none_iff : lookup t n = none ↔ n ∉ t.map (·.1) := by
  rw [lookup, Option.map_eq_none_iff, List.find?_eq_none, List.mem_map]
  simp only [decide_eq_true_eq, not_exists, not_and]

theorem lookup_of_mem (hkeys : (t.map (·.1)).Nodup) {entry : String × Option String} (h : entry ∈ t) :
    lookup t entry.1 = some entry.2 := by
  induction t with
  | nil => cases h
  | cons first t ih =>
    rw [List.map_cons, List.nodup_cons] at hkeys
    rw [lookup_cons]
    rcases List.mem_cons.mp h with rfl | h
    · exact if_pos rfl
    · have hne : first.1 ≠ entry.1 := fun heq => hkeys.1 (heq ▸ List.mem_map_of_mem h)
      rw [if_neg hne, ih hkeys.2 h]

/-- The value of a name, case disregarded, is the value of the last of its spellings. -/
theorem valueIn_eq (hkeys : (t.map (·.1)).Nodup) (name : String) :
    Sources.valueIn t name = ((t.map (·.1)).filter (SameName · name)).getLast?.bind (lookup t) := by
  rw [List.filter_map, List.getLast?_map, List.getLast?_filter]
  show (t.reverse.find? fun entry => SameName entry.1 name).map (·.2) =
    ((t.reverse.find? fun entry => SameName entry.1 name).map (·.1)).bind (lookup t)
  cases h : t.reverse.find? (fun entry => SameName entry.1 name) with
  | none => rfl
  | some entry =>
    have hmem : entry ∈ t := List.mem_reverse.mp (List.mem_of_find?_eq_some h)
    exact (lookup_of_mem hkeys hmem).symm

/-! ### What statements define -/

/-- What a statement says behind others: the references in its value are filled in with what these define. -/
def Statement.filled (outside : String → Option String) (before : List Statement) (d : Statement) : Option String :=
  d.value.map fun v => String.ofList (Template.fill (valueOf outside (defineAll outside before)) v)

theorem defineAll_append (outside : String → Option String) (S T : List Statement) :
    defineAll outside (S ++ T) = T.foldl (define outside) (defineAll outside S) := List.foldl_append

theorem defineAll_concat (outside : String → Option String) (S : List Statement) (d : Statement) :
    defineAll outside (S ++ [d]) = put d.name (d.filled outside S) (defineAll outside S) := by
  rw [defineAll_append]
  rfl

theorem eraseDups_concat (names : List String) (n : String) :
    (names ++ [n]).eraseDups = if n ∈ names then names.eraseDups else names.eraseDups ++ [n] := by
  rw [List.eraseDups_append]
  split
  next h => rw [show [n].removeAll names = [] by simp [List.removeAll, h], List.eraseDups_nil, List.append_nil]
  next h =>
    rw [show [n].removeAll names = [n] by simp [List.removeAll, h]]
    rfl

/-- The names of a table stand in the order in which they first occur. -/
theorem map_fst_defineAll (outside : String → Option String) (S : List Statement) :
    (defineAll outside S).map (·.1) = (S.map (·.name)).eraseDups := by
  induction S using List.reverseRecOn with
  | nil => rfl
  | append_singleton S d ih =>
    rw [defineAll_concat, map_fst_put, ih, List.map_append, List.map_singleton, eraseDups_concat]
    simp only [List.mem_eraseDups]

theorem nodup_defineAll (outside : String → Option String) (S : List Statement) :
    ((defineAll outside S).map (·.1)).Nodup := by
  induction S using List.reverseRecOn with
  | nil => exact List.nodup_nil
  | append_singleton S d ih =>
    rw [defineAll_concat, map_fst_put]
    split
    · exact ih
    next h =>
      refine List.nodup_append.mpr ⟨ih, List.pairwise_singleton _ _, fun n hn m hm heq => h ?_⟩
      rwa [← List.mem_singleton.mp hm, ← heq]

theorem concat_eq_append_cons {before after : List Statement} {d' : Statement} (h : S ++ [d] = before ++ d' :: after) :
    (after = [] ∧ S = before ∧ d = d') ∨ ∃ rest, after = rest ++ [d] ∧ S = before ++ d' :: rest := by
  rcases List.eq_nil_or_concat after with rfl | ⟨rest, last, rfl⟩
  · obtain ⟨rfl, hd⟩ := List.append_inj' h rfl
    exact .inl ⟨rfl, rfl, List.singleton_inj.mp hd⟩
  · rw [List.concat_eq_append, ← List.cons_append, ← List.append_assoc] at h
    obtain ⟨rfl, hd⟩ := List.append_inj' h rfl
    obtain rfl := List.singleton_inj.mp hd
    exact .inr ⟨rest, List.concat_eq_append, rfl⟩

/-- Under each exact name there is what the last statement of it says. -/
theorem lookup_defineAll_eq_some_iff : lookup (defineAll outside S) n = some value ↔
    ∃ before d after, S = before ++ d :: after ∧ d.name = n ∧ (∀ e ∈ after, e.name ≠ n) ∧
      value = d.filled outside before := by
  -- The last statement decides about its own name and leaves the others to those before it.
  induction S using List.reverseRecOn with
  | nil =>
    constructor
    · rintro ⟨⟩
    · rintro ⟨before, d, after, h, -⟩
      exact absurd h.symm (List.append_ne_nil_of_right_ne_nil _ (List.cons_ne_nil _ _))
  | append_singleton S d ih =>
    rw [defineAll_concat, lookup_put]
    constructor
    · intro h
      by_cases hname : d.name = n
      · rw [if_pos hname, Option.some.injEq] at h
        exact ⟨S, d, [], rfl, hname, nofun, h.symm⟩
      · rw [if_neg hname] at h
        obtain ⟨before, d', after, rfl, hd', hafter, hvalue⟩ := ih.mp h
        refine ⟨before, d', after ++ [d], by rw [List.append_assoc, List.cons_append], hd', fun e he => ?_, hvalue⟩
        rcases List.mem_append.mp he with he | he
        · exact hafter e he
        · rwa [List.mem_singleton.mp he]
    · rintro ⟨before, d', after, hS, hd', hafter, rfl⟩
      rcases concat_eq_append_cons hS with ⟨rfl, rfl, rfl⟩ | ⟨rest, rfl, rfl⟩
      · exact if_pos hd'
      · rw [if_neg (hafter d (List.mem_append_right _ List.mem_cons_self))]
        exact ih.mpr ⟨before, d', rest, rfl, hd', fun e he => hafter e (List.mem_append_left _ he), rfl⟩

theorem lookup_defineAll_eq_none_iff : lookup (defineAll outside S) n = none ↔ ∀ d ∈ S, d.name ≠ n := by
  rw [lookup_eq_none_iff, map_fst_defineAll, List.mem_eraseDups]
  simp only [List.mem_map, not_exists, not_and, ne_eq]

/-! ### What is said of a name -/

/-- The spelling of a name that counts: of all that differ in case only, the one whose first statement comes last. -/
def spelling? (S : List Statement) (name : String) : Option String :=
  ((S.map (·.name)).filter (SameName · name)).eraseDups.getLast?

/-- Statements say of a name what the last statement of the spelling that counts says: a value, or that there is
    none. -/
inductive Says (outside : String → Option String) (S : List Statement) (name : String) : Option String → Prop where
  | last {before after : List Statement} {d : Statement} (statements : S = before ++ d :: after)
    (spelling : spelling? S name = some d.name) (last : ∀ e ∈ after, e.name ≠ d.name) :
    Says outside S name (d.filled outside before)

theorem eraseDups_filter (p : String → Bool) (names : List String) :
    (names.filter p).eraseDups = names.eraseDups.filter p := by
  induction names using List.reverseRecOn with
  | nil => rfl
  | append_singleton names n ih =>
    rw [List.filter_append, eraseDups_concat]
    cases hn : p n with
    | true =>
      have hone : [n].filter p = [n] := List.filter_cons_of_pos hn
      rw [hone, eraseDups_concat, ih]
      simp only [List.mem_filter, hn, and_true]
      split
      · rfl
      · rw [List.filter_append, hone]
    | false =>
      have hnone : [n].filter p = [] := List.filter_cons_of_neg (by rw [hn]; exact Bool.false_ne_true)
      rw [hnone, List.append_nil, ih]
      split
      · rfl
      · rw [List.filter_append, hnone, List.append_nil]

theorem spelling?_eq (S : List Statement) (name : String) :
    spelling? S name = ((S.map (·.name)).eraseDups.filter (SameName · name)).getLast? := by
  rw [spelling?, eraseDups_filter]

theorem spelling?_eq_none_iff : spelling? S name = none ↔ ∀ d ∈ S, ¬SameName d.name name := by
  rw [spelling?_eq, List.getLast?_eq_none_iff, List.filter_eq_nil_iff]
  simp only [List.mem_eraseDups, List.mem_map, forall_exists_index, and_imp, forall_apply_eq_imp_iff₂,
    decide_eq_true_eq]

theorem sameName_of_spelling? (h : spelling? S name = some n) : SameName n name ∧ ∃ d ∈ S, d.name = n := by
  rw [spelling?_eq] at h
  obtain ⟨hmem, hsame⟩ := List.mem_filter.mp (List.mem_of_getLast? h)
  exact ⟨of_decide_eq_true hsame, List.mem_map.mp (List.mem_eraseDups.mp hmem)⟩

theorem valueIn_defineAll (outside : String → Option String) (S : List Statement) (name : String) :
    Sources.valueIn (defineAll outside S) name = (spelling? S name).bind (lookup (defineAll outside S)) := by
  rw [valueIn_eq (nodup_defineAll outside S), map_fst_defineAll, spelling?_eq]

theorem valueIn_defineAll_eq_some_iff :
    Sources.valueIn (defineAll outside S) name = some value ↔ Says outside S name value := by
  rw [valueIn_defineAll, Option.bind_eq_some_iff]
  constructor
  · rintro ⟨n, hspelling, hlookup⟩
    obtain ⟨before, d, after, hS, rfl, hafter, rfl⟩ := lookup_defineAll_eq_some_iff.mp hlookup
    exact .last hS hspelling hafter
  · rintro ⟨hS, hspelling, hafter⟩
    exact ⟨_, hspelling, lookup_defineAll_eq_some_iff.mpr ⟨_, _, _, hS, rfl, hafter, rfl⟩⟩

theorem valueIn_defineAll_eq_none_iff :
    Sources.valueIn (defineAll outside S) name = none ↔ ∀ d ∈ S, ¬SameName d.name name := by
  rw [valueIn_defineAll, ← spelling?_eq_none_iff]
  cases h : spelling? S name with
  | none => exact ⟨fun _ => rfl, fun _ => rfl⟩
  | some n =>
    obtain ⟨-, d, hd, hname⟩ := sameName_of_spelling? h
    rw [Option.bind_some, lookup_defineAll_eq_none_iff]
    exact ⟨fun hnone => absurd hname (hnone d hd), nofun⟩

/-! ### Changes that do not matter -/

/-- Some value refers to the name, and no statement before it defines it. -/
def Reads (S : List Statement) (n : String) : Prop :=
  ∃ before d after, S = before ++ d :: after ∧ n ∈ d.references ∧ ∀ e ∈ before, e.name ≠ n

theorem reads_cons : Reads (d :: S) n ↔ n ∈ d.references ∨ d.name ≠ n ∧ Reads S n := by
  constructor
  · rintro ⟨before, d', after, hS, href, hbefore⟩
    cases before with
    | nil =>
      obtain ⟨rfl, rfl⟩ := List.cons.inj hS
      exact .inl href
    | cons first before =>
      obtain ⟨rfl, rfl⟩ := List.cons.inj hS
      obtain ⟨hd, hbefore⟩ := List.forall_mem_cons.mp hbefore
      exact .inr ⟨hd, before, d', after, rfl, href, hbefore⟩
  · rintro (href | ⟨hd, before, d', after, rfl, href, hbefore⟩)
    · exact ⟨[], d, S, rfl, href, nofun⟩
    · exact ⟨d :: before, d', after, rfl, href, List.forall_mem_cons.mpr ⟨hd, hbefore⟩⟩

theorem fill_congr {value value' : String → Option String} {s : List Char}
    (h : ∀ n ∈ Template.references s, value n = value' n) : Template.fill value s = Template.fill value' s := by
  refine List.flatMap_congr fun piece hpiece => ?_
  cases piece with
  | char c => rfl
  | reference n fallback =>
    have hn : n ∈ Template.references s := List.mem_filterMap.mpr ⟨_, hpiece, rfl⟩
    rw [Template.Piece.fill, Template.Piece.fill, h n hn]

/-- The same is found under all names but some, be it in the tables or outside of them. -/
structure Agree (C : String → Prop) (outside outside' : String → Option String) (t t' : Table) : Prop where
  lookup : ∀ n, ¬C n → lookup t n = lookup t' n
  outside : ∀ n, ¬C n → EnvFile.lookup t n = none → outside n = outside' n

section Agree
variable {C : String → Prop}

theorem Agree.valueOf (h : Agree C outside outside' t t') (hn : ¬C n) :
    valueOf outside t n = valueOf outside' t' n := by
  rw [valueOf_eq, valueOf_eq, ← h.lookup n hn]
  cases hlookup : EnvFile.lookup t n with
  | none => exact h.outside n hn hlookup
  | some value => rfl

theorem Agree.mono {C' : String → Prop} (h : Agree C outside outside' t t') (hC : ∀ n, C n → C' n) :
    Agree C' outside outside' t t' :=
  ⟨fun n hn => h.lookup n (mt (hC n) hn), fun n hn => h.outside n (mt (hC n) hn)⟩

theorem Agree.define (h : Agree C outside outside' t t') (hreads : ∀ n ∈ d.references, ¬C n) :
    Agree (fun n => C n ∧ d.name ≠ n) outside outside' (define outside t d) (define outside' t' d) := by
  have hvalue : (d.value.map fun v => String.ofList (Template.fill (EnvFile.valueOf outside t) v)) =
      d.value.map fun v => String.ofList (Template.fill (EnvFile.valueOf outside' t') v) := by
    refine Option.map_congr fun v hv => congrArg String.ofList (fill_congr fun n hn => h.valueOf (hreads n ?_))
    rw [Statement.references, hv]
    exact hn
  have hother {n : String} (hn : ¬(C n ∧ d.name ≠ n)) (hname : d.name ≠ n) : ¬C n := fun hC => hn ⟨hC, hname⟩
  constructor
  · intro n hn
    rw [EnvFile.define, EnvFile.define, lookup_put, lookup_put, hvalue]
    split
    · rfl
    next hname => exact h.lookup n (hother hn hname)
  · intro n hn hnone
    rw [EnvFile.define, lookup_put] at hnone
    split at hnone
    · cases hnone
    next hname => exact h.outside n (hother hn hname) hnone

theorem Agree.foldl (h : Agree C outside outside' t t') (hreads : ∀ n, C n → ¬Reads S n) :
    Agree (fun n => C n ∧ ∀ d ∈ S, d.name ≠ n) outside outside' (S.foldl (EnvFile.define outside) t)
      (S.foldl (EnvFile.define outside') t') := by
  induction S generalizing C t t' with
  | nil => exact h.mono fun n hn => ⟨hn, nofun⟩
  | cons d S ih =>
    -- Both tables have the same under the name of `d` from here on, so that the rest may refer to it.
    have hdefine := h.define fun n hn hC => hreads n hC (reads_cons.mpr (.inl hn))
    refine (ih hdefine ?_).mono ?_
    · rintro n ⟨hC, hname⟩ hS
      exact hreads n hC (reads_cons.mpr (.inr ⟨hname, hS⟩))
    · rintro n ⟨⟨hC, hname⟩, hS⟩
      exact ⟨hC, List.forall_mem_cons.mpr ⟨hname, hS⟩⟩

end Agree

section Edit
variable {front mid mid' back : List Statement}

/-- The statements in the middle do not count for a name: they leave its spelling as it is, and are of this spelling
    only ahead of others. -/
def Idle (front mid mid' back : List Statement) (name : String) : Prop :=
  spelling? (front ++ mid' ++ back) name = spelling? (front ++ mid ++ back) name ∧
    ∀ n, spelling? (front ++ mid ++ back) name = some n → n ∈ back.map (·.name) ∨ n ∉ (mid ++ mid').map (·.name)

theorem idle_of_unnamed (h : ∀ d ∈ mid ++ mid', ¬SameName d.name name) : Idle front mid mid' back name := by
  have hnone {T : List Statement} (hT : ∀ d ∈ T, ¬SameName d.name name) :
      (T.map (·.name)).filter (SameName · name) = [] := by
    rw [List.filter_eq_nil_iff, List.forall_mem_map]
    exact fun d hd => by simpa using hT d hd
  obtain ⟨hmid, hmid'⟩ := List.forall_mem_append.mp h
  constructor
  · simp only [spelling?, List.map_append, List.filter_append, hnone hmid, hnone hmid']
  · intro n hn
    refine .inr fun hmem => ?_
    obtain ⟨d, hd, rfl⟩ := List.mem_map.mp hmem
    exact h d hd (sameName_of_spelling? hn).1

theorem lookup_foldl_of_ne (h : ∀ d ∈ S, d.name ≠ n) :
    lookup (S.foldl (define outside) t) n = lookup t n := by
  induction S generalizing t with
  | nil => rfl
  | cons d S ih =>
    obtain ⟨hd, hS⟩ := List.forall_mem_cons.mp h
    rw [List.foldl_cons, ih hS, define, lookup_put, if_neg hd]

theorem valueIn_edit (hreads : ∀ d ∈ mid ++ mid', ¬Reads back d.name) (hidle : Idle front mid mid' back name) :
    Sources.valueIn (defineAll outside (front ++ mid' ++ back)) name =
      Sources.valueIn (defineAll outside (front ++ mid ++ back)) name := by
  obtain ⟨hspelling, hlast⟩ := hidle
  rw [valueIn_defineAll, valueIn_defineAll, hspelling]
  refine Option.bind_congr fun n hn => ?_
  have hfront : Agree (fun n => ∃ d ∈ mid ++ mid', d.name = n) outside outside
      (defineAll outside (front ++ mid')) (defineAll outside (front ++ mid)) := by
    refine ⟨fun n hn => ?_, fun _ _ _ => rfl⟩
    simp only [not_exists, not_and, List.forall_mem_append] at hn
    rw [defineAll_append, defineAll_append, lookup_foldl_of_ne hn.1, lookup_foldl_of_ne hn.2]
  have hback := hfront.foldl (S := back) (by rintro n ⟨d, hd, rfl⟩; exact hreads d hd)
  rw [defineAll_append outside (front ++ mid') back, defineAll_append outside (front ++ mid) back]
  refine hback.lookup n ?_
  -- A name of the middle that nothing behind it defines is not the spelling that counts.
  rintro ⟨⟨d, hd, rfl⟩, hne⟩
  rcases hlast _ hn with hmem | hmem
  · obtain ⟨e, he, heq⟩ := List.mem_map.mp hmem
    exact hne e he heq
  · exact hmem (List.mem_map_of_mem hd)

end Edit

theorem valueIn_outside (h : ∀ n, Reads S n → outside n = outside' n) (name : String) :
    Sources.valueIn (defineAll outside S) name = Sources.valueIn (defineAll outside' S) name := by
  rw [valueIn_defineAll, valueIn_defineAll]
  refine Option.bind_congr fun n hn => ?_
  have hempty : Agree (fun n => outside n ≠ outside' n) outside outside' [] [] :=
    ⟨fun _ _ => rfl, fun n hn _ => not_not.mp hn⟩
  refine (hempty.foldl fun n hn hS => hn (h n hS)).lookup n ?_
  rintro ⟨-, hne⟩
  obtain ⟨-, d, hd, hname⟩ := sameName_of_spelling? hn
  exact hne d hd hname

end EnvFile
end Taskboard
