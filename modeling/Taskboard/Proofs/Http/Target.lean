import Taskboard.Proofs.Http.Tracking
import Taskboard.Proofs.Http.Url

/-! What a request is recorded under. Its path and query go through a URL, so they are recorded as they are exactly
    if they hold no character that a URL has no room for (`target_recorded`); and a request that is no task need not
    have one of the four paths for its own, but only for what is left of it. -/

namespace Taskboard
namespace Http

section Target
variable {c : Char} {path query : List Char}

theorem mem_join : c ∈ join path query ↔ c ∈ path ∨ c ∈ query ∨ c = '?' ∧ query ≠ [] := by
  rw [join]
  split
  next h => simp [h]
  next h => simp [h, or_comm]

theorem join_left_cancel {path' : List Char} (h : join path query = join path' query) : path = path' := by
  unfold join at h
  split at h
  · exact h
  · exact List.append_cancel_right h

/-- Nothing that vanishes and no `#` is left. -/
theorem notMem_target (path query : List Char) (hc : Url.vanishes c = true ∨ c = '#') :
    c ∉ join ((Url.kept path).flatMap coded) ((Url.kept query).takeWhile (· ≠ '#')) := by
  have hquery : c ∉ (Url.kept query).takeWhile (· ≠ '#') := by
    intro h
    rcases hc with hc | rfl
    · have hkept := (Url.mem_kept.mp ((List.takeWhile_prefix _).subset h)).2
      rw [hc] at hkept
      cases hkept
    · simpa using List.mem_takeWhile_imp h
  have hpath : c ∉ (Url.kept path).flatMap coded := by
    intro h
    rcases hc with hc | rfl
    · obtain ⟨d, hd, hcd⟩ := List.mem_flatMap.mp h
      rw [not_vanishes_of_mem_coded (Url.mem_kept.mp hd).2 hcd] at hc
      cases hc
    · exact notMem_flatMap_coded (by decide) h
  rw [mem_join]
  rintro (h | h | ⟨rfl, -⟩)
  · exact hpath h
  · exact hquery h
  · revert hc
    decide

theorem target_eq_iff : join ((Url.kept path).flatMap coded) ((Url.kept query).takeWhile (· ≠ '#')) = join path query ↔
    (∀ c ∈ path, Plain c) ∧ ∀ c ∈ query, c ∉ ['#', '\t', '\r', '\n'] := by
  have hquery_iff (c : Char) : c ∉ ['#', '\t', '\r', '\n'] ↔ c ≠ '#' ∧ Url.vanishes c = false := by
    simp [Url.vanishes, and_assoc]
  simp only [hquery_iff]
  constructor
  · intro h
    have hstays : ∀ c, c ∈ path ∨ c ∈ query → c ≠ '#' ∧ Url.vanishes c = false := by
      intro c hc
      by_contra hnot
      refine notMem_target path query ?_ (h ▸ mem_join.mpr (hc.imp_right .inl))
      rwa [not_and_or, Bool.not_eq_false, not_not, or_comm] at hnot
    have hpath : Url.kept path = path := Url.kept_eq_self fun c hc => (hstays c (.inl hc)).2
    have hquery : (Url.kept query).takeWhile (· ≠ '#') = query := by
      rw [Url.kept_eq_self fun c hc => (hstays c (.inr hc)).2, List.takeWhile_eq_self_iff]
      exact fun c hc => decide_eq_true (hstays c (.inr hc)).1
    rw [hpath, hquery] at h
    have hcoded : path.flatMap coded = path := join_left_cancel h
    refine ⟨fun c hc => plain_iff.mpr ⟨fun hmem => ?_, (hstays c (.inl hc)).2⟩, fun c hc => hstays c (.inr hc)⟩
    exact notMem_flatMap_coded hmem (hcoded.symm ▸ hc)
  · rintro ⟨hpath, hquery⟩
    have hcoded : (Url.kept path).flatMap coded = path := by
      rw [Url.kept_eq_self fun c hc => (plain_iff.mp (hpath c hc)).2]
      exact flatMap_coded fun c hc => (plain_iff.mp (hpath c hc)).1
    have hkept : (Url.kept query).takeWhile (· ≠ '#') = query := by
      rw [Url.kept_eq_self fun c hc => (hquery c hc).2, List.takeWhile_eq_self_iff]
      exact fun c hc => decide_eq_true (hquery c hc).1
    rw [hcoded, hkept]

theorem notMem_path (route : Route) : ∀ c ∈ ['?', '#', '\\', '%'], c ∉ route.path.toList := by
  cases route <;> exact List.forall_iff_forall_mem.mp (by decide)

theorem untracked_eq_false (hc : c ∈ ['?', '#', '\\', '%']) (hpath : c ∈ path) : Route.untracked path = false := by
  rw [Route.untracked, List.any_eq_false]
  intro route _ heq
  rw [of_decide_eq_true heq] at hpath
  exact notMem_path route c hc hpath

/-- Coding makes no path one of the untracked ones. -/
theorem untracked_flatMap_coded (path : List Char) : Route.untracked (path.flatMap coded) = Route.untracked path := by
  by_cases h : ∀ c ∈ path, c ∉ ['?', '#', '\\']
  · rw [flatMap_coded h]
  · obtain ⟨c, hpath, hc⟩ : ∃ c ∈ path, c ∈ ['?', '#', '\\'] := by
      simpa only [not_forall, not_not, exists_prop] using h
    obtain ⟨s, hs, -⟩ := coded_of_mem hc
    have hpercent : '%' ∈ path.flatMap coded := List.mem_flatMap.mpr ⟨c, hpath, hs ▸ List.mem_cons_self⟩
    rw [untracked_eq_false (by decide) hpercent, untracked_eq_false (List.mem_append_left ['%'] hc) hpath]

/-- A request leaves every store as it is exactly if it is no task. -/
theorem handle_store_eq_self_iff {r : Request} :
    (∀ settings visit s, (handle settings visit r s).store = s) ↔ Route.untracked r.url.path = true := by
  constructor
  · intro h
    by_contra hpath
    have hstore := h {} ⟨default, 0, none⟩ ⟨1, [], []⟩
    rw [handle_store (s := ⟨1, [], []⟩) {} r nofun, if_neg hpath] at hstore
    cases hstore
  · intro hpath settings visit s
    rw [handle_store_eq, if_pos hpath]

end Target

/-- What a request is recorded under. Tabs and ends of line are left out of its path and its query, the query ends in
    front of its first `#`, and `?`, `#` and backslash are coded in the path. So path and query are recorded as they
    are exactly if they hold none of these characters, `?` and backslash in the query apart. And a request is no task
    exactly if its path is an untracked one once tabs and ends of line are left out. -/
theorem target_recorded {r : Request} (hroot : r.path.toList.head? = some '/') :
    let path := Url.kept r.path.toList
    let query := (Url.kept r.query.toList).takeWhile (· ≠ '#')
    r.target = String.ofList (join (path.flatMap coded) query) ∧
    (r.target = String.ofList (join r.path.toList r.query.toList) ↔
      (∀ c ∈ r.path.toList, Plain c) ∧ ∀ c ∈ r.query.toList, c ∉ ['#', '\t', '\r', '\n']) ∧
    ((∀ settings visit s, (handle settings visit r s).store = s) ↔
      String.ofList path ∈ ["/health", "/docs", "/redoc", "/openapi.json"]) := by
  intro path query
  have htarget : r.target = String.ofList (join (path.flatMap coded) query) := by
    rw [Request.target, Request.url_eq hroot]
  refine ⟨htarget, ?_, ?_⟩
  · rw [htarget, String.ofList_inj]
    exact target_eq_iff
  · rw [handle_store_eq_self_iff, Request.url_eq hroot]
    show Route.untracked (path.flatMap coded) = true ↔ _
    rw [untracked_flatMap_coded, untracked_iff]

/-- A question mark in the path and a fragment behind the query. -/
theorem target_recorded_coded :
    let r : Request := { path := "/a?b", query := "x=\\#y" }
    r.path.toList.head? = some '/' ∧ r.target = "/a%3Fb?x=\\" ∧
    r.target ≠ String.ofList (join r.path.toList r.query.toList) := by
  intro r
  have hroot : r.path.toList.head? = some '/' := by decide
  obtain ⟨htarget, hverbatim, -⟩ := target_recorded hroot
  refine ⟨hroot, htarget.trans (by decide), fun h => ?_⟩
  exact absurd (hverbatim.mp h).1 (by decide)

/-- A tab is lost from the path, what follows a `#` is lost from the query, and a path with a tab behind it is taken for
    an untracked one. -/
theorem target_broken :
    let tab : Request := { path := "/a\tb" }
    let fragment : Request := { path := "/a", query := "x#y" }
    let other : Request := { path := "/health\t" }
    (tab.path.toList.head? = some '/' ∧ tab.target = "/ab" ∧ "/ab" ≠ tab.path) ∧
    (fragment.path.toList.head? = some '/' ∧ fragment.target = "/a?x" ∧ "/a?x" ≠ "/a" ++ "?" ++ fragment.query) ∧
    other.path.toList.head? = some '/' ∧ (∀ settings visit s, (handle settings visit other s).store = s) ∧
      other.path ∉ ["/health", "/docs", "/redoc", "/openapi.json"] := by
  intro tab fragment other
  refine ⟨by decide, by decide, by decide, handle_store_eq_self_iff.mpr (by decide), by decide⟩

end Http
end Taskboard
