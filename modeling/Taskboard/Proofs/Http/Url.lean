import Mathlib.Data.List.Basic
import Mathlib.Data.List.TakeDrop
import Mathlib.Data.List.TakeWhile
import Taskboard.Http.Url

/-! What becomes of the path and the query of a request in its URL: tabs and ends of line vanish from both, a few
    characters of the path are coded, and the query ends in front of the first `#` (`Request.url_eq`). A path with no
    such character stays as it is, whatever the query is. -/

namespace Taskboard
namespace Http

/-! ### Characters of a path -/

/-- A character that the path of a URL keeps. -/
def Plain (c : Char) : Prop := c ∉ ['?', '#', '\\', '\t', '\r', '\n']

instance (c : Char) : Decidable (Plain c) := inferInstanceAs (Decidable (c ∉ ['?', '#', '\\', '\t', '\r', '\n']))

instance (path : List Char) : Decidable (∀ c ∈ path, Plain c) := List.decidableBAll Plain path

section Coded
variable {c : Char} {path : List Char}

theorem plain_iff : Plain c ↔ c ∉ ['?', '#', '\\'] ∧ Url.vanishes c = false := by
  simp [Plain, Url.vanishes, and_assoc]

theorem coded_of_mem (h : c ∈ ['?', '#', '\\']) : ∃ s, coded c = '%' :: s ∧ ∀ d ∈ coded c, Plain d := by
  simp only [List.mem_cons, List.not_mem_nil, or_false] at h
  rcases h with rfl | rfl | rfl
  · exact ⟨"3F".toList, rfl, by decide⟩
  · exact ⟨"23".toList, rfl, by decide⟩
  · exact ⟨"5C".toList, rfl, by decide⟩

theorem vanishes_cases (h : Url.vanishes c = true) : c = '\t' ∨ c = '\r' ∨ c = '\n' := by
  simpa [Url.vanishes, or_assoc] using h

theorem coded_of_notMem (h : c ∉ ['?', '#', '\\']) : coded c = [c] := by
  simp only [List.mem_cons, List.not_mem_nil, or_false, not_or] at h
  rw [coded, if_neg h.1, if_neg h.2.1, if_neg h.2.2]

theorem not_vanishes_of_mem_coded {d : Char} (hc : Url.vanishes c = false) (hd : d ∈ coded c) :
    Url.vanishes d = false := by
  by_cases hmem : c ∈ ['?', '#', '\\']
  · obtain ⟨s, -, hplain⟩ := coded_of_mem hmem
    exact (plain_iff.mp (hplain d hd)).2
  · rw [coded_of_notMem hmem, List.mem_singleton] at hd
    rwa [hd]

theorem notMem_flatMap_coded (h : c ∈ ['?', '#', '\\']) : c ∉ path.flatMap coded := by
  intro hmem
  obtain ⟨d, -, hd⟩ := List.mem_flatMap.mp hmem
  by_cases hdmem : d ∈ ['?', '#', '\\']
  · obtain ⟨s, -, hplain⟩ := coded_of_mem hdmem
    exact (plain_iff.mp (hplain c hd)).1 h
  · rw [coded_of_notMem hdmem, List.mem_singleton] at hd
    exact hdmem (hd ▸ h)

theorem flatMap_coded (h : ∀ c ∈ path, c ∉ ['?', '#', '\\']) : path.flatMap coded = path := by
  rw [List.flatMap_congr fun c hc => coded_of_notMem (h c hc), List.flatMap_singleton']

end Coded

/-! ### Taking a URL apart -/

namespace Url
variable {c : Char} {path s : List Char}

/-- What does not vanish of a text. -/
def kept (s : List Char) : List Char := s.filter fun c => !vanishes c

theorem mem_kept : c ∈ kept s ↔ c ∈ s ∧ vanishes c = false := by
  rw [kept, List.mem_filter, Bool.not_eq_true']

theorem kept_eq_self (h : ∀ c ∈ s, vanishes c = false) : kept s = s :=
  List.filter_eq_self.mpr fun c hc => by rw [h c hc, Bool.not_false]

/-- It does not matter whether a path is coded before or after characters vanish from it. -/
theorem kept_flatMap_coded (path : List Char) : kept (path.flatMap coded) = (kept path).flatMap coded := by
  induction path with
  | nil => rfl
  | cons c path ih =>
    have hcons : kept ((c :: path).flatMap coded) = kept (coded c) ++ (kept path).flatMap coded := by
      rw [List.flatMap_cons, ← ih, kept, List.filter_append]
      rfl
    rw [hcons]
    cases hc : vanishes c with
    | true =>
      have hcoded : coded c = [c] := by
        rcases vanishes_cases hc with rfl | rfl | rfl <;> rfl
      simp [hcoded, kept, hc]
    | false =>
      have hcoded : kept (coded c) = coded c := kept_eq_self fun d hd => not_vanishes_of_mem_coded hc hd
      rw [hcoded, kept, kept, List.filter_cons_of_pos (by simp [hc]), List.flatMap_cons]

theorem split_join (hmark : '?' ∉ path) (hhash : '#' ∉ path) (query : List Char) :
    split (join path query) = ⟨kept path, (kept query).takeWhile (· ≠ '#')⟩ := by
  have hhash' : ∀ c ∈ kept path, decide (c ≠ '#') = true := fun c hc =>
    decide_eq_true fun h => hhash (h ▸ (mem_kept.mp hc).1)
  have hmark' : ∀ c ∈ kept path, decide (c ≠ '?') = true := fun c hc =>
    decide_eq_true fun h => hmark (h ▸ (mem_kept.mp hc).1)
  rw [join]
  split
  next h =>
    subst h
    rw [split, ← kept, List.takeWhile_eq_self_iff.mpr hhash', List.span_eq_takeWhile_dropWhile,
      List.takeWhile_eq_self_iff.mpr hmark', List.dropWhile_eq_nil_iff.mpr hmark']
    rfl
  · have hkept : kept (path ++ '?' :: query) = kept path ++ '?' :: kept query := by
      rw [kept, List.filter_append, List.filter_cons_of_pos (by decide)]
      rfl
    rw [split, ← kept, hkept, List.takeWhile_append_of_pos hhash', List.takeWhile_cons_of_pos (by decide),
      List.span_eq_takeWhile_dropWhile]
    simp only [List.takeWhile_append_of_pos hmark', List.dropWhile_append_of_pos hmark']
    simp

end Url

section Request
variable {r : Request}

theorem Request.url_eq (hroot : r.path.toList.head? = some '/') :
    r.url = ⟨(Url.kept r.path.toList).flatMap coded, (Url.kept r.query.toList).takeWhile (· ≠ '#')⟩ := by
  obtain ⟨rest, hpath⟩ : ∃ rest, r.path.toList = '/' :: rest := by
    cases hlist : r.path.toList with
    | nil => rw [hlist] at hroot; cases hroot
    | cons c rest => rw [hlist] at hroot; exact ⟨rest, by rw [Option.some.inj hroot]⟩
  have hrooted : rooted (r.path.toList.flatMap coded) = r.path.toList.flatMap coded := by
    rw [hpath, List.flatMap_cons, coded_of_notMem (by decide), List.singleton_append, rooted]
  rw [Request.url, compose, hrooted, Url.split_join (notMem_flatMap_coded (by decide))
    (notMem_flatMap_coded (by decide)), Url.kept_flatMap_coded]

theorem Request.url_path (hroot : r.path.toList.head? = some '/') (hplain : ∀ c ∈ r.path.toList, Plain c) :
    r.url.path = r.path.toList := by
  rw [url_eq hroot, Url.kept_eq_self fun c hc => (plain_iff.mp (hplain c hc)).2]
  exact flatMap_coded fun c hc => (plain_iff.mp (hplain c hc)).1

end Request

end Http
end Taskboard
