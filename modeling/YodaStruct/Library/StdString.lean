import YodaStruct.Library.Scan
import Mathlib.Algebra.GroupWithZero.Nat

/-! The `std::string` members and the `std::getline` loop of the C++ library, on lists of
letters. A search that fails gives `none`, which a caller that computes with the
position reads as `npos`. -/
namespace StdString
open Scan

variable {α : Type*}

/-- The result of a failed search, the largest `size_t`. -/
def npos : ℕ := 2 ^ 64 - 1

def substr (s : List α) (pos n : ℕ) : List α := (s.drop pos).take n

theorem substr_append_left (a b : List α) : substr (a ++ b) 0 a.length = a := by
  simp [substr]

theorem length_substr_le (s : List α) (pos n : ℕ) : (substr s pos n).length ≤ s.length :=
  ((List.take_sublist _ _).trans (List.drop_sublist _ _)).length_le

variable [DecidableEq α]

def find (s : List α) (c : α) : Option ℕ := s.idxOf? c

def findFirstNotOf (s set : List α) : Option ℕ := s.findIdx? (· ∉ set)

def findLastNotOf (s set : List α) : Option ℕ :=
  (s.reverse.findIdx? (· ∉ set)).map fun i => s.length - 1 - i

/-- One call of `std::getline`: the line it extracts and what is left in the stream.
It fails when the stream is at its end. -/
def getline (delim : α) (s : List α) : Option (List α × List α) :=
  if s = [] then none else some (cut delim s, after delim s)

/-- The lines a `while (std::getline(in, line))` loop sees. A final delimiter
ends the last line and opens no further one. -/
def getlines (delim : α) : List α → List (List α)
  | [] => []
  | c :: s =>
    if c = delim then [] :: getlines delim s
    else match getlines delim s with
      | [] => [[c]]
      | line :: lines => (c :: line) :: lines

theorem find_eq_none_iff {s : List α} {c : α} : find s c = none ↔ c ∉ s := by
  simp [find, List.idxOf?_eq_none_iff]

theorem find_append_cons {a : List α} {c : α} (h : c ∉ a) (b : List α) :
    find (a ++ c :: b) c = some a.length := by
  rw [find, List.idxOf?, List.findIdx?_append]
  have ha : a.findIdx? (· == c) = none := by
    rw [List.findIdx?_eq_none_iff]
    intro x hx
    rw [beq_eq_false_iff_ne]
    rintro rfl
    exact h hx
  simp [ha, List.findIdx?_cons]

theorem find_lt {s : List α} {c : α} {i : ℕ} (h : find s c = some i) : i < s.length := by
  have hm : c ∈ s := by
    by_contra hn
    rw [find_eq_none_iff.mpr hn] at h
    cases h
  obtain ⟨a, b, rfl, ha⟩ := List.eq_append_cons_of_mem hm
  rw [find_append_cons ha] at h
  obtain rfl := Option.some.inj h
  simp

/-- The position that `find` gives parts the string at the first `c`. -/
theorem find_eq_some {s : List α} {c : α} (h : c ∈ s) :
    ∃ i, find s c = some i ∧ substr s 0 i = cut c s ∧ s.drop (i + 1) = after c s := by
  obtain ⟨a, b, rfl, ha⟩ := List.eq_append_cons_of_mem h
  refine ⟨a.length, find_append_cons ha b, ?_, ?_⟩
  · rw [substr_append_left, cut_append_of_not_mem c ha, cut_cons_self, List.append_nil]
  · rw [after_append_cons c ha, List.drop_length_add_append, List.drop_one, List.tail_cons]

theorem substr_find (s : List α) (c : α) :
    (match find s c with | none => s | some i => substr s 0 i) = cut c s := by
  by_cases h : c ∈ s
  · obtain ⟨i, hi, hs, -⟩ := find_eq_some h
    simp [hi, hs]
  · simp [find_eq_none_iff.mpr h, cut_eq_self c h]

theorem findFirstNotOf_eq_none_iff {s set : List α} :
    findFirstNotOf s set = none ↔ ∀ a ∈ s, a ∈ set := by
  simp [findFirstNotOf, List.findIdx?_eq_none_iff]

theorem findFirstNotOf_append {u t set : List α} {a : α} (hu : ∀ x ∈ u, x ∈ set)
    (ha : a ∉ set) : findFirstNotOf (u ++ a :: t) set = some u.length := by
  have hn : u.findIdx? (· ∉ set) = none := by simpa [List.findIdx?_eq_none_iff] using hu
  rw [findFirstNotOf, List.findIdx?_append, hn]
  simp [List.findIdx?_cons, ha]

theorem findLastNotOf_append {u v set : List α} {a : α} (hv : ∀ x ∈ v, x ∈ set)
    (ha : a ∉ set) : findLastNotOf (u ++ a :: v) set = some u.length := by
  have hn : v.reverse.findIdx? (· ∉ set) = none := by
    simpa [List.findIdx?_eq_none_iff] using hv
  rw [findLastNotOf, List.reverse_append, List.reverse_cons, List.append_assoc,
    List.findIdx?_append, hn]
  simp [List.findIdx?_cons, ha]

/-- The `find_first_not_of` and `find_last_not_of` positions of a string that is not blank
delimit its stripped part. -/
theorem substr_findNotOf {s set : List α} {i : ℕ} (hi : findFirstNotOf s set = some i) :
    ∃ j, findLastNotOf s set = some j ∧ i ≤ j ∧ j < s.length ∧
      substr s i (j - i + 1) = strip (· ∈ set) s := by
  obtain ⟨u, v, hs, hu, hv⟩ := exists_strip (· ∈ set) s
  simp only [decide_eq_true_eq] at hu hv
  set t := strip (· ∈ set) s with ht
  have hne : t ≠ [] := by
    intro he
    have hb : ∀ a ∈ s, a ∈ set := by simpa using (strip_eq_nil_iff _).mp (ht.symm.trans he)
    simp [findFirstNotOf_eq_none_iff.mpr hb] at hi
  obtain ⟨a, t₁, h₁⟩ := List.exists_cons_of_ne_nil hne
  obtain ⟨t₂, b, h₂⟩ := List.eq_nil_or_concat t |>.resolve_left hne
  have ha : a ∉ set := by simpa using head?_strip (l := s) (· ∈ set) (a := a) (by simp [← ht, h₁])
  have hb : b ∉ set := by
    simpa using getLast?_strip (l := s) (· ∈ set) (a := b) (by simp [← ht, h₂])
  have hfirst : findFirstNotOf s set = some u.length := by
    rw [hs, h₁, List.append_assoc, List.cons_append]
    exact findFirstNotOf_append hu ha
  have hlast : findLastNotOf s set = some (u ++ t₂).length := by
    rw [hs, h₂, List.concat_eq_append, ← List.append_assoc, List.append_assoc,
      List.singleton_append]
    exact findLastNotOf_append hv hb
  obtain rfl : i = u.length := by simpa [hi] using hfirst
  refine ⟨_, hlast, by simp, ?_, ?_⟩
  · rw [hs, h₂]; simp
  · have hl : (u ++ t₂).length - u.length + 1 = t.length := by rw [h₂]; simp
    rw [hl, substr, hs, List.append_assoc, List.drop_left, List.take_left]

theorem getlines_eq (delim : α) (s : List α) :
    getlines delim s = match getline delim s with
      | none => []
      | some (line, rest) => line :: getlines delim rest := by
  induction s with
  | nil => rfl
  | cons c s ih =>
    by_cases hc : c = delim
    · subst hc
      simp [getlines, getline, after]
    · cases s with
      | nil => simp [getlines, getline, cut, after, hc]
      | cons d s =>
        simp only [getline, reduceCtorEq, if_false] at ih ⊢
        rw [getlines, if_neg hc, ih]
        simp [cut, after, hc]

/-- The loop sees the pieces between delimiters, short of an empty last one. -/
theorem splitOn_eq_getlines (delim : α) (s : List α) :
    s.splitOn delim = getlines delim s ∨ s.splitOn delim = getlines delim s ++ [[]] := by
  induction s with
  | nil => exact Or.inr rfl
  | cons c s ih =>
    rw [List.splitOn_cons_eq_if_modifyHead]
    by_cases hc : c = delim
    · rcases ih with h | h
      · exact Or.inl (by simp [getlines, hc, h])
      · exact Or.inr (by simp [getlines, hc, h])
    · rcases ih with h | h
      · left
        cases hl : getlines delim s with
        | nil => exact absurd (h.trans hl) (List.splitOn_ne_nil _ _)
        | cons l ls => simp [getlines, hc, h, hl]
      · cases hl : getlines delim s with
        | nil => exact Or.inl (by simp [getlines, hc, h, hl])
        | cons l ls => exact Or.inr (by simp [getlines, hc, h, hl])

/-- Letters put at the end of a string go to its last line. -/
theorem splitOn_append_of_not_mem {delim : α} {x : List α} (hx : delim ∉ x) (a : List α) :
    ∃ init last, a.splitOn delim = init ++ [last] ∧
      (a ++ x).splitOn delim = init ++ [last ++ x] := by
  induction a with
  | nil =>
    have hsingle : x.splitOn delim = [x] := List.splitOn_eq_singleton hx
    exact ⟨[], [], rfl, by simpa using hsingle⟩
  | cons c a ih =>
    obtain ⟨init, last, ha, hax⟩ := ih
    rw [List.cons_append, List.splitOn_cons_eq_if_modifyHead, List.splitOn_cons_eq_if_modifyHead,
      ha, hax]
    by_cases hc : c = delim
    · exact ⟨[] :: init, last, by simp [hc], by simp [hc]⟩
    · cases init with
      | nil => exact ⟨[], c :: last, by simp [hc], by simp [hc]⟩
      | cons l init => exact ⟨(c :: l) :: init, last, by simp [hc], by simp [hc]⟩

end StdString
