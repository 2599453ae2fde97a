import Mathlib.Data.List.DropRight

/-! Patterns of letter classes in the manner of Lua: classes, greedy repetitions, one capture
and an end anchor, matched with backtracking at the leftmost position. -/
namespace LuaPattern

variable {α β : Type*}

inductive Item (α : Type*)
  | one (p : α → Bool)
  /-- One letter of the class or more, as many as the rest of the pattern allows. -/
  | many (p : α → Bool)

structure Pattern (α : Type*) where
  init : List (Item α)
  capture : List (Item α)
  /-- The pattern ends in `$`. -/
  anchored : Bool

/-- Match items at the start of `s`, and go on with what is left of it. -/
def matchItems (k : List α → Option β) : List (Item α) → List α → Option β
  | [], s => k s
  | .one _ :: _, [] => none
  | .one p :: items, a :: s => if p a then matchItems k items s else none
  | .many p :: items, s =>
    (List.range (s.takeWhile p).length).reverse.findSome? fun n => matchItems k items (s.drop (n + 1))

/-- The pattern ends with `s₂` left: what the capture took of `s₁`. -/
def Pattern.finish (pat : Pattern α) (s₁ s₂ : List α) : Option (List α) :=
  if pat.anchored ∧ s₂ ≠ [] then none else some (s₁.take (s₁.length - s₂.length))

/-- A match that starts with `s`: what the capture takes. -/
def Pattern.matchHere (pat : Pattern α) (s : List α) : Option (List α) :=
  matchItems (fun s₁ => matchItems (pat.finish s₁) pat.capture s₁) pat.init s

/-- The first success along a list, the empty rest included. -/
def search (m : List α → Option β) : List α → Option β
  | [] => m []
  | a :: s => (m (a :: s)).or (search m s)

def Pattern.match? (pat : Pattern α) (s : List α) : Option (List α) := search pat.matchHere s

theorem matchItems_nil (k : List α → Option β) (s : List α) : matchItems k [] s = k s := rfl

theorem matchItems_one_cons (k : List α → Option β) (p : α → Bool) (items : List (Item α)) (a : α)
    (s : List α) : matchItems k (.one p :: items) (a :: s) =
      if p a then matchItems k items s else none := rfl

theorem length_takeWhile_lt {p : α → Bool} {s : List α} (h : ¬ ∀ a ∈ s, p a = true) :
    (s.takeWhile p).length < s.length := by
  apply lt_of_le_of_ne (List.takeWhile_sublist p).length_le
  intro he
  exact h (List.takeWhile_eq_self_iff.mp ((List.takeWhile_sublist p).eq_of_length he))

/-! A greedy class before an anchored end. -/

section End
variable {k : List α → Option β} (hk : ∀ s, s ≠ [] → k s = none) {p : α → Bool} {s : List α}

theorem matchItems_many (k : List α → Option β) (p : α → Bool) (s : List α) :
    matchItems k [.many p] s =
      (List.range (s.takeWhile p).length).reverse.findSome? fun n => k (s.drop (n + 1)) := rfl

/-- The class takes all that is left. -/
theorem matchItems_many_end {b : β} (hb : k [] = some b) (hs : s ≠ [])
    (hall : ∀ a ∈ s, p a = true) : matchItems k [.many p] s = some b := by
  obtain ⟨m, hm⟩ := Nat.exists_eq_succ_of_ne_zero (List.length_pos_of_ne_nil hs).ne'
  have hlen : (s.takeWhile p).length = m + 1 := by
    rw [List.takeWhile_eq_self_iff.mpr hall, hm]
  have hdrop : s.drop (m + 1) = [] := List.drop_eq_nil_of_le (by omega)
  rw [matchItems_many, hlen, List.range_succ, List.reverse_append, List.reverse_singleton,
    List.singleton_append, List.findSome?_cons, hdrop, hb]

include hk in
/-- A letter outside the class stays, or there is nothing to take. -/
theorem matchItems_many_end_eq_none (h : ¬ (s ≠ [] ∧ ∀ a ∈ s, p a = true)) :
    matchItems k [.many p] s = none := by
  rw [matchItems_many, List.findSome?_eq_none_iff]
  intro n hn
  have hlt := List.mem_range.mp (List.mem_reverse.mp hn)
  apply hk _
  by_cases hall : ∀ a ∈ s, p a = true
  · have hnil : s = [] := by
      by_contra hne
      exact h ⟨hne, hall⟩
    simp [hnil] at hlt
  · have htake := length_takeWhile_lt hall
    have hrest : n + 1 < s.length := by omega
    simpa using hrest

end End

/-- The search goes past the places where nothing matches. -/
theorem search_append {m : List α → Option β} {u s : List α}
    (h : ∀ v, v ≠ [] → v <:+ u → m (v ++ s) = none) : search m (u ++ s) = search m s := by
  induction u with
  | nil => rfl
  | cons a u ih =>
    have hhead : m (a :: (u ++ s)) = none := h (a :: u) (by simp) List.suffix_rfl
    have htail := ih fun v hv hvu => h v hv (hvu.trans (List.suffix_cons a u))
    rw [List.cons_append, search, hhead, Option.none_or, htail]

theorem search_eq_none {m : List α → Option β} {s : List α} (h : ∀ v, v <:+ s → m v = none) :
    search m s = none := by
  induction s with
  | nil => exact h [] List.suffix_rfl
  | cons a s ih =>
    rw [search, h _ List.suffix_rfl, ih fun v hv => h v (hv.trans (List.suffix_cons a s))]
    rfl

theorem search_eq_of_head {m : List α → Option β} {s : List α} {b : β} (h : m s = some b) :
    search m s = some b := by
  cases s with
  | nil => exact h
  | cons a s => rw [search, h, Option.some_or]

end LuaPattern
