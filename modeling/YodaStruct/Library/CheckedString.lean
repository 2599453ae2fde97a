import YodaStruct.Library.StdString

/-! `std::string` access that faults where its precondition fails, and `size_t` arithmetic
that faults where it wraps around. -/
namespace StdString.Checked

inductive Fault
  | outOfRange | emptyString | wraparound
  deriving DecidableEq

variable {α : Type*}

def front (s : List α) : Except Fault α :=
  match s.head? with
  | some a => .ok a
  | none => .error .emptyString

def back (s : List α) : Except Fault α :=
  match s.getLast? with
  | some a => .ok a
  | none => .error .emptyString

def substr (s : List α) (pos n : ℕ) : Except Fault (List α) :=
  if pos ≤ s.length then .ok (StdString.substr s pos n) else .error .outOfRange

def add (a b : ℕ) : Except Fault ℕ := if a + b ≤ npos then .ok (a + b) else .error .wraparound

def sub (a b : ℕ) : Except Fault ℕ := if b ≤ a then .ok (a - b) else .error .wraparound

theorem back_eq {s : List α} (hs : s ≠ []) : back s = .ok (s.getLast hs) := by
  unfold back
  rw [List.getLast?_eq_some_getLast hs]

theorem front_eq {s : List α} (hs : s ≠ []) : front s = .ok (s.head hs) := by
  unfold front
  rw [List.head?_eq_some_head hs]

theorem substr_eq {s : List α} {pos : ℕ} (h : pos ≤ s.length) (n : ℕ) :
    substr s pos n = .ok (StdString.substr s pos n) := if_pos h

theorem add_eq {a b : ℕ} (h : a + b ≤ npos) : add a b = .ok (a + b) := if_pos h

theorem sub_eq {a b : ℕ} (h : b ≤ a) : sub a b = .ok (a - b) := if_pos h

/-- `substr(pos)`, whose length is `npos`, goes to the end of the string. -/
theorem substr_npos {s : List α} (hs : s.length ≤ npos) (pos : ℕ) :
    StdString.substr s pos npos = s.drop pos := by
  apply List.take_of_length_le
  rw [List.length_drop]
  omega

/-- A loop whose steps do not fault does not fault. -/
theorem foldlM_eq {β : Type*} {f : β → α → Except Fault β} {g : β → α → β} {xs : List α}
    (h : ∀ b, ∀ x ∈ xs, f b x = .ok (g b x)) (b : β) : xs.foldlM f b = .ok (xs.foldl g b) := by
  induction xs generalizing b with
  | nil => rfl
  | cons x xs ih =>
    rw [List.foldlM_cons, h b x List.mem_cons_self]
    exact ih (fun b' y hy => h b' y (List.mem_cons_of_mem _ hy)) (g b x)

end StdString.Checked
