import Mathlib.Data.List.DropRight

/-! Stripping a class of letters off both ends of a list, and cutting a list at
its first occurrence of a letter. -/
namespace Scan

variable {α : Type*} (p : α → Bool)

/-- Drop the letters of `p` at both ends. -/
def strip (l : List α) : List α := (l.dropWhile p).rdropWhile p

@[simp] theorem strip_nil : strip p [] = [] := by simp [strip]

theorem strip_append_left {w : List α} (hw : ∀ a ∈ w, p a = true) (l : List α) :
    strip p (w ++ l) = strip p l := by
  simp only [strip, List.dropWhile_append_of_pos hw]

theorem rdropWhile_append_right {w : List α} (hw : ∀ a ∈ w, p a = true) (l : List α) :
    (l ++ w).rdropWhile p = l.rdropWhile p := by
  have hr : ∀ a ∈ w.reverse, p a = true := fun a ha => hw a (List.mem_reverse.mp ha)
  simp only [List.rdropWhile, List.reverse_append, List.dropWhile_append_of_pos hr]

theorem strip_append_right {w : List α} (hw : ∀ a ∈ w, p a = true) (l : List α) :
    strip p (l ++ w) = strip p l := by
  induction l with
  | nil => simpa using strip_append_left p hw []
  | cons a l ih =>
    by_cases ha : p a = true
    · simpa [strip, List.dropWhile_cons_of_pos ha] using ih
    · simp only [strip, List.cons_append, List.dropWhile_cons_of_neg ha]
      exact rdropWhile_append_right p hw (a :: l)

theorem strip_eq_nil_iff {l : List α} : strip p l = [] ↔ ∀ a ∈ l, p a = true := by
  rw [strip, List.rdropWhile_eq_nil_iff]
  constructor
  · intro h a ha
    by_contra hn
    have hl : l.dropWhile p ≠ [] := fun he => hn (List.dropWhile_eq_nil_iff.mp he a ha)
    exact List.dropWhile_get_zero_not p l (List.length_pos_of_ne_nil hl)
      (h _ (List.get_mem _ _))
  · intro h a ha
    exact h a ((List.dropWhile_sublist p).subset ha)

/-- A list that starts and ends outside `p` is left as it is. -/
theorem strip_eq_self {l : List α} (hh : ∀ a ∈ l.head?, p a = false)
    (hl : ∀ a ∈ l.getLast?, p a = false) : strip p l = l := by
  cases l with
  | nil => rfl
  | cons a l =>
    have ha : ¬ p a = true := by simp [hh a rfl]
    rw [strip, List.dropWhile_cons_of_neg ha, List.rdropWhile_eq_self_iff]
    intro hne
    have := hl _ (List.getLast_mem_getLast? hne)
    simp [this]

theorem getLast?_strip {l : List α} {a : α} (h : (strip p l).getLast? = some a) :
    p a = false := by
  obtain ⟨hne, rfl⟩ := List.mem_getLast?_eq_getLast h
  have := List.rdropWhile_last_not p (l.dropWhile p) hne
  exact Bool.eq_false_iff.mpr this

theorem head?_strip {l : List α} {a : α} (h : (strip p l).head? = some a) : p a = false := by
  obtain ⟨t, ht⟩ := List.head?_eq_some_iff.mp h
  obtain ⟨u, hu⟩ : strip p l <+: l.dropWhile p := List.rdropWhile_prefix p _
  have hd : (l.dropWhile p).head? = some a := by rw [← hu, ht]; rfl
  have := List.head?_dropWhile_not p l
  rwa [hd] at this

theorem strip_strip (l : List α) : strip p (strip p l) = strip p l :=
  strip_eq_self p (fun _ => head?_strip p) (fun _ => getLast?_strip p)

/-- What `strip` removes is blank, on either side. -/
theorem exists_strip (l : List α) : ∃ u v, l = u ++ strip p l ++ v ∧
    (∀ a ∈ u, p a = true) ∧ ∀ a ∈ v, p a = true := by
  refine ⟨l.takeWhile p, (l.dropWhile p).rtakeWhile p, ?_, fun _ => List.mem_takeWhile_imp,
    fun _ => List.mem_rtakeWhile_imp⟩
  rw [strip, List.append_assoc, List.rdropWhile_append_rtakeWhile, List.takeWhile_append_dropWhile]

theorem mem_of_mem_strip {l : List α} {a : α} (h : a ∈ strip p l) : a ∈ l := by
  obtain ⟨u, v, hl, -, -⟩ := exists_strip p l
  rw [hl]
  simp [h]

/-- Stripping the right end only leaves a blank margin on the left. -/
theorem exists_rdropWhile_eq (l : List α) : ∃ u, l.rdropWhile p = u ++ strip p l ∧
    ∀ a ∈ u, p a = true := by
  obtain ⟨u, v, hl, hu, hv⟩ := exists_strip p l
  by_cases hs : strip p l = []
  · refine ⟨[], ?_, by simp⟩
    rw [hs, List.append_nil, List.rdropWhile_eq_nil_iff]
    exact fun a ha => strip_eq_nil_iff p |>.mp hs a ha
  · refine ⟨u, ?_, hu⟩
    conv_lhs => rw [hl, rdropWhile_append_right p hv]
    rw [List.rdropWhile_eq_self_iff]
    intro hne
    have hlast := List.getLast_mem_getLast? hne
    rw [List.getLast?_append_of_ne_nil _ hs] at hlast
    simp [getLast?_strip p hlast]

/-- A letter outside `p` keeps everything before it. -/
theorem rdropWhile_append_cons {c : α} (hc : p c = false) (k w : List α) :
    (k ++ c :: w).rdropWhile p = k ++ c :: w.rdropWhile p := by
  induction w using List.reverseRecOn with
  | nil => exact List.rdropWhile_concat_neg p k c (by simp [hc])
  | append_singleton w a ih =>
    rw [← List.cons_append, ← List.append_assoc]
    by_cases ha : p a = true
    · rw [List.rdropWhile_concat_pos p _ a ha, List.rdropWhile_concat_pos p _ a ha, ih]
    · rw [List.rdropWhile_concat_neg p _ a ha, List.rdropWhile_concat_neg p _ a ha]
      simp

theorem strip_append_cons {k : List α} {c : α} (hk : ∀ a ∈ k.head?, p a = false)
    (hc : p c = false) (w : List α) :
    strip p (k ++ c :: w) = k ++ c :: w.rdropWhile p := by
  have hd : (k ++ c :: w).dropWhile p = k ++ c :: w := by
    cases k with
    | nil => exact List.dropWhile_cons_of_neg (by simp [hc])
    | cons a k => exact List.dropWhile_cons_of_neg (by simp [hk a rfl])
  rw [strip, hd, rdropWhile_append_cons p hc]

section Cut
variable {α : Type*} [DecidableEq α] (c : α)

/-- The part before the first `c`. -/
def cut (l : List α) : List α := l.takeWhile (· ≠ c)

/-- The part after the first `c`. -/
def after (l : List α) : List α := (l.dropWhile (· ≠ c)).tail

private theorem forall_ne {a : List α} (h : c ∉ a) : ∀ x ∈ a, decide (x ≠ c) = true := by
  intro x hx
  rw [decide_eq_true_eq]
  rintro rfl
  exact h hx

@[simp] theorem cut_nil : cut c ([] : List α) = [] := rfl

@[simp] theorem cut_cons_self (l : List α) : cut c (c :: l) = [] := by simp [cut]

theorem cut_append_of_not_mem {a : List α} (h : c ∉ a) (b : List α) :
    cut c (a ++ b) = a ++ cut c b :=
  List.takeWhile_append_of_pos (forall_ne c h)

theorem cut_eq_self {l : List α} (h : c ∉ l) : cut c l = l := by
  simpa using cut_append_of_not_mem c h []

theorem not_mem_cut (l : List α) : c ∉ cut c l := fun h => by
  simpa using List.mem_takeWhile_imp h

theorem cut_append_of_mem {a : List α} (h : c ∈ a) (b : List α) : cut c (a ++ b) = cut c a := by
  obtain ⟨u, v, rfl, hu⟩ := List.eq_append_cons_of_mem h
  simp [cut_append_of_not_mem c hu]

theorem after_append_cons {a : List α} (h : c ∉ a) (b : List α) : after c (a ++ c :: b) = b := by
  rw [after, List.dropWhile_append_of_pos (forall_ne c h), List.dropWhile_cons_of_neg (by simp),
    List.tail_cons]

/-- The part after the last `c`, or the whole list. -/
def lastPart (l : List α) : List α := l.rtakeWhile (· ≠ c)

theorem not_mem_lastPart (l : List α) : c ∉ lastPart c l := fun h => by
  simpa using List.mem_rtakeWhile_imp h

theorem lastPart_append {t : List α} (h : c ∉ t) (u : List α) :
    lastPart c (u ++ t) = lastPart c u ++ t := by
  have hr : c ∉ t.reverse := by simpa using h
  simp only [lastPart, List.rtakeWhile, List.reverse_append,
    List.takeWhile_append_of_pos (forall_ne c hr), List.reverse_reverse]

theorem lastPart_append_cons {t : List α} (h : c ∉ t) (u : List α) :
    lastPart c (u ++ c :: t) = t := by
  have hend : lastPart c (u ++ [c]) = [] := List.rtakeWhile_concat_neg _ _ _ (by simp)
  rw [List.append_cons, lastPart_append c h, hend, List.nil_append]

/-- A list that holds `c` ends in the letter and its last part. -/
theorem exists_append_cons_lastPart {l : List α} (h : c ∈ l) : ∃ u, l = u ++ c :: lastPart c l := by
  have hr : c ∈ l.reverse := List.mem_reverse.mpr h
  obtain ⟨t, u, hl, ht⟩ := List.eq_append_cons_of_mem hr
  have hsplit : l = u.reverse ++ c :: t.reverse := by
    rw [← List.reverse_reverse l, hl]
    simp
  have htr : c ∉ t.reverse := by simpa using ht
  refine ⟨u.reverse, ?_⟩
  conv_lhs => rw [hsplit]
  rw [hsplit, lastPart_append_cons c htr]

end Cut

end Scan
