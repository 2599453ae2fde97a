import Mathlib.Data.List.Induction
import Mathlib.Data.Nat.Basic
import Mathlib.Logic.Function.Basic

/-! A log of assignments under section headers, and the last assignment that a section
and a key receive in it. -/
namespace SectionLog

inductive Event (σ κ ν : Type*)
  | header (name : σ)
  | assign (key : κ) (value : ν)
  | skip
  deriving DecidableEq

abbrev Log (σ κ ν : Type*) := List (Event σ κ ν)

variable {σ κ ν : Type*}

def Event.IsHeader : Event σ κ ν → Prop
  | .header _ => True
  | _ => False

/-- The section that governs what follows `log`, when `s` governs its start. -/
def current (s : σ) : Log σ κ ν → σ
  | [] => s
  | .header n :: log => current n log
  | .assign _ _ :: log => current s log
  | .skip :: log => current s log

theorem current_append (s : σ) (a b : Log σ κ ν) :
    current s (a ++ b) = current (current s a) b := by
  induction a generalizing s with
  | nil => rfl
  | cons e a ih => cases e <;> exact ih _

theorem current_of_no_header {log : Log σ κ ν} (h : ∀ e ∈ log, ¬ e.IsHeader) (s : σ) :
    current s log = s := by
  induction log with
  | nil => rfl
  | cons e log ih =>
    have hlog := ih fun e' he' => h e' (List.mem_cons_of_mem _ he')
    cases e with
    | header n => exact absurd trivial (h _ List.mem_cons_self)
    | assign k v => exact hlog
    | skip => exact hlog

/-- No header of `log` opens section `n`. -/
def Avoids (n : σ) (log : Log σ κ ν) : Prop := ∀ m, Event.header m ∈ log → m ≠ n

theorem Avoids.of_cons {n : σ} {e : Event σ κ ν} {log : Log σ κ ν} (h : Avoids n (e :: log)) :
    Avoids n log := fun m hm => h m (List.mem_cons_of_mem _ hm)

/-! The declarative reading: positions of the log, and the header nearest before them. -/

/-- Position `i` of `log` assigns `v` to the key of `f` under the section of `f`. -/
def AssignsAt (s : σ) (log : Log σ κ ν) (f : σ × κ) (i : ℕ) (v : ν) : Prop :=
  log[i]? = some (.assign f.2 v) ∧ current s (log.take i) = f.1

theorem assignsAt_append_singleton (s : σ) (log : Log σ κ ν) (e : Event σ κ ν) (f : σ × κ)
    (i : ℕ) (v : ν) : AssignsAt s (log ++ [e]) f i v ↔
      AssignsAt s log f i v ∨ i = log.length ∧ e = .assign f.2 v ∧ current s log = f.1 := by
  unfold AssignsAt
  by_cases hi : i < log.length
  · rw [List.getElem?_append_left hi, List.take_append_of_le_length (by omega)]
    simp [show i ≠ log.length by omega]
  · have hn : log[i]? = none := List.getElem?_eq_none (by omega)
    by_cases he : i = log.length
    · subst he; simp
    · have hn' : (log ++ [e])[i]? = none := List.getElem?_eq_none (by simp; omega)
      simp [hn, hn', he]

variable [DecidableEq σ] [DecidableEq κ]

/-- The value of the last assignment to key `f.2` governed by section `f.1`. -/
def lookup (s : σ) (f : σ × κ) : Log σ κ ν → Option ν
  | [] => none
  | .header n :: log => lookup n f log
  | .assign k v :: log =>
    (lookup s f log).or (if s = f.1 ∧ k = f.2 then some v else none)
  | .skip :: log => lookup s f log

/-- A reader of the log: the section it is in and what each key of each section holds. -/
structure Reader (σ κ ν : Type*) where
  current : σ
  store : σ × κ → Option ν

def Reader.apply (r : Reader σ κ ν) : Event σ κ ν → Reader σ κ ν
  | .header n => { r with current := n }
  | .assign k v => { r with store := Function.update r.store (r.current, k) (some v) }
  | .skip => r

/-- Reading a log leaves in each place its last assignment, or what was there before. -/
theorem foldl_apply_store (r : Reader σ κ ν) (log : Log σ κ ν) (f : σ × κ) :
    (log.foldl Reader.apply r).store f = (lookup r.current f log).or (r.store f) := by
  induction log generalizing r with
  | nil => simp [lookup]
  | cons e log ih =>
    cases e with
    | header n => exact ih _
    | skip => exact ih _
    | assign k v =>
      rw [List.foldl_cons, ih]
      simp only [Reader.apply, lookup, Function.update_apply, Option.or_assoc]
      by_cases h : f = (r.current, k)
      · subst h; simp
      · have h' : ¬ (r.current = f.1 ∧ k = f.2) := fun hh => h (by rw [hh.1, hh.2])
        simp [h, h']

theorem lookup_append (s : σ) (f : σ × κ) (a b : Log σ κ ν) :
    lookup s f (a ++ b) = (lookup (current s a) f b).or (lookup s f a) := by
  induction a generalizing s with
  | nil => simp [lookup, current]
  | cons e a ih => cases e <;> simp [lookup, current, ih, Option.or_assoc]

/-- Events that do nothing can be dropped. -/
theorem lookup_filter_ne_skip [DecidableEq ν] (s : σ) (f : σ × κ) (log : Log σ κ ν) :
    lookup s f (log.filter (· ≠ .skip)) = lookup s f log := by
  induction log generalizing s with
  | nil => rfl
  | cons e log ih => cases e <;> simp [lookup] at ih ⊢ <;> simp [ih]

theorem Avoids.lookup_eq_none {s : σ} {f : σ × κ} {log : Log σ κ ν} (h : Avoids f.1 log)
    (hs : s ≠ f.1) : lookup s f log = none := by
  induction log generalizing s with
  | nil => rfl
  | cons e log ih =>
    cases e with
    | header m => exact ih h.of_cons (h m List.mem_cons_self)
    | assign k v => simp [lookup, ih h.of_cons hs, hs]
    | skip => exact ih h.of_cons hs

/-- `log` leaves the place `f` alone, whichever section governs its start. -/
def Inert (f : σ × κ) (log : Log σ κ ν) : Prop := ∀ s, lookup s f log = none

theorem lookup_flatten_inert {f : σ × κ} {logs : List (Log σ κ ν)}
    (h : ∀ log ∈ logs, Inert f log) (s : σ) : lookup s f logs.flatten = none := by
  induction logs generalizing s with
  | nil => rfl
  | cons log logs ih =>
    rw [List.flatten_cons, lookup_append, h log List.mem_cons_self,
      ih fun l hl => h l (List.mem_cons_of_mem _ hl)]
    rfl

/-- Among logs that leave `f` alone, one log decides what `f` gets. -/
theorem lookup_flatten_single {f : σ × κ} {before after : List (Log σ κ ν)} (log : Log σ κ ν)
    (hb : ∀ l ∈ before, Inert f l) (ha : ∀ l ∈ after, Inert f l) (s : σ) :
    lookup s f (before ++ log :: after).flatten = lookup (current s before.flatten) f log := by
  rw [List.flatten_append, List.flatten_cons, lookup_append, lookup_append,
    lookup_flatten_inert hb, lookup_flatten_inert ha]
  simp

theorem inert_header {f : σ × κ} {n : σ} {body : Log σ κ ν} (hn : n ≠ f.1)
    (hb : Avoids f.1 body) : Inert f (.header n :: body) := fun _ => hb.lookup_eq_none hn

theorem inert_of_key_ne {f : σ × κ} {log : Log σ κ ν}
    (h : ∀ k v, Event.assign k v ∈ log → k ≠ f.2) : Inert f log := by
  induction log with
  | nil => exact fun _ => rfl
  | cons e log ih =>
    have hlog := ih fun k v hkv => h k v (List.mem_cons_of_mem _ hkv)
    intro s
    cases e with
    | header n => exact hlog n
    | assign k v => simp [lookup, hlog s, h k v List.mem_cons_self]
    | skip => exact hlog s

/-- `lookup` gives the value of the last position that assigns to `f`, if there is one. -/
theorem lookup_spec (s : σ) (f : σ × κ) (log : Log σ κ ν) :
    match lookup s f log with
    | none => ∀ i v, ¬ AssignsAt s log f i v
    | some v => ∃ i, AssignsAt s log f i v ∧ ∀ j w, i < j → ¬ AssignsAt s log f j w := by
  induction log using List.reverseRecOn with
  | nil => simp [lookup, AssignsAt]
  | append_singleton log e ih =>
    by_cases he : ∃ v, e = .assign f.2 v ∧ current s log = f.1
    · obtain ⟨v, rfl, hc⟩ := he
      have hl : lookup s f (log ++ [.assign f.2 v]) = some v := by
        rw [lookup_append]
        simp [lookup, hc]
      simp only [hl, assignsAt_append_singleton]
      refine ⟨log.length, Or.inr ⟨rfl, trivial, hc⟩, ?_⟩
      rintro j w hj (hw | ⟨rfl, -⟩)
      · exact absurd (List.getElem?_eq_some_iff.mp hw.1).1 (by omega)
      · exact lt_irrefl _ hj
    · have hn : lookup (current s log) f [e] = none := by
        cases e with
        | header n => rfl
        | skip => rfl
        | assign k v =>
          have : ¬ (current s log = f.1 ∧ k = f.2) := fun h => he ⟨v, by rw [h.2], h.1⟩
          simp [lookup, this]
      have ha : ∀ i v, AssignsAt s (log ++ [e]) f i v ↔ AssignsAt s log f i v := by
        intro i v
        rw [assignsAt_append_singleton]
        exact or_iff_left fun h => he ⟨v, h.2⟩
      rw [lookup_append, hn, Option.none_or]
      simpa only [ha] using ih

theorem mem_of_lookup_eq_some {s : σ} {f : σ × κ} {log : Log σ κ ν} {v : ν}
    (h : lookup s f log = some v) : .assign f.2 v ∈ log := by
  have hspec := lookup_spec s f log
  rw [h] at hspec
  obtain ⟨i, ⟨hi, -⟩, -⟩ := hspec
  exact List.mem_of_getElem? hi

/-- In a log without headers, a key that is assigned is found. -/
theorem exists_lookup_of_mem {f : σ × κ} {log : Log σ κ ν} (hh : ∀ e ∈ log, ¬ e.IsHeader)
    {v : ν} (hm : .assign f.2 v ∈ log) : ∃ w, lookup f.1 f log = some w := by
  have hc : ∀ i, current f.1 (log.take i) = f.1 := fun i =>
    current_of_no_header (fun e he => hh e (List.mem_of_mem_take he)) f.1
  have hspec := lookup_spec f.1 f log
  cases hl : lookup f.1 f log with
  | none =>
    rw [hl] at hspec
    obtain ⟨i, hi⟩ := List.mem_iff_getElem?.mp hm
    exact absurd ⟨hi, hc i⟩ (hspec i v)
  | some w => exact ⟨w, rfl⟩

end SectionLog
