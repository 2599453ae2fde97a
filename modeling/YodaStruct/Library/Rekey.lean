import Mathlib.Data.List.AList
import Mathlib.Algebra.BigOperators.Group.Finset.Basic
import Mathlib.Algebra.GroupWithZero.Nat

/-! Copying a table of counts entry by entry under new keys. Keys that get the same new key
overwrite each other; the total tells whether anything was lost. -/
namespace Rekey

abbrev Counts (κ : Type*) := AList fun _ : κ => ℕ

abbrev Entry (κ : Type*) := Sigma fun _ : κ => ℕ

def sum {κ : Type*} (entries : List (Entry κ)) : ℕ := (entries.map Sigma.snd).sum

def total {κ : Type*} (t : Counts κ) : ℕ := sum t.entries

variable {κ κ' : Type*} [DecidableEq κ'] (f : κ → κ')

def rekeyInto (t : Counts κ') (entries : List (Entry κ)) : Counts κ' :=
  entries.foldl (fun t e => t.insert (f e.1) e.2) t

def rekey (entries : List (Entry κ)) : Counts κ' := rekeyInto f ∅ entries

/-- No entry with a count gets a key that a later entry gets too. -/
def Lossless (entries : List (Entry κ)) : Prop :=
  entries.Pairwise fun e e' => f e.1 = f e'.1 → e.2 = 0

instance (entries : List (Entry κ)) : Decidable (Lossless f entries) :=
  inferInstanceAs (Decidable (entries.Pairwise _))

/-- The value of a key and the rest of the table make up the total. -/
theorem sum_kerase {entries : List (Entry κ')} (hd : entries.NodupKeys) (k : κ') :
    sum entries = (entries.dlookup k).getD 0 + sum (entries.kerase k) := by
  induction entries with
  | nil => simp [sum]
  | cons e entries ih =>
    obtain ⟨k', v⟩ := e
    have hd' := List.nodupKeys_cons.mp hd
    by_cases hk : k = k'
    · subst hk
      simp [sum]
    · have htail := ih hd'.2
      rw [List.kerase_cons_ne hk, List.dlookup_cons_ne entries ⟨k', v⟩ hk]
      simp only [sum, List.map_cons, List.sum_cons] at htail ⊢
      omega

theorem total_insert (t : Counts κ') (k : κ') (v : ℕ) :
    total (t.insert k v) + (t.lookup k).getD 0 = total t + v := by
  have hold : total t = (t.lookup k).getD 0 + sum (t.entries.kerase k) :=
    sum_kerase t.nodupKeys k
  have hnew : total (t.insert k v) = v + sum (t.entries.kerase k) := by
    unfold total
    rw [AList.entries_insert]
    simp [sum]
  omega

theorem getD_lookup_insert (t : Counts κ') (k k' : κ') (v : ℕ) :
    ((t.insert k v).lookup k').getD 0 = if k = k' then v else (t.lookup k').getD 0 := by
  by_cases hk : k = k'
  · subst hk
    simp
  · rw [if_neg hk, AList.lookup_insert_ne (Ne.symm hk)]

theorem rekeyInto_cons (t : Counts κ') (e : Entry κ) (entries : List (Entry κ)) :
    rekeyInto f t (e :: entries) = rekeyInto f (t.insert (f e.1) e.2) entries := rfl

theorem sum_cons (e : Entry κ) (entries : List (Entry κ)) :
    sum (e :: entries) = e.2 + sum entries := by
  simp [sum]

/-- Copying never adds to the counts. -/
theorem total_rekeyInto_le (t : Counts κ') (entries : List (Entry κ)) :
    total (rekeyInto f t entries) ≤ total t + sum entries := by
  induction entries generalizing t with
  | nil => simp [rekeyInto, sum]
  | cons e entries ih =>
    have hle := ih (t.insert (f e.1) e.2)
    have hins := total_insert t (f e.1) e.2
    rw [rekeyInto_cons, sum_cons]
    omega

/-- That no count is written over, said of the first entry and of the table it leaves. -/
theorem lossless_cons_iff (t : Counts κ') (e : Entry κ) (entries : List (Entry κ)) :
    (∀ e' ∈ e :: entries, (t.lookup (f e'.1)).getD 0 = 0) ∧ Lossless f (e :: entries) ↔
      (t.lookup (f e.1)).getD 0 = 0 ∧
        (∀ e' ∈ entries, ((t.insert (f e.1) e.2).lookup (f e'.1)).getD 0 = 0) ∧
        Lossless f entries := by
  simp only [getD_lookup_insert, Lossless, List.pairwise_cons, List.forall_mem_cons]
  constructor
  · rintro ⟨⟨h₀, hall⟩, hhead, hpw⟩
    refine ⟨h₀, ?_, hpw⟩
    intro e' he'
    split_ifs with hk
    · exact hhead e' he' hk
    · exact hall e' he'
  · rintro ⟨h₀, hall, hpw⟩
    refine ⟨⟨h₀, ?_⟩, ?_, hpw⟩
    · intro e' he'
      by_cases hk : f e.1 = f e'.1
      · rw [← hk]
        exact h₀
      · have hkept := hall e' he'
        rwa [if_neg hk] at hkept
    · intro e' he' hk
      have hnew := hall e' he'
      rwa [if_pos hk] at hnew

/-- A copy keeps all counts exactly when no value that is written over has one. -/
theorem total_rekeyInto_iff (t : Counts κ') (entries : List (Entry κ)) :
    total (rekeyInto f t entries) = total t + sum entries ↔
      (∀ e ∈ entries, (t.lookup (f e.1)).getD 0 = 0) ∧ Lossless f entries := by
  induction entries generalizing t with
  | nil => simp [rekeyInto, sum, Lossless]
  | cons e entries ih =>
    have hle := total_rekeyInto_le f (t.insert (f e.1) e.2) entries
    have hins := total_insert t (f e.1) e.2
    rw [lossless_cons_iff, ← ih, rekeyInto_cons, sum_cons]
    constructor
    · intro h
      constructor <;> omega
    · rintro ⟨h₀, h⟩
      omega

theorem total_rekey_iff (entries : List (Entry κ)) :
    total (rekey f entries) = sum entries ↔ Lossless f entries := by
  have h := total_rekeyInto_iff f ∅ entries
  have hempty : total (∅ : Counts κ') = 0 := rfl
  rw [hempty, Nat.zero_add] at h
  rw [rekey, h]
  simp

theorem lookup_rekeyInto_of_ne (t : Counts κ') {entries : List (Entry κ)} {k : κ'}
    (h : ∀ e ∈ entries, f e.1 ≠ k) : (rekeyInto f t entries).lookup k = t.lookup k := by
  induction entries generalizing t with
  | nil => rfl
  | cons e entries ih =>
    have hk : k ≠ f e.1 := Ne.symm (h e List.mem_cons_self)
    have htail := ih (t.insert (f e.1) e.2) fun e' he' => h e' (List.mem_cons_of_mem _ he')
    rw [AList.lookup_insert_ne hk] at htail
    exact htail

/-- In a lossless copy every count is found under its new key. -/
theorem lookup_rekey_of_mem {entries : List (Entry κ)} (hl : Lossless f entries) {e : Entry κ}
    (he : e ∈ entries) (hv : e.2 ≠ 0) : (rekey f entries).lookup (f e.1) = some e.2 := by
  obtain ⟨before, after, rfl⟩ := List.append_of_mem he
  have hafter : ∀ e' ∈ after, f e'.1 ≠ f e.1 := by
    intro e' he' hk
    have hpw := (List.pairwise_append.mp hl).2.1
    exact hv ((List.pairwise_cons.mp hpw).1 e' he' hk.symm)
  have hsplit : rekey f (before ++ e :: after) =
      rekeyInto f ((rekeyInto f ∅ before).insert (f e.1) e.2) after := by
    simp [rekey, rekeyInto]
  rw [hsplit, lookup_rekeyInto_of_ne f _ hafter, AList.lookup_insert]

/-- Counts under every label of a list add up to its length. -/
theorem sum_count_eq_length [BEq κ] [LawfulBEq κ] [DecidableEq κ] {labels : List κ} {t : Counts κ}
    (h : ∀ l, (t.lookup l).getD 0 = labels.count l) : total t = labels.length := by
  have hmem : ∀ l ∈ labels, l ∈ t.keys := by
    intro l hl
    rw [← AList.mem_keys, ← AList.lookup_isSome]
    have hpos : 0 < (t.lookup l).getD 0 := (h l).symm ▸ List.count_pos_iff.mpr hl
    cases hlook : t.lookup l with
    | none => simp [hlook] at hpos
    | some v => rfl
  have hval : t.entries.map Sigma.snd = t.keys.map labels.count := by
    rw [AList.keys, List.keys, List.map_map]
    apply List.map_congr_left
    intro e he
    have hlook : t.lookup e.1 = some e.2 := AList.mem_lookup_iff.mpr he
    have := h e.1
    rw [hlook] at this
    exact this
  have hcard : ∑ l ∈ t.keys.toFinset, (labels : Multiset κ).count l = labels.length := by
    rw [Multiset.sum_count_eq_card fun l hl => List.mem_toFinset.mpr (hmem l hl)]
    rfl
  have hcount : ∀ l, (labels : Multiset κ).count l = labels.count l := by
    intro l
    rw [Multiset.coe_count]
    congr
    exact lawful_beq_subsingleton _ _
  rw [total, sum, hval, ← hcard, List.sum_toFinset _ t.keys_nodup]
  simp only [hcount]

end Rekey
