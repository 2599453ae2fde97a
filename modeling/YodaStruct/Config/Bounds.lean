import YodaStruct.Config.Events
import YodaStruct.Library.CheckedString

/-! The reader with every string access and every `size_t` expression checked, statement by
statement as the source has them, and what its trimming leaves. -/
namespace YodaStruct.Config
open StdString Scan
open StdString.Checked (Fault)

def trimChecked (s : CppString) : Except Fault CppString :=
  match findFirstNotOf s blanks with
  | none => .ok []
  | some a => do
    let b := (findLastNotOf s blanks).getD npos
    let n ← Checked.add (← Checked.sub b a) 1
    Checked.substr s a n

/-- `s.front() == q && s.back() == q`. -/
def endsIn (q : Char) (s : CppString) : Except Fault Bool := do
  if (← Checked.front s) = q then
    return decide ((← Checked.back s) = q)
  return false

def unquoteChecked (s : CppString) : Except Fault CppString := do
  if s.length ≥ 2 then
    if ← endsIn '"' s <||> endsIn '\'' s then
      return ← Checked.substr s 1 (← Checked.sub s.length 2)
  return s

def stripLineChecked (line : CppString) : Except Fault CppString :=
  match find line '#' with
  | none => trimChecked line
  | some hash => do trimChecked (← Checked.substr line 0 hash)

def readLineChecked (st : ReaderState) (raw : CppString) : Except Fault ReaderState := do
  let line ← stripLineChecked raw
  if line = [] then
    return st
  if (← Checked.back line) = ':' then
    let name ← trimChecked (← Checked.substr line 0 (← Checked.sub line.length 1))
    return { st with sectionName := name }
  match find line ':' with
  | none => return st
  | some colon =>
    let key ← trimChecked (← Checked.substr line 0 colon)
    let val ← unquoteChecked
      (← trimChecked (← Checked.substr line (← Checked.add colon 1) npos))
    return { st with cfg := storeValue st.cfg st.sectionName key val }

/-- The lines that the loop sees. `std::getline` fails on one that no `std::string` can hold,
which ends the loop. -/
def linesRead (text : CppString) : List CppString :=
  (getlines '\n' text).takeWhile fun line => line.length < npos

def loadLuaConfigChecked (path : CppString) (file : Option CppString) :
    Except Fault (Except CppString LuaConfig) :=
  match file with
  | none => return .error ("cannot open config ".toList ++ path)
  | some text => return .ok (← (linesRead text).foldlM readLineChecked {}).cfg

/-! Trimming. -/

/-- `t` is `s` short of blanks at both ends. -/
structure Trims (s t : CppString) : Prop where
  margins : ∃ p q, s = p ++ t ++ q ∧ (∀ c ∈ p, c ∈ blanks) ∧ ∀ c ∈ q, c ∈ blanks
  ends : t = [] ∨ (∃ c, t.head? = some c ∧ c ∉ blanks) ∧ ∃ c, t.getLast? = some c ∧ c ∉ blanks

theorem trims_trim (s : CppString) : Trims s (trim s) := by
  rw [trim_eq_strip]
  constructor
  · obtain ⟨p, q, hs, hp, hq⟩ := exists_strip (· ∈ blanks) s
    exact ⟨p, q, hs, by simpa using hp, by simpa using hq⟩
  · by_cases hn : strip (· ∈ blanks) s = []
    · exact Or.inl hn
    · refine Or.inr ⟨⟨_, List.head?_eq_some_head hn, ?_⟩, _, List.getLast?_eq_some_getLast hn, ?_⟩
      · simpa using head?_strip (· ∈ blanks) (List.head?_eq_some_head hn)
      · simpa using getLast?_strip (· ∈ blanks) (List.getLast?_eq_some_getLast hn)

theorem Trims.length_le {s t : CppString} (h : Trims s t) : t.length ≤ s.length := by
  obtain ⟨p, q, hs, -, -⟩ := h.margins
  rw [hs, List.length_append, List.length_append]
  omega

/-- Only the length of the result could be too much. -/
theorem trimChecked_cases (s : CppString) : trimChecked s = .ok (trim s) ∨
    npos < s.length ∧ trimChecked s = .error .wraparound := by
  unfold trimChecked trim
  cases ha : findFirstNotOf s blanks with
  | none => exact Or.inl rfl
  | some a =>
    obtain ⟨b, hb, hab, hbs, -⟩ := substr_findNotOf ha
    have hsub : Checked.substr s a (b - a + 1) = .ok (substr s a (b - a + 1)) :=
      Checked.substr_eq (by omega) _
    dsimp only
    rw [hb, Option.getD_some, Checked.sub_eq hab]
    by_cases hn : b - a + 1 ≤ npos
    · left
      simp only [bind, Except.bind, Checked.add_eq hn, hsub]
    · right
      have hadd : Checked.add (b - a) 1 = .error .wraparound := if_neg hn
      simp only [bind, Except.bind, hadd, and_true]
      omega

theorem trimChecked_eq {s : CppString} (hs : s.length ≤ npos) : trimChecked s = .ok (trim s) :=
  (trimChecked_cases s).resolve_right fun h => absurd h.1 (by omega)

/-! Quotes. -/

theorem endsIn_eq {s : CppString} (hs : s ≠ []) (q : Char) :
    endsIn q s = .ok (decide (s.head? = some q ∧ s.getLast? = some q)) := by
  unfold endsIn
  simp only [bind, Except.bind, Checked.front_eq hs, Checked.back_eq hs, pure, Except.pure]
  rw [List.head?_eq_some_head hs, List.getLast?_eq_some_getLast hs]
  split_ifs with hq <;> simp [hq]

theorem unquoteChecked_eq (s : CppString) : unquoteChecked s = .ok (unquote s) := by
  unfold unquoteChecked unquote
  by_cases hl : s.length ≥ 2
  · have hs : s ≠ [] := List.ne_nil_of_length_pos (by omega)
    have hquoted : (endsIn '"' s <||> endsIn '\'' s) =
        .ok (decide (s.head? = some '"' ∧ s.getLast? = some '"' ∨
          s.head? = some '\'' ∧ s.getLast? = some '\'')) := by
      rw [endsIn_eq hs, endsIn_eq hs]
      by_cases hd : s.head? = some '"' ∧ s.getLast? = some '"' <;> simp [hd, orM, bind, Except.bind,
        toBool, pure, Except.pure]
    have hsub : Checked.sub s.length 2 = .ok (s.length - 2) := Checked.sub_eq hl
    have hsubstr : Checked.substr s 1 (s.length - 2) = .ok (substr s 1 (s.length - 2)) :=
      Checked.substr_eq (by omega) _
    rw [if_pos hl, hquoted]
    simp only [bind, Except.bind, hsub, hsubstr, decide_eq_true_eq, hl, true_and]
    split_ifs <;> rfl
  · rw [if_neg hl, if_neg (fun h => hl h.1)]
    rfl

/-! One line. -/

theorem length_cut_le (c : Char) (s : CppString) : (cut c s).length ≤ s.length :=
  (List.takeWhile_sublist _).length_le

theorem stripLineChecked_eq {line : CppString} (h : line.length ≤ npos) :
    stripLineChecked line = .ok (stripLine line) := by
  have hcut : (cut '#' line).length ≤ npos := (length_cut_le '#' line).trans h
  rw [stripLine_eq_strip, ← trim_eq_strip, ← trimChecked_eq hcut, ← substr_find]
  unfold stripLineChecked
  cases find line '#' with
  | none => rfl
  | some hash =>
    dsimp only
    rw [Checked.substr_eq (Nat.zero_le _)]
    rfl

theorem length_stripLine_le (line : CppString) : (stripLine line).length ≤ line.length := by
  rw [stripLine_eq_strip, ← trim_eq_strip]
  exact (trims_trim _).length_le.trans (length_cut_le '#' line)

theorem readLineChecked_eq (st : ReaderState) {raw : CppString} (h : raw.length ≤ npos) :
    readLineChecked st raw = .ok (readLine st raw) := by
  have hlen : (stripLine raw).length ≤ npos := (length_stripLine_le raw).trans h
  unfold readLineChecked readLine
  rw [stripLineChecked_eq h]
  generalize stripLine raw = line at hlen
  have htrim : ∀ pos n, trimChecked (substr line pos n) = .ok (trim (substr line pos n)) :=
    fun pos n => trimChecked_eq ((length_substr_le line pos n).trans hlen)
  dsimp only [bind, Except.bind]
  by_cases hn : line = []
  · rw [if_pos hn, if_pos hn]
    rfl
  rw [if_neg hn, if_neg hn, Checked.back_eq hn, List.getLast?_eq_some_getLast hn]
  dsimp only
  by_cases hc : line.getLast hn = ':'
  · have hpos : 1 ≤ line.length := List.length_pos_of_ne_nil hn
    rw [if_pos hc, if_pos (congrArg some hc)]
    simp only [Checked.sub_eq hpos, Checked.substr_eq (Nat.zero_le _), htrim]
    rfl
  · rw [if_neg hc, if_neg (fun h => hc (Option.some.inj h))]
    cases hf : find line ':' with
    | none => rfl
    | some colon =>
      have hlt : colon < line.length := find_lt hf
      have hadd : Checked.add colon 1 = .ok (colon + 1) := Checked.add_eq (by omega)
      have hval : Checked.substr line (colon + 1) npos = .ok (substr line (colon + 1) npos) :=
        Checked.substr_eq hlt npos
      simp only [Checked.substr_eq (Nat.zero_le _), htrim, hadd, hval, unquoteChecked_eq,
        ← Checked.substr_npos hlen (colon + 1)]
      rfl

/-! The loop. -/

theorem length_le_of_mem_linesRead {text line : CppString} (h : line ∈ linesRead text) :
    line.length ≤ npos := by
  have hlt := List.mem_takeWhile_imp h
  simp only [decide_eq_true_eq] at hlt
  exact hlt.le

/-- Loading a config accesses its strings in bounds and wraps around nowhere, and every trimming
leaves its argument short of blanks at both ends. -/
theorem loadLuaConfig_inBounds (path text : CppString) :
    (∃ cfg, loadLuaConfigChecked path (some text) = .ok (.ok cfg) ∧
      ((∀ line ∈ getlines '\n' text, line.length < npos) →
        loadLuaConfig path (some text) = .ok cfg)) ∧
    ∀ s t, trimChecked s = .ok t → Trims s t := by
  constructor
  · have hloop : (linesRead text).foldlM readLineChecked {} =
        .ok ((linesRead text).foldl readLine {}) :=
      Checked.foldlM_eq (fun st _ hl => readLineChecked_eq st (length_le_of_mem_linesRead hl)) {}
    refine ⟨((linesRead text).foldl readLine {}).cfg, ?_, ?_⟩
    · unfold loadLuaConfigChecked
      dsimp only
      rw [hloop]
      rfl
    · intro hfit
      have hlines : linesRead text = getlines '\n' text := by
        apply List.takeWhile_eq_self_iff.mpr
        intro line hl
        simpa using hfit line hl
      rw [hlines]
      rfl
  · intro s t ht
    rcases trimChecked_cases s with h | ⟨-, h⟩
    · obtain rfl := Except.ok.inj (ht.symm.trans h)
      exact trims_trim s
    · cases ht.symm.trans h

end YodaStruct.Config
