import YodaStruct.Config.Events

/-! Sections, without the loop: a field is the last assignment to its key under its own
header. -/
namespace YodaStruct.Config
open StdString Scan SectionLog

/-- A line that is not blank and ends in a colon, its comment aside. -/
def IsHeaderLine (line : CppString) : Prop :=
  stripLine line ≠ [] ∧ (stripLine line).getLast? = some ':'

instance : DecidablePred IsHeaderLine := fun line =>
  inferInstanceAs (Decidable (stripLine line ≠ [] ∧ (stripLine line).getLast? = some ':'))

def headerName (line : CppString) : CppString := trim (stripLine line).dropLast

/-- The line is no header and has a colon, before which stands `key` and after which `raw`. -/
structure AssignsKey (line key raw : CppString) : Prop where
  not_header : ¬ IsHeaderLine line
  colon : ':' ∈ stripLine line
  key_eq : trim (cut ':' (stripLine line)) = key
  raw_eq : unquote (trim (after ':' (stripLine line))) = raw

/-- The name of the nearest header among the lines before a line. -/
def governing (before : List CppString) : CppString :=
  ((before.reverse.find? IsHeaderLine).map headerName).getD []

/-- Line `i` gives field `f` the value `raw`. -/
structure AssignsField (lines : List CppString) (f : Field) (i : ℕ) (raw : CppString) : Prop where
  assigns : ∃ line, lines[i]? = some line ∧ AssignsKey line f.key raw
  governed : governing (lines.take i) = f.sectionName

/-- `value` is the decoded value of the last line that assigns `f`, or the default. -/
def IsLastAssigned (lines : List CppString) (f : Field) (value : FieldValue) : Prop :=
  (∃ i raw, AssignsField lines f i raw ∧ (∀ j raw', i < j → ¬ AssignsField lines f j raw') ∧
    value = f.decode raw) ∨
  (∀ i raw, ¬ AssignsField lines f i raw) ∧ value = f.default

/-- `text'` is `text` with lines inserted, deleted or replaced in one place, where section
`name` governs; no header is touched. -/
def EditsUnder (name text text' : CppString) : Prop :=
  ∃ before old new after, getlines '\n' text = before ++ old ++ after ∧
    getlines '\n' text' = before ++ new ++ after ∧ (∀ line ∈ old ++ new, ¬ IsHeaderLine line) ∧
    governing before = name

theorem lineEvent_of_isHeaderLine {line : CppString} (h : IsHeaderLine line) :
    lineEvent line = .header (headerName line) := by
  unfold lineEvent
  dsimp only
  rw [if_neg h.1, if_pos h.2]
  rfl

theorem not_isHeader_lineEvent {line : CppString} (h : ¬ IsHeaderLine line) :
    ¬ (lineEvent line).IsHeader := by
  unfold lineEvent
  dsimp only
  split_ifs with hn hh
  · exact id
  · exact absurd ⟨hn, hh⟩ h
  · exact id
  · exact id

theorem lineEvent_eq_assign_iff {line key raw : CppString} :
    lineEvent line = .assign key raw ↔ AssignsKey line key raw := by
  constructor
  · intro h
    have hn : ¬ IsHeaderLine line := by
      intro hh
      rw [lineEvent_of_isHeaderLine hh] at h
      cases h
    unfold lineEvent at h
    dsimp only at h
    split_ifs at h with _ _ hc
    obtain ⟨hk, hr⟩ := Event.assign.inj h
    exact ⟨hn, hc, hk, hr⟩
  · intro h
    have hne : stripLine line ≠ [] := by
      intro hnil
      have hc := h.colon
      rw [hnil] at hc
      cases hc
    have hlast : (stripLine line).getLast? ≠ some ':' := fun hh => h.not_header ⟨hne, hh⟩
    unfold lineEvent
    dsimp only
    rw [if_neg hne, if_neg hlast, if_pos h.colon, h.key_eq, h.raw_eq]

/-- The section variable of the loop holds the name of the nearest header. -/
theorem governing_eq_current (before : List CppString) :
    governing before = current [] (before.map lineEvent) := by
  induction before using List.reverseRecOn with
  | nil => rfl
  | append_singleton before line ih =>
    rw [List.map_append, current_append, ← ih]
    unfold governing
    rw [List.reverse_append, List.reverse_singleton, List.singleton_append]
    by_cases hh : IsHeaderLine line
    · rw [List.find?_cons_of_pos (by simpa using hh), List.map_singleton,
        lineEvent_of_isHeaderLine hh]
      rfl
    · have hcur : ∀ s, current s [lineEvent line] = s := fun s =>
        current_of_no_header (by simpa using not_isHeader_lineEvent hh) s
      rw [List.find?_cons_of_neg (by simpa using hh), List.map_singleton, hcur]

theorem assignsAt_iff (lines : List CppString) (f : Field) (i : ℕ) (raw : CppString) :
    AssignsAt [] (lines.map lineEvent) f.place i raw ↔ AssignsField lines f i raw := by
  have hline : (lines.map lineEvent)[i]? = some (.assign f.place.2 raw) ↔
      ∃ line, lines[i]? = some line ∧ AssignsKey line f.key raw := by
    rw [List.getElem?_map, Option.map_eq_some_iff]
    simp only [lineEvent_eq_assign_iff]
    rfl
  unfold AssignsAt
  rw [hline, ← List.map_take, ← governing_eq_current]
  constructor
  · rintro ⟨ha, hg⟩
    exact ⟨ha, hg⟩
  · rintro ⟨ha, hg⟩
    exact ⟨ha, hg⟩

/-- A field that no line assigns is not found. -/
theorem lookup_of_not_assigned {lines : List CppString} {f : Field}
    (h : ∀ i raw, ¬ AssignsField lines f i raw) :
    lookup [] f.place (lines.map lineEvent) = none := by
  have hspec := lookup_spec [] f.place (lines.map lineEvent)
  cases hl : lookup [] f.place (lines.map lineEvent) with
  | none => rfl
  | some raw =>
    rw [hl] at hspec
    obtain ⟨i, hi, -⟩ := hspec
    exact absurd ((assignsAt_iff lines f i raw).mp hi) (h i raw)

theorem readConfig_isLastAssigned (text : CppString) (f : Field) :
    IsLastAssigned (getlines '\n' text) f ((readConfig text).get f) := by
  have hspec := lookup_spec [] f.place (textLog text)
  rw [readConfig_get]
  cases hl : lookup [] f.place (textLog text) with
  | none =>
    rw [hl] at hspec
    refine Or.inr ⟨?_, rfl⟩
    intro i raw h
    exact hspec i raw ((assignsAt_iff _ f i raw).mpr h)
  | some raw =>
    rw [hl] at hspec
    obtain ⟨i, hi, hlast⟩ := hspec
    refine Or.inl ⟨i, raw, (assignsAt_iff _ f i raw).mp hi, ?_, rfl⟩
    intro j raw' hj h
    exact hlast j raw' hj ((assignsAt_iff _ f j raw').mpr h)

/-- Lines that are no headers only matter to fields of the section that governs them. -/
theorem lookup_of_governed {before lines : List CppString} (h : ∀ l ∈ lines, ¬ IsHeaderLine l)
    {f : Field} (hf : governing before ≠ f.sectionName) (after : List CppString) :
    lookup [] f.place ((before ++ lines ++ after).map lineEvent) =
      (lookup (governing before) f.place (after.map lineEvent)).or
        (lookup [] f.place (before.map lineEvent)) := by
  have hh : ∀ e ∈ lines.map lineEvent, ¬ e.IsHeader := by
    intro e he
    obtain ⟨l, hl, rfl⟩ := List.mem_map.mp he
    exact not_isHeader_lineEvent (h l hl)
  have havoid : Avoids f.place.1 (lines.map lineEvent) := by
    intro m hm
    exact absurd trivial (hh _ hm)
  rw [List.map_append, List.map_append, lookup_append, lookup_append, current_append,
    ← governing_eq_current, current_of_no_header hh, havoid.lookup_eq_none hf, Option.none_or]

/-- Each field of the loaded config is the decoded value of the last line that assigns it in
its own section, and edits under other sections do not change it. -/
theorem loadLuaConfig_sections (path text : CppString) :
    ∃ cfg, loadLuaConfig path (some text) = .ok cfg ∧ ∀ f : Field,
      IsLastAssigned (getlines '\n' text) f (cfg.get f) ∧
      ∀ name text', EditsUnder name text text' → name ≠ f.sectionName →
        ∃ cfg', loadLuaConfig path (some text') = .ok cfg' ∧ cfg'.get f = cfg.get f := by
  refine ⟨readConfig text, rfl, ?_⟩
  intro f
  refine ⟨readConfig_isLastAssigned text f, ?_⟩
  rintro name text' ⟨before, old, new, after, htext, htext', hlines, rfl⟩ hf
  refine ⟨readConfig text', rfl, ?_⟩
  have hold : ∀ l ∈ old, ¬ IsHeaderLine l := fun l hl => hlines l (List.mem_append_left _ hl)
  have hnew : ∀ l ∈ new, ¬ IsHeaderLine l := fun l hl => hlines l (List.mem_append_right _ hl)
  rw [readConfig_get, readConfig_get, textLog, textLog, htext, htext',
    lookup_of_governed hold hf, lookup_of_governed hnew hf]

end YodaStruct.Config
