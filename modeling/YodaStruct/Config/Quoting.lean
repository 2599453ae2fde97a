import YodaStruct.Config.RoundTrip
import YodaStruct.Config.Layout
import YodaStruct.Config.Sections

/-! Quoted scalars. The reader cuts comments before it looks for quotes, so a value with
a `#` is never read. -/
namespace YodaStruct.Config
open StdString Scan SectionLog

theorem mem_of_mem_unquote {s : CppString} {c : Char} (h : c ∈ unquote s) : c ∈ s := by
  unfold unquote at h
  split_ifs at h
  · exact List.mem_of_mem_drop (List.mem_of_mem_take h)
  · exact h

/-- No value that a line assigns has a `#`. -/
theorem hash_not_mem_of_lineEvent {line key raw : CppString}
    (h : lineEvent line = .assign key raw) : '#' ∉ raw := by
  have hstrip : '#' ∉ stripLine line := by
    rw [stripLine_eq_strip]
    exact fun hc => not_mem_cut '#' line (mem_of_mem_strip _ hc)
  have hraw : raw = unquote (trim (after ':' (stripLine line))) := by
    unfold lineEvent at h
    dsimp only at h
    split_ifs at h
    exact (Event.assign.inj h).2.symm
  intro hc
  rw [hraw] at hc
  have htrim := mem_of_mem_unquote hc
  rw [trim_eq_strip] at htrim
  have hafter : '#' ∈ after ':' (stripLine line) := mem_of_mem_strip _ htrim
  unfold after at hafter
  exact hstrip ((List.dropWhile_sublist _).subset (List.mem_of_mem_tail hafter))

theorem Field.read_eq_text {f : Field} {raw : Option CppString} {v : CppString}
    (h : f.read raw = .text v) : raw = some v ∨ v = [] := by
  unfold Field.read at h
  cases raw with
  | none =>
    have hv : v = [] := by
      cases f <;> simp_all [Field.default]
    exact Or.inr hv
  | some raw =>
    have hv : raw = v := by
      cases f <;> simp_all [Field.decode]
    exact Or.inl (congrArg some hv)

/-- No text of a loaded config has a `#`. -/
theorem hash_not_mem_of_get {text v : CppString} {f : Field}
    (h : (readConfig text).get f = .text v) : '#' ∉ v := by
  rw [readConfig_get] at h
  rcases Field.read_eq_text h with hl | rfl
  · obtain ⟨line, -, hline⟩ := List.mem_map.mp (mem_of_lookup_eq_some hl)
    exact hash_not_mem_of_lineEvent hline
  · exact List.not_mem_nil

/-- The line `key: qvq` of a field, with what may follow the closing quote. -/
def quotedLine (f : Field) (q : Char) (v tail : CppString) : CppString :=
  f.key ++ (": ".toList ++ (q :: (v ++ [q]))) ++ tail

theorem lineEvent_quotedLine (f : Field) {q : Char} (hq : IsQuote q) {v tail : CppString}
    (hv : '#' ∉ v) (ht : IsTail tail) :
    lineEvent (quotedLine f q v tail) = .assign f.key v := by
  have hgap : IsBlank " ".toList := by simp [IsBlank]
  have hword := isWord_quoted hq hv
  have hline : f.key ++ (": ".toList ++ (q :: (v ++ [q]))) =
      lineText [] f.key (" ".toList ++ (q :: (v ++ [q]))) := rfl
  unfold quotedLine
  rw [lineEvent_append_tail ht, hline,
    lineEvent_of_not_opens isBlank_nil f.isKey_key _ (hword.not_opens hgap),
    hword.stripLine_append hgap, unquote_quoted hq]

/-- A line before every header gives its field its value, if no later line does. -/
theorem lookup_top_line {f : Field} (hf : f.sectionName = []) {line v : CppString}
    (hline : lineEvent line = .assign f.key v) {before after : List CppString}
    (hbefore : ∀ l ∈ before, ¬ IsHeaderLine l) (hlast : ∀ i raw, ¬ AssignsField after f i raw) :
    lookup [] f.place ((before ++ line :: after).map lineEvent) = some v := by
  have hplace : f.place = ([], f.key) := Prod.ext hf rfl
  have hcurrent : current [] (before.map lineEvent) = [] := by
    apply current_of_no_header
    intro e he
    obtain ⟨l, hl, rfl⟩ := List.mem_map.mp he
    exact not_isHeader_lineEvent (hbefore l hl)
  rw [List.map_append, List.map_cons, hline, lookup_append, hcurrent, lookup,
    lookup_of_not_assigned hlast]
  simp [hplace]

/-- A quoted scalar that stands before every header and is not assigned again is read back
exactly when it has no `#`. -/
theorem loadLuaConfig_quoted_iff (path : CppString) {f : Field} (hf : f.sectionName = [])
    {q : Char} (hq : IsQuote q) {v tail : CppString} (hv : '\n' ∉ v) (ht : IsTail tail)
    {before after : List CppString} (hbefore : ∀ l ∈ before, '\n' ∉ l ∧ ¬ IsHeaderLine l)
    (hafter : ∀ l ∈ after, '\n' ∉ l) (hlast : ∀ i raw, ¬ AssignsField after f i raw)
    (finalNewline : Bool) :
    (∃ cfg, loadLuaConfig path
        (some (assemble finalNewline (before ++ quotedLine f q v tail :: after))) = .ok cfg ∧
      cfg.get f = .text v) ↔ '#' ∉ v := by
  constructor
  · rintro ⟨cfg, hcfg, hget⟩
    obtain rfl := Except.ok.inj hcfg
    exact hash_not_mem_of_get hget
  · intro hh
    refine ⟨_, rfl, ?_⟩
    have hq' : '\n' ≠ q := by
      rcases hq with rfl | rfl <;> decide
    have hline : '\n' ∉ quotedLine f q v tail := by
      simp [quotedLine, f.isKey_key.not_mem_newline, hv, hq', ht.newline]
    have hlines : ∀ l ∈ before ++ quotedLine f q v tail :: after, '\n' ∉ l := by
      intro l hl
      rcases List.mem_append.mp hl with hl | hl
      · exact (hbefore l hl).1
      · rcases List.mem_cons.mp hl with rfl | hl
        · exact hline
        · exact hafter l hl
    have hlook := lookup_top_line hf (lineEvent_quotedLine f hq hh ht)
      (fun l hl => (hbefore l hl).2) hlast
    have hdecode : f.decode v = .text v := by
      rcases f.sectionName_eq_nil_iff.mp hf with rfl | rfl <;> rfl
    rw [readConfig_get, lookup_assemble f.place finalNewline hlines, hlook]
    exact hdecode

theorem loadLuaConfig_quoted_blank :
    ∃ cfg, loadLuaConfig [] (some (assemble true ([] ++ quotedLine .trajectory '"'
        "traj: run 2.lammpstrj".toList " # second run".toList :: ["bulk:".toList]))) = .ok cfg ∧
      cfg.get .trajectory = .text "traj: run 2.lammpstrj".toList := by
  have htail : IsTail " # second run".toList := isTail_comment (by decide)
  have hlast : ∀ i raw, ¬ AssignsField ["bulk:".toList] .trajectory i raw := by
    rintro i raw ⟨⟨line, hline, hassigns⟩, -⟩
    obtain rfl := List.mem_singleton.mp (List.mem_of_getElem? hline)
    exact hassigns.not_header (by decide)
  exact (loadLuaConfig_quoted_iff [] rfl (Or.inl rfl) (by decide) htail (by simp) (by simp) hlast
    true).mpr (by decide)

/-- The value `run#2.lammpstrj` is cut off, and keeps its opening quote. -/
theorem loadLuaConfig_quoted_hash :
    loadLuaConfig [] (some (assemble true [quotedLine .trajectory '"' "run#2.lammpstrj".toList []])) =
        .ok { trajectory := "\"run".toList } ∧
      ¬ ∃ cfg, loadLuaConfig []
          (some (assemble true [quotedLine .trajectory '"' "run#2.lammpstrj".toList []])) = .ok cfg ∧
        cfg.get .trajectory = .text "run#2.lammpstrj".toList := by
  have hload : loadLuaConfig []
      (some (assemble true [quotedLine .trajectory '"' "run#2.lammpstrj".toList []])) =
        .ok { trajectory := "\"run".toList } := by decide
  refine ⟨hload, ?_⟩
  rintro ⟨cfg, hcfg, hget⟩
  obtain rfl := Except.ok.inj (hload.symm.trans hcfg)
  exact absurd hget (by decide)

end YodaStruct.Config
