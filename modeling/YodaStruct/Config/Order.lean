import YodaStruct.Config.RoundTrip

/-! Reordering the top-level entries of a document: blocks may go anywhere, a scalar line is
read only while no section is open. -/
namespace YodaStruct.Config
open StdString Scan SectionLog

theorem exists_top_field (line : KeyLine)
    (hk : line.key = Field.trajectory.key ∨ line.key = Field.variablesFile.key) :
    ∃ f : Field, f.sectionName = [] ∧ f.key = line.key ∧ ∀ raw, f.decode raw = .text raw := by
  rcases hk with hk | hk
  · exact ⟨.trajectory, rfl, hk.symm, fun _ => rfl⟩
  · exact ⟨.variablesFile, rfl, hk.symm, fun _ => rfl⟩

section Entries
variable {doc : List Entry} (hd : (doc.map Entry.key).Nodup) {f : Field} (hf : f.sectionName = [])
include hd hf

/-- A scalar line among the top lines gives its field its value. -/
theorem lookup_of_mem_topLines {line : KeyLine} (hkey : line.key = f.key)
    (hl : line ∈ topLines doc) :
    lookup [] f.place (doc.map Entry.log).flatten = some line.raw := by
  have htop : lookup f.sectionName f.place ((topLines doc).map KeyLine.event) = some line.raw :=
    KeyLine.lookup_of_mem (fun l hl => (mem_topLines hl).1)
      (hd.sublist (topLines_keys_sublist doc)) hl hkey
  rw [lookup_top_field hf]
  rwa [hf] at htop

/-- A scalar line behind something taken for a header is not read. -/
theorem lookup_of_not_mem_topLines {line : KeyLine} {hk} (hkey : line.key = f.key)
    (hm : Entry.scalar line hk ∈ doc) (hl : line ∉ topLines doc) :
    lookup [] f.place (doc.map Entry.log).flatten = none := by
  rw [lookup_top_field hf]
  refine KeyLine.lookup_of_ne ?_ []
  intro l hl' he
  obtain ⟨-, hk', hm'⟩ := mem_topLines hl'
  have hsame : Entry.scalar l hk' = Entry.scalar line hk :=
    List.inj_on_of_nodup_map hd hm' hm (he.trans hkey.symm)
  injection hsame with hline
  exact hl (hline ▸ hl')

end Entries

theorem lookup_of_no_scalar {doc : List Entry} {f : Field} (hf : f.sectionName = [])
    (h : ∀ line hk, Entry.scalar line hk ∈ doc → line.key ≠ f.key) :
    lookup [] f.place (doc.map Entry.log).flatten = none := by
  rw [lookup_top_field hf]
  refine KeyLine.lookup_of_ne ?_ []
  intro l hl
  obtain ⟨-, hk, hm⟩ := mem_topLines hl
  exact h l hk hm

/-- The scalar lines with a value that are read from `doc` are those read from `doc'`. -/
def SameTopLines (doc doc' : List Entry) : Prop :=
  ∀ line hk, Entry.scalar line hk ∈ doc → line.raw ≠ [] →
    (line ∈ topLines doc ↔ line ∈ topLines doc')

section Order
variable {doc doc' : List Entry} (hd : (doc.map Entry.key).Nodup) (hp : doc.Perm doc')
include hd hp

theorem read_top_field_of_sameTopLines (hs : SameTopLines doc doc') {f : Field}
    (hf : f.sectionName = []) :
    f.read (lookup [] f.place (doc.map Entry.log).flatten) =
      f.read (lookup [] f.place (doc'.map Entry.log).flatten) := by
  have hd' : (doc'.map Entry.key).Nodup := (hp.map Entry.key).nodup_iff.mp hd
  by_cases hl : ∃ line hk, Entry.scalar line hk ∈ doc ∧ line.key = f.key
  · obtain ⟨line, hk, hm, hkey⟩ := hl
    have hm' : Entry.scalar line hk ∈ doc' := hp.mem_iff.mp hm
    by_cases hr : line.raw = []
    · -- an empty value is the default, read or not
      have hempty : f.read (some []) = f.read none := by
        rcases f.sectionName_eq_nil_iff.mp hf with rfl | rfl <;> rfl
      by_cases ht : line ∈ topLines doc <;> by_cases ht' : line ∈ topLines doc'
      · rw [lookup_of_mem_topLines hd hf hkey ht, lookup_of_mem_topLines hd' hf hkey ht']
      · rw [lookup_of_mem_topLines hd hf hkey ht, lookup_of_not_mem_topLines hd' hf hkey hm' ht', hr,
          hempty]
      · rw [lookup_of_not_mem_topLines hd hf hkey hm ht, lookup_of_mem_topLines hd' hf hkey ht', hr,
          hempty]
      · rw [lookup_of_not_mem_topLines hd hf hkey hm ht, lookup_of_not_mem_topLines hd' hf hkey hm' ht']
    · have hiff := hs line hk hm hr
      by_cases ht : line ∈ topLines doc
      · rw [lookup_of_mem_topLines hd hf hkey ht, lookup_of_mem_topLines hd' hf hkey (hiff.mp ht)]
      · rw [lookup_of_not_mem_topLines hd hf hkey hm ht,
          lookup_of_not_mem_topLines hd' hf hkey hm' (fun h => ht (hiff.mpr h))]
  · have hn : ∀ line hk, Entry.scalar line hk ∈ doc → line.key ≠ f.key :=
      fun line hk hm hkey => hl ⟨line, hk, hm, hkey⟩
    have hn' : ∀ line hk, Entry.scalar line hk ∈ doc' → line.key ≠ f.key :=
      fun line hk hm => hn line hk (hp.mem_iff.mpr hm)
    rw [lookup_of_no_scalar hf hn, lookup_of_no_scalar hf hn']

theorem sameTopLines_of_read_eq
    (h : ∀ f : Field, f.read (lookup [] f.place (doc.map Entry.log).flatten) =
      f.read (lookup [] f.place (doc'.map Entry.log).flatten)) : SameTopLines doc doc' := by
  have hd' : (doc'.map Entry.key).Nodup := (hp.map Entry.key).nodup_iff.mp hd
  intro line hk hm hr
  have hm' : Entry.scalar line hk ∈ doc' := hp.mem_iff.mp hm
  obtain ⟨f, hf, hkey, hdec⟩ := exists_top_field line hk
  have hne : f.read (some line.raw) ≠ f.read none := by
    have hdef : f.default = .text [] := by
      rcases f.sectionName_eq_nil_iff.mp hf with rfl | rfl <;> rfl
    unfold Field.read
    simp [hdec, hdef, hr]
  have hf' := h f
  constructor
  · intro ht
    by_contra ht'
    rw [lookup_of_mem_topLines hd hf hkey.symm ht,
      lookup_of_not_mem_topLines hd' hf hkey.symm hm' ht'] at hf'
    exact hne hf'
  · intro ht'
    by_contra ht
    rw [lookup_of_not_mem_topLines hd hf hkey.symm hm ht,
      lookup_of_mem_topLines hd' hf hkey.symm ht'] at hf'
    exact hne hf'.symm

end Order

/-- Reordering the entries keeps the loaded config exactly when the scalar lines with a value
that stand before every header are the same ones. -/
theorem loadLuaConfig_perm_iff (path : CppString) {doc doc' : List Entry}
    (hd : (doc.map Entry.key).Nodup) (hp : doc.Perm doc') (fin fin' : Bool) :
    loadLuaConfig path (some (documentText fin doc)) =
        loadLuaConfig path (some (documentText fin' doc')) ↔
      SameTopLines doc doc' := by
  rw [loadLuaConfig_eq_iff]
  simp only [lookup_documentText]
  constructor
  · exact sameTopLines_of_read_eq hd hp
  · intro h f
    by_cases hf : f.sectionName = []
    · exact read_top_field_of_sameTopLines hd hp h hf
    · have hd' : (doc'.map Entry.key).Nodup := (hp.map Entry.key).nodup_iff.mp hd
      rw [lookup_block_field_congr hd hd' hf fun _ _ => hp.mem_iff]

/-- The blocks of the shipped file may be put in another order. -/
theorem loadLuaConfig_fullApi_blocks_reversed :
    loadLuaConfig [] (some (documentText true (fullApiScalars ++ fullApiBlocks))) =
      loadLuaConfig [] (some (documentText true (fullApiScalars ++ fullApiBlocks.reverse))) := by
  have hperm : (fullApiScalars ++ fullApiBlocks).Perm (fullApiScalars ++ fullApiBlocks.reverse) :=
    (List.reverse_perm _).symm.append_left _
  refine (loadLuaConfig_perm_iff [] (by decide) hperm true true).mpr ?_
  intro line hk hm hr
  have ht : topLines (fullApiScalars ++ fullApiBlocks) =
      topLines (fullApiScalars ++ fullApiBlocks.reverse) := by rfl
  rw [ht]

/-- With the blocks put before the scalars, the trajectory of the shipped file is lost. -/
theorem loadLuaConfig_fullApi_blocks_first :
    ((fullApiScalars ++ fullApiBlocks).map Entry.key).Nodup ∧
      (fullApiScalars ++ fullApiBlocks).Perm (fullApiBlocks ++ fullApiScalars) ∧
      loadLuaConfig [] (some (documentText true (fullApiBlocks ++ fullApiScalars))) ≠
        loadLuaConfig [] (some (documentText true (fullApiScalars ++ fullApiBlocks))) := by
  refine ⟨by decide, List.perm_append_comm, ?_⟩
  have h₁ : loadLuaConfig [] (some (documentText true (fullApiScalars ++ fullApiBlocks))) =
      .ok fullApiConfig := by decide +kernel
  have h₂ : loadLuaConfig [] (some (documentText true (fullApiBlocks ++ fullApiScalars))) =
      .ok { fullApiConfig with trajectory := [], variablesFile := [] } := by decide +kernel
  rw [h₁, h₂]
  decide

end YodaStruct.Config
