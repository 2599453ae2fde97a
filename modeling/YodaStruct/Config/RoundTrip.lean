import YodaStruct.Config.Document

/-! Reading back a config written in the layout of the shipped files. -/
namespace YodaStruct.Config
open StdString Scan SectionLog

def flagWords : Bool → List CppString
  | true => ["true".toList, "True".toList, "yes".toList, "1".toList]
  | false => ["false".toList]

def IsQuote (q : Char) : Prop := q = '"' ∨ q = '\''

/-- The spellings of a value: a string in quotes, a flag plain or in quotes. -/
inductive Spells : FieldValue → CppString → Prop
  | text (s : CppString) (q : Char) (hq : IsQuote q) : Spells (.text s) (q :: (s ++ [q]))
  | flag (b : Bool) (w : CppString) (hw : w ∈ flagWords b) : Spells (.flag b) w
  | quotedFlag (b : Bool) (w : CppString) (hw : w ∈ flagWords b) (q : Char) (hq : IsQuote q) :
    Spells (.flag b) (q :: (w ++ [q]))

structure RendersField (cfg : LuaConfig) (f : Field) (line : KeyLine) : Prop where
  key : line.key = f.key
  value : ∃ gap word, IsBlank gap ∧ Spells (cfg.get f) word ∧ line.value = gap ++ word

/-- A block with a line for some of its flags, in any order, and for each that is set. -/
def RendersBlock (cfg : LuaConfig) : Entry → Prop
  | .scalar _ _ => False
  | .block b _ _ body => ∃ fs : List Field, fs.Nodup ∧ (∀ f ∈ fs, f.sectionName = b.name) ∧
      (∀ f : Field, f.sectionName = b.name → cfg.get f = .flag true → f ∈ fs) ∧
      List.Forall₂ (RendersField cfg) fs body

def RendersScalar (cfg : LuaConfig) (f : Field) : Entry → Prop
  | .scalar line _ => RendersField cfg f line
  | .block .. => False

/-- The shipped layout: the two scalars in either order, then the blocks in any order,
where a block with no flag set may be missing. -/
structure Rendering (cfg : LuaConfig) (scalars blocks : List Entry) : Prop where
  scalars_render : ∃ fs : List Field, fs.Perm [.trajectory, .variablesFile] ∧
    List.Forall₂ (RendersScalar cfg) fs scalars
  blocks_render : ∀ e ∈ blocks, RendersBlock cfg e
  blocks_once : (blocks.map Entry.key).Nodup
  omitted : ∀ f : Field, f.sectionName ≠ [] → f.sectionName ∉ blocks.map Entry.key →
    cfg.get f = .flag false

/-! Words that survive the line reader. -/

structure IsWord (w : CppString) : Prop where
  hash : '#' ∉ w
  ne_nil : w ≠ []
  head : ∀ a ∈ w.head?, decide (a ∈ blanks) = false
  last : ∀ a ∈ w.getLast?, decide (a ∈ blanks) = false ∧ a ≠ ':'

theorem IsWord.stripLine_append {w : CppString} (h : IsWord w) {gap : CppString}
    (hg : IsBlank gap) : stripLine (gap ++ w) = w := by
  have hgh : '#' ∉ gap := hg.not_mem (by decide)
  have hh : '#' ∉ gap ++ w := by simp [hgh, h.hash]
  rw [stripLine_eq_strip, cut_eq_self '#' hh, strip_append_left _ hg.mem_blanks]
  exact strip_eq_self _ h.head fun a ha => (h.last a ha).1

theorem IsWord.not_opens {w : CppString} (h : IsWord w) {gap : CppString} (hg : IsBlank gap) :
    ¬ Opens (gap ++ w) := by
  rw [Opens, h.stripLine_append hg]
  rintro (hn | hc)
  · exact h.ne_nil hn
  · exact (h.last _ hc).2 rfl

theorem isWord_quoted {q : Char} (hq : IsQuote q) {s : CppString} (hs : '#' ∉ s) :
    IsWord (q :: (s ++ [q])) := by
  have hqb : decide (q ∈ blanks) = false := by rcases hq with rfl | rfl <;> decide
  have hqc : q ≠ ':' := by rcases hq with rfl | rfl <;> decide
  have hqh : '#' ≠ q := by rcases hq with rfl | rfl <;> decide
  refine ⟨by simp [hs, hqh], by simp, ?_, ?_⟩
  · intro a ha
    obtain rfl : q = a := by simpa using ha
    exact hqb
  · intro a ha
    rw [← List.cons_append, List.getLast?_concat] at ha
    obtain rfl : q = a := by simpa using ha
    exact ⟨hqb, hqc⟩

theorem unquote_quoted {q : Char} (hq : IsQuote q) (s : CppString) :
    unquote (q :: (s ++ [q])) = s := by
  have hlast : (q :: (s ++ [q])).getLast? = some q := by
    rw [← List.cons_append, List.getLast?_concat]
  have hcond : (q :: (s ++ [q])).length ≥ 2 ∧
      (((q :: (s ++ [q])).head? = some '"' ∧ (q :: (s ++ [q])).getLast? = some '"') ∨
        ((q :: (s ++ [q])).head? = some '\'' ∧ (q :: (s ++ [q])).getLast? = some '\'')) := by
    rw [hlast]
    refine ⟨by simp, ?_⟩
    rcases hq with rfl | rfl
    · exact Or.inl ⟨rfl, rfl⟩
    · exact Or.inr ⟨rfl, rfl⟩
  rw [unquote, if_pos hcond]
  simp [substr]

/-- The words for a flag are plain words, and the reader takes them for that flag. -/
theorem flagWords_spec {b : Bool} {w : CppString} (hw : w ∈ flagWords b) :
    IsWord w ∧ unquote w = w ∧ asBool w = b := by
  cases b with
  | true =>
    simp only [flagWords, List.mem_cons, List.not_mem_nil, or_false] at hw
    rcases hw with rfl | rfl | rfl | rfl <;>
      exact ⟨⟨by decide, by decide, by simp [blanks], by simp [blanks]⟩, by decide, by decide⟩
  | false =>
    obtain rfl := List.mem_singleton.mp hw
    exact ⟨⟨by decide, by decide, by simp [blanks], by simp [blanks]⟩, by decide, by decide⟩

/-- The value of a field as a string in which the reader finds no comment. -/
def FieldValue.HashFree : FieldValue → Prop
  | .text s => '#' ∉ s
  | .flag _ => True

theorem Field.default_eq_flag {f : Field} (hf : f.sectionName ≠ []) : f.default = .flag false := by
  cases f <;> first | rfl | exact absurd rfl hf

theorem Field.decode_text {f : Field} {cfg : LuaConfig} {s : CppString}
    (h : cfg.get f = .text s) (raw : CppString) : f.decode raw = .text raw := by
  cases f <;> first | rfl | exact absurd h (by simp [LuaConfig.get])

theorem Field.decode_flag {f : Field} {cfg : LuaConfig} {b : Bool}
    (h : cfg.get f = .flag b) (raw : CppString) : f.decode raw = .flag (asBool raw) := by
  cases f <;> first | rfl | exact absurd h (by simp [LuaConfig.get])

theorem Spells.spec {cfg : LuaConfig} {f : Field} {w : CppString} (h : Spells (cfg.get f) w)
    (hs : (cfg.get f).HashFree) : IsWord w ∧ f.decode (unquote w) = cfg.get f := by
  generalize hv : cfg.get f = v at h hs
  cases h with
  | text s q hq =>
    exact ⟨isWord_quoted hq hs, by rw [unquote_quoted hq, Field.decode_text hv]⟩
  | flag b w hw =>
    obtain ⟨hword, hun, hb⟩ := flagWords_spec hw
    exact ⟨hword, by rw [hun, Field.decode_flag hv, hb]⟩
  | quotedFlag b w hw q hq =>
    obtain ⟨hword, -, hb⟩ := flagWords_spec hw
    exact ⟨isWord_quoted hq hword.hash, by rw [unquote_quoted hq, Field.decode_flag hv, hb]⟩

theorem RendersField.not_isHeader {cfg : LuaConfig} {f : Field} {line : KeyLine}
    (h : RendersField cfg f line) (hs : (cfg.get f).HashFree) : ¬ line.IsHeader := by
  obtain ⟨gap, w, hg, hw, hv⟩ := h.value
  rw [KeyLine.IsHeader, hv]
  exact (hw.spec hs).1.not_opens hg

/-- A rendered line holds the value it renders. -/
theorem RendersField.decode_raw {cfg : LuaConfig} {f : Field} {line : KeyLine}
    (h : RendersField cfg f line) (hs : (cfg.get f).HashFree) :
    f.decode line.raw = cfg.get f := by
  obtain ⟨gap, w, hg, hw, hv⟩ := h.value
  obtain ⟨hword, hdec⟩ := hw.spec hs
  rw [KeyLine.raw, hv, hword.stripLine_append hg, hdec]

/-! Reading the lines of one section. -/

section Lines
variable {cfg : LuaConfig} {fs : List Field} {lines : List KeyLine}
  (hr : List.Forall₂ (RendersField cfg) fs lines)

include hr

theorem keys_eq_of_forall₂ : lines.map KeyLine.key = fs.map Field.key := by
  induction hr with
  | nil => rfl
  | cons hg _ ih => rw [List.map_cons, List.map_cons, hg.key, ih]

theorem not_isHeader_of_forall₂ (hs : ∀ f, (cfg.get f).HashFree) :
    ∀ line ∈ lines, ¬ line.IsHeader := by
  induction hr with
  | nil => simp
  | @cons g line fs lines hg _ ih =>
    intro line' hl
    rcases List.mem_cons.mp hl with rfl | hl
    · exact hg.not_isHeader (hs g)
    · exact ih line' hl

theorem exists_line_of_forall₂ {f : Field} (hf : f ∈ fs) : ∃ line ∈ lines, RendersField cfg f line := by
  induction hr with
  | nil => simp at hf
  | @cons g line fs lines hg _ ih =>
    rcases List.mem_cons.mp hf with rfl | hf
    · exact ⟨line, List.mem_cons_self, hg⟩
    · obtain ⟨line', hl, hline⟩ := ih hf
      exact ⟨line', List.mem_cons_of_mem _ hl, hline⟩

variable {f : Field} (hsec : ∀ g ∈ fs, g.sectionName = f.sectionName)
include hsec

/-- A field with a line among those of its section is read back. -/
theorem read_of_mem (hs : ∀ f, (cfg.get f).HashFree) (hnd : fs.Nodup) (hf : f ∈ fs) :
    f.read (lookup f.sectionName f.place (lines.map KeyLine.event)) = cfg.get f := by
  have hkeys : (lines.map KeyLine.key).Nodup := by
    rw [keys_eq_of_forall₂ hr]
    refine hnd.map_on ?_
    intro g hg g' hg' hkey
    exact Field.place_injective (Prod.ext ((hsec g hg).trans (hsec g' hg').symm) hkey)
  obtain ⟨line, hl, hline⟩ := exists_line_of_forall₂ hr hf
  rw [KeyLine.lookup_of_mem (not_isHeader_of_forall₂ hr hs) hkeys hl hline.key]
  exact hline.decode_raw (hs f)

/-- A field without a line there keeps its default. -/
theorem lookup_of_not_mem (hf : f ∉ fs) :
    lookup f.sectionName f.place (lines.map KeyLine.event) = none := by
  refine KeyLine.lookup_of_ne ?_ _
  intro line hl hkey
  have hmem : line.key ∈ fs.map Field.key := keys_eq_of_forall₂ hr ▸ List.mem_map_of_mem hl
  obtain ⟨g, hg, hgkey⟩ := List.mem_map.mp hmem
  have hgf : g = f := Field.place_injective (Prod.ext (hsec g hg) (hgkey.trans hkey))
  exact hf (hgf ▸ hg)

end Lines

/-- A field of a rendered block is read back, with a line or without. -/
theorem RendersBlock.read {cfg : LuaConfig} {b : Block} {indent : CppString}
    {hi : IsBlank indent} {body : List KeyLine} (h : RendersBlock cfg (.block b indent hi body))
    (hs : ∀ f, (cfg.get f).HashFree) {f : Field} (hb : b.name = f.sectionName) :
    f.read (lookup f.sectionName f.place (body.map KeyLine.event)) = cfg.get f := by
  have hf : f.sectionName ≠ [] := hb ▸ b.isKey_name.ne_nil
  obtain ⟨fs, hnd, hsec, hset, hlines⟩ := h
  have hsec' : ∀ g ∈ fs, g.sectionName = f.sectionName := fun g hg => (hsec g hg).trans hb
  by_cases hfs : f ∈ fs
  · exact read_of_mem hlines hsec' hs hnd hfs
  · have hflag : cfg.get f ≠ .flag true := fun ht => hfs (hset f hb.symm ht)
    obtain ⟨v, hget⟩ := cfg.exists_get_eq_flag hf
    rw [hget] at hflag
    rw [lookup_of_not_mem hlines hsec' hfs, hget]
    show f.default = _
    rw [Field.default_eq_flag hf]
    simpa using hflag

/-! The round trip. -/

section Layout
variable {cfg : LuaConfig} {scalars blocks : List Entry} (h : Rendering cfg scalars blocks)
  (hs : ∀ f, (cfg.get f).HashFree)

include hs in
/-- Rendered scalar lines are all top lines, whatever blocks follow. -/
theorem topLines_append_of_forall₂ {fs : List Field} {scalars : List Entry}
    (hfs : List.Forall₂ (RendersScalar cfg) fs scalars)
    (hb : ∀ e ∈ blocks, RendersBlock cfg e) :
    List.Forall₂ (RendersField cfg) fs (topLines (scalars ++ blocks)) := by
  induction hfs with
  | nil =>
    cases blocks with
    | nil => exact .nil
    | cons e blocks =>
      have he := hb e List.mem_cons_self
      cases e with
      | scalar line hk => exact he.elim
      | block b indent hi body => exact .nil
  | @cons f e fs scalars hfe _ ih =>
    cases e with
    | block b indent hi body => exact hfe.elim
    | scalar line hk =>
      rw [List.cons_append, topLines, if_neg (RendersField.not_isHeader hfe (hs f))]
      exact .cons hfe ih

theorem key_ne_name_of_forall₂ {fs : List Field} (hfs : List.Forall₂ (RendersScalar cfg) fs scalars)
    (b : Block) : ∀ e ∈ scalars, e.key ≠ b.name := by
  induction hfs with
  | nil => simp
  | @cons f e fs scalars hfe _ ih =>
    intro e' he'
    rcases List.mem_cons.mp he' with rfl | he'
    · cases e' with
      | scalar line hk => exact line.key_ne_name b
      | block b' indent hi body => exact hfe.elim
    · exact ih e' he'

include h hs in
theorem Rendering.read_top (finalNewline : Bool) {f : Field} (hf : f.sectionName = []) :
    f.read (lookup [] f.place (textLog (documentText finalNewline (scalars ++ blocks)))) =
      cfg.get f := by
  obtain ⟨fs, hperm, hfs⟩ := h.scalars_render
  have hmem : ∀ g : Field, g ∈ fs ↔ g = .trajectory ∨ g = .variablesFile := by
    intro g
    rw [hperm.mem_iff]
    simp
  have hsec : ∀ g ∈ fs, g.sectionName = f.sectionName := by
    intro g hg
    rw [hf, g.sectionName_eq_nil_iff]
    exact (hmem g).mp hg
  have hnd : fs.Nodup := hperm.nodup_iff.mpr (by decide)
  have hread := read_of_mem (topLines_append_of_forall₂ hs hfs h.blocks_render) hsec hs hnd
    ((hmem f).mpr (f.sectionName_eq_nil_iff.mp hf))
  rw [hf] at hread
  rw [lookup_documentText, lookup_top_field hf]
  exact hread

include h hs in
theorem Rendering.read_block (finalNewline : Bool) {f : Field} (hf : f.sectionName ≠ []) :
    f.read (lookup [] f.place (textLog (documentText finalNewline (scalars ++ blocks)))) =
      cfg.get f := by
  have hscalar : ∀ e ∈ scalars, e.key ≠ f.sectionName := by
    obtain ⟨fs, -, hfs⟩ := h.scalars_render
    obtain ⟨b, hb⟩ := Field.exists_block hf
    exact hb ▸ key_ne_name_of_forall₂ hfs b
  rw [lookup_documentText]
  by_cases hmem : f.sectionName ∈ blocks.map Entry.key
  · obtain ⟨e, he, hek⟩ := List.mem_map.mp hmem
    have her := h.blocks_render e he
    have hnd := h.blocks_once
    cases e with
    | scalar line hk => exact her.elim
    | block b indent hi body =>
      obtain ⟨before, after, rfl⟩ := List.append_of_mem he
      have hne : ∀ e', e' ∈ scalars ++ before ∨ e' ∈ after → e'.key ≠ f.sectionName := by
        intro e' he'
        rcases he' with he' | he'
        · rcases List.mem_append.mp he' with he' | he'
          · exact hscalar e' he'
          · exact hek ▸ key_ne_of_nodup hnd e' (Or.inl he')
        · exact hek ▸ key_ne_of_nodup hnd e' (Or.inr he')
      rw [← List.append_assoc, lookup_block_field hf hek hne]
      exact RendersBlock.read her hs hek
  · rw [lookup_block_field_of_absent hf]
    · show f.default = _
      rw [Field.default_eq_flag hf, h.omitted f hf hmem]
    · intro e he hek
      rcases List.mem_append.mp he with he | he
      · exact hscalar e he hek
      · exact hmem (hek ▸ List.mem_map_of_mem he)

end Layout

/-- Every rendering of a config in the shipped layout loads as that config. -/
theorem loadLuaConfig_rendering (path : CppString) (cfg : LuaConfig)
    (ht : '#' ∉ cfg.trajectory) (hv : '#' ∉ cfg.variablesFile) {scalars blocks : List Entry}
    (h : Rendering cfg scalars blocks) (finalNewline : Bool) :
    loadLuaConfig path (some (documentText finalNewline (scalars ++ blocks))) = .ok cfg := by
  have hs : ∀ f, (cfg.get f).HashFree := by
    intro f
    cases f with
    | trajectory => exact ht
    | variablesFile => exact hv
    | _ => trivial
  have hcfg : readConfig (documentText finalNewline (scalars ++ blocks)) = cfg := by
    apply LuaConfig.ext_get
    intro f
    rw [readConfig_get]
    by_cases hf : f.sectionName = []
    · exact h.read_top hs finalNewline hf
    · exact h.read_block hs finalNewline hf
  rw [loadLuaConfig, hcfg]

/-! The file `example_lua/full_api/config.yml`. -/

def fullApiConfig : LuaConfig where
  trajectory := "input/traj/exampleTraj.lammpstrj".toList
  variablesFile := "example_lua/full_api/vars.lua".toList
  structureDesc := true

def fullApiScalars : List Entry :=
  [.scalar (Field.trajectory.line [] "\"input/traj/exampleTraj.lammpstrj\"".toList
      isBlank_nil (by decide)) (Or.inl rfl),
    .scalar (Field.variablesFile.line [] "\"example_lua/full_api/vars.lua\"".toList
      isBlank_nil (by decide)) (Or.inr rfl)]

/-- A flag line of the file, indented by two spaces. -/
def flagLine (f : Field) (b : Bool) : KeyLine :=
  f.line "  ".toList (if b then "true".toList else "false".toList)
    (by simp [IsBlank]) (by cases b <;> decide)

def fullApiBlocks : List Entry :=
  [.block .bulk [] isBlank_nil
      [flagLine .bulkUse false, flagLine .bulkTopo false, flagLine .bulkBop false],
    .block .topoOneDim [] isBlank_nil [flagLine .topoOneDim false],
    .block .topoTwoDim [] isBlank_nil [flagLine .topoTwoDim false],
    .block .structureDesc [] isBlank_nil [flagLine .structureDesc true]]

example : (fullApiScalars ++ fullApiBlocks).flatMap Entry.lines =
    ["trajectory: \"input/traj/exampleTraj.lammpstrj\"".toList,
      "variables: \"example_lua/full_api/vars.lua\"".toList,
      "bulk:".toList, "  use: false".toList, "  topologicalNetworkCriterion: false".toList,
      "  bondOrderParameters: false".toList, "topoOneDim:".toList, "  use: false".toList,
      "topoTwoDim:".toList, "  use: false".toList, "structureDesc:".toList,
      "  use: true".toList] := rfl

theorem flagLine_renders (f : Field) (b : Bool) (hf : fullApiConfig.get f = .flag b) :
    RendersField fullApiConfig f (flagLine f b) := by
  refine ⟨rfl, " ".toList, if b then "true".toList else "false".toList, by simp [IsBlank], ?_, rfl⟩
  rw [hf]
  cases b <;> exact .flag _ _ (by decide)

theorem fullApi_rendering : Rendering fullApiConfig fullApiScalars fullApiBlocks where
  scalars_render := ⟨_, List.Perm.refl _,
    .cons ⟨rfl, " ".toList, _, by simp [IsBlank], .text _ '"' (Or.inl rfl), rfl⟩
      (.cons ⟨rfl, " ".toList, _, by simp [IsBlank], .text _ '"' (Or.inl rfl), rfl⟩ .nil)⟩
  blocks_render := by
    intro e he
    simp only [fullApiBlocks, List.mem_cons, List.not_mem_nil, or_false] at he
    rcases he with rfl | rfl | rfl | rfl
    · exact ⟨[.bulkUse, .bulkTopo, .bulkBop], by decide, by decide, fun f => by cases f <;> decide,
        .cons (flagLine_renders _ _ rfl) (.cons (flagLine_renders _ _ rfl)
          (.cons (flagLine_renders _ _ rfl) .nil))⟩
    · exact ⟨[.topoOneDim], by decide, by decide, fun f => by cases f <;> decide,
        .cons (flagLine_renders _ _ rfl) .nil⟩
    · exact ⟨[.topoTwoDim], by decide, by decide, fun f => by cases f <;> decide,
        .cons (flagLine_renders _ _ rfl) .nil⟩
    · exact ⟨[.structureDesc], by decide, by decide, fun f => by cases f <;> decide,
        .cons (flagLine_renders _ _ rfl) .nil⟩
  blocks_once := by decide
  omitted := by
    intro f hf hn
    cases f <;> first | exact absurd rfl hf | exact absurd (by decide) hn

theorem loadLuaConfig_fullApi :
    loadLuaConfig "example_lua/full_api/config.yml".toList
      (some (documentText true (fullApiScalars ++ fullApiBlocks))) = .ok fullApiConfig :=
  loadLuaConfig_rendering _ fullApiConfig (by decide) (by decide) fullApi_rendering true

end YodaStruct.Config
