import YodaStruct.Config.Events
import Mathlib.Data.List.Nodup

/-! Lines of the config schema: `key: value` lines and block headers, and what the
reader takes them for. -/
namespace YodaStruct.Config
open StdString Scan SectionLog

/-- Strings of spaces and tabs. -/
def IsBlank (w : CppString) : Prop := ∀ c ∈ w, c = ' ' ∨ c = '\t'

/-- A key as the schema has them: trimmed, with no letter that the reader acts on. -/
structure IsKey (key : CppString) : Prop where
  ne_nil : key ≠ []
  trim_eq : trim key = key
  letters : ∀ c ∈ key, c ≠ '#' ∧ c ≠ ':' ∧ c ≠ '\n'

def lineText (indent key rest : CppString) : CppString := indent ++ (key ++ ':' :: rest)

/-- What follows the colon makes the reader take the line for a header: nothing is left
of it, or what is left ends in a colon. -/
def Opens (rest : CppString) : Prop := stripLine rest = [] ∨ (stripLine rest).getLast? = some ':'

instance (rest : CppString) : Decidable (Opens rest) := inferInstanceAs (Decidable (_ ∨ _))

theorem isBlank_nil : IsBlank [] := List.forall_mem_nil _

theorem IsBlank.mem_blanks {w : CppString} (h : IsBlank w) :
    ∀ c ∈ w, decide (c ∈ blanks) = true := by
  intro c hc
  rcases h c hc with rfl | rfl <;> decide

theorem IsBlank.not_mem {w : CppString} (h : IsBlank w) {c : Char} (hc : c ≠ ' ' ∧ c ≠ '\t') :
    c ∉ w := by
  intro hw
  rcases h c hw with rfl | rfl
  · exact hc.1 rfl
  · exact hc.2 rfl

theorem colon_not_blank : decide (':' ∈ blanks) = false := by decide

theorem IsKey.not_mem_hash {key : CppString} (h : IsKey key) : '#' ∉ key :=
  fun hc => (h.letters _ hc).1 rfl

theorem IsKey.not_mem_colon {key : CppString} (h : IsKey key) : ':' ∉ key :=
  fun hc => (h.letters _ hc).2.1 rfl

theorem IsKey.not_mem_newline {key : CppString} (h : IsKey key) : '\n' ∉ key :=
  fun hc => (h.letters _ hc).2.2 rfl

theorem IsKey.head_not_blank {key : CppString} (h : IsKey key) :
    ∀ c ∈ key.head?, decide (c ∈ blanks) = false := by
  intro c hc
  have ht : strip (· ∈ blanks) key = key := (trim_eq_strip key).symm.trans h.trim_eq
  exact head?_strip (· ∈ blanks) (l := key) (by rw [ht]; exact hc)

section Line
variable {indent key : CppString} (hi : IsBlank indent) (hk : IsKey key) (rest : CppString)

include hi hk

theorem stripLine_lineText : stripLine (lineText indent key rest) =
    key ++ ':' :: (cut '#' rest).rdropWhile (· ∈ blanks) := by
  have hind : '#' ∉ indent := hi.not_mem (by decide)
  have hcut : cut '#' (lineText indent key rest) = indent ++ (key ++ ':' :: cut '#' rest) := by
    have hcolon : cut '#' (':' :: rest) = ':' :: cut '#' rest := by simp [cut]
    rw [lineText, cut_append_of_not_mem '#' hind, cut_append_of_not_mem '#' hk.not_mem_hash, hcolon]
  rw [stripLine_eq_strip, hcut, strip_append_left _ hi.mem_blanks,
    strip_append_cons _ hk.head_not_blank colon_not_blank]

/-- A line whose value is blank or only a comment opens a section under its key. -/
theorem lineEvent_of_stripLine_eq_nil (hr : stripLine rest = []) :
    lineEvent (lineText indent key rest) = .header key := by
  have hrest : (cut '#' rest).rdropWhile (· ∈ blanks) = [] := by
    rw [stripLine_eq_strip, strip_eq_nil_iff] at hr
    exact List.rdropWhile_eq_nil_iff.mpr hr
  have hline := stripLine_lineText hi hk rest
  rw [hrest] at hline
  simp [lineEvent, hline, hk.trim_eq]

/-- Any other line that is taken for a header opens a section with a colon in its name. -/
theorem lineEvent_of_getLast? (hr : (stripLine rest).getLast? = some ':') :
    ∃ n, lineEvent (lineText indent key rest) = .header n ∧ ':' ∈ n := by
  obtain ⟨u, hu, -⟩ := exists_rdropWhile_eq (· ∈ blanks) (cut '#' rest)
  rw [← stripLine_eq_strip] at hu
  obtain ⟨t, ht⟩ := List.getLast?_eq_some_iff.mp hr
  have hline := stripLine_lineText hi hk rest
  rw [hu, ht, ← List.append_assoc] at hline
  have hline' : stripLine (lineText indent key rest) = (key ++ ':' :: (u ++ t)) ++ [':'] := by
    rw [hline]; simp
  have hn : trim (key ++ ':' :: (u ++ t)) =
      key ++ ':' :: (u ++ t).rdropWhile (· ∈ blanks) := by
    rw [trim_eq_strip, strip_append_cons _ hk.head_not_blank colon_not_blank]
  refine ⟨trim (key ++ ':' :: (u ++ t)), ?_, by rw [hn]; simp⟩
  simp only [lineEvent, hline', List.dropLast_concat, List.getLast?_concat]
  simp

/-- A line that is not taken for a header assigns its value to its key. -/
theorem lineEvent_of_not_opens (hr : ¬ Opens rest) :
    lineEvent (lineText indent key rest) = .assign key (unquote (stripLine rest)) := by
  obtain ⟨hne, hlast⟩ := not_or.mp hr
  obtain ⟨u, hu, hub⟩ := exists_rdropWhile_eq (· ∈ blanks) (cut '#' rest)
  rw [← stripLine_eq_strip] at hu
  have hline := stripLine_lineText hi hk rest
  rw [hu] at hline
  have hgl : (key ++ ':' :: (u ++ stripLine rest)).getLast? = (stripLine rest).getLast? := by
    rw [show key ++ ':' :: (u ++ stripLine rest) = (key ++ ':' :: u) ++ stripLine rest by simp,
      List.getLast?_append_of_ne_nil _ hne]
  have hval : trim (u ++ stripLine rest) = stripLine rest := by
    rw [trim_eq_strip, strip_append_left _ hub, stripLine_eq_strip, strip_strip]
  have hcut : cut ':' (key ++ ':' :: (u ++ stripLine rest)) = key := by
    rw [cut_append_of_not_mem ':' hk.not_mem_colon, cut_cons_self, List.append_nil]
  simp only [lineEvent, hline, hgl, hlast, hcut, after_append_cons ':' hk.not_mem_colon, hval,
    hk.trim_eq]
  simp

end Line

inductive Block
  | bulk | topoOneDim | topoTwoDim | structureDesc
  deriving DecidableEq

def Block.name : Block → CppString
  | bulk => "bulk".toList
  | topoOneDim => "topoOneDim".toList
  | topoTwoDim => "topoTwoDim".toList
  | structureDesc => "structureDesc".toList

theorem Block.isKey_name (b : Block) : IsKey b.name := by
  cases b <;> exact ⟨by decide, by decide, List.forall_iff_forall_mem.mp (by decide)⟩

theorem Field.sectionName_eq_nil_iff (f : Field) :
    f.sectionName = [] ↔ f = .trajectory ∨ f = .variablesFile := by
  cases f <;> decide

theorem Field.exists_block {f : Field} (h : f.sectionName ≠ []) :
    ∃ b : Block, b.name = f.sectionName := by
  cases f with
  | trajectory => exact absurd rfl h
  | variablesFile => exact absurd rfl h
  | bulkUse => exact ⟨.bulk, rfl⟩
  | bulkTopo => exact ⟨.bulk, rfl⟩
  | bulkBop => exact ⟨.bulk, rfl⟩
  | topoOneDim => exact ⟨.topoOneDim, rfl⟩
  | topoTwoDim => exact ⟨.topoTwoDim, rfl⟩
  | structureDesc => exact ⟨.structureDesc, rfl⟩

theorem LuaConfig.exists_get_eq_flag (cfg : LuaConfig) {f : Field} (h : f.sectionName ≠ []) :
    ∃ b, cfg.get f = .flag b := by
  cases f <;> first | exact absurd rfl h | exact ⟨_, rfl⟩

theorem Field.isKey_key (f : Field) : IsKey f.key := by
  cases f <;> exact ⟨by decide, by decide, List.forall_iff_forall_mem.mp (by decide)⟩

/-- A `key: value` line of a document. No key of the schema is the name of a block. -/
structure KeyLine where
  indent : CppString
  key : CppString
  value : CppString
  indent_blank : IsBlank indent
  key_isKey : IsKey key
  key_ne_name : ∀ b : Block, key ≠ b.name
  value_line : '\n' ∉ value

theorem Field.key_ne_name (f : Field) (b : Block) : f.key ≠ b.name := by
  cases f <;> cases b <;> decide

/-- The line `key: value` of a field. -/
def Field.line (f : Field) (indent value : CppString) (hi : IsBlank indent)
    (hv : '\n' ∉ value) : KeyLine where
  indent := indent
  key := f.key
  value := ' ' :: value
  indent_blank := hi
  key_isKey := f.isKey_key
  key_ne_name := f.key_ne_name
  value_line := by simp [hv]

namespace KeyLine

def text (l : KeyLine) : CppString := lineText l.indent l.key l.value

/-- The value as the reader decodes it. -/
def raw (l : KeyLine) : CppString := unquote (stripLine l.value)

/-- The line is taken for a header. -/
def IsHeader (l : KeyLine) : Prop := Opens l.value

instance : DecidablePred IsHeader := fun l => inferInstanceAs (Decidable (Opens l.value))

def event (l : KeyLine) : LineEvent := lineEvent l.text

theorem event_of_not_isHeader {l : KeyLine} (h : ¬ l.IsHeader) : l.event = .assign l.key l.raw :=
  lineEvent_of_not_opens l.indent_blank l.key_isKey l.value h

/-- The section that a line opens by accident is none of the schema. -/
theorem event_of_isHeader {l : KeyLine} (h : l.IsHeader) :
    ∃ n, l.event = .header n ∧ ∀ f : Field, n ≠ f.sectionName := by
  have hname : ∀ f : Field, l.key ≠ f.sectionName := by
    intro f
    by_cases hf : f.sectionName = []
    · rw [hf]
      exact l.key_isKey.ne_nil
    · obtain ⟨b, hb⟩ := Field.exists_block hf
      rw [← hb]
      exact l.key_ne_name b
  rcases h with h | h
  · exact ⟨l.key, lineEvent_of_stripLine_eq_nil l.indent_blank l.key_isKey l.value h, hname⟩
  · obtain ⟨n, hn, hc⟩ := lineEvent_of_getLast? l.indent_blank l.key_isKey l.value h
    refine ⟨n, hn, fun f hf => ?_⟩
    have : ':' ∉ f.sectionName := by cases f <;> decide
    exact this (hf ▸ hc)

theorem newline_not_mem_text (l : KeyLine) : '\n' ∉ l.text := by
  have hi : '\n' ∉ l.indent := l.indent_blank.not_mem (by decide)
  simp [text, lineText, hi, l.key_isKey.not_mem_newline, l.value_line]

/-- Lines of a group never open a section of the schema. -/
theorem avoids (lines : List KeyLine) (f : Field) : Avoids f.sectionName (lines.map event) := by
  intro n hn
  obtain ⟨l, -, hl⟩ := List.mem_map.mp hn
  by_cases h : l.IsHeader
  · obtain ⟨m, hm, hne⟩ := event_of_isHeader h
    obtain rfl : m = n := by simpa [hm] using hl
    exact hne f
  · simp [event_of_not_isHeader h] at hl

/-! Lookups in the lines of one section. -/

section Group
variable {f : Field} {lines : List KeyLine}

/-- No line of the key: nothing is found, whichever section governs the start. -/
theorem lookup_of_ne (h : ∀ l ∈ lines, l.key ≠ f.key) (s : CppString) :
    lookup s f.place (lines.map event) = none := by
  refine inert_of_key_ne ?_ s
  intro k v hkv
  obtain ⟨l, hl, he⟩ := List.mem_map.mp hkv
  by_cases hh : l.IsHeader
  · obtain ⟨n, hn, -⟩ := event_of_isHeader hh
    rw [hn] at he
    cases he
  · rw [event_of_not_isHeader hh] at he
    obtain ⟨rfl, -⟩ : l.key = k ∧ l.raw = v := by simpa using he
    exact h l hl

/-- Among lines with distinct keys, none of them taken for a header, the line of a key gives
its field its value. -/
theorem lookup_of_mem (hh : ∀ l ∈ lines, ¬ l.IsHeader) (hd : (lines.map key).Nodup)
    {line : KeyLine} (hl : line ∈ lines) (hkey : line.key = f.key) :
    lookup f.sectionName f.place (lines.map event) = some line.raw := by
  have hevent : ∀ l ∈ lines, l.event = .assign l.key l.raw := fun l hl =>
    event_of_not_isHeader (hh l hl)
  have hheader : ∀ e ∈ lines.map event, ¬ e.IsHeader := by
    intro e he
    obtain ⟨l, hl, rfl⟩ := List.mem_map.mp he
    rw [hevent l hl]
    exact id
  have hmem : .assign f.place.2 line.raw ∈ lines.map event := by
    refine List.mem_map.mpr ⟨line, hl, ?_⟩
    rw [hevent line hl, hkey]
    rfl
  obtain ⟨w, hw⟩ := exists_lookup_of_mem hheader hmem
  -- the line that decided the lookup has the same key, so it is the line itself
  obtain ⟨l, hl', hlw⟩ := List.mem_map.mp (mem_of_lookup_eq_some hw)
  rw [hevent l hl'] at hlw
  obtain ⟨hlk, rfl⟩ : l.key = f.key ∧ l.raw = w := by simpa [Field.place] using hlw
  have hle : l = line := List.inj_on_of_nodup_map hd hl' hl (hlk.trans hkey.symm)
  rw [← hle]
  exact hw

/-- The lines before the first that is taken for a header. -/
def openLines (lines : List KeyLine) : List KeyLine := lines.takeWhile fun l => ¬ l.IsHeader

theorem mem_openLines {l : KeyLine} (h : l ∈ openLines lines) : ¬ l.IsHeader ∧ l ∈ lines :=
  ⟨by simpa using List.mem_takeWhile_imp h, (List.takeWhile_sublist _).subset h⟩

/-- Behind a line that is taken for a header, the section is not read any more. -/
theorem lookup_openLines (f : Field) (lines : List KeyLine) :
    lookup f.sectionName f.place (lines.map event) =
      lookup f.sectionName f.place ((openLines lines).map event) := by
  induction lines with
  | nil => rfl
  | cons l lines ih =>
    unfold openLines at ih ⊢
    by_cases hh : l.IsHeader
    · obtain ⟨n, hn, hne⟩ := event_of_isHeader hh
      rw [List.takeWhile_cons_of_neg (by simpa using hh), List.map_cons, hn]
      exact inert_header (hne f) (avoids lines f) f.sectionName
    · rw [List.takeWhile_cons_of_pos (by simpa using hh), List.map_cons, List.map_cons,
        event_of_not_isHeader hh, lookup, lookup, ih]

end Group

end KeyLine

end YodaStruct.Config
