import YodaStruct.Config.Lines

/-! Schema documents as lists of top-level entries, and the fields that the reader takes
from the text of one. -/
namespace YodaStruct.Config
open StdString Scan SectionLog

/-- A top-level entry: a scalar line, or a block header with the lines under it. -/
inductive Entry
  | scalar (line : KeyLine) (h : line.key = Field.trajectory.key ∨ line.key = Field.variablesFile.key)
  | block (b : Block) (indent : CppString) (h : IsBlank indent) (body : List KeyLine)

namespace Entry

/-- The key of an entry in the top-level mapping. -/
def key : Entry → CppString
  | scalar line _ => line.key
  | block b _ _ _ => b.name

def lines : Entry → List CppString
  | scalar line _ => [line.text]
  | block b indent _ body => lineText indent b.name [] :: body.map KeyLine.text

def log (e : Entry) : Log CppString CppString CppString := e.lines.map lineEvent

theorem log_scalar (line : KeyLine) (h) : (scalar line h).log = [line.event] := rfl

theorem log_block (b : Block) (indent : CppString) (h : IsBlank indent) (body : List KeyLine) :
    (block b indent h body).log = .header b.name :: body.map KeyLine.event := by
  simp only [log, lines, List.map_cons, List.map_map,
    lineEvent_of_stripLine_eq_nil h b.isKey_name [] (by decide)]
  rfl

theorem newline_not_mem_lines (e : Entry) : ∀ l ∈ e.lines, '\n' ∉ l := by
  intro l hl
  cases e with
  | scalar line h =>
    obtain rfl := List.mem_singleton.mp hl
    exact line.newline_not_mem_text
  | block b indent h body =>
    rcases List.mem_cons.mp hl with rfl | hl
    · have hi : '\n' ∉ indent := h.not_mem (by decide)
      simp [lineText, hi, b.isKey_name.not_mem_newline]
    · obtain ⟨line, -, rfl⟩ := List.mem_map.mp hl
      exact line.newline_not_mem_text

/-- A block entry opens the same section wherever it stands. -/
theorem avoids_log (e : Entry) {f : Field} (h : e.key ≠ f.sectionName) :
    Avoids f.sectionName e.log := by
  cases e with
  | scalar line hk => exact KeyLine.avoids [line] f
  | block b indent hi body =>
    rw [log_block]
    intro n hn
    rcases List.mem_cons.mp hn with hn | hn
    · cases hn
      exact h
    · exact KeyLine.avoids body f n hn

end Entry

/-! Texts. -/

/-- Lines put together to a text, with or without a newline after the last. -/
def assemble (finalNewline : Bool) (lines : List CppString) : CppString :=
  ['\n'].intercalate lines ++ (if finalNewline then ['\n'] else [])

def documentText (finalNewline : Bool) (doc : List Entry) : CppString :=
  assemble finalNewline (doc.flatMap Entry.lines)

theorem lookup_textLog (f : CppString × CppString) (s text : CppString) :
    lookup s f (textLog text) = lookup s f ((text.splitOn '\n').map lineEvent) := by
  rcases splitOn_eq_getlines '\n' text with h | h
  · rw [h, textLog]
  · have he : lineEvent [] = .skip := by decide
    rw [h, textLog, List.map_append, lookup_append]
    simp [he, lookup]

/-- Putting lines together and reading the text sees the lines again. -/
theorem lookup_assemble (f : CppString × CppString) (finalNewline : Bool)
    {lines : List CppString} (h : ∀ l ∈ lines, '\n' ∉ l) (s : CppString) :
    lookup s f (textLog (assemble finalNewline lines)) = lookup s f (lines.map lineEvent) := by
  have he : lineEvent [] = .skip := by decide
  rw [lookup_textLog]
  by_cases hn : lines = []
  · subst hn
    cases finalNewline <;> simp [assemble, he, lookup, List.splitOn_cons_eq_if_modifyHead]
  · have hs : (['\n'].intercalate lines).splitOn '\n' = lines := List.splitOn_intercalate '\n' h hn
    cases finalNewline with
    | false => simp [assemble, hs]
    | true =>
      have ht : (assemble true lines).splitOn '\n' = lines ++ [[]] := by
        rw [assemble, if_pos rfl, List.splitOn_append_cons_self, hs, List.splitOn_nil]
      rw [ht, List.map_append, lookup_append]
      simp [he, lookup]

theorem lookup_documentText (f : CppString × CppString) (finalNewline : Bool) (doc : List Entry) :
    lookup [] f (textLog (documentText finalNewline doc)) =
      lookup [] f (doc.map Entry.log).flatten := by
  have hl : ∀ l ∈ doc.flatMap Entry.lines, '\n' ∉ l := by
    intro l hl
    obtain ⟨e, -, he⟩ := List.mem_flatMap.mp hl
    exact e.newline_not_mem_lines l he
  rw [documentText, lookup_assemble f finalNewline hl, List.map_flatMap]
  rfl

/-! Fields of blocks. -/

/-- Entries other than its own block leave a block field alone. -/
theorem inert_log {e : Entry} {f : Field} (hf : f.sectionName ≠ []) (h : e.key ≠ f.sectionName) :
    Inert f.place e.log := by
  cases e with
  | scalar line hk =>
    rw [Entry.log_scalar]
    apply inert_of_key_ne
    intro k v hkv
    by_cases hh : line.IsHeader
    · obtain ⟨n, hn, -⟩ := KeyLine.event_of_isHeader hh
      simp [hn] at hkv
    · rw [KeyLine.event_of_not_isHeader hh] at hkv
      obtain ⟨rfl, -⟩ : k = line.key ∧ v = line.raw := by simpa using hkv
      rcases hk with hk | hk <;> rw [hk] <;> cases f <;>
        first | exact absurd rfl hf | exact fun hc => absurd hc (by decide)
  | block b indent hi body =>
    rw [Entry.log_block]
    exact inert_header h (KeyLine.avoids body f)

/-- A block field is read off the one block of its section, wherever it stands. -/
theorem lookup_block_field {f : Field} (hf : f.sectionName ≠ []) {before after : List Entry}
    {b : Block} {indent : CppString} {hi : IsBlank indent} {body : List KeyLine}
    (hb : b.name = f.sectionName)
    (hne : ∀ e, e ∈ before ∨ e ∈ after → e.key ≠ f.sectionName) (s : CppString) :
    lookup s f.place ((before ++ .block b indent hi body :: after).map Entry.log).flatten =
      lookup f.sectionName f.place (body.map KeyLine.event) := by
  have hin : ∀ es : List Entry, (∀ e ∈ es, e ∈ before ∨ e ∈ after) →
      ∀ log ∈ es.map Entry.log, Inert f.place log := by
    intro es hes log hlog
    obtain ⟨e, he, rfl⟩ := List.mem_map.mp hlog
    exact inert_log hf (hne e (hes e he))
  rw [List.map_append, List.map_cons,
    lookup_flatten_single _ (hin before fun _ => Or.inl) (hin after fun _ => Or.inr),
    Entry.log_block, ← hb]
  rfl

theorem key_ne_of_nodup {before after : List Entry} {e : Entry}
    (hd : ((before ++ e :: after).map Entry.key).Nodup) :
    ∀ e', e' ∈ before ∨ e' ∈ after → e'.key ≠ e.key := by
  rw [List.map_append, List.map_cons, List.nodup_middle, List.nodup_cons] at hd
  intro e' he' hk
  refine hd.1 (hk ▸ List.mem_append.mpr ?_)
  exact he'.imp List.mem_map_of_mem List.mem_map_of_mem

theorem lookup_block_field_of_absent {f : Field} (hf : f.sectionName ≠ []) {doc : List Entry}
    (h : ∀ e ∈ doc, e.key ≠ f.sectionName) (s : CppString) :
    lookup s f.place (doc.map Entry.log).flatten = none := by
  apply lookup_flatten_inert
  intro log hlog
  obtain ⟨e, he, rfl⟩ := List.mem_map.mp hlog
  exact inert_log hf (h e he)

/-- Two documents with the same block for a section agree on the fields of the section. -/
theorem lookup_block_field_congr {doc doc' : List Entry} (hd : (doc.map Entry.key).Nodup)
    (hd' : (doc'.map Entry.key).Nodup) {f : Field} (hf : f.sectionName ≠ [])
    (hsame : ∀ e : Entry, e.key = f.sectionName → (e ∈ doc ↔ e ∈ doc')) :
    lookup [] f.place (doc.map Entry.log).flatten =
      lookup [] f.place (doc'.map Entry.log).flatten := by
  by_cases hb : ∃ e ∈ doc, e.key = f.sectionName
  · obtain ⟨e, he, hek⟩ := hb
    cases e with
    | scalar line hk =>
      obtain ⟨b, hb⟩ := Field.exists_block hf
      exact absurd (hek.trans hb.symm) (line.key_ne_name b)
    | block b indent hi body =>
      obtain ⟨before, after, rfl⟩ := List.append_of_mem he
      obtain ⟨before', after', rfl⟩ := List.append_of_mem ((hsame _ hek).mp he)
      rw [lookup_block_field hf hek (hek ▸ key_ne_of_nodup hd),
        lookup_block_field hf hek (hek ▸ key_ne_of_nodup hd')]
  · have hn : ∀ e ∈ doc, e.key ≠ f.sectionName := fun e he hek => hb ⟨e, he, hek⟩
    have hn' : ∀ e ∈ doc', e.key ≠ f.sectionName := fun e he hek =>
      hb ⟨e, (hsame e hek).mpr he, hek⟩
    rw [lookup_block_field_of_absent hf hn, lookup_block_field_of_absent hf hn']

/-! Top-level fields. -/

/-- The scalar lines that stand before anything the reader takes for a header. -/
def topLines : List Entry → List KeyLine
  | [] => []
  | .scalar line _ :: doc => if line.IsHeader then [] else line :: topLines doc
  | .block .. :: _ => []

theorem mem_topLines {line : KeyLine} {doc : List Entry} (h : line ∈ topLines doc) :
    ¬ line.IsHeader ∧ ∃ hk, Entry.scalar line hk ∈ doc := by
  induction doc with
  | nil => simp [topLines] at h
  | cons e doc ih =>
    cases e with
    | block b indent hi body => simp [topLines] at h
    | scalar l hk =>
      unfold topLines at h
      split_ifs at h with hh
      · simp at h
      · rcases List.mem_cons.mp h with rfl | h
        · exact ⟨hh, hk, List.mem_cons_self⟩
        · obtain ⟨hn, hk', hm⟩ := ih h
          exact ⟨hn, hk', List.mem_cons_of_mem _ hm⟩

theorem topLines_keys_sublist (doc : List Entry) :
    List.Sublist ((topLines doc).map KeyLine.key) (doc.map Entry.key) := by
  induction doc with
  | nil => exact .slnil
  | cons e doc ih =>
    cases e with
    | block b indent hi body => exact List.nil_sublist _
    | scalar l hk =>
      unfold topLines
      split_ifs
      · exact List.nil_sublist _
      · exact ih.cons_cons l.key

/-- A top-level field is read off the top lines: nothing after them reaches it. -/
theorem lookup_top_field {f : Field} (hf : f.sectionName = []) (doc : List Entry) :
    lookup [] f.place (doc.map Entry.log).flatten =
      lookup [] f.place ((topLines doc).map KeyLine.event) := by
  have havoid : ∀ doc : List Entry, Avoids f.sectionName (doc.map Entry.log).flatten := by
    intro doc n hn
    obtain ⟨log, hlog, hn⟩ := List.mem_flatten.mp hn
    obtain ⟨e, -, rfl⟩ := List.mem_map.mp hlog
    refine e.avoids_log ?_ n hn
    rw [hf]
    cases e with
    | scalar line hk => exact line.key_isKey.ne_nil
    | block b => exact b.isKey_name.ne_nil
  induction doc with
  | nil => rfl
  | cons e doc ih =>
    cases e with
    | scalar line hk =>
      by_cases hh : line.IsHeader
      · obtain ⟨n, hn, hne⟩ := KeyLine.event_of_isHeader hh
        rw [List.map_cons, List.flatten_cons, Entry.log_scalar, hn, topLines, if_pos hh]
        exact inert_header (hne f) (havoid doc) []
      · rw [List.map_cons, List.flatten_cons, Entry.log_scalar, topLines, if_neg hh,
          List.map_cons, List.singleton_append, KeyLine.event_of_not_isHeader hh, lookup, lookup, ih]
    | block b indent hi body =>
      have hb : b.name ≠ f.place.1 := by
        rw [show f.place.1 = [] from hf]
        exact b.isKey_name.ne_nil
      have hrest := havoid (.block b indent hi body :: doc)
      rw [List.map_cons, List.flatten_cons, Entry.log_block] at hrest ⊢
      exact inert_header hb hrest.of_cons []

end YodaStruct.Config
