import YodaStruct.Config.RoundTrip

/-! Edits of one value: which fields they reach besides the one that the line names. -/
namespace YodaStruct.Config
open StdString Scan SectionLog

/-! Lines around an edit, in one section. -/

namespace KeyLine

def withValue (l : KeyLine) (value : CppString) (hv : '\n' ∉ value) : KeyLine :=
  { l with value := value, value_line := hv }

theorem openLines_append {before : List KeyLine} (hb : ∀ l ∈ before, ¬ l.IsHeader)
    (rest : List KeyLine) : openLines (before ++ rest) = before ++ openLines rest :=
  List.takeWhile_append_of_pos fun l hl => by simpa using hb l hl

theorem openLines_append_of_header {before : List KeyLine} (hb : ∃ l ∈ before, l.IsHeader)
    (rest : List KeyLine) : openLines (before ++ rest) = openLines before := by
  induction before with
  | nil => simp at hb
  | cons l before ih =>
    unfold openLines at ih ⊢
    by_cases hh : l.IsHeader
    · rw [List.cons_append, List.takeWhile_cons_of_neg (by simpa using hh),
        List.takeWhile_cons_of_neg (by simpa using hh)]
    · have hb' : ∃ l ∈ before, l.IsHeader := by
        obtain ⟨l', hl', hh'⟩ := hb
        rcases List.mem_cons.mp hl' with rfl | hl'
        · exact absurd hh' hh
        · exact ⟨l', hl', hh'⟩
      rw [List.cons_append, List.takeWhile_cons_of_pos (by simpa using hh),
        List.takeWhile_cons_of_pos (by simpa using hh), ih hb']

section Group
variable {f : Field} {before after : List KeyLine} {l : KeyLine}

/-- Behind an earlier line that is taken for a header, no line counts. -/
theorem lookup_append_of_header (hb : ∃ l ∈ before, l.IsHeader) (rest : List KeyLine) :
    lookup f.sectionName f.place ((before ++ rest).map event) =
      lookup f.sectionName f.place (before.map event) := by
  rw [lookup_openLines, openLines_append_of_header hb, ← lookup_openLines]

/-- Of two lists with the same lines of the key of `f`, both give `f` the same. -/
theorem lookup_congr {lines lines' : List KeyLine} (hh : ∀ l ∈ lines, ¬ l.IsHeader)
    (hh' : ∀ l ∈ lines', ¬ l.IsHeader) (hd : (lines.map key).Nodup) (hd' : (lines'.map key).Nodup)
    (hsame : ∀ l : KeyLine, l.key = f.key → (l ∈ lines ↔ l ∈ lines')) :
    lookup f.sectionName f.place (lines.map event) =
      lookup f.sectionName f.place (lines'.map event) := by
  by_cases hl : ∃ l ∈ lines, l.key = f.key
  · obtain ⟨l, hl, hkey⟩ := hl
    rw [lookup_of_mem hh hd hl hkey, lookup_of_mem hh' hd' ((hsame l hkey).mp hl) hkey]
  · have hn : ∀ l ∈ lines, l.key ≠ f.key := fun l hm hkey => hl ⟨l, hm, hkey⟩
    have hn' : ∀ l ∈ lines', l.key ≠ f.key := fun l hm hkey =>
      hl ⟨l, (hsame l hkey).mpr hm, hkey⟩
    rw [lookup_of_ne hn, lookup_of_ne hn']

/-- What a line taken for a header leaves to read: the lines before it. -/
theorem lookup_of_isHeader (hb : ∀ l ∈ before, ¬ l.IsHeader) (hh : l.IsHeader) :
    lookup f.sectionName f.place ((before ++ l :: after).map event) =
      lookup f.sectionName f.place (before.map event) := by
  have hopen : openLines (l :: after) = [] := List.takeWhile_cons_of_neg (by simpa using hh)
  rw [lookup_openLines, openLines_append hb, hopen, List.append_nil]

theorem nodup_append_openLines (hd : ((before ++ l :: after).map key).Nodup) :
    ((before ++ openLines after).map key).Nodup := by
  refine hd.sublist (List.Sublist.map key ?_)
  exact ((List.takeWhile_sublist _).cons l).append_left before

theorem not_isHeader_append_openLines (hb : ∀ l ∈ before, ¬ l.IsHeader) :
    ∀ l ∈ before ++ openLines after, ¬ l.IsHeader := by
  intro l hl
  rcases List.mem_append.mp hl with hl | hl
  · exact hb l hl
  · exact (mem_openLines hl).1

/-- A line that is not taken for a header does not matter to the fields of other keys. -/
theorem lookup_of_not_isHeader (hb : ∀ l ∈ before, ¬ l.IsHeader)
    (hd : ((before ++ l :: after).map key).Nodup) (hh : ¬ l.IsHeader) (hkey : f.key ≠ l.key) :
    lookup f.sectionName f.place ((before ++ l :: after).map event) =
      lookup f.sectionName f.place ((before ++ openLines after).map event) := by
  have hopen : openLines (before ++ l :: after) = before ++ l :: openLines after := by
    rw [openLines_append hb]
    unfold openLines
    rw [List.takeWhile_cons_of_pos (by simpa using hh)]
  have hsub : List.Sublist (before ++ l :: openLines after) (before ++ l :: after) :=
    ((List.takeWhile_sublist _).cons_cons l).append_left before
  rw [lookup_openLines, hopen]
  refine lookup_congr ?_ (not_isHeader_append_openLines hb) (hd.sublist (hsub.map key))
    (nodup_append_openLines hd) ?_
  · rw [← hopen]
    exact fun l hl => (mem_openLines hl).1
  · intro l' hl'
    have hne : l' ≠ l := by
      rintro rfl
      exact hkey hl'.symm
    simp [hne]

/-- The lines that an edit hides or brings back matter to a field if they do not just give
it its default. -/
theorem read_openLines_iff (hb : ∀ l ∈ before, ¬ l.IsHeader)
    (hd : ((before ++ l :: after).map key).Nodup) :
    f.read (lookup f.sectionName f.place ((before ++ openLines after).map event)) =
        f.read (lookup f.sectionName f.place (before.map event)) ↔
      ∀ line ∈ openLines after, line.key = f.key → f.decode line.raw = f.default := by
  have hnd := nodup_append_openLines hd
  have hnh : ∀ l ∈ before ++ openLines after, ¬ l.IsHeader := not_isHeader_append_openLines hb
  by_cases hl : ∃ line ∈ openLines after, line.key = f.key
  · obtain ⟨line, hline, hkey⟩ := hl
    have hafter : lookup f.sectionName f.place ((before ++ openLines after).map event) =
        some line.raw := lookup_of_mem hnh hnd (List.mem_append_right _ hline) hkey
    have hbefore : lookup f.sectionName f.place (before.map event) = none := by
      refine lookup_of_ne ?_ _
      intro b hb hbkey
      rw [List.map_append, List.nodup_append] at hnd
      exact hnd.2.2 _ (List.mem_map_of_mem hb) _ (List.mem_map_of_mem hline)
        (hbkey.trans hkey.symm)
    rw [hafter, hbefore]
    constructor
    · intro h line' hline' hkey'
      have heq : line' = line := List.inj_on_of_nodup_map hnd (List.mem_append_right _ hline')
        (List.mem_append_right _ hline) (hkey'.trans hkey.symm)
      rw [heq]
      exact h
    · intro h
      exact h line hline hkey
  · have hsame : lookup f.sectionName f.place ((before ++ openLines after).map event) =
        lookup f.sectionName f.place (before.map event) := by
      have hdb : (before.map key).Nodup :=
        hnd.sublist ((List.sublist_append_left before _).map key)
      refine lookup_congr hnh hb hnd hdb ?_
      intro l' hkey
      have hn : l' ∉ openLines after := fun hm => hl ⟨l', hm, hkey⟩
      simp [hn]
    rw [hsame]
    constructor
    · intro _ line hline hkey
      exact absurd ⟨line, hline, hkey⟩ hl
    · intro _
      rfl

end Group

end KeyLine

/-- The edit of `l` to `l'` reaches no line but itself: the section is closed to all of them
before it, the reader takes `l` and `l'` for the same kind of line, or the lines that one of
the two hides give their fields no more than the defaults. -/
def EditStaysLocal (sec : CppString) (l l' : KeyLine) (before after : List KeyLine) : Prop :=
  (∃ b ∈ before, b.IsHeader) ∨ (l.IsHeader ↔ l'.IsHeader) ∨
    ∀ line ∈ KeyLine.openLines after, ∀ f : Field, f.place = (sec, line.key) →
      f.decode line.raw = f.default

/-- Lines put in the place of others change no field of the section but that of `key`. -/
def SectionUnchanged (sec key : CppString) (lines lines' : List KeyLine) : Prop :=
  ∀ f : Field, f.sectionName = sec → f.key ≠ key →
    f.read (lookup sec f.place (lines'.map KeyLine.event)) =
      f.read (lookup sec f.place (lines.map KeyLine.event))

theorem SectionUnchanged.symm {sec key : CppString} {lines lines' : List KeyLine}
    (h : SectionUnchanged sec key lines lines') : SectionUnchanged sec key lines' lines :=
  fun f hf hkey => (h f hf hkey).symm

section Edit
variable {sec : CppString} {l l' : KeyLine} {before after : List KeyLine}

theorem EditStaysLocal.symm (h : EditStaysLocal sec l l' before after) :
    EditStaysLocal sec l' l before after :=
  h.imp_right (Or.imp_left Iff.symm)

/-- When only the old line is taken for a header, the new one brings back the lines after. -/
theorem sectionUnchanged_iff_of_isHeader (hkey : l'.key = l.key)
    (hd : ((before ++ l :: after).map KeyLine.key).Nodup) (hb : ∀ l ∈ before, ¬ l.IsHeader)
    (hh : l.IsHeader) (hh' : ¬ l'.IsHeader) :
    SectionUnchanged sec l.key (before ++ l :: after) (before ++ l' :: after) ↔
      EditStaysLocal sec l l' before after := by
  have hd' : ((before ++ l' :: after).map KeyLine.key).Nodup := by
    simpa [hkey] using hd
  have hread : ∀ f : Field, f.sectionName = sec → f.key ≠ l.key →
      (f.read (lookup sec f.place ((before ++ l' :: after).map KeyLine.event)) =
        f.read (lookup sec f.place ((before ++ l :: after).map KeyLine.event)) ↔
      ∀ line ∈ KeyLine.openLines after, line.key = f.key → f.decode line.raw = f.default) := by
    rintro f rfl hf
    rw [KeyLine.lookup_of_isHeader hb hh, KeyLine.lookup_of_not_isHeader hb hd' hh' (hkey ▸ hf)]
    exact KeyLine.read_openLines_iff hb hd
  constructor
  · intro h
    refine Or.inr (Or.inr ?_)
    intro line hline f hplace
    obtain ⟨hsec, hfkey⟩ : f.sectionName = sec ∧ f.key = line.key := Prod.mk.inj hplace
    -- a line behind the edit names another field than the edited line
    have hf : f.key ≠ l.key := by
      rw [List.map_append, List.map_cons, List.nodup_append] at hd
      have hnot := (List.nodup_cons.mp hd.2.1).1
      intro he
      exact hnot (he ▸ hfkey ▸ List.mem_map_of_mem (KeyLine.mem_openLines hline).2)
    exact (hread f hsec hf).mp (h f hsec hf) line hline hfkey.symm
  · rintro (⟨b, hm, hbh⟩ | h | h)
    · exact absurd hbh (hb b hm)
    · exact absurd (h.mp hh) hh'
    · intro f hsec hf
      refine (hread f hsec hf).mpr ?_
      intro line hline hlkey
      exact h line hline f (Prod.ext hsec hlkey.symm)

theorem sectionUnchanged_iff (hkey : l'.key = l.key)
    (hd : ((before ++ l :: after).map KeyLine.key).Nodup) :
    SectionUnchanged sec l.key (before ++ l :: after) (before ++ l' :: after) ↔
      EditStaysLocal sec l l' before after := by
  have hd' : ((before ++ l' :: after).map KeyLine.key).Nodup := by
    simpa [hkey] using hd
  by_cases hb : ∃ b ∈ before, b.IsHeader
  · have hsame : SectionUnchanged sec l.key (before ++ l :: after) (before ++ l' :: after) := by
      rintro f rfl -
      rw [KeyLine.lookup_append_of_header hb, KeyLine.lookup_append_of_header hb]
    exact iff_of_true hsame (Or.inl hb)
  have hb' : ∀ b ∈ before, ¬ b.IsHeader := fun b hm hh => hb ⟨b, hm, hh⟩
  by_cases hh : l.IsHeader <;> by_cases hh' : l'.IsHeader
  · have hsame : SectionUnchanged sec l.key (before ++ l :: after) (before ++ l' :: after) := by
      rintro f rfl -
      rw [KeyLine.lookup_of_isHeader hb' hh, KeyLine.lookup_of_isHeader hb' hh']
    exact iff_of_true hsame (Or.inr (Or.inl (iff_of_true hh hh')))
  · exact sectionUnchanged_iff_of_isHeader hkey hd hb' hh hh'
  · -- the same edit the other way round
    have hiff : SectionUnchanged sec l'.key (before ++ l' :: after) (before ++ l :: after) ↔
        EditStaysLocal sec l' l before after :=
      sectionUnchanged_iff_of_isHeader hkey.symm hd' hb' hh' hh
    rw [hkey] at hiff
    constructor
    · intro h
      exact (hiff.mp h.symm).symm
    · intro h
      exact (hiff.mpr h.symm).symm
  · have hsame : SectionUnchanged sec l.key (before ++ l :: after) (before ++ l' :: after) := by
      rintro f rfl hf
      rw [KeyLine.lookup_of_not_isHeader hb' hd hh hf,
        KeyLine.lookup_of_not_isHeader hb' hd' hh' (hkey ▸ hf)]
    exact iff_of_true hsame (Or.inr (Or.inl (iff_of_false hh hh')))

end Edit

/-! Edits in a document. -/

def Entry.IsScalar : Entry → Prop
  | .scalar _ _ => True
  | .block .. => False

def Entry.scalarLine? : Entry → Option KeyLine
  | .scalar line _ => some line
  | .block .. => none

def scalarLines (doc : List Entry) : List KeyLine := doc.filterMap Entry.scalarLine?

/-- A document in the shipped order, the scalars first, with distinct keys throughout. -/
structure SchemaDocument (doc : List Entry) : Prop where
  keys_nodup : (doc.map Entry.key).Nodup
  body_nodup : ∀ b indent hi body, Entry.block b indent hi body ∈ doc →
    (body.map KeyLine.key).Nodup
  scalars_first : doc.Pairwise fun e e' => e'.IsScalar → e.IsScalar

/-- Line `l` stands in section `sec` of a document, between the lines `before` and `after`
of the section. -/
inductive LineAt (l : KeyLine) : List Entry → CppString → List KeyLine → List KeyLine → Prop
  | scalar (es es' : List Entry) (hk) :
    LineAt l (es ++ .scalar l hk :: es') [] (scalarLines es) (scalarLines es')
  | block (es es' : List Entry) (b : Block) (indent : CppString) (hi : IsBlank indent)
      (before after : List KeyLine) :
    LineAt l (es ++ .block b indent hi (before ++ l :: after) :: es') b.name before after

/-- `doc'` is `doc` with the value of one line replaced. -/
inductive EditsValue (l : KeyLine) (value : CppString) (hv : '\n' ∉ value) :
    List Entry → List Entry → CppString → List KeyLine → List KeyLine → Prop
  | scalar (es es' : List Entry) (hk) :
    EditsValue l value hv (es ++ .scalar l hk :: es')
      (es ++ .scalar (l.withValue value hv) hk :: es') [] (scalarLines es) (scalarLines es')
  | block (es es' : List Entry) (b : Block) (indent : CppString) (hi : IsBlank indent)
      (before after : List KeyLine) :
    EditsValue l value hv (es ++ .block b indent hi (before ++ l :: after) :: es')
      (es ++ .block b indent hi (before ++ l.withValue value hv :: after) :: es')
      b.name before after

theorem topLines_eq_openLines {doc : List Entry}
    (h : doc.Pairwise fun e e' => e'.IsScalar → e.IsScalar) :
    topLines doc = KeyLine.openLines (scalarLines doc) := by
  induction doc with
  | nil => rfl
  | cons e doc ih =>
    obtain ⟨hhead, htail⟩ := List.pairwise_cons.mp h
    cases e with
    | scalar line hk =>
      have hcons : scalarLines (.scalar line hk :: doc) = line :: scalarLines doc := rfl
      rw [topLines, hcons, ih htail]
      unfold KeyLine.openLines
      by_cases hh : line.IsHeader
      · rw [if_pos hh, List.takeWhile_cons_of_neg (by simpa using hh)]
      · rw [if_neg hh, List.takeWhile_cons_of_pos (by simpa using hh)]
    | block b indent hi body =>
      have hnone : scalarLines (.block b indent hi body :: doc) = [] := by
        refine List.filterMap_eq_nil_iff.mpr ?_
        intro e he
        rcases List.mem_cons.mp he with rfl | he
        · rfl
        · cases e with
          | scalar line hk => exact (hhead _ he trivial).elim
          | block => rfl
      rw [hnone]
      rfl

/-- Fields of the section of a line are read off the lines around it. -/
theorem LineAt.lookup_eq {l : KeyLine} {doc : List Entry} {sec : CppString}
    {before after : List KeyLine} (h : LineAt l doc sec before after) (hs : SchemaDocument doc)
    {f : Field} (hf : f.sectionName = sec) :
    lookup [] f.place (doc.map Entry.log).flatten =
      lookup sec f.place ((before ++ l :: after).map KeyLine.event) := by
  cases h with
  | scalar es es' hk =>
    have hlines : scalarLines (es ++ .scalar l hk :: es') = scalarLines es ++ l :: scalarLines es' := by
      simp [scalarLines, Entry.scalarLine?]
    have hopen := KeyLine.lookup_openLines f (scalarLines es ++ l :: scalarLines es')
    rw [hf] at hopen
    rw [lookup_top_field hf, topLines_eq_openLines hs.scalars_first, hlines, hopen]
  | block es es' b indent hi =>
    have hne : f.sectionName ≠ [] := hf ▸ b.isKey_name.ne_nil
    rw [lookup_block_field hne hf.symm (hf ▸ key_ne_of_nodup hs.keys_nodup), hf]

theorem LineAt.keys_nodup {l : KeyLine} {doc : List Entry} {sec : CppString}
    {before after : List KeyLine} (h : LineAt l doc sec before after) (hs : SchemaDocument doc) :
    ((before ++ l :: after).map KeyLine.key).Nodup := by
  cases h with
  | scalar es es' hk =>
    have hsub : ∀ es : List Entry,
        List.Sublist ((scalarLines es).map KeyLine.key) (es.map Entry.key) := by
      intro es
      induction es with
      | nil => exact .slnil
      | cons e es ih =>
        cases e with
        | scalar line hk => exact ih.cons_cons line.key
        | block b => exact ih.cons b.name
    refine hs.keys_nodup.sublist ?_
    simp only [List.map_append, List.map_cons]
    exact (hsub es).append ((hsub es').cons_cons l.key)
  | block es es' b indent hi => exact hs.body_nodup b indent hi _ (by simp)

section Document
variable {l : KeyLine} {value : CppString} {hv : '\n' ∉ value} {doc doc' : List Entry}
  {sec : CppString} {before after : List KeyLine}
  (h : EditsValue l value hv doc doc' sec before after)
include h

theorem EditsValue.source : LineAt l doc sec before after := by
  cases h with
  | scalar es es' hk => exact .scalar es es' hk
  | block es es' b indent hi => exact .block es es' b indent hi before after

theorem EditsValue.target : LineAt (l.withValue value hv) doc' sec before after := by
  cases h with
  | scalar es es' hk => exact LineAt.scalar (l := l.withValue value hv) es es' hk
  | block es es' b indent hi => exact .block es es' b indent hi before after

/-- An edit leaves a schema document one. -/
theorem EditsValue.schemaDocument (hs : SchemaDocument doc) : SchemaDocument doc' := by
  obtain ⟨hkeys, hbody, hfirst⟩ := hs
  cases h with
  | scalar es es' hk =>
    refine ⟨by simpa [Entry.key, KeyLine.withValue] using hkeys, ?_, ?_⟩
    · intro b indent hi body hm
      refine hbody b indent hi body ?_
      simpa using hm
    · simpa [List.pairwise_append, Entry.IsScalar] using hfirst
  | block es es' b indent hi =>
    refine ⟨by simpa [Entry.key] using hkeys, ?_, ?_⟩
    · intro b' indent' hi' body hm
      simp only [List.mem_append, List.mem_cons, Entry.block.injEq] at hm
      rcases hm with hm | ⟨rfl, rfl, rfl⟩ | hm
      · exact hbody b' indent' hi' body (by simp [hm])
      · have hold := hbody b' indent' hi (before ++ l :: after) (by simp)
        simpa [KeyLine.withValue] using hold
      · exact hbody b' indent' hi' body (by simp [hm])
    · simpa [List.pairwise_append, Entry.IsScalar] using hfirst

/-- Fields of other sections do not see the edit. -/
theorem EditsValue.lookup_other (hs : SchemaDocument doc) {f : Field} (hf : f.sectionName ≠ sec) :
    lookup [] f.place (doc.map Entry.log).flatten =
      lookup [] f.place (doc'.map Entry.log).flatten := by
  have hs' := h.schemaDocument hs
  cases h with
  | scalar es es' hk =>
    refine lookup_block_field_congr hs.keys_nodup hs'.keys_nodup hf ?_
    intro e he
    have hne : ∀ line : KeyLine, ∀ hk, e ≠ .scalar line hk := by
      rintro line hk rfl
      obtain ⟨b, hb⟩ := Field.exists_block hf
      exact line.key_ne_name b (he.trans hb.symm)
    have hold := hne l hk
    have hnew := hne (l.withValue value hv) hk
    simp [hold, hnew]
  | block es es' b indent hi =>
    by_cases htop : f.sectionName = []
    · have hlines : ∀ body, scalarLines (es ++ .block b indent hi body :: es') =
          scalarLines es ++ scalarLines es' := by
        intro body
        unfold scalarLines
        rw [List.filterMap_append]
        rfl
      rw [lookup_top_field htop, lookup_top_field htop, topLines_eq_openLines hs.scalars_first,
        topLines_eq_openLines hs'.scalars_first, hlines, hlines]
    · refine lookup_block_field_congr hs.keys_nodup hs'.keys_nodup htop ?_
      intro e he
      have hne : ∀ body, e ≠ .block b indent hi body := by
        rintro body rfl
        exact hf he.symm
      simp [hne]

end Document

/-- Both texts load, and the fields away from place `p` are the same. -/
def SameElsewhere (path text text' : CppString) (p : CppString × CppString) : Prop :=
  ∃ cfg cfg', loadLuaConfig path (some text) = .ok cfg ∧
    loadLuaConfig path (some text') = .ok cfg' ∧ ∀ f : Field, f.place ≠ p → cfg'.get f = cfg.get f

/-- An edit of one value changes no field but the one that its line names exactly when it
stays local. -/
theorem loadLuaConfig_edit_iff (path : CppString) {l : KeyLine} {value : CppString}
    {hv : '\n' ∉ value} {doc doc' : List Entry} {sec : CppString} {before after : List KeyLine}
    (hs : SchemaDocument doc) (h : EditsValue l value hv doc doc' sec before after)
    (finalNewline : Bool) :
    SameElsewhere path (documentText finalNewline doc) (documentText finalNewline doc')
        (sec, l.key) ↔
      EditStaysLocal sec l (l.withValue value hv) before after := by
  have hs' := h.schemaDocument hs
  have hget : ∀ (doc : List Entry) (f : Field),
      (readConfig (documentText finalNewline doc)).get f =
        f.read (lookup [] f.place (doc.map Entry.log).flatten) := by
    intro doc f
    rw [readConfig_get, lookup_documentText]
  have hplace : ∀ f : Field, f.place ≠ (sec, l.key) ↔ f.sectionName = sec → f.key ≠ l.key := by
    intro f
    simp [Field.place, Prod.ext_iff]
  have hkey : (l.withValue value hv).key = l.key := rfl
  rw [← sectionUnchanged_iff hkey (h.source.keys_nodup hs)]
  constructor
  · rintro ⟨cfg, cfg', hcfg, hcfg', hsame⟩ f hsec hkey
    obtain rfl := Except.ok.inj hcfg
    obtain rfl := Except.ok.inj hcfg'
    have hf := hsame f ((hplace f).mpr fun _ => hkey)
    rw [hget, hget, h.target.lookup_eq hs' hsec, h.source.lookup_eq hs hsec] at hf
    exact hf
  · intro hunchanged
    refine ⟨_, _, rfl, rfl, ?_⟩
    intro f hf
    rw [hget, hget]
    by_cases hsec : f.sectionName = sec
    · rw [h.target.lookup_eq hs' hsec, h.source.lookup_eq hs hsec]
      exact hunchanged f hsec ((hplace f).mp hf hsec)
    · rw [h.lookup_other hs hsec]

/-! A document with a bulk block whose bond order flag is set. -/

def bulkBody : List KeyLine :=
  [flagLine .bulkUse true, flagLine .bulkTopo false, flagLine .bulkBop true]

def bulkDocument (body : List KeyLine) : List Entry :=
  fullApiScalars ++ [.block .bulk [] isBlank_nil body]

theorem bulkDocument_schema : SchemaDocument (bulkDocument bulkBody) where
  keys_nodup := by decide
  body_nodup := by
    intro b indent hi body hm
    have hblock : Entry.block b indent hi body =
        .block .bulk [] isBlank_nil bulkBody := by
      simpa [bulkDocument, fullApiScalars] using hm
    injection hblock with _ _ hbody
    rw [hbody]
    decide
  scalars_first := by simp [bulkDocument, fullApiScalars, Entry.IsScalar]

theorem bulkDocument_edit (value : CppString) (hv : '\n' ∉ value) :
    EditsValue (flagLine .bulkUse true) value hv (bulkDocument bulkBody)
      (bulkDocument ((flagLine .bulkUse true).withValue value hv :: bulkBody.tail))
      Block.bulk.name [] bulkBody.tail :=
  .block fullApiScalars [] .bulk [] isBlank_nil [] bulkBody.tail

/-- Switching the bulk block off changes nothing else. -/
theorem bulkDocument_edit_false :
    SameElsewhere [] (documentText true (bulkDocument bulkBody))
      (documentText true (bulkDocument
        ((flagLine .bulkUse true).withValue " false".toList (by decide) :: bulkBody.tail)))
      (Block.bulk.name, Field.bulkUse.key) :=
  (loadLuaConfig_edit_iff [] bulkDocument_schema (bulkDocument_edit _ _) true).mpr
    (Or.inr (Or.inl (by decide)))

/-- With `use:  # later`, the bond order flag below is lost too. -/
theorem bulkDocument_edit_comment :
    SchemaDocument (bulkDocument bulkBody) ∧
      EditsValue (flagLine .bulkUse true) "  # later".toList (by decide) (bulkDocument bulkBody)
        (bulkDocument
          ((flagLine .bulkUse true).withValue "  # later".toList (by decide) :: bulkBody.tail))
        Block.bulk.name [] bulkBody.tail ∧
      ¬ SameElsewhere [] (documentText true (bulkDocument bulkBody))
        (documentText true (bulkDocument
          ((flagLine .bulkUse true).withValue "  # later".toList (by decide) :: bulkBody.tail)))
        (Block.bulk.name, Field.bulkUse.key) := by
  refine ⟨bulkDocument_schema, bulkDocument_edit _ _, ?_⟩
  rintro ⟨cfg, cfg', hcfg, hcfg', hsame⟩
  obtain rfl := Except.ok.inj hcfg
  obtain rfl := Except.ok.inj hcfg'
  have hbop := hsame .bulkBop (by decide)
  revert hbop
  decide +kernel

end YodaStruct.Config
