import YodaStruct.Binding.Scripts

/-! Tables make no difference: a script that calls the core ends as the engine's functions do
on the vectors themselves. -/
namespace YodaStruct.Binding
open YodaStruct.Config YodaStruct.Driver LuaTable Simulation

/-! The values of a script. -/

/-- A value in tables that are there already. -/
def Stands (h : LuaHeap) : ScriptValue → Data → Prop := StandsIn h (· < h.next)

def Held (h : LuaHeap) (vs : List ScriptValue) (ds : List Data) : Prop :=
  List.Forall₂ (Stands h) vs ds

/-- New tables only, and values that stand for the data. -/
def Grows (h h' : LuaHeap) (vs : List ScriptValue) (ds : List Data) : Prop :=
  h.Extends h' ∧ Held h' vs ds

section Values
variable {h h' : LuaHeap} {v : ScriptValue} {d : Data} {vs : List ScriptValue} {ds : List Data}

theorem Held.extend (hh : Held h vs ds) (he : h.Extends h') : Held h' vs ds :=
  hh.imp fun _ _ hs => hs.congr (fun _ hi => hi.trans_le he.next_le) he.tables_eq

theorem Held.valueAt (hh : Held h vs ds) (place : ℕ) :
    Stands h (valueAt vs place) (ds.getD place .absent) := by
  unfold Binding.valueAt
  induction hh generalizing place with
  | nil => rfl
  | cons hs _ ih =>
    cases place with
    | zero => exact hs
    | succ place => exact ih place

theorem Fresh.grows (hf : Fresh h h' v d) : Grows h h' [v] [d] :=
  ⟨hf.1, .cons (hf.2.mono fun _ hi => hi.2) .nil⟩

end Values

/-! One statement. -/

section Steps
variable {σ Cloud SiteTable Fingerprint KeyLibrary : Type} {lua : Interpreter}
  {core : Core σ Cloud SiteTable Fingerprint KeyLibrary} {h : LuaHeap} {vs : List ScriptValue}
  {ds : List Data}

/-- Taking an argument from Lua shows what the view of its data shows. -/
theorem simulates_argument {α β γ : Type} (hh : Held h vs ds) (place : ℕ)
    (get : LuaHeap → ScriptValue → Except CallError α) (view : Data → Except CallError α)
    (hview : ∀ v d, Stands h v d → get h v = view d) {f : α → Script σ β}
    {g : α → Prog σ CallError γ} {post : LuaHeap → β → γ → Prop}
    (hf : ∀ a, Simulates h (fun _ => f a) (g a) post) :
    Simulates h (fun _ => Prog.look (fun h => get h (valueAt vs place)) >>= f)
      (argument ds view place >>= g) post := by
  have hm := matches_of_eq (hview _ _ (hh.valueAt place))
  apply Simulates.look_bind (fun h => get h (valueAt vs place)) hm
  intro a b hab
  rw [hab]
  exact hf b

theorem one_bind {α : Type} (m : Script σ α) (f : α → Script σ ScriptValue) :
    one (m >>= f) = m >>= fun a => one (f a) := bind_assoc _ _ _

theorem simulates_nested (hh : Held h vs ds) (place : ℕ) {f : IntRows → Script σ ScriptValue}
    {g : IntRows → Prog σ CallError (List Data)}
    (hf : ∀ rows, Simulates h (fun _ => one (f rows)) (g rows) (Grows h)) :
    Simulates h (fun _ => one (takeNested lua (valueAt vs place) >>= f))
      (argument ds (Data.rows lua.stringNumber) place >>= g) (Grows h) := by
  rw [one_bind]
  exact simulates_argument hh place (getNested lua.stringNumber) _
    (fun _ _ hs => hs.getNested_eq) hf

theorem simulates_nested₂ (hh : Held h vs ds) (first second : ℕ)
    {f : IntRows → IntRows → Script σ ScriptValue}
    {g : IntRows → IntRows → Prog σ CallError (List Data)}
    (hf : ∀ rows rows', Simulates h (fun _ => one (f rows rows')) (g rows rows') (Grows h)) :
    Simulates h
      (fun _ => one (takeNested lua (valueAt vs first) >>= fun rows =>
        takeNested lua (valueAt vs second) >>= f rows))
      (argument ds (Data.rows lua.stringNumber) first >>= fun rows =>
        argument ds (Data.rows lua.stringNumber) second >>= g rows) (Grows h) := by
  apply simulates_nested hh first
  intro rows
  exact simulates_nested hh second (hf rows)

theorem simulates_ints (hh : Held h vs ds) (place : ℕ) {f : List Int32 → Script σ ScriptValue}
    {g : List Int32 → Prog σ CallError (List Data)}
    (hf : ∀ ns, Simulates h (fun _ => one (f ns)) (g ns) (Grows h)) :
    Simulates h (fun _ => one (takeInts lua (valueAt vs place) >>= f))
      (argument ds (Data.ints lua.stringNumber) place >>= g) (Grows h) := by
  rw [one_bind]
  exact simulates_argument hh place (getInts lua.stringNumber) _ (fun _ _ hs => hs.getInts_eq) hf

theorem simulates_flags (hh : Held h vs ds) (place : ℕ) {f : List Bool → Script σ ScriptValue}
    {g : List Bool → Prog σ CallError (List Data)}
    (hf : ∀ bs, Simulates h (fun _ => one (f bs)) (g bs) (Grows h)) :
    Simulates h (fun _ => one (takeFlags (valueAt vs place) >>= f))
      (argument ds Data.flags place >>= g) (Grows h) := by
  rw [one_bind]
  exact simulates_argument hh place getFlags _ (fun _ _ hs => hs.getFlags_eq) hf

/-- The colours of a graph may be left out. -/
theorem simulates_colours (hh : Held h vs ds) (userdata : ℕ → Option (List Int32)) (place : ℕ)
    {f : Option (List Int32) → Script σ ScriptValue}
    {g : Option (List Int32) → Prog σ CallError (List Data)}
    (hf : ∀ colours, Simulates h (fun _ => one (f colours)) (g colours) (Grows h)) :
    Simulates h
      (fun _ => one (takeOptional (getInts lua.stringNumber) userdata (valueAt vs place) >>= f))
      (argument ds (Data.optional (Data.ints lua.stringNumber)) place >>= g) (Grows h) := by
  have hs := hh.valueAt place
  rw [one_bind]
  exact takeOptional_bind userdata hs hs.getInts_eq hf

theorem simulates_one_give (d : Data) :
    Simulates h (fun _ => one (give d : Script σ ScriptValue)) (pure [d]) (Grows h) := by
  apply (simulates_push (fun d : Data => d) d).bind
  intro h' v d' hv
  exact Simulates.pure hv.grows

theorem simulates_data {α : Type} (data : α → Data) (m : Prog σ CallError α) :
    Simulates h (fun _ => one (Prog.lift m >>= fun a => give (data a))) (do pure [data (← m)])
      (Grows h) := by
  apply (simulates_give m data).bind
  intro h' v a hv
  exact Simulates.pure hv.grows

theorem simulates_engine {α : Type} {m : Prog σ CallError α} {f : α → Script σ ScriptValue}
    {g : α → Prog σ CallError (List Data)}
    (hf : ∀ a, Simulates h (fun _ => one (f a)) (g a) (Grows h)) :
    Simulates h (fun _ => one (Prog.lift m >>= f)) (m >>= g) (Grows h) := by
  rw [one_bind]
  exact Simulates.lift_bind hf

theorem simulates_one_required {α : Type} {x : Option α} {f : α → Script σ ScriptValue}
    {g : α → Prog σ CallError (List Data)}
    (hf : ∀ a, Simulates h (fun _ => one (f a)) (g a) (Grows h)) :
    Simulates h (fun _ => one (required x >>= f)) (required x >>= g) (Grows h) := by
  rw [one_bind]
  exact simulates_required x hf

/-- A look at a value shows a value that stands for what the view of the data shows. -/
theorem simulates_look (hh : Held h vs ds) (place : ℕ)
    (get : LuaHeap → ScriptValue → Except CallError ScriptValue)
    (view : Data → Except CallError Data)
    (hview : ∀ v d, Stands h v d → Matches (Stands h) (get h v) (view d)) :
    Simulates h (fun _ => one (Prog.look fun h => get h (valueAt vs place)))
      (do
        let d ← argument ds view place
        (pure [d] : Prog σ CallError (List Data))) (Grows h) := by
  apply Simulates.look_bind (fun h => get h (valueAt vs place)) (hview _ _ (hh.valueAt place))
  intro v d hs
  exact Simulates.pure ⟨Heap.Extends.refl h, .cons hs .nil⟩

theorem simulates_states (hh : Held h vs ds)
    (iceType : Cloud → IntRows → Bool → Prog σ CallError Unit) (yCloud : Cloud) (nList : ℕ)
    (isSlice : ScriptValue) :
    Simulates h
      (fun _ => one (iceTypeBinding lua core.network iceType yCloud (valueAt vs nList) isSlice))
      (states lua core ds iceType yCloud nList isSlice) (Grows h) := by
  apply simulates_nested hh nList
  intro rows
  apply simulates_engine
  intro _
  exact simulates_data iceStateNames _

theorem simulates_correl (hh : Held h vs ds)
    (analysis : Cloud → IntRows → Bool → Int32 → Prog σ CallError Unit) (yCloud : Cloud)
    (nList : ℕ) (isSlice coordinationNumber : ScriptValue) :
    Simulates h
      (fun _ => do
        correlBinding lua analysis yCloud (valueAt vs nList) isSlice coordinationNumber
        (pure [] : Script σ (List ScriptValue)))
      (correl lua ds analysis yCloud nList isSlice coordinationNumber) (Grows h) := by
  have hassoc : (do
      correlBinding lua analysis yCloud (valueAt vs nList) isSlice coordinationNumber
      (pure [] : Script σ (List ScriptValue))) =
      takeNested lua (valueAt vs nList) >>= fun nList => (do
        Prog.lift (analysis yCloud nList ((optionalBool isSlice).getD false)
          ((optionalInt coordinationNumber).getD 4))
        pure []) := bind_assoc _ _ _
  rw [hassoc]
  apply simulates_argument hh nList (getNested lua.stringNumber) _ fun _ _ hs => hs.getNested_eq
  intro rows
  apply Simulates.lift_bind
  intro _
  exact Simulates.pure ⟨Heap.Extends.refl h, .nil⟩

theorem simulates_classifyBonds (hh : Held h vs ds) (yCloud : Cloud) (nList ruleSpec : ℕ)
    (isSlice : ScriptValue) :
    Simulates h (fun _ => (Call.classifyBonds yCloud nList ruleSpec isSlice).run lua core vs)
      ((Call.classifyBonds yCloud nList ruleSpec isSlice).eval lua core ds) (Grows h) := by
  have hassoc : (Call.classifyBonds yCloud nList ruleSpec isSlice).run lua core vs =
      takeNested lua (valueAt vs nList) >>= fun nList =>
        takeRule core.rules (valueAt vs ruleSpec) >>= fun rule =>
          (Prog.lift (core.rules.classifyBonds yCloud nList rule
            ((optionalBool isSlice).getD false)) >>= fun _ => pure []) := by
    unfold Call.run classifyBonds
    simp only [bind_assoc]
  rw [hassoc]
  apply simulates_argument hh nList (getNested lua.stringNumber) _ fun _ _ hs => hs.getNested_eq
  intro rows
  apply takeRule_bind (hh.valueAt ruleSpec)
  intro rule
  apply Simulates.lift_bind
  intro _
  exact Simulates.pure ⟨Heap.Extends.refl h, .nil⟩

theorem simulates_registerBondClassifier (hh : Held h vs ds) (name : CppString) (t : ℕ) :
    Simulates h (fun _ => (Call.registerBondClassifier name t).run lua core vs)
      ((Call.registerBondClassifier name t).eval lua core ds) (Grows h) := by
  have hassoc : (Call.registerBondClassifier name t).run lua core vs =
      (Prog.look fun h => ruleFromTable core.rules h (valueAt vs t)) >>= fun rule =>
        (Prog.lift (core.rules.registerBondClassifier name rule) >>= fun _ => pure []) := by
    unfold Call.run registerBondClassifier
    simp only [bind_assoc]
  rw [hassoc]
  apply simulates_argument hh t (ruleFromTable core.rules) _ fun _ _ hs => hs.rule_eq core.rules
  intro rule
  apply Simulates.lift_bind
  intro _
  exact Simulates.pure ⟨Heap.Extends.refl h, .nil⟩

theorem simulates_withRings (hh : Held h vs ds) (rings nList : ℕ)
    (analysis : IntRows → IntRows → Prog σ CallError Int32) :
    Simulates h
      (fun _ => one (withRings lua (valueAt vs rings) (valueAt vs nList) analysis))
      (analysisOf lua ds rings nList analysis) (Grows h) := by
  exact simulates_nested₂ hh rings nList fun _ _ =>
    simulates_data (fun n : Int32 => .scalar (.ofInt32 n)) _

/-- A call gives what it stands for, in new tables. -/
theorem simulates_call (hh : Held h vs ds) (call : Call Cloud) :
    Simulates h (fun _ => call.run lua core vs) (call.eval lua core ds) (Grows h) := by
  cases call with
  | neighListO rcutoff yCloud typeI => exact simulates_data .nested _
  | getNewNeighbourListByIndex yCloud cutoff => exact simulates_data .nested _
  | neighListPair rcutoff yCloud typeI typeJ => exact simulates_data .nested _
  | mutualNearestUnlike yCloud typeI typeJ =>
    exact simulates_data (fun pairs : List (Int32 × Int32) => .nested (pairRows pairs)) _
  | neighbourListByIndex yCloud nList =>
    exact simulates_nested hh nList fun _ => simulates_data .nested _
  | kNearestNeighbourList yCloud k candidateCutoff typeI mutuals => exact simulates_data .nested _
  | kNearestNeighbourPair yCloud k candidateCutoff typeI =>
    apply (simulates_kNearestNeighbourPair yCloud k candidateCutoff typeI).bind
    intro h' both lists hboth
    obtain ⟨hfirst, hsecond⟩ := hboth
    apply Simulates.pure
    exact ⟨hfirst.1, .cons (hfirst.2.mono fun _ hi => hi.2) hsecond.grows.2⟩
  | getHbondNetwork filename yCloud nList targetFrame hType dist angle =>
    exact simulates_nested hh nList fun _ => simulates_data .nested _
  | getHbondNetworkFromClouds yCloud hCloud nList dist angle =>
    exact simulates_nested hh nList fun _ => simulates_data .nested _
  | getHbondNetworkFromDonors yCloud hCloud nList donorHs dist angle =>
    apply simulates_nested hh nList
    intro nList
    exact simulates_ints hh donorHs fun _ => simulates_data .nested _
  | ringNetwork nList maxDepth =>
    exact simulates_nested hh nList fun _ => simulates_data .nested _
  | cageAffiliation rings nList =>
    exact simulates_nested₂ hh rings nList fun _ _ =>
      simulates_data (fun a : Affiliation => .record a.record) _
  | findBySignature rings nList spec =>
    exact simulates_nested₂ hh rings nList fun _ _ =>
      simulates_data (fun found : List FoundCage => .records (found.map FoundCage.record)) _
  | seededCageAffiliation strictRings strictNList permRings permNList completion =>
    apply simulates_nested₂ hh strictRings strictNList
    intro strictRings strictNList
    exact simulates_nested₂ hh permRings permNList fun _ _ =>
      simulates_data (fun a : Affiliation => .record a.record) _
  | getCorrel yCloud nList isSlice coordinationNumber =>
    exact simulates_correl hh _ yCloud nList isSlice coordinationNumber
  | getCorrelPlus yCloud nList isSlice coordinationNumber =>
    exact simulates_correl hh _ yCloud nList isSlice coordinationNumber
  | getIceType yCloud nList path firstFrame isSlice outputFileName =>
    exact simulates_states hh _ yCloud nList isSlice
  | getIceTypePlus yCloud nList path firstFrame isSlice outputFileName =>
    exact simulates_states hh _ yCloud nList isSlice
  | getIceTypeNoPrint yCloud nList isSlice => exact simulates_states hh _ yCloud nList isSlice
  | getIceTypePlusNoPrint yCloud nList isSlice => exact simulates_states hh _ yCloud nList isSlice
  | ringUpdate self nList => exact simulates_nested hh nList fun _ => simulates_data .nested _
  | affiliationUpdate self rings nList =>
    exact simulates_nested₂ hh rings nList fun _ _ =>
      simulates_data (fun a : Affiliation => .record a.record) _
  | ringAnalysis path rings nList yCloud maxDepth sheetArea firstFrame =>
    exact simulates_withRings hh rings nList _
  | prismAnalysis path rings nList cloud maxDepth atomID firstFrame currentFrame doShapeMatching =>
    exact simulates_withRings hh rings nList _
  | bulkRingNumberAnalysis path rings nList yCloud maxDepth firstFrame =>
    exact simulates_withRings hh rings nList _
  | bulkTopoUnitMatching path rings nList yCloud firstFrame printClusters onlyTetrahedral
      templatePath =>
    exact simulates_withRings hh rings nList _
  | shellSeparation yCloud k typeI =>
    have hassoc : (Call.shellSeparation yCloud k typeI).run lua core vs =
        Prog.lift (core.analyses.shellSeparation yCloud (getInt lua.stringNumber k)
          (getInt lua.stringNumber typeI)) >>= fun gap => pure [.float gap.1, .float gap.2] :=
      bind_assoc _ _ _
    rw [hassoc]
    apply Simulates.lift_bind
    intro gap
    exact Simulates.pure ⟨Heap.Extends.refl h, .cons rfl (.cons rfl .nil)⟩
  | classifyBonds yCloud nList ruleSpec isSlice =>
    exact simulates_classifyBonds hh yCloud nList ruleSpec isSlice
  | registerBondClassifier name t => exact simulates_registerBondClassifier hh name t
  | bondClassifierNames =>
    exact simulates_data (fun names : List CppString => .list (names.map .string)) _
  | topologyFingerprint rows hops maxRingSize colours =>
    apply simulates_nested hh rows
    intro rows
    exact simulates_colours hh _ colours fun _ => simulates_one_give _
  | localTopologyKey rows atom hops colours =>
    apply simulates_nested hh rows
    intro rows
    exact simulates_colours hh _ colours fun _ => simulates_one_give _
  | topologyLibrary rows label hops maxRingSize colours existing =>
    have hexisting : optionalString (valueAt vs existing) =
        optionalString (ds.getD existing .absent).scalarValue :=
      (hh.valueAt existing).scalarValue_eq fun _ => rfl
    apply simulates_nested hh rows
    intro rows
    apply simulates_colours hh _ colours
    intro colours
    rw [hexisting]
    exact simulates_data (fun text : CppString => .scalar (.string text)) _
  | classifyTopology rows library hops maxRingSize colours =>
    apply simulates_nested hh rows
    intro rows
    apply simulates_colours hh _ colours
    intro colours
    exact simulates_data (fun m : LibraryMatch => .record m.record) _
  | steinhardtQl yCloud nList orderL =>
    exact simulates_nested hh nList fun _ =>
      simulates_data (fun q : SteinhardtQl => .record (packSteinhardt q)) _
  | steinhardtQlVoronoi yCloud candidateCutoff orderL =>
    exact simulates_data (fun q : SteinhardtQl => .record (packSteinhardt q)) _
  | voronoiFacetWeights yCloud candidateCutoff =>
    exact simulates_data (fun cells : List FacetCell => .records (cells.map FacetCell.record)) _
  | classifyTemplates cloud nList kNeigh =>
    exact simulates_nested hh nList fun _ =>
      simulates_data (fun hits : List TemplateHit => .records (hits.map TemplateHit.record)) _
  | soapSpectrum yCloud iatom nList nMax lMax rcut =>
    exact simulates_nested hh nList fun _ =>
      simulates_data (fun xs : List ℚ => .list (xs.map .float)) _
  | soapSpectrumAll yCloud nList nMax lMax rcut =>
    exact simulates_nested hh nList fun _ => simulates_data nestedFloats _
  | voronoiFeatures yCloud candidateCutoff => exact simulates_data nestedFloats _
  | guestOccupancy cloud cages guests radius =>
    apply simulates_nested hh cages
    intro cages
    exact simulates_ints hh guests fun _ =>
      simulates_data (fun occ : GuestOccupancy => .record occ.record) _
  | ionEnvironment cloud iceFlag ionIndices waterType cutoff =>
    apply simulates_flags hh iceFlag
    intro iceFlag
    exact simulates_ints hh ionIndices fun _ =>
      simulates_data (fun env : IonEnvironment => .record env.record) _
  | calcRDF3D yCloud typeI typeJ rmax nbins =>
    exact simulates_data (fun gr : PartialRdf => .record gr.record) _
  | calcRunningCN yCloud typeI typeJ rmax nbins =>
    apply simulates_engine
    intro gr
    exact simulates_data (fun cn : List ℚ => .record (runningRecord gr cn)) _
  | calcCN yCloud typeI typeJ rmax nbins rCut =>
    apply simulates_engine
    intro gr
    exact simulates_data (fun x : ℚ => .scalar (.float x)) _
  | densityByType yCloud typeI nbin axis =>
    exact simulates_data (fun profile : DensityZ => .record (packDensity profile _ none)) _
  | densityByKind yCloud table kind nbin axis =>
    apply simulates_one_required
    intro table
    apply simulates_one_required
    intro kind
    exact simulates_data (fun profile : DensityZ => .record (packDensity profile _ (some kind))) _
  | contactPairs cloud table =>
    apply (simulates_contactPairs cloud table).bind
    intro h' v contact hv
    exact Simulates.pure hv.grows

theorem simulates_statement (hh : Held h vs ds) (statement : Statement Cloud) :
    Simulates h (fun _ => statement.run lua core vs) (statement.eval lua core ds) (Grows h) := by
  cases statement with
  | call c => exact simulates_call hh c
  | constant s => exact Simulates.pure ⟨Heap.Extends.refl h, .cons rfl .nil⟩
  | list ns => exact simulates_one_give _
  | names fields => exact simulates_one_give _
  | entry place n =>
    exact simulates_look hh place (fun h v => index h v (.index n)) (Data.entry n)
      fun v d hs => hs.index_entry n
  | field place name =>
    exact simulates_look hh place (fun h v => index h v (.name name)) (Data.named name)
      fun v d hs => hs.index_named name

/-- The run over the statements: what the script holds so far, and what comes. -/
theorem simulates_runScript (hh : Held h vs ds) (statements : List (Statement Cloud)) :
    Simulates h (fun _ => runScript lua core statements vs) (evalScript lua core statements ds)
      (Grows h) := by
  induction statements generalizing h vs ds with
  | nil => exact Simulates.pure ⟨Heap.Extends.refl h, hh⟩
  | cons statement rest ih =>
    apply (simulates_statement hh statement).bind
    intro h₁ new data hnew
    have hall : Held h₁ (vs ++ new) (ds ++ data) := List.rel_append (hh.extend hnew.1) hnew.2
    apply (ih hall).weaken
    intro h₂ vs' ds' hgrows
    exact ⟨hnew.1.trans hgrows.1, hgrows.2⟩

end Steps

end YodaStruct.Binding
