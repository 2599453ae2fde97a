import YodaStruct.Dseams.Suffix

/-! `dseams.read`: the reader that a path is given to, and the cloud that comes back. The
readers of the core are parameters. -/
namespace YodaStruct.Dseams
open YodaStruct.Config YodaStruct.Driver CallLog

structure ReadOptions where
  frame : ScriptValue := .nil
  type : ScriptValue := .nil
  all : ScriptValue := .nil

instance : Inhabited ReadOptions := ⟨{}⟩

/-- The frame that is read, the first by default. -/
def ReadOptions.frameArg (o : ReadOptions) : ScriptValue := o.frame.orElse (.integer 1)

inductive ReaderCall
  | readXYZ (path : CppString)
  | readCon (path : CppString) (frame : ScriptValue)
  | readChemfiles (path : CppString) (frame type : ScriptValue)
  | readLammpsTrj (path : CppString) (frame : ScriptValue)
  | readLammpsTrjO (path : CppString) (frame type : ScriptValue)
  deriving DecidableEq

/-- The readers that a build has, and the atom count of a cloud. -/
structure Core (Cloud : Type) where
  readXYZ : CppString → Except LuaError Cloud
  readCon : Option (CppString → ScriptValue → Except LuaError Cloud)
  readChemfiles : Option (CppString → ScriptValue → ScriptValue → Except LuaError Cloud)
  readLammpsTrj : CppString → ScriptValue → Except LuaError Cloud
  readLammpsTrjO : CppString → ScriptValue → ScriptValue → Except LuaError Cloud
  nop : Cloud → ℤ

variable {Cloud : Type} (core : Core Cloud)

def requireNonempty (path : CppString) (cloud : Cloud) (selection : Option CppString) :
    Run ReaderCall Cloud :=
  if core.nop cloud = 0 then
    let detail := match selection with
      | some selection => " for ".toList ++ selection
      | none => []
    .raise ⟨path ++ " has no atoms".toList ++ detail, 3⟩
  else pure cloud

/-- `tostring` may run a metamethod, which may fail. -/
def read (tostring : ScriptValue → Except LuaError CppString) (path : CppString)
    (o : Option ReadOptions) : Run ReaderCall Cloud :=
  let o := opts o
  let frame := o.frameArg
  let ext := suffix path
  if ext = "xyz".toList then do
    let cloud ← .call (.readXYZ path) (core.readXYZ path)
    requireNonempty core path cloud none
  else if ext = "con".toList then
    match core.readCon with
    | none => .raise ⟨"readCon is not in this build (readcon-core missing)".toList, 1⟩
    | some readCon => do
      let cloud ← .call (.readCon path frame) (readCon path frame)
      requireNonempty core path cloud none
  else if ext = "pdb".toList ∨ ext = "gro".toList ∨ ext = "dcd".toList then
    match core.readChemfiles with
    | none => .raise ⟨"readChemfiles is not in this build (chemfiles missing)".toList, 1⟩
    | some readChemfiles => do
      let typ := o.type.orElse (.integer (-1))
      let cloud ← .call (.readChemfiles path frame typ) (readChemfiles path frame typ)
      requireNonempty core path cloud none
  else if o.all = .boolean true then do
    let cloud ← .call (.readLammpsTrj path frame) (core.readLammpsTrj path frame)
    requireNonempty core path cloud (some "all atoms".toList)
  else if o.type = .nil then do
    let cloud ← .call (.readLammpsTrjO path frame (.integer 2))
      (core.readLammpsTrjO path frame (.integer 2))
    if core.nop cloud > 0 then pure cloud
    else
      let cloud ← .call (.readLammpsTrjO path frame (.integer 1))
        (core.readLammpsTrjO path frame (.integer 1))
      requireNonempty core path cloud (some "types 2 or 1".toList)
  else do
    let cloud ← .call (.readLammpsTrjO path frame o.type) (core.readLammpsTrjO path frame o.type)
    let typ ← .ofExcept (tostring o.type)
    requireNonempty core path cloud (some ("type ".toList ++ typ))

/-! Which reader a path asks for, and what a read has to do. -/

inductive Backend
  | xyz | con | chemfiles | lammps
  deriving DecidableEq

def backendOf (ext : CppString) : Backend :=
  if ext = "xyz".toList then .xyz
  else if ext = "con".toList then .con
  else if ext ∈ ["pdb".toList, "gro".toList, "dcd".toList] then .chemfiles
  else .lammps

def backend (path : CppString) : Backend := backendOf (lower (afterLastDot (lastComponent path)))

def ReaderCall.backend : ReaderCall → Backend
  | readXYZ .. => .xyz
  | readCon .. => .con
  | readChemfiles .. => .chemfiles
  | readLammpsTrj .. | readLammpsTrjO .. => .lammps

def ReaderCall.path : ReaderCall → CppString
  | readXYZ path | readCon path _ | readChemfiles path _ _ | readLammpsTrj path _
  | readLammpsTrjO path _ _ => path

/-- The build has the reader, and it returns this cloud. -/
def Core.Gives : ReaderCall → Cloud → Prop
  | .readXYZ path, cloud => core.readXYZ path = .ok cloud
  | .readCon path frame, cloud => ∃ f ∈ core.readCon, f path frame = .ok cloud
  | .readChemfiles path frame typ, cloud => ∃ f ∈ core.readChemfiles, f path frame typ = .ok cloud
  | .readLammpsTrj path frame, cloud => core.readLammpsTrj path frame = .ok cloud
  | .readLammpsTrjO path frame typ, cloud => core.readLammpsTrjO path frame typ = .ok cloud

/-- On a LAMMPS dump the type of the options is what the reader is asked for. -/
def PassesType (path : CppString) (o : ReadOptions) (calls : List ReaderCall) : Prop :=
  backend path = .lammps → o.type ≠ .nil → calls = [.readLammpsTrjO path o.frameArg o.type]

/-- A read that called these readers may return this cloud. -/
structure Sound (path : CppString) (o : ReadOptions) (calls : List ReaderCall)
    (cloud : Cloud) : Prop where
  nonempty : core.nop cloud ≠ 0
  produced : ∃ before call, calls = before ++ [call] ∧ core.Gives call cloud
  dispatched : ∀ call ∈ calls, call.backend = backend path ∧ call.path = path
  all : backend path = .lammps → o.all = .boolean true → calls = [.readLammpsTrj path o.frameArg]
  typed : o.all ≠ .boolean true → PassesType path o calls
  untyped : backend path = .lammps → o.all ≠ .boolean true → o.type = .nil →
    calls = [.readLammpsTrjO path o.frameArg (.integer 2)] ∨
      calls = [.readLammpsTrjO path o.frameArg (.integer 2),
        .readLammpsTrjO path o.frameArg (.integer 1)] ∧
        ∃ first, core.Gives (.readLammpsTrjO path o.frameArg (.integer 2)) first ∧
          core.nop first ≤ 0

variable {core}

theorem returns_requireNonempty {path : CppString} {c cloud : Cloud}
    {selection : Option CppString} {calls : List ReaderCall} :
    (requireNonempty core path c selection).Returns calls cloud ↔
      calls = [] ∧ cloud = c ∧ core.nop cloud ≠ 0 := by
  unfold requireNonempty
  split_ifs with h
  · constructor
    · intro hret
      exact absurd hret Run.not_returns_raise
    · intro hret
      obtain ⟨-, rfl, hne⟩ := hret
      exact absurd h hne
  · rw [Run.returns_pure]
    constructor
    · intro hret
      obtain ⟨rfl, rfl⟩ := hret
      exact ⟨rfl, rfl, h⟩
    · intro hret
      obtain ⟨rfl, rfl, -⟩ := hret
      exact ⟨rfl, rfl⟩

/-- A read by one call returns what the reader gave, if it has atoms. -/
theorem returns_call_requireNonempty {call : ReaderCall} {answer : Except LuaError Cloud}
    {path : CppString} {selection : Option CppString} {calls : List ReaderCall} {cloud : Cloud} :
    (Run.call call answer >>= fun c => requireNonempty core path c selection).Returns calls cloud ↔
      answer = .ok cloud ∧ core.nop cloud ≠ 0 ∧ calls = [call] := by
  rw [Run.returns_call_bind]
  constructor
  · intro hret
    obtain ⟨c, rest, hanswer, hret, rfl⟩ := hret
    obtain ⟨rfl, rfl, hne⟩ := returns_requireNonempty.mp hret
    exact ⟨hanswer, hne, rfl⟩
  · intro hret
    obtain ⟨hanswer, hne, rfl⟩ := hret
    exact ⟨cloud, [], hanswer, returns_requireNonempty.mpr ⟨rfl, rfl, hne⟩, rfl⟩

/-- Outside the LAMMPS dumps one call to the right reader is sound. -/
theorem Sound.of_call {path : CppString} {o : ReadOptions} {call : ReaderCall} {cloud : Cloud}
    (hgives : core.Gives call cloud) (hne : core.nop cloud ≠ 0) (hpath : call.path = path)
    (hb : backend path = call.backend) (hl : call.backend ≠ .lammps) :
    Sound core path o [call] cloud where
  nonempty := hne
  produced := ⟨[], call, rfl, hgives⟩
  dispatched := by simpa using ⟨hb.symm, hpath⟩
  all h := absurd (hb.symm.trans h) hl
  typed _ h := absurd (hb.symm.trans h) hl
  untyped h := absurd (hb.symm.trans h) hl

/-- A call for every atom, or for the type of the options, is sound on a LAMMPS dump. -/
theorem Sound.of_lammps_call {path : CppString} {o : ReadOptions} {call : ReaderCall}
    {cloud : Cloud} (hgives : core.Gives call cloud) (hne : core.nop cloud ≠ 0)
    (hb : backend path = .lammps)
    (hcall : call = if o.all = .boolean true then .readLammpsTrj path o.frameArg
      else .readLammpsTrjO path o.frameArg o.type)
    (htype : o.all ≠ .boolean true → o.type ≠ .nil) :
    Sound core path o [call] cloud where
  nonempty := hne
  produced := ⟨[], call, rfl, hgives⟩
  dispatched := by
    rw [hcall, hb]
    split_ifs <;> simp [ReaderCall.backend, ReaderCall.path]
  all _ h := by rw [hcall, if_pos h]
  typed h _ _ := by rw [hcall, if_neg h]
  untyped _ h h' := absurd h' (htype h)

/-- Without a type, type 2 is enough when it gave atoms. -/
theorem Sound.of_type_two {path : CppString} {o : ReadOptions} {cloud : Cloud}
    (hall : o.all ≠ .boolean true) (hnil : o.type = .nil) (hb : backend path = .lammps)
    (hgives : core.readLammpsTrjO path o.frameArg (.integer 2) = .ok cloud)
    (hne : core.nop cloud ≠ 0) :
    Sound core path o [.readLammpsTrjO path o.frameArg (.integer 2)] cloud where
  nonempty := hne
  produced := ⟨[], _, rfl, hgives⟩
  dispatched := by simp [hb, ReaderCall.backend, ReaderCall.path]
  all _ h := absurd h hall
  typed _ _ h := absurd hnil h
  untyped _ _ _ := .inl rfl

/-- Without a type, type 1 is read after a type 2 without atoms. -/
theorem Sound.of_type_one {path : CppString} {o : ReadOptions} {first cloud : Cloud}
    (hall : o.all ≠ .boolean true) (hnil : o.type = .nil) (hb : backend path = .lammps)
    (hfirst : core.readLammpsTrjO path o.frameArg (.integer 2) = .ok first)
    (hle : core.nop first ≤ 0)
    (hgives : core.readLammpsTrjO path o.frameArg (.integer 1) = .ok cloud)
    (hne : core.nop cloud ≠ 0) :
    Sound core path o [.readLammpsTrjO path o.frameArg (.integer 2),
      .readLammpsTrjO path o.frameArg (.integer 1)] cloud where
  nonempty := hne
  produced := ⟨[_], _, rfl, hgives⟩
  dispatched := by simp [hb, ReaderCall.backend, ReaderCall.path]
  all _ h := absurd h hall
  typed _ _ h := absurd hnil h
  untyped _ _ _ := .inr ⟨rfl, first, hfirst, hle⟩

theorem sound_of_returns {tostring : ScriptValue → Except LuaError CppString} {path : CppString}
    {o : Option ReadOptions} {calls : List ReaderCall} {cloud : Cloud}
    (h : (read core tostring path o).Returns calls cloud) :
    Sound core path (opts o) calls cloud := by
  unfold read at h
  simp only [suffix_eq] at h
  split_ifs at h with hxyz hcon hchem hall hnil
  · have hb : backend path = .xyz := if_pos hxyz
    obtain ⟨hgives, hne, rfl⟩ := returns_call_requireNonempty.mp h
    exact .of_call hgives hne rfl hb (by simp [ReaderCall.backend])
  · have hb : backend path = .con := by
      unfold backend backendOf
      rw [if_neg hxyz, if_pos hcon]
    cases hread : core.readCon with
    | none =>
      rw [hread] at h
      exact absurd h Run.not_returns_raise
    | some readCon =>
      rw [hread] at h
      obtain ⟨hgives, hne, rfl⟩ := returns_call_requireNonempty.mp h
      exact .of_call ⟨readCon, hread, hgives⟩ hne rfl hb (by simp [ReaderCall.backend])
  · have hb : backend path = .chemfiles := by
      unfold backend backendOf
      rw [if_neg hxyz, if_neg hcon, if_pos (by simpa using hchem)]
    cases hread : core.readChemfiles with
    | none =>
      rw [hread] at h
      exact absurd h Run.not_returns_raise
    | some readChemfiles =>
      rw [hread] at h
      obtain ⟨hgives, hne, rfl⟩ := returns_call_requireNonempty.mp h
      exact .of_call ⟨readChemfiles, hread, hgives⟩ hne rfl hb (by simp [ReaderCall.backend])
  all_goals
    have hb : backend path = .lammps := by
      unfold backend backendOf
      rw [if_neg hxyz, if_neg hcon, if_neg (by simpa using hchem)]
  · obtain ⟨hgives, hne, rfl⟩ := returns_call_requireNonempty.mp h
    exact .of_lammps_call hgives hne hb (by rw [if_pos hall]) fun h => absurd hall h
  · obtain ⟨first, rest, hfirst, hret, rfl⟩ := Run.returns_call_bind.mp h
    split_ifs at hret with hpos
    · obtain ⟨rfl, rfl⟩ := Run.returns_pure.mp hret
      have hne : core.nop cloud ≠ 0 := by omega
      exact .of_type_two hall hnil hb hfirst hne
    · obtain ⟨hgives, hne, rfl⟩ := returns_call_requireNonempty.mp hret
      have hle : core.nop first ≤ 0 := by omega
      exact .of_type_one hall hnil hb hfirst hle hgives hne
  · obtain ⟨c, rest, hanswer, hret, rfl⟩ := Run.returns_call_bind.mp h
    obtain ⟨typ, -, hret⟩ := Run.returns_ofExcept_bind.mp hret
    obtain ⟨rfl, rfl, hne⟩ := returns_requireNonempty.mp hret
    exact .of_lammps_call hanswer hne hb (by rw [if_neg hall]) fun _ => hnil

/-- A read returns a cloud with atoms from the reader that the suffix asks for, and of the type
that the options ask for unless they ask for every atom, or it raises an error. -/
theorem read_sound (core : Core Cloud) (tostring : ScriptValue → Except LuaError CppString)
    (path : CppString) (o : Option ReadOptions) :
    (∃ cloud, (read core tostring path o).result = .ok cloud ∧
      Sound core path (opts o) (read core tostring path o).calls cloud) ∨
      ∃ e, (read core tostring path o).result = .error e := by
  cases hres : (read core tostring path o).result with
  | ok cloud => exact .inl ⟨cloud, rfl, sound_of_returns (Run.returns_self hres)⟩
  | error e => exact .inr ⟨e, rfl⟩

/-- A dump of two waters, with its hydrogens of type 1 and its oxygens of type 2. -/
def waterDump : Core ℤ where
  readXYZ _ := .error ⟨"not an xyz file".toList, 0⟩
  readCon := none
  readChemfiles := none
  readLammpsTrj _ _ := .ok 6
  readLammpsTrjO _ _ typ := .ok (if typ = .integer 1 then 4 else if typ = .integer 2 then 2 else 0)
  nop := id

/-- With `all`, the type of the options goes to no reader. -/
theorem waterDump_all_ignores_type :
    let o : ReadOptions := { all := .boolean true, type := .integer 5 }
    let run := read waterDump (fun _ => .ok []) "ice.1/water.lammpstrj".toList (some o)
    run.result = .ok 6 ∧ run.calls = [.readLammpsTrj "ice.1/water.lammpstrj".toList (.integer 1)] ∧
      ¬PassesType "ice.1/water.lammpstrj".toList o run.calls := by
  have hlammps : backend "ice.1/water.lammpstrj".toList = .lammps := by decide
  refine ⟨rfl, rfl, ?_⟩
  intro h
  exact absurd (h hlammps (by decide)) (by decide)

end YodaStruct.Dseams
