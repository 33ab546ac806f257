import ScriptCache.Bytecode.Program

namespace ScriptCache

namespace Constant

def depth : Constant → Nat
  | .function p => p.depth + 1
  | _ => 0

def sharing (source : Source) : Constant → Constant
  | .function p => .function (p.withSource source)
  | c => c

def functions : Constant → List Program
  | .function p => p.functions
  | _ => []

theorem depths_le_iff {n : Nat} {cs : List Constant} :
    depths cs ≤ n ↔ ∀ c ∈ cs, c.depth ≤ n := by
  induction cs with
  | nil => simp [depths]
  | cons c cs ih =>
    rw [List.forall_mem_cons, ← ih]
    cases c with
    | function p => exact Nat.max_le
    | _ => simp [depths, depth]

theorem withSource_eq_map (source : Source) (cs : List Constant) :
    withSource source cs = cs.map (sharing source) := by
  induction cs with
  | nil => rfl
  | cons c cs ih =>
    cases c <;> simp [withSource, sharing, ih]

theorem functionsIn_eq_flatMap (cs : List Constant) :
    functionsIn cs = cs.flatMap functions := by
  induction cs with
  | nil => rfl
  | cons c cs ih =>
    cases c <;> simp [functionsIn, functions, ih]

end Constant

namespace Program

theorem depth_le_iff {n : Nat} {p : Program} :
    p.depth ≤ n ↔ ∀ c ∈ p.constants, c.depth ≤ n := by
  obtain ⟨name,source,code,constants,sourceMap⟩ := p
  exact Constant.depths_le_iff

theorem lt_depth_iff {n : Nat} {p : Program} :
    n < p.depth ↔ ∃ c ∈ p.constants, n < c.depth := by
  rw [← Nat.not_le, depth_le_iff]
  simp

theorem depth_lt_of_mem {p q : Program} (h : .function q ∈ p.constants) : q.depth < p.depth :=
  depth_le_iff.mp (Nat.le_refl p.depth) (.function q) h

theorem withSource_eq (source : Source) (p : Program) :
    p.withSource source =
      ⟨p.functionName, source, p.code, p.constants.map (Constant.sharing source),
        p.sourceMap⟩ := by
  obtain ⟨name,own,code,constants,sourceMap⟩ := p
  simp only [withSource, Constant.withSource_eq_map]

@[simp] theorem withSource_source (source : Source) (p : Program) :
    (p.withSource source).source = source := by
  rw [withSource_eq]

theorem functions_eq (p : Program) :
    p.functions = p :: p.constants.flatMap Constant.functions := by
  obtain ⟨name,source,code,constants,sourceMap⟩ := p
  simp only [functions, Constant.functionsIn_eq_flatMap]

theorem nested_induction {P : Program → Prop}
    (step : ∀ p : Program, (∀ q, .function q ∈ p.constants → P q) → P p) (p : Program) : P p :=
  step p fun q _ => nested_induction step q
termination_by p.depth
decreasing_by exact depth_lt_of_mem (by assumption)

theorem withSource_withSource (s t : Source) (p : Program) :
    (p.withSource s).withSource t = p.withSource t := by
  induction p using nested_induction with
  | step p ih =>
    simp only [withSource_eq, List.map_map, Program.mk.injEq, true_and, and_true]
    apply List.map_congr_left
    intro c hc
    cases c with
    | function q => exact congrArg Constant.function (ih q hc)
    | _ => rfl

theorem withSource_eq_self_iff {s : Source} {p : Program} :
    p.withSource s = p ↔ p.source = s ∧ ∀ c ∈ p.constants, c.sharing s = c := by
  obtain ⟨name,own,code,constants,sourceMap⟩ := p
  have hmap : constants.map (Constant.sharing s) = constants ↔
      ∀ c ∈ constants, c.sharing s = c := by
    simpa using List.map_inj_left (f := Constant.sharing s) (g := id) (l := constants)
  simp only [withSource_eq, Program.mk.injEq, true_and, and_true, eq_comm (a := s), hmap]

theorem depth_withSource (s : Source) (p : Program) : (p.withSource s).depth = p.depth := by
  induction p using nested_induction with
  | step p ih =>
    have hsame : ∀ c ∈ p.constants, (c.sharing s).depth = c.depth := by
      intro c hc
      cases c with
      | function q => exact congrArg (· + 1) (ih q hc)
      | _ => rfl
    have hle (n : Nat) : (p.withSource s).depth ≤ n ↔ p.depth ≤ n := by
      rw [depth_le_iff, depth_le_iff, withSource_eq, List.forall_mem_map]
      exact forall₂_congr fun c hc => by rw [hsame c hc]
    exact Nat.le_antisymm ((hle _).mpr (Nat.le_refl _)) ((hle _).mp (Nat.le_refl _))

end Program

end ScriptCache
