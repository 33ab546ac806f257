import Mathlib
import ScriptCache.Bytecode.Listing
import ScriptCache.Proofs.Bytecode.References

namespace ScriptCache

def Program.mappedAt? (q : Program) (pc : Nat) : Option Position :=
  (q.sourceMap.find? fun entry => entry.pc.toNat == pc).map
    fun entry => q.source.position entry.pos

namespace Listing

def mark : Option Position → String
  | none => ""
  | some p => "  ; " ++ toString p.line.toNat ++ ":" ++ toString p.column.toNat

def codeLine (level : Nat) (q : Program) (pc : Nat) (ins : Instruction) : String :=
  instructionText level pc ins ++ mark (q.mappedAt? pc)

def constantBlock (level index : Nat) : Constant → List String
  | .function q => constantLabel level index :: programLines (level + 2) q
  | c => [constantLabel level index ++ " " ++ scalarText c]

def text (lines : List String) : String :=
  String.join (lines.map (· ++ "\n"))

inductive Lists : Nat → Program → Nat → Program → Prop
  | self (level : Nat) (p : Program) : Lists level p level p
  | nested {level inner : Nat} {p q r : Program} (function : .function q ∈ p.constants)
      (lists : Lists (level + 2) q inner r) : Lists level p inner r

variable {source : Source} {map : List SourceMapEntry} {pc k level inner : Nat} {p q : Program}

abbrev Ascends (map : List SourceMapEntry) : Prop :=
  map.Pairwise fun x y => x.pc < y.pc

theorem find?_eq_none_of_lt (h : ∀ entry ∈ map, pc < entry.pc.toNat) :
    map.find? (fun entry => entry.pc.toNat == pc) = none := by
  refine List.find?_eq_none.mpr fun entry hentry => ?_
  rw [beq_iff_eq]
  exact Nat.ne_of_gt (h entry hentry)

theorem find?_eq_some_iff (h : Ascends map) {entry : SourceMapEntry} :
    map.find? (fun other => other.pc.toNat == pc) = some entry ↔
      entry ∈ map ∧ entry.pc.toNat = pc := by
  constructor
  · intro hfound
    exact ⟨List.mem_of_find?_eq_some hfound,by simpa using List.find?_some hfound⟩
  · rintro ⟨hmem,rfl⟩
    obtain ⟨before,after,rfl⟩ := List.append_of_mem hmem
    have hearlier : ∀ other ∈ before, other.pc < entry.pc := fun other hother =>
      (List.pairwise_append.mp h).2.2 other hother entry List.mem_cons_self
    refine List.find?_eq_some_iff_append.mpr ⟨by simp,before,after,rfl,fun other hother => ?_⟩
    simpa using Nat.ne_of_lt (UInt32.lt_iff_toNat_lt.mp (hearlier other hother))

theorem takeWhile_eq_nil_of_lt (h : ∀ entry ∈ map, pc < entry.pc.toNat) :
    map.takeWhile (fun entry => entry.pc.toNat ≤ pc) = [] := by
  cases map with
  | nil => rfl
  | cons entry rest =>
    refine List.takeWhile_cons_of_neg ?_
    rw [decide_eq_true_iff]
    exact Nat.not_le_of_lt (h entry List.mem_cons_self)

theorem due_eq (h : Ascends map) (pc : Nat) :
    (map.takeWhile fun entry => entry.pc.toNat ≤ pc).filter (fun entry => entry.pc.toNat == pc) =
      (map.find? fun entry => entry.pc.toNat == pc).toList := by
  induction map with
  | nil => rfl
  | cons entry rest ih =>
    obtain ⟨hfirst,hrest⟩ := List.pairwise_cons.mp h
    have hlater : ∀ other ∈ rest, entry.pc.toNat < other.pc.toNat :=
      fun other hother => UInt32.lt_iff_toNat_lt.mp (hfirst other hother)
    rcases Nat.lt_trichotomy entry.pc.toNat pc with hbefore | hsame | hafter
    · rw [List.takeWhile_cons_of_pos (by simpa using Nat.le_of_lt hbefore),
        List.filter_cons_of_neg (by simpa using Nat.ne_of_lt hbefore),
        List.find?_cons_of_neg (by simpa using Nat.ne_of_lt hbefore), ih hrest]
    · subst hsame
      rw [List.takeWhile_cons_of_pos (by simp), takeWhile_eq_nil_of_lt hlater,
        List.filter_cons_of_pos (by simp), List.find?_cons_of_pos (by simp)]
      rfl
    · have hall : ∀ other ∈ entry :: rest, pc < other.pc.toNat :=
        List.forall_mem_cons.mpr ⟨hafter,fun other hother => hafter.trans (hlater other hother)⟩
      rw [takeWhile_eq_nil_of_lt hall, find?_eq_none_of_lt hall]
      rfl

theorem find?_drop (map : List SourceMapEntry) (h : pc < k) :
    (map.drop (map.takeWhile fun entry => entry.pc.toNat ≤ pc).length).find?
        (fun entry => entry.pc.toNat == k) =
      map.find? fun entry => entry.pc.toNat == k := by
  induction map with
  | nil => rfl
  | cons entry rest ih =>
    by_cases hdue : entry.pc.toNat ≤ pc
    · rw [List.takeWhile_cons_of_pos (by simpa using hdue), List.length_cons,
        List.drop_succ_cons, ih,
        List.find?_cons_of_neg (by simpa using Nat.ne_of_lt (Nat.lt_of_le_of_lt hdue h))]
    · rw [List.takeWhile_cons_of_neg (by simpa using hdue)]
      rfl

theorem join_marks (source : Source) (found : Option SourceMapEntry) :
    String.join (found.toList.map (positionMark source)) =
      mark (found.map fun entry => source.position entry.pos) := by
  cases found <;> simp [mark, positionMark, String.join]

theorem codeLines_eq (h : Ascends map) (source : Source) (level pc : Nat)
    (code : List Instruction) :
    codeLines source level pc map code = code.mapIdx fun i ins =>
      instructionText level (pc + i) ins ++
        mark ((map.find? fun entry => entry.pc.toNat == pc + i).map
          fun entry => source.position entry.pos) := by
  induction code generalizing pc map with
  | nil => rfl
  | cons ins rest ih =>
    have hdropped := h.sublist (List.drop_sublist
      (map.takeWhile fun entry => entry.pc.toNat ≤ pc).length map)
    rw [codeLines, List.mapIdx_cons, due_eq h, join_marks, ih hdropped, Nat.add_zero]
    -- what the first line used up does not matter to the lines after it
    refine congrArg (List.cons _) (congrArg (fun line => rest.mapIdx line) ?_)
    funext i next
    rw [find?_drop map (by omega), Nat.add_assoc pc 1 i, Nat.add_comm 1 i]

theorem constantLines_eq (level i : Nat) (constants : List Constant) :
    constantLines level i constants =
      (constants.mapIdx fun j c => constantBlock level (i + j) c).flatten := by
  induction constants generalizing i with
  | nil => simp [constantLines]
  | cons c rest ih =>
    have hfirst : constantLines level i (c :: rest) =
        constantBlock level i c ++ constantLines level (i + 1) rest := by
      cases c <;> simp [constantLines, constantBlock]
    rw [hfirst, ih, List.mapIdx_cons, List.flatten_cons]
    simp only [Nat.add_zero, Nat.add_assoc, Nat.add_comm 1]

theorem programLines_eq (h : Ascends q.sourceMap) (level : Nat) :
    programLines level q = heading level q :: q.code.mapIdx (codeLine level q) ++
      (q.constants.mapIdx (constantBlock level)).flatten := by
  obtain ⟨functionName,source,code,constants,sourceMap⟩ := q
  simp only [programLines, codeLines_eq h, constantLines_eq, Nat.zero_add]
  rfl

theorem constantLines_infix_programLines (level : Nat) (q : Program) :
    constantLines level 0 q.constants <:+: programLines level q := by
  obtain ⟨functionName,source,code,constants,sourceMap⟩ := q
  exact (List.suffix_append _ _).isInfix

theorem programLines_infix_of_mem {r : Program} (h : .function r ∈ q.constants) (level : Nat) :
    programLines (level + 2) r <:+: programLines level q := by
  obtain ⟨i,hi,hr⟩ := List.getElem_of_mem h
  have hblock : constantBlock level i (.function r) ∈
      q.constants.mapIdx fun j c => constantBlock level (0 + j) c :=
    List.mem_mapIdx.mpr ⟨i,hi,by rw [hr, Nat.zero_add]⟩
  calc
    programLines (level + 2) r
      <:+: constantBlock level i (.function r) := (List.suffix_cons _ _).isInfix
    _ <:+: constantLines level 0 q.constants := by
      rw [constantLines_eq]
      exact List.infix_of_mem_flatten hblock
    _ <:+: programLines level q := constantLines_infix_programLines level q

theorem mappedAt?_eq_some_iff (h : Ascends q.sourceMap) {position : Position} :
    q.mappedAt? pc = some position ↔
      ∃ entry ∈ q.sourceMap, entry.pc.toNat = pc ∧ q.source.position entry.pos = position := by
  simp only [Program.mappedAt?, Option.map_eq_some_iff, find?_eq_some_iff h, and_assoc]

theorem Lists.infix (h : Lists level p inner q) :
    programLines inner q <:+: programLines level p := by
  induction h with
  | self level p => exact List.infix_refl _
  | nested function lists ih => exact ih.trans (programLines_infix_of_mem function _)

theorem Lists.text_listing (h : Lists 0 p inner q) :
    ∃ earlier later, p.listing = text (earlier ++ programLines inner q ++ later) := by
  obtain ⟨earlier,later,hlines⟩ := h.infix
  exact ⟨earlier,later,congrArg text hlines.symm⟩

theorem Lists.within (h : Lists level p inner q) : q.Within p := by
  induction h with
  | self level p => exact .self p
  | nested function lists ih => exact .nested function ih

theorem exists_lists (h : q.Within p) (level : Nat) : ∃ inner, Lists level p inner q := by
  induction h generalizing level with
  | self p => exact ⟨level,.self level p⟩
  | nested function within ih =>
    obtain ⟨inner,hlists⟩ := ih (level + 2)
    exact ⟨inner,.nested function hlists⟩

end Listing

end ScriptCache
