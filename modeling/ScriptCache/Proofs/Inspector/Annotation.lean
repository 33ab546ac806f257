import ScriptCache.Proofs.Bytecode.Listing
import ScriptCache.Proofs.Inspector.Stops

namespace ScriptCache

namespace Program

variable {q : Program} {pc : UInt32} {offset : UInt32} {position : Position}

theorem positionOf?_of_exact (h : q.exactPosition? pc = some offset) :
    q.positionOf? pc = some (q.source.position offset) := by
  unfold exactPosition? at h
  split at h
  · rename_i i hfound
    obtain ⟨entry,hentry,rfl⟩ := Option.map_eq_some_iff.mp h
    simp only [positionOf?, hfound, hentry, Option.map_some]
  · cases h

theorem mappedAt?_eq_map (h : q.sourceMap.Pairwise fun x y => x.pc < y.pc) (pc : UInt32) :
    q.mappedAt? pc.toNat = (q.exactPosition? pc).map q.source.position := by
  ext position
  rw [Listing.mappedAt?_eq_some_iff h, Option.map_eq_some_iff]
  constructor
  · rintro ⟨entry,hentry,hpc,hposition⟩
    obtain rfl := UInt32.toNat_inj.mp hpc
    exact ⟨entry.pos,(exactPosition?_eq_some_iff h).mpr hentry,hposition⟩
  · rintro ⟨offset,hoffset,hposition⟩
    exact ⟨⟨pc,offset⟩,(exactPosition?_eq_some_iff h).mp hoffset,rfl,hposition⟩

end Program

structure Location.Is (id : ScriptId) (l : Location) (position : Position) : Prop where
  script : l.scriptId = id
  line : position.line.toNat = l.lineNumber.toNat + 1
  column : position.column.toNat = l.columnNumber.toNat + 1

theorem Script.location_is (x : Script) (offset : UInt32) :
    (x.location offset).Is x.id (x.source.position offset) := by
  obtain ⟨hline,hcolumn⟩ := x.source.position_ne_zero offset
  exact ⟨rfl,Word.toNat_eq_sub_one hline,Word.toNat_eq_sub_one hcolumn⟩

namespace Session

variable {σ : Type} {s : Session} {x : Script}

theorem locationOf?_eq (hx : s.script? x.id = some x) (q : Program) (pc : UInt32) (depth : Nat) :
    s.locationOf? ⟨x.id, q, pc, depth⟩ = (q.exactPosition? pc).map x.location := by
  change (s.script? x.id).bind _ = _
  rw [hx]
  cases q.exactPosition? pc <;> rfl

theorem marks_eq_locations (host : Host σ) (before after : List (Action × σ)) (p : Program) (h : σ)
    (hmaps : ∀ q : Program, q.Within p → q.sourceMap.Pairwise fun x y => x.pc < y.pc) :
    let s := (initial.run host (before ++ (.register p, h) :: after)).1
    let id := ((initial.run host before).1.register p).2
    (∀ q : Program, q.Within p → ∃ level, Listing.Lists 0 p level q) ∧
    ∀ level q, Listing.Lists 0 p level q →
      (∃ earlier later,
        p.listing = Listing.text (earlier ++ Listing.programLines level q ++ later)) ∧
      Listing.programLines level q =
        Listing.heading level q :: q.code.mapIdx (Listing.codeLine level q) ++
          (q.constants.mapIdx (Listing.constantBlock level)).flatten ∧
      (∀ pc position, q.mappedAt? pc = some position ↔
        ∃ entry ∈ q.sourceMap, entry.pc.toNat = pc ∧ q.source.position entry.pos = position) ∧
      (∀ pc position, q.mappedAt? pc.toNat = some position → q.positionOf? pc = some position) ∧
      (q.source = p.source → ∀ pc depth,
        (∀ position, q.mappedAt? pc.toNat = some position →
          ∃ l, s.locationOf? ⟨id, q, pc, depth⟩ = some l ∧ l.Is id position) ∧
        (q.mappedAt? pc.toNat = none → s.locationOf? ⟨id, q, pc, depth⟩ = none)) := by
  intro s id
  refine ⟨fun q hq => Listing.exists_lists hq 0,?_⟩
  intro level q hlists
  have hmap := hmaps q hlists.within
  refine ⟨hlists.text_listing,Listing.programLines_eq hmap level,
    fun pc position => Listing.mappedAt?_eq_some_iff hmap,?_,?_⟩
  · intro pc position hposition
    rw [Program.mappedAt?_eq_map hmap] at hposition
    obtain ⟨offset,hoffset,rfl⟩ := Option.map_eq_some_iff.mp hposition
    exact Program.positionOf?_of_exact hoffset
  · intro hsource pc depth
    let x := Script.ofProgram id p
    have hknown : s.script? x.id = some x :=
      (numbers_run host _).script?_eq (registered_mem host before after p h)
    have hlocation : s.locationOf? ⟨id, q, pc, depth⟩ =
        (q.exactPosition? pc).map x.location := locationOf?_eq hknown q pc depth
    rw [Program.mappedAt?_eq_map hmap, hlocation, hsource]
    constructor
    · intro position hposition
      obtain ⟨offset,hoffset,rfl⟩ := Option.map_eq_some_iff.mp hposition
      exact ⟨x.location offset,by rw [hoffset]; rfl,x.location_is offset⟩
    · intro hnone
      rw [Option.map_eq_none_iff.mp hnone]
      rfl

def sparseFunction : Program :=
  ⟨"g", pageSource, [⟨.dup, .none, by decide⟩, ⟨.ret, .none, by decide⟩], [], [⟨1, 4⟩, ⟨7, 0⟩]⟩

def aroundSparse : Program :=
  ⟨"", pageSource, [⟨.pop, .none, by decide⟩], [.null, .function sparseFunction], [⟨0, 0⟩, ⟨5, 6⟩]⟩

theorem marks_eq_locations_sparse :
    let s := (initial.run Host.detached [(.register aroundSparse, ())]).1
    Listing.Lists 0 aroundSparse 2 sparseFunction ∧
      Listing.programLines 2 sparseFunction =
        ["    function g (2 instructions, 0 constants)", "          0: Dup",
          "          1: Ret  ; 2:1"] ∧
      s.locationOf? ⟨"1", sparseFunction, 0, 0⟩ = none ∧
      ∃ l, s.locationOf? ⟨"1", sparseFunction, 1, 0⟩ = some l ∧ l.Is "1" ⟨2, 1⟩ ∧
        sparseFunction.positionOf? 1 = some ⟨2, 1⟩ := by
  intro s
  have hmem : .function sparseFunction ∈ aroundSparse.constants := by
    rw [aroundSparse]
    exact List.mem_cons_of_mem _ List.mem_cons_self
  have hlists : Listing.Lists 0 aroundSparse 2 sparseFunction := .nested hmem (.self 2 _)
  have hmaps : ∀ q ∈ aroundSparse.functions, q.sourceMap.Pairwise fun x y => x.pc < y.pc := by
    decide
  obtain ⟨-,hlines,-,hposition,hlocations⟩ :=
    (marks_eq_locations Host.detached [] [] aroundSparse ()
      fun q hq => hmaps q (Program.within_iff_mem_functions.mp hq)).2 2 sparseFunction hlists
  have hfirst : sparseFunction.mappedAt? 0 = none := by decide
  have hsecond : sparseFunction.mappedAt? 1 = some ⟨2, 1⟩ := by decide
  refine ⟨hlists,?_,?_,?_⟩
  · rw [hlines]
    decide
  · exact (hlocations rfl 0 0).2 hfirst
  · obtain ⟨l,hlocation,hl⟩ := (hlocations rfl 1 0).1 _ hsecond
    exact ⟨l,hlocation,hl,hposition 1 _ hsecond⟩

end Session

end ScriptCache
