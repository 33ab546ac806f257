import Mathlib
import ScriptCache.Proofs.Store.Separation

namespace ScriptCache.CacheStore

variable {τ : Type} {handle : CacheStore} {d : Directory} {source : Source} {version : UInt16}
  {tag cause : String} {tags : List String} {fault : Option StoreFault} {p q : Program}
  {compile : Source → StateM τ (Except String Program)} {h h' : τ}

def noting (compile : Source → StateM τ (Except String Program)) :
    Source → StateM (τ × List Source) (Except String Program) :=
  fun source (h, past) =>
    let (result, h') := compile source h
    (result, h', past ++ [source])

def calls (handle : CacheStore) (compile : Source → StateM τ (Except String Program))
    (source : Source) (d : Directory) :
    List String → StateM τ (Directory × List (Except StoreError Program))
  | [] => return (d, [])
  | tag :: tags => do
      let (d, first) ← handle.loadOrCompile tag none compile d source
      let (d, others) ← calls handle compile source d tags
      return (d, first :: others)

def Usable (d : Directory) (version : UInt16) (source : Source) (q : Program) : Prop :=
  ∃ bytes, d.get? (entryName source) = some (.file bytes) ∧
    Program.decode bytes version = .ok q ∧ q.source.Same source

structure Misses (d : Directory) (version : UInt16) (source : Source) : Prop where
  place : d ≠ .file
  target : d.get? (entryName source) ≠ some .directory
  unusable : ∀ q, ¬Usable d version source q

structure Free (d : Directory) (source : Source) (tags : List String) : Prop where
  place : d ≠ .file
  target : d.get? (entryName source) ≠ some .directory
  temporary : ∀ tag ∈ tags, d.get? (temporaryName source tag) ≠ some .directory

theorem temporaryName_of_same {s t : Source} (h : s.Same t) (tag : String) :
    temporaryName s tag = temporaryName t tag := by
  have hkey : s.key = t.key := key_eq_iff.mpr (entryName_of_same h)
  rw [temporaryName, temporaryName, hkey]

theorem load_of_usable (handle : CacheStore) (h : Usable d handle.version source q) :
    handle.load d source = (d, .ok (some q)) := by
  obtain ⟨bytes,hentry,hread,hsame⟩ := h
  rw [load_of_decode hentry hread, if_pos (matchesSource_iff.mpr hsame)]

theorem load_of_misses (handle : CacheStore) (h : Misses d handle.version source) :
    handle.load d source = ((handle.load d source).1, .ok none) := by
  obtain ⟨hplace,htarget,hunusable⟩ := h
  refine Prod.ext rfl ?_
  cases hentry : d.get? (entryName source) with
  | none => rw [load_of_none hplace hentry]
  | some e =>
    cases e with
    | directory => exact absurd hentry htarget
    | file bytes =>
      cases hread : Program.decode bytes handle.version with
      | error e => rw [load_of_error hentry hread]
      | ok q =>
        have hother : ¬matchesSource q source = true := fun hmatch =>
          hunusable q ⟨bytes,hentry,hread,matchesSource_iff.mp hmatch⟩
        rw [load_of_decode hentry hread, if_neg hother]

theorem load_directory (handle : CacheStore) (d : Directory) (source : Source) :
    (handle.load d source).1 = d ∨ (handle.load d source).1 = d.remove (entryName source) := by
  by_cases hstale : Stale d handle.version source
  · exact .inr (by rw [load_of_stale handle hstale])
  · exact .inl (load_of_not_stale handle hstale)

theorem loadOrCompile_of_usable (tag : String) (fault : Option StoreFault)
    (compile : Source → StateM τ (Except String Program)) (h : τ)
    (husable : Usable d handle.version source q) :
    handle.loadOrCompile tag fault compile d source h = ((d, .ok q), h) := by
  rw [loadOrCompile, load_of_usable handle husable]
  rfl

theorem loadOrCompile_of_compiled (hcompile : compile source h = (.ok p, h'))
    (hmisses : Misses d handle.version source) (tag : String) (fault : Option StoreFault) :
    handle.loadOrCompile tag fault compile d source h =
      (((handle.store tag fault (handle.load d source).1 p).1, .ok p), h') := by
  rw [loadOrCompile, load_of_misses handle hmisses]
  simp only [bind, StateT.bind, hcompile]
  rfl

theorem loadOrCompile_of_failed (hcompile : compile source h = (.error cause, h'))
    (hmisses : Misses d handle.version source) (tag : String) (fault : Option StoreFault) :
    handle.loadOrCompile tag fault compile d source h =
      (((handle.load d source).1, .error (.compile cause)), h') := by
  rw [loadOrCompile, load_of_misses handle hmisses]
  simp only [bind, StateT.bind, hcompile]
  rfl

theorem calls_of_usable (compile : Source → StateM τ (Except String Program)) (h : τ)
    (husable : Usable d handle.version source q) (tags : List String) :
    calls handle compile source d tags h =
      ((d, List.replicate tags.length (.ok q)), h) := by
  induction tags with
  | nil => rfl
  | cons tag tags ih =>
    simp only [calls, bind, StateT.bind, loadOrCompile_of_usable tag none compile h husable, ih]
    rfl

theorem Free.misses_or_usable (hfree : Free d source tags) (version : UInt16) :
    (∃ q, Usable d version source q) ∨ Misses d version source := by
  by_cases h : ∃ q, Usable d version source q
  · exact .inl h
  · exact .inr ⟨hfree.place,hfree.target,not_exists.mp h⟩

theorem Free.accepts_after_load (hfree : Free d source tags) (handle : CacheStore)
    (htag : tag ∈ tags) (hsame : p.source.Same source) :
    Accepts (handle.load d source).1 tag p := by
  have htarget : d.get? (entryName p.source) ≠ some .directory := by
    rw [entryName_of_same hsame]
    exact hfree.target
  have htemporary : d.get? (temporaryName p.source tag) ≠ some .directory := by
    rw [temporaryName_of_same hsame]
    exact hfree.temporary tag htag
  have hremoved {name : String} (h : d.get? name ≠ some .directory) :
      (d.remove (entryName source)).get? name ≠ some .directory := by
    rw [Directory.get?_remove]
    split_ifs
    · exact nofun
    · exact h
  rcases load_directory handle d source with hload | hload
  · rw [hload]
    exact ⟨hfree.place,htarget,htemporary⟩
  · rw [hload]
    exact ⟨Directory.remove_ne_file hfree.place _,hremoved htarget,hremoved htemporary⟩

theorem usable_of_store (handle : CacheStore) (haccepts : Accepts d tag p) (hp : p.Storable)
    (hsame : p.source.Same source) :
    Usable (handle.store tag none d p).1 handle.version source p := by
  refine ⟨p.encode handle.version,?_,?_,hsame⟩
  · rw [get?_store handle haccepts, if_pos (entryName_of_same hsame).symm]
  · rw [hp.fits.decode_encode hp.depth, hp.shared]

theorem calls_of_misses (hfree : Free d source (tag :: tags))
    (hmisses : Misses d handle.version source) (hcompile : compile source h = (.ok p, h'))
    (hp : p.Storable) (hsame : p.source.Same source) :
    ∃ d', Usable d' handle.version source p ∧
      calls handle compile source d (tag :: tags) h =
        ((d', List.replicate (tag :: tags).length (.ok p)), h') := by
  have haccepts := hfree.accepts_after_load handle List.mem_cons_self hsame
  have husable := usable_of_store handle haccepts hp hsame
  refine ⟨_,husable,?_⟩
  simp only [calls, bind, StateT.bind, loadOrCompile_of_compiled hcompile hmisses tag none,
    calls_of_usable compile h' husable tags]
  rfl

theorem compiled_once (handle : CacheStore) (source : Source) :
    (∀ (compile : Source → StateM τ (Except String Program)) d tags h h' p,
      compile source h = (.ok p, h') → p.source.Same source → p.Storable → Free d source tags →
      ∃ d' q last past,
        calls handle (noting compile) source d tags (h, []) =
          ((d', List.replicate tags.length (.ok q)), (last, past)) ∧
        past.length ≤ 1 ∧
        (∀ r, Usable d handle.version source r → q = r ∧ past = [] ∧ last = h ∧ d' = d) ∧
        (Misses d handle.version source → tags ≠ [] →
          q = p ∧ past = [source] ∧ last = h' ∧ Usable d' handle.version source p)) ∧
    (∀ (compile : Source → StateM τ (Except String Program)) d tag fault h h' cause,
      compile source h = (.error cause, h') → Misses d handle.version source →
      ∃ d', handle.loadOrCompile tag fault compile d source h =
          ((d', .error (.compile cause)), h') ∧
        (d' = d ∨ d' = d.remove (entryName source)) ∧
        ∀ name entry, d'.get? name = some entry → d.get? name = some entry) ∧
    ∀ (compile : Source → StateM τ (Except String Program)) d tag fault h h' p,
      compile source h = (.ok p, h') → Misses d handle.version source →
      ∃ d', handle.loadOrCompile tag fault compile d source h = ((d', .ok p), h') := by
  refine ⟨?_,?_,?_⟩
  · intro compile d tags h h' p hcompile hsame hp hfree
    rcases hfree.misses_or_usable handle.version with ⟨q,husable⟩ | hmisses
    · refine ⟨d,q,h,[],calls_of_usable (noting compile) (h, []) husable tags,Nat.zero_le 1,?_,?_⟩
      · intro r hr
        have hboth := (load_of_usable handle husable).symm.trans (load_of_usable handle hr)
        simp only [Prod.mk.injEq, Except.ok.injEq, Option.some.injEq, true_and] at hboth
        exact ⟨hboth,rfl,rfl,rfl⟩
      · exact fun hmisses => absurd husable (hmisses.unusable q)
    · cases tags with
      | nil =>
        refine ⟨d,p,h,[],rfl,Nat.zero_le 1,fun r hr => absurd hr (hmisses.unusable r),?_⟩
        exact fun _ hnone => absurd rfl hnone
      | cons tag tags =>
        have hnoted : noting compile source (h, []) = (.ok p, h', [source]) := by
          simp only [noting, hcompile, List.nil_append]
        obtain ⟨d',husable,hcalls⟩ := calls_of_misses hfree hmisses hnoted hp hsame
        refine ⟨d',p,h',[source],hcalls,Nat.le_refl 1,
          fun r hr => absurd hr (hmisses.unusable r),fun _ _ => ⟨rfl,rfl,rfl,husable⟩⟩
  · intro compile d tag fault h h' cause hcompile hmisses
    refine ⟨_,loadOrCompile_of_failed hcompile hmisses tag fault,load_directory handle d source,?_⟩
    intro name entry hentry
    rcases load_directory handle d source with hload | hload
    · rwa [hload] at hentry
    · rw [hload, Directory.get?_remove] at hentry
      split_ifs at hentry
      exact hentry
  · intro compile d tag fault h h' p hcompile hmisses
    exact ⟨_,loadOrCompile_of_compiled hcompile hmisses tag fault⟩

def strayEntry : Directory :=
  .holding [(entryName Program.lookup.source,
    .file ((Program.lookup.withSource Program.outerSource).encode 1))]

theorem compiled_once_stray :
    let counted : Source → StateM Nat (Except String Program) :=
      fun _ n => (.ok Program.lookup, n + 1)
    let refusing : Source → StateM Nat (Except String Program) :=
      fun _ n => (.error "unexpected token", n + 1)
    Misses strayEntry 1 Program.lookup.source ∧
      Free strayEntry Program.lookup.source ["0", "1", "2"] ∧ Program.lookup.Storable ∧
      (∃ d, Usable d 1 Program.lookup.source Program.lookup ∧
        calls ⟨"cache", 1⟩ (noting counted) Program.lookup.source strayEntry ["0", "1", "2"]
            (0, []) =
          ((d, List.replicate 3 (.ok Program.lookup)), (1, [Program.lookup.source]))) ∧
      (∃ d, loadOrCompile ⟨"cache", 1⟩ "0" none refusing strayEntry Program.lookup.source 0 =
        ((d, .error (.compile "unexpected token")), 1)) ∧
      ∃ d, loadOrCompile ⟨"cache", 1⟩ "0" (some .renaming) counted strayEntry
          Program.lookup.source 0 = ((d, .ok Program.lookup), 1) := by
  intro counted refusing
  have hentry : strayEntry.get? (entryName Program.lookup.source) =
      some (.file ((Program.lookup.withSource Program.outerSource).encode 1)) :=
    (Catalog.get?_cons ..).trans (if_pos rfl)
  have hfiles (name : String) : strayEntry.get? name ≠ some .directory := by
    rw [strayEntry, Directory.get?, Catalog.get?_cons]
    split_ifs <;> simp [Catalog.get?]
  have hplace : strayEntry ≠ .file := by simp [strayEntry]
  have hfits : (Program.lookup.withSource Program.outerSource).Fits := by decide
  have hmisses : Misses strayEntry 1 Program.lookup.source := by
    refine ⟨hplace,hfiles _,?_⟩
    rintro q ⟨bytes,hbytes,hread,hsame⟩
    obtain rfl : _ = bytes := Entry.file.inj (Option.some.inj (hentry.symm.trans hbytes))
    rw [hfits.decode_encode (by decide)] at hread
    obtain rfl := Except.ok.inj hread
    exact absurd hsame (by decide)
  have hfree : Free strayEntry Program.lookup.source ["0", "1", "2"] :=
    ⟨hplace,hfiles _,fun tag _ => hfiles _⟩
  have hstorable : Program.lookup.Storable := ⟨by decide,by decide,rfl⟩
  obtain ⟨honce,hrefused,hunstored⟩ :=
    @compiled_once Nat ⟨"cache", 1⟩ Program.lookup.source
  refine ⟨hmisses,hfree,hstorable,?_,?_,?_⟩
  · obtain ⟨d,q,last,past,hcalls,-,-,hfirst⟩ :=
      honce counted strayEntry ["0", "1", "2"] 0 1 Program.lookup rfl ⟨rfl,rfl⟩ hstorable hfree
    obtain ⟨rfl,rfl,rfl,husable⟩ := hfirst hmisses (List.cons_ne_nil _ _)
    exact ⟨d,husable,hcalls⟩
  · obtain ⟨d,hcall,-⟩ :=
      hrefused refusing strayEntry "0" none 0 1 "unexpected token" rfl hmisses
    exact ⟨d,hcall⟩
  · exact hunstored counted strayEntry "0" (some .renaming) 0 1 Program.lookup rfl hmisses

end ScriptCache.CacheStore
