import Mathlib
import ScriptCache.Proofs.Codec.RoundTrip
import ScriptCache.Proofs.Store.Entries

namespace ScriptCache.CacheStore

inductive Request where
  | store (version : UInt16) (tag : String) (p : Program)
  | load (version : UInt16) (source : Source)

namespace Request

def source : Request → Source
  | .store _ _ p => p.source
  | .load _ source => source

def Spares (version : UInt16) (source : Source) (r : Request) : Prop :=
  r.source.Same source → ∃ same, r = .load version same

end Request

def perform (dir : String) (d : Directory) : Request → Directory
  | .store version tag p => (store ⟨dir, version⟩ tag none d p).1
  | .load version source => (load ⟨dir, version⟩ d source).1

def after (dir : String) (d : Directory) (past : List Request) : Directory :=
  past.foldl (perform dir) d

/-- The program was the last one stored for the source, and since then the source was at most
loaded, at the version that the program was stored at. -/
def LastStored (past : List Request) (source : Source) (version : UInt16) (p : Program) : Prop :=
  ∃ before tag rest, past = before ++ .store version tag p :: rest ∧ p.source.Same source ∧
    ∀ r ∈ rest, r.Spares version source

theorem lastStored_concat {past : List Request} {r : Request} {source : Source} {version : UInt16}
    {p : Program} :
    LastStored (past ++ [r]) source version p ↔
      (∃ tag, r = .store version tag p ∧ p.source.Same source) ∨
      LastStored past source version p ∧ r.Spares version source := by
  constructor
  · rintro ⟨before,tag,rest,hpast,hsame,hrest⟩
    rcases List.eq_nil_or_concat rest with rfl | ⟨others,last,rfl⟩
    · obtain ⟨-,hlast⟩ := List.append_inj' hpast rfl
      exact .inl ⟨tag,(List.cons.inj hlast).1,hsame⟩
    · rw [List.concat_eq_append, ← List.cons_append, ← List.append_assoc] at hpast
      obtain ⟨rfl,hlast⟩ := List.append_inj' hpast rfl
      obtain rfl := (List.cons.inj hlast).1
      rw [List.concat_eq_append, List.forall_mem_append] at hrest
      exact .inr ⟨⟨before,tag,others,rfl,hsame,hrest.1⟩,hrest.2 r (List.mem_singleton_self r)⟩
  · rintro (⟨tag,rfl,hsame⟩ | ⟨⟨before,tag,rest,rfl,hsame,hrest⟩,hr⟩)
    · exact ⟨past,tag,[],rfl,hsame,by simp⟩
    · refine ⟨before,tag,rest ++ [r],by simp,hsame,?_⟩
      exact List.forall_mem_append.mpr ⟨hrest,by simpa using hr⟩

/-- Nothing but the requests decides what the directory has for their sources: no entry is there
from before, no operation fails, and sources that differ have keys that differ. -/
structure Undisturbed (d : Directory) (requests : List Request) : Prop where
  place : d ≠ .file
  fresh : ∀ r ∈ requests, d.get? (entryName r.source) = none
  temporary : ∀ version tag p, .store version tag p ∈ requests →
    d.get? (temporaryName p.source tag) ≠ some .directory
  -- A program with a text or table too long for the format is never written.
  fits : ∀ version tag p, .store version tag p ∈ requests → p.Fits
  named : ∀ r ∈ requests, '\x00' ∉ r.source.name.toList
  digests : ∀ r ∈ requests, ∀ r' ∈ requests,
    Sha256.digest r.source.keyBytes = Sha256.digest r'.source.keyBytes →
      r.source.keyBytes = r'.source.keyBytes

variable {dir : String} {initial d : Directory} {past requests : List Request} {r r' : Request}
  {source : Source} {version : UInt16} {tag : String} {p : Program}

namespace Undisturbed

theorem mono (h : Undisturbed d requests) (hsub : past ⊆ requests) : Undisturbed d past where
  place := h.place
  fresh r hr := h.fresh r (hsub hr)
  temporary version tag p hr := h.temporary version tag p (hsub hr)
  fits version tag p hr := h.fits version tag p (hsub hr)
  named r hr := h.named r (hsub hr)
  digests r hr r' hr' := h.digests r (hsub hr) r' (hsub hr')

theorem entryName_eq_iff (h : Undisturbed d requests) (hr : r ∈ requests) (hr' : r' ∈ requests) :
    entryName r.source = entryName r'.source ↔ r.source.Same r'.source := by
  constructor
  · intro hname
    have hdigest := CacheStore.entryName_eq_iff.mp hname
    exact Source.keyBytes_inj (h.named r hr) (h.named r' hr') (h.digests r hr r' hr' hdigest)
  · exact entryName_of_same

end Undisturbed

structure Open (requests : List Request) (d : Directory) : Prop where
  place : d ≠ .file
  accepts : ∀ version tag p, .store version tag p ∈ requests → Accepts d tag p

theorem Undisturbed.isOpen (h : Undisturbed d requests) : Open requests d where
  place := h.place
  accepts version tag p hr := by
    have hfresh : d.get? (entryName p.source) = none :=
      h.fresh (.store version tag p) hr
    exact ⟨h.place,by simp [hfresh],h.temporary version tag p hr⟩

theorem get?_perform_store (dir : String) (version : UInt16) (h : Accepts d tag p) (name : String) :
    (perform dir d (.store version tag p)).get? name =
      if name = entryName p.source then some (.file (p.encode version))
      else if name = temporaryName p.source tag then none else d.get? name :=
  get?_store ⟨dir, version⟩ h name

theorem directory_of_perform (h : Open requests d) (hr : r ∈ requests) {name : String}
    (hname : (perform dir d r).get? name = some .directory) :
    d.get? name = some .directory := by
  cases r with
  | store version tag p =>
    rw [get?_perform_store dir version (h.accepts version tag p hr)] at hname
    split_ifs at hname
    · cases hname
    · exact hname
  | load version source =>
    by_cases hstale : Stale d version source
    · rw [perform, load_of_stale _ hstale, Directory.get?_remove] at hname
      split_ifs at hname
      exact hname
    · rwa [perform, load_of_not_stale _ hstale] at hname

theorem Open.perform (h : Open requests d) (hr : r ∈ requests) :
    Open requests (perform dir d r) := by
  have hplace : CacheStore.perform dir d r ≠ .file := by
    cases r with
    | store version tag p =>
      obtain ⟨entries,hstore,-⟩ :=
        store_of_accepts ⟨dir, version⟩ (h.accepts version tag p hr)
      rw [CacheStore.perform, hstore]
      nofun
    | load version source =>
      by_cases hstale : Stale d version source
      · rw [CacheStore.perform, load_of_stale _ hstale]
        exact Directory.remove_ne_file h.place _
      · rw [CacheStore.perform, load_of_not_stale _ hstale]
        exact h.place
  refine ⟨hplace,?_⟩
  intro version tag p hstore
  have haccepts := h.accepts version tag p hstore
  exact ⟨hplace,mt (directory_of_perform h hr) haccepts.target,
    mt (directory_of_perform h hr) haccepts.temporary⟩

structure Reflects (d : Directory) (past : List Request) (source : Source) : Prop where
  fits : ∀ version p, LastStored past source version p → p.Fits
  kept : ∀ version p, LastStored past source version p → p.depth ≤ Format.maxNesting →
    d.get? (entryName source) = some (.file (p.encode version))
  known : ∀ e, d.get? (entryName source) = some e →
    ∃ version p, LastStored past source version p ∧ e = .file (p.encode version)

theorem reflects_store (haccepts : Accepts d tag p) (hp : p.Fits)
    (hsame : p.source.Same source) :
    Reflects (perform dir d (.store version tag p)) (past ++ [.store version tag p]) source := by
  have hname : entryName source = entryName p.source := (entryName_of_same hsame).symm
  have hentry := get?_perform_store dir version haccepts (entryName source)
  rw [if_pos hname] at hentry
  have hlast {v : UInt16} {q : Program}
      (hq : LastStored (past ++ [.store version tag p]) source v q) : v = version ∧ q = p := by
    rcases lastStored_concat.mp hq with ⟨tag',hstore,-⟩ | ⟨-,hspares⟩
    · cases hstore
      exact ⟨rfl,rfl⟩
    · obtain ⟨same,hload⟩ := hspares hsame
      cases hload
  refine ⟨?_,?_,?_⟩
  · intro v q hq
    obtain ⟨-,rfl⟩ := hlast hq
    exact hp
  · intro v q hq _
    obtain ⟨rfl,rfl⟩ := hlast hq
    exact hentry
  · intro e he
    rw [hentry] at he
    cases he
    exact ⟨version,p,lastStored_concat.mpr (.inl ⟨tag,rfl,hsame⟩),rfl⟩

theorem Reflects.of_other (h : Reflects d past source) {d' : Directory}
    (hentry : d'.get? (entryName source) = d.get? (entryName source))
    (hother : ¬r.source.Same source) : Reflects d' (past ++ [r]) source := by
  have hlast (v : UInt16) (q : Program) :
      LastStored (past ++ [r]) source v q ↔ LastStored past source v q := by
    rw [lastStored_concat]
    constructor
    · rintro (⟨tag,rfl,hsame⟩ | ⟨hlast,-⟩)
      · exact absurd hsame hother
      · exact hlast
    · exact fun hlast => .inr ⟨hlast,fun hsame => absurd hsame hother⟩
  refine ⟨fun v q hq => h.fits v q ((hlast v q).mp hq),?_,?_⟩
  · intro v q hq hdepth
    rw [hentry, h.kept v q ((hlast v q).mp hq) hdepth]
  · intro e he
    obtain ⟨v,q,hq,rfl⟩ := h.known e (hentry ▸ he)
    exact ⟨v,q,(hlast v q).mpr hq,rfl⟩

theorem Reflects.decode (h : Reflects d past source) {bytes : List UInt8}
    (hentry : d.get? (entryName source) = some (.file bytes))
    (hlast : LastStored past source version p) (hdepth : p.depth ≤ Format.maxNesting) :
    Program.decode bytes version = .ok (p.withSource p.source) := by
  rw [h.kept version p hlast hdepth] at hentry
  cases hentry
  exact (h.fits version p hlast).decode_encode hdepth version

theorem Reflects.load (h : Reflects d past source) {other : Source}
    (hsame : other.Same source) :
    Reflects (perform dir d (.load version other)) (past ++ [.load version other]) source := by
  have hname : entryName other = entryName source := entryName_of_same hsame
  have hlast (v : UInt16) (q : Program) :
      LastStored (past ++ [.load version other]) source v q ↔
        LastStored past source v q ∧ version = v := by
    rw [lastStored_concat]
    constructor
    · rintro (⟨tag,hstore,-⟩ | ⟨hlast,hspares⟩)
      · cases hstore
      · obtain ⟨same,hload⟩ := hspares hsame
        cases hload
        exact ⟨hlast,rfl⟩
    · rintro ⟨hlast,rfl⟩
      exact .inr ⟨hlast,fun _ => ⟨other,rfl⟩⟩
  have hfits (v : UInt16) (q : Program)
      (hq : LastStored (past ++ [.load version other]) source v q) : q.Fits :=
    h.fits v q ((hlast v q).mp hq).1
  by_cases hstale : Stale d version other
  · have hgone : (perform dir d (.load version other)).get? (entryName source) = none := by
      rw [perform, load_of_stale _ hstale, Directory.get?_remove, if_pos hname.symm]
    refine ⟨hfits,?_,?_⟩
    · intro v q hq hdepth
      -- A program that can be read at this version is not taken away.
      obtain ⟨hq,rfl⟩ := (hlast v q).mp hq
      obtain ⟨bytes,e,hentry,hread⟩ := hstale
      rw [h.decode (hname ▸ hentry) hq hdepth] at hread
      cases hread
    · intro e he
      rw [hgone] at he
      cases he
  · have hsaved : perform dir d (.load version other) = d := load_of_not_stale _ hstale
    rw [hsaved]
    refine ⟨hfits,?_,?_⟩
    · intro v q hq hdepth
      exact h.kept v q ((hlast v q).mp hq).1 hdepth
    · intro e he
      obtain ⟨v,q,hq,rfl⟩ := h.known e he
      refine ⟨v,q,(hlast v q).mpr ⟨hq,?_⟩,rfl⟩
      cases hread : Program.decode (q.encode v) version with
      | ok read => exact (Program.version_of_decode_encode hread).symm
      | error e => exact absurd ⟨_,e,hname ▸ he,hread⟩ hstale

theorem Reflects.perform (hrequests : Undisturbed initial requests) (hopen : Open requests d)
    (hr : r ∈ requests) (hr' : r' ∈ requests) (h : Reflects d past r'.source) :
    Reflects (perform dir d r) (past ++ [r]) r'.source := by
  by_cases hsame : r.source.Same r'.source
  · cases r with
    | store version tag p =>
      exact reflects_store (hopen.accepts version tag p hr) (hrequests.fits version tag p hr) hsame
    | load version source => exact h.load hsame
  · have hname : entryName r'.source ≠ entryName r.source := by
      intro heq
      exact hsame ((hrequests.entryName_eq_iff hr hr').mp heq.symm)
    refine h.of_other ?_ hsame
    cases r with
    | store version tag p =>
      have htemporary := (temporaryName_ne_entryName p.source r'.source tag).symm
      have hne : entryName r'.source ≠ entryName p.source := hname
      rw [get?_perform_store dir version (hopen.accepts version tag p hr), if_neg hne,
        if_neg htemporary]
    | load version source => exact load_entry_of_ne hname

theorem Undisturbed.reflects (h : Undisturbed d requests) (dir : String)
    (hpast : ∀ r ∈ past, r ∈ requests) (hr : r ∈ requests) :
    Open requests (after dir d past) ∧ Reflects (after dir d past) past r.source := by
  -- Each request acts on what those before it left, so the history grows at its end.
  induction past using List.reverseRecOn with
  | nil =>
    refine ⟨h.isOpen,?_⟩
    have hnever (v : UInt16) (q : Program) : ¬LastStored [] r.source v q := by
      rintro ⟨before,tag,rest,hnil,-⟩
      simp at hnil
    refine ⟨fun v q hq => absurd hq (hnever v q),fun v q hq => absurd hq (hnever v q),?_⟩
    · intro e he
      rw [after, List.foldl_nil, h.fresh r hr] at he
      cases he
  | append_singleton past last ih =>
    rw [List.forall_mem_append, List.forall_mem_singleton] at hpast
    obtain ⟨hpast,hlast⟩ := hpast
    obtain ⟨hopen,hreflects⟩ := ih hpast
    rw [after, List.foldl_concat]
    exact ⟨hopen.perform hlast,Reflects.perform h hopen hlast hr hreflects⟩

theorem Reflects.answer (h : Reflects d past source) (hplace : d ≠ .file) (handle : CacheStore) :
    ∃ found, (handle.load d source).2 = .ok found ∧ ∀ q, found = some q ↔
      ∃ p, LastStored past source handle.version p ∧ p.depth ≤ Format.maxNesting ∧
        q = p.withSource p.source := by
  cases hentry : d.get? (entryName source) with
  | none =>
    refine ⟨none,by rw [load_of_none hplace hentry],?_⟩
    intro q
    constructor
    · nofun
    · rintro ⟨p,hlast,hdepth,-⟩
      rw [h.kept _ p hlast hdepth] at hentry
      cases hentry
  | some e =>
    obtain ⟨v,p,hlast,rfl⟩ := h.known e hentry
    cases hread : Program.decode (p.encode v) handle.version with
    | ok read =>
      obtain ⟨hv,hdepth,rfl⟩ := (h.fits v p hlast).decode_encode_eq_ok_iff.mp hread
      subst hv
      have hsame : matchesSource (p.withSource p.source) source = true := by
        obtain ⟨-,-,-,-,hsame,-⟩ := hlast
        rwa [matchesSource_iff, Program.withSource_source]
      refine ⟨some (p.withSource p.source),by rw [load_of_decode hentry hread, if_pos hsame],?_⟩
      intro q
      constructor
      · intro hq
        exact ⟨p,hlast,hdepth,(Option.some.inj hq).symm⟩
      · rintro ⟨p',hlast',hdepth',rfl⟩
        rw [h.decode hentry hlast' hdepth'] at hread
        rw [Except.ok.inj hread]
    | error e =>
      refine ⟨none,by rw [load_of_error hentry hread],?_⟩
      intro q
      constructor
      · nofun
      · rintro ⟨p',hlast',hdepth',-⟩
        rw [h.decode hentry hlast' hdepth'] at hread
        cases hread

theorem entries_follow_history (dir : String) :
    (∀ d past version source, Undisturbed d (past ++ [.load version source]) →
      ∃ found, (load ⟨dir, version⟩ (after dir d past) source).2 = .ok found ∧
        ∀ q, found = some q ↔ ∃ p, LastStored past source version p ∧
          p.depth ≤ Format.maxNesting ∧ q = p.withSource p.source) ∧
    (∀ d past version tag p, Undisturbed d (past ++ [.store version tag p]) →
      (store ⟨dir, version⟩ tag none (after dir d past) p).2 = .ok (entryName p.source)) ∧
    (∀ d version source,
      (Stale d version source → (load ⟨dir, version⟩ d source).2 = .ok none ∧
        ∀ name, (load ⟨dir, version⟩ d source).1.get? name =
          if name = entryName source then none else d.get? name) ∧
      (¬Stale d version source → (load ⟨dir, version⟩ d source).1 = d) ∧
      ∀ q, (load ⟨dir, version⟩ d source).2 = .ok (some q) → q.source.Same source) ∧
    ∀ d version tag p, Accepts d tag p →
      (∀ name, (store ⟨dir, version⟩ tag none d p).1.get? name =
        if name = entryName p.source then some (.file (p.encode version))
        else if name = temporaryName p.source tag then none else d.get? name) ∧
      ∀ source, temporaryName p.source tag ≠ entryName source := by
  refine ⟨?_,?_,?_,?_⟩
  · intro d past version source h
    have hmem : Request.load version source ∈ past ++ [.load version source] := by simp
    obtain ⟨hopen,hreflects⟩ := h.reflects dir (fun r hr => List.mem_append_left _ hr) hmem
    exact hreflects.answer hopen.place ⟨dir, version⟩
  · intro d past version tag p h
    have hmem : Request.store version tag p ∈ past ++ [.store version tag p] := by simp
    obtain ⟨hopen,-⟩ := h.reflects dir (fun r hr => List.mem_append_left _ hr) hmem
    obtain ⟨entries,hstore,-⟩ :=
      store_of_accepts ⟨dir, version⟩ (hopen.accepts version tag p hmem)
    rw [hstore]
  · intro d version source
    refine ⟨?_,load_of_not_stale ⟨dir, version⟩,fun q => same_of_load⟩
    intro hstale
    rw [load_of_stale _ hstale]
    exact ⟨rfl,d.get?_remove (entryName source)⟩
  · intro d version tag p h
    refine ⟨get?_perform_store dir version h,?_⟩
    intro source
    exact temporaryName_ne_entryName p.source source tag

def twoSources : List Request :=
  [.store 1 "0" Program.lookup, .store 2 "0" (Program.lookup.withSource Program.outerSource),
    .load 2 Program.outerSource]

theorem entries_follow_history_twoSources :
    let missed := twoSources ++ [.load 2 Program.lookup.source]
    Undisturbed .absent (missed ++ [.load 1 Program.lookup.source]) ∧
    (load ⟨"cache", 1⟩ (after "cache" .absent twoSources) Program.lookup.source).2 =
      .ok (some Program.lookup) ∧
    (load ⟨"cache", 1⟩ (after "cache" .absent missed) Program.lookup.source).2 = .ok none := by
  intro missed
  have hwhole : Undisturbed .absent (missed ++ [.load 1 Program.lookup.source]) := by
    refine ⟨nofun,fun _ _ => rfl,fun _ _ _ _ => nofun,?_,by decide,by decide +kernel⟩
    intro version tag p hstore
    simp only [missed, twoSources, List.mem_append, List.mem_cons, List.not_mem_nil,
      Request.store.injEq, reduceCtorEq, or_false] at hstore
    rcases hstore with ⟨-,-,rfl⟩ | ⟨-,-,rfl⟩ <;> decide
  have hanswer := (entries_follow_history "cache").1
  refine ⟨hwhole,?_,?_⟩
  · obtain ⟨found,hload,hfound⟩ :=
      hanswer .absent twoSources 1 Program.lookup.source (hwhole.mono (by simp [missed]))
    have hlast : LastStored twoSources Program.lookup.source 1 Program.lookup := by
      refine ⟨[],"0",_,rfl,⟨rfl,rfl⟩,?_⟩
      simp [Request.Spares, Request.source, Source.Same, Program.lookup, Program.outerSource]
    have hshared : Program.lookup.withSource Program.lookup.source = Program.lookup := rfl
    rw [hload, (hfound Program.lookup).mpr ⟨Program.lookup,hlast,by decide,hshared.symm⟩]
  · obtain ⟨found,hload,hfound⟩ := hanswer .absent missed 1 Program.lookup.source hwhole
    rw [hload]
    cases found with
    | none => rfl
    | some q =>
      obtain ⟨p,hlast,-,-⟩ := (hfound q).mp rfl
      rcases lastStored_concat.mp hlast with ⟨tag,hstore,-⟩ | ⟨-,hspares⟩
      · cases hstore
      · obtain ⟨same,hsame⟩ := hspares ⟨rfl,rfl⟩
        cases hsame

end ScriptCache.CacheStore
