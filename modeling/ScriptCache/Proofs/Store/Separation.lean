import Mathlib
import ScriptCache.Proofs.Codec.RoundTrip
import ScriptCache.Proofs.Store.Entries

namespace ScriptCache

namespace CacheStore

variable {d d' : Directory} {tag tag' : String} {p q : Program} {s t : Source}

theorem key_eq_iff : s.key = t.key ↔ entryName s = entryName t := by
  simp only [entryName, String.append_left_inj]

theorem get?_store_other (store : CacheStore) (h : Accepts d tag p)
    (hs : entryName s ≠ entryName p.source) :
    (store.store tag none d p).1.get? (entryName s) = d.get? (entryName s) := by
  rw [get?_store store h, if_neg hs, if_neg (temporaryName_ne_entryName p.source s tag).symm]

theorem Accepts.after_store (store : CacheStore) (hp : Accepts d tag p) (hq : Accepts d tag' q) :
    Accepts (store.store tag none d p).1 tag' q := by
  have hplain {name : String} (h : d.get? name ≠ some .directory) :
      (store.store tag none d p).1.get? name ≠ some .directory := by
    rw [get?_store store hp]
    split_ifs
    · exact nofun
    · exact nofun
    · exact h
  refine ⟨?_,hplain hq.target,hplain hq.temporary⟩
  obtain ⟨entries,hstore,-⟩ := store_of_accepts store hp
  rw [hstore]
  exact nofun

theorem load_congr (store : CacheStore) (hd : d ≠ .file) (hd' : d' ≠ .file)
    (h : d.get? (entryName s) = d'.get? (entryName s)) :
    (store.load d s).2 = (store.load d' s).2 := by
  have hread : d.read (entryName s) = d'.read (entryName s) := by
    cases hentry : d.get? (entryName s) with
    | none =>
      rw [Directory.read_of_none hd hentry, Directory.read_of_none hd' (h.symm.trans hentry)]
    | some e =>
      rw [Directory.read_of_some hentry, Directory.read_of_some (h.symm.trans hentry)]
  cases hbytes : d.read (entryName s) with
  | error kind =>
    simp only [load, hbytes, ← hread]
    cases kind <;> rfl
  | ok bytes =>
    simp only [load, hbytes, ← hread]
    cases Program.decode bytes store.version with
    | ok p => rfl
    | error e => dsimp only; split <;> rfl

theorem load_of_stored (store : CacheStore) (hp : p.Fits) (hdepth : p.depth ≤ Format.maxNesting)
    (h : d.get? (entryName p.source) = some (.file (p.encode store.version))) :
    (store.load d p.source).2 = .ok (some (p.withSource p.source)) := by
  have hsame : matchesSource (p.withSource p.source) p.source = true := by
    rw [matchesSource_iff, Program.withSource_source]
    exact ⟨rfl,rfl⟩
  rw [load_of_decode h (hp.decode_encode hdepth store.version), if_pos hsame]

theorem other_entries_kept (store other : CacheStore)
    (hdigest : Sha256.digest p.source.keyBytes = Sha256.digest q.source.keyBytes →
      p.source.keyBytes = q.source.keyBytes) :
    (p.source.key = q.source.key ↔ p.source.Confused q.source) ∧
    (entryName p.source = entryName q.source ↔ p.source.Confused q.source) ∧
    ('\x00' ∉ p.source.name.toList → '\x00' ∉ q.source.name.toList →
      (p.source.Confused q.source ↔ p.source.Same q.source)) ∧
    (¬p.source.Confused q.source → Accepts d tag p → Accepts d tag' q →
      let stored := (store.store tag none d p).1
      let both := (other.store tag' none stored q).1
      both.get? (entryName p.source) = some (.file (p.encode store.version)) ∧
      (∀ handle : CacheStore,
        (handle.load both p.source).2 = (handle.load stored p.source).2) ∧
      (p.Fits → p.depth ≤ Format.maxNesting →
        (store.load both p.source).2 = .ok (some (p.withSource p.source)))) := by
  have hname : entryName p.source = entryName q.source ↔ p.source.Confused q.source := by
    rw [entryName_eq_iff, ← Source.keyBytes_eq_iff]
    exact ⟨hdigest,congrArg Sha256.digest⟩
  refine ⟨key_eq_iff.trans hname,hname,Source.confused_iff_same,?_⟩
  intro hapart hp hq stored both
  have hstored : Accepts stored tag' q := hp.after_store store hq
  have hkept : both.get? (entryName p.source) = stored.get? (entryName p.source) :=
    get?_store_other other hstored (mt hname.mp hapart)
  have hentry : both.get? (entryName p.source) = some (.file (p.encode store.version)) := by
    rw [hkept, get?_store store hp, if_pos rfl]
  have hplace : both ≠ .file := (hstored.after_store other hstored).place
  refine ⟨hentry,?_,fun hfits hdepth => load_of_stored store hfits hdepth hentry⟩
  intro handle
  exact load_congr handle hplace hstored.place hkept

theorem other_entries_kept_lookup :
    let q := Program.lookup.withSource Program.outerSource
    let stored := (store ⟨"cache", 1⟩ "0" none .absent Program.lookup).1
    let both := (store ⟨"cache", 2⟩ "0" none stored q).1
    (Sha256.digest Program.lookup.source.keyBytes = Sha256.digest q.source.keyBytes →
      Program.lookup.source.keyBytes = q.source.keyBytes) ∧
    ¬Program.lookup.source.Confused q.source ∧
    Accepts .absent "0" Program.lookup ∧ Accepts .absent "0" q ∧ Program.lookup.Fits ∧
    (load ⟨"cache", 1⟩ both Program.lookup.source).2 = .ok (some Program.lookup) := by
  intro q stored both
  have hdigest : Sha256.digest Program.lookup.source.keyBytes = Sha256.digest q.source.keyBytes →
      Program.lookup.source.keyBytes = q.source.keyBytes := by
    decide +kernel
  have hp : Accepts .absent "0" Program.lookup := ⟨nofun,nofun,nofun⟩
  have hq : Accepts .absent "0" q := ⟨nofun,nofun,nofun⟩
  have hfits : Program.lookup.Fits := by decide
  obtain ⟨-,-,hnames,hkept⟩ := other_entries_kept ⟨"cache", 1⟩ ⟨"cache", 2⟩ hdigest
  have hapart : ¬Program.lookup.source.Confused q.source := by
    rw [hnames (by decide) (by decide)]
    decide
  refine ⟨hdigest,hapart,hp,hq,hfits,?_⟩
  obtain ⟨-,-,hload⟩ := hkept hapart hp hq
  exact hload hfits (by decide)

def longerName : Program :=
  ⟨"long", ⟨"a\x00b", "c", 1, [0]⟩, [], [], []⟩

def longerText : Program :=
  ⟨"text", ⟨"a", "b\x00c", 3, [0]⟩, [], [], []⟩

theorem entries_clash :
    let stored := (store ⟨"cache", 1⟩ "0" none .absent longerName).1
    let both := (store ⟨"cache", 1⟩ "0" none stored longerText).1
    longerName.source.name ≠ longerText.source.name ∧
    longerName.source.text ≠ longerText.source.text ∧
    longerName.source.key = longerText.source.key ∧
    entryName longerName.source = entryName longerText.source ∧
    (load ⟨"cache", 1⟩ stored longerName.source).2 = .ok (some longerName) ∧
    (load ⟨"cache", 1⟩ both longerName.source).2 = .ok none := by
  intro stored both
  have hname : entryName longerName.source = entryName longerText.source :=
    entryName_eq_iff.mpr (congrArg Sha256.digest (by decide))
  have hfirst : Accepts .absent "0" longerName := ⟨nofun,nofun,nofun⟩
  have hsecond : Accepts stored "0" longerText :=
    hfirst.after_store ⟨"cache", 1⟩ ⟨nofun,nofun,nofun⟩
  refine ⟨by decide,by decide,key_eq_iff.mpr hname,hname,?_,?_⟩
  · have hentry : stored.get? (entryName longerName.source) =
        some (.file (longerName.encode 1)) := by
      rw [get?_store ⟨"cache", 1⟩ hfirst, if_pos rfl]
    exact load_of_stored ⟨"cache", 1⟩ (by decide) (by decide) hentry
  · have hentry : both.get? (entryName longerName.source) =
        some (.file (longerText.encode 1)) := by
      rw [get?_store ⟨"cache", 1⟩ hsecond, if_pos hname]
    have hfits : longerText.Fits := by decide
    have hload : load ⟨"cache", 1⟩ both longerName.source =
        (both, .ok (if matchesSource longerText longerName.source then some longerText else none)) :=
      load_of_decode hentry (hfits.decode_encode (by decide) 1)
    rw [hload]
    rfl

end CacheStore

end ScriptCache
