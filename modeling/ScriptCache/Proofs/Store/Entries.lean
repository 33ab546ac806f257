import ScriptCache.Proofs.Codec.Blame
import ScriptCache.Proofs.Store.EntryNames

namespace ScriptCache

namespace Catalog

theorem get?_cons (key name : String) (e : Entry) (rest : Catalog) :
    get? ((key, e) :: rest) name = if name = key then some e else rest.get? name := by
  by_cases h : name = key
  · simp [get?, h]
  · simp [get?, List.lookup_cons, h, beq_false_of_ne h]

theorem get?_put (c : Catalog) (name other : String) (e : Entry) :
    (c.put name e).get? other = if other = name then some e else c.get? other := by
  induction c with
  | nil => exact get?_cons name other e []
  | cons first rest ih =>
    obtain ⟨key,x⟩ := first
    rw [put]
    by_cases hbefore : name < key
    · rw [if_pos hbefore]
      exact get?_cons name other e _
    · rw [if_neg hbefore]
      by_cases hsame : name = key
      · rw [if_pos hsame, get?_cons, get?_cons, hsame]
        by_cases h : other = key <;> simp [h]
      · rw [if_neg hsame, get?_cons, get?_cons, ih]
        by_cases h : other = key
        · simp [h, Ne.symm hsame]
        · simp [h]

theorem get?_erase (c : Catalog) (name other : String) :
    get? (Catalog.erase c name) other = if other = name then none else c.get? other := by
  induction c with
  | nil => simp [Catalog.erase, get?]
  | cons first rest ih =>
    obtain ⟨key,x⟩ := first
    by_cases h : key = name
    · have hskip : Catalog.erase ((key, x) :: rest) name = Catalog.erase rest name := by
        simp [Catalog.erase, h]
      rw [hskip, ih, get?_cons, h]
      by_cases hother : other = name <;> simp [hother]
    · have hkeep : Catalog.erase ((key, x) :: rest) name =
          (key, x) :: Catalog.erase rest name := by
        simp [Catalog.erase, h]
      rw [hkeep, get?_cons, get?_cons, ih]
      by_cases hother : other = key
      · simp [hother, h]
      · simp [hother]

theorem write_eq_ok {c : Catalog} {name : String} (h : c.get? name ≠ some .directory)
    (bytes : List UInt8) : c.write name bytes = .ok (c.put name (.file bytes)) := by
  unfold write
  split
  · rename_i hdirectory
    exact absurd hdirectory h
  · rfl

theorem rename_eq_ok {c : Catalog} {source target : String} {e : Entry}
    (hsource : c.get? source = some e) (htarget : c.get? target ≠ some .directory) :
    c.rename source target = .ok ((Catalog.erase c source).put target e) := by
  unfold rename
  rw [hsource]
  split
  · rename_i hnone
    cases hnone
  · rename_i hdirectory
    exact absurd hdirectory htarget
  · rename_i hentry _
    cases hentry
    rfl

end Catalog

namespace Directory

def get? : Directory → String → Option Entry
  | .holding entries, name => entries.get? name
  | _, _ => none

variable {d : Directory}

theorem get?_remove (d : Directory) (name other : String) :
    (d.remove name).get? other = if other = name then none else d.get? other := by
  cases d with
  | holding entries => exact entries.get?_erase name other
  | _ => simp [remove, get?]

theorem remove_ne_file (h : d ≠ .file) (name : String) : d.remove name ≠ .file := by
  cases d <;> simp_all [remove]

theorem read_of_none (hd : d ≠ .file) {name : String} (h : d.get? name = none) :
    d.read name = .error .notFound := by
  cases d with
  | absent => rfl
  | file => exact absurd rfl hd
  | holding entries =>
    change entries.get? name = none at h
    rw [read, h]

theorem read_of_some {name : String} {e : Entry} (h : d.get? name = some e) :
    d.read name = e.read := by
  cases d with
  | holding entries =>
    change entries.get? name = some e at h
    rw [read, h]
  | _ => cases h

theorem read_eq_ok_iff {name : String} {bytes : List UInt8} :
    d.read name = .ok bytes ↔ d.get? name = some (.file bytes) := by
  constructor
  · intro h
    cases d with
    | holding entries =>
      change entries.get? name = _
      rw [read] at h
      cases hentry : entries.get? name with
      | none =>
        rw [hentry] at h
        cases h
      | some e =>
        rw [hentry] at h
        cases e with
        | file content =>
          cases h
          rfl
        | directory => cases h
    | _ => cases h
  · exact read_of_some

theorem exists_create (h : d ≠ .file) :
    ∃ c, d.create = .ok c ∧ ∀ name, c.get? name = d.get? name := by
  cases d with
  | absent => exact ⟨[],rfl,fun _ => rfl⟩
  | file => exact absurd rfl h
  | holding entries => exact ⟨entries,rfl,fun _ => rfl⟩

end Directory

namespace CacheStore

variable {store : CacheStore} {d : Directory} {source : Source} {bytes : List UInt8}

theorem matchesSource_iff {p : Program} : matchesSource p source = true ↔ p.source.Same source := by
  simp [matchesSource, Source.Same]

theorem load_of_none (hd : d ≠ .file) (h : d.get? (entryName source) = none) :
    store.load d source = (d, .ok none) := by
  rw [load, Directory.read_of_none hd h]

theorem load_of_decode {p : Program} (h : d.get? (entryName source) = some (.file bytes))
    (hread : Program.decode bytes store.version = .ok p) :
    store.load d source = (d, .ok (if matchesSource p source then some p else none)) := by
  rw [load, Directory.read_eq_ok_iff.mpr h]
  simp only [hread]

theorem load_of_error {e : CacheError} (h : d.get? (entryName source) = some (.file bytes))
    (hread : Program.decode bytes store.version = .error e) :
    store.load d source = (d.remove (entryName source), .ok none) := by
  have hmends : e.isRecoverable = true := by
    cases e with
    | io cause => exact absurd hread (Program.decode_ne_io cause)
    | _ => rfl
  rw [load, Directory.read_eq_ok_iff.mpr h]
  simp only [hread, hmends, if_true]

theorem load_of_no_file (h : ∀ bytes, d.get? (entryName source) ≠ some (.file bytes)) :
    (store.load d source).1 = d ∧ ∀ q, (store.load d source).2 ≠ .ok (some q) := by
  cases hread : d.read (entryName source) with
  | ok bytes => exact absurd (Directory.read_eq_ok_iff.mp hread) (h bytes)
  | error kind => cases kind <;> simp [load, hread]

def Stale (d : Directory) (version : UInt16) (source : Source) : Prop :=
  ∃ bytes e, d.get? (entryName source) = some (.file bytes) ∧
    Program.decode bytes version = .error e

theorem load_of_stale (store : CacheStore) (h : Stale d store.version source) :
    store.load d source = (d.remove (entryName source), .ok none) := by
  obtain ⟨bytes,e,hentry,hread⟩ := h
  exact load_of_error hentry hread

theorem load_of_not_stale (store : CacheStore) (h : ¬Stale d store.version source) :
    (store.load d source).1 = d := by
  by_cases hfile : ∃ bytes, d.get? (entryName source) = some (.file bytes)
  · obtain ⟨bytes,hentry⟩ := hfile
    cases hread : Program.decode bytes store.version with
    | ok p => rw [load_of_decode hentry hread]
    | error e => exact absurd ⟨bytes,e,hentry,hread⟩ h
  · exact (load_of_no_file (not_exists.mp hfile)).1

theorem load_entry_of_ne {name : String} (h : name ≠ entryName source) :
    (store.load d source).1.get? name = d.get? name := by
  by_cases hstale : Stale d store.version source
  · rw [load_of_stale store hstale, Directory.get?_remove, if_neg h]
  · rw [load_of_not_stale store hstale]

theorem same_of_load {q : Program} (h : (store.load d source).2 = .ok (some q)) :
    q.source.Same source := by
  by_cases hfile : ∃ bytes, d.get? (entryName source) = some (.file bytes)
  · obtain ⟨bytes,hentry⟩ := hfile
    cases hread : Program.decode bytes store.version with
    | ok p =>
      rw [load_of_decode hentry hread] at h
      split at h
      · rename_i hmatch
        cases h
        exact matchesSource_iff.mp hmatch
      · cases h
    | error e =>
      rw [load_of_error hentry hread] at h
      cases h
  · exact absurd h ((load_of_no_file (not_exists.mp hfile)).2 q)

structure Accepts (d : Directory) (tag : String) (p : Program) : Prop where
  place : d ≠ .file
  target : d.get? (entryName p.source) ≠ some .directory
  temporary : d.get? (temporaryName p.source tag) ≠ some .directory

theorem store_of_accepts (store : CacheStore) {tag : String} {p : Program} (h : Accepts d tag p) :
    ∃ entries, store.store tag none d p = (.holding entries, .ok (entryName p.source)) ∧
      ∀ name, entries.get? name =
        if name = entryName p.source then some (.file (p.encode store.version))
        else if name = temporaryName p.source tag then none else d.get? name := by
  let target := entryName p.source
  let temporary := temporaryName p.source tag
  have hne : target ≠ temporary := (temporaryName_ne_entryName p.source p.source tag).symm
  obtain ⟨before,hcreate,hbefore⟩ := Directory.exists_create h.place
  have hwrite := Catalog.write_eq_ok (by rw [hbefore]; exact h.temporary) (p.encode store.version)
  let written := before.put temporary (.file (p.encode store.version))
  have hsource : written.get? temporary = some (.file (p.encode store.version)) := by
    rw [Catalog.get?_put, if_pos rfl]
  have htarget : written.get? target ≠ some .directory := by
    rw [Catalog.get?_put, if_neg hne, hbefore]
    exact h.target
  have hrename := Catalog.rename_eq_ok hsource htarget
  let renamed := (written.erase temporary).put target (.file (p.encode store.version))
  refine ⟨renamed,?_,?_⟩
  · rw [CacheStore.store, if_neg nofun, hcreate]
    simp only [hwrite, reduceCtorEq, if_false]
    rw [hrename]
  · intro name
    change Catalog.get? (Catalog.put _ _ _) name = _
    rw [Catalog.get?_put, Catalog.get?_erase, Catalog.get?_put, hbefore]
    split_ifs <;> rfl

theorem get?_store (store : CacheStore) {tag : String} {p : Program} (h : Accepts d tag p)
    (name : String) : (store.store tag none d p).1.get? name =
      if name = entryName p.source then some (.file (p.encode store.version))
      else if name = temporaryName p.source tag then none else d.get? name := by
  obtain ⟨entries,hstore,hentries⟩ := store_of_accepts store h
  rw [hstore]
  exact hentries name

end CacheStore

end ScriptCache
