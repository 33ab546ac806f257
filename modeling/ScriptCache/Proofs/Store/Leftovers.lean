import Mathlib
import ScriptCache.Proofs.Codec.RoundTrip
import ScriptCache.Proofs.Store.Entries

namespace ScriptCache.CacheStore

variable {handle : CacheStore} {tag : String} {fault : Option StoreFault} {d d' : Directory}
  {p : Program} {e : StoreError}

def leftover (handle : CacheStore) (d : Directory) (p : Program) : Option StoreFault → Option Entry
  | some (.writing n) =>
      if d = .file then none else some (.file ((p.encode handle.version).take n))
  | _ => none

theorem store_on_file (handle : CacheStore) (tag : String) (fault : Option StoreFault)
    (p : Program) : (handle.store tag fault .file p).1 = .file := by
  unfold CacheStore.store
  split <;> rfl

theorem store_without_directory (handle : CacheStore) (tag : String) (d : Directory) (p : Program) :
    (handle.store tag (some .directory) d p).1 = d := by
  rw [CacheStore.store, if_pos rfl]

theorem get?_erase_put {c : Catalog} {name : String} (h : c.get? name = none) (entry : Entry)
    (other : String) : Catalog.get? (Catalog.erase (c.put name entry) name) other = c.get? other := by
  rw [Catalog.get?_erase, Catalog.get?_put]
  split_ifs with hname
  · rw [hname, h]
  · rfl

theorem write_of_fresh {c : Catalog} {name : String} (h : c.get? name = none)
    (bytes : List UInt8) : c.write name bytes = .ok (c.put name (.file bytes)) := by
  refine Catalog.write_eq_ok ?_ bytes
  simp [h]

theorem store_not_renaming (handle : CacheStore) {c : Catalog} (hcreate : d.create = .ok c)
    (hfresh : c.get? (temporaryName p.source tag) = none) :
    handle.store tag (some .renaming) d p =
      (.holding (Catalog.erase
          (c.put (temporaryName p.source tag) (.file (p.encode handle.version)))
          (temporaryName p.source tag)),
        .error (.io .interrupted)) := by
  rw [CacheStore.store, if_neg (by simp), hcreate]
  simp only [write_of_fresh hfresh, if_true]

theorem get?_of_rename_error {c : Catalog} (hcreate : d.create = .ok c)
    (hfresh : c.get? (temporaryName p.source tag) = none)
    (hfault : fault = none ∨ fault = some .renaming)
    (h : (handle.store tag fault d p).2 = .error e) (name : String) :
    (handle.store tag fault d p).1.get? name = c.get? name := by
  have hwrite := write_of_fresh hfresh (p.encode handle.version)
  have herased := get?_erase_put hfresh (.file (p.encode handle.version)) name
  rcases hfault with rfl | rfl
  · rw [CacheStore.store, if_neg (by simp), hcreate] at h ⊢
    simp only [hwrite, reduceCtorEq, if_false] at h ⊢
    split at h
    · exact herased
    · cases h
  · rw [store_not_renaming handle hcreate hfresh]
    exact herased

theorem get?_of_write_error (handle : CacheStore) {c : Catalog} (hcreate : d.create = .ok c)
    (hfresh : c.get? (temporaryName p.source tag) = none) (n : Nat) (name : String) :
    (handle.store tag (some (.writing n)) d p).1.get? name =
      if name = temporaryName p.source tag then some (.file ((p.encode handle.version).take n))
      else c.get? name := by
  have hwrite := write_of_fresh hfresh ((p.encode handle.version).take n)
  rw [CacheStore.store, if_neg (by simp), hcreate]
  simp only [hwrite]
  exact Catalog.get?_put c _ name _

theorem get?_of_failed (hfresh : d.get? (temporaryName p.source tag) = none)
    (h : (handle.store tag fault d p).2 = .error e) (name : String) :
    (handle.store tag fault d p).1.get? name =
      if name = temporaryName p.source tag then leftover handle d p fault else d.get? name := by
  have hsame (hnone : leftover handle d p fault = none) :
      (if name = temporaryName p.source tag then leftover handle d p fault else d.get? name) =
        d.get? name := by
    split_ifs with hname
    · rw [hname, hfresh, hnone]
    · rfl
  by_cases hplace : d = .file
  · subst hplace
    rw [store_on_file, hsame]
    cases fault with
    | none => rfl
    | some f => cases f <;> simp [leftover]
  · obtain ⟨c,hcreate,hc⟩ := Directory.exists_create hplace
    rw [← hc] at hfresh
    rw [← hc name] at hsame ⊢
    cases fault with
    | none => rw [hsame rfl, get?_of_rename_error hcreate hfresh (.inl rfl) h]
    | some f =>
      cases f with
      | directory => rw [hsame rfl, store_without_directory, hc]
      | writing n => rw [get?_of_write_error handle hcreate hfresh, leftover, if_neg hplace]
      | _ => rw [hsame rfl, get?_of_rename_error hcreate hfresh (.inr rfl) h]

theorem failed_store_leaves (hfresh : d.get? (temporaryName p.source tag) = none)
    (h : (handle.store tag fault d p).2 = .error e) :
    let after := (handle.store tag fault d p).1
    (∀ name entry, d.get? name = some entry → after.get? name = some entry) ∧
    (∀ name entry, d.get? name = none → after.get? name = some entry →
      name = temporaryName p.source tag ∧ ∃ n, fault = some (.writing n) ∧
        entry = .file ((p.encode handle.version).take n)) ∧
    ∀ n, fault = some (.writing n) → d ≠ .file →
      after.get? (temporaryName p.source tag) =
        some (.file ((p.encode handle.version).take n)) := by
  intro after
  have hafter (name : String) := get?_of_failed hfresh h name
  refine ⟨?_,?_,?_⟩
  · intro name entry hentry
    have hname : name ≠ temporaryName p.source tag := by
      rintro rfl
      rw [hfresh] at hentry
      cases hentry
    exact (hafter name).trans (by rw [if_neg hname, hentry])
  · intro name entry hnone hentry
    have hadded := (hafter name).symm.trans hentry
    split_ifs at hadded with hname
    · refine ⟨hname,?_⟩
      unfold leftover at hadded
      split at hadded
      · rename_i n
        split_ifs at hadded
        exact ⟨n,rfl,(Option.some.inj hadded).symm⟩
      · cases hadded
    · rw [hnone] at hadded
      cases hadded
  · rintro n rfl hplace
    rw [hafter, if_pos rfl, leftover, if_neg hplace]

def outdated : Directory :=
  .holding [(entryName Program.lookup.source, .file [1, 2, 3])]

theorem get?_outdated (name : String) :
    outdated.get? name = if name = entryName Program.lookup.source then some (.file [1, 2, 3])
      else none :=
  Catalog.get?_put [] (entryName Program.lookup.source) name (.file [1, 2, 3])

theorem failed_store_leaves_renaming :
    let result := store ⟨"cache", 1⟩ "0" (some .renaming) outdated Program.lookup
    result.2 = .error (.io .interrupted) ∧
    result.1.get? (entryName Program.lookup.source) = some (.file [1, 2, 3]) ∧
    ∀ name, name ≠ entryName Program.lookup.source → result.1.get? name = none := by
  intro result
  have hfresh : outdated.get? (temporaryName Program.lookup.source "0") = none := by
    rw [get?_outdated, if_neg (temporaryName_ne_entryName _ _ _)]
  have hfailed : result.2 = .error (.io .interrupted) :=
    congrArg Prod.snd (store_not_renaming ⟨"cache", 1⟩ rfl hfresh)
  obtain ⟨hkept,hadded,-⟩ := failed_store_leaves hfresh hfailed
  refine ⟨hfailed,hkept _ _ (by rw [get?_outdated, if_pos rfl]),?_⟩
  intro name hname
  cases hentry : result.1.get? name with
  | none => rfl
  | some entry =>
    obtain ⟨-,n,hwriting,-⟩ := hadded name entry (by rw [get?_outdated, if_neg hname]) hentry
    cases hwriting

theorem failed_write_leaves_file :
    let temporary := temporaryName Program.lookup.source "0"
    let result := store ⟨"cache", 1⟩ "0" (some (.writing 3)) .absent Program.lookup
    result.2 = .error (.io .interrupted) ∧ Directory.get? .absent temporary = none ∧
    result.1.get? temporary = some (.file [0xFF, 0xEE, 0xDD]) := by
  intro temporary result
  refine ⟨rfl,rfl,?_⟩
  have hfresh : Catalog.get? [] temporary = none := rfl
  have hbytes : (Program.lookup.encode 1).take 3 = [0xFF, 0xEE, 0xDD] := by decide
  rw [← hbytes]
  exact (get?_of_write_error ⟨"cache", 1⟩ rfl hfresh 3 temporary).trans (if_pos rfl)

end ScriptCache.CacheStore
