import ScriptCache.Bytecode.ConstantPool

namespace ScriptCache

/-- Scalars of one kind with the same content; floating-point numbers are told apart by their
bits. -/
inductive Constant.Identical : Constant → Constant → Prop
  | undefined : Identical .undefined .undefined
  | null : Identical .null .null
  | bool (b : Bool) : Identical (.bool b) (.bool b)
  | int (n : Int64) : Identical (.int n) (.int n)
  | float {x y : Double} (bits : x.bits = y.bits) : Identical (.float x) (.float y)
  | string (s : String) : Identical (.string s) (.string s)
  | regexp (pattern flags : String) : Identical (.regexp pattern flags) (.regexp pattern flags)

namespace Constant

variable {a b : Constant}

theorem identical_iff : a.Identical b ↔ a = b ∧ a.function? = none := by
  constructor
  · intro h
    cases h with
    | @float x y bits =>
      obtain ⟨_⟩ := x
      obtain ⟨_⟩ := y
      obtain rfl := bits
      exact ⟨rfl,rfl⟩
    | _ => exact ⟨rfl,rfl⟩
  · rintro ⟨rfl,hscalar⟩
    cases a with
    | undefined => exact .undefined
    | null => exact .null
    | bool b => exact .bool b
    | int n => exact .int n
    | float x => exact .float rfl
    | string s => exact .string s
    | regexp pattern flags => exact .regexp pattern flags
    | function p => cases hscalar

theorem sameScalar_iff_identical : a.sameScalar b = true ↔ a.Identical b := by
  rw [sameScalar_iff, identical_iff]

end Constant

namespace ConstantPool

inductive Step where
  | add (c : Constant)
  | push (c : Constant)
  | replace (index : ConstantIndex) (c : Constant)

namespace Step

def apply (pool : ConstantPool) : Step → ConstantPool
  | .add c => (ConstantPool.add pool c).1
  | .push c => (ConstantPool.push pool c).1
  | .replace index c => (ConstantPool.replace pool index c).1

def hands? (pool : ConstantPool) : Step → Option (ConstantIndex × Constant)
  | .add c => some ((ConstantPool.add pool c).2, c)
  | .push c => some ((ConstantPool.push pool c).2, c)
  | .replace _ _ => none

end Step

def after (pool : ConstantPool) (steps : List Step) : ConstantPool :=
  steps.foldl Step.apply pool

inductive Adds (pool : ConstantPool) (c : Constant) : ConstantPool × ConstantIndex → Prop
  | shared {index : ConstantIndex} {slot : Constant} (here : at? pool index = some slot)
      (same : slot.Identical c)
      (first : ∀ earlier < index, ∀ other, at? pool earlier = some other → ¬other.Identical c) :
      Adds pool c (pool, index)
  | appended {index : ConstantIndex} (fresh : ∀ slot ∈ pool, ¬slot.Identical c)
      (last : index.toNat = pool.length) : Adds pool c (pool ++ [c], index)

variable {pool start : ConstantPool} {c d : Constant} {index : ConstantIndex}
  {result : ConstantPool × ConstantIndex}

theorem mem_of_at? (h : at? pool index = some c) : c ∈ pool :=
  List.mem_of_getElem? h

theorem lt_length_of_at? (h : at? pool index = some c) : index.toNat < pool.length :=
  (List.getElem?_eq_some_iff.mp h).1

theorem at?_append (h : at? pool index = some c) (more : ConstantPool) :
    at? (pool ++ more) index = some c := by
  rw [at?, List.getElem?_append_left (lt_length_of_at? h)]
  exact h

theorem at?_concat (h : index.toNat = pool.length) (c : Constant) :
    at? (pool ++ [c]) index = some c := by
  rw [at?, h, List.getElem?_concat_length]

theorem at?_replace_self (pool : ConstantPool) (index : ConstantIndex) (d : Constant) :
    at? (replace pool index d).1 index = (at? pool index).map fun _ => d := by
  simp only [at?, replace, List.getElem?_set_self']
  rfl

theorem at?_replace_of_ne {other : ConstantIndex} (h : index ≠ other) (pool : ConstantPool)
    (d : Constant) : at? (replace pool index d).1 other = at? pool other :=
  List.getElem?_set_ne fun hsame => h (UInt32.toNat_inj.mp hsame)

theorem toNat_push (h : pool.length < UInt32.size) (c : Constant) :
    (push pool c).2.toNat = pool.length :=
  UInt32.toNat_ofNat_of_lt' h

theorem add_cases (pool : ConstantPool) (c : Constant) :
    (∃ i slot, add pool c = (pool, UInt32.ofNat i) ∧ pool[i]? = some slot ∧ slot.Identical c ∧
      ∀ j < i, ∀ other, pool[j]? = some other → ¬other.Identical c) ∨
    ((∀ slot ∈ pool, ¬slot.Identical c) ∧ add pool c = push pool c) := by
  unfold add
  split
  · rename_i i hfound
    obtain ⟨hsmall,hsame,hfirst⟩ := List.findIdx?_eq_some_iff_getElem.mp hfound
    refine .inl ⟨i,pool[i],rfl,List.getElem?_eq_getElem hsmall,
      Constant.sameScalar_iff_identical.mp hsame,?_⟩
    intro j hj other hother hidentical
    obtain ⟨hshort,rfl⟩ := List.getElem?_eq_some_iff.mp hother
    exact hfirst j hj (Constant.sameScalar_iff_identical.mpr hidentical)
  · rename_i hmissing
    refine .inr ⟨fun slot hslot hidentical => ?_,rfl⟩
    have hother := List.findIdx?_eq_none_iff.mp hmissing slot hslot
    rw [Constant.sameScalar_iff_identical.mpr hidentical] at hother
    cases hother

theorem adds_add (h : pool.length < UInt32.size) (c : Constant) : Adds pool c (add pool c) := by
  rcases add_cases pool c with ⟨i,slot,hadd,hslot,hsame,hfirst⟩ | ⟨hfresh,hadd⟩
  · have hsmall : i < pool.length := (List.getElem?_eq_some_iff.mp hslot).1
    have hword : (UInt32.ofNat i).toNat = i := UInt32.toNat_ofNat_of_lt' (Nat.lt_trans hsmall h)
    rw [hadd]
    refine .shared (?_ : at? pool _ = some slot) hsame ?_
    · rwa [at?, hword]
    · intro earlier hearlier other hother
      rw [UInt32.lt_iff_toNat_lt, hword] at hearlier
      exact hfirst _ hearlier other hother
  · rw [hadd]
    exact .appended hfresh (toNat_push h c)

theorem Adds.at?_eq (h : Adds pool c result) : at? result.1 result.2 = some c := by
  cases h with
  | shared here same first =>
    obtain ⟨rfl,-⟩ := Constant.identical_iff.mp same
    exact here
  | appended fresh last => exact at?_concat last c

theorem at?_apply {step : Step} (h : at? pool index = some c)
    (hother : ∀ d, step ≠ .replace index d) : at? (step.apply pool) index = some c := by
  cases step with
  | add d =>
    rcases add_cases pool d with ⟨i,slot,hadd,-⟩ | ⟨-,hadd⟩
    · rwa [Step.apply, hadd]
    · rw [Step.apply, hadd]
      exact at?_append h [d]
  | push d => exact at?_append h [d]
  | replace other d =>
    have hne : other ≠ index := by
      rintro rfl
      exact hother d rfl
    rwa [Step.apply, at?_replace_of_ne hne]

theorem at?_after {later : List Step} (h : at? pool index = some c)
    (hkept : ∀ d, .replace index d ∉ later) : at? (after pool later) index = some c := by
  induction later generalizing pool with
  | nil => exact h
  | cons step later ih =>
    apply ih
    · apply at?_apply h
      rintro d rfl
      exact hkept d List.mem_cons_self
    · exact fun d hd => hkept d (List.mem_cons_of_mem _ hd)

theorem at?_of_hands? {step : Step} (hsize : pool.length < UInt32.size)
    (h : step.hands? pool = some (index, c)) : at? (step.apply pool) index = some c := by
  cases step with
  | add d =>
    obtain ⟨rfl,rfl⟩ := Prod.mk.inj (Option.some.inj h)
    exact (adds_add hsize d).at?_eq
  | push d =>
    obtain ⟨rfl,rfl⟩ := Prod.mk.inj (Option.some.inj h)
    exact at?_concat (toNat_push hsize d) d
  | replace other d => cases h

theorem length_le_apply (pool : ConstantPool) (step : Step) :
    pool.length ≤ (step.apply pool).length := by
  cases step with
  | add c =>
    rcases add_cases pool c with ⟨i,slot,hadd,-⟩ | ⟨-,hadd⟩ <;> simp [Step.apply, hadd, push]
  | push c => simp [Step.apply, push]
  | replace index c => simp [Step.apply, replace]

theorem length_le_after (pool : ConstantPool) (steps : List Step) :
    pool.length ≤ (after pool steps).length := by
  induction steps generalizing pool with
  | nil => exact Nat.le_refl _
  | cons step steps ih => exact Nat.le_trans (length_le_apply pool step) (ih _)

def Distinct (pool : ConstantPool) : Prop :=
  pool.Pairwise fun a b => ¬a.Identical b

theorem Distinct.add (h : Distinct pool) (c : Constant) : Distinct (add pool c).1 := by
  rcases add_cases pool c with ⟨i,slot,hadd,-⟩ | ⟨hfresh,hadd⟩
  · rwa [hadd]
  · rw [hadd]
    simpa [Distinct, push, List.pairwise_append] using And.intro h hfresh

theorem Distinct.adds (h : Distinct pool) (cs : List Constant) :
    Distinct (after pool (cs.map .add)) := by
  induction cs generalizing pool with
  | nil => exact h
  | cons c cs ih => exact ih (h.add c)

theorem Distinct.index_eq {other : ConstantIndex} (h : Distinct pool) (hc : at? pool index = some c)
    (hd : at? pool other = some d) (hsame : c.Identical d) : index = other := by
  obtain ⟨rfl,-⟩ := Constant.identical_iff.mp hsame
  obtain ⟨hindex,hc⟩ := List.getElem?_eq_some_iff.mp hc
  obtain ⟨hother,hd⟩ := List.getElem?_eq_some_iff.mp hd
  apply UInt32.toNat_inj.mp
  rcases Nat.lt_trichotomy index.toNat other.toNat with hlt | heq | hgt
  · have hapart := List.pairwise_iff_getElem.mp h _ _ hindex hother hlt
    rw [hc, hd] at hapart
    exact absurd hsame hapart
  · exact heq
  · have hapart := List.pairwise_iff_getElem.mp h _ _ hother hindex hgt
    rw [hc, hd] at hapart
    exact absurd hsame hapart

theorem Distinct.add_eq_iff (h : Distinct pool) (hsize : pool.length < UInt32.size)
    (hc : at? pool index = some c) : index = (ConstantPool.add pool d).2 ↔ c.Identical d := by
  have hadds : Adds pool d (ConstantPool.add pool d) := adds_add hsize d
  generalize ConstantPool.add pool d = result at hadds
  cases hadds with
  | shared here same first =>
    constructor
    · rintro rfl
      rw [hc] at here
      cases here
      exact same
    · intro hsame
      obtain ⟨rfl,-⟩ := Constant.identical_iff.mp same
      exact h.index_eq hc here hsame
  | appended fresh last =>
    constructor
    · rintro rfl
      have hlt := lt_length_of_at? hc
      omega
    · intro hsame
      exact absurd hsame (fresh c (mem_of_at? hc))

theorem not_replace_mem_adds (cs : List Constant) (index : ConstantIndex) (d : Constant) :
    .replace index d ∉ cs.map Step.add := by
  simp

theorem constants_shared_and_kept (start : ConstantPool) (steps : List Step) :
    let pool := after start steps
    (pool.length < UInt32.size → ∀ c,
      Adds pool c (add pool c) ∧ at? (add pool c).1 (add pool c).2 = some c) ∧
    (∀ index c later, at? pool index = some c → (∀ d, .replace index d ∉ later) →
      at? (after pool later) index = some c) ∧
    (∀ index d, at? (replace pool index d).1 index = (at? pool index).map fun _ => d) ∧
    (pool.length < UInt32.size → ∀ step index c later, step.hands? pool = some (index, c) →
      (∀ d, .replace index d ∉ later) → at? (after pool (step :: later)) index = some c) ∧
    (∀ cs : List Constant, (after [] (cs.map .add)).Pairwise fun a b => ¬a.Identical b) ∧
    ∀ (before : List Constant) (c : Constant) (between : List Constant) (d : Constant),
      let early := after [] (before.map .add)
      let late := after early ((c :: between).map .add)
      late.length < UInt32.size → ((add early c).2 = (add late d).2 ↔ c.Identical d) := by
  intro pool
  have hempty : Distinct [] := .nil
  refine ⟨?_,?_,?_,?_,?_,?_⟩
  · intro hsize c
    exact ⟨adds_add hsize c,(adds_add hsize c).at?_eq⟩
  · intro index c later hhere hkept
    exact at?_after hhere hkept
  · intro index d
    exact at?_replace_self pool index d
  · intro hsize step index c later hhands hkept
    have hhere : at? (step.apply pool) index = some c := at?_of_hands? hsize hhands
    change at? (after (step.apply pool) later) index = some c
    exact at?_after hhere hkept
  · intro cs
    exact hempty.adds cs
  · intro before c between d early late hsize
    have hdistinct : Distinct late := (hempty.adds before).adds (c :: between)
    have hearly : early.length < UInt32.size :=
      Nat.lt_of_le_of_lt (length_le_after early ((c :: between).map .add)) hsize
    have hhere : at? (add early c).1 (add early c).2 = some c := (adds_add hearly c).at?_eq
    have hkept : at? late (add early c).2 = some c := by
      change at? (after (add early c).1 (between.map .add)) _ = some c
      exact at?_after hhere (not_replace_mem_adds between _)
    exact hdistinct.add_eq_iff hsize hkept

theorem constants_shared_and_kept_zeros :
    let zero := Constant.float (Double.zero false)
    let negative := Constant.float (Double.zero true)
    let nan := Constant.float (Double.nan false)
    let pool := after [] [.push zero, .push .undefined]
    let later : List Step := [.add negative, .replace 1 (.int 0)]
    pool.length < UInt32.size ∧ (∀ d, .replace 0 d ∉ later) ∧ (∀ d, .replace 2 d ∉ later) ∧
      Adds pool zero (add pool zero) ∧ at? (after pool later) 0 = some zero ∧
      at? (after pool (.push nan :: later)) 2 = some nan ∧
      (after [] [.add nan, .add (.int 0)]).length < UInt32.size ∧
      (add [] nan).2 = (add (after [] [.add nan, .add (.int 0)]) nan).2 := by
  intro zero negative nan pool later
  have hsize : pool.length < UInt32.size := by decide
  have hmixed : (after [] [.add nan, .add (.int 0)]).length < UInt32.size := by decide
  have hfirst : ∀ d, .replace 0 d ∉ later := by simp [later]
  have hlast : ∀ d, .replace 2 d ∉ later := by simp [later]
  obtain ⟨hadd,hkept,-,hhanded,-,hindex⟩ :=
    constants_shared_and_kept [] [.push zero, .push .undefined]
  exact ⟨hsize,hfirst,hlast,(hadd hsize zero).1,hkept 0 zero later rfl hfirst,
    hhanded hsize (.push nan) 2 nan later rfl hlast,hmixed,
    (hindex [] nan [.int 0] nan hmixed).mpr (.float rfl)⟩

end ConstantPool

end ScriptCache
