namespace ScriptCache.Word

def maximum : UInt32 :=
  4294967295

def succ (n : UInt32) : UInt32 :=
  if n = maximum then n else n + 1

def pred (n : UInt32) : UInt32 :=
  if n = 0 then n else n - 1

def succ? (n : UInt32) : Option UInt32 :=
  if n = maximum then none else some (n + 1)

def pred? (n : UInt32) : Option UInt32 :=
  if n = 0 then none else some (n - 1)

def add? (m n : UInt32) : Option UInt32 :=
  if m.toNat + n.toNat < UInt32.size then some (m + n) else none

theorem add?_eq_some_iff {m n k : UInt32} :
    add? m n = some k ↔ m.toNat + n.toNat = k.toNat := by
  unfold add?
  split
  · rename_i small
    rw [Option.some.injEq, ← UInt32.toNat_inj, UInt32.toNat_add, Nat.mod_eq_of_lt small]
  · rename_i large
    simp only [reduceCtorEq, false_iff]
    have hk : k.toNat < UInt32.size := k.toNat_lt
    omega

end ScriptCache.Word
