import Mathlib
import ScriptCache.Proofs.Inspector.HostCalls
import ScriptCache.Proofs.Inspector.Schema.Messages
import ScriptCache.Proofs.Inspector.Stepping
import ScriptCache.Proofs.Numeric.Classes

namespace ScriptCache

/-- Values of a script. Objects, functions and symbols are alike to a condition. -/
inductive ScriptValue where
  | undefined
  | null
  | boolean (b : Bool)
  | number (x : Double)
  | string (s : String)
  | object
  deriving DecidableEq, Repr

def ScriptValue.falsy : ScriptValue → Bool
  | .undefined => true
  | .null => true
  | .boolean b => !b
  | .number x => x.isZero || x.isNaN
  | .string s => s == ""
  | .object => false

theorem Unserializable.falsy_number {x : Double} {u : Unserializable}
    (h : of x = some u) :
    (ScriptValue.number x).falsy = !(u == .infinity || u == .negativeInfinity) := by
  unfold of at h
  split_ifs at h with hnan hinf hneg hzero
  · cases h
    simp [ScriptValue.falsy, hnan]
  · cases h
    simp [ScriptValue.falsy, Double.isZero_of_isInfinite hinf, hnan]
  · cases h
    simp [ScriptValue.falsy, Double.isZero_of_isInfinite hinf, hnan]
  · cases h
    simp [ScriptValue.falsy, hzero]

namespace RemoteObject

variable {o : RemoteObject} {v : ScriptValue}

/-- What a mirror shows. Null is told by its subtype, whether its value field holds null or
nothing. -/
inductive Mirrors (o : RemoteObject) : ScriptValue → Prop
  | undefined (kind : o.kind = .undefined) : Mirrors o .undefined
  | null (kind : o.kind = .object) (subtype : o.subtype = some .null) (id : o.objectId = none) :
      Mirrors o .null
  | boolean {b : Bool} (kind : o.kind = .boolean) (value : o.value = some (.bool b)) :
      Mirrors o (.boolean b)
  | whole {n : Int} (kind : o.kind = .number) (value : o.value = some (.whole n)) :
      Mirrors o (.number (.ofInt n))
  | float {x : Double} (kind : o.kind = .number) (value : o.value = some (.float x))
      (finite : x.isFinite = true) : Mirrors o (.number x)
  | special {x : Double} {u : Unserializable} (kind : o.kind = .number) (value : o.value = none)
      (name : o.unserializable = some u) (of : Unserializable.of x = some u) :
      Mirrors o (.number x)
  | string {s : String} (kind : o.kind = .string) (value : o.value = some (.string s)) :
      Mirrors o (.string s)
  | reference (kind : o.kind = .object) (id : o.objectId ≠ none) : Mirrors o .object
  | object (kind : o.kind = .object) (subtype : o.subtype ≠ some .null)
      (value : o.value ≠ some .null) : Mirrors o .object
  | function (kind : o.kind = .function) : Mirrors o .object
  | symbol (kind : o.kind = .symbol) : Mirrors o .object

def HoldsNull (o : RemoteObject) : Prop :=
  o.kind = .object ∧ o.value = some .null ∧ o.objectId = none

theorem mirrors_number (x : Double) : (number x).Mirrors (.number x) := by
  unfold number
  cases hx : Unserializable.of x with
  | some u => exact .special rfl rfl rfl hx
  | none =>
    refine .float rfl rfl (Double.isFinite_iff.mpr ?_)
    unfold Unserializable.of at hx
    split_ifs at hx with hnan hinf
    exact ⟨Bool.eq_false_iff.mpr hnan,Bool.eq_false_iff.mpr hinf⟩

inductive Constructs : RemoteObject → ScriptValue → Prop
  | undefined : Constructs undefined .undefined
  | null : Constructs null .null
  | boolean (b : Bool) : Constructs (boolean b) (.boolean b)
  | number (x : Double) : Constructs (number x) (.number x)
  | string (s : String) : Constructs (string s) (.string s)
  | object (id : ObjectId) (className : String) (subtype : Option ObjectSubtype) :
      Constructs (object id className subtype) .object

theorem Constructs.mirrors (h : Constructs o v) : o.Mirrors v := by
  cases h with
  | undefined => exact .undefined rfl
  | null => exact .null rfl rfl rfl
  | boolean b => exact .boolean rfl rfl
  | number x => exact mirrors_number x
  | string s => exact .string rfl rfl
  | object id className subtype => exact .reference rfl nofun

theorem isTruthy_eq_false_iff (h : o.kind = .object) : o.isTruthy = false ↔ o.HoldsNull := by
  simp only [isTruthy, h, HoldsNull, true_and]
  split <;> simp_all

theorem isTruthy_of_object (h : o.kind = .object) (hnull : ¬o.HoldsNull) : o.isTruthy = true :=
  Bool.eq_true_of_not_eq_false fun hfalse => hnull ((isTruthy_eq_false_iff h).mp hfalse)

theorem Mirrors.isTruthy_eq (h : o.Mirrors v) (hnull : v = .null → o.HoldsNull) :
    o.isTruthy = !v.falsy := by
  cases h with
  | undefined kind => simp [isTruthy, kind, ScriptValue.falsy]
  | null kind => exact (isTruthy_eq_false_iff kind).mpr (hnull rfl)
  | boolean kind value => simp [isTruthy, kind, value, ScriptValue.falsy]
  | @whole n kind value =>
    have hnan : (Double.ofInt n).isNaN = false := Double.isNaN_ofRatio _ _ _
    have hzero : (Double.ofInt n).isZero = (n == 0) := by
      rw [Bool.eq_iff_iff, Double.isZero_ofInt, beq_iff_eq]
    simp [isTruthy, kind, value, Json.whole, ScriptValue.falsy, hnan, hzero, bne]
  | float kind value finite =>
    simp [isTruthy, kind, value, ScriptValue.falsy, Json.float, (Double.isFinite_iff.mp finite).1]
  | special kind value name of =>
    simp [isTruthy, kind, value, name, Unserializable.falsy_number of]
  | string kind value => simp [isTruthy, kind, value, ScriptValue.falsy, bne]
  | reference kind id => exact isTruthy_of_object kind fun hnull => id hnull.2.2
  | object kind subtype value => exact isTruthy_of_object kind fun hnull => value hnull.2.1
  | function kind => simp [isTruthy, kind, ScriptValue.falsy]
  | symbol kind => simp [isTruthy, kind, ScriptValue.falsy]

theorem run_written (o : RemoteObject) :
    ∀ v ∈ [o.toJson, o.toJson.canonical], decoder.run v = .ok (o.mapValues Json.kept) :=
  readsBack RemoteObject.decodes o

theorem value_kept_ne_null (x : Option Json) : x.bind Json.kept ≠ some .null := by
  cases x with
  | none => nofun
  | some v =>
    rw [Option.bind_some, Json.kept]
    cases v.canonical <;> nofun

theorem Mirrors.mapValues_kept (h : o.Mirrors v) : (o.mapValues Json.kept).Mirrors v := by
  have hvalue {w : Json} (hw : o.value = some w) :
      (o.mapValues Json.kept).value = Json.present w.canonical := by
    rw [mapValues, hw]
    rfl
  cases h with
  | undefined kind => exact .undefined kind
  | null kind subtype id => exact .null kind subtype id
  | boolean kind value => exact .boolean kind (hvalue value)
  | whole kind value => exact .whole kind (hvalue value)
  | float kind value finite => exact .float kind (hvalue value) finite
  | special kind value name of => exact .special kind (by rw [mapValues, value]; rfl) name of
  | string kind value => exact .string kind (hvalue value)
  | reference kind id => exact .reference kind id
  | object kind subtype => exact .object kind subtype (value_kept_ne_null o.value)
  | function kind => exact .function kind
  | symbol kind => exact .symbol kind

theorem isTruthy_mapValues_kept (o : RemoteObject) :
    (o.mapValues Json.kept).isTruthy = o.isTruthy ↔ ¬o.HoldsNull := by
  by_cases hkind : o.kind = .object
  · have htrue : (o.mapValues Json.kept).isTruthy = true :=
      isTruthy_of_object hkind fun hnull => value_kept_ne_null o.value hnull.2.1
    rw [htrue, ← isTruthy_eq_false_iff hkind]
    cases o.isTruthy <;> simp
  · refine iff_of_true ?_ fun hnull => hkind hnull.1
    obtain ⟨kind,subtype,className,value,unserializable,description,id⟩ := o
    cases kind with
    | object => exact absurd rfl hkind
    | _ =>
      rcases value with _ | w
      · rfl
      · cases w <;> rfl

end RemoteObject

namespace Session

variable {σ : Type} {host : Host σ} {s : Session}

theorem taken_cons (host : Host σ) (top : Option CallFrame) (b : Breakpoint)
    (rest : List Breakpoint) (h : σ) :
    taken host top (b :: rest) h =
      ((if (isTaken host top b h).1 then [b.id] else []) ++
          (taken host top rest (isTaken host top b h).2).1,
        (taken host top rest (isTaken host top b h).2).2) := by
  change ((if (isTaken host top b h).1 then b.id :: _ else _), _) = _
  cases (isTaken host top b h).1 <;> rfl

theorem taken_append (host : Host σ) (top : Option CallFrame) (xs ys : List Breakpoint) (h : σ) :
    taken host top (xs ++ ys) h =
      ((taken host top xs h).1 ++ (taken host top ys (taken host top xs h).2).1,
        (taken host top ys (taken host top xs h).2).2) := by
  induction xs generalizing h with
  | nil => rfl
  | cons b xs ih => simp only [List.cons_append, taken_cons, ih, List.append_assoc]

/-- The condition of a breakpoint bound at this instruction has a value, when those bound there
before it were looked at. -/
structure Evaluates (host : Host σ) (s : Session) (visit : Visit σ) (frame : CallFrame)
    (before : List Breakpoint) (b : Breakpoint) (after : List Breakpoint) (o : RemoteObject)
    (next : σ) : Prop where
  on : s.enabled = true
  running : s.paused = none
  bound : ∃ offset, visit.point.program.exactPosition? visit.point.pc = some offset ∧
    s.breakpointsAt visit.point.scriptId offset = before ++ b :: after
  supplied : visit.frames.head? = some frame
  answer : ∃ expression, b.condition = some expression ∧
    host.evaluate frame.callFrameId expression (taken host (some frame) before visit.host).2 =
      (.ok o, next)

variable {visit : Visit σ} {frame : CallFrame} {before after : List Breakpoint} {b : Breakpoint}
  {o : RemoteObject} {next : σ}

theorem Evaluates.onInstruction_eq (he : s.Evaluates host visit frame before b after o next) :
    let later := taken host (some frame) after next
    let ids := (taken host (some frame) before visit.host).1 ++
      (if o.isTruthy then [b.id] else []) ++ later.1
    s.onInstruction host visit.point visit.frames visit.host =
      (if ids.isEmpty && !s.stepReached visit.point.depth && !s.pauseRequested then (s, false)
        else (s.pause .other none ids visit.frames visit.point.depth, true), later.2) := by
  intro later ids
  obtain ⟨offset,hoffset,hbound⟩ := he.bound
  obtain ⟨expression,hcondition,hanswer⟩ := he.answer
  have hverdict : isTaken host (some frame) b (taken host (some frame) before visit.host).2 =
      (o.isTruthy, next) :=
    (Judges.evaluated hcondition rfl hanswer).isTaken_eq
  have hids : taken host visit.frames.head? (before ++ b :: after) visit.host = (ids, later.2) := by
    rw [he.supplied, taken_append, taken_cons, hverdict]
    simp only [ids, later, List.append_assoc]
  have hcandidates : s.candidates? visit.point = some (before ++ b :: after) := by
    simp [candidates?, isPaused, he.on, he.running, hoffset, hbound]
  exact onInstruction_of_some hcandidates hids

end Session

namespace Host

variable {σ : Type} {host host' : Host σ}

def Relays (host host' : Host σ) : Prop :=
  ∀ frame expression h,
    match host.evaluate frame expression h with
    | (.ok o, next) =>
        ∃ o', RemoteObject.decoder.run o.toJson.canonical = .ok o' ∧
          host'.evaluate frame expression h = (.ok o', next)
    | (.error e, next) => host'.evaluate frame expression h = (.error e, next)

def SparesNull (host : Host σ) : Prop :=
  ∀ frame expression h o, (host.evaluate frame expression h).1 = .ok o → ¬o.HoldsNull

theorem Relays.isTaken_eq (hr : host.Relays host') (hnull : host.SparesNull)
    (top : Option CallFrame) (b : Breakpoint) (h : σ) :
    Session.isTaken host' top b h = Session.isTaken host top b h := by
  obtain ⟨verdict,next,hj⟩ := exists_judges host top b h
  rw [hj.isTaken_eq]
  -- the other host gives the same verdict and goes on in the same state
  refine Judges.isTaken_eq ?_
  cases hj with
  | unconditional condition => exact .unconditional condition
  | @evaluated expression frame value next condition supplied answer =>
    have hback := hr frame.callFrameId expression h
    rw [answer] at hback
    obtain ⟨o',hread,hanswer⟩ := hback
    obtain rfl : o' = value.mapValues Json.kept := by
      rw [RemoteObject.run_written value _ (by simp)] at hread
      exact (Except.ok.inj hread).symm
    have hspared : ¬value.HoldsNull := hnull frame.callFrameId expression h value (by rw [answer])
    rw [← value.isTruthy_mapValues_kept.mpr hspared]
    exact .evaluated condition supplied hanswer
  | @failed expression frame e next condition supplied answer =>
    have hback := hr frame.callFrameId expression h
    rw [answer] at hback
    exact .failed condition supplied hback
  | frameless condition supplied => exact .frameless condition supplied

theorem Relays.taken_eq (hr : host.Relays host') (hnull : host.SparesNull)
    (top : Option CallFrame) (list : List Breakpoint) (h : σ) :
    Session.taken host' top list h = Session.taken host top list h := by
  induction list generalizing h with
  | nil => rfl
  | cons b rest ih => simp only [Session.taken_cons, hr.isTaken_eq hnull, ih]

theorem Relays.onInstruction_eq (hr : host.Relays host') (hnull : host.SparesNull) (s : Session)
    (point : ExecutionPoint) (frames : List CallFrame) (h : σ) :
    s.onInstruction host' point frames h = s.onInstruction host point frames h := by
  cases hc : s.candidates? point with
  | none => rw [Session.onInstruction_of_none hc, Session.onInstruction_of_none hc]
  | some hit =>
    rw [Session.onInstruction_of_some hc (hr.taken_eq hnull frames.head? hit h),
      Session.onInstruction_of_some hc rfl]

def answering (o : RemoteObject) : Host Unit where
  evaluate _ _ := return .ok o
  properties _ _ := return none

theorem answering_relays (o : RemoteObject) :
    (answering o).Relays (answering (o.mapValues Json.kept)) :=
  fun _ _ _ => ⟨_,o.run_written _ (by simp),rfl⟩

end Host

namespace Session

variable {σ : Type}

theorem conditions_judged_by_value (host : Host σ) :
    (∀ o : RemoteObject, ∃ o',
      (∀ v ∈ [o.toJson, o.toJson.canonical], RemoteObject.decoder.run v = .ok o') ∧
      (o'.isTruthy = o.isTruthy ↔ ¬o.HoldsNull) ∧ ∀ v, o.Mirrors v → o'.Mirrors v) ∧
    (∀ host', host.Relays host' → host.SparesNull → ∀ s point frames h,
      onInstruction host' s point frames h = onInstruction host s point frames h) ∧
    (∀ o v, RemoteObject.Constructs o v → o.Mirrors v) ∧
    ∀ (s : Session) visit frame before b after o next v,
      s.Evaluates host visit frame before b after o next →
      o.Mirrors v → (v = .null → o.HoldsNull) →
      let later := taken host (some frame) after next
      let ids := (taken host (some frame) before visit.host).1 ++
        (if v.falsy then [] else [b.id]) ++ later.1
      s.onInstruction host visit.point visit.frames visit.host =
        (if ids.isEmpty && !s.stepReached visit.point.depth && !s.pauseRequested then (s, false)
          else (s.pause .other none ids visit.frames visit.point.depth, true), later.2) := by
  refine ⟨?_,?_,fun o v ho => ho.mirrors,?_⟩
  · intro o
    exact ⟨o.mapValues Json.kept,o.run_written,o.isTruthy_mapValues_kept,
      fun v hv => hv.mapValues_kept⟩
  · intro host' hr hnull s point frames h
    exact hr.onInstruction_eq hnull s point frames h
  · intro s visit frame before b after o next v he hv hnull
    have hvisit := he.onInstruction_eq
    rw [hv.isTruthy_eq hnull] at hvisit
    cases hfalsy : v.falsy
    all_goals
      rw [hfalsy] at hvisit
      exact hvisit

def firstVisit : Visit Unit :=
  ⟨⟨"1", page, 0, 0⟩, [topFrame], ()⟩

def conditionalBreakpoint : Breakpoint :=
  ⟨"1:0:0:a.js", .url "a.js", ⟨1, 1⟩, some "x", [("1", 0)]⟩

theorem conditions_judged_by_value_notANumber :
    let o := RemoteObject.number (.nan false)
    let s := (initial.run Host.detached conditional).1
    s.onInstruction (Host.answering (o.mapValues Json.kept)) firstVisit.point firstVisit.frames () =
      ((s, false), ()) := by
  intro o s
  obtain ⟨-,hrelayed,hconstructed,hjudged⟩ := conditions_judged_by_value (Host.answering o)
  have hspares : (Host.answering o).SparesNull := by
    rintro frame expression h _ ⟨rfl⟩ hnull
    exact absurd hnull.1 (by decide)
  have hevaluates : s.Evaluates (Host.answering o) firstVisit topFrame [] conditionalBreakpoint []
      o () :=
    ⟨by decide +kernel,by decide +kernel,⟨0,by decide +kernel,by decide +kernel⟩,rfl,⟨"x",rfl,rfl⟩⟩
  have hvisit := hjudged s _ _ _ _ _ _ _ _ hevaluates (hconstructed o _ (.number _)) nofun
  rw [hrelayed _ (Host.answering_relays o) hspares]
  exact hvisit.trans (congrArg (·, ()) (if_pos (by decide +kernel)))

theorem null_read_back_is_taken :
    let o := RemoteObject.null
    let o' := o.mapValues Json.kept
    let s := (initial.run Host.detached conditional).1
    RemoteObject.decoder.run o.toJson.canonical = .ok o' ∧
      (Host.answering o).Relays (Host.answering o') ∧
      (s.onInstruction (Host.answering o) ⟨"1", page, 0, 0⟩ [topFrame] ()).1.2 = false ∧
      (s.onInstruction (Host.answering o') ⟨"1", page, 0, 0⟩ [topFrame] ()).1.2 = true :=
  ⟨RemoteObject.run_written _ _ (by simp),Host.answering_relays _,by decide +kernel,
    by decide +kernel⟩

end Session

end ScriptCache
