import ScriptCache.Proofs.Bytecode.LineCount
import ScriptCache.Proofs.Inspector.Stops

namespace ScriptCache

def Location.key (l : Location) : ℕ ×ₗ ℕ :=
  toLex (l.lineNumber.toNat, l.columnNumber.toNat)

/-- The line of the location is known and the column on it; the last line reaches to the end of the
text. -/
def Source.Holds (s : Source) (l : Location) : Prop :=
  ∃ start, s.lineOffsets[l.lineNumber.toNat]? = some start ∧
    start.toNat + l.columnNumber.toNat ≤ (Text.utf8 s.text).length ∧
    ∀ next, s.lineOffsets[l.lineNumber.toNat + 1]? = some next →
      start.toNat + l.columnNumber.toNat < next.toNat

namespace Script

variable {x : Script} {offset other : UInt32}

theorem toNat_location (hx : x.source.Lined) (hoffset : offset < Word.maximum) :
    (x.source.position offset).line.toNat = (x.location offset).lineNumber.toNat + 1 ∧
      (x.source.position offset).column.toNat = (x.location offset).columnNumber.toNat + 1 := by
  obtain ⟨line,start,-,hline,hcolumn,hposition⟩ := hx.position_eq hoffset
  rw [location, hposition, Word.succ_sub_one hline, Word.succ_sub_one hcolumn]
  exact ⟨Word.toNat_succ hline,Word.toNat_succ hcolumn⟩

theorem location_key_lt (hx : x.source.Lined) (hother : other < Word.maximum)
    (h : offset < other) : (x.location offset).key < (x.location other).key := by
  obtain ⟨hline,hcolumn⟩ := toNat_location hx (UInt32.lt_trans h hother)
  obtain ⟨hline',hcolumn'⟩ := toNat_location hx hother
  have hposition := hx.key_lt hother h
  rw [Position.key, Position.key, Prod.Lex.toLex_lt_toLex] at hposition
  rw [Location.key, Location.key, Prod.Lex.toLex_lt_toLex]
  omega

theorem location_key_le_iff (hx : x.source.Lined) (hoffset : offset < Word.maximum)
    (hother : other < Word.maximum) :
    (x.location offset).key ≤ (x.location other).key ↔ offset ≤ other := by
  constructor
  · intro hle
    refine UInt32.not_lt.mp fun hlt => ?_
    exact absurd (location_key_lt hx hoffset hlt) (not_lt.mpr hle)
  · intro hle
    rcases UInt32.le_iff_lt_or_eq.mp hle with hlt | rfl
    · exact le_of_lt (location_key_lt hx hother hlt)
    · exact le_rfl

theorem location_inj (hx : x.source.Lined) (hoffset : offset < Word.maximum)
    (hother : other < Word.maximum) (h : x.location offset = x.location other) :
    offset = other := by
  refine UInt32.le_antisymm ?_ ?_
  · exact (location_key_le_iff hx hoffset hother).mp (by rw [h])
  · exact (location_key_le_iff hx hother hoffset).mp (by rw [h])

theorem exists_location_eq (hx : x.source.Lined)
    (hsize : (Text.utf8 x.source.text).length < Word.maximum.toNat) {l : Location}
    (hid : l.scriptId = x.id) (hl : x.source.Holds l) :
    ∃ offset < Word.maximum, x.location offset = l := by
  obtain ⟨start,hstart,hend,hnext⟩ := hl
  have hless : start.toNat + l.columnNumber.toNat < Word.maximum.toNat :=
    Nat.lt_of_le_of_lt hend hsize
  obtain ⟨offset,hoffset⟩ : ∃ offset : UInt32, offset.toNat = start.toNat + l.columnNumber.toNat :=
    ⟨_,UInt32.toNat_ofNat_of_lt' (Nat.lt_trans hless Word.maximum.toNat_lt)⟩
  have htop : offset < Word.maximum := by rwa [UInt32.lt_iff_toNat_lt, hoffset]
  have hon : x.source.OnLine offset l.lineNumber.toNat start := by
    refine ⟨hstart,?_,fun next hknown => ?_⟩
    · rw [UInt32.le_iff_toNat_le, hoffset]
      exact Nat.le_add_right _ _
    · rw [UInt32.lt_iff_toNat_lt, hoffset]
      exact hnext next hknown
  -- the line of the offset is the one that the location names
  obtain ⟨line,first,hon',hline,hcolumn,hposition⟩ := hx.position_eq htop
  obtain ⟨hsame,rfl⟩ := hx.onLine_unique hon' hon
  have hline' : line = l.lineNumber := UInt32.toNat_inj.mp hsame
  have hcolumn' : offset - first = l.columnNumber := by
    rw [← UInt32.toNat_inj, UInt32.toNat_sub_of_le _ _ hon.start_le, hoffset,
      Nat.add_sub_cancel_left]
  refine ⟨offset,htop,?_⟩
  rw [location, hposition, Word.succ_sub_one hline, Word.succ_sub_one hcolumn, hline', hcolumn',
    ← hid]

end Script

def Program.locations (p : Program) (id : ScriptId) : Set Location :=
  {l | ∃ q ∈ p.functions, ∃ entry ∈ q.sourceMap, (Script.ofProgram id p).location entry.pos = l}

structure Nearest (p : Program) (l actual : Location) : Prop where
  mem : actual ∈ p.locations l.scriptId
  bound : l.key ≤ actual.key
  least : ∀ other ∈ p.locations l.scriptId, l.key ≤ other.key → actual.key ≤ other.key

theorem Nearest.mono {p : Program} {l l' actual actual' : Location} (h : Nearest p l actual)
    (h' : Nearest p l' actual') (hid : l.scriptId = l'.scriptId) (hle : l.key ≤ l'.key) :
    actual.key ≤ actual'.key :=
  h.least actual' (hid ▸ h'.mem) (le_trans hle h'.bound)

theorem Nearest.not_passed {p : Program} {l actual : Location} (h : Nearest p l actual) :
    ¬∀ other ∈ p.locations l.scriptId, other.key < l.key :=
  fun hpassed => absurd h.bound (not_le.mpr (hpassed actual h.mem))

namespace Program

variable {p : Program} {id : ScriptId} {l : Location} {offset stop : UInt32}

theorem mem_locations :
    l ∈ p.locations id ↔ ∃ stop ∈ p.mappedOffsets, (Script.ofProgram id p).location stop = l := by
  constructor
  · rintro ⟨q,hq,entry,hentry,hl⟩
    exact ⟨entry.pos,mem_mappedOffsets.mpr ⟨q,hq,entry,hentry,rfl⟩,hl⟩
  · rintro ⟨stop,hstop,hl⟩
    obtain ⟨q,hq,entry,hentry,rfl⟩ := mem_mappedOffsets.mp hstop
    exact ⟨q,hq,entry,hentry,hl⟩

structure Charted (p : Program) : Prop where
  lined : p.source.Lined
  size : (Text.utf8 p.source.text).length < Word.maximum.toNat
  mapped : ∀ stop ∈ p.mappedOffsets, stop < Word.maximum

theorem charted_of_scan {name text : String} (hsource : p.source = .scan name text)
    (hsize : (Text.utf8 text).length < Word.maximum.toNat)
    (hmapped : ∀ offset ∈ p.mappedOffsets, offset.toNat ≤ (Text.utf8 text).length) :
    p.Charted where
  lined := hsource ▸ Source.lined_scan (Nat.lt_trans hsize Word.maximum.toNat_lt)
  size := by rwa [hsource]
  mapped := fun stop hstop =>
    UInt32.lt_iff_toNat_lt.mpr (Nat.lt_of_le_of_lt (hmapped stop hstop) hsize)

theorem Charted.script (hp : p.Charted) (id : ScriptId) :
    (Script.ofProgram id p).source.Lined :=
  hp.lined

theorem locations_scriptId (h : l ∈ p.locations id) : l.scriptId = id := by
  obtain ⟨stop,-,rfl⟩ := mem_locations.mp h
  rfl

theorem Charted.nearest_of_resolve? (hp : p.Charted) (hoffset : offset < Word.maximum)
    (h : (Script.ofProgram id p).resolve? (p.source.position offset) = some stop) :
    Nearest p ((Script.ofProgram id p).location offset)
      ((Script.ofProgram id p).location stop) := by
  have hfind := (Script.resolve?_position_eq_find? (hp.script id) hoffset).symm.trans h
  obtain ⟨⟨hstop,hle⟩,hleast⟩ := (find?_eq_some_iff_isLeast p.pairwise_stops).mp hfind
  have hmapped : stop ∈ p.mappedOffsets := mem_stops.mp hstop
  have hkeys {m n : UInt32} (hm : m < Word.maximum) (hn : n ∈ p.mappedOffsets) :=
    Script.location_key_le_iff (hp.script id) hm (hp.mapped n hn)
  refine ⟨mem_locations.mpr ⟨stop,hmapped,rfl⟩,(hkeys hoffset hmapped).mpr hle,?_⟩
  intro other hother hafter
  obtain ⟨later,hlater,rfl⟩ := mem_locations.mp hother
  have hle' : offset ≤ later := (hkeys hoffset hlater).mp hafter
  exact (hkeys (hp.mapped stop hmapped) hlater).mpr (hleast ⟨mem_stops.mpr hlater,hle'⟩)

theorem Charted.key_lt_of_resolve? (hp : p.Charted) (hoffset : offset < Word.maximum)
    (h : (Script.ofProgram id p).resolve? (p.source.position offset) = none) :
    ∀ other ∈ p.locations id, other.key < ((Script.ofProgram id p).location offset).key := by
  have hfind := (Script.resolve?_position_eq_find? (hp.script id) hoffset).symm.trans h
  intro other hother
  obtain ⟨stop,hstop,rfl⟩ := mem_locations.mp hother
  have hmiss : ¬offset ≤ stop := fun hle =>
    List.find?_eq_none.mp hfind stop (mem_stops.mpr hstop) (decide_eq_true hle)
  exact Script.location_key_lt (hp.script id) hoffset (UInt32.not_le.mp hmiss)

end Program

theorem Location.key_inj {l l' : Location} (hid : l.scriptId = l'.scriptId)
    (h : l.key = l'.key) : l = l' := by
  obtain ⟨id,line,column⟩ := l
  obtain ⟨hline,hcolumn⟩ := Prod.mk.inj (toLex_inj.mp h)
  rw [Location.mk.injEq]
  exact ⟨hid,UInt32.toNat_inj.mp hline,UInt32.toNat_inj.mp hcolumn⟩

theorem Nearest.unique {p : Program} {l actual actual' : Location} (h : Nearest p l actual)
    (h' : Nearest p l actual') : actual = actual' := by
  refine Location.key_inj ?_ (le_antisymm (h.mono h' rfl le_rfl) (h'.mono h rfl le_rfl))
  rw [Program.locations_scriptId h.mem, Program.locations_scriptId h'.mem]

theorem Script.mem_stops_of_resolve? {x : Script} {position : Position} {stop : UInt32}
    (h : x.resolve? position = some stop) : stop ∈ x.stops := by
  obtain ⟨offset,-,hfind⟩ := Option.bind_eq_some_iff.mp h
  exact List.mem_of_find?_eq_some hfind

theorem Breakpoint.exists_of_mem_bindings {b : Breakpoint} {scripts : List Script} {id : ScriptId}
    {stop : UInt32} (h : (id, stop) ∈ b.bindings scripts) :
    ∃ x ∈ scripts, x.id = id ∧ stop ∈ x.stops := by
  obtain ⟨x,hx,hbinding⟩ := List.mem_filterMap.mp h
  split at hbinding
  · obtain ⟨_,hstop,hsame⟩ := Option.map_eq_some_iff.mp hbinding
    cases hsame
    exact ⟨x,hx,rfl,Script.mem_stops_of_resolve? hstop⟩
  · cases hbinding

namespace Session

variable {σ : Type} {host : Host σ} {s : Session} {programs : List Program} {p : Program}
  {id : ScriptId} {l actual : Location} {stop : UInt32} {condition : Option String}
  {result : Result}

def BoundAt (s : Session) (l : Location) : Prop :=
  ∃ b ∈ s.breakpoints, ∃ x offset, s.script? l.scriptId = some x ∧
    (l.scriptId, offset) ∈ b.resolved ∧ x.location offset = l

theorem boundAt_iff (hs : s.Placed) (hn : s.Numbers programs)
    (hknown : s.script? id = some (.ofProgram id p)) (hp : p.Charted)
    (hstop : stop ∈ p.mappedOffsets) :
    s.BoundAt ((Script.ofProgram id p).location stop) ↔
      ∃ b ∈ s.breakpoints, (id, stop) ∈ b.resolved := by
  constructor
  · rintro ⟨b,hb,x,offset,hscript,hresolved,hlocation⟩
    obtain rfl : .ofProgram id p = x := Option.some.inj (hknown.symm.trans hscript)
    have hbound : (id, offset) ∈ b.bindings s.scripts := hs.resolved b hb ▸ hresolved
    obtain ⟨y,hy,hid,hoffset⟩ := Breakpoint.exists_of_mem_bindings hbound
    obtain rfl : y = .ofProgram id p := by
      have hown : s.script? y.id = some y := hn.script?_eq hy
      rw [hid, hknown] at hown
      exact (Option.some.inj hown).symm
    obtain rfl : offset = stop := Script.location_inj (hp.script id)
      (hp.mapped offset (Program.mem_stops.mp hoffset)) (hp.mapped stop hstop) hlocation
    exact ⟨b,hb,hresolved⟩
  · rintro ⟨b,hb,hresolved⟩
    exact ⟨b,hb,_,stop,hknown,hresolved,rfl⟩

structure Fits (p : Program) (script : ScriptId) (condition : Option String) (actual : Location)
    (b : Breakpoint) : Prop where
  target : b.target = .script script
  condition : b.condition = usedCondition condition
  resolved : ∃ stop ∈ p.mappedOffsets, b.resolved = [(script, stop)] ∧
    (Script.ofProgram script p).location stop = actual

inductive Answers (s : Session) (p : Program) (l : Location) (condition : Option String) :
    Result → Prop
  | unresolved (passed : ∀ other ∈ p.locations l.scriptId, other.key < l.key) :
      Answers s p l condition (.error (.serverError "Could not resolve breakpoint"))
  | taken {actual : Location} (nearest : Nearest p l actual) (occupied : s.BoundAt actual) :
      Answers s p l condition (.error alreadyExists)
  | bound {actual : Location} {b : Breakpoint} (nearest : Nearest p l actual)
      (free : ¬s.BoundAt actual) (fits : Fits p l.scriptId condition actual b) :
      Answers s p l condition
        (.ok ({ s with
            nextBreakpointId := s.nextBreakpointId + 1
            breakpoints := s.breakpoints ++ [b] },
          .breakpointSet b.id actual))

theorem answers_setBreakpoint (hs : s.Placed) (hn : s.Numbers programs)
    (hknown : s.script? id = some (.ofProgram id p)) (hp : p.Charted) {offset : UInt32}
    (hoffset : offset < Word.maximum) (condition : Option String) :
    s.Answers p ((Script.ofProgram id p).location offset) condition
      (s.setBreakpoint ((Script.ofProgram id p).location offset) condition) := by
  have hplace := Script.oneBased_location (hp.script id) hoffset
  cases hstop : (Script.ofProgram id p).resolve? (p.source.position offset) with
  | none =>
    rw [setBreakpoint_of_unresolved hplace hknown hstop]
    exact .unresolved (hp.key_lt_of_resolve? hoffset hstop)
  | some stop =>
    have hnearest := hp.nearest_of_resolve? hoffset hstop
    have hmapped : stop ∈ p.mappedOffsets :=
      Program.mem_stops.mp (Script.mem_stops_of_resolve? hstop)
    have hbound := boundAt_iff hs hn hknown hp hmapped
    have hsets := sets_of_resolve? hplace hknown hstop condition
    generalize s.setBreakpoint _ _ = result at hsets ⊢
    cases hsets with
    | bound free target place asked =>
      refine .bound hnearest (fun hoccupied => ?_) ⟨target,asked,stop,hmapped,place,rfl⟩
      obtain ⟨c,hc,hresolved⟩ := hbound.mp hoccupied
      exact free c hc hresolved
    | refused mem taken => exact .taken hnearest (hbound.mpr ⟨_,mem,taken⟩)

theorem Answers.eq_bound {t : Session} {reply : Reply}
    (h : s.Answers p l condition (.ok (t, reply))) :
    ∃ b actual, reply = .breakpointSet b.id actual ∧ Nearest p l actual ∧
      Fits p l.scriptId condition actual b ∧
      t = { s with
        nextBreakpointId := s.nextBreakpointId + 1
        breakpoints := s.breakpoints ++ [b] } := by
  cases h with
  | bound nearest free fits => exact ⟨_,_,rfl,nearest,fits,rfl⟩

theorem alreadyExists_ne : alreadyExists ≠ .serverError "Could not resolve breakpoint" := by
  decide

theorem Answers.unresolved_iff (h : s.Answers p l condition result) :
    result = .error (.serverError "Could not resolve breakpoint") ↔
      ∀ other ∈ p.locations l.scriptId, other.key < l.key := by
  cases h with
  | unresolved passed => exact iff_of_true rfl passed
  | taken nearest occupied =>
    exact iff_of_false (fun h => alreadyExists_ne (Except.error.inj h)) nearest.not_passed
  | bound nearest free fits => exact iff_of_false nofun nearest.not_passed

theorem Answers.taken_iff (h : s.Answers p l condition result) :
    result = .error alreadyExists ↔ ∃ actual, Nearest p l actual ∧ s.BoundAt actual := by
  cases h with
  | unresolved passed =>
    refine iff_of_false (fun h => alreadyExists_ne (Except.error.inj h).symm) ?_
    rintro ⟨actual,hnearest,-⟩
    exact hnearest.not_passed passed
  | taken nearest occupied => exact iff_of_true rfl ⟨_,nearest,occupied⟩
  | bound nearest free fits =>
    refine iff_of_false nofun ?_
    rintro ⟨actual,hnearest,hoccupied⟩
    exact free (nearest.unique hnearest ▸ hoccupied)

theorem Answers.bound_iff (h : s.Answers p l condition result) :
    (∃ t reply, result = .ok (t, reply)) ↔ ∃ actual, Nearest p l actual ∧ ¬s.BoundAt actual := by
  cases h with
  | unresolved passed =>
    refine iff_of_false (by rintro ⟨t,reply,⟨⟩⟩) ?_
    rintro ⟨actual,hnearest,-⟩
    exact hnearest.not_passed passed
  | taken nearest occupied =>
    refine iff_of_false (by rintro ⟨t,reply,⟨⟩⟩) ?_
    rintro ⟨actual,hnearest,hfree⟩
    exact hfree (nearest.unique hnearest ▸ occupied)
  | bound nearest free fits => exact iff_of_true ⟨_,_,rfl⟩ ⟨_,nearest,free⟩

structure Asks (p : Program) (id : ScriptId) (params : Json) (l : Location)
    (condition : Option String) : Prop where
  read : Command.ofMethod "Debugger.setBreakpoint" params = .ok (.setBreakpoint l condition)
  script : l.scriptId = id
  inside : p.source.Holds l

/-- The request succeeds, in some state of the host, with a breakpoint at a location. -/
def Grants (host : Host σ) (s : Session) (params : Json) (actual : Location) : Prop :=
  ∃ h t breakpoint h', s.dispatch host "Debugger.setBreakpoint" params h =
    (.ok (t, .breakpointSet breakpoint actual), h')

theorem Grants.enabled {params : Json} (h : s.Grants host params actual) : s.enabled = true := by
  obtain ⟨h1,t,breakpoint,h2,hd⟩ := h
  have hneeds : Command.needsEnabled "Debugger.setBreakpoint" = true :=
    Command.needsEnabled_method (.setBreakpoint ⟨"", 0, 0⟩ none)
  cases on : s.enabled with
  | true => rfl
  | false =>
    rw [dispatch, if_pos (by rw [hneeds, on]; rfl)] at hd
    cases hd

theorem dispatch_answers (host : Host σ) (before after : List (Action × σ)) (h : σ)
    (hp : p.Charted)
    (on : (initial.run host (before ++ (.register p, h) :: after)).1.enabled = true) {params : Json}
    (hasks : Asks p ((initial.run host before).1.register p).2 params l condition) (h' : σ) :
    ∃ result, (initial.run host (before ++ (.register p, h) :: after)).1.dispatch host
        "Debugger.setBreakpoint" params h' = (result, h') ∧
      (initial.run host (before ++ (.register p, h) :: after)).1.Answers p l condition
        result := by
  obtain ⟨hread,hid,hinside⟩ := hasks
  refine ⟨_,dispatch_setBreakpoint on hread h',?_⟩
  have hnumbers := numbers_run host (before ++ (.register p, h) :: after)
  have hknown := hnumbers.script?_eq (registered_mem host before after p h)
  obtain ⟨offset,hoffset,rfl⟩ := Script.exists_location_eq (hp.script _) hp.size hid hinside
  exact answers_setBreakpoint (placed_run host _) hnumbers hknown hp hoffset condition

theorem setBreakpoint_binds_nearest (host : Host σ) (before : List (Action × σ)) (p : Program)
    (h : σ) (name text : String) (hsource : p.source = .scan name text)
    (hsize : (Text.utf8 text).length < Word.maximum.toNat)
    (hmapped : ∀ offset ∈ p.mappedOffsets, offset.toNat ≤ (Text.utf8 text).length) :
    let id := ((initial.run host before).1.register p).2
    let state (after : List (Action × σ)) :=
      (initial.run host (before ++ (.register p, h) :: after)).1
    (∀ after params l condition h, (state after).enabled = true → Asks p id params l condition →
      ∃ result, (state after).dispatch host "Debugger.setBreakpoint" params h = (result, h) ∧
        (∀ t reply, result = .ok (t, reply) →
          ∃ b actual, reply = .breakpointSet b.id actual ∧ Nearest p l actual ∧
            Fits p id condition actual b ∧
            t = { state after with
              nextBreakpointId := (state after).nextBreakpointId + 1
              breakpoints := (state after).breakpoints ++ [b] }) ∧
        (result = .error (.serverError "Could not resolve breakpoint") ↔
          ∀ other ∈ p.locations id, other.key < l.key) ∧
        (result = .error alreadyExists ↔
          ∃ actual, Nearest p l actual ∧ (state after).BoundAt actual) ∧
        ((∃ t reply, result = .ok (t, reply)) ↔
          ∃ actual, Nearest p l actual ∧ ¬(state after).BoundAt actual)) ∧
    ∀ after after' params params' l l' condition condition' actual actual',
      Asks p id params l condition → Asks p id params' l' condition' → l.key ≤ l'.key →
      (state after).Grants host params actual → (state after').Grants host params' actual' →
      actual.key ≤ actual'.key := by
  intro id state
  have hp : p.Charted := Program.charted_of_scan hsource hsize hmapped
  have hanswers {after : List (Action × σ)} {params : Json} {l : Location}
      {condition : Option String} (on : (state after).enabled = true)
      (hasks : Asks p id params l condition) (h' : σ) :=
    dispatch_answers host before after h hp on hasks h'
  have hnearest {after : List (Action × σ)} {params : Json} {l actual : Location}
      {condition : Option String} (hasks : Asks p id params l condition)
      (hgrants : (state after).Grants host params actual) :
      Nearest p l actual := by
    have on := hgrants.enabled
    obtain ⟨h1,t,breakpoint,h2,hd⟩ := hgrants
    obtain ⟨result,hresult,hanswer⟩ := hanswers on hasks h1
    cases hresult.symm.trans hd
    obtain ⟨_,_,hreply,hnearest,-⟩ := hanswer.eq_bound
    cases hreply
    exact hnearest
  constructor
  · intro after params l condition h1 on hasks
    obtain ⟨result,hresult,hanswer⟩ := hanswers on hasks h1
    refine ⟨result,hresult,?_,hasks.script ▸ hanswer.unresolved_iff,hanswer.taken_iff,
      hanswer.bound_iff⟩
    rintro t reply rfl
    exact hasks.script ▸ hanswer.eq_bound
  · intro after after' params params' l l' condition condition' actual actual' hasks hasks' hle
      hgrants hgrants'
    exact (hnearest hasks hgrants).mono (hnearest hasks' hgrants')
      (hasks.script.trans hasks'.script.symm) hle

theorem setBreakpoint_binds_nearest_page :
    let s := (initial.run Host.detached [(.register page, ()), calling "Debugger.enable" []]).1
    (∃ t b, s.dispatch Host.detached "Debugger.setBreakpoint"
        (BreakLocation.toSet ⟨"1", 0, 1, none⟩ none) () =
      (.ok (t, .breakpointSet b.id ⟨"1", 0, 2⟩), ()) ∧
      t.breakpoints = [b] ∧ b.resolved = [("1", 2)]) ∧
    s.dispatch Host.detached "Debugger.setBreakpoint"
        (BreakLocation.toSet ⟨"1", 1, 1, none⟩ none) () =
      (.error (.serverError "Could not resolve breakpoint"), ()) ∧
    ∀ actual, s.Grants Host.detached (BreakLocation.toSet ⟨"1", 0, 3, none⟩ none) actual →
      (⟨"1", 0, 2⟩ : Location).key ≤ actual.key := by
  intro s
  have hoffsets : page.mappedOffsets = [0, 2, 4] := by decide +kernel
  have hstops : ∀ stop ∈ page.mappedOffsets, stop = 0 ∨ stop = 2 ∨ stop = 4 := by
    simp [hoffsets]
  have hmapped : ∀ stop ∈ page.mappedOffsets, stop.toNat ≤ (Text.utf8 "f()\ng()").length := by
    intro stop hstop
    obtain rfl | rfl | rfl := hstops stop hstop <;> decide
  obtain ⟨hanswers,hmono⟩ :=
    setBreakpoint_binds_nearest Host.detached [] page () "a.js" "f()\ng()" rfl (by decide) hmapped
  have on : s.enabled = true := by decide +kernel
  have hempty : s.breakpoints = [] := by decide +kernel
  have hasks {line column : UInt32} (hinside : page.source.Holds ⟨"1", line, column⟩) :
      Asks page "1" (BreakLocation.toSet ⟨"1", line, column, none⟩ none) ⟨"1", line, column⟩
        none :=
    ⟨Command.ofMethod_toSet _ none,rfl,hinside⟩
  have hnext : ∀ next, page.source.lineOffsets[1]? = some next → 3 < next.toNat := by
    rintro next ⟨⟩
    decide
  have hfirst : Asks page "1" _ ⟨"1", 0, 1⟩ none :=
    hasks ⟨0,rfl,by decide +kernel,fun next h => Nat.lt_trans (by decide) (hnext next h)⟩
  have hthird : Asks page "1" _ ⟨"1", 0, 3⟩ none := hasks ⟨0,rfl,by decide +kernel,hnext⟩
  have hsecond : Asks page "1" _ ⟨"1", 1, 1⟩ none := hasks ⟨4,rfl,by decide +kernel,nofun⟩
  have hnearest : Nearest page ⟨"1", 0, 1⟩ ⟨"1", 0, 2⟩ := by
    refine ⟨Program.mem_locations.mpr ⟨2,by simp [hoffsets],by decide⟩,by decide,?_⟩
    intro other hother
    obtain ⟨stop,hstop,rfl⟩ := Program.mem_locations.mp hother
    obtain rfl | rfl | rfl := hstops stop hstop <;> decide
  have hgrants : ∃ t b, s.dispatch Host.detached "Debugger.setBreakpoint"
      (BreakLocation.toSet ⟨"1", 0, 1, none⟩ none) () =
      (.ok (t, .breakpointSet b.id ⟨"1", 0, 2⟩), ()) ∧
      t.breakpoints = [b] ∧ b.resolved = [("1", 2)] := by
    obtain ⟨result,hresult,hbound,-,-,hok⟩ := hanswers _ _ _ _ () on hfirst
    have hfree : ¬s.BoundAt ⟨"1", 0, 2⟩ := by
      rintro ⟨b,hb,-⟩
      rw [hempty] at hb
      cases hb
    obtain ⟨t,reply,rfl⟩ := hok.mpr ⟨_,hnearest,hfree⟩
    obtain ⟨b,actual,rfl,hfound,hfits,rfl⟩ := hbound t reply rfl
    obtain rfl : actual = ⟨"1", 0, 2⟩ := hfound.unique hnearest
    obtain ⟨stop,hstop,hresolved,hlocation⟩ := hfits.resolved
    refine ⟨_,b,hresult,congrArg (· ++ [b]) hempty,?_⟩
    obtain rfl | rfl | rfl := hstops stop hstop
    · exact absurd hlocation (by decide)
    · exact hresolved
    · exact absurd hlocation (by decide)
  refine ⟨hgrants,?_,?_⟩
  · obtain ⟨result,hresult,-,hnone,-,-⟩ := hanswers _ _ _ _ () on hsecond
    have hpassed : ∀ other ∈ page.locations "1", other.key < (⟨"1", 1, 1⟩ : Location).key := by
      intro other hother
      obtain ⟨stop,hstop,rfl⟩ := Program.mem_locations.mp hother
      obtain rfl | rfl | rfl := hstops stop hstop <;> decide
    obtain rfl := hnone.mpr hpassed
    exact hresult
  · intro actual hactual
    obtain ⟨t,b,hd,-,-⟩ := hgrants
    exact hmono _ _ _ _ _ _ _ _ _ _ hfirst hthird (by decide) ⟨(),t,b.id,(),hd⟩ hactual

end Session

end ScriptCache
