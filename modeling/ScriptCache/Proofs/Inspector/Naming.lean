import Mathlib
import ScriptCache.Proofs.Inspector.Binding
import ScriptCache.Proofs.Inspector.Stops
import ScriptCache.Proofs.Text.Separation

namespace ScriptCache

/-- How the id of a breakpoint is made up, if `next` is the number of the next one set in a
script. -/
inductive Breakpoint.Named (next : Nat) (b : Breakpoint) : Prop
  | script (number : Nat) (line column : UInt32) (script : ScriptId)
      (target : b.target = .script script) (older : number < next)
      (place : Session.oneBased line column = .ok b.position)
      (name : b.id = Session.breakpointName number line column script)
  | url (line column : UInt32) (url : String) (target : b.target = .url url)
      (place : Session.oneBased line column = .ok b.position)
      (name : b.id = Session.breakpointName 1 line column url)

def Breakpoint.Distinct (b c : Breakpoint) : Prop :=
  b.id = c.id → ∃ id, b.target = .url id ∧ c.target = .script id ∧ b.position = c.position

inductive Command.Wants : Command → Breakpoint → Prop
  | script {l : Location} {condition : Option String} {b : Breakpoint}
      (target : b.target = .script l.scriptId)
      (place : Session.oneBased l.lineNumber l.columnNumber = .ok b.position)
      (asked : b.condition = Session.usedCondition condition) :
      Wants (.setBreakpoint l condition) b
  | url {line : UInt32} {url : String} {urlRegex : Option String} {column : Option UInt32}
      {condition : Option String} {b : Breakpoint} (target : b.target = .url url)
      (place : Session.oneBased line (column.getD 0) = .ok b.position)
      (asked : b.condition = Session.usedCondition condition) :
      Wants (.setBreakpointByUrl line (some url) urlRegex column condition) b

def Reply.breakpoint? : Reply → Option BreakpointId
  | .breakpointSet id _ => some id
  | .breakpointsSet id _ => some id
  | _ => none

namespace Breakpoint

variable {b c : Breakpoint} {next : Nat}

def Same (b c : Breakpoint) : Prop :=
  c = { b with resolved := c.resolved }

theorem Same.refl (b : Breakpoint) : b.Same b :=
  rfl

theorem Same.id_eq (h : b.Same c) : c.id = b.id := by
  rw [h]

theorem Same.bindTo (h : b.Same c) (s : Script) : b.Same (c.bindTo s) := by
  rw [bindTo_eq, h]
  rfl

theorem Named.mono {next' : Nat} (hb : b.Named next) (h : next ≤ next') : b.Named next' := by
  cases hb with
  | script number line column script target older place name =>
    exact .script number line column script target (Nat.lt_of_lt_of_le older h) place name
  | url line column url target place name => exact .url line column url target place name

theorem Named.bindTo (hb : b.Named next) (s : Script) : (b.bindTo s).Named next := by
  rw [bindTo_eq]
  cases hb with
  | script number line column script target older place name =>
    exact .script number line column script target older place name
  | url line column url target place name => exact .url line column url target place name

theorem Distinct.bindTo (h : b.Distinct c) (s : Script) : (b.bindTo s).Distinct (c.bindTo s) := by
  simpa only [Distinct, bindTo_id, bindTo_target, bindTo_position] using h

end Breakpoint

namespace Session

theorem colon_notMem_toString (n : Nat) : ':' ∉ (toString n).toList := by
  intro h
  rw [show toString n = n.repr from rfl, Nat.toList_repr] at h
  have hdigit := Nat.isDigit_of_mem_toDigits (by decide) (by decide) h
  revert hdigit
  decide

theorem number_colon_inj {m n : Nat} {rest rest' : String} :
    toString m ++ (":" ++ rest) = toString n ++ (":" ++ rest') ↔ m = n ∧ rest = rest' := by
  constructor
  · intro h
    have hlist : (toString m).toList ++ ':' :: rest.toList =
        (toString n).toList ++ ':' :: rest'.toList := by
      simpa using congrArg String.toList h
    obtain ⟨hnumber,hrest⟩ :=
      Text.append_separator_inj (colon_notMem_toString m) (colon_notMem_toString n) hlist
    exact ⟨Nat.repr_inj.mp (String.toList_inj.mp hnumber),String.toList_inj.mp hrest⟩
  · rintro ⟨rfl,rfl⟩
    rfl

theorem breakpointName_inj {m n : Nat} {line line' column column' : UInt32}
    {place place' : String} :
    breakpointName m line column place = breakpointName n line' column' place' ↔
      m = n ∧ line = line' ∧ column = column' ∧ place = place' := by
  simp only [breakpointName, String.append_assoc, number_colon_inj, UInt32.toNat_inj]

variable {σ : Type} {host : Host σ} {s next : Session} {a : Action} {batch : List Event}

structure Identified (s : Session) : Prop where
  named : ∀ b ∈ s.breakpoints, b.Named s.nextBreakpointId
  distinct : s.breakpoints.Pairwise Breakpoint.Distinct

theorem Identified.sublist (hs : s.Identified) {list : List Breakpoint}
    (hlist : list.Sublist s.breakpoints) : Identified { s with breakpoints := list } :=
  ⟨fun b hb => hs.named b (hlist.subset hb),hs.distinct.sublist hlist⟩

theorem Identified.register (hs : s.Identified) (p : Program) : (s.register p).1.Identified := by
  constructor
  · intro b' hb'
    obtain ⟨b,hb,rfl⟩ := List.mem_map.mp hb'
    exact (hs.named b hb).bindTo _
  · exact List.pairwise_map.mpr (hs.distinct.imp fun h => h.bindTo _)

theorem Identified.add (hs : s.Identified) {b : Breakpoint} {number : Nat}
    (hnumber : s.nextBreakpointId ≤ number) (hnamed : b.Named number)
    (hdistinct : ∀ c ∈ s.breakpoints, c.Distinct b) :
    Identified { s with nextBreakpointId := number, breakpoints := s.breakpoints ++ [b] } := by
  constructor
  · intro c hc
    rcases List.mem_append.mp hc with hc | hc
    · exact (hs.named c hc).mono hnumber
    · rwa [List.mem_singleton.mp hc]
  · refine List.pairwise_append.mpr ⟨hs.distinct,List.pairwise_singleton _ _,?_⟩
    intro c hc c' hc'
    rw [List.mem_singleton.mp hc']
    exact hdistinct c hc

theorem Identified.move (hs : s.Identified) (hm : Move s a next batch) : next.Identified := by
  cases hm with
  | register p given => exact hs.register p
  | disable on asked => exact ⟨nofun,.nil⟩
  | @setBreakpoint script line column position offset condition on known place stop free =>
    refine hs.add (Nat.le_succ _)
      (.script _ line column script.id rfl (Nat.lt_succ_self _) place rfl) ?_
    intro c hc hid
    cases hs.named c hc with
    | script number line' column' script' target older place' name =>
      rw [name, breakpointName_inj] at hid
      omega
    | url line' column' url target place' name =>
      rw [name, breakpointName_inj] at hid
      obtain ⟨-,rfl,rfl,rfl⟩ := hid
      exact ⟨script.id,target,rfl,Except.ok.inj (place'.symm.trans place)⟩
  | @setBreakpointByUrl line column position url condition on place fresh =>
    rw [Breakpoint.foldl_bindTo]
    refine hs.add (Nat.le_refl _) (.url line column url rfl place rfl) ?_
    intro c hc hid
    exact absurd hid (fresh c hc)
  | removeBreakpoint id on => exact hs.sublist List.eraseP_sublist
  | _ => exact ⟨hs.named,hs.distinct⟩

theorem Reachable.identified (hs : Reachable host s) : s.Identified :=
  hs.induction ⟨nofun,.nil⟩ fun _ _ _ _ hm h => h.move hm

/-- No breakpoint is set for the URL that is the id of a script in which another is set. -/
def UrlsApart (s : Session) : Prop :=
  ∀ b ∈ s.breakpoints, ∀ c ∈ s.breakpoints, ∀ id, b.target = .url id → c.target ≠ .script id

theorem Identified.ids_nodup (hs : s.Identified) (hurls : s.UrlsApart) :
    (s.breakpoints.map Breakpoint.id).Nodup := by
  refine List.pairwise_map.mpr (hs.distinct.imp_of_mem ?_)
  intro b c hb hc h hid
  obtain ⟨id,hb',hc',-⟩ := h hid
  exact hurls b hb c hc id hb' hc'

theorem removeBreakpoint_of_nodup (hnodup : (s.breakpoints.map Breakpoint.id).Nodup)
    {before after : List Breakpoint} {b : Breakpoint} (hb : s.breakpoints = before ++ b :: after) :
    s.removeBreakpoint b.id = .ok ({ s with breakpoints := before ++ after }, .done) := by
  have hfound : (s.breakpoints.any fun c => c.id == b.id) = true := by
    simp [hb]
  have hbefore : ∀ c ∈ before, ¬(c.id == b.id) = true := by
    rw [hb, List.map_append, List.map_cons, List.nodup_append] at hnodup
    intro c hc hid
    exact hnodup.2.2 c.id (List.mem_map_of_mem hc) b.id List.mem_cons_self (beq_iff_eq.mp hid)
  have herase : (s.breakpoints.eraseP fun c => c.id == b.id) = before ++ after := by
    rw [hb, List.eraseP_append_right _ hbefore, List.eraseP_cons_of_pos (by simp)]
  unfold removeBreakpoint
  rw [if_pos hfound, herase]
  rfl

theorem Reachable.run (hs : Reachable host s) (actions : List (Action × σ)) :
    Reachable host (s.run host actions).1 := by
  obtain ⟨past,rfl⟩ := hs
  exact ⟨past ++ actions,by rw [run_append]⟩

theorem Reachable.dispatch (hs : Reachable host s) {method : String} {params : Json} {h h' : σ}
    {reply : Reply} (hd : s.dispatch host method params h = (.ok (next, reply), h')) :
    Reachable host next := by
  have hserve := serve_of_ok (r := ⟨0, method, params⟩) hd
  have hnext : (s.run host [(.request ⟨0, method, params⟩, h)]).1 = next :=
    congrArg (·.1.1) hserve
  exact hnext ▸ hs.run _

theorem Reachable.enabled_of_mem (hs : Reachable host s) {b : Breakpoint}
    (hb : b ∈ s.breakpoints) : s.enabled = true := by
  cases hon : s.enabled with
  | true => rfl
  | false =>
    rw [(hs.settled.off hon).breakpoints] at hb
    cases hb

structure Adds (s : Session) (c : Command) (b : Breakpoint) (next : Session) (reply : Reply) :
    Prop where
  wanted : c.Wants b
  added : next.breakpoints = s.breakpoints ++ [b]
  told : reply.breakpoint? = some b.id

theorem exists_adds {c : Command} {reply : Reply} {h h' : σ}
    (hc : c.method = "Debugger.setBreakpoint" ∨ c.method = "Debugger.setBreakpointByUrl")
    (hx : s.execute host c h = (.ok (next, reply), h')) : ∃ b, s.Adds c b next reply := by
  cases c with
  | setBreakpoint location condition =>
    obtain ⟨position,script,offset,hplace,-,-,-,rfl,rfl⟩ := setBreakpoint_eq_ok (Prod.mk.inj hx).1
    exact ⟨_,.script rfl hplace rfl,rfl,rfl⟩
  | setBreakpointByUrl line url urlRegex column condition =>
    obtain ⟨place,position,rfl,hplace,-,rfl,rfl⟩ := setBreakpointByUrl_eq_ok (Prod.mk.inj hx).1
    refine ⟨_,?_,rfl,?_⟩
    · rw [Breakpoint.foldl_bindTo]
      exact .url rfl hplace rfl
    · rw [Breakpoint.foldl_bindTo]
      rfl
  | step kind => cases kind <;> simp [Command.method] at hc
  | _ => simp [Command.method] at hc

theorem Move.same_of_id {b : Breakpoint} (hm : Move s a next batch)
    (hnodup : (next.breakpoints.map Breakpoint.id).Nodup)
    (hlive : b.id ∈ s.breakpoints.map Breakpoint.id)
    (hs : ∀ c ∈ s.breakpoints, c.id = b.id → b.Same c) :
    ∀ c ∈ next.breakpoints, c.id = b.id → b.Same c := by
  have hadded {new : Breakpoint} (hnew : next.breakpoints = s.breakpoints ++ [new]) :
      ∀ c ∈ next.breakpoints, c.id = b.id → b.Same c := by
    rw [hnew, List.map_append, List.nodup_append] at hnodup
    intro c hc hid
    rw [hnew] at hc
    rcases List.mem_append.mp hc with hc | hc
    · exact hs c hc hid
    · rw [List.mem_singleton.mp hc] at hid
      exact absurd hid.symm (hnodup.2.2 _ hlive _ (List.mem_singleton_self _))
  cases hm with
  | register p given =>
    intro c hc hid
    obtain ⟨old,hold,rfl⟩ := List.mem_map.mp hc
    rw [Breakpoint.bindTo_id] at hid
    exact (hs old hold hid).bindTo _
  | disable on asked => exact nofun
  | setBreakpoint condition on known place stop free => exact hadded rfl
  | setBreakpointByUrl url condition on place fresh => exact hadded rfl
  | removeBreakpoint id on => exact fun c hc => hs c (List.eraseP_sublist.subset hc)
  | _ => exact hs

/-- From here on to the end of a run the id is in use and no URL is the id of a script. -/
def Lasts (host : Host σ) (s : Session) (id : BreakpointId) (actions : List (Action × σ)) : Prop :=
  ∀ past, past <+: actions → (s.run host past).1.UrlsApart ∧
    id ∈ (s.run host past).1.breakpoints.map Breakpoint.id

theorem Lasts.same {b : Breakpoint} {actions : List (Action × σ)} (ht : Reachable host s)
    (hlasts : s.Lasts host b.id actions) (hs : ∀ c ∈ s.breakpoints, c.id = b.id → b.Same c) :
    ∀ c ∈ (s.run host actions).1.breakpoints, c.id = b.id → b.Same c := by
  induction actions using List.reverseRecOn with
  | nil => exact hs
  | append_singleton rest last ih =>
    obtain ⟨a,h⟩ := last
    have hbefore : rest <+: rest ++ [(a, h)] := List.prefix_append rest _
    have hrest := ih fun past hpast => hlasts past (hpast.trans hbefore)
    have hnodup := (ht.run (rest ++ [(a, h)])).identified.ids_nodup (hlasts _ List.prefix_rfl).1
    rw [run_append] at hnodup ⊢
    exact (perform_move host (s.run host rest).1 a h).same_of_id hnodup (hlasts rest hbefore).2
      hrest

theorem dispatch_removeBreakpoint (hs : Reachable host s)
    (hnodup : (s.breakpoints.map Breakpoint.id).Nodup) {before after : List Breakpoint}
    {b : Breakpoint} (hb : s.breakpoints = before ++ b :: after) {params : Json}
    (hread : Command.ofMethod "Debugger.removeBreakpoint" params = .ok (.removeBreakpoint b.id))
    (h : σ) :
    s.dispatch host "Debugger.removeBreakpoint" params h =
      (.ok ({ s with breakpoints := before ++ after }, .done), h) := by
  have hmem : b ∈ s.breakpoints := by
    rw [hb]
    exact List.mem_append_right _ List.mem_cons_self
  rw [dispatch_eq_execute hread fun _ => hs.enabled_of_mem hmem,
    ← removeBreakpoint_of_nodup hnodup hb]
  rfl

theorem Lasts.exists_own {b : Breakpoint} {actions : List (Action × σ)} (hs : Reachable host s)
    (hb : b ∈ s.breakpoints) (hlasts : s.Lasts host b.id actions) :
    let u := (s.run host actions).1
    ∃ before own after, u.breakpoints = before ++ own :: after ∧ b.Same own ∧
      ∀ other ∈ before ++ after, other.id ≠ b.id := by
  intro u
  have hstart : ∀ c ∈ s.breakpoints, c.id = b.id → b.Same c := by
    have hnodup := hs.identified.ids_nodup (hlasts [] List.nil_prefix).1
    intro c hc hid
    rw [List.inj_on_of_nodup_map hnodup hc hb hid]
    exact .refl b
  obtain ⟨hurls,hlive⟩ := hlasts actions List.prefix_rfl
  obtain ⟨own,hown,hid⟩ := List.mem_map.mp hlive
  obtain ⟨before,after,hu⟩ := List.append_of_mem hown
  refine ⟨before,own,after,hu,hlasts.same hs hstart own hown hid,?_⟩
  have hnodup := (hs.run actions).identified.ids_nodup hurls
  rw [hu, List.map_append, List.map_cons, List.nodup_middle, List.nodup_cons,
    ← List.map_append, hid] at hnodup
  exact fun other hother hsame => hnodup.1 (List.mem_map.mpr ⟨other,hother,hsame⟩)

theorem breakpoint_ids_distinct (hs : Reachable host s) :
    s.breakpoints.Pairwise Breakpoint.Distinct ∧
    (s.UrlsApart → (s.breakpoints.map Breakpoint.id).Nodup ∧
      ∀ before b after, s.breakpoints = before ++ b :: after →
        s.removeBreakpoint b.id = .ok ({ s with breakpoints := before ++ after }, .done)) ∧
    ∀ method params h t reply h',
      method = "Debugger.setBreakpoint" ∨ method = "Debugger.setBreakpointByUrl" →
      s.dispatch host method params h = (.ok (t, reply), h') →
      ∃ c b, Command.ofMethod method params = .ok c ∧ s.Adds c b t reply ∧
        ∀ actions, t.Lasts host b.id actions →
          let u := (t.run host actions).1
          ∃ before own after, u.breakpoints = before ++ own :: after ∧ b.Same own ∧
            (∀ other ∈ before ++ after, other.id ≠ b.id) ∧
            ∀ params h,
              Command.ofMethod "Debugger.removeBreakpoint" params = .ok (.removeBreakpoint b.id) →
              u.dispatch host "Debugger.removeBreakpoint" params h =
                (.ok ({ u with breakpoints := before ++ after }, .done), h) := by
  refine ⟨hs.identified.distinct,?_,?_⟩
  · intro hurls
    have hnodup := hs.identified.ids_nodup hurls
    exact ⟨hnodup,fun before b after hb => removeBreakpoint_of_nodup hnodup hb⟩
  · intro method params h t reply h' hmethod hd
    obtain ⟨c,hc,-,hx⟩ := dispatch_eq_ok hd
    rw [← Command.method_of_ofMethod hc] at hmethod
    obtain ⟨b,hadds⟩ := exists_adds hmethod hx
    refine ⟨c,b,hc,hadds,?_⟩
    intro actions hlasts u
    have ht : Reachable host t := hs.dispatch hd
    have hmem : b ∈ t.breakpoints := by
      rw [hadds.added]
      exact List.mem_append_right _ (List.mem_singleton_self b)
    obtain ⟨before,own,after,hu,hsame,hothers⟩ := hlasts.exists_own ht hmem
    have hnodup := (ht.run actions).identified.ids_nodup (hlasts actions List.prefix_rfl).1
    refine ⟨before,own,after,hu,hsame,hothers,?_⟩
    intro params h hread
    exact dispatch_removeBreakpoint (ht.run actions) hnodup hu (hsame.id_eq ▸ hread) h

theorem urlsApart_of_target {url : String} {script : ScriptId} (hne : url ≠ script)
    (h : ∀ b ∈ s.breakpoints, b.target = .url url ∨ b.target = .script script) : s.UrlsApart := by
  intro b hb c hc id hurl hscript
  rcases h b hb with hb' | hb'
  · obtain rfl := BreakpointTarget.url.inj (hb'.symm.trans hurl)
    rcases h c hc with hc' | hc'
    · cases hc'.symm.trans hscript
    · exact hne (BreakpointTarget.script.inj (hscript.symm.trans hc'))
  · cases hb'.symm.trans hurl

def secondLineBoundTwice : Breakpoint :=
  { secondLineBreakpoint with resolved := [("1", 4), ("2", 4)] }

theorem breakpoint_ids_distinct_both :
    let s := (initial.run Host.detached boundEarly).1
    ∃ t reply, s.dispatch Host.detached "Debugger.setBreakpoint"
        (BreakLocation.toSet ⟨"1", 0, 0, none⟩ none) () = (.ok (t, reply), ()) ∧
      reply.breakpoint? = some firstColumnBreakpoint.id ∧
      t.breakpoints = [secondLineBreakpoint, firstColumnBreakpoint] ∧
      let u := (t.run Host.detached [(.register page, ())]).1
      u.breakpoints = [secondLineBoundTwice, firstColumnBreakpoint] ∧
      (u.breakpoints.map Breakpoint.id).Nodup ∧
      u.dispatch Host.detached "Debugger.removeBreakpoint"
          (.object [("breakpointId", .string firstColumnBreakpoint.id)]) () =
        (.ok ({ u with breakpoints := [secondLineBoundTwice] }, .done), ()) := by
  intro s
  have on : s.enabled = true := by decide +kernel
  have hresult : ((s.setBreakpoint ⟨"1", 0, 0⟩ none).toOption.map fun r =>
        (r.1.breakpoints, r.1.nextScriptId, r.2.breakpoint?)) =
      some ([secondLineBreakpoint, firstColumnBreakpoint], 2, some firstColumnBreakpoint.id) := by
    decide +kernel
  obtain ⟨⟨t,reply⟩,hok,hparts⟩ := Option.map_eq_some_iff.mp hresult
  obtain ⟨hbreakpoints,hparts⟩ := Prod.mk.inj hparts
  obtain ⟨hnumber,htold⟩ := Prod.mk.inj hparts
  have hset : s.setBreakpoint ⟨"1", 0, 0⟩ none = .ok (t, reply) :=
    Decoder.toOption_eq_some_iff.mp hok
  have hd : s.dispatch Host.detached "Debugger.setBreakpoint"
      (BreakLocation.toSet ⟨"1", 0, 0, none⟩ none) () = (.ok (t, reply), ()) :=
    (dispatch_toSet on _ none ()).trans (congrArg (·, ()) hset)
  have hbound : (t.run Host.detached [(.register page, ())]).1.breakpoints =
      [secondLineBoundTwice, firstColumnBreakpoint] := by
    change t.breakpoints.map (Breakpoint.bindTo · (.ofProgram (toString t.nextScriptId) page)) = _
    rw [hbreakpoints, hnumber]
    decide +kernel
  have hs : Reachable Host.detached s := ⟨boundEarly,rfl⟩
  obtain ⟨-,-,hsets⟩ := breakpoint_ids_distinct hs
  obtain ⟨c,b,-,hadds,hremoves⟩ := hsets _ _ _ _ _ _ (.inl rfl) hd
  have hid : b.id = firstColumnBreakpoint.id := Option.some.inj (hadds.told.symm.trans htold)
  have hlasts : t.Lasts Host.detached b.id [(.register page, ())] := by
    intro past hpast
    rw [hid]
    have hcases : (t.run Host.detached past).1.breakpoints =
          [secondLineBreakpoint, firstColumnBreakpoint] ∨
        (t.run Host.detached past).1.breakpoints =
          [secondLineBoundTwice, firstColumnBreakpoint] := by
      rcases List.prefix_cons_iff.mp hpast with rfl | ⟨rest,rfl,hrest⟩
      · exact .inl hbreakpoints
      · rw [List.prefix_nil.mp hrest]
        exact .inr hbound
    rcases hcases with h | h
    all_goals
      refine ⟨urlsApart_of_target (show "a.js" ≠ "1" by decide) ?_,?_⟩
      all_goals
        rw [h]
        decide
  obtain ⟨-,hapart,-⟩ := breakpoint_ids_distinct ((hs.dispatch hd).run [(.register page, ())])
  obtain ⟨hnodup,-⟩ := hapart (hlasts _ List.prefix_rfl).1
  obtain ⟨before,own,after,hu,hsame,-,hremoved⟩ := hremoves _ hlasts
  have hown : own.id = firstColumnBreakpoint.id := hsame.id_eq.trans hid
  rw [hbound] at hu
  rcases split_pair hu with ⟨rfl,rfl⟩ | ⟨rfl,-,rfl⟩
  · exact absurd hown (by decide)
  · rw [hid] at hremoved
    exact ⟨t,reply,hd,htold,hbreakpoints,hbound,hnodup,hremoved _ () rfl⟩

def clashing : List (Action × Unit) :=
  [(.register page, ()), calling "Debugger.enable" [],
    calling "Debugger.setBreakpointByUrl"
      [("lineNumber", .number (.whole 0)), ("url", .string "1")],
    calling "Debugger.setBreakpoint"
      [("location", .object [("scriptId", .string "1"), ("lineNumber", .number (.whole 0)),
        ("columnNumber", .number (.whole 0))])]]

theorem breakpoint_ids_clash :
    (initial.run Host.detached clashing).1.breakpoints.map Breakpoint.id = ["1:0:0:1", "1:0:0:1"] ∧
    ((initial.run Host.detached
        (clashing ++ [calling "Debugger.removeBreakpoint" [("breakpointId", .string "1:0:0:1")]])).1
      ).breakpoints.map Breakpoint.target = [.script "1"] := by
  decide +kernel

end Session

end ScriptCache
