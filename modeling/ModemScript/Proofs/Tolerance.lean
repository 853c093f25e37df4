import ModemScript.Proofs.LineByLine
import ModemScript.Proofs.Record

/-!
# Tolerating failures only makes a run longer

Whether failures end a run is asked in two places, after a directive has failed and after a
command has failed for which there is no fallback. Nothing else looks at it, and of all
directives one changes it. So take a script without that directive, and run it twice, once so
that failures end the run and once so that they do not. Until something fails the two runs are
in the same world at the same line. Then one of them stops, in a world that the other is in as
well, and the other goes on.

That an action does not look is stated as an equation between what it does in one world and in
the other (`Engine.Impartial`). The two runs are then compared line by line (`Cut`), since a run
stops nowhere but between two lines: a command has done all that it can do, fallbacks
included, before a failure of it counts.
-/

namespace ModemScript

variable {σ ω α : Type}

/-! ## What does not depend on whether failures end a run -/

namespace Engine

/-- The engine with failures that end a run, or with failures that do not. -/
def withAbort (on : Bool) (e : Engine σ ω) : Engine σ ω := { e with abortOnFailure := on }

end Engine

namespace World

def withAbort (on : Bool) (w : World σ ω) : World σ ω := { w with abortOnFailure := on }

end World

namespace Engine

/-- The action does the same whether or not failures end a run, and does not change whether
they do. -/
def Impartial (a : Action σ ω α) : Prop :=
  ∀ on e, a (e.withAbort on) = mapState (withAbort on) (a e)

theorem Impartial.act {a : Action σ ω α} (ha : Impartial a) (on : Bool) (w : World σ ω) :
    World.act a (w.withAbort on) = mapState (World.withAbort on) (World.act a w) := by
  show mapState world (a (w.engine.withAbort on)) = mapState _ (mapState world (a w.engine))
  rw [ha, mapState_mapState, mapState_mapState]
  rfl

theorem impartial_onStation (act : Station.Action σ α) :
    Impartial (onStation act : Action σ ω α) := by
  intro on e
  unfold onStation withAbort
  cases act e.station <;> rfl

theorem Impartial.ite {p : Engine σ ω → Bool} {a : Action σ ω Unit}
    (hp : ∀ on e, p (withAbort on e) = p e) (ha : Impartial a) :
    Impartial fun e => if p e then a e else .ok () e := by
  intro on e
  simp only [hp]
  split
  · exact ha on e
  · rfl

theorem impartial_openLine (h : Host σ ω) : Impartial (openLine h : Action σ ω Unit) :=
  fun on e =>
    impartial_onStation
      (Station.openLine fun path => h.serialError path e.station.moment e.host) on e

theorem impartial_ensureClosed : Impartial (ensureClosed : Action σ ω Unit) :=
  .ite (fun _ _ => rfl) (impartial_onStation Station.closeLine)

theorem impartial_reopen (h : Host σ ω) : Impartial (reopen h : Action σ ω Unit) := by
  have hopen : Impartial fun e : Engine σ ω =>
      if e.station.settings.isComplete then openLine h e else .ok () e :=
    .ite (fun _ _ => rfl) (impartial_openLine h)
  intro on e
  unfold reopen
  rw [impartial_ensureClosed]
  cases ensureClosed e with
  | error f e => rfl
  | ok _ e => exact hopen on e

theorem Impartial.withDevice {a : Action σ ω α} (ha : Impartial a) :
    Impartial (withDevice a) := by
  intro on e
  unfold Engine.withDevice
  show (if e.station.settings.device.isSome then _ else _) = _
  split
  · exact ha on e
  · rfl

theorem impartial_openDevice (h : Host σ ω) : Impartial (openDevice h : Action σ ω Unit) := by
  refine .withDevice fun on e => ?_
  show (if e.station.isOpen then _ else _) = _
  split
  · rfl
  · exact impartial_openLine h on e

theorem impartial_closeDevice : Impartial (closeDevice : Action σ ω Unit) :=
  .withDevice impartial_ensureClosed

theorem impartial_runShell (h : Host σ ω) (commandLine : String) :
    Impartial (runShell h commandLine : Action σ ω Unit) := by
  intro on e
  simp only [runShell, hostDoes, withAbort]
  split
  · rfl
  · split <;> rfl

theorem impartial_writeFile (h : Host σ ω) (path content : String) :
    Impartial (writeFile h path content : Action σ ω Unit) := by
  intro on e
  simp only [writeFile, hostDoes, withAbort]
  split <;> rfl

/-- One directive changes whether failures end a run, and the others do not depend on it. -/
theorem impartial_apply (h : Host σ ω) {d : Directive} (hd : ∀ on, d ≠ .abortOnFailure on) :
    Impartial (apply h d : Action σ ω Unit) := by
  intro on e
  cases d with
  | device | baudRate | rtsCts | dsrDtr => exact impartial_reopen h on (e.configure _)
  | timeout | lineBreak | set | print => rfl
  | abortOnFailure on' => exact absurd rfl (hd on')
  | environment name =>
      simp only [apply, withAbort]
      split <;> rfl
  | exec commandLine => exact impartial_runShell h (e.session.store.substitute commandLine) on e
  | write path content =>
      exact impartial_writeFile h path (e.session.store.substitute content) on e

end Engine

namespace World

theorem ask_withAbort (h : Host σ ω) (r : Request) (on : Bool) (w : World σ ω) :
    ask h r (w.withAbort on) = mapState (withAbort on) (ask h r w) := by
  unfold ask tell withAbort
  cases Station.exchange (w.store.substitute r.text) r.timeout (w.station.sleep r.delay) <;> rfl

end World

/-! ## A line, twice -/

/-- How one part of a run comes out if failures end the run, and how if they do not: it is the
same but for something that goes wrong in the script, and then the world is still the same. -/
inductive Cut : Engine.Outcome × World σ ω → Engine.Outcome × World σ ω → Prop
  | same {o : Engine.Outcome} {w : World σ ω} : (∀ f ∈ o.failure, f.kind ≠ .execution) →
      Cut (o, w.withAbort true) (o, w.withAbort false)
  | short {rs rs' : List Response} {f : Failure} {w : World σ ω} : f.kind = .execution →
      Cut (⟨rs, some f⟩, w.withAbort true) (⟨rs', none⟩, w.withAbort false)

theorem Cut.prepend {p q : Engine.Outcome × World σ ω} (h : Cut p q) (rs : List Response) :
    Cut (⟨rs ++ p.1.responses, p.1.failure⟩, p.2) (⟨rs ++ q.1.responses, q.1.failure⟩, q.2) := by
  cases h with
  | same hf => exact .same hf
  | short hf => exact .short hf

/-- A line that means something and leaves open whether failures end a run. -/
def Line.IsPlain (d : Dialect) (l : List Char) : Prop :=
  Line.isSilent l = true ∨
    ∃ line, Line.parse d l = .ok line ∧ ∀ on, line ≠ .directive (.abortOnFailure on)

theorem Script.isPlain_of_ofLines {d : Dialect} {ls : List (List Char)} :
    ∀ {number index : Nat} {s : Script}, ofLines d number index ls = .ok s →
      (∀ x ∈ s.schedule, ∀ on, x.directive ≠ .abortOnFailure on) →
      ∀ l ∈ ls, Line.IsPlain d l := by
  induction ls with
  | nil => exact fun _ _ _ hl => absurd hl (List.not_mem_nil)
  | cons l ls ih =>
      intro number index s hs hflag
      by_cases hl : Line.isSilent l = true
      · rw [ofLines_cons_of_silent hl] at hs
        exact List.forall_mem_cons.2 ⟨.inl hl, ih hs hflag⟩
      · obtain ⟨line, s', hline, hs', rfl⟩ := exists_of_ofLines_cons hl hs
        cases line with
        | command c =>
            refine List.forall_mem_cons.2 ⟨.inr ⟨_, hline, fun on h => ?_⟩, ih hs' hflag⟩
            cases h
        | directive x =>
            obtain ⟨hx, hrest⟩ := List.forall_mem_cons.1 hflag
            refine List.forall_mem_cons.2 ⟨.inr ⟨_, hline, fun on h => ?_⟩, ih hs' hrest⟩
            cases h
            exact hx on rfl

namespace World

theorem andThen_pure (p : Engine.Outcome × World σ ω) :
    andThen p (fun w => (⟨[], none⟩, w)) = p := by
  obtain ⟨⟨rs, failure⟩, w⟩ := p
  cases failure with
  | some f => rfl
  | none => simp only [andThen, List.append_nil]

/-- Lines are taken one after another, so some of them can be taken first. -/
theorem walk_append (h : Host σ ω) (ls ls' : List (List Char)) (number : Nat) (w : World σ ω) :
    walk h number (ls ++ ls') w =
      andThen (walk h number ls w) (walk h (number + ls.length) ls') := by
  induction ls generalizing number w with
  | nil => rfl
  | cons l ls ih =>
      have hnumber : number + (l :: ls).length = number + 1 + ls.length := by
        rw [List.length_cons]
        omega
      rw [hnumber, List.cons_append, walk, walk]
      split
      · exact ih ..
      · split
        · rfl
        · split
          · exact ih ..
          · split
            · rfl
            · exact ih ..
        · rw [andThen_andThen]
          exact congrArg _ (funext fun w => ih ..)

/-- A command and its fallbacks. Only the last of them can end a run. -/
theorem cut_converse (h : Host σ ω) (r : Request) (fallbacks : List Request) (w : World σ ω) :
    Cut (converse h r fallbacks (w.withAbort true))
      (converse h r fallbacks (w.withAbort false)) := by
  induction fallbacks generalizing r w with
  | nil =>
      rw [converse, converse, ask_withAbort, ask_withAbort]
      cases hask : ask h r w with
      | error f w' =>
          obtain ⟨cause, rfl⟩ := exists_transport_of_ask hask
          exact .same (by rintro _ ⟨⟩ ⟨⟩)
      | ok v w' =>
          simp only [mapState]
          split
          · exact .short rfl
          · exact .same (by rintro _ ⟨⟩)
  | cons r' fallbacks ih =>
      rw [converse, converse, ask_withAbort, ask_withAbort]
      cases hask : ask h r w with
      | error f w' =>
          obtain ⟨cause, rfl⟩ := exists_transport_of_ask hask
          exact .same (by rintro _ ⟨⟩ ⟨⟩)
      | ok v w' =>
          simp only [mapState]
          split
          · exact (ih r' w').prepend [v.response]
          · exact .same (by rintro _ ⟨⟩)

theorem cut_line (h : Host σ ω) (number : Nat) {l : List Char} (hl : Line.IsPlain h.dialect l)
    (w : World σ ω) :
    Cut (walk h number [l] (w.withAbort true)) (walk h number [l] (w.withAbort false)) := by
  simp only [walk]
  by_cases hs : Line.isSilent l = true
  · rw [if_pos hs, if_pos hs]
    exact .same (by rintro _ ⟨⟩)
  · obtain ⟨line, hline, hflag⟩ := hl.resolve_left hs
    rw [if_neg hs, if_neg hs, hline]
    cases line with
    | command c =>
        simp only [andThen_pure]
        exact cut_converse h c.request c.fallbacks w
    | directive d =>
        have hd := Engine.impartial_apply (σ := σ) h fun on hon => hflag on (congrArg _ hon)
        simp only [hd.act]
        cases act (Engine.apply h d) w with
        | ok _ w' => exact .same (o := ⟨[], none⟩) (by rintro _ ⟨⟩)
        | error cause w' => exact .short (f := .directive d cause) rfl

/-! ## All lines, twice -/

/-- Either both ways of taking the lines come to the same, or one of them stops behind the first
few lines and the other is then in the same world. -/
theorem cut_walk (h : Host σ ω) (ls : List (List Char)) :
    ∀ (number : Nat) (w : World σ ω), (∀ l ∈ ls, Line.IsPlain h.dialect l) →
      (∃ (o : Engine.Outcome) (w' : World σ ω), (∀ f ∈ o.failure, f.kind ≠ .execution) ∧
          walk h number ls (w.withAbort true) = (o, w'.withAbort true) ∧
          walk h number ls (w.withAbort false) = (o, w'.withAbort false)) ∨
        ∃ before rest rs rs' f, ∃ w' : World σ ω, ls = before ++ rest ∧ f.kind = .execution ∧
          walk h number ls (w.withAbort true) = (⟨rs, some f⟩, w'.withAbort true) ∧
          walk h number before (w.withAbort false) = (⟨rs', none⟩, w'.withAbort false) := by
  induction ls with
  | nil => exact fun number w _ => .inl ⟨⟨[], none⟩, w, by rintro _ ⟨⟩, rfl, rfl⟩
  | cons l ls ih =>
      intro number w hls
      obtain ⟨hl, hls⟩ := List.forall_mem_cons.1 hls
      have hsplit : ∀ ls' on, walk h number (l :: ls') (w.withAbort on) =
          andThen (walk h number [l] (w.withAbort on)) (walk h (number + 1) ls') :=
        fun ls' on => walk_append h [l] ls' number _
      have hcut := cut_line h number hl w
      rw [hsplit ls true, hsplit ls false]
      generalize walk h number [l] (w.withAbort true) = p at hcut ⊢
      generalize hq : walk h number [l] (w.withAbort false) = q at hcut ⊢
      cases hcut with
      | short hf =>
          exact .inr ⟨[l], ls, _, _, _, _, rfl, hf, rfl, hq⟩
      | @same o w₁ hf =>
          obtain ⟨responses, failure⟩ := o
          cases failure with
          | some f => exact .inl ⟨⟨responses, some f⟩, w₁, hf, rfl, rfl⟩
          | none =>
              rcases ih (number + 1) w₁ hls with
                ⟨o, w', hkind, hstrict, htolerant⟩ |
                ⟨before, rest, rs, rs', f, w', rfl, hkind, hstrict, htolerant⟩
              · refine .inl ⟨⟨responses ++ o.responses, o.failure⟩, w', hkind, ?_, ?_⟩
                · rw [andThen, hstrict]
                · rw [andThen, htolerant]
              · refine .inr ⟨l :: before, rest, responses ++ rs, responses ++ rs', f, w', rfl,
                  hkind, ?_, ?_⟩
                · rw [andThen, hstrict]
                · rw [hsplit before false, hq, andThen, htolerant]

/-- Nothing that goes wrong in a script ends a run if failures do not. -/
theorem kind_of_walk (h : Host σ ω) (ls : List (List Char)) :
    ∀ (number : Nat) (w : World σ ω), (∀ l ∈ ls, Line.IsPlain h.dialect l) →
      ∀ f ∈ (walk h number ls (w.withAbort false)).1.failure, f.kind ≠ .execution := by
  induction ls with
  | nil => exact fun number w _ => by rintro _ ⟨⟩
  | cons l ls ih =>
      intro number w hls
      obtain ⟨hl, hls⟩ := List.forall_mem_cons.1 hls
      have hcut := cut_line h number hl w
      rw [← List.singleton_append, walk_append]
      generalize walk h number [l] (w.withAbort true) = p at hcut
      generalize walk h number [l] (w.withAbort false) = q at hcut ⊢
      cases hcut with
      | short hf => exact ih _ _ hls
      | @same o w₁ hf =>
          obtain ⟨responses, failure⟩ := o
          cases failure with
          | some f => exact hf
          | none => exact ih _ _ hls

/-! ## The record of a run -/

theorem events_andThen {w : World σ ω} {p : Engine.Outcome × World σ ω}
    {k : World σ ω → Engine.Outcome × World σ ω}
    (hp : w.station.events <+: p.2.station.events)
    (hk : ∀ w, w.station.events <+: (k w).2.station.events) :
    w.station.events <+: (andThen p k).2.station.events := by
  obtain ⟨⟨rs, failure⟩, w'⟩ := p
  cases failure with
  | some f => exact hp
  | none => exact hp.trans (hk w')

theorem events_converse (h : Host σ ω) (r : Request) (fallbacks : List Request) (w : World σ ω) :
    w.station.events <+: (converse h r fallbacks w).2.station.events := by
  induction fallbacks generalizing r w with
  | nil =>
      have hask := events_ask h w r
      rw [converse]
      cases ha : ask h r w with
      | error f w' =>
          rw [ha] at hask
          exact hask
      | ok v w' =>
          rw [ha] at hask
          simp only
          split
          · split <;> exact hask
          · exact hask
  | cons r' fallbacks ih =>
      have hask := events_ask h w r
      rw [converse]
      cases ha : ask h r w with
      | error f w' =>
          rw [ha] at hask
          exact hask
      | ok v w' =>
          rw [ha] at hask
          simp only
          split
          · exact events_andThen hask (ih r')
          · exact hask

theorem events_walk (h : Host σ ω) (ls : List (List Char)) :
    ∀ (number : Nat) (w : World σ ω),
      w.station.events <+: (walk h number ls w).2.station.events := by
  induction ls with
  | nil => exact fun number w => List.prefix_refl _
  | cons l ls ih =>
      intro number w
      rw [walk]
      split
      · exact ih _ w
      · split
        · exact List.prefix_refl _
        · next d _ =>
            have hd := (quiet_apply h w d).events
            cases hact : act (Engine.apply h d) w with
            | ok _ w' =>
                rw [hact] at hd
                exact hd.trans (ih _ w')
            | error cause w' =>
                rw [hact] at hd
                simp only
                split
                · exact hd
                · exact hd.trans (ih _ w')
        · exact events_andThen (events_converse ..) (ih _)

/-- Some lines lead the run that goes on after failures to where the other one stops, and what
this one has put on record by then the first one puts on record as well. -/
theorem exists_before_of_walk (h : Host σ ω) (ls : List (List Char)) (number : Nat) (w : World σ ω)
    (hls : ∀ l ∈ ls, Line.IsPlain h.dialect l) :
    let stopped := (walk h number ls (w.withAbort true)).2
    ∃ before rest, ls = before ++ rest ∧
      (walk h number before (w.withAbort false)).2 = stopped.withAbort false ∧
      walk h number ls (w.withAbort false) =
        andThen (walk h number before (w.withAbort false)) (walk h (number + before.length) rest) ∧
      stopped.station.events <+: (walk h number ls (w.withAbort false)).2.station.events := by
  intro stopped
  have hbefore : ∃ before rest, ls = before ++ rest ∧
      (walk h number before (w.withAbort false)).2 = stopped.withAbort false := by
    rcases cut_walk h ls number w hls with
      ⟨o, w', -, hs, ht⟩ | ⟨before, rest, rs, rs', f, w', hsplit, -, hs, ht⟩
    · refine ⟨ls, [], (List.append_nil ls).symm, ?_⟩
      rw [ht, show stopped = w'.withAbort true from congrArg Prod.snd hs]
      rfl
    · refine ⟨before, rest, hsplit, ?_⟩
      rw [ht, show stopped = w'.withAbort true from congrArg Prod.snd hs]
      rfl
  obtain ⟨before, rest, hsplit, hbegun⟩ := hbefore
  have hgo := walk_append h before rest number (w.withAbort false)
  rw [← hsplit] at hgo
  refine ⟨before, rest, hsplit, hbegun, hgo, ?_⟩
  rw [hgo]
  exact events_andThen (w := stopped.withAbort false) (hbegun ▸ List.prefix_refl _)
    (events_walk h rest _)

/-! ## Whole runs -/

/-- What a run comes to after its steps: the line is closed, and a step that failed counts
before a line that could not be closed. -/
def conclude (p : Engine.Outcome × World σ ω) :
    EStateM.Result Failure (World σ ω) (List Response) :=
  match act Engine.closeDevice p.2, p.1.failure with
  | .ok () w, none => .ok p.1.responses w
  | .ok () w, some f => .error f w
  | .error f w, none => .error f w
  | .error _ w, some f => .error f w

theorem conclude_withAbort (o : Engine.Outcome) (on : Bool) (w : World σ ω) :
    conclude (o, w.withAbort on) = mapState (withAbort on) (conclude (o, w)) := by
  unfold conclude
  rw [Engine.impartial_closeDevice.act]
  cases act Engine.closeDevice w <;> cases o.failure <;> rfl

theorem conclude_of_failure (rs : List Response) (f : Failure) (w : World σ ω) :
    ∃ w', conclude (⟨rs, some f⟩, w) = .error f w' := by
  unfold conclude
  cases act Engine.closeDevice w with
  | ok _ w' => exact ⟨w', rfl⟩
  | error _ w' => exact ⟨w', rfl⟩

theorem events_conclude (p : Engine.Outcome × World σ ω) :
    p.2.station.events <+: (leftBy (conclude p)).station.events := by
  have hclose := p.2.engine.keeps_closeDevice.events
  have hact : act Engine.closeDevice p.2 = mapState Engine.world (Engine.closeDevice p.2.engine) :=
    rfl
  unfold conclude
  rw [hact]
  cases hc : Engine.closeDevice p.2.engine with
  | ok _ w' =>
      rw [hc] at hclose
      cases p.1.failure <;> exact hclose
  | error f w' =>
      rw [hc] at hclose
      cases p.1.failure <;> exact hclose

end World

namespace Engine

theorem kind_of_openDevice {h : Host σ ω} {e e' : Engine σ ω} {f : Failure}
    (ho : openDevice h e = .error f e') : f.kind ≠ .execution := by
  unfold openDevice withDevice openLine onStation at ho
  simp only at ho
  split at ho
  · split at ho
    · cases ho
    · split at ho
      · cases ho
      · cases ho
        exact fun hk => nomatch hk
  · cases ho
    exact fun hk => nomatch hk

theorem kind_of_closeDevice {e e' : Engine σ ω} {f : Failure}
    (hc : closeDevice e = .error f e') : f.kind ≠ .execution := by
  unfold closeDevice withDevice ensureClosed onStation at hc
  split at hc
  · split at hc
    · split at hc
      · cases hc
      · cases hc
        exact fun hk => nomatch hk
    · cases hc
  · cases hc
    exact fun hk => nomatch hk

end Engine

/-- A run that ends with its steps or its end ends with a failure of one of them. -/
theorem World.kind_of_conclude {p : Engine.Outcome × World σ ω} {w : World σ ω} {f : Failure}
    (hf : ∀ f ∈ p.1.failure, f.kind ≠ .execution) (hc : World.conclude p = .error f w) :
    f.kind ≠ .execution := by
  have hact : World.act Engine.closeDevice p.2 =
      mapState Engine.world (Engine.closeDevice p.2.engine) := rfl
  unfold World.conclude at hc
  rw [hact] at hc
  cases hclose : Engine.closeDevice p.2.engine with
  | ok _ e =>
      rw [hclose] at hc
      cases hp : p.1.failure with
      | none =>
          rw [hp] at hc
          cases hc
      | some f' =>
          rw [hp] at hc
          cases hc
          exact hf f hp
  | error f' e =>
      rw [hclose] at hc
      cases hp : p.1.failure with
      | none =>
          rw [hp] at hc
          cases hc
          exact Engine.kind_of_closeDevice hclose
      | some f' =>
          rw [hp] at hc
          cases hc
          exact hf f hp

namespace Engine

theorem world_run (h : Host σ ω) {e e₁ : Engine σ ω} (ho : openDevice h e = .ok () e₁) :
    mapState world (run h e) = World.conclude (observe (drain h e₁)) := by
  have hclose := actsOnWorld_closeDevice.world_eq (drain h e₁).2
  simp only [run, ho, World.conclude, observe, ← hclose]
  cases closeDevice (drain h e₁).2 <;> cases (drain h e₁).1.failure <;> rfl

theorem run_of_openDevice_error (h : Host σ ω) {e e₁ : Engine σ ω} {f : Failure}
    (ho : openDevice h e = .error f e₁) : run h e = .error f e₁ := by
  rw [run, ho]

/-- The steps of a loaded script are what its lines say, whichever way it is meant to take
failures. -/
theorem observe_drain_withAbort {h : Host σ ω} {e e₁ : Engine σ ω} {text : String} {script : Script}
    (hp : Script.parse h.dialect text = .ok script)
    (ho : openDevice h (e.loadScript script) = .ok () e₁) (on : Bool) :
    observe (drain h (e₁.withAbort on)) =
      World.walk h 1 (Text.lines text.toList) (e₁.world.withAbort on) := by
  rw [(actsOnWorld_openDevice h).eq_withWorld ho]
  exact observe_drain_eq_walk h _ 1 _ ⟨[], script.commands, e₁.world.store, false⟩ rfl hp

/-- Take a script that leaves open whether failures end a run, and let one run be ended by them
and another one not. Nothing that goes wrong in the script ends the second one. If
nothing of this kind ends the first one, the two come to the same. In any case the steps of the
second one begin with some lines of the script that lead to the world in which the
steps of the first one have ended, and so all that is on record of these is on record of it. -/
theorem tolerant_run_goes_on (h : Host σ ω) (e : Engine σ ω) {text : String} {script : Script}
    (hp : Script.parse h.dialect text = .ok script)
    (hflag : ∀ x ∈ script.schedule, ∀ on, x.directive ≠ .abortOnFailure on) :
    let loaded := fun on => (e.withAbort on).loadScript script
    let strict := run h (loaded true)
    let tolerant := run h (loaded false)
    (∀ f e', tolerant = .error f e' → f.kind ≠ .execution) ∧
      ((∀ f e', strict = .error f e' → f.kind ≠ .execution) →
        mapState (fun e => e.world.withAbort false) strict = mapState world tolerant) ∧
      ∀ e₁, openDevice h (loaded true) = .ok () e₁ →
        let stopped := (drain h e₁).2
        openDevice h (loaded false) = .ok () (e₁.withAbort false) ∧
          (∃ before rest, Text.lines text.toList = before ++ rest ∧
            let begun := World.walk h 1 before (e₁.world.withAbort false)
            begun.2 = stopped.world.withAbort false ∧
              observe (drain h (e₁.withAbort false)) =
                World.andThen begun (World.walk h (1 + before.length) rest)) ∧
          stopped.station.events <+: (leftBy tolerant).station.events := by
  intro loaded strict tolerant
  have hplain := Script.isPlain_of_ofLines hp hflag
  have hopen : ∀ on, openDevice h (loaded on) =
      mapState (withAbort on) (openDevice h (e.loadScript script)) :=
    fun on => impartial_openDevice h on (e.loadScript script)
  cases ho : openDevice h (e.loadScript script) with
  | error f e₁ =>
      have hrun : ∀ on, run h (loaded on) = .error f (e₁.withAbort on) := by
        intro on
        refine run_of_openDevice_error h ?_
        rw [hopen, ho]
        rfl
      refine ⟨fun f' e' he => ?_, fun _ => ?_, fun e' he => ?_⟩
      · cases (hrun false).symm.trans he
        exact kind_of_openDevice ho
      · show mapState _ (run h (loaded true)) = mapState _ (run h (loaded false))
        rw [hrun, hrun]
        rfl
      · rw [hopen, ho] at he
        cases he
  | ok _ e₁ =>
      rw [ho] at hopen
      let lines := Text.lines text.toList
      have hdrain := observe_drain_withAbort hp ho
      have hrun : ∀ on, mapState world (run h (loaded on)) =
          World.conclude (World.walk h 1 lines (e₁.world.withAbort on)) := by
        intro on
        rw [world_run h (hopen on), hdrain]
      have hcut := World.cut_walk h lines 1 e₁.world hplain
      refine ⟨fun f e' he => ?_, fun hstrict => ?_, fun e₂ he₂ => ?_⟩
      · have hrun' := hrun false
        rw [show run h (loaded false) = .error f e' from he] at hrun'
        exact World.kind_of_conclude (World.kind_of_walk h lines 1 e₁.world hplain) hrun'.symm
      · rcases hcut with ⟨o, w, -, hs, ht⟩ | ⟨before, rest, rs, rs', f, w, -, hkind, hs, -⟩
        · have hmap : mapState (fun e : Engine σ ω => e.world.withAbort false) strict =
              mapState (World.withAbort false) (mapState world strict) :=
            (mapState_mapState ..).symm
          rw [hmap, hrun true, hrun false, hs, ht, World.conclude_withAbort,
            World.conclude_withAbort, mapState_mapState]
          rfl
        · -- a run that a failure of the script has ended is not one of these
          have hrun' := hrun true
          obtain ⟨w', hw'⟩ := World.conclude_of_failure rs f (w.withAbort true)
          rw [hs, hw'] at hrun'
          cases he : run h (loaded true) with
          | ok _ e' =>
              rw [he] at hrun'
              cases hrun'
          | error f' e' =>
              rw [he] at hrun'
              cases hrun'
              exact absurd hkind (hstrict f e' he)
      · obtain rfl : e₂ = e₁.withAbort true := by
          rw [hopen] at he₂
          cases he₂
          rfl
        have hstopped : (drain h (e₁.withAbort true)).2.world = _ := congrArg Prod.snd (hdrain true)
        have hend : (leftBy tolerant).world =
            leftBy (World.conclude (World.walk h 1 lines (e₁.world.withAbort false))) := by
          rw [← hrun, leftBy_mapState]
        obtain ⟨before, rest, hlines, hbegun, hgo, hevents⟩ :=
          World.exists_before_of_walk h lines 1 e₁.world hplain
        refine ⟨hopen false, ⟨before, rest, hlines, ?_, (hdrain false).trans hgo⟩, ?_⟩
        · rw [hstopped]
          exact hbegun
        · show (drain h (e₁.withAbort true)).2.world.station.events <+:
            (leftBy tolerant).world.station.events
          rw [hstopped, hend]
          exact hevents.trans (World.events_conclude _)

/-- A command line takes a second, in which it makes the modem ring, and ends well if the modem
has been written to once; a variable is set only in the first second. So it is not set any more
when it is asked for, and the reply to the last command begins with what the modem has rung. The
run that this can end stops at the variable, and what it has put on record by then is on record
of the other run too, which nothing of this kind ends. -/
theorem tolerant_run_goes_on_unset :
    let h : Host Modem.State Nat :=
      { Host.bare with
        environment := fun _ m _ => if m.clock < 1000 then .ok "early" else .error .notSet
        shell := fun _ m calls =>
          ⟨.ok ⟨toString calls, .exited (m.device.elim 1 fun s => s.writes - 1)⟩, 1000,
            fun s => { s with buffer := s.buffer ++ Utf8.encode "RING\r\n" }, calls + 1⟩ }
    let modem : Modem :=
      ⟨[[⟨0, Utf8.encode "OK\r\n"⟩], [⟨5, Utf8.encode "OK\r\n"⟩]], [], none, none, false, [], [],
        none, true⟩
    let e : Engine Modem.State Nat :=
      { session := .empty, station := .new (.new (some "v") (some 9600)) modem.channel
        schedule := [], abortOnFailure := true, position := 0, host := 7 }
    let text := "AT;;OK\nEXEC ring\nGETENV HOME\nPRINT got it\nATI;;OK\n"
    let script : Script :=
      ⟨[.ofRequest (.new "AT" (some "OK")) [], .ofRequest (.new "ATI" (some "OK")) []],
        [⟨.exec "ring", 1⟩, ⟨.environment "HOME", 1⟩, ⟨.print "got it", 1⟩]⟩
    let loaded := fun on => (e.withAbort on).loadScript script
    let tolerant := run h (loaded false)
    let begun : List Event := [.opened "v" 9600 false false, .sent "AT\r\n", .ran "ring" "7"]
    Script.parse h.dialect text = .ok script ∧
      (∀ x ∈ script.schedule, ∀ on, x.directive ≠ .abortOnFailure on) ∧
      (∀ f e', tolerant = .error f e' → f.kind ≠ .execution) ∧
      (leftBy tolerant).session.commands.map (·.response.map Response.lines) =
        [some ["OK"], some ["RING", "OK"]] ∧
      (leftBy tolerant).station.events =
        begun ++ [.printed "got it\n", .sent "ATI\r\n", .closed] ∧
      ∃ e₁, openDevice h (loaded true) = .ok () e₁ ∧
        (drain h e₁).2.station.events = begun ∧
        (drain h e₁).2.station.events <+: (leftBy tolerant).station.events := by
  intro h modem e text script loaded tolerant begun
  have hp : Script.parse h.dialect text = .ok script :=
    eq_ok_of_toOption_eq_some (by decide +kernel)
  have hflag : ∀ x ∈ script.schedule, ∀ on, x.directive ≠ .abortOnFailure on := by decide
  obtain ⟨hkind, -, hsteps⟩ := tolerant_run_goes_on h e hp hflag
  exact ⟨hp, hflag, hkind, by decide +kernel, by decide +kernel, _, rfl, by decide +kernel,
    (hsteps _ rfl).2.2⟩

end Engine

end ModemScript
