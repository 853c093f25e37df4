import ModemScript.Modem
import ModemScript.Proofs.CommandFields
import ModemScript.Proofs.Journey
import ModemScript.Proofs.Record

/-!
# What has been read can be judged

What is expected of a reply is kept as a text, and only when a reply has come is it tried as a
pattern; a text that is no pattern would match nothing. No script comes to that. Patterns and
timeouts are checked when a line is read, and nothing that happens to a command afterwards touches
them: it gets another text when it is handed out, a response when it is judged, and when it has
failed its fallback becomes a command of its own (`Command.Sound`).

So soundness is an invariant of engines, and it says something about a run once it is clear what
is sent in the run. A step sends one command at most, and `step_eq_send` tells which
(`sending?`). The account of a run lists these commands, and the device is given nothing that does
not belong to one of them (`sent_foldl_turn`).
-/

namespace ModemScript

variable {σ ω α : Type} {d : Dialect}

/-! ## Commands -/

/-- What is expected is a pattern, and the time that is allowed is a second or more. -/
structure Request.Sound (d : Dialect) (r : Request) : Prop where
  accepts : ∀ pattern ∈ r.expected, d.accepts pattern = true
  timeout : ∀ seconds ∈ r.timeout, 1 ≤ seconds

namespace Command

/-- The requests of a command are sound, and it has one fallback at most. -/
structure Sound (d : Dialect) (c : Command) : Prop where
  request : c.request.Sound d
  fallbacks : ∀ r ∈ c.fallbacks, r.Sound d
  single : c.fallbacks.length ≤ 1

theorem Sound.withText {c : Command} (hc : c.Sound d) (text : String) :
    (c.withText text).Sound d :=
  ⟨⟨hc.request.accepts, hc.request.timeout⟩, hc.fallbacks, hc.single⟩

theorem Sound.withResponse {c : Command} (hc : c.Sound d) (response : Option Response) :
    Sound d { c with response := response } :=
  ⟨hc.request, hc.fallbacks, hc.single⟩

theorem Sound.fallbacks_fallback {c f : Command} (hc : c.Sound d) (hf : f ∈ c.fallback?) :
    f.fallbacks = [] := by
  have hsingle := hc.single
  unfold fallback? at hf
  split at hf
  · cases hf
  · next r rest hfallbacks =>
      cases hf
      rw [hfallbacks, List.length_cons] at hsingle
      show rest = []
      exact List.length_eq_zero_iff.1 (by omega)

theorem Sound.fallback {c f : Command} (hc : c.Sound d) (hf : f ∈ c.fallback?) : f.Sound d := by
  have hnone := hc.fallbacks_fallback hf
  have hsound := hc.fallbacks
  unfold fallback? at hf
  split at hf
  · cases hf
  · next r rest hfallbacks =>
      cases hf
      rw [hfallbacks] at hsound
      refine ⟨hsound r List.mem_cons_self, ?_, ?_⟩
      · rw [hnone]
        nofun
      · rw [hnone]
        exact Nat.zero_le 1

theorem accepts_of_pattern? {field : Option (List Char)} {expected : Option String}
    (h : pattern? d field = .ok expected) : ∀ pattern ∈ expected, d.accepts pattern = true := by
  unfold pattern? at h
  split at h
  · cases h
    nofun
  · next s =>
      simp only at h
      split at h
      · next hcompile =>
          cases h
          exact forall_mem_some.2 (Dialect.accepts_of_ok hcompile)
      · cases h

theorem sound_requestOf (text : List Char) {expected : Option String}
    (he : ∀ pattern ∈ expected, d.accepts pattern = true) (delay timeout : Option Int)
    (collectables : Option (List String)) :
    (requestOf text expected delay timeout collectables).Sound d := by
  unfold requestOf
  cases timeout with
  | none => exact ⟨he, nofun⟩
  | some seconds =>
      obtain ⟨n, hn, hle⟩ := (((Request.new (String.ofList text) expected).withDelay
        (delay.getD 0)).withCollectables collectables).timeout_withTimeout seconds
      refine ⟨he, ?_⟩
      simp only [Option.elim_some, hn]
      exact forall_mem_some.2 hle

theorem sound_of_parse {line : List Char} {c : Command} (h : parse d line = .ok c) :
    c.Sound d := by
  rw [parse_eq_ofFields] at h
  unfold ofFields at h
  simp only at h
  split at h
  · cases h
  · obtain ⟨delay, -, h⟩ := exists_of_bind_eq_ok h
    obtain ⟨timeout, -, h⟩ := exists_of_bind_eq_ok h
    obtain ⟨collectables, -, h⟩ := exists_of_bind_eq_ok h
    obtain ⟨expected, hexpected, h⟩ := exists_of_bind_eq_ok h
    obtain ⟨fallbackExpected, hfallbackExpected, h⟩ := exists_of_bind_eq_ok h
    cases h
    refine ⟨sound_requestOf _ (accepts_of_pattern? hexpected) .., ?_, ?_⟩
    · intro r hr
      obtain ⟨text, -, rfl⟩ := List.mem_map.1 hr
      exact sound_requestOf _ (accepts_of_pattern? hfallbackExpected) ..
    · show (List.map _ _).length ≤ 1
      rw [List.length_map]
      exact Option.length_toList_le

end Command

theorem Line.sound_of_parse {line : List Char} {c : Command}
    (h : Line.parse d line = .ok (.command c)) : c.Sound d := by
  unfold Line.parse at h
  simp only at h
  split at h
  · split at h <;> cases h
  · split at h
    · next hparse =>
        cases h
        exact Command.sound_of_parse hparse
    · cases h

theorem Script.sound_of_ofLines {ls : List (List Char)} :
    ∀ {number index : Nat} {s : Script}, ofLines d number index ls = .ok s →
      ∀ c ∈ s.commands, c.Sound d := by
  induction ls with
  | nil =>
      intro number index s h
      cases h
      nofun
  | cons l ls ih =>
      intro number index s h
      by_cases hl : Line.isSilent l = true
      · rw [ofLines_cons_of_silent hl] at h
        exact ih h
      · obtain ⟨line, s', hline, hrest, rfl⟩ := exists_of_ofLines_cons hl h
        cases line with
        | directive x => exact ih (s := s') hrest
        | command c =>
            intro c' hc'
            rcases List.mem_cons.1 hc' with rfl | hc'
            · exact Line.sound_of_parse hline
            · exact ih hrest c' hc'

/-! ## Sessions -/

namespace Session

def Sound (d : Dialect) (s : Session) : Prop := ∀ c ∈ s.commands, c.Sound d

theorem Sound.of_current? {s : Session} (hs : s.Sound d) {c : Command}
    (hc : s.current? = some c) : c.Sound d := hs c (List.mem_of_getElem? hc)

theorem Sound.next? {s s' : Session} {c : Command} (hs : s.Sound d)
    (h : s.next? = some (c, s')) : s'.Sound d := by
  obtain ⟨c', hc, he⟩ := Option.map_eq_some_iff.1 h
  cases he
  intro x hx
  rcases List.mem_or_eq_of_mem_set hx with hx | rfl
  · exact hs x hx
  · exact (hs.of_current? hc).withText _

theorem Sound.splice {s : Session} (hs : s.Sound d) (index : Nat) {others : List Command}
    (hothers : ∀ c ∈ others, c.Sound d) :
    ∀ c ∈ Session.splice s.commands index others, c.Sound d := by
  intro c hc
  rcases List.mem_append.1 hc with hc | hc
  · rcases List.mem_append.1 hc with hc | hc
    · exact hs c (List.mem_of_mem_take hc)
    · exact hothers c hc
  · exact hs c (List.mem_of_mem_drop hc)

theorem Sound.validate {s : Session} (hs : s.Sound d) (lines : List String) (elapsed : Int) :
    (s.validate d lines elapsed).2.Sound d := by
  unfold Session.validate
  cases hcurrent : s.current? with
  | none => exact hs
  | some c =>
      have hc := hs.of_current? hcurrent
      simp only
      split
      · refine hs.splice _ fun x hx => ?_
        rcases List.mem_cons.1 hx with rfl | hx
        · exact hc.withResponse _
        · exact hc.fallback (Option.mem_toList.1 hx)
      · refine hs.splice _ fun x hx => ?_
        rw [List.mem_singleton.1 hx]
        exact hc.withResponse _

end Session

/-! ## Settings -/

namespace Settings

/-- The time that is allowed when a command does not say is a second or more. -/
def Sound (s : Settings) : Prop := 1 ≤ s.timeout

theorem sound_new (device : Option String) (baudRate : Option Nat) : (new device baudRate).Sound := by
  show 1 ≤ 10
  omega

theorem sound_withTimeout (s : Settings) (seconds : Int) : (s.withTimeout seconds).Sound := by
  unfold Sound withTimeout defaultTimeout
  simp only
  split
  · omega
  · omega

end Settings

/-! ## Engines -/

namespace Engine

theorem sound_settings_apply (h : Host σ ω) (x : Directive) {e : Engine σ ω}
    (he : e.station.settings.Sound) : (leftBy (apply h x e)).station.settings.Sound := by
  rw [settings_apply]
  cases x with
  | timeout seconds => exact Settings.sound_withTimeout e.station.settings seconds
  | device | baudRate | rtsCts | dsrDtr => exact he
  | lineBreak | abortOnFailure | set | environment | print | exec | write => exact he

end Engine

/-- What every directive keeps of the settings, directives one after the other keep. -/
theorem World.settings_carry {h : Host σ ω} {p : Settings → Prop}
    (hp : ∀ x (e : Engine σ ω), p e.station.settings →
      p (leftBy (Engine.apply h x e)).station.settings) (xs : List Scheduled) :
    ∀ {w : World σ ω}, p w.station.settings → p (carry h xs w).world.station.settings := by
  induction xs with
  | nil => exact id
  | cons x xs ih =>
      intro w hw
      have hx : p (leftBy (act (Engine.apply h x.directive) w)).station.settings := by
        rw [act, leftBy_mapState]
        exact hp x.directive w.engine hw
      unfold carry
      cases hact : act (Engine.apply h x.directive) w with
      | ok _ w' =>
          rw [hact] at hx
          exact ih hx
      | error cause w' =>
          rw [hact] at hx
          simp only
          split
          · exact hx
          · exact ih hx

theorem World.sound_settings_carry (h : Host σ ω) (xs : List Scheduled) {w : World σ ω}
    (hw : w.station.settings.Sound) : (carry h xs w).world.station.settings.Sound :=
  settings_carry (fun x _ => Engine.sound_settings_apply h x) xs hw

theorem World.sent_carry (h : Host σ ω) (xs : List Scheduled) :
    ∀ {w : World σ ω}, (carry h xs w).world.station.sent = w.station.sent := by
  induction xs with
  | nil => exact rfl
  | cons x xs ih =>
      intro w
      have hx := (w.quiet_apply h x.directive).sent
      unfold carry
      cases hact : act (Engine.apply h x.directive) w with
      | ok _ w' =>
          rw [hact] at hx
          exact ih.trans hx
      | error cause w' =>
          rw [hact] at hx
          simp only
          split
          · exact hx
          · exact ih.trans hx

namespace Engine

/-- The commands are sound, and so are the settings. -/
structure Sound (d : Dialect) (e : Engine σ ω) : Prop where
  session : e.session.Sound d
  settings : e.station.settings.Sound

/-- The command that a step sends, if it comes to that, and the engine that sends it. -/
def sending? (h : Host σ ω) (e : Engine σ ω) : Option (Command × Engine σ ω) :=
  let r := carried h e
  match r.failure with
  | some _ => none
  | none =>
    let e := (e.plan e.later).withWorld r.world
    e.session.next?.map fun (c, session) => (c, { e with session := session })

theorem exists_of_sending? {h : Host σ ω} {e e₁ : Engine σ ω} {c : Command}
    (hs : sending? h e = some (c, e₁)) :
    let e' := (e.plan e.later).withWorld (carried h e).world
    ∃ session, e'.session.next? = some (c, session) ∧ e₁ = { e' with session := session } := by
  unfold sending? at hs
  simp only at hs
  split at hs
  · cases hs
  · obtain ⟨p, hnext, heq⟩ := Option.map_eq_some_iff.1 hs
    cases heq
    exact ⟨_, hnext, rfl⟩

/-- A command that is sent leaves the session as it is until the reply is judged. -/
theorem send_eq_validate (h : Host σ ω) (c : Command) (e : Engine σ ω) :
    send h c e =
      match Station.exchange c.text c.request.timeout (e.station.sleep c.request.delay) with
      | .error cause s => .error (.transport cause) { e with station := s }
      | .ok reply s =>
        let judged := e.session.validate h.dialect reply.lines reply.elapsed
        .ok judged.1 { e with session := judged.2, station := s } := by
  simp only [send, onStation]
  cases Station.exchange c.text c.request.timeout (e.station.sleep c.request.delay) <;> rfl

/-- A step sends one command, and judges the reply to it, or it ends before that. -/
theorem step_eq_send (h : Host σ ω) (e : Engine σ ω) :
    step h e =
      match sending? h e with
      | none =>
        let r := carried h e
        match r.failure with
        | none => .ok none ((e.plan e.later).withWorld r.world)
        | some f => .error f ((e.plan (r.left ++ e.later)).withWorld r.world)
      | some (c, e) =>
        match send h c e with
        | .error f e => .error f e
        | .ok response e =>
          if e.isLost c && e.abortOnFailure then .error (badResponse response) e
          else if e.session.failed && !c.fallbacks.isEmpty then .ok (some response) e
          else .ok (some response) { e with position := e.position + 1 } := by
  rw [step_eq_carried, sending?]
  simp only
  cases (carried h e).failure with
  | some f => rfl
  | none =>
      simp only [sendNext]
      cases ((e.plan e.later).withWorld (carried h e).world).session.next? with
      | none => rfl
      | some p => rfl

namespace Sound

variable {h : Host σ ω} {e e₁ : Engine σ ω} {c : Command}

theorem carried (he : e.Sound d) (schedule : List Scheduled) :
    ((e.plan schedule).withWorld (carried h e).world).Sound d :=
  ⟨he.session, World.sound_settings_carry h e.due he.settings⟩

theorem of_sending? (he : e.Sound d) (hs : sending? h e = some (c, e₁)) :
    e₁.Sound d ∧ e₁.session.current? = some c := by
  obtain ⟨session, hnext, rfl⟩ := exists_of_sending? hs
  have hcarried := he.carried (h := h) e.later
  exact ⟨⟨hcarried.session.next? hnext, hcarried.settings⟩, Session.current?_next? hnext⟩

theorem send (he : e.Sound h.dialect) (c : Command) : (leftBy (send h c e)).Sound h.dialect := by
  have hsettings := Station.settings_exchange c.text c.request.timeout
    (e.station.sleep c.request.delay)
  rw [send_eq_validate]
  cases hexchange : Station.exchange c.text c.request.timeout
      (e.station.sleep c.request.delay) with
  | error cause s =>
      rw [hexchange] at hsettings
      refine ⟨he.session, ?_⟩
      show s.settings.Sound
      exact hsettings ▸ he.settings
  | ok reply s =>
      rw [hexchange] at hsettings
      refine ⟨he.session.validate reply.lines reply.elapsed, ?_⟩
      show s.settings.Sound
      exact hsettings ▸ he.settings

/-- What one step preserves. -/
theorem step (he : e.Sound h.dialect) : (leftBy (step h e)).Sound h.dialect := by
  rw [step_eq_send]
  cases hs : sending? h e with
  | none =>
      simp only
      split
      · exact he.carried e.later
      · exact he.carried _
  | some p =>
      obtain ⟨c, e₁⟩ := p
      have hsend := (he.of_sending? hs).1.send c
      simp only
      cases hresult : Engine.send h c e₁ with
      | error f e₂ =>
          rw [hresult] at hsend
          exact hsend
      | ok response e₂ =>
          rw [hresult] at hsend
          simp only
          split
          · exact hsend
          · split
            · exact hsend
            · exact ⟨hsend.session, hsend.settings⟩

/-- Opening and closing the device leave everything that matters here. -/
theorem of_actsOnWorld {a : Action σ ω α} (he : e.Sound d) (ha : ActsOnWorld a)
    (hsettings : (leftBy (a e)).station.settings = e.station.settings) :
    (leftBy (a e)).Sound d := by
  refine ⟨?_, hsettings ▸ he.settings⟩
  rw [ha e, leftBy_mapState]
  exact he.session

theorem openDevice (he : e.Sound d) : (leftBy (openDevice h e)).Sound d :=
  he.of_actsOnWorld (actsOnWorld_openDevice h) (e.keeps_openDevice h).settings

theorem closeDevice (he : e.Sound d) : (leftBy (closeDevice e)).Sound d :=
  he.of_actsOnWorld actsOnWorld_closeDevice e.keeps_closeDevice.settings

theorem drain (he : e.Sound h.dialect) : (drain h e).2.Sound h.dialect := by
  fun_induction Engine.drain h e with
  | case1 e r e₁ hstep outcome e₂ hdrain ih =>
      have hnext := he.step
      rw [hstep] at hnext
      rw [hdrain] at ih
      exact ih hnext
  | case2 e e₁ hstep =>
      have hnext := he.step
      rw [hstep] at hnext
      exact hnext
  | case3 e f e₁ hstep =>
      have hnext := he.step
      rw [hstep] at hnext
      exact hnext

theorem run (he : e.Sound h.dialect) : (leftBy (run h e)).Sound h.dialect := by
  have hopen := he.openDevice (h := h)
  unfold Engine.run
  cases hopened : Engine.openDevice h e with
  | error f e₁ =>
      rw [hopened] at hopen
      exact hopen
  | ok _ e₁ =>
      rw [hopened] at hopen
      have hdrain : (Engine.drain h e₁).2.Sound h.dialect := drain hopen
      have hclose := hdrain.closeDevice
      simp only
      generalize Engine.closeDevice (Engine.drain h e₁).2 = closed at hclose ⊢
      cases closed <;> cases (Engine.drain h e₁).1.failure <;> exact hclose

end Sound

/-! ## Runs -/

/-- The commands that are sent while steps are taken until no command is left or one fails, each
with the engine that sends it. -/
def drainSends (h : Host σ ω) (e : Engine σ ω) : List (Command × Engine σ ω) :=
  match _ : step h e with
  | .ok (some _) e₁ => (sending? h e).toList ++ drainSends h e₁
  | .ok none _ => (sending? h e).toList
  | .error _ _ => (sending? h e).toList
termination_by e.session.remaining
decreasing_by exact remaining_step_lt ‹_›

theorem drainSends_eq (h : Host σ ω) (e : Engine σ ω) :
    drainSends h e =
      (sending? h e).toList ++
        match step h e with
        | .ok (some _) e₁ => drainSends h e₁
        | _ => [] := by
  rw [drainSends]
  split <;> next hstep => simp only [hstep, List.append_nil]

/-- What can be done with a script that is loaded. Anything may happen to the world between two
runs or steps. -/
inductive Turn (σ ω : Type) where
  | run
  | step
  | change (f : World σ ω → World σ ω)

/-- The engine after a turn, whether or not it fails. -/
def turn (h : Host σ ω) (e : Engine σ ω) : Turn σ ω → Engine σ ω
  | .run => leftBy (run h e)
  | .step => leftBy (step h e)
  | .change f => e.withWorld (f e.world)

/-- The commands that are sent in a turn. -/
def turnSends (h : Host σ ω) (e : Engine σ ω) : Turn σ ω → List (Command × Engine σ ω)
  | .run =>
    match openDevice h e with
    | .ok () e => drainSends h e
    | .error _ _ => []
  | .step => (sending? h e).toList
  | .change _ => []

/-- The commands that are sent in turns one after the other. -/
def sends (h : Host σ ω) : List (Turn σ ω) → Engine σ ω → List (Command × Engine σ ω)
  | [], _ => []
  | x :: xs, e => turnSends h e x ++ sends h xs (turn h e x)

/-! ## What the device is given -/

/-- What the device is given when a command is sent: its text with the terminator, or nothing if
the line is closed. -/
def given (x : Command × Engine σ ω) : List String :=
  if x.2.station.isOpen then [x.1.text ++ x.2.station.settings.terminator.text] else []

theorem sent_carried (h : Host σ ω) (e : Engine σ ω) :
    (carried h e).world.station.sent = e.station.sent :=
  World.sent_carry h e.due

theorem sent_send (h : Host σ ω) (c : Command) (e : Engine σ ω) :
    (leftBy (send h c e)).station.sent = e.station.sent ++ given (c, e) := by
  have hsent := Station.sent_exchange c.text c.request.timeout (e.station.sleep c.request.delay)
  rw [send_eq_validate]
  cases hexchange : Station.exchange c.text c.request.timeout (e.station.sleep c.request.delay) <;>
    · rw [hexchange] at hsent
      exact hsent

theorem sent_step (h : Host σ ω) (e : Engine σ ω) :
    (leftBy (step h e)).station.sent = e.station.sent ++ (sending? h e).toList.flatMap given := by
  have hcarried := sent_carried h e
  rw [step_eq_send]
  cases hs : sending? h e with
  | none =>
      rw [Option.toList_none, List.flatMap_nil, List.append_nil, ← hcarried]
      simp only
      split <;> rfl
  | some p =>
      obtain ⟨c, e₁⟩ := p
      have hsend := sent_send h c e₁
      have hsame : e₁.station.sent = e.station.sent := by
        obtain ⟨session, -, rfl⟩ := exists_of_sending? hs
        exact hcarried
      rw [hsame] at hsend
      rw [Option.toList_some, List.flatMap_singleton, ← hsend]
      simp only
      cases send h c e₁ with
      | error f e₂ => rfl
      | ok response e₂ =>
          simp only
          split
          · rfl
          · split <;> rfl

theorem sent_drain (h : Host σ ω) (e : Engine σ ω) :
    (drain h e).2.station.sent = e.station.sent ++ (drainSends h e).flatMap given := by
  fun_induction drain h e with
  | case1 e r e₁ hstep outcome e₂ hdrain ih =>
      have hsent := sent_step h e
      rw [hstep] at hsent
      rw [hdrain] at ih
      rw [drainSends_eq, hstep, List.flatMap_append, ← List.append_assoc, ← hsent]
      exact ih
  | case2 e e₁ hstep =>
      have hsent := sent_step h e
      rw [hstep] at hsent
      rw [drainSends_eq, hstep, List.append_nil]
      exact hsent
  | case3 e f e₁ hstep =>
      have hsent := sent_step h e
      rw [hstep] at hsent
      rw [drainSends_eq, hstep, List.append_nil]
      exact hsent

theorem sent_run (h : Host σ ω) (e : Engine σ ω) :
    (leftBy (run h e)).station.sent = e.station.sent ++ (turnSends h e .run).flatMap given := by
  have hopen := (e.keeps_openDevice h).sent
  rw [run, turnSends]
  cases hopened : openDevice h e with
  | error f e₁ =>
      rw [hopened] at hopen
      exact hopen.trans (List.append_nil _).symm
  | ok _ e₁ =>
      rw [hopened] at hopen
      have hdrain := sent_drain h e₁
      have hclose := (drain h e₁).2.keeps_closeDevice.sent
      rw [show e₁.station.sent = e.station.sent from hopen, ← hclose] at hdrain
      simp only
      generalize closeDevice (drain h e₁).2 = closed at hdrain ⊢
      cases closed <;> cases (drain h e₁).1.failure <;> exact hdrain

/-- The device is given what belongs to the commands of `sends`, one after the other. -/
theorem sent_foldl_turn (h : Host σ ω) {turns : List (Turn σ ω)}
    (hturns : ∀ f, .change f ∈ turns → ∀ w, (f w).station.sent = w.station.sent) :
    ∀ {e : Engine σ ω}, (turns.foldl (turn h) e).station.sent =
      e.station.sent ++ (sends h turns e).flatMap given := by
  induction turns with
  | nil => exact (List.append_nil _).symm
  | cons x xs ih =>
      intro e
      have hx : (turn h e x).station.sent = e.station.sent ++ (turnSends h e x).flatMap given := by
        cases x with
        | run => exact sent_run h e
        | step => exact sent_step h e
        | change f =>
            exact (hturns f List.mem_cons_self e.world).trans (List.append_nil _).symm
      rw [List.foldl_cons, ih fun f hf => hturns f (List.mem_cons_of_mem x hf), hx, sends,
        List.flatMap_append, List.append_assoc]

/-! ## Sound sends -/

/-- A command that is sent by an engine to which it belongs, and both are sound. -/
def SoundSend (d : Dialect) (x : Command × Engine σ ω) : Prop :=
  x.2.session.current? = some x.1 ∧ x.2.Sound d

namespace Sound

variable {h : Host σ ω} {e : Engine σ ω}

theorem sending? (he : e.Sound h.dialect) :
    ∀ x ∈ (sending? h e).toList, SoundSend h.dialect x := by
  intro x hx
  obtain ⟨hsound, hcurrent⟩ := he.of_sending? (Option.mem_toList.1 hx)
  exact ⟨hcurrent, hsound⟩

theorem drainSends (he : e.Sound h.dialect) :
    ∀ x ∈ drainSends h e, SoundSend h.dialect x := by
  fun_induction Engine.drainSends h e with
  | case1 e r e₁ hstep ih =>
      intro x hx
      rcases List.mem_append.1 hx with hx | hx
      · exact he.sending? x hx
      · have hnext := he.step
        rw [hstep] at hnext
        exact ih hnext x hx
  | case2 e e₁ hstep => exact he.sending?
  | case3 e f e₁ hstep => exact he.sending?

theorem turn (he : e.Sound h.dialect) {x : Turn σ ω}
    (hx : ∀ f, x = .change f → ∀ w, w.station.settings.Sound → (f w).station.settings.Sound) :
    (turn h e x).Sound h.dialect := by
  cases x with
  | run => exact he.run
  | step => exact he.step
  | change f => exact ⟨he.session, hx f rfl e.world he.settings⟩

theorem turnSends (he : e.Sound h.dialect) (x : Turn σ ω) :
    ∀ y ∈ turnSends h e x, SoundSend h.dialect y := by
  cases x with
  | run =>
      have hopen := he.openDevice (h := h)
      unfold Engine.turnSends
      cases hopened : Engine.openDevice h e with
      | error f e₁ => exact fun y hy => absurd hy List.not_mem_nil
      | ok _ e₁ =>
          rw [hopened] at hopen
          exact drainSends hopen
  | step => exact he.sending?
  | change f => exact fun y hy => absurd hy List.not_mem_nil

theorem sends (he : e.Sound h.dialect) {turns : List (Turn σ ω)}
    (hturns : ∀ f, .change f ∈ turns →
      ∀ w, w.station.settings.Sound → (f w).station.settings.Sound) :
    ∀ x ∈ sends h turns e, SoundSend h.dialect x := by
  induction turns generalizing e with
  | nil => exact fun y hy => absurd hy List.not_mem_nil
  | cons x xs ih =>
      have hnext := he.turn (x := x) fun f hf => hturns f (hf ▸ List.mem_cons_self)
      intro y hy
      rcases List.mem_append.1 hy with hy | hy
      · exact he.turnSends x y hy
      · exact ih hnext (fun f hf => hturns f (List.mem_cons_of_mem x hf)) y hy

end Sound

/-- However a script is run once it is loaded, the device is given what belongs to certain commands
and nothing else. Each of them is the one to which the reply is judged, what it expects is a
pattern, its fallback has no fallback, and a second or more is allowed for the reply. -/
theorem sends_loadScript_sound (h : Host σ ω) {text : String} {script : Script}
    (hscript : Script.parse h.dialect text = .ok script) {e : Engine σ ω}
    (he : e.station.settings.Sound) {turns : List (Turn σ ω)}
    (hturns : ∀ f, .change f ∈ turns →
      ∀ w, w.station.settings.Sound → (f w).station.settings.Sound) :
    let account := sends h turns (e.loadScript script)
    ((∀ f, .change f ∈ turns → ∀ w, (f w).station.sent = w.station.sent) →
      (turns.foldl (turn h) (e.loadScript script)).station.sent =
        e.station.sent ++ account.flatMap given) ∧
      ∀ x ∈ account,
        x.2.session.current? = some x.1 ∧
          (∀ pattern ∈ x.1.request.expected, h.dialect.accepts pattern = true) ∧
          (∀ f ∈ x.1.fallback?, f.fallbacks = []) ∧
          1 ≤ x.1.request.timeout.getD x.2.station.settings.timeout := by
  intro account
  refine ⟨fun hsent => sent_foldl_turn h hsent, fun x hx => ?_⟩
  have hloaded : (e.loadScript script).Sound h.dialect := ⟨Script.sound_of_ofLines hscript, he⟩
  obtain ⟨hcurrent, hsound⟩ := hloaded.sends hturns x hx
  have hc := hsound.session.of_current? hcurrent
  refine ⟨hcurrent, hc.request.accepts, fun f => hc.fallbacks_fallback, ?_⟩
  cases ht : x.1.request.timeout with
  | none => exact hsound.settings
  | some seconds => exact hc.request.timeout seconds ht

/-- A command with a timeout of no seconds whose fallback takes its place, and one without a timeout
of its own, in a run after the time that is allowed otherwise has been set. -/
theorem sends_loadScript_sound_fallback :
    let h : Host Modem.State Unit :=
      { Host.bare with dialect :=
          ⟨fun text => if text = "(" then .error "open" else .ok fun line => line == text⟩ }
    let modem : Modem :=
      ⟨[[⟨0, Utf8.encode "ERROR\r\n"⟩], [⟨5, Utf8.encode "OK\r\n"⟩]], [], none, none, false, [], [],
        none, true⟩
    let e : Engine Modem.State Unit :=
      { session := .empty, station := .new (.new (some "v") (some 9600)) modem.channel
        schedule := [], abortOnFailure := true, position := 0, host := () }
    let text := "SET PIN=1\nAT+CPIN?;;READY;;0;;0;;;;AT+CPIN=${PIN};;OK\nATI\n"
    let script : Script :=
      ⟨[⟨⟨"AT+CPIN?", some "READY", some 1, 0, none⟩,
          [⟨"AT+CPIN=${PIN}", some "OK", some 1, 0, none⟩], none⟩,
        .ofRequest (.new "ATI" none) []], [⟨.set "PIN" "1", 0⟩]⟩
    let hurry (w : World Modem.State Unit) : World Modem.State Unit :=
      { w with station := w.station.configure (·.withTimeout 2) }
    let turns : List (Turn Modem.State Unit) := [.change hurry, .run]
    let account := sends h turns (e.loadScript script)
    Script.parse h.dialect text = .ok script ∧ e.station.settings.Sound ∧
      (∀ f, .change f ∈ turns → ∀ w, w.station.settings.Sound → (f w).station.settings.Sound) ∧
      account.map (fun x => x.1.text) = ["AT+CPIN?", "AT+CPIN=1", "ATI"] ∧
      (turns.foldl (turn h) (e.loadScript script)).station.sent = account.flatMap given ∧
      ∀ x ∈ account,
        x.2.session.current? = some x.1 ∧
          (∀ pattern ∈ x.1.request.expected, h.dialect.accepts pattern = true) ∧
          (∀ f ∈ x.1.fallback?, f.fallbacks = []) ∧
          1 ≤ x.1.request.timeout.getD x.2.station.settings.timeout := by
  intro h modem e text script hurry turns account
  have hscript : Script.parse h.dialect text = .ok script :=
    eq_ok_of_toOption_eq_some (by decide +kernel)
  have he : e.station.settings.Sound := Settings.sound_new ..
  have hchange : ∀ f, .change f ∈ turns → f = hurry := by
    intro f hf
    simpa only [turns, List.mem_cons, List.not_mem_nil, Turn.change.injEq, reduceCtorEq,
      or_false] using hf
  have hturns : ∀ f, .change f ∈ turns →
      ∀ w, w.station.settings.Sound → (f w).station.settings.Sound := by
    intro f hf w _
    rw [hchange f hf]
    exact Settings.sound_withTimeout ..
  have htexts : account.map (fun x => x.1.text) = ["AT+CPIN?", "AT+CPIN=1", "ATI"] := by
    decide +kernel
  obtain ⟨hsent, hsound⟩ := sends_loadScript_sound h hscript he hturns
  exact ⟨hscript, he, hturns, htexts, hsent fun f hf w => hchange f hf ▸ rfl, hsound⟩

end Engine

end ModemScript
