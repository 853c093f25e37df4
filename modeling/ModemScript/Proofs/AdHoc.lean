import ModemScript.Proofs.Journey
import ModemScript.Proofs.Tolerance

/-!
# A line by itself

A command that is given by itself is sent as the next command of a script would be
(`perform_eq_sendNext`): the line puts it in the place of all other commands, with nothing due
before it. So whoever gives a line instead of a script of that line takes the first step of the
script.

One step is all that the script has, unless the reply is not as expected and the command has a
fallback. The fallback is put in the place of the command here as well. But a script goes on with
it, and a line is over: what is owed stays in the session and is not sent.
-/

namespace ModemScript

variable {σ ω : Type}

namespace World

/-- Whatever becomes of a request, it is sent if the line is open. -/
theorem sent_ask {w : World σ ω} (hopen : w.station.isOpen = true) (h : Host σ ω) (r : Request) :
    let w' := leftBy (ask h r w)
    w'.station.sent =
        w.station.sent ++ [w.store.substitute r.text ++ w.station.settings.terminator.text] ∧
      w'.station.isOpen = true := by
  have hsent := (w.station.sleep r.delay).sent_exchange (w.store.substitute r.text) r.timeout
  have hstill := (w.station.sleep r.delay).isOpen_exchange (w.store.substitute r.text) r.timeout
  rw [show (w.station.sleep r.delay).isOpen = true from hopen] at hsent hstill
  simp only [ask, tell]
  generalize Station.exchange (w.store.substitute r.text) r.timeout (w.station.sleep r.delay) =
    result at hsent hstill ⊢
  cases result <;> exact ⟨hsent, hstill⟩

/-- A conversation begins with its first request. -/
theorem sent_converse {w : World σ ω} (hopen : w.station.isOpen = true) (h : Host σ ω)
    (r : Request) (fallbacks : List Request) :
    w.station.sent ++ [w.store.substitute r.text ++ w.station.settings.terminator.text] <+:
      (converse h r fallbacks w).2.station.sent := by
  obtain ⟨hsent, -⟩ := sent_ask hopen h r
  have hbegins : (leftBy (ask h r w)).station.events <+:
      (converse h r fallbacks w).2.station.events := by
    rw [converse]
    cases ask h r w with
    | error f w' => exact List.prefix_refl _
    | ok v w' =>
        simp only [leftBy]
        split
        · cases fallbacks with
          | nil =>
              simp only
              split <;> exact List.prefix_refl _
          | cons r' rest =>
              exact events_andThen (List.prefix_refl _) (events_converse h r' rest)
        · exact List.prefix_refl _
  rw [← hsent]
  exact hbegins.filterMap Event.sent?

end World

namespace Engine

/-- The engine that is to execute one command as a script, in the world of `e`. -/
def alone (c : Command) (e : Engine σ ω) : Engine σ ω :=
  (e.loadScript ⟨[c], []⟩).withWorld e.world

/-- What a response leaves to be sent: the fallback of the command, if the reply is not as
expected. -/
def owed? (d : Dialect) (c : Command) (r : Response) : Option Command :=
  if Session.fails d c.request r.lines then c.fallback? else none

theorem position_send (h : Host σ ω) (c : Command) (e : Engine σ ω) :
    (leftBy (send h c e)).position = e.position := by
  unfold send onStation
  cases Station.exchange c.text c.request.timeout (e.station.sleep c.request.delay) <;> rfl

/-- A command by itself is the next one, except that the position in the script stays. -/
theorem perform_eq_sendNext {h : Host σ ω} {line : String} {c : Command}
    (hline : Line.parse h.dialect line.toList = .ok (.command c)) {e : Engine σ ω}
    (hdevice : e.station.settings.device.isSome = true) :
    perform h line e =
      match sendNext h { e with session := e.session.clear.add c } with
      | .ok r e' => .ok r { e' with position := e.position }
      | .error f e' => .error f e' := by
  rw [perform, hline]
  simp only [withDevice, hdevice, if_true, sendNext]
  cases (e.session.clear.add c).next? with
  | none => rfl
  | some p =>
      obtain ⟨c', session⟩ := p
      have hposition := position_send h c' { e with session := session }
      simp only
      cases hsend : send h c' { e with session := session } with
      | error f e' => rfl
      | ok response e' =>
          rw [hsend] at hposition
          have hsame : { e' with position := e.position } = e' := by
            rw [← show e'.position = e.position from hposition]
          simp only
          cases e'.isLost c' && e'.abortOnFailure with
          | true => rfl
          | false =>
              cases e'.session.failed && !c'.fallbacks.isEmpty <;>
                exact congrArg (EStateM.Result.ok (some response)) hsame.symm

theorem perform_of_not_isSome {h : Host σ ω} {line : String} {c : Command}
    (hline : Line.parse h.dialect line.toList = .ok (.command c)) {e : Engine σ ω}
    (hdevice : ¬e.station.settings.device.isSome = true) :
    perform h line e = .error .uninitialized e := by
  rw [perform, hline]
  exact if_neg hdevice

/-- What is owed when a command has been judged stands at the cursor. -/
theorem current?_settle {d : Dialect} {c asked : Command} {q : Queue} {v : Verdict}
    (hfallbacks : asked.fallbacks = c.fallbacks)
    (hfailed : v.failed = Session.fails d c.request v.response.lines) :
    (q.settle asked [] v).session.current? = owed? d c v.response := by
  rw [Queue.current?_session, owed?, ← hfailed]
  cases hv : v.failed with
  | false =>
      rw [Queue.pending_settle_of_not_failed hv]
      rfl
  | true =>
      rw [if_pos rfl, Command.fallback?]
      cases hf : c.fallbacks with
      | nil =>
          rw [Queue.pending_settle_of_nil (hfallbacks.trans hf)]
          rfl
      | cons r rest =>
          rw [Queue.pending_settle_of_failed hv (hfallbacks.trans hf)]
          rfl

/-- A command by itself is asked. When it is answered and nothing is owed, a bad response is a
failure if failures end a run. -/
theorem perform_of_command {h : Host σ ω} {line : String} {c : Command}
    (hline : Line.parse h.dialect line.toList = .ok (.command c)) {e : Engine σ ω}
    (hdevice : e.station.settings.device.isSome = true) :
    match World.ask h c.request e.world with
    | .error f w => ∃ e' : Engine σ ω, perform h line e = .error f e' ∧ e'.world = w
    | .ok v w =>
      ∃ e' : Engine σ ω, e'.world = w ∧ e'.session.current? = owed? h.dialect c v.response ∧
        perform h line e =
          if (owed? h.dialect c v.response).isNone && (v.failed && w.abortOnFailure) then
            .error (badResponse v.response) e'
          else .ok (some v.response) e' := by
  have hworld : ({ e with session := e.session.clear.add c } : Engine σ ω).world = e.world := rfl
  rw [perform_eq_sendNext hline hdevice,
    sendNext_of_pending_cons (e := { e with session := e.session.clear.add c })
      (q := ⟨[], [c], e.session.store, false⟩) rfl rfl, hworld]
  cases hask : World.ask h c.request e.world with
  | error f w => exact ⟨_, rfl, rfl⟩
  | ok v w =>
      have hfailed := (World.sent_of_ask_ok h e.world hask).2.1
      let asked := c.withText (e.session.store.substitute c.text)
      let q : Queue := ⟨[], [asked], e.session.store, false⟩
      let e' := { e with session := (q.settle asked [] v).session }.withWorld w
      have hcurrent : e'.session.current? = owed? h.dialect c v.response :=
        current?_settle rfl hfailed
      refine ⟨e', rfl, hcurrent, ?_⟩
      rw [owed?, ← hfailed, Command.fallback?]
      simp only
      cases v.failed with
      | false => rfl
      | true =>
          cases c.fallbacks with
          | nil => cases w.abortOnFailure <;> rfl
          | cons r rest => rfl

/-- A conversation goes on with what is owed after the first reply. -/
theorem converse_eq_owed (h : Host σ ω) (c : Command) (w : World σ ω) :
    World.converse h c.request c.fallbacks w =
      match World.ask h c.request w with
      | .error f w => (⟨[], some f⟩, w)
      | .ok v w =>
        match owed? h.dialect c v.response with
        | some f =>
          World.andThen (⟨[v.response], none⟩, w) (World.converse h f.request f.fallbacks)
        | none =>
          if v.failed && w.abortOnFailure then (⟨[], some (badResponse v.response)⟩, w)
          else (⟨[v.response], none⟩, w) := by
  rw [World.converse]
  cases hask : World.ask h c.request w with
  | error f w' => rfl
  | ok v w' =>
      have hfailed := (World.sent_of_ask_ok h w hask).2.1
      simp only
      rw [owed?, ← hfailed, Command.fallback?]
      cases v.failed with
      | false => rfl
      | true =>
          cases c.fallbacks with
          | nil => cases w'.abortOnFailure <;> rfl
          | cons r rest => rfl

/-- A script of one command is the conversation about it. -/
theorem observe_drain_alone (h : Host σ ω) (c : Command) (e : Engine σ ω) :
    observe (drain h (alone c e)) = World.converse h c.request c.fallbacks e.world := by
  have hend : ∀ (e' : Engine σ ω) (q : Queue), e'.session = q.session → q.pending = [] →
      e'.schedule = [] → e'.position = 1 → observe (drain h e') = (⟨[], none⟩, e'.world) := by
    intro e' q hs hp hschedule _
    have hstep : step h e' = .ok none e' := by
      rw [step_eq_sendNext (by rw [hschedule]; nofun), sendNext_of_pending_nil hs hp]
    rw [drain_eq, hstep]
    rfl
  have hnothing : ∀ x ∈ ([] : List Scheduled), x.index ≠ 0 := nofun
  have hcommand := observe_drain_of_command (k := fun w => (⟨[], none⟩, w)) hnothing hend
    c.fallbacks (alone c e) ⟨[], [c], e.session.store, false⟩ c rfl rfl rfl rfl rfl
  rw [hcommand, World.andThen_pure]
  rfl

/-- A command line by itself does what a script of it does, in the same world: it writes the same,
leaves the same variables and ends in the same failure, unless the reply is not as expected and
the command has a fallback. Then it is a response and no failure, and the fallback is owed.
The script goes on with it, and if the line to the device is open, it writes more. -/
theorem perform_eq_script_unless_owed {h : Host σ ω} {line : String} {c : Command}
    (hline : Line.parse h.dialect line.toList = .ok (.command c)) {e : Engine σ ω}
    (hdevice : e.station.settings.device.isSome = true) :
    let script := drain h (alone c e)
    (∀ f e', perform h line e = .error f e' → observe script = (⟨[], some f⟩, e'.world)) ∧
      ∀ response? e', perform h line e = .ok response? e' →
        ∃ r, response? = some r ∧ e'.session.current? = owed? h.dialect c r ∧
          match owed? h.dialect c r with
          | none => observe script = (⟨[r], none⟩, e'.world)
          | some f =>
            observe script =
                World.andThen (⟨[r], none⟩, e'.world) (World.converse h f.request f.fallbacks) ∧
              (e.station.isOpen = true →
                e'.station.sent ++
                    [e'.session.store.substitute f.text ++ e'.station.settings.terminator.text] <+:
                  script.2.station.sent) := by
  intro script
  have hscript : observe script = World.converse h c.request c.fallbacks e.world :=
    observe_drain_alone h c e
  rw [converse_eq_owed] at hscript
  have hperform := perform_of_command hline hdevice
  generalize perform h line e = result at hperform ⊢
  cases hask : World.ask h c.request e.world with
  | error f w =>
      simp only [hask] at hperform hscript
      obtain ⟨e', rfl, rfl⟩ := hperform
      refine ⟨fun _ _ heq => ?_, fun _ _ heq => by cases heq⟩
      cases heq
      exact hscript
  | ok v w =>
      simp only [hask] at hperform hscript
      obtain ⟨e', rfl, hcurrent, rfl⟩ := hperform
      cases howed : owed? h.dialect c v.response with
      | some f =>
          simp only [howed, Option.isNone_some, Bool.false_and, Bool.false_eq_true, if_false]
            at hcurrent hscript ⊢
          refine ⟨fun _ _ heq => (by cases heq), fun _ _ heq => ?_⟩
          cases heq
          refine ⟨v.response, rfl, ?_⟩
          rw [howed]
          refine ⟨hcurrent, hscript, fun hopen => ?_⟩
          have hopen' : e'.world.station.isOpen = true := by
            have hstill := (World.sent_ask (w := e.world) hopen h c.request).2
            rwa [hask] at hstill
          have hsent := World.sent_converse hopen' h f.request f.fallbacks
          have hworld : script.2.world = (World.converse h f.request f.fallbacks e'.world).2 :=
            congrArg Prod.snd hscript
          rwa [← hworld] at hsent
      | none =>
          simp only [howed, Option.isNone_none, Bool.true_and] at hcurrent hscript ⊢
          cases hlost : v.failed && e'.world.abortOnFailure with
          | true =>
              simp only [hlost, if_true] at hscript ⊢
              refine ⟨fun _ _ heq => ?_, fun _ _ heq => by cases heq⟩
              cases heq
              exact hscript
          | false =>
              simp only [hlost, Bool.false_eq_true, if_false] at hscript ⊢
              refine ⟨fun _ _ heq => (by cases heq), fun _ _ heq => ?_⟩
              cases heq
              refine ⟨v.response, rfl, ?_⟩
              rw [howed]
              exact ⟨hcurrent, hscript⟩

/-- A reply that is not as expected, and a fallback with a variable. -/
theorem perform_eq_script_unless_owed_fallback :
    let h : Host Modem.State Unit := .bare
    let modem : Modem :=
      ⟨[[⟨0, Utf8.encode "SIM PIN\r\n"⟩], [⟨0, Utf8.encode "OK\r\n"⟩]], [], none, none, false, [], [],
        none, true⟩
    let e : Engine Modem.State Unit :=
      { session := Session.empty.set "PIN" (.text "12")
        station := .new (.new (some "v") (some 9600)) (.simulated modem.device modem.start true)
        schedule := [], abortOnFailure := true, position := 0, host := () }
    let line := "AT+CPIN?;;READY;;;;1;;;;AT+CPIN=${PIN};;OK"
    let fallback : Request := ⟨"AT+CPIN=${PIN}", some "OK", some 1, 0, none⟩
    let c : Command := ⟨⟨"AT+CPIN?", some "READY", some 1, 0, none⟩, [fallback], none⟩
    let script := drain h (alone c e)
    Line.parse h.dialect line.toList = .ok (.command c) ∧
      e.station.settings.device.isSome = true ∧ e.station.isOpen = true ∧
      ∃ r e', perform h line e = .ok (some r) e' ∧
        e'.session.current? = some (.ofRequest fallback []) ∧
        observe script =
          World.andThen (⟨[r], none⟩, e'.world) (World.converse h fallback []) ∧
        e'.station.sent ++
            [e'.session.store.substitute fallback.text ++ e'.station.settings.terminator.text] <+:
          script.2.station.sent := by
  intro h modem e line fallback c script
  have hline : Line.parse h.dialect line.toList = .ok (.command c) :=
    eq_ok_of_toOption_eq_some (by decide +kernel)
  have hdevice : e.station.settings.device.isSome = true := rfl
  have hopen : e.station.isOpen = true := rfl
  have hsucceeds : succeeds (perform h line e) = true := by decide +kernel
  have hleft : (leftBy (perform h line e)).session.current? = some (.ofRequest fallback []) := by
    decide +kernel
  obtain ⟨-, hanswered⟩ := perform_eq_script_unless_owed hline hdevice
  cases hperform : perform h line e with
  | error f e' =>
      rw [hperform] at hsucceeds
      cases hsucceeds
  | ok response? e' =>
      obtain ⟨r, rfl, hcurrent, hrest⟩ := hanswered response? e' hperform
      rw [hperform] at hleft
      have howed : owed? h.dialect c r = some (.ofRequest fallback []) := hcurrent.symm.trans hleft
      rw [howed] at hcurrent hrest
      obtain ⟨hscript, hsent⟩ := hrest
      exact ⟨hline, hdevice, hopen, r, e', rfl, hcurrent, hscript, hsent hopen⟩

/-- The first reply is not as expected, and the fallback is sent by the script only. -/
theorem perform_ne_script_of_fallback :
    let h : Host Modem.State Unit := .bare
    let modem : Modem :=
      ⟨[[⟨0, Utf8.encode "ERROR\r\n"⟩], [⟨0, Utf8.encode "OK\r\n"⟩]], [], none, none, false, [], [],
        none, true⟩
    let e : Engine Modem.State Unit :=
      { session := .empty
        station := .new (.new (some "v") (some 115200)) (.simulated modem.device modem.start true)
        schedule := [], abortOnFailure := true, position := 0, host := () }
    let line := "AT;;OK;;;;1;;;;ATI;;OK"
    let c : Command :=
      ⟨⟨"AT", some "OK", some 1, 0, none⟩, [⟨"ATI", some "OK", some 1, 0, none⟩], none⟩
    Line.parse h.dialect line.toList = .ok (.command c) ∧
      (leftBy (perform h line e)).station.sent = ["AT\r\n"] ∧
      (drain h (alone c e)).2.station.sent = ["AT\r\n", "ATI\r\n"] := by
  intro h modem e line c
  have hline : Line.parse h.dialect line.toList = .ok (.command c) :=
    eq_ok_of_toOption_eq_some (by decide +kernel)
  have hperform : (leftBy (perform h line e)).station.sent = ["AT\r\n"] := by decide +kernel
  have hscript : (drain h (alone c e)).2.station.sent = ["AT\r\n", "ATI\r\n"] := by
    decide +kernel
  exact ⟨hline, hperform, hscript⟩

end Engine

end ModemScript
