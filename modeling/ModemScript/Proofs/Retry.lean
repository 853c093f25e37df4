import ModemScript.Proofs.Hearing
import ModemScript.Proofs.Journey
import ModemScript.Proofs.Record
import ModemScript.Proofs.Substitution

/-!
# A step that could not send can be taken again

What a failed step has done is not undone. But a step that finds no line to send on fails at one
point (`exists_exchange_of_sendNext_error`): all that was due is done, and nothing has been
judged. So the engine is left as if the directives had been carried out and no command sent.

Only the text of the command is not as it was, since it has got the values of the variables. The
next step looks for references in it once more, and finds none unless substitution has given up
on them. Then it sends the same text, whatever has become of the variables.
-/

namespace ModemScript

variable {σ ω : Type}

/-! ## What becomes of a text that is sent -/

namespace Station

/-- A line that is not open takes nothing, and one that is open may refuse what it is given. -/
theorem events_of_exchange_error {text : String} {timeout : Option Nat} {s s' : Station σ}
    {cause : LinkError} (h : exchange text timeout s = .error cause s') :
    s'.settings = s.settings ∧ s'.isOpen = s.isOpen ∧
      s'.events = if s.isOpen then s.events ++ [.sent (text ++ s.settings.terminator.text)]
        else s.events := by
  obtain ⟨hopen, hclosed⟩ | ⟨hopen, t, hleft⟩ := exchange_leaves text timeout s
  · rw [hclosed] at h
    cases h
    rw [hopen]
    exact ⟨rfl, rfl, rfl⟩
  · rw [h, leftBy] at hleft
    subst hleft
    rw [hopen]
    exact ⟨rfl, (s.channel.isOpen_change fun _ => t.state).trans hopen, rfl⟩

/-- A text that the device takes is answered, if only with silence. -/
theorem exists_exchange_of_write {text : String} (timeout : Option Nat) {s : Station σ}
    {d : Device σ} {state state' : σ} (hs : s.channel = .simulated d state true)
    (hw : d.write (Utf8.encode (text ++ s.settings.terminator.text)) s.clock state =
      (.ok (), state')) : ∃ reply s', exchange text timeout s = .ok reply s' := by
  obtain ⟨settings, channel, clock, events⟩ := s
  obtain rfl : channel = .simulated d state true := hs
  rw [exchange_simulated]
  simp only [hw]
  exact ⟨_, _, rfl⟩

end Station

/-- A command without references at the cursor is handed out as it stands. -/
theorem Session.next?_of_current? {s : Session} {c : Command} (hc : s.current? = some c)
    (htext : Reference.first? c.text.toList = none) : s.next? = some (c, s) := by
  have hsubstitute : s.store.substitute c.text = c.text := by
    rw [Store.substitute, Reference.expand_of_none htext, String.ofList_toList]
  have hset : s.commands.set s.cursor c = s.commands := by
    obtain ⟨hlt, rfl⟩ := List.getElem?_eq_some_iff.1 hc
    exact List.set_getElem_self hlt
  rw [Session.next?, hc, Option.map_some, hsubstitute]
  show some (c, { s with commands := s.commands.set s.cursor c }) = _
  rw [hset]

namespace Engine

/-- Sending the next command fails for want of a line before anything is judged. -/
theorem exists_exchange_of_sendNext_error {h : Host σ ω} {e e' : Engine σ ω} {cause : LinkError}
    (hs : sendNext h e = .error (.transport cause) e') :
    ∃ c s, e.session.current? = some c ∧
      let asked := c.withText (e.session.store.substitute c.text)
      Station.exchange asked.text c.request.timeout (e.station.sleep c.request.delay) =
        .error cause s ∧
      asks h e = [.request asked.request false] ∧
      e' = { e with
        session := { e.session with commands := e.session.commands.set e.session.cursor asked }
        station := s } := by
  unfold sendNext Session.next? at hs
  cases hc : e.session.current? with
  | none =>
      rw [hc] at hs
      cases hs
  | some c =>
      let asked := c.withText (e.session.store.substitute c.text)
      rw [hc] at hs
      simp only [Option.map_some, send, onStation] at hs
      rw [asks, Session.next?, hc]
      simp only [Option.map_some, send, onStation]
      cases hexchange : Station.exchange asked.text asked.request.timeout
          (e.station.sleep asked.request.delay) with
      | error cause' s =>
          rw [hexchange] at hs
          cases hs
          exact ⟨c, s, rfl, hexchange, rfl, rfl⟩
      | ok reply s =>
          -- a reply can end the step too, but not with the failure of a line
          rw [hexchange] at hs
          simp only at hs
          split at hs
          · cases hs
          · split at hs <;> cases hs

/-- A command is given to any line that is open, and one that the device takes is answered,
whatever its reply comes to. -/
theorem asks_of_isOpen {h : Host σ ω} {e : Engine σ ω} {c : Command}
    (hc : e.session.current? = some c) (htext : Reference.first? c.text.toList = none)
    (hopen : e.station.isOpen = true) :
    ∃ answered, asks h e = [.request c.request answered] ∧
      (after (sendNext h e)).station.events =
        e.station.events ++ [.sent (c.text ++ e.station.settings.terminator.text)] ∧
      ∀ (d : Device σ) (state state' : σ), e.station.channel = .simulated d state true →
        d.write (Utf8.encode (c.text ++ e.station.settings.terminator.text))
          (e.station.clock + c.request.delay) state = (.ok (), state') →
        answered = true := by
  have hn := Session.next?_of_current? hc htext
  cases hexchange : Station.exchange c.text c.request.timeout
      (e.station.sleep c.request.delay) with
  | error cause s =>
      obtain ⟨-, -, hevents⟩ := Station.events_of_exchange_error hexchange
      rw [show (e.station.sleep c.request.delay).isOpen = true from hopen] at hevents
      refine ⟨false, ?_, ?_, fun d state state' hchannel hw => ?_⟩
      · simp only [asks, hn, send, onStation, hexchange]
        rfl
      · simp only [sendNext, hn, send, onStation, hexchange]
        exact hevents
      · obtain ⟨reply, s', hok⟩ := Station.exists_exchange_of_write c.request.timeout
          (s := e.station.sleep c.request.delay) hchannel hw
        cases hexchange.symm.trans hok
  | ok reply s =>
      obtain ⟨cause, s', herror, -⟩ | ⟨reply', s', hok, -, hevents⟩ :=
        Station.exchange_cases c.text c.request.timeout (e.station.sleep c.request.delay)
      · cases hexchange.symm.trans herror
      · cases hexchange.symm.trans hok
        refine ⟨true, ?_, ?_, fun _ _ _ _ _ => rfl⟩
        · simp only [asks, hn, send, onStation, hexchange]
          rfl
        · simp only [sendNext, hn, send, onStation, hexchange]
          split
          · exact hevents
          · split <;> exact hevents

theorem not_due_of_later {e : Engine σ ω} {x : Scheduled} (hx : x ∈ e.later) :
    x.index ≠ e.position := by
  obtain ⟨-, hindex⟩ := List.mem_filter.1 hx
  rw [Bool.not_eq_true', beq_eq_false_iff_ne] at hindex
  exact hindex

/-- A step that fails for want of a line leaves everything as the due directives have left it,
except that these are no longer scheduled and the command at the cursor has got the values of the
variables. If these have left no reference in it, every later step that finds the line open, in
whatever world, does not carry out any directive and sends what this step would have sent, and
that is answered if the line leads to a device that takes it. -/
theorem step_again_after_transport (h : Host σ ω) {e e' : Engine σ ω} {cause : LinkError}
    (hs : step h e = .error (.transport cause) e') :
    ∃ (w : World σ ω) (c : Command),
      let asked := c.withText (w.store.substitute c.text)
      let payload := asked.text ++ w.station.settings.terminator.text
      World.Passes h e.world e.due w ∧ e.session.current? = some c ∧
      e' =
        { session :=
            { commands := e.session.commands.set e.session.cursor asked, store := w.store
              cursor := e.session.cursor, failed := e.session.failed }
          station := e'.station, schedule := e.later, abortOnFailure := w.abortOnFailure
          position := e.position, host := w.host } ∧
      e'.station.settings = w.station.settings ∧ e'.station.isOpen = w.station.isOpen ∧
      e'.station.events =
        (if w.station.isOpen then w.station.events ++ [.sent payload] else w.station.events) ∧
      deeds h e = e.due.map .directive ++ [.request asked.request false] ∧
      (Reference.first? asked.text.toList = none →
        ∀ w' : World σ ω, w'.station.isOpen = true →
          w'.station.settings.terminator = w.station.settings.terminator →
          ∃ answered, deeds h (e'.withWorld w') = [.request asked.request answered] ∧
            (after (step h (e'.withWorld w'))).station.events =
              w'.station.events ++ [.sent payload] ∧
            ∀ (d : Device σ) (state state' : σ), w'.station.channel = .simulated d state true →
              d.write (Utf8.encode payload) (w'.station.clock + c.request.delay) state =
                (.ok (), state') →
              answered = true) := by
  rcases step_cases h e with
    ⟨w, hpass, hcarried, hstep⟩ | ⟨done, x, left, cause', w', w'', -, -, -, -, -, hstep⟩
  · rw [hstep] at hs
    obtain ⟨c, s, hc, hexchange, hasks, he'⟩ := exists_exchange_of_sendNext_error hs
    obtain ⟨hsettings, hopen, hevents⟩ := Station.events_of_exchange_error hexchange
    let asked := c.withText (w.store.substitute c.text)
    have hstation : e'.station = s := by rw [he']
    rw [← hstation] at hsettings hopen hevents he'
    have hdeeds : deeds h e = e.due.map .directive ++ [.request asked.request false] := by
      rw [deeds, hcarried]
      simp only
      rw [hasks]
      rfl
    refine ⟨w, c, hpass, hc, he', hsettings, hopen, hevents, hdeeds, ?_⟩
    intro htext w' hopen' hterminator
    -- what is scheduled is not due, and the position is that of the failed step
    have hd : ∀ x ∈ (e'.withWorld w').schedule, x.index ≠ (e'.withWorld w').position := by
      rw [he']
      exact fun x hx => not_due_of_later (e := e) hx
    have hcurrent : (e'.withWorld w').session.current? = some asked := by
      obtain ⟨hlt, -⟩ := List.getElem?_eq_some_iff.1 hc
      rw [he']
      exact List.getElem?_set_self hlt
    rw [deeds_of_not_due hd, step_eq_sendNext hd, ← hterminator]
    exact asks_of_isOpen hcurrent htext hopen'
  · rw [hstep] at hs
    cases hs

/-- A command that refers to a variable is tried on a closed line and again on an open one, when
the variable has another value. -/
theorem step_again_after_transport_reopened :
    let h : Host Unit Unit := .bare
    let mute : Device Unit :=
      ⟨none, none, fun _ _ s => (.ok (), s), fun _ _ s => ([], s), fun _ s => (0, s)⟩
    let settings := Settings.new (some "v") (some 9600)
    let c : Command := .ofRequest ⟨"ATS${x}", none, some 1, 5, none⟩ []
    let e : Engine Unit Unit :=
      { session := .ofCommands [c]
        station := .new settings (.simulated mute () false)
        schedule := [⟨.print "later", 1⟩, ⟨.set "x" "1", 0⟩]
        abortOnFailure := true, position := 0, host := () }
    let opened : World Unit Unit :=
      { store := Store.empty.insert "x" (.int 2), station := .new settings (.simulated mute () true)
        abortOnFailure := false, host := () }
    let e' := after (step h e)
    step h e = .error (.transport .closed) e' ∧ e'.schedule = [⟨.print "later", 1⟩] ∧
      deeds h (e'.withWorld opened) = [.request ⟨"ATS1", none, some 1, 5, none⟩ true] ∧
      (after (step h (e'.withWorld opened))).station.events = [.sent "ATS1\r\n"] := by
  intro h mute settings c e opened e'
  have hs : step h e = .error (.transport .closed) e' := rfl
  obtain ⟨w, c', -, hc, he', hsettings, -, -, -, hagain⟩ := step_again_after_transport h hs
  have hstore : w.store = e'.session.store := congrArg (·.session.store) he'.symm
  have htext : e'.session.store.substitute c.text = "ATS1" := by decide +kernel
  obtain rfl : c = c' := Option.some.inj hc
  rw [← hsettings, hstore, htext] at hagain
  obtain ⟨answered, hdeeds, hevents, htaken⟩ := hagain (by decide +kernel) opened rfl rfl
  obtain rfl : answered = true := htaken mute () () rfl rfl
  exact ⟨hs, rfl, hdeeds, hevents⟩

end Engine

end ModemScript
