import ModemScript.Proofs.AdHoc
import ModemScript.Proofs.Soundness

/-!
# What is refused leaves no trace

A failure may come after half of the work is done, and an action that fails does not undo what it
has done. Three kinds of failures are different. They say that a file cannot be read, that a line
means nothing, or that no device has been chosen, and each of these can be known before anything
is done (`objection?`).

That it is known before, and that the engine is then left as it is, can be read off each action.
What takes an argument is the other direction: from what has been begun, no failure of these
kinds comes any more. Directives and exchanges fail in ways of their own, and whatever a directive
of a script fails with is put down to the script. But a run closes the device in the end, which is
refused if no device has been chosen. So whether one has been chosen is followed through the
whole run: it had been when the run began, and no directive takes it back.
-/

namespace ModemScript

variable {σ ω α : Type}

/-- Whether a failure of this kind says that nothing has been begun. -/
def FailureKind.isRefusal : FailureKind → Bool
  | malformed | unreadable | uninitialized => true
  | transport | execution => false

namespace Engine

/-! ## What has been begun -/

/-- A result that is no refusal. -/
inductive Begun : EStateM.Result Failure (Engine σ ω) α → Prop
  | ok {a : α} {e : Engine σ ω} : Begun (.ok a e)
  | error {f : Failure} {e : Engine σ ω} : f.kind.isRefusal = false → Begun (.error f e)

theorem begun_onStation (act : Station.Action σ α) (e : Engine σ ω) : Begun (onStation act e) := by
  unfold onStation
  split
  · exact .ok
  · exact .error rfl

theorem begun_openLine (h : Host σ ω) (e : Engine σ ω) : Begun (openLine h e) :=
  begun_onStation _ e

theorem begun_ensureClosed (e : Engine σ ω) : Begun (ensureClosed e) := by
  unfold ensureClosed
  split
  · exact begun_onStation _ e
  · exact .ok

theorem begun_send (h : Host σ ω) (c : Command) (e : Engine σ ω) : Begun (send h c e) := by
  rw [send_eq_validate]
  split
  · exact .error rfl
  · exact .ok

theorem begun_sendNext (h : Host σ ω) (e : Engine σ ω) : Begun (sendNext h e) := by
  unfold sendNext
  split
  · exact .ok
  · next c session _ =>
      have hsend := begun_send h c { e with session := session }
      split
      · next hs =>
          rw [hs] at hsend
          cases hsend with
          | error hf => exact .error hf
      · split
        · exact .error rfl
        · split <;> exact .ok

theorem begun_step (h : Host σ ω) (e : Engine σ ω) : Begun (step h e) := by
  rcases step_cases h e with ⟨w, -, -, hstep⟩ | ⟨done, x, left, cause, w, w', -, -, -, -, -, hstep⟩
  · rw [hstep]
    exact begun_sendNext h _
  · rw [hstep]
    exact .error rfl

theorem isRefusal_of_drain (h : Host σ ω) (e : Engine σ ω) :
    ∀ f ∈ (drain h e).1.failure, f.kind.isRefusal = false := by
  fun_induction drain h e with
  | case1 e r e₁ hstep outcome e₂ hdrain ih =>
      rw [hdrain] at ih
      exact ih
  | case2 e e₁ hstep => exact fun f hf => absurd hf (Option.not_mem_none f)
  | case3 e f e₁ hstep =>
      have hbegun := begun_step h e
      rw [hstep] at hbegun
      cases hbegun with
      | error hf => exact forall_mem_some.2 hf

/-! ## A device that has been chosen -/

theorem settings_send (h : Host σ ω) (c : Command) (e : Engine σ ω) :
    (leftBy (send h c e)).station.settings = e.station.settings := by
  have hsettings := Station.settings_exchange c.text c.request.timeout
    (e.station.sleep c.request.delay)
  rw [send_eq_validate]
  cases hexchange : Station.exchange c.text c.request.timeout
      (e.station.sleep c.request.delay) <;>
    · rw [hexchange] at hsettings
      exact hsettings

section Settings

variable {h : Host σ ω} {p : Settings → Prop}

/-- What every directive keeps of the settings, a step keeps, since nothing else in it touches
them. -/
theorem settings_step
    (hp : ∀ x (e : Engine σ ω), p e.station.settings → p (leftBy (apply h x e)).station.settings)
    {e : Engine σ ω} (he : p e.station.settings) : p (leftBy (step h e)).station.settings := by
  have hcarried : p (carried h e).world.station.settings := World.settings_carry hp e.due he
  rw [step_eq_send]
  cases hs : sending? h e with
  | none =>
      simp only
      split <;> exact hcarried
  | some x =>
      obtain ⟨c, e₁⟩ := x
      obtain ⟨session, -, rfl⟩ := exists_of_sending? hs
      have hsend := settings_send h c
        { (e.plan e.later).withWorld (carried h e).world with session := session }
      simp only
      split
      · next hresult =>
          rw [hresult] at hsend
          exact hsend ▸ hcarried
      · next hresult =>
          rw [hresult] at hsend
          split
          · exact hsend ▸ hcarried
          · split <;> exact hsend ▸ hcarried

theorem settings_drain
    (hp : ∀ x (e : Engine σ ω), p e.station.settings → p (leftBy (apply h x e)).station.settings)
    {e : Engine σ ω} (he : p e.station.settings) : p (drain h e).2.station.settings := by
  fun_induction drain h e with
  | case1 e r e₁ hstep outcome e₂ hdrain ih =>
      have hnext := settings_step hp he
      rw [hstep] at hnext
      rw [hdrain] at ih
      exact ih hnext
  | case2 e e₁ hstep | case3 e f e₁ hstep =>
      have hnext := settings_step hp he
      rw [hstep] at hnext
      exact hnext

end Settings

/-- No directive takes back that a device has been chosen. -/
theorem isSome_device_apply (h : Host σ ω) (x : Directive) {e : Engine σ ω}
    (he : e.station.settings.device.isSome = true) :
    (leftBy (apply h x e)).station.settings.device.isSome = true := by
  rw [settings_apply]
  cases x with
  | device path => rfl
  | baudRate | rtsCts | dsrDtr | timeout | lineBreak => exact he
  | abortOnFailure | set | environment | print | exec | write => exact he

theorem withDevice_of_isSome {e : Engine σ ω} (he : e.station.settings.device.isSome = true)
    (act : Action σ ω α) : withDevice act e = act e := if_pos he

theorem withDevice_of_not_isSome {e : Engine σ ω}
    (he : ¬e.station.settings.device.isSome = true) (act : Action σ ω α) :
    withDevice act e = .error .uninitialized e := if_neg he

theorem begun_openDevice (h : Host σ ω) {e : Engine σ ω}
    (he : e.station.settings.device.isSome = true) : Begun (openDevice h e) := by
  have hopen : openDevice h e = if e.station.isOpen then .ok () e else openLine h e :=
    withDevice_of_isSome he _
  rw [hopen]
  split
  · exact .ok
  · exact begun_openLine h e

theorem begun_closeDevice {e : Engine σ ω} (he : e.station.settings.device.isSome = true) :
    Begun (closeDevice e) := by
  have hclose : closeDevice e = ensureClosed e := withDevice_of_isSome he _
  rw [hclose]
  exact begun_ensureClosed e

theorem begun_finish {p : Outcome × Engine σ ω}
    (hf : ∀ f ∈ p.1.failure, f.kind.isRefusal = false)
    (he : p.2.station.settings.device.isSome = true) : Begun (finish p) := by
  have hclose := begun_closeDevice he
  unfold finish
  cases hfailure : p.1.failure with
  | some f =>
      have hkind := hf f hfailure
      cases closeDevice p.2 <;> exact .error hkind
  | none =>
      cases hclosed : closeDevice p.2 with
      | ok _ e => exact .ok
      | error f e =>
          rw [hclosed] at hclose
          cases hclose with
          | error hkind => exact .error hkind

/-- The device that a run closes in the end has been chosen. -/
theorem begun_run (h : Host σ ω) {e : Engine σ ω}
    (he : e.station.settings.device.isSome = true) : Begun (run h e) := by
  have hopen := begun_openDevice h he
  have hsettings := (e.keeps_openDevice h).settings
  rw [run_eq_finish]
  cases hopened : openDevice h e with
  | error f e₁ =>
      rw [hopened] at hopen
      cases hopen with
      | error hf => exact .error hf
  | ok _ e₁ =>
      rw [hopened] at hsettings
      have he₁ : e₁.station.settings.device.isSome = true :=
        (congrArg (·.device.isSome) hsettings).trans he
      have hdrained : (drain h e₁).2.station.settings.device.isSome = true :=
        settings_drain (p := (·.device.isSome = true)) (fun x _ => isSome_device_apply h x) he₁
      exact begun_finish (isRefusal_of_drain h e₁) hdrained

/-! ## Refusals -/

/-- What can be asked of an engine and may be refused. -/
inductive Errand where
  | loadFile (path : String)
  | openDevice
  | closeDevice
  | run
  | perform (line : String)
  deriving DecidableEq, Repr

/-- How an action ends, without what it yields. -/
def ending : EStateM.Result Failure (Engine σ ω) α → Option Failure × Engine σ ω
  | .ok _ e => (none, e)
  | .error f e => (some f, e)

/-- The failure that an errand ends with, if it does, and the engine that is left. -/
def attempt (h : Host σ ω) (e : Engine σ ω) : Errand → Option Failure × Engine σ ω
  | .loadFile path => ending (loadFile h path e)
  | .openDevice => ending (openDevice h e)
  | .closeDevice => ending (closeDevice e)
  | .run => ending (run h e)
  | .perform line => ending (perform h line e)

/-- What there is to say against what needs a device. -/
def unchosen? (e : Engine σ ω) : Option Failure :=
  if e.station.settings.device.isSome then none else some .uninitialized

/-- What there is to say against an errand before anything is done. -/
def objection? (h : Host σ ω) (e : Engine σ ω) : Errand → Option Failure
  | .loadFile path =>
    match h.readFile path e.station.moment e.host with
    | .error cause => some (.unreadable path cause)
    | .ok text =>
      match Script.parse h.dialect text with
      | .error cause => some (.malformed cause)
      | .ok _ => none
  | .openDevice | .closeDevice | .run => unchosen? e
  | .perform line =>
    match Line.parse h.dialect line.toList with
    | .error cause => some (.malformed ⟨1, cause, line⟩)
    | .ok (.directive _) => none
    | .ok (.command _) => unchosen? e

theorem ending_error {r : EStateM.Result Failure (Engine σ ω) α} {f : Failure} {e : Engine σ ω}
    (hr : r = .error f e) : ending r = (some f, e) := by
  rw [hr]
  rfl

theorem Begun.isRefusal_ending {r : EStateM.Result Failure (Engine σ ω) α} (hr : Begun r) :
    ∀ f ∈ (ending r).1, f.kind.isRefusal = false := by
  cases hr with
  | ok => nofun
  | error hf => exact forall_mem_some.2 hf

theorem begun_perform_directive {h : Host σ ω} {d : Directive} {line : String}
    (hline : Line.parse h.dialect line.toList = .ok (.directive d)) (e : Engine σ ω) :
    Begun (perform h line e) := by
  unfold perform
  rw [hline]
  simp only
  split
  · exact .ok
  · exact .error rfl

theorem begun_perform_command {h : Host σ ω} {c : Command} {line : String}
    (hline : Line.parse h.dialect line.toList = .ok (.command c)) {e : Engine σ ω}
    (he : e.station.settings.device.isSome = true) : Begun (perform h line e) := by
  have hsend := begun_sendNext h { e with session := e.session.clear.add c }
  rw [perform_eq_sendNext hline he]
  cases hs : sendNext h { e with session := e.session.clear.add c } with
  | ok r e' => exact .ok
  | error f e' =>
      rw [hs] at hsend
      cases hsend with
      | error hf => exact .error hf

theorem of_unchosen?_eq_some {e : Engine σ ω} {f : Failure} (hf : unchosen? e = some f) :
    f = .uninitialized ∧ ¬e.station.settings.device.isSome = true := by
  unfold unchosen? at hf
  split at hf
  · cases hf
  · next he => exact ⟨(Option.some.inj hf).symm, he⟩

theorem isSome_of_unchosen?_eq_none {e : Engine σ ω} (he : unchosen? e = none) :
    e.station.settings.device.isSome = true := by
  unfold unchosen? at he
  split at he
  · next hdevice => exact hdevice
  · cases he

/-- What there is to say against an errand is said at once. -/
theorem attempt_of_objection {h : Host σ ω} {e : Engine σ ω} {x : Errand} {f : Failure}
    (hf : objection? h e x = some f) : attempt h e x = (some f, e) := by
  cases x with
  | loadFile path =>
      refine ending_error ?_
      unfold loadFile
      unfold objection? at hf
      cases hread : h.readFile path e.station.moment e.host with
      | error cause =>
          simp only [hread] at hf ⊢
          cases hf
          rfl
      | ok text =>
          simp only [hread] at hf ⊢
          cases hparse : Script.parse h.dialect text with
          | error cause =>
              simp only [hparse] at hf ⊢
              cases hf
              rfl
          | ok script =>
              simp only [hparse] at hf
              cases hf
  | openDevice | closeDevice =>
      obtain ⟨rfl, he⟩ := of_unchosen?_eq_some hf
      exact ending_error (withDevice_of_not_isSome he _)
  | run =>
      obtain ⟨rfl, he⟩ := of_unchosen?_eq_some hf
      have hopen : openDevice h e = .error .uninitialized e := withDevice_of_not_isSome he _
      refine ending_error ?_
      unfold run
      rw [hopen]
  | perform line =>
      refine ending_error ?_
      unfold objection? at hf
      cases hline : Line.parse h.dialect line.toList with
      | error cause =>
          simp only [hline] at hf
          cases hf
          rw [perform, hline]
      | ok said =>
          cases said with
          | directive d =>
              simp only [hline] at hf
              cases hf
          | command c =>
              simp only [hline] at hf
              obtain ⟨rfl, he⟩ := of_unchosen?_eq_some hf
              exact perform_of_not_isSome hline he

/-- And nothing of the kind is said later. -/
theorem isRefusal_of_attempt {h : Host σ ω} {e : Engine σ ω} {x : Errand}
    (hx : objection? h e x = none) : ∀ f ∈ (attempt h e x).1, f.kind.isRefusal = false := by
  cases x with
  | loadFile path =>
      refine Begun.isRefusal_ending ?_
      unfold loadFile
      unfold objection? at hx
      cases hread : h.readFile path e.station.moment e.host with
      | error cause =>
          simp only [hread] at hx
          cases hx
      | ok text =>
          simp only [hread] at hx ⊢
          cases hparse : Script.parse h.dialect text with
          | error cause =>
              simp only [hparse] at hx
              cases hx
          | ok script => exact .ok
  | openDevice => exact (begun_openDevice h (isSome_of_unchosen?_eq_none hx)).isRefusal_ending
  | closeDevice => exact (begun_closeDevice (isSome_of_unchosen?_eq_none hx)).isRefusal_ending
  | run => exact (begun_run h (isSome_of_unchosen?_eq_none hx)).isRefusal_ending
  | perform line =>
      unfold objection? at hx
      cases hline : Line.parse h.dialect line.toList with
      | error cause =>
          simp only [hline] at hx
          cases hx
      | ok said =>
          cases said with
          | directive d => exact (begun_perform_directive hline e).isRefusal_ending
          | command c =>
              simp only [hline] at hx
              exact (begun_perform_command hline (isSome_of_unchosen?_eq_none hx)).isRefusal_ending

/-- Whatever state an engine is in: if it answers that a file cannot be read, that a line means
nothing or that there is no device, it is afterwards exactly what it was, with everything that
it has done and that its device and its host have seen, and this answer could be given before
anything was done. -/
theorem eq_of_refused (h : Host σ ω) (e : Engine σ ω) (x : Errand) {f : Failure}
    (hf : (attempt h e x).1 = some f) (hrefusal : f.kind.isRefusal = true) :
    (attempt h e x).2 = e ∧ objection? h e x = some f := by
  cases hx : objection? h e x with
  | none =>
      have hbegun : f.kind.isRefusal = false := isRefusal_of_attempt hx f hf
      exact Bool.noConfusion (hbegun.symm.trans hrefusal)
  | some g =>
      rw [attempt_of_objection hx] at hf ⊢
      exact ⟨rfl, hf⟩

/-- A script of four lines, the last of which has no number for its delay, is not loaded, and a
command is not sent to a device that has not been chosen. The script that had been loaded stays,
half executed as it is. -/
theorem eq_of_refused_halfway :
    let text := "PRINT ready\nAT\nATI;;OK\nATZ;;OK;;soon\n"
    let h : Host Nat Unit := { Host.bare with readFile := fun _ _ _ => .ok text }
    let e : Engine Nat Unit :=
      { session :=
          ⟨[.ofRequest (.new "AT" none) [], .ofRequest (.new "ATI" none) []],
            Store.empty.insert "n" (.text "1"), 1, true⟩
        station := ⟨.new none none, .serial, 7, [.printed "half\n"]⟩
        schedule := [⟨.print "done", 2⟩], abortOnFailure := true, position := 1, host := () }
    let malformed : Failure := .malformed ⟨4, .command .badDelay, "ATZ;;OK;;soon"⟩
    ((attempt h e (.loadFile "s")).1 = some malformed ∧ (attempt h e (.loadFile "s")).2 = e) ∧
      (attempt h e (.perform "ATZ")).1 = some .uninitialized ∧
      (attempt h e (.perform "ATZ")).2 = e := by
  intro text h e malformed
  have hfile : (attempt h e (.loadFile "s")).1 = some malformed := by decide +kernel
  have hline : (attempt h e (.perform "ATZ")).1 = some .uninitialized := by decide +kernel
  exact ⟨⟨hfile, (eq_of_refused h e (.loadFile "s") hfile rfl).1⟩,
    hline, (eq_of_refused h e (.perform "ATZ") hline rfl).1⟩

end Engine

end ModemScript
