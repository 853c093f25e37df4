import ModemScript.Host
import ModemScript.Station.Exchange

/-!
# States beside states

To say what becomes of a device in a run, one can put an account beside its state: of what it
has been asked, or of how its line was opened and closed. The device is then a part of a larger
state (`Part`), and everything that deals with it can be lifted to the larger one, which deals
with the part and leaves the rest alone. What comes of an exchange is what came of it before,
with the same rest beside it (`Wire.exchange_along`).
-/

namespace ModemScript

variable {ε σ τ ω α β : Type}

/-- The result of an action with its state seen through `f`. -/
def mapState {s t : Type} (f : s → t) : EStateM.Result ε s α → EStateM.Result ε t α
  | .ok a x => .ok a (f x)
  | .error e x => .error e (f x)

theorem mapState_mapState {s t u : Type} (f : s → t) (g : t → u) (r : EStateM.Result ε s α) :
    mapState g (mapState f r) = mapState (fun x => g (f x)) r := by
  cases r <;> rfl

/-- States `σ` that are a part of states `τ`. Putting a part leaves the rest as it is. -/
structure Part (τ σ : Type) where
  get : τ → σ
  put : τ → σ → τ
  get_put : ∀ x s, get (put x s) = s
  put_put : ∀ x s s', put (put x s) s' = put x s'

namespace Part

/-- Puts a part at the time at which it is there. -/
def timed (p : Part τ σ) (x : τ) (t : Timed σ) : Timed τ := ⟨t.clock, p.put x t.state⟩

end Part

/-! ## What deals with a part -/

def Reaction.along (p : Part τ σ) (x : τ) (a : Reaction ε σ α) : Reaction ε τ α :=
  ⟨a.result, a.took, p.put x a.state⟩

/-- What is asked of the part is asked of the part of `x`. -/
theorem Part.reaction_put (p : Part τ σ) (request : σ → Reaction ε σ α) (x : τ) (s : σ) :
    (request (p.get (p.put x s))).along p (p.put x s) = (request s).along p x := by
  simp only [Reaction.along, p.get_put, p.put_put]

def Wire.along (p : Part τ σ) (w : Wire σ) : Wire τ where
  flush clock x := (w.flush clock (p.get x)).along p x
  write bytes allowed clock x := (w.write bytes allowed clock (p.get x)).along p x
  read most clock x := (w.read most clock (p.get x)).along p x
  available clock x := (w.available clock (p.get x)).along p x

def SerialPorts.along (p : Part τ σ) (ports : SerialPorts σ) : SerialPorts τ where
  openPort options clock x := (ports.openPort options clock (p.get x)).along p x
  closePort clock x := p.put x (ports.closePort clock (p.get x))
  raiseReady clock x := (ports.raiseReady clock (p.get x)).along p x
  flush clock x := (ports.flush clock (p.get x)).along p x
  write bytes allowed clock x := (ports.write bytes allowed clock (p.get x)).along p x
  read most clock x := (ports.read most clock (p.get x)).along p x
  available clock x := (ports.available clock (p.get x)).along p x

def Moment.part (p : Part τ σ) (m : Moment τ) : Moment σ := ⟨m.clock, m.device.map p.get⟩

def Effect.along (p : Part τ σ) (f : Effect σ ω α) : Effect τ ω α :=
  { f with device := fun x => p.put x (f.device (p.get x)) }

/-- The host, which sees and changes no more of the larger state than the part. -/
def Host.along (p : Part τ σ) (h : Host σ ω) : Host τ ω where
  dialect := h.dialect
  environment name m host := h.environment name (m.part p) host
  readFile path m host := h.readFile path (m.part p) host
  writeFile path content m host := (h.writeFile path content (m.part p) host).along p
  shell commandLine m host := (h.shell commandLine (m.part p) host).along p
  print text m host := (h.print text (m.part p) host).along p
  serialError path m host := h.serialError path (m.part p) host

/-! ## An exchange -/

theorem Timed.resume_along (p : Part τ σ) {x : τ} {a : Reaction LinkError σ α} {clock : Nat}
    {k : α → Nat → σ → EStateM.Result LinkError (Timed σ) β}
    {k' : α → Nat → τ → EStateM.Result LinkError (Timed τ) β}
    (h : ∀ b took s, k' b took (p.put x s) = mapState (p.timed x) (k b took s)) :
    resume (a.along p x) clock k' = mapState (p.timed x) (resume a clock k) := by
  obtain ⟨_ | b, took, s⟩ := a
  · rfl
  · exact h b took s

/-- The action does to the larger state what the other one does to the part. -/
def Lifts (p : Part τ σ) (x : τ) (a' : Timed.Action τ α) (a : Timed.Action σ α) : Prop :=
  ∀ t, a' (p.timed x t) = mapState (p.timed x) (a t)

theorem Lifts.bind {p : Part τ σ} {x : τ} {a' : Timed.Action τ α} {a : Timed.Action σ α}
    {b' : α → Timed.Action τ β} {b : α → Timed.Action σ β} (ha : Lifts p x a' a)
    (hb : ∀ v, Lifts p x (b' v) (b v)) : Lifts p x (a' >>= b') (a >>= b) := by
  intro t
  simp only [Bind.bind, EStateM.bind, ha t]
  cases a t with
  | ok v t => exact hb v t
  | error cause t => rfl

theorem lifts_pure (p : Part τ σ) (x : τ) (v : α) : Lifts p x (pure v) (pure v) := fun _ => rfl

theorem lifts_now (p : Part τ σ) (x : τ) : Lifts p x Timed.now Timed.now := fun _ => rfl

theorem lifts_ask (p : Part τ σ) (x : τ) (request : Nat → σ → Reaction LinkError σ α) :
    Lifts p x (Timed.ask fun clock x => (request clock (p.get x)).along p x)
      (Timed.ask request) := by
  intro t
  show Timed.resume ((request t.clock (p.get (p.put x t.state))).along p (p.put x t.state))
    t.clock _ = _
  rw [p.reaction_put (request t.clock)]
  exact Timed.resume_along p fun _ _ _ => rfl

namespace Wire

variable (p : Part τ σ) (w : Wire σ) (x : τ)

theorem await_along (quiet clock : Nat) (s : σ) :
    (w.along p).await quiet clock (p.put x s) =
      mapState (p.timed x) (w.await quiet clock s) := by
  fun_induction w.await quiet clock s with
  | case1 clock s ih =>
      rw [await]
      show Timed.resume ((w.available clock (p.get (p.put x s))).along p (p.put x s)) clock _ = _
      rw [p.reaction_put (w.available clock)]
      refine Timed.resume_along p fun waiting took s' => ?_
      split
      · rfl
      · split
        · rfl
        · next hquiet => exact ih took s' hquiet

theorem listen_along (window deadline clock : Nat) (s : σ) :
    (w.along p).listen window deadline clock (p.put x s) =
      mapState (p.timed x) (w.listen window deadline clock s) := by
  induction hleft : deadline - clock using Nat.strongRecOn generalizing clock s with
  | ind left ih =>
      rw [listen_eq, listen_eq w]
      split
      · show Timed.resume ((w.available clock (p.get (p.put x s))).along p (p.put x s)) clock _ = _
        rw [p.reaction_put (w.available clock)]
        refine Timed.resume_along p fun waiting took s => ?_
        split
        · exact ih _ (by omega) _ s rfl
        · show Timed.resume ((w.read waiting (clock + took) (p.get (p.put x s))).along p
            (p.put x s)) (clock + took) _ = _
          rw [p.reaction_put (w.read waiting (clock + took))]
          refine Timed.resume_along p fun bytes took s => ?_
          dsimp only
          rw [await_along]
          rcases hawait : w.await _ _ s with ⟨_ | _, t⟩ | ⟨cause, t⟩
          · rfl
          · have hle := clock_le_of_await hawait
            have hrest := ih _ (by omega) t.clock t.state rfl
            simp only [mapState, Part.timed, hrest]
            cases w.listen window deadline t.clock t.state <;> rfl
          · rfl
      · rfl

/-- An exchange reads and changes the part only. -/
theorem exchange_along (payload : List UInt8) (wait window : Nat) :
    Lifts p x ((w.along p).exchange payload wait window) (w.exchange payload wait window) := by
  have hflush : Lifts p x (Timed.ask (w.along p).flush) (Timed.ask w.flush) :=
    lifts_ask p x w.flush
  have hwrite : Lifts p x (Timed.ask ((w.along p).write payload wait))
      (Timed.ask (w.write payload wait)) := lifts_ask p x (w.write payload wait)
  refine hflush.bind fun _ => (lifts_now p x).bind fun start => hwrite.bind fun _ => .bind ?_ ?_
  · exact fun t => w.listen_along p x window (start + wait) t.clock t.state
  · exact fun bytes => (lifts_now p x).bind fun _ => hflush.bind fun _ => lifts_pure p x _

end Wire

end ModemScript
