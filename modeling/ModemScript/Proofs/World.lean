import ModemScript.Engine.Run
import ModemScript.Proofs.Beside

/-!
# What an engine acts on, and what it steps through

An engine has two halves. One is its place in the script: the commands, the
cursor, the schedule, the position. The other is its world: the variables, the
station, whether failures end a run, and the host. Directives and the device
belong to the second half only. They neither read nor change where the engine is
in its script, and what they do is determined by the world alone.

`ActsOnWorld` says both at once, as a factorisation: the action does to any
engine what it does to an engine without a script, and puts the world that comes
of it back in place. Everything else about a directive, a proof about schedules
and cursors need not know.
-/

namespace ModemScript

/-- What directives and exchanges can read and change. -/
structure World (σ ω : Type) where
  store : Store
  station : Station σ
  abortOnFailure : Bool
  host : ω

variable {σ ω α : Type}

namespace Engine

def world (e : Engine σ ω) : World σ ω :=
  ⟨e.session.store, e.station, e.abortOnFailure, e.host⟩

/-- The engine at its place in the script, in another world. -/
def withWorld (e : Engine σ ω) (w : World σ ω) : Engine σ ω :=
  { e with
    session := { e.session with store := w.store }, station := w.station
    abortOnFailure := w.abortOnFailure, host := w.host }

end Engine

namespace World

/-- What can be done in a world and may fail. -/
abbrev Action (σ ω α : Type) := EStateM Failure (World σ ω) α

/-- An engine in this world that has no script. -/
def engine (w : World σ ω) : Engine σ ω :=
  ⟨⟨[], w.store, 0, false⟩, w.station, [], w.abortOnFailure, 0, w.host⟩

/-- What an action does in a world where there is no script. -/
def act (a : Engine.Action σ ω α) : Action σ ω α := fun w => mapState Engine.world (a w.engine)

end World

namespace Engine

/-- The action does in every engine what it does in the engine's world, and leaves the rest
of the engine as it is. -/
def ActsOnWorld (a : Action σ ω α) : Prop :=
  ∀ e, a e = mapState e.withWorld (World.act a e.world)

theorem ActsOnWorld.world_eq {a : Action σ ω α} (ha : ActsOnWorld a) (e : Engine σ ω) :
    mapState world (a e) = World.act a e.world := by
  rw [ha e, mapState_mapState]
  cases World.act a e.world <;> rfl

/-- Nothing but the world has changed where the action has not failed. -/
theorem ActsOnWorld.eq_withWorld {a : Action σ ω α} (ha : ActsOnWorld a) {e e' : Engine σ ω}
    {x : α} (h : a e = .ok x e') : e' = e.withWorld e'.world := by
  rw [ha e] at h
  cases hact : World.act a e.world with
  | ok y w =>
      rw [hact] at h
      cases h
      rfl
  | error f w =>
      rw [hact] at h
      cases h

/-- Nothing but the world has changed, whether or not the action has failed. -/
theorem ActsOnWorld.after_eq_withWorld {a : Action σ ω α} (ha : ActsOnWorld a) (e : Engine σ ω) :
    after (a e) = e.withWorld (after (a e)).world := by
  rw [ha e]
  cases World.act a e.world <;> rfl

/-- One action after another, the second of which only depends on the engine that the first
leaves. -/
theorem ActsOnWorld.andThen {β : Type} {a : Action σ ω Unit} {b c : Action σ ω β}
    (ha : ActsOnWorld a) (hb : ActsOnWorld b)
    (hc : ∀ e, c e = match a e with | .ok () e => b e | .error f e => .error f e) :
    ActsOnWorld c := by
  intro e
  rw [World.act, hc, hc, ha e]
  show _ = mapState e.withWorld (mapState world (match a e.world.engine with
    | .ok () e => b e
    | .error f e => .error f e))
  rw [World.act]
  cases a e.world.engine with
  | ok _ v =>
      show b (e.withWorld v.world) = mapState e.withWorld (mapState world (b v))
      rw [hb (e.withWorld v.world), hb.world_eq v]
      rfl
  | error f v => rfl

theorem actsOnWorld_onStation (act : Station.Action σ α) :
    ActsOnWorld (onStation act : Action σ ω α) := by
  intro e
  show onStation act e = mapState e.withWorld (mapState world (onStation act e.world.engine))
  simp only [onStation, World.engine, world]
  cases act e.station <;> rfl

theorem ActsOnWorld.ite {p : Engine σ ω → Bool} {a : Action σ ω Unit}
    (hp : ∀ e : Engine σ ω, p e.world.engine = p e) (ha : ActsOnWorld a) :
    ActsOnWorld fun e => if p e then a e else .ok () e := by
  intro e
  show (if p e then a e else .ok () e) = mapState e.withWorld (mapState world
    (if p e.world.engine then a e.world.engine else .ok () e.world.engine))
  rw [hp]
  cases p e with
  | true => exact ha e
  | false => rfl

theorem actsOnWorld_openLine (h : Host σ ω) : ActsOnWorld (openLine h : Action σ ω Unit) :=
  fun e =>
    actsOnWorld_onStation
      (Station.openLine fun path => h.serialError path e.station.moment e.host) e

theorem actsOnWorld_ensureClosed : ActsOnWorld (ensureClosed : Action σ ω Unit) :=
  .ite (fun _ => rfl) (actsOnWorld_onStation Station.closeLine)

theorem actsOnWorld_reopen (h : Host σ ω) : ActsOnWorld (reopen h : Action σ ω Unit) := by
  refine .andThen actsOnWorld_ensureClosed
    (.ite (p := fun e => e.station.settings.isComplete) (fun _ => rfl) (actsOnWorld_openLine h))
    fun e => ?_
  unfold reopen
  cases ensureClosed e <;> rfl

theorem ActsOnWorld.withDevice {a : Action σ ω α} (ha : ActsOnWorld a) :
    ActsOnWorld (withDevice a) := by
  intro e
  show (if e.station.settings.device.isSome then a e else .error .uninitialized e) =
    mapState e.withWorld (mapState world (if e.station.settings.device.isSome then
      a e.world.engine else .error .uninitialized e.world.engine))
  cases e.station.settings.device.isSome with
  | true => exact ha e
  | false => rfl

theorem actsOnWorld_openDevice (h : Host σ ω) : ActsOnWorld (openDevice h : Action σ ω Unit) := by
  refine .withDevice fun e => ?_
  show (if e.station.isOpen then .ok () e else openLine h e) =
    mapState e.withWorld (mapState world (if e.station.isOpen then .ok () e.world.engine
      else openLine h e.world.engine))
  cases e.station.isOpen with
  | true => rfl
  | false => exact actsOnWorld_openLine h e

theorem actsOnWorld_closeDevice : ActsOnWorld (closeDevice : Action σ ω Unit) :=
  .withDevice actsOnWorld_ensureClosed

theorem actsOnWorld_runShell (h : Host σ ω) (commandLine : String) :
    ActsOnWorld (runShell h commandLine : Action σ ω Unit) := by
  intro e
  show runShell h commandLine e =
    mapState e.withWorld (mapState world (runShell h commandLine e.world.engine))
  simp only [runShell, hostDoes, World.engine, world]
  cases (h.shell commandLine e.station.moment e.host).result with
  | error cause => rfl
  | ok run =>
      simp only
      split <;> rfl

theorem actsOnWorld_writeFile (h : Host σ ω) (path content : String) :
    ActsOnWorld (writeFile h path content : Action σ ω Unit) := by
  intro e
  show writeFile h path content e =
    mapState e.withWorld (mapState world (writeFile h path content e.world.engine))
  simp only [writeFile, hostDoes, World.engine, world]
  cases (h.writeFile path content e.station.moment e.host).result <;> rfl

/-- A directive acts on the world, whichever it is. -/
theorem actsOnWorld_apply (h : Host σ ω) (d : Directive) :
    ActsOnWorld (apply h d : Action σ ω Unit) := by
  intro e
  cases d with
  | device path => exact actsOnWorld_reopen h (e.configure fun s => { s with device := some path })
  | baudRate rate =>
      exact actsOnWorld_reopen h (e.configure fun s => { s with baudRate := some rate })
  | rtsCts on => exact actsOnWorld_reopen h (e.configure fun s => { s with rtsCts := on })
  | dsrDtr on => exact actsOnWorld_reopen h (e.configure fun s => { s with dsrDtr := on })
  | timeout | lineBreak | abortOnFailure | set | print => rfl
  | environment name =>
      show apply h (.environment name) e =
        mapState e.withWorld (mapState world (apply h (.environment name) e.world.engine))
      simp only [apply, World.engine, world]
      cases h.environment name e.station.moment e.host <;> rfl
  | exec commandLine => exact actsOnWorld_runShell h (e.session.store.substitute commandLine) e
  | write path content =>
      exact actsOnWorld_writeFile h path (e.session.store.substitute content) e

end Engine

end ModemScript
