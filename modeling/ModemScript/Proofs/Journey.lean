import ModemScript.Proofs.Steps

/-!
# Going on after failures

A run ends with the first step that fails. Whoever takes the steps one by one need
not stop there: the engine is as the failed step left it, and the next step can be
taken, perhaps after the device has been opened or something else has changed in
the world. A journey is any such sequence of steps.

What a step does is told in deeds: the directives that are carried out, and then
the request that is sent, if there is one. The directives are those that are due,
up to the first whose failure ends the run (`World.carry`), and `step_eq_carried`
ties this account to the step itself: a step carries out these directives and no
others, leaves those it has not reached in the schedule, and sends the next command
only if all are done.
-/

namespace ModemScript

variable {σ ω : Type}

/-! ## Directives one after the other -/

namespace World

/-- What becomes of a list of directives: those that are carried out, those that are not
reached, the failure that ends the run, if one does, and the world that is left. -/
structure Carried (σ ω : Type) where
  done : List Scheduled
  left : List Scheduled
  failure : Option Failure
  world : World σ ω

def Carried.cons (x : Scheduled) (r : Carried σ ω) : Carried σ ω := { r with done := x :: r.done }

/-- Carries out directives in order, up to the first whose failure ends the run. -/
def carry (h : Host σ ω) : List Scheduled → World σ ω → Carried σ ω
  | [], w => ⟨[], [], none, w⟩
  | x :: rest, w =>
    match act (Engine.apply h x.directive) w with
    | .ok () w => (carry h rest w).cons x
    | .error cause w =>
      if w.abortOnFailure then ⟨[x], rest, some (.directive x.directive cause), w⟩
      else (carry h rest w).cons x

/-- Carrying out directives one after the other leads from a world to another one, and no
failure among them ends the run. -/
inductive Passes (h : Host σ ω) : World σ ω → List Scheduled → World σ ω → Prop
  | nil {w : World σ ω} : Passes h w [] w
  | done {x : Scheduled} {xs : List Scheduled} {w w' w'' : World σ ω} :
      act (Engine.apply h x.directive) w = .ok () w' → Passes h w' xs w'' →
      Passes h w (x :: xs) w''
  | tolerated {x : Scheduled} {xs : List Scheduled} {cause : Failure} {w w' w'' : World σ ω} :
      act (Engine.apply h x.directive) w = .error cause w' → w'.abortOnFailure = false →
      Passes h w' xs w'' → Passes h w (x :: xs) w''

/-- Either all directives are carried out, or all up to the first whose failure ends the
run. -/
theorem carry_cases (h : Host σ ω) (xs : List Scheduled) (w : World σ ω) :
    (∃ w', Passes h w xs w' ∧ carry h xs w = ⟨xs, [], none, w'⟩) ∨
      ∃ done x left cause w' w'', xs = done ++ x :: left ∧ Passes h w done w' ∧
        act (Engine.apply h x.directive) w' = .error cause w'' ∧ w''.abortOnFailure = true ∧
        carry h xs w = ⟨done ++ [x], left, some (.directive x.directive cause), w''⟩ := by
  induction xs generalizing w with
  | nil => exact .inl ⟨w, .nil, rfl⟩
  | cons x xs ih =>
      have hcons : ∀ w₁, (∀ {ys w₂}, Passes h w₁ ys w₂ → Passes h w (x :: ys) w₂) →
          carry h (x :: xs) w = (carry h xs w₁).cons x →
          (∃ w', Passes h w (x :: xs) w' ∧ carry h (x :: xs) w = ⟨x :: xs, [], none, w'⟩) ∨
            ∃ done y left cause w' w'', x :: xs = done ++ y :: left ∧ Passes h w done w' ∧
              act (Engine.apply h y.directive) w' = .error cause w'' ∧ w''.abortOnFailure = true ∧
              carry h (x :: xs) w =
                ⟨done ++ [y], left, some (.directive y.directive cause), w''⟩ := by
        intro w₁ hx hcarry
        rw [hcarry]
        rcases ih w₁ with ⟨w', hpass, hxs⟩ | ⟨done, y, left, cause, w', w'', rfl, hpass, hy, ha, hxs⟩
        · rw [hxs]
          exact .inl ⟨w', hx hpass, rfl⟩
        · rw [hxs]
          exact .inr ⟨x :: done, y, left, cause, w', w'', rfl, hx hpass, hy, ha, rfl⟩
      cases hact : act (Engine.apply h x.directive) w with
      | ok _ w₁ =>
          exact hcons w₁ (.done hact) (by rw [carry, hact])
      | error cause w₁ =>
          cases ha : w₁.abortOnFailure with
          | false =>
              exact hcons w₁ (.tolerated hact ha) (by rw [carry, hact]; simp only [ha]; rfl)
          | true =>
              refine .inr ⟨[], x, xs, cause, w, w₁, rfl, .nil, hact, ha, ?_⟩
              rw [carry, hact]
              simp only [ha]
              rfl

end World

namespace Engine

/-- What becomes of the directives that are due. -/
def carried (h : Host σ ω) (e : Engine σ ω) : World.Carried σ ω := World.carry h e.due e.world

theorem applyDue_eq_carry (h : Host σ ω) (xs : List Scheduled) (e : Engine σ ω) :
    applyDue h xs e =
      let r := World.carry h xs e.world
      match r.failure with
      | none => .ok () (e.withWorld r.world)
      | some f => .error f ((e.plan (r.left ++ e.schedule)).withWorld r.world) := by
  induction xs generalizing e with
  | nil => rfl
  | cons x xs ih =>
      rw [applyDue_cons, World.carry]
      cases World.act (apply h x.directive) e.world with
      | ok _ w => exact ih (e.withWorld w)
      | error cause w =>
          cases ha : w.abortOnFailure with
          | false =>
              simp only [ha]
              exact ih (e.withWorld w)
          | true =>
              simp only [ha]
              rfl

theorem step_eq_carried (h : Host σ ω) (e : Engine σ ω) :
    step h e =
      let r := carried h e
      match r.failure with
      | none => sendNext h ((e.plan e.later).withWorld r.world)
      | some f => .error f ((e.plan (r.left ++ e.later)).withWorld r.world) := by
  have hcarry : World.carry h e.due ({ e with schedule := e.later } : Engine σ ω).world =
    carried h e := rfl
  rw [step_eq, applyDue_eq_carry, hcarry]
  simp only
  cases (carried h e).failure <;> rfl

/-- A step either carries out all that is due and goes on to the next command, or it ends with
the first directive whose failure ends the run, and those behind it are scheduled again. -/
theorem step_cases (h : Host σ ω) (e : Engine σ ω) :
    (∃ w, World.Passes h e.world e.due w ∧ carried h e = ⟨e.due, [], none, w⟩ ∧
        step h e = sendNext h ((e.plan e.later).withWorld w)) ∨
      ∃ done x left cause w w', e.due = done ++ x :: left ∧ World.Passes h e.world done w ∧
        World.act (apply h x.directive) w = .error cause w' ∧ w'.abortOnFailure = true ∧
        carried h e = ⟨done ++ [x], left, some (.directive x.directive cause), w'⟩ ∧
        step h e =
          .error (.directive x.directive cause) ((e.plan (left ++ e.later)).withWorld w') := by
  rw [step_eq_carried]
  rcases World.carry_cases h e.due e.world with
    ⟨w, hpass, hcarry⟩ | ⟨done, x, left, cause, w, w', hdue, hpass, hact, ha, hcarry⟩
  · have hcarried : carried h e = ⟨e.due, [], none, w⟩ := hcarry
    rw [hcarried]
    exact .inl ⟨w, hpass, rfl, rfl⟩
  · have hcarried : carried h e =
        ⟨done ++ [x], left, some (.directive x.directive cause), w'⟩ := hcarry
    rw [hcarried]
    exact .inr ⟨done, x, left, cause, w, w', hdue, hpass, hact, ha, rfl, rfl⟩

end Engine

/-! ## Deeds -/

/-- What a step does that belongs to the script. -/
inductive Deed where
  /-- A directive is carried out, whether or not it fails. -/
  | directive (x : Scheduled)
  /-- A request is sent as it stands, or cannot be sent and is not answered. -/
  | request (r : Request) (answered : Bool)
  deriving DecidableEq, Repr

def Deed.directive? : Deed → Option Scheduled
  | directive x => some x
  | request .. => none

namespace Engine

def succeeds {ε s α : Type} : EStateM.Result ε s α → Bool
  | .ok .. => true
  | .error .. => false

def asks (h : Host σ ω) (e : Engine σ ω) : List Deed :=
  match e.session.next? with
  | none => []
  | some (c, session) => [.request c.request (succeeds (send h c { e with session := session }))]

def deeds (h : Host σ ω) (e : Engine σ ω) : List Deed :=
  let r := carried h e
  r.done.map .directive ++
    match r.failure with
    | none => asks h ((e.plan e.later).withWorld r.world)
    | some _ => []

theorem deeds_of_not_due {h : Host σ ω} {e : Engine σ ω}
    (hd : ∀ x ∈ e.schedule, x.index ≠ e.position) : deeds h e = asks h e := by
  have hcarried : carried h e = ⟨[], [], none, e.world⟩ := by
    rw [carried, due_eq_nil hd]
    rfl
  rw [deeds, hcarried, later_eq_self hd]
  rfl

/-- The failure that an action ends with, if it does. -/
def failures {s α : Type} : EStateM.Result Failure s α → List Failure
  | .ok .. => []
  | .error f _ => [f]

end Engine

/-- What was done in a sequence of steps, how steps failed, and the engine that is left. -/
structure Journey (σ ω : Type) where
  deeds : List Deed
  failures : List Failure
  engine : Engine σ ω

namespace Journey

def directives (j : Journey σ ω) : List Scheduled := j.deeds.filterMap Deed.directive?

end Journey

namespace Engine

/-- Takes steps one after the other, whether or not they fail. Before each of them the world
may change in any way; the engine's place in the script does not. -/
def journey (h : Host σ ω) : List (World σ ω → World σ ω) → Engine σ ω → Journey σ ω
  | [], e => ⟨[], [], e⟩
  | change :: changes, e =>
    let e := e.withWorld (change e.world)
    let j := journey h changes (after (step h e))
    ⟨deeds h e ++ j.deeds, failures (step h e) ++ j.failures, j.engine⟩

end Engine

end ModemScript
