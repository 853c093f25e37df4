import ModemScript.Proofs.AdHoc
import ModemScript.Proofs.Schedule

/-!
# What a line by itself leaves of a script

A command that is given by itself takes the place of all commands of a script, but a script has
two halves, and the other half stays: the directives that are still scheduled, and the position
that decides when they are due. The next step does not know that the commands they were written
for are gone. It carries out what is scheduled under the position, before whatever command has
been added in the meantime, and so does each step after it.

Nothing else can happen to the leftovers. They are carried out when the position comes to them, in
their order and once each, and the position only rises (`Goes`). This holds of a step, and with it
of anything that consists of steps and of actions that carry out nothing of the schedule. So a line
by itself takes the place of the whole script in one case: nothing is scheduled at the position or
behind it. Then the schedule may as well be empty, since nothing ever looks at the rest of it.
-/

namespace ModemScript

variable {σ ω α : Type}

/-- Whatever becomes of directives, the first of them is carried out. -/
theorem World.done_ne_nil {h : Host σ ω} {xs : List Scheduled} {w : World σ ω} (hxs : xs ≠ []) :
    (carry h xs w).done ≠ [] := by
  rcases carry_cases h xs w with
    ⟨w', -, hcarry⟩ | ⟨done, x, left, cause, w', w'', -, -, -, -, hcarry⟩
  · rw [hcarry]
    exact hxs
  · rw [hcarry]
    exact List.append_ne_nil_of_right_ne_nil done (List.cons_ne_nil x [])

namespace Engine

/-! ## Moves -/

/-- What can be done with an engine without loading a script. Between two moves anything may
happen to it that neither looks at its schedule nor changes its place in it. -/
inductive Move (σ ω : Type) where
  | step
  | run
  | perform (line : String)
  | change (f : Engine σ ω → Engine σ ω)

/-- The engine after a move, whether or not it fails. -/
def move (h : Host σ ω) (e : Engine σ ω) : Move σ ω → Engine σ ω
  | .step => after (step h e)
  | .run => after (run h e)
  | .perform line => after (perform h line e)
  | .change f => { f (e.plan []) with schedule := e.schedule, position := e.position }

/-- The directives of the schedule that are carried out while steps are taken until no command is
left or one fails. -/
def drainDone (h : Host σ ω) (e : Engine σ ω) : List Scheduled :=
  match _ : step h e with
  | .ok (some _) e₁ => (carried h e).done ++ drainDone h e₁
  | .ok none _ => (carried h e).done
  | .error _ _ => (carried h e).done
termination_by e.session.remaining
decreasing_by exact remaining_step_lt ‹_›

theorem drainDone_eq (h : Host σ ω) (e : Engine σ ω) :
    drainDone h e =
      (carried h e).done ++
        match step h e with
        | .ok (some _) e₁ => drainDone h e₁
        | _ => [] := by
  rw [drainDone]
  split <;> next hstep => simp only [hstep, List.append_nil]

/-- The directives of the schedule that are carried out in a move. -/
def moveDone (h : Host σ ω) (e : Engine σ ω) : Move σ ω → List Scheduled
  | .step => (carried h e).done
  | .run =>
    match openDevice h e with
    | .ok () e => drainDone h e
    | .error _ _ => []
  | .perform _ | .change _ => []

/-- The engine after moves one after the other, and the directives that are carried out. -/
def moves (h : Host σ ω) : List (Move σ ω) → Engine σ ω → List Scheduled × Engine σ ω
  | [], e => ([], e)
  | m :: ms, e =>
    let (done, e') := moves h ms (move h e m)
    (moveDone h e m ++ done, e')

/-! ## What does not look at the schedule -/

/-- The action does the same whatever is scheduled, and leaves it scheduled. -/
def Unscheduled (a : Action σ ω α) : Prop := ∀ s e, a (e.plan s) = mapState (plan s) (a e)

theorem after_eq_leftBy {ε : Type} (r : EStateM.Result ε (Engine σ ω) α) : after r = leftBy r := by
  cases r <;> rfl

theorem Unscheduled.schedule_eq {a : Action σ ω α} (ha : Unscheduled a) (e : Engine σ ω) :
    (after (a e)).schedule = e.schedule := by
  have hplan : a e = mapState (plan e.schedule) (a e) := ha e.schedule e
  rw [hplan, after_eq_leftBy, leftBy_mapState]
  rfl

theorem ActsOnWorld.unscheduled {a : Action σ ω α} (ha : ActsOnWorld a) : Unscheduled a := by
  intro s e
  rw [ha e, ha (e.plan s), mapState_mapState]
  rfl

theorem ActsOnWorld.position_eq {a : Action σ ω α} (ha : ActsOnWorld a) (e : Engine σ ω) :
    (after (a e)).position = e.position := by
  rw [ha.after_eq_withWorld e]
  rfl

theorem unscheduled_send (h : Host σ ω) (c : Command) :
    Unscheduled (send h c : Action σ ω Response) := by
  intro s e
  simp only [send, onStation, plan]
  cases Station.exchange c.text c.request.timeout (e.station.sleep c.request.delay) <;> rfl

theorem unscheduled_sendNext (h : Host σ ω) :
    Unscheduled (sendNext h : Action σ ω (Option Response)) := by
  intro s e
  have hsession : (e.plan s).session = e.session := rfl
  simp only [sendNext, hsession]
  cases e.session.next? with
  | none => rfl
  | some p =>
      obtain ⟨c, session⟩ := p
      have hsend : send h c { e.plan s with session := session } =
          mapState (plan s) (send h c { e with session := session }) :=
        unscheduled_send h c s { e with session := session }
      simp only [hsend]
      cases send h c { e with session := session } with
      | error f e' => rfl
      | ok response e' =>
          have hlost : (e'.isLost c && e'.abortOnFailure) =
              ((e'.plan s).isLost c && (e'.plan s).abortOnFailure) := rfl
          have hfallback : (e'.session.failed && !c.fallbacks.isEmpty) =
              ((e'.plan s).session.failed && !c.fallbacks.isEmpty) := rfl
          simp only [mapState, ← hlost, ← hfallback]
          cases e'.isLost c && e'.abortOnFailure with
          | true => rfl
          | false => cases e'.session.failed && !c.fallbacks.isEmpty <;> rfl

/-! ## What becomes of the schedule -/

/-- On the way from an engine to another one these directives are carried out: the first of what
is scheduled under each index, all of it under an index that the position passes, and nothing
under an index that it does not come to. -/
structure Goes (e : Engine σ ω) (done : List Scheduled) (e' : Engine σ ω) : Prop where
  under_eq : ∀ i, under i done ++ under i e'.schedule = under i e.schedule
  le : e.position ≤ e'.position
  within : ∀ x ∈ done, e.position ≤ x.index ∧ x.index ≤ e'.position
  passed : ∀ i, e.position ≤ i → i < e'.position → under i e'.schedule = []

theorem Goes.of_eq {e e' : Engine σ ω} (hschedule : e'.schedule = e.schedule)
    (hposition : e'.position = e.position) : Goes e [] e' where
  under_eq i := by rw [hschedule]; rfl
  le := Nat.le_of_eq hposition.symm
  within := nofun
  passed i hle hlt := absurd (Nat.lt_of_le_of_lt hle (hposition ▸ hlt)) (Nat.lt_irrefl _)

theorem Goes.trans {e e₁ e₂ : Engine σ ω} {done done' : List Scheduled} (h : Goes e done e₁)
    (h' : Goes e₁ done' e₂) : Goes e (done ++ done') e₂ where
  under_eq i := by rw [under_append, List.append_assoc, h'.under_eq, h.under_eq]
  le := Nat.le_trans h.le h'.le
  within x hx := by
    rcases List.mem_append.1 hx with hx | hx
    · exact ⟨(h.within x hx).1, Nat.le_trans (h.within x hx).2 h'.le⟩
    · exact ⟨Nat.le_trans h.le (h'.within x hx).1, (h'.within x hx).2⟩
  passed i hle hlt := by
    rcases Nat.lt_or_ge i e₁.position with hi | hi
    · have hnone := h'.under_eq i
      rw [h.passed i hle hi] at hnone
      exact (List.append_eq_nil_iff.1 hnone).2
    · exact h'.passed i hi hlt

theorem Goes.under_passed {e e' : Engine σ ω} {done : List Scheduled} (h : Goes e done e') {i : Nat}
    (hle : e.position ≤ i) (hlt : i < e'.position) : under i done = under i e.schedule := by
  have hunder := h.under_eq i
  rw [h.passed i hle hlt, List.append_nil] at hunder
  exact hunder

theorem position_sendNext (h : Host σ ω) (e : Engine σ ω) :
    match sendNext h e with
    | .error _ e' => e'.position = e.position
    | .ok _ e' => e'.position = e.position ∨ e'.position = e.position + 1 := by
  unfold sendNext
  cases e.session.next? with
  | none => exact .inl rfl
  | some p =>
      obtain ⟨c, session⟩ := p
      have hsend := position_send h c { e with session := session }
      simp only
      cases hs : send h c { e with session := session } with
      | error f e' =>
          rw [hs] at hsend
          exact hsend
      | ok response e' =>
          rw [hs] at hsend
          have hposition : e'.position = e.position := hsend
          simp only
          cases e'.isLost c && e'.abortOnFailure with
          | true => exact hposition
          | false =>
              cases e'.session.failed && !c.fallbacks.isEmpty with
              | true => exact .inl hposition
              | false => exact .inr (congrArg (· + 1) hposition)

/-- Only what is scheduled at the position is carried out, and the position moves on by one at
most. -/
theorem Goes.of_near {e e' : Engine σ ω} {done : List Scheduled}
    (hunder : ∀ i, under i done ++ under i e'.schedule = under i e.schedule)
    (hat : ∀ x ∈ done, x.index = e.position) (hle : e.position ≤ e'.position)
    (hnext : e'.position ≤ e.position + 1)
    (hpassed : e.position < e'.position → under e.position e'.schedule = []) :
    Goes e done e' where
  under_eq := hunder
  le := hle
  within x hx := by
    rw [hat x hx]
    exact ⟨Nat.le_refl _, hle⟩
  passed i hi hlt := by
    obtain rfl : i = e.position := by omega
    exact hpassed hlt

/-- The position moves on only if all that was due has been carried out. -/
theorem goes_step (h : Host σ ω) (e : Engine σ ω) :
    Goes e (carried h e).done (after (step h e)) := by
  have hat : ∀ x ∈ (carried h e).done, x.index = e.position := by
    intro x hx
    refine index_of_mem_due ?_
    rw [← World.done_append_left h e.due e.world]
    exact List.mem_append_left _ hx
  have hgoes := Goes.of_near (under_step h e) hat
  rcases step_cases h e with
    ⟨w, -, -, hstep⟩ | ⟨before, x, left, cause, w, w', -, -, -, -, -, hstep⟩
  · have hposition := position_sendNext h ((e.plan e.later).withWorld w)
    have hschedule := schedule_sendNext h ((e.plan e.later).withWorld w)
    have hlater := under_later e e.position
    rw [if_pos rfl] at hlater
    rw [hstep] at hgoes ⊢
    cases hs : sendNext h ((e.plan e.later).withWorld w) with
    | error f e' =>
        rw [hs] at hposition hgoes
        exact hgoes (Nat.le_of_eq hposition.symm) (hposition ▸ Nat.le_succ _)
          fun hlt => absurd hlt (hposition ▸ Nat.lt_irrefl _)
    | ok r e' =>
        rw [hs] at hposition hschedule hgoes
        have hnear : e'.position = e.position ∨ e'.position = e.position + 1 := hposition
        refine hgoes ?_ ?_ fun _ => (congrArg (under e.position) hschedule).trans hlater
        · show e.position ≤ e'.position
          omega
        · show e'.position ≤ e.position + 1
          omega
  · rw [hstep] at hgoes ⊢
    exact hgoes (Nat.le_refl _) (Nat.le_succ _) fun hlt => absurd hlt (Nat.lt_irrefl _)

theorem goes_drain (h : Host σ ω) (e : Engine σ ω) : Goes e (drainDone h e) (drain h e).2 := by
  fun_induction drain h e with
  | case1 e r e₁ hstep outcome e₂ hdrain ih =>
      have hgoes := goes_step h e
      rw [hstep] at hgoes
      rw [hdrain] at ih
      rw [drainDone_eq, hstep]
      exact hgoes.trans ih
  | case2 e e₁ hstep | case3 e f e₁ hstep =>
      have hgoes := goes_step h e
      rw [hstep] at hgoes
      rw [drainDone_eq, hstep, List.append_nil]
      exact hgoes

/-- What only acts on the world carries out nothing of the schedule. -/
theorem ActsOnWorld.goes {a : Action σ ω α} (ha : ActsOnWorld a) (e : Engine σ ω) :
    Goes e [] (after (a e)) :=
  .of_eq (ha.unscheduled.schedule_eq e) (ha.position_eq e)

theorem goes_run (h : Host σ ω) (e : Engine σ ω) :
    Goes e (moveDone h e .run) (after (run h e)) := by
  have hopen := (actsOnWorld_openDevice h).goes e
  rw [run_eq_finish]
  unfold moveDone
  cases hopened : openDevice h e with
  | error f e₁ =>
      rw [hopened] at hopen
      exact hopen
  | ok _ e₁ =>
      rw [hopened] at hopen
      have hclose := (hopen.trans (goes_drain h e₁)).trans
        (actsOnWorld_closeDevice.goes (drain h e₁).2)
      rw [List.append_nil, ← after_finish] at hclose
      exact hclose

/-- A line by itself leaves the schedule and the position as they are. -/
theorem unscheduled_perform (h : Host σ ω) (line : String) :
    Unscheduled (perform h line : Action σ ω (Option Response)) := by
  intro s e
  cases hline : Line.parse h.dialect line.toList with
  | error cause =>
      simp only [perform, hline]
      rfl
  | ok said =>
      cases said with
      | directive d =>
          simp only [perform, hline, (actsOnWorld_apply h d).unscheduled s e]
          cases apply h d e <;> rfl
      | command c =>
          by_cases hdevice : e.station.settings.device.isSome = true
          · rw [perform_eq_sendNext hline hdevice,
              perform_eq_sendNext (e := e.plan s) hline hdevice]
            have hsend : sendNext h { e.plan s with session := (e.plan s).session.clear.add c } =
                mapState (plan s) (sendNext h { e with session := e.session.clear.add c }) :=
              unscheduled_sendNext h s { e with session := e.session.clear.add c }
            rw [hsend]
            cases sendNext h { e with session := e.session.clear.add c } <;> rfl
          · rw [perform_of_not_isSome hline hdevice,
              perform_of_not_isSome (e := e.plan s) hline hdevice]
            rfl

theorem position_perform (h : Host σ ω) (line : String) (e : Engine σ ω) :
    (after (perform h line e)).position = e.position := by
  cases hline : Line.parse h.dialect line.toList with
  | error cause =>
      simp only [perform, hline]
      rfl
  | ok said =>
      cases said with
      | directive d =>
          have happly := (actsOnWorld_apply h d).position_eq e
          simp only [perform, hline]
          cases hd : apply h d e <;>
            · rw [hd] at happly
              exact happly
      | command c =>
          by_cases hdevice : e.station.settings.device.isSome = true
          · rw [perform_eq_sendNext hline hdevice]
            have hposition := position_sendNext h { e with session := e.session.clear.add c }
            cases hs : sendNext h { e with session := e.session.clear.add c } with
            | error f e' =>
                rw [hs] at hposition
                exact hposition
            | ok r e' => rfl
          · rw [perform_of_not_isSome hline hdevice]
            rfl

theorem goes_move (h : Host σ ω) (e : Engine σ ω) (m : Move σ ω) :
    Goes e (moveDone h e m) (move h e m) := by
  cases m with
  | step => exact goes_step h e
  | run => exact goes_run h e
  | perform line =>
      exact .of_eq ((unscheduled_perform h line).schedule_eq e) (position_perform h line e)
  | change f => exact .of_eq rfl rfl

theorem goes_moves (h : Host σ ω) (ms : List (Move σ ω)) :
    ∀ e : Engine σ ω, Goes e (moves h ms e).1 (moves h ms e).2 := by
  induction ms with
  | nil => exact fun e => .of_eq rfl rfl
  | cons m ms ih => exact fun e => (goes_move h e m).trans (ih (move h e m))

/-! ## Nothing is left over -/

/-- The position has passed all that is scheduled. -/
def Idle (e : Engine σ ω) : Prop := ∀ x ∈ e.schedule, x.index < e.position

theorem Idle.of_goes {e e' : Engine σ ω} {done : List Scheduled} (hi : Idle e)
    (hg : Goes e done e') (hschedule : e'.schedule = e.schedule) : Idle e' := by
  intro x hx
  rw [hschedule] at hx
  exact Nat.lt_of_lt_of_le (hi x hx) hg.le

theorem Idle.done_eq_nil {e e' : Engine σ ω} {done : List Scheduled} (hi : Idle e)
    (hg : Goes e done e') : done = [] := by
  refine List.eq_nil_iff_forall_not_mem.2 fun x hx => ?_
  have hunder : x ∈ under x.index e.schedule := by
    rw [← hg.under_eq]
    exact List.mem_append_left _ (List.mem_filter.2 ⟨hx, beq_self_eq_true _⟩)
  have hlt := hi x (List.mem_filter.1 hunder).1
  exact absurd (hg.within x hx).1 (Nat.not_le.2 hlt)

theorem Idle.step_eq {e : Engine σ ω} (hi : Idle e) (h : Host σ ω) : step h e = sendNext h e :=
  step_eq_sendNext fun x hx => Nat.ne_of_lt (hi x hx)

theorem Idle.schedule_step {e : Engine σ ω} (hi : Idle e) (h : Host σ ω) :
    (after (step h e)).schedule = e.schedule := by
  rw [hi.step_eq]
  exact schedule_sendNext h e

theorem Idle.step_plan_nil {e : Engine σ ω} (hi : Idle e) (h : Host σ ω) :
    step h (e.plan []) = mapState (plan []) (step h e) := by
  have hnil : Idle (e.plan []) := nofun
  rw [hnil.step_eq, hi.step_eq]
  exact unscheduled_sendNext h [] e

theorem Idle.drain_plan_nil {e : Engine σ ω} (hi : Idle e) (h : Host σ ω) :
    drain h (e.plan []) = ((drain h e).1, (drain h e).2.plan []) ∧
      (drain h e).2.schedule = e.schedule := by
  fun_induction drain h e with
  | case1 e r e₁ hstep outcome e₂ hdrain ih =>
      have hsame := hi.step_plan_nil h
      have hgoes := goes_step h e
      have hschedule := hi.schedule_step h
      rw [hstep] at hsame hgoes hschedule
      obtain ⟨hrest, hleft⟩ := ih (hi.of_goes hgoes hschedule)
      rw [hdrain] at hrest hleft
      refine ⟨?_, hleft.trans hschedule⟩
      rw [drain_eq, hsame]
      simp only [mapState, hrest]
  | case2 e e₁ hstep | case3 e f e₁ hstep =>
      have hsame := hi.step_plan_nil h
      have hschedule := hi.schedule_step h
      rw [hstep] at hsame hschedule
      refine ⟨?_, hschedule⟩
      rw [drain_eq, hsame]
      rfl

theorem unscheduled_finish (o : Outcome) :
    Unscheduled fun e : Engine σ ω => finish (o, e) := by
  intro s e
  show finish (o, e.plan s) = mapState (plan s) (finish (o, e))
  simp only [finish, actsOnWorld_closeDevice.unscheduled s e]
  cases closeDevice e <;> cases o.failure <;> rfl

theorem Idle.run_plan_nil {e : Engine σ ω} (hi : Idle e) (h : Host σ ω) :
    run h (e.plan []) = mapState (plan []) (run h e) ∧ (after (run h e)).schedule = e.schedule := by
  have hgoes := (actsOnWorld_openDevice h).goes e
  have hschedule := (actsOnWorld_openDevice h).unscheduled.schedule_eq e
  rw [run_eq_finish, run_eq_finish, (actsOnWorld_openDevice h).unscheduled [] e]
  cases hopened : openDevice h e with
  | error f e₁ =>
      rw [hopened] at hschedule
      exact ⟨rfl, hschedule⟩
  | ok _ e₁ =>
      rw [hopened] at hgoes hschedule
      have hidle : Idle e₁ := hi.of_goes hgoes hschedule
      obtain ⟨hdrain, hleft⟩ := hidle.drain_plan_nil h
      have hfinish : Unscheduled fun e : Engine σ ω => finish ((drain h e₁).1, e) :=
        unscheduled_finish _
      refine ⟨?_, (hfinish.schedule_eq (drain h e₁).2).trans (hleft.trans hschedule)⟩
      show finish (drain h (e₁.plan [])) = mapState (plan []) (finish (drain h e₁))
      rw [hdrain]
      exact hfinish [] (drain h e₁).2

theorem Idle.move_plan_nil {e : Engine σ ω} (hi : Idle e) (h : Host σ ω) (m : Move σ ω) :
    move h (e.plan []) m = (move h e m).plan [] ∧ (move h e m).schedule = e.schedule := by
  have hafter : ∀ {β : Type} {r r' : EStateM.Result Failure (Engine σ ω) β},
      r' = mapState (plan []) r → after r' = (after r).plan [] := by
    rintro β r r' rfl
    cases r <;> rfl
  cases m with
  | step => exact ⟨hafter (hi.step_plan_nil h), hi.schedule_step h⟩
  | run =>
      obtain ⟨hsame, hschedule⟩ := hi.run_plan_nil h
      exact ⟨hafter hsame, hschedule⟩
  | perform line =>
      have hline := unscheduled_perform (σ := σ) h line
      exact ⟨hafter (hline [] e), hline.schedule_eq e⟩
  | change f => exact ⟨rfl, rfl⟩

theorem Idle.moves_plan_nil (h : Host σ ω) (ms : List (Move σ ω)) :
    ∀ {e : Engine σ ω}, Idle e → (moves h ms (e.plan [])).2 = (moves h ms e).2.plan [] := by
  induction ms with
  | nil => exact fun _ => rfl
  | cons m ms ih =>
      intro e hi
      obtain ⟨hmove, hschedule⟩ := hi.move_plan_nil h m
      have hrest := ih (hi.of_goes (goes_move h e m) hschedule)
      show (moves h ms (move h (e.plan []) m)).2 = (moves h ms (move h e m)).2.plan []
      rw [hmove]
      exact hrest

/-! ## The leftovers -/

/-- Whatever the next step finds, it gets to the first directive that is due. -/
theorem moveDone_step_change (h : Host σ ω) (e : Engine σ ω) (f : Engine σ ω → Engine σ ω) :
    let done := moveDone h (move h e (.change f)) .step
    done <+: under e.position e.schedule ∧ (under e.position e.schedule ≠ [] → done ≠ []) := by
  intro done
  let now := move h e (.change f)
  have hdone : done = (World.carry h (under e.position e.schedule) now.world).done := rfl
  rw [hdone]
  exact ⟨⟨_, World.done_append_left h _ _⟩, World.done_ne_nil⟩

/-- A line by itself leaves the schedule and the position as they are. The next step, in whatever
world and with whatever commands, gets to the first directive that is due if there is one. In
whatever comes after the line, what is scheduled under an index is carried out in order and
once: all of it before the position passes the index, none of it if the position is behind the
index already or does not come to it. So what comes after the line is the same as without a
schedule if the position has passed all of it. -/
theorem leftovers_of_perform (h : Host σ ω) (line : String) (e : Engine σ ω)
    (ms : List (Move σ ω)) :
    let e₁ := after (perform h line e)
    let e₂ := (moves h ms e₁).2
    let done := (moves h ms e₁).1
    (e₁.schedule = e.schedule ∧ e₁.position = e.position ∧ e.position ≤ e₂.position) ∧
      (∀ f : Engine σ ω → Engine σ ω,
        let next := moveDone h (move h e₁ (.change f)) .step
        next <+: under e.position e.schedule ∧ (under e.position e.schedule ≠ [] → next ≠ [])) ∧
      (∀ i, under i done ++ under i e₂.schedule = under i e.schedule) ∧
      (∀ x ∈ done, e.position ≤ x.index ∧ x.index ≤ e₂.position) ∧
      (∀ i, e.position ≤ i → i < e₂.position → under i done = under i e.schedule) ∧
      ((∀ x ∈ e.schedule, x.index < e.position) →
        done = [] ∧ (moves h ms (e₁.plan [])).2 = e₂.plan []) := by
  have hschedule := (unscheduled_perform h line).schedule_eq e
  have hposition := position_perform h line e
  generalize after (perform h line e) = e₁ at hschedule hposition ⊢
  intro e₁ e₂ done
  have hgoes : Goes e₁ done e₂ := goes_moves h ms e₁
  rw [← hschedule, ← hposition]
  exact ⟨⟨rfl, rfl, hgoes.le⟩, moveDone_step_change h e₁, hgoes.under_eq, hgoes.within,
    fun i => hgoes.under_passed, fun hidle => ⟨Idle.done_eq_nil hidle hgoes,
      Idle.moves_plan_nil h ms hidle⟩⟩

/-- A script is loaded, and then a line is given by itself. The command of the script is gone, but
what was to be printed before it is printed before another command that is added later. -/
theorem leftover_before_added_command :
    let h : Host Unit Unit := .bare
    let mute : Device Unit :=
      ⟨none, none, fun _ _ s => (.ok (), s), fun _ _ s => ([], s), fun _ s => (0, s)⟩
    let e : Engine Unit Unit :=
      { session := .empty, station := .new (.new (some "v") (some 9600)) (.simulated mute () true)
        schedule := [], abortOnFailure := true, position := 0, host := () }
    let text := "PRINT before AT\nAT;;;;;;1\n"
    let check : Request := ⟨"AT", none, some 1, 0, none⟩
    let script : Script := ⟨[⟨check, [], none⟩], [⟨.print "before AT", 0⟩]⟩
    let hangUp : Command := ⟨⟨"ATH", none, some 1, 0, none⟩, [], none⟩
    let e₁ := after (perform h "ATI;;;;;;1" (e.loadScript script))
    let e₂ := move h e₁ (.change fun e => { e with session := e.session.add hangUp })
    Script.parse h.dialect text = .ok script ∧
      e₁.session.commands.map Command.text = ["ATI"] ∧ e₁.station.events = [.sent "ATI\r\n"] ∧
      moveDone h e₂ .step = [⟨.print "before AT", 0⟩] ∧
      (move h e₂ .step).station.events =
        [.sent "ATI\r\n", .printed "before AT\n", .sent "ATH\r\n"] := by
  intro h mute e text check script hangUp e₁ e₂
  have hp : Script.parse h.dialect text = .ok script :=
    eq_ok_of_toOption_eq_some (by decide +kernel)
  exact ⟨hp, by decide +kernel, by decide +kernel, by decide +kernel, by decide +kernel⟩

end Engine

end ModemScript
