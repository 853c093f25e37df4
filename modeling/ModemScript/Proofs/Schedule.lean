import ModemScript.Proofs.Journey

/-!
# A schedule is carried out once and in order

A schedule may hold directives with indexes in any order, and the same ones more than
once. A step takes it apart: what is due is carried out, and what is not due is kept.
If a failure ends the step early, what it has not reached goes back to the head of
the schedule. So entries with different indexes may change places, and entries with
the same index never do.

The law is one equation for each index (`under_journey`): what has been
carried out under the index, followed by what is still scheduled under it, is what
was scheduled under it in the beginning. A step keeps this because it carries out a
prefix of what is due, and a journey keeps it because each of its steps does.
-/

namespace ModemScript

variable {σ ω : Type}

namespace World

theorem done_append_left (h : Host σ ω) (xs : List Scheduled) (w : World σ ω) :
    (carry h xs w).done ++ (carry h xs w).left = xs := by
  rcases carry_cases h xs w with ⟨w', -, hxs⟩ | ⟨done, x, left, cause, w', w'', rfl, -, -, -, hxs⟩
  · rw [hxs]
    exact List.append_nil xs
  · rw [hxs]
    exact List.append_cons done x left |>.symm

theorem left_eq_nil {h : Host σ ω} {xs : List Scheduled} {w : World σ ω}
    (hf : (carry h xs w).failure = none) : (carry h xs w).left = [] := by
  rcases carry_cases h xs w with ⟨w', -, hxs⟩ | ⟨done, x, left, cause, w', w'', -, -, -, -, hxs⟩
  · rw [hxs]
  · rw [hxs] at hf
    cases hf

end World

namespace Engine

/-! ## What a step leaves scheduled -/

theorem schedule_send (h : Host σ ω) (c : Command) (e : Engine σ ω) :
    (after (send h c e)).schedule = e.schedule := by
  unfold send onStation
  split
  · next heq =>
      split at heq <;> cases heq
      rfl
  · next heq =>
      split at heq <;> cases heq
      rfl

theorem schedule_sendNext (h : Host σ ω) (e : Engine σ ω) :
    (after (sendNext h e)).schedule = e.schedule := by
  unfold sendNext
  split
  · rfl
  · next c session _ =>
      have hsend := schedule_send h c { e with session := session }
      split
      · next heq =>
          rw [heq] at hsend
          exact hsend
      · next heq =>
          rw [heq] at hsend
          split
          · exact hsend
          · split <;> exact hsend

theorem schedule_step (h : Host σ ω) (e : Engine σ ω) :
    (after (step h e)).schedule = (carried h e).left ++ e.later := by
  rw [step_eq_carried]
  simp only
  cases hf : (carried h e).failure with
  | none =>
      have hleft : (carried h e).left = [] := World.left_eq_nil hf
      rw [hleft]
      exact schedule_sendNext h _
  | some f => rfl

/-- What a request adds to the deeds of a step is no directive. -/
theorem directives_deeds (h : Host σ ω) (e : Engine σ ω) :
    (deeds h e).filterMap Deed.directive? = (carried h e).done := by
  have hdone : ∀ xs : List Scheduled,
      (xs.map Deed.directive).filterMap Deed.directive? = xs := by
    intro xs
    rw [List.filterMap_map]
    exact List.filterMap_some
  have hasks : ∀ e : Engine σ ω, (asks h e).filterMap Deed.directive? = [] := by
    intro e
    unfold asks
    split <;> rfl
  rw [deeds]
  simp only [List.filterMap_append, hdone]
  cases (carried h e).failure with
  | none =>
      simp only [hasks]
      exact List.append_nil _
  | some f => exact List.append_nil _

/-! ## The law of one index -/

def under (i : Nat) (xs : List Scheduled) : List Scheduled := xs.filter fun x => x.index == i

theorem under_append (i : Nat) (xs ys : List Scheduled) :
    under i (xs ++ ys) = under i xs ++ under i ys := List.filter_append ..

theorem under_due (e : Engine σ ω) (i : Nat) :
    under i e.due = if i = e.position then e.due else [] := by
  rw [under, due, List.filter_filter]
  split
  · next hi =>
      subst hi
      exact List.filter_congr fun x _ => Bool.and_self _
  · next hi =>
      refine List.filter_eq_nil_iff.2 fun x _ => ?_
      rw [Bool.and_eq_true, beq_iff_eq, beq_iff_eq]
      exact fun hx => hi (hx.1.symm.trans hx.2)

theorem under_later (e : Engine σ ω) (i : Nat) :
    under i e.later = if i = e.position then [] else under i e.schedule := by
  rw [under, later, List.filter_filter]
  split
  · next hi =>
      subst hi
      refine List.filter_eq_nil_iff.2 fun x _ => ?_
      rw [Bool.and_eq_true, Bool.not_eq_true']
      exact fun hx => Bool.noConfusion (hx.1.symm.trans hx.2)
  · next hi =>
      refine List.filter_congr fun x _ => ?_
      by_cases hx : x.index = i
      · rw [hx, beq_self_eq_true, beq_false_of_ne hi]
        rfl
      · rw [beq_false_of_ne hx]
        rfl

theorem index_of_mem_due {e : Engine σ ω} {x : Scheduled} (hx : x ∈ e.due) :
    x.index = e.position :=
  beq_iff_eq.1 (List.mem_filter.1 hx).2

/-- Due directives that go back to the head of the schedule are due again. -/
theorem due_plan_append {e : Engine σ ω} {left : List Scheduled}
    (hleft : ∀ x ∈ left, x.index = e.position) : (e.plan (left ++ e.later)).due = left := by
  have hlater := under_later e e.position
  rw [if_pos rfl] at hlater
  show under e.position (left ++ e.later) = left
  rw [under_append, hlater, List.append_nil]
  exact List.filter_eq_self.2 fun x hx => beq_iff_eq.2 (hleft x hx)

theorem later_plan_append {e : Engine σ ω} {left : List Scheduled}
    (hleft : ∀ x ∈ left, x.index = e.position) : (e.plan (left ++ e.later)).later = e.later := by
  have hnot : left.filter (fun x => !(x.index == e.position)) = [] := by
    refine List.filter_eq_nil_iff.2 fun x hx => ?_
    rw [hleft x hx, beq_self_eq_true]
    decide
  show (left ++ e.later).filter (fun x => !(x.index == e.position)) = e.later
  rw [List.filter_append, hnot, List.nil_append, later, List.filter_filter]
  exact List.filter_congr fun x _ => Bool.and_self _

/-- A step carries out the first of what is scheduled under its position, and leaves all
else as it is. -/
theorem under_step (h : Host σ ω) (e : Engine σ ω) (i : Nat) :
    under i (carried h e).done ++ under i (after (step h e)).schedule = under i e.schedule := by
  have hsplit : (carried h e).done ++ (carried h e).left = e.due :=
    World.done_append_left h e.due e.world
  rw [schedule_step, under_append, ← List.append_assoc, ← under_append, hsplit, under_due,
    under_later]
  split
  · next hi =>
      rw [List.append_nil, hi]
      rfl
  · rfl

/-- A journey carries out the first of what is scheduled under each index, and leaves the rest
of it scheduled. -/
theorem under_journey (h : Host σ ω) (i : Nat) (changes : List (World σ ω → World σ ω)) :
    ∀ e : Engine σ ω,
      under i (journey h changes e).directives ++ under i (journey h changes e).engine.schedule =
        under i e.schedule := by
  induction changes with
  | nil => intro e; rfl
  | cons change changes ih =>
      intro e
      let now := e.withWorld (change e.world)
      have hdirectives : (journey h (change :: changes) e).directives =
          (carried h now).done ++ (journey h changes (after (step h now))).directives := by
        show (deeds h now ++ (journey h changes (after (step h now))).deeds).filterMap
          Deed.directive? = _
        rw [List.filterMap_append, directives_deeds]
        rfl
      have hstep : under i (carried h now).done ++ under i (after (step h now)).schedule =
          under i e.schedule := under_step h now i
      rw [hdirectives, under_append, List.append_assoc, ← hstep]
      exact congrArg _ (ih (after (step h now)))

theorem perm_of_under {xs ys : List Scheduled} (hu : ∀ i, under i xs = under i ys) :
    xs.Perm ys := by
  refine List.perm_iff_count.2 fun x => ?_
  have hx : (x.index == x.index) = true := beq_self_eq_true x.index
  have hcount : ∀ zs : List Scheduled, (under x.index zs).count x = zs.count x := fun zs =>
    List.count_filter (p := fun y : Scheduled => y.index == x.index) hx
  rw [← hcount xs, ← hcount ys, hu]

/-- Whatever is scheduled, in whatever order and however often, a journey carries each entry
out at most once, and under each index in the order of the schedule: what has been
carried out under it and what is left under it are what was scheduled under it. The
step that comes next, in whatever world, carries out what is due at its position. Either
nothing there ends the run, and the next command follows; or it gets to the first
entry whose failure ends the run at that moment, and what it has not reached is what
is due at the step after it. All other entries stay as they are. -/
theorem schedule_carried_out_in_order (h : Host σ ω) (e : Engine σ ω) (schedule : List Scheduled)
    (changes : List (World σ ω → World σ ω)) (w : World σ ω) :
    let j := journey h changes (e.plan schedule)
    let now := j.engine.withWorld w
    (j.directives ++ j.engine.schedule).Perm schedule ∧
      (∀ i, under i j.directives ++ under i j.engine.schedule = under i schedule) ∧
      now.due = under j.engine.position j.engine.schedule ∧
      ((∃ w', World.Passes h w now.due w' ∧
          (deeds h now).filterMap Deed.directive? = now.due ∧
          step h now = sendNext h ((now.plan now.later).withWorld w') ∧
          (after (step h now)).schedule = now.later) ∨
        ∃ done x left cause w' w'', now.due = done ++ x :: left ∧ World.Passes h w done w' ∧
          World.act (apply h x.directive) w' = .error cause w'' ∧ w''.abortOnFailure = true ∧
          deeds h now = (done ++ [x]).map .directive ∧
          step h now = .error (.directive x.directive cause)
            ((now.plan (left ++ now.later)).withWorld w'') ∧
          (after (step h now)).due = left ∧ (after (step h now)).later = now.later) := by
  intro j now
  have hunder : ∀ i, under i j.directives ++ under i j.engine.schedule = under i schedule :=
    fun i => under_journey h i changes (e.plan schedule)
  refine ⟨perm_of_under fun i => ?_, hunder, rfl, ?_⟩
  · rw [under_append, hunder]
  · rcases step_cases h now with
      ⟨w', hpass, hcarried, hstep⟩ |
        ⟨done, x, left, cause, w', w'', hdue, hpass, hact, ha, hcarried, hstep⟩
    · refine .inl ⟨w', hpass, ?_, hstep, ?_⟩
      · rw [directives_deeds, hcarried]
      · rw [schedule_step, hcarried]
        rfl
    · have hleft : ∀ y ∈ left, y.index = now.position := by
        intro y hy
        refine index_of_mem_due ?_
        rw [hdue]
        exact List.mem_append_right done (List.mem_cons_of_mem x hy)
      refine .inr ⟨done, x, left, cause, w', w'', hdue, hpass, hact, ha, ?_, hstep, ?_, ?_⟩
      · rw [deeds, hcarried]
        exact List.append_nil _
      · rw [hstep]
        exact due_plan_append hleft
      · rw [hstep]
        exact later_plan_append hleft

end Engine

end ModemScript
