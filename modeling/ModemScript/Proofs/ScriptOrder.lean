import Mathlib.Data.List.Forall2
import ModemScript.Proofs.Journey
import ModemScript.Proofs.LineByLine

/-!
# Directives stay with the command they precede

A script is cut in two when it is read. Its commands go to the session, and its directives to the
schedule, each with the number of commands before it. What puts the two together again is a
position that counts commands, beside a cursor that counts replies. So the order of the
lines is kept as long as the two agree, whatever fails and however many steps are taken after it.

What it takes to carry out a line is said without either (`Served`): a directive is carried out
once, and a command is a talk in which each request is sent until it is answered. An engine
has a place among the lines (`Place`), which is between two of them or within such a talk, and
the induction is on the lines that are left: a step passes those that call for nothing,
carries out the directives it comes to, and asks one request of the command behind them.

The two counters part in one way only. A reply that ends a step moves the cursor and not the
position, since the step returns before it comes to that. How many such replies there were
is the difference between them from then on (`balance_journey`), and if there were none,
what has been done follows the lines (`place_journey`).
-/

namespace ModemScript

variable {σ ω : Type}

/-! ## What it takes to carry out a line -/

def Request.Rewords (r r' : Request) : Prop := r' = { r with text := r'.text }

/-- Requests are sent in order, each as often as it takes until it is answered. A talk may end
before the last of them. -/
inductive Talk : List Request → List Deed → Prop
  | answered {r r' : Request} {rs : List Request} :
      r.Rewords r' → Talk (r :: rs) [.request r' true]
  | again {r r' : Request} {rs : List Request} {deeds : List Deed} :
      r.Rewords r' → Talk (r :: rs) deeds → Talk (r :: rs) (.request r' false :: deeds)
  | fallback {r r' : Request} {rs : List Request} {deeds : List Deed} :
      r.Rewords r' → Talk rs deeds → Talk (r :: rs) (.request r' true :: deeds)

/-- The deeds that carry out one line of a script. -/
inductive Served (d : Dialect) : List Char → List Deed → Prop
  | silent {l : List Char} : Line.isSilent l = true → Served d l []
  | directive {l : List Char} {x : Scheduled} : ¬ Line.isSilent l = true →
      Line.parse d l = .ok (.directive x.directive) → Served d l [.directive x]
  | command {l : List Char} {c : Command} {deeds : List Deed} : ¬ Line.isSilent l = true →
      Line.parse d l = .ok (.command c) → Talk (c.request :: c.fallbacks) deeds →
      Served d l deeds

theorem Served.of_command {d : Dialect} {l : List Char} {c : Command} {deeds : List Deed}
    (h : Served d l deeds) (hl : ¬ Line.isSilent l = true)
    (hline : Line.parse d l = .ok (.command c)) : Talk (c.request :: c.fallbacks) deeds := by
  cases h with
  | silent hs => exact absurd hs hl
  | directive _ hx =>
      rw [hline] at hx
      cases hx
  | command _ hc ht =>
      rw [hline] at hc
      cases hc
      exact ht

theorem Served.of_directive {d : Dialect} {l : List Char} {directive : Directive}
    {deeds : List Deed} (h : Served d l deeds) (hl : ¬ Line.isSilent l = true)
    (hline : Line.parse d l = .ok (.directive directive)) :
    ∃ x : Scheduled, x.directive = directive ∧ deeds = [.directive x] := by
  cases h with
  | silent hs => exact absurd hs hl
  | @directive x _ hx =>
      rw [hline] at hx
      cases hx
      exact ⟨x, rfl, rfl⟩
  | command _ hc _ =>
      rw [hline] at hc
      cases hc

theorem Talk.of_withText {c : Command} {text : String} {deeds : List Deed}
    (h : Talk ((c.withText text).request :: (c.withText text).fallbacks) deeds) :
    Talk (c.request :: c.fallbacks) deeds := by
  have hreword : ∀ {r : Request}, (c.withText text).request.Rewords r → c.request.Rewords r :=
    fun h => h
  generalize hrs : (c.withText text).request :: (c.withText text).fallbacks = rs at h
  induction h with
  | answered hr =>
      cases hrs
      exact .answered (hreword hr)
  | again hr _ ih =>
      cases hrs
      exact .again (hreword hr) (ih rfl)
  | fallback hr ht =>
      cases hrs
      exact .fallback (hreword hr) ht

theorem rewords_withText (c : Command) (text : String) :
    c.request.Rewords (c.withText text).request := rfl

theorem exists_served_of_ofLines {d : Dialect} {ls : List (List Char)} :
    ∀ {number index : Nat} {s : Script}, Script.ofLines d number index ls = .ok s →
      ∃ blocks, List.Forall₂ (Served d) ls blocks := by
  induction ls with
  | nil => exact fun _ => ⟨[], .nil⟩
  | cons l ls ih =>
      intro number index s hs
      by_cases hl : Line.isSilent l = true
      · rw [Script.ofLines_cons_of_silent hl] at hs
        obtain ⟨blocks, hblocks⟩ := ih hs
        exact ⟨[] :: blocks, .cons (.silent hl) hblocks⟩
      · obtain ⟨line, s', hline, hs', -⟩ := Script.exists_of_ofLines_cons hl hs
        obtain ⟨blocks, hblocks⟩ := ih hs'
        cases line with
        | directive x =>
            exact ⟨[.directive ⟨x, index⟩] :: blocks, .cons (.directive hl hline) hblocks⟩
        | command c =>
            exact ⟨[.request c.request true] :: blocks,
              .cons (.command hl hline (.answered rfl)) hblocks⟩

/-- A schedule that has been read is in order: what is due at once comes before the rest. -/
theorem filter_append_filter_of_ofLines {d : Dialect} {ls : List (List Char)} :
    ∀ {number index : Nat} {s : Script}, Script.ofLines d number index ls = .ok s →
      s.schedule.filter (fun x => x.index == index) ++
        s.schedule.filter (fun x => !(x.index == index)) = s.schedule := by
  induction ls with
  | nil =>
      intro number index s hs
      cases hs
      rfl
  | cons l ls ih =>
      intro number index s hs
      by_cases hl : Line.isSilent l = true
      · rw [Script.ofLines_cons_of_silent hl] at hs
        exact ih hs
      · obtain ⟨line, s', -, hs', rfl⟩ := Script.exists_of_ofLines_cons hl hs
        cases line with
        | directive x =>
            have hx : ((⟨x, index⟩ : Scheduled).index == index) = true := beq_self_eq_true index
            rw [Script.prepend, List.filter_cons_of_pos (p := fun y : Scheduled => y.index == index) hx,
              List.filter_cons_of_neg (p := fun y : Scheduled => !(y.index == index))
                (by rw [hx]; decide)]
            exact congrArg _ (ih hs')
        | command c =>
            have hlater : ∀ x ∈ s'.schedule, ¬ (x.index == index) = true := by
              intro x hx
              have := Script.le_index_of_ofLines hs' x hx
              simp only [Script.nextIndex] at this
              rw [beq_iff_eq]
              omega
            show s'.schedule.filter _ ++ s'.schedule.filter _ = s'.schedule
            rw [List.filter_eq_nil_iff.2 hlater, List.nil_append]
            refine List.filter_eq_self.2 fun x hx => ?_
            rw [Bool.eq_false_iff.2 (hlater x hx)]
            rfl

/-! ## Deeds, one at a time -/

namespace Engine

/-- The first scheduled directive, if it is due, is the first deed of a step. -/
theorem deeds_cons_due {h : Host σ ω} {e : Engine σ ω} {x : Scheduled} {rest : List Scheduled}
    (hs : e.schedule = x :: rest) (hx : x.index = e.position) :
    deeds h e = .directive x ::
      match World.act (apply h x.directive) e.world with
      | .ok () w => deeds h ((e.plan rest).withWorld w)
      | .error _ w => if w.abortOnFailure then [] else deeds h ((e.plan rest).withWorld w) := by
  rw [deeds, carried, due_cons hs hx, later_cons hs hx, World.carry]
  cases World.act (apply h x.directive) e.world with
  | ok _ w => rfl
  | error cause w =>
      cases ha : w.abortOnFailure with
      | false =>
          simp only [ha]
          rfl
      | true =>
          simp only [ha]
          rfl

theorem asks_of_pending_nil {h : Host σ ω} {e : Engine σ ω} {q : Queue}
    (hs : e.session = q.session) (hp : q.pending = []) : asks h e = [] := by
  rw [asks, hs, Queue.next?_session_nil hp]

theorem asks_of_pending_cons {h : Host σ ω} {e : Engine σ ω} {q : Queue} {c : Command}
    {rest : List Command} (hs : e.session = q.session) (hp : q.pending = c :: rest) :
    asks h e =
      [.request (c.withText (q.store.substitute c.text)).request
        (succeeds (World.ask h c.request e.world))] := by
  let asked := c.withText (q.store.substitute c.text)
  let q' : Queue := { q with pending := asked :: rest }
  have hw : ({ e with session := q'.session } : Engine σ ω).world = e.world := by
    rw [world, world, hs]
    rfl
  have hask : World.ask h c.request e.world = World.tell h asked.request e.world := by
    rw [World.ask]
    show World.tell h { c.request with text := e.session.store.substitute c.request.text } _ = _
    rw [hs]
    rfl
  rw [asks, hs, Queue.next?_session_cons hp, hask]
  simp only
  rw [send_eq_tell (q := q') rfl rfl, hw]
  cases World.tell h asked.request e.world <;> rfl

end Engine

def Failure.isBadResponse : Failure → Bool
  | .badResponse .. => true
  | _ => false

/-- How many steps of a journey were ended by a reply that was not as expected. -/
def Journey.lost (j : Journey σ ω) : Nat := j.failures.countP Failure.isBadResponse

/-! ## The place of an engine among the lines -/

/-- The engine has done what `log` tells, and this is what carries out the first of the `lines`.
It stands between two lines, or it is talking about a command and has a request left. -/
inductive Place (d : Dialect) (lines : List (List Char)) : List Deed → Engine σ ω → Prop
  | between {served rest : List (List Char)} {blocks : List (List Deed)} {e : Engine σ ω}
      {q : Queue} {number : Nat} : lines = served ++ rest → List.Forall₂ (Served d) served blocks →
      e.session = q.session →
      Script.ofLines d number e.position rest = .ok ⟨q.pending, e.schedule⟩ →
      Place d lines blocks.flatten e
  | within {served rest : List (List Char)} {l : List Char} {blocks : List (List Deed)}
      {deeds : List Deed} {c : Command} {commands : List Command} {e : Engine σ ω} {q : Queue}
      {number : Nat} : lines = served ++ l :: rest → List.Forall₂ (Served d) served blocks →
      e.session = q.session → q.pending = c :: commands →
      Script.ofLines d number (e.position + 1) rest = .ok ⟨commands, e.schedule⟩ →
      (∀ more, Talk (c.request :: c.fallbacks) more → Served d l (deeds ++ more)) →
      Place d lines (blocks.flatten ++ deeds) e

namespace Place

variable {d : Dialect} {lines : List (List Char)} {log : List Deed} {e : Engine σ ω}

theorem withWorld (h : Place d lines log e) (w : World σ ω) : Place d lines log (e.withWorld w) := by
  cases h with
  | between hlines hblocks hs hrest =>
      exact .between hlines hblocks (Engine.session_withWorld hs w) hrest
  | @within _ _ _ _ _ _ _ _ q _ hlines hblocks hs hp hrest htalk =>
      exact .within (q := { q with store := w.store }) hlines hblocks
        (Engine.session_withWorld hs w) hp hrest htalk

theorem between_snoc {served rest : List (List Char)} {l : List Char} {blocks : List (List Deed)}
    {block : List Deed} {q : Queue} {number : Nat} (hlines : lines = served ++ l :: rest)
    (hblocks : List.Forall₂ (Served d) served blocks) (hl : Served d l block)
    (hs : e.session = q.session)
    (hrest : Script.ofLines d number e.position rest = .ok ⟨q.pending, e.schedule⟩) :
    Place d lines (blocks.flatten ++ block) e := by
  have hflat : blocks.flatten ++ block = (blocks ++ [block]).flatten := by
    rw [List.flatten_append, List.flatten_singleton]
  rw [hflat]
  have hsnoc : lines = served ++ [l] ++ rest := by rw [hlines, List.append_cons]
  exact .between hsnoc (List.rel_append hblocks (.cons hl .nil)) hs hrest

/-- What has been done can be continued to what carries out all lines. -/
theorem exists_served (h : Place d lines log e) :
    ∃ blocks, List.Forall₂ (Served d) lines blocks ∧ log <+: blocks.flatten := by
  cases h with
  | @between served rest blocks _ _ _ hlines hblocks _ hrest =>
      obtain ⟨later, hlater⟩ := exists_served_of_ofLines hrest
      refine ⟨blocks ++ later, ?_, ?_⟩
      · rw [hlines]
        exact List.rel_append hblocks hlater
      · rw [List.flatten_append]
        exact List.prefix_append _ _
  | @within served rest l blocks deeds c _ _ _ _ hlines hblocks _ _ hrest htalk =>
      obtain ⟨later, hlater⟩ := exists_served_of_ofLines hrest
      have hl := htalk [.request c.request true] (.answered rfl)
      refine ⟨blocks ++ (deeds ++ [.request c.request true]) :: later, ?_, ?_⟩
      · rw [hlines]
        exact List.rel_append hblocks (.cons hl hlater)
      · rw [List.flatten_append, List.flatten_cons, ← List.append_assoc, ← List.append_assoc,
          List.append_assoc (blocks.flatten ++ deeds)]
        exact List.prefix_append _ _

end Place

namespace Engine

/-- A step in the middle of a talk. Nothing is due, and the request that is left is asked. -/
theorem place_step_within {h : Host σ ω} {e : Engine σ ω} {q : Queue} {c : Command}
    {commands : List Command} {lines served rest : List (List Char)} {l : List Char}
    {blocks : List (List Deed)} {begun : List Deed} {number : Nat}
    (hlines : lines = served ++ l :: rest) (hblocks : List.Forall₂ (Served h.dialect) served blocks)
    (hs : e.session = q.session) (hp : q.pending = c :: commands)
    (hrest : Script.ofLines h.dialect number (e.position + 1) rest = .ok ⟨commands, e.schedule⟩)
    (htalk : ∀ more, Talk (c.request :: c.fallbacks) more → Served h.dialect l (begun ++ more))
    (hlost : (failures (step h e)).countP Failure.isBadResponse = 0) :
    Place h.dialect lines (blocks.flatten ++ begun ++ deeds h e) (after (step h e)) := by
  have hd : ∀ x ∈ e.schedule, x.index ≠ e.position := by
    intro x hx
    have := Script.le_index_of_ofLines hrest x hx
    omega
  let asked := c.withText (q.store.substitute c.text)
  rw [step_eq_sendNext hd, sendNext_of_pending_cons hs hp] at hlost ⊢
  rw [deeds_of_not_due hd, asks_of_pending_cons hs hp, List.append_assoc]
  have hover : Served h.dialect l (begun ++ [.request asked.request true]) :=
    htalk _ (.answered (rewords_withText c _))
  cases hask : World.ask h c.request e.world with
  | error f w =>
      refine .within (q := { q with pending := asked :: commands, store := w.store }) hlines hblocks
        rfl rfl hrest ?_
      intro more hmore
      rw [List.append_assoc]
      exact htalk _ (.again (rewords_withText c _) hmore.of_withText)
  | ok v w =>
      simp only [hask] at hlost ⊢
      by_cases hv : v.failed = true
      · rw [if_pos hv] at hlost ⊢
        cases hf : c.fallbacks with
        | nil =>
            simp only [hf] at hlost ⊢
            by_cases ha : w.abortOnFailure = true
            · rw [if_pos ha] at hlost
              cases hlost
            · rw [if_neg ha]
              have hj : (q.settle asked commands v).pending = commands :=
                Queue.pending_settle_of_nil hf
              exact .between_snoc (q := { q.settle asked commands v with store := w.store }) hlines
                hblocks hover rfl (hj ▸ hrest)
        | cons r fallbacks =>
            have hj : (q.settle asked commands v).pending = .ofRequest r fallbacks :: commands :=
              Queue.pending_settle_of_failed hv hf
            refine .within (q := { q.settle asked commands v with store := w.store }) hlines hblocks
              rfl hj hrest ?_
            intro more hmore
            rw [List.append_assoc]
            refine htalk _ ?_
            rw [hf]
            exact .fallback (rewords_withText c _) hmore
      · rw [if_neg hv]
        have hj : (q.settle asked commands v).pending = commands :=
          Queue.pending_settle_of_not_failed (Bool.eq_false_iff.2 hv)
        exact .between_snoc (q := { q.settle asked commands v with store := w.store }) hlines
          hblocks hover rfl (hj ▸ hrest)

/-- A step that begins with a directive. Whether it fails or not, the line is carried out, and the
step goes on from behind it or ends there. -/
theorem place_step_due {h : Host σ ω} {e : Engine σ ω} {x : Scheduled} {rest : List Scheduled}
    {lines : List (List Char)} {log : List Deed} (hs : e.schedule = x :: rest)
    (hx : x.index = e.position) (hback : (e.plan rest).due ++ (e.plan rest).later = rest)
    (hplace : Place h.dialect lines (log ++ [.directive x]) (e.plan rest))
    (hnext : ∀ w : World σ ω,
      (failures (step h ((e.plan rest).withWorld w))).countP Failure.isBadResponse = 0 →
      Place h.dialect lines (log ++ [.directive x] ++ deeds h ((e.plan rest).withWorld w))
        (after (step h ((e.plan rest).withWorld w))))
    (hlost : (failures (step h e)).countP Failure.isBadResponse = 0) :
    Place h.dialect lines (log ++ deeds h e) (after (step h e)) := by
  rw [step_cons_due hs hx] at hlost ⊢
  rw [deeds_cons_due hs hx, List.append_cons]
  cases hact : World.act (apply h x.directive) e.world with
  | ok _ w =>
      simp only [hact] at hlost ⊢
      exact hnext w hlost
  | error cause w =>
      simp only [hact] at hlost ⊢
      by_cases ha : w.abortOnFailure = true
      · rw [if_pos ha, if_pos ha, List.append_nil, hback]
        exact hplace.withWorld w
      · rw [if_neg ha] at hlost ⊢
        rw [if_neg ha]
        exact hnext w hlost

/-- A step that begins between two lines carries out those directives that come next, and
then begins to talk about a command. -/
theorem place_step_between {h : Host σ ω} {lines : List (List Char)} (rest : List (List Char)) :
    ∀ {e : Engine σ ω} {q : Queue} {served : List (List Char)} {blocks : List (List Deed)}
      {number : Nat}, lines = served ++ rest → List.Forall₂ (Served h.dialect) served blocks →
      e.session = q.session →
      Script.ofLines h.dialect number e.position rest = .ok ⟨q.pending, e.schedule⟩ →
      (failures (step h e)).countP Failure.isBadResponse = 0 →
      Place h.dialect lines (blocks.flatten ++ deeds h e) (after (step h e)) := by
  induction rest with
  | nil =>
      intro e q served blocks number hlines hblocks hs hrest _
      have hp : [] = q.pending := congrArg Script.commands (Except.ok.inj hrest)
      have hsch : [] = e.schedule := congrArg Script.schedule (Except.ok.inj hrest)
      have hd : ∀ x ∈ e.schedule, x.index ≠ e.position := by
        rw [← hsch]
        intro x hx
        cases hx
      rw [deeds_of_not_due hd, asks_of_pending_nil hs hp.symm, List.append_nil,
        step_eq_sendNext hd, sendNext_of_pending_nil hs hp.symm]
      exact .between hlines hblocks hs hrest
  | cons l rest ih =>
      intro e q served blocks number hlines hblocks hs hrest hlost
      have hsnoc : lines = served ++ [l] ++ rest := by rw [hlines, List.append_cons]
      by_cases hl : Line.isSilent l = true
      · -- nothing is done for this line, and the step begins as well behind it
        have hsilent : List.Forall₂ (Served h.dialect) (served ++ [l]) (blocks ++ [[]]) :=
          List.rel_append hblocks (.cons (.silent hl) .nil)
        have hflat : (blocks ++ [[]]).flatten = blocks.flatten := by
          rw [List.flatten_append, List.flatten_singleton, List.append_nil]
        rw [Script.ofLines_cons_of_silent hl] at hrest
        rw [← hflat]
        exact ih hsnoc hsilent hs hrest hlost
      · obtain ⟨line, s', hline, hs', hprepend⟩ := Script.exists_of_ofLines_cons hl hrest
        cases line with
        | command c =>
            injection hprepend with hp hsch
            have hafter : Script.ofLines h.dialect (number + 1) (e.position + 1) rest =
                .ok ⟨s'.commands, e.schedule⟩ := by
              rw [hsch]
              exact hs'
            -- the talk about this command has not begun
            have htalk : ∀ more, Talk (c.request :: c.fallbacks) more →
                Served h.dialect l ([] ++ more) := fun more hmore => .command hl hline hmore
            have hwithin := place_step_within hlines hblocks hs hp hafter htalk hlost
            rw [List.append_nil] at hwithin
            exact hwithin
        | directive d =>
            injection hprepend with hp hsch
            let x : Scheduled := ⟨d, e.position⟩
            have hdone : List.Forall₂ (Served h.dialect) (served ++ [l]) (blocks ++ [[.directive x]]) :=
              List.rel_append hblocks (.cons (.directive hl hline) .nil)
            have hflat : (blocks ++ [[Deed.directive x]]).flatten =
                blocks.flatten ++ [Deed.directive x] := by
              rw [List.flatten_append, List.flatten_singleton]
            have hafter : Script.ofLines h.dialect (number + 1) e.position rest =
                .ok ⟨q.pending, s'.schedule⟩ := by
              rw [hp]
              exact hs'
            have hsession : (e.plan s'.schedule).session = q.session := hs
            refine place_step_due hsch rfl (filter_append_filter_of_ofLines hs') ?_ ?_ hlost
            · rw [← hflat]
              exact .between hsnoc hdone hsession hafter
            · intro w hw
              rw [← hflat]
              exact ih hsnoc hdone (session_withWorld hsession w) hafter hw

theorem place_step {h : Host σ ω} {lines : List (List Char)} {log : List Deed} {e : Engine σ ω}
    (hp : Place h.dialect lines log e)
    (hlost : (failures (step h e)).countP Failure.isBadResponse = 0) :
    Place h.dialect lines (log ++ deeds h e) (after (step h e)) := by
  cases hp with
  | between hlines hblocks hs hrest => exact place_step_between _ hlines hblocks hs hrest hlost
  | within hlines hblocks hs hp hrest htalk =>
      exact place_step_within hlines hblocks hs hp hrest htalk hlost

theorem place_journey {h : Host σ ω} {lines : List (List Char)}
    (changes : List (World σ ω → World σ ω)) :
    ∀ {log : List Deed} {e : Engine σ ω}, Place h.dialect lines log e →
      (journey h changes e).lost = 0 →
      Place h.dialect lines (log ++ (journey h changes e).deeds) (journey h changes e).engine := by
  induction changes with
  | nil =>
      intro log e hp _
      show Place h.dialect lines (log ++ []) e
      rw [List.append_nil]
      exact hp
  | cons change changes ih =>
      intro log e hp hlost
      let now := e.withWorld (change e.world)
      have hsum : (failures (step h now)).countP Failure.isBadResponse +
          (journey h changes (after (step h now))).lost = 0 := by
        rw [← hlost]
        exact List.countP_append.symm
      obtain ⟨hnow, hlater⟩ := Nat.add_eq_zero_iff.1 hsum
      have hrest := ih (place_step (hp.withWorld (change e.world)) hnow) hlater
      rw [List.append_assoc] at hrest
      exact hrest

/-! ## The position and the cursor -/

/-- Sending the next command takes one command from those that are pending and moves the
position by one, or neither, or it is lost. -/
theorem balance_sendNext (h : Host σ ω) {e : Engine σ ω} {q : Queue} (hs : e.session = q.session) :
    ∃ q' : Queue, (after (sendNext h e)).session = q'.session ∧
      q'.pending.length + (after (sendNext h e)).position +
        (failures (sendNext h e)).countP Failure.isBadResponse = q.pending.length + e.position := by
  cases hp : q.pending with
  | nil =>
      rw [sendNext_of_pending_nil hs hp]
      refine ⟨q, hs, ?_⟩
      rw [hp]
      rfl
  | cons c commands =>
      let asked := c.withText (q.store.substitute c.text)
      rw [sendNext_of_pending_cons hs hp]
      cases hask : World.ask h c.request e.world with
      | error f w =>
          obtain ⟨cause, rfl⟩ := World.exists_transport_of_ask hask
          exact ⟨{ q with pending := asked :: commands, store := w.store }, rfl, rfl⟩
      | ok v w =>
          let judged : Queue := { q.settle asked commands v with store := w.store }
          refine ⟨judged, ?_⟩
          have hsum : (q.settle asked commands v).pending = commands →
              (q.settle asked commands v).pending.length + e.position + 1 =
                (c :: commands).length + e.position := by
            intro hj
            rw [hj, List.length_cons]
            omega
          simp only
          by_cases hv : v.failed = true
          · rw [if_pos hv]
            cases hf : c.fallbacks with
            | nil =>
                simp only
                by_cases ha : w.abortOnFailure = true
                · rw [if_pos ha]
                  exact ⟨rfl, hsum (Queue.pending_settle_of_nil hf)⟩
                · rw [if_neg ha]
                  exact ⟨rfl, hsum (Queue.pending_settle_of_nil hf)⟩
            | cons r fallbacks =>
                have hj : (q.settle asked commands v).pending = .ofRequest r fallbacks :: commands :=
                  Queue.pending_settle_of_failed hv hf
                refine ⟨rfl, ?_⟩
                show (q.settle asked commands v).pending.length + e.position = _
                rw [hj]
                rfl
          · rw [if_neg hv]
            exact ⟨rfl, hsum (Queue.pending_settle_of_not_failed (Bool.eq_false_iff.2 hv))⟩

theorem balance_step (h : Host σ ω) {e : Engine σ ω} {q : Queue} (hs : e.session = q.session) :
    ∃ q' : Queue, (after (step h e)).session = q'.session ∧
      q'.pending.length + (after (step h e)).position +
        (failures (step h e)).countP Failure.isBadResponse = q.pending.length + e.position := by
  have hsession : ∀ xs : List Scheduled, (e.plan xs).session = q.session := fun _ => hs
  rcases step_cases h e with
    ⟨w, -, -, hstep⟩ | ⟨done, x, left, cause, w, w', -, -, -, -, -, hstep⟩
  · rw [hstep]
    exact balance_sendNext h (q := { q with store := w.store })
      (session_withWorld (hsession e.later) w)
  · rw [hstep]
    exact ⟨_, session_withWorld (hsession (left ++ e.later)) w', rfl⟩

/-- In all steps together, a command that is no longer pending has moved the position by one or
is lost. -/
theorem balance_journey (h : Host σ ω) (changes : List (World σ ω → World σ ω)) :
    ∀ {e : Engine σ ω} {q : Queue}, e.session = q.session →
      ∃ q' : Queue, (journey h changes e).engine.session = q'.session ∧
        q'.pending.length + (journey h changes e).engine.position + (journey h changes e).lost =
          q.pending.length + e.position := by
  induction changes with
  | nil => exact fun {e q} hs => ⟨q, hs, rfl⟩
  | cons change changes ih =>
      intro e q hs
      let now := e.withWorld (change e.world)
      have hnow : now.session = ({ q with store := (change e.world).store } : Queue).session :=
        session_withWorld hs _
      obtain ⟨q₁, hs₁, hb₁⟩ := balance_step h hnow
      obtain ⟨q₂, hs₂, hb₂⟩ := ih hs₁
      have hlost : (journey h (change :: changes) e).lost =
          (failures (step h now)).countP Failure.isBadResponse +
            (journey h changes (after (step h now))).lost := List.countP_append
      have hstep : q₁.pending.length + (after (step h now)).position +
          (failures (step h now)).countP Failure.isBadResponse =
            q.pending.length + e.position := hb₁
      refine ⟨q₂, hs₂, ?_⟩
      rw [hlost]
      show q₂.pending.length + (journey h changes (after (step h now))).engine.position + _ = _
      omega

/-- A script does not lose its order when steps fail and others are taken after them. What is
done in a journey through a script is, in the order of its lines, what carries them out
or the beginning of it, whatever fails on the way, unless a step is lost: a command
whose reply is not as expected has no request left and failures end the run. Each such
step leaves the position one behind the cursor, and nothing else ever does. -/
theorem deeds_follow_lines (h : Host σ ω) (e : Engine σ ω) {text : String} {script : Script}
    (hp : Script.parse h.dialect text = .ok script) (changes : List (World σ ω → World σ ω)) :
    let j := journey h changes (e.loadScript script)
    j.engine.session.commands.length + j.engine.position + j.lost =
        j.engine.session.cursor + script.commands.length ∧
      (j.lost = 0 → ∃ blocks, List.Forall₂ (Served h.dialect) (Text.lines text.toList) blocks ∧
        j.deeds <+: blocks.flatten) := by
  intro j
  let q : Queue := ⟨[], script.commands, .empty, false⟩
  have hs : (e.loadScript script).session = q.session := rfl
  refine ⟨?_, ?_⟩
  · obtain ⟨q', hs', hb⟩ := balance_journey h changes hs
    have hlength : j.engine.session.commands.length =
        j.engine.session.cursor + q'.pending.length := by
      rw [hs']
      exact List.length_append
    have hsum : q'.pending.length + j.engine.position + j.lost = script.commands.length + 0 := hb
    omega
  · intro hlost
    have hlines : Text.lines text.toList = [] ++ Text.lines text.toList := rfl
    have hplace : Place h.dialect (Text.lines text.toList) [] (e.loadScript script) :=
      .between hlines .nil hs hp
    exact (place_journey changes hplace hlost).exists_served

/-- A command is tried on a closed line, sent once the line is open, and followed by its
fallback. The directive behind it waits until all this is done. -/
theorem deeds_follow_lines_reopened :
    let h : Host Unit Unit := .bare
    let mute : Device Unit :=
      ⟨none, none, fun _ _ s => (.ok (), s), fun _ _ s => ([], s), fun _ s => (0, s)⟩
    let e : Engine Unit Unit :=
      { session := .empty, station := .new (.new (some "v") (some 9600)) (.simulated mute () false)
        schedule := [], abortOnFailure := true, position := 0, host := () }
    let opened : World Unit Unit → World Unit Unit := fun w =>
      { w with station := { w.station with channel := .simulated mute () true } }
    let text := "AT;;OK;;;;1;;;;ATI\n# then\nPRINT between\nATH;;;;;;1\n"
    let check : Request := ⟨"AT", some "OK", some 1, 0, none⟩
    let identify : Request := ⟨"ATI", none, some 1, 0, none⟩
    let hangUp : Request := ⟨"ATH", none, some 1, 0, none⟩
    let script : Script := ⟨[⟨check, [identify], none⟩, ⟨hangUp, [], none⟩], [⟨.print "between", 1⟩]⟩
    let j := journey h [id, opened, id, id] (e.loadScript script)
    Script.parse h.dialect text = .ok script ∧ j.lost = 0 ∧
      j.deeds = [.request check false, .request check true, .request identify true,
        .directive ⟨.print "between", 1⟩, .request hangUp true] ∧
      ∃ blocks, List.Forall₂ (Served h.dialect) (Text.lines text.toList) blocks ∧
        j.deeds <+: blocks.flatten := by
  intro h mute e opened text check identify hangUp script j
  have hp : Script.parse h.dialect text = .ok script :=
    eq_ok_of_toOption_eq_some (by decide +kernel)
  have hlost : j.lost = 0 := by decide +kernel
  exact ⟨hp, hlost, by decide +kernel,
    (deeds_follow_lines h e hp [id, opened, id, id]).2 hlost⟩

/-- A command whose reply is not as expected ends a step, and nothing takes its place. The
directive behind it is then carried out after the command that it stands before. -/
theorem deeds_not_prefix_after_lost_step :
    let h : Host Unit Unit := .bare
    let mute : Device Unit :=
      ⟨none, none, fun _ _ s => (.ok (), s), fun _ _ s => ([], s), fun _ s => (0, s)⟩
    let e : Engine Unit Unit :=
      { session := .empty, station := .new (.new (some "v") (some 9600)) (.simulated mute () true)
        schedule := [], abortOnFailure := true, position := 0, host := () }
    let text := "AT;;OK;;;;1\nPRINT between\nATI;;;;;;1\n"
    let check : Request := ⟨"AT", some "OK", some 1, 0, none⟩
    let identify : Request := ⟨"ATI", none, some 1, 0, none⟩
    let script : Script := ⟨[⟨check, [], none⟩, ⟨identify, [], none⟩], [⟨.print "between", 1⟩]⟩
    let j := journey h [id, id, id] (e.loadScript script)
    Script.parse h.dialect text = .ok script ∧
      j.deeds = [.request check true, .request identify true, .directive ⟨.print "between", 1⟩] ∧
      ¬∃ blocks, List.Forall₂ (Served h.dialect) (Text.lines text.toList) blocks ∧
        j.deeds <+: blocks.flatten := by
  intro h mute e text check identify script j
  have hp : Script.parse h.dialect text = .ok script :=
    eq_ok_of_toOption_eq_some (by decide +kernel)
  have hdeeds : j.deeds = [.request check true, .request identify true,
      .directive ⟨.print "between", 1⟩] := by decide +kernel
  refine ⟨hp, hdeeds, ?_⟩
  rintro ⟨blocks, hserved, hfirst⟩
  have hlines : Text.lines text.toList =
      ["AT;;OK;;;;1".toList, "PRINT between".toList, "ATI;;;;;;1".toList] := by decide +kernel
  have hcheck : Line.parse h.dialect "AT;;OK;;;;1".toList = .ok (.command ⟨check, [], none⟩) :=
    eq_ok_of_toOption_eq_some (by decide +kernel)
  have hprint :
      Line.parse h.dialect "PRINT between".toList = .ok (.directive (.print "between")) :=
    eq_ok_of_toOption_eq_some (by decide +kernel)
  rw [hlines] at hserved
  rw [hdeeds] at hfirst
  obtain ⟨before, rest, htalk, hrest, rfl⟩ := List.forall₂_cons_left_iff.1 hserved
  obtain ⟨between, rest, hbetween, -, rfl⟩ := List.forall₂_cons_left_iff.1 hrest
  obtain ⟨x, -, rfl⟩ := hbetween.of_directive (by decide +kernel) hprint
  cases htalk.of_command (by decide +kernel) hcheck with
  | answered =>
      obtain ⟨more, hmore⟩ := hfirst
      cases hmore
  | again =>
      obtain ⟨more, hmore⟩ := hfirst
      cases hmore
  | fallback _ ht => cases ht

end Engine

end ModemScript
