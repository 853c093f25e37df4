import Mathlib.Data.List.Forall2
import ModemScript.Proofs.Record
import ModemScript.Proofs.Schedule
import ModemScript.Proofs.ScriptOrder

/-!
# One chain for each command

The list of commands grows while a run goes through it, since a fallback is put in behind the
command that has failed. So the commands that are left are no measure of what is still to come,
and neither is the cursor. What does not grow are the chains: a command and its fallbacks are as
many requests as they were in the beginning, and one request is sent in a step (`Broken.length_lt`,
`Chain.length_le`).

The steps of a run are written down with the position at which each of them is taken (`Strides`).
The induction is on the commands that are left and, for each of them, on its fallbacks. Within a
chain the position stays, so nothing can be due between two links of it. It moves when the chain
is over, and only then what is scheduled under the next position becomes due. What comes of this
is an account of the run from one chain to the next (`walked`), which ends behind the last chain
or where a directive or a request ends the run (`Ends`).
-/

namespace ModemScript

variable {σ ω : Type} {d : Dialect}

/-! ## Chains -/

/-- A request as it was sent, and the response. -/
structure Link where
  sent : Request
  response : Response
  deriving DecidableEq, Repr

/-- The link is for `r`, and the reply fails or not. -/
structure Link.Of (d : Dialect) (r : Request) (failed : Bool) (l : Link) : Prop where
  rewords : r.Rewords l.sent
  command : l.response.command = l.sent.text
  fails : Session.fails d r l.response.lines = failed

/-- The links of a chain that is over: those whose replies fail, up to the first one whose reply
does not or to the end of the requests. -/
inductive Chain (d : Dialect) : List Request → List Link → Prop
  | settled {r : Request} {rest : List Request} {l : Link} : l.Of d r false →
      Chain d (r :: rest) [l]
  | exhausted {r : Request} {l : Link} : l.Of d r true → Chain d [r] [l]
  | failed {r : Request} {rest : List Request} {l : Link} {links : List Link} : l.Of d r true →
      Chain d rest links → Chain d (r :: rest) (l :: links)

/-- The links of a chain that ends a run, all of which have failed, the request that comes behind
them, and the failure. -/
inductive Broken (d : Dialect) : List Request → List Link → Deed → Failure → Prop
  | unanswered {r sent : Request} {rest : List Request} {cause : LinkError} : r.Rewords sent →
      Broken d (r :: rest) [] (.request sent false) (.transport cause)
  | lost {r : Request} {l : Link} : l.Of d r true →
      Broken d [r] [] (.request l.sent true) (Engine.badResponse l.response)
  | failed {r : Request} {rest : List Request} {l : Link} {links : List Link} {last : Deed}
      {f : Failure} : l.Of d r true → Broken d rest links last f →
      Broken d (r :: rest) (l :: links) last f

theorem Chain.length_le {requests : List Request} {links : List Link} (h : Chain d requests links) :
    links.length ≤ requests.length := by
  induction h with
  | settled => exact Nat.succ_le_succ (Nat.zero_le _)
  | exhausted => exact Nat.le_refl _
  | failed _ _ ih => exact Nat.succ_le_succ ih

theorem Chain.ne_nil {requests : List Request} {links : List Link} (h : Chain d requests links) :
    links ≠ [] := by
  cases h <;> exact List.cons_ne_nil _ _

theorem Broken.length_lt {requests : List Request} {links : List Link} {last : Deed} {f : Failure}
    (h : Broken d requests links last f) : links.length < requests.length := by
  induction h with
  | unanswered => exact Nat.zero_lt_succ _
  | lost => exact Nat.zero_lt_one
  | failed _ _ ih => exact Nat.succ_lt_succ ih

/-! ## Steps as they are taken -/

/-- A step as it was taken: at which position, what was done in it, and the response. -/
structure Stride where
  position : Nat
  deeds : List Deed
  response : Option Response
  deriving DecidableEq, Repr

/-- The step that sends a link, if nothing is due before it. -/
def Link.stride (position : Nat) (l : Link) : Stride :=
  ⟨position, [.request l.sent true], some l.response⟩

/-- Steps, the first of which begins with these directives. -/
def preceded (due : List Scheduled) : List Stride → List Stride
  | [] => []
  | s :: log => { s with deeds := due.map .directive ++ s.deeds } :: log

/-- The steps that complete chains one after the other, the first of them at `position`, where
`due` tells which directives are due at each position. -/
def walked (due : Nat → List Scheduled) (position : Nat) : List (List Link) → List Stride
  | [] => []
  | links :: chains =>
    preceded (due position) (links.map (Link.stride position)) ++ walked due (position + 1) chains

/-- The steps that end a run at `position` with these commands pending, and the failure if there
is one. -/
inductive Ends (d : Dialect) (due : Nat → List Scheduled) (position : Nat) :
    List Command → List Stride → Option Failure → Prop
  | finished : Ends d due position [] (preceded (due position) [⟨position, [], none⟩]) none
  | directive {commands : List Command} {before left : List Scheduled} {x : Scheduled}
      {cause : Failure} : due position = before ++ x :: left →
      Ends d due position commands [⟨position, (before ++ [x]).map .directive, none⟩]
        (some (.directive x.directive cause))
  | broken {c : Command} {rest : List Command} {links : List Link} {last : Deed} {f : Failure} :
      Broken d (c.request :: c.fallbacks) links last f →
      Ends d due position (c :: rest)
        (preceded (due position) (links.map (Link.stride position) ++ [⟨position, [last], none⟩]))
        (some f)

theorem length_preceded (due : List Scheduled) (log : List Stride) :
    (preceded due log).length = log.length := by
  cases log <;> rfl

theorem preceded_append {due : List Scheduled} {log : List Stride} (hlog : log ≠ [])
    (log' : List Stride) : preceded due (log ++ log') = preceded due log ++ log' := by
  cases log with
  | nil => exact absurd rfl hlog
  | cons s log => rfl

/-- The steps at the end of a run are one, or as many as there are requests. -/
theorem Ends.length_le {due : Nat → List Scheduled} {position : Nat} {commands : List Command}
    {tail : List Stride} {f : Option Failure} (h : Ends d due position commands tail f) :
    tail.length ≤ (commands.head?.elim 0 fun c => c.fallbacks.length) + 1 := by
  cases h with
  | finished => rw [length_preceded]; exact Nat.le_refl 1
  | directive =>
      cases commands with
      | nil => exact Nat.le_refl 1
      | cons c rest => exact Nat.succ_le_succ (Nat.zero_le _)
  | broken hb =>
      rw [length_preceded, List.length_append, List.length_map]
      exact hb.length_lt

namespace Engine

/-- Steps one after another, as long as they have responses: how each was taken, the failure that
ends them if there is one, and the engine that is left. -/
inductive Strides (h : Host σ ω) : Engine σ ω → List Stride → Option Failure → Engine σ ω → Prop
  | finished {e e' : Engine σ ω} : step h e = .ok none e' →
      Strides h e [⟨e.position, deeds h e, none⟩] none e'
  | failed {e e' : Engine σ ω} {f : Failure} : step h e = .error f e' →
      Strides h e [⟨e.position, deeds h e, none⟩] (some f) e'
  | next {e e₁ e' : Engine σ ω} {r : Response} {log : List Stride} {f : Option Failure} :
      step h e = .ok (some r) e₁ → Strides h e₁ log f e' →
      Strides h e (⟨e.position, deeds h e, some r⟩ :: log) f e'

variable {h : Host σ ω}

theorem Strides.drain_eq {e e' : Engine σ ω} {log : List Stride} {f : Option Failure}
    (hs : Strides h e log f e') : drain h e = (⟨log.filterMap (·.response), f⟩, e') := by
  induction hs with
  | finished hstep =>
      rw [Engine.drain_eq, hstep]
      rfl
  | failed hstep =>
      rw [Engine.drain_eq, hstep]
      rfl
  | next hstep _ ih =>
      rw [Engine.drain_eq, hstep]
      simp only [ih]
      rfl

/-- Directives that are due and let the run go on only add to the first step. -/
theorem Strides.of_due {e e₁ e' : Engine σ ω} {due : List Scheduled} {log : List Stride}
    {f : Option Failure} (hs : Strides h e₁ log f e') (hstep : step h e = step h e₁)
    (hdeeds : deeds h e = due.map .directive ++ deeds h e₁) (hposition : e₁.position = e.position) :
    Strides h e (preceded due log) f e' := by
  cases hs with
  | finished h₁ =>
      simp only [preceded, hposition, ← hdeeds]
      exact .finished (hstep.trans h₁)
  | failed h₁ =>
      simp only [preceded, hposition, ← hdeeds]
      exact .failed (hstep.trans h₁)
  | next h₁ hrest =>
      simp only [preceded, hposition, ← hdeeds]
      exact .next (hstep.trans h₁) hrest

/-! ## One chain -/

/-- A chain that is over when `rest` is pending, taken by steps from `e` on. -/
structure Completes (h : Host σ ω) (e : Engine σ ω) (requests : List Request) (rest : List Command)
    (links : List Link) (e₁ : Engine σ ω) : Prop where
  chain : Chain h.dialect requests links
  strides : ∀ {log : List Stride} {f : Option Failure} {e' : Engine σ ω}, Strides h e₁ log f e' →
    Strides h e (links.map (Link.stride e.position) ++ log) f e'
  session : ∃ q : Queue, e₁.session = q.session ∧ q.pending = rest
  schedule : e₁.schedule = e.schedule
  position : e₁.position = e.position + 1

/-- A chain that ends the run. -/
structure Breaks (h : Host σ ω) (e : Engine σ ω) (requests : List Request) (links : List Link)
    (last : Deed) (f : Failure) (e₁ : Engine σ ω) : Prop where
  broken : Broken h.dialect requests links last f
  strides : Strides h e (links.map (Link.stride e.position) ++ [⟨e.position, [last], none⟩])
    (some f) e₁
  position : e₁.position = e.position

/-- A step that has sent a link for the command `c`, behind which `rest` is pending, where the
engine `e₁` has not yet moved on. -/
structure Linked (h : Host σ ω) (e : Engine σ ω) (c : Command) (rest : List Command) (failed : Bool)
    (l : Link) (e₁ : Engine σ ω) : Prop where
  of : l.Of h.dialect c.request failed
  deeds_eq : deeds h e = [.request l.sent true]
  step_eq : step h e =
    if failed then
      match c.fallbacks with
      | [] =>
        if e₁.abortOnFailure then .error (badResponse l.response) e₁
        else .ok (some l.response) { e₁ with position := e₁.position + 1 }
      | _ :: _ => .ok (some l.response) e₁
    else .ok (some l.response) { e₁ with position := e₁.position + 1 }
  session : ∃ q : Queue, e₁.session = q.session ∧
    q.pending = (if failed then c.fallback?.toList else []) ++ rest
  schedule : e₁.schedule = e.schedule
  position : e₁.position = e.position

/-- Where nothing is due, the first pending command is sent and answered, or it cannot be sent. -/
theorem linked_or_unanswered {e : Engine σ ω} {q : Queue} {c : Command} {rest : List Command}
    (hd : ∀ x ∈ e.schedule, x.index ≠ e.position) (hs : e.session = q.session)
    (hp : q.pending = c :: rest) :
    (∃ failed l e₁, Linked h e c rest failed l e₁) ∨
      ∃ sent cause e₁, c.request.Rewords sent ∧ deeds h e = [.request sent false] ∧
        step h e = .error (.transport cause) e₁ ∧ e₁.position = e.position := by
  let asked := c.withText (q.store.substitute c.text)
  have hstep := (step_eq_sendNext (h := h) hd).trans (sendNext_of_pending_cons hs hp)
  have hdeeds := (deeds_of_not_due (h := h) hd).trans (asks_of_pending_cons hs hp)
  have hstore : e.world.store = q.store := congrArg Session.store hs
  cases hask : World.ask h c.request e.world with
  | error f w =>
      obtain ⟨cause, rfl⟩ := World.exists_transport_of_ask hask
      simp only [hask] at hstep hdeeds
      exact .inr ⟨asked.request, cause, _, rewords_withText c _, hdeeds, hstep, rfl⟩
  | ok v w =>
      obtain ⟨hcommand, hfailed, -, -⟩ := World.sent_of_ask_ok h e.world hask
      rw [hstore] at hcommand
      simp only [hask] at hstep hdeeds
      exact .inl ⟨v.failed, ⟨asked.request, v.response⟩, _,
        ⟨rewords_withText c _, hcommand, hfailed.symm⟩, hdeeds, hstep,
        ⟨{ q.settle asked rest v with store := w.store }, rfl, rfl⟩, rfl, rfl⟩

/-- Steps at the same position go on from a link. -/
theorem Linked.strides_cons {e e₁ e₂ e' : Engine σ ω} {c : Command} {rest : List Command}
    {failed : Bool} {l : Link} {log : List Stride} {f : Option Failure}
    (hl : Linked h e c rest failed l e₁) (links : List Link)
    (hstep : step h e = .ok (some l.response) e₂)
    (hlog : Strides h e₂ (links.map (Link.stride e.position) ++ log) f e') :
    Strides h e ((l :: links).map (Link.stride e.position) ++ log) f e' := by
  have hnow := Strides.next hstep hlog
  rw [hl.deeds_eq] at hnow
  exact hnow

/-- A link that nothing has to follow completes a chain. -/
theorem Linked.completes {e e₁ : Engine σ ω} {c : Command} {rest : List Command} {failed : Bool}
    {l : Link} (hl : Linked h e c rest failed l e₁)
    (hstep : step h e = .ok (some l.response) { e₁ with position := e₁.position + 1 })
    (hchain : Chain h.dialect (c.request :: c.fallbacks) [l])
    (hnext : (if failed then c.fallback?.toList else []) = []) :
    Completes h e (c.request :: c.fallbacks) rest [l]
      { e₁ with position := e₁.position + 1 } := by
  have hsession := hl.session
  rw [hnext] at hsession
  exact ⟨hchain, fun hlog => hl.strides_cons [] hstep hlog, hsession, hl.schedule,
    congrArg (· + 1) hl.position⟩

/-- The last link fails, and this either ends the run or is ignored. -/
theorem Linked.completes_or_breaks {e e₁ : Engine σ ω} {c : Command} {rest : List Command}
    {l : Link} (hl : Linked h e c rest true l e₁) (hf : c.fallbacks = []) :
    Completes h e [c.request] rest [l] { e₁ with position := e₁.position + 1 } ∨
      Breaks h e [c.request] [] (.request l.sent true) (badResponse l.response) e₁ := by
  have hstep := hl.step_eq
  rw [if_pos rfl, hf] at hstep
  simp only at hstep
  by_cases ha : e₁.abortOnFailure = true
  · rw [if_pos ha] at hstep
    have hstride := Strides.failed hstep
    rw [hl.deeds_eq] at hstride
    exact .inr ⟨.lost hl.of, hstride, hl.position⟩
  · rw [if_neg ha] at hstep
    have hnext : (if true then c.fallback?.toList else []) = [] := by
      rw [if_pos rfl, Command.fallback?, hf]
      rfl
    have hchain : Chain h.dialect (c.request :: c.fallbacks) [l] := hf ▸ .exhausted hl.of
    exact .inl (hf ▸ hl.completes hstep hchain hnext)

section Failed

variable {e e₁ e₂ : Engine σ ω} {c : Command} {rest : List Command} {l : Link}
  {requests : List Request} {links : List Link}

/-- A link that fails comes before a chain. -/
theorem Linked.cons_completes (hl : Linked h e c rest true l e₁)
    (hstep : step h e = .ok (some l.response) e₁)
    (hrest : Completes h e₁ requests rest links e₂) :
    Completes h e (c.request :: requests) rest (l :: links) e₂ where
  chain := .failed hl.of hrest.chain
  strides hlog := by
    have hstrides := hrest.strides hlog
    rw [hl.position] at hstrides
    exact hl.strides_cons links hstep hstrides
  session := hrest.session
  schedule := hrest.schedule.trans hl.schedule
  position := hrest.position.trans (congrArg (· + 1) hl.position)

/-- And before a chain that ends the run. -/
theorem Linked.cons_breaks {last : Deed} {f : Failure} (hl : Linked h e c rest true l e₁)
    (hstep : step h e = .ok (some l.response) e₁) (hrest : Breaks h e₁ requests links last f e₂) :
    Breaks h e (c.request :: requests) (l :: links) last f e₂ where
  broken := .failed hl.of hrest.broken
  strides := by
    have hstrides := hrest.strides
    rw [hl.position] at hstrides
    exact hl.strides_cons links hstep hstrides
  position := hrest.position.trans hl.position

end Failed

/-- A command that cannot be sent ends the run. -/
theorem Breaks.of_unanswered {e e₁ : Engine σ ω} {r sent : Request} {cause : LinkError}
    (hsent : r.Rewords sent) (hdeeds : deeds h e = [.request sent false])
    (hstep : step h e = .error (.transport cause) e₁) (hposition : e₁.position = e.position)
    (rest : List Request) :
    Breaks h e (r :: rest) [] (.request sent false) (.transport cause) e₁ := by
  have hstride := Strides.failed hstep
  rw [hdeeds] at hstride
  exact ⟨.unanswered hsent, hstride, hposition⟩

/-- The induction is on the fallbacks of the command, the first of which is the command of the
next link. -/
theorem exists_chain (fallbacks : List Request) {rest : List Command} :
    ∀ {e : Engine σ ω} {q : Queue} {c : Command}, c.fallbacks = fallbacks →
      (∀ x ∈ e.schedule, x.index ≠ e.position) → e.session = q.session →
      q.pending = c :: rest →
      (∃ links e₁, Completes h e (c.request :: c.fallbacks) rest links e₁) ∨
        ∃ links last f e₁, Breaks h e (c.request :: c.fallbacks) links last f e₁ := by
  induction fallbacks with
  | nil =>
      intro e q c hf hd hs hp
      rcases linked_or_unanswered (h := h) hd hs hp with
        ⟨failed, l, e₁, hl⟩ | ⟨sent, cause, e₁, hsent, hdeeds, hstep, hposition⟩
      · cases failed with
        | false => exact .inl ⟨[l], _, hl.completes hl.step_eq (.settled hl.of) rfl⟩
        | true =>
            rw [hf]
            rcases hl.completes_or_breaks hf with hc | hb
            · exact .inl ⟨[l], _, hc⟩
            · exact .inr ⟨[], _, _, e₁, hb⟩
      · exact .inr ⟨[], _, _, e₁, .of_unanswered hsent hdeeds hstep hposition _⟩
  | cons r fallbacks ih =>
      intro e q c hf hd hs hp
      rcases linked_or_unanswered (h := h) hd hs hp with
        ⟨failed, l, e₁, hl⟩ | ⟨sent, cause, e₁, hsent, hdeeds, hstep, hposition⟩
      · cases failed with
        | false => exact .inl ⟨[l], _, hl.completes hl.step_eq (.settled hl.of) rfl⟩
        | true =>
            have hstep := hl.step_eq
            obtain ⟨q₁, hs₁, hp₁⟩ := hl.session
            rw [if_pos rfl, hf] at hstep
            rw [if_pos rfl, Command.fallback?, hf] at hp₁
            have hd₁ : ∀ x ∈ e₁.schedule, x.index ≠ e₁.position := by
              rw [hl.schedule, hl.position]
              exact hd
            rw [hf]
            rcases ih rfl hd₁ hs₁ hp₁ with ⟨links, e₂, hrest⟩ | ⟨links, last, f, e₂, hrest⟩
            · exact .inl ⟨l :: links, e₂, hl.cons_completes hstep hrest⟩
            · exact .inr ⟨l :: links, last, f, e₂, hl.cons_breaks hstep hrest⟩
      · exact .inr ⟨[], _, _, e₁, .of_unanswered hsent hdeeds hstep hposition _⟩

/-! ## One chain after the other -/

/-- Behind the directives that are due and let the run go on, the step is one without any. -/
theorem step_eq_of_passes {e : Engine σ ω} {w : World σ ω}
    (hcarried : carried h e = ⟨e.due, [], none, w⟩)
    (hstep : step h e = sendNext h ((e.plan e.later).withWorld w)) :
    let e₁ := (e.plan e.later).withWorld w
    (∀ x ∈ e₁.schedule, x.index ≠ e₁.position) ∧ step h e = step h e₁ ∧
      deeds h e = e.due.map .directive ++ deeds h e₁ := by
  intro e₁
  have hd : ∀ x ∈ e₁.schedule, x.index ≠ e₁.position := by
    intro x hx heq
    have hnot := (List.mem_filter.1 hx).2
    rw [show x.index = e.position from heq, beq_self_eq_true] at hnot
    cases hnot
  refine ⟨hd, hstep.trans (step_eq_sendNext hd).symm, ?_⟩
  rw [deeds_of_not_due hd, deeds, hcarried]

/-- What is known of the steps from `e` on, where `commands` are pending and `due` tells which
directives are due at each position. -/
structure InChains (h : Host σ ω) (e : Engine σ ω) (due : Nat → List Scheduled)
    (commands : List Command) (chains : List (List Link)) (tail : List Stride)
    (f : Option Failure) (e' : Engine σ ω) : Prop where
  strides : Strides h e (walked due e.position chains ++ tail) f e'
  each : List.Forall₂ (fun c links => Chain h.dialect (c.request :: c.fallbacks) links)
    (commands.take chains.length) chains
  ends : Ends h.dialect due (e.position + chains.length) (commands.drop chains.length) tail f
  position : e'.position = e.position + chains.length

variable {e e' : Engine σ ω} {due : Nat → List Scheduled}

/-- A run that ends before it comes to the next command. -/
theorem InChains.of_ends {commands : List Command} {tail : List Stride} {f : Option Failure}
    (hstrides : Strides h e tail f e') (hends : Ends h.dialect due e.position commands tail f)
    (hposition : e'.position = e.position) : InChains h e due commands [] tail f e' :=
  ⟨hstrides, .nil, hends, hposition⟩

/-- A chain that is completed comes before the others. -/
theorem InChains.cons {e₁ e₂ : Engine σ ω} {c : Command} {rest : List Command}
    {links : List Link} {chains : List (List Link)} {tail : List Stride} {f : Option Failure}
    (hc : Completes h e₁ (c.request :: c.fallbacks) rest links e₂)
    (hrest : InChains h e₂ due rest chains tail f e') (hstep : step h e = step h e₁)
    (hdeeds : deeds h e = (due e.position).map .directive ++ deeds h e₁)
    (hposition : e₁.position = e.position) :
    InChains h e due (c :: rest) (links :: chains) tail f e' := by
  have hnext : e₂.position = e.position + 1 := hc.position.trans (congrArg (· + 1) hposition)
  have hsum : e₂.position + chains.length = e.position + (links :: chains).length := by
    rw [hnext, List.length_cons, Nat.add_assoc, Nat.add_comm 1]
  have hends := hrest.ends
  have hnonempty : links.map (Link.stride e.position) ≠ [] :=
    fun hnil => hc.chain.ne_nil (List.map_eq_nil_iff.1 hnil)
  have hstrides := (hc.strides hrest.strides).of_due hstep hdeeds hposition
  rw [hposition, preceded_append hnonempty, hnext, ← List.append_assoc] at hstrides
  rw [hsum] at hends
  exact ⟨hstrides, .cons hc.chain hrest.each, hends, hrest.position.trans hsum⟩

/-- A run that a directive ends. -/
theorem exists_inChains_of_stopped {commands : List Command} {before left : List Scheduled}
    {x : Scheduled} {cause : Failure} {w : World σ ω} (hat : e.due = due e.position)
    (hdue : e.due = before ++ x :: left)
    (hcarried : carried h e =
      ⟨before ++ [x], left, some (.directive x.directive cause), w⟩)
    (hstep : step h e =
      .error (.directive x.directive cause) ((e.plan (left ++ e.later)).withWorld w)) :
    ∃ chains tail f e', InChains h e due commands chains tail f e' := by
  have hstrides := Strides.failed hstep
  rw [deeds, hcarried, List.append_nil] at hstrides
  exact ⟨[], _, _, _, .of_ends hstrides (.directive (hat ▸ hdue)) rfl⟩

theorem exists_inChains (due : Nat → List Scheduled) (commands : List Command) :
    ∀ {e : Engine σ ω} {q : Queue}, e.session = q.session → q.pending = commands →
      (∀ i, e.position ≤ i → under i e.schedule = due i) →
      ∃ chains tail f e', InChains h e due commands chains tail f e' := by
  induction commands with
  | nil =>
      intro e q hs hp hdue
      have hat : e.due = due e.position := hdue e.position (Nat.le_refl _)
      rcases step_cases h e with
        ⟨w, -, hcarried, hstep⟩ | ⟨before, x, left, cause, w, w', hsplit, -, -, -, hcarried, hstep⟩
      · obtain ⟨hd, hsame, hdeeds⟩ := step_eq_of_passes hcarried hstep
        have hnow := session_withWorld (e := e.plan e.later) hs w
        have hend := Strides.finished ((step_eq_sendNext (h := h) hd).trans
          (sendNext_of_pending_nil hnow hp))
        rw [deeds_of_not_due hd, asks_of_pending_nil hnow hp] at hend
        have hstrides := hend.of_due hsame hdeeds rfl
        rw [hat] at hstrides
        exact ⟨[], _, none, _, .of_ends hstrides .finished rfl⟩
      · exact exists_inChains_of_stopped hat hsplit hcarried hstep
  | cons c rest ih =>
      intro e q hs hp hdue
      have hat : e.due = due e.position := hdue e.position (Nat.le_refl _)
      rcases step_cases h e with
        ⟨w, -, hcarried, hstep⟩ | ⟨before, x, left, cause, w, w', hsplit, -, -, -, hcarried, hstep⟩
      · obtain ⟨hd, hsame, hdeeds⟩ := step_eq_of_passes hcarried hstep
        have hnow := session_withWorld (e := e.plan e.later) hs w
        rw [hat] at hdeeds
        rcases exists_chain (h := h) c.fallbacks rfl hd hnow hp with
          ⟨links, e₂, hc⟩ | ⟨links, last, f, e₂, hb⟩
        · obtain ⟨q₂, hs₂, hp₂⟩ := hc.session
          have hlater : ∀ i, e₂.position ≤ i → under i e₂.schedule = due i := by
            intro i hi
            have hlt : e.position < i := by
              rw [hc.position] at hi
              exact hi
            rw [hc.schedule]
            show under i e.later = due i
            rw [under_later, if_neg (Nat.ne_of_gt hlt)]
            exact hdue i (Nat.le_of_lt hlt)
          obtain ⟨chains, tail, f, e', hrest⟩ := ih hs₂ hp₂ hlater
          exact ⟨links :: chains, tail, f, e', .cons hc hrest hsame hdeeds rfl⟩
        · have hstrides := hb.strides.of_due hsame hdeeds rfl
          exact ⟨[], _, some f, e₂, .of_ends hstrides (.broken hb.broken) hb.position⟩
      · exact exists_inChains_of_stopped hat hsplit hcarried hstep

theorem length_walked (due : Nat → List Scheduled) (chains : List (List Link)) :
    ∀ position, (walked due position chains).length = chains.flatten.length := by
  induction chains with
  | nil => exact fun _ => rfl
  | cons links chains ih =>
      intro position
      rw [walked, List.length_append, length_preceded, List.length_map, ih, List.flatten_cons,
        List.length_append]

theorem length_flatten_le {commands : List Command} {chains : List (List Link)}
    (h : List.Forall₂ (fun c links => Chain d (c.request :: c.fallbacks) links) commands chains) :
    chains.flatten.length ≤ (commands.map fun c => c.fallbacks.length + 1).sum := by
  induction h with
  | nil => exact Nat.le_refl 0
  | cons hc _ ih =>
      rw [List.flatten_cons, List.length_append, List.map_cons, List.sum_cons]
      exact Nat.add_le_add hc.length_le ih

/-- There are no more steps than requests, and one in which there is nothing left to send. -/
theorem InChains.length_le {commands : List Command} {chains : List (List Link)}
    {tail : List Stride} {f : Option Failure} (hc : InChains h e due commands chains tail f e') :
    (walked due e.position chains ++ tail).length ≤
      (commands.map fun c => c.fallbacks.length + 1).sum + 1 := by
  have hchains := length_flatten_le hc.each
  have htail := hc.ends.length_le
  have hsplit : (commands.map fun c => c.fallbacks.length + 1).sum =
      ((commands.take chains.length).map fun c => c.fallbacks.length + 1).sum +
        ((commands.drop chains.length).map fun c => c.fallbacks.length + 1).sum := by
    rw [← List.sum_append, ← List.map_append, List.take_append_drop]
  have hlast : (commands.drop chains.length).head?.elim 0 (fun c => c.fallbacks.length) ≤
      ((commands.drop chains.length).map fun c => c.fallbacks.length + 1).sum := by
    cases commands.drop chains.length with
    | nil => exact Nat.le_refl 0
    | cons c rest =>
        show c.fallbacks.length ≤ c.fallbacks.length + 1 + _
        omega
  rw [List.length_append, length_walked]
  omega

/-! ## Whole runs -/

/-- A run of commands with any number of fallbacks comes to an end, whatever is scheduled and
whatever the device does. Unless the device cannot be opened, its steps complete the chains of
the first commands one after the other, and each chain consists of the requests up to the first
one whose reply does not fail, or of all of them. The position is `k` at each step of the chain
of command `k`, and the directives scheduled under `k` are carried out before its first request
and nowhere else. Then all commands are done, or a directive ends the run, or the chain of the
next command breaks. No command takes more steps than it has requests, and the position in the
end is the number of the chains that are completed. -/
theorem run_in_chains (h : Host σ ω) (e : Engine σ ω) (commands : List Command) :
    (∃ f e₁, openDevice h (e.load commands) = .error f e₁ ∧
        run h (e.load commands) = .error f e₁ ∧ e₁.position = 0) ∨
      ∃ e₁ chains tail f e₂, openDevice h (e.load commands) = .ok () e₁ ∧
        let due := fun i => under i e.schedule
        let log := walked due 0 chains ++ tail
        Strides h e₁ log f e₂ ∧
        log.length ≤ (commands.map fun c => c.fallbacks.length + 1).sum + 1 ∧
        List.Forall₂ (fun c links => Chain h.dialect (c.request :: c.fallbacks) links ∧
            links.length ≤ c.fallbacks.length + 1)
          (commands.take chains.length) chains ∧
        Ends h.dialect due chains.length (commands.drop chains.length) tail f ∧
        (∀ c ∈ (commands.drop chains.length).head?, tail.length ≤ c.fallbacks.length + 1) ∧
        e₂.position = chains.length ∧
        run h (e.load commands) = finish (⟨log.filterMap (·.response), f⟩, e₂) ∧
        (after (run h (e.load commands))).position = chains.length := by
  have hplace := (actsOnWorld_openDevice h).after_eq_withWorld (e.load commands)
  have hrun := run_eq_finish h (e.load commands)
  cases hopen : openDevice h (e.load commands) with
  | error f e₁ =>
      rw [hopen] at hplace hrun
      exact .inl ⟨f, e₁, rfl, hrun, congrArg Engine.position hplace⟩
  | ok _ e₁ =>
      rw [hopen] at hplace hrun
      have hposition : e₁.position = 0 := congrArg Engine.position hplace
      have hsession : e₁.session = (⟨[], commands, e₁.world.store, false⟩ : Queue).session :=
        congrArg Engine.session hplace
      obtain ⟨chains, tail, f, e₂, hc⟩ := exists_inChains (h := h) (fun i => under i e.schedule)
        commands hsession rfl fun i _ => congrArg (fun e => under i e.schedule) hplace
      have hlength := hc.length_le
      have hends := hc.ends
      have hend := hc.position
      have hstrides := hc.strides
      rw [hposition] at hlength hstrides
      rw [hposition, Nat.zero_add] at hends hend
      simp only at hrun
      rw [hstrides.drain_eq] at hrun
      refine .inr ⟨e₁, chains, tail, f, e₂, rfl, hstrides, hlength,
        hc.each.imp fun _ _ hchain => ⟨hchain, hchain.length_le⟩, hends, fun c hc => ?_, hend,
        hrun, ?_⟩
      · have hlast := hends.length_le
        rw [hc] at hlast
        exact hlast
      · rw [hrun, after_finish, actsOnWorld_closeDevice.after_eq_withWorld]
        exact hend

end Engine

end ModemScript
