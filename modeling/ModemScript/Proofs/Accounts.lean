import Mathlib.Data.List.Forall2
import ModemScript.Modem
import ModemScript.Proofs.Reading
import ModemScript.Proofs.Record

/-!
# Four accounts of a run

A run that comes to its end has been put down in four places: the responses that it returns, the
commands of the session, among which fallbacks have been put while it went on, the response that
each of these commands holds, and the texts that the device was given. Nothing ties them
together but the steps that have written them.

They agree if they are divided in the same way, into one block for each command of the script:
the command and those of its fallbacks that it took (`Tried`). The induction is on the lines
that are left. A directive changes none of the accounts, a command adds its block to each of
them, and so what has to be known of the engine is only how much each account has grown
(`Engine.Settled`). A block is written with one terminator, since a directive is carried out
before a command or after it and never between a command and its fallbacks; which one it is can
be read off the schedule (`Script.terminatorAt`).
-/

namespace ModemScript

variable {σ ω : Type}

/-! ## What a run is to have put down -/

namespace Command

/-- The command after the reply `r` to it, when it was sent with the variables of `store`. -/
def answered (c : Command) (store : Store) (r : Response) : Command :=
  { c.withText (store.substitute c.text) with response := some r }

/-- The response is the one to the command. -/
def Holds (c : Command) (r : Response) : Prop := c.response = some r ∧ r.command = c.text

end Command

/-- What has become of a command: it was sent, and as long as the replies were not as expected
the next fallback was sent. -/
inductive Tried (d : Dialect) : Command → List Command → Prop
  | settled {c : Command} {r : Response} (store : Store) :
      (Session.fails d c.request r.lines = true → c.fallback? = none) →
      Tried d c [c.answered store r]
  | failed {c fallback : Command} {r : Response} {block : List Command} (store : Store) :
      Session.fails d c.request r.lines = true → c.fallback? = some fallback →
      Tried d fallback block → Tried d c (c.answered store r :: block)

/-- The terminator with which command `k` of a script is sent, if `t` is set in the beginning:
that of the last directive before the command that sets one. -/
def Script.terminatorAt (schedule : List Scheduled) (t : Terminator) (k : Nat) : Terminator :=
  (schedule.filter fun x => x.index ≤ k).foldl (fun t x => x.directive.terminator t) t

/-- The texts of commands with their terminators, where those of one block are written with
one terminator. -/
def written (terminator : Nat → Terminator) (first : Nat) (blocks : List (List Command)) :
    List String :=
  (blocks.zipIdx first).flatMap fun b => b.1.map fun c => c.text ++ (terminator b.2).text

theorem written_cons (terminator : Nat → Terminator) (first : Nat) (block : List Command)
    (blocks : List (List Command)) :
    written terminator first (block :: blocks) =
      (block.map fun c => c.text ++ (terminator first).text) ++
        written terminator (first + 1) blocks := rfl

theorem written_congr {terminator terminator' : Nat → Terminator} {first : Nat}
    (h : ∀ k, first ≤ k → terminator k = terminator' k) (blocks : List (List Command)) :
    written terminator first blocks = written terminator' first blocks := by
  induction blocks generalizing first with
  | nil => rfl
  | cons block blocks ih =>
      rw [written_cons, written_cons, h first (Nat.le_refl first),
        ih fun k hk => h k (Nat.le_of_succ_le hk)]

namespace Script

theorem terminatorAt_cons_of_le {x : Scheduled} {k : Nat} (hx : x.index ≤ k)
    (schedule : List Scheduled) (t : Terminator) :
    terminatorAt (x :: schedule) t k = terminatorAt schedule (x.directive.terminator t) k := by
  have hx' : decide (x.index ≤ k) = true := decide_eq_true hx
  rw [terminatorAt, List.filter_cons_of_pos (p := fun x : Scheduled => decide (x.index ≤ k)) hx']
  rfl

theorem terminatorAt_of_lt {schedule : List Scheduled} {k : Nat}
    (hk : ∀ x ∈ schedule, k < x.index) (t : Terminator) : terminatorAt schedule t k = t := by
  rw [terminatorAt, List.filter_eq_nil_iff.2]
  · rfl
  · intro x hx
    rw [decide_eq_true_eq]
    exact Nat.not_le.2 (hk x hx)

end Script

namespace Engine

/-! ## A command and its fallbacks -/

variable {h : Host σ ω} {e e₁ : Engine σ ω} {q : Queue} {c : Command} {rest : List Command}

/-- A step that has got the verdict `v` on the command `c`, behind which `rest` is pending, and
what it has put down. -/
structure Answered (h : Host σ ω) (e : Engine σ ω) (q : Queue) (c : Command) (rest : List Command)
    (v : Verdict) (e₁ : Engine σ ω) : Prop where
  step_eq : step h e = .ok (some v.response) e₁
  holds : (c.answered q.store v.response).Holds v.response
  failed : v.failed = Session.fails h.dialect c.request v.response.lines
  session : e₁.session =
    (⟨q.done ++ [c.answered q.store v.response],
      (if v.failed then c.fallback?.toList else []) ++ rest, e₁.session.store, v.failed⟩ :
        Queue).session
  schedule : e₁.schedule = e.schedule
  position : e₁.position =
    if v.failed && !c.fallbacks.isEmpty then e.position else e.position + 1
  terminator : e₁.station.settings.terminator = e.station.settings.terminator
  sent : e₁.station.sent = e.station.sent ++
    [(c.answered q.store v.response).text ++ e.station.settings.terminator.text]

theorem drain_of_step {r : Response} (hstep : step h e = .ok (some r) e₁) :
    drain h e =
      (⟨r :: (drain h e₁).1.responses, (drain h e₁).1.failure⟩, (drain h e₁).2) := by
  rw [drain_eq, hstep]

theorem failure_ne_none_of_step {f : Failure} (hstep : step h e = .error f e₁) :
    (drain h e).1.failure ≠ none := by
  rw [drain_eq, hstep]
  exact fun hnone => nomatch hnone

/-- If the steps come to their end, the first of them gets an answer to the first pending
command. -/
theorem exists_answered (hd : ∀ x ∈ e.schedule, x.index ≠ e.position)
    (hs : e.session = q.session) (hp : q.pending = c :: rest)
    (hnone : (drain h e).1.failure = none) : ∃ v e₁, Answered h e q c rest v e₁ := by
  have hstep := (step_eq_sendNext (h := h) hd).trans (sendNext_of_pending_cons hs hp)
  have hstore : e.world.store = q.store := congrArg Session.store hs
  cases hask : World.ask h c.request e.world with
  | error f w =>
      simp only [hask] at hstep
      exact absurd hnone (failure_ne_none_of_step hstep)
  | ok v w =>
      obtain ⟨hcommand, hfailed, hsettings, hsent⟩ := World.sent_of_ask_ok h e.world hask
      rw [hstore] at hcommand
      have hterminator := congrArg Settings.terminator hsettings
      have hanswered : ∀ e₁ : Engine σ ω, step h e = .ok (some v.response) e₁ →
          e₁.session = ({ q.settle (c.withText (q.store.substitute c.text)) rest v with
            store := w.store } : Queue).session →
          e₁.schedule = e.schedule → e₁.station = w.station →
          (e₁.position = if v.failed && !c.fallbacks.isEmpty then e.position
            else e.position + 1) → Answered h e q c rest v e₁ := by
        intro e₁ hstep hsession hschedule hstation hposition
        refine ⟨hstep, ⟨rfl, hcommand⟩, hfailed, ?_, hschedule, hposition, ?_, ?_⟩
        · rw [hsession]
          rfl
        · rw [hstation, hterminator]
          rfl
        · rw [hstation, hsent, hcommand]
          rfl
      simp only [hask] at hstep
      by_cases hv : v.failed = true
      · rw [if_pos hv] at hstep
        cases hf : c.fallbacks with
        | nil =>
            simp only [hf] at hstep
            by_cases ha : w.abortOnFailure = true
            · rw [if_pos ha] at hstep
              exact absurd hnone (failure_ne_none_of_step hstep)
            · rw [if_neg ha] at hstep
              exact ⟨v, _, hanswered _ hstep rfl rfl rfl (by rw [hv, hf]; rfl)⟩
        | cons r fallbacks =>
            simp only [hf] at hstep
            exact ⟨v, _, hanswered _ hstep rfl rfl rfl (by rw [hv, hf]; rfl)⟩
      · rw [if_neg hv] at hstep
        rw [Bool.not_eq_true] at hv
        exact ⟨v, _, hanswered _ hstep rfl rfl rfl (by rw [hv]; rfl)⟩

/-- Steps that are done with the command `c`, after which `rest` is pending, and what they have
put down: these commands, with these responses. -/
structure Settled (h : Host σ ω) (e : Engine σ ω) (q : Queue) (c : Command) (rest : List Command)
    (block : List Command) (responses : List Response) (e₁ : Engine σ ω) : Prop where
  tried : Tried h.dialect c block
  holds : List.Forall₂ Command.Holds block responses
  drain_eq : drain h e =
    (⟨responses ++ (drain h e₁).1.responses, (drain h e₁).1.failure⟩, (drain h e₁).2)
  session : ∃ failed, e₁.session =
    (⟨q.done ++ block, rest, e₁.session.store, failed⟩ : Queue).session
  schedule : e₁.schedule = e.schedule
  position : e₁.position = e.position + 1
  terminator : e₁.station.settings.terminator = e.station.settings.terminator
  sent : e₁.station.sent =
    e.station.sent ++ block.map fun c => c.text ++ e.station.settings.terminator.text

/-- An answer that nothing has to follow settles a command. -/
theorem Answered.settled {v : Verdict} (ha : Answered h e q c rest v e₁)
    (hend : v.failed = true → c.fallbacks = []) :
    Settled h e q c rest [c.answered q.store v.response] [v.response] e₁ := by
  have hnext : (if v.failed then c.fallback?.toList else []) = [] := by
    split
    · next hv => rw [Command.fallback?, hend hv]; rfl
    · rfl
  have hposition := ha.position
  have hsession := ha.session
  rw [hnext] at hsession
  refine ⟨.settled q.store fun hfails => ?_, .cons ha.holds .nil, drain_of_step ha.step_eq,
    ⟨_, hsession⟩, ha.schedule, ?_, ha.terminator, ha.sent⟩
  · rw [Command.fallback?, hend (ha.failed.trans hfails)]
  · rw [hposition, if_neg]
    intro hmore
    rw [Bool.and_eq_true] at hmore
    rw [hend hmore.1] at hmore
    cases hmore.2

/-- An answer that has to be followed by a fallback leaves this to be settled. -/
theorem Answered.cons {v : Verdict} {r : Request} {fallbacks : List Request}
    {block : List Command} {responses : List Response} {e₂ : Engine σ ω} {q₁ : Queue}
    (ha : Answered h e q c rest v e₁) (hv : v.failed = true) (hf : c.fallbacks = r :: fallbacks)
    (hq : q₁.done = q.done ++ [c.answered q.store v.response])
    (hrest : Settled h e₁ q₁ (.ofRequest r fallbacks) rest block responses e₂) :
    Settled h e q c rest (c.answered q.store v.response :: block) (v.response :: responses) e₂ := by
  have hfallback : c.fallback? = some (.ofRequest r fallbacks) := by
    rw [Command.fallback?, hf]
  have hposition := ha.position
  rw [hv, hf] at hposition
  obtain ⟨failed, hsession⟩ := hrest.session
  refine ⟨.failed q.store (ha.failed.symm.trans hv) hfallback hrest.tried,
    .cons ha.holds hrest.holds, ?_, ⟨failed, ?_⟩, hrest.schedule.trans ha.schedule, ?_,
    hrest.terminator.trans ha.terminator, ?_⟩
  · rw [drain_of_step ha.step_eq, hrest.drain_eq]
    rfl
  · rw [hsession, hq, List.append_assoc]
    rfl
  · rw [hrest.position, hposition]
    rfl
  · rw [hrest.sent, ha.sent, ha.terminator, List.append_assoc]
    rfl

/-- The first pending command is settled with as many of its fallbacks as it takes. -/
theorem exists_settled (fallbacks : List Request) :
    ∀ {e : Engine σ ω} {q : Queue} {c : Command}, c.fallbacks = fallbacks →
      (∀ x ∈ e.schedule, x.index ≠ e.position) → e.session = q.session →
      q.pending = c :: rest → (drain h e).1.failure = none →
      ∃ block responses e₁, Settled h e q c rest block responses e₁ := by
  induction fallbacks with
  | nil =>
      intro e q c hf hd hs hp hnone
      obtain ⟨v, e₁, ha⟩ := exists_answered hd hs hp hnone
      exact ⟨_, _, e₁, ha.settled fun _ => hf⟩
  | cons r fallbacks ih =>
      intro e q c hf hd hs hp hnone
      obtain ⟨v, e₁, ha⟩ := exists_answered hd hs hp hnone
      by_cases hv : v.failed = true
      · have hsession := ha.session
        have hposition := ha.position
        rw [hv, Command.fallback?, hf] at hsession
        rw [hv, hf] at hposition
        have hd₁ : ∀ x ∈ e₁.schedule, x.index ≠ e₁.position := by
          rw [ha.schedule, hposition]
          exact hd
        rw [drain_of_step ha.step_eq] at hnone
        obtain ⟨block, responses, e₂, hrest⟩ := ih rfl hd₁ hsession rfl hnone
        exact ⟨_, _, e₂, ha.cons hv hf rfl hrest⟩
      · exact ⟨_, _, e₁, ha.settled fun h => absurd h hv⟩

/-! ## All commands -/

/-- The accounts of the steps from `e` on, where the commands `done` came before and `pending` was
to come: a block for each of these. -/
structure Accounts (h : Host σ ω) (e : Engine σ ω) (done pending : List Command)
    (blocks : List (List Command)) : Prop where
  tried : List.Forall₂ (Tried h.dialect) pending blocks
  holds : List.Forall₂ Command.Holds blocks.flatten (drain h e).1.responses
  commands : (drain h e).2.session.commands = done ++ blocks.flatten
  sent : (drain h e).2.station.sent = e.station.sent ++
    written (Script.terminatorAt e.schedule e.station.settings.terminator) e.position blocks

/-- A directive sets the terminator for all commands that come after it. -/
theorem Accounts.of_due {x : Scheduled} {later : List Scheduled} {done pending : List Command}
    {blocks : List (List Command)} (ha : Accounts h e₁ done pending blocks)
    (hdrain : drain h e = drain h e₁) (hs : e.schedule = x :: later) (hx : x.index = e.position)
    (hlater : e₁.schedule = later) (hposition : e₁.position = e.position)
    (hquiet : e.station.Quiet (x.directive.terminator e.station.settings.terminator) e₁.station) :
    Accounts h e done pending blocks := by
  refine ⟨ha.tried, hdrain ▸ ha.holds, hdrain ▸ ha.commands, ?_⟩
  rw [hdrain, ha.sent, hquiet.sent, hlater, hposition, hs, hquiet.terminator]
  exact congrArg _ (written_congr
    (fun k hk => (Script.terminatorAt_cons_of_le (hx ▸ hk) later _).symm) blocks)

/-- A command is sent with the terminator that is set when its turn comes. -/
theorem Accounts.of_settled {block : List Command} {responses : List Response}
    {blocks : List (List Command)} (hb : Settled h e q c rest block responses e₁)
    (hlater : ∀ x ∈ e.schedule, e.position < x.index)
    (ha : Accounts h e₁ (q.done ++ block) rest blocks) :
    Accounts h e q.done (c :: rest) (block :: blocks) := by
  refine ⟨.cons hb.tried ha.tried, ?_, ?_, ?_⟩
  · rw [hb.drain_eq]
    exact List.rel_append hb.holds ha.holds
  · rw [hb.drain_eq, List.flatten_cons, ← List.append_assoc]
    exact ha.commands
  · rw [hb.drain_eq, written_cons, Script.terminatorAt_of_lt hlater, ← List.append_assoc, ← hb.sent,
      ← hb.schedule, ← hb.terminator, ← hb.position]
    exact ha.sent

/-- Steps that come to their end have kept all accounts. -/
theorem exists_accounts (h : Host σ ω) (ls : List (List Char)) :
    ∀ {number : Nat} {e : Engine σ ω} {q : Queue}, e.session = q.session →
      Script.ofLines h.dialect number e.position ls = .ok ⟨q.pending, e.schedule⟩ →
      (drain h e).1.failure = none → ∃ blocks, Accounts h e q.done q.pending blocks := by
  induction ls with
  | nil =>
      intro number e q hs hls hnone
      injection hls with hls
      injection hls with hp hsch
      have hstep := step_eq_sendNext (h := h) (e := e) (by rw [← hsch]; simp)
      rw [sendNext_of_pending_nil hs hp.symm] at hstep
      have hdrain : drain h e = (⟨[], none⟩, e) := by rw [drain_eq, hstep]
      refine ⟨[], hp ▸ .nil, hdrain ▸ .nil, ?_, ?_⟩
      · rw [hdrain, hs]
        show q.done ++ q.pending = _
        rw [← hp]
        rfl
      · rw [hdrain]
        exact (List.append_nil _).symm
  | cons l ls ih =>
      intro number e q hs hls hnone
      by_cases hl : Line.isSilent l = true
      · rw [Script.ofLines_cons_of_silent hl] at hls
        exact ih hs hls hnone
      · obtain ⟨line, s', hline, hs', hprepend⟩ := Script.exists_of_ofLines_cons hl hls
        cases line with
        | directive d =>
            injection hprepend with hp hsch
            have hquiet := World.quiet_apply h e.world d
            have hrest : Script.ofLines h.dialect (number + 1) e.position ls =
                .ok ⟨q.pending, s'.schedule⟩ := by
              rw [hp]
              exact hs'
            -- whether or not the directive fails, the step goes on behind it
            have hgo : ∀ w, leftBy (World.act (apply h d) e.world) = w →
                step h e = step h ((e.plan s'.schedule).withWorld w) →
                ∃ blocks, Accounts h e q.done q.pending blocks := by
              rintro w rfl hstep
              have hdrain := drain_congr hstep
              obtain ⟨blocks, ha⟩ :=
                ih (session_withWorld (e := e.plan s'.schedule) hs _) hrest (hdrain ▸ hnone)
              exact ⟨blocks, ha.of_due hdrain hsch rfl rfl rfl hquiet⟩
            have hstep := step_cons_due (h := h) hsch rfl
            simp only at hstep
            cases hact : World.act (apply h d) e.world with
            | ok _ w =>
                rw [hact] at hstep hgo
                exact hgo w rfl hstep
            | error cause w =>
                simp only [hact] at hstep
                rw [hact] at hgo
                split at hstep
                · exact absurd hnone (failure_ne_none_of_step hstep)
                · exact hgo w rfl hstep
        | command c =>
            injection hprepend with hp hsch
            have hlater : ∀ x ∈ e.schedule, e.position < x.index := by
              intro x hx
              exact Script.le_index_of_ofLines hs' x (hsch ▸ hx)
            have hd : ∀ x ∈ e.schedule, x.index ≠ e.position :=
              fun x hx => (Nat.ne_of_lt (hlater x hx)).symm
            obtain ⟨block, responses, e₁, hb⟩ := exists_settled c.fallbacks rfl hd hs hp hnone
            obtain ⟨failed, hsession⟩ := hb.session
            rw [hb.drain_eq] at hnone
            have hrest : Script.ofLines h.dialect (number + 1) e₁.position ls =
                .ok ⟨s'.commands, e₁.schedule⟩ := by
              rw [hb.position, hb.schedule, hsch]
              exact hs'
            obtain ⟨blocks, ha⟩ := ih hsession hrest hnone
            exact ⟨block :: blocks, hp ▸ ha.of_settled hb hlater⟩

/-! ## The end of a run -/

theorem exists_of_run_eq_ok {responses : List Response} {e' : Engine σ ω}
    (hr : run h e = .ok responses e') :
    ∃ e₁, openDevice h e = .ok () e₁ ∧ (drain h e₁).1 = ⟨responses, none⟩ ∧
      closeDevice (drain h e₁).2 = .ok () e' := by
  unfold run at hr
  cases ho : openDevice h e with
  | error f e₁ =>
      rw [ho] at hr
      cases hr
  | ok _ e₁ =>
      simp only [ho] at hr
      cases hc : closeDevice (drain h e₁).2 with
      | error f e₂ => cases hf : (drain h e₁).1.failure <;> simp only [hc, hf] at hr <;> cases hr
      | ok _ e₂ =>
          cases hf : (drain h e₁).1.failure with
          | some f =>
              simp only [hc, hf] at hr
              cases hr
          | none =>
              simp only [hc, hf] at hr
              cases hr
              exact ⟨e₁, rfl, by rw [← hf], hc⟩

/-- Loading a script and running it to its end leaves accounts that agree. The responses are those
that the commands of the session hold, one after another. These commands fall into blocks, one
for each command of the script, which begins with it and goes on with those of its fallbacks
that were sent. And what the device was given are the texts of these commands, each with
the terminator that is set before the command of the script to which its block belongs. -/
theorem run_accounts_agree (h : Host σ ω) (e : Engine σ ω) {text : String} {script : Script}
    {responses : List Response} {e' : Engine σ ω}
    (hp : Script.parse h.dialect text = .ok script)
    (hr : run h (e.loadScript script) = .ok responses e') :
    List.Forall₂ Command.Holds e'.session.commands responses ∧
      ∃ blocks, e'.session.commands = blocks.flatten ∧
        List.Forall₂ (Tried h.dialect) script.commands blocks ∧
        e'.station.sent = e.station.sent ++
          written (Script.terminatorAt script.schedule e.station.settings.terminator) 0 blocks := by
  obtain ⟨e₁, hopen, hdrain, hclose⟩ := exists_of_run_eq_ok hr
  have hbegin := (actsOnWorld_openDevice h).eq_withWorld hopen
  have hend := actsOnWorld_closeDevice.eq_withWorld hclose
  have hkeeps := (e.loadScript script).keeps_openDevice h
  have hkeeps' := (drain h e₁).2.keeps_closeDevice
  rw [hopen] at hkeeps
  rw [hclose] at hkeeps'
  let q : Queue := ⟨[], script.commands, e₁.session.store, false⟩
  have hs : e₁.session = q.session := by
    rw [hbegin]
    rfl
  have hls : Script.ofLines h.dialect 1 e₁.position (Text.lines text.toList) =
      .ok ⟨q.pending, e₁.schedule⟩ := by
    rw [hbegin]
    exact hp
  obtain ⟨blocks, ha⟩ := exists_accounts h _ hs hls (by rw [hdrain])
  have hcommands : e'.session.commands = blocks.flatten := by
    rw [hend]
    exact ha.commands
  have hholds := ha.holds
  rw [hdrain, ← hcommands] at hholds
  have hschedule : e₁.schedule = script.schedule := congrArg Engine.schedule hbegin
  have hposition : e₁.position = 0 := congrArg Engine.position hbegin
  refine ⟨hholds, blocks, hcommands, ha.tried, ?_⟩
  have hsent : e'.station.sent = (drain h e₁).2.station.sent := hkeeps'.sent
  have hsent₁ : e₁.station.sent = e.station.sent := hkeeps.sent
  have hterminator : e₁.station.settings.terminator = e.station.settings.terminator :=
    congrArg Settings.terminator hkeeps.settings
  rw [hsent, ha.sent, hsent₁, hterminator, hschedule, hposition]

/-- A script that sets a terminator after its first command, and a second command that is not
answered as expected and has a fallback with a variable. -/
theorem run_accounts_agree_fallback :
    let h : Host Modem.State Unit := .bare
    let modem : Modem :=
      ⟨[[⟨0, Utf8.encode "OK\r\n"⟩], [⟨5, Utf8.encode "SIM PIN\r\n"⟩], [⟨0, Utf8.encode "OK\r\n"⟩]],
        [], none, none, false, [], [], none, true⟩
    let e : Engine Modem.State Unit :=
      { session := .empty, station := .new (.new (some "v") (some 9600)) modem.channel
        schedule := [], abortOnFailure := true, position := 0, host := () }
    let text := "SET PIN=1\nAT;;OK\nBREAK CR\nAT+CPIN?;;READY;;0;;1;;;;AT+CPIN=${PIN};;OK\n"
    let pin : Command :=
      ⟨⟨"AT+CPIN?", some "READY", some 1, 0, none⟩,
        [⟨"AT+CPIN=${PIN}", some "OK", some 1, 0, none⟩], none⟩
    let script : Script :=
      ⟨[.ofRequest (.new "AT" (some "OK")) [], pin], [⟨.set "PIN" "1", 0⟩, ⟨.lineBreak .cr, 1⟩]⟩
    ∃ responses e', Script.parse h.dialect text = .ok script ∧
      run h (e.loadScript script) = .ok responses e' ∧
      List.Forall₂ Command.Holds e'.session.commands responses ∧
      ∃ blocks, e'.session.commands = blocks.flatten ∧
        List.Forall₂ (Tried h.dialect) script.commands blocks ∧
        e'.station.sent =
          written (Script.terminatorAt script.schedule .crlf) 0 blocks := by
  intro h modem e text pin script
  have hp : Script.parse h.dialect text = .ok script :=
    eq_ok_of_toOption_eq_some (by decide +kernel)
  have hends : (run h (e.loadScript script) matches .ok ..) = true := by decide +kernel
  cases hr : run h (e.loadScript script) with
  | error f e' =>
      rw [hr] at hends
      cases hends
  | ok responses e' =>
      exact ⟨responses, e', hp, rfl, run_accounts_agree h e hp hr⟩

end Engine

end ModemScript
