import NetaAgent.LinuxSequence
import NetaAgent.OutboundWire

/-!
The order in which the envelopes of one agent reach the coordinator, on Linux.

Three kinds of senders take their sequence numbers from one file under one lock. A
`send_payload` (AgentHello, Heartbeat) holds the lock from the allocation until it has the
coordinator's response. An UpgradeProgress message and a new attempt of the outbox
dispatcher are posted after the lock has been released, and the dispatcher posts a stored
attempt again as it is. So only the first kind arrives in order.
-/

namespace NetaAgent.SendOrder

open Decimal Crypto Sql Run NapRecord FileProgram LinuxSequence OutboundQueue
open OutboundDispatcher NapEnvelope List Function

inductive Arrival where
  | payload (sequence : ℕ)
  | progress (sequence : ℕ)
  | outbox (sequence : ℕ) (text : Text)

def Arrival.sequence : Arrival → ℕ
  | .payload n | .progress n | .outbox n _ => n

inductive Task where
  | idle
  | drain (phase : Phase)
  /-- `send_payload` holds the lock; its envelope has been delivered or not. -/
  | lease (sequence : ℕ) (delivered : Bool)
  /-- `UpgradeProgressReporter::send` has a sequence number. -/
  | progress (sequence : ℕ)

def Task.ofPhase : Phase → Task
  | .stopped _ => .idle
  | phase => .drain phase

structure Senders (P : Type*) where
  disk : Disk
  db : Database
  /-- The process that holds the lock across its delivery. -/
  lock : Option P
  task : P → Task
  /-- The values returned by the allocators, in order. -/
  allocated : List (Allocator × ℕ)
  /-- The envelopes of the dispatcher. -/
  created : List Envelope
  /-- The envelopes that have reached the coordinator, in order. -/
  arrived : List Arrival

/-- The envelope that a step of a drain posts, if it reaches the coordinator. -/
def reaches (reached : Bool) : Phase → List Arrival
  | .post _ message =>
    if reached then [.outbox message.attemptSequence message.attemptEnvelopeJson] else []
  | _ => []

lemma mem_reaches {reached : Bool} {ph : Phase} {a : Arrival} (h : a ∈ reaches reached ph) :
    ∃ job message, ph = .post job message ∧
      a = .outbox message.attemptSequence message.attemptEnvelopeJson := by
  unfold reaches at h
  split at h
  · next job message =>
    split at h
    · exact ⟨job, message, rfl, mem_singleton.mp h⟩
    · cases h
  · cases h

inductive Action (P : Type*) where
  /-- A process starts a drain. -/
  | start (p : P) (maximum : ℕ)
  | drain (p : P) (cfg : Config) (env : Env) (reached : Bool)
  /-- `send_payload` takes the lock and a sequence number. -/
  | lease (p : P)
  | deliver (p : P)
  | release (p : P)
  /-- UpgradeProgress takes a sequence number. -/
  | allocate (p : P)
  | report (p : P) (reached : Bool)
  | crash (p : P)
  | enqueue (cfg : Config) (x : Finding) (now : ℕ) (oracle : Oracle Text)

namespace Senders

variable {P : Type*}

def take (s : Senders P) (a : Allocator) : Option ℕ × Senders P :=
  match a.body.exec s.disk with
  | (.ok n, disk) => (some n, { s with disk, allocated := s.allocated ++ [(a, n)] })
  | (.error _, disk) => (none, { s with disk })

variable [DecidableEq P]

def setTask (s : Senders P) (p : P) (t : Task) : Senders P :=
  { s with task := Function.update s.task p t }

def drainStep (sha : Sha256) (s : Senders P) (p : P) (ph : Phase) (cfg : Config) (env : Env)
    (reached : Bool) : Senders P :=
  let after := ph.step sha cfg env s.db
  { s with
    db := after.1
    task := Function.update s.task p (.ofPhase after.2)
    created := s.created ++ ph.creates env
    arrived := s.arrived ++ reaches reached ph }

/-- One step. What a process cannot do now, because it is busy or another one holds the lock,
changes nothing. -/
def step (sha : Sha256) (s : Senders P) : Action P → Senders P
  | .start p maximum =>
    match s.task p with
    | .idle => s.setTask p (.drain (.begin maximum))
    | _ => s
  | .drain p cfg env reached =>
    match s.task p with
    | .drain ph =>
      -- `next_nap_sequence` returns what it finds in the file, not what the label says
      if ph.allocates env = [] then s.drainStep sha p ph cfg env reached
      else if s.lock = none then
        match s.take .nap with
        | (some n, s) => s.drainStep sha p ph cfg { env with sequence := .ok n } reached
        | (none, s) => s
      else s
    | _ => s
  | .lease p =>
    match s.task p, s.lock with
    | .idle, none =>
      match s.take .lease with
      | (some n, s) => { s.setTask p (.lease n false) with lock := some p }
      | (none, s) => s
    | _, _ => s
  | .deliver p =>
    match s.task p with
    | .lease n false => { s.setTask p (.lease n true) with arrived := s.arrived ++ [.payload n] }
    | _ => s
  | .release p =>
    match s.task p with
    | .lease _ _ => { s.setTask p .idle with lock := none }
    | _ => s
  | .allocate p =>
    match s.task p, s.lock with
    | .idle, none =>
      match s.take .upgrade with
      | (some n, s) => s.setTask p (.progress n)
      | (none, s) => s
    | _, _ => s
  | .report p reached =>
    match s.task p with
    | .progress n =>
      { s.setTask p .idle with
        arrived := s.arrived ++ if reached then [.progress n] else [] }
    | _ => s
  | .crash p => { s.setTask p .idle with lock := if s.lock = some p then none else s.lock }
  | .enqueue cfg x now oracle =>
    { s with db := (Operation.enqueue cfg x now).exec sha oracle s.db }

end Senders

/-! ### The invariant -/

variable (created : List Envelope)

/-- An envelope with this sequence number and this text has been created. -/
def Sent (n : ℕ) (text : Text) : Prop :=
  ∃ e ∈ created, e.sequence = n ∧ e.render = text

lemma Sent.mono {created more : List Envelope} {n : ℕ} {text : Text} (h : Sent created n text) :
    Sent (created ++ more) n text := by
  obtain ⟨e, he, hn, ht⟩ := h
  exact ⟨e, mem_append_left _ he, hn, ht⟩

def RowSent (r : Row) : Prop :=
  ∀ text, r.attemptEnvelopeJson = some text → ∃ n, r.attemptSequence = some n ∧ Sent created n text

/-- What a drain is about to post, or may post again, has been created. -/
def PhaseSent : Phase → Prop
  | .prepare job => NulFree job.ready.payloadJson ∧ NulFree job.ready.payloadHash ∧
      (job.ready.attemptEnvelopeJson ≠ [] →
        Sent created job.ready.attemptSequence job.ready.attemptEnvelopeJson)
  | .store _ message => NulFree message.attemptEnvelopeJson ∧
      Sent created message.attemptSequence message.attemptEnvelopeJson
  | .post _ message => Sent created message.attemptSequence message.attemptEnvelopeJson
  | _ => True

section
variable {sha : Sha256} {cfg : Config} {env : Env} {db db' : Database} {created : List Envelope}
  {more : List Envelope}

lemma RowSent.mono {r : Row} (h : RowSent created r) :
    RowSent (created ++ more) r := fun text ht => by
  obtain ⟨n, hn, hsent⟩ := h text ht
  exact ⟨n, hn, hsent.mono⟩

variable {ph : Phase}

lemma PhaseSent.mono (h : PhaseSent created ph) : PhaseSent (created ++ more) ph := by
  cases ph with
  | prepare => exact ⟨h.1, h.2.1, fun hne => (h.2.2 hne).mono⟩
  | store => exact ⟨h.1, h.2.mono⟩
  | post => exact Sent.mono h
  | _ => trivial

lemma rowSent_change {op : Operation} (hc : Change op db db')
    (hrows : ∀ r ∈ db.messages, RowSent created r)
    (hstores : ∀ r r', op.Stores r r' → RowSent created r') :
    ∀ r ∈ db'.messages, RowSent created r := by
  intro r' hr'
  rcases hc.origin r' hr' with ⟨r, hr, hd⟩ | ⟨-, c, x, now, -, rfl⟩
  · rcases hd.attempt with ⟨htext, hseq⟩ | hst
    · intro text ht
      rw [hseq]
      exact hrows r hr text (htext ▸ ht)
    · exact hstores r r' hst
  · exact fun text ht => nomatch ht

variable (sha cfg env) in
lemma rowSent_step (hs : Sound db) (hph : PhaseSent created ph)
    (hrows : ∀ r ∈ db.messages, RowSent created r) :
    ∀ r ∈ (ph.step sha cfg env db).1.messages, RowSent created r := by
  rw [Phase.step_db]
  cases hop : ph.operation cfg env with
  | none => exact hrows
  | some op =>
    refine rowSent_change (op.change sha env.oracle hs) hrows fun r r' hst => ?_
    obtain ⟨job, message, rfl⟩ := Phase.operation_stores hop hst
    cases hop
    obtain ⟨-, htext, hseq, -⟩ := hst
    rintro text ht
    rw [htext, bindText_of_notMem hph.1] at ht
    exact ⟨_, hseq, Option.some.inj ht ▸ hph.2⟩

variable (sha cfg env) in
lemma phaseSent_step (hs : Sound db) (hph : PhaseSent created ph)
    (hrows : ∀ r ∈ db.messages, RowSent created r) :
    PhaseSent (created ++ ph.creates env) (ph.step sha cfg env db).2 := by
  have hmoves : Moves env db ph _ := ph.step_moves sha cfg env
  generalize (ph.step sha cfg env db).2 = ph' at hmoves
  cases hmoves with
  | @ready maximum result r hr hready =>
    have hb := hs.bound r hr
    refine ⟨nulFree_of_bindText hb.payloadJson, nulFree_of_bindText hb.payloadHash, fun hne => ?_⟩
    simp only [Row.toMessage] at hne ⊢
    cases ht : r.attemptEnvelopeJson with
    | none => simp [ht] at hne
    | some text =>
      obtain ⟨n, hn, hsent⟩ := hrows r hr text ht
      simpa only [hn, Option.getD_some] using hsent.mono
  | reuse hre =>
    simp only [reusable, Bool.and_eq_true, decide_eq_true_eq] at hre
    exact (hph.2.2 hre.1).mono
  | fresh hre hnew =>
    obtain ⟨-, hhash, hpayload, hmessage, -⟩ := newAttempt_ok hnew
    refine ⟨nulFree_render hmessage (hhash ▸ hph.2.1) (hpayload ▸ hph.1), _, ?_, rfl, rfl⟩
    rw [Phase.creates_eq hre hnew]
    exact mem_append_right _ (mem_singleton_self _)
  | stored => exact hph.2.mono
  | _ => trivial

end

section
variable {P : Type*}

def Task.Holds (s : Senders P) (p : P) : Task → Prop
  | .idle => True
  | .drain ph => PhaseSent s.created ph
  -- no other process has taken a number since
  | .lease n delivered => s.lock = some p ∧ (.lease, n) ∈ s.allocated ∧
      (∀ u ∈ s.allocated, u.2 ≤ n) ∧ (delivered = false → .payload n ∉ s.arrived)
  | .progress n => (.upgrade, n) ∈ s.allocated ∧ .progress n ∉ s.arrived

def Arrival.allocator : Arrival → Allocator
  | .payload _ => .lease
  | .progress _ => .upgrade
  | .outbox _ _ => .nap

/-- The envelope that arrived has a number of its sender's. -/
def Arrival.From (s : Senders P) : Arrival → Prop
  | .payload n => (.lease, n) ∈ s.allocated
  | .progress n => (.upgrade, n) ∈ s.allocated
  | .outbox n text => Sent s.created n text

lemma Arrival.From.mono {s : Senders P} {a : Arrival} (h : a.From s) (more : List Envelope)
    (new : List Arrival) :
    a.From { s with created := s.created ++ more, arrived := s.arrived ++ new } := by
  cases a with
  | payload n | progress n => exact h
  | outbox => exact Sent.mono h

/-- The envelope that the process is about to deliver. -/
def Task.Owns (a : Arrival) : Task → Prop
  | .lease n false => a = .payload n
  | .progress n => a = .progress n
  | _ => False

lemma Task.Holds.mono {s : Senders P} {p : P} {t : Task} (h : t.Holds s p) (more : List Envelope)
    {new : List Arrival} (hnew : ∀ a ∈ new, ¬ t.Owns a) :
    t.Holds { s with created := s.created ++ more, arrived := s.arrived ++ new } p := by
  cases t with
  | idle => trivial
  | drain => exact PhaseSent.mono h
  | lease =>
    refine ⟨h.1, h.2.1, h.2.2.1, fun hd hmem => ?_⟩
    subst hd
    rcases mem_append.mp hmem with hmem | hmem
    · exact h.2.2.2 rfl hmem
    · exact hnew _ hmem rfl
  | progress =>
    refine ⟨h.1, fun hmem => ?_⟩
    rcases mem_append.mp hmem with hmem | hmem
    · exact h.2 hmem
    · exact hnew _ hmem rfl

/-- What `a` may be when it arrives after `b`: a `send_payload` envelope has a larger
number, and an equal number means that the dispatcher has sent one envelope again. -/
def InOrder (b : Arrival) : Arrival → Prop
  | .payload n => b.sequence < n
  | .progress n => b.sequence ≠ n
  | .outbox n text => b.sequence = n → b = .outbox n text

namespace Senders

structure Good (s : Senders P) : Prop where
  counter : LinuxSequence.Good ⟨s.disk, s.allocated.map Prod.snd⟩
  sound : OutboundQueue.Sound s.db
  rows : ∀ r ∈ s.db.messages, RowSent s.created r
  created : ∀ e ∈ s.created, (.nap, e.sequence) ∈ s.allocated
  distinct : ∀ e ∈ s.created, ∀ e' ∈ s.created, e.sequence = e'.sequence → e = e'
  tasks : ∀ p, (s.task p).Holds s p
  alone : ∀ p q n, s.task p = .progress n → s.task q = .progress n → p = q
  arrived : ∀ a ∈ s.arrived, a.From s
  order : s.arrived.Pairwise InOrder

variable {s : Senders P}

lemma Good.pairwise (h : s.Good) : s.allocated.Pairwise fun u v => u.2 < v.2 := by
  obtain ⟨m, ⟨hpw, -⟩, -⟩ := h.counter
  exact pairwise_map.mp hpw

variable {n : ℕ} {p : P}

lemma Good.allocator_eq (h : s.Good) {a a' : Allocator} (hu : (a, n) ∈ s.allocated)
    (hv : (a', n) ∈ s.allocated) : a = a' := by
  have hinj := inj_on_of_nodup_map (f := Prod.snd)
    (pairwise_map.mpr (h.pairwise.imp fun hlt => hlt.ne)) hu hv rfl
  exact congrArg Prod.fst hinj

variable {a b : Arrival}

lemma Good.arrived_allocated (h : s.Good) (ha : a ∈ s.arrived) :
    (a.allocator, a.sequence) ∈ s.allocated := by
  have hfrom := h.arrived a ha
  cases a with
  | payload | progress => exact hfrom
  | outbox =>
    obtain ⟨e, he, rfl, -⟩ := hfrom
    exact h.created e he

lemma Good.extend (h : s.Good) (hlock : s.lock = none) {f : Disk}
    (more : List (Allocator × ℕ)) (hc : LinuxSequence.Good ⟨f, (s.allocated ++ more).map Prod.snd⟩) :
    ({ s with disk := f, allocated := s.allocated ++ more } : Senders P).Good where
  counter := hc
  sound := h.sound
  rows := h.rows
  created e he := mem_append_left _ (h.created e he)
  distinct := h.distinct
  tasks p := by
    have hp := h.tasks p
    cases ht : s.task p with
    | idle => trivial
    | drain => simpa only [ht, Task.Holds] using hp
    | lease =>
      rw [ht, Task.Holds, hlock] at hp
      exact nomatch hp.1
    | progress =>
      rw [ht] at hp
      exact ⟨mem_append_left _ hp.1, hp.2⟩
  alone := h.alone
  arrived a ha := by
    have hfrom := h.arrived a ha
    cases a with
    | payload n | progress n => exact mem_append_left _ hfrom
    | outbox => exact hfrom
  order := h.order

lemma Good.take (h : s.Good) (hlock : s.lock = none) {a : Allocator} (hw : ¬ a.Wraps s.disk) :
    (∃ f, s.take a = (none, { s with disk := f }) ∧ ({ s with disk := f } : Senders P).Good) ∨
      ∃ f n, s.take a = (some n, { s with disk := f, allocated := s.allocated ++ [(a, n)] }) ∧
        ({ s with disk := f, allocated := s.allocated ++ [(a, n)] } : Senders P).Good ∧
        ∀ u ∈ s.allocated, u.2 < n := by
  have hcall := h.counter.call (i := .complete a) hw
  simp only [LinuxSequence.call] at hcall
  rcases hexec : a.body.exec s.disk with ⟨r, f⟩
  rw [hexec] at hcall
  cases r with
  | error =>
    refine .inl ⟨f, by rw [Senders.take, hexec], ?_⟩
    have := h.extend hlock [] (by simpa [World.completed] using hcall)
    simpa using this
  | ok n =>
    have hgood := h.extend hlock [(a, n)] (by simpa [World.completed] using hcall)
    refine .inr ⟨f, n, by rw [Senders.take, hexec], hgood, fun u hu => ?_⟩
    exact (pairwise_append.mp hgood.pairwise).2.2 u hu (a, n) (mem_singleton_self _)

/-- The outbox changes and at most one envelope is created, with a number of its own. -/
lemma Good.outbox (h : s.Good) {db : Database} (more : List Envelope)
    (hsound : OutboundQueue.Sound db) (hrows : ∀ r ∈ db.messages, RowSent (s.created ++ more) r)
    (hone : ∀ e ∈ more, ∀ e' ∈ more, e = e') (hnap : ∀ e ∈ more, (.nap, e.sequence) ∈ s.allocated)
    (hnew : ∀ e ∈ more, ∀ e' ∈ s.created, e'.sequence ≠ e.sequence) :
    ({ s with db, created := s.created ++ more } : Senders P).Good where
  counter := h.counter
  sound := hsound
  rows := hrows
  created e he := (mem_append.mp he).elim (h.created e) (hnap e)
  distinct e he e' he' heq := by
    rcases mem_append.mp he with he | he <;> rcases mem_append.mp he' with he' | he'
    · exact h.distinct e he e' he' heq
    · exact absurd heq (hnew e' he' e he)
    · exact absurd heq.symm (hnew e he e' he')
    · exact hone e he e' he'
  tasks p := by
    have hp := Task.Holds.mono (h.tasks p) more (forall_mem_nil fun a => ¬ (s.task p).Owns a)
    cases ht : s.task p with
    | idle => trivial
    | _ =>
      rw [ht] at hp
      simpa [Task.Holds] using hp
  alone := h.alone
  arrived a ha := by
    have hfrom := (h.arrived a ha).mono more []
    cases a <;> exact hfrom
  order := h.order

variable {t : Task}

lemma Holds.task (h : t.Holds s p) (tasks : P → Task) : t.Holds { s with task := tasks } p := by
  cases t <;> exact h

variable [DecidableEq P]

lemma Good.setTask (h : s.Good) (p : P) (ht : t.Holds s p)
    (hp : ∀ n, t = .progress n → ∀ q, s.task q ≠ .progress n) : (s.setTask p t).Good where
  counter := h.counter
  sound := h.sound
  rows := h.rows
  created := h.created
  distinct := h.distinct
  tasks q := by
    rcases eq_or_ne q p with rfl | hq
    · simp only [Senders.setTask, update_self]
      exact Holds.task ht _
    · simp only [Senders.setTask, update_of_ne hq]
      exact Holds.task (h.tasks q) _
  alone q r n hq hr := by
    simp only [Senders.setTask, update_apply] at hq hr
    split_ifs at hq hr with hqp hrp hrp
    · rw [hqp, hrp]
    · exact absurd hr (hp n hq r)
    · exact absurd hq (hp n hr q)
    · exact h.alone q r n hq hr
  arrived := h.arrived
  order := h.order

/-- The envelopes that a process delivers. Every other process goes on with what it has. -/
lemma Good.deliver (h : s.Good) (p : P) (new : List Arrival) (lock : Option P)
    (hlock : ∀ q, q ≠ p → s.lock = some q → lock = some q)
    (ht : t.Holds { s with lock, arrived := s.arrived ++ new } p) (hp : ∀ n, t ≠ .progress n)
    (hothers : ∀ q, q ≠ p → ∀ a ∈ new, ¬ (s.task q).Owns a) (hfrom : ∀ a ∈ new, a.From s)
    (horder : ∀ b ∈ s.arrived, ∀ a ∈ new, InOrder b a) (hone : new.Pairwise InOrder) :
    ({ s.setTask p t with lock, arrived := s.arrived ++ new } : Senders P).Good where
  counter := h.counter
  sound := h.sound
  rows := h.rows
  created := h.created
  distinct := h.distinct
  tasks q := by
    rcases eq_or_ne q p with rfl | hq
    · simp only [Senders.setTask, update_self]
      exact Holds.task ht _
    · simp only [Senders.setTask, update_of_ne hq]
      have hold := (h.tasks q).mono [] (hothers q hq)
      cases hs : s.task q <;> rw [hs] at hold
      · trivial
      · simpa [Task.Holds] using hold
      · exact ⟨hlock q hq hold.1, hold.2⟩
      · exact hold
  alone q r n hq hr := by
    simp only [Senders.setTask, update_apply] at hq hr
    split_ifs at hq hr with hqp hrp hrp
    · exact absurd hq (hp n)
    · exact absurd hq (hp n)
    · exact absurd hr (hp n)
    · exact h.alone q r n hq hr
  arrived a ha := by
    have hmem : a.From s := by
      rcases mem_append.mp ha with ha | ha
      · exact h.arrived a ha
      · exact hfrom a ha
    cases a <;> exact hmem
  order := pairwise_append.mpr ⟨h.order, hone, horder⟩

lemma Good.relock (h : s.Good) (p : P) {lock : Option P}
    (hlock : ∀ q, q ≠ p → s.lock = some q → lock = some q) (ht : t.Holds { s with lock } p)
    (hp : ∀ n, t ≠ .progress n) : ({ s.setTask p t with lock } : Senders P).Good := by
  have hnone := h.deliver p [] lock hlock (by rwa [append_nil]) hp nofun nofun nofun .nil
  rw [append_nil] at hnone
  exact hnone

omit [DecidableEq P] in
lemma holds_ofPhase {ph : Phase} (h : PhaseSent s.created ph) : (Task.ofPhase ph).Holds s p := by
  cases ph <;> trivial

omit [DecidableEq P] in
/-- The dispatcher has posted this envelope before, or nobody has posted its number. -/
lemma Good.inOrder_outbox (h : s.Good) (hb : b ∈ s.arrived) {text : Text}
    (hsent : Sent s.created n text) : InOrder b (.outbox n text) := by
  obtain ⟨e, he, rfl, rfl⟩ := hsent
  have hnap := h.created e he
  have hfrom := h.arrived b hb
  rintro hn
  cases b with
  | payload | progress => cases hn; exact nomatch h.allocator_eq hfrom hnap
  | outbox =>
    cases hn
    obtain ⟨e', he', hseq, rfl⟩ := hfrom
    rw [h.distinct e' he' e he hseq]

lemma Good.drainStep (h : s.Good) {ph : Phase} (hp : s.task p = .drain ph) (sha : Sha256)
    (cfg : Config) {env : Env} (hnap : ∀ e ∈ ph.creates env, (.nap, e.sequence) ∈ s.allocated)
    (hnew : ∀ e ∈ ph.creates env, ∀ e' ∈ s.created, e'.sequence ≠ e.sequence) (reached : Bool) :
    (s.drainStep sha p ph cfg env reached).Good := by
  have hph : PhaseSent s.created ph := by simpa only [hp, Task.Holds] using h.tasks p
  have hrows := rowSent_step sha cfg env h.sound hph h.rows
  have hphase := phaseSent_step sha cfg env h.sound hph h.rows
  have hone : ∀ e ∈ ph.creates env, ∀ e' ∈ ph.creates env, e = e' := by
    rcases ph.creates_cases env with hc | ⟨e, hc⟩ <;> simp [hc]
  have hmid := h.outbox _ (ph.step_sound h.sound) (fun r hr => (hrows r hr).mono) hone hnap hnew
  have hsent : ∀ a ∈ reaches reached ph, ∃ n text, a = .outbox n text ∧ Sent s.created n text := by
    intro a ha
    obtain ⟨job, message, rfl, rfl⟩ := mem_reaches ha
    exact ⟨_, _, rfl, hph⟩
  refine hmid.deliver p _ _ (fun _ _ hq => hq) (holds_ofPhase hphase) ?_ ?_ ?_ ?_ ?_
  · intro n
    cases (ph.step sha cfg env s.db).2 <;> exact nofun
  · intro q _ a ha
    obtain ⟨n, text, rfl, -⟩ := hsent a ha
    cases s.task q with
    | lease m delivered => cases delivered <;> exact nofun
    | _ => exact nofun
  · intro a ha
    obtain ⟨n, text, rfl, hs⟩ := hsent a ha
    exact hs.mono
  · intro b hb a ha
    obtain ⟨n, text, rfl, hs⟩ := hsent a ha
    exact hmid.inOrder_outbox hb hs.mono
  · unfold reaches
    split
    · split
      · exact pairwise_singleton _ _
      · exact .nil
    · exact .nil

/-- `next_sequence` is not called on the last value. -/
def Counts (s : Senders P) : Action P → Prop
  | .allocate _ => ¬ Allocator.Wraps .upgrade s.disk
  | _ => True

lemma Good.step_drain (h : s.Good) (sha : Sha256) (p : P) (cfg : Config) (env : Env)
    (reached : Bool) : (s.step sha (.drain p cfg env reached)).Good := by
  simp only [step]
  split
  swap
  · exact h
  next ph hp =>
  split_ifs with hnone hlock
  · -- the allocator is not called, and no envelope is created
    have hcreates : ph.creates env = [] := by
      rw [← Phase.map_sequence_creates, map_eq_nil_iff] at hnone
      exact hnone
    exact h.drainStep hp sha cfg (by simp [hcreates]) (by simp [hcreates]) reached
  · rcases h.take hlock (a := .nap) (fun hw => nomatch hw.1) with
      ⟨f, htake, hgood⟩ | ⟨f, n, htake, hgood, hlt⟩
    · rw [htake]
      exact hgood
    · rw [htake]
      have hseq : ∀ e ∈ ph.creates { env with sequence := .ok n }, e.sequence = n := by
        intro e he
        have hmem := mem_map_of_mem (f := Envelope.sequence) he
        rw [Phase.map_sequence_creates] at hmem
        exact (Except.ok.inj (Phase.mem_allocates hmem)).symm
      refine hgood.drainStep hp sha cfg (fun e he => ?_) (fun e he e' he' => ?_) reached
      · rw [hseq e he]
        exact mem_append_right _ (mem_singleton_self _)
      · rw [hseq e he]
        exact (hlt _ (h.created e' he')).ne
  · exact h

section

variable (h : s.Good)
include h

omit [DecidableEq P] in
lemma Good.not_arrived (hlt : ∀ u ∈ s.allocated, u.2 < n)
    (ha : a ∈ s.arrived) : a.sequence ≠ n := by
  have hmem := h.arrived_allocated ha
  exact (hlt _ hmem).ne

lemma Good.step_lease (sha : Sha256) (p : P) : (s.step sha (.lease p)).Good := by
  simp only [step]
  split
  swap
  · exact h
  next htask hlock =>
  rcases h.take hlock (a := .lease) (fun hw => nomatch hw.1) with
    ⟨f, htake, hgood⟩ | ⟨f, n, htake, hgood, hlt⟩
  · rw [htake]
    exact hgood
  · rw [htake]
    refine hgood.relock p (fun q _ hq => nomatch hlock.symm.trans hq) ⟨rfl, ?_, ?_, ?_⟩ nofun
    · exact mem_append_right _ (mem_singleton_self _)
    · intro u hu
      rcases mem_append.mp hu with hu | hu
      · exact (hlt u hu).le
      · rw [mem_singleton.mp hu]
    · intro _ hmem
      exact h.not_arrived hlt hmem rfl

lemma Good.step_deliver (sha : Sha256) (p : P) : (s.step sha (.deliver p)).Good := by
  simp only [step]
  split
  swap
  · exact h
  next n htask =>
  have hp := h.tasks p
  rw [htask] at hp
  obtain ⟨hlock, hmem, hmax, hnot⟩ := hp
  refine h.deliver p [.payload n] s.lock (fun _ _ hq => hq) ⟨hlock, hmem, hmax, nofun⟩ nofun
    (fun q hq a ha hown => ?_) (fun a ha => ?_) (fun b hb a ha => ?_) (pairwise_singleton _ _)
  · -- nobody else is about to deliver a payload
    obtain rfl := mem_singleton.mp ha
    have hq' := h.tasks q
    cases ht : s.task q with
    | lease =>
      rw [ht, Task.Holds, hlock] at hq'
      exact hq (Option.some.inj hq'.1).symm
    | progress | idle | drain => rw [ht] at hown; cases hown
  · obtain rfl := mem_singleton.mp ha
    exact hmem
  · obtain rfl := mem_singleton.mp ha
    have hb' := h.arrived_allocated hb
    refine lt_of_le_of_ne (hmax _ hb') fun heq => ?_
    have halloc := h.allocator_eq (heq ▸ hb') hmem
    cases b with
    | payload => cases heq; exact hnot rfl hb
    | progress | outbox => cases halloc

lemma Good.step_report (sha : Sha256) (p : P) (reached : Bool) :
    (s.step sha (.report p reached)).Good := by
  simp only [step]
  split
  swap
  · exact h
  next n htask =>
  have hp := h.tasks p
  rw [htask] at hp
  obtain ⟨hmem, hnot⟩ := hp
  have hone : ∀ a ∈ if reached then [Arrival.progress n] else [], a = .progress n := by
    cases reached <;> simp
  refine h.deliver p _ s.lock (fun _ _ hq => hq) trivial nofun (fun q hq a ha hown => ?_)
    (fun a ha => ?_) (fun b hb a ha => ?_) ?_
  · obtain rfl := hone a ha
    cases ht : s.task q with
    | lease m delivered => rw [ht] at hown; cases delivered <;> cases hown
    | progress =>
      rw [ht] at hown
      cases hown
      exact hq (h.alone q p n ht htask)
    | idle | drain => rw [ht] at hown; cases hown
  · obtain rfl := hone a ha
    exact hmem
  · obtain rfl := hone a ha
    rintro heq
    have halloc := h.allocator_eq (heq ▸ h.arrived_allocated hb) hmem
    cases b with
    | progress => cases heq; exact hnot hb
    | payload | outbox => cases halloc
  · cases reached <;> simp

lemma Good.step_allocate (sha : Sha256) (p : P)
    (hw : ¬ Allocator.Wraps .upgrade s.disk) : (s.step sha (.allocate p)).Good := by
  simp only [step]
  split
  swap
  · exact h
  next htask hlock =>
  rcases h.take hlock hw with ⟨f, htake, hgood⟩ | ⟨f, n, htake, hgood, hlt⟩
  · rw [htake]
    exact hgood
  · rw [htake]
    refine hgood.setTask p ⟨?_, fun hmem => h.not_arrived hlt hmem rfl⟩ fun m hm q hq => ?_
    · exact mem_append_right _ (mem_singleton_self _)
    · cases hm
      have hold := h.tasks q
      rw [show s.task q = .progress n from hq] at hold
      exact (hlt _ hold.1).ne rfl

lemma Good.step (sha : Sha256) {a : Action P} (ha : s.Counts a) :
    (s.step sha a).Good := by
  cases a with
  | start p =>
    simp only [Senders.step]
    split
    · exact h.setTask p trivial nofun
    · exact h
  | drain p cfg env reached => exact h.step_drain sha p cfg env reached
  | lease p => exact h.step_lease sha p
  | deliver p => exact h.step_deliver sha p
  | release p =>
    simp only [Senders.step]
    split
    · next n delivered htask =>
      have hp := h.tasks p
      rw [htask] at hp
      exact h.relock p (fun q hq hq' => absurd (hq'.symm.trans hp.1) (by simpa using hq)) trivial nofun
    · exact h
  | allocate p => exact h.step_allocate sha p ha
  | report p reached => exact h.step_report sha p reached
  | crash p =>
    refine h.relock p (fun q hq hq' => ?_) trivial nofun
    rw [if_neg (by rw [hq']; simpa using hq), hq']
  | enqueue cfg x now o =>
    have hc := (Operation.enqueue cfg x now).change sha o h.sound
    have hrows := rowSent_change hc h.rows fun _ _ hst => hst.elim
    have hnone := h.outbox [] (hc.sound h.sound) (by simpa using hrows) nofun nofun nofun
    rw [append_nil] at hnone
    exact hnone

end

def start (f : Disk) : Senders P := ⟨f, .initial, none, fun _ => .idle, [], [], []⟩

omit [DecidableEq P] in
lemma good_start (f : Disk) : (start f : Senders P).Good where
  counter := ⟨0, World.upTo_start f, .inl rfl⟩
  sound := sound_initial
  rows r hr := absurd hr (Table.not_mem_empty r)
  created := nofun
  distinct := nofun
  tasks _ := trivial
  alone := nofun
  arrived := nofun
  order := .nil

/-- **Order of arrival.** While `next_sequence` is not called on the last value, a
`send_payload` envelope reaches the coordinator with a number larger than that of every
envelope before it, and two envelopes with one number are the same envelope of the outbox,
sent again. -/
theorem arrivals_in_order (sha : Sha256) (f : Disk) (actions : List (Action P))
    (h : Along (step sha) Counts (start f) actions) :
    (run (step sha) (start f) actions).arrived.Pairwise InOrder :=
  (inv_run (fun _ _ hg ha => hg.step sha ha) (good_start f) h).order

/-- A drain of process `false` at a time, with no answer to its post. -/
def lonelyDrain (now : ℕ) : List (Action Bool) :=
  .start false 1 :: List.replicate 7
    (.drain false ⟨"a", 100000⟩ { Drains.calm (.failed []) with now := now } true)

/-- The dispatcher posts the first event and gets no answer, a heartbeat is sent, and the
dispatcher posts its stored attempt again. -/
def overtakenRetry : List (Action Bool) :=
  .enqueue ⟨"a", 100000⟩ (History.lowFinding "p") 5 History.steady :: (lonelyDrain 10 ++
    [.lease true, .deliver true, .release true] ++ lonelyDrain 6000000010)

def enrolledDisk : Disk := fun | .sequence => some "0\n" | _ => none

instance (s : Senders P) : ∀ a, Decidable (s.Counts a)
  | .allocate _ => inferInstanceAs (Decidable (¬ _))
  | .start _ _ | .drain _ _ _ _ | .lease _ | .deliver _ | .release _ | .report _ _ | .crash _
  | .enqueue _ _ _ _ => inferInstanceAs (Decidable True)

theorem arrivals_in_order_retry :
    Along (step fun _ _ => 0) Counts (start enrolledDisk) overtakenRetry ∧
      (run (step fun _ _ => 0) (start enrolledDisk) overtakenRetry).arrived.Pairwise InOrder := by
  have h : Along (step fun _ _ => 0) Counts (start enrolledDisk) overtakenRetry := by
    decide +kernel
  exact ⟨h, arrivals_in_order _ _ _ h⟩

/-- The numbers of the envelopes do not arrive in increasing order. -/
theorem arrivals_not_increasing :
    let s := run (step fun _ _ => 0) (start enrolledDisk) overtakenRetry
    s.arrived.map Arrival.sequence = [1, 2, 1] ∧
      ¬ (s.arrived.map Arrival.sequence).Pairwise (· < ·) := by
  decide +kernel

end Senders

end

end NetaAgent.SendOrder
