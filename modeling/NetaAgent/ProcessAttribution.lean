import NetaAgent.ProcessRegistry
import NetaAgent.Run

/-!
The process registry beside the history of the processes that it follows by their PIDs.

Processes start and exit, and the system gives the PID of one that has exited to another. The
registry observes starts and exits, perhaps late, and sees the living processes of the moment when it
takes a snapshot. A start is to be attributed to a slot only if the process is a root of the slot or
comes from one through its real parents.
-/

namespace NetaAgent.ProcessRegistry

open Decimal PackedRecord SensorBroker List Option Function Registry System

/-! ### Histories -/

/-- A process, as opposed to its PID. `parent` is the process that has started it, if that is part of
the history, and `parentPid` the PID it had then. -/
structure ProcessInstance where
  pid : UInt32
  parentPid : UInt32
  parent : Option ℕ := none
  key : UInt64 := 0

/-- The processes so far, by number, the last one that got each PID, and the roots that each slot
was registered with. -/
structure History where
  processes : List ProcessInstance
  last : UInt32 → Option ℕ
  alive : ℕ → Bool
  rootProcesses : List (Text × ℕ) := []

namespace History
variable (h : History) (pid : UInt32) (p : ProcessInstance)

def living : Option ℕ := (h.last pid).filter h.alive

def started : History :=
  { h with
    processes := h.processes ++ [p]
    last := Function.update h.last p.pid (some h.processes.length)
    alive := Function.update h.alive h.processes.length true }

def exited (i : ℕ) : History := { h with alive := Function.update h.alive i false }

def registered (slot : Text) (pid : UInt32) : History :=
  { h with rootProcesses := (h.living pid).toList.map (slot, ·) ++ h.rootProcesses }

/-- The process snapshot: the parent PID of each living process. -/
def snapshot : Parents := fun pid =>
  (h.living pid).bind fun i => h.processes[i]?.map (·.parentPid)

/-- The process is a root of the slot, or its parent comes from one. -/
inductive Descends (slot : Text) : ℕ → Prop
  | root {i : ℕ} (hi : (slot, i) ∈ h.rootProcesses) : Descends slot i
  | child {i j : ℕ} {p : ProcessInstance} (hi : h.processes[i]? = some p) (hparent : p.parent = some j)
      (hj : Descends slot j) : Descends slot i

def Owns (slot : Text) : Prop := ∃ i, h.last pid = some i ∧ h.Descends slot i

/-- The parent PID of the process is, if it is anyone's, that of its parent. -/
def Sure : Prop := ∀ j ∈ h.last p.parentPid, p.parent = some j

instance (p : ProcessInstance) : Decidable (h.Sure p) :=
  inferInstanceAs (Decidable (∀ j ∈ h.last p.parentPid, p.parent = some j))

end History

structure System where
  history : History
  registry : Registry := {}

inductive Move where
  | start (p : ProcessInstance)
  | exit (i : ℕ)
  /-- The registry observes an event of the process. -/
  | observe (i : ℕ) (event : ProcessExecEvent)
  | resolve (pid : UInt32)
  | register (slot : Text) (rootPid : UInt32)

variable (s : System)

def System.observed (event : ProcessExecEvent) : Option Text × Registry :=
  s.registry.observe s.history.snapshot event

def System.registered (slot : Text) (rootPid : UInt32) : System :=
  match s.registry.registerEndpoint slot rootPid with
  | .error _ => s
  | .ok registry => { s with registry, history := s.history.registered slot rootPid }

def System.step : Move → System
  | .start p => { s with history := s.history.started p }
  | .exit i => { s with history := s.history.exited i }
  | .observe _ event => { s with registry := (s.observed event).2 }
  | .resolve pid => { s with registry := (s.registry.resolvePid s.history.snapshot pid).2 }
  | .register slot rootPid => s.registered slot rootPid

/-- The event of a process: its PID, and its parent PID and its key if the event has them. -/
structure Describes (p : ProcessInstance) (type : ProcessExecEventType) (event : ProcessExecEvent) :
    Prop where
  type : event.type = .named type
  pid : event.pid = some (Int64.ofNat p.pid.toNat)
  parentPid : event.parentPid = none ∨ event.parentPid = some (Int64.ofNat p.parentPid.toNat)
  key : event.platformProcessKey = none ∨ event.platformProcessKey = some p.key

/-- What a system does: a PID is given to one living process at a time, a process is started by a
living one, and the events are those of the processes, an exit after it has happened. PID 0 stands
for no process that comes or goes. -/
def Real : Move → Prop
  | .start p => p.pid ≠ 0 ∧ s.history.living p.pid = none ∧
      ∃ k, p.parent = some k ∧ s.history.living p.parentPid = some k
  | .exit i => s.history.alive i = true
  | .observe i event => ∃ p type, s.history.processes[i]? = some p ∧ p.pid ≠ 0 ∧
      Describes p type event ∧ (type = .start ∨ s.history.alive i = false)
  | _ => True

/-- What the registry takes for granted of PIDs. One that is given to a process is not in the
registry, and is not the parent PID of a living process. A start is observed while the PID and the
parent PID in it still are those of the process and its parent. A root lives when it is registered. -/
def Undisturbed : Move → Prop
  | .start p => s.registry.known p.pid = none ∧
      ∀ i < s.history.processes.length, s.history.alive i = true →
        ∀ q ∈ s.history.processes[i]?, q.parentPid ≠ p.pid
  | .observe i event => Registry.isStart event.type = true → ∀ p ∈ s.history.processes[i]?,
      s.history.last p.pid = some i ∧ s.history.Sure p
  | .register _ rootPid => (s.history.living rootPid).isSome = true
  | _ => True

/-- The processes that live when the registry is made. -/
structure System.Initial (s : System) : Prop where
  alive : ∀ i, s.history.alive i = true ↔ i < s.history.processes.length
  last : ∀ pid i, s.history.last pid = some i ↔
    ∃ p, s.history.processes[i]? = some p ∧ p.pid = pid
  rootProcesses : s.history.rootProcesses = []
  registry : s.registry = {}

def System.Untangled : Prop := ∀ p ∈ s.history.processes, s.history.Sure p

instance (s : System) : Decidable s.Untangled :=
  inferInstanceAs (Decidable (∀ p ∈ s.history.processes, s.history.Sure p))

/-- A start that is attributed to a slot is that of a process of the slot. -/
def Attributed : Move → Prop
  | .observe i event => ∀ slot, Registry.isStart event.type = true →
      (s.observed event).1 = some slot → s.history.Descends slot i
  | _ => True

/-! ### What the registry holds -/

section
variable {h h' : History} {pid : UInt32} {i : ℕ} {p : ProcessInstance}

lemma living_some (hl : h.living pid = some i) : h.last pid = some i ∧ h.alive i = true :=
  filter_eq_some_iff.mp hl

lemma History.Descends.mono {slot : Text} (hd : h.Descends slot i)
    (hp : ∀ (i : ℕ) p, h.processes[i]? = some p → h'.processes[i]? = some p)
    (hroots : ∀ x ∈ h.rootProcesses, x ∈ h'.rootProcesses) : h'.Descends slot i := by
  induction hd with
  | root hi => exact .root (hroots _ hi)
  | child hi hparent _ ih => exact .child (hp _ _ hi) hparent ih

lemma descends_started {slot : Text} (hd : h.Descends slot i) : (h.started p).Descends slot i :=
  hd.mono (fun _ _ hi => (List.getElem?_append_left (List.getElem?_eq_some_iff.mp hi).1).trans hi)
    fun _ hx => hx

lemma started_last (hp : pid ≠ p.pid) : (h.started p).last pid = h.last pid := update_of_ne hp ..

lemma pidOf_toNat {pid : UInt32} (hpid : pid ≠ 0) :
    pidOf (some (Int64.ofNat pid.toNat)) = some pid := by
  have hlt := pid.toNat_lt
  have hpos : pid.toNat ≠ 0 := fun hzero => hpid (UInt32.toNat_inj.mp hzero)
  have hint : (Int64.ofNat pid.toNat).toInt = pid.toNat := Int64.toInt_ofNat_of_lt (by omega)
  have hrange : ¬ ((pid.toNat : ℤ) ≤ 0 ∨ 4294967295 < (pid.toNat : ℤ)) := by omega
  rw [pidOf, bind_some, hint, if_neg hrange, Int.toNat_natCast, UInt32.ofNat_toNat]

lemma pidOf_parentPid {type : ProcessExecEventType} {event : ProcessExecEvent} {parent : UInt32}
    (hd : Describes p type event) (hparent : pidOf event.parentPid = some parent) :
    parent = p.parentPid := by
  have hzero : pidOf (some (Int64.ofNat (0 : UInt32).toNat)) = none := by decide
  rcases hd.parentPid with hnone | hsome
  · rw [hnone] at hparent
    cases hparent
  · rw [hsome] at hparent
    by_cases hp : p.parentPid = 0
    · rw [hp, hzero] at hparent
      cases hparent
    · rw [pidOf_toNat hp] at hparent
      exact (some.inj hparent).symm

end

/-- What is kept: the PIDs in the registry are of the slots they are in it for, and the parent PIDs
of living processes are those of their parents. -/
structure Clean (s : System) : Prop where
  lt : ∀ pid i, s.history.last pid = some i → i < s.history.processes.length
  sure : ∀ pid i p, s.history.living pid = some i → s.history.processes[i]? = some p →
    s.history.Sure p
  supported : Supported s.history.Owns s.registry

section
variable {s : System}

section

variable (h : Clean s)
include h

lemma Clean.inherited : Inherited s.history.Owns s.history.snapshot := by
  rintro pid parent slot hparent ⟨j, hj, hdesc⟩
  obtain ⟨i, hliving, hi⟩ := bind_eq_some_iff.mp hparent
  obtain ⟨p, hp, rfl⟩ := map_eq_some_iff.mp hi
  exact ⟨i, (living_some hliving).1, .child hp (h.sure pid i p hliving hp j hj) hdesc⟩

lemma Clean.start {p : ProcessInstance} (hreal : Real s (.start p))
    (hcalm : Undisturbed s (.start p)) : Clean (s.step (.start p)) := by
  obtain ⟨-, hfree, k, hk, hparent⟩ := hreal
  obtain ⟨hunknown, hparents⟩ := hcalm
  have hne : p.parentPid ≠ p.pid := by
    intro heq
    rw [heq, hfree] at hparent
    cases hparent
  -- a process of another PID keeps its number, and is what it was
  have hother : ∀ {pid i}, pid ≠ p.pid → (s.history.started p).last pid = some i →
      s.history.last pid = some i ∧ i < s.history.processes.length := by
    intro pid i hp hi
    rw [started_last hp] at hi
    exact ⟨hi, h.lt pid i hi⟩
  refine ⟨fun pid i hi => ?_, fun pid i q hliving hq => ?_, h.supported.imp fun pid slot hknown => ?_⟩
  · show i < (s.history.processes ++ [p]).length
    rw [length_append, length_singleton]
    by_cases hp : pid = p.pid
    · have hi : update s.history.last p.pid (some s.history.processes.length) pid = some i := hi
      rw [hp, update_self] at hi
      exact some.inj hi ▸ Nat.lt_succ_self _
    · exact Nat.lt_succ_of_lt (hother hp hi).2
  · obtain ⟨hlast, halive⟩ := living_some hliving
    have hq : (s.history.processes ++ [p])[i]? = some q := hq
    have halive : update s.history.alive s.history.processes.length true i = true := halive
    intro j (hj : (s.history.started p).last q.parentPid = some j)
    by_cases hp : pid = p.pid
    · have hlast : update s.history.last p.pid (some s.history.processes.length) pid =
        some i := hlast
      rw [hp, update_self] at hlast
      obtain rfl := some.inj hlast
      rw [getElem?_concat_length] at hq
      obtain rfl := some.inj hq
      rw [started_last hne, (living_some hparent).1] at hj
      exact hj ▸ hk
    · obtain ⟨hlast, hlt⟩ := hother hp hlast
      rw [getElem?_append_left hlt] at hq
      rw [update_of_ne (Nat.ne_of_lt hlt)] at halive
      rw [started_last (hparents i hlt halive q hq)] at hj
      exact h.sure pid i q (filter_eq_some_iff.mpr ⟨hlast, halive⟩) hq j hj
  · rintro ⟨i, hi, hd⟩
    have hp : pid ≠ p.pid := by
      rintro rfl
      exact hknown hunknown
    exact ⟨i, (started_last hp).trans hi, descends_started hd⟩

lemma Clean.exit (i : ℕ) : Clean (s.step (.exit i)) := by
  refine ⟨h.lt, fun pid j p hliving hp => ?_, h.supported.imp fun pid slot _ => ?_⟩
  · obtain ⟨hlast, halive⟩ := living_some hliving
    have halive : update s.history.alive i false j = true := halive
    by_cases hj : j = i
    · rw [hj, update_self] at halive
      cases halive
    · rw [update_of_ne hj] at halive
      exact h.sure pid j p (filter_eq_some_iff.mpr ⟨hlast, halive⟩) hp
  · rintro ⟨j, hj, hd⟩
    exact ⟨j, hj, hd.mono (fun _ _ hk => hk) fun _ hx => hx⟩

/-- **An observed start.** The slot that is found is one of the process, and nothing else gets into
the registry. -/
lemma Clean.observeStart {i : ℕ} {event : ProcessExecEvent}
    (hreal : Real s (.observe i event)) (hcalm : Undisturbed s (.observe i event))
    (hstart : Registry.isStart event.type = true) :
    (∀ slot, (s.observed event).1 = some slot → s.history.Descends slot i) ∧
      Supported s.history.Owns (s.observed event).2 := by
  obtain ⟨p, type, hp, hnonzero, hd, -⟩ := hreal
  obtain ⟨hlast, hsure⟩ := hcalm hstart p hp
  have hobserved : s.observed event = s.registry.observeStart s.history.snapshot p.pid event := by
    rw [System.observed, Registry.observe, hd.pid, pidOf_toNat hnonzero, elim_some, if_pos hstart]
  obtain ⟨howns, hsupported⟩ := observeStart_spec h.supported h.inherited p.pid event (by
    rintro parent slot hparent ⟨j, hj, hdesc⟩
    rw [pidOf_parentPid hd hparent] at hj
    exact ⟨i, hlast, .child hp (hsure j hj) hdesc⟩)
  rw [hobserved]
  refine ⟨fun slot hslot => ?_, hsupported⟩
  obtain ⟨j, hj, hdesc⟩ := howns slot hslot
  exact Option.some.inj (hj.symm.trans hlast) ▸ hdesc

lemma Clean.observe {i : ℕ} {event : ProcessExecEvent}
    (hreal : Real s (.observe i event)) (hcalm : Undisturbed s (.observe i event)) :
    Clean (s.step (.observe i event)) := by
  refine ⟨h.lt, h.sure, ?_⟩
  by_cases hstart : Registry.isStart event.type = true
  · exact (h.observeStart hreal hcalm hstart).2
  · show Supported s.history.Owns (s.registry.observe s.history.snapshot event).2
    unfold Registry.observe
    cases Registry.pidOf event.pid with
    | none => exact h.supported
    | some pid =>
      rw [elim_some, if_neg hstart]
      exact observeExit_supported h.supported h.inherited pid event

lemma Clean.register (slot : Text) {rootPid : UInt32}
    (hliving : (s.history.living rootPid).isSome = true) :
    Clean (s.step (.register slot rootPid)) := by
  obtain ⟨i, hi⟩ := isSome_iff_exists.mp hliving
  have hsupported : Supported (s.history.registered slot rootPid).Owns s.registry := by
    refine h.supported.imp fun pid t _ => ?_
    rintro ⟨j, hj, hd⟩
    exact ⟨j, hj, hd.mono (fun _ _ hk => hk) fun _ hx => mem_append_right _ hx⟩
  have hroot : (s.history.registered slot rootPid).Owns rootPid slot := by
    refine ⟨i, (living_some hi).1, .root (mem_append_left _ ?_)⟩
    rw [hi]
    exact mem_singleton_self _
  show Clean (s.registered slot rootPid)
  unfold System.registered
  cases hr : s.registry.registerEndpoint slot rootPid with
  | error => exact h
  | ok => exact ⟨h.lt, h.sure, registerEndpoint_supported hsupported hroot hr⟩

lemma Clean.step {m : Move} (hreal : Real s m) (hcalm : Undisturbed s m) :
    Clean (s.step m) ∧ Attributed s m := by
  cases m with
  | start => exact ⟨h.start hreal hcalm, trivial⟩
  | exit i => exact ⟨h.exit i, trivial⟩
  | observe =>
    exact ⟨h.observe hreal hcalm, fun slot hstart hslot =>
      (h.observeStart hreal hcalm hstart).1 slot hslot⟩
  | resolve pid =>
    exact ⟨⟨h.lt, h.sure, (resolvePid_spec h.supported h.inherited pid).2⟩, trivial⟩
  | register slot => exact ⟨h.register slot hcalm, trivial⟩

end

lemma clean_initial (h : s.Initial) (huntangled : s.Untangled) : Clean s := by
  refine ⟨fun pid i hi => ?_, fun pid i p _ hp => ?_, fun pid o ho => ?_, fun pid slot hslot => ?_⟩
  · obtain ⟨p, hp, -⟩ := (h.last pid i).mp hi
    exact (List.getElem?_eq_some_iff.mp hp).1
  · exact huntangled p (mem_of_getElem? hp)
  · rw [h.registry] at ho
    cases ho
  · rw [h.registry] at hslot
    cases hslot

end

/-- **Attribution.** Along every history in which a PID is given to a process only when it is neither
in the registry nor the parent PID of a living process, and starts are observed before their PIDs are
given again, a start is attributed to a slot only if the process is a root of the slot or comes from
one. -/
theorem start_attribution {s : System} {w : List Move} (hinitial : s.Initial)
    (huntangled : s.Untangled) (hreal : Run.Along System.step Real s w)
    (hcalm : Run.Along System.step Undisturbed s w) : Run.Along System.step Attributed s w :=
  Run.along_of_inv (fun _ _ hclean hm => hclean.step hm.1 hm.2)
    (clean_initial hinitial huntangled) (Run.along_and hreal hcalm)

def eventOf (type : ProcessExecEventType) (p : ProcessInstance) : ProcessExecEvent :=
  { type := .named type, pid := some (Int64.ofNat p.pid.toNat)
    parentPid := some (Int64.ofNat p.parentPid.toNat), platformProcessKey := some p.key }

lemma describes_eventOf (p : ProcessInstance) (type : ProcessExecEventType) :
    Describes p type (eventOf type p) := ⟨rfl, rfl, .inr rfl, .inr rfl⟩

def twoProcesses (p q : ProcessInstance) : System where
  history.processes := [p, q]
  history.last pid := if pid = p.pid then some 0 else if pid = q.pid then some 1 else none
  history.alive i := i < 2

lemma initial_twoProcesses {p q : ProcessInstance} (h : p.pid ≠ q.pid) :
    (twoProcesses p q).Initial := by
  refine ⟨fun i => decide_eq_true_iff, fun pid i => ?_, rfl, rfl⟩
  show (if pid = p.pid then some 0 else if pid = q.pid then some 1 else none) = some i ↔
    ∃ x, [p, q][i]? = some x ∧ x.pid = pid
  rcases i with _ | _ | i
  · split_ifs <;> simp_all [eq_comm]
  · split_ifs <;> simp_all [eq_comm]
  · split_ifs <;> simp

/-- A child of a root starts, exits, and leaves its PID to a child of the other process. -/
def reusedChild : List Move :=
  let child : ProcessInstance := ⟨200, 100, some 0, 3⟩
  let other : ProcessInstance := ⟨200, 8, some 1, 4⟩
  [.register ['s'] 100, .start child, .observe 2 (eventOf .start child), .exit 2,
    .observe 2 (eventOf .exit child), .start other, .observe 3 (eventOf .start other)]

theorem start_attribution_reusedChild :
    let s := twoProcesses ⟨100, 48, none, 1⟩ ⟨8, 0, none, 2⟩
    Run.Along System.step Attributed s reusedChild ∧
      ((Run.run System.step s (reusedChild.take 3)).registry.owners 200).isSome = true ∧
      (Run.run System.step s reusedChild).registry.owners 200 = none := by
  intro s
  refine ⟨start_attribution (initial_twoProcesses (by decide)) (by decide) ?_ ?_, rfl, rfl⟩
  · exact ⟨trivial, ⟨by decide, rfl, 0, rfl, rfl⟩,
      ⟨_, _, rfl, by decide, describes_eventOf .., .inl rfl⟩, rfl,
      ⟨_, _, rfl, by decide, describes_eventOf .., .inr rfl⟩, ⟨by decide, rfl, 1, rfl, rfl⟩,
      ⟨_, _, rfl, by decide, describes_eventOf .., .inl rfl⟩, trivial⟩
  · refine ⟨rfl, ⟨rfl, by decide⟩, fun _ p hp => ?_, trivial, fun h => absurd h (by decide),
      ⟨rfl, by decide⟩, fun _ p hp => ?_, trivial⟩
    · cases hp
      exact ⟨rfl, by decide⟩
    · cases hp
      exact ⟨rfl, by decide⟩

/-- A root exits, and its PID goes to a child of the other process. -/
def reusedRoot : List Move :=
  let other : ProcessInstance := ⟨100, 8, some 1, 4⟩
  [.register ['s'] 100, .exit 0, .observe 0 (eventOf .exit ⟨100, 48, none, 1⟩), .start other,
    .observe 2 (eventOf .start other)]

/-- The other process has a parent that is long gone, and a child of the root gets its PID. -/
def reusedParent : List Move :=
  let child : ProcessInstance := ⟨60, 100, some 0, 3⟩
  let other : ProcessInstance := ⟨52, 8, some 1, 4⟩
  [.register ['s'] 100, .start child, .observe 2 (eventOf .start child), .start other,
    .observe 3 (eventOf .start other)]

theorem start_of_another_process :
    let s := twoProcesses ⟨100, 48, none, 1⟩ ⟨8, 0, none, 2⟩
    let t := twoProcesses ⟨100, 48, none, 1⟩ ⟨8, 60, none, 2⟩
    (s.Initial ∧ s.Untangled ∧ Run.Along System.step Real s reusedRoot ∧
      ¬ Run.Along System.step Attributed s reusedRoot) ∧
    t.Initial ∧ t.Untangled ∧ Run.Along System.step Real t reusedParent ∧
      ¬ Run.Along System.step Attributed t reusedParent := by
  intro s t
  refine ⟨⟨initial_twoProcesses (by decide), by decide, ?_, fun h => ?_⟩,
    ⟨initial_twoProcesses (by decide), by decide, ?_, fun h => ?_⟩⟩
  · exact ⟨trivial, rfl, ⟨_, _, rfl, by decide, describes_eventOf .., .inr rfl⟩,
      ⟨by decide, rfl, 1, rfl, rfl⟩, ⟨_, _, rfl, by decide, describes_eventOf .., .inl rfl⟩, trivial⟩
  · -- the root is process 0, and the new process 2 comes from process 1
    cases h.2.2.2.2.1 ['s'] rfl rfl with
    | root hi => exact absurd hi (by decide)
    | child hp hparent hj =>
      cases hp
      cases hparent
      cases hj with
      | root hi => exact absurd hi (by decide)
      | child hp hparent =>
        cases hp
        cases hparent
  · exact ⟨trivial, ⟨by decide, rfl, 0, rfl, rfl⟩,
      ⟨_, _, rfl, by decide, describes_eventOf .., .inl rfl⟩, ⟨by decide, rfl, 1, rfl, rfl⟩,
      ⟨_, _, rfl, by decide, describes_eventOf .., .inl rfl⟩, trivial⟩
  · cases h.2.2.2.2.1 ['s'] rfl rfl with
    | root hi => exact absurd hi (by decide)
    | child hp hparent hj =>
      cases hp
      cases hparent
      cases hj with
      | root hi => exact absurd hi (by decide)
      | child hp hparent =>
        cases hp
        cases hparent

end NetaAgent.ProcessRegistry
