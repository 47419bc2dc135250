import NetaAgent.BrokerWire
import NetaAgent.Decimal

/-!
The registry of the Windows sensor broker that says to which endpoint a process belongs.

An endpoint is registered with the PID of its root process. What the registry knows is kept by PID:
a process that starts gets the slot of its parent, an unknown PID is looked up along the parents of a
process snapshot, and all PIDs on the way are remembered. An exit removes a PID, unless it is a root.
-/

namespace NetaAgent.ProcessRegistry

open Decimal PackedRecord SensorBroker Function

structure Ownership where
  slot : Text
  processKey : Option UInt64 := none
  root : Bool := false

structure Registry where
  roots : UInt32 → Option Text := fun _ => none
  owners : UInt32 → Option Ownership := fun _ => none

abbrev Parents := UInt32 → Option UInt32

namespace Registry
variable (r : Registry) (parents : Parents) (pid : UInt32) (o : Ownership)

def own : Registry :=
  { r with owners := Function.update r.owners pid (some o) }

lemma own_self : (r.own pid o).owners pid = some o := update_self ..

lemma own_of_ne {pid p : UInt32} (h : p ≠ pid) :
    (r.own pid o).owners p = r.owners p := update_of_ne h ..

def registerEndpoint (slot : Text) (rootPid : UInt32) : Except Text Registry :=
  if slot = [] ∨ rootPid = 0 then
    .error "Windows broker mapping requires non-empty slot and non-zero root PID"
  else if (r.roots rootPid).any (· ≠ slot) then
    .error "Windows broker root PID is already assigned to another endpoint"
  else .ok (own { r with roots := Function.update r.roots rootPid (some slot) } rootPid
    { slot, root := true })

def known : Option Text := ((r.owners pid).map (·.slot)).or (r.roots pid)

/-- The way up the snapshot: the PIDs on it, and the slot where it ends. A PID that is on the way
already ends it, as do one that is its own parent and the limit of 128. -/
def walk : ℕ → UInt32 → List UInt32 → List UInt32 × Option Text
  | 0, _, path => (path, none)
  | depth + 1, current, path =>
    if current = 0 ∨ current ∈ path then (path, none)
    else match r.known current with
      | some slot => (path ++ [current], some slot)
      | none => match parents current with
        | none => (path ++ [current], none)
        | some parent =>
          if parent = current then (path ++ [current], none)
          else walk depth parent (path ++ [current])

/-- All PIDs of the way get the slot, except the roots. -/
def adopt (slot : Text) (path : List UInt32) : Registry :=
  path.foldl (fun r member => if (r.roots member).isSome then r else r.own member { slot }) r

def resolvePid : Option Text × Registry :=
  if pid = 0 then (none, r)
  else match r.owners pid with
    | some known => (some known.slot, r)
    | none =>
      let found := r.walk parents 128 pid []
      match found.2 with
      | none => (none, r)
      | some slot => (some slot, r.adopt slot found.1)

/-- A PID of an event, if it fits into 32 bits and is not 0. -/
def pidOf (v : Option Int64) : Option UInt32 :=
  v.bind fun n =>
    if n.toInt ≤ 0 ∨ 4294967295 < n.toInt then none else some (UInt32.ofNat n.toInt.toNat)

def isStart (type : EnumValue ProcessExecEventType) : Bool :=
  type.code = (EnumValue.named ProcessExecEventType.start).code

variable (event : ProcessExecEvent)

/-- The slot of the parent, or else of the PID itself. -/
def slotOfStarted : Option Text × Registry :=
  let byParent := (pidOf event.parentPid).elim (none, r) (r.resolvePid parents)
  if byParent.1.isSome then byParent else byParent.2.resolvePid parents pid

def observeStart : Option Text × Registry :=
  let found := r.slotOfStarted parents pid event
  (found.1, found.1.elim found.2 fun slot => found.2.own pid
    { slot, processKey := event.platformProcessKey, root := (found.2.roots pid).isSome })

/-- Keys that are both there tell two processes of one PID apart. -/
def sameInstance (key other : Option UInt64) : Bool := key.isNone || other.isNone || key = other

def release (key : Option UInt64) : Registry :=
  if (r.owners pid).any fun o => !o.root && sameInstance key o.processKey then
    { r with owners := Function.update r.owners pid none }
  else r

def observeExit : Option Text × Registry :=
  let found := (r.owners pid).elim (r.resolvePid parents pid) fun o => (some o.slot, r)
  (found.1, found.1.elim found.2 fun _ => found.2.release pid event.platformProcessKey)

def observe : Option Text × Registry :=
  (pidOf event.pid).elim (none, r) fun pid =>
    if isStart event.type then r.observeStart parents pid event
    else r.observeExit parents pid event

end Registry

/-! ### What the registry can come to hold -/

section
variable {r : Registry} {parents : Parents} {Owns : UInt32 → Text → Prop} {slot : Text}

/-- `Owns pid slot` holds of all that the registry has. -/
structure Supported (Owns : UInt32 → Text → Prop) (r : Registry) : Prop where
  owners : ∀ pid o, r.owners pid = some o → Owns pid o.slot
  roots : ∀ pid slot, r.roots pid = some slot → Owns pid slot

/-- What holds for a parent PID of a process snapshot holds for the PID. -/
def Inherited (Owns : UInt32 → Text → Prop) (parents : Parents) : Prop :=
  ∀ pid parent slot, parents pid = some parent → Owns parent slot → Owns pid slot

section

variable (h : Supported Owns r)
include h

lemma Supported.known {pid : UInt32} (hknown : r.known pid = some slot) :
    Owns pid slot := by
  unfold Registry.known at hknown
  cases ho : r.owners pid with
  | none =>
    rw [ho] at hknown
    exact h.roots pid slot hknown
  | some o =>
    rw [ho] at hknown
    obtain rfl : o.slot = slot := Option.some.inj hknown
    exact h.owners pid o ho

lemma Supported.imp {Owns' : UInt32 → Text → Prop}
    (himp : ∀ pid slot, r.known pid ≠ none → Owns pid slot → Owns' pid slot) : Supported Owns' r where
  owners pid o ho := himp pid o.slot (by simp [Registry.known, ho]) (h.owners pid o ho)
  roots pid slot hslot := himp pid slot (by simp [Registry.known, hslot]) (h.roots pid slot hslot)

lemma Supported.own {pid : UInt32} {o : Ownership} (ho : Owns pid o.slot) :
    Supported Owns (r.own pid o) where
  owners p o' ho' := by
    by_cases hp : p = pid
    · subst hp
      rw [Registry.own_self] at ho'
      exact Option.some.inj ho' ▸ ho
    · rw [Registry.own_of_ne r o hp] at ho'
      exact h.owners p o' ho'
  roots := h.roots

lemma Supported.adopt {path : List UInt32} (hpath : ∀ pid ∈ path, Owns pid slot) :
    Supported Owns (r.adopt slot path) := by
  induction path generalizing r with
  | nil => exact h
  | cons member path ih =>
    obtain ⟨hmember, hpath⟩ := List.forall_mem_cons.mp hpath
    refine ih ?_ hpath
    dsimp only
    split_ifs
    · exact h
    · exact h.own hmember

lemma walk_owns (hin : Inherited Owns parents) (depth : ℕ) :
    ∀ {current : UInt32} {path : List UInt32}, (r.walk parents depth current path).2 = some slot →
      Owns current slot ∧
        ∀ pid ∈ (r.walk parents depth current path).1, pid ∈ path ∨ Owns pid slot := by
  induction depth with
  | zero =>
    intro current path hw
    cases hw
  | succ depth ih =>
    intro current path hw
    -- a PID of the longer way is on the way before, or is the current one
    have hlast {pid : UInt32} (howns : Owns current slot) (hpid : pid ∈ path ++ [current]) :
        pid ∈ path ∨ Owns pid slot := by
      rcases List.mem_append.mp hpid with hpid | hpid
      · exact .inl hpid
      · exact .inr (List.mem_singleton.mp hpid ▸ howns)
    rw [Registry.walk] at hw ⊢
    split at hw
    · cases hw
    next hcurrent =>
      rw [if_neg hcurrent]
      cases hknown : r.known current with
      | some slot' =>
        rw [hknown] at hw
        obtain rfl : slot' = slot := Option.some.inj hw
        have howns := h.known hknown
        exact ⟨howns, fun pid hpid => hlast howns hpid⟩
      | none =>
        rw [hknown] at hw
        cases hparent : parents current with
        | none =>
          rw [hparent] at hw
          cases hw
        | some parent =>
          rw [hparent] at hw
          simp only at hw ⊢
          split at hw
          · cases hw
          next hne =>
            rw [if_neg hne]
            obtain ⟨hup, hrest⟩ := ih hw
            have howns := hin current parent slot hparent hup
            refine ⟨howns, fun pid hpid => ?_⟩
            rcases hrest pid hpid with hpath | hpid
            · exact hlast howns hpath
            · exact .inr hpid

/-- **What `resolve_pid` finds.** The PID owns the slot, and so does every PID that is remembered. -/
lemma resolvePid_spec (hin : Inherited Owns parents) (pid : UInt32) :
    (∀ slot, (r.resolvePid parents pid).1 = some slot → Owns pid slot) ∧
      Supported Owns (r.resolvePid parents pid).2 := by
  unfold Registry.resolvePid
  split
  · refine ⟨fun slot hslot => ?_, h⟩
    cases hslot
  · cases ho : r.owners pid with
    | some o =>
      refine ⟨fun slot hslot => ?_, h⟩
      obtain rfl : o.slot = slot := Option.some.inj hslot
      exact h.owners pid o ho
    | none =>
      cases hw : (r.walk parents 128 pid []).2 with
      | none =>
        simp only [hw]
        refine ⟨fun slot hslot => ?_, h⟩
        cases hslot
      | some slot =>
        simp only [hw]
        obtain ⟨howns, hpath⟩ := walk_owns h hin 128 hw
        refine ⟨fun slot' hslot' => Option.some.inj hslot' ▸ howns, h.adopt fun p hp => ?_⟩
        rcases hpath p hp with hnil | hp
        · cases hnil
        · exact hp

/-- **What a start is attributed to.** The PID owns the slot, when what the parent PID of the event
owns is the PID's as well. -/
lemma observeStart_spec (hin : Inherited Owns parents) (pid : UInt32)
    (event : ProcessExecEvent) (hparent : ∀ parent slot,
      Registry.pidOf event.parentPid = some parent → Owns parent slot → Owns pid slot) :
    (∀ slot, (r.observeStart parents pid event).1 = some slot → Owns pid slot) ∧
      Supported Owns (r.observeStart parents pid event).2 := by
  have hfirst : (∀ slot, ((Registry.pidOf event.parentPid).elim (none, r)
        (r.resolvePid parents)).1 = some slot → Owns pid slot) ∧ Supported Owns
      ((Registry.pidOf event.parentPid).elim (none, r) (r.resolvePid parents)).2 := by
    cases hp : Registry.pidOf event.parentPid with
    | none =>
      refine ⟨fun slot hslot => ?_, h⟩
      cases hslot
    | some parent =>
      obtain ⟨howns, hext⟩ := resolvePid_spec h hin parent
      exact ⟨fun slot hslot => hparent parent slot hp (howns slot hslot), hext⟩
  have hfound : (∀ slot, (r.slotOfStarted parents pid event).1 = some slot → Owns pid slot) ∧
      Supported Owns (r.slotOfStarted parents pid event).2 := by
    unfold Registry.slotOfStarted
    simp only
    split
    · exact hfirst
    · exact resolvePid_spec hfirst.2 hin pid
  refine ⟨hfound.1, ?_⟩
  rw [Registry.observeStart]
  cases hslot : (r.slotOfStarted parents pid event).1 with
  | none => exact hfound.2
  | some slot => exact hfound.2.own (hfound.1 slot hslot)

lemma Supported.release (pid : UInt32) (key : Option UInt64) :
    Supported Owns (r.release pid key) := by
  unfold Registry.release
  split
  · refine ⟨fun p o ho => ?_, h.roots⟩
    change Function.update r.owners pid none p = some o at ho
    by_cases hp : p = pid
    · rw [hp, update_self] at ho
      cases ho
    · rw [update_of_ne hp] at ho
      exact h.owners p o ho
  · exact h

lemma observeExit_supported (hin : Inherited Owns parents) (pid : UInt32)
    (event : ProcessExecEvent) : Supported Owns (r.observeExit parents pid event).2 := by
  have hfound : Supported Owns
      ((r.owners pid).elim (r.resolvePid parents pid) fun o => (some o.slot, r)).2 := by
    cases r.owners pid with
    | none => exact (resolvePid_spec h hin pid).2
    | some o => exact h
  rw [Registry.observeExit]
  cases ((r.owners pid).elim (r.resolvePid parents pid) fun o => (some o.slot, r)).1 with
  | none => exact hfound
  | some slot => exact hfound.release pid _

lemma registerEndpoint_supported {r' : Registry} {rootPid : UInt32}
    (howns : Owns rootPid slot) (hr : r.registerEndpoint slot rootPid = .ok r') :
    Supported Owns r' := by
  unfold Registry.registerEndpoint at hr
  split at hr
  · cases hr
  · split at hr
    · cases hr
    · cases hr
      have hroots : Supported Owns
          { r with roots := Function.update r.roots rootPid (some slot) } := by
        refine ⟨h.owners, fun pid slot' hslot => ?_⟩
        change Function.update r.roots rootPid (some slot) pid = some slot' at hslot
        by_cases hp : pid = rootPid
        · subst hp
          rw [update_self] at hslot
          exact Option.some.inj hslot ▸ howns
        · rw [update_of_ne hp] at hslot
          exact h.roots pid slot' hslot
      exact hroots.own howns

end

end

end NetaAgent.ProcessRegistry
