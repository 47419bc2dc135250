import NetaAgent.Decimal
import NetaAgent.Run
import NetaAgent.Table
import Mathlib.Data.List.Sort

/-!
The graph of processes that is kept in memory: its nodes by process instance, the active ones by
pid, and the order of insertion, in which nodes are evicted.

The hash maps have no order of their own. A snapshot is sorted by start and pid, and the nodes
that agree in both come in an order that is not specified (`Arrangement`).
-/

namespace NetaAgent.Processes

open Decimal Table List

inductive EventType where
  | start
  | exit
  deriving DecidableEq

/-- `cgroup_id` is not read here. -/
structure ProcessExecEvent where
  type : EventType := .start
  timestampNs : ℕ := 0
  pid : Option ℤ := none
  tgid : Option ℤ := none
  parentPid : Option ℤ := none
  parentTgid : Option ℤ := none
  uid : Option ℕ := none
  gid : Option ℕ := none
  processStartTimeNs : Option ℕ := none
  platformProcessKey : Option ℕ := none
  parentProcessStartTimeNs : Option ℕ := none
  parentPlatformProcessKey : Option ℕ := none
  sessionId : Option ℕ := none
  userIdentity : Text := []
  integrityLevel : Text := []
  elevated : Option Bool := none
  exitCode : Option ℤ := none
  comm : Text := []
  executablePath : Text := []
  commandLine : Text := []
  workingDirectory : Text := []

structure ProcessInstanceKey where
  pid : ℤ := 0
  startTimeNs : Option ℕ := none
  platformKey : Option ℕ := none
  deriving DecidableEq

def ProcessInstanceKey.durable (k : ProcessInstanceKey) : Bool :=
  0 < k.pid && (k.platformKey.isSome || k.startTimeNs.isSome)

structure ProcessNode where
  key : ProcessInstanceKey
  parent : Option ProcessInstanceKey := none
  parentPid : Option ℤ := none
  uid : Option ℕ := none
  gid : Option ℕ := none
  sessionId : Option ℕ := none
  userIdentity : Text := []
  integrityLevel : Text := []
  elevated : Option Bool := none
  comm : Text := []
  executablePath : Text := []
  commandLine : Text := []
  workingDirectory : Text := []
  startedAtNs : ℕ := 0
  exitedAtNs : Option ℕ := none
  exitCode : Option ℤ := none

structure ProcessGraphHealth where
  rejectedWithoutStableIdentity : ℕ := 0
  ambiguousParentLinks : ℕ := 0
  rejectedInvalidParentLinks : ℕ := 0
  ambiguousExitEvents : ℕ := 0
  evictedNodes : ℕ := 0

structure ProcessGraph where
  maxNodes : ℕ := 32768
  nodes : Table ProcessNode.key := .empty
  activeByPid : List ProcessInstanceKey := []
  insertionOrder : List ProcessInstanceKey := []
  health : ProcessGraphHealth := {}

/-- The identity of a process: its native key, or else its start. -/
def instanceKey (pid : ℤ) (platformKey startTimeNs : Option ℕ) : ProcessInstanceKey where
  pid
  platformKey
  startTimeNs := if platformKey.isNone then startTimeNs else none

variable (event : ProcessExecEvent) (nodes : List ProcessNode)

def keyFrom : Option ProcessInstanceKey := do
  let tgid ← event.tgid
  if tgid ≤ 0 then none
  else
    let key := instanceKey tgid event.platformProcessKey event.processStartTimeNs
    if key.durable then some key else none

namespace ProcessGraph

variable (g : ProcessGraph) (event : ProcessExecEvent) (key : ProcessInstanceKey) (node : ProcessNode)

def activeKeys (pid : ℤ) : List ProcessInstanceKey :=
  g.activeByPid.filter fun k => k.pid = pid

def uniqueActiveKeyForPid (pid : ℤ) : Option ProcessInstanceKey :=
  match g.activeKeys pid with
  | [key] => some key
  | _ => none

/-- The loop of `evict_if_needed` over the order of insertion. -/
def evict : List ProcessInstanceKey → ProcessGraph → ProcessGraph
  | [], g => { g with insertionOrder := [] }
  | oldest :: rest, g =>
    if g.nodes.rows.length < g.maxNodes then { g with insertionOrder := oldest :: rest }
    else
      match g.nodes.find oldest with
      | none => evict rest g
      | some node =>
        evict rest { g with
          nodes := g.nodes.delete fun n => n.key = oldest
          activeByPid :=
            if node.exitedAtNs.isNone then g.activeByPid.erase oldest else g.activeByPid
          health := { g.health with evictedNodes := g.health.evictedNodes + 1 } }

def evictIfNeeded : ProcessGraph := evict g.insertionOrder g

/-- The process that the event names as the parent; where several active ones have its pid, this
is counted. -/
def resolveParent (parentTgid : ℤ) : Option ProcessInstanceKey × ProcessGraphHealth :=
  let key := instanceKey parentTgid event.parentPlatformProcessKey event.parentProcessStartTimeNs
  if key.durable then (some key, g.health)
  else
    match g.uniqueActiveKeyForPid parentTgid with
    | some key => (some key, g.health)
    | none =>
      (none, if g.activeKeys parentTgid = [] then g.health
        else { g.health with ambiguousParentLinks := g.health.ambiguousParentLinks + 1 })

/-- When the parent was started, as far as it is known. -/
def parentStart (parent : ProcessInstanceKey) : Option ℕ :=
  event.parentProcessStartTimeNs.or <|
    match g.nodes.find parent with
    | some node => if node.startedAtNs = 0 then none else some node.startedAtNs
    | none => none

def childStart : Option ℕ :=
  event.processStartTimeNs.or
    (if event.timestampNs = 0 then none else some event.timestampNs)

def startsLater (parent child : Option ℕ) : Bool :=
  match parent, child with
  | some p, some c => c < p
  | _, _ => false

/-- The link to the parent, unless the parent started later than the child. -/
def linkParent : Option ProcessInstanceKey × ProcessGraphHealth :=
  match event.parentTgid with
  | none => (none, g.health)
  | some parentTgid =>
    if parentTgid ≤ 0 then (none, g.health)
    else
      match g.resolveParent event parentTgid with
      | (none, health) => (none, health)
      | (some parent, health) =>
        if startsLater (g.parentStart event parent) (childStart event) then
          (none, { health with rejectedInvalidParentLinks := health.rejectedInvalidParentLinks + 1 })
        else (some parent, health)

def newNode (parent : Option ProcessInstanceKey) : ProcessNode where
  key
  parent
  parentPid := event.parentTgid.or event.parentPid
  uid := event.uid
  gid := event.gid
  sessionId := event.sessionId
  userIdentity := event.userIdentity
  integrityLevel := event.integrityLevel
  elevated := event.elevated
  comm := event.comm
  executablePath := event.executablePath
  commandLine := event.commandLine
  workingDirectory := event.workingDirectory
  startedAtNs := event.timestampNs

/-- The node of a process that is known, after another start event. -/
def renewed : ProcessNode :=
  { node with
    uid := event.uid
    gid := event.gid
    sessionId := event.sessionId
    userIdentity := event.userIdentity
    integrityLevel := event.integrityLevel
    elevated := event.elevated
    comm := event.comm
    executablePath := event.executablePath
    commandLine := event.commandLine
    workingDirectory := event.workingDirectory }

lemma renewed_key : (renewed event node).key = node.key := rfl

def exited : ProcessNode :=
  { node with exitedAtNs := some event.timestampNs, exitCode := event.exitCode }

lemma exited_key : (exited event node).key = node.key := rfl

def observeExit : Bool × ProcessGraph :=
  match g.nodes.find key with
  | none => (false, g)
  | some _ =>
    (true, { g with
      nodes := g.nodes.update (fun n => n.key = key) (exited event) (exited_key event)
      activeByPid := g.activeByPid.erase key })

def observeStart : Bool × ProcessGraph :=
  match g.nodes.find key with
  | some _ =>
    (true, { g with
      nodes := g.nodes.update (fun n => n.key = key) (renewed event) (renewed_key event) })
  | none =>
    let g := g.evictIfNeeded
    let (parent, health) := g.linkParent event
    match g.nodes.insert (newNode event key parent) with
    | none => (false, { g with health })
    | some nodes =>
      (true, { g with
        nodes
        insertionOrder := g.insertionOrder ++ [key]
        activeByPid := key :: g.activeByPid
        health })

def observeKey : Bool × ProcessGraph :=
  match event.type with
  | .exit => g.observeExit event key
  | .start => g.observeStart event key

def rejected : Bool × ProcessGraph :=
  (false, { g with health :=
    { g.health with
      rejectedWithoutStableIdentity := g.health.rejectedWithoutStableIdentity + 1 } })

/-- `ProcessGraph::observe`. An exit event without an identity is one of the only active process
with its pid. -/
def observe : Bool × ProcessGraph :=
  match keyFrom event with
  | some key => g.observeKey event key
  | none =>
    match event.type, event.tgid with
    | .exit, some tgid =>
      if 0 < tgid then
        match g.uniqueActiveKeyForPid tgid with
        | some key => g.observeKey event key
        | none =>
          (false, { g with health :=
            { g.health with ambiguousExitEvents := g.health.ambiguousExitEvents + 1 } })
      else g.rejected
    | _, _ => g.rejected

end ProcessGraph

/-! ### Snapshots -/

def earlier (a b : ProcessNode) : Prop :=
  a.startedAtNs < b.startedAtNs ∨ a.startedAtNs = b.startedAtNs ∧ a.key.pid ≤ b.key.pid

instance (a b : ProcessNode) : Decidable (earlier a b) :=
  inferInstanceAs (Decidable (_ ∨ _))

structure Arrangement where
  arrange : List ProcessNode → List ProcessNode
  perm : ∀ l, (arrange l).Perm l
  sorted : ∀ l, (arrange l).Pairwise earlier

def ProcessGraph.snapshot (arrangement : Arrangement) (g : ProcessGraph) : List ProcessNode :=
  arrangement.arrange g.nodes.rows

variable {n : ProcessNode}

lemma ProcessGraph.mem_snapshot {arrangement : Arrangement} {g : ProcessGraph} :
    n ∈ g.snapshot arrangement ↔ n ∈ g.nodes := (arrangement.perm _).mem_iff

instance : Std.Total earlier :=
  ⟨fun a b => by unfold earlier; omega⟩

instance : IsTrans ProcessNode earlier :=
  ⟨fun a b c hab hbc => by unfold earlier at *; omega⟩

def stableArrangement : Arrangement where
  arrange l := l.insertionSort earlier
  perm l := List.perm_insertionSort earlier l
  sorted l := List.pairwise_insertionSort earlier l

def nodeForEvent : Option ProcessNode :=
  let pid := event.tgid.getD (event.pid.getD 0)
  if pid ≤ 0 then none
  else nodes.find? fun node => node.key.pid = pid &&
    ((event.platformProcessKey.isSome && node.key.platformKey = event.platformProcessKey) ||
      (event.processStartTimeNs.isSome && node.key.startTimeNs = event.processStartTimeNs) ||
      (event.type = .exit && node.exitedAtNs = some event.timestampNs))

def findProcessNode (key : ProcessInstanceKey) : Option ProcessNode :=
  nodes.find? fun node => node.key = key

variable {nodes : List ProcessNode}

lemma mem_of_nodeForEvent {event : ProcessExecEvent}
    (h : nodeForEvent event nodes = some n) : n ∈ nodes := by
  unfold nodeForEvent at h
  dsimp only at h
  split at h
  · cases h
  · exact mem_of_find?_eq_some h

lemma mem_of_findProcessNode {key : ProcessInstanceKey}
    (h : findProcessNode nodes key = some n) : n ∈ nodes := mem_of_find?_eq_some h

/-! ### What an event adds to the graph -/

namespace ProcessGraph
variable {g : ProcessGraph} {event : ProcessExecEvent} {n : ProcessNode}

lemma mem_evict {keys : List ProcessInstanceKey} (h : n ∈ (evict keys g).nodes) : n ∈ g.nodes := by
  induction keys generalizing g with
  | nil => exact h
  | cons oldest rest ih =>
    unfold evict at h
    split at h
    · exact h
    · split at h
      · exact ih h
      · exact (mem_delete.mp (ih h)).1

variable {key : ProcessInstanceKey}

lemma observeExit_keys
    (hn : n ∈ (g.observeExit event key).2.nodes) : ∃ m ∈ g.nodes, m.key = n.key := by
  unfold observeExit at hn
  split at hn
  · exact ⟨n, hn, rfl⟩
  · obtain ⟨m, hm, rfl⟩ := (@mem_update _ _ _ _ _ _ (exited_key event) _).mp hn
    refine ⟨m, hm, ?_⟩
    split <;> rfl

lemma observeStart_keys (hn : n ∈ (g.observeStart event key).2.nodes) :
    (∃ m ∈ g.nodes, m.key = n.key) ∨
      ((g.observeStart event key).1 = true ∧ g.nodes.find key = none ∧ n.key = key) := by
  unfold observeStart at hn ⊢
  split at hn
  · obtain ⟨m, hm, rfl⟩ := (@mem_update _ _ _ _ _ _ (renewed_key event) _).mp hn
    refine .inl ⟨m, hm, ?_⟩
    split <;> rfl
  · next hfind =>
    dsimp only at hn
    split at hn
    · exact .inl ⟨n, mem_evict hn, rfl⟩
    · next hinsert =>
      rcases (mem_insert hinsert).mp hn with hold | rfl
      · exact .inl ⟨n, mem_evict hold, rfl⟩
      · refine .inr ⟨?_, hfind, rfl⟩
        simp only [hinsert]

/-- An event without an identity is only counted, unless it is the exit of the only active process
with its pid. -/
lemma observe_cases (g : ProcessGraph) (event : ProcessExecEvent) :
    (∃ health, g.observe event = (false, { g with health }) ∧ keyFrom event = none ∧
        health.rejectedInvalidParentLinks = g.health.rejectedInvalidParentLinks) ∨
      (∃ key, event.type = .exit ∧ g.observe event = g.observeExit event key) ∨
      ∃ key, event.type = .start ∧ keyFrom event = some key ∧
        g.observe event = g.observeStart event key := by
  unfold observe observeKey rejected
  cases hkey : keyFrom event with
  | some key =>
    cases htype : event.type with
    | exit => exact .inr (.inl ⟨key, rfl, rfl⟩)
    | start => exact .inr (.inr ⟨key, rfl, rfl, rfl⟩)
  | none =>
    dsimp only
    split
    · next htype _ =>
      rw [htype]
      split_ifs
      · split
        · exact .inr (.inl ⟨_, rfl, rfl⟩)
        · exact .inl ⟨_, rfl, rfl, rfl⟩
      · exact .inl ⟨_, rfl, rfl, rfl⟩
    · exact .inl ⟨_, rfl, rfl, rfl⟩

/-- **What an event adds.** Every process of the graph was there before, or it is the one that a
start event identifies, and the event is accepted. -/
lemma observe_keys (hn : n ∈ (g.observe event).2.nodes) :
    (∃ m ∈ g.nodes, m.key = n.key) ∨
      ((g.observe event).1 = true ∧ event.type = .start ∧ keyFrom event = some n.key) := by
  rcases g.observe_cases event with ⟨_, h, -⟩ | ⟨key, -, h⟩ | ⟨key, htype, hkey, h⟩ <;>
    rw [h] at hn ⊢
  · exact .inl ⟨n, hn, rfl⟩
  · exact .inl (observeExit_keys hn)
  · rcases observeStart_keys hn with hold | ⟨haccepted, -, rfl⟩
    · exact .inl hold
    · exact .inr ⟨haccepted, htype, hkey⟩

end ProcessGraph

/-! ### Links to the parent -/

/-- When each process was created and by which one, as it really was. -/
structure Ancestry where
  created : ProcessInstanceKey → ℕ
  parent : ProcessInstanceKey → Option ProcessInstanceKey
  created_lt : ∀ k, ∀ p ∈ parent k, created p < created k

/-- A start event says nothing false: it may leave times out, and it may come late. -/
def Truthful (a : Ancestry) (event : ProcessExecEvent) : Prop :=
  event.type = .start → ∀ key ∈ keyFrom event,
    (∀ t ∈ event.processStartTimeNs, t = a.created key) ∧ a.created key ≤ event.timestampNs ∧
      ∀ p ∈ a.parent key, ∀ t ∈ event.parentProcessStartTimeNs, t = a.created p

namespace ProcessGraph

variable (g : ProcessGraph) (event : ProcessExecEvent)

/-- The link that a start event asks for: the process, which is new, and the resolved parent. -/
def link : Option (ProcessInstanceKey × ProcessInstanceKey) := do
  let key ← keyFrom event
  let tgid ← event.parentTgid
  if event.type = .start ∧ g.nodes.find key = none ∧ 0 < tgid then
    let parent ← (g.evictIfNeeded.resolveParent event tgid).1
    some (key, parent)
  else none

/-- The event is truthful, and the parent it resolves to is the true one. -/
def Faithful (a : Ancestry) (g : ProcessGraph) (event : ProcessExecEvent) : Prop :=
  Truthful a event ∧ ∀ l ∈ g.link event, a.parent l.1 = some l.2

/-- Where the event does not say when the parent was created, the graph heard of the parent no
later than the child was created (than the event, if that is not known either). -/
def HeardInTime : Prop :=
  ∀ l ∈ g.link event, event.parentProcessStartTimeNs = none →
    ∀ node ∈ g.evictIfNeeded.nodes.find l.2,
      node.startedAtNs ≤ event.processStartTimeNs.getD event.timestampNs

def rejectedLinks : ℕ := g.health.rejectedInvalidParentLinks

variable {g : ProcessGraph} {event : ProcessExecEvent} {a : Ancestry}

lemma rejectedLinks_evict (keys : List ProcessInstanceKey) :
    (evict keys g).rejectedLinks = g.rejectedLinks := by
  fun_induction evict keys g <;> simp_all [rejectedLinks]

/-- The link asked for is one from a child to a parent that seems to have started later. -/
def linkRejected (g : ProcessGraph) (event : ProcessExecEvent) : Bool :=
  (g.link event).any fun l =>
    startsLater (g.evictIfNeeded.parentStart event l.2) (childStart event)

lemma rejectedLinks_linkParent {key : ProcessInstanceKey} (hstart : event.type = .start)
    (hkey : keyFrom event = some key) (hnew : g.nodes.find key = none) :
    (g.evictIfNeeded.linkParent event).2.rejectedInvalidParentLinks =
      g.rejectedLinks + (g.linkRejected event).toNat := by
  rw [← rejectedLinks_evict g.insertionOrder, ← evictIfNeeded]
  unfold linkRejected link linkParent
  rw [hkey]
  cases htgid : event.parentTgid with
  | none => simp [rejectedLinks]
  | some tgid =>
    by_cases hpos : 0 < tgid
    · have hresolved : (g.evictIfNeeded.resolveParent event tgid).2.rejectedInvalidParentLinks =
          g.evictIfNeeded.rejectedLinks := by
        unfold resolveParent
        dsimp only
        split
        · rfl
        · split
          · rfl
          · dsimp only
            split <;> rfl
      rcases hr : g.evictIfNeeded.resolveParent event tgid with ⟨_ | parent, health⟩
      · simp_all [hpos.not_ge]
      · by_cases hlater : startsLater (g.evictIfNeeded.parentStart event parent) (childStart event)
        <;> simp_all [hpos.not_ge]
    · simp [hpos, not_lt.mp hpos, rejectedLinks]

lemma rejectedLinks_observe :
    (g.observe event).2.rejectedLinks = g.rejectedLinks + (g.linkRejected event).toNat := by
  have hnone : g.link event = none → g.rejectedLinks =
      g.rejectedLinks + (g.linkRejected event).toNat := by
    intro h
    simp [linkRejected, h]
  rcases g.observe_cases event with ⟨_, h, hkey, hsame⟩ | ⟨key, htype, h⟩ | ⟨key, htype, hkey, h⟩ <;>
    rw [h]
  · exact hsame.trans (hnone (by simp [link, hkey]))
  · refine Eq.trans ?_ (hnone (by simp [link, htype]))
    unfold observeExit
    split <;> rfl
  · unfold observeStart
    split
    · next hfind => exact hnone (by simp [link, hkey, hfind])
    · next hfind =>
      have hlink := rejectedLinks_linkParent htype hkey hfind
      dsimp only
      split <;> exact hlink

lemma of_mem_link {l : ProcessInstanceKey × ProcessInstanceKey} (h : g.link event = some l) :
    event.type = .start ∧ keyFrom event = some l.1 := by
  simp only [link, Option.bind_eq_bind, Option.bind_eq_some_iff] at h
  obtain ⟨key, hkey, tgid, -, h⟩ := h
  split_ifs at h with hcond
  obtain ⟨parent, -, h⟩ := Option.bind_eq_some_iff.mp h
  cases h
  exact ⟨hcond.1, hkey⟩

/-- A link to the true parent is rejected exactly where the graph heard of the parent too late. -/
lemma linkRejected_iff (h : g.Faithful a event) :
    g.linkRejected event = false ↔ g.HeardInTime event := by
  unfold linkRejected HeardInTime
  cases hlink : g.link event with
  | none => simp
  | some l =>
    obtain ⟨hstart, hkey⟩ := of_mem_link hlink
    obtain ⟨hchild, hstamp, hparent⟩ := h.1 hstart _ hkey
    have htrue := h.2 l hlink
    have hlt := a.created_lt _ _ htrue
    -- the time taken for the child is not before its creation
    have hle : a.created l.1 ≤ event.processStartTimeNs.getD event.timestampNs := by
      cases ht : event.processStartTimeNs with
      | none => exact hstamp
      | some t => exact (hchild t ht).ge
    have hstarted : childStart event = some (event.processStartTimeNs.getD event.timestampNs) := by
      have : event.timestampNs ≠ 0 := by omega
      cases ht : event.processStartTimeNs <;> simp [childStart, ht, this]
    rw [hstarted, Option.any_some, parentStart]
    cases hp : event.parentProcessStartTimeNs with
    | some t =>
      have := hparent _ htrue t hp
      simp [startsLater]
      omega
    | none =>
      cases hfind : g.evictIfNeeded.nodes.find l.2 with
      | none => simp [startsLater, hfind]
      | some node => by_cases hzero : node.startedAtNs = 0 <;> simp [startsLater, hfind, hzero]

def next (g : ProcessGraph) (event : ProcessExecEvent) : ProcessGraph := (g.observe event).2

/-- **Links to true parents are rejected.** The counter of rejected links stays 0 exactly in the
runs in which the graph hears of every parent in time. -/
theorem rejectedLinks_run (a : Ancestry) (maxNodes : ℕ) (events : List ProcessExecEvent)
    (h : Run.Along next (Faithful a) { maxNodes } events) :
    (Run.run next { maxNodes } events).rejectedLinks = 0 ↔
      Run.Along next HeardInTime { maxNodes } events := by
  have hrun : ∀ g : ProcessGraph, Run.Along next (Faithful a) g events →
      g.rejectedLinks ≤ (Run.run next g events).rejectedLinks ∧
        ((Run.run next g events).rejectedLinks = g.rejectedLinks ↔
          Run.Along next HeardInTime g events) := by
    clear h
    induction events with
    | nil => exact fun g _ => ⟨le_rfl, iff_of_true rfl trivial⟩
    | cons event rest ih =>
      rintro g ⟨hfaithful, hrest⟩
      obtain ⟨hle, hiff⟩ := ih (g.next event) hrest
      have hstep : (g.next event).rejectedLinks = _ := rejectedLinks_observe
      have hheard := linkRejected_iff hfaithful
      rw [Run.Along, ← hheard, ← hiff]
      change _ ≤ (Run.run next (g.next event) rest).rejectedLinks ∧
        ((Run.run next (g.next event) rest).rejectedLinks = _ ↔ _)
      cases hr : g.linkRejected event <;> rw [hr] at hstep <;> simp_all
      omega
  exact (hrun _ h).2

/-- A process that is created at 10, and its child, at 50. -/
def family : Ancestry where
  created k := if k.pid = 1 then 10 else 50
  parent k := if k.pid = 2 then some ⟨1, some 10, none⟩ else none
  created_lt k p := by
    intro h
    split at h
    · next hk => cases h; simp [hk]
    · cases h

/-- The start of the parent, reported at `stamp`, and then the start of the child. -/
def reports (stamp : ℕ) : List ProcessExecEvent :=
  [{ type := .start, tgid := some 1, processStartTimeNs := some 10, timestampNs := stamp },
    { type := .start, tgid := some 2, processStartTimeNs := some 50, timestampNs := 110
      parentTgid := some 1 }]

lemma faithful_reports {stamp : ℕ} (h : 10 ≤ stamp) :
    Run.Along next (Faithful family) { maxNodes := 8 } (reports stamp) := by
  refine ⟨⟨?_, ?_⟩, ⟨?_, ?_⟩, trivial⟩
  · rintro - key hkey
    cases hkey
    exact ⟨fun t ht => by cases ht; rfl, h, fun p hp => by cases hp⟩
  · exact fun l hl => by cases hl
  · rintro - key hkey
    cases hkey
    exact ⟨fun t ht => by cases ht; rfl, by decide, fun p _ t ht => by cases ht⟩
  · rintro l hl
    cases hl
    rfl

theorem rejectedLinks_prompt_report :
    (Run.run next { maxNodes := 8 } (reports 20)).rejectedLinks = 0 := by
  refine (rejectedLinks_run family 8 (reports 20) (faithful_reports (by decide))).mpr
    ⟨fun l hl => ?_, fun l hl _ node hnode => ?_, trivial⟩
  · cases hl
  · cases hl
    cases hnode
    decide

/-- The parent is reported after the child was created, and the link is rejected. -/
theorem late_report_rejected :
    ¬ ∀ (a : Ancestry) (maxNodes : ℕ) (events : List ProcessExecEvent),
      Run.Along next (Faithful a) { maxNodes } events →
        (Run.run next { maxNodes } events).rejectedLinks = 0 := fun hall =>
  absurd (hall family 8 (reports 100) (faithful_reports (by decide))) (by decide)

/-! ### The containers -/

def Running (nodes : Table ProcessNode.key) (k : ProcessInstanceKey) : Prop :=
  ∃ n ∈ nodes, n.key = k ∧ n.exitedAtNs = none

/-- The nodes stand in the order of insertion, and those without an exit are indexed. -/
structure Indexed (nodes : Table ProcessNode.key) (order active : List ProcessInstanceKey) :
    Prop where
  order : order = nodes.rows.map ProcessNode.key
  nodup : active.Nodup
  active : ∀ k, k ∈ active ↔ Running nodes k

abbrev Agrees (g : ProcessGraph) : Prop := Indexed g.nodes g.insertionOrder g.activeByPid

section Indexed

variable {nodes nodes' : Table ProcessNode.key} {order active : List ProcessInstanceKey}
  {key : ProcessInstanceKey}

/-- The index is right again once the key of a process that is gone or has exited is erased. -/
lemma Indexed.erase (h : Indexed nodes order active)
    (hgone : ∀ k, Running nodes' k ↔ k ≠ key ∧ Running nodes k) :
    Indexed nodes' (nodes'.rows.map ProcessNode.key) (active.erase key) :=
  ⟨rfl, h.nodup.erase _, fun k => by rw [h.nodup.mem_erase_iff, h.active, hgone]⟩

/-- Capacity enforcement makes room for one node. -/
lemma Indexed.evict (h : Indexed g.nodes order g.activeByPid) (hmax : 0 < g.maxNodes) :
    let g' := evict order g
    g'.Agrees ∧ g'.nodes.rows.length < g.maxNodes ∧ g'.maxNodes = g.maxNodes := by
  induction order generalizing g with
  | nil =>
    have hempty : g.nodes.rows = [] := map_eq_nil_iff.mp h.order.symm
    exact ⟨h, by rwa [evict, hempty], rfl⟩
  | cons oldest rest ih =>
    obtain ⟨node, rows, hrows, rfl, rfl⟩ := map_eq_cons_iff.mp h.order.symm
    have hnode : node ∈ g.nodes := by rw [mem_def, hrows]; exact mem_cons_self
    -- the node is the first row, and no other row has its key
    have hdelete : (g.nodes.delete fun n => n.key = node.key).rows = rows := by
      have hnodup := g.nodes.nodup
      rw [hrows, map_cons, nodup_cons] at hnodup
      simp only [delete, hrows, decide_true, Bool.not_true, Bool.false_eq_true,
        not_false_eq_true, filter_cons_of_neg, filter_eq_self]
      intro n hn
      simpa using fun hk : n.key = node.key => hnodup.1 (hk ▸ mem_map_of_mem hn)
    have hgone : ∀ k, Running (g.nodes.delete fun n => n.key = node.key) k ↔
        k ≠ node.key ∧ Running g.nodes k := by
      simp only [Running, mem_delete, decide_eq_false_iff_not]
      grind
    unfold evict
    split_ifs with hroom
    · exact ⟨h, hroom, rfl⟩
    rw [find_eq_some.mpr ⟨hnode, rfl⟩]
    refine ih ?_ hmax
    rw [← hdelete]
    split_ifs with hexit
    · exact h.erase hgone
    · refine ⟨rfl, h.nodup, fun k => ?_⟩
      rw [hgone, h.active]
      refine ⟨fun hk => ⟨?_, hk⟩, And.right⟩
      rintro rfl
      obtain ⟨n, hn, hkey, hnone⟩ := hk
      rw [eq_of_key_eq hn hnode hkey] at hnone
      simp [hnone] at hexit

lemma Agrees.next (h : g.Agrees) (hmax : 0 < g.maxNodes) (hle : g.nodes.rows.length ≤ g.maxNodes) :
    let g' := g.next event
    g'.Agrees ∧ g'.nodes.rows.length ≤ g'.maxNodes ∧ g'.maxNodes = g.maxNodes := by
  have hupdate : ∀ p f hf, (g.nodes.update p f hf).rows.length ≤ g.maxNodes ∧
      g.insertionOrder = (g.nodes.update p f hf).rows.map ProcessNode.key := by
    intro p f hf
    refine ⟨by simpa [Table.update] using hle, ?_⟩
    rw [h.order, Table.update, List.map_map]
    refine List.map_congr_left fun n _ => ?_
    by_cases hp : p n <;> simp [hp, hf]
  unfold ProcessGraph.next
  rcases g.observe_cases event with ⟨_, ho, -⟩ | ⟨key, -, ho⟩ | ⟨key, -, -, ho⟩ <;> rw [ho]
  · exact ⟨h, hle, rfl⟩
  · unfold observeExit
    split
    · exact ⟨h, hle, rfl⟩
    · obtain ⟨hle', horder⟩ := hupdate (fun n => n.key = key) (exited event) (exited_key event)
      refine ⟨horder ▸ h.erase fun k => ?_, hle', rfl⟩
      simp only [Running, Table.mem_update, decide_eq_true_eq]
      grind [exited]
  · unfold observeStart
    split
    · obtain ⟨hle', horder⟩ := hupdate (fun n => n.key = key) (renewed event) (renewed_key event)
      refine ⟨⟨horder, h.nodup, fun k => ?_⟩, hle', rfl⟩
      rw [h.active]
      simp only [Running, Table.mem_update, decide_eq_true_eq]
      grind [renewed]
    · next hnew =>
      obtain ⟨hg, hlt, hsame⟩ := h.evict hmax
      rw [← evictIfNeeded] at hg hlt hsame
      have hmissing : ∀ n ∈ g.evictIfNeeded.nodes, n.key ≠ key := fun n hn =>
        Table.find_eq_none.mp hnew n (mem_evict hn)
      dsimp only
      split
      · exact ⟨hg, hsame ▸ hlt.le, hsame⟩
      · next nodes hinsert =>
        have hrows := Table.insert_rows hinsert
        refine ⟨⟨by simp [hrows, hg.order, newNode], ?_, fun k => ?_⟩, ?_, hsame⟩
        · refine List.nodup_cons.mpr ⟨fun hk => ?_, hg.nodup⟩
          obtain ⟨n, hn, hkey, -⟩ := (hg.active key).mp hk
          exact hmissing n hn hkey
        · rw [List.mem_cons, hg.active]
          simp only [Running, Table.mem_insert hinsert, or_and_right, exists_or, exists_eq_left]
          simp [newNode, or_comm, eq_comm]
        · simpa [hrows, hsame] using Nat.succ_le_of_lt hlt

end Indexed

/-- **The containers agree.** After any events the graph has at most `N` nodes, the order of
insertion has the key of each node once, and the index of active processes that of each node without
an exit. -/
theorem graph_containers_agree (N : ℕ) (hN : 0 < N) (events : List ProcessExecEvent) :
    let g := Run.run next { maxNodes := N } events
    g.nodes.rows.length ≤ N ∧
      (g.insertionOrder.Nodup ∧ ∀ k, k ∈ g.insertionOrder ↔ ∃ n ∈ g.nodes, n.key = k) ∧
      g.activeByPid.Nodup ∧
        ∀ k, k ∈ g.activeByPid ↔ ∃ n ∈ g.nodes, n.key = k ∧ n.exitedAtNs = none := by
  obtain ⟨h, hle, hmax⟩ := @Run.inv_run_all _ _ next { maxNodes := N }
    (fun g => g.Agrees ∧ g.nodes.rows.length ≤ g.maxNodes ∧ g.maxNodes = N)
    (by
      rintro g e ⟨h, hle, hmax⟩
      obtain ⟨h', hle', hsame⟩ := h.next (hmax ▸ hN) hle
      exact ⟨h', hle', hsame.trans hmax⟩)
    ⟨⟨rfl, nodup_nil, fun k => by simp [Running]⟩, Nat.zero_le _, rfl⟩ events
  refine ⟨hle.trans hmax.le, ⟨?_, fun k => ?_⟩, h.nodup, h.active⟩ <;> rw [h.order]
  · exact nodup _
  · rw [mem_map]
    rfl

/-- The second start evicts the first process, and the second process exits. -/
theorem graph_containers_agree_evicted :
    let g := Run.run next { maxNodes := 1 } (reports 20 ++ [{ type := .exit, tgid := some 2 }])
    g.nodes.rows.length ≤ 1 ∧ g.insertionOrder = [⟨2, some 50, none⟩] ∧ g.activeByPid = [] :=
  ⟨(graph_containers_agree 1 one_pos _).1, by decide, by decide⟩

end ProcessGraph

end NetaAgent.Processes
