import NetaAgent.EventRouter

/-!
The router of the Linux sensor broker over all interleavings of its calls: the account of every
queue, and that a slot sees nothing of the calls of other slots.
-/

namespace NetaAgent.SensorBroker

open Decimal PackedRecord Interleaving Function EventRouter

/-! ### What one slot sees -/

/-- The routers have the same endpoints, and this slot has the same queues in both. -/
structure SameFor (slot : Text) (s t : EventRouter) : Prop where
  queueCapacity : s.queueCapacity = t.queueCapacity
  slotFor : s.slotFor = t.slotFor
  present : ∀ other, (s.queues other).isSome = (t.queues other).isSome
  queues : s.queues slot = t.queues slot

/-- A call that may be of this slot: it does not take the frames of another one. -/
def Call.Own (slot : Text) : Call → Prop
  | .take other _ => other = slot
  | .pop other _ => other = slot
  | _ => True

section
variable {slot : Text} {s t : EventRouter}

section

variable (h : SameFor slot s t)
include h

variable (other : Text)

lemma SameFor.refusal (netnsInode cgroupId : UInt64) :
    s.refusal other netnsInode cgroupId = t.refusal other netnsInode cgroupId := by
  unfold EventRouter.refusal
  rw [h.present, h.slotFor]

lemma SameFor.add (keys : EventKind → UInt64) :
    SameFor slot (s.add other keys) (t.add other keys) := by
  refine ⟨h.queueCapacity, ?_, fun u => ?_, ?_⟩
  · show s.addedKeys other keys = t.addedKeys other keys
    unfold addedKeys
    rw [h.slotFor]
  · show (s.addedQueues other u).isSome = (t.addedQueues other u).isSome
    unfold addedQueues
    by_cases hu : u = other
    · rw [hu, update_self, update_self, Option.isSome_some, Option.isSome_some]
    · rw [update_of_ne hu, update_of_ne hu, h.present]
  · show s.addedQueues other slot = t.addedQueues other slot
    unfold addedQueues
    by_cases hu : slot = other
    · rw [hu, update_self, update_self, h.queueCapacity]
    · rw [update_of_ne hu, update_of_ne hu, h.queues]

lemma SameFor.modify (kind : EventKind) (f : BoundedQueue Bytes → BoundedQueue Bytes) :
    SameFor slot (s.modify other kind f) (t.modify other kind f) := by
  refine ⟨h.queueCapacity, h.slotFor, fun u => ?_, ?_⟩
  · exact (s.isSome_modifiedQueues ..).trans
      ((h.present u).trans (t.isSome_modifiedQueues ..).symm)
  · show s.modifiedQueues other kind f slot = t.modifiedQueues other kind f slot
    unfold modifiedQueues
    by_cases hu : slot = other
    · rw [← hu, update_self, update_self, h.queues]
    · rw [update_of_ne hu, update_of_ne hu, h.queues]

lemma SameFor.modify_other {other : Text} (hne : other ≠ slot)
    (kind : EventKind) (f : BoundedQueue Bytes → BoundedQueue Bytes) :
    SameFor slot (s.modify other kind f) t where
  queueCapacity := h.queueCapacity
  slotFor := h.slotFor
  present u := (s.isSome_modifiedQueues ..).trans (h.present u)
  queues := (update_of_ne hne.symm ..).trans h.queues

lemma SameFor.count (n : UInt64) : SameFor slot { s with unroutable := n } t :=
  ⟨h.queueCapacity, h.slotFor, h.present, h.queues⟩

end

lemma blind (slot : Text) : Blind Call.advance (SameFor slot) (Call.Own slot) := by
  intro p s t hown h
  cases p with
  | register other netnsInode cgroupId =>
    simp only [Call.advance, ← h.refusal]
    split_ifs
    · exact ⟨rfl, trivial, h⟩
    · cases s.refusal other netnsInode cgroupId with
      | none => exact ⟨rfl, trivial, h.add other _⟩
      | some => exact ⟨rfl, trivial, h⟩
  | slotFor kind key =>
    simp only [Call.advance, ← h.slotFor]
    refine ⟨trivial, ?_, h⟩
    cases s.slotFor kind key <;> trivial
  | queueFor =>
    simp only [Call.advance, ← h.present]
    refine ⟨trivial, ?_, h⟩
    split <;> trivial
  | push => exact ⟨rfl, trivial, h.modify ..⟩
  | countUnroutable => exact ⟨rfl, trivial, h.queueCapacity, h.slotFor, h.present, h.queues⟩
  | take =>
    simp only [Call.advance, ← h.present]
    refine ⟨trivial, ?_, h⟩
    split
    · exact hown
    · trivial
  | pop other =>
    obtain rfl : other = slot := hown
    simp only [Call.advance, front, h.queues]
    exact ⟨trivial, trivial, h.modify ..⟩
  | ended => exact ⟨rfl, trivial, h⟩

/-- A call of another slot: an event whose key is not one of this slot, or a `take` elsewhere. -/
def Operation.Elsewhere (s : EventRouter) (slot : Text) : Operation → Prop
  | .routeLifecycle event _ =>
    ∀ inode, event.networkNamespaceInode = some inode → s.slotFor .lifecycle inode ≠ some slot
  | .routeProcessExec event _ =>
    ∀ cgroup, event.cgroupId = some cgroup → s.slotFor .processExec cgroup ≠ some slot
  | .take other _ => other ≠ slot
  | .registerEndpoint .. => False

variable {op : Operation} {o : ByteOrder}

lemma Operation.Elsewhere.not_sends (h : op.Elsewhere s slot)
    {kind : EventKind} {frame : Bytes} : ¬ op.Sends o s slot kind frame := by
  rintro ⟨key, hroutes, hslot⟩
  cases op with
  | registerEndpoint => exact h
  | take => exact hroutes
  | routeLifecycle | routeProcessExec =>
    obtain ⟨rfl, hkey, -⟩ := hroutes
    exact h key hkey hslot

lemma hidden_of_elsewhere {p : Call} {u : EventRouter}
    (helse : op.Elsewhere u slot) (hknows : op.Knows o p s) (hsu : s.Extends u)
    (h : SameFor slot s t) : SameFor slot (p.advance s).2 t := by
  cases p with
  | register other netnsInode cgroupId =>
    obtain rfl : op = .registerEndpoint other netnsInode cgroupId := hknows
    exact helse.elim
  | push other kind =>
    refine h.modify_other ?_ kind _
    rintro rfl
    exact helse.not_sends (hknows.1.mono hsu)
  | pop other kind =>
    obtain rfl : op = .take other kind := hknows
    exact h.modify_other helse kind _
  | countUnroutable => exact h.count _
  | slotFor | queueFor | take | ended => exact h

end

/-! ### All interleavings -/

/-- The calls before their first step, on a new router. -/
def initial {ι : Type} (o : ByteOrder) (capacity : ℕ) (ops : ι → Operation) : Pool ι Call EventRouter :=
  ⟨fun i => (ops i).call o, .new capacity⟩

section
variable {ι : Type} [DecidableEq ι] (o : ByteOrder) (capacity : ℕ) (ops : ι → Operation)

def interleaved (w : List ι) : Pool ι Call EventRouter :=
  Run.run (Pool.step Call.advance) (initial o capacity ops) w

omit [DecidableEq ι] in
lemma filled_new : Filled o ops (.new capacity) := by
  refine ⟨fun slot e he => ?_, fun slot e he => ?_⟩
  · cases he
  · cases he

lemma alone {slot : Text} {A : ι → Bool} {ops' : ι → Operation} {w : List ι}
    (hown : ∀ i, A i = true → ops i = ops' i ∧ ((ops i).call o).Own slot)
    (helse : ∀ i, A i = false → (ops i).Elsewhere (interleaved o capacity ops w).shared slot) :
    Alike (SameFor slot) (Call.Own slot) A (interleaved o capacity ops w)
      (interleaved o capacity ops' (w.filter A)) := by
  refine Alike.run (cooperative o ops) (blind slot) (fun i p s t hi hknows hend h => ?_)
    (fun i => knows_call (ops i) _) ⟨fun i hi => ?_, fun i hi => (hown i hi).2, rfl, rfl, fun _ => rfl, rfl⟩
  · exact hidden_of_elsewhere (helse i hi) hknows hend h
  · simp only [initial, (hown i hi).1]

end

/-- The slot is new in the first router, and the second has it beside all that the first has: both
its queues, empty, and a mapping for each key that is not 0. -/
structure Registered (s t : EventRouter) (slot : Text) (keys : EventKind → UInt64) : Prop where
  fresh : s.queues slot = none
  queues : t.queues slot = some fun _ => .new s.queueCapacity
  others : ∀ other ≠ slot, t.queues other = s.queues other
  mapped : ∀ kind, keys kind ≠ 0 →
    s.slotFor kind (keys kind) = none ∧ t.slotFor kind (keys kind) = some slot
  otherKeys : ∀ kind key, key ≠ keys kind ∨ key = 0 → t.slotFor kind key = s.slotFor kind key
  queueCapacity : t.queueCapacity = s.queueCapacity
  unroutable : t.unroutable = s.unroutable

lemma registered_add {s : EventRouter} {slot : Text} {netnsInode cgroupId : UInt64}
    (h : s.refusal slot netnsInode cgroupId = none) :
    Registered s (s.add slot (keys netnsInode cgroupId)) slot
      (keys netnsInode cgroupId) := by
  obtain ⟨hslot, hkeys⟩ := refusal_none h
  refine ⟨hslot, update_self .., fun other hother => update_of_ne hother ..,
    fun kind hkey => ⟨hkeys kind hkey, if_pos ⟨hkey, rfl⟩⟩, fun kind key hkey => if_neg ?_, rfl, rfl⟩
  rintro ⟨hnonzero, hsame⟩
  rcases hkey with hkey | hkey
  · exact hkey hsame
  · exact hnonzero hkey

/-- **The router, for every interleaving of its calls.**

The account of each queue is balanced: what was pushed is, in order, what has left it and what is in
it; what has left was taken or counted as dropped; and no more than its capacity is in it. Every
frame of a queue is the encoding of an event whose key is mapped to the slot. A registration is all
or nothing, and no call uses a queue that is not there. The frame that a `take` ends with is the one
that is added to the taken frames of its queue. And for two runs with the same calls for a
slot in the same order, beside any calls of other slots, the slot has the same queues and its calls
end alike. -/
theorem router_interleavings (o : ByteOrder) (capacity : ℕ) {ι : Type} [DecidableEq ι]
    (ops : ι → Operation) (w : List ι) :
    (∀ slot e, (interleaved o capacity ops w).shared.queues slot = some e → ∀ kind,
      Balanced (e kind).pushed (e kind).taken (e kind).queue (e kind).dropped ∧
      (e kind).queue.length ≤ max 1 capacity ∧
      ∀ frame ∈ (e kind).pushed,
        ∃ i, (ops i).Sends o (interleaved o capacity ops w).shared slot kind frame) ∧
    (∀ i, (interleaved o capacity ops w).procs i ≠ .ended .nullQueue) ∧
    (∀ s slot netnsInode cgroupId,
      (∃ text, Call.advance (.register slot netnsInode cgroupId) s = (.ended (.threw text), s)) ∨
        ∃ t, Call.advance (.register slot netnsInode cgroupId) s = (.ended .registered, t) ∧
          Registered s t slot (EventRouter.keys netnsInode cgroupId)) ∧
    (∀ (s t : EventRouter) slot kind e outcome, s.queues slot = some e →
      Call.advance (.pop slot kind) s = (.ended outcome, t) →
      ∃ frame e', outcome = .taken frame ∧ t.queues slot = some e' ∧
        (e' kind).taken = (e kind).taken ++ frame.toList) ∧
    ∀ (slot : Text) (A : ι → Bool) (ops' : ι → Operation) (w' : List ι),
      (∀ i, A i = true → ops i = ops' i ∧ ((ops i).call o).Own slot) →
      (∀ i, A i = false → (ops i).Elsewhere (interleaved o capacity ops w).shared slot ∧
        (ops' i).Elsewhere (interleaved o capacity ops' w').shared slot) →
      w.filter A = w'.filter A →
      (interleaved o capacity ops w).shared.queues slot =
          (interleaved o capacity ops' w').shared.queues slot ∧
        ∀ i, A i = true → (interleaved o capacity ops w).procs i =
          (interleaved o capacity ops' w').procs i := by
  obtain ⟨hknows, hext, hfilled⟩ := (cooperative o ops).run
    (c := initial o capacity ops) (I := Filled o ops) (fun _ _ _ hknows h => h.advance hknows)
    (fun i => knows_call (ops i) _) (filled_new o capacity ops) w
  refine ⟨fun slot e he kind => ?_, fun i hnull => ?_, fun s slot netnsInode cgroupId => ?_,
    fun s t slot kind e outcome he hpop => ?_, fun slot A ops' w' hown helse hsched => ?_⟩
  · have hcapacity := (hfilled.capacity slot e he kind).trans
      (congrArg (max 1) hext.queueCapacity)
    exact ⟨(e kind).balanced, hcapacity ▸ (e kind).bounded, hfilled.sent slot e he kind⟩
  · have hi : (ops i).Knows o ((interleaved o capacity ops w).procs i) _ := hknows i
    rw [hnull] at hi
    exact hi rfl
  · rcases advance_register s slot netnsInode cgroupId with hthrew | ⟨hnew, hs⟩
    · exact .inl hthrew
    · exact .inr ⟨_, hs, registered_add hnew⟩
  · cases hpop
    exact ⟨_, _, rfl, queues_modify he, by rw [update_self, front_eq he]; rfl⟩
  · -- each run is compared with the calls of the slot alone
    have halike := alone o capacity ops hown fun i hi => (helse i hi).1
    have hown' : ∀ i, A i = true → ops' i = ops' i ∧ ((ops' i).call o).Own slot := fun i hi =>
      ⟨rfl, (hown i hi).1 ▸ (hown i hi).2⟩
    have halike' := alone o capacity ops' hown' fun i hi => (helse i hi).2
    rw [← hsched] at halike'
    refine ⟨halike.shared.queues.trans halike'.shared.queues.symm, fun i hi => ?_⟩
    rw [halike.procs i hi, halike'.procs i hi]

/-- An endpoint, one event of its network namespace and one `take` of its frame, beside a call of
another slot. -/
inductive SampleCall where
  | endpoint
  | event
  | take
  | other
  deriving DecidableEq

def sampleCalls (other : Operation) : SampleCall → Operation
  | .endpoint => .registerEndpoint ['a'] 5 0
  | .event => .routeLifecycle { networkNamespaceInode := some 5 } 7
  | .take => .take ['a'] .lifecycle
  | .other => other

theorem router_interleavings_sample :
    let frame := encodeLifecycle .little 7 { networkNamespaceInode := some 5 }
    let c := interleaved .little 1 (sampleCalls (.routeLifecycle {} 8))
      [.endpoint, .event, .other, .event, .event, .take, .take]
    let c' := interleaved .little 1 (sampleCalls (.take ['b'] .lifecycle))
      [.other, .endpoint, .event, .event, .event, .take, .take]
    c.procs .take = c'.procs .take ∧ c.procs .take = .ended (.taken (some frame)) ∧
      c.shared.unroutable = 1 ∧ c'.shared.unroutable = 0 := by
  intro frame c c'
  have hsame := (router_interleavings .little 1 (sampleCalls (.routeLifecycle {} 8))
    [.endpoint, .event, .other, .event, .event, .take, .take]).2.2.2.2
    ['a'] (fun i => i ≠ .other) (sampleCalls (.take ['b'] .lifecycle))
    [.other, .endpoint, .event, .event, .event, .take, .take] (fun i hi => ?_) (fun i hi => ?_) rfl
  · exact ⟨hsame.2 .take rfl, rfl, rfl, rfl⟩
  · cases i with
    | endpoint | event => exact ⟨rfl, trivial⟩
    | take => exact ⟨rfl, rfl⟩
    | other => cases hi
  · obtain rfl : i = .other := by simpa using hi
    constructor
    · intro inode h
      cases h
    · show ['b'] ≠ ['a']
      decide

end NetaAgent.SensorBroker
