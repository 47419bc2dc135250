import NetaAgent.Observation
import NetaAgent.Run
import NetaAgent.Table

/-!
The Windows lifecycle collector: the connections that ETW has reported and not yet closed, and the
order of their reports, from which the oldest is evicted when there are too many of them.
-/

namespace NetaAgent.Etw

open Decimal Observation

def maxActiveConnections : ℕ := 16384

structure ActiveKey where
  pid : ℕ
  connid : ℕ
  deriving DecidableEq

/-- What a record of ETW says of a connection, and a lifecycle event after it. -/
structure Tuple where
  family : NetworkAddressFamily
  localEndpoint : NetworkEndpoint
  remoteEndpoint : NetworkEndpoint
  processStartTicks : Option ℕ

structure ActiveConnection extends Tuple where
  key : ActiveKey
  generation : ℕ

/-- A TCP record as it is decoded; its process is looked up outside. -/
structure TcpRecord extends Tuple where
  disconnect : Bool
  key : ActiveKey

structure Collector where
  activeConnections : Table ActiveConnection.key := .empty
  activeOrder : List (ActiveKey × ℕ) := []
  nextGeneration : ℕ := 0
  locallyDropped : ℕ := 0

namespace Collector

/-- The loop of `evict_active_connection_if_needed`: an entry of the order whose connection was
closed or reported again is dropped, and the first one that is left is evicted. -/
def evict : List (ActiveKey × ℕ) → Collector → Collector
  | [], c => { c with activeOrder := [] }
  | (key, generation) :: rest, c =>
    if c.activeConnections.rows.length < maxActiveConnections then
      { c with activeOrder := (key, generation) :: rest }
    else
      match c.activeConnections.find key with
      | none => evict rest c
      | some old =>
        if old.generation ≠ generation then evict rest c
        else { c with
          activeConnections := c.activeConnections.delete fun a => a.key = key
          activeOrder := rest
          locallyDropped := c.locallyDropped + 1 }

variable (c : Collector) (r : TcpRecord)

def track : Collector :=
  let c := evict c.activeOrder c
  let generation := (c.nextGeneration + 1) % twoPow64
  { c with
    nextGeneration := generation
    activeConnections := c.activeConnections.replace ⟨r.toTuple, r.key, generation⟩
    activeOrder := c.activeOrder ++ [(r.key, generation)] }

/-- `consume`, for a decoded TCP record, up to the queue of events: a connection is closed with the
data it was opened with, where they are known. -/
def consume : Tuple × Collector :=
  if r.disconnect then
    (((c.activeConnections.find r.key).map ActiveConnection.toTuple).getD r.toTuple,
      { c with activeConnections := c.activeConnections.delete fun a => a.key = r.key })
  else (r.toTuple, c.track r)

def next : Collector := (c.consume r).2

end Collector

/-! ### Sizes -/

open Run Collector List Table

/-- Every active connection stands in the order, with its generation. -/
def Listed (c : Collector) (order : List (ActiveKey × ℕ)) : Prop :=
  ∀ a ∈ c.activeConnections, (a.key, a.generation) ∈ order

structure Bounded (c : Collector) : Prop where
  listed : Listed c c.activeOrder
  size : c.activeConnections.rows.length ≤ maxActiveConnections

section
variable {c : Collector} {order : List (ActiveKey × ℕ)} {r : TcpRecord}

/-- An entry of the order that is no active connection's is not missed. -/
lemma Listed.rest {key : ActiveKey} {generation : ℕ} (h : Listed c ((key, generation) :: order))
    (hstale : ∀ a ∈ c.activeConnections, a.key = key → a.generation ≠ generation) :
    Listed c order := by
  intro a ha
  rcases mem_cons.mp (h a ha) with heq | hrest
  · exact absurd (congrArg Prod.snd heq) (hstale a ha (congrArg Prod.fst heq))
  · exact hrest

/-- The loop makes room, and what is left stands in what is left of the order. -/
lemma evict_bounded (h : Listed c order)
    (hsize : c.activeConnections.rows.length ≤ maxActiveConnections) :
    (evict order c).activeConnections.rows.length < maxActiveConnections ∧
      Listed (evict order c) (evict order c).activeOrder := by
  induction order with
  | nil =>
    have hrows : c.activeConnections.rows = [] :=
      eq_nil_iff_forall_not_mem.mpr fun a ha => not_mem_nil (h a ha)
    exact ⟨by simp [evict, hrows, maxActiveConnections], h⟩
  | cons entry rest ih =>
    obtain ⟨key, generation⟩ := entry
    unfold evict
    split
    · next hroom => exact ⟨hroom, h⟩
    · split
      · next hfind =>
        exact ih (h.rest fun a ha hkey => absurd hkey (find_eq_none.mp hfind a ha))
      · next old hfind =>
        obtain ⟨hold, hkey⟩ := find_eq_some.mp hfind
        split
        · next hne =>
          refine ih (h.rest fun a ha hak => ?_)
          rwa [eq_of_key_eq ha hold (hak.trans hkey.symm)]
        · refine ⟨lt_of_lt_of_le ?_ hsize, fun a ha => ?_⟩
          · exact length_filter_lt_length_iff_exists.mpr ⟨old, hold, by simp [hkey]⟩
          · obtain ⟨ha, hak⟩ := mem_delete.mp ha
            rcases mem_cons.mp (h a ha) with heq | hrest
            · exact absurd (congrArg Prod.fst heq) (of_decide_eq_false hak)
            · exact hrest

lemma evict_order_le (order : List (ActiveKey × ℕ)) :
    (evict order c).activeOrder.length ≤ order.length := by
  fun_induction evict order c <;> simp_all <;> omega

/-- The order loses an entry where there is no room, and keeps them all where there is. -/
lemma evict_order (order : List (ActiveKey × ℕ)) :
    (c.activeConnections.rows.length < maxActiveConnections →
      evict order c = { c with activeOrder := order }) ∧
      (maxActiveConnections ≤ c.activeConnections.rows.length → order ≠ [] →
        (evict order c).activeOrder.length < order.length) := by
  cases order with
  | nil => exact ⟨fun _ => rfl, fun _ h => absurd rfl h⟩
  | cons entry rest =>
    unfold evict
    refine ⟨fun hroom => by rw [if_pos hroom], fun hfull _ => ?_⟩
    rw [if_neg hfull.not_gt, length_cons, Nat.lt_succ_iff]
    split
    · exact evict_order_le rest
    · split
      · exact evict_order_le rest
      · exact le_rfl

lemma next_disconnect (hr : r.disconnect = true) : c.next r =
    { c with activeConnections := c.activeConnections.delete fun a => a.key = r.key } := by
  rw [Collector.next, consume, if_pos hr]

lemma next_open (hr : ¬ r.disconnect = true) : c.next r = c.track r := by
  rw [Collector.next, consume, if_neg hr]

lemma Bounded.next (h : Bounded c) (r : TcpRecord) : Bounded (c.next r) := by
  by_cases hr : r.disconnect = true
  · rw [next_disconnect hr]
    exact ⟨fun a ha => h.listed a (mem_delete.mp ha).1, (length_filter_le _ _).trans h.size⟩
  · rw [next_open hr]
    obtain ⟨hroom, hlisted⟩ := evict_bounded h.listed h.size
    refine ⟨fun a ha => ?_, le_trans ?_ hroom⟩
    · rcases mem_replace.mp ha with ⟨ha, -⟩ | rfl
      · exact mem_append_left _ (hlisted a ha)
      · exact mem_append_right _ (mem_singleton.mpr rfl)
    · rw [track, Table.replace, length_append]
      exact Nat.add_le_add_right (length_filter_le _ _) 1

/-- The order has room for the record: it has not reached the limit, or the table has, and an
entry is dropped. -/
def OrderRoom (c : Collector) (r : TcpRecord) : Prop :=
  r.disconnect = true ∨ c.activeOrder.length < maxActiveConnections ∨
    c.activeConnections.rows.length = maxActiveConnections

lemma order_next_le_iff (h : Bounded c) (horder : c.activeOrder.length ≤ maxActiveConnections) :
    (c.next r).activeOrder.length ≤ maxActiveConnections ↔ OrderRoom c r := by
  unfold OrderRoom
  by_cases hr : r.disconnect = true
  · rw [next_disconnect hr]
    exact iff_of_true horder (.inl hr)
  · have hlength : (c.next r).activeOrder.length = (evict c.activeOrder c).activeOrder.length + 1 := by
      rw [next_open hr]
      exact length_append
    obtain ⟨hkeeps, hdrops⟩ := evict_order (c := c) c.activeOrder
    rw [hlength, or_iff_right hr]
    rcases h.size.lt_or_eq with hroom | hfull
    · rw [hkeeps hroom]
      dsimp only
      omega
    · have hne : c.activeOrder ≠ [] := by
        intro hnil
        have := (evict_bounded h.listed h.size).1
        rw [hnil] at this
        exact absurd this hfull.not_lt
      have := hdrops hfull.ge hne
      omega

end

/-- **The table of active connections never exceeds its limit; the order of insertion stays within
it exactly in the runs in which every new connection finds room in the order.** -/
theorem active_sizes (records : List TcpRecord) :
    Along next (fun c r => (c.next r).activeConnections.rows.length ≤ maxActiveConnections)
        {} records ∧
      (Along next (fun c r => (c.next r).activeOrder.length ≤ maxActiveConnections) {} records ↔
        Along next OrderRoom {} records) := by
  have h₀ : Bounded {} := ⟨fun a ha => absurd ha (not_mem_empty a), Nat.zero_le _⟩
  refine ⟨along_of_inv (I := Bounded) (fun c r h _ => ⟨h.next r, (h.next r).size⟩) h₀
    (along_of_mem (Q := fun _ => True) fun _ _ => trivial), ?_⟩
  let I (c : Collector) := Bounded c ∧ c.activeOrder.length ≤ maxActiveConnections
  have hI₀ : I {} := ⟨h₀, Nat.zero_le _⟩
  constructor
  · exact along_of_inv (I := I) (fun c r h hle =>
      ⟨⟨h.1.next r, hle⟩, (order_next_le_iff h.1 h.2).mp hle⟩) hI₀
  · refine along_of_inv (I := I) (fun c r h hroom => ?_) hI₀
    have hle := (order_next_le_iff h.1 h.2).mpr hroom
    exact ⟨⟨h.1.next r, hle⟩, hle⟩

/-- A connection is opened. -/
def opened : TcpRecord := ⟨⟨.ipv4, ⟨[], none⟩, ⟨[], none⟩, none⟩, false, ⟨1, 1⟩⟩

/-- The same connection is opened and closed. -/
def visit : List TcpRecord := [opened, { opened with disconnect := true }]

lemma visit_leaves_entry {c : Collector} (h : c.activeConnections.rows = []) :
    (run next c visit).activeConnections.rows = [] ∧
      (run next c visit).activeOrder.length = c.activeOrder.length + 1 := by
  have hkeeps := (evict_order (c := c) c.activeOrder).1 (by rw [h]; decide)
  have hvisit : run next c visit = (c.track opened).next { opened with disconnect := true } := rfl
  rw [hvisit, next_disconnect rfl, track, hkeeps]
  exact ⟨by simp [delete, Table.replace, h, opened], length_append⟩

/-- One entry is left of every connection that was opened and closed. -/
theorem order_unbounded :
    ¬ ∀ records, (run next {} records).activeOrder.length ≤ maxActiveConnections := by
  intro hall
  have hvisits : ∀ n, (run next {} (replicate n visit).flatten).activeConnections.rows = [] ∧
      (run next {} (replicate n visit).flatten).activeOrder.length = n := by
    intro n
    induction n with
    | zero => exact ⟨rfl, rfl⟩
    | succ n ih =>
      have hvisit := visit_leaves_entry ih.1
      rw [ih.2] at hvisit
      rwa [replicate_succ', flatten_concat, run, foldl_append]
  have := hall (replicate 16385 visit).flatten
  rw [(hvisits 16385).2] at this
  exact absurd this (by decide)

end NetaAgent.Etw
