import NetaAgent.Run
import NetaAgent.TrackerFrames
import Mathlib.Data.List.Nodup

/-!
The three maps of the tracker: the connections by identity, their correlation keys by identity, and
the index of the identities of each key.

Every step on the maps keeps them in agreement, an admission where the identity is not tracked, and
so does every call, whatever fails on the way.
-/

namespace NetaAgent.ConnectionTracker

open Decimal Sql Observation HistoryStore List Table Triple

namespace Tracker

variable {tr : Tracker} {k : Text}

/-- The same identities are tracked and have a key, and the index has the pair of each once. -/
structure Indexed (tr : Tracker) : Prop where
  keys : ∀ k, (tr.connections.find k).isSome = true ↔ (tr.correlationByIdentity.find k).isSome = true
  nodup : tr.correlationIndex.Nodup
  pairs : ∀ key k, (key, k) ∈ tr.correlationIndex ↔ ⟨k, key⟩ ∈ tr.correlationByIdentity

namespace Indexed

variable (h : tr.Indexed)
include h

lemma put (k : Text) (t : TrackedConnection) : (tr.put k t).Indexed :=
  ⟨by simpa only [Tracker.put, isSome_find_update] using h.keys, h.nodup, h.pairs⟩

lemma unmarked : (unmarked tr).Indexed :=
  ⟨by simpa only [ConnectionTracker.unmarked, isSome_find_update] using h.keys, h.nodup, h.pairs⟩

lemma unkeyed (hk : tr.find k = none) : tr.correlationByIdentity.find k = none := by
  have hkeys := h.keys k
  rw [Option.map_eq_none_iff.mp hk] at hkeys
  simpa using hkeys

lemma notMem (hk : tr.find k = none) (key : Text) : (key, k) ∉ tr.correlationIndex := fun hm =>
  Table.find_eq_none.mp (h.unkeyed hk) _ ((h.pairs key k).mp hm) rfl

lemma drop (k : Text) : (tr.drop k).Indexed := by
  unfold Tracker.drop removeCorrelationIdentity
  cases hfind : tr.correlationByIdentity.find k with
  | none =>
    refine ⟨fun k' => ?_, h.nodup, h.pairs⟩
    rw [isSome_find_delete, h.keys]
    refine ⟨And.right, fun hk => ⟨?_, hk⟩⟩
    rintro rfl
    simp [hfind] at hk
  | some c =>
    obtain ⟨hc, rfl⟩ := Table.find_eq_some.mp hfind
    refine ⟨fun k' => ?_, h.nodup.filter _, fun key k' => ?_⟩
    · rw [isSome_find_delete, isSome_find_delete, h.keys]
    · have hone := fun hm => @eq_of_key_eq _ _ _ _ ⟨k', key⟩ c hm hc
      simp only [mem_filter, h.pairs, mem_delete, decide_eq_true_eq, decide_eq_false_iff_not]
      grind

lemma track (hk : tr.find k = none) (t : TrackedConnection) (key : Text) :
    (tr.track k t key).Indexed := by
  obtain ⟨u, hu⟩ := exists_insert (a := (⟨k, t⟩ : Entry)) (Option.map_eq_none_iff.mp hk)
  obtain ⟨v, hv⟩ := exists_insert (a := (⟨k, key⟩ : Correlation)) (h.unkeyed hk)
  unfold Tracker.track indexCorrelation
  rw [hu, hv]
  refine ⟨fun k' => ?_, ?_, fun key' k' => ?_⟩
  · exact (isSome_find_insert hu).trans (.trans (or_congr .rfl (h.keys k')) (isSome_find_insert hv).symm)
  · refine h.nodup.append (nodup_singleton _) ?_
    simpa using h.notMem hk key
  · simp only [mem_append, h.pairs, mem_singleton, Option.getD_some, mem_insert hv]
    grind

lemma rekey (k c : Text) : (tr.rekeyIdentity k c).2.Indexed := by
  unfold Tracker.rekeyIdentity
  split_ifs with hsame hfree
  · exact h
  · exact h
  replace hfree : tr.find c = none := by simpa using hfree
  cases hfind : tr.find k with
  | none => exact h
  | some t =>
    -- the entry has a key, and `c` has none
    have hkey : (tr.correlationByIdentity.find k).isSome = true := by
      obtain ⟨e, he, -⟩ := Option.map_eq_some_iff.mp hfind
      rw [← h.keys, he]
      rfl
    obtain ⟨x, hx⟩ := Option.isSome_iff_exists.mp hkey
    obtain ⟨hmem, rfl⟩ := Table.find_eq_some.mp hx
    have hunkeyed := Table.find_eq_none.mp (h.unkeyed hfree)
    have hnew := h.notMem hfree x.key
    obtain ⟨v, hv⟩ := exists_insert (a := (⟨c, x.key⟩ : Correlation))
      (t := tr.correlationByIdentity.delete fun y => y.identity = x.identity)
      (Table.find_eq_none.mpr fun y hy => hunkeyed y (mem_delete.mp hy).1)
    dsimp only
    unfold moveCorrelation moveEntry
    simp only [hx, hv, Option.getD_some]
    refine ⟨fun k' => ?_, ?_, fun key' k' => ?_⟩
    · rw [isSome_find_replace, isSome_find_delete, isSome_find_insert hv, isSome_find_delete, h.keys]
    · refine h.nodup.map_on fun p hp q hq heq => ?_
      grind
    · have hone := fun hm => @eq_of_key_eq _ _ _ _ ⟨k', key'⟩ x hm hmem
      have hpair := (h.pairs x.key x.identity).mpr hmem
      have hpairs := h.pairs key' k'
      simp only [mem_map, mem_insert hv, mem_delete, decide_eq_false_iff_not]
      grind

end Indexed

end Tracker

abbrev Agree : World → Prop := fun s => s.2.Indexed

lemma keeping_indexed : Keeping Agree where
  touch _ _ _ := onDb fun tr => preserves_const tr.Indexed _
  cookie _ _ := onDb fun tr => preserves_const tr.Indexed _
  sample _ _ _ := onDb fun tr => preserves_const tr.Indexed _
  event _ _ := onDb fun tr => preserves_const tr.Indexed _
  put k t := assign fun _ h => h.put k t
  drop k := assign fun _ h => h.drop k
  rekey k c := bind tracker_read fun _ =>
    bind (Q := fun _ => Agree) (assign fun _ h => h.2 ▸ h.1.rekey k c) fun _ => preserves_pure _

lemma opens_indexed (direction : ConnectionDirection) : Opens Agree direction := by
  have hread : ∀ k, Triple (fun _ => True) (Untracked Agree k) (state : TrackerM World)
      (fun _ => Untracked Agree k) fun _ => Agree := fun _ => state fun _ h => h
  -- what is done to the store changes nothing here
  have hdb : ∀ k {α : Type} (m : StoreM α), Triple (fun _ => True) (Untracked Agree k) (onDb m)
      (fun _ => Untracked Agree k) fun _ => Agree := fun k _ m => onDb fun tr =>
    relax (preserves_const (tr.Indexed ∧ tr.find k = none) m) fun _ _ h => h.1
  have htrack : ∀ {k} t key, Triple (fun _ => True) (Untracked Agree k) (setTracker (·.track k t key))
      (fun _ => Agree) fun _ => Agree := fun _ _ => assign fun _ h => h.1.track h.2 _ _
  constructor <;> intros <;> refine bind (hread _) fun _ => bind (hdb _ _) fun _ =>
    bind (hdb _ _) fun _ => ?_
  · exact bind (htrack _ _) fun _ => preserves_pure _
  · exact bind (hdb _ _) fun _ => bind (htrack _ _) fun _ => preserves_pure _

/-- **The maps agree.** After any calls, whatever fails in them, the tracked identities are those
with a correlation key, and the index has the pair of each of them once and no other pair. -/
theorem tracker_maps_agree (cfg : Config) (db : Store) (calls : List (Call × Oracle Text)) :
    let tr := (Run.run (fun s a => (a.1.exec cfg a.2 s).2) (db, .initial) calls).2
    (∀ k, (tr.connections.find k).isSome = true ↔
        (tr.correlationByIdentity.find k).isSome = true) ∧
      tr.correlationIndex.Nodup ∧
      ∀ key k, (key, k) ∈ tr.correlationIndex ↔ ⟨k, key⟩ ∈ tr.correlationByIdentity := by
  have hstep : ∀ s (a : Call × Oracle Text), Agree s → Agree (a.1.exec cfg a.2 s).2 := by
    rintro s ⟨call, o⟩ h
    refine Preserves.exec (keeping_indexed.program opens_indexed ?_ ?_ cfg call) (o.map .failed) h
    · exact fun _ _ => Triple.onDb fun tr => preserves_const tr.Indexed _
    · unfold beginSnapshot
      exact Triple.assign fun _ h => h.unmarked
  have hinitial : (Tracker.initial).Indexed :=
    ⟨fun _ => .rfl, nodup_nil, fun _ _ => by simp [Tracker.initial]⟩
  obtain ⟨hkeys, hnodup, hpairs⟩ :=
    Run.inv_run_all (I := Agree) hstep (s := (db, .initial)) hinitial calls
  exact ⟨hkeys, hnodup, hpairs⟩

end NetaAgent.ConnectionTracker
