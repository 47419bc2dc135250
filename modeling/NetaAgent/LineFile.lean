import NetaAgent.Separated

/-!
Files with one `key=value` line for every entry, and when all the values can be read back.

The reader takes the first line that begins with the key. It may first cut off the end of each line,
as a reader does that accepts the line ends of another system.
-/

namespace NetaAgent.LineFile

open Decimal Separated List

def line (p : Text × Text) : Text := p.1 ++ '=' :: p.2

def fileText (ps : List (Text × Text)) : Text := (ps.map line).flatMap (· ++ ['\n'])

def valueIn (cut : Text → Text) (ls : List Text) (key : Text) : Text :=
  match (ls.map cut).find? ((key ++ ['=']).isPrefixOf ·) with
  | none => []
  | some l => l.drop (key ++ ['=']).length

def valueFor (cut : Text → Text) (t key : Text) : Text := valueIn cut (t.splitOn '\n') key

/-- The keys of the entries can be told apart, and each ends where its value begins. -/
structure Keys (ps : List (Text × Text)) : Prop where
  plain : ∀ p ∈ ps, '=' ∉ p.1 ∧ '\n' ∉ p.1
  nodup : (ps.map Prod.fst).Nodup

structure CutsEnd (cut : Text → Text) : Prop where
  append : ∀ k v, cut (k ++ '=' :: v) = k ++ '=' :: cut v
  mem : ∀ l, ∀ c ∈ cut l, c ∈ l

lemma cutsEnd_id : CutsEnd id := ⟨fun _ _ => rfl, fun _ _ hc => hc⟩

section
variable {cut : Text → Text}

lemma isPrefixOf_line (key v : Text) : (key ++ ['=']).isPrefixOf (key ++ '=' :: v) = true := by
  exact isPrefixOf_iff_prefix.mpr ⟨v, by simp⟩

lemma not_isPrefixOf_line {k key : Text} (hk : '=' ∉ k) (hkey : '=' ∉ key) (hne : k ≠ key)
    (v : Text) : (key ++ ['=']).isPrefixOf (k ++ '=' :: v) = false := by
  rw [Bool.eq_false_iff, Ne, isPrefixOf_iff_prefix]
  rintro ⟨rest, hrest⟩
  rw [append_assoc, singleton_append] at hrest
  exact hne (append_sep_inj hkey hk hrest).1.symm

variable {ps : List (Text × Text)}

section

variable (hcut : CutsEnd cut)
include hcut

lemma valueIn_entries (hps : Keys ps)
    (rest : List Text) {p : Text × Text} (hp : p ∈ ps) :
    valueIn cut (ps.map line ++ rest) p.1 = cut p.2 := by
  obtain ⟨hplain, hnodup⟩ := hps
  induction ps with
  | nil => cases hp
  | cons q ps ih =>
    rw [map_cons, nodup_cons] at hnodup
    rw [forall_mem_cons] at hplain
    simp only [valueIn, map_cons, cons_append, find?_cons, line, hcut.append]
    rcases mem_cons.mp hp with rfl | hp
    · rw [isPrefixOf_line]
      simp
    · have hne : q.1 ≠ p.1 := fun heq => hnodup.1 (heq ▸ mem_map_of_mem hp)
      rw [not_isPrefixOf_line hplain.1.1 (hplain.2 p hp).1 hne]
      exact ih hp hplain.2 hnodup.2

lemma newline_notMem_valueFor (t key : Text) : '\n' ∉ valueFor cut t key := by
  unfold valueFor valueIn
  split
  · exact not_mem_nil
  · next l hl =>
    intro hc
    obtain ⟨l', hl', rfl⟩ := mem_map.mp (mem_of_find?_eq_some hl)
    exact not_mem_of_mem_splitOn hl' (hcut.mem l' _ (mem_of_mem_drop hc))

lemma valueFor_fileText (hps : Keys ps)
    (hlines : ∀ p ∈ ps, '\n' ∉ p.2) {p : Text × Text} (hp : p ∈ ps) :
    valueFor cut (fileText ps) p.1 = cut p.2 := by
  have hsplit : (fileText ps).splitOn '\n' = ps.map line ++ [[]] := by
    refine splitOn_flatMap_append fun l hl => ?_
    obtain ⟨q, hq, rfl⟩ := mem_map.mp hl
    simp [line, (hps.plain q hq).2, hlines q hq]
  rw [valueFor, hsplit]
  exact valueIn_entries hcut hps _ hp

/-- **Reading a line file back.** All the values come back exactly if none of them has a line break
or an end that is cut off. A single one may come back from a line inside another value. -/
theorem values_iff (hps : Keys ps) :
    (∀ p ∈ ps, valueFor cut (fileText ps) p.1 = p.2) ↔ ∀ p ∈ ps, '\n' ∉ p.2 ∧ cut p.2 = p.2 := by
  constructor
  · intro h
    have hlines : ∀ p ∈ ps, '\n' ∉ p.2 := fun p hp => h p hp ▸ newline_notMem_valueFor hcut _ _
    exact fun p hp => ⟨hlines p hp, (valueFor_fileText hcut hps hlines hp).symm.trans (h p hp)⟩
  · intro h p hp
    rw [valueFor_fileText hcut hps (fun q hq => (h q hq).1) hp, (h p hp).2]

end

end

/-- A carriage return at the end of a line is no part of it. -/
def chomp (l : Text) : Text := if l.getLast? = some '\r' then l.dropLast else l

lemma chomp_append (a : Text) {v : Text} (hv : v ≠ []) : chomp (a ++ v) = a ++ chomp v := by
  have hlast : (a ++ v).getLast? = v.getLast? := by
    rw [getLast?_append]
    obtain ⟨c, hc⟩ := getLast?_isSome.mpr hv |> Option.isSome_iff_exists.mp
    rw [hc]
    rfl
  unfold chomp
  rw [hlast]
  split
  · exact dropLast_append_of_ne_nil hv
  · rfl

lemma cutsEnd_chomp : CutsEnd chomp := by
  refine ⟨fun k v => ?_, fun l c hc => ?_⟩
  · cases v with
    | nil =>
      rw [chomp_append k (cons_ne_nil _ _)]
      rfl
    | cons c v =>
      have htext : k ++ '=' :: c :: v = (k ++ ['=']) ++ (c :: v) := by simp
      rw [htext, chomp_append _ (cons_ne_nil _ _)]
      simp
  · unfold chomp at hc
    split at hc
    · exact (dropLast_sublist l).subset hc
    · exact hc

lemma chomp_eq_self {v : Text} : chomp v = v ↔ v.getLast? ≠ some '\r' := by
  unfold chomp
  split
  · next h =>
    refine iff_of_false (fun heq => ?_) (not_not.mpr h)
    have hne : v ≠ [] := by rintro rfl; cases h
    have hlen := congrArg length heq
    rw [length_dropLast] at hlen
    have := length_pos_iff.mpr hne
    omega
  · next h => exact iff_of_true rfl h

end NetaAgent.LineFile
