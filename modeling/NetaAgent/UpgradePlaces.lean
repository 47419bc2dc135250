import NetaAgent.JsonPlaces
import NetaAgent.UpgradeResponse

/-!
Where `object_member_object` finds the upgrade in the coordinator's answer.

It takes the first place where the quoted key is followed by a colon. In the text of a JSON value
such a place is the end of a key, but it can be the key of a nested object, or a longer key that ends
in an escaped quote and the word.
-/

namespace NetaAgent.Upgrade

open Decimal Search UpgradeJson JsonText Option Syn
open List hiding after map_map

/-! ### One place after the other -/

variable {t u key : Text}

lemma length_after {pat r : Text} (hpat : pat ≠ []) (h : after pat t = some r) :
    r.length < t.length := by
  induction t with
  | nil => simp [after, hpat] at h
  | cons c t ih =>
    rw [after] at h
    split at h
    · cases h
      have hpos := length_pos_of_ne_nil hpat
      simp only [length_drop, length_cons]
      omega
    · have := ih h
      simp only [length_cons]
      omega

variable {m n : ℕ}

lemma objectLoop_fuel (hn : t.length < n) (hm : t.length < m) :
    objectLoop key n t = objectLoop key m t := by
  induction n generalizing t m with
  | zero => exact absurd hn (Nat.not_lt_zero _)
  | succ n ih =>
    obtain ⟨m, rfl⟩ : ∃ k, m = k + 1 := ⟨m - 1, by omega⟩
    rw [objectLoop, objectLoop]
    cases h : after ('"' :: (key ++ ['"'])) t with
    | none => rfl
    | some r =>
      have hr := length_after (cons_ne_nil _ _) h
      simp only
      split
      · rfl
      · exact ih (by omega) (by omega)

lemma objectMemberObject_eq (key t : Text) :
    objectMemberObject t key = (after (quoted key) t).elim (.ok none) fun r =>
        if (skipSpace r).head? = some ':' then objectValue key (skipSpace r).tail
        else objectMemberObject r key := by
  unfold objectMemberObject
  rw [objectLoop]
  cases h : after ('"' :: (key ++ ['"'])) t with
  | none => simp only [quoted, h, elim_none]
  | some r =>
    have hr := length_after (cons_ne_nil _ _) h
    simp only [quoted, h, elim_some]
    split
    · rfl
    · exact objectLoop_fuel (by omega) (by omega)

lemma objectMemberObject_congr (h : after (quoted key) t = after (quoted key) u) :
    objectMemberObject t key = objectMemberObject u key := by
  rw [objectMemberObject_eq, objectMemberObject_eq, h]

section Places
variable {key : Text} (hkey : Word key)
include hkey

/-! ### The key in a tree -/

omit hkey in
/-- A text that stands after a value: its first character separates tokens, and it does not go on
with a colon. -/
structure Follows (r : Text) : Prop where
  head : Bounded r
  noColon : (skipSpace r).head? ≠ some ':'

omit hkey in
lemma follows_cons {c : Char} (hc : c = ',' ∨ c = ']' ∨ c = '\x7d') (r : Text) : Follows (c :: r) := by
  rcases hc with rfl | rfl | rfl
  all_goals exact ⟨bounded_cons rfl r, by simp [skipSpace, isSpace]⟩

omit hkey in
lemma skipSpace_blank (w : Blank) (r : Text) : skipSpace (w.1 ++ r) = skipSpace r :=
  dropWhile_append_of_pos w.isSpace

variable {r t : Text}

omit hkey in
lemma Follows.blank (hr : Follows r) (w : Blank) : Follows (w.1 ++ r) :=
  ⟨hr.head.blank w, by rw [skipSpace_blank]; exact hr.noColon⟩

omit hkey in
lemma pass (ht : '"' ∉ t) (r : Text) : objectMemberObject (t ++ r) key = objectMemberObject r key :=
  objectMemberObject_congr (after_append ht r)

omit hkey in
lemma pass_cons {c : Char} (hc : c ≠ '"') (r : Text) :
    objectMemberObject (c :: r) key = objectMemberObject r key :=
  objectMemberObject_congr (after_skip hc r)

omit hkey in
lemma pass_blank (w : Blank) (r : Text) :
    objectMemberObject (w.1 ++ r) key = objectMemberObject r key :=
  pass (quote_notMem_of_plain w.plain) r

lemma pass_string (s : List Piece) (hr : Follows r) :
    objectMemberObject (stringText s ++ r) key = objectMemberObject r key := by
  have hafter := after_stringText hkey s (word_not_prefix_of_bounded hkey hr.head)
  by_cases hs : quoted key <:+ stringText s
  · rw [if_pos hs] at hafter
    rw [objectMemberObject_eq, hafter, elim_some, if_neg hr.noColon]
  · rw [if_neg hs] at hafter
    exact objectMemberObject_congr hafter

end Places

/-! ### The object that is cut out -/

/-- The text is copied, and the count of braces is the same after it. -/
def Copied (n : ℕ) (t : Text) : Prop :=
  ∀ r, objectSpan false false n (t ++ r) = (objectSpan false false n r).map (t ++ ·)

lemma Copied.append (ht : Copied n t) (hu : Copied n u) : Copied n (t ++ u) := by
  intro r
  rw [append_assoc, ht, hu, map_map]
  congr 1
  funext v
  exact (append_assoc t u v).symm

lemma copied_cons {c : Char} (hq : c ≠ '"') (ho : c ≠ '\x7b') (hc : c ≠ '\x7d') : Copied n [c] := by
  intro r
  rw [singleton_append, objectSpan, if_neg hq, if_neg ho, if_neg hc]
  rfl

lemma copied_plain (ht : ∀ c ∈ t, isStructural c = false) : Copied n t := by
  induction t with
  | nil =>
    intro r
    simp
  | cons c t ih =>
    rw [forall_mem_cons] at ht
    have hc := ht.1
    simp only [isStructural, Bool.or_eq_false_iff, beq_eq_false_iff_ne] at hc
    obtain ⟨⟨⟨⟨⟨⟨hq, ho⟩, hc⟩, -⟩, -⟩, -⟩, -⟩ := hc
    exact (copied_cons hq ho hc).append (ih ht.2)

lemma objectSpan_pieces (n : ℕ) (s : List Piece) (r : Text) :
    objectSpan true false n (piecesText s ++ '"' :: r) =
      (objectSpan false false n r).map ((piecesText s ++ ['"']) ++ ·) := by
  induction s with
  | nil => simp [piecesText, objectSpan]
  | cons p s ih =>
    rw [piecesText_cons]
    cases p with
    | plain c =>
      simp only [Piece.text, cons_append, nil_append, objectSpan, c.2.2.1, c.2.2.2, if_false,
        ih, map_map]
      rfl
    | escape e =>
      simp only [Piece.text, cons_append, nil_append, objectSpan, if_true, ih, map_map]
      rfl
    | unicode a b c d =>
      have hu : 'u' ≠ '\\' ∧ 'u' ≠ '"' := by decide
      simp only [Piece.text, cons_append, nil_append, objectSpan, if_true, if_false, hu,
        a.ne, b.ne, c.ne, d.ne, ih, map_map]
      rfl

lemma copied_string (n : ℕ) (s : List Piece) : Copied n (stringText s) := by
  intro r
  rw [stringText_append, objectSpan, if_pos rfl, objectSpan_pieces, map_map]
  rfl

/-- What is between the braces of an object is copied, and so is the object inside another one. -/
lemma copied_braces (ht : Copied (n + 2) t) : Copied (n + 1) ('\x7b' :: (t ++ ['\x7d'])) := by
  intro r
  have htext : '\x7b' :: (t ++ ['\x7d']) ++ r = '\x7b' :: (t ++ '\x7d' :: r) := by simp
  have hopen : ∀ u, objectSpan false false (n + 1) ('\x7b' :: u) =
      (objectSpan false false (n + 2) u).map ('\x7b' :: ·) := by
    intro u
    rw [objectSpan, if_neg (by decide), if_pos rfl]
  have hclose : objectSpan false false (n + 2) ('\x7d' :: r) =
      (objectSpan false false (n + 1) r).map ('\x7d' :: ·) := by
    rw [objectSpan, if_neg (by decide), if_neg (by decide), if_pos rfl, if_neg (by omega)]
    rfl
  rw [htext, hopen, ht, hclose, map_map, map_map]
  congr 1
  funext v
  simp

lemma copied_tree {k : Kind} (s : Syn k) (n : ℕ) : Copied (n + 1) s.text := by
  have hscanned : Scanned fun _ t => ∀ n, Copied (n + 1) t :=
    { append := fun ht hu n => (ht n).append (hu n)
      plain := fun ht _ => copied_plain ht
      string := fun s _ => copied_string _ s
      colon := fun _ => copied_cons (by decide) (by decide) (by decide)
      comma := fun _ _ => copied_cons (by decide) (by decide) (by decide)
      array := fun ht n => (copied_cons (by decide) (by decide) (by decide)).append
        ((ht n).append (copied_cons (by decide) (by decide) (by decide)))
      object := fun ht n => copied_braces (ht (n + 1)) }
  exact hscanned.tree s (.inr one_pos) n

/-! ### The value of the key -/

lemma skipSpace_value (v : Syn .value) (r : Text) : skipSpace (v.text ++ r) = v.text ++ r := by
  obtain ⟨c, u, htext, hc, -⟩ := v.head_text
  rw [htext, cons_append]
  exact Blank.none.dropWhile hc _

lemma objectValue_blank (key : Text) (w : Blank) (t : Text) :
    objectValue key (w.1 ++ t) = objectValue key t := by
  unfold objectValue
  rw [skipSpace_blank]

lemma objectValue_null (key r : Text) : objectValue key (null.text ++ r) = .ok none := by
  unfold objectValue
  rw [skipSpace_value]
  exact if_pos (prefix_append _ r)

lemma objectSpan_object (ht : Copied 1 t) (r : Text) :
    objectSpan false false 0 ('\x7b' :: (t ++ '\x7d' :: r)) = some ('\x7b' :: (t ++ ['\x7d'])) := by
  have hclose : objectSpan false false 1 ('\x7d' :: r) = some ['\x7d'] := by
    rw [objectSpan, if_neg (by decide), if_neg (by decide), if_pos rfl, if_pos rfl]
  rw [objectSpan, if_neg (by decide), if_pos rfl, ht, hclose]
  rfl

variable {v : Syn .value}

lemma objectValue_object (key : Text) (hv : v.isObject = true) (r : Text) :
    objectValue key (v.text ++ r) = .ok (some v.text) := by
  have hbraces : ∃ t, v.text = '\x7b' :: (t ++ ['\x7d']) ∧ Copied 1 t := by
    cases v with
    | emptyObject w => exact ⟨w.1, rfl, copied_plain w.plain⟩
    | object members => exact ⟨members.text, rfl, copied_tree members 0⟩
    | _ => cases hv
  obtain ⟨t, htext, ht⟩ := hbraces
  have happend : v.text ++ r = '\x7b' :: (t ++ '\x7d' :: r) := by simp [htext]
  have hnull : ¬ "null" <+: '\x7b' :: (t ++ '\x7d' :: r) := by simp [cons_prefix_cons]
  unfold objectValue
  rw [skipSpace_value, happend, htext]
  simp only [hnull, if_false, head?_cons, ne_eq, not_true_eq_false, objectSpan_object ht]

lemma objectValue_other (key : Text) (hnull : v ≠ .null) (hobject : v.isObject = false)
    (r : Text) : objectValue key (v.text ++ r) = .error (key ++ " must be a JSON object") := by
  obtain ⟨c, u, htext, -, hc⟩ := v.head_text
  obtain ⟨hn, ho⟩ := hc hnull hobject
  have hstarts : ¬ "null" <+: c :: (u ++ r) := fun h =>
    hn (cons_prefix_cons.mp h).1.symm
  have hhead : (c :: (u ++ r)).head? ≠ some '\x7b' := fun h => ho (some.inj h)
  unfold objectValue
  rw [skipSpace_value, htext, cons_append]
  simp only [hstarts, if_false]
  exact if_pos hhead

/-- What there is to read for a member with this value. -/
def memberObject (key : Text) : Option (Syn .value) → Except Text (Option Text)
  | none => .ok none
  | some .null => .ok none
  | some v => if v.isObject then .ok (some v.text) else .error (key ++ " must be a JSON object")

lemma objectValue_eq (key : Text) (v : Syn .value) (r : Text) :
    objectValue key (v.text ++ r) = memberObject key (some v) := by
  by_cases hnull : v = .null
  · rw [hnull, objectValue_null]
    rfl
  have hread : memberObject key (some v) =
      if v.isObject then .ok (some v.text) else .error (key ++ " must be a JSON object") := by
    cases v with
    | null => exact absurd rfl hnull
    | _ => rfl
  rw [hread]
  cases hobject : v.isObject with
  | true => exact objectValue_object key hobject r
  | false => exact objectValue_other key hnull hobject r

/-! ### The answer as a whole -/

/-- The value after the first key, at any depth, whose token ends in the quoted name. -/
def firstEnding (key : Text) {k : Kind} (s : Syn k) : Option (Syn .value) :=
  (s.entries.find? fun m => quoted key <:+ stringText m.1).map Prod.snd

/-- What the search returns from `s`, if it goes on with `rest` after it. -/
def foundIn (key : Text) {k : Kind} (s : Syn k) (rest : Except Text (Option Text)) :
    Except Text (Option Text) :=
  (firstEnding key s).elim rest fun v => memberObject key (some v)

section Search
variable {key : Text} (hkey : Word key) {r : Text}
include hkey

/-- A key that ends in the quoted name is taken for it. -/
lemma objectMemberObject_key (x : List Piece) (w w₁ w₂ : Blank) (v : Syn .value) :
    objectMemberObject (w.1 ++ (stringText x ++ (w₁.1 ++ ':' :: (w₂.1 ++ (v.text ++ r))))) key =
      if quoted key <:+ stringText x then memberObject key (some v)
      else objectMemberObject (v.text ++ r) key := by
  have hhead : Bounded (w₁.1 ++ ':' :: (w₂.1 ++ (v.text ++ r))) := (bounded_cons rfl _).blank w₁
  have hafter := after_stringText hkey x (word_not_prefix_of_bounded hkey hhead)
  rw [pass_blank]
  split
  · next hx =>
    have hcolon : skipSpace (w₁.1 ++ ':' :: (w₂.1 ++ (v.text ++ r))) = ':' :: (w₂.1 ++ (v.text ++ r)) :=
      w₁.dropWhile (by decide) _
    rw [if_pos hx] at hafter
    rw [objectMemberObject_eq, hafter, elim_some, hcolon, if_pos head?_cons]
    exact (objectValue_blank key w₂ _).trans (objectValue_eq key v r)
  · next hx =>
    rw [if_neg hx] at hafter
    rw [objectMemberObject_congr hafter, pass_blank, pass_cons (by decide), pass_blank]

omit hkey in
lemma foundIn_key {k : Kind} (s : Syn k) {x : List Piece} {v : Syn .value}
    {l : List (List Piece × Syn .value)} (hs : s.entries = (x, v) :: l)
    (rest : Except Text (Option Text)) : foundIn key s rest =
      if quoted key <:+ stringText x then memberObject key (some v)
      else ((l.find? fun m => quoted key <:+ stringText m.1).map Prod.snd).elim rest
        fun v => memberObject key (some v) := by
  rw [foundIn, firstEnding, hs, find?_cons]
  split_ifs with hx <;> simp [hx]

omit hkey in
lemma foundIn_append {k k' : Kind} {s : Syn k} {s' : Syn k'} (rest : Except Text (Option Text)) :
    (((s.entries ++ s'.entries).find? fun m => quoted key <:+ stringText m.1).map Prod.snd).elim rest
        (fun v => memberObject key (some v)) = foundIn key s (foundIn key s' rest) := by
  rw [find?_append, foundIn, foundIn, firstEnding, firstEnding]
  cases s.entries.find? fun m => quoted key <:+ stringText m.1 <;> rfl

lemma objectMemberObject_tree {k : Kind} (s : Syn k) (hr : Follows r) :
    objectMemberObject (s.text ++ r) key = foundIn key s (objectMemberObject r key) := by
  induction s generalizing r with
  | null => exact pass (by decide) r
  | boolean b =>
    cases b
    · exact pass (by decide) r
    · exact pass (by decide) r
  | number n => exact pass (quote_notMem_of_plain n.plain) r
  | string s => exact pass_string hkey s hr
  | array items ih =>
    simp only [text, cons_append, append_assoc, nil_append]
    rw [pass_cons (by decide), ih (follows_cons (.inr (.inl rfl)) r), pass_cons (by decide)]
    rfl
  | emptyArray | emptyObject =>
    simp only [text, cons_append, append_assoc, nil_append]
    rw [pass_cons (by decide), pass_blank, pass_cons (by decide)]
    rfl
  | object members ih =>
    simp only [text, cons_append, append_assoc, nil_append]
    rw [pass_cons (by decide), ih (follows_cons (.inr (.inr rfl)) r), pass_cons (by decide)]
    rfl
  | lastItem w v w' ih =>
    simp only [text, append_assoc]
    rw [pass_blank, ih (hr.blank w'), pass_blank]
    rfl
  | item w v w' rest ih ihrest =>
    simp only [text, append_assoc, cons_append]
    rw [pass_blank, ih ((follows_cons (.inl rfl) _).blank w'), pass_blank, pass_cons (by decide),
      ihrest hr]
    exact (foundIn_append _).symm
  | lastMember w x w₁ w₂ v w₃ ih =>
    simp only [text, append_assoc, cons_append]
    rw [objectMemberObject_key hkey, ih (hr.blank w₃), pass_blank,
      foundIn_key (.lastMember w x w₁ w₂ v w₃) rfl]
    rfl
  | member w x w₁ w₂ v w₃ rest ih ihrest =>
    simp only [text, append_assoc, cons_append]
    rw [objectMemberObject_key hkey, ih ((follows_cons (.inl rfl) _).blank w₃), pass_blank,
      pass_cons (by decide), ihrest hr, foundIn_key (.member w x w₁ w₂ v w₃ rest) rfl, foundIn_append]

lemma objectMemberObject_document (d : Document) :
    objectMemberObject d.text key = memberObject key (firstEnding key d.value) := by
  have hend : objectMemberObject ([] : Text) key = .ok none := by
    rw [objectMemberObject_eq]
    rfl
  have hnil : Follows [] := ⟨fun c hc => (by cases hc), by simp [skipSpace]⟩
  have hafter : Follows (d.after.1 ++ []) := hnil.blank d.after
  unfold Document.text
  rw [pass_blank, ← append_nil d.after.1, objectMemberObject_tree hkey d.value hafter,
    pass_blank, hend, foundIn]
  cases firstEnding key d.value <;> rfl

end Search

lemma parseUpgradeInstructionResponse_eq (body : Text) :
    parseUpgradeInstructionResponse body = objectMemberObject body "upgrade" >>= fun object =>
        object.elim (.ok none) fun text => (readInstruction text).map some := by
  unfold parseUpgradeInstructionResponse
  refine congrArg (bind _) (funext fun object => ?_)
  cases object with
  | none => rfl
  | some text => cases h : readInstruction text <;> simp [h] <;> rfl

lemma word_upgrade : Word "upgrade" := word_of_isWord (by decide)

/-- The first key that ends in the quoted word, which the code reads from, gives what the member
`upgrade` of the answer should give: it is the member's own key, or its value is as good. -/
def FirstIsOwn (d : Document) : Prop :=
  memberObject "upgrade" (firstEnding "upgrade" d.value) =
    memberObject "upgrade" (d.value.find "upgrade")

/-- **The upgrade in the coordinator's answer.** The object that the code reads from is the one of
the answer's own member, for every JSON text, exactly if the first key that ends in the quoted word
stands for it; and then the answer is read by that member: nothing if it is absent or null, the
fields of that object otherwise. -/
theorem upgrade_of_json_answer (d : Document) :
    (objectMemberObject d.text "upgrade" = memberObject "upgrade" (d.value.find "upgrade") ↔
        FirstIsOwn d) ∧
      (FirstIsOwn d →
        (d.value.find "upgrade" = none → parseUpgradeInstructionResponse d.text = .ok none) ∧
        (d.value.find "upgrade" = some .null →
          parseUpgradeInstructionResponse d.text = .ok none) ∧
        (∀ v, d.value.find "upgrade" = some v → v.isObject = true →
          parseUpgradeInstructionResponse d.text = (readInstruction v.text).map some) ∧
        ∀ v, d.value.find "upgrade" = some v → v ≠ .null → v.isObject = false →
          parseUpgradeInstructionResponse d.text =
            .error "upgrade must be a JSON object") := by
  have hread := objectMemberObject_document word_upgrade d
  refine ⟨by rw [hread]; rfl, fun hown => ?_⟩
  rw [parseUpgradeInstructionResponse_eq, hread, hown]
  refine ⟨fun h => ?_, fun h => ?_, fun v h hv => ?_, fun v h hnull hv => ?_⟩
  · rw [h]
    rfl
  · rw [h]
    rfl
  · rw [h, ← objectValue_eq _ v [], objectValue_object _ hv]
    rfl
  · rw [h, ← objectValue_eq _ v [], objectValue_other _ hnull hv]
    rfl

def instructionObject (i : UpgradeInstruction) : Syn .value :=
  .objectOf (List.map (fun m => (m.1, .string (spell m.2)))
    [("upgrade_id", i.upgradeId), ("version", i.version),
      ("build_id", i.buildId), ("git_commit", i.gitCommit), ("os", i.os),
      ("arch", i.arch), ("artifact_name", i.artifactName),
      ("download_url", i.downloadUrl), ("sha256", i.sha256)])

def plainAnswer : Document :=
  ⟨.none, .objectOf [("kind", .string (spell "upgrade")),
    ("upgrade", instructionObject sampleInstruction)], .none⟩

/-- An instruction in a nested object; the answer has no upgrade. -/
def nestedAnswer : Document :=
  ⟨.none, .objectOf [("note",
    .objectOf [("upgrade", instructionObject sampleInstruction)])], .none⟩

theorem upgrade_of_json_answer_plain :
    parseUpgradeInstructionResponse plainAnswer.text =
      (readInstruction (instructionObject sampleInstruction).text).map some :=
  ((upgrade_of_json_answer plainAnswer).2 rfl).2.2.1 _ rfl rfl

theorem nested_upgrade_is_read :
    nestedAnswer.value.isObject = true ∧ nestedAnswer.value.find "upgrade" = none ∧
      parseUpgradeInstructionResponse nestedAnswer.text = .ok (some sampleInstruction) := by
  refine ⟨rfl, rfl, ?_⟩
  decide +kernel

end NetaAgent.Upgrade
