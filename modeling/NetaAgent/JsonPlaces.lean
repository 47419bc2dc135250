import NetaAgent.JsonText
import NetaAgent.Search

/-!
Searching the text of a JSON value for a quoted word.

The word is found at the end of a string token and nowhere else: as a whole token, or after an
escaped quote.
-/

namespace NetaAgent.JsonText

open Decimal Search List Piece Syn

def quoted (key : Text) : Text := '"' :: (key ++ ['"'])

/-- A key without the characters that separate tokens or need an escape. -/
structure Word (key : Text) : Prop where
  nonempty : key ≠ []
  plain : ∀ c ∈ key, isStructural c = false ∧ isBlank c = false ∧ c ≠ '\\'

def isWord (key : Text) : Bool :=
  key ≠ [] && key.all fun c => !isStructural c && !isBlank c && c ≠ '\\'

lemma word_of_isWord {key : Text} (h : isWord key = true) : Word key := by
  simp only [isWord, Bool.and_eq_true, decide_eq_true_eq, all_eq_true, Bool.not_eq_true'] at h
  exact ⟨h.1, fun c hc => ⟨(h.2 c hc).1.1, (h.2 c hc).1.2, (h.2 c hc).2⟩⟩

section Places
variable {key : Text} (hkey : Word key)
include hkey

lemma Word.quote_notMem : '"' ∉ key := fun h => by
  have := (hkey.plain _ h).1
  revert this
  decide

lemma Word.backslash_notMem : '\\' ∉ key := fun h => (hkey.plain _ h).2.2 rfl

omit hkey in
lemma word_prefix_iff (hq : '"' ∉ key) (hb : '\\' ∉ key) (s : List Piece) (r : Text) :
    key ++ ['"'] <+: piecesText s ++ '"' :: r ↔ piecesText s = key := by
  induction s generalizing key with
  | nil =>
    cases key with
    | nil => simp [piecesText]
    | cons d =>
      have hd : d ≠ '"' := fun h => hq (h ▸ mem_cons_self)
      simp [piecesText, cons_prefix_cons, hd]
  | cons p s ih =>
    have hescape : ∀ u : Text, ¬ (key ++ ['"'] <+: '\\' :: u) ∧ '\\' :: u ≠ key := by
      intro u
      refine ⟨fun h => ?_, fun h => hb (h ▸ mem_cons_self)⟩
      cases key with
      | nil => simp [cons_prefix_cons] at h
      | cons =>
        have hd := (cons_prefix_cons.mp h).1
        exact hb (hd ▸ mem_cons_self)
    cases p with
    | plain c =>
      rw [piecesText_cons]
      cases key with
      | nil => simp [Piece.text, cons_prefix_cons, Ne.symm c.2.2.1]
      | cons =>
        rw [mem_cons, not_or] at hq hb
        have htail := ih hq.2 hb.2
        simp only [Piece.text, cons_append, nil_append, cons_prefix_cons, htail,
          cons.injEq, eq_comm]
    | escape | unicode =>
      rw [piecesText_cons]
      exact iff_of_false (hescape _).1 (hescape _).2

variable (s : List Piece)

lemma after_quote (r : Text) : after (quoted key) ('"' :: (piecesText s ++ '"' :: r)) =
      if piecesText s = key then some r else after (quoted key) (piecesText s ++ '"' :: r) := by
  have hword := word_prefix_iff hkey.quote_notMem hkey.backslash_notMem s r
  split
  next h =>
    rw [h, quoted, show key ++ '"' :: r = (key ++ ['"']) ++ r by simp]
    exact after_self _ _ _
  next h => exact after_cons_ne fun hp => h (hword.mp hp)

omit hkey in
lemma after_skip {c : Char} (hc : c ≠ '"') (t : Text) :
    after (quoted key) (c :: t) = after (quoted key) t :=
  after_append (a := [c]) (fun h => hc (mem_singleton.mp h).symm) t

omit hkey in
lemma suffix_skip {c : Char} (hc : c ≠ '"') (t : Text) :
    quoted key <:+ c :: t ↔ quoted key <:+ t := by
  rw [suffix_cons_iff]
  exact or_iff_right fun h => hc (cons.inj h).1.symm

omit hkey in
lemma suffix_quote (t : Text) :
    quoted key <:+ '"' :: (t ++ ['"']) ↔ t = key ∨ quoted key <:+ t ++ ['"'] := by
  rw [suffix_cons_iff, quoted, cons.injEq]
  exact or_congr ⟨fun h => (append_cancel_right h.2).symm, fun h => ⟨rfl, by rw [h]⟩⟩ Iff.rfl

variable {r t : Text}

lemma after_pieces (hr : ¬ key ++ ['"'] <+: r) : after (quoted key) (piecesText s ++ '"' :: r) =
      if quoted key <:+ piecesText s ++ ['"'] then some r else after (quoted key) r := by
  induction s with
  | nil =>
    have hshort : ¬ quoted key <:+ ['"'] := by
      intro h
      have := h.length_le
      simp [quoted] at this
    rw [show piecesText [] = [] from rfl, nil_append, nil_append, if_neg hshort]
    exact after_cons_ne hr
  | cons p s ih =>
    rw [piecesText_cons]
    cases p with
    | plain c =>
      simp only [Piece.text, cons_append, nil_append, after_skip c.2.2.1, ih, suffix_skip c.2.2.1]
    | escape e =>
      have hb : '\\' ≠ '"' := by decide
      simp only [Piece.text, cons_append, nil_append, after_skip hb, suffix_skip hb]
      by_cases he : e.letter = '"'
      · simp only [he, after_quote hkey, ih, suffix_quote]
        by_cases hs : piecesText s = key
        · simp only [hs, if_true, true_or]
        · simp only [hs, if_false, false_or]
      · simp only [after_skip he, ih, suffix_skip he]
    | unicode a b c d =>
      have hb : '\\' ≠ '"' := by decide
      have hu : 'u' ≠ '"' := by decide
      simp only [Piece.text, cons_append, nil_append, after_skip hb, after_skip hu,
        after_skip a.ne.1, after_skip b.ne.1, after_skip c.ne.1, after_skip d.ne.1, ih,
        suffix_skip hb, suffix_skip hu, suffix_skip a.ne.1, suffix_skip b.ne.1,
        suffix_skip c.ne.1, suffix_skip d.ne.1]

lemma after_stringText (hr : ¬ key ++ ['"'] <+: r) : after (quoted key) (stringText s ++ r) =
      if quoted key <:+ stringText s then some r else after (quoted key) r := by
  rw [stringText_append, after_quote hkey, after_pieces hkey s hr, stringText]
  simp only [suffix_quote]
  by_cases hs : piecesText s = key
  · simp only [hs, if_true, true_or]
  · simp only [hs, if_false, false_or]

omit hkey in
def Bounded (r : Text) : Prop := ∀ c ∈ r.head?, isStructural c = true ∨ isBlank c = true

omit hkey in
lemma bounded_cons {c : Char} (hc : isStructural c = true) (r : Text) : Bounded (c :: r) := by
  intro d hd
  obtain rfl : c = d := by simpa using hd
  exact .inl hc

omit hkey in
lemma Bounded.blank (hr : Bounded r) (w : Blank) : Bounded (w.1 ++ r) := by
  obtain ⟨w, hw⟩ := w
  cases w with
  | nil => exact hr
  | cons d =>
    intro c hc
    obtain rfl : d = c := by simpa using hc
    exact .inr (all_eq_true.mp hw d mem_cons_self)

lemma word_not_prefix_of_bounded (hr : Bounded r) : ¬ key ++ ['"'] <+: r := by
  intro h
  obtain ⟨c, u, rfl⟩ := exists_cons_of_ne_nil hkey.nonempty
  obtain ⟨v, rfl⟩ := h
  obtain ⟨hs, hb, -⟩ := hkey.plain c mem_cons_self
  rcases hr c rfl with h | h
  · rw [hs] at h
    cases h
  · rw [hb] at h
    cases h

omit hkey in
lemma quote_notMem_of_plain (ht : ∀ c ∈ t, isStructural c = false) : '"' ∉ t :=
  fun h => by cases ht _ h

end Places

/-! ### The members with the text before them -/

/-- The members of an object, each with the text before its key. -/
def Syn.contexts : {k : Kind} → Syn k → (before : Text) → List (Text × List Piece × Syn .value)
  | _, .object members, u => members.contexts (u ++ ['\x7b'])
  | _, .lastMember w key _ _ v _, u => [(u ++ w.1, key, v)]
  | _, .member w key w₁ w₂ v w₃ rest, u =>
    (u ++ w.1, key, v) ::
      rest.contexts (u ++ (w.1 ++ (stringText key ++ (w₁.1 ++ ':' :: (w₂.1 ++ (v.text ++
        (w₃.1 ++ [','])))))))
  | _, _, _ => []

def Document.contexts (d : Document) : List (Text × List Piece × Syn .value) :=
  d.value.contexts d.before.1

variable (members : Syn .members)

lemma Syn.contexts_members (u : Text) : (members.contexts u).map Prod.snd = members.memberList := by
  induction members using members_induction generalizing u with
  | last => rfl
  | more w key w₁ w₂ v w₃ rest ih => exact congrArg (_ :: ·) (ih _)

lemma Syn.contexts_text {u : Text} {m : Text × List Piece × Syn .value}
    (hm : m ∈ members.contexts u) {r : Text} (hr : Bounded r) :
    ∃ (w₁ w₂ : Blank) (r' : Text), Bounded r' ∧ u ++ (members.text ++ r) =
      m.1 ++ (stringText m.2.1 ++ (w₁.1 ++ ':' :: (w₂.1 ++ (m.2.2.text ++ r')))) := by
  induction members using members_induction generalizing u with
  | last w key w₁ w₂ v w₃ =>
    rw [contexts, mem_singleton] at hm
    subst hm
    exact ⟨w₁, w₂, w₃.1 ++ r, hr.blank w₃, by simp [text]⟩
  | more w key w₁ w₂ v w₃ rest ih =>
    rw [contexts, mem_cons] at hm
    rcases hm with rfl | hm
    · exact ⟨w₁, w₂, w₃.1 ++ ',' :: (rest.text ++ r), (bounded_cons rfl _).blank w₃, by simp [text]⟩
    · obtain ⟨w₁', w₂', r', hr', htext⟩ := ih hm
      exact ⟨w₁', w₂', r', hr', by rw [← htext]; simp [text]⟩

namespace Document
variable {d : Document}

lemma contexts_memberList (d : Document) : d.contexts.map Prod.snd = d.value.memberList := by
  obtain ⟨before, value, after⟩ := d
  cases value with
  | object members => exact members.contexts_members _
  | _ => rfl

lemma contexts_text {m : Text × List Piece × Syn .value} (hm : m ∈ d.contexts) :
    ∃ (w₁ w₂ : Blank) (r : Text), Bounded r ∧ d.text =
      m.1 ++ (stringText m.2.1 ++ (w₁.1 ++ ':' :: (w₂.1 ++ (m.2.2.text ++ r)))) := by
  obtain ⟨before, value, after⟩ := d
  cases value with
  | object members =>
    obtain ⟨w₁, w₂, r, hr, htext⟩ := members.contexts_text hm (bounded_cons (c := '\x7d') rfl after.1)
    exact ⟨w₁, w₂, r, hr, by rw [← htext]; simp [text, Syn.text]⟩
  | _ => cases hm

/-- The first place of the quoted name is the key of the first member with the name. -/
def KeyFirst (d : Document) (name : Text) : Prop :=
  let found := d.contexts.find? fun m => decode m.2.1 = name
  found.isSome = true ∧
    Search.find (quoted name) d.text = found.map fun m => m.1.length

instance (d : Document) (name : Text) : Decidable (d.KeyFirst name) :=
  inferInstanceAs (Decidable (_ ∧ _))

/-- What follows the first place of the quoted name is then the colon and the value. -/
lemma KeyFirst.value {name : Text} (hname : Word name) (h : d.KeyFirst name) :
    ∃ p v, ∃ (w₁ w₂ : Blank) (r : Text), Bounded r ∧ d.value.find name = some v ∧
      find (quoted name) d.text = some p ∧
      d.text.drop (p + (quoted name).length) = w₁.1 ++ ':' :: (w₂.1 ++ (v.text ++ r)) := by
  obtain ⟨hsome, hfind⟩ := h
  obtain ⟨m, hm⟩ := Option.isSome_iff_exists.mp hsome
  rw [hm, Option.map_some] at hfind
  obtain ⟨w₁, w₂, r, hr, htext⟩ := contexts_text (mem_of_find?_eq_some hm)
  have hvalue : d.value.find name = some m.2.2 := by
    unfold Syn.find
    rw [← contexts_memberList, find?_map, Option.map_map]
    exact congrArg (Option.map _) hm
  have hquoted : stringText m.2.1 = quoted name := by
    have hstarts := prefix_of_find hfind
    rw [htext, drop_left] at hstarts
    have hbody : name ++ ['"'] <+: piecesText m.2.1 ++ '"' ::
        (w₁.1 ++ ':' :: (w₂.1 ++ (m.2.2.text ++ r))) := by
      simpa [quoted, stringText, cons_prefix_cons] using hstarts
    rw [stringText, (word_prefix_iff hname.quote_notMem hname.backslash_notMem _ _).mp hbody, quoted]
  refine ⟨m.1.length, m.2.2, w₁, w₂, r, hr, hvalue, hfind, ?_⟩
  rw [htext, hquoted, ← append_assoc, drop_left' (by simp)]

end Document

end NetaAgent.JsonText
