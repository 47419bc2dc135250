import NetaAgent.JsonText
import NetaAgent.UpgradeJson

/-!
`object_member_string` on the texts of JSON objects.

The reader is no parser: it decodes the keys on its way and skips the values, counting brackets
outside strings. By induction over the syntax trees a value is skipped as a whole, so that a turn of
the loop always starts at a member of the object itself.
-/

namespace NetaAgent.UpgradeJson

open Decimal JsonText List Syn

/-! ### Strings -/

def supported : Piece → Bool
  | .plain _ => true
  | .escape _ => true
  | .unicode _ _ _ _ => false

abbrev Supported (s : List Piece) : Prop := ∀ p ∈ s, supported p = true

lemma unescapeChar_letter (e : Escape) : unescapeChar e.letter = some e.meaning := by
  cases e <;> rfl

variable {k s : List Piece}

lemma stringBody_pieces (hs : Supported s) (r : Text) :
    stringBody (piecesText s ++ '"' :: r) = .ok (decode s, r) := by
  induction s with
  | nil => exact stringBody_quote r
  | cons p s ih =>
    obtain ⟨hp, hrest⟩ := forall_mem_cons.mp hs
    cases p with
    | plain c =>
      obtain ⟨c, hc, hq, hb⟩ := c
      rw [decode_plain]
      change stringBody (c :: (piecesText s ++ '"' :: r)) = .ok (c :: decode s, r)
      rw [stringBody_plain hq hb (Nat.not_lt.mpr hc), ih hrest]
      rfl
    | escape e =>
      rw [decode_escape]
      change stringBody ('\\' :: e.letter :: (piecesText s ++ '"' :: r)) = _
      rw [stringBody, if_neg (by decide), if_pos rfl]
      simp only [unescapeChar_letter, ih hrest]
      rfl
    | unicode => cases hp

lemma jsonUnescapeString_stringText (hs : Supported s) (r : Text) :
    jsonUnescapeString (stringText s ++ r) = .ok (decode s, r) := by
  rw [stringText_append, jsonUnescapeString, if_pos rfl, stringBody_pieces hs]

/-! ### Skipping values -/

lemma skipValue_piece (p : Piece) (n : ℕ) (r : Text) :
    skipValue true false n (p.text ++ r) = skipValue true false n r := by
  cases p with
  | plain c => exact skipValue_plain c.2.2.1 c.2.2.2 n r
  | escape => simp [Piece.text, skipValue]
  | unicode a b c d => simp [Piece.text, skipValue, a.ne, b.ne, c.ne, d.ne]

lemma skipValue_stringText (s : List Piece) (n : ℕ) (r : Text) :
    skipValue false false n (stringText s ++ r) = skipValue false false n r := by
  have hbody : skipValue true false n (piecesText s ++ '"' :: r) = skipValue false false n r := by
    induction s with
    | nil => simp [piecesText, skipValue]
    | cons p s ih =>
      rw [piecesText_cons, append_assoc, skipValue_piece, ih]
  rw [stringText_append, skipValue, if_pos rfl, hbody]

lemma skipValue_inert {t : Text} (ht : ∀ c ∈ t, isStructural c = false) (n : ℕ) (r : Text) :
    skipValue false false n (t ++ r) = skipValue false false n r := by
  induction t with
  | nil => rfl
  | cons c t ih =>
    rw [forall_mem_cons] at ht
    have hc := ht.1
    simp only [isStructural, Bool.or_eq_false_iff, beq_eq_false_iff_ne] at hc
    rw [cons_append, skipValue]
    simp only [hc, or_self, if_false, false_and]
    exact ih ht.2

section Depth
variable (n : ℕ) (r : Text)

lemma skipValue_open {c : Char} (hc : c = '\x7b' ∨ c = '[') :
    skipValue false false n (c :: r) = skipValue false false (n + 1) r := by
  have hq : c ≠ '"' := by rcases hc with rfl | rfl <;> decide
  rw [skipValue, if_neg hq, if_pos hc]

lemma skipValue_close {c : Char} (hc : c = '\x7d' ∨ c = ']') :
    skipValue false false (n + 1) (c :: r) = skipValue false false n r := by
  have hq : c ≠ '"' := by rcases hc with rfl | rfl <;> decide
  have ho : ¬ (c = '\x7b' ∨ c = '[') := by rcases hc with rfl | rfl <;> decide
  rw [skipValue, if_neg hq, if_neg ho, if_pos hc, if_neg (Nat.succ_ne_zero n), Nat.add_sub_cancel]

lemma skipValue_colon : skipValue false false n (':' :: r) = skipValue false false n r := by
  simp [skipValue]

variable {n r} in
lemma skipValue_comma (hn : 0 < n) :
    skipValue false false n (',' :: r) = skipValue false false n r := by
  simp [skipValue, hn.ne']

lemma skipValue_separator : skipValue false false 0 (',' :: r) = r := by
  simp [skipValue]

lemma skipValue_end : skipValue false false 0 ('\x7d' :: r) = '\x7d' :: r := by
  simp [skipValue]

end Depth

/-- The text of a value is skipped at any depth, that of its items and members inside it. -/
lemma skipValue_text {k : Kind} (s : Syn k) {n : ℕ} (hn : k = .value ∨ 0 < n) (r : Text) :
    skipValue false false n (s.text ++ r) = skipValue false false n r := by
  have hbracketed : ∀ {n : ℕ} {t : Text} {c d : Char}, c = '\x7b' ∨ c = '[' → d = '\x7d' ∨ d = ']' →
      (∀ r, skipValue false false (n + 1) (t ++ r) = skipValue false false (n + 1) r) →
      ∀ r, skipValue false false n (c :: (t ++ [d]) ++ r) = skipValue false false n r := by
    intro n t c d hc hd ht r
    rw [cons_append, append_assoc, skipValue_open _ _ hc, ht]
    exact skipValue_close _ _ hd
  have hscanned : Scanned fun n t =>
      ∀ r, skipValue false false n (t ++ r) = skipValue false false n r :=
    { append := fun ht hu r => by rw [append_assoc, ht, hu]
      plain := fun ht => skipValue_inert ht _
      string := fun s => skipValue_stringText s _
      colon := skipValue_colon _
      comma := fun hn r => skipValue_comma hn
      array := hbracketed (.inr rfl) (.inr rfl)
      object := hbracketed (.inl rfl) (.inl rfl) }
  exact hscanned.tree s hn r

/-! ### One turn of the loop -/

/-- What is returned for the member asked for, at its value. -/
def requestedValue (t : Text) : Except Text (Option Text) :=
  if "null" <+: t then .ok none else (jsonUnescapeString t).map fun p => some p.1

/-- A turn of the loop returns, or goes on with the rest of the text. -/
def memberTurn (key t : Text) : Except Text (Option Text) ⊕ Text :=
  if (skipSpace t).head? = some '\x7d' then .inl (.ok none)
  else
    match jsonUnescapeString (skipSpace t) with
    | .error e => .inl (.error e)
    | .ok (currentKey, r) =>
      match skipSpace r with
      | [] => .inl (.error "expected JSON member separator")
      | c :: r =>
        if c ≠ ':' then .inl (.error "expected JSON member separator")
        else if currentKey = key then .inl (requestedValue (skipSpace r))
        else .inr (skipValue false false 0 (skipSpace r))

lemma memberLoop_succ (key t : Text) (fuel : ℕ) :
    memberLoop key (fuel + 1) t = (memberTurn key t).elim id (memberLoop key fuel) := by
  rw [memberLoop, memberTurn]
  dsimp only
  split
  · rfl
  · cases jsonUnescapeString (skipSpace t) with
    | error => rfl
    | ok p =>
      obtain ⟨currentKey, r⟩ := p
      simp only [bind, Except.bind]
      cases skipSpace r with
      | nil => rfl
      | cons =>
        simp only [requestedValue]
        split_ifs <;> rfl

/-- What the loop returns if it ends within so many turns. -/
def memberTurns (key : Text) : ℕ → Text → Option (Except Text (Option Text))
  | 0, _ => none
  | n + 1, t => (memberTurn key t).elim some (memberTurns key n)

def objectMemberStringWithin (turns : ℕ) (object key : Text) : Option (Except Text (Option Text)) :=
  match skipSpace object with
  | [] => some (.error "expected JSON object")
  | c :: r =>
    if c ≠ '\x7b' then some (.error "expected JSON object") else memberTurns key turns r

lemma length_skipSpace (t : Text) : (skipSpace t).length ≤ t.length :=
  (dropWhile_suffix _).length_le

lemma length_stringBody {t : Text} {p : Text × Text} (h : stringBody t = .ok p) :
    p.2.length ≤ t.length := by
  fun_induction stringBody t generalizing p with
  | case2 => cases h; simp
  | case5 e r d hd hq ih =>
    obtain ⟨q, hbody, rfl⟩ := map_eq_ok h
    have := ih hbody
    simp only [length_cons]
    omega
  | case1 | case3 | case4 | case6 => cases h
  | case7 c r hq hb hc ih =>
    obtain ⟨q, hbody, rfl⟩ := map_eq_ok h
    have := ih hbody
    simp only [length_cons]
    omega

lemma length_skipValue (inString escaped : Bool) (n : ℕ) (t : Text) :
    (skipValue inString escaped n t).length ≤ t.length := by
  fun_induction skipValue inString escaped n t <;> simp_all <;> omega

lemma length_memberTurn {key t r : Text} (h : memberTurn key t = .inr r) : r.length < t.length := by
  unfold memberTurn at h
  split at h
  · cases h
  split at h
  · cases h
  next currentKey rest hkey =>
    split at h
    · cases h
    next c r' hrest =>
      split_ifs at h
      cases h
      have hkeyed : rest.length ≤ t.length := by
        have hspace := length_skipSpace t
        unfold jsonUnescapeString at hkey
        split at hkey
        · cases hkey
        next hcons =>
          split at hkey
          · have hbody := length_stringBody hkey
            rw [hcons, length_cons] at hspace
            dsimp only at hbody
            omega
          · cases hkey
      have hseparator : r'.length < rest.length := by
        have := length_skipSpace rest
        rw [hrest, length_cons] at this
        omega
      have := length_skipValue false false 0 (skipSpace r')
      have := length_skipSpace r'
      omega

lemma memberTurns_eq (key : Text) {t : Text} {n : ℕ} (h : t.length < n) :
    memberTurns key n t = some (memberLoop key n t) := by
  induction n generalizing t with
  | zero => exact absurd h (Nat.not_lt_zero _)
  | succ n ih =>
    rw [memberLoop_succ, memberTurns]
    cases hturn : memberTurn key t with
    | inl => rfl
    | inr =>
      have := length_memberTurn hturn
      exact ih (by omega)

lemma objectMemberString_ends (object key : Text) :
    objectMemberStringWithin (object.length + 1) object key = some (objectMemberString object key) := by
  unfold objectMemberStringWithin objectMemberString
  have hspace := length_skipSpace object
  cases hobject : skipSpace object with
  | nil => rfl
  | cons =>
    rw [hobject, length_cons] at hspace
    simp only
    split
    · rfl
    · exact memberTurns_eq key (by omega)

/-! ### The members of an object -/

lemma memberTurn_member (hk : Supported k) (key : Text) (w w₁ w₂ : Blank)
    (v : Syn .value) (r : Text) :
    memberTurn key (w.1 ++ (stringText k ++ (w₁.1 ++ ':' :: (w₂.1 ++ (v.text ++ r))))) =
      if decode k = key then .inl (requestedValue (v.text ++ r))
      else .inr (skipValue false false 0 r) := by
  obtain ⟨c, u, htext, hc, -⟩ := v.head_text
  have hvalue : skipSpace (w₂.1 ++ (v.text ++ r)) = v.text ++ r := by
    rw [htext, cons_append]
    exact w₂.dropWhile hc _
  have hkey : ∀ rest, skipSpace (w.1 ++ (stringText k ++ rest)) = stringText k ++ rest :=
    fun rest => w.dropWhile (by decide) _
  have hcolon : ∀ rest, skipSpace (w₁.1 ++ ':' :: rest) = ':' :: rest :=
    fun rest => w₁.dropWhile (by decide) _
  have hquote : ∀ rest, (stringText k ++ rest).head? ≠ some '\x7d' := by
    intro rest
    simp [stringText]
  unfold memberTurn
  rw [hkey, if_neg (hquote _), jsonUnescapeString_stringText hk]
  simp only [hcolon, ne_eq, not_true_eq_false, if_false, hvalue, skipValue_text v (.inl rfl)]

lemma memberTurn_close (key : Text) (w : Blank) (r : Text) :
    memberTurn key (w.1 ++ '\x7d' :: r) = .inl (.ok none) := by
  have hskip : skipSpace (w.1 ++ '\x7d' :: r) = '\x7d' :: r := w.dropWhile (by decide) _
  rw [memberTurn, hskip, if_pos head?_cons]

lemma memberLoop_tree (key : Text) (members : Syn .members)
    (hkeys : ∀ m ∈ members.memberList, Supported m.1) (r : Text) {fuel : ℕ}
    (hfuel : members.memberList.length < fuel) :
    Finds key requestedValue (.ok none) members.memberList
      (memberLoop key fuel (members.text ++ '\x7d' :: r)) := by
  induction members using members_induction generalizing fuel with
  | last w k w₁ w₂ v w₃ =>
    obtain ⟨fuel, rfl⟩ : ∃ n, fuel = n + 2 := ⟨fuel - 2, by simp [memberList] at hfuel; omega⟩
    simp only [text, append_assoc, cons_append]
    rw [memberLoop_succ, memberTurn_member (hkeys _ mem_cons_self)]
    split
    next h => exact Finds.here h _
    next h =>
      refine Finds.later h ?_
      rw [skipValue_inert w₃.plain, skipValue_end, Sum.elim_inr, memberLoop_succ]
      rw [show memberTurn key ('\x7d' :: r) = _ from memberTurn_close key Blank.none r]
      exact finds_nil
  | more w k w₁ w₂ v w₃ rest ih =>
    obtain ⟨fuel, rfl⟩ : ∃ n, fuel = n + 1 := ⟨fuel - 1, by omega⟩
    simp only [memberList, forall_mem_cons, length_cons] at hkeys hfuel
    simp only [text, append_assoc, cons_append]
    rw [memberLoop_succ, memberTurn_member hkeys.1]
    split
    next h => exact Finds.here h _
    next h =>
      refine Finds.later h ?_
      rw [skipValue_inert w₃.plain, skipValue_separator]
      exact ih hkeys.2 (by omega)

lemma length_memberList (members : Syn .members) : members.memberList.length ≤ members.text.length := by
  induction members using members_induction with
  | last =>
    simp only [memberList, text, length_append, length_cons, length_nil]
    omega
  | more w k w₁ w₂ v w₃ rest ih =>
    simp only [memberList, text, length_append, length_cons] at ih ⊢
    omega

lemma objectMemberString_finds {d : Document} (hobject : d.value.isObject = true) (key : Text)
    (hkeys : ∀ m ∈ d.value.memberList, Supported m.1) :
    Finds key requestedValue (.ok none) d.value.memberList (objectMemberString d.text key) := by
  obtain ⟨before, value, after⟩ := d
  have hskip : ∀ r, skipSpace (before.1 ++ '\x7b' :: r) = '\x7b' :: r :=
    fun r => before.dropWhile (by decide) _
  cases value with
  | emptyObject w =>
    have htext : Document.text ⟨before, .emptyObject w, after⟩ =
        before.1 ++ '\x7b' :: (w.1 ++ '\x7d' :: after.1) := by
      simp [Document.text, text]
    unfold objectMemberString
    simp only [htext, hskip, ne_eq, not_true_eq_false, if_false]
    rw [memberLoop_succ, memberTurn_close]
    exact finds_nil
  | object members =>
    have hlength := length_memberList members
    unfold objectMemberString
    simp only [Document.text_object, hskip, ne_eq, not_true_eq_false, if_false]
    refine memberLoop_tree key members hkeys after.1 ?_
    simp only [length_append, length_cons]
    omega
  | _ => cases hobject

lemma requestedValue_null (r : Text) : requestedValue ((null).text ++ r) = .ok none := by
  exact if_pos (prefix_append _ r)

lemma requestedValue_string (hs : Supported s) (r : Text) :
    requestedValue ((string s).text ++ r) = .ok (some (decode s)) := by
  have hnull : ¬ "null" <+: (string s).text ++ r := by
    simp [text, stringText, cons_prefix_cons]
  rw [requestedValue, if_neg hnull, text, jsonUnescapeString_stringText hs]
  rfl

/-- **The reader of the upgrade files on JSON objects.** For every text of a JSON object whose own
keys the reader can decode, it returns what the first member with the key stands for, and nothing if
there is none or it is null, whatever the other members contain; and its loop ends. -/
theorem member_of_json_object (d : Document) (hobject : d.value.isObject = true) (key : Text)
    (hkeys : ∀ m ∈ d.value.memberList, Supported m.1) :
    (d.value.find key = none → objectMemberString d.text key = .ok none) ∧
      (d.value.find key = some .null → objectMemberString d.text key = .ok none) ∧
      (∀ s, d.value.find key = some (.string s) → Supported s →
        objectMemberString d.text key = .ok (some (decode s))) ∧
      objectMemberStringWithin (d.text.length + 1) d.text key =
        some (objectMemberString d.text key) := by
  have hfinds := objectMemberString_finds hobject key hkeys
  refine ⟨hfinds.missing, fun h => ?_, fun s h hs => ?_, objectMemberString_ends d.text key⟩
  · obtain ⟨r, hr⟩ := hfinds.value h
    rw [hr, requestedValue_null]
  · obtain ⟨r, hr⟩ := hfinds.value h
    rw [hr, requestedValue_string hs]

/-- The key in a nested object and as a value, before the member itself. -/
def nestedSample : Document :=
  ⟨.spaces 1,
    .object (.member .none (spell ['a']) .none (.spaces 1)
      (.array (.item .none (.object (.lastMember .none (spell ['k']) .none .none (.string [])
          .none)) .none
        (.lastItem (.spaces 1) (.string (spell ['k'])) .none))) .none
      (.lastMember (.spaces 1) (spell ['k']) (.spaces 1) .none
        (.string (spell ['v'] ++ [.escape .quote])) (.spaces 1))),
    .none⟩

theorem member_of_json_object_nested :
    nestedSample.text = " \x7b\"a\": [\x7b\"k\":\"\"\x7d, \"k\"], \"k\" :\"v\\\"\" \x7d" ∧
      objectMemberString nestedSample.text ['k'] = .ok (some ['v', '"']) :=
  ⟨by decide,
    (member_of_json_object nestedSample rfl ['k'] (by decide)).2.2.1 _ rfl (by decide)⟩

end NetaAgent.UpgradeJson
