import NetaAgent.UpgradePlaces

/-!
The two upgrade files, read back after they are written.

Both writers spell a control byte as a `\u` escape and both readers refuse these. The reader of the
activation record also finds a key by its text, so that the end of a value can be taken for one.
-/

namespace NetaAgent.Upgrade

open Decimal Search UpgradeJson NapEnvelope JsonText UpgradeInstruction
open List hiding after

/-! ### What a valid instruction is made of -/

lemma readable_of_hexDigit {c : Char} (h : isHexDigit c = true) : Readable c := by
  rw [isHexDigit_iff] at h
  exact .inl (by omega)

variable {k r t v x key : Text}

lemma readable_of_isHex {n : ℕ} (h : isHex t n = true) : ReadableText t := by
  simp only [isHex, Bool.and_eq_true, all_eq_true] at h
  exact fun c hc => readable_of_hexDigit (h.2 c hc)

lemma looksLikeUuid_chars (h : looksLikeUuid t = true) :
    ∀ c ∈ t, c = '-' ∨ isHexDigit c = true := by
  simp only [looksLikeUuid, Bool.and_eq_true, all_eq_true] at h
  intro c hc
  obtain ⟨i, hi⟩ := mem_iff_getElem?.mp hc
  have hat := h.2 (c, i) (mem_zipIdx_iff_getElem?.mpr hi)
  dsimp only at hat
  split_ifs at hat with hdash
  · exact .inl (by simpa using hat)
  · exact .inr hat

lemma readable_of_looksLikeUuid (h : looksLikeUuid t = true) : ReadableText t := by
  intro c hc
  rcases looksLikeUuid_chars h c hc with rfl | hhex
  · decide
  · exact readable_of_hexDigit hhex

lemma ne_nil_of_isHex {n : ℕ} (hn : n ≠ 0) (h : isHex t n = true) : t ≠ [] := by
  rintro rfl
  simp only [isHex, Bool.and_eq_true, decide_eq_true_eq, length_nil] at h
  exact hn h.1.symm

lemma lower_ne_nil (h : t ≠ []) : lower t ≠ [] := by
  simpa [lower] using h

lemma ne_nil_of_requireMember {object key v : Text} (h : requireMember object key = .ok v) :
    v ≠ [] := by
  obtain ⟨x, -, h⟩ := bind_eq_ok h
  split at h
  · cases h
    exact cons_ne_nil _ _
  · cases h

lemma readable_of_toLower {c : Char} (h : Readable c.toLower) : Readable c := by
  rcases toLower_cases c with hc | hc
  · rwa [hc] at h
  · exact .inl (by omega)

lemma readable_of_lower (h : ReadableText (lower t)) : ReadableText t :=
  fun _ hc => readable_of_toLower (h _ (mem_map_of_mem hc))

variable {i : UpgradeInstruction}

lemma checks_of_validate {build : BuildIdentity} (h : validateUpgradeInstruction i build = .ok ()) :
    looksLikeUuid i.upgradeId = true ∧ isHex (lower i.gitCommit) 40 = true := by
  unfold validateUpgradeInstruction at h
  split_ifs at h with h1 h2 h3 h4
  all_goals exact ⟨by simpa using h1, by simpa using h3⟩

lemma texts_of_readInstruction {object : Text} (h : readInstruction object = .ok i) :
    (∀ t ∈ i.texts, t ≠ []) ∧ ReadableText i.sha256 := by
  obtain ⟨_, h1, h⟩ := bind_eq_ok h
  obtain ⟨_, h2, h⟩ := bind_eq_ok h
  obtain ⟨_, h3, h⟩ := bind_eq_ok h
  obtain ⟨_, h4, h⟩ := bind_eq_ok h
  obtain ⟨_, h5, h⟩ := bind_eq_ok h
  obtain ⟨_, h6, h⟩ := bind_eq_ok h
  obtain ⟨_, h7, h⟩ := bind_eq_ok h
  obtain ⟨_, h8, h⟩ := bind_eq_ok h
  obtain ⟨_, -, h⟩ := bind_eq_ok h
  obtain ⟨_, hhash, h⟩ := bind_eq_ok h
  cases h
  have hhex := isHex_of_normalizeSha256 hhash
  refine ⟨?_, readable_of_isHex hhex⟩
  simp only [texts, forall_mem_cons, not_mem_nil, false_implies, implies_true, and_true]
  exact ⟨ne_nil_of_requireMember h1, ne_nil_of_requireMember h2, ne_nil_of_requireMember h3,
    lower_ne_nil (ne_nil_of_requireMember h4), lower_ne_nil (ne_nil_of_requireMember h5),
    lower_ne_nil (ne_nil_of_requireMember h6), ne_nil_of_requireMember h7,
    ne_nil_of_requireMember h8, ne_nil_of_isHex (by decide) hhex⟩

lemma readInstruction_of_parse {body : Text}
    (h : parseUpgradeInstructionResponse body = .ok (some i)) :
    ∃ object, readInstruction object = .ok i := by
  rw [parseUpgradeInstructionResponse_eq] at h
  obtain ⟨object, -, h⟩ := bind_eq_ok h
  cases object with
  | none => cases h
  | some text =>
    obtain ⟨_, hread, hi⟩ := map_eq_ok h
    cases hi
    exact ⟨text, hread⟩

/-! ### The state file -/

/-- The texts of a state that the checks of its instruction say nothing about. -/
def UpgradeState.openTexts (s : UpgradeState) : List Text :=
  [s.instruction.version, s.instruction.buildId, s.instruction.os, s.instruction.arch,
    s.instruction.artifactName, s.instruction.downloadUrl, s.downloadPath, s.lastError]

/-- **The state file round trip.** A state whose instruction was parsed from an answer and passed
validation is read back from its file exactly if none of its open texts has a control byte other
than line feed, carriage return and tab. -/
theorem state_roundtrip {body : Text} {build : BuildIdentity} {s : UpgradeState}
    (hparse : parseUpgradeInstructionResponse body = .ok (some s.instruction))
    (hvalid : validateUpgradeInstruction s.instruction build = .ok ()) :
    stateFromJson (stateJson s) = .ok s ↔ ∀ t ∈ s.openTexts, ReadableText t := by
  obtain ⟨object, hread⟩ := readInstruction_of_parse hparse
  obtain ⟨hne, hsha⟩ := texts_of_readInstruction hread
  have hid : ReadableText s.instruction.upgradeId :=
    readable_of_looksLikeUuid (checks_of_validate hvalid).1
  have hcommit : ReadableText s.instruction.gitCommit :=
    readable_of_lower (readable_of_isHex (checks_of_validate hvalid).2)
  constructor
  · intro h
    obtain ⟨htexts, hpath, herror⟩ := (stateFromJson_written h).2
    simp only [texts, forall_mem_cons] at htexts
    obtain ⟨-, hversion, hbuild, -, hos, harch, hname, hurl, -⟩ := htexts
    simp only [UpgradeState.openTexts, forall_mem_cons]
    exact ⟨hversion, hbuild, hos, harch, hname, hurl, hpath, herror, fun _ ht => by cases ht⟩
  · intro h
    simp only [UpgradeState.openTexts, forall_mem_cons] at h
    obtain ⟨hversion, hbuild, hos, harch, hname, hurl, hpath, herror, -⟩ := h
    have htexts : ∀ t ∈ s.instruction.texts, ReadableText t := by
      simp only [texts, forall_mem_cons]
      exact ⟨hid, hversion, hbuild, hcommit, hos, harch, hname, hurl, hsha, fun _ ht => by cases ht⟩
    exact stateFromJson_loadable ⟨fun t ht => ⟨htexts t ht, hne t ht⟩, hpath, herror⟩

def answerWith (i : UpgradeInstruction) : Text :=
  (Syn.objectOf [("upgrade", instructionObject i)]).text

theorem state_roundtrip_sample :
    stateFromJson (stateJson ⟨sampleInstruction, .failed, "/d", "line 1\nline 2"⟩) =
      .ok ⟨sampleInstruction, .failed, "/d", "line 1\nline 2"⟩ := by
  have hanswer : parseUpgradeInstructionResponse (answerWith sampleInstruction) =
        .ok (some sampleInstruction) ∧
      validateUpgradeInstruction sampleInstruction sampleBuild = .ok () := by
    decide +kernel
  exact (state_roundtrip hanswer.1 hanswer.2).mpr (by decide)

def backspaceInstruction : UpgradeInstruction := { sampleInstruction with version := "2\x08" }

/-- It is accepted and stored, and from then on neither `load` nor `accept` gets past the file. -/
theorem stored_version_unreadable :
    let accepted := acceptUpgradeFromCoordinatorResponse sampleEnv sampleBuild ⟨none, none⟩
      (answerWith backspaceInstruction)
    validateUpgradeInstruction backspaceInstruction sampleBuild = .ok () ∧
      accepted.1 = .ok (some ⟨backspaceInstruction, .received, [], []⟩) ∧
      load none accepted.2 = .error unsupportedEscape ∧
      (accept sampleEnv sampleInstruction sampleBuild accepted.2).1 = .error unsupportedEscape := by
  decide +kernel

/-! ### Finding a key in the activation record -/

lemma exists_pieces (v : Text) : ∃ s, piecesText s = jsonEscape v := by
  have hchar (c : Char) : ∃ p : Piece, p.text = escapeChar c := by
    unfold escapeChar
    split_ifs with h1 h2 h3 h4 h5 h6
    · exact ⟨.escape .backslash, rfl⟩
    · exact ⟨.escape .quote, rfl⟩
    · exact ⟨.escape .lineFeed, rfl⟩
    · exact ⟨.escape .carriageReturn, rfl⟩
    · exact ⟨.escape .tab, rfl⟩
    · have hdigit : ∀ n < 16, isHexDigit (Nat.digitChar n) = true := by decide
      exact ⟨.unicode ⟨'0', rfl⟩ ⟨'0', rfl⟩ ⟨_, hdigit (c.toNat / 16) (by omega)⟩
        ⟨_, hdigit (c.toNat % 16) (by omega)⟩, rfl⟩
    · exact ⟨.plain ⟨c, not_lt.mp h6, h2, h1⟩, rfl⟩
  induction v with
  | nil => exact ⟨[], rfl⟩
  | cons c v ih =>
    obtain ⟨p, hp⟩ := hchar c
    obtain ⟨s, hs⟩ := ih
    exact ⟨p :: s, by rw [piecesText_cons, hp, hs]; rfl⟩

def valueToken (v : Text) : Text := '"' :: (jsonEscape v ++ ['"'])

def written (v : Text) : Except Text Text :=
  if ReadableText v then .ok v
  else .error "unsupported JSON escape in upgrade activation state"

lemma memberBody_eq (v r : Text) : memberBody (jsonEscape v ++ '"' :: r) = written v := by
  unfold written
  split_ifs with hv
  · exact memberBody_jsonEscape hv r
  · exact memberBody_of_refused (by rw [stringBody_jsonEscape, if_neg hv])

/-- What `member_string` returns for a key of a written object: the value of the first member with
the key, or of the member after the first value that ends in the quoted key. -/
def readsVia (key : Text) : List (Text × Text) → Except Text Text
  | [] => .ok []
  | [m] => if m.1 = key then written m.2 else .ok []
  | m :: m' :: ms =>
    if m.1 = key then written m.2
    else if quoted key <:+ valueToken m.2 then written m'.2
    else readsVia key (m' :: ms)

def membersRest : List (Text × Text) → Text
  | [] => "\n\x7d\n"
  | m :: ms => ',' :: membersText (m :: ms)

lemma membersText_cons (m : Text × Text) (ms : List (Text × Text)) :
    membersText (m :: ms) = memberText m ++ membersRest ms := by
  cases ms <;> rfl

lemma bounded_membersRest (ms : List (Text × Text)) : Bounded (membersRest ms) := by
  cases ms with
  | nil =>
    intro c hc
    obtain rfl : '\n' = c := by simpa [membersRest] using hc
    exact .inr rfl
  | cons m ms => exact bounded_cons rfl _

/-- The search for a key at a member: its key, the end of its value, or what follows. -/
lemma after_memberText (hkey : Word key) (hk : Word k) (v : Text) (hr : Bounded r) :
    after (quoted key) (memberText (k, v) ++ r) =
      if k = key then some (": \"" ++ (jsonEscape v ++ '"' :: r))
      else if quoted key <:+ valueToken v then some r
      else after (quoted key) r := by
  obtain ⟨s, hs⟩ := exists_pieces v
  have htoken : valueToken v = stringText s := by rw [valueToken, stringText, hs]
  have htext : memberText (k, v) ++ r =
      "\n  " ++ '"' :: (k ++ '"' :: (": " ++ (valueToken v ++ r))) := by
    simp [memberText, valueToken]
  have hvalue : after (quoted key) (valueToken v ++ r) =
      if quoted key <:+ valueToken v then some r else after (quoted key) r := by
    rw [htoken]
    exact after_stringText hkey s (word_not_prefix_of_bounded hkey hr)
  have hblank : after (quoted key) (memberText (k, v) ++ r) =
      after (quoted key) ('"' :: (k ++ '"' :: (": " ++ (valueToken v ++ r)))) := by
    rw [htext]
    exact after_append (by decide) _
  rw [hblank]
  by_cases heq : k = key
  · rw [if_pos heq, heq, show key ++ '"' :: (": " ++ (valueToken v ++ r)) =
        (key ++ ['"']) ++ (": \"" ++ (jsonEscape v ++ '"' :: r)) by simp [valueToken]]
    exact after_self _ _ _
  · have hkeyNot : ¬ key ++ ['"'] <+: k ++ '"' :: (": " ++ (valueToken v ++ r)) :=
      fun h => heq (eq_of_quoted hkey.quote_notMem hk.quote_notMem h)
    have hcolonNot : ¬ key ++ ['"'] <+: ": " ++ (valueToken v ++ r) :=
      word_not_prefix_of_bounded hkey (bounded_cons (c := ':') rfl _)
    have hskip : after (quoted key) ('"' :: (k ++ '"' :: (": " ++ (valueToken v ++ r)))) =
        after (quoted key) (valueToken v ++ r) := by
      rw [quoted, after_cons_ne hkeyNot, after_append hk.quote_notMem, after_cons_ne hcolonNot,
        after_append (by decide)]
    rw [if_neg heq, hskip, hvalue]

/-- After the end of a value that was taken for a key, the next member's value is decoded. -/
lemma memberAfter_rest (hk : Word k) (v : Text) (ms : List (Text × Text)) :
    memberAfter (membersRest ((k, v) :: ms)) = written v := by
  have htext : membersRest ((k, v) :: ms) = ",\n  \"" ++ (k ++ ['"']) ++
      ([':'] ++ (' ' :: '"' :: (jsonEscape v ++ '"' :: membersRest ms))) := by
    rw [membersRest, membersText_cons]
    simp [memberText]
  have hnone : ':' ∉ ",\n  \"" ++ (k ++ ['"']) := by
    simp only [mem_append, not_or]
    refine ⟨by decide, fun h => ?_, by decide⟩
    cases (hk.plain _ h).1
  have hdrop : ∀ a t : Text, (a ++ ([':'] ++ t)).drop (a.length + 1) = t := by
    intro a t
    rw [← append_assoc, drop_left' (by simp)]
  have hskip : skipSpace (' ' :: '"' :: (jsonEscape v ++ '"' :: membersRest ms)) =
      '"' :: (jsonEscape v ++ '"' :: membersRest ms) := by
    simp [skipSpace, isSpace]
  rw [htext, memberAfter, find_append hnone]
  simp only [hdrop, hskip, if_true]
  exact memberBody_eq v _

lemma memberAfter_end : memberAfter (membersRest []) = .ok [] := by decide

/-- `member_string` on the text of a written object. -/
lemma memberString_objectText (hkey : Word key)
    (hms : ∀ m ∈ ms, Word m.1) : memberString (objectText ms) key = readsVia key ms := by
  have hopen : after (quoted key) (objectText ms) = after (quoted key) (membersText ms) :=
    after_skip (by decide) _
  have hrest : after (quoted key) (membersRest []) = none := by
    have h := @after_append '"' (key ++ ['"']) (membersRest []) (by decide) []
    rw [append_nil] at h
    rw [quoted, h]
    simp [after]
  rw [memberString_eq, ← quoted, hopen]
  induction ms using membersText.induct with
  | case1 => rw [show membersText [] = membersRest [] from rfl, hrest]; rfl
  | case2 m =>
    obtain ⟨k, v⟩ := m
    have hk : Word k := hms (k, v) mem_cons_self
    rw [membersText_cons, after_memberText hkey hk v (bounded_membersRest []), hrest, readsVia]
    split_ifs
    · exact (memberAfter_eq v _).trans (memberBody_eq v _)
    · exact memberAfter_end
    · rfl
  | case3 m m' ms ih =>
    obtain ⟨k, v⟩ := m
    obtain ⟨k', v'⟩ := m'
    have hk : Word k := hms (k, v) mem_cons_self
    have hk' : Word k' := hms (k', v') (mem_cons_of_mem _ mem_cons_self)
    have hcomma : after (quoted key) (membersRest ((k', v') :: ms)) =
        after (quoted key) (membersText ((k', v') :: ms)) := after_skip (by decide) _
    rw [membersText_cons, after_memberText hkey hk v (bounded_membersRest _), readsVia]
    split_ifs
    · exact (memberAfter_eq v _).trans (memberBody_eq v _)
    · exact memberAfter_rest hk' v' ms
    · rw [hcomma]
      exact ih (fun m hm => hms m (mem_cons_of_mem _ hm)) (after_skip (by decide) _)

/-! ### The activation record -/

lemma written_eq_ok : written v = .ok x ↔ ReadableText v ∧ x = v := by
  unfold written
  split_ifs with hv
  · exact ⟨fun h => ⟨hv, (Except.ok.inj h).symm⟩, fun h => by rw [h.2]⟩
  · exact iff_of_false (fun h => by cases h) fun h => hv h.1

/-- The search for the member's key stops at the member, or at a value that ends in the quoted key and
is followed by a member with the same value. -/
def Reaches (n : Text × Text) : List (Text × Text) → Prop
  | m :: m' :: ms =>
    if m.1 = n.1 then True
    else if quoted n.1 <:+ valueToken m.2 then m'.2 = n.2
    else Reaches n (m' :: ms)
  | _ => True

instance Reaches.decidable (n : Text × Text) : (ms : List (Text × Text)) → Decidable (Reaches n ms)
  | [] => inferInstanceAs (Decidable True)
  | [_] => inferInstanceAs (Decidable True)
  | m :: m' :: ms =>
    have := Reaches.decidable n (m' :: ms)
    inferInstanceAs (Decidable (if m.1 = n.1 then True
      else if quoted n.1 <:+ valueToken m.2 then m'.2 = n.2 else Reaches n (m' :: ms)))

lemma readsVia_eq_ok (hnodup : (ms.map Prod.fst).Nodup) {n : Text × Text} (hn : n ∈ ms) :
    readsVia n.1 ms = .ok n.2 ↔ ReadableText n.2 ∧ Reaches n ms := by
  induction ms using membersText.induct with
  | case1 => cases hn
  | case2 m =>
    obtain rfl := mem_singleton.mp hn
    rw [readsVia, if_pos rfl, written_eq_ok]
    exact and_congr_right fun _ => iff_of_true rfl trivial
  | case3 m m' ms ih =>
    rw [map_cons, nodup_cons] at hnodup
    rw [readsVia, Reaches]
    rcases mem_cons.mp hn with rfl | htail
    · rw [if_pos rfl, if_pos rfl, written_eq_ok]
      exact and_congr_right fun _ => iff_of_true rfl trivial
    · have hother : m.1 ≠ n.1 := fun heq => hnodup.1 (heq ▸ mem_map_of_mem htail)
      rw [if_neg hother, if_neg hother]
      split_ifs with hsuffix
      · rw [written_eq_ok]
        constructor
        · rintro ⟨hread, heq⟩
          exact ⟨heq ▸ hread, heq.symm⟩
        · rintro ⟨hread, heq⟩
          exact ⟨heq.symm ▸ hread, heq.symm⟩
      · exact ih hnodup.2 htail

/-- `UpgradeActivationStore::save`. The text goes out when the stream is closed, where a failure is
not reported: then the file has what is `left` of it. -/
def saveActivation (p : Platform) (w : Write) (left : Option Text) (r : UpgradeActivationRecord)
    (f : Files) : Except Text Unit × Files :=
  let written := atomicWrite p w (left.getD (activationJson r)) f.activation
  (written.1, { f with activation := written.2 })

lemma saveActivation_ok {p : Platform} {w : Write} {r : UpgradeActivationRecord} {f : Files}
    (h : (saveActivation p w none r f).1 = .ok ()) :
    (saveActivation p w none r f).2.activation = some (activationJson r) := by
  cases w with
  | done => rfl
  | kept e => cases h
  | lost e => cases p <;> cases h

lemma word_activationMembers (r : UpgradeActivationRecord) :
    ∀ m ∈ activationMembers r, Word m.1 := by
  have hall : ((activationMembers r).map Prod.fst).all isWord = true := by
    simp only [activationMembers, map_cons, map_nil]
    decide
  exact fun m hm => word_of_isWord (all_eq_true.mp hall _ (mem_map_of_mem hm))

/-- `member_string` finds the member's own value. -/
lemma memberString_activation (r : UpgradeActivationRecord) (key v : Text)
    (hm : (key, v) ∈ activationMembers r) : memberString (activationJson r) key = .ok v ↔
      ReadableText v ∧ Reaches (key, v) (activationMembers r) := by
  have hwords := word_activationMembers r
  have hnodup : ((activationMembers r).map Prod.fst).Nodup := by
    simp only [activationMembers, map_cons, map_nil]
    decide
  have hread : memberString (activationJson r) key = readsVia key (activationMembers r) :=
    memberString_objectText (hwords _ hm) hwords
  rw [hread]
  exact readsVia_eq_ok hnodup hm

/-- **The activation record round trip.** After a save whose text is not lost, a record with an
identifier is loaded back exactly if none of its texts has a control byte other than line feed,
carriage return and tab, and no value is taken for the key of a later member with another value than
the one that follows it. -/
theorem activation_roundtrip (p : Platform) (w : Write) (f : Files) (r : UpgradeActivationRecord)
    (hid : r.upgradeId ≠ []) (hsaved : (saveActivation p w none r f).1 = .ok ()) :
    loadActivation (saveActivation p w none r f).2 = .ok (some r) ↔
      ∀ m ∈ activationMembers r, ReadableText m.2 ∧ Reaches m (activationMembers r) := by
  have hread := memberString_activation r
  -- The identifier is the only value before the state, so that the state is always found.
  have hstate : Reaches ("state", r.state.toText) (activationMembers r) := by
    simp [activationMembers, Reaches]
  rw [loadActivation, saveActivation_ok hsaved]
  simp only [activationFromJson]
  constructor
  · intro h
    obtain ⟨r', h, heq⟩ := map_eq_ok h
    obtain rfl : r' = r := Option.some.inj heq
    obtain ⟨_, hid', h⟩ := bind_eq_ok h
    obtain ⟨_, -, h⟩ := bind_eq_ok h
    obtain ⟨_, hroot, h⟩ := bind_eq_ok h
    obtain ⟨_, hprevious, h⟩ := bind_eq_ok h
    obtain ⟨_, hactive, h⟩ := bind_eq_ok h
    obtain ⟨_, hcode, h⟩ := bind_eq_ok h
    obtain ⟨_, hmessage, h⟩ := bind_eq_ok h
    split_ifs at h
    cases h
    intro m hm
    have hmember := hm
    simp only [activationMembers, mem_cons, not_mem_nil, or_false] at hm
    rcases hm with rfl | rfl | rfl | rfl | rfl | rfl | rfl
    · exact (hread _ _ hmember).mp hid'
    · exact ⟨readableText_toText _, hstate⟩
    · exact (hread _ _ hmember).mp hroot
    · exact (hread _ _ hmember).mp hprevious
    · exact (hread _ _ hmember).mp hactive
    · exact (hread _ _ hmember).mp hcode
    · exact (hread _ _ hmember).mp hmessage
  · intro h
    have hok (key v : Text) (hm : (key, v) ∈ activationMembers r) :
        memberString (activationJson r) key = .ok v := (hread key v hm).mpr (h _ hm)
    rw [hok "upgrade_id" r.upgradeId (by simp [activationMembers]),
      hok "state" r.state.toText (by simp [activationMembers]),
      hok "install_root" r.installRoot (by simp [activationMembers]),
      hok "previous_target" r.previousTarget (by simp [activationMembers]),
      hok "active_target" r.activeTarget (by simp [activationMembers]),
      hok "failure_code" r.failureCode (by simp [activationMembers]),
      hok "failure_message" r.failureMessage (by simp [activationMembers])]
    simp only [bind, Except.bind, upgradeActivationStateFromString_toText, if_neg hid, Except.map]

def failedSample : UpgradeActivationRecord :=
  ⟨"u1", .failed, "/opt", "v1", "v2", "E",
    "line 1\n\"line 2\""⟩

theorem activation_roundtrip_failed :
    loadActivation (saveActivation .linux .done none failedSample ⟨none, none⟩).2 =
      .ok (some failedSample) :=
  (activation_roundtrip .linux .done ⟨none, none⟩ failedSample (by decide) rfl).mpr (by decide)

/-- A message with an escape byte, as a terminal writes it: the record no longer loads. With a
target whose name ends in a quoted key, another field is loaded in place of the failure code. On a
full disk the save succeeds and leaves no record. -/
theorem saved_failure_not_loaded :
    loadActivation (saveActivation .linux .done none
        { failedSample with failureMessage := "\x1b[31mdenied" } ⟨none, none⟩).2 =
      .error "unsupported JSON escape in upgrade activation state" ∧
    loadActivation (saveActivation .linux .done none
        { failedSample with previousTarget := "a\"failure_code" } ⟨none, none⟩).2 =
      .ok (some { failedSample with
        previousTarget := "a\"failure_code", failureCode := "v2" }) ∧
    (saveActivation .linux .done (some []) failedSample ⟨none, none⟩).1 = .ok () ∧
    loadActivation (saveActivation .linux .done (some []) failedSample ⟨none, none⟩).2 ≠
      .ok (some failedSample) := by
  decide +kernel

end NetaAgent.Upgrade
