import NetaAgent.LoadedRules
import NetaAgent.Separated

/-!
The canonical text of a loaded rule set, and when it tells two rule sets apart.

The parts of the text are put together with `|`, `,`, `=` and `;`, and none of these is escaped in
the texts of a document; for two versions a fixed text stands for the rules. Two rule sets are
confused when a separator in a text of one stands where the other has a new part, or when the same
fixed text stands for them.
-/

namespace NetaAgent.Verdict

open Decimal Crypto NumberText Rules RuleJson TlsSession Separated HistoryStore List String

/-! ### The parts of the text -/

/-- A parameter or a list without the comma before it. -/
def part (label name content : Text) : Text := label ++ (name ++ '=' :: content)

variable (d : RuleDefinition)

def numericParts : List Text :=
  d.numericParameters.map fun p => part "n:" p.1 (numberText p.2)

def booleanParts : List Text :=
  d.booleanParameters.map fun p => part "b:" p.1 (bit p.2)

def stringParts : List Text :=
  d.stringParameters.map fun p => part "s:" p.1 p.2

def stringListParts : List Text :=
  d.stringListParameters.map fun p => part "l:" p.1 (List.intercalate [';'] p.2)

def exclusionEntries (x : RuleExclusion) : List (Text × List Text) :=
  (exclusionLists x).filter fun p => !p.2.isEmpty

def exclusionParts (x : RuleExclusion) : List Text :=
  (exclusionEntries x).map fun p => part "x:" p.1 (List.intercalate [';'] p.2)

/-- What follows the id of a definition, between commas. -/
def definitionParts : List Text :=
  ("engine=" ++ d.engineRuleId) :: ("enabled=" ++ bit d.enabled) ::
    ("severity=" ++ d.severity) ::
    (numericParts d ++ (booleanParts d ++ (stringParts d ++ (stringListParts d ++
      exclusionParts d.exclude))))

def commaParts : List Text := ("rule:" ++ d.id) :: definitionParts d

def definitionBody : Text := intercalate [','] (commaParts d)

lemma flatMap_appendList (lists : List (Text × List Text)) :
    (lists.flatMap fun p => appendList p.1 p.2) = ((lists.filter fun p => !p.2.isEmpty).map fun p =>
        part "x:" p.1 (intercalate [';'] p.2)).flatMap (',' :: ·) := by
  induction lists with
  | nil => rfl
  | cons p lists ih =>
    obtain ⟨name, values⟩ := p
    cases values with
    | nil => exact ih
    | cons v values => exact congrArg (segment "x:" name _ ++ ·) ih

lemma definitionText_eq : definitionText d = '|' :: definitionBody d := by
  have hassoc : ∀ r e n s id engine enabled severity np bp sp lp xp : Text,
      ('|' :: r) ++ id ++ (',' :: e) ++ engine ++ (',' :: n) ++ enabled ++ (',' :: s) ++ severity ++
        np ++ bp ++ sp ++ lp ++ xp =
      '|' :: (r ++ id ++ ((',' :: (e ++ engine)) ++ ((',' :: (n ++ enabled)) ++
        ((',' :: (s ++ severity)) ++ (np ++ (bp ++ (sp ++ (lp ++ xp)))))))) := by
    intros
    simp
  have hgroup : ∀ {α : Type} (l : List α) (f : α → Text),
      (l.flatMap fun p => ',' :: f p) = (l.map f).flatMap (',' :: ·) := fun l f =>
    (flatMap_map f _ l).symm
  unfold definitionBody commaParts definitionParts
  rw [intercalate_cons, flatMap_cons, flatMap_cons, flatMap_cons, flatMap_append,
    flatMap_append, flatMap_append, flatMap_append]
  refine Eq.trans ?_ (hassoc _ _ _ _ _ _ _ _ _ _ _ _ _)
  have hn : (d.numericParameters.flatMap fun p => segment "n:" p.1 (numberText p.2)) =
      (numericParts d).flatMap (',' :: ·) := hgroup _ _
  have hb : (d.booleanParameters.flatMap fun p => segment "b:" p.1 (bit p.2)) =
      (booleanParts d).flatMap (',' :: ·) := hgroup _ _
  have hs : (d.stringParameters.flatMap fun p => segment "s:" p.1 p.2) =
      (stringParts d).flatMap (',' :: ·) := hgroup _ _
  have hl : (d.stringListParameters.flatMap fun p =>
      segment "l:" p.1 (intercalate [';'] p.2)) =
      (stringListParts d).flatMap (',' :: ·) := hgroup _ _
  have hx : ((exclusionLists d.exclude).flatMap fun p => appendList p.1 p.2) =
      (exclusionParts d.exclude).flatMap (',' :: ·) := flatMap_appendList _
  have hlit : "|rule:" = '|' :: "rule:" ∧ ",engine=" = ',' :: "engine=" ∧
      ",enabled=" = ',' :: "enabled=" ∧ ",severity=" = ',' :: "severity=" := by decide
  unfold definitionText
  rw [hn, hb, hs, hl, hx, hlit.1, hlit.2.1, hlit.2.2.1, hlit.2.2.2]

/-! ### Names -/

lemma engines_names : (engines.all fun e => e.parameters.all fun name => decide ('=' ∉ name)) =
    true := by
  decide +kernel

lemma exclusionKeys_names : (exclusionKeys.all fun name => decide ('=' ∉ name)) = true := by
  decide +kernel

lemma exclusionKeys_nodup : exclusionKeys.Nodup := by decide +kernel

lemma exclusionLists_keys (x : RuleExclusion) : (exclusionLists x).map Prod.fst = exclusionKeys := rfl

section Definition

variable {d : RuleDefinition} (hd : Loaded d)
include hd

lemma Loaded.name {name : Text} (hname : name ∈ parameterNames d) : '=' ∉ name := by
  obtain ⟨e, he, -, hnames⟩ := hd.engine
  exact of_decide_eq_true (all_eq_true.mp (all_eq_true.mp engines_names e he) name
    (hnames name hname))

lemma Loaded.numericName {p : Text × Double} (hp : p ∈ d.numericParameters) : '=' ∉ p.1 := by
  refine hd.name ?_
  simp only [parameterNames, mem_append]
  exact .inl (.inl (.inl (mem_map_of_mem hp)))

lemma Loaded.booleanName {p : Text × Bool} (hp : p ∈ d.booleanParameters) : '=' ∉ p.1 := by
  refine hd.name ?_
  simp only [parameterNames, mem_append]
  exact .inl (.inl (.inr (mem_map_of_mem hp)))

lemma Loaded.stringName {p : Text × Text} (hp : p ∈ d.stringParameters) : '=' ∉ p.1 := by
  refine hd.name ?_
  simp only [parameterNames, mem_append]
  exact .inl (.inr (mem_map_of_mem hp))

variable {p : Text × List Text}

lemma Loaded.stringListName (hp : p ∈ d.stringListParameters) : '=' ∉ p.1 := by
  refine hd.name ?_
  simp only [parameterNames, mem_append]
  exact .inr (mem_map_of_mem hp)

omit hd in
lemma exclusionEntries_name (hp : p ∈ exclusionEntries d.exclude) : '=' ∉ p.1 := by
  have hkey : p.1 ∈ exclusionKeys := by
    rw [← exclusionLists_keys d.exclude]
    exact mem_map_of_mem (mem_filter.mp hp).1
  exact of_decide_eq_true (all_eq_true.mp exclusionKeys_names _ hkey)

end Definition

/-! ### Reading a definition back -/

def untitled : RuleDefinition := { d with name := [], category := [] }

lemma part_inj {label name name' content content' : Text} (hname : '=' ∉ name) (hname' : '=' ∉ name')
    (h : part label name content = part label name' content') : name = name' ∧ content = content' :=
  append_sep_inj hname hname' (append_cancel_left h)

lemma group_inj {β : Type} {label : Text} {content : β → Text} {l l' : List (Text × β)}
    (hl : ∀ p ∈ l, '=' ∉ p.1) (hl' : ∀ p ∈ l', '=' ∉ p.1)
    (hcontent : ∀ (i : ℕ) p q, l[i]? = some p → l'[i]? = some q → content p.2 = content q.2 → p.2 = q.2)
    (h : (l.map fun p => part label p.1 (content p.2)) =
      l'.map fun p => part label p.1 (content p.2)) : l = l' := by
  rw [← map_id l, ← map_id l']
  refine map_eq_of_map_eq (fun i p q hp hq hpq => ?_) h
  obtain ⟨hname, hvalue⟩ := part_inj (hl p (mem_of_getElem? hp)) (hl' q (mem_of_getElem? hq)) hpq
  exact Prod.ext hname (hcontent i p q hp hq hvalue)

/-- At some place the two lists of texts are cut in two ways. -/
def ListsConfused (l l' : List (Text × List Text)) : Prop :=
  ∃ (i : ℕ) (p q : Text × List Text), l[i]? = some p ∧ l'[i]? = some q ∧ Recut ';' p.2 q.2

lemma ListsConfused.ne {l l' : List (Text × List Text)} (h : ListsConfused l l') : l ≠ l' := by
  rintro rfl
  obtain ⟨i, p, q, hp, hq, h⟩ := h
  cases hp.symm.trans hq
  exact h.ne rfl

lemma listGroup_inj {label : Text} {l l' : List (Text × List Text)}
    (hl : ∀ p ∈ l, '=' ∉ p.1 ∧ [] ∉ p.2) (hl' : ∀ p ∈ l', '=' ∉ p.1 ∧ [] ∉ p.2)
    (hconfused : ¬ ListsConfused l l')
    (h : (l.map fun p => part label p.1 (intercalate [';'] p.2)) =
      l'.map fun p => part label p.1 (intercalate [';'] p.2)) : l = l' := by
  have hempty : ∀ {texts : List Text}, [] ∉ texts → intercalate [';'] texts = [] → texts = [] := by
    intro texts hne hnil
    cases texts with
    | nil => rfl
    | cons t texts =>
      rw [intercalate_cons] at hnil
      exact absurd (mem_cons.mpr (.inl (append_eq_nil_iff.mp hnil).1.symm)) hne
  refine group_inj (fun p hp => (hl p hp).1) (fun p hp => (hl' p hp).1)
    (fun i p q hp hq htext => ?_) h
  have hne := (hl p (mem_of_getElem? hp)).2
  have hne' := (hl' q (mem_of_getElem? hq)).2
  by_cases hp2 : p.2 = []
  · rw [hp2]
    rw [hp2] at htext
    exact (hempty hne' htext.symm).symm
  by_cases hq2 : q.2 = []
  · rw [hq2] at htext
    exact absurd (hempty hne htext) hp2
  exact ((intercalate_eq_iff hp2 hq2).mp htext).resolve_right fun hrecut =>
    hconfused ⟨i, p, q, hp, hq, hrecut⟩

lemma filter_group {α : Type} {label : Text} {c : Char} (hlabel : label.head? = some c) (c' : Char)
    (l : List α) (name content : α → Text) :
    (l.map fun p => part label (name p) (content p)).filter (fun t => t.head? = some c') =
      if c = c' then l.map fun p => part label (name p) (content p) else [] := by
  have hhead : ∀ t ∈ l.map fun p => part label (name p) (content p), t.head? = some c := by
    intro t ht
    obtain ⟨p, -, rfl⟩ := mem_map.mp ht
    rw [part, head?_append, hlabel]
    rfl
  split
  next hc => exact filter_eq_self.mpr fun t ht => decide_eq_true (hc ▸ hhead t ht)
  next hc =>
  refine filter_eq_nil_iff.mpr fun t ht => ?_
  rw [hhead t ht, decide_eq_true_eq, Option.some.injEq]
  exact hc

def labelledParts : List Text :=
  numericParts d ++ (booleanParts d ++ (stringParts d ++ (stringListParts d ++
    exclusionParts d.exclude)))

lemma labelledParts_inj {d d' : RuleDefinition} (h : labelledParts d = labelledParts d') :
    numericParts d = numericParts d' ∧ booleanParts d = booleanParts d' ∧
      stringParts d = stringParts d' ∧ stringListParts d = stringListParts d' ∧
      exclusionParts d.exclude = exclusionParts d'.exclude := by
  have hgroups : ∀ (c : Char) (d : RuleDefinition),
      (labelledParts d).filter (fun t => t.head? = some c) =
        (if 'n' = c then numericParts d else []) ++ ((if 'b' = c then booleanParts d else []) ++
          ((if 's' = c then stringParts d else []) ++ ((if 'l' = c then stringListParts d else []) ++
            if 'x' = c then exclusionParts d.exclude else []))) := by
    intro c d
    unfold labelledParts
    rw [filter_append, filter_append, filter_append, filter_append]
    exact congrArg₂ _ (filter_group (by decide) c _ _ _) (congrArg₂ _ (filter_group (by decide) c _ _ _)
      (congrArg₂ _ (filter_group (by decide) c _ _ _) (congrArg₂ _ (filter_group (by decide) c _ _ _)
        (filter_group (by decide) c _ _ _))))
  have hgroup := fun c => (hgroups c d).symm.trans ((congrArg _ h).trans (hgroups c d'))
  refine ⟨?_, ?_, ?_, ?_, ?_⟩
  · simpa using hgroup 'n'
  · simpa using hgroup 'b'
  · simpa using hgroup 's'
  · simpa using hgroup 'l'
  · simpa using hgroup 'x'

lemma exclusionLists_inj {x y : RuleExclusion} (h : exclusionLists x = exclusionLists y) : x = y := by
  have hvalues := congrArg (map Prod.snd) h
  cases x
  cases y
  simp only [exclusionLists, map_cons, map_nil, cons.injEq, and_true] at hvalues
  obtain ⟨rfl, rfl, rfl, rfl, rfl, rfl, rfl, rfl, rfl, rfl, rfl⟩ := hvalues
  rfl

lemma bit_inj {a b : Bool} (h : bit a = bit b) : a = b := by
  cases a <;> cases b <;> first | rfl | exact absurd h (by decide)

/-- The texts of two definitions are cut in two ways, at a comma or in a list. -/
def DefinitionsConfused (d d' : RuleDefinition) : Prop :=
  Recut ',' (commaParts d) (commaParts d') ∨ commaParts d = commaParts d' ∧
    (ListsConfused d.stringListParameters d'.stringListParameters ∨
      ListsConfused (exclusionEntries d.exclude) (exclusionEntries d'.exclude))

lemma DefinitionsConfused.ne {d d' : RuleDefinition} (h : DefinitionsConfused d d') :
    untitled d ≠ untitled d' := by
  intro heq
  rcases h with h | ⟨-, h | h⟩
  · exact h.ne (show commaParts (untitled d) = commaParts (untitled d') by rw [heq])
  · exact h.ne (show (untitled d).stringListParameters = (untitled d').stringListParameters by
      rw [heq])
  · exact h.ne (congrArg (fun d => exclusionEntries d.exclude) heq)

lemma definitionBody_inj {d d' : RuleDefinition} (hd : Loaded d) (hd' : Loaded d')
    (hconfused : ¬ DefinitionsConfused d d') (h : definitionBody d = definitionBody d') :
    untitled d = untitled d' := by
  rw [DefinitionsConfused, not_or] at hconfused
  have hparts := ((intercalate_eq_iff (cons_ne_nil _ _) (cons_ne_nil _ _)).mp h).resolve_right
    hconfused.1
  obtain ⟨hlists, hexclusions⟩ := not_or.mp fun hor => hconfused.2 ⟨hparts, hor⟩
  rw [cons.injEq] at hparts
  obtain ⟨hids, hparts⟩ := hparts
  unfold definitionParts at hparts
  rw [cons.injEq, cons.injEq, cons.injEq] at hparts
  obtain ⟨hengine, henabled, hseverity, hlabelled⟩ := hparts
  obtain ⟨hn, hb, hst, hl, hx⟩ := labelledParts_inj hlabelled
  have hnumeric : d.numericParameters = d'.numericParameters :=
    group_inj (fun p hp => hd.numericName hp) (fun p hp => hd'.numericName hp)
      (fun _ _ _ _ _ => numberText_inj) hn
  have hboolean : d.booleanParameters = d'.booleanParameters :=
    group_inj (fun p hp => hd.booleanName hp) (fun p hp => hd'.booleanName hp)
      (fun _ _ _ _ _ => bit_inj) hb
  have hstring : d.stringParameters = d'.stringParameters :=
    group_inj (fun p hp => hd.stringName hp) (fun p hp => hd'.stringName hp)
      (fun _ _ _ _ _ (h : id _ = id _) => h) hst
  have hstringList : d.stringListParameters = d'.stringListParameters :=
    listGroup_inj (fun p hp => ⟨hd.stringListName hp, hd.lists p hp⟩)
      (fun p hp => ⟨hd'.stringListName hp, hd'.lists p hp⟩) hlists hl
  have hexclude : d.exclude = d'.exclude := by
    refine exclusionLists_inj (filter_entries_inj rfl exclusionKeys_nodup ?_)
    exact listGroup_inj
      (fun p hp => ⟨exclusionEntries_name hp, hd.exclusion p (mem_filter.mp hp).1⟩)
      (fun p hp => ⟨exclusionEntries_name hp, hd'.exclusion p (mem_filter.mp hp).1⟩)
      hexclusions hx
  have hsame : d.id = d'.id ∧ d.engineRuleId = d'.engineRuleId ∧ d.severity = d'.severity ∧
      d.enabled = d'.enabled := ⟨append_cancel_left hids, append_cancel_left hengine,
      append_cancel_left hseverity, bit_inj (append_cancel_left henabled)⟩
  simp only [untitled, RuleDefinition.mk.injEq, true_and]
  exact ⟨hsame.1, hsame.2.1, hsame.2.2.1, hsame.2.2.2, hexclude, hnumeric, hboolean, hstring,
    hstringList⟩

/-! ### Reading a rule set back -/

/-- The same rules: the id, the version, the revision and the definitions up to their titles. -/
structure SameRules (r r' : RuleSet) : Prop where
  id : r.id = r'.id
  version : r.version = r'.version
  revision : r.revision = r'.revision
  definitions : r.definitions.map untitled = r'.definitions.map untitled

def barParts (rules : RuleSet) : List Text :=
  rules.version :: ("id=" ++ rules.id) :: ("revision=" ++ decimal rules.revision) ::
    rules.definitions.map definitionBody

/-- The fixed text that stands for the rules of certain versions. -/
def shortcut (rules : RuleSet) : Option Text :=
  if rules.version = legacyRuleSetVersion then some (legacyRuleSetVersion ++ networkRule)
  else if rules.version = previousRuleSetVersion ∧ isPreviousDefaultSemantics rules.toSettings then
    some (previousRuleSetVersion ++ networkRule ++ outboundTrustRule ++ inboundTrustRule)
  else none

/-- The same fixed text stands for two rule sets that differ; or, where none does, the two texts
are cut in two ways, at a bar or in a definition. -/
def RulesConfused (r r' : RuleSet) : Prop :=
  (∃ t, shortcut r = some t ∧ shortcut r' = some t ∧ ¬ SameRules r r') ∨
    shortcut r = none ∧ shortcut r' = none ∧ (Recut '|' (barParts r) (barParts r') ∨
      barParts r = barParts r' ∧ ∃ (i : ℕ) (d d' : RuleDefinition), r.definitions[i]? = some d ∧ r'.definitions[i]? = some d' ∧
        DefinitionsConfused d d')

variable {r r' rules : RuleSet}

lemma ruleSetCanonical_eq (hne : rules.definitions ≠ []) : ruleSetCanonical rules =
    (shortcut rules).getD (intercalate ['|'] (barParts rules)) := by
  have hlit : "|id=" = '|' :: "id=" ∧ "|revision=" = '|' :: "revision=" := by
    decide
  have hbodies : rules.definitions.flatMap definitionText =
      (rules.definitions.map definitionBody).flatMap ('|' :: ·) := by
    rw [flatMap_map]
    exact congrArg (rules.definitions.flatMap ·) (funext definitionText_eq)
  unfold ruleSetCanonical shortcut
  rw [if_pos hne]
  split
  · rfl
  split
  · rfl
  rw [hbodies, hlit.1, hlit.2]
  simp [barParts, intercalate_cons]

lemma barText_eq_iff : intercalate ['|'] (barParts r) = intercalate ['|'] (barParts r') ↔
    barParts r = barParts r' ∨ Recut '|' (barParts r) (barParts r') :=
  intercalate_eq_iff (cons_ne_nil _ _) (cons_ne_nil _ _)

/-- No fixed text is the text of other rules: it has no id. -/
lemma shortcut_ne {t : Text} (h : shortcut r = some t) : t ≠ intercalate ['|'] (barParts r') := by
  have hid : "|id=".toList <:+: intercalate ['|'] (barParts r') :=
    ⟨r'.version, r'.id ++ (barParts r').tail.tail.flatMap ('|' :: ·), by
      simp [barParts, intercalate_cons]⟩
  intro heq
  rw [← heq] at hid
  unfold shortcut at h
  split_ifs at h
  · rw [← Option.some.inj h] at hid
    exact absurd hid (by decide +kernel)
  · rw [← Option.some.inj h] at hid
    exact absurd hid (by decide +kernel)

section Sets

lemma SameRules.barParts_eq (h : SameRules r r') : barParts r = barParts r' := by
  have huntitled : ∀ l : List RuleDefinition,
      l.map definitionBody = (l.map untitled).map definitionBody := fun l => by
    rw [List.map_map]
    rfl
  unfold barParts
  rw [h.version, h.id, h.revision, huntitled, h.definitions, ← huntitled]

lemma RulesConfused.canonical_eq (hne : r.definitions ≠ []) (hne' : r'.definitions ≠ [])
    (h : RulesConfused r r') : ruleSetCanonical r = ruleSetCanonical r' ∧ ¬ SameRules r r' := by
  rw [ruleSetCanonical_eq hne, ruleSetCanonical_eq hne']
  rcases h with ⟨t, hr, hr', hsame⟩ | ⟨hr, hr', h⟩
  · rw [hr, hr']
    exact ⟨rfl, hsame⟩
  rw [hr, hr', Option.getD_none, Option.getD_none, barText_eq_iff]
  rcases h with h | ⟨hparts, i, d, d', hd, hd', h⟩
  · exact ⟨.inr h, fun hsame => h.ne hsame.barParts_eq⟩
  · refine ⟨.inl hparts, fun hsame => h.ne ?_⟩
    have hi := congrArg (·[i]?) hsame.definitions
    simpa only [getElem?_map, hd, hd', Option.map_some, Option.some.injEq] using hi

variable {undefined : Conversion} (hl : LoadedSet undefined r) (hl' : LoadedSet undefined r')
include hl hl'

lemma sameRules_of_canonical (hconfused : ¬ RulesConfused r r')
    (h : ruleSetCanonical r = ruleSetCanonical r') : SameRules r r' := by
  rw [ruleSetCanonical_eq hl.nonempty, ruleSetCanonical_eq hl'.nonempty] at h
  rw [RulesConfused, not_or] at hconfused
  cases hr : shortcut r with
  | some t =>
    cases hr' : shortcut r' with
    | some t' =>
      rw [hr, hr', Option.getD_some, Option.getD_some] at h
      by_contra hsame
      exact hconfused.1 ⟨t, hr, h ▸ hr', hsame⟩
    | none =>
      rw [hr, hr'] at h
      exact absurd h (shortcut_ne hr)
  | none =>
    cases hr' : shortcut r' with
    | some t' =>
      rw [hr, hr'] at h
      exact absurd h.symm (shortcut_ne hr')
    | none =>
      rw [hr, hr', Option.getD_none, Option.getD_none, barText_eq_iff] at h
      obtain ⟨hbar, hdefinitions⟩ := not_or.mp fun hor => hconfused.2 ⟨hr, hr', hor⟩
      have hparts := h.resolve_right hbar
      have hfields := hparts
      unfold barParts at hfields
      rw [cons.injEq, cons.injEq, cons.injEq] at hfields
      obtain ⟨hversion, hid, hrevision, hbodies⟩ := hfields
      refine ⟨append_cancel_left hid, hversion, decimal_inj (append_cancel_left hrevision), ?_⟩
      refine map_eq_of_map_eq (fun i d d' hd hd' hbody => ?_) hbodies
      exact definitionBody_inj (hl.definitions d (mem_of_getElem? hd))
        (hl'.definitions d' (mem_of_getElem? hd'))
        (fun hc => hdefinitions ⟨hparts, i, d, d', hd, hd', hc⟩) hbody

lemma SameRules.settings (h : SameRules r r') : r.toSettings = r'.toSettings := by
  have huntitled : ∀ definitions : List RuleDefinition,
      settingsOfAll undefined (definitions.map untitled) {} = settingsOfAll undefined definitions {} :=
    fun definitions => foldlM_map
  have hall := hl.settings
  rw [← huntitled, h.definitions, huntitled, hl'.settings] at hall
  exact (Except.ok.inj hall).symm

end Sets

lemma evaluate_sameRules (m : Machine) (hsettings : r.toSettings = r'.toSettings)
    (hversion : r.version = r'.version) (hhash : ruleSetHash m r = ruleSetHash m r')
    (b : Baseline) (metrics : AggregateMetrics) (tls : Option TlsObservation) :
    evaluate m b metrics tls r = evaluate m b metrics tls r' := by
  have hinput : outboundInput m b metrics tls r = outboundInput m b metrics tls r' := by
    unfold outboundInput
    rw [hhash]
  unfold evaluate
  rw [hinput, hsettings, hversion, hhash]

lemma evaluateInbound_sameRules (m : Machine)
    (hsettings : r.toSettings = r'.toSettings) (hversion : r.version = r'.version)
    (hhash : ruleSetHash m r = ruleSetHash m r') (accepted : Option Baseline)
    (metrics : AggregateMetrics) (context : InboundTrustContext) :
    evaluateInbound m accepted metrics context r = evaluateInbound m accepted metrics context r' := by
  have hinput : inboundInput m accepted metrics context r =
      inboundInput m accepted metrics context r' := by
    unfold inboundInput
    rw [hhash]
  unfold evaluateInbound
  rw [hinput, hsettings, hversion, hhash]

/-- **What the canonical text tells.** Loaded rule sets with the same text have the same rules, and
with the same hash they evaluate alike, exactly where they are not confused. -/
theorem canonical_text_determines_rules (m : Machine) {text text' source source' : Text}
    {r r' : RuleSet} (hr : loadText m.undefined text source = .ok r)
    (hr' : loadText m.undefined text' source' = .ok r') :
    ((ruleSetCanonical r = ruleSetCanonical r' → SameRules r r') ∧
      (Distinguishes m.sha (ruleSetCanonical r) (ruleSetCanonical r') →
        ruleSetHash m r = ruleSetHash m r' → r.toSettings = r'.toSettings ∧
          (∀ b metrics tls, evaluate m b metrics tls r = evaluate m b metrics tls r') ∧
          ∀ accepted metrics context, evaluateInbound m accepted metrics context r =
            evaluateInbound m accepted metrics context r')) ↔ ¬ RulesConfused r r' := by
  have hl := (loadText_ok hr).1
  have hl' := (loadText_ok hr').1
  constructor
  · intro h hconfused
    obtain ⟨htext, hsame⟩ := hconfused.canonical_eq hl.nonempty hl'.nonempty
    exact hsame (h.1 htext)
  · intro hconfused
    have hsame := sameRules_of_canonical hl hl' hconfused
    refine ⟨hsame, fun hsha hhash => ?_⟩
    have hrules := hsame (sha256Hex_inj hsha hhash)
    have hsettings := hrules.settings hl hl'
    exact ⟨hsettings, evaluate_sameRules m hsettings hrules.version hhash,
      evaluateInbound_sameRules m hsettings hrules.version hhash⟩

/-! ### Sample documents -/

/-- The lines of a document with the required rules, up to the path prefixes of `PROC-001`. -/
def documentHead : List String :=
  ["\x7b\"schema_version\":1,\"id\":\"i\",\"revision\":1,\"version\":\"v\",\"rules\":",
    "[\x7b\"id\":\"PERF-001\",\"name\":\"n\",\"category\":\"performance\",\"severity\":\"low\",",
    "\"parameters\":\x7b\"rtt_ratio\":2,\"rttvar_ratio\":2,\"retransmission_threshold\":2,",
    "\"rtt_weight\":1,\"rttvar_weight\":1,\"retransmission_weight\":1,\"degraded_threshold\":",
    "1\x7d\x7d,\x7b\"id\":\"TRUST-001\",\"name\":\"n\",\"category\":\"trust\",\"severity\":",
    "\"low\",\"parameters\":\x7b\"require_chain_valid\":true,\"require_hostname_valid\":true,",
    "\"compare_spki\":true\x7d\x7d,\x7b\"id\":\"TRUST-002\",\"name\":\"n\",\"category\":",
    "\"trust\",\"severity\":\"low\",\"parameters\":\x7b\"require_exact_evidence\":true,",
    "\"require_peer_certificate\":true,\"require_peer_authentication\":true,",
    "\"verification_failure_suspicious\":true,\"compare_spki\":true,\"compare_issuer\":",
    "true\x7d\x7d,\x7b\"id\":\"PROC-001\",\"name\":\"n\",\"category\":\"process\",\"severity\":",
    "\"low\",\"parameters\":\x7b\"path_prefixes\":["]

def documentTail : List String :=
  ["],\"path_substrings\":[]\x7d\x7d,\x7b\"id\":\"PROC-002\",\"name\":\"n\",\"category\":",
    "\"process\",\"severity\":\"low\",\"parameters\":\x7b\"shell_names\":[],",
    "\"expected_parent_names\":[]\x7d\x7d,\x7b\"id\":\"PROC-003\",\"name\":\"n\",\"category\":",
    "\"process\",\"severity\":\"low\",\"parameters\":\x7b\"expected_parent_names\":[]\x7d\x7d,",
    "\x7b\"id\":\"PROC-004\",\"name\":\"n\",\"category\":\"process\",\"severity\":\"low\",",
    "\"parameters\":\x7b\"child_count\":6,\"window_ms\":1\x7d\x7d,\x7b\"id\":\"PROC-005\",",
    "\"name\":\"n\",\"category\":\"process\",\"severity\":\"low\",\"parameters\":",
    "\x7b\"child_count\":6,\"max_lifetime_ms\":1,\"window_ms\":1\x7d\x7d]\x7d"]

def sampleDocument (prefixes : Text) : Text :=
  documentHead.flatMap String.toList ++ prefixes ++ documentTail.flatMap String.toList

/-- What the loader returns for the document with the path prefixes. -/
def sampleLoad (prefixes : Text) : Except Text RuleSet :=
  loadText sampleMachine.undefined (sampleDocument prefixes) []

/-- A literal is the string of its characters: its text does not have to be decoded. -/
lemma flatMap_literal (c : List Char) (lines : List String) :
    (ofList c :: lines).flatMap toList = c ++ lines.flatMap toList := by
  rw [flatMap_cons, toList_ofList]

lemma both_loaded {α : Type} {x y : Except Text RuleSet} {f : RuleSet → RuleSet → α} {v : α}
    (h : (x.toOption.bind fun r => y.toOption.map fun r' => f r r') = some v) :
    ∃ r r', x = .ok r ∧ y = .ok r' ∧ f r r' = v := by
  cases x with
  | error e => cases h
  | ok r =>
    cases y with
    | error e => cases h
    | ok r' => exact ⟨r, r', rfl, rfl, Option.some.inj h⟩

/-- A document with separators in a path, loaded twice. -/
theorem canonical_text_determines_rules_sample :
    ∃ r, sampleLoad ['"', 'a', '|', ';', ',', '"'] = .ok r ∧ ¬ RulesConfused r r := by
  have hload : (sampleLoad ['"', 'a', '|', ';', ',', '"']).toOption.isSome = true := by
    unfold sampleLoad sampleDocument documentHead documentTail
    repeat rw [flatMap_literal]
    decide +kernel
  cases hr : sampleLoad ['"', 'a', '|', ';', ',', '"'] with
  | error e =>
    rw [hr] at hload
    cases hload
  | ok r =>
    exact ⟨r, rfl, (canonical_text_determines_rules sampleMachine hr hr).mp
      ⟨fun _ => ⟨rfl, rfl, rfl, rfl⟩, fun _ _ => ⟨rfl, fun _ _ _ => rfl, fun _ _ _ => rfl⟩⟩⟩

/-- A list of one path with a semicolon and a list of two paths have the same canonical text. -/
theorem canonical_text_of_split_path :
    ∃ r r', sampleLoad ['"', 'a', ';', 'b', '"'] = .ok r ∧
      sampleLoad ['"', 'a', '"', ',', '"', 'b', '"'] = .ok r' ∧
      ruleSetCanonical r = ruleSetCanonical r' ∧
      r.definitions.map untitled ≠ r'.definitions.map untitled := by
  have hloads : ((sampleLoad ['"', 'a', ';', 'b', '"']).toOption.bind fun r =>
      (sampleLoad ['"', 'a', '"', ',', '"', 'b', '"']).toOption.map fun r' =>
        decide (ruleSetCanonical r = ruleSetCanonical r' ∧
          r.definitions.map untitled ≠ r'.definitions.map untitled)) = some true := by
    unfold sampleLoad sampleDocument documentHead documentTail
    repeat rw [flatMap_literal]
    decide +kernel
  obtain ⟨r, r', hr, hr', h⟩ := both_loaded hloads
  exact ⟨r, r', hr, hr', of_decide_eq_true h⟩

end NetaAgent.Verdict
