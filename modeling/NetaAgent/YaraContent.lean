import NetaAgent.Separated
import NetaAgent.UpgradeActivation

/-!
The centrally managed YARA content: an envelope from the coordinator is checked and becomes two
files, the content and its metadata. What an accepted envelope becomes is accepted again when the
files are read.
-/

namespace NetaAgent.YaraContent

open Decimal Crypto Search Upgrade List

/-! ### Headers -/

structure Headers where
  bundleId : Text := []
  revision : ℕ := 0
  sha256 : Text := []
  deriving DecidableEq

/-- One line of the headers: a key and a value around the first colon. -/
def readHeader (h : Headers) (line : Text) : Except Text Headers :=
  if ':' ∉ line then .ok h
  else
    let key := line.takeWhile (· ≠ ':')
    let value := (line.dropWhile (· ≠ ':')).drop 1
    if key = "bundle-id" then .ok { h with bundleId := value }
    else if key = "revision" then
      match stoull value with
      | .ok n => .ok { h with revision := n }
      | .error _ => .error "stoull"
    else if key = "sha256" then .ok { h with sha256 := lower value }
    else .ok h

-- An empty line has no colon, so it does not matter that `getline` gives none at the end.
def readHeaders (t : Text) : Except Text Headers := (lines t).foldlM readHeader {}

/-! ### The envelope and the metadata -/

structure ParsedYaraContent extends Headers where
  content : Text
  deriving DecidableEq

def magic : Text := "NETA-YARAX-CONTENT/1\n"

def parseYaraxContent (sha : Sha256) (envelope : Text) : Except Text ParsedYaraContent :=
  if ¬ magic <+: envelope then .error "invalid central YARA content envelope"
  else
    let rest := envelope.drop magic.length
    match find "\n\n" rest with
    | none => .error "central YARA content envelope has no content separator"
    | some split => do
      let h ← readHeaders (rest.take split)
      let content := rest.drop (split + 2)
      if h.bundleId = [] ∨ h.revision = 0 ∨ ¬ isHex h.sha256 64 then
        .error "central YARA content metadata is incomplete or invalid"
      else if sha256Hex sha content ≠ h.sha256 then
        .error "central YARA content SHA-256 mismatch"
      else .ok { h with content := content }

def yaraxMeta (p : ParsedYaraContent) : Text :=
  "bundle-id:" ++ p.bundleId ++ "\nrevision:" ++ decimal p.revision ++
    "\nsha256:" ++ p.sha256 ++ "\n"

structure ParsedYaraContent.WellFormed (sha : Sha256) (p : ParsedYaraContent) : Prop where
  bundleId : p.bundleId ≠ []
  singleLine : '\n' ∉ p.bundleId
  revision_pos : p.revision ≠ 0
  revision_lt : p.revision < twoPow64
  sha256 : sha256Hex sha p.content = p.sha256

structure Headers.Legible (h : Headers) : Prop where
  singleLine : '\n' ∉ h.bundleId
  revision_lt : h.revision < twoPow64

lemma legible_readHeader {h h' : Headers} {line : Text} (hh : h.Legible) (hline : '\n' ∉ line)
    (hr : readHeader h line = .ok h') : h'.Legible := by
  have hvalue : '\n' ∉ (line.dropWhile (· ≠ ':')).drop 1 := fun hmem =>
    hline ((dropWhile_suffix _).subset ((drop_suffix _ _).subset hmem))
  simp only [readHeader] at hr
  split at hr
  · cases hr
    exact hh
  · split at hr
    · cases hr
      exact ⟨hvalue, hh.revision_lt⟩
    · split at hr
      · cases hn : stoull ((line.dropWhile (· ≠ ':')).drop 1) with
        | error e =>
          rw [hn] at hr
          cases hr
        | ok n =>
          rw [hn] at hr
          cases hr
          exact ⟨hh.singleLine, stoull_lt hn⟩
      · split at hr
        · cases hr
          exact ⟨hh.singleLine, hh.revision_lt⟩
        · cases hr
          exact hh

lemma legible_readHeaders {t : Text} {h : Headers} (hr : readHeaders t = .ok h) : h.Legible := by
  have hfold : ∀ (ls : List Text) (h₀ : Headers), (∀ l ∈ ls, '\n' ∉ l) → h₀.Legible →
      ls.foldlM readHeader h₀ = .ok h → h.Legible := by
    intro ls
    induction ls with
    | nil =>
      intro h₀ _ hh hr
      cases hr
      exact hh
    | cons l ls ih =>
      intro h₀ hls hh hr
      rw [forall_mem_cons] at hls
      rw [foldlM_cons] at hr
      obtain ⟨h₁, hl, hr⟩ := bind_eq_ok hr
      exact ih h₁ hls.2 (legible_readHeader hh hls.1 hl) hr
  exact hfold (lines t) {} (fun l hl => Separated.not_mem_of_mem_splitOn hl)
    ⟨not_mem_nil, by decide⟩ hr

variable {p : ParsedYaraContent} {sha : Sha256}

lemma parseYaraxContent_ok {envelope : Text}
    (h : parseYaraxContent sha envelope = .ok p) : p.WellFormed sha := by
  simp only [parseYaraxContent] at h
  split at h
  · cases h
  · split at h
    · cases h
    · obtain ⟨headers, hheaders, h⟩ := bind_eq_ok h
      split at h
      · cases h
      · next hcomplete =>
        split at h
        · cases h
        · next hsha =>
          cases h
          simp only [not_or, ne_eq, not_not] at hcomplete hsha
          have hlegible := legible_readHeaders hheaders
          exact ⟨hcomplete.1, hlegible.singleLine, hcomplete.2.1, hlegible.revision_lt, hsha⟩

/-- `active.yar` and `active.meta`. -/
inductive YaraFile where
  | content
  | metadata
  deriving DecidableEq

/-- The path is empty when no content is managed centrally. -/
structure YaraXContentState where
  path : Option YaraFile := none
  bundleId : Text := []
  revision : ℕ := 0
  sha256 : Text := []
  centrallyManaged : Bool := false

def yaraxStateFromMeta (sha : Sha256) (files : YaraFile → Option Text) (metadata : Text) :
    Except Text YaraXContentState := do
  let h ← readHeaders metadata
  if h.bundleId = [] ∨ h.revision = 0 ∨ h.sha256.length ≠ 64 then
    .error "invalid active YARA content metadata"
  else
    match files .content with
    | none => .error "active YARA content file is missing"
    | some content =>
      if sha256Hex sha content ≠ h.sha256 then
        .error "active YARA content SHA-256 mismatch"
      else .ok ⟨some .content, h.bundleId, h.revision, h.sha256, true⟩

def activeYaraxContentState (sha : Sha256) (files : YaraFile → Option Text) :
    Except Text YaraXContentState :=
  match files .metadata with
  | none => .ok {}
  | some metadata => yaraxStateFromMeta sha files metadata

/-! ### The new pair is accepted -/

lemma readHeader_append (h : Headers) {key : Text} (value : Text) (hkey : ':' ∉ key) :
    readHeader h (key ++ ':' :: value) = if key = "bundle-id" then .ok { h with bundleId := value }
      else if key = "revision" then
        match stoull value with
        | .ok n => .ok { h with revision := n }
        | .error _ => .error "stoull"
      else if key = "sha256" then .ok { h with sha256 := lower value }
      else .ok h := by
  have hall : ∀ c ∈ key, decide (c ≠ ':') = true := fun c hc =>
    decide_eq_true fun heq => hkey (heq ▸ hc)
  have htake : (key ++ ':' :: value).takeWhile (· ≠ ':') = key := by
    rw [takeWhile_append_of_pos hall]
    simp
  have hdrop : (key ++ ':' :: value).dropWhile (· ≠ ':') = ':' :: value := by
    rw [dropWhile_append_of_pos hall]
    simp
  have hcolon : ¬ ':' ∉ key ++ ':' :: value := by simp
  simp only [readHeader, if_neg hcolon, htake, hdrop, drop_one, tail_cons]

lemma lines_three {k₁ k₂ k₃ a b c : Text} (h₁ : '\n' ∉ k₁) (h₂ : '\n' ∉ k₂) (h₃ : '\n' ∉ k₃)
    (ha : '\n' ∉ a) (hb : '\n' ∉ b) (hc : '\n' ∉ c) :
    lines (k₁ ++ [':'] ++ a ++ '\n' :: (k₂ ++ [':']) ++ b ++ '\n' :: (k₃ ++ [':']) ++ c ++ ['\n']) =
      [k₁ ++ ':' :: a, k₂ ++ ':' :: b, k₃ ++ ':' :: c, []] := by
  have hjoin : k₁ ++ [':'] ++ a ++ '\n' :: (k₂ ++ [':']) ++ b ++ '\n' :: (k₃ ++ [':']) ++ c ++ ['\n'] =
      intercalate ['\n'] [k₁ ++ ':' :: a, k₂ ++ ':' :: b, k₃ ++ ':' :: c, []] := by
    simp [intercalate]
  rw [lines, hjoin]
  refine splitOn_intercalate _ ?_ (cons_ne_nil _ _)
  simp [h₁, h₂, h₃, ha, hb, hc]

lemma headerKeys : "bundle-id:" = "bundle-id" ++ [':'] ∧
    "\nrevision:" = '\n' :: ("revision" ++ [':']) ∧
    "\nsha256:" = '\n' :: ("sha256" ++ [':']) ∧ "\n" = ['\n'] := by
  decide +kernel

lemma headers_eq (id revision sha : Text) :
    "bundle-id:" ++ id ++ "\nrevision:" ++ revision ++ "\nsha256:" ++ sha ++ "\n" =
      "bundle-id" ++ [':'] ++ id ++ '\n' :: ("revision" ++ [':']) ++ revision ++
        '\n' :: ("sha256" ++ [':']) ++ sha ++ ['\n'] := by
  rw [headerKeys.1, headerKeys.2.1, headerKeys.2.2.1, headerKeys.2.2.2]

lemma readHeaders_yaraxMeta (hp : p.WellFormed sha) :
    readHeaders (yaraxMeta p) = .ok p.toHeaders := by
  have hhex : ∀ c ∈ p.sha256, ∃ n < 16, c = Nat.digitChar n := fun c hc => by
    rw [← hp.sha256] at hc
    exact hex_of_mem_finalizeHex hc
  have hline : '\n' ∉ p.sha256 := fun hc => by
    obtain ⟨n, hn, heq⟩ := hhex _ hc
    exact digitChar_ne_newline n hn heq.symm
  have hlower : lower p.sha256 = p.sha256 := by
    refine (map_congr_left fun c hc => ?_).trans (map_id _)
    obtain ⟨n, hn, rfl⟩ := hhex c hc
    exact toLower_digitChar n hn
  have hdecimal : '\n' ∉ decimal p.revision := fun hc =>
    absurd (isDigit_of_mem_decimal hc) (by decide)
  have hlines : lines (yaraxMeta p) =
      ["bundle-id" ++ ':' :: p.bundleId, "revision" ++ ':' :: decimal p.revision,
        "sha256" ++ ':' :: p.sha256, []] := by
    have hmeta : yaraxMeta p = _ := headers_eq p.bundleId (decimal p.revision) p.sha256
    rw [hmeta]
    exact lines_three (by decide +kernel) (by decide +kernel) (by decide +kernel) hp.singleLine
      hdecimal hline
  have hrevision : stoull (decimal p.revision) = .ok p.revision := by
    have hread := stoull_decimal hp.revision_lt (takeWhile_nil (p := Char.isDigit))
    rwa [append_nil] at hread
  have hbundle : ∀ h, readHeader h ("bundle-id" ++ ':' :: p.bundleId) =
      .ok { h with bundleId := p.bundleId } := fun h => by
    rw [readHeader_append _ _ (by decide +kernel), if_pos rfl]
  have hrev : ∀ h, readHeader h ("revision" ++ ':' :: decimal p.revision) =
      .ok { h with revision := p.revision } := fun h => by
    rw [readHeader_append _ _ (by decide +kernel), if_neg (by decide +kernel), if_pos rfl,
      hrevision]
  have hsha : ∀ h, readHeader h ("sha256" ++ ':' :: p.sha256) =
      .ok { h with sha256 := p.sha256 } := fun h => by
    rw [readHeader_append _ _ (by decide +kernel), if_neg (by decide +kernel),
      if_neg (by decide +kernel), if_pos rfl, hlower]
  simp only [readHeaders, hlines, foldlM_cons, hbundle, hrev, hsha, foldlM_nil]
  rfl

def ParsedYaraContent.files (p : ParsedYaraContent) : YaraFile → Option Text
  | .content => some p.content
  | .metadata => some (yaraxMeta p)

lemma activeYaraxContentState_files
    (hp : p.WellFormed sha) : (activeYaraxContentState sha p.files).isOk := by
  have hlength : p.sha256.length = 64 := by
    rw [← hp.sha256]
    exact length_finalizeHex _
  have hcomplete : ¬ (p.bundleId = [] ∨ p.revision = 0 ∨ p.sha256.length ≠ 64) := by
    simp [hp.bundleId, hp.revision_pos, hlength]
  have hread : activeYaraxContentState sha p.files =
      .ok ⟨some .content, p.bundleId, p.revision, p.sha256, true⟩ := by
    simp only [activeYaraxContentState, ParsedYaraContent.files, yaraxStateFromMeta,
      readHeaders_yaraxMeta hp, bind, Except.bind, if_neg hcomplete, hp.sha256, ne_eq,
      not_true_eq_false, if_false]
  rw [hread]
  rfl

end NetaAgent.YaraContent
