import NetaAgent.Search

/-!
Upgrade instructions: the texts they are made of, when they are valid for an agent, and when
two of them are the same.
-/

namespace NetaAgent.Upgrade

open Decimal Search List

/-! ### Texts -/

variable (i : UpgradeInstruction) (c : Char) (t : Text) (build : BuildIdentity) (value : Text)

def lower : Text := t.map Char.toLower

def trim : Text := ((t.dropWhile isSpace).reverse.dropWhile isSpace).reverse

def isHex (size : ℕ) : Bool := value.length = size && value.all isHexDigit

def looksLikeUuid : Bool :=
  value.length = 36 && value.zipIdx.all fun (c, i) =>
    if i = 8 ∨ i = 13 ∨ i = 18 ∨ i = 23 then c = '-' else isHexDigit c

def sha256Invalid : Text := "upgrade artifact SHA-256 is invalid"

def normalizeSha256 : Except Text Text :=
  let value := lower (trim value)
  let value := if "sha256:" <+: value then value.drop 7 else value
  if isHex value 64 then .ok value else .error sha256Invalid

/-! ### URLs -/

structure ParsedHttpsUrl where
  host : Text
  port : Text
  path : Text
  deriving DecidableEq

def isTrustedGithubHost (host : Text) : Bool :=
  let normalized := lower host
  let domain : Text := ".githubusercontent.com"
  normalized = "github.com" || (domain.length < normalized.length && domain <:+ normalized)

/-- What is before and after the last occurrence of a character. -/
def splitLast : Option (Text × Text) :=
  if c ∈ t then
    some ((t.reverse.dropWhile (· ≠ c)).tail.reverse, (t.reverse.takeWhile (· ≠ c)).reverse)
  else none

def parseTrustedHttpsUrl (url : Text) : Except Text ParsedHttpsUrl :=
  let scheme : Text := "https://"
  if ¬ scheme <+: url then .error "upgrade artifact URL must use https://"
  else if '#' ∈ url then .error "upgrade artifact URL must not contain a fragment"
  else
    let rest := url.drop scheme.length
    let authority := rest.takeWhile (· ≠ '/')
    let tail := rest.dropWhile (· ≠ '/')
    if authority = [] ∨ '@' ∈ authority then
      .error "upgrade artifact URL authority is invalid"
    else
      let (host, port) := (splitLast ':' authority).getD (authority, "443")
      let host := lower host
      if host = [] ∨ port ≠ "443" ∨ ¬ isTrustedGithubHost host then
        .error "upgrade artifact URL must use trusted GitHub HTTPS hosting on port 443"
      else .ok ⟨host, port, if tail = [] then ['/'] else tail⟩

def validateArtifactName (name : Text) : Except Text Unit :=
  if name = [] ∨ name = "." ∨ name = ".." ∨ '/' ∈ name ∨ '\\' ∈ name ∨ '\x00' ∈ name then
    .error "upgrade artifact name must be a single safe file name"
  else .ok ()

/-! ### Instructions -/

/-- The members of a `BuildIdentity` that an instruction is compared with. -/
structure BuildIdentity where
  version : Text
  buildId : Text
  gitCommit : Text
  os : Text
  arch : Text
  artifactSha256 : Text

structure UpgradeInstruction where
  upgradeId : Text
  version : Text
  buildId : Text
  gitCommit : Text
  os : Text
  arch : Text
  artifactName : Text
  downloadUrl : Text
  sha256 : Text
  deriving DecidableEq

def validateUpgradeInstruction : Except Text Unit := do
  if ¬ looksLikeUuid i.upgradeId then .error "upgrade_id is not a UUID"
  else if i.version = [] ∨ i.buildId = [] then
    .error "upgrade target version/build_id is missing"
  else if ¬ isHex (lower i.gitCommit) 40 then
    .error "upgrade target git_commit must be a full commit SHA"
  else if lower i.os ≠ lower build.os ∨ lower i.arch ≠ lower build.arch then
    .error "upgrade target platform does not match this agent"
  else
    validateArtifactName i.artifactName
    let _ ← parseTrustedHttpsUrl i.downloadUrl
    let hash ← normalizeSha256 i.sha256
    let sameBuild := i.version = build.version ∧ i.buildId = build.buildId ∧
      lower i.gitCommit = lower build.gitCommit
    let sameArtifact ← if build.artifactSha256 = [] then pure false
      else (normalizeSha256 build.artifactSha256).map (hash == ·)
    if sameBuild ∧ (build.artifactSha256 = [] ∨ sameArtifact) then
      .error "upgrade target is already the running build"
    else .ok ()

def sameInstruction (a b : UpgradeInstruction) : Except Text Bool :=
  if a.upgradeId = b.upgradeId ∧ a.version = b.version ∧ a.buildId = b.buildId ∧
      lower a.gitCommit = lower b.gitCommit ∧ lower a.os = lower b.os ∧ lower a.arch = lower b.arch ∧
      a.artifactName = b.artifactName ∧ a.downloadUrl = b.downloadUrl then do
    let hash ← normalizeSha256 a.sha256
    let hash' ← normalizeSha256 b.sha256
    return hash = hash'
  else .ok false

def instructionMatchesBuild : Except Text Bool :=
  if i.version ≠ build.version ∨ i.buildId ≠ build.buildId ∨
      lower i.gitCommit ≠ lower build.gitCommit ∨ lower i.os ≠ lower build.os ∨
      lower i.arch ≠ lower build.arch then .ok false
  else if build.artifactSha256 = [] then .ok true
  else do
    let hash ← normalizeSha256 i.sha256
    let hash' ← normalizeSha256 build.artifactSha256
    return hash = hash'

/-- The two instructions have the same target: they differ at most in the letter case of the
commit, the operating system and the architecture, and in how the hash is written. -/
structure SameTarget (a b : UpgradeInstruction) : Prop where
  upgradeId : a.upgradeId = b.upgradeId
  version : a.version = b.version
  buildId : a.buildId = b.buildId
  gitCommit : lower a.gitCommit = lower b.gitCommit
  os : lower a.os = lower b.os
  arch : lower a.arch = lower b.arch
  artifactName : a.artifactName = b.artifactName
  downloadUrl : a.downloadUrl = b.downloadUrl
  sha256 : ∃ hash, normalizeSha256 a.sha256 = .ok hash ∧ normalizeSha256 b.sha256 = .ok hash

lemma sameInstruction_true {a b : UpgradeInstruction} (h : sameInstruction a b = .ok true) :
    SameTarget a b := by
  unfold sameInstruction at h
  split_ifs at h with hfields
  case neg => cases h
  obtain ⟨h1, h2, h3, h4, h5, h6, h7, h8⟩ := hfields
  refine ⟨h1, h2, h3, h4, h5, h6, h7, h8, ?_⟩
  cases ha : normalizeSha256 a.sha256 with
  | error e => simp [ha, bind, Except.bind] at h
  | ok hash =>
    cases hb : normalizeSha256 b.sha256 with
    | error e => simp [ha, hb, bind, Except.bind] at h
    | ok hash' =>
      simp only [ha, hb, bind, Except.bind, pure, Except.pure, Except.ok.injEq,
        decide_eq_true_eq] at h
      exact ⟨hash, rfl, by rw [h]⟩

/-! ### Hashes that normalize -/

lemma isHexDigit_toLower {c : Char} (h : isHexDigit c = true) : isHexDigit c.toLower = true := by
  rcases toLower_cases c with hc | hc
  · rwa [hc]
  · rw [isHexDigit_iff] at h ⊢
    omega

lemma isSpace_of_isHexDigit {c : Char} (h : isHexDigit c = true) : isSpace c = false := by
  by_contra hs
  have hs : isSpace c = true := by simpa using hs
  simp only [isSpace, Bool.or_eq_true, beq_iff_eq] at hs
  rcases hs with ((((rfl | rfl) | rfl) | rfl) | rfl) | rfl <;> revert h <;> decide

variable {t v hash uuid : Text}

lemma trim_of_not_isSpace (h : ∀ c ∈ t, isSpace c = false) : trim t = t := by
  have hdrop {u : Text} (hu : ∀ c ∈ u, isSpace c = false) : u.dropWhile isSpace = u := by
    cases u with
    | nil => rfl
    | cons c u => simp [hu c mem_cons_self]
  rw [trim, hdrop h, hdrop fun c hc => h c (mem_reverse.mp hc), reverse_reverse]

lemma isHex_of_normalizeSha256 (h : normalizeSha256 v = .ok hash) : isHex hash 64 = true := by
  simp only [normalizeSha256] at h
  split_ifs at h with hp hh hh
  · cases h; exact hh
  · cases h; exact hh

/-- 64 hexadecimal digits normalize, so what has been normalized normalizes again. -/
lemma normalizeSha256_of_isHex (h : isHex v 64 = true) : ∃ hash, normalizeSha256 v = .ok hash := by
  simp only [isHex, Bool.and_eq_true, decide_eq_true_eq, all_eq_true] at h
  obtain ⟨hlen, hall⟩ := h
  have htrim : trim v = v := trim_of_not_isSpace fun c hc => isSpace_of_isHexDigit (hall c hc)
  have hlower : ∀ c ∈ lower v, isHexDigit c = true := fun c hc => by
    obtain ⟨c', hc', rfl⟩ := mem_map.mp hc
    exact isHexDigit_toLower (hall c' hc')
  have hplain : ¬ "sha256:" <+: lower v := fun hp =>
    absurd (hlower 's' (hp.subset (by decide))) (by decide)
  have hhex : isHex (lower v) 64 = true := by
    simp only [isHex, Bool.and_eq_true, decide_eq_true_eq, all_eq_true]
    exact ⟨by rw [lower, length_map, hlen], hlower⟩
  exact ⟨lower v, by simp only [normalizeSha256, htrim, if_neg hplain, if_pos hhex]⟩

/-- The build's hash is missing or normalizes, so that comparing with it does not throw. -/
def BuildIdentity.Comparable : Prop :=
  build.artifactSha256 = [] ∨ ∃ hash, normalizeSha256 build.artifactSha256 = .ok hash

variable {build : BuildIdentity}

lemma instructionMatchesBuild_total {i : UpgradeInstruction}
    (hi : normalizeSha256 i.sha256 = .ok hash) (hb : build.Comparable) :
    ∃ v, instructionMatchesBuild i build = .ok v := by
  unfold instructionMatchesBuild
  split_ifs with hfields hnone
  · exact ⟨false, rfl⟩
  · exact ⟨true, rfl⟩
  · obtain ⟨hash', hb⟩ := hb.resolve_left hnone
    exact ⟨decide (hash = hash'), by rw [hi, hb]; rfl⟩

lemma normalizes_of_validateUpgradeInstruction {i : UpgradeInstruction}
    (h : validateUpgradeInstruction i build = .ok ()) :
    ∃ hash, normalizeSha256 i.sha256 = .ok hash := by
  unfold validateUpgradeInstruction at h
  split_ifs at h with h1 h2 h3 h4 h5
  all_goals
    obtain ⟨_, -, h⟩ := bind_eq_ok h
    obtain ⟨_, -, h⟩ := bind_eq_ok h
    obtain ⟨hash, hhash, -⟩ := bind_eq_ok h
    exact ⟨hash, hhash⟩

/-- An instruction for another version than the build's. -/
def otherInstruction (uuid : Text) (build : BuildIdentity) : UpgradeInstruction :=
  ⟨uuid, 'v' :: build.version, "b", List.replicate 40 'a', build.os, build.arch,
    "a", "https://github.com/a", List.replicate 64 '0'⟩

lemma validate_otherInstruction (hu : looksLikeUuid uuid = true) (hb : build.Comparable) :
    validateUpgradeInstruction (otherInstruction uuid build) build = .ok () := by
  have hcommit : isHex (lower (replicate 40 'a')) 40 = true := by decide
  have hname : validateArtifactName "a".toList = .ok () := by decide
  have hurl : parseTrustedHttpsUrl "https://github.com/a".toList =
      .ok ⟨"github.com".toList, "443".toList, "/a".toList⟩ := by decide +kernel
  have hsha : normalizeSha256 (replicate 64 '0') = .ok (replicate 64 '0') := by
    decide +kernel
  have hother : 'v' :: build.version ≠ build.version := cons_ne_self _ _
  have hpresent : ¬ ('v' :: build.version = [] ∨ "b".toList = []) := by
    rintro (h | h) <;> cases h
  have hplatform : ¬ (lower build.os ≠ lower build.os ∨ lower build.arch ≠ lower build.arch) :=
    not_or.mpr ⟨not_not.mpr rfl, not_not.mpr rfl⟩
  simp only [validateUpgradeInstruction, otherInstruction, hu, hpresent, hcommit, hplatform, hname,
    hurl, hsha, bind, Except.bind, hother, false_and, not_true_eq_false, if_false]
  split_ifs with hnone
  · rfl
  · obtain ⟨hash, hb⟩ := hb.resolve_left hnone
    rw [hb]
    rfl

/-- For every build and identifier there is a valid instruction with another identifier. -/
lemma exists_valid_instruction (hb : build.Comparable) (id : Text) :
    ∃ i : UpgradeInstruction, i.upgradeId ≠ id ∧ validateUpgradeInstruction i build = .ok () := by
  let first := "00000000-0000-0000-0000-000000000001".toList
  let second := "00000000-0000-0000-0000-000000000002".toList
  have hfirst : looksLikeUuid first = true := by decide
  have hsecond : looksLikeUuid second = true := by decide
  have hne : first ≠ second := by decide
  by_cases hid : id = first
  · exact ⟨otherInstruction second build, fun h => hne (hid.symm.trans h.symm),
      validate_otherInstruction hsecond hb⟩
  · exact ⟨otherInstruction first build, fun h => hid h.symm, validate_otherInstruction hfirst hb⟩

end NetaAgent.Upgrade
